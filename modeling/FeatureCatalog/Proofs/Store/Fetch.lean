import FeatureCatalog.Client
import FeatureCatalog.Proofs.Entity
import FeatureCatalog.Proofs.Graph.Link
import FeatureCatalog.Proofs.Graph.Part
import FeatureCatalog.Store

/-! Fetching a project. Where every entity of a project of a sound registry is read as some part,
the project is read as a graph. -/

namespace FeatureCatalog

namespace Contents

variable {c : Contents} {part : EntityId → Part}

/-- Every entity of the project is read as the part that `part` gives for its id. -/
def Shows (c : Contents) (project : EntityId) (part : EntityId → Part) : Prop :=
  ∀ {id stored}, c.stored? id = some stored → stored.project = project →
    (part id).IsIn stored.entity

/-- The parts of a project. -/
def parts (c : Contents) (part : EntityId → Part) (project : EntityId) : Parts :=
  (c.entities.filter fun _ stored => stored.project = project).entries.map fun e =>
    (e.1, part ⟨e.1⟩)

theorem mem_parts {project : EntityId} {k : String} {p : Part} :
    (k, p) ∈ c.parts part project ↔
      ∃ stored, c.stored? ⟨k⟩ = some stored ∧ stored.project = project ∧ p = part ⟨k⟩ := by
  have hmem : ∀ stored, (k, stored) ∈
      (c.entities.filter fun _ stored => decide (stored.project = project)).entries ↔
      c.stored? ⟨k⟩ = some stored ∧ stored.project = project := by
    intro stored
    rw [Dict.mem_entries, Dict.get?_filter, Option.filter_eq_some_iff]
    simp [stored?]
  unfold parts
  rw [List.mem_map]
  constructor
  · rintro ⟨e, he, heq⟩
    obtain ⟨rfl, rfl⟩ := Prod.mk.inj heq
    obtain ⟨hstored, hproject⟩ := (hmem e.2).1 he
    exact ⟨e.2, hstored, hproject, rfl⟩
  · rintro ⟨stored, hstored, hproject, rfl⟩
    exact ⟨(k, stored), (hmem stored).2 ⟨hstored, hproject⟩, rfl⟩

theorem distinct_parts (c : Contents) (part : EntityId → Part) (project : EntityId) :
    (c.parts part project).Distinct := by
  rw [Parts.Distinct, parts, List.map_map]
  exact (c.entities.filter _).ordered.nodup_keys

/-- Every entity of the project agrees with the part that `part` gives for its id. -/
def Agrees (c : Contents) (project : EntityId) (part : EntityId → Part) : Prop :=
  ∀ {id stored}, c.stored? id = some stored → stored.project = project →
    (part id).AgreesWith stored.entity

theorem Shows.agrees {project : EntityId} (h : c.Shows project part) : c.Agrees project part :=
  fun hstored hproject => (h hstored hproject).agreesWith

theorem Agrees.lists {α : Type} {kind? : Part → Option α} {project : EntityId}
    (hagrees : c.Agrees project part) {id : EntityId} {type : EntityType}
    (h : c.Has project type id)
    (hkind : ∀ {p e}, p.AgreesWith e → e.type = type → (kind? p).isSome) :
    (c.parts part project).Lists kind? id := by
  obtain ⟨stored, hstored, hproject, htype⟩ := h
  obtain ⟨a, ha⟩ := Option.isSome_iff_exists.1 (hkind (hagrees hstored hproject) htype)
  exact ⟨a, Parts.mem_pick.2 ⟨part id, mem_parts.2 ⟨stored, hstored, hproject, rfl⟩, ha⟩⟩

theorem isSome_source? {p : Part} {e : Entity} (h : p.AgreesWith e) (htype : e.type = .source) :
    p.source?.isSome := by
  cases h with
  | source => rfl
  | project h | anchor h | feature h | derived h => exact absurd (htype.symm.trans h) (by decide)

theorem isSome_feature? {p : Part} {e : Entity} (h : p.AgreesWith e)
    (htype : e.type = .anchorFeature) : p.feature?.isSome := by
  cases h with
  | feature => rfl
  | project h | anchor h | source h | derived h => exact absurd (htype.symm.trans h) (by decide)

theorem isSome_derived? {p : Part} {e : Entity} (h : p.AgreesWith e)
    (htype : e.type = .derivedFeature) : p.derived?.isSome := by
  cases h with
  | derived => rfl
  | project h | anchor h | source h | feature h => exact absurd (htype.symm.trans h) (by decide)

theorem Sound.linked_anchor (hc : c.Sound) {id : EntityId} {stored : Stored}
    (hstored : c.stored? id = some stored) {r : Registration} {a : Anchor.Detached}
    (h : (Part.anchor r a).AgreesWith stored.entity) :
    c.Has stored.project .source a.source.id ∧
      ∀ f ∈ a.features.map EntityRef.id, c.Has stored.project .anchorFeature f := by
  have hlinked := hc.linked hstored
  unfold Linked at hlinked
  cases h with
  | anchor htype hsource hids =>
    rw [htype] at hlinked
    obtain ⟨⟨s, hs, hhas⟩, ids, hids', -, hall⟩ := hlinked
    exact ⟨hs.unique hsource ▸ hhas, fun f hf => hall f (hids'.unique hids ▸ hf)⟩

theorem Sound.linked_derived (hc : c.Sound) {id : EntityId} {stored : Stored}
    (hstored : c.stored? id = some stored) {d : DerivedFeature.Detached}
    (h : (Part.derived d).AgreesWith stored.entity) :
    (∀ f ∈ d.anchored, c.Has stored.project .anchorFeature f) ∧
      ∀ f ∈ d.derived, c.Has stored.project .derivedFeature f ∧ c.Consumes id f := by
  have hlinked := hc.linked hstored
  unfold Linked at hlinked
  cases h with
  | derived htype hanchored hderived =>
    rw [htype] at hlinked
    obtain ⟨⟨as, has, hasHas⟩, ds, hds, hdsHas⟩ := hlinked
    refine ⟨fun f hf => hasHas f (has.unique hanchored ▸ hf), fun f hf => ⟨?_, ?_⟩⟩
    · exact hdsHas f (hds.unique hderived ▸ hf)
    · refine ⟨stored, hstored, ?_⟩
      unfold Entity.Reads
      rw [htype]
      exact ⟨d.derived, .inr hderived, hf⟩

theorem linked_parts (hc : c.Sound) {project : EntityId} (hagrees : c.Agrees project part) :
    (c.parts part project).Linked := by
  have hmem : ∀ {k p}, (k, p) ∈ c.parts part project →
      ∃ stored, c.stored? ⟨k⟩ = some stored ∧ stored.project = project ∧
        p.AgreesWith stored.entity := by
    intro k p h
    obtain ⟨stored, hstored, hproject, rfl⟩ := mem_parts.1 h
    exact ⟨stored, hstored, hproject, hagrees hstored hproject⟩
  constructor
  · intro k r a h
    obtain ⟨stored, hstored, rfl, hin⟩ := hmem h
    exact hagrees.lists (hc.linked_anchor hstored hin).1 isSome_source?
  · intro k r a h f hf
    obtain ⟨stored, hstored, rfl, hin⟩ := hmem h
    exact hagrees.lists ((hc.linked_anchor hstored hin).2 f hf) isSome_feature?
  · intro k d h f hf
    obtain ⟨stored, hstored, rfl, hin⟩ := hmem h
    exact hagrees.lists ((hc.linked_derived hstored hin).1 f hf) isSome_feature?
  · intro k d h f hf
    obtain ⟨stored, hstored, rfl, hin⟩ := hmem h
    exact hagrees.lists ((hc.linked_derived hstored hin).2 f hf).1 isSome_derived?

/-- What is listed of a project is what is stored in it. -/
theorem mem_payload {project : EntityId} {k : String} {e : Entity} :
    (k, e) ∈ ((c.entities.filter fun _ stored => decide (stored.project = project)).mapValues
        (·.entity)).entries ↔
      ∃ stored, c.stored? ⟨k⟩ = some stored ∧ stored.project = project ∧ stored.entity = e := by
  rw [Dict.mem_entries, Dict.get?_mapValues, Dict.get?_filter]
  simp [Option.filter_eq_some_iff, stored?, and_assoc]

/-- The contents of a project are read as the graph of its parts, if the parts agree with them. -/
theorem Sound.ofPayload_of_agrees (hc : c.Sound) {project : EntityId}
    (hread : ∀ {id stored}, c.stored? id = some stored → stored.project = project →
      Part.ofEntity id.text stored.entity = .ok (part id))
    (hagrees : c.Agrees project part) {name : String}
    (hproject : c.projectNamed? name = some project) :
    ∃ payload, c.payload name = .ok payload ∧
      Graph.ofPayload payload = .ok (Graph.ofParts (c.parts part project) payload.relations) := by
  simp only [payload, hproject]
  refine ⟨_, rfl, Graph.ofPayload_eq_ok (fun k _ => part ⟨k⟩) ?_ ?_
    (linked_parts hc hagrees) ?_⟩
  · intro e he
    obtain ⟨stored, hstored, hin, heq⟩ := mem_payload.1 (show (e.1, e.2) ∈ _ from he)
    exact heq ▸ hread hstored hin
  · simp [parts, Dict.mapValues, List.map_map, Function.comp_def]
  · refine Subrelation.wf (fun {b a} h => ?_) hc.founded
    obtain ⟨d, hd, hb⟩ := h
    obtain ⟨stored, hstored, hin, heq⟩ := mem_parts.1 hd
    exact ((hc.linked_derived hstored (heq ▸ hagrees hstored hin)).2 b hb).2

/-- The contents of a project are read as the graph of its parts. -/
theorem Sound.ofPayload (hc : c.Sound) {project : EntityId} (hshow : c.Shows project part)
    {name : String} (hproject : c.projectNamed? name = some project) :
    ∃ payload, c.payload name = .ok payload ∧
      Graph.ofPayload payload = .ok (Graph.ofParts (c.parts part project) payload.relations) :=
  hc.ofPayload_of_agrees (fun {id _} hstored hin => (hshow hstored hin).ofEntity id.text)
    hshow.agrees hproject

end Contents

/-- A client that is let in reads a project as the graph of its parts. -/
theorem Client.fetchProject_eq_ok {entropy : Entropy} {client : Client Store} {s : Store}
    (hsession : client.session = Store.session entropy)
    (hauthorized : s.isAuthorized (client.headers s) = true) {part : EntityId → Part}
    (hsound : s.contents.Sound) {project : EntityId} (hshow : s.contents.Shows project part)
    {name : String} (hproject : s.contents.projectNamed? name = some project) :
    ∃ relations, client.fetchProject name s =
      (.ok (Graph.ofParts (s.contents.parts part project) relations), s) := by
  obtain ⟨payload, hpayload, hgraph⟩ := hsound.ofPayload hshow hproject
  refine ⟨payload.relations, ?_⟩
  have hread : client.session.read ["projects", name] (client.headers s) s =
      (.ok payload.toJson, s) := by
    rw [hsession]
    simp only [Store.session, Store.read, hauthorized, if_true, hpayload]
    rfl
  unfold Client.fetchProject Client.read
  rw [hread]
  simp only [bind, Except.bind, Graph.ofJson, ProjectPayload.decoder_toJson, inEntity, hgraph]

end FeatureCatalog
