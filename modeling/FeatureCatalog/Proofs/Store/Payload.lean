import FeatureCatalog.Proofs.Store.Apart
import FeatureCatalog.Proofs.Store.Fetch

/-! What a read of a project answers: the entities that are stored in it, as they are stored, and
their relations. A relation is shown only if both of its ends are in the project; since no relation
leads from one project to another, none that concerns the project is left out. -/

namespace FeatureCatalog

namespace Contents

variable {c : Contents} {project : EntityId}

/-- An entity is stored under the id, in the project. -/
def inProject (c : Contents) (project id : EntityId) : Bool :=
  (c.stored? id).any (·.project = project)

theorem contains_filter (c : Contents) (project id : EntityId) :
    (c.entities.filter fun _ stored => stored.project = project).contains id.text =
      c.inProject project id := by
  rw [Dict.contains, Dict.get?_filter, Option.isSome_filter]
  rfl

/-- The entities that are stored in a project, and the relations that mention one of them. -/
def payloadOf (c : Contents) (project : EntityId) : ProjectPayload where
  entities := (c.entities.filter fun _ stored => stored.project = project).mapValues (·.entity)
  relations := c.relations.filter fun r =>
    c.inProject project r.source || c.inProject project r.target

theorem get?_payloadOf {k : String} {e : Entity} :
    (c.payloadOf project).entities.get? k = some e ↔
      ∃ stored, c.stored? ⟨k⟩ = some stored ∧ stored.project = project ∧ stored.entity = e := by
  rw [← Dict.mem_entries]
  exact mem_payload

/-- Both ends of a relation are in the project, or neither is. -/
theorem Sound.inProject_source (hc : c.Sound) {r : Relation} (h : r ∈ c.relations)
    (project : EntityId) : c.inProject project r.source = c.inProject project r.target := by
  obtain ⟨a, b, ha, hb, hproject⟩ := hc.ends_of_mem h
  unfold inProject
  rw [ha, hb, Option.any_some, Option.any_some, hproject]

/-- Where relations stay in their projects, those with both ends in a project are those with one end
there. -/
theorem Sound.payload_eq (hc : c.Sound) {name : String} (h : c.IsProject project name) :
    c.payload name = .ok (c.payloadOf project) := by
  have hrelations : (c.relations.filter fun r =>
        c.inProject project r.source && c.inProject project r.target) =
      (c.payloadOf project).relations := by
    apply List.filter_congr
    intro r hr
    rw [hc.inProject_source hr project, Bool.and_self, Bool.or_self]
  simp only [payload, h.projectNamed? hc, contains_filter, hrelations]
  rfl

end Contents

namespace Store

variable {entropy : Entropy} {s : Store} {headers : Headers} {id : EntityId} {name : String}

/-- A read of a project answers with exactly what is stored in it. The answer is read as a payload
that holds the entities of the project by their ids, with type and attributes, among them the
project itself, and all relations that mention one of them, in the order in which they are stored. -/
theorem Reachable.project_read_is_exact (h : Reachable entropy s)
    (hauthorized : s.isAuthorized headers = true) (hproject : s.contents.IsProject id name) :
    ∃ answer payload, s.read ["projects", name] headers = .ok answer ∧
      ProjectPayload.decoder answer = .ok payload ∧
      (∀ k e, payload.entities.get? k = some e ↔
        ∃ stored, s.contents.stored? ⟨k⟩ = some stored ∧ stored.project = id ∧
          stored.entity = e) ∧
      (∀ k e, payload.entities.get? k = some e → e.guid = ⟨k⟩) ∧
      (∃ e, payload.entities.get? id.text = some e ∧ e.type = .project ∧ e.name? = some name) ∧
      payload.relations = s.contents.relations.filter fun r =>
        s.contents.inProject id r.source || s.contents.inProject id r.target := by
  have hs := h.sound
  have hread : s.read ["projects", name] headers = .ok (s.contents.payloadOf id).toJson := by
    simp only [read, hauthorized, if_true, hs.payload_eq hproject]
    rfl
  refine ⟨_, _, hread, ProjectPayload.decoder_toJson _, fun k e => Contents.get?_payloadOf, ?_, ?_,
    rfl⟩
  · intro k e he
    obtain ⟨stored, hstored, -, rfl⟩ := Contents.get?_payloadOf.1 he
    exact hs.guid hstored
  · obtain ⟨stored, hstored, htype, hname⟩ := hproject
    have hown : stored.project = id := (hs.project hstored htype).1
    exact ⟨stored.entity, Contents.get?_payloadOf.2 ⟨stored, hstored, hown, rfl⟩, htype, hname⟩

/-- Of two projects, one has a source and an anchor with all relations, and the other has nothing but
itself. -/
theorem joined_project_read_is_exact :
    ∃ first second payload payload', joined.read ["projects", "a"] [] = .ok first ∧
      joined.read ["projects", "a__b"] [] = .ok second ∧
      ProjectPayload.decoder first = .ok payload ∧ ProjectPayload.decoder second = .ok payload' ∧
      (∃ e, payload.entities.get? (EntityId.ofBits 3).text = some e ∧ e.type = .anchor) ∧
      payload.relations = joined.contents.relations ∧ payload.relations.length = 6 ∧
      payload'.entities.get? (EntityId.ofBits 3).text = none ∧ payload'.relations = [] := by
  have hchecks : joined.contents.projectNamed? "a" = some (.ofBits 0) ∧
      joined.contents.projectNamed? "a__b" = some (.ofBits 1) ∧
      (joined.contents.stored? (.ofBits 3)).any (fun stored =>
        stored.project = .ofBits 0 && stored.entity.type = .anchor) = true ∧
      (joined.contents.payloadOf (.ofBits 0)).relations = joined.contents.relations ∧
      joined.contents.relations.length = 6 ∧
      (joined.contents.payloadOf (.ofBits 1)).relations = [] ∧
      EntityId.ofBits 0 ≠ EntityId.ofBits 1 := by
    decide +kernel
  obtain ⟨hfirst, hsecond, hanchor, hall, hlength, hnone, hne⟩ := hchecks
  have hauthorized : joined.isAuthorized [] = true := rfl
  obtain ⟨anchor, hstored, hanchor⟩ := (Option.any_eq_true _ _).1 hanchor
  obtain ⟨hproject, htype⟩ : anchor.project = .ofBits 0 ∧ anchor.entity.type = .anchor := by
    simpa using hanchor
  obtain ⟨first, payload, hread, hdecoded, hentities, -, -, hrelations⟩ :=
    Reachable.project_read_is_exact reachable_joined hauthorized
      (Contents.exists_of_projectNamed? hfirst)
  obtain ⟨second, payload', hread', hdecoded', hentities', -, -, hrelations'⟩ :=
    Reachable.project_read_is_exact reachable_joined hauthorized
      (Contents.exists_of_projectNamed? hsecond)
  have hpayload : payload.relations = joined.contents.relations := hrelations.trans hall
  refine ⟨first, second, payload, payload', hread, hread', hdecoded, hdecoded', ?_, hpayload, ?_,
    ?_, hrelations'.trans hnone⟩
  · exact ⟨anchor.entity, (hentities _ _).2 ⟨anchor, hstored, hproject, rfl⟩, htype⟩
  · rw [hpayload, hlength]
  · refine Option.eq_none_iff_forall_ne_some.2 fun e he => ?_
    obtain ⟨stored, hstored', hother, -⟩ := (hentities' _ _).1 he
    obtain rfl := Option.some.inj (hstored.symm.trans hstored')
    exact hne (hproject.symm.trans hother)

end Store

end FeatureCatalog
