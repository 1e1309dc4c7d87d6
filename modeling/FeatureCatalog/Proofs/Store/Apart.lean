import FeatureCatalog.Proofs.Store.Agree
import FeatureCatalog.Proofs.Store.Reachable

/-! Creations stay inside their project. An entity is looked up by a qualified name that an entity
of another project may have, but the name in its bag and the place of its owner tell the two apart;
and whatever a creation adds touches the new entity, or the list of the anchor that contains it.
Main statement: a call that creates something in a project answers with an entity of that project,
and what is read of every other project stays as it was. -/

namespace FeatureCatalog

namespace Definition.Fits

variable {c : Contents} {d : Definition}

theorem project_of_anchor (h : d.Fits c) {a : EntityId} (ha : d.anchor = some a) :
    ∃ stored, c.stored? a = some stored ∧ d.project = some stored.project := by
  cases h.placed with
  | project _ _ _ hnone => simp [hnone] at ha
  | owned howner _ _ hproject _ hanchor =>
    rw [hanchor] at ha
    split at ha
    · obtain rfl := Option.some.inj ha
      exact ⟨_, howner, hproject⟩
    · simp at ha

end Definition.Fits

namespace Contents

open Creation

variable {c : Contents} {d : Definition} {id q : EntityId}

/-! ### Relations of other entities -/

section Relations

variable {shown : Relation → Bool}
  (hid : ∀ r : Relation, r.source = id ∨ r.target = id → shown r = false)
include hid

theorem filter_relate {a b : EntityId} (hends : a = id ∨ b = id) (t : RelationshipType) :
    (c.relate a b t).relations.filter shown = c.relations.filter shown := by
  simp only [relate]
  split
  · rfl
  · simp [hid ⟨a, b, t⟩ hends]

theorem filter_consumeAll (inputs : List EntityId) :
    (inputs.foldl (fun c input => c.consume id input) c).relations.filter shown =
      c.relations.filter shown := by
  induction inputs generalizing c with
  | nil => rfl
  | cons input rest ih =>
    rw [List.foldl_cons, ih, consume, filter_relate hid (.inr rfl), filter_relate hid (.inl rfl)]

/-- All relations that come with a new entity are relations of that entity. -/
theorem filter_relations_add (d : Definition) :
    (c.add d id).relations.filter shown = c.relations.filter shown := by
  unfold add
  rw [filter_consumeAll hid]
  cases d.parent with
  | none => exact congrArg _ (relations_enlist _ _)
  | some parent =>
    dsimp only
    rw [contain, filter_relate hid (.inl rfl), filter_relate hid (.inr rfl)]
    exact congrArg _ (relations_enlist _ _)

end Relations

/-! ### Adding to another project -/

/-- A new entity changes nothing that is stored in a project other than its own. -/
theorem filter_entities_add (hf : d.Fits c) (hfresh : c.stored? id = none)
    (hproject : d.project = some q) {other : EntityId} (hne : other ≠ q) :
    ((c.add d id).entities.filter fun _ stored => stored.project = other) =
      c.entities.filter fun _ stored => stored.project = other := by
  refine Dict.ext_get? fun k => ?_
  rw [Dict.get?_filter, Dict.get?_filter]
  change ((c.add d id).stored? ⟨k⟩).filter _ = (c.stored? ⟨k⟩).filter _
  by_cases hk : ⟨k⟩ = id
  · rw [hk, stored?_add_self hf hfresh, hfresh]
    simp [Definition.stored, hproject, hne.symm]
  · rw [stored?_add_ne hf hfresh hk]
    split
    · -- The anchor on whose list the entity goes does change, but it is in `q`.
      rename_i hanchor
      obtain ⟨stored, hstored, hq⟩ := hf.project_of_anchor hanchor
      obtain rfl := Option.some.inj (hproject.symm.trans hq)
      simp [hstored, Stored.withFeature, Option.filter, hne.symm]
    · rfl

theorem projectNamed?_add (hc : c.Sound) (hf : d.Fits c) (hfresh : c.stored? id = none)
    (hname : c.find? d.qualifiedName = none) (htype : d.type ≠ .project) (name : String) :
    (c.add d id).projectNamed? name = c.projectNamed? name := by
  cases hfound : c.projectNamed? name with
  | some i =>
    have hproject : c.IsProject i name := exists_of_projectNamed? hfound
    exact (Stays.isProject (stays_add hf hfresh) hproject).projectNamed? (hc.add hf hfresh hname)
  | none =>
    refine Option.eq_none_iff_forall_ne_some.2 fun i hi => ?_
    obtain ⟨stored', hstored', htype', hname'⟩ := exists_of_projectNamed? hi
    obtain ⟨-, rfl⟩ | ⟨stored, -, hstored, hlike, -⟩ := add_cases hf hfresh hstored'
    · exact htype htype'
    · exact ne_of_projectNamed?_eq_none hfound hstored (hlike.type ▸ htype')
        (hlike.name?.symm.trans hname')

/-- What is read of a project stays as it is when an entity comes into another one. -/
theorem payload_add (hc : c.Sound) (hf : d.Fits c) (hfresh : c.stored? id = none)
    (hname : c.find? d.qualifiedName = none) (htype : d.type ≠ .project)
    (hproject : d.project = some q) {name : String} (hne : c.projectNamed? name ≠ some q) :
    (c.add d id).payload name = c.payload name := by
  unfold payload
  rw [projectNamed?_add hc hf hfresh hname htype]
  cases hfound : c.projectNamed? name with
  | none => rfl
  | some other =>
    have hother : other ≠ q := fun heq => hne (hfound.trans (congrArg some heq))
    simp only [filter_entities_add hf hfresh hproject hother]
    rw [filter_relations_add]
    -- A relation is read where both its ends are, and the new entity is not there.
    have habsent : (c.entities.filter fun _ stored => stored.project = other).contains id.text =
        false := by
      have hget : c.entities.get? id.text = none := hfresh
      simp [Dict.contains, Dict.get?_filter, hget]
    rintro r (rfl | rfl) <;> simp [habsent]

/-! ### Creations under a project -/

variable {entropy : Entropy} {n n' : Nat} {p : String} {rest : List String} {body : Bag}
  {c' : Contents}

theorem project_of_describes (h : Describes c body ("projects" :: p :: rest) d) :
    d.project = some ⟨p⟩ ∧ d.type ≠ .project := by
  cases h <;> exact ⟨rfl, by rintro ⟨⟩⟩

/-- An entity that is known belongs to the project of its definition, whatever other project its
qualified name would fit. -/
theorem Sound.project_of_knows (hc : c.Sound) (hf : d.Fits c) (htype : d.type ≠ .project)
    {e : Entity} (h : c.Knows d e) :
    ∃ stored, c.stored? e.guid = some stored ∧ d.project = some stored.project := by
  cases hf.placed with
  | project hproject => exact absurd hproject htype
  | owned howner _ _ hproject hparent =>
    -- The qualified name can be cut in several ways, but the name in the bag says where.
    obtain ⟨stored, hstored, -, hholds⟩ := hc.holds_of_knows hf h hparent
    obtain ⟨owner', stored', howner', hstored', -, -, hsame, -⟩ := hc.held hholds
    obtain rfl := Option.some.inj (howner.symm.trans howner')
    obtain rfl := Option.some.inj (hstored.symm.trans hstored')
    exact ⟨stored, hstored, hproject.trans (congrArg some hsame)⟩

/-- What a creation under a project answers with is stored in that project then. -/
theorem Creates.stored_in (hc : c.Sound) (hfresh : entropy.Fresh c n n')
    (h : c.Creates entropy n ("projects" :: p :: rest) body id c' n') :
    ∃ stored, c'.stored? id = some stored ∧ stored.project = ⟨p⟩ := by
  cases h with
  | found hfinds => simp [Finds] at hfinds
  | known hd hknows =>
    obtain ⟨hproject, htype⟩ := project_of_describes hd
    obtain ⟨stored, hstored, hsame⟩ := hc.project_of_knows (hc.fits hd) htype hknows
    exact ⟨stored, hstored, Option.some.inj (hsame.symm.trans hproject)⟩
  | added hd _ hbits =>
    have hunused := hfresh.next hbits
    refine ⟨_, stored?_add_self (hc.fits hd) hunused, ?_⟩
    rw [Definition.stored, (project_of_describes hd).1, Option.getD_some]

/-- A creation under a project leaves what is read of the others. -/
theorem Creates.payload (hc : c.Sound) (hfresh : entropy.Fresh c n n')
    (h : c.Creates entropy n ("projects" :: p :: rest) body id c' n') {name : String}
    (hne : c.projectNamed? name ≠ some ⟨p⟩) : c'.payload name = c.payload name := by
  cases h with
  | found => rfl
  | known => rfl
  | added hd hnone hbits =>
    obtain ⟨hproject, htype⟩ := project_of_describes hd
    have hunused := hfresh.next hbits
    exact payload_add hc (hc.fits hd) hunused hnone htype hproject hne

end Contents

namespace Store

variable {entropy : Entropy} {s s' : Store} {p : String} {rest : List String} {body : Json}
  {headers : Headers} {answer : Except TransportError CreatedEntity}

/-- In every registry that calls can lead to, a creation under a project that succeeds answers with
the id of an entity of that project, be it new or not; and whether it succeeds or not, what every
other project holds and what a call reads of it stay as they were. -/
theorem Reachable.creation_stays_in_project (h : Reachable entropy s)
    (hcreate : s.create entropy ("projects" :: p :: rest) body headers = (answer, s'))
    (hfresh : entropy.Fresh s.contents s.drawn s'.drawn) :
    (∀ entity, answer = .ok entity →
      ∃ stored, s'.contents.stored? entity.guid = some stored ∧ stored.project = ⟨p⟩) ∧
    ∀ name, s.contents.projectNamed? name ≠ some ⟨p⟩ →
      s'.contents.payload name = s.contents.payload name ∧
      ∀ headers', s'.read ["projects", name] headers' = s.read ["projects", name] headers' := by
  have hread : s.Keeps s' → ∀ {name}, s'.contents.payload name = s.contents.payload name →
      ∀ headers', s'.read ["projects", name] headers' = s.read ["projects", name] headers' := by
    intro hkeeps name hpayload headers'
    simp only [read, isAuthorized, hkeeps.token, hpayload]
  cases answer with
  | error cause =>
    obtain ⟨hcontents, -, hkeeps⟩ := create_error hcreate
    refine ⟨nofun, fun name _ => ?_⟩
    rw [hcontents]
    exact ⟨rfl, hread hkeeps (by rw [hcontents])⟩
  | ok entity =>
    obtain ⟨attributes, -, -, -, hcreates, hkeeps⟩ := create_ok h.sound hcreate
    constructor
    · rintro _ ⟨⟩
      exact hcreates.stored_in h.sound hfresh
    · intro name hne
      have hpayload := hcreates.payload h.sound hfresh hne
      exact ⟨hpayload, hread hkeeps hpayload⟩

/-- A registry with two projects, called `a` and `a__b`. The first has a source called `b__s`, whose
qualified name a source of the second called `s` would have, too, and an anchor. -/
def joined : Store :=
  let s := ((empty none).create .counting ["projects"] (.obj [("name", .str "a")]) []).2
  let s := (s.create .counting ["projects"] (.obj [("name", .str "a__b")]) []).2
  let s := (s.create .counting ["projects", (EntityId.ofBits 0).text, "datasources"]
    (.obj [("name", .str "b__s")]) []).2
  (s.create .counting ["projects", (EntityId.ofBits 0).text, "anchors"]
    (.obj [("name", .str "x"), ("sourceId", .str (EntityId.ofBits 2).text)]) []).2

theorem reachable_joined : Reachable .counting joined := by
  refine Reachable.create_counting (Reachable.create_counting (Reachable.create_counting
    (Reachable.create_counting (Reachable.empty none) 0 rfl ?_ rfl) 1 ?_ ?_ ?_) 2 ?_ ?_ ?_)
    3 ?_ ?_ ?_ <;> decide +kernel

/-- The answer to a second creation of that source, and the registry after it. -/
def joinedAgain : Except TransportError CreatedEntity × Store :=
  joined.create .counting ["projects", (EntityId.ofBits 0).text, "datasources"]
    (.obj [("name", .str "b__s")]) []

/-- The answer to the creation of a feature of that anchor, and the registry after it. -/
def joinedFeature : Except TransportError CreatedEntity × Store :=
  joined.create .counting
    ["projects", (EntityId.ofBits 0).text, "anchors", (EntityId.ofBits 3).text, "features"]
    (.obj [("name", .str "f")]) []

/-- The source of the first project is answered with, and the feature, which goes on the list of the
anchor, leaves the second project as it was. -/
theorem joined_creation_stays_in_project :
    joinedAgain.1.map CreatedEntity.guid = .ok (.ofBits 2) ∧
    (∃ stored, joinedAgain.2.contents.stored? (.ofBits 2) = some stored ∧
      stored.project = .ofBits 0) ∧
    joinedFeature.1.map CreatedEntity.guid = .ok (.ofBits 4) ∧
    joined.contents.projectNamed? "a__b" = some (.ofBits 1) ∧
    joinedFeature.2.contents.payload "a__b" = joined.contents.payload "a__b" := by
  have hchecks : joinedAgain.1.map CreatedEntity.guid = .ok (.ofBits 2) ∧
      joinedAgain.2.drawn ≤ joined.drawn + 1 ∧
      joinedFeature.1.map CreatedEntity.guid = .ok (.ofBits 4) ∧
      joinedFeature.2.drawn ≤ joined.drawn + 1 ∧
      joined.contents.projectNamed? "a__b" = some (.ofBits 1) ∧
      (joined.contents.stored? (.ofBits (.ofNat 128 joined.drawn))).isNone := by
    decide +kernel
  obtain ⟨hagain, hdrawn, hfeature, hdrawn', hother, hunused⟩ := hchecks
  have hnew : ∀ bits, Entropy.counting joined.drawn = .ok bits →
      joined.contents.stored? (.ofBits bits) = none := fun bits hbits =>
    Except.ok.inj hbits ▸ Option.isNone_iff_eq_none.1 hunused
  have hstays := Reachable.creation_stays_in_project reachable_joined
    (Prod.mk.eta (p := joinedAgain)).symm (Entropy.fresh_of_next hdrawn hnew)
  have hapart := Reachable.creation_stays_in_project reachable_joined
    (Prod.mk.eta (p := joinedFeature)).symm (Entropy.fresh_of_next hdrawn' hnew)
  refine ⟨hagain, ?_, hfeature, hother, (hapart.2 "a__b" (by rw [hother]; decide)).1⟩
  obtain ⟨entity, hentity, hguid⟩ := map_eq_ok.1 hagain
  exact hguid ▸ hstays.1 entity hentity

end Store

end FeatureCatalog
