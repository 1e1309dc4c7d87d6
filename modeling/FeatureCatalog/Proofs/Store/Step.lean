import FeatureCatalog.Proofs.Store.Creation
import FeatureCatalog.Proofs.Store.Removal
import FeatureCatalog.Store

/-! What one call does to a registry. A creation that succeeds finds its entity or adds it; one that
fails leaves the contents as they are; a deletion removes an entity that no other one needs. -/

namespace FeatureCatalog

/-- The ids made of the draws from `m` up to `n` are new: none of them is in use, and none of them
is drawn twice. -/
structure Entropy.Fresh (entropy : Entropy) (c : Contents) (m n : Nat) : Prop where
  unused : ∀ {i bits}, m ≤ i → i < n → entropy i = .ok bits → c.stored? (.ofBits bits) = none
  distinct : ∀ {i j a b}, m ≤ i → i < j → j < n → entropy i = .ok a → entropy j = .ok b →
    EntityId.ofBits a ≠ EntityId.ofBits b

theorem Entropy.Fresh.mono {entropy : Entropy} {c : Contents} {m n n' : Nat}
    (h : entropy.Fresh c m n') (hn : n ≤ n') : entropy.Fresh c m n where
  unused hi hin := h.unused hi (Nat.lt_of_lt_of_le hin hn)
  distinct hi hij hjn := h.distinct hi hij (Nat.lt_of_lt_of_le hjn hn)

/-- The id that is drawn next is not in use. -/
theorem Entropy.Fresh.next {entropy : Entropy} {c : Contents} {n : Nat} {bits : BitVec 128}
    (h : entropy.Fresh c n (n + 1)) (hbits : entropy n = .ok bits) :
    c.stored? (.ofBits bits) = none :=
  h.unused (Nat.le_refl n) (Nat.lt_succ_self n) hbits

/-- Entropy that counts. -/
def Entropy.counting : Entropy := fun n => .ok (.ofNat 128 n)

theorem Entropy.fresh_counting {n : Nat}
    (h : ∀ j < n, ∀ i < j, EntityId.ofBits (.ofNat 128 i) ≠ EntityId.ofBits (.ofNat 128 j)) :
    counting.Fresh .empty 0 n where
  unused _ _ _ := rfl
  distinct {i j _ _} _ hij hj ha hb := Except.ok.inj ha ▸ Except.ok.inj hb ▸ h j hj i hij

namespace Contents

open Creation

variable {c : Contents} {d : Definition}

/-- The entity that a definition describes is stored as `e`. -/
structure Knows (c : Contents) (d : Definition) (e : Entity) : Prop where
  found : c.find? d.qualifiedName = some e
  type : e.type = d.type
  same : e.attributes.sameDefinition d.attributes = true

theorem known?_cases {known : Option EntityId} (h : c.known? d = .ok known) :
    (known = none ∧ c.find? d.qualifiedName = none) ∨
      ∃ e, known = some e.guid ∧ c.Knows d e := by
  unfold known? at h
  split at h
  · rename_i hnone
    exact .inl ⟨(Except.ok.inj h).symm, hnone⟩
  · rename_i e he
    split at h
    · rename_i hsame
      exact .inr ⟨e, (Except.ok.inj h).symm, he, hsame.1, hsame.2⟩
    · simp at h

/-- An entity that is known has the owner that its definition gives it. -/
theorem Sound.holds_of_knows (hc : c.Sound) (hf : d.Fits c) {e : Entity} (h : c.Knows d e)
    {o : EntityId} (ho : d.parent = some o) :
    ∃ stored, c.stored? e.guid = some stored ∧ stored.entity = e ∧ c.Holds o e.guid := by
  obtain ⟨id, stored, hstored, rfl, hqn⟩ := exists_of_find? h.found
  obtain rfl := hc.guid hstored
  refine ⟨stored, hstored, rfl, ?_⟩
  cases hf.placed with
  | project _ _ hnone => simp [hnone] at ho
  | owned howner htype _ _ hparent _ hq hn hdqn =>
    obtain rfl := Option.some.inj (hparent.symm.trans ho)
    obtain ⟨i, hi⟩ := hc.owned hstored (h.type ▸ htype)
    have hname := (Bag.text?_of_sameDefinition h.same (by decide)).trans hn
    exact hc.owner_of_name hi hstored howner hq hname (hqn.trans (congrArg some hdqn)) ▸ hi

theorem Sound.enlist_of_knows (hc : c.Sound) (hf : d.Fits c) {e : Entity} (h : c.Knows d e) :
    c.enlist d.anchor e.guid = c := by
  cases hanchor : d.anchor with
  | none => rfl
  | some o =>
    have hfeature : d.type = .anchorFeature ∧ d.parent = some o := by
      cases hf.placed with
      | project _ _ _ hnone => simp [hnone] at hanchor
      | owned _ _ _ _ hparent hanchor' =>
        rw [hanchor'] at hanchor
        split at hanchor
        · rename_i htype
          exact ⟨htype, hparent.trans hanchor⟩
        · simp at hanchor
    obtain ⟨stored, hstored, rfl, hholds⟩ := hc.holds_of_knows hf h hfeature.2
    cases hholds with
    | member hstored' _ hne =>
      obtain rfl := Option.some.inj (hstored.symm.trans hstored')
      exact absurd (h.type.trans hfeature.1) hne
    | listed hlisted =>
      obtain ⟨owner, ids, howner, -, hids, hmem⟩ := hlisted
      have hentities : (c.enlist (some o) stored.entity.guid).entities = c.entities := by
        refine Dict.ext_get? fun k => ?_
        have := stored?_enlist (c := c) (some o) stored.entity.guid ⟨k⟩
        refine this.trans ?_
        split
        · rename_i heq
          rw [← Option.some.inj heq, howner, Option.map_some, Stored.withFeature,
            hids.withFeature_of_mem hmem]
          rw [Option.some.inj heq] at howner
          exact howner.symm
        · rfl
      have hrelations := relations_enlist (c := c) (some o) stored.entity.guid
      cases c
      cases hc' : enlist _ (some o) stored.entity.guid
      simp_all

/-- What a creation that succeeds leads to, where `n` counts the draws: an id, contents and a number
of draws. -/
inductive Creates (entropy : Entropy) (c : Contents) (n : Nat) (path : List String) (body : Bag) :
    EntityId → Contents → Nat → Prop
  | found {id} : Finds c body path id → Creates entropy c n path body id c n
  | known {d e} : Describes c body path d → c.Knows d e →
      Creates entropy c n path body e.guid c n
  | added {d bits} : Describes c body path d → c.find? d.qualifiedName = none →
      entropy n = .ok bits →
      Creates entropy c n path body (.ofBits bits) (c.add d (.ofBits bits)) (n + 1)

/-- A creation keeps the contents sound, if the id that it draws is not in use. -/
theorem Creates.sound {entropy : Entropy} {n n' : Nat} {path : List String} {body : Bag}
    {id : EntityId} {c' : Contents} (h : Creates entropy c n path body id c' n') (hc : c.Sound)
    (hfresh : entropy.Fresh c n n') : c'.Sound := by
  cases h with
  | found _ => exact hc
  | known _ _ => exact hc
  | added hd hnone hbits =>
    exact hc.add (hc.fits hd) (hfresh.next hbits) hnone

theorem stored?_empty (id : EntityId) : Contents.empty.stored? id = none := rfl

theorem not_holds_empty (o id : EntityId) : ¬Contents.empty.Holds o id := by
  rintro (⟨h, _, _⟩ | ⟨_, _, h, _⟩)
  · simp [stored?_empty] at h
  · simp [stored?_empty] at h

theorem not_consumes_empty (a b : EntityId) : ¬Contents.empty.Consumes a b := by
  rintro ⟨_, h, _⟩
  simp [stored?_empty] at h

theorem Sound.empty : Contents.empty.Sound where
  guid h := by simp [stored?_empty] at h
  project h := by simp [stored?_empty] at h
  held h := absurd h (not_holds_empty _ _)
  owned h := by simp [stored?_empty] at h
  unique h := by simp [stored?_empty] at h
  linked h := by simp [stored?_empty] at h
  founded := ⟨fun a => .intro a fun b h => absurd h (not_consumes_empty a b)⟩
  consumes {a b} := iff_of_false List.not_mem_nil (not_consumes_empty a b)
  contains {a b} := iff_of_false List.not_mem_nil (not_holds_empty a b)
  produces := iff_of_false List.not_mem_nil List.not_mem_nil
  belongsTo := iff_of_false List.not_mem_nil List.not_mem_nil
  nodup := List.nodup_nil

end Contents

namespace Store

variable {entropy : Entropy} {s s' : Store} {path : List String} {headers : Headers}

/-- No call changes the token and when creations are to fail. -/
structure Keeps (s s' : Store) : Prop where
  token : s'.token = s.token
  failAfter : s'.failAfter = s.failAfter

theorem succeed_ok {id : EntityId} {entity : CreatedEntity}
    (h : s.succeed id = (.ok entity, s')) :
    entity.guid = id ∧ s'.contents = s.contents ∧ s'.drawn = s.drawn ∧ s.Keeps s' := by
  obtain ⟨hanswer, rfl⟩ := Prod.mk.inj h
  exact ⟨(congrArg CreatedEntity.guid (Except.ok.inj hanswer)).symm, rfl, rfl, rfl, rfl⟩

theorem place_ok {body : Bag} {creation : Creation} {entity : CreatedEntity}
    (hs : s.contents.Sound) (hcall : Creation.ofCall s.contents path body = .ok creation)
    (h : s.place entropy creation = (.ok entity, s')) :
    s.contents.Creates entropy s.drawn path body entity.guid s'.contents s'.drawn ∧
      s.Keeps s' := by
  rcases Creation.ofCall_cases hcall with ⟨id, rfl, hfinds⟩ | ⟨d, rfl, hd⟩
  · obtain ⟨rfl, hcontents, hdrawn, hkeeps⟩ := succeed_ok h
    rw [hcontents, hdrawn]
    exact ⟨.found hfinds, hkeeps⟩
  · simp only [place] at h
    split at h
    · simp at h
    · rename_i id hknown
      obtain ⟨hnone, -⟩ | ⟨e, he, hknows⟩ := Contents.known?_cases hknown
      · simp at hnone
      · obtain rfl := Option.some.inj he
        rw [hs.enlist_of_knows (hs.fits hd) hknows] at h
        obtain ⟨hid, hcontents, hdrawn, hkeeps⟩ := succeed_ok h
        rw [hid, hcontents, hdrawn]
        exact ⟨.known hd hknows, hkeeps.token, hkeeps.failAfter⟩
    · rename_i hknown
      obtain ⟨-, hnone⟩ | ⟨e, he, -⟩ := Contents.known?_cases hknown
      · simp only [addNew] at h
        split at h
        · simp at h
        · rename_i bits hbits
          obtain ⟨hid, hcontents, hdrawn, hkeeps⟩ := succeed_ok h
          rw [hid, hcontents, hdrawn]
          exact ⟨.added hd hnone hbits, hkeeps.token, hkeeps.failAfter⟩
      · simp at he

/-- A creation that succeeds is one that the contents allow. -/
theorem ofCall_of_create {body : Bag} {entity : CreatedEntity}
    (h : s.create entropy path (.obj body) headers = (.ok entity, s')) :
    ∃ creation, Creation.ofCall s.contents path body = .ok creation := by
  simp only [create] at h
  split at h
  · split at h
    · simp at h
    · split at h
      · simp at h
      · rename_i creation hcreation
        exact ⟨creation, hcreation⟩
  · simp at h

/-- A creation that succeeds was authorised and not to be failed. -/
theorem create_ok {body : Json} {entity : CreatedEntity} (hs : s.contents.Sound)
    (h : s.create entropy path body headers = (.ok entity, s')) :
    ∃ attributes, body = .obj attributes ∧ s.isAuthorized headers = true ∧ s.isFailing = false ∧
      s.contents.Creates entropy s.drawn path attributes entity.guid s'.contents s'.drawn ∧
      s.Keeps s' := by
  simp only [create] at h
  split at h
  · rename_i hauth
    split at h
    · simp at h
    · rename_i hfailing
      split at h
      · rename_i attributes
        split at h
        · simp at h
        · rename_i creation hcreation
          obtain ⟨hcreates, htoken, hfail⟩ :=
            place_ok (s := { s with createCalls := s.createCalls + 1 }) hs hcreation h
          exact ⟨attributes, rfl, hauth, (Bool.not_eq_true _).mp hfailing, hcreates, htoken, hfail⟩
      · simp at h
  · simp at h

theorem creates_of_create {body : Bag} {entity : CreatedEntity} (hs : s.contents.Sound)
    (h : s.create entropy path (.obj body) headers = (.ok entity, s')) :
    s.contents.Creates entropy s.drawn path body entity.guid s'.contents s'.drawn := by
  obtain ⟨attributes, hbody, -, -, hcreates, -⟩ := create_ok hs h
  obtain rfl := Json.obj.inj hbody
  exact hcreates

/-- What a call to create does not change, or changes in one way only. -/
structure Answers (s : Store) (answer : Except TransportError CreatedEntity) (s' : Store) :
    Prop where
  keeps : s.Keeps s'
  drawn : s.drawn ≤ s'.drawn
  contents : ∀ {cause}, answer = .error cause → s'.contents = s.contents

theorem answers_place (creation : Creation) :
    s.Answers (s.place entropy creation).1 (s.place entropy creation).2 := by
  cases creation with
  | existing id => exact ⟨⟨rfl, rfl⟩, Nat.le_refl _, nofun⟩
  | define d =>
    simp only [place]
    split
    · exact ⟨⟨rfl, rfl⟩, Nat.le_refl _, fun _ => rfl⟩
    · exact ⟨⟨rfl, rfl⟩, Nat.le_refl _, nofun⟩
    · unfold addNew
      dsimp only
      split
      · exact ⟨⟨rfl, rfl⟩, Nat.le_succ _, fun _ => rfl⟩
      · exact ⟨⟨rfl, rfl⟩, Nat.le_succ _, nofun⟩

theorem answers_create (entropy : Entropy) (s : Store) (path : List String) (body : Json)
    (headers : Headers) :
    s.Answers (s.create entropy path body headers).1 (s.create entropy path body headers).2 := by
  simp only [create]
  split
  · split
    · exact ⟨⟨rfl, rfl⟩, Nat.le_refl _, fun _ => rfl⟩
    · split
      · split
        · exact ⟨⟨rfl, rfl⟩, Nat.le_refl _, fun _ => rfl⟩
        · rename_i creation _
          obtain ⟨hkeeps, hdrawn, hcontents⟩ :=
            answers_place (s := { s with createCalls := s.createCalls + 1 }) creation
          exact ⟨⟨hkeeps.token, hkeeps.failAfter⟩, hdrawn, hcontents⟩
      · exact ⟨⟨rfl, rfl⟩, Nat.le_refl _, fun _ => rfl⟩
  · exact ⟨⟨rfl, rfl⟩, Nat.le_refl _, fun _ => rfl⟩

/-- A creation that fails leaves the contents as they are. -/
theorem create_error {body : Json} {cause : TransportError}
    (h : s.create entropy path body headers = (.error cause, s')) :
    s'.contents = s.contents ∧ s.drawn ≤ s'.drawn ∧ s.Keeps s' := by
  have hanswers := answers_create entropy s path body headers
  rw [h] at hanswers
  exact ⟨hanswers.contents rfl, hanswers.drawn, hanswers.keeps⟩

/-- A creation leaves the contents as they are, or does what the contents allow. -/
theorem create_cases {body : Json} {answer : Except TransportError CreatedEntity}
    (hs : s.contents.Sound) (h : s.create entropy path body headers = (answer, s')) :
    s.Keeps s' ∧ (s'.contents = s.contents ∨ ∃ attributes id, body = .obj attributes ∧
      s.contents.Creates entropy s.drawn path attributes id s'.contents s'.drawn) := by
  cases answer with
  | error cause =>
    obtain ⟨hcontents, -, hkeeps⟩ := create_error h
    exact ⟨hkeeps, .inl hcontents⟩
  | ok entity =>
    obtain ⟨attributes, hbody, -, -, hcreates, hkeeps⟩ := create_ok hs h
    exact ⟨hkeeps, .inr ⟨attributes, _, hbody, hcreates⟩⟩

/-- A deletion removes an entity without dependents and answers with its id, or it removes nothing.
-/
theorem delete_cases {answer : Except TransportError Json}
    (h : s.delete path headers = (answer, s')) :
    s'.drawn = s.drawn ∧ s.Keeps s' ∧ (s'.contents = s.contents ∨
      ∃ id, answer = .ok id.reference ∧ (s.contents.dependents id).isEmpty ∧
        s'.contents = s.contents.remove id) := by
  simp only [delete] at h
  split at h
  · split at h
    · split at h
      · obtain ⟨-, rfl⟩ := Prod.mk.inj h
        exact ⟨rfl, ⟨rfl, rfl⟩, .inl rfl⟩
      · rename_i e _
        split at h
        · rename_i hempty
          obtain ⟨rfl, rfl⟩ := Prod.mk.inj h
          exact ⟨rfl, ⟨rfl, rfl⟩, .inr ⟨e.guid, rfl, hempty, rfl⟩⟩
        · obtain ⟨-, rfl⟩ := Prod.mk.inj h
          exact ⟨rfl, ⟨rfl, rfl⟩, .inl rfl⟩
    · obtain ⟨-, rfl⟩ := Prod.mk.inj h
      exact ⟨rfl, ⟨rfl, rfl⟩, .inl rfl⟩
  · obtain ⟨-, rfl⟩ := Prod.mk.inj h
    exact ⟨rfl, ⟨rfl, rfl⟩, .inl rfl⟩

theorem sound_create {body : Json} {answer : Except TransportError CreatedEntity}
    (hs : s.contents.Sound) (h : s.create entropy path body headers = (answer, s'))
    (hfresh : entropy.Fresh s.contents s.drawn s'.drawn) : s'.contents.Sound := by
  obtain ⟨-, hcontents | ⟨_, _, -, hcreates⟩⟩ := create_cases hs h
  · exact hcontents ▸ hs
  · exact hcreates.sound hs hfresh

theorem sound_delete {answer : Except TransportError Json} (hs : s.contents.Sound)
    (h : s.delete path headers = (answer, s')) : s'.contents.Sound := by
  obtain ⟨-, -, hcontents | ⟨id, -, hempty, hcontents⟩⟩ := delete_cases h
  · exact hcontents ▸ hs
  · exact hcontents ▸ hs.remove (hs.unneeded hempty)

/-! ### Several calls -/

/-- The registry has come from `start` by calls to create: what is stored was there, or has an id
that has been drawn since. -/
structure Since (entropy : Entropy) (start s : Store) : Prop where
  drawn : start.drawn ≤ s.drawn
  stored : ∀ {id}, s.contents.stored? id ≠ none → start.contents.stored? id ≠ none ∨
    ∃ i bits, start.drawn ≤ i ∧ i < s.drawn ∧ entropy i = .ok bits ∧ id = .ofBits bits

theorem Since.refl (entropy : Entropy) (s : Store) : Since entropy s s :=
  ⟨Nat.le_refl _, .inl⟩

/-- Ids that are new for all of the calls are new for those that are left. -/
theorem Since.fresh {start : Store} {n : Nat} (h : Since entropy start s)
    (hfresh : entropy.Fresh start.contents start.drawn n) :
    entropy.Fresh s.contents s.drawn n where
  unused {i bits} hi hn hbits := by
    by_contra hstored
    rcases h.stored hstored with hold | ⟨j, bits', hj, hjs, hbits', heq⟩
    · exact hold (hfresh.unused (Nat.le_trans h.drawn hi) hn hbits)
    · exact hfresh.distinct hj (Nat.lt_of_lt_of_le hjs hi) hn hbits' hbits heq.symm
  distinct hi hij hj := hfresh.distinct (Nat.le_trans h.drawn hi) hij hj

theorem Since.of_contents {start : Store} (h : Since entropy start s)
    (hcontents : s'.contents = s.contents) (hdrawn : s.drawn ≤ s'.drawn) :
    Since entropy start s' where
  drawn := Nat.le_trans h.drawn hdrawn
  stored {id} hid := by
    rcases h.stored (hcontents ▸ hid) with hold | ⟨i, bits, hi, his, hbits, heq⟩
    · exact .inl hold
    · exact .inr ⟨i, bits, hi, Nat.lt_of_lt_of_le his hdrawn, hbits, heq⟩

theorem Since.of_creates {start : Store} (h : Since entropy start s) {body : Bag} {id : EntityId}
    (hcreates : s.contents.Creates entropy s.drawn path body id s'.contents s'.drawn) :
    Since entropy start s' := by
  generalize hc : s'.contents = c' at hcreates
  generalize hn : s'.drawn = n' at hcreates
  cases hcreates with
  | found => exact h.of_contents hc (Nat.le_of_eq hn.symm)
  | known => exact h.of_contents hc (Nat.le_of_eq hn.symm)
  | @added d bits hd hnone hbits =>
    refine ⟨by have := h.drawn; omega, fun {j} hj => ?_⟩
    rw [hc] at hj
    rcases Contents.eq_or_stored_of_add hj with rfl | hold
    · exact .inr ⟨s.drawn, bits, h.drawn, by omega, hbits, rfl⟩
    · rcases h.stored hold with hold | ⟨i, bits', hi, his, hbits', heq⟩
      · exact .inl hold
      · exact .inr ⟨i, bits', hi, by omega, hbits', heq⟩

/-- A call to create, whatever its answer, is one of the calls that a registry may have come by. -/
theorem Since.create {start : Store} (h : Since entropy start s) {body : Json}
    {answer : Except TransportError CreatedEntity} (hs : s.contents.Sound)
    (hcreate : s.create entropy path body headers = (answer, s')) : Since entropy start s' := by
  cases answer with
  | error cause =>
    obtain ⟨hcontents, hdrawn, -⟩ := create_error hcreate
    exact h.of_contents hcontents hdrawn
  | ok entity =>
    obtain ⟨_, -, -, -, hcreates, -⟩ := create_ok hs hcreate
    exact h.of_creates hcreates

end Store

end FeatureCatalog
