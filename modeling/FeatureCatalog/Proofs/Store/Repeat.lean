import FeatureCatalog.Proofs.Store.Agree

/-! Creations that are asked for again. What a creation has stored or found, the same call finds
ever after: storage keeps the bag of the definition, apart from the list of features, which is no
part of it. So nothing is stored twice, and the id given out is the same. -/

namespace FeatureCatalog

theorem Number.same_self (n : Number) : n.same n = true := by
  cases n with
  | integer => exact beq_self_eq_true _
  | float x => simp [Number.same, Binary64.same]

namespace Json

mutual

theorem same_self : ∀ v : Json, v.same v = true
  | .null => rfl
  | .bool _ | .str _ => beq_self_eq_true _
  | .num n => n.same_self
  | .arr items => sameItems_self items
  | .obj entries => sameEntries_self entries

theorem sameItems_self : ∀ items : List Json, sameItems items items = true
  | [] => rfl
  | item :: rest => by rw [sameItems, same_self item, sameItems_self rest, Bool.and_self]

theorem sameEntries_self : ∀ entries : List (String × Json), sameEntries entries entries = true
  | [] => rfl
  | (key, value) :: rest => by
    rw [sameEntries, same_self value, sameEntries_self rest, beq_self_eq_true, Bool.and_self,
      Bool.and_self]

end

end Json

theorem Entries.erase_insert {α : Type} (k : String) (v : α) (entries : List (String × α)) :
    erase k (insert k v entries) = erase k entries := by
  unfold erase
  induction entries with
  | nil => simp [insert]
  | cons e rest ih =>
    rw [insert]
    split
    · rename_i hk
      simp [← hk]
    · split
      · simp
      · rw [List.filter_cons, ih, List.filter_cons]

namespace Bag

theorem erase_withFeature (attrs : Bag) (id : EntityId) :
    Entries.erase "features" (attrs.withFeature id) = Entries.erase "features" attrs := by
  unfold withFeature
  split
  · exact Entries.erase_insert _ _ _
  · split
    · rfl
    · exact Entries.erase_insert _ _ _
  · rfl

theorem erase_withoutFeature (attrs : Bag) (id : EntityId) :
    Entries.erase "features" (attrs.withoutFeature id) = Entries.erase "features" attrs := by
  unfold withoutFeature
  split
  · exact Entries.erase_insert _ _ _
  · rfl

theorem sameDefinition_self (attrs : Bag) : attrs.sameDefinition attrs = true :=
  Json.sameEntries_self _

/-- A list of features that has grown is no other definition. -/
theorem sameDefinition_withFeature (attrs other : Bag) (id : EntityId) :
    (attrs.withFeature id).sameDefinition other = attrs.sameDefinition other := by
  unfold sameDefinition
  rw [erase_withFeature]

theorem sameDefinition_withoutFeature (attrs other : Bag) (id : EntityId) :
    (attrs.withoutFeature id).sameDefinition other = attrs.sameDefinition other := by
  unfold sameDefinition
  rw [erase_withoutFeature]

end Bag

/-- The definition refers to the entity, as its project, as its owner, or as something that it
consumes. -/
def Definition.Needs (d : Definition) (id : EntityId) : Prop :=
  d.project = some id ∨ d.parent = some id ∨ id ∈ d.consumes

namespace Contents

open Creation

variable {c c' : Contents} {d : Definition} {path : List String} {body : Bag} {id : EntityId}

theorem Sound.find?_of_stored (hc : c.Sound) {stored : Stored} {q : String}
    (hstored : c.stored? id = some stored) (hq : stored.entity.qualifiedName? = some q) :
    c.find? q = some stored.entity := by
  cases hfind : c.find? q with
  | none => exact absurd hq (ne_of_find?_eq_none hfind hstored)
  | some e =>
    obtain ⟨i, stored', hstored', rfl, hq'⟩ := exists_of_find? hfind
    obtain rfl := hc.unique hstored' hstored hq' hq
    obtain rfl := Option.some.inj (hstored'.symm.trans hstored)
    rfl

/-! ### Calls and what they come to -/

/-- A call that was not refused once comes to whatever it describes. -/
theorem ofCall_of_describes {creation : Creation} (h : ofCall c path body = .ok creation)
    (hd : Describes c' body path d) : ofCall c' path body = .ok (.define d) := by
  have hname : ∀ {name}, body.IsNamed name → requiredText body "name" = .ok name :=
    fun hn => requiredText_eq_ok.2 ⟨hn.text, hn.ne_empty⟩
  cases hd with
  | project hn hnone =>
    refine bind_eq_ok.2 ⟨_, hname hn, ?_⟩
    rw [hnone]
    rfl
  | source hp hn =>
    exact map_eq_ok.2 ⟨_, bind_eq_ok.2 ⟨_, hp, bind_eq_ok.2 ⟨_, hname hn, rfl⟩⟩, rfl⟩
  | anchor hp hn hs hhas =>
    -- That the id of the source is not empty has been checked the first time.
    obtain ⟨_, hanchor, -⟩ := map_eq_ok.1 h
    obtain ⟨_, -, hanchor⟩ := bind_eq_ok.1 hanchor
    obtain ⟨_, -, hanchor⟩ := bind_eq_ok.1 hanchor
    obtain ⟨source, hsource, -⟩ := bind_eq_ok.1 hanchor
    obtain rfl := Option.some.inj (hs.symm.trans (requiredText_eq_ok.1 hsource).1)
    obtain ⟨stored, hstored, hproject, htype⟩ := hhas
    refine map_eq_ok.2 ⟨_, bind_eq_ok.2 ⟨_, hp, bind_eq_ok.2 ⟨_, hname hn,
      bind_eq_ok.2 ⟨_, hsource, ?_⟩⟩⟩, rfl⟩
    dsimp only
    rw [typed?_eq_some.2 ⟨stored, hstored, hproject, htype, rfl⟩]
    rfl
  | feature hp hstored hproject htype ha hn =>
    refine map_eq_ok.2 ⟨_, bind_eq_ok.2 ⟨_, hp, ?_⟩, rfl⟩
    rw [typed?_eq_some.2 ⟨_, hstored, hproject, htype, rfl⟩, Option.bind_some, ha]
    exact bind_eq_ok.2 ⟨_, hname hn, rfl⟩
  | derived hp hn hanchored hderived hasHas hdsHas =>
    have hanchored := inputs_eq_ok.2 ⟨⟨_, hanchored, rfl⟩, List.forall_mem_map.2 hasHas⟩
    have hderived := inputs_eq_ok.2 ⟨⟨_, hderived, rfl⟩, List.forall_mem_map.2 hdsHas⟩
    exact map_eq_ok.2 ⟨_, bind_eq_ok.2 ⟨_, hp, bind_eq_ok.2 ⟨_, hname hn,
      bind_eq_ok.2 ⟨_, hanchored, bind_eq_ok.2 ⟨_, hderived, rfl⟩⟩⟩⟩, rfl⟩

theorem describes_of_ofCall (h : ofCall c path body = .ok (.define d)) :
    Describes c body path d := by
  obtain ⟨_, hexisting, -⟩ | ⟨d', hdefine, hd⟩ := ofCall_cases h
  · cases hexisting
  · exact Creation.define.inj hdefine ▸ hd

/-- Where all that it needs has stayed, a call describes what it did, unless it asks for a project,
which may be there now. -/
theorem describes_of_kept (hd : Describes c body path d) (hpath : path ≠ ["projects"])
    (hkept : ∀ {id stored}, d.Needs id → c.stored? id = some stored →
      ∃ stored', c'.stored? id = some stored' ∧ stored.Alike stored') :
    Describes c' body path d := by
  have hproject : ∀ {p name}, d.Needs p → c.projectName p = .ok name →
      c'.projectName p = .ok name := by
    intro p name hneeds hp
    obtain ⟨stored, hstored, htype, hname⟩ := projectName_eq_ok.1 hp
    obtain ⟨stored', hstored', hlike⟩ := hkept hneeds hstored
    exact projectName_eq_ok.2 ⟨stored', hstored', hlike.type.trans htype, hlike.name? ▸ hname⟩
  have hhas : ∀ {p type i}, i ∈ d.consumes → c.Has p type i → c'.Has p type i := by
    rintro p type i hi ⟨stored, hstored, hp, htype⟩
    obtain ⟨stored', hstored', hlike⟩ := hkept (.inr (.inr hi)) hstored
    exact ⟨stored', hstored', hlike.project.trans hp, hlike.type.trans htype⟩
  cases hd with
  | project => exact absurd rfl hpath
  | source hp hn => exact .source (hproject (.inl rfl) hp) hn
  | anchor hp hn hs hsource =>
    exact .anchor (hproject (.inl rfl) hp) hn hs (hhas (List.mem_singleton_self _) hsource)
  | feature hp hstored hin htype ha hn =>
    obtain ⟨stored', hstored', hlike⟩ := hkept (.inr (.inl rfl)) hstored
    exact .feature (hproject (.inl rfl) hp) hstored' (hlike.project.trans hin)
      (hlike.type.trans htype) (hlike.name?.trans ha) hn
  | derived hp hn hanchored hderived hasHas hdsHas =>
    refine .derived (hproject (.inl rfl) hp) hn hanchored hderived (fun r hr => ?_) fun r hr => ?_
    · exact hhas (List.mem_append_left _ (List.mem_map_of_mem hr)) (hasHas r hr)
    · exact hhas (List.mem_append_right _ (List.mem_map_of_mem hr)) (hdsHas r hr)

/-- Where all entities have stayed, a call comes to what it did, unless it asks for a project, which
may be there now. -/
theorem Stays.ofCall (h : c.Stays c') (hcall : Creation.ofCall c path body = .ok (.define d))
    (hpath : path ≠ ["projects"]) : Creation.ofCall c' path body = .ok (.define d) :=
  ofCall_of_describes hcall (describes_of_kept (describes_of_ofCall hcall) hpath fun _ => h)

/-! ### Calls that are recalled -/

/-- What the call asks for is stored as the entity with the given id. -/
def Recalls (c : Contents) (path : List String) (body : Bag) (id : EntityId) : Prop :=
  ∃ d e, ofCall c path body = .ok (.define d) ∧ c.Knows d e ∧ e.guid = id

/-- An entity that is stored with the attributes of a definition, apart from its list of features,
is known by it. -/
theorem Sound.knows_of_stored (hc : c.Sound) {stored : Stored}
    (hstored : c.stored? id = some stored)
    (hq : stored.entity.qualifiedName? = some d.qualifiedName) (htype : stored.entity.type = d.type)
    (hsame : stored.entity.attributes.sameDefinition d.attributes = true) :
    c.Knows d stored.entity :=
  ⟨hc.find?_of_stored hstored hq, htype, hsame⟩

/-- The entity with the given id is as it was, apart from its list of features. -/
def Preserves (c c' : Contents) (id : EntityId) : Prop :=
  ∀ {stored}, c.stored? id = some stored → ∃ stored', c'.stored? id = some stored' ∧
    stored.Alike stored' ∧ ∀ other, stored'.entity.attributes.sameDefinition other =
      stored.entity.attributes.sameDefinition other

theorem preserves_add (hf : d.Fits c) (hfresh : c.stored? id = none) {j : EntityId} :
    c.Preserves (c.add d id) j := by
  intro stored hstored
  have hj : j ≠ id := by
    rintro rfl
    simp [hfresh] at hstored
  rw [stored?_add_ne hf hfresh hj, hstored]
  split
  · exact ⟨_, rfl, stored.alike_withFeature id,
      fun _ => Bag.sameDefinition_withFeature _ _ _⟩
  · exact ⟨_, rfl, .refl stored, fun _ => rfl⟩

theorem preserves_remove {j : EntityId} (hne : id ≠ j) : c.Preserves (c.remove j) id :=
  fun {stored} hstored => ⟨_, remove_cases.2 ⟨stored, hne, hstored, rfl⟩,
    stored.alike_withoutFeature j, fun _ => Bag.sameDefinition_withoutFeature _ _ _⟩

/-- An entity that is preserved is known by the definitions that it was known by. -/
theorem Knows.of_preserves {e : Entity} (h : c.Knows d e) (hc : c.Sound) (hc' : c'.Sound)
    (hkept : c.Preserves c' e.guid) : ∃ e', c'.Knows d e' ∧ e'.guid = e.guid := by
  obtain ⟨i, stored, hstored, rfl, hq⟩ := exists_of_find? h.found
  obtain rfl := hc.guid hstored
  obtain ⟨stored', hstored', halike, hsame⟩ := hkept hstored
  exact ⟨stored'.entity, hc'.knows_of_stored hstored' (halike.qualifiedName?.trans hq)
    (halike.type.trans h.type) ((hsame _).trans h.same), hc'.guid hstored'⟩

variable {entropy : Entropy} {n n' : Nat}

/-- What a creation has stored or found is recalled. -/
theorem Creates.recalls {creation : Creation} (h : c.Creates entropy n path body id c' n')
    (hc : c.Sound) (hfresh : entropy.Fresh c n n') (hcall : ofCall c path body = .ok creation)
    (hpath : path ≠ ["projects"]) : c'.Recalls path body id := by
  have hsound := h.sound hc hfresh
  have hstays : c.Stays c' := h.stays hc hfresh
  cases h with
  | found hfinds => exact absurd hfinds.1 hpath
  | @known d e hd hknows =>
    exact ⟨d, e, ofCall_of_describes hcall hd, hknows, rfl⟩
  | @added d bits hd hnone hbits =>
    have hf := hc.fits hd
    have hstored := stored?_add_self hf (hfresh.next hbits)
    exact ⟨d, _, hstays.ofCall (ofCall_of_describes hcall hd) hpath,
      hsound.knows_of_stored hstored hf.qualifiedName rfl (Bag.sameDefinition_self _), rfl⟩

/-- What is recalled stays so when anything is created. -/
theorem Recalls.of_creates {path' : List String} {body' : Bag} {id' : EntityId}
    (h : c.Recalls path body id) (hpath : path ≠ ["projects"])
    (hcreates : c.Creates entropy n path' body' id' c' n') (hc : c.Sound)
    (hfresh : entropy.Fresh c n n') : c'.Recalls path body id := by
  have hsound := hcreates.sound hc hfresh
  have hstays : c.Stays c' := hcreates.stays hc hfresh
  obtain ⟨d, e, hcall, hknows, rfl⟩ := h
  cases hcreates with
  | found | known => exact ⟨d, e, hcall, hknows, rfl⟩
  | @added d' bits hd' hnone hbits =>
    obtain ⟨e', hknows', hguid⟩ :=
      hknows.of_preserves hc hsound (preserves_add (hc.fits hd') (hfresh.next hbits))
    exact ⟨d, e', hstays.ofCall hcall hpath, hknows', hguid⟩

end Contents

namespace Store

variable {entropy : Entropy} {s s' : Store} {path : List String} {body : Bag} {headers : Headers}
  {id : EntityId}

theorem known?_of_knows {c : Contents} {d : Definition} {e : Entity} (h : c.Knows d e) :
    c.known? d = .ok (some e.guid) := by
  unfold Contents.known?
  rw [h.found]
  exact if_pos ⟨h.type, h.same⟩

/-- An entity that is known is answered as it is stored, and nothing that is stored changes. -/
theorem place_of_knows (entropy : Entropy) {d : Definition} {e : Entity} (hs : s.contents.Sound)
    (hf : d.Fits s.contents) (h : s.contents.Knows d e) :
    s.place entropy (.define d) =
      (.ok ⟨e.guid, .obj e.attributes⟩, { s with created := s.created + 1 }) := by
  obtain ⟨i, stored, hstored, rfl, -⟩ := Contents.exists_of_find? h.found
  obtain rfl := hs.guid hstored
  have hentity : s.contents.entity? stored.entity.guid = some stored.entity := by
    rw [Contents.entity?_eq, hstored]
    rfl
  unfold place
  simp only [known?_of_knows h, hs.enlist_of_knows hf h, succeed, hentity]

/-- A creation of an entity that is known is counted, and nothing else changes. -/
theorem create_of_knows (entropy : Entropy) (hs : s.contents.Sound) {d : Definition} {e : Entity}
    (hcall : Creation.ofCall s.contents path body = .ok (.define d)) (h : s.contents.Knows d e)
    (hauthorized : s.isAuthorized headers = true) (hfailing : s.isFailing = false) :
    s.create entropy path (.obj body) headers =
      (.ok ⟨e.guid, .obj e.attributes⟩,
        { s with createCalls := s.createCalls + 1, created := s.created + 1 }) := by
  have hf := hs.fits (Contents.describes_of_ofCall hcall)
  rw [create_of_not_isFailing hfailing, if_pos hauthorized]
  simp only [hcall]
  exact place_of_knows (s := { s with createCalls := s.createCalls + 1 }) entropy hs hf h

theorem create_of_recalls (entropy : Entropy) (hs : s.contents.Sound)
    (h : s.contents.Recalls path body id) (hauthorized : s.isAuthorized headers = true)
    (hfailing : s.isFailing = false) :
    ∃ entity s', s.create entropy path (.obj body) headers = (.ok entity, s') ∧
      entity.guid = id ∧ s'.Agrees s := by
  obtain ⟨d, e, hcall, hknows, rfl⟩ := h
  exact ⟨_, _, create_of_knows entropy hs hcall hknows hauthorized hfailing, rfl, rfl, rfl, rfl⟩

/-- The registry `u` asks for the token that `s` asks for, and recalls all that `s` recalls. -/
structure Remembers (s u : Store) : Prop where
  token : u.token = s.token
  recalls : ∀ ⦃path body id⦄, path ≠ ["projects"] → s.contents.Recalls path body id →
    u.contents.Recalls path body id

theorem Remembers.refl (s : Store) : s.Remembers s := ⟨rfl, fun _ _ _ _ h => h⟩

theorem Remembers.of_agrees {t u : Store} (h : s.Remembers t) (hagrees : u.Agrees t) :
    s.Remembers u where
  token := hagrees.token.trans h.token
  recalls _ _ _ hpath hrecalls := hagrees.contents ▸ h.recalls hpath hrecalls

/-- No creation lets a registry forget. -/
theorem Remembers.create {start : Store} (h : start.Remembers s) (hs : s.contents.Sound)
    {request : Json} {answer : Except TransportError CreatedEntity}
    (hfresh : entropy.Fresh s.contents s.drawn s'.drawn)
    (hcreate : s.create entropy path request headers = (answer, s')) : start.Remembers s' := by
  obtain ⟨hkeeps, hcontents⟩ := create_cases hs hcreate
  refine ⟨hkeeps.token.trans h.token, fun path' body' id' hpath hrecalls => ?_⟩
  have hrecalls' := h.recalls hpath hrecalls
  obtain hcontents | ⟨_, _, -, hcreates⟩ := hcontents
  · exact hcontents ▸ hrecalls'
  · exact hrecalls'.of_creates hpath hcreates hs hfresh

end Store

end FeatureCatalog
