import FeatureCatalog.Proofs.Store.Mirror

/-! Storing a new entity keeps the contents of a registry sound, if its id is new, its qualified
name is not taken, and its definition fits what is stored. -/

namespace FeatureCatalog

/-- Where the entity of a definition goes: a project stands alone, and every other entity has an
owner, whose qualified name is the start of its own. -/
inductive Definition.Placed (c : Contents) (d : Definition) : Prop
  | project (type : d.type = .project) (project : d.project = none) (parent : d.parent = none)
      (anchor : d.anchor = none) (name : d.attributes.text? "name" = some d.qualifiedName)
  | owned {o : EntityId} {owner : Stored} {q n : String} (stored : c.stored? o = some owner)
      (type : d.type ≠ .project) (ownerType : owner.entity.type = d.type.owner)
      (project : d.project = some owner.project) (parent : d.parent = some o)
      (anchor : d.anchor = if d.type = .anchorFeature then some o else none)
      (ownerName : owner.entity.qualifiedName? = some q)
      (name : d.attributes.text? "name" = some n) (qualifiedName : d.qualifiedName = q ++ "__" ++ n)

/-- The definition fits the contents: it has an owner there, and what it refers to is there. -/
structure Definition.Fits (c : Contents) (d : Definition) : Prop where
  qualifiedName : d.attributes.text? "qualifiedName" = some d.qualifiedName
  placed : d.Placed c
  linked : ∀ id, c.Linked (d.stored id).project (d.stored id).entity
  unlisted : d.type = .anchor → d.attributes.Lists "features" []
  consumes : ∀ id i, i ∈ d.consumes ↔ (d.stored id).entity.Reads i

/-- What goes on a list is a feature, and the list is that of the anchor that contains it. -/
theorem Definition.Fits.of_anchor {c : Contents} {d : Definition} (h : d.Fits c) {a : EntityId}
    (ha : d.anchor = some a) : d.parent = some a ∧
      ∃ stored, c.stored? a = some stored ∧ stored.entity.type = .anchor := by
  cases h.placed with
  | project _ _ _ hnone => simp [hnone] at ha
  | owned howner _ hownerType _ hparent hanchor =>
    rw [hanchor] at ha
    split at ha
    · rename_i htype
      obtain rfl := Option.some.inj ha
      exact ⟨hparent, _, howner, hownerType.trans (by rw [htype]; rfl)⟩
    · simp at ha

namespace Contents

variable {c c' : Contents}

/-! ### Entities that stay -/

/-- Every entity of `c` is in `c'`, the same apart from its list of features. -/
def Stays (c c' : Contents) : Prop :=
  ∀ {id stored}, c.stored? id = some stored →
    ∃ stored', c'.stored? id = some stored' ∧ stored.Alike stored'

theorem Stays.has (h : c.Stays c') {project id : EntityId} {type : EntityType}
    (hhas : c.Has project type id) : c'.Has project type id := by
  obtain ⟨stored, hstored, hproject, htype⟩ := hhas
  obtain ⟨stored', hstored', hlike⟩ := h hstored
  exact ⟨stored', hstored', hlike.project.trans hproject, hlike.type.trans htype⟩

/-- Links that do not depend on a list of features hold where all entities have stayed. -/
theorem Stays.linked (h : c.Stays c') {a b : Stored} (hlike : a.Alike b)
    (hlinked : c.Linked a.project a.entity)
    (hlist : a.entity.type = .anchor → ∃ ids, b.entity.attributes.Lists "features" ids ∧
      ids.Nodup ∧ ∀ id ∈ ids, c'.Has a.project .anchorFeature id) :
    c'.Linked b.project b.entity := by
  unfold Linked at hlinked ⊢
  rw [hlike.type, hlike.project]
  cases htype : a.entity.type with
  | anchor =>
    rw [htype] at hlinked
    obtain ⟨⟨s, hs, hhas⟩, -⟩ := hlinked
    exact ⟨⟨s, (hlike.refers_iff (by decide) s).2 hs, h.has hhas⟩, hlist htype⟩
  | derivedFeature =>
    rw [htype] at hlinked
    obtain ⟨⟨as, has, hasHas⟩, ds, hds, hdsHas⟩ := hlinked
    exact ⟨⟨as, (hlike.lists_iff (by decide) as).2 has, fun i hi => h.has (hasHas i hi)⟩,
      ds, (hlike.lists_iff (by decide) ds).2 hds, fun i hi => h.has (hdsHas i hi)⟩
  | project | source | anchorFeature => trivial

/-- What a bag names as something that its entity consumes is stored in the project, and is no
project. -/
theorem Linked.has {project id : EntityId} {e : Entity} (h : c.Linked project e)
    (hreads : e.Reads id) : ∃ stored, c.stored? id = some stored ∧ stored.project = project ∧
      stored.entity.type ≠ .project := by
  have hof : ∀ {type}, c.Has project type id → type ≠ .project → ∃ stored,
      c.stored? id = some stored ∧ stored.project = project ∧ stored.entity.type ≠ .project := by
    rintro _ ⟨stored, hstored, hproject, rfl⟩ hne
    exact ⟨stored, hstored, hproject, hne⟩
  unfold Linked at h
  unfold Entity.Reads at hreads
  cases htype : e.type with
  | anchor =>
    rw [htype] at h hreads
    obtain ⟨⟨s, hs, hhas⟩, -⟩ := h
    exact hof (hs.unique hreads ▸ hhas) (by decide)
  | derivedFeature =>
    rw [htype] at h hreads
    obtain ⟨⟨as, has, hasHas⟩, ds, hds, hdsHas⟩ := h
    obtain ⟨ids, hids | hids, hmem⟩ := hreads
    · exact hof (hasHas id (has.unique hids ▸ hmem)) (by decide)
    · exact hof (hdsHas id (hds.unique hids ▸ hmem)) (by decide)
  | project | source | anchorFeature => rw [htype] at hreads; exact hreads.elim

/-- Relations are between entities that are stored, in one project. -/
theorem Sound.ends_of_mem (hc : c.Sound) {r : Relation} (h : r ∈ c.relations) :
    ∃ a b, c.stored? r.source = some a ∧ c.stored? r.target = some b ∧ a.project = b.project := by
  have hholds : ∀ {o e}, c.Holds o e → ∃ a b, c.stored? o = some a ∧ c.stored? e = some b ∧
      a.project = b.project := by
    intro o e ho
    obtain ⟨owner, stored, howner, hstored, -, -, hproject, -⟩ := hc.held ho
    exact ⟨owner, stored, howner, hstored, hproject⟩
  have hconsumes : ∀ {o e}, c.Consumes o e → ∃ a b, c.stored? o = some a ∧ c.stored? e = some b ∧
      a.project = b.project := by
    rintro o e ⟨stored, hstored, hreads⟩
    obtain ⟨input, hinput, hproject, -⟩ := (hc.linked hstored).has hreads
    exact ⟨stored, input, hstored, hinput, hproject.symm⟩
  obtain ⟨source, target, type⟩ := r
  cases type with
  | contains => exact hholds (hc.contains.1 h)
  | consumes => exact hconsumes (hc.consumes.1 h)
  | belongsTo =>
    obtain ⟨a, b, ha, hb, hproject⟩ := hholds (hc.contains.1 (hc.belongsTo.1 h))
    exact ⟨b, a, hb, ha, hproject.symm⟩
  | produces =>
    obtain ⟨a, b, ha, hb, hproject⟩ := hconsumes (hc.consumes.1 (hc.produces.1 h))
    exact ⟨b, a, hb, ha, hproject.symm⟩

/-! ### Adding -/

section Add

variable {d : Definition} {id : EntityId}

theorem anchor_ne_of_fits (hf : d.Fits c) (hfresh : c.stored? id = none) :
    d.anchor ≠ some id := by
  intro h
  obtain ⟨-, stored, hstored, -⟩ := hf.of_anchor h
  simp [hfresh] at hstored

theorem stored?_add_self (hf : d.Fits c) (hfresh : c.stored? id = none) :
    (c.add d id).stored? id = some (d.stored id) := by
  rw [stored?_add (anchor_ne_of_fits hf hfresh), if_pos rfl]

theorem stored?_add_ne (hf : d.Fits c) (hfresh : c.stored? id = none) {j : EntityId}
    (hj : j ≠ id) :
    (c.add d id).stored? j =
      if d.anchor = some j then (c.stored? j).map (·.withFeature id) else c.stored? j := by
  rw [stored?_add (anchor_ne_of_fits hf hfresh), if_neg hj]

theorem stays_add (hf : d.Fits c) (hfresh : c.stored? id = none) : c.Stays (c.add d id) := by
  intro j stored hstored
  have hj : j ≠ id := by
    rintro rfl
    simp [hfresh] at hstored
  rw [stored?_add_ne hf hfresh hj, hstored]
  split
  · exact ⟨_, rfl, stored.alike_withFeature id⟩
  · exact ⟨_, rfl, .refl stored⟩

theorem add_cases (hf : d.Fits c) (hfresh : c.stored? id = none) {j : EntityId} {stored' : Stored}
    (h : (c.add d id).stored? j = some stored') :
    (j = id ∧ stored' = d.stored id) ∨
      ∃ stored, j ≠ id ∧ c.stored? j = some stored ∧ stored.Alike stored' ∧
        stored' = if d.anchor = some j then stored.withFeature id else stored := by
  by_cases hj : j = id
  · rw [hj, stored?_add_self hf hfresh] at h
    exact .inl ⟨hj, (Option.some.inj h).symm⟩
  · right
    rw [stored?_add_ne hf hfresh hj] at h
    split at h
    · rename_i hanchor
      obtain ⟨stored, hstored, rfl⟩ := Option.map_eq_some_iff.1 h
      exact ⟨stored, hj, hstored, stored.alike_withFeature id, by rw [if_pos hanchor]⟩
    · rename_i hanchor
      exact ⟨stored', hj, h, .refl _, by rw [if_neg hanchor]⟩

theorem features_add (hc : c.Sound) (hfresh : c.stored? id = none)
    {a : EntityId} {stored : Stored} (hstored : c.stored? a = some stored) {ids : List EntityId}
    (hids : stored.entity.attributes.Lists "features" ids)
    (htype : stored.entity.type = .anchor) :
    (if d.anchor = some a then stored.withFeature id else stored).entity.attributes.Lists
      "features" (if d.anchor = some a then ids ++ [id] else ids) := by
  split
  · refine hids.withFeature fun hmem => ?_
    obtain ⟨ids', hids', -, hall⟩ := hc.features hstored htype
    obtain ⟨f, hfstored, -⟩ := hall id (hids.unique hids' ▸ hmem)
    simp [hfresh] at hfstored
  · exact hids

theorem consumes_add (hf : d.Fits c) (hfresh : c.stored? id = none)
    {a b : EntityId} :
    (c.add d id).Consumes a b ↔ c.Consumes a b ∨ a = id ∧ b ∈ d.consumes := by
  constructor
  · rintro ⟨stored', hstored', hreads⟩
    obtain ⟨rfl, rfl⟩ | ⟨stored, -, hstored, hlike, -⟩ := add_cases hf hfresh hstored'
    · exact .inr ⟨rfl, (hf.consumes a b).2 hreads⟩
    · exact .inl ⟨stored, hstored, (hlike.reads_iff b).1 hreads⟩
  · rintro (⟨stored, hstored, hreads⟩ | ⟨rfl, hmem⟩)
    · obtain ⟨stored', hstored', hlike⟩ := stays_add hf hfresh hstored
      exact ⟨stored', hstored', (hlike.reads_iff b).2 hreads⟩
    · exact ⟨_, stored?_add_self hf hfresh, (hf.consumes a b).1 hmem⟩

theorem isListed_add (hc : c.Sound) (hf : d.Fits c) (hfresh : c.stored? id = none)
    {a f : EntityId} :
    (c.add d id).IsListed a f ↔ c.IsListed a f ∨ f = id ∧ d.anchor = some a := by
  constructor
  · rintro ⟨stored', ids', hstored', htype, hids', hmem⟩
    obtain ⟨rfl, rfl⟩ | ⟨stored, -, hstored, hlike, rfl⟩ := add_cases hf hfresh hstored'
    · have := hids'.unique (hf.unlisted htype)
      simp [this] at hmem
    · have htype' := hlike.type.symm.trans htype
      obtain ⟨ids, hids, -⟩ := hc.features hstored htype'
      rw [hids'.unique (features_add hc hfresh hstored hids htype')] at hmem
      split at hmem
      · rename_i hanchor
        rcases List.mem_append.1 hmem with hmem | hmem
        · exact .inl ⟨stored, ids, hstored, htype', hids, hmem⟩
        · exact .inr ⟨List.mem_singleton.1 hmem, hanchor⟩
      · exact .inl ⟨stored, ids, hstored, htype', hids, hmem⟩
  · have key : ∀ {stored}, c.stored? a = some stored → stored.entity.type = .anchor →
        ∀ {ids}, stored.entity.attributes.Lists "features" ids →
          f ∈ (if d.anchor = some a then ids ++ [id] else ids) → (c.add d id).IsListed a f := by
      intro stored hstored htype ids hids hmem
      have ha : a ≠ id := by
        rintro rfl
        simp [hfresh] at hstored
      refine ⟨_, _, ?_, ?_, features_add hc hfresh hstored hids htype, hmem⟩
      · rw [stored?_add_ne hf hfresh ha, hstored]
        split <;> rfl
      · split <;> exact htype
    rintro (⟨stored, ids, hstored, htype, hids, hmem⟩ | ⟨rfl, hanchor⟩)
    · refine key hstored htype hids ?_
      split
      · exact List.mem_append_left _ hmem
      · exact hmem
    · obtain ⟨-, stored, hstored, htype⟩ := hf.of_anchor hanchor
      obtain ⟨ids, hids, -⟩ := hc.features hstored htype
      refine key hstored htype hids ?_
      rw [if_pos hanchor]
      exact List.mem_append_right _ (List.mem_singleton.2 rfl)

theorem holds_add (hc : c.Sound) (hf : d.Fits c) (hfresh : c.stored? id = none)
    {o e : EntityId} :
    (c.add d id).Holds o e ↔ c.Holds o e ∨ e = id ∧ d.parent = some o := by
  constructor
  · intro h
    cases h with
    | member hstored' hproject hfeature =>
      obtain ⟨rfl, rfl⟩ | ⟨stored, -, hstored, hlike, -⟩ := add_cases hf hfresh hstored'
      · refine .inr ⟨rfl, ?_⟩
        cases hf.placed with
        | project htype => exact absurd htype hproject
        | owned hstored htype howner hdp hparent =>
          have hotype : _ = EntityType.project := howner.trans (by
            revert hproject hfeature
            unfold Definition.stored
            cases d.type <;> simp [EntityType.owner])
          rw [hparent, Definition.stored, hdp, Option.getD_some, (hc.project hstored hotype).1]
      · rw [hlike.type] at hproject hfeature
        exact .inl (hlike.project ▸ .member hstored hproject hfeature)
    | listed hlisted =>
      rcases (isListed_add hc hf hfresh).1 hlisted with h | ⟨rfl, hanchor⟩
      · exact .inl (.listed h)
      · exact .inr ⟨rfl, (hf.of_anchor hanchor).1⟩
  · rintro (h | ⟨rfl, hparent⟩)
    · cases h with
      | member hstored hproject hfeature =>
        obtain ⟨stored', hstored', hlike⟩ := stays_add hf hfresh hstored
        exact hlike.project ▸ .member hstored' (hlike.type ▸ hproject) (hlike.type ▸ hfeature)
      | listed hlisted => exact .listed ((isListed_add hc hf hfresh).2 (.inl hlisted))
    · cases hf.placed with
      | project _ _ hnone => simp [hnone] at hparent
      | owned hstored htype howner hdp hparent' hanchor =>
        obtain rfl := Option.some.inj (hparent'.symm.trans hparent)
        by_cases hfeature : d.type = .anchorFeature
        · refine .listed ((isListed_add hc hf hfresh).2 (.inr ⟨rfl, ?_⟩))
          rw [hanchor, if_pos hfeature]
        · have hotype : _ = EntityType.project := howner.trans (by
            revert htype hfeature
            cases d.type <;> simp [EntityType.owner])
          have hself := Holds.member (stored?_add_self hf hfresh) htype hfeature
          rwa [Definition.stored, hdp, Option.getD_some, (hc.project hstored hotype).1] at hself

theorem linked_add (hc : c.Sound) (hf : d.Fits c) (hfresh : c.stored? id = none) {j : EntityId}
    {stored' : Stored} (h : (c.add d id).stored? j = some stored') :
    (c.add d id).Linked stored'.project stored'.entity := by
  have hstays : c.Stays (c.add d id) := stays_add hf hfresh
  obtain ⟨rfl, rfl⟩ | ⟨stored, -, hstored, hlike, rfl⟩ := add_cases hf hfresh h
  · refine hstays.linked (.refl _) (hf.linked j) fun htype => ?_
    exact ⟨[], hf.unlisted htype, List.nodup_nil, by simp⟩
  · refine hstays.linked hlike (hc.linked hstored) fun htype => ?_
    obtain ⟨ids, hids, hnodup, hall⟩ := hc.features hstored htype
    refine ⟨_, features_add hc hfresh hstored hids htype, ?_, ?_⟩
    · split
      · rw [List.nodup_append]
        refine ⟨hnodup, List.nodup_singleton _, fun f hmem g hg heq => ?_⟩
        rw [List.mem_singleton.1 hg] at heq
        obtain ⟨s, hs, -⟩ := hall f hmem
        simp [heq, hfresh] at hs
      · exact hnodup
    · intro f hmem
      split at hmem
      · rename_i hanchor
        rcases List.mem_append.1 hmem with hmem | hmem
        · exact hstays.has (hall f hmem)
        · rw [List.mem_singleton.1 hmem]
          cases hf.placed with
          | project _ _ _ hnone => simp [hnone] at hanchor
          | owned howner _ _ hproject _ hanchor' =>
            rw [hanchor'] at hanchor
            split at hanchor
            · rename_i hfeature
              obtain rfl := Option.some.inj hanchor
              obtain rfl := Option.some.inj (hstored.symm.trans howner)
              refine ⟨_, stored?_add_self hf hfresh, ?_, hfeature⟩
              rw [Definition.stored, hproject, Option.getD_some]
            · simp at hanchor
      · exact hstays.has (hall f hmem)

/-- Nothing reads the new entity yet, so whatever consumes anything still comes to an end. -/
theorem founded_add (hc : c.Sound) (hf : d.Fits c) (hfresh : c.stored? id = none) :
    WellFounded fun b a => (c.add d id).Consumes a b := by
  have hne : ∀ {project e b}, c.Linked project e → e.Reads b → b ≠ id := by
    rintro project e b hlinked hreads rfl
    obtain ⟨s, hs, -⟩ := hlinked.has hreads
    simp [hfresh] at hs
  have hold : ∀ a, a ≠ id → Acc (fun b a => (c.add d id).Consumes a b) a := by
    intro a
    induction a using hc.founded.induction with
    | h a ih =>
      refine fun ha => .intro a fun b hb => ?_
      rcases (consumes_add hf hfresh).1 hb with hconsumes | ⟨heq, -⟩
      · obtain ⟨stored, hstored, hreads⟩ := hconsumes
        exact ih b ⟨stored, hstored, hreads⟩ (hne (hc.linked hstored) hreads)
      · exact absurd heq ha
  refine ⟨fun a => ?_⟩
  by_cases ha : a = id
  · refine .intro a fun b hb => hold b ?_
    rcases (consumes_add hf hfresh).1 hb with ⟨stored, hstored, hreads⟩ | ⟨-, hmem⟩
    · exact hne (hc.linked hstored) hreads
    · exact hne (hf.linked id) ((hf.consumes id b).1 hmem)
  · exact hold a ha

theorem held_add (hc : c.Sound) (hf : d.Fits c) (hfresh : c.stored? id = none) {o i : EntityId}
    (h : (c.add d id).Holds o i) :
    ∃ owner stored, (c.add d id).stored? o = some owner ∧ (c.add d id).stored? i = some stored ∧
      owner.entity.type = stored.entity.type.owner ∧ stored.entity.type ≠ .project ∧
      owner.project = stored.project ∧ stored.IsNamedIn owner := by
  rcases (holds_add hc hf hfresh).1 h with h | ⟨rfl, hparent⟩
  · obtain ⟨owner, stored, howner, hstored, htype, hne, hproject, hnamed⟩ := hc.held h
    obtain ⟨owner', howner', hlike⟩ := stays_add hf hfresh howner
    obtain ⟨stored', hstored', hlike'⟩ := stays_add hf hfresh hstored
    refine ⟨owner', stored', howner', hstored', ?_, ?_, ?_, hlike'.isNamedIn hlike hnamed⟩
    · rw [hlike.type, hlike'.type, htype]
    · rw [hlike'.type]
      exact hne
    · rw [hlike.project, hlike'.project, hproject]
  · cases hf.placed with
    | project _ _ hnone => simp [hnone] at hparent
    | owned howner htype hotype hproject hparent' _ hq hn hqn =>
      obtain rfl := Option.some.inj (hparent'.symm.trans hparent)
      obtain ⟨owner', howner', hlike⟩ := stays_add hf hfresh howner
      refine ⟨owner', d.stored _, howner', stored?_add_self hf hfresh, ?_, htype, ?_, ?_⟩
      · rw [hlike.type, hotype]
        rfl
      · rw [hlike.project, Definition.stored, hproject, Option.getD_some]
      · refine ⟨_, _, hlike.qualifiedName?.trans hq, hn, ?_⟩
        rw [← hqn]
        exact hf.qualifiedName

/-- Storing a new entity that fits, under a new id and a qualified name that is not taken, keeps
the contents sound. -/
theorem Sound.add (hc : c.Sound) (hf : d.Fits c) (hfresh : c.stored? id = none)
    (hname : c.find? d.qualifiedName = none) : (c.add d id).Sound where
  guid h := by
    obtain ⟨rfl, rfl⟩ | ⟨stored, -, hstored, hlike, -⟩ := add_cases hf hfresh h
    · rfl
    · exact hlike.guid.trans (hc.guid hstored)
  project h htype := by
    obtain ⟨rfl, rfl⟩ | ⟨stored, -, hstored, hlike, -⟩ := add_cases hf hfresh h
    · cases hf.placed with
      | project _ hproject _ _ hname' =>
        refine ⟨?_, d.qualifiedName, hname', hf.qualifiedName⟩
        rw [Definition.stored, hproject, Option.getD_none]
      | owned _ hne => exact absurd htype hne
    · rw [hlike.project, hlike.name?, hlike.qualifiedName?]
      exact hc.project hstored (hlike.type.symm.trans htype)
  held h := held_add hc hf hfresh h
  owned h hne := by
    obtain ⟨rfl, rfl⟩ | ⟨stored, -, hstored, hlike, -⟩ := add_cases hf hfresh h
    · cases hf.placed with
      | project htype => exact absurd htype hne
      | owned _ _ _ _ hparent => exact ⟨_, (holds_add hc hf hfresh).2 (.inr ⟨rfl, hparent⟩)⟩
    · obtain ⟨o, ho⟩ := hc.owned hstored (hlike.type ▸ hne)
      exact ⟨o, (holds_add hc hf hfresh).2 (.inl ho)⟩
  unique := by
    have hself : ∀ {j b q}, j ≠ id → (c.add d id).stored? j = some b →
        (d.stored id).entity.qualifiedName? = some q → b.entity.qualifiedName? ≠ some q := by
      intro j b q hj hb hq hbq
      obtain ⟨heq, -⟩ | ⟨stored, -, hstored, hlike, -⟩ := add_cases hf hfresh hb
      · exact hj heq
      · rw [← Option.some.inj (hf.qualifiedName.symm.trans hq), hlike.qualifiedName?] at hbq
        exact ne_of_find?_eq_none hname hstored hbq
    intro i j a b q ha hb hqa hqb
    by_contra hij
    obtain ⟨rfl, rfl⟩ | ⟨sa, -, hsa, hlikea, -⟩ := add_cases hf hfresh ha
    · exact hself (Ne.symm hij) hb hqa hqb
    · obtain ⟨rfl, rfl⟩ | ⟨sb, -, hsb, hlikeb, -⟩ := add_cases hf hfresh hb
      · exact hself hij ha hqb hqa
      · exact hij (hc.unique hsa hsb (hlikea.qualifiedName?.symm.trans hqa)
          (hlikeb.qualifiedName?.symm.trans hqb))
  linked := linked_add hc hf hfresh
  founded := founded_add hc hf hfresh
  consumes := by
    intro a b
    rw [mem_relations_add, hc.consumes, consumes_add hf hfresh]
    simp [and_comm]
  contains := by
    intro a b
    rw [mem_relations_add, hc.contains, holds_add hc hf hfresh]
    simp [and_comm]
  produces := by
    intro a b
    simp [mem_relations_add, hc.produces]
  belongsTo := by
    intro a b
    simp [mem_relations_add, hc.belongsTo]
  nodup := nodup_add hc.nodup d id

end Add

end Contents

end FeatureCatalog
