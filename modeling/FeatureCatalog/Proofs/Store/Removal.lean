import FeatureCatalog.Proofs.Store.Mirror

/-! Removing an entity on which no other one depends keeps the contents of a registry sound. -/

namespace FeatureCatalog

namespace Contents

variable {c : Contents} {id : EntityId}

/-- No entity depends on `id`: it contains none, and none consumes it. -/
structure Unneeded (c : Contents) (id : EntityId) : Prop where
  holds : ∀ e, ¬c.Holds id e
  consumes : ∀ a, ¬c.Consumes a id

/-- The relations show all that depends on an entity. -/
theorem Sound.unneeded (hc : c.Sound) (h : (c.dependents id).isEmpty) : c.Unneeded id := by
  have hnone : ∀ {target type}, ⟨id, target, type⟩ ∈ c.relations →
      type = .contains ∨ type = .produces → c.stored? target = none := by
    intro target type hmem htype
    rw [List.isEmpty_iff] at h
    have := List.filterMap_eq_nil_iff.1 h ⟨id, target, type⟩
      (List.mem_filter.2 ⟨hmem, by simpa using htype⟩)
    simpa [entity?_eq] using this
  constructor
  · intro e he
    obtain ⟨_, stored, _, hstored, _⟩ := hc.held he
    simp [hnone (hc.contains.2 he) (.inl rfl)] at hstored
  · intro a ha
    have hproduces := hc.produces.2 (hc.consumes.2 ha)
    obtain ⟨stored, hstored, _⟩ := ha
    simp [hnone hproduces (.inr rfl)] at hstored

theorem remove_cases {j : EntityId} {stored' : Stored} :
    (c.remove id).stored? j = some stored' ↔
      ∃ stored, j ≠ id ∧ c.stored? j = some stored ∧ stored.withoutFeature id = stored' := by
  rw [stored?_remove]
  by_cases hj : j = id
  · simp [hj]
  · simp [hj]

theorem has_remove {project j : EntityId} {type : EntityType} (h : c.Has project type j)
    (hj : j ≠ id) : (c.remove id).Has project type j := by
  obtain ⟨stored, hstored, hproject, htype⟩ := h
  exact ⟨_, remove_cases.2 ⟨stored, hj, hstored, rfl⟩, hproject, htype⟩

theorem consumes_remove {a b : EntityId} :
    (c.remove id).Consumes a b ↔ c.Consumes a b ∧ a ≠ id := by
  constructor
  · rintro ⟨stored', hstored', hreads⟩
    obtain ⟨stored, ha, hstored, rfl⟩ := remove_cases.1 hstored'
    exact ⟨⟨stored, hstored, ((stored.alike_withoutFeature id).reads_iff b).1 hreads⟩, ha⟩
  · rintro ⟨⟨stored, hstored, hreads⟩, ha⟩
    exact ⟨_, remove_cases.2 ⟨stored, ha, hstored, rfl⟩,
      ((stored.alike_withoutFeature id).reads_iff b).2 hreads⟩

theorem isListed_remove (hc : c.Sound) {a f : EntityId} :
    (c.remove id).IsListed a f ↔ c.IsListed a f ∧ a ≠ id ∧ f ≠ id := by
  constructor
  · rintro ⟨stored', ids', hstored', htype, hids', hmem⟩
    obtain ⟨stored, ha, hstored, rfl⟩ := remove_cases.1 hstored'
    obtain ⟨ids, hids, -⟩ := hc.features hstored htype
    rw [hids'.unique (hids.withoutFeature id), List.mem_filter] at hmem
    exact ⟨⟨stored, ids, hstored, htype, hids, hmem.1⟩, ha, by simpa using hmem.2⟩
  · rintro ⟨⟨stored, ids, hstored, htype, hids, hmem⟩, ha, hf⟩
    exact ⟨_, _, remove_cases.2 ⟨stored, ha, hstored, rfl⟩, htype, hids.withoutFeature id,
      List.mem_filter.2 ⟨hmem, by simpa using hf⟩⟩

theorem holds_remove (hc : c.Sound) (hn : c.Unneeded id) {o e : EntityId} :
    (c.remove id).Holds o e ↔ c.Holds o e ∧ e ≠ id := by
  constructor
  · intro h
    cases h with
    | member hstored' hproject hfeature =>
      obtain ⟨stored, he, hstored, rfl⟩ := remove_cases.1 hstored'
      exact ⟨(Holds.member hstored hproject hfeature :), he⟩
    | listed hlisted =>
      obtain ⟨h, -, he⟩ := (isListed_remove hc).1 hlisted
      exact ⟨.listed h, he⟩
  · rintro ⟨h, he⟩
    cases h with
    | @member _ stored hstored hproject hfeature =>
      have hstored' : (c.remove id).stored? e = some (stored.withoutFeature id) :=
        remove_cases.2 ⟨stored, he, hstored, rfl⟩
      exact (Holds.member hstored' hproject hfeature :)
    | listed hlisted =>
      refine .listed ((isListed_remove hc).2 ⟨hlisted, ?_, he⟩)
      rintro rfl
      exact hn.holds e (.listed hlisted)

theorem linked_remove (hc : c.Sound) (hn : c.Unneeded id) {j : EntityId} {stored : Stored}
    (hstored : c.stored? j = some stored) :
    (c.remove id).Linked stored.project (stored.withoutFeature id).entity := by
  have hlinked := hc.linked hstored
  have hlike := stored.alike_withoutFeature id
  have hread : ∀ {type b}, stored.entity.Reads b → c.Has stored.project type b →
      (c.remove id).Has stored.project type b := by
    intro type b hreads hhas
    refine has_remove hhas ?_
    rintro rfl
    exact hn.consumes j ⟨stored, hstored, hreads⟩
  unfold Linked at hlinked ⊢
  unfold Entity.Reads at hread
  rw [hlike.type]
  cases htype : stored.entity.type with
  | anchor =>
    rw [htype] at hlinked hread
    obtain ⟨⟨s, hs, hhas⟩, ids, hids, hnodup, hall⟩ := hlinked
    refine ⟨⟨s, (hlike.refers_iff (by decide) s).2 hs, hread hs hhas⟩, _,
      hids.withoutFeature id, hnodup.filter _, fun f hf => ?_⟩
    obtain ⟨hmem, hne⟩ := List.mem_filter.1 hf
    exact has_remove (hall f hmem) (by simpa using hne)
  | derivedFeature =>
    rw [htype] at hlinked hread
    obtain ⟨⟨as, has, hasHas⟩, ds, hds, hdsHas⟩ := hlinked
    exact ⟨⟨as, (hlike.lists_iff (by decide) as).2 has,
        fun i hi => hread ⟨as, .inl has, hi⟩ (hasHas i hi)⟩,
      ds, (hlike.lists_iff (by decide) ds).2 hds,
        fun i hi => hread ⟨ds, .inr hds, hi⟩ (hdsHas i hi)⟩
  | project | source | anchorFeature => trivial

/-- Removing an entity that no other one needs keeps the contents sound. -/
theorem Sound.remove (hc : c.Sound) (hn : c.Unneeded id) : (c.remove id).Sound where
  guid h := by
    obtain ⟨stored, -, hstored, rfl⟩ := remove_cases.1 h
    exact (hc.guid hstored :)
  project h htype := by
    obtain ⟨stored, -, hstored, rfl⟩ := remove_cases.1 h
    rw [(stored.alike_withoutFeature id).name?, (stored.alike_withoutFeature id).qualifiedName?]
    exact hc.project hstored htype
  held h := by
    obtain ⟨hheld, he⟩ := (holds_remove hc hn).1 h
    obtain ⟨owner, stored, howner, hstored, htype, hne, hproject, hnamed⟩ := hc.held hheld
    refine ⟨_, _, remove_cases.2 ⟨owner, ?_, howner, rfl⟩,
      remove_cases.2 ⟨stored, he, hstored, rfl⟩, htype, hne, hproject,
      (stored.alike_withoutFeature id).isNamedIn (owner.alike_withoutFeature id) hnamed⟩
    rintro rfl
    exact hn.holds _ hheld
  owned h hne := by
    obtain ⟨stored, hj, hstored, rfl⟩ := remove_cases.1 h
    obtain ⟨o, ho⟩ := hc.owned hstored hne
    exact ⟨o, (holds_remove hc hn).2 ⟨ho, hj⟩⟩
  unique ha hb hqa hqb := by
    obtain ⟨sa, -, hsa, rfl⟩ := remove_cases.1 ha
    obtain ⟨sb, -, hsb, rfl⟩ := remove_cases.1 hb
    rw [(sa.alike_withoutFeature id).qualifiedName?] at hqa
    rw [(sb.alike_withoutFeature id).qualifiedName?] at hqb
    exact hc.unique hsa hsb hqa hqb
  linked h := by
    obtain ⟨stored, -, hstored, rfl⟩ := remove_cases.1 h
    exact linked_remove hc hn hstored
  founded := Subrelation.wf (fun h => (consumes_remove.1 h).1) hc.founded
  consumes := by
    intro a b
    rw [mem_relations_remove, hc.consumes, consumes_remove]
    refine and_congr_right fun h => and_iff_left_of_imp fun _ => ?_
    rintro rfl
    exact hn.consumes a h
  contains := by
    intro a b
    rw [mem_relations_remove, hc.contains, holds_remove hc hn]
    refine and_congr_right fun h => and_iff_right_of_imp fun _ => ?_
    rintro rfl
    exact hn.holds b h
  produces := by
    intro a b
    rw [mem_relations_remove, mem_relations_remove, hc.produces, and_comm (a := a ≠ id)]
  belongsTo := by
    intro a b
    rw [mem_relations_remove, mem_relations_remove, hc.belongsTo, and_comm (a := a ≠ id)]
  nodup := hc.nodup.filter _

end Contents

end FeatureCatalog
