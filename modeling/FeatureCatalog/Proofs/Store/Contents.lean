import FeatureCatalog.Proofs.Store.Bag

/-! What the operations on the contents of a registry do, seen through two views: the entity that is
stored under an id, and membership in the list of relations. -/

namespace FeatureCatalog

/-- What a definition describes, once it has the id `id`. -/
def Definition.stored (d : Definition) (id : EntityId) : Stored :=
  ⟨d.project.getD id, ⟨id, d.type, d.attributes⟩⟩

/-- An entity as it is once `feature` has been put on its list. -/
def Stored.withFeature (stored : Stored) (feature : EntityId) : Stored :=
  { stored with
    entity := { stored.entity with attributes := stored.entity.attributes.withFeature feature } }

/-- An entity as it is once `feature` has been removed. -/
def Stored.withoutFeature (stored : Stored) (feature : EntityId) : Stored :=
  { stored with
    entity := { stored.entity with attributes := stored.entity.attributes.withoutFeature feature } }

namespace Contents

variable (c : Contents)

/-- What is stored under an id. -/
def stored? (id : EntityId) : Option Stored := c.entities.get? id.text

theorem text_inj {a b : EntityId} : a.text = b.text ↔ a = b := by
  cases a
  cases b
  simp

/-! ### Relations -/

@[simp] theorem entities_relate (a b : EntityId) (t : RelationshipType) :
    (c.relate a b t).entities = c.entities := by
  simp only [relate]
  split <;> rfl

@[simp] theorem entities_contain (a b : EntityId) : (c.contain a b).entities = c.entities := by
  simp [contain]

@[simp] theorem entities_consume (a b : EntityId) : (c.consume a b).entities = c.entities := by
  simp [consume]

@[simp] theorem entities_consumeAll (a : EntityId) (inputs : List EntityId) :
    (inputs.foldl (fun c input => c.consume a input) c).entities = c.entities := by
  induction inputs generalizing c with
  | nil => rfl
  | cons input rest ih => rw [List.foldl_cons, ih, entities_consume]

theorem mem_relate {a b : EntityId} {t : RelationshipType} {r : Relation} :
    r ∈ (c.relate a b t).relations ↔ r ∈ c.relations ∨ r = ⟨a, b, t⟩ := by
  simp only [relate]
  split
  · rename_i h
    have hmem : (⟨a, b, t⟩ : Relation) ∈ c.relations := by simpa using h
    constructor
    · exact Or.inl
    · rintro (h | rfl)
      · exact h
      · exact hmem
  · simp

theorem mem_contain {a b : EntityId} {r : Relation} :
    r ∈ (c.contain a b).relations ↔
      r ∈ c.relations ∨ r = ⟨a, b, .contains⟩ ∨ r = ⟨b, a, .belongsTo⟩ := by
  rw [contain, mem_relate, mem_relate, or_assoc]

theorem mem_consume {a b : EntityId} {r : Relation} :
    r ∈ (c.consume a b).relations ↔
      r ∈ c.relations ∨ r = ⟨a, b, .consumes⟩ ∨ r = ⟨b, a, .produces⟩ := by
  rw [consume, mem_relate, mem_relate, or_assoc]

theorem mem_consumeAll {a : EntityId} {inputs : List EntityId} {r : Relation} :
    r ∈ (inputs.foldl (fun c input => c.consume a input) c).relations ↔
      r ∈ c.relations ∨ ∃ b ∈ inputs, r = ⟨a, b, .consumes⟩ ∨ r = ⟨b, a, .produces⟩ := by
  induction inputs generalizing c with
  | nil => simp
  | cons input rest ih =>
    rw [List.foldl_cons, ih, mem_consume, List.exists_mem_cons_iff, or_assoc]

variable {c}

theorem nodup_relate (h : c.relations.Nodup) (a b : EntityId) (t : RelationshipType) :
    (c.relate a b t).relations.Nodup := by
  simp only [relate]
  split
  · exact h
  · rename_i hnot
    have hnot : (⟨a, b, t⟩ : Relation) ∉ c.relations := by simpa using hnot
    rw [List.nodup_append]
    refine ⟨h, List.nodup_singleton _, fun x hx y hy heq => hnot ?_⟩
    rw [List.mem_singleton] at hy
    exact hy ▸ heq ▸ hx

theorem nodup_contain (h : c.relations.Nodup) (a b : EntityId) :
    (c.contain a b).relations.Nodup :=
  nodup_relate (nodup_relate h _ _ _) _ _ _

theorem nodup_consumeAll (h : c.relations.Nodup) (a : EntityId) (inputs : List EntityId) :
    (inputs.foldl (fun c input => c.consume a input) c).relations.Nodup := by
  induction inputs generalizing c with
  | nil => exact h
  | cons input rest ih => exact ih (nodup_relate (nodup_relate h _ _ _) _ _ _)

/-! ### Storing an entity -/

@[simp] theorem relations_enlist (anchor : Option EntityId) (feature : EntityId) :
    (c.enlist anchor feature).relations = c.relations := by
  cases anchor <;> rfl

theorem stored?_enlist (anchor : Option EntityId) (feature id : EntityId) :
    (c.enlist anchor feature).stored? id =
      if anchor = some id then (c.stored? id).map (·.withFeature feature) else c.stored? id := by
  cases anchor with
  | none => simp [enlist]
  | some a =>
    simp only [enlist, modifyAttributes, stored?, Dict.get?_modify, text_inj, Option.some_inj]
    by_cases h : id = a
    · simp [h, Stored.withFeature]
    · simp [h, Ne.symm h]

theorem entities_add (d : Definition) (id : EntityId) :
    (c.add d id).entities =
      (enlist ⟨c.entities.insert id.text (d.stored id), c.relations⟩ d.anchor id).entities := by
  unfold add
  rw [entities_consumeAll]
  cases d.parent with
  | none => rfl
  | some parent => exact entities_contain _ _ _

/-- A new entity is stored under its id, and goes on the list of its anchor. -/
theorem stored?_add {d : Definition} {id : EntityId} (hne : d.anchor ≠ some id) (j : EntityId) :
    (c.add d id).stored? j =
      if j = id then some (d.stored id)
      else if d.anchor = some j then (c.stored? j).map (·.withFeature id)
      else c.stored? j := by
  unfold stored?
  rw [entities_add]
  change (enlist _ _ _).stored? j = _
  rw [stored?_enlist]
  simp only [stored?, Dict.get?_insert, text_inj]
  by_cases hj : j = id
  · simp [hj, hne]
  · simp [hj]

theorem eq_or_stored_of_add {d : Definition} {id j : EntityId}
    (h : (c.add d id).stored? j ≠ none) : j = id ∨ c.stored? j ≠ none := by
  by_contra hnot
  obtain ⟨hj, hnone⟩ := not_or.1 hnot
  refine h ?_
  unfold stored?
  rw [entities_add]
  change (enlist _ _ _).stored? j = none
  rw [stored?_enlist]
  have hinsert : (⟨c.entities.insert id.text (d.stored id), c.relations⟩ : Contents).stored? j =
      none := by
    simp only [stored?, Dict.get?_insert, text_inj, if_neg hj]
    exact not_not.1 hnone
  rw [hinsert]
  split <;> rfl

theorem mem_relations_add (d : Definition) (id : EntityId) (r : Relation) :
    r ∈ (c.add d id).relations ↔
      r ∈ c.relations ∨
      (∃ p, d.parent = some p ∧ (r = ⟨p, id, .contains⟩ ∨ r = ⟨id, p, .belongsTo⟩)) ∨
      ∃ i ∈ d.consumes, r = ⟨id, i, .consumes⟩ ∨ r = ⟨i, id, .produces⟩ := by
  unfold add
  rw [mem_consumeAll]
  cases hp : d.parent with
  | none => simp
  | some parent =>
    simp only [mem_contain, relations_enlist, Option.some_inj, exists_eq_left', or_assoc]

theorem nodup_add (h : c.relations.Nodup) (d : Definition) (id : EntityId) :
    (c.add d id).relations.Nodup := by
  unfold add
  refine nodup_consumeAll ?_ _ _
  cases d.parent with
  | none => simpa using h
  | some parent => exact nodup_contain (by simpa using h) _ _

/-! ### Removing an entity -/

theorem stored?_remove (id j : EntityId) :
    (c.remove id).stored? j =
      if j = id then none else (c.stored? j).map (·.withoutFeature id) := by
  simp only [remove, stored?, Dict.get?_mapValues, Dict.get?_erase, text_inj]
  by_cases hj : j = id
  · simp [hj]
  · simp only [if_neg hj]
    rfl

theorem mem_relations_remove {id : EntityId} {r : Relation} :
    r ∈ (c.remove id).relations ↔ r ∈ c.relations ∧ r.source ≠ id ∧ r.target ≠ id := by
  simp [remove]

/-! ### Look-ups -/

theorem entity?_eq (id : EntityId) : c.entity? id = (c.stored? id).map (·.entity) := rfl

theorem exists_of_find? {qualifiedName : String} {e : Entity} (h : c.find? qualifiedName = some e) :
    ∃ id stored, c.stored? id = some stored ∧ stored.entity = e ∧
      e.qualifiedName? = some qualifiedName := by
  have hname := List.find?_some h
  have hmem := List.mem_of_find?_eq_some h
  obtain ⟨stored, hstored, rfl⟩ := List.mem_map.1 hmem
  obtain ⟨k, hk⟩ := Dict.mem_values.1 hstored
  exact ⟨⟨k⟩, stored, hk, rfl, by simpa using hname⟩

theorem ne_of_find?_eq_none {qualifiedName : String} (h : c.find? qualifiedName = none)
    {id : EntityId} {stored : Stored} (hstored : c.stored? id = some stored) :
    stored.entity.qualifiedName? ≠ some qualifiedName := by
  have := List.find?_eq_none.1 h stored.entity
    (List.mem_map_of_mem (Dict.mem_values.2 ⟨id.text, hstored⟩))
  simpa using this

theorem exists_of_projectNamed? {name : String} {id : EntityId}
    (h : c.projectNamed? name = some id) :
    ∃ stored, c.stored? id = some stored ∧ stored.entity.type = .project ∧
      stored.entity.name? = some name := by
  obtain ⟨e, he, rfl⟩ := Option.map_eq_some_iff.1 h
  have hprop := List.find?_some he
  have hmem := List.mem_of_find?_eq_some he
  simp only [Bool.and_eq_true, beq_iff_eq] at hprop
  exact ⟨e.2, Dict.mem_entries.1 hmem, hprop.1, hprop.2⟩

theorem ne_of_projectNamed?_eq_none {name : String} (h : c.projectNamed? name = none)
    {id : EntityId} {stored : Stored} (hstored : c.stored? id = some stored)
    (htype : stored.entity.type = .project) : stored.entity.name? ≠ some name := by
  have hnone := Option.map_eq_none_iff.1 h
  have := List.find?_eq_none.1 hnone (id.text, stored) (Dict.mem_entries.2 hstored)
  simpa [htype] using this

theorem typed?_eq_some {project id : EntityId} {type : EntityType} {e : Entity} :
    c.typed? project type id = some e ↔
      ∃ stored, c.stored? id = some stored ∧ stored.project = project ∧
        stored.entity.type = type ∧ stored.entity = e := by
  unfold typed? stored?
  cases c.entities.get? id.text with
  | none => simp
  | some stored =>
    simp only [Option.some_inj, exists_eq_left']
    split
    · rename_i h
      simp [h]
    · rename_i h
      constructor
      · simp
      · rintro ⟨hproject, htype, -⟩
        exact absurd ⟨hproject, htype⟩ h

theorem projectName_eq_ok {id : EntityId} {name : String} :
    c.projectName id = .ok name ↔
      ∃ stored, c.stored? id = some stored ∧ stored.entity.type = .project ∧
        stored.entity.name?.getD "" = name := by
  unfold projectName stored?
  cases c.entities.get? id.text with
  | none => simp
  | some stored =>
    simp only [Option.some_inj, exists_eq_left']
    split
    · rename_i h
      simp [h]
    · rename_i h
      simp [h]

end Contents

end FeatureCatalog
