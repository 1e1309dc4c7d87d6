import FeatureCatalog.Proofs.Store.Contents
import Mathlib.Logic.Relation
import Mathlib.Order.WellFounded

/-! Bags and relations tell the same story twice. `Contents.Mirrored` says that the relations of a
registry are exactly those that its bags state, and `Contents.Sound` adds what keeps them so: ids,
names and owners agree, and nothing consumes itself, directly or not. -/

namespace FeatureCatalog

/-- The type of the entities that contain entities of this type. -/
def EntityType.owner : EntityType → EntityType
  | .anchorFeature => .anchor
  | _ => .project

/-- The bag of the entity names `id` as something that it consumes: an anchor its source, a derived
feature its inputs. -/
def Entity.Reads (e : Entity) (id : EntityId) : Prop :=
  match e.type with
  | .anchor => e.attributes.Refers "source" id
  | .derivedFeature =>
    ∃ ids, (e.attributes.Lists "inputAnchorFeatures" ids ∨
      e.attributes.Lists "inputDerivedFeatures" ids) ∧ id ∈ ids
  | _ => False

/-- The entity is called after its owner. -/
def Stored.IsNamedIn (stored owner : Stored) : Prop :=
  ∃ q n, owner.entity.qualifiedName? = some q ∧ stored.entity.name? = some n ∧
    stored.entity.qualifiedName? = some (q ++ "__" ++ n)

namespace Contents

/-- An entity of the given type is stored under `id`, in the given project. -/
def Has (c : Contents) (project : EntityId) (type : EntityType) (id : EntityId) : Prop :=
  ∃ stored, c.stored? id = some stored ∧ stored.project = project ∧ stored.entity.type = type

/-- The bag stored under `a` names `b` as something that it consumes. -/
def Consumes (c : Contents) (a b : EntityId) : Prop :=
  ∃ stored, c.stored? a = some stored ∧ stored.entity.Reads b

/-- The feature is on the list of the anchor. -/
def IsListed (c : Contents) (anchor feature : EntityId) : Prop :=
  ∃ stored ids, c.stored? anchor = some stored ∧ stored.entity.type = .anchor ∧
    stored.entity.attributes.Lists "features" ids ∧ feature ∈ ids

/-- `owner` contains `id`: a project its sources, anchors and derived features, and an anchor the
features on its list. -/
inductive Holds (c : Contents) : EntityId → EntityId → Prop
  | member {id stored} : c.stored? id = some stored → stored.entity.type ≠ .project →
      stored.entity.type ≠ .anchorFeature → Holds c stored.project id
  | listed {anchor feature} : c.IsListed anchor feature → Holds c anchor feature

/-- What the bag of an entity refers to is stored, in its project and of the right type. -/
def Linked (c : Contents) (project : EntityId) (e : Entity) : Prop :=
  match e.type with
  | .anchor =>
    (∃ s, e.attributes.Refers "source" s ∧ c.Has project .source s) ∧
      ∃ ids, e.attributes.Lists "features" ids ∧ ids.Nodup ∧
        ∀ id ∈ ids, c.Has project .anchorFeature id
  | .derivedFeature =>
    (∃ ids, e.attributes.Lists "inputAnchorFeatures" ids ∧
        ∀ id ∈ ids, c.Has project .anchorFeature id) ∧
      ∃ ids, e.attributes.Lists "inputDerivedFeatures" ids ∧
        ∀ id ∈ ids, c.Has project .derivedFeature id
  | _ => True

/-- The relations mirror the bags. -/
structure Mirrored (c : Contents) : Prop where
  project : ∀ {id stored}, c.stored? id = some stored →
    c.Has stored.project .project stored.project
  linked : ∀ {id stored}, c.stored? id = some stored → c.Linked stored.project stored.entity
  listed : ∀ {project id}, c.Has project .anchorFeature id → ∃! anchor, c.IsListed anchor id
  consumes : ∀ {a b}, ⟨a, b, .consumes⟩ ∈ c.relations ↔ c.Consumes a b
  contains : ∀ {a b}, ⟨a, b, .contains⟩ ∈ c.relations ↔ c.Holds a b
  produces : ∀ {a b}, ⟨a, b, .produces⟩ ∈ c.relations ↔ ⟨b, a, .consumes⟩ ∈ c.relations
  belongsTo : ∀ {a b}, ⟨a, b, .belongsTo⟩ ∈ c.relations ↔ ⟨b, a, .contains⟩ ∈ c.relations
  nodup : c.relations.Nodup

/-- What every operation on the contents of a registry keeps. -/
structure Sound (c : Contents) : Prop where
  guid : ∀ {id stored}, c.stored? id = some stored → stored.entity.guid = id
  project : ∀ {id stored}, c.stored? id = some stored → stored.entity.type = .project →
    stored.project = id ∧
      ∃ n, stored.entity.name? = some n ∧ stored.entity.qualifiedName? = some n
  held : ∀ {o id}, c.Holds o id → ∃ owner stored, c.stored? o = some owner ∧
    c.stored? id = some stored ∧ owner.entity.type = stored.entity.type.owner ∧
    stored.entity.type ≠ .project ∧ owner.project = stored.project ∧ stored.IsNamedIn owner
  owned : ∀ {id stored}, c.stored? id = some stored → stored.entity.type ≠ .project →
    ∃ o, c.Holds o id
  unique : ∀ {i j a b q}, c.stored? i = some a → c.stored? j = some b →
    a.entity.qualifiedName? = some q → b.entity.qualifiedName? = some q → i = j
  linked : ∀ {id stored}, c.stored? id = some stored → c.Linked stored.project stored.entity
  founded : WellFounded fun b a => c.Consumes a b
  consumes : ∀ {a b}, ⟨a, b, .consumes⟩ ∈ c.relations ↔ c.Consumes a b
  contains : ∀ {a b}, ⟨a, b, .contains⟩ ∈ c.relations ↔ c.Holds a b
  produces : ∀ {a b}, ⟨a, b, .produces⟩ ∈ c.relations ↔ ⟨b, a, .consumes⟩ ∈ c.relations
  belongsTo : ∀ {a b}, ⟨a, b, .belongsTo⟩ ∈ c.relations ↔ ⟨b, a, .contains⟩ ∈ c.relations
  nodup : c.relations.Nodup

end Contents

/-! ### Entities that differ in their list of features alone -/

/-- The entities are the same, apart from their lists of features. -/
structure Stored.Alike (a b : Stored) : Prop where
  project : b.project = a.project
  guid : b.entity.guid = a.entity.guid
  type : b.entity.type = a.entity.type
  get? : ∀ {k}, k ≠ "features" →
    Entries.get? k b.entity.attributes = Entries.get? k a.entity.attributes

namespace Stored

theorem alike_withFeature (stored : Stored) (id : EntityId) :
    stored.Alike (stored.withFeature id) :=
  ⟨rfl, rfl, rfl, Bag.get?_withFeature _ _⟩

theorem alike_withoutFeature (stored : Stored) (id : EntityId) :
    stored.Alike (stored.withoutFeature id) :=
  ⟨rfl, rfl, rfl, Bag.get?_withoutFeature _ _⟩

namespace Alike

variable {a b : Stored}

theorem refl (a : Stored) : a.Alike a := ⟨rfl, rfl, rfl, fun _ => rfl⟩

theorem name? (h : a.Alike b) : b.entity.name? = a.entity.name? := by
  unfold Entity.name? Bag.text?
  rw [h.get? (by decide)]

theorem qualifiedName? (h : a.Alike b) : b.entity.qualifiedName? = a.entity.qualifiedName? := by
  unfold Entity.qualifiedName? Bag.text?
  rw [h.get? (by decide)]

theorem refers_iff (h : a.Alike b) {k : String} (hk : k ≠ "features") (id : EntityId) :
    b.entity.attributes.Refers k id ↔ a.entity.attributes.Refers k id := by
  unfold Bag.Refers
  rw [h.get? hk]

theorem lists_iff (h : a.Alike b) {k : String} (hk : k ≠ "features") (ids : List EntityId) :
    b.entity.attributes.Lists k ids ↔ a.entity.attributes.Lists k ids := by
  unfold Bag.Lists
  rw [h.get? hk]

theorem reads_iff (h : a.Alike b) (id : EntityId) : b.entity.Reads id ↔ a.entity.Reads id := by
  unfold Entity.Reads
  rw [h.type]
  cases a.entity.type with
  | anchor => exact h.refers_iff (by decide) id
  | derivedFeature =>
    simp only [h.lists_iff (k := "inputAnchorFeatures") (by decide),
      h.lists_iff (k := "inputDerivedFeatures") (by decide)]
  | project | source | anchorFeature => exact Iff.rfl

theorem isNamedIn {a' b' : Stored} (h : a.Alike b) (h' : a'.Alike b') (hn : a.IsNamedIn a') :
    b.IsNamedIn b' := by
  obtain ⟨q, n, hq, hn, hqn⟩ := hn
  exact ⟨q, n, h'.qualifiedName?.trans hq, h.name?.trans hn, h.qualifiedName?.trans hqn⟩

end Alike

end Stored

namespace Contents

variable {c : Contents}

namespace Sound

/-- Whatever contains an entity has the qualified name that the entity's own begins with. -/
theorem owner_of_name (hc : c.Sound) {o id i : EntityId} {owner stored : Stored} {q n : String}
    (hid : c.Holds i id) (hstored : c.stored? id = some stored)
    (howner : c.stored? o = some owner) (hq : owner.entity.qualifiedName? = some q)
    (hn : stored.entity.name? = some n)
    (hqn : stored.entity.qualifiedName? = some (q ++ "__" ++ n)) : i = o := by
  obtain ⟨owner', stored', howner', hstored', -, -, -, q', n', hq', hn', hqn'⟩ := hc.held hid
  obtain rfl := Option.some.inj (hstored.symm.trans hstored')
  obtain rfl := Option.some.inj (hn.symm.trans hn')
  have hlist := congrArg String.toList (Option.some.inj (hqn'.symm.trans hqn))
  simp only [String.toList_append, List.append_assoc] at hlist
  have hqq : q' = q := String.toList_inj.1 (List.append_cancel_right hlist)
  exact hc.unique howner' howner hq' (hqq ▸ hq)

theorem holds_unique (hc : c.Sound) {o o' id : EntityId} (h : c.Holds o id)
    (h' : c.Holds o' id) : o = o' := by
  obtain ⟨owner, stored, howner, hstored, -, -, -, q, n, hq, hn, hqn⟩ := hc.held h'
  exact hc.owner_of_name h hstored howner hq hn hqn

theorem has_project (hc : c.Sound) {id : EntityId} {stored : Stored}
    (hstored : c.stored? id = some stored) : c.Has stored.project .project stored.project := by
  have hproject : ∀ {i s}, c.stored? i = some s → s.entity.type = .project →
      c.Has s.project .project s.project := by
    intro i s hs htype
    have hi := (hc.project hs htype).1
    exact ⟨s, by rw [hi]; exact hs, rfl, htype⟩
  have howner : ∀ {i s}, c.stored? i = some s → s.entity.type.owner = .project →
      s.entity.type ≠ .project → c.Has s.project .project s.project := by
    intro i s hs howner hne
    obtain ⟨o, ho⟩ := hc.owned hs hne
    obtain ⟨so, s', hso, hs', htype, -, hsame, -⟩ := hc.held ho
    obtain rfl := Option.some.inj (hs.symm.trans hs')
    exact hsame ▸ hproject hso (htype.trans howner)
  cases htype : stored.entity.type with
  | project => exact hproject hstored htype
  | source | anchor | derivedFeature =>
    exact howner hstored (by rw [htype]; rfl) (by rw [htype]; decide)
  | anchorFeature =>
    obtain ⟨o, ho⟩ := hc.owned hstored (by rw [htype]; decide)
    obtain ⟨so, s', hso, hs', hotype, -, hsame, -⟩ := hc.held ho
    obtain rfl := Option.some.inj (hstored.symm.trans hs')
    have hanchor : so.entity.type = .anchor := by rw [hotype, htype]; rfl
    exact hsame ▸ howner hso (by rw [hanchor]; rfl) (by rw [hanchor]; decide)

/-- The list of an anchor, with what is on it. -/
theorem features (hc : c.Sound) {id : EntityId} {stored : Stored}
    (hstored : c.stored? id = some stored) (htype : stored.entity.type = .anchor) :
    ∃ ids, stored.entity.attributes.Lists "features" ids ∧ ids.Nodup ∧
      ∀ f ∈ ids, c.Has stored.project .anchorFeature f := by
  have hlinked := hc.linked hstored
  unfold Linked at hlinked
  rw [htype] at hlinked
  exact hlinked.2

theorem mirrored (hc : c.Sound) : c.Mirrored where
  project := hc.has_project
  linked := hc.linked
  listed := by
    rintro project id ⟨stored, hstored, -, htype⟩
    obtain ⟨o, ho⟩ := hc.owned hstored (by rw [htype]; decide)
    cases ho with
    | member hstored' _ hne =>
      obtain rfl := Option.some.inj (hstored.symm.trans hstored')
      exact absurd htype hne
    | listed hlisted =>
      exact ⟨o, hlisted, fun o' ho' => hc.holds_unique (.listed ho') (.listed hlisted)⟩
  consumes := hc.consumes
  contains := hc.contains
  produces := hc.produces
  belongsTo := hc.belongsTo
  nodup := hc.nodup

end Sound

end Contents

end FeatureCatalog
