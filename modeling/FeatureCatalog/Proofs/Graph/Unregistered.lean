import FeatureCatalog.Registration
import Mathlib.Data.List.GetD
import Mathlib.Tactic.ByContra

/-! Registrations apart, a registration run leaves a graph as it is. What it notes goes to one
entity of the graph, which tasks are told apart by. -/

namespace FeatureCatalog

/-- The source as it is before registration. -/
def Source.unregistered (s : Source) : Source := { s with registration := none }

/-- The anchor as it is before registration. -/
def Anchor.unregistered (a : Anchor) : Anchor := { a with registration := none }

/-- The feature as it is before registration. -/
def Feature.unregistered (f : Feature) : Feature := { f with registration := none }

/-- The derived feature as it is before registration. -/
def DerivedFeature.unregistered (d : DerivedFeature) : DerivedFeature :=
  { d with registration := none }

namespace Graph

/-- The graph as it is before registration. -/
def unregistered (g : Graph) : Graph where
  sources := g.sources.map Source.unregistered
  anchors := g.anchors.map Anchor.unregistered
  features := g.features.map Feature.unregistered
  derived := g.derived.map DerivedFeature.unregistered
  relations := g.relations

variable (g : Graph)

theorem source_unregistered (k : SourceKey) :
    g.unregistered.source k = (g.source k).unregistered :=
  List.getD_map g.sources default Source.unregistered

theorem anchor_unregistered (k : AnchorKey) :
    g.unregistered.anchor k = (g.anchor k).unregistered :=
  List.getD_map g.anchors default Anchor.unregistered

theorem feature_unregistered (k : FeatureKey) :
    g.unregistered.feature k = (g.feature k).unregistered :=
  List.getD_map g.features default Feature.unregistered

theorem derivedFeature_unregistered (k : DerivedKey) :
    g.unregistered.derivedFeature k = (g.derivedFeature k).unregistered :=
  List.getD_map g.derived default DerivedFeature.unregistered

/-! ### Noting a registration -/

section Modify

variable {α β : Type}

theorem getD_modify (l : List α) (i j : Nat) (f : α → α) (d : α) :
    (l.modify i f).getD j d = if i = j ∧ j < l.length then f (l.getD j d) else l.getD j d := by
  rw [List.getD_eq_getElem?_getD, List.getD_eq_getElem?_getD, List.getElem?_modify]
  by_cases hj : j < l.length
  · by_cases hij : i = j <;> simp [hj, hij]
  · simp [hj]

theorem map_modify {f : α → α} {h : α → β} (hf : ∀ a, h (f a) = h a) (l : List α) (i : Nat) :
    (l.modify i f).map h = l.map h := by
  refine List.ext_getElem? fun j => ?_
  rw [List.getElem?_map, List.getElem?_modify, List.getElem?_map]
  by_cases hij : i = j
  · simp [hij, Function.comp_def, hf]
  · simp [hij]

end Modify

theorem source_registerSource (k j : SourceKey) (r : Registration) :
    (g.registerSource k r).source j =
      if k = j ∧ j.index < g.sources.length then { g.source j with registration := some r }
      else g.source j := by
  unfold Graph.source registerSource
  rw [getD_modify]
  cases k
  cases j
  simp

theorem anchor_registerAnchor (k j : AnchorKey) (r : Registration) :
    (g.registerAnchor k r).anchor j =
      if k = j ∧ j.index < g.anchors.length then { g.anchor j with registration := some r }
      else g.anchor j := by
  unfold Graph.anchor registerAnchor
  rw [getD_modify]
  cases k
  cases j
  simp

theorem feature_registerFeature (k j : FeatureKey) (r : Registration) :
    (g.registerFeature k r).feature j =
      if k = j ∧ j.index < g.features.length then { g.feature j with registration := some r }
      else g.feature j := by
  unfold Graph.feature registerFeature
  rw [getD_modify]
  cases k
  cases j
  simp

theorem derivedFeature_registerDerived (k j : DerivedKey) (r : Registration) :
    (g.registerDerived k r).derivedFeature j =
      if k = j ∧ j.index < g.derived.length then
        { g.derivedFeature j with registration := some r }
      else g.derivedFeature j := by
  unfold Graph.derivedFeature registerDerived
  rw [getD_modify]
  cases k
  cases j
  simp

end Graph

namespace Task

variable {g : Graph} {task other : Task} {r : Registration} {project : String}

/-- The graph has the entity of the task. -/
def IsOf (g : Graph) : Task → Prop
  | .source k => k.index < g.sources.length
  | .anchor k => k.index < g.anchors.length
  | .feature _ k => k.index < g.features.length
  | .derived k => k.index < g.derived.length

/-- What is no entity of the graph has no name and no registration. -/
theorem blank_of_not_isOf (h : ¬task.IsOf g) :
    task.name g = "" ∧ task.registration? g = none := by
  cases task with
  | source k =>
    have hdefault : g.source k = default := List.getD_eq_default _ _ (Nat.not_lt.1 h)
    rw [name, registration?, hdefault]
    exact ⟨rfl, rfl⟩
  | anchor k =>
    have hdefault : g.anchor k = default := List.getD_eq_default _ _ (Nat.not_lt.1 h)
    rw [name, registration?, hdefault]
    exact ⟨rfl, rfl⟩
  | feature _ k =>
    have hdefault : g.feature k = default := List.getD_eq_default _ _ (Nat.not_lt.1 h)
    rw [name, registration?, hdefault]
    exact ⟨rfl, rfl⟩
  | derived k =>
    have hdefault : g.derivedFeature k = default := List.getD_eq_default _ _ (Nat.not_lt.1 h)
    rw [name, registration?, hdefault]
    exact ⟨rfl, rfl⟩

theorem isOf_of_name (h : task.name g ≠ "") : task.IsOf g := by
  by_contra hnot
  exact h (blank_of_not_isOf hnot).1

theorem isOf_of_registration (h : (task.registration? g).isSome) : task.IsOf g := by
  by_contra hnot
  simp [(blank_of_not_isOf hnot).2] at h

/-- What tells entities apart: the task, whatever anchor a feature is registered for. -/
def slot : Task → Task
  | .feature _ k => .feature ⟨0⟩ k
  | task => task

theorem unregistered_register (task : Task) (g : Graph) (r : Registration) :
    (task.register g r).unregistered = g.unregistered := by
  cases task with
  | source k =>
    have h := Graph.map_modify (h := Source.unregistered)
      (f := ({ · with registration := some r })) (fun _ => rfl) g.sources k.index
    exact congrArg (Graph.mk · _ _ _ _) h
  | anchor k =>
    have h := Graph.map_modify (h := Anchor.unregistered)
      (f := ({ · with registration := some r })) (fun _ => rfl) g.anchors k.index
    exact congrArg (Graph.mk _ · _ _ _) h
  | feature _ k =>
    have h := Graph.map_modify (h := Feature.unregistered)
      (f := ({ · with registration := some r })) (fun _ => rfl) g.features k.index
    exact congrArg (Graph.mk _ _ · _ _) h
  | derived k =>
    have h := Graph.map_modify (h := DerivedFeature.unregistered)
      (f := ({ · with registration := some r })) (fun _ => rfl) g.derived k.index
    exact congrArg (Graph.mk _ _ _ · _) h

/-- What is no entity of the graph is not registered in it. -/
theorem register_of_not_isOf (h : ¬task.IsOf g) (r : Registration) : task.register g r = g := by
  cases task with
  | source k => exact congrArg (Graph.mk · _ _ _ _) (List.modify_eq_self (Nat.not_lt.1 h))
  | anchor k => exact congrArg (Graph.mk _ · _ _ _) (List.modify_eq_self (Nat.not_lt.1 h))
  | feature _ k => exact congrArg (Graph.mk _ _ · _ _) (List.modify_eq_self (Nat.not_lt.1 h))
  | derived k => exact congrArg (Graph.mk _ _ _ · _) (List.modify_eq_self (Nat.not_lt.1 h))

theorem registration?_register_self (h : task.IsOf g) (r : Registration) :
    task.registration? (task.register g r) = some r := by
  cases task with
  | source k =>
    exact congrArg Source.registration ((g.source_registerSource k k r).trans (if_pos ⟨rfl, h⟩))
  | anchor k =>
    exact congrArg Anchor.registration ((g.anchor_registerAnchor k k r).trans (if_pos ⟨rfl, h⟩))
  | feature _ k =>
    exact congrArg Feature.registration ((g.feature_registerFeature k k r).trans (if_pos ⟨rfl, h⟩))
  | derived k =>
    exact congrArg DerivedFeature.registration
      ((g.derivedFeature_registerDerived k k r).trans (if_pos ⟨rfl, h⟩))

theorem registration?_register_ne (h : task.slot ≠ other.slot) (r : Registration) :
    other.registration? (task.register g r) = other.registration? g := by
  cases task <;> cases other <;> try rfl
  · exact congrArg Source.registration
      ((g.source_registerSource _ _ r).trans (if_neg fun hk => h (congrArg Task.source hk.1)))
  · exact congrArg Anchor.registration
      ((g.anchor_registerAnchor _ _ r).trans (if_neg fun hk => h (congrArg Task.anchor hk.1)))
  · exact congrArg Feature.registration
      ((g.feature_registerFeature _ _ r).trans
        (if_neg fun hk => h (congrArg (Task.feature ⟨0⟩) hk.1)))
  · exact congrArg DerivedFeature.registration
      ((g.derivedFeature_registerDerived _ _ r).trans
        (if_neg fun hk => h (congrArg Task.derived hk.1)))

end Task

end FeatureCatalog
