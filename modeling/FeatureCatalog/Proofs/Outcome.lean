import Mathlib.Data.List.Forall2

/-! Computations that may fail, taken apart: when a chain of them succeeds or fails, and with what. -/

namespace FeatureCatalog

variable {ε α β : Type}

theorem bind_eq_ok {x : Except ε α} {f : α → Except ε β} {b : β} :
    x >>= f = .ok b ↔ ∃ a, x = .ok a ∧ f a = .ok b := by
  cases x with
  | error e => simp [bind, Except.bind]
  | ok a => simp [bind, Except.bind]

theorem bind_eq_error {x : Except ε α} {f : α → Except ε β} {e : ε} :
    x >>= f = .error e ↔ x = .error e ∨ ∃ a, x = .ok a ∧ f a = .error e := by
  cases x with
  | error e => simp [bind, Except.bind]
  | ok a => simp [bind, Except.bind]

theorem map_eq_ok {x : Except ε α} {f : α → β} {b : β} :
    x.map f = .ok b ↔ ∃ a, x = .ok a ∧ f a = b := by
  cases x with
  | error e => simp [Except.map]
  | ok a => simp [Except.map]

theorem map_eq_error {x : Except ε α} {f : α → β} {e : ε} : x.map f = .error e ↔ x = .error e := by
  cases x with
  | error e => simp [Except.map]
  | ok a => simp [Except.map]

theorem return_eq_ok {a b : α} : (return a : Except ε α) = .ok b ↔ a = b := by
  simp [pure, Except.pure]

theorem return_ne_error {a : α} {e : ε} : (return a : Except ε α) ≠ .error e := by
  simp [pure, Except.pure]

/-- Whatever goes wrong is such that `P`. -/
def OnlyFails (P : ε → Prop) (x : Except ε α) : Prop :=
  ∀ e, x = .error e → P e

namespace OnlyFails

variable {P : ε → Prop} {x : Except ε α}

theorem ok (a : α) : OnlyFails P (.ok a) := by
  intro e h
  cases h

theorem error {e : ε} (h : P e) : OnlyFails P (.error e : Except ε α) := by
  rintro _ ⟨⟩
  exact h

theorem bind {f : α → Except ε β} (hx : OnlyFails P x) (hf : ∀ a, OnlyFails P (f a)) :
    OnlyFails P (x >>= f) := by
  intro e h
  rcases bind_eq_error.1 h with h | ⟨a, -, h⟩
  · exact hx e h
  · exact hf a e h

/-- What is made of the result cannot go wrong. -/
theorem thenReturn (hx : OnlyFails P x) (f : α → β) :
    OnlyFails P (do let a ← x; return f a) :=
  hx.bind fun a => ok (f a)

theorem map (hx : OnlyFails P x) (f : α → β) : OnlyFails P (x.map f) := by
  cases x with
  | error e => exact error (hx e rfl)
  | ok a => exact ok (f a)

end OnlyFails

theorem exists_of_forall₂ {R : α → β → Prop} {as : List α} {bs : List β}
    (h : List.Forall₂ R as bs) {b : β} (hb : b ∈ bs) : ∃ a ∈ as, R a b := by
  induction h with
  | nil => cases hb
  | cons hab _ ih =>
    rcases List.mem_cons.1 hb with rfl | hb
    · exact ⟨_, List.mem_cons_self, hab⟩
    · obtain ⟨a, ha, hR⟩ := ih hb
      exact ⟨a, List.mem_cons_of_mem _ ha, hR⟩

/-- Where every member of a list is computed in turn, each result is that of its member. -/
theorem forall₂_of_collect {f : α → Except ε β} {collect : List α → Except ε (List β)}
    {as : List α} {bs : List β} (h : collect as = .ok bs) (hnil : collect [] = .ok [])
    (hcons : ∀ a rest, collect (a :: rest) = do
      let b ← f a
      let bs ← collect rest
      return b :: bs) :
    List.Forall₂ (fun a b => f a = .ok b) as bs := by
  induction as generalizing bs with
  | nil =>
    obtain rfl := Except.ok.inj (hnil.symm.trans h)
    exact .nil
  | cons a rest ih =>
    rw [hcons] at h
    obtain ⟨b, hb, h⟩ := bind_eq_ok.1 h
    obtain ⟨bs', hbs, h⟩ := bind_eq_ok.1 h
    obtain rfl := return_eq_ok.1 h
    exact .cons hb (ih hbs)

/-- Where that fails, it is over one of the members. -/
theorem exists_of_collect_error {f : α → Except ε β} {collect : List α → Except ε (List β)}
    {as : List α} {e : ε} (h : collect as = .error e) (hnil : collect [] = .ok [])
    (hcons : ∀ a rest, collect (a :: rest) = do
      let b ← f a
      let bs ← collect rest
      return b :: bs) :
    ∃ a ∈ as, f a = .error e := by
  induction as with
  | nil => cases hnil.symm.trans h
  | cons a rest ih =>
    rw [hcons] at h
    rcases bind_eq_error.1 h with h | ⟨b, -, h⟩
    · exact ⟨a, List.mem_cons_self, h⟩
    · rcases bind_eq_error.1 h with h | ⟨bs, -, h⟩
      · obtain ⟨a', ha', herr⟩ := ih h
        exact ⟨a', List.mem_cons_of_mem _ ha', herr⟩
      · exact absurd h return_ne_error

end FeatureCatalog
