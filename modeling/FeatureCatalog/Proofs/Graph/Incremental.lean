import FeatureCatalog.Proofs.Graph.Postorder

/-! Orders of requests that grow. A visit only ever adds to what has been placed, and does nothing
more where all inputs have been placed before. So further requests come after what is in order
already, and an order that is requested comes back as it is. -/

namespace FeatureCatalog.Graph

variable {g : Graph} {requested : List DerivedKey}

namespace Grounded

/-! ### Visits -/

theorem isPrefix_foldl_visit {ks : List (Grounded g)}
    (h : ∀ u ∈ ks, ∀ placed, placed <+: u.visit placed) (placed : List DerivedKey) :
    placed <+: ks.foldl visit placed := by
  induction ks generalizing placed with
  | nil => exact List.prefix_refl placed
  | cons u rest ih =>
    obtain ⟨hhead, hrest⟩ := List.forall_mem_cons.1 h
    exact (hhead placed).trans (ih hrest _)

/-- What has been placed stays where it is. -/
theorem isPrefix_visit (k : Grounded g) (placed : List DerivedKey) : placed <+: k.visit placed := by
  induction k using Grounded.induct generalizing placed with
  | h k ih =>
    by_cases hmem : k.key ∈ placed
    · exact (visit_of_mem hmem).symm ▸ List.prefix_refl placed
    · rw [visit_of_not_mem hmem]
      have hinputs := isPrefix_foldl_visit (fun u hu => ih u (isInput_of_mem_inputs hu)) placed
      exact hinputs.trans (List.prefix_append _ _)

theorem foldl_visit_of_forall_mem {ks : List (Grounded g)} {placed : List DerivedKey}
    (h : ∀ u ∈ ks, u.key ∈ placed) : ks.foldl visit placed = placed := by
  induction ks with
  | nil => rfl
  | cons u rest ih =>
    obtain ⟨hhead, hrest⟩ := List.forall_mem_cons.1 h
    rw [List.foldl_cons, visit_of_mem hhead, ih hrest]

/-- A feature whose inputs have all been placed is placed at once. -/
theorem visit_of_inputs_mem {k : Grounded g} {placed : List DerivedKey} (hk : k.key ∉ placed)
    (h : ∀ u ∈ g.dependencies k.key, u ∈ placed) : k.visit placed = placed ++ [k.key] := by
  rw [visit_of_not_mem hk, foldl_visit_of_forall_mem fun u hu => h _ (isInput_of_mem_inputs hu)]

/-- What is in order is placed as it stands. -/
theorem foldl_visit_of_isOrder {placed : List DerivedKey} {ks : List (Grounded g)}
    (h : Walk.IsOrder g requested (placed ++ ks.map (·.key))) :
    ks.foldl visit placed = placed ++ ks.map (·.key) := by
  induction ks generalizing placed with
  | nil => simp
  | cons k rest ih =>
    have hkeys : placed ++ (k :: rest).map (·.key) = (placed ++ [k.key]) ++ rest.map (·.key) := by
      simp
    have hk : k.key ∉ placed := fun hmem => h.not_mem_of_mem_before rfl hmem List.mem_cons_self
    rw [List.foldl_cons, visit_of_inputs_mem hk (h.after placed k.key _ rfl), hkeys]
    exact ih (hkeys ▸ h)

theorem exists_map_key {keys : List DerivedKey} (h : ∀ k ∈ keys, Acc g.IsInput k) :
    ∃ ks : List (Grounded g), ks.map (·.key) = keys :=
  ⟨keys.attach.map fun k => ⟨k.1, h k.1 k.2⟩, by simp⟩

end Grounded

/-! ### Orders -/

/-- Derived features that depend on no cycle are visited in turn. -/
theorem order_map_key (ks : List (Grounded g)) :
    g.order (ks.map (·.key)) = .ok (ks.foldl Grounded.visit []) := by
  have hrun := (Walk.traced_start g _).run_roots (g.within_start _) ks rfl rfl
  rw [order, hrun]
  rfl

/-- Where requests have an order, those made first have an order by themselves, and it is the
beginning of the whole; and the order, if it is what is requested, is the order that is found. -/
theorem order_is_incremental {first second keys : List DerivedKey}
    (h : g.order (first ++ second) = .ok keys) :
    (∃ before, g.order first = .ok before ∧ before <+: keys) ∧ g.order keys = .ok keys := by
  have horder := isOrder_of_order h
  have hacyclic := isAcyclicFor_of_order h
  constructor
  · obtain ⟨as, rfl⟩ := Grounded.exists_map_key fun k hk =>
      hacyclic.acc (List.mem_append_left second hk)
    obtain ⟨bs, rfl⟩ := Grounded.exists_map_key fun k hk =>
      hacyclic.acc (List.mem_append_right (as.map (·.key)) hk)
    rw [← List.map_append, order_map_key, List.foldl_append] at h
    obtain rfl := Except.ok.inj h
    exact ⟨_, order_map_key as, Grounded.isPrefix_foldl_visit (fun u _ => u.isPrefix_visit) _⟩
  · obtain ⟨ks, rfl⟩ := Grounded.exists_map_key fun k hk => horder.acc hk
    have hplaced : ks.foldl Grounded.visit [] = ks.map (·.key) :=
      Grounded.foldl_visit_of_isOrder horder
    rw [order_map_key, hplaced]

/-- The third feature and the first that it consumes stay in front when the last one is requested,
too. -/
theorem diamond_order_is_incremental :
    diamond.order ([⟨2⟩] ++ [⟨3⟩, ⟨2⟩]) = .ok [⟨0⟩, ⟨2⟩, ⟨1⟩, ⟨3⟩] ∧
    (∃ before, diamond.order [⟨2⟩] = .ok before ∧
      before <+: ([⟨0⟩, ⟨2⟩, ⟨1⟩, ⟨3⟩] : List DerivedKey)) ∧
    diamond.order [⟨0⟩, ⟨2⟩, ⟨1⟩, ⟨3⟩] = .ok [⟨0⟩, ⟨2⟩, ⟨1⟩, ⟨3⟩] := by
  have horder : diamond.order ([⟨2⟩] ++ [⟨3⟩, ⟨2⟩]) = .ok [⟨0⟩, ⟨2⟩, ⟨1⟩, ⟨3⟩] := order_diamond
  exact ⟨horder, order_is_incremental horder⟩

end FeatureCatalog.Graph
