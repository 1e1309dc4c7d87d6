import FeatureCatalog.Config
import FeatureCatalog.Proofs.Store.Reachable

/-! Qualified names of different projects. The check of a project's name keeps `__` out of it, but
not an underscore from its end, so the name and the `__` after it can be read in two ways. Main
statement: two projects that pass the check share a qualified name in this way only, where the name
of one is that of the other with an underscore after it and the rest of the other starts with the
underscore that is missing. -/

namespace FeatureCatalog

/-! ### Joints -/

/-- The text has a joint where two underscores stand in it side by side. -/
theorem RegistryConfig.hasJoint_iff {cs : List Char} :
    RegistryConfig.hasJoint cs = true ↔ ['_', '_'] <:+: cs := by
  induction cs with
  | nil => simp [RegistryConfig.hasJoint]
  | cons c rest ih =>
    rw [List.infix_cons_iff, List.cons_prefix_cons, ← ih, RegistryConfig.hasJoint.eq_def]
    split
    · rename_i rest' heq
      obtain ⟨rfl, rfl⟩ := List.cons.inj heq
      simp
    · rename_i c' rest' hne heq
      obtain ⟨rfl, rfl⟩ := List.cons.inj heq
      constructor
      · exact .inr
      · rintro (⟨rfl, h⟩ | h)
        · obtain ⟨t, rfl⟩ := h
          exact absurd rfl (hne t rfl)
        · exact h
    · rename_i heq
      cases heq

/-- A configuration that passes the checks has an endpoint, and a project whose name has no
joint. -/
theorem RegistryConfig.validate_eq_ok {c : RegistryConfig} :
    c.validate = .ok () ↔ Text.isBlankText c.endpoint = false ∧
      Text.isBlankText c.project = false ∧ ¬['_', '_'] <:+: c.project.toList := by
  rw [← RegistryConfig.hasJoint_iff]
  unfold RegistryConfig.validate RegistryConfig.fault?
  cases Text.isBlankText c.endpoint <;> cases Text.isBlankText c.project <;>
    cases RegistryConfig.hasJoint c.project.toList <;> simp

/-! ### Names and what follows them -/

/-- Where the first of two texts is the shorter one and the second has no joint, they can be
followed by joints in the same way only if they are the same up to an underscore. -/
theorem eq_of_append_joint {p t r s : List Char} (hq : ¬['_', '_'] <:+: p ++ t)
    (h : '_' :: '_' :: r = t ++ '_' :: '_' :: s) :
    t = [] ∨ t = ['_'] ∧ r = '_' :: s := by
  match t with
  | [] => exact .inl rfl
  | [c] =>
    simp only [List.cons_append, List.nil_append, List.cons.injEq] at h
    obtain ⟨rfl, -, hr⟩ := h
    exact .inr ⟨rfl, hr⟩
  | c :: d :: t =>
    -- `c` and `d` are the joint after the first text, and they stand in the second one.
    simp only [List.cons_append, List.cons.injEq] at h
    obtain ⟨rfl, rfl, -⟩ := h
    exact absurd ⟨p, t, by simp⟩ hq

/-- A qualified name is the project's with the names of the chain after it. -/
theorem qualifiedName_eq (project : String) {chain : List String} (h : chain ≠ []) :
    qualifiedName project chain = project ++ "__" ++ "__".intercalate chain := by
  induction chain generalizing project with
  | nil => exact absurd rfl h
  | cons part rest ih =>
    cases rest with
    | nil => simp [qualifiedName]
    | cons part' rest =>
      rw [qualifiedName, ih _ (by simp), String.intercalate_cons_cons]
      simp only [String.append_assoc]

/-- The name of the second project is that of the first with an underscore after it, and the chain
of the first starts with the underscore that is missing. -/
structure MeetsAcross (p : String) (c : List String) (q : String) (d : List String) : Prop where
  project : q = p ++ "_"
  chain : "__".intercalate c = "_" ++ "__".intercalate d

instance (p : String) (c : List String) (q : String) (d : List String) :
    Decidable (MeetsAcross p c q d) :=
  decidable_of_iff (q = p ++ "_" ∧ "__".intercalate c = "_" ++ "__".intercalate d)
    ⟨fun h => ⟨h.1, h.2⟩, fun h => ⟨h.project, h.chain⟩⟩

theorem MeetsAcross.qualifiedName_eq {p q : String} {c d : List String} (h : MeetsAcross p c q d)
    (hc : c ≠ []) (hd : d ≠ []) : qualifiedName p c = qualifiedName q d := by
  rw [FeatureCatalog.qualifiedName_eq p hc, FeatureCatalog.qualifiedName_eq q hd, h.project,
    h.chain]
  simp only [← String.toList_inj, String.toList_append, List.append_assoc]
  rfl

theorem meetsAcross_of_append {p q : String} {c d : List String} {t : List Char} (hne : p ≠ q)
    (hq : ¬['_', '_'] <:+: q.toList) (ht : q.toList = p.toList ++ t)
    (h : ("__" ++ "__".intercalate c).toList = t ++ ("__" ++ "__".intercalate d).toList) :
    MeetsAcross p c q d := by
  rw [String.toList_append, String.toList_append] at h
  rcases eq_of_append_joint (ht ▸ hq) h with rfl | ⟨rfl, hchain⟩
  · rw [List.append_nil, String.toList_inj] at ht
    exact absurd ht.symm hne
  · exact ⟨String.toList_inj.1 (by simpa using ht), String.toList_inj.1 (by simpa using hchain)⟩

/-- Of two different projects that pass the check, entities share a qualified name just where the
projects' names are the same up to an underscore at the end of one, and the other's chain of names
starts with it. So where neither project's name ends in an underscore, or no chain starts with one,
no two entities do. -/
theorem qualifiedName_eq_iff_meetsAcross {a b : RegistryConfig} (ha : a.validate = .ok ())
    (hb : b.validate = .ok ()) (hne : a.project ≠ b.project) {c d : List String} (hc : c ≠ [])
    (hd : d ≠ []) :
    qualifiedName a.project c = qualifiedName b.project d ↔
      MeetsAcross a.project c b.project d ∨ MeetsAcross b.project d a.project c := by
  obtain ⟨-, -, hpa⟩ := RegistryConfig.validate_eq_ok.1 ha
  obtain ⟨-, -, hpb⟩ := RegistryConfig.validate_eq_ok.1 hb
  constructor
  · intro h
    rw [qualifiedName_eq _ hc, qualifiedName_eq _ hd, String.append_assoc, String.append_assoc,
      ← String.toList_inj, String.toList_append, String.toList_append (s := b.project)] at h
    rcases List.append_eq_append_iff.1 h with ⟨t, ht, h⟩ | ⟨t, ht, h⟩
    · exact .inl (meetsAcross_of_append hne hpb ht h)
    · exact .inr (meetsAcross_of_append hne.symm hpa ht h)
  · rintro (h | h)
    · exact h.qualifiedName_eq hc hd
    · exact (h.qualifiedName_eq hd hc).symm

namespace RegistryConfig

/-- A feature of an anchor in one project, and a source of another one. -/
theorem qualifiedName_eq_iff_meetsAcross_underscored :
    (ofNames "http://localhost" "a").validate = .ok () ∧
    (ofNames "http://localhost" "a_").validate = .ok () ∧
    qualifiedName "a" ["_x", "f"] = qualifiedName "a_" ["x__f"] ∧
    qualifiedName "a" ["x", "f"] ≠ qualifiedName "a_" ["x__f"] := by
  have ha : (ofNames "http://localhost" "a").validate = .ok () := by decide +kernel
  have hb : (ofNames "http://localhost" "a_").validate = .ok () := by decide +kernel
  have hne : (ofNames "http://localhost" "a").project ≠ (ofNames "http://localhost" "a_").project :=
    by decide
  refine ⟨ha, hb, ?_, fun h => ?_⟩
  · exact (qualifiedName_eq_iff_meetsAcross ha hb hne (List.cons_ne_nil _ _)
      (List.cons_ne_nil _ _)).2 (by decide +kernel)
  · exact absurd ((qualifiedName_eq_iff_meetsAcross ha hb hne (List.cons_ne_nil _ _)
      (List.cons_ne_nil _ _)).1 h) (by decide +kernel)

end RegistryConfig

namespace Store

/-- A registry with two projects, called `a` and `a_`, the first of which has a source called
`_b`. -/
def underscored : Store :=
  let s := ((empty none).create .counting ["projects"] (.obj [("name", .str "a")]) []).2
  let s := (s.create .counting ["projects", (EntityId.ofBits 0).text, "datasources"]
    (.obj [("name", .str "_b")]) []).2
  (s.create .counting ["projects"] (.obj [("name", .str "a_")]) []).2

theorem reachable_underscored : Reachable .counting underscored := by
  refine Reachable.create_counting (Reachable.create_counting (Reachable.create_counting
    (Reachable.empty none) 0 rfl ?_ rfl) 1 ?_ ?_ ?_) 2 ?_ ?_ ?_ <;> decide +kernel

/-- Both projects pass the checks, yet a source called `b` is refused in the second, as the source
of the first has its qualified name. -/
theorem underscored_name_is_taken :
    (RegistryConfig.ofNames "http://localhost" "a").validate = .ok () ∧
    (RegistryConfig.ofNames "http://localhost" "a_").validate = .ok () ∧ "a" ≠ "a_" ∧
    qualifiedName "a" ["_b"] = qualifiedName "a_" ["b"] ∧
    Reachable .counting underscored ∧
    underscored.contents.projectName (.ofBits 2) = .ok "a_" ∧
    (underscored.create .counting ["projects", (EntityId.ofBits 2).text, "datasources"]
      (.obj [("name", .str "b")]) []).1 =
        .error ⟨409, "entity `a___b` already exists with a different definition"⟩ := by
  refine ⟨?_, ?_, ?_, ?_, reachable_underscored, ?_,
    map_eq_error (f := CreatedEntity.guid).1 ?_⟩ <;> decide +kernel

end Store

end FeatureCatalog
