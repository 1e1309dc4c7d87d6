import FeatureCatalog.Attributes
import FeatureCatalog.Proofs.Dict
import FeatureCatalog.Proofs.Outcome

/-! Reading what has been written. `Record.Reads r entries a` says that the fields of `r` find in
`entries` what `a` is made of; for entries in order this is all that it takes to read `a`. -/

namespace FeatureCatalog

namespace Decoder

variable {α β : Type}

theorem list_map {d : Decoder α} {toJson : α → Json} {as : List α}
    (h : ∀ a ∈ as, d (toJson a) = .ok a) : d.list (.arr (as.map toJson)) = .ok as := by
  change items d (as.map toJson) = .ok as
  induction as with
  | nil => rfl
  | cons a rest ih =>
    obtain ⟨hhead, hrest⟩ := List.forall_mem_cons.1 h
    rw [List.map_cons, items, hhead, ih hrest]
    rfl

theorem values_map {d : Decoder α} {toJson : α → Json} {entries : List (String × α)}
    (h : ∀ e ∈ entries, d (toJson e.2) = .ok e.2) :
    values d (entries.map fun e => (e.1, toJson e.2)) = .ok entries := by
  induction entries with
  | nil => rfl
  | cons e rest ih =>
    obtain ⟨hhead, hrest⟩ := List.forall_mem_cons.1 h
    rw [List.map_cons, values, hhead, ih hrest]
    rfl

theorem dict_mapValues {d : Decoder α} {toJson : α → Json} {dict : Dict α}
    (h : ∀ k a, dict.get? k = some a → d (toJson a) = .ok a) :
    d.dict (.obj (dict.mapValues toJson).entries) = .ok dict := by
  have hvalues : values d (dict.mapValues toJson).entries = .ok dict.entries :=
    values_map fun e he => h e.1 e.2 (Dict.mem_entries.1 he)
  rw [Decoder.dict, hvalues]
  exact congrArg Except.ok dict.ofList_entries

@[simp] theorem text_str (s : String) : text (.str s) = .ok s := rfl

theorem dict_ofTags (tags : Dict String) : text.dict (Json.ofTags tags) = .ok tags :=
  dict_mapValues fun _ _ _ => rfl

theorem list_ofTexts (texts : List String) : text.list (Json.ofTexts texts) = .ok texts :=
  list_map fun _ _ => rfl

@[simp] theorem word_ofUInt64 (n : UInt64) : word (.num (.ofUInt64 n)) = .ok n := by
  have h := Number.toUInt64?_ofUInt64 n
  simp only [Number.ofUInt64] at h ⊢
  simp only [word, h]

end Decoder

/-- One key at most belongs to the field, and what stands under it suits the field. -/
structure FieldSpec.Suits (f : FieldSpec) (entries : Bag) : Prop where
  once : ∀ {j k v w}, f.goesBy j = true → f.goesBy k = true → Entries.get? j entries = some v →
    Entries.get? k entries = some w → j = k
  check : ∀ {k v}, f.goesBy k = true → Entries.get? k entries = some v → f.check v = .ok ()

theorem FieldSpec.goesBy_iff {f : FieldSpec} {k : String} :
    f.goesBy k = true ↔ k = f.name ∨ k ∈ f.aliases := by
  simp [goesBy]

namespace Record

variable {α β : Type} {entries : Bag}

/-- Entries in order pass the check if they suit all fields, whose names are distinct. -/
theorem checkEntries_eq_ok {fields : List FieldSpec} (hnames : (fields.map (·.name)).Nodup)
    (hordered : Entries.Ordered entries) (hsuits : ∀ f ∈ fields, f.Suits entries) :
    checkEntries fields [] entries = .ok () := by
  -- the names in `seen` are those of fields to which entries belong that have been passed
  suffices h : ∀ (rest passed : Bag) (seen : List String), entries = passed ++ rest →
      (∀ n ∈ seen, ∃ f ∈ fields, f.name = n ∧ ∃ e ∈ passed, f.goesBy e.1 = true) →
      checkEntries fields seen rest = .ok () from
    h entries [] [] rfl (by simp)
  intro rest
  induction rest with
  | nil => intros; rfl
  | cons e rest ih =>
    intro passed seen hentries hseen
    have hnext : entries = (passed ++ [e]) ++ rest := by rw [hentries, List.append_assoc]; rfl
    have hget : Entries.get? e.1 entries = some e.2 :=
      hordered.get?_of_mem (by rw [hentries]; simp)
    have hpassed : e.1 ∉ passed.map (·.1) := by
      have hnodup := hordered.nodup_keys
      rw [hentries, List.map_append, List.map_cons] at hnodup
      exact fun hin => (List.nodup_append.1 hnodup).2.2 _ hin _ List.mem_cons_self rfl
    have hgrow : ∀ n ∈ seen, ∃ f ∈ fields, f.name = n ∧ ∃ a ∈ passed ++ [e], f.goesBy a.1 = true := by
      intro n hn
      obtain ⟨f, hf, hname, a, ha, hgoes⟩ := hseen n hn
      exact ⟨f, hf, hname, a, List.mem_append_left _ ha, hgoes⟩
    rw [checkEntries]
    split
    · exact ih (passed ++ [e]) seen hnext hgrow
    · rename_i f hf
      have hfield : f ∈ fields := List.mem_of_find?_eq_some hf
      have hgoes : f.goesBy e.1 = true := by simpa using List.find?_some hf
      have hunseen : f.name ∉ seen := by
        intro hin
        obtain ⟨g, hg, hname, a, ha, hgoes'⟩ := hseen _ hin
        obtain rfl := List.inj_on_of_nodup_map hnames hg hfield hname
        have hgeta : Entries.get? a.1 entries = some a.2 :=
          hordered.get?_of_mem (by rw [hentries]; exact List.mem_append_left _ ha)
        have hkey := (hsuits g hfield).once hgoes hgoes' hget hgeta
        exact hpassed (hkey ▸ List.mem_map_of_mem ha)
      rw [if_neg (by simpa using hunseen), (hsuits f hfield).check hgoes hget]
      refine ih (passed ++ [e]) (f.name :: seen) hnext fun n hn => ?_
      rcases List.mem_cons.1 hn with rfl | hn
      · exact ⟨f, hfield, rfl, e, by simp, hgoes⟩
      · exact hgrow n hn

/-- The fields of `r` find in the entries what `a` is made of. -/
structure Reads (r : Record α) (entries : Bag) (a : α) : Prop where
  suits : ∀ f ∈ r.fields, f.Suits entries
  ofEntries : r.ofEntries entries = .ok a

/-- Entries in order are read, if the names of the fields are distinct. -/
theorem Reads.ofBag {r : Record α} {a : α} (h : r.Reads entries a)
    (hordered : Entries.Ordered entries) (hnames : (r.fields.map (·.name)).Nodup) :
    r.ofBag entries = .ok a := by
  rw [Record.ofBag, checkEntries_eq_ok hnames hordered h.suits]
  exact h.ofEntries

theorem Reads.seq {f : Record (α → β)} {x : Record α} {g : α → β} {a : α}
    (hf : f.Reads entries g) (hx : x.Reads entries a) : (f <*> x).Reads entries (g a) where
  suits field h := (List.mem_append.1 h).elim (hf.suits field) (hx.suits field)
  ofEntries := by
    change (do let g ← f.ofEntries entries; let a ← x.ofEntries entries; return g a) = _
    rw [hf.ofEntries, hx.ofEntries]
    rfl

theorem Reads.map {x : Record α} {a : α} (g : α → β) (hx : x.Reads entries a) :
    (g <$> x).Reads entries (g a) where
  suits := hx.suits
  ofEntries := by
    change (do let a ← x.ofEntries entries; return g a) = _
    rw [hx.ofEntries]
    rfl

/-- Where no other key of a field occurs, the field has the value under `key`. -/
theorem valueOf?_eq {name key : String} {aliases : List String}
    (hkey : key = name ∨ key ∈ aliases)
    (h : ∀ k, k = name ∨ k ∈ aliases → k ≠ key → Entries.get? k entries = none) :
    valueOf? name aliases entries = Entries.get? key entries := by
  induction entries with
  | nil => rfl
  | cons e rest ih =>
    have hrest : ∀ k, k = name ∨ k ∈ aliases → k ≠ key → Entries.get? k rest = none := by
      intro k hk hne
      have hnone := h k hk hne
      rw [Entries.get?_cons] at hnone
      split at hnone
      · cases hnone
      · exact hnone
    rw [valueOf?, Entries.get?_cons, ih hrest]
    have hgoes : (e.1 == name || aliases.contains e.1) = true ↔ e.1 = name ∨ e.1 ∈ aliases := by
      simp
    by_cases heq : key = e.1
    · rw [if_pos heq, if_pos (hgoes.2 (heq ▸ hkey))]
    · rw [if_neg heq, if_neg]
      intro hin
      have hnone := h e.1 (hgoes.1 hin) (Ne.symm heq)
      rw [Entries.get?_cons, if_pos rfl] at hnone
      cases hnone

/-! ### What has been read -/

theorem ofBag_eq_ok {r : Record α} {a : α} : r.ofBag entries = .ok a ↔
    checkEntries r.fields [] entries = .ok () ∧ r.ofEntries entries = .ok a := by
  unfold ofBag
  rw [bind_eq_ok]
  exact ⟨fun ⟨_, h⟩ => h, fun h => ⟨(), h⟩⟩

theorem ofBag_of_read {r : Record α} {entity : String} {a : α}
    (h : r.read entity entries = .ok a) : r.ofBag entries = .ok a := by
  unfold Record.read at h
  cases hbag : r.ofBag entries with
  | error cause =>
    rw [hbag] at h
    cases h
  | ok b =>
    rw [hbag] at h
    exact congrArg Except.ok (Except.ok.inj h)

theorem ofEntries_of_read {r : Record α} {entity : String} {a : α}
    (h : r.read entity entries = .ok a) : r.ofEntries entries = .ok a :=
  (ofBag_eq_ok.1 (ofBag_of_read h)).2

theorem ofEntries_seq_eq_ok {f : Record (α → β)} {x : Record α} {b : β} :
    (f <*> x).ofEntries entries = .ok b ↔
      ∃ g, f.ofEntries entries = .ok g ∧ ∃ a, x.ofEntries entries = .ok a ∧ g a = b := by
  change (do let g ← f.ofEntries entries; let a ← x.ofEntries entries; return g a) = _ ↔ _
  simp only [bind_eq_ok, return_eq_ok]

theorem ofEntries_map_eq_ok {x : Record α} {g : α → β} {b : β} :
    (g <$> x).ofEntries entries = .ok b ↔ ∃ a, x.ofEntries entries = .ok a ∧ g a = b := by
  change (do let a ← x.ofEntries entries; return g a) = _ ↔ _
  simp only [bind_eq_ok, return_eq_ok]

section Aliases

variable {fields : List FieldSpec} {f : FieldSpec}
  (hfield : ∀ k, f.goesBy k = true → fields.find? (·.goesBy k) = some f)
include hfield

/-- No entry that passes the check belongs to a field that has been met before. -/
theorem goesBy_eq_false_of_checkEntries {seen : List String}
    (h : checkEntries fields seen entries = .ok ()) (hseen : f.name ∈ seen) :
    ∀ e ∈ entries, f.goesBy e.1 = false := by
  induction entries generalizing seen with
  | nil => simp
  | cons e rest ih =>
    rw [checkEntries] at h
    have hhead : f.goesBy e.1 = false := by
      refine Bool.eq_false_iff.2 fun hgoes => ?_
      simp only [hfield e.1 hgoes, List.contains_iff_mem, if_pos hseen] at h
      cases h
    refine List.forall_mem_cons.2 ⟨hhead, ?_⟩
    split at h
    · exact ih h hseen
    · split at h
      · cases h
      · obtain ⟨-, -, h⟩ := bind_eq_ok.1 h
        exact ih h (List.mem_cons_of_mem _ hseen)

/-- Of entries that pass the check, a field that occurs under its name has the value there. -/
theorem valueOf?_of_checkEntries {seen : List String} {v : Json}
    (h : checkEntries fields seen entries = .ok ()) (hget : Entries.get? f.name entries = some v) :
    valueOf? f.name f.aliases entries = some v := by
  induction entries generalizing seen with
  | nil => cases hget
  | cons e rest ih =>
    have hgoes : valueOf? f.name f.aliases (e :: rest) =
      if f.goesBy e.1 then some e.2 else valueOf? f.name f.aliases rest := rfl
    rw [hgoes]
    rw [checkEntries] at h
    rw [Entries.get?_cons] at hget
    split
    · rename_i hby
      split at hget
      · exact hget
      · -- the field would occur under an alias first, and then under its name
        simp only [hfield e.1 hby] at h
        split at h
        · cases h
        · obtain ⟨-, -, h⟩ := bind_eq_ok.1 h
          have hrest := goesBy_eq_false_of_checkEntries hfield h List.mem_cons_self _
            (Entries.mem_of_get? hget)
          simp [FieldSpec.goesBy] at hrest
    · rename_i hby
      have hne : f.name ≠ e.1 := by
        rintro heq
        simp [FieldSpec.goesBy, heq] at hby
      rw [if_neg hne] at hget
      split at h
      · exact ih h hget
      · split at h
        · cases h
        · obtain ⟨-, -, h⟩ := bind_eq_ok.1 h
          exact ih h hget

end Aliases

/-! ### What will be read -/

section Fields

variable {name : String} {d : Decoder α} {j : Json} {a : α}

/-- A field is read under whichever of its keys it is given. -/
theorem reads_under {key : String} {aliases : List String} {absent : Option α}
    (hkey : key = name ∨ key ∈ aliases) (hget : Entries.get? key entries = some j)
    (hread : d j = .ok a)
    (hothers : ∀ k, k = name ∨ k ∈ aliases → k ≠ key → Entries.get? k entries = none) :
    (field name aliases d absent).Reads entries a where
  suits f hf := by
    obtain rfl := List.mem_singleton.1 hf
    have honly : ∀ {k v}, FieldSpec.goesBy ⟨name, aliases, fun j => (d j).map fun _ => ()⟩ k = true →
        Entries.get? k entries = some v → k = key := by
      intro k v hgoes hv
      by_contra hne
      rw [hothers k (FieldSpec.goesBy_iff.1 hgoes) hne] at hv
      cases hv
    refine ⟨fun hj hk hv hw => (honly hj hv).trans (honly hk hw).symm, fun hk hv => ?_⟩
    obtain rfl := honly hk hv
    obtain rfl := Option.some.inj (hget.symm.trans hv)
    simp [hread, Except.map]
  ofEntries := by
    simp only [field, (valueOf?_eq hkey hothers).trans hget, hread]

theorem reads_field {aliases : List String} {absent : Option α}
    (hget : Entries.get? name entries = some j) (hread : d j = .ok a)
    (haliases : ∀ k ∈ aliases, Entries.get? k entries = none) :
    (field name aliases d absent).Reads entries a :=
  reads_under (.inl rfl) hget hread fun k hk hne => haliases k (hk.resolve_left hne)

theorem reads_required (hget : Entries.get? name entries = some j) (hread : d j = .ok a) :
    (required name d).Reads entries a :=
  reads_field hget hread (by simp)

theorem reads_text {text : String} (hget : Entries.get? name entries = some (.str text)) :
    (required name Decoder.text).Reads entries text :=
  reads_required hget rfl

theorem reads_defaulted {absent : α} (hget : Entries.get? name entries = some j)
    (hread : d j = .ok a) : (defaulted name d absent).Reads entries a :=
  reads_field hget hread (by simp)

theorem reads_absent {absent : α} (hget : Entries.get? name entries = none) :
    (field name [] d (some absent)).Reads entries absent where
  suits f hf := by
    obtain rfl := List.mem_singleton.1 hf
    have hnone : ∀ {k v}, FieldSpec.goesBy ⟨name, [], fun j => (d j).map fun _ => ()⟩ k = true →
        Entries.get? k entries ≠ some v := by
      intro k v hgoes hv
      obtain rfl : k = name := by simpa using FieldSpec.goesBy_iff.1 hgoes
      simp [hget] at hv
    exact ⟨fun hj _ hv _ => absurd hv (hnone hj), fun hk hv => absurd hv (hnone hk)⟩
  ofEntries := by
    have hvalue : valueOf? name [] entries = none :=
      (valueOf?_eq (.inl rfl) (by simp)).trans hget
    simp only [field, hvalue]

/-- A field that may be absent reads as what is given, which `toJson` does not write as `null`. -/
theorem reads_optional {toJson : α → Json} {value : Option α}
    (hget : Entries.get? name entries = value.map toJson)
    (hread : ∀ a ∈ value, d (toJson a) = .ok a) (hnull : ∀ a ∈ value, toJson a ≠ .null) :
    (optional name d).Reads entries value := by
  cases value with
  | none => exact reads_absent hget
  | some a =>
    refine reads_field hget ?_ (by simp)
    unfold Decoder.nullable
    split
    · rename_i heq
      exact absurd heq (hnull a rfl)
    · rw [hread a rfl]
      rfl

theorem reads_text? {text : Option String}
    (hget : Entries.get? name entries = text.map .str) :
    (optional name Decoder.text).Reads entries text :=
  reads_optional hget (fun _ _ => rfl) (fun _ _ => nofun)

theorem reads_tags {tags : Dict String}
    (hget : Entries.get? name entries = some (Json.ofTags tags)) :
    (optional name (Decoder.dict Decoder.text)).Reads entries (some tags) :=
  reads_field hget (by rw [show (Decoder.dict Decoder.text).nullable (Json.ofTags tags) =
    (Decoder.dict Decoder.text (Json.ofTags tags)).map some from rfl, Decoder.dict_ofTags]; rfl)
    (by simp)

end Fields

end Record

end FeatureCatalog
