import FeatureCatalog.Proofs.Registration.Checks

/-! Sources and the bags that they are written as. A source is refused only for an option with a
reserved key; any other source is read back from its bag, apart from what the bag has no room for.
Whatever bag a source is read from, it can be written again. -/

namespace FeatureCatalog

open Record

theorem Snowflake.exists_of_ofPath {path : String} {kind : SourceKind}
    (h : Snowflake.ofPath path = .ok kind) :
    ∃ database schema target, kind = .snowflake database schema target := by
  unfold Snowflake.ofPath at h
  split at h
  · dsimp only at h
    split at h
    · obtain ⟨database, -, h⟩ := bind_eq_ok.1 h
      obtain ⟨schema, -, h⟩ := bind_eq_ok.1 h
      exact ⟨_, _, _, (return_eq_ok.1 h).symm⟩
    · cases h
  · cases h

namespace Source

/-- The source is read back as `t`, which is not registered. A context source comes back without
preprocessing and timestamps, and an empty mode of a generic source as none. -/
structure ReadBack (s t : Source) : Prop where
  name : t.name = s.name
  kind : t.kind = match s.kind with
    | .generic g => .generic { g with mode := if g.mode = some "" then none else g.mode }
    | kind => kind
  preprocessing : t.preprocessing = if s.kind = .context then none else s.preprocessing
  eventTimestampColumn :
    t.eventTimestampColumn = if s.kind = .context then none else s.eventTimestampColumn
  timestampFormat : t.timestampFormat = if s.kind = .context then none else s.timestampFormat
  tags : t.tags = s.tags
  registration : t.registration = none

theorem isContext_iff (s : Source) : s.isContext = true ↔ s.kind = .context := by
  unfold isContext
  cases s.kind <;> simp

theorem readBack_kept (s : Source) : s.ReadBack { s.kept with registration := none } := by
  by_cases hcontext : s.kind = .context
  · have hkept : s.kept = { s with
        preprocessing := none, eventTimestampColumn := none, timestampFormat := none } :=
      if_pos (s.isContext_iff.2 hcontext)
    rw [hkept]
    exact ⟨rfl, by rw [hcontext], (if_pos hcontext).symm, (if_pos hcontext).symm,
      (if_pos hcontext).symm, rfl, rfl⟩
  · have hkept : s.kept = { s with kind := s.kind.kept } :=
      if_neg fun h => hcontext (s.isContext_iff.1 h)
    rw [hkept]
    refine ⟨rfl, ?_, (if_neg hcontext).symm, (if_neg hcontext).symm, (if_neg hcontext).symm, rfl,
      rfl⟩
    cases hkind : s.kind with
    | generic g =>
      have hmode : g.mode.filter (· ≠ "") = if g.mode = some "" then none else g.mode := by
        cases g.mode with
        | none => rfl
        | some mode => by_cases hempty : mode = "" <;> simp [Option.filter, hempty]
      simp only [SourceKind.kept, hmode]
    | _ => rfl

/-- The bag that a source is written as holds the source. -/
theorem isIn_bag (s : Source) (h : s.kind.reservedKey? = none) : s.IsIn s.bag :=
  ⟨s.ordered_bag, h, fun _ _ => rfl⟩

/-- Writing a source fails exactly if it has an option with a reserved key. Whatever is written is
read back, whoever reads it. -/
theorem encode_decode (s : Source) :
    ((∃ e, s.encode = .error e) ↔ ∃ key, s.HasReservedOption key) ∧
      ∀ bag entity, s.encode = .ok bag → ∃ t, decode entity bag = .ok t ∧ s.ReadBack t := by
  refine ⟨⟨?_, ?_⟩, ?_⟩
  · rintro ⟨e, he⟩
    obtain ⟨key, hreserved, -⟩ := encode_eq_error he
    exact ⟨key, hreserved⟩
  · rintro ⟨key, hreserved⟩
    cases hkey : s.kind.reservedKey? with
    | none => exact absurd hreserved (not_hasReservedOption hkey key)
    | some first => exact ⟨.reservedOption s.name first, by simp only [encode, hkey]⟩
  · intro bag entity hbag
    obtain ⟨hkind, rfl⟩ := encode_eq_ok.1 hbag
    exact ⟨_, decode_eq_ok (s.isIn_bag hkind) entity, s.readBack_kept⟩

/-! ### Sources that have been read -/

/-- No attribute becomes an option whose key is reserved. -/
theorem reservedKey?_optionsOf (format : String) (mode : Option String) (attrs : Bag) :
    (SourceKind.generic ⟨format, mode, optionsOf attrs⟩).reservedKey? = none := by
  refine List.find?_eq_none.2 fun key hkey => ?_
  obtain ⟨e, he, rfl⟩ := List.mem_map.1 hkey
  have hget := Dict.mem_entries.1 (show (e.1, e.2) ∈ (optionsOf attrs).entries from he)
  rw [optionsOf, Dict.get?_ofList] at hget
  obtain ⟨e', he', heq⟩ := List.mem_map.1 (List.mem_reverse.1 (Entries.mem_of_get? hget))
  rw [← congrArg Prod.fst heq]
  simpa using (List.mem_filter.1 he').2

/-- The kind is one that has been read from a bag of the given type: not that of a context source,
without options that are reserved, and without a mode that is empty. -/
structure IsReadAs (kind : SourceKind) (tag : String) : Prop where
  typeName : kind.typeName = tag
  not_context : kind ≠ .context
  writable : kind.reservedKey? = none
  kept : kind.kept = kind

theorem isReadAs_of_kindOf {entity : String} {attrs : Bag} {tag : String} {kind : SourceKind}
    (h : kindOf entity attrs tag = .ok kind) : IsReadAs kind tag := by
  unfold kindOf at h
  split at h
  · obtain ⟨path, -, h⟩ := bind_eq_ok.1 h
    obtain rfl := return_eq_ok.1 h
    exact ⟨rfl, nofun, rfl, rfl⟩
  · obtain ⟨f, hf, table, -, rfl⟩ := ofEntries_seq_eq_ok.1 (ofEntries_of_read h)
    obtain ⟨sql, -, rfl⟩ := ofEntries_map_eq_ok.1 hf
    exact ⟨rfl, nofun, rfl, rfl⟩
  · obtain ⟨fields, -, h⟩ := bind_eq_ok.1 h
    obtain ⟨auth, -, h⟩ := bind_eq_ok.1 h
    obtain rfl := return_eq_ok.1 h
    exact ⟨rfl, nofun, rfl, rfl⟩
  · obtain ⟨f, hf, pipeline, -, rfl⟩ := ofEntries_seq_eq_ok.1 (ofEntries_of_read h)
    obtain ⟨url, -, rfl⟩ := ofEntries_map_eq_ok.1 hf
    exact ⟨rfl, nofun, rfl, rfl⟩
  · obtain ⟨path, -, h⟩ := bind_eq_ok.1 h
    split at h
    · rename_i kind' hpath
      obtain rfl := return_eq_ok.1 h
      obtain ⟨database, schema, target, rfl⟩ := Snowflake.exists_of_ofPath hpath
      exact ⟨rfl, nofun, rfl, rfl⟩
    · cases h
  · obtain ⟨f, hf, schema, -, rfl⟩ := ofEntries_seq_eq_ok.1 (ofEntries_of_read h)
    obtain ⟨g, hg, topics, -, rfl⟩ := ofEntries_seq_eq_ok.1 hf
    obtain ⟨brokers, -, rfl⟩ := ofEntries_map_eq_ok.1 hg
    exact ⟨rfl, nofun, rfl, rfl⟩
  · obtain ⟨fields, -, h⟩ := bind_eq_ok.1 h
    obtain rfl := return_eq_ok.1 h
    refine ⟨rfl, nofun, reservedKey?_optionsOf _ _ attrs, ?_⟩
    simp only [SourceKind.kept, Option.filter_filter, Bool.and_self]
  · cases h

theorem eq_of_commonFields {kind : SourceKind} {entity : String} {attrs : Bag} {s : Source}
    (h : (commonFields kind).read entity attrs = .ok s) :
    s.kind = kind ∧ s.registration = none := by
  obtain ⟨f₁, h₁, tags, -, rfl⟩ := ofEntries_seq_eq_ok.1 (ofEntries_of_read h)
  obtain ⟨f₂, h₂, format, -, rfl⟩ := ofEntries_seq_eq_ok.1 h₁
  obtain ⟨f₃, h₃, column, -, rfl⟩ := ofEntries_seq_eq_ok.1 h₂
  obtain ⟨f₄, h₄, preprocessing, -, rfl⟩ := ofEntries_seq_eq_ok.1 h₃
  obtain ⟨name, -, rfl⟩ := ofEntries_map_eq_ok.1 h₄
  exact ⟨rfl, rfl⟩

theorem eq_of_decodeContext {entity : String} {attrs : Bag} {s : Source}
    (h : decodeContext entity attrs = .ok s) :
    ∃ tags, s = { ofKind ((attrs.text? "name").getD contextName) .context with tags } := by
  unfold decodeContext at h
  dsimp only at h
  split at h
  all_goals
    obtain ⟨tags, -, h⟩ := bind_eq_ok.1 h
    exact ⟨_, (return_eq_ok.1 h).symm⟩

/-- The type by which a bag that is not that of a context source is read: the one in the bag or,
where there is none but a path, that of a source of files. -/
def IsTaggedAs (attrs : Bag) (tag : String) : Prop :=
  (attrs.text? "type" = some tag ∧ tag ≠ contextName) ∨
    (attrs.text? "type" = none ∧ Entries.contains "path" attrs = true ∧ tag = "hdfs")

/-- A source that has been read is a context source, or it is of the kind that its type asks for. -/
theorem decode_cases {entity : String} {attrs : Bag} {s : Source}
    (h : decode entity attrs = .ok s) :
    (attrs.text? "type" = some contextName ∧
      ∃ tags, s = { ofKind ((attrs.text? "name").getD contextName) .context with tags }) ∨
    ∃ tag, IsTaggedAs attrs tag ∧ IsReadAs s.kind tag ∧ s.registration = none := by
  have hkinds : ∀ {tag}, IsTaggedAs attrs tag →
      (do (commonFields (← kindOf entity attrs tag)).read entity attrs) = .ok s →
      ∃ tag, IsTaggedAs attrs tag ∧ IsReadAs s.kind tag ∧ s.registration = none := by
    intro tag htag h
    obtain ⟨kind, hkind, h⟩ := bind_eq_ok.1 h
    obtain ⟨rfl, hregistration⟩ := eq_of_commonFields h
    exact ⟨tag, htag, isReadAs_of_kindOf hkind, hregistration⟩
  unfold decode at h
  split at h
  · rename_i tag htype
    split at h
    · rename_i hcontext
      exact .inl ⟨hcontext ▸ htype, eq_of_decodeContext h⟩
    · rename_i hcontext
      exact .inr (hkinds (.inl ⟨htype, hcontext⟩) h)
  · rename_i htype
    split at h
    · rename_i hpath
      exact .inr (hkinds (.inr ⟨htype, hpath, rfl⟩) h)
    · cases h

/-- A source that has been read can be written, and a context source has the name in its bag. -/
theorem writable_of_decode {entity : String} {attrs : Bag} {s : Source}
    (h : decode entity attrs = .ok s) :
    s.kind.reservedKey? = none ∧
      (s.isContext = true → s.name = (attrs.text? "name").getD contextName) := by
  obtain ⟨-, tags, rfl⟩ | ⟨tag, -, hread, -⟩ := decode_cases h
  · exact ⟨rfl, fun _ => rfl⟩
  · exact ⟨hread.writable, fun hcontext => absurd (s.isContext_iff.1 hcontext) hread.not_context⟩

end Source

end FeatureCatalog
