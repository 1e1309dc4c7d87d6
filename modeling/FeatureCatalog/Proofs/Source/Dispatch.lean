import FeatureCatalog.Proofs.Source.RoundTrip

/-! How the kind of a source is told from its bag. The text under `type` decides; where there is no
text, a path makes the source one of files. An unknown kind is the answer to a bag that names none,
and to no other: whatever else goes wrong is a malformation of the entity. -/

namespace FeatureCatalog

/-- Whatever goes wrong is a malformation of the entity. -/
def OnlyMalformed {α : Type} (entity : String) (x : Except CatalogError α) : Prop :=
  OnlyFails (fun e => ∃ cause, e = .malformed entity cause) x

namespace OnlyMalformed

variable {α : Type} {entity : String}

theorem malformed (cause : Malformation) :
    OnlyMalformed entity (.error (.malformed entity cause) : Except CatalogError α) :=
  OnlyFails.error ⟨cause, rfl⟩

theorem ofMismatch (x : Except Mismatch α) : OnlyMalformed entity (inEntity entity x) := by
  cases x with
  | error cause => exact malformed _
  | ok a => exact .ok a

theorem read (r : Record α) (attrs : Bag) : OnlyMalformed entity (r.read entity attrs) :=
  ofMismatch _

end OnlyMalformed

namespace Source

/-- The bag does not say what kind of source it describes: its type is a text that names none, or it
has neither a text there nor a path. The second text is what an error tells of the type. -/
inductive NamesNoKind (attrs : Bag) : String → Prop
  | unknown {tag} : attrs.text? "type" = some tag → (∀ kind : SourceKind, kind.typeName ≠ tag) →
      NamesNoKind attrs tag
  | missing : attrs.text? "type" = none → Entries.contains "path" attrs = false →
      NamesNoKind attrs ""

variable {entity : String} {attrs : Bag} {tag : String}

theorem onlyMalformed_authOf (name : Option String) :
    OnlyMalformed entity (authOf entity name) := by
  cases name with
  | none => exact .ok none
  | some name =>
    unfold authOf
    dsimp only
    split
    · exact .ok none
    · split
      · exact .ok _
      · exact .malformed _

/-- A bag whose type is that of a kind is read as one of that kind, or it is malformed. -/
theorem onlyMalformed_kindOf {kind : SourceKind} (hkind : kind ≠ .context) :
    OnlyMalformed entity (kindOf entity attrs kind.typeName) := by
  have hread : ∀ {α : Type} (r : Record α), OnlyMalformed entity (r.read entity attrs) :=
    fun r => .read r attrs
  cases kind with
  | context => exact absurd rfl hkind
  | hdfs => exact (hread pathField).thenReturn _
  | sparkSql => exact hread _
  | jdbc =>
    exact (hread _).bind fun ⟨_, _, _, auth⟩ => (onlyMalformed_authOf auth).thenReturn _
  | mongoDb => exact hread _
  | snowflake =>
    refine (hread pathField).bind fun path => ?_
    split
    · exact .ok _
    · exact OnlyMalformed.malformed _
  | kafka => exact hread _
  | generic => exact (hread _).thenReturn _

theorem kindOf_of_unknown (h : ∀ kind : SourceKind, kind.typeName ≠ tag) :
    kindOf entity attrs tag = .error (.unknownSourceKind tag entity) := by
  unfold kindOf
  split
  · exact absurd rfl (h (.hdfs ""))
  · exact absurd rfl (h (.sparkSql none none))
  · exact absurd rfl (h (.jdbc "" none none none))
  · exact absurd rfl (h (.mongoDb "" ""))
  · exact absurd rfl (h (.snowflake "" "" (.table "")))
  · exact absurd rfl (h (.kafka [] [] ""))
  · exact absurd rfl (h (.generic ⟨"", none, .empty⟩))
  · rfl

theorem decode_of_namesNoKind (h : NamesNoKind attrs tag) :
    decode entity attrs = .error (.unknownSourceKind tag entity) := by
  unfold decode
  cases h with
  | unknown htype hunknown =>
    have hcontext : tag ≠ contextName := (hunknown .context).symm
    simp only [htype, if_neg hcontext, kindOf_of_unknown hunknown]
    rfl
  | missing htype hpath =>
    simp only [htype, hpath]
    rfl

theorem onlyMalformed_decodeContext : OnlyMalformed entity (decodeContext entity attrs) := by
  unfold decodeContext
  split
  · exact .ok _
  · exact (OnlyMalformed.ofMismatch _).thenReturn _

/-- All that can be wrong with a bag that names a kind is that it is malformed. -/
theorem onlyMalformed_decode (h : ∀ tag, ¬NamesNoKind attrs tag) :
    OnlyMalformed entity (decode entity attrs) := by
  have hknown : ∀ {kind : SourceKind}, kind ≠ .context → OnlyMalformed entity
      (do (commonFields (← kindOf entity attrs kind.typeName)).read entity attrs) :=
    fun hkind => (onlyMalformed_kindOf hkind).bind fun _ => OnlyMalformed.read _ attrs
  unfold decode
  split
  · rename_i tag htype
    split
    · exact onlyMalformed_decodeContext
    · rename_i hcontext
      obtain ⟨kind, rfl⟩ : ∃ kind : SourceKind, kind.typeName = tag := by
        by_contra hnone
        exact h tag (.unknown htype (not_exists.1 hnone))
      exact hknown (fun heq => hcontext (by rw [heq]; rfl))
  · rename_i htype
    split
    · exact @hknown (.hdfs "") nofun
    · rename_i hpath
      exact absurd (.missing htype (Bool.eq_false_iff.2 hpath)) (h "")

/-- A bag is refused because it names no kind, or because it is malformed. -/
theorem decode_error_cases {e : CatalogError} (h : decode entity attrs = .error e) :
    (∃ tag, NamesNoKind attrs tag ∧ e = .unknownSourceKind tag entity) ∨
      ∃ cause, e = .malformed entity cause := by
  by_cases hnone : ∃ tag, NamesNoKind attrs tag
  · obtain ⟨tag, htag⟩ := hnone
    rw [decode_of_namesNoKind htag] at h
    exact .inl ⟨tag, htag, (Except.error.inj h).symm⟩
  · exact .inr (onlyMalformed_decode (not_exists.1 hnone) e h)

theorem decode_eq_unknown_iff {kind e : String} :
    decode entity attrs = .error (.unknownSourceKind kind e) ↔
      e = entity ∧ NamesNoKind attrs kind := by
  constructor
  · intro h
    obtain ⟨tag, htag, heq⟩ | ⟨cause, heq⟩ := decode_error_cases h
    · obtain ⟨rfl, rfl⟩ := CatalogError.unknownSourceKind.inj heq
      exact ⟨rfl, htag⟩
    · cases heq
  · rintro ⟨rfl, h⟩
    exact decode_of_namesNoKind h

theorem IsReadAs.exists_path {kind : SourceKind} (h : IsReadAs kind "hdfs") :
    ∃ path, kind = .hdfs path := by
  have htype := h.typeName
  cases kind with
  | hdfs path => exact ⟨path, rfl⟩
  | _ => simp [SourceKind.typeName, contextName] at htype

/-- The kind of a source that is read is the one that the text under `type` names; only where there
is no text, a bag with a path is read as a source of files. An unknown kind is what a bag is refused
for exactly if the text names no kind, or if there is neither a text nor a path. -/
theorem decode_dispatches (entity : String) (attrs : Bag) :
    (∀ s, decode entity attrs = .ok s →
      attrs.text? "type" = some s.kind.typeName ∨
      (attrs.text? "type" = none ∧ Entries.contains "path" attrs = true ∧
        ∃ path, s.kind = .hdfs path)) ∧
    ∀ kind e, decode entity attrs = .error (.unknownSourceKind kind e) ↔
      e = entity ∧ NamesNoKind attrs kind := by
  refine ⟨fun s h => ?_, fun kind e => decode_eq_unknown_iff⟩
  obtain ⟨htype, tags, rfl⟩ | ⟨tag, htag, hread, -⟩ := decode_cases h
  · exact .inl htype
  · obtain ⟨htype, -⟩ | ⟨hnone, hpath, rfl⟩ := htag
    · exact .inl (hread.typeName ▸ htype)
    · exact .inr ⟨hnone, hpath, hread.exists_path⟩

/-- A bag without a type is read as a source of files, and one of an unknown type is refused. -/
theorem untyped_decode_dispatches :
    (∃ s, decode "s1" [("name", .str "l"), ("path", .str "/legacy")] = .ok s ∧
      ∃ path, s.kind = .hdfs path) ∧
    decode "s9" [("name", .str "x"), ("type", .str "cassandra")] =
      .error (.unknownSourceKind "cassandra" "s9") := by
  constructor
  · have hdecode : decode "s1" [("name", .str "l"), ("path", .str "/legacy")] =
        .ok (ofKind "l" (.hdfs "/legacy")) := by
      decide +kernel
    obtain htype | ⟨-, -, hpath⟩ := (decode_dispatches _ _).1 _ hdecode
    · cases htype
    · exact ⟨_, hdecode, hpath⟩
  · refine ((decode_dispatches _ _).2 _ _).2 ⟨rfl, .unknown rfl fun kind => ?_⟩
    cases kind <;> simp [SourceKind.typeName, contextName]

/-- A type that is no text passes for none: with a path, the bag is not refused for a kind that is
unknown, but read as a source of files. -/
theorem mistyped_bag_is_guessed :
    let attrs : Bag := [("name", .str "x"), ("path", .str "/legacy"), ("type", .bool true)]
    Entries.contains "type" attrs = true ∧
    (∀ kind : SourceKind, Entries.get? "type" attrs ≠ some (.str kind.typeName)) ∧
    decode "s9" attrs = .ok (ofKind "x" (.hdfs "/legacy")) := by
  intro attrs
  refine ⟨rfl, fun kind => ?_, by decide +kernel⟩
  rintro ⟨⟩

end Source

end FeatureCatalog
