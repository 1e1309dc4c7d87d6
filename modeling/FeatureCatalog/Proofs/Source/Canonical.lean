import FeatureCatalog.Proofs.Source.RoundTrip

/-! Reading a source makes it canonical. Bags are read with leniency, of a different kind for each
kind of source: the case of a name, a missing type, whatever stands around the parameters of a path,
options that are no strings. All of it is gone from the source that is read, so that nothing of the
source is lost when it is written and read again. -/

namespace FeatureCatalog

namespace Source

/-- A bag can be written of the source and keeps all of it: no option has a reserved key, a mode is
not empty, a context source has neither preprocessing nor timestamps, and there is no
registration. -/
structure IsCanonical (s : Source) : Prop where
  writable : s.kind.reservedKey? = none
  kept : s.kept = s
  unregistered : s.registration = none

variable {s : Source} {entity : String} {attrs : Bag}

theorem isCanonical_context (name : String) (tags : Tags) :
    IsCanonical { ofKind name .context with tags } :=
  ⟨rfl, rfl, rfl⟩

theorem IsReadAs.isCanonical {tag : String} (h : IsReadAs s.kind tag)
    (hregistration : s.registration = none) : s.IsCanonical where
  writable := h.writable
  kept := by
    have hcontext : s.isContext = false :=
      Bool.eq_false_iff.2 fun hcontext => h.not_context (s.isContext_iff.1 hcontext)
    simp only [Source.kept, hcontext, h.kept]
    rfl
  unregistered := hregistration

theorem isCanonical_of_decode (h : decode entity attrs = .ok s) : s.IsCanonical := by
  obtain ⟨-, tags, rfl⟩ | ⟨tag, -, hread, hregistration⟩ := decode_cases h
  · exact isCanonical_context _ tags
  · exact hread.isCanonical hregistration

/-- A canonical source is read back as it was written. -/
theorem IsCanonical.decode_bag (h : s.IsCanonical) (entity : String) :
    decode entity s.bag = .ok s := by
  rw [decode_eq_ok (s.isIn_bag h.writable), h.kept, ← h.unregistered]

/-- The sources that can be read are those that are canonical. -/
theorem isCanonical_iff : s.IsCanonical ↔ ∃ entity attrs, decode entity attrs = .ok s := by
  constructor
  · exact fun h => ⟨s.name, s.bag, h.decode_bag s.name⟩
  · rintro ⟨entity, attrs, h⟩
    exact isCanonical_of_decode h

/-- Whatever bag a source is read from, it can be written, and from what is written the same source
is read, whoever reads it. -/
theorem decode_canonicalises (h : decode entity attrs = .ok s) :
    ∃ bag, s.encode = .ok bag ∧ ∀ entity', decode entity' bag = .ok s := by
  have hcanonical := isCanonical_of_decode h
  exact ⟨s.bag, encode_eq_ok.2 ⟨hcanonical.writable, rfl⟩, hcanonical.decode_bag⟩

/-- Bags that no source is written as, and the sources that they are read as. -/
def lenient : List (Bag × Source) :=
  [ ( [ ("auth", .str "UserPass"), ("junk", .arr []), ("name", .str "j"), ("query", .null),
        ("type", .str "jdbc") ],
      ofKind "j" (.jdbc "" none none (some .userPass)) ),
    ( [("name", .str "l"), ("path", .str "/legacy"), ("tags", .null)],
      ofKind "l" (.hdfs "/legacy") ),
    ( [ ("name", .str "w"),
        ("path", .str "x?query=select+1&sfSchema=a%20b&sfDatabase=c&more&sfDatabase=d"),
        ("type", .str "SNOWFLAKE") ],
      ofKind "w" (.snowflake "d" "a b" (.query "select 1")) ),
    ( [ ("deep", .arr [.null, .bool true]), ("format", .str "csv"), ("mode", .str ""),
        ("name", .str "g"), ("qualifiedName", .str "p__g"), ("type", .str "generic") ],
      ofKind "g" (.generic ⟨"csv", none, Dict.ofList [("deep", "[null,true]")]⟩) ),
    ([("preprocessing", .num (.ofUInt64 3)), ("type", .str contextName)], context) ]

theorem lenient_decode_canonicalises : lenient.Forall fun e => decode "e" e.1 = .ok e.2 ∧
    ∃ bag, e.2.encode = .ok bag ∧ ∀ entity', decode entity' bag = .ok e.2 := by
  have hdecode : ∀ e ∈ lenient, decode "e" e.1 = .ok e.2 := by decide +kernel
  exact List.forall_iff_forall_mem.2 fun e he => ⟨hdecode e he, decode_canonicalises (hdecode e he)⟩

end Source

end FeatureCatalog
