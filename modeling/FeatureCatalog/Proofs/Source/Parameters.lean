import FeatureCatalog.Proofs.Source.Codec

/-! Snowflake sources whose paths have been written by others. All that counts of a path are its
parameters: not what stands before them, nor their order, nor any further ones. Main statement: a
path gives a source the database, the schema and the table or query among its parameters, and a bag
is malformed whose path lacks one of them or has both a table and a query. -/

namespace FeatureCatalog

open Record

namespace Snowflake

variable {start : String} {parameters : List (String × String)}

/-- A path with the given parameters, whatever stands before them. -/
def pathWith (start : String) (parameters : List (String × String)) : String :=
  start ++ "?" ++ String.ofList (Url.printForm parameters)

/-- The parameters tell what is read: a table or a query, and not both. -/
inductive Tells (parameters : List (String × String)) : SnowflakeTarget → Prop
  | table {name : String} : ("dbtable", name) ∈ parameters → "query" ∉ parameters.map (·.1) →
      Tells parameters (.table name)
  | query {text : String} : ("query", text) ∈ parameters → "dbtable" ∉ parameters.map (·.1) →
      Tells parameters (.query text)

/-- The parameters of a path begin at its first `?`, so those that come last may hold any text. -/
theorem parametersText?_pathWith (hstart : '?' ∉ start.toList)
    (parameters : List (String × String)) :
    parametersText? (pathWith start parameters) = some (Url.printForm parameters) := by
  have htext : (pathWith start parameters).toList =
      start.toList ++ '?' :: Url.printForm parameters := by
    simp [pathWith]
  have hdrop : (start.toList ++ '?' :: Url.printForm parameters).dropWhile (· ≠ '?') =
      '?' :: Url.printForm parameters := by
    rw [List.dropWhile_append_of_pos fun c hc => by simpa using ne_of_mem_of_not_mem hc hstart]
    simp
  unfold parametersText?
  rw [htext, hdrop]

section Distinct

variable (hstart : '?' ∉ start.toList) (hdistinct : (parameters.map (·.1)).Nodup)
include hdistinct

theorem get?_parameters (k : String) :
    (Dict.ofList parameters).get? k = Entries.get? k parameters :=
  (Dict.get?_ofList parameters k).trans (Entries.get?_reverse hdistinct k)

theorem target?_eq_some {target : SnowflakeTarget} :
    target? (Dict.ofList parameters) = some target ↔ Tells parameters target := by
  unfold target?
  rw [get?_parameters hdistinct, get?_parameters hdistinct]
  constructor
  · intro h
    split at h
    · rename_i name hname hquery
      obtain rfl := Option.some.inj h
      exact .table (Entries.mem_of_get? hname) (Entries.get?_eq_none_iff_not_mem.1 hquery)
    · rename_i text htable htext
      obtain rfl := Option.some.inj h
      exact .query (Entries.mem_of_get? htext) (Entries.get?_eq_none_iff_not_mem.1 htable)
    · cases h
  · rintro (⟨hname, hquery⟩ | ⟨htext, htable⟩)
    · rw [(Entries.get?_eq_some_iff hdistinct).2 hname, Entries.get?_eq_none_iff_not_mem.2 hquery]
    · rw [(Entries.get?_eq_some_iff hdistinct).2 htext, Entries.get?_eq_none_iff_not_mem.2 htable]

theorem parameter_eq_ok {key value : String} :
    parameter (Dict.ofList parameters) key = .ok value ↔ (key, value) ∈ parameters := by
  unfold parameter
  rw [get?_parameters hdistinct, ← Entries.get?_eq_some_iff hdistinct]
  cases Entries.get? key parameters with
  | none => simp
  | some v => simp

include hstart

/-- A path gives the source that its parameters tell, and no other. -/
theorem ofPath_pathWith {kind : SourceKind} :
    ofPath (pathWith start parameters) = .ok kind ↔
      ∃ database schema target, ("sfDatabase", database) ∈ parameters ∧
        ("sfSchema", schema) ∈ parameters ∧ Tells parameters target ∧
        kind = .snowflake database schema target := by
  unfold ofPath
  simp only [parametersText?_pathWith hstart, Url.parseForm_printForm]
  cases htarget : target? (Dict.ofList parameters) with
  | none =>
    constructor
    · rintro ⟨⟩
    · rintro ⟨_, _, target, -, -, htells, -⟩
      rw [(target?_eq_some hdistinct).2 htells] at htarget
      cases htarget
  | some target =>
    have htells := (target?_eq_some hdistinct).1 htarget
    simp only [bind_eq_ok, parameter_eq_ok hdistinct, return_eq_ok]
    constructor
    · rintro ⟨database, hdatabase, schema, hschema, rfl⟩
      exact ⟨database, schema, target, hdatabase, hschema, htells, rfl⟩
    · rintro ⟨database, schema, target', hdatabase, hschema, htells', rfl⟩
      rw [(target?_eq_some hdistinct).2 htells'] at htarget
      obtain rfl := Option.some.inj htarget
      exact ⟨database, hdatabase, schema, hschema, rfl⟩

end Distinct

/-- A required parameter is missing, or there are both a table and a query, or neither of them. -/
def IsIncomplete (parameters : List (String × String)) : Prop :=
  "sfDatabase" ∉ parameters.map (·.1) ∨ "sfSchema" ∉ parameters.map (·.1) ∨
    ("dbtable" ∈ parameters.map (·.1) ↔ "query" ∈ parameters.map (·.1))

theorem Tells.not_iff {target : SnowflakeTarget} (h : Tells parameters target) :
    ¬("dbtable" ∈ parameters.map (·.1) ↔ "query" ∈ parameters.map (·.1)) := by
  cases h with
  | table hname hquery => exact fun hiff => hquery (hiff.1 (List.mem_map_of_mem hname))
  | query htext htable => exact fun hiff => htable (hiff.2 (List.mem_map_of_mem htext))

theorem ofPath_of_isIncomplete (hstart : '?' ∉ start.toList)
    (hdistinct : (parameters.map (·.1)).Nodup) (h : IsIncomplete parameters) :
    ∃ cause, ofPath (pathWith start parameters) = .error cause := by
  cases hpath : ofPath (pathWith start parameters) with
  | error cause => exact ⟨cause, rfl⟩
  | ok kind =>
    obtain ⟨database, schema, target, hdatabase, hschema, htells, -⟩ :=
      (ofPath_pathWith hstart hdistinct).1 hpath
    rcases h with h | h | h
    · exact absurd (List.mem_map_of_mem hdatabase) h
    · exact absurd (List.mem_map_of_mem hschema) h
    · exact absurd h htells.not_iff

end Snowflake

namespace Source

/-- The bag has the text under the key, if there is one, and otherwise nothing or `null`. -/
def GivesText (attrs : Bag) (key : String) (text : Option String) : Prop :=
  Entries.get? key attrs = text.map .str ∨ text = none ∧ Entries.get? key attrs = some .null

/-- The bag has the tags, which may also be missing or `null` if there are none. -/
def GivesTags (attrs : Bag) (tags : Tags) : Prop :=
  Entries.get? "tags" attrs = some (Json.ofTags tags) ∨
    tags = .empty ∧ (Entries.get? "tags" attrs = none ∨ Entries.get? "tags" attrs = some .null)

/-- The bag is well-formed, whatever it says of the kind of the source: it gives all else that there
is of a source which is not registered. -/
structure IsGivenIn (s : Source) (attrs : Bag) : Prop where
  ordered : Entries.Ordered attrs
  name : Entries.get? "name" attrs = some (.str s.name)
  preprocessing : GivesText attrs "preprocessing" s.preprocessing
  eventTimestampColumn : GivesText attrs "eventTimestampColumn" s.eventTimestampColumn
  timestampFormat : GivesText attrs "timestampFormat" s.timestampFormat
  tags : GivesTags attrs s.tags
  unregistered : s.registration = none

variable {s : Source} {attrs : Bag}

theorem GivesText.reads {key : String} {text : Option String} (h : GivesText attrs key text) :
    (Record.optional key Decoder.text).Reads attrs text := by
  rcases h with h | ⟨rfl, h⟩
  · exact reads_text? h
  · exact reads_field h rfl (by simp)

theorem GivesTags.reads {tags : Tags} (h : GivesTags attrs tags) :
    ∃ given : Option Tags, tagsField.Reads attrs given ∧ given.getD .empty = tags := by
  rcases h with h | ⟨rfl, h | h⟩
  · exact ⟨some tags, reads_tags h, rfl⟩
  · exact ⟨none, reads_absent h, rfl⟩
  · exact ⟨none, reads_field h rfl (by simp), rfl⟩

/-- A well-formed bag is read as the source that it gives, of whatever kind that is. -/
theorem IsGivenIn.read (h : s.IsGivenIn attrs) (entity : String) (kind : SourceKind) :
    (commonFields kind).read entity attrs = .ok { s with kind } := by
  obtain ⟨given, htags, hgiven⟩ := h.tags.reads
  have hreads := ((((reads_text h.name).map fun name preprocessing column format tags =>
        (⟨name, kind, preprocessing, column, format, Option.getD tags .empty, none⟩ : Source))
      |>.seq h.preprocessing.reads)
      |>.seq h.eventTimestampColumn.reads)
      |>.seq h.timestampFormat.reads
      |>.seq htags
  have hnames : ["name", "preprocessing", "eventTimestampColumn", "timestampFormat",
      "tags"].Nodup := by
    decide
  have hbag := hreads.ofBag h.ordered hnames
  have hsource : { s with kind } = (⟨s.name, kind, s.preprocessing, s.eventTimestampColumn,
      s.timestampFormat, s.tags, none⟩ : Source) := by
    rw [← h.unregistered]
  rw [hgiven] at hbag
  rw [hsource]
  exact congrArg (inEntity entity) hbag

theorem kindOf_snowflake {path : String} (hordered : Entries.Ordered attrs)
    (hpath : Entries.get? "path" attrs = some (.str path)) (entity : String) :
    kindOf entity attrs "SNOWFLAKE" =
      match Snowflake.ofPath path with
      | .ok kind => .ok kind
      | .error cause => .error (.malformed entity cause) := by
  have hread : pathField.read entity attrs = .ok path :=
    congrArg (inEntity entity) ((reads_text hpath).ofBag hordered (by decide))
  change (pathField.read entity attrs >>= _) = _
  rw [hread]
  rfl

/-- The bag of a Snowflake source is read by the parameters of its path, whatever stands before the
first `?` of the path, in whatever order the parameters stand and whatever others there are. If each
has been given once, as pairs that are written as a query, the source has the database, the schema
and the table or query that are among them; and if one of these is missing, or there are both a
table and a query, the bag is malformed. -/
theorem decode_reads_parameters {start : String} {parameters : List (String × String)}
    (h : s.IsGivenIn attrs) (htype : Entries.get? "type" attrs = some (.str "SNOWFLAKE"))
    (hpath : Entries.get? "path" attrs = some (.str (Snowflake.pathWith start parameters)))
    (hstart : '?' ∉ start.toList) (hdistinct : (parameters.map (·.1)).Nodup) (entity : String) :
    (∀ database schema target, ("sfDatabase", database) ∈ parameters →
      ("sfSchema", schema) ∈ parameters → Snowflake.Tells parameters target →
      decode entity attrs = .ok { s with kind := .snowflake database schema target }) ∧
    (Snowflake.IsIncomplete parameters →
      ∃ cause, decode entity attrs = .error (.malformed entity cause)) := by
  have htag : attrs.text? "type" = some "SNOWFLAKE" := by
    rw [Bag.text?, htype]
    rfl
  have hdecode : decode entity attrs =
      (do (commonFields (← kindOf entity attrs "SNOWFLAKE")).read entity attrs) := by
    unfold decode
    rw [htag]
    rfl
  have hkind := kindOf_snowflake h.ordered hpath entity
  constructor
  · intro database schema target hdatabase hschema htells
    have hread := (Snowflake.ofPath_pathWith hstart hdistinct).2
      ⟨database, schema, target, hdatabase, hschema, htells, rfl⟩
    rw [hread] at hkind
    rw [hdecode, hkind]
    exact h.read entity _
  · intro hincomplete
    obtain ⟨cause, hcause⟩ := Snowflake.ofPath_of_isIncomplete hstart hdistinct hincomplete
    rw [hcause] at hkind
    rw [hdecode, hkind]
    exact ⟨cause, rfl⟩

/-- The bag of a Snowflake source of the given path. -/
def warehouseBag (path : String) : Bag :=
  [ ("name", .str "sales"), ("path", .str path), ("preprocessing", .null),
    ("tags", Json.ofTags (Dict.ofList [("team", "b")])), ("timestampFormat", .str "epoch"),
    ("type", .str "SNOWFLAKE") ]

/-- Parameters out of their order and among others. The query holds every character that stands for
something in a form. -/
def salesParameters : List (String × String) :=
  [ ("role", ""), ("query", "select 1+1 where ß<5% & b=?"), ("sfSchema", "s&dbtable=t"),
    ("", "?"), ("sfDatabase", "d b") ]

/-- A value that looks like a parameter is none. With a table beside the query, the bag is
malformed. -/
theorem sales_decode_reads_parameters :
    decode "e" (warehouseBag (Snowflake.pathWith "x" salesParameters)) =
      .ok ⟨"sales", .snowflake "d b" "s&dbtable=t" (.query "select 1+1 where ß<5% & b=?"),
        none, none, some "epoch", Dict.ofList [("team", "b")], none⟩ ∧
    ∃ cause,
      decode "e" (warehouseBag (Snowflake.pathWith "" (("dbtable", "t") :: salesParameters))) =
        .error (.malformed "e" cause) := by
  let sales : Source :=
    ⟨"sales", .context, none, none, some "epoch", Dict.ofList [("team", "b")], none⟩
  have hkeys : ["name", "path", "preprocessing", "tags", "timestampFormat", "type"].Pairwise
      (· < ·) := by
    decide
  have hgiven : ∀ path, sales.IsGivenIn (warehouseBag path) := fun path =>
    { ordered := Entries.ordered_of_keys hkeys (.refl _)
      name := rfl
      preprocessing := .inr ⟨rfl, rfl⟩
      eventTimestampColumn := .inl rfl
      timestampFormat := .inl rfl
      tags := .inl rfl
      unregistered := rfl }
  constructor
  · exact (decode_reads_parameters (hgiven _) rfl rfl (by decide) (by decide) "e").1 "d b"
      "s&dbtable=t" _ (by decide) (by decide) (.query (by decide) (by decide))
  · exact (decode_reads_parameters (hgiven _) rfl rfl (by decide) (by decide) "e").2
      (.inr (.inr (by decide)))

end Source

end FeatureCatalog
