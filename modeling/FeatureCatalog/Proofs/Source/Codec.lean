import FeatureCatalog.Proofs.Feature.Codec
import FeatureCatalog.Proofs.Url.Form
import FeatureCatalog.Source.Bag

/-! What sources write, they read back from a bag as a registry stores it, apart from the little
that a bag has no room for. -/

namespace FeatureCatalog

open Record

/-- The kind without a mode that is empty, which stands for none. -/
def SourceKind.kept : SourceKind → SourceKind
  | .generic g => .generic { g with mode := g.mode.filter (· ≠ "") }
  | kind => kind

/-- What a bag keeps of a source: a context source has no preprocessing and no timestamps. -/
def Source.kept (s : Source) : Source :=
  if s.isContext then
    { s with preprocessing := none, eventTimestampColumn := none, timestampFormat := none }
  else { s with kind := s.kind.kept }

theorem Source.name_kept (s : Source) : s.kept.name = s.name := by
  unfold Source.kept
  split <;> rfl

theorem Source.kept_registered (s : Source) (r : Option Registration) :
    { s with registration := r }.kept = { s.kept with registration := r } := by
  cases hcontext : s.isContext with
  | true =>
    have hcontext' : { s with registration := r }.isContext = true := hcontext
    simp only [kept, hcontext, hcontext', if_true]
  | false =>
    have hcontext' : { s with registration := r }.isContext = false := hcontext
    simp only [kept, hcontext, hcontext']
    rfl

/-! ### Paths of Snowflake sources -/

theorem Snowflake.ofPath_path (database schema : String) (target : SnowflakeTarget) :
    Snowflake.ofPath (Snowflake.path database schema target) =
      .ok (.snowflake database schema target) := by
  have htext : parametersText? (path database schema target) =
      some (Url.printForm
        [("sfDatabase", database), ("sfSchema", schema), targetParameter target]) := by
    simp only [parametersText?, path, pathStart, String.toList_append, String.toList_ofList]
    rfl
  have hget : ∀ k, (Dict.ofList
      [("sfDatabase", database), ("sfSchema", schema), targetParameter target]).get? k =
      Entries.get? k [targetParameter target, ("sfSchema", schema), ("sfDatabase", database)] :=
    fun k => Dict.get?_ofList _ k
  unfold Snowflake.ofPath
  simp only [htext, Url.parseForm_printForm, parameter, target?, hget]
  cases target <;> rfl

namespace SourceKind

theorem get?_optionAttributes (kind : SourceKind) (k : String) :
    Entries.get? k kind.optionAttributes =
      match kind with
      | .generic g => (g.options.get? k).map .str
      | _ => none := by
  cases kind with
  | generic g => exact Entries.get?_map k Json.str g.options.entries
  | _ => rfl

theorem nodup_optionAttributes (kind : SourceKind) :
    (kind.optionAttributes.map (·.1)).Nodup := by
  cases kind with
  | generic g =>
    have h := (g.options.ordered.map fun _ v => Json.str v).nodup_keys
    exact h
  | _ => exact List.nodup_nil

theorem nodup_attributes (kind : SourceKind) : (kind.attributes.map (·.1)).Nodup := by
  cases kind with
  | context => exact List.nodup_nil
  | hdfs path => simp [attributes]
  | sparkSql sql table => cases sql <;> cases table <;> simp [attributes, Bag.ofText?]
  | jdbc url dbtable query auth =>
    cases dbtable <;> cases query <;> cases auth <;> simp [attributes, Bag.ofText?]
  | mongoDb url pipeline => simp [attributes]
  | snowflake database schema target => simp [attributes]
  | kafka brokers topics schema => simp [attributes]
  | generic g =>
    simp only [attributes]
    cases g.mode.filter (· ≠ "") <;> simp [Bag.ofText?]

theorem get?_attributes_reverse (kind : SourceKind) (k : String) :
    Entries.get? k kind.attributes.reverse = Entries.get? k kind.attributes :=
  Entries.get?_reverse kind.nodup_attributes k

end SourceKind

namespace Source

/-- The attributes that come between those of the kind and the tags. -/
def commonAttributes (s : Source) : Bag :=
  if s.isContext then []
  else
    Bag.ofText? "preprocessing" s.preprocessing ++
    Bag.ofText? "eventTimestampColumn" s.eventTimestampColumn ++
    Bag.ofText? "timestampFormat" s.timestampFormat

theorem get?_commonAttributes (s : Source) (k : String) :
    Entries.get? k s.commonAttributes.reverse =
      if s.isContext then none
      else if k = "preprocessing" then s.preprocessing.map .str
      else if k = "eventTimestampColumn" then s.eventTimestampColumn.map .str
      else if k = "timestampFormat" then s.timestampFormat.map .str
      else none := by
  unfold commonAttributes
  split
  · rfl
  · rw [Entries.get?_reverse]
    · simp only [Entries.get?_append, Bag.get?_ofText?]
      repeat' split
      all_goals simp_all
    · cases s.preprocessing <;> cases s.eventTimestampColumn <;> cases s.timestampFormat <;>
        simp [Bag.ofText?]

/-- What a bag holds of a source under a key: of several attributes with that key, the last. -/
theorem get?_bag (s : Source) (k : String) :
    Entries.get? k s.bag =
      if k = "tags" then some (Json.ofTags s.tags)
      else (Entries.get? k s.commonAttributes.reverse).or <|
        (Entries.get? k s.kind.attributes).or <|
          if k = "type" then some (.str s.kind.typeName)
          else if k = "name" then some (.str s.name)
          else Entries.get? k s.kind.optionAttributes := by
  have hbag : s.bag = Entries.ofList (s.kind.optionAttributes ++
      [("name", .str s.name), ("type", .str s.kind.typeName)] ++ s.kind.attributes ++
      s.commonAttributes ++ [("tags", Json.ofTags s.tags)]) := rfl
  rw [hbag, Entries.get?_ofList]
  simp only [List.reverse_append, Entries.get?_append, s.kind.get?_attributes_reverse,
    Entries.get?_reverse s.kind.nodup_optionAttributes, List.reverse_cons, List.reverse_nil,
    List.nil_append, List.singleton_append, Entries.get?_cons, Entries.get?_nil]
  repeat' split
  all_goals simp_all

theorem ordered_bag (s : Source) : Entries.Ordered s.bag := Entries.ordered_ofList _

/-- The attributes that sources of all kinds have. -/
def commonKeys : List String :=
  ["type", "name", "tags", "preprocessing", "eventTimestampColumn", "timestampFormat"]

theorem get?_attributes_of_mem {k : String} (hk : k ∈ commonKeys) (kind : SourceKind) :
    Entries.get? k kind.attributes = none := by
  simp only [commonKeys, List.mem_cons, List.not_mem_nil, or_false] at hk
  rcases hk with rfl | rfl | rfl | rfl | rfl | rfl
  all_goals
    cases kind <;>
      simp [SourceKind.attributes, Entries.get?_cons, Entries.get?_append, Bag.get?_ofText?]

theorem get?_bag_name (s : Source) : Entries.get? "name" s.bag = some (.str s.name) := by
  rw [get?_bag, get?_commonAttributes, get?_attributes_of_mem (by decide)]
  simp

/-- No option of a source that can be written has a reserved key. -/
theorem get?_optionAttributes_of_reserved {kind : SourceKind} (h : kind.reservedKey? = none)
    {k : String} (hk : k ∈ reservedOptionKeys) : Entries.get? k kind.optionAttributes = none := by
  cases kind with
  | generic g =>
    rw [SourceKind.get?_optionAttributes, Option.map_eq_none_iff]
    refine Entries.get?_eq_none_iff.2 fun e he heq => ?_
    have := List.find?_eq_none.1 h e.1 (List.mem_map_of_mem he)
    simp [heq, hk] at this
  | _ => rfl

/-- The bag is what a registry stores of the source. -/
structure IsIn (s : Source) (attrs : Bag) : Prop where
  ordered : Entries.Ordered attrs
  writable : s.kind.reservedKey? = none
  get? : ∀ k, k ≠ "qualifiedName" → Entries.get? k attrs = Entries.get? k s.bag

theorem isIn_stored (s : Source) (h : s.kind.reservedKey? = none) (qualifiedName : String) :
    s.IsIn (Creation.named s.bag qualifiedName) where
  ordered := s.ordered_bag.insert _ _
  writable := h
  get? _ hk := Entries.get?_insert_ne hk _ _

namespace IsIn

variable {s : Source} {attrs : Bag}

theorem type (h : s.IsIn attrs) : Entries.get? "type" attrs = some (.str s.kind.typeName) := by
  rw [h.get? _ (by decide), get?_bag, get?_commonAttributes, get?_attributes_of_mem (by decide)]
  simp

theorem name (h : s.IsIn attrs) : Entries.get? "name" attrs = some (.str s.name) := by
  rw [h.get? _ (by decide), get?_bag_name]

theorem tags (h : s.IsIn attrs) : Entries.get? "tags" attrs = some (Json.ofTags s.tags) := by
  rw [h.get? _ (by decide), get?_bag]
  rfl

/-- The bag holds the preprocessing and the timestamps of all sources but context sources. -/
theorem common (h : s.IsIn attrs) (hkind : s.isContext = false) {k : String}
    (hk : k ∈ ["preprocessing", "eventTimestampColumn", "timestampFormat"]) :
    Entries.get? k attrs =
      if k = "preprocessing" then s.preprocessing.map .str
      else if k = "eventTimestampColumn" then s.eventTimestampColumn.map .str
      else s.timestampFormat.map .str := by
  have hreserved : k ∈ reservedOptionKeys ∧ k ∈ commonKeys ∧ k ≠ "tags" ∧ k ≠ "type" ∧
      k ≠ "name" ∧ k ≠ "qualifiedName" := by
    simp only [List.mem_cons, List.not_mem_nil, or_false] at hk
    rcases hk with rfl | rfl | rfl <;> decide
  obtain ⟨hreserved, hcommon, htags, htype, hname, hqualified⟩ := hreserved
  rw [h.get? _ hqualified, get?_bag, get?_commonAttributes, get?_attributes_of_mem hcommon,
    get?_optionAttributes_of_reserved h.writable hreserved]
  simp only [List.mem_cons, List.not_mem_nil, or_false] at hk
  rcases hk with rfl | rfl | rfl <;> simp [hkind]

/-- Any other key holds an attribute of the kind, unless there is an option of that name. -/
theorem ofKind (h : s.IsIn attrs) {k : String} (hcommon : k ∉ commonKeys)
    (hqualified : k ≠ "qualifiedName") (hoption : Entries.get? k s.kind.optionAttributes = none) :
    Entries.get? k attrs = Entries.get? k s.kind.attributes := by
  simp only [commonKeys, List.mem_cons, List.not_mem_nil, or_false, not_or] at hcommon
  rw [h.get? _ hqualified, get?_bag, get?_commonAttributes, hoption]
  simp [hcommon]

/-- An option called `features` is no list of features. -/
theorem features_ne_arr (h : s.IsIn attrs) (items : List Json) :
    Entries.get? "features" attrs ≠ some (.arr items) := by
  have hkind : Entries.get? "features" s.kind.attributes = none := by
    cases s.kind <;>
      simp [SourceKind.attributes, Entries.get?_cons, Entries.get?_append, Bag.get?_ofText?]
  rw [h.get? _ (by decide), get?_bag, get?_commonAttributes, hkind,
    SourceKind.get?_optionAttributes]
  cases s.kind <;> simp

theorem read_common (h : s.IsIn attrs) (hkind : s.isContext = false) (entity : String)
    (kind : SourceKind) :
    (commonFields kind).read entity attrs = .ok { s with kind, registration := none } := by
  have hreads : (commonFields kind).Reads attrs { s with kind, registration := none } :=
    ((((reads_text h.name).map _
      |>.seq (reads_text? (h.common hkind (by decide))))
      |>.seq (reads_text? (h.common hkind (by decide))))
      |>.seq (reads_text? (h.common hkind (by decide))))
      |>.seq (reads_tags h.tags)
  have hnames : ["name", "preprocessing", "eventTimestampColumn", "timestampFormat",
      "tags"].Nodup := by
    decide
  exact congrArg (inEntity entity) (hreads.ofBag h.ordered hnames)

/-- The options of a generic source are the attributes that are not reserved. -/
theorem optionsOf_eq (h : s.IsIn attrs) {g : GenericSource} (hs : s.kind = .generic g) :
    optionsOf attrs = g.options := by
  refine Dict.ext_get? fun k => ?_
  have hordered := (h.ordered.filter fun e => !reservedOptionKeys.contains e.1).map
    fun _ v => optionText v
  have hget : (optionsOf attrs).get? k =
      ((Entries.get? k attrs).filter fun _ => !reservedOptionKeys.contains k).map optionText := by
    change Entries.get? k (Entries.ofList _) = _
    rw [hordered.ofList_eq, Entries.get?_map,
      h.ordered.get?_filter fun k _ => !reservedOptionKeys.contains k]
  have hoption : Entries.get? k s.kind.optionAttributes = (g.options.get? k).map .str := by
    rw [hs, SourceKind.get?_optionAttributes]
  rw [hget]
  by_cases hk : k ∈ reservedOptionKeys
  · have hnone := get?_optionAttributes_of_reserved h.writable hk
    rw [hoption, Option.map_eq_none_iff] at hnone
    rw [hnone]
    cases Entries.get? k attrs <;> simp [hk]
  · have hne : k ≠ "qualifiedName" ∧ k ≠ "format" ∧ k ≠ "mode" ∧ k ∉ commonKeys := by
      simp only [reservedOptionKeys, commonKeys, List.mem_cons, List.not_mem_nil, or_false,
        not_or] at hk ⊢
      simp [hk]
    obtain ⟨hqualified, hformat, hmode, hcommon⟩ := hne
    have hkind : Entries.get? k s.kind.attributes = none := by
      rw [hs]
      simp [SourceKind.attributes, Entries.get?_cons, Bag.get?_ofText?, hformat, hmode]
    simp only [commonKeys, List.mem_cons, List.not_mem_nil, or_false, not_or] at hcommon
    rw [h.get? k hqualified, get?_bag, get?_commonAttributes, hkind, hoption]
    cases g.options.get? k <;> simp [hcommon, hk, optionText]

theorem authOf_map (entity : String) (auth : Option JdbcAuth) :
    authOf entity (auth.map JdbcAuth.name) = .ok auth := by
  cases auth with
  | none => rfl
  | some a => cases a <;> rfl

theorem read_eq_ok (h : s.IsIn attrs) {α : Type} {r : Record α} {a : α} (hreads : r.Reads attrs a)
    (hnames : (r.fields.map (·.name)).Nodup) (entity : String) : r.read entity attrs = .ok a :=
  congrArg (inEntity entity) (hreads.ofBag h.ordered hnames)

theorem kindOf_jdbc (h : s.IsIn attrs) {url : String} {dbtable query : Option String}
    {auth : Option JdbcAuth} (hs : s.kind = .jdbc url dbtable query auth) (entity : String) :
    kindOf entity attrs "jdbc" = .ok (.jdbc url dbtable query auth) := by
  have hget : ∀ k ∉ commonKeys, k ≠ "qualifiedName" → Entries.get? k attrs =
      Entries.get? k (SourceKind.jdbc url dbtable query auth).attributes := by
    intro k hk hq
    rw [← hs]
    exact h.ofKind hk hq (hs ▸ rfl)
  have hfields : ((fun url dbtable query auth => (url, dbtable, query, auth)) <$>
        Record.defaulted "url" Decoder.text ""
      <*> Record.optional "dbtable" Decoder.text
      <*> Record.optional "query" Decoder.text
      <*> Record.optional "auth" Decoder.text).read entity attrs =
      .ok (url, dbtable, query, auth.map JdbcAuth.name) := by
    refine h.read_eq_ok (((((reads_defaulted (hget "url" (by decide) (by decide))
      (Decoder.text_str url)).map _) |>.seq (reads_text? ?_)) |>.seq (reads_text? ?_))
      |>.seq (reads_text? ?_)) (by decide) entity
    all_goals
      rw [hget _ (by decide) (by decide)]
      simp [SourceKind.attributes, Entries.get?_append, Entries.get?_cons, Bag.get?_ofText?]
  change (do
    let fields : String × Option String × Option String × Option String ← _
    return SourceKind.jdbc fields.1 fields.2.1 fields.2.2.1
      (← authOf entity fields.2.2.2)) = _
  rw [hfields]
  simp only [bind, Except.bind, authOf_map]
  rfl

/-- An empty mode is not written, so a generic source comes back without it. -/
theorem kindOf_generic (h : s.IsIn attrs) {g : GenericSource} (hs : s.kind = .generic g)
    (entity : String) : kindOf entity attrs "generic" = .ok (SourceKind.generic g).kept := by
  have hget : ∀ k ∈ reservedOptionKeys, k ∉ commonKeys → k ≠ "qualifiedName" →
      Entries.get? k attrs = Entries.get? k (SourceKind.generic g).attributes := by
    intro k hreserved hk hq
    rw [← hs]
    exact h.ofKind hk hq (hs ▸ get?_optionAttributes_of_reserved (hs ▸ h.writable) hreserved)
  have hfields : (Prod.mk <$> Record.required "format" Decoder.text
      <*> Record.optional "mode" Decoder.text).read entity attrs =
      .ok (g.format, g.mode.filter (· ≠ "")) := by
    refine h.read_eq_ok (((reads_text ?_).map Prod.mk) |>.seq (reads_text? ?_)) (by decide) entity
    all_goals
      rw [hget _ (by decide) (by decide) (by decide)]
      simp [SourceKind.attributes, Entries.get?_cons, Bag.get?_ofText?]
  change (do
    let fields : String × Option String ← _
    return SourceKind.generic ⟨fields.1, fields.2.filter (· ≠ ""), optionsOf attrs⟩) = _
  rw [hfields, h.optionsOf_eq hs]
  simp only [bind, Except.bind, Option.filter_filter, Bool.and_self]
  rfl

/-- The kind of a source is read from the bag that holds the source. -/
theorem kindOf_eq_ok (h : s.IsIn attrs) (hkind : s.isContext = false) (entity : String) :
    kindOf entity attrs s.kind.typeName = .ok s.kind.kept := by
  have hread : ∀ {α : Type} {r : Record α} {a : α}, (r.fields.map (·.name)).Nodup →
      r.Reads attrs a → r.read entity attrs = .ok a :=
    fun hnames hreads => h.read_eq_ok hreads hnames entity
  have hget : ∀ k, k ∉ commonKeys → k ≠ "qualifiedName" →
      Entries.get? k s.kind.optionAttributes = none →
      Entries.get? k attrs = Entries.get? k s.kind.attributes := fun _ => h.ofKind
  cases hs : s.kind with
  | context => simp [isContext, hs] at hkind
  | hdfs path =>
    rw [hs] at hget
    have hpath := hread (by decide) (reads_text (hget "path" (by decide) (by decide) rfl))
    change (pathField.read entity attrs >>= _) = _
    unfold pathField
    rw [hpath]
    rfl
  | sparkSql sql table =>
    rw [hs] at hget
    refine hread (by decide) (((reads_text? ?_).map SourceKind.sparkSql) |>.seq (reads_text? ?_))
    all_goals
      rw [hget _ (by decide) (by decide) rfl]
      simp [SourceKind.attributes, Entries.get?_append, Bag.get?_ofText?]
  | jdbc => exact h.kindOf_jdbc hs entity
  | mongoDb url pipeline =>
    rw [hs] at hget
    exact hread (by decide) (((reads_defaulted (hget "url" (by decide) (by decide) rfl)
      (Decoder.text_str url)).map SourceKind.mongoDb)
      |>.seq (reads_text (hget "pipeline" (by decide) (by decide) rfl)))
  | snowflake database schema target =>
    rw [hs] at hget
    have hpath := hread (by decide) (reads_text (hget "path" (by decide) (by decide) rfl))
    change (pathField.read entity attrs >>= _) = _
    unfold pathField
    rw [hpath]
    simp only [bind, Except.bind, Snowflake.ofPath_path]
    rfl
  | kafka brokers topics schema =>
    rw [hs] at hget
    exact hread (by decide) ((((reads_defaulted (hget "brokers" (by decide) (by decide) rfl)
      (Decoder.list_ofTexts brokers)).map SourceKind.kafka)
      |>.seq (reads_defaulted (hget "topics" (by decide) (by decide) rfl)
        (Decoder.list_ofTexts topics)))
      |>.seq (reads_defaulted (hget "schemaStr" (by decide) (by decide) rfl)
        (Decoder.text_str schema)))
  | generic g => exact h.kindOf_generic hs entity

end IsIn

theorem decode_eq_ok {s : Source} {attrs : Bag} (h : s.IsIn attrs) (entity : String) :
    Source.decode entity attrs = .ok { s.kept with registration := none } := by
  have htype : attrs.text? "type" = some s.kind.typeName := by
    rw [Bag.text?, h.type]
    rfl
  unfold decode
  rw [htype]
  cases hkind : s.isContext with
  | true =>
    have hcontext : s.kind = .context := by
      revert hkind
      unfold isContext
      cases s.kind <;> simp
    have hname : attrs.text? "name" = some s.name := by
      rw [Bag.text?, h.name]
      rfl
    have htags : (Decoder.dict Decoder.text).nullable (Json.ofTags s.tags) = .ok (some s.tags) := by
      change (Decoder.dict Decoder.text (Json.ofTags s.tags)).map some = _
      rw [Decoder.dict_ofTags]
      rfl
    simp only [hcontext, SourceKind.typeName, if_true, decodeContext, h.tags, htags, hname,
      kept, hkind]
    rw [← hcontext]
    rfl
  | false =>
    have hne : s.kind.typeName ≠ contextName := by
      revert hkind
      unfold isContext
      cases s.kind <;> simp [SourceKind.typeName, contextName]
    simp only [if_neg hne, h.kindOf_eq_ok hkind]
    change (commonFields s.kind.kept).read entity attrs = _
    rw [h.read_common hkind, kept, hkind]
    rfl

end Source

end FeatureCatalog
