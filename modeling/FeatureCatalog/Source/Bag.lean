import FeatureCatalog.Attributes
import FeatureCatalog.Source.Snowflake

/-! Sources as bags of attributes. The attribute `type` names the kind; the options of a generic
source share the bag with the attributes, so an option must not be called like one of these. -/

namespace FeatureCatalog

/-- The attributes of a generic source that are not options. -/
def reservedOptionKeys : List String :=
  [ "type", "name", "format", "mode", "qualifiedName", "preprocessing", "eventTimestampColumn",
    "timestampFormat", "tags" ]

namespace SourceKind

/-- The options of a kind as attributes. -/
def optionAttributes : SourceKind → Bag
  | .generic g => g.options.entries.map fun e => (e.1, .str e.2)
  | _ => []

/-- The attributes that only this kind has, other than options. -/
def attributes : SourceKind → Bag
  | .context => []
  | .hdfs path => [("path", .str path)]
  | .sparkSql sql table => Bag.ofText? "sql" sql ++ Bag.ofText? "table" table
  | .jdbc url dbtable query auth =>
    ("url", .str url) :: Bag.ofText? "dbtable" dbtable ++ Bag.ofText? "query" query ++
      Bag.ofText? "auth" (auth.map JdbcAuth.name)
  | .mongoDb url pipeline => [("url", .str url), ("pipeline", .str pipeline)]
  | .snowflake database schema target =>
    [("path", .str (Snowflake.path database schema target))]
  | .kafka brokers topics schema =>
    [ ("brokers", Json.ofTexts brokers), ("topics", Json.ofTexts topics),
      ("schemaStr", .str schema) ]
  | .generic g =>
    ("format", .str g.format) :: Bag.ofText? "mode" (g.mode.filter (· ≠ ""))

/-- The first option key that is reserved. -/
def reservedKey? : SourceKind → Option String
  | .generic g => (g.options.entries.map (·.1)).find? reservedOptionKeys.contains
  | _ => none

end SourceKind

namespace Source

/-- The attributes of a source. A context source has no preprocessing and no timestamps. -/
def bag (s : Source) : Bag :=
  Entries.ofList <|
    s.kind.optionAttributes ++
    [("name", .str s.name), ("type", .str s.kind.typeName)] ++
    s.kind.attributes ++
    (if s.isContext then []
      else
        Bag.ofText? "preprocessing" s.preprocessing ++
        Bag.ofText? "eventTimestampColumn" s.eventTimestampColumn ++
        Bag.ofText? "timestampFormat" s.timestampFormat) ++
    [("tags", Json.ofTags s.tags)]

/-- The attributes of a source, unless an option has a reserved key. -/
def encode (s : Source) : Except CatalogError Bag :=
  match s.kind.reservedKey? with
  | some key => .error (.reservedOption s.name key)
  | none => .ok s.bag

/-- The path of a source of files. -/
def pathField : Record String := Record.required "path" Decoder.text

/-- Reads an authorisation: an empty name stands for none. -/
def authOf (entity : String) : Option String → Except CatalogError (Option JdbcAuth)
  | none => .ok none
  | some name =>
    if name = "" then .ok none
    else
      match JdbcAuth.ofName? name with
      | some auth => .ok (some auth)
      | none => .error (.malformed entity (.jdbcAuth name))

/-- An attribute as an option: a string as it is, any other value as its JSON text. -/
def optionText : Json → String
  | .str s => s
  | j => j.print

/-- The attributes of a generic source that are options. -/
def optionsOf (attrs : Bag) : Dict String :=
  Dict.ofList <|
    (attrs.filter fun e => !reservedOptionKeys.contains e.1).map fun e => (e.1, optionText e.2)

/-- Reads the kind of a source whose attribute `type` is `tag`. -/
def kindOf (entity : String) (attrs : Bag) (tag : String) : Except CatalogError SourceKind :=
  match tag with
  | "hdfs" => do return .hdfs (← pathField.read entity attrs)
  | "sparksql" =>
    (SourceKind.sparkSql <$> Record.optional "sql" Decoder.text
      <*> Record.optional "table" Decoder.text).read entity attrs
  | "jdbc" => do
    let (url, dbtable, query, auth) ←
      ((fun url dbtable query auth => (url, dbtable, query, auth)) <$>
          Record.defaulted "url" Decoder.text ""
        <*> Record.optional "dbtable" Decoder.text
        <*> Record.optional "query" Decoder.text
        <*> Record.optional "auth" Decoder.text).read entity attrs
    return .jdbc url dbtable query (← authOf entity auth)
  | "mongodb" =>
    (SourceKind.mongoDb <$> Record.defaulted "url" Decoder.text ""
      <*> Record.required "pipeline" Decoder.text).read entity attrs
  | "SNOWFLAKE" => do
    match Snowflake.ofPath (← pathField.read entity attrs) with
    | .ok kind => return kind
    | .error cause => .error (.malformed entity cause)
  | "kafka" =>
    (SourceKind.kafka <$> Record.defaulted "brokers" (Decoder.list Decoder.text) []
      <*> Record.defaulted "topics" (Decoder.list Decoder.text) []
      <*> Record.defaulted "schemaStr" Decoder.text "").read entity attrs
  | "generic" => do
    let (format, mode) ←
      (Prod.mk <$> Record.required "format" Decoder.text
        <*> Record.optional "mode" Decoder.text).read entity attrs
    return .generic ⟨format, mode.filter (· ≠ ""), optionsOf attrs⟩
  | tag => .error (.unknownSourceKind tag entity)

/-- What all sources but context sources have besides their kind. -/
def commonFields (kind : SourceKind) : Record Source :=
  (fun name preprocessing column format tags =>
      ⟨name, kind, preprocessing, column, format, tags.getD .empty, none⟩) <$>
      Record.required "name" Decoder.text
    <*> Record.optional "preprocessing" Decoder.text
    <*> Record.optional "eventTimestampColumn" Decoder.text
    <*> Record.optional "timestampFormat" Decoder.text
    <*> tagsField

/-- Reads a context source, which needs no attribute. -/
def decodeContext (entity : String) (attrs : Bag) : Except CatalogError Source := do
  let tags ← match Entries.get? "tags" attrs with
    | none => .ok none
    | some value => inEntity entity ((Decoder.dict Decoder.text).nullable value)
  return { ofKind ((attrs.text? "name").getD contextName) .context with tags := tags.getD .empty }

/-- Reads the source that is described by the attributes of `entity`. A bag with a path and no
`type` describes a source of files, and keys are taken as they are. -/
def decode (entity : String) (attrs : Bag) : Except CatalogError Source :=
  match attrs.text? "type" with
  | some tag =>
    if tag = contextName then decodeContext entity attrs
    else do (commonFields (← kindOf entity attrs tag)).read entity attrs
  | none =>
    if Entries.contains "path" attrs then do
      (commonFields (← kindOf entity attrs "hdfs")).read entity attrs
    else .error (.unknownSourceKind "" entity)

end Source

end FeatureCatalog
