import FeatureCatalog.Identity
import FeatureCatalog.Text.Characters

/-! Data sources: eight kinds of places that features are computed from. -/

namespace FeatureCatalog

/-- How a database connection is authorised. -/
inductive JdbcAuth where
  | userPass
  | token
  deriving DecidableEq

/-- The name of a way to authorise. -/
def JdbcAuth.name : JdbcAuth → String
  | .userPass => "USERPASS"
  | .token => "TOKEN"

/-- The way to authorise that goes by the name, whatever the case of its letters. -/
def JdbcAuth.ofName? (name : String) : Option JdbcAuth :=
  [JdbcAuth.userPass, JdbcAuth.token].find? fun a => Text.asciiUpper name = a.name

/-- What is read from a database of Snowflake. -/
inductive SnowflakeTarget where
  | table (name : String)
  | query (text : String)
  deriving DecidableEq

/-- A source that a named connector reads with options of its own. -/
structure GenericSource where
  format : String
  mode : Option String
  options : Dict String
  deriving DecidableEq

/-- What a source reads. A `context` source passes on the data of the request. -/
inductive SourceKind where
  | context
  | hdfs (path : String)
  | sparkSql (sql table : Option String)
  | jdbc (url : String) (dbtable query : Option String) (auth : Option JdbcAuth)
  | mongoDb (url pipeline : String)
  | snowflake (database schema : String) (target : SnowflakeTarget)
  | kafka (brokers topics : List String) (schema : String)
  | generic (source : GenericSource)
  deriving DecidableEq

/-- The name that a context source has where none is given. -/
def contextName : String := "PASSTHROUGH"

/-- The name of a kind on the wire. -/
def SourceKind.typeName : SourceKind → String
  | .context => contextName
  | .hdfs _ => "hdfs"
  | .sparkSql .. => "sparksql"
  | .jdbc .. => "jdbc"
  | .mongoDb .. => "mongodb"
  | .snowflake .. => "SNOWFLAKE"
  | .kafka .. => "kafka"
  | .generic _ => "generic"

/-- A data source. -/
structure Source where
  name : String
  kind : SourceKind
  preprocessing : Option String
  eventTimestampColumn : Option String
  timestampFormat : Option String
  tags : Tags
  registration : Option Registration
  deriving DecidableEq

namespace Source

/-- A source with nothing but a name and a kind. -/
def ofKind (name : String) (kind : SourceKind) : Source :=
  ⟨name, kind, none, none, none, .empty, none⟩

/-- The source that passes on the data of the request. -/
def context : Source := ofKind contextName .context

instance : Inhabited Source := ⟨ofKind "" .context⟩

/-- The source passes on the data of the request. -/
def isContext (s : Source) : Bool :=
  match s.kind with
  | .context => true
  | _ => false

end Source

/-- Adds an option. A dot in its key would split the key where it is used, so it becomes `__`. -/
def GenericSource.withOption (s : GenericSource) (key value : String) : GenericSource :=
  let key := String.ofList (key.toList.flatMap fun c => if c = '.' then ['_', '_'] else [c])
  { s with options := s.options.insert key value }

end FeatureCatalog
