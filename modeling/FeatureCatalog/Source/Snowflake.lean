import FeatureCatalog.Error
import FeatureCatalog.Source
import FeatureCatalog.Url.FormEncoded

/-! The path of a Snowflake source, which holds the database, the schema and the table or query as
parameters of a query. -/

namespace FeatureCatalog.Snowflake

/-- What stands before the parameters. -/
def pathStart : String := "snowflake://snowflake_account/?"

/-- The parameter that names what is read. -/
def targetParameter : SnowflakeTarget → String × String
  | .table name => ("dbtable", name)
  | .query text => ("query", text)

/-- The path for a database, a schema and what is read from it. -/
def path (database schema : String) (target : SnowflakeTarget) : String :=
  pathStart ++
    String.ofList
      (Url.printForm [("sfDatabase", database), ("sfSchema", schema), targetParameter target])

/-- What follows the first `?` of a path. -/
def parametersText? (path : String) : Option (List Char) :=
  match path.toList.dropWhile (· ≠ '?') with
  | [] => none
  | _ :: parameters => some parameters

/-- What is read, by the parameters of a path: a table or a query, but not both. -/
def target? (parameters : Dict String) : Option SnowflakeTarget :=
  match parameters.get? "dbtable", parameters.get? "query" with
  | some name, none => some (.table name)
  | none, some text => some (.query text)
  | _, _ => none

/-- A parameter that must be there. -/
def parameter (parameters : Dict String) (key : String) : Except Malformation String :=
  match parameters.get? key with
  | some value => .ok value
  | none => .error (.pathLacks key)

/-- The source that a path describes. Whatever stands before the first `?` and all other parameters
are passed over, and of a parameter given several times the last value counts. -/
def ofPath (path : String) : Except Malformation SourceKind := do
  let some text := parametersText? path | .error (.pathWithoutParameters path)
  let parameters := Dict.ofList (Url.parseForm text)
  let some target := target? parameters | .error .pathTarget
  let database ← parameter parameters "sfDatabase"
  let schema ← parameter parameters "sfSchema"
  return .snowflake database schema target

end FeatureCatalog.Snowflake
