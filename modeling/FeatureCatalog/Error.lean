import FeatureCatalog.Identity
import FeatureCatalog.Json.TextFault

/-! The errors of the catalog, each with what caused it, and their wording. -/

namespace FeatureCatalog

/-- A registry call that did not succeed: the status of the answer and its body. -/
structure TransportError where
  status : UInt16
  body : String
  deriving DecidableEq

namespace TransportError

/-- What was asked for does not exist. -/
def notFound (what : String) : TransportError := ⟨404, "not found: " ++ what⟩

/-- The request makes no sense. -/
def badRequest (reason : String) : TransportError := ⟨400, reason⟩

/-- The wording of a transport error. -/
def message (e : TransportError) : String :=
  "registry call failed with status " ++ toString e.status ++ ": " ++ e.body

end TransportError

/-- Why the description of an entity makes no sense. -/
inductive Malformation where
  | mismatch (cause : Mismatch)
  | jdbcAuth (value : String)
  | pathWithoutParameters (path : String)
  | pathLacks (parameter : String)
  | pathTarget
  | expressionNotText
  deriving DecidableEq

/-- The wording of a malformation. -/
def Malformation.message : Malformation → String
  | .mismatch cause => cause.message
  | .jdbcAuth value => "invalid jdbc auth `" ++ value ++ "`"
  | .pathWithoutParameters path => "snowflake path without parameters: " ++ path
  | .pathLacks parameter => "snowflake path is missing `" ++ parameter ++ "`"
  | .pathTarget => "snowflake path needs exactly one of `dbtable` or `query`"
  | .expressionNotText => "`transformExpr` must be a string"

/-- What is wrong with a configuration. -/
inductive ConfigFault where
  | emptyEndpoint
  | emptyProject
  | ambiguousProject (name : String)
  | missingSetting (setting : String)
  | badDocument (fault : Json.TextFault)
  | badTags (setting : String) (fault : Json.TextFault)
  deriving DecidableEq

/-- The wording of a configuration fault. -/
def ConfigFault.message : ConfigFault → String
  | .emptyEndpoint => "endpoint must not be empty"
  | .emptyProject => "project name must not be empty"
  | .ambiguousProject name => "project name `" ++ name ++ "` must not contain `__`"
  | .missingSetting setting => "missing " ++ setting
  | .badDocument fault => fault.message
  | .badTags setting fault => setting ++ ": " ++ fault.message

/-- Why an operation of the catalog failed. -/
inductive CatalogError where
  | cyclicDependency (entry : String)
  | unknownSourceKind (kind : String) (entity : String)
  | unknownTransformation (entity : String)
  | danglingReference (missing : EntityId) (referencedBy : EntityId)
  | transport (cause : TransportError)
  | registrationFailed (entity : String) (cause : TransportError)
  | malformed (entity : String) (cause : Malformation)
  | unresolvedInput (derived : String) (input : String)
  | reservedOption (source : String) (key : String)
  | alreadyRegistered (entity : String)
  | config (fault : ConfigFault)
  deriving DecidableEq

namespace CatalogError

/-- The wording of an error. -/
def message : CatalogError → String
  | .cyclicDependency entry => "cyclic dependency detected at derived feature `" ++ entry ++ "`"
  | .unknownSourceKind kind entity => "unknown source kind `" ++ kind ++ "` on entity " ++ entity
  | .unknownTransformation entity => "unrecognized transformation shape on entity " ++ entity
  | .danglingReference missing referencedBy =>
    "entity " ++ referencedBy.text ++ " references " ++ missing.text ++
      ", which is not in the payload"
  | .transport cause => cause.message
  | .registrationFailed entity _ => "registration of `" ++ entity ++ "` failed"
  | .malformed entity _ => "malformed attributes on entity " ++ entity
  | .unresolvedInput derived input =>
    "derived feature `" ++ derived ++ "` consumes `" ++ input ++
      "`, which has no registry identifier"
  | .reservedOption source key =>
    "source `" ++ source ++ "` has option `" ++ key ++ "`, which collides with a source attribute"
  | .alreadyRegistered entity =>
    "`" ++ entity ++ "` is already registered and can no longer be modified"
  | .config fault => "invalid registry configuration: " ++ fault.message

/-- The wording of the underlying cause, of an error that has one apart from its own message. -/
def cause? : CatalogError → Option String
  | .registrationFailed _ cause => some cause.message
  | .malformed _ cause => some cause.message
  | _ => none

end CatalogError

end FeatureCatalog
