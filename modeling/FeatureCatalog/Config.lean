import FeatureCatalog.Error
import FeatureCatalog.Text.Characters
import FeatureCatalog.Text.Numeral
import FeatureCatalog.Url.Origin

/-! Where and as which project a client registers. The checks refuse settings that would make
qualified names ambiguous. -/

namespace FeatureCatalog

/-- The configuration of a client. A sandbox takes no headers that authorise. -/
structure RegistryConfig where
  endpoint : String
  project : String
  projectTags : Tags
  sandbox : Bool
  deriving DecidableEq

namespace RegistryConfig

/-- The configuration with an endpoint and a project alone. -/
def ofNames (endpoint project : String) : RegistryConfig := ⟨endpoint, project, .empty, false⟩

/-- Two underscores follow each other, as between the parts of a qualified name. -/
def hasJoint : List Char → Bool
  | '_' :: '_' :: _ => true
  | _ :: rest => hasJoint rest
  | [] => false

/-- What is wrong with the configuration, if anything. -/
def fault? (c : RegistryConfig) : Option ConfigFault :=
  if Text.isBlankText c.endpoint then some .emptyEndpoint
  else if Text.isBlankText c.project then some .emptyProject
  else if hasJoint c.project.toList then some (.ambiguousProject c.project)
  else none

/-- Refuses a configuration that has something wrong with it. -/
def validate (c : RegistryConfig) : Except CatalogError Unit :=
  match c.fault? with
  | some fault => .error (.config fault)
  | none => .ok ()

/-- The first three pieces of the endpoint between slashes. -/
def endpointStart (c : RegistryConfig) : String :=
  String.ofList (['/'].intercalate ((Text.pieces '/' c.endpoint.toList).take 3))

/-- The page that shows the lineage of the project, at the origin of the endpoint if that is a URL
with a host. -/
def lineageUrl (c : RegistryConfig) : String :=
  let origin := ((Url.Origin.ofUrl? c.endpoint).map Url.Origin.text).getD c.endpointStart
  origin ++ "/projects/" ++ c.project ++ "/lineage"

end RegistryConfig

end FeatureCatalog
