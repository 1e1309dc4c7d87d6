import FeatureCatalog.Config
import FeatureCatalog.Graph.Link
import FeatureCatalog.Registration

/-! A client of a registry: a configuration, a session, and what authorises its calls. Every
operation returns the new state of the session, whether it failed or not. -/

namespace FeatureCatalog

/-- A client. `auth` gives the headers that authorise a call, if anything does. -/
structure Client (σ : Type) where
  config : RegistryConfig
  session : Session σ
  auth : Option (AuthProvider σ)

namespace Client

variable {σ : Type}

/-- What authorises the calls of the client. In a sandbox nothing does. -/
def provider? (c : Client σ) : Option (AuthProvider σ) :=
  if c.config.sandbox then none else c.auth

/-- The headers of a call that is made in the given state. -/
def headers (c : Client σ) (state : σ) : Headers := AuthProvider.headers c.provider? state

/-- What registers graphs under the project of the configuration. -/
def registrar (c : Client σ) : Registrar σ :=
  ⟨c.session, c.config.project, c.config.projectTags, c.provider?⟩

/-- Registers a graph, after the configuration has been checked. -/
def registerFeatures (c : Client σ) (g : Graph) (state : σ) :
    Except CatalogError RegistrationSummary × Graph × σ :=
  match c.config.validate with
  | .error e => (.error e, g, state)
  | .ok () => c.registrar.register g state

/-- Reads from the registry. -/
def read (c : Client σ) (path : List String) (state : σ) : Except CatalogError Json × σ :=
  match c.session.read path (c.headers state) state with
  | (.ok value, state) => (.ok value, state)
  | (.error cause, state) => (.error (.transport cause), state)

/-- The graph of a project. -/
def fetchProject (c : Client σ) (project : String) (state : σ) : Except CatalogError Graph × σ :=
  let (answer, state) := c.read ["projects", project] state
  (answer >>= Graph.ofJson, state)

/-- The summaries of listed entities. `subject` is what the list was asked for. -/
def summaries (subject : String) (value : Json) : Except CatalogError (List EntitySummary) := do
  let entities ← inEntity subject (Entity.decoder.list value)
  entities.mapM EntitySummary.ofEntity

/-- The features, anchored and derived, of a project. -/
def listFeatures (c : Client σ) (project : String) (state : σ) :
    Except CatalogError (List EntitySummary) × σ :=
  let (answer, state) := c.read ["projects", project, "features"] state
  (answer >>= summaries project, state)

/-- The entities that the entity with the given qualified name contains or that consume it. -/
def listDependents (c : Client σ) (qualifiedName : String) (state : σ) :
    Except CatalogError (List EntitySummary) × σ :=
  let (answer, state) := c.read ["dependent", qualifiedName] state
  (answer >>= summaries qualifiedName, state)

/-- Deletes an entity. -/
def delete (c : Client σ) (qualifiedName : String) (state : σ) : Except CatalogError Unit × σ :=
  match c.session.delete ["entity", qualifiedName] (c.headers state) state with
  | (.ok _, state) => (.ok (), state)
  | (.error cause, state) => (.error (.transport cause), state)

end Client

end FeatureCatalog
