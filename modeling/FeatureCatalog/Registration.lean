import FeatureCatalog.Feature.Bag
import FeatureCatalog.Graph.Order
import FeatureCatalog.Session
import FeatureCatalog.Source.Bag

/-! Registration of a graph with a registry. All that can be checked in the graph is checked before
the first call. Then the project is created, and after it the entities that lack an id: for each
anchor its source, the anchor itself and its features, and at last the derived features in the order
of their dependencies. Each id is noted in the graph as soon as it is known, so that a run that
fails can be repeated and goes on where it stopped. -/

namespace FeatureCatalog

/-- An entity of a graph to be registered. A feature is registered for an anchor that lists it. -/
inductive Task where
  | source (key : SourceKey)
  | anchor (key : AnchorKey)
  | feature (owner : AnchorKey) (key : FeatureKey)
  | derived (key : DerivedKey)
  deriving DecidableEq

/-- What a registry is asked to create. -/
structure CreateRequest where
  path : List String
  body : Bag

namespace Task

/-- The name of the entity. -/
def name (g : Graph) : Task → String
  | .source k => (g.source k).name
  | .anchor k => (g.anchor k).name
  | .feature _ k => (g.feature k).name
  | .derived k => (g.derivedFeature k).name

/-- The registration of the entity. -/
def registration? (g : Graph) : Task → Option Registration
  | .source k => (g.source k).registration
  | .anchor k => (g.anchor k).registration
  | .feature _ k => (g.feature k).registration
  | .derived k => (g.derivedFeature k).registration

/-- The qualified name that the entity has in a project. -/
def qualifiedName (project : String) (g : Graph) : Task → String
  | .feature owner k =>
    FeatureCatalog.qualifiedName project [(g.anchor owner).name, (g.feature k).name]
  | task => FeatureCatalog.qualifiedName project [task.name g]

/-- The registration can be kept in the project: a context source is shared between projects, so its
registration counts in the project of its qualified name only. -/
def isReusable (project : String) (s : Source) (r : Registration) : Bool :=
  !s.isContext || r.qualifiedName == FeatureCatalog.qualifiedName project [s.name]

/-- The entity is registered and need not be created. -/
def isDone (project : String) (g : Graph) : Task → Bool
  | .source k => ((g.source k).registration.map (isReusable project (g.source k))).getD false
  | task => (task.registration? g).isSome

/-- Notes the registration of the entity. -/
def register (g : Graph) (r : Registration) : Task → Graph
  | .source k => g.registerSource k r
  | .anchor k => g.registerAnchor k r
  | .feature _ k => g.registerFeature k r
  | .derived k => g.registerDerived k r

/-- The id in a registration that a request refers to. -/
def idFor (user used : String) : Option Registration → Except CatalogError EntityId
  | some r => .ok r.id
  | none => .error (.unresolvedInput user used)

/-- The ids of inputs of the derived feature called `user`. -/
def inputIds (g : Graph) (user : String) : List FeatureRef → Except CatalogError (List EntityId)
  | [] => .ok []
  | input :: rest => do
    let id ← idFor user (g.inputName input) (g.inputRegistration? input)
    let ids ← inputIds g user rest
    return id :: ids

/-- The request that creates the entity in the project with the given id. -/
def request (g : Graph) (projectId : EntityId) (task : Task) : Except CatalogError CreateRequest :=
  match task with
  | .source k => do
    let body ← (g.source k).encode
    return ⟨["projects", projectId.text, "datasources"], body⟩
  | .anchor k => do
    let a := g.anchor k
    let s := g.source a.source
    let source ← idFor a.name s.name s.registration
    return ⟨["projects", projectId.text, "anchors"], Anchor.bagOf a.name source a.tags⟩
  | .feature owner k => do
    let a := g.anchor owner
    let f := g.feature k
    let anchor ← idFor f.name a.name a.registration
    return ⟨["projects", projectId.text, "anchors", anchor.text, "features"], f.bag⟩
  | .derived k => do
    let d := g.derivedFeature k
    let anchored ← inputIds g d.name (d.anchoredInputs.map .anchored)
    let derived ← inputIds g d.name (d.derivedInputs.map .derived)
    return ⟨["projects", projectId.text, "derivedfeatures"], d.bag anchored derived⟩

end Task

namespace Graph

/-- The tasks of anchors in turn. A source is a task where the first of its anchors is reached;
`seen` holds the sources reached before. -/
def anchorTasks (g : Graph) (seen : List SourceKey) : List AnchorKey → List Task
  | [] => []
  | k :: rest =>
    let a := g.anchor k
    (if seen.contains a.source then [] else [.source a.source]) ++
      .anchor k :: a.features.map (.feature k) ++ g.anchorTasks (a.source :: seen) rest

/-- All tasks of a graph whose derived features are registered in the given order. -/
def tasks (g : Graph) (order : List DerivedKey) : List Task :=
  g.anchorTasks [] g.anchorKeys ++ order.map .derived

/-- The anchored input will have an id: it has one, or an anchor lists it. -/
def isResolvable (g : Graph) (k : FeatureKey) : Bool :=
  (g.feature k).registration.isSome || (g.owningAnchor? k).isSome

/-- Every anchored input of every derived feature will have an id. -/
def checkInputs (g : Graph) : List DerivedFeature → Except CatalogError Unit
  | [] => .ok ()
  | d :: rest =>
    match d.anchoredInputs.find? fun k => !g.isResolvable k with
    | some k => .error (.unresolvedInput d.name (g.feature k).name)
    | none => g.checkInputs rest

/-- Every source of an anchor can be written as a bag of attributes. -/
def checkSources (g : Graph) : List Anchor → Except CatalogError Unit
  | [] => .ok ()
  | a :: rest => do
    let _ ← (g.source a.source).encode
    g.checkSources rest

/-- Checks the graph, and lists the tasks of its registration. -/
def plan (g : Graph) : Except CatalogError (List Task) := do
  let order ← g.order g.derivedKeys
  g.checkInputs g.derived
  g.checkSources g.anchors
  return g.tasks order

end Graph

/-- What registration works with: the session, the project, and what authorises its calls, if
anything does. -/
structure Registrar (σ : Type) where
  session : Session σ
  project : String
  projectTags : Tags
  auth : Option (AuthProvider σ)

/-- How far a registration has come: the state of the session, the graph, and how many entities have
been created or left alone because they were registered. -/
structure Progress (σ : Type) where
  state : σ
  graph : Graph
  created : Nat
  skipped : Nat

/-- The outcome of a registration that did not fail. -/
structure RegistrationSummary where
  projectId : EntityId
  created : Nat
  skipped : Nat
  deriving DecidableEq

namespace Registrar

variable {σ : Type}

/-- The headers of a call that is made in the given state. -/
def headers (r : Registrar σ) (state : σ) : Headers := AuthProvider.headers r.auth state

/-- The request that creates the project. -/
def projectRequest (r : Registrar σ) : CreateRequest :=
  ⟨["projects"], [("name", .str r.project), ("tags", Json.ofTags r.projectTags)]⟩

/-- Asks the registry to create the entity called `name`. -/
def create (r : Registrar σ) (name : String) (request : CreateRequest) (state : σ) :
    Except CatalogError EntityId × σ :=
  match r.session.create request.path (.obj request.body) (r.headers state) state with
  | (.ok entity, state) => (.ok entity.guid, state)
  | (.error cause, state) => (.error (.registrationFailed name cause), state)

/-- Performs a task: nothing is left to do if the entity is registered, and otherwise it is created
and its registration is noted. -/
def perform (r : Registrar σ) (projectId : EntityId) (task : Task) (p : Progress σ) :
    Except CatalogError Unit × Progress σ :=
  if task.isDone r.project p.graph then (.ok (), { p with skipped := p.skipped + 1 })
  else
    match task.request p.graph projectId with
    | .error e => (.error e, p)
    | .ok request =>
      match r.create (task.name p.graph) request p.state with
      | (.error e, state) => (.error e, { p with state })
      | (.ok id, state) =>
        ( .ok (),
          { p with
            state
            graph := task.register p.graph ⟨id, task.qualifiedName r.project p.graph⟩
            created := p.created + 1 } )

/-- Performs tasks in turn, up to the first that fails. -/
def performAll (r : Registrar σ) (projectId : EntityId) :
    List Task → Progress σ → Except CatalogError Unit × Progress σ
  | [], p => (.ok (), p)
  | task :: rest, p =>
    match r.perform projectId task p with
    | (.ok (), p) => r.performAll projectId rest p
    | (.error e, p) => (.error e, p)

/-- Registers a graph. The graph comes back with all registrations that were noted, and the session
with its new state, whether the run failed or not. -/
def register (r : Registrar σ) (g : Graph) (state : σ) :
    Except CatalogError RegistrationSummary × Graph × σ :=
  match g.plan with
  | .error e => (.error e, g, state)
  | .ok tasks =>
    match r.create r.project r.projectRequest state with
    | (.error e, state) => (.error e, g, state)
    | (.ok projectId, state) =>
      match r.performAll projectId tasks ⟨state, g, 0, 0⟩ with
      | (.error e, p) => (.error e, p.graph, p.state)
      | (.ok (), p) => (.ok ⟨projectId, p.created, p.skipped⟩, p.graph, p.state)

end Registrar

end FeatureCatalog
