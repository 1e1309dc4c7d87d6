import FeatureCatalog.Entity

/-! Sessions: how a registry is called. A session is any state together with three calls that may
change it and may fail, whatever the call; `Session.recording` adds a log of the calls made. What
authorises a call is asked for when the call is made. -/

namespace FeatureCatalog

/-- Request headers in the order in which they are sent. -/
abbrev Headers := List (String × String)

/-- The header that presents a token. -/
def bearer (token : String) : Headers := [("Authorization", "Bearer " ++ token)]

/-- What authorises the calls of a client. It is asked anew for the headers of each call, in the
state in which the call is made, so that no two of its answers need be the same. -/
def AuthProvider (σ : Type) := σ → Headers

namespace AuthProvider

variable {σ τ : Type}

/-- Headers that are the same for all calls. -/
def fixed (headers : Headers) : AuthProvider σ := fun _ => headers

instance : Coe Headers (AuthProvider σ) := ⟨fixed⟩

/-- The provider where the state is seen through `f`. -/
def comap (f : τ → σ) (provider : AuthProvider σ) : AuthProvider τ := fun state =>
  provider (f state)

/-- The headers of a call that is made in the given state. Without a provider there are none. -/
def headers (auth : Option (AuthProvider σ)) (state : σ) : Headers :=
  match auth with
  | some provider => provider state
  | none => []

@[simp] theorem headers_map_comap (f : τ → σ) (auth : Option (AuthProvider σ)) (state : τ) :
    headers (auth.map (comap f)) state = headers auth (f state) := by
  cases auth <;> rfl

end AuthProvider

/-- The calls to a registry whose side of the session has states of type `σ`. -/
structure Session (σ : Type) where
  create : List String → Json → Headers → σ → Except TransportError CreatedEntity × σ
  read : List String → Headers → σ → Except TransportError Json × σ
  delete : List String → Headers → σ → Except TransportError Json × σ

/-- A call to a registry. -/
inductive Call where
  | create (path : List String) (body : Json) (headers : Headers)
  | read (path : List String) (headers : Headers)
  | delete (path : List String) (headers : Headers)

namespace Call

/-- The path of a call. -/
def path : Call → List String
  | .create path _ _ => path
  | .read path _ => path
  | .delete path _ => path

/-- The headers of a call. -/
def headers : Call → Headers
  | .create _ _ headers => headers
  | .read _ headers => headers
  | .delete _ headers => headers

end Call

namespace Session

variable {σ : Type}

/-- The session whose state also holds the calls made, in order. A call is noted before it is
made. -/
def recording (s : Session σ) : Session (List Call × σ) where
  create path body headers state :=
    let (answer, next) := s.create path body headers state.2
    (answer, state.1 ++ [.create path body headers], next)
  read path headers state :=
    let (answer, next) := s.read path headers state.2
    (answer, state.1 ++ [.read path headers], next)
  delete path headers state :=
    let (answer, next) := s.delete path headers state.2
    (answer, state.1 ++ [.delete path headers], next)

end Session

end FeatureCatalog
