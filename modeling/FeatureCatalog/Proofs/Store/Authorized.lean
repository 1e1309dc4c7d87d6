import FeatureCatalog.Proofs.Outcome
import FeatureCatalog.Store

/-! What a registry answers to calls with its token and without. Without it each of them is answered
with status 401 and leaves the registry as it is; with it none of them is, whatever else is wrong
with the call. -/

namespace FeatureCatalog

variable {α β : Type}

/-- The answer, if it is an error, says that something is wrong with the request. -/
inductive BlamesRequest : Except TransportError α → Prop
  | ok (a : α) : BlamesRequest (.ok a)
  | badRequest (body : String) : BlamesRequest (.error (.badRequest body))
  | notFound (body : String) : BlamesRequest (.error (.notFound body))

namespace BlamesRequest

theorem bind {x : Except TransportError α} {f : α → Except TransportError β}
    (hx : BlamesRequest x) (hf : ∀ a, BlamesRequest (f a)) : BlamesRequest (x >>= f) := by
  cases hx with
  | ok a => exact hf a
  | badRequest body => exact .badRequest body
  | notFound body => exact .notFound body

theorem map {x : Except TransportError α} (hx : BlamesRequest x) (f : α → β) :
    BlamesRequest (x.map f) := by
  cases hx with
  | ok a => exact .ok (f a)
  | badRequest body => exact .badRequest body
  | notFound body => exact .notFound body

end BlamesRequest

/-- The answer is not that the call lacks the token. -/
inductive Admits : Except TransportError α → Prop
  | ok (a : α) : Admits (.ok a)
  | error (status : UInt16) (body : String) (h : status ≠ 401) : Admits (.error ⟨status, body⟩)

/-- It matters what the error is, and not what there would have been without it. -/
theorem Admits.of_error {cause : TransportError}
    (h : Admits (.error cause : Except TransportError α)) :
    Admits (.error cause : Except TransportError β) := by
  cases h with
  | error status body h => exact .error status body h

theorem BlamesRequest.admits {answer : Except TransportError α} (h : BlamesRequest answer) :
    Admits answer := by
  cases h with
  | ok a => exact .ok a
  | badRequest body => exact .error _ _ (by decide)
  | notFound body => exact .error _ _ (by decide)

/-! ### Requests that are refused -/

namespace Creation

variable (c : Contents) (p : EntityId) (body : Bag)

theorem blamesRequest_projectName : BlamesRequest (c.projectName p) := by
  unfold Contents.projectName
  split
  · split
    · exact .ok _
    · exact .notFound _
  · exact .notFound _

theorem blamesRequest_requiredText (key : String) : BlamesRequest (requiredText body key) := by
  unfold requiredText
  split
  · split
    · exact .badRequest _
    · exact .ok _
  · exact .badRequest _

theorem blamesRequest_checkInputs (type : EntityType) (ids : List EntityId) :
    BlamesRequest (checkInputs c p type ids) := by
  induction ids with
  | nil => exact .ok _
  | cons id rest ih =>
    unfold checkInputs
    split
    · exact .badRequest _
    · exact ih

theorem blamesRequest_inputs (key : String) (type : EntityType) :
    BlamesRequest (inputs c p body key type) := by
  have hchecked : ∀ refs : List EntityRef, BlamesRequest (do
      checkInputs c p type (refs.map EntityRef.id)
      return refs.map EntityRef.id) := fun _ =>
    .bind (blamesRequest_checkInputs c p type _) fun _ => .ok _
  unfold inputs
  dsimp only
  split
  · exact hchecked []
  · split
    · exact hchecked _
    · exact .badRequest _

theorem blamesRequest_project : BlamesRequest (project c body) := by
  unfold project
  refine .bind (blamesRequest_requiredText body "name") fun name => ?_
  split
  · exact .ok _
  · exact .ok _

theorem blamesRequest_source : BlamesRequest (source c p body) := by
  unfold source
  exact .bind (blamesRequest_projectName c p) fun _ =>
    .bind (blamesRequest_requiredText body "name") fun _ => .ok _

theorem blamesRequest_anchor : BlamesRequest (anchor c p body) := by
  unfold anchor
  refine .bind (blamesRequest_projectName c p) fun _ =>
    .bind (blamesRequest_requiredText body "name") fun _ =>
      .bind (blamesRequest_requiredText body "sourceId") fun _ => ?_
  dsimp only
  split
  · exact .badRequest _
  · exact .ok _

theorem blamesRequest_anchorFeature (a : EntityId) : BlamesRequest (anchorFeature c p a body) := by
  unfold anchorFeature
  refine .bind (blamesRequest_projectName c p) fun _ => ?_
  split
  · exact .bind (blamesRequest_requiredText body "name") fun _ => .ok _
  · exact .notFound _

theorem blamesRequest_derivedFeature : BlamesRequest (derivedFeature c p body) := by
  unfold derivedFeature
  exact .bind (blamesRequest_projectName c p) fun _ =>
    .bind (blamesRequest_requiredText body "name") fun _ =>
      .bind (blamesRequest_inputs c p body _ _) fun _ =>
        .bind (blamesRequest_inputs c p body _ _) fun _ => .ok _

/-- A creation that is refused before anything is looked for or stored is refused for what it asks
for. -/
theorem blamesRequest_ofCall (path : List String) : BlamesRequest (ofCall c path body) := by
  unfold ofCall
  split
  · exact blamesRequest_project c body
  · exact (blamesRequest_source c _ body).map _
  · exact (blamesRequest_anchor c _ body).map _
  · exact (blamesRequest_anchorFeature c _ body _).map _
  · exact (blamesRequest_derivedFeature c _ body).map _
  · exact .notFound _

end Creation

theorem Contents.blamesRequest_payload (c : Contents) (name : String) :
    BlamesRequest (c.payload name) := by
  unfold payload
  split
  · exact .notFound _
  · exact .ok _

theorem Contents.blamesRequest_features (c : Contents) (name : String) :
    BlamesRequest (c.features name) := by
  unfold features
  split
  · exact .notFound _
  · exact .ok _

namespace Store

variable {entropy : Entropy} {s : Store} {path : List String} {headers : Headers}

/-! ### Calls with the token -/

theorem isAuthorized_bearer {token : String} (h : s.token = some token) :
    s.isAuthorized (bearer token) = true := by
  have hname : Text.sameIgnoringCase "Authorization" "authorization" = true := by decide +kernel
  simp [isAuthorized, h, bearer, hname]

theorem admits_place (s : Store) (creation : Creation) : Admits (s.place entropy creation).1 := by
  cases creation with
  | existing id => exact .ok _
  | define d =>
    simp only [place]
    split
    · rename_i cause hknown
      unfold Contents.known? at hknown
      split at hknown
      · cases hknown
      · split at hknown
        · cases hknown
        · obtain rfl := Except.error.inj hknown
          exact .error _ _ (by decide)
    · exact .ok _
    · unfold addNew
      dsimp only
      split
      · exact .error _ _ (by decide)
      · exact .ok _

/-- Whatever is wrong with a creation that has the token, the answer is not that it lacks it. -/
theorem admits_create (h : s.isAuthorized headers = true) (body : Json) :
    Admits (s.create entropy path body headers).1 := by
  simp only [create, h, if_true]
  split
  · exact .error _ _ (by decide)
  · split
    · split
      · rename_i cause hcall
        have hrefused := Creation.blamesRequest_ofCall s.contents ‹Bag› path
        rw [hcall] at hrefused
        exact hrefused.admits.of_error
      · exact admits_place _ _
    · exact (BlamesRequest.badRequest _).admits

theorem admits_read (h : s.isAuthorized headers = true) : Admits (s.read path headers) := by
  simp only [read, h, if_true]
  split
  · exact ((s.contents.blamesRequest_payload _).map _).admits
  · exact ((s.contents.blamesRequest_features _).map _).admits
  · split
    · exact .ok _
    · exact (BlamesRequest.notFound _).admits
  · exact (BlamesRequest.notFound _).admits

theorem admits_delete (h : s.isAuthorized headers = true) : Admits (s.delete path headers).1 := by
  simp only [delete, h, if_true]
  split
  · split
    · exact (BlamesRequest.notFound _).admits
    · split
      · exact .ok _
      · exact (BlamesRequest.badRequest _).admits
  · exact (BlamesRequest.notFound _).admits

/-! ### Calls without it -/

theorem isAuthorized_nil {token : String} (h : s.token = some token) :
    s.isAuthorized [] = false := by
  simp [isAuthorized, h]

variable (h : s.isAuthorized headers = false)
include h

theorem create_of_not_isAuthorized (entropy : Entropy) (path : List String) (body : Json) :
    s.create entropy path body headers = (.error unauthorized, s) := by
  simp [create, h]

theorem read_of_not_isAuthorized (path : List String) :
    s.read path headers = .error unauthorized := by
  simp [read, h]

theorem delete_of_not_isAuthorized (path : List String) :
    s.delete path headers = (.error unauthorized, s) := by
  simp [delete, h]

end Store

end FeatureCatalog
