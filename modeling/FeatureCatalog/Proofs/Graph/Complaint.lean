import FeatureCatalog.Graph.Link
import FeatureCatalog.Proofs.Source.Dispatch

/-! What can go wrong while the entities of a project are read one by one. Each reader knows one
entity only, so all that it can object to is what that entity says; references that lead nowhere and
circles are a matter of linking. -/

namespace FeatureCatalog

/-- The error is about what a single entity says. -/
inductive CatalogError.IsComplaint : CatalogError → Prop
  | malformed (entity : String) (cause : Malformation) : IsComplaint (.malformed entity cause)
  | unknownSourceKind (kind entity : String) : IsComplaint (.unknownSourceKind kind entity)
  | unknownTransformation (entity : String) : IsComplaint (.unknownTransformation entity)

/-- Whatever goes wrong is a complaint about a single entity. -/
def OnlyComplains {α : Type} (x : Except CatalogError α) : Prop :=
  ∀ e, x = .error e → e.IsComplaint

namespace OnlyComplains

variable {α β : Type} {x : Except CatalogError α}

theorem ok (a : α) : OnlyComplains (.ok a) := OnlyFails.ok a

theorem error {e : CatalogError} (h : e.IsComplaint) :
    OnlyComplains (.error e : Except CatalogError α) :=
  OnlyFails.error h

theorem bind {f : α → Except CatalogError β} (hx : OnlyComplains x)
    (hf : ∀ a, OnlyComplains (f a)) : OnlyComplains (x >>= f) :=
  OnlyFails.bind hx hf

/-- What is made of the result cannot go wrong. -/
theorem thenReturn (hx : OnlyComplains x) (f : α → β) :
    OnlyComplains (do let a ← x; return f a) :=
  OnlyFails.thenReturn hx f

theorem map (hx : OnlyComplains x) (f : α → β) : OnlyComplains (x.map f) :=
  OnlyFails.map hx f

theorem ofMismatch (entity : String) (x : Except Mismatch α) :
    OnlyComplains (FeatureCatalog.inEntity entity x) := by
  cases x with
  | error cause => exact error (.malformed entity _)
  | ok a => exact ok a

theorem read (r : Record α) (entity : String) (attrs : Bag) :
    OnlyComplains (r.read entity attrs) :=
  ofMismatch entity _

end OnlyComplains

/-! ### The readers of attributes -/

theorem Source.onlyComplains_decode (entity : String) (attrs : Bag) :
    OnlyComplains (decode entity attrs) := by
  intro e h
  obtain ⟨tag, -, rfl⟩ | ⟨cause, rfl⟩ := decode_error_cases h
  · exact .unknownSourceKind tag entity
  · exact .malformed entity cause

theorem Transformation.onlyComplains_ofJson (entity : String) (value : Json) :
    OnlyComplains (ofJson entity value) := by
  unfold ofJson
  dsimp only
  split
  · exact .ok _
  · exact .error (.malformed entity _)
  · split
    · split
      · exact .ok _
      · exact .error (.malformed entity _)
    · exact .error (.unknownTransformation entity)

theorem Transformation.onlyComplains_ofJson? (entity : String) (value : Option Json) :
    OnlyComplains (ofJson? entity value) := by
  unfold ofJson?
  split
  · exact .ok none
  · exact .ok none
  · exact (onlyComplains_ofJson entity _).map some

theorem Feature.onlyComplains_decode (entity : String) (attrs : Bag) :
    OnlyComplains (decode entity attrs) :=
  (OnlyComplains.read _ entity _).bind fun ⟨json, _⟩ =>
    (Transformation.onlyComplains_ofJson? entity json).thenReturn _

theorem DerivedFeature.onlyComplains_decode (entity : String) (attrs : Bag) :
    OnlyComplains (Detached.decode entity attrs) :=
  (OnlyComplains.read _ entity _).bind fun ⟨json, _⟩ =>
    (OnlyComplains.read _ entity _).bind fun ⟨_, _⟩ =>
      (Transformation.onlyComplains_ofJson? entity json).thenReturn _

/-! ### Entities -/

theorem Part.onlyComplains_registrationOf (e : Entity) : OnlyComplains (registrationOf e) := by
  unfold registrationOf
  split
  · exact .ok _
  · exact .error (.malformed _ _)

theorem Part.onlyComplains_ofEntity (id : String) (e : Entity) :
    OnlyComplains (ofEntity id e) := by
  unfold ofEntity
  cases e.type with
  | project => exact .ok _
  | source =>
    exact (Source.onlyComplains_decode id _).bind fun _ =>
      (onlyComplains_registrationOf e).thenReturn _
  | anchorFeature =>
    exact (Feature.onlyComplains_decode id _).bind fun _ =>
      (onlyComplains_registrationOf e).thenReturn _
  | derivedFeature =>
    exact (DerivedFeature.onlyComplains_decode id _).bind fun _ =>
      (onlyComplains_registrationOf e).thenReturn _
  | anchor =>
    exact (OnlyComplains.read _ id _).bind fun _ => (onlyComplains_registrationOf e).thenReturn _

namespace Parts

theorem ofEntities_cons (e : String × Entity) (rest : List (String × Entity)) :
    ofEntities (e :: rest) = do
      let part ← (Part.ofEntity e.1 e.2).map (e.1, ·)
      let parts ← ofEntities rest
      return part :: parts := by
  rw [ofEntities]
  cases Part.ofEntity e.1 e.2 <;> rfl

/-- Where the entities cannot be read, it is one of them that cannot. -/
theorem exists_of_ofEntities_error {entries : List (String × Entity)} {err : CatalogError}
    (h : ofEntities entries = .error err) :
    ∃ e ∈ entries, Part.ofEntity e.1 e.2 = .error err := by
  obtain ⟨e, he, herr⟩ := exists_of_collect_error h rfl ofEntities_cons
  exact ⟨e, he, map_eq_error.1 herr⟩

/-- Where the entities can be read, each of them can. -/
theorem exists_of_ofEntities_ok {entries : List (String × Entity)} {parts : Parts}
    (h : ofEntities entries = .ok parts) :
    ∀ e ∈ entries, ∃ part, Part.ofEntity e.1 e.2 = .ok part := by
  induction entries generalizing parts with
  | nil => simp
  | cons e rest ih =>
    obtain ⟨part, hpart, h⟩ := bind_eq_ok.1 h
    obtain ⟨parts', hparts, -⟩ := bind_eq_ok.1 h
    exact List.forall_mem_cons.2 ⟨⟨part, hpart⟩, ih hparts⟩

end Parts

end FeatureCatalog
