import FeatureCatalog.Proofs.Store.Authorized
import FeatureCatalog.Proofs.Store.Reachable

/-! Calls that fail. A creation makes all its checks and draws its id before it stores anything, and
a deletion is refused before it removes anything. So what is stored stays as it was, and a creation
that failed has only been counted; a call without the token not even that. -/

namespace FeatureCatalog

namespace Store

variable {entropy : Entropy} {s s' : Store} {path : List String} {headers : Headers}
  {cause : TransportError}

/-- What is left of a creation that has failed: it has been counted, and a draw is used up if it
gave no bits. -/
def IsCountedIn (entropy : Entropy) (s s' : Store) : Prop :=
  ∃ drawn, s' = { s with createCalls := s.createCalls + 1, drawn } ∧
    (drawn ≠ s.drawn → drawn = s.drawn + 1 ∧ ∃ reason, entropy s.drawn = .error reason)

theorem isCountedIn_self (entropy : Entropy) (s : Store) :
    s.IsCountedIn entropy { s with createCalls := s.createCalls + 1 } :=
  ⟨s.drawn, rfl, fun h => absurd rfl h⟩

/-- A creation that is carried out fails over a conflict or for want of an id. -/
theorem isCountedIn_of_place {creation : Creation}
    (h : { s with createCalls := s.createCalls + 1 }.place entropy creation = (.error cause, s')) :
    s.IsCountedIn entropy s' := by
  cases creation with
  | existing id => simp [place, succeed] at h
  | define d =>
    simp only [place] at h
    split at h
    · obtain ⟨-, rfl⟩ := Prod.mk.inj h
      exact isCountedIn_self entropy s
    · simp [succeed] at h
    · simp only [addNew] at h
      split at h
      · rename_i reason hreason
        obtain ⟨-, rfl⟩ := Prod.mk.inj h
        exact ⟨s.drawn + 1, rfl, fun _ => ⟨rfl, reason, hreason⟩⟩
      · simp [succeed] at h

theorem isCountedIn_of_create (hauthorized : s.isAuthorized headers = true) {body : Json}
    (h : s.create entropy path body headers = (.error cause, s')) : s.IsCountedIn entropy s' := by
  have hrefused : ∀ {e : TransportError},
      ((.error e, { s with createCalls := s.createCalls + 1 }) :
        Except TransportError CreatedEntity × Store) = (.error cause, s') →
      s.IsCountedIn entropy s' := by
    intro e h
    obtain ⟨-, rfl⟩ := Prod.mk.inj h
    exact isCountedIn_self entropy s
  simp only [create, hauthorized, if_true] at h
  split at h
  · exact hrefused h
  · split at h
    · split at h
      · exact hrefused h
      · exact isCountedIn_of_place h
    · exact hrefused h

/-- With the token a creation never fails as if it lacked it. -/
theorem status_of_create (hauthorized : s.isAuthorized headers = true) {body : Json}
    (h : s.create entropy path body headers = (.error cause, s')) : cause.status ≠ 401 := by
  have hadmits : Admits (s.create entropy path body headers).1 := admits_create hauthorized body
  rw [h] at hadmits
  cases hadmits with
  | error status body hstatus => exact hstatus

theorem eq_of_delete_error (h : s.delete path headers = (.error cause, s')) : s' = s := by
  simp only [delete] at h
  split at h
  · split at h
    · split at h
      · exact (Prod.mk.inj h).2.symm
      · split at h
        · simp at h
        · exact (Prod.mk.inj h).2.symm
    · exact (Prod.mk.inj h).2.symm
  · exact (Prod.mk.inj h).2.symm

/-- A call that fails leaves what is stored and the number of creations that succeeded as they were,
whatever the registry, the call and the source of ids. A creation that fails has been counted as
received, unless it lacked the token, and then nothing has changed at all; a deletion that fails
changes nothing. -/
theorem failed_calls_are_atomic (entropy : Entropy) (s : Store) :
    (∀ path body headers cause s', s.create entropy path body headers = (.error cause, s') →
      s'.contents = s.contents ∧ s'.created = s.created ∧
      (cause.status = 401 → s' = s) ∧ (cause.status ≠ 401 → s.IsCountedIn entropy s')) ∧
    ∀ path headers cause s', s.delete path headers = (.error cause, s') → s' = s := by
  refine ⟨fun path body headers cause s' h => ?_, fun path headers cause s' => eq_of_delete_error⟩
  cases hauthorized : s.isAuthorized headers with
  | false =>
    rw [create_of_not_isAuthorized hauthorized] at h
    obtain ⟨hcause, rfl⟩ := Prod.mk.inj h
    obtain rfl := Except.error.inj hcause
    exact ⟨rfl, rfl, fun _ => rfl, fun hstatus => absurd rfl hstatus⟩
  | true =>
    have hstatus := status_of_create hauthorized h
    have hcounted := isCountedIn_of_create hauthorized h
    refine ⟨?_, ?_, fun h401 => absurd h401 hstatus, fun _ => hcounted⟩ <;>
    · obtain ⟨drawn, rfl, -⟩ := hcounted
      rfl

/-- A source of ids that never gives any. -/
def exhausted : Entropy := fun _ => .error "no entropy"

/-- A registry that asks for a token. -/
def guarded : Store := empty (some "t")

/-- A source that gets no id has been counted; a project that has a source is not deleted; and a
project without the token is not even counted. -/
theorem oneSource_failed_calls :
    let path := ["projects", (EntityId.ofBits 0).text, "datasources"]
    let created := oneSource.create exhausted path (.obj [("name", .str "t")]) []
    let deleted := oneSource.delete ["entity", "p"] []
    let anonymous := guarded.create exhausted ["projects"] (.obj [("name", .str "p")]) []
    created.1.map CreatedEntity.guid = .error ⟨500, "failed to generate id: no entropy"⟩ ∧
    created.2.contents = oneSource.contents ∧ created.2.created = oneSource.created ∧
    oneSource.IsCountedIn exhausted created.2 ∧
    deleted.1.map (fun _ => ()) = .error ⟨400, "entity `p` has dependent entities"⟩ ∧
    deleted.2 = oneSource ∧
    anonymous.1.map CreatedEntity.guid = .error ⟨401, "unauthorized"⟩ ∧
    anonymous.2 = guarded := by
  intro path created deleted anonymous
  have hcreated : created.1.map CreatedEntity.guid =
      .error ⟨500, "failed to generate id: no entropy"⟩ := by
    decide +kernel
  have hdeleted : deleted.1.map (fun _ => ()) =
      .error ⟨400, "entity `p` has dependent entities"⟩ := by
    decide +kernel
  have hanonymous : anonymous.1.map CreatedEntity.guid = .error ⟨401, "unauthorized"⟩ := by
    decide +kernel
  obtain ⟨hcontents, hcount, -, hcounted⟩ := (failed_calls_are_atomic exhausted oneSource).1 path
    _ _ _ created.2 (Prod.ext (map_eq_error.1 hcreated) rfl)
  have hkept := (failed_calls_are_atomic exhausted oneSource).2 _ _ _ deleted.2
    (Prod.ext (map_eq_error.1 hdeleted) rfl)
  have hunseen := (failed_calls_are_atomic exhausted guarded).1 _ _ _ _ anonymous.2
    (Prod.ext (map_eq_error.1 hanonymous) rfl)
  exact ⟨hcreated, hcontents, hcount, hcounted (by decide), hdeleted, hkept, hanonymous,
    hunseen.2.2.1 rfl⟩

end Store

end FeatureCatalog
