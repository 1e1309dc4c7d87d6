import FeatureCatalog.Proofs.Store.Step

/-! Registries as calls leave them: in each of them the relations mirror the bags. -/

namespace FeatureCatalog

namespace Entropy

variable {entropy : Entropy} {c : Contents}

/-- A call that draws once at most needs that one id to be new. -/
theorem fresh_of_next {m n : Nat} (hn : n ≤ m + 1)
    (h : ∀ bits, entropy m = .ok bits → c.stored? (.ofBits bits) = none) :
    entropy.Fresh c m n where
  unused {i bits} hmi hin hbits := by
    obtain rfl : i = m := by omega
    exact h bits hbits
  distinct hmi hij hjn := by omega

/-- With entropy that counts, the one id that may be drawn is that of the count. -/
theorem fresh_counting_once {m n : Nat} (hn : n ≤ m + 1)
    (h : c.stored? (.ofBits (.ofNat 128 m)) = none) :
    counting.Fresh c m n :=
  fresh_of_next hn fun _ hbits => Except.ok.inj hbits ▸ h

end Entropy

namespace Store

/-- The registries that calls to create and to delete can lead to, whatever their paths, bodies and
headers and whether they succeed or not, if the ids that they draw are not in use. Between two calls
creations may be told to fail. -/
inductive Reachable (entropy : Entropy) : Store → Prop
  | empty (token : Option String) : Reachable entropy (.empty token)
  | limit {s} (limit : Option Nat) : Reachable entropy s →
      Reachable entropy { s with failAfter := limit }
  | create {s} (path : List String) (body : Json) (headers : Headers) : Reachable entropy s →
      entropy.Fresh s.contents s.drawn (s.create entropy path body headers).2.drawn →
      Reachable entropy (s.create entropy path body headers).2
  | delete {s} (path : List String) (headers : Headers) : Reachable entropy s →
      Reachable entropy (s.delete path headers).2

variable {entropy : Entropy} {s : Store}

/-- What a registry stores is sound after any calls. -/
theorem Reachable.sound (h : Reachable entropy s) : s.contents.Sound := by
  induction h with
  | empty => exact .empty
  | limit _ _ ih => exact ih
  | create path body headers _ hfresh ih => exact sound_create ih rfl hfresh
  | delete path headers _ ih => exact sound_delete ih rfl

/-- In every registry that calls can lead to, the relations mirror the bags. -/
theorem Reachable.relations_mirror_bags (h : Reachable entropy s) : s.contents.Mirrored :=
  h.sound.mirrored

/-- With entropy that counts, a call that draws once at most needs the id of the count to be new. -/
theorem Reachable.create_counting (h : Reachable .counting s) {path : List String} {body : Json}
    {headers : Headers} (n : Nat) (hcount : s.drawn = n)
    (hdrawn : (s.create .counting path body headers).2.drawn ≤ n + 1)
    (hnew : s.contents.stored? (.ofBits (.ofNat 128 n)) = none) :
    Reachable .counting (s.create .counting path body headers).2 :=
  .create path body headers h (hcount ▸ Entropy.fresh_counting_once hdrawn hnew)

/-- A registry with one project. -/
def oneProject : Store :=
  ((empty none).create .counting ["projects"] (.obj [("name", .str "p")]) []).2

theorem reachable_oneProject : Reachable .counting oneProject :=
  (Reachable.empty none).create_counting 0 rfl (by decide +kernel) rfl

/-- A registry with one project that has one source. -/
def oneSource : Store :=
  (oneProject.create .counting ["projects", (EntityId.ofBits 0).text, "datasources"]
    (.obj [("name", .str "s")]) []).2

theorem reachable_oneSource : Reachable .counting oneSource :=
  reachable_oneProject.create_counting 1 (by decide +kernel) (by decide +kernel) (by decide +kernel)

/-- A registry with one project that has one anchor. -/
def oneAnchor : Store :=
  (oneSource.create .counting ["projects", (EntityId.ofBits 0).text, "anchors"]
    (.obj [("name", .str "a"), ("sourceId", .str (EntityId.ofBits 1).text)]) []).2

theorem oneAnchor_relations_mirror_bags :
    oneAnchor.contents.Mirrored ∧ oneAnchor.contents.relations.length = 6 := by
  refine ⟨Reachable.relations_mirror_bags (?_ : Reachable .counting _), by decide +kernel⟩
  have hnew : ∀ (s : Store) (n : Nat), s.drawn = n →
      s.contents.stored? (.ofBits (.ofNat 128 n)) = none →
      ∀ bits, Entropy.counting s.drawn = .ok bits → s.contents.stored? (.ofBits bits) = none := by
    rintro s _ rfl h bits hbits
    exact Except.ok.inj hbits ▸ h
  refine .create _ _ _ (.create _ _ _ (.create _ _ _ (.empty none) ?_) ?_) ?_
  · exact Entropy.fresh_of_next (by decide +kernel) (hnew _ 0 rfl rfl)
  · exact Entropy.fresh_of_next (by decide +kernel)
      (hnew oneProject 1 (by decide +kernel) (by decide +kernel))
  · exact Entropy.fresh_of_next (by decide +kernel)
      (hnew oneSource 2 (by decide +kernel) (by decide +kernel))

end Store

end FeatureCatalog
