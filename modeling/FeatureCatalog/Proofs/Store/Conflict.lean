import FeatureCatalog.Proofs.Store.Reachable
import FeatureCatalog.Proofs.Store.Repeat

/-! Creations whose name is taken. The registry compares what it would store with what is there, key
by key, and refuses whatever differs. Of entities of all types it leaves out the key of the list of
features, so a source whose only difference is under that key passes for the one that is there. -/

namespace FeatureCatalog

namespace Bag

/-- Under the key the bags have the same value, or both have none. -/
def AgreeAt (a b : Bag) (k : String) : Prop :=
  Option.Rel (fun x y => x.same y = true) (Entries.get? k a) (Entries.get? k b)

variable {a b : Bag}

theorem agreeAt_erase {k : String} : AgreeAt (Entries.erase "features" a)
    (Entries.erase "features" b) k ↔ (k ≠ "features" → a.AgreeAt b k) := by
  unfold AgreeAt
  rw [Entries.get?_erase, Entries.get?_erase]
  by_cases hk : k = "features"
  · simp [hk]
  · simp [hk]

theorem agreeAt_of_sameEntries (h : Json.sameEntries a b = true) (k : String) : a.AgreeAt b k := by
  induction a generalizing b with
  | nil =>
    cases b with
    | nil => exact .none
    | cons => simp [Json.sameEntries] at h
  | cons e as ih =>
    cases b with
    | nil => simp [Json.sameEntries] at h
    | cons f bs =>
      simp only [Json.sameEntries, Bool.and_eq_true, beq_iff_eq] at h
      obtain ⟨⟨hkey, hsame⟩, hrest⟩ := h
      unfold AgreeAt
      rw [Entries.get?_cons, Entries.get?_cons, hkey]
      split
      · exact .some hsame
      · exact ih hrest

theorem AgreeAt.isSome {k : String} (h : a.AgreeAt b k) :
    (Entries.get? k a).isSome = (Entries.get? k b).isSome := by
  unfold AgreeAt at h
  generalize Entries.get? k a = x, Entries.get? k b = y at h
  cases h <;> rfl

end Bag

namespace Entries

variable {α : Type} {e : String × α} {rest : List (String × α)} {k : String}

theorem get?_head (e : String × α) (rest : List (String × α)) :
    get? e.1 (e :: rest) = some e.2 :=
  if_pos rfl

theorem Ordered.lt_of_isSome (h : Ordered (e :: rest)) (hk : k ≠ e.1)
    (hsome : (get? k (e :: rest)).isSome = true) : e.1 < k := by
  rw [get?_cons, if_neg hk] at hsome
  obtain ⟨v, hv⟩ := Option.isSome_iff_exists.1 hsome
  exact (List.pairwise_cons.1 h).1 (k, v) (mem_of_get? hv)

theorem Ordered.get?_rest_self (h : Ordered (e :: rest)) : get? e.1 rest = none := by
  refine get?_eq_none_iff.2 fun f hf heq => ?_
  have hlt := (List.pairwise_cons.1 h).1 f hf
  rw [heq] at hlt
  exact String.lt_irrefl _ hlt

end Entries

namespace Bag

variable {a b : Bag}

/-- Bags whose keys are in order are the same if they agree at every key. -/
theorem sameEntries_of_agreeAt (ha : Entries.Ordered a) (hb : Entries.Ordered b)
    (h : ∀ k, a.AgreeAt b k) : Json.sameEntries a b = true := by
  induction a generalizing b with
  | nil =>
    cases b with
    | nil => rfl
    | cons f bs =>
      have hsome := (h f.1).isSome
      rw [Entries.get?_head] at hsome
      cases hsome
  | cons e as ih =>
    cases b with
    | nil =>
      have hsome := (h e.1).isSome
      rw [Entries.get?_head] at hsome
      cases hsome
    | cons f bs =>
      -- if the first keys differed, the smaller one would be missing from the other bag
      have hkey : e.1 = f.1 := by
        by_contra hne
        have he := (h e.1).isSome
        have hf := (h f.1).isSome
        rw [Entries.get?_head] at he hf
        have hlt : f.1 < e.1 := hb.lt_of_isSome hne he.symm
        exact String.lt_irrefl _ (String.lt_trans hlt (ha.lt_of_isSome (Ne.symm hne) hf))
      have hhead := h e.1
      unfold AgreeAt at hhead
      rw [Entries.get?_head, hkey, Entries.get?_head] at hhead
      cases hhead with
      | some hsame =>
        have hrest : ∀ k, AgreeAt as bs k := by
          intro k
          have hk := h k
          unfold AgreeAt at hk ⊢
          rw [Entries.get?_cons, Entries.get?_cons, ← hkey] at hk
          by_cases heq : k = e.1
          · rw [heq, ha.get?_rest_self, hkey, hb.get?_rest_self]
            exact .none
          · rwa [if_neg heq, if_neg heq] at hk
        simp only [Json.sameEntries, hkey, beq_self_eq_true, hsame, Bool.true_and]
        exact ih (List.pairwise_cons.1 ha).2 (List.pairwise_cons.1 hb).2 hrest

theorem sameEntries_iff (ha : Entries.Ordered a) (hb : Entries.Ordered b) :
    Json.sameEntries a b = true ↔ ∀ k, a.AgreeAt b k :=
  ⟨agreeAt_of_sameEntries, sameEntries_of_agreeAt ha hb⟩

/-- Bags are of the same definition if they agree at every key but that of the list of features. -/
theorem sameDefinition_iff (ha : Entries.Ordered a) (hb : Entries.Ordered b) :
    a.sameDefinition b = true ↔ ∀ k, k ≠ "features" → a.AgreeAt b k := by
  unfold sameDefinition
  rw [sameEntries_iff (ha.erase _) (hb.erase _)]
  exact forall_congr' fun _ => agreeAt_erase

/-- Bags with the same list of features, or none, are of the same definition if they are the
same. -/
theorem sameDefinition_iff_same (ha : Entries.Ordered a) (hb : Entries.Ordered b)
    (hfeatures : a.AgreeAt b "features") :
    a.sameDefinition b = true ↔ (Json.obj a).same (.obj b) = true := by
  have hsame : (Json.obj a).same (.obj b) = Json.sameEntries a b := rfl
  rw [hsame, sameEntries_iff ha hb, sameDefinition_iff ha hb]
  constructor
  · intro h k
    by_cases hk : k = "features"
    · rwa [hk]
    · exact h k hk
  · exact fun h k _ => h k

end Bag

namespace Creation

variable {c : Contents} {path : List String} {body : Bag} {d : Definition}

theorem ordered_storeFeatureType (h : Entries.Ordered body) :
    Entries.Ordered (storeFeatureType body) := by
  unfold storeFeatureType
  split
  · exact (h.erase _).insert _ _
  · exact h

/-- What a call with an object describes is stored as an object. -/
theorem Describes.ordered (hd : Describes c body path d) (h : Entries.Ordered body) :
    Entries.Ordered d.attributes := by
  cases hd with
  | project =>
    have hkeys : ["name", "tags"].Pairwise (· < ·) := by decide +kernel
    exact (Entries.ordered_of_keys hkeys (.refl _)).insert _ _
  | anchor =>
    have hkeys : ["features", "name", "source", "tags"].Pairwise (· < ·) := by decide +kernel
    exact (Entries.ordered_of_keys hkeys (.refl _)).insert _ _
  | source => exact h.insert _ _
  | feature => exact (ordered_storeFeatureType h).insert _ _
  | derived => exact (((ordered_storeFeatureType h).insert _ _).insert _ _).insert _ _

theorem ordered_of_ofCall (hcall : ofCall c path body = .ok (.define d))
    (h : Entries.Ordered body) : Entries.Ordered d.attributes :=
  (Contents.describes_of_ofCall hcall).ordered h

end Creation

namespace Store

variable {entropy : Entropy} {s : Store} {path : List String} {body : Bag} {headers : Headers}
  {d : Definition} {e : Entity}

/-- A creation whose name is that of an entity of another definition is counted, and refused. -/
theorem create_of_conflict (entropy : Entropy)
    (hcall : Creation.ofCall s.contents path body = .ok (.define d))
    (hfound : s.contents.find? d.qualifiedName = some e)
    (h : ¬(e.type = d.type ∧ e.attributes.sameDefinition d.attributes = true))
    (hauthorized : s.isAuthorized headers = true) (hfailing : s.isFailing = false) :
    s.create entropy path (.obj body) headers =
      (.error
        ⟨409, "entity `" ++ d.qualifiedName ++ "` already exists with a different definition"⟩,
        { s with createCalls := s.createCalls + 1 }) := by
  rw [create_of_not_isFailing hfailing, if_pos hauthorized]
  unfold place Contents.known?
  simp only [hcall, hfound, if_neg h]

/-- What a creation comes to whose name is taken. It is given the id that is there, and nothing is
stored, if the entity there has the same type and is of the same definition; otherwise it is
refused. Of the same definition is what has the same value at every key but that of the list of
features, whatever the type; so where both agree there, too, it is what has the same bag. -/
theorem Reachable.recreation_is_compared (h : Reachable entropy s)
    (hauthorized : s.isAuthorized headers = true) (hfailing : s.isFailing = false)
    (hcall : Creation.ofCall s.contents path body = .ok (.define d))
    (hfound : s.contents.find? d.qualifiedName = some e) :
    s.create entropy path (.obj body) headers =
      (if e.type = d.type ∧ e.attributes.sameDefinition d.attributes = true then
        (.ok ⟨e.guid, .obj e.attributes⟩,
          { s with createCalls := s.createCalls + 1, created := s.created + 1 })
      else
        (.error
          ⟨409, "entity `" ++ d.qualifiedName ++ "` already exists with a different definition"⟩,
          { s with createCalls := s.createCalls + 1 })) ∧
    (Entries.Ordered e.attributes → Entries.Ordered body →
      (e.attributes.sameDefinition d.attributes = true ↔
        ∀ k, k ≠ "features" → e.attributes.AgreeAt d.attributes k) ∧
      (e.attributes.AgreeAt d.attributes "features" →
        (e.attributes.sameDefinition d.attributes = true ↔
          (Json.obj e.attributes).same (.obj d.attributes) = true))) := by
  constructor
  · split
    · rename_i hsame
      exact create_of_knows entropy h.sound hcall ⟨hfound, hsame.1, hsame.2⟩ hauthorized hfailing
    · rename_i hother
      exact create_of_conflict entropy hcall hfound hother hauthorized hfailing
  · intro he hbody
    have hd := Creation.ordered_of_ofCall hcall hbody
    exact ⟨Bag.sameDefinition_iff he hd, Bag.sameDefinition_iff_same he hd⟩

/-- The definition that a call comes to and the entity that has its name, if there are such. -/
def taken? (s : Store) (path : List String) (body : Bag) : Option (Definition × Entity) :=
  match Creation.ofCall s.contents path body with
  | .ok (.define d) => (s.contents.find? d.qualifiedName).map fun e => (d, e)
  | _ => none

theorem of_taken? (h : s.taken? path body = some (d, e)) :
    Creation.ofCall s.contents path body = .ok (.define d) ∧
      s.contents.find? d.qualifiedName = some e := by
  unfold taken? at h
  split at h
  · rename_i d' hcall
    obtain ⟨e', hfound, heq⟩ := Option.map_eq_some_iff.1 h
    obtain ⟨rfl, rfl⟩ := Prod.mk.inj heq
    exact ⟨hcall, hfound⟩
  · cases h

/-- A source that has other tags than the one of its name is refused. -/
theorem oneSource_recreation_is_compared : ∃ d e,
    Creation.ofCall oneSource.contents ["projects", (EntityId.ofBits 0).text, "datasources"]
      [("name", .str "s"), ("tags", .obj [])] = .ok (.define d) ∧
    oneSource.contents.find? d.qualifiedName = some e ∧
    ¬(∀ k, k ≠ "features" → e.attributes.AgreeAt d.attributes k) ∧
    oneSource.create .counting ["projects", (EntityId.ofBits 0).text, "datasources"]
        (.obj [("name", .str "s"), ("tags", .obj [])]) [] =
      (.error
        ⟨409, "entity `" ++ d.qualifiedName ++ "` already exists with a different definition"⟩,
        { oneSource with createCalls := oneSource.createCalls + 1 }) := by
  have hcheck : (oneSource.taken? ["projects", (EntityId.ofBits 0).text, "datasources"]
      [("name", .str "s"), ("tags", .obj [])]).any (fun t =>
        decide (t.2.attributes.Pairwise fun a b => a.1 < b.1) &&
          !t.2.attributes.sameDefinition t.1.attributes) = true := by
    decide +kernel
  obtain ⟨⟨d, e⟩, htaken, hcheck⟩ := (Option.any_eq_true _ _).1 hcheck
  rw [Bool.and_eq_true, decide_eq_true_iff, Bool.not_eq_true'] at hcheck
  obtain ⟨hordered, hother⟩ := hcheck
  obtain ⟨hcall, hfound⟩ := of_taken? htaken
  have hkeys : ["name", "tags"].Pairwise (· < ·) := by decide +kernel
  have hbody : Entries.Ordered [("name", Json.str "s"), ("tags", .obj [])] :=
    Entries.ordered_of_keys hkeys (.refl _)
  obtain ⟨hanswer, hcompared⟩ :=
    Reachable.recreation_is_compared reachable_oneSource rfl rfl hcall hfound
  have hdiffer := (hcompared hordered hbody).1
  rw [hother] at hanswer hdiffer
  refine ⟨d, e, hcall, hfound, fun hagree => ?_, ?_⟩
  · cases hdiffer.2 hagree
  · rw [hanswer, if_neg (by simp)]

/-- What creates a generic source with an option called `features`. -/
def optionBody (value : String) : Bag :=
  [ ("features", .str value), ("format", .str "csv"), ("name", .str "s"), ("tags", .obj []),
    ("type", .str "generic") ]

/-- A registry with one project that has one source, with an option called `features`. -/
def oneOption : Store :=
  (oneProject.create .counting ["projects", (EntityId.ofBits 0).text, "datasources"]
    (.obj (optionBody "a")) []).2

theorem reachable_oneOption : Reachable .counting oneOption :=
  reachable_oneProject.create_counting 1 (by decide +kernel) (by decide +kernel) (by decide +kernel)

/-- A source with another value of that option is not refused: it is taken for the one that is
there, although the bag that it would have is not the same. -/
theorem oneOption_conflict_is_overlooked : Reachable .counting oneOption ∧ ∃ d e,
    Creation.ofCall oneOption.contents ["projects", (EntityId.ofBits 0).text, "datasources"]
      (optionBody "b") = .ok (.define d) ∧
    oneOption.contents.find? d.qualifiedName = some e ∧ e.type = .source ∧
    (Json.obj e.attributes).same (.obj d.attributes) = false ∧
    (oneOption.create .counting ["projects", (EntityId.ofBits 0).text, "datasources"]
      (.obj (optionBody "b")) []).1 = .ok ⟨e.guid, .obj e.attributes⟩ := by
  have hcheck : (oneOption.taken? ["projects", (EntityId.ofBits 0).text, "datasources"]
      (optionBody "b")).any (fun t =>
        t.2.type == .source && t.1.type == .source &&
          !(Json.obj t.2.attributes).same (.obj t.1.attributes) &&
          t.2.attributes.sameDefinition t.1.attributes) = true := by
    decide +kernel
  obtain ⟨⟨d, e⟩, htaken, hcheck⟩ := (Option.any_eq_true _ _).1 hcheck
  simp only [Bool.and_eq_true, beq_iff_eq, Bool.not_eq_true'] at hcheck
  obtain ⟨⟨⟨htype, hdtype⟩, hdiffers⟩, hsame⟩ := hcheck
  obtain ⟨hcall, hfound⟩ := of_taken? htaken
  refine ⟨reachable_oneOption, d, e, hcall, hfound, htype, hdiffers, ?_⟩
  rw [create_of_knows .counting reachable_oneOption.sound hcall
    ⟨hfound, htype.trans hdtype.symm, hsame⟩ rfl rfl]

end Store

end FeatureCatalog
