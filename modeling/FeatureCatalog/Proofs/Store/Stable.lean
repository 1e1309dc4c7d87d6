import FeatureCatalog.Proofs.Store.Conflict
import FeatureCatalog.Proofs.Store.Names

/-! Creations that are asked for again at any later time. While an entity is there, nothing that its
definition refers to can be deleted, and what else is created or deleted changes lists of features
at most, which are no part of a definition. So until the entity itself is deleted, the call that has
created or found it finds it again. -/

namespace FeatureCatalog

theorem Json.sameItems_references {as bs : List EntityId} :
    sameItems (as.map EntityId.reference) (bs.map EntityId.reference) = true ↔ as = bs := by
  induction as generalizing bs with
  | nil => cases bs <;> simp [sameItems]
  | cons a as ih =>
    cases bs with
    | nil => simp [sameItems]
    | cons b bs => simp [sameItems, EntityId.same_reference, ih]

namespace Bag

variable {a b : Bag} {k : String}

theorem agreeAt_of_sameDefinition (h : a.sameDefinition b = true) (hk : k ≠ "features") :
    a.AgreeAt b k :=
  agreeAt_erase.1 (agreeAt_of_sameEntries h k) hk

/-- Bags that agree refer to the same entity. -/
theorem AgreeAt.refers (h : a.AgreeAt b k) {i j : EntityId} (hi : a.Refers k i)
    (hj : b.Refers k j) : i = j := by
  unfold AgreeAt at h
  rw [hi, hj] at h
  cases h with
  | some hsame => exact (EntityId.same_reference i j).1 hsame

theorem AgreeAt.lists (h : a.AgreeAt b k) {is js : List EntityId} (his : a.Lists k is)
    (hjs : b.Lists k js) : is = js := by
  unfold AgreeAt at h
  rw [his, hjs] at h
  cases h with
  | some hsame => exact Json.sameItems_references.1 hsame

end Bag

namespace Contents

open Creation

variable {c c' : Contents} {d : Definition} {e : Entity} {path : List String} {body : Bag}
  {id j : EntityId}

/-! ### What a definition refers to is protected -/

/-- An entity that is known consumes what its definition does. -/
theorem Sound.consumes_of_knows (hc : c.Sound) (hf : d.Fits c) (h : c.Knows d e)
    (hj : j ∈ d.consumes) : c.Consumes e.guid j := by
  obtain ⟨i, stored, hstored, rfl, -⟩ := exists_of_find? h.found
  obtain rfl := hc.guid hstored
  refine ⟨stored, hstored, ?_⟩
  have hlinked := hc.linked hstored
  have hreads := (hf.consumes stored.entity.guid j).1 hj
  have hagree : ∀ {k}, k ≠ "features" → stored.entity.attributes.AgreeAt d.attributes k :=
    Bag.agreeAt_of_sameDefinition h.same
  unfold Linked at hlinked
  unfold Entity.Reads at hreads ⊢
  have htype : (d.stored stored.entity.guid).entity.type = stored.entity.type := h.type.symm
  rw [htype] at hreads
  cases htype : stored.entity.type with
  | anchor =>
    rw [htype] at hlinked hreads
    obtain ⟨⟨s, hs, -⟩, -⟩ := hlinked
    exact (hagree (by decide)).refers hs hreads ▸ hs
  | derivedFeature =>
    rw [htype] at hlinked hreads
    obtain ⟨⟨as, has, -⟩, ds, hds, -⟩ := hlinked
    obtain ⟨ids, hids | hids, hmem⟩ := hreads
    · exact ⟨as, .inl has, (hagree (by decide)).lists has hids ▸ hmem⟩
    · exact ⟨ds, .inr hds, (hagree (by decide)).lists hds hids ▸ hmem⟩
  | project | source | anchorFeature =>
    rw [htype] at hreads
    exact hreads.elim

/-- While an entity is known, others depend on all that its definition refers to. -/
theorem Sound.not_unneeded_of_knows (hc : c.Sound) (hf : d.Fits c) (h : c.Knows d e)
    (hneeds : d.Needs j) : ¬c.Unneeded j := by
  intro hn
  rcases hneeds with hproject | hparent | hconsumes
  · cases hf.placed with
    | project _ hnone => simp [hnone] at hproject
    | @owned _ owner _ _ howner _ hownerType hproject' hparent =>
      obtain rfl := Option.some.inj (hproject'.symm.trans hproject)
      by_cases htype : owner.entity.type = .project
      · obtain ⟨-, -, -, hholds⟩ := hc.holds_of_knows hf h hparent
        exact hn.holds _ ((hc.project howner htype).1 ▸ hholds)
      · -- The owner is an anchor, which is in the project itself.
        refine hn.holds _ (.member howner htype ?_)
        rw [hownerType]
        cases d.type <;> decide
  · obtain ⟨-, -, -, hholds⟩ := hc.holds_of_knows hf h hparent
    exact hn.holds _ hholds
  · exact hn.consumes _ (hc.consumes_of_knows hf h hconsumes)

/-! ### Calls that stay answered -/

/-- What is recalled stays so when something else is removed. -/
theorem Recalls.of_remove (h : c.Recalls path body id) (hpath : path ≠ ["projects"])
    (hc : c.Sound) (hn : c.Unneeded j) (hne : id ≠ j) : (c.remove j).Recalls path body id := by
  obtain ⟨d, e, hcall, hknows, rfl⟩ := h
  have hd := describes_of_ofCall hcall
  have hkept : Describes (c.remove j) body path d := by
    refine describes_of_kept hd hpath fun hneeds hstored => ?_
    refine ⟨_, remove_cases.2 ⟨_, ?_, hstored, rfl⟩, Stored.alike_withoutFeature _ _⟩
    rintro rfl
    exact hc.not_unneeded_of_knows (hc.fits hd) hknows hneeds hn
  obtain ⟨e', hknows', hguid⟩ := hknows.of_preserves hc (hc.remove hn) (preserves_remove hne)
  exact ⟨d, e', ofCall_of_describes hcall hkept, hknows', hguid⟩

theorem IsProject.of_remove {name : String} (h : c.IsProject id name) (hne : id ≠ j) :
    (c.remove j).IsProject id name := by
  obtain ⟨stored, hstored, htype, hname⟩ := h
  exact ⟨_, remove_cases.2 ⟨stored, hne, hstored, rfl⟩, htype,
    (stored.alike_withoutFeature j).name?.trans hname⟩

/-- A call finds the entity with the given id: a project by its name, and anything else by its
definition. -/
inductive Retains (c : Contents) (body : Bag) (id : EntityId) : List String → Prop
  | project {name : String} : body.IsNamed name → c.IsProject id name →
      Retains c body id ["projects"]
  | entity {path : List String} : path ≠ ["projects"] → c.Recalls path body id →
      Retains c body id path

variable {entropy : Entropy} {n n' : Nat}

/-- What a creation has stored or found, it finds from then on. -/
theorem Creates.retains {creation : Creation} (h : c.Creates entropy n path body id c' n')
    (hc : c.Sound) (hfresh : entropy.Fresh c n n') (hcall : ofCall c path body = .ok creation) :
    c'.Retains body id path := by
  by_cases hpath : path = ["projects"]
  · subst hpath
    have hnamed : ∃ name, body.IsNamed name := by
      rcases ofCall_cases hcall with ⟨_, -, -, name, hname, -⟩ | ⟨_, -, hd⟩
      · exact ⟨name, hname⟩
      · obtain ⟨name, hname, -⟩ := hd.isNamed
        exact ⟨name, hname⟩
    obtain ⟨name, hname⟩ := hnamed
    exact .project hname (h.isProject hc hfresh hname)
  · exact .entity hpath (h.recalls hc hfresh hcall hpath)

theorem Retains.of_creates {path' : List String} {body' : Bag} {id' : EntityId}
    (h : c.Retains body id path) (hcreates : c.Creates entropy n path' body' id' c' n')
    (hc : c.Sound) (hfresh : entropy.Fresh c n n') : c'.Retains body id path := by
  cases h with
  | project hname hproject =>
    exact .project hname (Stays.isProject (hcreates.stays hc hfresh) hproject)
  | entity hpath hrecalls => exact .entity hpath (hrecalls.of_creates hpath hcreates hc hfresh)

theorem Retains.of_remove (h : c.Retains body id path) (hc : c.Sound) (hn : c.Unneeded j)
    (hne : id ≠ j) : (c.remove j).Retains body id path := by
  cases h with
  | project hname hproject => exact .project hname (hproject.of_remove hne)
  | entity hpath hrecalls => exact .entity hpath (hrecalls.of_remove hpath hc hn hne)

end Contents

namespace Store

variable {entropy : Entropy} {s s₁ t : Store} {path : List String} {headers : Headers}
  {id : EntityId}

/-- The registries that further calls to create and to delete can lead to, if the ids that they draw
are not in use, and none of them deletes the entity with the given id. -/
inductive Spares (entropy : Entropy) (id : EntityId) (s : Store) : Store → Prop
  | refl : Spares entropy id s s
  | limit {t : Store} (limit : Option Nat) : Spares entropy id s t →
      Spares entropy id s { t with failAfter := limit }
  | create {t : Store} (path : List String) (body : Json) (headers : Headers) :
      Spares entropy id s t →
      entropy.Fresh t.contents t.drawn (t.create entropy path body headers).2.drawn →
      Spares entropy id s (t.create entropy path body headers).2
  | delete {t : Store} (path : List String) (headers : Headers) : Spares entropy id s t →
      (t.delete path headers).1 ≠ .ok id.reference →
      Spares entropy id s (t.delete path headers).2

/-- A call that finds an entity finds it as long as the entity is spared. -/
theorem Spares.retains {body : Bag} (h : Spares entropy id s t) (hs : s.contents.Sound)
    (hretains : s.contents.Retains body id path) :
    t.token = s.token ∧ t.contents.Sound ∧ t.contents.Retains body id path := by
  induction h with
  | refl => exact ⟨rfl, hs, hretains⟩
  | limit _ _ ih => exact ih
  | @create t path' body' headers' _ hfresh ih =>
    obtain ⟨htoken, hsound, hretains⟩ := ih
    have hcreate := (Prod.mk.eta.symm : t.create entropy path' body' headers' = _)
    have hsound' := sound_create hsound hcreate hfresh
    obtain ⟨hkeeps, hcontents | ⟨_, _, -, hcreates⟩⟩ := create_cases hsound hcreate
    · exact ⟨hkeeps.token.trans htoken, hsound', hcontents ▸ hretains⟩
    · exact ⟨hkeeps.token.trans htoken, hsound', hretains.of_creates hcreates hsound hfresh⟩
  | @delete t path' headers' _ hspared ih =>
    obtain ⟨htoken, hsound, hretains⟩ := ih
    have hdelete := (Prod.mk.eta.symm : t.delete path' headers' = _)
    have hsound' := sound_delete hsound hdelete
    obtain ⟨-, hkeeps, hcontents | ⟨j, hanswer, hempty, hcontents⟩⟩ := delete_cases hdelete
    · exact ⟨hkeeps.token.trans htoken, hsound', hcontents ▸ hretains⟩
    · have hne : id ≠ j := by
        rintro rfl
        exact hspared hanswer
      refine ⟨hkeeps.token.trans htoken, hsound', ?_⟩
      rw [hcontents]
      exact hretains.of_remove hsound (hsound.unneeded hempty) hne

/-- A call that finds an entity is answered with its id, and nothing but the counts changes. -/
theorem create_of_retains (entropy : Entropy) {body : Bag} (hs : s.contents.Sound)
    (h : s.contents.Retains body id path) (hauthorized : s.isAuthorized headers = true)
    (hfailing : s.isFailing = false) :
    ∃ again, again.guid = id ∧ s.create entropy path (.obj body) headers =
      (.ok again, { s with createCalls := s.createCalls + 1, created := s.created + 1 }) := by
  cases h with
  | project hname hproject =>
    obtain ⟨again, hcreate, hguid⟩ :=
      create_eq_of_isProject entropy hproject hs hname hauthorized hfailing
    exact ⟨again, hguid, hcreate⟩
  | entity _ hrecalls =>
    obtain ⟨d, e, hcall, hknows, rfl⟩ := hrecalls
    exact ⟨_, rfl, create_of_knows entropy hs hcall hknows hauthorized hfailing⟩

/-- A call to create that has succeeded can be repeated at any later time, as long as the entity
that it answered with is not deleted, whatever else is created or deleted in between. It succeeds
again with the same id, draws none, and leaves all that is stored as it is. -/
theorem Reachable.recreation_is_stable (h : Reachable entropy s) {body : Json}
    {entity : CreatedEntity} (hcreate : s.create entropy path body headers = (.ok entity, s₁))
    (hfresh : entropy.Fresh s.contents s.drawn s₁.drawn) (hspares : Spares entropy entity.guid s₁ t)
    (hfailing : t.isFailing = false) :
    ∃ again, again.guid = entity.guid ∧ t.create entropy path body headers =
      (.ok again, { t with createCalls := t.createCalls + 1, created := t.created + 1 }) := by
  obtain ⟨attributes, rfl, hauthorized, -, hcreates, hkeeps⟩ := create_ok h.sound hcreate
  obtain ⟨creation, hcall⟩ := ofCall_of_create hcreate
  have hretains := hcreates.retains h.sound hfresh hcall
  obtain ⟨htoken, hsound, hretains⟩ := hspares.retains (hcreates.sound h.sound hfresh) hretains
  have hauthorized' : t.isAuthorized headers = true :=
    (isAuthorized_congr (htoken.trans hkeeps.token) headers).trans hauthorized
  exact create_of_retains entropy hsound hretains hauthorized' hfailing

/-- Creates a feature of the anchor of `oneAnchor`. -/
def createFeature (s : Store) (body : Bag) : Except TransportError CreatedEntity × Store :=
  s.create .counting
    ["projects", (EntityId.ofBits 0).text, "anchors", (EntityId.ofBits 2).text, "features"]
    (.obj body) []

/-- The registry with one feature, after another feature of the same anchor has been created. -/
def twoFeatures : Store :=
  (oneFeature.createFeature [("name", .str "h")]).2

/-- The registry with two features, after a call to delete the anchor, which is refused, and a call
to delete the second feature. -/
def featureLeft : Store :=
  ((twoFeatures.delete ["entity", "p__a"] []).2.delete ["entity", "p__a__h"] []).2

/-- The feature that is left is found by the call that has created it. -/
theorem oneFeature_recreation_is_stable :
    featureLeft.contents.find? "p__a__h" = none ∧
    ∃ again, again.guid = .ofBits 3 ∧
      featureLeft.createFeature [("name", .str "f__g"), ("qualifiedName", .str "p")] =
        (.ok again, { featureLeft with
          createCalls := featureLeft.createCalls + 1, created := featureLeft.created + 1 }) := by
  have hchecks :
      (oneAnchor.createFeature [("name", .str "f__g"), ("qualifiedName", .str "p")]).1.map
        CreatedEntity.guid = .ok (.ofBits 3) ∧
      oneFeature.drawn ≤ oneAnchor.drawn + 1 ∧
      (oneAnchor.contents.stored? (.ofBits (.ofNat 128 oneAnchor.drawn))).isNone ∧
      twoFeatures.drawn ≤ oneFeature.drawn + 1 ∧
      (oneFeature.contents.stored? (.ofBits (.ofNat 128 oneFeature.drawn))).isNone ∧
      (twoFeatures.delete ["entity", "p__a"] []).1.isOk = false ∧
      ((twoFeatures.delete ["entity", "p__a"] []).2.delete ["entity", "p__a__h"] []).1.toOption.map
        Json.print = some (EntityId.ofBits 4).reference.print ∧
      featureLeft.isFailing = false ∧ featureLeft.contents.find? "p__a__h" = none := by
    decide +kernel
  obtain ⟨hfirst, hdrawn, hunused, hdrawn', hunused', hrefused, hdeleted, hfailing, hgone⟩ :=
    hchecks
  obtain ⟨entity, hentity, hguid⟩ := map_eq_ok.1 hfirst
  have hcreate : oneAnchor.createFeature [("name", .str "f__g"), ("qualifiedName", .str "p")] =
      (.ok entity, oneFeature) :=
    Prod.ext hentity rfl
  have hfresh := Entropy.fresh_counting_once hdrawn (Option.isNone_iff_eq_none.1 hunused)
  have hfresh' := Entropy.fresh_counting_once hdrawn' (Option.isNone_iff_eq_none.1 hunused')
  have hspares : Spares .counting entity.guid oneFeature featureLeft := by
    refine .delete _ _ (.delete _ _ (.create _ _ _ .refl hfresh') fun hok => ?_) fun hok => ?_
    · rw [hok] at hrefused
      cases hrefused
    · rw [hok, hguid] at hdeleted
      exact absurd hdeleted (by decide +kernel)
  rw [← hguid]
  exact ⟨hgone, Reachable.recreation_is_stable reachable_oneAnchor hcreate hfresh hspares hfailing⟩

end Store

end FeatureCatalog
