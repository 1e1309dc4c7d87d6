import FeatureCatalog.Proofs.Outcome
import FeatureCatalog.Proofs.Store.Addition

/-! What a call that creates an entity comes to where it is not refused: one form of definition for
each kind of entity, which fits contents that are sound. -/

namespace FeatureCatalog

namespace Definition

/-- A project. -/
def ofProject (name : String) (body : Bag) : Definition where
  type := .project
  project := none
  qualifiedName := name
  attributes := Creation.named [("name", .str name), ("tags", Creation.tagsOf body)] name
  parent := none
  anchor := none
  consumes := []

/-- A source of a project. -/
def ofSource (project : EntityId) (projectName name : String) (body : Bag) : Definition where
  type := .source
  project := some project
  qualifiedName := FeatureCatalog.qualifiedName projectName [name]
  attributes := Creation.named body (FeatureCatalog.qualifiedName projectName [name])
  parent := some project
  anchor := none
  consumes := []

/-- An anchor of a project. -/
def ofAnchor (project : EntityId) (projectName name : String) (source : EntityId) (body : Bag) :
    Definition where
  type := .anchor
  project := some project
  qualifiedName := FeatureCatalog.qualifiedName projectName [name]
  attributes := Creation.named
    [ ("features", .arr []), ("name", .str name), ("source", source.reference),
      ("tags", Creation.tagsOf body) ] (FeatureCatalog.qualifiedName projectName [name])
  parent := some project
  anchor := none
  consumes := [source]

/-- A feature of an anchor. -/
def ofFeature (project anchor : EntityId) (projectName anchorName name : String) (body : Bag) :
    Definition where
  type := .anchorFeature
  project := some project
  qualifiedName := FeatureCatalog.qualifiedName projectName [anchorName, name]
  attributes := Creation.named (Creation.storeFeatureType body)
    (FeatureCatalog.qualifiedName projectName [anchorName, name])
  parent := some anchor
  anchor := some anchor
  consumes := []

/-- A derived feature of a project. -/
def ofDerived (project : EntityId) (projectName name : String) (anchored derived : List EntityId)
    (body : Bag) : Definition where
  type := .derivedFeature
  project := some project
  qualifiedName := FeatureCatalog.qualifiedName projectName [name]
  attributes := Creation.named
    (Entries.insert "inputDerivedFeatures" (.arr (derived.map EntityId.reference))
      (Entries.insert "inputAnchorFeatures" (.arr (anchored.map EntityId.reference))
        (Creation.storeFeatureType body)))
    (FeatureCatalog.qualifiedName projectName [name])
  parent := some project
  anchor := none
  consumes := anchored ++ derived

end Definition

/-- The body of a call gives a name, which is not empty. -/
structure Bag.IsNamed (body : Bag) (name : String) : Prop where
  text : body.text? "name" = some name
  ne_empty : name ≠ ""

namespace Creation

theorem requiredText_eq_ok {body : Bag} {key text : String} :
    requiredText body key = .ok text ↔ body.text? key = some text ∧ text ≠ "" := by
  unfold requiredText
  split
  · rename_i t ht
    split
    · rename_i hempty
      simp [ht, hempty]
    · rename_i hne
      constructor
      · rintro h
        obtain rfl := Except.ok.inj h
        exact ⟨ht, hne⟩
      · rintro ⟨h, -⟩
        obtain rfl := Option.some.inj (ht.symm.trans h)
        rfl
  · rename_i hnone
    simp [hnone]

theorem isNamed_of_requiredText {body : Bag} {name : String}
    (h : requiredText body "name" = .ok name) : body.IsNamed name :=
  ⟨(requiredText_eq_ok.1 h).1, (requiredText_eq_ok.1 h).2⟩

theorem checkInputs_eq_ok {c : Contents} {project : EntityId} {type : EntityType}
    {ids : List EntityId} :
    checkInputs c project type ids = .ok () ↔ ∀ id ∈ ids, c.Has project type id := by
  induction ids with
  | nil => simp [checkInputs]
  | cons id rest ih =>
    have hhas : (c.typed? project type id).isNone = true ↔ ¬c.Has project type id := by
      rw [Option.isNone_iff_eq_none, Option.eq_none_iff_forall_ne_some]
      simp only [ne_eq, Contents.typed?_eq_some, Contents.Has]
      grind
    rw [checkInputs, List.forall_mem_cons]
    split
    · rename_i h
      simp [hhas.1 h]
    · rename_i h
      rw [ih]
      simp [not_not.1 (mt hhas.2 h)]

/-- The references to inputs in the body of a call. -/
def refs (body : Bag) (key : String) : Except Mismatch (List EntityRef) :=
  match Entries.get? key body with
  | none => .ok []
  | some value => EntityRef.decoder.list value

theorem inputs_eq_ok {c : Contents} {project : EntityId} {body : Bag} {key : String}
    {type : EntityType} {ids : List EntityId} :
    inputs c project body key type = .ok ids ↔
      (∃ rs, refs body key = .ok rs ∧ rs.map EntityRef.id = ids) ∧
        ∀ id ∈ ids, c.Has project type id := by
  have hcheck : ∀ rs : List EntityRef,
      ((do
        checkInputs c project type (rs.map EntityRef.id)
        return rs.map EntityRef.id) = Except.ok ids) ↔
      rs.map EntityRef.id = ids ∧ ∀ id ∈ ids, c.Has project type id := by
    intro rs
    simp only [bind_eq_ok, return_eq_ok]
    constructor
    · rintro ⟨⟨⟩, hcheck, rfl⟩
      exact ⟨rfl, checkInputs_eq_ok.1 hcheck⟩
    · rintro ⟨rfl, hall⟩
      exact ⟨⟨⟩, checkInputs_eq_ok.2 hall, rfl⟩
  unfold inputs refs
  cases Entries.get? key body with
  | none =>
    simp only [Except.ok.injEq, exists_eq_left']
    exact hcheck []
  | some value =>
    cases hvalue : EntityRef.decoder.list value with
    | error cause => simp [hvalue, bind, Except.bind]
    | ok rs =>
      simp only [hvalue, Except.ok.injEq, exists_eq_left']
      exact hcheck rs

/-- What a call with a body asks for, where it is not refused and its project is not there yet. -/
inductive Describes (c : Contents) (body : Bag) : List String → Definition → Prop
  | project {name} : body.IsNamed name → c.projectNamed? name = none →
      Describes c body ["projects"] (.ofProject name body)
  | source {p projectName name} : c.projectName ⟨p⟩ = .ok projectName → body.IsNamed name →
      Describes c body ["projects", p, "datasources"] (.ofSource ⟨p⟩ projectName name body)
  | anchor {p projectName name source} : c.projectName ⟨p⟩ = .ok projectName →
      body.IsNamed name → body.text? "sourceId" = some source → c.Has ⟨p⟩ .source ⟨source⟩ →
      Describes c body ["projects", p, "anchors"] (.ofAnchor ⟨p⟩ projectName name ⟨source⟩ body)
  | feature {p a projectName stored anchorName name} : c.projectName ⟨p⟩ = .ok projectName →
      c.stored? ⟨a⟩ = some stored → stored.project = ⟨p⟩ → stored.entity.type = .anchor →
      stored.entity.name? = some anchorName → body.IsNamed name →
      Describes c body ["projects", p, "anchors", a, "features"]
        (.ofFeature ⟨p⟩ ⟨a⟩ projectName anchorName name body)
  | derived {p projectName name anchored derived} : c.projectName ⟨p⟩ = .ok projectName →
      body.IsNamed name → refs body "inputAnchorFeatures" = .ok anchored →
      refs body "inputDerivedFeatures" = .ok derived →
      (∀ r ∈ anchored, c.Has ⟨p⟩ .anchorFeature r.id) →
      (∀ r ∈ derived, c.Has ⟨p⟩ .derivedFeature r.id) →
      Describes c body ["projects", p, "derivedfeatures"]
        (.ofDerived ⟨p⟩ projectName name (anchored.map EntityRef.id) (derived.map EntityRef.id)
          body)

/-- The project that a call asks for is there. -/
def Finds (c : Contents) (body : Bag) (path : List String) (id : EntityId) : Prop :=
  path = ["projects"] ∧ ∃ name, body.IsNamed name ∧ c.projectNamed? name = some id

/-- A call that is not refused finds its project or describes an entity. -/
theorem ofCall_cases {c : Contents} {path : List String} {body : Bag} {creation : Creation}
    (h : ofCall c path body = .ok creation) :
    (∃ id, creation = .existing id ∧ Finds c body path id) ∨
      ∃ d, creation = .define d ∧ Describes c body path d := by
  unfold ofCall at h
  split at h
  · unfold project at h
    obtain ⟨name, hname, h⟩ := bind_eq_ok.1 h
    have hnamed := isNamed_of_requiredText hname
    split at h
    · rename_i id hid
      exact .inl ⟨id, (return_eq_ok.1 h).symm, rfl, name, hnamed, hid⟩
    · rename_i hnone
      exact .inr ⟨_, (return_eq_ok.1 h).symm, .project hnamed hnone⟩
  · obtain ⟨d, hd, rfl⟩ := map_eq_ok.1 h
    obtain ⟨projectName, hproject, hd⟩ := bind_eq_ok.1 hd
    obtain ⟨name, hname, hd⟩ := bind_eq_ok.1 hd
    obtain rfl := return_eq_ok.1 hd
    exact .inr ⟨_, rfl, .source hproject (isNamed_of_requiredText hname)⟩
  · obtain ⟨d, hd, rfl⟩ := map_eq_ok.1 h
    obtain ⟨projectName, hproject, hd⟩ := bind_eq_ok.1 hd
    obtain ⟨name, hname, hd⟩ := bind_eq_ok.1 hd
    obtain ⟨source, hsource, hd⟩ := bind_eq_ok.1 hd
    dsimp only at hd
    split at hd
    · simp at hd
    · rename_i hsome
      obtain rfl := return_eq_ok.1 hd
      rw [Bool.not_eq_true, Option.isNone_eq_false_iff, Option.isSome_iff_exists] at hsome
      obtain ⟨e, he⟩ := hsome
      obtain ⟨stored, hstored, hp, htype, -⟩ := Contents.typed?_eq_some.1 he
      exact .inr ⟨_, rfl, .anchor hproject (isNamed_of_requiredText hname)
        (requiredText_eq_ok.1 hsource).1 ⟨stored, hstored, hp, htype⟩⟩
  · obtain ⟨d, hd, rfl⟩ := map_eq_ok.1 h
    obtain ⟨projectName, hproject, hd⟩ := bind_eq_ok.1 hd
    split at hd
    · rename_i anchorName hanchor
      obtain ⟨name, hname, hd⟩ := bind_eq_ok.1 hd
      obtain rfl := return_eq_ok.1 hd
      obtain ⟨e, he, hename⟩ := Option.bind_eq_some_iff.1 hanchor
      obtain ⟨stored, hstored, hp, htype, rfl⟩ := Contents.typed?_eq_some.1 he
      exact .inr ⟨_, rfl, .feature hproject hstored hp htype hename
        (isNamed_of_requiredText hname)⟩
    · simp at hd
  · obtain ⟨d, hd, rfl⟩ := map_eq_ok.1 h
    obtain ⟨projectName, hproject, hd⟩ := bind_eq_ok.1 hd
    obtain ⟨name, hname, hd⟩ := bind_eq_ok.1 hd
    obtain ⟨anchored, hanchored, hd⟩ := bind_eq_ok.1 hd
    obtain ⟨derived, hderived, hd⟩ := bind_eq_ok.1 hd
    obtain rfl := return_eq_ok.1 hd
    obtain ⟨⟨as, has, rfl⟩, hasHas⟩ := inputs_eq_ok.1 hanchored
    obtain ⟨⟨ds, hds, rfl⟩, hdsHas⟩ := inputs_eq_ok.1 hderived
    exact .inr ⟨_, rfl, .derived hproject (isNamed_of_requiredText hname) has hds
      (fun r hr => hasHas _ (List.mem_map_of_mem hr))
      (fun r hr => hdsHas _ (List.mem_map_of_mem hr))⟩
  · simp at h

theorem get?_storeFeatureType (body : Bag) {key : String} (htype : key ≠ "type")
    (hfeature : key ≠ "featureType") :
    Entries.get? key (storeFeatureType body) = Entries.get? key body := by
  unfold storeFeatureType
  split
  · rw [Entries.get?_insert, if_neg htype, Entries.get?_erase, if_neg hfeature]
  · rfl

theorem text?_storeFeatureType (body : Bag) {key : String} (htype : key ≠ "type")
    (hfeature : key ≠ "featureType") : Bag.text? (storeFeatureType body) key = body.text? key := by
  unfold Bag.text?
  rw [get?_storeFeatureType body htype hfeature]

theorem text?_named_self (attributes : Bag) (qualifiedName : String) :
    Bag.text? (named attributes qualifiedName) "qualifiedName" = some qualifiedName := by
  rw [named, Bag.text?_insert, if_pos rfl]
  rfl

theorem text?_named (attributes : Bag) (qualifiedName : String) {key : String}
    (h : key ≠ "qualifiedName") :
    Bag.text? (named attributes qualifiedName) key = attributes.text? key := by
  rw [named, Bag.text?_insert, if_neg h]

/-- What a call describes has the name that the body of the call gives it. -/
theorem Describes.isNamed {c : Contents} {body : Bag} {path : List String} {d : Definition}
    (h : Describes c body path d) : ∃ name, body.IsNamed name ∧ d.attributes.IsNamed name := by
  have hstore : ∀ {name}, body.IsNamed name → Bag.IsNamed (storeFeatureType body) name :=
    fun hname => ⟨(text?_storeFeatureType _ (by decide) (by decide)).trans hname.text,
      hname.ne_empty⟩
  have hnamed : ∀ {attributes : Bag} {name} (q : String), attributes.IsNamed name →
      Bag.IsNamed (named attributes q) name :=
    fun q hname => ⟨(text?_named _ q (by decide)).trans hname.text, hname.ne_empty⟩
  cases h with
  | project hname => exact ⟨_, hname, hnamed _ ⟨rfl, hname.ne_empty⟩⟩
  | source _ hname => exact ⟨_, hname, hnamed _ hname⟩
  | anchor _ hname => exact ⟨_, hname, hnamed _ ⟨rfl, hname.ne_empty⟩⟩
  | feature _ _ _ _ _ hname => exact ⟨_, hname, hnamed _ (hstore hname)⟩
  | derived _ hname =>
    refine ⟨_, hname, hnamed _ ⟨?_, hname.ne_empty⟩⟩
    rw [Bag.text?_insert, if_neg (by decide), Bag.text?_insert, if_neg (by decide)]
    exact (hstore hname).text

end Creation

namespace Contents

open Creation

variable {c : Contents}

theorem Sound.qualifiedName_of_projectName (hc : c.Sound) {id : EntityId} {name : String}
    (h : c.projectName id = .ok name) :
    ∃ stored, c.stored? id = some stored ∧ stored.entity.type = .project ∧ stored.project = id ∧
      stored.entity.qualifiedName? = some name := by
  obtain ⟨stored, hstored, htype, hname⟩ := projectName_eq_ok.1 h
  obtain ⟨hproject, n, hn, hqn⟩ := hc.project hstored htype
  rw [hn, Option.getD_some] at hname
  exact ⟨stored, hstored, htype, hproject, hname ▸ hqn⟩

/-- An anchor is called after its project. -/
theorem Sound.qualifiedName_of_anchor (hc : c.Sound) {id p : EntityId} {stored : Stored}
    {projectName name : String} (hp : c.projectName p = .ok projectName)
    (hstored : c.stored? id = some stored) (hproject : stored.project = p)
    (htype : stored.entity.type = .anchor) (hname : stored.entity.name? = some name) :
    stored.entity.qualifiedName? = some (FeatureCatalog.qualifiedName projectName [name]) := by
  obtain ⟨sp, hsp, hsptype, hspp, hq⟩ := hc.qualifiedName_of_projectName hp
  have hmember := Holds.member hstored (by rw [htype]; decide) (by rw [htype]; decide)
  obtain ⟨owner, stored', howner, hstored', -, -, -, q, n, hoq, hn, hqn⟩ := hc.held hmember
  obtain rfl := Option.some.inj (hstored.symm.trans hstored')
  rw [hproject] at howner
  obtain rfl := Option.some.inj (hsp.symm.trans howner)
  obtain rfl := Option.some.inj (hq.symm.trans hoq)
  obtain rfl := Option.some.inj (hname.symm.trans hn)
  exact hqn

section Fits

variable {p projectName name : String} {body : Bag}

theorem fits_ofProject (c : Contents) (name : String) (body : Bag) :
    (Definition.ofProject name body).Fits c where
  qualifiedName := text?_named_self _ _
  placed := .project rfl rfl rfl rfl (text?_named _ _ (by decide))
  linked _ := trivial
  unlisted := by rintro ⟨⟩
  consumes _ _ := by simp [Definition.ofProject, Definition.stored, Entity.Reads]

variable (hc : c.Sound)
include hc

theorem Sound.fits_ofSource (hp : c.projectName ⟨p⟩ = .ok projectName) (hname : body.IsNamed name) :
    (Definition.ofSource ⟨p⟩ projectName name body).Fits c := by
  obtain ⟨sp, hsp, hsptype, hspp, hq⟩ := hc.qualifiedName_of_projectName hp
  exact {
    qualifiedName := text?_named_self _ _
    placed := .owned hsp (by rintro ⟨⟩) hsptype (congrArg some hspp.symm) rfl rfl hq
      ((text?_named _ _ (by decide)).trans hname.text) rfl
    linked := fun _ => trivial
    unlisted := by rintro ⟨⟩
    consumes := fun _ _ => by simp [Definition.ofSource, Definition.stored, Entity.Reads] }

/-- An anchor consumes its source, and lists nothing yet. -/
theorem Sound.fits_ofAnchor {source : EntityId} (hp : c.projectName ⟨p⟩ = .ok projectName)
    (hhas : c.Has ⟨p⟩ .source source) :
    (Definition.ofAnchor ⟨p⟩ projectName name source body).Fits c := by
  obtain ⟨sp, hsp, hsptype, hspp, hq⟩ := hc.qualifiedName_of_projectName hp
  have hrefers : Bag.Refers (Definition.ofAnchor ⟨p⟩ projectName name source body).attributes
      "source" source := Entries.get?_insert_ne (by decide) _ _
  have hlists : Bag.Lists (Definition.ofAnchor ⟨p⟩ projectName name source body).attributes
      "features" [] := Entries.get?_insert_ne (by decide) _ _
  exact {
    qualifiedName := text?_named_self _ _
    placed := .owned hsp (by rintro ⟨⟩) hsptype (congrArg some hspp.symm) rfl rfl hq
      (text?_named _ _ (by decide)) rfl
    linked := fun _ => ⟨⟨_, hrefers, hhas⟩, [], hlists, List.nodup_nil, by simp⟩
    unlisted := fun _ => hlists
    consumes := fun _ i => by
      constructor
      · intro hi
        rw [List.mem_singleton.1 hi]
        exact hrefers
      · intro hreads
        exact List.mem_singleton.2 (Bag.Refers.unique hreads hrefers) }

theorem Sound.fits_ofFeature {a : EntityId} {stored : Stored} {anchorName : String}
    (hp : c.projectName ⟨p⟩ = .ok projectName) (hstored : c.stored? a = some stored)
    (hproject : stored.project = ⟨p⟩) (htype : stored.entity.type = .anchor)
    (hanchor : stored.entity.name? = some anchorName) (hname : body.IsNamed name) :
    (Definition.ofFeature ⟨p⟩ a projectName anchorName name body).Fits c where
  qualifiedName := text?_named_self _ _
  placed := .owned hstored (by rintro ⟨⟩) htype (congrArg some hproject.symm) rfl rfl
    (hc.qualifiedName_of_anchor hp hstored hproject htype hanchor)
    (((text?_named _ _ (by decide)).trans
      (text?_storeFeatureType _ (by decide) (by decide))).trans hname.text) rfl
  linked _ := trivial
  unlisted := by rintro ⟨⟩
  consumes _ _ := by simp [Definition.ofFeature, Definition.stored, Entity.Reads]

/-- A derived feature consumes its inputs. -/
theorem Sound.fits_ofDerived {anchored derived : List EntityId}
    (hp : c.projectName ⟨p⟩ = .ok projectName) (hname : body.IsNamed name)
    (hanchored : ∀ id ∈ anchored, c.Has ⟨p⟩ .anchorFeature id)
    (hderived : ∀ id ∈ derived, c.Has ⟨p⟩ .derivedFeature id) :
    (Definition.ofDerived ⟨p⟩ projectName name anchored derived body).Fits c := by
  obtain ⟨sp, hsp, hsptype, hspp, hq⟩ := hc.qualifiedName_of_projectName hp
  generalize hd : Definition.ofDerived _ _ _ _ _ _ = d
  have hanchoredList : d.attributes.Lists "inputAnchorFeatures" anchored := by
    subst hd
    refine (Entries.get?_insert_ne (by decide) _ _).trans ?_
    exact (Entries.get?_insert_ne (by decide) _ _).trans (Entries.get?_insert_self _ _ _)
  have hderivedList : d.attributes.Lists "inputDerivedFeatures" derived := by
    subst hd
    exact (Entries.get?_insert_ne (by decide) _ _).trans (Entries.get?_insert_self _ _ _)
  have hname' : d.attributes.text? "name" = some name := by
    subst hd
    refine (text?_named _ _ (by decide)).trans ?_
    rw [Bag.text?_insert, if_neg (by decide), Bag.text?_insert, if_neg (by decide),
      text?_storeFeatureType _ (by decide) (by decide)]
    exact hname.text
  subst hd
  exact {
    qualifiedName := text?_named_self _ _
    placed := .owned hsp (by rintro ⟨⟩) hsptype (congrArg some hspp.symm) rfl rfl hq hname' rfl
    linked := fun _ => ⟨⟨_, hanchoredList, hanchored⟩, _, hderivedList, hderived⟩
    unlisted := by rintro ⟨⟩
    consumes := fun _ i => by
      constructor
      · intro hi
        rcases List.mem_append.1 hi with hi | hi
        · exact ⟨_, .inl hanchoredList, hi⟩
        · exact ⟨_, .inr hderivedList, hi⟩
      · rintro ⟨ids, hids | hids, hi⟩
        · exact List.mem_append_left _ (hids.unique hanchoredList ▸ hi)
        · exact List.mem_append_right _ (hids.unique hderivedList ▸ hi) }

/-- What a call describes fits the contents. -/
theorem Sound.fits {path : List String} {d : Definition} (h : Describes c body path d) :
    d.Fits c := by
  cases h with
  | project => exact fits_ofProject c _ body
  | source hp hname => exact hc.fits_ofSource hp hname
  | anchor hp _ _ hhas => exact hc.fits_ofAnchor hp hhas
  | feature hp hstored hproject htype hanchor hname =>
    exact hc.fits_ofFeature hp hstored hproject htype hanchor hname
  | derived hp hname _ _ hanchored hderived =>
    exact hc.fits_ofDerived hp hname (List.forall_mem_map.2 hanchored)
      (List.forall_mem_map.2 hderived)

end Fits

end Contents

end FeatureCatalog
