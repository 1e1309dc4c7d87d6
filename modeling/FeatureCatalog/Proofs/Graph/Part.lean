import FeatureCatalog.Graph.Link
import FeatureCatalog.Proofs.Source.Codec
import FeatureCatalog.Proofs.Store.Creation

/-! The parts of a graph that stored entities are read as: what is read of each definition that a
client asks for, and of an anchor whose list of features changes. -/

namespace FeatureCatalog

/-- The part is what the entity is read as. -/
inductive Part.IsIn : Part → Entity → Prop
  | project {e} : e.type = .project → IsIn .project e
  | source {e s q} : e.type = .source → e.qualifiedName? = some q → Source.IsIn s e.attributes →
      IsIn (.source { s.kept with registration := some ⟨e.guid, q⟩ }) e
  | anchor {e name source tags ids q} : e.type = .anchor → e.qualifiedName? = some q →
      Anchor.IsIn name source tags e.attributes → e.attributes.Lists "features" ids →
      IsIn (.anchor ⟨e.guid, q⟩ ⟨name, .wrapped source, ids.map .wrapped, some tags⟩) e
  | feature {e f q} : e.type = .anchorFeature → e.qualifiedName? = some q →
      FeatureBody.IsIn f e.attributes →
      IsIn (.feature { Feature.ofBody f with registration := some ⟨e.guid, q⟩ }) e
  | derived {e f anchored derived q} : e.type = .derivedFeature → e.qualifiedName? = some q →
      FeatureBody.IsIn f e.attributes → e.attributes.Lists "inputAnchorFeatures" anchored →
      e.attributes.Lists "inputDerivedFeatures" derived →
      IsIn (.derived ⟨{ DerivedFeature.ofBody f with registration := some ⟨e.guid, q⟩ },
        anchored, derived⟩) e

/-- The part is what the entity that is listed under `id` has been read as: it is registered under
the id and the qualified name of the entity. -/
inductive Part.ReadFrom (id : String) (e : Entity) : Part → Prop
  | project : e.type = .project → ReadFrom id e .project
  | source {s q} : e.type = .source → e.qualifiedName? = some q →
      Source.decode id e.attributes = .ok s →
      ReadFrom id e (.source { s with registration := some ⟨e.guid, q⟩ })
  | anchor {a q} : e.type = .anchor → e.qualifiedName? = some q →
      Anchor.Detached.decode id e.attributes = .ok a → ReadFrom id e (.anchor ⟨e.guid, q⟩ a)
  | feature {f q} : e.type = .anchorFeature → e.qualifiedName? = some q →
      Feature.decode id e.attributes = .ok f →
      ReadFrom id e (.feature { f with registration := some ⟨e.guid, q⟩ })
  | derived {d q} : e.type = .derivedFeature → e.qualifiedName? = some q →
      DerivedFeature.Detached.decode id e.attributes = .ok d →
      ReadFrom id e
        (.derived { d with feature := { d.feature with registration := some ⟨e.guid, q⟩ } })

/-- The part is of the kind of the entity, and refers to what the bag of the entity refers to. -/
inductive Part.AgreesWith : Part → Entity → Prop
  | project {e} : e.type = .project → AgreesWith .project e
  | source {e s} : e.type = .source → AgreesWith (.source s) e
  | anchor {e r a} : e.type = .anchor → e.attributes.Refers "source" a.source.id →
      e.attributes.Lists "features" (a.features.map EntityRef.id) → AgreesWith (.anchor r a) e
  | feature {e f} : e.type = .anchorFeature → AgreesWith (.feature f) e
  | derived {e d} : e.type = .derivedFeature →
      e.attributes.Lists "inputAnchorFeatures" d.anchored →
      e.attributes.Lists "inputDerivedFeatures" d.derived → AgreesWith (.derived d) e

namespace Part

theorem registrationOf_eq_ok {e : Entity} {q : String} (h : e.qualifiedName? = some q) :
    registrationOf e = .ok ⟨e.guid, q⟩ := by
  unfold registrationOf
  rw [h]

/-- An entity is read as the part that is in it, whatever it is called in complaints. -/
theorem IsIn.ofEntity {part : Part} {e : Entity} (h : part.IsIn e) (id : String) :
    ofEntity id e = .ok part := by
  unfold Part.ofEntity
  cases h with
  | project htype => rw [htype]
  | source htype hq hs =>
    rw [htype]
    simp only [Source.decode_eq_ok hs, registrationOf_eq_ok hq]
    rfl
  | anchor htype hq ha hids =>
    rw [htype]
    simp only [Anchor.decode_eq_ok ha hids, registrationOf_eq_ok hq]
    rfl
  | feature htype hq hf =>
    rw [htype]
    simp only [Feature.decode_eq_ok hf, registrationOf_eq_ok hq]
    rfl
  | derived htype hq hf hanchored hderived =>
    rw [htype]
    simp only [DerivedFeature.decode_eq_ok hf hanchored hderived, registrationOf_eq_ok hq]
    rfl

theorem exists_of_registrationOf {e : Entity} {r : Registration} (h : registrationOf e = .ok r) :
    ∃ q, e.qualifiedName? = some q ∧ r = ⟨e.guid, q⟩ := by
  unfold registrationOf at h
  split at h
  · rename_i q hq
    exact ⟨q, hq, (Except.ok.inj h).symm⟩
  · cases h

theorem readFrom_of_ofEntity {id : String} {e : Entity} {part : Part}
    (h : ofEntity id e = .ok part) : part.ReadFrom id e := by
  unfold Part.ofEntity at h
  cases htype : e.type with
  | project =>
    rw [htype] at h
    obtain rfl := Except.ok.inj h
    exact .project htype
  | source | anchorFeature | derivedFeature | anchor =>
    rw [htype] at h
    obtain ⟨_, hdecode, h⟩ := bind_eq_ok.1 h
    obtain ⟨r, hr, h⟩ := bind_eq_ok.1 h
    obtain rfl := return_eq_ok.1 h
    obtain ⟨q, hq, rfl⟩ := exists_of_registrationOf hr
    first
      | exact .source htype hq hdecode
      | exact .feature htype hq hdecode
      | exact .derived htype hq hdecode
      | exact .anchor htype hq hdecode

theorem ReadFrom.ofEntity {id : String} {e : Entity} {part : Part} (h : part.ReadFrom id e) :
    ofEntity id e = .ok part := by
  unfold Part.ofEntity
  cases h with
  | project htype => rw [htype]
  | source htype hq hdecode | anchor htype hq hdecode | feature htype hq hdecode
  | derived htype hq hdecode =>
    rw [htype]
    simp only [hdecode, registrationOf_eq_ok hq]
    rfl

/-- An entity is read as one part only. -/
theorem ReadFrom.unique {id : String} {e : Entity} {part part' : Part} (h : part.ReadFrom id e)
    (h' : part'.ReadFrom id e) : part = part' :=
  Except.ok.inj (h.ofEntity.symm.trans h'.ofEntity)

/-! ### What is known of an entity from its part -/

section Inversion

variable {e : Entity}

theorem IsIn.of_source {s : Source} (h : IsIn (.source s) e) :
    e.type = .source ∧ e.name? = some s.name := by
  cases h with
  | @source _ s _ htype _ hs =>
    exact ⟨htype, (congrArg (·.bind Json.text?) hs.name).trans (congrArg some s.name_kept.symm)⟩

theorem IsIn.of_anchor {r : Registration} {a : Anchor.Detached} (h : IsIn (.anchor r a) e) :
    e.type = .anchor ∧ e.name? = some a.name ∧
      e.attributes.Lists "features" (a.features.map EntityRef.id) := by
  cases h with
  | @anchor _ name source tags ids _ htype _ ha hids =>
    exact ⟨htype, congrArg (·.bind Json.text?) ha.name, (EntityRef.map_id_wrapped ids).symm ▸ hids⟩

theorem IsIn.of_feature {f : Feature} (h : IsIn (.feature f) e) :
    e.type = .anchorFeature ∧ e.name? = some f.name := by
  cases h with
  | feature htype _ hf => exact ⟨htype, congrArg (·.bind Json.text?) hf.name⟩

theorem IsIn.of_derived {d : DerivedFeature.Detached} (h : IsIn (.derived d) e) :
    e.type = .derivedFeature ∧ e.name? = some d.feature.name := by
  cases h with
  | derived htype _ hf _ _ => exact ⟨htype, congrArg (·.bind Json.text?) hf.name⟩

theorem IsIn.agreesWith {part : Part} (h : part.IsIn e) : part.AgreesWith e := by
  cases h with
  | project htype => exact .project htype
  | source htype => exact .source htype
  | feature htype => exact .feature htype
  | derived htype _ _ hanchored hderived => exact .derived htype hanchored hderived
  | @anchor _ _ _ _ ids _ htype _ ha hids =>
    exact .anchor htype ha.source ((EntityRef.map_id_wrapped ids).symm ▸ hids)

end Inversion

/-! ### New entities -/

section New

variable (id project : EntityId) (projectName : String)

theorem isIn_ofProject (name : String) (body : Bag) :
    IsIn .project ((Definition.ofProject name body).stored id).entity :=
  .project rfl

theorem isIn_ofSource {s : Source} (h : s.kind.reservedKey? = none) :
    IsIn (.source { s.kept with
        registration := some ⟨id, FeatureCatalog.qualifiedName projectName [s.name]⟩ })
      ((Definition.ofSource project projectName s.name s.bag).stored id).entity := by
  generalize he : ((Definition.ofSource _ _ _ _).stored id).entity = e
  have hname : e.qualifiedName? = some (FeatureCatalog.qualifiedName projectName [s.name]) :=
    he ▸ Creation.text?_named_self _ _
  subst he
  exact .source rfl hname (s.isIn_stored h _)

theorem isIn_ofAnchor (name : String) (source : EntityId) (tags : Tags) :
    IsIn (.anchor ⟨id, FeatureCatalog.qualifiedName projectName [name]⟩
        ⟨name, .wrapped source, [], some tags⟩)
      ((Definition.ofAnchor project projectName name source
        (Anchor.bagOf name source tags)).stored id).entity := by
  generalize he : ((Definition.ofAnchor _ _ _ _ _).stored id).entity = e
  have hname : e.qualifiedName? = some (FeatureCatalog.qualifiedName projectName [name]) :=
    he ▸ Creation.text?_named_self _ _
  have hfeatures : e.attributes.Lists "features" [] := by
    subst he
    exact Entries.get?_insert_ne (by decide) _ _
  subst he
  exact .anchor rfl hname (Anchor.isIn_stored name source tags _) hfeatures

theorem isIn_ofFeature (anchor : EntityId) (anchorName : String) (f : Feature) :
    IsIn (.feature { f with
        registration := some ⟨id, FeatureCatalog.qualifiedName projectName [anchorName, f.name]⟩ })
      ((Definition.ofFeature project anchor projectName anchorName f.name f.bag).stored
        id).entity := by
  generalize he : ((Definition.ofFeature _ _ _ _ _ _).stored id).entity = e
  have hname : e.qualifiedName? =
      some (FeatureCatalog.qualifiedName projectName [anchorName, f.name]) :=
    he ▸ Creation.text?_named_self _ _
  subst he
  exact .feature rfl hname (f.isIn_stored _)

theorem isIn_ofDerived (d : DerivedFeature) (anchored derived : List EntityId) :
    IsIn (.derived ⟨{ d with
        anchoredInputs := []
        derivedInputs := []
        registration := some ⟨id, FeatureCatalog.qualifiedName projectName [d.name]⟩ },
        anchored, derived⟩)
      ((Definition.ofDerived project projectName d.name anchored derived
        (d.bag anchored derived)).stored id).entity := by
  generalize he : ((Definition.ofDerived _ _ _ _ _ _).stored id).entity = e
  have hname : e.qualifiedName? = some (FeatureCatalog.qualifiedName projectName [d.name]) :=
    he ▸ Creation.text?_named_self _ _
  have hanchored : e.attributes.Lists "inputAnchorFeatures" anchored := by
    subst he
    refine (Entries.get?_insert_ne (by decide) _ _).trans ?_
    exact (Entries.get?_insert_ne (by decide) _ _).trans (Entries.get?_insert_self _ _ _)
  have hderived : e.attributes.Lists "inputDerivedFeatures" derived := by
    subst he
    exact (Entries.get?_insert_ne (by decide) _ _).trans (Entries.get?_insert_self _ _ _)
  subst he
  exact .derived rfl hname (d.isIn_stored anchored derived _) hanchored hderived

end New

/-! ### Changes to lists of features -/

/-- A part with other features, if it is an anchor. -/
def withFeatures (ids : List EntityId) : Part → Part
  | .anchor r a => .anchor r { a with features := ids.map .wrapped }
  | part => part

theorem IsIn.insert_features {part : Part} {e : Entity} (h : part.IsIn e)
    (htype : e.type = .anchor) (ids : List EntityId) :
    (part.withFeatures ids).IsIn { e with
      attributes := Entries.insert "features" (.arr (ids.map EntityId.reference))
        e.attributes } := by
  cases h with
  | anchor _ hq ha _ =>
    exact .anchor (e := { e with attributes := Entries.insert "features" _ e.attributes }) htype
      ((Bag.text?_insert _ _ _ _).trans hq) (ha.insert_features _) (Entries.get?_insert_self _ _ _)
  | project h | source h | feature h | derived h => exact absurd (htype.symm.trans h) (by decide)

/-- No entity but an anchor has a list of features. -/
theorem IsIn.features_ne_arr {part : Part} {e : Entity} (h : part.IsIn e)
    (htype : e.type ≠ .anchor) (hproject : e.type ≠ .project) (items : List Json) :
    Entries.get? "features" e.attributes ≠ some (.arr items) := by
  cases h with
  | project h => exact absurd h hproject
  | anchor h => exact absurd h htype
  | feature _ _ hf =>
    rw [hf.noList]
    simp
  | derived _ _ hf =>
    rw [hf.noList]
    simp
  | source _ _ hs => exact hs.features_ne_arr items

end Part

end FeatureCatalog
