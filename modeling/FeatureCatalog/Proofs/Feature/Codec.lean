import FeatureCatalog.Feature.Bag
import FeatureCatalog.Proofs.Json.Camel
import FeatureCatalog.Proofs.Json.Record
import FeatureCatalog.Proofs.Store.Bag

/-! What features and anchors write, they read back: their types, keys and transformations, and from
a bag as a registry stores it the whole feature or anchor. -/

namespace FeatureCatalog

open Record

theorem Bag.get?_ofText? (j k : String) (text : Option String) :
    Entries.get? j (Bag.ofText? k text) = if j = k then text.map .str else none := by
  cases text with
  | none => simp [Bag.ofText?]
  | some s => simp [Bag.ofText?, Entries.get?_cons]

/-! ### Parts of features -/

theorem ValueType.decoder_toJson (t : ValueType) : ValueType.decoder t.toJson = .ok t := by
  cases t <;> rfl

theorem TensorCategory.decoder_toJson (c : TensorCategory) :
    TensorCategory.decoder c.toJson = .ok c := by
  cases c <;> rfl

theorem FeatureType.ordered_entries (t : FeatureType) : Entries.Ordered
    [ ("dimensionType", .arr (t.dimensions.map ValueType.toJson)),
      ("tensorCategory", t.category.toJson), ("type", .str t.container),
      ("valType", t.valueType.toJson) ] := by
  have hkeys : ["dimensionType", "tensorCategory", "type", "valType"].Pairwise (· < ·) := by
    decide +kernel
  exact Entries.ordered_of_keys hkeys (.refl _)

theorem FeatureType.decoder_toJson (t : FeatureType) : FeatureType.decoder t.toJson = .ok t := by
  have hreads : FeatureType.record.Reads
      [ ("dimensionType", .arr (t.dimensions.map ValueType.toJson)),
        ("tensorCategory", t.category.toJson), ("type", .str t.container),
        ("valType", t.valueType.toJson) ] t :=
    (((reads_text rfl).map FeatureType.mk
      |>.seq (reads_required rfl t.category.decoder_toJson))
      |>.seq (reads_required rfl (Decoder.list_map fun v _ => v.decoder_toJson)))
      |>.seq (reads_required rfl t.valueType.decoder_toJson)
  exact hreads.ofBag t.ordered_entries (by decide)

theorem TypedKey.ordered_entries (key : TypedKey) : Entries.Ordered
    (Bag.ofText? "description" key.description ++ Bag.ofText? "fullName" key.fullName ++
      [("keyColumn", .str key.column)] ++ Bag.ofText? "keyColumnAlias" key.columnAlias ++
      [("keyColumnType", key.columnType.toJson)]) := by
  have hkeys : ["description", "fullName", "keyColumn", "keyColumnAlias",
      "keyColumnType"].Pairwise (· < ·) := by
    decide +kernel
  refine Entries.ordered_of_keys hkeys ?_
  simp only [List.map_append]
  exact ((((Entries.keys_toList _ _ _).append (Entries.keys_toList _ _ _)).append (.refl _)).append
    (Entries.keys_toList _ _ _)).append (.refl _)

theorem TypedKey.decoder_toJson (key : TypedKey) : TypedKey.decoder key.toJson = .ok key := by
  have hordered := key.ordered_entries
  unfold TypedKey.decoder TypedKey.toJson
  generalize hentries : Bag.ofText? "description" key.description ++
    Bag.ofText? "fullName" key.fullName ++ [("keyColumn", .str key.column)] ++
    Bag.ofText? "keyColumnAlias" key.columnAlias ++
    [("keyColumnType", key.columnType.toJson)] = entries at hordered ⊢
  have hreads : TypedKey.record.Reads entries key := by
    subst hentries
    refine ((((reads_text ?_).map TypedKey.mk
      |>.seq (reads_required (j := key.columnType.toJson) ?_ key.columnType.decoder_toJson))
      |>.seq (reads_text? ?_)) |>.seq (reads_text? ?_)) |>.seq (reads_text? ?_)
    all_goals simp [Entries.get?_append, Bag.get?_ofText?, Entries.get?_cons]
  exact hreads.ofBag hordered (by decide)

namespace WindowAggregation

/-- The entries of the JSON form of an aggregation. -/
def entries (a : WindowAggregation) : Bag :=
  Bag.ofText? "aggFunc" a.function ++
  [("defExpr", .str a.definition)] ++
  Bag.ofText? "filter" a.filter ++
  Bag.ofText? "groupBy" a.groupBy ++
  (a.limit.map fun n => ("limit", Json.num (.ofUInt64 n))).toList ++
  Bag.ofText? "window" a.window

theorem ordered_entries (a : WindowAggregation) : Entries.Ordered a.entries := by
  have hkeys : ["aggFunc", "defExpr", "filter", "groupBy", "limit", "window"].Pairwise
      (· < ·) := by
    decide +kernel
  refine Entries.ordered_of_keys hkeys ?_
  simp only [entries, List.map_append]
  exact (((((Entries.keys_toList _ _ _).append (.refl _)).append (Entries.keys_toList _ _ _)).append
    (Entries.keys_toList _ _ _)).append (Entries.keys_toList _ _ _)).append
    (Entries.keys_toList _ _ _)

theorem get?_entries (a : WindowAggregation) (k : String) :
    Entries.get? k a.entries =
      if k = "aggFunc" then a.function.map .str
      else if k = "defExpr" then some (.str a.definition)
      else if k = "filter" then a.filter.map .str
      else if k = "groupBy" then a.groupBy.map .str
      else if k = "limit" then a.limit.map fun n => .num (.ofUInt64 n)
      else if k = "window" then a.window.map .str
      else none := by
  have hlimit : Entries.get? k (a.limit.map fun n => ("limit", Json.num (.ofUInt64 n))).toList =
      if k = "limit" then a.limit.map (fun n => Json.num (.ofUInt64 n)) else none := by
    cases a.limit <;> simp [Entries.get?_cons]
  simp only [entries, Entries.get?_append, Bag.get?_ofText?, Entries.get?_cons, Entries.get?_nil,
    hlimit]
  repeat' split
  all_goals simp_all

theorem decoder_toJson (a : WindowAggregation) : decoder a.toJson = .ok a := by
  have hreads : record.Reads a.entries a :=
    (((((reads_text (a.get?_entries "defExpr")).map WindowAggregation.mk
      |>.seq (reads_text? (a.get?_entries "aggFunc")))
      |>.seq (reads_text? (a.get?_entries "window")))
      |>.seq (reads_text? (a.get?_entries "groupBy")))
      |>.seq (reads_text? (a.get?_entries "filter")))
      |>.seq (reads_optional (a.get?_entries "limit") (fun n _ => Decoder.word_ofUInt64 n)
        (fun _ _ => nofun))
  exact hreads.ofBag a.ordered_entries (by decide)

theorem isCamel_toJson (a : WindowAggregation) : a.toJson.IsCamel := by
  refine Json.isCamel_obj a.ordered_entries ?_
  have hlimit : Json.AreCamel
      (a.limit.map fun n => ("limit", Json.num (.ofUInt64 n))).toList := by
    cases a.limit with
    | none => exact Json.areCamel_nil
    | some n =>
      exact Json.areCamel_cons.2
        ⟨⟨by decide +kernel, .inr (Json.isCamel_num _)⟩, Json.areCamel_nil⟩
  have hdefinition : Json.AreCamel [("defExpr", .str a.definition)] :=
    Json.areCamel_cons.2 ⟨⟨by decide +kernel, .inr (Json.isCamel_str _)⟩, Json.areCamel_nil⟩
  simp only [Json.areCamel_append]
  refine ⟨⟨⟨⟨⟨?_, hdefinition⟩, ?_⟩, ?_⟩, hlimit⟩, ?_⟩
  all_goals exact Json.areCamel_ofText? (by decide +kernel) _

end WindowAggregation

namespace Transformation

theorem isCamel_toJson (t : Transformation) : t.toJson.IsCamel := by
  cases t with
  | expression text =>
    exact Json.isCamel_obj (by simp [Entries.Ordered]) (Json.areCamel_cons.2
      ⟨⟨by decide +kernel, .inr (Json.isCamel_str text)⟩, Json.areCamel_nil⟩)
  | aggregation spec => exact spec.isCamel_toJson

theorem ofJson_toJson (entity : String) (t : Transformation) : ofJson entity t.toJson = .ok t := by
  have hcamel : t.toJson.camelize = t.toJson := t.isCamel_toJson
  simp only [ofJson, hcamel]
  cases t with
  | expression text => rfl
  | aggregation spec =>
    have hexpression : Json.field? "transformExpr" spec.toJson = none :=
      spec.get?_entries "transformExpr"
    have hdefinition : Json.field? "defExpr" spec.toJson = some (.str spec.definition) :=
      spec.get?_entries "defExpr"
    simp only [toJson, hexpression, hdefinition, Option.isSome_some, if_true,
      spec.decoder_toJson]

/-- A transformation that is stored, or none, is read. -/
theorem ofJson?_map (entity : String) (t : Option Transformation) :
    ofJson? entity (t.map toJson) = .ok t := by
  cases t with
  | none => rfl
  | some t =>
    have hnull : t.toJson ≠ .null := by
      cases t <;> simp [toJson, WindowAggregation.toJson]
    have hof : ofJson? entity (some t.toJson) = (ofJson entity t.toJson).map some := by
      rw [ofJson?]
      simpa using hnull
    rw [Option.map_some, hof, ofJson_toJson]
    rfl

end Transformation

theorem EntityRef.decoder_reference (id : EntityId) :
    EntityRef.decoder id.reference = .ok (.wrapped id) := rfl

theorem EntityRef.list_references (ids : List EntityId) :
    EntityRef.decoder.list (.arr (ids.map EntityId.reference)) = .ok (ids.map .wrapped) := by
  have h : EntityRef.decoder.list (.arr ((ids.map EntityRef.wrapped).map EntityRef.toJson)) =
      .ok (ids.map EntityRef.wrapped) := by
    refine Decoder.list_map fun r hr => ?_
    obtain ⟨id, -, rfl⟩ := List.mem_map.1 hr
    exact decoder_reference id
  rwa [List.map_map] at h

theorem EntityRef.list_ids (ids : List EntityId) :
    EntityRef.decoder.list (.arr (ids.map EntityId.toJson)) = .ok (ids.map .bare) := by
  have h : (Json.arr (ids.map EntityId.toJson)) =
      .arr ((ids.map EntityRef.bare).map EntityRef.toJson) := by
    rw [List.map_map]
    rfl
  rw [h]
  refine Decoder.list_map fun ref href => ?_
  obtain ⟨id, -, rfl⟩ := List.mem_map.1 href
  rfl

theorem EntityRef.map_id_bare (ids : List EntityId) :
    (ids.map EntityRef.bare).map EntityRef.id = ids := by
  simp [EntityRef.id, Function.comp_def]

theorem EntityRef.map_id_wrapped (ids : List EntityId) :
    (ids.map EntityRef.wrapped).map EntityRef.id = ids := by
  simp [EntityRef.id, Function.comp_def]

theorem FeatureType.isCamel_toJson (t : FeatureType) : t.toJson.IsCamel := by
  refine Json.isCamel_obj t.ordered_entries ?_
  simp only [Json.areCamel_cons]
  refine ⟨⟨?_, .inr (Json.isCamel_arr fun v _ => Json.isCamel_str v.name)⟩,
    ⟨?_, .inr (Json.isCamel_str _)⟩, ⟨?_, .inr (Json.isCamel_str _)⟩,
    ⟨?_, .inr (Json.isCamel_str _)⟩, Json.areCamel_nil⟩
  all_goals decide +kernel

theorem EntityId.isCamel_reference (id : EntityId) : id.reference.IsCamel :=
  Json.isCamel_obj (by simp [Entries.Ordered]) (Json.areCamel_cons.2
    ⟨⟨by decide +kernel, .inr (Json.isCamel_str id.text)⟩, Json.areCamel_nil⟩)

theorem TypedKey.isCamel_toJson (key : TypedKey) : key.toJson.IsCamel := by
  refine Json.isCamel_obj key.ordered_entries ?_
  simp only [Json.areCamel_append, Json.areCamel_cons]
  refine ⟨⟨⟨⟨?_, ?_⟩, ⟨⟨?_, .inr (Json.isCamel_str _)⟩, Json.areCamel_nil⟩⟩, ?_⟩,
    ⟨⟨?_, .inr (Json.isCamel_str _)⟩, Json.areCamel_nil⟩⟩
  all_goals first | decide +kernel | exact Json.areCamel_ofText? (by decide +kernel) _

/-! ### Bags of features -/

namespace FeatureBody

/-- A feature is read from attributes in order that hold all it is made of, whichever key its type
has. -/
theorem read_eq_ok {f : FeatureBody} {attrs : Bag} (hordered : Entries.Ordered attrs)
    (hcamel : Json.AreCamel attrs) (hname : Entries.get? "name" attrs = some (.str f.name))
    (htype : (requiredAs "type" ["featureType"] FeatureType.decoder).Reads attrs f.type)
    (hkeys : Entries.get? "key" attrs = some (.arr (f.keys.map TypedKey.toJson)))
    (htransformation :
      Entries.get? "transformation" attrs = f.transformation.map Transformation.toJson)
    (htags : Entries.get? "tags" attrs = some (Json.ofTags f.tags)) (entity : String) :
    record.read entity attrs.camelize = .ok (f.transformation.map Transformation.toJson,
      fun transformation => ⟨f.name, f.type, f.keys, transformation, f.tags⟩) := by
  have hjson : Entries.get? "transformation" attrs =
      (f.transformation.map Transformation.toJson).map id := by
    rw [htransformation, Option.map_id]
    rfl
  have hnull : ∀ j ∈ f.transformation.map Transformation.toJson, j ≠ .null := by
    intro j hj
    obtain ⟨t, -, rfl⟩ := Option.map_eq_some_iff.1 hj
    cases t <;> simp [Transformation.toJson, WindowAggregation.toJson]
  have hreads : record.Reads attrs (f.transformation.map Transformation.toJson,
      fun transformation => ⟨f.name, f.type, f.keys, transformation, f.tags⟩) :=
    ((((reads_text hname).map _ |>.seq htype)
      |>.seq (reads_defaulted hkeys (Decoder.list_map fun key _ => key.decoder_toJson)))
      |>.seq (reads_optional hjson (fun _ _ => rfl) hnull)) |>.seq (reads_tags htags)
  rw [Record.read, Bag.camelize_eq hordered hcamel]
  exact congrArg (inEntity entity) (hreads.ofBag hordered (by decide))

/-- The bag holds all that a feature is made of, as a registry stores it. -/
structure IsIn (f : FeatureBody) (attrs : Bag) : Prop where
  ordered : Entries.Ordered attrs
  camel : Json.AreCamel attrs
  name : Entries.get? "name" attrs = some (.str f.name)
  type : Entries.get? "type" attrs = some f.type.toJson
  noAlias : Entries.get? "featureType" attrs = none
  keys : Entries.get? "key" attrs = some (.arr (f.keys.map TypedKey.toJson))
  transformation :
    Entries.get? "transformation" attrs = f.transformation.map Transformation.toJson
  tags : Entries.get? "tags" attrs = some (Json.ofTags f.tags)
  noList : Entries.get? "features" attrs = none

variable {f : FeatureBody} {attrs : Bag}

theorem IsIn.read (h : f.IsIn attrs) (entity : String) :
    record.read entity attrs.camelize = .ok (f.transformation.map Transformation.toJson,
      fun transformation => ⟨f.name, f.type, f.keys, transformation, f.tags⟩) :=
  read_eq_ok h.ordered h.camel h.name
    (reads_field h.type f.type.decoder_toJson (by simpa using h.noAlias)) h.keys h.transformation
    h.tags entity

end FeatureBody

namespace FeatureBody

variable {f : FeatureBody} {attrs : Bag}

/-- The keys of the attributes that a feature is made of, and that of a list of features. -/
def keyNames : List String :=
  ["featureType", "features", "key", "name", "tags", "transformation", "type"]

/-- Other attributes may be added. -/
theorem IsIn.insert (h : f.IsIn attrs) {k : String} {v : Json} (hk : k ∉ keyNames)
    (hkey : Text.camelCase k = k) (hv : v.IsCamel) : f.IsIn (Entries.insert k v attrs) := by
  have hget : ∀ j ∈ keyNames, Entries.get? j (Entries.insert k v attrs) =
      Entries.get? j attrs := by
    intro j hj
    refine Entries.get?_insert_ne ?_ v attrs
    rintro rfl
    exact hk hj
  exact {
    ordered := h.ordered.insert k v
    camel := h.camel.insert hkey (.inr hv)
    name := (hget _ (by decide)).trans h.name
    type := (hget _ (by decide)).trans h.type
    noAlias := (hget _ (by decide)).trans h.noAlias
    keys := (hget _ (by decide)).trans h.keys
    transformation := (hget _ (by decide)).trans h.transformation
    tags := (hget _ (by decide)).trans h.tags
    noList := (hget _ (by decide)).trans h.noList }

theorem get?_bag (f : FeatureBody) (inputs : Bag) (k : String) :
    Entries.get? k (f.bag inputs) =
      if k = "featureType" then some f.type.toJson
      else (Entries.get? k inputs).or <|
        if k = "key" then some (.arr (f.keys.map TypedKey.toJson))
        else if k = "name" then some (.str f.name)
        else if k = "tags" then some (Json.ofTags f.tags)
        else if k = "transformation" then f.transformation.map Transformation.toJson
        else none := by
  have htransformation : Entries.get? k
      (f.transformation.map fun t => ("transformation", t.toJson)).toList =
      if k = "transformation" then f.transformation.map Transformation.toJson else none := by
    cases f.transformation <;> simp [Entries.get?_cons]
  simp only [bag, List.cons_append, List.append_assoc, Entries.get?_cons, Entries.get?_append,
    Entries.get?_nil, htransformation]
  repeat' split
  all_goals simp_all

theorem areCamel_bag (f : FeatureBody) {inputs : Bag} (h : Json.AreCamel inputs) :
    Json.AreCamel (f.bag inputs) := by
  have htransformation : Json.AreCamel
      (f.transformation.map fun t => ("transformation", t.toJson)).toList := by
    cases f.transformation with
    | none => exact Json.areCamel_nil
    | some t =>
      exact Json.areCamel_cons.2 ⟨⟨by decide +kernel, .inr t.isCamel_toJson⟩, Json.areCamel_nil⟩
  simp only [bag, List.cons_append, List.append_assoc, Json.areCamel_cons, Json.areCamel_append]
  refine ⟨⟨?_, .inr f.type.isCamel_toJson⟩, h,
    ⟨?_, .inr (Json.isCamel_arr fun key _ => key.isCamel_toJson)⟩,
    ⟨?_, .inr (Json.isCamel_str _)⟩, ⟨?_, .inl trivial⟩, Json.areCamel_nil, htransformation⟩
  all_goals decide +kernel

/-- The bag of a feature is in order if its inputs have their place in it. -/
theorem ordered_bag (f : FeatureBody) {inputs : Bag} (keys : List String)
    (hkeys : ("featureType" :: keys ++ ["key", "name", "tags"] ++ ["transformation"]).Pairwise
      (· < ·))
    (hinputs : (inputs.map (·.1)).Sublist keys) : Entries.Ordered (f.bag inputs) := by
  refine Entries.ordered_of_keys hkeys ?_
  simp only [bag, List.map_append, List.map_cons]
  exact ((hinputs.cons_cons _).append (.refl _)).append (Entries.keys_toList _ _ _)

/-- What a registry makes of a bag that is sent to it holds the feature. -/
theorem isIn_storeFeatureType (f : FeatureBody) {inputs : Bag}
    (hordered : Entries.Ordered (f.bag inputs)) (hcamel : Json.AreCamel inputs)
    (hkeys : ∀ k ∈ keyNames, Entries.get? k inputs = none) :
    f.IsIn (Creation.storeFeatureType (f.bag inputs)) := by
  have hstore : Creation.storeFeatureType (f.bag inputs) =
      Entries.insert "type" f.type.toJson (Entries.erase "featureType" (f.bag inputs)) := by
    unfold Creation.storeFeatureType
    rw [f.get?_bag inputs "featureType", if_pos rfl]
  have hget : ∀ j ∈ keyNames, Entries.get? j (Creation.storeFeatureType (f.bag inputs)) =
      if j = "type" then some f.type.toJson
      else if j = "featureType" then none
      else if j = "key" then some (.arr (f.keys.map TypedKey.toJson))
      else if j = "name" then some (.str f.name)
      else if j = "tags" then some (Json.ofTags f.tags)
      else if j = "transformation" then f.transformation.map Transformation.toJson
      else none := by
    intro j hj
    rw [hstore, Entries.get?_insert, Entries.get?_erase, f.get?_bag, hkeys j hj, Option.none_or]
    split
    · rfl
    · split <;> rfl
  exact {
    ordered := hstore ▸ (hordered.erase _).insert _ _
    camel := hstore ▸ ((f.areCamel_bag hcamel).filter _).insert (by decide +kernel)
      (.inr f.type.isCamel_toJson)
    name := hget "name" (by decide)
    type := hget "type" (by decide)
    noAlias := hget "featureType" (by decide)
    keys := hget "key" (by decide)
    transformation := hget "transformation" (by decide)
    tags := hget "tags" (by decide)
    noList := hget "features" (by decide) }

end FeatureBody

theorem Feature.ordered_bag (f : Feature) : Entries.Ordered f.bag :=
  f.body.ordered_bag [] (by decide +kernel) (.refl _)

theorem Feature.isIn_stored (f : Feature) (qualifiedName : String) :
    f.body.IsIn (Creation.named (Creation.storeFeatureType f.bag) qualifiedName) :=
  (f.body.isIn_storeFeatureType f.ordered_bag Json.areCamel_nil fun _ _ => rfl).insert
    (by decide) (by decide +kernel) (Json.isCamel_str _)

namespace DerivedFeature

theorem ordered_bag (d : DerivedFeature) (anchored derived : List EntityId) :
    Entries.Ordered (d.bag anchored derived) :=
  d.body.ordered_bag ["inputAnchorFeatures", "inputDerivedFeatures"] (by decide +kernel) (.refl _)

theorem areCamel_inputs (anchored derived : List EntityId) : Json.AreCamel
    [ ("inputAnchorFeatures", .arr (anchored.map EntityId.toJson)),
      ("inputDerivedFeatures", .arr (derived.map EntityId.toJson)) ] := by
  simp only [Json.areCamel_cons]
  refine ⟨⟨by decide +kernel, .inr ?_⟩, ⟨by decide +kernel, .inr ?_⟩, Json.areCamel_nil⟩
  all_goals exact Json.isCamel_arr fun id _ => Json.isCamel_str id.text

theorem get?_inputs {k : String} (hk : k ∈ FeatureBody.keyNames) (anchored derived : Json) :
    Entries.get? k
      [("inputAnchorFeatures", anchored), ("inputDerivedFeatures", derived)] = none := by
  revert k
  simp [FeatureBody.keyNames, Entries.get?_cons]

end DerivedFeature

theorem DerivedFeature.isIn_stored (d : DerivedFeature) (anchored derived : List EntityId)
    (qualifiedName : String) :
    d.body.IsIn (Creation.named
      (Entries.insert "inputDerivedFeatures" (.arr (derived.map EntityId.reference))
        (Entries.insert "inputAnchorFeatures" (.arr (anchored.map EntityId.reference))
          (Creation.storeFeatureType (d.bag anchored derived)))) qualifiedName) := by
  have hbase := d.body.isIn_storeFeatureType (d.ordered_bag anchored derived)
    (areCamel_inputs anchored derived) fun k hk => get?_inputs hk _ _
  have href : ∀ ids : List EntityId, (Json.arr (ids.map EntityId.reference)).IsCamel :=
    fun ids => Json.isCamel_arr fun id _ => id.isCamel_reference
  exact ((hbase.insert (by decide) (by decide +kernel) (href anchored)).insert (by decide)
    (by decide +kernel) (href derived)).insert (by decide) (by decide +kernel)
    (Json.isCamel_str _)

theorem Feature.decode_eq_ok {f : FeatureBody} {attrs : Bag} (h : f.IsIn attrs) (entity : String) :
    Feature.decode entity attrs = .ok (Feature.ofBody f) := by
  unfold Feature.decode
  rw [h.read]
  change (do
    let transformation ← Transformation.ofJson? entity _
    return ofBody _ : Except CatalogError Feature) = _
  rw [Transformation.ofJson?_map]
  rfl

/-- A derived feature is read from the bag that holds it, with its inputs. -/
theorem DerivedFeature.decode_eq_ok {f : FeatureBody} {attrs : Bag} (h : f.IsIn attrs)
    {anchored derived : List EntityId} (hanchored : attrs.Lists "inputAnchorFeatures" anchored)
    (hderived : attrs.Lists "inputDerivedFeatures" derived) (entity : String) :
    DerivedFeature.Detached.decode entity attrs =
      .ok ⟨DerivedFeature.ofBody f, anchored, derived⟩ := by
  have hinputs : inputsRecord.read entity attrs.camelize =
      .ok (anchored.map .wrapped, derived.map .wrapped) := by
    have hreads : inputsRecord.Reads attrs (anchored.map .wrapped, derived.map .wrapped) :=
      ((reads_defaulted hanchored (EntityRef.list_references anchored)).map Prod.mk)
        |>.seq (reads_defaulted hderived (EntityRef.list_references derived))
    rw [Record.read, Bag.camelize_eq h.ordered h.camel]
    exact congrArg (inEntity entity) (hreads.ofBag h.ordered (by decide))
  unfold DerivedFeature.Detached.decode
  rw [h.read, hinputs]
  change (do
    let transformation ← Transformation.ofJson? entity _
    return (⟨ofBody _, _, _⟩ : DerivedFeature.Detached)) = _
  rw [Transformation.ofJson?_map, EntityRef.map_id_wrapped, EntityRef.map_id_wrapped]
  rfl

/-! ### Bags of anchors -/

namespace Anchor

/-- The bag holds the name, the source and the tags of an anchor, as a registry stores them. -/
structure IsIn (name : String) (source : EntityId) (tags : Tags) (attrs : Bag) : Prop where
  ordered : Entries.Ordered attrs
  name : Entries.get? "name" attrs = some (.str name)
  source : attrs.Refers "source" source
  noAlias : Entries.get? "sourceId" attrs = none
  tags : Entries.get? "tags" attrs = some (Json.ofTags tags)

variable {name : String} {source : EntityId} {tags : Tags} {attrs : Bag}

/-- The list of features does not matter. -/
theorem IsIn.insert_features (h : IsIn name source tags attrs) (v : Json) :
    IsIn name source tags (Entries.insert "features" v attrs) where
  ordered := h.ordered.insert _ _
  name := (Entries.get?_insert_ne (by decide) _ _).trans h.name
  source := (Entries.get?_insert_ne (by decide) _ _).trans h.source
  noAlias := (Entries.get?_insert_ne (by decide) _ _).trans h.noAlias
  tags := (Entries.get?_insert_ne (by decide) _ _).trans h.tags

theorem isIn_stored (name : String) (source : EntityId) (tags : Tags) (qualifiedName : String) :
    IsIn name source tags (Creation.named
      [ ("features", .arr []), ("name", .str name), ("source", source.reference),
        ("tags", Json.ofTags tags) ] qualifiedName) where
  ordered := by
    have hkeys : ["features", "name", "source", "tags"].Pairwise (· < ·) := by decide +kernel
    exact (Entries.ordered_of_keys hkeys (.refl _)).insert _ _
  name := Entries.get?_insert_ne (by decide) _ _
  source := Entries.get?_insert_ne (by decide) _ _
  noAlias := Entries.get?_insert_ne (by decide) _ _
  tags := Entries.get?_insert_ne (by decide) _ _

theorem decode_eq_ok (h : IsIn name source tags attrs) {ids : List EntityId}
    (hids : attrs.Lists "features" ids) (entity : String) :
    Detached.decode entity attrs =
      .ok ⟨name, .wrapped source, ids.map .wrapped, some tags⟩ := by
  have hreads : Detached.record.Reads attrs
      ⟨name, .wrapped source, ids.map .wrapped, some tags⟩ :=
    (((reads_text h.name).map Detached.mk
      |>.seq (reads_field h.source (EntityRef.decoder_reference source)
        (by simpa using h.noAlias)))
      |>.seq (reads_defaulted hids (EntityRef.list_references ids)))
      |>.seq (reads_tags h.tags)
  exact congrArg (inEntity entity) (hreads.ofBag h.ordered (by decide))

end Anchor

end FeatureCatalog
