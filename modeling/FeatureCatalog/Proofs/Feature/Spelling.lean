import FeatureCatalog.Proofs.Feature.RoundTrip
import FeatureCatalog.Proofs.Json.Spelling
import FeatureCatalog.Proofs.Store.Conflict

/-! Features are read from their attributes however the keys of these are spelled, at any depth
outside of the tags, and whichever of its two keys the type of the feature has. -/

namespace FeatureCatalog

/-! ### What features write is in order -/

theorem FeatureType.ordered_toJson (t : FeatureType) : t.toJson.Ordered :=
  ⟨t.ordered_entries, Json.ordered_arr fun _ _ => trivial, trivial, trivial, trivial, trivial⟩

theorem TypedKey.ordered_toJson (key : TypedKey) : key.toJson.Ordered := by
  refine ⟨key.ordered_entries, ?_⟩
  simp only [Json.orderedValues_append]
  exact ⟨⟨⟨⟨Json.orderedValues_ofText? _ _, Json.orderedValues_ofText? _ _⟩, trivial, trivial⟩,
    Json.orderedValues_ofText? _ _⟩, trivial, trivial⟩

theorem WindowAggregation.ordered_toJson (a : WindowAggregation) : a.toJson.Ordered := by
  refine ⟨a.ordered_entries, ?_⟩
  have hlimit : Json.OrderedValues
      (a.limit.map fun n => ("limit", Json.num (.ofUInt64 n))).toList := by
    cases a.limit with
    | none => trivial
    | some n => exact ⟨trivial, trivial⟩
  simp only [Json.orderedValues_append]
  exact ⟨⟨⟨⟨⟨Json.orderedValues_ofText? _ _, trivial, trivial⟩, Json.orderedValues_ofText? _ _⟩,
    Json.orderedValues_ofText? _ _⟩, hlimit⟩, Json.orderedValues_ofText? _ _⟩

theorem Transformation.ordered_toJson (t : Transformation) : t.toJson.Ordered := by
  cases t with
  | expression text => exact ⟨List.pairwise_singleton _ _, trivial, trivial⟩
  | aggregation spec => exact spec.ordered_toJson

namespace FeatureBody

theorem orderedValues_bag (f : FeatureBody) {inputs : Bag} (h : Json.OrderedValues inputs) :
    Json.OrderedValues (f.bag inputs) := by
  have hkeys : (Json.arr (f.keys.map TypedKey.toJson)).Ordered :=
    Json.ordered_arr fun key _ => key.ordered_toJson
  have htransformation : Json.OrderedValues
      (f.transformation.map fun t => ("transformation", t.toJson)).toList := by
    cases f.transformation with
    | none => trivial
    | some t => exact ⟨t.ordered_toJson, trivial⟩
  simp only [bag, List.cons_append, Json.OrderedValues, Json.orderedValues_append]
  exact ⟨f.type.ordered_toJson, ⟨h, hkeys, trivial, Json.ordered_ofTags f.tags, trivial⟩,
    htransformation⟩

end FeatureBody

theorem Feature.ordered_json (f : Feature) : (Json.obj f.bag).Ordered :=
  ⟨f.ordered_bag, f.body.orderedValues_bag trivial⟩

theorem DerivedFeature.ordered_json (d : DerivedFeature) (anchored derived : List EntityId) :
    (Json.obj (d.bag anchored derived)).Ordered := by
  refine ⟨d.ordered_bag anchored derived, d.body.orderedValues_bag ⟨?_, ?_, trivial⟩⟩
  all_goals exact Json.ordered_arr fun _ _ => trivial

/-! ### The other key of the type -/

namespace Bag

/-- The bag, with the type of the feature under the key that it is sent with or under the one that a
registry keeps it under. -/
def EitherType (bag attrs : Bag) : Prop :=
  attrs = bag ∨ attrs = Creation.storeFeatureType bag

variable {bag attrs : Bag}

/-- With the type under its other key, the bag has no other values. -/
theorem EitherType.ordered (h : bag.EitherType attrs) (hbag : (Json.obj bag).Ordered) :
    (Json.obj attrs).Ordered := by
  rcases h with rfl | rfl
  · exact hbag
  · have hvalues := Json.orderedValues_iff.1 hbag.2
    refine ⟨Creation.ordered_storeFeatureType hbag.1, Json.orderedValues_iff.2 fun e he => ?_⟩
    unfold Creation.storeFeatureType at he
    split at he
    · rename_i type htype
      rcases Entries.mem_insert he with rfl | he
      · exact hvalues ("featureType", type) (Entries.mem_of_get? htype)
      · exact hvalues e (List.mem_of_mem_filter he)
    · exact hvalues e he

theorem EitherType.camel (h : bag.EitherType attrs) (hbag : Json.AreCamel bag) :
    Json.AreCamel attrs := by
  rcases h with rfl | rfl
  · exact hbag
  · unfold Creation.storeFeatureType
    split
    · rename_i type htype
      obtain ⟨-, htags | hcamel⟩ := hbag ("featureType", type) (Entries.mem_of_get? htype)
      · exact absurd (show "featureType" = "tags" from htags) (by decide)
      · exact (hbag.filter _).insert (by decide +kernel) (.inr hcamel)
    · exact hbag

/-- However the keys are spelled, in camel case the attributes are the same. -/
theorem EitherType.camelize_spelled {spelled : Bag} (h : bag.EitherType attrs)
    (hordered : (Json.obj bag).Ordered) (hcamel : Json.AreCamel bag)
    (hspelled : (Json.obj attrs).Respells (.obj spelled)) : spelled.camelize = attrs.camelize := by
  have hattrs := h.ordered hordered
  rw [hspelled.camelize_bag hattrs, Bag.camelize_eq hattrs.1 (h.camel hcamel)]

end Bag

theorem Feature.decode_of_eitherType {f : Feature} {attrs : Bag} (h : f.bag.EitherType attrs)
    (entity : String) : Feature.decode entity attrs = .ok { f with registration := none } := by
  rcases h with rfl | rfl
  · exact Feature.decode_bag entity f
  · exact Feature.decode_eq_ok
      (f.body.isIn_storeFeatureType f.ordered_bag Json.areCamel_nil fun _ _ => rfl) entity

theorem DerivedFeature.decode_of_eitherType {d : DerivedFeature} {anchored derived : List EntityId}
    {attrs : Bag} (h : (d.bag anchored derived).EitherType attrs) (entity : String) :
    Detached.decode entity attrs =
      .ok ⟨{ d with anchoredInputs := [], derivedInputs := [], registration := none }, anchored,
        derived⟩ := by
  rcases h with rfl | rfl
  · exact decode_bag entity d anchored derived
  · have hstored := d.body.isIn_storeFeatureType (d.ordered_bag anchored derived)
      (areCamel_inputs anchored derived) fun k hk => get?_inputs hk _ _
    have hget : ∀ k, k ≠ "type" → k ≠ "featureType" →
        Entries.get? k (Creation.storeFeatureType (d.bag anchored derived)) =
          Entries.get? k (d.bag anchored derived) :=
      fun k => Creation.get?_storeFeatureType _
    have hinputs := read_inputs hstored.ordered hstored.camel
      ((hget "inputAnchorFeatures" (by decide) (by decide)).trans
        (d.body.get?_bag _ "inputAnchorFeatures"))
      ((hget "inputDerivedFeatures" (by decide) (by decide)).trans
        (d.body.get?_bag _ "inputDerivedFeatures")) entity
    exact decode_of_read (hstored.read entity) hinputs

/-! ### Any spelling -/

/-- Both readers see the attributes in camel case only. -/
theorem Feature.decode_congr {attrs spelled : Bag} (h : spelled.camelize = attrs.camelize)
    (entity : String) : Feature.decode entity spelled = Feature.decode entity attrs := by
  unfold Feature.decode
  rw [h]

theorem DerivedFeature.decode_congr {attrs spelled : Bag} (h : spelled.camelize = attrs.camelize)
    (entity : String) : Detached.decode entity spelled = Detached.decode entity attrs := by
  unfold Detached.decode
  rw [h]

/-- A feature that is written and then read gives the same result, tags included, however the keys
of its bag are spelled in between, and whichever key its type has. So does a derived feature, with
the ids of its inputs. -/
theorem decoding_ignores_spelling :
    (∀ (entity : String) (f : Feature) (attrs spelled : Bag), f.bag.EitherType attrs →
      (Json.obj attrs).Respells (.obj spelled) →
      Feature.decode entity spelled = Feature.decode entity f.bag ∧
        Feature.decode entity f.bag = .ok { f with registration := none }) ∧
    ∀ (entity : String) (d : DerivedFeature) (anchored derived : List EntityId)
      (attrs spelled : Bag), (d.bag anchored derived).EitherType attrs →
      (Json.obj attrs).Respells (.obj spelled) →
      DerivedFeature.Detached.decode entity spelled =
          DerivedFeature.Detached.decode entity (d.bag anchored derived) ∧
        DerivedFeature.Detached.decode entity (d.bag anchored derived) =
          .ok ⟨{ d with anchoredInputs := [], derivedInputs := [], registration := none },
            anchored, derived⟩ := by
  constructor
  · intro entity f attrs spelled htype hspelled
    have hbag := Feature.decode_bag entity f
    have hcamel := htype.camelize_spelled f.ordered_json (f.body.areCamel_bag Json.areCamel_nil)
      hspelled
    rw [Feature.decode_congr hcamel, Feature.decode_of_eitherType htype, hbag]
    exact ⟨rfl, rfl⟩
  · intro entity d anchored derived attrs spelled htype hspelled
    have hbag := DerivedFeature.decode_bag entity d anchored derived
    have hcamel := htype.camelize_spelled (d.ordered_json anchored derived)
      (d.body.areCamel_bag (DerivedFeature.areCamel_inputs anchored derived)) hspelled
    rw [DerivedFeature.decode_congr hcamel, DerivedFeature.decode_of_eitherType htype, hbag]
    exact ⟨rfl, rfl⟩

/-- A feature over a window, with a key column and a tag whose key is not in camel case. -/
def Feature.windowed : Feature where
  name := "trips"
  type := .vector .float
  keys := [⟨"user", .int64, some "rider.user", none, none⟩]
  transformation := some (.aggregation ⟨"fare", some "SUM", some "7d", none, none, some 5⟩)
  tags := .ofList [("cost_center", "12")]
  registration := none

/-- The bag of `windowed` in other spellings, with the type where a registry keeps it. -/
def Feature.windowedSpelled : Bag := Entries.ofList
  [ ("key-", .arr [.obj (Entries.ofList
      [ ("full-name", .str "rider.user"), ("key__column", .str "user"),
        ("_key_column_type", .str "LONG") ])]),
    ("name", .str "trips"),
    ("_tags", .obj [("cost_center", .str "12")]),
    ("-transformation", .obj (Entries.ofList
      [ ("agg_func", .str "SUM"), ("def_expr", .str "fare"), ("limit", .num (.ofUInt64 5)),
        ("window_", .str "7d") ])),
    ("type--", .obj (Entries.ofList
      [ ("dimension_type", .arr [.str "INT"]), ("tensor-category", .str "DENSE"),
        ("type", .str "TENSOR"), ("val_type", .str "FLOAT") ])) ]

theorem Feature.respells_windowed :
    (Json.obj (Creation.storeFeatureType windowed.bag)).Respells (.obj windowedSpelled) := by
  have hkeys : (Json.arr (windowed.keys.map TypedKey.toJson)).Respells (.arr [.obj
      (Entries.ofList [ ("full-name", .str "rider.user"), ("key__column", .str "user"),
        ("_key_column_type", .str "LONG") ])]) := by
    refine .arr (.cons (.obj ?_) .nil)
    refine .cons ?_ ?_ (.str _) (.cons ?_ ?_ (.str _) (.cons ?_ ?_ (.str _) .nil))
    all_goals decide +kernel
  have hspec : (WindowAggregation.toJson
      ⟨"fare", some "SUM", some "7d", none, none, some 5⟩).Respells (.obj (Entries.ofList
        [ ("agg_func", .str "SUM"), ("def_expr", .str "fare"), ("limit", .num (.ofUInt64 5)),
          ("window_", .str "7d") ])) := by
    refine .obj (.cons ?_ ?_ (.str _) (.cons ?_ ?_ (.str _) (.cons ?_ ?_ (.num _)
      (.cons ?_ ?_ (.str _) .nil))))
    all_goals decide +kernel
  have htype : windowed.type.toJson.Respells (.obj (Entries.ofList
      [ ("dimension_type", .arr [.str "INT"]), ("tensor-category", .str "DENSE"),
        ("type", .str "TENSOR"), ("val_type", .str "FLOAT") ])) := by
    refine .obj (.cons ?_ ?_ (.arr (.cons (.str _) .nil)) (.cons ?_ ?_ (.str _)
      (.cons ?_ ?_ (.str _) (.cons ?_ ?_ (.str _) .nil))))
    all_goals decide +kernel
  refine .obj (.cons ?_ ?_ hkeys (.cons ?_ ?_ (.str _) (.tags ?_ (.cons ?_ ?_ hspec
    (.cons ?_ ?_ htype .nil)))))
  all_goals decide +kernel

/-- A feature derived from two others. -/
def DerivedFeature.totalled : DerivedFeature where
  name := "total"
  type := .scalar .double
  keys := []
  anchoredInputs := []
  derivedInputs := []
  transformation := some (.expression "a + b")
  tags := .empty
  registration := none

/-- The bag of `totalled`, with two inputs, in other spellings. -/
def DerivedFeature.totalledSpelled : Bag := Entries.ofList
  [ ("feature_type", .obj (Entries.ofList
      [ ("-dimensionType", .arr []), ("tensor__category", .str "DENSE"), ("type_", .str "TENSOR"),
        ("val-type", .str "DOUBLE") ])),
    ("input_anchor_features", .arr [.str "a"]),
    ("_input-derived_features", .arr [.str "b"]),
    ("key", .arr []),
    ("__name", .str "total"),
    ("tags_", .obj []),
    ("transformation", .obj (Entries.ofList [("transform_expr", .str "a + b")])) ]

theorem DerivedFeature.respells_totalled :
    (Json.obj (totalled.bag [⟨"a"⟩] [⟨"b"⟩])).Respells (.obj totalledSpelled) := by
  have htype : totalled.type.toJson.Respells (.obj (Entries.ofList
      [ ("-dimensionType", .arr []), ("tensor__category", .str "DENSE"), ("type_", .str "TENSOR"),
        ("val-type", .str "DOUBLE") ])) := by
    refine .obj (.cons ?_ ?_ (.arr .nil) (.cons ?_ ?_ (.str _) (.cons ?_ ?_ (.str _)
      (.cons ?_ ?_ (.str _) .nil))))
    all_goals decide +kernel
  have hexpression : (Json.obj [("transformExpr", .str "a + b")]).Respells
      (.obj (Entries.ofList [("transform_expr", .str "a + b")])) := by
    refine .obj (.cons ?_ ?_ (.str _) .nil)
    all_goals decide +kernel
  refine .obj (.cons ?_ ?_ htype (.cons ?_ ?_ (.arr (.cons (.str _) .nil))
    (.cons ?_ ?_ (.arr (.cons (.str _) .nil)) (.cons ?_ ?_ (.arr .nil) (.cons ?_ ?_ (.str _)
      (.tags ?_ (.cons ?_ ?_ hexpression .nil)))))))
  all_goals decide +kernel

theorem windowed_and_totalled_ignore_spelling :
    Feature.decode "e" Feature.windowedSpelled = .ok Feature.windowed ∧
      DerivedFeature.Detached.decode "e" DerivedFeature.totalledSpelled =
        .ok ⟨DerivedFeature.totalled, [⟨"a"⟩], [⟨"b"⟩]⟩ := by
  obtain ⟨hfeature, hderived⟩ := decoding_ignores_spelling
  obtain ⟨hspelled, hread⟩ := hfeature "e" Feature.windowed _ _ (.inr rfl)
    Feature.respells_windowed
  obtain ⟨hspelled', hread'⟩ := hderived "e" DerivedFeature.totalled [⟨"a"⟩] [⟨"b"⟩] _ _ (.inl rfl)
    DerivedFeature.respells_totalled
  exact ⟨hspelled.trans hread, hspelled'.trans hread'⟩

end FeatureCatalog
