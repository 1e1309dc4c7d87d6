import FeatureCatalog.Proofs.Feature.Codec

/-! Features as they are sent. The bag that a feature is written as, anchored or derived, is read
back with nothing lost: it has the type under another key than a bag that a registry stores, and its
inputs as plain ids. -/

namespace FeatureCatalog

open Record

/-- What features have in common is read back from the bag that they are written as, with whatever
inputs stand between. -/
theorem FeatureBody.read_bag (f : FeatureBody) {inputs : Bag}
    (hordered : Entries.Ordered (f.bag inputs)) (hcamel : Json.AreCamel inputs)
    (hkeys : ∀ k ∈ keyNames, Entries.get? k inputs = none) (entity : String) :
    record.read entity (f.bag inputs).camelize = .ok (f.transformation.map Transformation.toJson,
      fun transformation => ⟨f.name, f.type, f.keys, transformation, f.tags⟩) := by
  have hget : ∀ k ∈ keyNames, Entries.get? k (f.bag inputs) =
      if k = "featureType" then some f.type.toJson
      else if k = "key" then some (.arr (f.keys.map TypedKey.toJson))
      else if k = "name" then some (.str f.name)
      else if k = "tags" then some (Json.ofTags f.tags)
      else if k = "transformation" then f.transformation.map Transformation.toJson
      else none := by
    intro k hk
    rw [f.get?_bag, hkeys k hk, Option.none_or]
  -- The type is the one field whose key here is not the one that the registry keeps it under.
  have htype : (requiredAs "type" ["featureType"] FeatureType.decoder).Reads (f.bag inputs)
      f.type := by
    refine reads_under (.inr List.mem_cons_self) (hget "featureType" (by decide))
      f.type.decoder_toJson fun k hk hne => ?_
    obtain rfl : k = "type" := hk.resolve_right (by simpa using hne)
    exact hget "type" (by decide)
  exact read_eq_ok hordered (f.areCamel_bag hcamel) (hget "name" (by decide)) htype
    (hget "key" (by decide)) (hget "transformation" (by decide)) (hget "tags" (by decide)) entity

theorem Feature.decode_bag (entity : String) (f : Feature) :
    Feature.decode entity f.bag = .ok { f with registration := none } := by
  have hbody : FeatureBody.record.read entity f.bag.camelize =
      .ok (f.transformation.map Transformation.toJson,
        fun transformation => ⟨f.name, f.type, f.keys, transformation, f.tags⟩) :=
    f.body.read_bag f.ordered_bag Json.areCamel_nil (fun _ _ => rfl) entity
  unfold Feature.decode
  rw [hbody]
  change (do
    let transformation ← Transformation.ofJson? entity (f.transformation.map Transformation.toJson)
    return ofBody _ : Except CatalogError Feature) = _
  rw [Transformation.ofJson?_map]
  rfl

namespace DerivedFeature

/-- The ids that attributes list as inputs of a derived feature are read in their order. -/
theorem read_inputs {attrs : Bag} (hordered : Entries.Ordered attrs) (hcamel : Json.AreCamel attrs)
    {anchored derived : List EntityId}
    (hanchored : Entries.get? "inputAnchorFeatures" attrs =
      some (.arr (anchored.map EntityId.toJson)))
    (hderived : Entries.get? "inputDerivedFeatures" attrs =
      some (.arr (derived.map EntityId.toJson))) (entity : String) :
    inputsRecord.read entity attrs.camelize = .ok (anchored.map .bare, derived.map .bare) := by
  have hreads : inputsRecord.Reads attrs (anchored.map .bare, derived.map .bare) :=
    ((reads_defaulted hanchored (EntityRef.list_ids anchored)).map Prod.mk)
      |>.seq (reads_defaulted hderived (EntityRef.list_ids derived))
  rw [Record.read, Bag.camelize_eq hordered hcamel]
  exact congrArg (inEntity entity) (hreads.ofBag hordered (by decide))

/-- A derived feature is read where what it is made of and the ids of its inputs are. -/
theorem decode_of_read {f : FeatureBody} {attrs : Bag} {anchored derived : List EntityId}
    {entity : String}
    (hbody : FeatureBody.record.read entity attrs.camelize =
      .ok (f.transformation.map Transformation.toJson,
        fun transformation => ⟨f.name, f.type, f.keys, transformation, f.tags⟩))
    (hinputs : inputsRecord.read entity attrs.camelize =
      .ok (anchored.map .bare, derived.map .bare)) :
    Detached.decode entity attrs = .ok ⟨ofBody f, anchored, derived⟩ := by
  unfold Detached.decode
  rw [hbody, hinputs]
  change (do
    let transformation ← Transformation.ofJson? entity (f.transformation.map Transformation.toJson)
    return (⟨ofBody _, (anchored.map EntityRef.bare).map EntityRef.id,
      (derived.map EntityRef.bare).map EntityRef.id⟩ : Detached)) = _
  rw [Transformation.ofJson?_map, EntityRef.map_id_bare, EntityRef.map_id_bare]
  rfl

theorem decode_bag (entity : String) (d : DerivedFeature) (anchored derived : List EntityId) :
    Detached.decode entity (d.bag anchored derived) =
      .ok ⟨{ d with anchoredInputs := [], derivedInputs := [], registration := none }, anchored,
        derived⟩ := by
  have hordered := d.ordered_bag anchored derived
  have hcamel := areCamel_inputs anchored derived
  have hbody := d.body.read_bag hordered hcamel (fun _ hk => get?_inputs hk _ _) entity
  have hinputs := read_inputs hordered (d.body.areCamel_bag hcamel)
    (d.body.get?_bag _ "inputAnchorFeatures") (d.body.get?_bag _ "inputDerivedFeatures") entity
  exact decode_of_read hbody hinputs

end DerivedFeature

/-- A feature is read back from its bag as it was, but for its registration, which the bag does not
hold. A derived one comes back without inputs, and beside it the ids that were written for them. -/
theorem features_survive_bags :
    (∀ (entity : String) (f : Feature),
      Feature.decode entity f.bag = .ok { f with registration := none }) ∧
    ∀ (entity : String) (d : DerivedFeature) (anchored derived : List EntityId),
      DerivedFeature.Detached.decode entity (d.bag anchored derived) =
        .ok ⟨{ d with anchoredInputs := [], derivedInputs := [], registration := none }, anchored,
          derived⟩ :=
  ⟨Feature.decode_bag, DerivedFeature.decode_bag⟩

end FeatureCatalog
