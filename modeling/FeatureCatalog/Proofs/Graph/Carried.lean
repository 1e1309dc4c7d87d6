import FeatureCatalog.Proofs.Graph.Accepted
import FeatureCatalog.Proofs.Registration.References

/-! Which ids a graph that has been read from a project carries. A project names every entity twice:
by the key that it is listed under, and by the guid in the entity itself. References are looked up
among the keys, but an entity is registered under its guid, and nothing compares the two. So a
request does not refer to the id that the project holds but to the guid of what is listed under that
id. -/

namespace FeatureCatalog

/-- The guid of the entity that is listed under an id, or the id itself if none is. -/
def ProjectPayload.guidOf (p : ProjectPayload) (id : EntityId) : EntityId :=
  ((p.entities.get? id.text).map (·.guid)).getD id

/-- The id that an input is registered with. -/
def Graph.inputId? (g : Graph) (input : FeatureRef) : Option EntityId :=
  (g.inputRegistration? input).map (·.id)

/-- The source and the features of the anchor are registered with these ids, in order. -/
structure Anchor.Carries (g : Graph) (a : Anchor) (source : EntityId) (features : List EntityId) :
    Prop where
  source : (g.source a.source).registration.map (·.id) = some source
  features : a.features.map (fun k => g.inputId? (.anchored k)) = features.map some

/-- The inputs of the derived feature are registered with these ids, in order. -/
structure DerivedFeature.Carries (g : Graph) (f : DerivedFeature)
    (anchored derived : List EntityId) : Prop where
  anchored : f.anchoredInputs.map (fun k => g.inputId? (.anchored k)) = anchored.map some
  derived : f.derivedInputs.map (fun k => g.inputId? (.derived k)) = derived.map some

/-! ### What entities are registered with -/

namespace Part.ReadFrom

variable {id : String} {e : Entity}

theorem registration_source {s : Source} (h : (Part.source s).ReadFrom id e) :
    s.registration.map (·.id) = some e.guid := by
  cases h
  rfl

theorem registration_feature {f : Feature} (h : (Part.feature f).ReadFrom id e) :
    f.registration.map (·.id) = some e.guid := by
  cases h
  rfl

theorem registration_derived {d : DerivedFeature.Detached} (h : (Part.derived d).ReadFrom id e) :
    d.feature.registration.map (·.id) = some e.guid := by
  cases h
  rfl

end Part.ReadFrom

namespace Graph.LinkedFrom

variable {g : Graph} {p : ProjectPayload} {id : EntityId} (h : g.LinkedFrom p)
include h

theorem sourceId {k : SourceKey} (hk : p.sourceKey? id = some k) :
    (g.source k).registration.map (·.id) = some (p.guidOf id) := by
  obtain ⟨i, hi, rfl⟩ := Option.map_eq_some_iff.1 hk
  obtain ⟨e, he, hread⟩ := ProjectPayload.exists_of_place? h.sources hi default
  rw [ProjectPayload.guidOf, he]
  exact hread.registration_source

theorem featureId {k : FeatureKey} (hk : p.featureKey? id = some k) :
    g.inputId? (.anchored k) = some (p.guidOf id) := by
  obtain ⟨i, hi, rfl⟩ := Option.map_eq_some_iff.1 hk
  obtain ⟨e, he, hread⟩ := ProjectPayload.exists_of_place? h.features hi default
  rw [ProjectPayload.guidOf, he]
  exact hread.registration_feature

theorem derivedId {k : DerivedKey} (hk : p.derivedKey? id = some k) :
    g.inputId? (.derived k) = some (p.guidOf id) := by
  obtain ⟨i, hi, rfl⟩ := Option.map_eq_some_iff.1 hk
  obtain ⟨e, he, d, hread, hlinked⟩ := ProjectPayload.exists_of_place? h.derived hi default
  have hregistration : (g.derivedFeature ⟨i⟩).registration = d.feature.registration := by
    rw [show g.derivedFeature ⟨i⟩ = _ from hlinked.body, DerivedFeature.registration_addInputs]
  rw [ProjectPayload.guidOf, he, inputId?, inputRegistration?, hregistration]
  exact hread.registration_derived

end Graph.LinkedFrom

/-! ### What references become -/

/-- What is known of a key holds of the keys of ids, in order. -/
theorem map_keys {κ : Type} {key? : EntityId → Option κ} {f : κ → Option EntityId}
    {guid : EntityId → EntityId} {ids : List EntityId} {keys : List κ}
    (hkeys : ids.map key? = keys.map some)
    (hf : ∀ {id k}, key? id = some k → f k = some (guid id)) :
    keys.map f = (ids.map guid).map some := by
  rw [← List.forall₂_eq_eq_eq, List.forall₂_map_left_iff, List.forall₂_map_right_iff] at hkeys
  rw [List.map_map, ← List.forall₂_eq_eq_eq, List.forall₂_map_left_iff, List.forall₂_map_right_iff]
  exact hkeys.flip.imp fun _ _ hk => hf hk

/-- Ids become themselves exactly if each of them does. -/
theorem map_some_eq_iff {guid : EntityId → EntityId} {ids : List EntityId} :
    (ids.map guid).map some = ids.map some ↔ ∀ id ∈ ids, guid id = id := by
  rw [(List.map_injective_iff.2 (Option.some_injective _)).eq_iff]
  simpa using List.map_inj_left (f := guid) (g := id) (l := ids)

namespace Anchor

variable {g : Graph} {p : ProjectPayload} {r : Registration} {d : Anchor.Detached} {a : Anchor}

theorem LinkedFrom.carries (h : a.LinkedFrom p r d) (hlinked : g.LinkedFrom p) :
    a.Carries g (p.guidOf d.source.id) ((d.features.map EntityRef.id).map p.guidOf) := by
  have hkeys : (d.features.map EntityRef.id).map p.featureKey? = a.features.map some := by
    rw [List.map_map]
    exact h.features
  exact ⟨hlinked.sourceId h.source, map_keys hkeys hlinked.featureId⟩

/-- An anchor carries the ids that are listed exactly if each is the guid of its entity. -/
theorem LinkedFrom.carries_listed_iff (h : a.LinkedFrom p r d) (hlinked : g.LinkedFrom p) :
    a.Carries g d.source.id (d.features.map EntityRef.id) ↔
      ∀ type id, (Part.anchor r d).Refers type id → p.guidOf id = id := by
  obtain ⟨hsource, hfeatures⟩ := h.carries hlinked
  constructor
  · rintro ⟨hsource', hfeatures'⟩ type id hrefers
    cases hrefers with
    | source => exact Option.some.inj (hsource.symm.trans hsource')
    | feature href =>
      exact map_some_eq_iff.1 (hfeatures.symm.trans hfeatures') _ (List.mem_map_of_mem href)
  · intro hguids
    refine ⟨hsource.trans (congrArg some (hguids _ _ .source)), hfeatures.trans ?_⟩
    refine map_some_eq_iff.2 fun id hid => ?_
    obtain ⟨ref, href, rfl⟩ := List.mem_map.1 hid
    exact hguids _ _ (.feature href)

end Anchor

/-- The key of an anchored input. -/
def FeatureRef.anchored? : FeatureRef → Option FeatureKey
  | .anchored k => some k
  | .derived _ => none

/-- The key of a derived input. -/
def FeatureRef.derived? : FeatureRef → Option DerivedKey
  | .anchored _ => none
  | .derived k => some k

namespace DerivedFeature

variable {g : Graph} {p : ProjectPayload} {d : DerivedFeature.Detached} {f : DerivedFeature}

theorem map_eq_of_filterMap_eq {κ : Type} {key? : EntityId → Option κ} {ids : List EntityId}
    {keys : List κ} (hkeys : ids.filterMap key? = keys) (hsome : ∀ id ∈ ids, (key? id).isSome) :
    ids.map key? = keys.map some := by
  rw [← hkeys, List.map_filterMap_some_eq_filter_map_isSome]
  exact (List.filter_eq_self.2 (by simpa using hsome)).symm

/-- The anchored keys are those of the anchored ids. -/
theorem LinkedFrom.anchoredKeys (h : f.LinkedFrom p d) :
    d.anchored.map p.featureKey? = f.anchoredInputs.map some := by
  have hkeys := congrArg (List.filterMap fun input => input.bind FeatureRef.anchored?) h.inputs
  refine map_eq_of_filterMap_eq (by simpa [DerivedFeature.inputs, List.filterMap_map,
    Function.comp_def, FeatureRef.anchored?, Option.bind_map] using hkeys) fun id hid => ?_
  obtain ⟨k, -, hk⟩ := h.exists_featureKey hid
  exact Option.isSome_iff_exists.2 ⟨k, hk⟩

theorem LinkedFrom.derivedKeys (h : f.LinkedFrom p d) :
    d.derived.map p.derivedKey? = f.derivedInputs.map some := by
  have hkeys := congrArg (List.filterMap fun input => input.bind FeatureRef.derived?) h.inputs
  refine map_eq_of_filterMap_eq (by simpa [DerivedFeature.inputs, List.filterMap_map,
    Function.comp_def, FeatureRef.derived?, Option.bind_map] using hkeys) fun id hid => ?_
  obtain ⟨k, -, hk⟩ := h.exists_derivedKey hid
  exact Option.isSome_iff_exists.2 ⟨k, hk⟩

theorem LinkedFrom.carries (h : f.LinkedFrom p d) (hlinked : g.LinkedFrom p) :
    f.Carries g (d.anchored.map p.guidOf) (d.derived.map p.guidOf) :=
  ⟨map_keys h.anchoredKeys hlinked.featureId, map_keys h.derivedKeys hlinked.derivedId⟩

/-- A derived feature carries the ids that are listed exactly if each is the guid of its entity. -/
theorem LinkedFrom.carries_listed_iff (h : f.LinkedFrom p d) (hlinked : g.LinkedFrom p) :
    f.Carries g d.anchored d.derived ↔
      ∀ type id, (Part.derived d).Refers type id → p.guidOf id = id := by
  obtain ⟨hanchored, hderived⟩ := h.carries hlinked
  constructor
  · rintro ⟨hanchored', hderived'⟩ type id hrefers
    cases hrefers with
    | anchored hid => exact map_some_eq_iff.1 (hanchored.symm.trans hanchored') _ hid
    | derived hid => exact map_some_eq_iff.1 (hderived.symm.trans hderived') _ hid
  · intro hguids
    exact ⟨hanchored.trans (map_some_eq_iff.2 fun id hid => hguids _ _ (.anchored hid)),
      hderived.trans (map_some_eq_iff.2 fun id hid => hguids _ _ (.derived hid))⟩

end DerivedFeature

/-! ### What requests refer to -/

namespace Task

variable {g : Graph} {projectId : EntityId}

theorem idFor_of_map_id {user used : String} {registration : Option Registration} {id : EntityId}
    (h : registration.map (·.id) = some id) : idFor user used registration = .ok id := by
  obtain ⟨r, rfl, rfl⟩ := Option.map_eq_some_iff.1 h
  rfl

theorem inputIds_of_map_inputId? {user : String} {inputs : List FeatureRef} {ids : List EntityId}
    (h : inputs.map g.inputId? = ids.map some) : inputIds g user inputs = .ok ids := by
  rw [← List.forall₂_eq_eq_eq, List.forall₂_map_left_iff, List.forall₂_map_right_iff] at h
  refine inputIds_eq_ok_iff.2 (h.imp fun input id hid => ?_)
  rw [registration?_ofInput]
  exact Option.map_eq_some_iff.1 hid

theorem request_anchor {k : AnchorKey} {source : EntityId} {features : List EntityId}
    (h : (g.anchor k).Carries g source features) :
    (Task.anchor k).request g projectId = .ok ⟨["projects", projectId.text, "anchors"],
      Anchor.bagOf (g.anchor k).name source (g.anchor k).tags⟩ := by
  simp only [request, idFor_of_map_id h.source]
  rfl

theorem request_derived {k : DerivedKey} {anchored derived : List EntityId}
    (h : (g.derivedFeature k).Carries g anchored derived) :
    (Task.derived k).request g projectId = .ok ⟨["projects", projectId.text, "derivedfeatures"],
      (g.derivedFeature k).bag anchored derived⟩ := by
  have hanchored : inputIds g (g.derivedFeature k).name
      ((g.derivedFeature k).anchoredInputs.map .anchored) = .ok anchored :=
    inputIds_of_map_inputId? ((List.map_map ..).trans h.anchored)
  have hderived : inputIds g (g.derivedFeature k).name
      ((g.derivedFeature k).derivedInputs.map .derived) = .ok derived :=
    inputIds_of_map_inputId? ((List.map_map ..).trans h.derived)
  simp only [request, hanchored, hderived]
  rfl

end Task

namespace Graph

variable {g : Graph} {p : ProjectPayload}

/-- What an anchor or a derived feature of a graph that has been read refers to is registered with
the guids of what is listed under the ids in its bag, in order, and these guids are what a request
for it refers to. They are the ids in its bag exactly if each of those is the guid of what is listed
under it. -/
theorem ofPayload_carries_guids (h : ofPayload p = .ok g) :
    (∀ user e r d, p.entities.get? user = some e → (Part.anchor r d).ReadFrom user e →
      ∃ k, p.anchorKey? ⟨user⟩ = some k ∧
        (g.anchor k).Carries g (p.guidOf d.source.id) ((d.features.map EntityRef.id).map p.guidOf) ∧
        ((g.anchor k).Carries g d.source.id (d.features.map EntityRef.id) ↔
          ∀ type id, (Part.anchor r d).Refers type id → p.guidOf id = id) ∧
        ∀ projectId, (Task.anchor k).request g projectId =
          .ok ⟨["projects", projectId.text, "anchors"],
            Anchor.bagOf (g.anchor k).name (p.guidOf d.source.id) (g.anchor k).tags⟩) ∧
    ∀ user e d, p.entities.get? user = some e → (Part.derived d).ReadFrom user e →
      ∃ k, p.derivedKey? ⟨user⟩ = some k ∧
        (g.derivedFeature k).Carries g (d.anchored.map p.guidOf) (d.derived.map p.guidOf) ∧
        ((g.derivedFeature k).Carries g d.anchored d.derived ↔
          ∀ type id, (Part.derived d).Refers type id → p.guidOf id = id) ∧
        ∀ projectId, (Task.derived k).request g projectId =
          .ok ⟨["projects", projectId.text, "derivedfeatures"],
            (g.derivedFeature k).bag (d.anchored.map p.guidOf) (d.derived.map p.guidOf)⟩ := by
  have hlinked := linkedFrom_of_ofPayload h
  constructor
  · intro user e r d he hread
    obtain ⟨k, hk, hfrom⟩ := hlinked.exists_anchor he hread
    have hcarries := hfrom.carries hlinked
    exact ⟨k, hk, hcarries, hfrom.carries_listed_iff hlinked, fun _ => Task.request_anchor hcarries⟩
  · intro user e d he hread
    obtain ⟨k, hk, hfrom⟩ := hlinked.exists_derivedFeature he hread
    have hcarries := hfrom.carries hlinked
    exact ⟨k, hk, hcarries, hfrom.carries_listed_iff hlinked,
      fun _ => Task.request_derived hcarries⟩

end Graph

/-! ### A project with other guids -/

/-- An anchor, and a derived feature that consumes the feature of the anchor. The source and the
feature are listed under other ids than their guids. -/
def ProjectPayload.mislabelled : ProjectPayload where
  entities :=
    let type := (FeatureType.scalar .int32).toJson
    .ofList
      [ ("a", .plain "a" .anchor [("source", .str "s"), ("features", Json.ofTexts ["f"])]),
        ("d", .plain "d" .derivedFeature
          [("type", type), ("inputAnchorFeatures", Json.ofTexts ["f"])]),
        ("f", .plain "u" .anchorFeature [("type", type)]),
        ("s", .plain "t" .source [("type", .str "hdfs"), ("path", .str "data")]) ]
  relations := []

namespace Graph

/-- A derived feature without inputs. -/
def solitary : Graph := { empty with derived := [default] }

theorem order_solitary : solitary.order solitary.derivedKeys = .ok [⟨0⟩] := by
  cbv

theorem exists_ofPayload_mislabelled : ∃ g, ofPayload .mislabelled = .ok g :=
  exists_ofPayload (by decide +kernel) order_solitary

theorem mislabelled_anchor : ∃ e r d, ProjectPayload.mislabelled.entities.get? "a" = some e ∧
    (Part.anchor r d).ReadFrom "a" e ∧ d.source.id = ⟨"s"⟩ ∧
    d.features.map EntityRef.id = [⟨"f"⟩] := by
  have hread : (ProjectPayload.mislabelled.entities.get? "a").map (fun e =>
      (Part.ofEntity "a" e).map fun part => part.anchor?.map fun q =>
        (q.2.source.id, q.2.features.map EntityRef.id)) =
      some (.ok (some (⟨"s"⟩, [⟨"f"⟩]))) := by
    decide +kernel
  obtain ⟨e, he, hread⟩ := Option.map_eq_some_iff.1 hread
  obtain ⟨part, hpart, hkind⟩ := map_eq_ok.1 hread
  obtain ⟨⟨r, d⟩, hd, hids⟩ := Option.map_eq_some_iff.1 hkind
  obtain ⟨hsource, hfeatures⟩ := Prod.mk.inj hids
  obtain rfl := Parts.anchor?_eq_some.1 hd
  exact ⟨e, r, d, he, Part.readFrom_of_ofEntity hpart, hsource, hfeatures⟩

theorem mislabelled_carries_guids : ∃ g, ofPayload .mislabelled = .ok g ∧
    (g.anchor ⟨0⟩).Carries g ⟨"t"⟩ [⟨"u"⟩] ∧
    ∀ projectId, (Task.anchor ⟨0⟩).request g projectId =
      .ok ⟨["projects", projectId.text, "anchors"],
        Anchor.bagOf (g.anchor ⟨0⟩).name ⟨"t"⟩ (g.anchor ⟨0⟩).tags⟩ := by
  obtain ⟨g, h⟩ := exists_ofPayload_mislabelled
  obtain ⟨e, r, d, he, hread, hsource, hfeatures⟩ := mislabelled_anchor
  obtain ⟨k, hk, hcarries, -, hrequest⟩ := (ofPayload_carries_guids h).1 _ _ _ _ he hread
  obtain rfl : (⟨0⟩ : AnchorKey) = k :=
    Option.some.inj ((by decide +kernel : _ = some ⟨0⟩).symm.trans hk)
  have hguid : ProjectPayload.mislabelled.guidOf ⟨"s"⟩ = ⟨"t"⟩ := by decide +kernel
  have hguids : [⟨"f"⟩].map ProjectPayload.mislabelled.guidOf = [⟨"u"⟩] := by decide +kernel
  rw [hsource, hguid] at hrequest
  rw [hsource, hfeatures, hguid, hguids] at hcarries
  exact ⟨g, h, hcarries, hrequest⟩

/-- The anchor does not carry the ids that its bag lists. -/
theorem mislabelled_loses_listed_ids : ∃ g, ofPayload .mislabelled = .ok g ∧
    ∃ e r d k, ProjectPayload.mislabelled.entities.get? "a" = some e ∧
      (Part.anchor r d).ReadFrom "a" e ∧ ProjectPayload.mislabelled.anchorKey? ⟨"a"⟩ = some k ∧
      ¬(g.anchor k).Carries g d.source.id (d.features.map EntityRef.id) := by
  obtain ⟨g, h⟩ := exists_ofPayload_mislabelled
  have hlinked := linkedFrom_of_ofPayload h
  obtain ⟨e, r, d, he, hread, hsource, -⟩ := mislabelled_anchor
  obtain ⟨k, hk, hfrom⟩ := hlinked.exists_anchor he hread
  refine ⟨g, h, e, r, d, k, he, hread, hk, fun hcarries => ?_⟩
  have hguid := (hfrom.carries_listed_iff hlinked).1 hcarries _ _ .source
  rw [hsource] at hguid
  exact absurd hguid (by decide +kernel)

end Graph

end FeatureCatalog
