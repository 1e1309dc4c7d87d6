import FeatureCatalog.Proofs.Graph.Part
import FeatureCatalog.Registration

/-! The requests of a registration. Each body is one that an entity of a graph is written as, so
what a registry makes of it is known, and the entity that it stores can be read. -/

namespace FeatureCatalog

/-- The requests that a registration makes: each body is one that a source, an anchor, a feature or
a derived feature is written as. -/
inductive CreateRequest.Issued : CreateRequest → Prop
  | project (name : String) (tags : Tags) :
      Issued ⟨["projects"], [("name", .str name), ("tags", Json.ofTags tags)]⟩
  | source (p : String) {s : Source} : s.kind.reservedKey? = none →
      Issued ⟨["projects", p, "datasources"], s.bag⟩
  | anchor (p name : String) (source : EntityId) (tags : Tags) :
      Issued ⟨["projects", p, "anchors"], Anchor.bagOf name source tags⟩
  | feature (p a : String) (f : Feature) :
      Issued ⟨["projects", p, "anchors", a, "features"], f.bag⟩
  | derived (p : String) (d : DerivedFeature) (anchored derived : List EntityId) :
      Issued ⟨["projects", p, "derivedfeatures"], d.bag anchored derived⟩

theorem Source.encode_eq_ok {s : Source} {body : Bag} :
    s.encode = .ok body ↔ s.kind.reservedKey? = none ∧ s.bag = body := by
  unfold Source.encode
  cases s.kind.reservedKey? <;> simp

theorem Source.text?_bag_name (s : Source) : s.bag.text? "name" = some s.name := by
  unfold Bag.text?
  rw [s.get?_bag_name]
  rfl

theorem FeatureBody.text?_bag_name (f : FeatureBody) {inputs : Bag} (h : Entries.get? "name" inputs = none) :
    Bag.text? (f.bag inputs) "name" = some f.name := by
  unfold Bag.text?
  rw [f.get?_bag, h]
  rfl

theorem Task.idFor_eq_ok {user used : String} {registration : Option Registration}
    {id : EntityId} : Task.idFor user used registration = .ok id ↔
      ∃ r, registration = some r ∧ r.id = id := by
  cases registration <;> simp [Task.idFor]

namespace Task

variable {g : Graph} {projectId : EntityId} {task : Task} {request : CreateRequest}

/-- What a task asks for, which needs the ids of all that the entity refers to. -/
inductive Asks (g : Graph) (projectId : EntityId) : Task → CreateRequest → Prop
  | source {k} : (g.source k).kind.reservedKey? = none →
      Asks g projectId (.source k) ⟨["projects", projectId.text, "datasources"], (g.source k).bag⟩
  | anchor {k r} : (g.source (g.anchor k).source).registration = some r →
      Asks g projectId (.anchor k) ⟨["projects", projectId.text, "anchors"],
        Anchor.bagOf (g.anchor k).name r.id (g.anchor k).tags⟩
  | feature {owner k r} : (g.anchor owner).registration = some r →
      Asks g projectId (.feature owner k)
        ⟨["projects", projectId.text, "anchors", r.id.text, "features"], (g.feature k).bag⟩
  | derived {k anchored derived} :
      inputIds g (g.derivedFeature k).name ((g.derivedFeature k).anchoredInputs.map .anchored) =
        .ok anchored →
      inputIds g (g.derivedFeature k).name ((g.derivedFeature k).derivedInputs.map .derived) =
        .ok derived →
      Asks g projectId (.derived k) ⟨["projects", projectId.text, "derivedfeatures"],
        (g.derivedFeature k).bag anchored derived⟩

theorem asks_of_request (h : task.request g projectId = .ok request) :
    task.Asks g projectId request := by
  cases task with
  | source k =>
    obtain ⟨body, hbody, h⟩ := bind_eq_ok.1 h
    obtain rfl := return_eq_ok.1 h
    obtain ⟨hkind, rfl⟩ := Source.encode_eq_ok.1 hbody
    exact .source hkind
  | anchor k =>
    obtain ⟨source, hsource, h⟩ := bind_eq_ok.1 h
    obtain rfl := return_eq_ok.1 h
    obtain ⟨r, hr, rfl⟩ := idFor_eq_ok.1 hsource
    exact .anchor hr
  | feature owner k =>
    obtain ⟨anchor, hanchor, h⟩ := bind_eq_ok.1 h
    obtain rfl := return_eq_ok.1 h
    obtain ⟨r, hr, rfl⟩ := idFor_eq_ok.1 hanchor
    exact .feature hr
  | derived k =>
    obtain ⟨anchored, hanchored, h⟩ := bind_eq_ok.1 h
    obtain ⟨derived, hderived, h⟩ := bind_eq_ok.1 h
    obtain rfl := return_eq_ok.1 h
    exact .derived hanchored hderived

theorem Asks.text?_name (h : task.Asks g projectId request) :
    Bag.text? request.body "name" = some (task.name g) := by
  cases h with
  | source => exact Source.text?_bag_name _
  | anchor => rfl
  | feature => exact FeatureBody.text?_bag_name _ rfl
  | derived => exact FeatureBody.text?_bag_name _ rfl

theorem Asks.issued (h : task.Asks g projectId request) : request.Issued := by
  cases h with
  | source hkind => exact .source _ hkind
  | anchor => exact .anchor _ _ _ _
  | feature => exact .feature _ _ _
  | derived => exact .derived _ _ _ _

end Task

/-! ### What requests describe -/

namespace Creation

variable {c : Contents} {d : Definition}

theorem describes_project {name : String} {tags : Tags}
    (h : Describes c [("name", .str name), ("tags", Json.ofTags tags)] ["projects"] d) :
    name ≠ "" ∧ c.projectNamed? name = none ∧
      d = .ofProject name [("name", .str name), ("tags", Json.ofTags tags)] := by
  generalize hpath : ["projects"] = path at h
  cases h with
  | project hname hnone =>
    obtain rfl : name = _ := Option.some.inj hname.text
    exact ⟨hname.ne_empty, hnone, rfl⟩
  | source | anchor | feature | derived => simp at hpath

theorem describes_source {p : String} {s : Source}
    (h : Describes c s.bag ["projects", p, "datasources"] d) :
    ∃ projectName, c.projectName ⟨p⟩ = .ok projectName ∧ s.name ≠ "" ∧
      d = .ofSource ⟨p⟩ projectName s.name s.bag := by
  generalize hpath : ["projects", p, "datasources"] = path at h
  cases h with
  | source hproject hname =>
    obtain rfl : p = _ := by simpa using hpath
    obtain rfl : s.name = _ := Option.some.inj (s.text?_bag_name.symm.trans hname.text)
    exact ⟨_, hproject, hname.ne_empty, rfl⟩
  | project | anchor | feature | derived => simp at hpath

theorem describes_anchor {p name : String} {source : EntityId} {tags : Tags}
    (h : Describes c (Anchor.bagOf name source tags) ["projects", p, "anchors"] d) :
    ∃ projectName, c.projectName ⟨p⟩ = .ok projectName ∧ name ≠ "" ∧ c.Has ⟨p⟩ .source source ∧
      d = .ofAnchor ⟨p⟩ projectName name source (Anchor.bagOf name source tags) := by
  generalize hpath : ["projects", p, "anchors"] = path at h
  cases h with
  | anchor hproject hname hsource hhas =>
    obtain rfl : p = _ := by simpa using hpath
    obtain rfl : name = _ := Option.some.inj hname.text
    obtain rfl : source.text = _ := Option.some.inj hsource
    exact ⟨_, hproject, hname.ne_empty, hhas, rfl⟩
  | project | source | feature | derived => simp at hpath

theorem describes_feature {p a : String} {f : Feature}
    (h : Describes c f.bag ["projects", p, "anchors", a, "features"] d) :
    ∃ projectName stored anchorName, c.projectName ⟨p⟩ = .ok projectName ∧ f.name ≠ "" ∧
      c.stored? ⟨a⟩ = some stored ∧ stored.project = ⟨p⟩ ∧ stored.entity.type = .anchor ∧
      stored.entity.name? = some anchorName ∧
      d = .ofFeature ⟨p⟩ ⟨a⟩ projectName anchorName f.name f.bag := by
  generalize hpath : ["projects", p, "anchors", a, "features"] = path at h
  cases h with
  | feature hproject hstored hin htype hanchor hname =>
    obtain ⟨rfl, rfl⟩ : p = _ ∧ a = _ := by simpa using hpath
    obtain rfl : f.name = _ :=
      Option.some.inj ((f.body.text?_bag_name rfl).symm.trans hname.text)
    exact ⟨_, _, _, hproject, hname.ne_empty, hstored, hin, htype, hanchor, rfl⟩
  | project | source | anchor | derived => simp at hpath

/-- Ids are read as bare references. -/
theorem describes_derived {p : String} {f : DerivedFeature} {anchored derived : List EntityId}
    (h : Describes c (f.bag anchored derived) ["projects", p, "derivedfeatures"] d) :
    ∃ projectName, c.projectName ⟨p⟩ = .ok projectName ∧ f.name ≠ "" ∧
      (∀ id ∈ anchored, c.Has ⟨p⟩ .anchorFeature id) ∧
      (∀ id ∈ derived, c.Has ⟨p⟩ .derivedFeature id) ∧
      d = .ofDerived ⟨p⟩ projectName f.name anchored derived (f.bag anchored derived) := by
  generalize hpath : ["projects", p, "derivedfeatures"] = path at h
  cases h with
  | @derived _ _ _ as ds hproject hname has hds hanchored hderived =>
    obtain rfl : p = _ := by simpa using hpath
    obtain rfl : f.name = _ :=
      Option.some.inj ((f.body.text?_bag_name rfl).symm.trans hname.text)
    have href : ∀ key (ids : List EntityId),
        Entries.get? key (f.bag anchored derived) = some (.arr (ids.map EntityId.toJson)) →
        refs (f.bag anchored derived) key = .ok (ids.map EntityRef.bare) := by
      intro key ids hget
      unfold refs
      rw [hget]
      exact EntityRef.list_ids ids
    obtain rfl := Except.ok.inj ((href _ anchored (f.body.get?_bag _ _)).symm.trans has)
    obtain rfl := Except.ok.inj ((href _ derived (f.body.get?_bag _ _)).symm.trans hds)
    simp only [List.forall_mem_map] at hanchored hderived
    exact ⟨_, hproject, hname.ne_empty, hanchored, hderived, by rw [EntityRef.map_id_bare, EntityRef.map_id_bare]⟩
  | project | source | anchor | feature => simp at hpath

end Creation

/-- What a registry stores for a request can be read. -/
theorem CreateRequest.Issued.exists_part {request : CreateRequest} (h : request.Issued)
    {c : Contents} {d : Definition} (hd : Creation.Describes c request.body request.path d)
    (id : EntityId) : ∃ part : Part, part.IsIn (d.stored id).entity := by
  cases h with
  | project name tags =>
    obtain ⟨-, -, rfl⟩ := Creation.describes_project hd
    exact ⟨_, Part.isIn_ofProject id _ _⟩
  | source p hkind =>
    obtain ⟨_, -, -, rfl⟩ := Creation.describes_source hd
    exact ⟨_, Part.isIn_ofSource id _ _ hkind⟩
  | anchor p name source tags =>
    obtain ⟨_, -, -, -, rfl⟩ := Creation.describes_anchor hd
    exact ⟨_, Part.isIn_ofAnchor id _ _ _ _ _⟩
  | feature p a f =>
    obtain ⟨_, _, _, -, -, -, -, -, -, rfl⟩ := Creation.describes_feature hd
    exact ⟨_, Part.isIn_ofFeature id _ _ _ _ _⟩
  | derived p f anchored derived =>
    obtain ⟨_, -, -, -, -, rfl⟩ := Creation.describes_derived hd
    exact ⟨_, Part.isIn_ofDerived id _ _ _ _ _⟩

end FeatureCatalog
