import FeatureCatalog.Proofs.Client.Fetchable
import FeatureCatalog.Proofs.Store.Deletion

/-! Listings: what a client reads of the features of a project, and of the entities that depend on
one. Features are rows of the table, which has one row for each id. Dependents are found in the
relations, none of which stands there twice; and since no entity consumes what contains it, no two
relations lead from an entity to the same dependent. Main statement: listings are complete and free
of duplicates. -/

namespace FeatureCatalog

/-- What listings show of an entity, with no text for a name that is missing. -/
def Entity.summary (e : Entity) : EntitySummary :=
  ⟨e.name?.getD "", e.guid, e.qualifiedName?.getD ""⟩

theorem EntitySummary.ofEntity_eq {e : Entity} {name qualifiedName : String}
    (hname : e.name? = some name) (hq : e.qualifiedName? = some qualifiedName) :
    ofEntity e = .ok e.summary := by
  unfold ofEntity Entity.summary
  rw [hname, hq]
  rfl

theorem EntitySummary.mapM_ofEntity {es : List Entity}
    (h : ∀ e ∈ es, ofEntity e = .ok e.summary) :
    es.mapM ofEntity = .ok (es.map Entity.summary) := by
  induction es with
  | nil => rfl
  | cons e rest ih =>
    obtain ⟨he, hrest⟩ := List.forall_mem_cons.1 h
    rw [List.mapM_cons, he, ih hrest]
    rfl

/-- Entities that have both of their names are listed one by one. -/
theorem Client.summaries_eq (subject : String) {es : List Entity}
    (h : ∀ e ∈ es, EntitySummary.ofEntity e = .ok e.summary) :
    Client.summaries subject (.arr (es.map Entity.toJson)) = .ok (es.map Entity.summary) := by
  have hdecode : Entity.decoder.list (.arr (es.map Entity.toJson)) = .ok es :=
    Decoder.list_map fun e _ => e.decoder_toJson
  rw [summaries, hdecode]
  exact EntitySummary.mapM_ofEntity h

namespace Contents

variable {c : Contents} {P : EntityId → Prop}

/-- The entities are those that `P` holds for, as they are stored, each of them once. -/
structure Enumerates (c : Contents) (P : EntityId → Prop) (es : List Entity) : Prop where
  nodup : (es.map (·.guid)).Nodup
  mem_iff : ∀ id, id ∈ es.map (·.guid) ↔ P id
  stored : ∀ e ∈ es, ∃ stored, c.stored? e.guid = some stored ∧ stored.entity = e

/-- The rows list the entities that `P` holds for: there is exactly one row for each, with its names
as they are stored. -/
structure IsListing (c : Contents) (P : EntityId → Prop) (rows : List EntitySummary) : Prop where
  nodup : (rows.map (·.id)).Nodup
  mem_iff : ∀ id, id ∈ rows.map (·.id) ↔ P id
  names : ∀ row ∈ rows, ∃ stored, c.stored? row.id = some stored ∧
    stored.entity.name? = some row.name ∧ stored.entity.qualifiedName? = some row.qualifiedName

/-- The summaries of entities that are stored can be read, and they list those entities. -/
theorem Enumerates.isListing {es : List Entity} (h : c.Enumerates P es) (hc : c.Sound)
    (hnamed : c.Named) (subject : String) :
    ∃ rows, Client.summaries subject (.arr (es.map Entity.toJson)) = .ok rows ∧
      c.IsListing P rows := by
  have hnames : ∀ e ∈ es, ∃ stored name q, c.stored? e.guid = some stored ∧ stored.entity = e ∧
      e.name? = some name ∧ e.qualifiedName? = some q := by
    intro e he
    obtain ⟨stored, hstored, rfl⟩ := h.stored e he
    obtain ⟨name, hname⟩ := hnamed hstored
    obtain ⟨q, hq, -⟩ := hc.exists_calls hnamed hstored
    exact ⟨stored, name, q, hstored, rfl, hname.text, hq⟩
  have hids : (es.map Entity.summary).map (·.id) = es.map (·.guid) := List.map_map
  refine ⟨es.map Entity.summary, Client.summaries_eq subject fun e he => ?_, ?_, ?_, ?_⟩
  · obtain ⟨_, name, q, -, -, hname, hq⟩ := hnames e he
    exact EntitySummary.ofEntity_eq hname hq
  · rw [hids]
    exact h.nodup
  · rw [hids]
    exact h.mem_iff
  · refine List.forall_mem_map.2 fun e he => ?_
    obtain ⟨stored, name, q, hstored, rfl, hname, hq⟩ := hnames e he
    exact ⟨stored, hstored, by simp [Entity.summary, hname], by simp [Entity.summary, hq]⟩

/-! ### Features -/

/-- A feature of the project, anchored or derived, is stored under the id. -/
def IsFeatureOf (c : Contents) (project id : EntityId) : Prop :=
  c.Has project .anchorFeature id ∨ c.Has project .derivedFeature id

theorem Sound.nodup_guids (hc : c.Sound) :
    ((c.entities.values.map (·.entity)).map (·.guid)).Nodup := by
  have hguids : (c.entities.values.map (·.entity)).map (·.guid) =
      (c.entities.entries.map (·.1)).map EntityId.mk := by
    rw [Dict.values, List.map_map, List.map_map, List.map_map]
    exact List.map_congr_left fun e he => hc.guid (Dict.mem_entries.1 he)
  rw [hguids]
  exact c.entities.ordered.nodup_keys.map fun _ _ h => EntityId.mk.inj h

/-- The features of a project. -/
def featuresIn (c : Contents) (project : EntityId) : List Entity :=
  ((c.entities.values.filter fun stored => stored.project = project).map (·.entity)).filter
    fun e => e.type = .anchorFeature ∨ e.type = .derivedFeature

theorem Sound.features_eq (hc : c.Sound) {project : EntityId} {name : String}
    (h : c.IsProject project name) : c.features name = .ok (c.featuresIn project) := by
  unfold Contents.features
  rw [h.projectNamed? hc]
  rfl

theorem Sound.mem_featuresIn (hc : c.Sound) {project : EntityId} {e : Entity} :
    e ∈ c.featuresIn project ↔ ∃ stored, c.stored? e.guid = some stored ∧ stored.entity = e ∧
      stored.project = project ∧ (e.type = .anchorFeature ∨ e.type = .derivedFeature) := by
  rw [featuresIn, List.mem_filter, List.mem_map, decide_eq_true_iff]
  constructor
  · rintro ⟨⟨stored, hstored, rfl⟩, htype⟩
    obtain ⟨hvalue, hproject⟩ := List.mem_filter.1 hstored
    obtain ⟨k, hk⟩ := Dict.mem_values.1 hvalue
    have hguid : stored.entity.guid = ⟨k⟩ := hc.guid hk
    exact ⟨stored, hguid ▸ hk, rfl, by simpa using hproject, htype⟩
  · rintro ⟨stored, hstored, rfl, hproject, htype⟩
    refine ⟨⟨stored, List.mem_filter.2 ⟨Dict.mem_values.2 ⟨_, hstored⟩, ?_⟩, rfl⟩, htype⟩
    simpa using hproject

theorem Sound.enumerates_features (hc : c.Sound) (project : EntityId) :
    c.Enumerates (c.IsFeatureOf project) (c.featuresIn project) := by
  refine ⟨?_, fun id => ?_, fun e he => ?_⟩
  · exact hc.nodup_guids.sublist
      ((List.filter_sublist.trans (List.filter_sublist.map _)).map _)
  · rw [List.mem_map]
    constructor
    · rintro ⟨e, he, rfl⟩
      obtain ⟨stored, hstored, rfl, hproject, htype⟩ := hc.mem_featuresIn.1 he
      exact htype.imp (fun ht => ⟨stored, hstored, hproject, ht⟩)
        fun ht => ⟨stored, hstored, hproject, ht⟩
    · intro hfeature
      have hlisted : ∀ {type}, c.Has project type id → type = .anchorFeature ∨
          type = .derivedFeature → ∃ e ∈ c.featuresIn project, e.guid = id := by
        rintro _ ⟨stored, hstored, hproject, rfl⟩ htype
        obtain rfl := hc.guid hstored
        exact ⟨_, hc.mem_featuresIn.2 ⟨stored, hstored, rfl, hproject, htype⟩, rfl⟩
      exact hfeature.elim (hlisted · (.inl rfl)) (hlisted · (.inr rfl))
  · obtain ⟨stored, hstored, hentity, -⟩ := hc.mem_featuresIn.1 he
    exact ⟨stored, hstored, hentity⟩

/-! ### Dependents -/

/-- The entity `other` depends on `id` directly: `id` contains it, or its bag names `id` as its
source or as one of its inputs. -/
def IsDependent (c : Contents) (id other : EntityId) : Prop :=
  c.Holds id other ∨ c.Consumes other id

/-- Nothing consumes what contains it: anchors and derived features are contained in projects, which
nothing consumes. -/
theorem Sound.not_holds_of_consumes (hc : c.Sound) {id other : EntityId}
    (h : c.Consumes other id) : ¬c.Holds id other := by
  intro hholds
  obtain ⟨owner, stored, howner, hstored, htype, -⟩ := hc.held hholds
  obtain ⟨stored', hstored', hreads⟩ := h
  obtain rfl := Option.some.inj (hstored.symm.trans hstored')
  obtain ⟨owner', howner', -, hne⟩ := (hc.linked hstored).has hreads
  obtain rfl := Option.some.inj (howner.symm.trans howner')
  refine hne (htype.trans ?_)
  unfold Entity.Reads at hreads
  cases hother : stored.entity.type with
  | anchor | derivedFeature => rfl
  | project | source | anchorFeature => rw [hother] at hreads; exact hreads.elim

/-- The relations from an entity to those that depend on it. -/
def downstream (c : Contents) (id : EntityId) : List Relation :=
  c.relations.filter fun r => r.source = id ∧ (r.type = .contains ∨ r.type = .produces)

theorem Sound.mem_downstream (hc : c.Sound) {id : EntityId} {r : Relation} :
    r ∈ c.downstream id ↔ r = ⟨id, r.target, .contains⟩ ∧ c.Holds id r.target ∨
      r = ⟨id, r.target, .produces⟩ ∧ c.Consumes r.target id := by
  obtain ⟨source, target, type⟩ := r
  rw [← hc.contains, ← hc.consumes, ← hc.produces, downstream, List.mem_filter, decide_eq_true_iff]
  constructor
  · rintro ⟨hmem, rfl, rfl | rfl⟩
    · exact .inl ⟨rfl, hmem⟩
    · exact .inr ⟨rfl, hmem⟩
  · rintro (⟨⟨⟩, hmem⟩ | ⟨⟨⟩, hmem⟩)
    · exact ⟨hmem, rfl, .inl rfl⟩
    · exact ⟨hmem, rfl, .inr rfl⟩

/-- No two relations lead from an entity to the same dependent. -/
theorem Sound.nodup_downstream (hc : c.Sound) (id : EntityId) :
    ((c.downstream id).map (·.target)).Nodup := by
  refine List.Nodup.map_on (fun r hr r' hr' htarget => ?_) (hc.nodup.filter _)
  rcases hc.mem_downstream.1 hr with ⟨hr, hholds⟩ | ⟨hr, hconsumes⟩ <;>
    rcases hc.mem_downstream.1 hr' with ⟨hr', hholds'⟩ | ⟨hr', hconsumes'⟩
  · rw [hr, hr', htarget]
  · exact absurd (htarget ▸ hholds) (hc.not_holds_of_consumes hconsumes')
  · exact absurd (htarget ▸ hholds') (hc.not_holds_of_consumes hconsumes)
  · rw [hr, hr', htarget]

theorem Sound.enumerates_dependents (hc : c.Sound) (id : EntityId) :
    c.Enumerates (c.IsDependent id) (c.dependents id) := by
  have hstored : ∀ r ∈ c.downstream id, ∃ stored, c.stored? r.target = some stored ∧
      c.entity? r.target = some stored.entity ∧ stored.entity.guid = r.target := by
    intro r hr
    obtain ⟨-, stored, -, hstored, -⟩ := hc.ends_of_mem (List.mem_of_mem_filter hr)
    exact ⟨stored, hstored, by rw [entity?_eq, hstored]; rfl, hc.guid hstored⟩
  have hguids : (c.dependents id).map (·.guid) = (c.downstream id).map (·.target) := by
    rw [dependents, List.map_filterMap, ← List.filterMap_eq_map]
    refine List.filterMap_congr fun r hr => ?_
    obtain ⟨stored, -, hentity, hguid⟩ := hstored r hr
    rw [hentity, Option.map_some, hguid]
    rfl
  refine ⟨?_, fun other => ?_, fun e he => ?_⟩
  · rw [hguids]
    exact hc.nodup_downstream id
  · rw [hguids, List.mem_map]
    constructor
    · rintro ⟨r, hr, rfl⟩
      exact (hc.mem_downstream.1 hr).imp And.right And.right
    · rintro (hholds | hconsumes)
      · exact ⟨⟨id, other, .contains⟩, hc.mem_downstream.2 (.inl ⟨rfl, hholds⟩), rfl⟩
      · exact ⟨⟨id, other, .produces⟩, hc.mem_downstream.2 (.inr ⟨rfl, hconsumes⟩), rfl⟩
  · obtain ⟨r, hr, hentity⟩ := List.mem_filterMap.1 he
    obtain ⟨stored, hstored, hentity', hguid⟩ := hstored r hr
    obtain rfl := Option.some.inj (hentity'.symm.trans hentity)
    exact ⟨stored, hguid ▸ hstored, rfl⟩

end Contents

namespace Store

variable {entropy : Entropy} {s : Store} {client : Client Store}

/-- An authorised client that lists the features of a project, or what depends on an entity, gets an
answer, whatever calls the registry has come by. The features of the project, anchored and derived,
have one row each. So have the entities that the entity contains and those that consume it, however
often their bags name it. -/
theorem Reachable.listings_are_exact (h : Reachable entropy s)
    (hsession : client.session = Store.session entropy)
    (hauthorized : s.isAuthorized (client.headers s) = true) :
    (∀ project name, s.contents.IsProject project name →
      ∃ rows, client.listFeatures name s = (.ok rows, s) ∧
        s.contents.IsListing (s.contents.IsFeatureOf project) rows) ∧
    ∀ id stored qualifiedName, s.contents.stored? id = some stored →
      stored.entity.qualifiedName? = some qualifiedName →
      ∃ rows, client.listDependents qualifiedName s = (.ok rows, s) ∧
        s.contents.IsListing (s.contents.IsDependent id) rows := by
  have hread : ∀ path, client.session.read path (client.headers s) s =
      (s.read path (client.headers s), s) := by
    intro path
    rw [hsession]
    rfl
  constructor
  · intro project name hproject
    obtain ⟨rows, hrows, hlisting⟩ :=
      (h.sound.enumerates_features project).isListing h.sound h.named name
    refine ⟨rows, ?_, hlisting⟩
    simp only [Client.listFeatures, Client.read, hread, read, hauthorized, if_true,
      h.sound.features_eq hproject]
    exact congrArg (·, s) hrows
  · intro id stored qualifiedName hstored hq
    obtain rfl := h.sound.guid hstored
    obtain ⟨rows, hrows, hlisting⟩ :=
      (h.sound.enumerates_dependents stored.entity.guid).isListing h.sound h.named qualifiedName
    refine ⟨rows, ?_, hlisting⟩
    simp only [Client.listDependents, Client.read, hread, read, hauthorized, if_true,
      h.sound.find?_of_stored hstored hq]
    exact congrArg (·, s) hrows

/-- A registry with one feature, and a feature derived from it that names it twice. -/
def doubled : Store :=
  (oneFeature.create .counting ["projects", (EntityId.ofBits 0).text, "derivedfeatures"]
    (.obj [ ("inputAnchorFeatures", .arr [(EntityId.ofBits 3).reference,
      (EntityId.ofBits 3).reference]), ("name", .str "d") ]) []).2

/-- The derived feature is listed once among the features, and once as a dependent. -/
theorem doubled_listings_are_exact :
    (∃ rows, Client.counting.listFeatures "p" doubled = (.ok rows, doubled) ∧
      rows = [⟨"f__g", .ofBits 3, "p__a__f__g"⟩, ⟨"d", .ofBits 4, "p__d"⟩] ∧
      doubled.contents.IsListing (doubled.contents.IsFeatureOf (.ofBits 0)) rows) ∧
    ∃ rows, Client.counting.listDependents "p__a__f__g" doubled = (.ok rows, doubled) ∧
      rows = [⟨"d", .ofBits 4, "p__d"⟩] ∧
      doubled.contents.IsListing (doubled.contents.IsDependent (.ofBits 3)) rows := by
  have hchecks : oneFeature.drawn = 4 ∧ doubled.drawn ≤ 5 ∧
      (oneFeature.contents.stored? (.ofBits 4)).isNone ∧
      doubled.isAuthorized (Client.counting.headers doubled) = true ∧
      doubled.contents.projectNamed? "p" = some (.ofBits 0) ∧
      (doubled.contents.stored? (.ofBits 3)).any
        (fun stored => stored.entity.qualifiedName? == some "p__a__f__g") = true ∧
      (Client.counting.listFeatures "p" doubled).1.toOption =
        some [⟨"f__g", .ofBits 3, "p__a__f__g"⟩, ⟨"d", .ofBits 4, "p__d"⟩] ∧
      (Client.counting.listDependents "p__a__f__g" doubled).1.toOption =
        some [⟨"d", .ofBits 4, "p__d"⟩] := by
    decide +kernel
  obtain ⟨hcount, hdrawn, hnew, hauthorized, hproject, hfeature, hfeatures, hdependents⟩ := hchecks
  have hreachable : Reachable .counting doubled :=
    reachable_oneFeature.create_counting 4 hcount hdrawn (Option.isNone_iff_eq_none.1 hnew)
  obtain ⟨feature, hstored, hq⟩ := (Option.any_eq_true _ _).1 hfeature
  obtain ⟨hlistFeatures, hlistDependents⟩ := hreachable.listings_are_exact
    (rfl : Client.counting.session = session .counting) hauthorized
  obtain ⟨rows, hrows, hlisting⟩ :=
    hlistFeatures _ _ (Contents.exists_of_projectNamed? hproject)
  obtain ⟨rows', hrows', hlisting'⟩ := hlistDependents _ _ _ hstored (beq_iff_eq.1 hq)
  rw [hrows] at hfeatures
  rw [hrows'] at hdependents
  exact ⟨⟨rows, hrows, Option.some.inj hfeatures, hlisting⟩,
    rows', hrows', Option.some.inj hdependents, hlisting'⟩

end Store

end FeatureCatalog
