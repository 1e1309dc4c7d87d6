import FeatureCatalog.Proofs.Client.Fetchable
import FeatureCatalog.Proofs.Graph.Complaint
import FeatureCatalog.Proofs.Store.Agree

/-! Linking what a registry has accepted. A reference that is read out of a stored bag is one that
the registry has checked and keeps, so linking cannot fail over it. There is one exception: the
registry checks inputs under their own keys only, while a reader of a derived feature takes its keys
in any casing, so that inputs under another spelling of a key are read although nobody has checked
them. -/

namespace FeatureCatalog

/-- The keys under which a derived feature has its inputs. -/
def DerivedFeature.inputKeys : List String := ["inputAnchorFeatures", "inputDerivedFeatures"]

namespace Bag

variable {attrs : Bag}

/-- Whatever a reader may take for inputs is what stands under their own key. -/
def KeepsInputs (attrs : Bag) : Prop :=
  ∀ e ∈ attrs, Text.camelCase e.1 ∈ DerivedFeature.inputKeys →
    Entries.get? (Text.camelCase e.1) attrs = some e.2

/-- A bag in order keeps its inputs if no other key is a spelling of theirs. -/
theorem keepsInputs_of_ordered (hordered : Entries.Ordered attrs)
    (h : ∀ e ∈ attrs, Text.camelCase e.1 ∈ DerivedFeature.inputKeys → Text.camelCase e.1 = e.1) :
    attrs.KeepsInputs := by
  intro e he hkey
  rw [h e he hkey]
  exact hordered.get?_of_mem he

theorem KeepsInputs.camelize (h : attrs.KeepsInputs) {k : String}
    (hk : k ∈ DerivedFeature.inputKeys) {ids : List EntityId} (hids : attrs.Lists k ids) :
    attrs.camelize.Lists k ids := by
  have hkey : ∀ k ∈ DerivedFeature.inputKeys, Text.camelCase k = k ∧ k ≠ "tags" := by
    decide +kernel
  have hvalue : ∀ e ∈ attrs, Text.camelCase e.1 = k →
      e.2 = .arr (ids.map EntityId.reference) := by
    intro e he heq
    exact Option.some.inj ((h e he (heq ▸ hk)).symm.trans (heq ▸ hids))
  have hcamel : (Json.arr (ids.map EntityId.reference)).IsCamel :=
    Json.isCamel_arr fun id _ => id.isCamel_reference
  unfold Lists
  rw [get?_camelize (hkey k hk).1 (hkey k hk).2 hids hvalue, hcamel]

theorem Lists.of_defaulted {k : String} {ids : List EntityId} (hids : attrs.Lists k ids)
    {refs : List EntityRef}
    (h : (Record.defaulted k EntityRef.decoder.list []).ofEntries attrs = .ok refs) :
    refs.map EntityRef.id = ids := by
  have hvalue : Record.valueOf? k [] attrs = some (.arr (ids.map EntityId.reference)) :=
    (Record.valueOf?_eq (.inl rfl) (by simp)).trans hids
  simp only [Record.defaulted, Record.field, hvalue, EntityRef.list_references] at h
  rw [← Except.ok.inj h, EntityRef.map_id_wrapped]

end Bag

/-! ### The references that are read -/

section Readers

variable {entity : String} {attrs : Bag}

/-- An anchor that is read refers to the source and to the features that its bag refers to. -/
theorem Anchor.Detached.refers_of_decode {a : Anchor.Detached} {source : EntityId}
    {ids : List EntityId} (hsource : attrs.Refers "source" source)
    (hids : attrs.Lists "features" ids) (h : Detached.decode entity attrs = .ok a) :
    a.source.id = source ∧ a.features.map EntityRef.id = ids := by
  obtain ⟨hcheck, hread⟩ := Record.ofBag_eq_ok.1 (Record.ofBag_of_read h)
  -- the source goes by two keys, but a bag with both of them would have been refused
  have hvalue : Record.valueOf? "source" ["sourceId"] attrs = some source.reference := by
    refine Record.valueOf?_of_checkEntries
      (f := ⟨"source", ["sourceId"], fun j => (EntityRef.decoder j).map fun _ => ()⟩)
      (fun k hk => ?_) hcheck hsource
    simp only [FieldSpec.goesBy, Bool.or_eq_true, beq_iff_eq, List.contains_iff_mem,
      List.mem_singleton] at hk
    rcases hk with rfl | rfl <;> rfl
  simp only [record, Record.ofEntries_seq_eq_ok, Record.ofEntries_map_eq_ok] at hread
  obtain ⟨_, ⟨_, ⟨_, ⟨name, -, rfl⟩, ref, href, rfl⟩, refs, hrefs, rfl⟩, tags, -, rfl⟩ := hread
  simp only [Record.requiredAs, Record.field, hvalue, EntityRef.decoder_reference] at href
  obtain rfl := Except.ok.inj href
  exact ⟨rfl, hids.of_defaulted hrefs⟩

/-- A derived feature that is read has the inputs that its bag lists, if the bag keeps them. -/
theorem DerivedFeature.Detached.inputs_of_decode {d : DerivedFeature.Detached}
    {anchored derived : List EntityId} (hkeeps : attrs.KeepsInputs)
    (hanchored : attrs.Lists "inputAnchorFeatures" anchored)
    (hderived : attrs.Lists "inputDerivedFeatures" derived)
    (h : Detached.decode entity attrs = .ok d) : d.anchored = anchored ∧ d.derived = derived := by
  obtain ⟨body, -, h⟩ := bind_eq_ok.1 h
  obtain ⟨⟨as, ds⟩, hinputs, h⟩ := bind_eq_ok.1 h
  obtain ⟨transformation, -, h⟩ := bind_eq_ok.1 h
  obtain rfl := return_eq_ok.1 h
  have hread := Record.ofEntries_of_read hinputs
  simp only [inputsRecord, Record.ofEntries_seq_eq_ok, Record.ofEntries_map_eq_ok] at hread
  obtain ⟨_, ⟨as', has, rfl⟩, ds', hds, heq⟩ := hread
  obtain ⟨rfl, rfl⟩ := Prod.mk.inj heq
  exact ⟨(hkeeps.camelize (by decide) hanchored).of_defaulted has,
    (hkeeps.camelize (by decide) hderived).of_defaulted hds⟩

/-- An entity that is read agrees with the part that it is read as. -/
theorem Contents.Linked.agreesWith {c : Contents} {project : EntityId} {e : Entity}
    (hlinked : c.Linked project e)
    (hkeeps : e.type = .derivedFeature → e.attributes.KeepsInputs) {part : Part}
    (h : Part.ofEntity entity e = .ok part) : part.AgreesWith e := by
  unfold Contents.Linked at hlinked
  cases Part.readFrom_of_ofEntity h with
  | project htype => exact .project htype
  | source htype => exact .source htype
  | feature htype => exact .feature htype
  | anchor htype _ ha =>
    rw [htype] at hlinked
    obtain ⟨⟨source, hsource, -⟩, ids, hids, -⟩ := hlinked
    obtain ⟨rfl, rfl⟩ := Anchor.Detached.refers_of_decode hsource hids ha
    exact .anchor htype hsource hids
  | derived htype _ hd =>
    rw [htype] at hlinked
    obtain ⟨⟨anchored, hanchored, -⟩, derived, hderived, -⟩ := hlinked
    obtain ⟨rfl, rfl⟩ :=
      DerivedFeature.Detached.inputs_of_decode (hkeeps htype) hanchored hderived hd
    exact .derived htype hanchored hderived

end Readers

/-! ### Linking -/

namespace Contents

variable {c : Contents} {project : EntityId}

/-- The derived features of the project keep their inputs. -/
def KeepsInputs (c : Contents) (project : EntityId) : Prop :=
  ∀ {id stored}, c.stored? id = some stored → stored.project = project →
    stored.entity.type = .derivedFeature → stored.entity.attributes.KeepsInputs

theorem keepsInputs_of_entries (h : ∀ e ∈ c.entities.entries,
    (e.2.entity.attributes.Pairwise fun a b => a.1 < b.1) ∧ ∀ a ∈ e.2.entity.attributes,
      Text.camelCase a.1 ∈ DerivedFeature.inputKeys → Text.camelCase a.1 = a.1) :
    c.KeepsInputs project := by
  intro id stored hstored _ _
  obtain ⟨hordered, hspelling⟩ := h (id.text, stored) (Dict.mem_entries.2 hstored)
  exact Bag.keepsInputs_of_ordered hordered hspelling

/-- If all entities of a project can be read, they can be linked. -/
theorem Sound.exists_graph (hc : c.Sound) (hkeeps : c.KeepsInputs project) {name : String}
    (hproject : c.projectNamed? name = some project)
    (hread : ∀ {id stored}, c.stored? id = some stored → stored.project = project →
      ∃ part, Part.ofEntity id.text stored.entity = .ok part) :
    ∃ payload graph, c.payload name = .ok payload ∧ Graph.ofPayload payload = .ok graph := by
  -- what stands for an id that is not of the project does not matter
  have hpart : ∀ id, ∃ part : Part, ∀ stored, c.stored? id = some stored →
      stored.project = project → Part.ofEntity id.text stored.entity = .ok part := by
    intro id
    by_cases h : ∃ stored, c.stored? id = some stored ∧ stored.project = project
    · obtain ⟨stored, hstored, hin⟩ := h
      obtain ⟨part, hpart⟩ := hread hstored hin
      refine ⟨part, fun stored' hstored' _ => ?_⟩
      obtain rfl := Option.some.inj (hstored.symm.trans hstored')
      exact hpart
    · exact ⟨.project, fun stored hstored hin => absurd ⟨stored, hstored, hin⟩ h⟩
  choose part hpart using hpart
  have hagrees : c.Agrees project part := by
    intro id stored hstored hin
    exact (hc.linked hstored).agreesWith (hkeeps hstored hin) (hpart id stored hstored hin)
  obtain ⟨payload, hpayload, hgraph⟩ :=
    hc.ofPayload_of_agrees (fun {id stored} => hpart id stored) hagrees hproject
  exact ⟨payload, _, hpayload, hgraph⟩

/-- If a project is not read as a graph, one of its entities cannot be read. -/
theorem Sound.exists_unreadable (hc : c.Sound) (hkeeps : c.KeepsInputs project) {name : String}
    (hproject : c.projectNamed? name = some project) {payload : ProjectPayload}
    (hpayload : c.payload name = .ok payload) {e : CatalogError}
    (h : Graph.ofPayload payload = .error e) :
    ∃ id stored, c.stored? id = some stored ∧ stored.project = project ∧
      Part.ofEntity id.text stored.entity = .error e := by
  have hentities : payload.entities.entries =
      ((c.entities.filter fun _ stored => decide (stored.project = project)).mapValues
        (·.entity)).entries := by
    simp only [Contents.payload, hproject] at hpayload
    obtain rfl := Except.ok.inj hpayload
    rfl
  -- once all entities have been read, linking succeeds, so the error is from before
  rcases bind_eq_error.1 h with hparts | ⟨parts, hparts, -⟩
  · obtain ⟨entry, hentry, hreading⟩ := Parts.exists_of_ofEntities_error hparts
    rw [hentities] at hentry
    obtain ⟨stored, hstored, hin, heq⟩ := mem_payload.1 (show (entry.1, entry.2) ∈ _ from hentry)
    exact ⟨⟨entry.1⟩, stored, hstored, hin, heq ▸ hreading⟩
  · have hread : ∀ {id stored}, c.stored? id = some stored → stored.project = project →
        ∃ part, Part.ofEntity id.text stored.entity = .ok part := by
      intro id stored hstored hin
      exact Parts.exists_of_ofEntities_ok hparts (id.text, stored.entity)
        (hentities ▸ mem_payload.2 ⟨stored, hstored, hin, rfl⟩)
    obtain ⟨payload', graph, hpayload', hgraph⟩ := hc.exists_graph hkeeps hproject hread
    obtain rfl := Except.ok.inj (hpayload.symm.trans hpayload')
    cases h.symm.trans hgraph

end Contents

namespace Store

variable {entropy : Entropy} {s : Store} {project : EntityId}

/-- Linking a project of a registry that calls can lead to never fails over a reference that leads
nowhere or a circle, if its derived features keep their inputs: where its contents cannot be read as
a graph, that is because one of its entities, taken by itself, cannot be read. -/
theorem Reachable.project_links (h : Reachable entropy s) {stored : Stored}
    (hstored : s.contents.stored? project = some stored) (htype : stored.entity.type = .project)
    (hkeeps : s.contents.KeepsInputs project) :
    ∃ name payload, stored.entity.name? = some name ∧ s.contents.payload name = .ok payload ∧
      ∀ e, Graph.ofJson payload.toJson = .error e →
        (∀ missing user, e ≠ .danglingReference missing user) ∧
        (∀ entry, e ≠ .cyclicDependency entry) ∧
        ∃ id member, s.contents.stored? id = some member ∧ member.project = project ∧
          Part.ofEntity id.text member.entity = .error e := by
  obtain ⟨-, name, hname, -⟩ := h.sound.project hstored htype
  have hproject : s.contents.projectNamed? name = some project :=
    Contents.IsProject.projectNamed? ⟨stored, hstored, htype, hname⟩ h.sound
  obtain ⟨payload, hpayload⟩ : ∃ payload, s.contents.payload name = .ok payload := by
    simp only [Contents.payload, hproject]
    exact ⟨_, rfl⟩
  refine ⟨name, payload, hname, hpayload, fun e he => ?_⟩
  rw [Graph.ofJson, ProjectPayload.decoder_toJson] at he
  obtain ⟨id, member, hmember, hin, hreading⟩ :=
    h.sound.exists_unreadable hkeeps hproject hpayload he
  have hcomplaint := Part.onlyComplains_ofEntity id.text member.entity e hreading
  refine ⟨?_, ?_, id, member, hmember, hin, hreading⟩
  · rintro missing user rfl
    cases hcomplaint
  · rintro entry rfl
    cases hcomplaint

/-- The project of a small graph is linked, as each of its entities can be read: among them a
derived feature that consumes a feature. -/
theorem withSmall_project_links : ∃ stored payload g,
    withSmall.contents.stored? (.ofBits 0) = some stored ∧ stored.entity.type = .project ∧
    withSmall.contents.KeepsInputs (.ofBits 0) ∧
    ⟨.ofBits 4, .ofBits 3, .consumes⟩ ∈ withSmall.contents.relations ∧
    withSmall.contents.payload "p" = .ok payload ∧ Graph.ofJson payload.toJson = .ok g := by
  have hwritten : Written .counting withSmall :=
    .register Client.counting .small rfl .empty fresh_withSmall
  have hkeeps : withSmall.contents.KeepsInputs (.ofBits 0) := by
    apply Contents.keepsInputs_of_entries
    rw [withSmall, Client.registerFeatures_small]
    decide +kernel
  have hfound : (withSmall.contents.stored? (.ofBits 0)).map
      (fun stored => (stored.entity.type, stored.entity.name?)) = some (.project, some "p") ∧
      ⟨.ofBits 4, .ofBits 3, .consumes⟩ ∈ withSmall.contents.relations := by
    rw [withSmall, Client.registerFeatures_small]
    decide +kernel
  obtain ⟨stored, hstored, heq⟩ := Option.map_eq_some_iff.1 hfound.1
  obtain ⟨htype, hname⟩ := Prod.mk.inj heq
  obtain ⟨name, payload, hname', hpayload, hlinks⟩ :=
    hwritten.reachable.project_links hstored htype hkeeps
  obtain rfl := Option.some.inj (hname.symm.trans hname')
  cases hgraph : Graph.ofJson payload.toJson with
  | error e =>
    obtain ⟨-, -, id, member, hmember, hin, hunreadable⟩ := hlinks e hgraph
    obtain ⟨part, hshow⟩ := hwritten.sound_and_isOpen.2.readable.exists_shows (.ofBits 0)
    cases ((hshow hmember hin).ofEntity id.text).symm.trans hunreadable
  | ok g => exact ⟨stored, payload, g, hstored, htype, hkeeps, hfound.2, hpayload, hgraph⟩

/-- A registry with one project that has one derived feature, with an input under another spelling
of its key. -/
def misspelled : Store :=
  (oneProject.create .counting ["projects", (EntityId.ofBits 0).text, "derivedfeatures"]
    (.obj [ ("featureType", (FeatureType.scalar .float).toJson),
      ("input_anchor_features", .arr [.str "f"]), ("name", .str "d") ]) []).2

/-- That input is not checked, but it is read, so the project cannot be linked. -/
theorem misspelled_input_is_overlooked : Reachable .counting misspelled ∧
    ∃ payload, misspelled.contents.payload "p" = .ok payload ∧
      Graph.ofJson payload.toJson = .error (.danglingReference ⟨"f"⟩ (.ofBits 1)) := by
  have hreachable : Reachable .counting misspelled :=
    reachable_oneProject.create_counting 1 (by decide +kernel) (by decide +kernel)
      (by decide +kernel)
  have hcheck : (match misspelled.contents.payload "p" with
    | .ok payload =>
      match Graph.ofJson payload.toJson with
      | .error e => e == .danglingReference ⟨"f"⟩ (.ofBits 1)
      | .ok _ => false
    | .error _ => false) = true := by
    decide +kernel
  split at hcheck
  · rename_i payload hpayload
    split at hcheck
    · rename_i e hlink
      exact ⟨hreachable, payload, hpayload, beq_iff_eq.1 hcheck ▸ hlink⟩
    · cases hcheck
  · cases hcheck

end Store

end FeatureCatalog
