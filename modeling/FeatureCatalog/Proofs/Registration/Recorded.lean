import FeatureCatalog.Proofs.Registration.Progress
import FeatureCatalog.Proofs.Registration.Tasks
import FeatureCatalog.Proofs.Store.Agree
import FeatureCatalog.Proofs.Store.Readable

/-! What a registration records of a graph in which nothing was registered: after some of its tasks,
the project has the entities of these tasks and no others, and each of them is read as the entity of
the graph that it was made of, with the ids of the entities that that one refers to. -/

namespace FeatureCatalog

/-! ### Entities apart from their registration -/

theorem Source.eq_of_unregistered {s s' : Source} {r : Registration}
    (h : s'.unregistered = s.unregistered) (hr : s'.registration = some r) :
    s' = { s with registration := some r } := by
  cases s
  cases s'
  simp_all [Source.unregistered]

theorem Feature.eq_of_unregistered {f f' : Feature} {r : Registration}
    (h : f'.unregistered = f.unregistered) (hr : f'.registration = some r) :
    f' = { f with registration := some r } := by
  cases f
  cases f'
  simp_all [Feature.unregistered]

theorem DerivedFeature.eq_of_unregistered {d d' : DerivedFeature} {r : Registration}
    (h : d'.unregistered = d.unregistered) (hr : d'.registration = some r) :
    d' = { d with registration := some r } := by
  cases d
  cases d'
  simp_all [DerivedFeature.unregistered]

/-- `g'` is `g` with more of it registered: what is registered in `g` stays so. -/
structure Graph.Extends (g g' : Graph) : Prop where
  unregistered : g'.unregistered = g.unregistered
  registered : ∀ {task : Task} {r : Registration}, task.registration? g = some r →
    task.registration? g' = some r

namespace Task

variable {g g' : Graph}

theorem registration?_of_unregistered (h : g.unregistered = g) (task : Task) :
    task.registration? g = none := by
  cases task with
  | source k =>
    rw [← h]
    exact congrArg Source.registration (g.source_unregistered k)
  | anchor k =>
    rw [← h]
    exact congrArg Anchor.registration (g.anchor_unregistered k)
  | feature _ k =>
    rw [← h]
    exact congrArg Feature.registration (g.feature_unregistered k)
  | derived k =>
    rw [← h]
    exact congrArg DerivedFeature.registration (g.derivedFeature_unregistered k)

theorem name_congr (h : g'.unregistered = g.unregistered) (task : Task) :
    task.name g' = task.name g := by
  cases task with
  | source k => exact (congrArg Source.name (Graph.source_congr h k) :)
  | anchor k => exact (congrArg Anchor.name (Graph.anchor_congr h k) :)
  | feature _ k => exact (congrArg Feature.name (Graph.feature_congr h k) :)
  | derived k => exact (congrArg DerivedFeature.name (Graph.derivedFeature_congr h k) :)

theorem isOf_congr (h : g'.unregistered = g.unregistered) (task : Task) :
    task.IsOf g' ↔ task.IsOf g := by
  have hsources : g'.sources.length = g.sources.length := by
    simpa [Graph.unregistered] using congrArg (·.sources.length) h
  have hanchors : g'.anchors.length = g.anchors.length := by
    simpa [Graph.unregistered] using congrArg (·.anchors.length) h
  have hfeatures : g'.features.length = g.features.length := by
    simpa [Graph.unregistered] using congrArg (·.features.length) h
  have hderived : g'.derived.length = g.derived.length := by
    simpa [Graph.unregistered] using congrArg (·.derived.length) h
  cases task <;> simp only [IsOf, hsources, hanchors, hfeatures, hderived]

/-- Tasks that are apart stay so when some of them have been performed. -/
theorem Apart.congr (h : g'.unregistered = g.unregistered) {tasks : List Task}
    (hapart : Apart g tasks) : Apart g' tasks where
  nodup := hapart.nodup
  slot := hapart.slot
  clash a ha b hb hof hof' hclash := by
    refine hapart.clash a ha b hb ((isOf_congr h a).1 hof) ((isOf_congr h b).1 hof') ?_
    obtain ⟨htype, hname, hanchor⟩ := hclash
    exact ⟨htype, by rw [← name_congr h a, hname, name_congr h b], hanchor⟩

theorem qualifiedName_congr (h : g'.unregistered = g.unregistered) (project : String)
    (task : Task) : task.qualifiedName project g' = task.qualifiedName project g := by
  have hname := name_congr h task
  cases task with
  | feature owner k =>
    have hanchor : (g'.anchor owner).name = (g.anchor owner).name := name_congr h (.anchor owner)
    have hfeature : (g'.feature k).name = (g.feature k).name := hname
    rw [qualifiedName, qualifiedName, hanchor, hfeature]
  | source | anchor | derived => exact congrArg (FeatureCatalog.qualifiedName project [·]) hname

/-- The id with which the entity is registered. -/
def entityId (g : Graph) (task : Task) : EntityId :=
  ((task.registration? g).map (·.id)).getD ⟨""⟩

theorem listed_append (owner : AnchorKey) (done : List Task) (task : Task) :
    listed owner (done ++ [task]) = listed owner done ++ (task.featureFor? owner).toList := by
  unfold listed
  rw [List.filterMap_append]
  cases h : task.featureFor? owner <;> simp [h]

theorem entityId_of_registration {task : Task} {r : Registration}
    (h : task.registration? g = some r) : task.entityId g = r.id := by
  rw [entityId, h]
  rfl

/-- The id of the entity that contains the one of the task: its anchor, or the project. -/
def ownerId (projectId : EntityId) (g : Graph) (task : Task) : EntityId :=
  match task.anchor? with
  | some k => (Task.anchor k).entityId g
  | none => projectId

/-- What the entity is read as once `done` have been performed. -/
def part (g : Graph) (done : List Task) : Task → Part
  | .source k => .source (g.source k).kept
  | .anchor k =>
    .anchor ((g.anchor k).registration.getD ⟨⟨""⟩, ""⟩)
      { name := (g.anchor k).name
        source := .wrapped ((Task.source (g.anchor k).source).entityId g)
        features := (listed k done).map fun f => .wrapped ((Task.feature k f).entityId g)
        tags := some (g.anchor k).tags }
  | .feature _ k => .feature (g.feature k)
  | .derived k =>
    .derived
      { feature := { g.derivedFeature k with anchoredInputs := [], derivedInputs := [] }
        anchored := (g.derivedFeature k).anchoredInputs.map fun f =>
          (Task.feature ⟨0⟩ f).entityId g
        derived := (g.derivedFeature k).derivedInputs.map fun u => (Task.derived u).entityId g }

theorem part_append_self (g : Graph) (done : List Task) (task : Task) :
    task.part g (done ++ [task]) = task.part g done := by
  cases task with
  | anchor k =>
    rw [part, listed_append]
    simp [part, featureFor?]
  | source | feature | derived => rfl

/-- What an entity is read as does not depend on other tasks than those of features on its list. -/
theorem part_append_of_ne {g : Graph} {done : List Task} {task other : Task}
    (h : ∀ k, task = .anchor k → other.anchor? ≠ some k) :
    task.part g (done ++ [other]) = task.part g done := by
  cases task with
  | anchor k =>
    have hfeature : other.featureFor? k = none := by
      cases other with
      | feature owner f =>
        have hne : owner ≠ k := fun heq => h k rfl (congrArg some heq)
        simp [featureFor?, hne]
      | source | anchor | derived => rfl
    rw [part, listed_append, hfeature]
    simp [part]
  | source | feature | derived => rfl

/-- A feature comes to the end of the list of its anchor. -/
theorem part_append_feature (g : Graph) (done : List Task) (k : AnchorKey) (f : FeatureKey) :
    (Task.anchor k).part g (done ++ [.feature k f]) =
      ((Task.anchor k).part g done).withFeatures
        (((listed k done).map fun f => (Task.feature k f).entityId g) ++
          [(Task.feature k f).entityId g]) := by
  rw [part, listed_append]
  simp [part, Part.withFeatures, featureFor?]

theorem of_part {task : Task} {done : List Task} {e : Entity} (h : (task.part g done).IsIn e) :
    e.type = task.type ∧ e.name? = some (task.name g) := by
  cases task with
  | source k => exact ⟨h.of_source.1, h.of_source.2.trans (congrArg some (Source.name_kept _))⟩
  | anchor k => exact ⟨h.of_anchor.1, h.of_anchor.2.1⟩
  | feature _ k => exact h.of_feature
  | derived k => exact h.of_derived

/-- A task that registers the input. -/
def ofInput : FeatureRef → Task
  | .anchored k => .feature ⟨0⟩ k
  | .derived k => .derived k

theorem registration?_ofInput (g : Graph) (input : FeatureRef) :
    (ofInput input).registration? g = g.inputRegistration? input := by
  cases input <;> rfl

/-- The ids that a request gives for inputs are those with which they are registered. -/
theorem inputIds_eq_ok (hext : g.Extends g') {user : String} {inputs : List FeatureRef}
    {ids : List EntityId} (h : inputIds g user inputs = .ok ids) :
    ids = inputs.map fun input => (ofInput input).entityId g' := by
  induction inputs generalizing ids with
  | nil => exact (Except.ok.inj h).symm
  | cons input rest ih =>
    obtain ⟨id, hid, h⟩ := bind_eq_ok.1 h
    obtain ⟨rest', hrest, h⟩ := bind_eq_ok.1 h
    obtain rfl := return_eq_ok.1 h
    obtain ⟨r, hr, rfl⟩ := idFor_eq_ok.1 hid
    have hregistered := hext.registered ((registration?_ofInput g input).trans hr)
    rw [List.map_cons, ih hrest, entityId_of_registration hregistered]

end Task

namespace Registrar

/-- What holds once the tasks `done` have been performed, where `g` is the graph as it is then, `g'`
the graph at the end, and `c` what the registry stores. -/
structure Recorded (project : String) (projectId : EntityId) (g' : Graph) (done : List Task)
    (g : Graph) (c : Contents) : Prop where
  sound : c.Sound
  project : c.IsProject projectId project
  unregistered : g'.unregistered = g.unregistered
  registered : ∀ task ∈ done, (task.registration? g).isSome ∧
    task.registration? g' = task.registration? g
  blank : ∀ task : Task, (∀ other ∈ done, other.slot ≠ task.slot) → task.registration? g = none
  owned : ∀ {owner k}, .feature owner k ∈ done → .anchor owner ∈ done
  stored : ∀ task ∈ done, ∃ s, c.stored? (task.entityId g') = some s ∧ s.project = projectId ∧
    (task.part g' done).IsIn s.entity
  only : ∀ {id s}, c.stored? id = some s → s.project = projectId →
    id = projectId ∨ ∃ task ∈ done, task.entityId g' = id
  injective : ∀ a ∈ done, ∀ b ∈ done, a.entityId g' = b.entityId g' → a = b

namespace Recorded

variable {project : String} {projectId : EntityId} {g g' : Graph} {done : List Task}
  {c : Contents} (h : Recorded project projectId g' done g c)
include h

/-- What is registered belongs to a task that has been performed. -/
theorem exists_done {task : Task} (hregistered : (task.registration? g).isSome) :
    ∃ other ∈ done, other.slot = task.slot := by
  by_contra hnot
  have hblank := h.blank task fun other hother heq => hnot ⟨other, hother, heq⟩
  simp [hblank] at hregistered

theorem anchor_done {k : AnchorKey} (hregistered : (g.anchor k).registration.isSome) :
    .anchor k ∈ done := by
  obtain ⟨other, hother, hslot⟩ :=
    h.exists_done (show ((Task.anchor k).registration? g).isSome from hregistered)
  cases other with
  | anchor l => exact (show Task.anchor l = Task.anchor k from hslot) ▸ hother
  | source | feature | derived => cases hslot

theorem extendsTo : g.Extends g' where
  unregistered := h.unregistered
  registered {task r} hr := by
    obtain ⟨other, hother, hslot⟩ := h.exists_done (Option.isSome_iff_exists.2 ⟨r, hr⟩)
    have hsame := (h.registered other hother).2
    rw [← Task.registration?_slot other, hslot, Task.registration?_slot,
      ← Task.registration?_slot other g, hslot, Task.registration?_slot] at hsame
    exact hsame.trans hr

/-- What is stored of a performed task is contained in its anchor, or in the project. -/
theorem holds {task : Task} (htask : task ∈ done) :
    c.Holds (task.ownerId projectId g') (task.entityId g') := by
  obtain ⟨s, hs, hproject, hpart⟩ := h.stored task htask
  obtain ⟨htype, -⟩ := Task.of_part hpart
  cases task with
  | feature owner k =>
    obtain ⟨a, ha, -, hanchor⟩ := h.stored _ (h.owned htask)
    obtain ⟨hatype, -, hlists⟩ := hanchor.of_anchor
    refine .listed ⟨a, _, ha, hatype, hlists, ?_⟩
    simp only [List.map_map, List.mem_map, Task.mem_listed]
    exact ⟨k, htask, rfl⟩
  | source | anchor | derived =>
    have hne : s.entity.type ≠ .project ∧ s.entity.type ≠ .anchorFeature := by
      rw [htype]
      exact ⟨nofun, nofun⟩
    exact (show s.project = projectId from hproject) ▸ .member hs hne.1 hne.2

theorem projectName {name : String} (hname : c.projectName projectId = .ok name) :
    name = project :=
  h.project.eq_of_projectName hname

end Recorded

end Registrar

/-! ### One task -/

/-- The definition is one of the entity of the task. -/
structure Task.Defines (project : String) (projectId : EntityId) (g : Graph) (done : List Task)
    (task : Task) (d : Definition) : Prop where
  inProject : d.project = some projectId
  parent : d.parent = some (task.ownerId projectId g)
  anchor : d.anchor = task.anchor?.map fun k => (Task.anchor k).entityId g
  owner : ∀ {k}, task.anchor? = some k → .anchor k ∈ done
  part : ∀ {id}, task.registration? g = some ⟨id, task.qualifiedName project g⟩ →
    (task.part g done).IsIn (d.stored id).entity

namespace Registrar

namespace Recorded

variable {project : String} {projectId : EntityId} {g g' : Graph} {done : List Task}
  {c : Contents} {task : Task} {d : Definition}

section Defines

variable (h : Recorded project projectId g' done g c)
include h

theorem defines_source {k : SourceKey} (hkind : (g.source k).kind.reservedKey? = none)
    (hd : Creation.Describes c (g.source k).bag
      ["projects", projectId.text, "datasources"] d) :
    (Task.source k).Defines project projectId g' done d := by
  obtain ⟨name, hname, -, rfl⟩ := Creation.describes_source hd
  obtain rfl := h.projectName hname
  refine ⟨rfl, rfl, rfl, by rintro _ ⟨⟩, fun {id} hid => ?_⟩
  have hsource := Source.eq_of_unregistered (Graph.source_congr h.unregistered k) hid
  have hpart := Part.isIn_ofSource id projectId name hkind
  rw [Task.part, hsource, Source.kept_registered, Task.qualifiedName_congr h.unregistered]
  exact hpart

/-- An anchor that is new has no features. -/
theorem defines_anchor {k : AnchorKey} (hnew : .anchor k ∉ done) {r : Registration}
    (hr : (g.source (g.anchor k).source).registration = some r)
    (hd : Creation.Describes c (Anchor.bagOf (g.anchor k).name r.id (g.anchor k).tags)
      ["projects", projectId.text, "anchors"] d) :
    (Task.anchor k).Defines project projectId g' done d := by
  obtain ⟨name, hname, -, -, rfl⟩ := Creation.describes_anchor hd
  obtain rfl := h.projectName hname
  refine ⟨rfl, rfl, rfl, by rintro _ ⟨⟩, fun {id} hid => ?_⟩
  have hanchor := Graph.anchor_congr h.unregistered k
  have hlisted : Task.listed k done = [] := by
    refine List.eq_nil_iff_forall_not_mem.2 fun f hf => hnew ?_
    exact h.owned (Task.mem_listed.1 hf)
  have hid' : (g'.anchor k).registration = some ⟨id, Task.qualifiedName name g (.anchor k)⟩ :=
    hid.trans (by rw [Task.qualifiedName_congr h.unregistered])
  have hsource : (Task.source (g'.anchor k).source).entityId g' = r.id := by
    rw [show (g'.anchor k).source = (g.anchor k).source from (congrArg Anchor.source hanchor :)]
    exact Task.entityId_of_registration (h.extendsTo.registered hr)
  have hpart := Part.isIn_ofAnchor id projectId name (g.anchor k).name r.id (g.anchor k).tags
  rw [Task.part, hid', hlisted, hsource,
    show (g'.anchor k).name = (g.anchor k).name from (congrArg Anchor.name hanchor :),
    show (g'.anchor k).tags = (g.anchor k).tags from (congrArg Anchor.tags hanchor :)]
  exact hpart

theorem defines_feature {owner : AnchorKey} {k : FeatureKey} {r : Registration}
    (hr : (g.anchor owner).registration = some r)
    (hd : Creation.Describes c (g.feature k).bag
      ["projects", projectId.text, "anchors", r.id.text, "features"] d) :
    (Task.feature owner k).Defines project projectId g' done d := by
  obtain ⟨name, stored, anchorName, hname, -, hstored, -, -, hanchorName, rfl⟩ :=
    Creation.describes_feature hd
  obtain rfl := h.projectName hname
  have howner : .anchor owner ∈ done := h.anchor_done (Option.isSome_iff_exists.2 ⟨r, hr⟩)
  have hid' : (Task.anchor owner).entityId g' = r.id :=
    Task.entityId_of_registration (h.extendsTo.registered hr)
  obtain ⟨a, ha, -, hpart⟩ := h.stored _ howner
  rw [hid'] at ha
  obtain rfl := Option.some.inj (ha.symm.trans hstored)
  obtain rfl : (g'.anchor owner).name = anchorName :=
    Option.some.inj (hpart.of_anchor.2.1.symm.trans hanchorName)
  refine ⟨rfl, congrArg some hid'.symm, congrArg some hid'.symm, ?_, fun {id} hid => ?_⟩
  · rintro _ ⟨⟩
    exact howner
  · have hfeature := Feature.eq_of_unregistered (Graph.feature_congr h.unregistered k) hid
    have hfeatureName : (g'.feature k).name = (g.feature k).name :=
      (congrArg Feature.name (Graph.feature_congr h.unregistered k) :)
    have hpart := Part.isIn_ofFeature id projectId name r.id (g'.anchor owner).name (g.feature k)
    rw [Task.part, hfeature, Task.qualifiedName, hfeatureName]
    exact hpart

theorem defines_derived {k : DerivedKey} {anchored derived : List EntityId}
    (hanchored : Task.inputIds g (g.derivedFeature k).name
      ((g.derivedFeature k).anchoredInputs.map .anchored) = .ok anchored)
    (hderived : Task.inputIds g (g.derivedFeature k).name
      ((g.derivedFeature k).derivedInputs.map .derived) = .ok derived)
    (hd : Creation.Describes c ((g.derivedFeature k).bag anchored derived)
      ["projects", projectId.text, "derivedfeatures"] d) :
    (Task.derived k).Defines project projectId g' done d := by
  obtain ⟨name, hname, -, -, -, rfl⟩ := Creation.describes_derived hd
  obtain rfl := h.projectName hname
  refine ⟨rfl, rfl, rfl, by rintro _ ⟨⟩, fun {id} hid => ?_⟩
  have hfeature :=
    DerivedFeature.eq_of_unregistered (Graph.derivedFeature_congr h.unregistered k) hid
  have hanchored' := Task.inputIds_eq_ok h.extendsTo hanchored
  have hderived' := Task.inputIds_eq_ok h.extendsTo hderived
  rw [List.map_map] at hanchored' hderived'
  have hpart := Part.isIn_ofDerived id projectId name (g.derivedFeature k) anchored derived
  rw [Task.part, hfeature, Task.qualifiedName_congr h.unregistered]
  rw [hanchored', hderived'] at hpart ⊢
  exact hpart

/-- The request of a task that has not been performed describes its entity, as the graph has it at
the end. -/
theorem defines (hnew : task ∉ done) {request : CreateRequest}
    (hasks : task.Asks g projectId request)
    (hd : Creation.Describes c request.body request.path d) :
    task.Defines project projectId g' done d := by
  cases hasks with
  | source hkind => exact h.defines_source hkind hd
  | anchor hr => exact h.defines_anchor hnew hr hd
  | feature hr => exact h.defines_feature hr hd
  | derived hanchored hderived => exact h.defines_derived hanchored hderived hd

end Defines

/-- No entity of the project is known by the name of a task that has not been performed. -/
theorem not_knows (h : Recorded project projectId g' done g c)
    (hdefines : task.Defines project projectId g' done d) (hfits : d.Fits c)
    (hclash : ∀ other ∈ done, ¬other.Clash g' task) {e : Entity}
    (hid : task.registration? g' = some ⟨e.guid, task.qualifiedName project g'⟩) :
    ¬c.Knows d e := by
  intro hknows
  obtain ⟨htype, hname⟩ := Task.of_part (hdefines.part hid)
  obtain ⟨stored, hstored, rfl, hholds⟩ :=
    h.sound.holds_of_knows hfits hknows hdefines.parent
  have hetype : stored.entity.type = task.type := hknows.type.trans htype
  have hename : stored.entity.name? = some (task.name g') :=
    (Bag.text?_of_sameDefinition hknows.same (by decide)).trans hname
  have hproject : stored.project = projectId := by
    obtain ⟨owner, stored', howner, hstored', -, -, hsame, -⟩ := h.sound.held hholds
    obtain rfl := Option.some.inj (hstored.symm.trans hstored')
    cases hfits.placed with
    | project _ _ hparent => exact absurd (hparent.symm.trans hdefines.parent) (by simp)
    | owned howner' _ _ hin hparent =>
      obtain rfl := Option.some.inj (hparent.symm.trans hdefines.parent)
      obtain rfl := Option.some.inj (howner.symm.trans howner')
      exact hsame.symm.trans (Option.some.inj (hin.symm.trans hdefines.inProject))
  rcases h.only hstored hproject with hid' | ⟨other, hother, hid'⟩
  · obtain ⟨p, hp, hptype, -⟩ := h.project
    obtain rfl := Option.some.inj ((hid' ▸ hstored).symm.trans hp)
    rw [hptype] at hetype
    cases task <;> cases hetype
  · obtain ⟨s, hs, -, hpart⟩ := h.stored other hother
    rw [hid'] at hs
    obtain rfl := Option.some.inj (hs.symm.trans hstored)
    obtain ⟨hotype, honame⟩ := Task.of_part hpart
    have howner := h.sound.holds_unique (hid' ▸ h.holds hother) hholds
    have hsametype : other.type = task.type := hotype.symm.trans hetype
    refine hclash other hother ⟨hsametype, Option.some.inj (honame.symm.trans hename), ?_⟩
    cases other with
    | feature k f =>
      cases task with
      | feature l f' =>
        exact congrArg some (Task.anchor.inj
          (h.injective _ (h.owned hother) _ (hdefines.owner rfl) howner))
      | source | anchor | derived => cases hsametype
    | source | anchor | derived => cases task <;> first | rfl | cases hsametype

/-- What was recorded before is read as it was, but that a feature is on the list of its anchor. -/
theorem stored_add (h : Recorded project projectId g' done g c)
    (hdefines : task.Defines project projectId g' done d) (hfits : d.Fits c) {id : EntityId}
    (hfresh : c.stored? id = none) (hold : ∀ other ∈ done, other.entityId g' ≠ id)
    (hentity : task.entityId g' = id) {other : Task} (hother : other ∈ done) :
    ∃ s, (c.add d id).stored? (other.entityId g') = some s ∧ s.project = projectId ∧
      (other.part g' (done ++ [task])).IsIn s.entity := by
  obtain ⟨s, hs, hproject, hpart⟩ := h.stored other hother
  rw [Contents.stored?_add_ne hfits hfresh (hold other hother), hs, hdefines.anchor]
  by_cases hlists : ∃ k f, other = .anchor k ∧ task = .feature k f
  · obtain ⟨k, f, rfl, rfl⟩ := hlists
    obtain ⟨htype, -, hids⟩ := hpart.of_anchor
    have hanchor : (Task.feature k f).anchor?.map (fun k => (Task.anchor k).entityId g') =
        some ((Task.anchor k).entityId g') := rfl
    rw [if_pos hanchor]
    refine ⟨_, rfl, hproject, ?_⟩
    rw [Task.part_append_feature, hentity]
    refine hpart.withFeature htype (by simpa [EntityRef.id, Function.comp_def] using hids) ?_
    intro hmem
    obtain ⟨f', hf', heq⟩ := List.mem_map.1 hmem
    exact hold _ (Task.mem_listed.1 hf') heq
  · have hne : task.anchor?.map (fun k => (Task.anchor k).entityId g') ≠
        some (other.entityId g') := by
      intro heq
      obtain ⟨k, hk, hkid⟩ := Option.map_eq_some_iff.1 heq
      refine hlists ⟨k, ?_⟩
      cases task with
      | feature l f =>
        obtain rfl := Option.some.inj hk
        exact ⟨f, (h.injective _ (hdefines.owner rfl) _ hother hkid).symm, rfl⟩
      | source | anchor | derived => cases hk
    rw [if_neg hne]
    refine ⟨s, rfl, hproject, ?_⟩
    rw [Task.part_append_of_ne]
    · exact hpart
    · rintro k rfl hk
      refine hne ?_
      rw [hk]
      rfl

/-- A task that is performed adds its entity to those that have been recorded. -/
theorem add (h : Recorded project projectId g' done g c)
    (hdefines : task.Defines project projectId g' done d) (hfits : d.Fits c)
    (hnone : c.find? d.qualifiedName = none) {id : EntityId} (hfresh : c.stored? id = none)
    (hof : task.IsOf g) (hnew : ∀ other ∈ done, other.slot ≠ task.slot)
    (hid : task.registration? g' = some ⟨id, task.qualifiedName project g'⟩) :
    Recorded project projectId g' (done ++ [task])
      (task.register g ⟨id, task.qualifiedName project g⟩) (c.add d id) := by
  have hentity : task.entityId g' = id := Task.entityId_of_registration hid
  have hold : ∀ other ∈ done, other.entityId g' ≠ id := by
    intro other hother heq
    obtain ⟨s, hs, -⟩ := h.stored other hother
    simp [heq, hfresh] at hs
  constructor
  · exact h.sound.add hfits hfresh hnone
  · exact Contents.Stays.isProject (Contents.stays_add hfits hfresh) h.project
  · rw [Task.unregistered_register]
    exact h.unregistered
  · intro other hother
    rcases List.mem_append.1 hother with hother | hother
    · rw [Task.registration?_register_ne (hnew other hother).symm]
      exact h.registered other hother
    · obtain rfl := List.mem_singleton.1 hother
      rw [Task.registration?_register_self hof, hid, Task.qualifiedName_congr h.unregistered]
      exact ⟨rfl, rfl⟩
  · intro other hother
    rw [Task.registration?_register_ne (hother task (by simp))]
    exact h.blank other fun t ht => hother t (List.mem_append_left _ ht)
  · intro owner k hk
    rcases List.mem_append.1 hk with hk | hk
    · exact List.mem_append_left _ (h.owned hk)
    · obtain rfl := List.mem_singleton.1 hk
      exact List.mem_append_left _ (hdefines.owner rfl)
  · intro other hother
    rcases List.mem_append.1 hother with hother | hother
    · exact h.stored_add hdefines hfits hfresh hold hentity hother
    · obtain rfl := List.mem_singleton.1 hother
      rw [hentity, Task.part_append_self]
      refine ⟨_, Contents.stored?_add_self hfits hfresh, ?_, hdefines.part hid⟩
      change d.project.getD id = projectId
      rw [hdefines.inProject]
      rfl
  · intro j s hs hproject
    obtain ⟨rfl, -⟩ | ⟨stored, -, hstored, hlike, -⟩ := Contents.add_cases hfits hfresh hs
    · exact .inr ⟨task, by simp, hentity⟩
    · refine (h.only hstored (hlike.project.symm.trans hproject)).imp_right ?_
      rintro ⟨other, hother, hid⟩
      exact ⟨other, List.mem_append_left _ hother, hid⟩
  · simp only [List.mem_append, List.mem_singleton]
    rintro a (ha | rfl) b (hb | rfl) heq
    · exact h.injective a ha b hb heq
    · exact absurd (heq.trans hentity) (hold a ha)
    · exact absurd (heq.symm.trans hentity) (hold b hb)
    · rfl

end Recorded

/-! ### Runs -/

variable {entropy : Entropy} {r : Registrar Store} {projectId : EntityId} {g g' : Graph}
  {task : Task} {done tasks : List Task} {p p' : Progress Store}

theorem registration?_performAll (hother : ∀ other ∈ tasks, other.slot ≠ task.slot)
    (h : r.performAll projectId tasks p = (.ok (), p')) :
    task.registration? p'.graph = task.registration? p.graph := by
  induction tasks generalizing p with
  | nil => rw [← (Prod.mk.inj h).2]
  | cons other rest ih =>
    obtain ⟨hne, hrest⟩ := List.forall_mem_cons.1 hother
    rw [Registrar.performAll] at h
    split at h
    · rename_i q hperform
      refine (ih hrest h).trans ?_
      rcases perform_ok hperform with ⟨-, rfl⟩ | ⟨-, request, id, -, -, hgraph⟩
      · rfl
      · rw [hgraph]
        exact Task.registration?_register_ne hne _
    · simp at h

namespace Recorded

theorem perform (hsession : r.session = Store.session entropy)
    (h : Recorded r.project projectId g' done p.graph p.state.contents)
    (hslot : ∀ other ∈ done, other.slot ≠ task.slot)
    (hclash : ∀ other ∈ done, other.IsOf g' → task.IsOf g' → ¬other.Clash g' task)
    (hperform : r.perform projectId task p = (.ok (), p'))
    (hfinal : task.registration? g' = task.registration? p'.graph)
    (hfresh : entropy.Fresh p.state.contents p.state.drawn p'.state.drawn) :
    Recorded r.project projectId g' (done ++ [task]) p'.graph p'.state.contents := by
  have hnew : task ∉ done := fun hmem => hslot task hmem rfl
  rcases perform_ok hperform with ⟨hdone, -⟩ | ⟨-, request, id, hrequest, hcreate, hgraph⟩
  · rw [Task.isDone_of_blank (h.blank task hslot)] at hdone
    cases hdone
  · have hof := isOf_of_create hsession hrequest hcreate
    have hasks := Task.asks_of_request hrequest
    have hid : task.registration? g' = some ⟨id, task.qualifiedName r.project g'⟩ := by
      rw [hfinal, hgraph, Task.registration?_register_self hof,
        Task.qualifiedName_congr h.unregistered]
    have hof' : ∀ {other : Task}, other ∈ done → other.IsOf g' := by
      intro other hother
      refine Task.isOf_of_registration ?_
      rw [(h.registered other hother).2]
      exact (h.registered other hother).1
    have htask : task.IsOf g' :=
      Task.isOf_of_registration (Option.isSome_iff_exists.2 ⟨_, hid⟩)
    obtain ⟨entity, rfl, hstore⟩ := (create_eq_ok hsession).1 hcreate
    have hcreates := Store.creates_of_create h.sound hstore
    rw [hgraph]
    generalize entity.guid = id at hid hcreates
    generalize p'.state.contents = c' at hcreates
    generalize p'.state.drawn = n' at hcreates hfresh
    cases hcreates with
    | found hfinds => exact absurd hfinds.1 (Task.path_ne_projects hasks)
    | known hd hknows =>
      exact absurd hknows (h.not_knows (h.defines hnew hasks hd) (h.sound.fits hd)
        (fun other hother => hclash other hother (hof' hother) htask) hid)
    | added hd hnone hbits =>
      exact h.add (h.defines hnew hasks hd) (h.sound.fits hd) hnone (hfresh.next hbits) hof hslot hid

/-- Tasks that are apart are recorded one after another. -/
theorem performAll (hsession : r.session = Store.session entropy)
    (h : Recorded r.project projectId g' done p.graph p.state.contents)
    (hapart : Task.Apart g' (done ++ tasks))
    (hperform : r.performAll projectId tasks p = (.ok (), p')) (hg : p'.graph = g')
    (hfresh : entropy.Fresh p.state.contents p.state.drawn p'.state.drawn) :
    Recorded r.project projectId g' (done ++ tasks) p'.graph p'.state.contents := by
  induction tasks generalizing done p with
  | nil =>
    obtain rfl := (Prod.mk.inj hperform).2
    rwa [List.append_nil]
  | cons task rest ih =>
    rw [Registrar.performAll] at hperform
    split at hperform
    · rename_i q hq
      have hsplit : done ++ task :: rest = done ++ [task] ++ rest := by simp
      have hstep : q.state.drawn ≤ p'.state.drawn := drawn_performAll hsession hperform
      have hmem : task ∈ done ++ task :: rest := by simp
      have hne : ∀ other ∈ done, other ≠ task := by
        rintro other hother rfl
        exact (List.nodup_append.1 hapart.nodup).2.2 other hother other (by simp) rfl
      have hafter : ∀ other ∈ rest, other.slot ≠ task.slot := by
        intro other hother hslot
        obtain rfl := hapart.slot other (by simp [hother]) task hmem hslot
        exact (List.nodup_cons.1 (List.nodup_append.1 hapart.nodup).2.1).1 hother
      have hrecorded := h.perform hsession
        (fun other hother hslot =>
          hne other hother (hapart.slot other (by simp [hother]) task hmem hslot))
        (fun other hother hof hof' hclash =>
          hne other hother (hapart.clash other (by simp [hother]) task hmem hof hof' hclash))
        hq (hg ▸ registration?_performAll hafter hperform) (hfresh.mono hstep)
      rw [hsplit] at hapart ⊢
      exact ih hrecorded hapart hperform (since_perform hsession h.sound hq |>.fresh hfresh)
    · simp at hperform

end Recorded

/-- A project that is new has no entities but itself. -/
theorem recorded_project (hsession : r.session = Store.session entropy) {s next : Store}
    (hs : s.contents.Sound) (hnone : s.contents.projectNamed? r.project = none)
    (hcreate : r.create r.project r.projectRequest s = (.ok projectId, next))
    (hfresh : entropy.Fresh s.contents s.drawn next.drawn) (hg : g.unregistered = g)
    (hg' : g'.unregistered = g.unregistered) :
    Recorded r.project projectId g' [] g next.contents := by
  obtain ⟨entity, rfl, hstore⟩ := (create_eq_ok hsession).1 hcreate
  have hcreates := Store.creates_of_create hs hstore
  have hproject := hcreates.isProject hs hfresh (isNamed_projectRequest hstore)
  have honly : ∀ {id stored}, next.contents.stored? id = some stored →
      stored.project = entity.guid → id = entity.guid := by
    intro id stored hstored hin
    generalize entity.guid = projectId at hcreates hproject hin ⊢
    generalize next.contents = c' at hcreates hproject hstored
    generalize next.drawn = n' at hcreates hfresh
    cases hcreates with
    | found => exact absurd (hproject.projectNamed? hs) (by simp [hnone])
    | known => exact absurd (hproject.projectNamed? hs) (by simp [hnone])
    | added hd _ hbits =>
      have hunused := hfresh.next hbits
      obtain ⟨rfl, -⟩ | ⟨old, -, hold, hlike, -⟩ := Contents.add_cases (hs.fits hd) hunused hstored
      · rfl
      · obtain ⟨owner, howner, -⟩ := hs.has_project hold
        rw [← hlike.project, hin, hunused] at howner
        cases howner
  exact {
    sound := Store.sound_create hs hstore hfresh
    project := hproject
    unregistered := hg'
    registered := nofun
    blank := fun task _ => Task.registration?_of_unregistered hg task
    owned := nofun
    stored := nofun
    only := fun hstored hin => .inl (honly hstored hin)
    injective := nofun }

end Registrar

end FeatureCatalog
