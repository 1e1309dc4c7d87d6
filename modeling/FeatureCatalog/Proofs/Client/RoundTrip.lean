import FeatureCatalog.Proofs.Client.Fetchable
import FeatureCatalog.Proofs.Graph.Renumber
import FeatureCatalog.Proofs.Registration.Recorded
import FeatureCatalog.Proofs.Store.Reachable

/-! What has been registered is what is fetched: a registration into a new project, and the fetch of
that project, lead back to the graph, up to the choice of keys. -/

namespace FeatureCatalog

namespace Task

variable {α κ : Type} {g : Graph} {tasks : List Task}

theorem slot_eq_source {task : Task} {k : SourceKey} :
    task.slot = .source k ↔ task = .source k := by
  cases task <;> simp [slot]

theorem slot_eq_anchor {task : Task} {k : AnchorKey} :
    task.slot = .anchor k ↔ task = .anchor k := by
  cases task <;> simp [slot]

theorem slot_eq_feature {task : Task} {k : FeatureKey} :
    task.slot = .feature ⟨0⟩ k ↔ ∃ owner, task = .feature owner k := by
  cases task <;> simp [slot]

theorem slot_eq_derived {task : Task} {k : DerivedKey} :
    task.slot = .derived k ↔ task = .derived k := by
  cases task <;> simp [slot]

theorem entityId_slot (task : Task) (g : Graph) : task.slot.entityId g = task.entityId g := by
  unfold entityId
  rw [registration?_slot]

/-- The entities of one kind are those of the tasks that `toTask` makes of keys. -/
structure Picks (g : Graph) (tasks : List Task) (kind? : Part → Option α) (toTask : κ → Task) :
    Prop where
  project : kind? .project = none
  isSome : ∀ task : Task, (kind? (task.part g tasks)).isSome ↔ ∃ k, task.slot = toTask k
  injective : Function.Injective toTask

theorem picks_source : Picks g tasks Part.source? Task.source where
  project := rfl
  isSome task := by
    simp only [slot_eq_source]
    cases task <;> simp [part, Part.source?]
  injective _ _ := Task.source.inj

theorem picks_anchor : Picks g tasks Part.anchor? Task.anchor where
  project := rfl
  isSome task := by
    simp only [slot_eq_anchor]
    cases task <;> simp [part, Part.anchor?]
  injective _ _ := Task.anchor.inj

theorem picks_feature : Picks g tasks Part.feature? (Task.feature ⟨0⟩) where
  project := rfl
  isSome task := by
    simp only [slot_eq_feature]
    cases task <;> simp [part, Part.feature?]
  injective _ _ heq := (Task.feature.inj heq).2

theorem picks_derived : Picks g tasks Part.derived? Task.derived where
  project := rfl
  isSome task := by
    simp only [slot_eq_derived]
    cases task <;> simp [part, Part.derived?]
  injective _ _ := Task.derived.inj

end Task

namespace Registrar

/-- What the entity with the given id is read as once the tasks have been performed. -/
def partOf (g : Graph) (tasks : List Task) (id : EntityId) : Part :=
  match tasks.find? fun task => decide (task.entityId g = id) with
  | some task => task.part g tasks
  | none => .project

/-- The parts of the project once the tasks have been performed. -/
def partsOf (g : Graph) (tasks : List Task) (projectId : EntityId) (c : Contents) : Parts :=
  c.parts (partOf g tasks) projectId

/-- The keys that entities have in what is fetched: the places of their ids. -/
def renumbering (g : Graph) (parts : Parts) : Renumbering where
  source k := ⟨parts.place Part.source? ((Task.source k).entityId g)⟩
  anchor k := ⟨parts.place Part.anchor? ((Task.anchor k).entityId g)⟩
  feature k := ⟨parts.place Part.feature? ((Task.feature ⟨0⟩ k).entityId g)⟩
  derived k := ⟨parts.place Part.derived? ((Task.derived k).entityId g)⟩

theorem distinct_partsOf (g : Graph) (tasks : List Task) (projectId : EntityId) (c : Contents) :
    (partsOf g tasks projectId c).Distinct :=
  c.distinct_parts _ _

/-- A part that is not the project is that of a task. -/
theorem exists_task {projectId : EntityId} {g : Graph} {tasks : List Task} {c : Contents}
    {id : String} {part : Part}
    (hmem : (id, part) ∈ partsOf g tasks projectId c) (hpart : part ≠ .project) :
    ∃ task ∈ tasks, (task.entityId g).text = id ∧ part = task.part g tasks := by
  obtain ⟨s, -, -, rfl⟩ := Contents.mem_parts.1 hmem
  unfold partOf at hpart ⊢
  split at hpart
  · rename_i task hfind
    have hid : task.entityId g = ⟨id⟩ := by simpa using List.find?_some hfind
    exact ⟨task, List.mem_of_find?_eq_some hfind, congrArg EntityId.text hid, rfl⟩
  · exact absurd rfl hpart

namespace Recorded

variable {project : String} {projectId : EntityId} {g g' : Graph} {tasks : List Task}
  {c : Contents} (h : Recorded project projectId g' tasks g c)
include h

/-! ### The parts of the project -/

theorem partOf_entityId {task : Task} (htask : task ∈ tasks) :
    partOf g' tasks (task.entityId g') = task.part g' tasks := by
  unfold partOf
  split
  · rename_i other hfind
    have hid : other.entityId g' = task.entityId g' := by simpa using List.find?_some hfind
    rw [h.injective other (List.mem_of_find?_eq_some hfind) task htask hid]
  · rename_i hfind
    simpa using List.find?_eq_none.1 hfind task htask

/-- The project and the entities of the tasks are all that is read of the project. -/
theorem shows : c.Shows projectId (partOf g' tasks) := by
  intro id stored hstored hproject
  rcases h.only hstored hproject with rfl | ⟨task, htask, rfl⟩
  · obtain ⟨s, hs, htype, -⟩ := h.project
    obtain rfl := Option.some.inj (hs.symm.trans hstored)
    unfold partOf
    split
    · rename_i task hfind
      have hid : task.entityId g' = id := by simpa using List.find?_some hfind
      obtain ⟨s', hs', -, hpart⟩ := h.stored task (List.mem_of_find?_eq_some hfind)
      obtain rfl := Option.some.inj ((hid ▸ hs').symm.trans hstored)
      exact hpart
    · exact .project htype
  · obtain ⟨s, hs, -, hpart⟩ := h.stored task htask
    obtain rfl := Option.some.inj (hs.symm.trans hstored)
    rw [h.partOf_entityId htask]
    exact hpart

theorem part_mem {task : Task} (htask : task ∈ tasks) :
    ((task.entityId g').text, task.part g' tasks) ∈ partsOf g' tasks projectId c := by
  obtain ⟨s, hs, hproject, -⟩ := h.stored task htask
  exact Contents.mem_parts.2 ⟨s, hs, hproject, (h.partOf_entityId htask).symm⟩

theorem pick_mem {α : Type} {kind? : Part → Option α} {task : Task} (htask : task ∈ tasks) {a : α}
    (ha : kind? (task.part g' tasks) = some a) :
    ((task.entityId g').text, a) ∈ (partsOf g' tasks projectId c).pick kind? :=
  Parts.mem_pick.2 ⟨_, h.part_mem htask, ha⟩

/-- What is made of the entity of a task stands at the place of its id. -/
theorem getD_place {α β : Type} (kind? : Part → Option α) {task : Task} (htask : task ∈ tasks)
    {a : α} (ha : kind? (task.part g' tasks) = some a) (make : String × α → β) (d : β) :
    (((partsOf g' tasks projectId c).pick kind?).map make).getD
      ((partsOf g' tasks projectId c).place kind? (task.entityId g')) d =
        make ((task.entityId g').text, a) := by
  rw [List.getD_eq_getElem?_getD, List.getElem?_map,
    (Parts.getElem?_place (distinct_partsOf _ _ _ _) (h.pick_mem htask ha)).2]
  rfl

/-- The entities of one kind have new keys, each of them one of its own. -/
theorem bijOn_place {α β κ κ' : Type} {kind? : Part → Option α} {toTask : κ → Task}
    {index : κ' → Nat} {mk : Nat → κ'} (hpicks : Task.Picks g' tasks kind? toTask)
    (hindex : ∀ i, index (mk i) = i) (hmk : ∀ k, mk (index k) = k) (make : String × α → β) :
    Set.BijOn
      (fun k => mk ((partsOf g' tasks projectId c).place kind? ((toTask k).entityId g')))
      {k | ∃ task ∈ tasks, task.slot = toTask k}
      {k | index k < (((partsOf g' tasks projectId c).pick kind?).map make).length} := by
  rw [List.length_map]
  refine Parts.bijOn_place (distinct_partsOf _ _ _ _) hindex hmk ?_ ?_ ?_
  · rintro k ⟨a, ha, hka⟩ l ⟨b, hb, hlb⟩ heq
    dsimp only at heq
    rw [← hka, ← hlb, Task.entityId_slot, Task.entityId_slot] at heq
    obtain rfl := h.injective a ha b hb heq
    exact hpicks.injective (hka.symm.trans hlb)
  · rintro k ⟨task, htask, hk⟩
    obtain ⟨a, ha⟩ := Option.isSome_iff_exists.1 ((hpicks.isSome task).2 ⟨k, hk⟩)
    rw [← hk, Task.entityId_slot]
    exact ⟨a, h.pick_mem htask ha⟩
  · intro e he
    obtain ⟨part, hmem, hpart⟩ := Parts.mem_pick.1 (show (e.1, e.2) ∈ _ from he)
    have hne : part ≠ .project := by
      rintro rfl
      simp [hpicks.project] at hpart
    obtain ⟨task, htask, htext, rfl⟩ := exists_task hmem hne
    obtain ⟨k, hk⟩ := (hpicks.isSome task).1 (Option.isSome_iff_exists.2 ⟨_, hpart⟩)
    refine ⟨k, ⟨task, htask, hk⟩, ?_⟩
    rw [← hk, Task.entityId_slot, htext]

end Recorded

/-! ### The graph -/

/-- Once all tasks of a graph have been performed, the parts of the project make up the graph. -/
theorem Recorded.renumbered {project : String} {projectId : EntityId} {g : Graph}
    {order : List DerivedKey} {c : Contents}
    (h : Recorded project projectId g (g.tasks order) g c)
    (horder : ∀ k, k ∈ order ↔ k.index < g.derived.length)
    (hanchored : ∀ d ∈ g.derived, ∀ k ∈ d.anchoredInputs, k ∈ g.usedFeatures)
    (hderived : ∀ d ∈ g.derived, ∀ k ∈ d.derivedInputs, k ∈ order) (relations : List Relation) :
    g.Renumbered (renumbering g (partsOf g (g.tasks order) projectId c))
      (Graph.ofParts (partsOf g (g.tasks order) projectId c) relations) := by
  have hfeature : ∀ k, k ∈ g.usedFeatures ↔ ∃ owner, .feature owner k ∈ g.tasks order :=
    fun _ => Graph.feature_mem_tasks.symm
  have hsources : g.usedSources = {k | ∃ task ∈ g.tasks order, task.slot = .source k} :=
    Set.ext fun k => by simp [Task.slot_eq_source, Graph.source_mem_tasks]
  have hanchors : {k | k.index < g.anchors.length} =
      {k | ∃ task ∈ g.tasks order, task.slot = .anchor k} :=
    Set.ext fun k => by simp [Task.slot_eq_anchor, Graph.anchor_mem_tasks]
  have hfeatures : g.usedFeatures = {k | ∃ task ∈ g.tasks order, task.slot = .feature ⟨0⟩ k} :=
    Set.ext fun k => by simp [Task.slot_eq_feature, hfeature k]
  have hderiveds : {k | k.index < g.derived.length} =
      {k | ∃ task ∈ g.tasks order, task.slot = .derived k} :=
    Set.ext fun k => by simp [Task.slot_eq_derived, Graph.derived_mem_tasks, horder]
  constructor
  · rw [hsources]
    exact h.bijOn_place Task.picks_source (fun _ => rfl) (fun _ => rfl) _
  · rw [hanchors]
    exact h.bijOn_place Task.picks_anchor (fun _ => rfl) (fun _ => rfl) _
  · rw [hfeatures]
    exact h.bijOn_place Task.picks_feature (fun _ => rfl) (fun _ => rfl) _
  · rw [hderiveds]
    exact h.bijOn_place Task.picks_derived (fun _ => rfl) (fun _ => rfl) _
  · intro k hk
    exact h.getD_place Part.source? (Graph.source_mem_tasks.2 hk) rfl _ _
  · intro k hk
    have hmem : .anchor k ∈ g.tasks order := Graph.anchor_mem_tasks.2 hk
    obtain ⟨r, hr⟩ := Option.isSome_iff_exists.1 (h.registered _ hmem).1
    refine (h.getD_place Part.anchor? hmem rfl _ _).trans ?_
    have hr : (g.anchor k).registration = some r := hr
    simp only [Parts.anchorOf, Anchor.renumber, renumbering, hr, List.map_map,
      Graph.listed_tasks (Graph.mem_anchorKeys.2 hk)]
    rfl
  · intro k hk
    obtain ⟨owner, hmem⟩ := (hfeature k).1 hk
    exact h.getD_place Part.feature? hmem rfl _ _
  · intro k hk
    have hmem : .derived k ∈ g.tasks order := Graph.derived_mem_tasks.2 ((horder k).2 hk)
    refine (h.getD_place Part.derived? hmem rfl _ _).trans ?_
    simp only [Parts.derivedOf, DerivedFeature.renumber, renumbering, List.map_map]
    rfl
  · exact hanchored
  · exact fun d hd k hk => (horder k).1 (hderived d hd k hk)

/-- The entities of a new project are recorded by a registration that does not fail. -/
theorem recorded_of_carryOut {entropy : Entropy} {r : Registrar Store} {g g' : Graph}
    {order : List DerivedKey} {s s' : Store} {summary : RegistrationSummary}
    (hsession : r.session = Store.session entropy) (hs : s.contents.Sound)
    (hnone : s.contents.projectNamed? r.project = none) (hg : g.unregistered = g)
    (hapart : Task.Apart g (g.tasks order)) (hsteady : s.IsSteady r.headers)
    (h : r.carryOut (g.tasks order) g s = (.ok summary, g', s'))
    (hfresh : entropy.Fresh s.contents s.drawn s'.drawn) :
    g'.unregistered = g.unregistered ∧ s'.isAuthorized (r.headers s') = true ∧
      Recorded r.project summary.projectId g' (g'.tasks order) g' s'.contents := by
  obtain ⟨next, q, hcreate, hperform, rfl, rfl⟩ := carryOut_ok h
  have hdrawn : next.drawn ≤ q.state.drawn := drawn_performAll hsession hperform
  have hunregistered := (isDone_of_performAll hsession hperform).2.1.unregistered
  have hproject := recorded_project hsession hs hnone hcreate (hfresh.mono hdrawn) hg hunregistered
  obtain ⟨entity, -, hstore⟩ := (create_eq_ok hsession).1 hcreate
  obtain ⟨-, -, hauthorized, -, -, hkeeps⟩ := Store.create_ok hs hstore
  have hlast : q.state.token = s.token :=
    (keeps_token hsession s.token).of_performAll hperform hkeeps.token
  have hnew := ((Store.Since.refl entropy s).create hs hstore).fresh hfresh
  have hrecorded := hproject.performAll (p := ⟨next, g, 0, 0⟩) hsession
    (hapart.congr hunregistered) hperform rfl hnew
  refine ⟨hunregistered, (hsteady _ hlast).trans hauthorized, ?_⟩
  rw [Graph.tasks_congr hunregistered]
  exact hrecorded

end Registrar

/-- A graph of which nothing was registered, in which no feature is listed twice and the names of
each kind are distinct, is what is fetched of the new project that it is registered in, up to the
choice of keys, with the registrations that have been noted. The client may send other headers with
each call, as long as the registry treats them alike. -/
theorem Store.Reachable.fetchProject_registerFeatures {entropy : Entropy} {s s' : Store}
    (h : Store.Reachable entropy s) {client : Client Store}
    (hsession : client.session = Store.session entropy) {g g' : Graph}
    (hg : g.unregistered = g) (hdistinct : g.Distinct)
    (hnone : s.contents.projectNamed? client.config.project = none)
    (hsteady : s.IsSteady client.headers) {summary : RegistrationSummary}
    (hrun : client.registerFeatures g s = (.ok summary, g', s'))
    (hfresh : entropy.Fresh s.contents s.drawn s'.drawn) :
    ∃ ρ f, client.fetchProject client.config.project s' = (.ok f, s') ∧
      g'.unregistered = g ∧ g'.Renumbered ρ f := by
  obtain ⟨hvalid, tasks, hplan⟩ := Client.plan_of_registerFeatures hrun
  rw [Client.registerFeatures_of_plan hvalid hplan] at hrun
  obtain ⟨order, horder, hinputs, -, rfl⟩ := Graph.plan_eq_ok.1 hplan
  have horder := Graph.isOrder_of_order horder
  obtain ⟨hunregistered, hauthorized, hrecorded⟩ := Registrar.recorded_of_carryOut
    (r := client.registrar) hsession h.sound hnone hg (hdistinct.apart horder.nodup) hsteady hrun
    hfresh
  obtain ⟨relations, hfetch⟩ := Client.fetchProject_eq_ok hsession hauthorized hrecorded.sound
    hrecorded.shows (hrecorded.project.projectNamed? hrecorded.sound)
  have hkeys : ∀ k, k ∈ order ↔ k.index < g'.derived.length := by
    intro k
    rw [← Graph.mem_derivedKeys]
    refine ⟨fun hk => ?_, fun hk => ?_⟩
    · exact Graph.mem_derivedKeys.2
        (Task.isOf_of_registration (hrecorded.registered _ (Graph.derived_mem_tasks.2 hk)).1)
    · exact horder.requested k (Graph.derivedKeys_congr hunregistered ▸ hk)
  refine ⟨_, _, hfetch, hunregistered.trans hg,
    hrecorded.renumbered hkeys (fun d hd k hk => ?_) (fun d hd k hk => ?_) relations⟩
  · obtain ⟨e, he, heq⟩ := Graph.mem_derived_congr hunregistered hd
    have hinput : k ∈ e.anchoredInputs := (congrArg DerivedFeature.anchoredInputs heq :) ▸ hk
    rw [Graph.usedFeatures_congr hunregistered]
    exact (Graph.isResolvable_iff_of_unregistered hg).1 (hinputs e he k hinput)
  · obtain ⟨l, hl, rfl⟩ := Graph.exists_derivedKey hd
    obtain ⟨before, later, hsplit⟩ :=
      List.append_of_mem ((hkeys l).2 (Graph.mem_derivedKeys.1 hl))
    have hinput : k ∈ g.dependencies l := Graph.dependencies_congr hunregistered ▸ hk
    rw [hsplit]
    exact List.mem_append_left _ (horder.after before l later hsplit k hinput)

theorem Graph.distinct_small : Graph.small.Distinct where
  listed := by decide
  sources := by decide
  anchors := by decide
  features := by decide
  derived := by decide

theorem Store.withSmall_fetchProject_registerFeatures : ∃ g' ρ f,
    (Client.counting.registerFeatures .small (.empty none)).2.1 = g' ∧
      Client.counting.fetchProject "p" withSmall = (.ok f, withSmall) ∧
      g'.unregistered = .small ∧ g'.Renumbered ρ f := by
  obtain ⟨summary, g', hrun⟩ := exists_registerFeatures_small
  obtain ⟨ρ, f, h⟩ := Reachable.fetchProject_registerFeatures (.empty none) rfl rfl
    Graph.distinct_small rfl (isSteady_const _ _) hrun fresh_withSmall
  exact ⟨g', ρ, f, by rw [hrun], h⟩

end FeatureCatalog
