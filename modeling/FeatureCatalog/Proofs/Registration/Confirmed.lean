import FeatureCatalog.Proofs.Registration.Growth

/-! What a graph holds to be registered, and what the registry has of it. As long as nothing is
deleted, an entity that is registered is stored under the id that was noted, as an entity of its
kind, with its name and with the qualified name that was noted, wherever runs have stopped. -/

namespace FeatureCatalog

namespace Contents

variable {c c' : Contents} {r : Registration} {type : EntityType} {name : String}

/-- The entity of a registration is there: it is stored under the id that was noted, with the given
type and name and with the qualified name that was noted. -/
def Confirms (c : Contents) (r : Registration) (type : EntityType) (name : String) : Prop :=
  ∃ stored, c.stored? r.id = some stored ∧ stored.entity.guid = r.id ∧
    stored.entity.type = type ∧ stored.entity.name? = some name ∧
    stored.entity.qualifiedName? = some r.qualifiedName

theorem Stays.confirms (h : c.Stays c') (hr : c.Confirms r type name) :
    c'.Confirms r type name := by
  obtain ⟨stored, hstored, hguid, htype, hname, hqualified⟩ := hr
  obtain ⟨stored', hstored', hlike⟩ := h hstored
  exact ⟨stored', hstored', hlike.guid.trans hguid, hlike.type.trans htype,
    hlike.name?.trans hname, hlike.qualifiedName?.trans hqualified⟩

end Contents

theorem Task.type_slot (task : Task) : task.slot.type = task.type := by
  cases task <;> rfl

theorem Task.name_slot (task : Task) (g : Graph) : task.slot.name g = task.name g := by
  cases task <;> rfl

namespace Graph

variable {g g' : Graph} {c c' : Contents} {task : Task}

/-- The registry has all that the graph holds to be registered. -/
def Confirmed (g : Graph) (c : Contents) : Prop :=
  ∀ (task : Task) (r : Registration), task.registration? g = some r →
    c.Confirms r task.type (task.name g)

theorem confirmed_empty (c : Contents) : empty.Confirmed c := by
  intro task r hr
  have hof : task.IsOf empty := Task.isOf_of_registration (Option.isSome_iff_exists.2 ⟨r, hr⟩)
  cases task <;> exact absurd hof (Nat.not_lt_zero _)

namespace Confirmed

theorem stays (h : g.Confirmed c) (hstays : c.Stays c') : g.Confirmed c' :=
  fun task r hr => hstays.confirms (h task r hr)

/-- Noting a registration that the registry confirms. -/
theorem register (h : g.Confirmed c) {r : Registration}
    (hr : c.Confirms r task.type (task.name g)) : (task.register g r).Confirmed c := by
  intro other r' hr'
  rw [Task.name_congr (Task.unregistered_register task g r)]
  by_cases hslot : task.slot = other.slot
  · -- The entity is that of the task, whatever anchor it is registered for.
    rw [← Task.registration?_slot, ← hslot, Task.registration?_slot] at hr'
    have hof : task.IsOf g := by
      rw [← Task.isOf_congr (Task.unregistered_register task g r)]
      exact Task.isOf_of_registration (Option.isSome_iff_exists.2 ⟨r', hr'⟩)
    obtain rfl := Option.some.inj ((Task.registration?_register_self hof r).symm.trans hr')
    rwa [← Task.type_slot other, ← Task.name_slot other, ← hslot, Task.type_slot, Task.name_slot]
  · rw [Task.registration?_register_ne hslot] at hr'
    exact h other r' hr'

end Confirmed

/-! ### Additions -/

/-- What can be added to a graph: an entity that is not registered, or an input of a derived
feature. -/
inductive Adding (g : Graph) : Graph → Prop
  | source (s : Source) : s.registration = none → Adding g (g.addSource s).2
  | anchor (a : Anchor) : a.registration = none → Adding g (g.addAnchor a).2
  | feature (f : Feature) : f.registration = none → Adding g (g.addFeature f).2
  | derived (d : DerivedFeature) : d.registration = none → Adding g (g.addDerived d).2
  | input {g' : Graph} (k : DerivedKey) (input : FeatureRef) :
      g.addInput k input = .ok g' → Adding g g'

namespace Adding

theorem adds (h : g.Adding g') : g.Adds g' := by
  cases h with
  | source _ hs => exact g.adds_addSource hs
  | anchor _ ha => exact g.adds_addAnchor ha
  | feature _ hf => exact g.adds_addFeature hf
  | derived _ hd => exact g.adds_addDerived hd
  | input _ _ hinput => exact adds_addInput hinput

/-- The entities that are there keep their names. -/
theorem name (h : g.Adding g') (hof : task.IsOf g) : task.name g' = task.name g := by
  cases h with
  | source s =>
    cases task with
    | source k => exact congrArg Source.name (List.getD_append g.sources [s] _ _ hof)
    | anchor | feature | derived => rfl
  | anchor a =>
    cases task with
    | anchor k => exact congrArg Anchor.name (anchor_addAnchor g a hof)
    | source | feature | derived => rfl
  | feature f =>
    cases task with
    | feature _ k => exact congrArg Feature.name (List.getD_append g.features [f] _ _ hof)
    | source | anchor | derived => rfl
  | derived d =>
    cases task with
    | derived k => exact congrArg DerivedFeature.name (List.getD_append g.derived [d] _ _ hof)
    | source | anchor | feature => rfl
  | input k input hinput =>
    cases task with
    | derived u =>
      show (g'.derivedFeature u).name = (g.derivedFeature u).name
      rw [derivedFeature_addInput hinput]
      split
      · cases input <;> rfl
      · rfl
    | source | anchor | feature =>
      obtain ⟨-, rfl⟩ := addInput_eq_ok hinput
      rfl

end Adding

theorem Confirmed.adding (h : g.Confirmed c) (hadding : g.Adding g') : g'.Confirmed c := by
  intro task r hr
  rw [hadding.adds.registration task] at hr
  rw [hadding.name (Task.isOf_of_registration (Option.isSome_iff_exists.2 ⟨r, hr⟩))]
  exact h task r hr

end Graph

/-! ### Registrations -/

namespace Task.Asks

variable {g : Graph} {c c' : Contents} {task : Task} {project : String} {projectId : EntityId}
  {request : CreateRequest}

/-- What the registry makes of a request is called as the graph will note it. The registry takes the
names of the project and of the anchor from what it stores, so it has to have them. -/
theorem describes (h : task.Asks g projectId request) (hg : g.Confirmed c)
    (hproject : c.IsProject projectId project) {d : Definition}
    (hd : Creation.Describes c request.body request.path d) :
    d.type = task.type ∧ d.attributes.text? "name" = some (task.name g) ∧
      d.qualifiedName = task.qualifiedName project g := by
  obtain ⟨name, hbody, hname⟩ := hd.isNamed
  obtain rfl := Option.some.inj (h.text?_name.symm.trans hbody.text)
  refine ⟨?_, hname.text, ?_⟩
  all_goals
    cases h with
    | source =>
      obtain ⟨projectName, hprojectName, -, rfl⟩ := Creation.describes_source hd
      obtain rfl := hproject.eq_of_projectName hprojectName
      rfl
    | anchor =>
      obtain ⟨projectName, hprojectName, -, -, rfl⟩ := Creation.describes_anchor hd
      obtain rfl := hproject.eq_of_projectName hprojectName
      rfl
    | @feature owner k r hr =>
      obtain ⟨projectName, stored, anchorName, hprojectName, -, hstored, -, -, hanchorName, rfl⟩ :=
        Creation.describes_feature hd
      obtain rfl := hproject.eq_of_projectName hprojectName
      obtain ⟨owned, howned, -, -, hownerName, -⟩ := hg (.anchor owner) r hr
      obtain rfl := Option.some.inj (howned.symm.trans hstored)
      obtain rfl := Option.some.inj (hownerName.symm.trans hanchorName)
      rfl
    | derived =>
      obtain ⟨projectName, hprojectName, -, -, -, rfl⟩ := Creation.describes_derived hd
      obtain rfl := hproject.eq_of_projectName hprojectName
      rfl

/-- A creation that succeeds is confirmed by the registry, whether the entity is new or known. -/
theorem confirms (h : task.Asks g projectId request) (hg : g.Confirmed c)
    (hproject : c.IsProject projectId project) {entropy : Entropy} {n n' : Nat} {id : EntityId}
    (hcreates : c.Creates entropy n request.path request.body id c' n') (hc : c.Sound)
    (hfresh : entropy.Fresh c n n') :
    c'.Confirms ⟨id, task.qualifiedName project g⟩ task.type (task.name g) := by
  rcases hcreates.finds_or_stores hc hfresh with
    ⟨-, hfinds⟩ | ⟨d, stored, hd, hstored, hguid, htype, hname, hqualified⟩
  · exact absurd hfinds.1 (Task.path_ne_projects h)
  · obtain ⟨hdtype, hdname, hdqualified⟩ := h.describes hg hproject hd
    exact ⟨stored, hstored, hguid, htype.trans hdtype, hname.trans hdname,
      hqualified.trans (congrArg some hdqualified)⟩

end Task.Asks

namespace Registrar

variable {entropy : Entropy} {r : Registrar Store} {projectId : EntityId} {g : Graph}
  {start s : Store} {es : List (Exchange Store)}

theorem Reached.confirmed (hsession : r.session = Store.session entropy) {p₀ p : Progress Store}
    {done : List Task} (h : r.Reached projectId p₀ done es p)
    (hstart : Follows entropy (fun s => s.contents.IsProject projectId r.project ∧
      p₀.graph.Confirmed s.contents) start p₀.state) :
    Follows entropy (fun s => s.contents.IsProject projectId r.project ∧
      p.graph.Confirmed s.contents) start p.state := by
  induction h with
  | start => exact hstart
  | skipped _ _ ih => exact ih
  | @created _ _ p _ _ _ state _ _ hrequest hcreate ih =>
    rw [create_of_session hsession] at hcreate
    refine ih.create hcreate fun hsound hfresh ⟨hproject, hg⟩ => ?_
    have hcreates := Store.creates_of_create hsound hcreate
    have hstays : p.state.contents.Stays state.contents := hcreates.stays hsound hfresh
    have hconfirms := (Task.asks_of_request hrequest).confirms hg hproject hcreates hsound hfresh
    exact ⟨hstays.isProject hproject, (hg.stays hstays).register hconfirms⟩

/-- A run keeps a graph confirmed, wherever it stops. -/
theorem Course.confirmed (hsession : r.session = Store.session entropy)
    {result : Except CatalogError RegistrationSummary × Graph × Store}
    (h : r.Course g s es result) (hs : s.contents.Sound) (hg : g.Confirmed s.contents) :
    Follows entropy (fun s' => result.2.1.Confirmed s'.contents) s result.2.2 := by
  have hstart : Follows entropy (fun s' => g.Confirmed s'.contents) s s := .refl hs hg
  cases h with
  | refused => exact hstart
  | rejected _ hcreate =>
    rw [create_of_session hsession] at hcreate
    exact hstart.create hcreate fun _ _ hg => (Store.create_error hcreate).1 ▸ hg
  | @halted entity next _ _ _ p _ _ _ _ hcreate hreached hhalts =>
    rw [create_of_session hsession] at hcreate
    have hnext : Follows entropy (fun s' => s'.contents.IsProject entity.guid r.project ∧
        g.Confirmed s'.contents) s next := by
      refine hstart.create hcreate fun hsound hfresh hg => ?_
      have hcreates := Store.creates_of_create hsound hcreate
      exact ⟨hcreates.isProject hsound hfresh (isNamed_projectRequest hcreate),
        hg.stays (hcreates.stays hsound hfresh)⟩
    have hreached' := hreached.confirmed hsession hnext
    cases hhalts with
    | finished | refused => exact hreached'.imp fun _ h => h.2
    | failed _ _ hfail =>
      rw [create_of_session hsession] at hfail
      exact hreached'.create hfail fun _ _ h => (Store.create_error hfail).1 ▸ h.2

end Registrar

theorem Client.confirmed_registerFeatures {entropy : Entropy} {client : Client Store}
    (hsession : client.session = Store.session entropy) {g : Graph} {s : Store}
    (hs : s.contents.Sound) (hg : g.Confirmed s.contents)
    (hfresh : entropy.Fresh s.contents s.drawn (client.registerFeatures g s).2.2.drawn) :
    (client.registerFeatures g s).2.2.contents.Sound ∧
      (client.registerFeatures g s).2.1.Confirmed (client.registerFeatures g s).2.2.contents := by
  unfold Client.registerFeatures at hfresh ⊢
  split at hfresh
  · exact ⟨hs, hg⟩
  · have hfollows := (client.registrar.course g s).confirmed hsession hs hg
    exact ⟨hfollows.sound hfresh, hfollows.prop hfresh⟩

/-! ### Graph and registry together -/

/-- The graphs and registries that come from nothing together: something is added to the graph, or a
client of the registry registers it, under any project. Creations may be told to fail from any of
them on, so runs may stop anywhere. Ids that are drawn are not in use, and nothing is deleted. -/
inductive JointRun (entropy : Entropy) : Graph → Store → Prop
  | empty (token : Option String) : JointRun entropy .empty (.empty token)
  | limit {g s} (limit : Option Nat) : JointRun entropy g s →
      JointRun entropy g { s with failAfter := limit }
  | add {g g' s} : JointRun entropy g s → g.Adding g' → JointRun entropy g' s
  | register {g s} (client : Client Store) : JointRun entropy g s →
      client.session = Store.session entropy →
      entropy.Fresh s.contents s.drawn (client.registerFeatures g s).2.2.drawn →
      JointRun entropy (client.registerFeatures g s).2.1 (client.registerFeatures g s).2.2

namespace JointRun

variable {entropy : Entropy} {g : Graph} {s : Store}

theorem sound_and_confirmed (h : JointRun entropy g s) :
    s.contents.Sound ∧ g.Confirmed s.contents := by
  induction h with
  | empty => exact ⟨.empty, Graph.confirmed_empty _⟩
  | limit _ _ ih => exact ih
  | add _ hadding ih => exact ⟨ih.1, ih.2.adding hadding⟩
  | register client _ hsession hfresh ih =>
    exact client.confirmed_registerFeatures hsession ih.1 ih.2 hfresh

/-- The registry and the graph agree on what is registered: whatever has been added and registered,
under whatever projects and wherever runs have stopped, the registry has every registered source,
anchor, feature and derived feature under exactly the id that the graph has noted, as an entity of
that kind, with the same name, and with the qualified name that the graph has noted. -/
theorem registered_is_stored (h : JointRun entropy g s) :
    (∀ k r, (g.source k).registration = some r →
      s.contents.Confirms r .source (g.source k).name) ∧
    (∀ k r, (g.anchor k).registration = some r →
      s.contents.Confirms r .anchor (g.anchor k).name) ∧
    (∀ k r, (g.feature k).registration = some r →
      s.contents.Confirms r .anchorFeature (g.feature k).name) ∧
    (∀ k r, (g.derivedFeature k).registration = some r →
      s.contents.Confirms r .derivedFeature (g.derivedFeature k).name) := by
  obtain ⟨-, hconfirmed⟩ := h.sound_and_confirmed
  exact ⟨fun k => hconfirmed (.source k), fun k => hconfirmed (.anchor k),
    fun k => hconfirmed (.feature ⟨0⟩ k), fun k => hconfirmed (.derived k)⟩

/-- A small graph that is made from nothing and registered with an empty registry. -/
theorem smallFeature_is_stored : ∃ g r, JointRun .counting g Store.withSmall ∧
    (g.feature ⟨0⟩).registration = some r ∧ r.qualifiedName = "p__a__f" ∧
    Store.withSmall.contents.Confirms r .anchorFeature "f" := by
  have hempty : JointRun .counting .empty (.empty none) := .empty none
  have hsource := hempty.add (.source (.ofKind "s" (.hdfs "/data")) rfl)
  have hfeature := hsource.add (.feature ⟨"f", default, [], none, .empty, none⟩ rfl)
  have hanchor := hfeature.add (.anchor ⟨"a", ⟨0⟩, [⟨0⟩], .empty, none⟩ rfl)
  have hderived := hanchor.add (.derived ⟨"d", default, [], [], [], none, .empty, none⟩ rfl)
  have hsmall : JointRun .counting .small (.empty none) :=
    hderived.add (.input ⟨0⟩ (.anchored ⟨0⟩) rfl)
  have hrun := hsmall.register Client.counting rfl Store.fresh_withSmall
  have hnoted : ((Client.counting.registerFeatures .small (.empty none)).2.1.feature ⟨0⟩).name =
      "f" ∧ ((Client.counting.registerFeatures .small (.empty none)).2.1.feature
        ⟨0⟩).registration.map (·.qualifiedName) = some "p__a__f" := by
    rw [Client.registerFeatures_small]
    decide +kernel
  obtain ⟨r, hr, hqualified⟩ := Option.map_eq_some_iff.1 hnoted.2
  obtain ⟨-, -, hfeatures, -⟩ := registered_is_stored hrun
  exact ⟨_, r, hrun, hr, hqualified, hnoted.1 ▸ hfeatures ⟨0⟩ r hr⟩

end JointRun

end FeatureCatalog
