import FeatureCatalog.Proofs.Registration.Again
import Mathlib.Data.Finset.Card

/-! The summary of a registration accounts for every call and for every entity: what it counts as
created or skipped is, all in all, what the graph holds, with a shared source once and a feature for
each anchor that lists it. -/

namespace FeatureCatalog

namespace Graph

variable {g : Graph}

/-! ### How many tasks there are -/

theorem map_anchorKeys {α : Type} (g : Graph) (f : Anchor → α) :
    (g.anchorKeys.map fun k => f (g.anchor k)) = g.anchors.map f := by
  apply List.ext_getElem
  · simp [anchorKeys]
  · intro i hi hi'
    have hlt : i < g.anchors.length := by simpa using hi'
    simp [anchorKeys, Graph.anchor, hlt]

theorem card_insert_sdiff (s : SourceKey) (sources seen : Finset SourceKey) :
    (insert s sources \ seen).card =
      (if s ∈ seen then 0 else 1) + (sources \ insert s seen).card := by
  by_cases hs : s ∈ seen
  · rw [Finset.insert_sdiff_of_mem _ hs, Finset.insert_eq_self.2 hs, if_pos hs, Nat.zero_add]
  · have hsplit : insert s sources \ seen = insert s (sources \ insert s seen) := by
      ext k
      by_cases hk : k = s
      · simp [hk, hs]
      · simp [hk]
    rw [hsplit, Finset.card_insert_of_notMem (by simp), if_neg hs, Nat.add_comm]

/-- The tasks of anchors are their sources, each once and only if it has not been reached before,
the anchors, and the features for each anchor that lists them. -/
theorem length_anchorTasks (g : Graph) (seen : List SourceKey) (keys : List AnchorKey) :
    (g.anchorTasks seen keys).length =
      ((keys.map fun k => (g.anchor k).source).toFinset \ seen.toFinset).card + keys.length +
        (keys.flatMap fun k => (g.anchor k).features).length := by
  induction keys generalizing seen with
  | nil => simp [anchorTasks]
  | cons k rest ih =>
    have hrest := ih ((g.anchor k).source :: seen)
    have hsource : (if seen.contains (g.anchor k).source then []
        else [Task.source (g.anchor k).source]).length =
        if (g.anchor k).source ∈ seen.toFinset then 0 else 1 := by
      by_cases hs : (g.anchor k).source ∈ seen <;> simp [hs]
    simp only [anchorTasks, List.length_append, List.length_cons, List.length_map, List.map_cons,
      List.flatMap_cons, List.toFinset_cons, hsource, card_insert_sdiff] at hrest ⊢
    omega

/-- In a graph whose keys are its own, each derived feature is registered once. -/
theorem Closed.length_order (h : g.Closed) {order : List DerivedKey}
    (horder : g.order g.derivedKeys = .ok order) : order.length = g.derived.length := by
  have hkeys := isOrder_of_order horder
  have hsubset : order ⊆ g.derivedKeys := by
    intro k hk
    exact mem_derivedKeys.2 (h.isOf_of_mem_tasks horder (derived_mem_tasks.2 hk))
  have hle : order.length ≤ g.derivedKeys.length := (hkeys.nodup.subperm hsubset).length_le
  have hnodup : g.derivedKeys.Nodup := List.nodup_range.map fun _ _ h => by simpa using h
  have hge : g.derivedKeys.length ≤ order.length := (hnodup.subperm hkeys.requested).length_le
  have hlength : g.derivedKeys.length = g.derived.length := by simp [derivedKeys]
  omega

theorem Closed.length_of_plan (h : g.Closed) {tasks : List Task} (hplan : g.plan = .ok tasks) :
    tasks.length = (g.anchors.map (·.source)).toFinset.card + g.anchors.length +
      (g.anchors.flatMap (·.features)).length + g.derived.length := by
  obtain ⟨order, horder, -, -, rfl⟩ := plan_eq_ok.1 hplan
  have hanchors := length_anchorTasks g [] g.anchorKeys
  have hkeys : g.anchorKeys.length = g.anchors.length := by simp [anchorKeys]
  rw [List.flatMap_def, map_anchorKeys g (·.source), map_anchorKeys g (·.features), hkeys,
    List.toFinset_nil, Finset.sdiff_empty, ← List.flatMap_def] at hanchors
  rw [tasks, List.length_append, List.length_map, h.length_order horder, hanchors]

end Graph

namespace Registrar

variable {σ : Type} {r : Registrar σ} {projectId : EntityId}

/-- What has been counted as created has been asked for. -/
theorem Reached.counts_created {p₀ p : Progress σ} {done : List Task} {es : List (Exchange σ)}
    (h : r.Reached projectId p₀ done es p) : p.created = p₀.created + es.length := by
  induction h with
  | start => rfl
  | skipped _ _ ih => exact ih
  | created _ _ _ _ ih =>
    simp only [List.length_append, List.length_singleton]
    omega

/-- The summary of a registration that has succeeded accounts for all of it. The project id is what
the first call has returned; every later call has created one of the entities that are counted as
created; and together with those that were skipped these are the sources that anchors use, each
once, the anchors, what the anchors list as features, and the derived features of the graph. -/
theorem summary_accounts_for_all (r : Registrar σ) {g g' : Graph} (hclosed : g.Closed)
    {state state' : σ} {summary : RegistrationSummary}
    (h : r.register g state = (.ok summary, g', state')) :
    (∃ entity next, r.session.create ["projects"]
        (.obj [("name", .str r.project), ("tags", Json.ofTags r.projectTags)]) (r.headers state)
        state = (.ok entity, next) ∧ summary.projectId = entity.guid) ∧
      (∃ calls, r.log g state =
        .create ["projects"]
          (.obj [("name", .str r.project), ("tags", Json.ofTags r.projectTags)])
          (r.headers state) :: calls ∧
        (∀ call ∈ calls, ∃ path body s, call = .create path body (r.headers s)) ∧
        summary.created = calls.length) ∧
      summary.created + summary.skipped =
        (g.anchors.map (·.source)).toFinset.card + g.anchors.length +
          (g.anchors.flatMap (·.features)).length + g.derived.length := by
  obtain ⟨entity, tasks, next, es, p, hplan, hcreate, hreached, htranscript, -, rfl⟩ :=
    finished_of_register h
  refine ⟨⟨entity, next, hcreate, rfl⟩, ⟨es.map (·.call r.headers), ?_, ?_, ?_⟩, ?_⟩
  · rw [log_eq, htranscript]
    rfl
  · intro call hcall
    obtain ⟨e, -, rfl⟩ := List.mem_map.1 hcall
    exact ⟨e.request.path, .obj e.request.body, e.state, rfl⟩
  · rw [List.length_map]
    exact hreached.counts_created.trans (Nat.zero_add _)
  · rw [← hclosed.length_of_plan hplan]
    exact hreached.counts.trans (Nat.zero_add _)

end Registrar

/-- A graph with two anchors that share their source and one of their features. -/
def Graph.sharing : Graph where
  sources := [.ofKind "s" (.hdfs "/data")]
  anchors := [⟨"a", ⟨0⟩, [⟨0⟩], .empty, none⟩, ⟨"b", ⟨0⟩, [⟨0⟩, ⟨1⟩], .empty, none⟩]
  features := [⟨"f", default, [], none, .empty, none⟩, ⟨"h", default, [], none, .empty, none⟩]
  derived := [⟨"d", default, [], [⟨1⟩], [], none, .empty, none⟩]
  relations := []

theorem Graph.plan_sharing : Graph.sharing.plan = .ok
    [ .source ⟨0⟩, .anchor ⟨0⟩, .feature ⟨0⟩ ⟨0⟩, .anchor ⟨1⟩, .feature ⟨1⟩ ⟨0⟩,
      .feature ⟨1⟩ ⟨1⟩, .derived ⟨0⟩ ] := by
  have horder : sharing.order sharing.derivedKeys = .ok [⟨0⟩] := by
    cbv
  exact plan_eq_ok.2 ⟨[⟨0⟩], horder, by decide, by decide, rfl⟩

/-- Of the seven entities that are counted, the shared feature is skipped where it is met again. -/
theorem Registrar.sharing_is_accounted_for :
    ∃ summary g' state', Client.counting.registrar.register .sharing (.empty none) =
        (.ok summary, g', state') ∧
      summary.created = 6 ∧ summary.created + summary.skipped = 7 ∧
      (Client.counting.registrar.log .sharing (.empty none)).length = 7 := by
  have hclosed : Graph.sharing.Closed := ⟨by decide, by decide, by decide, by decide⟩
  have hsummary : (Client.counting.registrar.register .sharing (.empty none)).1.toOption =
      some ⟨.ofBits 0, 6, 1⟩ := by
    rw [register_of_plan Graph.plan_sharing]
    decide +kernel
  cases hrun : Client.counting.registrar.register .sharing (.empty none) with
  | mk outcome rest =>
    rw [hrun] at hsummary
    cases outcome with
    | error e => cases hsummary
    | ok summary =>
      obtain rfl := Option.some.inj hsummary
      obtain ⟨-, ⟨calls, hlog, -, hcreated⟩, hall⟩ :=
        summary_accounts_for_all Client.counting.registrar hclosed hrun
      refine ⟨_, rest.1, rest.2, rfl, rfl, hall, ?_⟩
      rw [hlog, List.length_cons, ← hcreated]

end FeatureCatalog
