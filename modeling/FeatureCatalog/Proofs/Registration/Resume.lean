import FeatureCatalog.Proofs.Client.Fetchable
import FeatureCatalog.Proofs.Registration.Progress
import FeatureCatalog.Proofs.Store.Agree
import FeatureCatalog.Proofs.Store.Reachable

/-! A registration that fails can be repeated until it succeeds, and then all is as if it had never
failed. An attempt keeps in step with the run that is not interrupted, up to the creation that is to
fail; the next attempt passes over what has been done, and goes on from there. -/

namespace FeatureCatalog

/-- The progress of two runs is the same, apart from what has been counted. -/
structure Progress.Matches (p q : Progress Store) : Prop where
  graph : p.graph = q.graph
  state : p.state.Agrees q.state

namespace Registrar

variable {entropy : Entropy} {r : Registrar Store} {projectId : EntityId} {task : Task}
  {tasks : List Task} {p p' q q' : Progress Store}

/-! ### In step -/

theorem keeps_failAfter (hsession : r.session = Store.session entropy) (limit : Option Nat) :
    r.Keeps fun s => s.failAfter = limit := by
  intro request s hissued h
  rw [hsession]
  exact (Store.answers_create _ _ _ _ _).keeps.failAfter.trans h

/-- The registry fails no creation on purpose, and treats the calls of the registrar alike. -/
structure Unhindered (r : Registrar Store) (s : Store) : Prop where
  failAfter : s.failAfter = none
  steady : s.IsSteady r.headers

theorem keeps_unhindered (hsession : r.session = Store.session entropy) : r.Keeps r.Unhindered := by
  intro request s hissued h
  rw [create_of_session hsession]
  have hkeeps := (Store.answers_create entropy s request.path (.obj request.body)
    (r.headers s)).keeps
  exact ⟨hkeeps.failAfter.trans h.failAfter, h.steady.of_token hkeeps.token⟩

/-- A creation that succeeds where no creation is to fail succeeds in a registry that agrees, or it
is to fail there. -/
theorem create_lockstep (hsession : r.session = Store.session entropy) {name : String}
    {request : CreateRequest} {s s' t : Store} {id : EntityId} (h : t.Agrees s)
    (hs : r.Unhindered s) (hcreate : r.create name request s = (.ok id, s')) :
    (∃ t', r.create name request t = (.ok id, t') ∧ t'.Agrees s') ∨
      t.failAfter ≠ none ∧ ∃ e t', r.create name request t = (.error e, t') ∧ t'.Agrees s := by
  obtain ⟨entity, hid, hstore⟩ := (create_eq_ok hsession).1 hcreate
  by_cases ht : t.isFailing = true
  · refine .inr ⟨fun hnone => ?_, ?_⟩
    · rw [Store.isFailing_of_none hnone] at ht
      simp at ht
    · obtain ⟨cause, t', hfail, hagrees⟩ := Store.create_of_isFailing ht entropy request.path
        (.obj request.body) (r.headers t)
      exact ⟨_, t', create_of_error hsession hfail, hagrees.trans h⟩
  · have hsame := h.create (Bool.eq_false_iff.2 ht) (Store.isFailing_of_none hs.failAfter)
      (hs.steady t h.token) entropy request.path (.obj request.body)
    rw [hstore] at hsame
    generalize hcreate' : t.create entropy request.path (.obj request.body) (r.headers t) =
      outcome at hsame
    obtain ⟨answer, t'⟩ := outcome
    obtain ⟨rfl, hagrees⟩ : answer = .ok entity ∧ t'.Agrees s' := hsame
    exact .inl ⟨t', (create_eq_ok hsession).2 ⟨entity, hid, hcreate'⟩, hagrees⟩

theorem perform_lockstep (hsession : r.session = Store.session entropy) (h : p.Matches q)
    (hq : r.Unhindered q.state) (hperform : r.perform projectId task q = (.ok (), q')) :
    (∃ p', r.perform projectId task p = (.ok (), p') ∧ p'.Matches q') ∨
      p.state.failAfter ≠ none ∧
        ∃ e p', r.perform projectId task p = (.error e, p') ∧ p'.Matches q := by
  rcases perform_ok hperform with ⟨hdone, rfl⟩ | ⟨hdone, request, id, hrequest, hcreate, hgraph⟩
  · rw [← h.graph] at hdone
    exact .inl ⟨_, perform_of_isDone hdone, h.graph, h.state⟩
  · rw [← h.graph] at hdone hrequest hcreate hgraph
    unfold perform
    rw [if_neg (Bool.eq_false_iff.1 hdone), hrequest]
    rcases create_lockstep hsession h.state hq hcreate with
      ⟨t, ht, hagrees⟩ | ⟨hlimit, e, t, ht, hagrees⟩
    · simp only [ht]
      exact .inl ⟨_, rfl, hgraph.symm, hagrees⟩
    · simp only [ht]
      exact .inr ⟨hlimit, _, _, rfl, h.graph, hagrees⟩

/-- An attempt keeps in step with a run that succeeds, up to a creation that is to fail. -/
theorem performAll_lockstep (hsession : r.session = Store.session entropy) (h : p.Matches q)
    (hq : r.Unhindered q.state) (hrun : r.performAll projectId tasks q = (.ok (), q')) :
    (∃ p', r.performAll projectId tasks p = (.ok (), p') ∧ p'.Matches q') ∨
      p.state.failAfter ≠ none ∧ ∃ e p' pre post q₁, tasks = pre ++ post ∧
        r.performAll projectId tasks p = (.error e, p') ∧
        r.performAll projectId pre q = (.ok (), q₁) ∧ p'.Matches q₁ := by
  induction tasks generalizing p q with
  | nil =>
    obtain rfl := (Prod.mk.inj hrun).2
    exact .inl ⟨p, rfl, h⟩
  | cons task rest ih =>
    rw [performAll] at hrun
    split at hrun
    · rename_i q₁ hperform
      have hq₁ : r.Unhindered q₁.state := (keeps_unhindered hsession).of_perform hperform hq
      rcases perform_lockstep hsession h hq hperform with
        ⟨p₁, hp₁, hmatches⟩ | ⟨hlimit, e, p', hp', hmatches⟩
      · have hlimit : p₁.state.failAfter = p.state.failAfter :=
          (keeps_failAfter hsession p.state.failAfter).of_perform hp₁ rfl
        rw [performAll, hp₁, ← hlimit]
        rcases ih hmatches hq₁ hrun with
          ⟨p', hp', hmatches'⟩ | ⟨hfail, e, p', pre, post, q₂, rfl, hp', hpre, hmatches'⟩
        · exact .inl ⟨p', hp', hmatches'⟩
        · refine .inr ⟨hfail, e, p', task :: pre, post, q₂, rfl, hp', ?_, hmatches'⟩
          rw [performAll, hperform]
          exact hpre
      · refine .inr ⟨hlimit, e, p', [], task :: rest, q, rfl, ?_, rfl, hmatches⟩
        rw [performAll, hp']
    · simp at hrun

/-! ### Attempts -/

variable {g g' : Graph} {s next t : Store}

/-- Where a registration that is attempted several times can be, compared with a run from `s` that
is not interrupted and creates the project in `next`: nothing has been done, or the project is there
and the first of the tasks have been performed. -/
inductive Stage (r : Registrar Store) (projectId : EntityId) (tasks : List Task) (g : Graph)
    (s next : Store) : Graph → Store → Prop
  | start {u : Store} : u.Agrees s → Stage r projectId tasks g s next g u
  | part {u : Store} {pre post : List Task} {q : Progress Store} : tasks = pre ++ post →
      r.performAll projectId pre ⟨next, g, 0, 0⟩ = (.ok (), q) → u.Agrees q.state →
      Stage r projectId tasks g s next q.graph u

/-- An uninterrupted run: nothing is in its way, the project is created, and all tasks are
performed. -/
structure Run (r : Registrar Store) (projectId : EntityId) (tasks : List Task) (g : Graph)
    (s next : Store) (q : Progress Store) : Prop where
  unhindered : r.Unhindered s
  project : r.create r.project r.projectRequest s = (.ok projectId, next)
  performed : r.performAll projectId tasks ⟨next, g, 0, 0⟩ = (.ok (), q)

/-- Wherever the run is, the project is found again, and nothing else happens. -/
def FindsProject (r : Registrar Store) (projectId : EntityId) (tasks : List Task) (g : Graph)
    (next : Store) : Prop :=
  ∀ ⦃pre post q⦄, tasks = pre ++ post →
    r.performAll projectId pre ⟨next, g, 0, 0⟩ = (.ok (), q) →
    ∃ t, r.create r.project r.projectRequest q.state = (.ok projectId, t) ∧ t.Agrees q.state

theorem project_failAfter (hsession : r.session = Store.session entropy)
    (h : r.create r.project r.projectRequest s = (.ok projectId, next)) :
    next.failAfter = s.failAfter :=
  (keeps_failAfter hsession s.failAfter).of_create (.project _ _) h rfl

/-- Once its project is there, the registry of a run is sound, and the ids still to be drawn are
new. -/
theorem sound_project (hsession : r.session = Store.session entropy) (hs : s.contents.Sound)
    (hfresh : entropy.Fresh s.contents s.drawn q.state.drawn)
    (hproject : r.create r.project r.projectRequest s = (.ok projectId, next))
    (hdrawn : next.drawn ≤ q.state.drawn) :
    next.contents.Sound ∧ entropy.Fresh next.contents next.drawn q.state.drawn := by
  obtain ⟨entity, -, hstore⟩ := (create_eq_ok hsession).1 hproject
  exact ⟨Store.sound_create hs hstore (hfresh.mono hdrawn),
    ((Store.Since.refl entropy s).create hs hstore).fresh hfresh⟩

theorem Run.unhindered_next (hrun : r.Run projectId tasks g s next q)
    (hsession : r.session = Store.session entropy) : r.Unhindered next :=
  (keeps_unhindered hsession).of_create (.project _ _) hrun.project hrun.unhindered

/-- From where the first of its tasks have been performed, a run performs the others. -/
theorem Run.performAll_rest {pre post : List Task} {q₁ : Progress Store}
    (hrun : r.Run projectId (pre ++ post) g s next q)
    (hpre : r.performAll projectId pre ⟨next, g, 0, 0⟩ = (.ok (), q₁)) :
    r.performAll projectId post q₁ = (.ok (), q) :=
  (performAll_append_of_ok hpre post).symm.trans hrun.performed

/-- At each stage of a run, the project is created or found, and the registry agrees with one that
the run has come to, or the creation is to fail. -/
theorem Stage.project_lockstep (hsession : r.session = Store.session entropy)
    (hrun : r.Run projectId tasks g s next q) (hfinds : r.FindsProject projectId tasks g next)
    (h : r.Stage projectId tasks g s next g' t) :
    (∃ t' pre post q₁, r.create r.project r.projectRequest t = (.ok projectId, t') ∧
        t'.failAfter = t.failAfter ∧ tasks = pre ++ post ∧
        r.performAll projectId pre ⟨next, g, 0, 0⟩ = (.ok (), q₁) ∧
        r.Unhindered q₁.state ∧ g' = q₁.graph ∧ t'.Agrees q₁.state) ∨
      t.failAfter ≠ none ∧ ∃ e t', r.create r.project r.projectRequest t = (.error e, t') ∧
        r.Stage projectId tasks g s next g' t' := by
  have hnext := hrun.unhindered_next hsession
  cases h with
  | start hagrees =>
    rcases create_lockstep hsession hagrees hrun.unhindered hrun.project with
      ⟨t', ht', hagrees'⟩ | ⟨hfail, e, t', ht', hagrees'⟩
    · exact .inl ⟨t', [], tasks, _, ht', project_failAfter hsession ht', rfl, rfl, hnext, rfl,
        hagrees'⟩
    · exact .inr ⟨hfail, e, t', ht', .start hagrees'⟩
  | @part _ pre post q₁ htasks hpre hagrees =>
    obtain ⟨u, hu, hsame⟩ := hfinds htasks hpre
    have hq₁ : r.Unhindered q₁.state := (keeps_unhindered hsession).of_performAll hpre hnext
    rcases create_lockstep hsession hagrees hq₁ hu with
      ⟨t', ht', hagrees'⟩ | ⟨hfail, e, t', ht', hagrees'⟩
    · exact .inl ⟨t', pre, post, q₁, ht', project_failAfter hsession ht', htasks, hpre, hq₁, rfl,
        hagrees'.trans hsame⟩
    · exact .inr ⟨hfail, e, t', ht', .part htasks hpre hagrees'⟩

/-- An attempt that starts at one stage of a run comes to another, and one without a limit comes to
the end. -/
theorem Stage.attempted (hsession : r.session = Store.session entropy)
    (hrun : r.Run projectId tasks g s next q) (hfinds : r.FindsProject projectId tasks g next)
    (h : r.Stage projectId tasks g s next g' t) :
    r.Stage projectId tasks g s next (r.carryOut tasks g' t).2.1 (r.carryOut tasks g' t).2.2 ∧
      (t.failAfter = none → ∃ summary t', r.carryOut tasks g' t = (.ok summary, q.graph, t') ∧
        summary.projectId = projectId ∧ t'.Agrees q.state) := by
  rcases h.project_lockstep hsession hrun hfinds with
    ⟨t', pre, post, q₁, ht', hlimit, rfl, hpre, hq₁, rfl, hagrees⟩ | ⟨hfail, e, t', ht', hstage⟩
  · -- The tasks that have been performed are passed over; the others keep in step with the run.
    have hskip : r.performAll projectId pre ⟨t', q₁.graph, 0, 0⟩ =
        (.ok (), ⟨t', q₁.graph, 0, 0 + pre.length⟩) :=
      performAll_of_isDone (isDone_of_performAll hsession hpre).1
    have hpost := hrun.performAll_rest hpre
    have hmatches : Progress.Matches ⟨t', q₁.graph, 0, 0 + pre.length⟩ q₁ := ⟨rfl, hagrees⟩
    rcases performAll_lockstep hsession hmatches hq₁ hpost with
      ⟨p', hp', hmatches⟩ | ⟨hfail, e, p', pre', post', q₂, rfl, hp', hpre', hmatches⟩
    · have hcarry : r.carryOut (pre ++ post) q₁.graph t =
          (.ok ⟨projectId, p'.created, p'.skipped⟩, p'.graph, p'.state) := by
        rw [carryOut, ht']
        simp only [performAll_append_of_ok hskip, hp']
      rw [hcarry, hmatches.graph]
      exact ⟨.part (List.append_nil _).symm hrun.performed hmatches.state,
        fun _ => ⟨_, _, rfl, rfl, hmatches.state⟩⟩
    · have hcarry : r.carryOut (pre ++ (pre' ++ post')) q₁.graph t =
          (.error e, p'.graph, p'.state) := by
        rw [carryOut, ht']
        simp only [performAll_append_of_ok hskip, hp']
      rw [hcarry, hmatches.graph]
      have hall : r.performAll projectId (pre ++ pre') ⟨next, g, 0, 0⟩ = (.ok (), q₂) :=
        (performAll_append_of_ok hpre pre').trans hpre'
      exact ⟨.part (List.append_assoc pre pre' post').symm hall hmatches.state,
        fun hnone => absurd (hlimit.trans hnone) hfail⟩
  · have hcarry : r.carryOut tasks g' t = (.error e, g', t') := by
      rw [carryOut, ht']
    rw [hcarry]
    exact ⟨hstage, fun hnone => absurd hnone hfail⟩

theorem Stage.limit (h : r.Stage projectId tasks g s next g' t) (limit : Option Nat) :
    r.Stage projectId tasks g s next g' { t with failAfter := limit } := by
  cases h with
  | start hagrees => exact .start ⟨hagrees.contents, hagrees.token, hagrees.drawn⟩
  | part htasks hpre hagrees =>
    exact .part htasks hpre ⟨hagrees.contents, hagrees.token, hagrees.drawn⟩

theorem Stage.advances (hsession : r.session = Store.session entropy)
    (h : r.Stage projectId tasks g s next g' t) : g.Advances g' := by
  cases h with
  | start => exact .refl g
  | part _ hpre _ => exact (isDone_of_performAll hsession hpre).2.1

/-- The project of a run stays what it is: once created, it is found again. -/
theorem Run.findsProject (hrun : r.Run projectId tasks g s next q)
    (hsession : r.session = Store.session entropy) (hs : s.contents.Sound)
    (hfresh : entropy.Fresh s.contents s.drawn q.state.drawn) :
    r.FindsProject projectId tasks g next := by
  obtain ⟨entity, rfl, hstore⟩ := (create_eq_ok hsession).1 hrun.project
  have hdrawn := drawn_performAll hsession hrun.performed
  obtain ⟨hsound, hnew⟩ := sound_project hsession hs hfresh hrun.project hdrawn
  obtain ⟨body, hbody, hauthorized, -, hcreates, hkeeps⟩ := Store.create_ok hs hstore
  obtain rfl := Json.obj.inj hbody
  have hname := isNamed_projectRequest hstore
  let P (u : Store) : Prop := u.contents.IsProject entity.guid r.project
  have hP : P next := hcreates.isProject hs (hfresh.mono hdrawn) hname
  have hfollows : r.Keeps (Follows entropy P next) := by
    refine keeps_follows hsession fun {request u u' answer} _ hu hfresh hPu hcreate => ?_
    cases answer with
    | error cause =>
      have hanswers := Store.answers_create entropy u request.path (.obj request.body)
        (r.headers u)
      rw [hcreate] at hanswers
      have hcontents : u'.contents = u.contents := hanswers.contents rfl
      exact (congrArg (·.IsProject entity.guid r.project) hcontents).mpr hPu
    | ok _ =>
      obtain ⟨_, -, -, -, hcreates, -⟩ := Store.create_ok hu hcreate
      exact Contents.Stays.isProject (hcreates.stays hu hfresh) hPu
  rintro pre post q₁ rfl hpre
  have hfresh₁ := hnew.mono (drawn_performAll hsession (hrun.performAll_rest hpre))
  have hat : Follows entropy P next q₁.state := hfollows.of_performAll hpre (.refl hsound hP)
  have hunhindered : r.Unhindered q₁.state :=
    (keeps_unhindered hsession).of_performAll hpre (hrun.unhindered_next hsession)
  have htoken : q₁.state.token = s.token :=
    (keeps_token hsession s.token).of_performAll hpre hkeeps.token
  have hauthorized' : q₁.state.isAuthorized (r.headers q₁.state) = true :=
    (hrun.unhindered.steady _ htoken).trans hauthorized
  obtain ⟨found, t, ht, hguid, hagrees⟩ := Store.create_of_isProject entropy (hat.prop hfresh₁)
    (hat.sound hfresh₁) hname hauthorized' (Store.isFailing_of_none hunhindered.failAfter)
  exact ⟨t, (create_eq_ok hsession).2 ⟨found, hguid, ht⟩, hagrees⟩

end Registrar

namespace Client

/-- An attempt to register a graph, where creations are to fail once there have been `limit`: what
it leaves of the graph and of the registry. -/
def attempt (client : Client Store) (p : Graph × Store) (limit : Option Nat) : Graph × Store :=
  (client.registerFeatures p.1 { p.2 with failAfter := limit }).2

/-- Attempts one after another, each on what the one before has left. -/
def attempts (client : Client Store) (g : Graph) (s : Store) (limits : List (Option Nat)) :
    Graph × Store :=
  limits.foldl client.attempt (g, s)

end Client

/-- However often a registration has been attempted, and wherever the attempts have failed, one that
is not made to fail leaves the graph and the registry as a single uninterrupted run does, if the
registry treats the calls of the client alike. -/
theorem Store.Reachable.registration_resumes {entropy : Entropy} {s s' : Store}
    (h : Store.Reachable entropy s) {client : Client Store}
    (hsession : client.session = Store.session entropy) (hsteady : s.IsSteady client.headers)
    {g g' : Graph} {summary : RegistrationSummary}
    (hrun : client.registerFeatures g { s with failAfter := none } = (.ok summary, g', s'))
    (hfresh : entropy.Fresh s.contents s.drawn s'.drawn) (limits : List (Option Nat)) :
    ∃ summary' s'', client.registerFeatures (client.attempts g s limits).1
        { (client.attempts g s limits).2 with failAfter := none } = (.ok summary', g', s'') ∧
      summary'.projectId = summary.projectId ∧ s''.contents = s'.contents ∧
      s''.drawn = s'.drawn := by
  obtain ⟨hvalid, tasks, hplan⟩ := Client.plan_of_registerFeatures hrun
  rw [Client.registerFeatures_of_plan hvalid hplan] at hrun
  obtain ⟨next, q, hproject, hperform, rfl, rfl⟩ := Registrar.carryOut_ok hrun
  have hperformed : client.registrar.Run summary.projectId tasks g { s with failAfter := none }
      next q := ⟨⟨rfl, hsteady.of_token rfl⟩, hproject, hperform⟩
  have hfinds := hperformed.findsProject hsession h.sound hfresh
  let Stage := client.registrar.Stage summary.projectId tasks g { s with failAfter := none } next
  have hcarry : ∀ {g₁ t}, Stage g₁ t → ∀ limit,
      client.registerFeatures g₁ { t with failAfter := limit } =
        client.registrar.carryOut tasks g₁ { t with failAfter := limit } := fun hstage _ =>
    Client.registerFeatures_of_plan hvalid ((hstage.advances hsession).plan hplan) _
  have hattempts : ∀ {p : Graph × Store}, Stage p.1 p.2 →
      Stage (limits.foldl client.attempt p).1 (limits.foldl client.attempt p).2 := by
    induction limits with
    | nil => exact fun hstage => hstage
    | cons limit rest ih =>
      intro p hstage
      refine ih ?_
      unfold Client.attempt
      rw [hcarry hstage limit]
      exact ((hstage.limit limit).attempted hsession hperformed hfinds).1
  have hstart : Stage g s := .start ⟨rfl, rfl, rfl⟩
  have hstage := hattempts (p := (g, s)) hstart
  obtain ⟨summary', t, hlast, hid, hagrees⟩ :=
    ((hstage.limit none).attempted hsession hperformed hfinds).2 rfl
  exact ⟨summary', t, (hcarry hstage none).trans hlast, hid, hagrees.contents, hagrees.drawn⟩

/-- Attempts that fail after one creation and after three lead to the registry to which the graph is
written at once. -/
theorem Store.empty_registration_resumes :
    (Client.counting.registerFeatures
        (Client.counting.attempts .small (.empty none) [some 1, some 3]).1
        { (Client.counting.attempts .small (.empty none) [some 1, some 3]).2 with
          failAfter := none }).2.2.contents = withSmall.contents := by
  obtain ⟨summary, g', hrun⟩ := exists_registerFeatures_small
  obtain ⟨_, s, hlast, -, hcontents, -⟩ := Reachable.registration_resumes (.empty none) rfl
    (isSteady_const _ _) hrun fresh_withSmall [some 1, some 3]
  rw [hlast]
  exact hcontents

end FeatureCatalog
