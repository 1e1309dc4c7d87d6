import FeatureCatalog.Proofs.Registration.Resume
import FeatureCatalog.Proofs.Store.Repeat

/-! A graph whose registrations have been lost can be registered again. The run asks for everything
anew and is given the ids that were given out before, so what has been done is done over without a
trace, and then the run goes on where the earlier one stopped. -/

namespace FeatureCatalog

namespace Registrar

variable {entropy : Entropy} {r : Registrar Store} {projectId : EntityId} {task : Task}
  {tasks : List Task} {p p₁ q again : Progress Store}

theorem keeps_remembers (hsession : r.session = Store.session entropy) (start : Store) :
    r.Keeps (Follows entropy start.Remembers start) :=
  keeps_follows hsession fun _ hs hfresh hremembers hcreate =>
    hremembers.create hs hfresh hcreate

/-- A run that succeeds forgets nothing. -/
theorem remembers_of_performAll (hsession : r.session = Store.session entropy)
    (hs : p.state.contents.Sound)
    (hfresh : entropy.Fresh p.state.contents p.state.drawn q.state.drawn)
    (h : r.performAll projectId tasks p = (.ok (), q)) :
    p.state.Remembers q.state ∧ q.state.contents.Sound := by
  have hfollows := (keeps_remembers hsession p.state).of_performAll h (.refl hs (.refl _))
  exact ⟨hfollows.prop hfresh, hfollows.sound hfresh⟩

theorem sound_perform (hsession : r.session = Store.session entropy)
    (hs : p.state.contents.Sound)
    (hfresh : entropy.Fresh p.state.contents p.state.drawn p₁.state.drawn)
    (h : r.perform projectId task p = (.ok (), p₁)) : p₁.state.contents.Sound := by
  rcases perform_ok h with ⟨-, rfl⟩ | ⟨-, request, id, -, hcreate, -⟩
  · exact hs
  · obtain ⟨entity, -, hstore⟩ := (create_eq_ok hsession).1 hcreate
    exact Store.sound_create hs hstore hfresh

/-- A task that has been performed can be performed again from the same graph, when the registry has
forgotten nothing since: the same is noted, and the registry stays as it is. -/
theorem perform_again (hsession : r.session = Store.session entropy)
    (hs : p.state.contents.Sound)
    (hfresh : entropy.Fresh p.state.contents p.state.drawn p₁.state.drawn)
    (h : r.perform projectId task p = (.ok (), p₁)) (hgraph : again.graph = p.graph)
    (hremembers : p₁.state.Remembers again.state) (hsound : again.state.contents.Sound)
    (hagain : r.Unhindered again.state) :
    ∃ again', r.perform projectId task again = (.ok (), again') ∧ again'.graph = p₁.graph ∧
      again'.state.Agrees again.state := by
  rcases perform_ok h with ⟨hdone, rfl⟩ | ⟨hdone, request, id, hrequest, hcreate, hgraph₁⟩
  · rw [← hgraph] at hdone
    exact ⟨_, perform_of_isDone hdone, hgraph, .refl _⟩
  · have hpath := Task.path_ne_projects (Task.asks_of_request hrequest)
    obtain ⟨entity, rfl, hstore⟩ := (create_eq_ok hsession).1 hcreate
    obtain ⟨body, hbody, hauthorized, -, hcreates, hkeeps⟩ := Store.create_ok hs hstore
    obtain rfl := Json.obj.inj hbody
    obtain ⟨creation, hcall⟩ := Store.ofCall_of_create hstore
    have hrecalls := hremembers.recalls hpath (hcreates.recalls hs hfresh hcall hpath)
    have htoken : p.state.token = again.state.token := (hremembers.token.trans hkeeps.token).symm
    have hauthorized' : again.state.isAuthorized (r.headers again.state) = true :=
      (hagain.steady _ htoken).symm.trans hauthorized
    obtain ⟨found, s, hfound, hguid, hagrees⟩ := Store.create_of_recalls entropy hsound hrecalls
      hauthorized' (Store.isFailing_of_none hagain.failAfter)
    have hcreate' : r.create (task.name p.graph) request again.state = (.ok entity.guid, s) :=
      (create_eq_ok hsession).2 ⟨found, hguid, hfound⟩
    rw [perform, hgraph, if_neg (Bool.eq_false_iff.1 hdone), hrequest]
    simp only [hcreate']
    exact ⟨_, rfl, hgraph₁.symm, hagrees⟩

/-- Tasks that have been performed can be performed again from the graph that they were performed
on. -/
theorem performAll_again (hsession : r.session = Store.session entropy)
    (hs : p.state.contents.Sound)
    (hfresh : entropy.Fresh p.state.contents p.state.drawn q.state.drawn)
    (h : r.performAll projectId tasks p = (.ok (), q)) (hgraph : again.graph = p.graph)
    (hagrees : again.state.Agrees q.state) (hunhindered : r.Unhindered again.state) :
    ∃ again', r.performAll projectId tasks again = (.ok (), again') ∧ again'.Matches q := by
  induction tasks generalizing p again with
  | nil =>
    obtain rfl := (Prod.mk.inj h).2
    exact ⟨again, rfl, hgraph, hagrees⟩
  | cons task rest ih =>
    rw [performAll] at h
    split at h
    · rename_i p₁ hperform
      have hfresh₁ := hfresh.mono (drawn_performAll hsession h)
      have hrest := (since_perform hsession hs hperform).fresh hfresh
      have hs₁ := sound_perform hsession hs hfresh₁ hperform
      obtain ⟨hremembers, hsound⟩ := remembers_of_performAll hsession hs₁ hrest h
      rw [← hagrees.contents] at hsound
      obtain ⟨again₁, hagain, hgraph₁, hagrees₁⟩ := perform_again hsession hs hfresh₁ hperform
        hgraph (hremembers.of_agrees hagrees) hsound hunhindered
      have hunhindered₁ := (keeps_unhindered hsession).of_perform hagain hunhindered
      rw [performAll, hagain]
      exact ih hs₁ hrest h hgraph₁ (hagrees₁.trans hagrees) hunhindered₁
    · simp at h

section Stage

variable {g g' : Graph} {s next t : Store}

/-- At each stage of a run, a run from the graph as it was at first comes to the same end. -/
theorem Stage.replayed (hsession : r.session = Store.session entropy)
    (hrun : r.Run projectId tasks g s next q) (hs : s.contents.Sound)
    (hfresh : entropy.Fresh s.contents s.drawn q.state.drawn)
    (h : r.Stage projectId tasks g s next g' t) (hlimit : t.failAfter = none) :
    ∃ summary t', r.carryOut tasks g t = (.ok summary, q.graph, t') ∧
      summary.projectId = projectId ∧ t'.Agrees q.state := by
  have hfinds := hrun.findsProject hsession hs hfresh
  rcases h.project_lockstep hsession hrun hfinds with
    ⟨t', pre, post, q₁, ht', hlimit', rfl, hpre, hq₁, -, hagrees⟩ | ⟨hfail, -⟩
  · have hpost := hrun.performAll_rest hpre
    have hdrawn₁ := drawn_performAll hsession hpost
    obtain ⟨hsound, hnew⟩ := sound_project hsession hs hfresh hrun.project
      (drawn_performAll hsession hrun.performed)
    -- The tasks performed before are performed again; the others keep in step with the run.
    have hgraph : (⟨t', g, 0, 0⟩ : Progress Store).graph = g := rfl
    have hunhindered : r.Unhindered t' :=
      ⟨hlimit'.trans hlimit, hq₁.steady.of_token hagrees.token⟩
    obtain ⟨p₁, hp₁, hmatches⟩ := performAll_again hsession hsound (hnew.mono hdrawn₁) hpre hgraph
      hagrees hunhindered
    have hunhindered₁ := (keeps_unhindered hsession).of_performAll hp₁ hunhindered
    rcases performAll_lockstep hsession hmatches hq₁ hpost with ⟨p', hp', hmatches'⟩ | ⟨hfail, -⟩
    · refine ⟨⟨projectId, p'.created, p'.skipped⟩, p'.state, ?_, rfl, hmatches'.state⟩
      rw [carryOut, ht']
      simp only [performAll_append_of_ok hp₁, hp', hmatches'.graph]
    · exact absurd hunhindered₁.failAfter hfail
  · exact absurd hlimit hfail

end Stage

end Registrar

/-- A client that has lost its ids can register again without duplicates, if the registry treats its
calls alike. However far an attempt has come, a run on the graph as it was before succeeds if one
without the attempt would have: it leaves the registry as that one does, draws no more ids, and
notes the same registrations. -/
theorem Store.Reachable.registration_replays {entropy : Entropy} {s s' : Store}
    (h : Store.Reachable entropy s) {client : Client Store}
    (hsession : client.session = Store.session entropy) (hsteady : s.IsSteady client.headers)
    {g g' : Graph} {summary : RegistrationSummary}
    (hrun : client.registerFeatures g { s with failAfter := none } = (.ok summary, g', s'))
    (hfresh : entropy.Fresh s.contents s.drawn s'.drawn) (limit : Option Nat) :
    ∃ summary' s'', client.registerFeatures g
        { (client.attempt (g, s) limit).2 with failAfter := none } = (.ok summary', g', s'') ∧
      summary'.projectId = summary.projectId ∧ s''.contents = s'.contents ∧
      s''.drawn = s'.drawn := by
  obtain ⟨hvalid, tasks, hplan⟩ := Client.plan_of_registerFeatures hrun
  rw [Client.registerFeatures_of_plan hvalid hplan] at hrun
  obtain ⟨next, q, hproject, hperform, rfl, rfl⟩ := Registrar.carryOut_ok hrun
  have hperformed : client.registrar.Run summary.projectId tasks g { s with failAfter := none }
      next q := ⟨⟨rfl, hsteady.of_token rfl⟩, hproject, hperform⟩
  have hfinds := hperformed.findsProject hsession h.sound hfresh
  have hstart : client.registrar.Stage summary.projectId tasks g { s with failAfter := none } next
      g { s with failAfter := limit } := .start ⟨rfl, rfl, rfl⟩
  obtain ⟨hattempted, -⟩ := hstart.attempted hsession hperformed hfinds
  rw [Client.attempt]
  simp only [Client.registerFeatures_of_plan hvalid hplan]
  obtain ⟨summary', t, hlast, hid, hagrees⟩ :=
    (hattempted.limit none).replayed hsession hperformed h.sound hfresh rfl
  exact ⟨summary', t, hlast, hid, hagrees.contents, hagrees.drawn⟩

/-- A run that fails after three creations, and another one on the graph as it was before, lead to
the registry to which the graph is written at once. -/
theorem Store.empty_registration_replays :
    (Client.counting.registerFeatures .small
        { (Client.counting.attempt (.small, .empty none) (some 3)).2 with
          failAfter := none }).2.2.contents = withSmall.contents := by
  obtain ⟨summary, g', hrun⟩ := exists_registerFeatures_small
  obtain ⟨_, s, hlast, -, hcontents, -⟩ := Reachable.registration_replays (.empty none) rfl
    (isSteady_const _ _) hrun fresh_withSmall (some 3)
  rw [hlast]
  exact hcontents

end FeatureCatalog
