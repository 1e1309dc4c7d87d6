import FeatureCatalog.Proofs.Client.Fetchable
import FeatureCatalog.Proofs.Graph.Decoded
import FeatureCatalog.Proofs.Store.Names

/-! Fetching a project and registering it again changes nothing. All of the fetched graph counts as
registered in its project, so the project is all that the second run asks for, and the registry has
it already. -/

namespace FeatureCatalog

namespace Client

variable {client : Client Store} {entropy : Entropy} {s s' : Store} {name : String} {g : Graph}

/-- A project that has been fetched was there, the client was let in, and the graph has been read
from what is stored. -/
theorem decodedFrom_of_fetchProject (hsession : client.session = Store.session entropy)
    (h : client.fetchProject name s = (.ok g, s')) :
    s' = s ∧ s.isAuthorized (client.headers s) = true ∧ ∃ id payload,
      s.contents.projectNamed? name = some id ∧ s.contents.payload name = .ok payload ∧
      g.DecodedFrom payload := by
  have hread : client.session.read ["projects", name] (client.headers s) s =
      (s.read ["projects", name] (client.headers s), s) := by
    rw [hsession]
    rfl
  unfold fetchProject read at h
  rw [hread] at h
  cases hauthorized : s.isAuthorized (client.headers s) with
  | false =>
    simp only [Store.read, hauthorized] at h
    cases congrArg Prod.fst h
  | true =>
    cases hpayload : s.contents.payload name with
    | error cause =>
      simp only [Store.read, hauthorized, hpayload, if_true] at h
      cases congrArg Prod.fst h
    | ok payload =>
      simp only [Store.read, hauthorized, hpayload, if_true] at h
      obtain ⟨hgraph, rfl⟩ := Prod.mk.inj h
      have hdecoded : Graph.ofJson payload.toJson = .ok g := hgraph
      rw [Graph.ofJson, ProjectPayload.decoder_toJson] at hdecoded
      cases hproject : s.contents.projectNamed? name with
      | none =>
        simp only [Contents.payload, hproject] at hpayload
        cases hpayload
      | some id =>
        exact ⟨rfl, rfl, id, payload, rfl, rfl, Graph.decodedFrom_of_ofPayload hdecoded⟩

end Client

/-- The context sources of a graph that has been read from a project are called after it. -/
theorem Graph.DecodedFrom.qualifiedName_of_context {g : Graph} {c : Contents} {name : String}
    {id : EntityId} {payload : ProjectPayload} (h : g.DecodedFrom payload) (hc : c.Sound)
    (hnamed : c.Named) (hproject : c.projectNamed? name = some id)
    (hpayload : c.payload name = .ok payload) {s : Source} (hs : s ∈ g.sources) {r : Registration}
    (hr : s.registration = some r) (hcontext : s.isContext = true) :
    r.qualifiedName = qualifiedName name [s.name] := by
  obtain ⟨k, e, hmem, hread⟩ := h.sources s hs
  simp only [Contents.payload, hproject] at hpayload
  obtain rfl := Except.ok.inj hpayload
  obtain ⟨stored, hstored, rfl, rfl⟩ := Contents.mem_payload.1 hmem
  obtain ⟨n, hn⟩ := hnamed hstored
  cases hread with
  | @source s q htype hq hdecode =>
    obtain rfl := Option.some.inj hr
    have hname : s.name = n := by
      rw [(Source.writable_of_decode hdecode).2 hcontext, hn.text, Option.getD_some]
    have hcalls := hc.calls_member hstored (by rw [htype]; decide) (by rw [htype]; decide) hn.text
      (Contents.exists_of_projectNamed? hproject)
    obtain rfl := Option.some.inj (hq.symm.trans hcalls)
    exact congrArg (qualifiedName name [·]) hname.symm

namespace Store

variable {entropy : Entropy} {s s' : Store}

/-- Registering a project as it has been fetched creates nothing. In every registry that calls can
lead to, unless creations are to fail, a client that registers what has been fetched of its project
with the same headers makes one call. It creates the project, which is there; nothing else is
created, and all that changes are the counts of calls and of creations that have succeeded. -/
theorem Reachable.registerFeatures_fetched (h : Reachable entropy s) {reader client : Client Store}
    (hreader : reader.session = session entropy) (hclient : client.session = session entropy)
    (hheaders : client.headers s = reader.headers s) (hvalid : client.config.validate = .ok ())
    (hfailing : s.isFailing = false) {g : Graph}
    (hfetch : reader.fetchProject client.config.project s = (.ok g, s')) :
    s' = s ∧ ∃ id skipped, s.contents.projectNamed? client.config.project = some id ∧
      client.registrar.log g s =
        [.create ["projects"]
          (.obj [ ("name", .str client.config.project),
            ("tags", Json.ofTags client.config.projectTags) ]) (client.headers s)] ∧
      client.registerFeatures g s = (.ok ⟨id, 0, skipped⟩, g,
        { s with createCalls := s.createCalls + 1, created := s.created + 1 }) := by
  obtain ⟨rfl, hauthorized, id, payload, hproject, hpayload, hdecoded⟩ :=
    Client.decodedFrom_of_fetchProject hreader hfetch
  -- Every task of the plan is done, as context sources are called after the project.
  obtain ⟨tasks, hplan, hof⟩ := hdecoded.exists_plan
  have hdone : ∀ task ∈ tasks, task.isDone client.registrar.project g = true := by
    intro task htask
    exact hdecoded.isDone (fun source hsource r hr hcontext =>
      hdecoded.qualifiedName_of_context h.sound h.named hproject hpayload hsource hr hcontext)
      (hof task htask)
  obtain ⟨htranscript, hregister⟩ := Registrar.register_of_isDone hplan hdone s'
  obtain ⟨stored, hstored, htype, hname⟩ := Contents.exists_of_projectNamed? hproject
  obtain ⟨name, hnamed⟩ := h.named hstored
  obtain rfl := Option.some.inj (hname.symm.trans hnamed.text)
  have hbody : client.registrar.projectRequest.body.IsNamed client.config.project :=
    ⟨rfl, hnamed.ne_empty⟩
  obtain ⟨entity, hcreate, rfl⟩ := create_eq_of_isProject entropy ⟨stored, hstored, htype, hname⟩
    h.sound hbody (hheaders ▸ hauthorized) hfailing
  have hanswer : client.registrar.session.create client.registrar.projectRequest.path
      (.obj client.registrar.projectRequest.body) (client.registrar.headers s') s' =
      s'.create entropy ["projects"] (.obj client.registrar.projectRequest.body)
        (client.headers s') := by
    rw [show client.registrar.session = session entropy from hclient]
    rfl
  refine ⟨rfl, entity.guid, tasks.length, hproject, ?_, ?_⟩
  · rw [Registrar.log_eq, htranscript]
    rfl
  · rw [Client.registerFeatures, hvalid]
    change client.registrar.register g s' = _
    rw [hregister, hanswer, hcreate]

/-- A small graph that has been written, fetched and registered again. -/
theorem withSmall_registerFeatures_fetched : ∃ g skipped,
    Client.counting.fetchProject "p" withSmall = (.ok g, withSmall) ∧
      Client.counting.registrar.log g withSmall =
        [.create ["projects"] (.obj [("name", .str "p"), ("tags", .obj [])]) []] ∧
      Client.counting.registerFeatures g withSmall = (.ok ⟨.ofBits 0, 0, skipped⟩, g,
        { withSmall with
          createCalls := withSmall.createCalls + 1, created := withSmall.created + 1 }) := by
  have hwritten : Written .counting withSmall :=
    .register Client.counting .small rfl .empty fresh_withSmall
  obtain ⟨hsound, hopen⟩ := hwritten.sound_and_isOpen
  have hproject : withSmall.contents.projectNamed? "p" = some (.ofBits 0) ∧
      withSmall.isFailing = false := by
    rw [withSmall, Client.registerFeatures_small]
    decide +kernel
  obtain ⟨part, hshow⟩ := hopen.readable.exists_shows (.ofBits 0)
  obtain ⟨relations, hfetch⟩ := Client.counting.fetchProject_eq_ok rfl (hopen.isAuthorized _)
    hsound hshow hproject.1
  have hsession : Client.counting.session = session .counting := rfl
  obtain ⟨-, id, skipped, hid, hlog, hregister⟩ :=
    Reachable.registerFeatures_fetched hwritten.reachable hsession hsession rfl
      (by decide +kernel) hproject.2 hfetch
  obtain rfl := Option.some.inj (hproject.1.symm.trans hid)
  exact ⟨_, skipped, hfetch, hlog, hregister⟩

end Store

end FeatureCatalog
