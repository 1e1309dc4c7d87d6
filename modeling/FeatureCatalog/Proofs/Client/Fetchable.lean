import FeatureCatalog.Proofs.Client.Run
import FeatureCatalog.Proofs.Registration.Plan
import FeatureCatalog.Proofs.Store.Reachable
import FeatureCatalog.Proofs.Store.Readable

/-! Projects that clients have written can be fetched, whatever graphs they have registered,
wherever a registration has stopped, and whatever they have deleted. -/

namespace FeatureCatalog

namespace Store

/-- The registries that the operations of clients can lead to, starting from an empty one that needs
no token: any client may register any graph, read, and delete. Between two operations creations may
be told to fail. Ids that are drawn are not in use. -/
inductive Written (entropy : Entropy) : Store → Prop
  | empty : Written entropy (.empty none)
  | limit {s} (limit : Option Nat) : Written entropy s →
      Written entropy { s with failAfter := limit }
  | register {s} (client : Client Store) (g : Graph) : client.session = session entropy →
      Written entropy s →
      entropy.Fresh s.contents s.drawn (client.registerFeatures g s).2.2.drawn →
      Written entropy (client.registerFeatures g s).2.2
  | read {s} (client : Client Store) (path : List String) : client.session = session entropy →
      Written entropy s → Written entropy (client.read path s).2
  | delete {s} (client : Client Store) (qualifiedName : String) :
      client.session = session entropy → Written entropy s →
      Written entropy (client.delete qualifiedName s).2

variable {entropy : Entropy} {s s' : Store}

/-- What holds of a registry to which only clients have written, where no token is needed. -/
structure IsOpen (s : Store) : Prop where
  token : s.token = none
  readable : s.contents.Readable

theorem IsOpen.isAuthorized (h : s.IsOpen) (headers : Headers) :
    s.isAuthorized headers = true := by
  unfold Store.isAuthorized
  rw [h.token]

/-- A request of a registration keeps a registry readable, whether it is refused or not. -/
theorem IsOpen.create (h : s.IsOpen) (hs : s.contents.Sound) {request : CreateRequest}
    (hissued : request.Issued) {headers : Headers} {answer : Except TransportError CreatedEntity}
    (hcreate : s.create entropy request.path (.obj request.body) headers = (answer, s'))
    (hfresh : entropy.Fresh s.contents s.drawn s'.drawn) : s'.IsOpen := by
  obtain ⟨hkeeps, hcontents | ⟨_, _, hbody, hcreates⟩⟩ := create_cases hs hcreate
  · exact ⟨hkeeps.token.trans h.token, hcontents ▸ h.readable⟩
  · obtain rfl := Json.obj.inj hbody
    exact ⟨hkeeps.token.trans h.token, h.readable.creates hs hissued hcreates hfresh⟩

theorem IsOpen.delete (h : s.IsOpen) (hs : s.contents.Sound) {path : List String}
    {headers : Headers} {answer : Except TransportError Json}
    (hdelete : s.delete path headers = (answer, s')) : s'.IsOpen := by
  obtain ⟨-, hkeeps, hcontents | ⟨id, -, -, hcontents⟩⟩ := delete_cases hdelete
  · exact ⟨hkeeps.token.trans h.token, hcontents ▸ h.readable⟩
  · exact ⟨hkeeps.token.trans h.token, hcontents ▸ h.readable.remove hs id⟩

theorem state_read {client : Client Store} (hsession : client.session = session entropy)
    (path : List String) (s : Store) : (client.read path s).2 = s := by
  rw [client.state_read, hsession]
  rfl

theorem state_delete {client : Client Store} (hsession : client.session = session entropy)
    (qualifiedName : String) (s : Store) :
    (client.delete qualifiedName s).2 =
      (s.delete ["entity", qualifiedName] (client.headers s)).2 := by
  rw [client.state_delete, hsession]
  rfl

theorem isOpen_registerFeatures {client : Client Store}
    (hsession : client.session = session entropy) (g : Graph) (hs : s.contents.Sound) (h : s.IsOpen)
    (hfresh : entropy.Fresh s.contents s.drawn (client.registerFeatures g s).2.2.drawn) :
    (client.registerFeatures g s).2.2.contents.Sound ∧
      (client.registerFeatures g s).2.2.IsOpen := by
  have hfollows := client.follows_registerFeatures hsession
    (fun hissued hsound hfresh hopen hcreate => IsOpen.create hopen hsound hissued hcreate hfresh)
    g hs h
  exact ⟨hfollows.sound hfresh, hfollows.prop hfresh⟩

theorem Written.sound_and_isOpen (h : Written entropy s) : s.contents.Sound ∧ s.IsOpen := by
  induction h with
  | empty => exact ⟨.empty, rfl, .empty⟩
  | limit _ _ ih => exact ⟨ih.1, ih.2.token, ih.2.readable⟩
  | register client g hsession _ hfresh ih =>
    exact isOpen_registerFeatures hsession g ih.1 ih.2 hfresh
  | read client path hsession _ ih => rwa [state_read hsession]
  | delete client qualifiedName hsession _ ih =>
    rw [state_delete hsession]
    exact ⟨sound_delete ih.1 (Prod.mk.eta).symm, ih.2.delete ih.1 (Prod.mk.eta).symm⟩

/-- What clients lead to, calls lead to. -/
theorem Written.reachable (h : Written entropy s) : Reachable entropy s := by
  induction h with
  | empty => exact .empty none
  | limit limit _ ih => exact .limit limit ih
  | @register s client g hsession _ hfresh ih =>
    have hcreate : ∀ {request : CreateRequest} {t t' : Store} {answer}, request.Issued →
        t.contents.Sound → entropy.Fresh t.contents t.drawn t'.drawn → Reachable entropy t →
        t.create entropy request.path (.obj request.body) (client.headers t) = (answer, t') →
        Reachable entropy t' := by
      intro request t t' answer _ _ hfresh ht hcreate
      obtain rfl : (t.create entropy request.path (.obj request.body) (client.headers t)).2 = t' :=
        congrArg Prod.snd hcreate
      exact .create _ _ _ ht hfresh
    exact (client.follows_registerFeatures hsession hcreate g ih.sound ih).prop hfresh
  | read client path hsession _ ih => rwa [state_read hsession]
  | delete client qualifiedName hsession _ ih =>
    rw [state_delete hsession]
    exact .delete _ _ ih

/-- Every project in a registry to which only clients have written has a name, by which any client
can fetch its graph. -/
theorem Written.fetchProject_ok (h : Written entropy s) {client : Client Store}
    (hsession : client.session = session entropy) {id : EntityId} {stored : Stored}
    (hstored : s.contents.stored? id = some stored) (htype : stored.entity.type = .project) :
    ∃ name g, stored.entity.name? = some name ∧ client.fetchProject name s = (.ok g, s) := by
  obtain ⟨hsound, hopen⟩ := h.sound_and_isOpen
  obtain ⟨-, name, hname, -⟩ := hsound.project hstored htype
  cases hproject : s.contents.projectNamed? name with
  | none => exact absurd hname (Contents.ne_of_projectNamed?_eq_none hproject hstored htype)
  | some project =>
    obtain ⟨part, hshow⟩ := hopen.readable.exists_shows project
    obtain ⟨relations, hfetch⟩ :=
      client.fetchProject_eq_ok hsession (hopen.isAuthorized _) hsound hshow hproject
    exact ⟨name, _, hname, hfetch⟩

end Store

/-- A graph with one entity of each kind. -/
def Graph.small : Graph where
  sources := [.ofKind "s" (.hdfs "/data")]
  anchors := [⟨"a", ⟨0⟩, [⟨0⟩], .empty, none⟩]
  features := [⟨"f", default, [], none, .empty, none⟩]
  derived := [⟨"d", default, [], [⟨0⟩], [], none, .empty, none⟩]
  relations := []

theorem Graph.plan_small :
    Graph.small.plan = .ok [.source ⟨0⟩, .anchor ⟨0⟩, .feature ⟨0⟩ ⟨0⟩, .derived ⟨0⟩] := by
  have horder : small.order small.derivedKeys = .ok [⟨0⟩] := by
    cbv
  exact plan_eq_ok.2 ⟨[⟨0⟩], horder, by decide, by decide, rfl⟩

/-- A client of a registry that counts to make ids. -/
def Client.counting : Client Store :=
  ⟨.ofNames "http://localhost" "p", Store.session .counting, none⟩

theorem Client.registerFeatures_small (s : Store) : Client.counting.registerFeatures .small s =
    Client.counting.registrar.carryOut
      [.source ⟨0⟩, .anchor ⟨0⟩, .feature ⟨0⟩ ⟨0⟩, .derived ⟨0⟩] .small s :=
  registerFeatures_of_plan (by decide +kernel) Graph.plan_small s

namespace Store

/-- A registry to which a small graph has been written. -/
def withSmall : Store := (Client.counting.registerFeatures .small (.empty none)).2.2

theorem fresh_withSmall : Entropy.counting.Fresh .empty 0 withSmall.drawn := by
  have hdrawn : withSmall.drawn = 5 := by
    rw [withSmall, Client.registerFeatures_small]
    decide +kernel
  rw [hdrawn]
  exact Entropy.fresh_counting (by decide +kernel)

theorem exists_registerFeatures_small : ∃ summary g',
    Client.counting.registerFeatures .small (.empty none) = (.ok summary, g', withSmall) := by
  have hcreated : (Client.counting.registerFeatures .small (.empty none)).1.toOption.map
      (·.created) = some 4 := by
    rw [Client.registerFeatures_small]
    decide +kernel
  obtain ⟨summary, hsummary, -⟩ := Option.map_eq_some_iff.1 hcreated
  refine ⟨summary, (Client.counting.registerFeatures .small (.empty none)).2.1, ?_⟩
  cases hanswer : (Client.counting.registerFeatures .small (.empty none)).1 with
  | error e => simp [hanswer, Except.toOption] at hsummary
  | ok summary' =>
    obtain rfl : summary' = summary := by simpa [hanswer, Except.toOption] using hsummary
    exact Prod.ext hanswer rfl

theorem withSmall_fetchProject_ok :
    ∃ g, Client.counting.fetchProject "p" withSmall = (.ok g, withSmall) := by
  have hwritten : Written .counting withSmall :=
    .register Client.counting .small rfl .empty fresh_withSmall
  have hproject : (withSmall.contents.stored? (.ofBits 0)).map
      (fun stored => (stored.entity.type, stored.entity.name?)) = some (.project, some "p") := by
    rw [withSmall, Client.registerFeatures_small]
    decide +kernel
  obtain ⟨stored, hstored, heq⟩ := Option.map_eq_some_iff.1 hproject
  obtain ⟨htype, hname⟩ := Prod.mk.inj heq
  have hsession : Client.counting.session = session .counting := rfl
  obtain ⟨name, g, hname', hfetch⟩ :=
    Written.fetchProject_ok hwritten hsession hstored htype
  obtain rfl := Option.some.inj (hname.symm.trans hname')
  exact ⟨g, hfetch⟩

end Store

end FeatureCatalog
