import FeatureCatalog.Proofs.Client.Fetchable
import FeatureCatalog.Proofs.Store.Authorized

/-! Credentials: what presents a client's token goes on every call, and in a sandbox on none. Main
statement: in every run of a client each call carries what its provider answers at that call, and
no call carries anything in a sandbox; so a registry that asks for the token turns none of them
away, or all of them, and is left as it was. -/

namespace FeatureCatalog

namespace Session

variable {σ : Type}

/-- The state that a call leads to. -/
def step (s : Session σ) (state : σ) : Call → σ
  | .create path body headers => (s.create path body headers state).2
  | .read path headers => (s.read path headers state).2
  | .delete path headers => (s.delete path headers state).2

/-- The state that calls lead to, one after the other. -/
def after (s : Session σ) (state : σ) (calls : List Call) : σ := calls.foldl s.step state

theorem after_concat (s : Session σ) (state : σ) (calls : List Call) (call : Call) :
    s.after state (calls ++ [call]) = s.step (s.after state calls) call := by
  simp only [after, List.foldl_append, List.foldl_cons, List.foldl_nil]

/-- A recording session holds the calls that have led to its state. -/
theorem log_after_recording (s : Session σ) (state : List Call × σ) (calls : List Call) :
    (s.recording.after state calls).1 = state.1 ++ calls := by
  induction calls generalizing state with
  | nil => exact (List.append_nil _).symm
  | cons call rest ih =>
    rw [after, List.foldl_cons, ← after, ih, List.append_cons]
    cases call <;> rfl

end Session

theorem Reply.call_of {α : Type} (call : Call) (answer : Except TransportError α) :
    (Reply.of call answer).call = call := by
  cases answer <;> rfl

/-- The call was not answered as one that lacks the token. -/
def Reply.IsAdmitted (reply : Reply) : Prop :=
  ∀ cause, reply.error? = some cause → cause.status ≠ 401

theorem Admits.isAdmitted {α : Type} {answer : Except TransportError α} (h : Admits answer)
    (call : Call) : (Reply.of call answer).IsAdmitted := by
  rintro cause hcause
  cases h with
  | ok a => cases hcause
  | error status body h =>
    obtain rfl := Option.some.inj hcause
    exact h

namespace Client

theorem headers_eq {σ : Type} (c : Client σ) (state : σ) :
    c.headers state = if c.config.sandbox then [] else AuthProvider.headers c.auth state := by
  unfold headers provider?
  split <;> rfl

section Carries

variable {σ : Type} {c : Client σ} {start state : σ} {calls : List Call} {call : Call}

/-- The calls have led from `start` to `state`, and each of them carries the headers that the client
gives in the state in which it was made. -/
structure Carries (c : Client σ) (start : σ) (calls : List Call) (state : σ) : Prop where
  after : c.session.after start calls = state
  headers : ∀ i call, calls[i]? = some call →
    call.headers = c.headers (c.session.after start (calls.take i))

theorem Carries.concat (h : c.Carries start calls state)
    (hheaders : call.headers = c.headers state) :
    c.Carries start (calls ++ [call]) (c.session.step state call) where
  after := by rw [Session.after_concat, h.after]
  headers i call' hi := by
    by_cases hlt : i < calls.length
    · rw [List.getElem?_append_left hlt] at hi
      rw [List.take_append_of_le_length (Nat.le_of_lt hlt)]
      exact h.headers i call' hi
    · have hlast : i < (calls ++ [call]).length := (List.getElem?_eq_some_iff.1 hi).1
      obtain rfl : i = calls.length := by
        rw [List.length_append, List.length_singleton] at hlast
        omega
      rw [List.getElem?_concat_length] at hi
      obtain rfl := Option.some.inj hi
      rw [List.take_left, h.after]
      exact hheaders

theorem Carries.concat_reply {α : Type} {replies : List Reply}
    (h : c.Carries start (replies.map (·.call)) state) (call : Call)
    (answer : Except TransportError α) (hheaders : call.headers = c.headers state) :
    c.Carries start ((replies ++ [Reply.of call answer]).map (·.call))
      (c.session.step state call) := by
  rw [List.map_append, List.map_singleton, Reply.call_of]
  exact h.concat hheaders

/-- A watched session notes calls that carry the client's headers. -/
theorem keeps_carries (c : Client σ) (start : σ) :
    (c.withSession c.session.watched Prod.snd).Keeps fun state =>
      c.Carries start (state.1.map (·.call)) state.2 where
  create path body _ h :=
    h.concat_reply (.create path body _) _ (c.headers_withSession _ _ _)
  read path _ h := h.concat_reply (.read path _) _ (c.headers_withSession _ _ _)
  delete path _ h := h.concat_reply (.delete path _) _ (c.headers_withSession _ _ _)

/-- In every run, each call carries the client's headers. -/
theorem carries_calls (c : Client σ) (operations : List Operation) (state : σ) :
    c.Carries state (c.calls operations state) (c.run operations state) := by
  have hstart : c.Carries state [] state := ⟨rfl, fun _ _ h => by cases h⟩
  have hrun : c.Carries state (c.calls operations state)
      ((c.withSession c.session.watched Prod.snd).run operations ([], state)).2 := by
    refine (keeps_carries c state).run ?_ operations
    exact hstart
  rwa [run_withSession c.session.shows_watched] at hrun

/-- If the answers of the provider are a sequence, each call of a run carries the one with its
number. -/
theorem headers_of_answers (config : RegistryConfig) (session : Session σ)
    (answers : Nat → Headers) (operations : List Operation) (state : σ) {i : Nat}
    (hcall : (run ⟨config, session.recording, some fun past => answers past.1.length⟩ operations
      ([], state)).1[i]? = some call) :
    call.headers = if config.sandbox then [] else answers i := by
  obtain ⟨hafter, hheaders⟩ := carries_calls
    ⟨config, session.recording, some fun past => answers past.1.length⟩ operations ([], state)
  rw [← hafter, Session.log_after_recording, List.nil_append] at hcall
  have hlength := List.length_take_of_le (Nat.le_of_lt (List.getElem?_eq_some_iff.1 hcall).1)
  rw [hheaders i call hcall, headers_eq]
  change (if config.sandbox then [] else
    answers (session.recording.after ([], state) _).1.length) = _
  rw [Session.log_after_recording, List.nil_append, hlength]

end Carries

section Yields

variable {σ : Type} {c : Client σ} {P : σ → Prop} {Q : Reply → Prop}

/-- Every call with the client's headers keeps `P`, and from a state of which `P` holds its reply
has the property `Q`. -/
structure Yields (c : Client σ) (P : σ → Prop) (Q : Reply → Prop) : Prop where
  keeps : c.Keeps P
  create : ∀ path body {state}, P state →
    Q (.of (.create path body (c.headers state))
      (c.session.create path body (c.headers state) state).1)
  read : ∀ path {state}, P state →
    Q (.of (.read path (c.headers state)) (c.session.read path (c.headers state) state).1)
  delete : ∀ path {state}, P state →
    Q (.of (.delete path (c.headers state)) (c.session.delete path (c.headers state) state).1)

theorem Yields.keeps_watched (h : c.Yields P Q) :
    (c.withSession c.session.watched Prod.snd).Keeps fun state =>
      P state.2 ∧ ∀ reply ∈ state.1, Q reply := by
  have hmore : ∀ {replies : List Reply} {reply : Reply}, (∀ reply ∈ replies, Q reply) → Q reply →
      ∀ reply' ∈ replies ++ [reply], Q reply' := fun hold hnew =>
    List.forall_mem_append.2 ⟨hold, List.forall_mem_singleton.2 hnew⟩
  refine ⟨fun path body state ⟨hstate, hreplies⟩ => ?_, fun path state ⟨hstate, hreplies⟩ => ?_,
    fun path state ⟨hstate, hreplies⟩ => ?_⟩
  all_goals rw [headers_withSession]
  · exact ⟨h.keeps.create path body hstate, hmore hreplies (h.create path body hstate)⟩
  · exact ⟨h.keeps.read path hstate, hmore hreplies (h.read path hstate)⟩
  · exact ⟨h.keeps.delete path hstate, hmore hreplies (h.delete path hstate)⟩

/-- What every call yields, all replies of a run have. -/
theorem Yields.replies (h : c.Yields P Q) {state : σ} (hstate : P state)
    (operations : List Operation) : ∀ reply ∈ c.replies operations state, Q reply := by
  have hstart : P state ∧ ∀ reply ∈ ([] : List Reply), Q reply := ⟨hstate, nofun⟩
  exact (h.keeps_watched.run hstart operations).2

end Yields

section Registry

variable {entropy : Entropy} {c : Client Store} {token : String}

variable (hsession : c.session = Store.session entropy)
include hsession

theorem keeps_token : c.Keeps fun s => s.token = some token where
  create path body {s} hs := by
    rw [hsession]
    exact (Store.answers_create entropy s path body (c.headers s)).keeps.token.trans hs
  read path {s} hs := by
    rw [hsession]
    exact hs
  delete path {s} hs := by
    rw [hsession]
    obtain ⟨-, hkeeps, -⟩ :=
      Store.delete_cases (Prod.mk.eta (p := s.delete path (c.headers s))).symm
    exact hkeeps.token.trans hs

/-- A registry admits all calls of a client that presents its token. -/
theorem yields_admitted (hheaders : ∀ s, c.headers s = bearer token) :
    c.Yields (fun s => s.token = some token) Reply.IsAdmitted where
  keeps := keeps_token hsession
  create path body {s} hs := by
    rw [hsession, hheaders]
    exact (Store.admits_create (Store.isAuthorized_bearer hs) body).isAdmitted _
  read path {s} hs := by
    rw [hsession, hheaders]
    exact (Store.admits_read (Store.isAuthorized_bearer hs)).isAdmitted _
  delete path {s} hs := by
    rw [hsession, hheaders]
    exact (Store.admits_delete (Store.isAuthorized_bearer hs)).isAdmitted _

/-- A registry that asks for a token turns away all calls without headers, and stays as it is. -/
theorem yields_unauthorized {s : Store} (hs : s.token = some token)
    (hheaders : ∀ s, c.headers s = []) :
    c.Yields (· = s) fun reply => reply.error? = some Store.unauthorized := by
  have hnot := Store.isAuthorized_nil hs
  -- Nothing changes, so each call is answered in the one state `s`.
  have hcreate : ∀ path body, c.session.create path body (c.headers s) s =
      (.error Store.unauthorized, s) := by
    rw [hsession, hheaders]
    exact Store.create_of_not_isAuthorized hnot entropy
  have hread : ∀ path, c.session.read path (c.headers s) s = (.error Store.unauthorized, s) := by
    rw [hsession, hheaders]
    exact fun path => congrArg (·, s) (Store.read_of_not_isAuthorized hnot path)
  have hdelete : ∀ path, c.session.delete path (c.headers s) s =
      (.error Store.unauthorized, s) := by
    rw [hsession, hheaders]
    exact Store.delete_of_not_isAuthorized hnot
  exact {
    keeps := {
      create := fun path body _ h => by rw [h, hcreate]
      read := fun path _ h => by rw [h, hread]
      delete := fun path _ h => by rw [h, hdelete] }
    create := fun path body _ h => by rw [h, hcreate]; rfl
    read := fun path _ h => by rw [h, hread]; rfl
    delete := fun path _ h => by rw [h, hdelete]; rfl }

end Registry

/-- Whatever a client is asked to do, and whatever its session does, each call that it makes carries
what its provider answers at that call, if it has a provider and is no sandbox, and no headers
otherwise. The provider may look at the state in which the call is made, which is the one that the
calls before it have led to; and if its answers are a sequence, the call carries the answer with the
number of the call. So a registry that asks for a token never answers that it is missing to a client
with that token, and answers nothing else to a sandbox, whose operations leave it as it was. -/
theorem credentials_on_every_call (config : RegistryConfig) (operations : List Operation) :
    (∀ {σ : Type} (session : Session σ) (auth : Option (AuthProvider σ)) (state : σ),
      run ⟨config, session.recording, auth.map (.comap Prod.snd)⟩ operations ([], state) =
        (calls ⟨config, session, auth⟩ operations state,
          run ⟨config, session, auth⟩ operations state) ∧
      ∀ i call, (calls ⟨config, session, auth⟩ operations state)[i]? = some call →
        call.headers = if config.sandbox then [] else AuthProvider.headers auth
          (session.after state ((calls ⟨config, session, auth⟩ operations state).take i))) ∧
    (∀ {σ : Type} (session : Session σ) (answers : Nat → Headers) (state : σ) (i : Nat)
        (call : Call),
      (run ⟨config, session.recording, some fun past => answers past.1.length⟩ operations
        ([], state)).1[i]? = some call →
      call.headers = if config.sandbox then [] else answers i) ∧
    ∀ (entropy : Entropy) (s : Store) (token : String), s.token = some token →
      (config.sandbox = false →
        ∀ reply ∈ replies ⟨config, Store.session entropy, some (bearer token)⟩ operations s,
          ∀ cause, reply.error? = some cause → cause.status ≠ 401) ∧
      (config.sandbox = true → ∀ auth : Option (AuthProvider Store),
        (∀ reply ∈ replies ⟨config, Store.session entropy, auth⟩ operations s,
          reply.error? = some Store.unauthorized) ∧
        run ⟨config, Store.session entropy, auth⟩ operations s = s) := by
  refine ⟨fun session auth state => ⟨?_, fun i call hcall => ?_⟩,
    fun session answers state i call => headers_of_answers config session answers operations state,
    fun entropy s token hs => ⟨fun hsandbox => ?_, fun hsandbox auth => ?_⟩⟩
  · exact run_recording ⟨config, session, auth⟩ operations state
  · have hcarries := carries_calls ⟨config, session, auth⟩ operations state
    exact (hcarries.headers i call hcall).trans (headers_eq _ _)
  · have hheaders : ∀ t, headers ⟨config, Store.session entropy, some (bearer token)⟩ t =
        bearer token := fun t => (headers_eq _ _).trans (if_neg (by simp [hsandbox]))
    exact (yields_admitted rfl hheaders).replies hs operations
  · have hheaders : ∀ t, headers ⟨config, Store.session entropy, auth⟩ t = [] :=
      fun t => (headers_eq _ _).trans (if_pos hsandbox)
    have hyields := yields_unauthorized rfl hs hheaders
    exact ⟨hyields.replies rfl operations, hyields.keeps.run rfl operations⟩

/-- A client that presents a token, or does not as it is a sandbox. -/
def holding (sandbox : Bool) : Client Store :=
  ⟨{ RegistryConfig.ofNames "http://localhost" "p" with sandbox },
    Store.session .counting, some (bearer "t")⟩

/-- Headers that present a token and number the calls. -/
def numbered (n : Nat) : Headers := ("Number", toString n) :: bearer "t"

/-- One operation of each kind. -/
def eachOperation : List Operation :=
  [.register .small, .fetch "p", .listFeatures "p", .listDependents "p", .delete "p__d"]

/-- The run of these operations without the walk through the dependencies of the graph. -/
theorem run_eachOperation {σ : Type} (c : Client σ) (hvalid : c.config.validate = .ok ())
    (state : σ) : c.run eachOperation state =
      eachOperation.tail.foldl c.apply (c.registrar.carryOut
        [.source ⟨0⟩, .anchor ⟨0⟩, .feature ⟨0⟩ ⟨0⟩, .derived ⟨0⟩] .small state).2.2 := by
  rw [← registerFeatures_of_plan hvalid Graph.plan_small, run, eachOperation, List.foldl_cons,
    apply, List.tail_cons]

/-- A registry that asks for the token turns away none of the nine calls of a client that has it,
and each of the five that the client makes in a sandbox. If the provider numbers the calls, each of
the nine carries its number. -/
theorem eachOperation_credentials :
    (((holding false).replies eachOperation (.empty (some "t"))).length = 9 ∧
      ∀ reply ∈ (holding false).replies eachOperation (.empty (some "t")),
        reply.call.headers = bearer "t" ∧
          ∀ cause, reply.error? = some cause → cause.status ≠ 401) ∧
    (((holding true).replies eachOperation (.empty (some "t"))).length = 5 ∧
      (∀ reply ∈ (holding true).replies eachOperation (.empty (some "t")),
        reply.call.headers = [] ∧ reply.error? = some Store.unauthorized) ∧
      (holding true).run eachOperation (.empty (some "t")) = .empty (some "t")) ∧
    ∀ i < 9, ∃ call, (run ⟨(holding false).config, (Store.session .counting).recording,
        some fun past => numbered past.1.length⟩ eachOperation ([], .empty (some "t"))).1[i]? =
          some call ∧ call.headers = numbered i := by
  have hvalid : ∀ sandbox, (holding sandbox).config.validate = .ok () := by decide +kernel
  obtain ⟨hcalls, hanswers, hregistry⟩ :=
    credentials_on_every_call (holding false).config eachOperation
  obtain ⟨hcalls', -, hregistry'⟩ := credentials_on_every_call (holding true).config eachOperation
  have hadmits := (hregistry .counting (.empty (some "t")) "t" rfl).1 rfl
  obtain ⟨hrefuses, hkeeps⟩ :=
    (hregistry' .counting (.empty (some "t")) "t" rfl).2 rfl (some (bearer "t"))
  refine ⟨⟨?_, fun reply hreply => ⟨?_, hadmits reply hreply⟩⟩,
    ⟨?_, fun reply hreply => ⟨?_, hrefuses reply hreply⟩, hkeeps⟩, fun i hi => ?_⟩
  · rw [replies, run_eachOperation]
    · decide +kernel
    · exact hvalid false
  · obtain ⟨i, hi⟩ := List.getElem?_of_mem (List.mem_map_of_mem (f := Reply.call) hreply)
    exact (hcalls _ _ _).2 i reply.call hi
  · rw [replies, run_eachOperation]
    · decide +kernel
    · exact hvalid true
  · obtain ⟨i, hi⟩ := List.getElem?_of_mem (List.mem_map_of_mem (f := Reply.call) hreply)
    exact (hcalls' _ _ _).2 i reply.call hi
  · have hlength : (run ⟨(holding false).config, (Store.session .counting).recording,
        some fun past => numbered past.1.length⟩ eachOperation
          ([], .empty (some "t"))).1.length = 9 := by
      rw [run_eachOperation]
      · decide +kernel
      · exact hvalid false
    have hcall := List.getElem?_eq_getElem (hlength ▸ hi)
    exact ⟨_, hcall, hanswers _ numbered _ i _ hcall⟩

end Client

end FeatureCatalog
