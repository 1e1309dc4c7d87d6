import FeatureCatalog.Proofs.Store.Step

/-! Registries that agree: they differ in the calls that they have counted and in when creations are
to fail. As long as creations do not fail, calls are answered alike. -/

namespace FeatureCatalog

namespace Store

variable {entropy : Entropy} {s t : Store}

/-- The registries store the same, ask for the same token and draw the same ids next. -/
structure Agrees (s t : Store) : Prop where
  contents : s.contents = t.contents
  token : s.token = t.token
  drawn : s.drawn = t.drawn

theorem Agrees.refl (s : Store) : s.Agrees s := ⟨rfl, rfl, rfl⟩

theorem Agrees.trans {u : Store} (h : s.Agrees t) (h' : t.Agrees u) : s.Agrees u :=
  ⟨h.contents.trans h'.contents, h.token.trans h'.token, h.drawn.trans h'.drawn⟩

/-- The answers are the same, and the registries still agree. -/
def SameOutcome {α : Type} (a b : Except TransportError α × Store) : Prop :=
  a.1 = b.1 ∧ a.2.Agrees b.2

theorem isAuthorized_congr (h : s.token = t.token) (headers : Headers) :
    s.isAuthorized headers = t.isAuthorized headers := by
  unfold isAuthorized
  rw [h]

/-- The registry treats calls with these headers alike, whatever state it comes to: it lets in all
of them or none. -/
def IsSteady (s : Store) (headers : Store → Headers) : Prop :=
  ∀ t : Store, t.token = s.token → t.isAuthorized (headers t) = s.isAuthorized (headers s)

theorem isSteady_const (s : Store) (headers : Headers) : s.IsSteady fun _ => headers :=
  fun _ htoken => isAuthorized_congr htoken headers

theorem IsSteady.of_token {headers : Store → Headers} (h : s.IsSteady headers)
    (htoken : t.token = s.token) : t.IsSteady headers := fun u hu =>
  (h u (hu.trans htoken)).trans (h t htoken).symm

theorem Agrees.succeed (h : s.Agrees t) (id : EntityId) :
    SameOutcome (s.succeed id) (t.succeed id) := by
  unfold Store.succeed
  rw [h.contents]
  exact ⟨rfl, rfl, h.token, h.drawn⟩

theorem Agrees.addNew (h : s.Agrees t) (d : Definition) :
    SameOutcome (s.addNew entropy d) (t.addNew entropy d) := by
  have hadd : ∀ id, s.contents.add d id = t.contents.add d id := by
    rw [h.contents]
    exact fun _ => rfl
  unfold Store.addNew
  rw [h.drawn]
  cases entropy t.drawn with
  | error reason => exact ⟨rfl, h.contents, h.token, rfl⟩
  | ok bits =>
    refine Agrees.succeed ?_ _
    exact ⟨hadd _, h.token, rfl⟩

theorem Agrees.place (h : s.Agrees t) (creation : Creation) :
    SameOutcome (s.place entropy creation) (t.place entropy creation) := by
  cases creation with
  | existing id => exact h.succeed id
  | define d =>
    unfold Store.place
    rw [h.contents]
    dsimp only
    split
    · exact ⟨rfl, h⟩
    · refine Agrees.succeed ?_ _
      exact ⟨rfl, h.token, h.drawn⟩
    · exact h.addNew d

/-- What a registry answers while creations do not fail. -/
theorem create_of_not_isFailing (hs : s.isFailing = false) (path : List String) (body : Json)
    (headers : Headers) :
    s.create entropy path body headers =
      if s.isAuthorized headers then
        match body with
        | .obj attributes =>
          match Creation.ofCall s.contents path attributes with
          | .error e => (.error e, { s with createCalls := s.createCalls + 1 })
          | .ok creation => { s with createCalls := s.createCalls + 1 }.place entropy creation
        | _ =>
          (.error (.badRequest "request body must be a JSON object"),
            { s with createCalls := s.createCalls + 1 })
      else (.error unauthorized, s) := by
  have hs' : { s with createCalls := s.createCalls + 1 }.isFailing = false := hs
  simp only [Store.create, hs']
  rfl

/-- Registries that agree answer a creation alike, unless one of them is to fail it. Of the headers
it matters only whether they are let in. -/
theorem Agrees.create (h : s.Agrees t) (hs : s.isFailing = false) (ht : t.isFailing = false)
    {headers headers' : Headers} (hauthorized : s.isAuthorized headers = t.isAuthorized headers')
    (entropy : Entropy) (path : List String) (body : Json) :
    SameOutcome (s.create entropy path body headers) (t.create entropy path body headers') := by
  have hcounted : { s with createCalls := s.createCalls + 1 }.Agrees
      { t with createCalls := t.createCalls + 1 } := ⟨h.contents, h.token, h.drawn⟩
  rw [create_of_not_isFailing hs, create_of_not_isFailing ht, hauthorized]
  generalize { s with createCalls := s.createCalls + 1 } = s' at hcounted ⊢
  generalize { t with createCalls := t.createCalls + 1 } = t' at hcounted ⊢
  rw [h.contents]
  split
  · split
    · split
      · exact ⟨rfl, hcounted⟩
      · exact hcounted.place _
    · exact ⟨rfl, hcounted⟩
  · exact ⟨rfl, h⟩

theorem create_of_isFailing (h : s.isFailing = true) (entropy : Entropy) (path : List String)
    (body : Json) (headers : Headers) :
    ∃ cause s', s.create entropy path body headers = (.error cause, s') ∧ s'.Agrees s := by
  have h' : { s with createCalls := s.createCalls + 1 }.isFailing = true := h
  simp only [Store.create, h']
  split
  · exact ⟨_, _, rfl, rfl, rfl, rfl⟩
  · exact ⟨_, _, rfl, .refl s⟩

theorem isFailing_of_none (h : s.failAfter = none) : s.isFailing = false := by
  unfold isFailing
  rw [h]

end Store

/-! ### The project of a registration -/

namespace Contents

variable {c c' : Contents} {id : EntityId} {name : String}

/-- A project of the given name is stored under `id`. -/
def IsProject (c : Contents) (id : EntityId) (name : String) : Prop :=
  ∃ stored, c.stored? id = some stored ∧ stored.entity.type = .project ∧
    stored.entity.name? = some name

/-- A project is found by its name. -/
theorem IsProject.projectNamed? (h : c.IsProject id name) (hc : c.Sound) :
    c.projectNamed? name = some id := by
  obtain ⟨stored, hstored, htype, hname⟩ := h
  have hqualified : ∀ {i s}, c.stored? i = some s → s.entity.type = .project →
      s.entity.name? = some name → s.entity.qualifiedName? = some name := by
    intro i s hs hstype hsname
    obtain ⟨-, n, hn, hqn⟩ := hc.project hs hstype
    exact hqn.trans (hn.symm.trans hsname)
  cases hfound : c.projectNamed? name with
  | none => exact absurd hname (ne_of_projectNamed?_eq_none hfound hstored htype)
  | some i =>
    obtain ⟨s, hs, hstype, hsname⟩ := exists_of_projectNamed? hfound
    exact congrArg some (hc.unique hs hstored (hqualified hs hstype hsname)
      (hqualified hstored htype hname))

theorem IsProject.eq_of_projectName (h : c.IsProject id name) {name' : String}
    (hname : c.projectName id = .ok name') : name' = name := by
  obtain ⟨stored, hstored, -, hstoredName⟩ := h
  obtain ⟨stored', hstored', -, rfl⟩ := projectName_eq_ok.1 hname
  obtain rfl := Option.some.inj (hstored.symm.trans hstored')
  rw [hstoredName, Option.getD_some]

theorem Stays.isProject (h : c.Stays c') (hproject : c.IsProject id name) :
    c'.IsProject id name := by
  obtain ⟨stored, hstored, htype, hname⟩ := hproject
  obtain ⟨stored', hstored', hlike⟩ := h hstored
  exact ⟨stored', hstored', hlike.type.trans htype, hlike.name?.trans hname⟩

variable {entropy : Entropy} {n n' : Nat} {path : List String} {body : Bag}

theorem Creates.stays (h : c.Creates entropy n path body id c' n') (hc : c.Sound)
    (hfresh : entropy.Fresh c n n') : c.Stays c' := by
  cases h with
  | found => exact fun h => ⟨_, h, .refl _⟩
  | known => exact fun h => ⟨_, h, .refl _⟩
  | added hd _ hbits =>
    exact stays_add (hc.fits hd) (hfresh.next hbits)

/-- A creation finds its project, or there is a description of what is stored under the id then. -/
theorem Creates.finds_or_stores (h : c.Creates entropy n path body id c' n') (hc : c.Sound)
    (hfresh : entropy.Fresh c n n') : (c' = c ∧ Creation.Finds c body path id) ∨
      ∃ d stored, Creation.Describes c body path d ∧ c'.stored? id = some stored ∧
        stored.entity.guid = id ∧ stored.entity.type = d.type ∧
        stored.entity.name? = d.attributes.text? "name" ∧
        stored.entity.qualifiedName? = some d.qualifiedName := by
  cases h with
  | found hfinds => exact .inl ⟨rfl, hfinds⟩
  | known hd hknows =>
    obtain ⟨i, stored, hstored, rfl, hqn⟩ := exists_of_find? hknows.found
    obtain rfl := hc.guid hstored
    exact .inr ⟨_, stored, hd, hstored, rfl, hknows.type,
      Bag.text?_of_sameDefinition hknows.same (by decide), hqn⟩
  | added hd _ hbits =>
    have hunused := hfresh.next hbits
    exact .inr ⟨_, _, hd, stored?_add_self (hc.fits hd) hunused, rfl, rfl, rfl,
      (hc.fits hd).qualifiedName⟩

theorem Creates.isProject (h : c.Creates entropy n ["projects"] body id c' n') (hc : c.Sound)
    (hfresh : entropy.Fresh c n n') (hname : body.IsNamed name) : c'.IsProject id name := by
  rcases h.finds_or_stores hc hfresh with
    ⟨rfl, -, n, hname', hfound⟩ | ⟨d, stored, hd, hstored, -, htype, hstoredName, -⟩
  · obtain rfl := Option.some.inj (hname.text.symm.trans hname'.text)
    exact exists_of_projectNamed? hfound
  · generalize hpath : ["projects"] = path at hd
    cases hd with
    | project hname' =>
      obtain rfl := Option.some.inj (hname.text.symm.trans hname'.text)
      exact ⟨stored, hstored, htype, hstoredName.trans (Creation.text?_named _ _ (by decide))⟩
    | source | anchor | feature | derived => simp at hpath

end Contents

/-- A registry answers the creation of a project that is there with the id of that project, and
changes nothing but its counts. -/
theorem Store.create_eq_of_isProject (entropy : Entropy) {s : Store} {id : EntityId} {name : String}
    {body : Bag} {headers : Headers} (hproject : s.contents.IsProject id name)
    (hs : s.contents.Sound) (hname : body.IsNamed name)
    (hauthorized : s.isAuthorized headers = true) (hfailing : s.isFailing = false) :
    ∃ entity, s.create entropy ["projects"] (.obj body) headers =
        (.ok entity, { s with createCalls := s.createCalls + 1, created := s.created + 1 }) ∧
      entity.guid = id := by
  have hcall : Creation.ofCall s.contents ["projects"] body = .ok (.existing id) := by
    refine bind_eq_ok.2 ⟨name, Creation.requiredText_eq_ok.2 ⟨hname.text, hname.ne_empty⟩, ?_⟩
    rw [hproject.projectNamed? hs]
    rfl
  rw [create_of_not_isFailing hfailing, if_pos hauthorized]
  simp only [hcall]
  exact ⟨_, rfl, rfl⟩

theorem Store.create_of_isProject (entropy : Entropy) {s : Store} {id : EntityId} {name : String}
    {body : Bag} {headers : Headers} (hproject : s.contents.IsProject id name)
    (hs : s.contents.Sound) (hname : body.IsNamed name)
    (hauthorized : s.isAuthorized headers = true) (hfailing : s.isFailing = false) :
    ∃ entity s', s.create entropy ["projects"] (.obj body) headers = (.ok entity, s') ∧
      entity.guid = id ∧ s'.Agrees s := by
  obtain ⟨entity, hcreate, hid⟩ :=
    create_eq_of_isProject entropy hproject hs hname hauthorized hfailing
  exact ⟨entity, _, hcreate, hid, rfl, rfl, rfl⟩

end FeatureCatalog
