import FeatureCatalog.Proofs.Config
import FeatureCatalog.Proofs.Store.Agree

/-! Projects whose names have been checked. A project shares the space of qualified names with all
other entities, but those are called after their owners, with a joint between the two names, and a
name that passes the check has no joint. So no entity but the project of that name stands in the way
of its creation. Main statement: the project is created if it is absent. -/

namespace FeatureCatalog

theorem RegistryConfig.project_ne_empty {config : RegistryConfig} (h : config.validate = .ok ()) :
    config.project ≠ "" := by
  intro hempty
  obtain ⟨-, hblank, -⟩ := RegistryConfig.validate_eq_ok.1 h
  rw [hempty] at hblank
  cases hblank

namespace Contents

variable {c : Contents} {id : EntityId} {stored : Stored} {name : String}

/-- An entity whose qualified name has no joint is a project of that name. -/
theorem Sound.isProject_of_not_joint (hc : c.Sound) (hstored : c.stored? id = some stored)
    (hq : stored.entity.qualifiedName? = some name) (hjoint : ¬['_', '_'] <:+: name.toList) :
    c.IsProject id name := by
  by_cases htype : stored.entity.type = .project
  · obtain ⟨-, n, hn, hqn⟩ := hc.project hstored htype
    obtain rfl := Option.some.inj (hqn.symm.trans hq)
    exact ⟨stored, hstored, htype, hn⟩
  · obtain ⟨o, hholds⟩ := hc.owned hstored htype
    obtain ⟨_, stored', -, hstored', -, -, -, q, n, -, -, hqn⟩ := hc.held hholds
    obtain rfl := Option.some.inj (hstored.symm.trans hstored')
    obtain rfl := Option.some.inj (hqn.symm.trans hq)
    exact absurd ⟨q.toList, n.toList, by simp⟩ hjoint

theorem Sound.find?_eq_none_of_not_isProject (hc : c.Sound) (hjoint : ¬['_', '_'] <:+: name.toList)
    (h : ∀ id, ¬c.IsProject id name) : c.find? name = none := by
  refine Option.eq_none_iff_forall_ne_some.2 fun e he => ?_
  obtain ⟨id, stored, hstored, rfl, hq⟩ := exists_of_find? he
  exact h id (hc.isProject_of_not_joint hstored hq hjoint)

theorem projectNamed?_eq_none : c.projectNamed? name = none ↔ ∀ id, ¬c.IsProject id name := by
  constructor
  · rintro h id ⟨stored, hstored, htype, hname⟩
    exact ne_of_projectNamed?_eq_none h hstored htype hname
  · intro h
    exact Option.eq_none_iff_forall_ne_some.2 fun id hid => h id (exists_of_projectNamed? hid)

end Contents

namespace Store

variable {entropy : Entropy} {s : Store} {headers : Headers}

/-- A creation of an entity that nothing is in the way of stores it, under the id that is drawn. -/
theorem create_of_absent {path : List String} {body : Bag} {d : Definition} {bits : BitVec 128}
    (hcall : Creation.ofCall s.contents path body = .ok (.define d)) (hf : d.Fits s.contents)
    (habsent : s.contents.find? d.qualifiedName = none)
    (hauthorized : s.isAuthorized headers = true) (hfailing : s.isFailing = false)
    (hbits : entropy s.drawn = .ok bits) (hunused : s.contents.stored? (.ofBits bits) = none) :
    s.create entropy path (.obj body) headers =
      (.ok ⟨.ofBits bits, .obj d.attributes⟩,
        { s with
          contents := s.contents.add d (.ofBits bits)
          createCalls := s.createCalls + 1
          created := s.created + 1
          drawn := s.drawn + 1 }) := by
  have hknown : s.contents.known? d = .ok none := by
    unfold Contents.known?
    rw [habsent]
  have hentity : (s.contents.add d (.ofBits bits)).entity? (.ofBits bits) =
      some (d.stored (.ofBits bits)).entity := by
    rw [Contents.entity?_eq, Contents.stored?_add_self hf hunused]
    rfl
  rw [create_of_not_isFailing hfailing, if_pos hauthorized]
  simp only [hcall, place, hknown, addNew, hbits, succeed, hentity]
  rfl

/-- The project of a configuration that passes the checks is created if it is absent, whatever its
tags are and whatever calls the registry has come by. If there is a project of that name, the answer
is its id, and nothing changes but the counts of calls. Otherwise the project is stored under the id
that is drawn, and nothing else is: no source, anchor or feature conflicts with it. -/
theorem Reachable.project_is_created_if_absent (h : Reachable entropy s) {config : RegistryConfig}
    (hvalid : config.validate = .ok ()) (hauthorized : s.isAuthorized headers = true)
    (hfailing : s.isFailing = false) (tags : Tags) :
    let body : Bag := [("name", .str config.project), ("tags", Json.ofTags tags)]
    (∀ id, s.contents.IsProject id config.project →
      ∃ entity, s.create entropy ["projects"] (.obj body) headers =
          (.ok entity, { s with createCalls := s.createCalls + 1, created := s.created + 1 }) ∧
        entity.guid = id) ∧
    ((∀ id, ¬s.contents.IsProject id config.project) →
      ∀ bits, entropy s.drawn = .ok bits → s.contents.stored? (.ofBits bits) = none →
        let attributes : Bag := [ ("name", .str config.project),
          ("qualifiedName", .str config.project), ("tags", Json.ofTags tags) ]
        ∃ s', s.create entropy ["projects"] (.obj body) headers =
            (.ok ⟨.ofBits bits, .obj attributes⟩, s') ∧
          s'.contents.relations = s.contents.relations ∧
          ∀ j, s'.contents.stored? j =
            if j = .ofBits bits then some ⟨.ofBits bits, .ofBits bits, .project, attributes⟩
            else s.contents.stored? j) := by
  intro body
  have hname : body.IsNamed config.project := ⟨rfl, RegistryConfig.project_ne_empty hvalid⟩
  obtain ⟨-, -, hjoint⟩ := RegistryConfig.validate_eq_ok.1 hvalid
  constructor
  · intro id hproject
    exact create_eq_of_isProject entropy hproject h.sound hname hauthorized hfailing
  · intro habsent bits hbits hunused attributes
    have hcall : Creation.ofCall s.contents ["projects"] body =
        .ok (.define (.ofProject config.project body)) := by
      refine bind_eq_ok.2 ⟨_, Creation.requiredText_eq_ok.2 ⟨hname.text, hname.ne_empty⟩, ?_⟩
      rw [Contents.projectNamed?_eq_none.2 habsent]
      rfl
    have hf := Contents.fits_ofProject s.contents config.project body
    have hfind := h.sound.find?_eq_none_of_not_isProject hjoint habsent
    refine ⟨_, create_of_absent hcall hf hfind hauthorized hfailing hbits hunused, rfl, fun j => ?_⟩
    split
    · rename_i hj
      rw [hj, Contents.stored?_add_self hf hunused]
      rfl
    · rename_i hj
      rw [Contents.stored?_add_ne hf hunused hj]
      rfl

/-- A registry with a project called `p`, and a source of it that claims to be called `q`. -/
def claimed : Store :=
  (oneProject.create .counting ["projects", (EntityId.ofBits 0).text, "datasources"]
    (.obj [("name", .str "q"), ("qualifiedName", .str "q")]) []).2

/-- The project `p` is answered with, and a project `q` is stored: the source is no obstacle. -/
theorem claimed_project_is_created_if_absent :
    (∃ entity, claimed.create .counting ["projects"]
        (.obj [("name", .str "p"), ("tags", Json.ofTags (Dict.ofList [("team", "x")]))]) [] =
        (.ok entity, { claimed with createCalls := 3, created := 3 }) ∧
      entity.guid = .ofBits 0) ∧
    ∃ entity s', claimed.create .counting ["projects"]
        (.obj [("name", .str "q"), ("tags", Json.ofTags .empty)]) [] = (.ok entity, s') ∧
      entity.guid = .ofBits 2 ∧ s'.contents.IsProject (.ofBits 2) "q" ∧
      s'.contents.stored? (.ofBits 1) = claimed.contents.stored? (.ofBits 1) := by
  have hreachable : Reachable .counting claimed :=
    reachable_oneProject.create_counting 1 (by decide +kernel) (by decide +kernel)
      (by decide +kernel)
  have hchecks : claimed.contents.projectNamed? "p" = some (.ofBits 0) ∧
      claimed.contents.projectNamed? "q" = none ∧ claimed.drawn = 2 ∧ claimed.createCalls = 2 ∧
      claimed.created = 2 ∧ (claimed.contents.stored? (.ofBits 2)).isNone ∧
      EntityId.ofBits 1 ≠ EntityId.ofBits 2 := by
    decide +kernel
  obtain ⟨hp, hq, hdrawn, hcalls, hcreated, hunused, hne⟩ := hchecks
  have hcreate : ∀ project, (RegistryConfig.ofNames "e" project).validate = .ok () → _ :=
    fun project hvalid => hreachable.project_is_created_if_absent hvalid
      (rfl : claimed.isAuthorized [] = true) (isFailing_of_none rfl)
  constructor
  · obtain ⟨entity, hentity, hguid⟩ := (hcreate "p" (by decide) (Dict.ofList [("team", "x")])).1 _
      (Contents.exists_of_projectNamed? hp)
    rw [hcalls, hcreated] at hentity
    exact ⟨entity, hentity, hguid⟩
  · obtain ⟨s', hs', -, hstored⟩ := (hcreate "q" (by decide) .empty).2
      (Contents.projectNamed?_eq_none.1 hq) 2 (by rw [hdrawn]; rfl)
      (Option.isNone_iff_eq_none.1 hunused)
    refine ⟨_, s', hs', rfl, ⟨_, (hstored _).trans (if_pos rfl), rfl, rfl⟩, ?_⟩
    exact (hstored _).trans (if_neg hne)

end Store

end FeatureCatalog
