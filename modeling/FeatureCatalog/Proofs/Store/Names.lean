import FeatureCatalog.Proofs.Store.Agree
import FeatureCatalog.Proofs.Store.Reachable

/-! Names in a registry. Every entity has a name, and a qualified name that is made of the name of
its project, that of its anchor if it is a feature, and its own; no two entities have the same
qualified name. -/

namespace FeatureCatalog

theorem Stored.Alike.isNamed {a b : Stored} (h : a.Alike b) {name : String}
    (hname : a.entity.attributes.IsNamed name) : b.entity.attributes.IsNamed name :=
  ⟨h.name?.trans hname.text, hname.ne_empty⟩

namespace Contents

variable {c : Contents}

/-! ### Every entity has a name -/

/-- Every entity has a name, which is not empty. -/
def Named (c : Contents) : Prop :=
  ∀ {id stored}, c.stored? id = some stored → ∃ name, stored.entity.attributes.IsNamed name

theorem Named.empty : Contents.empty.Named := fun h => by simp [stored?_empty] at h

theorem Named.add (h : c.Named) {d : Definition} {id : EntityId} (hf : d.Fits c)
    (hfresh : c.stored? id = none) (hd : ∃ name, d.attributes.IsNamed name) : (c.add d id).Named := by
  intro j stored' hstored'
  obtain ⟨-, rfl⟩ | ⟨stored, -, hstored, hlike, -⟩ := add_cases hf hfresh hstored'
  · exact hd
  · obtain ⟨name, hname⟩ := h hstored
    exact ⟨name, hlike.isNamed hname⟩

theorem Named.remove (h : c.Named) (id : EntityId) : (c.remove id).Named := by
  intro j stored' hstored'
  obtain ⟨stored, -, hstored, rfl⟩ := remove_cases.1 hstored'
  obtain ⟨name, hname⟩ := h hstored
  exact ⟨name, (stored.alike_withoutFeature id).isNamed hname⟩

theorem Creates.named {entropy : Entropy} {n n' : Nat} {path : List String} {body : Bag}
    {id : EntityId} {c' : Contents} (h : c.Creates entropy n path body id c' n') (hc : c.Sound)
    (hfresh : entropy.Fresh c n n') (hnamed : c.Named) : c'.Named := by
  cases h with
  | found => exact hnamed
  | known => exact hnamed
  | added hd _ hbits =>
    obtain ⟨name, -, hname⟩ := hd.isNamed
    exact hnamed.add (hc.fits hd) (hfresh.next hbits)
      ⟨name, hname⟩

/-! ### Qualified names -/

/-- The qualified name that an entity is to have: a project is called by its name, an anchored
feature after its project and the one anchor that contains it, and any other entity after its
project. -/
inductive Calls (c : Contents) (id : EntityId) (stored : Stored) : String → Prop
  | project {name} : stored.entity.type = .project → stored.entity.name? = some name →
      Calls c id stored name
  | member {projectName name} :
      stored.entity.type = .source ∨ stored.entity.type = .anchor ∨
        stored.entity.type = .derivedFeature →
      c.IsProject stored.project projectName → stored.entity.name? = some name →
      Calls c id stored (qualifiedName projectName [name])
  | feature {projectName anchor owner anchorName name} : stored.entity.type = .anchorFeature →
      c.IsProject stored.project projectName →
      (∀ o, ⟨o, id, .contains⟩ ∈ c.relations ↔ o = anchor) → c.stored? anchor = some owner →
      owner.entity.type = .anchor → owner.project = stored.project →
      owner.entity.name? = some anchorName → stored.entity.name? = some name →
      Calls c id stored (qualifiedName projectName [anchorName, name])

/-- Names are well-formed and unique. -/
structure WellNamed (c : Contents) : Prop where
  guid : ∀ {id stored}, c.stored? id = some stored → stored.entity.guid = id
  name : ∀ {id stored}, c.stored? id = some stored →
    ∃ name, stored.entity.name? = some name ∧ name ≠ ""
  qualifiedName : ∀ {id stored}, c.stored? id = some stored →
    ∃ q, stored.entity.qualifiedName? = some q ∧ c.Calls id stored q
  project : ∀ {id stored}, c.stored? id = some stored →
    ∃ owner, c.stored? stored.project = some owner ∧ owner.entity.type = .project
  unique : ∀ {i j a b}, c.stored? i = some a → c.stored? j = some b →
    a.entity.qualifiedName? = b.entity.qualifiedName? → i = j

theorem Sound.isProject (hc : c.Sound) {id : EntityId} {stored : Stored}
    (hstored : c.stored? id = some stored) : ∃ name, c.IsProject stored.project name := by
  obtain ⟨owner, howner, -, htype⟩ := hc.has_project hstored
  obtain ⟨-, name, hname, -⟩ := hc.project howner htype
  exact ⟨name, owner, howner, htype, hname⟩

/-- An entity of a project that is no feature of an anchor is called after the project. -/
theorem Sound.calls_member (hc : c.Sound) {id : EntityId} {stored : Stored}
    (hstored : c.stored? id = some stored) (hproject : stored.entity.type ≠ .project)
    (hfeature : stored.entity.type ≠ .anchorFeature) {name projectName : String}
    (hname : stored.entity.name? = some name) (hp : c.IsProject stored.project projectName) :
    stored.entity.qualifiedName? = some (FeatureCatalog.qualifiedName projectName [name]) := by
  obtain ⟨owner, stored', howner, hstored', -, -, -, q, n, hq, hn, hqn⟩ :=
    hc.held (.member hstored hproject hfeature)
  obtain rfl := Option.some.inj (hstored.symm.trans hstored')
  obtain rfl := Option.some.inj (hname.symm.trans hn)
  obtain ⟨so, hso, hsotype, hsoname⟩ := hp
  obtain rfl := Option.some.inj (howner.symm.trans hso)
  obtain ⟨-, p, hpn, hpq⟩ := hc.project howner hsotype
  obtain rfl := Option.some.inj (hpn.symm.trans hsoname)
  obtain rfl := Option.some.inj (hpq.symm.trans hq)
  exact hqn

/-- A feature is called after its project and the anchor that contains it, which is the only one. -/
theorem Sound.calls_feature (hc : c.Sound) (hnamed : c.Named) {id : EntityId} {stored : Stored}
    (hstored : c.stored? id = some stored) (htype : stored.entity.type = .anchorFeature)
    {name projectName : String} (hname : stored.entity.name? = some name)
    (hp : c.IsProject stored.project projectName) :
    ∃ q, stored.entity.qualifiedName? = some q ∧ c.Calls id stored q := by
  obtain ⟨anchor, hholds⟩ := hc.owned hstored (by rw [htype]; decide)
  obtain ⟨owner, stored', howner, hstored', hotype, -, hsame, q, n, hq, hn, hqn⟩ := hc.held hholds
  obtain rfl := Option.some.inj (hstored.symm.trans hstored')
  obtain rfl := Option.some.inj (hname.symm.trans hn)
  have hanchor : owner.entity.type = .anchor := by rw [hotype, htype]; rfl
  obtain ⟨anchorName, hanchorName⟩ := hnamed howner
  have hcalls := hc.calls_member howner (by rw [hanchor]; decide) (by rw [hanchor]; decide)
    hanchorName.text (hsame ▸ hp)
  obtain rfl := Option.some.inj (hcalls.symm.trans hq)
  refine ⟨_, hqn, .feature htype hp (fun o => ?_) howner hanchor hsame hanchorName.text hname⟩
  rw [hc.contains]
  constructor
  · exact fun h => hc.holds_unique h hholds
  · rintro rfl
    exact hholds

/-- Every entity has the qualified name that it is to have. -/
theorem Sound.exists_calls (hc : c.Sound) (hnamed : c.Named) {id : EntityId} {stored : Stored}
    (hstored : c.stored? id = some stored) :
    ∃ q, stored.entity.qualifiedName? = some q ∧ c.Calls id stored q := by
  obtain ⟨name, hname⟩ := hnamed hstored
  obtain ⟨projectName, hp⟩ := hc.isProject hstored
  have hmember : ∀ {type}, stored.entity.type = type → type ≠ .project → type ≠ .anchorFeature →
      (type = .source ∨ type = .anchor ∨ type = .derivedFeature) →
      ∃ q, stored.entity.qualifiedName? = some q ∧ c.Calls id stored q := by
    rintro _ rfl hproject hfeature htype
    exact ⟨_, hc.calls_member hstored hproject hfeature hname.text hp,
      .member htype hp hname.text⟩
  cases htype : stored.entity.type with
  | project =>
    obtain ⟨-, n, hn, hqn⟩ := hc.project hstored htype
    exact ⟨n, hqn, .project htype hn⟩
  | source => exact hmember htype (by decide) (by decide) (.inl rfl)
  | anchor => exact hmember htype (by decide) (by decide) (.inr (.inl rfl))
  | derivedFeature => exact hmember htype (by decide) (by decide) (.inr (.inr rfl))
  | anchorFeature => exact hc.calls_feature hnamed hstored htype hname.text hp

theorem Sound.wellNamed (hc : c.Sound) (hnamed : c.Named) : c.WellNamed where
  guid := hc.guid
  name hstored := by
    obtain ⟨name, hname⟩ := hnamed hstored
    exact ⟨name, hname.text, hname.ne_empty⟩
  qualifiedName := hc.exists_calls hnamed
  project hstored := by
    obtain ⟨owner, howner, -, htype⟩ := hc.has_project hstored
    exact ⟨owner, howner, htype⟩
  unique ha hb hq := by
    obtain ⟨q, hqa, -⟩ := hc.exists_calls hnamed ha
    exact hc.unique ha hb hqa (hq ▸ hqa)

end Contents

namespace Store

variable {entropy : Entropy} {s : Store}

theorem Reachable.named (h : Reachable entropy s) : s.contents.Named := by
  induction h with
  | empty => exact Contents.Named.empty
  | limit _ _ ih => exact ih
  | @create s path body headers hs hfresh ih =>
    obtain ⟨-, hcontents | ⟨_, _, -, hcreates⟩⟩ :=
      create_cases hs.sound (Prod.mk.eta.symm : s.create entropy path body headers = _)
    · exact hcontents ▸ ih
    · exact hcreates.named hs.sound hfresh ih
  | @delete s path headers hs ih =>
    obtain ⟨-, -, hcontents | ⟨id, -, -, hcontents⟩⟩ :=
      delete_cases (Prod.mk.eta.symm : s.delete path headers = _)
    · exact hcontents ▸ ih
    · exact hcontents ▸ ih.remove id

/-- In every registry that calls can lead to, names are well-formed and unique. -/
theorem Reachable.names_unique (h : Reachable entropy s) : s.contents.WellNamed :=
  h.sound.wellNamed h.named

theorem reachable_oneAnchor : Reachable .counting oneAnchor :=
  reachable_oneSource.create_counting 2 (by decide +kernel) (by decide +kernel) (by decide +kernel)

/-- A registry with one project that has one feature. -/
def oneFeature : Store :=
  (oneAnchor.create .counting
    ["projects", (EntityId.ofBits 0).text, "anchors", (EntityId.ofBits 2).text, "features"]
    (.obj [("name", .str "f__g"), ("qualifiedName", .str "p")]) []).2

theorem oneFeature_names_unique :
    oneFeature.contents.WellNamed ∧
      ((oneFeature.contents.stored? (.ofBits 3)).bind fun stored => stored.entity.qualifiedName?) =
        some "p__a__f__g" := by
  refine ⟨Reachable.names_unique (?_ : Reachable .counting _), by decide +kernel⟩
  exact reachable_oneAnchor.create_counting 3 (by decide +kernel) (by decide +kernel)
    (by decide +kernel)

end Store

end FeatureCatalog
