import FeatureCatalog.Proofs.Registration.Request
import FeatureCatalog.Proofs.Store.Fetch
import FeatureCatalog.Proofs.Store.Step

/-! Registries in which every entity can be read. What a client asks for leaves them so: a new
entity can be read, and so can an anchor whose list of features changes. -/

namespace FeatureCatalog

namespace Part

variable {part : Part} {stored : Stored} {ids : List EntityId}

theorem IsIn.withFeature (h : part.IsIn stored.entity) (htype : stored.entity.type = .anchor)
    (hids : stored.entity.attributes.Lists "features" ids) {id : EntityId} (hid : id ∉ ids) :
    (part.withFeatures (ids ++ [id])).IsIn (stored.withFeature id).entity := by
  have hinsert := h.insert_features htype (ids ++ [id])
  rwa [← hids.withFeature_eq hid] at hinsert

theorem IsIn.withoutFeature (h : part.IsIn stored.entity) (htype : stored.entity.type = .anchor)
    (hids : stored.entity.attributes.Lists "features" ids) (id : EntityId) :
    (part.withFeatures (ids.filter (· ≠ id))).IsIn (stored.withoutFeature id).entity := by
  have hinsert := h.insert_features htype (ids.filter (· ≠ id))
  rwa [← hids.withoutFeature_eq id] at hinsert

theorem IsIn.withoutFeature_of_ne (h : part.IsIn stored.entity)
    (htype : stored.entity.type ≠ .anchor) (id : EntityId) :
    part.IsIn (stored.withoutFeature id).entity := by
  by_cases hproject : stored.entity.type = .project
  · cases h with
    | project => exact .project hproject
    | source h | anchor h | feature h | derived h =>
      exact absurd (hproject.symm.trans h) (by decide)
  · have hsame : stored.entity.attributes.withoutFeature id = stored.entity.attributes := by
      unfold Bag.withoutFeature
      split
      · rename_i items hitems
        exact absurd hitems (h.features_ne_arr htype hproject items)
      · rfl
    have hstored : stored.withoutFeature id = stored := by
      unfold Stored.withoutFeature
      rw [hsame]
    rwa [hstored]

end Part

namespace Contents

variable {c c' : Contents}

/-- Every entity is read as some part. -/
def Readable (c : Contents) : Prop :=
  ∀ ⦃id stored⦄, c.stored? id = some stored → ∃ part : Part, part.IsIn stored.entity

theorem Readable.empty : Contents.empty.Readable := by
  intro id stored h
  simp [stored?_empty] at h

/-- One part can be chosen for each entity. -/
theorem Readable.exists_shows (h : c.Readable) (project : EntityId) :
    ∃ part, c.Shows project part := by
  have hpart : ∀ id, ∃ part : Part, ∀ stored, c.stored? id = some stored →
      part.IsIn stored.entity := by
    intro id
    cases hstored : c.stored? id with
    | none => exact ⟨.project, nofun⟩
    | some stored =>
      obtain ⟨part, hin⟩ := h hstored
      exact ⟨part, fun _ heq => Option.some.inj heq ▸ hin⟩
  choose part hin using hpart
  exact ⟨part, fun {id stored} hstored _ => hin id stored hstored⟩

theorem Readable.add (h : c.Readable) (hc : c.Sound) {request : CreateRequest}
    (hissued : request.Issued) {d : Definition}
    (hd : Creation.Describes c request.body request.path d) {id : EntityId}
    (hfresh : c.stored? id = none) : (c.add d id).Readable := by
  intro j stored' hstored'
  have hfits := hc.fits hd
  obtain ⟨rfl, rfl⟩ | ⟨stored, -, hstored, -, heq⟩ := add_cases hfits hfresh hstored'
  · exact hissued.exists_part hd _
  · obtain ⟨part, hin⟩ := h hstored
    rw [heq]
    split
    · rename_i hanchor
      obtain ⟨-, anchor, hanchorStored, htype⟩ := hfits.of_anchor hanchor
      obtain rfl := Option.some.inj (hanchorStored.symm.trans hstored)
      obtain ⟨ids, hids, -, hall⟩ := hc.features hstored htype
      refine ⟨_, hin.withFeature htype hids fun hmem => ?_⟩
      obtain ⟨f, hf, -⟩ := hall id hmem
      simp [hfresh] at hf
    · exact ⟨part, hin⟩

theorem Readable.remove (h : c.Readable) (hc : c.Sound) (id : EntityId) :
    (c.remove id).Readable := by
  intro j stored' hstored'
  obtain ⟨stored, -, hstored, rfl⟩ := remove_cases.1 hstored'
  obtain ⟨part, hin⟩ := h hstored
  by_cases htype : stored.entity.type = .anchor
  · obtain ⟨ids, hids, -⟩ := hc.features hstored htype
    exact ⟨_, hin.withoutFeature htype hids id⟩
  · exact ⟨part, hin.withoutFeature_of_ne htype id⟩

/-- What a request leads to can be read. -/
theorem Readable.creates (h : c.Readable) (hc : c.Sound) {request : CreateRequest}
    (hissued : request.Issued) {entropy : Entropy} {n n' : Nat} {id : EntityId}
    (hcreates : c.Creates entropy n request.path request.body id c' n')
    (hfresh : entropy.Fresh c n n') : c'.Readable := by
  cases hcreates with
  | found => exact h
  | known => exact h
  | added hd _ hbits =>
    exact h.add hc hissued hd (hfresh.next hbits)

end Contents

end FeatureCatalog
