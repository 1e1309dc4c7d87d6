import FeatureCatalog.Entity
import FeatureCatalog.Proofs.Json.Record

/-! What a registry sends of a project is read as it was sent. -/

namespace FeatureCatalog

open Record

theorem EntityType.decoder_toJson (t : EntityType) : EntityType.decoder t.toJson = .ok t := by
  cases t <;> rfl

theorem RelationshipType.decoder_toJson (t : RelationshipType) :
    RelationshipType.decoder t.toJson = .ok t := by
  cases t <;> rfl

theorem EntityId.decoder_toJson (id : EntityId) : EntityId.decoder id.toJson = .ok id := rfl

theorem Entity.decoder_toJson (e : Entity) : Entity.decoder e.toJson = .ok e := by
  have hreads : Entity.record.Reads
      [ ("attributes", .obj e.attributes), ("guid", e.guid.toJson),
        ("typeName", e.type.toJson) ] e :=
    ((reads_required rfl e.guid.decoder_toJson).map Entity.mk
      |>.seq (reads_required rfl e.type.decoder_toJson))
      |>.seq (reads_required rfl (show Decoder.bag (.obj e.attributes) = .ok _ from rfl))
  have hkeys : ["attributes", "guid", "typeName"].Pairwise (· < ·) := by decide +kernel
  exact hreads.ofBag (Entries.ordered_of_keys hkeys (.refl _)) (by decide)

theorem Relation.decoder_toJson (r : Relation) : Relation.decoder r.toJson = .ok r := by
  have hreads : Relation.record.Reads
      [ ("fromEntityId", r.source.toJson), ("relationshipType", r.type.toJson),
        ("toEntityId", r.target.toJson) ] r :=
    ((reads_required rfl r.source.decoder_toJson).map Relation.mk
      |>.seq (reads_required rfl r.target.decoder_toJson))
      |>.seq (reads_required rfl r.type.decoder_toJson)
  have hkeys : ["fromEntityId", "relationshipType", "toEntityId"].Pairwise (· < ·) := by
    decide +kernel
  exact hreads.ofBag (Entries.ordered_of_keys hkeys (.refl _)) (by decide)

theorem ProjectPayload.decoder_toJson (p : ProjectPayload) :
    ProjectPayload.decoder p.toJson = .ok p := by
  have hreads : ProjectPayload.record.Reads
      [ ("guidEntityMap", .obj (p.entities.mapValues Entity.toJson).entries),
        ("relations", .arr (p.relations.map Relation.toJson)) ] p :=
    ((reads_required rfl (Decoder.dict_mapValues fun _ e _ => e.decoder_toJson)).map
      ProjectPayload.mk)
      |>.seq (reads_defaulted rfl (Decoder.list_map fun r _ => r.decoder_toJson))
  have hkeys : ["guidEntityMap", "relations"].Pairwise (· < ·) := by decide +kernel
  exact hreads.ofBag (Entries.ordered_of_keys hkeys (.refl _)) (by decide)

end FeatureCatalog
