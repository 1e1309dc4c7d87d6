import FeatureCatalog.Dict

/-! Identity of catalog entities: the id that a registry gives out, the qualified name under which
it knows an entity, and the two together as the state of registration. -/

namespace FeatureCatalog

/-- An identifier given out by a registry, which nobody looks into. -/
structure EntityId where
  text : String
  deriving DecidableEq, Inhabited

/-- What an entity gets when it is registered. -/
structure Registration where
  id : EntityId
  qualifiedName : String
  deriving DecidableEq

/-- The free-form tags of an entity. -/
abbrev Tags := Dict String

/-- The name of an entity with the names of its owners before it, joined by `__`. -/
def qualifiedName (project : String) : (chain : List String) → String
  | [] => project
  | part :: rest => qualifiedName (project ++ "__" ++ part) rest

end FeatureCatalog
