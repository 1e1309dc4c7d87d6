import FeatureCatalog.Json.Decoder

/-! The type of a feature, and the key columns that it is joined on, with their JSON forms. -/

namespace FeatureCatalog

/-- The type of a single value. -/
inductive ValueType where
  | unspecified
  | bool
  | int32
  | int64
  | float
  | double
  | string
  | bytes
  deriving DecidableEq, Inhabited

namespace ValueType

/-- The name of a value type. -/
def name : ValueType → String
  | .unspecified => "UNSPECIFIED"
  | .bool => "BOOLEAN"
  | .int32 => "INT"
  | .int64 => "LONG"
  | .float => "FLOAT"
  | .double => "DOUBLE"
  | .string => "STRING"
  | .bytes => "BYTES"

/-- All value types. -/
def all : List ValueType :=
  [.unspecified, .bool, .int32, .int64, .float, .double, .string, .bytes]

/-- A value type is written as its name. -/
def toJson (t : ValueType) : Json := .str t.name

/-- Reads a value type. -/
def decoder : Decoder ValueType := Decoder.choice (all.map fun t => (t.name, t))

end ValueType

/-- How the entries of a tensor are stored. -/
inductive TensorCategory where
  | dense
  | sparse
  deriving DecidableEq, Inhabited

namespace TensorCategory

/-- The name of a tensor category. -/
def name : TensorCategory → String
  | .dense => "DENSE"
  | .sparse => "SPARSE"

/-- All tensor categories. -/
def all : List TensorCategory := [.dense, .sparse]

/-- A tensor category is written as its name. -/
def toJson (c : TensorCategory) : Json := .str c.name

/-- Reads a tensor category. -/
def decoder : Decoder TensorCategory := Decoder.choice (all.map fun c => (c.name, c))

end TensorCategory

/-- The shape and value type of a feature. -/
structure FeatureType where
  container : String
  category : TensorCategory
  dimensions : List ValueType
  valueType : ValueType
  deriving DecidableEq, Inhabited

namespace FeatureType

/-- A dense tensor without dimensions. -/
def scalar (t : ValueType) : FeatureType := ⟨"TENSOR", .dense, [], t⟩

/-- A dense tensor of one dimension, indexed by integers. -/
def vector (t : ValueType) : FeatureType := ⟨"TENSOR", .dense, [.int32], t⟩

/-- The JSON form of a feature type. -/
def toJson (t : FeatureType) : Json :=
  .obj
    [ ("dimensionType", .arr (t.dimensions.map ValueType.toJson)),
      ("tensorCategory", t.category.toJson),
      ("type", .str t.container),
      ("valType", t.valueType.toJson) ]

/-- The fields of a feature type. -/
def record : Record FeatureType :=
  FeatureType.mk <$> Record.required "type" Decoder.text
    <*> Record.required "tensorCategory" TensorCategory.decoder
    <*> Record.required "dimensionType" ValueType.decoder.list
    <*> Record.required "valType" ValueType.decoder

/-- Reads a feature type. -/
def decoder : Decoder FeatureType := record.decoder "FeatureType"

end FeatureType

/-- A key column that a feature is joined on. -/
structure TypedKey where
  column : String
  columnType : ValueType
  fullName : Option String
  description : Option String
  columnAlias : Option String
  deriving DecidableEq, Inhabited

namespace TypedKey

/-- The JSON form of a key, which leaves out what is not given. -/
def toJson (key : TypedKey) : Json :=
  .obj <|
    Bag.ofText? "description" key.description ++
    Bag.ofText? "fullName" key.fullName ++
    [("keyColumn", .str key.column)] ++
    Bag.ofText? "keyColumnAlias" key.columnAlias ++
    [("keyColumnType", key.columnType.toJson)]

/-- The fields of a key. -/
def record : Record TypedKey :=
  TypedKey.mk <$> Record.required "keyColumn" Decoder.text
    <*> Record.required "keyColumnType" ValueType.decoder
    <*> Record.optional "fullName" Decoder.text
    <*> Record.optional "description" Decoder.text
    <*> Record.optional "keyColumnAlias" Decoder.text

/-- Reads a key. -/
def decoder : Decoder TypedKey := record.decoder "TypedKey"

end TypedKey

end FeatureCatalog
