import FeatureCatalog.Error
import FeatureCatalog.Json.Camel
import FeatureCatalog.Json.Decoder

/-! How a feature is computed, and the JSON form of that. The two forms of a transformation have no
tag on the wire: each is known by a key that only it has. -/

namespace FeatureCatalog

/-- An aggregation over a sliding window. -/
structure WindowAggregation where
  definition : String
  function : Option String
  window : Option String
  groupBy : Option String
  filter : Option String
  limit : Option UInt64
  deriving DecidableEq, Inhabited

/-- How a feature is computed: row by row, or over a window of rows. -/
inductive Transformation where
  | expression (text : String)
  | aggregation (spec : WindowAggregation)
  deriving DecidableEq

namespace WindowAggregation

/-- The JSON form of an aggregation, which leaves out what is not given. -/
def toJson (a : WindowAggregation) : Json :=
  .obj <|
    Bag.ofText? "aggFunc" a.function ++
    [("defExpr", .str a.definition)] ++
    Bag.ofText? "filter" a.filter ++
    Bag.ofText? "groupBy" a.groupBy ++
    (a.limit.map fun n => ("limit", Json.num (.ofUInt64 n))).toList ++
    Bag.ofText? "window" a.window

/-- The fields of an aggregation. -/
def record : Record WindowAggregation :=
  WindowAggregation.mk <$> Record.required "defExpr" Decoder.text
    <*> Record.optional "aggFunc" Decoder.text
    <*> Record.optional "window" Decoder.text
    <*> Record.optional "groupBy" Decoder.text
    <*> Record.optional "filter" Decoder.text
    <*> Record.optional "limit" Decoder.word

/-- Reads an aggregation. -/
def decoder : Decoder WindowAggregation := record.decoder "WindowAggAttributes"

end WindowAggregation

namespace Transformation

/-- The JSON form of a transformation. -/
def toJson : Transformation → Json
  | .expression text => .obj [("transformExpr", .str text)]
  | .aggregation spec => spec.toJson

/-- Reads the transformation of `entity`, whatever the casing of its keys. It is an expression if
there is a key `transformExpr`, and otherwise an aggregation if there is a key `defExpr`. -/
def ofJson (entity : String) (value : Json) : Except CatalogError Transformation :=
  let value := value.camelize
  match value.field? "transformExpr" with
  | some (.str text) => .ok (.expression text)
  | some _ => .error (.malformed entity .expressionNotText)
  | none =>
    if (value.field? "defExpr").isSome then
      match WindowAggregation.decoder value with
      | .ok spec => .ok (.aggregation spec)
      | .error cause => .error (.malformed entity (.mismatch cause))
    else .error (.unknownTransformation entity)

/-- Reads the transformation of `entity`, which is none where the value is absent or `null`. -/
def ofJson? (entity : String) : Option Json → Except CatalogError (Option Transformation)
  | none | some .null => .ok none
  | some value => (ofJson entity value).map some

end Transformation

end FeatureCatalog
