import FeatureCatalog.Json
import FeatureCatalog.Text.Camel

/-! Camel case of all keys of a JSON value. What stands under the key `tags` is user data and stays
as it is. Where two keys of an object have the same camel case, the value of the later one stays. -/

namespace FeatureCatalog.Json

open Text

mutual

/-- The value with every object key in camel case, apart from the contents of `tags`. -/
def camelize : Json → Json
  | .null => .null
  | .bool b => .bool b
  | .num n => .num n
  | .str s => .str s
  | .arr items => .arr (camelizeItems items)
  | .obj entries => .obj (Entries.ofList (camelizeEntries entries))

/-- `camelize` of each item. -/
def camelizeItems : List Json → List Json
  | [] => []
  | item :: rest => camelize item :: camelizeItems rest

/-- The entries with their keys in camel case, in the old order. -/
def camelizeEntries : List (String × Json) → List (String × Json)
  | [] => []
  | (key, value) :: rest =>
    (camelCase key, if camelCase key = "tags" then value else camelize value) ::
      camelizeEntries rest

end

end FeatureCatalog.Json
