import FeatureCatalog.Text.Uppercase

/-! Camel case of names: words joined by `_` or `-` run together, each but the first with a
capital. -/

namespace FeatureCatalog.Text

/-- `_` and `-` separate the words of a name. -/
def isSeparator (c : Char) : Bool := c == '_' || c == '-'

/-- The camel case of what follows the first character of a name. `raise` says that a separator has
been read since the last letter, so that the next letter starts a word. -/
def camelTail (raise : Bool) : List Char → List Char
  | [] => []
  | c :: rest =>
    if isSeparator c then camelTail true rest
    else if raise then upper c ++ camelTail false rest
    else c :: camelTail false rest

/-- The camel case of a name: leading separators are dropped and the first word stays as it is. A
name without separators is its own camel case. -/
def camelCase (name : String) : String :=
  match name.toList.dropWhile isSeparator with
  | [] => ""
  | c :: rest => String.ofList (c :: camelTail false rest)

end FeatureCatalog.Text
