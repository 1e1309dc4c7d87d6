import FeatureCatalog.Json.Cursor
import FeatureCatalog.Json.Mismatch

/-! Faults found while a value is read straight from its JSON text: either the text is not JSON, or
what it says is not what the reader wants. Each has the position at which reading stopped. -/

namespace FeatureCatalog.Json

/-- A fault in a text and the position where it was found. -/
inductive TextFault where
  | notJson (fault : SyntaxFault) (position : Position)
  | unwanted (mismatch : Mismatch) (position : Position)
  deriving DecidableEq

/-- A position in words. -/
def Position.message (p : Position) : String :=
  " at line " ++ toString p.line ++ " column " ++ toString p.column

/-- The wording of a fault in a text. -/
def TextFault.message : TextFault → String
  | .notJson fault position => fault.message ++ position.message
  | .unwanted mismatch position => mismatch.message ++ position.message

namespace Cursor

variable {α : Type}

/-- Stops at a syntax fault where the cursor stands. -/
def fail (c : Cursor) (fault : SyntaxFault) : Except TextFault α :=
  .error (.notJson fault c.position)

/-- Stops at a syntax fault that the next character causes. -/
def failInside (c : Cursor) (fault : SyntaxFault) : Except TextFault α :=
  .error (.notJson fault c.inside)

/-- Stops where the cursor stands because what has been read is not what is wanted. -/
def refuse (c : Cursor) (mismatch : Mismatch) : Except TextFault α :=
  .error (.unwanted mismatch c.position)

end Cursor

end FeatureCatalog.Json
