import CloudEvents.Text.Digits
import CloudEvents.Text.Quoted

/-! Values of attributes and headers: texts, whole numbers, truth values and the null. -/
namespace CloudEvents

inductive Scalar
  | text (s : String)
  | int (n : Int)
  | bool (b : Bool)
  | null
  deriving DecidableEq, Repr, Inhabited

namespace Scalar

/-- The text that a value stands for. -/
def render : Scalar → String
  | text s => s
  | int n => Text.signed n
  | bool true => "True"
  | bool false => "False"
  | null => "None"

/-- As `render`, with quotes around what is a text already. -/
def quoted : Scalar → String
  | text s => Text.quoted s
  | v => v.render

/-- The name of the sort of a value. -/
def sort : Scalar → String
  | text _ => "str"
  | int _ => "int"
  | bool _ => "bool"
  | null => "NoneType"

/-- The text that a value is. -/
def text? : Scalar → Option String
  | text s => some s
  | _ => none

/-- Fails for the empty text, zero, false and the null. -/
def truthy : Scalar → Bool
  | text s => s != ""
  | int n => n != 0
  | bool b => b
  | null => false

/-- The value as it is compared: a truth value counts as one or zero. -/
def canonical : Scalar → Scalar
  | bool b => int (if b then 1 else 0)
  | v => v

@[simp] theorem canonical_text (s : String) : (text s).canonical = text s := rfl

theorem canonical_canonical (v : Scalar) : v.canonical.canonical = v.canonical := by
  cases v <;> rfl

end Scalar

end CloudEvents
