/-! Sets of code points as closed intervals, runs that move together, and blanks. -/
namespace CloudEvents.Text

/-- A set of code points: the union of closed intervals. -/
abbrev Ranges := List (Nat × Nat)

def Ranges.has (rs : Ranges) (c : Char) : Bool :=
  rs.any fun r => r.1 ≤ c.toNat && c.toNat ≤ r.2

/-- Every `step`-th code point from `first` to `last`, each moved by `shift`. -/
structure Run where
  first : Nat
  last : Nat
  step : Nat
  shift : Int
  deriving Repr, DecidableEq

namespace Run

def has (r : Run) (c : Char) : Bool :=
  r.first ≤ c.toNat && c.toNat ≤ r.last && (c.toNat - r.first) % r.step == 0

def move (r : Run) (c : Char) : Char := Char.ofNat (c.toNat + r.shift).toNat

end Run

/-- Moves `c` by the first run that has it, and keeps it when none has. -/
def moveBy (rs : List Run) (c : Char) : Char :=
  match rs.find? (·.has c) with
  | some r => r.move c
  | none => c

theorem moveBy_of_none {rs : List Run} {c : Char} (h : rs.find? (·.has c) = none) :
    moveBy rs c = c := by
  simp [moveBy, h]

/-- Every space, line or paragraph separator, and the control characters that part text. -/
def blankRanges : Ranges := [
  (9, 13), (28, 32), (133, 133), (160, 160), (5760, 5760), (8192, 8202), (8232, 8233),
  (8239, 8239), (8287, 8287), (12288, 12288)]

def isBlank (c : Char) : Bool := blankRanges.has c

def trimChars (cs : List Char) : List Char :=
  ((cs.dropWhile isBlank).reverse.dropWhile isBlank).reverse

/-- The text without the blanks around it. -/
def trim (s : String) : String := String.ofList (trimChars s.toList)

/-- Holds of a text with nothing but blanks, and so of the empty text. -/
def allBlank (s : String) : Bool := s.toList.all isBlank

theorem toList_trim (s : String) : (trim s).toList = trimChars s.toList :=
  String.toList_ofList

end CloudEvents.Text
