/-! Numbers as digits, in base ten and sixteen, and digits read back. -/
namespace CloudEvents.Text

/-- Puts zeros in front until there are `width` characters. -/
def padLeft (width : Nat) (cs : List Char) : List Char :=
  List.replicate (width - cs.length) '0' ++ cs

/-- Cuts after `width` characters, and puts zeros behind until there are so many. -/
def fitRight (width : Nat) (cs : List Char) : List Char :=
  cs.take width ++ List.replicate (width - cs.length) '0'

/-- Decimal digits, at least `width` of them. -/
def decimal (width n : Nat) : List Char := padLeft width (Nat.toDigits 10 n)

/-- Lowercase hexadecimal digits, at least `width` of them. -/
def hex (width n : Nat) : List Char := padLeft width (Nat.toDigits 16 n)

/-- The number that decimal digits denote. -/
def ofDecimal (cs : List Char) : Nat := Nat.ofDigitChars 10 cs 0

def isHexDigit (c : Char) : Bool := c.isDigit || ('a' ≤ c && c ≤ 'f')

def hexValue (c : Char) : Nat := if c.isDigit then c.toNat - 48 else c.toNat - 87

/-- The number that lowercase hexadecimal digits denote. -/
def ofHex (cs : List Char) : Nat := cs.foldl (fun n c => 16 * n + hexValue c) 0

/-- A whole number in base ten, with a sign when it is negative. -/
def signed : Int → String
  | .ofNat n => String.ofList (decimal 1 n)
  | .negSucc n => String.ofList ('-' :: decimal 1 (n + 1))

theorem ofDecimal_decimal (width n : Nat) : ofDecimal (decimal width n) = n := by
  simp [ofDecimal, decimal, padLeft, Nat.ofDigitChars_append]

theorem isDigit_of_mem_decimal {width n : Nat} {c : Char} (h : c ∈ decimal width n) :
    c.isDigit := by
  rcases List.mem_append.1 h with h | h
  · rw [List.eq_of_mem_replicate h]; rfl
  · exact Nat.isDigit_of_mem_toDigits (by omega) (by omega) h

theorem length_decimal (width n : Nat) :
    (decimal width n).length = max width (Nat.toDigits 10 n).length := by
  simp only [decimal, padLeft, List.length_append, List.length_replicate]
  omega

theorem length_fitRight (width : Nat) (cs : List Char) : (fitRight width cs).length = width := by
  simp only [fitRight, List.length_append, List.length_take, List.length_replicate]
  omega

end CloudEvents.Text
