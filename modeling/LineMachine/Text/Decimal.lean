import LineMachine.Text.Basic

namespace LineMachine.Text

/-- The decimal digits of a natural number, without leading zeros. -/
def ofNat (number : Nat) : Text :=
  (Nat.toDigits 10 number).map fun digit => UInt8.ofNat digit.toNat

/-- The decimal form of an integer. -/
def ofInt : Int → Text
  | .ofNat number => ofNat number
  | .negSucc number => 45 :: ofNat (number + 1)

def isDigit (byte : UInt8) : Bool := 48 ≤ byte && byte ≤ 57

/-- The value of decimal digits; there must be at least one. -/
def toNat? (text : Text) : Option Nat :=
  if !text.isEmpty && text.all isDigit then
    some (text.foldl (fun value byte => 10 * value + (byte.toNat - 48)) 0)
  else none

/-- The value of an optional sign and decimal digits. -/
def toInt? : Text → Option Int
  | 43 :: digits => (toNat? digits).map Int.ofNat
  | 45 :: digits => (toNat? digits).map fun value => -(value : Int)
  | digits => (toNat? digits).map Int.ofNat

/-- The sixty-four bits of a word count with sign from minus this number up to below it. -/
abbrev wordLimit : Nat := 9223372036854775808

/-- The value of a literal that fits into a word. -/
def toInt64? (text : Text) : Option Int :=
  match text.toInt? with
  | some value => if -(wordLimit : Int) ≤ value ∧ value < wordLimit then some value else none
  | none => none

end LineMachine.Text
