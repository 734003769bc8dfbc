import LineMachine.Text.Decimal

namespace LineMachine.Text.Base64

/-- The value of a character. -/
def digit? (byte : UInt8) : Option Nat :=
  if 65 ≤ byte && byte ≤ 90 then some (byte.toNat - 65)
  else if 97 ≤ byte && byte ≤ 122 then some (byte.toNat - 71)
  else if isDigit byte then some (byte.toNat + 4)
  else if byte = 43 then some 62
  else if byte = 47 then some 63
  else none

/-- The value of four characters. -/
def group? (a b c d : UInt8) : Option Nat := do
  return (((← digit? a) * 64 + (← digit? b)) * 64 + (← digit? c)) * 64 + (← digit? d)

/-- The three bytes of a group. -/
def bytesOf (group : Nat) : Text :=
  [UInt8.ofNat (group / 65536), UInt8.ofNat (group / 256), UInt8.ofNat group]

/-- The bytes of whole groups; the last one may be padded. -/
def decodeGroups : Text → Option Text
  | [] => some []
  | [a, b, 61, 61] => (group? a b 65 65).map fun group => (bytesOf group).take 1
  | [a, b, c, 61] => (group? a b c 65).map fun group => (bytesOf group).take 2
  | a :: b :: c :: d :: rest => do return bytesOf (← group? a b c d) ++ (← decodeGroups rest)
  | _ => none

/-- The bytes of a text in base sixty-four; line breaks do not count. -/
def decode (text : Text) : Option Text :=
  decodeGroups (text.filter fun byte => byte != 10 && byte != 13)

end LineMachine.Text.Base64
