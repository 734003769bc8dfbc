import LineMachine.Text.Decimal
import LineMachine.Yaml.Node

namespace LineMachine.Yaml.Implicit

open Text (isDigit wordLimit)

def lowerByte (byte : UInt8) : UInt8 := if 65 ≤ byte && byte ≤ 90 then byte + 32 else byte

/-- The words with a meaning of their own. -/
def words : List (Text × List String) := [
  (Node.boolTag, ["true", "True", "TRUE", "false", "False", "FALSE"]),
  (Node.nullTag, ["", "~", "null", "Null", "NULL"]),
  (Node.floatTag,
    [".nan", ".NaN", ".NAN", ".inf", ".Inf", ".INF", "+.inf", "+.Inf", "+.INF", "-.inf", "-.Inf",
      "-.INF"])]

def wordTag? (text : Text) : Option Text :=
  (words.find? fun (_, list) => list.any fun word => utf8 word == text).map Prod.fst

def digitValue (byte : UInt8) : Nat :=
  if isDigit byte then byte.toNat - 48
  else
    let letter := lowerByte byte
    if 97 ≤ letter && letter ≤ 122 then letter.toNat - 87 else 99

/-- The value of digits in a base; there must be at least one. -/
def digits? (base : Nat) (text : Text) : Option Nat :=
  if !text.isEmpty && text.all (digitValue · < base) then
    some (text.foldl (fun value byte => value * base + digitValue byte) 0)
  else none

/-- The value of a natural number whose beginning tells its base. -/
def natural? : Text → Option Nat
  | [48] => some 0
  | 48 :: mark :: rest =>
    let letter := lowerByte mark
    if letter = 98 && !rest.isEmpty then digits? 2 rest
    else if letter = 111 && !rest.isEmpty then digits? 8 rest
    else if letter = 120 && !rest.isEmpty then digits? 16 rest
    else digits? 8 (mark :: rest)
  | text => digits? 10 text

/-- The value of an integer that fits into sixty-four bits, with a sign or without. -/
def integer? : Text → Option Int
  | 45 :: rest => (natural? rest).bind fun n => if n ≤ wordLimit then some (-(n : Int)) else none
  | 43 :: rest => (natural? rest).bind fun n => if n < wordLimit then some (n : Int) else none
  | text => (natural? text).bind fun n => if n < 2 * wordLimit then some (n : Int) else none

/-- The old spelling of a signed number with a mark for its base: the sign may follow the mark. -/
def isMarkedInteger (mark : UInt8) (base : Nat) (text : Text) : Bool :=
  let signed (limit : Nat) (rest : Text) : Bool := (digits? base rest).any (· ≤ limit)
  match text with
  | 48 :: letter :: rest =>
    letter == mark &&
      (match rest with
      | 45 :: digits => signed wordLimit digits
      | 43 :: digits => signed (wordLimit - 1) digits
      | digits => signed (2 * wordLimit - 1) digits)
  | 45 :: 48 :: letter :: digits => letter == mark && signed wordLimit digits
  | _ => false

/-- The digits at the front, and the rest. -/
def spanDigits (text : Text) : Text × Text := text.span isDigit

def dropSign : Text → Text
  | 43 :: rest => rest
  | 45 :: rest => rest
  | text => text

/-- A decimal number with the point after so many digits, times a power of ten. -/
structure Decimal where
  digits : Text
  point : Nat
  exponent : Int

/-- The exponent at the end of a number: none, or a letter, a sign and digits. -/
def exponent? : Text → Option Int
  | [] => some 0
  | letter :: rest =>
    if lowerByte letter = 101 then
      let value := (dropSign rest).toNat?
      match rest with
      | 45 :: _ => value.map fun n => -(n : Int)
      | _ => value.map Int.ofNat
    else none

/-- A number with digits before or after an optional point. -/
def decimal? (text : Text) : Option Decimal :=
  let (whole, rest) := spanDigits (dropSign text)
  let (fraction, rest, pointed) :=
    match rest with
    | 46 :: after => let (fraction, rest) := spanDigits after; (fraction, rest, true)
    | _ => ([], rest, false)
  if whole.isEmpty && (!pointed || fraction.isEmpty) then none
  else
    (exponent? rest).map fun exponent => ⟨whole ++ fraction, whole.length, exponent⟩

/-- The magnitude from which on a number rounds beyond the largest of double precision. -/
def overflowLimit : Nat := Nat.pow 2 1024 - Nat.pow 2 970

/-- Whether a number is within the range of double precision. -/
def Decimal.isFinite (number : Decimal) : Bool :=
  let significant := number.digits.dropWhile (· == 48)
  let zeros := number.digits.length - significant.length
  let magnitude : Int := number.exponent + number.point - zeros
  if significant.isEmpty then true
  else if magnitude < 300 then true
  else if 320 < magnitude then false
  else
    let value := (Text.toNat? significant).getD 0
    let scale : Int := magnitude - significant.length
    if 0 ≤ scale then value * Nat.pow 10 scale.toNat < overflowLimit
    else value < overflowLimit * Nat.pow 10 (-scale).toNat

def isFloat (text : Text) : Bool := (decimal? text).any Decimal.isFinite

/-- No underscore stands at the end or beside anything but a digit. -/
def underscoresInside : Text → Bool
  | [] => true
  | [byte] => byte != 95
  | first :: second :: rest =>
    (second != 95 || isDigit first) && (first != 95 || isDigit second) &&
      underscoresInside (second :: rest)

/-- Underscores may only stand between two digits. -/
def underscoresFit (text : Text) : Bool := text.head? != some 95 && underscoresInside text

/-- One or two digits at the front. -/
def shortNumber? : Text → Option (Nat × Text)
  | first :: second :: rest =>
    if isDigit first then
      if isDigit second then some ((first.toNat - 48) * 10 + (second.toNat - 48), rest)
      else some (first.toNat - 48, second :: rest)
    else none
  | [first] => if isDigit first then some (first.toNat - 48, []) else none
  | [] => none

/-- A byte that has to come next. -/
def expect? (byte : UInt8) : Text → Option Text
  | first :: rest => if first = byte then some rest else none
  | [] => none

def isLeapYear (year : Nat) : Bool :=
  year % 4 == 0 && (year % 100 != 0 || year % 400 == 0)

def daysIn (month year : Nat) : Nat :=
  if month = 2 then (if isLeapYear year then 29 else 28)
  else if month = 4 || month = 6 || month = 9 || month = 11 then 30
  else 31

/-- The rest after a date. -/
def date? (text : Text) : Option Text := do
  let (yearDigits, rest) := spanDigits text
  if yearDigits.length ≠ 4 then none
  let year ← yearDigits.toNat?
  let rest ← expect? 45 rest
  let (month, rest) ← shortNumber? rest
  if month < 1 || 12 < month then none
  let rest ← expect? 45 rest
  let (day, rest) ← shortNumber? rest
  if day < 1 || daysIn month year < day then none
  return rest

/-- A fraction of a second may follow: a point or a comma and digits. -/
def dropFraction : Text → Text
  | mark :: digit :: rest =>
    if (mark = 46 || mark = 44) && isDigit digit then (spanDigits (digit :: rest)).2
    else mark :: digit :: rest
  | text => text

/-- The rest after a time of day. -/
def time? (text : Text) : Option Text := do
  let (hour, rest) ← shortNumber? text
  if 24 ≤ hour then none
  let rest ← expect? 58 rest
  let (minute, rest) ← shortNumber? rest
  if 60 ≤ minute then none
  let rest ← expect? 58 rest
  let (second, rest) ← shortNumber? rest
  if 60 ≤ second then none
  return dropFraction rest

/-- The offset of a time zone, either none or hours and minutes. -/
def isZone : Text → Bool
  | [90] => true
  | [sign, h, i, 58, m, n] =>
    (sign = 43 || sign = 45) && [h, i, m, n].all isDigit &&
      (h.toNat - 48) * 10 + (i.toNat - 48) ≤ 24 && (m.toNat - 48) * 10 + (n.toNat - 48) ≤ 60
  | _ => false

/-- Whether a text is a date, or a date and a time with a zone after the letter or without one
after a blank. -/
def isTimestamp (text : Text) : Bool :=
  match date? text with
  | none => false
  | some [] => true
  | some (separator :: rest) =>
    match time? rest with
    | none => false
    | some zone =>
      ((separator = 84 || separator = 116) && isZone zone) || (separator = 32 && zone.isEmpty)

def withoutUnderscores (text : Text) : Text := text.filter (· != 95)

/-- The tag of a text that starts like a number. -/
def numberTag (timestamps : Bool) (text : Text) : Text :=
  if timestamps && isTimestamp text then Node.timestampTag
  else
    let bare := withoutUnderscores text
    if (integer? bare).isSome then Node.intTag
    else if isFloat bare then Node.floatTag
    else if isMarkedInteger 98 2 bare || isMarkedInteger 111 8 bare then Node.intTag
    else Node.stringTag

/-- The implicit tag of a text. Timestamps can be left out. -/
def tagOf (timestamps : Bool) (text : Text) : Text :=
  match wordTag? text with
  | some tag => tag
  | none =>
    match text with
    | [] => Node.stringTag
    | first :: _ =>
      if isDigit first || first = 43 || first = 45 then numberTag timestamps text
      else if first = 46 then
        if underscoresFit text && isFloat (withoutUnderscores text) then Node.floatTag
        else Node.stringTag
      else Node.stringTag

end LineMachine.Yaml.Implicit
