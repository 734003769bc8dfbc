import LineMachine.Text.Decimal

namespace LineMachine

/-- The arithmetic that the machine asks of its numbers. -/
class Number (ν : Type) where
  /-- The number that a literal stands for. -/
  ofInt : Int → ν
  /-- The integer that is printed and compared with zero. -/
  toInt : ν → Int
  add : ν → ν → ν
  neg : ν → ν

instance : Number Int64 where
  ofInt := Int64.ofInt
  toInt := Int64.toInt
  add := (· + ·)
  neg := (- ·)

instance : Number Int where
  ofInt := id
  toInt := id
  add := (· + ·)
  neg := (- ·)

namespace Number

variable {ν : Type} [Number ν]

def isZero (number : ν) : Bool := toInt number == 0

def text (number : ν) : Text := Text.ofInt (toInt number)

end Number

/-- An integer reduced into the signed range of a sixty-four bit word. -/
def wrap (number : Int) : Int := number.bmod 18446744073709551616

end LineMachine
