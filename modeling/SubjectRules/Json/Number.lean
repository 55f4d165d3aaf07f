import SubjectRules.Decimal.Notation

/-!
# JSON numbers

A number is an integer or a double, and the two never mix: `1` and `1.0` are
different numbers.  Integers that fit neither an unsigned nor a signed 64-bit word
are kept as doubles by the reader, so every integer here is exact.
-/

namespace SubjectRules.Json

inductive Number where
  | int (value : Int)
  | float (value : Float)
  deriving DecidableEq, Repr

namespace Number

/-- Numbers compare kind first; doubles compare as doubles, so zero has one sign. -/
def same : Number → Number → Bool
  | .int a, .int b => a == b
  | .float a, .float b => a == b
  | _, _ => false

def toFloat : Number → Float
  | .int n => Float.ofInt n
  | .float x => x

def toCount? : Number → Option Nat
  | .int n => if 0 ≤ n then some n.toNat else none
  | .float _ => none

def text : Number → String
  | .int n => if n < 0 then "-" ++ Decimal.digitText n.natAbs else Decimal.digitText n.natAbs
  | .float x => Decimal.floatText x

/-! ## Reading a numeral -/

structure Numeral where
  negative : Bool
  whole : List Nat
  fraction : Option (List Nat)
  power : Option (Bool × List Nat)
  deriving DecidableEq, Repr

/-- Appends digits to a significand while it fits 64 bits.  Returns the significand,
how many digits were taken and how many were left. -/
def absorb (significand : Nat) : List Nat → Nat × Nat × Nat
  | [] => (significand, 0, 0)
  | d :: ds =>
      if significand * 10 + d < Nat.pow 2 64 then
        let (s, taken, left) := absorb (significand * 10 + d) ds
        (s, taken + 1, left)
      else (significand, 0, ds.length + 1)

/-- `x * 10 ^ e` by one multiplication or division per power of ten within a double's
reach; `none` when the result is too large. -/
def scale (x : Float) (e : Int) : Option Float :=
  if e.natAbs ≤ 308 then
    let power := Float.ofScientific 1 false e.natAbs
    if 0 ≤ e then
      let scaled := x * power
      if scaled.isInf then none else some scaled
    else some (x / power)
  else if x == 0.0 then some x
  else if 0 ≤ e then none
  else scale (x / Float.ofScientific 1 false 308) (e + 308)
termination_by e.natAbs
decreasing_by omega

private def natOfDigits (ds : List Nat) : Nat := ds.foldl (fun n d => n * 10 + d) 0

private def withSign (negative : Bool) (x : Float) : Number :=
  .float (if negative then -x else x)

/-- The largest exponent that is read as a number; beyond it only zero is readable
upwards, and everything is zero downwards. -/
def exponentLimit : Nat := Nat.pow 2 31 - 1

/-- The number a numeral denotes.  A numeral with neither point nor exponent is an
integer when 64 bits hold it, except that minus zero is a double.  Otherwise the
leading digits that fit 64 bits are scaled by one power of ten. -/
def ofNumeral? (n : Numeral) : Option Number :=
  let (lead, _, dropped) := absorb 0 n.whole
  match n.fraction, n.power, dropped with
  | none, none, 0 =>
      if !n.negative then some (.int lead)
      else if lead = 0 || Nat.pow 2 63 < lead then some (.float (-(Float.ofNat lead)))
      else some (.int (-(lead : Int)))
  | fraction, power, dropped =>
      let (significand, taken, _) := absorb lead (fraction.getD [])
      let shift : Int := (dropped : Int) - taken
      match power with
      | none => (scale (Float.ofNat significand) shift).map (withSign n.negative)
      | some (down, digits) =>
          let exponent := natOfDigits digits
          if exponentLimit < exponent then
            if significand ≠ 0 && !down then none else some (withSign n.negative 0.0)
          else
            let total := if down then shift - exponent else shift + exponent
            (scale (Float.ofNat significand) total).map (withSign n.negative)

end Number

end SubjectRules.Json
