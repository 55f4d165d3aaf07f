/-!
# The shortest decimal of a binary fraction

A finite double stands for the interval of reals that round to it.  This file
selects the decimal with the fewest digits in that interval, and among those the
one nearest to the value.  All comparisons are exact, in natural numbers, so the
selection can be reasoned about on the significand and the exponent alone.
-/

namespace SubjectRules.Decimal

/-- The positive value `significand * 2 ^ exponent`.  Below a power of two the gap
to the next smaller double is half as wide as the gap above; `narrowBelow` says so. -/
structure Binary where
  significand : Nat
  exponent : Int
  narrowBelow : Bool
  deriving DecidableEq, Repr

def Binary.ofBits (bits : UInt64) : Binary :=
  let biased := ((bits >>> 52) &&& 0x7FF).toNat
  let fraction := (bits &&& 0xFFFFFFFFFFFFF).toNat
  if biased = 0 then ⟨fraction, -1074, false⟩
  else ⟨Nat.pow 2 52 + fraction, (biased : Int) - 1075, fraction == 0 && biased > 1⟩

structure Scaled where
  digits : Nat
  exponent : Int
  deriving DecidableEq, Repr

def width (n : Nat) : Nat := (Nat.toDigits 10 n).length

/-! ## The grid of `n`-digit decimals -/

def Binary.scaleBy (x : Binary) (step : Int) : Nat × Nat :=
  (Nat.pow 2 x.exponent.toNat * Nat.pow 10 (-step).toNat,
    Nat.pow 2 (-x.exponent).toNat * Nat.pow 10 step.toNat)

/-- Whether `candidate * 10 ^ step` rounds to `x`.  The interval reaches halfway to
each neighbour; its ends belong to it exactly when the significand is even. -/
def Binary.readsBack (x : Binary) (step : Int) (candidate : Nat) : Bool :=
  let (num, den) := x.scaleBy step
  let low := (4 * x.significand - (if x.narrowBelow then 1 else 2)) * num
  let high := (4 * x.significand + 2) * num
  let point := 4 * candidate * den
  if x.significand % 2 = 0 then low ≤ point && point ≤ high else low < point && point < high

def Binary.magnitude (x : Binary) : Int :=
  let (num, den) := x.scaleBy 0
  let value := x.significand * num
  if den ≤ value then width (value / den) else 1 - (width ((den - 1) / value) : Int)

/-- The nearer of the two grid points around `x` that rounds to `x`; of two equally
near ones, the even one. -/
def Binary.onGrid (x : Binary) (step : Int) : Option Nat :=
  let (num, den) := x.scaleBy step
  let below := x.significand * num / den
  let rest := 2 * (x.significand * num % den)
  match x.readsBack step below, x.readsBack step (below + 1) with
  | true, true =>
      if rest < den || (rest = den && below % 2 = 0) then some below else some (below + 1)
  | true, false => some below
  | false, true => some (below + 1)
  | false, false => none

def Scaled.strip : Nat → Scaled → Scaled
  | 0, d => d
  | fuel + 1, d =>
      if d.digits % 10 = 0 && d.digits ≠ 0 then strip fuel ⟨d.digits / 10, d.exponent + 1⟩ else d

/-- The exact decimal expansion, used when no grid of at most seventeen digits has a
point that reads back. -/
def Binary.exact (x : Binary) : Scaled :=
  ⟨x.significand * Nat.pow 2 x.exponent.toNat * Nat.pow 5 (-x.exponent).toNat, min x.exponent 0⟩

def Binary.shortest (x : Binary) : Scaled :=
  let top := x.magnitude
  let found := (List.range 17).findSome? fun (n : Nat) =>
    let step := top - (n + 1)
    (x.onGrid step).map fun digits => (⟨digits, step⟩ : Scaled)
  let chosen := found.getD x.exact
  chosen.strip (width chosen.digits)

end SubjectRules.Decimal
