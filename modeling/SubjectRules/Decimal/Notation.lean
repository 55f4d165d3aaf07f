import SubjectRules.Decimal.Shortest

/-!
# How a double is written

A double is written with the fewest digits that read back to it.  When the leading
digit stands between the fifth place after the point and the sixteenth before it,
the number is written out, always with a point; otherwise in scientific form with a
signed exponent and no padding.
-/

namespace SubjectRules.Decimal

def digitText (n : Nat) : String := String.ofList (Nat.toDigits 10 n)

private def zeros (n : Nat) : String := String.ofList (List.replicate n '0')

/-- Places written out: the exponent of the leading digit lies in this range. -/
def writtenOut (leading : Int) : Bool := -5 ≤ leading && leading ≤ 15

def Scaled.text (d : Scaled) : String :=
  let digits := digitText d.digits
  let count := width d.digits
  let leading := d.exponent + count - 1
  if writtenOut leading then
    if 0 ≤ d.exponent then digits ++ zeros d.exponent.toNat ++ ".0"
    else if 0 ≤ leading then
      let whole := (leading + 1).toNat
      String.ofList (digits.toList.take whole) ++ "." ++ String.ofList (digits.toList.drop whole)
    else "0." ++ zeros (-leading - 1).toNat ++ digits
  else
    let tail := digits.toList.drop 1
    let mantissa :=
      if tail.isEmpty then digits
      else String.ofList (digits.toList.take 1) ++ "." ++ String.ofList tail
    let sign := if leading < 0 then "-" else "+"
    mantissa ++ "e" ++ sign ++ digitText leading.natAbs

def floatText (x : Float) : String :=
  let bits := x.toBits
  let sign := if bits >>> 63 = 1 then "-" else ""
  if bits <<< 1 = 0 then sign ++ "0.0" else sign ++ (Binary.ofBits bits).shortest.text

end SubjectRules.Decimal
