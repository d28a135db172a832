/-!
# The shortest decimal of a binary64 number

A finite number other than zero is `m * 2 ^ q`, and the reals that round to it form an interval
around it. Of the decimals in this interval those with the fewest digits are chosen, of these the
nearest, and of two equally near the larger.
-/

namespace Kinematics

/-- The number `digits * 10 ^ exponent`. -/
structure Decimal where
  digits : Nat
  exponent : Int

/-- The magnitude `significand * 2 ^ exponent` of a finite number. The gap to the next smaller
magnitude is half the gap to the next larger one where `narrowBelow` is set. -/
structure BinaryMagnitude where
  significand : Nat
  exponent : Int
  narrowBelow : Bool

/-- The magnitude in the bits of a finite number. -/
def BinaryMagnitude.ofBits (bits : UInt64) : BinaryMagnitude :=
  let e := ((bits >>> 52) &&& 0x7FF).toNat
  let f := (bits &&& 0xFFFFFFFFFFFFF).toNat
  if e = 0 then ⟨f, -1074, false⟩ else ⟨Nat.pow 2 52 + f, e - 1075, f = 0 && 1 < e⟩

namespace BinaryMagnitude

/-- A quarter of the unit in the last place as a decimal. -/
def quarter (x : BinaryMagnitude) : Decimal :=
  if x.exponent < 2 then ⟨Nat.pow 5 (2 - x.exponent).toNat, x.exponent - 2⟩
  else ⟨Nat.pow 2 (x.exponent - 2).toNat, 0⟩

/-- All digits of the magnitude. -/
def exact (x : BinaryMagnitude) : Decimal :=
  ⟨4 * x.significand * x.quarter.digits, x.quarter.exponent⟩

/-- Does `n`, at the exponent of the exact decimal, round to the magnitude? -/
def readsBack (x : BinaryMagnitude) (n : Nat) : Bool :=
  let unit := x.quarter.digits
  let lower := (4 * x.significand - if x.narrowBelow then 1 else 2) * unit
  let upper := (4 * x.significand + 2) * unit
  if x.significand % 2 = 0 then lower ≤ n && n ≤ upper else lower < n && n < upper

/-- The nearest decimal with the last `dropped` digits dropped, if it reads back. -/
def rounded? (x : BinaryMagnitude) (dropped : Nat) : Option Decimal :=
  let n := x.exact.digits
  let grid := Nat.pow 10 dropped
  let below := n / grid
  let choice (k : Nat) : Decimal := ⟨k, x.exact.exponent + dropped⟩
  match x.readsBack (below * grid), x.readsBack ((below + 1) * grid) with
  | true, true => some (choice (if 2 * (n % grid) < grid then below else below + 1))
  | true, false => some (choice below)
  | false, true => some (choice (below + 1))
  | false, false => none

/-- The decimal that drops the most digits of the exact one and still reads back. -/
def shortest (x : BinaryMagnitude) : Decimal :=
  let length := (Nat.toDigits 10 x.exact.digits).length
  ((List.range length).reverse.findSome? x.rounded?).getD x.exact

end BinaryMagnitude

namespace Decimal

/-- Drops zeros at the end, at most `fuel` of them. -/
def stripZeros : Nat → Nat → Nat × Nat
  | 0, n => (n, 0)
  | fuel + 1, n =>
      if n % 10 = 0 then
        let (m, dropped) := stripZeros fuel (n / 10)
        (m, dropped + 1)
      else (n, 0)

/-- The decimal without an exponent; an integer has no point. -/
def positional (d : Decimal) : String :=
  let (digits, dropped) := stripZeros (-d.exponent).toNat d.digits
  let exponent := d.exponent + dropped
  let cs := Nat.toDigits 10 digits
  if 0 ≤ exponent then String.ofList (cs ++ List.replicate exponent.toNat '0')
  else
    let places := (-exponent).toNat
    let cs := List.replicate (places + 1 - cs.length) '0' ++ cs
    String.ofList (cs.take (cs.length - places) ++ '.' :: cs.drop (cs.length - places))

end Decimal

/-- The shortest text that reads back as the number, never with an exponent. -/
def numberText (x : Float) : String :=
  if x.isNaN then "NaN"
  else
    let sign := if x.toBits >>> 63 = 1 then "-" else ""
    if x.isInf then sign ++ "inf"
    else if x == 0 then sign ++ "0"
    else sign ++ (BinaryMagnitude.ofBits x.toBits).shortest.positional

end Kinematics
