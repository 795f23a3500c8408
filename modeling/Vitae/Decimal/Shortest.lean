/-!
Decimal text for binary fractions: the fewest digits that still name the number among all of its format,
and of those the nearest. The text is positional at every size.
-/

namespace Vitae.Decimal

/-- The numbers that a format rounds to `mantissa · 2 ^ exponent`. The neighbour below is half as far
where `narrow` holds, and the ends belong to the interval where the mantissa is even. -/
structure Interval where
  mantissa : Nat
  exponent : Int
  narrow : Bool

namespace Interval

/-- Quarters of the last binary place: the lower end, the number and the upper end. -/
def low (interval : Interval) : Nat :=
  4 * interval.mantissa - if interval.narrow then 1 else 2

def high (interval : Interval) : Nat :=
  4 * interval.mantissa + 2

/-- Holds where `digits · 10 ^ place` lies in the interval; `unit` and `quarter` are the two scales over
one denominator. -/
def holds (interval : Interval) (unit quarter digits : Nat) : Bool :=
  if interval.mantissa % 2 = 0 then
    interval.low * quarter ≤ digits * unit && digits * unit ≤ interval.high * quarter
  else interval.low * quarter < digits * unit && digits * unit < interval.high * quarter

/-- The multiple of `10 ^ place` in the interval that is nearest to the number; of two as near, the
larger. -/
def digitsAt? (interval : Interval) (place : Int) : Option Nat :=
  let scale := interval.exponent - 2
  let unit := Nat.pow 10 place.toNat * Nat.pow 2 (-scale).toNat
  let quarter := Nat.pow 2 scale.toNat * Nat.pow 10 (-place).toNat
  let exact := 4 * interval.mantissa * quarter
  let below := exact / unit
  match interval.holds unit quarter below, interval.holds unit quarter (below + 1) with
  | true, true => some (if exact - below * unit < (below + 1) * unit - exact then below else below + 1)
  | true, false => some below
  | false, true => some (below + 1)
  | false, false => none

/-- The digits and the place of the last one, for the highest place that has a multiple in the
interval. -/
def shortest (interval : Interval) (highest : Int) (places : Nat) : Nat × Int :=
  ((List.range places).findSome? fun (index : Nat) =>
    let place := highest - index
    (interval.digitsAt? place).map fun digits => (digits, place)).getD (0, 0)

end Interval

/-- `digits · 10 ^ place` with a point and without an exponent. -/
def positional (digits : Nat) (place : Int) : List Char :=
  let shown := Nat.toDigits 10 digits
  let fraction := (-place).toNat
  if fraction = 0 then shown ++ List.replicate place.toNat '0'
  else
    let padded := List.replicate (fraction + 1 - shown.length) '0' ++ shown
    padded.take (padded.length - fraction) ++ '.' :: padded.drop (padded.length - fraction)

/-- The text of a number of single precision. -/
def single (value : Float32) : String :=
  let bits : Nat := value.toBits.toNat
  let sign := if bits / 0x80000000 = 1 then "-" else ""
  let field : Nat := bits / 0x800000 % 0x100
  let fraction : Nat := bits % 0x800000
  if field = 255 then (if fraction = 0 then sign ++ "inf" else "NaN")
  else if field = 0 ∧ fraction = 0 then sign ++ "0"
  else
    let interval : Interval :=
      if field = 0 then ⟨fraction, -149, false⟩
      else ⟨0x800000 + fraction, (field : Int) - 150, fraction = 0 && field != 1⟩
    let (digits, place) := interval.shortest 39 90
    sign ++ .ofList (positional digits place)

end Vitae.Decimal
