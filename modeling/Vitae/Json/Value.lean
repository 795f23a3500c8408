import Vitae.Decimal.Double

/-!
JSON values. Objects keep their members in the order written, repeated names included, and numbers keep
how they were written as far as a reader may want to tell: `1` and `1.0` differ.
-/

namespace Vitae

/-- The number `± significand · 10 ^ exponent`; `whole` tells that the significand is how it is written. -/
structure Numeral where
  negative : Bool
  significand : Nat
  exponent : Int
  whole : Bool
deriving DecidableEq, Inhabited

inductive Json where
  | null
  | bool (value : Bool)
  | number (value : Numeral)
  | string (text : String)
  /-- A string, or an object with a name, whose escapes spell half of a surrogate pair: grammatical, but
  no text. -/
  | halfPair
  | array (items : List Json)
  | object (members : List (String × Json))
deriving Inhabited

namespace Numeral

def ofNat (value : Nat) : Numeral :=
  ⟨false, value, 0, true⟩

/-- The natural number that a numeral spells with digits alone and no sign. -/
def toNat? (numeral : Numeral) : Option Nat :=
  if numeral.whole ∧ ¬numeral.negative then some numeral.significand else none

/-- Holds where the significand and the power of ten, each rounded to a double, have a product that no
double rounds to infinity. -/
def isFinite (numeral : Numeral) : Bool :=
  numeral.significand = 0 || numeral.exponent < 0 ||
    numeral.exponent ≤ 308 &&
      Decimal.nearestDouble numeral.significand * Decimal.nearestDouble (Nat.pow 10 numeral.exponent.toNat)
        < Decimal.doubleBound

/-- The significand multiplied or divided by the power of ten. A power that no double holds is applied in
two steps, and each step rounds. -/
def toFloat (numeral : Numeral) : Float :=
  let power (places : Nat) : Float := Float.ofNat (Decimal.nearestDouble (Nat.pow 10 (min places 308)))
  let significand := Float.ofNat (Decimal.nearestDouble numeral.significand)
  let places := numeral.exponent.natAbs
  let size :=
    if numeral.exponent < 0 then significand / power places / power (places - 308)
    else significand * power places * power (places - 308)
  if numeral.negative then -size else size

end Numeral

namespace Json

def ofNat (value : Nat) : Json :=
  .number (.ofNat value)

def strings (texts : List String) : Json :=
  .array (texts.map .string)

def text? : Json → Option String
  | .string text => some text
  | _ => none

def bool? : Json → Option Bool
  | .bool value => some value
  | _ => none

def nat? : Json → Option Nat
  | .number value => value.toNat?
  | _ => none

def items? : Json → Option (List Json)
  | .array items => some items
  | _ => none

/-- The first member of an object with a name. -/
def member? (name : String) : Json → Option Json
  | .object members => members.lookup name
  | _ => none

def texts? (value : Json) : Option (List String) := do
  (← value.items?).mapM text?

mutual

/-- How many arrays and objects enclose the innermost value, the value itself counted. -/
def depth : Json → Nat
  | .array items => itemsDepth items + 1
  | .object members => membersDepth members + 1
  | _ => 0
termination_by structural value => value

def itemsDepth : List Json → Nat
  | [] => 0
  | item :: rest => max (depth item) (itemsDepth rest)
termination_by structural items => items

def membersDepth : List (String × Json) → Nat
  | [] => 0
  | (_, value) :: rest => max (depth value) (membersDepth rest)
termination_by structural members => members

end

end Json

end Vitae
