import Vitae.Json.Value

/-!
Reading JSON. The readers take the text from where a value starts and answer with the value and the text
behind it; arrays and objects recurse on a count of steps that the length of the text bounds.
-/

namespace Vitae.Json

def isBlank (c : Char) : Bool :=
  c == ' ' || c == '\t' || c == '\n' || c == '\r'

def skipBlanks (text : List Char) : List Char :=
  text.dropWhile isBlank

def digitsValue (digits : List Char) : Nat :=
  digits.foldl (fun value digit => 10 * value + (digit.toNat - '0'.toNat)) 0

/-- One digit or more. -/
def readDigits (text : List Char) : Option (List Char × List Char) :=
  match text.takeWhile Char.isDigit with
  | [] => none
  | digits => some (digits, text.dropWhile Char.isDigit)

def readFraction : List Char → Option (List Char × List Char)
  | '.' :: rest => readDigits rest
  | text => some ([], text)

def readExponent (text : List Char) : Option (Option Int × List Char) :=
  match text with
  | c :: rest =>
    if c = 'e' ∨ c = 'E' then
      let (negative, unsigned) := match rest with
        | '-' :: later => (true, later)
        | '+' :: later => (false, later)
        | _ => (false, rest)
      (readDigits unsigned).map fun (digits, after) =>
        let size : Int := digitsValue digits
        (some (if negative then -size else size), after)
    else some (none, text)
  | [] => some (none, text)

/-- A significand with digits appended as long as it fits 64 bits, and the digits left over. -/
def gatherDigits (significand : Nat) : List Char → Nat × List Char
  | [] => (significand, [])
  | digit :: rest =>
    let longer := 10 * significand + (digit.toNat - '0'.toNat)
    if longer < UInt64.size then gatherDigits longer rest else (significand, digit :: rest)

/-- Digits that the significand has no room for count as zeros before the point and not at all behind
it. -/
def readNumeral (text : List Char) : Option (Numeral × List Char) := do
  let (negative, unsigned) := match text with
    | '-' :: rest => (true, rest)
    | _ => (false, text)
  let (whole, afterWhole) ← readDigits unsigned
  if whole.head? = some '0' ∧ whole ≠ ['0'] then none
  let (fraction, afterFraction) ← readFraction afterWhole
  let (exponent, after) ← readExponent afterFraction
  let (leading, zeros) := gatherDigits 0 whole
  let (significand, unused) := gatherDigits leading fraction
  let raised : Int := zeros.length
  let lowered : Int := fraction.length - unused.length
  some (⟨negative, significand, exponent.getD 0 + raised - lowered,
    zeros.isEmpty && fraction.isEmpty && exponent.isNone⟩, after)

def hexValue? (c : Char) : Option Nat :=
  if c.isDigit then some (c.toNat - '0'.toNat)
  else if 'a' ≤ c ∧ c ≤ 'f' then some (c.toNat - 'a'.toNat + 10)
  else if 'A' ≤ c ∧ c ≤ 'F' then some (c.toNat - 'A'.toNat + 10)
  else none

def codeUnit? (first second third fourth : Char) : Option Nat := do
  return (((← hexValue? first) * 16 + (← hexValue? second)) * 16 + (← hexValue? third)) * 16 + (← hexValue? fourth)

def simpleEscape? (c : Char) : Option Char :=
  if c = '"' ∨ c = '\\' ∨ c = '/' then some c
  else [('n', '\n'), ('t', '\t'), ('r', '\r'), ('b', '\x08'), ('f', '\x0c')].lookup c

/-- What has been read of a string: its characters, last first, the first half of a surrogate pair that
waits for its second, and whether a half was met without its other half. -/
structure Partial where
  characters : List Char := []
  waiting : Option Nat := none
  halfPair : Bool := false

def Partial.push (read : Partial) (c : Char) : Partial :=
  ⟨c :: read.characters, none, read.halfPair || read.waiting.isSome⟩

def Partial.pushUnit (read : Partial) (unit : Nat) : Partial :=
  if 0xDC00 ≤ unit ∧ unit < 0xE000 then
    match read.waiting with
    | some high =>
      ⟨Char.ofNat (0x10000 + (high - 0xD800) * 0x400 + (unit - 0xDC00)) :: read.characters, none, read.halfPair⟩
    | none => ⟨read.characters, none, true⟩
  else if 0xD800 ≤ unit ∧ unit < 0xDC00 then
    ⟨read.characters, some unit, read.halfPair || read.waiting.isSome⟩
  else read.push (Char.ofNat unit)

/-- A string whose opening quote has been read; no text where a surrogate pair is incomplete. -/
def readString (read : Partial) : List Char → Option (Option String × List Char)
  | '"' :: rest =>
    some (if read.halfPair || read.waiting.isSome then none else some (.ofList read.characters.reverse), rest)
  | '\\' :: 'u' :: first :: second :: third :: fourth :: rest =>
    match codeUnit? first second third fourth with
    | some unit => readString (read.pushUnit unit) rest
    | none => none
  | '\\' :: c :: rest =>
    match simpleEscape? c with
    | some escaped => readString (read.push escaped) rest
    | none => none
  | c :: rest => if c < ' ' ∨ c = '\\' then none else readString (read.push c) rest
  | [] => none

def readWord (word : String) (value : Json) (text : List Char) : Option (Json × List Char) :=
  (word.toList.isPrefixOf? text).map fun rest => (value, rest)

/-- The object of the members read, or what stands for one that has a name without text. -/
def ofMembers (members : List (Option String × Json)) : Json :=
  let named := members.mapM fun (name, value) => name.map fun text => (text, value)
  (named.map .object).getD .halfPair

mutual

def readValue : (steps : Nat) → List Char → Option (Json × List Char)
  | 0, _ => none
  | steps + 1, text =>
    match skipBlanks text with
    | [] => none
    | '"' :: rest => (readString {} rest).map fun (read, after) => ((read.map .string).getD .halfPair, after)
    | '[' :: rest =>
      match skipBlanks rest with
      | ']' :: after => some (.array [], after)
      | _ => (readItems steps rest).map fun (items, after) => (.array items, after)
    | '\x7b' :: rest =>
      match skipBlanks rest with
      | '\x7d' :: after => some (.object [], after)
      | _ => (readMembers steps rest).map fun (members, after) => (ofMembers members, after)
    | 't' :: rest => readWord "rue" (.bool true) rest
    | 'f' :: rest => readWord "alse" (.bool false) rest
    | 'n' :: rest => readWord "ull" .null rest
    | c :: rest => (readNumeral (c :: rest)).map fun (numeral, after) => (.number numeral, after)

def readItems : (steps : Nat) → List Char → Option (List Json × List Char)
  | 0, _ => none
  | steps + 1, text => do
    let (item, afterItem) ← readValue steps text
    match skipBlanks afterItem with
    | ',' :: rest =>
      let (later, after) ← readItems steps rest
      some (item :: later, after)
    | ']' :: after => some ([item], after)
    | _ => none

def readMembers : (steps : Nat) → List Char → Option (List (Option String × Json) × List Char)
  | 0, _ => none
  | steps + 1, text =>
    match skipBlanks text with
    | '"' :: rest => do
      let (name, afterName) ← readString {} rest
      match skipBlanks afterName with
      | ':' :: afterColon =>
        let (value, afterValue) ← readValue steps afterColon
        match skipBlanks afterValue with
        | ',' :: rest =>
          let (later, after) ← readMembers steps rest
          some ((name, value) :: later, after)
        | '\x7d' :: after => some ([(name, value)], after)
        | _ => none
      | _ => none
    | _ => none

end

/-- The value that a whole text spells, blanks around it allowed. -/
def read (text : String) : Option Json :=
  match readValue (2 * text.length + 1) text.toList with
  | some (value, rest) => if (skipBlanks rest).isEmpty then some value else none
  | none => none

end Vitae.Json
