import Vitae.Json.Value

/-!
Two written forms of a JSON value: compact, and indented by two spaces a level. Strings escape the quote,
the backslash and what lies below the space; every other character stands for itself.
-/

namespace Vitae.Json

def hexDigit (value : Nat) : Char :=
  (Nat.toDigits 16 value).headD '0'

def escapedChar (c : Char) : List Char :=
  if c = '"' then ['\\', '"']
  else if c = '\\' then ['\\', '\\']
  else if c = '\n' then ['\\', 'n']
  else if c = '\t' then ['\\', 't']
  else if c = '\r' then ['\\', 'r']
  else if c = '\x08' then ['\\', 'b']
  else if c = '\x0c' then ['\\', 'f']
  else if c < ' ' then ['\\', 'u', '0', '0', hexDigit (c.toNat / 16), hexDigit (c.toNat % 16)]
  else [c]

def quoted (text : String) : List Char :=
  '"' :: (text.toList.flatMap escapedChar ++ ['"'])

def numeral (value : Numeral) : List Char :=
  (if value.negative then ['-'] else []) ++ Nat.toDigits 10 value.significand ++
    if value.whole then [] else 'e' :: (toString value.exponent).toList

/-- The text of a value that is neither array nor object. -/
def scalar : Json → List Char
  | .bool true => "true".toList
  | .bool false => "false".toList
  | .number value => numeral value
  | .string text => quoted text
  | .halfPair => "\"\\ud800\"".toList
  | _ => "null".toList

mutual

def compactText : Json → List Char
  | .array items => '[' :: (compactItems items ++ [']'])
  | .object members => '\x7b' :: (compactMembers members ++ ['\x7d'])
  | value => scalar value
termination_by structural value => value

def compactItems : List Json → List Char
  | [] => []
  | item :: rest => compactText item ++ (if rest.isEmpty then [] else [',']) ++ compactItems rest
termination_by structural items => items

def compactMembers : List (String × Json) → List Char
  | [] => []
  | (name, value) :: rest =>
    quoted name ++ ':' :: compactText value ++ (if rest.isEmpty then [] else [',']) ++ compactMembers rest
termination_by structural members => members

end

def newLine (level : Nat) : List Char :=
  '\n' :: List.replicate (2 * level) ' '

mutual

def indentedText (level : Nat) : Json → List Char
  | .array [] => ['[', ']']
  | .array (item :: rest) => '[' :: (indentedItems (level + 1) (item :: rest) ++ newLine level ++ [']'])
  | .object [] => ['\x7b', '\x7d']
  | .object (member :: rest) =>
    '\x7b' :: (indentedMembers (level + 1) (member :: rest) ++ newLine level ++ ['\x7d'])
  | value => scalar value
termination_by structural value => value

def indentedItems (level : Nat) : List Json → List Char
  | [] => []
  | item :: rest =>
    newLine level ++ indentedText level item ++ (if rest.isEmpty then [] else [',']) ++ indentedItems level rest
termination_by structural items => items

def indentedMembers (level : Nat) : List (String × Json) → List Char
  | [] => []
  | (name, value) :: rest =>
    newLine level ++ quoted name ++ ':' :: ' ' :: indentedText level value ++
      (if rest.isEmpty then [] else [',']) ++ indentedMembers level rest
termination_by structural members => members

end

def compact (value : Json) : String :=
  .ofList (compactText value)

def indented (value : Json) : String :=
  .ofList (indentedText 0 value)

end Vitae.Json
