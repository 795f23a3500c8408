/-!
Reading UTF-8. A fault names the byte index up to which the input is text and, where bytes there can
never continue to a character, how many of them belong together.
-/

namespace Vitae.Text.Utf8

inductive Fault where
  | invalid (width index : Nat)
  | incomplete (index : Nat)
deriving DecidableEq

def Fault.message : Fault → String
  | .invalid width index => s!"invalid utf-8 sequence of {width} bytes from index {index}"
  | .incomplete index => s!"incomplete utf-8 byte sequence from index {index}"

/-- What one lead byte asks of the bytes after it: its payload, the range of the second byte, and how
many plain continuation bytes follow that one. -/
structure Lead where
  payload : Nat
  low : Nat
  high : Nat
  further : Nat

def lead? (byte : Nat) : Option Lead :=
  if 0xC2 ≤ byte ∧ byte ≤ 0xDF then some ⟨byte - 0xC0, 0x80, 0xBF, 0⟩
  else if byte = 0xE0 then some ⟨0, 0xA0, 0xBF, 1⟩
  else if byte = 0xED then some ⟨0xD, 0x80, 0x9F, 1⟩
  else if 0xE1 ≤ byte ∧ byte ≤ 0xEF then some ⟨byte - 0xE0, 0x80, 0xBF, 1⟩
  else if byte = 0xF0 then some ⟨0, 0x90, 0xBF, 2⟩
  else if 0xF1 ≤ byte ∧ byte ≤ 0xF3 then some ⟨byte - 0xF0, 0x80, 0xBF, 2⟩
  else if byte = 0xF4 then some ⟨4, 0x80, 0x8F, 2⟩
  else none

/-- The code point that `payload` and `count` continuation bytes give, or how many bytes were read
before one did not fit; no number where the input ended. -/
def continued (payload seen : Nat) : (count : Nat) → List UInt8 → Except (Option Nat) Nat
  | 0, _ => .ok payload
  | _ + 1, [] => .error none
  | count + 1, byte :: rest =>
    if 0x80 ≤ byte.toNat ∧ byte.toNat ≤ 0xBF then
      continued (payload * 64 + (byte.toNat - 0x80)) (seen + 1) count rest
    else .error (some seen)

/-- The character at the head of the input and its width in bytes. -/
def character (byte : UInt8) (rest : List UInt8) : Except (Option Nat) (Char × Nat) :=
  if byte.toNat < 0x80 then .ok (Char.ofNat byte.toNat, 1)
  else match lead? byte.toNat with
    | none => .error (some 1)
    | some lead => match rest with
      | [] => .error none
      | second :: later =>
        if lead.low ≤ second.toNat ∧ second.toNat ≤ lead.high then
          (continued (lead.payload * 64 + (second.toNat - 0x80)) 2 lead.further later).map
            fun code => (Char.ofNat code, lead.further + 2)
        else .error (some 1)

/-- `skip` bytes still belong to the character read last; `done` holds the characters so far, last
first. -/
def decodeFrom (index skip : Nat) (done : List Char) : List UInt8 → Except Fault (List Char)
  | [] => .ok done.reverse
  | byte :: rest =>
    match skip with
    | skip + 1 => decodeFrom (index + 1) skip done rest
    | 0 => match character byte rest with
      | .ok (c, width) => decodeFrom (index + 1) (width - 1) (c :: done) rest
      | .error (some width) => .error (.invalid width index)
      | .error none => .error (.incomplete index)

def decode (bytes : List UInt8) : Except Fault String :=
  (decodeFrom 0 0 [] bytes).map String.ofList

end Vitae.Text.Utf8
