/-
  Breadcrumb.Text.Utf8
  ────────────────────
  **UTF-8, READ STRICTLY AND READ WITH REPLACEMENT.**

  One scanner (`pieces`) cuts octets into characters and broken pieces; a broken
  piece is as long as it can be while still being the beginning of a character
  (the "maximal subpart" of the standard).  Two readers share it: `decode` puts
  U+FFFD for each broken piece, `decodeStrict?` reports the first one with its
  place and the reason.  `encode` is the writer that both are inverse to.

  The table of lead octets (`lead`) carries the whole standard: how many octets
  follow and in which range the first of them lies, which is what rules out
  overlong forms, surrogates and anything above U+10FFFF.
-/
import Breadcrumb.Text.Hexadecimal

namespace Breadcrumb.Text.Utf8

/-- An octet. -/
abbrev Octet := UInt8

/-! ## §1. Writing. -/

/-- A continuation octet that carries the low six bits of `n`. -/
def continuation (n : Nat) : Octet := UInt8.ofNat (0x80 + n % 0x40)

/-- The octets of one character. -/
def encodeChar (c : Char) : List Octet :=
  let n := c.toNat
  if n < 0x80 then [UInt8.ofNat n]
  else if n < 0x800 then [UInt8.ofNat (0xC0 + n / 0x40), continuation n]
  else if n < 0x10000 then
    [UInt8.ofNat (0xE0 + n / 0x1000), continuation (n / 0x40), continuation n]
  else
    [UInt8.ofNat (0xF0 + n / 0x40000), continuation (n / 0x1000),
      continuation (n / 0x40), continuation n]

/-- The octets of a text. -/
def encode (cs : List Char) : List Octet := cs.flatMap encodeChar

/-! ## §2. Scanning. -/

/-- Why a piece of the input is no character. -/
inductive Reason where
  /-- The first octet can begin no character. -/
  | invalidStart
  /-- The octet after the piece does not continue it. -/
  | invalidContinuation
  /-- The input ends inside a character. -/
  | unexpectedEnd
  deriving DecidableEq, Repr

/-- A cut of the input: a whole character, or octets that make none. -/
inductive Piece where
  /-- A character and how many octets it took. -/
  | whole (c : Char) (width : Nat)
  /-- So many octets, with the first of them, that begin no character. -/
  | broken (first : Octet) (width : Nat) (reason : Reason)
  deriving DecidableEq, Repr

/-- A character begun: its first octet, the octets read, the octets owed, the range of the next
octet, and the bits so far. -/
structure Begun where
  first : Octet
  width : Nat
  owed : Nat
  low : Nat
  high : Nat
  bits : Nat
  deriving DecidableEq, Repr

/-- What a lead octet announces. -/
inductive Lead where
  /-- A character of one octet. -/
  | single (c : Char)
  /-- A character of several octets. -/
  | multi (b : Begun)
  /-- No character begins so. -/
  | invalid
  deriving DecidableEq, Repr

/-- The table of lead octets. -/
def lead (o : Octet) : Lead :=
  let n := o.toNat
  if n < 0x80 then .single (Char.ofNat n)
  else if n < 0xC2 then .invalid
  else if n < 0xE0 then .multi ⟨o, 1, 1, 0x80, 0xBF, n - 0xC0⟩
  else if n = 0xE0 then .multi ⟨o, 1, 2, 0xA0, 0xBF, 0⟩
  else if n = 0xED then .multi ⟨o, 1, 2, 0x80, 0x9F, 0xD⟩
  else if n < 0xF0 then .multi ⟨o, 1, 2, 0x80, 0xBF, n - 0xE0⟩
  else if n = 0xF0 then .multi ⟨o, 1, 3, 0x90, 0xBF, 0⟩
  else if n < 0xF4 then .multi ⟨o, 1, 3, 0x80, 0xBF, n - 0xF0⟩
  else if n = 0xF4 then .multi ⟨o, 1, 3, 0x80, 0x8F, 4⟩
  else .invalid

/-- The cuts of the input, in order. -/
def pieces (os : List Octet) : List Piece := go none os
where
  /-- `begun` is the character that the octets before left unfinished. -/
  go : Option Begun → List Octet → List Piece
    | none, [] => []
    | some b, [] => [.broken b.first b.width .unexpectedEnd]
    | none, o :: rest =>
      match lead o with
      | .single c => .whole c 1 :: go none rest
      | .multi b => go (some b) rest
      | .invalid => .broken o 1 .invalidStart :: go none rest
    | some b, o :: rest =>
      if b.low ≤ o.toNat ∧ o.toNat ≤ b.high then
        let bits := b.bits * 0x40 + (o.toNat - 0x80)
        if b.owed ≤ 1 then .whole (Char.ofNat bits) (b.width + 1) :: go none rest
        else go (some ⟨b.first, b.width + 1, b.owed - 1, 0x80, 0xBF, bits⟩) rest
      else
        .broken b.first b.width .invalidContinuation ::
          match lead o with
          | .single c => .whole c 1 :: go none rest
          | .multi b' => go (some b') rest
          | .invalid => .broken o 1 .invalidStart :: go none rest

/-! ## §3. Reading. -/

/-- The character that stands for a broken piece. -/
def replacement : Char := Char.ofNat 0xFFFD

/-- The character of a cut, a broken one replaced. -/
def Piece.char : Piece → Char
  | .whole c _ => c
  | .broken _ _ _ => replacement

/-- Reads with replacement: never fails. -/
def decode (os : List Octet) : List Char := (pieces os).map Piece.char

/-- The first broken piece of an input: its first octet, place and length, and the reason. -/
structure Fault where
  first : Octet
  start : Nat
  width : Nat
  reason : Reason
  deriving DecidableEq, Repr

/-- Reads strictly: all characters, or the first fault. -/
def decodeStrict? (os : List Octet) : Except Fault (List Char) := go 0 (pieces os)
where
  /-- `start` counts the octets before the pieces that are left. -/
  go (start : Nat) : List Piece → Except Fault (List Char)
    | [] => .ok []
    | .broken first width reason :: _ => .error ⟨first, start, width, reason⟩
    | .whole c width :: rest =>
      match go (start + width) rest with
      | .ok cs => .ok (c :: cs)
      | .error f => .error f

/-- The two hexadecimal digits of an octet. -/
def Octet.hex (o : Octet) : String :=
  String.ofList (Hexadecimal.digits 2 o.toNat)

/-- The words for a reason. -/
def Reason.text : Reason → String
  | .invalidStart => "invalid start byte"
  | .invalidContinuation => "invalid continuation byte"
  | .unexpectedEnd => "unexpected end of data"

/-- A fault in words: one octet is shown, several are given by their places. -/
def Fault.message (f : Fault) : String :=
  let place :=
    if f.width = 1 then s!"byte 0x{Octet.hex f.first} in position {f.start}"
    else s!"bytes in position {f.start}-{f.start + f.width - 1}"
  "'utf-8' codec can't decode " ++ place ++ ": " ++ f.reason.text

/-! ## §4. On strings. -/

/-- The octets of a string. -/
def encodeString (s : String) : List Octet := encode s.toList

/-- The string that octets hold, broken pieces replaced. -/
def decodeString (os : List Octet) : String := String.ofList (decode os)

end Breadcrumb.Text.Utf8
