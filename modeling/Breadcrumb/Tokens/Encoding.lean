/-
  Breadcrumb.Tokens.Encoding
  ──────────────────────────
  **ENCODINGS, LOADED WHEN FIRST NEEDED.**

  An encoding is asked for by name, and asking may fail.  A loader asks when it
  meets the first text that is not empty, asks again after a failure, and keeps
  the encoding once it has it.

  Where the answers do not change from one request to the next, all this state is
  invisible but for one record in the log: counting is then a tokenizer like any
  other (`steady`).
-/
import Breadcrumb.Log
import Breadcrumb.Tokens.Meter

namespace Breadcrumb.Tokens

/-- How many tokens an encoding makes of a text. -/
abbrev Encoding := String → Except Failure Nat

/-- The answer to the request of a given number, counted from zero: an encoding, or why not. -/
abbrev Supply := Nat → Except String Encoding

/-- The name of the encoding that is used unless another is asked for. -/
def defaultEncoding : String := "cl100k_base"

/-- A tokenizer by an encoding: the name, the encoding once it is loaded, and the requests made. -/
structure Loader where
  name : String := defaultEncoding
  encoding : Option Encoding := none
  requests : Nat := 0

/-- What counting one text gave. -/
structure Count where
  result : Except Failure Int
  /-- The encoding was put to work on the text. -/
  measured : Bool
  logs : List Log.Record

/-- The record that an encoding was loaded. -/
def loaded (name : String) : Log.Record :=
  ⟨.debug, .encoding, "Loaded tiktoken encoding " ++ name⟩

/-- The number of tokens as an integer. -/
def tokens (e : Encoding) (s : String) : Except Failure Int := (e s).map fun n => (n : Int)

/-- Counts a text.  The empty text has no tokens and needs no encoding. -/
def Loader.count (l : Loader) (supply : Supply) (s : String) : Count × Loader :=
  if s = "" then (⟨.ok 0, false, []⟩, l)
  else
    match l.encoding with
    | some e => (⟨tokens e s, true, []⟩, l)
    | none =>
      let l := { l with requests := l.requests + 1 }
      match supply (l.requests - 1) with
      | .error reason => (⟨.error (.encodingUnavailable l.name reason), false, []⟩, l)
      | .ok e => (⟨tokens e s, true, [loaded l.name]⟩, { l with encoding := some e })

/-- Counts texts one after the other; beside every count stands the loader after it. -/
def Loader.counts (supply : Supply) : Loader → List String → List (Count × Loader)
  | _, [] => []
  | l, s :: ss =>
    let (c, l) := l.count supply s
    (c, l) :: counts supply l ss

/-- Requests that fail so many times before they are answered from a library. -/
def failingFirst (failures : Nat) (refusal : String) (answer : Except String Encoding) : Supply :=
  fun n => if n < failures then .error refusal else answer

/-- Counting where every request has the same answer. -/
def steady (name : String) (answer : Except String Encoding) : Tokenizer := fun s =>
  if s = "" then .ok 0
  else
    match answer with
    | .error reason => .error (.encodingUnavailable name reason)
    | .ok e => tokens e s

/-- A library of encodings by name, as meters. -/
abbrev Encodings := List (String × Meter)

/-- The encoding of a meter; a negative number of tokens is none. -/
def ofMeter (m : Meter) : Encoding := fun s => (m.count s).map Int.toNat

/-- The words for an encoding that a library does not have. -/
def unknownEncoding (name : String) : String := "Unknown encoding " ++ name

/-- The encoding of a name, or why there is none. -/
def Encodings.find (es : Encodings) (name : String) : Except String Encoding :=
  match es.lookup name with
  | some m => .ok (ofMeter m)
  | none => .error (unknownEncoding name)

end Breadcrumb.Tokens
