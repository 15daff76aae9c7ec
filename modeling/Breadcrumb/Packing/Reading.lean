/-
  Breadcrumb.Packing.Reading
  ──────────────────────────
  **TAKING CHUNKS ONE AT A TIME.**

  A reading of a file does no work before the first chunk is asked for, and then
  no more than that chunk needs.  It can be closed, and it is over after its last
  chunk or a failure; from then on it answers that there is nothing left.

  `Desk` holds one reading that can be opened anew, and counts what it costs.
-/
import Breadcrumb.Packing.Packer

namespace Breadcrumb.Packing

open Breadcrumb.Text

/-! ## §1. A reading. -/

/-- Where a reading is. -/
inductive Reading where
  /-- Nothing has been asked for. -/
  | fresh
  /-- Between two chunks: the lines still to be packed, and how many the file has. -/
  | paused (plan : Plan) (state : State) (rest : List Line) (lineCount : Nat)
  /-- Over. -/
  | done

/-- What asking for a chunk gives. -/
inductive Reply where
  | chunk (c : Chunk)
  | exhausted
  | failed (f : Failure)
  deriving DecidableEq, Repr

/-- Packs lines up to the next piece. -/
def advance (p : Plan) (lineCount : Nat) : State → List Line → Reply × Reading
  | s, [] =>
    match finish s lineCount with
    | some piece => (.chunk piece.chunk, .done)
    | none => (.exhausted, .done)
  | s, l :: ls =>
    match step p s l with
    | .error f => (.failed f, .done)
    | .ok (s, none) => advance p lineCount s ls
    | .ok (s, some piece) => (.chunk piece.chunk, .paused p s ls lineCount)

/-- The answer to asking, and what it took. -/
structure Given where
  reply : Reply
  logs : List Log.Record := []
  parsed : Bool := false
  counted : Bool := false

/-- Asks for the next chunk. -/
def Reading.next (c : Chunker) (j : Job) : Reading → Given × Reading
  | .done => ({ reply := .exhausted }, .done)
  | .paused p s ls lineCount =>
    let (reply, r) := advance p lineCount s ls
    ({ reply, counted := true }, r)
  | .fresh =>
    if allBlank j.contents then ({ reply := .exhausted }, .done)
    else
      match c.parse j.path j.contents with
      | .error f => ({ reply := .failed f, parsed := true }, .done)
      | .ok none =>
        ({ reply := .exhausted, logs := [noGrammar j.path], parsed := true }, .done)
      | .ok (some root) =>
        match countLines c.count (lines j.contents) with
        | .error f => ({ reply := .failed f, parsed := true, counted := true }, .done)
        | .ok ls =>
          let (reply, r) := advance (c.plan j root) ls.length {} ls
          ({ reply, parsed := true, counted := true }, r)

/-! ## §2. A desk. -/

/-- What can be done at a desk. -/
inductive Move where
  /-- Open a reading, which replaces the one that is open. -/
  | start
  /-- Ask it for a chunk. -/
  | next
  /-- Close it. -/
  | stop
  deriving DecidableEq, Repr

/-- The reading that is open, how often a file was parsed, and whether texts were counted. -/
structure Desk where
  reading : Reading := .done
  parses : Nat := 0
  counted : Bool := false

/-- What a move was answered with. -/
inductive Response where
  | opened
  | refused (f : Failure)
  | reply (r : Reply)
  | closed
  deriving DecidableEq, Repr

/-- One move: the response, the records and the desk after it. -/
def Desk.move (c : Chunker) (j : Job) (d : Desk) : Move → Response × List Log.Record × Desk
  | .start =>
    match checkBudget j.budget with
    | .error f => (.refused f, [], d)
    | .ok () => (.opened, [], { d with reading := .fresh })
  | .stop => (.closed, [], { d with reading := .done })
  | .next =>
    let (given, reading) := d.reading.next c j
    (.reply given.reply, given.logs,
      { reading
        parses := if given.parsed then d.parses + 1 else d.parses
        counted := d.counted || given.counted })

/-- What a desk shows after a move. -/
structure Shown where
  response : Response
  logs : List Log.Record
  parses : Nat
  counted : Bool

/-- Moves one after the other. -/
def Desk.moves (c : Chunker) (j : Job) : Desk → List Move → List Shown
  | _, [] => []
  | d, m :: ms =>
    let (response, logs, d) := d.move c j m
    ⟨response, logs, d.parses, d.counted⟩ :: moves c j d ms

end Breadcrumb.Packing
