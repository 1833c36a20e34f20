import UsbPeripheral.Journal
import UsbPeripheral.Worker.Feed

/-!
# Senders: workers of endpoints towards the host

A sender draws chunks from a source, cuts each into **pieces** of at most its limit, and writes them
to its endpoint one after the other; an empty chunk is one empty piece.  A write that fails is tried
again, an interrupted one without being counted, and a piece that fails once more than the retries
allow is given up.  A sender ends when it is cancelled, when its source is finished, or when its
endpoint goes away.

`step` takes a sender one **atomic step** further: it looks at the cancel flag, or asks the source,
or makes one write.  Anything may happen between two steps, in particular the cancelling of the
worker.  What lies around a sender, its `Link`, is a source and an endpoint over any state `ω`.
-/

namespace UsbPeripheral

/-- The pieces of a chunk, each at most `limit` bytes long; an empty chunk is one empty piece. -/
def pieces (limit : Nat) (chunk : Bytes) : List Bytes :=
  if _h : 0 < limit ∧ limit < chunk.length then
    chunk.take limit :: pieces limit (chunk.drop limit)
  else [chunk]
  termination_by chunk.length
  decreasing_by
    simp
    omega

/-- A worker that sends to the host. -/
structure Sender where
  address : Address
  limit : Nat
  /-- How often a failed write is tried again. -/
  retries : Nat
  deriving DecidableEq, Repr

namespace Sender

/-- What a sender does next. -/
inductive Stage where
  /-- Look at the flag before the next chunk. -/
  | idle
  /-- Ask the source for a chunk. -/
  | asking
  /-- Look at the flag before a write. -/
  | ready (piece : Bytes) (rest : List Bytes) (failures : Nat)
  | writing (piece : Bytes) (rest : List Bytes) (failures : Nat)
  /-- Look at the flag after a failed write. -/
  | failed (piece : Bytes) (rest : List Bytes) (failures : Nat) (errno : Errno)
  /-- Look at the flag before ending. -/
  | leaving (exit : Exit)
  | ended (exit : Exit)
  deriving DecidableEq, Repr

/-- What lies around a sender. -/
structure Link (ω : Type) where
  /-- Ask the source for a chunk, and tell it whether the worker is cancelled. -/
  next (cancelled : Bool) : ω → FeedReply × ω
  write (data : Bytes) : ω → Except TransferError Nat × ω

/-- A step of a sender. -/
structure Stepped (ω : Type) where
  /-- What the sender does next. -/
  stage : Stage
  /-- The surroundings after the step. -/
  world : ω
  notes : List Note := []
  /-- Whether the sender can only wait. -/
  blocked : Bool := false

/-- What follows a piece that was sent or given up. -/
def following : List Bytes → Stage
  | [] => .idle
  | piece :: rest => .ready piece rest 0

/-- The note on a finished write. -/
def noteWrite (s : Sender) (piece : Bytes) (count : Nat) : Note :=
  if count < piece.length then .shortWrite s.address count piece.length
  else .wrote s.address count

/-- One atomic step, with the flags as they are at that moment. -/
def step {ω : Type} (s : Sender) (link : Link ω) (cancelled suspended : Bool) (stage : Stage)
    (world : ω) : Stepped ω :=
  match stage with
  | .idle => { stage := if cancelled then .ended .cancelled else .asking, world }
  | .asking =>
    match link.next cancelled world with
    | (.chunk data, world) => { stage := following (pieces s.limit data), world }
    | (.finished, world) => { stage := .leaving .sourceDone, world }
    | (.pending, world) => { stage := .asking, world, blocked := true }
  | .ready piece rest failures =>
    if cancelled then { stage := .ended .cancelled, world }
    else
      { stage := .writing piece rest failures, world
        notes := if suspended then [.writingSuspended s.address] else [] }
  | .writing piece rest failures =>
    match link.write piece world with
    | (.ok count, world) =>
      { stage := following rest, world, notes := [s.noteWrite piece count] }
    | (.error (.invalidated errno), world) =>
      { stage := .leaving .invalidated, world, notes := [.writeAborted s.address errno] }
    | (.error (.failed errno), world) =>
      if errno = .eintr then { stage := .ready piece rest failures, world }
      else { stage := .failed piece rest failures errno, world }
  | .failed piece rest failures errno =>
    if cancelled then { stage := .ended .cancelled, world }
    else if s.retries ≤ failures then
      { stage := following rest, world
        notes := [.givenUp s.address piece.length (failures + 1) errno] }
    else
      { stage := .ready piece rest (failures + 1), world
        notes := [.retrying s.address errno (failures + 1) s.retries] }
  | .leaving exit => { stage := .ended (if cancelled then .cancelled else exit), world }
  | .ended exit => { stage := .ended exit, world, blocked := true }

end Sender

end UsbPeripheral
