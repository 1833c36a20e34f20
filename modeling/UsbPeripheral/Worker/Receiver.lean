import UsbPeripheral.Journal

/-!
# Receivers: workers of endpoints towards the device

A receiver reads transfers of at most its limit from its endpoint and hands each to a consumer.  It
has one buffer for all reads, which keeps what earlier transfers left in it; of a transfer it hands
over exactly the bytes that were reported, from the front of the buffer.  A receiver ends when it is
cancelled, when its endpoint goes away, when a read fails, and when its consumer breaks down.  An
interrupted read is simply repeated.

`step` takes a receiver one **atomic step** further: it looks at the cancel flag, or takes one step
of a read, or hands over one transfer.
-/

namespace UsbPeripheral

/-- A worker that receives from the host. -/
structure Receiver where
  address : Address
  /-- Largest transfer, and size of the buffer. -/
  limit : Nat
  deriving DecidableEq, Repr

namespace Receiver

/-- What a receiver does next. -/
inductive Stage where
  /-- Look at the flag before the next read. -/
  | idle
  /-- Start a read, or resume one that waits. -/
  | reading (resumed : Bool)
  /-- Hand over that many bytes. -/
  | delivering (count : Nat)
  /-- Look at the flag after a failed read. -/
  | failed (error : TransferError)
  | ended (exit : Exit)
  deriving DecidableEq, Repr

/-- What lies around a receiver. -/
structure Link (ω : Type) where
  /-- Start or resume a read. -/
  read (resumed : Bool) (room : Nat) : ω → ReadReply × ω
  /-- Hand data to the consumer; the result is whether it is still working, and what it notes. -/
  deliver (data : Bytes) : ω → Bool × List Note × ω

/-- A step of a receiver. -/
structure Stepped (ω : Type) where
  /-- What the receiver does next. -/
  stage : Stage
  /-- The front of the buffer; the rest of it is zeros. -/
  buffer : Bytes
  /-- The surroundings after the step. -/
  world : ω
  notes : List Note := []
  /-- Whether the receiver can only wait. -/
  blocked : Bool := false

/-- How a receiver ends after a failed read that is not repeated. -/
def giveUp (r : Receiver) : TransferError → Exit × List Note
  | .invalidated errno => (.invalidated, [.readAborted r.address errno])
  | .failed errno => (.readFailed errno, [.readFailed r.address errno])

/-- One atomic step, with the flags as they are at that moment.  A transfer that is reported to be
larger than the buffer breaks the receiver down. -/
def step {ω : Type} (r : Receiver) (link : Link ω) (cancelled suspended : Bool) (stage : Stage)
    (buffer : Bytes) (world : ω) : Stepped ω :=
  match stage with
  | .idle =>
    if cancelled then { stage := .ended .cancelled, buffer, world }
    else
      { stage := .reading false, buffer, world
        notes := if suspended then [.readingSuspended r.address] else [] }
  | .reading resumed =>
    match link.read resumed r.limit world with
    | (.waiting, world) => { stage := .reading true, buffer, world, blocked := resumed }
    | (.finished (.ok received), world) =>
      { stage := .delivering received.count
        buffer := Bytes.overlay received.data buffer
        world
        notes := [.read r.address received.count] }
    | (.finished (.error error), world) => { stage := .failed error, buffer, world }
  | .delivering count =>
    if count ≤ r.limit then
      match link.deliver (Bytes.fitted count buffer) world with
      | (working, notes, world) =>
        { stage := if working then .idle else .ended .panicked, buffer, world, notes }
    else { stage := .ended .panicked, buffer, world }
  | .failed error =>
    if cancelled then { stage := .ended .cancelled, buffer, world }
    else if error = .failed .eintr then { stage := .idle, buffer, world }
    else
      { stage := .ended (r.giveUp error).1, buffer, world, notes := (r.giveUp error).2 }
  | .ended exit => { stage := .ended exit, buffer, world, blocked := true }

end Receiver

end UsbPeripheral
