import UsbPeripheral.Settings
import UsbPeripheral.Worker.Depot
import UsbPeripheral.Worker.Receiver
import UsbPeripheral.Worker.Sender

/-!
# Workers

Every data endpoint that a device serves has one worker, a sender or a receiver.  A worker has a
cancel flag, which is set once and never cleared, and works on what surrounds it: the channel and
the depot of the device.

`run` takes a worker through its atomic steps until it can only wait.  `join` waits for a worker
that was cancelled: it interrupts whatever the worker waits for and lets it come to its end, which
takes a bounded number of steps from anywhere (`joinSteps`).
-/

namespace UsbPeripheral

/-- The channel of a device together with its depot. -/
structure Surroundings (σ : Type) where
  channel : σ
  /-- Feeds and outlets. -/
  depot : Depot

/-- What a worker is doing. -/
inductive Duty where
  | sending (sender : Sender) (feed : UInt8) (stage : Sender.Stage)
  | receiving (receiver : Receiver) (sink : Sink) (stage : Receiver.Stage) (buffer : Bytes)
  deriving DecidableEq, Repr

/-- The worker of an endpoint. -/
structure Worker where
  handle : Handle
  /-- Whether the device asked the worker to stop. -/
  cancelled : Bool := false
  /-- What the worker is doing. -/
  duty : Duty
  deriving DecidableEq, Repr

namespace Worker

variable {σ : Type}

/-- The largest transfer on an endpoint: at least one packet, and at least one byte. -/
def transferLimit (settings : Settings) (endpoint : Endpoint) : Nat :=
  max (max settings.maxTransfer endpoint.maxPacketSize.toNat) 1

/-- The most bytes in a buffer. -/
def maxBufferSize : Nat := 9223372036854775807

/-- A new worker of an endpoint.  A receiver needs a buffer of its limit, and breaks down at once if
there can be no such buffer. -/
def start (settings : Settings) (endpoint : Endpoint) (handle : Handle) (data : EndpointData) :
    Worker :=
  let address := endpoint.address
  let limit := transferLimit settings endpoint
  match data with
  | .source feed =>
    { handle, duty := .sending { address, limit, retries := settings.writeRetries } feed .idle }
  | .sink sink =>
    let stage := if limit ≤ maxBufferSize then .idle else .ended .panicked
    { handle, duty := .receiving { address, limit } sink stage [] }

/-- Why the worker ended, if it did. -/
def exit? (w : Worker) : Option Exit :=
  match w.duty with
  | .sending _ _ (.ended exit) => some exit
  | .receiving _ _ (.ended exit) _ => some exit
  | _ => none

/-- Whether the worker still is at work. -/
def isRunning (w : Worker) : Bool := w.exit?.isNone

/-- The worker with its flag set. -/
def cancel (w : Worker) : Worker := { w with cancelled := true }

/-! ### Steps -/

/-- The surroundings of a sender. -/
def senderLink [Channel σ] (handle : Handle) (feed : UInt8) : Sender.Link (Surroundings σ) where
  next cancelled s :=
    let (reply, depot) := s.depot.next feed cancelled
    (reply, { s with depot })
  write data s :=
    let (result, channel) := Channel.write handle data s.channel
    (result, { s with channel })

/-- The surroundings of a receiver. -/
def receiverLink [Channel σ] (handle : Handle) (sink : Sink) :
    Receiver.Link (Surroundings σ) where
  read resumed room s :=
    let (reply, channel) := Channel.read resumed handle room s.channel
    (reply, { s with channel })
  deliver data s :=
    let (working, notes, depot) := s.depot.deliver sink data
    (working, notes, { s with depot })

/-- A step of a worker. -/
structure Stepped (σ : Type) where
  /-- The worker after the step. -/
  worker : Worker
  /-- Its surroundings after the step. -/
  around : Surroundings σ
  notes : List Note := []
  /-- Whether it can only wait. -/
  blocked : Bool := false

/-- One atomic step. -/
def step [Channel σ] (suspended : Bool) (w : Worker) (around : Surroundings σ) : Stepped σ :=
  match w.duty with
  | .sending sender feed stage =>
    let t := sender.step (senderLink w.handle feed) w.cancelled suspended stage around
    { worker := { w with duty := .sending sender feed t.stage }
      around := t.world, notes := t.notes, blocked := t.blocked }
  | .receiving receiver sink stage buffer =>
    let t :=
      receiver.step (receiverLink w.handle sink) w.cancelled suspended stage buffer around
    { worker := { w with duty := .receiving receiver sink t.stage t.buffer }
      around := t.world, notes := t.notes, blocked := t.blocked }

/-- At most `fuel` steps, up to the first one at which the worker can only wait. -/
def run [Channel σ] (suspended : Bool) : (fuel : Nat) → Worker → Surroundings σ → Stepped σ
  | 0, worker, around => { worker, around }
  | fuel + 1, worker, around =>
    let t := worker.step suspended around
    if t.blocked then t
    else
      let u := run suspended fuel t.worker t.around
      { u with notes := t.notes ++ u.notes }

/-- A bound on the steps of a worker that was cancelled and interrupted. -/
def joinSteps : Nat := 8

/-- Interrupt a worker until it has ended, and say why it did. -/
def join [Channel σ] (suspended : Bool) (w : Worker) (around : Surroundings σ) :
    Exit × List Note × Surroundings σ :=
  match w.exit? with
  | some exit => (exit, [], around)
  | none =>
    let woken := { around with channel := Channel.wake w.handle around.channel }
    let t := run suspended joinSteps w woken
    (t.worker.exit?.getD .cancelled, t.notes, t.around)

end Worker

end UsbPeripheral
