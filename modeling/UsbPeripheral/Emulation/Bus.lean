import UsbPeripheral.ByteMap
import UsbPeripheral.Channel.Basic
import UsbPeripheral.Emulation.Script

/-!
# An emulated bus

`Bus` plays the host and the kernel in one value, so that a device can be exercised without
hardware.

* **Events** are queued by the host and fetched one at a time.  The data stage of a fetched event
  replaces that of the event before it, so a device never reads the data of another request.
* **Endpoints** are pipes with a queue in each direction.  A pipe is never removed: its handle is
  its place in the list of pipes, counted from one, and an address that is enabled again gets a new
  pipe.  The host reaches the newest pipe of an address.  No handle is given out twice: once all of
  them are used up, nothing can be enabled any more.
* **Operations** that succeed are recorded in order.
* A read that finds nothing **waits**: the pipe counts its waiting readers, refuses to be disabled
  while it has one, and every step of a waiting reader takes it off the count first.
* The host can make writes fail, also ahead of the endpoint's being enabled, and can make an
  endpoint refuse to be disabled.
-/

namespace UsbPeripheral

/-- An operation that a device performed. -/
inductive Performed where
  | bind (driver device : String) (speed : Speed)
  | run
  | ep0Write (data : Bytes)
  | ep0Read (count : Nat)
  | ep0Stall
  | enable (address : Address)
  | disable (handle : Handle)
  | configure
  | vbusDraw (milliamps : UInt32)
  | setHalt (handle : Handle)
  | clearHalt (handle : Handle)
  | setWedge (handle : Handle)
  deriving DecidableEq, Repr

/-- The two directions of an endpoint that was enabled. -/
structure Pipe where
  address : Address
  /-- Whether the endpoint still is enabled. -/
  enabled : Bool := true
  /-- Transfers for the host. -/
  toHost : List Bytes := []
  /-- Transfers for the device. -/
  fromHost : List Bytes := []
  /-- Number of writes that are yet to fail. -/
  failWrites : Nat := 0
  /-- Number of readers that wait. -/
  readers : Nat := 0
  /-- Whether the next wait is interrupted. -/
  woken : Bool := false
  refusesDisable : Bool := false
  deriving DecidableEq, Repr

/-- Host and kernel side of an emulated bus. -/
structure Bus where
  /-- Events that were not fetched yet. -/
  events : List ScriptedEvent := []
  /-- Data stage of the event fetched last, until it is read. -/
  dataStage : Option Bytes := none
  /-- Operations performed, oldest first. -/
  performed : List Performed := []
  /-- Endpoints that were enabled, oldest first. -/
  pipes : List Pipe := []
  /-- Endpoints of the controller. -/
  udc : List UdcEndpoint
  /-- Failures owed to endpoints that are not enabled yet. -/
  owedFailures : ByteMap Nat := .empty

namespace Bus

/-- A row of the usual controller: any transfer in one direction. -/
def standardEndpoint (number : Nat) (direction : Direction) : UdcEndpoint where
  name := match direction with
    | .toHost => s!"ep{number}in"
    | .toDevice => s!"ep{number}out"
  number := some (UInt8.ofNat number)
  capabilities :=
    { isochronous := true, bulk := true, interrupt := true,
      toHost := direction == .toHost, toDevice := direction == .toDevice }
  maxPacketLimit := 1024
  maxStreams := 0

/-- The usual controller: endpoints 1 to 15 in both directions. -/
def standardUdc : List UdcEndpoint :=
  (List.range 15).flatMap fun i =>
    [standardEndpoint (i + 1) .toHost, standardEndpoint (i + 1) .toDevice]

/-- A bus on which nothing happened. -/
def idle : Bus := { udc := standardUdc }

instance : Inhabited Bus := ⟨idle⟩

/-! ### Pipes -/

/-- The pipe of a handle. -/
def pipe? (b : Bus) (handle : Handle) : Option Pipe :=
  if handle = 0 then none else b.pipes[handle.toNat - 1]?

/-- The bus with the pipe of a handle changed. -/
def modifyPipe (b : Bus) (handle : Handle) (f : Pipe → Pipe) : Bus :=
  if handle = 0 then b else { b with pipes := b.pipes.modify (handle.toNat - 1) f }

/-- The newest place of an address in a list of pipes whose first place is `n`. -/
def newestFrom (address : Address) : Nat → List Pipe → Option Nat
  | _, [] => none
  | n, p :: ps =>
    match newestFrom address (n + 1) ps with
    | some place => some place
    | none => if p.address = address then some n else none

/-- The handle of the newest pipe of an address. -/
def newest? (b : Bus) (address : Address) : Option Handle :=
  (newestFrom address 1 b.pipes).map UInt32.ofNat

/-- The newest pipe of an address. -/
def newestPipe? (b : Bus) (address : Address) : Option Pipe :=
  (b.newest? address).bind b.pipe?

/-- The addresses of the enabled pipes, oldest first. -/
def enabled (b : Bus) : List Address :=
  (b.pipes.filter (·.enabled)).map (·.address)

/-! ### The host's side -/

/-- Queue an event. -/
def queue (b : Bus) (event : ScriptedEvent) : Bus := { b with events := b.events ++ [event] }

/-- Send a transfer to an endpoint; the result is whether the endpoint is enabled. -/
def hostSend (b : Bus) (address : Address) (data : Bytes) : Bool × Bus :=
  match b.newest? address with
  | some handle =>
    if (b.pipe? handle).any (·.enabled) then
      (true, b.modifyPipe handle fun p => { p with fromHost := p.fromHost ++ [data] })
    else (false, b)
  | none => (false, b)

/-- Take the next transfer of an endpoint. -/
def hostReceive (b : Bus) (address : Address) : Option Bytes × Bus :=
  match b.newest? address with
  | some handle =>
    match (b.pipe? handle).map (·.toHost) with
    | some (data :: rest) => (some data, b.modifyPipe handle fun p => { p with toHost := rest })
    | _ => (none, b)
  | none => (none, b)

/-- Make the next `count` writes of an endpoint fail.  The failures are owed to the endpoint enabled
next at that address if none is enabled now. -/
def failWrites (b : Bus) (address : Address) (count : Nat) : Bus :=
  match b.newest? address with
  | some handle =>
    if (b.pipe? handle).any (·.enabled) then
      b.modifyPipe handle fun p => { p with failWrites := count }
    else { b with owedFailures := b.owedFailures.insert address count }
  | none => { b with owedFailures := b.owedFailures.insert address count }

/-- Make the newest endpoint of an address refuse to be disabled. -/
def refuseDisable (b : Bus) (address : Address) : Bus :=
  match b.newest? address with
  | some handle => b.modifyPipe handle fun p => { p with refusesDisable := true }
  | none => b

/-- Number of readers that wait at an endpoint. -/
def pendingReads (b : Bus) (address : Address) : Nat :=
  ((b.newestPipe? address).map (·.readers)).getD 0

/-- The data sent on endpoint 0. -/
def ep0Writes (b : Bus) : List Bytes :=
  b.performed.filterMap fun
    | .ep0Write data => some data
    | _ => none

/-- How often endpoint 0 was stalled. -/
def stalls (b : Bus) : Nat := b.performed.count .ep0Stall

/-! ### The device's side -/

/-- Record an operation. -/
def record (b : Bus) (p : Performed) : Bus := { b with performed := b.performed ++ [p] }

/-- An operation that is only recorded. -/
def perform (p : Performed) (b : Bus) : Except DeviceError Unit × Bus := (.ok (), b.record p)

/-- Take the next event and its data stage. -/
def fetchEvent (b : Bus) : Except DeviceError EventRecord × Bus :=
  match b.events with
  | event :: rest => (.ok event.record, { b with events := rest, dataStage := event.dataStage })
  | [] => (.error (.channel .eventFetch .enodata), b)

/-- Read from the data stage.  A read takes the stage off even when it has room for a part only; a
read without room leaves it alone. -/
def ep0Read (room : Nat) (b : Bus) : Except DeviceError Bytes × Bus :=
  match b.dataStage with
  | some data =>
    if room = 0 then (.ok [], b.record (.ep0Read 0))
    else
      let taken := data.take room
      (.ok taken, { b with dataStage := none }.record (.ep0Read taken.length))
  | none => (.ok [], b.record (.ep0Read 0))

theorem ep0Read_fits (room : Nat) {b b' : Bus} {data : Bytes}
    (h : ep0Read room b = (.ok data, b')) : data.length ≤ room := by
  unfold ep0Read at h
  split at h
  · split at h
    · cases h
      exact Nat.zero_le _
    · cases h
      exact List.length_take_le _ _
  · cases h
    exact Nat.zero_le _

/-- Send on endpoint 0. -/
def ep0Write (data : Bytes) (b : Bus) : Except DeviceError Nat × Bus :=
  (.ok data.length, b.record (.ep0Write data))

/-- The most pipes that a bus can have: a handle is a word, and the one after it is known before it is
given out. -/
def maxPipes : Nat := 4294967294

/-- Enable an endpoint, unless its address is in use or there are no handles left.  The new pipe gets
the failures owed to its address. -/
def enable (endpoint : Endpoint) (b : Bus) : Except DeviceError Handle × Bus :=
  let address := endpoint.address
  if (b.newestPipe? address).any (·.enabled) then (.error (.channel .epEnable .ebusy), b)
  else if maxPipes ≤ b.pipes.length then (.error (.channel .epEnable .eoverflow), b)
  else
    let failWrites := (b.owedFailures.get? address).getD 0
    let pipe : Pipe := { address, failWrites }
    (.ok (UInt32.ofNat (b.pipes.length + 1)),
      { b with
        pipes := b.pipes ++ [pipe]
        owedFailures := b.owedFailures.erase address }.record (.enable address))

/-- Why an endpoint cannot be disabled now. -/
def disableError? (b : Bus) (handle : Handle) : Option Errno :=
  match b.pipe? handle with
  | some p =>
    if p.enabled = false then some .einval
    else if p.refusesDisable then some .eio
    else if 0 < p.readers then some .ebusy
    else none
  | none => some .einval

/-- Disable an endpoint. -/
def disable (handle : Handle) (b : Bus) : Except DeviceError Unit × Bus :=
  match b.disableError? handle with
  | some errno => (.error (.channel .epDisable errno), b)
  | none =>
    (.ok (), (b.modifyPipe handle fun p => { p with enabled := false }).record (.disable handle))

/-- A reader at an endpoint: it takes the first transfer, cut to its room, or is interrupted, or
waits. -/
def tryRead (handle : Handle) (room : Nat) (b : Bus) : ReadReply × Bus :=
  match b.pipe? handle with
  | some p =>
    if p.enabled = false then (.finished (.error (.invalidated .eshutdown)), b)
    else
      match p.fromHost with
      | data :: rest =>
        let taken := data.take room
        (.finished (.ok ⟨taken, taken.length⟩),
          b.modifyPipe handle fun p => { p with fromHost := rest })
      | [] =>
        if p.woken then
          (.finished (.error (.failed .eintr)),
            b.modifyPipe handle fun p => { p with woken := false })
        else (.waiting, b.modifyPipe handle fun p => { p with readers := p.readers + 1 })
  | none => (.finished (.error (.invalidated .eshutdown)), b)

/-- One step of a read; a reader that waited is no longer counted when it looks again. -/
def read (resumed : Bool) (handle : Handle) (room : Nat) (b : Bus) : ReadReply × Bus :=
  if resumed then
    tryRead handle room (b.modifyPipe handle fun p => { p with readers := p.readers - 1 })
  else tryRead handle room b

/-- A write to an endpoint. -/
def write (handle : Handle) (data : Bytes) (b : Bus) : Except TransferError Nat × Bus :=
  match b.pipe? handle with
  | some p =>
    if p.enabled = false then (.error (.invalidated .eshutdown), b)
    else if 0 < p.failWrites then
      (.error (.failed .eagain),
        b.modifyPipe handle fun p => { p with failWrites := p.failWrites - 1 })
    else
      (.ok data.length, b.modifyPipe handle fun p => { p with toHost := p.toHost ++ [data] })
  | none => (.error (.invalidated .eshutdown), b)

/-- Interrupt the next wait at an endpoint. -/
def wake (handle : Handle) (b : Bus) : Bus := b.modifyPipe handle fun p => { p with woken := true }

instance : Channel Bus where
  bind driver device speed := perform (.bind driver device speed)
  run := perform .run
  fetchEvent := fetchEvent
  ep0Read := ep0Read
  ep0Read_fits := ep0Read_fits
  ep0Write := ep0Write
  ep0Stall := perform .ep0Stall
  enable := enable
  disable := disable
  read := read
  write := write
  wake := wake
  configure := perform .configure
  vbusDraw milliamps := perform (.vbusDraw milliamps)
  endpoints b := (.ok b.udc, b)
  setHalt handle := perform (.setHalt handle)
  clearHalt handle := perform (.clearHalt handle)
  setWedge handle := perform (.setWedge handle)

end Bus

end UsbPeripheral
