import UsbPeripheral.Journal
import UsbPeripheral.Worker.Feed

/-!
# The depot: what a device class keeps behind its endpoints

Behind an endpoint towards the host stands a feed, behind one towards the device a **sink** that
passes data to an **outlet**, where somebody takes it.  Feeds and outlets live as long as the
device; workers come and go.  An outlet also keeps what arrived at it when nobody takes it any more.
-/

namespace UsbPeripheral

/-- Where received data ends up. -/
structure Outlet where
  /-- All data since the outlet was emptied, oldest first. -/
  arrived : List Bytes := []
  /-- The part of it that somebody takes. -/
  delivered : List Bytes := []
  /-- Whether nobody will take any more. -/
  gone : Bool := false
  deriving DecidableEq, Repr

/-- What becomes of received data. -/
inductive Sink where
  /-- It goes to an outlet. -/
  | quiet (outlet : UInt8)
  /-- It goes to an outlet, and the device says so. -/
  | announced (outlet : UInt8) (device goods : String)
  /-- The consumer breaks down. -/
  | broken
  deriving DecidableEq, Repr

/-- What stands behind an endpoint. -/
inductive EndpointData where
  /-- Chunks from a feed go to the host. -/
  | source (feed : UInt8)
  /-- Data from the host goes to a sink. -/
  | sink (sink : Sink)
  deriving DecidableEq, Repr

namespace EndpointData

/-- The direction in which the data goes. -/
def direction : EndpointData → Direction
  | source _ => .toHost
  | sink _ => .toDevice

end EndpointData

/-- The feeds and outlets of a device. -/
structure Depot where
  feeds : ByteMap Feed := .empty
  outlets : ByteMap Outlet := .empty

namespace Depot

/-- The feed of a key; a feed that nobody made is closed. -/
def feed (d : Depot) (key : UInt8) : Feed := (d.feeds.get? key).getD { closed := true }

/-- Ask a feed for a chunk. -/
def next (key : UInt8) (cancelled : Bool) (d : Depot) : FeedReply × Depot :=
  let (reply, feed) := (d.feed key).next cancelled
  (reply, { d with feeds := d.feeds.modify key fun _ => feed })

/-- Put a chunk into a feed; the result is whether there is such a feed and it is open. -/
def send (key : UInt8) (data : Bytes) (d : Depot) : Bool × Depot :=
  let (sent, feed) := (d.feed key).send data
  (sent, { d with feeds := d.feeds.modify key fun _ => feed })

/-- Close a feed; the result is whether there is such a feed and it was open. -/
def close (key : UInt8) (d : Depot) : Bool × Depot :=
  let (closed, feed) := (d.feed key).close
  (closed, { d with feeds := d.feeds.modify key fun _ => feed })

/-- The outlet of a key. -/
def outlet (d : Depot) (key : UInt8) : Outlet := (d.outlets.get? key).getD {}

/-- Put data into an outlet; the result is whether somebody takes it. -/
def put (key : UInt8) (data : Bytes) (d : Depot) : Bool × Depot :=
  let o := d.outlet key
  let delivered := if o.gone then o.delivered else o.delivered ++ [data]
  (!o.gone,
    { d with outlets := d.outlets.insert key { o with arrived := o.arrived ++ [data], delivered } })

/-- Stop taking data from an outlet; what was delivered is lost. -/
def abandon (key : UInt8) (d : Depot) : Depot :=
  { d with
    outlets := d.outlets.modify key fun o => { o with delivered := [], gone := true } }

/-- Empty an outlet; the result is the outlet as it was. -/
def drain (key : UInt8) (d : Depot) : Outlet × Depot :=
  (d.outlet key,
    { d with
      outlets := d.outlets.modify key fun o => { o with arrived := [], delivered := [] } })

/-- Hand data to a sink: whether the consumer is still working, and what it notes. -/
def deliver (sink : Sink) (data : Bytes) (d : Depot) : Bool × List Note × Depot :=
  match sink with
  | .quiet outlet => (true, [], (d.put outlet data).2)
  | .announced outlet device goods =>
    let note := Note.ofDevice .debug s!"{device}: {data.length} bytes of {goods}"
    match d.put outlet data with
    | (true, d) => (true, [note], d)
    | (false, d) => (true, [note, .ofDevice .warn s!"{device}: {goods} receiver is gone"], d)
  | .broken => (false, [], d)

end Depot

end UsbPeripheral
