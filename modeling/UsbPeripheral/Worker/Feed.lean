import UsbPeripheral.Bytes

/-!
# Feeds: queues of chunks for the host

A **feed** is the queue from which the worker of an endpoint draws what it sends to the host.  It
outlives the worker: a chunk that no worker took stays for the next one.  When its feeding end is
closed, the chunks that are left still are served, and after them the feed is finished.

A worker that was cancelled gets nothing, and takes nothing, from its feed.
-/

namespace UsbPeripheral

/-- A queue of chunks. -/
structure Feed where
  /-- Chunks that were not taken yet, oldest first. -/
  chunks : List Bytes := []
  /-- Whether no more chunks will come. -/
  closed : Bool := false
  deriving DecidableEq, Repr

/-- What a source answers when it is asked for a chunk. -/
inductive FeedReply where
  | chunk (data : Bytes)
  /-- There are no more chunks, or the worker was cancelled. -/
  | finished
  /-- Nothing yet. -/
  | pending
  deriving DecidableEq, Repr

namespace Feed

/-- Put a chunk in; the result is whether the feed is open. -/
def send (f : Feed) (data : Bytes) : Bool × Feed :=
  if f.closed then (false, f) else (true, { f with chunks := f.chunks ++ [data] })

/-- Close the feed; the result is whether it was open. -/
def close (f : Feed) : Bool × Feed := (!f.closed, { f with closed := true })

/-- Ask for a chunk on behalf of a worker that may be cancelled. -/
def next (cancelled : Bool) (f : Feed) : FeedReply × Feed :=
  if cancelled then (.finished, f)
  else
    match f.chunks with
    | data :: rest => (.chunk data, { f with chunks := rest })
    | [] => (if f.closed then .finished else .pending, f)

end Feed

end UsbPeripheral
