import UsbPeripheral.Worker.Receiver
import UsbPeripheral.Worker.Sender

/-! # What workers do to their surroundings

A worker touches what lies around it by **deeds**: a sender asks its source and writes, a receiver
reads and hands over.  A **logged** link is a link over the same surroundings that also writes every
deed down, with what came of it, the oldest first.  A worker does over it what it does over the link
itself (`Sender.step_logged`, `Receiver.step_logged`). -/

namespace UsbPeripheral

namespace Sender

/-- Something that a sender does to its surroundings. -/
inductive Deed where
  /-- The source was asked for a chunk. -/
  | asked (reply : FeedReply)
  | wrote (data : Bytes) (result : Except TransferError Nat)

/-- What the endpoint took. -/
def Deed.accepted? : Deed → Option Bytes
  | .wrote data (.ok _) => some data
  | _ => none

variable {ω : Type}

/-- The link that also writes down what is done over it. -/
def Link.logged (link : Link ω) : Link (ω × List Deed) where
  next cancelled w :=
    let (reply, world) := link.next cancelled w.1
    (reply, world, w.2 ++ [.asked reply])
  write data w :=
    let (result, world) := link.write data w.1
    (result, world, w.2 ++ [.wrote data result])

theorem step_logged (s : Sender) (link : Link ω) (cancelled suspended : Bool) (stage : Stage)
    (world : ω) (log : List Deed) :
    let t := s.step link cancelled suspended stage world
    ∃ deeds, s.step link.logged cancelled suspended stage (world, log) =
      { t with world := (t.world, log ++ deeds) } := by
  cases stage with
  | idle => exact ⟨[], by simp [step]⟩
  | asking =>
      rcases hnext : link.next cancelled world with ⟨_ | _ | _, world⟩
      all_goals simp [step, Link.logged, hnext]
  | ready piece rest failures => cases cancelled <;> exact ⟨[], by simp [step]⟩
  | writing piece rest failures =>
      rcases hwrite : link.write piece world with ⟨(_ | errno) | _, world⟩
      case error.failed =>
        by_cases herrno : errno = .eintr <;> simp [step, Link.logged, hwrite, herrno]
      all_goals simp [step, Link.logged, hwrite]
  | failed piece rest failures errno =>
      by_cases hretries : s.retries ≤ failures <;> cases cancelled <;>
        exact ⟨[], by simp [step, hretries]⟩
  | leaving exit => exact ⟨[], by simp [step]⟩
  | ended exit => exact ⟨[], by simp [step]⟩

end Sender

namespace Receiver

/-- Something that a receiver does to its surroundings. -/
inductive Deed where
  /-- A read was started or resumed. -/
  | read (resumed : Bool) (reply : ReadReply)
  /-- Data was handed to the consumer, and whether the consumer still works. -/
  | delivered (data : Bytes) (working : Bool)

variable {ω : Type}

/-- The link that also writes down what is done over it. -/
def Link.logged (link : Link ω) : Link (ω × List Deed) where
  read resumed room w :=
    let (reply, world) := link.read resumed room w.1
    (reply, world, w.2 ++ [.read resumed reply])
  deliver data w :=
    let (working, notes, world) := link.deliver data w.1
    (working, notes, world, w.2 ++ [.delivered data working])

theorem step_logged (r : Receiver) (link : Link ω) (cancelled suspended : Bool) (stage : Stage)
    (buffer : Bytes) (world : ω) (log : List Deed) :
    let t := r.step link cancelled suspended stage buffer world
    ∃ deeds, r.step link.logged cancelled suspended stage buffer (world, log) =
      { t with world := (t.world, log ++ deeds) } := by
  cases stage with
  | idle => cases cancelled <;> exact ⟨[], by simp [step]⟩
  | reading resumed =>
      rcases hread : link.read resumed r.limit world with ⟨_ | _ | _, world⟩
      all_goals simp [step, Link.logged, hread]
  | delivering count =>
      by_cases hcount : count ≤ r.limit
      · rcases hdeliver : link.deliver (Bytes.fitted count buffer) world with ⟨working, notes, world⟩
        simp [step, Link.logged, hcount, hdeliver]
      · exact ⟨[], by simp [step, hcount]⟩
  | failed error =>
      by_cases herror : error = .failed .eintr <;> cases cancelled <;>
        exact ⟨[], by simp [step, herror]⟩
  | ended exit => exact ⟨[], by simp [step]⟩

end Receiver

end UsbPeripheral
