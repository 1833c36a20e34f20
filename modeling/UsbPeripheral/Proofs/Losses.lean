import UsbPeripheral.Proofs.Outward
import UsbPeripheral.Proofs.Tallies

/-! # Which transfers are lost to failing writes

A host makes so many writes to an endpoint fail, and a worker sends to it.  In between chunks are
put into its feed, the host takes transfers, and other threads have their turns at the bus, in any
order (`Outflow.Act`).

Every single step keeps the count of the failures (`Outflow.Counted`), and from it follows which
transfers reach the host, and how many failures are left (`Outflow.loses_first`).  A step of the
worker leaves less to do than there was, if anything was, so that it gets through all that it is to
send. -/

namespace UsbPeripheral

/-! ### Feeds -/

namespace Depot

variable (d : Depot) (key : UInt8)

/-- A feed is replaced, unless nobody made it. -/
theorem feed_replaced {feed : Feed} (h : d.feeds.get? key = none → feed = { closed := true }) :
    Depot.feed { d with feeds := d.feeds.modify key fun _ => feed } key = feed := by
  unfold Depot.feed
  rw [ByteMap.get?_modify, if_pos rfl]
  cases hfeed : d.feeds.get? key with
  | none => exact (h hfeed).symm
  | some old => rfl

theorem feed_of_none (h : d.feeds.get? key = none) : d.feed key = { closed := true } := by
  rw [Depot.feed, h]
  rfl

theorem next_eq (cancelled : Bool) :
    ∃ d', d.next key cancelled = (((d.feed key).next cancelled).1, d') ∧
      d'.feed key = ((d.feed key).next cancelled).2 := by
  refine ⟨_, rfl, feed_replaced d key fun hnone => ?_⟩
  show ((d.feed key).next cancelled).2 = _
  rw [feed_of_none d key hnone]
  cases cancelled <;> rfl

theorem send_eq (data : Bytes) :
    ∃ d', d.send key data = (((d.feed key).send data).1, d') ∧
      d'.feed key = ((d.feed key).send data).2 := by
  refine ⟨_, rfl, feed_replaced d key fun hnone => ?_⟩
  show ((d.feed key).send data).2 = Feed.mk [] true
  exact congrArg (fun f : Feed => (f.send data).2) (feed_of_none d key hnone)

theorem feed_close : (d.close key).2.feed key = (d.feed key).close.2 := by
  refine feed_replaced d key fun hnone => ?_
  show (d.feed key).close.2 = Feed.mk [] true
  exact congrArg (fun f : Feed => f.close.2) (feed_of_none d key hnone)

end Depot

/-! ### Workers -/

namespace Worker

/-- The worker of an endpoint towards the host, while nobody cancels it. -/
def sending (handle : Handle) (sender : Sender) (feed : UInt8) (stage : Sender.Stage) : Worker :=
  { handle, duty := .sending sender feed stage }

/-- The transfer that comes to its end when a worker gets on. -/
def settles (w next : Worker) : List Bytes :=
  match w.duty, next.duty with
  | .sending _ _ stage, .sending _ _ stage' => stage.settles stage'
  | _, _ => []

/-- How often the transfer under way failed. -/
def tried (w : Worker) : Nat :=
  match w.duty with
  | .sending _ _ stage => stage.tried
  | _ => 0

/-- The transfers that a worker is to send: what it has in hand, and what is in its feed. -/
def toSend (w : Worker) (depot : Depot) : List Bytes :=
  match w.duty with
  | .sending sender feed stage =>
    stage.unsettled ++ (depot.feed feed).chunks.flatMap (pieces sender.limit)
  | _ => []

end Worker

/-- The way of the transfers through one endpoint to the host. -/
structure Outflow where
  around : Surroundings Bus
  worker : Worker
  /-- Chunks that were put into the feed, oldest first. -/
  supplied : List Bytes := []
  /-- Transfers that the worker sent or gave up, oldest first. -/
  settled : List Bytes := []
  /-- Transfers that the host took, oldest first. -/
  received : List Bytes := []

namespace Outflow

/-- Something that happens at the endpoint. -/
inductive Act where
  /-- The worker makes one atomic step. -/
  | work (suspended : Bool)
  /-- The host takes a transfer. -/
  | take
  /-- A chunk is put into the feed. -/
  | supply (chunk : Bytes)
  /-- The feed is closed. -/
  | close
  /-- Another thread, or the host, has its turn at the bus. -/
  | turn (position : Position) (act : UsbPeripheral.Act)

/-- Whether an act is a step of the worker. -/
def Act.works : Act → Bool
  | work _ => true
  | _ => false

/-- Whether an act may give the worker more to send. -/
def Act.supplies : Act → Bool
  | supply _ => true
  | _ => false

/-- What neither touches the transfers at an endpoint nor lets writes to it fail. -/
def Act.spares (address : Address) (handle : Handle) : Act → Bool
  | turn _ act => act.spares address handle
  | _ => true

def work (suspended : Bool) (i : Outflow) : Outflow :=
  let t := i.worker.step suspended i.around
  { i with
    worker := t.worker
    around := t.around
    settled := i.settled ++ i.worker.settles t.worker }

def take (address : Address) (i : Outflow) : Outflow :=
  let (taken, channel) := i.around.channel.hostReceive address
  { i with around := { i.around with channel }, received := i.received ++ taken.toList }

def supply (feed : UInt8) (chunk : Bytes) (i : Outflow) : Outflow :=
  let (accepted, depot) := i.around.depot.send feed chunk
  { i with
    around := { i.around with depot }
    supplied := if accepted then i.supplied ++ [chunk] else i.supplied }

def close (feed : UInt8) (i : Outflow) : Outflow :=
  { i with around := { i.around with depot := (i.around.depot.close feed).2 } }

def turn (position : Position) (act : UsbPeripheral.Act) (i : Outflow) : Outflow :=
  { i with around := { i.around with channel := (position.turn i.around.channel act).2 } }

/-- What an act does at the endpoint of an address, whose worker draws from a feed. -/
def step (address : Address) (feed : UInt8) (i : Outflow) : Act → Outflow
  | .work suspended => i.work suspended
  | .take => i.take address
  | .supply chunk => i.supply feed chunk
  | .close => i.close feed
  | .turn position act => i.turn position act

def run (address : Address) (feed : UInt8) (i : Outflow) (acts : List Act) : Outflow :=
  acts.foldl (step address feed) i

/-- The transfers that the worker is to send. -/
def pending (i : Outflow) : List Bytes := i.worker.toSend i.around.depot

/-- The transfers that wait for the host. -/
def queued (i : Outflow) : List Bytes :=
  ((i.around.channel.pipe? i.worker.handle).map (·.toHost)).getD []

/-- Number of writes that are yet to fail. -/
def failuresLeft (i : Outflow) : Nat :=
  ((i.around.channel.pipe? i.worker.handle).map (·.failWrites)).getD 0

/-! ### What is kept -/

/-- The worker is at work at its enabled endpoint, its transfers are those that were given to it,
and the failures are counted. -/
structure Counted (n : Nat) (sender : Sender) (feed : UInt8) (handle : Handle)
    (earlier due : List Bytes) (i : Outflow) (stage : Sender.Stage) (queue : List Bytes)
    (left : Nat) : Prop where
  worker : i.worker = .sending handle sender feed stage
  undisturbed : sender.Undisturbed (i.around.depot.feed feed) stage
  sends : i.around.channel.Sends sender.address handle left queue
  tally : Tally n sender.retries earlier stage.tried i.settled i.received queue left
  accounted : i.settled ++
      (stage.unsettled ++ (i.around.depot.feed feed).chunks.flatMap (pieces sender.limit)) =
    due ++ i.supplied.flatMap (pieces sender.limit)

variable {n left : Nat} {sender : Sender} {feed : UInt8} {handle : Handle}
  {earlier due queue : List Bytes} {i : Outflow} {stage : Sender.Stage}

/-- What is left to do for the worker. -/
def effort (sender : Sender) (feed : UInt8) (i : Outflow) (stage : Sender.Stage) : Nat :=
  stage.effort sender + sender.effort (i.around.depot.feed feed)

/-- What a step of the worker brings about: all is kept, and less is left to do, if anything was. -/
def Works (n : Nat) (sender : Sender) (feed : UInt8) (handle : Handle) (earlier due : List Bytes)
    (i : Outflow) (stage : Sender.Stage) (i' : Outflow) : Prop :=
  ∃ stage' queue' left', i'.Counted n sender feed handle earlier due stage' queue' left' ∧
    i'.effort sender feed stage' ≤ i.effort sender feed stage - 1

theorem Counted.worked (h : i.Counted n sender feed handle earlier due stage queue left)
    {suspended blocked : Bool} {stage' : Sender.Stage} {channel : Bus} {depot : Depot}
    {notes : List Note} {queue' : List Bytes} {left' : Nat}
    (hstep : i.worker.step suspended i.around =
      ⟨.sending handle sender feed stage', ⟨channel, depot⟩, notes, blocked⟩)
    (hundisturbed : sender.Undisturbed (depot.feed feed) stage')
    (hsends : channel.Sends sender.address handle left' queue')
    (htally : Tally n sender.retries earlier stage'.tried (i.settled ++ stage.settles stage')
      i.received queue' left')
    (hunsettled : stage.settles stage' ++
        (stage'.unsettled ++ (depot.feed feed).chunks.flatMap (pieces sender.limit)) =
      stage.unsettled ++ (i.around.depot.feed feed).chunks.flatMap (pieces sender.limit))
    (heffort : stage'.effort sender + sender.effort (depot.feed feed) ≤
      i.effort sender feed stage - 1) :
    Works n sender feed handle earlier due i stage (i.work suspended) := by
  have hwork : i.work suspended =
      { i with
        worker := .sending handle sender feed stage'
        around := ⟨channel, depot⟩
        settled := i.settled ++ stage.settles stage' } := by
    unfold Outflow.work
    rw [hstep, h.worker]
    rfl
  rw [hwork]
  refine ⟨stage', queue', left', ⟨rfl, hundisturbed, hsends, htally, ?_⟩, heffort⟩
  rw [List.append_assoc, hunsettled]
  exact h.accounted

/-- A step in which nothing comes to its end and nothing is drawn from the feed. -/
theorem Counted.paused (h : i.Counted n sender feed handle earlier due stage queue left)
    {suspended blocked : Bool} {stage' : Sender.Stage} {depot : Depot} {notes : List Note}
    (hstep : i.worker.step suspended i.around =
      ⟨.sending handle sender feed stage', ⟨i.around.channel, depot⟩, notes, blocked⟩)
    (hfeed : depot.feed feed = i.around.depot.feed feed)
    (hundisturbed : sender.Undisturbed (i.around.depot.feed feed) stage')
    (hsettles : stage.settles stage' = []) (htried : stage'.tried = stage.tried)
    (hunsettled : stage'.unsettled = stage.unsettled)
    (heffort : stage'.effort sender + sender.effort (i.around.depot.feed feed) ≤
      i.effort sender feed stage - 1) :
    Works n sender feed handle earlier due i stage (i.work suspended) := by
  refine h.worked hstep (hfeed ▸ hundisturbed) h.sends ?_ ?_ (hfeed ▸ heffort)
  · rw [hsettles, htried, List.append_nil]
    exact h.tally
  · rw [hsettles, hunsettled, hfeed]
    rfl

/-- A step in which a transfer comes to its end. -/
theorem Counted.concluded (h : i.Counted n sender feed handle earlier due stage queue left)
    {suspended : Bool} {piece : Bytes} {rest : List Bytes} {channel : Bus} {notes : List Note}
    {queue' : List Bytes} {left' : Nat}
    (hstep : i.worker.step suspended i.around =
      ⟨.sending handle sender feed (Sender.following rest), { i.around with channel }, notes,
        false⟩)
    (hsends : channel.Sends sender.address handle left' queue')
    (hsettles : stage.settles (Sender.following rest) = [piece])
    (hunsettled : stage.unsettled = piece :: rest)
    (htally : Tally n sender.retries earlier 0 (i.settled ++ [piece]) i.received queue' left')
    (heffort : sender.labour rest.length + 1 < stage.effort sender) :
    Works n sender feed handle earlier due i stage (i.work suspended) := by
  refine h.worked hstep (sender.undisturbed_following _ _) hsends ?_ ?_ ?_
  · rw [Sender.tried_following, hsettles]
    exact htally
  · rw [hsettles, Sender.unsettled_following, hunsettled]
    rfl
  · rw [Sender.effort_following]
    unfold effort
    omega

section work

variable {piece : Bytes} {rest : List Bytes} {failures : Nat} (suspended : Bool)

theorem Counted.work_idle (h : i.Counted n sender feed handle earlier due .idle queue left) :
    Works n sender feed handle earlier due i .idle (i.work suspended) := by
  have hstep : i.worker.step suspended i.around =
      ⟨.sending handle sender feed .asking, i.around, [], false⟩ := by
    rw [h.worker]
    rfl
  refine h.paused hstep rfl trivial rfl rfl rfl ?_
  unfold effort
  dsimp only [Sender.Stage.effort]
  omega

/-- The next chunk is drawn from the feed, and the worker has its pieces in hand. -/
theorem Counted.work_fed (h : i.Counted n sender feed handle earlier due .asking queue left)
    {data : Bytes} {chunks : List Bytes} {closed : Bool} {depot : Depot}
    (hfeed : i.around.depot.feed feed = ⟨data :: chunks, closed⟩)
    (hnext : i.around.depot.next feed false = (.chunk data, depot))
    (hdepot : depot.feed feed = ⟨chunks, closed⟩) :
    Works n sender feed handle earlier due i .asking (i.work suspended) := by
  have hstep : i.worker.step suspended i.around =
      ⟨.sending handle sender feed (Sender.following (pieces sender.limit data)),
        { i.around with depot }, [], false⟩ := by
    rw [h.worker]
    simp [Worker.step, Worker.sending, Sender.step, Worker.senderLink, hnext]
  refine h.worked hstep (sender.undisturbed_following _ _) h.sends ?_ ?_ ?_
  · rw [Sender.tried_following]
    show Tally _ _ _ _ (i.settled ++ []) _ _ _
    rw [List.append_nil]
    exact h.tally
  · rw [Sender.unsettled_following, hdepot, hfeed]
    rfl
  · unfold effort
    rw [Sender.effort_following, hdepot, hfeed, sender.effort_cons]
    dsimp only [Sender.Stage.effort]
    omega

/-- With an empty feed the source is finished, or the worker waits for it. -/
theorem Counted.work_unfed (h : i.Counted n sender feed handle earlier due .asking queue left)
    {closed : Bool} {depot : Depot} (hfeed : i.around.depot.feed feed = ⟨[], closed⟩)
    (hnext : i.around.depot.next feed false = (if closed then .finished else .pending, depot))
    (hdepot : depot.feed feed = ⟨[], closed⟩) :
    Works n sender feed handle earlier due i .asking (i.work suspended) := by
  have hnone : i.effort sender feed .asking = 0 := by
    unfold effort
    rw [hfeed]
    rfl
  cases closed with
  | true =>
      have hstep : i.worker.step suspended i.around =
          ⟨.sending handle sender feed (.leaving .sourceDone), { i.around with depot }, [],
            false⟩ := by
        rw [h.worker]
        simp [Worker.step, Worker.sending, Sender.step, Worker.senderLink, hnext]
      refine h.paused hstep (hdepot.trans hfeed.symm) ⟨rfl, hfeed⟩ rfl rfl rfl ?_
      rw [hnone]
      exact Nat.le_of_eq hnone
  | false =>
      have hstep : i.worker.step suspended i.around =
          ⟨.sending handle sender feed .asking, { i.around with depot }, [], true⟩ := by
        rw [h.worker]
        simp [Worker.step, Worker.sending, Sender.step, Worker.senderLink, hnext]
      refine h.paused hstep (hdepot.trans hfeed.symm) trivial rfl rfl rfl ?_
      rw [hnone]
      exact Nat.le_of_eq hnone

theorem Counted.work_asking (h : i.Counted n sender feed handle earlier due .asking queue left) :
    Works n sender feed handle earlier due i .asking (i.work suspended) := by
  obtain ⟨depot, hnext, hdepot⟩ := i.around.depot.next_eq feed false
  rcases hfeed : i.around.depot.feed feed with ⟨_ | ⟨data, chunks⟩, closed⟩
  · rw [hfeed] at hnext hdepot
    exact h.work_unfed suspended hfeed hnext hdepot
  · rw [hfeed] at hnext hdepot
    exact h.work_fed suspended hfeed hnext hdepot

theorem Counted.work_ready
    (h : i.Counted n sender feed handle earlier due (.ready piece rest failures) queue left) :
    Works n sender feed handle earlier due i (.ready piece rest failures) (i.work suspended) := by
  have htried : failures ≤ sender.retries := h.undisturbed
  have hstep : i.worker.step suspended i.around =
      ⟨.sending handle sender feed (.writing piece rest failures), i.around,
        if suspended then [.writingSuspended sender.address] else [], false⟩ := by
    rw [h.worker]
    rfl
  refine h.paused hstep rfl htried rfl rfl rfl ?_
  unfold effort
  dsimp only [Sender.Stage.effort]
  omega

/-- The write fails as long as failures are left. -/
theorem Counted.work_writing
    (h : i.Counted n sender feed handle earlier due (.writing piece rest failures) queue left) :
    Works n sender feed handle earlier due i (.writing piece rest failures) (i.work suspended) := by
  have htried : failures ≤ sender.retries := h.undisturbed
  rcases Nat.eq_zero_or_pos left with rfl | hleft
  · obtain ⟨channel, hwrite, hsends⟩ := h.sends.write_ok piece
    have hstep : i.worker.step suspended i.around =
        ⟨.sending handle sender feed (Sender.following rest), { i.around with channel },
          [sender.noteWrite piece piece.length], false⟩ := by
      have hwrite : Channel.write handle piece i.around.channel =
          (.ok piece.length, channel) := hwrite
      rw [h.worker]
      simp [Worker.step, Worker.sending, Sender.step, Worker.senderLink, hwrite]
    refine h.concluded hstep hsends (if_pos rfl) rfl (h.tally.sent htried piece) ?_
    dsimp only [Sender.Stage.effort]
    omega
  · obtain ⟨channel, hwrite, hsends⟩ := h.sends.write_fails hleft piece
    have hstep : i.worker.step suspended i.around =
        ⟨.sending handle sender feed (.failed piece rest failures .eagain),
          { i.around with channel }, [], false⟩ := by
      have hwrite : Channel.write handle piece i.around.channel =
          (.error (.failed .eagain), channel) := hwrite
      have heagain : Errno.eagain ≠ Errno.eintr := by decide
      rw [h.worker]
      simp [Worker.step, Worker.sending, Sender.step, Worker.senderLink, hwrite, heagain]
    have hsettles : (Sender.Stage.writing piece rest failures).settles
        (.failed piece rest failures .eagain) = [] :=
      Sender.settles_of_tried _ (Nat.succ_ne_zero failures)
    refine h.worked hstep htried hsends ?_ ?_ ?_
    · rw [hsettles, List.append_nil]
      exact h.tally.failed hleft
    · rw [hsettles]
      rfl
    · unfold effort
      dsimp only [Sender.Stage.effort]
      omega

/-- A transfer that failed is given up or tried again. -/
theorem Counted.work_failed {errno : Errno}
    (h : i.Counted n sender feed handle earlier due (.failed piece rest failures errno) queue
      left) :
    Works n sender feed handle earlier due i (.failed piece rest failures errno)
      (i.work suspended) := by
  have htried : failures ≤ sender.retries := h.undisturbed
  by_cases hretries : sender.retries ≤ failures
  · obtain rfl : failures = sender.retries := Nat.le_antisymm htried hretries
    have hstep : i.worker.step suspended i.around =
        ⟨.sending handle sender feed (Sender.following rest), i.around,
          [.givenUp sender.address piece.length (sender.retries + 1) errno], false⟩ := by
      rw [h.worker]
      simp [Worker.step, Worker.sending, Sender.step]
    refine h.concluded hstep h.sends (if_pos rfl) rfl (h.tally.givenUp piece) ?_
    dsimp only [Sender.Stage.effort]
    omega
  · have hstep : i.worker.step suspended i.around =
        ⟨.sending handle sender feed (.ready piece rest (failures + 1)), i.around,
          [.retrying sender.address errno (failures + 1) sender.retries], false⟩ := by
      rw [h.worker]
      simp [Worker.step, Worker.sending, Sender.step, hretries]
    have hsettles : (Sender.Stage.failed piece rest failures errno).settles
        (.ready piece rest (failures + 1)) = [] :=
      Sender.settles_of_tried _ (Nat.succ_ne_zero failures)
    refine h.paused hstep rfl (Nat.lt_of_not_le hretries) hsettles rfl rfl ?_
    unfold effort
    dsimp only [Sender.Stage.effort]
    omega

/-- A sender that leaves has nothing more to do. -/
theorem Counted.work_leaving {exit : Exit}
    (h : i.Counted n sender feed handle earlier due (.leaving exit) queue left) :
    Works n sender feed handle earlier due i (.leaving exit) (i.work suspended) := by
  have hstep : i.worker.step suspended i.around =
      ⟨.sending handle sender feed (.ended exit), i.around, [], false⟩ := by
    rw [h.worker]
    rfl
  refine h.paused hstep rfl h.undisturbed rfl rfl rfl ?_
  rw [effort, h.undisturbed.2]
  exact Nat.le_refl 0

theorem Counted.work_ended {exit : Exit}
    (h : i.Counted n sender feed handle earlier due (.ended exit) queue left) :
    Works n sender feed handle earlier due i (.ended exit) (i.work suspended) := by
  have hstep : i.worker.step suspended i.around =
      ⟨.sending handle sender feed (.ended exit), i.around, [], true⟩ := by
    rw [h.worker]
    rfl
  refine h.paused hstep rfl h.undisturbed rfl rfl rfl ?_
  rw [effort, h.undisturbed.2]
  exact Nat.le_refl 0

theorem Counted.work (h : i.Counted n sender feed handle earlier due stage queue left) :
    Works n sender feed handle earlier due i stage (i.work suspended) := by
  cases stage with
  | idle => exact h.work_idle suspended
  | asking => exact h.work_asking suspended
  | ready piece rest failures => exact h.work_ready suspended
  | writing piece rest failures => exact h.work_writing suspended
  | failed piece rest failures errno => exact h.work_failed suspended
  | leaving exit => exact h.work_leaving suspended
  | ended exit => exact h.work_ended suspended

end work

/-! ### Runs -/

theorem Counted.pending (h : i.Counted n sender feed handle earlier due stage queue left) :
    i.pending =
      stage.unsettled ++ (i.around.depot.feed feed).chunks.flatMap (pieces sender.limit) := by
  unfold Outflow.pending
  rw [h.worker]
  rfl

theorem Counted.take (h : i.Counted n sender feed handle earlier due stage queue left) :
    ∃ queue',
      (i.take sender.address).Counted n sender feed handle earlier due stage queue' left := by
  obtain ⟨taken, rest, channel, hreceive, rfl, hsends⟩ := h.sends.hostReceive
  refine ⟨rest, ?_⟩
  unfold Outflow.take
  rw [hreceive]
  exact ⟨h.worker, h.undisturbed, hsends, h.tally.taken, h.accounted⟩

/-- A chunk that the feed takes is sent after all others. -/
theorem Counted.supply (h : i.Counted n sender feed handle earlier due stage queue left)
    (chunk : Bytes) :
    (i.supply feed chunk).Counted n sender feed handle earlier due stage queue left := by
  obtain ⟨depot, hsend, hdepot⟩ := i.around.depot.send_eq feed chunk
  unfold Outflow.supply
  rw [hsend]
  unfold Feed.send at hdepot ⊢
  cases hclosed : (i.around.depot.feed feed).closed with
  | true =>
      rw [hclosed] at hdepot
      have hdepot : depot.feed feed = i.around.depot.feed feed := hdepot
      exact ⟨h.worker, hdepot ▸ h.undisturbed, h.sends, h.tally, hdepot ▸ h.accounted⟩
  | false =>
      rw [hclosed] at hdepot
      have hchunks : (depot.feed feed).chunks = (i.around.depot.feed feed).chunks ++ [chunk] :=
        congrArg Feed.chunks hdepot
      refine ⟨h.worker, h.undisturbed.of_open hclosed _, h.sends, h.tally, ?_⟩
      show i.settled ++ (stage.unsettled ++ (depot.feed feed).chunks.flatMap _) =
        due ++ (i.supplied ++ [chunk]).flatMap _
      rw [hchunks, List.flatMap_append, List.flatMap_append, ← List.append_assoc stage.unsettled,
        ← List.append_assoc i.settled, h.accounted, List.append_assoc]

theorem Counted.close (h : i.Counted n sender feed handle earlier due stage queue left) :
    (i.close feed).Counted n sender feed handle earlier due stage queue left ∧
      (i.close feed).effort sender feed stage = i.effort sender feed stage := by
  have hfeed : (i.close feed).around.depot.feed feed =
      { i.around.depot.feed feed with closed := true } := i.around.depot.feed_close feed
  refine ⟨⟨h.worker, ?_, h.sends, h.tally, ?_⟩, ?_⟩
  · rw [hfeed]
    cases hclosed : (i.around.depot.feed feed).closed with
    | true =>
        rw [← hclosed]
        exact h.undisturbed
    | false => exact h.undisturbed.of_open hclosed _
  · rw [hfeed]
    exact h.accounted
  · unfold effort
    rw [hfeed]
    rfl

theorem Counted.turn (h : i.Counted n sender feed handle earlier due stage queue left)
    (position : Position) {act : UsbPeripheral.Act}
    (hspares : act.spares sender.address handle = true) :
    (i.turn position act).Counted n sender feed handle earlier due stage queue left :=
  ⟨h.worker, h.undisturbed, h.sends.turn position hspares, h.tally, h.accounted⟩

theorem Counted.step (h : i.Counted n sender feed handle earlier due stage queue left) {act : Act}
    (hspares : act.spares sender.address handle = true) :
    ∃ stage' queue' left', (i.step sender.address feed act).Counted n sender feed handle earlier due
        stage' queue' left' ∧
      (act.supplies = false → (i.step sender.address feed act).effort sender feed stage' ≤
        i.effort sender feed stage - act.works.toNat) := by
  cases act with
  | work suspended =>
      obtain ⟨stage', queue', left', hcounted, heffort⟩ := h.work suspended
      exact ⟨stage', queue', left', hcounted, fun _ => heffort⟩
  | take =>
      obtain ⟨queue', hcounted⟩ := h.take
      exact ⟨stage, queue', left, hcounted, fun _ => Nat.le_refl _⟩
  | supply chunk => exact ⟨stage, queue, left, h.supply chunk, nofun⟩
  | close => exact ⟨stage, queue, left, h.close.1, fun _ => Nat.le_of_eq h.close.2⟩
  | turn position act =>
      exact ⟨stage, queue, left, h.turn position hspares, fun _ => Nat.le_refl _⟩

theorem Counted.run (h : i.Counted n sender feed handle earlier due stage queue left)
    {acts : List Act} (hspares : ∀ act ∈ acts, act.spares sender.address handle = true) :
    ∃ stage' queue' left', (i.run sender.address feed acts).Counted n sender feed handle earlier due
        stage' queue' left' ∧
      ((∀ act ∈ acts, act.supplies = false) →
        (i.run sender.address feed acts).effort sender feed stage' ≤
          i.effort sender feed stage - acts.countP Act.works) := by
  induction acts generalizing i stage queue left with
  | nil => exact ⟨stage, queue, left, h, fun _ => Nat.le_refl _⟩
  | cons act acts ih =>
      obtain ⟨hact, hacts⟩ := List.forall_mem_cons.mp hspares
      obtain ⟨stage₁, queue₁, left₁, hcounted₁, heffort₁⟩ := h.step hact
      obtain ⟨stage₂, queue₂, left₂, hcounted₂, heffort₂⟩ := ih hcounted₁ hacts
      refine ⟨stage₂, queue₂, left₂, hcounted₂, fun hquiet => ?_⟩
      obtain ⟨hquiet, hrest⟩ := List.forall_mem_cons.mp hquiet
      have heffort₁ := heffort₁ hquiet
      have heffort₂ := heffort₂ hrest
      show (Outflow.run sender.address feed (i.step sender.address feed act) acts).effort _ _ _ ≤ _
      rw [List.countP_cons]
      cases hworks : act.works with
      | true =>
          rw [hworks] at heffort₁
          simp only [Bool.toNat_true, if_true] at heffort₁ ⊢
          omega
      | false =>
          rw [hworks] at heffort₁
          simp only [Bool.toNat_false, Bool.false_eq_true, if_false] at heffort₁ ⊢
          omega

/-! ### Beginnings -/

theorem Counted.queued (h : i.Counted n sender feed handle earlier due stage queue left) :
    i.queued = queue := by
  obtain ⟨p, hp, -, -, -, hqueue⟩ := h.sends.pipe
  unfold Outflow.queued
  rw [h.worker]
  show ((i.around.channel.pipe? handle).map _).getD [] = queue
  rw [hp]
  exact hqueue

theorem Counted.failuresLeft (h : i.Counted n sender feed handle earlier due stage queue left) :
    i.failuresLeft = left := by
  obtain ⟨p, hp, -, -, hleft, -⟩ := h.sends.pipe
  unfold Outflow.failuresLeft
  rw [h.worker]
  show ((i.around.channel.pipe? handle).map _).getD 0 = left
  rw [hp]
  exact hleft

/-- The next writes of a worker were made to fail, and it has sent nothing since. -/
inductive Primed (n : Nat) (feed : UInt8) (handle : Handle) : Sender → Outflow → Prop
  /-- The worker was at work, at an endpoint that is enabled, with no transfer in progress. -/
  | serving {b : Bus} {depot : Depot} {sender : Sender} {stage : Sender.Stage} : b.Sound →
      b.Live handle sender.address → sender.Undisturbed (depot.feed feed) stage → stage.tried = 0 →
      Primed n feed handle sender
        { around := ⟨b.failWrites sender.address n, depot⟩
          worker := .sending handle sender feed stage }
  /-- Nothing was enabled at the address.  After some turns of others an endpoint is, and its worker
  is new. -/
  | enabled {b b' : Bus} {depot : Depot} {settings : Settings} {endpoint : Endpoint}
      {turns : List (Position × UsbPeripheral.Act)} : b.Sound → endpoint.address ∉ b.enabled →
      (∀ t ∈ turns, t.2.bypasses endpoint.address = true) →
      ((b.failWrites endpoint.address n).after turns).enable endpoint = (.ok handle, b') →
      Primed n feed handle
        ⟨endpoint.address, Worker.transferLimit settings endpoint, settings.writeRetries⟩
        { around := ⟨b', depot⟩, worker := .start settings endpoint handle (.source feed) }

/-- The count starts with all failures left. -/
theorem counted_start {b : Bus} {depot : Depot} (hsends : b.Sends sender.address handle n queue)
    (hundisturbed : sender.Undisturbed (depot.feed feed) stage) (htried : stage.tried = 0) :
    let i : Outflow := { around := ⟨b, depot⟩, worker := .sending handle sender feed stage }
    i.Counted n sender feed handle queue i.pending stage queue n := by
  intro i
  refine ⟨rfl, hundisturbed, hsends, ?_, (List.append_nil i.pending).symm⟩
  rw [htried]
  exact .start n sender.retries queue

theorem Primed.counted (h : Primed n feed handle sender i) :
    ∃ stage, i.Counted n sender feed handle i.queued i.pending stage i.queued n := by
  suffices hcounted : ∃ stage queue, i.Counted n sender feed handle queue i.pending stage queue n by
    obtain ⟨stage, queue, hcounted⟩ := hcounted
    rw [← hcounted.queued] at hcounted
    exact ⟨stage, hcounted⟩
  cases h with
  | @serving b depot _ stage hsound hlive hundisturbed htried =>
      obtain ⟨failures, queue, hsends⟩ := Bus.sends_of_live hsound hlive
      exact ⟨stage, queue, counted_start (hsends.failWrites n) hundisturbed htried⟩
  | enabled hsound hunused hturns henable =>
      have howes := (Bus.owes_failWrites hsound hunused n).after hturns
      exact ⟨.idle, [], counted_start (howes.enable henable) trivial rfl⟩

/-- **The first transfers are lost, and no others.** When `n` writes are made to fail, the host gets
all transfers that come to their end afterwards, in their order, except the first
`n / (retries + 1)` of them; and what is left of the failures between two transfers is what these
did not meet.

The transfers are the pieces of the chunks that the worker is given, it ends only when its source is
finished, and it gets through all of them if it takes enough steps. -/
theorem loses_first (h : Primed n feed handle sender i) {acts : List Act}
    (hspares : ∀ act ∈ acts, act.spares sender.address handle = true) :
    let j := i.run sender.address feed acts
    j.received ++ j.queued = i.queued ++ j.settled.drop (n / (sender.retries + 1)) ∧
      (j.worker.tried = 0 → j.failuresLeft = n - j.settled.length * (sender.retries + 1)) ∧
      j.settled ++ j.pending = i.pending ++ j.supplied.flatMap (pieces sender.limit) ∧
      (∀ exit, j.worker.exit? = some exit → exit = .sourceDone) ∧
      ∃ steps, ∀ later : List Act,
        (∀ act ∈ later, act.spares sender.address handle = true ∧ act.supplies = false) →
        steps ≤ later.countP Act.works → (j.run sender.address feed later).pending = [] := by
  intro j
  obtain ⟨start, hstart⟩ := h.counted
  obtain ⟨stage, queue, left, hcounted, -⟩ := hstart.run hspares
  refine ⟨?_, fun htried => ?_, ?_, fun exit hexit => ?_, j.effort sender feed stage,
    fun later hlater hsteps => ?_⟩
  · rw [hcounted.queued]
    exact hcounted.tally.received
  · have htried : stage.tried = 0 := by
      rw [hcounted.worker] at htried
      exact htried
    have hleft := hcounted.tally.left
    rw [htried] at hleft
    exact hcounted.failuresLeft.trans hleft
  · rw [hcounted.pending]
    exact hcounted.accounted
  · have hundisturbed := hcounted.undisturbed
    rw [hcounted.worker] at hexit
    cases stage with
    | ended other =>
        obtain rfl := Option.some.inj hexit
        exact hundisturbed.1
    | _ => cases hexit
  · obtain ⟨stage', queue', left', hcounted', heffort⟩ :=
      hcounted.run fun act hact => (hlater act hact).1
    have heffort := heffort fun act hact => (hlater act hact).2
    rw [Nat.sub_eq_zero_of_le hsteps] at heffort
    obtain ⟨hunsettled, hchunks⟩ := Sender.done_of_effort (Nat.eq_zero_of_le_zero heffort)
    rw [hcounted'.pending, hunsettled, hchunks]
    rfl

/-- A transfer is given up, the next one needs a second attempt, and the third is sent at once. -/
def stumbling : List Act :=
  [.supply [1, 2, 3, 4, 5], .turn (.waiting 1 64) (.wake 1)] ++
    List.replicate 15 (.work false) ++ [.take, .take]

theorem stumbling_loses_first :
    let endpoint : Endpoint := .bulk 0x81 2
    let settings : Settings := { maxTransfer := 2, writeRetries := 1 }
    let sender : Sender :=
      ⟨endpoint.address, Worker.transferLimit settings endpoint, settings.writeRetries⟩
    let turns : List (Position × UsbPeripheral.Act) :=
      [(.free, .enable (.bulk 2 64)), (.free, .read 1 64)]
    let enabled := ((Bus.failWrites Bus.idle 0x81 3).after turns).enable endpoint
    let i : Outflow :=
      { around := ⟨enabled.2, { feeds := ByteMap.empty.insert 0 {} }⟩
        worker := .start settings endpoint 2 (.source 0) }
    let j := i.run 0x81 0 stumbling
    (Primed 3 0 2 sender i ∧ ∀ act ∈ stumbling, act.spares 0x81 2 = true) ∧
      j.received ++ j.queued = i.queued ++ j.settled.drop (3 / (1 + 1)) ∧
      j.settled = [[1, 2], [3, 4], [5]] ∧ j.received = [[3, 4], [5]] := by
  intro endpoint settings sender turns enabled i j
  have henable : enabled = (.ok 2, enabled.2) := rfl
  have hprimed : Primed 3 0 2 sender i :=
    .enabled (Bus.sound_of_nil rfl) (by decide) (by decide) henable
  have hspares : ∀ act ∈ stumbling, act.spares 0x81 2 = true := by decide
  exact ⟨⟨hprimed, hspares⟩, (loses_first hprimed hspares).1, by decide +kernel, by decide +kernel⟩

end Outflow

end UsbPeripheral
