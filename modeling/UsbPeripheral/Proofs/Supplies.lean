import UsbPeripheral.Proofs.Losses

/-! # A feed loses nothing between its sources

A feed outlives those who draw from it.  Each of them is a **source** of its own, with a flag of its own
by which it can be cancelled, and all of them share the one feed, in a **supply**.

A call for a chunk is not one step.  A source looks at its flag, waits for a chunk for a while, and starts
over if there was none (`Supply.step`).  In between anything may happen: chunks are sent, the feed is
closed, sources are made and cancelled, and others call (`Supply.Act`).  What a source does without
interruption is what a worker does in one step (`Supply.polls`, `Supply.asks`).

What calls returned and what still is queued make up what was sent, in its order, whatever happened and in
whatever order (`Supply.supplies_all`). -/

namespace UsbPeripheral

/-- Where a source is in a call. -/
inductive Source.Stage where
  /-- Nobody calls. -/
  | idle
  /-- It looks at its flag. -/
  | looking
  /-- It waits for a chunk for a while. -/
  | receiving
  deriving DecidableEq, Repr

/-- One who draws from a feed. -/
structure Source where
  stage : Source.Stage := .idle
  cancelled : Bool := false
  deriving DecidableEq, Repr

/-- What a call returned. -/
structure Returned where
  source : Nat
  chunk : Option Bytes
  deriving DecidableEq, Repr

/-- What a call returns when the feed replies, if it does return. -/
def FeedReply.returned (i : Nat) : FeedReply → List Returned
  | .chunk data => [⟨i, some data⟩]
  | .finished => [⟨i, none⟩]
  | .pending => []

/-- Where a source is after the feed replied. -/
def FeedReply.stage : FeedReply → Source.Stage
  | .pending => .looking
  | _ => .idle

/-- A feed and its sources. -/
structure Supply where
  feed : Feed := {}
  /-- The sources, the oldest first. -/
  sources : List Source := []
  /-- What calls returned, oldest first. -/
  returned : List Returned := []
  deriving DecidableEq, Repr

namespace Supply

/-! ### Acts -/

/-- Something that happens at a feed. -/
inductive Act where
  /-- A chunk is sent. -/
  | send (data : Bytes)
  /-- There is nobody left to send. -/
  | close
  /-- One more source is made. -/
  | clone
  /-- The flag of a source is set. -/
  | cancel (i : Nat)
  /-- A source is called, unless it is already. -/
  | call (i : Nat)
  /-- A source gets one step further in its call. -/
  | step (i : Nat)
  deriving DecidableEq, Repr

namespace Act

/-- The chunk that an act sends. -/
def sends : Act → Option Bytes
  | send data => some data
  | _ => none

def closes : Act → Bool
  | close => true
  | _ => false

end Act

/-- What is sent before the feed is closed. -/
def sentIn (acts : List Act) : List Bytes := (acts.takeWhile (!·.closes)).filterMap Act.sends

/-- The supply with a source in another place of its call. -/
def moved (s : Supply) (i : Nat) (stage : Source.Stage) : Supply :=
  { s with sources := s.sources.modify i fun source => { source with stage } }

/-- The supply after a reply of the feed to a source. -/
def replied (s : Supply) (i : Nat) (reply : FeedReply) (feed : Feed) : Supply :=
  { s.moved i reply.stage with feed, returned := s.returned ++ reply.returned i }

/-- A source that is called looks at its flag, and asks the feed only if it is not cancelled. -/
def step (s : Supply) (i : Nat) : Supply :=
  match s.sources[i]? with
  | some ⟨.looking, true⟩ => s.replied i .finished s.feed
  | some ⟨.looking, false⟩ => s.moved i .receiving
  | some ⟨.receiving, _⟩ => s.replied i (s.feed.next false).1 (s.feed.next false).2
  | _ => s

/-- A call begins with looking at the flag. -/
def call (s : Supply) (i : Nat) : Supply :=
  match s.sources[i]? with
  | some ⟨.idle, _⟩ => s.moved i .looking
  | _ => s

def next (s : Supply) : Act → Supply
  | .send data => { s with feed := (s.feed.send data).2 }
  | .close => { s with feed := s.feed.close.2 }
  | .clone => { s with sources := s.sources ++ [{}] }
  | .cancel i =>
    { s with sources := s.sources.modify i fun source => { source with cancelled := true } }
  | .call i => s.call i
  | .step i => s.step i

def after (s : Supply) (acts : List Act) : Supply := acts.foldl next s

/-! ### Nothing is lost -/

/-- The chunks that calls returned. -/
def delivered (s : Supply) : List Bytes := s.returned.filterMap (·.chunk)

/-- What calls returned and what still is queued. -/
def content (s : Supply) : List Bytes := s.delivered ++ s.feed.chunks

/-- What a step of a source can do. -/
inductive Steps (s : Supply) (i : Nat) : Supply → Prop where
  /-- There is no call. -/
  | rests : Steps s i s
  | looks : s.sources[i]? = some ⟨.looking, false⟩ → Steps s i (s.moved i .receiving)
  | refused : s.sources[i]? = some ⟨.looking, true⟩ → Steps s i (s.replied i .finished s.feed)
  | takes {cancelled : Bool} {data : Bytes} {rest : List Bytes} :
      s.sources[i]? = some ⟨.receiving, cancelled⟩ → s.feed.chunks = data :: rest →
      Steps s i (s.replied i (.chunk data) { s.feed with chunks := rest })
  | ends {cancelled : Bool} :
      s.sources[i]? = some ⟨.receiving, cancelled⟩ → s.feed.chunks = [] → s.feed.closed = true →
      Steps s i (s.replied i .finished s.feed)
  | waits {cancelled : Bool} :
      s.sources[i]? = some ⟨.receiving, cancelled⟩ → s.feed.chunks = [] → s.feed.closed = false →
      Steps s i (s.replied i .pending s.feed)

theorem steps_step (s : Supply) (i : Nat) : s.Steps i (s.next (.step i)) := by
  show s.Steps i (s.step i)
  unfold step
  split
  · exact .refused ‹_›
  · exact .looks ‹_›
  · rename_i hsource
    unfold Feed.next
    cases hchunks : s.feed.chunks with
    | cons data rest => exact .takes hsource hchunks
    | nil =>
        cases hclosed : s.feed.closed with
        | true => exact .ends hsource hchunks hclosed
        | false => exact .waits hsource hchunks hclosed
  · exact .rests

/-- A step of a source takes from the queue what it returns. -/
theorem content_step (s : Supply) (i : Nat) :
    (s.next (.step i)).content = s.content ∧
      (s.next (.step i)).feed.closed = s.feed.closed := by
  have hsteps := s.steps_step i
  generalize s.next (.step i) = s' at hsteps
  unfold content delivered
  cases hsteps with
  | rests => exact ⟨rfl, rfl⟩
  | looks hsource => exact ⟨rfl, rfl⟩
  | refused hsource => exact ⟨by simp [replied, FeedReply.returned], rfl⟩
  | takes hsource hchunks => exact ⟨by simp [replied, FeedReply.returned, hchunks], rfl⟩
  | ends hsource hchunks hclosed => exact ⟨by simp [replied, FeedReply.returned], rfl⟩
  | waits hsource hchunks hclosed => exact ⟨by simp [replied, FeedReply.returned], rfl⟩

/-- A source that is idle can be called. -/
theorem call_idle {s : Supply} {i : Nat} {cancelled : Bool}
    (hi : s.sources[i]? = some ⟨.idle, cancelled⟩) : s.call i = s.moved i .looking := by
  unfold call
  rw [hi]

theorem call_eq (s : Supply) (i : Nat) : s.call i = s ∨ s.call i = s.moved i .looking := by
  unfold call
  split
  · exact .inr rfl
  · exact .inl rfl

/-- An act adds the chunk that it sends, unless the feed is closed, and nothing else. -/
theorem content_next (s : Supply) (a : Act) :
    (s.next a).content = s.content ++ (if s.feed.closed then [] else a.sends.toList) ∧
      (s.next a).feed.closed = (s.feed.closed || a.closes) := by
  have hquiet : s.content = s.content ++ (if s.feed.closed then [] else []) := by simp
  have hopen : s.feed.closed = (s.feed.closed || false) := (Bool.or_false _).symm
  cases a with
  | send data =>
      unfold content delivered
      dsimp only [next, Feed.send]
      cases hclosed : s.feed.closed with
      | true => simp [hclosed, Act.closes]
      | false => simp [Act.sends, Act.closes]
  | close => exact ⟨hquiet, (Bool.or_true _).symm⟩
  | clone => exact ⟨hquiet, hopen⟩
  | cancel i => exact ⟨hquiet, hopen⟩
  | call i =>
      rcases s.call_eq i with hcall | hcall
      · exact ⟨(congrArg content hcall).trans hquiet, (congrArg (·.feed.closed) hcall).trans hopen⟩
      · exact ⟨(congrArg content hcall).trans hquiet, (congrArg (·.feed.closed) hcall).trans hopen⟩
  | step i =>
      obtain ⟨hcontent, hclosed⟩ := s.content_step i
      exact ⟨hcontent.trans hquiet, hclosed.trans hopen⟩

theorem sentIn_cons (a : Act) (acts : List Act) :
    sentIn (a :: acts) = if a.closes then [] else a.sends.toList ++ sentIn acts := by
  unfold sentIn
  cases a <;> rfl

/-- A run adds what is sent before the feed is closed, and nothing else. -/
theorem content_after (s : Supply) (acts : List Act) :
    (s.after acts).content = s.content ++ (if s.feed.closed then [] else sentIn acts) := by
  induction acts generalizing s with
  | nil => simp [after, sentIn]
  | cons a acts ih =>
      obtain ⟨hcontent, hclosed⟩ := s.content_next a
      have hrest := ih (s.next a)
      rw [hcontent, hclosed] at hrest
      show ((s.next a).after acts).content = _
      rw [hrest, sentIn_cons, List.append_assoc]
      cases s.feed.closed with
      | true => rfl
      | false => cases a <;> rfl

/-! ### Single calls -/

theorem source?_moved {s : Supply} {i : Nat} {source : Source}
    (hi : s.sources[i]? = some source) (stage : Source.Stage) :
    (s.moved i stage).sources[i]? = some { source with stage } := by
  unfold moved
  rw [List.getElem?_modify_eq, hi]
  rfl

theorem replied_moved (s : Supply) (i : Nat) (stage : Source.Stage) (reply : FeedReply) (feed : Feed) :
    (s.moved i stage).replied i reply feed = s.replied i reply feed := by
  unfold replied moved
  rw [List.modify_modify_eq]
  rfl

theorem step_looking {s : Supply} {i : Nat} (hi : s.sources[i]? = some ⟨.looking, false⟩) :
    s.next (.step i) = s.moved i .receiving := by
  show s.step i = _
  unfold step
  rw [hi]

theorem step_refused {s : Supply} {i : Nat} (hi : s.sources[i]? = some ⟨.looking, true⟩) :
    s.next (.step i) = s.replied i .finished s.feed := by
  show s.step i = _
  unfold step
  rw [hi]

theorem step_receiving {s : Supply} {i : Nat} {cancelled : Bool}
    (hi : s.sources[i]? = some ⟨.receiving, cancelled⟩) :
    s.next (.step i) = s.replied i (s.feed.next false).1 (s.feed.next false).2 := by
  show s.step i = _
  unfold step
  rw [hi]

theorem step_idle {s : Supply} {i : Nat} {cancelled : Bool}
    (hi : s.sources[i]? = some ⟨.idle, cancelled⟩) : s.next (.step i) = s := by
  show s.step i = _
  unfold step
  rw [hi]

/-- **A source that is not interrupted asks its feed once**, as one that may be cancelled. -/
theorem polls {s : Supply} {i : Nat} {cancelled : Bool}
    (hi : s.sources[i]? = some ⟨.looking, cancelled⟩) :
    s.after [.step i, .step i] =
      s.replied i (s.feed.next cancelled).1 (s.feed.next cancelled).2 := by
  show (s.next (.step i)).next (.step i) = _
  cases cancelled with
  | true =>
      have hidle : (s.replied i .finished s.feed).sources[i]? = some ⟨.idle, true⟩ :=
        source?_moved hi .idle
      rw [step_refused hi, step_idle hidle]
      rfl
  | false =>
      rw [step_looking hi, step_receiving (source?_moved hi .receiving)]
      exact s.replied_moved i .receiving _ _

/-- **A worker that asks for a chunk does in one step what a source does in two**: it gets the same
reply, and leaves the same feed. -/
theorem asks {σ : Type} [Channel σ] {s : Supply} {i : Nat} {cancelled : Bool}
    (hi : s.sources[i]? = some ⟨.looking, cancelled⟩) (handle : Handle) (sender : Sender) (key : UInt8)
    (suspended : Bool) {around : Surroundings σ} (hfeed : around.depot.feed key = s.feed) :
    let w : Worker := { handle, duty := .sending sender key .asking, cancelled }
    let t := w.step suspended around
    let s' := s.after [.step i, .step i]
    t.around.depot.feed key = s'.feed ∧ ∃ reply : FeedReply,
      s'.returned = s.returned ++ reply.returned i ∧
      t.worker.duty = .sending sender key (match reply with
        | .chunk data => Sender.following (pieces sender.limit data)
        | .finished => .leaving .sourceDone
        | .pending => .asking) := by
  intro w t s'
  have hs' : s' = _ := polls hi
  obtain ⟨depot, hnext, hleft⟩ := around.depot.next_eq key cancelled
  rw [hfeed] at hnext hleft
  have ht : t = w.step suspended around := rfl
  unfold Worker.step Sender.step Worker.senderLink at ht
  dsimp only [w] at ht
  rw [hnext] at ht
  rw [hs']
  rcases hreply : s.feed.next cancelled with ⟨reply, feed⟩
  rw [hreply] at ht hleft
  cases reply with
  | chunk data =>
      rw [ht]
      exact ⟨hleft, .chunk data, rfl, rfl⟩
  | finished =>
      rw [ht]
      exact ⟨hleft, .finished, rfl, rfl⟩
  | pending =>
      rw [ht]
      exact ⟨hleft, .pending, rfl, rfl⟩

/-- Nothing but a step of its own gets a cancelled source on that looks at its flag. -/
theorem looking_next {s : Supply} {i : Nat} (hi : s.sources[i]? = some ⟨.looking, true⟩) {a : Act}
    (ha : a ≠ .step i) : (s.next a).sources[i]? = some ⟨.looking, true⟩ := by
  have hmoved : ∀ j stage, j ≠ i → (s.moved j stage).sources[i]? = some ⟨.looking, true⟩ := by
    intro j stage hj
    show (s.sources.modify j _)[i]? = _
    rw [List.getElem?_modify_ne _ _ hj, hi]
  cases a with
  | send data => exact hi
  | close => exact hi
  | clone =>
      show (s.sources ++ [({} : Source)])[i]? = _
      rw [List.getElem?_append_left (List.getElem?_eq_some_iff.mp hi).1, hi]
  | cancel j =>
      show (s.sources.modify j _)[i]? = _
      rw [List.getElem?_modify, hi]
      split <;> rfl
  | call j =>
      show (s.call j).sources[i]? = _
      by_cases hj : j = i
      · subst hj
        unfold call
        rw [hi]
        exact hi
      · rcases s.call_eq j with hcall | hcall
        · rw [hcall, hi]
        · rw [hcall]
          exact hmoved j .looking hj
  | step j =>
      have hj : j ≠ i := fun h => ha (congrArg Act.step h)
      have hsteps := s.steps_step j
      generalize s.next (.step j) = s' at hsteps
      cases hsteps with
      | rests => exact hi
      | looks _ => exact hmoved j _ hj
      | refused _ => exact hmoved j _ hj
      | takes _ _ => exact hmoved j _ hj
      | ends _ _ _ => exact hmoved j _ hj
      | waits _ _ _ => exact hmoved j _ hj

theorem looking_after {s : Supply} {i : Nat} (hi : s.sources[i]? = some ⟨.looking, true⟩)
    {acts : List Act} (hacts : ∀ a ∈ acts, a ≠ .step i) :
    (s.after acts).sources[i]? = some ⟨.looking, true⟩ := by
  induction acts generalizing s with
  | nil => exact hi
  | cons a acts ih =>
      obtain ⟨ha, hrest⟩ := List.forall_mem_cons.mp hacts
      exact ih (looking_next hi ha) hrest

/-- A step returns nothing on behalf of a source that is not cancelled only when all was returned that
was sent. -/
theorem feed_of_finished {s : Supply} {i : Nat} {stage : Source.Stage}
    (hi : s.sources[i]? = some ⟨stage, false⟩)
    (hreturned : (s.next (.step i)).returned = s.returned ++ [⟨i, none⟩]) :
    s.feed.closed = true ∧ s.feed.chunks = [] := by
  have hsteps := s.steps_step i
  generalize s.next (.step i) = s' at hsteps hreturned
  have hsame : ∀ reply feed, (s.replied i reply feed).returned = s.returned ++ [⟨i, none⟩] →
      reply = .finished := by
    intro reply feed h
    have hlast := List.append_cancel_left h
    cases reply with
    | finished => rfl
    | chunk data => cases hlast
    | pending => cases hlast
  cases hsteps with
  | rests => simp at hreturned
  | looks _ => simp [moved] at hreturned
  | refused hsource =>
      rw [hi] at hsource
      cases hsource
  | takes _ _ => cases hsame _ _ hreturned
  | ends _ hchunks hclosed => exact ⟨hclosed, hchunks⟩
  | waits _ _ _ => cases hsame _ _ hreturned

/-- A call that is not interrupted. -/
theorem after_call {s : Supply} {i : Nat} {cancelled : Bool}
    (hi : s.sources[i]? = some ⟨.idle, cancelled⟩) :
    s.after [.call i, .step i, .step i] =
      s.replied i (s.feed.next cancelled).1 (s.feed.next cancelled).2 := by
  show (s.call i).after [.step i, .step i] = _
  rw [call_idle hi, polls (source?_moved hi .looking)]
  exact s.replied_moved i .looking _ _

/-- One uninterrupted call after another. -/
def calls (i n : Nat) : List Act := (List.replicate n [.call i, .step i, .step i]).flatten

theorem after_calls_succ (s : Supply) (i n : Nat) :
    s.after (calls i (n + 1)) = (s.after [.call i, .step i, .step i]).after (calls i n) := rfl

/-- A source that is called again and again takes what is left in a closed feed, and is told then that
there is no more. -/
theorem returned_calls {s : Supply} {i : Nat} {chunks : List Bytes}
    (hi : s.sources[i]? = some ⟨.idle, false⟩) (hfeed : s.feed = ⟨chunks, true⟩) :
    (s.after (calls i (chunks.length + 1))).returned =
      s.returned ++ chunks.map (fun data => ⟨i, some data⟩) ++ [⟨i, none⟩] := by
  induction chunks generalizing s with
  | nil =>
      rw [after_calls_succ, after_call hi, hfeed]
      exact congrArg (· ++ _) (List.append_nil _).symm
  | cons data rest ih =>
      have htaken : (s.replied i (.chunk data) ⟨rest, true⟩).sources[i]? = some ⟨.idle, false⟩ :=
        source?_moved hi .idle
      have hcall : s.after [.call i, .step i, .step i] = s.replied i (.chunk data) ⟨rest, true⟩ := by
        rw [after_call hi, hfeed]
        rfl
      rw [List.length_cons, after_calls_succ, hcall, ih htaken rfl]
      simp [replied, FeedReply.returned]

/-- What is so of a supply into which so much was sent. -/
structure Faithful (s : Supply) (sent : List Bytes) : Prop where
  /-- What was returned, in order, and what is still queued is what was sent. -/
  conserved : s.delivered ++ s.feed.chunks = sent
  /-- A call of a source that is cancelled returns nothing with its first step, whatever else happens
  before that, and takes nothing. -/
  refused {i : Nat} {acts : List Act} : s.sources[i]? = some ⟨.idle, true⟩ →
    (∀ a ∈ acts, a ≠ .step i) →
    let s' := s.after (.call i :: acts)
    (s'.next (.step i)).returned = s'.returned ++ [⟨i, none⟩] ∧ (s'.next (.step i)).feed = s'.feed
  /-- A source that is not cancelled returns nothing only when the feed is closed, and all that was sent
  was delivered. -/
  finished {i : Nat} {stage : Source.Stage} : s.sources[i]? = some ⟨stage, false⟩ →
    (s.next (.step i)).returned = s.returned ++ [⟨i, none⟩] →
    s.feed.closed = true ∧ s.feed.chunks = [] ∧ s.delivered = sent
  /-- What is left in a closed feed still is delivered. -/
  drained {i : Nat} : s.sources[i]? = some ⟨.idle, false⟩ → s.feed.closed = true →
    (s.after (calls i (s.feed.chunks.length + 1))).returned =
      s.returned ++ s.feed.chunks.map (fun data => ⟨i, some data⟩) ++ [⟨i, none⟩]

theorem faithful_of_content {s : Supply} {sent : List Bytes} (h : s.content = sent) :
    s.Faithful sent := by
  refine ⟨h, ?refused, ?finished, ?drained⟩
  case refused =>
    intro i acts hi hacts s'
    have hlooking : (s.call i).sources[i]? = some ⟨.looking, true⟩ := by
      rw [call_idle hi]
      exact source?_moved hi .looking
    have hs' : s'.sources[i]? = some ⟨.looking, true⟩ := looking_after hlooking hacts
    rw [step_refused hs']
    exact ⟨rfl, rfl⟩
  case finished =>
    intro i stage hi hreturned
    obtain ⟨hclosed, hchunks⟩ := feed_of_finished hi hreturned
    have hall : s.delivered ++ s.feed.chunks = sent := h
    rw [hchunks, List.append_nil] at hall
    exact ⟨hclosed, hchunks, hall⟩
  case drained =>
    intro i hi hclosed
    exact returned_calls hi (congrArg (Feed.mk s.feed.chunks) hclosed)

/-- **A feed loses nothing, duplicates nothing and keeps the order**, however many sources share it. -/
theorem supplies_all (acts : List Act) : (Supply.after {} acts).Faithful (sentIn acts) :=
  faithful_of_content (content_after {} acts)

/-- A source is cancelled while it waits, another one takes what is left. -/
example :
    let acts : List Act := [.clone, .send [1], .send [2], .call 0, .step 0, .step 0, .call 0, .step 0,
      .cancel 0, .step 0, .call 0, .step 0, .clone, .send [3], .close, .send [4]]
    let s := (Supply.after {} acts).after (calls 1 2)
    s.returned = [⟨0, some [1]⟩, ⟨0, some [2]⟩, ⟨0, none⟩, ⟨1, some [3]⟩, ⟨1, none⟩] := by decide

end Supply

end UsbPeripheral
