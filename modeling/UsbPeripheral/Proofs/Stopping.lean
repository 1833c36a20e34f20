import Mathlib.Data.List.Basic
import UsbPeripheral.Proofs.Deeds

/-! # A cancelled worker stops

A worker is cancelled between two of its steps, anywhere.  From then on every step finds the flag set.
Beyond that nothing is known of what a step finds: a **moment** is the flags and the surroundings as
they are when a step is made, and a worker goes through any moments whatever.

A cancelled worker **winds up**.  A sender that was waiting for its source may hear from it, or one
that was about to write makes that write, and it does nothing else (`Sender.WindsUp`).  A receiver may
finish one read, and hand over what it has (`Receiver.WindsUp`).  Then the worker ends, and says that
it was cancelled (`Worker.stops_when_cancelled`).

Senders and receivers are two kinds of one **machine** (`Machine`).  All that matters of a stage is its
**standing**: whether the worker has ended, looks at its flag next, or calls somebody before it looks
(`Standing`).  A worker that does not call anybody ends at once (`Machine.foldl_halt`). -/

namespace UsbPeripheral

/-- What a worker finds when it makes a step. -/
structure Moment (ω : Type) where
  cancelled : Bool
  suspended : Bool
  world : ω

variable {ω : Type}

/-- Where a worker stands with regard to its flag. -/
inductive Standing where
  /-- It looks at the flag next. -/
  | alert
  /-- It calls somebody before it looks. -/
  | busy
  | ended (exit : Exit)
  deriving DecidableEq, Repr

namespace Standing

/-- How a cancelled worker ends that does not call anybody before. -/
def halt? : Standing → Option Exit
  | .alert => some .cancelled
  | .busy => none
  | .ended exit => some exit

theorem cancelled_or_ended {s : Standing} {exit : Exit} (h : s.halt? = some exit) :
    exit = .cancelled ∨ s = .ended exit := by
  cases s with
  | alert => exact .inl (Option.some.inj h).symm
  | busy => cases h
  | ended other => exact .inr (congrArg _ (Option.some.inj h))

end Standing

/-- A kind of worker.  A course is how far a worker got, and what it has besides its stage. -/
structure Machine (ω Course Stage : Type) where
  meet : Course → Moment ω → Course
  put : Course → Stage → Course
  ended : Exit → Stage
  standing : Stage → Standing
  standing_eq_ended : ∀ {stage exit}, standing stage = .ended exit ↔ stage = ended exit
  /-- A cancelled worker that does not call anybody ends, and does nothing else. -/
  meet_halt : ∀ {stage m exit} (c : Course), m.cancelled = true →
    (standing stage).halt? = some exit → meet (put c stage) m = put c (ended exit)

namespace Machine

variable {Course Stage : Type} (M : Machine ω Course Stage) {stage : Stage} {exit : Exit}

theorem halt?_ended (exit : Exit) : (M.standing (M.ended exit)).halt? = some exit := by
  rw [M.standing_eq_ended.mpr rfl, Standing.halt?]

theorem cancelled_or_ended (h : (M.standing stage).halt? = some exit) :
    exit = .cancelled ∨ stage = M.ended exit :=
  (Standing.cancelled_or_ended h).imp_right M.standing_eq_ended.mp

variable {moments : List (Moment ω)} (hmoments : ∀ m ∈ moments, m.cancelled = true)
include hmoments

/-- A worker that has ended stays as it is. -/
theorem foldl_ended (c : Course) (exit : Exit) :
    moments.foldl M.meet (M.put c (M.ended exit)) = M.put c (M.ended exit) := by
  induction moments with
  | nil => rfl
  | cons m moments ih =>
      obtain ⟨hm, hothers⟩ := List.forall_mem_cons.mp hmoments
      rw [List.foldl_cons, M.meet_halt c hm (M.halt?_ended exit)]
      exact ih hothers

/-- A cancelled worker that does not call anybody does nothing more, and ends in one step. -/
theorem foldl_halt (c : Course) (stage : Stage) (h : (M.standing stage).halt? = some exit) :
    ∃ final, moments.foldl M.meet (M.put c stage) = M.put c final ∧
      (∀ e, final = M.ended e → e = exit) ∧ (0 < moments.length → ∃ e, final = M.ended e) := by
  have hsame : ∀ e, M.ended e = M.ended exit → e = exit := fun e he => by
    have hhalt := M.halt?_ended e
    rw [he, M.halt?_ended] at hhalt
    exact (Option.some.inj hhalt).symm
  cases moments with
  | nil =>
      refine ⟨stage, rfl, ?_, nofun⟩
      rintro e rfl
      rw [M.halt?_ended] at h
      exact Option.some.inj h
  | cons m moments =>
      obtain ⟨hm, hothers⟩ := List.forall_mem_cons.mp hmoments
      refine ⟨M.ended exit, ?_, fun e he => hsame e he.symm, fun _ => ⟨exit, rfl⟩⟩
      rw [List.foldl_cons, M.meet_halt c hm h, M.foldl_ended hothers]

end Machine

/-! ### Senders -/

namespace Sender

/-- How far a sender got, and what it did. -/
structure Course where
  stage : Stage := .idle
  log : List Deed := []

/-- One step of a sender. -/
def meet (s : Sender) (link : Link ω) (c : Course) (m : Moment ω) : Course :=
  let t := s.step link.logged m.cancelled m.suspended c.stage (m.world, c.log)
  { stage := t.stage, log := t.world.2 }

/-- A sender calls its source and its endpoint. -/
def Stage.standing : Stage → Standing
  | .asking | .writing _ _ _ => .busy
  | .ended exit => .ended exit
  | _ => .alert

/-- What a sender does from the stage in which it was cancelled. -/
structure WindsUp (stage : Stage) (steps : Nat) (final : Stage) (deeds : List Deed) : Prop where
  /-- It waits for its source if it was asking, and then does at most one thing more.  It ends two
  steps after it stopped waiting. -/
  promptly : ∃ (waits : Nat) (last : Option Deed),
    deeds = List.replicate waits (.asked .pending) ++ last.toList ∧
      (waits + 2 ≤ steps → ∃ exit, final = .ended exit)
  exit : ∀ exit, final = .ended exit → exit = .cancelled ∨ stage = .ended exit

section steps

variable (s : Sender) (link : Link ω) {c : Course}

/-- Senders as a kind of worker. -/
abbrev machine : Machine ω Course Stage where
  meet := s.meet link
  put c stage := { c with stage }
  ended := .ended
  standing := Stage.standing
  standing_eq_ended {stage exit} := by cases stage <;> simp [Stage.standing]
  meet_halt {stage m exit} c hm h := by
    cases stage with
    | asking | writing _ _ _ => cases h
    | ended exit =>
        obtain rfl := Option.some.inj h
        rfl
    | _ =>
        obtain rfl := Option.some.inj h
        simp only [meet, step, hm]
        rfl

theorem standing_following (rest : List Bytes) : (following rest).standing = .alert := by
  cases rest <;> rfl

/-- A cancelled sender that does something waits, or it looks at its flag next. -/
theorem meet_acts (m : Moment ω) (h : c.stage.standing.halt? = none) :
    s.meet link c m = { c with log := c.log ++ [.asked .pending] } ∨
      ∃ stage deed, s.meet link c m = ⟨stage, c.log ++ [deed]⟩ ∧ stage.standing = .alert := by
  obtain ⟨stage, log⟩ := c
  cases stage with
  | asking =>
      rcases hnext : link.next m.cancelled m.world with ⟨reply, world⟩
      cases reply with
      | pending =>
          left
          simp only [meet, step, Link.logged, hnext]
      | chunk data =>
          right
          refine ⟨following (pieces s.limit data), .asked (.chunk data), ?_, standing_following _⟩
          simp only [meet, step, Link.logged, hnext]
      | finished =>
          right
          refine ⟨.leaving .sourceDone, .asked .finished, ?_, rfl⟩
          simp only [meet, step, Link.logged, hnext]
  | writing piece rest failures =>
      right
      rcases hwrite : link.write piece m.world with ⟨result, world⟩
      rcases result with (errno | errno) | count
      · refine ⟨.leaving .invalidated, .wrote piece (.error (.invalidated errno)), ?_, rfl⟩
        simp only [meet, step, Link.logged, hwrite]
      · refine ⟨if errno = .eintr then .ready piece rest failures
            else .failed piece rest failures errno, .wrote piece (.error (.failed errno)), ?_, ?_⟩
        · simp only [meet, step, Link.logged, hwrite]
          split <;> rfl
        · split <;> rfl
      · refine ⟨following rest, .wrote piece (.ok count), ?_, standing_following _⟩
        simp only [meet, step, Link.logged, hwrite]
  | _ => cases h

/-- A sender that is cancelled, in any stage, winds up. -/
theorem windsUp {moments : List (Moment ω)} (hmoments : ∀ m ∈ moments, m.cancelled = true)
    (c : Course) :
    ∃ deeds, (moments.foldl (s.meet link) c).log = c.log ++ deeds ∧
      WindsUp c.stage moments.length (moments.foldl (s.meet link) c).stage deeds := by
  induction moments generalizing c with
  | nil => exact ⟨[], (List.append_nil _).symm, ⟨0, none, rfl, nofun⟩, fun exit h => .inr h⟩
  | cons m moments ih =>
      have hothers := (List.forall_mem_cons.mp hmoments).2
      cases hhalt : c.stage.standing.halt? with
      | none =>
        rw [List.foldl_cons]
        rcases meet_acts s link m hhalt with hwaits | ⟨stage, deed, hdeed, halert⟩
        · obtain ⟨deeds, hlog, ⟨waits, last, rfl, hend⟩, hexit⟩ :=
            ih hothers { c with log := c.log ++ [.asked .pending] }
          rw [hwaits, hlog]
          refine ⟨.asked .pending :: (List.replicate waits (.asked .pending) ++ last.toList),
            (List.append_cons _ _ _).symm, ⟨waits + 1, last, rfl, fun h => hend ?_⟩, hexit⟩
          rw [List.length_cons] at h
          omega
        · obtain ⟨final, hfold, hexit, hend⟩ :=
            (machine s link).foldl_halt hothers ⟨stage, c.log ++ [deed]⟩ stage
              (congrArg Standing.halt? halert)
          rw [hdeed, hfold]
          exact ⟨[deed], rfl, ⟨0, some deed, rfl, fun h => hend (Nat.lt_of_succ_lt_succ h)⟩,
            fun exit h => .inl (hexit exit h)⟩
      | some halt =>
        obtain ⟨final, hfold, hexit, hend⟩ := (machine s link).foldl_halt hmoments c _ hhalt
        rw [hfold]
        refine ⟨[], (List.append_nil _).symm, ⟨0, none, rfl, fun _ => hend (Nat.succ_pos _)⟩,
          fun exit h => ?_⟩
        obtain rfl := hexit exit h
        exact (machine s link).cancelled_or_ended hhalt

end steps

end Sender

/-! ### Receivers -/

namespace Receiver

/-- How far a receiver got, and what it did. -/
structure Course where
  stage : Stage := .idle
  buffer : Bytes := []
  log : List Deed := []

/-- One step of a receiver. -/
def meet (r : Receiver) (link : Link ω) (c : Course) (m : Moment ω) : Course :=
  let t := r.step link.logged m.cancelled m.suspended c.stage c.buffer (m.world, c.log)
  { stage := t.stage, buffer := t.buffer, log := t.world.2 }

/-- A receiver calls its endpoint and its consumer. -/
def Stage.standing : Stage → Standing
  | .reading _ | .delivering _ => .busy
  | .ended exit => .ended exit
  | _ => .alert

/-- The steps of one read. -/
def readSteps : (resumed : Bool) → List ReadReply → List Deed
  | _, [] => []
  | resumed, reply :: replies => .read resumed reply :: readSteps true replies

/-- The steps of a read that waits some time and then may come to an end. -/
def reading (resumed : Bool) (waits : Nat) (last : Option (Except TransferError Received)) :
    List Deed :=
  readSteps resumed (List.replicate waits .waiting ++ (last.map ReadReply.finished).toList)

/-- Handing something over, if there is something. -/
def handing (handed : Option (Bytes × Bool)) : List Deed :=
  (handed.map fun d => Deed.delivered d.1 d.2).toList

/-- What breaks a receiver down. -/
inductive Breaks (limit : Nat) (stage : Stage) (deeds : List Deed) : Prop
  | consumer {data : Bytes} : .delivered data false ∈ deeds → Breaks limit stage deeds
  /-- A transfer was reported to be larger than the buffer. -/
  | transfer {resumed : Bool} {received : Received} :
      .read resumed (.finished (.ok received)) ∈ deeds → limit < received.count →
      Breaks limit stage deeds
  /-- Such a transfer was in hand already. -/
  | inHand {count : Nat} : stage = .delivering count → limit < count → Breaks limit stage deeds

/-- What a receiver does from the stage in which it was cancelled. -/
structure WindsUp (limit : Nat) (stage : Stage) (steps : Nat) (final : Stage)
    (deeds : List Deed) : Prop where
  /-- It comes to the end of one read at most, hands over once at most, and ends three steps after it
  stopped waiting. -/
  promptly : ∃ (resumed : Bool) (waits : Nat) (last : Option (Except TransferError Received))
    (handed : Option (Bytes × Bool)),
    deeds = reading resumed waits last ++ handing handed ∧
      (waits + 3 ≤ steps → ∃ exit, final = .ended exit)
  exit : ∀ exit, final = .ended exit → exit = .cancelled ∨ stage = .ended exit ∨
    exit = .panicked ∧ Breaks limit stage deeds

section steps

variable (r : Receiver) (link : Link ω)

/-- Receivers as a kind of worker. -/
abbrev machine : Machine ω Course Stage where
  meet := r.meet link
  put c stage := { c with stage }
  ended := .ended
  standing := Stage.standing
  standing_eq_ended {stage exit} := by cases stage <;> simp [Stage.standing]
  meet_halt {stage m exit} c hm h := by
    cases stage with
    | reading _ | delivering _ => cases h
    | ended exit =>
        obtain rfl := Option.some.inj h
        rfl
    | _ =>
        obtain rfl := Option.some.inj h
        simp only [meet, step, hm]
        rfl

/-- A transfer in hand is handed over, if it is no larger than it may be. -/
theorem meet_delivering (count : Nat) (buffer : Bytes) (log : List Deed) (m : Moment ω) :
    ∃ stage handed exit, r.meet link ⟨.delivering count, buffer, log⟩ m =
        ⟨stage, buffer, log ++ handing handed⟩ ∧ stage.standing.halt? = some exit ∧
      (exit = .cancelled ∨ exit = .panicked ∧
        (r.limit < count ∨ ∃ data, handed = some (data, false))) := by
  by_cases hcount : count ≤ r.limit
  · rcases hdeliver : link.deliver (Bytes.fitted count buffer) m.world with ⟨working, notes, world⟩
    have hmeet : r.meet link ⟨.delivering count, buffer, log⟩ m =
        ⟨if working then .idle else .ended .panicked, buffer,
          log ++ handing (some (Bytes.fitted count buffer, working))⟩ := by
      simp only [meet, step, Link.logged, hcount, if_true, hdeliver]
      rfl
    refine ⟨_, _, if working then .cancelled else .panicked, hmeet, ?_⟩
    cases working with
    | true => exact ⟨rfl, .inl rfl⟩
    | false => exact ⟨rfl, .inr ⟨rfl, .inr ⟨_, rfl⟩⟩⟩
  · refine ⟨.ended .panicked, none, .panicked, ?_, rfl, .inr ⟨rfl, .inl (Nat.not_le.mp hcount)⟩⟩
    simp only [meet, step, hcount, if_false]
    exact congrArg _ (List.append_nil _).symm

theorem foldl_delivering {moments : List (Moment ω)}
    (hmoments : ∀ m ∈ moments, m.cancelled = true) (count : Nat) (buffer : Bytes)
    (log : List Deed) :
    ∃ handed final, moments.foldl (r.meet link) ⟨.delivering count, buffer, log⟩ =
        ⟨final, buffer, log ++ handing handed⟩ ∧
      (∀ exit, final = .ended exit → exit = .cancelled ∨ exit = .panicked ∧
        (r.limit < count ∨ ∃ data, handed = some (data, false))) ∧
      (1 < moments.length → ∃ exit, final = .ended exit) := by
  cases moments with
  | nil =>
      exact ⟨none, .delivering count, congrArg (Course.mk _ _) (List.append_nil log).symm, nofun,
        nofun⟩
  | cons m moments =>
      obtain ⟨stage, handed, halt, hmeet, hhalt, hwhy⟩ := meet_delivering r link count buffer log m
      obtain ⟨final, hfold, hexit, hend⟩ :=
        (machine r link).foldl_halt (List.forall_mem_cons.mp hmoments).2
          ⟨stage, buffer, log ++ handing handed⟩ stage hhalt
      refine ⟨handed, final, ?_, fun exit h => ?_, fun h => hend (Nat.lt_of_succ_lt_succ h)⟩
      · rw [List.foldl_cons, hmeet]
        exact hfold
      · rw [hexit exit h]
        exact hwhy

theorem meet_reading (resumed : Bool) (buffer : Bytes) (log : List Deed) (m : Moment ω) :
    r.meet link ⟨.reading resumed, buffer, log⟩ m =
      let reply := (link.read resumed r.limit m.world).1
      let log := log ++ [.read resumed reply]
      match reply with
      | .waiting => ⟨.reading true, buffer, log⟩
      | .finished (.error error) => ⟨.failed error, buffer, log⟩
      | .finished (.ok received) =>
          ⟨.delivering received.count, Bytes.overlay received.data buffer, log⟩ := by
  rcases hread : link.read resumed r.limit m.world with ⟨_ | _ | _, world⟩
  all_goals simp only [meet, step, Link.logged, hread]

/-- A receiver that reads comes to the end of this read at most, and hands over what it has. -/
theorem foldl_reading {moments : List (Moment ω)}
    (hmoments : ∀ m ∈ moments, m.cancelled = true) (resumed : Bool) (buffer : Bytes)
    (log : List Deed) :
    ∃ waits last handed final after, moments.foldl (r.meet link) ⟨.reading resumed, buffer, log⟩ =
        ⟨final, after, log ++ (reading resumed waits last ++ handing handed)⟩ ∧
      (∀ exit, final = .ended exit → exit = .cancelled ∨ exit = .panicked ∧
        ((∃ received, last = some (.ok received) ∧ r.limit < received.count) ∨
          ∃ data, handed = some (data, false))) ∧
      (waits + 2 < moments.length → ∃ exit, final = .ended exit) := by
  induction moments generalizing resumed log with
  | nil =>
      exact ⟨0, none, none, .reading resumed, buffer,
        congrArg (Course.mk _ _) (List.append_nil log).symm, nofun, nofun⟩
  | cons m moments ih =>
      have hothers := (List.forall_mem_cons.mp hmoments).2
      rw [List.foldl_cons, meet_reading]
      generalize (link.read resumed r.limit m.world).1 = reply
      match reply with
      | .waiting =>
          -- the read that goes on is the same read, so the steps of both are one read
          obtain ⟨waits, last, handed, final, after, hfold, hexit, hend⟩ :=
            ih hothers true (log ++ [.read resumed .waiting])
          refine ⟨waits + 1, last, handed, final, after, ?_, hexit, fun h => hend ?_⟩
          · rw [← List.append_cons] at hfold
            exact hfold
          · rw [List.length_cons] at h
            omega
      | .finished (.error error) =>
          let c : Course := ⟨.failed error, buffer, log ++ reading resumed 0 (some (.error error))⟩
          obtain ⟨final, hfold, hexit, hend⟩ :=
            (machine r link).foldl_halt hothers c (.failed error) rfl
          exact ⟨0, some (.error error), none, final, buffer, hfold,
            fun exit h => .inl (hexit exit h),
            fun h => hend (Nat.lt_of_succ_lt (Nat.lt_of_succ_lt_succ h))⟩
      | .finished (.ok received) =>
          obtain ⟨handed, final, hfold, hexit, hend⟩ :=
            foldl_delivering r link hothers received.count (Bytes.overlay received.data buffer)
              (log ++ reading resumed 0 (some (.ok received)))
          refine ⟨0, some (.ok received), handed, final, Bytes.overlay received.data buffer, ?_,
            fun exit h => ?_, fun h => hend (Nat.lt_of_succ_lt_succ h)⟩
          · rw [← List.append_assoc]
            exact hfold
          · exact (hexit exit h).imp_right
              (.imp_right (.imp_left fun hlimit => ⟨received, rfl, hlimit⟩))

theorem mem_reading (resumed : Bool) (waits : Nat) (result : Except TransferError Received) :
    ∃ resumed', Deed.read resumed' (.finished result) ∈ reading resumed waits (some result) := by
  induction waits generalizing resumed with
  | zero => exact ⟨resumed, List.mem_cons_self⟩
  | succ waits ih =>
      obtain ⟨resumed', h⟩ := ih true
      exact ⟨resumed', List.mem_cons_of_mem _ h⟩

/-- A receiver that is cancelled, in any stage, winds up. -/
theorem windsUp {moments : List (Moment ω)} (hmoments : ∀ m ∈ moments, m.cancelled = true)
    (c : Course) :
    ∃ deeds, (moments.foldl (r.meet link) c).log = c.log ++ deeds ∧
      WindsUp r.limit c.stage moments.length (moments.foldl (r.meet link) c).stage deeds := by
  obtain ⟨stage, buffer, log⟩ := c
  cases hhalt : stage.standing.halt? with
  | some halt =>
    obtain ⟨final, hfold, hexit, hend⟩ :=
      (machine r link).foldl_halt hmoments ⟨stage, buffer, log⟩ stage hhalt
    rw [hfold]
    refine ⟨[], (List.append_nil _).symm, ⟨false, 0, none, none, rfl, fun h => hend (by omega)⟩,
      fun exit h => ?_⟩
    obtain rfl := hexit exit h
    exact ((machine r link).cancelled_or_ended hhalt).imp_right .inl
  | none =>
    cases stage with
    | reading resumed =>
        obtain ⟨waits, last, handed, final, after, hfold, hexit, hend⟩ :=
          foldl_reading r link hmoments resumed buffer log
        rw [hfold]
        refine ⟨_, rfl, ⟨resumed, waits, last, handed, rfl, hend⟩, fun exit h => ?_⟩
        refine (hexit exit h).imp_right fun ⟨hpanicked, hbreaks⟩ => .inr ⟨hpanicked, ?_⟩
        rcases hbreaks with ⟨received, rfl, hlimit⟩ | ⟨data, rfl⟩
        · obtain ⟨resumed', hmem⟩ := mem_reading resumed waits (.ok received)
          exact .transfer (List.mem_append_left _ hmem) hlimit
        · exact .consumer (List.mem_append_right _ List.mem_cons_self)
    | delivering count =>
        obtain ⟨handed, final, hfold, hexit, hend⟩ :=
          foldl_delivering r link hmoments count buffer log
        rw [hfold]
        refine ⟨_, rfl, ⟨false, 0, none, handed, rfl, fun h => hend (by omega)⟩, fun exit h => ?_⟩
        refine (hexit exit h).imp_right fun ⟨hpanicked, hbreaks⟩ => .inr ⟨hpanicked, ?_⟩
        rcases hbreaks with hlimit | ⟨data, rfl⟩
        · exact .inHand rfl hlimit
        · exact .consumer List.mem_cons_self
    | _ => cases hhalt

end steps

end Receiver

/-! ### Workers -/

/-- **A cancelled worker stops.**  A worker that is cancelled, anywhere in its work, winds up: it calls
its source once more at most, or writes once more at most, or reads once more at most and hands over
once more at most; it ends as soon as this is done, and says that it was cancelled, unless it had
ended before or breaks down.  What comes before the cancelling, and what a step finds at any moment, is
not restricted. -/
theorem Worker.stops_when_cancelled {after : List (Moment ω)}
    (hafter : ∀ m ∈ after, m.cancelled = true) (before : List (Moment ω)) :
    (∀ (s : Sender) (link : Sender.Link ω) (c : Sender.Course),
      let halfway := before.foldl (s.meet link) c
      let final := after.foldl (s.meet link) halfway
      ∃ deeds, final.log = halfway.log ++ deeds ∧
        Sender.WindsUp halfway.stage after.length final.stage deeds) ∧
    (∀ (r : Receiver) (link : Receiver.Link ω) (c : Receiver.Course),
      let halfway := before.foldl (r.meet link) c
      let final := after.foldl (r.meet link) halfway
      ∃ deeds, final.log = halfway.log ++ deeds ∧
        Receiver.WindsUp r.limit halfway.stage after.length final.stage deeds) := by
  constructor
  · intro s link c halfway final
    exact Sender.windsUp s link hafter halfway
  · intro r link c halfway final
    exact Receiver.windsUp r link hafter halfway

/-- A moment at which a read brings one byte, and a write finds the endpoint gone. -/
def lateMoment (cancelled : Bool) : Moment (ReadReply × Except TransferError Nat) :=
  ⟨cancelled, false, .finished (.ok ⟨[7], 1⟩), .error (.invalidated .eshutdown)⟩

/-- Of two workers that are cancelled just before they write and read, the sender does not report that
its endpoint went away, and the receiver hands over what it read. -/
theorem late_stops :
    let after := List.replicate 3 (lateMoment true)
    (∀ m ∈ after, m.cancelled = true) ∧
      Sender.WindsUp (.writing [1] [] 0) after.length (.ended .cancelled)
        [.wrote [1] (.error (.invalidated .eshutdown))] ∧
      Receiver.WindsUp 8 (.reading false) after.length (.ended .cancelled)
        [.read false (.finished (.ok ⟨[7], 1⟩)), .delivered [7] true] := by
  intro after
  have hafter : ∀ m ∈ after, m.cancelled = true := fun m hm => by
    rw [(List.mem_replicate.mp hm).2, lateMoment]
  refine ⟨hafter, ?sender, ?receiver⟩
  case sender =>
    let link : Sender.Link (ReadReply × Except TransferError Nat) :=
      { next := fun _ w => (.finished, w), write := fun _ w => (w.2, w) }
    obtain ⟨deeds, hlog, hwinds⟩ :=
      (Worker.stops_when_cancelled hafter [lateMoment false]).1 ⟨129, 8, 0⟩ link
        { stage := .ready [1] [] 0 }
    rw [← show deeds = [.wrote [1] (.error (.invalidated .eshutdown))] from hlog.symm]
    exact hwinds
  case receiver =>
    let link : Receiver.Link (ReadReply × Except TransferError Nat) :=
      { read := fun _ _ w => (w.1, w), deliver := fun _ w => (true, [], w) }
    obtain ⟨deeds, hlog, hwinds⟩ :=
      (Worker.stops_when_cancelled hafter [lateMoment false]).2 ⟨1, 8⟩ link {}
    rw [← show deeds = [.read false (.finished (.ok ⟨[7], 1⟩)), .delivered [7] true] from hlog.symm]
    exact hwinds

end UsbPeripheral
