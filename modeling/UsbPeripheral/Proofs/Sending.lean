import Mathlib.Logic.Relation
import UsbPeripheral.Proofs.Rounds
import UsbPeripheral.Worker.Basic

/-! # A sender sends in rounds

A **script** says what a sender is to find: the chunks that its source will yield, and how its writes
will end.  A **performance** of the script is the work of a sender that nobody cancels.  The device
may be suspended and resumed at any time, which makes no difference.

A performance is what the accounts of the script tell, deed by deed (`Sender.sends_in_rounds`): the
rounds of `Proofs/Rounds.lean` are a reference that knows no stages and no loops.  There is an account
unless the sender **stalls**, at a piece that is interrupted for ever. -/

namespace UsbPeripheral.Sender

/-! ### Performances -/

/-- What a sender is to find. -/
structure Script where
  /-- The chunks of its source; there are none after them. -/
  chunks : List Bytes
  /-- How its writes end. -/
  outcomes : Stream' Attempt

/-- The surroundings that a script describes. -/
def Script.link : Link Script where
  next _ w :=
    match w.chunks with
    | [] => (.finished, w)
    | chunk :: chunks => (.chunk chunk, { w with chunks })
  write _ w := (w.outcomes.head, { w with outcomes := w.outcomes.tail })

/-- How far a sender got with a script, and what it did. -/
structure Performance where
  stage : Stage
  script : Script
  log : List Deed

section performance

variable (s : Sender)

/-- One step of a sender that nobody cancelled. -/
def perform (w : Performance) (suspended : Bool) : Performance :=
  let t := s.step Script.link.logged false suspended w.stage (w.script, w.log)
  { stage := t.stage, script := t.world.1, log := t.world.2 }

/-- What a sender comes to in one step, be the device suspended or not. -/
def Goes (w w' : Performance) : Prop := ∀ suspended, s.perform w suspended = w'

/-- What a sender comes to. -/
abbrev Reaches : Performance → Performance → Prop := Relation.ReflTransGen s.Goes

variable {s} {script : Script} {log : List Deed} {piece : Bytes} {rest chunks : List Bytes}
  {failures : Nat} {outcomes : Stream' Attempt}

/-- The end that is reached is where every run stands that is long enough. -/
theorem Reaches.performs {w : Performance} {exit : Exit}
    (h : s.Reaches w ⟨.ended exit, script, log⟩) :
    ∃ n, ∀ flags : List Bool, n ≤ flags.length →
      flags.foldl s.perform w = ⟨.ended exit, script, log⟩ := by
  induction h using Relation.ReflTransGen.head_induction_on with
  | refl => exact ⟨0, fun flags _ => List.foldl_fixed' (fun _ => rfl) flags⟩
  | head hgoes _ ih =>
      obtain ⟨n, hn⟩ := ih
      refine ⟨n + 1, fun flags hflags => ?_⟩
      cases flags with
      | nil => cases hflags
      | cons suspended flags =>
          rw [List.foldl_cons, hgoes suspended]
          exact hn flags (Nat.le_of_succ_le_succ hflags)

/-! ### Rounds -/

/-- The stage that follows a round. -/
def Fate.then (rest : List Bytes) : Fate → Stage
  | .accepted => following rest
  | .givenUp => following rest
  | .gone => .leaving .invalidated

theorem goes_ready : s.Goes ⟨.ready piece rest failures, script, log⟩
    ⟨.writing piece rest failures, script, log⟩ := fun _ => rfl

/-- An interrupted write is repeated. -/
theorem goes_interrupted :
    s.Goes
      ⟨.writing piece rest failures, ⟨chunks, .cons (.error (.failed .eintr)) outcomes⟩, log⟩
      ⟨.ready piece rest failures, ⟨chunks, outcomes⟩,
        log ++ [.wrote piece (.error (.failed .eintr))]⟩ := fun _ => rfl

theorem goes_failed {errno : Errno} (herrno : errno ≠ .eintr) :
    s.Goes
      ⟨.writing piece rest failures, ⟨chunks, .cons (.error (.failed errno)) outcomes⟩, log⟩
      ⟨.failed piece rest failures errno, ⟨chunks, outcomes⟩,
        log ++ [.wrote piece (.error (.failed errno))]⟩ := by
  intro suspended
  simp only [perform, step, Link.logged, Script.link, Stream'.head_cons, Stream'.tail_cons, herrno,
    if_false]

theorem goes_retry {errno : Errno} (h : failures < s.retries) :
    s.Goes ⟨.failed piece rest failures errno, script, log⟩
      ⟨.ready piece rest (failures + 1), script, log⟩ := by
  intro suspended
  simp only [perform, step, Nat.not_le.mpr h, Bool.false_eq_true, if_false]

theorem goes_givenUp {errno : Errno} (h : s.retries ≤ failures) :
    s.Goes ⟨.failed piece rest failures errno, script, log⟩ ⟨following rest, script, log⟩ := by
  intro suspended
  simp only [perform, step, h, Bool.false_eq_true, if_false, if_true]

theorem goes_ok {count : Nat} :
    s.Goes ⟨.writing piece rest failures, ⟨chunks, .cons (.ok count) outcomes⟩, log⟩
      ⟨following rest, ⟨chunks, outcomes⟩, log ++ [.wrote piece (.ok count)]⟩ := fun _ => rfl

theorem goes_invalidated {errno : Errno} :
    s.Goes ⟨.writing piece rest failures, ⟨chunks, .cons (.error (.invalidated errno)) outcomes⟩, log⟩
      ⟨.leaving .invalidated, ⟨chunks, outcomes⟩,
        log ++ [.wrote piece (.error (.invalidated errno))]⟩ := fun _ => rfl

/-- A piece is written again as long as its retries last. -/
theorem reaches_unsettled {attempts : List Attempt}
    (htransient : ∀ a ∈ attempts, ∃ errno, a = Except.error (.failed errno))
    (hfailures : failures + attempts.countP Attempt.failed ≤ s.retries) :
    s.Reaches ⟨.ready piece rest failures, ⟨chunks, attempts ++ₛ outcomes⟩, log⟩
      ⟨.ready piece rest (failures + attempts.countP Attempt.failed), ⟨chunks, outcomes⟩,
        log ++ attempts.map (.wrote piece)⟩ := by
  induction attempts generalizing failures log with
  | nil =>
      rw [List.map_nil, List.append_nil]
      exact .refl
  | cons a attempts ih =>
      obtain ⟨⟨errno, rfl⟩, hothers⟩ := List.forall_mem_cons.mp htransient
      refine .head goes_ready ?_
      rw [Stream'.cons_append_stream, List.map_cons, List.append_cons]
      -- either way the piece is ready again, and only a failure is added to the failures
      by_cases herrno : errno = .eintr
      · subst herrno
        exact .head goes_interrupted (ih hothers hfailures)
      · rw [countP_failed_cons herrno] at hfailures ⊢
        rw [← Nat.add_assoc, Nat.add_right_comm] at hfailures ⊢
        exact .head (goes_failed herrno) (.head (goes_retry (by omega)) (ih hothers hfailures))

theorem Unsettled.reaches {attempts : List Attempt} (h : Unsettled s.retries attempts) :
    s.Reaches ⟨.ready piece rest 0, ⟨chunks, attempts ++ₛ outcomes⟩, log⟩
      ⟨.writing piece rest (attempts.countP Attempt.failed), ⟨chunks, outcomes⟩,
        log ++ attempts.map (.wrote piece)⟩ := by
  rw [← Nat.zero_add (attempts.countP Attempt.failed)]
  refine .tail (reaches_unsettled h.transient ?_) goes_ready
  rw [Nat.zero_add]
  exact h.failures

/-- A sender goes through a round, attempt by attempt. -/
theorem Settles.reaches {attempts : List Attempt} {fate : Fate}
    (h : Settles s.retries attempts fate) :
    s.Reaches ⟨.ready piece rest 0, ⟨chunks, attempts ++ₛ outcomes⟩, log⟩
      ⟨fate.then rest, ⟨chunks, outcomes⟩, log ++ attempts.map (.wrote piece)⟩ := by
  cases h with
  | accepted count h =>
      rw [Stream'.append_append_stream, List.map_append, ← List.append_assoc]
      exact h.reaches.tail goes_ok
  | givenUp h herrno hcount =>
      rw [Stream'.append_append_stream, List.map_append, ← List.append_assoc]
      exact (h.reaches.tail (goes_failed herrno)).tail (goes_givenUp (Nat.le_of_eq hcount.symm))
  | gone errno h =>
      rw [Stream'.append_append_stream, List.map_append, ← List.append_assoc]
      exact h.reaches.tail goes_invalidated

theorem Settles.reaches_following {attempts : List Attempt} {fate : Fate}
    (h : Settles s.retries attempts fate) (hfate : fate ≠ .gone) :
    s.Reaches ⟨.ready piece rest 0, ⟨chunks, attempts ++ₛ outcomes⟩, log⟩
      ⟨following rest, ⟨chunks, outcomes⟩, log ++ attempts.map (.wrote piece)⟩ := by
  cases fate with
  | accepted => exact h.reaches
  | givenUp => exact h.reaches
  | gone => exact absurd rfl hfate

/-! ### Passages -/

theorem Conveys.reaches {pieces : List Bytes} {rounds : List Round} {gone : Bool}
    (h : Conveys s.retries pieces rounds gone) :
    s.Reaches
      ⟨following pieces, ⟨chunks, rounds.flatMap Round.attempts ++ₛ outcomes⟩, log⟩
      ⟨if gone then .leaving .invalidated else .idle, ⟨chunks, outcomes⟩,
        log ++ rounds.flatMap Round.deeds⟩ := by
  induction h generalizing log with
  | nil =>
      rw [List.flatMap_nil, List.flatMap_nil, List.append_nil]
      exact .refl
  | @cons r pieces rounds gone hsettles hfate _ ih =>
      rw [List.flatMap_cons, List.flatMap_cons, Stream'.append_append_stream, ← List.append_assoc]
      exact .trans (hsettles.reaches_following hfate) ih
  | @gone r pieces hsettles hfate =>
      rw [List.flatMap_singleton, List.flatMap_singleton]
      have hthen : r.fate.then pieces = .leaving .invalidated := by rw [hfate, Fate.then]
      rw [if_pos rfl, ← hthen]
      exact hsettles.reaches

theorem goes_idle : s.Goes ⟨.idle, script, log⟩ ⟨.asking, script, log⟩ := fun _ => rfl

theorem goes_leaving {exit : Exit} :
    s.Goes ⟨.leaving exit, script, log⟩ ⟨.ended exit, script, log⟩ := fun _ => rfl

theorem goes_chunk {chunk : Bytes} :
    s.Goes ⟨.asking, ⟨chunk :: chunks, outcomes⟩, log⟩
      ⟨following (pieces s.limit chunk), ⟨chunks, outcomes⟩, log ++ [.asked (.chunk chunk)]⟩ :=
  fun _ => rfl

theorem goes_finished :
    s.Goes ⟨.asking, ⟨[], outcomes⟩, log⟩
      ⟨.leaving .sourceDone, ⟨[], outcomes⟩, log ++ [.asked .finished]⟩ :=
  fun _ => rfl

/-- What a sender does that its passages do not tell: it hears that there is no more to send. -/
def closing : Exit → List Deed
  | .sourceDone => [.asked .finished]
  | _ => []

theorem Transmits.reaches {passages : List Passage} {exit : Exit} (hlimit : 0 < s.limit)
    (h : Transmits s.limit s.retries chunks passages exit) :
    s.Reaches ⟨.idle, ⟨chunks, passages.flatMap Passage.attempts ++ₛ outcomes⟩, log⟩
      ⟨.ended exit, ⟨chunks.drop passages.length, outcomes⟩,
        log ++ passages.flatMap Passage.deeds ++ closing exit⟩ := by
  induction h generalizing log with
  | done =>
      rw [List.flatMap_nil, List.flatMap_nil, List.append_nil]
      exact .head goes_idle (.head goes_finished (.single goes_leaving))
  | @cons p pieces chunks passages exit hcut hconveys _ ih =>
      rw [List.flatMap_cons, List.flatMap_cons, Stream'.append_append_stream, ← List.append_assoc]
      refine .head goes_idle (.head goes_chunk (.trans ?_ ih))
      rw [← hcut.eq_pieces hlimit, Passage.deeds,
        List.append_cons log _ (p.rounds.flatMap Round.deeds)]
      exact hconveys.reaches
  | @gone p pieces chunks hcut hconveys =>
      rw [List.flatMap_singleton, List.flatMap_singleton,
        show closing .invalidated = [] from rfl, List.append_nil]
      refine .head goes_idle (.head goes_chunk (.tail ?_ goes_leaving))
      rw [← hcut.eq_pieces hlimit, Passage.deeds,
        List.append_cons log _ (p.rounds.flatMap Round.deeds)]
      exact hconveys.reaches

/-- What an account tells is what the sender does. -/
theorem Account.performs {passages : List Passage} {exit : Exit} {left : Stream' Attempt}
    (hlimit : 0 < s.limit)
    (h : Account s.limit s.retries chunks outcomes passages exit left) :
    ∃ n, ∀ flags : List Bool, n ≤ flags.length →
      flags.foldl s.perform ⟨.idle, ⟨chunks, outcomes⟩, []⟩ =
        ⟨.ended exit, ⟨chunks.drop passages.length, left⟩,
          passages.flatMap Passage.deeds ++ closing exit⟩ := by
  rw [h.outcomes]
  exact (h.transmits.reaches hlimit).performs

/-! ### Stalls -/

/-- A sender comes to a piece that it writes for ever, because all that is left is interruptions. -/
def Stalls (s : Sender) (w : Performance) : Prop :=
  ∃ piece rest failures script log, s.Reaches w ⟨.ready piece rest failures, script, log⟩ ∧
    Restless script.outcomes

theorem Stalls.of_reaches {w w' : Performance} (hreaches : s.Reaches w w') (h : s.Stalls w') :
    s.Stalls w := by
  obtain ⟨piece, rest, failures, script, log, hready, hrestless⟩ := h
  exact ⟨piece, rest, failures, script, log, hreaches.trans hready, hrestless⟩

theorem conveys_or_stalls (s : Sender) (pieces chunks : List Bytes) (outcomes : Stream' Attempt)
    (log : List Deed) :
    (∃ rounds gone left, Conveys s.retries pieces rounds gone ∧
        outcomes = rounds.flatMap Round.attempts ++ₛ left) ∨
      s.Stalls ⟨following pieces, ⟨chunks, outcomes⟩, log⟩ := by
  induction pieces generalizing outcomes log with
  | nil => exact .inl ⟨[], false, outcomes, .nil, rfl⟩
  | cons piece pieces ih =>
      rcases settles_or_restless s.retries outcomes with
        ⟨attempts, fate, left, hsettles, rfl⟩ | ⟨attempts, left, hunsettled, hrestless, rfl⟩
      · let r : Round := ⟨piece, attempts, fate⟩
        by_cases hfate : fate = .gone
        · refine .inl ⟨[r], true, left, .gone (r := r) hsettles hfate, ?_⟩
          rw [List.flatMap_singleton]
        · rcases ih left (log ++ r.deeds) with ⟨rounds, gone, left', hconveys, rfl⟩ | hstalls
          · refine .inl ⟨r :: rounds, gone, left', .cons (r := r) hsettles hfate hconveys, ?_⟩
            rw [List.flatMap_cons, Stream'.append_append_stream]
          · exact .inr (hstalls.of_reaches (hsettles.reaches_following hfate))
      · refine .inr ⟨piece, pieces, _, _, _, reaches_unsettled hunsettled.transient ?_, hrestless⟩
        rw [Nat.zero_add]
        exact hunsettled.failures

/-- There is an account of what a sender finds, unless it stalls. -/
theorem account_or_stalls (hlimit : 0 < s.limit) (chunks : List Bytes)
    (outcomes : Stream' Attempt) (log : List Deed) :
    (∃ passages exit left,
        Account s.limit s.retries chunks outcomes passages exit left) ∨
      s.Stalls ⟨.idle, ⟨chunks, outcomes⟩, log⟩ := by
  induction chunks generalizing outcomes log with
  | nil => exact .inl ⟨[], .sourceDone, outcomes, .done, rfl⟩
  | cons chunk chunks ih =>
      have hcut := cut_pieces hlimit chunk
      have hasks : s.Reaches ⟨.idle, ⟨chunk :: chunks, outcomes⟩, log⟩
          ⟨following (pieces s.limit chunk), ⟨chunks, outcomes⟩, log ++ [.asked (.chunk chunk)]⟩ :=
        .head goes_idle (.single goes_chunk)
      rcases conveys_or_stalls s (pieces s.limit chunk) chunks outcomes
        (log ++ [.asked (.chunk chunk)]) with ⟨rounds, gone, left, hconveys, rfl⟩ | hstalls
      · let p : Passage := ⟨chunk, rounds⟩
        cases gone with
        | true =>
            refine .inl ⟨[p], .invalidated, left, .gone (p := p) hcut hconveys, ?_⟩
            rw [List.flatMap_singleton]
            rfl
        | false =>
            rcases ih left (log ++ p.deeds) with ⟨passages, exit, left', haccount⟩ | hstalls
            · refine .inl ⟨p :: passages, exit, left',
                .cons (p := p) hcut hconveys haccount.transmits, ?_⟩
              rw [List.flatMap_cons, Stream'.append_append_stream, ← haccount.outcomes]
              rfl
            · have hpassage := hasks.trans hconveys.reaches
              rw [← List.append_cons] at hpassage
              exact .inr (hstalls.of_reaches hpassage)
      · exact .inr (hstalls.of_reaches hasks)

end performance

/-! ### The work of a worker -/

/-- The worker of an endpoint towards the host has its limits from the settings and the endpoint. -/
theorem start_duty {settings : Settings} {endpoint : Endpoint} {handle : Handle} {feed : UInt8}
    {s : Sender} (h : (Worker.start settings endpoint handle (.source feed)).duty =
      .sending s feed .idle) :
    s.limit = max (max settings.maxTransfer endpoint.maxPacketSize.toNat) 1 ∧
      s.retries = settings.writeRetries := by
  cases h
  exact ⟨rfl, rfl⟩

/-- **A worker sends in rounds.**  Whatever chunks the worker of an endpoint towards the host finds,
and however its writes end, there is an account of it, unless the worker comes to a piece that is
interrupted for ever.  An account tells all that the worker does while nobody cancels it: what it asks
and what it writes, how each of it ends, in that order, and how the worker ends.  By the account the
pieces that are accepted are pieces of the chunks, each once and in order; a piece is written at most
once more than it may be tried again, not counting interruptions; and the worker ends when the
endpoint is gone, or else with its source. -/
theorem sends_in_rounds {settings : Settings} {endpoint : Endpoint} {handle : Handle}
    {feed : UInt8} {s : Sender} {chunks : List Bytes} {outcomes : Stream' Attempt}
    (hs : (Worker.start settings endpoint handle (.source feed)).duty = .sending s feed .idle) :
    let limit := max (max settings.maxTransfer endpoint.maxPacketSize.toNat) 1
    let retries := settings.writeRetries
    ((∃ passages exit left, Account limit retries chunks outcomes passages exit left) ∨
        s.Stalls ⟨.idle, ⟨chunks, outcomes⟩, []⟩) ∧
      ∀ passages exit left, Account limit retries chunks outcomes passages exit left →
        (∃ n, ∀ flags : List Bool, n ≤ flags.length →
          flags.foldl s.perform ⟨.idle, ⟨chunks, outcomes⟩, []⟩ =
            ⟨.ended exit, ⟨chunks.drop passages.length, left⟩,
              passages.flatMap Passage.deeds ++ closing exit⟩) ∧
        ((passages.flatMap Passage.deeds).filterMap Deed.accepted?).Sublist
          (chunks.flatMap (pieces limit)) ∧
        (∀ p ∈ passages, ∀ r ∈ p.rounds, r.attempts.countP Attempt.accepted ≤ 1 ∧
          r.attempts.length ≤ retries + 1 + r.attempts.countP Attempt.interrupted) ∧
        ∃ gone, Vanishes (passages.flatMap Passage.attempts) gone ∧
          exit = if gone then .invalidated else .sourceDone := by
  obtain ⟨hlimit, hretries⟩ := start_duty hs
  rw [← hlimit, ← hretries]
  have hpos : 0 < s.limit := hlimit ▸ Nat.le_max_right _ _
  refine ⟨account_or_stalls hpos chunks outcomes [], fun passages exit left haccount => ?_⟩
  have htransmits := haccount.transmits
  refine ⟨haccount.performs hpos, htransmits.accepted_sublist hpos, fun p hp r hr => ?_,
    htransmits.vanishes⟩
  have hsettles := htransmits.settles p hp r hr
  refine ⟨?_, hsettles.length_le⟩
  rw [hsettles.countP_accepted]
  split <;> decide

/-- An endpoint with a small transfer limit. -/
def narrow : Endpoint := .bulk 129 2

/-- Outcomes with an interruption, and with a piece that fails twice. -/
def bumpy : Stream' Attempt :=
  [.error (.failed .eintr), .ok 2, .error (.failed .eio), .error (.failed .eio), .ok 0, .ok 1] ++ₛ
    Stream'.const (.ok 0)

/-- A chunk that loses its last piece. -/
def clipped : Passage :=
  ⟨[1, 2, 3], [⟨[1, 2], [.error (.failed .eintr), .ok 2], .accepted⟩,
    ⟨[3], [.error (.failed .eio), .error (.failed .eio)], .givenUp⟩]⟩

/-- What the bumpy outcomes make of three chunks. -/
def bumpyPassages : List Passage :=
  [clipped, ⟨[], [⟨[], [.ok 0], .accepted⟩]⟩, ⟨[4], [⟨[4], [.ok 1], .accepted⟩]⟩]

theorem bumpy_account :
    Account 2 1 [[1, 2, 3], [], [4]] bumpy bumpyPassages .sourceDone (Stream'.const (.ok 0)) where
  transmits := by
    have hfirst : Cut 2 ([1, 2] ++ [3]) [[1, 2], [3]] := .cons rfl (by decide) (.last (by decide))
    have hinterrupted : Settles 1 [.error (.failed .eintr), .ok 2] .accepted :=
      .interrupted (.accepted 2 .nil)
    have hgivenUp : Settles 1 [.error (.failed .eio), .error (.failed .eio)] .givenUp :=
      .failed (.givenUp .nil (by decide) rfl) (by decide)
    have haccepted (count : Nat) : Settles 1 [.ok count] .accepted := .accepted count .nil
    refine .cons (p := ⟨_, _⟩) hfirst
      (.cons (r := ⟨_, _, _⟩) hinterrupted (by decide)
        (.cons (r := ⟨_, _, _⟩) hgivenUp (by decide) .nil)) ?_
    refine .cons (p := ⟨_, _⟩) (.last (by decide))
      (.cons (r := ⟨_, _, _⟩) (haccepted 0) (by decide) .nil) ?_
    exact .cons (p := ⟨_, _⟩) (.last (by decide))
      (.cons (r := ⟨_, _, _⟩) (haccepted 1) (by decide) .nil) .done
  outcomes := rfl

/-- The piece that was interrupted is written again, the one that failed twice is given up, and the
empty chunk is an empty transfer. -/
theorem bumpy_sent :
    let settings : Settings := { writeRetries := 1, maxTransfer := 0 }
    let s : Sender := { address := narrow.address, limit := 2, retries := 1 }
    let outset : Performance := ⟨.idle, ⟨[[1, 2, 3], [], [4]], bumpy⟩, []⟩
    (Worker.start settings narrow 7 (.source 5)).duty = .sending s 5 .idle ∧
      ∃ n, ∀ flags : List Bool, n ≤ flags.length →
        (flags.foldl s.perform outset).stage = .ended .sourceDone ∧
        (flags.foldl s.perform outset).log =
          [.asked (.chunk [1, 2, 3]), .wrote [1, 2] (.error (.failed .eintr)), .wrote [1, 2] (.ok 2),
            .wrote [3] (.error (.failed .eio)), .wrote [3] (.error (.failed .eio)),
            .asked (.chunk []), .wrote [] (.ok 0), .asked (.chunk [4]), .wrote [4] (.ok 1),
            .asked .finished] := by
  intro settings s outset
  have hstart : (Worker.start settings narrow 7 (.source 5)).duty = .sending s 5 .idle := rfl
  obtain ⟨n, hn⟩ := ((sends_in_rounds hstart).2 _ _ _ bumpy_account).1
  refine ⟨hstart, n, fun flags hflags => ?_⟩
  rw [hn flags hflags]
  exact ⟨rfl, rfl⟩

end UsbPeripheral.Sender
