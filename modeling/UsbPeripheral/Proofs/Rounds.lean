import Mathlib.Data.List.Basic
import Mathlib.Data.Stream.Init
import UsbPeripheral.Proofs.Deeds

/-! # Rounds: how chunks are to be sent

What is told here is how chunks go to an endpoint, without a word about the worker that sends them.

A chunk is **cut** into pieces.  Every piece has a **round** of attempts to write it, and the last
attempt **settles** the round: the piece was accepted, or it failed once more than it may be tried
again, or the endpoint is gone.  An interruption settles nothing and is not counted.  The rounds of a
chunk are its **passage**.  Chunks are sent one after the other until none is left or the endpoint is
gone (`Transmits`).

However attempts end, a round comes to its end, unless it is interrupted for ever
(`settles_or_restless`).  No piece is accepted twice or out of order (`Transmits.accepted_sublist`).
-/

namespace UsbPeripheral.Sender

/-! ### Pieces -/

/-- Consecutive pieces of a chunk, all of them full but the last.  An empty chunk is one piece. -/
inductive Cut (limit : Nat) : Bytes → List Bytes → Prop
  | last {piece : Bytes} : piece.length ≤ limit → Cut limit piece [piece]
  | cons {piece rest : Bytes} {others : List Bytes} : piece.length = limit → rest ≠ [] →
      Cut limit rest others → Cut limit (piece ++ rest) (piece :: others)

theorem cut_pieces {limit : Nat} (hlimit : 0 < limit) (chunk : Bytes) :
    Cut limit chunk (pieces limit chunk) := by
  fun_induction pieces limit chunk with
  | case1 chunk h ih =>
      have hrest : chunk.drop limit ≠ [] := List.drop_eq_nil_iff.not.mpr (Nat.not_le.mpr h.2)
      have hcut := Cut.cons (List.length_take_of_le (Nat.le_of_lt h.2)) hrest ih
      rwa [List.take_append_drop] at hcut
  | case2 chunk h => exact .last (by omega)

theorem Cut.flatten {limit : Nat} {chunk : Bytes} {ps : List Bytes} (h : Cut limit chunk ps) :
    ps.flatten = chunk := by
  induction h with
  | last _ => exact List.append_nil _
  | cons _ _ _ ih => rw [List.flatten_cons, ih]

/-- There is one way to cut a chunk. -/
theorem Cut.eq_pieces {limit : Nat} {chunk : Bytes} {ps : List Bytes} (hlimit : 0 < limit)
    (h : Cut limit chunk ps) : ps = pieces limit chunk := by
  induction h with
  | last hpiece => rw [pieces, dif_neg (by omega)]
  | @cons piece rest others hpiece hrest _ ih =>
      have hlong : limit < (piece ++ rest).length := by
        have := List.length_pos_iff.mpr hrest
        rw [List.length_append]
        omega
      rw [pieces, dif_pos ⟨hlimit, hlong⟩, List.take_left' hpiece, List.drop_left' hpiece, ih]

/-! ### Rounds -/

/-- How an attempt to write a piece ends. -/
abbrev Attempt := Except TransferError Nat

namespace Attempt

/-- The endpoint took the piece. -/
def accepted : Attempt → Bool
  | .ok _ => true
  | .error _ => false

/-- The attempt was interrupted. -/
def interrupted : Attempt → Bool
  | .error (.failed errno) => errno = .eintr
  | _ => false

/-- The attempt failed, and counts. -/
def failed : Attempt → Bool
  | .error (.failed errno) => errno ≠ .eintr
  | _ => false

/-- The endpoint is gone. -/
def invalidated : Attempt → Bool
  | .error (.invalidated _) => true
  | _ => false

end Attempt

/-- Attempts after which a piece is to be written again. -/
structure Unsettled (retries : Nat) (attempts : List Attempt) : Prop where
  transient : ∀ a ∈ attempts, ∃ errno, a = .error (.failed errno)
  failures : attempts.countP Attempt.failed ≤ retries

/-- What becomes of a piece. -/
inductive Fate where
  | accepted
  | givenUp
  /-- The endpoint is gone. -/
  | gone
  deriving DecidableEq

/-- The attempts of a round: the last one settles the fate of the piece, and none before it does. -/
inductive Settles (retries : Nat) : List Attempt → Fate → Prop
  | accepted {before : List Attempt} (count : Nat) : Unsettled retries before →
      Settles retries (before ++ [.ok count]) .accepted
  /-- A piece is given up when it has failed once more than it may be tried again. -/
  | givenUp {before : List Attempt} {errno : Errno} : Unsettled retries before → errno ≠ .eintr →
      before.countP Attempt.failed = retries →
      Settles retries (before ++ [.error (.failed errno)]) .givenUp
  | gone {before : List Attempt} (errno : Errno) : Unsettled retries before →
      Settles retries (before ++ [.error (.invalidated errno)]) .gone

section settles

variable {retries : Nat} {attempts : List Attempt} {fate : Fate}

theorem Unsettled.nil : Unsettled retries [] where
  transient _ h := nomatch h
  failures := Nat.zero_le _

theorem Unsettled.interrupted (h : Unsettled retries attempts) :
    Unsettled retries (.error (.failed .eintr) :: attempts) where
  transient := List.forall_mem_cons.mpr ⟨⟨_, rfl⟩, h.transient⟩
  failures := h.failures

theorem countP_failed_cons {errno : Errno} (herrno : errno ≠ .eintr) (attempts : List Attempt) :
    (Except.error (.failed errno) :: attempts).countP Attempt.failed =
      attempts.countP Attempt.failed + 1 :=
  List.countP_cons_of_pos (by simpa [Attempt.failed] using herrno)

theorem Unsettled.failed (h : Unsettled retries attempts) {errno : Errno} (herrno : errno ≠ .eintr) :
    Unsettled (retries + 1) (.error (.failed errno) :: attempts) where
  transient := List.forall_mem_cons.mpr ⟨⟨_, rfl⟩, h.transient⟩
  failures := by
    rw [countP_failed_cons herrno]
    exact Nat.succ_le_succ h.failures

/-- An interruption does not count. -/
theorem Settles.interrupted (h : Settles retries attempts fate) :
    Settles retries (.error (.failed .eintr) :: attempts) fate := by
  cases h with
  | accepted count h => exact .accepted count h.interrupted
  | givenUp h herrno hcount => exact .givenUp h.interrupted herrno hcount
  | gone errno h => exact .gone errno h.interrupted

/-- A failure uses up one retry. -/
theorem Settles.failed (h : Settles retries attempts fate) {errno : Errno} (herrno : errno ≠ .eintr) :
    Settles (retries + 1) (.error (.failed errno) :: attempts) fate := by
  cases h with
  | accepted count h => exact .accepted count (h.failed herrno)
  | givenUp h hlast hcount =>
      exact .givenUp (h.failed herrno) hlast (by rw [countP_failed_cons herrno, hcount])
  | gone errno h => exact .gone errno (h.failed herrno)

theorem length_of_transient (h : ∀ a ∈ attempts, ∃ errno, a = Except.error (.failed errno)) :
    attempts.length =
      attempts.countP Attempt.failed + attempts.countP Attempt.interrupted := by
  have hothers : attempts.countP (¬ Attempt.failed · = true) = attempts.countP Attempt.interrupted := by
    refine List.countP_congr fun a ha => ?_
    obtain ⟨errno, rfl⟩ := h a ha
    simp [Attempt.failed, Attempt.interrupted]
  rw [← hothers, ← List.length_eq_countP_add_countP]

/-- A piece is written at most once more than it may be tried again, interruptions apart. -/
theorem Settles.length_le (h : Settles retries attempts fate) :
    attempts.length ≤ retries + 1 + attempts.countP Attempt.interrupted := by
  obtain ⟨before, last, rfl, hbefore⟩ :
      ∃ before last, attempts = before ++ [last] ∧ Unsettled retries before := by
    cases h with
    | accepted _ h => exact ⟨_, _, rfl, h⟩
    | givenUp h _ _ => exact ⟨_, _, rfl, h⟩
    | gone _ h => exact ⟨_, _, rfl, h⟩
  have hlength := length_of_transient hbefore.transient
  have hfailures := hbefore.failures
  rw [List.length_append, List.countP_append, List.length_singleton]
  omega

end settles

/-! ### Passages -/

/-- A piece and the attempts to write it. -/
structure Round where
  piece : Bytes
  attempts : List Attempt
  fate : Fate

/-- What a sender does in a round. -/
def Round.deeds (r : Round) : List Deed := r.attempts.map (Deed.wrote r.piece)

/-- Rounds for pieces in their order, up to the last piece or until the endpoint is gone. -/
inductive Conveys (retries : Nat) : List Bytes → List Round → (gone : Bool) → Prop
  | nil : Conveys retries [] [] false
  | cons {r : Round} {pieces : List Bytes} {rounds : List Round} {gone : Bool} :
      Settles retries r.attempts r.fate → r.fate ≠ .gone → Conveys retries pieces rounds gone →
      Conveys retries (r.piece :: pieces) (r :: rounds) gone
  | gone {r : Round} {pieces : List Bytes} : Settles retries r.attempts r.fate → r.fate = .gone →
      Conveys retries (r.piece :: pieces) [r] true

/-- A chunk and its rounds. -/
structure Passage where
  chunk : Bytes
  rounds : List Round

namespace Passage

/-- The attempts to write a piece of the chunk. -/
def attempts (p : Passage) : List Attempt := p.rounds.flatMap Round.attempts

/-- What a sender does to pass a chunk on. -/
def deeds (p : Passage) : List Deed := .asked (.chunk p.chunk) :: p.rounds.flatMap Round.deeds

end Passage

/-- Passages of chunks in their order, up to the last chunk or until the endpoint is gone. -/
inductive Transmits (limit retries : Nat) : List Bytes → List Passage → Exit → Prop
  | done : Transmits limit retries [] [] .sourceDone
  | cons {p : Passage} {pieces chunks : List Bytes} {passages : List Passage} {exit : Exit} :
      Cut limit p.chunk pieces → Conveys retries pieces p.rounds false →
      Transmits limit retries chunks passages exit →
      Transmits limit retries (p.chunk :: chunks) (p :: passages) exit
  | gone {p : Passage} {pieces chunks : List Bytes} :
      Cut limit p.chunk pieces → Conveys retries pieces p.rounds true →
      Transmits limit retries (p.chunk :: chunks) [p] .invalidated

/-! ### What is accepted -/

section accepted

variable {limit retries : Nat} {pieces chunks : List Bytes} {rounds : List Round}
  {passages : List Passage} {exit : Exit}

/-- The piece, if the endpoint took it. -/
def Round.accepted (r : Round) : List Bytes := if r.fate = .accepted then [r.piece] else []

/-- The pieces of a chunk that the endpoint took. -/
def Passage.accepted (p : Passage) : List Bytes := p.rounds.flatMap Round.accepted

theorem not_accepted_of_transient {attempts : List Attempt}
    (h : ∀ a ∈ attempts, ∃ errno, a = Except.error (.failed errno)) :
    attempts.countP Attempt.accepted = 0 :=
  List.countP_eq_zero.mpr fun a ha => by
    obtain ⟨errno, rfl⟩ := h a ha
    exact Bool.false_ne_true

/-- An attempt is accepted only if it is the last one. -/
theorem Settles.countP_accepted {attempts : List Attempt} {fate : Fate}
    (h : Settles retries attempts fate) :
    attempts.countP Attempt.accepted = if fate = .accepted then 1 else 0 := by
  cases h with
  | accepted _ h => rw [List.countP_append, not_accepted_of_transient h.transient]; rfl
  | givenUp h _ _ => rw [List.countP_append, not_accepted_of_transient h.transient]; rfl
  | gone _ h => rw [List.countP_append, not_accepted_of_transient h.transient]; rfl

theorem Round.deeds_accepted (r : Round) :
    r.deeds.filterMap Deed.accepted? =
      List.replicate (r.attempts.countP Attempt.accepted) r.piece := by
  unfold Round.deeds
  induction r.attempts with
  | nil => rfl
  | cons a attempts ih =>
      cases a with
      | ok count =>
          rw [List.countP_cons_of_pos rfl, List.replicate_succ, ← ih]
          rfl
      | error e =>
          rw [List.countP_cons_of_neg Bool.false_ne_true, ← ih]
          rfl

theorem Settles.deeds_accepted {r : Round} (h : Settles retries r.attempts r.fate) :
    r.deeds.filterMap Deed.accepted? = r.accepted := by
  rw [Round.deeds_accepted, h.countP_accepted, Round.accepted]
  split <;> rfl

theorem Conveys.settles {gone : Bool} (h : Conveys retries pieces rounds gone) :
    ∀ r ∈ rounds, Settles retries r.attempts r.fate := by
  induction h with
  | nil => exact List.forall_mem_nil _
  | cons hsettles _ _ ih => exact List.forall_mem_cons.mpr ⟨hsettles, ih⟩
  | gone hsettles _ => exact List.forall_mem_cons.mpr ⟨hsettles, List.forall_mem_nil _⟩

theorem Transmits.settles (h : Transmits limit retries chunks passages exit) :
    ∀ p ∈ passages, ∀ r ∈ p.rounds, Settles retries r.attempts r.fate := by
  induction h with
  | done => exact List.forall_mem_nil _
  | cons _ hconveys _ ih => exact List.forall_mem_cons.mpr ⟨hconveys.settles, ih⟩
  | gone _ hconveys => exact List.forall_mem_cons.mpr ⟨hconveys.settles, List.forall_mem_nil _⟩

theorem Conveys.accepted_sublist {gone : Bool} (h : Conveys retries pieces rounds gone) :
    (rounds.flatMap Round.accepted).Sublist pieces := by
  induction h with
  | nil => exact .slnil
  | @cons r pieces rounds gone _ _ _ ih =>
      rw [List.flatMap_cons, Round.accepted]
      split
      · exact ih.cons_cons r.piece
      · exact ih.cons r.piece
  | @gone r pieces _ hfate =>
      rw [List.flatMap_singleton, Round.accepted, hfate]
      exact List.nil_sublist _

theorem Passage.deeds_accepted {p : Passage}
    (h : ∀ r ∈ p.rounds, Settles retries r.attempts r.fate) :
    p.deeds.filterMap Deed.accepted? = p.accepted := by
  calc p.deeds.filterMap Deed.accepted?
      = (p.rounds.flatMap Round.deeds).filterMap Deed.accepted? := rfl
    _ = p.rounds.flatMap fun r => r.deeds.filterMap Deed.accepted? := List.filterMap_flatMap
    _ = p.accepted := List.flatMap_congr fun r hr => (h r hr).deeds_accepted

/-- No piece is accepted twice, and none out of order. -/
theorem Transmits.accepted_sublist (hlimit : 0 < limit)
    (h : Transmits limit retries chunks passages exit) :
    ((passages.flatMap Passage.deeds).filterMap Deed.accepted?).Sublist
      (chunks.flatMap (UsbPeripheral.pieces limit)) := by
  rw [List.filterMap_flatMap]
  induction h with
  | done => exact .slnil
  | cons hcut hconveys _ ih =>
      rw [List.flatMap_cons, List.flatMap_cons, Passage.deeds_accepted hconveys.settles,
        ← hcut.eq_pieces hlimit]
      exact hconveys.accepted_sublist.append ih
  | gone hcut hconveys =>
      rw [List.flatMap_singleton, List.flatMap_cons, Passage.deeds_accepted hconveys.settles,
        ← hcut.eq_pieces hlimit]
      exact hconveys.accepted_sublist.trans (List.sublist_append_left _ _)

end accepted

/-! ### The end -/

/-- Whether the endpoint went away in the course of some attempts; if it did, then in the last one. -/
inductive Vanishes : List Attempt → Bool → Prop
  | stays {attempts : List Attempt} : (∀ a ∈ attempts, a.invalidated = false) →
      Vanishes attempts false
  | goes {before : List Attempt} (errno : Errno) : (∀ a ∈ before, a.invalidated = false) →
      Vanishes (before ++ [.error (.invalidated errno)]) true

section vanishes

variable {limit retries : Nat} {gone : Bool}

theorem Vanishes.append {xs ys : List Attempt} (hxs : Vanishes xs false) (hys : Vanishes ys gone) :
    Vanishes (xs ++ ys) gone := by
  cases hxs with
  | stays hxs =>
      cases hys with
      | stays hys => exact .stays (List.forall_mem_append.mpr ⟨hxs, hys⟩)
      | goes errno hys =>
          rw [← List.append_assoc]
          exact .goes errno (List.forall_mem_append.mpr ⟨hxs, hys⟩)

theorem Unsettled.vanishes {attempts : List Attempt} (h : Unsettled retries attempts) :
    Vanishes attempts false :=
  .stays fun a ha => by
    obtain ⟨errno, rfl⟩ := h.transient a ha
    rfl

theorem Settles.vanishes {attempts : List Attempt} {fate : Fate}
    (h : Settles retries attempts fate) : Vanishes attempts (fate = .gone) := by
  cases h with
  | accepted count h => exact h.vanishes.append (.stays (List.forall_mem_singleton.mpr rfl))
  | givenUp h _ _ => exact h.vanishes.append (.stays (List.forall_mem_singleton.mpr rfl))
  | gone errno h =>
      exact h.vanishes.append (@Vanishes.goes [] errno (List.forall_mem_nil _))

theorem Conveys.vanishes {pieces : List Bytes} {rounds : List Round}
    (h : Conveys retries pieces rounds gone) : Vanishes (rounds.flatMap Round.attempts) gone := by
  induction h with
  | nil => exact .stays (List.forall_mem_nil _)
  | cons hsettles hfate _ ih =>
      have hround := hsettles.vanishes
      rw [decide_eq_false hfate] at hround
      exact hround.append ih
  | gone hsettles hfate =>
      have hround := hsettles.vanishes
      rw [decide_eq_true hfate] at hround
      rwa [List.flatMap_singleton]

/-- The end is that the endpoint went away if it did so, and else that nothing is left to send. -/
theorem Transmits.vanishes {chunks : List Bytes} {passages : List Passage} {exit : Exit}
    (h : Transmits limit retries chunks passages exit) :
    ∃ gone, Vanishes (passages.flatMap Passage.attempts) gone ∧
      exit = if gone then .invalidated else .sourceDone := by
  induction h with
  | done => exact ⟨false, .stays (List.forall_mem_nil _), rfl⟩
  | cons _ hconveys _ ih =>
      obtain ⟨gone, hgone, hexit⟩ := ih
      exact ⟨gone, hconveys.vanishes.append hgone, hexit⟩
  | gone _ hconveys =>
      refine ⟨true, ?_, rfl⟩
      rw [List.flatMap_singleton]
      exact hconveys.vanishes

end vanishes

/-! ### Outcomes -/

/-- Passages in which the attempts end as foretold, and the outcomes that are left. -/
structure Account (limit retries : Nat) (chunks : List Bytes) (outcomes : Stream' Attempt)
    (passages : List Passage) (exit : Exit) (left : Stream' Attempt) : Prop where
  transmits : Transmits limit retries chunks passages exit
  outcomes : outcomes = passages.flatMap Passage.attempts ++ₛ left

/-- All attempts are interrupted. -/
def Restless (outcomes : Stream' Attempt) : Prop :=
  ∀ n, Attempt.interrupted (outcomes.get n) = true

/-- What comes first that is not an interruption. -/
theorem exists_lasting {outcomes : Stream' Attempt} (h : ¬ Restless outcomes) :
    ∃ k a left, Attempt.interrupted a = false ∧
      outcomes = List.replicate k (.error (.failed .eintr)) ++ₛ Stream'.cons a left := by
  obtain ⟨m, hm⟩ := not_forall.mp h
  clear h
  induction m generalizing outcomes with
  | zero => exact ⟨0, _, outcomes.tail, eq_false_of_ne_true hm, (Stream'.eta outcomes).symm⟩
  | succ m ih =>
      by_cases hhead : outcomes.head = .error (.failed .eintr)
      · obtain ⟨k, a, left, ha, htail⟩ := @ih outcomes.tail hm
        refine ⟨k + 1, a, left, ha, ?_⟩
        rw [List.replicate_succ, Stream'.cons_append_stream, ← htail, ← hhead, Stream'.eta]
      · refine ⟨0, outcomes.head, outcomes.tail, ?_, (Stream'.eta outcomes).symm⟩
        unfold Attempt.interrupted
        split
        · next errno heq =>
            refine decide_eq_false fun herrno => hhead ?_
            rw [heq, herrno]
        · rfl

section interruptions

variable {retries : Nat} {attempts : List Attempt} {fate : Fate} (k : Nat)

theorem Unsettled.after_interruptions (h : Unsettled retries attempts) :
    Unsettled retries (List.replicate k (.error (.failed .eintr)) ++ attempts) := by
  induction k with
  | zero => exact h
  | succ k ih => exact ih.interrupted

theorem Settles.after_interruptions (h : Settles retries attempts fate) :
    Settles retries (List.replicate k (.error (.failed .eintr)) ++ attempts) fate := by
  induction k with
  | zero => exact h
  | succ k ih => exact ih.interrupted

end interruptions

/-- A round comes to its end, or is interrupted for ever from some time on. -/
theorem settles_or_restless (retries : Nat) (outcomes : Stream' Attempt) :
    (∃ attempts fate left, Settles retries attempts fate ∧ outcomes = attempts ++ₛ left) ∨
      ∃ attempts left, Unsettled retries attempts ∧ Restless left ∧ outcomes = attempts ++ₛ left := by
  by_cases hrestless : Restless outcomes
  · exact .inr ⟨[], outcomes, .nil, hrestless, rfl⟩
  · obtain ⟨k, a, left, ha, rfl⟩ := exists_lasting hrestless
    have hsettled {attempts : List Attempt} {fate : Fate} {left' : Stream' Attempt}
        (hsettles : Settles retries attempts fate)
        (hleft : Stream'.cons a left = attempts ++ₛ left') :
        ∃ attempts fate left', Settles retries attempts fate ∧
          List.replicate k (.error (.failed .eintr)) ++ₛ Stream'.cons a left =
            attempts ++ₛ left' :=
      ⟨_, fate, left', hsettles.after_interruptions k, by rw [Stream'.append_append_stream, hleft]⟩
    -- a failure leaves one retry less for what follows it
    match retries, a, ha with
    | _, .ok count, _ => exact .inl (hsettled (.accepted count .nil) rfl)
    | _, .error (.invalidated errno), _ => exact .inl (hsettled (.gone errno .nil) rfl)
    | 0, .error (.failed errno), ha =>
        exact .inl (hsettled (.givenUp .nil (of_decide_eq_false ha) rfl) rfl)
    | retries + 1, .error (.failed errno), ha =>
        have herrno : errno ≠ .eintr := of_decide_eq_false ha
        rcases settles_or_restless retries left with
          ⟨attempts, fate, left', hsettles, rfl⟩ | ⟨attempts, left', hunsettled, hends, rfl⟩
        · exact .inl (hsettled (hsettles.failed herrno) rfl)
        · refine .inr ⟨_, left', (hunsettled.failed herrno).after_interruptions k, hends, ?_⟩
          rw [Stream'.append_append_stream]
          rfl

end UsbPeripheral.Sender
