import Mathlib.Tactic.Common
import UsbPeripheral.Worker.Sender

/-! # Failures that lie ahead of a sender

So many attempts to write are to fail, whatever is written.  A failure is **met** by an attempt and
by nothing else, and a transfer is given up when it met one failure more than it may be tried again.
So the first transfers meet the failures with all their attempts, and what is left of them costs the
next transfer some attempts, but not the transfer itself (`Tally`).

A sender that nobody cancels, and whose endpoint stays, gets on in this way until its source is
finished (`Sender.Undisturbed`).  How much it has to do yet can be told from its stage and its feed:
every attempt takes a few steps, and there are only so many (`Sender.effort`). -/

namespace UsbPeripheral

/-! ### The count -/

/-- How `n` failures were met by the transfers that came to their end and by the one under way, which
failed `tried` times.  The transfers in `earlier` waited for the host before all these. -/
structure Tally (n retries : Nat) (earlier : List Bytes) (tried : Nat)
    (settled received queue : List Bytes) (left : Nat) : Prop where
  /-- A transfer that failed met failures only. -/
  met : tried = 0 ∨ settled.length * (retries + 1) + tried ≤ n
  left : left = n - (settled.length * (retries + 1) + tried)
  received : received ++ queue = earlier ++ settled.drop (n / (retries + 1))

namespace Tally

variable {n retries tried left : Nat} {earlier settled received queue : List Bytes}

theorem start (n retries : Nat) (queue : List Bytes) : Tally n retries queue 0 [] [] queue n where
  met := .inl rfl
  left := by simp
  received := by simp

/-- An attempt that fails meets a failure. -/
theorem failed (h : Tally n retries earlier tried settled received queue left) (hleft : 0 < left) :
    Tally n retries earlier (tried + 1) settled received queue (left - 1) where
  met := by
    have := h.left
    omega
  left := by
    have := h.left
    omega
  received := h.received

/-- A transfer is sent when no failure is left, and all that were are met by those before it. -/
theorem sent (h : Tally n retries earlier tried settled received queue 0) (htried : tried ≤ retries)
    (piece : Bytes) :
    Tally n retries earlier 0 (settled ++ [piece]) received (queue ++ [piece]) 0 := by
  have hbound : n < (settled.length + 1) * (retries + 1) := by
    have := h.left
    rw [Nat.succ_mul]
    omega
  have hlost : n / (retries + 1) ≤ settled.length :=
    Nat.le_of_lt_succ (Nat.div_lt_of_lt_mul (Nat.mul_comm _ _ ▸ hbound))
  refine ⟨.inl rfl, ?_, ?_⟩
  · rw [List.length_append, List.length_singleton]
    omega
  · rw [← List.append_assoc, h.received, List.drop_append_of_le_length hlost, List.append_assoc]

/-- A transfer that is given up met as many failures as there are attempts. -/
theorem givenUp (h : Tally n retries earlier (retries + 1) settled received queue left)
    (piece : Bytes) :
    Tally n retries earlier 0 (settled ++ [piece]) received queue left := by
  have hmet : (settled.length + 1) * (retries + 1) ≤ n := by
    rw [Nat.succ_mul]
    exact h.met.resolve_left (Nat.succ_ne_zero retries)
  have hlost : settled.length + 1 ≤ n / (retries + 1) :=
    (Nat.le_div_iff_mul_le (Nat.succ_pos retries)).mpr hmet
  refine ⟨.inl rfl, ?_, ?_⟩
  · rw [List.length_append, List.length_singleton, Nat.succ_mul]
    exact h.left
  · rw [h.received, List.drop_eq_nil_of_le (Nat.le_of_succ_le hlost), List.drop_eq_nil_of_le]
    rw [List.length_append]
    exact hlost

theorem taken {taken : Option Bytes} {rest : List Bytes}
    (h : Tally n retries earlier tried settled received (taken.toList ++ rest) left) :
    Tally n retries earlier tried settled (received ++ taken.toList) rest left :=
  ⟨h.met, h.left, (List.append_assoc _ _ _).trans h.received⟩

end Tally

/-! ### Senders -/

namespace Sender

/-- The pieces in hand, the one under way first. -/
def Stage.unsettled : Stage → List Bytes
  | .ready piece rest _ => piece :: rest
  | .writing piece rest _ => piece :: rest
  | .failed piece rest _ _ => piece :: rest
  | _ => []

/-- How often the transfer under way failed.  A sender that has no transfer in progress has no such
failures. -/
def Stage.tried : Stage → Nat
  | .ready _ _ failures => failures
  | .writing _ _ failures => failures
  | .failed _ _ failures _ => failures + 1
  | _ => 0

/-- The transfer that comes to its end between two stages, sent or given up: the pieces that follow
it are next. -/
def Stage.settles (stage next : Stage) : List Bytes :=
  match stage with
  | .writing piece rest _ => if next = following rest then [piece] else []
  | .failed piece rest _ _ => if next = following rest then [piece] else []
  | _ => []

/-- How far a sender can get that nobody cancels and whose endpoint is not disabled.  It ends only
when its source is finished. -/
def Undisturbed (s : Sender) (feed : Feed) : Stage → Prop
  | .idle => True
  | .asking => True
  | .ready _ _ failures => failures ≤ s.retries
  | .writing _ _ failures => failures ≤ s.retries
  | .failed _ _ failures _ => failures ≤ s.retries
  | .leaving exit => exit = .sourceDone ∧ feed = { closed := true }
  | .ended exit => exit = .sourceDone ∧ feed = { closed := true }

/-- What there is to do with so many pieces: every attempt takes three steps, and there are as many
attempts as a piece is tried. -/
def labour (s : Sender) (count : Nat) : Nat := 3 * (s.retries + 1) * count

/-- What is left to do from a stage until the source is asked again. -/
def Stage.effort (s : Sender) : Stage → Nat
  | .idle => 1
  | .ready _ rest failures => s.labour rest.length + 3 * (s.retries - failures) + 4
  | .writing _ rest failures => s.labour rest.length + 3 * (s.retries - failures) + 3
  | .failed _ rest failures _ => s.labour rest.length + 3 * (s.retries - failures) + 2
  | _ => 0

/-- What is left to do for the chunks of a feed. -/
def effort (s : Sender) (feed : Feed) : Nat :=
  feed.chunks.foldr (fun chunk effort => s.labour (pieces s.limit chunk).length + 2 + effort) 0

variable {s : Sender} {feed : Feed} {rest : List Bytes}

theorem effort_cons (s : Sender) (data : Bytes) (chunks : List Bytes) (closed : Bool) :
    s.effort ⟨data :: chunks, closed⟩ =
      s.labour (pieces s.limit data).length + 2 + s.effort ⟨chunks, closed⟩ := rfl

theorem labour_succ (s : Sender) (count : Nat) :
    s.labour (count + 1) = s.labour count + 3 * s.retries + 3 := by
  unfold labour
  rw [Nat.mul_succ]
  omega

@[simp] theorem unsettled_following (rest : List Bytes) : (following rest).unsettled = rest := by
  cases rest <;> rfl

@[simp] theorem tried_following (rest : List Bytes) : (following rest).tried = 0 := by
  cases rest <;> rfl

/-- Where a transfer has failed before, none has just come to its end. -/
theorem settles_of_tried (stage : Stage) {next : Stage} (h : next.tried ≠ 0) :
    stage.settles next = [] := by
  have hnext : ∀ rest, next ≠ following rest := by
    rintro rest rfl
    exact h (tried_following rest)
  cases stage with
  | writing piece rest failures => exact if_neg (hnext rest)
  | failed piece rest failures errno => exact if_neg (hnext rest)
  | _ => rfl

theorem undisturbed_following (s : Sender) (feed : Feed) (rest : List Bytes) :
    s.Undisturbed feed (following rest) := by
  cases rest with
  | nil => exact trivial
  | cons piece rest => exact Nat.zero_le _

theorem Undisturbed.of_open {stage : Stage} (h : s.Undisturbed feed stage)
    (hopen : feed.closed = false) (feed' : Feed) : s.Undisturbed feed' stage := by
  have hsource : ∀ exit, ¬(exit = Exit.sourceDone ∧ feed = { closed := true }) := by
    rintro exit ⟨-, rfl⟩
    cases hopen
  cases stage with
  | leaving exit => exact absurd h (hsource exit)
  | ended exit => exact absurd h (hsource exit)
  | _ => exact h

/-- Nothing is left to send when nothing is left to do. -/
theorem done_of_effort {stage : Stage} (hdone : stage.effort s + s.effort feed = 0) :
    stage.unsettled = [] ∧ feed.chunks = [] := by
  obtain ⟨hstage, hfeed⟩ := Nat.add_eq_zero_iff.mp hdone
  constructor
  · cases stage with
    | ready piece rest failures => cases hstage
    | writing piece rest failures => cases hstage
    | failed piece rest failures errno => cases hstage
    | _ => rfl
  · obtain ⟨_ | ⟨data, chunks⟩, closed⟩ := feed
    · rfl
    · rw [effort_cons] at hfeed
      omega

@[simp] theorem effort_following (s : Sender) (rest : List Bytes) :
    (following rest).effort s = s.labour rest.length + 1 := by
  cases rest with
  | nil => rfl
  | cons piece rest =>
      rw [List.length_cons, labour_succ]
      rfl

end Sender

end UsbPeripheral
