import UsbPeripheral.Proofs.Sending

/-! # Holes in a chunk

A piece that is given up is not taken by the endpoint.  What the host gets of the chunk is **unbroken**
if it is a front part of the chunk, nothing of which was sent after a piece that was given up.

A sender gives up a piece and not its chunk: it goes on with the next piece.  So the chunks that are
unbroken are those of which no piece was given up but the last one (`Sender.unbroken_iff`), and other
chunks have a hole (`Sender.holed_chunk`). -/

namespace UsbPeripheral.Sender

/-- The host gets no more of a chunk once a piece of it is missing. -/
structure Passage.Unbroken (p : Passage) : Prop where
  /-- What the endpoint took is a front part of the chunk. -/
  front : p.accepted.flatten <+: p.chunk
  /-- No round comes after one in which a piece was given up. -/
  unfollowed : p.rounds.Pairwise fun r _ => r.fate ≠ .givenUp

/-- No piece but the last one is given up. -/
def LastGivenUp (pieces : List Bytes) (rounds : List Round) : Prop :=
  ∀ i r, rounds[i]? = some r → r.fate = .givenUp → i + 1 = pieces.length

section conveys

variable {retries : Nat} {pieces : List Bytes} {rounds : List Round} {gone : Bool} {piece : Bytes}
  {r : Round}

theorem lastGivenUp_nil : LastGivenUp pieces [] := fun _ _ h => nomatch h

theorem lastGivenUp_cons : LastGivenUp (piece :: pieces) (r :: rounds) ↔
    (r.fate = .givenUp → pieces = []) ∧ LastGivenUp pieces rounds := by
  constructor
  · refine fun h => ⟨fun hfate => ?_, fun i r' hr' hfate => ?_⟩
    · exact List.length_eq_zero_iff.mp (Nat.succ_inj.mp (h 0 r rfl hfate)).symm
    · exact Nat.succ_inj.mp (h (i + 1) r' hr' hfate)
  · rintro ⟨hfirst, hothers⟩ (_ | i) r' hr' hfate
    · cases hr'
      rw [hfirst hfate]
      rfl
    · rw [List.length_cons, hothers i r' hr' hfate]

/-- As long as pieces are left, there is another round. -/
theorem Conveys.nil_iff (h : Conveys retries pieces rounds gone) : rounds = [] ↔ pieces = [] := by
  cases h with
  | nil => exact iff_of_true rfl rfl
  | cons _ _ _ => exact ⟨nofun, nofun⟩
  | gone _ _ => exact ⟨nofun, nofun⟩

/-- A piece that is given up ends the passage only if there is no other piece. -/
theorem Conveys.pairwise_iff (h : Conveys retries pieces rounds gone) :
    (rounds.Pairwise fun r _ => r.fate ≠ .givenUp) ↔ LastGivenUp pieces rounds := by
  induction h with
  | nil => exact iff_of_true .nil lastGivenUp_nil
  | @cons r pieces rounds gone _ _ hconveys ih =>
      rw [List.pairwise_cons, lastGivenUp_cons, ih, ← hconveys.nil_iff, List.eq_nil_iff_forall_not_mem]
      exact and_congr_left fun _ =>
        ⟨fun h hfate r' hr' => h r' hr' hfate, fun h r' hr' hfate => h hfate r' hr'⟩
  | @gone r pieces _ hfate =>
      have hlast : LastGivenUp (r.piece :: pieces) [r] :=
        lastGivenUp_cons.mpr ⟨fun h => absurd (hfate.symm.trans h) nofun, lastGivenUp_nil⟩
      exact iff_of_true (List.pairwise_singleton _ _) hlast

theorem Conveys.accepted_front (h : Conveys retries pieces rounds gone)
    (hlast : LastGivenUp pieces rounds) : rounds.flatMap Round.accepted <+: pieces := by
  induction h with
  | nil => exact List.prefix_rfl
  | @cons r pieces rounds gone _ hfate hconveys ih =>
      obtain ⟨hgivenUp, hothers⟩ := lastGivenUp_cons.mp hlast
      rw [List.flatMap_cons, Round.accepted]
      split
      · exact (List.prefix_cons_inj _).mpr (ih hothers)
      · next hrefused =>
          have hfate : r.fate = .givenUp := by
            cases h : r.fate with
            | accepted => exact absurd h hrefused
            | givenUp => rfl
            | gone => exact absurd h hfate
          rw [hconveys.nil_iff.mpr (hgivenUp hfate)]
          exact List.nil_prefix
  | @gone r pieces _ hfate =>
      rw [List.flatMap_singleton, Round.accepted, hfate]
      exact List.nil_prefix

end conveys

/-- A given up piece spoils its chunk unless it is the last one: the pieces after it are sent. -/
theorem Conveys.unbroken_iff_last {limit retries : Nat} {p : Passage} {gone : Bool} {ps : List Bytes}
    (hcut : Cut limit p.chunk ps) (h : Conveys retries ps p.rounds gone) :
    p.Unbroken ↔ LastGivenUp ps p.rounds := by
  refine ⟨fun hunbroken => h.pairwise_iff.mp hunbroken.unfollowed, fun hlast => ?_⟩
  obtain ⟨others, hothers⟩ := h.accepted_front hlast
  have hfront : p.accepted.flatten ++ others.flatten = p.chunk := by
    rw [← List.flatten_append, ← hcut.flatten, ← hothers]
    rfl
  exact ⟨⟨_, hfront⟩, h.pairwise_iff.mpr hlast⟩

theorem Transmits.unbroken_iff_last {limit retries : Nat} {chunks : List Bytes} {passages : List Passage}
    {exit : Exit} (hlimit : 0 < limit) (h : Transmits limit retries chunks passages exit) :
    ∀ p ∈ passages, p.Unbroken ↔ LastGivenUp (pieces limit p.chunk) p.rounds := by
  induction h with
  | done => exact List.forall_mem_nil _
  | cons hcut hconveys _ ih =>
      refine List.forall_mem_cons.mpr ⟨?_, ih⟩
      rw [← hcut.eq_pieces hlimit]
      exact hconveys.unbroken_iff_last hcut
  | gone hcut hconveys =>
      refine List.forall_mem_singleton.mpr ?_
      rw [← hcut.eq_pieces hlimit]
      exact hconveys.unbroken_iff_last hcut

/-- **When a chunk is unbroken.**  Of a chunk that a worker passed on, the host gets a front part, and
nothing after a piece that was given up, exactly if no piece was given up but the last one. -/
theorem unbroken_iff {settings : Settings} {endpoint : Endpoint} {handle : Handle} {feed : UInt8}
    {s : Sender} {chunks : List Bytes} {outcomes : Stream' Attempt}
    (hs : (Worker.start settings endpoint handle (.source feed)).duty = .sending s feed .idle) :
    ((∃ passages exit left, Account s.limit s.retries chunks outcomes passages exit left) ∨
        s.Stalls ⟨.idle, ⟨chunks, outcomes⟩, []⟩) ∧
      ∀ passages exit left, Account s.limit s.retries chunks outcomes passages exit left →
        (∃ n, ∀ flags : List Bool, n ≤ flags.length →
          (flags.foldl s.perform ⟨.idle, ⟨chunks, outcomes⟩, []⟩).log =
            passages.flatMap Passage.deeds ++ closing exit) ∧
        ∀ p ∈ passages, p.Unbroken ↔ LastGivenUp (pieces s.limit p.chunk) p.rounds := by
  have hlimit : 0 < s.limit := (start_duty hs).1 ▸ Nat.le_max_right _ _
  refine ⟨account_or_stalls hlimit chunks outcomes [], fun passages exit left haccount => ⟨?_, ?_⟩⟩
  · obtain ⟨n, hn⟩ := haccount.performs hlimit
    exact ⟨n, fun flags hflags => congrArg Performance.log (hn flags hflags)⟩
  · exact haccount.transmits.unbroken_iff_last hlimit

/-- A chunk is unbroken that loses its last piece. -/
theorem clipped_unbroken :
    let settings : Settings := { writeRetries := 1, maxTransfer := 0 }
    let s : Sender := { address := narrow.address, limit := 2, retries := 1 }
    (Worker.start settings narrow 7 (.source 5)).duty = .sending s 5 .idle ∧
      Account 2 1 [[1, 2, 3], [], [4]] bumpy bumpyPassages .sourceDone (Stream'.const (.ok 0)) ∧
      clipped ∈ bumpyPassages ∧ clipped.Unbroken := by
  intro settings s
  have hstart : (Worker.start settings narrow 7 (.source 5)).duty = .sending s 5 .idle := rfl
  have hmem : clipped ∈ bumpyPassages := List.mem_cons_self
  refine ⟨hstart, bumpy_account, hmem, ?_⟩
  have hcut : Cut 2 ([1, 2] ++ [3]) [[1, 2], [3]] := .cons rfl (by decide) (.last (by decide))
  refine (((unbroken_iff hstart).2 _ _ _ bumpy_account).2 clipped hmem).mpr ?_
  rw [show pieces s.limit clipped.chunk = [[1, 2], [3]] from (hcut.eq_pieces (by decide)).symm]
  exact lastGivenUp_cons.mpr ⟨nofun, lastGivenUp_cons.mpr ⟨fun _ => rfl, lastGivenUp_nil⟩⟩

/-- One write fails, and no other. -/
def dented : Stream' Attempt :=
  [.ok 1, .error (.failed .eio), .ok 1, .ok 1] ++ₛ Stream'.const (.ok 1)

/-- A chunk that loses the piece in its middle. -/
def holed : Passage :=
  ⟨[1, 2, 3], [⟨[1], [.ok 1], .accepted⟩, ⟨[2], [.error (.failed .eio)], .givenUp⟩,
    ⟨[3], [.ok 1], .accepted⟩]⟩

theorem dented_account :
    Account 1 0 [[1, 2, 3], [4]] dented [holed, ⟨[4], [⟨[4], [.ok 1], .accepted⟩]⟩] .sourceDone
      (Stream'.const (.ok 1)) where
  transmits := by
    have hcut : Cut 1 ([1] ++ ([2] ++ [3])) [[1], [2], [3]] :=
      .cons rfl (by decide) (.cons rfl (by decide) (.last (by decide)))
    have haccepted : Settles 0 [.ok 1] .accepted := .accepted 1 .nil
    have hgivenUp : Settles 0 [.error (.failed .eio)] .givenUp := .givenUp .nil (by decide) rfl
    have hholed : Conveys 0 [[1], [2], [3]] holed.rounds false :=
      .cons (r := ⟨_, _, _⟩) haccepted (by decide)
        (.cons (r := ⟨_, _, _⟩) hgivenUp (by decide)
          (.cons (r := ⟨_, _, _⟩) haccepted (by decide) .nil))
    refine .cons (p := holed) hcut hholed ?_
    exact .cons (p := ⟨_, _⟩) (.last (by decide))
      (.cons (r := ⟨_, _, _⟩) haccepted (by decide) .nil) .done
  outcomes := rfl

/-- A worker that may not try again gives up the second byte of a chunk, and sends the third. -/
theorem holed_chunk :
    let settings : Settings := { writeRetries := 0, maxTransfer := 1 }
    let endpoint : Endpoint := .bulk 129 1
    let s : Sender := { address := 129, limit := 1, retries := 0 }
    (Worker.start settings endpoint 7 (.source 5)).duty = .sending s 5 .idle ∧
      (∃ n, ∀ flags : List Bool, n ≤ flags.length →
        (flags.foldl s.perform ⟨.idle, ⟨[[1, 2, 3], [4]], dented⟩, []⟩).log =
          holed.deeds ++ [.asked (.chunk [4]), .wrote [4] (.ok 1), .asked .finished]) ∧
      holed.deeds = [.asked (.chunk [1, 2, 3]), .wrote [1] (.ok 1),
        .wrote [2] (.error (.failed .eio)), .wrote [3] (.ok 1)] ∧
      holed.accepted.flatten = [1, 3] ∧ ¬ holed.accepted.flatten <+: holed.chunk ∧
      ¬ holed.Unbroken := by
  intro settings endpoint s
  obtain ⟨n, hn⟩ := dented_account.performs (s := s) Nat.one_pos
  have hbroken : ¬ holed.accepted.flatten <+: holed.chunk := by decide
  refine ⟨rfl, ⟨n, fun flags hflags => ?_⟩, rfl, rfl, hbroken, fun h => hbroken h.front⟩
  rw [hn flags hflags]
  rfl

end UsbPeripheral.Sender
