import Mathlib.Tactic.Common
import UsbPeripheral.Proofs.Pipes

/-! # Threads that share a bus

Any number of threads use the endpoints of one bus, and a host works at its other side.  What happens
while the bus is locked is one **turn** of one thread; turns follow each other in any order.  A read that
finds nothing unlocks the bus, so that other turns fall between its two halves: its thread **waits** until
a later turn resumes it, and is **free** otherwise.

What such threads rely on is the **table** of the bus: under every handle the address, whether the
endpoint is enabled, and how many readers wait (`Row`).  A turn changes the number of readers exactly
as it changes the position of its thread (`Balanced`, `Turned`), so that the table is right at any time
(`Crowd.table_safe`): every waiting thread is counted, it waits at an enabled endpoint only, an enabled
endpoint is the last of its address, and one that was disabled remains so. -/

namespace UsbPeripheral

/-! ### The table of a bus -/

/-- What the table says about an endpoint. -/
structure Row where
  address : Address
  enabled : Bool
  /-- Number of readers that wait. -/
  readers : Nat
  deriving DecidableEq, Repr

/-- What the table says about a pipe. -/
def Pipe.row (p : Pipe) : Row := ⟨p.address, p.enabled, p.readers⟩

namespace Bus

/-- The table of a bus. -/
def row? (b : Bus) (handle : Handle) : Option Row := (b.pipe? handle).map Pipe.row

/-- Number of readers that wait at a handle. -/
def readers (b : Bus) (handle : Handle) : Nat := ((b.row? handle).map (·.readers)).getD 0

/-- Nobody waits at an endpoint that is not enabled. -/
def Manned (b : Bus) : Prop :=
  ∀ ⦃handle : Handle⦄ ⦃e : Row⦄, b.row? handle = some e → 0 < e.readers → e.enabled = true

/-- No handle is lost, none changes its address and none is enabled again. -/
def Ages (b b' : Bus) : Prop :=
  ∀ ⦃handle : Handle⦄ ⦃e : Row⦄, b.row? handle = some e →
    ∃ e', b'.row? handle = some e' ∧ e'.address = e.address ∧ (e'.enabled = true → e.enabled = true)

/-- The table is as it was. -/
def SameTable (b b' : Bus) : Prop := ∀ handle, b'.row? handle = b.row? handle

theorem Ages.refl (b : Bus) : Ages b b := fun _ e he => ⟨e, he, rfl, id⟩

theorem Ages.trans {b₁ b₂ b₃ : Bus} (h₁ : Ages b₁ b₂) (h₂ : Ages b₂ b₃) : Ages b₁ b₃ := by
  intro handle e he
  obtain ⟨e₂, he₂, haddress₂, henabled₂⟩ := h₁ he
  obtain ⟨e₃, he₃, haddress₃, henabled₃⟩ := h₂ he₂
  exact ⟨e₃, he₃, haddress₃.trans haddress₂, fun h => henabled₂ (henabled₃ h)⟩

theorem SameTable.refl (b : Bus) : SameTable b b := fun _ => rfl

theorem row?_of_pipe {b : Bus} {handle : Handle} {p : Pipe} (h : b.pipe? handle = some p) :
    b.row? handle = some p.row := by
  simp [row?, h]

theorem pipe_of_row? {b : Bus} {handle : Handle} {e : Row} (h : b.row? handle = some e) :
    ∃ p, b.pipe? handle = some p ∧ p.row = e :=
  Option.map_eq_some_iff.mp h

theorem readers_of_pipe {b : Bus} {handle : Handle} {p : Pipe} (h : b.pipe? handle = some p) :
    b.readers handle = p.readers := by
  simp [readers, row?_of_pipe h, Pipe.row]

/-- A change of one pipe changes the table under its handle. -/
theorem row?_modifyPipe (b : Bus) (handle other : Handle) {f : Pipe → Pipe} {g : Row → Row}
    (hf : ∀ p, (f p).row = g p.row) :
    (b.modifyPipe handle f).row? other =
      if other = handle then (b.row? other).map g else b.row? other :=
  b.map_pipe?_modifyPipe handle other hf

theorem sameTable_modifyPipe (b : Bus) (handle : Handle) {f : Pipe → Pipe}
    (hf : ∀ p, (f p).row = p.row) : SameTable b (b.modifyPipe handle f) := by
  intro other
  rw [row?_modifyPipe b handle other (g := id) hf]
  simp

theorem sameTable_of_pipes {b b' : Bus} (h : b'.pipes = b.pipes) : SameTable b b' := by
  intro handle
  simp [row?, pipe?, h]

/-! ### What leaves the table alone -/

theorem sameTable_write (b : Bus) (handle : Handle) (data : Bytes) :
    SameTable b (b.write handle data).2 := by
  unfold write
  split
  · split
    · exact .refl b
    · split
      · exact sameTable_modifyPipe b handle fun _ => rfl
      · exact sameTable_modifyPipe b handle fun _ => rfl
  · exact .refl b

theorem sameTable_wake (b : Bus) (handle : Handle) : SameTable b (b.wake handle) :=
  sameTable_modifyPipe b handle fun _ => rfl

end Bus

/-- A host does not touch the table. -/
theorem HostAct.sameTable (a : HostAct) (b : Bus) : Bus.SameTable b (a.apply b) := by
  have hmakes := a.makes b
  generalize a.apply b = b' at hmakes ⊢
  cases hmakes with
  | changed _ hf hreaders =>
      refine Bus.sameTable_modifyPipe b _ fun p => ?_
      unfold Pipe.row
      rw [(hf p).address, (hf p).enabled, hreaders p]
  | refusing => exact Bus.sameTable_modifyPipe b _ fun _ => rfl
  | beside owedFailures udc => exact Bus.sameTable_of_pipes rfl

/-! ### Positions -/

/-- Where a thread stands between its turns. -/
inductive Position where
  | free
  /-- Inside a read that found nothing. -/
  | waiting (handle : Handle) (room : Nat)
  deriving DecidableEq, Repr

namespace Position

/-- Whether a thread waits at a handle. -/
def waitsAt (handle : Handle) : Position → Bool
  | free => false
  | waiting at_ _ => at_ = handle

/-- What a thread adds to the readers of a handle. -/
def weight (handle : Handle) (p : Position) : Nat := if p.waitsAt handle then 1 else 0

@[simp] theorem weight_free (handle : Handle) : free.weight handle = 0 := rfl

@[simp] theorem weight_waiting (handle other : Handle) (room : Nat) :
    (waiting handle room).weight other = if other = handle then 1 else 0 := by
  unfold weight waitsAt
  simp [eq_comm]

/-- Where a thread stands that made a step of a read. -/
def ofReply (handle : Handle) (room : Nat) : ReadReply → Position
  | .waiting => .waiting handle room
  | .finished _ => .free

end Position

/-- What a free thread or the host can do in a turn. -/
inductive Act where
  | enable (endpoint : Endpoint)
  | disable (handle : Handle)
  | read (handle : Handle) (room : Nat)
  | write (handle : Handle) (data : Bytes)
  | wake (handle : Handle)
  | host (act : HostAct)

/-- What a free thread does to the bus, and where it stands then. -/
def Act.perform (b : Bus) : Act → Position × Bus
  | enable endpoint => (.free, (b.enable endpoint).2)
  | disable handle => (.free, (b.disable handle).2)
  | read handle room => ((b.read false handle room).map (.ofReply handle room) id)
  | write handle data => (.free, (b.write handle data).2)
  | wake handle => (.free, b.wake handle)
  | host act => (.free, act.apply b)

/-- A turn of a thread: one that waits looks again, and any other does as it likes. -/
def Position.turn (b : Bus) (act : Act) : Position → Position × Bus
  | free => act.perform b
  | waiting handle room => ((b.read true handle room).map (.ofReply handle room) id)

/-! ### One turn -/

/-- The number of readers under every handle changes as the position of a thread does. -/
def Balanced (old : Position) (b : Bus) (new : Position) (b' : Bus) : Prop :=
  ∀ handle, b'.readers handle + old.weight handle = b.readers handle + new.weight handle

theorem Balanced.trans {old mid new : Position} {b₁ b₂ b₃ : Bus} (h₁ : Balanced old b₁ mid b₂)
    (h₂ : Balanced mid b₂ new b₃) : Balanced old b₁ new b₃ := by
  intro handle
  have hreaders₁ := h₁ handle
  have hreaders₂ := h₂ handle
  omega

/-- What a turn does to the table: readers change as the thread's position does, and the invariants of
the table are kept. -/
structure Turned (old : Position) (b : Bus) (new : Position) (b' : Bus) : Prop where
  balanced : Balanced old b new b'
  manned : b'.Manned
  sound : b'.Sound
  ages : b.Ages b'

/-- What two steps of one turn do. -/
theorem Turned.trans {old mid new : Position} {b₁ b₂ b₃ : Bus} (h₁ : Turned old b₁ mid b₂)
    (h₂ : Turned mid b₂ new b₃) : Turned old b₁ new b₃ where
  balanced := h₁.balanced.trans h₂.balanced
  manned := h₂.manned
  sound := h₂.sound
  ages := h₁.ages.trans h₂.ages

namespace Bus

variable {b b' : Bus}

theorem SameTable.balanced (h : SameTable b b') : Balanced .free b .free b' := by
  intro handle
  simp [readers, h handle]

/-- A turn that leaves the table alone. -/
theorem SameTable.turned (h : SameTable b b') (hmanned : b.Manned) (hsound : b'.Sound) :
    Turned .free b .free b' where
  balanced := h.balanced
  manned handle _ he := hmanned ((h handle).symm.trans he)
  sound := hsound
  ages handle e he := ⟨e, (h handle).trans he, rfl, id⟩

/-- The table is changed under one handle. -/
def ChangesRow (handle : Handle) (e e' : Row) (b b' : Bus) : Prop :=
  b.row? handle = some e ∧ ∀ other, b'.row? other = if other = handle then some e' else b.row? other

theorem changesRow_modifyPipe {handle : Handle} {f : Pipe → Pipe} (g : Row → Row) {p : Pipe}
    (hp : b.pipe? handle = some p) (hpipes : b'.pipes = (b.modifyPipe handle f).pipes)
    (hf : ∀ p, (f p).row = g p.row) : ChangesRow handle p.row (g p.row) b b' := by
  have he := row?_of_pipe hp
  refine ⟨he, fun other => ?_⟩
  rw [sameTable_of_pipes hpipes other, row?_modifyPipe b handle other hf]
  by_cases hother : other = handle
  · rw [if_pos hother, if_pos hother, hother, he]
    rfl
  · rw [if_neg hother, if_neg hother]

/-- The readers under one handle change as the position of a thread at this handle does. -/
theorem ChangesRow.balanced {handle : Handle} {e e' : Row} {old new : Position}
    (h : ChangesRow handle e e' b b')
    (hreaders : e'.readers + old.weight handle = e.readers + new.weight handle)
    (helse : ∀ other, other ≠ handle → old.weight other = new.weight other) :
    Balanced old b new b' := by
  intro other
  unfold readers
  rw [h.2]
  by_cases hother : other = handle
  · rw [if_pos hother, hother, h.1]
    exact hreaders
  · rw [if_neg hother, helse other hother]

/-- A turn that changes the table under one handle. -/
theorem ChangesRow.turned {handle : Handle} {e e' : Row} {old new : Position}
    (h : ChangesRow handle e e' b b') (hbalanced : Balanced old b new b')
    (haddress : e'.address = e.address) (hfades : e'.enabled = true → e.enabled = true)
    (hhere : 0 < e'.readers → e'.enabled = true) (hmanned : b.Manned) (hsound : b'.Sound) :
    Turned old b new b' := by
  refine ⟨hbalanced, ?_, hsound, ?_⟩
  · intro other d hd hpos
    rw [h.2] at hd
    by_cases hother : other = handle
    · rw [if_pos hother] at hd
      obtain rfl := Option.some.inj hd
      exact hhere hpos
    · rw [if_neg hother] at hd
      exact hmanned hd hpos
  · intro other d hd
    by_cases hother : other = handle
    · subst hother
      obtain rfl := Option.some.inj (h.1.symm.trans hd)
      refine ⟨e', ?_, haddress, hfades⟩
      rw [h.2, if_pos rfl]
    · refine ⟨d, ?_, rfl, id⟩
      rw [h.2, if_neg hother, hd]

/-- A reader that looks for a transfer either finishes, which the table does not show, or waits at an
enabled endpoint. -/
theorem tryRead_cases (b : Bus) (handle : Handle) (room : Nat) :
    (∃ result b', b.tryRead handle room = (.finished result, b') ∧ SameTable b b') ∨
      ∃ p, b.pipe? handle = some p ∧ p.enabled = true ∧
        b.tryRead handle room =
          (.waiting, b.modifyPipe handle fun p => { p with readers := p.readers + 1 }) := by
  unfold tryRead
  cases hp : b.pipe? handle with
  | none => exact .inl ⟨_, b, rfl, .refl b⟩
  | some p =>
      dsimp only
      by_cases henabled : p.enabled = true
      · rw [if_neg (by simp [henabled])]
        cases p.fromHost with
        | cons data rest => exact .inl ⟨_, _, rfl, sameTable_modifyPipe b handle fun _ => rfl⟩
        | nil =>
            dsimp only
            by_cases hwoken : p.woken = true
            · rw [if_pos hwoken]
              exact .inl ⟨_, _, rfl, sameTable_modifyPipe b handle fun _ => rfl⟩
            · rw [if_neg hwoken]
              exact .inr ⟨p, rfl, henabled, rfl⟩
      · rw [if_pos (by simpa using henabled)]
        exact .inl ⟨_, b, rfl, .refl b⟩

theorem changesRow_waiting {handle : Handle} {p : Pipe} (hp : b.pipe? handle = some p) :
    ChangesRow handle p.row { p.row with readers := p.readers + 1 } b
      (b.modifyPipe handle fun p => { p with readers := p.readers + 1 }) :=
  changesRow_modifyPipe (fun e => { e with readers := e.readers + 1 }) hp rfl fun _ => rfl

/-- A reader that looks for a transfer and has to wait is counted from then on. -/
theorem balanced_tryRead (b : Bus) (handle : Handle) (room : Nat) :
    Balanced .free b (.ofReply handle room (b.tryRead handle room).1)
      (b.tryRead handle room).2 := by
  rcases b.tryRead_cases handle room with ⟨result, b', heq, hsame⟩ | ⟨p, hp, -, heq⟩
  · rw [heq]
    exact hsame.balanced
  · rw [heq]
    refine (changesRow_waiting hp).balanced ?_ ?_
    · simp [Position.ofReply, Pipe.row]
    · intro other hother
      simp [Position.ofReply, hother]

theorem turned_tryRead (handle : Handle) (room : Nat) (hmanned : b.Manned) (hsound : b.Sound) :
    Turned .free b (.ofReply handle room (b.tryRead handle room).1) (b.tryRead handle room).2 := by
  have hbalanced := b.balanced_tryRead handle room
  have hquenches : Quenches (fun _ => False) b (b.tryRead handle room).2 :=
    calm_quenches.read false handle room b
  have hsound' := hsound.of_quenches hquenches
  rcases b.tryRead_cases handle room with ⟨result, b', heq, hsame⟩ | ⟨p, hp, henabled, heq⟩
  · rw [heq] at hsound' ⊢
    exact hsame.turned hmanned hsound'
  · rw [heq] at hbalanced hsound' ⊢
    exact (changesRow_waiting hp).turned hbalanced rfl id (fun _ => henabled) hmanned hsound'

/-- A reader that is resumed is no longer counted when it looks again. -/
theorem changesRow_resumed {handle : Handle} (hwaits : 0 < b.readers handle) :
    ∃ e, 0 < e.readers ∧ ChangesRow handle e { e with readers := e.readers - 1 } b
      (b.modifyPipe handle fun p => { p with readers := p.readers - 1 }) := by
  cases hp : b.pipe? handle with
  | none => simp [readers, row?, hp] at hwaits
  | some p =>
      rw [readers_of_pipe hp] at hwaits
      exact ⟨p.row, hwaits, changesRow_modifyPipe (fun e => { e with readers := e.readers - 1 }) hp
        rfl fun _ => rfl⟩

theorem balanced_resumed {handle : Handle} (room : Nat) (hwaits : 0 < b.readers handle) :
    Balanced (.waiting handle room) b .free
      (b.modifyPipe handle fun p => { p with readers := p.readers - 1 }) := by
  obtain ⟨e, hpos, hchanges⟩ := changesRow_resumed hwaits
  refine hchanges.balanced ?_ ?_
  · simp only [Position.weight_waiting, Position.weight_free, if_true]
    omega
  · intro other hother
    simp [hother]

/-- A step of a read, whose reader is counted if it waited. -/
theorem balanced_read (resumed : Bool) (handle : Handle) (room : Nat)
    (hwaits : resumed = true → 0 < b.readers handle) :
    Balanced (if resumed then .waiting handle room else .free) b
      (.ofReply handle room (b.read resumed handle room).1) (b.read resumed handle room).2 := by
  cases resumed with
  | false => exact b.balanced_tryRead handle room
  | true => exact (balanced_resumed room (hwaits rfl)).trans (balanced_tryRead _ handle room)

theorem turned_resumed {handle : Handle} (room : Nat) (hwaits : 0 < b.readers handle)
    (hmanned : b.Manned) (hsound : b.Sound) :
    Turned (.waiting handle room) b .free
      (b.modifyPipe handle fun p => { p with readers := p.readers - 1 }) := by
  obtain ⟨e, hpos, hchanges⟩ := changesRow_resumed hwaits
  have henabled : e.enabled = true := hmanned hchanges.1 hpos
  have hquenches : Quenches (fun _ => False) b
      (b.modifyPipe handle fun p => { p with readers := p.readers - 1 }) :=
    quenches_of_kept b handle (fun _ => rfl) (fun _ => rfl)
  exact hchanges.turned (balanced_resumed room hwaits) rfl id (fun _ => henabled) hmanned
    (hsound.of_quenches hquenches)

theorem changesRow_disabled {handle : Handle} {p : Pipe} (hp : b.pipe? handle = some p) :
    ChangesRow handle p.row { p.row with enabled := false } b
      ((b.modifyPipe handle fun p => { p with enabled := false }).record (.disable handle)) :=
  changesRow_modifyPipe (fun e => { e with enabled := false }) hp rfl fun _ => rfl

/-- Disabling an endpoint concerns no reader. -/
theorem balanced_disable (b : Bus) (handle : Handle) :
    Balanced .free b .free (b.disable handle).2 := by
  rcases b.disable_cases handle with ⟨error, heq⟩ | ⟨p, hp, -, -, heq⟩
  · rw [heq]
    exact (SameTable.refl b).balanced
  · rw [heq]
    exact (changesRow_disabled hp).balanced rfl fun _ _ => rfl

theorem turned_disable (handle : Handle) (hmanned : b.Manned) (hsound : b.Sound) :
    Turned .free b .free (b.disable handle).2 := by
  have hbalanced := b.balanced_disable handle
  have hquenches : Quenches (fun h => h = handle) b (b.disable handle).2 := quenches_disable b rfl
  have hsound' := hsound.of_quenches hquenches
  rcases b.disable_cases handle with ⟨error, heq⟩ | ⟨p, hp, henabled, hreaders, heq⟩
  · rw [heq] at hsound' ⊢
    exact (SameTable.refl b).turned hmanned hsound'
  · rw [heq] at hbalanced hsound' ⊢
    refine (changesRow_disabled hp).turned hbalanced rfl (fun _ => henabled) ?_ hmanned hsound'
    intro hpos
    have hpos : 0 < p.readers := hpos
    omega

/-- The table has one handle more when an endpoint was enabled, and nobody waits there. -/
theorem row?_enabled {endpoint : Endpoint} {failures : Nat}
    (hpipes : b'.pipes = b.pipes ++ [{ address := endpoint.address, failWrites := failures }])
    (hbound : b.pipes.length < maxPipes) (other : Handle) :
    b'.row? other =
      if other = UInt32.ofNat (b.pipes.length + 1) then some ⟨endpoint.address, true, 0⟩
      else b.row? other := by
  unfold row?
  rw [pipe?_concat hpipes hbound]
  split <;> rfl

theorem balanced_enable (b : Bus) (endpoint : Endpoint) :
    Balanced .free b .free (b.enable endpoint).2 := by
  rcases b.enable_cases endpoint with ⟨error, heq⟩ | ⟨failures, b', heq, -, hbound, hpipes⟩
  · rw [heq]
    exact (SameTable.refl b).balanced
  · rw [heq]
    intro other
    unfold readers
    rw [row?_enabled hpipes hbound]
    split
    · rename_i hother
      rw [hother, row?, pipe?_next hbound]
      rfl
    · rfl

theorem turned_enable (endpoint : Endpoint) (hmanned : b.Manned) (hsound : b.Sound) :
    Turned .free b .free (b.enable endpoint).2 := by
  have hbalanced := b.balanced_enable endpoint
  rcases b.enable_cases endpoint with ⟨error, heq⟩ |
    ⟨failures, b', heq, -, hbound, hpipes⟩
  · rw [heq]
    exact (SameTable.refl b).turned hmanned hsound
  · have hsound' := (enable_spec hsound heq).sound
    have hnew := pipe?_next hbound
    have hrow := row?_enabled hpipes hbound
    rw [heq] at hbalanced ⊢
    refine ⟨hbalanced, ?_, hsound', ?_⟩
    · intro other e he hpos
      rw [hrow] at he
      split at he
      · cases he
        exact absurd hpos (Nat.lt_irrefl 0)
      · exact hmanned he hpos
    · intro other e he
      have hother : other ≠ UInt32.ofNat (b.pipes.length + 1) := by
        intro hother
        rw [hother, row?, hnew] at he
        cases he
      refine ⟨e, ?_, rfl, id⟩
      rw [hrow, if_neg hother, he]

/-! ### The last endpoint of an address -/

theorem newestFrom_bounds {address : Address} {n place : Nat} {ps : List Pipe}
    (h : newestFrom address n ps = some place) : n ≤ place ∧ place < n + ps.length := by
  induction ps generalizing n with
  | nil => cases h
  | cons p ps ih =>
      rw [newestFrom] at h
      rw [List.length_cons]
      split at h
      · rename_i later hlater
        obtain rfl := Option.some.inj h
        have hbounds := ih hlater
        omega
      · split at h
        · obtain rfl := Option.some.inj h
          omega
        · cases h

/-- The newest place of an address is not before any other place of it. -/
theorem newestFrom_last {address : Address} {n i : Nat} {ps : List Pipe} {p : Pipe}
    (hp : ps[i]? = some p) (haddress : p.address = address) :
    ∃ place, newestFrom address n ps = some place ∧ n + i ≤ place := by
  induction ps generalizing n i with
  | nil => cases hp
  | cons q ps ih =>
      rw [newestFrom]
      cases i with
      | zero =>
          obtain rfl := Option.some.inj hp
          cases hnewest : newestFrom address (n + 1) ps with
          | none => exact ⟨n, if_pos haddress, Nat.le_refl n⟩
          | some place =>
              have hbounds := newestFrom_bounds hnewest
              exact ⟨place, rfl, by omega⟩
      | succ i =>
          obtain ⟨place, hplace, hle⟩ := ih (n := n + 1) hp
          rw [hplace]
          exact ⟨place, rfl, by omega⟩

/-- No endpoint of its address has a larger handle than one that is enabled. -/
theorem Sound.last (hsound : b.Sound) {handle other : Handle} {address : Address} {p : Pipe}
    (hlive : b.Live handle address) (hp : b.pipe? other = some p) (haddress : p.address = address) :
    other.toNat ≤ handle.toNat := by
  have hother := pipe?_lt hp
  unfold pipe? at hp
  split at hp
  · cases hp
  · obtain ⟨place, hplace, hle⟩ := newestFrom_last (n := 1) hp haddress
    have hnewest := hsound.newest hlive
    unfold newest? at hnewest
    rw [hplace] at hnewest
    obtain rfl : UInt32.ofNat place = handle := Option.some.inj hnewest
    have hbounds := newestFrom_bounds hplace
    have hbound := hsound.bounded
    unfold maxPipes at hbound
    have hnat : (UInt32.ofNat place).toNat = place := UInt32.toNat_ofNat_of_lt' (by
      show place < 4294967296
      omega)
    omega

/-- What is true of the handle of an endpoint that is not enabled: it cannot be read or written. -/
structure Retired (b : Bus) (handle : Handle) : Prop where
  disabled : ∃ p, b.pipe? handle = some p ∧ p.enabled = false
  read (room : Nat) :
    b.read false handle room = (.finished (.error (.invalidated .eshutdown)), b)
  write (data : Bytes) : b.write handle data = (.error (.invalidated .eshutdown), b)

theorem retired_of_disabled {handle : Handle} {p : Pipe} (hp : b.pipe? handle = some p)
    (hdisabled : p.enabled = false) : b.Retired handle where
  disabled := ⟨p, hp, hdisabled⟩
  read room := by simp [Bus.read, tryRead, hp, hdisabled]
  write data := by simp [Bus.write, hp, hdisabled]

theorem Retired.of_ages {handle : Handle} (h : b.Retired handle) (hages : b.Ages b') :
    b'.Retired handle := by
  obtain ⟨p, hp, hdisabled⟩ := h.disabled
  obtain ⟨e, he, -, hfades⟩ := hages (row?_of_pipe hp)
  obtain ⟨q, hq, rfl⟩ := pipe_of_row? he
  refine retired_of_disabled hq (Bool.eq_false_iff.mpr fun henabled => ?_)
  have hp' : p.enabled = true := hfades henabled
  rw [hdisabled] at hp'
  cases hp'

end Bus

/-- A turn of any thread that is counted where it waits. -/
theorem Position.turned {p : Position} {b : Bus} (act : Act)
    (hcounted : ∀ handle, p.weight handle ≤ b.readers handle) (hmanned : b.Manned)
    (hsound : b.Sound) : Turned p b (p.turn b act).1 (p.turn b act).2 := by
  cases p with
  | waiting handle room =>
      have hwaits : 0 < b.readers handle := by
        simpa [Nat.pos_iff_ne_zero, Nat.one_le_iff_ne_zero] using hcounted handle
      have hresumed := Bus.turned_resumed room hwaits hmanned hsound
      exact hresumed.trans (Bus.turned_tryRead handle room hresumed.manned hresumed.sound)
  | free =>
      cases act with
      | enable endpoint => exact Bus.turned_enable endpoint hmanned hsound
      | disable handle => exact Bus.turned_disable handle hmanned hsound
      | read handle room => exact Bus.turned_tryRead handle room hmanned hsound
      | write handle data =>
          have hquenches : Bus.Quenches (fun _ => False) b (b.write handle data).2 :=
            Bus.calm_quenches.write handle data b
          exact (Bus.sameTable_write b handle data).turned hmanned (hsound.of_quenches hquenches)
      | wake handle =>
          have hquenches : Bus.Quenches (fun _ => False) b (b.wake handle) :=
            Bus.calm_quenches.wake handle b
          exact (Bus.sameTable_wake b handle).turned hmanned (hsound.of_quenches hquenches)
      | host act =>
          have hquenches : Bus.Quenches (fun _ => False) b (act.apply b) := act.quenches b
          exact (act.sameTable b).turned hmanned (hsound.of_quenches hquenches)

/-! ### Any number of threads -/

/-- Threads that share a bus. -/
structure Crowd where
  bus : Bus
  threads : List Position

/-- A turn of one thread, and what it does if it is free. -/
structure Turn where
  thread : Nat
  act : Act

namespace Crowd

/-- Threads that are free at a bus without endpoints. -/
def fresh (udc : List UdcEndpoint) (count : Nat) : Crowd where
  bus := { udc }
  threads := List.replicate count .free

def step (c : Crowd) (t : Turn) : Crowd :=
  match c.threads[t.thread]? with
  | some position =>
    let (position, bus) := position.turn c.bus t.act
    { bus, threads := c.threads.set t.thread position }
  | none => c

def run (c : Crowd) (turns : List Turn) : Crowd := turns.foldl step c

/-- Number of threads that wait in a read of a handle. -/
def waitingAt (c : Crowd) (handle : Handle) : Nat := c.threads.countP (·.waitsAt handle)

/-- The table counts every thread that waits, and what it says of the endpoints is sound. -/
structure Safe (c : Crowd) : Prop where
  counted (handle : Handle) : c.bus.readers handle = c.waitingAt handle
  manned : c.bus.Manned
  sound : c.bus.Sound

theorem safe_fresh (udc : List UdcEndpoint) (count : Nat) : (fresh udc count).Safe where
  counted handle := by
    have hnone : (fresh udc count).bus.pipe? handle = none := by
      unfold Bus.pipe?
      split <;> rfl
    have hfree : (fresh udc count).waitingAt handle = 0 := by
      refine List.countP_eq_zero.mpr ?_
      intro position hposition
      rw [List.eq_of_mem_replicate hposition]
      exact Bool.false_ne_true
    rw [hfree]
    simp [Bus.readers, Bus.row?, hnone]
  manned handle e he := by
    obtain ⟨p, hp, -⟩ := Bus.pipe_of_row? he
    have hlt := Bus.pipe?_lt hp
    exact absurd hlt.1 (Nat.not_lt_of_le hlt.2)
  sound := Bus.sound_of_nil rfl

variable {c : Crowd}

/-- A waiting thread is one of those that wait. -/
theorem weight_le_waitingAt {i : Nat} {position : Position} (h : c.threads[i]? = some position)
    (handle : Handle) : position.weight handle ≤ c.waitingAt handle := by
  unfold Position.weight
  split
  · rename_i hwaits
    exact List.countP_pos_iff.mpr ⟨position, List.mem_of_getElem? h, hwaits⟩
  · exact Nat.zero_le _

/-- The number of waiting threads changes as the position of the one thread does. -/
theorem waitingAt_set {i : Nat} {old : Position} (h : c.threads[i]? = some old) (new : Position)
    (bus : Bus) (handle : Handle) :
    waitingAt ⟨bus, c.threads.set i new⟩ handle + old.weight handle =
      c.waitingAt handle + new.weight handle := by
  have hle := weight_le_waitingAt h handle
  obtain ⟨hlt, hold⟩ := List.getElem?_eq_some_iff.mp h
  unfold waitingAt at hle ⊢
  rw [List.countP_set hlt, hold]
  unfold Position.weight at hle ⊢
  omega

theorem Safe.step (h : c.Safe) (t : Turn) : (c.step t).Safe ∧ c.bus.Ages (c.step t).bus := by
  unfold Crowd.step
  cases hthread : c.threads[t.thread]? with
  | none => exact ⟨h, .refl _⟩
  | some position =>
      have hcounted : ∀ handle, position.weight handle ≤ c.bus.readers handle := by
        intro handle
        rw [h.counted]
        exact weight_le_waitingAt hthread handle
      have hturned := Position.turned t.act hcounted h.manned h.sound
      refine ⟨⟨?_, hturned.manned, hturned.sound⟩, hturned.ages⟩
      intro handle
      have hreaders := hturned.balanced handle
      have hwaiting := waitingAt_set hthread (position.turn c.bus t.act).1
        (position.turn c.bus t.act).2 handle
      have hbefore := h.counted handle
      dsimp only
      omega

theorem Safe.run (h : c.Safe) (turns : List Turn) :
    (c.run turns).Safe ∧ c.bus.Ages (c.run turns).bus := by
  induction turns generalizing c with
  | nil => exact ⟨h, .refl _⟩
  | cons t turns ih =>
      obtain ⟨hsafe, hages⟩ := h.step t
      obtain ⟨hsafe', hages'⟩ := ih hsafe
      exact ⟨hsafe', hages.trans hages'⟩

/-- What can be said about the endpoints of a bus at any time. -/
structure Table (c : Crowd) : Prop where
  /-- Every waiting thread is counted, and nothing else is. -/
  readers (handle : Handle) : c.bus.readers handle = c.waitingAt handle
  /-- A thread that is resumed is taken off a count that is not zero, at an enabled endpoint. -/
  enabled {i : Nat} {handle : Handle} {room : Nat} :
    c.threads[i]? = some (.waiting handle room) →
      ∃ p, c.bus.pipe? handle = some p ∧ 0 < p.readers ∧ p.enabled = true
  /-- An address has one enabled endpoint at most. -/
  unique {handle other : Handle} {address : Address} :
    c.bus.Live handle address → c.bus.Live other address → other = handle
  /-- The enabled endpoint of an address has its largest handle. -/
  last {handle other : Handle} {address : Address} {p : Pipe} :
    c.bus.Live handle address → c.bus.pipe? other = some p → p.address = address →
      other.toNat ≤ handle.toNat
  /-- An endpoint that was disabled cannot be read or written after any further turns. -/
  retired {handle : Handle} {p : Pipe} (later : List Turn) :
    c.bus.pipe? handle = some p → p.enabled = false → (c.run later).bus.Retired handle

theorem Safe.table (h : c.Safe) : c.Table where
  readers := h.counted
  enabled {i handle room} hthread := by
    have hle := weight_le_waitingAt hthread handle
    rw [← h.counted, Position.weight_waiting, if_pos rfl] at hle
    cases hp : c.bus.pipe? handle with
    | none => simp [Bus.readers, Bus.row?, hp] at hle
    | some p =>
        rw [Bus.readers_of_pipe hp] at hle
        exact ⟨p, rfl, hle, h.manned (Bus.row?_of_pipe hp) hle⟩
  unique hlive hother := by
    have hnewest := (h.sound.newest hlive).symm.trans (h.sound.newest hother)
    exact (Option.some.inj hnewest).symm
  last := h.sound.last
  retired later hp hdisabled :=
    (Bus.retired_of_disabled hp hdisabled).of_ages (h.run later).2

/-- The table of a bus is right after any turns of any number of threads. -/
theorem table_safe (udc : List UdcEndpoint) (count : Nat) (turns : List Turn) :
    ((fresh udc count).run turns).Table :=
  ((safe_fresh udc count).run turns).1.table

/-- While two readers wait the endpoint cannot be disabled, and one wake lets one of them go. -/
example :
    let c := (fresh [] 3).run
      [⟨0, .enable (.bulk 2 64)⟩, ⟨0, .read 1 64⟩, ⟨1, .read 1 8⟩, ⟨2, .disable 1⟩, ⟨2, .wake 1⟩,
        ⟨1, .wake 1⟩, ⟨0, .wake 1⟩]
    c.threads = [.waiting 1 64, .free, .free] ∧ c.waitingAt 1 = 1 ∧ c.bus.enabled = [2] := by
  decide

end Crowd

end UsbPeripheral
