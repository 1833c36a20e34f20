import UsbPeripheral.Emulation.Bus
import UsbPeripheral.Proofs.Workers

/-! # Which endpoints of a bus are enabled

For a device only one thing about the pipes of a bus matters: a handle is **live** at an address if it
names an enabled pipe there.

* A bus is **sound** if every live handle is that of the newest pipe at its address, so that an
  address has at most one.  Enabling relies on it and keeps it (`enable_spec`).
* Everything else that can happen at a bus **quenches** handles at most: no handle becomes live, and
  only those that are disabled cease to be (`Quenches`). -/

namespace UsbPeripheral

/-- The pipe is the same but for what transfers change. -/
structure Pipe.Transferred (p q : Pipe) : Prop where
  address : q.address = p.address
  enabled : q.enabled = p.enabled
  refuses : q.refusesDisable = p.refusesDisable

namespace Bus

/-- A handle names an enabled pipe at an address. -/
def Live (b : Bus) (handle : Handle) (address : Address) : Prop :=
  ∃ p, b.pipe? handle = some p ∧ p.enabled = true ∧ p.address = address

/-- A handle is not live anywhere. -/
def Dead (handle : Handle) (b : Bus) : Prop := ∀ address, ¬b.Live handle address

/-- There are no more pipes than handles, and a live handle is that of the newest pipe. -/
structure Sound (b : Bus) : Prop where
  bounded : b.pipes.length ≤ maxPipes
  newest {handle : Handle} {address : Address} :
    b.Live handle address → b.newest? address = some handle

/-- On a bus without pipes every handle is dead. -/
theorem dead_of_nil {b : Bus} (h : b.pipes = []) (handle : Handle) : Dead handle b := by
  rintro address ⟨p, hp, -, -⟩
  unfold pipe? at hp
  rw [h] at hp
  split at hp
  · cases hp
  · cases hp

theorem sound_of_nil {b : Bus} (h : b.pipes = []) : b.Sound where
  bounded := by
    rw [h]
    exact Nat.zero_le _
  newest hlive := absurd hlive (dead_of_nil h _ _)

/-- The look at the controller's endpoints changes nothing. -/
theorem eq_of_looked {b b' : Bus} (h : b' = b ∨ b' = (Channel.endpoints b).2) : b' = b :=
  h.elim id id

/-! ### The newest pipe -/

theorem newestFrom_congr {address : Address} {n : Nat} {ps qs : List Pipe}
    (h : ps.map (·.address) = qs.map (·.address)) :
    newestFrom address n ps = newestFrom address n qs := by
  induction ps generalizing n qs with
  | nil =>
      cases qs with
      | nil => rfl
      | cons q qs => cases h
  | cons p ps ih =>
      cases qs with
      | nil => cases h
      | cons q qs =>
          obtain ⟨haddress, hrest⟩ := List.cons.inj h
          have haddress : p.address = q.address := haddress
          rw [newestFrom, newestFrom, ih hrest, haddress]

theorem newestFrom_concat (address : Address) (n : Nat) (ps : List Pipe) (p : Pipe) :
    newestFrom address n (ps ++ [p]) =
      if p.address = address then some (n + ps.length) else newestFrom address n ps := by
  induction ps generalizing n with
  | nil => rfl
  | cons q ps ih =>
      rw [List.cons_append, newestFrom, ih, newestFrom, List.length_cons]
      by_cases h : p.address = address
      · rw [if_pos h, if_pos h, Nat.add_assoc, Nat.add_comm 1]
      · rw [if_neg h, if_neg h]

/-- The newest pipe of an address is one at this address. -/
theorem newestFrom_address {address : Address} {n place : Nat} {ps : List Pipe}
    (h : newestFrom address n ps = some place) :
    n ≤ place ∧ ∃ p, ps[place - n]? = some p ∧ p.address = address := by
  induction ps generalizing n with
  | nil => cases h
  | cons q ps ih =>
      rw [newestFrom] at h
      split at h
      · rename_i later hlater
        obtain rfl := Option.some.inj h
        obtain ⟨hle, p, hp, haddress⟩ := ih hlater
        have hplace : later - n = (later - (n + 1)) + 1 := by omega
        refine ⟨by omega, p, ?_, haddress⟩
        rw [hplace]
        exact hp
      · split at h
        · rename_i haddress
          obtain rfl := Option.some.inj h
          refine ⟨Nat.le_refl n, q, ?_, haddress⟩
          rw [Nat.sub_self]
          rfl
        · cases h

/-! ### The pipe of a handle -/

theorem pipe?_modifyPipe (b : Bus) (handle other : Handle) (f : Pipe → Pipe) :
    (b.modifyPipe handle f).pipe? other =
      if other = handle then (b.pipe? other).map f else b.pipe? other := by
  unfold modifyPipe pipe?
  by_cases hzero : handle = 0
  · rw [if_pos hzero]
    by_cases hother : other = 0
    · rw [if_pos hother]
      split <;> rfl
    · have hne : ¬other = handle := fun h => hother (h.trans hzero)
      rw [if_neg hne]
  · rw [if_neg hzero]
    by_cases hother : other = 0
    · rw [if_pos hother]
      split <;> rfl
    · rw [if_neg hother, if_neg hother]
      dsimp only
      rw [List.getElem?_modify]
      have h₁ : handle.toNat ≠ 0 := fun h => hzero (UInt32.toNat_inj.mp h)
      have h₂ : other.toNat ≠ 0 := fun h => hother (UInt32.toNat_inj.mp h)
      by_cases h : other = handle
      · rw [if_pos h, h]
        simp
      · have hplace : handle.toNat - 1 ≠ other.toNat - 1 := by
          intro hplace
          exact h (UInt32.toNat_inj.mp (by omega))
        simp [if_neg h, if_neg hplace]

theorem pipe?_modified {b : Bus} {handle : Handle} {p : Pipe} (hp : b.pipe? handle = some p) (f : Pipe → Pipe) :
    (b.modifyPipe handle f).pipe? handle = some (f p) := by
  rw [pipe?_modifyPipe, if_pos rfl, hp]
  rfl

/-- What a part of the pipes shows after one pipe was changed. -/
theorem map_pipe?_modifyPipe {α : Type} (b : Bus) (handle other : Handle) {f : Pipe → Pipe}
    {part : Pipe → α} {g : α → α} (hf : ∀ p, part (f p) = g (part p)) :
    ((b.modifyPipe handle f).pipe? other).map part =
      if other = handle then ((b.pipe? other).map part).map g else (b.pipe? other).map part := by
  rw [pipe?_modifyPipe]
  split
  · rw [Option.map_map, Option.map_map]
    exact congrArg (Option.map · (b.pipe? other)) (funext hf)
  · rfl

theorem pipe?_lt {b : Bus} {handle : Handle} {p : Pipe} (h : b.pipe? handle = some p) :
    0 < handle.toNat ∧ handle.toNat ≤ b.pipes.length := by
  unfold pipe? at h
  split at h
  · cases h
  · rename_i hzero
    have hne : handle.toNat ≠ 0 := fun h => hzero (UInt32.toNat_inj.mp h)
    obtain ⟨hlt, -⟩ := List.getElem?_eq_some_iff.mp h
    omega

/-! ### Quenching -/

/-- Nothing becomes live, and only the handles in `off` cease to be. -/
structure Quenches (off : Handle → Prop) (b b' : Bus) : Prop where
  places : b'.pipes.map (·.address) = b.pipes.map (·.address)
  fades {handle : Handle} {address : Address} : b'.Live handle address → b.Live handle address
  lasts {handle : Handle} {address : Address} :
    b.Live handle address → ¬off handle → b'.Live handle address

variable {off : Handle → Prop}

theorem Quenches.refl (b : Bus) : Quenches off b b := ⟨rfl, id, fun h _ => h⟩

theorem Quenches.trans {b₁ b₂ b₃ : Bus} (h₁ : Quenches off b₁ b₂) (h₂ : Quenches off b₂ b₃) :
    Quenches off b₁ b₃ where
  places := h₂.places.trans h₁.places
  fades h := h₁.fades (h₂.fades h)
  lasts h hoff := h₂.lasts (h₁.lasts h hoff) hoff

/-- What does not touch the pipes quenches nothing. -/
theorem quenches_of_pipes {b b' : Bus} (h : b'.pipes = b.pipes) : Quenches off b b' := by
  have hpipe : ∀ handle, b'.pipe? handle = b.pipe? handle := by
    intro handle
    unfold pipe?
    rw [h]
  refine ⟨by rw [h], ?_, ?_⟩
  · rintro handle address ⟨p, hp, hlive⟩
    exact ⟨p, (hpipe handle).symm.trans hp, hlive⟩
  · rintro handle address ⟨p, hp, hlive⟩ -
    exact ⟨p, (hpipe handle).trans hp, hlive⟩

theorem places_modifyPipe (b : Bus) (handle : Handle) {f : Pipe → Pipe}
    (haddress : ∀ p, (f p).address = p.address) :
    (b.modifyPipe handle f).pipes.map (·.address) = b.pipes.map (·.address) := by
  unfold modifyPipe
  split
  · rfl
  · refine List.ext_getElem? fun i => ?_
    rw [List.getElem?_map, List.getElem?_map, List.getElem?_modify]
    rcases b.pipes[i]? with _ | p
    · rfl
    · show some (if handle.toNat - 1 = i then f p else p).address = some p.address
      split
      · rw [haddress]
      · rfl

/-- What leaves every pipe its address and enables none quenches its handle at most. -/
theorem quenches_modifyPipe (b : Bus) (handle : Handle) {f : Pipe → Pipe}
    (haddress : ∀ p, (f p).address = p.address)
    (hfades : ∀ p, (f p).enabled = true → p.enabled = true)
    (hlasts : ¬off handle → ∀ p, p.enabled = true → (f p).enabled = true) :
    Quenches off b (b.modifyPipe handle f) := by
  refine ⟨places_modifyPipe b handle haddress, ?_, ?_⟩
  · rintro other address ⟨p, hp, henabled, rfl⟩
    rw [pipe?_modifyPipe] at hp
    split at hp
    · obtain ⟨q, hq, rfl⟩ := Option.map_eq_some_iff.mp hp
      exact ⟨q, hq, hfades q henabled, (haddress q).symm⟩
    · exact ⟨p, hp, henabled, rfl⟩
  · rintro other address ⟨p, hp, henabled, rfl⟩ hoff
    by_cases hother : other = handle
    · subst hother
      refine ⟨f p, ?_, hlasts hoff p henabled, haddress p⟩
      rw [pipe?_modifyPipe, if_pos rfl, hp]
      rfl
    · refine ⟨p, ?_, henabled, rfl⟩
      rw [pipe?_modifyPipe, if_neg hother, hp]

/-- What leaves every pipe its address and whether it is enabled quenches nothing. -/
theorem quenches_of_kept (b : Bus) (handle : Handle) {f : Pipe → Pipe}
    (haddress : ∀ p, (f p).address = p.address) (henabled : ∀ p, (f p).enabled = p.enabled) :
    Quenches off b (b.modifyPipe handle f) :=
  quenches_modifyPipe b handle haddress (fun p h => (henabled p).symm.trans h)
    (fun _ p h => (henabled p).trans h)

theorem Sound.of_quenches {b b' : Bus} (hb : b.Sound) (h : Quenches off b b') : b'.Sound where
  bounded := by
    have hlength := congrArg List.length h.places
    rw [List.length_map, List.length_map] at hlength
    rw [hlength]
    exact hb.bounded
  newest hlive := by
    have hnewest := hb.newest (h.fades hlive)
    unfold newest? at hnewest ⊢
    rw [newestFrom_congr h.places]
    exact hnewest

theorem Sound.of_pipes {b b' : Bus} (hb : b.Sound) (h : b'.pipes = b.pipes) : b'.Sound := by
  have hquenches : Quenches (fun _ => False) b b' := quenches_of_pipes h
  exact hb.of_quenches hquenches

/-- What is dead stays dead. -/
theorem Dead.of_quenches ⦃handle : Handle⦄ ⦃b b' : Bus⦄ (h : Quenches off b b')
    (hdead : Dead handle b) : Dead handle b' :=
  fun address hlive => hdead address (h.fades hlive)

/-! ### The operations of a device -/

/-- A relation is calm if every change of a pipe by a transfer keeps it. -/
theorem calm_of_transfer {R : Bus → Bus → Prop} (refl : ∀ b, R b b)
    (trans : ∀ {b₁ b₂ b₃}, R b₁ b₂ → R b₂ b₃ → R b₁ b₃)
    (modify : ∀ b handle (f : Pipe → Pipe), (∀ p, Pipe.Transferred p (f p)) →
      R b (b.modifyPipe handle f)) : Calm R := by
  have htryRead : ∀ handle room b, R b (tryRead handle room b).2 := by
    intro handle room b
    unfold tryRead
    split
    · split
      · exact refl b
      · split
        · exact modify b handle _ fun _ => ⟨rfl, rfl, rfl⟩
        · split
          · exact modify b handle _ fun _ => ⟨rfl, rfl, rfl⟩
          · exact modify b handle _ fun _ => ⟨rfl, rfl, rfl⟩
    · exact refl b
  constructor
  case refl => exact refl
  case trans => exact trans
  case read =>
    intro resumed handle room b
    show R b (b.read resumed handle room).2
    unfold read
    split
    · refine trans ?_ (htryRead handle room _)
      exact modify b handle _ fun _ => ⟨rfl, rfl, rfl⟩
    · exact htryRead handle room b
  case write =>
    intro handle data b
    show R b (b.write handle data).2
    unfold write
    split
    · split
      · exact refl b
      · split
        · exact modify b handle _ fun _ => ⟨rfl, rfl, rfl⟩
        · exact modify b handle _ fun _ => ⟨rfl, rfl, rfl⟩
    · exact refl b
  case wake => exact fun handle b => modify b handle _ fun _ => ⟨rfl, rfl, rfl⟩

/-- At an endpoint that was woken, a reader does not wait. -/
theorem tryRead_woken {b : Bus} {handle : Handle}
    (hwoken : ∀ p, b.pipe? handle = some p → p.woken = true) (room : Nat) :
    ∃ result b', b.tryRead handle room = (.finished result, b') := by
  unfold tryRead
  cases hp : b.pipe? handle with
  | none => exact ⟨_, _, rfl⟩
  | some p =>
      dsimp only
      split
      · exact ⟨_, _, rfl⟩
      · cases p.fromHost with
        | cons data rest => exact ⟨_, _, rfl⟩
        | nil =>
            dsimp only
            rw [if_pos (hwoken p hp)]
            exact ⟨_, _, rfl⟩

theorem read_woken {b : Bus} {handle : Handle}
    (hwoken : ∀ p, b.pipe? handle = some p → p.woken = true) (resumed : Bool) (room : Nat) :
    ∃ result b', b.read resumed handle room = (.finished result, b') := by
  unfold read
  split
  · refine tryRead_woken (fun p hp => ?_) room
    rw [pipe?_modifyPipe, if_pos rfl] at hp
    obtain ⟨q, hq, rfl⟩ := Option.map_eq_some_iff.mp hp
    exact hwoken q hq
  · exact tryRead_woken hwoken room

theorem quenches_transferred (b : Bus) (handle : Handle) {f : Pipe → Pipe}
    (hf : ∀ p, Pipe.Transferred p (f p)) : Quenches off b (b.modifyPipe handle f) :=
  quenches_of_kept b handle (fun p => (hf p).address) (fun p => (hf p).enabled)

theorem calm_quenches : Calm (Quenches off) :=
  calm_of_transfer .refl .trans fun b handle _ hf => quenches_transferred b handle hf

theorem quenches_disable (b : Bus) {handle : Handle} (hoff : off handle) :
    Quenches off b (b.disable handle).2 := by
  unfold disable
  split
  · exact .refl b
  · refine (quenches_modifyPipe b handle ?_ ?_ ?_).trans (quenches_of_pipes rfl)
    · exact fun _ => rfl
    · exact fun _ h => absurd h Bool.false_ne_true
    · exact fun h => absurd hoff h

/-- An endpoint is disabled only while nobody waits at it; otherwise nothing happens. -/
theorem disable_cases (b : Bus) (handle : Handle) :
    (∃ error, b.disable handle = (.error error, b)) ∨
      ∃ p, b.pipe? handle = some p ∧ p.enabled = true ∧ p.readers = 0 ∧
        b.disable handle = (.ok (),
          (b.modifyPipe handle fun p => { p with enabled := false }).record (.disable handle)) := by
  unfold disable
  cases herror : b.disableError? handle with
  | some errno => exact .inl ⟨_, rfl⟩
  | none =>
      refine .inr ?_
      unfold disableError? at herror
      cases hp : b.pipe? handle with
      | none =>
          rw [hp] at herror
          cases herror
      | some p =>
          rw [hp] at herror
          dsimp only at herror
          by_cases henabled : p.enabled = false
          · rw [if_pos henabled] at herror
            cases herror
          · rw [if_neg henabled] at herror
            by_cases hreaders : 0 < p.readers
            · rw [if_pos hreaders] at herror
              split at herror <;> cases herror
            · exact ⟨p, rfl, by simpa using henabled, by omega, rfl⟩

/-- A handle that was disabled is dead. -/
theorem dead_of_disable ⦃handle : Handle⦄ ⦃b b' : Bus⦄ (h : b.disable handle = (.ok (), b')) :
    Dead handle b' := by
  intro address
  unfold disable at h
  split at h
  · cases h
  · obtain ⟨-, rfl⟩ := Prod.mk.inj h
    rintro ⟨p, hp, henabled, -⟩
    have hp : (b.modifyPipe handle fun p => { p with enabled := false }).pipe? handle = some p := hp
    rw [pipe?_modifyPipe, if_pos rfl] at hp
    obtain ⟨q, -, rfl⟩ := Option.map_eq_some_iff.mp hp
    cases henabled

/-- What enabling an endpoint brings about. -/
structure Enabled (b b' : Bus) (handle : Handle) (address : Address) : Prop where
  sound : b'.Sound
  /-- The address was not in use. -/
  free (other : Handle) : ¬b.Live other address
  /-- The handle of the new pipe is live, and otherwise nothing changes. -/
  live {other : Handle} {there : Address} :
    b'.Live other there ↔ b.Live other there ∨ other = handle ∧ there = address

/-- Every place up to the bound has a handle of its own. -/
theorem toNat_handle {place : Nat} (h : place < maxPipes) :
    (UInt32.ofNat (place + 1)).toNat = place + 1 := by
  refine UInt32.toNat_ofNat_of_lt' ?_
  unfold maxPipes at h
  show _ < 4294967296
  omega

/-- The handle that is given out next was not given out before. -/
theorem pipe?_next {b : Bus} (hbound : b.pipes.length < maxPipes) :
    b.pipe? (UInt32.ofNat (b.pipes.length + 1)) = none := by
  refine Option.eq_none_iff_forall_ne_some.mpr fun p hp => ?_
  have hle := (pipe?_lt hp).2
  rw [toNat_handle hbound] at hle
  omega

theorem pipe?_concat {b b' : Bus} {p : Pipe} (hpipes : b'.pipes = b.pipes ++ [p])
    (hbound : b.pipes.length < maxPipes) (handle : Handle) :
    b'.pipe? handle =
      if handle = UInt32.ofNat (b.pipes.length + 1) then some p else b.pipe? handle := by
  have hnew := toNat_handle hbound
  unfold pipe?
  by_cases hzero : handle = 0
  · have hne : ¬handle = UInt32.ofNat (b.pipes.length + 1) := by
      intro h
      have h := congrArg UInt32.toNat (h.symm.trans hzero)
      rw [hnew] at h
      cases h
    rw [if_pos hzero, if_neg hne, if_pos hzero]
  · have hpos : handle.toNat ≠ 0 := fun h => hzero (UInt32.toNat_inj.mp h)
    rw [if_neg hzero, hpipes]
    by_cases hhandle : handle = UInt32.ofNat (b.pipes.length + 1)
    · rw [if_pos hhandle, hhandle, hnew, Nat.add_sub_cancel, List.getElem?_concat_length]
    · rw [if_neg hhandle, if_neg hzero]
      have hne : handle.toNat - 1 ≠ b.pipes.length := by
        intro h
        exact hhandle (UInt32.toNat_inj.mp (by omega))
      rcases Nat.lt_or_gt_of_ne hne with hlt | hgt
      · exact List.getElem?_append_left hlt
      · rw [List.getElem?_eq_none (Nat.le_of_lt hgt), List.getElem?_eq_none]
        rw [List.length_append]
        exact hgt

theorem Live.newestPipe? {b : Bus} (hb : b.Sound) {handle : Handle} {address : Address}
    (h : b.Live handle address) : (b.newestPipe? address).any (·.enabled) = true := by
  have hnewest := hb.newest h
  obtain ⟨p, hp, henabled, -⟩ := h
  unfold Bus.newestPipe?
  rw [hnewest]
  show (b.pipe? handle).any (·.enabled) = true
  rw [hp]
  exact henabled

/-- A new pipe at an address that is not in use. -/
theorem enabled_concat {b b' : Bus} {p : Pipe} (hb : b.Sound)
    (hpipes : b'.pipes = b.pipes ++ [p]) (hbound : b.pipes.length < maxPipes)
    (hp : p.enabled = true) (hfree : ∀ other, ¬b.Live other p.address) :
    Enabled b b' (UInt32.ofNat (b.pipes.length + 1)) p.address := by
  have hpipe := pipe?_concat hpipes hbound
  have hlive : ∀ other there, b'.Live other there ↔
      b.Live other there ∨ other = UInt32.ofNat (b.pipes.length + 1) ∧ there = p.address := by
    intro other there
    unfold Live
    rw [hpipe]
    by_cases hother : other = UInt32.ofNat (b.pipes.length + 1)
    · have hnone : b.pipe? other = none := by
        refine Option.eq_none_iff_forall_ne_some.mpr fun q hq => ?_
        have hle := (pipe?_lt hq).2
        rw [hother, toNat_handle hbound] at hle
        omega
      rw [if_pos hother, hnone]
      constructor
      · rintro ⟨q, hq, -, rfl⟩
        cases hq
        exact .inr ⟨hother, rfl⟩
      · rintro (⟨q, hq, -⟩ | ⟨-, rfl⟩)
        · cases hq
        · exact ⟨p, rfl, hp, rfl⟩
    · rw [if_neg hother]
      constructor
      · exact .inl
      · rintro (h | ⟨h, -⟩)
        · exact h
        · exact absurd h hother
  refine ⟨⟨?_, ?_⟩, hfree, hlive _ _⟩
  · rw [hpipes, List.length_append]
    exact hbound
  · intro handle address h
    unfold newest?
    rw [hpipes, newestFrom_concat]
    rcases (hlive _ _).mp h with hold | ⟨rfl, rfl⟩
    · have hne : ¬p.address = address := by
        rintro rfl
        exact hfree handle hold
      rw [if_neg hne]
      exact hb.newest hold
    · rw [if_pos rfl, Nat.add_comm]
      rfl

/-- An endpoint whose address is not in use gets a pipe behind the others; otherwise nothing
happens. -/
theorem enable_cases (b : Bus) (endpoint : Endpoint) :
    (∃ error, b.enable endpoint = (.error error, b)) ∨
      ∃ failures b', b.enable endpoint = (.ok (UInt32.ofNat (b.pipes.length + 1)), b') ∧
        ¬(b.newestPipe? endpoint.address).any (·.enabled) = true ∧ b.pipes.length < maxPipes ∧
        b'.pipes = b.pipes ++ [{ address := endpoint.address, failWrites := failures }] := by
  unfold enable
  dsimp only
  by_cases hused : (b.newestPipe? endpoint.address).any (·.enabled) = true
  · rw [if_pos hused]
    exact .inl ⟨_, rfl⟩
  · rw [if_neg hused]
    by_cases hbound : maxPipes ≤ b.pipes.length
    · rw [if_pos hbound]
      exact .inl ⟨_, rfl⟩
    · rw [if_neg hbound]
      exact .inr ⟨_, _, rfl, hused, Nat.lt_of_not_le hbound, rfl⟩

/-- What a successful enable did. -/
theorem enable_inv {b b' : Bus} {endpoint : Endpoint} {handle : Handle}
    (h : b.enable endpoint = (.ok handle, b')) :
    handle = UInt32.ofNat (b.pipes.length + 1) ∧
      ¬(b.newestPipe? endpoint.address).any (·.enabled) = true ∧ b.pipes.length < maxPipes ∧
      ∃ failures,
        b'.pipes = b.pipes ++ [{ address := endpoint.address, failWrites := failures }] := by
  rcases b.enable_cases endpoint with ⟨error, heq⟩ | ⟨failures, b'', heq, hunused, hbound, hpipes⟩
  · rw [heq] at h
    cases h
  · rw [heq] at h
    obtain ⟨hhandle, rfl⟩ := Prod.mk.inj h
    exact ⟨(Except.ok.inj hhandle).symm, hunused, hbound, failures, hpipes⟩

/-- The new pipe is the newest of its address. -/
theorem newest?_of_enable {b b' : Bus} {endpoint : Endpoint} {handle : Handle}
    (h : b.enable endpoint = (.ok handle, b')) :
    b'.newest? endpoint.address = some handle ∧
      ∃ failures, b'.pipe? handle = some { address := endpoint.address, failWrites := failures } := by
  obtain ⟨rfl, -, hbound, failures, hpipes⟩ := enable_inv h
  refine ⟨?_, failures, ?_⟩
  · unfold newest?
    rw [hpipes, newestFrom_concat, if_pos rfl, Nat.add_comm]
    rfl
  · rw [pipe?_concat hpipes hbound, if_pos rfl]

theorem enable_spec {b b' : Bus} {endpoint : Endpoint} {handle : Handle} (hb : b.Sound)
    (h : b.enable endpoint = (.ok handle, b')) : Enabled b b' handle endpoint.address := by
  obtain ⟨rfl, hunused, hbound, failures, hpipes⟩ := enable_inv h
  exact enabled_concat hb hpipes hbound rfl fun other hlive => hunused (hlive.newestPipe? hb)

/-- The pipe in a place is that of the handle of the place. -/
theorem pipe?_place (b : Bus) {place : Nat} (hplace : place < maxPipes) :
    b.pipe? (UInt32.ofNat (place + 1)) = b.pipes[place]? := by
  have hnat := toNat_handle hplace
  have hne : UInt32.ofNat (place + 1) ≠ 0 := by
    intro h
    have h := congrArg UInt32.toNat h
    rw [hnat] at h
    cases h
  unfold pipe?
  rw [if_neg hne, hnat]
  rfl

/-- The handle of an enabled pipe is live, and says where the pipe stands. -/
theorem live_of_enabled {b : Bus} (hb : b.Sound) {place : Nat} {p : Pipe}
    (hplace : b.pipes[place]? = some p) (hp : p.enabled = true) :
    ∃ handle, b.Live handle p.address ∧ handle.toNat = place + 1 := by
  have hlt : place < b.pipes.length := (List.getElem?_eq_some_iff.mp hplace).1
  have hbound := Nat.lt_of_lt_of_le hlt hb.bounded
  exact ⟨UInt32.ofNat (place + 1), ⟨p, (b.pipe?_place hbound).trans hplace, hp, rfl⟩,
    toNat_handle hbound⟩

/-- The pipe in a place is enabled if and only if the handle of the place is live. -/
theorem live_place {b : Bus} {place : Nat} {p : Pipe} (hplace : b.pipes[place]? = some p)
    (hbound : place < maxPipes) (address : Address) :
    b.Live (UInt32.ofNat (place + 1)) address ↔ p.enabled = true ∧ p.address = address := by
  unfold Live
  rw [b.pipe?_place hbound, hplace]
  simp

theorem enabled_filter {ps qs : List Pipe} {keep : Address → Bool}
    (hplaces : qs.map (·.address) = ps.map (·.address))
    (henabled : ∀ (place : Nat) (p q : Pipe), ps[place]? = some p → qs[place]? = some q →
      q.enabled = (p.enabled && keep p.address)) :
    (qs.filter (·.enabled)).map (·.address) =
      ((ps.filter (·.enabled)).map (·.address)).filter keep := by
  induction ps generalizing qs with
  | nil =>
      obtain rfl : qs = [] := List.map_eq_nil_iff.mp hplaces
      rfl
  | cons p ps ih =>
      cases qs with
      | nil => cases hplaces
      | cons q qs =>
          obtain ⟨haddress, hrest⟩ := List.cons.inj hplaces
          have haddress : q.address = p.address := haddress
          have hhead := henabled 0 p q rfl rfl
          have htail := ih hrest fun place p q hp hq => henabled (place + 1) p q hp hq
          rw [List.filter_cons, List.filter_cons, hhead]
          cases hp : p.enabled with
          | false => simpa using htail
          | true =>
              cases hkeep : keep p.address with
              | false => simpa [hkeep] using htail
              | true => simpa [hkeep, haddress] using htail

/-- The enabled addresses are those whose handles still are live, in their order. -/
theorem enabled_of_live {b b' : Bus} {keep : Address → Bool} (hb : b.Sound)
    (hplaces : b'.pipes.map (·.address) = b.pipes.map (·.address))
    (hlive : ∀ handle address, b'.Live handle address ↔ b.Live handle address ∧ keep address) :
    b'.enabled = b.enabled.filter keep := by
  refine enabled_filter hplaces fun place p q hp hq => ?_
  have hlt : place < b.pipes.length := (List.getElem?_eq_some_iff.mp hp).1
  have hbound := Nat.lt_of_lt_of_le hlt hb.bounded
  have haddress : q.address = p.address := by
    have hsame := congrArg (·[place]?) hplaces
    simpa [List.getElem?_map, hp, hq] using hsame
  have hiff := hlive (UInt32.ofNat (place + 1)) p.address
  rw [live_place hq hbound, live_place hp hbound] at hiff
  rw [Bool.eq_iff_iff, Bool.and_eq_true]
  constructor
  · intro h
    obtain ⟨⟨hp, -⟩, hkeep⟩ := hiff.mp ⟨h, haddress⟩
    exact ⟨hp, hkeep⟩
  · rintro ⟨hp, hkeep⟩
    exact (hiff.mpr ⟨⟨hp, rfl⟩, hkeep⟩).1

/-- What quenches nothing leaves the enabled addresses alone. -/
theorem Quenches.enabled {b b' : Bus} (h : Quenches (fun _ => False) b b') (hb : b.Sound) :
    b'.enabled = b.enabled := by
  have hlive : ∀ handle address, b'.Live handle address ↔ b.Live handle address ∧ true = true :=
    fun _ _ => ⟨fun hl => ⟨h.fades hl, rfl⟩, fun hl => h.lasts hl.1 id⟩
  rw [enabled_of_live hb h.places hlive]
  simp

/-- An address is enabled if and only if it has a live handle. -/
theorem mem_enabled {b : Bus} (hb : b.Sound) {address : Address} :
    address ∈ b.enabled ↔ ∃ handle, b.Live handle address := by
  unfold Bus.enabled
  rw [List.mem_map]
  constructor
  · rintro ⟨p, hp, rfl⟩
    obtain ⟨hmem, henabled⟩ := List.mem_filter.mp hp
    obtain ⟨place, hplace⟩ := List.mem_iff_getElem?.mp hmem
    obtain ⟨handle, hlive, -⟩ := live_of_enabled hb hplace henabled
    exact ⟨handle, hlive⟩
  · rintro ⟨handle, p, hp, henabled, rfl⟩
    refine ⟨p, List.mem_filter.mpr ⟨?_, henabled⟩, rfl⟩
    unfold pipe? at hp
    split at hp
    · cases hp
    · exact List.mem_of_getElem? hp

/-- The newest handle of an address is that of a pipe there. -/
theorem pipe?_of_newest? {b : Bus} (hb : b.Sound) {handle : Handle} {address : Address}
    (h : b.newest? address = some handle) :
    ∃ p, b.pipe? handle = some p ∧ p.address = address := by
  unfold newest? at h
  obtain ⟨place, hnewest, rfl⟩ := Option.map_eq_some_iff.mp h
  obtain ⟨hle, p, hp, haddress⟩ := newestFrom_address hnewest
  have hlt : place - 1 < b.pipes.length := (List.getElem?_eq_some_iff.mp hp).1
  have hplace : place = (place - 1) + 1 := by omega
  refine ⟨p, ?_, haddress⟩
  rw [hplace, b.pipe?_place (Nat.lt_of_lt_of_le hlt hb.bounded)]
  exact hp

/-- An address is in use if and only if it is one of the enabled ones. -/
theorem inUse_iff {b : Bus} (hb : b.Sound) {address : Address} :
    (b.newestPipe? address).any (·.enabled) = true ↔ address ∈ b.enabled := by
  rw [mem_enabled hb]
  constructor
  · intro h
    unfold newestPipe? at h
    cases hnewest : b.newest? address with
    | none => simp [hnewest] at h
    | some handle =>
        obtain ⟨p, hp, haddress⟩ := pipe?_of_newest? hb hnewest
        simp only [hnewest, Option.bind_some, hp, Option.any_some] at h
        exact ⟨handle, p, hp, h, haddress⟩
  · rintro ⟨handle, hlive⟩
    exact hlive.newestPipe? hb

end Bus

/-! ### The host -/

/-- Something that a host does at its side of a bus. -/
inductive HostAct where
  | queue (event : ScriptedEvent)
  | send (address : Address) (data : Bytes)
  | receive (address : Address)
  | failWrites (address : Address) (count : Nat)
  | refuseDisable (address : Address)
  | setUdc (udc : List UdcEndpoint)

/-- The bus after something that the host does. -/
def HostAct.apply : HostAct → Bus → Bus
  | queue event, b => b.queue event
  | send address data, b => (b.hostSend address data).2
  | receive address, b => (b.hostReceive address).2
  | failWrites address count, b => b.failWrites address count
  | refuseDisable address, b => b.refuseDisable address
  | setUdc udc, b => { b with udc }

/-- The events that a host queues by an act. -/
def HostAct.queued : HostAct → List ScriptedEvent
  | queue event => [event]
  | _ => []

/-- What an act of a host makes of a bus. -/
inductive HostAct.Makes (b : Bus) : HostAct → Bus → Prop where
  /-- A pipe is changed as by a transfer, and its readers wait on. -/
  | changed {a : HostAct} {handle : Handle} {f : Pipe → Pipe} :
      a.queued = [] → (∀ p, Pipe.Transferred p (f p)) → (∀ p, (f p).readers = p.readers) →
      Makes b a (b.modifyPipe handle f)
  | refusing {address : Address} {handle : Handle} :
      Makes b (.refuseDisable address) (b.modifyPipe handle fun p => { p with refusesDisable := true })
  /-- The pipes are as they were. -/
  | beside {a : HostAct} (owedFailures : ByteMap Nat) (udc : List UdcEndpoint) :
      Makes b a { b with events := b.events ++ a.queued, owedFailures, udc }

theorem HostAct.Makes.of_owed {a : HostAct} {b : Bus} (h : a.queued = [])
    (owedFailures : ByteMap Nat) : Makes b a { b with owedFailures } := by
  have hbeside : Makes b a _ := .beside owedFailures b.udc
  rw [h, List.append_nil] at hbeside
  exact hbeside

/-- There is nothing else that a host can do to a bus. -/
theorem HostAct.makes (a : HostAct) (b : Bus) : Makes b a (a.apply b) := by
  cases a with
  | queue event => exact .beside b.owedFailures b.udc
  | send address data =>
      show Makes b _ (b.hostSend address data).2
      unfold Bus.hostSend
      split
      · split
        · exact .changed rfl (fun _ => ⟨rfl, rfl, rfl⟩) fun _ => rfl
        · exact .of_owed rfl b.owedFailures
      · exact .of_owed rfl b.owedFailures
  | receive address =>
      show Makes b _ (b.hostReceive address).2
      unfold Bus.hostReceive
      split
      · split
        · exact .changed rfl (fun _ => ⟨rfl, rfl, rfl⟩) fun _ => rfl
        · exact .of_owed rfl b.owedFailures
      · exact .of_owed rfl b.owedFailures
  | failWrites address count =>
      show Makes b _ (b.failWrites address count)
      unfold Bus.failWrites
      split
      · split
        · exact .changed rfl (fun _ => ⟨rfl, rfl, rfl⟩) fun _ => rfl
        · exact .of_owed rfl _
      · exact .of_owed rfl _
  | refuseDisable address =>
      show Makes b _ (b.refuseDisable address)
      unfold Bus.refuseDisable
      split
      · exact .refusing
      · exact .of_owed rfl b.owedFailures
  | setUdc udc =>
      have hbeside : Makes b (.setUdc udc) _ := .beside b.owedFailures udc
      rw [show (setUdc udc).queued = [] from rfl, List.append_nil] at hbeside
      exact hbeside

/-- A host quenches nothing. -/
theorem HostAct.quenches {off : Handle → Prop} (a : HostAct) (b : Bus) :
    Bus.Quenches off b (a.apply b) := by
  have hmakes := a.makes b
  generalize a.apply b = b' at hmakes ⊢
  cases hmakes with
  | changed _ hf _ => exact Bus.quenches_transferred b _ hf
  | refusing => exact Bus.quenches_of_kept b _ (fun _ => rfl) (fun _ => rfl)
  | beside owedFailures udc => exact Bus.quenches_of_pipes rfl

end UsbPeripheral
