import UsbPeripheral.Proofs.Resemblance
import UsbPeripheral.Proofs.Retirement

/-! # Enabling endpoints on two buses

Whether an endpoint can be enabled depends on the enabled addresses only, as long as there are handles
left: on buses that are **level** (`Bus.Level`), which have the same addresses enabled, it is enabled on
both or refused on both (`Bus.Level.enable`), and so are the endpoints of a whole configuration
(`Gadget.Level.bringUp`).

An endpoint that was just enabled is vacant, and stays so while others are enabled
(`Gadget.bringUp_vacant`).  Its slot is posted when it is entered into the roster
(`Gadget.does_startWorker_posted`), which keeps the roster orderly (`Gadget.Orderly.enrolled`). -/

namespace UsbPeripheral

/-! ### Enabling endpoints on two buses -/

namespace Bus

/-- The buses are sound, and have the same addresses enabled. -/
structure Level (b₁ b₂ : Bus) : Prop where
  soundFirst : b₁.Sound
  soundSecond : b₂.Sound
  enabled : b₂.enabled = b₁.enabled

/-- What does not touch the pipes keeps buses level. -/
theorem Level.of_pipes {b₁ b₂ b₁' b₂' : Bus} (h : Level b₁ b₂) (h₁ : b₁'.pipes = b₁.pipes)
    (h₂ : b₂'.pipes = b₂.pipes) : Level b₁' b₂' where
  soundFirst := h.soundFirst.of_pipes h₁
  soundSecond := h.soundSecond.of_pipes h₂
  enabled := by
    have henabled := h.enabled
    unfold Bus.enabled at henabled ⊢
    rw [h₁, h₂]
    exact henabled

/-- A bus has given all its handles out. -/
def exhausted : DeviceError := .channel .epEnable .eoverflow

theorem enable_used {b : Bus} (hb : b.Sound) {endpoint : Endpoint}
    (hused : endpoint.address ∈ b.enabled) :
    b.enable endpoint = (.error (.channel .epEnable .ebusy), b) := by
  unfold enable
  dsimp only
  rw [if_pos ((inUse_iff hb).mpr hused)]

/-- An endpoint whose address is not in use is enabled while there are handles left. -/
theorem enable_unused {b : Bus} (hb : b.Sound) {endpoint : Endpoint}
    (hunused : endpoint.address ∉ b.enabled) :
    b.enable endpoint = (.error exhausted, b) ∨
      ∃ handle b', b.enable endpoint = (.ok handle, b') ∧ b'.Sound ∧
        b'.enabled = b.enabled ++ [endpoint.address] := by
  by_cases hbound : maxPipes ≤ b.pipes.length
  · left
    unfold enable
    dsimp only
    rw [if_neg fun h => hunused ((inUse_iff hb).mp h), if_pos hbound]
    rfl
  · right
    rcases b.enable_cases endpoint with ⟨error, heq⟩ | ⟨failures, b', heq, -, -, hpipes⟩
    · exfalso
      unfold enable at heq
      dsimp only at heq
      rw [if_neg fun h => hunused ((inUse_iff hb).mp h), if_neg hbound] at heq
      cases heq
    · refine ⟨_, b', heq, (enable_spec hb heq).sound, ?_⟩
      unfold Bus.enabled
      rw [hpipes]
      simp

/-- What enabling an endpoint on level buses leads to. -/
inductive Level.Enabling (b₁ b₂ : Bus) :
    Except DeviceError Handle × Bus → Except DeviceError Handle × Bus → Prop
  | refused {error : DeviceError} : Enabling b₁ b₂ (.error error, b₁) (.error error, b₂)
  | enabled {handle₁ handle₂ : Handle} {b₁' b₂' : Bus} : Level b₁' b₂' →
      Enabling b₁ b₂ (.ok handle₁, b₁') (.ok handle₂, b₂')
  | exhaustedFirst {r₂ : Except DeviceError Handle × Bus} :
      Enabling b₁ b₂ (.error exhausted, b₁) r₂
  | exhaustedSecond {r₁ : Except DeviceError Handle × Bus} :
      Enabling b₁ b₂ r₁ (.error exhausted, b₂)

theorem Level.enable {b₁ b₂ : Bus} (h : Level b₁ b₂) (endpoint : Endpoint) :
    Level.Enabling b₁ b₂ (b₁.enable endpoint) (b₂.enable endpoint) := by
  by_cases hused : endpoint.address ∈ b₁.enabled
  · have hused₂ : endpoint.address ∈ b₂.enabled := h.enabled ▸ hused
    rw [enable_used h.soundFirst hused, enable_used h.soundSecond hused₂]
    exact .refused
  · have hunused₂ : endpoint.address ∉ b₂.enabled := h.enabled ▸ hused
    rcases enable_unused h.soundFirst hused with heq₁ | ⟨handle₁, b₁', heq₁, hsound₁, henabled₁⟩
    · rw [heq₁]
      exact .exhaustedFirst
    · rcases enable_unused h.soundSecond hunused₂ with
        heq₂ | ⟨handle₂, b₂', heq₂, hsound₂, henabled₂⟩
      · rw [heq₂]
        exact .exhaustedSecond
      · rw [heq₁, heq₂]
        refine .enabled ⟨hsound₁, hsound₂, ?_⟩
        rw [henabled₁, henabled₂, h.enabled]

/-! ### New endpoints are vacant -/

theorem spares_enable {b : Bus} (hb : b.Sound) (endpoint : Endpoint) (handle : Handle) :
    Spares handle b (b.enable endpoint).2 where
  lasts hlive := by
    rcases hcall : b.enable endpoint with ⟨error | new, b'⟩
    · rcases b.enable_cases endpoint with ⟨error', heq⟩ | ⟨failures, b'', heq, -, -, -⟩
      · rw [heq] at hcall
        obtain ⟨-, rfl⟩ := Prod.mk.inj hcall
        exact hlive
      · rw [heq] at hcall
        cases hcall
    · exact (enable_spec hb hcall).live.mpr (.inl hlive)
  yields h := b.milder_enable endpoint h
  readers := b.balanced_enable endpoint handle

theorem vacant_of_enable {b b' : Bus} (hb : b.Sound) {endpoint : Endpoint} {handle : Handle}
    (h : b.enable endpoint = (.ok handle, b')) : b'.Vacant handle endpoint.address := by
  have hlive := (enable_spec hb h).live.mpr (.inr ⟨rfl, rfl⟩)
  obtain ⟨rfl, -, hbound, -⟩ := enable_inv h
  have hnew := pipe?_next hbound
  have hmilder := b.milder_enable endpoint
  have hbalanced := b.balanced_enable endpoint (UInt32.ofNat (b.pipes.length + 1))
  rw [h] at hmilder hbalanced
  refine ⟨hlive, hmilder fun p hp => ?_, ?_⟩
  · rw [hnew] at hp
    cases hp
  · have hbefore : b.readers (UInt32.ofNat (b.pipes.length + 1)) = 0 := by
      unfold readers row?
      rw [hnew]
      rfl
    exact hbalanced.trans hbefore

end Bus

/-! ### New workers -/

namespace Worker

variable (settings : Settings) (endpoint : Endpoint) (handle : Handle) (data : EndpointData)

theorem handle_start : (start settings endpoint handle data).handle = handle := by
  cases data <;> rfl

/-- A new worker does not wait. -/
theorem position_start : (start settings endpoint handle data).position = .free := by
  cases data with
  | source feed => rfl
  | sink sink =>
      by_cases hlimit : transferLimit settings endpoint ≤ maxBufferSize
      · simp [start, position, hlimit]
      · simp [start, position, hlimit]

end Worker

namespace Gadget

variable {P : Type} {g g₁ g₂ : Gadget Bus P}

/-! ### Endpoints that stay while others are enabled -/

/-- Endpoints that were there are there still, on a bus that is still sound. -/
def Retains (g g' : Gadget Bus P) : Prop :=
  g.bus.Sound → g'.bus.Sound ∧ ∀ handle, Bus.Spares handle g.bus g'.bus

theorem Retains.trans (g₁ g₂ g₃ : Gadget Bus P) (h₁ : Retains g₁ g₂) (h₂ : Retains g₂ g₃) :
    Retains g₁ g₃ := by
  intro hsound
  obtain ⟨hsound₂, hspares₁⟩ := h₁ hsound
  obtain ⟨hsound₃, hspares₂⟩ := h₂ hsound₂
  exact ⟨hsound₃, fun handle => (hspares₁ handle).trans (hspares₂ handle)⟩

theorem retains_of_pipes {g g' : Gadget Bus P} (h : g'.bus.pipes = g.bus.pipes) :
    Retains g g' := by
  intro hsound
  refine ⟨hsound.of_pipes h, fun handle => ?_⟩
  exact Bus.spares_of_table (Bus.quenches_of_pipes h) (Bus.milder_of_pipes h)
    (Bus.sameTable_of_pipes h) handle

theorem retains_enable (endpoint : Endpoint) :
    Keeps (Retains (P := P)) (call (Channel.enable endpoint)) := by
  intro g hsound
  refine ⟨?_, g.bus.spares_enable hsound endpoint⟩
  show (g.bus.enable endpoint).2.Sound
  rcases hcall : g.bus.enable endpoint with ⟨error | handle, b'⟩
  · rcases g.bus.enable_cases endpoint with ⟨error', heq⟩ | ⟨failures, b'', heq, -, -, -⟩
    · rw [heq] at hcall
      obtain ⟨-, rfl⟩ := Prod.mk.inj hcall
      exact hsound
    · rw [heq] at hcall
      cases hcall
  · exact (Bus.enable_spec hsound hcall).sound

theorem retains_enableAll (endpoints : List Endpoint) :
    Keeps (Retains (P := P)) (enableAll endpoints) :=
  keeps_enableAll (fun _ => retains_of_pipes rfl) Retains.trans retains_enable endpoints

theorem retains_bringUp (configuration : Configuration) :
    Keeps (Retains (P := P)) (bringUp configuration) :=
  keeps_bringUp (fun _ => retains_of_pipes rfl) Retains.trans retains_enable
    (fun _ _ => retains_of_pipes rfl) (fun _ => retains_of_pipes rfl) configuration

/-- Endpoints that were enabled together are vacant. -/
theorem enableAll_vacant {endpoints : List Endpoint} {g g' : Gadget Bus P}
    {enabled : List (Endpoint × Handle)} (hg : g.bus.Sound)
    (h : g.does (enableAll endpoints) = (.ok enabled, g')) :
    ∀ e ∈ enabled, g'.bus.Vacant e.2 e.1.address := by
  induction endpoints generalizing g enabled with
  | nil =>
      cases h
      exact nofun
  | cons endpoint rest ih =>
      obtain ⟨handle, channel, later, henable, hrest, rfl⟩ := does_enableAll_cons_eq_ok h
      have hsound : (g.withChannel channel).bus.Sound := (Bus.enable_spec hg henable).sound
      have hlater := retains_enableAll rest (g.withChannel channel) hsound
      rw [hrest] at hlater
      have hvacant := Bus.vacant_of_enable hg henable
      exact List.forall_mem_cons.mpr ⟨hvacant.spared (hlater.2 handle), ih hsound hrest⟩

theorem bringUp_vacant {configuration : Configuration} {g g' : Gadget Bus P}
    {enabled : List (Endpoint × Handle)} (hg : g.bus.Sound)
    (h : g.does (bringUp configuration) = (.ok enabled, g')) :
    ∀ e ∈ enabled, g'.bus.Vacant e.2 e.1.address := by
  obtain ⟨g₁, henable, rfl⟩ := does_bringUp_eq_ok h
  have hsound := (retains_enableAll configuration.endpoints g hg).1
  rw [henable] at hsound
  intro e he
  have hvacant := enableAll_vacant hg henable e he
  have hretains : Retains g₁ (g₁.withChannel
      ((g₁.bus.record (.vbusDraw configuration.maxPower)).record .configure)) :=
    retains_of_pipes rfl
  exact hvacant.spared ((hretains hsound).2 e.2)

/-! ### Bringing endpoints up on two buses -/

/-- The buses of the devices are level. -/
def Level (g₁ g₂ : Gadget Bus P) : Prop := Bus.Level g₁.bus g₂.bus

/-- The same endpoints were enabled. -/
def SameEndpoints (enabled₁ enabled₂ : List (Endpoint × Handle)) : Prop :=
  enabled₂.map (·.1) = enabled₁.map (·.1)

theorem Level.enableAll (h : Level g₁ g₂) (endpoints : List Endpoint) :
    Paired (· = Bus.exhausted) Level SameEndpoints (g₁.does (enableAll endpoints))
      (g₂.does (enableAll endpoints)) := by
  induction endpoints generalizing g₁ g₂ with
  | nil => exact .ok rfl h
  | cons endpoint rest ih =>
      have hcall : Paired (· = Bus.exhausted) Level (fun _ _ => True)
          (g₁.does (call (Channel.enable endpoint))) (g₂.does (call (Channel.enable endpoint))) := by
        have henable : Bus.Level.Enabling g₁.bus g₂.bus (g₁.bus.enable endpoint)
            (g₂.bus.enable endpoint) := Bus.Level.enable h endpoint
        rw [does_call, does_call]
        show Paired _ _ _ ((g₁.bus.enable endpoint).1, g₁.withChannel (g₁.bus.enable endpoint).2)
          ((g₂.bus.enable endpoint).1, g₂.withChannel (g₂.bus.enable endpoint).2)
        generalize g₁.bus.enable endpoint = r₁ at henable ⊢
        generalize g₂.bus.enable endpoint = r₂ at henable ⊢
        cases henable with
        | refused => exact .error h
        | enabled hlevel => exact .ok trivial hlevel
        | exhaustedFirst => exact .lostFirst rfl
        | exhaustedSecond => exact .lostSecond rfl
      refine Paired.bind hcall fun handle₁ handle₂ g₁ g₂ _ h => ?_
      refine Paired.bind (ih h) fun enabled₁ enabled₂ g₁ g₂ hsame h => ?_
      refine .ok ?_ h
      exact congrArg (endpoint :: ·) hsame

theorem Level.bringUp (h : Level g₁ g₂) (configuration : Configuration) :
    Paired (· = Bus.exhausted) Level SameEndpoints (g₁.does (bringUp configuration))
      (g₂.does (bringUp configuration)) := by
  refine Paired.bind (h.enableAll configuration.endpoints) fun enabled₁ enabled₂ g₁ g₂ hsame h => ?_
  exact .ok hsame (Bus.Level.of_pipes h rfl rfl)

/-! ### Entering vacant endpoints -/

/-- A vacant endpoint is entered with a worker that does not wait, if there is a thread for it. -/
theorem does_startWorker_posted {endpoint : Endpoint} {handle : Handle} {data : Option EndpointData}
    (h : g.bus.Vacant handle endpoint.address) (hrefusal : g.refusal? endpoint data = none) :
    ∃ slot journal, g.does (startWorker endpoint handle data) =
      (.ok (), { g with roster := g.roster.insert endpoint.address slot, journal }) ∧
        slot.Posted g.bus endpoint.address := by
  obtain ⟨worker, journal, hstart, hworker⟩ := does_startWorker hrefusal handle
  refine ⟨⟨handle, worker⟩, journal, hstart, h.live, h.yields, h.readers.trans ?_, fun {w} hw => ?_⟩
  · cases worker with
    | none => rfl
    | some w =>
        obtain ⟨data, rfl⟩ := hworker w rfl
        simp [Slot.position, Worker.position_start, Position.weight, Position.waitsAt]
  · obtain ⟨data, rfl⟩ := hworker w hw
    exact Worker.handle_start _ _ _ _

/-- A roster stays orderly if a posted slot is entered. -/
theorem Orderly.enrolled (hg : g.Orderly) {address : Address} {slot : Slot}
    (h : slot.Posted g.bus address) (journal : Journal) :
    Orderly { g with roster := g.roster.insert address slot, journal } where
  sound := hg.sound
  posted {a s} hmem := by
    have hget := ByteMap.get?_of_mem hmem
    rw [ByteMap.get?_insert] at hget
    split at hget
    · rename_i ha
      obtain rfl := Option.some.inj hget
      rw [ha]
      exact h
    · exact hg.posted (ByteMap.mem_of_get? hget)

/-- Nothing but the bus and the roster matters. -/
theorem Orderly.of_same {g' : Gadget Bus P} (hg : g.Orderly) (hbus : g'.bus = g.bus)
    (hroster : g'.roster = g.roster) : g'.Orderly where
  sound := by
    rw [hbus]
    exact hg.sound
  posted {address slot} hmem := by
    rw [hroster] at hmem
    rw [hbus]
    exact hg.posted hmem

end Gadget

end UsbPeripheral
