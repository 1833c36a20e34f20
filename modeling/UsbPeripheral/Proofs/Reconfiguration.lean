import Mathlib.Data.List.Nodup
import UsbPeripheral.Proofs.Answers
import UsbPeripheral.Proofs.HaltLog
import UsbPeripheral.Proofs.Service
import UsbPeripheral.Proofs.Threads
import UsbPeripheral.Profiles.Declared

/-! # From one configuration to the next

A SET_CONFIGURATION that is not refused takes the roster down and brings the endpoints of what it
selects up, also if that was selected before.  The log of a bus shows what happens to the endpoints:
every handle of the old roster is disabled once, and only then the new endpoints are enabled, in the
order in which they are declared (`Gadget.reconfigured`).

* **Closing** (`stop_performed`): an endpoint that is disabled at the first attempt is not tried again,
  and waiting for workers shows nothing in the log.  So the two rounds of attempts together are in the
  log once for each endpoint.
* **Opening** (`enableAll_performed`): an address that is in use is not enabled again, so the addresses
  of endpoints that were enabled together differ (`enableAll_addresses`), and the handles that are
  fresh are those of the new roster (`enableAll_fresh_iff`). -/

namespace UsbPeripheral

/-- The handles of the endpoints in a roster. -/
def Roster.handles (r : Roster) : List Handle := r.entries.map (·.2.handle)

namespace Bus

variable {b b' b₁ b₂ : Bus} {handle : Handle}

/-! ### Disabling -/

theorem disable_eq_error {e : DeviceError} (h : b.disable handle = (.error e, b')) : b' = b := by
  rcases b.disable_cases handle with ⟨error, heq⟩ | ⟨p, -, -, -, heq⟩
  · rw [heq] at h
    exact (Prod.mk.inj h).2.symm
  · rw [heq] at h
    cases h

/-- A handle was given out. -/
def Given (handle : Handle) (b : Bus) : Prop := ∃ address, b.addressOf? handle = some address

/-- An endpoint that is disabled was there, and that is logged. -/
theorem disable_eq_ok (h : b.disable handle = (.ok (), b')) :
    b'.performed = b.performed ++ [.disable handle] ∧ Given handle b' := by
  rcases b.disable_cases handle with ⟨error, heq⟩ | ⟨p, hp, -, -, heq⟩
  · rw [heq] at h
    cases h
  · rw [heq] at h
    obtain ⟨-, rfl⟩ := Prod.mk.inj h
    constructor
    · show (b.modifyPipe handle _).performed ++ [_] = _
      rw [(aside_modifyPipe b handle _).performed]
    · have hmodified : (b.modifyPipe handle fun p => { p with enabled := false }).pipe? handle = _ :=
        pipe?_modified hp _
      refine ⟨p.address, ?_⟩
      show ((b.modifyPipe handle _).pipe? handle).map _ = _
      rw [hmodified]
      rfl

/-- The handles that were given out are the same. -/
def SamePlaces (b b' : Bus) : Prop := b'.pipes.map (·.address) = b.pipes.map (·.address)

theorem samePlaces_disable (handle : Handle) (b : Bus) : SamePlaces b (b.disable handle).2 := by
  have hquenches : Quenches (fun _ => True) b (b.disable handle).2 := quenches_disable b trivial
  exact hquenches.places

theorem calm_samePlaces : Calm SamePlaces :=
  calm_of_transfer (fun _ => rfl) (fun h₁ h₂ => Eq.trans h₂ h₁) fun b handle _ hf =>
    b.places_modifyPipe handle fun p => (hf p).address

theorem SamePlaces.addressOf? (h : SamePlaces b b') (handle : Handle) :
    b'.addressOf? handle = b.addressOf? handle := by
  unfold SamePlaces at h
  rw [addressOf?_eq, addressOf?_eq, h]

theorem Given.of_samePlaces ⦃handle : Handle⦄ ⦃b b' : Bus⦄ (h : SamePlaces b b')
    (hgiven : Given handle b) : Given handle b' := by
  unfold Given
  rw [h.addressOf?]
  exact hgiven

theorem given_of_disable ⦃handle : Handle⦄ ⦃b b' : Bus⦄ (h : b.disable handle = (.ok (), b')) :
    Given handle b' := (disable_eq_ok h).2

/-- A handle that was given out already is not fresh. -/
theorem Fresh.not_given {address : Address} (h : Fresh b b' handle address) : ¬Given handle b := by
  rintro ⟨there, hthere⟩
  rw [h.1] at hthere
  cases hthere

/-- Where nothing is given out, nothing is fresh. -/
theorem SamePlaces.not_fresh (h : SamePlaces b b') {address : Address} :
    ¬Fresh b b' handle address := by
  rintro ⟨habsent, hthere⟩
  rw [h.addressOf?, habsent] at hthere
  cases hthere

theorem SamePlaces.fresh_iff {b₁' b₂' : Bus} (h₁ : SamePlaces b₁ b₁') (h₂ : SamePlaces b₂ b₂')
    {address : Address} : Fresh b₁ b₂' handle address ↔ Fresh b₁' b₂ handle address := by
  unfold Fresh
  rw [h₁.addressOf?, h₂.addressOf?]

/-! ### Enabling -/

/-- An address that is in use is not enabled. -/
def InUse (b : Bus) (address : Address) : Prop := (b.newestPipe? address).any (·.enabled) = true

theorem newestPipe?_concat {p : Pipe} (hpipes : b'.pipes = b.pipes ++ [p])
    (hbound : b.pipes.length < maxPipes) (address : Address) :
    b'.newestPipe? address = if p.address = address then some p else b.newestPipe? address := by
  unfold newestPipe? newest?
  rw [hpipes, newestFrom_concat]
  by_cases haddress : p.address = address
  · rw [if_pos haddress, if_pos haddress, Nat.add_comm]
    show b'.pipe? (UInt32.ofNat (b.pipes.length + 1)) = some p
    rw [pipe?_concat hpipes hbound, if_pos rfl]
  · rw [if_neg haddress, if_neg haddress]
    cases hnewest : newestFrom address 1 b.pipes with
    | none => rfl
    | some place =>
        obtain ⟨hfirst, hlast⟩ := newestFrom_bounds hnewest
        have hplace : (UInt32.ofNat place).toNat = place := by
          have h : (UInt32.ofNat (place - 1 + 1)).toNat = place - 1 + 1 := toNat_handle (by omega)
          rwa [Nat.sub_add_cancel hfirst] at h
        have hne : UInt32.ofNat place ≠ UInt32.ofNat (b.pipes.length + 1) := by
          intro h
          have h := congrArg UInt32.toNat h
          rw [hplace, toNat_handle hbound] at h
          omega
        show b'.pipe? (UInt32.ofNat place) = b.pipe? (UInt32.ofNat place)
        rw [pipe?_concat hpipes hbound, if_neg hne]

theorem enable_performed {endpoint : Endpoint} (h : b.enable endpoint = (.ok handle, b')) :
    b'.performed = b.performed ++ [.enable endpoint.address] := by
  unfold enable at h
  dsimp only at h
  split at h
  · cases h
  · split at h
    · cases h
    · obtain ⟨-, rfl⟩ := Prod.mk.inj h
      rfl

/-- What enabling an endpoint leads to. -/
theorem enable_eq_ok {endpoint : Endpoint} (h : b.enable endpoint = (.ok handle, b')) :
    b'.performed = b.performed ++ [.enable endpoint.address] ∧ ¬b.InUse endpoint.address ∧
      ∀ address, b'.InUse address ↔ b.InUse address ∨ address = endpoint.address := by
  obtain ⟨-, hunused, hbound, failures, hpipes⟩ := enable_inv h
  refine ⟨enable_performed h, hunused, fun address => ?_⟩
  unfold InUse
  rw [newestPipe?_concat hpipes hbound]
  by_cases haddress : endpoint.address = address
  · rw [if_pos haddress]
    exact iff_of_true rfl (.inr haddress.symm)
  · rw [if_neg haddress]
    exact (or_iff_left fun h => haddress h.symm).symm

/-- Only the new handle is fresh. -/
theorem enable_fresh_iff {endpoint : Endpoint} (h : b.enable endpoint = (.ok handle, b'))
    {other : Handle} {address : Address} :
    Fresh b b' other address ↔ other = handle ∧ address = endpoint.address := by
  obtain ⟨hhandle, -, hbound, failures, hpipes⟩ := enable_inv h
  have hnew := (b.enable_logs endpoint).2 handle
  rw [h] at hnew
  constructor
  · rintro ⟨habsent, hthere⟩
    by_cases hother : other = handle
    · subst hother
      exact ⟨rfl, Option.some.inj (hthere.symm.trans (hnew rfl).2)⟩
    · have hkept : b'.addressOf? other = b.addressOf? other := by
        unfold addressOf?
        rw [pipe?_concat hpipes hbound, if_neg (hhandle ▸ hother)]
      rw [hkept, habsent] at hthere
      cases hthere
  · rintro ⟨rfl, rfl⟩
    exact hnew rfl

/-! ### Acknowledging -/

theorem ep0Read_performed (room : Nat) (b : Bus) :
    SamePlaces b (b.ep0Read room).2 ∧ ∃ count, count ≤ room ∧
      (b.ep0Read room).2.performed = b.performed ++ [.ep0Read count] := by
  unfold ep0Read
  split
  · split
    · exact ⟨rfl, 0, Nat.zero_le _, rfl⟩
    · exact ⟨rfl, _, List.length_take_le _ _, rfl⟩
  · exact ⟨rfl, 0, Nat.zero_le _, rfl⟩

end Bus

namespace Gadget

variable {P : Type} {g g' : Gadget Bus P}

/-! ### Closing -/

/-- After the first attempts, every endpoint is in the log or is left over. -/
theorem disableAll_performed (slots : List (Address × Slot)) (g : Gadget Bus P) :
    ∃ done : List Handle,
      (teardown.disableAll slots g).2.bus.performed = g.bus.performed ++ done.map .disable ∧
      (done ++ (teardown.disableAll slots g).1.map (·.2)).Perm (slots.map (·.2.handle)) := by
  induction slots generalizing g with
  | nil => exact ⟨[], (List.append_nil _).symm, .nil⟩
  | cons e rest ih =>
      obtain ⟨address, slot⟩ := e
      rw [disableAll_cons]
      rcases hr : (g.noted [.disabling address slot.handle]).does
        (call (Channel.disable slot.handle)) with ⟨e | ⟨⟩, g'⟩
      · rw [does_call] at hr
        obtain ⟨hresult, rfl⟩ := Prod.mk.inj hr
        have hbus : (g.bus.disable slot.handle).2 = g.bus := Bus.disable_eq_error (Prod.ext hresult rfl)
        obtain ⟨done, hdone, hperm⟩ := ih
          (((g.noted [.disabling address slot.handle]).withChannel
            (g.bus.disable slot.handle).2).noted [.disableDeferred address e])
        refine ⟨done, ?_, List.perm_middle.trans (hperm.cons _)⟩
        refine hdone.trans ?_
        show (g.bus.disable slot.handle).2.performed ++ _ = _
        rw [hbus]
      · rw [does_call] at hr
        obtain ⟨hresult, rfl⟩ := Prod.mk.inj hr
        obtain ⟨hlogged, -⟩ : (g.bus.disable slot.handle).2.performed = _ ∧ _ :=
          Bus.disable_eq_ok (Prod.ext hresult rfl)
        obtain ⟨done, hdone, hperm⟩ := ih
          ((g.noted [.disabling address slot.handle]).withChannel (g.bus.disable slot.handle).2)
        refine ⟨slot.handle :: done, ?_, hperm.cons _⟩
        refine hdone.trans ?_
        show (g.bus.disable slot.handle).2.performed ++ _ = _
        rw [hlogged, ← List.append_cons]
        rfl

/-- If no second attempt fails, all of them are in the log. -/
theorem retryAll_performed {busy : List (Address × Handle)} {g : Gadget Bus P}
    (hnone : (teardown.retryAll busy g).1 = []) :
    (teardown.retryAll busy g).2.bus.performed =
      g.bus.performed ++ (busy.map (·.2)).map .disable := by
  induction busy generalizing g with
  | nil => exact (List.append_nil _).symm
  | cons e rest ih =>
      obtain ⟨address, handle⟩ := e
      rw [retryAll_cons] at hnone ⊢
      rcases hr : g.does (call (Channel.disable handle)) with ⟨e | ⟨⟩, g'⟩
      · rw [hr] at hnone
        cases hnone
      · rw [hr] at hnone
        rw [does_call] at hr
        obtain ⟨hresult, rfl⟩ := Prod.mk.inj hr
        obtain ⟨hlogged, -⟩ : (g.bus.disable handle).2.performed = _ ∧ _ :=
          Bus.disable_eq_ok (Prod.ext hresult rfl)
        refine (ih hnone).trans ?_
        show (g.bus.disable handle).2.performed ++ _ = _
        rw [hlogged, ← List.append_cons]
        rfl

/-- **Closing.**  A roster that is taken down is in the log with every handle once. -/
theorem stop_performed {exits : List (Address × Exit)} (h : g.does stop = (.ok exits, g')) :
    ∃ closing : List Handle, closing.Perm g.roster.handles ∧
      g'.bus.performed = g.bus.performed ++ closing.map .disable := by
  rw [does_stop, stopAll_eq] at h
  obtain ⟨hresult, rfl⟩ := Prod.mk.inj h
  let slots := cancelledSlots g.roster.entries
  let disabled := teardown.disableAll slots g.forgotten
  obtain ⟨done, hdone, hperm⟩ := disableAll_performed slots g.forgotten
  have hretried := retryAll_performed (nil_of_retried hresult)
  have hjoined : (teardown.joinAll slots disabled.2).2.bus.performed = disabled.2.bus.performed := by
    obtain ⟨around, journal, hwithin, haside⟩ := within_joinAll Bus.calm_aside slots disabled.2
    rw [hwithin]
    exact haside.performed
  refine ⟨done ++ disabled.1.map (·.2), hperm.trans (.of_eq ?_), hretried.trans ?_⟩
  · rw [Roster.handles]
    exact List.map_map
  · rw [hjoined, hdone, List.append_assoc, ← List.map_append]
    rfl

/-! ### Opening -/

/-- Endpoints are enabled in their order. -/
theorem enableAll_performed {endpoints : List Endpoint} {enabled : List (Endpoint × Handle)}
    (h : g.does (enableAll endpoints) = (.ok enabled, g')) :
    g'.bus.performed = g.bus.performed ++ endpoints.map fun e => .enable e.address := by
  induction endpoints generalizing g enabled with
  | nil =>
      cases h
      exact (List.append_nil _).symm
  | cons endpoint rest ih =>
      obtain ⟨handle, channel, later, henable, hrest, -⟩ := does_enableAll_cons_eq_ok h
      obtain ⟨hlogged, -⟩ : channel.performed = _ ∧ _ := Bus.enable_eq_ok henable
      rw [ih hrest]
      show channel.performed ++ _ = _
      rw [hlogged, ← List.append_cons]
      rfl

/-- What was enabled are the endpoints. -/
theorem enableAll_endpoints {endpoints : List Endpoint} {enabled : List (Endpoint × Handle)}
    (h : g.does (enableAll endpoints) = (.ok enabled, g')) : enabled.map (·.1) = endpoints := by
  induction endpoints generalizing g enabled with
  | nil =>
      cases h
      rfl
  | cons endpoint rest ih =>
      obtain ⟨handle, channel, later, -, hrest, rfl⟩ := does_enableAll_cons_eq_ok h
      exact congrArg (endpoint :: ·) (ih hrest)

/-- Endpoints that are enabled together have different addresses, none of which was in use. -/
theorem enableAll_addresses {endpoints : List Endpoint} {enabled : List (Endpoint × Handle)}
    (h : g.does (enableAll endpoints) = (.ok enabled, g')) :
    (enabled.map (·.1.address)).Nodup ∧ ∀ e ∈ enabled, ¬g.bus.InUse e.1.address := by
  induction endpoints generalizing g enabled with
  | nil =>
      cases h
      exact ⟨.nil, nofun⟩
  | cons endpoint rest ih =>
      obtain ⟨handle, channel, later, henable, hrest, rfl⟩ := does_enableAll_cons_eq_ok h
      obtain ⟨-, hunused, hinUse⟩ := Bus.enable_eq_ok henable
      obtain ⟨hnodup, hlater⟩ := ih hrest
      -- the endpoints that follow find this address in use
      have hfree : ∀ e ∈ later, ¬g.bus.InUse e.1.address ∧ e.1.address ≠ endpoint.address :=
        fun e he => not_or.mp fun h => hlater e he ((hinUse e.1.address).mpr h)
      refine ⟨List.nodup_cons.mpr ⟨fun hmem => ?_, hnodup⟩, ?_⟩
      · obtain ⟨e, he, haddress⟩ := List.mem_map.mp hmem
        exact (hfree e he).2 haddress
      · exact List.forall_mem_cons.mpr ⟨hunused, fun e he => (hfree e he).1⟩

/-- The handles that were given out are those of the endpoints. -/
theorem enableAll_fresh_iff {endpoints : List Endpoint} {enabled : List (Endpoint × Handle)}
    (h : g.does (enableAll endpoints) = (.ok enabled, g')) {handle : Handle} {address : Address} :
    Bus.Fresh g.bus g'.bus handle address ↔ ∃ e, (e, handle) ∈ enabled ∧ e.address = address := by
  refine ⟨fun hfresh => ?_, fun ⟨e, he, haddress⟩ => haddress ▸ enableAll_fresh h he⟩
  induction endpoints generalizing g enabled with
  | nil =>
      cases h
      have habsent := hfresh.1
      rw [hfresh.2] at habsent
      cases habsent
  | cons endpoint rest ih =>
      obtain ⟨new, channel, later, henable, hrest, rfl⟩ := does_enableAll_cons_eq_ok h
      have hlogs := keeps_enableAll (fun g => .refl g.bus) related_logs_trans
        keeps_enable_logs rest (g.withChannel channel)
      rw [hrest] at hlogs
      have hlogs : Bus.Logs none channel g'.bus := hlogs
      cases hthere : channel.addressOf? handle with
      | none =>
          obtain ⟨e, he, haddress⟩ := ih hrest ⟨hthere, hfresh.2⟩
          exact ⟨e, List.mem_cons_of_mem _ he, haddress⟩
      | some there =>
          have hsame : there = address :=
            Option.some.inj ((hlogs.addressOf? hthere).symm.trans hfresh.2)
          obtain ⟨rfl, haddress⟩ := (Bus.enable_fresh_iff henable).mp ⟨hfresh.1, hthere⟩
          exact ⟨endpoint, List.mem_cons_self, (haddress.symm.trans hsame)⟩

/-! ### Selecting -/

/-- The endpoints of what is selected. -/
def Selection.endpoints : Selection → List Endpoint
  | .clear => []
  | .pick _ configuration => configuration.endpoints

/-- The operations by which what is selected is brought up. -/
def Selection.opening : Selection → List Performed
  | .clear => []
  | .pick _ configuration =>
    configuration.endpoints.map (fun e => .enable e.address) ++
      [.vbusDraw configuration.maxPower, .configure]

/-- The roster has the endpoints that a selection brought up, and no others. -/
structure Reopens (g g' : Gadget Bus P) (s : Selection) : Prop where
  addresses (address : Address) :
    g'.roster.contains address = true ↔ ∃ e ∈ s.endpoints, e.address = address
  /-- What is in the roster are the handles that were given out. -/
  handles (address : Address) (handle : Handle) :
    g'.roster.handle? address = some handle ↔ Bus.Fresh g.bus g'.bus handle address
  /-- None of them was in the roster before. -/
  apart {address : Address} {handle : Handle} :
    Bus.Fresh g.bus g'.bus handle address → handle ∉ g.roster.handles

/-- Taking a roster down gives out no handles, and its own were given out. -/
theorem stop_handles {exits : List (Address × Exit)} (h : g.does stop = (.ok exits, g')) :
    g'.roster = .empty ∧ Bus.SamePlaces g.bus g'.bus ∧
      ∀ handle ∈ g.roster.handles, Bus.Given handle g'.bus := by
  have hslots : ∀ e ∈ g.roster.entries, ∀ b, Bus.SamePlaces b (Channel.disable e.2.handle b).2 :=
    fun e _ b => b.samePlaces_disable e.2.handle
  obtain ⟨around, journal, hstop, hplaces⟩ := does_stop_within Bus.calm_samePlaces g hslots
  have hgiven := does_stop_off Bus.calm_samePlaces Bus.given_of_disable Bus.Given.of_samePlaces
    hslots h
  rw [h] at hstop
  obtain rfl : g' = _ := hstop
  refine ⟨rfl, hplaces, fun handle hmem => ?_⟩
  obtain ⟨e, he, rfl⟩ := List.mem_map.mp hmem
  exact hgiven e he

/-- In a roster that was empty, endpoints with different addresses have their own handles. -/
theorem Enrolled.handle?_iff {enabled : List (Endpoint × Handle)} {r : Roster}
    (h : Enrolled enabled .empty r) (hnodup : (enabled.map (·.1.address)).Nodup)
    {address : Address} {handle : Handle} :
    r.handle? address = some handle ↔ ∃ e, (e, handle) ∈ enabled ∧ e.address = address := by
  refine ⟨h.mem_of_handle?, ?_⟩
  rintro ⟨e, he, rfl⟩
  have hcontains := h.entered he
  rw [Roster.contains_eq_isSome] at hcontains
  obtain ⟨other, hother⟩ := Option.isSome_iff_exists.mp hcontains
  obtain ⟨e', he', haddress⟩ := h.mem_of_handle? hother
  obtain ⟨-, rfl⟩ := Prod.mk.inj (List.inj_on_of_nodup_map hnodup he' he haddress)
  exact hother

/-- A roster has the addresses of the endpoints that were enabled. -/
theorem Enrolled.contains_iff_endpoint {r : Roster} {enabled : List (Endpoint × Handle)}
    {endpoints : List Endpoint} (h : Enrolled enabled .empty r)
    (hendpoints : enabled.map (·.1) = endpoints) {address : Address} :
    r.contains address = true ↔ ∃ e ∈ endpoints, e.address = address := by
  rw [h.contains_iff, ← hendpoints]
  constructor
  · rintro ⟨e, he, haddress⟩
    exact ⟨e.1, List.mem_map_of_mem he, haddress⟩
  · rintro ⟨e, he, haddress⟩
    obtain ⟨entry, hentry, rfl⟩ := List.mem_map.mp he
    exact ⟨entry, hentry, haddress⟩

/-- **Selecting**, if it succeeds, closes the old endpoints and then opens the new ones. -/
theorem selecting_performed {s : Selection} {reply : Reply P}
    (h : Selecting g s (.ok reply, g')) :
    reply = .ack ∧ Reopens g g' s ∧ ∃ closing : List Handle, closing.Perm g.roster.handles ∧
      g'.bus.performed = g.bus.performed ++ (closing.map .disable ++ s.opening) := by
  cases h with
  | @cleared exits g₁ journal hstop =>
      obtain ⟨closing, hclosing, hperformed⟩ := stop_performed hstop
      obtain ⟨hroster, hplaces, -⟩ := stop_handles hstop
      refine ⟨rfl, ⟨fun address => ?_, fun address handle => ?_, fun {address handle} hfresh => ?_⟩,
        closing, hclosing, ?_⟩
      · rw [hroster]
        exact iff_of_false nofun nofun
      · rw [hroster]
        exact iff_of_false nofun hplaces.not_fresh
      · exact absurd hfresh hplaces.not_fresh
      · rw [Selection.opening, List.append_nil]
        exact hperformed
  | @selected value configuration exits enabled g₁ g₂ roster profile journal hstop hup hroster =>
      obtain ⟨closing, hclosing, hclosed⟩ := stop_performed hstop
      obtain ⟨hempty, hplaces, hgiven⟩ := stop_handles hstop
      obtain ⟨g₃, henable, rfl⟩ := does_bringUp_eq_ok hup
      have hopened := enableAll_performed henable
      obtain ⟨hnodup, -⟩ := enableAll_addresses henable
      obtain ⟨channel, rfl⟩ : ∃ channel, g₃ = g₁.withChannel channel := by
        obtain ⟨channel, hchannel⟩ := onChannel_enableAll configuration.endpoints g₁
        rw [henable] at hchannel
        exact ⟨channel, hchannel⟩
      have hroster : Enrolled enabled .empty roster := by
        rw [← hempty]
        exact hroster
      -- the operations after the endpoints are enabled give out no handles
      have hfresh (address : Address) (handle : Handle) : Bus.Fresh g.bus
          ((channel.record (.vbusDraw configuration.maxPower)).record .configure) handle address ↔
          Bus.Fresh g₁.bus channel handle address :=
        hplaces.fresh_iff (show Bus.SamePlaces channel _ from rfl)
      refine ⟨rfl, ⟨fun address => ?_, fun address handle => ?_, fun {address handle} h => ?_⟩,
        closing, hclosing, ?_⟩
      · exact hroster.contains_iff_endpoint (enableAll_endpoints henable)
      · show roster.handle? address = some handle ↔ Bus.Fresh g.bus _ handle address
        rw [hroster.handle?_iff hnodup]
        exact ((hfresh address handle).trans (enableAll_fresh_iff henable)).symm
      · exact fun hmem => Bus.Fresh.not_given ((hfresh address handle).mp h) (hgiven handle hmem)
      · show (channel.performed ++ [_]) ++ [_] = _
        have hopened : channel.performed = g₁.bus.performed ++ _ := hopened
        rw [hopened, hclosed, Selection.opening]
        simp only [List.append_assoc]
        rfl

/-! ### The request as a whole -/

/-- What reads the data stage afterwards does not concern the roster. -/
theorem Reopens.then {g₁ : Gadget Bus P} {s : Selection} (h : Reopens g g₁ s)
    (hroster : g'.roster = g₁.roster) (hplaces : Bus.SamePlaces g₁.bus g'.bus) :
    Reopens g g' s := by
  have hfresh (address : Address) (handle : Handle) :
      Bus.Fresh g.bus g'.bus handle address ↔ Bus.Fresh g.bus g₁.bus handle address :=
    Bus.SamePlaces.fresh_iff (show Bus.SamePlaces g.bus g.bus from rfl) hplaces
  refine ⟨fun address => ?_, fun address handle => ?_, fun {address handle} hnew => ?_⟩
  · rw [hroster]
    exact h.addresses address
  · rw [hroster, hfresh]
    exact h.handles address handle
  · exact h.apart ((hfresh address handle).mp hnew)

/-- What a selection that was acknowledged shows. -/
structure Reconfigures (g g' : Gadget Bus P) (s : Selection) (room : Nat) (ops : List Performed) :
    Prop extends Reopens g g' s where
  /-- The old endpoints are disabled, the new ones are enabled, and the request is acknowledged. -/
  operations : ∃ (closing : List Handle) (count : Nat), closing.Perm g.roster.handles ∧
    count ≤ room ∧ ops = closing.map .disable ++ s.opening ++ [.ep0Read count]

variable [DeviceProfile P]

/-- **A configuration is taken down before the next one is set up.**  A SET_CONFIGURATION that is
handled, and that is not refused, disables every endpoint of the old roster once and no other, then
enables the new endpoints in the order in which they are declared, reports the power and that the
device is configured, and acknowledges.  The new roster has exactly the handles that were given out in
the meantime. -/
theorem reconfigured (setup : Setup) (hstandard : setup.category = .standard)
    (hrequest : StandardRequest.ofCode? setup.request = some .setConfiguration)
    (h : g.does (handleEvent (.control setup)) = (.ok (), g')) :
    ∃ ops, g'.bus.performed = g.bus.performed ++ ops ∧
      (.ep0Stall ∉ ops → ∃ s, selection? g.profile setup = some s ∧
        Reconfigures g g' s setup.length.toNat ops) := by
  rw [does_handleEvent_control] at h
  rcases hanswer : g.answering setup with ⟨e | reply, g₁⟩
  · rw [hanswer] at h
    cases h
  rw [hanswer] at h
  obtain ⟨journal, hcomplete⟩ := does_complete g₁ setup reply
  obtain ⟨-, rfl⟩ := Prod.mk.inj (hcomplete.symm.trans h)
  cases hselection : selection? g.profile setup with
  | none =>
      obtain ⟨journal₁, hrefused⟩ :=
        refused_setConfiguration (g := g.heard setup) ⟨hstandard, hrequest, rfl⟩ hselection
      rw [answering_standard g hstandard, standard, hrequest] at hanswer
      obtain ⟨hreply, rfl⟩ := Prod.mk.inj (hrefused.symm.trans hanswer)
      obtain rfl := Except.ok.inj hreply
      exact ⟨[.ep0Stall], rfl, fun hstall => absurd List.mem_cons_self hstall⟩
  | some s =>
      obtain ⟨journal₁, hselecting⟩ := answered (g.noted [.event (.control setup)]) setup
      rw [show selection? (g.noted _).profile setup = some s from hselection] at hselecting
      dsimp only at hselecting
      rw [show (g.noted _).does (answer setup) = _ from hanswer] at hselecting
      obtain ⟨rfl, hreopens, closing, hclosing, hperformed⟩ := selecting_performed hselecting
      have hstage : stage setup (.ack : Reply P) = .read setup.length.toNat := by
        unfold stage
        rw [direction_of_selection? hselection]
      rw [hstage]
      obtain ⟨hplaces, count, hcount, hread⟩ := g₁.bus.ep0Read_performed setup.length.toNat
      refine ⟨closing.map .disable ++ s.opening ++ [.ep0Read count], ?_, fun _ => ⟨s, rfl, ?_⟩⟩
      · show (g₁.bus.ep0Read setup.length.toNat).2.performed = _
        rw [hread, hperformed, List.append_assoc]
        rfl
      · have hreopens : Reopens g g₁ s := ⟨hreopens.addresses, hreopens.handles, hreopens.apart⟩
        exact ⟨hreopens.then rfl hplaces, closing, count, hclosing, hcount, rfl⟩

/-- A device with a receiver at its second endpoint. -/
def listening : DeclaredDevice where
  catalog := .empty
  configurations := PlainDevice.twoWay.configurations
  endpoints := ByteMap.empty.insert 2 (.sink (.quiet 0))
  requests := []
  fallback := none

/-- The device while its receiver waits. -/
def listeningBusy : Gadget Bus DeclaredDevice :=
  (Gadget.new ({ udc := Bus.standardUdc } : Bus) {} listening .standard).after
    [.start, .event .connect, .event (.control (.select 1)), .work 2, .work 2]

/-- The configuration of the device is selected again.  The endpoint at which the receiver waits is
disabled last, and before the first endpoint is enabled. -/
theorem listening_reconfigured :
    let outcome := listeningBusy.does (handleEvent (.control (.select 1)))
    outcome.1 = .ok () ∧ ∃ ops, outcome.2.bus.performed = listeningBusy.bus.performed ++ ops ∧
      ops = [.disable 1, .disable 2, .enable 129, .enable 2, .vbusDraw 100, .configure, .ep0Read 0] ∧
      ∃ s, selection? listeningBusy.profile (.select 1) = some s ∧
        Reconfigures listeningBusy outcome.2 s 0 ops := by
  intro outcome
  have hok : outcome.1 = .ok () := by decide +kernel
  have hrun : outcome.2.bus.performed = listeningBusy.bus.performed ++
      [.disable 1, .disable 2, .enable 129, .enable 2, .vbusDraw 100, .configure, .ep0Read 0] := by
    decide +kernel
  have hhandled : listeningBusy.does (handleEvent (.control (.select 1))) = outcome := rfl
  clear_value outcome
  obtain ⟨result, g'⟩ := outcome
  obtain rfl : result = .ok () := hok
  obtain ⟨ops, hperformed, hreconfigures⟩ := reconfigured (.select 1) rfl rfl hhandled
  have hops := List.append_cancel_left (hperformed.symm.trans hrun)
  refine ⟨rfl, ops, hperformed, hops, hreconfigures ?_⟩
  rw [hops]
  decide

end Gadget

end UsbPeripheral
