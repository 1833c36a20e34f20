import UsbPeripheral.Channel.Fault
import UsbPeripheral.Proofs.Completion

/-! # Selections that are interrupted

Selecting a configuration brings its endpoints up before any of them is entered into the roster.  If
that fails halfway, the endpoints that are up already are **stranded**: nothing disables them, and
with the roster empty no later stop can.

* `Selecting.interrupted_calls` gives the calls of an interrupted selection: those of taking the roster down,
  the grants so far, and the call that failed.
* `recovered_iff` says when nothing is stranded: only if no endpoint was granted at all. -/

namespace UsbPeripheral

namespace Call

/-- The call that enables an endpoint and gets its handle. -/
def grant (e : Endpoint × Handle) : Call := .enable e.1 (.ok e.2)

/-- The endpoint and the handle that a call was granted. -/
def granted? : Call → Option (Endpoint × Handle)
  | enable endpoint (.ok handle) => some (endpoint, handle)
  | _ => none

/-- Whether a call is one that taking a roster down makes. -/
def isClosing : Call → Bool
  | disable _ _ | read _ _ _ _ | write _ _ _ | wake _ => true
  | _ => false

/-- Whether a call is a failed one of those that bring endpoints up. -/
def interrupts : Call → Bool
  | enable _ (.error _) | vbusDraw _ (.error _) | configure (.error _) => true
  | _ => false

theorem interrupts_of_isClosing {c : Call} (h : c.isClosing = true) : c.interrupts = false := by
  cases c <;> first | rfl | cases h

theorem interrupts_of_onEndpoint0 {c : Call} (h : c.onEndpoint0 = true) :
    c.interrupts = false := by
  cases c <;> first | rfl | cases h

end Call

/-- Every endpoint that was granted in the course of some calls was disabled again later, or is in
the roster. -/
def Recovered (calls : List Call) (roster : Roster) : Prop :=
  ∀ before after endpoint handle, calls = before ++ .enable endpoint (.ok handle) :: after →
    .disable handle (.ok ()) ∈ after ∨ ∃ address, roster.handle? address = some handle

namespace Gadget

variable {σ P : Type} [Channel σ]

/-! ### Taking the roster down -/

theorem calm_closing :
    Calm (Traced.Appends (·.isClosing = true) : Traced σ → Traced σ → Prop) where
  refl := .refl
  trans := .trans
  read _ _ _ _ := .single rfl rfl
  write _ _ _ := .single rfl rfl
  wake _ _ := .single rfl rfl

theorem stop_calls (g : Gadget (Traced σ) P) :
    (g.does stop).2.roster = .empty ∧
      ∃ calls, (g.does stop).2.calls = g.calls ++ calls ∧ ∀ c ∈ calls, c.isClosing = true := by
  obtain ⟨around, journal, h, hcalls⟩ :=
    does_stop_within calm_closing g fun _ _ _ => .single rfl rfl
  rw [h]
  exact ⟨rfl, hcalls⟩

/-! ### Bringing endpoints up -/

/-- Enabling endpoints makes one call for each, up to one that fails. -/
theorem enableAll_calls (endpoints : List Endpoint) (g : Gadget (Traced σ) P) :
    ∃ granted : List (Endpoint × Handle), match g.does (enableAll endpoints) with
      | (.ok _, g') => granted.map (·.1) = endpoints ∧ g'.calls = g.calls ++ granted.map Call.grant
      | (.error e, g') => ∃ endpoint, granted.map (·.1) ++ [endpoint] <+: endpoints ∧
          g'.calls = g.calls ++ granted.map Call.grant ++ [.enable endpoint (.error e)] := by
  induction endpoints generalizing g with
  | nil => exact ⟨[], rfl, (List.append_nil _).symm⟩
  | cons endpoint rest ih =>
      have hcalls : (g.does (call (Channel.enable endpoint))).2.calls =
        g.calls ++ [.enable endpoint (g.does (call (Channel.enable endpoint))).1] := rfl
      rw [enableAll, does_bind]
      rcases hcall : g.does (call (Channel.enable endpoint)) with ⟨e | handle, g₁⟩
      · rw [hcall] at hcalls
        refine ⟨[], endpoint, List.prefix_append [endpoint] rest, ?_⟩
        rw [List.map_nil, List.append_nil]
        exact hcalls
      · rw [hcall] at hcalls
        obtain ⟨granted, h⟩ := ih g₁
        refine ⟨(endpoint, handle) :: granted, ?_⟩
        dsimp only
        rw [does_bind]
        rcases hrest : g₁.does (enableAll rest) with ⟨e | enabled, g'⟩
        · rw [hrest] at h
          obtain ⟨failed, hprefix, h⟩ := h
          refine ⟨failed, List.cons_prefix_cons.mpr ⟨rfl, hprefix⟩, ?_⟩
          rw [h, hcalls, List.map_cons, List.append_assoc g.calls]
          rfl
        · rw [hrest] at h
          obtain ⟨hmap, h⟩ := h
          refine ⟨by rw [List.map_cons, hmap], ?_⟩
          show g'.calls = _
          rw [h, hcalls, List.map_cons, List.append_assoc]
          rfl

/-- The calls with which bringing a configuration up ends early after some grants. -/
inductive Interrupted (configuration : Configuration) (granted : List (Endpoint × Handle))
    (e : DeviceError) : List Call → Prop
  /-- The endpoint after the granted ones is refused. -/
  | enable (endpoint : Endpoint) :
      granted.map (·.1) ++ [endpoint] <+: configuration.endpoints →
      Interrupted configuration granted e [.enable endpoint (.error e)]
  /-- The current cannot be reported. -/
  | vbusDraw : granted.map (·.1) = configuration.endpoints →
      Interrupted configuration granted e [.vbusDraw configuration.maxPower (.error e)]
  /-- The device cannot be reported as configured. -/
  | configure : granted.map (·.1) = configuration.endpoints →
      Interrupted configuration granted e
        [.vbusDraw configuration.maxPower (.ok ()), .configure (.error e)]

theorem bringUp_calls {configuration : Configuration} {g g' : Gadget (Traced σ) P}
    {e : DeviceError} (h : g.does (bringUp configuration) = (.error e, g')) :
    ∃ granted tail, Interrupted configuration granted e tail ∧
      g'.calls = g.calls ++ granted.map Call.grant ++ tail := by
  obtain ⟨granted, hgranted⟩ := enableAll_calls configuration.endpoints g
  rcases does_bind_eq_error.mp h with henable | ⟨enabled, g₁, henable, h⟩
  · rw [henable] at hgranted
    obtain ⟨endpoint, hprefix, hcalls⟩ := hgranted
    exact ⟨granted, _, .enable endpoint hprefix, hcalls⟩
  · rw [henable] at hgranted
    obtain ⟨hmap, hcalls⟩ := hgranted
    rcases does_bind_eq_error.mp h with hvbus | ⟨_, g₂, hvbus, h⟩
    · rw [does_call] at hvbus
      obtain ⟨hresult, rfl⟩ := Prod.mk.inj hvbus
      refine ⟨granted, _, .vbusDraw hmap, ?_⟩
      rw [← hcalls, ← hresult]
      rfl
    · rw [does_call] at hvbus
      obtain ⟨hok, rfl⟩ := Prod.mk.inj hvbus
      rcases does_bind_eq_error.mp h with hconfigure | ⟨_, g₃, hconfigure, h⟩
      · rw [does_call] at hconfigure
        obtain ⟨hresult, rfl⟩ := Prod.mk.inj hconfigure
        refine ⟨granted, _, .configure hmap, ?_⟩
        rw [← hcalls, ← hresult, ← hok]
        show _ ++ _ ++ _ = _
        rw [List.append_assoc]
        rfl
      · cases h

/-- A configuration that was brought up was reported at last. -/
theorem bringUp_reported {configuration : Configuration} {g g' : Gadget (Traced σ) P}
    {enabled : List (Endpoint × Handle)} (h : g.does (bringUp configuration) = (.ok enabled, g')) :
    ∃ calls, g'.calls = g.calls ++ calls ++ [.configure (.ok ())] := by
  obtain ⟨granted, hgranted⟩ := enableAll_calls configuration.endpoints g
  obtain ⟨_, g₁, henable, h⟩ := does_bind_eq_ok.mp h
  obtain ⟨_, g₂, hvbus, h⟩ := does_bind_eq_ok.mp h
  obtain ⟨_, g₃, hconfigure, h⟩ := does_bind_eq_ok.mp h
  cases h
  rw [henable] at hgranted
  rw [does_call] at hvbus hconfigure
  obtain ⟨-, rfl⟩ := Prod.mk.inj hvbus
  obtain ⟨hok, rfl⟩ := Prod.mk.inj hconfigure
  refine ⟨granted.map Call.grant ++ [.vbusDraw configuration.maxPower
    (Channel.vbusDraw configuration.maxPower g₁.around.channel).1], ?_⟩
  rw [← List.append_assoc g.calls, ← hgranted.2, ← hok]
  rfl

/-- Only the first of several grants matters: it is stranded if the roster is empty and nothing is
disabled after it. -/
theorem recovered_iff_nil {closing : List Call} {granted : List (Endpoint × Handle)}
    {tail : List Call} (hclosing : ∀ c ∈ closing, c.isClosing = true)
    (htail : ∀ c ∈ tail, c.granted? = none ∧ c.isClosing = false) :
    Recovered (closing ++ granted.map Call.grant ++ tail) .empty ↔ granted = [] := by
  constructor
  · intro h
    cases granted with
    | nil => rfl
    | cons e rest =>
        obtain ⟨endpoint, handle⟩ := e
        -- after the first grant come grants and the tail, and neither disables anything
        rcases h closing (rest.map Call.grant ++ tail) endpoint handle (by simp [Call.grant]) with
          hdisable | ⟨address, hroster⟩
        · rcases List.mem_append.mp hdisable with hrest | hdisable
          · obtain ⟨e, -, he⟩ := List.mem_map.mp hrest
            cases he
          · exact absurd (htail _ hdisable).2 Bool.noConfusion
        · cases hroster
  · rintro rfl
    intro before after endpoint handle hcalls
    have hmem : Call.enable endpoint (.ok handle) ∈ closing ++ List.map Call.grant [] ++ tail := by
      rw [hcalls]
      exact List.mem_append_right _ List.mem_cons_self
    rcases List.mem_append.mp hmem with hmem | hmem
    · rw [List.map_nil, List.append_nil] at hmem
      cases hclosing _ hmem
    · cases (htail _ hmem).1

/-! ### Selecting -/

theorem Interrupted.granted_isClosing {configuration : Configuration}
    {granted : List (Endpoint × Handle)} {e : DeviceError} {tail : List Call}
    (h : Interrupted configuration granted e tail) :
    ∀ c ∈ tail, c.granted? = none ∧ c.isClosing = false := by
  cases h <;> simp [Call.granted?, Call.isClosing]

/-- Requests that select nothing do not end with an interruption. -/
theorem Served.not_interrupts {g g' : Gadget (Traced σ) P} {e : DeviceError} {calls : List Call}
    (h : Served g (.error e, g')) (hcalls : g'.calls = g.calls ++ calls) :
    calls.getLast?.any Call.interrupts = false := by
  cases h with
  | @unhalted handle _ channel hcall =>
      obtain ⟨-, rfl⟩ := Prod.mk.inj hcall
      rw [← List.append_cancel_left hcalls]
      rfl
  | @unresumed handle _ channel hcall =>
      obtain ⟨-, rfl⟩ := Prod.mk.inj hcall
      rw [← List.append_cancel_left hcalls]
      rfl

theorem not_interrupts_of_closing {calls : List Call} (h : ∀ c ∈ calls, c.isClosing = true) :
    calls.getLast?.any Call.interrupts = false := by
  cases hlast : calls.getLast? with
  | none => rfl
  | some c => exact Call.interrupts_of_isClosing (h c (List.mem_of_getLast? hlast))

/-- A selection ends with an interruption only while its endpoints are brought up. -/
theorem Selecting.interrupted_calls {g g' : Gadget (Traced σ) P} {s : Selection}
    {e : DeviceError} {calls : List Call} (h : Selecting g s (.error e, g'))
    (hcalls : g'.calls = g.calls ++ calls) (hlast : calls.getLast?.any Call.interrupts = true) :
    ∃ value configuration closing granted tail,
      s = .pick value configuration ∧ calls = closing ++ granted.map Call.grant ++ tail ∧
      (∀ c ∈ closing, c.isClosing = true) ∧ Interrupted configuration granted e tail ∧
      g'.roster = .empty := by
  obtain ⟨hempty, closing, hclosing, hisClosing⟩ := stop_calls g
  cases h with
  | stuck hstop =>
      rw [hstop] at hclosing
      rw [List.append_cancel_left (hcalls.symm.trans hclosing),
        not_interrupts_of_closing hisClosing] at hlast
      cases hlast
  | @interrupted value configuration exits _ g₁ _ hstop hup =>
      rw [hstop] at hclosing hempty
      obtain ⟨granted, tail, hinterrupted, hup_calls⟩ := bringUp_calls hup
      obtain ⟨channel, rfl⟩ := withChannel_of_bringUp hup
      refine ⟨value, configuration, closing, granted, tail, rfl, ?_, hisClosing, hinterrupted, ?_⟩
      · refine List.append_cancel_left (hcalls.symm.trans ?_)
        rw [hup_calls, hclosing, List.append_assoc, List.append_assoc, List.append_assoc]
      · exact hempty
  | @unstarted value configuration exits _ _ g₁ g₂ _ _ _ _ hstop hup _ _ =>
      rw [hstop] at hclosing
      obtain ⟨before, hreported⟩ := bringUp_reported hup
      have hcalls : g₂.calls = g.calls ++ calls := hcalls
      have hlist : calls = closing ++ before ++ [.configure (.ok ())] := by
        refine List.append_cancel_left (hcalls.symm.trans ?_)
        rw [hreported, hclosing, List.append_assoc, List.append_assoc, List.append_assoc]
      rw [hlist, List.getLast?_concat] at hlast
      cases hlast

/-- **What an interrupted selection leaves behind.** -/
theorem recovered_iff [DeviceProfile P] {g g' : Gadget (Traced σ) P} {setup : Setup}
    {e : DeviceError} {calls : List Call}
    (h : g.does (handleEvent (.control setup)) = (.error e, g'))
    (hcalls : g'.calls = g.calls ++ calls)
    (hlast : calls.getLast?.any Call.interrupts = true) :
    ∃ value configuration closing granted tail,
      selection? g.profile setup = some (.pick value configuration) ∧
      calls = closing ++ granted.map Call.grant ++ tail ∧
      (∀ c ∈ closing, c.isClosing = true) ∧ Interrupted configuration granted e tail ∧
      g'.roster = .empty ∧ (Recovered calls g'.roster ↔ granted = []) := by
  rw [does_handleEvent_control] at h
  rcases hanswer : g.answering setup with ⟨e' | reply, g₁⟩
  · rw [hanswer] at h
    cases h
    obtain ⟨journal, hanswered⟩ := answered (g.noted [.event (.control setup)]) setup
    rw [show (g.noted [.event (.control setup)]).does (answer setup) = _ from hanswer]
      at hanswered
    split at hanswered
    · rename_i s hselection
      obtain ⟨value, configuration, closing, granted, tail, rfl, rfl, hisClosing, hinterrupted,
        hempty⟩ := hanswered.interrupted_calls hcalls hlast
      refine ⟨value, configuration, closing, granted, tail, hselection, rfl, hisClosing,
        hinterrupted, hempty, ?_⟩
      rw [hempty]
      exact recovered_iff_nil hisClosing hinterrupted.granted_isClosing
    · rw [hanswered.not_interrupts hcalls] at hlast
      cases hlast
  · -- the failure is in carrying the answer out, so the last call is on endpoint 0
    rw [hanswer] at h
    obtain ⟨⟨call, hcall, hendpoint, -⟩, -⟩ := complete_calls h
    obtain ⟨before, hbefore, -⟩ := answering_calls g setup
    rw [hanswer] at hbefore
    have hlist : calls = before ++ [call] := by
      refine List.append_cancel_left (hcalls.symm.trans ?_)
      rw [hcall, hbefore, List.append_assoc]
    rw [hlist, List.getLast?_concat] at hlast
    cases hlast.symm.trans (Call.interrupts_of_onEndpoint0 hendpoint)

/-- The device at a host, on a bus on which the second endpoint to be enabled is refused. -/
def twoWayRefused : Gadget (Traced (Faulty Bus)) PlainDevice :=
  let channel : Faulty Bus := { inner := .idle, plan := [((.epEnable, 0), [.proceed, .fail .eio])] }
  let started := (Gadget.new { inner := channel } {} .twoWay .standard).does start
  (started.2.does (handleEvent .connect)).2

/-- The endpoint that was granted first stays enabled for ever. -/
theorem twoWay_stranded :
    let outcome := twoWayRefused.does (handleEvent (.control (.select 1)))
    outcome.1 = .error (.channel .epEnable .eio) ∧
      ∃ calls, outcome.2.calls = twoWayRefused.calls ++ calls ∧
        calls.getLast?.any Call.interrupts = true ∧ ¬ Recovered calls outcome.2.roster := by
  refine ⟨rfl, [.enable (.bulk 129 64) (.ok 1),
    .enable (.bulk 2 64) (.error (.channel .epEnable .eio))], rfl, rfl, ?_⟩
  intro h
  rcases h [] _ _ _ rfl with hdisable | ⟨address, hroster⟩
  · cases List.mem_singleton.mp hdisable
  · cases hroster

/-- What this interruption leaves behind. -/
theorem twoWay_recovered_iff :
    let outcome := twoWayRefused.does (handleEvent (.control (.select 1)))
    ∃ calls closing granted tail, outcome.2.calls = twoWayRefused.calls ++ calls ∧
      calls = closing ++ granted.map Call.grant ++ tail ∧
      (Recovered calls outcome.2.roster ↔ granted = []) := by
  intro outcome
  obtain ⟨-, -, closing, granted, tail, -, hcalls, -, -, -, hrecovered⟩ :=
    @recovered_iff _ _ _ _ twoWayRefused outcome.2 (.select 1) (.channel .epEnable .eio)
      [.enable (.bulk 129 64) (.ok 1), .enable (.bulk 2 64) (.error (.channel .epEnable .eio))]
      rfl rfl rfl
  exact ⟨_, closing, granted, tail, rfl, hcalls, hrecovered⟩

end Gadget

end UsbPeripheral
