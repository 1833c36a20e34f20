import UsbPeripheral.Proofs.Selection

/-! # What a request can do to a device

A request is answered in one of a few ways, whatever the device class and the channel: it selects a
configuration, or it is **served** (`Served`), and `answered` says that there are no others.

* Most requests are kept away from the device: only the device class and the journal can change.
* Some change one thing in its state: the remote wakeup, an alternate setting, a halt.

The answer is then carried out by one operation on endpoint 0 (`does_complete`). -/

namespace UsbPeripheral

namespace Gadget

variable {σ P : Type} [Channel σ]

/-! ### The other requests -/

/-- How a request that selects nothing can be answered. -/
inductive Served (g : Gadget σ P) : Except DeviceError (Reply P) × Gadget σ P → Prop
  /-- Only the device class and the journal change. -/
  | kept (reply : Reply P) (profile : P) (journal : Journal) :
      Served g (.ok reply, { g with profile, journal })
  /-- The remote wakeup is allowed or forbidden. -/
  | waking (wakeup : Bool) :
      Served g (.ok .ack, { g with state := { g.state with remoteWakeup := wakeup } })
  /-- An interface of the selected configuration gets an alternate setting. -/
  | alternated {interface : UInt8} (alternate : UInt8) (profile : P) :
      g.hasInterface interface = true →
      Served g (.ok .ack, { g with profile, state := g.state.setAlternate interface alternate })
  /-- An endpoint in the roster is halted. -/
  | halted {address : Address} {handle : Handle} {channel : σ} :
      g.roster.handle? address = some handle →
      Channel.setHalt handle g.around.channel = (.ok (), channel) →
      Served g (.ok .ack,
        { g.withChannel channel with state := g.state.setHalted address true })
  /-- The halt of an endpoint that is not wedged ends. -/
  | resumed {address : Address} {handle : Handle} {channel : σ} :
      g.roster.handle? address = some handle → g.wedged.contains address = false →
      Channel.clearHalt handle g.around.channel = (.ok (), channel) →
      Served g (.ok .ack,
        { g.withChannel channel with state := g.state.setHalted address false })
  /-- An endpoint cannot be halted. -/
  | unhalted {handle : Handle} {e : DeviceError} {channel : σ} :
      Channel.setHalt handle g.around.channel = (.error e, channel) →
      Served g (.error e, g.withChannel channel)
  /-- The halt of an endpoint cannot be ended. -/
  | unresumed {handle : Handle} {e : DeviceError} {channel : σ} :
      Channel.clearHalt handle g.around.channel = (.error e, channel) →
      Served g (.error e, g.withChannel channel)

theorem Served.unchanged (g : Gadget σ P) (reply : Reply P) : Served g (.ok reply, g) :=
  .kept reply g.profile g.journal

theorem served_getDescriptor [DeviceProfile P] (g : Gadget σ P) (setup : Setup) :
    Served g (g.does (getDescriptor setup)) := by
  unfold getDescriptor
  split
  · exact .unchanged g .stall
  · dsimp only
    rw [does_bind, does_note]
    dsimp only
    rw [does_get_bind]
    split
    · exact .kept _ _ _
    · exact .kept _ _ _

omit [Channel σ] in
theorem does_getConfiguration (g : Gadget σ P) (setup : Setup) :
    g.does (getConfiguration setup) =
      (.ok (if setup.direction = .toHost then .send [g.state.configuration] else .stall), g) := by
  unfold getConfiguration
  by_cases h : setup.direction = .toHost
  · rw [if_neg (not_not_intro h), if_pos h]
    rfl
  · rw [if_pos h, if_neg h]
    rfl

theorem served_getInterface (g : Gadget σ P) (setup : Setup) :
    Served g (g.does (getInterface setup)) := by
  unfold getInterface
  dsimp only
  rw [does_get_bind]
  split
  · exact .unchanged g .stall
  · exact .unchanged g _

theorem served_getStatus [DeviceProfile P] (g : Gadget σ P) (setup : Setup) :
    Served g (g.does (getStatus setup)) := by
  unfold getStatus
  split
  · exact .unchanged g .stall
  · rw [does_get_bind]
    split
    · exact .unchanged g _
    · exact .unchanged g .stall

theorem served_setInterface [DeviceProfile P] (g : Gadget σ P) (setup : Setup) :
    Served g (g.does (setInterface setup)) := by
  unfold setInterface
  dsimp only
  rw [does_get_bind]
  split
  · exact .unchanged g .stall
  · rename_i h
    rw [does_bind, does_consult]
    dsimp only
    split
    · refine .alternated _ _ ?_
      simpa using (not_or.mp h).2
    · exact .kept _ _ _

theorem served_hostHalt (g : Gadget σ P) (address : Address) (set : Bool) :
    Served g (g.does (hostHalt address set)) := by
  unfold hostHalt
  split
  · exact .unchanged g .ack
  · rw [does_get_bind]
    cases hhandle : g.roster.handle? address with
    | none => exact .unchanged g .stall
    | some handle =>
        dsimp only
        cases set with
        | true =>
            rw [if_pos rfl, does_bind, does_call]
            rcases hcall : Channel.setHalt handle g.around.channel with ⟨e | ⟨⟩, channel⟩
            · exact .unhalted hcall
            · exact .halted hhandle hcall
        | false =>
            rw [if_neg Bool.false_ne_true]
            split
            · exact .kept .ack g.profile _
            · rename_i hwedged
              rw [does_bind, does_call]
              rcases hcall : Channel.clearHalt handle g.around.channel with ⟨e | ⟨⟩, channel⟩
              · exact .unresumed hcall
              · exact .resumed hhandle (eq_false_of_ne_true hwedged) hcall

theorem served_feature (g : Gadget σ P) (setup : Setup) (set : Bool) :
    Served g (g.does (feature setup set)) := by
  unfold feature
  split
  · exact .unchanged g .stall
  · split
    · exact .waking set
    · split
      · exact served_hostHalt g _ set
      · exact .unchanged g .stall

theorem served_setConfiguration [DeviceProfile P] {g : Gadget σ P} {setup : Setup}
    (hcategory : setup.category = .standard)
    (hrequest : StandardRequest.ofCode? setup.request = some .setConfiguration)
    (h : selection? g.profile setup = none) : Served g (g.does (setConfiguration setup)) := by
  unfold setConfiguration
  split
  · exact .unchanged g .stall
  · rename_i hdirection
    unfold selection? at h
    rw [if_pos ⟨hcategory, hrequest, Decidable.not_not.mp hdirection⟩] at h
    dsimp only at h ⊢
    split at h
    · cases h
    · rename_i hvalue
      rw [if_neg hvalue, does_get_bind, Option.map_eq_none_iff.mp h]
      exact .kept .stall g.profile _

/-- A standard request that selects nothing is served in one of the ways above. -/
theorem served_standard [DeviceProfile P] {g : Gadget σ P} {setup : Setup} (hcategory : setup.category = .standard)
    (h : selection? g.profile setup = none) : Served g (g.does (standard setup)) := by
  unfold standard
  cases hrequest : StandardRequest.ofCode? setup.request with
  | none => exact .unchanged g .stall
  | some request =>
      cases request with
      | getStatus => exact served_getStatus g setup
      | clearFeature => exact served_feature g setup false
      | setFeature => exact served_feature g setup true
      | getDescriptor => exact served_getDescriptor g setup
      | getConfiguration =>
          dsimp only
          rw [does_getConfiguration]
          exact .unchanged g _
      | setConfiguration => exact served_setConfiguration hcategory hrequest h
      | getInterface => exact served_getInterface g setup
      | setInterface => exact served_setInterface g setup
      | setAddress => exact .unchanged g .stall
      | setDescriptor => exact .unchanged g .stall
      | synchFrame => exact .unchanged g .stall

/-! ### Every request -/

/-- Handlers of the device class reach nothing but the device class and the journal. -/
theorem served_routed [DeviceProfile P] {g : Gadget σ P} {setup : Setup} (hcategory : setup.category ≠ .standard) :
    Served g (g.does (answer setup)) := by
  unfold answer
  split
  · rename_i h
    exact absurd h hcategory
  · rw [does_get_bind]
    split
    · exact .kept _ _ _
    · exact .kept .stall g.profile _

theorem does_answer_standard [DeviceProfile P] (g : Gadget σ P) {setup : Setup}
    (hcategory : setup.category = .standard) :
    g.does (answer setup) =
      (g.noted [.standardRequest (StandardRequest.describe setup.request)]).does (standard setup) := by
  unfold answer
  rw [hcategory]
  rfl

/-- **How a packet is answered.**  A packet that selects something leads to an end of the selection,
and every other packet is served. -/
theorem answered [DeviceProfile P] (g : Gadget σ P) (setup : Setup) :
    ∃ journal, match selection? g.profile setup with
      | some s => Selecting { g with journal } s (g.does (answer setup))
      | none => Served { g with journal } (g.does (answer setup)) := by
  by_cases hcategory : setup.category = .standard
  · refine ⟨g.journal.add [.standardRequest (StandardRequest.describe setup.request)], ?_⟩
    rw [does_answer_standard g hcategory]
    cases h : selection? g.profile setup with
    | none => exact served_standard hcategory h
    | some s =>
        have hrequest : StandardRequest.ofCode? setup.request = some .setConfiguration := by
          unfold selection? at h
          split at h
          · rename_i hsetup
            exact hsetup.2.1
          · cases h
        unfold standard
        rw [hrequest]
        exact selecting_setConfiguration h
  · refine ⟨g.journal, ?_⟩
    have h : selection? g.profile setup = none := if_neg fun hsetup => hcategory hsetup.1
    rw [h]
    exact served_routed hcategory

/-- A packet that picks a configuration is answered by selecting it. -/
theorem does_answer_pick [DeviceProfile P] {g : Gadget σ P} {setup : Setup} {value : UInt8}
    {configuration : Configuration}
    (h : selection? g.profile setup = some (.pick value configuration)) :
    ∃ journal, g.does (answer setup) = does { g with journal } (do
      selectConfiguration value configuration
      return .ack) := by
  unfold selection? at h
  split at h
  · rename_i hsetup
    obtain ⟨hcategory, hrequest, hdirection⟩ := hsetup
    dsimp only at h
    split at h
    · cases h
    · rename_i hvalue
      obtain ⟨found, hfound, hpick⟩ := Option.map_eq_some_iff.mp h
      obtain ⟨rfl, rfl⟩ := Selection.pick.inj hpick
      refine ⟨g.journal.add [.standardRequest (StandardRequest.describe setup.request)], ?_⟩
      rw [does_answer_standard g hcategory]
      unfold standard
      rw [hrequest]
      dsimp only
      unfold setConfiguration
      rw [if_neg (not_not_intro hdirection)]
      dsimp only
      rw [if_neg hvalue, does_get_bind]
      rw [show DeviceProfile.configuration? (g.noted _).profile _ = _ from hfound]
      rfl
  · cases h

/-! ### Completing a request -/

/-- An operation on endpoint 0. -/
inductive Stage where
  | write (data : Bytes)
  | read (room : Nat)
  | stall

/-- What an operation on endpoint 0 does to the channel; the result is the data that a read takes. -/
def Stage.operate : Stage → σ → Except DeviceError Bytes × σ
  | write data, s => ((Channel.ep0Write data s).1.map fun _ => [], (Channel.ep0Write data s).2)
  | read room, s => Channel.ep0Read room s
  | stall, s => ((Channel.ep0Stall s).1.map fun _ => [], (Channel.ep0Stall s).2)

/-- The operation that carries a reply out. -/
def stage (setup : Setup) (reply : Reply P) : Stage :=
  match reply, setup.direction with
  | .send data, .toHost => .write (data.take setup.length.toNat)
  | .ack, .toHost => .write []
  | .ack, .toDevice => .read setup.length.toNat
  | .receive _, .toDevice => .read setup.length.toNat
  | .stall, _ => .stall
  | .send _, .toDevice => .stall
  | .receive _, .toHost => .stall

/-- The device class after a reply was carried out with a result. -/
def handOver (setup : Setup) (reply : Reply P) (result : Except DeviceError Bytes) (p : P) : P :=
  match reply, setup.direction, result with
  | .receive handler, .toDevice, .ok data => (handler setup data p).1
  | _, _, _ => p

theorem does_refuse (g : Gadget σ P) (setup : Setup) :
    ∃ journal, g.does (refuse setup) =
      ((Stage.stall.operate g.around.channel).1.map fun _ => (),
        { g.withChannel (Stage.stall.operate g.around.channel).2 with journal }) := by
  refine ⟨g.journal.add [.stalling setup], ?_⟩
  unfold refuse
  rw [does_bind, does_note]
  dsimp only [Stage.operate]
  rw [does_call]
  dsimp only
  rcases Channel.ep0Stall g.around.channel with ⟨e | ⟨⟩, channel⟩ <;> rfl

/-- A reply is carried out by one operation, and changes the device class only by handing over what
was read. -/
theorem does_complete (g : Gadget σ P) (setup : Setup) (reply : Reply P) :
    ∃ journal, g.does (complete setup reply) =
      (((stage setup reply).operate g.around.channel).1.map fun _ => (),
        { g.withChannel ((stage setup reply).operate g.around.channel).2 with
          profile := handOver setup reply ((stage setup reply).operate g.around.channel).1 g.profile
          journal }) := by
  unfold complete stage handOver
  cases hdirection : setup.direction with
  | toHost =>
      cases reply with
      | send data =>
          dsimp only [Stage.operate]
          rw [does_bind, does_call]
          rcases Channel.ep0Write _ g.around.channel with ⟨e | sent, channel⟩
          · exact ⟨_, rfl⟩
          · exact ⟨_, rfl⟩
      | receive handler =>
          obtain ⟨journal, h⟩ := does_refuse (g.noted [.mismatched "Receive" .toHost]) setup
          exact ⟨journal, h⟩
      | ack =>
          dsimp only [Stage.operate]
          rw [does_bind, does_call]
          rcases Channel.ep0Write _ g.around.channel with ⟨e | sent, channel⟩
          · exact ⟨_, rfl⟩
          · exact ⟨_, rfl⟩
      | stall => exact does_refuse g setup
  | toDevice =>
      cases reply with
      | send data =>
          obtain ⟨journal, h⟩ :=
            does_refuse (g.noted [.mismatched (Reply.send (P := P) data).text .toDevice]) setup
          exact ⟨journal, h⟩
      | receive handler =>
          dsimp only [Stage.operate]
          rw [does_bind, does_call]
          rcases Channel.ep0Read _ g.around.channel with ⟨e | data, channel⟩
          · exact ⟨_, rfl⟩
          · exact ⟨_, rfl⟩
      | ack =>
          dsimp only [Stage.operate]
          rw [does_bind, does_call]
          rcases Channel.ep0Read _ g.around.channel with ⟨e | data, channel⟩
          · exact ⟨_, rfl⟩
          · dsimp only
            split
            · exact ⟨_, rfl⟩
            · exact ⟨_, rfl⟩
      | stall => exact does_refuse g setup

/-- How a device answers a packet before it carries the answer out. -/
def answering [DeviceProfile P] (g : Gadget σ P) (setup : Setup) : Except DeviceError (Reply P) × Gadget σ P :=
  (g.noted [.event (.control setup)]).does (answer setup)

theorem does_handleEvent_control [DeviceProfile P] (g : Gadget σ P) (setup : Setup) :
    g.does (handleEvent (.control setup)) =
      match g.answering setup with
      | (.ok reply, g₁) => g₁.does (complete setup reply)
      | (.error e, g₁) => (.error e, g₁) := by
  show (g.noted [.event (.control setup)]).does (handleControl setup) = _
  rw [handleControl, does_bind]
  unfold answering
  rcases (g.noted [.event (.control setup)]).does (answer setup) with ⟨e | reply, g₁⟩ <;> rfl

end Gadget

end UsbPeripheral
