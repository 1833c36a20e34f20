import UsbPeripheral.Proofs.Requests

/-! # What standard requests are answered

The outcome of every standard request, as an equation.  Three facts follow for all of them.

* A standard request is answered in its own direction (`fits_standard`): data is sent to a host that
  asks for data, and an acknowledgement goes to one that brings data.
* What is carried out for it on endpoint 0 is a stall exactly if the request is **refused**
  (`stage_eq_stall_iff`).
* A refused request leaves the device alone (`spared_standard`).  Only the device class can have
  changed, and only while it refused an alternate setting. -/

namespace UsbPeripheral

/-- The standard request in a packet that brings or asks for data. -/
def Setup.Carries (setup : Setup) (request : StandardRequest) (direction : Direction) : Prop :=
  setup.category = .standard ∧ StandardRequest.ofCode? setup.request = some request ∧
    setup.direction = direction

/-- The feature that a SET_FEATURE or CLEAR_FEATURE packet is about. -/
def Setup.feature? (setup : Setup) : Option Feature :=
  if setup.recipient = .device ∧ setup.value = Feature.remoteWakeup.code then some .remoteWakeup
  else if setup.recipient = .endpoint ∧ setup.value = Feature.endpointHalt.code then
    some .endpointHalt
  else none

namespace Gadget

variable {σ P : Type}

/-- The device with a standard packet noted. -/
def heard (g : Gadget σ P) (setup : Setup) : Gadget σ P :=
  (g.noted [.event (.control setup)]).noted
    [.standardRequest (StandardRequest.describe setup.request)]

/-! ### Requests that only read -/

theorem does_getInterface (g : Gadget σ P) (setup : Setup) :
    g.does (getInterface setup) =
      (.ok (if setup.direction = .toHost ∧ g.hasInterface (Bytes.low setup.index) = true then
        .send [g.state.alternate (Bytes.low setup.index)] else .stall), g) := by
  unfold getInterface
  dsimp only
  rw [does_get_bind]
  by_cases hdirection : setup.direction = .toHost
  · cases hinterface : g.hasInterface (Bytes.low setup.index) with
    | true =>
        rw [if_neg (by simp [hdirection]), if_pos ⟨hdirection, rfl⟩]
        rfl
    | false =>
        rw [if_pos (by simp), if_neg (by simp)]
        rfl
  · rw [if_pos (.inl hdirection), if_neg fun h => hdirection h.1]
    rfl

section profile

variable [DeviceProfile P]

theorem does_getStatus (g : Gadget σ P) (setup : Setup) :
    g.does (getStatus setup) =
      (.ok (if setup.direction = .toHost then
        ((g.statusWord setup).map fun word => .send (Bytes.ofWord16 word)).getD .stall
        else .stall), g) := by
  unfold getStatus
  by_cases hdirection : setup.direction = .toHost
  · rw [if_neg (not_not_intro hdirection), if_pos hdirection, does_get_bind]
    cases g.statusWord setup <;> rfl
  · rw [if_pos hdirection, if_neg hdirection]
    rfl

theorem does_getDescriptor (g : Gadget σ P) (setup : Setup) :
    ∃ journal, g.does (getDescriptor setup) =
      (.ok (if setup.direction = .toHost then
        ((DeviceProfile.descriptor? g.profile setup.descriptorQuery).map .send).getD .stall
        else .stall), { g with journal }) := by
  unfold getDescriptor
  by_cases hdirection : setup.direction = .toHost
  · rw [if_neg (not_not_intro hdirection), if_pos hdirection]
    dsimp only
    rw [does_bind, does_note]
    dsimp only
    rw [does_get_bind]
    cases DeviceProfile.descriptor? g.profile setup.descriptorQuery with
    | none => exact ⟨_, rfl⟩
    | some data => exact ⟨_, rfl⟩
  · rw [if_pos hdirection, if_neg hdirection]
    exact ⟨g.journal, rfl⟩

/-! ### Requests that change something -/

theorem does_setInterface (g : Gadget σ P) (setup : Setup) :
    g.does (setInterface setup) =
      if setup.direction = .toDevice ∧ g.hasInterface (Bytes.low setup.index) = true then
        let chosen :=
          DeviceProfile.setInterface g.profile (Bytes.low setup.index) (Bytes.low setup.value)
        if chosen.1 = true then
          (.ok .ack, { g with
            profile := chosen.2
            state := g.state.setAlternate (Bytes.low setup.index) (Bytes.low setup.value) })
        else (.ok .stall, { g with profile := chosen.2 })
      else (.ok .stall, g) := by
  unfold setInterface
  dsimp only
  rw [does_get_bind]
  by_cases h : setup.direction = .toDevice ∧ g.hasInterface (Bytes.low setup.index) = true
  · rw [if_neg (by simp [h]), if_pos h, does_bind, does_consult]
    dsimp only
    split
    · rfl
    · rfl
  · have hrefused : setup.direction ≠ .toDevice ∨
        (!g.hasInterface (Bytes.low setup.index)) = true := by
      by_cases hdirection : setup.direction = .toDevice
      · exact .inr (by simpa using fun hi => h ⟨hdirection, hi⟩)
      · exact .inl hdirection
    rw [if_pos hrefused, if_neg h]
    rfl

/-- Only a host that brings data selects. -/
theorem direction_of_selection? {p : P} {setup : Setup} {s : Selection}
    (h : selection? p setup = some s) : setup.direction = .toDevice := by
  unfold selection? at h
  split at h
  · rename_i hsetup
    exact hsetup.2.2
  · cases h

/-- A packet that is no accepted SET_CONFIGURATION selects nothing and is refused as one. -/
theorem refused_setConfiguration [Channel σ] {g : Gadget σ P} {setup : Setup}
    (hcarries : setup.Carries .setConfiguration setup.direction)
    (h : selection? g.profile setup = none) :
    ∃ journal, g.does (setConfiguration setup) = (.ok .stall, { g with journal }) := by
  unfold setConfiguration
  by_cases hdirection : setup.direction = .toDevice
  · unfold selection? at h
    rw [if_pos ⟨hcarries.1, hcarries.2.1, hdirection⟩] at h
    rw [if_neg (not_not_intro hdirection)]
    dsimp only at h ⊢
    split at h
    · cases h
    · rename_i hvalue
      rw [if_neg hvalue, does_get_bind, Option.map_eq_none_iff.mp h]
      exact ⟨g.journal.add [.noConfiguration (Bytes.low setup.value)], rfl⟩
  · rw [if_pos hdirection]
    exact ⟨g.journal, rfl⟩

end profile

theorem does_feature [Channel σ] (g : Gadget σ P) (setup : Setup) (set : Bool) :
    g.does (feature setup set) =
      if setup.direction = .toDevice then
        match setup.feature? with
        | some .remoteWakeup =>
          (.ok .ack, { g with state := { g.state with remoteWakeup := set } })
        | some .endpointHalt => g.does (hostHalt (Bytes.low setup.index) set)
        | none => (.ok .stall, g)
      else (.ok .stall, g) := by
  unfold feature Setup.feature?
  by_cases hdirection : setup.direction = .toDevice
  · rw [if_neg (not_not_intro hdirection), if_pos hdirection]
    by_cases hwakeup : setup.recipient = .device ∧ setup.value = Feature.remoteWakeup.code
    · rw [if_pos hwakeup, if_pos hwakeup]
      rfl
    · rw [if_neg hwakeup, if_neg hwakeup]
      split
      · rfl
      · rfl
  · rw [if_pos hdirection, if_neg hdirection]
    rfl

/-! ### How a standard request ends -/

section profile

variable [DeviceProfile P]

/-- The device class is as before, or has refused an alternate setting. -/
def Declines (p p' : P) : Prop :=
  p' = p ∨ ∃ interface alternate, DeviceProfile.setInterface p interface alternate = (false, p')

/-- How a standard request can end. -/
inductive Settled (g : Gadget σ P) (direction : Direction) :
    Except DeviceError (Reply P) × Gadget σ P → Prop
  | failed (e : DeviceError) (g' : Gadget σ P) : Settled g direction (.error e, g')
  /-- A refused request leaves the device alone. -/
  | refused (profile : P) (journal : Journal) : Declines g.profile profile →
      Settled g direction (.ok .stall, { g with profile, journal })
  /-- Data goes to a host that asks for data. -/
  | sent (data : Bytes) (g' : Gadget σ P) : direction = .toHost →
      Settled g direction (.ok (.send data), g')
  /-- A host that brings data is acknowledged. -/
  | acknowledged (g' : Gadget σ P) : direction = .toDevice →
      Settled g direction (.ok .ack, g')

theorem Settled.unchanged (g : Gadget σ P) (direction : Direction) :
    Settled g direction (.ok .stall, g) := .refused g.profile g.journal (.inl rfl)

theorem settled_getStatus (g : Gadget σ P) (setup : Setup) :
    Settled g setup.direction (g.does (getStatus setup)) := by
  rw [does_getStatus]
  split
  · rename_i hdirection
    cases g.statusWord setup with
    | none => exact .unchanged g _
    | some word => exact .sent _ g hdirection
  · exact .unchanged g _

theorem settled_getDescriptor (g : Gadget σ P) (setup : Setup) :
    Settled g setup.direction (g.does (getDescriptor setup)) := by
  obtain ⟨journal, h⟩ := does_getDescriptor g setup
  rw [h]
  split
  · rename_i hdirection
    cases DeviceProfile.descriptor? g.profile setup.descriptorQuery with
    | none => exact .refused g.profile journal (.inl rfl)
    | some data => exact .sent data _ hdirection
  · exact .refused g.profile journal (.inl rfl)

theorem settled_getConfiguration (g : Gadget σ P) (setup : Setup) :
    Settled g setup.direction (g.does (getConfiguration setup)) := by
  rw [does_getConfiguration]
  split
  · rename_i hdirection
    exact .sent _ g hdirection
  · exact .unchanged g _

theorem settled_getInterface (g : Gadget σ P) (setup : Setup) :
    Settled g setup.direction (g.does (getInterface setup)) := by
  rw [does_getInterface]
  split
  · rename_i h
    exact .sent _ g h.1
  · exact .unchanged g _

theorem settled_setInterface (g : Gadget σ P) (setup : Setup) :
    Settled g setup.direction (g.does (setInterface setup)) := by
  rw [does_setInterface]
  split
  · rename_i h
    dsimp only
    split
    · exact .acknowledged _ h.1
    · rename_i hrefused
      refine .refused _ g.journal (.inr ⟨Bytes.low setup.index, Bytes.low setup.value, ?_⟩)
      exact Prod.ext (eq_false_of_ne_true hrefused) rfl
  · exact .unchanged g _

variable [Channel σ]

theorem settled_hostHalt (g : Gadget σ P) (address : Address) (set : Bool) :
    Settled g .toDevice (g.does (hostHalt address set)) := by
  unfold hostHalt
  split
  · exact .acknowledged g rfl
  · rw [does_get_bind]
    cases g.roster.handle? address with
    | none => exact .unchanged g _
    | some handle =>
        dsimp only
        split
        · rw [does_bind]
          rcases g.does (call (Channel.setHalt handle)) with ⟨e | ⟨⟩, g'⟩
          · exact .failed e g'
          · exact .acknowledged _ rfl
        · split
          · exact .acknowledged _ rfl
          · rw [does_bind]
            rcases g.does (call (Channel.clearHalt handle)) with ⟨e | ⟨⟩, g'⟩
            · exact .failed e g'
            · exact .acknowledged _ rfl

theorem settled_feature (g : Gadget σ P) (setup : Setup) (set : Bool) :
    Settled g setup.direction (g.does (feature setup set)) := by
  rw [does_feature]
  split
  · rename_i hdirection
    rw [hdirection]
    split
    · exact .acknowledged _ rfl
    · exact settled_hostHalt g _ set
    · exact .unchanged g _
  · exact .unchanged g _

theorem settled_setConfiguration {g : Gadget σ P} {setup : Setup}
    (hcarries : setup.Carries .setConfiguration setup.direction) :
    Settled g setup.direction (g.does (setConfiguration setup)) := by
  cases hselection : selection? g.profile setup with
  | none =>
      obtain ⟨journal, h⟩ := refused_setConfiguration hcarries hselection
      rw [h]
      exact .refused g.profile journal (.inl rfl)
  | some s =>
      have hdirection : setup.direction = .toDevice := direction_of_selection? hselection
      have hselecting := selecting_setConfiguration hselection
      generalize g.does (setConfiguration setup) = outcome at hselecting ⊢
      cases hselecting with
      | stuck _ => exact .failed _ _
      | cleared _ _ => exact .acknowledged _ hdirection
      | interrupted _ _ => exact .failed _ _
      | selected _ _ _ _ _ => exact .acknowledged _ hdirection
      | unstarted _ _ _ _ _ _ _ => exact .failed _ _

/-- **How a standard request ends.** -/
theorem settled_standard {g : Gadget σ P} {setup : Setup} (hstandard : setup.category = .standard) :
    Settled g setup.direction (g.does (standard setup)) := by
  unfold standard
  cases hrequest : StandardRequest.ofCode? setup.request with
  | none => exact .unchanged g _
  | some request =>
      cases request with
      | getStatus => exact settled_getStatus g setup
      | clearFeature => exact settled_feature g setup false
      | setFeature => exact settled_feature g setup true
      | getDescriptor => exact settled_getDescriptor g setup
      | getConfiguration => exact settled_getConfiguration g setup
      | setConfiguration => exact settled_setConfiguration ⟨hstandard, hrequest, rfl⟩
      | getInterface => exact settled_getInterface g setup
      | setInterface => exact settled_setInterface g setup
      | setAddress => exact .unchanged g _
      | setDescriptor => exact .unchanged g _
      | synchFrame => exact .unchanged g _

theorem answering_standard (g : Gadget σ P) {setup : Setup}
    (hstandard : setup.category = .standard) :
    g.answering setup = (g.heard setup).does (standard setup) :=
  does_answer_standard _ hstandard

/-! ### Answers to a host that asks -/

theorem answering_getConfiguration (g : Gadget σ P) {setup : Setup}
    (h : setup.Carries .getConfiguration .toHost) :
    g.answering setup = (.ok (.send [g.state.configuration]), g.heard setup) := by
  obtain ⟨hstandard, hrequest, hdirection⟩ := h
  rw [answering_standard g hstandard]
  unfold standard
  rw [hrequest]
  dsimp only
  rw [does_getConfiguration, if_pos hdirection]
  rfl

theorem answering_getInterface (g : Gadget σ P) {setup : Setup}
    (h : setup.Carries .getInterface .toHost) :
    g.answering setup = (.ok (if g.hasInterface (Bytes.low setup.index) = true then
      .send [g.state.alternate (Bytes.low setup.index)] else .stall), g.heard setup) := by
  obtain ⟨hstandard, hrequest, hdirection⟩ := h
  rw [answering_standard g hstandard]
  unfold standard
  rw [hrequest]
  dsimp only
  rw [does_getInterface]
  simp only [hdirection, true_and]
  rfl

theorem answering_getStatus (g : Gadget σ P) {setup : Setup}
    (h : setup.Carries .getStatus .toHost) :
    g.answering setup = (.ok (((g.statusWord setup).map fun word =>
      .send (Bytes.ofWord16 word)).getD .stall), g.heard setup) := by
  obtain ⟨hstandard, hrequest, hdirection⟩ := h
  rw [answering_standard g hstandard]
  unfold standard
  rw [hrequest]
  dsimp only
  rw [does_getStatus, if_pos hdirection]
  rfl

theorem answering_getDescriptor (g : Gadget σ P) {setup : Setup}
    (h : setup.Carries .getDescriptor .toHost) :
    ∃ journal, g.answering setup =
      (.ok (((DeviceProfile.descriptor? g.profile setup.descriptorQuery).map .send).getD .stall),
        { g with journal }) := by
  obtain ⟨hstandard, hrequest, hdirection⟩ := h
  rw [answering_standard g hstandard]
  unfold standard
  rw [hrequest]
  dsimp only
  obtain ⟨journal, hdoes⟩ := does_getDescriptor (g.heard setup) setup
  rw [if_pos hdirection] at hdoes
  exact ⟨journal, hdoes⟩

/-! ### Endings -/

theorem settled_answering {g : Gadget σ P} {setup : Setup} (hstandard : setup.category = .standard) :
    Settled g setup.direction (g.answering setup) := by
  -- the notes before the answer are no more than other entries of the journal
  have hsettled := settled_standard (g := g.heard setup) hstandard
  rw [answering_standard g hstandard]
  generalize (g.heard setup).does (standard setup) = outcome at hsettled ⊢
  cases hsettled with
  | failed e g' => exact .failed e g'
  | refused profile journal h => exact .refused profile journal h
  | sent data g' hdirection => exact .sent data g' hdirection
  | acknowledged g' hdirection => exact .acknowledged g' hdirection

omit [DeviceProfile P] [Channel σ] in
theorem stage_send {setup : Setup} (hdirection : setup.direction = .toHost) (data : Bytes) :
    stage setup (.send data : Reply P) = .write (data.take setup.length.toNat) := by
  unfold stage
  rw [hdirection]

omit [Channel σ] in
/-- Endpoint 0 is stalled for a standard request exactly if the request is refused. -/
theorem stage_eq_stall_iff {g g' : Gadget σ P} {setup : Setup} {reply : Reply P}
    (h : Settled g setup.direction (.ok reply, g')) :
    stage setup reply = .stall ↔ reply = .stall := by
  unfold stage
  cases h with
  | refused _ _ _ => simp
  | sent data _ hdirection => simp [hdirection]
  | acknowledged _ hdirection => simp [hdirection]

end profile

end Gadget

end UsbPeripheral
