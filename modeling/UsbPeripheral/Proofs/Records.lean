import UsbPeripheral.Kernel.RawChannel

/-! # Event records are read from their own bytes

An event record stands in a buffer as two words, the tag and the length that is **announced** for the
payload, and the payload after them.  The payload that is read is as long as announced, if so much is
there.  What is written as a record is read as the same record, whatever stands behind it; what is read
depends on nothing past its own payload (`EventRecord.ReadsOwnBytes`, `EventRecord.reads_own_bytes`).

The kernel writes a record into a buffer of a fixed size, or only the front of one.  What is fetched is
the record that stands in that buffer (`RawChannel.fetchEvent_eq_ofBytes`). -/

namespace UsbPeripheral

namespace Bytes

/-- The 32-bit word at a place in a buffer. -/
def word32At (data : Bytes) (place : Nat) : UInt32 :=
  word32 (data.getD place 0) (data.getD (place + 1) 0) (data.getD (place + 2) 0)
    (data.getD (place + 3) 0)

theorem word32At_append {front : Bytes} {place : Nat} (h : place + 3 < front.length) (rest : Bytes) :
    word32At (front ++ rest) place = word32At front place := by
  have hgetD : ∀ i, i < front.length → (front ++ rest).getD i 0 = front.getD i 0 := by
    intro i hi
    rw [List.getD_eq_getElem?_getD, List.getD_eq_getElem?_getD, List.getElem?_append_left hi]
  unfold word32At
  rw [hgetD place (by omega), hgetD (place + 1) (by omega), hgetD (place + 2) (by omega),
    hgetD (place + 3) (by omega)]

theorem word32At_zero_ofWord32 (v w : UInt32) : word32At (ofWord32 v ++ ofWord32 w) 0 = v :=
  word32_octets v

theorem word32At_four_ofWord32 (v w : UInt32) : word32At (ofWord32 v ++ ofWord32 w) 4 = w :=
  word32_octets w

end Bytes

/-! ### Packets -/

namespace Setup

/-- A packet is read from eight bytes, which are its own. -/
theorem ofBytes?_eq_some_iff {data : Bytes} {s : Setup} :
    ofBytes? data = some s ↔ size ≤ data.length ∧ s.toBytes = data.take size := by
  constructor
  · intro h
    have hbytes := toBytes_of_ofBytes? h
    have hlength := congrArg List.length hbytes
    rw [length_toBytes, List.length_take] at hlength
    exact ⟨by omega, hbytes⟩
  · rintro ⟨-, hbytes⟩
    rw [← List.take_append_drop size data, ← hbytes]
    exact ofBytes?_toBytes s _

/-- Any eight bytes are a packet. -/
theorem ofBytes?_append {front : Bytes} (h : front.length = size) (rest : Bytes) :
    ∃ s, ofBytes? (front ++ rest) = some s := by
  match front, h with
  | [_, _, _, _, _, _, _, _], _ => exact ⟨_, rfl⟩

theorem exists_ofBytes?_iff {data : Bytes} : (∃ s, ofBytes? data = some s) ↔ size ≤ data.length := by
  constructor
  · rintro ⟨s, hs⟩
    exact (ofBytes?_eq_some_iff.mp hs).1
  · intro h
    have hfront : (data.take size).length = size := by
      rw [List.length_take, Nat.min_eq_left h]
    rw [← List.take_append_drop size data]
    exact ofBytes?_append hfront _

theorem ofBytes?_eq_none_iff {data : Bytes} : ofBytes? data = none ↔ data.length < size := by
  rw [← Nat.not_le, ← exists_ofBytes?_iff, ← Option.isSome_iff_exists, Option.not_isSome_iff_eq_none]

end Setup

namespace EventRecord

/-! ### What stands in a buffer -/

/-- Tag and announced length stand in the header, and the payload behind it. -/
theorem ofBytes_append {header : Bytes} (h : header.length = headerSize) (payload : Bytes) :
    ofBytes (header ++ payload) =
      ⟨header.word32At 0, payload.take (header.word32At 4).toNat⟩ := by
  match header, h with
  | [_, _, _, _, _, _, _, _], _ => rfl

theorem ofBytes_of_length_lt {data : Bytes} (h : data.length < headerSize) :
    ofBytes data = ⟨invalidTag, []⟩ := by
  unfold ofBytes
  split
  · simp only [headerSize, List.length_cons] at h
    omega
  · rfl

theorem exists_header {data : Bytes} (h : headerSize ≤ data.length) :
    ∃ header payload, data = header ++ payload ∧ header.length = headerSize := by
  refine ⟨data.take headerSize, data.drop headerSize, (List.take_append_drop _ _).symm, ?_⟩
  rw [List.length_take, Nat.min_eq_left h]

/-- The payload is what is announced, as far as it is there. -/
theorem ofBytes_of_length_le {data : Bytes} (h : headerSize ≤ data.length) :
    ofBytes data = ⟨data.word32At 0,
      (data.drop headerSize).take (min (data.word32At 4).toNat (data.length - headerSize))⟩ := by
  obtain ⟨header, payload, rfl, hheader⟩ := exists_header h
  have htag : Bytes.word32At (header ++ payload) 0 = header.word32At 0 :=
    Bytes.word32At_append (by rw [hheader]; decide) payload
  have hannounced : Bytes.word32At (header ++ payload) 4 = header.word32At 4 :=
    Bytes.word32At_append (by rw [hheader]; decide) payload
  have hlength : (header ++ payload).length - headerSize = payload.length := by
    rw [List.length_append, hheader, Nat.add_sub_cancel_left]
  rw [ofBytes_append hheader, htag, hannounced, hlength, List.drop_left' hheader,
    ← List.take_eq_take_min]

/-- The payload stands behind the header. -/
theorem payload_prefix (data : Bytes) : (ofBytes data).payload <+: data.drop headerSize := by
  rcases Nat.lt_or_ge data.length headerSize with h | h
  · rw [ofBytes_of_length_lt h]
    exact List.nil_prefix
  · rw [ofBytes_of_length_le h]
    exact List.take_prefix _ _

/-- A payload is short enough for its length to be announced. -/
theorem length_payload_lt (data : Bytes) : (ofBytes data).payload.length < UInt32.size := by
  rcases Nat.lt_or_ge data.length headerSize with h | h
  · rw [ofBytes_of_length_lt h]
    decide
  · rw [ofBytes_of_length_le h, List.length_take]
    have hword := (data.word32At 4).toNat_lt
    show _ < 4294967296
    omega

/-! ### Writing and reading -/

/-- A record is read back, whatever stands behind it. -/
theorem ofBytes_toBytes_append {r : EventRecord} (h : r.payload.length < UInt32.size)
    (extra : Bytes) : ofBytes (r.toBytes ++ extra) = r := by
  have hannounced : (UInt32.ofNat r.payload.length).toNat = r.payload.length :=
    UInt32.toNat_ofNat_of_lt h
  unfold toBytes
  rw [List.append_assoc, ofBytes_append rfl, Bytes.word32At_zero_ofWord32,
    Bytes.word32At_four_ofWord32, hannounced, List.take_left]

/-- What was read is written and read again. -/
theorem ofBytes_toBytes_ofBytes (data : Bytes) : ofBytes (ofBytes data).toBytes = ofBytes data := by
  have hread := ofBytes_toBytes_append (length_payload_lt data) []
  rwa [List.append_nil] at hread

/-! ### Nothing past the payload is read -/

/-- The buffer up to the end of the payload that is read. -/
def ownBytes (data : Bytes) : Bytes := data.take (headerSize + (ofBytes data).payload.length)

theorem ownBytes_eq_self {data : Bytes}
    (h : data.length ≤ headerSize + (ofBytes data).payload.length) : ownBytes data = data :=
  List.take_of_length_le h

/-- Where something stands behind the payload, the payload is as long as announced. -/
theorem ofBytes_ownBytes_append {data : Bytes}
    (h : headerSize + (ofBytes data).payload.length < data.length) (rest : Bytes) :
    ofBytes (ownBytes data ++ rest) = ofBytes data := by
  have hroom : headerSize ≤ data.length := Nat.le_trans (Nat.le_add_right _ _) (Nat.le_of_lt h)
  obtain ⟨header, payload, rfl, hheader⟩ := exists_header hroom
  rw [ofBytes_append hheader, List.length_append, hheader, List.length_take] at h
  have hannounced : (header.word32At 4).toNat < payload.length := by omega
  have hown : ownBytes (header ++ payload) =
      header ++ payload.take (header.word32At 4).toNat := by
    unfold ownBytes
    rw [ofBytes_append hheader, List.length_take, Nat.min_eq_left (Nat.le_of_lt hannounced), ← hheader,
      List.take_length_add_append]
  have htaken : (payload.take (header.word32At 4).toNat).length = (header.word32At 4).toNat := by
    rw [List.length_take, Nat.min_eq_left (Nat.le_of_lt hannounced)]
  rw [hown, List.append_assoc, ofBytes_append hheader, ofBytes_append hheader,
    List.take_left' htaken]

theorem ofBytes_ownBytes (data : Bytes) : ofBytes (ownBytes data) = ofBytes data := by
  rcases Nat.lt_or_ge (headerSize + (ofBytes data).payload.length) data.length with h | h
  · rw [← List.append_nil (ownBytes data)]
    exact ofBytes_ownBytes_append h []
  · rw [ownBytes_eq_self h]

/-! ### Decoding -/

section decode

variable {r : EventRecord}

theorem decode_of_control (h : r.tag = controlTag) :
    r.decode =
      (Setup.ofBytes? r.payload).elim (.malformed r.tag r.payload.length) .control := by
  have hconnect : r.tag ≠ connectTag := by
    rw [h]
    decide
  unfold decode
  rw [if_neg hconnect, if_pos h]
  cases Setup.ofBytes? r.payload with
  | none => rfl
  | some setup => rfl

/-- Without the tag of a packet there is neither a packet nor a record too short for one. -/
theorem decode_of_ne_control (h : r.tag ≠ controlTag) :
    (∀ s, r.decode ≠ .control s) ∧ ∀ tag length, r.decode ≠ .malformed tag length := by
  unfold decode
  rw [if_neg h]
  repeat' split
  all_goals exact ⟨nofun, nofun⟩

theorem decode_eq_control_iff {s : Setup} :
    r.decode = .control s ↔ r.tag = controlTag ∧ Setup.ofBytes? r.payload = some s := by
  by_cases h : r.tag = controlTag
  · rw [decode_of_control h]
    cases Setup.ofBytes? r.payload with
    | none => simp
    | some setup => simp [h]
  · exact iff_of_false ((decode_of_ne_control h).1 s) fun hs => h hs.1

theorem decode_eq_malformed_iff {tag : UInt32} {length : Nat} :
    r.decode = .malformed tag length ↔
      r.tag = controlTag ∧ r.payload.length < Setup.size ∧
        tag = controlTag ∧ length = r.payload.length := by
  by_cases h : r.tag = controlTag
  · rw [decode_of_control h, ← Setup.ofBytes?_eq_none_iff]
    cases Setup.ofBytes? r.payload with
    | none => simp [h, eq_comm]
    | some setup => simp
  · exact iff_of_false ((decode_of_ne_control h).2 tag length) fun hs => h hs.1

theorem decode_ofSetup (s : Setup) : (ofSetup s).decode = .control s := by
  refine decode_eq_control_iff.mpr ⟨rfl, ?_⟩
  have hread := Setup.ofBytes?_toBytes s []
  rwa [List.append_nil] at hread

end decode

/-! ### The law of records -/

/-- What a buffer is read as depends on the record in it, and on nothing behind the record. -/
structure ReadsOwnBytes (data : Bytes) : Prop where
  /-- A buffer with room for a header is read as what stands in it. -/
  stands : headerSize ≤ data.length → ofBytes data = ⟨data.word32At 0,
    (data.drop headerSize).take (min (data.word32At 4).toNat (data.length - headerSize))⟩
  /-- Any other buffer is read as no event. -/
  invalid : data.length < headerSize → ofBytes data = ⟨invalidTag, []⟩
  /-- What was read is written and read again. -/
  again : ofBytes (ofBytes data).toBytes = ofBytes data
  /-- The tag and the length of the payload tell whether there is a packet. -/
  isControl : (∃ s, (ofBytes data).decode = .control s) ↔
    (ofBytes data).tag = controlTag ∧ Setup.size ≤ (ofBytes data).payload.length
  /-- The eight bytes behind the header are the packet. -/
  packet : ∀ s, (ofBytes data).decode = .control s →
    s.toBytes = (data.drop headerSize).take Setup.size
  /-- A payload that is too short for a packet is told with its length. -/
  isMalformed : ∀ tag length, (ofBytes data).decode = .malformed tag length ↔
    (ofBytes data).tag = controlTag ∧ (ofBytes data).payload.length < Setup.size ∧
      tag = controlTag ∧ length = (ofBytes data).payload.length
  /-- What stands behind the payload may be cut off. -/
  alone : ofBytes (ownBytes data) = ofBytes data
  /-- What stands behind the payload may be anything else. -/
  past : headerSize + (ofBytes data).payload.length < data.length →
    ∀ rest, ofBytes (ownBytes data ++ rest) = ofBytes data

theorem packet_of_decode {data : Bytes} {s : Setup} (h : (ofBytes data).decode = .control s) :
    s.toBytes = (data.drop headerSize).take Setup.size := by
  obtain ⟨-, hread⟩ := decode_eq_control_iff.mp h
  obtain ⟨hlength, hbytes⟩ := Setup.ofBytes?_eq_some_iff.mp hread
  obtain ⟨rest, hrest⟩ := payload_prefix data
  rw [hbytes, ← hrest, List.take_append_of_le_length hlength]

theorem exists_decode_eq_control_iff {r : EventRecord} :
    (∃ s, r.decode = .control s) ↔ r.tag = controlTag ∧ Setup.size ≤ r.payload.length := by
  simp only [decode_eq_control_iff, exists_and_left, Setup.exists_ofBytes?_iff]

theorem readsOwnBytes (data : Bytes) : ReadsOwnBytes data where
  stands := ofBytes_of_length_le
  invalid := ofBytes_of_length_lt
  again := ofBytes_toBytes_ofBytes data
  isControl := exists_decode_eq_control_iff
  packet _ := packet_of_decode
  isMalformed _ _ := decode_eq_malformed_iff
  alone := ofBytes_ownBytes data
  past := ofBytes_ownBytes_append

/-- **Records are read from their own bytes.**  A record whose length can be announced is read back
from what it is written as, whatever stands behind it, and so is every packet; and no buffer is read
past its own record. -/
theorem reads_own_bytes {r : EventRecord} (hsize : r.payload.length < UInt32.size) (extra : Bytes) :
    ofBytes (r.toBytes ++ extra) = r ∧ (∀ data, ReadsOwnBytes data) ∧
      ∀ s : Setup, (ofBytes ((ofSetup s).toBytes ++ extra)).decode = .control s := by
  refine ⟨ofBytes_toBytes_append hsize extra, readsOwnBytes, fun s => ?_⟩
  have hpacket : (ofSetup s).payload.length < UInt32.size := by
    show s.toBytes.length < UInt32.size
    rw [Setup.length_toBytes]
    decide
  rw [ofBytes_toBytes_append hpacket]
  exact decode_ofSetup s

/-- A packet with a byte too many. -/
def longPacket : EventRecord := ⟨controlTag, [0x80, 6, 0, 1, 0, 0, 64, 0, 0xaa]⟩

/-- The record is read with its additional byte and without the two bytes behind it, and so is what is
left of it when it was cut off. -/
theorem longPacket_reads_own_bytes :
    longPacket.payload.length < UInt32.size ∧
      ofBytes (longPacket.toBytes ++ [0xbb, 0xcc]) = longPacket ∧
      ReadsOwnBytes (longPacket.toBytes.take 11) ∧
      (ofBytes ((ofSetup ⟨.toHost, 6, 0x0100, 0, 64⟩).toBytes ++ [0xbb, 0xcc])).decode =
        .control ⟨.toHost, 6, 0x0100, 0, 64⟩ := by
  have hsize : longPacket.payload.length < UInt32.size := by decide
  obtain ⟨hread, hown, hpacket⟩ := reads_own_bytes hsize [0xbb, 0xcc]
  exact ⟨hsize, hread, hown _, hpacket _⟩

end EventRecord

/-! ### Fetching -/

namespace Kernel

/-- The buffer of a fetch after the kernel wrote its front. -/
def fetched (written : Bytes) : Bytes :=
  Bytes.overlay written (eventHeader ++ Bytes.zeros eventRoom)

theorem length_fetched {written : Bytes}
    (h : written.length ≤ EventRecord.headerSize + eventRoom) :
    (fetched written).length = EventRecord.headerSize + eventRoom := by
  have hblank : (eventHeader ++ Bytes.zeros eventRoom).length =
      EventRecord.headerSize + eventRoom := by
    rw [List.length_append, Bytes.zeros, List.length_replicate]
    rfl
  unfold fetched
  rw [Bytes.length_overlay, hblank]
  rw [hblank]
  exact h

/-- Two readings agree: to cut the announced length to the room that there is, and to take what is
there. -/
theorem eventOf_eq_ofBytes {written : Bytes}
    (h : written.length ≤ EventRecord.headerSize + eventRoom) :
    eventOf written = EventRecord.ofBytes (fetched written) := by
  have hlength := length_fetched h
  have hheader : EventRecord.headerSize ≤ (fetched written).length := by
    rw [hlength]
    exact Nat.le_add_right _ _
  obtain ⟨header, payload, hbuffer, hheader⟩ := EventRecord.exists_header hheader
  have hpayload : payload.length = eventRoom := by
    rw [hbuffer, List.length_append, hheader] at hlength
    exact Nat.add_left_cancel hlength
  have htaken : ∀ announced, payload.take (min announced eventRoom) = payload.take announced := by
    intro announced
    rw [← hpayload, ← List.take_eq_take_min]
  have hcut : Bytes.overlay (written.take (EventRecord.headerSize + eventRoom))
      (eventHeader ++ Bytes.zeros eventRoom) = header ++ payload := by
    rw [List.take_of_length_le h]
    exact hbuffer
  unfold eventOf
  dsimp only
  rw [hcut, hbuffer]
  match header, hheader with
  | [_, _, _, _, _, _, _, _], _ =>
    exact congrArg (EventRecord.mk _) (htaken _)

/-- A payload has the length that is announced, or fills its room. -/
theorem length_payload_fetched {written : Bytes}
    (h : written.length ≤ EventRecord.headerSize + eventRoom) :
    (EventRecord.ofBytes (fetched written)).payload.length =
      min ((fetched written).word32At 4).toNat eventRoom := by
  have hlength := length_fetched h
  have hheader : EventRecord.headerSize ≤ (fetched written).length := by
    rw [hlength]
    exact Nat.le_add_right _ _
  rw [EventRecord.ofBytes_of_length_le hheader, List.length_take, List.length_drop, hlength,
    Nat.add_sub_cancel_left, Nat.min_assoc, Nat.min_self]

end Kernel

namespace RawChannel

variable {κ : Type} [Kernel κ]

theorem fetchEvent_of_reply {k : κ} {n : Int32} {written : Bytes}
    (hreply : (Kernel.request ⟨.eventFetch, .buffer Kernel.eventHeader Kernel.eventRoom⟩ k).1 =
      ⟨.ok n, written⟩) :
    (fetchEvent k).1 = .ok (Kernel.eventOf written) := by
  unfold fetchEvent
  dsimp only
  rw [ask_reply, hreply]
  rfl

/-- **What is fetched is the record in the buffer.**  The buffer has eight bytes for the header, which
announces an invalid event of 256 bytes, and 256 bytes for the payload, which are zero, and the kernel
writes the front of it.  Whatever length is announced then, the payload comes from the buffer and has
at most 256 bytes. -/
theorem fetchEvent_eq_ofBytes {k : κ} {n : Int32} {written : Bytes}
    (hreply : (Kernel.request ⟨.eventFetch, .buffer Kernel.eventHeader Kernel.eventRoom⟩ k).1 =
      ⟨.ok n, written⟩) (hroom : written.length ≤ 264) :
    let buffer := Bytes.overlay written ([0, 0, 0, 0, 0, 1, 0, 0] ++ Bytes.zeros 256)
    let record := EventRecord.ofBytes buffer
    (fetchEvent k).1 = .ok record ∧ buffer.length = 264 ∧
      record.payload.length = min (buffer.word32At 4).toNat 256 ∧
      record.payload <+: buffer.drop 8 := by
  intro buffer record
  refine ⟨?_, Kernel.length_fetched hroom, Kernel.length_payload_fetched hroom,
    EventRecord.payload_prefix buffer⟩
  rw [fetchEvent_of_reply hreply, Kernel.eventOf_eq_ofBytes hroom]
  rfl

/-- A kernel that writes a packet's tag, a length that is far too large, and three bytes. -/
def hastyKernel : ScriptedKernel :=
  { reply := ⟨.ok 0, [2, 0, 0, 0, 0xff, 0xff, 0xff, 0xff, 0x80, 6, 0]⟩ }

/-- The payload is the whole room, with zeros behind the three bytes. -/
theorem hastyKernel_fetches :
    (Kernel.request ⟨.eventFetch, .buffer Kernel.eventHeader Kernel.eventRoom⟩ hastyKernel).1 =
        ⟨.ok 0, hastyKernel.reply.written⟩ ∧
      hastyKernel.reply.written.length ≤ 264 ∧
      (fetchEvent hastyKernel).1 =
        .ok ⟨EventRecord.controlTag, [0x80, 6, 0] ++ Bytes.zeros 253⟩ := by
  have hreply : (Kernel.request ⟨.eventFetch, .buffer Kernel.eventHeader Kernel.eventRoom⟩
      hastyKernel).1 = ⟨.ok 0, hastyKernel.reply.written⟩ := rfl
  have hroom : hastyKernel.reply.written.length ≤ 264 := by decide
  obtain ⟨hfetched, -⟩ := fetchEvent_eq_ofBytes hreply hroom
  refine ⟨hreply, hroom, hfetched.trans ?_⟩
  exact congrArg Except.ok (by decide +kernel)

end RawChannel

end UsbPeripheral
