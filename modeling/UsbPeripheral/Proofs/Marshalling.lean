import UsbPeripheral.Proofs.Records
import UsbPeripheral.Worker.Basic

/-! # Transfers carry the caller's bytes

The argument of a transfer is put together in words of memory.  What the kernel is given of it is the
header and then the caller's bytes, whatever their number (`TransferBuffer.record_holding`).

A kernel that has read answers with a number, which may be negative or larger than the buffer, and may
have written any bytes.  The count that the caller gets is that number if the buffer has so many bytes,
and the size of the buffer otherwise.  So many bytes of the buffer are the kernel's, those that it did not
write being zero, and all others are the caller's (`RawChannel.Fills`).

**Reads and writes carry exactly the caller's bytes**, on endpoint 0 and on all others
(`RawChannel.carries_own_bytes`). -/

namespace UsbPeripheral

/-! ### Headers -/

/-- The 16-bit word at a place in a buffer. -/
def Bytes.word16At (data : Bytes) (place : Nat) : UInt16 :=
  word16 (data.getD place 0) (data.getD (place + 1) 0)

/-- Eight bytes are the header of a transfer: the handle, no flags and the length, as little-endian words
that leave out what they have no room for. -/
structure IsTransferHeader (header : Bytes) (handle length : Nat) : Prop where
  size : header.length = 8
  handle : (header.word16At 0).toNat = handle % 65536
  flags : header.word16At 2 = 0
  length : (header.word32At 4).toNat = length % 4294967296

theorem isTransferHeader_transferHeader (handle : UInt32) (length : Nat) :
    IsTransferHeader (Kernel.transferHeader handle length) handle.toNat length where
  size := rfl
  handle := by
    show (Bytes.word16 (Bytes.low handle.toUInt16) (Bytes.high handle.toUInt16)).toNat = _
    rw [Bytes.word16_low_high]
    exact UInt32.toNat_toUInt16 handle
  flags := rfl
  length := by
    have hword : (Kernel.transferHeader handle length).word32At 4 = UInt32.ofNat length :=
      Bytes.word32_octets _
    rw [hword]
    exact UInt32.toNat_ofNat'

/-! ### Memory -/

namespace TransferBuffer

theorem memory_put (b : TransferBuffer) {place : Nat} {data : Bytes}
    (inside : place + data.length ≤ Kernel.wordSize * b.words) :
    (b.put place data inside).memory =
      b.memory.take place ++ data ++ b.memory.drop (place + data.length) := by
  simp only [put, Bytes.overlay, List.drop_drop, List.append_assoc]

/-- The words of a transfer hold its header, and room behind it. -/
theorem memory_blank (handle : UInt16) (length : Nat) :
    ∃ room, (blank handle length).memory =
      Bytes.ofWord16 handle ++ [0, 0] ++ Bytes.ofWord32 (UInt32.ofNat length) ++ Bytes.zeros room ∧
        length ≤ room := by
  have hwords := le_wordsFor length
  obtain ⟨room, hroom⟩ := Nat.exists_eq_add_of_le hwords
  refine ⟨length + room, ?_, Nat.le_add_right _ _⟩
  have hsize : Kernel.wordSize * wordsFor length = 8 + (length + room) := by
    rw [hroom, Kernel.transferHeaderSize]
    omega
  have hfresh : (fresh length).memory =
      [0, 0, 0, 0, 0, 0, 0, 0] ++ Bytes.zeros (length + room) := by
    show Bytes.zeros _ = _
    rw [hsize, Bytes.zeros, ← List.replicate_append_replicate]
    rfl
  simp only [blank, memory_put, hfresh]
  rfl

theorem length_blank (handle : UInt16) (length : Nat) : (blank handle length).length = length := rfl

theorem header_blank (handle : UInt32) (length : Nat) :
    (blank handle.toUInt16 length).header = Kernel.transferHeader handle length := by
  obtain ⟨room, hmemory, -⟩ := memory_blank handle.toUInt16 length
  rw [header, hmemory]
  rfl

theorem memory_fill (b : TransferBuffer) (payload : Bytes) :
    (b.fill payload).memory =
      b.header ++ payload.take b.length ++
        b.memory.drop (Kernel.transferHeaderSize + (payload.take b.length).length) :=
  memory_put b _

theorem length_header (b : TransferBuffer) : b.header.length = Kernel.transferHeaderSize := by
  have hfits := b.fits
  have hmemory := b.memory_length
  rw [header, List.length_take]
  omega

/-- The payload of a new buffer is what it was filled with, cut to the room or followed by zeros. -/
theorem payload_fill (handle : UInt16) (length : Nat) (payload : Bytes) :
    ((blank handle length).fill payload).payload = Bytes.fitted length payload := by
  obtain ⟨room, hmemory, hroom⟩ := memory_blank handle length
  have htaken : (payload.take length).length = min length payload.length := List.length_take
  have hrest : (blank handle length).memory.drop
      (Kernel.transferHeaderSize + (payload.take length).length) =
        Bytes.zeros (room - (payload.take length).length) := by
    rw [hmemory, ← List.drop_drop]
    show (Bytes.zeros room).drop _ = _
    rw [Bytes.zeros, List.drop_replicate, Bytes.zeros]
  have hpayload : ((blank handle length).fill payload).payload =
      (payload.take length ++ Bytes.zeros (room - (payload.take length).length)).take length := by
    show (((blank handle length).fill payload).memory.drop _).take length = _
    rw [memory_fill, length_blank, hrest, List.append_assoc, List.drop_left' (length_header _)]
  rw [hpayload, Bytes.fitted, List.take_append, List.take_take, Nat.min_self, Bytes.zeros,
    List.take_replicate, Bytes.zeros, htaken]
  congr 2
  omega

/-- The kernel is given the header and the payload. -/
theorem record_holding (handle : UInt32) (data : Bytes) :
    (holding handle.toUInt16 data).record = Kernel.transferRecord handle data := by
  have hwhole : data.take (blank handle.toUInt16 data.length).length = data := by
    rw [length_blank, List.take_length]
  have hsize : (Kernel.transferHeader handle data.length ++ data).length =
      Kernel.transferHeaderSize + data.length := by
    rw [List.length_append, ← header_blank, length_header]
  show ((blank handle.toUInt16 data.length).fill data).memory.take
    (Kernel.transferHeaderSize + data.length) = _
  rw [memory_fill, hwhole, header_blank, List.take_left' hsize, Kernel.transferRecord]

/-- There are the fewest words that a header and a payload lie inside. -/
structure Allocated (b : TransferBuffer) (length : Nat) : Prop where
  words : b.words = (8 + length + 3) / 4
  memory : b.memory.length = 4 * b.words
  inside : 8 + length ≤ b.memory.length

theorem allocated_of_words {b : TransferBuffer} (h : b.words = wordsFor b.length) :
    b.Allocated b.length where
  words := h
  memory := b.memory_length
  inside := Nat.le_trans b.fits (Nat.le_of_eq b.memory_length.symm)

end TransferBuffer

/-! ### What the kernel is given -/

/-- A returned number, cut to the room of a buffer.  A negative number is a size that no buffer has. -/
theorem min_sizeOfReturn (n : Int32) {room : Nat} (h : room ≤ Worker.maxBufferSize) :
    min (sizeOfReturn n) room =
      if 0 ≤ n.toInt ∧ n.toInt ≤ room then n.toInt.toNat else room := by
  have hlow := n.le_toInt
  have hhigh := n.toInt_lt
  have hsize : (UInt64.size : Int) = 18446744073709551616 := rfl
  simp only [Worker.maxBufferSize] at h
  unfold sizeOfReturn
  rw [hsize]
  split <;> omega

namespace RawChannel

variable {κ : Type} [Kernel κ]

section requests

variable (operation : Operation) (handle : UInt32) (k : LoggedKernel κ)

theorem requests_send (data : Bytes) :
    (send operation handle.toUInt16 data k).2.requests =
      k.requests ++ [⟨operation, .record (Kernel.transferHeader handle data.length ++ data)⟩] := by
  show k.requests ++ [⟨operation, .record (TransferBuffer.holding handle.toUInt16 data).record⟩] = _
  rw [TransferBuffer.record_holding, Kernel.transferRecord]

theorem requests_receive (buffer : Bytes) :
    (receive operation handle.toUInt16 buffer k).2.requests =
      k.requests ++
        [⟨operation, .buffer (Kernel.transferHeader handle buffer.length) buffer.length⟩] := by
  rw [← TransferBuffer.header_blank]
  unfold receive
  dsimp only
  split <;> rfl

end requests

/-! ### What a read leaves -/

/-- What a read makes of a buffer when the kernel has answered; `fail` says how a refusal is told. -/
structure Fills {ε : Type} (fail : Errno → ε) (buffer : Bytes) (reply : KernelReply)
    (outcome : Except ε Nat × Bytes) : Prop where
  /-- The number that the kernel returns is the count if the buffer has so many bytes, and the size of
  the buffer is the count otherwise. -/
  count : ∀ n, reply.result = .ok n → outcome.1 =
    .ok (if 0 ≤ n.toInt ∧ n.toInt ≤ buffer.length then n.toInt.toNat else buffer.length)
  /-- So many bytes are what the kernel wrote, followed by zeros. -/
  front : ∀ count, outcome.1 = .ok count →
    outcome.2.take count = (Bytes.fitted buffer.length reply.written).take count
  /-- The others are as they were. -/
  rest : ∀ count, outcome.1 = .ok count → outcome.2.drop count = buffer.drop count
  /-- The buffer has its size. -/
  size : outcome.2.length = buffer.length
  /-- A refusal leaves the buffer as it was. -/
  refused : ∀ errno, reply.result = .error errno → outcome = (.error (fail errno), buffer)

/-- It does not matter how a refusal is told. -/
theorem Fills.mapError {ε : Type} {buffer : Bytes} {reply : KernelReply}
    {outcome : Except Errno Nat × Bytes} (h : Fills id buffer reply outcome) (fail : Errno → ε) :
    Fills fail buffer reply (outcome.1.mapError fail, outcome.2) := by
  obtain ⟨result, after⟩ := outcome
  cases result with
  | error errno =>
    refine ⟨fun n hn => (nomatch h.count n hn), nofun, nofun, h.size, fun e he => ?_⟩
    obtain ⟨herror, hafter⟩ := Prod.mk.inj (h.refused e he)
    cases herror
    exact Prod.ext rfl hafter
  | ok count =>
    refine ⟨fun n hn => ?_, ?_, ?_, h.size, fun e he => (nomatch h.refused e he)⟩
    · exact congrArg (Except.mapError fail) (h.count n hn)
    · rintro m ⟨⟩
      exact h.front _ rfl
    · rintro m ⟨⟩
      exact h.rest _ rfl

section received

variable {operation : Operation} {handle : UInt32} {buffer : Bytes} {k : κ} {written : Bytes}

theorem receive_refused {errno : Errno}
    (h : (Kernel.request
      ⟨operation, .buffer (Kernel.transferHeader handle buffer.length) buffer.length⟩ k).1 =
        ⟨.error errno, written⟩) :
    (receive operation handle.toUInt16 buffer k).1 = (.error errno, buffer) := by
  rw [← TransferBuffer.header_blank] at h
  unfold receive
  dsimp only
  rw [TransferBuffer.length_blank, h]

theorem receive_answered {n : Int32}
    (h : (Kernel.request
      ⟨operation, .buffer (Kernel.transferHeader handle buffer.length) buffer.length⟩ k).1 =
        ⟨.ok n, written⟩) :
    (receive operation handle.toUInt16 buffer k).1 =
      (.ok (min (sizeOfReturn n) buffer.length),
        Kernel.received (min (sizeOfReturn n) buffer.length)
          (Bytes.fitted buffer.length written) buffer) := by
  rw [← TransferBuffer.header_blank] at h
  unfold receive
  dsimp only
  rw [TransferBuffer.length_blank, h]
  dsimp only
  rw [TransferBuffer.payload_fill]

end received

theorem fills_receive (operation : Operation) (handle : UInt32) {buffer : Bytes} (k : κ)
    (h : buffer.length ≤ Worker.maxBufferSize) :
    Fills id buffer
      (Kernel.request ⟨operation, .buffer (Kernel.transferHeader handle buffer.length) buffer.length⟩
        k).1
      (receive operation handle.toUInt16 buffer k).1 := by
  generalize hreply : (Kernel.request
    ⟨operation, .buffer (Kernel.transferHeader handle buffer.length) buffer.length⟩ k).1 = reply
  obtain ⟨result, written⟩ := reply
  cases result with
  | error errno =>
    rw [receive_refused hreply]
    refine ⟨nofun, nofun, nofun, rfl, ?_⟩
    rintro e ⟨⟩
    rfl
  | ok n =>
    have hcount : min (sizeOfReturn n) buffer.length ≤ buffer.length := Nat.min_le_right _ _
    have hcounted := min_sizeOfReturn n h
    rw [receive_answered hreply]
    generalize min (sizeOfReturn n) buffer.length = count at hcount hcounted
    have htaken : ((Bytes.fitted buffer.length written).take count).length = count := by
      rw [List.length_take, Bytes.length_fitted, Nat.min_eq_left hcount]
    refine ⟨?_, ?_, ?_, ?_, nofun⟩
    · rintro m ⟨⟩
      exact congrArg Except.ok hcounted
    · rintro m ⟨⟩
      exact List.take_left' htaken
    · rintro m ⟨⟩
      show (_ ++ buffer.drop _).drop count = _
      rw [List.drop_left' htaken, htaken]
    · apply Bytes.length_overlay
      rw [htaken]
      exact hcount

/-! ### The law of transfers -/

section law

variable (handle : Handle) (data buffer : Bytes) (k : LoggedKernel κ)

/-- What the kernel is given to write. -/
structure Writes : Prop where
  /-- On an endpoint. -/
  endpoint : ∃ header, IsTransferHeader header handle.toNat data.length ∧
    (write handle data k).2.requests = k.requests ++ [⟨.epWrite, .record (header ++ data)⟩]
  /-- On endpoint 0. -/
  control : ∃ header, IsTransferHeader header 0 data.length ∧
    (ep0Write data k).2.requests = k.requests ++ [⟨.ep0Write, .record (header ++ data)⟩]
  /-- All of it lies inside the words that are put together. -/
  allocated : ∀ number, (TransferBuffer.holding number data).Allocated data.length

/-- What comes of letting the kernel read. -/
structure Reads : Prop where
  /-- From an endpoint. -/
  endpoint : ∃ header, IsTransferHeader header handle.toNat buffer.length ∧
    let request := ⟨.epRead, .buffer header buffer.length⟩
    (read handle buffer k).2.requests = k.requests ++ [request] ∧
      Fills .ofErrno buffer (Kernel.request request k).1 (read handle buffer k).1
  /-- From endpoint 0. -/
  control : ∃ header, IsTransferHeader header 0 buffer.length ∧
    let request := ⟨.ep0Read, .buffer header buffer.length⟩
    (ep0ReadInto buffer k).2.requests = k.requests ++ [request] ∧
      Fills (.channel .ep0Read) buffer (Kernel.request request k).1 (ep0ReadInto buffer k).1
  /-- The kernel has room for the payload inside the words that it is given. -/
  allocated : ∀ number, (TransferBuffer.blank number buffer.length).Allocated buffer.length

theorem writes : Writes handle data k where
  endpoint := ⟨Kernel.transferHeader handle data.length, isTransferHeader_transferHeader _ _,
    requests_send .epWrite handle k data⟩
  control := ⟨Kernel.transferHeader 0 data.length, isTransferHeader_transferHeader _ _,
    requests_send .ep0Write 0 k data⟩
  allocated number := TransferBuffer.allocated_of_words (b := .holding number data) rfl

variable {buffer}

theorem reads (h : buffer.length ≤ Worker.maxBufferSize) : Reads handle buffer k where
  endpoint := by
    refine ⟨Kernel.transferHeader handle buffer.length, isTransferHeader_transferHeader _ _, ?_⟩
    have hfills := fills_receive .epRead handle k h
    exact ⟨requests_receive .epRead handle k buffer, hfills.mapError TransferError.ofErrno⟩
  control := by
    refine ⟨Kernel.transferHeader 0 buffer.length, isTransferHeader_transferHeader _ _, ?_⟩
    have hfills := fills_receive .ep0Read 0 k h
    exact ⟨requests_receive .ep0Read 0 k buffer, hfills.mapError (DeviceError.channel .ep0Read)⟩
  allocated number := TransferBuffer.allocated_of_words (b := .blank number buffer.length) rfl

/-- **Reads and writes carry exactly the caller's bytes.**  The kernel is given a header and the caller's
bytes; and of a buffer, which has no more bytes than memory can hold, it changes as many as the count
that the caller gets. -/
theorem carries_own_bytes (h : buffer.length ≤ Worker.maxBufferSize) :
    Writes handle data k ∧ Reads handle buffer k :=
  ⟨writes handle data k, reads handle k h⟩

end law

/-- A kernel that has written two bytes and answers with a negative number. -/
def oddKernel : LoggedKernel ScriptedKernel := { inner := { reply := ⟨.ok (-7), [1, 2]⟩ } }

/-- The whole buffer counts as read, with a zero behind the two bytes. -/
theorem oddKernel_carries :
    ([0xee, 0xee, 0xee] : Bytes).length ≤ Worker.maxBufferSize ∧
      (read 0x10002 [0xee, 0xee, 0xee] oddKernel).1 = (.ok 3, [1, 2, 0]) ∧
      ∃ header, IsTransferHeader header 0x10002 1 ∧
        (write 0x10002 [5] oddKernel).2.requests = [⟨.epWrite, .record (header ++ [5])⟩] := by
  have hsize : ([0xee, 0xee, 0xee] : Bytes).length ≤ Worker.maxBufferSize := by decide
  obtain ⟨hwrites, hreads⟩ := carries_own_bytes 0x10002 [5] oddKernel hsize
  refine ⟨hsize, ?_, hwrites.endpoint⟩
  obtain ⟨header, -, -, hfills⟩ := hreads.endpoint
  have hcount : (read 0x10002 [0xee, 0xee, 0xee] oddKernel).1.1 = .ok 3 := hfills.count (-7) rfl
  have hfront := hfills.front 3 hcount
  have hrest := hfills.rest 3 hcount
  refine Prod.ext hcount ?_
  rw [← List.take_append_drop 3 (read 0x10002 [0xee, 0xee, 0xee] oddKernel).1.2, hfront, hrest]
  rfl

end RawChannel

end UsbPeripheral
