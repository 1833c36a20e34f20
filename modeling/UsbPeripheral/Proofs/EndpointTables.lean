import UsbPeripheral.Proofs.Marshalling
import UsbPeripheral.Proofs.Names

/-! # Tables of endpoints are read row by row

The kernel answers a request for the table of endpoints with a number, and writes rows of 32 bytes into
memory for thirty of them, which is zero where it writes nothing.  As many rows are read as the number
says, and thirty if it is negative or larger.  Each row is read from its **own** 32 bytes
(`Kernel.rowBytes`, `RawChannel.ReadsRows`).

A row has room for 16 bytes of a name, with zeros behind them if there are fewer; a number that stands for
"any number"; and bits for the capabilities, of which those without a meaning are dropped
(`Capabilities.toBits_ofBits`).  **Endpoints that have a row are read back from it**
(`RawChannel.reads_table`). -/

namespace UsbPeripheral

/-- The bits that have no meaning are dropped, and the others are kept. -/
theorem Capabilities.toBits_ofBits (w : UInt32) : (ofBits w).toBits = w &&& 63 := by
  apply UInt32.toNat_inj.mp
  have hmask : (w &&& 63).toNat = w.toNat % 64 := by
    rw [UInt32.toNat_and]
    exact Nat.and_two_pow_sub_one_eq_mod w.toNat 6
  rw [hmask]
  simp only [toBits, ofBits, Nat.toNat_testBit, UInt32.toNat_ofNat']
  omega

/-- A buffer whose front is given. -/
theorem Bytes.fitted_append {size : Nat} {front : Bytes} (h : front.length ≤ size) (rest : Bytes) :
    fitted size (front ++ rest) = front ++ fitted (size - front.length) rest := by
  have hzeros : size - (front.length + rest.length) = size - front.length - rest.length := by omega
  simp only [fitted, List.take_append, List.take_of_length_le h, List.length_append, hzeros,
    List.append_assoc]

namespace Kernel

/-! ### Rows -/

namespace Row

/-- The words of a row stand behind its name. -/
theorem ofBytes_append {name : Bytes} (h : name.length = rowNameSize) (words : Bytes) :
    ofBytes (name ++ words) =
      ⟨name, words.word32At 0, words.word32At 4, words.word16At 8, words.word16At 10⟩ := by
  have hword : ∀ i, (name ++ words).getD (rowNameSize + i) 0 = words.getD i 0 := by
    intro i
    rw [List.getD_eq_getElem?_getD, List.getD_eq_getElem?_getD,
      List.getElem?_append_right (by omega), h, Nat.add_sub_cancel_left]
  have hname : (name ++ words).take rowNameSize = name := List.take_left' h
  unfold ofBytes
  rw [hname]
  simp only [Bytes.word32At, Bytes.word16At, ← hword]
  rfl

theorem length_toBytes (r : Row) : r.toBytes.length = rowSize := by
  have hname : (Bytes.fitted rowNameSize r.name).length = rowNameSize := Bytes.length_fitted _ _
  unfold toBytes
  simp only [List.length_append, hname]
  rfl

/-- A row is read back, with its name in a whole field. -/
theorem ofBytes_toBytes (r : Row) :
    ofBytes r.toBytes = { r with name := Bytes.fitted rowNameSize r.name } := by
  have hname : (Bytes.fitted rowNameSize r.name).length = rowNameSize := Bytes.length_fitted _ _
  unfold toBytes
  simp only [List.append_assoc]
  rw [ofBytes_append hname]
  have hnumber := Bytes.word32_octets r.number
  have hcapabilities := Bytes.word32_octets r.capabilities
  have hlimit := Bytes.word16_low_high r.maxPacketLimit
  have hstreams := Bytes.word16_low_high r.maxStreams
  exact congr (congr (congr (congrArg (mk _) hnumber) hcapabilities) hlimit) hstreams

/-- An endpoint has a row: its name fits, and its number is not the one that stands for any number. -/
structure Represents (u : UdcEndpoint) : Prop where
  name : FitsName 16 u.name
  number : u.number ≠ some 0xff

/-- An endpoint is read back from its row. -/
theorem endpoint_ofBytes_toBytes {u : UdcEndpoint} (h : Represents u) (capabilities : UInt32) :
    (ofBytes (ofEndpoint u capabilities).toBytes).endpoint =
      { u with capabilities := .ofBits capabilities } := by
  have hfield : 16 ≤ rowNameSize := Nat.le_refl 16
  have hname : Utf8.decode (nameBytes (Bytes.fitted rowNameSize (Utf8.encode u.name))) = u.name := by
    rw [h.name.nameBytes_fitted hfield, Utf8.decode_encode]
  have hnumber : (if (ofEndpoint u capabilities).number = anyNumber then none
      else some (UInt8.ofNat (ofEndpoint u capabilities).number.toNat)) = u.number := by
    unfold ofEndpoint
    cases hn : u.number with
    | none => rfl
    | some n =>
      have hother : n.toUInt32 ≠ anyNumber := by
        intro hany
        have hbyte : n = 0xff := by
          apply UInt8.toNat_inj.mp
          exact congrArg UInt32.toNat hany
        exact h.number (hn.trans (congrArg some hbyte))
      simp only [hother, if_false]
      simp
  rw [ofBytes_toBytes]
  unfold endpoint
  simp only [hnumber]
  unfold ofEndpoint
  simp only [hname]

end Row

/-! ### Tables -/

theorem length_rowsOf (count : Nat) (data : Bytes) : (rowsOf count data).length = count := by
  induction count generalizing data with
  | zero => rfl
  | succ count ih => rw [rowsOf, List.length_cons, ih]

/-- Each row is read from its own bytes. -/
theorem getElem?_rowsOf {count i : Nat} (h : i < count) (data : Bytes) :
    (rowsOf count data)[i]? = some (Row.ofBytes ((data.drop (rowSize * i)).take rowSize)) := by
  induction count generalizing data i with
  | zero => exact absurd h (Nat.not_lt_zero i)
  | succ count ih =>
    cases i with
    | zero => rfl
    | succ i =>
      rw [rowsOf, List.getElem?_cons_succ, ih (Nat.lt_of_succ_lt_succ h), List.drop_drop,
        Nat.mul_succ, Nat.add_comm]

/-- Rows that are laid out one after the other are read one after the other. -/
theorem rowsOf_flatMap_append (rows : List Row) (rest : Bytes) :
    rowsOf rows.length (rows.flatMap Row.toBytes ++ rest) =
      rows.map fun r => Row.ofBytes r.toBytes := by
  induction rows with
  | nil => rfl
  | cons r rows ih =>
    have hsize := r.length_toBytes
    rw [List.flatMap_cons, List.length_cons, rowsOf, List.append_assoc, List.take_left' hsize,
      List.drop_left' hsize, ih, List.map_cons]

theorem length_flatMap_toBytes (rows : List Row) :
    (rows.flatMap Row.toBytes).length = rowSize * rows.length := by
  induction rows with
  | nil => rfl
  | cons r rows ih =>
    rw [List.flatMap_cons, List.length_append, ih, Row.length_toBytes, List.length_cons,
      Nat.mul_succ, Nat.add_comm]

/-- The bytes of a row in a table of which the kernel wrote the front. -/
def rowBytes (written : Bytes) (i : Nat) : Bytes :=
  ((Bytes.fitted 960 written).drop (32 * i)).take 32

theorem getElem?_endpointsOf {count i : Nat} {written : Bytes}
    (h : i < (endpointsOf count written).length) :
    (endpointsOf count written)[i]? = some (Row.ofBytes (rowBytes written i)).endpoint := by
  unfold endpointsOf at h ⊢
  rw [List.length_map, length_rowsOf] at h
  rw [List.getElem?_map, getElem?_rowsOf h]
  rfl

theorem length_endpointsOf (n : Int32) (written : Bytes) :
    (endpointsOf (sizeOfReturn n) written).length =
      if 0 ≤ n.toInt ∧ n.toInt ≤ 30 then n.toInt.toNat else 30 := by
  have hroom : maxRows ≤ Worker.maxBufferSize := by decide
  unfold endpointsOf
  rw [List.length_map, length_rowsOf]
  exact min_sizeOfReturn n hroom

/-- A table that is laid out in full is read in full. -/
theorem endpointsOf_flatMap_append {rows : List Row} (h : rows.length ≤ maxRows) (rest : Bytes) :
    endpointsOf rows.length (rows.flatMap Row.toBytes ++ rest) =
      rows.map fun r => (Row.ofBytes r.toBytes).endpoint := by
  have hroom : (rows.flatMap Row.toBytes).length ≤ maxRows * rowSize := by
    rw [length_flatMap_toBytes, Nat.mul_comm]
    exact Nat.mul_le_mul_right rowSize h
  unfold endpointsOf
  dsimp only
  rw [Bytes.fitted_append hroom, Nat.min_eq_left h, rowsOf_flatMap_append, List.map_map]
  rfl

end Kernel

namespace RawChannel

open Kernel (Row rowBytes endpointsOf)

variable {κ : Type} [Kernel κ]

/-- The kernel answers a request for the table with a number, and has written some bytes. -/
def AnswersTable (k : κ) (n : Int32) (written : Bytes) : Prop :=
  (Kernel.request ⟨.epsInfo, .table⟩ k).1 = ⟨.ok n, written⟩

theorem AnswersTable.endpoints {k : κ} {n : Int32} {written : Bytes} (h : AnswersTable k n written) :
    (endpoints k).1 = .ok (endpointsOf (sizeOfReturn n) written) := by
  unfold RawChannel.endpoints
  dsimp only
  rw [ask_reply, show (Kernel.request ⟨.epsInfo, .table⟩ k).1 = _ from h]
  rfl

/-- How the rows of a table are read when the kernel has returned a number. -/
structure ReadsRows (n : Int32) (written : Bytes) (table : List UdcEndpoint) : Prop where
  /-- There are as many as the number says, and no more than there is room for. -/
  count : table.length = if 0 ≤ n.toInt ∧ n.toInt ≤ 30 then n.toInt.toNat else 30
  /-- Each of them is read from its own bytes. -/
  row : ∀ i, i < table.length → table[i]? = some (Row.ofBytes (rowBytes written i)).endpoint

theorem readsRows (n : Int32) (written : Bytes) :
    ReadsRows n written (endpointsOf (sizeOfReturn n) written) where
  count := Kernel.length_endpointsOf n written
  row _ h := Kernel.getElem?_endpointsOf h

/-- Two tables have the same row where they have the same bytes. -/
theorem ReadsRows.agree {n n' : Int32} {written written' : Bytes} {table table' : List UdcEndpoint}
    (h : ReadsRows n written table) (h' : ReadsRows n' written' table') {i : Nat}
    (hi : i < table.length) (hi' : i < table'.length)
    (hbytes : rowBytes written i = rowBytes written' i) : table[i]? = table'[i]? := by
  rw [h.row i hi, h'.row i hi', hbytes]

/-- The rows of endpoints, each with the bits of its capabilities. -/
def layOut (rows : List (UdcEndpoint × UInt32)) : Bytes :=
  rows.flatMap fun row => (Row.ofEndpoint row.1 row.2).toBytes

theorem endpointsOf_layOut {rows : List (UdcEndpoint × UInt32)} (hcount : rows.length ≤ 30)
    (hrows : ∀ row ∈ rows, Row.Represents row.1) (rest : Bytes) :
    endpointsOf rows.length (layOut rows ++ rest) =
      rows.map fun row => { row.1 with capabilities := .ofBits row.2 } := by
  have hlaid : layOut rows =
      (rows.map fun row => Row.ofEndpoint row.1 row.2).flatMap Row.toBytes := by
    rw [layOut, List.flatMap_map]
  have hlength : (rows.map fun row => Row.ofEndpoint row.1 row.2).length = rows.length :=
    List.length_map _
  have hread := Kernel.endpointsOf_flatMap_append (Nat.le_trans (Nat.le_of_eq hlength) hcount) rest
  rw [hlength, ← hlaid, List.map_map] at hread
  rw [hread]
  apply List.map_congr_left
  intro row hrow
  exact Row.endpoint_ofBytes_toBytes (hrows row hrow) row.2

/-- What is read when the kernel has answered a request for the table. -/
structure ReadsTable (k : κ) (n : Int32) (written : Bytes) : Prop where
  /-- Endpoints that have a row are read from their rows, whatever stands behind these. -/
  back : ∀ (rows : List (UdcEndpoint × UInt32)) (rest : Bytes), rows.length ≤ 30 →
    (∀ row ∈ rows, Row.Represents row.1) → n.toInt = rows.length → written = layOut rows ++ rest →
      (endpoints k).1 = .ok (rows.map fun row => { row.1 with capabilities := .ofBits row.2 })
  /-- Of any table as many rows are read as the number says and there is room for. -/
  rows : ∃ table, (endpoints k).1 = .ok table ∧ ReadsRows n written table
  /-- A row is the same in another table that has the same bytes there. -/
  alone : ∀ (k' : κ) (n' : Int32) (written' : Bytes), AnswersTable k' n' written' →
    ∀ table table', (endpoints k).1 = .ok table → (endpoints k').1 = .ok table' →
      ∀ i, i < table.length → i < table'.length → rowBytes written i = rowBytes written' i →
        table[i]? = table'[i]?

/-- **Tables of endpoints are read back.**  Of the capabilities of an endpoint the bits with a meaning are
kept. -/
theorem reads_table {k : κ} {n : Int32} {written : Bytes} (h : AnswersTable k n written) :
    ReadsTable k n written ∧ ∀ bits, (Capabilities.ofBits bits).toBits = bits &&& 63 := by
  refine ⟨⟨?_, ⟨_, h.endpoints, readsRows n written⟩, ?_⟩, Capabilities.toBits_ofBits⟩
  · rintro rows rest hcount hrows hn rfl
    have hsize : sizeOfReturn n = rows.length := by
      unfold sizeOfReturn
      rw [hn]
      show ((rows.length : Int) % 18446744073709551616).toNat = _
      omega
    rw [h.endpoints, hsize, endpointsOf_layOut hcount hrows]
  · intro k' n' written' h' table table' htable htable' i hi hi' hbytes
    cases h.endpoints.symm.trans htable
    cases h'.endpoints.symm.trans htable'
    exact (readsRows n written).agree (readsRows n' written') hi hi' hbytes

/-- Two endpoints: one with a number and bits without a meaning, and one whose name fills its field. -/
def listing : List (UdcEndpoint × UInt32) :=
  [(⟨"ep1in", some 1, {}, 512, 0⟩, 0xffffffd4), (⟨"ep-abcdefghijklm", none, {}, 64, 16⟩, 0x2f)]

/-- A kernel that has written the rows of both. -/
def listingKernel : ScriptedKernel := { reply := ⟨.ok 2, layOut listing ++ [0xaa]⟩ }

theorem listingKernel_reads :
    AnswersTable listingKernel 2 (layOut listing ++ [0xaa]) ∧
      listing.length ≤ 30 ∧ (∀ row ∈ listing, Row.Represents row.1) ∧
      (endpoints listingKernel).1 = .ok
        [⟨"ep1in", some 1, { bulk := true, toHost := true }, 512, 0⟩,
          ⟨"ep-abcdefghijklm", none,
            { control := true, isochronous := true, bulk := true, interrupt := true, toDevice := true },
            64, 16⟩] := by
  have hcount : listing.length ≤ 30 := by decide
  have hrows : ∀ row ∈ listing, Row.Represents row.1 := by
    have hall : ∀ row ∈ listing, Kernel.FitsName 16 row.1.name ∧ row.1.number ≠ some 0xff := by
      decide +kernel
    intro row hrow
    exact ⟨(hall row hrow).1, (hall row hrow).2⟩
  have hanswer : AnswersTable listingKernel 2 (layOut listing ++ [0xaa]) := rfl
  obtain ⟨hreads, -⟩ := reads_table hanswer
  exact ⟨hanswer, hcount, hrows, hreads.back listing [0xaa] hcount hrows rfl rfl⟩

end RawChannel

end UsbPeripheral
