import UsbPeripheral.Descriptor.Device
import UsbPeripheral.Kernel.RawChannel

/-! # Configurations are read back

A host reads a configuration in two steps (`Descriptor.readConfiguration?`): first the **header**, which
announces the length of the whole, then as many bytes as it announces, which the host takes apart by
the length byte of each **block**.

A host reads back header and blocks as they were put together exactly if the length of the whole fits in
the 16 bits that the header has for it (`Descriptor.readsBack_iff`).  A longer configuration announces a
length that has lost its high bits. -/

namespace UsbPeripheral

namespace Descriptor

/-! ### Blocks -/

/-- A part of a configuration. -/
inductive Block where
  | interface (number endpoints interfaceClass subclass protocol : UInt8)
  | endpoint (e : Endpoint)
  deriving DecidableEq, Repr

/-- The descriptor of a part. -/
def Block.toBytes : Block → Bytes
  | .interface number endpoints interfaceClass subclass protocol =>
    Descriptor.interface number endpoints interfaceClass subclass protocol
  | .endpoint e => e.toBytes

/-- The first byte of a block is its length. -/
def Framed (block : Bytes) : Prop := block.head?.map UInt8.toNat = some block.length

theorem framed_toBytes (b : Block) : Framed b.toBytes := by
  cases b with
  | interface => rfl
  | endpoint e => rfl

/-- The first block is taken off. -/
theorem split_append {block : Bytes} (h : Framed block) (rest : Bytes) :
    split (block ++ rest) = (split rest).map (block :: ·) := by
  cases block with
  | nil => cases h
  | cons length body =>
    have hlength : length.toNat = (length :: body).length := Option.some.inj h
    have hfits : 0 < length.toNat ∧ length.toNat ≤ (body ++ rest).length + 1 := by
      rw [hlength, List.length_cons, List.length_append]
      omega
    rw [List.cons_append, split, dif_pos hfits, hlength, ← List.cons_append,
      List.drop_left, List.take_left]

/-- Blocks that are put together are taken apart again. -/
theorem split_flatten {blocks : List Bytes} (h : ∀ b ∈ blocks, Framed b) :
    split blocks.flatten = some blocks := by
  induction blocks with
  | nil => rw [List.flatten_nil, split]
  | cons b blocks ih =>
    have hb : Framed b := h b List.mem_cons_self
    have ih := ih fun c hc => h c (List.mem_cons_of_mem b hc)
    rw [List.flatten_cons, split_append hb, ih]
    rfl

/-! ### The header -/

/-- What the header of a configuration says. -/
structure ConfigurationHeader where
  /-- Length of the whole configuration. -/
  total : Nat
  /-- Number of interfaces. -/
  interfaces : UInt8
  /-- The value that selects the configuration. -/
  value : UInt8
  selfPowered : Bool
  /-- The current in units of two milliampere. -/
  power : Nat
  deriving DecidableEq, Repr

/-- The header in nine bytes.  Bit 6 of the attributes tells whether the device has power of its own. -/
def ConfigurationHeader.ofBytes? : Bytes → Option ConfigurationHeader
  | [length, kind, t₀, t₁, interfaces, value, _, attributes, power] =>
    if length.toNat = configurationHeaderSize ∧ kind = Kind.configuration then
      some ⟨(Bytes.word16 t₀ t₁).toNat, interfaces, value, attributes.toNat.testBit 6, power.toNat⟩
    else none
  | _ => none

/-- A host reads the header, and then as many bytes as it announces. -/
def readConfiguration? (data : Bytes) : Option (ConfigurationHeader × List Bytes) := do
  let header ← ConfigurationHeader.ofBytes? (data.take configurationHeaderSize)
  let blocks ← split (data.take header.total)
  return (header, blocks)

section configuration

variable (value interfaces : UInt8) (milliamps : UInt32) (selfPowered : Bool)

/-- The body follows the header. -/
theorem header_append_body (body : Bytes) :
    (configuration value interfaces milliamps selfPowered body).take configurationHeaderSize ++ body =
      configuration value interfaces milliamps selfPowered body := rfl

theorem length_configuration (body : Bytes) :
    (configuration value interfaces milliamps selfPowered body).length =
      configurationHeaderSize + body.length := by
  rw [← header_append_body, List.length_append]
  rfl

theorem toNat_powerUnits : (powerUnits milliamps).toNat = min (milliamps.toNat / 2) 255 := by
  apply UInt8.toNat_ofNat_of_lt
  show _ < 256
  omega

/-- Bit 6 of the attributes. -/
theorem testBit_attributes :
    (if selfPowered then 0xc0 else 0x80 : UInt8).toNat.testBit 6 = selfPowered := by
  cases selfPowered <;> decide

/-- The header says what it was made of, but of the length it keeps the low 16 bits only. -/
theorem ofBytes?_configuration (body : Bytes) :
    ConfigurationHeader.ofBytes?
        ((configuration value interfaces milliamps selfPowered body).take configurationHeaderSize) =
      some ⟨(configurationHeaderSize + body.length) % UInt16.size, interfaces, value, selfPowered,
        min (milliamps.toNat / 2) 255⟩ := by
  let total := UInt16.ofNat (configurationHeaderSize + body.length)
  let attributes : UInt8 := if selfPowered then 0xc0 else 0x80
  have hframe : (9 : UInt8).toNat = configurationHeaderSize ∧
      Kind.configuration = Kind.configuration := ⟨rfl, rfl⟩
  have hread : ConfigurationHeader.ofBytes?
      ((configuration value interfaces milliamps selfPowered body).take configurationHeaderSize) =
        some ⟨(Bytes.word16 (Bytes.low total) (Bytes.high total)).toNat, interfaces, value,
          attributes.toNat.testBit 6, (powerUnits milliamps).toNat⟩ :=
    if_pos (e := none) hframe
  have htotal : total.toNat = (configurationHeaderSize + body.length) % UInt16.size :=
    UInt16.toNat_ofNat'
  rw [hread, Bytes.word16_low_high, htotal, testBit_attributes, toNat_powerUnits]

/-- The header is a block as well. -/
theorem framed_header (body : Bytes) :
    Framed ((configuration value interfaces milliamps selfPowered body).take
      configurationHeaderSize) := rfl

/-- What a host makes of a configuration of any length. -/
theorem readConfiguration?_configuration (body : Bytes) :
    let data := configuration value interfaces milliamps selfPowered body
    readConfiguration? data =
      (split (data.take (data.length % UInt16.size))).map fun parts =>
        (⟨data.length % UInt16.size, interfaces, value, selfPowered, min (milliamps.toNat / 2) 255⟩,
          parts) := by
  intro data
  have hlength : data.length = configurationHeaderSize + body.length :=
    length_configuration value interfaces milliamps selfPowered body
  unfold readConfiguration?
  rw [ofBytes?_configuration, hlength]
  exact Option.map_eq_bind.symm

/-- A host reads back a configuration: the header with all that it was made of, the length of the whole,
and the blocks in their order. -/
def ReadsBack (blocks : List Block) : Prop :=
  let data := configuration value interfaces milliamps selfPowered (blocks.flatMap Block.toBytes)
  readConfiguration? data =
    some (⟨data.length, interfaces, value, selfPowered, min (milliamps.toNat / 2) 255⟩,
      data.take configurationHeaderSize :: blocks.map Block.toBytes)

/-- Header and blocks are taken apart. -/
theorem split_configuration (blocks : List Block) :
    let data := configuration value interfaces milliamps selfPowered (blocks.flatMap Block.toBytes)
    split data = some (data.take configurationHeaderSize :: blocks.map Block.toBytes) := by
  intro data
  have hblocks : ∀ block ∈ blocks.map Block.toBytes, Framed block := by
    intro block hblock
    obtain ⟨b, -, rfl⟩ := List.mem_map.mp hblock
    exact framed_toBytes b
  have hframed : ∀ block ∈ data.take configurationHeaderSize :: blocks.map Block.toBytes,
      Framed block := List.forall_mem_cons.mpr ⟨framed_header _ _ _ _ _, hblocks⟩
  have hdata : data = (data.take configurationHeaderSize :: blocks.map Block.toBytes).flatten := by
    rw [List.flatten_cons, ← List.flatMap_def]
    exact (header_append_body _ _ _ _ _).symm
  exact (congrArg split hdata).trans (split_flatten hframed)

/-- A host reads back exactly the configurations whose length fits in 16 bits. -/
theorem readsBack_iff_length (blocks : List Block) :
    ReadsBack value interfaces milliamps selfPowered blocks ↔
      configurationHeaderSize + (blocks.flatMap Block.toBytes).length < UInt16.size := by
  have hread := readConfiguration?_configuration value interfaces milliamps selfPowered
    (blocks.flatMap Block.toBytes)
  have hsplit := split_configuration value interfaces milliamps selfPowered blocks
  have hlength := length_configuration value interfaces milliamps selfPowered
    (blocks.flatMap Block.toBytes)
  unfold ReadsBack
  dsimp only at hread hsplit ⊢
  rw [hread, hlength]
  constructor
  · intro h
    obtain ⟨parts, -, hpair⟩ := Option.map_eq_some_iff.mp h
    -- The announced length is a remainder, so it is the true one only if that is small.
    have htotal := congrArg (fun p => p.1.total) hpair
    exact Nat.mod_eq_iff_lt (by decide) |>.mp htotal
  · intro h
    rw [Nat.mod_eq_of_lt h, ← hlength, List.take_length, hsplit]
    rfl

end configuration

/-- Whatever the kernel answers, it was given the form of the endpoint. -/
theorem enable_requests (e : Endpoint) (k : ScriptedKernel) :
    (RawChannel.enable e k).2.requests =
      k.requests ++ [⟨.epEnable, .record (Kernel.endpointRecord e)⟩] := by
  obtain ⟨⟨result, written⟩, requests⟩ := k
  cases result with
  | ok n => rfl
  | error errno => rfl

/-- **A configuration is read back exactly if its length fits in 16 bits.**  To enable an endpoint, the
kernel is given its block with two zero bytes behind it. -/
theorem readsBack_iff (value interfaces : UInt8) (milliamps : UInt32) (selfPowered : Bool)
    (blocks : List Block) :
    let data := configuration value interfaces milliamps selfPowered (blocks.flatMap Block.toBytes)
    (ReadsBack value interfaces milliamps selfPowered blocks ↔ data.length < UInt16.size) ∧
      ∀ (e : Endpoint) (k : ScriptedKernel), ∃ form : Bytes,
        (RawChannel.enable e k).2.requests = k.requests ++ [⟨.epEnable, .record form⟩] ∧
          form.length = 9 ∧ form.take 7 = (Block.endpoint e).toBytes ∧ form.drop 7 = [0, 0] := by
  intro data
  refine ⟨?_, fun e k => ?_⟩
  · rw [length_configuration]
    exact readsBack_iff_length value interfaces milliamps selfPowered blocks
  · exact ⟨Kernel.endpointRecord e, enable_requests e k, rfl, rfl, rfl⟩

/-- Endpoints that are seven bytes long each and together one byte too long. -/
def crowdedBlocks : List Block := List.replicate 9361 (.endpoint (.bulk 0x81 64))

theorem length_flatMap_crowdedBlocks : (crowdedBlocks.flatMap Block.toBytes).length = 65527 := by
  rw [crowdedBlocks, List.length_flatMap, List.map_replicate, List.sum_replicate_nat]
  rfl

/-- Not every configuration is read back. -/
theorem crowdedBlocks_not_readsBack : ¬ ReadsBack 1 1 100 false crowdedBlocks := by
  rw [readsBack_iff_length, length_flatMap_crowdedBlocks]
  decide

end Descriptor

end UsbPeripheral
