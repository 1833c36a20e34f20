/-!
# Byte maps: finite maps keyed by a byte

Endpoint addresses, interface numbers and request codes are bytes.  A `ByteMap` holds one value per
key, and its entries stand in increasing key order, which is the order in which they are shown and
in which endpoints are torn down.  The order is part of the type, so two maps with the same
look-ups have the same entries.
-/

namespace UsbPeripheral

/-- The entries with `key` set to `value`. -/
def insertEntry {ν : Type} (key : UInt8) (value : ν) : List (UInt8 × ν) → List (UInt8 × ν)
  | [] => [(key, value)]
  | (k, v) :: rest =>
    if key < k then (key, value) :: (k, v) :: rest
    else if key = k then (key, value) :: rest
    else (k, v) :: insertEntry key value rest

theorem mem_insertEntry {ν : Type} {key : UInt8} {value : ν} {entries : List (UInt8 × ν)}
    {e : UInt8 × ν} (h : e ∈ insertEntry key value entries) :
    e = (key, value) ∨ e ∈ entries := by
  induction entries with
  | nil => simpa [insertEntry] using h
  | cons head rest ih =>
    obtain ⟨k, v⟩ := head
    simp only [insertEntry] at h
    split at h
    · simpa using h
    · split at h
      · simp only [List.mem_cons] at h ⊢
        rcases h with h | h
        · exact .inl h
        · exact .inr (.inr h)
      · simp only [List.mem_cons] at h ⊢
        rcases h with h | h
        · exact .inr (.inl h)
        · rcases ih h with h | h
          · exact .inl h
          · exact .inr (.inr h)

theorem pairwise_insertEntry {ν : Type} (key : UInt8) (value : ν) {entries : List (UInt8 × ν)}
    (h : entries.Pairwise (·.1 < ·.1)) : (insertEntry key value entries).Pairwise (·.1 < ·.1) := by
  induction entries with
  | nil => simp [insertEntry]
  | cons head rest ih =>
    obtain ⟨k, v⟩ := head
    have hrest := (List.pairwise_cons.mp h).2
    have hhead := (List.pairwise_cons.mp h).1
    simp only [insertEntry]
    split
    · rename_i hlt
      refine List.pairwise_cons.mpr ⟨?_, h⟩
      intro e he
      simp only [List.mem_cons] at he
      rcases he with rfl | he
      · exact hlt
      · exact UInt8.lt_trans hlt (hhead e he)
    · split
      · rename_i heq
        refine List.pairwise_cons.mpr ⟨?_, hrest⟩
        intro e he
        exact heq ▸ hhead e he
      · rename_i hnlt hne
        refine List.pairwise_cons.mpr ⟨?_, ih hrest⟩
        intro e he
        rcases mem_insertEntry he with rfl | he
        · exact UInt8.lt_of_le_of_ne (UInt8.not_lt.mp hnlt) (fun heq => hne heq.symm)
        · exact hhead e he

/-- A finite map with bytes as keys. -/
structure ByteMap (ν : Type) where
  /-- Keys with their values. -/
  entries : List (UInt8 × ν)
  /-- Every key stands before the greater ones, and stands once. -/
  sorted : entries.Pairwise (·.1 < ·.1)
  deriving DecidableEq

namespace ByteMap

variable {ν μ : Type}

/-- The map without entries. -/
def empty : ByteMap ν := ⟨[], .nil⟩

instance : Inhabited (ByteMap ν) := ⟨empty⟩

/-- The value of a key. -/
def get? (m : ByteMap ν) (key : UInt8) : Option ν := m.entries.lookup key

/-- Whether a key has a value. -/
def contains (m : ByteMap ν) (key : UInt8) : Bool := (m.get? key).isSome

/-- The keys in increasing order. -/
def keys (m : ByteMap ν) : List UInt8 := m.entries.map (·.1)

/-- Number of keys. -/
def size (m : ByteMap ν) : Nat := m.entries.length

/-- The map with `key` set to `value`. -/
def insert (m : ByteMap ν) (key : UInt8) (value : ν) : ByteMap ν :=
  ⟨insertEntry key value m.entries, pairwise_insertEntry key value m.sorted⟩

/-- The map without `key`. -/
def erase (m : ByteMap ν) (key : UInt8) : ByteMap ν :=
  ⟨m.entries.filter (·.1 != key), m.sorted.filter _⟩

/-- The map with every value changed. -/
def mapValues (m : ByteMap ν) (f : UInt8 → ν → μ) : ByteMap μ :=
  ⟨m.entries.map fun e => (e.1, f e.1 e.2), by
    rw [List.pairwise_map]
    exact m.sorted⟩

/-- The map with the value of `key` changed, if it has one. -/
def modify (m : ByteMap ν) (key : UInt8) (f : ν → ν) : ByteMap ν :=
  m.mapValues fun k v => if k = key then f v else v

/-- The map of a list of entries, in which a later entry wins. -/
def ofList (entries : List (UInt8 × ν)) : ByteMap ν :=
  entries.foldl (fun m e => m.insert e.1 e.2) empty

theorem lookup_insertEntry_self (key : UInt8) (value : ν) (entries : List (UInt8 × ν)) :
    (insertEntry key value entries).lookup key = some value := by
  induction entries with
  | nil => simp [insertEntry]
  | cons head rest ih =>
    obtain ⟨k, v⟩ := head
    simp only [insertEntry]
    split
    · simp
    · split
      · simp
      · rename_i hne
        rw [List.lookup_cons, beq_false_of_ne hne]
        exact ih

theorem lookup_insertEntry_of_ne {key other : UInt8} (h : other ≠ key) (value : ν)
    (entries : List (UInt8 × ν)) :
    (insertEntry key value entries).lookup other = entries.lookup other := by
  induction entries with
  | nil => simp [insertEntry, List.lookup_cons, beq_false_of_ne h]
  | cons head rest ih =>
    obtain ⟨k, v⟩ := head
    simp only [insertEntry]
    split
    · simp [List.lookup_cons, beq_false_of_ne h]
    · split
      · rename_i heq
        subst heq
        simp [List.lookup_cons, beq_false_of_ne h]
      · simp only [List.lookup_cons, ih]

@[simp] theorem get?_empty (key : UInt8) : (empty : ByteMap ν).get? key = none := rfl

@[simp] theorem get?_insert_self (m : ByteMap ν) (key : UInt8) (value : ν) :
    (m.insert key value).get? key = some value := lookup_insertEntry_self key value m.entries

theorem get?_insert_of_ne (m : ByteMap ν) {key other : UInt8} (h : other ≠ key) (value : ν) :
    (m.insert key value).get? other = m.get? other := lookup_insertEntry_of_ne h value m.entries

theorem get?_insert (m : ByteMap ν) (key other : UInt8) (value : ν) :
    (m.insert key value).get? other = if other = key then some value else m.get? other := by
  split
  · rename_i h
    subst h
    simp
  · rename_i h
    exact get?_insert_of_ne m h value

theorem contains_insert (m : ByteMap ν) (key other : UInt8) (value : ν) :
    (m.insert key value).contains other = (decide (other = key) || m.contains other) := by
  unfold contains
  rw [get?_insert]
  by_cases h : other = key
  · rw [if_pos h, decide_eq_true h]
    rfl
  · rw [if_neg h, decide_eq_false h]
    rfl

theorem get?_erase (m : ByteMap ν) (key other : UInt8) :
    (m.erase key).get? other = if other = key then none else m.get? other := by
  simp only [get?, erase]
  induction m.entries with
  | nil => simp
  | cons head rest ih =>
    obtain ⟨k, v⟩ := head
    by_cases hk : k = key
    · subst hk
      simp only [List.filter_cons, bne_self_eq_false, Bool.false_eq_true, if_false, ih,
        List.lookup_cons]
      split
      · rfl
      · rename_i h
        simp [beq_false_of_ne h]
    · simp only [List.filter_cons, bne_iff_ne, ne_eq, hk, not_false_eq_true, if_true,
        List.lookup_cons, ih]
      by_cases ho : other = k
      · subst ho
        simp [hk]
      · simp [beq_false_of_ne ho]

theorem contains_erase (m : ByteMap ν) (key other : UInt8) :
    (m.erase key).contains other = (!decide (other = key) && m.contains other) := by
  unfold contains
  rw [get?_erase]
  by_cases h : other = key
  · rw [if_pos h, decide_eq_true h]
    rfl
  · rw [if_neg h, decide_eq_false h]
    rfl

theorem get?_modify (m : ByteMap ν) (key other : UInt8) (f : ν → ν) :
    (m.modify key f).get? other = if other = key then (m.get? other).map f else m.get? other := by
  simp only [get?, modify, mapValues]
  induction m.entries with
  | nil => simp
  | cons head rest ih =>
    obtain ⟨k, v⟩ := head
    rw [List.map_cons, List.lookup_cons, List.lookup_cons]
    by_cases ho : other = k
    · subst ho
      by_cases hk : other = key
      · simp [hk]
      · simp [hk]
    · rw [beq_false_of_ne ho]
      exact ih

theorem mem_of_get? {m : ByteMap ν} {key : UInt8} {value : ν} (h : m.get? key = some value) :
    (key, value) ∈ m.entries := by
  obtain ⟨before, rest, h, -⟩ := List.lookup_eq_some_iff.mp h
  rw [h]
  exact List.mem_append_right _ List.mem_cons_self

theorem lookup_of_mem {entries : List (UInt8 × ν)} (hsorted : entries.Pairwise (·.1 < ·.1))
    {key : UInt8} {value : ν} (h : (key, value) ∈ entries) :
    entries.lookup key = some value := by
  induction entries with
  | nil => cases h
  | cons head rest ih =>
    obtain ⟨hhead, hrest⟩ := List.pairwise_cons.mp hsorted
    rw [List.lookup_cons]
    rcases List.mem_cons.mp h with rfl | h
    · simp
    · have hlt := hhead _ h
      have hne : key ≠ head.1 := fun heq => UInt8.lt_irrefl _ (heq ▸ hlt)
      rw [beq_false_of_ne hne]
      exact ih hrest h

/-- An entry is what its key is mapped to. -/
theorem get?_of_mem {m : ByteMap ν} {key : UInt8} {value : ν} (h : (key, value) ∈ m.entries) :
    m.get? key = some value := lookup_of_mem m.sorted h

/-- Only the value of the modified key changes. -/
theorem mem_modify {m : ByteMap ν} {key k : UInt8} {f : ν → ν} {value : ν}
    (h : (k, value) ∈ (m.modify key f).entries) :
    ∃ old, (k, old) ∈ m.entries ∧ value = if k = key then f old else old := by
  obtain ⟨⟨k', old⟩, hold, heq⟩ := List.mem_map.mp h
  obtain ⟨rfl, rfl⟩ := Prod.mk.inj heq
  exact ⟨old, hold, rfl⟩

theorem lookup_isSome_iff {key : UInt8} {entries : List (UInt8 × ν)} :
    (entries.lookup key).isSome = true ↔ key ∈ entries.map (·.1) := by
  induction entries with
  | nil => simp
  | cons head rest ih =>
    rw [List.lookup_cons, List.map_cons, List.mem_cons]
    by_cases h : key = head.1
    · simp [h]
    · rw [beq_false_of_ne h, ih]
      simp [h]

/-- A map has a value for its keys. -/
theorem contains_iff {m : ByteMap ν} {key : UInt8} : m.contains key = true ↔ key ∈ m.keys :=
  lookup_isSome_iff

theorem mem_keys_insert {m : ByteMap ν} {key other : UInt8} {value : ν} :
    other ∈ (m.insert key value).keys ↔ other = key ∨ other ∈ m.keys := by
  rw [← contains_iff, contains_insert, Bool.or_eq_true, decide_eq_true_iff, contains_iff]

theorem nodup_keys (m : ByteMap ν) : m.keys.Nodup :=
  (List.pairwise_map.mpr m.sorted).imp fun h => UInt8.ne_of_lt h

theorem contains_congr {m : ByteMap ν} {n : ByteMap μ} (h : n.keys = m.keys) (key : UInt8) :
    n.contains key = m.contains key := by
  rw [Bool.eq_iff_iff, contains_iff, contains_iff, h]

theorem keys_modify (m : ByteMap ν) (key : UInt8) (f : ν → ν) : (m.modify key f).keys = m.keys := by
  simp [keys, modify, mapValues]

/-- The keys after an insertion depend on the keys only. -/
theorem map_fst_insertEntry {entries : List (UInt8 × ν)} {entries' : List (UInt8 × μ)}
    (h : entries'.map (·.1) = entries.map (·.1)) (key : UInt8) (value : ν) (value' : μ) :
    (insertEntry key value' entries').map (·.1) = (insertEntry key value entries).map (·.1) := by
  induction entries generalizing entries' with
  | nil =>
    obtain rfl := List.map_eq_nil_iff.mp h
    rfl
  | cons head rest ih =>
    cases entries' with
    | nil => cases h
    | cons head' rest' =>
      obtain ⟨k, v⟩ := head
      obtain ⟨k', v'⟩ := head'
      obtain ⟨hkey, hrest⟩ := List.cons.inj h
      have hkey : k' = k := hkey
      subst hkey
      simp only [insertEntry]
      split
      · simp [hrest]
      · split
        · simp [hrest]
        · simp [ih hrest]

theorem keys_insert {m : ByteMap ν} {n : ByteMap μ} (h : n.keys = m.keys) (key : UInt8)
    (value : ν) (value' : μ) : (n.insert key value').keys = (m.insert key value).keys :=
  map_fst_insertEntry h key value value'

end ByteMap

/-- A finite set of bytes. -/
abbrev ByteSet := ByteMap Unit

namespace ByteSet

/-- The set with `b`. -/
def add (s : ByteSet) (b : UInt8) : ByteSet := s.insert b ()

end ByteSet

end UsbPeripheral
