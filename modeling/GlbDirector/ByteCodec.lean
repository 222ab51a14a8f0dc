import Mathlib.Tactic

/-!
# Checked byte slices and fixed-width words

Byte strings are lists of octets.  A packed record is written by appending
little-endian words and read back by checked slices at fixed offsets; an
out-of-range read denotes nothing.  The lemmas below are the read-after-write
rules: a slice of an append lies in one of the two parts, and a slice of a
flattened array of equally long records lies in one record.  A patch of an
append changes one of its parts.
-/

namespace ByteCodec

abbrev Bytes := List UInt8

/-- A byte string of a fixed length. -/
abbrev ByteVec (n : ℕ) := { bytes : Bytes // bytes.length = n }

def ByteVec.zero (n : ℕ) : ByteVec n :=
  ⟨List.replicate n 0, by simp⟩

/-! ## Little-endian numbers -/

def leBytes : ℕ → ℕ → Bytes
  | 0, _ => []
  | width + 1, value => UInt8.ofNat value :: leBytes width (value / 256)

def leNat : Bytes → ℕ
  | [] => 0
  | byte :: rest => byte.toNat + 256 * leNat rest

@[simp] theorem leBytes_length (width value : ℕ) :
    (leBytes width value).length = width := by
  induction width generalizing value with
  | zero => rfl
  | succ width ih => simp [leBytes, ih]

theorem leNat_leBytes (width value : ℕ) :
    leNat (leBytes width value) = value % 256 ^ width := by
  induction width generalizing value with
  | zero => simp [leBytes, leNat, Nat.mod_one]
  | succ width ih =>
      have hsplit : value % 256 ^ (width + 1) =
          value % 256 + 256 * (value / 256 % 256 ^ width) := by
        rw [pow_succ', Nat.mod_mul]
      simp only [leBytes, leNat, ih]
      rw [hsplit]
      simp

theorem leNat_lt (bytes : Bytes) : leNat bytes < 256 ^ bytes.length := by
  induction bytes with
  | nil => simp [leNat]
  | cons byte rest ih =>
      have hbyte : byte.toNat < 256 := byte.toNat_lt
      simp only [leNat, List.length_cons, pow_succ]
      omega

theorem leBytes_leNat (bytes : Bytes) :
    leBytes bytes.length (leNat bytes) = bytes := by
  induction bytes with
  | nil => rfl
  | cons byte rest ih =>
      have hbyte : byte.toNat < 256 := byte.toNat_lt
      have hdiv : (byte.toNat + 256 * leNat rest) / 256 = leNat rest := by
        omega
      have hhead : UInt8.ofNat (byte.toNat + 256 * leNat rest) = byte := by
        apply UInt8.toNat_inj.mp
        simp only [UInt8.toNat_ofNat']
        omega
      simp only [List.length_cons, leNat, leBytes, hdiv, ih, hhead]

def u16le (value : UInt16) : Bytes := leBytes 2 value.toNat
def u32le (value : UInt32) : Bytes := leBytes 4 value.toNat
def u64le (value : UInt64) : Bytes := leBytes 8 value.toNat

@[simp] theorem u16le_length (value : UInt16) : (u16le value).length = 2 :=
  leBytes_length 2 value.toNat

@[simp] theorem u32le_length (value : UInt32) : (u32le value).length = 4 :=
  leBytes_length 4 value.toNat

@[simp] theorem u64le_length (value : UInt64) : (u64le value).length = 8 :=
  leBytes_length 8 value.toNat

def wordU16 (bytes : Bytes) : UInt16 := UInt16.ofNat (leNat bytes)
def wordU32 (bytes : Bytes) : UInt32 := UInt32.ofNat (leNat bytes)
def wordU64 (bytes : Bytes) : UInt64 := UInt64.ofNat (leNat bytes)

@[simp] theorem wordU16_u16le (value : UInt16) :
    wordU16 (u16le value) = value := by
  have hlt : value.toNat < 256 ^ 2 := value.toNat_lt
  unfold wordU16 u16le
  rw [leNat_leBytes, Nat.mod_eq_of_lt hlt, UInt16.ofNat_toNat]

@[simp] theorem wordU32_u32le (value : UInt32) :
    wordU32 (u32le value) = value := by
  have hlt : value.toNat < 256 ^ 4 := value.toNat_lt
  unfold wordU32 u32le
  rw [leNat_leBytes, Nat.mod_eq_of_lt hlt, UInt32.ofNat_toNat]

@[simp] theorem wordU64_u64le (value : UInt64) :
    wordU64 (u64le value) = value := by
  have hlt : value.toNat < 256 ^ 8 := value.toNat_lt
  unfold wordU64 u64le
  rw [leNat_leBytes, Nat.mod_eq_of_lt hlt, UInt64.ofNat_toNat]

theorem u16le_wordU16 {bytes : Bytes} (hlength : bytes.length = 2) :
    u16le (wordU16 bytes) = bytes := by
  have hlt : leNat bytes < 2 ^ 16 := by
    simpa [hlength] using leNat_lt bytes
  unfold u16le wordU16
  rw [UInt16.toNat_ofNat_of_lt' hlt, ← hlength, leBytes_leNat]

theorem u32le_wordU32 {bytes : Bytes} (hlength : bytes.length = 4) :
    u32le (wordU32 bytes) = bytes := by
  have hlt : leNat bytes < 2 ^ 32 := by
    simpa [hlength] using leNat_lt bytes
  unfold u32le wordU32
  rw [UInt32.toNat_ofNat_of_lt' hlt, ← hlength, leBytes_leNat]

theorem u64le_wordU64 {bytes : Bytes} (hlength : bytes.length = 8) :
    u64le (wordU64 bytes) = bytes := by
  have hlt : leNat bytes < 2 ^ 64 := by
    simpa [hlength] using leNat_lt bytes
  unfold u64le wordU64
  rw [UInt64.toNat_ofNat_of_lt' hlt, ← hlength, leBytes_leNat]

theorem wordU64_toNat {bytes : Bytes} (hlength : bytes.length = 8) :
    (wordU64 bytes).toNat = leNat bytes := by
  have hlt : leNat bytes < 2 ^ 64 := by
    simpa [hlength] using leNat_lt bytes
  exact UInt64.toNat_ofNat_of_lt' hlt

/-- The big-endian reading of a byte string. -/
def beNat (bytes : Bytes) : ℕ := leNat bytes.reverse

/-! ## Checked slices -/

def slice (offset len : ℕ) (bytes : Bytes) : Option Bytes :=
  if offset + len ≤ bytes.length then
    some ((bytes.drop offset).take len)
  else
    none

def readU8 (offset : ℕ) (bytes : Bytes) : Option UInt8 := bytes[offset]?

def readU16 (offset : ℕ) (bytes : Bytes) : Option UInt16 :=
  (slice offset 2 bytes).map wordU16

def readU32 (offset : ℕ) (bytes : Bytes) : Option UInt32 :=
  (slice offset 4 bytes).map wordU32

theorem slice_eq_some_iff {offset len : ℕ} {bytes part : Bytes} :
    slice offset len bytes = some part ↔
      offset + len ≤ bytes.length ∧ (bytes.drop offset).take len = part := by
  unfold slice
  split <;> simp_all

theorem slice_length {offset len : ℕ} {bytes part : Bytes}
    (hslice : slice offset len bytes = some part) : part.length = len := by
  obtain ⟨hbound, rfl⟩ := slice_eq_some_iff.mp hslice
  simp only [List.length_take, List.length_drop]
  omega

theorem slice_append_left
    {offset len : ℕ} (front back : Bytes)
    (hbound : offset + len ≤ front.length) :
    slice offset len (front ++ back) = slice offset len front := by
  have htotal : offset + len ≤ (front ++ back).length := by
    simp only [List.length_append]
    omega
  unfold slice
  rw [if_pos htotal, if_pos hbound,
    List.drop_append_of_le_length (by omega),
    List.take_append_of_le_length (by simp only [List.length_drop]; omega)]

theorem slice_append_right
    {offset len : ℕ} (front back : Bytes)
    (hbound : front.length ≤ offset) :
    slice offset len (front ++ back) =
      slice (offset - front.length) len back := by
  have hdrop : (front ++ back).drop offset =
      back.drop (offset - front.length) := by
    rw [List.drop_append, List.drop_eq_nil_of_le hbound, List.nil_append]
  unfold slice
  rw [hdrop]
  congr 1
  simp only [List.length_append, eq_iff_iff]
  omega

theorem slice_take {offset len count : ℕ} (bytes : Bytes)
    (hinside : offset + len ≤ count) :
    slice offset len (bytes.take count) = slice offset len bytes := by
  unfold slice
  rw [List.length_take, List.drop_take, List.take_take,
    min_eq_left (show len ≤ count - offset by omega)]
  congr 1
  rw [eq_iff_iff]
  omega

theorem slice_full {len : ℕ} {bytes : Bytes} (hlength : bytes.length = len) :
    slice 0 len bytes = some bytes := by
  subst len
  simp [slice]

/-- The part of a three-way append that the offset points at. -/
theorem slice_middle
    {offset len : ℕ} (front middle back : Bytes)
    (hoffset : front.length = offset) (hlength : middle.length = len) :
    slice offset len (front ++ (middle ++ back)) = some middle := by
  subst offset len
  rw [slice_append_right _ _ le_rfl, Nat.sub_self,
    slice_append_left _ _ (by omega), slice_full rfl]

theorem slice_first
    {len : ℕ} (front back : Bytes) (hlength : front.length = len) :
    slice 0 len (front ++ back) = some front := by
  rw [slice_append_left _ _ (by omega), slice_full hlength]

theorem slice_last
    {offset len : ℕ} (front back : Bytes)
    (hoffset : front.length = offset) (hlength : back.length = len) :
    slice offset len (front ++ back) = some back := by
  subst offset
  rw [slice_append_right _ _ le_rfl, Nat.sub_self, slice_full hlength]

/-- A slice of a slice is the slice at the summed offset. -/
theorem slice_slice
    {offset len inner width : ℕ} {bytes part : Bytes}
    (hpart : slice offset len bytes = some part)
    (hbound : inner + width ≤ len) :
    slice (offset + inner) width bytes = slice inner width part := by
  obtain ⟨htotal, rfl⟩ := slice_eq_some_iff.mp hpart
  have hlength : ((bytes.drop offset).take len).length = len := by
    simp only [List.length_take, List.length_drop]
    omega
  unfold slice
  rw [if_pos (by omega), if_pos (by omega), List.drop_take,
    List.drop_drop, List.take_take, min_eq_left (by omega)]

theorem readU8_slice
    {offset len inner : ℕ} {bytes part : Bytes}
    (hpart : slice offset len bytes = some part) (hbound : inner < len) :
    readU8 (offset + inner) bytes = readU8 inner part := by
  obtain ⟨htotal, rfl⟩ := slice_eq_some_iff.mp hpart
  unfold readU8
  rw [List.getElem?_take, if_pos hbound, List.getElem?_drop]

theorem readU32_slice
    {offset len inner : ℕ} {bytes part : Bytes}
    (hpart : slice offset len bytes = some part)
    (hbound : inner + 4 ≤ len) :
    readU32 (offset + inner) bytes = readU32 inner part := by
  unfold readU32
  rw [slice_slice hpart hbound]

/-! ## Arrays of records -/

section Records

variable {α : Type*} {write : α → Bytes} {size : ℕ}

theorem flatten_map_length
    (hwrite : ∀ entry, (write entry).length = size) (entries : List α) :
    (entries.map write).flatten.length = size * entries.length := by
  induction entries with
  | nil => simp
  | cons head rest ih =>
      simp only [List.map_cons, List.flatten_cons, List.length_append,
        List.length_cons, hwrite, ih]
      ring

theorem slice_flatten_map
    (hwrite : ∀ entry, (write entry).length = size)
    {entries : List α} {index : ℕ} {entry : α}
    (hentry : entries[index]? = some entry) :
    slice (size * index) size (entries.map write).flatten =
      some (write entry) := by
  induction entries generalizing index with
  | nil => simp at hentry
  | cons head rest ih =>
      cases index with
      | zero =>
          simp only [List.getElem?_cons_zero, Option.some.injEq] at hentry
          subst head
          rw [List.map_cons, List.flatten_cons, Nat.mul_zero,
            slice_append_left _ _ (by rw [hwrite]; omega),
            slice_full (hwrite entry)]
      | succ index =>
          simp only [List.getElem?_cons_succ] at hentry
          have hskip : size * (index + 1) - (write head).length =
              size * index := by
            rw [hwrite, Nat.mul_succ]
            omega
          rw [List.map_cons, List.flatten_cons,
            slice_append_right _ _ (by rw [hwrite, Nat.mul_succ]; omega),
            hskip]
          exact ih hentry

theorem slice_record
    (hwrite : ∀ entry, (write entry).length = size)
    {offset len index : ℕ} {bytes : Bytes} {entries : List α} {entry : α}
    (harray : slice offset len bytes = some (entries.map write).flatten)
    (hentry : entries[index]? = some entry) :
    slice (offset + size * index) size bytes = some (write entry) := by
  obtain ⟨hindex, _⟩ := List.getElem?_eq_some_iff.mp hentry
  have hlen : size * entries.length = len := by
    rw [← flatten_map_length hwrite entries, slice_length harray]
  have hbound : size * index + size ≤ len := by
    rw [← hlen, ← Nat.mul_succ]
    exact Nat.mul_le_mul_left size hindex
  rw [slice_slice harray hbound, slice_flatten_map hwrite hentry]

end Records

/-! ## Patches -/

/-- Overwrite the bytes from `offset` on; the patch must fit. -/
def patch (offset : ℕ) (patched bytes : Bytes) : Bytes :=
  bytes.take offset ++ (patched ++ bytes.drop (offset + patched.length))

theorem patch_middle
    {offset : ℕ} {front old new : Bytes} (back : Bytes)
    (hoffset : front.length = offset) (hlength : new.length = old.length) :
    patch offset new (front ++ (old ++ back)) = front ++ (new ++ back) := by
  subst hoffset
  rw [patch, List.take_left, hlength, ← List.length_append,
    ← List.append_assoc front old back, List.drop_left]

theorem patch_append_right
    (front : Bytes) (offset : ℕ) (patched back : Bytes) :
    patch (front.length + offset) patched (front ++ back) =
      front ++ patch offset patched back := by
  rw [patch, patch, List.take_length_add_append, Nat.add_assoc,
    List.drop_length_add_append, List.append_assoc]

theorem patch_length {offset : ℕ} {patched bytes : Bytes}
    (hfits : offset + patched.length ≤ bytes.length) :
    (patch offset patched bytes).length = bytes.length := by
  simp only [patch, List.length_append, List.length_take, List.length_drop]
  omega

/-- A patch changes no byte beside it. -/
theorem getElem?_patch {offset index : ℕ} {patched bytes : Bytes}
    (hfits : offset + patched.length ≤ bytes.length)
    (hbeside : index < offset ∨ offset + patched.length ≤ index) :
    (patch offset patched bytes)[index]? = bytes[index]? := by
  have hfront : (bytes.take offset).length = offset :=
    List.length_take_of_le (by omega)
  rcases hbeside with hbefore | hafter
  · rw [patch, List.getElem?_append_left (by omega), List.getElem?_take,
      if_pos hbefore]
  · rw [patch, List.getElem?_append_right (by omega),
      List.getElem?_append_right (by omega), List.getElem?_drop, hfront]
    congr 1
    omega

end ByteCodec
