import GlbDirector.XdpLoading

/-!
# What `check_config` reads

The loader copies the file into a buffer of exactly its size.  Once the size
test has passed, every record that the loops visit lies in that buffer.  The
header fields are read before that test, so a file that ends inside its header
is read beyond its end as long as the fields it does have are the right ones.
-/

namespace GlbDirector

open ByteCodec

/-! ## Reading on -/

theorem bind_ne_none {α : Type} {read : Option α} {value : α}
    {next : α → CheckResult} (hread : read = some value)
    (hnext : next value ≠ none) : (read >>= next) ≠ none := by
  rw [hread]
  exact hnext

theorem guarded_ne_none {stop : Prop} [Decidable stop] {error : CheckError}
    {rest : CheckResult} (hrest : ¬ stop → rest ≠ none) :
    (if stop then pure (.error error) else rest) ≠ none := by
  split
  · exact Option.some_ne_none _
  · rename_i hgo
    exact hrest hgo

theorem checkLoop_ne_none {body : ℕ → CheckResult} {start count : ℕ}
    (hbody : ∀ i, start ≤ i → i < start + count → body i ≠ none) :
    checkLoop body start count ≠ none := by
  induction count generalizing start with
  | zero => exact Option.some_ne_none _
  | succ count ih =>
      have hrest : checkLoop body (start + 1) count ≠ none := by
        apply ih
        intro i hlow hhigh
        exact hbody i (by omega) (by omega)
      cases hstart : body start with
      | none => exact absurd hstart (hbody start le_rfl (by omega))
      | some result =>
          cases result with
          | error error => simp [checkLoop, hstart]
          | ok value =>
              simp only [checkLoop, hstart]
              exact hrest

/-! ## Records of a file of the right size -/

section RightSize

variable {raw : Bytes} {num : UInt32}
variable (hsize : raw.length = expectedSize num)
variable {table : ℕ} (htable : table < num.toNat)

include hsize htable

theorem exists_readU32_table {offset : ℕ}
    (hinside : offset + 4 ≤ contentTableSize) :
    ∃ value, readU32 (tableOffset table + offset) raw = some value := by
  obtain ⟨part, hpart⟩ := exists_slice_table hsize htable hinside
  exact ⟨wordU32 part, by rw [readU32, hpart, Option.map_some]⟩

theorem checkBackendFamily_ne_none {y : ℕ} (hy : y < glbFmtMaxNumBackends) :
    checkBackendFamily raw table y ≠ none := by
  have hfits : backendsOffset + contentBackendSize * glbFmtMaxNumBackends ≤
      contentTableSize := by decide
  have hrecord := record_inside hy hfits
  obtain ⟨family, hfamily⟩ := exists_readU32_table hsize htable
    (le_trans (Nat.add_le_add_left (by decide) _) hrecord)
  apply bind_ne_none hfamily
  apply guarded_ne_none
  intro _
  exact Option.some_ne_none _

theorem checkBind_ne_none {x : ℕ} (hx : x < glbFmtMaxNumBinds)
    {numBackends : UInt32}
    (hnumBackends : tableNumBackends raw table = some numBackends)
    (hle : numBackends.toNat ≤ glbFmtMaxNumBackends) :
    checkBind raw table x ≠ none := by
  have hfits : bindsOffset + contentBindSize * glbFmtMaxNumBinds ≤
      contentTableSize := by decide
  have hrecord := record_inside hx hfits
  obtain ⟨family, hfamily⟩ := exists_readU32_table hsize htable
    (le_trans (Nat.add_le_add_left (by decide) _) hrecord)
  obtain ⟨bind, hbind⟩ := exists_slice_table hsize htable hrecord
  have hproto : readU8 (bindOffset table x + 26) raw = bind[26]? :=
    readU8_slice hbind (by decide)
  have hlength : 26 < bind.length := by
    rw [slice_length hbind]
    decide
  rw [List.getElem?_eq_getElem hlength] at hproto
  apply bind_ne_none hfamily
  apply guarded_ne_none
  intro _
  apply bind_ne_none hproto
  apply guarded_ne_none
  intro _
  apply bind_ne_none hnumBackends
  apply checkLoop_ne_none
  intro y _ hy
  exact checkBackendFamily_ne_none hsize htable (by omega)

theorem checkTable_ne_none : checkTable raw table ≠ none := by
  obtain ⟨numBackends, hnumBackends⟩ := exists_readU32_table hsize htable
    (show 0 + 4 ≤ contentTableSize by decide)
  obtain ⟨numBinds, hnumBinds⟩ := exists_readU32_table hsize htable
    (show numBindsOffset + 4 ≤ contentTableSize by decide)
  apply bind_ne_none hnumBackends
  apply guarded_ne_none
  intro _
  apply bind_ne_none hnumBinds
  apply guarded_ne_none
  intro _
  apply guarded_ne_none
  intro hbinds
  apply guarded_ne_none
  intro hbackends
  apply checkLoop_ne_none
  intro x _ hx
  exact checkBind_ne_none hsize htable (by omega) hnumBackends (by omega)

end RightSize

/-! ## The header -/

/-- `check_config` from the size test on. -/
def checkTables (raw : Bytes) : CheckResult := do
  let tables ← numTables raw
  if expectedSize tables ≠ raw.length then
    return .error (.fileSize (expectedSize tables) raw.length)
  if tables = 0 then
    return .error .zeroTables
  checkLoop (checkTable raw) 0 tables.toNat

/-- One field of the header against its constant. -/
def checkField (raw : Bytes) (offset : ℕ) (expected : UInt32)
    (error : UInt32 → CheckError) (rest : CheckResult) : CheckResult := do
  let got ← readU32 offset raw
  if got ≠ expected then
    return .error (error got)
  rest

theorem checkConfig_eq (raw : Bytes) :
    checkConfig raw =
      checkField raw 0 glbFmtMagicWord (fun _ => .magicWord)
        (checkField raw 4 glbFmtVersion .version
          (checkField raw 12 (UInt32.ofNat glbFmtTableEntries) .tableEntries
            (checkField raw 16 (UInt32.ofNat glbFmtMaxNumBackends)
              .maxNumBackends (checkTables raw)))) :=
  rfl

theorem checkTables_ne_none {raw : Bytes} (hcount : 12 ≤ raw.length) :
    checkTables raw ≠ none := by
  have hnum : numTables raw = some (wordU32 ((raw.drop 8).take 4)) := by
    rw [numTables, readU32, slice, if_pos hcount, Option.map_some]
  apply bind_ne_none hnum
  apply guarded_ne_none
  intro hsize
  apply guarded_ne_none
  intro _
  apply checkLoop_ne_none
  intro table _ htable
  exact checkTable_ne_none (not_not.mp hsize).symm (by omega)

theorem checkField_ne_none_iff {raw : Bytes} {offset : ℕ}
    {expected : UInt32} {error : UInt32 → CheckError} {rest : CheckResult} :
    checkField raw offset expected error rest ≠ none ↔
      offset + 4 ≤ raw.length ∧
        ((raw.drop offset).take 4 = u32le expected → rest ≠ none) := by
  by_cases hinside : offset + 4 ≤ raw.length
  · have hlength : ((raw.drop offset).take 4).length = 4 := by
      apply List.length_take_of_le
      rw [List.length_drop]
      omega
    have hread : readU32 offset raw =
        some (wordU32 ((raw.drop offset).take 4)) := by
      rw [readU32, slice, if_pos hinside, Option.map_some]
    have hword : wordU32 ((raw.drop offset).take 4) = expected ↔
        (raw.drop offset).take 4 = u32le expected := by
      constructor
      · rintro rfl
        exact (u32le_wordU32 hlength).symm
      · intro hbytes
        rw [hbytes, wordU32_u32le]
    rw [checkField, hread, ← hword]
    constructor
    · intro hresult
      refine ⟨hinside, fun hexpected => ?_⟩
      have hgo : ¬ wordU32 ((raw.drop offset).take 4) ≠ expected :=
        not_not.mpr hexpected
      rw [Option.bind_eq_bind, Option.bind_some, if_neg hgo] at hresult
      exact hresult
    · rintro ⟨_, hrest⟩
      apply guarded_ne_none
      intro hgo
      exact hrest (not_not.mp hgo)
  · have hread : readU32 offset raw = none := by
      rw [readU32, slice, if_neg hinside, Option.map_none]
    rw [checkField, hread]
    exact iff_of_false (not_not.mpr rfl) fun hboth => hinside hboth.1

/-- The header as far as the check goes is in the file: a field is read only
when all fields before it were right. -/
def HeaderInside (raw : Bytes) : Prop :=
  4 ≤ raw.length ∧ (raw.take 4 = u32le glbFmtMagicWord →
    8 ≤ raw.length ∧ ((raw.drop 4).take 4 = u32le glbFmtVersion →
      16 ≤ raw.length ∧ ((raw.drop 12).take 4 =
          u32le (UInt32.ofNat glbFmtTableEntries) →
        20 ≤ raw.length)))

/-- `check_config` stays in the buffer unless the file ends inside the header
and its fields are right up to there. -/
theorem checkConfig_reads_inside_iff (raw : Bytes) :
    checkConfig raw ≠ none ↔ HeaderInside raw := by
  have hlast : (16 + 4 ≤ raw.length ∧
      ((raw.drop 16).take 4 = u32le (UInt32.ofNat glbFmtMaxNumBackends) →
        checkTables raw ≠ none)) ↔ 20 ≤ raw.length := by
    constructor
    · intro hboth
      exact hboth.1
    · intro hlength
      exact ⟨hlength, fun _ => checkTables_ne_none (by omega)⟩
  rw [checkConfig_eq, checkField_ne_none_iff, checkField_ne_none_iff,
    checkField_ne_none_iff, checkField_ne_none_iff, hlast]
  rfl

/-- The first bytes of a forwarding table, cut off in its number of tables. -/
def truncatedFile : Bytes :=
  u32le glbFmtMagicWord ++ (u32le glbFmtVersion ++ [1, 0])

theorem truncatedFile_read_outside :
    1 ≤ truncatedFile.length ∧ checkConfig truncatedFile = none := by
  decide

end GlbDirector
