import GlbDirector.BuildConfig

/-!
# The binary forwarding table (`glb_fwd_config.h`, `check_config`)

The loader maps the file onto `struct glb_fwd_config_content`.  Here the
struct is read field by field at its packed offsets; a read outside the buffer
is `none`.  The second half shows that the offsets agree with the order in
which the builder writes.
-/

namespace GlbDirector

open ByteCodec

/-! ## Layout -/

def glbFmtMagicWord : UInt32 := 0x44424c47
def glbFmtVersion : UInt32 := 2
def glbFmtTableEntries : ℕ := 0x10000
def glbFmtMaxNumBackends : ℕ := 0x100
def glbFmtMaxNumBinds : ℕ := 0x100
def glbFmtSecureKeyBytes : ℕ := 16

def familyIpv4 : UInt32 := 1
def familyIpv6 : UInt32 := 2

def contentSize : ℕ := 24
def contentBackendSize : ℕ := 24
def contentBindSize : ℕ := 28
def contentEntrySize : ℕ := 8

def backendsOffset : ℕ := 4
def numBindsOffset : ℕ :=
  backendsOffset + contentBackendSize * glbFmtMaxNumBackends
def bindsOffset : ℕ := numBindsOffset + 4
def secureKeyOffset : ℕ := bindsOffset + contentBindSize * glbFmtMaxNumBinds
def entriesOffset : ℕ := secureKeyOffset + glbFmtSecureKeyBytes
def contentTableSize : ℕ :=
  entriesOffset + contentEntrySize * glbFmtTableEntries

def tableOffset (table : ℕ) : ℕ := contentSize + contentTableSize * table

structure FwdBackend where
  family : UInt32
  ipv6Addr : Bytes
  state : UInt16
  healthy : UInt16
  deriving DecidableEq

structure FwdBind where
  family : UInt32
  ipv6Addr : Bytes
  ipBits : UInt16
  portStart : UInt16
  portEnd : UInt16
  proto : UInt8
  reserved : UInt8
  deriving DecidableEq

structure FwdEntry where
  primary : UInt32
  secondary : UInt32
  deriving DecidableEq

def decodeBackend (record : Bytes) : FwdBackend where
  family := wordU32 (record.take 4)
  ipv6Addr := (record.drop 4).take 16
  state := wordU16 ((record.drop 20).take 2)
  healthy := wordU16 ((record.drop 22).take 2)

def decodeBind (record : Bytes) : FwdBind where
  family := wordU32 (record.take 4)
  ipv6Addr := (record.drop 4).take 16
  ipBits := wordU16 ((record.drop 20).take 2)
  portStart := wordU16 ((record.drop 22).take 2)
  portEnd := wordU16 ((record.drop 24).take 2)
  proto := record.getD 26 0
  reserved := record.getD 27 0

def decodeEntry (record : Bytes) : FwdEntry where
  primary := wordU32 (record.take 4)
  secondary := wordU32 ((record.drop 4).take 4)

def numTables (raw : Bytes) : Option UInt32 := readU32 8 raw

def backendOffset (table index : ℕ) : ℕ :=
  tableOffset table + (backendsOffset + contentBackendSize * index)

def bindOffset (table index : ℕ) : ℕ :=
  tableOffset table + (bindsOffset + contentBindSize * index)

def entryOffset (table index : ℕ) : ℕ :=
  tableOffset table + (entriesOffset + contentEntrySize * index)

def tableNumBackends (raw : Bytes) (table : ℕ) : Option UInt32 :=
  readU32 (tableOffset table) raw

def tableBackend (raw : Bytes) (table index : ℕ) : Option FwdBackend :=
  (slice (backendOffset table index) contentBackendSize raw).map decodeBackend

def tableNumBinds (raw : Bytes) (table : ℕ) : Option UInt32 :=
  readU32 (tableOffset table + numBindsOffset) raw

def tableBind (raw : Bytes) (table index : ℕ) : Option FwdBind :=
  (slice (bindOffset table index) contentBindSize raw).map decodeBind

def tableSecureKey (raw : Bytes) (table : ℕ) : Option Bytes :=
  slice (tableOffset table + secureKeyOffset) glbFmtSecureKeyBytes raw

def tableEntry (raw : Bytes) (table index : ℕ) : Option FwdEntry :=
  (slice (entryOffset table index) contentEntrySize raw).map decodeEntry

/-! ## `check_config` -/

inductive CheckError where
  | magicWord
  | version (got : UInt32)
  | tableEntries (got : UInt32)
  | maxNumBackends (got : UInt32)
  | fileSize (expected got : ℕ)
  | zeroTables
  | zeroBackends (table : ℕ)
  | zeroBinds (table : ℕ)
  | tooManyBinds (got : UInt32)
  | tooManyBackends (got : UInt32)
  | bindFamily (got : UInt32)
  | protocol (got : UInt8)
  | backendFamily (got : UInt32)
  deriving DecidableEq, Repr

def CheckError.message (error : CheckError) : String :=
  "glb-config loading failed: " ++
  match error with
  | .magicWord => "invalid magic word"
  | .version got => "invalid version (expected " ++
      toString glbFmtVersion ++ ", got " ++ toString got ++ ")"
  | .tableEntries got => "invalid number of table entries (expected " ++
      toString glbFmtTableEntries ++ ", got " ++ toString got ++ ")"
  | .maxNumBackends got => "invalid number of backends (expected " ++
      toString glbFmtMaxNumBackends ++ ", got " ++ toString got ++ ")"
  | .fileSize expected got => "config file has wrong size (expected " ++
      toString expected ++ ", got " ++ toString got ++ ")"
  | .zeroTables => "forwarding table has 0 tables"
  | .zeroBackends table => "table " ++ toString table ++ " has 0 backends"
  | .zeroBinds table => "table " ++ toString table ++ " has 0 binds"
  | .tooManyBinds got => "too many binds: " ++ toString got
  | .tooManyBackends got => "too many backends: " ++ toString got
  | .bindFamily got => "bind not IPv4 or IPv6: " ++ toString got
  | .protocol got => "unsupprted protocol: " ++ toString got
  | .backendFamily got => "backend not IPv4 or IPv6: " ++ toString got

def supportedProto (proto : UInt8) : Bool :=
  proto = 1 || proto = 6 || proto = 17

/-- `none` when a read leaves the buffer, otherwise what the check returns. -/
abbrev CheckResult := Option (Except CheckError Unit)

/-- `for (i = start; i < start + count; i++)`, left at the first error. -/
def checkLoop (body : ℕ → CheckResult) : ℕ → ℕ → CheckResult
  | _, 0 => some (.ok ())
  | i, count + 1 =>
      match body i with
      | some (.ok ()) => checkLoop body (i + 1) count
      | stopped => stopped

def checkBackendFamily (raw : Bytes) (table y : ℕ) : CheckResult := do
  let family ← readU32 (backendOffset table y) raw
  if family ≠ familyIpv4 ∧ family ≠ familyIpv6 then
    return .error (.backendFamily family)
  return .ok ()

def checkBind (raw : Bytes) (table x : ℕ) : CheckResult := do
  let family ← readU32 (bindOffset table x) raw
  if family ≠ familyIpv4 ∧ family ≠ familyIpv6 then
    return .error (.bindFamily family)
  let proto ← readU8 (bindOffset table x + 26) raw
  if !supportedProto proto then
    return .error (.protocol proto)
  let numBackends ← tableNumBackends raw table
  checkLoop (checkBackendFamily raw table) 0 numBackends.toNat

def checkTable (raw : Bytes) (i : ℕ) : CheckResult := do
  let numBackends ← tableNumBackends raw i
  if numBackends = 0 then
    return .error (.zeroBackends i)
  let numBinds ← tableNumBinds raw i
  if numBinds = 0 then
    return .error (.zeroBinds i)
  if numBinds.toNat > glbFmtMaxNumBinds then
    return .error (.tooManyBinds numBinds)
  if numBackends.toNat > glbFmtMaxNumBackends then
    return .error (.tooManyBackends numBackends)
  checkLoop (checkBind raw i) 0 numBinds.toNat

def expectedSize (numTables : UInt32) : ℕ :=
  contentSize + contentTableSize * numTables.toNat

def checkConfig (raw : Bytes) : CheckResult := do
  let magicWord ← readU32 0 raw
  if magicWord ≠ glbFmtMagicWord then
    return .error .magicWord
  let version ← readU32 4 raw
  if version ≠ glbFmtVersion then
    return .error (.version version)
  let entries ← readU32 12 raw
  if entries ≠ UInt32.ofNat glbFmtTableEntries then
    return .error (.tableEntries entries)
  let maxBackends ← readU32 16 raw
  if maxBackends ≠ UInt32.ofNat glbFmtMaxNumBackends then
    return .error (.maxNumBackends maxBackends)
  let tables ← numTables raw
  if expectedSize tables ≠ raw.length then
    return .error (.fileSize (expectedSize tables) raw.length)
  if tables = 0 then
    return .error .zeroTables
  checkLoop (checkTable raw) 0 tables.toNat

theorem checkLoop_ok_iff (body : ℕ → CheckResult) (start count : ℕ) :
    checkLoop body start count = some (.ok ()) ↔
      ∀ i, start ≤ i → i < start + count → body i = some (.ok ()) := by
  induction count generalizing start with
  | zero =>
      simp only [checkLoop, true_iff]
      intro i hlow hhigh
      omega
  | succ count ih =>
      constructor
      · intro hloop
        cases hbody : body start with
        | none => simp [checkLoop, hbody] at hloop
        | some result =>
            cases result with
            | error error => simp [checkLoop, hbody] at hloop
            | ok value =>
                simp only [checkLoop, hbody] at hloop
                have hrest := (ih (start + 1)).mp hloop
                intro i hlow hhigh
                by_cases heq : i = start
                · subst i
                  exact hbody
                · exact hrest i (by omega) (by omega)
      · intro hall
        have hbody := hall start le_rfl (by omega)
        have hrest := (ih (start + 1)).mpr fun i hlow hhigh =>
          hall i (by omega) (by omega)
        simp only [checkLoop, hbody]
        exact hrest

/-! ## Where the builder's writes land -/

theorem BackendEntry.write_length (entry : BackendEntry) :
    entry.write.length = contentBackendSize := by
  simp [BackendEntry.write, contentBackendSize, entry.ip.2]

theorem BindEntry.write_length (entry : BindEntry) :
    entry.write.length = contentBindSize := by
  simp [BindEntry.write, contentBindSize, entry.ip.2]

theorem TableEntry.write_length (entry : TableEntry) :
    entry.write.length = contentEntrySize := by
  simp [TableEntry.write, contentEntrySize]

/-- The complete file of a successful run. -/
def fileOf (writes : List Bytes) : Bytes := writes.flatten

def TableImage.bytes (image : TableImage) : Bytes := fileOf image.writes

def BackendEntry.view (entry : BackendEntry) : FwdBackend where
  family := entry.inetFamily
  ipv6Addr := entry.ip.val
  state := entry.state
  healthy := entry.health

def BindEntry.view (entry : BindEntry) : FwdBind where
  family := entry.inetFamily
  ipv6Addr := entry.ip.val
  ipBits := entry.ipBits
  portStart := entry.portStart
  portEnd := entry.portEnd
  proto := entry.ipproto
  reserved := entry.reserved

def TableEntry.view (entry : TableEntry) : FwdEntry where
  primary := entry.primaryIdx
  secondary := entry.secondaryIdx

theorem decodeBackend_write (entry : BackendEntry) :
    decodeBackend entry.write = entry.view := by
  have hip : entry.ip.val.length = 16 := entry.ip.2
  simp (disch := simp [hip]) [decodeBackend, BackendEntry.write,
    BackendEntry.view, List.drop_append, hip,
    List.drop_eq_nil_of_le, List.take_of_length_le]

theorem decodeBind_write (entry : BindEntry) :
    decodeBind entry.write = entry.view := by
  have hip : entry.ip.val.length = 16 := entry.ip.2
  simp (disch := simp [hip]) [decodeBind, BindEntry.write, BindEntry.view,
    List.drop_append, hip, List.drop_eq_nil_of_le]

theorem decodeEntry_write (entry : TableEntry) :
    decodeEntry entry.write = entry.view := by
  simp (disch := simp) [decodeEntry, TableEntry.write, TableEntry.view,
    List.take_of_length_le]

theorem TableImage.bytes_eq (image : TableImage) :
    image.bytes = u32le image.numBackends ++
      ((image.backends.map BackendEntry.write).flatten ++
        (u32le image.numBinds ++
          ((image.binds.map BindEntry.write).flatten ++
            (image.hashKey.val ++
              (image.rows.map TableEntry.write).flatten)))) := by
  simp [TableImage.bytes, fileOf, TableImage.writes]

section TableSections

variable (image : TableImage)

theorem TableImage.backends_flatten_length :
    (image.backends.map BackendEntry.write).flatten.length =
      contentBackendSize * glbFmtMaxNumBackends := by
  rw [flatten_map_length BackendEntry.write_length, image.backends_length]
  rfl

theorem TableImage.binds_flatten_length :
    (image.binds.map BindEntry.write).flatten.length =
      contentBindSize * glbFmtMaxNumBinds := by
  rw [flatten_map_length BindEntry.write_length, image.binds_length]
  rfl

theorem TableImage.rows_flatten_length :
    (image.rows.map TableEntry.write).flatten.length =
      contentEntrySize * glbFmtTableEntries := by
  rw [flatten_map_length TableEntry.write_length, image.rows_length]
  rfl

theorem TableImage.bytes_length : image.bytes.length = contentTableSize := by
  rw [image.bytes_eq]
  simp only [List.length_append, u32le_length,
    image.backends_flatten_length, image.binds_flatten_length,
    image.rows_flatten_length, image.hashKey.2]
  rfl

theorem TableImage.slice_numBackends :
    slice 0 4 image.bytes = some (u32le image.numBackends) := by
  rw [image.bytes_eq]
  exact slice_first _ _ (u32le_length _)

theorem TableImage.slice_backends :
    slice backendsOffset (contentBackendSize * glbFmtMaxNumBackends)
      image.bytes =
        some (image.backends.map BackendEntry.write).flatten := by
  rw [image.bytes_eq]
  exact slice_middle _ _ _ (u32le_length _)
    image.backends_flatten_length

theorem TableImage.slice_numBinds :
    slice numBindsOffset 4 image.bytes = some (u32le image.numBinds) := by
  rw [image.bytes_eq, ← List.append_assoc]
  refine slice_middle _ _ _ ?_ (u32le_length _)
  simp only [List.length_append, u32le_length,
    image.backends_flatten_length]
  rfl

theorem TableImage.slice_binds :
    slice bindsOffset (contentBindSize * glbFmtMaxNumBinds) image.bytes =
      some (image.binds.map BindEntry.write).flatten := by
  rw [image.bytes_eq, ← List.append_assoc, ← List.append_assoc]
  refine slice_middle _ _ _ ?_ image.binds_flatten_length
  simp only [List.length_append, u32le_length,
    image.backends_flatten_length]
  rfl

theorem TableImage.slice_secureKey :
    slice secureKeyOffset glbFmtSecureKeyBytes image.bytes =
      some image.hashKey.val := by
  rw [image.bytes_eq, ← List.append_assoc, ← List.append_assoc,
    ← List.append_assoc]
  refine slice_middle _ _ _ ?_ image.hashKey.2
  simp only [List.length_append, u32le_length,
    image.backends_flatten_length, image.binds_flatten_length]
  rfl

theorem TableImage.slice_entries :
    slice entriesOffset (contentEntrySize * glbFmtTableEntries) image.bytes =
      some (image.rows.map TableEntry.write).flatten := by
  rw [image.bytes_eq, ← List.append_assoc, ← List.append_assoc,
    ← List.append_assoc, ← List.append_assoc]
  refine slice_last _ _ ?_ image.rows_flatten_length
  simp only [List.length_append, u32le_length,
    image.backends_flatten_length, image.binds_flatten_length,
    image.hashKey.2]
  rfl

theorem TableImage.slice_backend {index : ℕ} {entry : BackendEntry}
    (hentry : image.backends[index]? = some entry) :
    slice (backendsOffset + contentBackendSize * index) contentBackendSize
      image.bytes = some entry.write :=
  slice_record BackendEntry.write_length image.slice_backends hentry

theorem TableImage.slice_bind {index : ℕ} {entry : BindEntry}
    (hentry : image.binds[index]? = some entry) :
    slice (bindsOffset + contentBindSize * index) contentBindSize
      image.bytes = some entry.write :=
  slice_record BindEntry.write_length image.slice_binds hentry

theorem TableImage.slice_entry {index : ℕ} {entry : TableEntry}
    (hentry : image.rows[index]? = some entry) :
    slice (entriesOffset + contentEntrySize * index) contentEntrySize
      image.bytes = some entry.write :=
  slice_record TableEntry.write_length image.slice_entries hentry

end TableSections

/-! ## Whole files -/

theorem header_length (numTables : UInt32) :
    (fileOf (headerWrites numTables)).length = contentSize := by
  have hmagic : (ascii "GLBD").length = 4 := by decide +kernel
  simp [fileOf, headerWrites, hmagic, contentSize]

/-- The file of a run: the header and the tables one after the other. -/
def configFile (numTables : UInt32) (images : List TableImage) : Bytes :=
  fileOf (headerWrites numTables) ++ (images.map TableImage.bytes).flatten

theorem fileOf_writes (numTables : UInt32) (images : List TableImage) :
    fileOf (headerWrites numTables ++
      (images.map TableImage.writes).flatten) =
        configFile numTables images := by
  simp only [fileOf, configFile, List.flatten_append]
  congr 1
  induction images with
  | nil => rfl
  | cons image rest ih =>
      simp only [List.map_cons, List.flatten_cons, List.flatten_append, ih]
      rfl

theorem configFile_length (numTables : UInt32) (images : List TableImage) :
    (configFile numTables images).length =
      contentSize + contentTableSize * images.length := by
  rw [configFile, List.length_append, header_length,
    flatten_map_length TableImage.bytes_length]

section WholeFiles

variable (numTables : UInt32) {images : List TableImage} {table : ℕ}
  {image : TableImage} (himage : images[table]? = some image)

include himage

theorem configFile_slice_table :
    slice (tableOffset table) contentTableSize (configFile numTables images) =
      some image.bytes := by
  have hoffset : tableOffset table - (fileOf (headerWrites numTables)).length
      = contentTableSize * table := by
    rw [header_length, tableOffset, Nat.add_sub_cancel_left]
  unfold configFile
  rw [slice_append_right _ _ (by rw [header_length, tableOffset]; omega),
    hoffset]
  exact slice_flatten_map TableImage.bytes_length himage

theorem configFile_slice_inside {offset len : ℕ} {part : Bytes}
    (hpart : slice offset len image.bytes = some part) :
    slice (tableOffset table + offset) len (configFile numTables images) =
      some part := by
  have hbound : offset + len ≤ contentTableSize := by
    rw [← image.bytes_length]
    exact (slice_eq_some_iff.mp hpart).1
  rw [slice_slice (configFile_slice_table numTables himage) hbound, hpart]

theorem tableNumBackends_configFile :
    tableNumBackends (configFile numTables images) table =
      some image.numBackends := by
  rw [tableNumBackends, readU32, ← Nat.add_zero (tableOffset table),
    configFile_slice_inside numTables himage image.slice_numBackends]
  simp

theorem tableNumBinds_configFile :
    tableNumBinds (configFile numTables images) table =
      some image.numBinds := by
  rw [tableNumBinds, readU32,
    configFile_slice_inside numTables himage image.slice_numBinds]
  simp

theorem slice_backend_configFile {index : ℕ} {entry : BackendEntry}
    (hentry : image.backends[index]? = some entry) :
    slice (backendOffset table index) contentBackendSize
      (configFile numTables images) = some entry.write :=
  configFile_slice_inside numTables himage (image.slice_backend hentry)

theorem slice_bind_configFile {index : ℕ} {entry : BindEntry}
    (hentry : image.binds[index]? = some entry) :
    slice (bindOffset table index) contentBindSize
      (configFile numTables images) = some entry.write :=
  configFile_slice_inside numTables himage (image.slice_bind hentry)

theorem tableBackend_configFile {index : ℕ} {entry : BackendEntry}
    (hentry : image.backends[index]? = some entry) :
    tableBackend (configFile numTables images) table index =
      some entry.view := by
  rw [tableBackend, slice_backend_configFile numTables himage hentry,
    Option.map_some, decodeBackend_write]

theorem tableBind_configFile {index : ℕ} {entry : BindEntry}
    (hentry : image.binds[index]? = some entry) :
    tableBind (configFile numTables images) table index =
      some entry.view := by
  rw [tableBind, slice_bind_configFile numTables himage hentry,
    Option.map_some, decodeBind_write]

theorem readU32_backend_configFile {index : ℕ} {entry : BackendEntry}
    (hentry : image.backends[index]? = some entry) :
    readU32 (backendOffset table index) (configFile numTables images) =
      some entry.inetFamily := by
  have hslice := slice_backend_configFile numTables himage hentry
  have hread := readU32_slice hslice (show 0 + 4 ≤ _ by decide)
  rw [Nat.add_zero] at hread
  rw [hread, readU32, BackendEntry.write, slice_first _ _ (u32le_length _),
    Option.map_some, wordU32_u32le]

theorem readU32_bind_configFile {index : ℕ} {entry : BindEntry}
    (hentry : image.binds[index]? = some entry) :
    readU32 (bindOffset table index) (configFile numTables images) =
      some entry.inetFamily := by
  have hslice := slice_bind_configFile numTables himage hentry
  have hread := readU32_slice hslice (show 0 + 4 ≤ _ by decide)
  rw [Nat.add_zero] at hread
  rw [hread, readU32, BindEntry.write, slice_first _ _ (u32le_length _),
    Option.map_some, wordU32_u32le]

theorem readU8_bind_configFile {index : ℕ} {entry : BindEntry}
    (hentry : image.binds[index]? = some entry) :
    readU8 (bindOffset table index + 26) (configFile numTables images) =
      some entry.ipproto := by
  have hslice := slice_bind_configFile numTables himage hentry
  rw [readU8_slice hslice (by decide), readU8, BindEntry.write]
  simp [entry.ip.2]

theorem tableSecureKey_configFile :
    tableSecureKey (configFile numTables images) table =
      some image.hashKey.val :=
  configFile_slice_inside numTables himage image.slice_secureKey

theorem tableEntry_configFile {index : ℕ} {entry : TableEntry}
    (hentry : image.rows[index]? = some entry) :
    tableEntry (configFile numTables images) table index =
      some entry.view := by
  rw [tableEntry, entryOffset,
    configFile_slice_inside numTables himage (image.slice_entry hentry),
    Option.map_some, decodeEntry_write]

end WholeFiles

end GlbDirector
