import GlbDirector.CLibrary
import GlbDirector.ExceptLoops
import GlbDirector.SipHash

/-!
# The table builder (`cli/main.c`, `build-config`)

A run reads the JSON document table by table.  `parseTable` is everything
that can end the run early; `TableInput.image` is what one table then
writes.  The
array `sortable_backends` is declared once for the whole file and never
cleared, so it is threaded through the tables, and its contents before the
first table are a parameter, as is whatever an out-of-range read returns.
-/

namespace GlbDirector

open ByteCodec ExceptLoops

/-! ## Constants and records -/

def glbFamilyIpv4 : UInt32 := 1
def glbFamilyIpv6 : UInt32 := 2

def glbIpprotoUdp : UInt8 := 17
def glbIpprotoTcp : UInt8 := 6

def glbBackendHealthDown : UInt16 := 0
def glbBackendHealthUp : UInt16 := 1

def glbBackendStateFilling : UInt16 := 0
def glbBackendStateActive : UInt16 := 1
def glbBackendStateDrainingInactive : UInt16 := 2

def maxNumBackends : ℕ := 0x100
def maxNumBinds : ℕ := 0x100
def tableEntries : ℕ := 0x10000

structure BackendEntry where
  inetFamily : UInt32
  ip : ByteVec 16
  state : UInt16
  health : UInt16
  deriving DecidableEq

structure BindEntry where
  inetFamily : UInt32
  ip : ByteVec 16
  ipBits : UInt16
  portStart : UInt16
  portEnd : UInt16
  ipproto : UInt8
  reserved : UInt8
  deriving DecidableEq

structure TableEntry where
  primaryIdx : UInt32
  secondaryIdx : UInt32
  deriving DecidableEq

/-- `backend` is the offset of the `backend_entry *` in `out_backends`. -/
structure SortableBackend where
  index : UInt32
  hash : UInt64
  backend : ℕ
  deriving DecidableEq

def BackendEntry.zero : BackendEntry :=
  { inetFamily := 0, ip := ByteVec.zero 16, state := 0, health := 0 }

def BindEntry.zero : BindEntry :=
  { inetFamily := 0, ip := ByteVec.zero 16, ipBits := 0, portStart := 0,
    portEnd := 0, ipproto := 0, reserved := 0 }

def SortableBackend.zero : SortableBackend :=
  { index := 0, hash := 0, backend := 0 }

def sortableBackendCmp (a b : SortableBackend) : ℤ :=
  if a.hash < b.hash then -1 else if a.hash > b.hash then 1 else 0

/-- Stack contents that the run reads before it has written them, or past the
end of an array. -/
structure StackGarbage where
  sortable : List SortableBackend
  sortable_length : sortable.length = maxNumBackends
  /-- `byteval` on entry to the calls of `decodehex`, in order. -/
  byteval : ℕ → UInt32
  /-- `out_backends[idx]` past its end, per table and row, where it can be
  read. -/
  stray : ℕ → ℕ → UInt32 → BackendEntry

inductive BackendState where
  | filling
  | active
  | draining
  | inactive
  deriving DecidableEq, Repr

def BackendState.code : BackendState → UInt16
  | .filling => glbBackendStateFilling
  | .active => glbBackendStateActive
  | .draining => glbBackendStateDrainingInactive
  | .inactive => glbBackendStateDrainingInactive

/-! ## Exits with status 1 -/

inductive BuildError where
  | noTables
  | noBackends
  | badBackendIp
  | badBackendState
  | malformedIp
  | noBinds
  | badBindIp
  | badBindProtocol
  | badPort (port : ℤ)
  | badMask (requested bits : ℕ)
  | badProtocol
  | badHashKey
  | hashKeyLength
  | badSeed
  | seedLength
  deriving DecidableEq, Repr

def BuildError.message : BuildError → String
  | .noTables => "JSON config file must contain a 'tables' " ++
      "entry listing each forwarding table."
  | .noBackends => "No backends!"
  | .badBackendIp => "Bad backend IP!"
  | .badBackendState => "Bad backend state!"
  | .malformedIp => "Malformed backend IP"
  | .noBinds => "No binds!"
  | .badBindIp => "Bad bind IP!"
  | .badBindProtocol => "Bad bind protocol!"
  | .badPort port => "Bad port number: " ++ toString port ++ "!"
  | .badMask requested bits => "Mask bit size can't be " ++
      toString (toInt requested) ++ ", it's greater than " ++ toString bits
  | .badProtocol => "Bad protocol!"
  | .badHashKey => "Bad hash key!"
  | .hashKeyLength => "Hash key too short!"
  | .badSeed => "Bad seed!"
  | .seedLength => "Seed key too short!"

/-! ## Parsing -/

/-- An address as the `ip` unions hold it: the family and sixteen bytes, of
which an IPv4 address fills the first four. -/
inductive Address where
  | v4 (octets : ByteVec 4)
  | v6 (octets : ByteVec 16)
  deriving DecidableEq

def Address.family : Address → UInt32
  | .v4 _ => glbFamilyIpv4
  | .v6 _ => glbFamilyIpv6

def Address.bytes : Address → Bytes
  | .v4 octets => octets.val
  | .v6 octets => octets.val

def Address.union : Address → ByteVec 16
  | .v4 octets => ⟨octets.val ++ List.replicate 12 0, by simp [octets.2]⟩
  | .v6 octets => octets

def parseAddress (isIpv6 : Bool) (text : CString) : Option Address :=
  if isIpv6 then (inetPton6 text).map Address.v6
  else (inetPton4 text).map Address.v4

structure LoadedBackend where
  address : Address
  state : BackendState
  healthy : Bool
  deriving DecidableEq

def LoadedBackend.entry (backend : LoadedBackend) : BackendEntry where
  inetFamily := backend.address.family
  ip := backend.address.union
  state := backend.state.code
  health := if backend.healthy then glbBackendHealthUp
    else glbBackendHealthDown

def parseBackendState (text : CString) : Option BackendState :=
  if text = ascii "active" then some .active
  else if text = ascii "filling" then some .filling
  else if text = ascii "draining" then some .draining
  else if text = ascii "inactive" then some .inactive
  else none

def orExit {α : Type} (value : Option α) (error : BuildError) :
    Except BuildError α :=
  match value with
  | some result => .ok result
  | none => .error error

theorem orExit_eq_ok_iff {α : Type} {value : Option α} {error : BuildError}
    {result : α} :
    orExit value error = .ok result ↔ value = some result := by
  cases value <;> simp [orExit]

def parseBackend (backend : Json) : Except BuildError LoadedBackend := do
  let ip ← orExit (jsonStringValue (jsonObjectGet backend (ascii "ip")))
    .badBackendIp
  let stateText ← orExit
    (jsonStringValue (jsonObjectGet backend (ascii "state")))
    .badBackendState
  let healthy := jsonBooleanValue (jsonObjectGet backend (ascii "healthy"))
  let address ← orExit (parseAddress (ip.contains 58) ip) .malformedIp
  let state ← orExit (parseBackendState stateText) .badBackendState
  return { address, state, healthy }

/-- The two ends of the port range: one `port`, or `port_start` and
`port_end`, each read through `json_integer_value` into an `int`. -/
def bindPorts (bind : Json) : ℤ × ℤ :=
  match jsonObjectGet bind (ascii "port") with
  | some port =>
      (toInt (jsonIntegerValue port), toInt (jsonIntegerValue port))
  | none =>
      (toInt (jsonIntegerValue (jsonObjectGet bind (ascii "port_start"))),
        toInt (jsonIntegerValue (jsonObjectGet bind (ascii "port_end"))))

def checkPort (port : ℤ) : Except BuildError UInt16 :=
  if 0 ≤ port ∧ port ≤ 65535 then .ok (UInt16.ofNat port.toNat)
  else .error (.badPort port)

/-- The text before the first `/`, and the prefix length after it. -/
def parsePrefixLength (ip : CString) (bits : ℕ) :
    Except BuildError (CString × ℕ) :=
  match ip.dropWhile (· ≠ 47) with
  | [] => .ok (ip, bits)
  | _ :: suffix =>
      let requested := (atoi suffix % 2 ^ 32).toNat
      if requested > bits then .error (.badMask requested bits)
      else .ok (ip.takeWhile (· ≠ 47), requested)

inductive BindProtocol where
  | tcp
  | udp
  deriving DecidableEq, Repr

def BindProtocol.code : BindProtocol → UInt8
  | .tcp => glbIpprotoTcp
  | .udp => glbIpprotoUdp

def parseProtocol (text : CString) : Option BindProtocol :=
  if text = ascii "tcp" then some .tcp
  else if text = ascii "udp" then some .udp
  else none

structure LoadedBind where
  address : Address
  ipBits : UInt16
  portStart : UInt16
  portEnd : UInt16
  proto : BindProtocol
  deriving DecidableEq

def LoadedBind.entry (bind : LoadedBind) : BindEntry where
  inetFamily := bind.address.family
  ip := bind.address.union
  ipBits := bind.ipBits
  portStart := bind.portStart
  portEnd := bind.portEnd
  ipproto := bind.proto.code
  reserved := 0

def parseBind (bind : Json) : Except BuildError LoadedBind := do
  let ip ← orExit (jsonStringValue (jsonObjectGet bind (ascii "ip")))
    .badBindIp
  let protoText ← orExit
    (jsonStringValue (jsonObjectGet bind (ascii "proto")))
    .badBindProtocol
  let portStart ← checkPort (bindPorts bind).1
  let portEnd ← checkPort (bindPorts bind).2
  let isIpv6 := ip.contains 58
  let (host, ipBits) ← parsePrefixLength ip (if isIpv6 then 128 else 32)
  let address ← orExit (parseAddress isIpv6 host) .malformedIp
  let proto ← orExit (parseProtocol protoText) .badProtocol
  return { address, ipBits := UInt16.ofNat ipBits, portStart, portEnd, proto }

/-- The bytes of `decodehex`; `byteval` keeps its last value where the scan
assigns nothing. -/
def decodehexLoop : ℕ → UInt32 → CString → Bytes
  | 0, _, _ => []
  | len + 1, byteval, src =>
      let scanned := (sscanf2x src).getD byteval
      UInt8.ofNat scanned.toNat :: decodehexLoop len scanned (src.drop 2)

theorem decodehexLoop_length (len : ℕ) (byteval : UInt32) (src : CString) :
    (decodehexLoop len byteval src).length = len := by
  induction len generalizing byteval src with
  | zero => rfl
  | succ len ih => simp [decodehexLoop, ih]

def decodehex (byteval : UInt32) (src : CString) : ByteVec 16 :=
  ⟨decodehexLoop 16 byteval src, decodehexLoop_length 16 byteval src⟩

/-- The loop over the fixed number of slots: the first `limit` elements are
parsed, in order, and the first failure ends the run. -/
def parseUpTo {α β : Type} (parse : α → Except BuildError β) :
    (limit : ℕ) → (elements : List α) →
      Except BuildError
        { parsed : List β // parsed.length = min limit elements.length }
  | 0, _ => .ok ⟨[], by simp⟩
  | _ + 1, [] => .ok ⟨[], by simp⟩
  | limit + 1, element :: rest => do
      let head ← parse element
      let tail ← parseUpTo parse limit rest
      return ⟨head :: tail.val, by simp [tail.2]⟩

/-- A counted array of `limit` slots: the count as written, and the slots that
were filled. -/
structure Slots (limit : ℕ) (α : Type) where
  count : UInt32
  used : List α
  used_length : used.length = min limit count.toNat
  deriving DecidableEq

theorem take_count_length {α : Type} (elements : List α) :
    (elements.take (UInt32.ofNat elements.length).toNat).length =
      (UInt32.ofNat elements.length).toNat := by
  have hle := Nat.mod_le elements.length (2 ^ 32)
  rw [List.length_take, UInt32.toNat_ofNat']
  omega

def parseSlots {α : Type} (parse : Json → Except BuildError α) (limit : ℕ)
    (elements : List Json) : Except BuildError (Slots limit α) := do
  let count := UInt32.ofNat elements.length
  let parsed ← parseUpTo parse limit (elements.take count.toNat)
  return {
    count
    used := parsed.val
    used_length := by rw [parsed.2, take_count_length] }

/-- Everything one table takes from the JSON document. -/
structure TableInput where
  backends : Slots maxNumBackends LoadedBackend
  binds : Slots maxNumBinds LoadedBind
  hashKey : ByteVec 16
  seed : ByteVec 16

def parseKey (byteval : UInt32) (text : Option CString)
    (missing wrongLength : BuildError) : Except BuildError (ByteVec 16) := do
  let hex ← orExit text missing
  if hex.length ≠ 32 then .error wrongLength
  else return decodehex byteval hex

def parseTable (garbage : StackGarbage) (tableIndex : ℕ) (table : Json) :
    Except BuildError TableInput := do
  let backends ← orExit (jsonObjectGet table (ascii "backends")) .noBackends
  let loaded ← parseSlots parseBackend maxNumBackends
    (jsonArrayElements backends)
  let binds ← orExit (jsonObjectGet table (ascii "binds")) .noBinds
  let parsedBinds ← parseSlots parseBind maxNumBinds (jsonArrayElements binds)
  let hashKey ← parseKey (garbage.byteval (2 * tableIndex))
    (jsonStringValue (jsonObjectGet table (ascii "hash_key")))
    .badHashKey .hashKeyLength
  let seed ← parseKey (garbage.byteval (2 * tableIndex + 1))
    (jsonStringValue (jsonObjectGet table (ascii "seed")))
    .badSeed .seedLength
  return { backends := loaded, binds := parsedBinds, hashKey, seed }

/-! ## Rendezvous rows -/

/-- The unused slots of `out_backends` and of the binds are zero. -/
def padSlots {α : Type} (limit : ℕ) (zero : α) (used : List α) : List α :=
  used ++ List.replicate (limit - used.length) zero

theorem padSlots_length {α : Type} {limit : ℕ} {used : List α} (zero : α)
    (hused : used.length ≤ limit) :
    (padSlots limit zero used).length = limit := by
  simp only [padSlots, List.length_append, List.length_replicate]
  omega

theorem padSlots_getElem?_used {α : Type} {limit i : ℕ} {used : List α}
    {slot : α} (zero : α) (hslot : used[i]? = some slot) :
    (padSlots limit zero used)[i]? = some slot := by
  obtain ⟨hlt, _⟩ := List.getElem?_eq_some_iff.mp hslot
  rw [padSlots, List.getElem?_append_left hlt, hslot]

theorem padSlots_getElem?_unused {α : Type} {limit i : ℕ} {used : List α}
    (zero : α) (hunused : used.length ≤ i) (hlimit : i < limit) :
    (padSlots limit zero used)[i]? = some zero := by
  rw [padSlots, List.getElem?_append_right hunused,
    List.getElem?_replicate, if_pos (by omega)]

def TableInput.outBackends (input : TableInput) : List BackendEntry :=
  padSlots maxNumBackends .zero (input.backends.used.map LoadedBackend.entry)

def TableInput.outBinds (input : TableInput) : List BindEntry :=
  padSlots maxNumBinds .zero (input.binds.used.map LoadedBind.entry)

/-- Save each backend that is not inactive in the next free slot.  Only
`backend` and `index` are set; `hash` keeps what the slot held. -/
def fillSortable :
    ℕ → List LoadedBackend → ℕ → List SortableBackend →
      ℕ × List SortableBackend
  | _, [], numAvailable, sortable => (numAvailable, sortable)
  | i, backend :: rest, numAvailable, sortable =>
      if backend.state = .inactive then
        fillSortable (i + 1) rest numAvailable sortable
      else
        fillSortable (i + 1) rest (numAvailable + 1)
          (sortable.set numAvailable
            { sortable.getD numAvailable .zero with
              backend := i, index := UInt32.ofNat i })

/-- `htonl` of the row number, hashed under the seed. -/
def rowHash (seed : ByteVec 16) (ui : ℕ) : Bytes :=
  siphash (u32le (UInt32.ofNat ui)).reverse seed.val

def bswap64 (x : UInt64) : UInt64 := wordU64 (u64le x).reverse

def backendHash (seed : ByteVec 16) (ui : ℕ) (backend : BackendEntry) :
    UInt64 :=
  let data := rowHash seed ui ++ backend.ip.val
  let dataLen := if backend.inetFamily = glbFamilyIpv4 then 12 else 24
  bswap64 (wordU64 (siphash (data.take dataLen) seed.val))

abbrev BackendSort := Qsort SortableBackend sortableBackendCmp

theorem sortableBackendCmp_le_zero_iff (a b : SortableBackend) :
    sortableBackendCmp a b ≤ 0 ↔ a.hash.toNat ≤ b.hash.toNat := by
  simp only [sortableBackendCmp, gt_iff_lt, UInt64.lt_iff_toNat_lt]
  split
  · omega
  · split <;> omega

def hashLe (a b : SortableBackend) : Bool := a.hash.toNat ≤ b.hash.toNat

/-- A merge sort by hash is one such sort. -/
def mergeSortByHash : BackendSort where
  run elements := elements.mergeSort hashLe
  perm elements := List.mergeSort_perm elements hashLe
  sorted elements := by
    have htrans : ∀ a b c, hashLe a b → hashLe b c → hashLe a c := by
      intro a b c hab hbc
      simp only [hashLe, decide_eq_true_eq] at *
      omega
    have htotal : ∀ a b, (hashLe a b || hashLe b a) = true := by
      intro a b
      simp only [hashLe, Bool.or_eq_true, decide_eq_true_eq]
      omega
    have hsorted := List.pairwise_mergeSort htrans htotal elements
    refine hsorted.imp fun {a b} hle => ?_
    exact (sortableBackendCmp_le_zero_iff a b).mpr (by simpa [hashLe] using hle)

/-- Recompute the hashes of the available backends and sort them in place. -/
def rankRow (sort : BackendSort) (seed : ByteVec 16)
    (outBackends : List BackendEntry) (numAvailable ui : ℕ)
    (sortable : List SortableBackend) : List SortableBackend :=
  let hashed := (sortable.take numAvailable).map fun slot =>
    { slot with
      hash := backendHash seed ui (outBackends.getD slot.backend .zero) }
  sort.run hashed ++ sortable.drop numAvailable

def primaryBad (backend : BackendEntry) : Bool :=
  backend.state = glbBackendStateDrainingInactive ||
    backend.health ≠ glbBackendHealthUp

/-- The primary is swapped with the secondary when it is bad and the state of
the secondary compares equal to `GLB_BACKEND_HEALTH_UP`. -/
def swapPair (primary secondary : BackendEntry) : Bool :=
  primaryBad primary && secondary.state = glbBackendHealthUp

def emitRow (stray : UInt32 → BackendEntry)
    (outBackends : List BackendEntry) (sortable : List SortableBackend) :
    TableEntry :=
  let first := sortable.getD 0 .zero
  let second := sortable.getD 1 .zero
  let primary := outBackends.getD first.index.toNat (stray first.index)
  let secondary := outBackends.getD second.index.toNat (stray second.index)
  if swapPair primary secondary then
    { primaryIdx := second.index, secondaryIdx := first.index }
  else
    { primaryIdx := first.index, secondaryIdx := second.index }

/-- The sorted array after each row, from the array before the first. -/
def rankRows (sort : BackendSort) (seed : ByteVec 16)
    (outBackends : List BackendEntry) (numAvailable : ℕ) :
    List ℕ → List SortableBackend → List (List SortableBackend)
  | [], _ => []
  | ui :: rest, sortable =>
      let ranked := rankRow sort seed outBackends numAvailable ui sortable
      ranked :: rankRows sort seed outBackends numAvailable rest ranked

theorem rankRows_length (sort : BackendSort) (seed : ByteVec 16)
    (outBackends : List BackendEntry) (numAvailable : ℕ)
    (rows : List ℕ) (sortable : List SortableBackend) :
    (rankRows sort seed outBackends numAvailable rows sortable).length =
      rows.length := by
  induction rows generalizing sortable with
  | nil => rfl
  | cons ui rest ih => simp [rankRows, ih]

/-! ## Output -/

structure TableImage where
  numBackends : UInt32
  backends : List BackendEntry
  backends_length : backends.length = maxNumBackends
  numBinds : UInt32
  binds : List BindEntry
  binds_length : binds.length = maxNumBinds
  hashKey : ByteVec 16
  rows : List TableEntry
  rows_length : rows.length = tableEntries

/-- The sorted arrays of all rows of a table that finds `sortable` as the
earlier tables left it. -/
def TableInput.rankings (input : TableInput) (sort : BackendSort)
    (sortable : List SortableBackend) : List (List SortableBackend) :=
  let filled := fillSortable 0 input.backends.used 0 sortable
  rankRows sort input.seed input.outBackends filled.1
    (List.range tableEntries) filled.2

def TableInput.image (input : TableInput) (garbage : StackGarbage)
    (sort : BackendSort) (tableIndex : ℕ)
    (sortable : List SortableBackend) : TableImage where
  numBackends := input.backends.count
  backends := input.outBackends
  backends_length := padSlots_length _ (by simp [input.backends.used_length])
  numBinds := input.binds.count
  binds := input.outBinds
  binds_length := padSlots_length _ (by simp [input.binds.used_length])
  hashKey := input.hashKey
  rows := (input.rankings sort sortable).zipIdx.map fun ranked =>
    emitRow (garbage.stray tableIndex ranked.2) input.outBackends ranked.1
  rows_length := by simp [rankings, rankRows_length]

/-- The array as the last row of the table leaves it. -/
def TableInput.leftover (input : TableInput) (sort : BackendSort)
    (sortable : List SortableBackend) : List SortableBackend :=
  (input.rankings sort sortable).getLastD
    (fillSortable 0 input.backends.used 0 sortable).2

def BackendEntry.write (entry : BackendEntry) : Bytes :=
  u32le entry.inetFamily ++ (entry.ip.val ++
    (u16le entry.state ++ u16le entry.health))

def BindEntry.write (entry : BindEntry) : Bytes :=
  u32le entry.inetFamily ++ (entry.ip.val ++ (u16le entry.ipBits ++
    (u16le entry.portStart ++ (u16le entry.portEnd ++
      [entry.ipproto, entry.reserved]))))

def TableEntry.write (entry : TableEntry) : Bytes :=
  u32le entry.primaryIdx ++ u32le entry.secondaryIdx

/-- The `fwrite` calls of one table, in order. -/
def TableImage.writes (image : TableImage) : List Bytes :=
  [u32le image.numBackends,
    (image.backends.map BackendEntry.write).flatten,
    u32le image.numBinds] ++
  (image.binds.map BindEntry.write ++
    (image.hashKey.val :: image.rows.map TableEntry.write))

/-- The magic word and the file header. -/
def headerWrites (numTables : UInt32) : List Bytes :=
  [ascii "GLBD",
    u32le 2 ++ (u32le numTables ++ (u32le (UInt32.ofNat tableEntries) ++
      (u32le (UInt32.ofNat maxNumBackends) ++
        u32le (UInt32.ofNat maxNumBinds))))]

def buildTables (garbage : StackGarbage) (sort : BackendSort) :
    ℕ → List Json → List SortableBackend → Except BuildError (List TableImage)
  | _, [], _ => .ok []
  | tableIndex, table :: rest, sortable => do
      let input ← parseTable garbage tableIndex table
      let images ← buildTables garbage sort (tableIndex + 1) rest
        (input.leftover sort sortable)
      return input.image garbage sort tableIndex sortable :: images

/-- The `fwrite` calls of a run that exits with status 0, if no read past the
end of `out_backends` kills it. -/
def buildConfig (garbage : StackGarbage) (sort : BackendSort) (root : Json) :
    Except BuildError (List Bytes) := do
  let tables ← orExit (jsonObjectGet root (ascii "tables")) .noTables
  let images ← buildTables garbage sort 0 (jsonArrayElements tables)
    garbage.sortable
  return headerWrites (UInt32.ofNat (jsonArraySize tables)) ++
    (images.map TableImage.writes).flatten

/-! ## A small document -/

def zeroGarbage : StackGarbage where
  sortable := List.replicate maxNumBackends .zero
  sortable_length := by simp
  byteval := fun _ => 0
  stray := fun _ _ _ => .zero

def sampleBackend (ip state : String) (healthy : Bool) : Json :=
  .object [(ascii "ip", .string (ascii ip)),
    (ascii "state", .string (ascii state)),
    (ascii "healthy", .boolean healthy)]

def sampleBind : Json :=
  .object [(ascii "ip", .string (ascii "1.1.1.1")),
    (ascii "proto", .string (ascii "tcp")),
    (ascii "port", .integer 80)]

def sampleTable (backends : List Json) : Json :=
  .object [(ascii "hash_key",
      .string (ascii "12345678901234561234567890123456")),
    (ascii "seed", .string (ascii "34567890123456783456789012345678")),
    (ascii "binds", .array [sampleBind]),
    (ascii "backends", .array backends)]

def sampleRoot (tables : List Json) : Json :=
  .object [(ascii "tables", .array tables)]

def sampleInput (backends : Slots maxNumBackends LoadedBackend) :
    TableInput where
  backends := backends
  binds :=
    { count := 1
      used := [
        { address := .v4 ⟨[1, 1, 1, 1], rfl⟩
          ipBits := 32
          portStart := 80
          portEnd := 80
          proto := .tcp }]
      used_length := by decide }
  hashKey := ⟨[0x12, 0x34, 0x56, 0x78, 0x90, 0x12, 0x34, 0x56,
    0x12, 0x34, 0x56, 0x78, 0x90, 0x12, 0x34, 0x56], rfl⟩
  seed := ⟨[0x34, 0x56, 0x78, 0x90, 0x12, 0x34, 0x56, 0x78,
    0x34, 0x56, 0x78, 0x90, 0x12, 0x34, 0x56, 0x78], rfl⟩

theorem parseTable_sample {backends : List Json}
    {slots : Slots maxNumBackends LoadedBackend}
    (hslots : parseSlots parseBackend maxNumBackends backends = .ok slots)
    (garbage : StackGarbage) (tableIndex : ℕ) :
    parseTable garbage tableIndex (sampleTable backends) =
      .ok (sampleInput slots) := by
  have hbackends : orExit (jsonObjectGet (sampleTable backends)
      (ascii "backends")) .noBackends = .ok (.array backends) := rfl
  unfold parseTable
  rw [hbackends]
  show (parseSlots parseBackend maxNumBackends backends >>= _) = _
  rw [hslots]
  rfl

end GlbDirector
