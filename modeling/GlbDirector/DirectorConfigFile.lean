import GlbDirector.CLibrary
import GlbDirector.PacketParsing
import GlbDirector.ProcessorLoop
import GlbDirector.SafeRuns

/-!
# Loading the director configuration (`glb_director_config.c`)

The document fills arrays of fixed size.  The flow paths of an lcore, their
ids and the worker counts are checked, but the number of flow paths is not
compared with the size of their array, and the check of `work_source` lets the
first core number that is out of range pass.
-/

namespace GlbDirector

open ByteCodec SafeRuns

/-! ## Configurations -/

def maxFlowPaths : ℕ := 32

/-- The bits of `workloads`. -/
structure Workloads where
  rx : Bool
  tx : Bool
  dist : Bool
  work : Bool
  kni : Bool

/-- `glb_director_lcore_config` -/
structure LcoreEntry where
  workloads : Workloads
  numFlowPaths : ℕ
  flowPaths : Vector FlowPath maxFlowPaths
  numDistWorkers : UInt32
  sourceDistCore : UInt32

def noWorkloads : Workloads := ⟨false, false, false, false, false⟩

/-- As `memset` leaves it. -/
def LcoreEntry.zero : LcoreEntry where
  workloads := noWorkloads
  numFlowPaths := 0
  flowPaths := Vector.replicate maxFlowPaths default
  numDistWorkers := 0
  sourceDistCore := 0

/-- The fields before the flow paths. -/
structure ConfigHead where
  statsdPort : UInt16
  gatewayEtherAddr : ByteVec 6
  localIpAddr : ByteVec 4
  kniIp : ByteVec 4
  nbQueues : UInt8
  forwardIcmpPingResponses : Bool
  rxDropEn : Bool

structure GlbDirectorConfig (maxLcore : ℕ) where
  head : ConfigHead
  numFlowPaths : UInt32
  flowPaths : Vector FlowPath maxFlowPaths
  kniEnabled : Bool
  lcoreConfigs : Vector LcoreEntry maxLcore
  hashFields : HashFields
  useAltHashFields : Bool
  altHashFields : HashFields

inductive ConfigError where
  | gatewayMac
  | noGatewayMac
  | localIp
  | noLocalIp
  | kniIp
  | noFlowPaths
  | noLcores
  | tooManyFlowPaths (count : ℕ)
  | badFlowPathId (id : UInt32)
  | noDistWorkers
  | zeroDistWorkers
  | noWorkSource
  | badWorkSource
  | noField (name : String)

/-- The document is rejected, or memory outside an array is accessed. -/
inductive ConfigFault where
  | rejected (error : ConfigError)
  | outOfBounds

/-! ## Arrays -/

section Arrays

variable {α : Type} {n : ℕ}

def loadAt (array : Vector α n) (index : ℕ) : Except ConfigFault α :=
  if h : index < n then .ok array[index] else .error .outOfBounds

def storeAt (array : Vector α n) (index : ℕ) (value : α) :
    Except ConfigFault (Vector α n) :=
  if h : index < n then .ok (array.set index value)
  else .error .outOfBounds

end Arrays

def orReject {α : Type} (value : Option α) (error : ConfigError) :
    Except ConfigFault α :=
  match value with
  | some result => .ok result
  | none => .error (.rejected error)

/-! ## Parts of the document -/

def jsonIsTrue : Option Json → Bool
  | some (.boolean value) => value
  | _ => false

def jsonIsFalse : Option Json → Bool
  | some (.boolean value) => !value
  | _ => false

def jsonInteger? : Option Json → Option ℤ
  | some (.integer value) => some value
  | _ => none

def jsonIsNumber : Json → Bool
  | .integer _ => true
  | .real => true
  | _ => false

def statsdPortDefault : UInt16 := 28125

def loadKniIp (item : Option Json) : Except ConfigFault (ByteVec 4) :=
  match jsonStringValue item with
  | some text => orReject (inetPton4 text) .kniIp
  | none => .ok ⟨[0, 0, 0, 0], rfl⟩

/-- The statements before the flow paths; `parseEtheraddr` is
`cmdline_parse_etheraddr`. -/
def loadHead (parseEtheraddr : CString → Option (ByteVec 6))
    (root : Option Json) : Except ConfigFault ConfigHead := do
  let statsdPort :=
    match jsonInteger? (jsonObjectGet root (ascii "statsd_port")) with
    | some port => UInt16.ofInt port
    | none => statsdPortDefault
  let mac ← orReject
    (jsonStringValue (jsonObjectGet root (ascii "outbound_gateway_mac")))
    .noGatewayMac
  let gatewayEtherAddr ← orReject (parseEtheraddr mac) .gatewayMac
  let srcIp ← orReject
    (jsonStringValue (jsonObjectGet root (ascii "outbound_src_ip")))
    .noLocalIp
  let localIpAddr ← orReject (inetPton4 srcIp) .localIp
  let kniIp ← loadKniIp (jsonObjectGet root (ascii "kni_ip"))
  let nbQueues :=
    match jsonInteger? (jsonObjectGet root (ascii "num_worker_queues")) with
    | some count => UInt8.ofInt count
    | none => 1
  return {
    statsdPort, gatewayEtherAddr, localIpAddr, kniIp, nbQueues
    forwardIcmpPingResponses := !jsonIsFalse
      (jsonObjectGet root (ascii "forward_icmp_ping_responses"))
    rxDropEn := !jsonIsFalse (jsonObjectGet root (ascii "rx_drop_en")) }

def loadFlowPath (flowPath : Option Json) : FlowPath where
  rxPortId := toInt (jsonIntegerValue (jsonObjectGet flowPath (ascii "rx_port")))
  rxQueueId :=
    toInt (jsonIntegerValue (jsonObjectGet flowPath (ascii "rx_queue")))
  txPortId := toInt (jsonIntegerValue (jsonObjectGet flowPath (ascii "tx_port")))
  txQueueId :=
    toInt (jsonIntegerValue (jsonObjectGet flowPath (ascii "tx_queue")))

/-- The loop over `flow_paths`. -/
def loadFlowPaths (elements : List Json) (numFlowPaths : ℕ) :
    Except ConfigFault (Vector FlowPath maxFlowPaths) :=
  (List.range numFlowPaths).foldlM
    (fun flowPaths f => storeAt flowPaths f (loadFlowPath elements[f]?))
    (Vector.replicate maxFlowPaths default)

/-- The numbers of an array, at most `maxOut` of them. -/
def jsonIntArrayToC : List Json → (maxOut : ℕ) → List UInt32
  | [], _ => []
  | _ :: _, 0 => []
  | value :: rest, maxOut + 1 =>
      if jsonIsNumber value then
        UInt32.ofInt (jsonIntegerValue (some value)) ::
          jsonIntArrayToC rest maxOut
      else jsonIntArrayToC rest (maxOut + 1)

def loadWorkloads (core : Json) : Workloads where
  rx := jsonIsTrue (jsonObjectGet core (ascii "rx"))
  tx := jsonIsTrue (jsonObjectGet core (ascii "tx"))
  dist := jsonIsTrue (jsonObjectGet core (ascii "dist"))
  work := jsonIsTrue (jsonObjectGet core (ascii "work"))
  kni := jsonIsTrue (jsonObjectGet core (ascii "kni"))

/-- One pass of the loop that validates the ids of an lcore and copies their
flow paths. -/
def copyFlowPath (numFlowPaths : UInt32)
    (flowPaths : Vector FlowPath maxFlowPaths)
    (copied : Vector FlowPath maxFlowPaths) (slot : UInt32 × ℕ) :
    Except ConfigFault (Vector FlowPath maxFlowPaths) :=
  if slot.1 ≥ numFlowPaths then .error (.rejected (.badFlowPathId slot.1))
  else do
    let flowPath ← loadAt flowPaths slot.1.toNat
    storeAt copied slot.2 flowPath

/-- The part for cores that receive or send. -/
def loadLcoreFlowPaths (numFlowPaths : UInt32)
    (flowPaths : Vector FlowPath maxFlowPaths) (core : Json)
    (entry : LcoreEntry) : Except ConfigFault LcoreEntry :=
  let item := jsonObjectGet core (ascii "flow_paths")
  if !(entry.workloads.rx || entry.workloads.tx) then .ok entry
  else if jsonArraySize item > perCoreMaxFlowPaths then
    .error (.rejected (.tooManyFlowPaths (jsonArraySize item)))
  else do
    let flowPathIds :=
      jsonIntArrayToC (jsonArrayElements item) perCoreMaxFlowPaths
    let copied ← flowPathIds.zipIdx.foldlM
      (copyFlowPath numFlowPaths flowPaths) entry.flowPaths
    return { entry with
      numFlowPaths := flowPathIds.length, flowPaths := copied }

/-- The part for distributors. -/
def loadDistWorkers (core : Json) (entry : LcoreEntry) :
    Except ConfigFault LcoreEntry :=
  if !entry.workloads.dist then .ok entry
  else do
    let val ← orReject (jsonObjectGet core (ascii "num_dist_workers"))
      .noDistWorkers
    let numDistWorkers := UInt32.ofInt (jsonIntegerValue (some val))
    if numDistWorkers < 1 then .error (.rejected .zeroDistWorkers)
    else return { entry with numDistWorkers := numDistWorkers }

/-- The part for workers. -/
def loadWorkSource (maxLcore : ℕ) (core : Json) (entry : LcoreEntry) :
    Except ConfigFault LcoreEntry :=
  if !entry.workloads.work then .ok entry
  else do
    let val ← orReject (jsonObjectGet core (ascii "work_source")) .noWorkSource
    let sourceDistCore := UInt32.ofInt (jsonIntegerValue (some val))
    if sourceDistCore.toNat > maxLcore then .error (.rejected .badWorkSource)
    else return { entry with sourceDistCore := sourceDistCore }

def loadLcore (maxLcore : ℕ) (numFlowPaths : UInt32)
    (flowPaths : Vector FlowPath maxFlowPaths) (core : Json)
    (entry : LcoreEntry) : Except ConfigFault LcoreEntry := do
  let entry ← loadLcoreFlowPaths numFlowPaths flowPaths core
    { entry with workloads := loadWorkloads core }
  let entry ← loadDistWorkers core entry
  loadWorkSource maxLcore core entry

/-- One pass of the loop over the cores; `kni_enabled` is passed on. -/
def loadLcoreAt (maxLcore : ℕ) (numFlowPaths : UInt32)
    (flowPaths : Vector FlowPath maxFlowPaths) (lcores : Json)
    (loaded : Bool × Vector LcoreEntry maxLcore) (c : ℕ) :
    Except ConfigFault (Bool × Vector LcoreEntry maxLcore) :=
  match jsonObjectGet lcores (ascii ("lcore-" ++ toString c)) with
  | none => pure loaded
  | some core => do
      let entry ← loadAt loaded.2 c
      let entry ← loadLcore maxLcore numFlowPaths flowPaths core entry
      let entries ← storeAt loaded.2 c entry
      return (loaded.1 || entry.workloads.kni, entries)

def loadLcores (maxLcore : ℕ) (numFlowPaths : UInt32)
    (flowPaths : Vector FlowPath maxFlowPaths) (lcores : Json) :
    Except ConfigFault (Bool × Vector LcoreEntry maxLcore) :=
  (List.range maxLcore).foldlM
    (loadLcoreAt maxLcore numFlowPaths flowPaths lcores)
    (false, Vector.replicate maxLcore .zero)

def parseHashFields (fieldName : String) (cfg : Json) :
    Except ConfigFault HashFields :=
  let out : HashFields :=
    { srcAddr := jsonIsTrue (jsonObjectGet cfg (ascii "src_addr"))
      dstAddr := jsonIsTrue (jsonObjectGet cfg (ascii "dst_addr"))
      srcPort := jsonIsTrue (jsonObjectGet cfg (ascii "src_port"))
      dstPort := jsonIsTrue (jsonObjectGet cfg (ascii "dst_port")) }
  if out.any then .ok out else .error (.rejected (.noField fieldName))

/-- As `memset` leaves them. -/
def clearedHashFields : HashFields := ⟨false, false, false, false⟩

def sourceHashFields : HashFields := ⟨true, false, false, false⟩

def loadHashFields (fieldName : String) (default : HashFields) :
    Option Json → Except ConfigFault HashFields
  | none => .ok default
  | some cfg => parseHashFields fieldName cfg

/-- `num_flow_paths`, a 32-bit field. -/
def numFlowPathsOf (flowPaths : Option Json) : UInt32 :=
  UInt32.ofNat (jsonArraySize flowPaths)

/-- `glb_director_config_load_file` on a document; `maxLcore` is
`RTE_MAX_LCORE`. -/
def glbDirectorConfigLoadFile
    (parseEtheraddr : CString → Option (ByteVec 6)) (maxLcore : ℕ)
    (root : Json) : Except ConfigFault (GlbDirectorConfig maxLcore) := do
  let head ← loadHead parseEtheraddr root
  let flowPathsNode ← orReject (jsonObjectGet root (ascii "flow_paths"))
    .noFlowPaths
  let numFlowPaths := numFlowPathsOf flowPathsNode
  let flowPaths ← loadFlowPaths (jsonArrayElements flowPathsNode)
    numFlowPaths.toNat
  let lcores ← orReject (jsonObjectGet root (ascii "lcores")) .noLcores
  let loaded ← loadLcores maxLcore numFlowPaths flowPaths lcores
  let hashFields ← loadHashFields "hash_fields" sourceHashFields
    (jsonObjectGet root (ascii "hash_fields"))
  let alt := jsonObjectGet root (ascii "alt_hash_fields")
  let altHashFields ← loadHashFields "alt_hash_fields" clearedHashFields alt
  return {
    head, numFlowPaths, flowPaths, hashFields, altHashFields
    kniEnabled := loaded.1
    lcoreConfigs := loaded.2
    useAltHashFields := alt.isSome }

/-! ## Accesses inside the arrays -/

def ConfigFault.IsFault (fault : ConfigFault) : Prop := fault = .outOfBounds

section Accesses

variable {α : Type} {n : ℕ} {fault : ConfigFault → Prop}

theorem safe_loadAt (array : Vector α n) {index : ℕ} (hindex : index < n) :
    Safe fault (loadAt array index) fun value => array[index]? = some value := by
  rw [loadAt, dif_pos hindex]
  exact Vector.getElem?_eq_getElem hindex

theorem safe_storeAt (array : Vector α n) {index : ℕ} (hindex : index < n)
    (value : α) :
    Safe fault (storeAt array index value) fun stored =>
      stored = array.set index value := by
  rw [storeAt, dif_pos hindex]
  exact rfl

theorem storeAt_outOfBounds (array : Vector α n) {index : ℕ} (hindex : n ≤ index)
    (value : α) : storeAt array index value = .error .outOfBounds :=
  dif_neg (Nat.not_lt.mpr hindex)

theorem safe_reject (error : ConfigError) (post : α → Prop) :
    Safe ConfigFault.IsFault (.error (.rejected error)) post := by
  intro hfault
  cases hfault

theorem safe_orReject (value : Option α) (error : ConfigError) :
    Safe ConfigFault.IsFault (orReject value error) fun result =>
      value = some result := by
  cases value with
  | none => exact safe_reject error _
  | some result => exact rfl

end Accesses

/-! ## The flow paths -/

theorem loadFlowPaths_inside (elements : List Json) {numFlowPaths : ℕ}
    (hnum : numFlowPaths ≤ maxFlowPaths) :
    ∃ flowPaths, loadFlowPaths elements numFlowPaths = .ok flowPaths := by
  have hsafe : Safe (fun _ => True) (loadFlowPaths elements numFlowPaths)
      fun _ => True := by
    apply Safe.foldlM (fun _ _ => True) trivial
    intro front f flowPaths hfront _
    have hf : f ∈ List.range numFlowPaths :=
      hfront.subset (List.mem_append_right front (List.mem_singleton.mpr rfl))
    have hlt := List.mem_range.mp hf
    apply (safe_storeAt flowPaths (by omega) _).strengthen
    exact fun _ _ _ => trivial
  obtain ⟨flowPaths, hload, _⟩ := hsafe.exists_ok
  exact ⟨flowPaths, hload⟩

/-- The first flow path beyond the array is written outside it. -/
theorem loadFlowPaths_outside (elements : List Json) {numFlowPaths : ℕ}
    (hnum : maxFlowPaths < numFlowPaths) :
    loadFlowPaths elements numFlowPaths = .error .outOfBounds := by
  induction numFlowPaths, hnum using Nat.le_induction with
  | base =>
      obtain ⟨flowPaths, hfull⟩ := loadFlowPaths_inside elements
        (le_refl maxFlowPaths)
      unfold loadFlowPaths at hfull ⊢
      rw [List.range_succ, List.foldlM_append, hfull]
      show (storeAt flowPaths maxFlowPaths
        (loadFlowPath elements[maxFlowPaths]?) >>= pure) = _
      rw [storeAt_outOfBounds flowPaths le_rfl]
      rfl
  | succ numFlowPaths hnum ih =>
      unfold loadFlowPaths at ih ⊢
      rw [List.range_succ, List.foldlM_append, ih]
      rfl

/-! ## The flow paths of an lcore -/

theorem jsonIntArrayToC_length_le (elements : List Json) (maxOut : ℕ) :
    (jsonIntArrayToC elements maxOut).length ≤ maxOut := by
  induction elements generalizing maxOut with
  | nil => exact Nat.zero_le maxOut
  | cons value rest ih =>
      cases maxOut with
      | zero => exact le_rfl
      | succ maxOut =>
          unfold jsonIntArrayToC
          split
          · exact Nat.succ_le_succ (ih maxOut)
          · exact ih (maxOut + 1)

/-- Each pass over a numbered list finds the number of the passes before. -/
theorem index_of_zipIdx_prefix {α : Type} {l : List α}
    {front : List (α × ℕ)} {slot : α × ℕ}
    (hfront : front ++ [slot] <+: l.zipIdx) :
    slot.2 = front.length ∧ front.length < l.length := by
  obtain ⟨rest, hrest⟩ := hfront
  have hget : l.zipIdx[front.length]? = some slot := by
    rw [← hrest]
    simp
  rw [List.getElem?_zipIdx, Option.map_eq_some_iff] at hget
  obtain ⟨a, ha, rfl⟩ := hget
  exact ⟨Nat.zero_add _, (List.getElem?_eq_some_iff.mp ha).1⟩

section Paths

variable (numFlowPaths : UInt32) (flowPaths : Vector FlowPath maxFlowPaths)

/-- The first `count` flow paths are copies of configured ones. -/
def CopiedPaths (copied : Vector FlowPath maxFlowPaths) (count : ℕ) : Prop :=
  ∀ f < count, ∃ id < numFlowPaths.toNat, ∃ path,
    copied[f]? = some path ∧ flowPaths[id]? = some path

structure LcoreEntry.PathsBounded (entry : LcoreEntry) : Prop where
  hcount : entry.numFlowPaths ≤ maxFlowPaths
  hpaths : CopiedPaths numFlowPaths flowPaths entry.flowPaths
    entry.numFlowPaths

variable {numFlowPaths flowPaths}

theorem safe_copyFlowPath (hnum : numFlowPaths.toNat ≤ maxFlowPaths)
    {copied : Vector FlowPath maxFlowPaths} (id : UInt32) {count : ℕ}
    (hcount : count < maxFlowPaths)
    (hcopied : CopiedPaths numFlowPaths flowPaths copied count) :
    Safe ConfigFault.IsFault
      (copyFlowPath numFlowPaths flowPaths copied (id, count))
      fun copied => CopiedPaths numFlowPaths flowPaths copied (count + 1) := by
  unfold copyFlowPath
  apply Safe.ite
  · intro _
    exact safe_reject _ _
  · intro hid
    have hlt : id.toNat < numFlowPaths.toNat := by
      simpa [UInt32.le_iff_toNat_le] using hid
    apply Safe.bind (safe_loadAt flowPaths (hlt.trans_le hnum))
    intro path hpath
    apply (safe_storeAt copied hcount path).strengthen
    rintro _ _ rfl f hf
    rcases Nat.lt_succ_iff_lt_or_eq.mp hf with hlt' | rfl
    · obtain ⟨id', hid', path', hpath', hconfigured⟩ := hcopied f hlt'
      refine ⟨id', hid', path', ?_, hconfigured⟩
      rw [Vector.getElem?_set_ne _ (Nat.ne_of_gt hlt')]
      exact hpath'
    · exact ⟨id.toNat, hlt, path, Vector.getElem?_set_self hcount, hpath⟩

theorem safe_loadLcoreFlowPaths (hnum : numFlowPaths.toNat ≤ maxFlowPaths)
    (core : Json) {entry : LcoreEntry}
    (hentry : entry.PathsBounded numFlowPaths flowPaths) :
    Safe ConfigFault.IsFault
      (loadLcoreFlowPaths numFlowPaths flowPaths core entry) fun loaded =>
        loaded.PathsBounded numFlowPaths flowPaths ∧
          loaded.workloads = entry.workloads := by
  unfold loadLcoreFlowPaths
  apply Safe.ite
  · intro _
    exact ⟨hentry, rfl⟩
  intro _
  apply Safe.ite
  · intro _
    exact safe_reject _ _
  intro _
  have hids := jsonIntArrayToC_length_le
    (jsonArrayElements (jsonObjectGet core (ascii "flow_paths")))
    perCoreMaxFlowPaths
  generalize jsonIntArrayToC _ _ = flowPathIds at hids
  have hcopied : Safe ConfigFault.IsFault
      (flowPathIds.zipIdx.foldlM (copyFlowPath numFlowPaths flowPaths)
        entry.flowPaths)
      fun copied => CopiedPaths numFlowPaths flowPaths copied
        flowPathIds.zipIdx.length := by
    apply Safe.foldlM fun front copied =>
      CopiedPaths numFlowPaths flowPaths copied front.length
    · intro f hf
      cases hf
    · rintro front ⟨id, f⟩ copied hfront hcopied
      obtain ⟨hf, hlt⟩ := index_of_zipIdx_prefix hfront
      have hmax : front.length < maxFlowPaths := hlt.trans_le hids
      obtain rfl : f = front.length := hf
      rw [List.length_append, List.length_singleton]
      exact safe_copyFlowPath hnum id hmax hcopied
  apply Safe.bind hcopied
  intro copied hcopied
  rw [List.length_zipIdx] at hcopied
  exact ⟨⟨hids, hcopied⟩, rfl⟩

end Paths

/-! ## An lcore -/

/-- What the checks of the loader make sure of for an lcore. -/
structure LcoreEntry.Checked (maxLcore : ℕ) (numFlowPaths : UInt32)
    (flowPaths : Vector FlowPath maxFlowPaths) (entry : LcoreEntry) :
    Prop where
  hpaths : entry.PathsBounded numFlowPaths flowPaths
  hdist : entry.workloads.dist = true → 1 ≤ entry.numDistWorkers.toNat
  hwork : entry.workloads.work = true → entry.sourceDistCore.toNat ≤ maxLcore

theorem LcoreEntry.checked_zero (maxLcore : ℕ) (numFlowPaths : UInt32)
    (flowPaths : Vector FlowPath maxFlowPaths) :
    LcoreEntry.zero.Checked maxLcore numFlowPaths flowPaths where
  hpaths := ⟨Nat.zero_le _, nofun⟩
  hdist := nofun
  hwork := nofun

/-- `work_source` as it is stored. -/
def workSourceOf (core : Json) : UInt32 :=
  UInt32.ofInt (jsonIntegerValue (jsonObjectGet core (ascii "work_source")))

/-- The entry has the workloads and the source of the core. -/
structure LcoreEntry.LoadedFrom (core : Json) (entry : LcoreEntry) :
    Prop where
  hworkloads : entry.workloads = loadWorkloads core
  hsource : entry.workloads.work = true →
    entry.sourceDistCore = workSourceOf core

theorem safe_loadDistWorkers (core : Json) (entry : LcoreEntry) :
    Safe ConfigFault.IsFault (loadDistWorkers core entry) fun loaded =>
      ∃ count : UInt32, (entry.workloads.dist = true → 1 ≤ count.toNat) ∧
        loaded = { entry with numDistWorkers := count } := by
  unfold loadDistWorkers
  apply Safe.ite
  · intro hnone
    refine ⟨entry.numDistWorkers, fun hdist => ?_, rfl⟩
    simp [hdist] at hnone
  intro _
  apply Safe.bind (safe_orReject _ _)
  intro val _
  apply Safe.ite
  · intro _
    exact safe_reject _ _
  · intro hcount
    refine ⟨_, fun _ => ?_, rfl⟩
    rw [UInt32.lt_iff_toNat_lt] at hcount
    exact Nat.le_of_not_lt hcount

theorem safe_loadWorkSource (maxLcore : ℕ) (core : Json) (entry : LcoreEntry) :
    Safe ConfigFault.IsFault (loadWorkSource maxLcore core entry) fun loaded =>
      ∃ source : UInt32,
        (entry.workloads.work = true →
          source.toNat ≤ maxLcore ∧ source = workSourceOf core) ∧
        loaded = { entry with sourceDistCore := source } := by
  unfold loadWorkSource
  apply Safe.ite
  · intro hnone
    refine ⟨entry.sourceDistCore, fun hwork => ?_, rfl⟩
    simp [hwork] at hnone
  intro _
  apply Safe.bind (safe_orReject _ _)
  intro val hval
  apply Safe.ite
  · intro _
    exact safe_reject _ _
  · intro hsource
    refine ⟨_, fun _ => ⟨Nat.le_of_not_gt hsource, ?_⟩, rfl⟩
    rw [workSourceOf, hval]

/-- `json_object_get` with the name of the core. -/
def lcoreOf (lcores : Json) (c : ℕ) : Option Json :=
  jsonObjectGet lcores (ascii ("lcore-" ++ toString c))

/-- The array after the passes over `cores`: an entry is as `memset` left it,
or it is loaded from the document and checked. -/
def LcoresLoaded (maxLcore : ℕ) (numFlowPaths : UInt32)
    (flowPaths : Vector FlowPath maxFlowPaths) (lcores : Json)
    (cores : List ℕ) (entries : Vector LcoreEntry maxLcore) : Prop :=
  ∀ (c : ℕ) (entry : LcoreEntry), entries[c]? = some entry →
    entry = .zero ∧ (c ∈ cores → lcoreOf lcores c = none) ∨
    ∃ core, lcoreOf lcores c = some core ∧ entry.LoadedFrom core ∧
      entry.Checked maxLcore numFlowPaths flowPaths

section Loaded

variable {maxLcore : ℕ} {numFlowPaths : UInt32}
  {flowPaths : Vector FlowPath maxFlowPaths} {lcores : Json}
  {cores : List ℕ} {entries : Vector LcoreEntry maxLcore}
  (hloaded : LcoresLoaded maxLcore numFlowPaths flowPaths lcores cores entries)

include hloaded

theorem LcoresLoaded.checked {c : ℕ} {entry : LcoreEntry}
    (hentry : entries[c]? = some entry) :
    entry.Checked maxLcore numFlowPaths flowPaths := by
  rcases hloaded c entry hentry with ⟨rfl, _⟩ | ⟨_, _, _, hchecked⟩
  · exact LcoreEntry.checked_zero maxLcore numFlowPaths flowPaths
  · exact hchecked

theorem LcoresLoaded.worker {c : ℕ} {entry : LcoreEntry}
    (hentry : entries[c]? = some entry)
    (hwork : entry.workloads.work = true) :
    ∃ core, lcoreOf lcores c = some core ∧
      jsonIsTrue (jsonObjectGet core (ascii "work")) = true ∧
      entry.sourceDistCore = workSourceOf core := by
  rcases hloaded c entry hentry with ⟨rfl, _⟩ | ⟨core, hcore, hfrom, _⟩
  · cases hwork
  · refine ⟨core, hcore, ?_, hfrom.hsource hwork⟩
    rw [hfrom.hworkloads] at hwork
    exact hwork

theorem LcoresLoaded.entry {c : ℕ} (hc : c < maxLcore) (hpassed : c ∈ cores)
    {core : Json} (hcore : lcoreOf lcores c = some core) :
    ∃ entry, entries[c]? = some entry ∧ entry.LoadedFrom core := by
  have hentry : entries[c]? = some entries[c] :=
    Vector.getElem?_eq_getElem hc
  refine ⟨entries[c], hentry, ?_⟩
  rcases hloaded c _ hentry with ⟨_, hnone⟩ | ⟨other, hother, hfrom, _⟩
  · rw [hnone hpassed] at hcore
    cases hcore
  · obtain rfl := Option.some.inj (hcore.symm.trans hother)
    exact hfrom

/-- The pass over a core that the document does not have. -/
theorem LcoresLoaded.skip {c : ℕ} (hcore : lcoreOf lcores c = none) :
    LcoresLoaded maxLcore numFlowPaths flowPaths lcores (cores ++ [c])
      entries := by
  intro c' entry hentry
  refine (hloaded c' entry hentry).imp_left fun hzero =>
    ⟨hzero.1, fun hmem => ?_⟩
  rcases List.mem_append.mp hmem with hpassed | hlast
  · exact hzero.2 hpassed
  · rw [List.mem_singleton.mp hlast]
    exact hcore

/-- The pass over a core that it has. -/
theorem LcoresLoaded.set {c : ℕ} (hc : c < maxLcore) {core : Json}
    (hcore : lcoreOf lcores c = some core) {loaded : LcoreEntry}
    (hfrom : loaded.LoadedFrom core)
    (hchecked : loaded.Checked maxLcore numFlowPaths flowPaths) :
    LcoresLoaded maxLcore numFlowPaths flowPaths lcores (cores ++ [c])
      (entries.set c loaded) := by
  intro c' entry hentry
  by_cases heq : c' = c
  · subst heq
    rw [Vector.getElem?_set_self hc] at hentry
    cases hentry
    exact .inr ⟨core, hcore, hfrom, hchecked⟩
  · rw [Vector.getElem?_set_ne _ (Ne.symm heq)] at hentry
    refine (hloaded c' entry hentry).imp_left fun hzero =>
      ⟨hzero.1, fun hmem => ?_⟩
    rcases List.mem_append.mp hmem with hpassed | hlast
    · exact hzero.2 hpassed
    · exact absurd (List.mem_singleton.mp hlast) heq

end Loaded

section Cores

variable {maxLcore : ℕ} {numFlowPaths : UInt32}
  {flowPaths : Vector FlowPath maxFlowPaths}
  (hnum : numFlowPaths.toNat ≤ maxFlowPaths)

include hnum

theorem safe_loadLcore (core : Json) {entry : LcoreEntry}
    (hentry : entry.Checked maxLcore numFlowPaths flowPaths) :
    Safe ConfigFault.IsFault
      (loadLcore maxLcore numFlowPaths flowPaths core entry) fun loaded =>
        loaded.LoadedFrom core ∧
          loaded.Checked maxLcore numFlowPaths flowPaths := by
  have hpaths : ({ entry with workloads := loadWorkloads core } :
      LcoreEntry).PathsBounded numFlowPaths flowPaths :=
    ⟨hentry.hpaths.hcount, hentry.hpaths.hpaths⟩
  apply Safe.bind (safe_loadLcoreFlowPaths hnum core hpaths)
  rintro entry₁ ⟨hpaths₁, hworkloads⟩
  apply Safe.bind (safe_loadDistWorkers core entry₁)
  rintro entry₂ ⟨count, hcount, rfl⟩
  apply (safe_loadWorkSource maxLcore core _).strengthen
  rintro entry₃ _ ⟨source, hsource, rfl⟩
  exact ⟨⟨hworkloads, fun hwork => (hsource hwork).2⟩,
    ⟨hpaths₁.hcount, hpaths₁.hpaths⟩, hcount,
    fun hwork => (hsource hwork).1⟩

theorem safe_loadLcoreAt {lcores : Json} {cores : List ℕ}
    {loaded : Bool × Vector LcoreEntry maxLcore} {c : ℕ} (hc : c < maxLcore)
    (hloaded : LcoresLoaded maxLcore numFlowPaths flowPaths lcores cores
      loaded.2) :
    Safe ConfigFault.IsFault
      (loadLcoreAt maxLcore numFlowPaths flowPaths lcores loaded c)
      fun loaded => LcoresLoaded maxLcore numFlowPaths flowPaths lcores
        (cores ++ [c]) loaded.2 := by
  unfold loadLcoreAt
  cases hcore : jsonObjectGet lcores (ascii ("lcore-" ++ toString c)) with
  | none => exact hloaded.skip hcore
  | some core =>
      apply Safe.bind (safe_loadAt loaded.2 hc)
      intro entry hentry
      apply Safe.bind (safe_loadLcore hnum core (hloaded.checked hentry))
      rintro entry' ⟨hfrom, hchecked⟩
      apply Safe.bind (safe_storeAt loaded.2 hc entry')
      rintro _ rfl
      exact hloaded.set hc hcore hfrom hchecked

theorem safe_loadLcores (lcores : Json) :
    Safe ConfigFault.IsFault
      (loadLcores maxLcore numFlowPaths flowPaths lcores)
      fun loaded => LcoresLoaded maxLcore numFlowPaths flowPaths lcores
        (List.range maxLcore) loaded.2 := by
  apply Safe.foldlM fun cores (loaded : Bool × Vector LcoreEntry maxLcore) =>
    LcoresLoaded maxLcore numFlowPaths flowPaths lcores cores loaded.2
  · intro c entry hentry
    rw [Vector.getElem?_replicate] at hentry
    split at hentry
    · cases hentry
      exact .inl ⟨rfl, fun hmem => absurd hmem List.not_mem_nil⟩
    · cases hentry
  · intro front c loaded hfront hloaded
    have hc : c ∈ List.range maxLcore :=
      hfront.subset (List.mem_append_right front (List.mem_singleton.mpr rfl))
    exact safe_loadLcoreAt hnum (List.mem_range.mp hc) hloaded

end Cores

/-! ## The whole document -/

theorem safe_parseHashFields (fieldName : String) (cfg : Json) :
    Safe ConfigFault.IsFault (parseHashFields fieldName cfg) fun fields =>
      fields.any = true := by
  unfold parseHashFields
  apply Safe.ite
  · exact fun hany => hany
  · intro _
    exact safe_reject _ _

theorem safe_loadHashFields (fieldName : String) (default : HashFields)
    (node : Option Json) :
    Safe ConfigFault.IsFault (loadHashFields fieldName default node)
      fun fields => node = none ∧ fields = default ∨ fields.any = true := by
  cases node with
  | none => exact .inl ⟨rfl, rfl⟩
  | some cfg =>
      apply (safe_parseHashFields fieldName cfg).strengthen
      exact fun _ _ hany => .inr hany

theorem safe_loadKniIp (item : Option Json) :
    Safe ConfigFault.IsFault (loadKniIp item) fun _ => True := by
  unfold loadKniIp
  cases jsonStringValue item with
  | none => exact trivial
  | some text =>
      apply (safe_orReject (inetPton4 text) _).strengthen
      exact fun _ _ _ => trivial

theorem safe_loadHead (parseEtheraddr : CString → Option (ByteVec 6))
    (root : Option Json) :
    Safe ConfigFault.IsFault (loadHead parseEtheraddr root)
      fun _ => True := by
  unfold loadHead
  apply Safe.bind (safe_orReject _ _)
  intro mac _
  apply Safe.bind (safe_orReject _ _)
  intro gatewayEtherAddr _
  apply Safe.bind (safe_orReject _ _)
  intro srcIp _
  apply Safe.bind (safe_orReject _ _)
  intro localIpAddr _
  apply Safe.bind (safe_loadKniIp _)
  intro kniIp _
  exact trivial

/-- What a loaded configuration is to satisfy. -/
structure GlbDirectorConfig.Bounded {maxLcore : ℕ}
    (cfg : GlbDirectorConfig maxLcore) : Prop where
  hnum : cfg.numFlowPaths.toNat ≤ maxFlowPaths
  hpaths : ∀ (c : ℕ) (entry : LcoreEntry), cfg.lcoreConfigs[c]? = some entry →
    entry.PathsBounded cfg.numFlowPaths cfg.flowPaths
  hsource : ∀ (c : ℕ) (entry : LcoreEntry),
    cfg.lcoreConfigs[c]? = some entry → entry.workloads.work = true →
      entry.sourceDistCore.toNat < maxLcore
  hdist : ∀ (c : ℕ) (entry : LcoreEntry),
    cfg.lcoreConfigs[c]? = some entry → entry.workloads.dist = true →
      1 ≤ entry.numDistWorkers.toNat
  hhash : cfg.hashFields.any = true
  halt : cfg.useAltHashFields = true → cfg.altHashFields.any = true

section Load

variable (parseEtheraddr : CString → Option (ByteVec 6)) (maxLcore : ℕ)
  (root : Json)

/-- If the flow paths fit, nothing is accessed outside an array, and a loaded
configuration has all the bounds but one. -/
theorem safe_load
    (hfit : ∀ head node, loadHead parseEtheraddr root = .ok head →
      jsonObjectGet root (ascii "flow_paths") = some node →
        (numFlowPathsOf node).toNat ≤ maxFlowPaths) :
    Safe ConfigFault.IsFault
      (glbDirectorConfigLoadFile parseEtheraddr maxLcore root)
      fun cfg => cfg.numFlowPaths.toNat ≤ maxFlowPaths ∧
        (∃ lcores, jsonObjectGet root (ascii "lcores") = some lcores ∧
          LcoresLoaded maxLcore cfg.numFlowPaths cfg.flowPaths lcores
            (List.range maxLcore) cfg.lcoreConfigs) ∧
        cfg.hashFields.any = true ∧
        (cfg.useAltHashFields = true → cfg.altHashFields.any = true) := by
  unfold glbDirectorConfigLoadFile
  apply Safe.bind ((safe_loadHead parseEtheraddr root).strengthen
    fun head hhead _ => hhead)
  intro head hhead
  apply Safe.bind (safe_orReject _ _)
  intro node hnode
  have hnum := hfit head node hhead hnode
  obtain ⟨flowPaths, hflowPaths⟩ := loadFlowPaths_inside
    (jsonArrayElements node) hnum
  simp only [hflowPaths]
  apply Safe.bind (safe_orReject _ _)
  intro lcores hlcores
  apply Safe.bind (safe_loadLcores hnum lcores)
  intro loaded hloaded
  apply Safe.bind (safe_loadHashFields _ _ _)
  intro hashFields hhash
  apply Safe.bind (safe_loadHashFields _ _ _)
  intro altHashFields halt
  refine ⟨hnum, ⟨lcores, hlcores, hloaded⟩, ?_, fun hused => ?_⟩
  · rcases hhash with ⟨_, rfl⟩ | hany
    · rfl
    · exact hany
  · rcases halt with ⟨hnone, _⟩ | hany
    · rw [hnone] at hused
      cases hused
    · exact hany

theorem load_outOfBounds {head : ConfigHead} {node : Json}
    (hhead : loadHead parseEtheraddr root = .ok head)
    (hnode : jsonObjectGet root (ascii "flow_paths") = some node)
    (hnum : maxFlowPaths < (numFlowPathsOf node).toNat) :
    glbDirectorConfigLoadFile parseEtheraddr maxLcore root =
      .error .outOfBounds := by
  unfold glbDirectorConfigLoadFile
  simp only [hhead, hnode]
  show (loadFlowPaths (jsonArrayElements node) (numFlowPathsOf node).toNat
    >>= _) = _
  rw [loadFlowPaths_outside _ hnum]
  rfl

end Load

/-- No worker of the document names the first core that does not exist. -/
def NoSourceAtMax (maxLcore : ℕ) (root : Json) : Prop :=
  ∀ lcores c core, jsonObjectGet root (ascii "lcores") = some lcores →
    c < maxLcore →
    jsonObjectGet lcores (ascii ("lcore-" ++ toString c)) = some core →
    jsonIsTrue (jsonObjectGet core (ascii "work")) = true →
      (workSourceOf core).toNat ≠ maxLcore

theorem config_bounds_iff
    (parseEtheraddr : CString → Option (ByteVec 6))
    (maxLcore : ℕ)
    (root : Json) :
    Safe ConfigFault.IsFault
        (glbDirectorConfigLoadFile parseEtheraddr maxLcore root)
        GlbDirectorConfig.Bounded ↔
      (∀ head node, loadHead parseEtheraddr root = .ok head →
        jsonObjectGet root (ascii "flow_paths") = some node →
          (numFlowPathsOf node).toNat ≤ maxFlowPaths) ∧
      ((∃ error, glbDirectorConfigLoadFile parseEtheraddr maxLcore root =
          .error (.rejected error)) ∨
        NoSourceAtMax maxLcore root) := by
  constructor
  · intro hsafe
    have hfit : ∀ head node, loadHead parseEtheraddr root = .ok head →
        jsonObjectGet root (ascii "flow_paths") = some node →
          (numFlowPathsOf node).toNat ≤ maxFlowPaths := by
      intro head node hhead hnode
      by_contra hnum
      exact hsafe.not_fault rfl (load_outOfBounds parseEtheraddr maxLcore root
        hhead hnode (Nat.lt_of_not_le hnum))
    refine ⟨hfit, ?_⟩
    have hload := safe_load parseEtheraddr maxLcore root hfit
    cases hrun : glbDirectorConfigLoadFile parseEtheraddr maxLcore root with
    | error fault =>
        cases fault with
        | rejected error => exact .inl ⟨error, rfl⟩
        | outOfBounds => exact absurd hrun (hsafe.not_fault rfl)
    | ok cfg =>
        right
        intro lcores c core hlcores hc hcore hwork
        obtain ⟨_, ⟨others, hothers, hloaded⟩, _⟩ := hload.post_of_ok hrun
        obtain rfl := Option.some.inj (hlcores.symm.trans hothers)
        obtain ⟨entry, hentry, hfrom⟩ :=
          hloaded.entry hc (List.mem_range.mpr hc) hcore
        have hworker : entry.workloads.work = true := by
          rw [hfrom.hworkloads]
          exact hwork
        rw [← hfrom.hsource hworker]
        exact Nat.ne_of_lt
          ((hsafe.post_of_ok hrun).hsource c entry hentry hworker)
  · rintro ⟨hfit, hrejected | hsources⟩
    · obtain ⟨error, hrun⟩ := hrejected
      rw [hrun]
      exact safe_reject error _
    · apply (safe_load parseEtheraddr maxLcore root hfit).strengthen
      rintro cfg _ ⟨hnum, ⟨lcores, hlcores, hloaded⟩, hhash, halt⟩
      constructor
      · exact hnum
      · exact fun c entry hentry => (hloaded.checked hentry).hpaths
      · intro c entry hentry hwork
        obtain ⟨core, hcore, htrue, hsource⟩ := hloaded.worker hentry hwork
        have hc : c < maxLcore :=
          (Vector.getElem?_eq_some_iff.mp hentry).1
        have hne := hsources lcores c core hlcores hc hcore htrue
        rw [← hsource] at hne
        exact Nat.lt_of_le_of_ne ((hloaded.checked hentry).hwork hwork) hne
      · exact fun c entry hentry => (hloaded.checked hentry).hdist
      · exact hhash
      · exact halt

def sampleDocument (flowPaths : List Json) (lcores : List (CString × Json)) :
    Json :=
  .object [(ascii "outbound_gateway_mac", .string (ascii "00:00:5e:00:01:01")),
    (ascii "outbound_src_ip", .string (ascii "10.0.0.1")),
    (ascii "flow_paths", .array flowPaths),
    (ascii "lcores", .object lcores)]

def sampleEtheraddr (_ : CString) : Option (ByteVec 6) :=
  some ⟨[0, 0, 0x5e, 0, 1, 1], rfl⟩

/-- A worker whose source is the first core that does not exist. -/
def sourcelessWorker : CString × Json :=
  (ascii "lcore-1", .object [(ascii "work", .boolean true),
    (ascii "work_source", .integer 128)])

/-- The 33rd flow path is written outside the array, and with 128 cores the
source core 128 is accepted. -/
theorem unchecked_config_bounds :
    glbDirectorConfigLoadFile sampleEtheraddr 128
        (sampleDocument (List.replicate 33 (.object [])) []) =
      .error .outOfBounds ∧
    ∃ cfg, glbDirectorConfigLoadFile sampleEtheraddr 128
        (sampleDocument [] [sourcelessWorker]) = .ok cfg ∧
      cfg.lcoreConfigs[1].workloads.work = true ∧
      cfg.lcoreConfigs[1].sourceDistCore = 128 := by
  constructor
  · exact load_outOfBounds _ _ _ rfl rfl (by decide)
  · have hworker : (glbDirectorConfigLoadFile sampleEtheraddr 128
        (sampleDocument [] [sourcelessWorker])).toOption.map
          (fun cfg => (cfg.lcoreConfigs[1].workloads.work,
            cfg.lcoreConfigs[1].sourceDistCore)) = some (true, 128) := by
      decide +kernel
    cases hload : glbDirectorConfigLoadFile sampleEtheraddr 128
        (sampleDocument [] [sourcelessWorker]) with
    | error fault =>
        rw [hload] at hworker
        cases hworker
    | ok cfg =>
        rw [hload] at hworker
        have hpair := Option.some.inj hworker
        exact ⟨cfg, rfl, congrArg Prod.fst hpair, congrArg Prod.snd hpair⟩

end GlbDirector
