import GlbDirector.LabChecksums
import GlbDirector.OuterLengths
import GlbDirector.PortExpansion
import GlbDirector.PrefixMasks
import GlbDirector.TypicalRules

/-!
# The lab director (`lab/live_director.c`)

The lab director wraps the shared route calculation and encapsulation in a
classifier and checksums of its own.  The classifier compares the destination
port as it was loaded, in network order, with bounds in host order, and takes it
from a fixed offset; the checksums are stored without their complement; a frame
is received into 9216 bytes.  The packet socket is given a device with
`SO_BINDTODEVICE` but is not bound, and `sendto` is given no address.
-/

namespace GlbDirector

open ByteCodec AclMatch ExceptLoops OnesComplement PrefixMasks

/-! ## Classification -/

def htonl (x : UInt32) : UInt32 := wordU32 (u32le x).reverse

def labMask (ipBits : UInt16) : UInt32 :=
  let bits := if ipBits > 32 then 32 else ipBits
  if bits ≠ 0 then htonl (0xffffffff <<< (32 - bits.toUInt32)) else 0

/-- The body of the loop over the binds. -/
def labBindMatches (proto : UInt8) (dstAddr : UInt32) (dport : UInt16)
    (bind : FwdBind) : Bool :=
  bind.family = familyIpv4 ∧ bind.proto = proto ∧
    dstAddr &&& labMask bind.ipBits =
      wordU32 (bind.ipv6Addr.take 4) &&& labMask bind.ipBits ∧
    ¬ (dport < bind.portStart ∨ dport > bind.portEnd)

def labClassifyTable (raw : Bytes) (proto : UInt8) (dstAddr : UInt32)
    (dport : UInt16) (t : ℕ) : Option Bool := do
  let numBinds ← tableNumBinds raw t
  (List.range numBinds.toNat).anyM fun b => do
    let bind ← tableBind raw t b
    return labBindMatches proto dstAddr dport bind

def labClassifyTables (raw : Bytes) (proto : UInt8) (dstAddr : UInt32)
    (dport : UInt16) : Option (Option ℕ) := do
  let num ← numTables raw
  (List.range num.toNat).findM? (labClassifyTable raw proto dstAddr dport)

/-- The table of a packet of `len` bytes in a buffer; no value for a read
outside the forwarding table. -/
def labClassifyPacket (raw buffer : Bytes) (len : ℕ) : Option (Option ℕ) :=
  let l4Total := ntohs (fieldU16 16 buffer)
  let proto := fieldU8 23 buffer
  let dstAddr := fieldU32 30 buffer
  if len < ethernetHdrSize + ipv4HdrSize then some none
  else if ntohs (fieldU16 12 buffer) ≠ etherTypeIpv4 then some none
  else if fieldU8 14 buffer >>> 4 ≠ 4 then some none
  else if l4Total.toNat < ipv4HdrSize then some none
  else if proto = ipProtoTcp ∨ proto = ipProtoUdp then
    if l4Total.toNat < ipv4HdrSize + l4PortsHdrSize then some none
    else labClassifyTables raw proto dstAddr (fieldU16 36 buffer)
  else labClassifyTables raw proto dstAddr 0

/-! ## The packet loop -/

def maxPkt : ℕ := 9216

inductive LabOutcome where
  | outsideTable
  | dropped
  | encapFailure
  | sent (table : ℕ) (frame : Bytes)

/-- What the calls of a turn return: `malloc`, if a larger buffer is needed, may
fail, and `sendto` may not take the frame. -/
structure LabCalls where
  malloc : Bool
  sendto : Bool

/-- One turn of the loop.  `trailing` is what `pkt_buf` holds behind the packet,
`leftover` what `out_buf` holds behind the frame. -/
def liveDirector (config : DirectorConfig) (raw : Bytes) (calls : LabCalls)
    (trailing leftover frame : Bytes) : LabOutcome :=
  let pkt := frame.take maxPkt
  match labClassifyPacket raw (pkt ++ trailing) pkt.length with
  | none => .outsideTable
  | some none => .dropped
  | some (some table) =>
      match glbCalculatePacketRoute config raw table pkt with
      | .error _ => .encapFailure
      | .ok ctx =>
          if calls.malloc then
            let outBuf := fixupOuterChecksums leftover
              (glbEncapsulatePacket config ctx ++ pkt.drop ethernetHdrSize)
            if calls.sendto then .sent table outBuf else .encapFailure
          else .encapFailure

/-! ## Masks -/

theorem htonl_mask {bits : ℕ} (hbits : bits ≤ 32) (hpos : bits ≠ 0) :
    beNat (u32le (0xffffffff <<< (32 - UInt32.ofNat bits))).reverse =
      2 ^ 32 - 2 ^ (32 - bits) := by
  have hall : ∀ bits : Fin 33, bits.val ≠ 0 →
      beNat (u32le (0xffffffff <<< (32 - UInt32.ofNat bits.val))).reverse =
        2 ^ 32 - 2 ^ (32 - bits.val) := by
    decide
  exact hall ⟨bits, Nat.lt_succ_of_le hbits⟩ hpos

/-- The mask is that of a length up to 32. -/
theorem labMask_eq (ipBits : UInt16) :
    labMask ipBits = if min ipBits.toNat 32 ≠ 0 then
      htonl (0xffffffff <<< (32 - UInt32.ofNat (min ipBits.toNat 32)))
    else 0 := by
  have hthirtyTwo : (32 : UInt16).toNat = 32 := rfl
  unfold labMask
  by_cases hlong : ipBits > 32
  · have hmin : min ipBits.toNat 32 = 32 :=
      min_eq_right (UInt16.lt_iff_toNat_lt.mp hlong).le
    simp only [hlong, if_true, hmin]
    rfl
  · have hmin : min ipBits.toNat 32 = ipBits.toNat := by
      rw [gt_iff_lt, UInt16.lt_iff_toNat_lt] at hlong
      omega
    have hword : UInt32.ofNat ipBits.toNat = ipBits.toUInt32 := by
      apply UInt32.toNat_inj.mp
      have hlt : ipBits.toNat < 2 ^ 32 := ipBits.toNat_lt.trans (by decide)
      rw [UInt32.toNat_ofNat_of_lt' hlt, UInt16.toNat_toUInt32]
    have hzero : ipBits = 0 ↔ ipBits.toNat = 0 := UInt16.toNat_inj.symm
    simp only [hlong, if_false, hmin, hword, ne_eq, hzero]

theorem masked_eq_iff {addr net : Bytes} (ipBits : UInt16)
    (haddr : addr.length = 4) (hnet : net.length = 4) :
    wordU32 addr &&& labMask ipBits = wordU32 net &&& labMask ipBits ↔
      PrefixContains ipBits.toNat net addr := by
  have hbits : min ipBits.toNat 32 ≤ 32 := min_le_right _ _
  have hcontains : PrefixContains ipBits.toNat net addr ↔
      SamePrefix 32 (min ipBits.toNat 32) (beNat addr) (beNat net) := by
    have hsame : 8 * 4 - ipBits.toNat = 32 - min ipBits.toNat 32 := by omega
    unfold PrefixContains SamePrefix
    rw [hnet, hsame]
  rw [labMask_eq, hcontains]
  by_cases hzero : min ipBits.toNat 32 = 0
  · rw [if_neg (not_not.mpr hzero), UInt32.and_zero, UInt32.and_zero, hzero]
    exact iff_of_true rfl (.zero (beNat_word_lt haddr) (beNat_word_lt hnet))
  · rw [if_pos hzero]
    exact masked_words_eq_iff haddr hnet (by simp) (htonl_mask hbits hzero)

/-! ## Matching binds -/

def frameTotalLength (frame : Bytes) : ℕ := (ntohs (fieldU16 16 frame)).toNat

/-- The length of the IPv4 header with its options. -/
def frameHdrSize (frame : Bytes) : ℕ := 4 * (fieldU8 14 frame &&& 0x0f).toNat

def frameDstPort (frame : Bytes) : ℕ :=
  (ntohs (fieldU16 (ethernetHdrSize + frameHdrSize frame + 2) frame)).toNat

/-- The number that the lab director takes for the destination port. -/
def labDstPort (frame : Bytes) : ℕ := (fieldU16 36 frame).toNat

/-- An IPv4 bind with the protocol and the destination address of the frame, and
with the given port. -/
def FwdBind.Selects (bind : FwdBind) (frame : Bytes) (port : ℕ) : Prop :=
  bind.family = familyIpv4 ∧ bind.proto = fieldU8 23 frame ∧
    PrefixContains bind.ipBits.toNat (bind.ipv6Addr.take 4)
      (fieldBytes 30 4 frame) ∧
    PortInBind bind port

/-- A TCP or UDP packet with all the bytes that its IPv4 header announces, and
with its ports among them. -/
structure CompleteFrame (frame : Bytes) : Prop where
  hether : ntohs (fieldU16 12 frame) = etherTypeIpv4
  hversion : fieldU8 14 frame >>> 4 = 4
  hihl : ipv4HdrSize ≤ frameHdrSize frame
  hproto : fieldU8 23 frame = ipProtoTcp ∨ fieldU8 23 frame = ipProtoUdp
  hports : frameHdrSize frame + l4PortsHdrSize ≤ frameTotalLength frame
  htotal : ethernetHdrSize + frameTotalLength frame ≤ frame.length

theorem labBindMatches_iff {bind : FwdBind} {frame : Bytes}
    (hbind : bind.ipv6Addr.length = 16) (hframe : 34 ≤ frame.length) :
    labBindMatches (fieldU8 23 frame) (fieldU32 30 frame) (fieldU16 36 frame)
        bind = true ↔
      bind.Selects frame (labDstPort frame) := by
  have haddr : (fieldBytes 30 4 frame).length = 4 :=
    fieldBytes_length rfl (by omega)
  have hnet : (bind.ipv6Addr.take 4).length = 4 := by
    rw [List.length_take, hbind]
    rfl
  have hports : ¬ (fieldU16 36 frame < bind.portStart ∨
      fieldU16 36 frame > bind.portEnd) ↔
        PortInBind bind (labDstPort frame) := by
    rw [not_or, gt_iff_lt, UInt16.lt_iff_toNat_lt, UInt16.lt_iff_toNat_lt,
      Nat.not_lt, Nat.not_lt]
    rfl
  unfold labBindMatches FwdBind.Selects
  rw [decide_eq_true_iff, hports]
  exact and_congr_right fun _ => and_congr_right fun _ =>
    and_congr_left fun _ => masked_eq_iff bind.ipBits haddr hnet

/-! ## The scan -/

/-- The first table that has such a bind. -/
structure FirstTable (raw : Bytes) (holds : FwdBind → Prop) (t : ℕ) : Prop where
  hhas : ∃ bind, FileHasBind raw t bind ∧ holds bind
  hfirst : ∀ t' < t, ∀ bind, FileHasBind raw t' bind → ¬ holds bind

section Scan

variable {raw : Bytes} {num : UInt32}
  (hcheck : checkConfig raw = some (.ok ()))
  (hnum : numTables raw = some num)
  (proto : UInt8) (dstAddr : UInt32) (dport : UInt16)

include hcheck hnum

theorem labClassifyTable_eq {t : ℕ} (ht : t < num.toNat) :
    ∃ found, labClassifyTable raw proto dstAddr dport t = some found ∧
      (found = true ↔ ∃ bind, FileHasBind raw t bind ∧
        labBindMatches proto dstAddr dport bind = true) := by
  obtain ⟨hsize, htables⟩ := checkConfig_ok hcheck hnum
  obtain ⟨numBinds, hnumBinds, hle⟩ := checkTable_ok (htables t ht)
  have hreads : ∀ b ∈ List.range numBinds.toNat, (do
      let bind ← tableBind raw t b
      return labBindMatches proto dstAddr dport bind) =
        some ((tableBind raw t b).any
          (labBindMatches proto dstAddr dport)) := by
    intro b hb
    obtain ⟨bind, hbind⟩ := exists_tableBind hsize ht
      ((List.mem_range.mp hb).trans_le hle)
    rw [hbind]
    rfl
  have hrun : labClassifyTable raw proto dstAddr dport t =
      some ((List.range numBinds.toNat).any fun b =>
        (tableBind raw t b).any (labBindMatches proto dstAddr dport)) := by
    rw [labClassifyTable, hnumBinds]
    exact anyM_eq_some hreads
  refine ⟨_, hrun, ?_⟩
  rw [List.any_eq_true]
  constructor
  · intro ⟨b, hb, hmatch⟩
    obtain ⟨bind, hbind, hmatch⟩ := (Option.any_eq_true _ _).mp hmatch
    exact ⟨bind, ⟨⟨num, hnum, ht⟩, numBinds, b, hnumBinds,
      List.mem_range.mp hb, hbind⟩, hmatch⟩
  · intro ⟨bind, ⟨_, numBinds', b, hnumBinds', hb, hbind⟩, hmatch⟩
    obtain rfl := Option.some.inj (hnumBinds'.symm.trans hnumBinds)
    exact ⟨b, List.mem_range.mpr hb,
      (Option.any_eq_true _ _).mpr ⟨bind, hbind, hmatch⟩⟩

theorem labClassifyTables_eq_some_iff {t : ℕ} :
    labClassifyTables raw proto dstAddr dport = some (some t) ↔
      FirstTable raw
        (fun bind => labBindMatches proto dstAddr dport bind = true) t := by
  have hreads : ∀ t ∈ List.range num.toNat,
      labClassifyTable raw proto dstAddr dport t =
        some ((labClassifyTable raw proto dstAddr dport t).getD false) := by
    intro t ht
    obtain ⟨found, hfound, _⟩ := labClassifyTable_eq hcheck hnum proto dstAddr
      dport (List.mem_range.mp ht)
    rw [hfound]
    rfl
  have hmatches : ∀ t < num.toNat,
      ((labClassifyTable raw proto dstAddr dport t).getD false = true ↔
        ∃ bind, FileHasBind raw t bind ∧
          labBindMatches proto dstAddr dport bind = true) := by
    intro t ht
    obtain ⟨found, hfound, hiff⟩ := labClassifyTable_eq hcheck hnum proto
      dstAddr dport ht
    rw [hfound]
    exact hiff
  have hrun : labClassifyTables raw proto dstAddr dport =
      some ((List.range num.toNat).find? fun t =>
        (labClassifyTable raw proto dstAddr dport t).getD false) := by
    rw [labClassifyTables, hnum]
    exact findM?_eq_some hreads
  rw [hrun, Option.some.injEq, List.find?_range_eq_some]
  constructor
  · intro ⟨hfound, ht, hbefore⟩
    have ht := List.mem_range.mp ht
    refine ⟨(hmatches t ht).mp hfound, fun t' ht' bind hbind hmatch => ?_⟩
    have hnone := hbefore t' ht'
    rw [(hmatches t' (ht'.trans ht)).mpr ⟨bind, hbind, hmatch⟩] at hnone
    cases hnone
  · intro ⟨hhas, hfirst⟩
    have ht : t < num.toNat := by
      obtain ⟨_, ⟨⟨num', hnum', ht⟩, _⟩, _⟩ := hhas
      obtain rfl := Option.some.inj (hnum'.symm.trans hnum)
      exact ht
    refine ⟨(hmatches t ht).mpr hhas, List.mem_range.mpr ht, ?_⟩
    intro t' ht'
    rw [Bool.not_eq_true', Bool.eq_false_iff, ne_eq,
      hmatches t' (ht'.trans ht)]
    intro ⟨bind, hbind, hmatch⟩
    exact hfirst t' ht' bind hbind hmatch

end Scan

theorem FirstTable.mono {raw : Bytes} {holds holds' : FwdBind → Prop} {t : ℕ}
    (hfirst : FirstTable raw holds t)
    (hsame : ∀ t bind, FileHasBind raw t bind → (holds bind ↔ holds' bind)) :
    FirstTable raw holds' t where
  hhas := by
    obtain ⟨bind, hbind, hholds⟩ := hfirst.hhas
    exact ⟨bind, hbind, (hsame t bind hbind).mp hholds⟩
  hfirst := by
    intro t' ht' bind hbind hholds'
    exact hfirst.hfirst t' ht' bind hbind ((hsame t' bind hbind).mpr hholds')

/-! ## Complete frames -/

section Received

variable {frame : Bytes} (trailing : Bytes) {offset len : ℕ}

theorem fieldBytes_received
    (hinside : offset + len ≤ (frame.take maxPkt).length) :
    fieldBytes offset len (frame.take maxPkt ++ trailing) =
      fieldBytes offset len frame := by
  have hwhole := fieldBytes_buffer (frame.drop maxPkt) hinside
  rw [List.take_append_drop] at hwhole
  rw [fieldBytes_buffer trailing hinside, hwhole]

theorem fieldU8_received (hinside : offset < (frame.take maxPkt).length) :
    fieldU8 offset (frame.take maxPkt ++ trailing) = fieldU8 offset frame := by
  have hwhole := fieldU8_buffer (frame.drop maxPkt) hinside
  rw [List.take_append_drop] at hwhole
  rw [fieldU8_buffer trailing hinside, hwhole]

end Received

theorem CompleteFrame.lengths {frame : Bytes} (hframe : CompleteFrame frame) :
    24 ≤ frameTotalLength frame ∧ 38 ≤ frame.length := by
  have hihl := hframe.hihl
  have hports := hframe.hports
  have htotal := hframe.htotal
  rw [ipv4HdrSize] at hihl
  rw [l4PortsHdrSize] at hports
  rw [ethernetHdrSize] at htotal
  omega

theorem labClassifyPacket_eq_some_iff {raw frame : Bytes}
    (hcheck : checkConfig raw = some (.ok ()))
    (hframe : CompleteFrame frame) (trailing : Bytes) {t : ℕ} :
    labClassifyPacket raw (frame.take maxPkt ++ trailing)
        (frame.take maxPkt).length = some (some t) ↔
      FirstTable raw (fun bind => bind.Selects frame (labDstPort frame)) t := by
  obtain ⟨htotal, hlength⟩ := hframe.lengths
  have hinside : 38 ≤ (frame.take maxPkt).length := by
    rw [List.length_take, maxPkt]
    omega
  have hether : fieldU16 12 (frame.take maxPkt ++ trailing) =
      fieldU16 12 frame :=
    congrArg wordU16 (fieldBytes_received trailing (by omega))
  have htotalField : fieldU16 16 (frame.take maxPkt ++ trailing) =
      fieldU16 16 frame :=
    congrArg wordU16 (fieldBytes_received trailing (by omega))
  have hport : fieldU16 36 (frame.take maxPkt ++ trailing) =
      fieldU16 36 frame :=
    congrArg wordU16 (fieldBytes_received trailing (by omega))
  have hdst : fieldU32 30 (frame.take maxPkt ++ trailing) = fieldU32 30 frame :=
    congrArg wordU32 (fieldBytes_received trailing (by omega))
  have hversion : fieldU8 14 (frame.take maxPkt ++ trailing) =
      fieldU8 14 frame := fieldU8_received trailing (by omega)
  have hproto : fieldU8 23 (frame.take maxPkt ++ trailing) =
      fieldU8 23 frame := fieldU8_received trailing (by omega)
  have hclassify : labClassifyPacket raw (frame.take maxPkt ++ trailing)
      (frame.take maxPkt).length = labClassifyTables raw (fieldU8 23 frame)
        (fieldU32 30 frame) (fieldU16 36 frame) := by
    have hheaders : ¬ (frame.take maxPkt).length <
        ethernetHdrSize + ipv4HdrSize := by
      rw [ethernetHdrSize, ipv4HdrSize]
      omega
    have hports : ¬ (ntohs (fieldU16 16 frame)).toNat <
        ipv4HdrSize + l4PortsHdrSize := Nat.not_lt.mpr htotal
    have hheader : ¬ (ntohs (fieldU16 16 frame)).toNat < ipv4HdrSize := by
      omega
    unfold labClassifyPacket
    simp only [hether, htotalField, hport, hdst, hversion, hproto]
    rw [if_neg hheaders, if_neg (not_not.mpr hframe.hether),
      if_neg (not_not.mpr hframe.hversion), if_neg hheader,
      if_pos hframe.hproto, if_neg hports]
  have hselects : ∀ t bind, FileHasBind raw t bind →
      (labBindMatches (fieldU8 23 frame) (fieldU32 30 frame)
        (fieldU16 36 frame) bind = true ↔
          bind.Selects frame (labDstPort frame)) := by
    intro t bind hbind
    exact labBindMatches_iff hbind.addr_length (by omega)
  obtain ⟨num, hnum⟩ := exists_numTables hcheck
  rw [hclassify, labClassifyTables_eq_some_iff hcheck hnum]
  constructor
  · intro hfirst
    exact hfirst.mono hselects
  · intro hfirst
    exact hfirst.mono fun t bind hbind => (hselects t bind hbind).symm

/-! ## Frames that are sent -/

/-- The parser does not look behind its longest chain of headers. -/
theorem glbExtractPacketFields_take (packet : Bytes) :
    glbExtractPacketFields .dpdk (packet.take maxPkt) =
      glbExtractPacketFields .dpdk packet := by
  rw [glbExtractPacketFields_dpdk, glbExtractPacketFields_dpdk]
  simp (disch := decide) only [glbExtractPacketFields,
    extractPacketFieldsIpv4, extractPacketFieldsIpv6, safelyGetHeader_xdp,
    slice_take]

theorem glbCalculatePacketRoute_take (config : DirectorConfig)
    (raw : Bytes) (table : ℕ) (packet : Bytes) :
    glbCalculatePacketRoute config raw table (packet.take maxPkt) =
      glbCalculatePacketRoute config raw table packet := by
  unfold glbCalculatePacketRoute
  rw [glbExtractPacketFields_take]

/-- The table and the route that the lab director takes. -/
structure LabRoute (config : DirectorConfig) (raw frame : Bytes) (table : ℕ)
    (ctx : RouteContext) : Prop where
  hfirst : FirstTable raw
    (fun bind => bind.Selects frame (labDstPort frame)) table
  hroute : glbCalculatePacketRoute config raw table frame = .ok ctx

def LabCalls.delivers (calls : LabCalls) : Bool := calls.malloc && calls.sendto

theorem liveDirector_eq_sent_iff {config : DirectorConfig}
    {raw frame : Bytes} (hcheck : checkConfig raw = some (.ok ()))
    (hframe : CompleteFrame frame) (calls : LabCalls)
    (trailing leftover : Bytes) {table : ℕ} {sent : Bytes} :
    liveDirector config raw calls trailing leftover frame =
        .sent table sent ↔
      calls.delivers = true ∧ ∃ ctx, LabRoute config raw frame table ctx ∧
        sent = fixupOuterChecksums leftover (glbEncapsulatePacket config ctx ++
          (frame.take maxPkt).drop ethernetHdrSize) := by
  have hclassify : ∀ t, labClassifyPacket raw (frame.take maxPkt ++ trailing)
      (frame.take maxPkt).length = some (some t) ↔ FirstTable raw
        (fun bind => bind.Selects frame (labDstPort frame)) t :=
    fun t => labClassifyPacket_eq_some_iff hcheck hframe trailing
  unfold liveDirector
  simp only [glbCalculatePacketRoute_take]
  constructor
  · intro hsent
    split at hsent
    · cases hsent
    · cases hsent
    · rename_i found hfound
      split at hsent
      · cases hsent
      · rename_i ctx hroute
        split at hsent
        · rename_i hmalloc
          split at hsent
          · rename_i hsendto
            cases hsent
            refine ⟨?_, ctx, ⟨(hclassify _).mp hfound, hroute⟩, rfl⟩
            rw [LabCalls.delivers, hmalloc, hsendto]
            rfl
          · cases hsent
        · cases hsent
  · intro ⟨hdelivers, ctx, hlab, hsent⟩
    rw [LabCalls.delivers, Bool.and_eq_true] at hdelivers
    simp only [(hclassify _).mpr hlab.hfirst, hlab.hroute, hdelivers.1,
      hdelivers.2, if_true, hsent]

theorem LabRoute.fit {config : DirectorConfig} {raw frame : Bytes} {table : ℕ}
    {ctx : RouteContext} (hlab : LabRoute config raw frame table ctx)
    (hframe : CompleteFrame frame) (hlength : frame.length ≤ maxPkt) :
    OuterLengthsFit ctx (frame.drop ethernetHdrSize) := by
  have hhops := route_hops_le hlab.hroute
  have htotal : ctx.fields.ipTotalLength.toNat = frameTotalLength frame := by
    have hinner : innerIpLength frame = frameTotalLength frame :=
      if_pos hframe.hether
    rw [ipTotalLength_toNat (route_spec hlab.hroute).1, hinner]
    exact Nat.mod_eq_of_lt (UInt16.toNat_lt _)
  have hcomplete := hframe.htotal
  constructor
  · rw [htotal, routeContextEncapSize]
    simp only [ethernetHdrSize, ipv4HdrSize, udpHdrSize, gueHdrSize, maxPkt,
      glbMaxHops] at hhops hcomplete hlength ⊢
    omega
  · rw [htotal, List.length_drop]
    omega

/-- The packet that the two directors send, as far as the checksums. -/
def outerPacket (config : DirectorConfig) (ctx : RouteContext)
    (frame : Bytes) : Bytes :=
  (glbEncapsulatePacket config ctx ++ frame.drop ethernetHdrSize).drop
    ethernetHdrSize

/-- The outer headers verify while their checksum fields are zero, and the
library writes that as a checksum of all ones, not as zero. -/
structure SelfChecked (rte : RteChecksums) (config : DirectorConfig)
    (ctx : RouteContext) (frame : Bytes) : Prop where
  hipv4 : Verifies (encapIpv4 config ctx)
  hipv4Cksum : rte.ipv4Cksum (encapIpv4 config ctx) ≠ 0
  hudp : UdpChecksumValid (outerPacket config ctx frame) ipv4HdrSize
  hudpCksum : rte.ipv4UdptcpCksum (outerPacket config ctx frame) ≠ 0

theorem LabRoute.frame_eq_iff {rte : RteChecksums} (hrte : rte.Complete)
    {config : DirectorConfig} {raw frame : Bytes} {table : ℕ}
    {ctx : RouteContext} (hlab : LabRoute config raw frame table ctx)
    (hframe : CompleteFrame frame) (leftover : Bytes) :
    (∃ produced, glbEncapsulatePacketDpdk rte config raw frame table =
        .ok produced ∧
      (fixupOuterChecksums leftover (glbEncapsulatePacket config ctx ++
        (frame.take maxPkt).drop ethernetHdrSize)).drop ethernetHdrSize =
          produced.drop ethernetHdrSize) ↔
      frame.length ≤ maxPkt ∧ SelfChecked rte config ctx frame := by
  obtain ⟨_, ⟨⟨num, hnum, htable⟩, _⟩, _⟩ := hlab.hfirst.hhas
  have hhops := route_hops_le hlab.hroute
  have hdpdk := glbEncapsulatePacketDpdk_frame rte hnum htable hlab.hroute
  have houter : outerPacket config ctx frame = (directorFrame config ctx hhops
      0 0 (frame.drop ethernetHdrSize)).bytes := by
    rw [outerPacket, glbEncapsulatePacket_frame config ctx hhops,
      drop_encapEthernet]
  rw [hdpdk, glbEncapsulatePacket_frame config ctx hhops,
    fixupOuterChecksums_frame, drop_encapEthernet]
  simp only [Except.ok.injEq, exists_eq_left', drop_encapEthernet]
  by_cases hlength : frame.length ≤ maxPkt
  · rw [List.take_of_length_le hlength, labFrame_eq_iff config hhops hrte
      leftover (hlab.fit hframe hlength), ← houter]
    simp only [hlength, true_and]
    constructor
    · intro hsums
      exact ⟨hsums.1.1, hsums.1.2, hsums.2.1, hsums.2.2⟩
    · intro hchecked
      exact ⟨⟨hchecked.hipv4, hchecked.hipv4Cksum⟩, hchecked.hudp,
        hchecked.hudpCksum⟩
  · have hshorter : ∀ ipCheck udpCheck ipCheck' udpCheck',
        (directorFrame config ctx hhops ipCheck udpCheck
          ((frame.take maxPkt).drop ethernetHdrSize)).bytes ≠
        (directorFrame config ctx hhops ipCheck' udpCheck'
          (frame.drop ethernetHdrSize)).bytes := by
      intro ipCheck udpCheck ipCheck' udpCheck' hsame
      have hsent := directorFrame_length config hhops
        ((frame.take maxPkt).drop ethernetHdrSize) ipCheck udpCheck
      have hproduced := directorFrame_length config hhops
        (frame.drop ethernetHdrSize) ipCheck' udpCheck'
      rw [hsame, List.length_drop, List.length_take] at hsent
      rw [List.length_drop] at hproduced
      simp only [maxPkt, ethernetHdrSize] at hlength hsent hproduced
      omega
    simp only [hlength, false_and, iff_false]
    exact hshorter _ _ _ _

/-! ## Refinement -/

/-- The packet belongs to a bind of the file. -/
def SelectedFrame (raw frame : Bytes) : Prop :=
  SomeBind raw fun bind => bind.Selects frame (frameDstPort frame)

/-- The lab director sends what belongs to a bind, and sends it as the DPDK
director does, from the outer IPv4 header on. -/
structure LabRefines (rte : RteChecksums) (config : DirectorConfig)
    (raw : Bytes) (calls : LabCalls) (trailing leftover frame : Bytes) :
    Prop where
  htransmits : (∃ table sent,
      liveDirector config raw calls trailing leftover frame =
        .sent table sent) ↔
    SelectedFrame raw frame
  hsame : ∀ table sent,
      liveDirector config raw calls trailing leftover frame =
        .sent table sent →
    ∃ produced, glbEncapsulatePacketDpdk rte config raw frame table =
        .ok produced ∧
      sent.drop ethernetHdrSize = produced.drop ethernetHdrSize

/-- A selected frame is found under the port as the lab director reads it,
routed and taken by `sendto`; a frame that is found so and taken is selected,
fits into the buffer, and has outer headers that check without a checksum. -/
structure LabAgrees (rte : RteChecksums) (config : DirectorConfig)
    (raw : Bytes) (calls : LabCalls) (frame : Bytes) : Prop where
  hfound : SelectedFrame raw frame → calls.delivers = true ∧
    ∃ table ctx, LabRoute config raw frame table ctx
  hsent : calls.delivers = true →
    ∀ table ctx, LabRoute config raw frame table ctx →
      SelectedFrame raw frame ∧ frame.length ≤ maxPkt ∧
        SelfChecked rte config ctx frame

/-- If `sendto` fails, only packets that belong to no bind are treated as they
are to be. -/
theorem labAgrees_undelivered_iff {rte : RteChecksums}
    {config : DirectorConfig} {raw : Bytes} {calls : LabCalls} {frame : Bytes}
    (hcalls : calls.sendto = false) :
    LabAgrees rte config raw calls frame ↔ ¬ SelectedFrame raw frame := by
  have hnone : ¬ calls.delivers = true := by
    rw [LabCalls.delivers, hcalls, Bool.and_false]
    exact Bool.false_ne_true
  constructor
  · intro hagrees hselected
    exact hnone (hagrees.hfound hselected).1
  · intro hselected
    exact ⟨fun h => absurd h hselected, fun h => absurd h hnone⟩

theorem lab_refines_iff
    {rte : RteChecksums}
    (hrte : rte.Complete)
    {config : DirectorConfig}
    {raw frame : Bytes}
    (hcheck : checkConfig raw = some (.ok ()))
    (hframe : CompleteFrame frame)
    (calls : LabCalls)
    (trailing leftover : Bytes) :
    LabRefines rte config raw calls trailing leftover frame ↔
      LabAgrees rte config raw calls frame := by
  have hsends : ∀ table sent,
      liveDirector config raw calls trailing leftover frame =
        .sent table sent ↔ _ :=
    fun table sent =>
      liveDirector_eq_sent_iff hcheck hframe calls trailing leftover
  constructor
  · intro hrefines
    constructor
    · intro hselected
      obtain ⟨table, sent, hlive⟩ := hrefines.htransmits.mpr hselected
      obtain ⟨hdelivers, ctx, hlab, _⟩ := (hsends table sent).mp hlive
      exact ⟨hdelivers, table, ctx, hlab⟩
    · intro hdelivers table ctx hlab
      have hlive := (hsends table _).mpr ⟨hdelivers, ctx, hlab, rfl⟩
      refine ⟨hrefines.htransmits.mp ⟨table, _, hlive⟩, ?_⟩
      exact (hlab.frame_eq_iff hrte hframe leftover).mp
        (hrefines.hsame table _ hlive)
  · intro hagrees
    constructor
    · constructor
      · intro ⟨table, sent, hlive⟩
        obtain ⟨hdelivers, ctx, hlab, _⟩ := (hsends table sent).mp hlive
        exact (hagrees.hsent hdelivers table ctx hlab).1
      · intro hselected
        obtain ⟨hdelivers, table, ctx, hlab⟩ := hagrees.hfound hselected
        exact ⟨table, _, (hsends table _).mpr ⟨hdelivers, ctx, hlab, rfl⟩⟩
    · intro table sent hlive
      obtain ⟨hdelivers, ctx, hlab, rfl⟩ := (hsends table sent).mp hlive
      exact (hlab.frame_eq_iff hrte hframe leftover).mpr
        (hagrees.hsent hdelivers table ctx hlab).2

/-! ## A library that completes the sums -/

/-- The word that completes a sum, never zero. -/
def completing (sum : ℕ) : ℕ :=
  if fold sum = 0xffff then 0xffff else 0xffff - fold sum

theorem completing_spec (sum : ℕ) :
    0 < completing sum ∧ completing sum < 0x10000 ∧
      (completing sum : Residue) + sum = 0 := by
  have hlt := fold_lt sum
  have hones : ((0xffff : ℕ) : Residue) = 0 := rfl
  unfold completing
  by_cases hfold : fold sum = 0xffff
  · rw [if_pos hfold, ← fold_cast sum, hfold, hones]
    exact ⟨by decide, by decide, add_zero 0⟩
  · rw [if_neg hfold]
    refine ⟨by omega, by omega, ?_⟩
    rw [← fold_cast sum, ← Nat.cast_add, Nat.sub_add_cancel (by omega), hones]

theorem verifies_completing {bytes : Bytes} {sum : ℕ}
    (hcast : (sum : Residue) = residue bytes) :
    Verifies (u16le (UInt16.ofNat (completing sum)) ++ bytes) := by
  obtain ⟨hpos, hlt, hzero⟩ := completing_spec sum
  have hvalue : (UInt16.ofNat (completing sum)).toNat = completing sum :=
    UInt16.toNat_ofNat_of_lt' hlt
  have hword : 0 < leNat (u16le (UInt16.ofNat (completing sum))) := by
    rw [leNat_u16le, hvalue]
    exact hpos
  rw [verifies_iff (leNat_append_pos_left _ hword), residue_u16le_append,
    hvalue, ← hcast]
  exact hzero

def completingChecksums : RteChecksums where
  ipv4UdptcpCksum skb := UInt16.ofNat (completing (hostUdpSum skb))
  ipv4Cksum ip := UInt16.ofNat (completing (hostSum ip))

theorem completingChecksums_complete : completingChecksums.Complete where
  hipv4 ip _ := verifies_completing (hostSum_cast ip)
  hudp _ hpacket := verifies_completing (hostUdpSum_cast hpacket.hheader)

theorem samplePacket_complete : CompleteFrame samplePacket where
  hether := by decide
  hversion := by decide
  hihl := by decide
  hproto := by decide
  hports := by decide
  htotal := by decide

def allDelivered : LabCalls := ⟨true, true⟩

theorem lab_refines_iff_rangeFile :
    completingChecksums.Complete ∧
      checkConfig (rangeFile 80 90) = some (.ok ()) ∧
      CompleteFrame samplePacket ∧
      (LabRefines completingChecksums sampleDirector (rangeFile 80 90)
          allDelivered [] [] samplePacket ↔
        LabAgrees completingChecksums sampleDirector (rangeFile 80 90)
          allDelivered samplePacket) :=
  ⟨completingChecksums_complete, rangeFile_accepted 80 90,
    samplePacket_complete,
    lab_refines_iff completingChecksums_complete (rangeFile_accepted 80 90)
      samplePacket_complete allDelivered [] []⟩

/-! ## Two frames that are treated differently -/

section RangeFile

variable (portStart portEnd : UInt16)

theorem rangeFile_hasBind :
    FileHasBind (rangeFile portStart portEnd) 0
      (rangeBind portStart portEnd).view :=
  ⟨⟨1, numTables_configFile 1 _, by decide⟩, 1, 0,
    rangeFile_numBinds portStart portEnd, by decide,
    rangeFile_bind portStart portEnd⟩

theorem rangeFile_onlyBind {t : ℕ} {bind : FwdBind}
    (hbind : FileHasBind (rangeFile portStart portEnd) t bind) :
    bind = (rangeBind portStart portEnd).view := by
  obtain ⟨⟨num, hnum, ht⟩, numBinds, b, hnumBinds, hb, hread⟩ := hbind
  obtain rfl := Option.some.inj (hnum.symm.trans (numTables_configFile 1 _))
  obtain rfl : t = 0 := Nat.lt_one_iff.mp ht
  obtain rfl := Option.some.inj
    (hnumBinds.symm.trans (rangeFile_numBinds portStart portEnd))
  obtain rfl : b = 0 := Nat.lt_one_iff.mp hb
  exact Option.some.inj (hread.symm.trans (rangeFile_bind portStart portEnd))

theorem rangeBind_selects_iff {port : ℕ} :
    (rangeBind portStart portEnd).view.Selects samplePacket port ↔
      portStart.toNat ≤ port ∧ port ≤ portEnd.toNat := by
  constructor
  · intro hselects
    exact hselects.2.2.2
  · intro hport
    exact ⟨rfl, rfl, rfl, hport⟩

theorem rangeFile_selected_iff {port : ℕ} :
    (SomeBind (rangeFile portStart portEnd) fun bind =>
        bind.Selects samplePacket port) ↔
      portStart.toNat ≤ port ∧ port ≤ portEnd.toNat := by
  constructor
  · intro ⟨t, bind, hbind, hselects⟩
    rw [rangeFile_onlyBind portStart portEnd hbind] at hselects
    exact (rangeBind_selects_iff portStart portEnd).mp hselects
  · intro hport
    exact ⟨0, _, rangeFile_hasBind portStart portEnd,
      (rangeBind_selects_iff portStart portEnd).mpr hport⟩

theorem rangeFile_entry {row : ℕ} (hrow : row < tableEntries) :
    tableEntry (rangeFile portStart portEnd) 0 row = some ⟨0, 0⟩ := by
  have hentry : (rangeImage portStart portEnd).rows[row]? =
      some { primaryIdx := 0, secondaryIdx := 0 } := by
    show (List.replicate tableEntries _)[row]? = _
    rw [List.getElem?_replicate, if_pos hrow]
  exact tableEntry_configFile 1
    (show [rangeImage portStart portEnd][0]? = some _ from rfl) hentry

theorem rangeFile_addRoute (fields : PacketFields) :
    ∃ pktHash, glbAddPacketRoute (rangeFile portStart portEnd) 0
        { fields, ipv4Hops := [], pktHash := 0 } sampleDirector.hashFields =
      .ok { fields, pktHash
            ipv4Hops := [wordU32 [0x20, 0x01, 0x0d, 0xb8],
              wordU32 [0x20, 0x01, 0x0d, 0xb8]] } := by
  have hbackend : tableBackend (rangeFile portStart portEnd) 0 0 =
      some strayBackend.view :=
    tableBackend_configFile 1
      (show [rangeImage portStart portEnd][0]? = some _ from rfl)
      (padSlots_getElem?_used _ rfl)
  have hkey : tableSecureKey (rangeFile portStart portEnd) 0 =
      some (ByteVec.zero 16).val :=
    tableSecureKey_configFile 1
      (show [rangeImage portStart portEnd][0]? = some _ from rfl)
  have hroom : ([] : List UInt32).length + 2 ≤ glbMaxHops := by decide
  exact ⟨_, glbAddPacketRoute_eq_ok_iff.mpr ⟨⟨(ByteVec.zero 16).val,
    ⟨0, 0⟩, _, _, hkey, rangeFile_entry portStart portEnd
      (hashIdx_lt _ _ _ _), hroom, hbackend, hbackend, rfl⟩⟩⟩

theorem rangeFile_route :
    ∃ pktHash, glbCalculatePacketRoute sampleDirector
        (rangeFile portStart portEnd) 0 samplePacket =
      .ok { fields := sampleFields, pktHash
            ipv4Hops := [wordU32 [0x20, 0x01, 0x0d, 0xb8],
              wordU32 [0x20, 0x01, 0x0d, 0xb8]] } := by
  obtain ⟨pktHash, hadded⟩ := rangeFile_addRoute portStart portEnd sampleFields
  exact ⟨pktHash, glbCalculatePacketRoute_eq_ok_iff.mpr ⟨sampleFields, _,
    glbExtractPacketFields_sample, hadded,
    (if_neg Bool.false_ne_true).mpr rfl⟩⟩

end RangeFile

/-- The outer header does not verify without its checksum. -/
theorem wordSum_rangeRoute (pktHash : UInt64) :
    wordSum (encapIpv4 sampleDirector
      { fields := sampleFields, pktHash
        ipv4Hops := [wordU32 [0x20, 0x01, 0x0d, 0xb8],
          wordU32 [0x20, 0x01, 0x0d, 0xb8]] }) = 0xfd7e := by
  show wordSum (encapIpv4 sampleDirector ⟨sampleFields, _, 0⟩) = 0xfd7e
  decide +kernel

theorem rangeFile_sent_differs {rte : RteChecksums} (hrte : rte.Complete) :
    ∃ sent produced,
      liveDirector sampleDirector (rangeFile 0 0xffff) allDelivered [] []
        samplePacket = .sent 0 sent ∧
      glbEncapsulatePacketDpdk rte sampleDirector
        (rangeFile 0 0xffff) samplePacket 0 = .ok produced ∧
      sent.drop ethernetHdrSize ≠ produced.drop ethernetHdrSize := by
  obtain ⟨pktHash, hroute⟩ := rangeFile_route 0 0xffff
  have hselects := (rangeBind_selects_iff 0 0xffff).mpr
    (show _ ≤ labDstPort samplePacket ∧ _ by decide)
  have hlab : LabRoute sampleDirector (rangeFile 0 0xffff) samplePacket 0 _ :=
    ⟨⟨⟨_, rangeFile_hasBind 0 0xffff, hselects⟩,
      fun t ht => absurd ht (Nat.not_lt_zero t)⟩, hroute⟩
  have hdpdk := glbEncapsulatePacketDpdk_frame rte
    (numTables_configFile 1 _) (by decide) hroute
  refine ⟨_, _, (liveDirector_eq_sent_iff (rangeFile_accepted 0 0xffff)
    samplePacket_complete allDelivered [] []).mpr ⟨rfl, _, hlab, rfl⟩,
    hdpdk, ?_⟩
  intro hsame
  obtain ⟨_, hchecked⟩ := (hlab.frame_eq_iff hrte samplePacket_complete
    []).mp ⟨_, hdpdk, hsame⟩
  have hverifies := hchecked.hipv4
  rw [Verifies, wordSum_rangeRoute, fold_of_lt (by decide)] at hverifies
  exact absurd hverifies (by decide)

/-- A packet to port 80 of a bind for the ports 80 to 90 is dropped, whatever
the calls return.  Where the bind has all ports it is sent with another checksum
if `sendto` takes it, and not sent otherwise. -/
theorem lab_director_differs :
    CompleteFrame samplePacket ∧
      checkConfig (rangeFile 80 90) = some (.ok ()) ∧
      SelectedFrame (rangeFile 80 90) samplePacket ∧
      (∀ calls table sent, liveDirector sampleDirector (rangeFile 80 90) calls
        [] [] samplePacket ≠ .sent table sent) ∧
      checkConfig (rangeFile 0 0xffff) = some (.ok ()) ∧
      SelectedFrame (rangeFile 0 0xffff) samplePacket ∧
      (∀ rte : RteChecksums, rte.Complete → ∃ sent produced,
        liveDirector sampleDirector (rangeFile 0 0xffff) allDelivered [] []
          samplePacket = .sent 0 sent ∧
        glbEncapsulatePacketDpdk rte sampleDirector
          (rangeFile 0 0xffff) samplePacket 0 = .ok produced ∧
        sent.drop ethernetHdrSize ≠ produced.drop ethernetHdrSize) ∧
      ∀ table sent, liveDirector sampleDirector (rangeFile 0 0xffff)
        ⟨true, false⟩ [] [] samplePacket ≠ .sent table sent := by
  refine ⟨samplePacket_complete, rangeFile_accepted 80 90,
    (rangeFile_selected_iff 80 90).mpr (by decide), ?_,
    rangeFile_accepted 0 0xffff,
    (rangeFile_selected_iff 0 0xffff).mpr (by decide), ?_, ?_⟩
  · intro calls table sent hsent
    obtain ⟨_, ctx, hlab, _⟩ := (liveDirector_eq_sent_iff
      (rangeFile_accepted 80 90) samplePacket_complete calls [] []).mp hsent
    have hport := (rangeFile_selected_iff 80 90).mp ⟨table, hlab.hfirst.hhas⟩
    exact absurd hport (by decide)
  · exact fun rte hrte => rangeFile_sent_differs hrte
  · intro table sent hsent
    obtain ⟨hdelivers, _⟩ := (liveDirector_eq_sent_iff
      (rangeFile_accepted 0 0xffff) samplePacket_complete _ [] []).mp hsent
    exact absurd hdelivers Bool.false_ne_true

end GlbDirector
