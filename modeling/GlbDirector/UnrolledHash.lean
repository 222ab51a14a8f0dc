import GlbDirector.PacketParsing
import GlbDirector.PaddedBuffers

/-!
# The unrolled hash and its callers (`glb_siphash24.h`, `packet_parsing.h`)

The reference reads its input byte by byte, in a loop over the whole words and
a switch for the rest.  The unrolled version loads five words of a zeroed
buffer and guards its rounds by the number of words.  Both absorb the same
words.  `glb_compute_hash` fills that buffer through a moving pointer, and the
hash of a packet is therefore the reference hash of its selected fields.
-/

namespace GlbDirector

open ByteCodec PaddedBuffers

/-! ## The words of the reference -/

theorem orShifted_toNat {j : ℕ} {bytes : Bytes}
    (hfits : j + bytes.length ≤ 8) :
    (orShifted (UInt64.ofNat (8 * j)) bytes).toNat =
      2 ^ (8 * j) * leNat bytes := by
  induction bytes generalizing j with
  | nil => rfl
  | cons byte rest ih =>
      rw [List.length_cons] at hfits
      have hbyte : byte.toNat < 2 ^ 8 := byte.toNat_lt
      have hplace : byte.toNat * 2 ^ (8 * j) < 2 ^ (8 * (j + 1)) := by
        rw [Nat.mul_succ, pow_add, mul_comm]
        exact Nat.mul_lt_mul_of_pos_left hbyte (Nat.two_pow_pos _)
      have hword : byte.toNat * 2 ^ (8 * j) < 2 ^ 64 :=
        hplace.trans_le (Nat.pow_le_pow_right (by decide) (by omega))
      have hshift : (UInt64.ofNat (8 * j)).toNat % 64 = 8 * j := by
        rw [UInt64.toNat_ofNat_of_lt' (by show 8 * j < 2 ^ 64; omega)]
        omega
      have hnext : UInt64.ofNat (8 * j) + 8 = UInt64.ofNat (8 * (j + 1)) := by
        rw [Nat.mul_succ, UInt64.ofNat_add]
        rfl
      have hrest := ih (show j + 1 + rest.length ≤ 8 by omega)
      -- the byte lies below the bytes that follow it
      have hjoin := Nat.two_pow_add_eq_or_of_lt hplace (leNat rest)
      rw [orShifted, hnext, UInt64.toNat_or, hrest, UInt64.toNat_shiftLeft,
        UInt8.toNat_toUInt64, hshift, Nat.shiftLeft_eq,
        Nat.mod_eq_of_lt hword, Nat.or_comm, ← hjoin, leNat, Nat.mul_succ,
        pow_add]
      ring

theorem orShifted_eq_wordU64 {bytes : Bytes} (hlength : bytes.length ≤ 8) :
    orShifted 0 bytes = wordU64 bytes := by
  have hvalue := orShifted_toNat (show 0 + bytes.length ≤ 8 by omega)
  rw [Nat.mul_zero, pow_zero, one_mul] at hvalue
  rw [wordU64, ← hvalue, UInt64.ofNat_toNat]
  rfl

theorem u8to64Le_drop (i : ℕ) (bytes : Bytes) :
    u8to64Le (bytes.drop (8 * i)) = wordAt i bytes :=
  orShifted_eq_wordU64 (List.length_take_le 8 _)

theorem sipWords_eq_foldl (blocks : ℕ) (input : Bytes) (state : SipState) :
    sipWords blocks input state =
      (List.range blocks).foldl (fun s i => sipAbsorb (wordAt i input) s)
        state := by
  induction blocks generalizing input state with
  | zero => rfl
  | succ blocks ih =>
      have hshift : ∀ i, wordAt i (input.drop 8) = wordAt (i + 1) input := by
        intro i
        rw [wordAt, List.drop_drop, Nat.add_comm 8, wordAt, Nat.mul_succ]
      rw [sipWords, ih, List.range_succ_eq_map, List.foldl_cons,
        List.foldl_map]
      simp only [hshift, Nat.succ_eq_add_one]
      rw [← u8to64Le_drop 0, Nat.mul_zero, List.drop_zero]

/-- The last word: what follows the whole words, with the length in its
highest byte. -/
def sipLastWord (input : Bytes) : UInt64 :=
  (UInt64.ofNat input.length <<< 56) |||
    wordU64 (input.drop (8 * (input.length / 8)))

theorem siphash_eq (input k : Bytes) :
    siphash input k = u64le (sipFinish (sipAbsorb (sipLastWord input)
      ((List.range (input.length / 8)).foldl
        (fun s i => sipAbsorb (wordAt i input) s)
        (sipInit (wordAt 0 k) (wordAt 1 k))))) := by
  have hrest : (input.drop (8 * (input.length / 8))).length ≤ 8 := by
    rw [List.length_drop]
    omega
  rw [siphash, sipWords_eq_foldl, orShifted_eq_wordU64 hrest, sipLastWord,
    ← u8to64Le_drop 0, ← u8to64Le_drop 1]
  rfl

/-! ## The words of the unrolled version -/

/-- The unrolled passes are the first five of a guarded loop. -/
theorem unrolled_eq_foldl {σ : Type} (pass : ℕ → σ → σ) (n : ℕ) (start : σ) :
    (let s := pass 0 start
     let s := if n + 1 > 1 then pass 1 s else s
     let s := if n + 1 > 2 then pass 2 s else s
     let s := if n + 1 > 3 then pass 3 s else s
     if n + 1 > 4 then pass 4 s else s) =
      (List.range 5).foldl (fun s i => if i < n + 1 then pass i s else s)
        start := by
  have hrange : List.range 5 = [0, 1, 2, 3, 4] := rfl
  rw [hrange, List.foldl_cons, if_pos (Nat.succ_pos n)]
  rfl

/-- `round_data` after the length has been put into its last used word. -/
def roundWord (buf : Bytes) (inlen i : ℕ) : UInt64 :=
  if i = inlen / 8 then wordAt i buf ||| (UInt64.ofNat inlen <<< 56)
  else wordAt i buf

theorem glbSiphash_eq_foldl {inlen : ℕ}
    (hinlen : inlen < glbSiphashRequiredInSize) (buf k : Bytes) :
    glbSiphash buf inlen k = some (sipFinish ((List.range 5).foldl
      (fun s i => if i < inlen / 8 + 1 then sipAbsorb (roundWord buf inlen i) s
        else s)
      (sipInit (wordAt 0 k) (wordAt 1 k)))) := by
  rw [← unrolled_eq_foldl (fun i s => sipAbsorb (roundWord buf inlen i) s)]
  unfold glbSiphash roundWord wordAt
  simp only [if_neg (Nat.not_le.mpr hinlen), Nat.add_sub_cancel, Nat.mul_zero,
    List.drop_zero, Nat.mul_one]

theorem glbSiphash_eq {inlen : ℕ} (hinlen : inlen < glbSiphashRequiredInSize)
    (buf k : Bytes) :
    glbSiphash buf inlen k = some (sipFinish (sipAbsorb
      (wordAt (inlen / 8) buf ||| (UInt64.ofNat inlen <<< 56))
      ((List.range (inlen / 8)).foldl (fun s i => sipAbsorb (wordAt i buf) s)
        (sipInit (wordAt 0 k) (wordAt 1 k))))) := by
  have hbound : inlen / 8 + 1 ≤ 5 := by
    unfold glbSiphashRequiredInSize at hinlen
    omega
  have hwhole : ∀ (s : SipState), ∀ i ∈ List.range (inlen / 8),
      sipAbsorb (roundWord buf inlen i) s = sipAbsorb (wordAt i buf) s := by
    intro s i hi
    rw [roundWord, if_neg (List.mem_range.mp hi).ne]
  have hlast : roundWord buf inlen (inlen / 8) =
      wordAt (inlen / 8) buf ||| (UInt64.ofNat inlen <<< 56) :=
    if_pos rfl
  rw [glbSiphash_eq_foldl hinlen,
    foldl_range_guarded (fun i s => sipAbsorb (roundWord buf inlen i) s) hbound,
    List.range_succ, List.foldl_append, List.foldl_cons, List.foldl_nil, hlast,
    List.foldl_ext _ _ _ hwhole]

theorem glbSiphash_padded {input : Bytes}
    (hfits : input.length < glbSiphashRequiredInSize) (k : Bytes) :
    (glbSiphash (padded glbSiphashRequiredInSize input) input.length k).map
      u64le = some (siphash input k) := by
  have hwhole : ∀ (s : SipState), ∀ i ∈ List.range (input.length / 8),
      sipAbsorb (wordAt i (padded glbSiphashRequiredInSize input)) s =
        sipAbsorb (wordAt i input) s := by
    intro s i hi
    have hlt := List.mem_range.mp hi
    rw [wordAt_padded (by omega)]
  rw [glbSiphash_eq hfits, Option.map_some, siphash_eq, sipLastWord,
    List.foldl_ext _ _ _ hwhole, wordAt_padded_rest, UInt64.or_comm]

/-! ## Filling the buffer (`glb_compute_hash`) -/

/-- What `glb_compute_hash` reads of a `glb_route_context`.  An address is a
union of a `uint32_t` and the 16 bytes of an IPv6 address. -/
structure HashContext where
  etherType : UInt16
  srcAddr : ByteVec 16
  dstAddr : ByteVec 16
  srcPort : UInt16
  dstPort : UInt16

/-- The member `ipv4` of the union. -/
def addrIpv4 (addr : ByteVec 16) : UInt32 := wordU32 (addr.val.take 4)

/-- `return -1`, or a store behind the end of `hash_buf`. -/
inductive HashExit where
  | rejected
  | outside
  deriving DecidableEq

/-- A store at the pointer, and the pointer behind it. -/
def hashPush (val hashBuf : Bytes) (hashCurr : ℕ) :
    Except HashExit (Bytes × ℕ) :=
  if hashCurr + val.length ≤ hashBuf.length then
    .ok (patch hashCurr val hashBuf, hashCurr + val.length)
  else
    .error .outside

def glbHashPushUint16 (val : UInt16) := hashPush (u16le val)

def glbHashPushUint32 (val : UInt32) := hashPush (u32le val)

def glbHashPushIpv6 (val : ByteVec 16) := hashPush val.val

/-- The local variables; `hash_curr` is its distance from `hash_buf`. -/
structure HashCursor where
  hashBuf : Bytes
  hashCurr : ℕ
  hashLen : ℕ

def HashCursor.start : HashCursor where
  hashBuf := List.replicate glbSiphashRequiredInSize 0
  hashCurr := 0
  hashLen := 0

/-- A push, and `hash_len += sizeof(..)`. -/
def HashCursor.add (s : HashCursor)
    (push : Bytes → ℕ → Except HashExit (Bytes × ℕ)) (size : ℕ) :
    Except HashExit HashCursor := do
  let (hashBuf, hashCurr) ← push s.hashBuf s.hashCurr
  return { hashBuf, hashCurr, hashLen := s.hashLen + size }

/-- The check in front of a push for the verifier of the XDP build. -/
def HashCursor.guard (s : HashCursor) (build : ParserBuild) (size : ℕ) :
    Except HashExit Unit :=
  if build = .xdp ∧ s.hashCurr + size > maxHashDataSize then .error .rejected
  else .ok ()

def pushIpv4 (addr : ByteVec 16) (s : HashCursor) :
    Except HashExit HashCursor :=
  s.add (glbHashPushUint32 (addrIpv4 addr)) 4

def pushIpv6 (build : ParserBuild) (addr : ByteVec 16) (s : HashCursor) :
    Except HashExit HashCursor := do
  s.guard build 16
  s.add (glbHashPushIpv6 addr) 16

def pushPort (port : UInt16) (s : HashCursor) : Except HashExit HashCursor :=
  s.add (glbHashPushUint16 port) 2

def ifSelected (selected : Bool)
    (push : HashCursor → Except HashExit HashCursor) (s : HashCursor) :
    Except HashExit HashCursor :=
  if selected then push s else .ok s

def hashAddresses (build : ParserBuild) (ctx : HashContext) (cfg : HashFields)
    (s : HashCursor) : Except HashExit HashCursor :=
  if ctx.etherType = etherTypeIpv4 then do
    let s ← ifSelected cfg.srcAddr (pushIpv4 ctx.srcAddr) s
    ifSelected cfg.dstAddr (pushIpv4 ctx.dstAddr) s
  else if ctx.etherType = etherTypeIpv6 then do
    let s ← ifSelected cfg.srcAddr (pushIpv6 build ctx.srcAddr) s
    ifSelected cfg.dstAddr (pushIpv6 build ctx.dstAddr) s
  else
    .error .rejected

def hashPorts (ctx : HashContext) (cfg : HashFields) (s : HashCursor) :
    Except HashExit HashCursor := do
  let s ← ifSelected cfg.srcPort (pushPort ctx.srcPort) s
  ifSelected cfg.dstPort (pushPort ctx.dstPort) s

/-- The arguments `in` and `inlen` of a call of `glb_siphash`. -/
structure SiphashCall where
  hashBuf : Bytes
  hashLen : ℕ

/-- `glb_compute_hash` up to the call. -/
def hashArguments (build : ParserBuild) (ctx : HashContext)
    (cfg : HashFields) : Except HashExit SiphashCall := do
  let s ← hashAddresses build ctx cfg .start
  let s ← hashPorts ctx cfg s
  if build = .xdp ∧ ¬ (0 < s.hashLen ∧ s.hashLen ≤ maxHashDataSize) then
    .error .rejected
  else
    return { hashBuf := s.hashBuf, hashLen := s.hashLen }

/-- `glb_compute_hash`; a store outside the buffer has no value. -/
def bufComputeHash (build : ParserBuild) (ctx : HashContext)
    (secret : Bytes) (cfg : HashFields) : Option UInt64 :=
  match hashArguments build ctx cfg with
  | .ok call => some ((glbSiphash call.hashBuf call.hashLen secret).getD 0)
  | .error .rejected => some hashError
  | .error .outside => none

/-! ## The selected fields -/

/-- The bytes of the address in the packet. -/
def HashContext.address (ctx : HashContext) (addr : ByteVec 16) : Bytes :=
  if ctx.etherType = etherTypeIpv4 then addr.val.take 4 else addr.val

/-- The selected fields, one behind the other. -/
def HashContext.selected (ctx : HashContext) (cfg : HashFields) : Bytes :=
  pushIf cfg.srcAddr (ctx.address ctx.srcAddr) ++
    (pushIf cfg.dstAddr (ctx.address ctx.dstAddr) ++
      (pushIf cfg.srcPort (u16le ctx.srcPort) ++
        pushIf cfg.dstPort (u16le ctx.dstPort)))

/-- An IP packet, for which the XDP build has a field to hash. -/
def HashContext.CallsHash (ctx : HashContext) (build : ParserBuild)
    (cfg : HashFields) : Prop :=
  (ctx.etherType = etherTypeIpv4 ∨ ctx.etherType = etherTypeIpv6) ∧
    (build = .xdp → cfg.any = true)

instance (ctx : HashContext) (build : ParserBuild) (cfg : HashFields) :
    Decidable (ctx.CallsHash build cfg) :=
  inferInstanceAs (Decidable (_ ∧ _))

theorem HashContext.address_length (ctx : HashContext) (addr : ByteVec 16) :
    0 < (ctx.address addr).length ∧ (ctx.address addr).length ≤ 16 := by
  have hlength := addr.property
  unfold HashContext.address
  split
  · rw [List.length_take]
    omega
  · omega

theorem pushIf_length (selected : Bool) (bytes : Bytes) :
    (pushIf selected bytes).length = if selected then bytes.length else 0 := by
  cases selected <;> rfl

theorem HashContext.selected_length (ctx : HashContext) (cfg : HashFields) :
    (ctx.selected cfg).length ≤ maxHashDataSize ∧
      (0 < (ctx.selected cfg).length ↔ cfg.any = true) := by
  have hsrc := ctx.address_length ctx.srcAddr
  have hdst := ctx.address_length ctx.dstAddr
  obtain ⟨srcAddr, dstAddr, srcPort, dstPort⟩ := cfg
  simp only [HashContext.selected, List.length_append, pushIf_length,
    u16le_length, HashFields.any, Bool.or_eq_true, maxHashDataSize]
  constructor
  · split <;> split <;> split <;> split <;> omega
  · cases srcAddr <;> cases dstAddr <;> cases srcPort <;> cases dstPort <;>
      simp <;> omega

/-- The last check of the XDP build, for an IP packet. -/
theorem HashContext.rejects_iff (build : ParserBuild) {ctx : HashContext}
    (hip : ctx.etherType = etherTypeIpv4 ∨ ctx.etherType = etherTypeIpv6)
    (cfg : HashFields) :
    (build = .xdp ∧ ¬ (0 < (ctx.selected cfg).length ∧
        (ctx.selected cfg).length ≤ maxHashDataSize)) ↔
      ¬ ctx.CallsHash build cfg := by
  obtain ⟨hle, hpos⟩ := ctx.selected_length cfg
  rw [HashContext.CallsHash, and_iff_left hle, hpos, and_iff_right hip,
    Classical.not_imp]

/-! ## The pushes -/

/-- The variables when the data have been pushed. -/
def HashCursor.holding (data : Bytes) : HashCursor where
  hashBuf := padded glbSiphashRequiredInSize data
  hashCurr := data.length
  hashLen := data.length

theorem HashCursor.start_eq : HashCursor.start = .holding [] := rfl

theorem HashCursor.add_holding {data val : Bytes} {size : ℕ}
    (hsize : val.length = size)
    (hfits : data.length + size ≤ glbSiphashRequiredInSize) :
    (HashCursor.holding data).add (hashPush val) size =
      .ok (.holding (data ++ val)) := by
  subst hsize
  have hroom : data.length + val.length ≤
      (padded glbSiphashRequiredInSize data).length := by
    rw [padded_length (by omega)]
    exact hfits
  unfold HashCursor.add HashCursor.holding hashPush
  rw [if_pos hroom, patch_padded, List.length_append]
  rfl

theorem HashCursor.guard_holding (build : ParserBuild) {data : Bytes}
    {size : ℕ} (hfits : data.length + size ≤ maxHashDataSize) :
    (HashCursor.holding data).guard build size = .ok () :=
  if_neg fun hguard => absurd hguard.2 (Nat.not_lt.mpr hfits)

theorem ifSelected_holding (selected : Bool)
    {push : HashCursor → Except HashExit HashCursor} {data val : Bytes}
    (hpush : push (.holding data) = .ok (.holding (data ++ val))) :
    ifSelected selected push (.holding data) =
      .ok (.holding (data ++ pushIf selected val)) := by
  cases selected with
  | true => exact hpush
  | false =>
      have hnone : pushIf false val = [] := rfl
      rw [hnone, List.append_nil]
      rfl

theorem pushIpv4_holding {ctx : HashContext}
    (hether : ctx.etherType = etherTypeIpv4) (addr : ByteVec 16)
    {data : Bytes} (hdata : data.length ≤ 16) :
    pushIpv4 addr (.holding data) =
      .ok (.holding (data ++ ctx.address addr)) := by
  have hlength : (addr.val.take 4).length = 4 := by
    rw [List.length_take, addr.property]
    rfl
  have hfits : data.length + 4 ≤ glbSiphashRequiredInSize := by
    unfold glbSiphashRequiredInSize
    omega
  rw [HashContext.address, if_pos hether, pushIpv4, glbHashPushUint32,
    addrIpv4, u32le_wordU32 hlength]
  exact HashCursor.add_holding hlength hfits

theorem pushIpv6_holding {ctx : HashContext}
    (hether : ctx.etherType ≠ etherTypeIpv4) (build : ParserBuild)
    (addr : ByteVec 16) {data : Bytes} (hdata : data.length ≤ 16) :
    pushIpv6 build addr (.holding data) =
      .ok (.holding (data ++ ctx.address addr)) := by
  have hguard : data.length + 16 ≤ maxHashDataSize := by
    unfold maxHashDataSize
    omega
  have hfits : data.length + 16 ≤ glbSiphashRequiredInSize := by
    unfold glbSiphashRequiredInSize
    omega
  rw [HashContext.address, if_neg hether, pushIpv6,
    HashCursor.guard_holding build hguard]
  exact HashCursor.add_holding addr.property hfits

theorem pushPort_holding (port : UInt16) {data : Bytes}
    (hdata : data.length ≤ 34) :
    pushPort port (.holding data) = .ok (.holding (data ++ u16le port)) := by
  apply HashCursor.add_holding (u16le_length port)
  unfold glbSiphashRequiredInSize
  omega

theorem pushIf_length_le (selected : Bool) (bytes : Bytes) :
    (pushIf selected bytes).length ≤ bytes.length := by
  rw [pushIf_length]
  split
  · exact le_rfl
  · exact Nat.zero_le _

/-- Both families push their two addresses alike. -/
theorem pushAddresses_holding {ctx : HashContext}
    {push : ByteVec 16 → HashCursor → Except HashExit HashCursor}
    (hpush : ∀ addr data, data.length ≤ 16 →
      push addr (.holding data) = .ok (.holding (data ++ ctx.address addr)))
    (cfg : HashFields) :
    (ifSelected cfg.srcAddr (push ctx.srcAddr) .start >>=
        ifSelected cfg.dstAddr (push ctx.dstAddr)) =
      .ok (.holding (pushIf cfg.srcAddr (ctx.address ctx.srcAddr) ++
        pushIf cfg.dstAddr (ctx.address ctx.dstAddr))) := by
  have hsrc := (pushIf_length_le cfg.srcAddr (ctx.address ctx.srcAddr)).trans
    (ctx.address_length ctx.srcAddr).2
  rw [HashCursor.start_eq,
    ifSelected_holding cfg.srcAddr (hpush ctx.srcAddr [] (Nat.zero_le 16)),
    List.nil_append]
  exact ifSelected_holding cfg.dstAddr (hpush ctx.dstAddr _ hsrc)

theorem hashAddresses_eq (build : ParserBuild) {ctx : HashContext}
    (hip : ctx.etherType = etherTypeIpv4 ∨ ctx.etherType = etherTypeIpv6)
    (cfg : HashFields) :
    hashAddresses build ctx cfg .start = .ok (.holding
      (pushIf cfg.srcAddr (ctx.address ctx.srcAddr) ++
        pushIf cfg.dstAddr (ctx.address ctx.dstAddr))) := by
  by_cases hipv4 : ctx.etherType = etherTypeIpv4
  · rw [hashAddresses, if_pos hipv4]
    exact pushAddresses_holding
      (fun addr data hdata => pushIpv4_holding hipv4 addr hdata) cfg
  · rw [hashAddresses, if_neg hipv4, if_pos (hip.resolve_left hipv4)]
    exact pushAddresses_holding
      (fun addr data hdata => pushIpv6_holding hipv4 build addr hdata) cfg

theorem hashPorts_holding (ctx : HashContext) (cfg : HashFields) {data : Bytes}
    (hdata : data.length ≤ 32) :
    hashPorts ctx cfg (.holding data) = .ok (.holding
      (data ++ (pushIf cfg.srcPort (u16le ctx.srcPort) ++
        pushIf cfg.dstPort (u16le ctx.dstPort)))) := by
  have hsrc := pushIf_length_le cfg.srcPort (u16le ctx.srcPort)
  rw [u16le_length] at hsrc
  have hboth :
      (data ++ pushIf cfg.srcPort (u16le ctx.srcPort)).length ≤ 34 := by
    rw [List.length_append]
    omega
  rw [hashPorts, ifSelected_holding cfg.srcPort
    (pushPort_holding ctx.srcPort (show data.length ≤ 34 by omega)),
    ← List.append_assoc]
  exact ifSelected_holding cfg.dstPort (pushPort_holding ctx.dstPort hboth)

theorem hashArguments_eq (build : ParserBuild) (ctx : HashContext)
    (cfg : HashFields) :
    hashArguments build ctx cfg =
      if ctx.CallsHash build cfg then
        .ok { hashBuf := padded glbSiphashRequiredInSize (ctx.selected cfg)
              hashLen := (ctx.selected cfg).length }
      else
        .error .rejected := by
  by_cases hip : ctx.etherType = etherTypeIpv4 ∨ ctx.etherType = etherTypeIpv6
  · have hsrc := (pushIf_length_le cfg.srcAddr (ctx.address ctx.srcAddr)).trans
      (ctx.address_length ctx.srcAddr).2
    have hdst := (pushIf_length_le cfg.dstAddr (ctx.address ctx.dstAddr)).trans
      (ctx.address_length ctx.dstAddr).2
    have haddresses : (pushIf cfg.srcAddr (ctx.address ctx.srcAddr) ++
        pushIf cfg.dstAddr (ctx.address ctx.dstAddr)).length ≤ 32 := by
      rw [List.length_append]
      omega
    have hports := hashPorts_holding ctx cfg haddresses
    rw [List.append_assoc] at hports
    have hcheck := HashContext.rejects_iff build hip cfg
    rw [hashArguments, hashAddresses_eq build hip]
    show (hashPorts ctx cfg _ >>= _) = _
    rw [hports]
    show (if build = .xdp ∧ ¬ (0 < (ctx.selected cfg).length ∧
      (ctx.selected cfg).length ≤ maxHashDataSize) then _ else _) = _
    by_cases hcall : ctx.CallsHash build cfg
    · rw [if_pos hcall, if_neg (fun hreject => hcheck.mp hreject hcall)]
      rfl
    · rw [if_neg hcall, if_pos (hcheck.mpr hcall)]
  · have hcall : ¬ ctx.CallsHash build cfg := fun hcall => hip hcall.1
    rw [not_or] at hip
    rw [if_neg hcall, hashArguments, hashAddresses, if_neg hip.1, if_neg hip.2]
    rfl

/-! ## The hash of a packet -/

/-- The context of a packet with these fields. -/
structure HashContext.Holds (ctx : HashContext) (fields : PacketFields) :
    Prop where
  hether : ctx.etherType = fields.etherType
  hsrcAddr : ctx.address ctx.srcAddr = fields.srcAddr
  hdstAddr : ctx.address ctx.dstAddr = fields.dstAddr
  hsrcPort : ctx.srcPort = fields.srcPort
  hdstPort : ctx.dstPort = fields.dstPort

theorem HashContext.Holds.selected_eq {ctx : HashContext}
    {fields : PacketFields} (hholds : ctx.Holds fields) (cfg : HashFields) :
    ctx.selected cfg = hashData fields cfg := by
  rw [HashContext.selected, hholds.hsrcAddr, hholds.hdstAddr, hholds.hsrcPort,
    hholds.hdstPort, hashData]

/-- The packet path appends the selected fields; storing them through the
pointer gives the same hash. -/
theorem bufComputeHash_eq {ctx : HashContext} {fields : PacketFields}
    (hholds : ctx.Holds fields) (build : ParserBuild) (secret : Bytes)
    (cfg : HashFields) :
    bufComputeHash build ctx secret cfg =
      some (glbComputeHash build fields secret cfg) := by
  rw [bufComputeHash, hashArguments_eq, glbComputeHash, ← hholds.hether,
    ← hholds.selected_eq cfg]
  by_cases hip : ctx.etherType = etherTypeIpv4 ∨ ctx.etherType = etherTypeIpv6
  · have hcheck := HashContext.rejects_iff build hip cfg
    rw [if_pos hip]
    by_cases hcall : ctx.CallsHash build cfg
    · rw [if_pos hcall, if_neg (fun hreject => hcheck.mp hreject hcall)]
      rfl
    · rw [if_neg hcall, if_pos (hcheck.mpr hcall)]
  · have hcall : ¬ ctx.CallsHash build cfg := fun hcall => hip hcall.1
    rw [if_neg hcall, if_neg hip]

theorem HashContext.selected_fits (ctx : HashContext) (cfg : HashFields) :
    (ctx.selected cfg).length < glbSiphashRequiredInSize :=
  (ctx.selected_length cfg).1.trans_lt (by decide)

/-- The hash of a packet is the reference hash of its selected fields. -/
theorem bufComputeHash_eq_siphash {ctx : HashContext} {build : ParserBuild}
    {cfg : HashFields} (hcall : ctx.CallsHash build cfg) (secret : Bytes) :
    bufComputeHash build ctx secret cfg =
      some (wordU64 (siphash (ctx.selected cfg) secret)) := by
  obtain ⟨hash, hhash, hbytes⟩ := Option.map_eq_some_iff.mp
    (glbSiphash_padded (ctx.selected_fits cfg) secret)
  rw [bufComputeHash, hashArguments_eq, if_pos hcall, ← hbytes, wordU64_u64le]
  show some ((glbSiphash _ _ secret).getD 0) = _
  rw [hhash, Option.getD_some]

/-- A context of a packet; behind an IPv4 address a union may hold anything,
here zeros. -/
def PacketFields.context (fields : PacketFields)
    (hsrc : fields.srcAddr.length ≤ 16) (hdst : fields.dstAddr.length ≤ 16) :
    HashContext where
  etherType := fields.etherType
  srcAddr := ⟨padded 16 fields.srcAddr, padded_length hsrc⟩
  dstAddr := ⟨padded 16 fields.dstAddr, padded_length hdst⟩
  srcPort := fields.srcPort
  dstPort := fields.dstPort

theorem HashContext.address_padded_ipv4 {ctx : HashContext}
    (hether : ctx.etherType = etherTypeIpv4) {addr : Bytes}
    (hlength : addr.length = 4) (hsize : addr.length ≤ 16) :
    ctx.address ⟨padded 16 addr, padded_length hsize⟩ = addr := by
  rw [HashContext.address, if_pos hether]
  exact List.take_left' hlength

theorem HashContext.address_padded_ipv6 {ctx : HashContext}
    (hether : ctx.etherType = etherTypeIpv6) {addr : Bytes}
    (hlength : addr.length = 16) (hsize : addr.length ≤ 16) :
    ctx.address ⟨padded 16 addr, padded_length hsize⟩ = addr := by
  have hipv4 : ctx.etherType ≠ etherTypeIpv4 := by
    rw [hether]
    decide
  rw [HashContext.address, if_neg hipv4]
  show addr ++ List.replicate (16 - addr.length) 0 = addr
  rw [hlength, Nat.sub_self, List.replicate_zero, List.append_nil]

theorem FamilyFields.exists_holds {fields : PacketFields}
    (hfamily : FamilyFields fields) :
    ∃ ctx : HashContext, ctx.Holds fields := by
  cases hfamily with
  | ipv4 hether hsrc hdst hgue =>
      refine ⟨fields.context (by omega) (by omega), rfl, ?_, ?_, rfl, rfl⟩
      · exact HashContext.address_padded_ipv4 hether hsrc (by omega)
      · exact HashContext.address_padded_ipv4 hether hdst (by omega)
  | ipv6 hether hsrc hdst hgue =>
      refine ⟨fields.context hsrc.le hdst.le, rfl, ?_, ?_, rfl, rfl⟩
      · exact HashContext.address_padded_ipv6 hether hsrc hsrc.le
      · exact HashContext.address_padded_ipv6 hether hdst hdst.le

theorem glbComputeHash_eq_siphash {fields : PacketFields}
    (hfamily : FamilyFields fields) {build : ParserBuild} {cfg : HashFields}
    (hany : build = .xdp → cfg.any = true) (secret : Bytes) :
    glbComputeHash build fields secret cfg =
      wordU64 (siphash (hashData fields cfg) secret) := by
  obtain ⟨ctx, hholds⟩ := hfamily.exists_holds
  have hip : ctx.etherType = etherTypeIpv4 ∨
      ctx.etherType = etherTypeIpv6 := by
    rw [hholds.hether]
    cases hfamily with
    | ipv4 hether hsrc hdst hgue => exact .inl hether
    | ipv6 hether hsrc hdst hgue => exact .inr hether
  have hhash := bufComputeHash_eq_siphash ⟨hip, hany⟩ secret
  rw [bufComputeHash_eq hholds, hholds.selected_eq] at hhash
  exact Option.some.inj hhash

/-- What `glb_siphash` requires of its arguments. -/
structure SiphashInput (input buf : Bytes) (inlen : ℕ) : Prop where
  hinlen : inlen = input.length
  hfits : input.length < glbSiphashRequiredInSize
  hpadded : Padded glbSiphashRequiredInSize input buf

theorem unrolled_hash_agrees
    (k : ByteVec 16) :
    (∀ input buf inlen, SiphashInput input buf inlen →
      (glbSiphash buf inlen k.val).map u64le = some (siphash input k.val)) ∧
    ∀ build ctx cfg,
      hashArguments build ctx cfg ≠ .error .outside ∧
      ((∃ call, hashArguments build ctx cfg = .ok call) ↔
        ctx.CallsHash build cfg) ∧
      ∀ call, hashArguments build ctx cfg = .ok call →
        SiphashInput (ctx.selected cfg) call.hashBuf call.hashLen := by
  constructor
  · intro input buf inlen hinput
    rw [hinput.hpadded.eq, hinput.hinlen]
    exact glbSiphash_padded hinput.hfits k.val
  · intro build ctx cfg
    have hfits := ctx.selected_fits cfg
    rw [hashArguments_eq]
    by_cases hcall : ctx.CallsHash build cfg
    · rw [if_pos hcall]
      refine ⟨nofun, iff_of_true ⟨_, rfl⟩ hcall, ?_⟩
      intro call harguments
      cases harguments
      exact ⟨rfl, hfits, padded_padded hfits.le⟩
    · rw [if_neg hcall]
      exact ⟨nofun, iff_of_false nofun hcall, nofun⟩

/-- A packet from 192.168.0.4:12345. -/
def sampleHashContext : HashContext where
  etherType := etherTypeIpv4
  srcAddr := ⟨[192, 168, 0, 4] ++ List.replicate 12 7, rfl⟩
  dstAddr := ⟨[1, 1, 1, 1] ++ List.replicate 12 7, rfl⟩
  srcPort := wordU16 [0x30, 0x39]
  dstPort := wordU16 [0, 80]

theorem unrolled_hash_agrees_sample :
    (glbSiphash (padded 40 ((List.range 15).map UInt8.ofNat)) 15
        ((List.range 16).map UInt8.ofNat)).map u64le =
      some (siphash ((List.range 15).map UInt8.ofNat)
        ((List.range 16).map UInt8.ofNat)) ∧
    hashArguments .xdp sampleHashContext ⟨true, false, true, false⟩ = .ok
      { hashBuf := [192, 168, 0, 4, 0x30, 0x39] ++ List.replicate 34 0
        hashLen := 6 } ∧
    SiphashInput [192, 168, 0, 4, 0x30, 0x39]
      ([192, 168, 0, 4, 0x30, 0x39] ++ List.replicate 34 0) 6 := by
  have hagrees := unrolled_hash_agrees ⟨(List.range 16).map UInt8.ofNat, rfl⟩
  have harguments : hashArguments .xdp sampleHashContext
      ⟨true, false, true, false⟩ = .ok
        { hashBuf := [192, 168, 0, 4, 0x30, 0x39] ++ List.replicate 34 0
          hashLen := 6 } := rfl
  have hinput : SiphashInput ((List.range 15).map UInt8.ofNat)
      (padded 40 ((List.range 15).map UInt8.ofNat)) 15 :=
    ⟨rfl, by decide, padded_padded (by decide)⟩
  exact ⟨hagrees.1 _ _ _ hinput, harguments,
    (hagrees.2 .xdp sampleHashContext ⟨true, false, true, false⟩).2.2 _
      harguments⟩

end GlbDirector
