import GlbDirector.BindClassifier
import GlbDirector.FlowPackets
import GlbDirector.XdpLoading

/-!
# What the bind classifier matches

The rules of an accepted file are those of its binds, and each of the three
kinds asks for a few fields of the packet: the others carry specifications
that accept every value.  A packet is therefore classified to the tables that
have a bind of its family which matches it in one of three ways.
-/

namespace GlbDirector

open ByteCodec AclMatch ExceptLoops

/-! ## The binds of a file -/

/-- `bind` is among the binds that table `t` counts. -/
def TableHasBind (raw : Bytes) (t : ℕ) (bind : FwdBind) : Prop :=
  ∃ numBinds b, tableNumBinds raw t = some numBinds ∧
    b < numBinds.toNat ∧ tableBind raw t b = some bind

def FileHasBind (raw : Bytes) (t : ℕ) (bind : FwdBind) : Prop :=
  (∃ num, numTables raw = some num ∧ t < num.toNat) ∧
    TableHasBind raw t bind

theorem exists_numTables {raw : Bytes}
    (hcheck : checkConfig raw = some (.ok ())) :
    ∃ num, numTables raw = some num := by
  simp only [checkConfig, Option.bind_eq_bind, Option.bind_eq_some_iff,
    guarded_ok_iff] at hcheck
  obtain ⟨_, _, _, _, _, _, _, _, _, _, _, _, num, hnum, _⟩ := hcheck
  exact ⟨num, hnum⟩

theorem tableBind_addr_length {raw : Bytes} {t b : ℕ} {bind : FwdBind}
    (hbind : tableBind raw t b = some bind) : bind.ipv6Addr.length = 16 := by
  obtain ⟨record, hrecord, rfl⟩ := Option.map_eq_some_iff.mp hbind
  have hlength := slice_length hrecord
  rw [contentBindSize] at hlength
  rw [decodeBind, List.length_take, List.length_drop, hlength]
  rfl

theorem FileHasBind.addr_length {raw : Bytes} {t : ℕ} {bind : FwdBind}
    (hbind : FileHasBind raw t bind) : bind.ipv6Addr.length = 16 := by
  obtain ⟨_, _, _, _, _, htable⟩ := hbind
  exact tableBind_addr_length htable

def SomeBind (raw : Bytes) (holds : FwdBind → Prop) : Prop :=
  ∃ t bind, FileHasBind raw t bind ∧ holds bind

theorem SomeBind.mono {raw : Bytes} {holds holds' : FwdBind → Prop}
    (hsome : SomeBind raw holds) (himp : ∀ bind, holds bind → holds' bind) :
    SomeBind raw holds' := by
  obtain ⟨t, bind, hbind, hholds⟩ := hsome
  exact ⟨t, bind, hbind, himp bind hholds⟩

theorem someBind_congr {raw : Bytes} {holds holds' : FwdBind → Prop}
    (hsame : ∀ t bind, FileHasBind raw t bind →
      (holds bind ↔ holds' bind)) :
    SomeBind raw holds ↔ SomeBind raw holds' := by
  constructor
  · rintro ⟨t, bind, hbind, hholds⟩
    exact ⟨t, bind, hbind, (hsame t bind hbind).mp hholds⟩
  · rintro ⟨t, bind, hbind, hholds⟩
    exact ⟨t, bind, hbind, (hsame t bind hbind).mpr hholds⟩

/-- What the loops over the tables and their binds have seen when they reach
bind `b` of table `t`. -/
def BindsUpTo (raw : Bytes) (t b t' : ℕ) (bind : FwdBind) : Prop :=
  t' < t ∧ TableHasBind raw t' bind ∨
    t' = t ∧ ∃ b' < b, tableBind raw t b' = some bind

theorem bindsUpTo_zero (raw : Bytes) (t : ℕ) (bind : FwdBind) :
    ¬ BindsUpTo raw 0 0 t bind := by
  rintro (⟨ht, _⟩ | ⟨_, b, hb, _⟩)
  · exact Nat.not_lt_zero t ht
  · exact Nat.not_lt_zero b hb

theorem bindsUpTo_succ_iff {raw : Bytes} {t b t' : ℕ} {last bind : FwdBind}
    (hlast : tableBind raw t b = some last) :
    BindsUpTo raw t (b + 1) t' bind ↔
      BindsUpTo raw t b t' bind ∨ t' = t ∧ bind = last := by
  have hsplit : (∃ b' < b + 1, tableBind raw t b' = some bind) ↔
      (∃ b' < b, tableBind raw t b' = some bind) ∨ bind = last := by
    constructor
    · rintro ⟨b', hb', hbind⟩
      rcases Nat.lt_succ_iff_lt_or_eq.mp hb' with hlt | rfl
      · exact .inl ⟨b', hlt, hbind⟩
      · exact .inr (Option.some.inj (hbind.symm.trans hlast))
    · rintro (⟨b', hb', hbind⟩ | rfl)
      · exact ⟨b', Nat.lt_succ_of_lt hb', hbind⟩
      · exact ⟨b, Nat.lt_succ_self b, hlast⟩
  rw [BindsUpTo, BindsUpTo, hsplit, and_or_left, or_assoc]

theorem bindsUpTo_table_iff {raw : Bytes} {t t' : ℕ} {numBinds : UInt32}
    {bind : FwdBind} (hnumBinds : tableNumBinds raw t = some numBinds) :
    BindsUpTo raw t numBinds.toNat t' bind ↔
      BindsUpTo raw (t + 1) 0 t' bind := by
  constructor
  · rintro (⟨ht, hbind⟩ | ⟨rfl, b, hb, hbind⟩)
    · exact .inl ⟨Nat.lt_succ_of_lt ht, hbind⟩
    · exact .inl ⟨Nat.lt_succ_self t', numBinds, b, hnumBinds, hb, hbind⟩
  · rintro (⟨ht, hbind⟩ | ⟨_, b, hb, _⟩)
    · rcases Nat.lt_succ_iff_lt_or_eq.mp ht with hlt | rfl
      · exact .inl ⟨hlt, hbind⟩
      · obtain ⟨numBinds', b, hnumBinds', hb, hbind⟩ := hbind
        obtain rfl := Option.some.inj (hnumBinds'.symm.trans hnumBinds)
        exact .inr ⟨rfl, b, hb, hbind⟩
    · exact absurd hb (Nat.not_lt_zero b)

theorem bindsUpTo_file_iff {raw : Bytes} {num : UInt32} {t : ℕ}
    {bind : FwdBind} (hnum : numTables raw = some num) :
    BindsUpTo raw num.toNat 0 t bind ↔ FileHasBind raw t bind := by
  constructor
  · rintro (⟨ht, hbind⟩ | ⟨_, b, hb, _⟩)
    · exact ⟨⟨num, hnum, ht⟩, hbind⟩
    · exact absurd hb (Nat.not_lt_zero b)
  · rintro ⟨⟨num', hnum', ht⟩, hbind⟩
    obtain rfl := Option.some.inj (hnum'.symm.trans hnum)
    exact .inl ⟨ht, hbind⟩

/-! ## Both layouts at once -/

namespace IpFamily

def words : IpFamily → ℕ
  | ipv4 => 1
  | ipv6 => 4

def defs (family : IpFamily) : AclField family.words → FieldDef :=
  aclDefs family.hdrSize family.protoOffset family.srcOffset
    family.dstOffset

def cidr : (family : IpFamily) → FwdBind → Fin family.words → FieldSpec
  | ipv4 => ipv4Cidr
  | ipv6 => ipv6Cidr

def fragmentation : IpFamily → ℕ
  | ipv4 => icmpv4FragmentationRequired
  | ipv6 => icmpv6PacketTooBig

def echoRequest : IpFamily → ℕ
  | ipv4 => icmpv4EchoRequest
  | ipv6 => icmpv6EchoRequest

/-- The bytes that the rules of the family are matched against. -/
def aclData (family : IpFamily) (buffer : Bytes) : Bytes :=
  buffer.drop (ethernetHdrSize + family.protoOffset)

end IpFamily

def AclRules.of (rules : AclRules) :
    (family : IpFamily) → List (Rule (AclField family.words))
  | .ipv4 => rules.acl4Rules
  | .ipv6 => rules.acl6Rules

def bindFamily (bind : FwdBind) : IpFamily :=
  if bind.family = familyIpv4 then .ipv4 else .ipv6

/-! ## The rules of a file -/

theorem mem_addAcl_iff {tableId : UInt32} {bind : FwdBind}
    (fields : (family : IpFamily) → RuleFields family.words)
    {rules : AclRules} {family : IpFamily}
    {rule : Rule (AclField family.words)} :
    rule ∈ (addAcl tableId bind (fields .ipv4) (fields .ipv6) rules).of
        family ↔
      rule ∈ rules.of family ∨
        bindFamily bind = family ∧ rule = bindRule tableId (fields family) := by
  by_cases hipv4 : bind.family = familyIpv4
  · cases family with
    | ipv4 =>
        simp only [addAcl, bindFamily, hipv4, if_true, AclRules.of, true_and]
        exact List.mem_append.trans (or_congr_right List.mem_singleton)
    | ipv6 => simp [addAcl, bindFamily, hipv4, AclRules.of]
  · cases family with
    | ipv4 => simp [addAcl, bindFamily, hipv4, AclRules.of]
    | ipv6 =>
        simp only [addAcl, bindFamily, hipv4, if_false, AclRules.of, true_and]
        exact List.mem_append.trans (or_congr_right List.mem_singleton)

section RulesOfBind

variable (family : IpFamily) (bind : FwdBind)

def typicalFields : RuleFields family.words :=
  typicalBindPacket bind (family.cidr bind)

def fragmentationFields : RuleFields family.words :=
  returnIcmpFragmentation bind (family.cidr bind) family.icmpProto
    family.fragmentation

def echoFields : RuleFields family.words :=
  icmpEchoRequest (family.cidr bind) family.icmpProto family.echoRequest

end RulesOfBind

/-- The rules that a bind adds, before the table id is put in. -/
inductive RuleOfBind (forward : Bool) (family : IpFamily) (bind : FwdBind) :
    RuleFields family.words → Prop where
  | typical : RuleOfBind forward family bind (typicalFields family bind)
  | fragmentation :
      RuleOfBind forward family bind (fragmentationFields family bind)
  | echo (hforward : forward = true) :
      RuleOfBind forward family bind (echoFields family bind)

theorem mem_addAclsForBind_iff {forward : Bool} {tableId : UInt32}
    {bind : FwdBind} {rules : AclRules} {family : IpFamily}
    {rule : Rule (AclField family.words)} :
    rule ∈ (addAclsForBind forward tableId bind rules).of family ↔
      rule ∈ rules.of family ∨ bindFamily bind = family ∧
        ∃ fields, RuleOfBind forward family bind fields ∧
          rule = bindRule tableId fields := by
  have htypical := @mem_addAcl_iff tableId bind
    fun family => typicalFields family bind
  have hfragmentation := @mem_addAcl_iff tableId bind
    fun family => fragmentationFields family bind
  have hecho := @mem_addAcl_iff tableId bind
    fun family => echoFields family bind
  have hkinds : (∃ fields, RuleOfBind forward family bind fields ∧
        rule = bindRule tableId fields) ↔
      rule = bindRule tableId (typicalFields family bind) ∨
        rule = bindRule tableId (fragmentationFields family bind) ∨
          forward = true ∧ rule = bindRule tableId (echoFields family bind) := by
    constructor
    · rintro ⟨_, hkind, rfl⟩
      cases hkind with
      | typical => exact .inl rfl
      | fragmentation => exact .inr (.inl rfl)
      | echo hforward => exact .inr (.inr ⟨hforward, rfl⟩)
    · rintro (rfl | rfl | ⟨hforward, rfl⟩)
      · exact ⟨_, .typical, rfl⟩
      · exact ⟨_, .fragmentation, rfl⟩
      · exact ⟨_, .echo hforward, rfl⟩
  have htwo : rule ∈ (addAclReturnIcmpFragmentation tableId bind
        (addAclTypicalBindPacket tableId bind rules)).of family ↔
      (rule ∈ rules.of family ∨ bindFamily bind = family ∧
        rule = bindRule tableId (typicalFields family bind)) ∨
      bindFamily bind = family ∧
        rule = bindRule tableId (fragmentationFields family bind) :=
    hfragmentation.trans (or_congr_left htypical)
  rw [hkinds]
  cases forward with
  | false =>
      refine htwo.trans ?_
      simp only [Bool.false_eq_true, false_and, or_false, and_or_left, or_assoc]
  | true =>
      refine (hecho.trans (or_congr_left htwo)).trans ?_
      simp only [true_and, and_or_left, or_assoc]

/-- The rules are those of the binds given. -/
def AclRules.HoldsBinds (rules : AclRules) (forward : Bool)
    (binds : ℕ → FwdBind → Prop) : Prop :=
  ∀ (family : IpFamily) (rule : Rule (AclField family.words)),
    rule ∈ rules.of family ↔ ∃ t bind, binds t bind ∧
      bindFamily bind = family ∧
      ∃ fields, RuleOfBind forward family bind fields ∧
        rule = bindRule (UInt32.ofNat t) fields

theorem AclRules.HoldsBinds.congr {rules : AclRules} {forward : Bool}
    {binds binds' : ℕ → FwdBind → Prop}
    (hholds : rules.HoldsBinds forward binds)
    (hsame : ∀ t bind, binds t bind ↔ binds' t bind) :
    rules.HoldsBinds forward binds' := by
  intro family rule
  simp only [hholds family rule, hsame]

theorem AclRules.HoldsBinds.addAclsForBind {rules : AclRules}
    {forward : Bool} {binds : ℕ → FwdBind → Prop}
    (hholds : rules.HoldsBinds forward binds) (t : ℕ) (bind : FwdBind) :
    (addAclsForBind forward (UInt32.ofNat t) bind rules).HoldsBinds forward
      fun t' bind' => binds t' bind' ∨ t' = t ∧ bind' = bind := by
  intro family rule
  rw [mem_addAclsForBind_iff, hholds family rule]
  constructor
  · rintro (⟨t', bind', hheld, hrule⟩ | hrule)
    · exact ⟨t', bind', .inl hheld, hrule⟩
    · exact ⟨t, bind, .inr ⟨rfl, rfl⟩, hrule⟩
  · rintro ⟨t', bind', hheld | ⟨rfl, rfl⟩, hrule⟩
    · exact .inl ⟨t', bind', hheld, hrule⟩
    · exact .inr hrule

section AcceptedFile

variable {raw : Bytes} {num : UInt32} (forward : Bool)
variable (hcheck : checkConfig raw = some (.ok ()))
variable (hnum : numTables raw = some num)

include hcheck hnum

theorem exists_addTableAcls {t : ℕ} (ht : t < num.toNat) {rules : AclRules}
    (hholds : rules.HoldsBinds forward (BindsUpTo raw t 0)) :
    ∃ rules', addTableAcls forward raw rules t = some rules' ∧
      rules'.HoldsBinds forward (BindsUpTo raw (t + 1) 0) := by
  obtain ⟨hsize, htables⟩ := checkConfig_ok hcheck hnum
  obtain ⟨numBinds, hnumBinds, hle⟩ := checkTable_ok (htables t ht)
  have hstep : ∀ b (rules' : AclRules), b < numBinds.toNat →
      rules'.HoldsBinds forward (BindsUpTo raw t b) →
      ∃ rules'', (do
          let bind ← tableBind raw t b
          return addAclsForBind forward (UInt32.ofNat t) bind rules') =
            some rules'' ∧
        rules''.HoldsBinds forward (BindsUpTo raw t (b + 1)) := by
    intro b rules' hb hrules'
    obtain ⟨bind, hbind⟩ := exists_tableBind hsize ht (hb.trans_le hle)
    rw [hbind]
    refine ⟨_, rfl, ?_⟩
    exact (hrules'.addAclsForBind t bind).congr fun t' bind' =>
      (bindsUpTo_succ_iff hbind).symm
  obtain ⟨rules', hrun, hrules⟩ := exists_foldlM_range_some
    (fun b (rules' : AclRules) =>
      rules'.HoldsBinds forward (BindsUpTo raw t b)) hholds hstep
  refine ⟨rules', ?_, hrules.congr fun t' bind =>
    bindsUpTo_table_iff hnumBinds⟩
  rw [addTableAcls, hnumBinds]
  exact hrun

theorem exists_createBindClassifier :
    ∃ rules, createBindClassifier forward raw = some rules ∧
      rules.HoldsBinds forward (FileHasBind raw) := by
  have hempty : AclRules.HoldsBinds { acl4Rules := [], acl6Rules := [] }
      forward (BindsUpTo raw 0 0) := by
    intro family rule
    have hnone : rule ∉ AclRules.of { acl4Rules := [], acl6Rules := [] }
        family := by
      cases family with
      | ipv4 => exact List.not_mem_nil
      | ipv6 => exact List.not_mem_nil
    simp only [hnone, bindsUpTo_zero, false_and, exists_false]
  obtain ⟨rules, hrun, hrules⟩ := exists_foldlM_range_some
    (fun t (rules : AclRules) =>
      rules.HoldsBinds forward (BindsUpTo raw t 0)) hempty
    fun t rules (ht : t < num.toNat) hholds =>
      exists_addTableAcls forward hcheck hnum ht hholds
  refine ⟨rules, ?_, hrules.congr fun t bind => bindsUpTo_file_iff hnum⟩
  rw [createBindClassifier, hnum]
  exact hrun

end AcceptedFile

/-! ## What a rule asks for -/

/-- The number in network order that a 16-bit field holds. -/
def portAt (offset : ℕ) (buffer : Bytes) : ℕ :=
  beNat (fieldBytes offset 2 buffer)

/-- The address at `offset` is accepted word by word. -/
def AddrAccepted {words : ℕ} (specs : Fin words → FieldSpec) (offset : ℕ)
    (buffer : Bytes) : Prop :=
  ∀ word, (specs word).Accepts 4
    (beNat (fieldBytes (offset + 4 * word) 4 buffer))

/-- The fields of a packet that a rule of the family looks at. -/
structure RuleMatch (family : IpFamily) (fields : RuleFields family.words)
    (buffer : Bytes) : Prop where
  hproto : fieldU8 (ethernetHdrSize + family.protoOffset) buffer =
    fields.proto
  hdst : AddrAccepted fields.dst (ethernetHdrSize + family.dstOffset) buffer
  hsrcp : fields.srcp.Accepts 2 (portAt family.l4Offset buffer)
  hdstp : fields.dstp.Accepts 2 (portAt (family.l4Offset + 2) buffer)
  hicmpInnerSrc : AddrAccepted fields.icmpInnerSrc
    (family.quotedOffset + family.srcOffset) buffer
  hicmpInnerSrcp : fields.icmpInnerSrcp.Accepts 2
    (portAt (family.quotedOffset + family.hdrSize) buffer)

/-- Where a field of the rules lies in the packet. -/
def IpFamily.fieldOffset (family : IpFamily) : AclField family.words → ℕ
  | .proto => ethernetHdrSize + family.protoOffset
  | .src word => ethernetHdrSize + family.srcOffset + 4 * word
  | .dst word => ethernetHdrSize + family.dstOffset + 4 * word
  | .srcp => family.l4Offset
  | .dstp => family.l4Offset + 2
  | .icmpInnerSrc word => family.quotedOffset + family.srcOffset + 4 * word
  | .icmpInnerSrcp => family.quotedOffset + family.hdrSize
  | .icmpInnerDstp => family.quotedOffset + family.hdrSize + 2

theorem defs_value (family : IpFamily) (field : AclField family.words)
    (buffer : Bytes) :
    (family.defs field).value (family.aclData buffer) =
      beNat (fieldBytes (family.fieldOffset field) (family.defs field).size
        buffer) := by
  have hoffset : ethernetHdrSize + family.protoOffset +
      (family.defs field).offset = family.fieldOffset field := by
    have hproto : family.protoOffset ≤ family.srcOffset ∧
        family.protoOffset ≤ family.dstOffset ∧
        family.protoOffset ≤ family.hdrSize ∧ family.icmpSize = 4 + 4 := by
      cases family <;> decide
    cases field <;>
      simp only [IpFamily.defs, aclDefs, IpFamily.fieldOffset,
        IpFamily.quotedOffset, IpFamily.l4Offset] <;> omega
  rw [FieldDef.value, IpFamily.aclData, List.drop_drop, hoffset, fieldBytes]

theorem beNat_fieldBytes_one (offset : ℕ) (buffer : Bytes) :
    beNat (fieldBytes offset 1 buffer) = (fieldU8 offset buffer).toNat := by
  rw [fieldBytes, fieldU8, List.getD_eq_getElem?_getD, List.take_one,
    List.head?_drop]
  cases buffer[offset]? with
  | none => rfl
  | some byte => simp [beNat, leNat]

theorem beNat_fieldBytes_lt (offset len : ℕ) (buffer : Bytes) :
    beNat (fieldBytes offset len buffer) < 256 ^ len :=
  (beNat_lt _).trans_le
    (Nat.pow_le_pow_right (by decide) (List.length_take_le _ _))

theorem accepts_anyAddr (offset : ℕ) (buffer : Bytes) :
    anyAddr.Accepts 4 (beNat (fieldBytes offset 4 buffer)) :=
  accepts_cidr_none (beNat_fieldBytes_lt offset 4 buffer)

theorem accepts_anyPort (offset : ℕ) (buffer : Bytes) :
    anyPort.Accepts 2 (portAt offset buffer) :=
  accepts_range_all (beNat_fieldBytes_lt offset 2 buffer)

theorem bindRule_matches_iff {family : IpFamily} {tableId : UInt32}
    {fields : RuleFields family.words} {buffer : Bytes} :
    (bindRule tableId fields).Matches family.defs (family.aclData buffer) ↔
      RuleMatch family fields buffer := by
  have hbyte : (FieldSpec.bitmask fields.proto.toNat 0xff).Accepts 1
        (beNat (fieldBytes (ethernetHdrSize + family.protoOffset) 1 buffer)) ↔
      fieldU8 (ethernetHdrSize + family.protoOffset) buffer =
        fields.proto := by
    rw [beNat_fieldBytes_one, accepts_bitmask_byte fields.proto.toNat_lt
      (UInt8.toNat_lt _), UInt8.toNat_inj]
  simp only [Rule.Matches, defs_value]
  constructor
  · intro hmatches
    exact ⟨hbyte.mp (hmatches .proto), fun word => hmatches (.dst word),
      hmatches .srcp, hmatches .dstp,
      fun word => hmatches (.icmpInnerSrc word), hmatches .icmpInnerSrcp⟩
  · intro hmatch field
    cases field with
    | proto => exact hbyte.mpr hmatch.hproto
    | src word => exact accepts_anyAddr _ buffer
    | dst word => exact hmatch.hdst word
    | srcp => exact hmatch.hsrcp
    | dstp => exact hmatch.hdstp
    | icmpInnerSrc word => exact hmatch.hicmpInnerSrc word
    | icmpInnerSrcp => exact hmatch.hicmpInnerSrcp
    | icmpInnerDstp => exact accepts_anyPort _ buffer

/-! ## Addresses in words -/

theorem fieldBytes_words_iff {words offset offset' : ℕ}
    {buffer buffer' : Bytes} :
    (∀ word : Fin words, fieldBytes (offset + 4 * word) 4 buffer =
        fieldBytes (offset' + 4 * word) 4 buffer') ↔
      fieldBytes offset (4 * words) buffer =
        fieldBytes offset' (4 * words) buffer' := by
  have hsplit : ∀ (offset words : ℕ) (buffer : Bytes),
      fieldBytes offset (4 * (words + 1)) buffer =
        fieldBytes offset (4 * words) buffer ++
          fieldBytes (offset + 4 * words) 4 buffer := by
    intro offset words buffer
    rw [fieldBytes, fieldBytes, fieldBytes, Nat.mul_succ, List.take_add,
      List.drop_drop]
  constructor
  · intro hwords
    induction words with
    | zero => rfl
    | succ words ih =>
        rw [hsplit, hsplit, ih fun word => hwords word.castSucc]
        exact congrArg _ (hwords (Fin.last words))
  · intro hwhole word
    have hinside : 4 * word.val + 4 ≤ 4 * words := by omega
    rw [← fieldBytes_fieldBytes buffer hinside, hwhole,
      fieldBytes_fieldBytes buffer' hinside]

theorem IpFamily.words_addrSize (family : IpFamily) :
    4 * family.words = family.addrSize := by
  cases family <;> rfl

/-! ## The three ways to match a bind -/

section BindMatch

variable (family : IpFamily) (bind : FwdBind) (buffer : Bytes)

/-- The address at `offset` lies in the range of the bind. -/
def AddrInBind (offset : ℕ) : Prop :=
  AddrAccepted (family.cidr bind) offset buffer

def PortInBind (port : ℕ) : Prop :=
  bind.portStart.toNat ≤ port ∧ port ≤ bind.portEnd.toNat

/-- A packet of the bind's protocol to its addresses and ports. -/
def TypicalMatch : Prop :=
  fieldU8 (ethernetHdrSize + family.protoOffset) buffer = bind.proto ∧
    AddrInBind family bind buffer (ethernetHdrSize + family.dstOffset) ∧
    PortInBind bind (portAt (family.l4Offset + 2) buffer)

/-- A path-MTU error to the bind's addresses that quotes a packet from its
addresses and ports. -/
def FragmentationMatch : Prop :=
  fieldU8 (ethernetHdrSize + family.protoOffset) buffer = family.icmpProto ∧
    portAt family.l4Offset buffer = family.fragmentation ∧
    AddrInBind family bind buffer (ethernetHdrSize + family.dstOffset) ∧
    AddrInBind family bind buffer (family.quotedOffset + family.srcOffset) ∧
    PortInBind bind (portAt (family.quotedOffset + family.hdrSize) buffer)

/-- An echo request to the bind's addresses. -/
def EchoMatch : Prop :=
  fieldU8 (ethernetHdrSize + family.protoOffset) buffer = family.icmpProto ∧
    portAt family.l4Offset buffer = family.echoRequest ∧
    AddrInBind family bind buffer (ethernetHdrSize + family.dstOffset)

def BindMatch (forward : Bool) : Prop :=
  TypicalMatch family bind buffer ∨ FragmentationMatch family bind buffer ∨
    forward = true ∧ EchoMatch family bind buffer

/-- Whether an address lies in the bind depends on its bytes only. -/
theorem addrInBind_congr {buffer buffer' : Bytes} {offset offset' : ℕ}
    (hsame : fieldBytes offset family.addrSize buffer =
      fieldBytes offset' family.addrSize buffer') :
    AddrInBind family bind buffer offset ↔
      AddrInBind family bind buffer' offset' := by
  rw [← family.words_addrSize, ← fieldBytes_words_iff] at hsame
  unfold AddrInBind AddrAccepted
  simp only [hsame]

theorem ruleMatch_typical_iff :
    RuleMatch family (typicalFields family bind) buffer ↔
      TypicalMatch family bind buffer := by
  constructor
  · intro hmatch
    exact ⟨hmatch.hproto, hmatch.hdst, hmatch.hdstp⟩
  · rintro ⟨hproto, hdst, hdstp⟩
    exact ⟨hproto, hdst, accepts_anyPort _ _, hdstp,
      fun word => accepts_anyAddr _ _, accepts_anyPort _ _⟩

theorem ruleMatch_fragmentation_iff :
    RuleMatch family (fragmentationFields family bind) buffer ↔
      FragmentationMatch family bind buffer := by
  constructor
  · intro hmatch
    exact ⟨hmatch.hproto, accepts_range_exact.mp hmatch.hsrcp, hmatch.hdst,
      hmatch.hicmpInnerSrc, hmatch.hicmpInnerSrcp⟩
  · rintro ⟨hproto, htype, hdst, hinner, hport⟩
    exact ⟨hproto, hdst, accepts_range_exact.mpr htype,
      accepts_anyPort _ _, hinner, hport⟩

theorem ruleMatch_echo_iff :
    RuleMatch family (echoFields family bind) buffer ↔
      EchoMatch family bind buffer := by
  constructor
  · intro hmatch
    exact ⟨hmatch.hproto, accepts_range_exact.mp hmatch.hsrcp, hmatch.hdst⟩
  · rintro ⟨hproto, htype, hdst⟩
    exact ⟨hproto, hdst, accepts_range_exact.mpr htype,
      accepts_anyPort _ _, fun word => accepts_anyAddr _ _,
      accepts_anyPort _ _⟩

theorem exists_ruleMatch_iff (forward : Bool) :
    (∃ fields, RuleOfBind forward family bind fields ∧
        RuleMatch family fields buffer) ↔
      BindMatch family bind buffer forward := by
  constructor
  · rintro ⟨_, hrule, hmatch⟩
    cases hrule with
    | typical => exact .inl ((ruleMatch_typical_iff _ _ _).mp hmatch)
    | fragmentation =>
        exact .inr (.inl ((ruleMatch_fragmentation_iff _ _ _).mp hmatch))
    | echo hforward =>
        exact .inr (.inr ⟨hforward, (ruleMatch_echo_iff _ _ _).mp hmatch⟩)
  · rintro (hmatch | hmatch | ⟨hforward, hmatch⟩)
    · exact ⟨_, .typical, (ruleMatch_typical_iff _ _ _).mpr hmatch⟩
    · exact ⟨_, .fragmentation,
        (ruleMatch_fragmentation_iff _ _ _).mpr hmatch⟩
    · exact ⟨_, .echo hforward, (ruleMatch_echo_iff _ _ _).mpr hmatch⟩

end BindMatch

/-! ## Classification -/

theorem mem_classifyToTables_iff {rules : AclRules} {family : IpFamily}
    {buffer : Bytes} {userdata : UInt32}
    (hether : ntohs (fieldU16 12 buffer) = family.etherType) :
    userdata ∈ classifyToTables rules buffer ↔
      ∃ rule ∈ rules.of family,
        rule.Matches family.defs (family.aclData buffer) ∧
          rule.userdata = userdata := by
  cases family with
  | ipv4 =>
      have htype : ntohs (fieldU16 12 buffer) = etherTypeIpv4 := hether
      rw [classifyToTables, htype, if_pos rfl]
      simp only [List.mem_map, List.mem_filter, decide_eq_true_eq, and_assoc]
      rfl
  | ipv6 =>
      have htype : ntohs (fieldU16 12 buffer) = etherTypeIpv6 := hether
      rw [classifyToTables, htype, if_neg (by decide), if_pos rfl]
      simp only [List.mem_map, List.mem_filter, decide_eq_true_eq, and_assoc]
      rfl

/-- The rules of a classifier match a packet through the binds of a file. -/
def ClassifiesBinds (raw : Bytes) (forward : Bool) (rules : AclRules) :
    Prop :=
  ∀ (family : IpFamily) (buffer : Bytes),
    ntohs (fieldU16 12 buffer) = family.etherType → ∀ userdata,
      userdata ∈ classifyToTables rules buffer ↔
        ∃ t bind, FileHasBind raw t bind ∧
          (bindFamily bind = family ∧
            BindMatch family bind buffer forward) ∧
          userdata = classifiedBitmask ||| UInt32.ofNat t

theorem exists_classifier {raw : Bytes} (forward : Bool)
    (hcheck : checkConfig raw = some (.ok ())) :
    ∃ rules, createBindClassifier forward raw = some rules ∧
      ClassifiesBinds raw forward rules := by
  obtain ⟨num, hnum⟩ := exists_numTables hcheck
  obtain ⟨rules, hrules, hholds⟩ :=
    exists_createBindClassifier forward hcheck hnum
  refine ⟨rules, hrules, fun family buffer hether userdata => ?_⟩
  rw [mem_classifyToTables_iff hether]
  constructor
  · rintro ⟨rule, hrule, hmatches, rfl⟩
    obtain ⟨t, bind, hbind, hfamily, fields, hfields, rfl⟩ :=
      (hholds family rule).mp hrule
    exact ⟨t, bind, hbind, ⟨hfamily, (exists_ruleMatch_iff _ _ _ _).mp
      ⟨fields, hfields, bindRule_matches_iff.mp hmatches⟩⟩, rfl⟩
  · rintro ⟨t, bind, hbind, ⟨hfamily, hmatch⟩, rfl⟩
    obtain ⟨fields, hfields, hmatch⟩ :=
      (exists_ruleMatch_iff _ _ _ _).mpr hmatch
    exact ⟨bindRule (UInt32.ofNat t) fields, (hholds family _).mpr
      ⟨t, bind, hbind, hfamily, fields, hfields, rfl⟩,
      bindRule_matches_iff.mpr hmatch, rfl⟩

theorem ClassifiesBinds.ne_nil_iff {raw : Bytes} {forward : Bool}
    {rules : AclRules} (hclassifies : ClassifiesBinds raw forward rules)
    {family : IpFamily} {buffer : Bytes}
    (hether : ntohs (fieldU16 12 buffer) = family.etherType) :
    classifyToTables rules buffer ≠ [] ↔
      SomeBind raw fun bind => bindFamily bind = family ∧
        BindMatch family bind buffer forward := by
  have hmem := hclassifies family buffer hether
  constructor
  · intro hsome
    obtain ⟨userdata, hin⟩ := List.exists_mem_of_ne_nil _ hsome
    obtain ⟨t, bind, hbind, hmatch, _⟩ := (hmem userdata).mp hin
    exact ⟨t, bind, hbind, hmatch⟩
  · rintro ⟨t, bind, hbind, hmatch⟩
    exact List.ne_nil_of_mem ((hmem _).mpr ⟨t, bind, hbind, hmatch, rfl⟩)

end GlbDirector
