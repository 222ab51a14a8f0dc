import GlbDirector.IcmpMatching
import Mathlib.Data.List.GetD

/-!
# The rules for the traffic of a bind

`add_acl_typical_bind_packet` gives a bind one rule, with the destination
prefix cut into words of 32 bits.  The word lengths of `ipv6_cidr_offset` are
the parts of the prefix that fall in each word, so the words match together
exactly when the address lies in the prefix.  A rule of a table then
matches a TCP or UDP packet exactly when a bind of the table covers it.
-/

namespace GlbDirector

open ByteCodec AclMatch

/-! ## Prefixes -/

/-- The first `bits` of the address are those of `net`. -/
def PrefixContains (bits : ℕ) (net addr : Bytes) : Prop :=
  SamePrefix (8 * net.length) bits (beNat addr) (beNat net)

theorem ipv6CidrOffset_eq (bits word : ℕ) :
    ipv6CidrOffset bits word = min 32 (bits - 32 * word) := by
  have hlow : bits &&& 0x1f = bits % 32 := Nat.and_two_pow_sub_one_eq_mod bits 5
  unfold ipv6CidrOffset
  rw [hlow]
  split
  · omega
  · split <;> omega

/-- A length of `ipv6_cidr_offset` asks for the bits of the prefix that fall
in the word. -/
theorem accepts_ipv6CidrOffset_iff {value bits word x : ℕ} :
    (FieldSpec.cidr value (ipv6CidrOffset bits word)).Accepts 4 x ↔
      SamePrefix 32 (bits - 32 * word) x value := by
  have hopen : 8 * 4 - min 32 (bits - 32 * word) =
      32 - (bits - 32 * word) := by omega
  rw [accepts_cidr_iff, ipv6CidrOffset_eq, SamePrefix, SamePrefix, hopen]

theorem accepts_cidr_word_iff {family : IpFamily} {bind : FwdBind}
    {word : Fin family.words} {x : ℕ} :
    (family.cidr bind word).Accepts 4 x ↔
      SamePrefix 32 (bind.ipBits.toNat - 32 * word) x (bindWord bind word) := by
  cases family with
  | ipv4 =>
      have hfirst : word.val = 0 := Nat.lt_one_iff.mp word.isLt
      show SamePrefix 32 bind.ipBits.toNat x (bindWord bind word) ↔ _
      rw [hfirst]
      exact Iff.rfl
  | ipv6 => exact accepts_ipv6CidrOffset_iff

/-- The word matches of a bind are one prefix match. -/
theorem addrInBind_iff_prefixContains {bind : FwdBind}
    (hlength : bind.ipv6Addr.length = 16) {family : IpFamily}
    (hfamily : bindFamily bind = family) {buffer : Bytes} {offset : ℕ}
    (hfits : offset + family.addrSize ≤ buffer.length) :
    AddrInBind family bind buffer offset ↔
      PrefixContains bind.ipBits.toNat (bindAddr bind)
        (fieldBytes offset family.addrSize buffer) := by
  have hnet : (bindAddr bind).length = 4 * family.words := by
    rw [bindAddr_length hlength, hfamily, family.words_addrSize]
  have haddr : (fieldBytes offset family.addrSize buffer).length =
      4 * family.words := by
    rw [fieldBytes_length rfl hfits, family.words_addrSize]
  have hwidth : 8 * (bindAddr bind).length = 32 * family.words := by omega
  rw [PrefixContains, hwidth, ← samePrefix_words hnet haddr]
  apply forall_congr'
  intro word
  have hinside : 4 * word.val + 4 ≤ family.addrSize := by
    rw [← family.words_addrSize]
    omega
  have hword : bindWord bind word =
      beNat (((bindAddr bind).drop (4 * word)).take 4) := by
    rw [bindWord, bindAddr, hfamily]
    have hinner : fieldBytes (4 * word) 4
        (fieldBytes 0 family.addrSize bind.ipv6Addr) =
          fieldBytes (0 + 4 * word) 4 bind.ipv6Addr :=
      fieldBytes_fieldBytes bind.ipv6Addr hinside
    rw [Nat.zero_add] at hinner
    exact congrArg beNat hinner.symm
  rw [accepts_cidr_word_iff, hword, ← fieldBytes_fieldBytes buffer hinside]
  rfl

/-! ## The rules of a list of tables -/

def noRules : AclRules where
  acl4Rules := []
  acl6Rules := []

/-- The typical rules of the binds of table `t`, after those in `rules`. -/
def addTypicalAcls (rules : AclRules) (t : ℕ) (binds : List FwdBind) :
    AclRules :=
  binds.foldl (fun rules bind =>
    addAclTypicalBindPacket (UInt32.ofNat t) bind rules) rules

def typicalAcls (tables : List (List FwdBind)) : AclRules :=
  tables.zipIdx.foldl (fun rules table =>
    addTypicalAcls rules table.2 table.1) noRules

theorem not_mem_noRules {family : IpFamily}
    (rule : Rule (AclField family.words)) : rule ∉ noRules.of family := by
  cases family with
  | ipv4 => exact List.not_mem_nil
  | ipv6 => exact List.not_mem_nil

theorem mem_addTypicalAcls_iff {rules : AclRules} {t : ℕ}
    {binds : List FwdBind} {family : IpFamily}
    {rule : Rule (AclField family.words)} :
    rule ∈ (addTypicalAcls rules t binds).of family ↔
      rule ∈ rules.of family ∨ ∃ bind ∈ binds, bindFamily bind = family ∧
        rule = bindRule (UInt32.ofNat t) (typicalFields family bind) := by
  induction binds generalizing rules with
  | nil => simp [addTypicalAcls]
  | cons bind binds ih =>
      have hfirst := @mem_addAcl_iff (UInt32.ofNat t) bind
        (fun family => typicalFields family bind) rules family rule
      have hrest := @ih (addAclTypicalBindPacket (UInt32.ofNat t) bind rules)
      rw [List.exists_mem_cons_iff, ← or_assoc, ← hfirst]
      exact hrest

theorem mem_foldl_addTypicalAcls_iff {rules : AclRules}
    {tables : List (List FwdBind × ℕ)} {family : IpFamily}
    {rule : Rule (AclField family.words)} :
    rule ∈ (tables.foldl (fun rules table =>
        addTypicalAcls rules table.2 table.1) rules).of family ↔
      rule ∈ rules.of family ∨ ∃ table ∈ tables,
        rule ∈ (addTypicalAcls noRules table.2 table.1).of family := by
  induction tables generalizing rules with
  | nil => simp
  | cons table tables ih =>
      have hfirst : rule ∈ (addTypicalAcls rules table.2 table.1).of family ↔
          rule ∈ rules.of family ∨
            rule ∈ (addTypicalAcls noRules table.2 table.1).of family := by
        rw [mem_addTypicalAcls_iff, mem_addTypicalAcls_iff,
          or_iff_right (not_mem_noRules rule)]
      rw [List.foldl_cons, ih, List.exists_mem_cons_iff, ← or_assoc, hfirst]

/-- The rule was made for a bind of table `t`. -/
def RuleOfTable (tables : List (List FwdBind)) (t : ℕ) (family : IpFamily)
    (rule : Rule (AclField family.words)) : Prop :=
  rule ∈ (typicalAcls tables).of family ∧
    rule ∈ (addTypicalAcls noRules t (tables.getD t [])).of family

theorem ruleOfTable_iff {tables : List (List FwdBind)} {t : ℕ}
    {family : IpFamily} {rule : Rule (AclField family.words)} :
    RuleOfTable tables t family rule ↔
      ∃ bind ∈ tables.getD t [], bindFamily bind = family ∧
        rule = bindRule (UInt32.ofNat t) (typicalFields family bind) := by
  have htable : rule ∈ (addTypicalAcls noRules t (tables.getD t [])).of
        family ↔
      ∃ bind ∈ tables.getD t [], bindFamily bind = family ∧
        rule = bindRule (UInt32.ofNat t) (typicalFields family bind) := by
    rw [mem_addTypicalAcls_iff, or_iff_right (not_mem_noRules rule)]
  rw [RuleOfTable, htable, and_iff_right_iff_imp]
  rintro ⟨bind, hbind, hrule⟩
  have hmem : (tables.getD t [], t) ∈ tables.zipIdx := by
    rw [List.mk_mem_zipIdx_iff_getElem?]
    cases hget : tables[t]? with
    | none => simp [List.getD_eq_getElem?_getD, hget] at hbind
    | some binds => simp [List.getD_eq_getElem?_getD, hget]
  exact mem_foldl_addTypicalAcls_iff.mpr
    (.inr ⟨_, hmem, htable.mpr ⟨bind, hbind, hrule⟩⟩)

/-! ## Matching -/

/-- The bind has the family and the protocol of the packet, and its ranges
contain the destination. -/
structure CoversPacket (bind : FwdBind) (family : IpFamily)
    (packet : Bytes) : Prop where
  hfamily : bindFamily bind = family
  hproto : fieldU8 (ethernetHdrSize + family.protoOffset) packet = bind.proto
  hdst : PrefixContains bind.ipBits.toNat (bindAddr bind)
    (packetDst family packet)
  hport : PortInBind bind
    (ntohs (headerTuple family packet ethernetHdrSize).dstPort).toNat

theorem PlainPacket.typicalMatch_iff {family : IpFamily} {packet : Bytes}
    (hplain : PlainPacket family packet) {bind : FwdBind}
    (hlength : bind.ipv6Addr.length = 16)
    (hfamily : bindFamily bind = family) (trailing : Bytes) :
    TypicalMatch family bind (packet ++ trailing) ↔
      CoversPacket bind family packet := by
  have hheader := hplain.header_inside
  have hinside := dst_inside hheader
  have hdst : fieldBytes (ethernetHdrSize + family.dstOffset)
      family.addrSize (packet ++ trailing) = packetDst family packet :=
    dst_buffer hheader trailing
  have haddr := addrInBind_iff_prefixContains hlength hfamily
    (show ethernetHdrSize + family.dstOffset + family.addrSize ≤
      (packet ++ trailing).length by rw [List.length_append]; omega)
  rw [TypicalMatch, proto_buffer hheader, hplain.dstPort_buffer, haddr, hdst]
  constructor
  · rintro ⟨hproto, hin, hrange⟩
    exact ⟨hfamily, hproto, hin, hrange⟩
  · intro hcovers
    exact ⟨hcovers.hproto, hcovers.hdst, hcovers.hport⟩

theorem typical_rules_match_iff
    {tables : List (List FwdBind)}
    (hlengths : ∀ binds ∈ tables, ∀ bind ∈ binds,
      bind.ipv6Addr.length = 16)
    (t : ℕ)
    {family : IpFamily} {packet : Bytes}
    (hplain : PlainPacket family packet)
    (trailing : Bytes) :
    ((∃ rule, RuleOfTable tables t family rule ∧
        rule.Matches family.defs (family.aclData (packet ++ trailing))) ↔
      ∃ bind ∈ tables.getD t [], CoversPacket bind family packet) ∧
    ∀ (bits : ℕ) (net addr : Bytes), net.length = 16 → addr.length = 16 →
      ((∀ word : Fin 4,
          (FieldSpec.cidr (beNat (fieldBytes (4 * word) 4 net))
            (ipv6CidrOffset bits word)).Accepts 4
              (beNat (fieldBytes (4 * word) 4 addr))) ↔
        PrefixContains bits net addr) := by
  constructor
  · have hbinds : ∀ bind ∈ tables.getD t [], bind.ipv6Addr.length = 16 := by
      intro bind hbind
      by_cases ht : t < tables.length
      · rw [List.getD_eq_getElem _ _ ht] at hbind
        exact hlengths _ (List.getElem_mem ht) bind hbind
      · rw [List.getD_eq_default _ _ (Nat.le_of_not_lt ht)] at hbind
        exact absurd hbind List.not_mem_nil
    constructor
    · rintro ⟨rule, hrule, hmatches⟩
      obtain ⟨bind, hbind, hfamily, rfl⟩ := ruleOfTable_iff.mp hrule
      have htypical := (ruleMatch_typical_iff _ _ _).mp
        (bindRule_matches_iff.mp hmatches)
      exact ⟨bind, hbind, (hplain.typicalMatch_iff (hbinds bind hbind)
        hfamily trailing).mp htypical⟩
    · rintro ⟨bind, hbind, hcovers⟩
      have htypical := (hplain.typicalMatch_iff (hbinds bind hbind)
        hcovers.hfamily trailing).mpr hcovers
      exact ⟨_, ruleOfTable_iff.mpr ⟨bind, hbind, hcovers.hfamily, rfl⟩,
        bindRule_matches_iff.mpr ((ruleMatch_typical_iff _ _ _).mpr htypical)⟩
  · intro bits net addr hnet haddr
    have hwidth : 8 * net.length = 32 * 4 := by omega
    rw [PrefixContains, hwidth, ← samePrefix_words hnet haddr]
    exact forall_congr' fun word => accepts_ipv6CidrOffset_iff

/-- A TCP packet to port 443 of fdb4:98ce:52d4::42. -/
def sampleIpv6Packet : Bytes :=
  [2, 0, 0, 0, 0, 1, 2, 0, 0, 0, 0, 2, 0x86, 0xdd,
    0x60, 0, 0, 0, 0, 20, 6, 64,
    0xfd, 0xb4, 0x98, 0xce, 0x52, 0xd4, 0, 0, 0, 0, 0, 0, 0, 0, 0, 1,
    0xfd, 0xb4, 0x98, 0xce, 0x52, 0xd4, 0, 0, 0, 0, 0, 0, 0, 0, 0, 0x42,
    0x30, 0x39, 0x01, 0xbb, 0, 0, 0, 1, 0, 0, 0, 0, 0x50, 2, 0, 0, 0, 0, 0, 0]

/-- fdb4:98ce:52d4::40/122 with the ports 400 to 500. -/
def sampleIpv6Range : FwdBind where
  family := familyIpv6
  ipv6Addr := [0xfd, 0xb4, 0x98, 0xce, 0x52, 0xd4, 0, 0, 0, 0, 0, 0, 0, 0, 0,
    0x40]
  ipBits := 122
  portStart := 400
  portEnd := 500
  proto := ipProtoTcp
  reserved := 0

theorem typical_rules_match_ipv6Range :
    ∃ rule, RuleOfTable [[sampleFwdBind], [sampleIpv6Range]] 1 .ipv6 rule ∧
      rule.Matches IpFamily.ipv6.defs
        (IpFamily.ipv6.aclData (sampleIpv6Packet ++ [])) := by
  have hlengths : ∀ binds ∈ [[sampleFwdBind], [sampleIpv6Range]],
      ∀ bind ∈ binds, bind.ipv6Addr.length = 16 := by decide
  have hplain : PlainPacket .ipv6 sampleIpv6Packet :=
    ⟨by decide, by decide, by decide, by decide⟩
  have hdst : PrefixContains sampleIpv6Range.ipBits.toNat
      (bindAddr sampleIpv6Range) (packetDst .ipv6 sampleIpv6Packet) := by
    unfold PrefixContains SamePrefix
    decide +kernel
  have hport : PortInBind sampleIpv6Range (ntohs (headerTuple .ipv6
      sampleIpv6Packet ethernetHdrSize).dstPort).toNat := by
    unfold PortInBind
    decide
  have hcovers : CoversPacket sampleIpv6Range .ipv6 sampleIpv6Packet :=
    ⟨rfl, by decide, hdst, hport⟩
  exact (typical_rules_match_iff hlengths 1 hplain []).1.mpr
    ⟨sampleIpv6Range, by decide, hcovers⟩

end GlbDirector
