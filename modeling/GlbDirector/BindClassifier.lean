import GlbDirector.AclMatch
import GlbDirector.FwdConfig
import GlbDirector.PacketParsing

/-!
# The bind classifier of the DPDK director (`bind_classifier.c`)

Each bind of the forwarding table becomes two or three rules over the packet
bytes that start at the protocol field of the IP header.  Addresses are matched
in words of 32 bits, one for IPv4 and four for IPv6, so both layouts of
`bind_classifier_rules.h` are one layout over the number of words.  The rule
arrays are zeroed before they are filled, and the source address is never set.
`rte_acl` is taken to match a rule when every field matches; it reads the
buffer of the packet, which may go on after the packet.
-/

namespace GlbDirector

open ByteCodec AclMatch

/-! ## Layout of the rules -/

inductive AclField (words : ℕ) where
  | proto
  | src (word : Fin words)
  | dst (word : Fin words)
  | srcp
  | dstp
  | icmpInnerSrc (word : Fin words)
  | icmpInnerSrcp
  | icmpInnerDstp
  deriving DecidableEq, Fintype

/-- The field definitions of a family from the size of its header and the
offsets of the protocol and the addresses in it. -/
def aclDefs {words : ℕ} (hdrSize protoOffset srcOffset dstOffset : ℕ) :
    AclField words → FieldDef
  | .proto => ⟨1, 0⟩
  | .src word => ⟨4, srcOffset - protoOffset + 4 * word⟩
  | .dst word => ⟨4, dstOffset - protoOffset + 4 * word⟩
  | .srcp => ⟨2, hdrSize - protoOffset⟩
  | .dstp => ⟨2, hdrSize - protoOffset + 2⟩
  | .icmpInnerSrc word =>
      ⟨4, hdrSize - protoOffset + 4 + 4 + srcOffset + 4 * word⟩
  | .icmpInnerSrcp => ⟨2, hdrSize - protoOffset + 4 + 4 + hdrSize⟩
  | .icmpInnerDstp => ⟨2, hdrSize - protoOffset + 4 + 4 + hdrSize + 2⟩

def ipv4Defs : AclField 1 → FieldDef := aclDefs ipv4HdrSize 9 12 16

def ipv6Defs : AclField 4 → FieldDef := aclDefs ipv6HdrSize 6 8 24

/-! ## The rules of a bind -/

def classifiedBitmask : UInt32 := 0x100000

def classifiedTable (x : UInt32) : UInt32 := x - classifiedBitmask

def icmpTypeCode (type code : ℕ) : ℕ := type <<< 8 ||| code

def icmpv4FragmentationRequired : ℕ := icmpTypeCode 3 4
def icmpv4EchoRequest : ℕ := icmpTypeCode 8 0
def icmpv6PacketTooBig : ℕ := icmpTypeCode 2 0
def icmpv6EchoRequest : ℕ := icmpTypeCode 128 0

def anyPort : FieldSpec := .range 0 0xffff

def anyAddr : FieldSpec := .cidr 0 0

/-- The bits of an IPv6 range that fall in the word `offset`. -/
def ipv6CidrOffset (ipBits offset : ℕ) : ℕ :=
  if ipBits ≥ (offset + 1) * 32 then 32
  else if ipBits < offset * 32 then 0
  else ipBits &&& 0x1f

/-- A word of the bind's address in host order, after `htonl`. -/
def bindWord (bind : FwdBind) (word : ℕ) : ℕ :=
  beNat (fieldBytes (4 * word) 4 bind.ipv6Addr)

def ipv4Cidr (bind : FwdBind) (word : Fin 1) : FieldSpec :=
  .cidr (bindWord bind word) bind.ipBits.toNat

def ipv6Cidr (bind : FwdBind) (word : Fin 4) : FieldSpec :=
  .cidr (bindWord bind word) (ipv6CidrOffset bind.ipBits.toNat word)

def portRange (bind : FwdBind) : FieldSpec :=
  .range bind.portStart.toNat bind.portEnd.toNat

/-- What the rules of a bind differ in. -/
structure RuleFields (words : ℕ) where
  proto : UInt8
  dst : Fin words → FieldSpec
  srcp : FieldSpec
  dstp : FieldSpec
  icmpInnerSrc : Fin words → FieldSpec
  icmpInnerSrcp : FieldSpec

def bindRule {words : ℕ} (tableId : UInt32) (fields : RuleFields words) :
    Rule (AclField words) where
  userdata := classifiedBitmask ||| tableId
  field
    | .proto => .bitmask fields.proto.toNat 0xff
    | .src _ => anyAddr
    | .dst word => fields.dst word
    | .srcp => fields.srcp
    | .dstp => fields.dstp
    | .icmpInnerSrc word => fields.icmpInnerSrc word
    | .icmpInnerSrcp => fields.icmpInnerSrcp
    | .icmpInnerDstp => anyPort

def typicalBindPacket {words : ℕ} (bind : FwdBind)
    (cidr : Fin words → FieldSpec) : RuleFields words where
  proto := bind.proto
  dst := cidr
  srcp := anyPort
  dstp := portRange bind
  icmpInnerSrc _ := anyAddr
  icmpInnerSrcp := anyPort

/-- The type and code of an ICMP packet stand where a source port would. -/
def returnIcmpFragmentation {words : ℕ} (bind : FwdBind)
    (cidr : Fin words → FieldSpec) (icmpProto : UInt8) (typeCode : ℕ) :
    RuleFields words where
  proto := icmpProto
  dst := cidr
  srcp := .range typeCode typeCode
  dstp := anyPort
  icmpInnerSrc := cidr
  icmpInnerSrcp := portRange bind

def icmpEchoRequest {words : ℕ} (cidr : Fin words → FieldSpec)
    (icmpProto : UInt8) (typeCode : ℕ) : RuleFields words where
  proto := icmpProto
  dst := cidr
  srcp := .range typeCode typeCode
  dstp := anyPort
  icmpInnerSrc _ := anyAddr
  icmpInnerSrcp := anyPort

/-! ## `add_acls_for_bind` -/

structure AclRules where
  acl4Rules : List (Rule (AclField 1))
  acl6Rules : List (Rule (AclField 4))

def addAcl (tableId : UInt32) (bind : FwdBind) (fields4 : RuleFields 1)
    (fields6 : RuleFields 4) (rules : AclRules) : AclRules :=
  if bind.family = familyIpv4 then
    { rules with acl4Rules := rules.acl4Rules ++ [bindRule tableId fields4] }
  else
    { rules with acl6Rules := rules.acl6Rules ++ [bindRule tableId fields6] }

def addAclTypicalBindPacket (tableId : UInt32) (bind : FwdBind) :
    AclRules → AclRules :=
  addAcl tableId bind (typicalBindPacket bind (ipv4Cidr bind))
    (typicalBindPacket bind (ipv6Cidr bind))

def addAclReturnIcmpFragmentation (tableId : UInt32) (bind : FwdBind) :
    AclRules → AclRules :=
  addAcl tableId bind
    (returnIcmpFragmentation bind (ipv4Cidr bind) ipProtoIcmpv4
      icmpv4FragmentationRequired)
    (returnIcmpFragmentation bind (ipv6Cidr bind) ipProtoIcmpv6
      icmpv6PacketTooBig)

def addAclIcmpEchoRequest (tableId : UInt32) (bind : FwdBind) :
    AclRules → AclRules :=
  addAcl tableId bind
    (icmpEchoRequest (ipv4Cidr bind) ipProtoIcmpv4 icmpv4EchoRequest)
    (icmpEchoRequest (ipv6Cidr bind) ipProtoIcmpv6 icmpv6EchoRequest)

def addAclsForBind (forwardIcmpPingResponses : Bool) (tableId : UInt32)
    (bind : FwdBind) (rules : AclRules) : AclRules :=
  let rules := addAclTypicalBindPacket tableId bind rules
  let rules := addAclReturnIcmpFragmentation tableId bind rules
  if forwardIcmpPingResponses then addAclIcmpEchoRequest tableId bind rules
  else rules

/-! ## `create_bind_classifier` and `classify_to_tables` -/

def addTableAcls (forwardIcmpPingResponses : Bool) (raw : Bytes)
    (rules : AclRules) (t : ℕ) : Option AclRules := do
  let numBinds ← tableNumBinds raw t
  (List.range numBinds.toNat).foldlM (fun rules b => do
    let bind ← tableBind raw t b
    return addAclsForBind forwardIcmpPingResponses (UInt32.ofNat t) bind
      rules) rules

/-- The rules of the two contexts; a context without rules is `NULL`. -/
def createBindClassifier (forwardIcmpPingResponses : Bool) (raw : Bytes) :
    Option AclRules := do
  let num ← numTables raw
  (List.range num.toNat).foldlM (addTableAcls forwardIcmpPingResponses raw)
    { acl4Rules := [], acl6Rules := [] }

/-- The user data of the rules that match.  All rules have one priority, so
any of these may become the classification; without one it stays 0. -/
def classifyToTables (rules : AclRules) (buffer : Bytes) : List UInt32 :=
  let etherType := ntohs (fieldU16 12 buffer)
  if etherType = etherTypeIpv4 then
    (rules.acl4Rules.filter fun rule => decide
      (rule.Matches ipv4Defs (buffer.drop (ethernetHdrSize + 9)))).map
        Rule.userdata
  else if etherType = etherTypeIpv6 then
    (rules.acl6Rules.filter fun rule => decide
      (rule.Matches ipv6Defs (buffer.drop (ethernetHdrSize + 6)))).map
        Rule.userdata
  else []

end GlbDirector
