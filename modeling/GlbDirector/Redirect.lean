import GlbDirector.PacketParsing

/-!
# The proxy side (`ipt_GLBREDIRECT.c`)

The packet of an `sk_buff` is its bytes from the outer IPv4 header on;
`skb_header_pointer` and `skb_copy_bits` are checked slices of it.  What the
kernel knows about local sockets is a parameter of each node.
-/

namespace GlbDirector

open ByteCodec

def maxHops : ℕ := 256

/-- `sizeof(struct glbgue_chained_routing)` -/
def chainedRoutingSize : ℕ := 4 + 4 * maxHops

def guehdrSize : ℕ := 4
def tcphdrSize : ℕ := 20
def icmphdrSize : ℕ := 8
def icmp6hdrSize : ℕ := 8

def icmpDestUnreach : UInt8 := 3
def icmpFragNeeded : UInt8 := 4
def icmpv6PktToobig : UInt8 := 2

/-! ## Sockets of a node -/

structure Listener where
  refcountNonzero : Bool
  syncookies : ℤ
  noRecentOverflow : Bool

/-- The kernel's lookups on one node.  The listener lookups take the packet
only to choose among sockets of one reuseport group. -/
structure LocalStack where
  lookupEstablished : UInt32 → UInt16 → UInt32 → UInt16 → Bool
  lookupEstablished6 : Bytes → UInt16 → Bytes → UInt16 → Bool
  lookupListener : UInt32 → UInt16 → UInt32 → UInt16 → Option Listener
  lookupListener6 : Bytes → UInt16 → Bytes → UInt16 → Option Listener
  cookieV4Check : Bytes → Bytes → ℤ
  cookieV6Check : Bytes → Bytes → ℤ

inductive InnerIp where
  | v4 (header : Bytes)
  | v6 (header : Bytes)
  deriving DecidableEq

def tcpSource (th : Bytes) : UInt16 := fieldU16 0 th
def tcpDest (th : Bytes) : UInt16 := fieldU16 2 th
def tcpFin (th : Bytes) : Bool := fieldU8 13 th &&& 0x01 ≠ 0
def tcpSyn (th : Bytes) : Bool := fieldU8 13 th &&& 0x02 ≠ 0
def tcpRst (th : Bytes) : Bool := fieldU8 13 th &&& 0x04 ≠ 0
def tcpAck (th : Bytes) : Bool := fieldU8 13 th &&& 0x10 ≠ 0

/-- A listener whose reference could be taken and that wants cookies. -/
def wantCookie (listener : Option Listener) : Bool :=
  match listener with
  | some sk =>
      sk.refcountNonzero && (sk.syncookies = 2 || !sk.noRecentOverflow)
  | none => false

def isValidLocally (stack : LocalStack) (ip : InnerIp) (th : Bytes) : Bool :=
  let established :=
    match ip with
    | .v4 iph => stack.lookupEstablished (fieldU32 12 iph) (tcpSource th)
        (fieldU32 16 iph) (tcpDest th)
    | .v6 iph => stack.lookupEstablished6 (fieldBytes 8 16 iph)
        (tcpSource th) (fieldBytes 24 16 iph) (ntohs (tcpDest th))
  if established then true
  else if tcpAck th && !tcpFin th && !tcpRst th && !tcpSyn th then
    match ip with
    | .v4 iph =>
        wantCookie (stack.lookupListener (fieldU32 12 iph) (tcpSource th)
          (fieldU32 16 iph) (tcpDest th)) &&
          stack.cookieV4Check iph th > 0
    | .v6 iph =>
        wantCookie (stack.lookupListener6 (fieldBytes 8 16 iph)
          (tcpSource th) (fieldBytes 24 16 iph) (tcpDest th)) &&
          stack.cookieV6Check iph th > 0
  else false

/-! ## Incremental checksums of the kernel -/

def csum16Add (csum addend : UInt16) : UInt16 :=
  let res := csum + addend
  if res < addend then res + 1 else res

def csum16Sub (csum addend : UInt16) : UInt16 := csum16Add csum (~~~addend)

def csumReplace2 (sum old new : UInt16) : UInt16 :=
  ~~~(csum16Add (csum16Sub (~~~sum) old) new)

def csumAdd (csum addend : UInt32) : UInt32 :=
  let res := csum + addend
  if res < addend then res + 1 else res

def csumSub (csum addend : UInt32) : UInt32 := csumAdd csum (~~~addend)

def csumFold (csum : UInt32) : UInt16 :=
  let sum : UInt32 := (csum &&& (0xffff : UInt32)) + (csum >>> (16 : UInt32))
  let sum : UInt32 := (sum &&& (0xffff : UInt32)) + (sum >>> (16 : UInt32))
  ~~~sum.toUInt16

def csumReplace4 (sum : UInt16) (old new : UInt32) : UInt16 :=
  csumFold (csumAdd (csumSub (~~~sum.toUInt32) old) new)

/-! ## Verdicts -/

/-- `stolen` carries the packet handed to `ip_local_out`. -/
inductive Verdict where
  | nfDrop
  | xtContinue
  | stolen (skb : Bytes)
  deriving DecidableEq

/-- What `glbredirect_tg4` has established about a packet before it looks
inside: `cr` is the chained routing data found at `gueCrOfs`. -/
structure GueHeader where
  saddr : UInt32
  daddr : UInt32
  udpOfs : ℕ
  gueCrOfs : ℕ
  cr : Bytes
  innerIpOfs : ℕ
  protoCtype : UInt8

def GueHeader.nextHop (gue : GueHeader) : UInt8 := fieldU8 2 gue.cr
def GueHeader.hopCount (gue : GueHeader) : UInt8 := fieldU8 3 gue.cr

def GueHeader.hop (gue : GueHeader) (index : ℕ) : UInt32 :=
  fieldU32 (4 + 4 * index) gue.cr

/-- The UDP checksum, if it is used, for the new `next_hop` and for the source
that is replaced. -/
def adjustedCheck (skb : Bytes) (gue : GueHeader) (alt : UInt32) : Bytes :=
  let check := fieldU16 (gue.udpOfs + 6) skb
  if check ≠ 0 then
    let nextHop := fieldU8 (gue.gueCrOfs + 2) skb
    let replaced := patch (gue.udpOfs + 6)
      (u16le (csumReplace2 check nextHop.toUInt16 (nextHop.toUInt16 + 1))) skb
    patch (gue.udpOfs + 6)
      (u16le (csumReplace4 (fieldU16 (gue.udpOfs + 6) replaced)
        (fieldU32 12 replaced) alt)) replaced
  else skb

/-- The writes to the packet in their order: the checksum, `next_hop`, the
source and the destination.  Each reads what the earlier ones have left. -/
def forwardedSkb (skb : Bytes) (gue : GueHeader) (alt : UInt32) : Bytes :=
  let checked := adjustedCheck skb gue alt
  let counted := patch (gue.gueCrOfs + 2)
    [fieldU8 (gue.gueCrOfs + 2) checked + 1] checked
  patch 16 (u32le alt) (patch 12 (u32le (fieldU32 16 counted)) counted)

def glbredirectHandleInnerTcpGeneric (stack : LocalStack) (skb : Bytes)
    (gue : GueHeader) (ip : InnerIp) (th : Bytes) : Verdict :=
  if tcpSyn th then .xtContinue
  else if isValidLocally stack ip th then .xtContinue
  else if gue.nextHop ≥ gue.hopCount then .xtContinue
  else
    let alt := gue.hop gue.nextHop.toNat
    if alt = gue.daddr then .xtContinue
    else .stolen (forwardedSkb skb gue alt)

/-! ## Inner headers -/

/-- The reversed ports of a quoted packet in an otherwise zero header. -/
def fillTcpFromIcmp (skb : Bytes) (icmpPayloadOfs : ℕ) : Option Bytes :=
  (slice icmpPayloadOfs 4 skb).map fun ports =>
    fieldBytes 2 2 ports ++ (fieldBytes 0 2 ports ++ List.replicate 16 0)

def swapAddresses (addressOfs addressSize : ℕ) (header : Bytes) : Bytes :=
  header.take addressOfs ++
    (fieldBytes (addressOfs + addressSize) addressSize header ++
      fieldBytes addressOfs addressSize header)

inductive InnerPacket where
  | drop
  | accept
  | flow (ip : InnerIp) (th : Bytes)

/-- The `switch` of `glbredirect_handle_inner_ipv4`. -/
def innerIpv4 (skb : Bytes) (innerIpOfs : ℕ) : InnerPacket :=
  match slice innerIpOfs ipv4HdrSize skb with
  | none => .drop
  | some iph =>
      let ofs := innerIpOfs + 4 * (fieldU8 0 iph &&& 0x0f).toNat
      let protocol := fieldU8 9 iph
      if protocol = ipProtoIcmpv4 then
        match slice ofs icmphdrSize skb with
        | none => .drop
        | some icmph =>
            if fieldU8 0 icmph ≠ icmpDestUnreach ∨
                fieldU8 1 icmph ≠ icmpFragNeeded then .accept
            else
              let quotedOfs := ofs + icmphdrSize
              match slice quotedOfs ipv4HdrSize skb with
              | none => .drop
              | some quoted =>
                  let ihl := (fieldU8 0 quoted &&& 0x0f).toNat
                  match fillTcpFromIcmp skb (quotedOfs + 4 * ihl) with
                  | none => .drop
                  | some th => .flow (.v4 (swapAddresses 12 4 quoted)) th
      else if protocol = ipProtoTcp then
        match slice ofs tcphdrSize skb with
        | none => .drop
        | some th => .flow (.v4 iph) th
      else if protocol = ipProtoUdp then .accept
      else .drop

/-- The `switch` of `glbredirect_handle_inner_ipv6`. -/
def innerIpv6 (skb : Bytes) (innerIpOfs : ℕ) : InnerPacket :=
  match slice innerIpOfs ipv6HdrSize skb with
  | none => .drop
  | some iph =>
      let ofs := innerIpOfs + ipv6HdrSize
      let nexthdr := fieldU8 6 iph
      if nexthdr = ipProtoIcmpv6 then
        match slice ofs icmp6hdrSize skb with
        | none => .drop
        | some icmp6h =>
            if fieldU8 0 icmp6h ≠ icmpv6PktToobig then .accept
            else
              let quotedOfs := ofs + icmp6hdrSize
              match slice quotedOfs ipv6HdrSize skb with
              | none => .drop
              | some quoted =>
                  match fillTcpFromIcmp skb (quotedOfs + ipv6HdrSize) with
                  | none => .drop
                  | some th => .flow (.v6 (swapAddresses 8 16 quoted)) th
      else if nexthdr = ipProtoTcp then
        match slice ofs tcphdrSize skb with
        | none => .drop
        | some th => .flow (.v6 iph) th
      else if nexthdr = ipProtoUdp then .accept
      else .drop

def handleInner (stack : LocalStack) (skb : Bytes) (gue : GueHeader)
    (inner : InnerPacket) : Verdict :=
  match inner with
  | .drop => .nfDrop
  | .accept => .xtContinue
  | .flow ip th => glbredirectHandleInnerTcpGeneric stack skb gue ip th

def glbredirectHandleInnerIpv4 (stack : LocalStack) (skb : Bytes)
    (gue : GueHeader) : Verdict :=
  handleInner stack skb gue (innerIpv4 skb gue.innerIpOfs)

def glbredirectHandleInnerIpv6 (stack : LocalStack) (skb : Bytes)
    (gue : GueHeader) : Verdict :=
  handleInner stack skb gue (innerIpv6 skb gue.innerIpOfs)

/-! ## The target -/

/-- The header checks of `glbredirect_tg4`; `none` where it drops. -/
def gueHeader (skb : Bytes) : Option GueHeader := do
  let outerIp ← slice 0 ipv4HdrSize skb
  if fieldU8 9 outerIp ≠ ipProtoUdp then none
  else do
    let udpOfs := 4 * (fieldU8 0 outerIp &&& 0x0f).toNat
    let _ ← slice udpOfs udpHdrSize skb
    let gueOfs := udpOfs + udpHdrSize
    let gh ← slice gueOfs guehdrSize skb
    let hlen := (fieldU8 0 gh &&& 0x1f).toNat
    let crLenBytes := 4 * hlen
    if hlen < 1 ∨ crLenBytes > chainedRoutingSize then none
    else do
      let gueCrOfs := gueOfs + guehdrSize
      let cr ← slice gueCrOfs crLenBytes skb
      if hlen ≠ (fieldU8 3 cr).toNat + 1 then none
      else
        return {
          saddr := fieldU32 12 outerIp
          daddr := fieldU32 16 outerIp
          udpOfs, gueCrOfs, cr
          innerIpOfs := gueCrOfs + crLenBytes
          protoCtype := fieldU8 1 gh }

def glbredirectTg4 (stack : LocalStack) (skb : Bytes) : Verdict :=
  match gueHeader skb with
  | none => .nfDrop
  | some gue =>
      if gue.protoCtype = ipProtoIpipv4 then
        glbredirectHandleInnerIpv4 stack skb gue
      else if gue.protoCtype = ipProtoIpipv6 then
        glbredirectHandleInnerIpv6 stack skb gue
      else .nfDrop

end GlbDirector
