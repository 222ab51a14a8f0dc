import GlbDirector.RedirectChain

/-!
# Runs of forwarding proxies

One forwarding step rewrites `next_hop`, the outer addresses and the UDP
checksum, so the next node parses the same hop list and the same inner packet.
`next_hop` grows with every step and stays within `hop_count`, which bounds
the number of steps of a run over any nodes.
-/

namespace GlbDirector

open ByteCodec

/-! ## One step on the bytes -/

/-- The checksum, next hop and address fields lie inside the packet. -/
structure FieldsInside (skb : Bytes) (gue : GueHeader) : Prop where
  hcheck : gue.udpOfs + 8 ≤ skb.length
  hnext : gue.gueCrOfs + 3 ≤ skb.length
  haddresses : 20 ≤ skb.length

/-- Positions that a forwarding step does not write. -/
structure Untouched (gue : GueHeader) (index : ℕ) : Prop where
  hcheck : index < gue.udpOfs + 6 ∨ gue.udpOfs + 8 ≤ index
  hnext : index ≠ gue.gueCrOfs + 2
  haddresses : index < 12 ∨ 20 ≤ index

/-- The packet keeps its length and all untouched bytes. -/
structure WritesFields (gue : GueHeader) (skb skb' : Bytes) : Prop where
  hlength : skb'.length = skb.length
  hbytes : ∀ index, Untouched gue index → skb'[index]? = skb[index]?

section Writes

variable {gue : GueHeader} {skb skb' : Bytes}

theorem WritesFields.patched (hwrites : WritesFields gue skb skb')
    {offset : ℕ} {patched : Bytes} (hfits : offset + patched.length ≤ skb.length)
    (hfield : ∀ index, Untouched gue index →
      index < offset ∨ offset + patched.length ≤ index) :
    WritesFields gue skb (patch offset patched skb') := by
  rw [← hwrites.hlength] at hfits
  constructor
  · rw [patch_length hfits, hwrites.hlength]
  · intro index huntouched
    rw [getElem?_patch hfits (hfield index huntouched),
      hwrites.hbytes index huntouched]

variable (hinside : FieldsInside skb gue)
include hinside

theorem WritesFields.check (hwrites : WritesFields gue skb skb')
    (check : UInt16) :
    WritesFields gue skb (patch (gue.udpOfs + 6) (u16le check) skb') := by
  have hcheck := hinside.hcheck
  apply hwrites.patched
  · rw [u16le_length]
    omega
  · intro index huntouched
    rw [u16le_length]
    exact huntouched.hcheck

theorem WritesFields.nextHop (hwrites : WritesFields gue skb skb')
    (nextHop : UInt8) :
    WritesFields gue skb (patch (gue.gueCrOfs + 2) [nextHop] skb') := by
  have hnext := hinside.hnext
  apply hwrites.patched
  · rw [List.length_singleton]
    omega
  · intro index huntouched
    have hne := huntouched.hnext
    rw [List.length_singleton]
    omega

theorem WritesFields.address (hwrites : WritesFields gue skb skb')
    {offset : ℕ} (hstart : 12 ≤ offset) (hend : offset ≤ 16)
    (address : UInt32) :
    WritesFields gue skb (patch offset (u32le address) skb') := by
  have haddresses := hinside.haddresses
  apply hwrites.patched
  · rw [u32le_length]
    omega
  · intro index huntouched
    have hbeside := huntouched.haddresses
    rw [u32le_length]
    omega

theorem forwardedSkb_writes (alt : UInt32) :
    WritesFields gue skb (forwardedSkb skb gue alt) := by
  have hstart : WritesFields gue skb skb := ⟨rfl, fun _ _ => rfl⟩
  have hchecked : WritesFields gue skb (adjustedCheck skb gue alt) := by
    unfold adjustedCheck
    simp only
    split
    · exact (hstart.check hinside _).check hinside _
    · exact hstart
  have hcounted := hchecked.nextHop hinside
    (fieldU8 (gue.gueCrOfs + 2) (adjustedCheck skb gue alt) + 1)
  exact (hcounted.address hinside le_rfl (by decide) _).address hinside
    (by decide) le_rfl alt

end Writes

/-! ## One step on a frame -/

/-- What a node that forwards a frame has found. -/
theorem glbredirectTg4_eq_stolen {stack : LocalStack} {frame : GueFrame}
    {sent : Bytes} (hforward : glbredirectTg4 stack frame.bytes =
      .stolen sent) :
    ∃ alt, frame.hops[frame.nextHop.toNat]? = some alt ∧
      alt ≠ frame.daddr ∧
      sent = forwardedSkb frame.bytes frame.header alt := by
  rw [frame.glbredirectTg4_bytes] at hforward
  unfold handleInner at hforward
  split at hforward
  · cases hforward
  · cases hforward
  · unfold glbredirectHandleInnerTcpGeneric at hforward
    split at hforward
    · cases hforward
    · split at hforward
      · cases hforward
      · split at hforward
        · cases hforward
        · rename_i hleft
          rw [GueFrame.header_nextHop, GueFrame.header_hopCount, ge_iff_le,
            UInt8.le_iff_toNat_le, frame.hops_length_toNat, not_le]
            at hleft
          have hhop := List.getElem?_eq_getElem hleft
          simp only [GueFrame.header_nextHop, frame.header_hop hhop]
            at hforward
          split at hforward
          · cases hforward
          · rename_i hself
            exact ⟨_, hhop, hself, (Verdict.stolen.inj hforward).symm⟩

theorem GueFrame.fieldsInside (frame : GueFrame) :
    FieldsInside frame.bytes frame.header := by
  have hcr := (slice_eq_some_iff.mp frame.slice_chainedRouting).1
  have hsize : frame.header.gueCrOfs =
      frame.header.udpOfs + udpHdrSize + guehdrSize := rfl
  have hudp : ipv4HdrSize ≤ frame.header.udpOfs :=
    Nat.le_add_right ipv4HdrSize frame.options.length
  simp only [udpHdrSize, guehdrSize, ipv4HdrSize] at hsize hudp
  exact ⟨by omega, by omega, by omega⟩

/-! ## Headers along the chain -/

/-- The routing data that no node changes. -/
structure SameRouting (gue gue' : GueHeader) : Prop where
  hudpOfs : gue'.udpOfs = gue.udpOfs
  hgueCrOfs : gue'.gueCrOfs = gue.gueCrOfs
  hinnerIpOfs : gue'.innerIpOfs = gue.innerIpOfs
  hprotoCtype : gue'.protoCtype = gue.protoCtype
  hhopCount : gue'.hopCount = gue.hopCount
  hhop : ∀ index, gue'.hop index = gue.hop index

theorem SameRouting.trans {gue gue' gue'' : GueHeader}
    (hfirst : SameRouting gue gue') (hsecond : SameRouting gue' gue'') :
    SameRouting gue gue'' where
  hudpOfs := hsecond.hudpOfs.trans hfirst.hudpOfs
  hgueCrOfs := hsecond.hgueCrOfs.trans hfirst.hgueCrOfs
  hinnerIpOfs := hsecond.hinnerIpOfs.trans hfirst.hinnerIpOfs
  hprotoCtype := hsecond.hprotoCtype.trans hfirst.hprotoCtype
  hhopCount := hsecond.hhopCount.trans hfirst.hhopCount
  hhop index := (hsecond.hhop index).trans (hfirst.hhop index)

theorem GueFrame.forward_sameRouting (frame : GueFrame) (alt : UInt32) :
    SameRouting frame.header (frame.forward alt).header where
  hudpOfs := rfl
  hgueCrOfs := rfl
  hinnerIpOfs := rfl
  hprotoCtype := rfl
  hhopCount := rfl
  hhop index := by
    have hrest : (frame.forward alt).chainedRouting.drop 4 =
        frame.chainedRouting.drop 4 := rfl
    show wordU32 (List.take 4 (List.drop (4 + 4 * index)
      (frame.forward alt).chainedRouting)) = wordU32 (List.take 4
        (List.drop (4 + 4 * index) frame.chainedRouting))
    rw [← List.drop_drop, hrest, List.drop_drop]

/-- A node with the packet `skb` sends `sent` on. -/
structure ForwardStep (skb sent : Bytes) (gue gue' : GueHeader) : Prop where
  hparsed : gueHeader skb = some gue
  hparsed' : gueHeader sent = some gue'
  hleft : gue.nextHop < gue.hopCount
  hinside : 4 + 4 * gue.nextHop.toNat + 4 ≤ gue.cr.length
  hgrows : gue'.nextHop.toNat = gue.nextHop.toNat + 1
  hsource : gue'.saddr = gue.daddr
  hdestination : gue'.daddr = gue.hop gue.nextHop.toNat
  hsame : SameRouting gue gue'
  hlength : sent.length = skb.length
  hbytes : ∀ index, gue.udpOfs ≤ index →
    index ≠ gue.udpOfs + 6 → index ≠ gue.udpOfs + 7 →
      index ≠ gue.gueCrOfs + 2 → sent[index]? = skb[index]?

theorem forwardStep_of_frame {stack : LocalStack} {frame : GueFrame}
    {sent : Bytes} (hforward : glbredirectTg4 stack frame.bytes =
      .stolen sent) :
    ∃ alt, sent = (frame.forward alt).bytes ∧
      ForwardStep frame.bytes sent frame.header
        (frame.forward alt).header := by
  obtain ⟨alt, hhop, _, rfl⟩ := glbredirectTg4_eq_stolen hforward
  have hindex := (List.getElem?_eq_some_iff.mp hhop).1
  have hbound := frame.hops_length_lt
  obtain ⟨hlength, hbytes⟩ := forwardedSkb_writes frame.fieldsInside alt
  refine ⟨alt, frame.forwardedSkb_bytes alt, ?_⟩
  exact {
    hparsed := frame.gueHeader_bytes
    hparsed' := by
      rw [frame.forwardedSkb_bytes]
      exact (frame.forward alt).gueHeader_bytes
    hleft := by
      rw [GueFrame.header_nextHop, GueFrame.header_hopCount,
        UInt8.lt_iff_toNat_lt, frame.hops_length_toNat]
      exact hindex
    hinside := by
      rw [GueFrame.header_nextHop]
      show _ ≤ frame.chainedRouting.length
      rw [GueFrame.chainedRouting_length]
      omega
    hgrows := by
      rw [GueFrame.header_nextHop, GueFrame.header_nextHop]
      show (frame.nextHop + 1).toNat = _
      rw [UInt8.toNat_add]
      exact Nat.mod_eq_of_lt (by change _ + 1 < 256; omega)
    hsource := rfl
    hdestination := by
      rw [GueFrame.header_nextHop, frame.header_hop hhop]
      rfl
    hsame := frame.forward_sameRouting alt
    hlength
    hbytes := by
      intro index hudp hcheck hcheck' hnext
      have houter : ipv4HdrSize ≤ frame.header.udpOfs :=
        Nat.le_add_right ipv4HdrSize frame.options.length
      simp only [ipv4HdrSize] at houter
      exact hbytes index ⟨by omega, hnext, by omega⟩ }

/-! ## Runs -/

/-- The bytes of the outer header that the IP layers between two nodes may
rewrite: service, lengths, identification, fragment, time to live, checksum. -/
def RewrittenInTransit (index : ℕ) : Prop :=
  1 ≤ index ∧ index < 12 ∧ index ≠ 9

structure Transit (sent received : Bytes) : Prop where
  hlength : received.length = sent.length
  hbytes : ∀ index, ¬ RewrittenInTransit index →
    received[index]? = sent[index]?

theorem Transit.refl (skb : Bytes) : Transit skb skb :=
  ⟨rfl, fun _ _ => rfl⟩

/-- `count` nodes in turn have forwarded the packet, each with sockets of its
own. -/
inductive ForwardRun : ℕ → Bytes → Bytes → Prop where
  | arrived (skb : Bytes) : ForwardRun 0 skb skb
  | forwarded {count : ℕ} {skb sent received last : Bytes}
      (stack : LocalStack)
      (hforward : glbredirectTg4 stack skb = .stolen sent)
      (htransit : Transit sent received)
      (hrest : ForwardRun count received last) :
      ForwardRun (count + 1) skb last

theorem Transit.drop {sent received : Bytes} {offset : ℕ}
    (htransit : Transit sent received) (hoffset : 12 ≤ offset) :
    received.drop offset = sent.drop offset := by
  apply List.ext_getElem?
  intro index
  rw [List.getElem?_drop, List.getElem?_drop]
  apply htransit.hbytes
  rintro ⟨_, hlt, _⟩
  omega

theorem Transit.fieldU8_eq {sent received : Bytes} {offset : ℕ}
    (htransit : Transit sent received)
    (hoffset : ¬ RewrittenInTransit offset) :
    fieldU8 offset received = fieldU8 offset sent := by
  rw [fieldU8, fieldU8, List.getD_eq_getElem?_getD,
    List.getD_eq_getElem?_getD, htransit.hbytes offset hoffset]

namespace GueFrame

/-- The frame from its addresses on. -/
def behindHead (frame : GueFrame) : Bytes :=
  (u32le frame.saddr ++ u32le frame.daddr) ++ (frame.options ++
    (frame.udp ++ (frame.guehdr ++ (frame.chainedRouting ++ frame.inner))))

theorem bytes_eq_ipHead (frame : GueFrame) :
    frame.bytes = frame.ipHead ++ frame.behindHead := by
  rw [bytes, outerIp, List.append_assoc, behindHead]

theorem drop_ipHead (frame : GueFrame) :
    frame.bytes.drop 12 = frame.behindHead := by
  rw [bytes_eq_ipHead, List.drop_left' frame.ipHead_length]

theorem fieldU8_ipHead (frame : GueFrame) {offset : ℕ}
    (hoffset : offset < 12) :
    fieldU8 offset frame.bytes = fieldU8 offset frame.ipHead := by
  rw [bytes_eq_ipHead, fieldU8_append_left]
  rw [frame.ipHead_length]
  exact hoffset

end GueFrame

/-- A frame arrives as a frame with the same header. -/
theorem Transit.frame {frame : GueFrame} {received : Bytes}
    (htransit : Transit frame.bytes received) :
    ∃ frame' : GueFrame, frame'.bytes = received ∧
      frame'.header = frame.header ∧ frame'.inner = frame.inner := by
  have hsplit : received.take 12 ++ frame.behindHead = received := by
    rw [← frame.drop_ipHead, ← htransit.drop le_rfl, List.take_append_drop]
  have hlength : (received.take 12).length = 12 := by
    apply List.length_take_of_le
    rw [htransit.hlength]
    exact frame.fieldsInside.haddresses.trans' (by decide)
  have hbyte : ∀ offset, offset < 12 → ¬ RewrittenInTransit offset →
      fieldU8 offset (received.take 12) = fieldU8 offset frame.ipHead := by
    intro offset hlt hkept
    rw [← frame.fieldU8_ipHead hlt, ← htransit.fieldU8_eq hkept]
    conv_rhs => rw [← hsplit]
    rw [GueFrame.fieldU8_append_left]
    rw [hlength]
    exact hlt
  have hihl := hbyte 0 (by decide) (fun h => absurd h.1 (by decide))
  have hproto := hbyte 9 (by decide) (fun h => h.2.2 rfl)
  let frame' : GueFrame := { frame with
    ipHead := received.take 12
    ipHead_length := hlength
    ihl := hihl ▸ frame.ihl
    protocol := hproto ▸ frame.protocol }
  exact ⟨frame', frame'.bytes_eq_ipHead.trans hsplit, rfl, rfl⟩

theorem GueFrame.drop_inner (frame : GueFrame) :
    frame.bytes.drop frame.header.innerIpOfs = frame.inner := by
  obtain ⟨front, hbytes, hfront⟩ := frame.bytes_eq_front_inner
  rw [hbytes, List.drop_left' hfront]

/-- What holds between the first and the last packet of a run. -/
structure ForwardedBy (count : ℕ) (skb last : Bytes)
    (gue gue' : GueHeader) : Prop where
  hparsed : gueHeader last = some gue'
  hsame : SameRouting gue gue'
  hnextHop : gue'.nextHop.toNat = gue.nextHop.toNat + count
  hinner : last.drop gue.innerIpOfs = skb.drop gue.innerIpOfs
  hcount : count ≤ gue.hopCount.toNat - gue.nextHop.toNat

theorem ForwardRun.forwardedBy {count : ℕ} {skb last : Bytes}
    (hrun : ForwardRun count skb last) {frame : GueFrame}
    (hframe : frame.bytes = skb) :
    ∃ gue', ForwardedBy count skb last frame.header gue' := by
  induction hrun generalizing frame with
  | arrived skb =>
      subst hframe
      exact ⟨frame.header, frame.gueHeader_bytes,
        ⟨rfl, rfl, rfl, rfl, rfl, fun _ => rfl⟩, rfl, rfl, Nat.zero_le _⟩
  | @forwarded count skb sent received last stack hforward htransit _ ih =>
      subst hframe
      obtain ⟨alt, rfl, hstep⟩ := forwardStep_of_frame hforward
      obtain ⟨frame', rfl, hheader, hinner⟩ := htransit.frame
      obtain ⟨gue', hby⟩ := ih rfl
      rw [hheader] at hby
      have hleft := UInt8.lt_iff_toNat_lt.mp hstep.hleft
      have hcount := hby.hcount
      have hfirst : frame'.bytes.drop frame.header.innerIpOfs =
          frame.bytes.drop frame.header.innerIpOfs := by
        have hofs : frame'.header.innerIpOfs = frame.header.innerIpOfs := by
          rw [hheader]
          exact hstep.hsame.hinnerIpOfs
        rw [frame.drop_inner, ← hofs, frame'.drop_inner, hinner]
        rfl
      rw [hstep.hsame.hhopCount, hstep.hgrows] at hcount
      refine ⟨gue', hby.hparsed, hstep.hsame.trans hby.hsame, ?_, ?_, ?_⟩
      · rw [hby.hnextHop, hstep.hgrows]
        omega
      · have hlast := hby.hinner
        rw [hstep.hsame.hinnerIpOfs] at hlast
        exact hlast.trans hfirst
      · omega

/-- What `ip_rcv` has checked before it gives a packet to the target. -/
def IpRcvDelivers (skb : Bytes) : Prop :=
  5 ≤ (fieldU8 0 skb &&& 0x0f).toNat

theorem IpRcvDelivers.ipv4HdrSize_le {skb : Bytes} {gue : GueHeader}
    (hdelivers : IpRcvDelivers skb) (hgue : gueHeader skb = some gue) :
    ipv4HdrSize ≤ gue.udpOfs := by
  simp only [gueHeader, Option.bind_eq_bind, Option.bind_eq_some_iff,
    Option.ite_none_left_eq_some] at hgue
  obtain ⟨outer, houter, _, _, _, _, _, _, _, _, _, hresult⟩ := hgue
  have hfirst : fieldU8 0 outer = fieldU8 0 skb := by
    obtain ⟨hlength, rfl⟩ := slice_eq_some_iff.mp houter
    simp [fieldU8, List.getD_eq_getElem?_getD, ipv4HdrSize]
  rw [← Option.some.inj hresult, hfirst]
  unfold IpRcvDelivers at hdelivers
  simp only [ipv4HdrSize]
  omega

end GlbDirector
