import GlbDirector.TunnelProbe

/-!
# Tunnel checks over the network

Probes and replies may be lost, repeated and reordered, and other ICMP packets
arrive as well, as long as none of them carries the identifier of a check.  A
reply still makes a check healthy only if the target itself has answered the
probe of that very check.
-/

namespace GlbDirector

open ByteCodec

/-! ## What the checker has heard -/

section Heard

variable {Check Channel : Type} [DecidableEq Check]
variable {xid : Check → String} {channelOf : Check → Channel}
  {heard : String → Prop} {s s' : TunnelState Check Channel}

/-- Every identifier on its way from the receive loop to a result was heard. -/
structure TunnelState.Heard (heard : String → Prop)
    (s : TunnelState Check Channel) : Prop where
  hecho : ∀ payload, s.loop = .echoReply payload → heard payload
  hpassing : ∀ payload channel, s.loop = .passing payload channel →
    heard payload
  hsenders : ∀ sender ∈ s.senders, heard sender.1
  hdelivered : ∀ delivery ∈ s.delivered, ∀ payload,
    delivery.sender = .reply payload → heard payload

omit [DecidableEq Check] in
theorem TunnelState.Heard.mono {heard' : String → Prop}
    (hs : s.Heard heard) (himp : ∀ payload, heard payload → heard' payload) :
    s.Heard heard' where
  hecho payload hloop := himp _ (hs.hecho payload hloop)
  hpassing payload channel hloop := himp _ (hs.hpassing payload channel hloop)
  hsenders sender hsender := himp _ (hs.hsenders sender hsender)
  hdelivered delivery hdelivery payload hsender :=
    himp _ (hs.hdelivered delivery hdelivery payload hsender)

omit [DecidableEq Check] in
/-- A step of a call or of a timeout. -/
theorem TunnelState.Heard.of_same (hs : s.Heard heard)
    (hloop : s'.loop = s.loop) (hsenders : s'.senders = s.senders)
    (hdelivered : ∀ delivery ∈ s'.delivered, delivery ∈ s.delivered ∨
      ∀ payload, delivery.sender ≠ .reply payload) : s'.Heard heard where
  hecho payload hpc := hs.hecho payload (hloop ▸ hpc)
  hpassing payload channel hpc := hs.hpassing payload channel (hloop ▸ hpc)
  hsenders sender hsender := hs.hsenders sender (hsenders ▸ hsender)
  hdelivered delivery hdelivery payload hsender := by
    rcases hdelivered delivery hdelivery with hold | hother
    · exact hs.hdelivered delivery hold payload hsender
    · exact absurd hsender (hother payload)

omit [DecidableEq Check] in
theorem TunnelState.Heard.setLoop (hs : s.Heard heard)
    {packet : ReceivedPacket}
    (hpacket : ∀ payload, packet.checkIdentifier? = some payload →
      heard payload) : (s.setLoop (receivedPc packet)).Heard heard := by
  refine ⟨?_, ?_, hs.hsenders, hs.hdelivered⟩
  · intro payload hloop
    change receivedPc packet = .echoReply payload at hloop
    unfold receivedPc at hloop
    cases hpayload : packet.checkIdentifier? with
    | none =>
        rw [hpayload] at hloop
        cases hloop
    | some other =>
        rw [hpayload] at hloop
        cases hloop
        exact hpacket payload hpayload
  · intro payload channel hloop
    change receivedPc packet = .passing payload channel at hloop
    unfold receivedPc at hloop
    split at hloop <;> cases hloop

theorem TunnelStep.keeps_heard (hstep : TunnelStep xid channelOf s s')
    (hs : s.Heard heard)
    (hquiet : s.loop = .reading → s'.loop = .reading) :
    s'.Heard heard := by
  have hkept : ∀ delivery ∈ s.delivered, delivery ∈ s.delivered ∨
      ∀ payload, delivery.sender ≠ .reply payload :=
    fun delivery hdelivery => Or.inl hdelivery
  cases hstep with
  | resolveFails check failure hcall => exact hs.of_same rfl rfl hkept
  | resolves check hcall => exact hs.of_same rfl rfl hkept
  | dialFails check failure hcall => exact hs.of_same rfl rfl hkept
  | dials check hcall => exact hs.of_same rfl rfl hkept
  | registers check hcall => exact hs.of_same rfl rfl hkept
  | prependFails check failure hcall => exact hs.of_same rfl rfl hkept
  | claims check failure hcall => exact hs.of_same rfl rfl hkept
  | startsTimer check hcall => exact hs.of_same rfl rfl hkept
  | writes check hcall => exact hs.of_same rfl rfl hkept
  | callSends check channel result hcall =>
      refine hs.of_same rfl rfl fun delivery hdelivery => ?_
      rcases List.mem_cons.mp hdelivery with rfl | hold
      · exact Or.inr fun payload hsender => by cases hsender
      · exact Or.inl hold
  | fires check htimer => exact hs.of_same rfl rfl hkept
  | timerClaims check htimer => exact hs.of_same rfl rfl hkept
  | timerSends check channel htimer =>
      refine hs.of_same rfl rfl fun delivery hdelivery => ?_
      rcases List.mem_cons.mp hdelivery with rfl | hold
      · exact Or.inr fun payload hsender => by cases hsender
      · exact Or.inl hold
  | receives packet hloop =>
      refine hs.setLoop fun payload hpayload => ?_
      have hreading : (receivedPc packet : LoopPc Channel) = .reading :=
        hquiet hloop
      rw [receivedPc, hpayload] at hreading
      cases hreading
  | replyClaims payload hloop =>
      have hpayload := hs.hecho payload hloop
      refine ⟨?_, ?_, hs.hsenders, hs.hdelivered⟩
      · intro other hpc
        change replyPc payload (s.pendingChecks payload) = _ at hpc
        unfold replyPc at hpc
        split at hpc <;> cases hpc
      · intro other channel hpc
        change replyPc payload (s.pendingChecks payload) = _ at hpc
        unfold replyPc at hpc
        split at hpc <;> cases hpc
        exact hpayload
  | spawns payload channel hloop =>
      have hpayload := hs.hpassing payload channel hloop
      refine ⟨?_, ?_, ?_, hs.hdelivered⟩
      · intro other hpc
        cases hpc
      · intro other channel' hpc
        cases hpc
      · intro sender hsender
        rcases List.mem_cons.mp hsender with rfl | hold
        · exact hpayload
        · exact hs.hsenders sender hold
  | replySends before after payload channel hsenders =>
      have hsender : (payload, channel) ∈ s.senders := by
        rw [hsenders]
        exact List.mem_append_cons_self
      refine ⟨hs.hecho, hs.hpassing, ?_, ?_⟩
      · intro sender hrest
        apply hs.hsenders sender
        rw [hsenders]
        exact List.mem_append.mpr ((List.mem_append.mp hrest).imp_right
          (List.mem_cons_of_mem _))
      · intro delivery hdelivery other hreply
        rcases List.mem_cons.mp hdelivery with rfl | hold
        · cases hreply
          exact hs.hsenders _ hsender
        · exact hs.hdelivered delivery hold other hreply

end Heard

/-! ## The network -/

/-- The checker, the packets that are under way and what the proxies have
answered.  A packet stays under way: it may never arrive, or more than once. -/
structure TunnelNetwork (Check Channel : Type) where
  checker : TunnelState Check Channel
  skbs : List Bytes
  replies : List Bytes
  answered : List (ByteVec 4 × Bytes)

section Network

variable {Check Channel : Type} [DecidableEq Check]
variable (gopacket : Gopacket) (kernel : TunnelKernel)
  (xid : Check → ByteVec 20) (channelOf : Check → Channel)
  (localIp targetIp : Check → ByteVec 4)

def TunnelNetwork.start : TunnelNetwork Check Channel where
  checker := .start
  skbs := []
  replies := []
  answered := []

/-- Proxies with any sockets; a packet from elsewhere carries no identifier of
a check. -/
inductive NetworkStep :
    TunnelNetwork Check Channel → TunnelNetwork Check Channel → Prop where
  | checker (s : TunnelNetwork Check Channel)
      {checker : TunnelState Check Channel}
      (hstep : TunnelStep (xidString xid) channelOf s.checker checker)
      (hquiet : s.checker.loop = .reading → checker.loop = .reading) :
      NetworkStep s { s with checker }
  | sends (s : TunnelNetwork Check Channel) (check : Check)
      (outer : OuterUdp) (hcall : s.checker.calls check = .writing) :
      NetworkStep s { s with
        checker := s.checker.setCall check .returned
        skbs := (outer.bytes ++ packetData gopacket "gue" (localIp check)
          (targetIp check) (identifierBytes (xid check))) :: s.skbs }
  | forwards (s : TunnelNetwork Check Channel) (stack : LocalStack)
      {skb forwarded : Bytes} (hskb : skb ∈ s.skbs)
      (hverdict : glbredirectTg4 stack skb = .stolen forwarded) :
      NetworkStep s { s with skbs := forwarded :: s.skbs }
  | answers (s : TunnelNetwork Check Channel) (stack : LocalStack)
      (node : ByteVec 4) {skb inner reply : Bytes} (hskb : skb ∈ s.skbs)
      (hverdict : glbredirectTg4 stack skb = .xtContinue)
      (hinner : kernel.gueReceive skb = some inner)
      (hanswers : kernel.answers node inner reply) :
      NetworkStep s { s with
        replies := reply :: s.replies
        answered := (node, inner) :: s.answered }
  | receives (s : TunnelNetwork Check Channel) {reply : Bytes}
      (hreply : reply ∈ s.replies) (hloop : s.checker.loop = .reading) :
      NetworkStep s { s with
        checker := s.checker.setLoop
          (receivedPc (receivedPacket gopacket kernel reply)) }
  | receivesOther (s : TunnelNetwork Check Channel) (packet : ReceivedPacket)
      (hother : ∀ check, packet.checkIdentifier? ≠
        some (checkIdentifier (xidString xid) check))
      (hloop : s.checker.loop = .reading) :
      NetworkStep s { s with
        checker := s.checker.setLoop (receivedPc packet) }

def NetworkReachable (s : TunnelNetwork Check Channel) : Prop :=
  Relation.ReflTransGen
    (NetworkStep gopacket kernel xid channelOf localIp targetIp) .start s

/-- The target has answered the probe of the check. -/
def TunnelNetwork.Answered (s : TunnelNetwork Check Channel) (check : Check) :
    Prop :=
  (targetIp check, probeOf gopacket xid localIp targetIp check) ∈ s.answered

structure TunnelNetwork.Honest (s : TunnelNetwork Check Channel) : Prop where
  hskbs : ∀ skb ∈ s.skbs, ∃ (check : Check) (outer : OuterUdp),
    skb = (outer.frame (probeOf gopacket xid localIp targetIp check)).bytes
  hreplies : ∀ reply ∈ s.replies, ∃ check,
    receivedPacket gopacket kernel reply =
        .echoReply (checkIdentifier (xidString xid) check) ∧
      s.Answered gopacket xid localIp targetIp check
  hheard : s.checker.Heard fun payload => ∀ check,
    payload = checkIdentifier (xidString xid) check →
      s.Answered gopacket xid localIp targetIp check

variable {gopacket kernel xid channelOf localIp targetIp}
  {s s' : TunnelNetwork Check Channel}

omit [DecidableEq Check] in
theorem xidString_injective (hxid : Function.Injective xid) :
    Function.Injective (xidString xid) := fun _ _ heq =>
  hxid (Subtype.ext (goString_injective heq))

theorem TunnelNetwork.Honest.step (hgopacket : gopacket.Conforms)
    (hkernel : kernel.Conforms) (hxid : Function.Injective xid)
    (hs : s.Honest gopacket kernel xid localIp targetIp)
    (hstep : NetworkStep gopacket kernel xid channelOf localIp targetIp
      s s') :
    s'.Honest gopacket kernel xid localIp targetIp := by
  cases hstep with
  | checker hstep hquiet =>
      exact ⟨hs.hskbs, hs.hreplies, hstep.keeps_heard hs.hheard hquiet⟩
  | sends check outer hcall =>
      refine ⟨fun skb hskb => ?_, hs.hreplies,
        hs.hheard.of_same rfl rfl fun _ hdelivery => Or.inl hdelivery⟩
      rcases List.mem_cons.mp hskb with rfl | hold
      · exact ⟨check, outer, hgopacket.packetData_frame outer _ _ _⟩
      · exact hs.hskbs skb hold
  | forwards stack hskb hverdict =>
      obtain ⟨check, outer, rfl⟩ := hs.hskbs _ hskb
      rw [glbredirectTg4_probe hgopacket] at hverdict
      cases hverdict
  | answers stack node hskb hverdict hinner hanswers =>
      obtain ⟨check, outer, rfl⟩ := hs.hskbs _ hskb
      rw [hkernel.decapsulates] at hinner
      cases hinner
      obtain ⟨rfl, hreceived⟩ :=
        answer_of_probe hgopacket hkernel xid localIp targetIp hanswers
      refine ⟨hs.hskbs, fun reply hreply => ?_, ?_⟩
      · rcases List.mem_cons.mp hreply with rfl | hold
        · exact ⟨check, hreceived, List.mem_cons_self⟩
        · obtain ⟨other, hother, hanswered⟩ := hs.hreplies reply hold
          exact ⟨other, hother, List.mem_cons_of_mem _ hanswered⟩
      · exact hs.hheard.mono fun payload hpayload other hother =>
          List.mem_cons_of_mem _ (hpayload other hother)
  | receives hreply hloop =>
      obtain ⟨check, hreceived, hanswered⟩ := hs.hreplies _ hreply
      refine ⟨hs.hskbs, hs.hreplies, hs.hheard.setLoop ?_⟩
      intro payload hpayload other hother
      rw [hreceived] at hpayload
      cases hpayload
      have hsame := checkIdentifier_injective (xidString_injective hxid) hother
      rwa [← hsame]
  | receivesOther packet hother hloop =>
      refine ⟨hs.hskbs, hs.hreplies, hs.hheard.setLoop ?_⟩
      rintro payload hpayload check rfl
      exact absurd hpayload (hother check)

theorem NetworkStep.checker_steps
    (hstep : NetworkStep gopacket kernel xid channelOf localIp targetIp
      s s') :
    TunnelSteps (xidString xid) channelOf s.checker s'.checker := by
  cases hstep with
  | checker hstep hquiet => exact .single hstep
  | sends check outer hcall => exact .single (.writes _ check hcall)
  | forwards stack hskb hverdict => exact .refl
  | answers stack node hskb hverdict hinner hanswers => exact .refl
  | receives hreply hloop => exact .single (.receives _ _ hloop)
  | receivesOther packet hother hloop =>
      exact .single (.receives _ packet hloop)

theorem NetworkReachable.honest (hgopacket : gopacket.Conforms)
    (hkernel : kernel.Conforms) (hxid : Function.Injective xid)
    (hrun : NetworkReachable gopacket kernel xid channelOf localIp targetIp
      s) :
    s.Honest gopacket kernel xid localIp targetIp ∧
      TunnelSteps (xidString xid) channelOf .start s.checker := by
  induction hrun with
  | refl =>
      refine ⟨⟨by simp [TunnelNetwork.start], by simp [TunnelNetwork.start],
        ?_⟩, .refl⟩
      refine ⟨fun payload hloop => ?_, fun payload channel hloop => ?_,
        by simp [TunnelNetwork.start, TunnelState.start],
        by simp [TunnelNetwork.start, TunnelState.start]⟩
      · cases hloop
      · cases hloop
  | tail _ hstep ih =>
      exact ⟨ih.1.step hgopacket hkernel hxid hstep,
        ih.2.trans hstep.checker_steps⟩

section Answered

variable {checker checker' : TunnelState Check Channel}
  {skbs replies : List Bytes} {answered : List (ByteVec 4 × Bytes)}

theorem NetworkReachable.quiet
    (hrun : NetworkReachable gopacket kernel xid channelOf localIp targetIp
      ⟨checker, skbs, replies, answered⟩)
    (hstep : TunnelStep (xidString xid) channelOf checker checker')
    (hquiet : checker.loop = .reading → checker'.loop = .reading) :
    NetworkReachable gopacket kernel xid channelOf localIp targetIp
      ⟨checker', skbs, replies, answered⟩ :=
  hrun.tail (.checker ⟨_, _, _, _⟩ hstep hquiet)

variable (gopacket kernel xid channelOf localIp targetIp)

/-- The check waits for the reply to its probe. -/
theorem exists_waiting_run (check : Check) (outer : OuterUdp) :
    ∃ checker : TunnelState Check Channel,
      NetworkReachable gopacket kernel xid channelOf localIp targetIp
        ⟨checker, [outer.bytes ++ packetData gopacket "gue" (localIp check)
          (targetIp check) (identifierBytes (xid check))], [], []⟩ ∧
      checker.loop = .reading ∧ checker.senders = [] ∧
      checker.pendingChecks (checkIdentifier (xidString xid) check) =
        some (channelOf check) := by
  have hcall (s : TunnelState Check Channel) (pc : CallPc Channel) :
      (s.setCall check pc).calls check = pc := Function.update_self ..
  have hstart : NetworkReachable gopacket kernel xid channelOf localIp
      targetIp ⟨.start, [], [], []⟩ := .refl
  have hdialling := hstart.quiet (.resolves .start check rfl) id
  have hregistering := hdialling.quiet (.dials _ check (hcall _ _)) id
  have hprepending := hregistering.quiet (.registers _ check (hcall _ _)) id
  have hwriting := hprepending.quiet (.startsTimer _ check (hcall _ _)) id
  have hsent := hwriting.tail
    (.sends ⟨_, _, _, _⟩ check outer (hcall _ _))
  refine ⟨_, hsent, rfl, rfl, ?_⟩
  exact Function.update_self ..

variable {gopacket kernel}

theorem exists_healthy_run (hgopacket : gopacket.Conforms)
    (hkernel : kernel.Conforms) (check : Check) (outer : OuterUdp)
    (stack : LocalStack) :
    ∃ s : TunnelNetwork Check Channel,
      NetworkReachable gopacket kernel xid channelOf localIp targetIp s ∧
      ⟨.reply (checkIdentifier (xidString xid) check), channelOf check,
        replyResult⟩ ∈ s.checker.delivered := by
  obtain ⟨checker, hwaiting, hloop, hsenders, hpending⟩ :=
    exists_waiting_run gopacket kernel xid channelOf localIp targetIp check
      outer
  obtain ⟨reply, hanswers⟩ :=
    exists_answer hgopacket hkernel xid localIp targetIp check
  have hreceived :=
    (answer_of_probe hgopacket hkernel xid localIp targetIp hanswers).2
  have hframe := hgopacket.packetData_frame outer (localIp check)
    (targetIp check) (identifierBytes (xid check))
  have hverdict : glbredirectTg4 stack (outer.bytes ++ packetData gopacket
      "gue" (localIp check) (targetIp check) (identifierBytes (xid check))) =
        .xtContinue := by
    rw [hframe]
    exact glbredirectTg4_probe hgopacket xid localIp targetIp stack outer check
  have hinner : kernel.gueReceive (outer.bytes ++ packetData gopacket "gue"
      (localIp check) (targetIp check) (identifierBytes (xid check))) =
        some (probeOf gopacket xid localIp targetIp check) := by
    rw [hframe]
    exact hkernel.decapsulates outer _
  have hanswered := hwaiting.tail (.answers ⟨_, _, _, _⟩ stack _
    List.mem_cons_self hverdict hinner hanswers)
  have hheard := hanswered.tail
    (.receives ⟨_, _, _, _⟩ List.mem_cons_self hloop)
  rw [hreceived] at hheard
  have hclaimed := NetworkReachable.quiet hheard (.replyClaims _ _ rfl)
    fun hreading => by cases hreading
  have hpassing : replyPc (checkIdentifier (xidString xid) check)
      (checker.pendingChecks (checkIdentifier (xidString xid) check)) =
        .passing (checkIdentifier (xidString xid) check)
          (channelOf check) := by
    rw [hpending]
    rfl
  have hspawned := hclaimed.quiet (.spawns _ _ _ hpassing) fun _ => rfl
  have hlast : (checkIdentifier (xidString xid) check, channelOf check) ::
      checker.senders = [] ++
        (checkIdentifier (xidString xid) check, channelOf check) :: [] := by
    rw [hsenders]
    rfl
  have hdelivered := hspawned.quiet (.replySends _ [] [] _ _ hlast) id
  exact ⟨_, hdelivered, List.mem_cons_self⟩

end Answered

end Network

/-- Two checks of one target. -/
def sampleXids (check : Bool) : ByteVec 20 :=
  ⟨(if check then 1 else 0) :: List.replicate 19 0, by simp⟩

def probedTarget (_ : Bool) : ByteVec 4 := ⟨[10, 0, 0, 1], rfl⟩

def sampleOuter : OuterUdp where
  ipHead := [0x45, 0, 0, 82, 0, 0, 0x40, 0, 64, ipProtoUdp, 0, 0]
  saddr := 0
  daddr := 0
  options := []
  udpHead := [0, 0, 0x4c, 0x43, 0, 62]
  check := 0
  ipHead_length := rfl
  ihl := by decide
  protocol := rfl
  udpHead_length := rfl

def idleStack : LocalStack where
  lookupEstablished _ _ _ _ := false
  lookupEstablished6 _ _ _ _ := false
  lookupListener _ _ _ _ := none
  lookupListener6 _ _ _ _ := none
  cookieV4Check _ _ := 0
  cookieV6Check _ _ := 0

end GlbDirector
