import GlbDirector.HealthManager
import Mathlib.Logic.Relation

/-!
# Tunnel checks (`TunnelHealthChecker.go`)

A check stores its result channel under a fresh identifier.  The goroutine of
its timeout, the replies and its own error path then race for that entry, and
whoever removes it sends the result.  Every step of the whole system is for
each check a step of a small machine of its own, or none.
-/

namespace GlbDirector

/-! ## The goroutines -/

variable {Check Channel : Type}

/-- Where a call of `CheckTarget` stands. -/
inductive CallPc (Channel : Type) where
  | resolving
  | dialling
  | registering
  | prepending
  /-- `PrependBytes` has failed -/
  | claiming (failure : String)
  /-- at a send of the call itself; a send to the nil channel blocks forever -/
  | sending (resultChannel : Option Channel) (result : HealthResult)
  | failed
  | writing
  | returned

/-- Where the goroutine of the timeout stands. -/
inductive TimerPc (Channel : Type) where
  | absent
  | sleeping
  | fired
  | sending (resultChannel : Channel)
  | done

/-- Where `icmpReceiveLoop` stands. -/
inductive LoopPc (Channel : Type) where
  | reading
  | echoReply (checkIdentifier : String)
  /-- it has got a channel and starts the goroutine that sends -/
  | passing (checkIdentifier : String) (resultChannel : Channel)

/-- What `ReadFrom` and the parser make of a packet. -/
inductive ReceivedPacket where
  | readError
  | notIcmp
  | otherType
  | echoReply (payload : String)

def ReceivedPacket.checkIdentifier? : ReceivedPacket → Option String
  | .echoReply payload => some payload
  | _ => none

/-- The goroutines that send results. -/
inductive Sender (Check : Type) where
  | call (check : Check)
  | timer (check : Check)
  | reply (checkIdentifier : String)

structure TunnelResult (Check Channel : Type) where
  sender : Sender Check
  channel : Channel
  result : HealthResult

structure TunnelState (Check Channel : Type) where
  pendingChecks : String → Option Channel
  calls : Check → CallPc Channel
  timers : Check → TimerPc Channel
  loop : LoopPc Channel
  /-- the goroutines that the loop has started -/
  senders : List (String × Channel)
  delivered : List (TunnelResult Check Channel)

def TunnelState.start : TunnelState Check Channel where
  pendingChecks _ := none
  calls _ := .resolving
  timers _ := .absent
  loop := .reading
  senders := []
  delivered := []

namespace TunnelState

def setCall [DecidableEq Check] (s : TunnelState Check Channel) (check : Check)
    (pc : CallPc Channel) : TunnelState Check Channel :=
  { s with calls := Function.update s.calls check pc }

def setTimer [DecidableEq Check] (s : TunnelState Check Channel)
    (check : Check) (pc : TimerPc Channel) : TunnelState Check Channel :=
  { s with timers := Function.update s.timers check pc }

def setLoop (s : TunnelState Check Channel) (pc : LoopPc Channel) :
    TunnelState Check Channel :=
  { s with loop := pc }

/-- The assignment of `createPendingCheck`. -/
def store (s : TunnelState Check Channel) (checkIdentifier : String)
    (resultChannel : Channel) : TunnelState Check Channel :=
  { s with
    pendingChecks := Function.update s.pendingChecks checkIdentifier
      (some resultChannel) }

/-- What `getCheckCompletionChannel` leaves; it returns the entry that was
there. -/
def claim (s : TunnelState Check Channel) (checkIdentifier : String) :
    TunnelState Check Channel :=
  { s with
    pendingChecks := Function.update s.pendingChecks checkIdentifier none }

def setSenders (s : TunnelState Check Channel)
    (senders : List (String × Channel)) : TunnelState Check Channel :=
  { s with senders := senders }

def deliver (s : TunnelState Check Channel)
    (delivery : TunnelResult Check Channel) : TunnelState Check Channel :=
  { s with delivered := delivery :: s.delivered }

end TunnelState

/-- What the timeout does with the channel it got. -/
def timeoutPc : Option Channel → TimerPc Channel
  | some resultChannel => .sending resultChannel
  | none => .done

def timeoutResult : HealthResult :=
  ⟨false, "No response received within timeout window"⟩

def replyResult : HealthResult := ⟨true, ""⟩

/-- The loop after a packet. -/
def receivedPc (packet : ReceivedPacket) : LoopPc Channel :=
  match packet.checkIdentifier? with
  | some checkIdentifier => .echoReply checkIdentifier
  | none => .reading

/-- The loop after it asked for the channel of an identifier. -/
def replyPc (checkIdentifier : String) : Option Channel → LoopPc Channel
  | some resultChannel => .passing checkIdentifier resultChannel
  | none => .reading

/-! ## Steps -/

section System

variable [DecidableEq Check] (xid : Check → String)
  (channelOf : Check → Channel)

/-- The identifier that `createPendingCheck` makes in a call. -/
def checkIdentifier (check : Check) : String := "glbhc_" ++ xid check

inductive TunnelStep :
    TunnelState Check Channel → TunnelState Check Channel → Prop where
  | resolveFails (s : TunnelState Check Channel) (check : Check)
      (failure : String) (hcall : s.calls check = .resolving) :
      TunnelStep s
        (s.setCall check (.sending (some (channelOf check)) ⟨false, failure⟩))
  | resolves (s : TunnelState Check Channel) (check : Check)
      (hcall : s.calls check = .resolving) :
      TunnelStep s (s.setCall check .dialling)
  | dialFails (s : TunnelState Check Channel) (check : Check)
      (failure : String) (hcall : s.calls check = .dialling) :
      TunnelStep s
        (s.setCall check (.sending (some (channelOf check)) ⟨false, failure⟩))
  | dials (s : TunnelState Check Channel) (check : Check)
      (hcall : s.calls check = .dialling) :
      TunnelStep s (s.setCall check .registering)
  | registers (s : TunnelState Check Channel) (check : Check)
      (hcall : s.calls check = .registering) :
      TunnelStep s
        ((s.store (checkIdentifier xid check) (channelOf check)).setCall check
          .prepending)
  | prependFails (s : TunnelState Check Channel) (check : Check)
      (failure : String) (hcall : s.calls check = .prepending) :
      TunnelStep s (s.setCall check (.claiming failure))
  | claims (s : TunnelState Check Channel) (check : Check)
      (failure : String) (hcall : s.calls check = .claiming failure) :
      TunnelStep s
        ((s.claim (checkIdentifier xid check)).setCall check
          (.sending (s.pendingChecks (checkIdentifier xid check))
            ⟨true, failure⟩))
  | startsTimer (s : TunnelState Check Channel) (check : Check)
      (hcall : s.calls check = .prepending) :
      TunnelStep s ((s.setTimer check .sleeping).setCall check .writing)
  /-- whether `Write` succeeds makes no difference -/
  | writes (s : TunnelState Check Channel) (check : Check)
      (hcall : s.calls check = .writing) :
      TunnelStep s (s.setCall check .returned)
  | callSends (s : TunnelState Check Channel) (check : Check)
      (channel : Channel) (result : HealthResult)
      (hcall : s.calls check = .sending (some channel) result) :
      TunnelStep s
        ((s.deliver ⟨.call check, channel, result⟩).setCall check .failed)
  | fires (s : TunnelState Check Channel) (check : Check)
      (htimer : s.timers check = .sleeping) :
      TunnelStep s (s.setTimer check .fired)
  | timerClaims (s : TunnelState Check Channel) (check : Check)
      (htimer : s.timers check = .fired) :
      TunnelStep s
        ((s.claim (checkIdentifier xid check)).setTimer check
          (timeoutPc (s.pendingChecks (checkIdentifier xid check))))
  | timerSends (s : TunnelState Check Channel) (check : Check)
      (channel : Channel) (htimer : s.timers check = .sending channel) :
      TunnelStep s
        ((s.deliver ⟨.timer check, channel, timeoutResult⟩).setTimer check
          .done)
  | receives (s : TunnelState Check Channel) (packet : ReceivedPacket)
      (hloop : s.loop = .reading) :
      TunnelStep s (s.setLoop (receivedPc packet))
  | replyClaims (s : TunnelState Check Channel) (payload : String)
      (hloop : s.loop = .echoReply payload) :
      TunnelStep s
        ((s.claim payload).setLoop (replyPc payload (s.pendingChecks payload)))
  | spawns (s : TunnelState Check Channel) (payload : String)
      (channel : Channel) (hloop : s.loop = .passing payload channel) :
      TunnelStep s
        ((s.setSenders ((payload, channel) :: s.senders)).setLoop .reading)
  | replySends (s : TunnelState Check Channel)
      (before after : List (String × Channel)) (payload : String)
      (channel : Channel)
      (hsenders : s.senders = before ++ (payload, channel) :: after) :
      TunnelStep s
        ((s.setSenders (before ++ after)).deliver
          ⟨.reply payload, channel, replyResult⟩)

def TunnelSteps :
    TunnelState Check Channel → TunnelState Check Channel → Prop :=
  Relation.ReflTransGen (TunnelStep xid channelOf)

/-! ## The system as one check sees it -/

/-- Whether a goroutine sends on behalf of a check. -/
def Sender.isFor (check : Check) : Sender Check → Bool
  | .call other => check = other
  | .timer other => check = other
  | .reply identifier => checkIdentifier xid check = identifier

def LoopPc.passing? (identifier : String) :
    LoopPc Channel → Option Channel
  | .passing other channel => if identifier = other then some channel else none
  | _ => none

/-- The channels that are sent to for an identifier. -/
def channelsFor (identifier : String) (senders : List (String × Channel)) :
    List Channel :=
  senders.filterMap fun sender =>
    if identifier = sender.1 then some sender.2 else none

structure CheckView (Channel : Type) where
  call : CallPc Channel
  timer : TimerPc Channel
  pending : Option Channel
  passing : Option Channel
  senders : List Channel
  /-- the channels to which results of the check went -/
  results : List Channel

def TunnelState.view (s : TunnelState Check Channel) (check : Check) :
    CheckView Channel where
  call := s.calls check
  timer := s.timers check
  pending := s.pendingChecks (checkIdentifier xid check)
  passing := s.loop.passing? (checkIdentifier xid check)
  senders := channelsFor (checkIdentifier xid check) s.senders
  results := s.delivered.filterMap fun delivery =>
    if delivery.sender.isFor xid check then some delivery.channel else none

end System

/-- What can happen to one check with the result channel `own`. -/
inductive CheckStep (own : Channel) :
    CheckView Channel → CheckView Channel → Prop where
  | resolveFails (v : CheckView Channel) (result : HealthResult)
      (hcall : v.call = .resolving) :
      CheckStep own v { v with call := .sending (some own) result }
  | resolves (v : CheckView Channel) (hcall : v.call = .resolving) :
      CheckStep own v { v with call := .dialling }
  | dialFails (v : CheckView Channel) (result : HealthResult)
      (hcall : v.call = .dialling) :
      CheckStep own v { v with call := .sending (some own) result }
  | dials (v : CheckView Channel) (hcall : v.call = .dialling) :
      CheckStep own v { v with call := .registering }
  | registers (v : CheckView Channel) (hcall : v.call = .registering) :
      CheckStep own v { v with call := .prepending, pending := some own }
  | prependFails (v : CheckView Channel) (failure : String)
      (hcall : v.call = .prepending) :
      CheckStep own v { v with call := .claiming failure }
  | claims (v : CheckView Channel) (failure : String) (result : HealthResult)
      (hcall : v.call = .claiming failure) :
      CheckStep own v
        { v with call := .sending v.pending result, pending := none }
  | startsTimer (v : CheckView Channel) (hcall : v.call = .prepending) :
      CheckStep own v { v with call := .writing, timer := .sleeping }
  | writes (v : CheckView Channel) (hcall : v.call = .writing) :
      CheckStep own v { v with call := .returned }
  | callSends (v : CheckView Channel) (channel : Channel)
      (result : HealthResult) (hcall : v.call = .sending (some channel) result) :
      CheckStep own v
        { v with call := .failed, results := channel :: v.results }
  | fires (v : CheckView Channel) (htimer : v.timer = .sleeping) :
      CheckStep own v { v with timer := .fired }
  | timerClaims (v : CheckView Channel) (htimer : v.timer = .fired) :
      CheckStep own v { v with timer := timeoutPc v.pending, pending := none }
  | timerSends (v : CheckView Channel) (channel : Channel)
      (htimer : v.timer = .sending channel) :
      CheckStep own v
        { v with timer := .done, results := channel :: v.results }
  | replyClaims (v : CheckView Channel) (hpassing : v.passing = none) :
      CheckStep own v { v with pending := none, passing := v.pending }
  | spawns (v : CheckView Channel) (channel : Channel)
      (hpassing : v.passing = some channel) :
      CheckStep own v
        { v with passing := none, senders := channel :: v.senders }
  | replySends (v : CheckView Channel) (before after : List Channel)
      (channel : Channel) (hsenders : v.senders = before ++ channel :: after) :
      CheckStep own v
        { v with senders := before ++ after, results := channel :: v.results }

section Views

variable {xid : Check → String} {channelOf : Check → Channel}

theorem checkIdentifier_injective (hxid : Function.Injective xid) :
    Function.Injective (checkIdentifier xid) := by
  intro check other heq
  apply hxid
  exact (String.append_right_inj "glbhc_").mp heq

theorem channelsFor_cons (identifier : String) (sender : String × Channel)
    (rest : List (String × Channel)) :
    channelsFor identifier (sender :: rest) =
      if identifier = sender.1 then sender.2 :: channelsFor identifier rest
      else channelsFor identifier rest := by
  by_cases heq : identifier = sender.1
  · simp [channelsFor, heq]
  · simp [channelsFor, heq]

theorem channelsFor_append (identifier : String)
    (front back : List (String × Channel)) :
    channelsFor identifier (front ++ back) =
      channelsFor identifier front ++ channelsFor identifier back :=
  List.filterMap_append

theorem passing?_receivedPc (identifier : String) (packet : ReceivedPacket) :
    (receivedPc packet : LoopPc Channel).passing? identifier = none := by
  unfold receivedPc
  cases packet.checkIdentifier? with
  | none => rfl
  | some payload => rfl

theorem passing?_replyPc_self (identifier : String)
    (pending : Option Channel) :
    (replyPc identifier pending).passing? identifier = pending := by
  cases pending with
  | none => rfl
  | some channel => exact if_pos rfl

theorem passing?_replyPc_of_ne {identifier payload : String}
    (hne : identifier ≠ payload) (pending : Option Channel) :
    (replyPc payload pending).passing? identifier = none := by
  cases pending with
  | none => rfl
  | some channel => exact if_neg hne

variable [DecidableEq Check] {s s' : TunnelState Check Channel}
  {check other : Check}

theorem TunnelState.view_setCall (pc : CallPc Channel) :
    (s.setCall check pc).view xid other =
      if other = check then { s.view xid other with call := pc }
      else s.view xid other := by
  by_cases heq : other = check
  · subst heq
    simp [TunnelState.view, TunnelState.setCall]
  · simp [TunnelState.view, TunnelState.setCall, heq]

theorem TunnelState.view_setTimer (pc : TimerPc Channel) :
    (s.setTimer check pc).view xid other =
      if other = check then { s.view xid other with timer := pc }
      else s.view xid other := by
  by_cases heq : other = check
  · subst heq
    simp [TunnelState.view, TunnelState.setTimer]
  · simp [TunnelState.view, TunnelState.setTimer, heq]

theorem TunnelState.view_store (hxid : Function.Injective xid)
    (channel : Channel) :
    (s.store (checkIdentifier xid check) channel).view xid other =
      if other = check then { s.view xid other with pending := some channel }
      else s.view xid other := by
  by_cases heq : other = check
  · subst heq
    simp [TunnelState.view, TunnelState.store]
  · have hne := (checkIdentifier_injective hxid).ne heq
    simp [TunnelState.view, TunnelState.store, heq, hne]

theorem TunnelState.view_claim (identifier : String) :
    (s.claim identifier).view xid other =
      if checkIdentifier xid other = identifier then
        { s.view xid other with pending := none }
      else s.view xid other := by
  by_cases heq : checkIdentifier xid other = identifier
  · subst heq
    simp [TunnelState.view, TunnelState.claim]
  · simp [TunnelState.view, TunnelState.claim, heq]

theorem TunnelState.view_deliver (delivery : TunnelResult Check Channel) :
    (s.deliver delivery).view xid other =
      if delivery.sender.isFor xid other then
        { s.view xid other with
          results := delivery.channel :: (s.view xid other).results }
      else s.view xid other := by
  by_cases hfor : delivery.sender.isFor xid other = true
  · simp [TunnelState.view, TunnelState.deliver, hfor]
  · simp [TunnelState.view, TunnelState.deliver, hfor]

theorem TunnelState.view_setLoop (pc : LoopPc Channel) :
    (s.setLoop pc).view xid other =
      { s.view xid other with
        passing := pc.passing? (checkIdentifier xid other) } :=
  rfl

theorem TunnelState.view_claim_own (hxid : Function.Injective xid) :
    (s.claim (checkIdentifier xid check)).view xid other =
      if other = check then { s.view xid other with pending := none }
      else s.view xid other := by
  rw [TunnelState.view_claim]
  simp only [(checkIdentifier_injective hxid).eq_iff]

theorem TunnelState.view_deliver_call (channel : Channel)
    (result : HealthResult) :
    (s.deliver ⟨.call check, channel, result⟩).view xid other =
      if other = check then
        { s.view xid other with
          results := channel :: (s.view xid other).results }
      else s.view xid other := by
  rw [TunnelState.view_deliver]
  simp only [Sender.isFor, decide_eq_true_eq]

theorem TunnelState.view_deliver_timer (channel : Channel)
    (result : HealthResult) :
    (s.deliver ⟨.timer check, channel, result⟩).view xid other =
      if other = check then
        { s.view xid other with
          results := channel :: (s.view xid other).results }
      else s.view xid other := by
  rw [TunnelState.view_deliver]
  simp only [Sender.isFor, decide_eq_true_eq]

theorem TunnelState.view_setSenders (senders : List (String × Channel)) :
    (s.setSenders senders).view xid other =
      { s.view xid other with
        senders := channelsFor (checkIdentifier xid other) senders } :=
  rfl

theorem moves_of_own (check : Check)
    (hown : CheckStep (channelOf check) (s.view xid check) (s'.view xid check))
    (hothers : ∀ other, other ≠ check →
      s'.view xid other = s.view xid other)
    (other : Check) :
    s'.view xid other = s.view xid other ∨
      CheckStep (channelOf other) (s.view xid other) (s'.view xid other) := by
  by_cases heq : other = check
  · subst heq
    exact .inr hown
  · exact .inl (hothers other heq)

/-- Every step of the system is for every check a step of its own or none. -/
theorem TunnelStep.view (hxid : Function.Injective xid)
    (hstep : TunnelStep xid channelOf s s') :
    ∀ other, s'.view xid other = s.view xid other ∨
      CheckStep (channelOf other) (s.view xid other) (s'.view xid other) := by
  cases hstep with
  | resolveFails check failure hcall =>
      apply moves_of_own check
      · simp only [TunnelState.view_setCall, if_true]
        exact .resolveFails _ _ hcall
      · intro other hne
        simp only [TunnelState.view_setCall, if_neg hne]
  | resolves check hcall =>
      apply moves_of_own check
      · simp only [TunnelState.view_setCall, if_true]
        exact .resolves _ hcall
      · intro other hne
        simp only [TunnelState.view_setCall, if_neg hne]
  | dialFails check failure hcall =>
      apply moves_of_own check
      · simp only [TunnelState.view_setCall, if_true]
        exact .dialFails _ _ hcall
      · intro other hne
        simp only [TunnelState.view_setCall, if_neg hne]
  | dials check hcall =>
      apply moves_of_own check
      · simp only [TunnelState.view_setCall, if_true]
        exact .dials _ hcall
      · intro other hne
        simp only [TunnelState.view_setCall, if_neg hne]
  | registers check hcall =>
      apply moves_of_own check
      · simp only [TunnelState.view_setCall, TunnelState.view_store hxid, if_true]
        exact .registers _ hcall
      · intro other hne
        simp only [TunnelState.view_setCall, TunnelState.view_store hxid, if_neg hne]
  | prependFails check failure hcall =>
      apply moves_of_own check
      · simp only [TunnelState.view_setCall, if_true]
        exact .prependFails _ _ hcall
      · intro other hne
        simp only [TunnelState.view_setCall, if_neg hne]
  | claims check failure hcall =>
      apply moves_of_own check
      · simp only [TunnelState.view_setCall, TunnelState.view_claim_own hxid, if_true]
        exact .claims _ failure _ hcall
      · intro other hne
        simp only [TunnelState.view_setCall, TunnelState.view_claim_own hxid, if_neg hne]
  | startsTimer check hcall =>
      apply moves_of_own check
      · simp only [TunnelState.view_setCall, TunnelState.view_setTimer, if_true]
        exact .startsTimer _ hcall
      · intro other hne
        simp only [TunnelState.view_setCall, TunnelState.view_setTimer, if_neg hne]
  | writes check hcall =>
      apply moves_of_own check
      · simp only [TunnelState.view_setCall, if_true]
        exact .writes _ hcall
      · intro other hne
        simp only [TunnelState.view_setCall, if_neg hne]
  | callSends check channel result hcall =>
      apply moves_of_own check
      · simp only [TunnelState.view_setCall, TunnelState.view_deliver_call, if_true]
        exact .callSends _ channel result hcall
      · intro other hne
        simp only [TunnelState.view_setCall, TunnelState.view_deliver_call, if_neg hne]
  | fires check htimer =>
      apply moves_of_own check
      · simp only [TunnelState.view_setTimer, if_true]
        exact .fires _ htimer
      · intro other hne
        simp only [TunnelState.view_setTimer, if_neg hne]
  | timerClaims check htimer =>
      apply moves_of_own check
      · simp only [TunnelState.view_setTimer, TunnelState.view_claim_own hxid, if_true]
        exact .timerClaims _ htimer
      · intro other hne
        simp only [TunnelState.view_setTimer, TunnelState.view_claim_own hxid, if_neg hne]
  | timerSends check channel htimer =>
      apply moves_of_own check
      · simp only [TunnelState.view_setTimer, TunnelState.view_deliver_timer, if_true]
        exact .timerSends _ channel htimer
      · intro other hne
        simp only [TunnelState.view_setTimer, TunnelState.view_deliver_timer, if_neg hne]
  | receives packet hloop =>
      intro other
      left
      rw [TunnelState.view_setLoop, passing?_receivedPc]
      simp only [TunnelState.view, hloop, LoopPc.passing?]
  | replyClaims payload hloop =>
      intro other
      have hpassing : (s.view xid other).passing = none := by
        simp only [TunnelState.view, hloop, LoopPc.passing?]
      rw [TunnelState.view_setLoop, TunnelState.view_claim]
      by_cases heq : checkIdentifier xid other = payload
      · right
        subst heq
        rw [if_pos rfl, passing?_replyPc_self]
        exact .replyClaims _ hpassing
      · left
        rw [if_neg heq, passing?_replyPc_of_ne heq, ← hpassing]
  | spawns payload channel hloop =>
      intro other
      rw [TunnelState.view_setLoop, TunnelState.view_setSenders]
      by_cases heq : checkIdentifier xid other = payload
      · right
        have hpassing : (s.view xid other).passing = some channel := by
          simp only [TunnelState.view, hloop, LoopPc.passing?, if_pos heq]
        simp only [channelsFor_cons, if_pos heq, LoopPc.passing?]
        exact .spawns _ channel hpassing
      · left
        simp only [channelsFor_cons, if_neg heq, TunnelState.view, hloop,
          LoopPc.passing?]
  | replySends before after payload channel hsenders =>
      intro other
      rw [TunnelState.view_deliver, TunnelState.view_setSenders,
        channelsFor_append]
      by_cases heq : checkIdentifier xid other = payload
      · right
        have hview : (s.view xid other).senders =
            channelsFor (checkIdentifier xid other) before ++
              channel :: channelsFor (checkIdentifier xid other) after := by
          simp only [TunnelState.view, hsenders, channelsFor_append,
            channelsFor_cons, if_pos heq]
        simp only [Sender.isFor, heq, decide_true, if_true]
        rw [heq] at hview
        exact .replySends _ _ _ channel hview
      · left
        simp only [Sender.isFor, heq, decide_false, TunnelState.view, hsenders,
          channelsFor_append, channelsFor_cons, if_false, Bool.false_eq_true]

end Views

end GlbDirector
