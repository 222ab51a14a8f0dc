import GlbDirector.TunnelChecks
import Mathlib.Algebra.Order.Group.Multiset
import Mathlib.Tactic

/-!
# Results of the tunnel checks

In the machine of one check the right to send a result is handed from place to
place, from the call to the table of pending checks, to the goroutine that
removes the entry and to the channel, and no step makes a second one.
-/

namespace GlbDirector

variable {Check Channel : Type}

/-! ## The right to send -/

/-- A call that has not stored its channel may send to it. -/
def CallPc.owed (own : Channel) : CallPc Channel → Multiset Channel
  | .resolving | .dialling | .registering => {own}
  | _ => 0

def CallPc.sends : CallPc Channel → Multiset Channel
  | .sending resultChannel _ => resultChannel.toList
  | _ => 0

def TimerPc.sends : TimerPc Channel → Multiset Channel
  | .sending resultChannel => {resultChannel}
  | _ => 0

/-- The results that a goroutine is about to send. -/
def CheckView.inFlight (v : CheckView Channel) : Multiset Channel :=
  v.call.sends + v.timer.sends + v.passing.toList + v.senders

/-- All the places from which a result can still come, and the results. -/
def CheckView.tokens (own : Channel) (v : CheckView Channel) :
    Multiset Channel :=
  v.call.owed own + v.pending.toList + v.inFlight + v.results

def CallPc.beforeTimer : CallPc Channel → Bool
  | .resolving | .dialling | .registering | .prepending => true
  | _ => false

/-- The check has asked for its channel, on the timeout or on an error. -/
def CheckView.claimed (v : CheckView Channel) : Bool :=
  (match v.timer with
    | .sending _ | .done => true
    | _ => false) ||
  (match v.call with
    | .sending _ _ | .failed => true
    | _ => false)

structure CheckView.OneResult (own : Channel) (v : CheckView Channel) :
    Prop where
  htokens : v.tokens own = {own}
  htimer : v.call.beforeTimer = true → v.timer = .absent
  hclaimed : v.claimed = true → v.pending = none

section OneCheck

variable {own : Channel} {v v' : CheckView Channel}

theorem timeoutPc_sends (pending : Option Channel) :
    (timeoutPc pending).sends = (pending.toList : Multiset Channel) := by
  cases pending with
  | none => rfl
  | some channel => rfl

theorem CheckView.OneResult.card_eq_one (hone : v.OneResult own) :
    (v.call.owed own).card + v.pending.toList.length + v.inFlight.card +
      v.results.length = 1 := by
  have hcard := congrArg Multiset.card hone.htokens
  simpa only [CheckView.tokens, Multiset.card_add, Multiset.coe_card,
    Multiset.card_singleton] using hcard

theorem CheckView.OneResult.pending_of_owed (hone : v.OneResult own)
    (howed : v.call.owed own = {own}) : v.pending = none := by
  have hcard := hone.card_eq_one
  rw [howed, Multiset.card_singleton] at hcard
  rw [← Option.toList_eq_nil_iff, ← List.length_eq_zero_iff]
  omega

theorem coe_cons_eq_add (channel : Channel) (rest : List Channel) :
    ((channel :: rest : List Channel) : Multiset Channel) = {channel} + rest :=
  rfl

/-- A step hands the right to send on and makes no second one. -/
theorem CheckStep.tokens_eq (hstep : CheckStep own v v')
    (hone : v.OneResult own) :
    v'.tokens own = v.tokens own := by
  unfold CheckView.tokens CheckView.inFlight
  cases hstep with
  | resolveFails result hcall =>
      simp only [hcall, CallPc.owed, CallPc.sends, Option.toList_some,
        Multiset.coe_singleton]
      abel
  | resolves hcall => simp only [hcall, CallPc.owed, CallPc.sends]
  | dialFails result hcall =>
      simp only [hcall, CallPc.owed, CallPc.sends, Option.toList_some,
        Multiset.coe_singleton]
      abel
  | dials hcall => simp only [hcall, CallPc.owed, CallPc.sends]
  | registers hcall =>
      have hpending := hone.pending_of_owed (by rw [hcall]; rfl)
      simp only [hcall, hpending, CallPc.owed, CallPc.sends, Option.toList_some,
        Option.toList_none, Multiset.coe_singleton, Multiset.coe_nil]
      abel
  | prependFails failure hcall =>
      simp only [hcall, CallPc.owed, CallPc.sends]
  | claims failure result hcall =>
      simp only [hcall, CallPc.owed, CallPc.sends, Option.toList_none,
        Multiset.coe_nil]
      abel
  | startsTimer hcall =>
      have habsent := hone.htimer (by rw [hcall]; rfl)
      simp only [hcall, habsent, CallPc.owed, CallPc.sends, TimerPc.sends]
  | writes hcall => simp only [hcall, CallPc.owed, CallPc.sends]
  | callSends channel result hcall =>
      simp only [hcall, CallPc.owed, CallPc.sends, Option.toList_some,
        coe_cons_eq_add]
      abel
  | fires htimer => simp only [htimer, TimerPc.sends]
  | timerClaims htimer =>
      rw [timeoutPc_sends]
      simp only [htimer, TimerPc.sends, Option.toList_none, Multiset.coe_nil]
      abel
  | timerSends channel htimer =>
      simp only [htimer, TimerPc.sends, coe_cons_eq_add]
      abel
  | replyClaims hpassing =>
      simp only [hpassing, Option.toList_none, Multiset.coe_nil]
      abel
  | spawns channel hpassing =>
      simp only [hpassing, Option.toList_some, Option.toList_none,
        Multiset.coe_nil, coe_cons_eq_add]
      abel
  | replySends before after channel hsenders =>
      simp only [hsenders, ← Multiset.coe_add, coe_cons_eq_add]
      abel

theorem CheckView.OneResult.timer_ne (hone : v.OneResult own)
    (hbefore : v.call.beforeTimer = true) {pc : TimerPc Channel}
    (hpc : pc ≠ .absent) :
    v.timer ≠ pc := by
  rw [hone.htimer hbefore]
  exact hpc.symm

theorem CheckStep.htimer (hstep : CheckStep own v v')
    (hone : v.OneResult own) (hbefore : v'.call.beforeTimer = true) :
    v'.timer = .absent := by
  cases hstep with
  | resolveFails result hcall => cases hbefore
  | resolves hcall => exact hone.htimer (by rw [hcall]; rfl)
  | dialFails result hcall => cases hbefore
  | dials hcall => exact hone.htimer (by rw [hcall]; rfl)
  | registers hcall => exact hone.htimer (by rw [hcall]; rfl)
  | prependFails failure hcall => cases hbefore
  | claims failure result hcall => cases hbefore
  | startsTimer hcall => cases hbefore
  | writes hcall => cases hbefore
  | callSends channel result hcall => cases hbefore
  | fires htimer => exact absurd htimer (hone.timer_ne hbefore nofun)
  | timerClaims htimer => exact absurd htimer (hone.timer_ne hbefore nofun)
  | timerSends channel htimer =>
      exact absurd htimer (hone.timer_ne hbefore nofun)
  | replyClaims hpassing => exact hone.htimer hbefore
  | spawns channel hpassing => exact hone.htimer hbefore
  | replySends before after channel hsenders => exact hone.htimer hbefore

theorem CheckStep.hclaimed (hstep : CheckStep own v v')
    (hone : v.OneResult own) (hclaimed : v'.claimed = true) :
    v'.pending = none := by
  cases hstep with
  | resolveFails result hcall =>
      exact hone.pending_of_owed (by rw [hcall]; rfl)
  | resolves hcall => exact hone.pending_of_owed (by rw [hcall]; rfl)
  | dialFails result hcall =>
      exact hone.pending_of_owed (by rw [hcall]; rfl)
  | dials hcall => exact hone.pending_of_owed (by rw [hcall]; rfl)
  | registers hcall =>
      have habsent := hone.htimer (by rw [hcall]; rfl)
      simp [CheckView.claimed, habsent] at hclaimed
  | prependFails failure hcall =>
      have habsent := hone.htimer (by rw [hcall]; rfl)
      simp [CheckView.claimed, habsent] at hclaimed
  | claims failure result hcall => rfl
  | startsTimer hcall => simp [CheckView.claimed] at hclaimed
  | writes hcall =>
      apply hone.hclaimed
      simpa [CheckView.claimed, hcall] using hclaimed
  | callSends channel result hcall =>
      apply hone.hclaimed
      simp [CheckView.claimed, hcall]
  | fires htimer =>
      apply hone.hclaimed
      simpa [CheckView.claimed, htimer] using hclaimed
  | timerClaims htimer => rfl
  | timerSends channel htimer =>
      apply hone.hclaimed
      simp [CheckView.claimed, htimer]
  | replyClaims hpassing => rfl
  | spawns channel hpassing => exact hone.hclaimed hclaimed
  | replySends before after channel hsenders => exact hone.hclaimed hclaimed

theorem CheckView.OneResult.step (hone : v.OneResult own)
    (hstep : CheckStep own v v') : v'.OneResult own where
  htokens := (hstep.tokens_eq hone).trans hone.htokens
  htimer := hstep.htimer hone
  hclaimed := hstep.hclaimed hone

theorem CheckView.OneResult.owed_of_claimed (hone : v.OneResult own)
    (hclaimed : v.claimed = true) : v.call.owed own = 0 := by
  have habsent := hone.htimer
  cases hcall : v.call with
  | resolving | dialling | registering =>
      simp [CheckView.claimed, hcall, habsent (by rw [hcall]; rfl)] at hclaimed
  | prepending | claiming | sending | failed | writing | returned => rfl

theorem CheckView.OneResult.results_eq_of_ne (hone : v.OneResult own)
    (hresults : v.results ≠ []) : v.results = [own] := by
  have hle : (v.results : Multiset Channel) ≤ {own} := by
    rw [← hone.htokens]
    exact Multiset.le_add_left _ _
  rcases Multiset.le_singleton.mp hle with hempty | hsingle
  · exact absurd (Multiset.coe_eq_zero _ |>.mp hempty) hresults
  · exact Multiset.coe_eq_singleton.mp hsingle

theorem CheckView.OneResult.pending_of_results (hone : v.OneResult own)
    (hresults : v.results = [own]) : v.pending = none := by
  have hcard := hone.card_eq_one
  rw [hresults, List.length_singleton] at hcard
  rw [← Option.toList_eq_nil_iff, ← List.length_eq_zero_iff]
  omega

theorem CheckView.OneResult.results_eq (hone : v.OneResult own)
    (hclaimed : v.claimed = true) (hflight : v.inFlight = 0) :
    v.results = [own] := by
  apply hone.results_eq_of_ne
  have hcard := hone.card_eq_one
  rw [hone.owed_of_claimed hclaimed, hone.hclaimed hclaimed, hflight] at hcard
  intro hempty
  rw [hempty] at hcard
  cases hcard

/-- Where a result that is in flight can be. -/
theorem CheckView.inFlight_cases (hflight : v.inFlight ≠ 0) :
    (∃ channel result, v.call = .sending (some channel) result) ∨
      (∃ channel, v.timer = .sending channel) ∨
      (∃ channel, v.passing = some channel) ∨ v.senders ≠ [] := by
  by_contra hnone
  obtain ⟨hcall, htimer, hpassing, hsenders⟩ :
      (∀ channel result, v.call ≠ .sending (some channel) result) ∧
        (∀ channel, v.timer ≠ .sending channel) ∧
        (∀ channel, v.passing ≠ some channel) ∧ v.senders = [] := by
    simpa only [not_or, not_exists, not_not] using hnone
  apply hflight
  have hcallSends : v.call.sends = 0 := by
    cases hpc : v.call with
    | sending resultChannel result =>
        cases resultChannel with
        | none => rfl
        | some channel => exact absurd hpc (hcall channel result)
    | resolving | dialling | registering | prepending | claiming | failed
    | writing | returned => rfl
  have htimerSends : v.timer.sends = 0 := by
    cases hpc : v.timer with
    | sending channel => exact absurd hpc (htimer channel)
    | absent | sleeping | fired | done => rfl
  rw [CheckView.inFlight, hcallSends, htimerSends,
    Option.eq_none_iff_forall_ne_some.mpr hpassing, hsenders]
  rfl

end OneCheck

/-! ## Whole runs -/

section Runs

variable [DecidableEq Check] {xid : Check → String}
  {channelOf : Check → Channel} {s s' : TunnelState Check Channel}

theorem TunnelState.start_oneResult (check : Check) :
    ((TunnelState.start : TunnelState Check Channel).view xid check).OneResult
      (channelOf check) where
  htokens := rfl
  htimer := fun _ => rfl
  hclaimed := fun _ => rfl

theorem TunnelSteps.oneResult (hxid : Function.Injective xid)
    (hsteps : TunnelSteps xid channelOf .start s) (check : Check) :
    (s.view xid check).OneResult (channelOf check) := by
  induction hsteps with
  | refl => exact TunnelState.start_oneResult check
  | tail _ hstep ih =>
      rcases hstep.view hxid check with hsame | hmove
      · rw [hsame]
        exact ih
      · exact ih.step hmove

/-- Every identifier in the system is one that a check has made. -/
structure TunnelState.Named (xid : Check → String)
    (s : TunnelState Check Channel) : Prop where
  hpending : ∀ identifier, s.pendingChecks identifier ≠ none →
    ∃ check, checkIdentifier xid check = identifier
  hloop : ∀ identifier channel, s.loop = .passing identifier channel →
    ∃ check, checkIdentifier xid check = identifier
  hsenders : ∀ sender ∈ s.senders,
    ∃ check, checkIdentifier xid check = sender.1
  hdelivered : ∀ delivery ∈ s.delivered,
    ∃ check, delivery.sender.isFor xid check = true

namespace TunnelState.Named

variable (hnamed : s.Named xid)

include hnamed

theorem setCall (check : Check) (pc : CallPc Channel) :
    (s.setCall check pc).Named xid :=
  ⟨hnamed.hpending, hnamed.hloop, hnamed.hsenders, hnamed.hdelivered⟩

theorem setTimer (check : Check) (pc : TimerPc Channel) :
    (s.setTimer check pc).Named xid :=
  ⟨hnamed.hpending, hnamed.hloop, hnamed.hsenders, hnamed.hdelivered⟩

theorem setLoop {pc : LoopPc Channel}
    (hpc : ∀ identifier channel, pc = .passing identifier channel →
      ∃ check, checkIdentifier xid check = identifier) :
    (s.setLoop pc).Named xid :=
  ⟨hnamed.hpending, hpc, hnamed.hsenders, hnamed.hdelivered⟩

theorem store (check : Check) (channel : Channel) :
    (s.store (checkIdentifier xid check) channel).Named xid where
  hpending := by
    intro identifier hpending
    by_cases heq : identifier = checkIdentifier xid check
    · exact ⟨check, heq.symm⟩
    · apply hnamed.hpending identifier
      simpa [TunnelState.store, heq] using hpending
  hloop := hnamed.hloop
  hsenders := hnamed.hsenders
  hdelivered := hnamed.hdelivered

theorem claim (identifier : String) : (s.claim identifier).Named xid where
  hpending := by
    intro other hpending
    by_cases heq : other = identifier
    · subst heq
      simp [TunnelState.claim] at hpending
    · apply hnamed.hpending other
      simpa [TunnelState.claim, heq] using hpending
  hloop := hnamed.hloop
  hsenders := hnamed.hsenders
  hdelivered := hnamed.hdelivered

theorem setSenders {senders : List (String × Channel)}
    (hsenders : ∀ sender ∈ senders,
      ∃ check, checkIdentifier xid check = sender.1) :
    (s.setSenders senders).Named xid :=
  ⟨hnamed.hpending, hnamed.hloop, hsenders, hnamed.hdelivered⟩

theorem deliver {delivery : TunnelResult Check Channel} (check : Check)
    (hfor : delivery.sender.isFor xid check = true) :
    (s.deliver delivery).Named xid where
  hpending := hnamed.hpending
  hloop := hnamed.hloop
  hsenders := hnamed.hsenders
  hdelivered := by
    intro other hother
    rcases List.mem_cons.mp hother with rfl | hother
    · exact ⟨check, hfor⟩
    · exact hnamed.hdelivered other hother

theorem step (hstep : TunnelStep xid channelOf s s') : s'.Named xid := by
  cases hstep with
  | resolveFails check failure hcall => exact hnamed.setCall check _
  | resolves check hcall => exact hnamed.setCall check _
  | dialFails check failure hcall => exact hnamed.setCall check _
  | dials check hcall => exact hnamed.setCall check _
  | registers check hcall => exact (hnamed.store check _).setCall check _
  | prependFails check failure hcall => exact hnamed.setCall check _
  | claims check failure hcall => exact (hnamed.claim _).setCall check _
  | startsTimer check hcall => exact (hnamed.setTimer check _).setCall check _
  | writes check hcall => exact hnamed.setCall check _
  | callSends check channel result hcall =>
      apply TunnelState.Named.setCall
      exact hnamed.deliver check (decide_eq_true rfl)
  | fires check htimer => exact hnamed.setTimer check _
  | timerClaims check htimer => exact (hnamed.claim _).setTimer check _
  | timerSends check channel htimer =>
      apply TunnelState.Named.setTimer
      exact hnamed.deliver check (decide_eq_true rfl)
  | receives packet hloop =>
      apply hnamed.setLoop
      intro identifier channel hpc
      have hnone : (receivedPc packet : LoopPc Channel).passing? identifier =
          none := passing?_receivedPc identifier packet
      rw [hpc] at hnone
      simp [LoopPc.passing?] at hnone
  | replyClaims payload hloop =>
      apply (hnamed.claim payload).setLoop
      intro identifier channel hpc
      cases hpending : s.pendingChecks payload with
      | none =>
          rw [hpending] at hpc
          cases hpc
      | some resultChannel =>
          rw [hpending] at hpc
          cases hpc
          exact hnamed.hpending payload (by rw [hpending]; simp)
  | spawns payload channel hloop =>
      refine TunnelState.Named.setLoop (hnamed.setSenders ?_) ?_
      · intro sender hsender
        rcases List.mem_cons.mp hsender with rfl | hsender
        · exact hnamed.hloop payload channel hloop
        · exact hnamed.hsenders sender hsender
      · intro identifier channel' hpc
        cases hpc
  | replySends before after payload channel hsenders =>
      have hrest : ∀ sender ∈ before ++ after,
          ∃ check, checkIdentifier xid check = sender.1 := by
        intro sender hsender
        apply hnamed.hsenders sender
        rw [hsenders]
        exact List.mem_append.mpr ((List.mem_append.mp hsender).imp_right
          (List.mem_cons_of_mem _))
      obtain ⟨check, hcheck⟩ := hnamed.hsenders (payload, channel)
        (by rw [hsenders]; exact List.mem_append_cons_self)
      exact (hnamed.setSenders hrest).deliver check (decide_eq_true hcheck)

end TunnelState.Named

theorem TunnelSteps.named (hsteps : TunnelSteps xid channelOf .start s) :
    s.Named xid := by
  induction hsteps with
  | refl => exact ⟨by simp [TunnelState.start], nofun, nofun, nofun⟩
  | tail _ hstep ih => exact ih.step hstep

/-! ## Exactly one result -/

/-- The sleep of the timeout is over. -/
def TunnelState.timedOut (s : TunnelState Check Channel) (check : Check) :
    Bool :=
  match s.timers check with
  | .fired | .sending _ | .done => true
  | _ => false

def TunnelState.failedEarly (s : TunnelState Check Channel) (check : Check) :
    Bool :=
  match s.calls check with
  | .claiming _ | .sending _ _ | .failed => true
  | _ => false

/-- No goroutine is about to ask for the channel of the check after its timeout
or an error, and none is about to send to it. -/
structure TunnelState.Quiet (xid : Check → String)
    (s : TunnelState Check Channel) (check : Check) : Prop where
  htimer : s.timers check ≠ .fired
  hcall : ∀ failure, s.calls check ≠ .claiming failure
  hflight : (s.view xid check).inFlight = 0

/-- The channels to which the results of a check went. -/
def TunnelState.resultsOf (xid : Check → String)
    (s : TunnelState Check Channel) (check : Check) : List Channel :=
  (s.view xid check).results

theorem TunnelState.claimed_of_ended {check : Check}
    (hended : s.timedOut check = true ∨ s.failedEarly check = true)
    (htimer : s.timers check ≠ .fired)
    (hcall : ∀ failure, s.calls check ≠ .claiming failure) :
    (s.view xid check).claimed = true := by
  unfold CheckView.claimed
  rw [Bool.or_eq_true]
  rcases hended with htimed | hfailed
  · left
    unfold TunnelState.timedOut at htimed
    show (match s.timers check with
      | .sending _ | .done => true
      | _ => false) = true
    cases hpc : s.timers check with
    | absent | sleeping => simp [hpc] at htimed
    | fired => exact absurd hpc htimer
    | sending | done => rfl
  · right
    unfold TunnelState.failedEarly at hfailed
    show (match s.calls check with
      | .sending _ _ | .failed => true
      | _ => false) = true
    cases hpc : s.calls check with
    | resolving | dialling | registering | prepending | writing | returned =>
        simp [hpc] at hfailed
    | claiming failure => exact absurd hpc (hcall failure)
    | sending | failed => rfl

theorem TunnelState.results_deliver_ne_nil {delivery : TunnelResult Check Channel}
    {check : Check} (hfor : delivery.sender.isFor xid check = true) :
    ((s.deliver delivery).view xid check).results ≠ [] := by
  rw [TunnelState.view_deliver, if_pos hfor]
  exact List.cons_ne_nil _ _

theorem exists_mem_of_channelsFor {identifier : String}
    {senders : List (String × Channel)}
    (hne : channelsFor identifier senders ≠ []) :
    ∃ channel, (identifier, channel) ∈ senders := by
  obtain ⟨channel, hchannel⟩ := List.exists_mem_of_ne_nil _ hne
  obtain ⟨⟨other, held⟩, hmem, hsome⟩ := List.mem_filterMap.mp hchannel
  by_cases heq : identifier = other
  · subst heq
    exact ⟨held, hmem⟩
  · simp [heq] at hsome

/-- A goroutine that sends for the loop can complete its send. -/
theorem TunnelState.exists_replySends (channelOf : Check → Channel)
    {check : Check} (hne : (s.view xid check).senders ≠ []) :
    ∃ s', TunnelStep xid channelOf s s' ∧ (s'.view xid check).results ≠ [] := by
  obtain ⟨channel, hmem⟩ := exists_mem_of_channelsFor hne
  obtain ⟨before, after, hsenders⟩ := List.append_of_mem hmem
  exact ⟨_, .replySends s before after _ channel hsenders,
    TunnelState.results_deliver_ne_nil (decide_eq_true rfl)⟩

/-- The loop can start the goroutine for the channel it has got. -/
theorem TunnelState.exists_spawns (channelOf : Check → Channel)
    {check : Check} {channel : Channel}
    (hpassing : (s.view xid check).passing = some channel) :
    ∃ s', TunnelStep xid channelOf s s' ∧ (s'.view xid check).senders ≠ [] := by
  cases hloop : s.loop with
  | reading => simp [TunnelState.view, hloop, LoopPc.passing?] at hpassing
  | echoReply payload =>
      simp [TunnelState.view, hloop, LoopPc.passing?] at hpassing
  | passing payload held =>
      have heq : checkIdentifier xid check = payload := by
        by_contra hne
        simp [TunnelState.view, hloop, LoopPc.passing?, hne] at hpassing
      refine ⟨_, .spawns s payload held hloop, ?_⟩
      rw [TunnelState.view_setLoop, TunnelState.view_setSenders,
        channelsFor_cons, if_pos heq]
      exact List.cons_ne_nil _ _

/-- A result that is in flight can be received. -/
theorem TunnelState.exists_delivers (channelOf : Check → Channel)
    {check : Check} (hflight : (s.view xid check).inFlight ≠ 0) :
    ∃ s', TunnelSteps xid channelOf s s' ∧
      (s'.view xid check).results ≠ [] := by
  rcases CheckView.inFlight_cases hflight with
    ⟨channel, result, hcall⟩ | ⟨channel, htimer⟩ | ⟨channel, hpassing⟩ |
      hsenders
  · refine ⟨_, .single (.callSends s check channel result hcall), ?_⟩
    rw [TunnelState.view_setCall, if_pos rfl]
    exact TunnelState.results_deliver_ne_nil (decide_eq_true rfl)
  · refine ⟨_, .single (.timerSends s check channel htimer), ?_⟩
    rw [TunnelState.view_setTimer, if_pos rfl]
    exact TunnelState.results_deliver_ne_nil (decide_eq_true rfl)
  · obtain ⟨s₁, hspawn, hsenders⟩ :=
      TunnelState.exists_spawns channelOf hpassing
    obtain ⟨s₂, hsend, hresults⟩ :=
      TunnelState.exists_replySends channelOf hsenders
    exact ⟨s₂, .tail (.single hspawn) hsend, hresults⟩
  · obtain ⟨s', hstep, hresults⟩ :=
      TunnelState.exists_replySends channelOf hsenders
    exact ⟨s', .single hstep, hresults⟩

/-- The goroutine of the timeout and the error path can ask for the
channel. -/
theorem TunnelState.exists_claims (xid : Check → String)
    (channelOf : Check → Channel) {check : Check}
    (hended : s.timedOut check = true ∨ s.failedEarly check = true) :
    ∃ s', TunnelSteps xid channelOf s s' ∧
      (s'.view xid check).claimed = true := by
  by_cases htimer : s.timers check = .fired
  · refine ⟨_, .single (.timerClaims s check htimer), ?_⟩
    rw [TunnelState.view_setTimer, if_pos rfl]
    unfold CheckView.claimed timeoutPc
    cases s.pendingChecks (checkIdentifier xid check) with
    | none => rfl
    | some channel => rfl
  · by_cases hcall : ∃ failure, s.calls check = .claiming failure
    · obtain ⟨failure, hcall⟩ := hcall
      refine ⟨_, .single (.claims s check failure hcall), ?_⟩
      rw [TunnelState.view_setCall, if_pos rfl]
      exact Bool.or_true _
    · exact ⟨s, .refl, s.claimed_of_ended hended htimer (not_exists.mp hcall)⟩

section Reachable

variable (hxid : Function.Injective xid)
  (hreach : TunnelSteps xid channelOf .start s)

include hxid hreach

theorem TunnelSteps.exists_result_of_claimed {check : Check}
    (hclaimed : (s.view xid check).claimed = true) :
    ∃ s', TunnelSteps xid channelOf s s' ∧
      s'.resultsOf xid check = [channelOf check] := by
  by_cases hflight : (s.view xid check).inFlight = 0
  · exact ⟨s, .refl, (hreach.oneResult hxid check).results_eq hclaimed hflight⟩
  · obtain ⟨s', hsteps, hresults⟩ :=
      TunnelState.exists_delivers channelOf hflight
    refine ⟨s', hsteps, ?_⟩
    exact (TunnelSteps.oneResult hxid (hreach.trans hsteps)
      check).results_eq_of_ne hresults

/-- After the timeout or an error a check can come to its result. -/
theorem TunnelSteps.exists_result {check : Check}
    (hended : s.timedOut check = true ∨ s.failedEarly check = true) :
    ∃ s', TunnelSteps xid channelOf s s' ∧
      s'.resultsOf xid check = [channelOf check] := by
  obtain ⟨s₁, hclaim, hclaimed⟩ :=
    TunnelState.exists_claims xid channelOf hended
  obtain ⟨s₂, hsteps, hresults⟩ :=
    TunnelSteps.exists_result_of_claimed hxid (hreach.trans hclaim) hclaimed
  exact ⟨s₂, hclaim.trans hsteps, hresults⟩

theorem TunnelSteps.delivery_own {delivery : TunnelResult Check Channel}
    (hdelivery : delivery ∈ s.delivered) {check : Check}
    (hfor : delivery.sender.isFor xid check = true) :
    delivery.channel = channelOf check := by
  have hmem : delivery.channel ∈ (s.view xid check).results := by
    apply List.mem_filterMap.mpr
    exact ⟨delivery, hdelivery, if_pos hfor⟩
  have hresults := (hreach.oneResult hxid check).results_eq_of_ne
    (List.ne_nil_of_mem hmem)
  rw [hresults] at hmem
  exact List.mem_singleton.mp hmem

end Reachable

theorem one_tunnel_result
    (hxid : Function.Injective xid)
    (hreach : TunnelSteps xid channelOf .start s)
    (check : Check) :
    (s.resultsOf xid check).length ≤ 1 ∧
      (∀ delivery ∈ s.delivered,
        ∃ check, delivery.sender.isFor xid check = true ∧
          delivery.channel = channelOf check) ∧
      (s.resultsOf xid check ≠ [] →
        s.pendingChecks (checkIdentifier xid check) = none) ∧
      (s.timedOut check = true ∨ s.failedEarly check = true →
        (s.Quiet xid check →
          s.resultsOf xid check = [channelOf check] ∧
            s.pendingChecks (checkIdentifier xid check) = none) ∧
        ∃ s', TunnelSteps xid channelOf s s' ∧
          s'.resultsOf xid check = [channelOf check] ∧
          s'.pendingChecks (checkIdentifier xid check) = none) := by
  have hone := hreach.oneResult hxid check
  refine ⟨?_, ?_, ?_, fun hended => ⟨?_, ?_⟩⟩
  · have hcard := hone.card_eq_one
    unfold TunnelState.resultsOf
    omega
  · intro delivery hdelivery
    obtain ⟨check, hfor⟩ := hreach.named.hdelivered delivery hdelivery
    exact ⟨check, hfor, hreach.delivery_own hxid hdelivery hfor⟩
  · intro hresults
    exact hone.pending_of_results (hone.results_eq_of_ne hresults)
  · intro hquiet
    have hclaimed : (s.view xid check).claimed = true :=
      s.claimed_of_ended hended hquiet.htimer hquiet.hcall
    exact ⟨hone.results_eq hclaimed hquiet.hflight, hone.hclaimed hclaimed⟩
  · obtain ⟨s', hsteps, hresults⟩ := hreach.exists_result hxid hended
    refine ⟨s', hsteps, hresults, ?_⟩
    exact (TunnelSteps.oneResult hxid (hreach.trans hsteps)
      check).pending_of_results hresults

end Runs

/-! ## A check that is answered before its timeout -/

def sampleXid (check : Bool) : String := if check then "b" else "a"

theorem sampleXid_injective : Function.Injective sampleXid := by decide

/-- The first of two checks waits for its reply. -/
def sampleWaiting : TunnelState Bool Bool :=
  ((((TunnelState.start.setCall false .dialling).setCall false
    .registering).store "glbhc_a" false).setCall false .prepending).setTimer
      false .sleeping |>.setCall false .writing

/-- The reply has got the channel, and then the timeout fires. -/
def sampleFired : TunnelState Bool Bool :=
  (((sampleWaiting.setLoop (.echoReply "glbhc_a")).claim "glbhc_a").setLoop
    (.passing "glbhc_a" false)).setSenders [("glbhc_a", false)] |>.setLoop
      .reading |>.setTimer false .fired

def sampleAnswered : TunnelState Bool Bool :=
  ((sampleFired.claim "glbhc_a").setTimer false .done).setSenders [] |>.deliver
    ⟨.reply "glbhc_a", false, replyResult⟩

theorem sampleWaiting_steps :
    TunnelSteps sampleXid id .start sampleWaiting := by
  apply Relation.ReflTransGen.tail _ (.startsTimer _ false rfl)
  apply Relation.ReflTransGen.tail _ (.registers _ false rfl)
  apply Relation.ReflTransGen.tail _ (.dials _ false rfl)
  exact .single (.resolves _ false rfl)

theorem sampleFired_steps : TunnelSteps sampleXid id .start sampleFired := by
  apply Relation.ReflTransGen.tail _ (.fires _ false rfl)
  apply Relation.ReflTransGen.tail _ (.spawns _ "glbhc_a" false rfl)
  apply Relation.ReflTransGen.tail _ (.replyClaims _ "glbhc_a" rfl)
  exact sampleWaiting_steps.tail (.receives _ (.echoReply "glbhc_a") rfl)

theorem sampleAnswered_steps :
    TunnelSteps sampleXid id .start sampleAnswered := by
  apply Relation.ReflTransGen.tail _ (.replySends _ [] [] "glbhc_a" false rfl)
  exact sampleFired_steps.tail (.timerClaims _ false rfl)

theorem one_tunnel_result_answered :
    sampleAnswered.timedOut false = true ∧
      sampleAnswered.Quiet sampleXid false ∧
      sampleAnswered.resultsOf sampleXid false = [false] ∧
      sampleAnswered.pendingChecks "glbhc_a" = none := by
  have hquiet : sampleAnswered.Quiet sampleXid false :=
    ⟨nofun, nofun, rfl⟩
  have hresult := one_tunnel_result sampleXid_injective sampleAnswered_steps
    false
  exact ⟨rfl, hquiet, (hresult.2.2.2 (.inl rfl)).1 hquiet⟩

end GlbDirector
