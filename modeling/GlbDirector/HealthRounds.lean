import GlbDirector.HealthManager

/-!
# What a health-check round publishes

The events of a run tell which targets each round took and which raw results
were taken from the channels.  A round publishes, for exactly its targets, the
dampened value of the raw results since the target was last missing from a
round, whatever the order in which the goroutines ran.
-/

namespace GlbDirector

/-! ## Rounds of a run -/

structure Round where
  targets : List HealthCheckTarget
  raws : List (HealthCheckTarget × HealthResult)

def Round.rawsOf (round : Round) (target : HealthCheckTarget) :
    List HealthResult :=
  (round.raws.filter fun raw => raw.1 = target).map Prod.snd

/-- The rounds of a run, newest first; raw results belong to the round that is
under way. -/
def rounds : List ManagerEvent → List Round
  | [] => []
  | .snapshot targets :: trace => ⟨targets, []⟩ :: rounds trace
  | .raw target result :: trace =>
      match rounds trace with
      | [] => []
      | round :: earlier =>
          { round with raws := round.raws ++ [(target, result)] } :: earlier
  | .setTargets _ :: trace => rounds trace
  | .silent :: trace => rounds trace

def roundTargets : List Round → List HealthCheckTarget
  | [] => []
  | round :: _ => round.targets

def roundRaws (target : HealthCheckTarget) : List Round → List HealthResult
  | [] => []
  | round :: _ => round.rawsOf target

/-- The raw results of a target since it was last missing from a round. -/
def resultsSince (target : HealthCheckTarget) :
    List Round → List HealthResult
  | [] => []
  | round :: earlier =>
      if target ∈ round.targets then
        resultsSince target earlier ++ round.rawsOf target
      else []

/-- The dampener after a sequence of raw results. -/
def dampen (thresholds : Thresholds) : List HealthResult → Option Dampener
  | [] => none
  | first :: rest => some (rest.foldl (Dampener.next thresholds) (.first first))

/-- What a round has to publish for a target. -/
def roundResult (thresholds : Thresholds) (history : List Round)
    (target : HealthCheckTarget) : Option HealthResult :=
  if target ∈ roundTargets history then
    (dampen thresholds (resultsSince target history)).map
      Dampener.reportedHealth
  else none

theorem resultsSince_of_notMem {target : HealthCheckTarget}
    {history : List Round} (hmissing : target ∉ roundTargets history) :
    resultsSince target history = [] := by
  cases history with
  | nil => rfl
  | cons round earlier => exact if_neg hmissing

theorem resultsSince_eq_tail {target : HealthCheckTarget}
    {history : List Round} (htarget : target ∈ roundTargets history)
    (hraws : roundRaws target history = []) :
    resultsSince target history = resultsSince target history.tail := by
  cases history with
  | nil => rfl
  | cons round earlier =>
      have hmem : target ∈ round.targets := htarget
      have hround : round.rawsOf target = [] := hraws
      rw [resultsSince, if_pos hmem, hround, List.append_nil, List.tail_cons]

theorem rawsOf_append (round : Round) (target other : HealthCheckTarget)
    (result : HealthResult) :
    { round with raws := round.raws ++ [(target, result)] }.rawsOf other =
      round.rawsOf other ++ if other = target then [result] else [] := by
  rw [Round.rawsOf, List.filter_append, List.map_append, Round.rawsOf]
  by_cases hother : other = target
  · simp [hother]
  · simp [hother, Ne.symm hother]

section Raw

variable (trace : List ManagerEvent) (target : HealthCheckTarget)
variable (result : HealthResult)

theorem rounds_raw_tail :
    (rounds (.raw target result :: trace)).tail = (rounds trace).tail := by
  rw [rounds]
  cases hrounds : rounds trace with
  | nil => rfl
  | cons round earlier => rfl

theorem roundTargets_raw :
    roundTargets (rounds (.raw target result :: trace)) =
      roundTargets (rounds trace) := by
  rw [rounds]
  cases hrounds : rounds trace with
  | nil => rfl
  | cons round earlier => rfl

variable {trace target}
variable (htarget : target ∈ roundTargets (rounds trace))

include htarget

theorem roundRaws_raw (other : HealthCheckTarget) :
    roundRaws other (rounds (.raw target result :: trace)) =
      roundRaws other (rounds trace) ++
        if other = target then [result] else [] := by
  rw [rounds]
  cases hrounds : rounds trace with
  | nil =>
      rw [hrounds] at htarget
      exact absurd htarget List.not_mem_nil
  | cons round earlier => exact rawsOf_append round target other result

theorem resultsSince_raw (other : HealthCheckTarget) :
    resultsSince other (rounds (.raw target result :: trace)) =
      resultsSince other (rounds trace) ++
        if other = target then [result] else [] := by
  rw [rounds]
  cases hrounds : rounds trace with
  | nil =>
      rw [hrounds] at htarget
      exact absurd htarget List.not_mem_nil
  | cons round earlier =>
      rw [hrounds] at htarget
      simp only [resultsSince]
      by_cases hin : other ∈ round.targets
      · rw [if_pos hin, if_pos hin, rawsOf_append, List.append_assoc]
      · have hne : other ≠ target := fun h => hin (h ▸ htarget)
        rw [if_neg hin, if_neg hin, if_neg hne, List.append_nil]

end Raw

theorem dampen_append (thresholds : Thresholds) (past : List HealthResult)
    (result : HealthResult) :
    dampen thresholds (past ++ [result]) =
      some (match dampen thresholds past with
        | none => .first result
        | some dampener => dampener.next thresholds result) := by
  cases past with
  | nil => rfl
  | cons first rest =>
      simp only [List.cons_append, dampen, List.foldl_append, List.foldl_cons,
        List.foldl_nil]

/-! ## The life of a stream in a round -/

/-- Where a target stands in a round: not asked yet, asked, collected. -/
inductive Stage where
  | before
  | during
  | after

/-- The dampener between two results. -/
def idlePc (thresholds : Thresholds) (past : List HealthResult) :
    DampenerPc :=
  match dampen thresholds past with
  | none => .first
  | some dampener => .waiting dampener

theorem idlePc_ne_sending (thresholds : Thresholds) (past : List HealthResult)
    (dampener : Dampener) : idlePc thresholds past ≠ .sending dampener := by
  unfold idlePc
  cases dampen thresholds past <;> exact DampenerPc.noConfusion

theorem idlePc_ne_closed (thresholds : Thresholds)
    (past : List HealthResult) : idlePc thresholds past ≠ .closed := by
  unfold idlePc
  cases dampen thresholds past <;> exact DampenerPc.noConfusion

/-- An open stream on which no goroutine has anything to do. -/
def quietStream (thresholds : Thresholds) (past : List HealthResult) :
    HealthStream where
  rawClosed := false
  working := []
  blocked := []
  dampener := idlePc thresholds past

/-- The stream of a target at a stage, with the results its dampener has seen
and those of the round among them. -/
inductive InStage (thresholds : Thresholds) (target : HealthCheckTarget) :
    Stage → HealthStream → List HealthResult → List HealthResult → Prop where
  | before {past : List HealthResult} :
      InStage thresholds target .before (quietStream thresholds past) past []
  | working {past : List HealthResult} :
      InStage thresholds target .during
        { quietStream thresholds past with working := [target] } past []
  | blocked {past : List HealthResult} {result : HealthResult} :
      InStage thresholds target .during
        { quietStream thresholds past with blocked := [(target, result)] }
        past []
  | answered {past : List HealthResult} {result : HealthResult}
      {dampener : Dampener} (hdampen : dampen thresholds past = some dampener) :
      InStage thresholds target .during
        { quietStream thresholds past with dampener := .sending dampener }
        past [result]
  | after {past : List HealthResult} {result : HealthResult}
      (hsome : (dampen thresholds past).isSome) :
      InStage thresholds target .after (quietStream thresholds past) past
        [result]

theorem InStage.rawClosed {thresholds : Thresholds}
    {target : HealthCheckTarget} {stage : Stage} {stream : HealthStream}
    {past raws : List HealthResult}
    (hstage : InStage thresholds target stage stream past raws) :
    stream.rawClosed = false := by
  cases hstage <;> rfl

theorem InStage.quiet_of_after {thresholds : Thresholds}
    {target : HealthCheckTarget} {stream : HealthStream}
    {past raws : List HealthResult}
    (hstage : InStage thresholds target .after stream past raws) :
    stream = quietStream thresholds past := by
  cases hstage
  rfl

theorem InStage.raws_of_after {thresholds : Thresholds}
    {target : HealthCheckTarget} {stream : HealthStream}
    {past raws : List HealthResult}
    (hstage : InStage thresholds target .after stream past raws) :
    (∃ raw, raws = [raw]) ∧ (dampen thresholds past).isSome := by
  cases hstage with
  | after hsome => exact ⟨⟨_, rfl⟩, hsome⟩

theorem InStage.of_before {thresholds : Thresholds}
    {target : HealthCheckTarget} {stream : HealthStream}
    {past raws : List HealthResult}
    (hstage : InStage thresholds target .before stream past raws) :
    InStage thresholds target .during
      { stream with working := target :: stream.working } past raws := by
  cases hstage
  exact .working

/-- The dampener of a target that has been asked answers with what it makes of
the results it has seen. -/
theorem InStage.of_during {thresholds : Thresholds}
    {target : HealthCheckTarget} {stream : HealthStream}
    {past raws : List HealthResult} {dampener : Dampener}
    (hstage : InStage thresholds target .during stream past raws)
    (hsending : stream.dampener = .sending dampener) :
    dampen thresholds past = some dampener ∧
      InStage thresholds target .after
        { stream with dampener := .waiting dampener } past raws := by
  cases hstage with
  | working => exact absurd hsending (idlePc_ne_sending thresholds past dampener)
  | blocked => exact absurd hsending (idlePc_ne_sending thresholds past dampener)
  | answered hdampen =>
      cases hsending
      refine ⟨hdampen, ?_⟩
      have hquiet : quietStream thresholds past =
          { quietStream thresholds past with dampener := .waiting dampener } := by
        simp only [quietStream, idlePc, hdampen]
      rw [← hquiet]
      exact .after (by rw [hdampen]; rfl)

theorem InStage.not_closed {thresholds : Thresholds}
    {target : HealthCheckTarget} {stage : Stage} {stream : HealthStream}
    {past raws : List HealthResult}
    (hstage : InStage thresholds target stage stream past raws) :
    stream.dampener ≠ .closed := by
  have hidle := idlePc_ne_closed thresholds past
  cases hstage with
  | before => exact hidle
  | working => exact hidle
  | blocked => exact hidle
  | answered hdampen => exact DampenerPc.noConfusion
  | after hsome => exact hidle

/-- What can happen on a stream that is open: a checker gets its result, or
the dampener takes one. -/
theorem StreamStep.cases_of_open {thresholds : Thresholds}
    {stream stream' : HealthStream}
    {label : Option (HealthCheckTarget × HealthResult)}
    (hstep : StreamStep thresholds stream label stream')
    (hopen : stream.rawClosed = false) :
    (∃ target result, target ∈ stream.working ∧ label = none ∧
      stream' = { stream with
        working := stream.working.erase target
        blocked := stream.blocked ++ [(target, result)] }) ∨
    ∃ target result dampener, (target, result) ∈ stream.blocked ∧
      label = some (target, result) ∧
      (stream.dampener = .first ∧ dampener = .first result ∨
        ∃ earlier, stream.dampener = .waiting earlier ∧
          dampener = earlier.next thresholds result) ∧
      stream' = { stream with
        blocked := stream.blocked.erase (target, result)
        dampener := .sending dampener } := by
  cases hstep with
  | finish result hworking => exact .inl ⟨_, result, hworking, rfl, rfl⟩
  | takeFirst _ hblocked hfirst =>
      exact .inr ⟨_, _, _, hblocked, rfl, .inl ⟨hfirst, rfl⟩, rfl⟩
  | takeNext _ hblocked hwaiting =>
      exact .inr ⟨_, _, _, hblocked, rfl, .inr ⟨_, hwaiting, rfl⟩, rfl⟩
  | closedFirst hclosed hfirst =>
      exact absurd (hopen.symm.trans hclosed) Bool.false_ne_true
  | closedRange hclosed hwaiting =>
      exact absurd (hopen.symm.trans hclosed) Bool.false_ne_true
  | sink hclosed hsending =>
      exact absurd (hopen.symm.trans hclosed) Bool.false_ne_true

/-- Without a checker at work a stream passes no result on. -/
theorem StreamStep.idle {thresholds : Thresholds}
    {stream stream' : HealthStream}
    {label : Option (HealthCheckTarget × HealthResult)}
    (hstep : StreamStep thresholds stream label stream')
    (hidle : stream.working = [] ∧ stream.blocked = []) :
    label = none ∧ stream'.working = [] ∧ stream'.blocked = [] := by
  cases hstep with
  | finish result hworking =>
      rw [hidle.1] at hworking
      exact absurd hworking List.not_mem_nil
  | takeFirst hopen hblocked hfirst =>
      rw [hidle.2] at hblocked
      exact absurd hblocked List.not_mem_nil
  | takeNext hopen hblocked hwaiting =>
      rw [hidle.2] at hblocked
      exact absurd hblocked List.not_mem_nil
  | closedFirst hclosed hfirst => exact ⟨rfl, hidle⟩
  | closedRange hclosed hwaiting => exact ⟨rfl, hidle⟩
  | sink hclosed hsending => exact ⟨rfl, hidle⟩

/-- Without a checker at work an open stream has no step of its own. -/
theorem StreamStep.false_of_quiet {thresholds : Thresholds}
    {stream stream' : HealthStream}
    {label : Option (HealthCheckTarget × HealthResult)}
    (hstep : StreamStep thresholds stream label stream')
    (hopen : stream.rawClosed = false) (hworking : stream.working = [])
    (hblocked : stream.blocked = []) : False := by
  rcases hstep.cases_of_open hopen with ⟨_, _, hmem, _⟩ | ⟨_, _, _, hmem, _⟩
  · rw [hworking] at hmem
    exact List.not_mem_nil hmem
  · rw [hblocked] at hmem
    exact List.not_mem_nil hmem

/-- The dampener takes the next result. -/
theorem dampen_take {thresholds : Thresholds} {past : List HealthResult}
    {result : HealthResult} {dampener : Dampener}
    (htake : idlePc thresholds past = .first ∧ dampener = .first result ∨
      ∃ earlier, idlePc thresholds past = .waiting earlier ∧
        dampener = earlier.next thresholds result) :
    dampen thresholds (past ++ [result]) = some dampener := by
  rw [dampen_append]
  unfold idlePc at htake
  cases hpast : dampen thresholds past with
  | none =>
      rw [hpast] at htake
      rcases htake with ⟨_, rfl⟩ | ⟨_, hwaiting, _⟩
      · rfl
      · cases hwaiting
  | some earlier =>
      rw [hpast] at htake
      rcases htake with ⟨hfirst, _⟩ | ⟨_, hwaiting, rfl⟩
      · cases hfirst
      · cases hwaiting
        rfl

/-- The steps of the goroutines keep a target in its stage; a raw result that
is taken is the target's own and the dampener has seen it. -/
theorem InStage.step {thresholds : Thresholds} {target : HealthCheckTarget}
    {stage : Stage} {stream stream' : HealthStream}
    {past raws : List HealthResult}
    {label : Option (HealthCheckTarget × HealthResult)}
    (hstage : InStage thresholds target stage stream past raws)
    (hstep : StreamStep thresholds stream label stream') :
    label = none ∧ InStage thresholds target stage stream' past raws ∨
      ∃ result, label = some (target, result) ∧ stage = .during ∧
        InStage thresholds target stage stream' (past ++ [result])
          (raws ++ [result]) := by
  have hcases := hstep.cases_of_open hstage.rawClosed
  cases hstage with
  | before => exact (hstep.false_of_quiet rfl rfl rfl).elim
  | after hsome => exact (hstep.false_of_quiet rfl rfl rfl).elim
  | answered hdampen => exact (hstep.false_of_quiet rfl rfl rfl).elim
  | working =>
      rcases hcases with ⟨_, result, hmem, rfl, rfl⟩ | ⟨_, _, _, hmem, _⟩
      · obtain rfl := List.mem_singleton.mp hmem
        refine .inl ⟨rfl, ?_⟩
        simp only [List.erase_cons_head]
        exact .blocked
      · exact absurd hmem List.not_mem_nil
  | blocked =>
      rcases hcases with ⟨_, _, hmem, _⟩ |
        ⟨_, result, dampener, hmem, rfl, htake, rfl⟩
      · exact absurd hmem List.not_mem_nil
      · obtain ⟨rfl, rfl⟩ := Prod.mk.inj (List.mem_singleton.mp hmem)
        refine .inr ⟨_, rfl, rfl, ?_⟩
        simp only [List.erase_cons_head]
        exact .answered (dampen_take htake)

/-! ## The invariant of a run -/

/-- The streams of the previous round that are not taken over yet. -/
def ManagerPhase.lastActive : ManagerPhase → TargetMap ℕ
  | .update _ lastActive => lastActive
  | .cleanup lastActive => lastActive
  | _ => ∅

def ManagerPhase.stage (target : HealthCheckTarget) : ManagerPhase → Stage
  | .top => .after
  | .update _ _ => .before
  | .cleanup _ => .before
  | .request todo => if (todo.lookup target).isSome then .before else .during
  | .sleep => .during
  | .collect todo _ =>
      if (todo.lookup target).isSome then .during else .after
  | .publish _ => .after
  | .complete => .after

/-- The rounds that are finished. -/
def ManagerPhase.finished : ManagerPhase → List Round → List Round
  | .top, history => history
  | .complete, history => history
  | _, history => history.tail

section Invariant

variable (thresholds : Thresholds)

/-- The results of the last of these rounds: its targets are the keys, and
each has its dampened value. -/
structure Published (history : List Round)
    (results : TargetMap HealthResult) : Prop where
  hkeys : ∀ target, target ∈ results ↔ target ∈ roundTargets history
  hvalues : ∀ target,
    results.lookup target = roundResult thresholds history target

/-- The targets of the round are the active ones. -/
def ActiveTargets (history : List Round) (active : TargetMap ℕ) : Prop :=
  ∀ target, target ∈ roundTargets history ↔ (active.lookup target).isSome

def PhaseHolds (history : List Round) (active : TargetMap ℕ) :
    ManagerPhase → Prop
  | .top => ActiveTargets history active
  | .update rest lastActive =>
      rest.Nodup ∧
      (∀ target, target ∈ roundTargets history ↔
        target ∈ rest ∨ (active.lookup target).isSome) ∧
      (∀ target ∈ rest, active.lookup target = none) ∧
      (∀ target ∈ roundTargets history.tail,
        (lastActive.lookup target).isSome ∨ (active.lookup target).isSome) ∧
      ∀ target, roundRaws target history = []
  | .cleanup _ => ActiveTargets history active
  | .request todo => ActiveTargets history active ∧
      ∀ target id, todo.lookup target = some id →
        active.lookup target = some id
  | .sleep => ActiveTargets history active
  | .collect todo results => ActiveTargets history active ∧
      (∀ target id, todo.lookup target = some id →
        active.lookup target = some id) ∧
      ∀ target, results.lookup target =
        if (todo.lookup target).isSome then none
        else roundResult thresholds history target
  | .publish results => ActiveTargets history active ∧
      ∀ target, results.lookup target = roundResult thresholds history target
  | .complete => ActiveTargets history active

structure RoundInvariant (trace : List ManagerEvent) (state : ManagerState) :
    Prop where
  hpanicked : state.panicked = false
  hnext : state.nextTargets.Nodup ∧
    ∀ target ∈ state.nextTargets, target.checkType ∈ checkTypes
  htypes : ∀ target ∈ roundTargets (rounds trace),
    target.checkType ∈ checkTypes
  hbound : ∀ target id, state.activeTargets.lookup target = some id ∨
    state.phase.lastActive.lookup target = some id → id < state.nextStream
  hactive : ∀ target target' id,
    state.activeTargets.lookup target = some id →
      state.activeTargets.lookup target' = some id → target = target'
  hlast : ∀ target target' id,
    state.phase.lastActive.lookup target = some id →
      state.phase.lastActive.lookup target' = some id → target = target'
  hapart : ∀ target target' id,
    state.activeTargets.lookup target = some id →
      state.phase.lastActive.lookup target' ≠ some id
  hquiet : ∀ target id, state.phase.lastActive.lookup target = some id →
    state.streams id =
      quietStream thresholds (resultsSince target (rounds trace).tail)
  hfresh : ∀ id, state.nextStream ≤ id → state.streams id = .new
  hunused : ∀ id, (∀ target, state.activeTargets.lookup target ≠ some id ∧
      state.phase.lastActive.lookup target ≠ some id) →
    (state.streams id).working = [] ∧ (state.streams id).blocked = []
  hstage : ∀ target id, state.activeTargets.lookup target = some id →
    InStage thresholds target (state.phase.stage target) (state.streams id)
      (resultsSince target (rounds trace)) (roundRaws target (rounds trace))
  hphase : PhaseHolds thresholds (rounds trace) state.activeTargets state.phase
  hpublished : Published thresholds (state.phase.finished (rounds trace))
    state.results

theorem RoundInvariant.initial :
    RoundInvariant thresholds [] ManagerState.initial where
  hpanicked := rfl
  hnext := ⟨List.nodup_nil, fun _ hmem => absurd hmem List.not_mem_nil⟩
  htypes _ hmem := absurd hmem List.not_mem_nil
  hbound target id hlookup := by
    rcases hlookup with hlookup | hlookup <;> cases hlookup
  hactive target _ id hlookup := by cases hlookup
  hlast target _ id hlookup := by cases hlookup
  hapart target _ id hlookup := by cases hlookup
  hquiet target id hlookup := by cases hlookup
  hfresh _ _ := rfl
  hunused _ _ := ⟨rfl, rfl⟩
  hstage target id hlookup := by cases hlookup
  hphase := fun target => ⟨fun hmem => absurd hmem List.not_mem_nil,
    fun hsome => by cases hsome⟩
  hpublished := ⟨fun target => ⟨fun hmem => absurd hmem Finmap.notMem_empty,
    fun hmem => absurd hmem List.not_mem_nil⟩, fun target => rfl⟩

end Invariant

end GlbDirector
