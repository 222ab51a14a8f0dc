import GlbDirector.HealthSteps
import GlbDirector.LabelledRuns

/-!
# Every health-check round finishes

As long as every checker gets a result, a round takes finitely many steps: each
step brings `Run` to a later place, takes an entry off the loop it is in, or
uses up work that is left on a stream.  In no state do all goroutines wait for
each other.
-/

namespace GlbDirector

open LabelledRuns

/-! ## The rank of a state -/

def DampenerPc.work : DampenerPc → ℕ
  | .first => 3
  | .sending _ => 2
  | .waiting _ => 1
  | .closed => 0

def HealthStream.work (stream : HealthStream) : ℕ :=
  3 * stream.working.length + 2 * stream.blocked.length +
    stream.dampener.work

theorem StreamStep.work_lt {thresholds : Thresholds}
    {stream stream' : HealthStream}
    {label : Option (HealthCheckTarget × HealthResult)}
    (hstep : StreamStep thresholds stream label stream') :
    stream'.work < stream.work := by
  cases hstep with
  | finish result hworking =>
      have hlength := List.length_erase_of_mem hworking
      have hpos := List.length_pos_of_mem hworking
      simp only [HealthStream.work, List.length_append, List.length_singleton]
      omega
  | takeFirst hopen hblocked hfirst =>
      have hlength := List.length_erase_of_mem hblocked
      simp only [HealthStream.work, hfirst, DampenerPc.work]
      omega
  | takeNext hopen hblocked hwaiting =>
      have hlength := List.length_erase_of_mem hblocked
      have hpos := List.length_pos_of_mem hblocked
      simp only [HealthStream.work, hwaiting, DampenerPc.work]
      omega
  | closedFirst hclosed hfirst =>
      simp only [HealthStream.work, hfirst, DampenerPc.work]
      omega
  | closedRange hclosed hwaiting =>
      simp only [HealthStream.work, hwaiting, DampenerPc.work]
      omega
  | sink hclosed hsending =>
      simp only [HealthStream.work, hsending, DampenerPc.work]
      omega

/-- How far `Run` is from the end of the round. -/
def ManagerPhase.distance : ManagerPhase → ℕ
  | .top => 7
  | .update _ _ => 6
  | .cleanup _ => 5
  | .request _ => 4
  | .sleep => 3
  | .collect _ _ => 2
  | .publish _ => 1
  | .complete => 0

/-- How many entries the loop still has to visit. -/
def ManagerPhase.left : ManagerPhase → ℕ
  | .update rest _ => rest.length
  | .cleanup lastActive => lastActive.keys.card
  | .request todo => todo.keys.card
  | .collect todo _ => todo.keys.card
  | _ => 0

def ManagerState.work (state : ManagerState) : ℕ :=
  ∑ id ∈ Finset.range state.nextStream, (state.streams id).work

def ManagerState.rank (state : ManagerState) : ℕ ×ₗ ℕ ×ₗ ℕ :=
  toLex (state.phase.distance, toLex (state.phase.left, state.work))

section Rank

variable {state state' : ManagerState}

theorem rank_lt_of_distance
    (hdistance : state'.phase.distance < state.phase.distance) :
    state'.rank < state.rank := by
  rw [ManagerState.rank, ManagerState.rank, Prod.Lex.toLex_lt_toLex]
  exact .inl hdistance

theorem rank_lt_of_left
    (hdistance : state'.phase.distance = state.phase.distance)
    (hleft : state'.phase.left < state.phase.left) :
    state'.rank < state.rank := by
  rw [ManagerState.rank, ManagerState.rank, Prod.Lex.toLex_lt_toLex,
    Prod.Lex.toLex_lt_toLex]
  exact .inr ⟨hdistance, .inl hleft⟩

theorem rank_lt_of_work (hphase : state'.phase = state.phase)
    (hwork : state'.work < state.work) : state'.rank < state.rank := by
  rw [ManagerState.rank, ManagerState.rank, hphase, Prod.Lex.toLex_lt_toLex,
    Prod.Lex.toLex_lt_toLex]
  exact .inr ⟨rfl, .inr ⟨rfl, hwork⟩⟩

end Rank

theorem card_keys_erase_lt {V : Type} {map : TargetMap V}
    {target : HealthCheckTarget} {value : V}
    (htarget : map.lookup target = some value) :
    (map.erase target).keys.card < map.keys.card := by
  rw [Finmap.keys_erase]
  apply Finset.card_erase_lt_of_mem
  rw [Finmap.mem_keys]
  exact Finmap.mem_of_lookup_eq_some htarget

section Progress

variable {thresholds : Thresholds} {trace : List ManagerEvent}
variable {state : ManagerState}

theorem RoundInvariant.work_lt (hinv : RoundInvariant thresholds trace state)
    {id : ℕ} {label : Option (HealthCheckTarget × HealthResult)}
    {stream : HealthStream}
    (hstep : StreamStep thresholds (state.streams id) label stream) :
    (state.setStream id stream).work < state.work := by
  have hid : id ∈ Finset.range state.nextStream :=
    Finset.mem_range.mpr (hinv.id_lt hstep)
  apply Finset.sum_lt_sum
  · intro other _
    by_cases hother : other = id
    · rw [hother, setStream_self]
      exact hstep.work_lt.le
    · rw [setStream_of_ne stream hother]
  · refine ⟨id, hid, ?_⟩
    rw [setStream_self]
    exact hstep.work_lt

/-- Every step other than `SetTargets` brings the end of the round nearer. -/
theorem RoundInvariant.rank_lt (hinv : RoundInvariant thresholds trace state)
    {event : ManagerEvent} {state' : ManagerState}
    (hstep : ManagerStep thresholds state event state')
    (hevent : ∀ targets, event ≠ .setTargets targets)
    (hcomplete : state.phase ≠ .complete) : state'.rank < state.rank := by
  cases hstep with
  | setTargets targets => exact absurd rfl (hevent targets)
  | stream hstep => exact rank_lt_of_work rfl (hinv.work_lt hstep)
  | panicSend hclosed hblocked =>
      have hopen := hinv.rawClosed (.inr (List.ne_nil_of_mem hblocked))
      exact absurd (hopen.symm.trans hclosed) Bool.false_ne_true
  | lock hphase =>
      apply rank_lt_of_distance
      rw [hphase]
      exact Nat.lt_succ_self 6
  | keep hphase hlast =>
      apply rank_lt_of_left
      · rw [hphase]
        rfl
      · rw [hphase]
        exact Nat.lt_succ_self _
  | create hphase hlast =>
      apply rank_lt_of_left
      · rw [hphase]
        rfl
      · rw [hphase]
        exact Nat.lt_succ_self _
  | updated hphase =>
      apply rank_lt_of_distance
      rw [hphase]
      exact Nat.lt_succ_self 5
  | close hphase hlast hopen =>
      apply rank_lt_of_left
      · rw [hphase]
        rfl
      · rw [hphase]
        exact card_keys_erase_lt hlast
  | panicClose hphase hlast hclosed =>
      exact absurd hclosed (hinv.not_closed_of_cleanup hphase hlast)
  | cleaned hphase =>
      apply rank_lt_of_distance
      rw [hphase]
      exact Nat.lt_succ_self 4
  | request hphase htodo hchecker =>
      apply rank_lt_of_left
      · rw [hphase]
        rfl
      · rw [hphase]
        exact card_keys_erase_lt htodo
  | panicRequest hphase htodo hchecker =>
      exact absurd (hinv.checkType_of_request hphase htodo) hchecker
  | requested hphase =>
      apply rank_lt_of_distance
      rw [hphase]
      exact Nat.lt_succ_self 3
  | wake hphase =>
      apply rank_lt_of_distance
      rw [hphase]
      exact Nat.lt_succ_self 2
  | collect hphase htodo hsending =>
      apply rank_lt_of_left
      · rw [hphase]
        rfl
      · rw [hphase]
        exact card_keys_erase_lt htodo
  | collectClosed hphase htodo hclosed =>
      exact absurd hclosed (hinv.not_closed hphase htodo)
  | collected hphase =>
      apply rank_lt_of_distance
      rw [hphase]
      exact Nat.lt_succ_self 1
  | publish hphase =>
      apply rank_lt_of_distance
      rw [hphase]
      exact Nat.lt_succ_self 0
  | complete hphase => exact absurd hphase hcomplete

theorem rawEvent_ne_setTargets
    (label : Option (HealthCheckTarget × HealthResult))
    (targets : List HealthCheckTarget) :
    rawEvent label ≠ .setTargets targets := by
  cases label <;> exact ManagerEvent.noConfusion

/-- `SetTargets` does not interfere with the round that is under way. -/
theorem ManagerStep.rank_eq {event : ManagerEvent} {state' : ManagerState}
    {targets : List HealthCheckTarget}
    (hstep : ManagerStep thresholds state event state')
    (hevent : event = .setTargets targets) : state'.rank = state.rank := by
  cases hstep with
  | setTargets targets =>
      unfold GlbDirector.setTargets
      split <;> rfl
  | stream hstep => exact absurd hevent (rawEvent_ne_setTargets _ targets)
  | _ => cases hevent

/-! ## Some step is possible -/

theorem eq_empty_or_exists_lookup {V : Type} (map : TargetMap V) :
    map = ∅ ∨ ∃ target value, map.lookup target = some value := by
  by_cases hlookup : ∃ target value, map.lookup target = some value
  · exact .inr hlookup
  · refine .inl (Finmap.ext_lookup fun target => ?_)
    rw [Finmap.lookup_empty, Option.eq_none_iff_forall_ne_some]
    exact fun value h => hlookup ⟨target, value, h⟩

/-- A target that has been asked is not stuck: its checker or its dampener has
a step, or its answer is ready. -/
theorem InStage.exists_step {target : HealthCheckTarget}
    {stream : HealthStream} {past raws : List HealthResult}
    (hstage : InStage thresholds target .during stream past raws) :
    (∃ label stream', StreamStep thresholds stream label stream') ∨
      ∃ dampener, stream.dampener = .sending dampener := by
  cases hstage with
  | working =>
      exact .inl ⟨_, _, .finish .zero List.mem_cons_self⟩
  | blocked =>
      cases hidle : idlePc thresholds past with
      | first => exact .inl ⟨_, _, .takeFirst rfl List.mem_cons_self hidle⟩
      | sending dampener => exact .inr ⟨dampener, hidle⟩
      | waiting dampener =>
          exact .inl ⟨_, _, .takeNext rfl List.mem_cons_self hidle⟩
      | closed => exact absurd hidle (idlePc_ne_closed thresholds past)
  | answered hdampen => exact .inr ⟨_, rfl⟩

theorem RoundInvariant.exists_step
    (hinv : RoundInvariant thresholds trace state) :
    ∃ event state', ManagerStep thresholds state event state' ∧
      ∀ targets, event ≠ .setTargets targets := by
  have hsilent : ∀ targets, ManagerEvent.silent ≠ .setTargets targets :=
    fun _ => ManagerEvent.noConfusion
  cases hphase : state.phase with
  | top => exact ⟨_, _, .lock hphase, fun _ => ManagerEvent.noConfusion⟩
  | update rest lastActive =>
      cases rest with
      | nil => exact ⟨_, _, .updated hphase, hsilent⟩
      | cons target rest =>
          cases hlast : lastActive.lookup target with
          | none => exact ⟨_, _, .create hphase hlast, hsilent⟩
          | some id => exact ⟨_, _, .keep hphase hlast, hsilent⟩
  | cleanup lastActive =>
      rcases eq_empty_or_exists_lookup lastActive with rfl | ⟨target, id, hlast⟩
      · exact ⟨_, _, .cleaned hphase, hsilent⟩
      · have hopen := hinv.not_closed_of_cleanup hphase hlast
        exact ⟨_, _, .close hphase hlast (Bool.eq_false_of_not_eq_true hopen),
          hsilent⟩
  | request todo =>
      rcases eq_empty_or_exists_lookup todo with rfl | ⟨target, id, htodo⟩
      · exact ⟨_, _, .requested hphase, hsilent⟩
      · have hchecker := hinv.checkType_of_request hphase htodo
        exact ⟨_, _, .request hphase htodo hchecker, hsilent⟩
  | sleep => exact ⟨_, _, .wake hphase, hsilent⟩
  | collect todo results =>
      rcases eq_empty_or_exists_lookup todo with rfl | ⟨target, id, htodo⟩
      · exact ⟨_, _, .collected hphase, hsilent⟩
      · rcases (hinv.during_of_collect hphase htodo).exists_step with
          ⟨label, stream, hstep⟩ | ⟨dampener, hsending⟩
        · exact ⟨_, _, .stream hstep, rawEvent_ne_setTargets label⟩
        · exact ⟨_, _, .collect hphase htodo hsending, hsilent⟩
  | publish results => exact ⟨_, _, .publish hphase, hsilent⟩
  | complete => exact ⟨_, _, .complete hphase, hsilent⟩

end Progress

/-! ## Runs -/

/-- A new target list has no duplicates. -/
def ManagerEvent.Allowed (event : ManagerEvent) : Prop :=
  ∀ targets, event = .setTargets targets → targets.Nodup

theorem RoundInvariant.of_run {thresholds : Thresholds}
    {trace : List ManagerEvent} {state : ManagerState}
    (hrun : Run (ManagerStep thresholds) .initial trace state)
    (hallowed : ∀ event ∈ trace, event.Allowed) :
    RoundInvariant thresholds trace state := by
  refine hrun.invariant (RoundInvariant thresholds) hallowed
    (RoundInvariant.initial thresholds) ?_
  intro trace state event state' hinv hevent hstep
  exact hinv.step hevent hstep

/-- Whatever the order of the steps, a round that is under way finishes. -/
theorem exists_complete {thresholds : Thresholds} {trace : List ManagerEvent}
    {states : ℕ → ManagerState} {events : ℕ → ManagerEvent}
    (hrun : Run (ManagerStep thresholds) .initial trace (states 0))
    (hallowed : ∀ event ∈ trace, event.Allowed)
    (hsteps : ∀ n,
      ManagerStep thresholds (states n) (events n) (states (n + 1)))
    (hevents : ∀ n, (events n).Allowed)
    (hfair : ∀ n, ∃ m, n ≤ m ∧ ∀ targets, events m ≠ .setTargets targets) :
    ∃ n, (states n).phase = .complete := by
  have hinv : ∀ n, ∃ trace', RoundInvariant thresholds trace' (states n) := by
    intro n
    obtain ⟨trace', hrun', hallowed'⟩ :=
      hrun.exists_extend hallowed hsteps hevents n
    exact ⟨trace', .of_run hrun' hallowed'⟩
  refine exists_goal_of_rank events ManagerState.rank
    (fun event => ∃ targets, event = .setTargets targets)
    (fun state => state.phase = .complete) ?_ ?_ ?_
  · rintro n ⟨targets, htargets⟩
    exact (hsteps n).rank_eq htargets
  · intro n hactive
    obtain ⟨trace', hinv'⟩ := hinv n
    by_cases hcomplete : (states n).phase = .complete
    · exact .inl hcomplete
    · exact .inr (hinv'.rank_lt (hsteps n)
        (fun targets h => hactive ⟨targets, h⟩) hcomplete)
  · intro n
    obtain ⟨m, hle, hactive⟩ := hfair n
    exact ⟨m, hle, fun ⟨targets, h⟩ => hactive targets h⟩

/-- No checker has yet to send on a channel that is closed. -/
def NoSendOnClosed (state : ManagerState) : Prop :=
  ∀ id, (state.streams id).rawClosed = true →
    (state.streams id).working = [] ∧ (state.streams id).blocked = []

/-- The health-check manager, for every run: nothing panics, no result is sent
on a closed channel, the results are those of the last finished round, in which
every target had exactly one raw result, and every round finishes. -/
theorem health_rounds {thresholds : Thresholds} {trace : List ManagerEvent}
    {state : ManagerState}
    (hrun : Run (ManagerStep thresholds) .initial trace state)
    (hnodup : ∀ targets, .setTargets targets ∈ trace → targets.Nodup) :
    state.panicked = false ∧
    NoSendOnClosed state ∧
    Published thresholds (state.phase.finished (rounds trace))
      state.results ∧
    (state.phase = .complete →
      ∀ target ∈ roundTargets (rounds trace),
        ∃ raw, roundRaws target (rounds trace) = [raw]) ∧
    (∃ event state', ManagerStep thresholds state event state' ∧
      ∀ targets, event ≠ .setTargets targets) ∧
    ∀ (states : ℕ → ManagerState) (events : ℕ → ManagerEvent),
      states 0 = state →
      (∀ n, ManagerStep thresholds (states n) (events n) (states (n + 1))) →
      (∀ n targets, events n = .setTargets targets → targets.Nodup) →
      (∀ n, ∃ m, n ≤ m ∧ ∀ targets, events m ≠ .setTargets targets) →
      ∃ n, (states n).phase = .complete := by
  have hallowed : ∀ event ∈ trace, event.Allowed := by
    intro event hmem targets htargets
    rw [htargets] at hmem
    exact hnodup targets hmem
  have hinv := RoundInvariant.of_run hrun hallowed
  refine ⟨hinv.hpanicked, ?_, hinv.hpublished, ?_, hinv.exists_step, ?_⟩
  · intro id hclosed
    by_contra hsend
    rw [not_and_or] at hsend
    have hopen := hinv.rawClosed hsend
    exact absurd (hopen.symm.trans hclosed) Bool.false_ne_true
  · intro hphase target htarget
    have hholds := hinv.hphase
    rw [hphase] at hholds
    obtain ⟨id, hactive⟩ :=
      Option.isSome_iff_exists.mp ((hholds target).mp htarget)
    refine (hinv.raws_of_after hactive ?_).1
    rw [hphase]
    rfl
  · intro states events hstart hsteps hevents hfair
    rw [← hstart] at hrun
    exact exists_complete hrun hallowed hsteps hevents hfair

def sampleTarget : HealthCheckTarget where
  checkType := "tcp"
  ip := "10.0.0.1"
  port := 80
  uri := ""

/-- A round with a new target, and the result of its check. -/
def addedRound (result : HealthResult) : List ManagerEvent :=
  [.silent, .silent, .silent, .silent, .raw sampleTarget result, .silent,
    .silent, .silent, .silent, .silent, .silent, .snapshot [sampleTarget],
    .setTargets [sampleTarget]]

/-- A round after the target was removed. -/
def removedRound : List ManagerEvent :=
  [.silent, .silent, .silent, .silent, .silent, .silent, .silent,
    .snapshot [], .setTargets []]

/-- The target is added, removed and added again; its second check fails. -/
def sampleTrace : List ManagerEvent :=
  addedRound ⟨false, "refused"⟩ ++ .silent :: removedRound ++
    .silent :: addedRound ⟨true, ""⟩

section Rounds

variable {trace : List ManagerEvent} {targets : List HealthCheckTarget}
  {results : TargetMap HealthResult} {streams : ℕ → HealthStream} {id : ℕ}

/-- Up to the result of the check, which waits for the dampener. -/
theorem exists_run_answered (result : HealthResult)
    (hrun : Run (ManagerStep ⟨3, 3⟩) .initial trace
      ⟨targets, results, ∅, .top, streams, id, false⟩) :
    ∃ answered, Run (ManagerStep ⟨3, 3⟩) .initial
        ([.silent, .silent, .silent, .silent, .silent, .silent,
          .snapshot [sampleTarget], .setTargets [sampleTarget]] ++ trace)
        ⟨[sampleTarget], results, Finmap.insert sampleTarget id ∅, .sleep,
          answered, id + 1, false⟩ ∧
      answered id = { HealthStream.new with
        blocked := [(sampleTarget, result)] } := by
  have hset : Run (ManagerStep ⟨3, 3⟩) .initial _
      ⟨[sampleTarget], results, ∅, .top, streams, id, false⟩ :=
    hrun.cons (.setTargets [sampleTarget])
  obtain ⟨created, hcreate, hnew⟩ : ∃ created,
      Run (ManagerStep ⟨3, 3⟩) .initial _
        ⟨[sampleTarget], results, Finmap.insert sampleTarget id ∅,
          .update [] ∅, created, id + 1, false⟩ ∧ created id = .new :=
    ⟨_, (hset.cons (.lock rfl)).cons (.create rfl rfl),
      Function.update_self ..⟩
  have hcleaned := (hcreate.cons (.updated rfl)).cons (.cleaned rfl)
  obtain ⟨asked, hrequested, hworking⟩ : ∃ asked,
      Run (ManagerStep ⟨3, 3⟩) .initial _
        ⟨[sampleTarget], results, Finmap.insert sampleTarget id ∅, .sleep,
          asked, id + 1, false⟩ ∧
      asked id = { created id with
        working := sampleTarget :: (created id).working } :=
    ⟨_, (hcleaned.cons (.request rfl (Finmap.lookup_insert ∅)
      (by decide))).cons (.requested rfl), Function.update_self ..⟩
  rw [hnew] at hworking
  have hasked : sampleTarget ∈ (asked id).working := by
    rw [hworking]
    exact List.mem_cons_self
  obtain ⟨answered, hfinish, hblocked⟩ : ∃ answered,
      Run (ManagerStep ⟨3, 3⟩) .initial _
        ⟨[sampleTarget], results, Finmap.insert sampleTarget id ∅, .sleep,
          answered, id + 1, false⟩ ∧
      answered id = { asked id with
        working := (asked id).working.erase sampleTarget
        blocked := (asked id).blocked ++ [(sampleTarget, result)] } :=
    ⟨_, hrequested.cons (.stream (.finish result hasked)),
      Function.update_self ..⟩
  rw [hworking] at hblocked
  exact ⟨answered, hfinish, hblocked⟩

theorem exists_run_addedRound (result : HealthResult)
    (hrun : Run (ManagerStep ⟨3, 3⟩) .initial trace
      ⟨targets, results, ∅, .top, streams, id, false⟩) :
    ∃ results' streams', Run (ManagerStep ⟨3, 3⟩) .initial
        (addedRound result ++ trace)
        ⟨[sampleTarget], results', Finmap.insert sampleTarget id ∅, .complete,
          streams', id + 1, false⟩ ∧
      (streams' id).rawClosed = false := by
  obtain ⟨answered, hfinish, hblocked⟩ := exists_run_answered result hrun
  have hmem : (sampleTarget, result) ∈ (answered id).blocked := by
    rw [hblocked]
    exact List.mem_cons_self
  have hopen : (answered id).rawClosed = false := by
    rw [hblocked]
    rfl
  have hfirst : (answered id).dampener = .first := by
    rw [hblocked]
    rfl
  obtain ⟨taken, htake, hsending⟩ : ∃ taken,
      Run (ManagerStep ⟨3, 3⟩) .initial _
        ⟨[sampleTarget], results, Finmap.insert sampleTarget id ∅, .sleep,
          taken, id + 1, false⟩ ∧
      taken id = { answered id with
        blocked := (answered id).blocked.erase (sampleTarget, result)
        dampener := .sending (.first result) } :=
    ⟨_, hfinish.cons (.stream (.takeFirst hopen hmem hfirst)),
      Function.update_self ..⟩
  have hcollect := (htake.cons (.wake rfl)).cons
    (.collect rfl (Finmap.lookup_insert ∅)
      (congrArg HealthStream.dampener hsending))
  have hpublish := (hcollect.cons (.collected rfl)).cons (.publish rfl)
  refine ⟨_, _, hpublish, ?_⟩
  show (Function.update taken id _ id).rawClosed = false
  rw [Function.update_self]
  exact (congrArg HealthStream.rawClosed hsending).trans hopen

theorem exists_run_removedRound
    (hrun : Run (ManagerStep ⟨3, 3⟩) .initial trace
      ⟨targets, results, Finmap.insert sampleTarget id ∅, .top, streams,
        id + 1, false⟩)
    (hopen : (streams id).rawClosed = false) :
    ∃ results' streams', Run (ManagerStep ⟨3, 3⟩) .initial
      (removedRound ++ trace)
      ⟨[], results', ∅, .complete, streams', id + 1, false⟩ := by
  have hset : Run (ManagerStep ⟨3, 3⟩) .initial _
      ⟨[], results, Finmap.insert sampleTarget id ∅, .top, streams, id + 1,
        false⟩ :=
    hrun.cons (.setTargets [])
  have hlock := hset.cons (.lock rfl)
  have hupdated := hlock.cons (.updated rfl)
  have hclose := hupdated.cons (.close rfl (Finmap.lookup_insert ∅) hopen)
  have hcleaned := hclose.cons (.cleaned rfl)
  have hrequested := hcleaned.cons (.requested rfl)
  have hwake := hrequested.cons (.wake rfl)
  have hcollected := hwake.cons (.collected rfl)
  have hpublish := hcollected.cons (.publish rfl)
  exact ⟨_, _, hpublish⟩

end Rounds

theorem exists_run_sampleTrace :
    ∃ state, Run (ManagerStep ⟨3, 3⟩) .initial sampleTrace state ∧
      state.phase = .complete := by
  have hstart : Run (ManagerStep ⟨3, 3⟩) .initial [] .initial := .nil
  obtain ⟨_, _, hadded, hopen⟩ := exists_run_addedRound ⟨true, ""⟩ hstart
  obtain ⟨_, _, hremoved⟩ :=
    exists_run_removedRound (hadded.cons (.complete rfl)) hopen
  obtain ⟨_, _, hagain, _⟩ := exists_run_addedRound ⟨false, "refused"⟩
    (hremoved.cons (.complete rfl))
  exact ⟨_, hagain, rfl⟩

/-- The first result after the target is added again is not dampened. -/
theorem health_rounds_sampleTrace :
    ∃ state, Run (ManagerStep ⟨3, 3⟩) .initial sampleTrace state ∧
      state.results.lookup sampleTarget = some ⟨false, "refused"⟩ := by
  obtain ⟨state, hrun, hphase⟩ := exists_run_sampleTrace
  refine ⟨state, hrun, ?_⟩
  have hnodup : ∀ targets, .setTargets targets ∈ sampleTrace →
      targets.Nodup := by
    intro targets hmem
    have htargets : targets = [sampleTarget] ∨ targets = [] ∨
        targets = [sampleTarget] := by
      simpa [sampleTrace, addedRound, removedRound] using hmem
    rcases htargets with rfl | rfl | rfl
    · exact List.nodup_singleton sampleTarget
    · exact List.nodup_nil
    · exact List.nodup_singleton sampleTarget
  have hpublished := (health_rounds hrun hnodup).2.2.1
  rw [hphase] at hpublished
  rw [hpublished.hvalues sampleTarget]
  decide

end GlbDirector
