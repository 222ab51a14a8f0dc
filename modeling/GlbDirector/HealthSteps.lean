import GlbDirector.HealthRounds

/-!
# The steps of the health-check manager

Each step of `Run`, of the checkers and of the dampeners keeps the invariant
that ties the streams to the rounds.
-/

namespace GlbDirector

/-! ## Steps of the goroutines -/

section Steps

variable {thresholds : Thresholds} {trace : List ManagerEvent}
variable {state : ManagerState}

theorem setStream_self (id : ℕ) (stream : HealthStream) :
    (state.setStream id stream).streams id = stream := by
  simp [ManagerState.setStream]

theorem setStream_of_ne {id other : ℕ} (stream : HealthStream)
    (hne : other ≠ id) :
    (state.setStream id stream).streams other = state.streams other := by
  simp [ManagerState.setStream, hne]

theorem RoundInvariant.mem_roundTargets
    (hinv : RoundInvariant thresholds trace state)
    {target : HealthCheckTarget} {id : ℕ}
    (htarget : state.activeTargets.lookup target = some id) :
    target ∈ roundTargets (rounds trace) := by
  have hsome : (state.activeTargets.lookup target).isSome := by
    rw [htarget]
    rfl
  have hphase := hinv.hphase
  cases hstate : state.phase with
  | top => exact ((hstate ▸ hphase) target).mpr hsome
  | update rest lastActive =>
      exact ((hstate ▸ hphase).2.1 target).mpr (.inr hsome)
  | cleanup lastActive => exact ((hstate ▸ hphase) target).mpr hsome
  | request todo => exact ((hstate ▸ hphase).1 target).mpr hsome
  | sleep => exact ((hstate ▸ hphase) target).mpr hsome
  | collect todo results => exact ((hstate ▸ hphase).1 target).mpr hsome
  | publish results => exact ((hstate ▸ hphase).1 target).mpr hsome
  | complete => exact ((hstate ▸ hphase) target).mpr hsome

/-- A new value for the stream of an active target. -/
theorem RoundInvariant.hstage_setStream {trace' : List ManagerEvent}
    (hinv : RoundInvariant thresholds trace state)
    {target : HealthCheckTarget} {id : ℕ}
    (htarget : state.activeTargets.lookup target = some id)
    {stream : HealthStream} {phase : ManagerPhase}
    (hstream : InStage thresholds target (phase.stage target) stream
      (resultsSince target (rounds trace')) (roundRaws target (rounds trace')))
    (hothers : ∀ other, other ≠ target →
      phase.stage other = state.phase.stage other ∧
      resultsSince other (rounds trace') =
        resultsSince other (rounds trace) ∧
      roundRaws other (rounds trace') = roundRaws other (rounds trace))
    (other : HealthCheckTarget) (id' : ℕ)
    (hother : state.activeTargets.lookup other = some id') :
    InStage thresholds other (phase.stage other)
      ((state.setStream id stream).streams id')
      (resultsSince other (rounds trace'))
      (roundRaws other (rounds trace')) := by
  by_cases hsame : other = target
  · subst hsame
    obtain rfl := Option.some.inj (hother.symm.trans htarget)
    rw [setStream_self]
    exact hstream
  · have hne : id' ≠ id := by
      rintro rfl
      exact hsame (hinv.hactive other target id' hother htarget)
    obtain ⟨hstage, hsince, hraws⟩ := hothers other hsame
    rw [setStream_of_ne stream hne, hstage, hsince, hraws]
    exact hinv.hstage other id' hother

/-- Streams outside the active targets are not affected by a change to the
stream of an active one. -/
theorem RoundInvariant.setStream_apart
    (hinv : RoundInvariant thresholds trace state)
    {target : HealthCheckTarget} {id : ℕ}
    (htarget : state.activeTargets.lookup target = some id)
    (stream : HealthStream) :
    (∀ other id', state.phase.lastActive.lookup other = some id' →
      (state.setStream id stream).streams id' = state.streams id') ∧
    ∀ id', (∀ other, state.activeTargets.lookup other ≠ some id' ∧
      state.phase.lastActive.lookup other ≠ some id') →
      ((state.setStream id stream).streams id').working = [] ∧
        ((state.setStream id stream).streams id').blocked = [] := by
  constructor
  · intro other id' hother
    apply setStream_of_ne
    rintro rfl
    exact hinv.hapart target other id' htarget hother
  · intro id' hfree
    have hne : id' ≠ id := by
      rintro rfl
      exact (hfree target).1 htarget
    rw [setStream_of_ne stream hne]
    exact hinv.hunused id' hfree

theorem RoundInvariant.hfresh_setStream
    (hinv : RoundInvariant thresholds trace state) {id : ℕ}
    (hid : id < state.nextStream) (stream : HealthStream) (id' : ℕ)
    (hid' : state.nextStream ≤ id') :
    (state.setStream id stream).streams id' = .new := by
  rw [setStream_of_ne stream (Nat.ne_of_gt (hid.trans_le hid'))]
  exact hinv.hfresh id' hid'

theorem finished_raw {phase : ManagerPhase} {target : HealthCheckTarget}
    (result : HealthResult) (hduring : phase.stage target = .during) :
    phase.finished (rounds (.raw target result :: trace)) =
      phase.finished (rounds trace) := by
  cases phase with
  | top => cases hduring
  | complete => cases hduring
  | _ => exact rounds_raw_tail trace target result

theorem phaseHolds_raw {active : TargetMap ℕ} {phase : ManagerPhase}
    {target : HealthCheckTarget} (result : HealthResult)
    (htarget : target ∈ roundTargets (rounds trace))
    (hduring : phase.stage target = .during)
    (hphase : PhaseHolds thresholds (rounds trace) active phase) :
    PhaseHolds thresholds (rounds (.raw target result :: trace)) active
      phase := by
  have hactive : ActiveTargets (rounds (.raw target result :: trace))
      active ↔ ActiveTargets (rounds trace) active := by
    unfold ActiveTargets
    rw [roundTargets_raw]
  cases phase with
  | top => cases hduring
  | update rest lastActive => cases hduring
  | cleanup lastActive => cases hduring
  | request todo => exact ⟨hactive.mpr hphase.1, hphase.2⟩
  | sleep => exact hactive.mpr hphase
  | collect todo results =>
      obtain ⟨hkeys, htodo, hresults⟩ := hphase
      refine ⟨hactive.mpr hkeys, htodo, fun other => ?_⟩
      rw [hresults other]
      by_cases hother : (todo.lookup other).isSome
      · rw [if_pos hother, if_pos hother]
      · have hne : other ≠ target := by
          rintro rfl
          rw [ManagerPhase.stage, if_neg hother] at hduring
          cases hduring
        rw [if_neg hother, if_neg hother, roundResult, roundResult,
          roundTargets_raw, resultsSince_raw result htarget, if_neg hne,
          List.append_nil]
  | publish results => cases hduring
  | complete => cases hduring

theorem RoundInvariant.id_lt (hinv : RoundInvariant thresholds trace state)
    {id : ℕ} {label : Option (HealthCheckTarget × HealthResult)}
    {stream : HealthStream}
    (hstep : StreamStep thresholds (state.streams id) label stream) :
    id < state.nextStream := by
  by_contra hfresh
  rw [hinv.hfresh id (Nat.le_of_not_lt hfresh)] at hstep
  exact hstep.false_of_quiet rfl rfl rfl

theorem RoundInvariant.stream (hinv : RoundInvariant thresholds trace state)
    {id : ℕ} {label : Option (HealthCheckTarget × HealthResult)}
    {stream : HealthStream}
    (hstep : StreamStep thresholds (state.streams id) label stream) :
    RoundInvariant thresholds (rawEvent label :: trace)
      (state.setStream id stream) := by
  have hfresh := hinv.hfresh_setStream (hinv.id_lt hstep) stream
  by_cases howner : ∃ target, state.activeTargets.lookup target = some id
  · obtain ⟨target, htarget⟩ := howner
    obtain ⟨hlast, hfree⟩ := hinv.setStream_apart htarget stream
    rcases (hinv.hstage target id htarget).step hstep with
      ⟨rfl, hstage⟩ | ⟨result, rfl, hduring, hstage⟩
    · exact { hinv with
        hquiet := fun other id' hother =>
          (hlast other id' hother).trans (hinv.hquiet other id' hother)
        hfresh := hfresh
        hunused := hfree
        hstage := hinv.hstage_setStream htarget hstage
          fun other _ => ⟨rfl, rfl, rfl⟩ }
    · have hround : target ∈ roundTargets (rounds trace) :=
        hinv.mem_roundTargets htarget
      exact { hinv with
        htypes := fun other hother =>
          hinv.htypes other (roundTargets_raw trace target result ▸ hother)
        hquiet := fun other id' hother => by
          rw [hlast other id' hother, hinv.hquiet other id' hother]
          exact congrArg _ (congrArg _
            (rounds_raw_tail trace target result).symm)
        hfresh := hfresh
        hunused := hfree
        hstage := by
          refine hinv.hstage_setStream htarget ?_ fun other hne => ⟨rfl, ?_, ?_⟩
          · rw [rawEvent, resultsSince_raw result hround,
              roundRaws_raw result hround, if_pos rfl]
            exact hstage
          · rw [rawEvent, resultsSince_raw result hround, if_neg hne,
              List.append_nil]
          · rw [rawEvent, roundRaws_raw result hround, if_neg hne,
              List.append_nil]
        hphase := phaseHolds_raw result hround hduring hinv.hphase
        hpublished := by
          have hfinished :
              state.phase.finished (rounds (.raw target result :: trace)) =
                state.phase.finished (rounds trace) :=
            finished_raw result hduring
          show Published thresholds
            (state.phase.finished (rounds (.raw target result :: trace))) _
          rw [hfinished]
          exact hinv.hpublished }
  · by_cases hlast : ∃ target, state.phase.lastActive.lookup target = some id
    · obtain ⟨target, htarget⟩ := hlast
      rw [hinv.hquiet target id htarget] at hstep
      exact (hstep.false_of_quiet rfl rfl rfl).elim
    · have hidle := hinv.hunused id fun target =>
        ⟨fun h => howner ⟨target, h⟩, fun h => hlast ⟨target, h⟩⟩
      obtain ⟨rfl, hidle'⟩ := hstep.idle hidle
      have hother : ∀ target id', state.activeTargets.lookup target =
            some id' ∨ state.phase.lastActive.lookup target = some id' →
          (state.setStream id stream).streams id' = state.streams id' := by
        intro target id' hlookup
        apply setStream_of_ne
        rintro rfl
        rcases hlookup with hlookup | hlookup
        · exact howner ⟨target, hlookup⟩
        · exact hlast ⟨target, hlookup⟩
      exact { hinv with
        hquiet := fun target id' htarget =>
          (hother target id' (.inr htarget)).trans
            (hinv.hquiet target id' htarget)
        hfresh := hfresh
        hunused := fun id' hfree => by
          by_cases hsame : id' = id
          · rw [hsame, setStream_self]
            exact hidle'
          · rw [setStream_of_ne stream hsame]
            exact hinv.hunused id' hfree
        hstage := fun target id' htarget => by
          rw [hother target id' (.inl htarget)]
          exact hinv.hstage target id' htarget }

/-! ## Steps of `Run` -/

theorem lookup_erase_eq_some {V : Type} {map : TargetMap V}
    {target other : HealthCheckTarget} {value : V} :
    (map.erase target).lookup other = some value ↔
      other ≠ target ∧ map.lookup other = some value := by
  by_cases hother : other = target
  · subst hother
    simp [Finmap.lookup_erase]
  · simp [Finmap.lookup_erase_ne hother, hother]

theorem lookup_insert_eq_some {V : Type} {map : TargetMap V}
    {target other : HealthCheckTarget} {value value' : V} :
    (map.insert target value).lookup other = some value' ↔
      other = target ∧ value = value' ∨
        other ≠ target ∧ map.lookup other = some value' := by
  by_cases hother : other = target
  · subst hother
    simp [Finmap.lookup_insert]
  · simp [Finmap.lookup_insert_of_ne _ hother, hother]

theorem lookup_empty_ne {V : Type} (target : HealthCheckTarget) (value : V) :
    (∅ : TargetMap V).lookup target ≠ some value := by
  rw [Finmap.lookup_empty]
  exact (Option.some_ne_none value).symm

/-- `Run` goes on to another place; no stream is affected. -/
theorem RoundInvariant.goto (hinv : RoundInvariant thresholds trace state)
    (results : TargetMap HealthResult) {phase : ManagerPhase}
    (hlastActive : phase.lastActive = state.phase.lastActive)
    (hstages : ∀ target id, state.activeTargets.lookup target = some id →
      phase.stage target = state.phase.stage target)
    (hphase : PhaseHolds thresholds (rounds trace) state.activeTargets phase)
    (hpublished : Published thresholds (phase.finished (rounds trace))
      results) :
    RoundInvariant thresholds (.silent :: trace)
      { state with results, phase } := by
  exact { hinv with
    hbound := by
      simp only [hlastActive]
      exact hinv.hbound
    hlast := by
      simp only [hlastActive]
      exact hinv.hlast
    hapart := by
      simp only [hlastActive]
      exact hinv.hapart
    hquiet := by
      simp only [hlastActive]
      exact hinv.hquiet
    hunused := by
      simp only [hlastActive]
      exact hinv.hunused
    hstage := fun target id htarget => by
      rw [hstages target id htarget]
      exact hinv.hstage target id htarget
    hphase := hphase
    hpublished := hpublished }

/-- `Run` goes on after a visit to an active target and its stream. -/
theorem RoundInvariant.visit (hinv : RoundInvariant thresholds trace state)
    {target : HealthCheckTarget} {id : ℕ}
    (htarget : state.activeTargets.lookup target = some id)
    {stream : HealthStream} {phase : ManagerPhase}
    (hlastActive : phase.lastActive = state.phase.lastActive)
    (hstream : InStage thresholds target (phase.stage target) stream
      (resultsSince target (rounds trace)) (roundRaws target (rounds trace)))
    (hstages : ∀ other, other ≠ target →
      phase.stage other = state.phase.stage other)
    (hphase : PhaseHolds thresholds (rounds trace) state.activeTargets phase)
    (hfinished : phase.finished = state.phase.finished) :
    RoundInvariant thresholds (.silent :: trace)
      { state.setStream id stream with phase } := by
  obtain ⟨hlast, hfree⟩ := hinv.setStream_apart htarget stream
  have hid := hinv.hbound target id (.inl htarget)
  exact { hinv with
    hbound := by
      simp only [hlastActive]
      exact hinv.hbound
    hlast := by
      simp only [hlastActive]
      exact hinv.hlast
    hapart := by
      simp only [hlastActive]
      exact hinv.hapart
    hquiet := by
      simp only [hlastActive]
      exact fun other id' hother =>
        (hlast other id' hother).trans (hinv.hquiet other id' hother)
    hfresh := hinv.hfresh_setStream hid stream
    hunused := by
      simp only [hlastActive]
      exact hfree
    hstage := hinv.hstage_setStream htarget hstream
      fun other hne => ⟨hstages other hne, rfl, rfl⟩
    hphase := hphase
    hpublished := by
      show Published thresholds (phase.finished (rounds trace)) state.results
      rw [hfinished]
      exact hinv.hpublished }

theorem RoundInvariant.setTargets
    (hinv : RoundInvariant thresholds trace state)
    {targets : List HealthCheckTarget} (hnodup : targets.Nodup) :
    RoundInvariant thresholds (.setTargets targets :: trace)
      (setTargets targets state) := by
  unfold GlbDirector.setTargets
  by_cases htypes : targets.all fun target => target.checkType ∈ checkTypes
  · rw [if_pos htypes]
    exact { hinv with
      hnext := ⟨hnodup, fun target hmem =>
        of_decide_eq_true (List.all_eq_true.mp htypes target hmem)⟩ }
  · rw [if_neg htypes]
    exact { hinv with }

theorem RoundInvariant.lock (hinv : RoundInvariant thresholds trace state)
    (hphase : state.phase = .top) :
    RoundInvariant thresholds (.snapshot state.nextTargets :: trace)
      { state with
        activeTargets := ∅
        phase := .update state.nextTargets state.activeTargets } := by
  have hholds := hinv.hphase
  have hstages := hinv.hstage
  have hunused := hinv.hunused
  have hpublished := hinv.hpublished
  rw [hphase] at hholds hstages hunused hpublished
  exact { hinv with
    htypes := hinv.hnext.2
    hbound := fun target id hlookup => by
      rcases hlookup with hlookup | hlookup
      · exact absurd hlookup (lookup_empty_ne target id)
      · exact hinv.hbound target id (.inl hlookup)
    hactive := fun target _ id hlookup =>
      absurd hlookup (lookup_empty_ne target id)
    hlast := hinv.hactive
    hapart := fun target _ id hlookup =>
      absurd hlookup (lookup_empty_ne target id)
    hquiet := fun target id hlookup => by
      have hafter : InStage thresholds target .after (state.streams id)
          (resultsSince target (rounds trace))
          (roundRaws target (rounds trace)) := hstages target id hlookup
      exact hafter.quiet_of_after
    hunused := fun id hfree =>
      hunused id fun target => ⟨(hfree target).2, lookup_empty_ne target id⟩
    hstage := fun target id hlookup =>
      absurd hlookup (lookup_empty_ne target id)
    hphase := by
      refine ⟨hinv.hnext.1, fun target => ?_, fun target _ => ?_,
        fun target htarget => ?_, fun target => rfl⟩
      · show target ∈ state.nextTargets ↔ _
        simp
      · rfl
      · exact .inl ((hholds target).mp htarget)
    hpublished := hpublished }

section Update

variable {target : HealthCheckTarget} {rest : List HealthCheckTarget}
variable {lastActive : TargetMap ℕ}
variable (hinv : RoundInvariant thresholds trace state)
variable (hphase : state.phase = .update (target :: rest) lastActive)

include hinv hphase

/-- The target that comes next enters the round with the results it had at
the end of the previous one. -/
theorem RoundInvariant.before_next {stream : HealthStream}
    (hstream : stream = quietStream thresholds
      (resultsSince target (rounds trace).tail)) :
    InStage thresholds target .before stream
      (resultsSince target (rounds trace))
      (roundRaws target (rounds trace)) := by
  have hholds := hinv.hphase
  rw [hphase] at hholds
  obtain ⟨_, hmem, _, _, hraws⟩ := hholds
  have htarget : target ∈ roundTargets (rounds trace) :=
    (hmem target).mpr (.inl List.mem_cons_self)
  rw [hstream, ← resultsSince_eq_tail htarget (hraws target), hraws target]
  exact .before

theorem RoundInvariant.lookup_next :
    state.activeTargets.lookup target = none := by
  have hholds := hinv.hphase
  rw [hphase] at hholds
  exact hholds.2.2.1 target List.mem_cons_self

/-- The target that comes next is put into the new map. -/
theorem RoundInvariant.phaseHolds_next (id : ℕ) {lastActive' : TargetMap ℕ}
    (hothers : ∀ other, other ≠ target →
      lastActive'.lookup other = lastActive.lookup other) :
    PhaseHolds thresholds (rounds trace)
      (state.activeTargets.insert target id) (.update rest lastActive') := by
  have hholds := hinv.hphase
  rw [hphase] at hholds
  obtain ⟨hnodup, hmem, hrest, htail, hraws⟩ := hholds
  obtain ⟨hnotin, hnodup⟩ := List.nodup_cons.mp hnodup
  refine ⟨hnodup, fun other => ?_, fun other hother => ?_,
    fun other hother => ?_, hraws⟩
  · rw [hmem other, List.mem_cons]
    by_cases hsame : other = target
    · subst hsame
      simp [Finmap.lookup_insert]
    · simp [hsame, Finmap.lookup_insert_of_ne _ hsame]
  · have hne : other ≠ target := fun h => hnotin (h ▸ hother)
    rw [Finmap.lookup_insert_of_ne _ hne]
    exact hrest other (List.mem_cons_of_mem _ hother)
  · by_cases hsame : other = target
    · subst hsame
      simp [Finmap.lookup_insert]
    · rw [Finmap.lookup_insert_of_ne _ hsame, hothers other hsame]
      exact htail other hother

/-- The target that comes next enters the round with a stream that no other
target has. -/
theorem RoundInvariant.enter {id nextStream : ℕ} {lastActive' : TargetMap ℕ}
    {streams : ℕ → HealthStream}
    (hnext : state.nextStream ≤ nextStream) (hid : id < nextStream)
    (hleft : ∀ other id', lastActive'.lookup other = some id' ↔
      other ≠ target ∧ lastActive.lookup other = some id')
    (hown : ∀ id', lastActive.lookup target = some id' → id' = id)
    (hfree : ∀ other, state.activeTargets.lookup other ≠ some id ∧
      (other ≠ target → lastActive.lookup other ≠ some id))
    (hstream : streams id = quietStream thresholds
      (resultsSince target (rounds trace).tail))
    (hsame : ∀ id', id' ≠ id → streams id' = state.streams id') :
    RoundInvariant thresholds (.silent :: trace)
      { state with
        activeTargets := state.activeTargets.insert target id
        phase := .update rest lastActive'
        streams, nextStream } := by
  have hold : state.phase.lastActive = lastActive := by
    rw [hphase]
    rfl
  have hbound := hinv.hbound
  have hlast := hinv.hlast
  have hapart := hinv.hapart
  have hquiet := hinv.hquiet
  have hunused := hinv.hunused
  rw [hold] at hbound hlast hapart hquiet hunused
  have hstages := hinv.hstage
  have hpublished := hinv.hpublished
  rw [hphase] at hstages hpublished
  have hcases : ∀ other id',
      (state.activeTargets.insert target id).lookup other = some id' →
        other = target ∧ id' = id ∨
          id' ≠ id ∧ state.activeTargets.lookup other = some id' := by
    intro other id' hother
    rcases lookup_insert_eq_some.mp hother with ⟨hsame, hid⟩ | ⟨_, hother⟩
    · exact .inl ⟨hsame, hid.symm⟩
    · exact .inr ⟨fun h => (hfree other).1 (h ▸ hother), hother⟩
  exact { hinv with
    hbound := fun other id' hother => by
      rcases hother with hother | hother
      · rcases hcases other id' hother with ⟨_, rfl⟩ | ⟨_, hother⟩
        · exact hid
        · exact (hbound other id' (.inl hother)).trans_le hnext
      · have hother := (hleft other id').mp hother
        exact (hbound other id' (.inr hother.2)).trans_le hnext
    hactive := fun other other' id' hother hother' => by
      rcases hcases other id' hother with ⟨rfl, rfl⟩ | ⟨hne, hother⟩
      · rcases hcases other' id' hother' with ⟨rfl, _⟩ | ⟨hne, _⟩
        · rfl
        · exact absurd rfl hne
      · rcases hcases other' id' hother' with ⟨_, hsame⟩ | ⟨_, hother'⟩
        · exact absurd hsame hne
        · exact hinv.hactive other other' id' hother hother'
    hlast := fun other other' id' hother hother' =>
      hlast other other' id' ((hleft other id').mp hother).2
        ((hleft other' id').mp hother').2
    hapart := fun other other' id' hother hother' => by
      obtain ⟨hne, hleft'⟩ := (hleft other' id').mp hother'
      rcases hcases other id' hother with ⟨_, rfl⟩ | ⟨_, hother⟩
      · exact (hfree other').2 hne hleft'
      · exact hapart other other' id' hother hleft'
    hquiet := fun other id' hother => by
      obtain ⟨hne, hother⟩ := (hleft other id').mp hother
      have hid' : id' ≠ id := fun h => (hfree other).2 hne (h ▸ hother)
      exact (hsame id' hid').trans (hquiet other id' hother)
    hfresh := fun id' hid' => by
      have hne : id' ≠ id := Nat.ne_of_gt (hid.trans_le hid')
      exact (hsame id' hne).trans (hinv.hfresh id' (hnext.trans hid'))
    hunused := fun id' hunowned => by
      have hne : id' ≠ id := fun h =>
        (hunowned target).1 (h ▸ Finmap.lookup_insert state.activeTargets)
      show (streams id').working = [] ∧ (streams id').blocked = []
      rw [hsame id' hne]
      refine hunused id' fun other => ?_
      by_cases hother : other = target
      · subst hother
        rw [hinv.lookup_next hphase]
        exact ⟨(Option.some_ne_none id').symm,
          fun hlast => hne (hown id' hlast)⟩
      · rw [← Finmap.lookup_insert_of_ne state.activeTargets hother]
        exact ⟨(hunowned other).1, fun hlast =>
          (hunowned other).2 ((hleft other id').mpr ⟨hother, hlast⟩)⟩
    hstage := fun other id' hother => by
      rcases hcases other id' hother with ⟨rfl, rfl⟩ | ⟨hne, hother⟩
      · exact hinv.before_next hphase hstream
      · show InStage thresholds other .before (streams id') _ _
        rw [hsame id' hne]
        exact hstages other id' hother
    hphase := by
      refine hinv.phaseHolds_next hphase id fun other hne => ?_
      apply Option.ext
      intro id'
      exact (hleft other id').trans ⟨fun h => h.2, fun h => ⟨hne, h⟩⟩
    hpublished := hpublished }

theorem RoundInvariant.keep {id : ℕ}
    (hlast : lastActive.lookup target = some id) :
    RoundInvariant thresholds (.silent :: trace)
      { state with
        activeTargets := state.activeTargets.insert target id
        phase := .update rest (lastActive.erase target) } := by
  have hlast' : state.phase.lastActive.lookup target = some id := by
    rw [hphase]
    exact hlast
  refine hinv.enter hphase le_rfl (hinv.hbound target id (.inr hlast'))
    (fun other id' => lookup_erase_eq_some)
    (fun id' hid' => Option.some.inj (hid'.symm.trans hlast))
    (fun other => ⟨fun hother => hinv.hapart other target id hother hlast',
      fun hne hother => hne (hinv.hlast other target id ?_ hlast')⟩)
    (hinv.hquiet target id hlast') (fun id' _ => rfl)
  rw [hphase]
  exact hother

theorem RoundInvariant.create (hlast : lastActive.lookup target = none) :
    RoundInvariant thresholds (.silent :: trace)
      { state.setStream state.nextStream .new with
        activeTargets := state.activeTargets.insert target state.nextStream
        nextStream := state.nextStream + 1
        phase := .update rest lastActive } := by
  have hholds := hinv.hphase
  rw [hphase] at hholds
  have hmissing : target ∉ roundTargets (rounds trace).tail := by
    intro hmem
    have hsome := hholds.2.2.2.1 target hmem
    rw [hlast, hinv.lookup_next hphase] at hsome
    rcases hsome with hsome | hsome <;> cases hsome
  have hunowned : ∀ other,
      state.activeTargets.lookup other ≠ some state.nextStream ∧
        lastActive.lookup other ≠ some state.nextStream := by
    intro other
    have hbound := hinv.hbound other state.nextStream
    rw [hphase] at hbound
    exact ⟨fun hother => Nat.lt_irrefl _ (hbound (.inl hother)),
      fun hother => Nat.lt_irrefl _ (hbound (.inr hother))⟩
  refine hinv.enter hphase (Nat.le_succ _) (Nat.lt_succ_self _)
    (fun other id' => ⟨fun hother => ⟨?_, hother⟩, fun hother => hother.2⟩)
    (fun id' hid' => ?_)
    (fun other => ⟨(hunowned other).1, fun _ => (hunowned other).2⟩) ?_
    (fun id' hne => setStream_of_ne .new hne)
  · rintro rfl
    rw [hlast] at hother
    cases hother
  · rw [hlast] at hid'
    cases hid'
  · rw [resultsSince_of_notMem hmissing]
    exact setStream_self state.nextStream .new

end Update

/-- The stream of a target that is gone is closed. -/
theorem RoundInvariant.close (hinv : RoundInvariant thresholds trace state)
    {target : HealthCheckTarget} {lastActive : TargetMap ℕ} {id : ℕ}
    (hphase : state.phase = .cleanup lastActive)
    (hlast : lastActive.lookup target = some id) :
    RoundInvariant thresholds (.silent :: trace)
      { state.setStream id { state.streams id with rawClosed := true } with
        phase := .cleanup (lastActive.erase target) } := by
  have hold : state.phase.lastActive = lastActive := by
    rw [hphase]
    rfl
  have hbound := hinv.hbound
  have hlasts := hinv.hlast
  have hapart := hinv.hapart
  have hquiet := hinv.hquiet
  have hunused := hinv.hunused
  rw [hold] at hbound hlasts hapart hquiet hunused
  have hstages := hinv.hstage
  have hholds := hinv.hphase
  have hpublished := hinv.hpublished
  rw [hphase] at hstages hholds hpublished
  exact { hinv with
    hbound := fun other id' hother =>
      hbound other id' (hother.imp_right fun h => (lookup_erase_eq_some.mp h).2)
    hlast := fun other other' id' hother hother' =>
      hlasts other other' id' (lookup_erase_eq_some.mp hother).2
        (lookup_erase_eq_some.mp hother').2
    hapart := fun other other' id' hother hother' =>
      hapart other other' id' hother (lookup_erase_eq_some.mp hother').2
    hquiet := fun other id' hother => by
      obtain ⟨hne, hother⟩ := lookup_erase_eq_some.mp hother
      have hid' : id' ≠ id := fun h =>
        hne (hlasts other target id (h ▸ hother) hlast)
      exact (setStream_of_ne _ hid').trans (hquiet other id' hother)
    hfresh := hinv.hfresh_setStream (hbound target id (.inr hlast)) _
    hunused := fun id' hfree => by
      by_cases hsame : id' = id
      · subst hsame
        show ((state.setStream id' _).streams id').working = [] ∧
          ((state.setStream id' _).streams id').blocked = []
        rw [setStream_self, hquiet target id' hlast]
        exact ⟨rfl, rfl⟩
      · show ((state.setStream id _).streams id').working = [] ∧
          ((state.setStream id _).streams id').blocked = []
        rw [setStream_of_ne _ hsame]
        refine hunused id' fun other => ⟨(hfree other).1, fun hother => ?_⟩
        refine (hfree other).2 (lookup_erase_eq_some.mpr ⟨?_, hother⟩)
        rintro rfl
        exact hsame (Option.some.inj (hother.symm.trans hlast))
    hstage := fun other id' hother => by
      have hne : id' ≠ id := fun h => hapart other target id (h ▸ hother) hlast
      show InStage thresholds other .before
        ((state.setStream id _).streams id') _ _
      rw [setStream_of_ne _ hne]
      exact hstages other id' hother
    hphase := hholds
    hpublished := hpublished }

theorem stage_of_lookup_none {todo : TargetMap ℕ} {target : HealthCheckTarget}
    (results : TargetMap HealthResult) (htodo : todo.lookup target = none) :
    (ManagerPhase.request todo).stage target = .during ∧
      (ManagerPhase.collect todo results).stage target = .after := by
  rw [ManagerPhase.stage, ManagerPhase.stage, htodo]
  exact ⟨rfl, rfl⟩

theorem stage_of_lookup_some {todo : TargetMap ℕ} {target : HealthCheckTarget}
    {id : ℕ} (results : TargetMap HealthResult)
    (htodo : todo.lookup target = some id) :
    (ManagerPhase.request todo).stage target = .before ∧
      (ManagerPhase.collect todo results).stage target = .during := by
  rw [ManagerPhase.stage, ManagerPhase.stage, htodo]
  exact ⟨rfl, rfl⟩

theorem RoundInvariant.request (hinv : RoundInvariant thresholds trace state)
    {target : HealthCheckTarget} {todo : TargetMap ℕ} {id : ℕ}
    (hphase : state.phase = .request todo)
    (htodo : todo.lookup target = some id) :
    RoundInvariant thresholds (.silent :: trace)
      { state.setStream id
          { state.streams id with
            working := target :: (state.streams id).working } with
        phase := .request (todo.erase target) } := by
  have hholds := hinv.hphase
  have hstages := hinv.hstage
  rw [hphase] at hholds hstages
  obtain ⟨hkeys, hsub⟩ := hholds
  have htarget := hsub target id htodo
  have hbefore := hstages target id htarget
  rw [ManagerPhase.stage, htodo, Option.isSome_some, if_pos rfl] at hbefore
  refine hinv.visit htarget ?_ ?_ (fun other hne => ?_)
    ⟨hkeys, fun other id' hother =>
      hsub other id' (lookup_erase_eq_some.mp hother).2⟩ ?_
  · rw [hphase]
    rfl
  · rw [ManagerPhase.stage, Finmap.lookup_erase]
    exact hbefore.of_before
  · rw [hphase, ManagerPhase.stage, ManagerPhase.stage,
      Finmap.lookup_erase_ne hne]
  · rw [hphase]
    rfl

theorem RoundInvariant.not_closed_of_cleanup
    (hinv : RoundInvariant thresholds trace state)
    {target : HealthCheckTarget} {lastActive : TargetMap ℕ} {id : ℕ}
    (hphase : state.phase = .cleanup lastActive)
    (hlast : lastActive.lookup target = some id) :
    (state.streams id).rawClosed ≠ true := by
  have hquiet := hinv.hquiet target id
  rw [hphase] at hquiet
  rw [hquiet hlast]
  exact Bool.false_ne_true

theorem RoundInvariant.checkType_of_request
    (hinv : RoundInvariant thresholds trace state)
    {target : HealthCheckTarget} {todo : TargetMap ℕ} {id : ℕ}
    (hphase : state.phase = .request todo)
    (htodo : todo.lookup target = some id) :
    target.checkType ∈ checkTypes := by
  have hholds := hinv.hphase
  rw [hphase] at hholds
  exact hinv.htypes target (hinv.mem_roundTargets (hholds.2 target id htodo))

/-- A target that is waited for has been asked. -/
theorem RoundInvariant.during_of_collect
    (hinv : RoundInvariant thresholds trace state)
    {target : HealthCheckTarget} {todo : TargetMap ℕ}
    {results : TargetMap HealthResult} {id : ℕ}
    (hphase : state.phase = .collect todo results)
    (htodo : todo.lookup target = some id) :
    InStage thresholds target .during (state.streams id)
      (resultsSince target (rounds trace))
      (roundRaws target (rounds trace)) := by
  have hholds := hinv.hphase
  have hstage := hinv.hstage target id
  rw [hphase] at hholds hstage
  rw [(stage_of_lookup_some results htodo).2] at hstage
  exact hstage (hholds.2.1 target id htodo)

/-- The dampener of a target that is waited for has not closed its channel. -/
theorem RoundInvariant.not_closed
    (hinv : RoundInvariant thresholds trace state)
    {target : HealthCheckTarget} {todo : TargetMap ℕ}
    {results : TargetMap HealthResult} {id : ℕ}
    (hphase : state.phase = .collect todo results)
    (htodo : todo.lookup target = some id) :
    (state.streams id).dampener ≠ .closed :=
  (hinv.during_of_collect hphase htodo).not_closed

theorem RoundInvariant.collect (hinv : RoundInvariant thresholds trace state)
    {target : HealthCheckTarget} {todo : TargetMap ℕ}
    {results : TargetMap HealthResult} {id : ℕ} {dampener : Dampener}
    (hphase : state.phase = .collect todo results)
    (htodo : todo.lookup target = some id)
    (hsending : (state.streams id).dampener = .sending dampener) :
    RoundInvariant thresholds (.silent :: trace)
      { state.setStream id
          { state.streams id with dampener := .waiting dampener } with
        phase := .collect (todo.erase target)
          (results.insert target dampener.reportedHealth) } := by
  obtain ⟨hdampen, hafter⟩ :=
    (hinv.during_of_collect hphase htodo).of_during hsending
  have hholds := hinv.hphase
  rw [hphase] at hholds
  obtain ⟨hkeys, hsub, hresults⟩ := hholds
  have htarget := hsub target id htodo
  refine hinv.visit htarget ?_ ?_ (fun other hne => ?_)
    ⟨hkeys, fun other id' hother =>
      hsub other id' (lookup_erase_eq_some.mp hother).2, fun other => ?_⟩ ?_
  · rw [hphase]
    rfl
  · rw [ManagerPhase.stage, Finmap.lookup_erase]
    exact hafter
  · rw [hphase, ManagerPhase.stage, ManagerPhase.stage,
      Finmap.lookup_erase_ne hne]
  · by_cases hsame : other = target
    · subst hsame
      rw [Finmap.lookup_insert, Finmap.lookup_erase, Option.isSome_none,
        if_neg Bool.false_ne_true, roundResult,
        if_pos (hinv.mem_roundTargets htarget), hdampen, Option.map_some]
    · rw [Finmap.lookup_insert_of_ne _ hsame, Finmap.lookup_erase_ne hsame]
      exact hresults other
  · rw [hphase]
    rfl

/-- No checker waits to send on a closed channel. -/
theorem RoundInvariant.rawClosed (hinv : RoundInvariant thresholds trace state)
    {id : ℕ} (hsend : (state.streams id).working ≠ [] ∨
      (state.streams id).blocked ≠ []) :
    (state.streams id).rawClosed = false := by
  by_cases howner : ∃ target, state.activeTargets.lookup target = some id
  · obtain ⟨target, htarget⟩ := howner
    exact (hinv.hstage target id htarget).rawClosed
  · by_cases hlast : ∃ target, state.phase.lastActive.lookup target = some id
    · obtain ⟨target, htarget⟩ := hlast
      rw [hinv.hquiet target id htarget]
      rfl
    · have hidle := hinv.hunused id fun target =>
        ⟨fun h => howner ⟨target, h⟩, fun h => hlast ⟨target, h⟩⟩
      rcases hsend with hsend | hsend
      · exact absurd hidle.1 hsend
      · exact absurd hidle.2 hsend

/-- A target of the round has exactly one raw result in it once the results are
there, and its dampener has a value. -/
theorem RoundInvariant.raws_of_after
    (hinv : RoundInvariant thresholds trace state)
    {target : HealthCheckTarget} {id : ℕ}
    (htarget : state.activeTargets.lookup target = some id)
    (hafter : state.phase.stage target = .after) :
    (∃ raw, roundRaws target (rounds trace) = [raw]) ∧
      (roundResult thresholds (rounds trace) target).isSome := by
  have hstage := hinv.hstage target id htarget
  rw [hafter] at hstage
  rw [roundResult, if_pos (hinv.mem_roundTargets htarget), Option.isSome_map]
  exact hstage.raws_of_after

theorem RoundInvariant.publish (hinv : RoundInvariant thresholds trace state)
    {results : TargetMap HealthResult}
    (hphase : state.phase = .publish results) :
    RoundInvariant thresholds (.silent :: trace)
      { state with results, phase := .complete } := by
  have hholds := hinv.hphase
  rw [hphase] at hholds
  obtain ⟨hkeys, hresults⟩ := hholds
  refine hinv.goto results ?_ (fun target id _ => ?_) hkeys
    ⟨fun target => ?_, hresults⟩
  · rw [hphase]
    rfl
  · rw [hphase]
    rfl
  · show target ∈ results ↔ target ∈ roundTargets (rounds trace)
    rw [← Finmap.lookup_isSome, hresults target]
    constructor
    · intro hsome
      by_contra hmissing
      rw [roundResult, if_neg hmissing] at hsome
      cases hsome
    · intro hmem
      obtain ⟨id, htarget⟩ := Option.isSome_iff_exists.mp ((hkeys target).mp hmem)
      refine (hinv.raws_of_after htarget ?_).2
      rw [hphase]
      rfl

/-- What a step keeps: the invariant, if new target lists have no
duplicates. -/
theorem RoundInvariant.step (hinv : RoundInvariant thresholds trace state)
    {event : ManagerEvent} {state' : ManagerState}
    (hallowed : ∀ targets, event = .setTargets targets → targets.Nodup)
    (hstep : ManagerStep thresholds state event state') :
    RoundInvariant thresholds (event :: trace) state' := by
  have hholds := hinv.hphase
  have hpublished := hinv.hpublished
  cases hstep with
  | setTargets targets => exact hinv.setTargets (hallowed targets rfl)
  | stream hstep => exact hinv.stream hstep
  | panicSend hclosed hblocked =>
      have hopen := hinv.rawClosed (.inr (List.ne_nil_of_mem hblocked))
      exact absurd (hopen.symm.trans hclosed) Bool.false_ne_true
  | lock hphase => exact hinv.lock hphase
  | keep hphase hlast => exact hinv.keep hphase hlast
  | create hphase hlast => exact hinv.create hphase hlast
  | updated hphase =>
      rw [hphase] at hholds hpublished
      refine hinv.goto state.results ?_ (fun target id _ => ?_) ?_ hpublished
      · rw [hphase]
        rfl
      · rw [hphase]
        rfl
      · intro target
        rw [hholds.2.1 target]
        simp
  | close hphase hlast hopen => exact hinv.close hphase hlast
  | panicClose hphase hlast hclosed =>
      exact absurd hclosed (hinv.not_closed_of_cleanup hphase hlast)
  | cleaned hphase =>
      rw [hphase] at hholds hpublished
      refine hinv.goto state.results ?_ (fun target id htarget => ?_)
        ⟨hholds, fun target id htarget => htarget⟩ hpublished
      · rw [hphase]
        rfl
      · rw [hphase, (stage_of_lookup_some ∅ htarget).1]
        rfl
  | request hphase htodo hchecker => exact hinv.request hphase htodo
  | panicRequest hphase htodo hchecker =>
      exact absurd (hinv.checkType_of_request hphase htodo) hchecker
  | requested hphase =>
      rw [hphase] at hholds hpublished
      refine hinv.goto state.results ?_ (fun target id _ => ?_) hholds.1
        hpublished
      · rw [hphase]
        rfl
      · rw [hphase, (stage_of_lookup_none ∅ (Finmap.lookup_empty target)).1]
        rfl
  | wake hphase =>
      rw [hphase] at hholds hpublished
      refine hinv.goto state.results ?_ (fun target id htarget => ?_)
        ⟨hholds, fun target id htarget => htarget, fun target => ?_⟩ hpublished
      · rw [hphase]
        rfl
      · rw [hphase, (stage_of_lookup_some ∅ htarget).2]
        rfl
      · rw [Finmap.lookup_empty]
        by_cases htarget : (state.activeTargets.lookup target).isSome
        · rw [if_pos htarget]
        · rw [if_neg htarget, roundResult,
            if_neg fun hmem => htarget ((hholds target).mp hmem)]
  | collect hphase htodo hsending => exact hinv.collect hphase htodo hsending
  | collectClosed hphase htodo hclosed =>
      exact absurd hclosed (hinv.not_closed hphase htodo)
  | collected hphase =>
      rw [hphase] at hholds hpublished
      refine hinv.goto state.results ?_ (fun target id _ => ?_)
        ⟨hholds.1, fun target => ?_⟩ hpublished
      · rw [hphase]
        rfl
      · rw [hphase, (stage_of_lookup_none _ (Finmap.lookup_empty target)).2]
        rfl
      · rw [hholds.2.2 target, Finmap.lookup_empty]
        rfl
  | publish hphase => exact hinv.publish hphase
  | complete hphase =>
      rw [hphase] at hholds hpublished
      refine hinv.goto state.results ?_ (fun target id _ => ?_) hholds
        hpublished
      · rw [hphase]
        rfl
      · rw [hphase]
        rfl

end Steps

end GlbDirector
