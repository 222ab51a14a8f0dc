import GlbDirector.HealthProgress
import GlbDirector.HealthSync

/-!
# Which tables the health-check application publishes

The SIGHUP goroutine stores a table only after it has updated all of its
backends.  The round goroutine may store a table that was swapped in after its
own update had begun, and then the flags it writes are those of the source file
wherever the SIGHUP goroutine has not come to the backend yet.  That is the only
way in which an unchecked flag gets into the destination.
-/

namespace GlbDirector

open LabelledRuns

/-! ## The manager in the application -/

/-- The manager runs as on its own, and no target list has duplicates. -/
def ManagerRuns (thresholds : Thresholds) (state : AppState) : Prop :=
  ∃ trace, Run (ManagerStep thresholds) .initial trace state.manager ∧
    ∀ event ∈ trace, event.Allowed

theorem ManagerRuns.step {thresholds : Thresholds} {state state' : AppState}
    {event : ManagerEvent} (hruns : ManagerRuns thresholds state)
    (hstep : ManagerStep thresholds state.manager event state'.manager)
    (hallowed : event.Allowed) : ManagerRuns thresholds state' := by
  obtain ⟨trace, hrun, htrace⟩ := hruns
  refine ⟨event :: trace, hrun.cons hstep, fun other hmem => ?_⟩
  rcases List.mem_cons.mp hmem with rfl | hmem
  · exact hallowed
  · exact htrace other hmem

theorem Unique.allowed {targets all : List HealthCheckTarget}
    (hunique : Unique targets all) :
    (ManagerEvent.setTargets targets).Allowed := by
  intro targets' htargets
  cases htargets
  exact hunique.hnodup

theorem ManagerRuns.of_run {thresholds : Thresholds} {start state : AppState}
    {trace : List AppEvent} (hstart : start.Initial)
    (hrun : Run (AppStep thresholds) start trace state) :
    ManagerRuns thresholds state := by
  induction hrun with
  | nil =>
      cases hstart with
      | main hall hunique =>
          refine ⟨[.setTargets _], Run.nil.cons (.setTargets _), ?_⟩
          intro event hmem
          rw [List.mem_singleton.mp hmem]
          exact hunique.allowed
  | cons hrun hstep ih =>
      obtain ⟨_, hstep⟩ := hstep
      cases hstep with
      | manager hstep hevent hblocked =>
          exact ih.step hstep fun targets h => absurd h (hevent targets)
      | roundComplete hphase hround =>
          exact ih.step (.complete hphase) fun _ h => by cases h
      | syncTargets hhup hall hunique =>
          exact ih.step (.setTargets _) hunique.allowed
      | _ => exact ih

/-- The check results in the application are those of the last finished round
of the manager. -/
theorem app_results_published {thresholds : Thresholds}
    {start state : AppState} {trace : List AppEvent}
    (hstart : start.Initial)
    (hrun : Run (AppStep thresholds) start trace state) :
    ∃ history, Published thresholds history state.manager.results := by
  obtain ⟨managerTrace, hmanager, hallowed⟩ := ManagerRuns.of_run hstart hrun
  exact ⟨_, (RoundInvariant.of_run hmanager hallowed).hpublished⟩

/-! ## Steps of the application -/

/-- The program counter of a goroutine; outside the call it counts as
returned. -/
def AppState.pc (state : AppState) : Goroutine → SyncPc
  | .hup =>
      match state.hup with
      | .calling pc => pc
      | _ => .returned
  | .round =>
      match state.round with
      | .calling pc => pc
      | .waiting => .returned

/-- The table cannot change under the SIGHUP goroutine. -/
structure HupHolds (trace : List AppEvent) (ctx : AppContext) (pc : SyncPc) :
    Prop where
  hupdating : pc ≠ .start → .updating .hup ctx.forwardingTableConfig ∈ trace
  hmarshal : ∀ ft rest read, pc = .marshal ft rest read →
    ∀ backend ∈ rest, backend ∈ ctx.forwardingTableConfig.backends

structure AppInvariant (trace : List AppEvent) (state : AppState) : Prop where
  hctx : ContextInvariant trace state.ctx
  hsync : ∀ goroutine,
    SyncHolds goroutine trace state.ctx (state.pc goroutine)
  hreads : ∀ goroutine ft rest read,
    state.pc goroutine = .marshal ft rest read →
      ReadsHold goroutine trace ft rest read
  hhup : ∀ pc, state.hup = .calling pc → HupHolds trace state.ctx pc

section App

variable {trace : List AppEvent} {state : AppState}

theorem AppInvariant.round_source_iff (hinv : AppInvariant trace state)
    (hpending : (state.pc .round).pending = []) (backend : BackendRef) :
    state.ctx.origin backend = .source ↔ RacyRead trace backend := by
  constructor
  · intro hsource
    have hnone : ∀ goroutine, .assigned goroutine backend ∉ trace :=
      fun goroutine hassigned =>
        (hinv.hctx.horigin backend).mpr ⟨goroutine, hassigned⟩ hsource
    refine ⟨fun ft hft hmem => ?_, hnone .hup⟩
    have hdone := (hinv.hsync .round).hdone ft hft backend hmem
    rw [hpending] at hdone
    rcases hdone with hdone | hdone
    · exact List.not_mem_nil hdone
    · exact hnone .round hdone
  · rintro ⟨hround, hhup⟩
    by_contra hsource
    obtain ⟨goroutine, hassigned⟩ :=
      (hinv.hctx.horigin backend).mp hsource
    cases goroutine with
    | hup => exact hhup hassigned
    | round =>
        obtain ⟨_, ft, hft, hmem⟩ :=
          hinv.hctx.hassigned .round backend hassigned
        exact hround ft hft hmem

theorem AppInvariant.hup_origin (hinv : AppInvariant trace state)
    {ft : GLBGlobalConfig BackendRef} {backend : BackendRef}
    {rest : List BackendRef} {read : List Reading}
    (hpc : state.hup = .calling (.marshal ft (backend :: rest) read)) :
    state.ctx.origin backend ≠ .source := by
  have hholds := hinv.hhup _ hpc
  have hsync := hinv.hsync .hup
  have hpcEq : state.pc .hup = .marshal ft (backend :: rest) read := by
    rw [AppState.pc, hpc]
  rw [hpcEq] at hsync
  have hmem := hholds.hmarshal _ _ _ rfl backend List.mem_cons_self
  have hupdating := hholds.hupdating SyncPc.noConfusion
  rcases hsync.hdone _ hupdating backend hmem with hpending | hassigned
  · exact absurd hpending List.not_mem_nil
  · exact (hinv.hctx.horigin backend).mpr ⟨.hup, hassigned⟩

/-- A read finds a flag of the source file only in a race. -/
theorem AppInvariant.source_iff (hinv : AppInvariant trace state)
    {goroutine : Goroutine} {ft : GLBGlobalConfig BackendRef}
    {backend : BackendRef} {rest : List BackendRef} {read : List Reading}
    (hpc : state.pc goroutine = .marshal ft (backend :: rest) read) :
    state.ctx.origin backend = .source ↔
      goroutine = .round ∧ RacyRead trace backend := by
  cases goroutine with
  | hup =>
      have hhup : state.hup = .calling (.marshal ft (backend :: rest) read) := by
        unfold AppState.pc at hpc
        cases hstate : state.hup with
        | calling pc =>
            rw [hstate] at hpc
            exact congrArg HupPc.calling hpc
        | _ =>
            rw [hstate] at hpc
            cases hpc
      refine ⟨fun hsource => absurd hsource (hinv.hup_origin hhup), ?_⟩
      rintro ⟨hround, _⟩
      cases hround
  | round =>
      rw [hinv.round_source_iff (by rw [hpc]; rfl) backend]
      exact (and_iff_right rfl).symm

theorem SyncStep.racyStore_iff {results : TargetMap HealthResult}
    {ctx ctx' : AppContext} {pc pc' : SyncPc} {event : AppEvent}
    (hstep : SyncStep .hup results ctx pc event ctx' pc')
    (trace : List AppEvent) :
    RacyStore (event :: trace) ↔ RacyStore trace := by
  cases hstep <;> exact Iff.rfl

theorem HupHolds.sync {results : TargetMap HealthResult}
    {ctx ctx' : AppContext} {pc pc' : SyncPc} {event : AppEvent}
    (hholds : HupHolds trace ctx pc)
    (hstep : SyncStep .hup results ctx pc event ctx' pc') :
    HupHolds (event :: trace) ctx' pc' := by
  have htable := hstep.forwardingTableConfig_eq
  constructor
  · intro _
    rw [htable]
    cases hstep with
    | lock => exact List.mem_cons_self
    | _ =>
        exact List.mem_cons_of_mem _ (hholds.hupdating SyncPc.noConfusion)
  · intro ft rest read hpc backend hmem
    rw [htable]
    cases hstep with
    | storeLock =>
        cases hpc
        exact hmem
    | read =>
        cases hpc
        exact hholds.hmarshal _ _ _ rfl backend
          (List.mem_cons_of_mem _ hmem)
    | _ => cases hpc

/-- A step of one goroutine in the call. -/
theorem AppInvariant.sync (hinv : AppInvariant trace state)
    {goroutine : Goroutine} {results : TargetMap HealthResult}
    {pc' : SyncPc} {event : AppEvent} {state' : AppState}
    (hstep : SyncStep goroutine results state.ctx (state.pc goroutine) event
      state'.ctx pc')
    (hpc' : state'.pc goroutine = pc')
    (hothers : ∀ other, other ≠ goroutine → state'.pc other = state.pc other)
    (hhup : ∀ pc, state'.hup = .calling pc →
      HupHolds (event :: trace) state'.ctx pc) :
    AppInvariant (event :: trace) state' := by
  constructor
  · exact hinv.hctx.sync (hinv.hsync goroutine) hstep
  · intro other
    by_cases hother : other = goroutine
    · rw [hother, hpc']
      exact (hinv.hsync goroutine).sync hinv.hctx hstep
    · rw [hothers other hother]
      exact (hinv.hsync other).frame hstep.evolves
        (hstep.event_ne_updating hother)
  · intro other ft rest read hmarshal
    by_cases hother : other = goroutine
    · subst hother
      rw [hpc'] at hmarshal
      generalize hpc : state.pc other = pc at hstep
      generalize hctx : state'.ctx = ctx' at hstep
      cases hstep with
      | storeLock =>
          cases hmarshal
          exact .start other trace _
      | read =>
          cases hmarshal
          exact (hinv.hreads other _ _ _ hpc).read hinv.hctx
            (hinv.source_iff hpc)
      | _ => cases hmarshal
    · rw [hothers other hother] at hmarshal
      refine (hinv.hreads other ft rest read hmarshal).frame fun hround => ?_
      have hgoroutine : goroutine = .hup := by
        cases goroutine with
        | hup => rfl
        | round => exact absurd hround hother
      rw [hgoroutine] at hstep
      exact hstep.racyStore_iff trace
  · exact hhup

theorem HupHolds.frame {ctx ctx' : AppContext} {pc : SyncPc}
    (hholds : HupHolds trace ctx pc) (event : AppEvent)
    (htable : ctx'.forwardingTableConfig = ctx.forwardingTableConfig) :
    HupHolds (event :: trace) ctx' pc := by
  constructor
  · rw [htable]
    exact fun hstart => List.mem_cons_of_mem event (hholds.hupdating hstart)
  · rw [htable]
    exact hholds.hmarshal

theorem HupHolds.start (trace : List AppEvent) (ctx : AppContext) :
    HupHolds trace ctx .start := by
  constructor
  · intro hstart
    exact absurd rfl hstart
  · intro ft rest read hpc
    cases hpc

/-- A step outside the call; a goroutine may enter it. -/
theorem AppInvariant.outside (hinv : AppInvariant trace state)
    {event : AppEvent} {state' : AppState}
    (hctx : ContextInvariant (event :: trace) state'.ctx)
    (hevolves : Evolves state.ctx state'.ctx)
    (hupdating : ∀ goroutine ft, event ≠ .updating goroutine ft)
    (hracy : RacyStore (event :: trace) ↔ RacyStore trace)
    (hpcs : ∀ goroutine, state'.pc goroutine = state.pc goroutine ∨
      state.pc goroutine = .returned ∧ state'.pc goroutine = .start)
    (hhup : ∀ pc, state'.hup = .calling pc →
      HupHolds (event :: trace) state'.ctx pc) :
    AppInvariant (event :: trace) state' := by
  constructor
  · exact hctx
  · intro goroutine
    have hsync := (hinv.hsync goroutine).frame hevolves (hupdating goroutine)
    rcases hpcs goroutine with hpc | ⟨hpc, hpc'⟩
    · rw [hpc]
      exact hsync
    · rw [hpc']
      rw [hpc] at hsync
      refine hsync.goto rfl fun targetResults backend healthy hcomputed => ?_
      cases hcomputed
  · intro goroutine ft rest read hmarshal
    rcases hpcs goroutine with hpc | ⟨_, hpc'⟩
    · rw [hpc] at hmarshal
      exact (hinv.hreads goroutine ft rest read hmarshal).frame fun _ => hracy
    · rw [hpc'] at hmarshal
      cases hmarshal
  · exact hhup

/-- A step outside the call that leaves the context alone. -/
theorem AppInvariant.aside (hinv : AppInvariant trace state)
    {event : AppEvent} {state' : AppState}
    (hctx : state'.ctx = state.ctx)
    (hevent : event = .silent ∨ ∃ inner, event = .manager inner)
    (hround : state'.pc .round = state.pc .round ∨
      state.pc .round = .returned ∧ state'.pc .round = .start)
    (hhup : state'.hup = state.hup ∨ state.pc .hup = .returned ∧
      (state'.hup = .calling .start ∨ ∀ pc, state'.hup ≠ .calling pc)) :
    AppInvariant (event :: trace) state' := by
  have hevolves : Evolves state.ctx state'.ctx := by
    rw [hctx]
    exact ⟨le_rfl, fun _ _ => rfl⟩
  refine hinv.outside ?_ hevolves ?_ ?_ ?_ ?_
  · rw [hctx]
    refine hinv.hctx.frame rfl rfl rfl rfl fun goroutine backend => ?_
    rcases hevent with rfl | ⟨inner, rfl⟩ <;> exact AppEvent.noConfusion
  · intro goroutine ft
    rcases hevent with rfl | ⟨inner, rfl⟩ <;> exact AppEvent.noConfusion
  · rcases hevent with rfl | ⟨inner, rfl⟩ <;> exact Iff.rfl
  · intro goroutine
    cases goroutine with
    | round => exact hround
    | hup =>
        rcases hhup with hsame | ⟨hpc, hstart | hidle⟩
        · exact .inl (by rw [AppState.pc, AppState.pc, hsame])
        · exact .inr ⟨hpc, by rw [AppState.pc, hstart]⟩
        · refine .inl (hpc ▸ ?_)
          unfold AppState.pc
          cases hstate : state'.hup with
          | calling pc => exact absurd hstate (hidle pc)
          | _ => rfl
  · intro pc hpc
    rcases hhup with hsame | ⟨_, hstart | hidle⟩
    · rw [hsame] at hpc
      exact (hinv.hhup pc hpc).frame event (congrArg _ hctx)
    · rw [hstart] at hpc
      cases hpc
      exact .start _ _
    · exact absurd hpc (hidle pc)

theorem AppInvariant.step (hinv : AppInvariant trace state)
    {thresholds : Thresholds} {event : AppEvent} {state' : AppState}
    (hstep : LiveStep thresholds state event state') :
    AppInvariant (event :: trace) state' := by
  cases hstep with
  | clock now =>
      refine hinv.outside (hinv.hctx.frame rfl rfl rfl rfl fun _ _ =>
        AppEvent.noConfusion) ⟨le_rfl, fun _ _ => rfl⟩
        (fun _ _ => AppEvent.noConfusion) Iff.rfl (fun goroutine => .inl ?_) ?_
      · cases goroutine <;> rfl
      · exact fun pc hpc => (hinv.hhup pc hpc).frame _ rfl
  | manager hstep hevent hblocked =>
      exact hinv.aside rfl (.inr ⟨_, rfl⟩) (.inl rfl) (.inl rfl)
  | roundComplete hphase hround =>
      refine hinv.aside rfl (.inr ⟨_, rfl⟩) (.inr ⟨?_, rfl⟩) (.inl rfl)
      rw [AppState.pc, hround]
  | @round pc _ _ _ hround hstep =>
      have hpc : state.pc .round = pc := by rw [AppState.pc, hround]
      rw [← hpc] at hstep
      refine hinv.sync hstep rfl (fun other hother => ?_) fun pc hhup => ?_
      · cases other with
        | hup => rfl
        | round => exact absurd rfl hother
      · exact (hinv.hhup pc hhup).frame _ hstep.forwardingTableConfig_eq
  | roundReturn hround =>
      refine hinv.aside rfl (.inl rfl) (.inl ?_) (.inl rfl)
      rw [AppState.pc, AppState.pc, hround]
  | signal hhup =>
      refine hinv.aside rfl (.inl rfl) (.inl rfl) (.inr ⟨?_, .inr ?_⟩)
      · rw [AppState.pc, hhup]
      · exact fun _ => HupPc.noConfusion
  | loadFailed hhup =>
      refine hinv.aside rfl (.inl rfl) (.inl rfl) (.inr ⟨?_, .inr ?_⟩)
      · rw [AppState.pc, hhup]
      · exact fun _ => HupPc.noConfusion
  | load config hhup =>
      refine hinv.aside rfl (.inl rfl) (.inl rfl) (.inr ⟨?_, .inr ?_⟩)
      · rw [AppState.pc, hhup]
      · exact fun _ => HupPc.noConfusion
  | swap hhup =>
      refine hinv.outside (hinv.hctx.load _) (evolves_load _ _)
        (fun _ _ => AppEvent.noConfusion) Iff.rfl (fun goroutine => .inl ?_)
        fun pc hpc => ?_
      · cases goroutine with
        | hup => rw [AppState.pc, AppState.pc, hhup]
        | round => rfl
      · cases hpc
  | syncTargets hhup hall hunique =>
      refine hinv.aside rfl (.inr ⟨_, rfl⟩) (.inl rfl) (.inr ⟨?_, ?_⟩)
      · rw [AppState.pc, hhup]
      · dsimp only
        split
        · exact .inl rfl
        · exact .inr fun _ => HupPc.noConfusion
  | @hup pc _ _ _ hhup hstep =>
      have hpc : state.pc .hup = pc := by rw [AppState.pc, hhup]
      have hholds := (hinv.hhup pc hhup).sync hstep
      rw [← hpc] at hstep
      refine hinv.sync hstep rfl (fun other hother => ?_) fun pc' hhup' => ?_
      · cases other with
        | hup => exact absurd rfl hother
        | round => rfl
      · cases hhup'
        exact hholds
  | hupReturn hhup =>
      refine hinv.aside rfl (.inl rfl) (.inl rfl) (.inr ⟨?_, .inr ?_⟩)
      · rw [AppState.pc, hhup]
      · exact fun _ => HupPc.noConfusion
  | panicTargets hhup hnil =>
      exact hinv.aside rfl (.inl rfl) (.inl rfl) (.inl rfl)
  | panicHealth hpc hnil =>
      exact hinv.aside rfl (.inl rfl) (.inl rfl) (.inl rfl)

theorem AppInvariant.initial (hstart : state.Initial) :
    AppInvariant [] state := by
  cases hstart with
  | @main config nextAllowed now file targets all hall hunique =>
      constructor
      · constructor
        · intro backend
          refine ⟨fun h => absurd rfl h, ?_⟩
          rintro ⟨_, hassigned⟩
          exact absurd hassigned List.not_mem_nil
        · intro backend targetResults horigin
          cases horigin
        · intro backend hbackend
          rw [allocate_load hbackend]
          exact Nat.zero_lt_one
        · intro _ _ hassigned
          exact absurd hassigned List.not_mem_nil
      · intro goroutine
        constructor
        · intro backend hpending
          cases goroutine <;> exact absurd hpending List.not_mem_nil
        · intro ft hft
          exact absurd hft List.not_mem_nil
        · intro _ _ _ hcomputed
          cases goroutine <;> cases hcomputed
      · intro goroutine _ _ _ hmarshal
        cases goroutine <;> cases hmarshal
      · intro pc hpc
        cases hpc

theorem AppInvariant.of_run {thresholds : Thresholds} {start : AppState}
    (hstart : start.Initial)
    (hrun : Run (AppStep thresholds) start trace state) :
    AppInvariant trace state := by
  induction hrun with
  | nil => exact .initial hstart
  | cons hrun hstep ih => exact ih.step hstep.2

theorem LiveStep.pc_of_wrote {thresholds : Thresholds} {goroutine : Goroutine}
    {ft : GLBGlobalConfig BackendRef} {read : List Reading}
    {left : Option (GLBGlobalConfig GLBBackend)} {event : AppEvent}
    {state' : AppState} (hstep : LiveStep thresholds state event state')
    (hevent : event = .wrote goroutine ft read left) :
    state.pc goroutine = .marshal ft [] read := by
  cases hstep with
  | round hround hstep =>
      cases hstep with
      | write =>
          cases hevent
          rw [AppState.pc, hround]
      | _ => cases hevent
  | hup hhup hstep =>
      cases hstep with
      | write =>
          cases hevent
          rw [AppState.pc, hhup]
      | _ => cases hevent
  | _ => cases hevent

end App

/-- Every write of `StoreCheckedForwardingTable` in every interleaving: the
backends it writes are those that were read, and all their flags were computed
from check results for this very table unless the round goroutine has been
ahead of the SIGHUP goroutine at a backend. -/
theorem published_flags_checked_iff {thresholds : Thresholds}
    {start state state' : AppState} {trace : List AppEvent}
    {goroutine : Goroutine} {ft : GLBGlobalConfig BackendRef}
    {read : List Reading} {left : Option (GLBGlobalConfig GLBBackend)}
    (hstart : start.Initial)
    (hrun : Run (AppStep thresholds) start trace state)
    (hwrite : AppStep thresholds state (.wrote goroutine ft read left)
      state') :
    (written ft read).backends = read.map Reading.backend ∧
    ((∀ reading ∈ read, reading.Checked) ↔
      (goroutine = .round → ¬ RacyStore trace)) := by
  have hinv := AppInvariant.of_run hstart hrun
  have hpc := hwrite.2.pc_of_wrote rfl
  have hreads := hinv.hreads goroutine ft [] read hpc
  refine ⟨written_backends hreads.hlength, ?_⟩
  rw [← not_and, ← hreads.hracy]
  constructor
  · rintro hchecked ⟨reading, hmem, hsource⟩
    obtain ⟨targetResults, horigin, _⟩ := hchecked reading hmem
    rw [hsource] at horigin
    cases horigin
  · intro hnone reading hmem
    rcases hreads.hreadings reading hmem with hsource | hchecked
    · exact absurd ⟨reading, hmem, hsource⟩ hnone
    · exact hchecked

/-! ## A table that is published unchecked -/

def emptyConfig : GLBGlobalConfig GLBBackend where
  healthcheckGlobalCfg := none
  tables := []

def emptyStart : AppState where
  ctx := .initial emptyConfig 0 0 (some emptyConfig)
  manager := setTargets [] .initial
  hup := .waiting
  round := .waiting
  panicked := false

theorem emptyStart_initial : emptyStart.Initial :=
  @AppState.Initial.main emptyConfig 0 0 (some emptyConfig) [] [] rfl
    ⟨List.nodup_nil, fun _ => Iff.rfl⟩

/-- A reload lands between the update and the store of the round goroutine. -/
theorem exists_overtaking_write :
    ∃ trace state state',
      Run (AppStep ⟨3, 3⟩) emptyStart trace state ∧
      AppStep ⟨3, 3⟩ state
        (.wrote .round (newConfig.allocate 1) [⟨newBackend, .source⟩]
          (some newConfig)) state' ∧
      newBackend.health state.manager.results = some false := by
  have hevent : ∀ targets, ManagerEvent.silent ≠ .setTargets targets :=
    fun _ => ManagerEvent.noConfusion
  have hstart : Run (AppStep ⟨3, 3⟩) emptyStart [] emptyStart := .nil
  have hlock := hstart.cons (And.intro rfl
    (.manager (.lock rfl) (fun _ => ManagerEvent.noConfusion) nofun))
  have hupdated := hlock.cons (And.intro rfl
    (.manager (.updated rfl) hevent nofun))
  have hcleaned := hupdated.cons (And.intro rfl
    (.manager (.cleaned rfl) hevent nofun))
  have hrequested := hcleaned.cons (And.intro rfl
    (.manager (.requested rfl) hevent nofun))
  have hwake := hrequested.cons (And.intro rfl
    (.manager (.wake rfl) hevent nofun))
  have hcollected := hwake.cons (And.intro rfl
    (.manager (.collected rfl) hevent nofun))
  have hpublish := hcollected.cons (And.intro rfl
    (.manager (.publish rfl) hevent nofun))
  have hround := hpublish.cons (And.intro rfl (.roundComplete rfl rfl))
  have hupdate := hround.cons (And.intro rfl (.round rfl .lock))
  have hresults := hupdate.cons (And.intro rfl (.round rfl .getResults))
  have hcheck := hresults.cons (And.intro rfl (.round rfl .updated))
  have hsignal := hcheck.cons (And.intro rfl (.signal rfl))
  have hload := hsignal.cons (And.intro rfl (.load newConfig rfl))
  have hswap := hload.cons (And.intro rfl (.swap rfl))
  have hclear := hswap.cons (And.intro rfl
    (.round rfl (.clear 0 rfl (by decide))))
  have hstore := hclear.cons (And.intro rfl (.round rfl .storeLock))
  have hread := hstore.cons (And.intro rfl (.round rfl .read))
  exact ⟨_, _, _, hread,
    And.intro rfl (.round rfl (.write (some newConfig))), rfl⟩

/-- The table is published with the flag of the source file although no check
has passed. -/
theorem unchecked_table_published :
    ∃ trace state state' reading,
      emptyStart.Initial ∧
      Run (AppStep ⟨3, 3⟩) emptyStart trace state ∧
      AppStep ⟨3, 3⟩ state
        (.wrote .round (newConfig.allocate 1) [reading] (some newConfig))
        state' ∧
      ¬ reading.Checked ∧ reading.backend.healthy = true ∧
      reading.backend.health state.manager.results = some false := by
  obtain ⟨trace, state, state', hrun, hwrite, hhealth⟩ :=
    exists_overtaking_write
  refine ⟨trace, state, state', ⟨newBackend, .source⟩, emptyStart_initial,
    hrun, hwrite, ?_, rfl, hhealth⟩
  rintro ⟨targetResults, horigin, _⟩
  cases horigin

theorem published_flags_checked_iff_newConfig :
    ∃ trace state, Run (AppStep ⟨3, 3⟩) emptyStart trace state ∧
      RacyStore trace := by
  obtain ⟨trace, state, state', hrun, hwrite, _⟩ := exists_overtaking_write
  refine ⟨trace, state, hrun, ?_⟩
  by_contra hracy
  have hchecked := (published_flags_checked_iff emptyStart_initial hrun
    hwrite).2.mpr fun _ => hracy
  obtain ⟨targetResults, horigin, _⟩ :=
    hchecked ⟨newBackend, .source⟩ List.mem_cons_self
  cases horigin

end GlbDirector
