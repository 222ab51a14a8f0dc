import GlbDirector.HealthSync
import GlbDirector.LabelledRuns

/-!
# Whether the destination holds the current table

With one caller of `SyncAndMaybeReload`, a clear dirty flag means that the
current table has been handed to the last write.  The flag is cleared before
the write and its error is dropped, so the destination holds the table exactly
if that write has left there what it was asked to, as it does while no write
fails.
-/

namespace GlbDirector

open LabelledRuns

/-! ## A single caller -/

structure CallerState where
  ctx : AppContext
  results : TargetMap HealthResult
  caller : CallerPc

/-- The steps of the caller, with reloads, new check results and any clock
times in between. -/
inductive CallerStep : CallerState → AppEvent → CallerState → Prop where
  | clock {state : CallerState} (now : ℤ) :
      CallerStep state .silent { state with ctx := { state.ctx with now } }
  | results {state : CallerState} (results : TargetMap HealthResult) :
      CallerStep state .silent { state with results }
  | load {state : CallerState} (config : GLBGlobalConfig GLBBackend) :
      CallerStep state .silent
        { state with ctx := state.ctx.loadForwardingTable config }
  | call {state : CallerState} (hcaller : state.caller = .waiting) :
      CallerStep state .silent { state with caller := .calling .start }
  | sync {state : CallerState} {pc pc' : SyncPc} {event : AppEvent}
      {ctx : AppContext} (hcaller : state.caller = .calling pc)
      (hstep : SyncStep .round state.results state.ctx pc event ctx pc') :
      CallerStep state event { state with ctx, caller := .calling pc' }
  | callReturn {state : CallerState}
      (hcaller : state.caller = .calling .returned) :
      CallerStep state .silent { state with caller := .waiting }

/-- The last write has left in the destination what it was asked to. -/
def WriteHeld : List AppEvent → Prop
  | [] => False
  | .wrote _ ft read left :: _ => left = some (written ft read)
  | _ :: past => WriteHeld past

/-! ## The invariant -/

def FileHolds (trace : List AppEvent) (ctx : AppContext) : Prop :=
  ctx.file = some ctx.current ↔ WriteHeld trace

/-- What a clear dirty flag means at each place. -/
def CleanHolds (trace : List AppEvent) (ctx : AppContext) : CallerPc → Prop
  | .calling .store => True
  | .calling (.marshal ft rest read) =>
      ft = ctx.forwardingTableConfig ∧
        read.map Reading.backend ++ rest.map ctx.backends =
          ft.backends.map ctx.backends
  | .calling (.assign _ backend healthy _) =>
      (ctx.backends backend).healthy = healthy ∧ FileHolds trace ctx
  | _ => FileHolds trace ctx

def StoreInvariant (trace : List AppEvent) (state : CallerState) : Prop :=
  state.ctx.dirty = false → CleanHolds trace state.ctx state.caller

theorem fillTables_map (f : BackendRef → GLBBackend)
    (tables : List (GLBTable BackendRef)) :
    fillTables tables ((tables.flatMap GLBTable.backends).map f) =
      tables.map (GLBTable.map f) := by
  induction tables with
  | nil => rfl
  | cons table tables ih =>
      have hlength : table.backends.length = (table.backends.map f).length :=
        (List.length_map f).symm
      rw [List.flatMap_cons, List.map_append, fillTables, hlength,
        List.take_left, List.drop_left, ih]
      rfl

theorem fill_map (config : GLBGlobalConfig BackendRef)
    (f : BackendRef → GLBBackend) :
    config.fill (config.backends.map f) = config.map f := by
  rw [GLBGlobalConfig.fill, GLBGlobalConfig.backends, fillTables_map]
  rfl

/-- An assignment of the flag that is there already. -/
theorem setHealthy_backends_of_eq {ctx : AppContext} {backend : BackendRef}
    {healthy : Bool} (targetResults : TargetMap HealthResult)
    (hsame : (ctx.backends backend).healthy = healthy) :
    (ctx.setHealthy backend healthy targetResults).backends =
      ctx.backends := by
  subst hsame
  exact Function.update_eq_self backend ctx.backends

section Steps

variable {trace : List AppEvent} {results : TargetMap HealthResult}
variable {ctx ctx' : AppContext} {pc pc' : SyncPc} {event : AppEvent}

theorem CleanHolds.write {ft : GLBGlobalConfig BackendRef}
    {read : List Reading} (left : Option (GLBGlobalConfig GLBBackend))
    (hholds : CleanHolds trace ctx (.calling (.marshal ft [] read))) :
    FileHolds (.wrote .round ft read left :: trace)
      { ctx with file := left } := by
  obtain ⟨hft, hread⟩ := hholds
  rw [List.map_nil, List.append_nil] at hread
  have hwritten : written ft read = ctx.current := by
    rw [written, hread, fill_map, hft]
    rfl
  show left = some ctx.current ↔ left = some (written ft read)
  rw [hwritten]

theorem CleanHolds.silent {caller : CallerPc} (now : ℤ)
    (hholds : CleanHolds trace ctx caller) :
    CleanHolds (.silent :: trace) { ctx with now } caller := by
  cases caller with
  | waiting => exact hholds
  | calling pc => cases pc <;> exact hholds

theorem CleanHolds.sync
    (hholds : ctx.dirty = false → CleanHolds trace ctx (.calling pc))
    (hstep : SyncStep .round results ctx pc event ctx' pc')
    (hclean : ctx'.dirty = false) :
    CleanHolds (event :: trace) ctx' (.calling pc') := by
  cases hstep with
  | mark => cases hclean
  | clear later hdirty hfree => trivial
  | storeLock => exact ⟨rfl, rfl⟩
  | same hhealth hsame => exact ⟨hsame, hholds hclean⟩
  | read =>
      obtain ⟨hft, hread⟩ := hholds hclean
      refine ⟨hft, ?_⟩
      rw [← hread, List.map_append, List.append_assoc]
      rfl
  | write left => exact (hholds hclean).write left
  | @assign targetResults backend rest healthy =>
      obtain ⟨hsame, hfile⟩ := hholds hclean
      have hbackends := setHealthy_backends_of_eq targetResults hsame
      show ctx.file = some (ctx.forwardingTableConfig.map
        (ctx.setHealthy backend healthy targetResults).backends) ↔
          WriteHeld trace
      rw [hbackends]
      exact hfile
  | _ => exact hholds hclean

theorem StoreInvariant.step {state state' : CallerState}
    (hinv : StoreInvariant trace state)
    (hstep : CallerStep state event state') :
    StoreInvariant (event :: trace) state' := by
  intro hclean
  cases hstep with
  | clock now => exact (hinv hclean).silent now
  | results results => exact (hinv hclean).silent state.ctx.now
  | load config => cases hclean
  | call hcaller =>
      have hholds := hinv hclean
      rw [hcaller] at hholds
      exact hholds
  | sync hcaller hstep =>
      refine CleanHolds.sync (fun hdirty => ?_) hstep hclean
      have hholds := hinv hdirty
      rw [hcaller] at hholds
      exact hholds
  | callReturn hcaller =>
      have hholds := hinv hclean
      rw [hcaller] at hholds
      exact hholds

end Steps

/-- The caller when the goroutines start. -/
def CallerState.initial (config : GLBGlobalConfig GLBBackend)
    (nextAllowedDirtyClear now : ℤ)
    (file : Option (GLBGlobalConfig GLBBackend))
    (results : TargetMap HealthResult) : CallerState where
  ctx := .initial config nextAllowedDirtyClear now file
  results := results
  caller := .waiting

theorem StoreInvariant.of_run {config : GLBGlobalConfig GLBBackend}
    {nextAllowed now : ℤ} {file : Option (GLBGlobalConfig GLBBackend)}
    {results : TargetMap HealthResult} {trace : List AppEvent}
    {state : CallerState}
    (hrun : Run CallerStep (.initial config nextAllowed now file results)
      trace state) :
    StoreInvariant trace state := by
  induction hrun with
  | nil =>
      intro hclean
      cases hclean
  | cons hrun hstep ih => exact ih.step hstep

/-- When a call returns with a clear dirty flag, the destination holds the
current table exactly if the last write has left there what it was asked to. -/
theorem destination_current_iff {config : GLBGlobalConfig GLBBackend}
    {nextAllowed now : ℤ} {file : Option (GLBGlobalConfig GLBBackend)}
    {results : TargetMap HealthResult} {trace : List AppEvent}
    {state : CallerState}
    (hrun : Run CallerStep (.initial config nextAllowed now file results)
      trace state)
    (hreturned : state.caller = .calling .returned) :
    (state.ctx.dirty = false →
      state.ctx.file = some state.ctx.current) ↔
    (state.ctx.dirty = false → WriteHeld trace) := by
  apply imp_congr_right
  intro hclean
  have hholds := StoreInvariant.of_run hrun hclean
  rw [hreturned] at hholds
  exact hholds

/-! ## Writes that do not fail -/

/-- Every write so far has left what it was asked to. -/
def WritesSucceed (trace : List AppEvent) : Prop :=
  ∀ goroutine ft read left,
    .wrote goroutine ft read left ∈ trace → left = some (written ft read)

def Wrote (trace : List AppEvent) : Prop :=
  ∃ goroutine ft read left, .wrote goroutine ft read left ∈ trace

theorem Wrote.cons {trace : List AppEvent} (hwrote : Wrote trace)
    (event : AppEvent) : Wrote (event :: trace) := by
  obtain ⟨goroutine, ft, read, left, hmem⟩ := hwrote
  exact ⟨goroutine, ft, read, left, List.mem_cons_of_mem event hmem⟩

theorem WritesSucceed.writeHeld {trace : List AppEvent}
    (hsucceed : WritesSucceed trace) (hwrote : Wrote trace) :
    WriteHeld trace := by
  induction trace with
  | nil =>
      obtain ⟨_, _, _, _, hmem⟩ := hwrote
      cases hmem
  | cons event trace ih =>
      cases event with
      | wrote goroutine ft read left =>
          exact hsucceed goroutine ft read left List.mem_cons_self
      | _ =>
          refine ih (fun goroutine ft read left hmem =>
            hsucceed goroutine ft read left (List.mem_cons_of_mem _ hmem)) ?_
          obtain ⟨goroutine, ft, read, left, hmem⟩ := hwrote
          exact ⟨goroutine, ft, read, left,
            (List.mem_cons.mp hmem).resolve_left nofun⟩

/-- A write is under way: the flag has been cleared for it. -/
def CallerPc.Storing : CallerPc → Prop
  | .calling .store | .calling (.marshal _ _ _) => True
  | _ => False

/-- The flag is set at the start and is cleared only on the way to a write. -/
def WroteBefore (trace : List AppEvent) (state : CallerState) : Prop :=
  state.ctx.dirty = false → Wrote trace ∨ state.caller.Storing

theorem SyncStep.wroteBefore {trace : List AppEvent}
    {results : TargetMap HealthResult} {ctx ctx' : AppContext}
    {pc pc' : SyncPc} {event : AppEvent}
    (hbefore : ctx.dirty = false →
      Wrote trace ∨ (CallerPc.calling pc).Storing)
    (hstep : SyncStep .round results ctx pc event ctx' pc')
    (hclean : ctx'.dirty = false) :
    Wrote (event :: trace) ∨ (CallerPc.calling pc').Storing := by
  cases hstep with
  | mark => cases hclean
  | clear later hdirty hfree => exact Or.inr trivial
  | storeLock => exact Or.inr trivial
  | read => exact Or.inr trivial
  | write left => exact Or.inl ⟨_, _, _, left, List.mem_cons_self⟩
  | _ => exact Or.inl (((hbefore hclean).resolve_right id).cons _)

theorem WroteBefore.step {trace : List AppEvent} {event : AppEvent}
    {state state' : CallerState} (hbefore : WroteBefore trace state)
    (hstep : CallerStep state event state') :
    WroteBefore (event :: trace) state' := by
  intro hclean
  cases hstep with
  | clock now => exact (hbefore hclean).imp_left fun hwrote => hwrote.cons _
  | results results =>
      exact (hbefore hclean).imp_left fun hwrote => hwrote.cons _
  | load config => cases hclean
  | call hcaller =>
      have hwrote := hbefore hclean
      rw [hcaller] at hwrote
      exact Or.inl ((hwrote.resolve_right id).cons _)
  | sync hcaller hstep =>
      refine hstep.wroteBefore (fun hdirty => ?_) hclean
      have hwrote := hbefore hdirty
      rw [hcaller] at hwrote
      exact hwrote
  | callReturn hcaller =>
      have hwrote := hbefore hclean
      rw [hcaller] at hwrote
      exact Or.inl ((hwrote.resolve_right id).cons _)

section Runs

variable {config : GLBGlobalConfig GLBBackend} {nextAllowed now : ℤ}
variable {file : Option (GLBGlobalConfig GLBBackend)}
variable {results : TargetMap HealthResult} {trace : List AppEvent}
variable {state : CallerState}

theorem WroteBefore.of_run
    (hrun : Run CallerStep (.initial config nextAllowed now file results)
      trace state) :
    WroteBefore trace state := by
  induction hrun with
  | nil =>
      intro hclean
      cases hclean
  | cons hrun hstep ih => exact ih.step hstep

/-- While no write fails, a call that returns with a clear dirty flag leaves
the current table in the destination. -/
theorem destination_current_of_writesSucceed
    (hrun : Run CallerStep (.initial config nextAllowed now file results)
      trace state)
    (hreturned : state.caller = .calling .returned)
    (hsucceed : WritesSucceed trace) (hclean : state.ctx.dirty = false) :
    state.ctx.file = some state.ctx.current := by
  have hholds := StoreInvariant.of_run hrun hclean
  have hwrote := WroteBefore.of_run hrun hclean
  rw [hreturned] at hholds hwrote
  exact hholds.mpr (hsucceed.writeHeld (hwrote.resolve_right id))

end Runs

/-! ## A write that fails -/

/-- The loaded table once the check of its backend has failed. -/
def downConfig : GLBGlobalConfig GLBBackend :=
  newConfig.map fun backend => { backend with healthy := false }

/-- The first call finds the backend down and writes, with any outcome. -/
theorem exists_first_call
    (left : Option (GLBGlobalConfig GLBBackend)) :
    ∃ trace state,
      Run CallerStep (.initial newConfig 0 0 (some newConfig) ∅) trace state ∧
      state.caller = .calling .returned ∧
      state.ctx.dirty = false ∧
      state.ctx.file = left ∧
      state.ctx.current = downConfig ∧
      (WriteHeld trace ↔ left = some downConfig) := by
  have hstart : Run CallerStep (.initial newConfig 0 0 (some newConfig) ∅) []
    (.initial newConfig 0 0 (some newConfig) ∅) := .nil
  have hcall := hstart.cons (.call rfl)
  have hlock := hcall.cons (.sync rfl .lock)
  have hresults := hlock.cons (.sync rfl .getResults)
  have hdiffers := hresults.cons
    (.sync rfl (@SyncStep.differs _ _ _ _ ⟨0, 0, 0⟩ [] false rfl (by decide)))
  have hmark := hdiffers.cons (.sync rfl .mark)
  have hassign := hmark.cons (.sync rfl .assign)
  have hupdated := hassign.cons (.sync rfl .updated)
  have hclear := hupdated.cons (.sync rfl (.clear 0 rfl (by decide)))
  have hstore := hclear.cons (.sync rfl .storeLock)
  have hread := hstore.cons (.sync rfl .read)
  have hwrite := hread.cons (.sync rfl (.write left))
  have hreload := hwrite.cons (.sync rfl .reload)
  exact ⟨_, _, hreload, rfl, rfl, rfl, rfl, Iff.rfl⟩

/-- A write fails and leaves the old file: the dirty flag is clear, and the
backend is still listed as healthy. -/
theorem failed_write_loses_change :
    ∃ trace state,
      Run CallerStep (.initial newConfig 0 0 (some newConfig) ∅) trace state ∧
      state.caller = .calling .returned ∧
      state.ctx.dirty = false ∧
      state.ctx.file = some newConfig ∧
      state.ctx.current = downConfig ∧
      state.ctx.file ≠ some state.ctx.current := by
  obtain ⟨trace, state, hrun, hreturned, hclean, hfile, hcurrent, _⟩ :=
    exists_first_call (some newConfig)
  refine ⟨trace, state, hrun, hreturned, hclean, hfile, hcurrent, ?_⟩
  rw [hfile, hcurrent]
  decide

theorem destination_current_iff_downConfig :
    ∃ trace state,
      Run CallerStep (.initial newConfig 0 0 (some newConfig) ∅) trace state ∧
      state.ctx.dirty = false ∧
      state.ctx.file = some state.ctx.current := by
  obtain ⟨trace, state, hrun, hreturned, hclean, _, _, hheld⟩ :=
    exists_first_call (some downConfig)
  have hwrite := hheld.mpr rfl
  exact ⟨trace, state, hrun, hclean,
    (destination_current_iff hrun hreturned).mpr (fun _ => hwrite) hclean⟩

end GlbDirector
