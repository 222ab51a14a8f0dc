import GlbDirector.ConfigReload

/-!
# The control loop and the processor loops

`ConfigReload` takes a reload request as one step.  Here the loops take it as
the source does: the control loop reads `director_stop`, then reads
`reload_requested`, resets it, and loads the file, and signals may arrive
between any two of these.  Messages come from a pool of 0xff and wait on rings
of size 0x10.  Every run of the loops is a run of the reloads.
-/

namespace GlbDirector

open RefLedger

def msgPoolSize : ℕ := 0xff

/-- A ring created with size 0x10 holds one message less. -/
def controlMsgRingCapacity : ℕ := 0x10 - 1

/-! ## A processor loop -/

inductive LcorePc where
  | polling
  | dequeued (newConfigCtx : ℕ)
  | dropped (newConfigCtx : ℕ)
  | installed
  | checkingStop
  | returned
  deriving DecidableEq

structure LcoreCtx where
  configCtx : ℕ
  controlMsgRing : List ℕ
  directorStop : Bool
  pc : LcorePc
  deriving DecidableEq

inductive LcoreEffect where
  | none
  | decref (configCtx : ℕ)
  | mempoolPut
  deriving DecidableEq

/-- The next step through `processor_base_workload`. -/
def LcoreCtx.next (ctx : LcoreCtx) : Option (LcoreEffect × LcoreCtx) :=
  match ctx.pc, ctx.controlMsgRing with
  | .polling, [] => some (.none, { ctx with pc := .checkingStop })
  | .polling, new :: rest =>
      some (.none, { ctx with controlMsgRing := rest, pc := .dequeued new })
  | .dequeued new, _ =>
      some (.decref ctx.configCtx, { ctx with pc := .dropped new })
  | .dropped new, _ =>
      some (.none, { ctx with configCtx := new, pc := .installed })
  | .installed, _ => some (.mempoolPut, { ctx with pc := .checkingStop })
  | .checkingStop, _ =>
      some (.none,
        { ctx with pc := if ctx.directorStop then .returned else .polling })
  | .returned, _ => none

def LcoreCtx.stop (ctx : LcoreCtx) : LcoreCtx :=
  { ctx with directorStop := true }

def LcoreCtx.enqueue (ctx : LcoreCtx) (newConfigCtx : ℕ) : LcoreCtx :=
  { ctx with controlMsgRing := ctx.controlMsgRing ++ [newConfigCtx] }

/-- The steps of the loop, by the calls they make. -/
inductive LcoreMove (ctx : LcoreCtx) : LcoreEffect → LcoreCtx → Prop where
  | ringEmpty (hpc : ctx.pc = .polling) (hring : ctx.controlMsgRing = []) :
      LcoreMove ctx .none { ctx with pc := .checkingStop }
  | readStop (hpc : ctx.pc = .checkingStop) :
      LcoreMove ctx .none
        { ctx with pc := if ctx.directorStop then .returned else .polling }
  | ringDequeue (new : ℕ) (rest : List ℕ) (hpc : ctx.pc = .polling)
      (hring : ctx.controlMsgRing = new :: rest) :
      LcoreMove ctx .none
        { ctx with controlMsgRing := rest, pc := .dequeued new }
  | dropOld (new : ℕ) (hpc : ctx.pc = .dequeued new) :
      LcoreMove ctx (.decref ctx.configCtx) { ctx with pc := .dropped new }
  | install (new : ℕ) (hpc : ctx.pc = .dropped new) :
      LcoreMove ctx .none { ctx with configCtx := new, pc := .installed }
  | mempoolPut (hpc : ctx.pc = .installed) :
      LcoreMove ctx .mempoolPut { ctx with pc := .checkingStop }

theorem LcoreCtx.next_move {ctx ctx' : LcoreCtx} {effect : LcoreEffect}
    (hnext : ctx.next = some (effect, ctx')) : LcoreMove ctx effect ctx' := by
  unfold LcoreCtx.next at hnext
  split at hnext
  · rename_i hpc hring
    cases hnext
    exact .ringEmpty hpc hring
  · rename_i new rest hpc hring
    cases hnext
    exact .ringDequeue new rest hpc hring
  · rename_i hpc
    cases hnext
    exact .dropOld _ hpc
  · rename_i hpc
    cases hnext
    exact .install _ hpc
  · rename_i hpc
    cases hnext
    exact .mempoolPut hpc
  · rename_i hpc
    cases hnext
    exact .readStop hpc
  · cases hnext

/-! ## The control loop -/

inductive ControlLoopPc (n : ℕ) where
  | top
  | checked
  | requested
  | reset
  | sending (newConfigCtx core : ℕ)
  | holding (newConfigCtx : ℕ) (core : Fin n)
  | prepared (newConfigCtx : ℕ) (core : Fin n)
  | refused (newConfigCtx : ℕ) (core : Fin n)
  | stopping (core : ℕ)
  | stopped
  | exited
  deriving DecidableEq

/-- The contents of the file and of each context are the number of times the
file had been rewritten.  The last two fields are history: what the file was
at the last SIGUSR1, and which cores were passed over by the last send. -/
structure DirectorLoops (n : ℕ) where
  file : ℕ
  directorStop : Bool
  reloadRequested : Bool
  msgPool : ℕ
  configs : Cells ℕ
  loaded : ℕ
  contents : ℕ → ℕ
  control : ControlLoopPc n
  lcoreContexts : Fin n → LcoreCtx
  signalled : ℕ
  missed : Fin n → Bool

namespace DirectorLoops

variable {n : ℕ}

/-- The loops as `main` launches them; a core without a workload returns at
once. -/
def launch (busy : Fin n → Bool) : DirectorLoops n where
  file := 0
  directorStop := false
  reloadRequested := false
  msgPool := msgPoolSize
  configs := (initialState n).configs
  loaded := 1
  contents := fun _ => 0
  control := .top
  lcoreContexts := fun core =>
    ⟨0, [], false, if busy core then .polling else .returned⟩
  signalled := 0
  missed := fun _ => false

def withLcore (s : DirectorLoops n) (core : Fin n) (ctx : LcoreCtx) :
    DirectorLoops n :=
  { s with lcoreContexts := Function.update s.lcoreContexts core ctx }

def withMissed (s : DirectorLoops n) (core : Fin n) (missed : Bool) :
    DirectorLoops n :=
  { s with missed := Function.update s.missed core missed }

def apply (s : DirectorLoops n) : LcoreEffect → DirectorLoops n
  | .none => s
  | .decref configCtx => { s with configs := s.configs.decref configCtx }
  | .mempoolPut => { s with msgPool := s.msgPool + 1 }

def lcoreNext (s : DirectorLoops n) (core : Fin n) :
    Option (DirectorLoops n) :=
  (s.lcoreContexts core).next.map fun result =>
    (s.apply result.1).withLcore core result.2

theorem lcoreNext_move {s s' : DirectorLoops n} {core : Fin n}
    (hnext : s.lcoreNext core = some s') :
    ∃ effect ctx', LcoreMove (s.lcoreContexts core) effect ctx' ∧
      s' = (s.apply effect).withLcore core ctx' := by
  obtain ⟨⟨effect, ctx'⟩, hctx, hs'⟩ := Option.map_eq_some_iff.mp hnext
  exact ⟨effect, ctx', LcoreCtx.next_move hctx, hs'.symm⟩

theorem withLcore_self (s : DirectorLoops n) (core : Fin n)
    (ctx : LcoreCtx) : (s.withLcore core ctx).lcoreContexts core = ctx :=
  Function.update_self _ _ _

theorem withLcore_of_ne (s : DirectorLoops n) {core other : Fin n}
    (hne : other ≠ core) (ctx : LcoreCtx) :
    (s.withLcore core ctx).lcoreContexts other = s.lcoreContexts other :=
  Function.update_of_ne hne _ _

theorem withMissed_self (s : DirectorLoops n) (core : Fin n)
    (missed : Bool) : (s.withMissed core missed).missed core = missed :=
  Function.update_self _ _ _

theorem withMissed_of_ne (s : DirectorLoops n) {core other : Fin n}
    (hne : other ≠ core) (missed : Bool) :
    (s.withMissed core missed).missed other = s.missed other :=
  Function.update_of_ne hne _ _

theorem apply_lcoreContexts (s : DirectorLoops n) (effect : LcoreEffect) :
    (s.apply effect).lcoreContexts = s.lcoreContexts := by
  cases effect <;> rfl

/-- What holds of every core and of the changed one holds of every core. -/
theorem forall_withLcore {s : DirectorLoops n}
    (property : LcoreCtx → Prop) {core : Fin n} {ctx : LcoreCtx}
    (hall : ∀ other, property (s.lcoreContexts other))
    (hctx : property ctx) (other : Fin n) :
    property ((s.withLcore core ctx).lcoreContexts other) := by
  by_cases hother : other = core
  · rw [hother, withLcore_self]
    exact hctx
  · rw [withLcore_of_ne s hother]
    exact hall other

/-- The next step of `main_loop_control`; `valid` tells which files
`create_glb_fwd_config` accepts, and it exits on the others. -/
def controlNext (valid : ℕ → Bool) (s : DirectorLoops n) :
    Option (DirectorLoops n) :=
  match s.control with
  | .top =>
      some { s with
        control := if s.directorStop then .stopping 0 else .checked }
  | .stopping core =>
      if h : core < n then
        some ({ s with control := .stopping (core + 1) }.withLcore ⟨core, h⟩
          (s.lcoreContexts ⟨core, h⟩).stop)
      else some { s with control := .stopped }
  | .stopped => none
  | .checked =>
      some { s with
        control := if s.reloadRequested then .requested else .top }
  | .requested =>
      some { s with reloadRequested := false, control := .reset }
  | .reset =>
      if valid s.file then
        some { s with
          configs := s.configs.create s.loaded
          contents := Function.update s.contents s.loaded s.file
          loaded := s.loaded + 1
          control := .sending s.loaded 0 }
      else some { s with control := .exited }
  | .exited => none
  | .sending new core =>
      if h : core < n then
        if s.msgPool = 0 then
          some ({ s with control := .sending new (core + 1) }.withMissed
            ⟨core, h⟩ true)
        else
          some { s with
            msgPool := s.msgPool - 1
            control := .holding new ⟨core, h⟩ }
      else some { s with configs := s.configs.decref new, control := .top }
  | .holding new core =>
      some { s with
        configs := s.configs.incref new
        control := .prepared new core }
  | .prepared new core =>
      if (s.lcoreContexts core).controlMsgRing.length <
          controlMsgRingCapacity then
        some (({ s with control := .sending new (core + 1) }.withLcore core
          ((s.lcoreContexts core).enqueue new)).withMissed core false)
      else some ({ s with control := .refused new core }.withMissed core true)
  | .refused new core =>
      some { s with
        msgPool := s.msgPool + 1
        control := .sending new (core + 1) }

/-- The steps of the control loop, by the calls they make. -/
inductive ControlMove (valid : ℕ → Bool) (s : DirectorLoops n) :
    DirectorLoops n → Prop where
  | readStop (hcontrol : s.control = .top) :
      ControlMove valid s { s with
        control := if s.directorStop then .stopping 0 else .checked }
  | stopLcore (core : Fin n) (hcontrol : s.control = .stopping core) :
      ControlMove valid s
        ({ s with control := .stopping (core + 1) }.withLcore core
          (s.lcoreContexts core).stop)
  | stop (core : ℕ) (hcontrol : s.control = .stopping core)
      (hcore : n ≤ core) :
      ControlMove valid s { s with control := .stopped }
  | readRequest (hcontrol : s.control = .checked) :
      ControlMove valid s { s with
        control := if s.reloadRequested then .requested else .top }
  | resetRequest (hcontrol : s.control = .requested) :
      ControlMove valid s { s with
        reloadRequested := false, control := .reset }
  | load (hcontrol : s.control = .reset) (hvalid : valid s.file = true) :
      ControlMove valid s { s with
        configs := s.configs.create s.loaded
        contents := Function.update s.contents s.loaded s.file
        loaded := s.loaded + 1
        control := .sending s.loaded 0 }
  | exit (hcontrol : s.control = .reset) (hinvalid : valid s.file = false) :
      ControlMove valid s { s with control := .exited }
  | mempoolGet (new : ℕ) (core : Fin n)
      (hcontrol : s.control = .sending new core) (hpool : s.msgPool ≠ 0) :
      ControlMove valid s { s with
        msgPool := s.msgPool - 1, control := .holding new core }
  | mempoolGetFails (new : ℕ) (core : Fin n)
      (hcontrol : s.control = .sending new core) (hpool : s.msgPool = 0) :
      ControlMove valid s
        ({ s with control := .sending new (core + 1) }.withMissed core true)
  | incref (new : ℕ) (core : Fin n)
      (hcontrol : s.control = .holding new core) :
      ControlMove valid s { s with
        configs := s.configs.incref new, control := .prepared new core }
  | ringEnqueue (new : ℕ) (core : Fin n)
      (hcontrol : s.control = .prepared new core)
      (hring : (s.lcoreContexts core).controlMsgRing.length <
        controlMsgRingCapacity) :
      ControlMove valid s
        (({ s with control := .sending new (core + 1) }.withLcore core
          ((s.lcoreContexts core).enqueue new)).withMissed core false)
  | ringEnqueueFails (new : ℕ) (core : Fin n)
      (hcontrol : s.control = .prepared new core)
      (hring : controlMsgRingCapacity ≤
        (s.lcoreContexts core).controlMsgRing.length) :
      ControlMove valid s
        ({ s with control := .refused new core }.withMissed core true)
  | mempoolPut (new : ℕ) (core : Fin n)
      (hcontrol : s.control = .refused new core) :
      ControlMove valid s { s with
        msgPool := s.msgPool + 1, control := .sending new (core + 1) }
  | decref (new core : ℕ) (hcontrol : s.control = .sending new core)
      (hcore : n ≤ core) :
      ControlMove valid s { s with
        configs := s.configs.decref new, control := .top }

theorem controlNext_move {valid : ℕ → Bool} {s s' : DirectorLoops n}
    (hnext : s.controlNext valid = some s') : ControlMove valid s s' := by
  unfold controlNext at hnext
  split at hnext
  · rename_i hcontrol
    obtain rfl := Option.some.inj hnext
    exact .readStop hcontrol
  · rename_i core hcontrol
    split at hnext
    · rename_i hcore
      obtain rfl := Option.some.inj hnext
      exact .stopLcore ⟨core, hcore⟩ hcontrol
    · rename_i hcore
      obtain rfl := Option.some.inj hnext
      exact .stop core hcontrol (Nat.le_of_not_lt hcore)
  · cases hnext
  · rename_i hcontrol
    obtain rfl := Option.some.inj hnext
    exact .readRequest hcontrol
  · rename_i hcontrol
    obtain rfl := Option.some.inj hnext
    exact .resetRequest hcontrol
  · rename_i hcontrol
    split at hnext
    · rename_i hvalid
      obtain rfl := Option.some.inj hnext
      exact .load hcontrol hvalid
    · rename_i hinvalid
      obtain rfl := Option.some.inj hnext
      exact .exit hcontrol (Bool.eq_false_iff.mpr hinvalid)
  · cases hnext
  · rename_i new core hcontrol
    split at hnext
    · rename_i hcore
      split at hnext
      · rename_i hpool
        obtain rfl := Option.some.inj hnext
        exact .mempoolGetFails new ⟨core, hcore⟩ hcontrol hpool
      · rename_i hpool
        obtain rfl := Option.some.inj hnext
        exact .mempoolGet new ⟨core, hcore⟩ hcontrol hpool
    · rename_i hcore
      obtain rfl := Option.some.inj hnext
      exact .decref new core hcontrol (Nat.le_of_not_lt hcore)
  · rename_i new core hcontrol
    obtain rfl := Option.some.inj hnext
    exact .incref new core hcontrol
  · rename_i new core hcontrol
    split at hnext
    · rename_i hring
      obtain rfl := Option.some.inj hnext
      exact .ringEnqueue new core hcontrol hring
    · rename_i hring
      obtain rfl := Option.some.inj hnext
      exact .ringEnqueueFails new core hcontrol (Nat.le_of_not_lt hring)
  · rename_i new core hcontrol
    obtain rfl := Option.some.inj hnext
    exact .mempoolPut new core hcontrol

/-- No loop is on its way out. -/
structure Running (s : DirectorLoops n) : Prop where
  directorStop : s.directorStop = false
  control : s.control ≠ .stopped ∧ s.control ≠ .exited ∧
    ∀ core, s.control ≠ .stopping core
  lcores : ∀ core, (s.lcoreContexts core).directorStop = false ∧
    (s.lcoreContexts core).pc ≠ .returned

theorem Running.controlNext {s : DirectorLoops n} (hrunning : s.Running)
    (valid : ℕ → Bool) : ∃ s', s.controlNext valid = some s' := by
  obtain ⟨hstopped, hexited, hstopping⟩ := hrunning.control
  cases hnext : s.controlNext valid with
  | some s' => exact ⟨s', rfl⟩
  | none =>
      exfalso
      unfold DirectorLoops.controlNext at hnext
      split at hnext
      · cases hnext
      · rename_i core hcontrol
        exact hstopping core hcontrol
      · rename_i hcontrol
        exact hstopped hcontrol
      · cases hnext
      · cases hnext
      · split at hnext <;> cases hnext
      · rename_i hcontrol
        exact hexited hcontrol
      · split at hnext
        · split at hnext <;> cases hnext
        · cases hnext
      · cases hnext
      · split at hnext <;> cases hnext
      · cases hnext

theorem Running.lcoreNext {s : DirectorLoops n} (hrunning : s.Running)
    (core : Fin n) : ∃ s', s.lcoreNext core = some s' := by
  have hpc := (hrunning.lcores core).2
  have hnext : ∃ result, (s.lcoreContexts core).next = some result := by
    unfold LcoreCtx.next
    cases hcontrol : (s.lcoreContexts core).pc with
    | returned => exact absurd hcontrol hpc
    | polling =>
        cases (s.lcoreContexts core).controlMsgRing with
        | nil => exact ⟨_, rfl⟩
        | cons new rest => exact ⟨_, rfl⟩
    | _ => exact ⟨_, rfl⟩
  obtain ⟨result, hresult⟩ := hnext
  exact ⟨_, by rw [DirectorLoops.lcoreNext, hresult]; rfl⟩

theorem Running.controlMove {s s' : DirectorLoops n} (hrunning : s.Running)
    (hmove : s.ControlMove (fun _ => true) s') : s'.Running := by
  have hstopping := hrunning.control.2.2
  cases hmove with
  | readStop hcontrol =>
      rw [if_neg (by rw [hrunning.directorStop]; decide)]
      exact ⟨hrunning.directorStop, by simp, hrunning.lcores⟩
  | stopLcore core hcontrol => exact absurd hcontrol (hstopping core)
  | stop core hcontrol hcore => exact absurd hcontrol (hstopping core)
  | readRequest hcontrol =>
      refine ⟨hrunning.directorStop, ?_, hrunning.lcores⟩
      by_cases hrequested : s.reloadRequested = true
      · simp [hrequested]
      · simp [hrequested]
  | exit hcontrol hinvalid => cases hinvalid
  | ringEnqueue new core hcontrol hring =>
      refine ⟨hrunning.directorStop, by simp [withMissed, withLcore], ?_⟩
      exact forall_withLcore (fun ctx => ctx.directorStop = false ∧
        ctx.pc ≠ .returned) hrunning.lcores (hrunning.lcores core)
  | mempoolGetFails new core hcontrol hpool =>
      exact ⟨hrunning.directorStop, by simp [withMissed], hrunning.lcores⟩
  | ringEnqueueFails new core hcontrol hring =>
      exact ⟨hrunning.directorStop, by simp [withMissed], hrunning.lcores⟩
  | _ => exact ⟨hrunning.directorStop, by simp, hrunning.lcores⟩

theorem Running.lcoreMove {s s' : DirectorLoops n} (hrunning : s.Running)
    {core : Fin n} (hnext : s.lcoreNext core = some s') : s'.Running := by
  obtain ⟨effect, ctx', hmove, rfl⟩ := lcoreNext_move hnext
  have hctx : ctx'.directorStop = false ∧ ctx'.pc ≠ .returned := by
    obtain ⟨hstop, hpc⟩ := hrunning.lcores core
    cases hmove with
    | readStop => exact ⟨hstop, by simp [hstop]⟩
    | _ => exact ⟨hstop, by simp⟩
  have happly : (s.apply effect).Running := by
    cases effect with
    | none => exact hrunning
    | decref configCtx =>
        exact ⟨hrunning.directorStop, hrunning.control, hrunning.lcores⟩
    | mempoolPut =>
        exact ⟨hrunning.directorStop, hrunning.control, hrunning.lcores⟩
  refine ⟨happly.directorStop, happly.control, ?_⟩
  exact forall_withLcore (fun ctx => ctx.directorStop = false ∧
    ctx.pc ≠ .returned) happly.lcores hctx

end DirectorLoops

inductive LoopEvent (n : ℕ) where
  | writeFile
  | reloadSignal
  | stopSignal
  | control
  | lcore (core : Fin n)
  deriving DecidableEq

/-- One step of a loop, of `signal_handler` or of whoever writes the file. -/
def LoopStep {n : ℕ} (valid : ℕ → Bool) (s : DirectorLoops n) :
    LoopEvent n → DirectorLoops n → Prop
  | .writeFile, s' => s' = { s with file := s.file + 1 }
  | .reloadSignal, s' =>
      s' = { s with reloadRequested := true, signalled := s.file }
  | .stopSignal, s' => s' = { s with directorStop := true }
  | .control, s' => s.controlNext valid = some s'
  | .lcore core, s' =>
      s.control ≠ .exited ∧ s.lcoreNext core = some s'

def LoopReachable {n : ℕ} (valid : ℕ → Bool) (start s : DirectorLoops n) :
    Prop :=
  Relation.ReflTransGen (fun s s' => ∃ event, LoopStep valid s event s')
    start s

/-! ## The loops carry out the reloads -/

section Refinement

variable {n : ℕ} {valid : ℕ → Bool}

def LcoreCtx.processor (ctx : LcoreCtx) : ProcessorCtx where
  configCtx := ctx.configCtx
  controlMsgRing := ctx.controlMsgRing
  pc :=
    match ctx.pc with
    | .dequeued new => .dequeued new
    | .dropped new => .dropped new
    | _ => .polling

def ControlLoopPc.reload : ControlLoopPc n → ControlPc
  | .sending new core => .sending new core
  | .holding new core => .sending new core
  | .prepared new core => .prepared new core
  | .refused new core => .sending new (core + 1)
  | _ => .idle

/-- The request has been read and the file has not. -/
def ControlLoopPc.Taken : ControlLoopPc n → Bool
  | .requested => true
  | .reset => true
  | .exited => true
  | _ => false

def DirectorLoops.reload (s : DirectorLoops n) : ReloadState n where
  configs := s.configs
  loaded := s.loaded
  reloadRequested := s.reloadRequested || s.control.Taken
  control := s.control.reload
  lcoreContexts := fun core => (s.lcoreContexts core).processor

theorem reload_withLcore (s : DirectorLoops n) (core : Fin n)
    (ctx : LcoreCtx) :
    (s.withLcore core ctx).reload = s.reload.withCore core ctx.processor := by
  have hcontexts : (fun other => (Function.update s.lcoreContexts core ctx
        other).processor) =
      Function.update (fun other => (s.lcoreContexts other).processor) core
        ctx.processor :=
    Function.comp_update LcoreCtx.processor s.lcoreContexts core ctx
  simp only [DirectorLoops.reload, DirectorLoops.withLcore,
    ReloadState.withCore, hcontexts]

theorem reload_withLcore_of_eq (s : DirectorLoops n) {core : Fin n}
    {ctx : LcoreCtx}
    (hctx : ctx.processor = (s.lcoreContexts core).processor) :
    (s.withLcore core ctx).reload = s.reload := by
  rw [reload_withLcore, hctx]
  exact congrArg (fun contexts => { s.reload with lcoreContexts := contexts })
    (Function.update_eq_self core _)

theorem reload_lcoreNext {s s' : DirectorLoops n} {core : Fin n}
    (hnext : s.lcoreNext core = some s') :
    Relation.ReflTransGen ReloadStep s.reload s'.reload := by
  obtain ⟨effect, ctx', hmove, rfl⟩ := DirectorLoops.lcoreNext_move hnext
  cases hmove with
  | ringEmpty hpc hring =>
      have hctx : LcoreCtx.processor
          { s.lcoreContexts core with pc := .checkingStop } =
            (s.lcoreContexts core).processor := by
        simp only [LcoreCtx.processor, hpc]
      have hsame := reload_withLcore_of_eq (s.apply .none) hctx
      rw [hsame]
      exact .refl
  | readStop hpc =>
      have hctx : LcoreCtx.processor { s.lcoreContexts core with
          pc := if (s.lcoreContexts core).directorStop then .returned
            else .polling } = (s.lcoreContexts core).processor := by
        simp only [LcoreCtx.processor, hpc]
        cases (s.lcoreContexts core).directorStop <;> rfl
      have hsame := reload_withLcore_of_eq (s.apply .none) hctx
      rw [hsame]
      exact .refl
  | ringDequeue new rest hpc hring =>
      rw [reload_withLcore]
      exact .single (.ringDequeue s.reload core new rest
        (by simp only [DirectorLoops.reload, LcoreCtx.processor, hpc]) hring)
  | dropOld new hpc =>
      rw [reload_withLcore]
      exact .single (.dropOld s.reload core new
        (by simp only [DirectorLoops.reload, LcoreCtx.processor, hpc]))
  | install new hpc =>
      rw [reload_withLcore]
      exact .single (.install s.reload core new
        (by simp only [DirectorLoops.reload, LcoreCtx.processor, hpc]))
  | mempoolPut hpc =>
      have hctx : LcoreCtx.processor
          { s.lcoreContexts core with pc := .checkingStop } =
            (s.lcoreContexts core).processor := by
        simp only [LcoreCtx.processor, hpc]
      have hsame := reload_withLcore_of_eq (s.apply .mempoolPut) hctx
      rw [hsame]
      exact .refl

/-- The core that the control loop is at lies among the cores. -/
def ControlLoopPc.InRange : ControlLoopPc n → Prop
  | .sending _ core => core ≤ n
  | _ => True

/-- Steps that the reloads do not see. -/
theorem reload_turn {s s' : DirectorLoops n}
    (hconfigs : s'.configs = s.configs) (hloaded : s'.loaded = s.loaded)
    (hcontexts : s'.lcoreContexts = s.lcoreContexts)
    (hrequested : (s'.reloadRequested || s'.control.Taken) =
      (s.reloadRequested || s.control.Taken))
    (hcontrol : s'.control.reload = s.control.reload) :
    Relation.ReflTransGen ReloadStep s.reload s'.reload := by
  have hsame : s'.reload = s.reload := by
    simp only [DirectorLoops.reload, hconfigs, hloaded, hcontexts, hrequested,
      hcontrol]
  rw [hsame]

/-- The separate read, reset and load of a request are one load, and a signal
between them is one after it. -/
theorem reload_controlMove {s s' : DirectorLoops n}
    (hrange : s.control.InRange) (hmove : s.ControlMove valid s') :
    Relation.ReflTransGen ReloadStep s.reload s'.reload := by
  have hpc : s.reload.control = s.control.reload := rfl
  have hflag : s.reload.reloadRequested =
      (s.reloadRequested || s.control.Taken) := rfl
  cases hmove with
  | readStop hcontrol =>
      refine reload_turn rfl rfl rfl ?_ ?_
      · rw [hcontrol]
        cases s.directorStop <;> rfl
      · rw [hcontrol]
        cases s.directorStop <;> rfl
  | stopLcore core hcontrol =>
      have hctx : (s.lcoreContexts core).stop.processor =
        (s.lcoreContexts core).processor := rfl
      have hsame := reload_withLcore_of_eq
        { s with control := .stopping (core + 1) } hctx
      rw [hsame]
      refine reload_turn rfl rfl rfl ?_ ?_
      · rw [hcontrol]
        rfl
      · rw [hcontrol]
        rfl
  | stop core hcontrol hcore =>
      refine reload_turn rfl rfl rfl ?_ ?_
      · rw [hcontrol]
        rfl
      · rw [hcontrol]
        rfl
  | readRequest hcontrol =>
      refine reload_turn rfl rfl rfl ?_ ?_
      · rw [hcontrol]
        cases s.reloadRequested <;> rfl
      · rw [hcontrol]
        cases s.reloadRequested <;> rfl
  | resetRequest hcontrol =>
      refine reload_turn rfl rfl rfl ?_ ?_
      · rw [hcontrol]
        cases s.reloadRequested <;> rfl
      · rw [hcontrol]
        rfl
  | load hcontrol hvalid =>
      rw [hcontrol] at hpc hflag
      have hload := ReloadStep.loadGlbFwdConfig s.reload hpc
        (hflag.trans (Bool.or_true _))
      cases hrequested : s.reloadRequested with
      | false =>
          refine .single ?_
          simp only [DirectorLoops.reload, hrequested] at hload ⊢
          exact hload
      | true =>
          refine .head hload (.single ?_)
          have hsignal := ReloadStep.signalHandler { s.reload with
            configs := s.reload.configs.create s.reload.loaded
            loaded := s.reload.loaded + 1
            reloadRequested := false
            control := .sending s.reload.loaded 0 }
          simp only [DirectorLoops.reload, hrequested] at hsignal ⊢
          exact hsignal
  | exit hcontrol hinvalid =>
      refine reload_turn rfl rfl rfl ?_ ?_
      · rw [hcontrol]
        rfl
      · rw [hcontrol]
        rfl
  | mempoolGet new core hcontrol hpool =>
      refine reload_turn rfl rfl rfl ?_ ?_
      · rw [hcontrol]
        rfl
      · rw [hcontrol]
        rfl
  | mempoolGetFails new core hcontrol hpool =>
      rw [hcontrol] at hpc
      refine .single ?_
      have hfails := ReloadStep.mempoolGetFails s.reload new core hpc core.2
      simp only [DirectorLoops.reload, hcontrol] at hfails ⊢
      exact hfails
  | incref new core hcontrol =>
      rw [hcontrol] at hpc
      refine .single ?_
      have hincref := ReloadStep.incref s.reload new core hpc core.2
      simp only [DirectorLoops.reload, hcontrol] at hincref ⊢
      exact hincref
  | ringEnqueue new core hcontrol hring =>
      rw [hcontrol] at hpc
      refine .single ?_
      have henqueue := ReloadStep.ringEnqueue s.reload new core hpc
      have hsame := reload_withLcore
        { s with control := .sending new (core + 1) } core
        ((s.lcoreContexts core).enqueue new)
      have hmissed : (({ s with control := .sending new (core + 1)
          }.withLcore core ((s.lcoreContexts core).enqueue new)).withMissed
            core false).reload = ({ s with control := .sending new (core + 1)
          }.withLcore core ((s.lcoreContexts core).enqueue new)).reload := rfl
      rw [hmissed, hsame]
      simp only [DirectorLoops.reload, hcontrol] at henqueue ⊢
      exact henqueue
  | ringEnqueueFails new core hcontrol hring =>
      rw [hcontrol] at hpc
      refine .single ?_
      have hfails := ReloadStep.ringEnqueueFails s.reload new core hpc
      simp only [DirectorLoops.reload, hcontrol] at hfails ⊢
      exact hfails
  | mempoolPut new core hcontrol =>
      refine reload_turn rfl rfl rfl ?_ ?_
      · rw [hcontrol]
        rfl
      · rw [hcontrol]
        rfl
  | decref new core hcontrol hcore =>
      rw [hcontrol] at hpc hrange
      have hend : core = n := le_antisymm hrange hcore
      rw [hend] at hpc
      refine .single ?_
      have hdecref := ReloadStep.decref s.reload new hpc
      simp only [DirectorLoops.reload, hcontrol] at hdecref ⊢
      exact hdecref

theorem ControlMove.inRange {s s' : DirectorLoops n}
    (hmove : s.ControlMove valid s') : s'.control.InRange := by
  cases hmove with
  | readStop => cases h : s.directorStop <;> trivial
  | readRequest => cases h : s.reloadRequested <;> trivial
  | load => exact Nat.zero_le n
  | mempoolGetFails new core => exact core.2
  | ringEnqueue new core => exact core.2
  | mempoolPut new core => exact core.2
  | _ => trivial

theorem lcoreNext_control {s s' : DirectorLoops n} {core : Fin n}
    (hnext : s.lcoreNext core = some s') : s'.control = s.control := by
  obtain ⟨effect, ctx', _, rfl⟩ := DirectorLoops.lcoreNext_move hnext
  cases effect <;> rfl

theorem LoopStep.reload {s s' : DirectorLoops n} {event : LoopEvent n}
    (hstep : LoopStep valid s event s') (hrange : s.control.InRange) :
    s'.control.InRange ∧
      Relation.ReflTransGen ReloadStep s.reload s'.reload := by
  cases event with
  | writeFile =>
      obtain rfl := hstep
      exact ⟨hrange, .refl⟩
  | reloadSignal =>
      obtain rfl := hstep
      refine ⟨hrange, .single ?_⟩
      exact .signalHandler s.reload
  | stopSignal =>
      obtain rfl := hstep
      exact ⟨hrange, .refl⟩
  | control =>
      have hmove := DirectorLoops.controlNext_move hstep
      exact ⟨ControlMove.inRange hmove, reload_controlMove hrange hmove⟩
  | lcore core =>
      refine ⟨?_, reload_lcoreNext hstep.2⟩
      rw [lcoreNext_control hstep.2]
      exact hrange

theorem launch_reload (busy : Fin n → Bool) :
    (DirectorLoops.launch busy).reload = initialState n := by
  have hcontexts : (DirectorLoops.launch busy).reload.lcoreContexts =
      (initialState n).lcoreContexts := by
    funext core
    show LcoreCtx.processor ⟨0, [], false, _⟩ = ⟨0, [], .polling⟩
    cases busy core <;> rfl
  calc
    (DirectorLoops.launch busy).reload =
        { initialState n with
          lcoreContexts :=
            (DirectorLoops.launch busy).reload.lcoreContexts } := rfl
    _ = initialState n := by rw [hcontexts]

/-- Whatever the loops do, in whatever order, is a run of the reloads. -/
theorem loops_refine_reloads
    {busy : Fin n → Bool}
    {s : DirectorLoops n}
    (hreach : LoopReachable valid (.launch busy) s) :
    Reachable (initialState n) s.reload := by
  have hboth : s.control.InRange ∧ Reachable (initialState n) s.reload := by
    induction hreach with
    | refl =>
        rw [launch_reload]
        exact ⟨trivial, .refl⟩
    | tail _ hlast ih =>
        obtain ⟨event, hstep⟩ := hlast
        obtain ⟨hrange, hrun⟩ := hstep.reload ih.1
        exact ⟨hrange, ih.2.trans hrun⟩
  exact hboth.2

end Refinement

/-! ## Two loops that take turns -/

/-- The file has been rewritten and the signal sent. -/
def signalledLoops : DirectorLoops 1 :=
  { DirectorLoops.launch fun _ => true with
    file := 1
    reloadRequested := true
    signalled := 1 }

def turnEvent (k : ℕ) : LoopEvent 1 :=
  if k % 2 = 0 then .control else .lcore 0

def turnState : ℕ → DirectorLoops 1
  | 0 => signalledLoops
  | k + 1 =>
      if k % 2 = 0 then
        ((turnState k).controlNext fun _ => true).getD (turnState k)
      else ((turnState k).lcoreNext 0).getD (turnState k)

theorem turnState_step {k : ℕ} (hrunning : (turnState k).Running) :
    LoopStep (fun _ => true) (turnState k) (turnEvent k)
        (turnState (k + 1)) ∧ (turnState (k + 1)).Running := by
  by_cases heven : k % 2 = 0
  · obtain ⟨s', hnext⟩ := hrunning.controlNext fun _ => true
    have hs' : turnState (k + 1) = s' := by
      rw [turnState, if_pos heven, hnext, Option.getD_some]
    rw [turnEvent, if_pos heven, hs']
    exact ⟨hnext,
      hrunning.controlMove (DirectorLoops.controlNext_move hnext)⟩
  · obtain ⟨s', hnext⟩ := hrunning.lcoreNext 0
    have hs' : turnState (k + 1) = s' := by
      rw [turnState, if_neg heven, hnext, Option.getD_some]
    rw [turnEvent, if_neg heven, hs']
    exact ⟨⟨hrunning.control.2.1, hnext⟩, hrunning.lcoreMove hnext⟩

theorem turnState_running (k : ℕ) : (turnState k).Running := by
  induction k with
  | zero => exact ⟨rfl, by simp [turnState, signalledLoops,
      DirectorLoops.launch], fun core => ⟨rfl, by simp [turnState,
        signalledLoops, DirectorLoops.launch]⟩⟩
  | succ k ih => exact (turnState_step ih).2

theorem turnState_reachable (k : ℕ) :
    LoopReachable (fun _ => true) (.launch fun _ => true) (turnState k) := by
  induction k with
  | zero => exact .tail (.single ⟨.writeFile, rfl⟩) ⟨.reloadSignal, rfl⟩
  | succ k ih =>
      exact ih.tail ⟨turnEvent k, (turnState_step (turnState_running k)).1⟩

theorem loops_refine_reloads_sending :
    (turnState 7).control = .sending 1 0 ∧
      Reachable (initialState 1) (turnState 7).reload :=
  ⟨rfl, loops_refine_reloads (turnState_reachable 7)⟩

end GlbDirector
