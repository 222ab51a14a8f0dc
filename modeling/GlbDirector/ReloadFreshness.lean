import GlbDirector.LabelledRuns
import GlbDirector.ReloadOrder

/-!
# Every reload request reaches the cores

After the last SIGUSR1 every core that keeps polling comes to a table at least
as new as the file was then, and keeps it, unless the control loop had to pass
the core over.  A signal that arrives while a request is being handled is
answered too, since the flag is reset before the file is read.
-/

namespace GlbDirector

open LabelledRuns DirectorLoops

section Loops

variable {n : ℕ} {valid : ℕ → Bool} {s s' : DirectorLoops n}

/-! ## Requests are answered -/

/-- How many cores the context that is being sent has come to. -/
def ControlLoopPc.reached : ControlLoopPc n → ℕ
  | .sending _ core => core
  | .holding _ core => core
  | .prepared _ core => core
  | .refused _ core => core + 1
  | _ => n

/-- The first `count` cores have or will have a table as new as the last
signal, unless they were passed over. -/
def DirectorLoops.Served (s : DirectorLoops n) (count : ℕ) : Prop :=
  ∀ core : Fin n, core < count → s.missed core = true ∨
    s.signalled ≤ s.contents (s.lcoreContexts core).newest

/-- The last signal will be read, has been read, or has been answered. -/
def DirectorLoops.Answered (s : DirectorLoops n) : Prop :=
  s.reloadRequested = true ∨ s.control.Taken = true ∨
    (∀ new, s.control.newConfigCtx = some new →
      s.signalled ≤ s.contents new) ∧ s.Served s.control.reached

theorem launch_answered (busy : Fin n → Bool) :
    (DirectorLoops.launch busy).Answered :=
  .inr (.inr ⟨fun _ _ => le_rfl, fun _ _ => .inr le_rfl⟩)

/-- A step that leaves the newest context of every core as it is. -/
theorem DirectorLoops.Answered.turn (hanswered : s.Answered)
    (hrequested : s.reloadRequested = true → s'.reloadRequested = true)
    (htaken : s.control.Taken = true → s'.control.Taken = true)
    (hcontents : s'.contents = s.contents)
    (hsignalled : s'.signalled = s.signalled)
    (hmissed : ∀ core, s.missed core = true → s'.missed core = true)
    (hnewest : ∀ core, (s'.lcoreContexts core).newest =
      (s.lcoreContexts core).newest)
    (hnew : ∀ new, s'.control.newConfigCtx = some new →
      s.control.newConfigCtx = some new)
    (hreached : ∀ core : Fin n, core < s'.control.reached →
      core < s.control.reached ∨ s'.missed core = true) : s'.Answered := by
  rcases hanswered with hflag | hread | ⟨hsent, hserved⟩
  · exact .inl (hrequested hflag)
  · exact .inr (.inl (htaken hread))
  · refine .inr (.inr ⟨fun new hsame => ?_, fun core hcore => ?_⟩)
    · rw [hsignalled, hcontents]
      exact hsent new (hnew new hsame)
    · rw [hsignalled, hcontents, hnewest]
      rcases hreached core hcore with hbefore | hpassed
      · exact (hserved core hbefore).imp_left (hmissed core)
      · exact .inl hpassed

theorem answered_lcoreNext {core : Fin n} (hanswered : s.Answered)
    (hnext : s.lcoreNext core = some s') : s'.Answered := by
  obtain ⟨effect, ctx', hmove, rfl⟩ := DirectorLoops.lcoreNext_move hnext
  have hnewest : ∀ other, (((s.apply effect).withLcore core
      ctx').lcoreContexts other).newest =
        (s.lcoreContexts other).newest := by
    intro other
    by_cases hother : other = core
    · rw [hother, withLcore_self]
      exact hmove.newest
    · rw [withLcore_of_ne _ hother, apply_lcoreContexts]
  cases effect with
  | none =>
      exact hanswered.turn id id rfl rfl (fun _ => id) hnewest
        (fun _ => id) (fun _ => .inl)
  | decref configCtx =>
      exact hanswered.turn id id rfl rfl (fun _ => id) hnewest
        (fun _ => id) (fun _ => .inl)
  | mempoolPut =>
      exact hanswered.turn id id rfl rfl (fun _ => id) hnewest
        (fun _ => id) (fun _ => .inl)

/-- A step of the control loop alone. -/
theorem DirectorLoops.Answered.control (hanswered : s.Answered)
    (hrequested : s'.reloadRequested = s.reloadRequested)
    (hread : s.control.Taken = false)
    (hcontents : s'.contents = s.contents)
    (hsignalled : s'.signalled = s.signalled)
    (hmissed : ∀ core, s.missed core = true → s'.missed core = true)
    (hcontexts : s'.lcoreContexts = s.lcoreContexts)
    (hnew : ∀ new, s'.control.newConfigCtx = some new →
      s.control.newConfigCtx = some new)
    (hreached : ∀ core : Fin n, core < s'.control.reached →
      core < s.control.reached ∨ s'.missed core = true) : s'.Answered := by
  refine hanswered.turn ?_ ?_ hcontents hsignalled hmissed ?_ hnew hreached
  · rw [hrequested]
    exact id
  · rw [hread]
    intro htaken
    cases htaken
  · rw [hcontexts]
    exact fun _ => rfl

theorem withMissed_keeps (s : DirectorLoops n) (core other : Fin n)
    (hmissed : s.missed other = true) :
    (s.withMissed core true).missed other = true := by
  by_cases hother : other = core
  · rw [hother, withMissed_self]
  · rw [withMissed_of_ne s hother]
    exact hmissed

theorem withMissed_reached (s : DirectorLoops n) {core other : Fin n}
    (hother : (other : ℕ) < core + 1) :
    (other : ℕ) < core ∨ (s.withMissed core true).missed other = true := by
  rcases Nat.lt_succ_iff_lt_or_eq.mp hother with hlt | hsame
  · exact .inl hlt
  · rw [Fin.ext hsame, withMissed_self]
    exact .inr rfl

theorem answered_enqueue {new : ℕ} {core : Fin n} (hanswered : s.Answered)
    (hcontrol : s.control = .prepared new core) :
    (({ s with control := .sending new (core + 1) }.withLcore core
      ((s.lcoreContexts core).enqueue new)).withMissed core
        false).Answered := by
  rcases hanswered with hflag | hread | ⟨hsent, hserved⟩
  · exact .inl hflag
  · rw [hcontrol] at hread
    cases hread
  · rw [hcontrol] at hsent hserved
    refine .inr (.inr ⟨hsent, fun other hother => ?_⟩)
    rcases Nat.lt_succ_iff_lt_or_eq.mp hother with hlt | hsame
    · have hne : other ≠ core := fun heq => hlt.ne (congrArg Fin.val heq)
      rw [withMissed_of_ne _ hne]
      show _ ∨ s.signalled ≤ s.contents ((DirectorLoops.withLcore _ core
        _).lcoreContexts other).newest
      rw [withLcore_of_ne _ hne]
      exact hserved other hlt
    · right
      rw [Fin.ext hsame]
      show s.signalled ≤ s.contents ((DirectorLoops.withLcore _ core
        _).lcoreContexts core).newest
      rw [withLcore_self, LcoreCtx.newest_enqueue]
      exact hsent new rfl

theorem answered_controlMove (horder : s.InOrder) (hanswered : s.Answered)
    (hmove : s.ControlMove valid s') : s'.Answered := by
  cases hmove with
  | readStop hcontrol =>
      refine hanswered.control rfl (by rw [hcontrol]; rfl) rfl rfl
        (fun _ => id) rfl ?_ ?_
      · intro new hnew
        cases hstop : s.directorStop with
        | true => simp [hstop, ControlLoopPc.newConfigCtx] at hnew
        | false => simp [hstop, ControlLoopPc.newConfigCtx] at hnew
      · intro core _
        rw [hcontrol]
        exact .inl core.2
  | stopLcore core hcontrol =>
      refine hanswered.turn id ?_ rfl rfl (fun _ => id) ?_
        (fun _ hnew => by cases hnew) ?_
      · rw [hcontrol]
        exact id
      · intro other
        by_cases hother : other = core
        · rw [hother, withLcore_self]
          rfl
        · rw [withLcore_of_ne _ hother]
      · intro other _
        rw [hcontrol]
        exact .inl other.2
  | stop core hcontrol hcore =>
      refine hanswered.control rfl (by rw [hcontrol]; rfl) rfl rfl
        (fun _ => id) rfl (fun _ hnew => by cases hnew) ?_
      intro other _
      rw [hcontrol]
      exact .inl other.2
  | readRequest hcontrol =>
      by_cases hrequested : s.reloadRequested = true
      · exact .inl hrequested
      · rw [if_neg hrequested]
        refine hanswered.control rfl (by rw [hcontrol]; rfl) rfl rfl
          (fun _ => id) rfl (fun _ hnew => by cases hnew) ?_
        intro core _
        rw [hcontrol]
        exact .inl core.2
  | resetRequest hcontrol => exact .inr (.inl rfl)
  | load hcontrol hvalid =>
      refine .inr (.inr ⟨fun new hnew => ?_, fun core hcore => ?_⟩)
      · obtain rfl := Option.some.inj hnew
        show s.signalled ≤ Function.update s.contents s.loaded s.file s.loaded
        rw [Function.update_self]
        exact horder.signalled
      · cases hcore
  | exit hcontrol hinvalid => exact .inr (.inl rfl)
  | mempoolGet new core hcontrol hpool =>
      refine hanswered.control rfl (by rw [hcontrol]; rfl) rfl rfl
        (fun _ => id) rfl ?_ ?_
      · rw [hcontrol]
        exact fun _ => id
      · rw [hcontrol]
        exact fun _ => .inl
  | mempoolGetFails new core hcontrol hpool =>
      refine hanswered.control rfl (by rw [hcontrol]; rfl) rfl rfl
        (withMissed_keeps s core) rfl ?_ ?_
      · rw [hcontrol]
        exact fun _ => id
      · rw [hcontrol]
        exact fun _ => withMissed_reached s
  | incref new core hcontrol =>
      refine hanswered.control rfl (by rw [hcontrol]; rfl) rfl rfl
        (fun _ => id) rfl ?_ ?_
      · rw [hcontrol]
        exact fun _ => id
      · rw [hcontrol]
        exact fun _ => .inl
  | ringEnqueue new core hcontrol hring =>
      exact answered_enqueue hanswered hcontrol
  | ringEnqueueFails new core hcontrol hring =>
      refine hanswered.control rfl (by rw [hcontrol]; rfl) rfl rfl
        (withMissed_keeps s core) rfl ?_ ?_
      · rw [hcontrol]
        exact fun _ => id
      · rw [hcontrol]
        exact fun _ => withMissed_reached s
  | mempoolPut new core hcontrol =>
      refine hanswered.control rfl (by rw [hcontrol]; rfl) rfl rfl
        (fun _ => id) rfl ?_ ?_
      · rw [hcontrol]
        exact fun _ => id
      · rw [hcontrol]
        exact fun _ => .inl
  | decref new core hcontrol hcore =>
      refine hanswered.control rfl (by rw [hcontrol]; rfl) rfl rfl
        (fun _ => id) rfl (fun _ hnew => by cases hnew) ?_
      intro other _
      rw [hcontrol]
      exact .inl (other.2.trans_le hcore)

theorem LoopStep.answered {event : LoopEvent n}
    (hstep : LoopStep valid s event s') (horder : s.InOrder)
    (hanswered : s.Answered) : s'.Answered := by
  cases event with
  | writeFile =>
      obtain rfl := hstep
      exact hanswered
  | reloadSignal =>
      obtain rfl := hstep
      exact .inl rfl
  | stopSignal =>
      obtain rfl := hstep
      exact hanswered
  | control =>
      exact answered_controlMove horder hanswered
        (DirectorLoops.controlNext_move hstep)
  | lcore core => exact answered_lcoreNext hanswered hstep.2

theorem LoopReachable.answered {busy : Fin n → Bool}
    (hreach : LoopReachable valid (.launch busy) s) : s.Answered := by
  have hboth : s.InOrder ∧ s.Answered := by
    induction hreach with
    | refl => exact ⟨launch_inOrder busy, launch_answered busy⟩
    | tail _ hlast ih =>
        obtain ⟨event, hstep⟩ := hlast
        exact ⟨hstep.inOrder ih.1, hstep.answered ih.1 ih.2⟩
  exact hboth.2

/-! ## Work left -/

def LcorePc.work : LcorePc → ℕ
  | .dequeued _ => 3
  | .dropped _ => 2
  | .installed => 1
  | _ => 0

/-- A message on the ring is four steps away from the pool. -/
def LcoreCtx.work (ctx : LcoreCtx) : ℕ :=
  4 * ctx.controlMsgRing.length + ctx.pc.work

/-- A request that the control loop has still to read. -/
def DirectorLoops.requestWork (s : DirectorLoops n) : ℕ :=
  if s.reloadRequested then 10 * n + 5 else 0

def ControlLoopPc.work (request : ℕ) : ControlLoopPc n → ℕ
  | .requested => 10 * n + 4
  | .reset => request + (10 * n + 2)
  | .sending _ core => request + (10 * (n - core) + 1)
  | .holding _ core => request + 10 * (n - core)
  | .prepared _ core => request + (10 * (n - core) - 1)
  | .refused _ core => request + (10 * (n - core) - 2)
  | .stopping core => request + (n - core + 1)
  | _ => request

def DirectorLoops.work (s : DirectorLoops n) : ℕ :=
  s.control.work s.requestWork + s.lcoreTotal LcoreCtx.work

/-- The steps of loops that have nothing to do. -/
inductive IdleStep (s : DirectorLoops n) :
    LoopEvent n → DirectorLoops n → Prop where
  | writeFile : IdleStep s .writeFile { s with file := s.file + 1 }
  | readStop (hcontrol : s.control = .top) :
      IdleStep s .control { s with control := .checked }
  | readRequest (hcontrol : s.control = .checked)
      (hrequested : s.reloadRequested = false) :
      IdleStep s .control { s with control := .top }
  | ringEmpty (core : Fin n) (hpc : (s.lcoreContexts core).pc = .polling)
      (hring : (s.lcoreContexts core).controlMsgRing = []) :
      IdleStep s (.lcore core) (s.withLcore core
        { s.lcoreContexts core with pc := .checkingStop })
  | lcoreReadStop (core : Fin n)
      (hpc : (s.lcoreContexts core).pc = .checkingStop) :
      IdleStep s (.lcore core) (s.withLcore core
        { s.lcoreContexts core with
          pc := if (s.lcoreContexts core).directorStop then .returned
            else .polling })

theorem LcoreMove.work {ctx ctx' : LcoreCtx} {effect : LcoreEffect}
    (hmove : LcoreMove ctx effect ctx') :
    ctx'.work < ctx.work ∨ ctx'.work = ctx.work ∧ effect = .none ∧
      ((ctx.pc = .polling ∧ ctx.controlMsgRing = [] ∧
          ctx' = { ctx with pc := .checkingStop }) ∨
        (ctx.pc = .checkingStop ∧ ctx' = { ctx with
          pc := if ctx.directorStop then .returned else .polling })) := by
  cases hmove with
  | ringEmpty hpc hring =>
      refine .inr ⟨?_, rfl, .inl ⟨hpc, hring, rfl⟩⟩
      rw [LcoreCtx.work, LcoreCtx.work, hpc]
      rfl
  | readStop hpc =>
      refine .inr ⟨?_, rfl, .inr ⟨hpc, rfl⟩⟩
      rw [LcoreCtx.work, LcoreCtx.work, hpc]
      cases ctx.directorStop <;> rfl
  | ringDequeue new rest hpc hring =>
      left
      rw [LcoreCtx.work, LcoreCtx.work, hpc, hring]
      show 4 * rest.length + 3 < 4 * (rest.length + 1) + 0
      omega
  | dropOld new hpc =>
      left
      rw [LcoreCtx.work, LcoreCtx.work, hpc]
      exact Nat.lt_succ_self _
  | install new hpc =>
      left
      rw [LcoreCtx.work, LcoreCtx.work, hpc]
      exact Nat.lt_succ_self _
  | mempoolPut hpc =>
      left
      rw [LcoreCtx.work, LcoreCtx.work, hpc]
      exact Nat.lt_succ_self _

theorem work_withLcore (s : DirectorLoops n) (effect : LcoreEffect)
    (core : Fin n) (ctx : LcoreCtx) :
    ((s.apply effect).withLcore core ctx).work +
        (s.lcoreContexts core).work = s.work + ctx.work := by
  have htotal := lcoreTotal_withLcore s core ctx LcoreCtx.work
  have hsame : ((s.apply effect).withLcore core ctx).work =
      s.control.work s.requestWork +
        (s.withLcore core ctx).lcoreTotal LcoreCtx.work := by
    cases effect <;> rfl
  rw [hsame, DirectorLoops.work]
  omega

theorem work_lcoreNext {core : Fin n} (hnext : s.lcoreNext core = some s') :
    s'.work < s.work ∨ s'.work = s.work ∧ IdleStep s (.lcore core) s' := by
  obtain ⟨effect, ctx', hmove, rfl⟩ := DirectorLoops.lcoreNext_move hnext
  have hwork := work_withLcore s effect core ctx'
  rcases hmove.work with hless | ⟨hsame, rfl, hidle⟩
  · left
    omega
  · refine .inr ⟨by omega, ?_⟩
    rcases hidle with ⟨hpc, hring, rfl⟩ | ⟨hpc, rfl⟩
    · exact .ringEmpty core hpc hring
    · exact .lcoreReadStop core hpc

theorem work_lt_of_control (hcontexts : s'.lcoreContexts = s.lcoreContexts)
    (hless : s'.control.work s'.requestWork < s.control.work s.requestWork) :
    s'.work < s.work := by
  have htotal : s'.lcoreTotal LcoreCtx.work = s.lcoreTotal LcoreCtx.work := by
    rw [DirectorLoops.lcoreTotal, hcontexts]
    rfl
  rw [DirectorLoops.work, DirectorLoops.work, htotal]
  omega

theorem work_readRequest (hcontrol : s.control = .checked) :
    DirectorLoops.work { s with
        control := if s.reloadRequested then .requested else .top } < s.work ∨
      DirectorLoops.work { s with
          control := if s.reloadRequested then .requested else .top } =
        s.work ∧ IdleStep s .control { s with
          control := if s.reloadRequested then .requested else .top } := by
  by_cases hrequested : s.reloadRequested = true
  · left
    rw [if_pos hrequested]
    refine work_lt_of_control rfl ?_
    have hrequest : s.requestWork = 10 * n + 5 := if_pos hrequested
    rw [hcontrol, hrequest]
    exact Nat.lt_succ_self _
  · right
    rw [if_neg hrequested]
    refine ⟨?_, .readRequest hcontrol (Bool.eq_false_iff.mpr hrequested)⟩
    rw [DirectorLoops.work, DirectorLoops.work, hcontrol]
    rfl

theorem work_enqueue {new : ℕ} {core : Fin n}
    (hcontrol : s.control = .prepared new core) :
    (({ s with control := .sending new (core + 1) }.withLcore core
      ((s.lcoreContexts core).enqueue new)).withMissed core false).work <
        s.work := by
  have htotal := lcoreTotal_withLcore s core
    ((s.lcoreContexts core).enqueue new) LcoreCtx.work
  have hring : ((s.lcoreContexts core).enqueue new).work =
      (s.lcoreContexts core).work + 4 := by
    simp only [LcoreCtx.work, LcoreCtx.enqueue, List.length_append,
      List.length_cons, List.length_nil]
    omega
  have hcore := core.2
  rw [hring] at htotal
  rw [DirectorLoops.work, DirectorLoops.work, hcontrol]
  show s.requestWork + (10 * (n - (core + 1)) + 1) +
      (s.withLcore core ((s.lcoreContexts core).enqueue new)).lcoreTotal
        LcoreCtx.work <
    s.requestWork + (10 * (n - core) - 1) + s.lcoreTotal LcoreCtx.work
  omega

theorem work_controlMove (hstop : s.directorStop = false)
    (hmove : s.ControlMove valid s') :
    s'.work < s.work ∨ s'.work = s.work ∧ IdleStep s .control s' := by
  cases hmove with
  | readStop hcontrol =>
      right
      rw [if_neg (by rw [hstop]; decide)]
      refine ⟨?_, .readStop hcontrol⟩
      rw [DirectorLoops.work, DirectorLoops.work, hcontrol]
      rfl
  | stopLcore core hcontrol =>
      left
      have htotal := lcoreTotal_withLcore s core (s.lcoreContexts core).stop
        LcoreCtx.work
      have hwork : (s.lcoreContexts core).stop.work =
        (s.lcoreContexts core).work := rfl
      rw [hwork] at htotal
      rw [DirectorLoops.work, DirectorLoops.work, hcontrol]
      show s.requestWork + (n - (core + 1) + 1) + (s.withLcore core
          (s.lcoreContexts core).stop).lcoreTotal LcoreCtx.work <
        s.requestWork + (n - core + 1) + s.lcoreTotal LcoreCtx.work
      have hcore := core.2
      omega
  | stop core hcontrol hcore =>
      left
      refine work_lt_of_control rfl ?_
      rw [hcontrol]
      show s.requestWork < s.requestWork + (n - core + 1)
      omega
  | readRequest hcontrol => exact work_readRequest hcontrol
  | resetRequest hcontrol =>
      left
      refine work_lt_of_control rfl ?_
      rw [hcontrol]
      show 0 + (10 * n + 2) < 10 * n + 4
      omega
  | load hcontrol hvalid =>
      left
      refine work_lt_of_control rfl ?_
      rw [hcontrol]
      exact Nat.lt_succ_self _
  | exit hcontrol hinvalid =>
      left
      refine work_lt_of_control rfl ?_
      rw [hcontrol]
      exact Nat.lt_add_of_pos_right (Nat.succ_pos _)
  | mempoolGet new core hcontrol hpool =>
      left
      refine work_lt_of_control rfl ?_
      rw [hcontrol]
      exact Nat.lt_succ_self _
  | mempoolGetFails new core hcontrol hpool =>
      left
      refine work_lt_of_control rfl ?_
      rw [hcontrol]
      show s.requestWork + (10 * (n - (core + 1)) + 1) <
        s.requestWork + (10 * (n - core) + 1)
      have hcore := core.2
      omega
  | incref new core hcontrol =>
      left
      refine work_lt_of_control rfl ?_
      rw [hcontrol]
      show s.requestWork + (10 * (n - core) - 1) <
        s.requestWork + 10 * (n - core)
      have hcore := core.2
      omega
  | ringEnqueue new core hcontrol hring => exact .inl (work_enqueue hcontrol)
  | ringEnqueueFails new core hcontrol hring =>
      left
      refine work_lt_of_control rfl ?_
      rw [hcontrol]
      show s.requestWork + (10 * (n - core) - 2) <
        s.requestWork + (10 * (n - core) - 1)
      have hcore := core.2
      omega
  | mempoolPut new core hcontrol =>
      left
      refine work_lt_of_control rfl ?_
      rw [hcontrol]
      show s.requestWork + (10 * (n - (core + 1)) + 1) <
        s.requestWork + (10 * (n - core) - 2)
      have hcore := core.2
      omega
  | decref new core hcontrol hcore =>
      left
      refine work_lt_of_control rfl ?_
      rw [hcontrol]
      exact Nat.lt_add_of_pos_right (Nat.succ_pos _)

theorem LoopStep.work {event : LoopEvent n}
    (hstep : LoopStep valid s event s') (hstop : s.directorStop = false)
    (hquiet : event ≠ .reloadSignal ∧ event ≠ .stopSignal) :
    s'.work < s.work ∨ s'.work = s.work ∧ IdleStep s event s' := by
  cases event with
  | writeFile =>
      obtain rfl := hstep
      exact .inr ⟨rfl, .writeFile⟩
  | reloadSignal => exact absurd rfl hquiet.1
  | stopSignal => exact absurd rfl hquiet.2
  | control =>
      exact work_controlMove hstop (DirectorLoops.controlNext_move hstep)
  | lcore core => exact work_lcoreNext hstep.2

/-! ## Steps without signals -/

theorem LoopStep.directorStop_eq {event : LoopEvent n}
    (hstep : LoopStep valid s event s') (hevent : event ≠ .stopSignal) :
    s'.directorStop = s.directorStop := by
  cases event with
  | writeFile =>
      obtain rfl := hstep
      rfl
  | reloadSignal =>
      obtain rfl := hstep
      rfl
  | stopSignal => exact absurd rfl hevent
  | control => cases DirectorLoops.controlNext_move hstep <;> rfl
  | lcore core =>
      obtain ⟨effect, ctx', _, rfl⟩ := DirectorLoops.lcoreNext_move hstep.2
      cases effect <;> rfl

theorem LoopStep.signalled_eq {event : LoopEvent n}
    (hstep : LoopStep valid s event s') (hevent : event ≠ .reloadSignal) :
    s'.signalled = s.signalled := by
  cases event with
  | writeFile =>
      obtain rfl := hstep
      rfl
  | reloadSignal => exact absurd rfl hevent
  | stopSignal =>
      obtain rfl := hstep
      rfl
  | control => cases DirectorLoops.controlNext_move hstep <;> rfl
  | lcore core =>
      obtain ⟨effect, ctx', _, rfl⟩ := DirectorLoops.lcoreNext_move hstep.2
      cases effect <;> rfl

/-! ## Idle loops -/

/-- The control loop polls and no request is open. -/
def DirectorLoops.ControlIdle (s : DirectorLoops n) : Prop :=
  s.reloadRequested = false ∧ (s.control = .top ∨ s.control = .checked)

/-- The core polls an empty ring. -/
def LcoreCtx.Idle (ctx : LcoreCtx) : Prop :=
  ctx.controlMsgRing = [] ∧
    (ctx.pc = .polling ∨ ctx.pc = .checkingStop ∨ ctx.pc = .returned)

theorem LcoreCtx.Idle.newest {ctx : LcoreCtx} (hidle : ctx.Idle) :
    ctx.newest = ctx.configCtx := by
  obtain ⟨hring, hpc | hpc | hpc⟩ := hidle
  · simp [LcoreCtx.newest, LcoreCtx.pending, hpc, hring]
  · simp [LcoreCtx.newest, LcoreCtx.pending, hpc, hring]
  · simp [LcoreCtx.newest, LcoreCtx.pending, hpc, hring]

namespace IdleStep

variable {event : LoopEvent n} (hstep : IdleStep s event s')

include hstep

theorem control_eq (hevent : event ≠ .control) : s'.control = s.control := by
  cases hstep with
  | readStop hcontrol => exact absurd rfl hevent
  | readRequest hcontrol hrequested => exact absurd rfl hevent
  | _ => rfl

theorem pc_eq {core : Fin n} (hevent : event ≠ .lcore core) :
    (s'.lcoreContexts core).pc = (s.lcoreContexts core).pc := by
  cases hstep with
  | ringEmpty other hpc hring =>
      rw [withLcore_of_ne s fun hsame => hevent (by rw [hsame])]
  | lcoreReadStop other hpc =>
      rw [withLcore_of_ne s fun hsame => hevent (by rw [hsame])]
  | _ => rfl

theorem controlIdle (hidle : s.ControlIdle) : s'.ControlIdle := by
  cases hstep with
  | readStop hcontrol => exact ⟨hidle.1, .inr rfl⟩
  | readRequest hcontrol hrequested => exact ⟨hidle.1, .inl rfl⟩
  | _ => exact hidle

theorem lcoreIdle {core : Fin n} (hidle : (s.lcoreContexts core).Idle) :
    (s'.lcoreContexts core).Idle := by
  cases hstep with
  | ringEmpty other hpc hring =>
      by_cases hother : core = other
      · rw [hother, withLcore_self]
        exact ⟨hring, .inr (.inl rfl)⟩
      · rw [withLcore_of_ne s hother]
        exact hidle
  | lcoreReadStop other hpc =>
      by_cases hother : core = other
      · rw [hother] at hidle ⊢
        rw [withLcore_self]
        refine ⟨hidle.1, ?_⟩
        cases (s.lcoreContexts other).directorStop with
        | true => exact .inr (.inr rfl)
        | false => exact .inl rfl
      · rw [withLcore_of_ne s hother]
        exact hidle
  | _ => exact hidle

end IdleStep

theorem IdleStep.of_control (hstep : IdleStep s .control s') :
    s.control = .top ∧ s'.control = .checked ∨
      s.control = .checked ∧ s.ControlIdle := by
  cases hstep with
  | readStop hcontrol => exact .inl ⟨hcontrol, rfl⟩
  | readRequest hcontrol hrequested =>
      exact .inr ⟨hcontrol, hrequested, .inr hcontrol⟩

theorem IdleStep.of_lcore {core : Fin n}
    (hstep : IdleStep s (.lcore core) s') :
    (s.lcoreContexts core).pc = .polling ∧ (s.lcoreContexts core).Idle ∨
      (s.lcoreContexts core).pc = .checkingStop ∧
        (s'.lcoreContexts core).pc ≠ .checkingStop := by
  cases hstep with
  | ringEmpty _ hpc hring => exact .inl ⟨hpc, hring, .inl hpc⟩
  | lcoreReadStop _ hpc =>
      refine .inr ⟨hpc, ?_⟩
      rw [withLcore_self]
      cases (s.lcoreContexts core).directorStop <;> simp

/-! ## Runs without signals -/

section Endless

variable {states : ℕ → DirectorLoops n} {events : ℕ → LoopEvent n}

section Settled

variable {m : ℕ}
  (hidle : ∀ k, m ≤ k → IdleStep (states k) (events k) (states (k + 1)))

include hidle

theorem exists_controlIdle (hfair : ∀ k, ∃ j, k ≤ j ∧ events j = .control) :
    ∃ j, ∀ k, j ≤ k → (states k).ControlIdle := by
  have hchecked : ∃ j, m ≤ j ∧ (states j).ControlIdle := by
    obtain ⟨first, hfirst, hevent⟩ := hfair m
    have hstep := hidle first hfirst
    rw [hevent] at hstep
    rcases hstep.of_control with ⟨_, hnext⟩ | ⟨_, hnow⟩
    · -- the next step of the loop reads the request
      obtain ⟨second, hsecond, hevent', hcontrol⟩ := exists_next_keeping
        DirectorLoops.control (fun k => events k = .control)
        (hfair (first + 1)) fun k hk hother =>
          (hidle k (hfirst.trans (Nat.le_of_succ_le hk))).control_eq hother
      have hle : m ≤ second := hfirst.trans (Nat.le_of_succ_le hsecond)
      have hstep' := hidle second hle
      rw [hevent'] at hstep'
      rcases hstep'.of_control with ⟨htop, _⟩ | ⟨_, hnow⟩
      · rw [hcontrol, hnext] at htop
        cases htop
      · exact ⟨second, hle, hnow⟩
    · exact ⟨first, hfirst, hnow⟩
  obtain ⟨j, hj, hstart⟩ := hchecked
  refine ⟨j, fun k hk => ?_⟩
  induction k, hk using Nat.le_induction with
  | base => exact hstart
  | succ k hk ih => exact (hidle k (hj.trans hk)).controlIdle ih

theorem exists_lcoreIdle {core : Fin n}
    (hfair : ∀ k, ∃ j, k ≤ j ∧ events j = .lcore core) :
    ∃ j, ∀ k, j ≤ k → ((states k).lcoreContexts core).Idle := by
  have hpolled : ∃ j, m ≤ j ∧ ((states j).lcoreContexts core).Idle := by
    obtain ⟨first, hfirst, hevent⟩ := hfair m
    have hstep := hidle first hfirst
    rw [hevent] at hstep
    rcases hstep.of_lcore with ⟨_, hnow⟩ | ⟨_, hnext⟩
    · exact ⟨first, hfirst, hnow⟩
    · -- the next step of the loop polls the ring
      obtain ⟨second, hsecond, hevent', hpc⟩ := exists_next_keeping
        (fun s : DirectorLoops n => (s.lcoreContexts core).pc)
        (fun k => events k = .lcore core) (hfair (first + 1))
        fun k hk hother =>
          (hidle k (hfirst.trans (Nat.le_of_succ_le hk))).pc_eq hother
      have hle : m ≤ second := hfirst.trans (Nat.le_of_succ_le hsecond)
      have hstep' := hidle second hle
      rw [hevent'] at hstep'
      rcases hstep'.of_lcore with ⟨_, hnow⟩ | ⟨hchecking, _⟩
      · exact ⟨second, hle, hnow⟩
      · exact absurd (hpc.symm.trans hchecking) hnext
  obtain ⟨j, hj, hstart⟩ := hpolled
  refine ⟨j, fun k hk => ?_⟩
  induction k, hk using Nat.le_induction with
  | base => exact hstart
  | succ k hk ih => exact (hidle k (hj.trans hk)).lcoreIdle ih

end Settled

/-- After the last signal, a core that keeps polling comes to a table as new
as the file was at the signal, and keeps one. -/
theorem reload_request_reaches_core
    {busy : Fin n → Bool}
    (hreach : LoopReachable valid (.launch busy) (states 0))
    (hsteps : ∀ k, LoopStep valid (states k) (events k) (states (k + 1)))
    (hquiet : ∀ k, events k ≠ .reloadSignal ∧ events k ≠ .stopSignal)
    (hstop : (states 0).directorStop = false)
    (hcontrol : ∀ k, ∃ j, k ≤ j ∧ events j = .control)
    {core : Fin n}
    (hcore : ∀ k, ∃ j, k ≤ j ∧ events j = .lcore core) :
    ∃ m, ∀ k, m ≤ k → (states k).missed core = true ∨
      (states 0).signalled ≤ (states k).serves core := by
  have hrunning : ∀ k, (states k).directorStop = false := by
    intro k
    induction k with
    | zero => exact hstop
    | succ k ih =>
        rw [(hsteps k).directorStop_eq (hquiet k).2]
        exact ih
  have hsignalled : ∀ k, (states k).signalled = (states 0).signalled := by
    intro k
    induction k with
    | zero => rfl
    | succ k ih =>
        rw [(hsteps k).signalled_eq (hquiet k).1]
        exact ih
  have hreached : ∀ k, LoopReachable valid (.launch busy) (states k) := by
    intro k
    induction k with
    | zero => exact hreach
    | succ k ih => exact ih.tail ⟨events k, hsteps k⟩
  have hwork := fun k => (hsteps k).work (hrunning k) (hquiet k)
  obtain ⟨m, hsettled⟩ := exists_settled_rank DirectorLoops.work
    fun k => (hwork k).elim le_of_lt fun hsame => hsame.1.le
  have hidle : ∀ k, m ≤ k →
      IdleStep (states k) (events k) (states (k + 1)) := by
    intro k hk
    rcases hwork k with hless | ⟨_, hidle⟩
    · exact absurd (hsettled k hk) hless.ne
    · exact hidle
  obtain ⟨first, hfirst⟩ := exists_controlIdle hidle hcontrol
  obtain ⟨second, hsecond⟩ := exists_lcoreIdle hidle hcore
  refine ⟨max first second, fun k hk => ?_⟩
  obtain ⟨hrequested, hpc⟩ := hfirst k ((le_max_left _ _).trans hk)
  have hlcore := hsecond k ((le_max_right _ _).trans hk)
  have hanswered := (hreached k).answered
  have hserved : (states k).Served n := by
    rcases hanswered with hflag | hread | ⟨_, hserved⟩
    · rw [hrequested] at hflag
      cases hflag
    · rcases hpc with hpc | hpc
      · rw [hpc] at hread
        cases hread
      · rw [hpc] at hread
        cases hread
    · rcases hpc with hpc | hpc
      · rw [hpc] at hserved
        exact hserved
      · rw [hpc] at hserved
        exact hserved
  have hfresh := hserved core core.2
  rw [hlcore.newest, hsignalled] at hfresh
  exact hfresh

end Endless

end Loops

theorem turnEvent_fair (k : ℕ) :
    (∃ j, k ≤ j ∧ turnEvent j = .control) ∧
      ∃ j, k ≤ j ∧ turnEvent j = .lcore 0 := by
  constructor
  · exact ⟨2 * k, by omega, if_pos (by omega)⟩
  · exact ⟨2 * k + 1, by omega, if_neg (by omega)⟩

theorem turnEvent_quiet (k : ℕ) :
    turnEvent k ≠ .reloadSignal ∧ turnEvent k ≠ .stopSignal := by
  unfold turnEvent
  split
  · exact ⟨by simp, by simp⟩
  · exact ⟨by simp, by simp⟩

theorem reload_request_reaches_core_turns :
    (turnState 0).signalled = 1 ∧ (turnState 0).serves 0 = 0 ∧
      ∃ m, ∀ k, m ≤ k → (turnState k).missed 0 = true ∨
        (turnState 0).signalled ≤ (turnState k).serves 0 :=
  ⟨rfl, rfl, reload_request_reaches_core (turnState_reachable 0)
    (fun k => (turnState_step (turnState_running k)).1) turnEvent_quiet rfl
    (fun k => (turnEvent_fair k).1) (fun k => (turnEvent_fair k).2)⟩

end GlbDirector
