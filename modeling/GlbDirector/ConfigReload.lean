import GlbDirector.RefLedger
import Mathlib.Algebra.BigOperators.Fin

/-!
# Reloading the forwarding table

`main` gives every processor core the same `glb_fwd_config_ctx`; each SIGUSR1
makes the control core load another one and send it to every core.  A context
is its number in the order of loading.  The steps are those of the two loops,
split where a reference is taken, handed over or dropped, and any core may move
next.
-/

namespace GlbDirector

open RefLedger

inductive ProcessorPc where
  | polling
  | dequeued (newConfigCtx : ℕ)
  | dropped (newConfigCtx : ℕ)
  deriving DecidableEq

/-- `glb_processor_ctx`; the ring holds the contexts of its reload messages. -/
structure ProcessorCtx where
  configCtx : ℕ
  controlMsgRing : List ℕ
  pc : ProcessorPc
  deriving DecidableEq

inductive ControlPc where
  | idle
  | sending (newConfigCtx core : ℕ)
  | prepared (newConfigCtx core : ℕ)
  deriving DecidableEq

structure ReloadState (n : ℕ) where
  configs : Cells ℕ
  loaded : ℕ
  reloadRequested : Bool
  control : ControlPc
  lcoreContexts : Fin n → ProcessorCtx

/-- The state at launch, if the first context were created with `refs`
references. -/
def launched (n : ℕ) (refs : ℤ) : ReloadState n where
  configs :=
    { count := Function.update (fun _ => 0) 0 refs
      freed := fun _ => false }
  loaded := 1
  reloadRequested := false
  control := .idle
  lcoreContexts := fun _ => ⟨0, [], .polling⟩

/-- What `main` sets up: `create_glb_fwd_config` returns one reference, which
every core then points to. -/
def initialState (n : ℕ) : ReloadState n := launched n 1

def ReloadState.withCore {n : ℕ} (s : ReloadState n) (core : Fin n)
    (ctx : ProcessorCtx) : ReloadState n :=
  { s with lcoreContexts := Function.update s.lcoreContexts core ctx }

/-- One step of a core or of a signal.  Taking a message from the pool and
enqueueing it may fail at any time. -/
inductive ReloadStep {n : ℕ} : ReloadState n → ReloadState n → Prop where
  | signalHandler (s : ReloadState n) :
      ReloadStep s { s with reloadRequested := true }
  | loadGlbFwdConfig (s : ReloadState n) (hidle : s.control = .idle)
      (hrequested : s.reloadRequested = true) :
      ReloadStep s { s with
        configs := s.configs.create s.loaded
        loaded := s.loaded + 1
        reloadRequested := false
        control := .sending s.loaded 0 }
  | mempoolGetFails (s : ReloadState n) (new core : ℕ)
      (hcontrol : s.control = .sending new core) (hcore : core < n) :
      ReloadStep s { s with control := .sending new (core + 1) }
  | incref (s : ReloadState n) (new core : ℕ)
      (hcontrol : s.control = .sending new core) (hcore : core < n) :
      ReloadStep s { s with
        configs := s.configs.incref new
        control := .prepared new core }
  | ringEnqueue (s : ReloadState n) (new : ℕ) (core : Fin n)
      (hcontrol : s.control = .prepared new core) :
      ReloadStep s ({ s with control := .sending new (core + 1) }.withCore
        core { s.lcoreContexts core with
          controlMsgRing := (s.lcoreContexts core).controlMsgRing ++ [new] })
  | ringEnqueueFails (s : ReloadState n) (new core : ℕ)
      (hcontrol : s.control = .prepared new core) :
      ReloadStep s { s with control := .sending new (core + 1) }
  | decref (s : ReloadState n) (new : ℕ)
      (hcontrol : s.control = .sending new n) :
      ReloadStep s { s with
        configs := s.configs.decref new
        control := .idle }
  | ringDequeue (s : ReloadState n) (core : Fin n) (new : ℕ) (rest : List ℕ)
      (hpc : (s.lcoreContexts core).pc = .polling)
      (hring : (s.lcoreContexts core).controlMsgRing = new :: rest) :
      ReloadStep s (s.withCore core { s.lcoreContexts core with
        controlMsgRing := rest
        pc := .dequeued new })
  | dropOld (s : ReloadState n) (core : Fin n) (new : ℕ)
      (hpc : (s.lcoreContexts core).pc = .dequeued new) :
      ReloadStep s ({ s with
        configs := s.configs.decref (s.lcoreContexts core).configCtx
      }.withCore core { s.lcoreContexts core with pc := .dropped new })
  | install (s : ReloadState n) (core : Fin n) (new : ℕ)
      (hpc : (s.lcoreContexts core).pc = .dropped new) :
      ReloadStep s (s.withCore core { s.lcoreContexts core with
        configCtx := new
        pc := .polling })

def Reachable {n : ℕ} (start s : ReloadState n) : Prop :=
  Relation.ReflTransGen ReloadStep start s

/-! ## References -/

/-- The contexts a core points to: its `config_ctx` whatever it is doing, and
those of its messages. -/
def ProcessorCtx.pointers (ctx : ProcessorCtx) : Multiset ℕ :=
  match ctx.pc with
  | .polling => ctx.configCtx ::ₘ ctx.controlMsgRing
  | .dequeued new => ctx.configCtx ::ₘ new ::ₘ ctx.controlMsgRing
  | .dropped new => ctx.configCtx ::ₘ new ::ₘ ctx.controlMsgRing

/-- The references a core owns.  After `glb_fwd_config_ctx_decref` it has none
to its `config_ctx`, which still points to the context it gave up. -/
def ProcessorCtx.references (ctx : ProcessorCtx) : Multiset ℕ :=
  match ctx.pc with
  | .polling => ctx.configCtx ::ₘ ctx.controlMsgRing
  | .dequeued new => ctx.configCtx ::ₘ new ::ₘ ctx.controlMsgRing
  | .dropped new => new ::ₘ ctx.controlMsgRing

def ControlPc.references : ControlPc → Multiset ℕ
  | .idle => 0
  | .sending new _ => {new}
  | .prepared new _ => new ::ₘ {new}

def ReloadState.references {n : ℕ} (s : ReloadState n) : Multiset ℕ :=
  s.control.references + ∑ core, (s.lcoreContexts core).references

/-- No core's `config_ctx` and no reload message points to a freed context. -/
def ReloadState.Safe {n : ℕ} (s : ReloadState n) : Prop :=
  ∀ core, ∀ config ∈ (s.lcoreContexts core).pointers,
    s.configs.freed config = false

/-- The same, except for the `config_ctx` of a core that has dropped its
reference and is about to store the new pointer. -/
def ReloadState.SafeToUse {n : ℕ} (s : ReloadState n) : Prop :=
  ∀ core, ∀ config ∈ (s.lcoreContexts core).references,
    s.configs.freed config = false

/-! ## References of one core -/

section Cores

variable {n : ℕ}

theorem withCore_self (s : ReloadState n) (core : Fin n)
    (ctx : ProcessorCtx) :
    (s.withCore core ctx).lcoreContexts core = ctx :=
  Function.update_self _ _ _

theorem withCore_of_ne (s : ReloadState n) {core other : Fin n}
    (hne : other ≠ core) (ctx : ProcessorCtx) :
    (s.withCore core ctx).lcoreContexts other = s.lcoreContexts other :=
  Function.update_of_ne hne _ _

/-- The references that do not belong to `core`. -/
def ReloadState.elsewhere (s : ReloadState n) (core : Fin n) : Multiset ℕ :=
  s.control.references +
    ∑ other ∈ Finset.univ.erase core, (s.lcoreContexts other).references

theorem references_eq (s : ReloadState n) (core : Fin n) :
    s.references =
      s.elsewhere core + (s.lcoreContexts core).references := by
  rw [ReloadState.elsewhere, ReloadState.references, add_assoc,
    Finset.sum_erase_add _ _ (Finset.mem_univ core)]

theorem references_withCore (s : ReloadState n) (core : Fin n)
    (ctx : ProcessorCtx) :
    (s.withCore core ctx).references = s.elsewhere core + ctx.references := by
  have helsewhere : (s.withCore core ctx).elsewhere core =
      s.elsewhere core := by
    unfold ReloadState.elsewhere
    congr 1
    apply Finset.sum_congr rfl
    intro other hother
    rw [withCore_of_ne s (Finset.ne_of_mem_erase hother)]
  rw [references_eq _ core, helsewhere, withCore_self]

theorem references_withCore_of_eq {s : ReloadState n} {core : Fin n}
    {ctx : ProcessorCtx}
    (hctx : ctx.references = (s.lcoreContexts core).references) :
    (s.withCore core ctx).references = s.references := by
  rw [references_withCore, hctx, ← references_eq]

theorem references_enqueue (ctx : ProcessorCtx) (new : ℕ) :
    { ctx with controlMsgRing := ctx.controlMsgRing ++ [new] :
      ProcessorCtx }.references = new ::ₘ ctx.references := by
  have hring : ((ctx.controlMsgRing ++ [new] : List ℕ) : Multiset ℕ) =
      new ::ₘ ctx.controlMsgRing := by
    rw [← Multiset.coe_add, add_comm]
    rfl
  unfold ProcessorCtx.references
  cases ctx.pc with
  | polling => simp only [hring, Multiset.cons_swap]
  | dequeued held =>
      simp only [hring, Multiset.cons_swap _ new]
  | dropped held => simp only [hring, Multiset.cons_swap]

theorem references_dequeue {ctx : ProcessorCtx} {new : ℕ} {rest : List ℕ}
    (hpc : ctx.pc = .polling) (hring : ctx.controlMsgRing = new :: rest) :
    { ctx with controlMsgRing := rest, pc := .dequeued new :
      ProcessorCtx }.references = ctx.references := by
  simp only [ProcessorCtx.references, hpc, hring, Multiset.cons_coe]

theorem references_drop {ctx : ProcessorCtx} {new : ℕ}
    (hpc : ctx.pc = .dequeued new) :
    ctx.references = ctx.configCtx ::ₘ
      { ctx with pc := .dropped new : ProcessorCtx }.references := by
  simp only [ProcessorCtx.references, hpc]

theorem references_install {ctx : ProcessorCtx} {new : ℕ}
    (hpc : ctx.pc = .dropped new) :
    { ctx with configCtx := new, pc := .polling : ProcessorCtx }.references =
      ctx.references := by
  simp only [ProcessorCtx.references, hpc]

/-! ## What a step does to the references -/

/-- The step in which the message for `new` goes back to the pool although its
reference was taken. -/
def Loses (s next : ReloadState n) (new : ℕ) : Prop :=
  ∃ core, s.control = .prepared new core ∧
    next = { s with control := .sending new (core + 1) }

theorem not_loses_of_control_eq {s next : ReloadState n}
    (hcontrol : next.control = s.control) (new : ℕ) : ¬ Loses s next new := by
  rintro ⟨core, hprepared, rfl⟩
  rw [hprepared] at hcontrol
  cases hcontrol

theorem not_loses_of_not_prepared {s next : ReloadState n}
    (hcontrol : ∀ new core, s.control ≠ .prepared new core) (new : ℕ) :
    ¬ Loses s next new := by
  rintro ⟨core, hprepared, rfl⟩
  exact hcontrol new core hprepared

theorem not_loses_enqueue {s : ReloadState n} (control : ControlPc)
    (core : Fin n) (held new : ℕ) :
    ¬ Loses s ({ s with control := control }.withCore core
      { s.lcoreContexts core with
        controlMsgRing :=
          (s.lcoreContexts core).controlMsgRing ++ [held] }) new := by
  rintro ⟨_, _, hnext⟩
  have hcontexts := congrArg (fun state => state.lcoreContexts core) hnext
  simp only [withCore_self] at hcontexts
  have hring := congrArg ProcessorCtx.controlMsgRing hcontexts
  simp at hring

/-- The references that a step gives up without dropping them. -/
def lostReferences : Option ℕ → Multiset ℕ
  | none => 0
  | some new => {new}

/-- The four ways in which a step changes the counters and the references. -/
inductive LedgerChange (s next : ReloadState n) (lost : Option ℕ) :
    Prop where
  | same (hconfigs : next.configs = s.configs)
      (hloaded : next.loaded = s.loaded)
      (hreferences : s.references = next.references + lostReferences lost)
  | create (hlost : lost = none)
      (hconfigs : next.configs = s.configs.create s.loaded)
      (hloaded : next.loaded = s.loaded + 1)
      (hreferences : next.references = s.loaded ::ₘ s.references)
  | incref (hlost : lost = none) (config : ℕ) (hmem : config ∈ s.references)
      (hconfigs : next.configs = s.configs.incref config)
      (hloaded : next.loaded = s.loaded)
      (hreferences : next.references = config ::ₘ s.references)
  | decref (hlost : lost = none) (config : ℕ)
      (hconfigs : next.configs = s.configs.decref config)
      (hloaded : next.loaded = s.loaded)
      (hreferences : s.references = config ::ₘ next.references)

/-- A step with no loss. -/
theorem exists_ledgerChange_of_kept {s next : ReloadState n}
    (hkept : ∀ new, ¬ Loses s next new)
    (hchange : LedgerChange s next none) :
    ∃ lost, (∀ new, lost = some new ↔ Loses s next new) ∧
      LedgerChange s next lost :=
  ⟨none, fun new => iff_of_false (by simp) (hkept new), hchange⟩

theorem ReloadStep.ledgerChange {s next : ReloadState n}
    (hstep : ReloadStep s next) :
    ∃ lost, (∀ new, lost = some new ↔ Loses s next new) ∧
      LedgerChange s next lost := by
  cases hstep with
  | signalHandler =>
      apply exists_ledgerChange_of_kept
      · exact not_loses_of_control_eq rfl
      · exact .same rfl rfl (add_zero _).symm
  | loadGlbFwdConfig hidle hrequested =>
      have hcontrol : ∀ new core, s.control ≠ .prepared new core := by
        simp [hidle]
      apply exists_ledgerChange_of_kept (not_loses_of_not_prepared hcontrol)
      refine .create rfl rfl rfl ?_
      simp only [ReloadState.references, hidle, ControlPc.references,
        Multiset.singleton_add, zero_add]
  | mempoolGetFails new core hsending hcore =>
      have hcontrol : ∀ new core, s.control ≠ .prepared new core := by
        simp [hsending]
      apply exists_ledgerChange_of_kept (not_loses_of_not_prepared hcontrol)
      refine .same rfl rfl ?_
      simp only [ReloadState.references, hsending, ControlPc.references,
        lostReferences, add_zero]
  | incref new core hsending hcore =>
      have hcontrol : ∀ new core, s.control ≠ .prepared new core := by
        simp [hsending]
      apply exists_ledgerChange_of_kept (not_loses_of_not_prepared hcontrol)
      refine .incref rfl new ?_ rfl rfl ?_
      · simp [ReloadState.references, hsending, ControlPc.references]
      · simp only [ReloadState.references, hsending, ControlPc.references,
          Multiset.cons_add]
  | ringEnqueue new core hprepared =>
      apply exists_ledgerChange_of_kept (not_loses_enqueue _ _ _)
      refine .same rfl rfl ?_
      rw [references_withCore, references_enqueue, references_eq s core,
        ReloadState.elsewhere, ReloadState.elsewhere, hprepared]
      simp only [ControlPc.references, ← Multiset.singleton_add,
        lostReferences]
      abel
  | ringEnqueueFails new core hprepared =>
      refine ⟨some new, fun other => ?_, .same rfl rfl ?_⟩
      · constructor
        · rintro ⟨rfl⟩
          exact ⟨core, hprepared, rfl⟩
        · rintro ⟨_, hother, _⟩
          rw [hprepared] at hother
          cases hother
          rfl
      · simp only [ReloadState.references, hprepared, ControlPc.references,
          ← Multiset.singleton_add, lostReferences]
        abel
  | decref new hsending =>
      have hcontrol : ∀ new core, s.control ≠ .prepared new core := by
        simp [hsending]
      apply exists_ledgerChange_of_kept (not_loses_of_not_prepared hcontrol)
      refine .decref rfl new rfl rfl ?_
      simp only [ReloadState.references, hsending, ControlPc.references,
        Multiset.singleton_add, zero_add]
  | ringDequeue core new rest hpc hring =>
      apply exists_ledgerChange_of_kept
      · exact not_loses_of_control_eq rfl
      · refine .same rfl rfl ?_
        rw [references_withCore_of_eq (references_dequeue hpc hring)]
        exact (add_zero _).symm
  | dropOld core new hpc =>
      apply exists_ledgerChange_of_kept
      · exact not_loses_of_control_eq rfl
      · refine .decref rfl _ rfl rfl ?_
        rw [references_withCore, references_eq s core, references_drop hpc,
          Multiset.add_cons]
        rfl
  | install core new hpc =>
      apply exists_ledgerChange_of_kept
      · exact not_loses_of_control_eq rfl
      · refine .same rfl rfl ?_
        rw [references_withCore_of_eq (references_install hpc)]
        exact (add_zero _).symm

/-! ## The invariant -/

/-- Every reference in use is counted, and to a context loaded so far. -/
structure ReloadState.Counted (s : ReloadState n) : Prop where
  covers : Covers s.configs s.references
  loaded : ∀ config ∈ s.references, config < s.loaded

theorem ReloadState.Counted.safeToUse {s : ReloadState n}
    (hcounted : s.Counted) : s.SafeToUse := by
  intro core config hmem
  apply hcounted.covers.not_freed
  rw [references_eq s core]
  exact Multiset.mem_add.mpr (Or.inr hmem)

/-- A step that changes no counter may hand references over or lose them. -/
theorem ReloadState.Counted.of_le {s next : ReloadState n}
    (hcounted : s.Counted) (hconfigs : next.configs = s.configs)
    (hloaded : next.loaded = s.loaded)
    (hreferences : next.references ≤ s.references) : next.Counted where
  covers := by
    rw [hconfigs]
    exact hcounted.covers.mono hreferences
  loaded := by
    intro config hmem
    rw [hloaded]
    exact hcounted.loaded config (Multiset.mem_of_le hreferences hmem)

/-- A step that drops one of the references in use. -/
theorem ReloadState.Counted.of_decref {s next : ReloadState n}
    (hcounted : s.Counted) {config : ℕ}
    (hconfigs : next.configs = s.configs.decref config)
    (hloaded : next.loaded = s.loaded)
    (hreferences : s.references = config ::ₘ next.references) :
    next.Counted where
  covers := by
    rw [hconfigs]
    exact (hreferences ▸ hcounted.covers).decref
  loaded := by
    intro other hmem
    rw [hloaded]
    apply hcounted.loaded other
    rw [hreferences]
    exact Multiset.mem_cons_of_mem hmem

theorem ReloadState.Counted.step {s next : ReloadState n}
    (hcounted : s.Counted) (hstep : ReloadStep s next) : next.Counted := by
  obtain ⟨lost, _, hchange⟩ := hstep.ledgerChange
  cases hchange with
  | same hconfigs hloaded hreferences =>
      refine hcounted.of_le hconfigs hloaded ?_
      rw [hreferences]
      exact Multiset.le_add_right _ _
  | create _ hconfigs hloaded hreferences =>
      have hfresh : s.loaded ∉ s.references := fun hmem =>
        absurd (hcounted.loaded _ hmem) (lt_irrefl _)
      constructor
      · rw [hconfigs, hreferences]
        exact hcounted.covers.create hfresh
      · intro config hmem
        rw [hreferences] at hmem
        rw [hloaded]
        rcases Multiset.mem_cons.mp hmem with rfl | hmem
        · exact Nat.lt_succ_self _
        · exact Nat.lt_succ_of_lt (hcounted.loaded config hmem)
  | incref _ config hheld hconfigs hloaded hreferences =>
      constructor
      · rw [hconfigs, hreferences]
        exact hcounted.covers.incref hheld
      · intro other hmem
        rw [hreferences] at hmem
        rw [hloaded]
        rcases Multiset.mem_cons.mp hmem with rfl | hmem
        · exact hcounted.loaded _ hheld
        · exact hcounted.loaded other hmem
  | decref _ config hconfigs hloaded hreferences =>
      exact hcounted.of_decref hconfigs hloaded hreferences

theorem ReloadState.Counted.run {start s : ReloadState n}
    (hstart : start.Counted) (hreachable : Reachable start s) :
    s.Counted := by
  induction hreachable with
  | refl => exact hstart
  | tail _ hstep ih => exact ih.step hstep

theorem launched_references (refs : ℤ) :
    (launched n refs).references = Multiset.replicate n 0 := by
  have hcore : ∀ core : Fin n,
      ((launched n refs).lcoreContexts core).references = {0} :=
    fun _ => rfl
  rw [ReloadState.references, Finset.sum_congr rfl fun core _ => hcore core,
    Finset.sum_const, Finset.card_univ, Fintype.card_fin,
    Multiset.nsmul_singleton]
  exact zero_add _

/-- One reference for each core would be enough. -/
theorem launched_counted {refs : ℤ} (hrefs : (n : ℤ) ≤ refs) :
    (launched n refs).Counted where
  covers := by
    intro config
    refine ⟨?_, fun hfreed => absurd hfreed Bool.false_ne_true⟩
    rw [launched_references, Multiset.count_replicate]
    by_cases hzero : config = 0
    · subst hzero
      simpa [launched] using hrefs
    · simp [launched, hzero, Ne.symm hzero]
  loaded := by
    intro config hmem
    rw [launched_references] at hmem
    rw [Multiset.eq_of_mem_replicate hmem]
    exact Nat.zero_lt_one

/-! ## One reference for all cores -/

section FirstReload

/-- The first reload, once the control core has a reference for the message to
the first core. -/
def firstPrepared (n : ℕ) : ReloadState n where
  configs := ((initialState n).configs.create 1).incref 1
  loaded := 2
  reloadRequested := false
  control := .prepared 1 0
  lcoreContexts _ := ⟨0, [], .polling⟩

theorem firstPrepared_reachable (hn : 0 < n) :
    Reachable (initialState n) (firstPrepared n) := by
  have hrequested := Relation.ReflTransGen.single
    (ReloadStep.signalHandler (initialState n))
  have hsending := hrequested.tail (.loadGlbFwdConfig _ rfl rfl)
  exact hsending.tail (.incref _ 1 0 rfl hn)

variable (hn : 0 < n)

def firstQueued : ReloadState n :=
  { firstPrepared n with control := .sending 1 1 }.withCore ⟨0, hn⟩
    ⟨0, [1], .polling⟩

def firstDequeued : ReloadState n :=
  (firstQueued hn).withCore ⟨0, hn⟩ ⟨0, [], .dequeued 1⟩

/-- The first core has dropped the context of the launch. -/
def firstDropped : ReloadState n :=
  { firstDequeued hn with
    configs := (firstDequeued hn).configs.decref 0 }.withCore ⟨0, hn⟩
      ⟨0, [], .dropped 1⟩

theorem firstQueued_dequeue :
    ReloadStep (firstQueued hn) (firstDequeued hn) := by
  have hcore : (firstQueued hn).lcoreContexts ⟨0, hn⟩ = ⟨0, [1], .polling⟩ :=
    withCore_self _ _ _
  have hstep := ReloadStep.ringDequeue (firstQueued hn) ⟨0, hn⟩ 1 []
    (by rw [hcore]) (by rw [hcore])
  rw [hcore] at hstep
  exact hstep

theorem firstDequeued_drop :
    ReloadStep (firstDequeued hn) (firstDropped hn) := by
  have hcore : (firstDequeued hn).lcoreContexts ⟨0, hn⟩ =
      ⟨0, [], .dequeued 1⟩ := withCore_self _ _ _
  have hstep := ReloadStep.dropOld (firstDequeued hn) ⟨0, hn⟩ 1
    (by rw [hcore])
  rw [hcore] at hstep
  exact hstep

/-- The first core to take a new context frees the old one, to which it still
points itself, and which all other cores still use. -/
theorem first_install_frees :
    ∃ s : ReloadState n, Reachable (initialState n) s ∧
      s.configs.freed 0 = true ∧
      s.lcoreContexts ⟨0, hn⟩ = ⟨0, [], .dropped 1⟩ ∧
        ∀ other, other ≠ ⟨0, hn⟩ →
          s.lcoreContexts other = ⟨0, [], .polling⟩ := by
  have hqueued : Reachable (initialState n) (firstQueued hn) :=
    (firstPrepared_reachable hn).tail
      (.ringEnqueue (firstPrepared n) 1 ⟨0, hn⟩ rfl)
  refine ⟨firstDropped hn, (hqueued.tail (firstQueued_dequeue hn)).tail
    (firstDequeued_drop hn), ?_, withCore_self _ _ _, ?_⟩
  · have hcount : (firstDequeued hn).configs.count 0 = 1 := rfl
    show ((firstDequeued hn).configs.decref 0).freed 0 = true
    simp [Cells.decref, hcount]
  · intro other hother
    simp only [firstDropped, firstDequeued, firstQueued,
      withCore_of_ne _ hother]
    rfl

end FirstReload

theorem not_safe_of_freed {s : ReloadState n} (core : Fin n)
    (hfreed : s.configs.freed (s.lcoreContexts core).configCtx = true) :
    ¬ s.Safe := by
  intro hsafe
  have hmem : (s.lcoreContexts core).configCtx ∈
      (s.lcoreContexts core).pointers := by
    unfold ProcessorCtx.pointers
    split <;> exact Multiset.mem_cons_self _ _
  rw [hsafe core _ hmem] at hfreed
  exact Bool.false_ne_true hfreed

theorem not_safeToUse_of_stale {s : ReloadState n} {core : Fin n}
    (hfreed : s.configs.freed 0 = true)
    (hcore : s.lcoreContexts core = ⟨0, [], .polling⟩) : ¬ s.SafeToUse := by
  intro hsafe
  have hmem : 0 ∈ (s.lcoreContexts core).references := by
    rw [hcore]
    simp [ProcessorCtx.references]
  rw [hsafe core 0 hmem] at hfreed
  exact Bool.false_ne_true hfreed

end Cores

/-- Every processor core's `config_ctx` points to a freed context for a moment;
the start-up reference count keeps a single core from using one. -/
theorem reload_safe_iff (n : ℕ) :
    ((∀ s : ReloadState n, Reachable (initialState n) s → s.Safe) ↔
      n = 0) ∧
    ((∀ s : ReloadState n, Reachable (initialState n) s → s.SafeToUse) ↔
      n ≤ 1) := by
  constructor
  · constructor
    · intro hsafe
      by_contra hn
      obtain ⟨s, hreachable, hfreed, hfirst, _⟩ :=
        first_install_frees (Nat.pos_of_ne_zero hn)
      apply not_safe_of_freed ⟨0, Nat.pos_of_ne_zero hn⟩ _ (hsafe s hreachable)
      rw [hfirst]
      exact hfreed
    · rintro rfl s _ core
      exact core.elim0
  · constructor
    · intro hsafe
      by_contra hn
      obtain ⟨s, hreachable, hfreed, _, hothers⟩ :=
        first_install_frees (show 0 < n by omega)
      have hother := hothers ⟨1, by omega⟩ (by simp)
      exact not_safeToUse_of_stale hfreed hother (hsafe s hreachable)
    · intro hn s hreachable
      have hstart : (initialState n).Counted :=
        launched_counted (by exact_mod_cast hn)
      exact (hstart.run hreachable).safeToUse

/-- With two processor cores, one reload frees the table that the second core
is still using. -/
theorem two_cores_use_freed_config :
    ∃ s : ReloadState 2, Reachable (initialState 2) s ∧
      s.configs.freed 0 = true ∧
        s.lcoreContexts 1 = ⟨0, [], .polling⟩ ∧ ¬ s.Safe ∧
          ¬ s.SafeToUse := by
  obtain ⟨s, hreachable, hfreed, _, hothers⟩ :=
    first_install_frees Nat.two_pos
  have hother : s.lcoreContexts 1 = ⟨0, [], .polling⟩ :=
    hothers 1 (by decide)
  refine ⟨s, hreachable, hfreed, hother, ?_,
    not_safeToUse_of_stale hfreed hother⟩
  apply not_safe_of_freed 1
  rw [hother]
  exact hfreed

end GlbDirector
