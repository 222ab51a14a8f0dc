import GlbDirector.ConfigReload
import GlbDirector.LabelledRuns

/-!
# Reloads whose messages fail

`enqueue_reload_control_msg` takes a reference before it enqueues the message,
and gives the message back to the pool when the ring is full, but not the
reference.  A message that the pool does not provide costs nothing.  With the
lost references in the ledger the counters of all contexts loaded by a reload
are exact, so a context is counted right exactly when no message for it was
lost.
-/

namespace GlbDirector

open RefLedger LabelledRuns

variable {n : ℕ}

/-! ## Runs that record the lost messages -/

/-- A step, with the context whose message it loses. -/
def ReloadMove (s : ReloadState n) (lost : Option ℕ) (next : ReloadState n) :
    Prop :=
  ReloadStep s next ∧ ∀ new, lost = some new ↔ Loses s next new

theorem ReloadMove.ledgerChange {s next : ReloadState n} {lost : Option ℕ}
    (hmove : ReloadMove s lost next) : LedgerChange s next lost := by
  obtain ⟨hstep, hlabel⟩ := hmove
  obtain ⟨lost', hlabel', hchange⟩ := hstep.ledgerChange
  have hsame : lost = lost' := by
    apply Option.ext
    intro new
    exact (hlabel new).trans (hlabel' new).symm
  rw [hsame]
  exact hchange

/-- Every reachable state is the end of a recorded run. -/
theorem reachable_iff_run {start s : ReloadState n} :
    Reachable start s ↔ ∃ trace, Run ReloadMove start trace s := by
  constructor
  · intro hreachable
    induction hreachable with
    | refl => exact ⟨[], .nil⟩
    | tail _ hstep ih =>
        obtain ⟨trace, hrun⟩ := ih
        obtain ⟨lost, hlabel, _⟩ := hstep.ledgerChange
        exact ⟨lost :: trace, hrun.cons ⟨hstep, hlabel⟩⟩
  · rintro ⟨trace, hrun⟩
    induction hrun with
    | nil => exact .refl
    | cons _ hmove ih => exact ih.tail hmove.1

/-! ## The ledger with the lost references -/

def lostAlong (trace : List (Option ℕ)) : Multiset ℕ :=
  (trace.map lostReferences).sum

theorem lostAlong_cons (lost : Option ℕ) (trace : List (Option ℕ)) :
    lostAlong (lost :: trace) = lostReferences lost + lostAlong trace :=
  List.sum_cons

theorem count_lostAlong (trace : List (Option ℕ)) (config : ℕ) :
    (lostAlong trace).count config = trace.count (some config) := by
  induction trace with
  | nil => rfl
  | cons lost trace ih =>
      rw [lostAlong_cons, Multiset.count_add, ih, List.count_cons, add_comm]
      cases lost with
      | none => simp [lostReferences]
      | some new =>
          by_cases hnew : new = config
          · simp [lostReferences, hnew]
          · simp [lostReferences, hnew, Ne.symm hnew]

def ReloadState.ledger (s : ReloadState n) (trace : List (Option ℕ)) :
    Multiset ℕ :=
  s.references + lostAlong trace

/-- The counters of the contexts that reloads have loaded are exact. -/
structure ReloadState.Accounted (trace : List (Option ℕ))
    (s : ReloadState n) : Prop where
  hexact : ∀ config, 0 < config → config < s.loaded →
    Exact s.configs (s.ledger trace) config
  hloaded : ∀ config ∈ s.ledger trace, config < s.loaded

theorem ledger_of_kept {s next : ReloadState n} {config : ℕ}
    (trace : List (Option ℕ))
    (hreferences : next.references = config ::ₘ s.references) :
    next.ledger (none :: trace) = config ::ₘ s.ledger trace := by
  rw [ReloadState.ledger, ReloadState.ledger, lostAlong_cons, hreferences,
    Multiset.cons_add]
  exact congrArg _ (congrArg _ (zero_add _))

theorem ReloadState.Accounted.move {s next : ReloadState n}
    {trace : List (Option ℕ)} {lost : Option ℕ}
    (haccounted : s.Accounted trace) (hmove : ReloadMove s lost next) :
    next.Accounted (lost :: trace) := by
  obtain ⟨hexact, hloaded⟩ := haccounted
  cases hmove.ledgerChange with
  | same hconfigs hsame hreferences =>
      have hledger : next.ledger (lost :: trace) = s.ledger trace := by
        rw [ReloadState.ledger, ReloadState.ledger, lostAlong_cons,
          hreferences, add_assoc]
      constructor
      · intro config hpos hlt
        rw [hconfigs, hledger]
        rw [hsame] at hlt
        exact hexact config hpos hlt
      · intro config hmem
        rw [hledger] at hmem
        rw [hsame]
        exact hloaded config hmem
  | create hlost hconfigs hnext hreferences =>
      subst hlost
      have hledger := ledger_of_kept trace hreferences
      have hfresh : s.loaded ∉ s.ledger trace := fun hmem =>
        absurd (hloaded _ hmem) (lt_irrefl _)
      constructor
      · intro config hpos hlt
        rw [hconfigs, hledger]
        rw [hnext] at hlt
        rcases Nat.lt_succ_iff_lt_or_eq.mp hlt with hlt | rfl
        · exact (hexact config hpos hlt).create_of_ne hlt.ne
        · exact Exact.create_self hfresh
      · intro config hmem
        rw [hledger] at hmem
        rw [hnext]
        rcases Multiset.mem_cons.mp hmem with rfl | hmem
        · exact Nat.lt_succ_self _
        · exact Nat.lt_succ_of_lt (hloaded config hmem)
  | incref hlost held hheld hconfigs hsame hreferences =>
      subst hlost
      have hledger := ledger_of_kept trace hreferences
      have hlisted : held ∈ s.ledger trace :=
        Multiset.mem_add.mpr (.inl hheld)
      constructor
      · intro config hpos hlt
        rw [hconfigs, hledger]
        rw [hsame] at hlt
        exact (hexact config hpos hlt).incref hlisted
      · intro config hmem
        rw [hledger] at hmem
        rw [hsame]
        rcases Multiset.mem_cons.mp hmem with rfl | hmem
        · exact hloaded _ hlisted
        · exact hloaded config hmem
  | decref hlost dropped hconfigs hsame hreferences =>
      subst hlost
      have hledger : s.ledger trace =
          dropped ::ₘ next.ledger (none :: trace) := by
        rw [ReloadState.ledger, ReloadState.ledger, lostAlong_cons,
          hreferences, Multiset.cons_add]
        exact congrArg _ (congrArg _ (zero_add _).symm)
      constructor
      · intro config hpos hlt
        rw [hsame] at hlt
        have hbefore := hexact config hpos hlt
        rw [hledger] at hbefore
        rw [hconfigs]
        exact hbefore.decref
      · intro config hmem
        rw [hsame]
        apply hloaded config
        rw [hledger]
        exact Multiset.mem_cons_of_mem hmem

theorem initialState_accounted : (initialState n).Accounted [] where
  hexact := by
    intro config hpos hlt
    exact absurd hlt (Nat.not_lt.mpr hpos)
  hloaded := by
    intro config hmem
    have hzero : config ∈ Multiset.replicate n 0 := by
      rw [← launched_references 1]
      have hledger : (initialState n).ledger [] =
          (launched n 1).references := add_zero _
      rw [← hledger]
      exact hmem
    rw [Multiset.eq_of_mem_replicate hzero]
    exact Nat.zero_lt_one

theorem accounted_of_run {trace : List (Option ℕ)} {s : ReloadState n}
    (hrun : Run ReloadMove (initialState n) trace s) :
    s.Accounted trace := by
  induction hrun with
  | nil => exact initialState_accounted
  | cons _ hmove ih => exact ih.move hmove

/-- A lost reference keeps its context for ever. -/
theorem not_freed_of_lost {trace : List (Option ℕ)} {s : ReloadState n}
    (hrun : Run ReloadMove (initialState n) trace s) {config : ℕ}
    (hpos : 0 < config) (hlost : some config ∈ trace) :
    s.configs.freed config = false := by
  have haccounted := accounted_of_run hrun
  have hcount : 0 < (s.ledger trace).count config := by
    rw [ReloadState.ledger, Multiset.count_add, count_lostAlong]
    exact Nat.add_pos_right _ (List.count_pos_iff.mpr hlost)
  have hloaded := haccounted.hloaded config (Multiset.count_pos.mp hcount)
  have hexact := haccounted.hexact config hpos hloaded
  exact Bool.eq_false_iff.mpr fun hfreed => hcount.ne' (hexact.hfreed.mp hfreed)

/-! ## Settled contexts -/

/-- The core works with `config`. -/
def ProcessorCtx.uses (ctx : ProcessorCtx) (config : ℕ) : Bool :=
  match ctx.pc with
  | .dropped _ => false
  | _ => ctx.configCtx = config

def ReloadState.users (s : ReloadState n) (config : ℕ) : ℕ :=
  (Finset.univ.filter fun core => (s.lcoreContexts core).uses config).card

/-- A reload has loaded `config`, the control core has dropped its reference
and every message that was enqueued for it has been processed. -/
structure ReloadState.Settled (s : ReloadState n) (config : ℕ) : Prop where
  hpos : 0 < config
  hloaded : config < s.loaded
  hcontrol : config ∉ s.control.references
  hring : ∀ core, config ∉ (s.lcoreContexts core).controlMsgRing
  hdequeued : ∀ core, (s.lcoreContexts core).pc ≠ .dequeued config
  hdropped : ∀ core, (s.lcoreContexts core).pc ≠ .dropped config

theorem ReloadState.Settled.count_core {s : ReloadState n} {config : ℕ}
    (hsettled : s.Settled config) (core : Fin n) :
    (s.lcoreContexts core).references.count config =
      if (s.lcoreContexts core).uses config then 1 else 0 := by
  have hring := List.count_eq_zero.mpr (hsettled.hring core)
  have hdequeued := hsettled.hdequeued core
  have hdropped := hsettled.hdropped core
  unfold ProcessorCtx.references ProcessorCtx.uses
  cases hpc : (s.lcoreContexts core).pc with
  | polling => simp [List.count_cons, hring]
  | dequeued new =>
      have hne : new ≠ config := by
        rintro rfl
        exact hdequeued hpc
      simp [List.count_cons, hring, hne]
  | dropped new =>
      have hne : new ≠ config := by
        rintro rfl
        exact hdropped hpc
      simp [hring, hne]

theorem ReloadState.Settled.count_references {s : ReloadState n} {config : ℕ}
    (hsettled : s.Settled config) :
    s.references.count config = s.users config := by
  rw [ReloadState.references, Multiset.count_add,
    Multiset.count_eq_zero.mpr hsettled.hcontrol, zero_add,
    Multiset.count_sum', Finset.sum_congr rfl fun core _ =>
      hsettled.count_core core, ReloadState.users, Finset.card_filter]

theorem reload_references_iff
    {trace : List (Option ℕ)}
    {s : ReloadState n}
    (hrun : Run ReloadMove (initialState n) trace s)
    {config : ℕ}
    (hsettled : s.Settled config) :
    (s.configs.count config = s.users config ∧
        (s.users config = 0 → s.configs.freed config = true)) ↔
      some config ∉ trace := by
  have hexact := (accounted_of_run hrun).hexact config hsettled.hpos
    hsettled.hloaded
  have hledger : (s.ledger trace).count config =
      s.users config + trace.count (some config) := by
    rw [ReloadState.ledger, Multiset.count_add, hsettled.count_references,
      count_lostAlong]
  have hcount := hexact.hcount
  rw [hledger] at hcount
  have hnone : trace.count (some config) = 0 ↔ some config ∉ trace :=
    List.count_eq_zero
  constructor
  · rintro ⟨hright, _⟩
    apply hnone.mp
    omega
  · intro hkept
    have hzero := hnone.mpr hkept
    constructor
    · omega
    · intro husers
      rw [hexact.hfreed, hledger]
      omega

/-! ## One core -/

theorem ReloadMove.kept {s next : ReloadState n} (hstep : ReloadStep s next)
    (hkept : ∀ new, ¬ Loses s next new) : ReloadMove s none next :=
  ⟨hstep, fun new => iff_of_false (by simp) (hkept new)⟩

/-- The reload of context 1 on one core, up to the reference for its
message. -/
def preparedReload : ReloadState 1 where
  configs := ((initialState 1).configs.create 1).incref 1
  loaded := 2
  reloadRequested := false
  control := .prepared 1 0
  lcoreContexts _ := ⟨0, [], .polling⟩

theorem preparedReload_run :
    Run ReloadMove (initialState 1) [none, none, none] preparedReload := by
  let requested : ReloadState 1 :=
    { initialState 1 with reloadRequested := true }
  let sending : ReloadState 1 :=
    { requested with
      configs := requested.configs.create 1
      loaded := 2
      reloadRequested := false
      control := .sending 1 0 }
  have hrequest : ReloadMove (initialState 1) none requested :=
    .kept (.signalHandler _) (not_loses_of_control_eq rfl)
  have hload : ReloadMove requested none sending :=
    .kept (.loadGlbFwdConfig requested rfl rfl)
      (not_loses_of_not_prepared fun _ _ => nofun)
  have hincref : ReloadMove sending none preparedReload :=
    .kept (.incref sending 1 0 rfl Nat.one_pos)
      (not_loses_of_not_prepared fun _ _ => nofun)
  exact ((Run.nil.cons hrequest).cons hload).cons hincref

theorem reload_references_installed :
    ∃ trace s, Run ReloadMove (initialState 1) trace s ∧ s.Settled 1 ∧
      s.users 1 = 1 ∧ s.configs.count 1 = 1 := by
  let queued : ReloadState 1 :=
    { preparedReload with control := .sending 1 1 }.withCore 0
      ⟨0, [1], .polling⟩
  let released : ReloadState 1 :=
    { queued with configs := queued.configs.decref 1, control := .idle }
  let dequeued : ReloadState 1 := released.withCore 0 ⟨0, [], .dequeued 1⟩
  let dropped : ReloadState 1 :=
    { dequeued with configs := dequeued.configs.decref 0 }.withCore 0
      ⟨0, [], .dropped 1⟩
  let installed : ReloadState 1 := dropped.withCore 0 ⟨1, [], .polling⟩
  have henqueue : ReloadMove preparedReload none queued :=
    .kept (.ringEnqueue preparedReload 1 0 rfl) (not_loses_enqueue _ _ _)
  have hrelease : ReloadMove queued none released :=
    .kept (.decref queued 1 rfl) (not_loses_of_not_prepared fun _ _ => nofun)
  have hdequeue : ReloadMove released none dequeued :=
    .kept (.ringDequeue released 0 1 [] rfl rfl) (not_loses_of_control_eq rfl)
  have hdrop : ReloadMove dequeued none dropped :=
    .kept (.dropOld dequeued 0 1 rfl) (not_loses_of_control_eq rfl)
  have hinstall : ReloadMove dropped none installed :=
    .kept (.install dropped 0 1 rfl) (not_loses_of_control_eq rfl)
  have hrun := ((((preparedReload_run.cons henqueue).cons hrelease).cons
    hdequeue).cons hdrop).cons hinstall
  have hcore : ∀ core, installed.lcoreContexts core = ⟨1, [], .polling⟩ := by
    intro core
    rw [Subsingleton.elim core 0]
    rfl
  have hsettled : installed.Settled 1 := by
    constructor
    · exact Nat.one_pos
    · exact Nat.lt_succ_self 1
    · exact Multiset.notMem_zero 1
    · intro core
      rw [hcore core]
      exact List.not_mem_nil
    · intro core
      rw [hcore core]
      exact nofun
    · intro core
      rw [hcore core]
      exact nofun
  have husers : installed.users 1 = 1 := rfl
  have hright := (reload_references_iff hrun hsettled).mpr (by decide)
  exact ⟨_, installed, hrun, hsettled, husers, hright.1⟩

/-- The one ring is full: nothing refers to context 1 and it is never freed. -/
theorem lost_reference_leaks :
    ∃ trace s, Run ReloadMove (initialState 1) trace s ∧ s.Settled 1 ∧
      s.users 1 = 0 ∧ s.configs.count 1 = 1 ∧
      ∀ later s', Run ReloadMove (initialState 1) (later ++ trace) s' →
        s'.configs.freed 1 = false := by
  let given : ReloadState 1 := { preparedReload with control := .sending 1 1 }
  let released : ReloadState 1 :=
    { given with configs := given.configs.decref 1, control := .idle }
  have hlose : ReloadMove preparedReload (some 1) given := by
    refine ⟨.ringEnqueueFails preparedReload 1 0 rfl, fun new => ?_⟩
    constructor
    · rintro ⟨rfl⟩
      exact ⟨0, rfl, rfl⟩
    · rintro ⟨_, hprepared, _⟩
      cases hprepared
      rfl
  have hrelease : ReloadMove given none released :=
    .kept (.decref given 1 rfl) (not_loses_of_not_prepared fun _ _ => nofun)
  have hrun := (preparedReload_run.cons hlose).cons hrelease
  have hsettled : released.Settled 1 := by
    constructor
    · exact Nat.one_pos
    · exact Nat.lt_succ_self 1
    · exact Multiset.notMem_zero 1
    · exact fun _ => List.not_mem_nil
    · exact fun _ => nofun
    · exact fun _ => nofun
  refine ⟨_, released, hrun, hsettled, rfl, rfl, fun later s' hlater => ?_⟩
  apply not_freed_of_lost hlater Nat.one_pos
  simp

end GlbDirector
