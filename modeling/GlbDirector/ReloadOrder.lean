import GlbDirector.ReloadLoops

/-!
# Messages and the order of reloads

Every message of the pool is free, in a hand or on a ring, so the pool never
runs dry for up to fifteen cores.  Contexts are installed in the order they
were loaded in, so no core goes back to an older table.
-/

namespace GlbDirector

open DirectorLoops

/-! ## Contexts of one core -/

/-- The contexts a core has and will have, in order. -/
def LcoreCtx.pending (ctx : LcoreCtx) : List ℕ :=
  match ctx.pc with
  | .dequeued new => ctx.configCtx :: new :: ctx.controlMsgRing
  | .dropped new => ctx.configCtx :: new :: ctx.controlMsgRing
  | _ => ctx.configCtx :: ctx.controlMsgRing

def LcoreCtx.newest (ctx : LcoreCtx) : ℕ := ctx.pending.getLastD 0

def LcorePc.held : LcorePc → ℕ
  | .dequeued _ => 1
  | .dropped _ => 1
  | .installed => 1
  | _ => 0

/-- The messages of the pool that the core has. -/
def LcoreCtx.held (ctx : LcoreCtx) : ℕ :=
  ctx.controlMsgRing.length + ctx.pc.held

def LcoreEffect.returned : LcoreEffect → ℕ
  | .mempoolPut => 1
  | _ => 0

/-- A step installs the next context or leaves the order alone. -/
theorem LcoreMove.pending {ctx ctx' : LcoreCtx} {effect : LcoreEffect}
    (hmove : LcoreMove ctx effect ctx') :
    ctx'.pending = ctx.pending ∨
      ∃ new, ctx.pending = ctx.configCtx :: ctx'.pending ∧
        ctx'.pending = new :: ctx.controlMsgRing ∧ ctx'.configCtx = new := by
  cases hmove with
  | ringEmpty hpc hring =>
      left
      simp only [LcoreCtx.pending, hpc]
  | readStop hpc =>
      left
      simp only [LcoreCtx.pending, hpc]
      cases ctx.directorStop <;> rfl
  | ringDequeue new rest hpc hring =>
      left
      simp only [LcoreCtx.pending, hpc, hring]
  | dropOld new hpc =>
      left
      simp only [LcoreCtx.pending, hpc]
  | install new hpc =>
      right
      refine ⟨new, ?_, ?_, rfl⟩
      · simp only [LcoreCtx.pending, hpc]
      · simp only [LcoreCtx.pending]
  | mempoolPut hpc =>
      left
      simp only [LcoreCtx.pending, hpc]

theorem LcoreMove.held {ctx ctx' : LcoreCtx} {effect : LcoreEffect}
    (hmove : LcoreMove ctx effect ctx') :
    ctx'.held + effect.returned = ctx.held := by
  cases hmove with
  | ringEmpty hpc hring => rw [LcoreCtx.held, LcoreCtx.held, hpc]; rfl
  | readStop hpc =>
      rw [LcoreCtx.held, LcoreCtx.held, hpc]
      cases ctx.directorStop <;> rfl
  | ringDequeue new rest hpc hring =>
      rw [LcoreCtx.held, LcoreCtx.held, hpc, hring]
      rfl
  | dropOld new hpc => rw [LcoreCtx.held, LcoreCtx.held, hpc]; rfl
  | install new hpc => rw [LcoreCtx.held, LcoreCtx.held, hpc]; rfl
  | mempoolPut hpc => rw [LcoreCtx.held, LcoreCtx.held, hpc]; rfl

theorem LcoreMove.newest {ctx ctx' : LcoreCtx} {effect : LcoreEffect}
    (hmove : LcoreMove ctx effect ctx') : ctx'.newest = ctx.newest := by
  unfold LcoreCtx.newest
  rcases hmove.pending with hsame | ⟨new, hpending, hpending', _⟩
  · rw [hsame]
  · rw [hpending, hpending', List.getLastD_cons, List.getLastD_cons,
      List.getLastD_cons]

theorem LcoreMove.ring_length {ctx ctx' : LcoreCtx} {effect : LcoreEffect}
    (hmove : LcoreMove ctx effect ctx') :
    ctx'.controlMsgRing.length ≤ ctx.controlMsgRing.length := by
  cases hmove with
  | ringDequeue new rest hpc hring =>
      rw [hring]
      exact Nat.le_succ _
  | _ => exact le_rfl

theorem LcoreCtx.pending_head? (ctx : LcoreCtx) :
    ctx.pending.head? = some ctx.configCtx := by
  unfold LcoreCtx.pending
  cases ctx.pc <;> rfl

theorem LcoreCtx.pending_enqueue (ctx : LcoreCtx) (new : ℕ) :
    (ctx.enqueue new).pending = ctx.pending ++ [new] := by
  unfold LcoreCtx.pending LcoreCtx.enqueue
  cases ctx.pc <;> rfl

theorem LcoreCtx.newest_enqueue (ctx : LcoreCtx) (new : ℕ) :
    (ctx.enqueue new).newest = new := by
  rw [LcoreCtx.newest, ctx.pending_enqueue, List.getLastD_concat]

theorem LcoreCtx.held_enqueue (ctx : LcoreCtx) (new : ℕ) :
    (ctx.enqueue new).held = ctx.held + 1 := by
  simp only [LcoreCtx.held, LcoreCtx.enqueue, List.length_append,
    List.length_cons, List.length_nil]
  omega

section Loops

variable {n : ℕ} {valid : ℕ → Bool} {s s' : DirectorLoops n}

/-! ## Messages -/

def DirectorLoops.lcoreTotal (s : DirectorLoops n)
    (weight : LcoreCtx → ℕ) : ℕ :=
  ∑ core, weight (s.lcoreContexts core)

theorem lcoreTotal_withLcore (s : DirectorLoops n) (core : Fin n)
    (ctx : LcoreCtx) (weight : LcoreCtx → ℕ) :
    (s.withLcore core ctx).lcoreTotal weight +
        weight (s.lcoreContexts core) =
      s.lcoreTotal weight + weight ctx := by
  have hothers : ∑ other ∈ Finset.univ.erase core,
        weight ((s.withLcore core ctx).lcoreContexts other) =
      ∑ other ∈ Finset.univ.erase core, weight (s.lcoreContexts other) := by
    apply Finset.sum_congr rfl
    intro other hother
    rw [withLcore_of_ne s (Finset.ne_of_mem_erase hother)]
  rw [DirectorLoops.lcoreTotal, DirectorLoops.lcoreTotal,
    ← Finset.sum_erase_add _ _ (Finset.mem_univ core), hothers,
    withLcore_self, ← Finset.sum_erase_add _ _ (Finset.mem_univ core)]
  omega

/-- The message in the hand of the control loop. -/
def ControlLoopPc.held : ControlLoopPc n → ℕ
  | .holding _ _ => 1
  | .prepared _ _ => 1
  | .refused _ _ => 1
  | _ => 0

/-- Every message of the pool is free, in a hand or on a ring. -/
structure DirectorLoops.Buffered (s : DirectorLoops n) : Prop where
  messages : s.msgPool + s.control.held + s.lcoreTotal LcoreCtx.held =
    msgPoolSize
  rings : ∀ core, (s.lcoreContexts core).controlMsgRing.length ≤
    controlMsgRingCapacity

theorem launch_buffered (busy : Fin n → Bool) :
    (DirectorLoops.launch busy).Buffered where
  messages := by
    have hheld : ∀ core, ((DirectorLoops.launch busy).lcoreContexts
        core).held = 0 := by
      intro core
      show LcoreCtx.held ⟨0, [], false, _⟩ = 0
      cases busy core <;> rfl
    have htotal : (DirectorLoops.launch busy).lcoreTotal LcoreCtx.held = 0 :=
      Finset.sum_eq_zero fun core _ => hheld core
    rw [htotal]
    rfl
  rings core := Nat.zero_le _

/-- A step of the control loop that leaves the rings alone. -/
theorem DirectorLoops.Buffered.turn (hbuffered : s.Buffered)
    (hcontexts : s'.lcoreContexts = s.lcoreContexts)
    (hmessages : s'.msgPool + s'.control.held =
      s.msgPool + s.control.held) : s'.Buffered where
  messages := by
    have hkept := hbuffered.messages
    rw [DirectorLoops.lcoreTotal] at hkept ⊢
    rw [hcontexts, hmessages]
    exact hkept
  rings := by
    rw [hcontexts]
    exact hbuffered.rings

/-- A step that changes one core. -/
theorem DirectorLoops.Buffered.withLcore (hbuffered : s.Buffered)
    (core : Fin n) {ctx : LcoreCtx}
    (hcontexts : s'.lcoreContexts = (s.withLcore core ctx).lcoreContexts)
    (hring : ctx.controlMsgRing.length ≤ controlMsgRingCapacity)
    (hmessages : s'.msgPool + s'.control.held + ctx.held =
      s.msgPool + s.control.held + (s.lcoreContexts core).held) :
    s'.Buffered where
  messages := by
    have hkept := hbuffered.messages
    have htotal := lcoreTotal_withLcore s core ctx LcoreCtx.held
    simp only [DirectorLoops.lcoreTotal] at hkept htotal ⊢
    rw [hcontexts]
    omega
  rings := by
    rw [hcontexts]
    exact forall_withLcore
      (fun ctx => ctx.controlMsgRing.length ≤ controlMsgRingCapacity)
      hbuffered.rings hring

theorem buffered_controlMove (hbuffered : s.Buffered)
    (hmove : s.ControlMove valid s') : s'.Buffered := by
  cases hmove with
  | readStop hcontrol =>
      refine hbuffered.turn rfl ?_
      rw [hcontrol]
      cases s.directorStop <;> rfl
  | stopLcore core hcontrol =>
      refine hbuffered.withLcore core rfl (hbuffered.rings core) ?_
      rw [hcontrol]
      rfl
  | stop core hcontrol hcore =>
      exact hbuffered.turn rfl (by rw [hcontrol]; rfl)
  | readRequest hcontrol =>
      refine hbuffered.turn rfl ?_
      rw [hcontrol]
      cases s.reloadRequested <;> rfl
  | resetRequest hcontrol =>
      exact hbuffered.turn rfl (by rw [hcontrol]; rfl)
  | load hcontrol hvalid =>
      exact hbuffered.turn rfl (by rw [hcontrol]; rfl)
  | exit hcontrol hinvalid =>
      exact hbuffered.turn rfl (by rw [hcontrol]; rfl)
  | mempoolGet new core hcontrol hpool =>
      refine hbuffered.turn rfl ?_
      rw [hcontrol]
      exact Nat.sub_add_cancel (Nat.one_le_iff_ne_zero.mpr hpool)
  | mempoolGetFails new core hcontrol hpool =>
      exact hbuffered.turn rfl (by rw [hcontrol]; rfl)
  | incref new core hcontrol =>
      exact hbuffered.turn rfl (by rw [hcontrol]; rfl)
  | ringEnqueue new core hcontrol hring =>
      refine hbuffered.withLcore core rfl ?_ ?_
      · rw [LcoreCtx.enqueue, List.length_append]
        exact hring
      · rw [hcontrol, LcoreCtx.held_enqueue]
        show s.msgPool + 0 + _ = s.msgPool + 1 + _
        omega
  | ringEnqueueFails new core hcontrol hring =>
      exact hbuffered.turn rfl (by rw [hcontrol]; rfl)
  | mempoolPut new core hcontrol =>
      exact hbuffered.turn rfl (by rw [hcontrol]; rfl)
  | decref new core hcontrol hcore =>
      exact hbuffered.turn rfl (by rw [hcontrol]; rfl)

theorem buffered_lcoreNext {core : Fin n} (hbuffered : s.Buffered)
    (hnext : s.lcoreNext core = some s') : s'.Buffered := by
  obtain ⟨effect, ctx', hmove, rfl⟩ := DirectorLoops.lcoreNext_move hnext
  have hheld := hmove.held
  refine hbuffered.withLcore core ?_
    (hmove.ring_length.trans (hbuffered.rings core)) ?_
  · simp only [DirectorLoops.withLcore, apply_lcoreContexts]
  · rw [← hheld]
    cases effect with
    | none => rfl
    | decref configCtx => rfl
    | mempoolPut =>
        show s.msgPool + 1 + s.control.held + ctx'.held =
          s.msgPool + s.control.held + (ctx'.held + 1)
        omega

theorem LoopStep.buffered {event : LoopEvent n}
    (hstep : LoopStep valid s event s') (hbuffered : s.Buffered) :
    s'.Buffered := by
  cases event with
  | writeFile =>
      obtain rfl := hstep
      exact hbuffered.turn rfl rfl
  | reloadSignal =>
      obtain rfl := hstep
      exact hbuffered.turn rfl rfl
  | stopSignal =>
      obtain rfl := hstep
      exact hbuffered.turn rfl rfl
  | control =>
      exact buffered_controlMove hbuffered
        (DirectorLoops.controlNext_move hstep)
  | lcore core => exact buffered_lcoreNext hbuffered hstep.2

theorem LoopReachable.buffered {busy : Fin n → Bool}
    (hreach : LoopReachable valid (.launch busy) s) : s.Buffered := by
  induction hreach with
  | refl => exact launch_buffered busy
  | tail _ hlast ih =>
      obtain ⟨event, hstep⟩ := hlast
      exact hstep.buffered ih

theorem LcoreCtx.held_le {ctx : LcoreCtx}
    (hring : ctx.controlMsgRing.length ≤ controlMsgRingCapacity) :
    ctx.held ≤ 0x10 := by
  have hcapacity : controlMsgRingCapacity = 15 := rfl
  have hpc : ctx.pc.held ≤ 1 := by
    cases ctx.pc <;> simp [LcorePc.held]
  unfold LcoreCtx.held
  omega

theorem LoopStep.control_eq {event : LoopEvent n}
    (hstep : LoopStep valid s event s') (hevent : event ≠ .control) :
    s'.control = s.control := by
  cases event with
  | writeFile => rw [hstep]
  | reloadSignal => rw [hstep]
  | stopSignal => rw [hstep]
  | control => exact absurd rfl hevent
  | lcore core =>
      obtain ⟨effect, ctx', _, rfl⟩ := DirectorLoops.lcoreNext_move hstep.2
      cases effect <;> rfl

/-- The step passes over the core: there is no message for it, or the ring
refuses the message. -/
inductive DirectorLoops.PassesOver (s s' : DirectorLoops n) (core : Fin n) :
    Prop where
  | noMessage (new : ℕ) (hcontrol : s.control = .sending new core)
      (hnext : s'.control = .sending new (core + 1))
  | noRoom (new : ℕ) (hcontrol : s.control = .prepared new core)
      (hnext : s'.control = .refused new core)

theorem LoopStep.event_of_passesOver {event : LoopEvent n}
    (hstep : LoopStep valid s event s') {core : Fin n}
    (hpasses : s.PassesOver s' core) : event = .control := by
  by_contra hevent
  have hsame := hstep.control_eq hevent
  cases hpasses with
  | noMessage new hcontrol hnext =>
      rw [hcontrol, hnext, ControlLoopPc.sending.injEq] at hsame
      exact absurd hsame.2 (Nat.succ_ne_self _)
  | noRoom new hcontrol hnext =>
      rw [hcontrol, hnext] at hsame
      cases hsame

/-- A core is passed over only when its ring is full. -/
theorem LoopStep.ring_of_passesOver {event : LoopEvent n}
    (hstep : LoopStep valid s event s')
    (hpool : ∀ new core, s.control = .sending new core → s.msgPool ≠ 0)
    {core : Fin n} (hpasses : s.PassesOver s' core) :
    controlMsgRingCapacity ≤
      (s.lcoreContexts core).controlMsgRing.length := by
  obtain rfl := hstep.event_of_passesOver hpasses
  have hmove : s.controlNext valid = some s' := hstep
  cases hpasses with
  | noMessage new hcontrol hnext =>
      rw [DirectorLoops.controlNext, hcontrol] at hmove
      simp only [core.2, dif_pos, if_neg (hpool new core hcontrol)] at hmove
      obtain rfl := Option.some.inj hmove
      cases hnext
  | noRoom new hcontrol hnext =>
      rw [DirectorLoops.controlNext, hcontrol] at hmove
      by_contra hroom
      simp only [if_pos (Nat.lt_of_not_le hroom)] at hmove
      obtain rfl := Option.some.inj hmove
      cases hnext

/-- Messages are conserved.  With at most fifteen cores there is always one for
the next core, and a core is passed over only when its ring is full. -/
theorem reload_messages_suffice
    {busy : Fin n → Bool}
    (hreach : LoopReachable valid (.launch busy) s) :
    s.msgPool + s.control.held + s.lcoreTotal LcoreCtx.held = msgPoolSize ∧
      (n ≤ 15 →
        (∀ new core, s.control = .sending new core → s.msgPool ≠ 0) ∧
        ∀ event s' core, LoopStep valid s event s' → s.PassesOver s' core →
          (s.lcoreContexts core).controlMsgRing.length =
            controlMsgRingCapacity) := by
  have hbuffered := hreach.buffered
  refine ⟨hbuffered.messages, fun hn => ?_⟩
  have hpool : ∀ new core, s.control = .sending new core →
      s.msgPool ≠ 0 := by
    intro new core hcontrol hempty
    have hmessages := hbuffered.messages
    rw [hcontrol, hempty] at hmessages
    have htotal : s.lcoreTotal LcoreCtx.held ≤ n * 0x10 := by
      calc
        s.lcoreTotal LcoreCtx.held ≤ ∑ _core : Fin n, 0x10 :=
          Finset.sum_le_sum fun core _ =>
            LcoreCtx.held_le (hbuffered.rings core)
        _ = n * 0x10 := by
          rw [Finset.sum_const, Finset.card_univ, Fintype.card_fin,
            smul_eq_mul]
    have hzero : (ControlLoopPc.sending (n := n) new core).held = 0 := rfl
    have hsize : msgPoolSize = 255 := rfl
    omega
  refine ⟨hpool, ?_⟩
  intro event s' core hstep hpasses
  exact le_antisymm (hbuffered.rings core)
    (hstep.ring_of_passesOver hpool hpasses)

/-- A signal arrives before every step of the control loop, and the core never
looks at its ring. -/
def unreadState : ℕ → DirectorLoops 1
  | 0 => .launch fun _ => true
  | k + 1 =>
      let s := unreadState k
      let signalled :=
        { s with reloadRequested := true, signalled := s.file }
      (signalled.controlNext fun _ => true).getD signalled

theorem unreadState_reachable (k : ℕ) :
    LoopReachable (fun _ => true) (.launch fun _ => true)
      (unreadState k) := by
  induction k with
  | zero => exact .refl
  | succ k ih =>
      have hsignal := ih.tail ⟨.reloadSignal, rfl⟩
      rw [unreadState]
      cases hnext : DirectorLoops.controlNext (fun _ => true)
          { unreadState k with
            reloadRequested := true, signalled := (unreadState k).file } with
      | none => exact hsignal
      | some s' => exact hsignal.tail ⟨.control, hnext⟩

/-- The sixteenth reload passes over the core. -/
theorem reload_messages_suffice_unread :
    ∃ s' : DirectorLoops 1,
      LoopStep (fun _ => true) (unreadState 126) .control s' ∧
        (unreadState 126).PassesOver s' 0 ∧
        ((unreadState 126).lcoreContexts 0).controlMsgRing.length =
          controlMsgRingCapacity := by
  have hcontrol : (unreadState 126).control = .prepared 16 0 := by
    decide +kernel
  obtain ⟨s', hstep⟩ : ∃ s', (unreadState 126).controlNext (fun _ => true) =
      some s' := Option.isSome_iff_exists.mp (by decide +kernel)
  have hpasses : (unreadState 126).PassesOver s' 0 := by
    refine .noRoom 16 hcontrol ?_
    have hnext : ((unreadState 126).controlNext fun _ => true).map
        DirectorLoops.control = some (.refused 16 0) := by decide +kernel
    rw [hstep] at hnext
    exact Option.some.inj hnext
  exact ⟨s', hstep, hpasses,
    ((reload_messages_suffice (unreadState_reachable 126)).2
      (by decide)).2 .control s' 0 hstep hpasses⟩

/-! ## The order of contexts -/

/-- The context that is being sent. -/
def ControlLoopPc.newConfigCtx : ControlLoopPc n → Option ℕ
  | .sending new _ => some new
  | .holding new _ => some new
  | .prepared new _ => some new
  | .refused new _ => some new
  | _ => none

/-- Later contexts hold later files, and each core has its contexts in
order. -/
structure DirectorLoops.InOrder (s : DirectorLoops n) : Prop where
  pending : ∀ core, (s.lcoreContexts core).pending.Pairwise (· ≤ ·) ∧
    ∀ config ∈ (s.lcoreContexts core).pending, config < s.loaded
  sent : ∀ new, s.control.newConfigCtx = some new → new + 1 = s.loaded
  contents : ∀ i j, i ≤ j → j < s.loaded → s.contents i ≤ s.contents j
  file : ∀ i, i < s.loaded → s.contents i ≤ s.file
  signalled : s.signalled ≤ s.file

theorem launch_inOrder (busy : Fin n → Bool) :
    (DirectorLoops.launch busy).InOrder where
  pending core := by
    have hpending : ((DirectorLoops.launch busy).lcoreContexts
        core).pending = [0] := by
      show LcoreCtx.pending ⟨0, [], false, _⟩ = [0]
      cases busy core <;> rfl
    rw [hpending]
    exact ⟨List.pairwise_singleton _ _, by simp [DirectorLoops.launch]⟩
  sent new hnew := by cases hnew
  contents i j _ _ := le_rfl
  file i _ := le_rfl
  signalled := le_rfl

/-- A step that leaves the cores and the contexts alone. -/
theorem DirectorLoops.InOrder.turn (horder : s.InOrder)
    (hcontexts : s'.lcoreContexts = s.lcoreContexts)
    (hloaded : s'.loaded = s.loaded) (hcontents : s'.contents = s.contents)
    (hnew : ∀ new, s'.control.newConfigCtx = some new →
      s.control.newConfigCtx = some new)
    (hfile : s.file ≤ s'.file) (hsignalled : s'.signalled ≤ s'.file) :
    s'.InOrder where
  pending := by
    rw [hcontexts, hloaded]
    exact horder.pending
  sent new hsent := by
    rw [hloaded]
    exact horder.sent new (hnew new hsent)
  contents := by
    rw [hcontents, hloaded]
    exact horder.contents
  file i hi := by
    rw [hloaded] at hi
    rw [hcontents]
    exact (horder.file i hi).trans hfile
  signalled := hsignalled

/-- A step that changes one core. -/
theorem DirectorLoops.InOrder.withLcore (horder : s.InOrder) (core : Fin n)
    {ctx : LcoreCtx}
    (hpending : ctx.pending.Pairwise (· ≤ ·) ∧
      ∀ config ∈ ctx.pending, config < s.loaded) :
    (s.withLcore core ctx).InOrder where
  pending := forall_withLcore
    (fun ctx => ctx.pending.Pairwise (· ≤ ·) ∧
      ∀ config ∈ ctx.pending, config < s.loaded) horder.pending hpending
  sent := horder.sent
  contents := horder.contents
  file := horder.file
  signalled := horder.signalled

theorem DirectorLoops.InOrder.load (horder : s.InOrder) :
    DirectorLoops.InOrder { s with
      configs := s.configs.create s.loaded
      contents := Function.update s.contents s.loaded s.file
      loaded := s.loaded + 1
      control := .sending s.loaded 0 } where
  pending core := by
    obtain ⟨hsorted, hbounded⟩ := horder.pending core
    exact ⟨hsorted, fun config hmem =>
      (hbounded config hmem).trans (Nat.lt_succ_self _)⟩
  sent new hnew := by
    rw [← Option.some.inj hnew]
  contents i j hle hj := by
    show Function.update s.contents s.loaded s.file i ≤
      Function.update s.contents s.loaded s.file j
    rcases Nat.lt_succ_iff_lt_or_eq.mp hj with hold | rfl
    · rw [Function.update_of_ne (hle.trans_lt hold).ne,
        Function.update_of_ne hold.ne]
      exact horder.contents i j hle hold
    · rw [Function.update_self]
      rcases hle.lt_or_eq with hlt | rfl
      · rw [Function.update_of_ne hlt.ne]
        exact horder.file i hlt
      · rw [Function.update_self]
  file i hi := by
    show Function.update s.contents s.loaded s.file i ≤ s.file
    rcases Nat.lt_succ_iff_lt_or_eq.mp hi with hold | rfl
    · rw [Function.update_of_ne hold.ne]
      exact horder.file i hold
    · rw [Function.update_self]
  signalled := horder.signalled

theorem DirectorLoops.InOrder.enqueue (horder : s.InOrder) {core : Fin n}
    {new : ℕ} (hnew : s.control.newConfigCtx = some new) :
    ((s.lcoreContexts core).enqueue new).pending.Pairwise (· ≤ ·) ∧
      ∀ config ∈ ((s.lcoreContexts core).enqueue new).pending,
        config < s.loaded := by
  obtain ⟨hsorted, hbounded⟩ := horder.pending core
  have hlast := horder.sent new hnew
  rw [LcoreCtx.pending_enqueue]
  constructor
  · refine List.pairwise_append.mpr
      ⟨hsorted, List.pairwise_singleton _ _, ?_⟩
    intro config hmem other hother
    rw [List.mem_singleton.mp hother]
    have hlt := hbounded config hmem
    omega
  · intro config hmem
    rcases List.mem_append.mp hmem with hmem | hmem
    · exact hbounded config hmem
    · rw [List.mem_singleton.mp hmem]
      omega

theorem inOrder_controlMove (horder : s.InOrder)
    (hmove : s.ControlMove valid s') : s'.InOrder := by
  cases hmove with
  | readStop hcontrol =>
      refine horder.turn rfl rfl rfl ?_ le_rfl horder.signalled
      intro new hnew
      cases hstop : s.directorStop with
      | true => simp [hstop, ControlLoopPc.newConfigCtx] at hnew
      | false => simp [hstop, ControlLoopPc.newConfigCtx] at hnew
  | stopLcore core hcontrol =>
      have hturn : DirectorLoops.InOrder
          { s with control := .stopping (core + 1) } :=
        horder.turn rfl rfl rfl (fun new hnew => by cases hnew) le_rfl
          horder.signalled
      exact hturn.withLcore core (horder.pending core)
  | stop core hcontrol hcore =>
      exact horder.turn rfl rfl rfl (fun new hnew => by cases hnew) le_rfl
        horder.signalled
  | readRequest hcontrol =>
      refine horder.turn rfl rfl rfl ?_ le_rfl horder.signalled
      intro new hnew
      cases hrequested : s.reloadRequested with
      | true => simp [hrequested, ControlLoopPc.newConfigCtx] at hnew
      | false => simp [hrequested, ControlLoopPc.newConfigCtx] at hnew
  | resetRequest hcontrol =>
      exact horder.turn rfl rfl rfl (fun new hnew => by cases hnew) le_rfl
        horder.signalled
  | load hcontrol hvalid => exact horder.load
  | exit hcontrol hinvalid =>
      exact horder.turn rfl rfl rfl (fun new hnew => by cases hnew) le_rfl
        horder.signalled
  | mempoolGet new core hcontrol hpool =>
      refine horder.turn rfl rfl rfl ?_ le_rfl horder.signalled
      intro sent hsent
      rw [hcontrol]
      exact hsent
  | mempoolGetFails new core hcontrol hpool =>
      refine horder.turn rfl rfl rfl ?_ le_rfl horder.signalled
      intro sent hsent
      rw [hcontrol]
      exact hsent
  | incref new core hcontrol =>
      refine horder.turn rfl rfl rfl ?_ le_rfl horder.signalled
      intro sent hsent
      rw [hcontrol]
      exact hsent
  | ringEnqueue new core hcontrol hring =>
      have hnew : s.control.newConfigCtx = some new := by
        rw [hcontrol]
        rfl
      have hturn : DirectorLoops.InOrder
          { s with control := .sending new (core + 1) } :=
        horder.turn rfl rfl rfl (fun sent hsent => hnew.trans hsent) le_rfl
          horder.signalled
      exact (hturn.withLcore core (horder.enqueue hnew)).turn rfl rfl rfl
        (fun sent hsent => hsent) le_rfl horder.signalled
  | ringEnqueueFails new core hcontrol hring =>
      refine horder.turn rfl rfl rfl ?_ le_rfl horder.signalled
      intro sent hsent
      rw [hcontrol]
      exact hsent
  | mempoolPut new core hcontrol =>
      refine horder.turn rfl rfl rfl ?_ le_rfl horder.signalled
      intro sent hsent
      rw [hcontrol]
      exact hsent
  | decref new core hcontrol hcore =>
      exact horder.turn rfl rfl rfl (fun new hnew => by cases hnew) le_rfl
        horder.signalled

theorem LcoreMove.inOrder {ctx ctx' : LcoreCtx} {effect : LcoreEffect}
    {loaded : ℕ} (hmove : LcoreMove ctx effect ctx')
    (hpending : ctx.pending.Pairwise (· ≤ ·) ∧
      ∀ config ∈ ctx.pending, config < loaded) :
    (ctx'.pending.Pairwise (· ≤ ·) ∧
      ∀ config ∈ ctx'.pending, config < loaded) ∧
        ctx.configCtx ≤ ctx'.configCtx := by
  obtain ⟨hsorted, hbounded⟩ := hpending
  rcases hmove.pending with hsame | ⟨new, hnext, hnew, hconfig⟩
  · have hhead : ctx'.pending.head? = ctx.pending.head? :=
      congrArg List.head? hsame
    rw [ctx.pending_head?, ctx'.pending_head?] at hhead
    rw [hsame, Option.some.inj hhead]
    exact ⟨⟨hsorted, hbounded⟩, le_rfl⟩
  · rw [hnext] at hsorted hbounded
    obtain ⟨hfirst, hrest⟩ := List.pairwise_cons.mp hsorted
    refine ⟨⟨hrest, fun config hmem =>
      hbounded config (List.mem_cons_of_mem _ hmem)⟩, ?_⟩
    rw [hconfig]
    exact hfirst new (by rw [hnew]; exact List.mem_cons_self)

theorem inOrder_lcoreNext {core : Fin n} (horder : s.InOrder)
    (hnext : s.lcoreNext core = some s') : s'.InOrder := by
  obtain ⟨effect, ctx', hmove, rfl⟩ := DirectorLoops.lcoreNext_move hnext
  have happly : (s.apply effect).InOrder := by
    cases effect with
    | none => exact horder
    | decref configCtx =>
        exact horder.turn rfl rfl rfl (fun _ hnew => hnew) le_rfl
          horder.signalled
    | mempoolPut =>
        exact horder.turn rfl rfl rfl (fun _ hnew => hnew) le_rfl
          horder.signalled
  have hloaded : (s.apply effect).loaded = s.loaded := by
    cases effect <;> rfl
  have hpending := (hmove.inOrder (horder.pending core)).1
  rw [← hloaded] at hpending
  exact happly.withLcore core hpending

theorem LoopStep.inOrder {event : LoopEvent n}
    (hstep : LoopStep valid s event s') (horder : s.InOrder) :
    s'.InOrder := by
  cases event with
  | writeFile =>
      obtain rfl := hstep
      exact horder.turn rfl rfl rfl (fun _ hnew => hnew) (Nat.le_succ _)
        (horder.signalled.trans (Nat.le_succ _))
  | reloadSignal =>
      obtain rfl := hstep
      exact horder.turn rfl rfl rfl (fun _ hnew => hnew) le_rfl le_rfl
  | stopSignal =>
      obtain rfl := hstep
      exact horder.turn rfl rfl rfl (fun _ hnew => hnew) le_rfl
        horder.signalled
  | control =>
      exact inOrder_controlMove horder (DirectorLoops.controlNext_move hstep)
  | lcore core => exact inOrder_lcoreNext horder hstep.2

theorem LoopReachable.inOrder {busy : Fin n → Bool}
    (hreach : LoopReachable valid (.launch busy) s) : s.InOrder := by
  induction hreach with
  | refl => exact launch_inOrder busy
  | tail _ hlast ih =>
      obtain ⟨event, hstep⟩ := hlast
      exact hstep.inOrder ih

/-! ## No core goes back -/

/-- The file that the table of a core was read from. -/
def DirectorLoops.serves (s : DirectorLoops n) (core : Fin n) : ℕ :=
  s.contents (s.lcoreContexts core).configCtx

theorem DirectorLoops.InOrder.serves_le (horder : s.InOrder) {core : Fin n}
    (hcontents : ∀ i, i < s.loaded → s'.contents i = s.contents i)
    (hle : (s.lcoreContexts core).configCtx ≤
      (s'.lcoreContexts core).configCtx)
    (hlt : (s'.lcoreContexts core).configCtx < s.loaded) :
    s.serves core ≤ s'.serves core := by
  rw [DirectorLoops.serves, DirectorLoops.serves, hcontents _ hlt]
  exact horder.contents _ _ hle hlt

theorem DirectorLoops.InOrder.configCtx_lt (horder : s.InOrder)
    (core : Fin n) : (s.lcoreContexts core).configCtx < s.loaded := by
  apply (horder.pending core).2
  exact List.mem_of_mem_head? (s.lcoreContexts core).pending_head?

/-- The control loop changes no context that is in use. -/
theorem serves_le_controlMove (horder : s.InOrder)
    (hmove : s.ControlMove valid s') (core : Fin n) :
    s.serves core ≤ s'.serves core := by
  have hlt := horder.configCtx_lt core
  cases hmove with
  | load hcontrol hvalid =>
      refine horder.serves_le (fun i hi => ?_) le_rfl hlt
      exact Function.update_of_ne hi.ne _ _
  | stopLcore other hcontrol =>
      have hconfig : ((s.withLcore other (s.lcoreContexts
          other).stop).lcoreContexts core).configCtx =
            (s.lcoreContexts core).configCtx := by
        by_cases hother : core = other
        · rw [hother, withLcore_self]
          rfl
        · rw [withLcore_of_ne s hother]
      exact horder.serves_le (fun _ _ => rfl) hconfig.ge
        (hconfig.trans_lt hlt)
  | ringEnqueue new other hcontrol hring =>
      have hconfig : ((s.withLcore other ((s.lcoreContexts
          other).enqueue new)).lcoreContexts core).configCtx =
            (s.lcoreContexts core).configCtx := by
        by_cases hother : core = other
        · rw [hother, withLcore_self]
          rfl
        · rw [withLcore_of_ne s hother]
      exact horder.serves_le (fun _ _ => rfl) hconfig.ge
        (hconfig.trans_lt hlt)
  | _ => exact le_rfl

theorem serves_le_lcoreNext (horder : s.InOrder) {other : Fin n}
    (hnext : s.lcoreNext other = some s') (core : Fin n) :
    s.serves core ≤ s'.serves core := by
  have horder' := inOrder_lcoreNext horder hnext
  obtain ⟨effect, ctx', hmove, rfl⟩ := DirectorLoops.lcoreNext_move hnext
  have hcontents : ((s.apply effect).withLcore other ctx').contents =
      s.contents := by
    cases effect <;> rfl
  have hloaded : ((s.apply effect).withLcore other ctx').loaded =
      s.loaded := by
    cases effect <;> rfl
  have hlt := horder'.configCtx_lt core
  rw [hloaded] at hlt
  refine horder.serves_le (fun i _ => congrFun hcontents i) ?_ hlt
  by_cases hother : core = other
  · rw [hother, withLcore_self]
    exact (hmove.inOrder (horder.pending other)).2
  · rw [withLcore_of_ne _ hother, apply_lcoreContexts]

theorem LoopStep.serves_le {event : LoopEvent n}
    (hstep : LoopStep valid s event s') (horder : s.InOrder)
    (core : Fin n) : s.serves core ≤ s'.serves core := by
  cases event with
  | writeFile =>
      obtain rfl := hstep
      exact le_rfl
  | reloadSignal =>
      obtain rfl := hstep
      exact le_rfl
  | stopSignal =>
      obtain rfl := hstep
      exact le_rfl
  | control =>
      exact serves_le_controlMove horder
        (DirectorLoops.controlNext_move hstep) core
  | lcore other => exact serves_le_lcoreNext horder hstep.2 core

/-- Along every run of the loops each core only moves to newer tables. -/
theorem tables_never_go_back
    {busy : Fin n → Bool}
    (hreach : LoopReachable valid (.launch busy) s)
    (hrun : LoopReachable valid s s')
    (core : Fin n) :
    s.serves core ≤ s'.serves core := by
  have hboth : s'.InOrder ∧ s.serves core ≤ s'.serves core := by
    induction hrun with
    | refl => exact ⟨hreach.inOrder, le_rfl⟩
    | tail _ hlast ih =>
        obtain ⟨event, hstep⟩ := hlast
        exact ⟨hstep.inOrder ih.1, ih.2.trans (hstep.serves_le ih.1 core)⟩
  exact hboth.2

theorem turnState_run (j k : ℕ) :
    LoopReachable (fun _ => true) (turnState j) (turnState (j + k)) := by
  induction k with
  | zero => exact .refl
  | succ k ih =>
      exact ih.tail ⟨turnEvent (j + k),
        (turnState_step (turnState_running (j + k))).1⟩

theorem tables_never_go_back_reloaded :
    (turnState 7).serves 0 = 0 ∧ (turnState (7 + 20)).serves 0 = 1 ∧
      (turnState 7).serves 0 ≤ (turnState (7 + 20)).serves 0 :=
  ⟨by decide +kernel, by decide +kernel,
    tables_never_go_back (turnState_reachable 7) (turnState_run 7 20) 0⟩

end Loops

end GlbDirector
