import GlbDirector.XdpHandover

/-!
# Reloads serve newer files

As long as no reload is given up while its process is still on its way, and
no process is started by hand beside another, the interfaces never go back to
older files.  Once a reload has been reported READY, every interface serves
files at least as new as those on disk when the reload was asked for.
-/

namespace GlbDirector

open ByteCodec

/-! ## At most one process is on its way -/

/-- The process will go on without waiting for a child. -/
def DirectorPc.Active : DirectorPc → Prop
  | starting => True
  | configured _ => True
  | synced => True
  | attaching => True
  | waiting => True
  | _ => False

/-- The process goes on, or is about to after the failure of its child. -/
def Host.Proceeds (h : Host) (pid : ℕ) : Prop :=
  (h.process pid).pc.Active ∨
    ∃ child, (h.process pid).pc = .reloading child ∧
      (h.process child).pc.Gone ∧ (h.process child).notified = false

theorem DirectorPc.Active.not_gone {pc : DirectorPc} (hactive : pc.Active) :
    ¬ pc.Gone := by
  cases pc <;> simp_all [DirectorPc.Active, DirectorPc.Gone]

theorem DirectorPc.active_of_quiet {pc : DirectorPc} (hlive : ¬ pc.Gone)
    (hquiet : ¬ pc.Announced) : pc.Active := by
  cases pc <;> simp_all [DirectorPc.Active, DirectorPc.Gone,
    DirectorPc.Announced]

/-- A process that goes on afterwards was one that went on before, or is the
only one. -/
def Host.ProceedsFrom (h h' : Host) : Prop :=
  (∀ pid, h'.Proceeds pid → h.Proceeds pid) ∨
    ∃ only, ∀ pid, h'.Proceeds pid → pid = only

def Host.OneProceeds (h : Host) : Prop :=
  ∀ p q, h.Proceeds p → h.Proceeds q → p = q

theorem Host.ProceedsFrom.oneProceeds {h h' : Host}
    (hfrom : h.ProceedsFrom h') (hone : h.OneProceeds) : h'.OneProceeds := by
  intro p q hp hq
  rcases hfrom with hold | ⟨only, honly⟩
  · exact hone p q (hold p hp) (hold q hq)
  · rw [honly p hp, honly q hq]

/-- A step of a live process that does not end it. -/
theorem Host.withProcess_proceeds {h : Host} {pid : ℕ} {p : DirectorProcess}
    (hbefore : h.Proceeds pid) (hafter : ¬ p.pc.Gone) :
    ∀ q, (h.withProcess pid p).Proceeds q → h.Proceeds q := by
  intro q hq
  by_cases hself : q = pid
  · rw [hself]
    exact hbefore
  · rcases hq with hactive | ⟨child, hpc, hgone, hquiet⟩
    · rw [Host.withProcess_of_ne hself] at hactive
      exact .inl hactive
    · rw [Host.withProcess_of_ne hself] at hpc
      by_cases hchild : child = pid
      · rw [hchild, Host.withProcess_self] at hgone
        exact absurd hgone hafter
      · rw [Host.withProcess_of_ne hchild] at hgone hquiet
        exact .inr ⟨child, hpc, hgone, hquiet⟩

section Patient

variable {roots : ℕ} {rootIndex : Fin rootArraySize} {h h' : Host}

theorem Host.proceeds_of_active {pid : ℕ} {pc : DirectorPc}
    (hpc : (h.process pid).pc = pc) (hactive : pc.Active) : h.Proceeds pid :=
  .inl (hpc ▸ hactive)

theorem proceedsFrom_start (hgone : ∀ pid, (h.process pid).pc.Gone) :
    h.ProceedsFrom (h.launch none) := by
  refine .inr ⟨h.count, fun q hq => ?_⟩
  by_contra hne
  have hsame : (h.launch none).process q = h.process q :=
    Host.launch_of_ne hne
  have hpc := hgone q
  rcases hq with hactive | ⟨child, hreloading, _⟩
  · rw [hsame] at hactive
    exact hactive.not_gone hpc
  · rw [hsame] at hreloading
    rw [hreloading] at hpc
    exact hpc

theorem proceedsFrom_signal (hinv : HandoverInvariant roots rootIndex h)
    (hone : h.OneProceeds) {pid : ℕ}
    (hpc : (h.process pid).pc = .waiting) :
    h.ProceedsFrom ((h.launch (some pid)).withPc pid
      (.reloading h.count)) := by
  have hne : h.count ≠ pid :=
    Nat.ne_of_gt (hinv.born (by simp [hpc]))
  have hbefore : h.Proceeds pid := h.proceeds_of_active hpc trivial
  have hself : ((h.launch (some pid)).withPc pid
      (.reloading h.count)).process pid =
        ((h.launch (some pid)).process pid).withPc (.reloading h.count) :=
    Host.withProcess_self
  have hnew : ((h.launch (some pid)).withPc pid
      (.reloading h.count)).process h.count =
        .launched (some pid) h.version :=
    (Host.withProcess_of_ne hne).trans Host.launch_self
  have hold : ∀ q, q ≠ pid → q ≠ h.count →
      ((h.launch (some pid)).withPc pid (.reloading h.count)).process q =
        h.process q :=
    fun q hq hq' => (Host.withProcess_of_ne hq).trans
      (Host.launch_of_ne hq')
  refine .inr ⟨h.count, fun q hq => ?_⟩
  by_contra hcount
  by_cases hpid : q = pid
  · -- The parent waits for a child that has only just started.
    rw [hpid] at hq
    rcases hq with hactive | ⟨child, hreloading, hgone, _⟩
    · rw [hself] at hactive
      exact hactive
    · rw [hself] at hreloading
      obtain rfl := DirectorPc.reloading.inj hreloading
      rw [hnew] at hgone
      exact hgone
  · have hproceeds : h.Proceeds q := by
      rcases hq with hactive | ⟨child, hreloading, hgone, hquiet⟩
      · rw [hold q hpid hcount] at hactive
        exact .inl hactive
      · rw [hold q hpid hcount] at hreloading
        have hchild : child ≠ h.count := by
          rintro rfl
          rw [hnew] at hgone
          exact hgone
        have hother : child ≠ pid := by
          rintro rfl
          rw [hself] at hgone
          exact hgone
        rw [hold child hother hchild] at hgone hquiet
        exact .inr ⟨child, hreloading, hgone, hquiet⟩
    exact hpid (hone q pid hproceeds hbefore)

/-- Only the parent of a process that ends without READY can go on because
of that. -/
theorem Host.withPc_gone_proceeds {pid q : ℕ} {pc : DirectorPc}
    (hgone : pc.Gone) (hq : (h.withPc pid pc).Proceeds q) :
    q ≠ pid ∧ (h.Proceeds q ∨ (h.process q).pc = .reloading pid ∧
      (h.process pid).notified = false) := by
  have hself : (h.withPc pid pc).process pid = (h.process pid).withPc pc :=
    Host.withProcess_self
  have hne : q ≠ pid := by
    rintro rfl
    rcases hq with hactive | ⟨child, hreloading, _⟩
    · rw [hself] at hactive
      exact hactive.not_gone hgone
    · rw [hself] at hreloading
      have hpc : pc = .reloading child := hreloading
      rw [hpc] at hgone
      exact hgone
  have hold : (h.withPc pid pc).process q = h.process q :=
    Host.withProcess_of_ne hne
  refine ⟨hne, ?_⟩
  rcases hq with hactive | ⟨child, hreloading, hchild, hquiet⟩
  · rw [hold] at hactive
    exact .inl (.inl hactive)
  · rw [hold] at hreloading
    by_cases hlast : child = pid
    · rw [hlast] at hreloading hquiet
      rw [hself] at hquiet
      exact .inr ⟨hreloading, hquiet⟩
    · have hother : (h.withPc pid pc).process child = h.process child :=
        Host.withProcess_of_ne hlast
      rw [hother] at hchild hquiet
      exact .inl (.inr ⟨child, hreloading, hchild, hquiet⟩)

theorem proceedsFrom_handOver (hinv : HandoverInvariant roots rootIndex h)
    {pid child : ℕ} (hpc : (h.process pid).pc = .reloading child) :
    h.ProceedsFrom (h.withPc pid .handedOver) := by
  have hgone : DirectorPc.handedOver.Gone := trivial
  have hnotified := (hinv.sound pid).announced (by rw [hpc]; trivial)
  refine .inl fun q hq => ?_
  rcases (Host.withPc_gone_proceeds hgone hq).2 with hbefore | ⟨_, hquiet⟩
  · exact hbefore
  · rw [hnotified] at hquiet
    cases hquiet

theorem proceedsFrom_exit (hinv : HandoverInvariant roots rootIndex h)
    (hone : h.OneProceeds) {pid : ℕ} (hlive : ¬ (h.process pid).pc.Gone) :
    h.ProceedsFrom (h.withPc pid .exited) := by
  have hgone : DirectorPc.exited.Gone := trivial
  by_cases hnotified : (h.process pid).notified = true
  · refine .inl fun q hq => ?_
    rcases (Host.withPc_gone_proceeds hgone hq).2 with hbefore | ⟨_, hquiet⟩
    · exact hbefore
    · rw [hnotified] at hquiet
      cases hquiet
  · -- Without READY the process was the one that went on; now its parent is.
    have hbefore : h.Proceeds pid := .inl
      (DirectorPc.active_of_quiet hlive
        fun hannounced => hnotified ((hinv.sound pid).announced hannounced))
    have hparent : ∀ q, (h.withPc pid .exited).Proceeds q →
        (h.process pid).parent = some q := by
      intro q hq
      obtain ⟨hne, hproceeds | ⟨hreloading, _⟩⟩ :=
        Host.withPc_gone_proceeds hgone hq
      · exact absurd (hone q pid hproceeds hbefore) hne
      · exact hinv.reloading q pid hreloading
    cases hparents : (h.process pid).parent with
    | none =>
        refine .inl fun q hq => ?_
        have hsome := hparent q hq
        rw [hparents] at hsome
        cases hsome
    | some parent =>
        refine .inr ⟨parent, fun q hq => ?_⟩
        have hsome := hparent q hq
        rw [hparents] at hsome
        exact (Option.some.inj hsome).symm

theorem proceedsFrom_step (hinv : HandoverInvariant roots rootIndex h)
    (hone : h.OneProceeds)
    (hstep : HandoverStep roots rootIndex False h h') :
    h.ProceedsFrom h' := by
  cases hstep with
  | edit files => exact .inl fun q hq => hq
  | start halone => exact proceedsFrom_start (halone.resolve_left id)
  | loadConfig pid config hpc hconfig =>
      exact .inl (Host.withProcess_proceeds
        (h.proceeds_of_active hpc trivial) id)
  | syncConfig pid config hpc =>
      exact .inl (Host.withProcess_proceeds
        (h.proceeds_of_active hpc trivial) id)
  | loadTable pid maps hpc hload =>
      exact .inl (Host.withProcess_proceeds
        (h.proceeds_of_active hpc trivial) id)
  | attach pid hpc hroot =>
      refine .inl (Host.withProcess_proceeds
        (h.proceeds_of_active hpc trivial) (p := (h.process pid).attach) ?_)
      show ¬ (h.process pid).pc.Gone
      rw [hpc]
      exact id
  | notify pid hpc hroots =>
      exact .inl (Host.withProcess_proceeds
        (h.proceeds_of_active hpc trivial) id)
  | signal pid hpc => exact proceedsFrom_signal hinv hone hpc
  | giveUp pid child hpc hlate =>
      exact .inl (Host.withProcess_proceeds
        (.inr ⟨child, hpc, hlate.resolve_left id⟩) id)
  | handOver pid child hpc hready => exact proceedsFrom_handOver hinv hpc
  | exit pid hlive => exact proceedsFrom_exit hinv hone hlive
  | otherPut k i hi id => exact .inl fun q hq => hq

/-! ## Versions -/

/-- What a process that is attached somewhere has loaded stays as it is. -/
structure DirectorProcess.Settled (p p' : DirectorProcess) : Prop where
  attached : p.attached ≤ p'.attached
  versions : 0 < p.attached → p'.startVersion = p.startVersion ∧
    p'.configVersion = p.configVersion ∧ p'.tableVersion = p.tableVersion

theorem DirectorProcess.Settled.refl (p : DirectorProcess) : p.Settled p :=
  ⟨le_refl _, fun _ => ⟨rfl, rfl, rfl⟩⟩

theorem DirectorProcess.Settled.trans {p p' p'' : DirectorProcess}
    (hfirst : p.Settled p') (hsecond : p'.Settled p'') : p.Settled p'' := by
  refine ⟨hfirst.attached.trans hsecond.attached, fun hp => ?_⟩
  obtain ⟨hstart, hconfig, htable⟩ := hfirst.versions hp
  obtain ⟨hstart', hconfig', htable'⟩ :=
    hsecond.versions (hp.trans_le hfirst.attached)
  exact ⟨hstart'.trans hstart, hconfig'.trans hconfig, htable'.trans htable⟩

theorem DirectorProcess.Settled.of_unattached {p p' : DirectorProcess}
    (hp : p.attached = 0) : p.Settled p' :=
  ⟨hp ▸ Nat.zero_le _, fun h => absurd hp (Nat.ne_of_gt h)⟩

theorem Host.settled_withProcess {pid : ℕ} {p : DirectorProcess}
    (hsettled : (h.process pid).Settled p) (q : ℕ) :
    (h.process q).Settled ((h.withProcess pid p).process q) := by
  by_cases hq : q = pid
  · rw [hq, Host.withProcess_self]
    exact hsettled
  · rw [Host.withProcess_of_ne hq]
    exact .refl _

theorem Host.settled_withPc (pid : ℕ) (pc : DirectorPc) (q : ℕ) :
    (h.process q).Settled ((h.withPc pid pc).process q) :=
  Host.settled_withProcess (p := (h.process pid).withPc pc)
    ⟨le_refl _, fun _ => ⟨rfl, rfl, rfl⟩⟩ q

theorem HandoverInvariant.settled_launch
    (hinv : HandoverInvariant roots rootIndex h) (parent : Option ℕ)
    (q : ℕ) :
    (h.process q).Settled ((h.launch parent).process q) := by
  by_cases hq : q = h.count
  · apply DirectorProcess.Settled.of_unattached
    rw [hinv.unborn q hq.ge]
    rfl
  · rw [Host.launch_of_ne hq]
    exact .refl _

theorem HandoverInvariant.settled_step
    (hinv : HandoverInvariant roots rootIndex h) {overlapping : Prop}
    (hstep : HandoverStep roots rootIndex overlapping h h') (q : ℕ) :
    (h.process q).Settled (h'.process q) := by
  have hloading : ∀ pid, (h.process pid).pc.Loading →
      (h.process pid).attached = 0 := fun pid => (hinv.sound pid).loading
  cases hstep with
  | edit files => exact .refl _
  | start halone => exact hinv.settled_launch none q
  | loadConfig pid config hpc hconfig =>
      exact Host.settled_withProcess
        (.of_unattached (hloading pid (by rw [hpc]; trivial))) q
  | syncConfig pid config hpc =>
      exact Host.settled_withProcess
        (.of_unattached (hloading pid (by rw [hpc]; trivial))) q
  | loadTable pid maps hpc hload =>
      exact Host.settled_withProcess
        (.of_unattached (hloading pid (by rw [hpc]; trivial))) q
  | attach pid hpc hroot =>
      exact Host.settled_withProcess (p := (h.process pid).attach)
        ⟨Nat.le_succ _, fun _ => ⟨rfl, rfl, rfl⟩⟩ q
  | notify pid hpc hroots =>
      exact Host.settled_withProcess (p := (h.process pid).notify)
        ⟨le_refl _, fun _ => ⟨rfl, rfl, rfl⟩⟩ q
  | signal pid hpc =>
      exact (hinv.settled_launch (some pid) q).trans
        (Host.settled_withPc pid _ q)
  | giveUp pid child hpc hlate => exact Host.settled_withPc pid _ q
  | handOver pid child hpc hready => exact Host.settled_withPc pid _ q
  | exit pid hlive => exact Host.settled_withPc pid _ q
  | otherPut k i hi id => exact .refl _

/-- The process has read its configuration and goes on to attach. -/
def DirectorPc.HasConfig : DirectorPc → Prop
  | configured _ => True
  | synced => True
  | attaching => True
  | _ => False

theorem DirectorPc.HasConfig.active {pc : DirectorPc}
    (hpc : pc.HasConfig) : pc.Active := by
  cases pc <;> simp_all [DirectorPc.HasConfig, DirectorPc.Active]

structure VersionInvariant (rootIndex : Fin rootArraySize) (h : Host) :
    Prop where
  configs : ∀ q p, (h.process q).pc.HasConfig →
    0 < (h.process p).attached →
      (h.process p).configVersion ≤ (h.process q).configVersion
  tables : ∀ q p, (h.process q).pc = .attaching →
    0 < (h.process p).attached →
      (h.process p).tableVersion ≤ (h.process q).tableVersion
  newest : ∀ p k q, k < (h.process p).attached →
    h.slot k rootIndex = some (.director q) →
      (h.process p).configVersion ≤ (h.process q).configVersion ∧
        (h.process p).tableVersion ≤ (h.process q).tableVersion

/-- The rule for steps that attach nothing. -/
theorem VersionInvariant.unattached
    (hversions : VersionInvariant rootIndex h)
    (hinv : HandoverInvariant roots rootIndex h)
    (hslot : ∀ k, h'.slot k rootIndex = h.slot k rootIndex)
    (hattached : ∀ q, (h'.process q).attached = (h.process q).attached)
    (hsettled : ∀ q, (h.process q).Settled (h'.process q))
    (hconfigs : ∀ q, (h'.process q).pc.HasConfig →
      (h.process q).pc.HasConfig ∧
          (h'.process q).configVersion = (h.process q).configVersion ∨
        ∀ p, 0 < (h.process p).attached →
          (h.process p).configVersion ≤ (h'.process q).configVersion)
    (htables : ∀ q, (h'.process q).pc = .attaching →
      (h.process q).pc = .attaching ∧
          (h'.process q).tableVersion = (h.process q).tableVersion ∨
        ∀ p, 0 < (h.process p).attached →
          (h.process p).tableVersion ≤ (h'.process q).tableVersion) :
    VersionInvariant rootIndex h' := by
  constructor
  · intro q p hq hp
    rw [hattached] at hp
    rw [((hsettled p).versions hp).2.1]
    rcases hconfigs q hq with ⟨hbefore, hsame⟩ | hall
    · rw [hsame]
      exact hversions.configs q p hbefore hp
    · exact hall p hp
  · intro q p hq hp
    rw [hattached] at hp
    rw [((hsettled p).versions hp).2.2]
    rcases htables q hq with ⟨hbefore, hsame⟩ | hall
    · rw [hsame]
      exact hversions.tables q p hbefore hp
    · exact hall p hp
  · intro p k q hk hat
    rw [hattached] at hk
    rw [hslot] at hat
    have hq := Nat.zero_lt_of_lt (hinv.director k rootIndex q hat).2
    have hp := Nat.zero_lt_of_lt hk
    rw [((hsettled p).versions hp).2.1, ((hsettled p).versions hp).2.2,
      ((hsettled q).versions hq).2.1, ((hsettled q).versions hq).2.2]
    exact hversions.newest p k q hk hat

theorem VersionInvariant.attach (hversions : VersionInvariant rootIndex h)
    (hone : h.OneProceeds) {pid : ℕ}
    (hpc : (h.process pid).pc = .attaching) :
    VersionInvariant rootIndex (h.attach rootIndex pid) := by
  have hsame : ∀ q, ((h.attach rootIndex pid).process q).pc =
        (h.process q).pc ∧
      ((h.attach rootIndex pid).process q).configVersion =
        (h.process q).configVersion ∧
      ((h.attach rootIndex pid).process q).tableVersion =
        (h.process q).tableVersion := by
    intro q
    by_cases hq : q = pid
    · rw [hq, Host.attach_self]
      exact ⟨rfl, rfl, rfl⟩
    · rw [Host.attach_of_ne hq]
      exact ⟨rfl, rfl, rfl⟩
  -- A process that is attached now is the one that goes on, or was before.
  have hbefore : ∀ p, 0 < ((h.attach rootIndex pid).process p).attached →
      p = pid ∨ 0 < (h.process p).attached := by
    intro p hp
    by_cases hself : p = pid
    · exact .inl hself
    · rw [Host.attach_of_ne hself] at hp
      exact .inr hp
  have honly : ∀ q, (h.process q).pc.HasConfig → q = pid := by
    intro q hq
    exact hone q pid (.inl hq.active) (h.proceeds_of_active hpc trivial)
  constructor
  · intro q p hq hp
    rw [(hsame q).1] at hq
    rw [(hsame p).2.1, (hsame q).2.1]
    rcases hbefore p hp with rfl | hold
    · rw [honly q hq]
    · exact hversions.configs q p hq hold
  · intro q p hq hp
    rw [(hsame q).1] at hq
    rw [(hsame p).2.2, (hsame q).2.2]
    rcases hbefore p hp with rfl | hold
    · rw [honly q (by rw [hq]; trivial)]
    · exact hversions.tables q p hq hold
  · intro p k q hk hat
    rw [(hsame p).2.1, (hsame q).2.1, (hsame p).2.2, (hsame q).2.2]
    by_cases hlast : k = (h.process pid).attached
    · -- The new owner of the slot has read its files last.
      rw [hlast, Host.attach_slot_self] at hat
      obtain rfl := XdpProgram.director.inj (Option.some.inj hat)
      rcases hbefore p (Nat.zero_lt_of_lt hk) with rfl | hold
      · exact ⟨le_refl _, le_refl _⟩
      · exact ⟨hversions.configs pid p (by rw [hpc]; trivial) hold,
          hversions.tables pid p hpc hold⟩
    · have hold : k < (h.process p).attached := by
        by_cases hself : p = pid
        · rw [hself, Host.attach_self] at hk
          rw [hself]
          exact lt_of_le_of_ne (Nat.le_of_lt_succ hk) hlast
        · rwa [Host.attach_of_ne hself] at hk
      rw [Host.attach_slot_of_ne hlast] at hat
      exact hversions.newest p k q hold hat

/-- The rule for a step of one process that attaches nothing. -/
theorem VersionInvariant.withProcess
    (hversions : VersionInvariant rootIndex h)
    (hinv : HandoverInvariant roots rootIndex h) {pid : ℕ}
    {p : DirectorProcess} (hattached : p.attached = (h.process pid).attached)
    (hsettled : (h.process pid).Settled p)
    (hconfigs : p.pc.HasConfig →
      (h.process pid).pc.HasConfig ∧
          p.configVersion = (h.process pid).configVersion ∨
        p.configVersion = h.version)
    (htables : p.pc = .attaching → p.tableVersion = h.version) :
    VersionInvariant rootIndex (h.withProcess pid p) := by
  refine hversions.unattached hinv (fun _ => rfl) ?_
    (Host.settled_withProcess hsettled) ?_ ?_
  · intro q
    by_cases hq : q = pid
    · rw [hq, Host.withProcess_self, hattached]
    · rw [Host.withProcess_of_ne hq]
  · intro q hq
    by_cases hself : q = pid
    · rw [hself, Host.withProcess_self] at hq ⊢
      refine (hconfigs hq).imp_right fun hlast r _ => ?_
      rw [hlast]
      exact (hinv.sound r).config_le
    · rw [Host.withProcess_of_ne hself] at hq ⊢
      exact .inl ⟨hq, rfl⟩
  · intro q hq
    by_cases hself : q = pid
    · rw [hself, Host.withProcess_self] at hq ⊢
      refine .inr fun r _ => ?_
      rw [htables hq]
      exact (hinv.sound r).table_le
    · rw [Host.withProcess_of_ne hself] at hq ⊢
      exact .inl ⟨hq, rfl⟩

theorem VersionInvariant.withPc (hversions : VersionInvariant rootIndex h)
    (hinv : HandoverInvariant roots rootIndex h) {pid : ℕ}
    {pc : DirectorPc} (hpc : ¬ pc.HasConfig) :
    VersionInvariant rootIndex (h.withPc pid pc) := by
  refine hversions.withProcess hinv rfl
    ⟨le_refl _, fun _ => ⟨rfl, rfl, rfl⟩⟩ (fun h => absurd h hpc)
    fun hattaching => absurd ?_ hpc
  have hpc' : pc = .attaching := hattaching
  rw [hpc']
  trivial

theorem VersionInvariant.launch (hversions : VersionInvariant rootIndex h)
    (hinv : HandoverInvariant roots rootIndex h) (parent : Option ℕ) :
    VersionInvariant rootIndex (h.launch parent) := by
  have hself : (h.launch parent).process h.count =
      .launched parent h.version := Host.launch_self
  have hold : ∀ q, q ≠ h.count →
      (h.launch parent).process q = h.process q :=
    fun q hq => Host.launch_of_ne hq
  refine hversions.unattached hinv (fun _ => rfl) ?_
    (hinv.settled_launch parent) ?_ ?_
  · intro q
    by_cases hq : q = h.count
    · rw [hq, hself, hinv.unborn h.count (le_refl _)]
      rfl
    · rw [hold q hq]
  · intro q hq
    by_cases hnew : q = h.count
    · rw [hnew, hself] at hq
      exact hq.elim
    · rw [hold q hnew] at hq ⊢
      exact .inl ⟨hq, rfl⟩
  · intro q hq
    by_cases hnew : q = h.count
    · rw [hnew, hself] at hq
      cases hq
    · rw [hold q hnew] at hq ⊢
      exact .inl ⟨hq, rfl⟩

theorem VersionInvariant.step (hversions : VersionInvariant rootIndex h)
    (hinv : HandoverInvariant roots rootIndex h) (hone : h.OneProceeds)
    (hstep : HandoverStep roots rootIndex False h h') :
    VersionInvariant rootIndex h' := by
  have hloading : ∀ pid, (h.process pid).pc.Loading →
      (h.process pid).attached = 0 := fun pid => (hinv.sound pid).loading
  cases hstep with
  | edit files => exact ⟨hversions.1, hversions.2, hversions.3⟩
  | start halone => exact hversions.launch hinv none
  | loadConfig pid config hpc hconfig =>
      exact hversions.withProcess hinv rfl
        (.of_unattached (hloading pid (by rw [hpc]; trivial)))
        (fun _ => .inr rfl) fun h => (by cases h)
  | syncConfig pid config hpc =>
      exact hversions.withProcess hinv rfl
        (.of_unattached (hloading pid (by rw [hpc]; trivial)))
        (fun _ => .inl ⟨by rw [hpc]; trivial, rfl⟩) fun h => (by cases h)
  | loadTable pid maps hpc hload =>
      exact hversions.withProcess hinv rfl
        (.of_unattached (hloading pid (by rw [hpc]; trivial)))
        (fun _ => .inl ⟨by rw [hpc]; trivial, rfl⟩) fun _ => rfl
  | attach pid hpc hroot => exact hversions.attach hone hpc
  | notify pid hpc hroots =>
      exact hversions.withProcess hinv (p := (h.process pid).notify) rfl
        ⟨le_refl _, fun _ => ⟨rfl, rfl, rfl⟩⟩ False.elim
        fun h => (by cases h)
  | signal pid hpc =>
      have hready := (hinv.sound pid).announced (by rw [hpc]; trivial)
      exact (hversions.launch hinv (some pid)).withPc
        (hinv.launch fun q hq => Option.some.inj hq ▸ hready) id
  | giveUp pid child hpc hlate => exact hversions.withPc hinv id
  | handOver pid child hpc hready => exact hversions.withPc hinv id
  | exit pid hlive => exact hversions.withPc hinv id
  | otherPut k i hi id =>
      refine hversions.unattached hinv ?_ (fun _ => rfl) (fun _ => .refl _)
        (fun _ hq => .inl ⟨hq, rfl⟩) fun _ hq => .inl ⟨hq, rfl⟩
      intro k'
      by_cases hk : k' = k
      · rw [hk, Host.putSlot_self, Function.update_of_ne hi.symm]
      · rw [Host.putSlot_of_ne hk]

/-! ## Runs -/

theorem HostReachable.patient (hreach : HostReachable roots rootIndex False h) :
    HandoverInvariant roots rootIndex h ∧ h.OneProceeds ∧
      VersionInvariant rootIndex h := by
  obtain ⟨start, hinitial, hrun⟩ := hreach
  induction hrun with
  | refl =>
      have hprocess := hinitial.process
      refine ⟨.initial hinitial, ?_, ?_⟩
      · intro p q hp
        rcases hp with hactive | ⟨child, hpc, _⟩
        · rw [hprocess] at hactive
          exact hactive.elim
        · rw [hprocess] at hpc
          cases hpc
      · constructor
        all_goals
          intros
          simp_all [DirectorProcess.unborn, DirectorProcess.launched]
  | tail _ hstep ih =>
      obtain ⟨hinv, hone, hversions⟩ := ih
      exact ⟨hinv.step hstep,
        (proceedsFrom_step hinv hone hstep).oneProceeds hone,
        hversions.step hinv hone hstep⟩

theorem settled_run (hinv : HandoverInvariant roots rootIndex h)
    {overlapping : Prop}
    (hrun : Relation.ReflTransGen
      (HandoverStep roots rootIndex overlapping) h h') :
    HandoverInvariant roots rootIndex h' ∧
      ∀ q, (h.process q).Settled (h'.process q) := by
  induction hrun with
  | refl => exact ⟨hinv, fun q => .refl _⟩
  | tail _ hstep ih =>
      exact ⟨ih.1.step hstep,
        fun q => (ih.2 q).trans (ih.1.settled_step hstep q)⟩

end Patient

/-- The interfaces never go back to older files, and once a process has
reported READY they serve files at least as new as those on disk when it was
started. -/
theorem reloads_serve_newer_files
    {roots : ℕ}
    {rootIndex : Fin rootArraySize}
    {h h' : Host}
    (hreach : HostReachable roots rootIndex False h)
    (hrun : Relation.ReflTransGen (HandoverStep roots rootIndex False) h h') :
    (∀ k q, h.slot k rootIndex = some (.director q) →
      ∃ q', h'.slot k rootIndex = some (.director q') ∧
        (h.process q).configVersion ≤ (h'.process q').configVersion ∧
        (h.process q).tableVersion ≤ (h'.process q').tableVersion) ∧
    (∀ pid, (h.process pid).notified = true → ∀ k < roots,
      ∃ q', h'.slot k rootIndex = some (.director q') ∧
        (h.process pid).startVersion ≤ (h'.process q').configVersion ∧
        (h.process pid).startVersion ≤ (h'.process q').tableVersion) := by
  have hinv := hreach.patient.1
  have hreach' : HostReachable roots rootIndex False h' := by
    obtain ⟨start, hinitial, hbefore⟩ := hreach
    exact ⟨start, hinitial, hbefore.trans hrun⟩
  obtain ⟨hinv', _, hversions'⟩ := hreach'.patient
  have hsettled := (settled_run hinv hrun).2
  -- Whoever was attached to a root array is followed by newer files there.
  have hnewer : ∀ k q, k < (h.process q).attached →
      ∃ q', h'.slot k rootIndex = some (.director q') ∧
        (h.process q).configVersion ≤ (h'.process q').configVersion ∧
        (h.process q).tableVersion ≤ (h'.process q').tableVersion := by
    intro k q hk
    have hk' := hk.trans_le (hsettled q).attached
    obtain ⟨q', hslot⟩ := hinv'.taken k q hk'
    obtain ⟨_, hconfig, htable⟩ :=
      (hsettled q).versions (Nat.zero_lt_of_lt hk)
    rw [← hconfig, ← htable]
    exact ⟨q', hslot, hversions'.newest q k q' hk' hslot⟩
  refine ⟨fun k q hslot => hnewer k q (hinv.director k rootIndex q hslot).2,
    fun pid hnotified k hk => ?_⟩
  rw [← ((hinv.sound pid).notified hnotified).1] at hk
  obtain ⟨q', hslot, hconfig, htable⟩ := hnewer k pid hk
  obtain ⟨hstart, hstart'⟩ :=
    (hinv.sound pid).start_load (.inr (Nat.zero_lt_of_lt hk))
  exact ⟨q', hslot, hstart.trans hconfig, hstart'.trans htable⟩

theorem reloads_serve_newer_files_reloaded :
    ∃ h h' : Host, HostReachable 1 defaultRootIndex False h ∧
      Relation.ReflTransGen (HandoverStep 1 defaultRootIndex False) h h' ∧
      (h'.process 0).pc = .handedOver ∧
      ∃ q', h'.slot 0 defaultRootIndex = some (.director q') ∧
        1 ≤ (h'.process q').configVersion ∧
        1 ≤ (h'.process q').tableVersion := by
  obtain ⟨h, h', hreach, hrun, _, _, hleft, hready, hstart⟩ :=
    exists_sample_reload False
  have hreach' : HostReachable 1 defaultRootIndex False h' := by
    obtain ⟨start, hinitial, hbefore⟩ := hreach
    exact ⟨start, hinitial, hbefore.trans hrun⟩
  obtain ⟨q', hslot, hversions⟩ :=
    (reloads_serve_newer_files hreach' .refl).2 1 hready 0 Nat.one_pos
  rw [hstart] at hversions
  exact ⟨h, h', hreach, hrun, hleft, q', hslot, hversions⟩

end GlbDirector
