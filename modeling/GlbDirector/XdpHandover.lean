import GlbDirector.XdpEquivalence

/-!
# Reloads of the XDP director

A reload starts a second process, which fills maps of its own, puts its
program into the root array of every interface and reports READY, whereupon
the first process exits.  Packets keep arriving all the while, files are
edited, processes fail, and a reload may be given up after thirty seconds
while its process is still on its way.
-/

namespace GlbDirector

open ByteCodec

/-! ## Processes and root arrays -/

def rootArraySize : ℕ := 3

inductive XdpProgram where
  | director (pid : ℕ)
  | other (id : ℕ)

/-- The files named on the command line; `LoadDirectorConfig` may refuse the
first. -/
structure DirectorFiles where
  config : Option XdpConfig
  table : Bytes

/-- Where a process is in `main` and in `gracefullReloadByExec`. -/
inductive DirectorPc where
  | starting
  | configured (config : XdpConfig)
  | synced
  | attaching
  | waiting
  | reloading (child : ℕ)
  | exited
  /-- `os.Exit(0)` after READY. -/
  | handedOver

def DirectorPc.Gone : DirectorPc → Prop
  | exited => True
  | handedOver => True
  | _ => False

/-- Nothing is attached yet. -/
def DirectorPc.Loading : DirectorPc → Prop
  | starting => True
  | configured _ => True
  | synced => True
  | _ => False

/-- The process has reported READY. -/
def DirectorPc.Announced : DirectorPc → Prop
  | waiting => True
  | reloading _ => True
  | handedOver => True
  | _ => False

/-- A process, with the versions of the files that it has seen. -/
structure DirectorProcess where
  pc : DirectorPc
  parent : Option ℕ
  startVersion : ℕ
  configVersion : ℕ
  tableVersion : ℕ
  maps : XdpMaps
  /-- The number of root arrays that it has put its program into. -/
  attached : ℕ
  notified : Bool

namespace DirectorProcess

def launched (parent : Option ℕ) (version : ℕ) : DirectorProcess where
  pc := .starting
  parent := parent
  startVersion := version
  configVersion := 0
  tableVersion := 0
  maps := freshMaps
  attached := 0
  notified := false

def unborn : DirectorProcess := { launched none 0 with pc := .exited }

variable (p : DirectorProcess)

def withPc (pc : DirectorPc) : DirectorProcess := { p with pc }

/-- `LoadDirectorConfig` and `NewCollection`. -/
def loadConfig (config : XdpConfig) (version : ℕ) : DirectorProcess :=
  { p with pc := .configured config, configVersion := version }

def syncConfig (config : XdpConfig) : DirectorProcess :=
  { p with pc := .synced, maps := syncConfigMap config p.maps }

def loadTable (maps : XdpMaps) (version : ℕ) : DirectorProcess :=
  { p with pc := .attaching, maps := maps, tableVersion := version }

def attach : DirectorProcess := { p with attached := p.attached + 1 }

def notify : DirectorProcess := { p with pc := .waiting, notified := true }

end DirectorProcess

structure Host where
  files : ℕ → DirectorFiles
  version : ℕ
  process : ℕ → DirectorProcess
  count : ℕ
  slot : ℕ → Fin rootArraySize → Option XdpProgram

namespace Host

variable (h : Host)

def withProcess (pid : ℕ) (p : DirectorProcess) : Host :=
  { h with process := Function.update h.process pid p }

def withPc (pid : ℕ) (pc : DirectorPc) : Host :=
  h.withProcess pid ((h.process pid).withPc pc)

def launch (parent : Option ℕ) : Host :=
  { h with
    process := Function.update h.process h.count
      (.launched parent h.version)
    count := h.count + 1 }

def putSlot (k : ℕ) (i : Fin rootArraySize) (program : Option XdpProgram) :
    Host :=
  { h with
    slot := Function.update h.slot k
      (Function.update (h.slot k) i program) }

def edit (files : DirectorFiles) : Host :=
  { h with
    files := Function.update h.files (h.version + 1) files
    version := h.version + 1 }

variable {h} in
theorem withProcess_self {pid : ℕ} {p : DirectorProcess} :
    (h.withProcess pid p).process pid = p :=
  Function.update_self ..

variable {h} in
theorem withProcess_of_ne {pid q : ℕ} (hne : q ≠ pid)
    {p : DirectorProcess} : (h.withProcess pid p).process q = h.process q :=
  Function.update_of_ne hne ..

variable {h} in
theorem launch_self {parent : Option ℕ} :
    (h.launch parent).process h.count = .launched parent h.version :=
  Function.update_self ..

variable {h} in
theorem launch_of_ne {parent : Option ℕ} {q : ℕ} (hne : q ≠ h.count) :
    (h.launch parent).process q = h.process q :=
  Function.update_of_ne hne ..

variable {h} in
theorem putSlot_self {k : ℕ} {i : Fin rootArraySize}
    {program : Option XdpProgram} : (h.putSlot k i program).slot k =
      Function.update (h.slot k) i program :=
  Function.update_self ..

variable {h} in
theorem putSlot_of_ne {k k' : ℕ} (hne : k' ≠ k) {i : Fin rootArraySize}
    {program : Option XdpProgram} :
    (h.putSlot k i program).slot k' = h.slot k' :=
  Function.update_of_ne hne ..

/-- The program of the process goes into its next root array. -/
def attach (rootIndex : Fin rootArraySize) (pid : ℕ) : Host :=
  (h.withProcess pid (h.process pid).attach).putSlot
    (h.process pid).attached rootIndex (some (.director pid))

section Attach

variable {h} {rootIndex : Fin rootArraySize} {pid q k : ℕ}

theorem attach_self : (h.attach rootIndex pid).process pid =
    (h.process pid).attach :=
  withProcess_self

theorem attach_of_ne (hne : q ≠ pid) :
    (h.attach rootIndex pid).process q = h.process q :=
  withProcess_of_ne hne

theorem attached_le_attach : (h.process q).attached ≤
    ((h.attach rootIndex pid).process q).attached := by
  by_cases hq : q = pid
  · rw [hq, attach_self]
    exact Nat.le_succ _
  · rw [attach_of_ne hq]

theorem attach_slot_self :
    (h.attach rootIndex pid).slot (h.process pid).attached rootIndex =
      some (.director pid) := by
  rw [attach, putSlot_self, Function.update_self]

theorem attach_slot_of_ne (hne : k ≠ (h.process pid).attached) :
    (h.attach rootIndex pid).slot k = h.slot k :=
  putSlot_of_ne hne

theorem attach_slot_cases {i : Fin rootArraySize}
    (hslot : (h.attach rootIndex pid).slot k i = some (.director q)) :
    k = (h.process pid).attached ∧ i = rootIndex ∧ q = pid ∨
      h.slot k i = some (.director q) := by
  by_cases hk : k = (h.process pid).attached
  · by_cases hi : i = rootIndex
    · rw [hk, hi, attach_slot_self] at hslot
      exact .inl ⟨hk, hi,
        (XdpProgram.director.inj (Option.some.inj hslot)).symm⟩
    · rw [hk, attach, putSlot_self, Function.update_of_ne hi, ← hk] at hslot
      exact .inr hslot
  · rw [attach_slot_of_ne hk] at hslot
    exact .inr hslot

end Attach

/-- `xdp_root`: a tail call into an empty slot returns. -/
def xdpRoot (k : ℕ) : Option XdpProgram :=
  (List.finRange rootArraySize).findSome? (h.slot k)

end Host

inductive RootAction where
  | pass
  | other (id : ℕ)
  | director (pid : ℕ) (action : XdpAction)

/-- A packet on interface `k`. -/
def Host.deliver (h : Host) (k : ℕ) (packet : Bytes) : RootAction :=
  match h.xdpRoot k with
  | none => .pass
  | some (.other id) => .other id
  | some (.director pid) =>
      .director pid (xdpGlbDirectorProcess (h.process pid).maps packet)

/-! ## Steps -/

section Steps

variable (roots : ℕ) (rootIndex : Fin rootArraySize)

/-- One step of a process, of the files or of another owner of a slot.  Only
if `overlapping` may a reload be given up, or a process be started by hand,
while another process is on its way. -/
inductive HandoverStep (overlapping : Prop) : Host → Host → Prop where
  | edit (h : Host) (files : DirectorFiles) :
      HandoverStep overlapping h (h.edit files)
  | start (h : Host)
      (halone : overlapping ∨ ∀ pid, (h.process pid).pc.Gone) :
      HandoverStep overlapping h (h.launch none)
  | loadConfig (h : Host) (pid : ℕ) (config : XdpConfig)
      (hpc : (h.process pid).pc = .starting)
      (hconfig : (h.files h.version).config = some config) :
      HandoverStep overlapping h (h.withProcess pid
        ((h.process pid).loadConfig config h.version))
  | syncConfig (h : Host) (pid : ℕ) (config : XdpConfig)
      (hpc : (h.process pid).pc = .configured config) :
      HandoverStep overlapping h (h.withProcess pid
        ((h.process pid).syncConfig config))
  | loadTable (h : Host) (pid : ℕ) (maps : XdpMaps)
      (hpc : (h.process pid).pc = .synced)
      (hload : reloadForwardingTable (h.files h.version).table
        (h.process pid).maps = .ok maps) :
      HandoverStep overlapping h (h.withProcess pid
        ((h.process pid).loadTable maps h.version))
  | attach (h : Host) (pid : ℕ) (hpc : (h.process pid).pc = .attaching)
      (hroot : (h.process pid).attached < roots) :
      HandoverStep overlapping h (h.attach rootIndex pid)
  | notify (h : Host) (pid : ℕ) (hpc : (h.process pid).pc = .attaching)
      (hroots : (h.process pid).attached = roots) :
      HandoverStep overlapping h (h.withProcess pid (h.process pid).notify)
  | signal (h : Host) (pid : ℕ) (hpc : (h.process pid).pc = .waiting) :
      HandoverStep overlapping h
        ((h.launch (some pid)).withPc pid (.reloading h.count))
  | giveUp (h : Host) (pid child : ℕ)
      (hpc : (h.process pid).pc = .reloading child)
      (hlate : overlapping ∨ (h.process child).pc.Gone ∧
        (h.process child).notified = false) :
      HandoverStep overlapping h (h.withPc pid .waiting)
  | handOver (h : Host) (pid child : ℕ)
      (hpc : (h.process pid).pc = .reloading child)
      (hready : (h.process child).notified = true) :
      HandoverStep overlapping h (h.withPc pid .handedOver)
  | exit (h : Host) (pid : ℕ) (hlive : ¬ (h.process pid).pc.Gone) :
      HandoverStep overlapping h (h.withPc pid .exited)
  | otherPut (h : Host) (k : ℕ) (i : Fin rootArraySize)
      (hi : i ≠ rootIndex) (id : Option ℕ) :
      HandoverStep overlapping h (h.putSlot k i (id.map .other))

/-- Before the first process; the slot of the directors is empty. -/
structure Host.Initial (h : Host) : Prop where
  process : ∀ pid, h.process pid = .unborn
  slot : ∀ k i pid, h.slot k i ≠ some (.director pid)

def HostReachable (overlapping : Prop) (h : Host) : Prop :=
  ∃ start : Host, start.Initial ∧ Relation.ReflTransGen
    (HandoverStep roots rootIndex overlapping) start h

end Steps

/-! ## What a process has loaded -/

/-- The maps hold one configuration and one forwarding table as a whole. -/
def WholeLoad (files : ℕ → DirectorFiles) (configVersion tableVersion : ℕ)
    (maps : XdpMaps) : Prop :=
  ∃ config, (files configVersion).config = some config ∧
    reloadForwardingTable (files tableVersion).table
      (syncConfigMap config freshMaps) = .ok maps

structure ProcessSound (roots : ℕ) (files : ℕ → DirectorFiles)
    (version : ℕ) (p : DirectorProcess) : Prop where
  starting : p.pc = .starting → p.maps = freshMaps
  configured : ∀ config, p.pc = .configured config →
    (files p.configVersion).config = some config ∧ p.maps = freshMaps
  synced : p.pc = .synced → ∃ config,
    (files p.configVersion).config = some config ∧
      p.maps = syncConfigMap config freshMaps
  loaded : p.pc = .attaching ∨ 0 < p.attached →
    WholeLoad files p.configVersion p.tableVersion p.maps
  loading : p.pc.Loading → p.attached = 0
  attached_le : p.attached ≤ roots
  announced : p.pc.Announced → p.notified = true
  notified : p.notified = true →
    p.attached = roots ∧ (p.pc.Announced ∨ p.pc = .exited)
  start_le : p.startVersion ≤ version
  config_le : p.configVersion ≤ version
  table_le : p.tableVersion ≤ version
  start_config : p.pc = .synced ∨ (∃ config, p.pc = .configured config) →
    p.startVersion ≤ p.configVersion
  start_load : p.pc = .attaching ∨ 0 < p.attached →
    p.startVersion ≤ p.configVersion ∧ p.startVersion ≤ p.tableVersion

namespace ProcessSound

variable {roots version : ℕ} {files : ℕ → DirectorFiles}
  {p : DirectorProcess}

theorem unborn : ProcessSound roots files version .unborn := by
  constructor <;> simp [DirectorProcess.unborn, DirectorProcess.launched,
    DirectorPc.Loading, DirectorPc.Announced]

theorem launched (parent : Option ℕ) :
    ProcessSound roots files version (.launched parent version) := by
  constructor <;> simp [DirectorProcess.launched, DirectorPc.Announced]

variable (hsound : ProcessSound roots files version p)

include hsound

theorem not_announced (hpc : ¬ p.pc.Announced) (hlive : p.pc ≠ .exited) :
    p.notified = false := by
  apply Bool.eq_false_iff.mpr
  intro hnotified
  rcases (hsound.notified hnotified).2 with hannounced | hexited
  · exact hpc hannounced
  · exact hlive hexited

/-- Files that are written later do not matter. -/
theorem edit (edited : DirectorFiles) :
    ProcessSound roots (Function.update files (version + 1) edited)
      (version + 1) p := by
  have hold : ∀ v ≤ version,
      Function.update files (version + 1) edited v = files v := by
    intro v hv
    exact Function.update_of_ne (by omega) _ _
  have hconfig := hold _ hsound.config_le
  have htable := hold _ hsound.table_le
  constructor
  · exact hsound.starting
  · rw [hconfig]
    exact hsound.configured
  · rw [hconfig]
    exact hsound.synced
  · unfold WholeLoad
    rw [hconfig, htable]
    exact hsound.loaded
  · exact hsound.loading
  · exact hsound.attached_le
  · exact hsound.announced
  · exact hsound.notified
  · exact Nat.le_succ_of_le hsound.start_le
  · exact Nat.le_succ_of_le hsound.config_le
  · exact Nat.le_succ_of_le hsound.table_le
  · exact hsound.start_config
  · exact hsound.start_load

theorem loadConfig {config : XdpConfig} (hpc : p.pc = .starting)
    (hconfig : (files version).config = some config) :
    ProcessSound roots files version (p.loadConfig config version) := by
  have hnone : p.attached = 0 := hsound.loading (by rw [hpc]; trivial)
  have hquiet := hsound.not_announced (by simp [hpc, DirectorPc.Announced])
    (by simp [hpc])
  have hfresh := hsound.starting hpc
  have hstart := hsound.start_le
  have htable := hsound.table_le
  constructor <;> simp [DirectorProcess.loadConfig, DirectorPc.Announced, *]

theorem syncConfig {config : XdpConfig}
    (hpc : p.pc = .configured config) :
    ProcessSound roots files version (p.syncConfig config) := by
  have hnone : p.attached = 0 := hsound.loading (by rw [hpc]; trivial)
  have hquiet := hsound.not_announced (by simp [hpc, DirectorPc.Announced])
    (by simp [hpc])
  obtain ⟨hfile, hfresh⟩ := hsound.configured config hpc
  have hstart := hsound.start_le
  have hconfig := hsound.config_le
  have htable := hsound.table_le
  have hversions := hsound.start_config (.inr ⟨config, hpc⟩)
  constructor <;> simp [DirectorProcess.syncConfig, DirectorPc.Announced, *]

theorem loadTable {maps : XdpMaps} (hpc : p.pc = .synced)
    (hload : reloadForwardingTable (files version).table p.maps =
      .ok maps) :
    ProcessSound roots files version (p.loadTable maps version) := by
  have hnone : p.attached = 0 := hsound.loading (by rw [hpc]; trivial)
  have hquiet := hsound.not_announced (by simp [hpc, DirectorPc.Announced])
    (by simp [hpc])
  obtain ⟨config, hfile, hsynced⟩ := hsound.synced hpc
  rw [hsynced] at hload
  have hstart := hsound.start_le
  have hconfig := hsound.config_le
  have hversions := hsound.start_config (.inl hpc)
  have hwhole : WholeLoad files p.configVersion version maps :=
    ⟨config, hfile, hload⟩
  constructor <;> simp [DirectorProcess.loadTable, DirectorPc.Announced, *]

theorem attach (hpc : p.pc = .attaching) (hroot : p.attached < roots) :
    ProcessSound roots files version p.attach := by
  have hquiet := hsound.not_announced (by simp [hpc, DirectorPc.Announced])
    (by simp [hpc])
  have hwhole := hsound.loaded (.inl hpc)
  have hversions := hsound.start_load (.inl hpc)
  have hstart := hsound.start_le
  have hconfig := hsound.config_le
  have htable := hsound.table_le
  constructor <;> simp [DirectorProcess.attach, DirectorPc.Announced,
    DirectorPc.Loading, *]

theorem notify (hpc : p.pc = .attaching) (hroots : p.attached = roots) :
    ProcessSound roots files version p.notify := by
  have hwhole := hsound.loaded (.inl hpc)
  have hversions := hsound.start_load (.inl hpc)
  have hstart := hsound.start_le
  have hconfig := hsound.config_le
  have htable := hsound.table_le
  constructor <;> simp [DirectorProcess.notify, DirectorPc.Announced,
    DirectorPc.Loading, *]

/-- A process that has attached to every root array, or that ends. -/
theorem withPc {pc : DirectorPc}
    (hpc : pc.Announced ∧ p.notified = true ∨ pc = .exited) :
    ProcessSound roots files version (p.withPc pc) := by
  have hlate : pc ≠ .attaching ∧ ¬ pc.Loading ∧ pc ≠ .starting ∧
      pc ≠ .synced ∧ ∀ config, pc ≠ .configured config := by
    rcases hpc with ⟨hannounced, _⟩ | rfl
    · cases pc <;> simp_all [DirectorPc.Announced, DirectorPc.Loading]
    · simp [DirectorPc.Loading]
  obtain ⟨hattaching, hloading, hstarting, hsynced, hconfigured⟩ := hlate
  constructor
  · exact fun h => absurd h hstarting
  · exact fun config h => absurd h (hconfigured config)
  · exact fun h => absurd h hsynced
  · exact fun h => hsound.loaded (.inr (h.resolve_left hattaching))
  · exact fun h => absurd h hloading
  · exact hsound.attached_le
  · intro hannounced
    rcases hpc with ⟨_, hnotified⟩ | rfl
    · exact hnotified
    · cases hannounced
  · intro hnotified
    refine ⟨(hsound.notified hnotified).1, ?_⟩
    rcases hpc with ⟨hannounced, _⟩ | hexited
    · exact .inl hannounced
    · exact .inr hexited
  · exact hsound.start_le
  · exact hsound.config_le
  · exact hsound.table_le
  · rintro (h | ⟨config, h⟩)
    · exact absurd h hsynced
    · exact absurd h (hconfigured config)
  · exact fun h => hsound.start_load (.inr (h.resolve_left hattaching))

end ProcessSound

/-! ## Whole hosts -/

structure HandoverInvariant (roots : ℕ) (rootIndex : Fin rootArraySize)
    (h : Host) : Prop where
  sound : ∀ pid, ProcessSound roots h.files h.version (h.process pid)
  unborn : ∀ pid, h.count ≤ pid → h.process pid = .unborn
  director : ∀ k i pid, h.slot k i = some (.director pid) →
    i = rootIndex ∧ k < (h.process pid).attached
  taken : ∀ k pid, k < (h.process pid).attached →
    ∃ q, h.slot k rootIndex = some (.director q)
  parent : ∀ child pid, (h.process child).parent = some pid →
    (h.process pid).notified = true
  reloading : ∀ pid child, (h.process pid).pc = .reloading child →
    (h.process child).parent = some pid
  left : ∀ pid, (h.process pid).pc = .handedOver →
    ∃ child, (h.process child).parent = some pid ∧
      (h.process child).notified = true
  /-- A process is gone from the slots that its children have taken. -/
  displaced : ∀ child pid k, (h.process child).parent = some pid →
    k < (h.process child).attached →
      h.slot k rootIndex ≠ some (.director pid)

/-- A step of one process that leaves the slots alone. -/
structure Host.Quiet (h : Host) (roots pid : ℕ) (p : DirectorProcess) :
    Prop where
  born : pid < h.count
  parent : p.parent = (h.process pid).parent
  attached : p.attached = (h.process pid).attached
  notified : (h.process pid).notified = true → p.notified = true
  sound : ProcessSound roots h.files h.version p
  reloading : ∀ child, p.pc = .reloading child →
    (h.process child).parent = some pid
  left : p.pc = .handedOver → ∃ child,
    (h.process child).parent = some pid ∧ (h.process child).notified = true

namespace HandoverInvariant

variable {roots : ℕ} {rootIndex : Fin rootArraySize} {h : Host}

theorem initial (hinitial : h.Initial) :
    HandoverInvariant roots rootIndex h := by
  have hprocess := hinitial.process
  constructor
  · intro pid
    rw [hprocess]
    exact .unborn
  · exact fun pid _ => hprocess pid
  · exact fun k i pid hslot => absurd hslot (hinitial.slot k i pid)
  all_goals
    intros
    simp_all [DirectorProcess.unborn, DirectorProcess.launched]

variable (hinv : HandoverInvariant roots rootIndex h)

include hinv

theorem born {pid : ℕ} (hlive : (h.process pid).pc ≠ .exited) :
    pid < h.count := by
  by_contra hnot
  rw [hinv.unborn pid (not_lt.mp hnot)] at hlive
  exact hlive rfl

theorem withProcess {pid : ℕ} {p : DirectorProcess}
    (hquiet : h.Quiet roots pid p) :
    HandoverInvariant roots rootIndex (h.withProcess pid p) := by
  obtain ⟨hborn, hparent, hattached, hnotified, hsound, hreloading, hleft⟩ :=
    hquiet
  have hothers : ∀ q, ((h.withProcess pid p).process q).parent =
        (h.process q).parent ∧
      ((h.withProcess pid p).process q).attached = (h.process q).attached ∧
      ((h.process q).notified = true →
        ((h.withProcess pid p).process q).notified = true) := by
    intro q
    by_cases hq : q = pid
    · rw [hq, Host.withProcess_self]
      exact ⟨hparent, hattached, hnotified⟩
    · rw [Host.withProcess_of_ne hq]
      exact ⟨rfl, rfl, id⟩
  constructor
  · intro q
    by_cases hq : q = pid
    · rw [hq, Host.withProcess_self]
      exact hsound
    · rw [Host.withProcess_of_ne hq]
      exact hinv.sound q
  · intro q hcount
    rw [Host.withProcess_of_ne (ne_of_gt (hborn.trans_le hcount))]
    exact hinv.unborn q hcount
  · intro k i q hslot
    rw [(hothers q).2.1]
    exact hinv.director k i q hslot
  · intro k q hk
    rw [(hothers q).2.1] at hk
    exact hinv.taken k q hk
  · intro child q hchild
    rw [(hothers child).1] at hchild
    exact (hothers q).2.2 (hinv.parent child q hchild)
  · intro q child hpc
    rw [(hothers child).1]
    by_cases hq : q = pid
    · rw [hq, Host.withProcess_self] at hpc
      rw [hq]
      exact hreloading child hpc
    · rw [Host.withProcess_of_ne hq] at hpc
      exact hinv.reloading q child hpc
  · intro q hpc
    obtain ⟨child, hchild, hready⟩ : ∃ child,
        (h.process child).parent = some q ∧
          (h.process child).notified = true := by
      by_cases hq : q = pid
      · rw [hq, Host.withProcess_self] at hpc
        rw [hq]
        exact hleft hpc
      · rw [Host.withProcess_of_ne hq] at hpc
        exact hinv.left q hpc
    exact ⟨child, (hothers child).1.trans hchild,
      (hothers child).2.2 hready⟩
  · intro child q k hchild hk
    rw [(hothers child).1] at hchild
    rw [(hothers child).2.1] at hk
    exact hinv.displaced child q k hchild hk

theorem withPc {pid : ℕ} {pc : DirectorPc}
    (hlive : (h.process pid).pc ≠ .exited)
    (hpc : pc.Announced ∧ (h.process pid).notified = true ∨ pc = .exited)
    (hreloading : ∀ child, pc = .reloading child →
      (h.process child).parent = some pid)
    (hleft : pc = .handedOver → ∃ child,
      (h.process child).parent = some pid ∧
        (h.process child).notified = true) :
    HandoverInvariant roots rootIndex (h.withPc pid pc) :=
  hinv.withProcess ⟨hinv.born hlive, rfl, rfl, id,
    (hinv.sound pid).withPc hpc, hreloading, hleft⟩

theorem launch {parent : Option ℕ}
    (hparent : ∀ pid, parent = some pid →
      (h.process pid).notified = true) :
    HandoverInvariant roots rootIndex (h.launch parent) := by
  have hself : (h.launch parent).process h.count =
      .launched parent h.version := Host.launch_self
  have hold : ∀ q, q ≠ h.count →
      (h.launch parent).process q = h.process q :=
    fun q hq => Host.launch_of_ne hq
  have hcount := hinv.unborn h.count (le_refl _)
  -- The number is new: nobody has been told of it.
  have hnew : ∀ q, (h.process q).notified = true → q ≠ h.count := by
    rintro q hnotified rfl
    rw [hcount] at hnotified
    cases hnotified
  have hborn : ∀ child q, (h.process child).parent = some q →
      child ≠ h.count := by
    rintro child q hchild rfl
    rw [hcount] at hchild
    cases hchild
  have hattached : ∀ q, ((h.launch parent).process q).attached =
      (h.process q).attached := by
    intro q
    by_cases hq : q = h.count
    · rw [hq, hself, hcount]
      rfl
    · rw [hold q hq]
  constructor
  · intro q
    by_cases hq : q = h.count
    · rw [hq, hself]
      exact .launched parent
    · rw [hold q hq]
      exact hinv.sound q
  · intro q hq
    rw [hold q (Nat.ne_of_gt (Nat.lt_of_succ_le hq))]
    exact hinv.unborn q (Nat.le_of_succ_le hq)
  · intro k i q hslot
    rw [hattached]
    exact hinv.director k i q hslot
  · intro k q hk
    rw [hattached] at hk
    exact hinv.taken k q hk
  · intro child q hchild
    have hnotified : (h.process q).notified = true := by
      by_cases hchildren : child = h.count
      · rw [hchildren, hself] at hchild
        exact hparent q hchild
      · rw [hold child hchildren] at hchild
        exact hinv.parent child q hchild
    rw [hold q (hnew q hnotified)]
    exact hnotified
  · intro q child hpc
    have hq : q ≠ h.count := by
      rintro rfl
      rw [hself] at hpc
      cases hpc
    rw [hold q hq] at hpc
    have hchild := hinv.reloading q child hpc
    rw [hold child (hborn child q hchild)]
    exact hchild
  · intro q hpc
    have hq : q ≠ h.count := by
      rintro rfl
      rw [hself] at hpc
      cases hpc
    rw [hold q hq] at hpc
    obtain ⟨child, hchild, hready⟩ := hinv.left q hpc
    refine ⟨child, ?_⟩
    rw [hold child (hborn child q hchild)]
    exact ⟨hchild, hready⟩
  · intro child q k hchild hk
    rw [hattached] at hk
    have hne : child ≠ h.count := by
      rintro rfl
      rw [hcount] at hk
      cases hk
    rw [hold child hne] at hchild
    exact hinv.displaced child q k hchild hk

theorem attach {pid : ℕ} (hpc : (h.process pid).pc = .attaching)
    (hroot : (h.process pid).attached < roots) :
    HandoverInvariant roots rootIndex (h.attach rootIndex pid) := by
  have hkept : ∀ q, ((h.attach rootIndex pid).process q).pc =
        (h.process q).pc ∧
      ((h.attach rootIndex pid).process q).parent = (h.process q).parent ∧
      ((h.attach rootIndex pid).process q).notified =
        (h.process q).notified := by
    intro q
    by_cases hq : q = pid
    · rw [hq, Host.attach_self]
      exact ⟨rfl, rfl, rfl⟩
    · rw [Host.attach_of_ne hq]
      exact ⟨rfl, rfl, rfl⟩
  -- The process has no children before it has reported READY.
  have hchildless : ∀ child, (h.process child).parent ≠ some pid := by
    intro child hchild
    have hnotified := hinv.parent child pid hchild
    rw [(hinv.sound pid).not_announced (by simp [hpc, DirectorPc.Announced])
      (by simp [hpc])] at hnotified
    cases hnotified
  constructor
  · intro q
    by_cases hq : q = pid
    · rw [hq, Host.attach_self]
      exact (hinv.sound pid).attach hpc hroot
    · rw [Host.attach_of_ne hq]
      exact hinv.sound q
  · intro q hcount
    have hborn : pid < h.count := hinv.born (by simp [hpc])
    rw [Host.attach_of_ne (ne_of_gt (hborn.trans_le hcount))]
    exact hinv.unborn q hcount
  · intro k i q hslot
    rcases Host.attach_slot_cases hslot with ⟨rfl, rfl, rfl⟩ | hold
    · rw [Host.attach_self]
      exact ⟨rfl, Nat.lt_succ_self _⟩
    · obtain ⟨hi, hk⟩ := hinv.director k i q hold
      exact ⟨hi, hk.trans_le Host.attached_le_attach⟩
  · intro k q hk
    by_cases hlast : k = (h.process pid).attached
    · exact ⟨pid, by rw [hlast, Host.attach_slot_self]⟩
    · have hold : k < (h.process q).attached := by
        by_cases hq : q = pid
        · rw [hq, Host.attach_self] at hk
          rw [hq]
          exact lt_of_le_of_ne (Nat.le_of_lt_succ hk) hlast
        · rwa [Host.attach_of_ne hq] at hk
      rw [Host.attach_slot_of_ne hlast]
      exact hinv.taken k q hold
  · intro child q hchild
    rw [(hkept child).2.1] at hchild
    rw [(hkept q).2.2]
    exact hinv.parent child q hchild
  · intro q child hq
    rw [(hkept q).1] at hq
    rw [(hkept child).2.1]
    exact hinv.reloading q child hq
  · intro q hq
    rw [(hkept q).1] at hq
    obtain ⟨child, hchild, hready⟩ := hinv.left q hq
    exact ⟨child, (hkept child).2.1.trans hchild,
      (hkept child).2.2.trans hready⟩
  · intro child q k hchild hk hslot
    rw [(hkept child).2.1] at hchild
    rcases Host.attach_slot_cases hslot with ⟨_, _, rfl⟩ | hold
    · exact hchildless child hchild
    · have hbefore : k < (h.process child).attached := by
        by_cases hself : child = pid
        · rw [hself, Host.attach_self] at hk
          by_contra hnot
          have hlast : k = (h.process pid).attached := by
            rw [hself] at hnot
            exact le_antisymm (Nat.le_of_lt_succ hk) (not_lt.mp hnot)
          rw [hlast, Host.attach_slot_self] at hslot
          obtain rfl := XdpProgram.director.inj (Option.some.inj hslot)
          exact hchildless child hchild
        · rwa [Host.attach_of_ne hself] at hk
      exact hinv.displaced child q k hchild hbefore hold

theorem edit (files : DirectorFiles) :
    HandoverInvariant roots rootIndex (h.edit files) where
  sound pid := (hinv.sound pid).edit files
  unborn := hinv.unborn
  director := hinv.director
  taken := hinv.taken
  parent := hinv.parent
  reloading := hinv.reloading
  left := hinv.left
  displaced := hinv.displaced

theorem otherPut {k : ℕ} {i : Fin rootArraySize} (hi : i ≠ rootIndex)
    (id : Option ℕ) :
    HandoverInvariant roots rootIndex (h.putSlot k i (id.map .other)) := by
  have hroot : ∀ k', (h.putSlot k i (id.map .other)).slot k' rootIndex =
      h.slot k' rootIndex := by
    intro k'
    by_cases hk : k' = k
    · rw [hk, Host.putSlot_self, Function.update_of_ne hi.symm]
    · rw [Host.putSlot_of_ne hk]
  constructor
  · exact hinv.sound
  · exact hinv.unborn
  · intro k' i' pid hslot
    by_cases hk : k' = k
    · rw [hk, Host.putSlot_self] at hslot
      by_cases hi' : i' = i
      · rw [hi', Function.update_self] at hslot
        cases id <;> cases hslot
      · rw [Function.update_of_ne hi', ← hk] at hslot
        exact hinv.director k' i' pid hslot
    · rw [Host.putSlot_of_ne hk] at hslot
      exact hinv.director k' i' pid hslot
  · intro k' pid hk
    rw [hroot]
    exact hinv.taken k' pid hk
  · exact hinv.parent
  · exact hinv.reloading
  · exact hinv.left
  · intro child pid k' hchild hk
    rw [hroot]
    exact hinv.displaced child pid k' hchild hk

theorem step {overlapping : Prop} {h' : Host}
    (hstep : HandoverStep roots rootIndex overlapping h h') :
    HandoverInvariant roots rootIndex h' := by
  cases hstep with
  | edit files => exact hinv.edit files
  | start halone => exact hinv.launch fun pid hpid => by cases hpid
  | loadConfig pid config hpc hconfig =>
      exact hinv.withProcess ⟨hinv.born (by simp [hpc]), rfl, rfl, id,
        (hinv.sound pid).loadConfig hpc hconfig, fun _ h => (by cases h),
        fun h => (by cases h)⟩
  | syncConfig pid config hpc =>
      exact hinv.withProcess ⟨hinv.born (by simp [hpc]), rfl, rfl, id,
        (hinv.sound pid).syncConfig hpc, fun _ h => (by cases h),
        fun h => (by cases h)⟩
  | loadTable pid maps hpc hload =>
      exact hinv.withProcess ⟨hinv.born (by simp [hpc]), rfl, rfl, id,
        (hinv.sound pid).loadTable hpc hload, fun _ h => (by cases h),
        fun h => (by cases h)⟩
  | attach pid hpc hroot => exact hinv.attach hpc hroot
  | notify pid hpc hroots =>
      exact hinv.withProcess ⟨hinv.born (by simp [hpc]), rfl, rfl,
        fun _ => rfl, (hinv.sound pid).notify hpc hroots,
        fun _ h => (by cases h), fun h => (by cases h)⟩
  | signal pid hpc =>
      have hready := (hinv.sound pid).announced (by rw [hpc]; trivial)
      have hne : pid ≠ h.count :=
        Nat.ne_of_lt (hinv.born (by simp [hpc]))
      have hlaunched : HandoverInvariant roots rootIndex
          (h.launch (some pid)) :=
        hinv.launch fun q hq => Option.some.inj hq ▸ hready
      have hsame : (h.launch (some pid)).process pid = h.process pid :=
        Host.launch_of_ne hne
      refine hlaunched.withPc ?_ (.inl ⟨trivial, ?_⟩) ?_ fun h => (by cases h)
      · simp [hsame, hpc]
      · rw [hsame]
        exact hready
      · intro child hchild
        obtain rfl := DirectorPc.reloading.inj hchild
        exact congrArg _ Host.launch_self
  | giveUp pid child hpc hlate =>
      exact hinv.withPc (by simp [hpc])
        (.inl ⟨trivial, (hinv.sound pid).announced (by rw [hpc]; trivial)⟩)
        (fun _ h => (by cases h)) fun h => (by cases h)
  | handOver pid child hpc hready =>
      exact hinv.withPc (by simp [hpc])
        (.inl ⟨trivial, (hinv.sound pid).announced (by rw [hpc]; trivial)⟩)
        (fun _ h => (by cases h))
        fun _ => ⟨child, hinv.reloading pid child hpc, hready⟩
  | exit pid hlive =>
      refine hinv.withPc ?_ (.inr rfl) (fun _ h => (by cases h))
        fun h => (by cases h)
      intro hexited
      rw [hexited] at hlive
      exact hlive trivial
  | otherPut k i hi id => exact hinv.otherPut hi id

end HandoverInvariant

section Runs

variable {roots : ℕ} {rootIndex : Fin rootArraySize} {overlapping : Prop}
  {h : Host}

theorem HostReachable.invariant
    (hreach : HostReachable roots rootIndex overlapping h) :
    HandoverInvariant roots rootIndex h := by
  obtain ⟨start, hinitial, hrun⟩ := hreach
  induction hrun with
  | refl => exact .initial hinitial
  | tail _ hstep ih => exact ih.step hstep

theorem Host.exists_slot_of_deliver {k pid : ℕ} {packet : Bytes}
    {action : XdpAction} (hdeliver : h.deliver k packet = .director pid action) :
    (∃ i, h.slot k i = some (.director pid)) ∧
      action = xdpGlbDirectorProcess (h.process pid).maps packet := by
  unfold Host.deliver at hdeliver
  split at hdeliver
  · cases hdeliver
  · cases hdeliver
  · rename_i pid' hroot
    obtain ⟨rfl, rfl⟩ := RootAction.director.inj hdeliver
    obtain ⟨i, _, hslot⟩ := List.exists_of_findSome?_eq_some hroot
    exact ⟨⟨i, hslot⟩, rfl⟩

end Runs

/-- However the steps of the processes interleave: a packet that reaches a
director is handled by one configuration and one forwarding table, both as a
whole; no interface is without a director once a process has reported READY;
and a process that exits on READY has no packets left. -/
theorem handover_serves_whole_tables
    {roots : ℕ}
    {rootIndex : Fin rootArraySize}
    {h : Host}
    (hreach : HostReachable roots rootIndex True h) :
    (∀ k packet pid action,
      h.deliver k packet = .director pid action →
      ∃ config maps,
        (h.process pid).configVersion ≤ h.version ∧
        (h.process pid).tableVersion ≤ h.version ∧
        (h.files (h.process pid).configVersion).config = some config ∧
        reloadForwardingTable (h.files (h.process pid).tableVersion).table
          (syncConfigMap config freshMaps) = .ok maps ∧
        action = xdpGlbDirectorProcess maps packet) ∧
    (∀ pid, (h.process pid).notified = true → ∀ k < roots,
      ∃ q, h.slot k rootIndex = some (.director q)) ∧
    (∀ pid, (h.process pid).pc = .handedOver → ∀ k packet action,
      h.deliver k packet ≠ .director pid action) := by
  have hinv := hreach.invariant
  refine ⟨?_, ?_, ?_⟩
  · intro k packet pid action hdeliver
    obtain ⟨⟨i, hslot⟩, haction⟩ := Host.exists_slot_of_deliver hdeliver
    have hattached := (hinv.director k i pid hslot).2
    obtain ⟨config, hconfig, hload⟩ :=
      (hinv.sound pid).loaded (.inr (Nat.zero_lt_of_lt hattached))
    exact ⟨config, _, (hinv.sound pid).config_le, (hinv.sound pid).table_le,
      hconfig, hload, haction⟩
  · intro pid hnotified k hk
    apply hinv.taken k pid
    rw [((hinv.sound pid).notified hnotified).1]
    exact hk
  · intro pid hpc k packet action hdeliver
    obtain ⟨⟨i, hslot⟩, _⟩ := Host.exists_slot_of_deliver hdeliver
    obtain ⟨rfl, hk⟩ := hinv.director k i pid hslot
    obtain ⟨child, hchild, hready⟩ := hinv.left pid hpc
    refine hinv.displaced child pid k hchild ?_ hslot
    rw [((hinv.sound child).notified hready).1]
    exact hk.trans_le (hinv.sound pid).attached_le

/-! ## A reload that succeeds -/

section Success

variable {roots : ℕ} {rootIndex : Fin rootArraySize} {overlapping : Prop}
  {h : Host} {pid : ℕ}

/-- Only process `pid` and the slots have changed. -/
structure Host.SameBut (h h' : Host) (pid : ℕ) : Prop where
  files : h'.files = h.files
  version : h'.version = h.version
  count : h'.count = h.count
  process : ∀ q, q ≠ pid → h'.process q = h.process q
  parent : (h'.process pid).parent = (h.process pid).parent
  start : (h'.process pid).startVersion = (h.process pid).startVersion

theorem Host.SameBut.trans {h' h'' : Host} (hfirst : h.SameBut h' pid)
    (hsecond : h'.SameBut h'' pid) : h.SameBut h'' pid where
  files := hsecond.files.trans hfirst.files
  version := hsecond.version.trans hfirst.version
  count := hsecond.count.trans hfirst.count
  process q hq := (hsecond.process q hq).trans (hfirst.process q hq)
  parent := hsecond.parent.trans hfirst.parent
  start := hsecond.start.trans hfirst.start

theorem Host.sameBut_withProcess {p : DirectorProcess}
    (hparent : p.parent = (h.process pid).parent)
    (hstart : p.startVersion = (h.process pid).startVersion) :
    h.SameBut (h.withProcess pid p) pid where
  files := rfl
  version := rfl
  count := rfl
  process _ hq := Host.withProcess_of_ne hq
  parent := by
    rw [Host.withProcess_self]
    exact hparent
  start := by
    rw [Host.withProcess_self]
    exact hstart

theorem Host.sameBut_attach : h.SameBut (h.attach rootIndex pid) pid where
  files := rfl
  version := rfl
  count := rfl
  process _ hq := Host.attach_of_ne hq
  parent := by
    rw [Host.attach_self]
    rfl
  start := by
    rw [Host.attach_self]
    rfl

variable (rootIndex overlapping)

theorem exists_attach_run (left : ℕ)
    (hpc : (h.process pid).pc = .attaching)
    (hleft : (h.process pid).attached + left = roots) :
    ∃ h', Relation.ReflTransGen
        (HandoverStep roots rootIndex overlapping) h h' ∧
      h.SameBut h' pid ∧ (h'.process pid).pc = .attaching ∧
      (h'.process pid).attached = roots := by
  induction left generalizing h with
  | zero =>
      exact ⟨h, .refl, ⟨rfl, rfl, rfl, fun _ _ => rfl, rfl, rfl⟩, hpc, hleft⟩
  | succ left ih =>
      have hself : (h.attach rootIndex pid).process pid =
          (h.process pid).attach := Host.attach_self
      have hroot : (h.process pid).attached < roots := by omega
      obtain ⟨h', hrun, hsame, hdone⟩ := ih
        (show ((h.attach rootIndex pid).process pid).pc = .attaching by
          rw [hself]; exact hpc)
        (by
          rw [hself]
          show (h.process pid).attached + 1 + left = roots
          omega)
      exact ⟨h', .head (.attach h pid hpc hroot) hrun,
        Host.sameBut_attach.trans hsame, hdone⟩

variable (roots)

/-- A process whose files load can go on until it reports READY. -/
theorem exists_ready_run {config : XdpConfig} {maps : XdpMaps}
    (hpc : (h.process pid).pc = .starting)
    (hfresh : (h.process pid).maps = freshMaps)
    (hnone : (h.process pid).attached = 0)
    (hconfig : (h.files h.version).config = some config)
    (hload : reloadForwardingTable (h.files h.version).table
      (syncConfigMap config freshMaps) = .ok maps) :
    ∃ h', Relation.ReflTransGen
        (HandoverStep roots rootIndex overlapping) h h' ∧
      h.SameBut h' pid ∧ (h'.process pid).pc = .waiting ∧
      (h'.process pid).notified = true := by
  let h₁ := h.withProcess pid ((h.process pid).loadConfig config h.version)
  have hfirst : h₁.process pid =
      (h.process pid).loadConfig config h.version := Host.withProcess_self
  let h₂ := h₁.withProcess pid ((h₁.process pid).syncConfig config)
  have hsecond : h₂.process pid = (h₁.process pid).syncConfig config :=
    Host.withProcess_self
  let h₃ := h₂.withProcess pid ((h₂.process pid).loadTable maps h.version)
  have hthird : h₃.process pid =
      (h₂.process pid).loadTable maps h.version := Host.withProcess_self
  have hmaps : (h₂.process pid).maps = syncConfigMap config freshMaps := by
    rw [hsecond, hfirst]
    exact congrArg (syncConfigMap config) hfresh
  have hsynced : HandoverStep roots rootIndex overlapping h₁ h₂ :=
    .syncConfig h₁ pid config (by rw [hfirst]; rfl)
  have hloaded : HandoverStep roots rootIndex overlapping h₂ h₃ :=
    .loadTable h₂ pid maps (by rw [hsecond]; rfl) (by rw [hmaps]; exact hload)
  have hattached : (h₃.process pid).attached = 0 := by
    rw [hthird, hsecond, hfirst]
    exact hnone
  obtain ⟨h₄, hrun, hsame, hattaching, hroots⟩ :=
    exists_attach_run rootIndex overlapping roots
      (show (h₃.process pid).pc = .attaching by rw [hthird]; rfl)
      (by rw [hattached, Nat.zero_add])
  have hsame₁ : h.SameBut h₁ pid := Host.sameBut_withProcess rfl rfl
  have hsame₂ : h₁.SameBut h₂ pid := Host.sameBut_withProcess rfl rfl
  have hsame₃ : h₂.SameBut h₃ pid := Host.sameBut_withProcess rfl rfl
  refine ⟨h₄.withProcess pid (h₄.process pid).notify,
    .head (.loadConfig h pid config hpc hconfig)
      (.head hsynced (.head hloaded (hrun.tail
        (.notify h₄ pid hattaching hroots)))),
    (((hsame₁.trans hsame₂).trans hsame₃).trans hsame).trans
      (Host.sameBut_withProcess rfl rfl), ?_⟩
  rw [Host.withProcess_self]
  exact ⟨rfl, rfl⟩

/-- A reload of files that load can be completed. -/
theorem exists_reload_run (hinv : HandoverInvariant roots rootIndex h)
    {config : XdpConfig} {maps : XdpMaps}
    (hpc : (h.process pid).pc = .waiting)
    (hconfig : (h.files h.version).config = some config)
    (hload : reloadForwardingTable (h.files h.version).table
      (syncConfigMap config freshMaps) = .ok maps) :
    ∃ h', Relation.ReflTransGen
        (HandoverStep roots rootIndex overlapping) h h' ∧
      h'.version = h.version ∧
      (h'.process pid).pc = .handedOver ∧
      (h'.process h.count).notified = true ∧
      (h'.process h.count).startVersion = h.version := by
  have hne : h.count ≠ pid :=
    Nat.ne_of_gt (hinv.born (by simp [hpc]))
  let h₁ := (h.launch (some pid)).withPc pid (.reloading h.count)
  have hchild : h₁.process h.count = .launched (some pid) h.version :=
    (Host.withProcess_of_ne hne).trans Host.launch_self
  have hparent : (h₁.process pid).pc = .reloading h.count :=
    congrArg _ Host.withProcess_self
  obtain ⟨h₂, hrun, hsame, _, hready⟩ :=
    exists_ready_run roots rootIndex overlapping
      (show (h₁.process h.count).pc = .starting by rw [hchild]; rfl)
      (by rw [hchild]; rfl) (by rw [hchild]; rfl) hconfig hload
  have hwaits : (h₂.process pid).pc = .reloading h.count := by
    rw [hsame.process pid hne.symm]
    exact hparent
  refine ⟨h₂.withPc pid .handedOver,
    .head (.signal h pid hpc) (hrun.tail (.handOver h₂ pid _ hwaits hready)),
    hsame.version, congrArg _ Host.withProcess_self, ?_, ?_⟩
  · exact (congrArg _ (Host.withProcess_of_ne hne)).trans hready
  · refine (congrArg _ (Host.withProcess_of_ne hne)).trans
      (hsame.start.trans ?_)
    rw [hchild]
    rfl

end Success

/-- A host on which the sample files lie. -/
def sampleHost : Host where
  files _ := ⟨some migratingXdp, builtFile zeroGarbage mergeSortByHash
    [sampleInput threeSlots]⟩
  version := 0
  process _ := .unborn
  count := 0
  slot _ _ := none

theorem sampleHost_initial : sampleHost.Initial :=
  ⟨fun _ => rfl, fun _ _ _ hslot => (by cases hslot)⟩

def defaultRootIndex : Fin rootArraySize := ⟨2, by decide⟩

/-- The first process, and later a reload of the same files. -/
theorem exists_sample_reload (overlapping : Prop) :
    ∃ h h', HostReachable 1 defaultRootIndex overlapping h ∧
      Relation.ReflTransGen
        (HandoverStep 1 defaultRootIndex overlapping) h h' ∧
      (h.process 0).notified = true ∧ h.version = 1 ∧
      (h'.process 0).pc = .handedOver ∧
      (h'.process 1).notified = true ∧ (h'.process 1).startVersion = 1 := by
  obtain ⟨maps, hload⟩ := threeRoot_loads
  have halone : ∀ pid, (sampleHost.process pid).pc.Gone := fun _ => trivial
  let started := sampleHost.launch none
  have hself : started.process 0 = .launched none 0 :=
    Host.launch_self (h := sampleHost)
  obtain ⟨ready, hrun, hsame, hwaiting, hnotified⟩ :=
    exists_ready_run 1 defaultRootIndex overlapping
      (show (started.process 0).pc = .starting by rw [hself]; rfl)
      (by rw [hself]; rfl) (by rw [hself]; rfl) rfl hload
  let edited := ready.edit ⟨some migratingXdp, builtFile zeroGarbage
    mergeSortByHash [sampleInput threeSlots]⟩
  have hversion : edited.version = 1 := congrArg (· + 1) hsame.version
  have hfiles : edited.files edited.version = ⟨some migratingXdp,
      builtFile zeroGarbage mergeSortByHash [sampleInput threeSlots]⟩ :=
    Function.update_self ..
  have hreach : HostReachable 1 defaultRootIndex overlapping edited :=
    ⟨sampleHost, sampleHost_initial, .head (.start _ (.inr halone))
      (hrun.tail (.edit ready _))⟩
  have hcount : edited.count = 1 := hsame.count
  obtain ⟨later, hrun', _, hleft, hready, hstart⟩ :=
    exists_reload_run 1 defaultRootIndex overlapping hreach.invariant
      (show (edited.process 0).pc = .waiting from hwaiting)
      (congrArg _ hfiles)
      ((congrArg (fun files : DirectorFiles => reloadForwardingTable
        files.table _) hfiles).trans hload)
  rw [hcount] at hready hstart
  exact ⟨edited, later, hreach, hrun', hnotified, hversion, hleft, hready,
    hstart.trans hversion⟩

/-- After the reload the first process has no packets, and the interface is
served. -/
theorem handover_serves_whole_tables_reloaded :
    ∃ h : Host, HostReachable 1 defaultRootIndex True h ∧
      (h.process 0).pc = .handedOver ∧
      (∃ q, h.slot 0 defaultRootIndex = some (.director q)) ∧
      ∀ k packet action, h.deliver k packet ≠ .director 0 action := by
  obtain ⟨h, h', ⟨start, hinitial, hbefore⟩, hrun, _, _, hleft, hready, _⟩ :=
    exists_sample_reload True
  have hreach : HostReachable 1 defaultRootIndex True h' :=
    ⟨start, hinitial, hbefore.trans hrun⟩
  obtain ⟨_, hserved, hgone⟩ := handover_serves_whole_tables hreach
  exact ⟨h', hreach, hleft, hserved 1 hready 0 Nat.one_pos, hgone 0 hleft⟩

end GlbDirector
