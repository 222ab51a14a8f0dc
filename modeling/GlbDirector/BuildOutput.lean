import GlbDirector.LoggedExcept
import GlbDirector.RendezvousRows

/-!
# The output file of `build-config` (`cli/main.c`)

The table is written to a temporary file, which is then renamed to the
destination.  An error in the document exits in the middle of the writes, and
the handler of `atexit` removes the temporary file; a failed `rename` removes
it as well.  The results of `fwrite` and `fclose` are not looked at, so a file
that misses bytes is installed like any other.  With fewer than two available
backends the rows are made from slots that nothing has filled, and their
indices may lead to memory that is not mapped: the process dies where it is
and the temporary file stays.
-/

namespace GlbDirector

open ByteCodec ExceptLoops LoggedExcept

/-! ## Memory behind `out_backends` -/

/-- What a run finds on its stack, and where a read of `out_backends[idx]` past
its end faults, per table and row. -/
structure BuildMemory where
  garbage : StackGarbage
  unmapped : ℕ → ℕ → UInt32 → Bool

def BuildMemory.faults (memory : BuildMemory) (tableIndex row : ℕ)
    (idx : UInt32) : Bool :=
  maxNumBackends ≤ idx.toNat && memory.unmapped tableIndex row idx

/-- The reads of a row.  The secondary is looked at only if the primary is
bad. -/
def BuildMemory.rowFaults (memory : BuildMemory) (tableIndex row : ℕ)
    (outBackends : List BackendEntry) (sortable : List SortableBackend) :
    Bool :=
  let first := sortable.getD 0 .zero
  let second := sortable.getD 1 .zero
  let primary := outBackends.getD first.index.toNat
    (memory.garbage.stray tableIndex row first.index)
  memory.faults tableIndex row first.index ||
    primaryBad primary && memory.faults tableIndex row second.index

/-! ## The writes of a run, with those before an error -/

/-- `exit` with a message, or death by a signal. -/
inductive BuildStop where
  | exit (error : BuildError)
  | fault
  deriving DecidableEq

abbrev Emit (α : Type) := Logged Bytes BuildStop α

def exits {α : Type} (run : Except BuildError α) : Emit α :=
  Logged.lift (run.mapError .exit)

/-- The loop over the slots of the binds. -/
def emitBinds : ℕ → List Json → Emit Unit
  | 0, _ => pure ()
  | slots + 1, [] => do
      Logged.write BindEntry.zero.write
      emitBinds slots []
  | slots + 1, bind :: rest => do
      let parsed ← exits (parseBind bind)
      Logged.write parsed.entry.write
      emitBinds slots rest

/-- The rows from `row` on, each with the array as it is sorted for it. -/
def emitRows (memory : BuildMemory) (tableIndex : ℕ)
    (outBackends : List BackendEntry) :
    ℕ → List (List SortableBackend) → Emit Unit
  | _, [] => pure ()
  | row, ranked :: rest =>
      if memory.rowFaults tableIndex row outBackends ranked then
        Logged.lift (.error .fault)
      else do
        Logged.write (emitRow (memory.garbage.stray tableIndex row)
          outBackends ranked).write
        emitRows memory tableIndex outBackends (row + 1) rest

/-- A table up to its rows; the rows are made from the backends and the seed. -/
def emitFields (garbage : StackGarbage) (tableIndex : ℕ) (table : Json) :
    Emit (Slots maxNumBackends LoadedBackend × ByteVec 16) := do
  let backends ←
    exits (orExit (jsonObjectGet table (ascii "backends")) .noBackends)
  Logged.write (u32le (UInt32.ofNat (jsonArrayElements backends).length))
  let loaded ← exits
    (parseSlots parseBackend maxNumBackends (jsonArrayElements backends))
  let outBackends :=
    padSlots maxNumBackends .zero (loaded.used.map LoadedBackend.entry)
  Logged.write (outBackends.map BackendEntry.write).flatten
  let binds ← exits (orExit (jsonObjectGet table (ascii "binds")) .noBinds)
  let numBinds := UInt32.ofNat (jsonArrayElements binds).length
  Logged.write (u32le numBinds)
  emitBinds maxNumBinds ((jsonArrayElements binds).take numBinds.toNat)
  let hashKey ← exits (parseKey (garbage.byteval (2 * tableIndex))
    (jsonStringValue (jsonObjectGet table (ascii "hash_key")))
    .badHashKey .hashKeyLength)
  Logged.write hashKey.val
  let seed ← exits (parseKey (garbage.byteval (2 * tableIndex + 1))
    (jsonStringValue (jsonObjectGet table (ascii "seed")))
    .badSeed .seedLength)
  return (loaded, seed)

/-- The rows of a table; the array `sortable_backends` is passed on. -/
def emitTableRows (memory : BuildMemory) (sort : BackendSort)
    (tableIndex : ℕ) (sortable : List SortableBackend)
    (fields : Slots maxNumBackends LoadedBackend × ByteVec 16) :
    Emit (List SortableBackend) := do
  let outBackends :=
    padSlots maxNumBackends .zero (fields.1.used.map LoadedBackend.entry)
  let filled := fillSortable 0 fields.1.used 0 sortable
  let rankings := rankRows sort fields.2 outBackends filled.1
    (List.range tableEntries) filled.2
  emitRows memory tableIndex outBackends 0 rankings
  return rankings.getLastD filled.2

def emitTable (memory : BuildMemory) (sort : BackendSort) (tableIndex : ℕ)
    (sortable : List SortableBackend) (table : Json) :
    Emit (List SortableBackend) := do
  let fields ← emitFields memory.garbage tableIndex table
  emitTableRows memory sort tableIndex sortable fields

def emitTables (memory : BuildMemory) (sort : BackendSort) :
    ℕ → List Json → List SortableBackend → Emit Unit
  | _, [], _ => pure ()
  | tableIndex, table :: rest, sortable => do
      let sortable ← emitTable memory sort tableIndex sortable table
      emitTables memory sort (tableIndex + 1) rest sortable

/-- All that happens between `fdopen` and `fclose`. -/
def emitConfig (memory : BuildMemory) (sort : BackendSort) (tables : Json) :
    Emit Unit := do
  Logged.writeAll (headerWrites (UInt32.ofNat (jsonArraySize tables)))
  emitTables memory sort 0 (jsonArrayElements tables)
    memory.garbage.sortable

/-! ## Files -/

/-- What the calls of a run return.  A stream takes some bytes of each
`fwrite`, in order, all of them if the call succeeds; a failed `fclose` may
lose bytes at the end.  `flushed` bytes are in the file when a signal kills the
process. -/
structure OutputCalls where
  mkstemp : Bool
  fdopen : Bool
  accepted : ℕ → ℕ
  lost : ℕ
  flushed : ℕ
  rename : Bool

structure OutputFiles where
  destination : Option Bytes
  temporary : Option Bytes
  deriving DecidableEq

def OutputFiles.create (files : OutputFiles) : OutputFiles :=
  { files with temporary := some [] }

def OutputFiles.store (files : OutputFiles) (contents : Bytes) : OutputFiles :=
  { files with temporary := some contents }

def OutputFiles.unlink (files : OutputFiles) : OutputFiles :=
  { files with temporary := none }

def OutputFiles.rename (files : OutputFiles) : OutputFiles where
  destination := files.temporary
  temporary := none

/-- The bytes that the stream has taken, from the given `fwrite` on. -/
def OutputCalls.stream (calls : OutputCalls) : ℕ → List Bytes → Bytes
  | _, [] => []
  | n, bytes :: rest =>
      bytes.take (calls.accepted n) ++ calls.stream (n + 1) rest

/-- The file after `fclose`. -/
def OutputCalls.closed (calls : OutputCalls) (writes : List Bytes) : Bytes :=
  let taken := calls.stream 0 writes
  taken.take (taken.length - calls.lost)

/-- `main` on a document: the files and the exit status, if it comes to an
`exit`. -/
def runBuild (memory : BuildMemory) (sort : BackendSort)
    (calls : OutputCalls) (root : Json) (files : OutputFiles) :
    OutputFiles × Option ℕ :=
  match jsonObjectGet root (ascii "tables") with
  | none => (files, some 1)
  | some tables =>
      if calls.mkstemp then
        if calls.fdopen then
          let emitted := emitConfig memory sort tables
          match emitted.result with
          | .error (.exit _) =>
              -- `exit` runs `cleanup_tmp_file`; what is flushed after it goes
              -- to a file without a name
              (files.create.unlink, some 1)
          | .error .fault =>
              (files.store
                ((calls.stream 0 emitted.written).take calls.flushed), none)
          | .ok () =>
              let closed := files.store (calls.closed emitted.written)
              if calls.rename then (closed.rename, some 0)
              else (closed.unlink, some 1)
        else (files.create.unlink, some 1)
      else (files, some 1)

/-! ## Reads outside `out_backends` -/

/-- A row of the table reads unmapped memory. -/
def TableInput.Strays (input : TableInput) (memory : BuildMemory)
    (sort : BackendSort) (tableIndex : ℕ) (sortable : List SortableBackend) :
    Prop :=
  ∃ row ranked, (input.rankings sort sortable)[row]? = some ranked ∧
    memory.rowFaults tableIndex row input.outBackends ranked = true

/-- One of the tables does, and it and all before it parse. -/
def StrayTables (memory : BuildMemory) (sort : BackendSort)
    (tableIndex : ℕ) (tables : List Json) (sortable : List SortableBackend) :
    Prop :=
  ∃ inputs t input,
    parseTables memory.garbage tableIndex (tables.take (t + 1)) =
      .ok inputs ∧
    inputs[t]? = some input ∧
    input.Strays memory sort (tableIndex + t)
      (sortableAt sort inputs sortable t)

def StrayRead (memory : BuildMemory) (sort : BackendSort) (root : Json) :
    Prop :=
  ∃ tables, jsonObjectGet root (ascii "tables") = some tables ∧
    StrayTables memory sort 0 (jsonArrayElements tables)
      memory.garbage.sortable

/-- The rows of a table with two available backends are made from these. -/
theorem TableInput.not_strays {input : TableInput} {memory : BuildMemory}
    {sort : BackendSort} {tableIndex : ℕ} {sortable : List SortableBackend}
    (hlength : sortable.length = maxNumBackends)
    (htwo : 2 ≤ input.available.length) :
    ¬ input.Strays memory sort tableIndex sortable := by
  rintro ⟨row, ranked, hranked, hfaults⟩
  have hrow : row < tableEntries := by
    have hbound := (List.getElem?_eq_some_iff.mp hranked).1
    rwa [TableInput.rankings, rankRows_length, List.length_range] at hbound
  obtain ⟨_, order, hsame, hordered⟩ :=
    rankings_ranked sort input hlength hrow
  obtain rfl := Option.some.inj (hranked.symm.trans hsame)
  obtain ⟨p, s, rest, rfl⟩ := hordered.exists_two htwo
  obtain ⟨hfirst, hsecond⟩ := hordered.getElem?_first
  have hinside : ∀ placed ∈ input.available,
      memory.faults tableIndex row (UInt32.ofNat placed.2) = false := by
    intro placed hplaced
    have hlt := (index_lt_of_mem_available hplaced).1
    rw [BuildMemory.faults, index_toNat_of_mem_available hplaced,
      decide_eq_false (Nat.not_le.mpr hlt), Bool.false_and]
  have hp := hinside p (hordered.perm.mem_iff.mp (by simp))
  have hs := hinside s (hordered.perm.mem_iff.mp (by simp))
  simp [BuildMemory.rowFaults, List.getD_eq_getElem?_getD, hfirst, hsecond,
    slotAt, hp, hs] at hfaults

theorem sortableAt_cons (sort : BackendSort) (input : TableInput)
    (inputs : List TableInput) (start : List SortableBackend) (t : ℕ) :
    sortableAt sort (input :: inputs) start (t + 1) =
      sortableAt sort inputs (input.leftover sort start) t := by
  rw [sortableAt, List.take_succ_cons, List.foldl_cons, sortableAt]

theorem strayTables_cons_iff {memory : BuildMemory} {sort : BackendSort}
    {tableIndex : ℕ} {table : Json} {rest : List Json}
    {sortable : List SortableBackend} :
    StrayTables memory sort tableIndex (table :: rest) sortable ↔
      ∃ input, parseTable memory.garbage tableIndex table = .ok input ∧
        (input.Strays memory sort tableIndex sortable ∨
          StrayTables memory sort (tableIndex + 1) rest
            (input.leftover sort sortable)) := by
  constructor
  · rintro ⟨inputs, t, input, hparse, hinput, hstrays⟩
    rw [List.take_succ_cons] at hparse
    obtain ⟨first, others, hfirst, hothers, rfl⟩ :=
      parseTables_cons_eq_ok_iff.mp hparse
    refine ⟨first, hfirst, ?_⟩
    cases t with
    | zero =>
        cases hinput
        exact .inl hstrays
    | succ t =>
        rw [sortableAt_cons, Nat.add_comm t, ← Nat.add_assoc] at hstrays
        exact .inr ⟨others, t, input, hothers, hinput, hstrays⟩
  · rintro ⟨first, hfirst, hstrays | ⟨others, t, input, hothers, hinput,
      hstrays⟩⟩
    · refine ⟨[first], 0, first, ?_, rfl, hstrays⟩
      exact parseTables_cons_eq_ok_iff.mpr ⟨first, [], hfirst, rfl, rfl⟩
    · rw [Nat.add_assoc, Nat.add_comm 1, ← sortableAt_cons] at hstrays
      refine ⟨first :: others, t + 1, input, ?_, hinput, hstrays⟩
      exact parseTables_cons_eq_ok_iff.mpr
        ⟨first, others, hfirst, hothers, rfl⟩

/-- Only a table with fewer than two available backends makes such a read. -/
theorem StrayRead.few_available {memory : BuildMemory} {sort : BackendSort}
    {root : Json} (hstray : StrayRead memory sort root) :
    ∃ tables t input inputs,
      jsonObjectGet root (ascii "tables") = some tables ∧
      parseTables memory.garbage 0 ((jsonArrayElements tables).take (t + 1)) =
        .ok inputs ∧
      inputs[t]? = some input ∧ input.available.length < 2 := by
  obtain ⟨tables, htables, inputs, t, input, hparse, hinput, hstrays⟩ :=
    hstray
  refine ⟨tables, t, input, inputs, htables, hparse, hinput, ?_⟩
  by_contra htwo
  exact TableInput.not_strays
    (sortableAt_length sort inputs memory.garbage.sortable_length t)
    (Nat.not_lt.mp htwo) hstrays

/-! ## The writes of a run that succeeds -/

section Exits

variable {α β : Type} {run : Except BuildError α} {next : α → Emit β}

theorem exits_result_eq_ok_iff {value : α} :
    (exits run).result = .ok value ↔ run = .ok value := by
  cases run with
  | error error => simp [exits, Logged.lift, Except.mapError]
  | ok other => simp [exits, Logged.lift, Except.mapError]

theorem returns_exits_bind_iff {writes : List Bytes} {value : β} :
    (exits run >>= next).Returns writes value ↔
      ∃ middle, run = .ok middle ∧ (next middle).Returns writes value := by
  rw [exits, Logged.returns_lift_bind_iff]
  exact exists_congr fun middle => and_congr_left fun _ =>
    exits_result_eq_ok_iff

theorem stops_exits_bind_iff :
    (exits run >>= next).Stops .fault ↔
      ∃ middle, run = .ok middle ∧ (next middle).Stops .fault := by
  have hexit : ¬ (exits run).Stops .fault := by
    cases run with
    | error error => exact fun hstops => by cases hstops
    | ok value => exact fun hstops => by cases hstops
  rw [Logged.stops_bind_iff, or_iff_right hexit]
  exact exists_congr fun middle => and_congr_left fun _ =>
    exits_result_eq_ok_iff

end Exits

theorem emitBinds_returns_nil_iff {slots : ℕ} {writes : List Bytes} :
    (emitBinds slots []).Returns writes () ↔
      writes = (List.replicate slots BindEntry.zero).map BindEntry.write := by
  induction slots generalizing writes with
  | zero =>
      rw [emitBinds, Logged.returns_pure_iff]
      simp
  | succ slots ih =>
      rw [emitBinds, Logged.returns_write_bind_iff]
      simp only [ih, List.replicate_succ, List.map_cons, exists_eq_left]

theorem emitBinds_returns_iff {slots : ℕ} {elements : List Json}
    {writes : List Bytes} :
    (emitBinds slots elements).Returns writes () ↔
      ∃ parsed, parseUpTo parseBind slots elements = .ok parsed ∧
        writes = (padSlots slots .zero
          (parsed.val.map LoadedBind.entry)).map BindEntry.write := by
  induction elements generalizing slots writes with
  | nil =>
      rw [emitBinds_returns_nil_iff]
      cases slots with
      | zero => simp [parseUpTo, padSlots]
      | succ slots => simp [parseUpTo, padSlots]
  | cons bind rest ih =>
      cases slots with
      | zero =>
          rw [emitBinds, Logged.returns_pure_iff]
          simp [parseUpTo, padSlots]
      | succ slots =>
          rw [emitBinds, returns_exits_bind_iff]
          simp only [Logged.returns_write_bind_iff, ih, parseUpTo,
            bind_eq_ok_iff]
          constructor
          · rintro ⟨head, hhead, _, ⟨tail, htail, rfl⟩, rfl⟩
            refine ⟨_, ⟨head, hhead, tail, htail, rfl⟩, ?_⟩
            simp [padSlots]
          · rintro ⟨_, ⟨head, hhead, tail, htail, hparsed⟩, rfl⟩
            cases hparsed
            refine ⟨head, hhead, _, ⟨tail, htail, rfl⟩, ?_⟩
            simp [padSlots]

theorem emitBinds_bind_returns_iff {α : Type} {slots : ℕ}
    {elements : List Json} {next : Unit → Emit α} {writes : List Bytes}
    {value : α} :
    (emitBinds slots elements >>= next).Returns writes value ↔
      ∃ parsed, parseUpTo parseBind slots elements = .ok parsed ∧
        ∃ back, (next ()).Returns back value ∧
          writes = (padSlots slots .zero
            (parsed.val.map LoadedBind.entry)).map BindEntry.write ++ back := by
  rw [Logged.returns_bind_iff]
  constructor
  · rintro ⟨_, front, back, hfront, hback, rfl⟩
    obtain ⟨parsed, hparsed, rfl⟩ := emitBinds_returns_iff.mp hfront
    exact ⟨parsed, hparsed, back, hback, rfl⟩
  · rintro ⟨parsed, hparsed, back, hback, rfl⟩
    have hfront := emitBinds_returns_iff.mpr ⟨parsed, hparsed, rfl⟩
    exact ⟨(), _, back, hfront, hback, rfl⟩

theorem emitBinds_not_fault (slots : ℕ) (elements : List Json) :
    ¬ (emitBinds slots elements).Stops .fault := by
  induction slots generalizing elements with
  | zero => exact Logged.not_stops_pure () _
  | succ slots ih =>
      cases elements with
      | nil => exact ih []
      | cons bind rest =>
          rw [emitBinds, stops_exits_bind_iff]
          rintro ⟨_, _, hstops⟩
          exact ih rest hstops

theorem emitBinds_bind_stops_iff {α : Type} {slots : ℕ}
    {elements : List Json} {next : Unit → Emit α} :
    (emitBinds slots elements >>= next).Stops .fault ↔
      ∃ parsed, parseUpTo parseBind slots elements = .ok parsed ∧
        (next ()).Stops .fault := by
  rw [Logged.stops_bind_iff, or_iff_right (emitBinds_not_fault _ _)]
  constructor
  · rintro ⟨_, hresult, hstops⟩
    obtain ⟨parsed, hparsed, _⟩ := emitBinds_returns_iff.mp ⟨hresult, rfl⟩
    exact ⟨parsed, hparsed, hstops⟩
  · rintro ⟨parsed, hparsed, hstops⟩
    exact ⟨(), (emitBinds_returns_iff.mpr ⟨parsed, hparsed, rfl⟩).1, hstops⟩

section Rows

variable {memory : BuildMemory} {tableIndex row : ℕ}
  {outBackends : List BackendEntry} {rankings : List (List SortableBackend)}

theorem emitRows_returns_iff {writes : List Bytes} :
    (emitRows memory tableIndex outBackends row rankings).Returns writes () ↔
      (∀ k ranked, rankings[k]? = some ranked →
        memory.rowFaults tableIndex (row + k) outBackends ranked = false) ∧
      writes = (rankings.zipIdx row).map fun ranked =>
        (emitRow (memory.garbage.stray tableIndex ranked.2) outBackends
          ranked.1).write := by
  induction rankings generalizing row writes with
  | nil =>
      rw [emitRows, Logged.returns_pure_iff]
      simp
  | cons ranked rest ih =>
      have hall : (∀ k later, (ranked :: rest)[k]? = some later →
          memory.rowFaults tableIndex (row + k) outBackends later = false) ↔
          memory.rowFaults tableIndex row outBackends ranked = false ∧
          ∀ k later, rest[k]? = some later →
            memory.rowFaults tableIndex (row + 1 + k) outBackends later =
              false := by
        constructor
        · intro h
          refine ⟨h 0 ranked rfl, fun k later hlater => ?_⟩
          rw [Nat.add_assoc, Nat.add_comm 1]
          exact h (k + 1) later hlater
        · rintro ⟨hfirst, hrest⟩ k later hlater
          cases k with
          | zero =>
              cases hlater
              exact hfirst
          | succ k =>
              rw [Nat.add_comm k, ← Nat.add_assoc]
              exact hrest k later hlater
      rw [hall, emitRows]
      cases hfaults : memory.rowFaults tableIndex row outBackends ranked with
      | true =>
          simp only [if_true]
          refine iff_of_false (fun hreturns => ?_) (fun h => ?_)
          · cases hreturns.1
          · exact absurd h.1.1 (by simp)
      | false =>
          simp only [Bool.false_eq_true, if_false,
            Logged.returns_write_bind_iff, ih, List.zipIdx_cons,
            List.map_cons]
          constructor
          · rintro ⟨_, ⟨hrest, rfl⟩, rfl⟩
            exact ⟨⟨trivial, hrest⟩, rfl⟩
          · rintro ⟨⟨_, hrest⟩, rfl⟩
            exact ⟨_, ⟨hrest, rfl⟩, rfl⟩

theorem emitRows_stops_iff :
    (emitRows memory tableIndex outBackends row rankings).Stops .fault ↔
      ∃ k ranked, rankings[k]? = some ranked ∧
        memory.rowFaults tableIndex (row + k) outBackends ranked = true := by
  have hresult : ∀ (row : ℕ) (rankings : List (List SortableBackend)),
      (emitRows memory tableIndex outBackends row rankings).Stops .fault ∨
        (emitRows memory tableIndex outBackends row rankings).result =
          .ok () := by
    intro row rankings
    induction rankings generalizing row with
    | nil => exact .inr rfl
    | cons ranked rest ih =>
        rw [emitRows]
        split
        · exact .inl rfl
        · exact ih (row + 1)
  constructor
  · intro hstops
    by_contra hnone
    push Not at hnone
    have hreturns : (emitRows memory tableIndex outBackends row
        rankings).Returns _ () :=
      emitRows_returns_iff.mpr ⟨fun k ranked hranked =>
        Bool.eq_false_iff.mpr (hnone k ranked hranked), rfl⟩
    rw [Logged.Stops, hreturns.1] at hstops
    cases hstops
  · rintro ⟨k, ranked, hranked, hfaults⟩
    refine (hresult row rankings).resolve_right fun hok => ?_
    have hnone := (emitRows_returns_iff.mp ⟨hok, rfl⟩).1 k ranked hranked
    rw [hfaults] at hnone
    cases hnone

end Rows

theorem parseSlots_eq_ok_iff {α : Type} {parse : Json → Except BuildError α}
    {limit : ℕ} {elements : List Json} {slots : Slots limit α} :
    parseSlots parse limit elements = .ok slots ↔
      ∃ parsed, parseUpTo parse limit
          (elements.take (UInt32.ofNat elements.length).toNat) = .ok parsed ∧
        slots.count = UInt32.ofNat elements.length ∧
        slots.used = parsed.val := by
  rw [parseSlots]
  simp only [bind_eq_ok_iff]
  constructor
  · rintro ⟨parsed, hparsed, hslots⟩
    cases hslots
    exact ⟨parsed, hparsed, rfl, rfl⟩
  · rintro ⟨parsed, hparsed, hcount, hused⟩
    refine ⟨parsed, hparsed, ?_⟩
    cases slots with
    | mk count used used_length =>
        cases hcount
        cases hused
        rfl

theorem exists_parseSlots {α : Type} {parse : Json → Except BuildError α}
    {limit : ℕ} {elements : List Json}
    {parsed : { parsed : List α // parsed.length = min limit
      (elements.take (UInt32.ofNat elements.length).toNat).length }}
    (hparsed : parseUpTo parse limit
      (elements.take (UInt32.ofNat elements.length).toNat) = .ok parsed) :
    ∃ slots, parseSlots parse limit elements = .ok slots ∧
      slots.count = UInt32.ofNat elements.length ∧
      slots.used = parsed.val := by
  rw [parseSlots]
  simp only [hparsed]
  exact ⟨_, rfl, rfl, rfl⟩

theorem parseSlots_count {α : Type} {parse : Json → Except BuildError α}
    {limit : ℕ} {elements : List Json} {slots : Slots limit α}
    (hslots : parseSlots parse limit elements = .ok slots) :
    slots.count = UInt32.ofNat elements.length := by
  obtain ⟨parsed, _, hcount, _⟩ := parseSlots_eq_ok_iff.mp hslots
  exact hcount

/-- The writes of a table up to its rows. -/
def TableInput.fieldWrites (input : TableInput) : List Bytes :=
  u32le input.backends.count ::
    (input.outBackends.map BackendEntry.write).flatten ::
    u32le input.binds.count ::
    (input.outBinds.map BindEntry.write ++ [input.hashKey.val])

theorem TableInput.image_writes (input : TableInput) (garbage : StackGarbage)
    (sort : BackendSort) (tableIndex : ℕ) (sortable : List SortableBackend) :
    (input.image garbage sort tableIndex sortable).writes =
      input.fieldWrites ++
        (input.rankings sort sortable).zipIdx.map fun ranked =>
          (emitRow (garbage.stray tableIndex ranked.2) input.outBackends
            ranked.1).write := by
  simp only [TableImage.writes, TableInput.image, TableInput.fieldWrites,
    List.map_map, List.cons_append, List.nil_append, Function.comp_def,
    List.append_assoc]

theorem emitFields_returns_iff {garbage : StackGarbage} {tableIndex : ℕ}
    {table : Json} {writes : List Bytes}
    {fields : Slots maxNumBackends LoadedBackend × ByteVec 16} :
    (emitFields garbage tableIndex table).Returns writes fields ↔
      ∃ input, parseTable garbage tableIndex table = .ok input ∧
        writes = input.fieldWrites ∧
        fields = (input.backends, input.seed) := by
  simp only [emitFields, returns_exits_bind_iff,
    Logged.returns_write_bind_iff, emitBinds_bind_returns_iff,
    Logged.returns_pure_iff, parseTable, bind_eq_ok_iff,
    TableInput.fieldWrites]
  constructor
  · rintro ⟨backends, hbackends, afterCount, ⟨loaded, hloaded, afterBackends,
      ⟨binds, hbinds, afterNumBinds, ⟨parsed, hparsed, afterBinds,
        ⟨hashKey, hkey, afterKey, ⟨seed, hseed, hfields, hnone⟩,
          hafterKey⟩, hafterBinds⟩, hafterNum⟩, hafterBackends⟩, hwrites⟩
    obtain ⟨slots, hslots, hcount, hused⟩ := exists_parseSlots hparsed
    refine ⟨⟨loaded, slots, hashKey, seed⟩, ⟨backends, hbackends, loaded,
      hloaded, binds, hbinds, slots, hslots, hashKey, hkey, seed, hseed, rfl⟩,
      ?_, hfields⟩
    rw [hwrites, hafterBackends, hafterNum, hafterBinds, hafterKey, hnone,
      parseSlots_count hloaded, TableInput.outBinds, hused, hcount]
    rfl
  · rintro ⟨input, ⟨backends, hbackends, loaded, hloaded, binds, hbinds,
      slots, hslots, hashKey, hkey, seed, hseed, hinput⟩, hwrites, hfields⟩
    obtain ⟨parsed, hparsed, hcount, hused⟩ := parseSlots_eq_ok_iff.mp hslots
    obtain rfl := Except.ok.inj hinput
    refine ⟨backends, hbackends, _, ⟨loaded, hloaded, _, ⟨binds, hbinds, _,
      ⟨parsed, hparsed, _, ⟨hashKey, hkey, _, ⟨seed, hseed, hfields, rfl⟩,
        rfl⟩, rfl⟩, rfl⟩, rfl⟩, ?_⟩
    rw [hwrites, parseSlots_count hloaded, TableInput.outBinds, hused, hcount]
    rfl

theorem emitFields_not_fault (garbage : StackGarbage) (tableIndex : ℕ)
    (table : Json) : ¬ (emitFields garbage tableIndex table).Stops .fault := by
  simp only [emitFields, stops_exits_bind_iff, Logged.stops_write_bind_iff,
    emitBinds_bind_stops_iff, Logged.not_stops_pure, and_false, exists_false,
    not_false_eq_true]

section Tables

variable {memory : BuildMemory} {sort : BackendSort} {tableIndex : ℕ}
  {sortable : List SortableBackend} {writes : List Bytes}

theorem emitTableRows_eq (input : TableInput) :
    emitTableRows memory sort tableIndex sortable
        (input.backends, input.seed) =
      (emitRows memory tableIndex input.outBackends 0
        (input.rankings sort sortable) >>= fun _ =>
          pure (input.leftover sort sortable)) := rfl

theorem TableInput.strays_iff {input : TableInput} :
    input.Strays memory sort tableIndex sortable ↔
      ∃ k ranked, (input.rankings sort sortable)[k]? = some ranked ∧
        memory.rowFaults tableIndex (0 + k) input.outBackends ranked =
          true := by
  simp only [TableInput.Strays, Nat.zero_add]

theorem emitTableRows_returns_iff {input : TableInput}
    {left : List SortableBackend} :
    (emitTableRows memory sort tableIndex sortable
        (input.backends, input.seed)).Returns writes left ↔
      ¬ input.Strays memory sort tableIndex sortable ∧
        writes = ((input.rankings sort sortable).zipIdx.map fun ranked =>
          (emitRow (memory.garbage.stray tableIndex ranked.2)
            input.outBackends ranked.1).write) ∧
        left = input.leftover sort sortable := by
  rw [emitTableRows_eq, Logged.returns_bind_iff, TableInput.strays_iff]
  push Not
  simp only [Logged.returns_pure_iff, ne_eq, Bool.not_eq_true]
  constructor
  · rintro ⟨_, front, back, hfront, ⟨hleft, hback⟩, hwrites⟩
    obtain ⟨hkept, hrows⟩ := emitRows_returns_iff.mp hfront
    rw [hback, List.append_nil, hrows] at hwrites
    exact ⟨hkept, hwrites, hleft⟩
  · rintro ⟨hkept, hwrites, hleft⟩
    have hfront := emitRows_returns_iff.mpr ⟨hkept, hwrites⟩
    exact ⟨(), writes, [], hfront, ⟨hleft, rfl⟩,
      (List.append_nil _).symm⟩

theorem emitTableRows_stops_iff {input : TableInput} :
    (emitTableRows memory sort tableIndex sortable
        (input.backends, input.seed)).Stops .fault ↔
      input.Strays memory sort tableIndex sortable := by
  rw [emitTableRows_eq, Logged.stops_bind_iff, emitRows_stops_iff,
    TableInput.strays_iff]
  simp only [Logged.not_stops_pure, and_false, exists_false, or_false]

/-- What a table has written when it is done. -/
theorem emitTable_returns_iff {left : List SortableBackend} {table : Json} :
    (emitTable memory sort tableIndex sortable table).Returns writes left ↔
      ∃ input, parseTable memory.garbage tableIndex table = .ok input ∧
        ¬ input.Strays memory sort tableIndex sortable ∧
        writes =
          (input.image memory.garbage sort tableIndex sortable).writes ∧
        left = input.leftover sort sortable := by
  rw [emitTable, Logged.returns_bind_iff]
  simp only [TableInput.image_writes]
  constructor
  · rintro ⟨fields, front, back, hfields, hrows, rfl⟩
    obtain ⟨input, hparse, hfront, rfl⟩ := emitFields_returns_iff.mp hfields
    obtain ⟨hkept, hback, hleft⟩ := emitTableRows_returns_iff.mp hrows
    refine ⟨input, hparse, hkept, ?_, hleft⟩
    rw [hfront, hback]
  · rintro ⟨input, hparse, hkept, hwrites, hleft⟩
    have hfields := emitFields_returns_iff.mpr ⟨input, hparse, rfl, rfl⟩
    have hrows := emitTableRows_returns_iff.mpr ⟨hkept, rfl, hleft⟩
    exact ⟨_, _, _, hfields, hrows, hwrites⟩

theorem emitTable_stops_iff {table : Json} :
    (emitTable memory sort tableIndex sortable table).Stops .fault ↔
      ∃ input, parseTable memory.garbage tableIndex table = .ok input ∧
        input.Strays memory sort tableIndex sortable := by
  rw [emitTable, Logged.stops_bind_iff,
    or_iff_right (emitFields_not_fault _ _ _)]
  constructor
  · rintro ⟨fields, hresult, hrows⟩
    obtain ⟨input, hparse, _, rfl⟩ := emitFields_returns_iff.mp ⟨hresult, rfl⟩
    exact ⟨input, hparse, emitTableRows_stops_iff.mp hrows⟩
  · rintro ⟨input, hparse, hstrays⟩
    have hfields := emitFields_returns_iff.mpr ⟨input, hparse, rfl, rfl⟩
    exact ⟨_, hfields.1, emitTableRows_stops_iff.mpr hstrays⟩

theorem emitTables_returns_iff {tables : List Json} :
    (emitTables memory sort tableIndex tables sortable).Returns writes () ↔
      ¬ StrayTables memory sort tableIndex tables sortable ∧
      ∃ images, buildTables memory.garbage sort tableIndex tables sortable =
          .ok images ∧
        writes = (images.map TableImage.writes).flatten := by
  induction tables generalizing tableIndex sortable writes with
  | nil =>
      have hnone : ¬ StrayTables memory sort tableIndex [] sortable := by
        rintro ⟨inputs, t, input, hparse, hinput, _⟩
        cases hparse
        cases hinput
      rw [emitTables, Logged.returns_pure_iff, buildTables]
      simp [hnone]
  | cons table rest ih =>
      rw [emitTables, Logged.returns_bind_iff, buildTables,
        strayTables_cons_iff]
      simp only [emitTable_returns_iff, ih, bind_eq_ok_iff]
      constructor
      · rintro ⟨left, front, back, ⟨input, hinput, hkept, hfront, hleft⟩,
          ⟨hrest, images, himages, hback⟩, hwrites⟩
        rw [hleft] at hrest himages
        refine ⟨?_, _, ⟨input, hinput, images, himages, rfl⟩, ?_⟩
        · rintro ⟨other, hother, hstrays⟩
          obtain rfl := Except.ok.inj (hinput.symm.trans hother)
          exact hstrays.elim hkept hrest
        · rw [hwrites, hfront, hback, List.map_cons, List.flatten_cons]
      · rintro ⟨hkept, _, ⟨input, hinput, images, himages, hall⟩, hwrites⟩
        rw [← Except.ok.inj hall, List.map_cons, List.flatten_cons] at hwrites
        have hfirst : ¬ input.Strays memory sort tableIndex sortable :=
          fun hstrays => hkept ⟨input, hinput, .inl hstrays⟩
        have hrest : ¬ StrayTables memory sort (tableIndex + 1) rest
            (input.leftover sort sortable) :=
          fun hstrays => hkept ⟨input, hinput, .inr hstrays⟩
        exact ⟨_, _, _, ⟨input, hinput, hfirst, rfl, rfl⟩,
          ⟨hrest, images, himages, rfl⟩, hwrites⟩

theorem emitTables_stops_iff {tables : List Json} :
    (emitTables memory sort tableIndex tables sortable).Stops .fault ↔
      StrayTables memory sort tableIndex tables sortable := by
  induction tables generalizing tableIndex sortable with
  | nil =>
      refine iff_of_false (Logged.not_stops_pure () _) ?_
      rintro ⟨inputs, t, input, hparse, hinput, _⟩
      cases hparse
      cases hinput
  | cons table rest ih =>
      rw [emitTables, Logged.stops_bind_iff, emitTable_stops_iff,
        strayTables_cons_iff]
      simp only [ih]
      constructor
      · rintro (⟨input, hinput, hstrays⟩ | ⟨left, hresult, hstrays⟩)
        · exact ⟨input, hinput, .inl hstrays⟩
        · obtain ⟨input, hinput, _, _, hleft⟩ :=
            emitTable_returns_iff.mp ⟨hresult, rfl⟩
          rw [hleft] at hstrays
          exact ⟨input, hinput, .inr hstrays⟩
      · rintro ⟨input, hinput, hstrays⟩
        by_cases hfirst : input.Strays memory sort tableIndex sortable
        · exact .inl ⟨input, hinput, hfirst⟩
        · have hreturns := emitTable_returns_iff.mpr
            ⟨input, hinput, hfirst, rfl, rfl⟩
          exact .inr ⟨_, hreturns.1, hstrays.resolve_left hfirst⟩

end Tables

section Config

variable {memory : BuildMemory} {sort : BackendSort} {root tables : Json}
  (htables : jsonObjectGet root (ascii "tables") = some tables)
include htables

/-- The writes of a run that no read kills are those of `buildConfig`. -/
theorem emitConfig_returns_iff {writes : List Bytes} :
    (emitConfig memory sort tables).Returns writes () ↔
      ¬ StrayRead memory sort root ∧
        buildConfig memory.garbage sort root = .ok writes := by
  rw [emitConfig, Logged.returns_writeAll_bind_iff, buildConfig, StrayRead,
    htables]
  simp only [emitTables_returns_iff, bind_eq_ok_iff, orExit_eq_ok_iff,
    Option.some.injEq, exists_eq_left']
  constructor
  · rintro ⟨_, ⟨hkept, images, himages, rfl⟩, rfl⟩
    exact ⟨hkept, images, himages, rfl⟩
  · rintro ⟨hkept, images, himages, hwrites⟩
    exact ⟨_, ⟨hkept, images, himages, rfl⟩, (Except.ok.inj hwrites).symm⟩

theorem emitConfig_stops_iff :
    (emitConfig memory sort tables).Stops .fault ↔
      StrayRead memory sort root := by
  rw [emitConfig, Logged.stops_writeAll_bind_iff, emitTables_stops_iff,
    StrayRead, htables]
  simp only [Option.some.injEq, exists_eq_left']

end Config

/-! ## What reaches the file -/

/-- No byte of the writes was lost. -/
structure OutputCalls.Complete (calls : OutputCalls) (writes : List Bytes) :
    Prop where
  haccepted : ∀ n bytes, writes[n]? = some bytes →
    bytes.length ≤ calls.accepted n
  hlost : calls.lost = 0

theorem OutputCalls.stream_length_le (calls : OutputCalls) (n : ℕ)
    (writes : List Bytes) :
    (calls.stream n writes).length ≤ (fileOf writes).length := by
  induction writes generalizing n with
  | nil => exact le_rfl
  | cons bytes rest ih =>
      have hrest := ih (n + 1)
      simp only [OutputCalls.stream, fileOf, List.flatten_cons,
        List.length_append, List.length_take] at hrest ⊢
      omega

theorem OutputCalls.stream_eq {calls : OutputCalls} {n : ℕ}
    {writes : List Bytes}
    (haccepted : ∀ i bytes, writes[i]? = some bytes →
      bytes.length ≤ calls.accepted (n + i)) :
    calls.stream n writes = fileOf writes := by
  induction writes generalizing n with
  | nil => rfl
  | cons bytes rest ih =>
      have hfirst : bytes.length ≤ calls.accepted n := haccepted 0 bytes rfl
      have hrest : calls.stream (n + 1) rest = fileOf rest := by
        apply ih
        intro i later hlater
        have hnext := haccepted (i + 1) later hlater
        rwa [← Nat.add_assoc, Nat.add_right_comm] at hnext
      rw [OutputCalls.stream, List.take_of_length_le hfirst, hrest]
      rfl

theorem OutputCalls.accepted_of_stream (calls : OutputCalls) {n : ℕ}
    {writes : List Bytes}
    (hlength : (fileOf writes).length ≤ (calls.stream n writes).length)
    {i : ℕ} {bytes : Bytes} (hbytes : writes[i]? = some bytes) :
    bytes.length ≤ calls.accepted (n + i) := by
  induction writes generalizing n i with
  | nil => cases hbytes
  | cons first rest ih =>
      have hrest := calls.stream_length_le (n + 1) rest
      simp only [OutputCalls.stream, fileOf, List.flatten_cons,
        List.length_append, List.length_take] at hlength hrest
      cases i with
      | zero =>
          cases hbytes
          simp only [Nat.add_zero]
          omega
      | succ i =>
          have hlater := ih (n := n + 1) (by simp only [fileOf]; omega) hbytes
          rwa [Nat.add_right_comm, Nat.add_assoc] at hlater

theorem OutputCalls.closed_eq_iff {calls : OutputCalls} {writes : List Bytes}
    (hwrites : 0 < (fileOf writes).length) :
    calls.closed writes = fileOf writes ↔ calls.Complete writes := by
  have hle := calls.stream_length_le 0 writes
  constructor
  · intro heq
    have hlength : (calls.stream 0 writes).length - calls.lost =
        (fileOf writes).length := by
      have hclosed := congrArg List.length heq
      simp only [OutputCalls.closed, List.length_take] at hclosed
      omega
    constructor
    · intro n bytes hbytes
      have haccepted := calls.accepted_of_stream (n := 0) (by omega) hbytes
      rwa [Nat.zero_add] at haccepted
    · omega
  · rintro ⟨haccepted, hlost⟩
    have hstream : calls.stream 0 writes = fileOf writes := by
      apply OutputCalls.stream_eq
      intro i bytes hbytes
      rw [Nat.zero_add]
      exact haccepted i bytes hbytes
    simp only [OutputCalls.closed, hstream, hlost, Nat.sub_zero,
      List.take_length]

theorem fileOf_length_pos {garbage : StackGarbage} {sort : BackendSort}
    {root : Json} {writes : List Bytes}
    (hbuild : buildConfig garbage sort root = .ok writes) :
    0 < (fileOf writes).length := by
  rw [buildConfig] at hbuild
  simp only [bind_eq_ok_iff] at hbuild
  obtain ⟨tables, _, images, _, hwrites⟩ := hbuild
  rw [← Except.ok.inj hwrites, fileOf, headerWrites, List.cons_append,
    List.flatten_cons, List.length_append]
  exact Nat.add_pos_left (Nat.succ_pos 3) _

/-! ## Whole runs -/

/-- The temporary file is there before the first write. -/
def OutputCalls.opens (calls : OutputCalls) : Bool :=
  calls.mkstemp && calls.fdopen

/-- Every call before the destination is touched succeeds. -/
def OutputCalls.installs (calls : OutputCalls) : Bool :=
  calls.opens && calls.rename

section Runs

variable {memory : BuildMemory} {sort : BackendSort} {calls : OutputCalls}
  {root : Json}

theorem runBuild_strays (hstray : StrayRead memory sort root)
    (hopens : calls.opens = true) (previous : Option Bytes) :
    ∃ contents, runBuild memory sort calls root ⟨previous, none⟩ =
      (⟨previous, some contents⟩, none) := by
  obtain ⟨hmkstemp, hfdopen⟩ :
      calls.mkstemp = true ∧ calls.fdopen = true := by
    simpa only [OutputCalls.opens, Bool.and_eq_true] using hopens
  obtain ⟨tables, htables, _⟩ := id hstray
  have hstops : (emitConfig memory sort tables).result = .error .fault :=
    (emitConfig_stops_iff htables).mpr hstray
  simp only [runBuild, htables, hmkstemp, hfdopen, if_true, hstops]
  exact ⟨_, rfl⟩

theorem runBuild_installed {writes : List Bytes}
    (hkept : ¬ StrayRead memory sort root)
    (hbuild : buildConfig memory.garbage sort root = .ok writes)
    (hcalls : calls.installs = true) (previous : Option Bytes) :
    runBuild memory sort calls root ⟨previous, none⟩ =
      (⟨some (calls.closed writes), none⟩, some 0) := by
  obtain ⟨⟨hmkstemp, hfdopen⟩, hrename⟩ :
      (calls.mkstemp = true ∧ calls.fdopen = true) ∧ calls.rename = true := by
    simpa only [OutputCalls.installs, OutputCalls.opens, Bool.and_eq_true]
      using hcalls
  cases htables : jsonObjectGet root (ascii "tables") with
  | none =>
      simp [buildConfig, htables, orExit, bind, Except.bind] at hbuild
  | some tables =>
      obtain ⟨hresult, hwritten⟩ :=
        (emitConfig_returns_iff htables).mpr ⟨hkept, hbuild⟩
      simp only [runBuild, htables, hmkstemp, hfdopen, hrename, if_true,
        hresult, hwritten]
      rfl

theorem runBuild_rejected
    (hkept : calls.opens = true → ¬ StrayRead memory sort root)
    (hrejected : ∀ writes, buildConfig memory.garbage sort root = .ok writes →
      calls.installs = false) (previous : Option Bytes) :
    runBuild memory sort calls root ⟨previous, none⟩ =
      (⟨previous, none⟩, some 1) := by
  unfold runBuild
  cases htables : jsonObjectGet root (ascii "tables") with
  | none => rfl
  | some tables =>
      cases hmkstemp : calls.mkstemp with
      | false => rfl
      | true =>
          cases hfdopen : calls.fdopen with
          | false => rfl
          | true =>
              cases hresult : (emitConfig memory sort tables).result with
              | error stop =>
                  cases stop with
                  | exit error =>
                      simp only [hresult]
                      rfl
                  | fault =>
                      have hstray :=
                        (emitConfig_stops_iff htables).mp hresult
                      refine absurd hstray (hkept ?_)
                      rw [OutputCalls.opens, hmkstemp, hfdopen]
                      rfl
              | ok value =>
                  have hbuild := ((emitConfig_returns_iff htables).mp
                    ⟨hresult, rfl⟩).2
                  have hrename := hrejected _ hbuild
                  simp only [OutputCalls.installs, OutputCalls.opens,
                    hmkstemp, hfdopen, Bool.true_and] at hrename
                  simp only [hresult, hrename]
                  rfl

end Runs

/-- The destination is as before or holds the complete table, the status is 0
only if it does, and no temporary file is left. -/
structure AtomicBuild (built : Except BuildError (List Bytes))
    (previous : Option Bytes) (after : OutputFiles × Option ℕ) : Prop where
  hdestination : after.1.destination = previous ∨
    ∃ writes, built = .ok writes ∧
      after.1.destination = some (fileOf writes)
  hstatus : after.2 = some 0 → ∃ writes, built = .ok writes ∧
    after.1.destination = some (fileOf writes)
  htemporary : after.1.temporary = none

theorem build_output_iff
    (memory : BuildMemory)
    (sort : BackendSort)
    (calls : OutputCalls)
    (root : Json)
    (previous : Option Bytes) :
    AtomicBuild (buildConfig memory.garbage sort root) previous
        (runBuild memory sort calls root ⟨previous, none⟩) ↔
      (calls.opens = true → ¬ StrayRead memory sort root) ∧
      ∀ writes, buildConfig memory.garbage sort root = .ok writes →
        calls.installs = true → calls.Complete writes := by
  constructor
  · intro hatomic
    have hkept : calls.opens = true → ¬ StrayRead memory sort root := by
      intro hopens hstray
      obtain ⟨contents, hrun⟩ := runBuild_strays hstray hopens previous
      have htemporary := hatomic.htemporary
      rw [hrun] at htemporary
      cases htemporary
    refine ⟨hkept, fun writes hbuild hcalls => ?_⟩
    have hopens : calls.opens = true := by
      rw [OutputCalls.installs, Bool.and_eq_true] at hcalls
      exact hcalls.1
    have hstatus := hatomic.hstatus
    rw [runBuild_installed (hkept hopens) hbuild hcalls] at hstatus
    obtain ⟨others, hothers, hclosed⟩ := hstatus rfl
    obtain rfl := Except.ok.inj (hbuild.symm.trans hothers)
    exact (OutputCalls.closed_eq_iff (fileOf_length_pos hbuild)).mp
      (Option.some.inj hclosed)
  · rintro ⟨hkept, hcomplete⟩
    by_cases hinstalled : ∃ writes,
        buildConfig memory.garbage sort root = .ok writes ∧
          calls.installs = true
    · obtain ⟨writes, hbuild, hcalls⟩ := hinstalled
      have hopens : calls.opens = true := by
        rw [OutputCalls.installs, Bool.and_eq_true] at hcalls
        exact hcalls.1
      have hclosed := (OutputCalls.closed_eq_iff
        (fileOf_length_pos hbuild)).mpr (hcomplete writes hbuild hcalls)
      rw [runBuild_installed (hkept hopens) hbuild hcalls, hclosed]
      exact ⟨.inr ⟨writes, hbuild, rfl⟩, fun _ => ⟨writes, hbuild, rfl⟩, rfl⟩
    · rw [runBuild_rejected hkept (fun writes hbuild => by
        rw [← Bool.not_eq_true]
        exact fun hcalls => hinstalled ⟨writes, hbuild, hcalls⟩)]
      refine ⟨.inl rfl, fun hstatus => ?_, rfl⟩
      cases hstatus

/-- The disk is full after the first four bytes. -/
def fullDisk : OutputCalls where
  mkstemp := true
  fdopen := true
  accepted := fun n => if n = 0 then 4 else 0
  lost := 0
  flushed := 0
  rename := true

/-- A stack of zeros, before which nothing is mapped. -/
def zeroMemory : BuildMemory where
  garbage := zeroGarbage
  unmapped := fun _ _ _ => true

/-- The truncated file replaces the old one, and the status is 0. -/
theorem fullDisk_truncates :
    runBuild zeroMemory mergeSortByHash fullDisk (sampleRoot [])
        ⟨some [7], none⟩ = (⟨some (ascii "GLBD"), none⟩, some 0) ∧
      (fileOf (headerWrites 0)).length = 24 ∧
      buildConfig zeroGarbage mergeSortByHash (sampleRoot []) =
        .ok (headerWrites 0) :=
  ⟨rfl, rfl, rfl⟩

end GlbDirector
