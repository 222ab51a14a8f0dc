import GlbDirector.BuildOutput
import GlbDirector.BuildValues
import GlbDirector.RendezvousRows
import GlbDirector.TableFile

/-!
# From the source table to the director's table

The health checker loads the source document, sets the flags `healthy` and
writes the document that `build-config` reads.  `build-config` takes from it
what it would have taken from the source document, except for the flags, and
the rows of the two forwarding tables name the same pairs of backends.
-/

namespace GlbDirector

open ByteCodec ExceptLoops

/-! ## Documents that both programs read alike -/

def PlainObject (fold : CaseFold) (json : Json) : Prop :=
  ∀ members, json = .object members → PlainMembers fold members

structure PlainTable (fold : CaseFold) (table : Json) : Prop where
  object : PlainObject fold table
  backends : ∀ backend ∈ jsonArrayElements
    (jsonObjectGet table (ascii "backends")), PlainObject fold backend
  binds : ∀ bind ∈ jsonArrayElements (jsonObjectGet table (ascii "binds")),
    PlainObject fold bind ∧ jsonObjectGet bind (ascii "port") ≠ some .null

/-- Keys are spelled as the field names are and stand once, and no `port` is
`null`. -/
structure PlainDocument (fold : CaseFold) (root : Json) : Prop where
  object : PlainObject fold root
  tables : ∀ table ∈ jsonArrayElements
    (jsonObjectGet root (ascii "tables")), PlainTable fold table

/-! ## One backend and one bind -/

theorem marshalString_published {json : Option Json} {text : String}
    {found : CString} (hdecode : unmarshalStringField json = some text)
    (hvalue : jsonStringValue json = some found) :
    marshalString text = .string found := by
  unfold jsonStringValue at hvalue
  split at hvalue
  · obtain rfl := Option.some.inj hvalue
    obtain rfl := Option.some.inj hdecode
    rw [marshalString, ascii_goString]
  · cases hvalue

theorem marshalUint16_published {json : Json} {value : UInt16}
    (hdecode : unmarshalUint16 json = some value) :
    marshalUint16 value = json := by
  unfold unmarshalUint16 at hdecode
  split at hdecode
  · rename_i held
    split at hdecode
    · rename_i hrange
      obtain rfl := Option.some.inj hdecode
      have hsmall : (UInt16.ofNat held.toNat).toNat = held.toNat :=
        UInt16.toNat_ofNat_of_lt' (show held.toNat < 65536 by omega)
      rw [marshalUint16, hsmall, Int.toNat_of_nonneg hrange.1]
    · cases hdecode
  · cases hdecode

/-- A port stands in the written document as it did, `null` apart. -/
theorem port_published {json : Option Json} {value : Option UInt16}
    (hdecode : unmarshalPointer unmarshalUint16 json = some value) :
    value.map marshalUint16 = json ∨ value = none ∧ json = some .null := by
  unfold unmarshalPointer at hdecode
  split at hdecode
  · obtain rfl := Option.some.inj hdecode
    exact .inl rfl
  · obtain rfl := Option.some.inj hdecode
    exact .inr ⟨rfl, rfl⟩
  · obtain ⟨found, hfound, hsame⟩ := Option.map_eq_some_iff.mp hdecode
    obtain rfl := hsame
    exact .inl (congrArg some (marshalUint16_published hfound))

theorem jsonIntegerValue_port_published {json : Option Json}
    {value : Option UInt16}
    (hdecode : unmarshalPointer unmarshalUint16 json = some value) :
    jsonIntegerValue (value.map marshalUint16) = jsonIntegerValue json := by
  cases port_published hdecode with
  | inl hsame => rw [hsame]
  | inr hnull =>
      rw [hnull.1, hnull.2]
      rfl

section Records

variable {fold : CaseFold} {json : Json} (hplain : PlainObject fold json)

include hplain

theorem parseBackend_published (targetResults : TargetMap HealthResult)
    {backend : GLBBackend} {loaded : LoadedBackend}
    (hdecode : unmarshalBackend fold json = some backend)
    (hparse : parseBackend json = .ok loaded) :
    parseBackend (marshalBackend (backend.withHealth targetResults)) =
      .ok { loaded with healthy := backend.allHealthy targetResults } := by
  cases json with
  | object members =>
      have hmember := fun name (hname : name ∈ jsonNames) =>
        goMember_eq (hplain members rfl) hname
      simp only [unmarshalBackend, Option.bind_eq_bind,
        Option.bind_eq_some_iff, hmember "ip" (by decide),
        hmember "state" (by decide)] at hdecode
      obtain ⟨ip, hip, state, hstate, _, _, _, _, hbackend⟩ := hdecode
      obtain rfl := Option.some.inj hbackend
      simp only [parseBackend, bind_eq_ok_iff, orExit_eq_ok_iff] at hparse
      obtain ⟨ipText, hipText, stateText, hstateText, address, haddress,
        parsed, hparsed, hloaded⟩ := hparse
      obtain rfl := Except.ok.inj hloaded
      simp +decide only [parseBackend, marshalBackend, GLBBackend.members,
        GLBBackend.withHealth, jsonObjectGet_cons, if_true, if_false,
        marshalString_published hip hipText,
        marshalString_published hstate hstateText, bind_eq_ok_iff,
        orExit_eq_ok_iff]
      exact ⟨ipText, rfl, stateText, rfl, address, haddress, parsed, hparsed,
        rfl⟩
  | _ => cases hdecode

theorem parseBind_published {bind : GLBBind} {loaded : LoadedBind}
    (hnull : jsonObjectGet json (ascii "port") ≠ some .null)
    (hdecode : unmarshalBind fold json = some bind)
    (hparse : parseBind json = .ok loaded) :
    parseBind (marshalBind bind) = .ok loaded := by
  cases json with
  | object members =>
      have hmember := fun name (hname : name ∈ jsonNames) =>
        goMember_eq (hplain members rfl) hname
      simp only [unmarshalBind, Option.bind_eq_bind,
        Option.bind_eq_some_iff, hmember "ip" (by decide),
        hmember "proto" (by decide), hmember "port" (by decide),
        hmember "port_start" (by decide), hmember "port_end" (by decide)]
        at hdecode
      obtain ⟨ip, hip, proto, hproto, port, hport, portStart, hstart,
        portEnd, hend, hbind⟩ := hdecode
      obtain rfl := Option.some.inj hbind
      obtain ⟨ipText, protoText, host, n, hipText, hprotoText, hrest⟩ :=
        parseBind_eq_ok_iff.mp hparse
      have hport' := (port_published hport).resolve_right
        fun hmissing => hnull hmissing.2
      have hports : bindPorts (marshalBind ⟨ip, proto, port, portStart,
          portEnd⟩) = bindPorts (.object members) := by
        simp +decide only [bindPorts, marshalBind, GLBBind.members,
          jsonObjectGet_cons, jsonObjectGet_append, jsonObjectGet_omitNil,
          if_true, if_false, Option.or_none, Option.none_or,
          jsonIntegerValue_port_published hstart,
          jsonIntegerValue_port_published hend, hport']
      refine parseBind_eq_ok_iff.mpr ⟨ipText, protoText, host, n, ?_, ?_, ?_⟩
      · simp +decide only [marshalBind, GLBBind.members, jsonObjectGet_cons,
          if_true, marshalString_published hip hipText, jsonStringValue]
      · simp +decide only [marshalBind, GLBBind.members, jsonObjectGet_cons,
          if_true, if_false, marshalString_published hproto hprotoText,
          jsonStringValue]
      · rw [hports]
        exact hrest
  | _ => cases hdecode

end Records

/-! ## Arrays -/

/-- Each element was decoded to a record, and `related` holds of the record
and what was parsed before and after. -/
structure Republished {α β : Type} (related : α → β → β → Prop)
    (values : List (Option α)) (parsed parsed' : List β) : Prop where
  length : parsed'.length = parsed.length
  element : ∀ (i : ℕ) loaded, parsed[i]? = some loaded → ∃ value loaded',
    values[i]? = some (some value) ∧ parsed'[i]? = some loaded' ∧
      related value loaded loaded'

section Arrays

variable {α β : Type} {related : α → β → β → Prop}

theorem Republished.nil (values : List (Option α)) :
    Republished related values [] [] where
  length := rfl
  element i loaded hloaded := by cases hloaded

theorem Republished.cons {value : α} {loaded loaded' : β}
    {values : List (Option α)} {parsed parsed' : List β}
    (hrelated : related value loaded loaded')
    (hrest : Republished related values parsed parsed') :
    Republished related (some value :: values) (loaded :: parsed)
      (loaded' :: parsed') where
  length := congrArg (· + 1) hrest.length
  element i found hfound := by
    cases i with
    | zero =>
        obtain rfl := Option.some.inj hfound
        exact ⟨value, loaded', rfl, rfl, hrelated⟩
    | succ i => exact hrest.element i found hfound

theorem Republished.of_take {n : ℕ} {values : List (Option α)}
    {parsed parsed' : List β}
    (hpublished : Republished related (values.take n) parsed parsed') :
    Republished related values parsed parsed' where
  length := hpublished.length
  element i loaded hloaded := by
    obtain ⟨value, loaded', hvalue, hrest⟩ :=
      hpublished.element i loaded hloaded
    rw [List.getElem?_take] at hvalue
    split at hvalue
    · exact ⟨value, loaded', hvalue, hrest⟩
    · cases hvalue

variable {decode : Json → Option α}

theorem unmarshalElements_cons_eq_some {element : Json} {rest : List Json}
    {values : List (Option α)}
    (hdecode : unmarshalElements decode (element :: rest) = some values) :
    ∃ head tail, unmarshalPointer decode (some element) = some head ∧
      unmarshalElements decode rest = some tail ∧ values = head :: tail := by
  simp only [unmarshalElements, Option.bind_eq_bind,
    Option.bind_eq_some_iff] at hdecode
  obtain ⟨head, hhead, tail, htail, hvalues⟩ := hdecode
  exact ⟨head, tail, hhead, htail, (Option.some.inj hvalues).symm⟩

theorem unmarshalElements_length {elements : List Json}
    {values : List (Option α)}
    (hdecode : unmarshalElements decode elements = some values) :
    values.length = elements.length := by
  induction elements generalizing values with
  | nil =>
      obtain rfl := Option.some.inj hdecode
      rfl
  | cons element rest ih =>
      obtain ⟨head, tail, _, htail, rfl⟩ :=
        unmarshalElements_cons_eq_some hdecode
      exact congrArg (· + 1) (ih htail)

theorem unmarshalElements_take {elements : List Json}
    {values : List (Option α)}
    (hdecode : unmarshalElements decode elements = some values) (n : ℕ) :
    unmarshalElements decode (elements.take n) = some (values.take n) := by
  induction elements generalizing values n with
  | nil =>
      obtain rfl := Option.some.inj hdecode
      rw [List.take_nil, List.take_nil]
      rfl
  | cons element rest ih =>
      obtain ⟨head, tail, hhead, htail, rfl⟩ :=
        unmarshalElements_cons_eq_some hdecode
      cases n with
      | zero => rfl
      | succ n =>
          simp only [List.take_succ_cons, unmarshalElements, hhead,
            ih htail n]
          rfl

/-- An element that the parser takes is not `null`. -/
theorem unmarshalPointer_parsed {error : Type} {element : Json}
    {head : Option α} {parse : Json → Except error β} {loaded : β}
    (hnull : ∀ loaded, parse .null ≠ .ok loaded)
    (hdecode : unmarshalPointer decode (some element) = some head)
    (hparse : parse element = .ok loaded) :
    ∃ value, head = some value ∧ decode element = some value := by
  unfold unmarshalPointer at hdecode
  split at hdecode
  · rename_i hnone
    cases hnone
  · rename_i heq
    obtain rfl := Option.some.inj heq
    exact absurd hparse (hnull loaded)
  · rename_i held _ heq
    obtain rfl := Option.some.inj heq
    obtain ⟨value, hvalue, hsame⟩ := Option.map_eq_some_iff.mp hdecode
    exact ⟨value, hsame.symm, hvalue⟩

variable {parse : Json → Except BuildError β} {encode : α → Json}
  (hnull : ∀ loaded, parse .null ≠ .ok loaded)

include hnull

theorem parseUpTo_published {limit : ℕ} {elements : List Json}
    (hstep : ∀ element ∈ elements, ∀ value loaded,
      decode element = some value → parse element = .ok loaded →
        ∃ loaded', parse (encode value) = .ok loaded' ∧
          related value loaded loaded')
    {values : List (Option α)}
    (hdecode : unmarshalElements decode elements = some values)
    {parsed : { parsed : List β // parsed.length =
      min limit elements.length }}
    (hparse : parseUpTo parse limit elements = .ok parsed) :
    ∃ parsed', parseUpTo parse limit (values.map (marshalPointer encode)) =
        .ok parsed' ∧
      Republished related values parsed.val parsed'.val := by
  induction limit generalizing elements values with
  | zero =>
      obtain rfl := Except.ok.inj hparse
      exact ⟨_, rfl, .nil values⟩
  | succ limit ih =>
      cases elements with
      | nil =>
          obtain rfl := Option.some.inj hdecode
          obtain rfl := Except.ok.inj hparse
          exact ⟨_, rfl, .nil []⟩
      | cons element rest =>
          obtain ⟨head, tail, hhead, htail, rfl⟩ :=
            unmarshalElements_cons_eq_some hdecode
          simp only [parseUpTo, bind_eq_ok_iff] at hparse
          obtain ⟨loaded, hloaded, others, hothers, hparsed⟩ := hparse
          obtain rfl := Except.ok.inj hparsed
          obtain ⟨value, rfl, hvalue⟩ :=
            unmarshalPointer_parsed hnull hhead hloaded
          obtain ⟨loaded', hloaded', hrelated⟩ := hstep element
            List.mem_cons_self value loaded hvalue hloaded
          obtain ⟨others', hothers', hrest⟩ := ih
            (fun element hmem => hstep element (List.mem_cons_of_mem _ hmem))
            htail hothers
          have hlength : (loaded' :: others'.val).length = min (limit + 1)
              ((some value :: tail).map (marshalPointer encode)).length := by
            simp [others'.2]
          refine ⟨⟨loaded' :: others'.val, hlength⟩, ?_,
            .cons hrelated hrest⟩
          show parseUpTo parse (limit + 1)
            (encode value :: tail.map (marshalPointer encode)) = _
          simp only [parseUpTo, bind_eq_ok_iff]
          exact ⟨loaded', hloaded', others', hothers', rfl⟩

theorem parseSlots_published {limit : ℕ} {elements : List Json}
    (hstep : ∀ element ∈ elements, ∀ value loaded,
      decode element = some value → parse element = .ok loaded →
        ∃ loaded', parse (encode value) = .ok loaded' ∧
          related value loaded loaded')
    {values : List (Option α)}
    (hdecode : unmarshalElements decode elements = some values)
    {slots : Slots limit β}
    (hparse : parseSlots parse limit elements = .ok slots) :
    ∃ slots', parseSlots parse limit (values.map (marshalPointer encode)) =
        .ok slots' ∧
      slots'.count = slots.count ∧
        Republished related values slots.used slots'.used := by
  obtain ⟨parsed, hparsed, hcount, hused⟩ := parseSlots_eq_ok_iff.mp hparse
  have hlength : (values.map (marshalPointer encode)).length =
      elements.length := by
    rw [List.length_map, unmarshalElements_length hdecode]
  have htaken := parseUpTo_published hnull
    (fun element hmem => hstep element (List.mem_of_mem_take hmem))
    (unmarshalElements_take hdecode _) hparsed
  rw [List.map_take, ← hused, ← hlength] at htaken
  obtain ⟨parsed', hparsed', hpublished⟩ := htaken
  obtain ⟨slots', hslots', hcount', hused'⟩ := exists_parseSlots hparsed'
  refine ⟨slots', hslots', ?_, ?_⟩
  · rw [hcount', hcount, hlength]
  · rw [hused']
    exact hpublished.of_take

end Arrays

/-! ## Tables -/

def LoadedBackend.Rechecked (targetResults : TargetMap HealthResult)
    (backend : GLBBackend) (loaded loaded' : LoadedBackend) : Prop :=
  loaded' = { loaded with healthy := backend.allHealthy targetResults }

/-- The flags come from the checks; everything else stays. -/
structure TableInput.SameButHealth (targetResults : TargetMap HealthResult)
    (table : FileTable) (input input' : TableInput) : Prop where
  count : input'.backends.count = input.backends.count
  backends : Republished (LoadedBackend.Rechecked targetResults)
    table.pointers.backends input.backends.used input'.backends.used
  binds : input'.binds = input.binds
  hashKey : input'.hashKey = input.hashKey
  seed : input'.seed = input.seed

theorem Slots.eq_of_published {α β : Type} {limit : ℕ}
    {values : List (Option α)} {slots slots' : Slots limit β}
    (hcount : slots'.count = slots.count)
    (hpublished : Republished (fun _ loaded loaded' => loaded = loaded') values
      slots.used slots'.used) : slots' = slots := by
  have hused : slots'.used = slots.used := by
    apply List.ext_getElem hpublished.length
    intro i hi' hi
    obtain ⟨_, loaded', _, hloaded', hsame⟩ :=
      hpublished.element i slots.used[i] (List.getElem?_eq_getElem hi)
    rw [List.getElem?_eq_getElem hi'] at hloaded'
    exact (Option.some.inj hloaded').trans hsame.symm
  cases slots with
  | mk count used used_length =>
      cases slots' with
      | mk count' used' used_length' =>
          cases hcount
          cases hused
          rfl

section Tables

variable {fold : CaseFold} {garbage : StackGarbage}
  (targetResults : TargetMap HealthResult)

theorem parseKey_published {byteval : UInt32} {json : Option Json}
    {missing wrongLength : BuildError} {key : ByteVec 16} {text : String}
    (hdecode : unmarshalStringField json = some text)
    (hparse : parseKey byteval (jsonStringValue json) missing wrongLength =
      .ok key) :
    parseKey byteval (jsonStringValue (some (marshalString text))) missing
      wrongLength = .ok key := by
  cases hvalue : jsonStringValue json with
  | none =>
      rw [hvalue] at hparse
      cases hparse
  | some found =>
      rw [marshalString_published hdecode hvalue]
      rw [hvalue] at hparse
      exact hparse

theorem marshalPointer_map {α : Type} (encode : α → Json) (change : α → α)
    (values : List (Option α)) :
    (values.map (Option.map change)).map (marshalPointer encode) =
      values.map (marshalPointer fun value => encode (change value)) := by
  rw [List.map_map]
  apply List.map_congr_left
  intro value _
  cases value with
  | none => rfl
  | some value => rfl

theorem jsonArrayElements_published {α : Type} {decode : Json → Option α}
    {json : Json} {values : Option (List (Option α))}
    (hdecode : unmarshalSlice decode (some json) = some values) :
    unmarshalElements decode (jsonArrayElements json) =
      some (values.getD []) := by
  unfold unmarshalSlice at hdecode
  split at hdecode
  · rename_i hnone
    cases hnone
  · rename_i heq
    obtain rfl := Option.some.inj heq
    obtain rfl := Option.some.inj hdecode
    rfl
  · rename_i heq
    obtain rfl := Option.some.inj heq
    obtain ⟨found, hfound, hsame⟩ := Option.map_eq_some_iff.mp hdecode
    obtain rfl := hsame
    exact hfound
  · cases hdecode

theorem jsonArrayElements_marshalSlice {α : Type} (encode : α → Json)
    (values : Option (List (Option α))) :
    jsonArrayElements (marshalSlice encode values) =
      (values.getD []).map (marshalPointer encode) := by
  cases values with
  | none => rfl
  | some values => rfl

theorem jsonArrayElements_marshalChanged {α : Type} (encode : α → Json)
    (change : α → α) (values : Option (List (Option α))) :
    jsonArrayElements (marshalSlice encode
        (values.map (List.map (Option.map change)))) =
      (values.getD []).map
        (marshalPointer fun value => encode (change value)) := by
  rw [jsonArrayElements_marshalSlice]
  cases values with
  | none => rfl
  | some values => exact marshalPointer_map encode change values

theorem parseBackend_null (loaded : LoadedBackend) :
    parseBackend .null ≠ .ok loaded := by
  intro hparse
  cases hparse

theorem parseBind_null (loaded : LoadedBind) :
    parseBind .null ≠ .ok loaded := by
  intro hparse
  cases hparse

theorem parseTable_published {tableIndex : ℕ} {json : Json}
    (hplain : PlainTable fold json) {table : FileTable} {input : TableInput}
    (hdecode : unmarshalTable fold json = some table)
    (hparse : parseTable garbage tableIndex json = .ok input) :
    ∃ input', parseTable garbage tableIndex
        (marshalTable (table.withHealth targetResults)) = .ok input' ∧
      input.SameButHealth targetResults table input' := by
  cases json with
  | object members =>
      have hmember := fun name (hname : name ∈ jsonNames) =>
        goMember_eq (hplain.object members rfl) hname
      simp only [unmarshalTable, Option.bind_eq_bind,
        Option.bind_eq_some_iff, hmember "hash_key" (by decide),
        hmember "seed" (by decide), hmember "binds" (by decide),
        hmember "backends" (by decide)] at hdecode
      obtain ⟨_, _, hashKey, hkey, seed, hseed, binds, hbinds, backends,
        hbackends, htable⟩ := hdecode
      obtain rfl := Option.some.inj htable
      simp only [parseTable, bind_eq_ok_iff, orExit_eq_ok_iff] at hparse
      obtain ⟨backendsJson, hbackendsJson, loaded, hloaded, bindsJson,
        hbindsJson, parsedBinds, hparsedBinds, key, hparsedKey, seedKey,
        hparsedSeed, hinput⟩ := hparse
      obtain rfl := Except.ok.inj hinput
      have hplainBackends := hplain.backends
      have hplainBinds := hplain.binds
      rw [hbackendsJson] at hbackends hplainBackends
      rw [hbindsJson] at hbinds hplainBinds
      obtain ⟨loaded', hloaded', hcount, hpublished⟩ := parseSlots_published
        parseBackend_null
        (fun element hmem value loaded hvalue hloaded => ⟨_,
          parseBackend_published (hplainBackends element hmem) targetResults
            hvalue hloaded,
          show LoadedBackend.Rechecked targetResults value loaded _ from rfl⟩)
        (jsonArrayElements_published hbackends) hloaded
      obtain ⟨binds', hbinds', hcount', hpublished'⟩ := parseSlots_published
        parseBind_null
        (fun element hmem value loaded hvalue hloaded => ⟨loaded,
          parseBind_published (hplainBinds element hmem).1
            (hplainBinds element hmem).2 hvalue hloaded, rfl⟩)
        (jsonArrayElements_published hbinds) hparsedBinds
      have hsame : binds' = parsedBinds :=
        Slots.eq_of_published hcount' hpublished'
      refine ⟨⟨loaded', parsedBinds, key, seedKey⟩, ?_, hcount, hpublished,
        rfl, rfl, rfl⟩
      simp +decide only [parseTable, marshalTable, FileTable.members,
        FileTable.withHealth, jsonObjectGet_cons, if_true, if_false,
        bind_eq_ok_iff, orExit_eq_ok_iff]
      refine ⟨_, rfl, loaded', ?_, _, rfl, parsedBinds, ?_, key,
        parseKey_published hkey hparsedKey, seedKey,
        parseKey_published hseed hparsedSeed, rfl⟩
      · rw [jsonArrayElements_marshalChanged]
        exact hloaded'
      · rw [jsonArrayElements_marshalSlice, ← hsame]
        exact hbinds'
  | _ => cases hdecode

theorem parseTable_null (tableIndex : ℕ) (input : TableInput) :
    parseTable garbage tableIndex .null ≠ .ok input := by
  intro hparse
  cases hparse

theorem parseTables_published {tableIndex : ℕ} {elements : List Json}
    (hplain : ∀ element ∈ elements, PlainTable fold element)
    {tables : List (Option FileTable)} {inputs : List TableInput}
    (hdecode : unmarshalElements (unmarshalTable fold) elements = some tables)
    (hparse : parseTables garbage tableIndex elements = .ok inputs) :
    ∃ inputs', parseTables garbage tableIndex (tables.map (marshalPointer
        fun table => marshalTable (table.withHealth targetResults))) =
          .ok inputs' ∧
      Republished (fun table input input' =>
        input.SameButHealth targetResults table input') tables inputs
          inputs' := by
  induction elements generalizing tableIndex tables inputs with
  | nil =>
      obtain rfl := Option.some.inj hdecode
      obtain rfl := Except.ok.inj hparse
      exact ⟨[], rfl, .nil []⟩
  | cons element rest ih =>
      obtain ⟨head, tail, hhead, htail, rfl⟩ :=
        unmarshalElements_cons_eq_some hdecode
      obtain ⟨input, others, hinput, hothers, rfl⟩ :=
        parseTables_cons_eq_ok_iff.mp hparse
      obtain ⟨table, rfl, htable⟩ :=
        unmarshalPointer_parsed (parseTable_null tableIndex) hhead hinput
      obtain ⟨input', hinput', hsame⟩ := parseTable_published targetResults
        (hplain element List.mem_cons_self) htable hinput
      obtain ⟨others', hothers', hpublished⟩ := ih
        (fun other hmem => hplain other (List.mem_cons_of_mem _ hmem)) htail
        hothers
      exact ⟨input' :: others', parseTables_cons_eq_ok_iff.mpr
        ⟨input', others', hinput', hothers', rfl⟩, .cons hsame hpublished⟩

theorem jsonObjectGet_writeToFile (config : FileConfig) :
    jsonObjectGet (writeToFile config) (ascii "tables") =
      some (marshalSlice marshalTable config.tables) := by
  simp +decide only [writeToFile, FileConfig.members, jsonObjectGet_cons,
    if_true, if_false]

theorem buildInputs_published {root : Json}
    (hplain : PlainDocument fold root) {config : FileConfig}
    {inputs : List TableInput}
    (hload : unmarshalConfig fold root = some config)
    (hbuild : buildInputs garbage root = .ok inputs) :
    ∃ inputs', buildInputs garbage
        (writeToFile (config.withHealth targetResults)) = .ok inputs' ∧
      Republished (fun table input input' =>
        input.SameButHealth targetResults table input')
        (config.tables.getD []) inputs inputs' := by
  obtain ⟨tablesJson, htablesJson, hparse⟩ :=
    buildInputs_eq_ok_iff.mp hbuild
  cases root with
  | object members =>
      have hmember := fun name (hname : name ∈ jsonNames) =>
        goMember_eq (hplain.object members rfl) hname
      simp only [unmarshalConfig, Option.bind_eq_bind,
        Option.bind_eq_some_iff, hmember "tables" (by decide)] at hload
      obtain ⟨_, _, tables, htables, hconfig⟩ := hload
      obtain rfl := Option.some.inj hconfig
      have hplainTables := hplain.tables
      rw [htablesJson] at htables hplainTables
      obtain ⟨inputs', hinputs', hpublished⟩ := parseTables_published
        targetResults hplainTables (jsonArrayElements_published htables)
        hparse
      refine ⟨inputs', buildInputs_eq_ok_iff.mpr
        ⟨_, jsonObjectGet_writeToFile _, ?_⟩, hpublished⟩
      rw [FileConfig.withHealth, jsonArrayElements_marshalChanged]
      exact hinputs'
  | _ => cases htablesJson

end Tables

/-! ## Rows -/

/-- What the ranking of a backend rests on. -/
def BackendEntry.hashed (entry : BackendEntry) : UInt32 × ByteVec 16 :=
  (entry.inetFamily, entry.ip)

theorem backendHash_congr {entry entry' : BackendEntry}
    (hsame : entry'.hashed = entry.hashed) (seed : ByteVec 16) (ui : ℕ) :
    backendHash seed ui entry' = backendHash seed ui entry := by
  have hfamily : entry'.inetFamily = entry.inetFamily :=
    congrArg Prod.fst hsame
  have hip : entry'.ip = entry.ip := congrArg Prod.snd hsame
  rw [backendHash, backendHash, hfamily, hip]

theorem fillSortable_congr {loaded loaded' : List LoadedBackend}
    (hsame : loaded'.map LoadedBackend.state =
      loaded.map LoadedBackend.state)
    (i numAvailable : ℕ) (sortable : List SortableBackend) :
    fillSortable i loaded' numAvailable sortable =
      fillSortable i loaded numAvailable sortable := by
  induction loaded generalizing loaded' i numAvailable sortable with
  | nil =>
      rw [List.map_eq_nil_iff.mp hsame]
  | cons backend rest ih =>
      cases loaded' with
      | nil => cases hsame
      | cons backend' rest' =>
          obtain ⟨hstate, hrest⟩ := List.cons.inj hsame
          simp only [fillSortable, hstate, ih hrest]

section Rankings

variable {seed : ByteVec 16} {outBackends outBackends' : List BackendEntry}
  (hsame : outBackends'.map BackendEntry.hashed =
    outBackends.map BackendEntry.hashed)

include hsame

theorem hashed_getD (i : ℕ) :
    (outBackends'.getD i .zero).hashed = (outBackends.getD i .zero).hashed := by
  have hmap : ∀ entries : List BackendEntry,
      (entries.getD i .zero).hashed =
        (entries.map BackendEntry.hashed).getD i
          BackendEntry.zero.hashed := by
    intro entries
    rw [List.getD_eq_getElem?_getD, List.getD_eq_getElem?_getD,
      List.getElem?_map, Option.getD_map]
  rw [hmap, hmap, hsame]

theorem rankRow_congr (sort : BackendSort) (numAvailable ui : ℕ)
    (sortable : List SortableBackend) :
    rankRow sort seed outBackends' numAvailable ui sortable =
      rankRow sort seed outBackends numAvailable ui sortable := by
  unfold rankRow
  simp only [backendHash_congr (hashed_getD hsame _)]

theorem rankRows_congr (sort : BackendSort) (numAvailable : ℕ)
    (rows : List ℕ) (sortable : List SortableBackend) :
    rankRows sort seed outBackends' numAvailable rows sortable =
      rankRows sort seed outBackends numAvailable rows sortable := by
  induction rows generalizing sortable with
  | nil => rfl
  | cons ui rest ih => simp only [rankRows, rankRow_congr hsame, ih]

end Rankings

namespace TableInput.SameButHealth

variable {targetResults : TargetMap HealthResult} {table : FileTable}
  {input input' : TableInput}
  (hsame : input.SameButHealth targetResults table input')

include hsame

theorem map_used {β : Type} {project : LoadedBackend → β}
    (hproject : ∀ loaded healthy,
      project { loaded with healthy := healthy } = project loaded) :
    input'.backends.used.map project = input.backends.used.map project := by
  apply List.ext_getElem
  · rw [List.length_map, List.length_map, hsame.backends.length]
  · intro i hi' hi
    rw [List.length_map] at hi hi'
    obtain ⟨backend, loaded', _, hloaded', hflag⟩ := hsame.backends.element i
      input.backends.used[i] (List.getElem?_eq_getElem hi)
    rw [List.getElem?_eq_getElem hi'] at hloaded'
    rw [List.getElem_map, List.getElem_map, Option.some.inj hloaded',
      show loaded' = _ from hflag, hproject]

theorem rankings_eq (sort : BackendSort) (sortable : List SortableBackend) :
    input'.rankings sort sortable = input.rankings sort sortable := by
  have hfill : fillSortable 0 input'.backends.used 0 sortable =
      fillSortable 0 input.backends.used 0 sortable :=
    fillSortable_congr (hsame.map_used fun _ _ => rfl) 0 0 sortable
  have hhashed : input'.outBackends.map BackendEntry.hashed =
      input.outBackends.map BackendEntry.hashed := by
    have hused : input'.backends.used.map
        (BackendEntry.hashed ∘ LoadedBackend.entry) =
          input.backends.used.map
            (BackendEntry.hashed ∘ LoadedBackend.entry) :=
      hsame.map_used fun _ _ => rfl
    simp only [outBackends, padSlots, List.map_append, List.map_map,
      List.length_map, hused, hsame.backends.length]
  simp only [rankings, hfill, hsame.seed, rankRows_congr hhashed]

theorem leftover_eq (sort : BackendSort) :
    input'.leftover sort = input.leftover sort := by
  funext sortable
  have hfill : fillSortable 0 input'.backends.used 0 sortable =
      fillSortable 0 input.backends.used 0 sortable :=
    fillSortable_congr (hsame.map_used fun _ _ => rfl) 0 0 sortable
  rw [leftover, leftover, hsame.rankings_eq, hfill]

end TableInput.SameButHealth

/-- The two backends of a row, the other way round. -/
def FwdEntry.swapped (entry : FwdEntry) : FwdEntry where
  primary := entry.secondary
  secondary := entry.primary

/-- The flag of backend `i` is not what it was. -/
def TableInput.Flipped (input input' : TableInput) (i : ℕ) : Prop :=
  ∃ loaded loaded', input.backends.used[i]? = some loaded ∧
    input'.backends.used[i]? = some loaded' ∧
      loaded'.healthy ≠ loaded.healthy

/-- A row changes only to name its two backends the other way round, and only
when the flag of one of them did. -/
def RowKept (input input' : TableInput) (entry entry' : FwdEntry) : Prop :=
  entry' = entry ∨ entry' = entry.swapped ∧
    ∃ i, (i = entry.primary.toNat ∨ i = entry.secondary.toNat) ∧
      input.Flipped input' i

section Recheck

variable {targetResults : TargetMap HealthResult} {table : FileTable}
  {input input' : TableInput}
  (hsame : input.SameButHealth targetResults table input')

include hsame

theorem outBackends_rechecked (i : ℕ) (stray : BackendEntry) :
    (input'.outBackends.getD i stray).state =
        (input.outBackends.getD i stray).state ∧
      (input'.outBackends.getD i stray = input.outBackends.getD i stray ∨
        input.Flipped input' i) := by
  cases hloaded : input.backends.used[i]? with
  | none =>
      have hle : input.backends.used.length ≤ i :=
        List.getElem?_eq_none_iff.mp hloaded
      have hrest : input'.outBackends[i]? = input.outBackends[i]? := by
        simp only [TableInput.outBackends, padSlots, List.length_map,
          hsame.backends.length]
        rw [List.getElem?_append_right (by simpa [hsame.backends.length]),
          List.getElem?_append_right (by simpa), List.length_map,
          List.length_map, hsame.backends.length]
      rw [List.getD_eq_getElem?_getD, List.getD_eq_getElem?_getD, hrest]
      exact ⟨rfl, .inl rfl⟩
  | some loaded =>
      obtain ⟨backend, loaded', _, hloaded', hflag⟩ :=
        hsame.backends.element i loaded hloaded
      rw [List.getD_eq_getElem?_getD, List.getD_eq_getElem?_getD,
        outBackends_getElem? hloaded, outBackends_getElem? hloaded',
        Option.getD_some, Option.getD_some]
      have hentry : loaded' = { loaded with
        healthy := backend.allHealthy targetResults } := hflag
      refine ⟨by rw [hentry]; rfl, ?_⟩
      by_cases hhealthy : loaded'.healthy = loaded.healthy
      · left
        rw [hentry] at hhealthy ⊢
        have hflagSame : backend.allHealthy targetResults = loaded.healthy :=
          hhealthy
        rw [hflagSame]
      · exact .inr ⟨loaded, loaded', hloaded, hloaded', hhealthy⟩

theorem emitRow_rechecked (stray : UInt32 → BackendEntry)
    (sortable : List SortableBackend) :
    RowKept input input' (emitRow stray input.outBackends sortable).view
      (emitRow stray input'.outBackends sortable).view := by
  let first := (sortable.getD 0 .zero).index
  let second := (sortable.getD 1 .zero).index
  obtain ⟨_, hfirst⟩ :=
    outBackends_rechecked hsame first.toNat (stray first)
  obtain ⟨hsecond, _⟩ :=
    outBackends_rechecked hsame second.toNat (stray second)
  have hswap : swapPair (input'.outBackends.getD first.toNat (stray first))
        (input'.outBackends.getD second.toNat (stray second)) =
      swapPair (input.outBackends.getD first.toNat (stray first))
        (input.outBackends.getD second.toNat (stray second)) ∨
      input.Flipped input' first.toNat := by
    apply hfirst.imp_left
    intro hequal
    rw [swapPair, swapPair, hequal, hsecond]
  cases hswap with
  | inl hswap =>
      left
      simp only [emitRow]
      rw [hswap]
  | inr hflipped =>
      simp only [RowKept, emitRow]
      split
      · split
        · exact .inl rfl
        · exact .inr ⟨rfl, _, .inl rfl, hflipped⟩
      · split
        · exact .inr ⟨rfl, _, .inr rfl, hflipped⟩
        · exact .inl rfl

end Recheck

section Rows

variable {targetResults : TargetMap HealthResult}
  {tables : List (Option FileTable)} {inputs inputs' : List TableInput}
  (hpublished : Republished (fun table input input' =>
    input.SameButHealth targetResults table input') tables inputs inputs')
  (sort : BackendSort)

include hpublished

theorem sortableAt_published (start : List SortableBackend) (t : ℕ) :
    sortableAt sort inputs' start t = sortableAt sort inputs start t := by
  have hmap : inputs'.map (fun input => input.leftover sort) =
      inputs.map fun input => input.leftover sort := by
    apply List.ext_getElem
    · rw [List.length_map, List.length_map, hpublished.length]
    · intro i hi' hi
      rw [List.length_map] at hi hi'
      obtain ⟨table, input', _, hinput', hsame⟩ :=
        hpublished.element i inputs[i] (List.getElem?_eq_getElem hi)
      rw [List.getElem?_eq_getElem hi'] at hinput'
      rw [List.getElem_map, List.getElem_map, Option.some.inj hinput']
      exact hsame.leftover_eq sort
  have hfold : ∀ inputs : List TableInput,
      sortableAt sort inputs start t =
        ((inputs.map fun input => input.leftover sort).take t).foldl
          (fun sortable leftover => leftover sortable) start := by
    intro inputs
    rw [sortableAt, ← List.map_take, List.foldl_map]
  rw [hfold, hfold, hmap]

theorem builtFile_published (garbage : StackGarbage) {t r : ℕ}
    {input : TableInput} (hinput : inputs[t]? = some input)
    (hr : r < tableEntries) :
    ∃ input' entry entry', inputs'[t]? = some input' ∧
      tableEntry (builtFile garbage sort inputs) t r = some entry ∧
      tableEntry (builtFile garbage sort inputs') t r = some entry' ∧
      RowKept input input' entry entry' := by
  obtain ⟨table, input', _, hinput', hsame⟩ :=
    hpublished.element t input hinput
  obtain ⟨ranked, _, hranked, _, hrow⟩ :=
    builtFile_row garbage sort hinput hr
  obtain ⟨ranked', _, hranked', _, hrow'⟩ :=
    builtFile_row garbage sort hinput' hr
  rw [rankedRow, sortableAt_published hpublished, hsame.rankings_eq,
    ← rankedRow, hranked] at hranked'
  obtain rfl := Option.some.inj hranked'
  exact ⟨input', _, _, hinput', hrow, hrow',
    emitRow_rechecked hsame _ _⟩

end Rows

def uncheckedSlots : Slots maxNumBackends LoadedBackend where
  count := 2
  used := [⟨sampleAddress 1, .active, false⟩, ⟨sampleAddress 2, .active, false⟩]
  used_length := by decide

theorem buildInputs_checkedRoot (garbage : StackGarbage) :
    buildInputs garbage checkedRoot = .ok [sampleInput uncheckedSlots] :=
  rfl

theorem PlainMembers.object {fold : CaseFold}
    {members : List (CString × Json)} (hplain : PlainMembers fold members) :
    PlainObject fold (.object members) := by
  intro members' hmembers
  rw [← Json.object.inj hmembers]
  exact hplain

theorem plain_checkedTable : PlainTable asciiFold checkedTable where
  object := PlainMembers.object ⟨by decide +kernel, by decide +kernel⟩
  backends := by
    intro backend hmem
    rcases List.mem_cons.mp hmem with rfl | hmem
    · exact PlainMembers.object ⟨by decide +kernel, by decide +kernel⟩
    · rw [List.mem_singleton.mp hmem]
      exact PlainMembers.object ⟨by decide +kernel, by decide +kernel⟩
  binds := by
    intro bind hmem
    rw [List.mem_singleton.mp hmem]
    exact ⟨PlainMembers.object ⟨by decide +kernel, by decide +kernel⟩,
      fun hnull => by cases hnull⟩

theorem plain_checkedRoot : PlainDocument asciiFold checkedRoot where
  object := PlainMembers.object ⟨by decide +kernel, by decide +kernel⟩
  tables := by
    intro table hmem
    rw [List.mem_singleton.mp hmem]
    exact plain_checkedTable

end GlbDirector
