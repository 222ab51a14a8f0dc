import GlbDirector.CLibrary
import GlbDirector.HealthMerge

/-!
# The forwarding table as a file (`GLBTable.go`)

The health checker decodes the source document into Go structures and writes
the structures out again for `build-config`.  Here a document is the JSON value
that its text stands for.  What was decoded and written is decoded again to the
same structures.
-/

namespace GlbDirector

open ByteCodec

/-! ## Go strings -/

/-- A Go string holds bytes; each is one character here. -/
def goString (text : CString) : String :=
  String.ofList (text.map fun byte => Char.ofNat byte.toNat)

def IsGoString (text : String) : Prop :=
  ∀ c ∈ text.toList, c.toNat < 256

theorem toNat_charOfNat {n : ℕ} (hn : n < 256) : (Char.ofNat n).toNat = n := by
  have hvalid : n.isValidChar := .inl (hn.trans (by decide))
  rw [Char.ofNat, dif_pos hvalid]
  rfl

theorem ascii_goString (text : CString) : ascii (goString text) = text := by
  rw [ascii, goString, String.toList_ofList, List.map_map]
  have hbyte : ∀ byte : UInt8,
      UInt8.ofNat (Char.ofNat byte.toNat).toNat = byte := by
    intro byte
    rw [toNat_charOfNat byte.toNat_lt, UInt8.ofNat_toNat]
  calc
    text.map ((fun c => UInt8.ofNat c.toNat) ∘
        fun byte => Char.ofNat byte.toNat) = text.map id :=
      List.map_congr_left fun byte _ => hbyte byte
    _ = text := List.map_id text

theorem goString_ascii {text : String} (htext : IsGoString text) :
    goString (ascii text) = text := by
  rw [ascii, goString, List.map_map]
  have hchar : ∀ c ∈ text.toList,
      ((fun byte : UInt8 => Char.ofNat byte.toNat) ∘
        fun c : Char => UInt8.ofNat c.toNat) c = id c := by
    intro c hc
    have hsmall : (UInt8.ofNat c.toNat).toNat = c.toNat :=
      UInt8.toNat_ofNat_of_lt' (htext c hc)
    show Char.ofNat (UInt8.ofNat c.toNat).toNat = c
    rw [hsmall, Char.ofNat_toNat]
  rw [List.map_congr_left hchar, List.map_id, String.ofList_toList]

theorem isGoString_goString (text : CString) : IsGoString (goString text) := by
  intro c hc
  rw [goString, String.toList_ofList, List.mem_map] at hc
  obtain ⟨byte, _, rfl⟩ := hc
  rw [toNat_charOfNat byte.toNat_lt]
  exact byte.toNat_lt

/-! ## Members of an object -/

/-- The field names of the structures. -/
def jsonNames : List String :=
  ["http", "http_uri", "gue", "fou", "tcp", "ip", "proto", "port",
    "port_start", "port_end", "state", "healthy", "healthchecks", "name",
    "hash_key", "seed", "binds", "backends", "timeout_ms", "interval_ms",
    "trigger", "tables"]

/-- Keys are compared with field names up to letter case. -/
structure CaseFold where
  run : CString → CString
  names : ∀ name ∈ jsonNames, run (ascii name) = ascii name

section Members

variable (fold : CaseFold)

/-- The member that a field is decoded from, in an object with at most one key
for it. -/
def goMember (members : List (CString × Json)) (name : String) :
    Option Json :=
  (members.find? fun member =>
    fold.run member.1 == fold.run (ascii name)).map Prod.snd

/-- No object has two keys for one field.  Such a field would be decoded again
on top of what the earlier key has left in it. -/
inductive Unrepeated : Json → Prop where
  | null : Unrepeated .null
  | boolean (value : Bool) : Unrepeated (.boolean value)
  | integer (value : ℤ) : Unrepeated (.integer value)
  | real : Unrepeated .real
  | string (value : CString) : Unrepeated (.string value)
  | array {elements : List Json}
      (helements : ∀ element ∈ elements, Unrepeated element) :
      Unrepeated (.array elements)
  | object {members : List (CString × Json)}
      (hkeys : (members.map fun member => fold.run member.1).Nodup)
      (hvalues : ∀ member ∈ members, Unrepeated member.2) :
      Unrepeated (.object members)

/-- A document that the decoder reads one key at a time. -/
structure SourceDocument where
  json : Json
  unrepeated : Unrepeated fold json

/-- No letter case has to be folded, and no key stands twice. -/
structure PlainMembers (members : List (CString × Json)) : Prop where
  folded : ∀ member ∈ members, fold.run member.1 = member.1
  nodup : (members.map Prod.fst).Nodup

variable {fold} {members : List (CString × Json)}

theorem PlainMembers.unrepeated (hplain : PlainMembers fold members)
    (hvalues : ∀ member ∈ members, Unrepeated fold member.2) :
    Unrepeated fold (.object members) := by
  refine .object ?_ hvalues
  rw [List.map_congr_left hplain.folded]
  exact hplain.nodup

/-- Both readers take the same member of a plain object. -/
theorem goMember_eq (hplain : PlainMembers fold members) {name : String}
    (hname : name ∈ jsonNames) :
    goMember fold members name =
      jsonObjectGet (some (.object members)) (ascii name) := by
  have hsame : members.find? (fun member =>
      fold.run member.1 == fold.run (ascii name)) =
        members.find? fun member => member.1 == ascii name := by
    apply List.find?_congr
    intro member hmember
    rw [hplain.folded member hmember, fold.names name hname]
  rw [goMember, hsame]
  rfl

end Members

/-! ## Decoding -/

/-- The structures with their nil pointers and nil slices. -/
structure FileTable where
  name : String
  hashKey : String
  seed : String
  binds : Option (List (Option GLBBind))
  backends : Option (List (Option GLBBackend))

structure FileConfig where
  healthcheckGlobalCfg : Option GLBHealthGlobalConfig
  tables : Option (List (Option FileTable))

/-- The table as the loops see it: a nil slice has no elements. -/
def FileTable.pointers (table : FileTable) : PointerTable where
  name := table.name
  hashKey := table.hashKey
  seed := table.seed
  binds := table.binds.getD []
  backends := table.backends.getD []

def FileConfig.pointers (config : FileConfig) : PointerConfig where
  healthcheckGlobalCfg := config.healthcheckGlobalCfg
  tables := (config.tables.getD []).map (Option.map FileTable.pointers)

/-- The flags set as the results call for, through the pointers. -/
def FileTable.withHealth (targetResults : TargetMap HealthResult)
    (table : FileTable) : FileTable :=
  { table with
    backends := table.backends.map
      (List.map (Option.map (GLBBackend.withHealth targetResults))) }

def FileConfig.withHealth (targetResults : TargetMap HealthResult)
    (config : FileConfig) : FileConfig :=
  { config with
    tables := config.tables.map
      (List.map (Option.map (FileTable.withHealth targetResults))) }

theorem FileTable.pointers_withHealth
    (targetResults : TargetMap HealthResult) (table : FileTable) :
    (table.withHealth targetResults).pointers =
      table.pointers.withHealth targetResults := by
  cases hbackends : table.backends with
  | none =>
      simp [FileTable.pointers, FileTable.withHealth,
        PointerTable.withHealth, hbackends]
  | some backends =>
      simp [FileTable.pointers, FileTable.withHealth,
        PointerTable.withHealth, hbackends]

theorem FileConfig.pointers_withHealth
    (targetResults : TargetMap HealthResult) (config : FileConfig) :
    (config.withHealth targetResults).pointers =
      config.pointers.withHealth targetResults := by
  have htable : FileTable.pointers ∘ FileTable.withHealth targetResults =
      PointerTable.withHealth targetResults ∘ FileTable.pointers :=
    funext (FileTable.pointers_withHealth targetResults)
  cases htables : config.tables with
  | none =>
      simp [FileConfig.pointers, FileConfig.withHealth,
        PointerConfig.withHealth, htables]
  | some tables =>
      simp only [FileConfig.pointers, FileConfig.withHealth,
        PointerConfig.withHealth, htables, Option.map_some,
        Option.getD_some, List.map_map, Option.map_comp_map, htable]

/-! A member that is missing or `null` leaves the zero value. -/

def unmarshalStringField : Option Json → Option String
  | none => some ""
  | some .null => some ""
  | some (.string text) => some (goString text)
  | some _ => none

def unmarshalBoolField : Option Json → Option Bool
  | none => some false
  | some .null => some false
  | some (.boolean value) => some value
  | some _ => none

def unmarshalInt : Json → Option ℤ
  | .integer value =>
      if -2 ^ 63 ≤ value ∧ value < 2 ^ 63 then some value else none
  | _ => none

def unmarshalUint16 : Json → Option UInt16
  | .integer value =>
      if 0 ≤ value ∧ value ≤ 65535 then some (UInt16.ofNat value.toNat)
      else none
  | _ => none

def unmarshalString : Json → Option String
  | .string text => some (goString text)
  | _ => none

def unmarshalIntField : Option Json → Option ℤ
  | none => some 0
  | some .null => some 0
  | some json => unmarshalInt json

def unmarshalPointer {α : Type} (decode : Json → Option α) :
    Option Json → Option (Option α)
  | none => some none
  | some .null => some none
  | some json => (decode json).map some

def unmarshalElements {α : Type} (decode : Json → Option α) :
    List Json → Option (List (Option α))
  | [] => some []
  | element :: rest => do
      let head ← unmarshalPointer decode (some element)
      let tail ← unmarshalElements decode rest
      return head :: tail

def unmarshalSlice {α : Type} (decode : Json → Option α) :
    Option Json → Option (Option (List (Option α)))
  | none => some none
  | some .null => some none
  | some (.array elements) => (unmarshalElements decode elements).map some
  | some _ => none

section Decode

variable (fold : CaseFold)

def unmarshalHealthcheckConfig : Json → Option GLBHealthcheckConfig
  | .object members => do
      let http ← unmarshalPointer unmarshalInt (goMember fold members "http")
      let httpUri ←
        unmarshalPointer unmarshalString (goMember fold members "http_uri")
      let gue ← unmarshalPointer unmarshalInt (goMember fold members "gue")
      let fou ← unmarshalPointer unmarshalInt (goMember fold members "fou")
      let tcp ← unmarshalPointer unmarshalInt (goMember fold members "tcp")
      return { http, httpUri, gue, fou, tcp }
  | _ => none

def unmarshalBind : Json → Option GLBBind
  | .object members => do
      let ip ← unmarshalStringField (goMember fold members "ip")
      let proto ← unmarshalStringField (goMember fold members "proto")
      let port ← unmarshalPointer unmarshalUint16 (goMember fold members "port")
      let portStart ←
        unmarshalPointer unmarshalUint16 (goMember fold members "port_start")
      let portEnd ←
        unmarshalPointer unmarshalUint16 (goMember fold members "port_end")
      return { ip, proto, port, portStart, portEnd }
  | _ => none

def unmarshalBackend : Json → Option GLBBackend
  | .object members => do
      let ip ← unmarshalStringField (goMember fold members "ip")
      let state ← unmarshalStringField (goMember fold members "state")
      let healthy ← unmarshalBoolField (goMember fold members "healthy")
      let healthcheckConfig ← unmarshalPointer (unmarshalHealthcheckConfig fold)
        (goMember fold members "healthchecks")
      return { ip, state, healthy, healthcheckConfig }
  | _ => none

def unmarshalTable : Json → Option FileTable
  | .object members => do
      let name ← unmarshalStringField (goMember fold members "name")
      let hashKey ← unmarshalStringField (goMember fold members "hash_key")
      let seed ← unmarshalStringField (goMember fold members "seed")
      let binds ←
        unmarshalSlice (unmarshalBind fold) (goMember fold members "binds")
      let backends ← unmarshalSlice (unmarshalBackend fold)
        (goMember fold members "backends")
      return { name, hashKey, seed, binds, backends }
  | _ => none

def unmarshalHealthGlobalConfig : Json → Option GLBHealthGlobalConfig
  | .object members => do
      let timeoutMilliSec ←
        unmarshalIntField (goMember fold members "timeout_ms")
      let intervalMilliSec ←
        unmarshalIntField (goMember fold members "interval_ms")
      let trigger ← unmarshalIntField (goMember fold members "trigger")
      return { timeoutMilliSec, intervalMilliSec, trigger }
  | _ => none

def unmarshalConfig : Json → Option FileConfig
  | .null => some { healthcheckGlobalCfg := none, tables := none }
  | .object members => do
      let healthcheckGlobalCfg ←
        unmarshalPointer (unmarshalHealthGlobalConfig fold)
          (goMember fold members "healthchecks")
      let tables ←
        unmarshalSlice (unmarshalTable fold) (goMember fold members "tables")
      return { healthcheckGlobalCfg, tables }
  | _ => none

variable {fold}

/-- `LoadGLBTableConfig`, on the document that the file holds. -/
def loadGLBTableConfig (document : SourceDocument fold) : Option FileConfig :=
  unmarshalConfig fold document.json

end Decode

/-! ## Encoding -/

def omitNil {α : Type} (name : String) (encode : α → Json) :
    Option α → List (CString × Json)
  | none => []
  | some value => [(ascii name, encode value)]

def nonZero (value : ℤ) : Option ℤ := if value = 0 then none else some value

def marshalPointer {α : Type} (encode : α → Json) : Option α → Json
  | none => .null
  | some value => encode value

def marshalSlice {α : Type} (encode : α → Json) :
    Option (List (Option α)) → Json
  | none => .null
  | some elements => .array (elements.map (marshalPointer encode))

def marshalString (text : String) : Json := .string (ascii text)

def marshalUint16 (value : UInt16) : Json := .integer value.toNat

def GLBHealthcheckConfig.members (config : GLBHealthcheckConfig) :
    List (CString × Json) :=
  omitNil "http" .integer config.http ++
    (omitNil "http_uri" marshalString config.httpUri ++
      (omitNil "gue" .integer config.gue ++
        (omitNil "fou" .integer config.fou ++
          omitNil "tcp" .integer config.tcp)))

def marshalHealthcheckConfig (config : GLBHealthcheckConfig) : Json :=
  .object config.members

def GLBBind.members (bind : GLBBind) : List (CString × Json) :=
  (ascii "ip", marshalString bind.ip) ::
    (ascii "proto", marshalString bind.proto) ::
      (omitNil "port" marshalUint16 bind.port ++
        (omitNil "port_start" marshalUint16 bind.portStart ++
          omitNil "port_end" marshalUint16 bind.portEnd))

def marshalBind (bind : GLBBind) : Json := .object bind.members

def GLBBackend.members (backend : GLBBackend) : List (CString × Json) :=
  [(ascii "ip", marshalString backend.ip),
    (ascii "state", marshalString backend.state),
    (ascii "healthy", .boolean backend.healthy),
    (ascii "healthchecks",
      marshalPointer marshalHealthcheckConfig backend.healthcheckConfig)]

def marshalBackend (backend : GLBBackend) : Json := .object backend.members

def FileTable.members (table : FileTable) : List (CString × Json) :=
  [(ascii "name", marshalString table.name),
    (ascii "hash_key", marshalString table.hashKey),
    (ascii "seed", marshalString table.seed),
    (ascii "binds", marshalSlice marshalBind table.binds),
    (ascii "backends", marshalSlice marshalBackend table.backends)]

def marshalTable (table : FileTable) : Json := .object table.members

def GLBHealthGlobalConfig.members (config : GLBHealthGlobalConfig) :
    List (CString × Json) :=
  omitNil "timeout_ms" .integer (nonZero config.timeoutMilliSec) ++
    (omitNil "interval_ms" .integer (nonZero config.intervalMilliSec) ++
      omitNil "trigger" .integer (nonZero config.trigger))

def marshalHealthGlobalConfig (config : GLBHealthGlobalConfig) : Json :=
  .object config.members

def FileConfig.members (config : FileConfig) : List (CString × Json) :=
  [(ascii "healthchecks",
      marshalPointer marshalHealthGlobalConfig config.healthcheckGlobalCfg),
    (ascii "tables", marshalSlice marshalTable config.tables)]

/-- The document that `WriteToFile` writes. -/
def writeToFile (config : FileConfig) : Json := .object config.members

/-! ## Reading what was written -/

section Members

variable {fold : CaseFold} {α : Type} {name : String} {encode : α → Json}

theorem PlainMembers.of_keys {members : List (CString × Json)}
    (names : List String)
    (hkeys : (members.map Prod.fst).Sublist (names.map ascii))
    (hnames : ∀ name ∈ names, name ∈ jsonNames)
    (hnodup : (names.map ascii).Nodup) : PlainMembers fold members where
  folded member hmember := by
    have hkey := hkeys.subset (List.mem_map_of_mem hmember)
    obtain ⟨name, hname, hequal⟩ := List.mem_map.mp hkey
    rw [← hequal]
    exact fold.names name (hnames name hname)
  nodup := hnodup.sublist hkeys

theorem omitNil_keys (value : Option α) :
    ((omitNil name encode value).map Prod.fst).Sublist
      ([name].map ascii) := by
  cases value with
  | none => exact List.nil_sublist _
  | some value => exact List.Sublist.refl _

theorem keys_append {front rest : List (CString × Json)}
    {names names' : List String}
    (hfront : (front.map Prod.fst).Sublist (names.map ascii))
    (hrest : (rest.map Prod.fst).Sublist (names'.map ascii)) :
    ((front ++ rest).map Prod.fst).Sublist ((names ++ names').map ascii) := by
  rw [List.map_append, List.map_append]
  exact hfront.append hrest

theorem jsonObjectGet_cons (key' : CString) (json : Json)
    (rest : List (CString × Json)) (key : CString) :
    jsonObjectGet (some (.object ((key', json) :: rest))) key =
      if key' = key then some json
      else jsonObjectGet (some (.object rest)) key := by
  by_cases hkey : key' = key
  · simp [jsonObjectGet, hkey]
  · simp [jsonObjectGet, hkey]

theorem jsonObjectGet_append (front rest : List (CString × Json))
    (key : CString) :
    jsonObjectGet (some (.object (front ++ rest))) key =
      (jsonObjectGet (some (.object front)) key).or
        (jsonObjectGet (some (.object rest)) key) := by
  simp only [jsonObjectGet, List.find?_append, Option.map_or]

theorem jsonObjectGet_omitNil (value : Option α) (key : CString) :
    jsonObjectGet (some (.object (omitNil name encode value))) key =
      if ascii name = key then value.map encode else none := by
  cases value with
  | none => simp [jsonObjectGet, omitNil]
  | some value =>
      by_cases hkey : ascii name = key
      · simp [jsonObjectGet, omitNil, hkey]
      · simp [jsonObjectGet, omitNil, hkey]

end Members

section Fields

variable {α : Type} {json : Option Json}

theorem unmarshalStringField_marshal {text : String}
    (hdecode : unmarshalStringField json = some text) :
    unmarshalStringField (some (marshalString text)) = some text := by
  have htext : IsGoString text := by
    unfold unmarshalStringField at hdecode
    split at hdecode
    · cases hdecode
      exact fun c hc => by cases hc
    · cases hdecode
      exact fun c hc => by cases hc
    · cases hdecode
      exact isGoString_goString _
    · cases hdecode
  exact congrArg some (goString_ascii htext)

theorem unmarshalPointer_string_marshal {text : Option String}
    (hdecode : unmarshalPointer unmarshalString json = some text) :
    unmarshalPointer unmarshalString (text.map marshalString) = some text := by
  cases text with
  | none => rfl
  | some text =>
      have htext : IsGoString text := by
        unfold unmarshalPointer at hdecode
        split at hdecode
        · cases hdecode
        · cases hdecode
        · obtain ⟨found, hfound, hsame⟩ := Option.map_eq_some_iff.mp hdecode
          obtain rfl := Option.some.inj hsame
          unfold unmarshalString at hfound
          split at hfound
          · cases hfound
            exact isGoString_goString _
          · cases hfound
      exact congrArg (fun s => some (some s)) (goString_ascii htext)

theorem unmarshalInt_eq_some {value : ℤ} {found : Json}
    (hdecode : unmarshalInt found = some value) :
    unmarshalInt (.integer value) = some value := by
  unfold unmarshalInt at hdecode
  split at hdecode
  · rename_i held
    split at hdecode
    · rename_i hrange
      obtain rfl := Option.some.inj hdecode
      exact if_pos hrange
    · cases hdecode
  · cases hdecode

theorem unmarshalPointer_int_marshal {value : Option ℤ}
    (hdecode : unmarshalPointer unmarshalInt json = some value) :
    unmarshalPointer unmarshalInt (value.map Json.integer) = some value := by
  cases value with
  | none => rfl
  | some value =>
      unfold unmarshalPointer at hdecode
      split at hdecode
      · cases hdecode
      · cases hdecode
      · obtain ⟨found, hfound, hsame⟩ := Option.map_eq_some_iff.mp hdecode
        obtain rfl := Option.some.inj hsame
        exact congrArg (Option.map some) (unmarshalInt_eq_some hfound)

theorem unmarshalUint16_marshal (value : UInt16) :
    unmarshalUint16 (marshalUint16 value) = some value := by
  have hlt := value.toNat_lt
  have hrange : 0 ≤ (value.toNat : ℤ) ∧ (value.toNat : ℤ) ≤ 65535 := by
    omega
  rw [marshalUint16, unmarshalUint16, if_pos hrange, Int.toNat_natCast,
    UInt16.ofNat_toNat]

theorem unmarshalPointer_uint16_marshal (value : Option UInt16) :
    unmarshalPointer unmarshalUint16 (value.map marshalUint16) =
      some value := by
  cases value with
  | none => rfl
  | some value =>
      exact congrArg (Option.map some) (unmarshalUint16_marshal value)

theorem unmarshalIntField_marshal {value : ℤ}
    (hdecode : unmarshalIntField json = some value) :
    unmarshalIntField ((nonZero value).map Json.integer) = some value := by
  unfold nonZero
  by_cases hzero : value = 0
  · rw [hzero]
    rfl
  · rw [if_neg hzero]
    unfold unmarshalIntField at hdecode
    split at hdecode
    · exact absurd (Option.some.inj hdecode).symm hzero
    · exact absurd (Option.some.inj hdecode).symm hzero
    · exact unmarshalInt_eq_some hdecode

/-- Decoding undoes the encoding of records that were decoded and then
changed by `change`. -/
def Reads (decode : Json → Option α) (encode : α → Json) (change : α → α) :
    Prop :=
  ∀ found value, decode found = some value →
    encode (change value) ≠ .null ∧
      decode (encode (change value)) = some (change value)

variable {decode : Json → Option α} {encode : α → Json} {change : α → α}
  (hreads : Reads decode encode change)

include hreads

theorem Reads.pointer {value : Option α}
    (hdecode : unmarshalPointer decode json = some value) :
    unmarshalPointer decode (some (marshalPointer encode (value.map change))) =
      some (value.map change) := by
  cases value with
  | none => rfl
  | some value =>
      unfold unmarshalPointer at hdecode
      split at hdecode
      · cases hdecode
      · cases hdecode
      · obtain ⟨found, hfound, hsame⟩ := Option.map_eq_some_iff.mp hdecode
        obtain rfl := Option.some.inj hsame
        obtain ⟨hnull, hagain⟩ := hreads _ _ hfound
        show unmarshalPointer decode (some (encode (change found))) = _
        unfold unmarshalPointer
        split
        · rename_i hnone
          cases hnone
        · rename_i heq
          exact absurd (Option.some.inj heq) hnull
        · rename_i other _ heq
          obtain rfl := Option.some.inj heq
          rw [hagain]
          rfl

theorem Reads.elements {found : List Json} {values : List (Option α)}
    (hdecode : unmarshalElements decode found = some values) :
    unmarshalElements decode
        ((values.map (Option.map change)).map (marshalPointer encode)) =
      some (values.map (Option.map change)) := by
  induction found generalizing values with
  | nil =>
      cases hdecode
      rfl
  | cons element rest ih =>
      simp only [unmarshalElements, Option.bind_eq_bind,
        Option.bind_eq_some_iff] at hdecode
      obtain ⟨head, hhead, tail, htail, hvalues⟩ := hdecode
      obtain rfl := Option.some.inj hvalues
      simp only [List.map_cons, unmarshalElements, hreads.pointer hhead,
        ih htail]
      rfl

theorem Reads.slice {values : Option (List (Option α))}
    (hdecode : unmarshalSlice decode json = some values) :
    unmarshalSlice decode (some (marshalSlice encode
        (values.map (List.map (Option.map change))))) =
      some (values.map (List.map (Option.map change))) := by
  cases values with
  | none => rfl
  | some values =>
      unfold unmarshalSlice at hdecode
      split at hdecode
      · cases hdecode
      · cases hdecode
      · obtain ⟨found, hfound, hsame⟩ := Option.map_eq_some_iff.mp hdecode
        obtain rfl := Option.some.inj hsame
        exact congrArg (Option.map some) (hreads.elements hfound)
      · cases hdecode

end Fields

section Records

variable (fold : CaseFold)

theorem GLBHealthcheckConfig.members_plain (config : GLBHealthcheckConfig) :
    PlainMembers fold config.members := by
  refine .of_keys ["http", "http_uri", "gue", "fou", "tcp"] ?_ (by decide)
    (by decide)
  exact keys_append (omitNil_keys _) (keys_append (omitNil_keys _)
    (keys_append (omitNil_keys _) (keys_append (omitNil_keys _)
      (omitNil_keys _))))

theorem GLBBind.members_plain (bind : GLBBind) :
    PlainMembers fold bind.members := by
  refine .of_keys ["ip", "proto", "port", "port_start", "port_end"] ?_
    (by decide) (by decide)
  exact ((keys_append (omitNil_keys _) (keys_append (omitNil_keys _)
    (omitNil_keys _))).cons_cons _).cons_cons _

theorem GLBBackend.members_plain (backend : GLBBackend) :
    PlainMembers fold backend.members :=
  .of_keys ["ip", "state", "healthy", "healthchecks"] (List.Sublist.refl _)
    (by decide) (by decide)

theorem FileTable.members_plain (table : FileTable) :
    PlainMembers fold table.members :=
  .of_keys ["name", "hash_key", "seed", "binds", "backends"]
    (List.Sublist.refl _) (by decide) (by decide)

theorem GLBHealthGlobalConfig.members_plain
    (config : GLBHealthGlobalConfig) : PlainMembers fold config.members := by
  refine .of_keys ["timeout_ms", "interval_ms", "trigger"] ?_ (by decide)
    (by decide)
  exact keys_append (omitNil_keys _) (keys_append (omitNil_keys _)
    (omitNil_keys _))

theorem FileConfig.members_plain (config : FileConfig) :
    PlainMembers fold config.members :=
  .of_keys ["healthchecks", "tables"] (List.Sublist.refl _) (by decide)
    (by decide)

theorem reads_healthcheckConfig :
    Reads (unmarshalHealthcheckConfig fold) marshalHealthcheckConfig id := by
  intro found value hdecode
  cases found with
  | object members =>
      simp only [unmarshalHealthcheckConfig, Option.bind_eq_bind,
        Option.bind_eq_some_iff] at hdecode
      obtain ⟨http, hhttp, httpUri, huri, gue, hgue, fou, hfou, tcp, htcp,
        hvalue⟩ := hdecode
      refine ⟨fun hnull => (by cases hnull), ?_⟩
      have hmember := fun name (hname : name ∈ jsonNames) =>
        goMember_eq (value.members_plain fold) hname
      obtain rfl := Option.some.inj hvalue
      simp only [id, marshalHealthcheckConfig, unmarshalHealthcheckConfig]
      rw [hmember "http" (by decide), hmember "http_uri" (by decide),
        hmember "gue" (by decide), hmember "fou" (by decide),
        hmember "tcp" (by decide)]
      simp +decide only [GLBHealthcheckConfig.members, jsonObjectGet_append,
        jsonObjectGet_omitNil, if_true, if_false, Option.or_none,
        Option.none_or, unmarshalPointer_int_marshal hhttp,
        unmarshalPointer_string_marshal huri, unmarshalPointer_int_marshal hgue,
        unmarshalPointer_int_marshal hfou, unmarshalPointer_int_marshal htcp]
      rfl
  | _ => cases hdecode

theorem reads_bind : Reads (unmarshalBind fold) marshalBind id := by
  intro found value hdecode
  cases found with
  | object members =>
      simp only [unmarshalBind, Option.bind_eq_bind,
        Option.bind_eq_some_iff] at hdecode
      obtain ⟨ip, hip, proto, hproto, port, hport, portStart, hstart, portEnd,
        hend, hvalue⟩ := hdecode
      refine ⟨fun hnull => (by cases hnull), ?_⟩
      have hmember := fun name (hname : name ∈ jsonNames) =>
        goMember_eq (value.members_plain fold) hname
      obtain rfl := Option.some.inj hvalue
      simp only [id, marshalBind, unmarshalBind]
      rw [hmember "ip" (by decide), hmember "proto" (by decide),
        hmember "port" (by decide), hmember "port_start" (by decide),
        hmember "port_end" (by decide)]
      simp +decide only [GLBBind.members, jsonObjectGet_cons,
        jsonObjectGet_append, jsonObjectGet_omitNil, if_true, if_false,
        Option.or_none, Option.none_or, unmarshalPointer_uint16_marshal,
        unmarshalStringField_marshal hip, unmarshalStringField_marshal hproto]
      rfl
  | _ => cases hdecode

theorem reads_backend (targetResults : TargetMap HealthResult) :
    Reads (unmarshalBackend fold) marshalBackend
      (GLBBackend.withHealth targetResults) := by
  intro found value hdecode
  cases found with
  | object members =>
      simp only [unmarshalBackend, Option.bind_eq_bind,
        Option.bind_eq_some_iff] at hdecode
      obtain ⟨ip, hip, state, hstate, _, _, config, hconfig, hvalue⟩ :=
        hdecode
      refine ⟨fun hnull => (by cases hnull), ?_⟩
      have hmember := fun name (hname : name ∈ jsonNames) => goMember_eq
        ((value.withHealth targetResults).members_plain fold) hname
      obtain rfl := Option.some.inj hvalue
      have hagain := (reads_healthcheckConfig fold).pointer hconfig
      rw [Option.map_id, id] at hagain
      simp only [marshalBackend, unmarshalBackend]
      rw [hmember "ip" (by decide), hmember "state" (by decide),
        hmember "healthy" (by decide), hmember "healthchecks" (by decide)]
      simp +decide only [GLBBackend.members, GLBBackend.withHealth,
        jsonObjectGet_cons, if_true, if_false, unmarshalStringField_marshal hip,
        unmarshalStringField_marshal hstate, unmarshalBoolField, hagain]
      rfl
  | _ => cases hdecode

theorem reads_table (targetResults : TargetMap HealthResult) :
    Reads (unmarshalTable fold) marshalTable
      (FileTable.withHealth targetResults) := by
  intro found value hdecode
  cases found with
  | object members =>
      simp only [unmarshalTable, Option.bind_eq_bind,
        Option.bind_eq_some_iff] at hdecode
      obtain ⟨name, hname, hashKey, hkey, seed, hseed, binds, hbinds,
        backends, hbackends, hvalue⟩ := hdecode
      refine ⟨fun hnull => (by cases hnull), ?_⟩
      have hmember := fun name (hname : name ∈ jsonNames) => goMember_eq
        ((value.withHealth targetResults).members_plain fold) hname
      obtain rfl := Option.some.inj hvalue
      have hbindsAgain := (reads_bind fold).slice hbinds
      simp only [Option.map_id_fun, List.map_id_fun, id] at hbindsAgain
      have hbackendsAgain := (reads_backend fold targetResults).slice hbackends
      simp only [marshalTable, unmarshalTable]
      rw [hmember "name" (by decide), hmember "hash_key" (by decide),
        hmember "seed" (by decide), hmember "binds" (by decide),
        hmember "backends" (by decide)]
      simp +decide only [FileTable.members, FileTable.withHealth,
        jsonObjectGet_cons, if_true, if_false,
        unmarshalStringField_marshal hname, unmarshalStringField_marshal hkey,
        unmarshalStringField_marshal hseed, hbindsAgain, hbackendsAgain]
      rfl
  | _ => cases hdecode

theorem reads_healthGlobalConfig :
    Reads (unmarshalHealthGlobalConfig fold) marshalHealthGlobalConfig id := by
  intro found value hdecode
  cases found with
  | object members =>
      simp only [unmarshalHealthGlobalConfig, Option.bind_eq_bind,
        Option.bind_eq_some_iff] at hdecode
      obtain ⟨timeout, htimeout, interval, hinterval, trigger, htrigger,
        hvalue⟩ := hdecode
      refine ⟨fun hnull => (by cases hnull), ?_⟩
      have hmember := fun name (hname : name ∈ jsonNames) =>
        goMember_eq (value.members_plain fold) hname
      obtain rfl := Option.some.inj hvalue
      simp only [id, marshalHealthGlobalConfig, unmarshalHealthGlobalConfig]
      rw [hmember "timeout_ms" (by decide), hmember "interval_ms" (by decide),
        hmember "trigger" (by decide)]
      simp +decide only [GLBHealthGlobalConfig.members, jsonObjectGet_append,
        jsonObjectGet_omitNil, if_true, if_false, Option.or_none,
        Option.none_or, unmarshalIntField_marshal htimeout,
        unmarshalIntField_marshal hinterval, unmarshalIntField_marshal htrigger]
      rfl
  | _ => cases hdecode

theorem unmarshalConfig_eq {config : FileConfig}
    {again : FileConfig}
    (hglobal : unmarshalPointer (unmarshalHealthGlobalConfig fold)
      (some (marshalPointer marshalHealthGlobalConfig
        config.healthcheckGlobalCfg)) = some again.healthcheckGlobalCfg)
    (htables : unmarshalSlice (unmarshalTable fold)
      (some (marshalSlice marshalTable config.tables)) = some again.tables) :
    unmarshalConfig fold (writeToFile config) = some again := by
  have hmember := fun name (hname : name ∈ jsonNames) =>
    goMember_eq (config.members_plain fold) hname
  simp only [writeToFile, unmarshalConfig]
  rw [hmember "healthchecks" (by decide), hmember "tables" (by decide)]
  simp +decide only [FileConfig.members, jsonObjectGet_cons, if_true,
    if_false, hglobal, htables]
  rfl

theorem unmarshalConfig_written {root : Json} {config : FileConfig}
    (hload : unmarshalConfig fold root = some config)
    (targetResults : TargetMap HealthResult) :
    unmarshalConfig fold (writeToFile (config.withHealth targetResults)) =
      some (config.withHealth targetResults) := by
  cases root with
  | null =>
      obtain rfl := Option.some.inj hload
      exact unmarshalConfig_eq fold rfl rfl
  | object members =>
      simp only [unmarshalConfig, Option.bind_eq_bind,
        Option.bind_eq_some_iff] at hload
      obtain ⟨global, hglobal, tables, htables, hconfig⟩ := hload
      obtain rfl := Option.some.inj hconfig
      have hglobalAgain := (reads_healthGlobalConfig fold).pointer hglobal
      simp only [Option.map_id_fun, id] at hglobalAgain
      exact unmarshalConfig_eq fold hglobalAgain
        ((reads_table fold targetResults).slice htables)
  | _ => cases hload

end Records

/-! ## What is written has no repeated keys -/

section Written

variable {fold : CaseFold} {α : Type} {encode : α → Json}

theorem unrepeated_omitNil (name : String)
    (hencode : ∀ value, Unrepeated fold (encode value)) (value : Option α) :
    ∀ member ∈ omitNil name encode value, Unrepeated fold member.2 := by
  cases value with
  | none => exact List.forall_mem_nil _
  | some value => exact List.forall_mem_singleton.mpr (hencode value)

theorem unrepeated_marshalPointer
    (hencode : ∀ value, Unrepeated fold (encode value)) (value : Option α) :
    Unrepeated fold (marshalPointer encode value) := by
  cases value with
  | none => exact .null
  | some value => exact hencode value

theorem unrepeated_marshalSlice
    (hencode : ∀ value, Unrepeated fold (encode value))
    (values : Option (List (Option α))) :
    Unrepeated fold (marshalSlice encode values) := by
  cases values with
  | none => exact .null
  | some values =>
      apply Unrepeated.array
      intro element helement
      obtain ⟨value, _, rfl⟩ := List.mem_map.mp helement
      exact unrepeated_marshalPointer hencode value

variable (fold)

theorem unrepeated_healthcheckConfig (config : GLBHealthcheckConfig) :
    Unrepeated fold (marshalHealthcheckConfig config) := by
  apply (config.members_plain fold).unrepeated
  simp only [GLBHealthcheckConfig.members, List.forall_mem_append]
  exact ⟨unrepeated_omitNil _ .integer _,
    unrepeated_omitNil _ (fun _ => .string _) _,
    unrepeated_omitNil _ .integer _, unrepeated_omitNil _ .integer _,
    unrepeated_omitNil _ .integer _⟩

theorem unrepeated_bind (bind : GLBBind) :
    Unrepeated fold (marshalBind bind) := by
  apply (bind.members_plain fold).unrepeated
  simp only [GLBBind.members, List.forall_mem_cons, List.forall_mem_append]
  exact ⟨.string _, .string _, unrepeated_omitNil _ (fun _ => .integer _) _,
    unrepeated_omitNil _ (fun _ => .integer _) _,
    unrepeated_omitNil _ (fun _ => .integer _) _⟩

theorem unrepeated_backend (backend : GLBBackend) :
    Unrepeated fold (marshalBackend backend) := by
  apply (backend.members_plain fold).unrepeated
  simp only [GLBBackend.members, List.forall_mem_cons]
  exact ⟨.string _, .string _, .boolean _,
    unrepeated_marshalPointer (unrepeated_healthcheckConfig fold) _,
    List.forall_mem_nil _⟩

theorem unrepeated_table (table : FileTable) :
    Unrepeated fold (marshalTable table) := by
  apply (table.members_plain fold).unrepeated
  simp only [FileTable.members, List.forall_mem_cons]
  exact ⟨.string _, .string _, .string _,
    unrepeated_marshalSlice (unrepeated_bind fold) _,
    unrepeated_marshalSlice (unrepeated_backend fold) _,
    List.forall_mem_nil _⟩

theorem unrepeated_healthGlobalConfig (config : GLBHealthGlobalConfig) :
    Unrepeated fold (marshalHealthGlobalConfig config) := by
  apply (config.members_plain fold).unrepeated
  simp only [GLBHealthGlobalConfig.members, List.forall_mem_append]
  exact ⟨unrepeated_omitNil _ .integer _, unrepeated_omitNil _ .integer _,
    unrepeated_omitNil _ .integer _⟩

theorem unrepeated_writeToFile (config : FileConfig) :
    Unrepeated fold (writeToFile config) := by
  apply (config.members_plain fold).unrepeated
  simp only [FileConfig.members, List.forall_mem_cons]
  exact ⟨unrepeated_marshalPointer (unrepeated_healthGlobalConfig fold) _,
    unrepeated_marshalSlice (unrepeated_table fold) _,
    List.forall_mem_nil _⟩

/-- The written file, as the document it is to the next reader. -/
def FileConfig.document (config : FileConfig) : SourceDocument fold :=
  ⟨writeToFile config, unrepeated_writeToFile fold config⟩

end Written

theorem pointers_withHealth_of_update {config : FileConfig}
    {targetResults : TargetMap HealthResult} {dirty dirty' : Bool}
    {updated : PointerConfig}
    (hupdate : updateTableBackendHealth targetResults config.pointers dirty =
      some (updated, dirty')) :
    (config.withHealth targetResults).pointers = updated := by
  rw [updateTableBackendHealth_eq] at hupdate
  split at hupdate
  · rw [config.pointers_withHealth]
    exact congrArg Prod.fst (Option.some.inj hupdate)
  · cases hupdate

/-- What the health checker writes after setting the flags is what it loads
again. -/
theorem written_table_loads_back
    {fold : CaseFold}
    {source : SourceDocument fold}
    {config : FileConfig}
    (hload : loadGLBTableConfig source = some config)
    {targetResults : TargetMap HealthResult}
    {dirty dirty' : Bool}
    {updated : PointerConfig}
    (hupdate : updateTableBackendHealth targetResults config.pointers dirty =
      some (updated, dirty')) :
    (config.withHealth targetResults).pointers = updated ∧
      loadGLBTableConfig ((config.withHealth targetResults).document fold) =
        some (config.withHealth targetResults) := by
  exact ⟨pointers_withHealth_of_update hupdate,
    unmarshalConfig_written fold hload targetResults⟩

/-! ## A small document -/

def lowerByte (byte : UInt8) : UInt8 :=
  if 65 ≤ byte ∧ byte ≤ 90 then byte + 32 else byte

def asciiFold : CaseFold where
  run := List.map lowerByte
  names := by decide +kernel

def checkedBackend (ip : String) : Json :=
  .object [(ascii "ip", .string (ascii ip)),
    (ascii "state", .string (ascii "active")),
    (ascii "healthchecks", .object [(ascii "http", .integer 80)])]

def checkedTable : Json :=
  .object [(ascii "hash_key",
      .string (ascii "12345678901234561234567890123456")),
    (ascii "seed", .string (ascii "34567890123456783456789012345678")),
    (ascii "binds", .array [.object [(ascii "ip", .string (ascii "1.1.1.1")),
      (ascii "proto", .string (ascii "tcp")),
      (ascii "port", .integer 80)]]),
    (ascii "backends", .array [checkedBackend "10.0.0.1",
      checkedBackend "10.0.0.2"])]

def checkedRoot : Json := .object [(ascii "tables", .array [checkedTable])]

theorem unrepeated_checkedBackend (ip : String) :
    Unrepeated asciiFold (checkedBackend ip) := by
  have hkeys : ([ascii "ip", ascii "state", ascii "healthchecks"].map
      asciiFold.run).Nodup := by decide +kernel
  refine .object hkeys ?_
  simp only [List.forall_mem_cons]
  exact ⟨.string _, .string _,
    .object (by decide +kernel) (List.forall_mem_singleton.mpr (.integer _)),
    List.forall_mem_nil _⟩

theorem unrepeated_checkedTable : Unrepeated asciiFold checkedTable := by
  refine .object (by decide +kernel) ?_
  simp only [List.forall_mem_cons]
  refine ⟨.string _, .string _, .array ?_, .array ?_, List.forall_mem_nil _⟩
  · refine List.forall_mem_singleton.mpr (.object (by decide +kernel) ?_)
    simp only [List.forall_mem_cons]
    exact ⟨.string _, .string _, .integer _, List.forall_mem_nil _⟩
  · simp only [List.forall_mem_cons]
    exact ⟨unrepeated_checkedBackend _, unrepeated_checkedBackend _,
      List.forall_mem_nil _⟩

def checkedDocument : SourceDocument asciiFold where
  json := checkedRoot
  unrepeated := .object (by decide +kernel)
    (List.forall_mem_singleton.mpr
      (.array (List.forall_mem_singleton.mpr unrepeated_checkedTable)))

def httpBackend (ip : String) : GLBBackend where
  ip := ip
  state := "active"
  healthy := false
  healthcheckConfig := some
    { http := some 80, httpUri := none, gue := none, fou := none,
      tcp := none }

def checkedConfig : FileConfig where
  healthcheckGlobalCfg := none
  tables := some [some
    { name := ""
      hashKey := "12345678901234561234567890123456"
      seed := "34567890123456783456789012345678"
      binds := some [some
        { ip := "1.1.1.1", proto := "tcp", port := some 80,
          portStart := none, portEnd := none }]
      backends := some [some (httpBackend "10.0.0.1"),
        some (httpBackend "10.0.0.2")] }]

theorem loadGLBTableConfig_checkedDocument :
    loadGLBTableConfig checkedDocument = some checkedConfig := by
  rfl

/-- The check of the first backend passes. -/
def firstPasses : TargetMap HealthResult :=
  Finmap.singleton ⟨"http", "10.0.0.1", 80, "/"⟩ ⟨true, ""⟩

theorem update_checkedConfig :
    updateTableBackendHealth firstPasses checkedConfig.pointers false =
      some ((checkedConfig.withHealth firstPasses).pointers, true) := by
  rw [updateTableBackendHealth_eq, if_pos (by decide +kernel),
    checkedConfig.pointers_withHealth]
  exact congrArg (fun dirty => some (_, dirty)) (by decide +kernel)

theorem written_table_loads_back_checkedRoot :
    (httpBackend "10.0.0.1").withHealth firstPasses ≠
        httpBackend "10.0.0.1" ∧
      loadGLBTableConfig
        ((checkedConfig.withHealth firstPasses).document asciiFold) =
          some (checkedConfig.withHealth firstPasses) :=
  ⟨by decide +kernel, (written_table_loads_back
    loadGLBTableConfig_checkedDocument update_checkedConfig).2⟩

end GlbDirector
