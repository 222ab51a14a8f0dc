import GlbDirector.BuildConfigRun

/-!
# Well-formed documents

What a JSON document says about its tables, stated without the builder: an
address text, a state name, a prefix length in decimal, a key in hexadecimal.
The builder accepts every such document and loads exactly what it says.
-/

namespace GlbDirector

open ByteCodec

/-! ## Addresses -/

/-- The text denotes the address in the notation of its family. -/
def AddressText (text : CString) : Address → Prop
  | .v4 octets => inetPton4 text = some octets
  | .v6 octets => inetPton6 text = some octets

instance (text : CString) : (address : Address) →
    Decidable (AddressText text address)
  | .v4 octets => inferInstanceAs (Decidable (inetPton4 text = some octets))
  | .v6 octets => inferInstanceAs (Decidable (inetPton6 text = some octets))

theorem decimalDigitValue_range {c : UInt8} {digit : ℕ}
    (hdigit : decimalDigitValue c = some digit) : 48 ≤ c ∧ c ≤ 57 := by
  unfold decimalDigitValue at hdigit
  split at hdigit
  · assumption
  · cases hdigit

theorem inetPton4Loop_chars {src : CString} {octets : Bytes}
    {current : Option ℕ} {result : Bytes}
    (hloop : inetPton4Loop src octets current = some result) :
    ∀ c ∈ src, c = 46 ∨ (48 ≤ c ∧ c ≤ 57) := by
  induction src generalizing octets current with
  | nil => simp
  | cons ch src ih =>
      rw [List.forall_mem_cons]
      cases hdigit : decimalDigitValue ch with
      | some digit =>
          have hrange := decimalDigitValue_range hdigit
          cases current with
          | none =>
              simp only [inetPton4Loop, hdigit] at hloop
              split at hloop
              · cases hloop
              · exact ⟨Or.inr hrange, ih hloop⟩
          | some value =>
              simp only [inetPton4Loop, hdigit] at hloop
              split at hloop
              · cases hloop
              · split at hloop
                · cases hloop
                · exact ⟨Or.inr hrange, ih hloop⟩
      | none =>
          cases current with
          | none => simp [inetPton4Loop, hdigit] at hloop
          | some value =>
              simp only [inetPton4Loop, hdigit] at hloop
              split at hloop
              · rename_i hdot
                split at hloop
                · cases hloop
                · exact ⟨Or.inl hdot, ih hloop⟩
              · cases hloop

/-- A dotted quad has neither a colon nor a slash. -/
theorem inetPton4_not_mem {text : CString} {octets : ByteVec 4}
    (hparse : inetPton4 text = some octets) : 58 ∉ text ∧ 47 ∉ text := by
  unfold inetPton4 at hparse
  cases hloop : inetPton4Loop text [] none with
  | none => simp [hloop] at hparse
  | some result =>
      have hchars := inetPton4Loop_chars hloop
      constructor
      · intro hmem
        exact absurd (hchars 58 hmem) (by decide)
      · intro hmem
        exact absurd (hchars 47 hmem) (by decide)

theorem inetPton6Loop_no_colon {src curtok : CString} {xdigitsSeen val : ℕ}
    {tp : Bytes} {colonp : Option ℕ} (hsrc : 58 ∉ src)
    (hloop : inetPton6Loop src [] none curtok xdigitsSeen val =
      some (tp, colonp)) :
    colonp = none ∧ tp.length ≤ 4 := by
  induction src generalizing xdigitsSeen val with
  | nil =>
      unfold inetPton6Loop at hloop
      split at hloop
      · simp only [List.length_nil] at hloop
        simp at hloop
        obtain ⟨rfl, rfl⟩ := hloop
        exact ⟨rfl, by simp⟩
      · simp at hloop
        obtain ⟨rfl, rfl⟩ := hloop
        exact ⟨rfl, by simp⟩
  | cons ch src ih =>
      rw [List.mem_cons, not_or] at hsrc
      cases hdigit : hexDigitValue ch with
      | some digit =>
          simp only [inetPton6Loop, hdigit] at hloop
          split at hloop
          · cases hloop
          · exact ih hsrc.2 hloop
      | none =>
          simp only [inetPton6Loop, hdigit, if_neg (Ne.symm hsrc.1)] at hloop
          split at hloop
          · cases hquad : inetPton4 curtok with
            | none => simp [hquad] at hloop
            | some quad =>
                simp [hquad] at hloop
                obtain ⟨rfl, rfl⟩ := hloop
                exact ⟨rfl, by simp [quad.2]⟩
          · cases hloop

theorem inetPton6_colon {text : CString} {octets : ByteVec 16}
    (hparse : inetPton6 text = some octets) : 58 ∈ text := by
  by_contra hnone
  cases text with
  | nil => simp [inetPton6] at hparse
  | cons first rest =>
      have hfirst : first ≠ 58 := by
        rintro rfl
        exact hnone (by simp)
      cases hloop : inetPton6Loop (first :: rest) [] none (first :: rest) 0 0
        with
      | none => simp [inetPton6, hfirst, hloop] at hparse
      | some result =>
          obtain ⟨hcolon, hlength⟩ := inetPton6Loop_no_colon hnone
            (show _ = some (result.1, result.2) from hloop)
          have hshort : result.1.length ≠ 16 := by omega
          simp [inetPton6, hfirst, hloop, hcolon, expandColons,
            hshort] at hparse

theorem hexDigitValue_ne_slash {c : UInt8} {digit : ℕ}
    (hdigit : hexDigitValue c = some digit) : (47 : UInt8) ≠ c := by
  have hslash : hexDigitValue 47 = none := by decide
  rintro rfl
  rw [hslash] at hdigit
  cases hdigit

theorem inetPton6Loop_no_slash {src tp curtok : CString} {colonp : Option ℕ}
    {xdigitsSeen val : ℕ} {result : Bytes × Option ℕ}
    (hsuffix : src <:+ curtok)
    (hloop : inetPton6Loop src tp colonp curtok xdigitsSeen val =
      some result) :
    47 ∉ src := by
  induction src generalizing tp colonp curtok xdigitsSeen val with
  | nil => simp
  | cons ch src ih =>
      rw [List.mem_cons, not_or]
      cases hdigit : hexDigitValue ch with
      | some digit =>
          have hnext : src <:+ curtok :=
            (List.suffix_cons ch src).trans hsuffix
          simp only [inetPton6Loop, hdigit] at hloop
          split at hloop
          · cases hloop
          · exact ⟨hexDigitValue_ne_slash hdigit, ih hnext hloop⟩
      | none =>
          simp only [inetPton6Loop, hdigit] at hloop
          by_cases hcolon : ch = 58
          · refine ⟨by rw [hcolon]; decide, ?_⟩
            rw [if_pos hcolon] at hloop
            split at hloop
            · split at hloop
              · cases hloop
              · exact ih (List.suffix_refl src) hloop
            · split at hloop
              · cases hloop
              · split at hloop
                · cases hloop
                · exact ih (List.suffix_refl src) hloop
          · rw [if_neg hcolon] at hloop
            split at hloop
            · cases hquad : inetPton4 curtok with
              | none => simp [hquad] at hloop
              | some quad =>
                  have hnone := (inetPton4_not_mem hquad).2
                  rw [← not_or, ← List.mem_cons]
                  exact fun hmem => hnone (hsuffix.subset hmem)
            · cases hloop

theorem inetPton6_no_slash {text : CString} {octets : ByteVec 16}
    (hparse : inetPton6 text = some octets) : 47 ∉ text := by
  cases text with
  | nil => simp
  | cons first rest =>
      by_cases hfirst : first = 58
      · by_cases hsecond : rest.head? = some 58
        · cases hloop : inetPton6Loop rest [] none rest 0 0 with
          | none => simp [inetPton6, hfirst, hsecond, hloop] at hparse
          | some result =>
              rw [List.mem_cons, not_or, hfirst]
              exact ⟨by decide,
                inetPton6Loop_no_slash (List.suffix_refl rest) hloop⟩
        · simp [inetPton6, hfirst, hsecond] at hparse
      · cases hloop : inetPton6Loop (first :: rest) [] none (first :: rest) 0
          0 with
        | none => simp [inetPton6, hfirst, hloop] at hparse
        | some result =>
            exact inetPton6Loop_no_slash (List.suffix_refl _) hloop

theorem AddressText.no_slash {text : CString} {address : Address}
    (htext : AddressText text address) : 47 ∉ text := by
  cases address with
  | v4 octets => exact (inetPton4_not_mem htext).2
  | v6 octets => exact inetPton6_no_slash htext

theorem AddressText.all_ne_slash {text : CString} {address : Address}
    (htext : AddressText text address) :
    ∀ c ∈ text, (decide (c ≠ 47)) = true := by
  intro c hmem
  have hne : c ≠ 47 := fun heq => htext.no_slash (heq ▸ hmem)
  simpa using hne

def Address.isV6 : Address → Bool
  | .v4 _ => false
  | .v6 _ => true

def Address.bits (address : Address) : ℕ := if address.isV6 then 128 else 32

theorem AddressText.contains_colon {text : CString} {address : Address}
    (htext : AddressText text address) :
    text.contains 58 = address.isV6 := by
  cases address with
  | v4 octets => simpa [Address.isV6] using (inetPton4_not_mem htext).1
  | v6 octets => simpa [Address.isV6] using inetPton6_colon htext

theorem parseAddress_of_text {text : CString} {address : Address}
    (htext : AddressText text address) :
    parseAddress address.isV6 text = some address := by
  cases address with
  | v4 octets => simp [parseAddress, Address.isV6, show inetPton4 text = _
      from htext]
  | v6 octets => simp [parseAddress, Address.isV6, show inetPton6 text = _
      from htext]

/-! ## Prefix lengths -/

/-- A non-empty string of decimal digits with this value. -/
structure DecimalText (digits : CString) (value : ℕ) : Prop where
  nonempty : digits ≠ []
  isDigit : ∀ c ∈ digits, 48 ≤ c ∧ c ≤ 57
  value_eq : value =
    digits.foldl (fun acc c => 10 * acc + (c.toNat - 48)) 0

/-- An address, or a subnet in CIDR notation. -/
def SubnetText (text : CString) (address : Address) (bits : ℕ) : Prop :=
  (AddressText text address ∧ bits = address.bits) ∨
    ∃ host digits, text = host ++ 47 :: digits ∧ AddressText host address ∧
      DecimalText digits bits ∧ bits ≤ address.bits

theorem decimalPrefix_of_digits {digits : CString} (value : ℕ)
    (hdigits : ∀ c ∈ digits, 48 ≤ c ∧ c ≤ 57) :
    decimalPrefix value digits =
      digits.foldl (fun acc c => 10 * acc + (c.toNat - 48)) value := by
  induction digits generalizing value with
  | nil => rfl
  | cons c rest ih =>
      rw [List.forall_mem_cons] at hdigits
      have hdigit : decimalDigitValue c = some (c.toNat - 48) :=
        if_pos hdigits.1
      simp only [decimalPrefix, hdigit, List.foldl_cons]
      exact ih _ hdigits.2

theorem atoi_of_decimalText {digits : CString} {value : ℕ}
    (htext : DecimalText digits value) (hsmall : value < 2 ^ 31) :
    atoi digits = value := by
  obtain ⟨hne, hdigits, hvalue⟩ := htext
  cases digits with
  | nil => exact absurd rfl hne
  | cons c rest =>
      have hrange := hdigits c (by simp)
      have hspace : isSpace c = false := by
        simp only [UInt8.le_iff_toNat_le] at hrange
        simp only [isSpace, UInt8.le_iff_toNat_le, ← UInt8.toNat_inj]
        simp at hrange ⊢
        omega
      have hsigns : c ≠ 45 ∧ c ≠ 43 := by
        constructor <;> rintro rfl <;> exact absurd hrange (by decide)
      have hdrop : (c :: rest).dropWhile isSpace = c :: rest := by
        simp [hspace]
      have hclamp : clampLong (value : ℤ) = value := by
        unfold clampLong
        omega
      have hint : toInt (value : ℤ) = value := by
        unfold toInt
        rw [Int.bmod_eq_of_le] <;> omega
      simp only [atoi, hdrop, if_neg hsigns.1, if_neg hsigns.2,
        decimalPrefix_of_digits 0 hdigits, ← hvalue, hclamp, hint]

theorem parsePrefixLength_of_text {text : CString} {address : Address}
    {bits : ℕ} (htext : SubnetText text address bits) :
    text.contains 58 = address.isV6 ∧
      ∃ host, parsePrefixLength text address.bits = .ok (host, bits) ∧
        AddressText host address := by
  rcases htext with ⟨haddress, rfl⟩ | ⟨host, digits, rfl, haddress, hdigits,
    hbits⟩
  · refine ⟨haddress.contains_colon, text, ?_, haddress⟩
    have hdrop : (text ++ []).dropWhile (· ≠ 47) = [] :=
      List.dropWhile_append_of_pos haddress.all_ne_slash
    rw [List.append_nil] at hdrop
    simp only [parsePrefixLength, hdrop]
  · have hcolon : (47 :: digits).contains 58 = false := by
      have hnone : 58 ∉ 47 :: digits := by
        rw [List.mem_cons, not_or]
        refine ⟨by decide, fun hmem => ?_⟩
        exact absurd (hdigits.isDigit 58 hmem) (by decide)
      simpa using hnone
    have hmax : address.bits ≤ 128 := by
      unfold Address.bits
      split <;> omega
    have hatoi := atoi_of_decimalText hdigits (by omega)
    have hrequested : (atoi digits % 2 ^ 32).toNat = bits := by
      rw [hatoi]
      omega
    refine ⟨?_, host, ?_, haddress⟩
    · rw [← haddress.contains_colon, List.contains_append, hcolon,
        Bool.or_false]
    · have hdrop : (47 :: digits).dropWhile (· ≠ 47) = 47 :: digits := by
        simp
      have htake : (47 :: digits).takeWhile (· ≠ 47) = [] := by simp
      simp only [parsePrefixLength,
        List.dropWhile_append_of_pos haddress.all_ne_slash, hdrop,
        List.takeWhile_append_of_pos haddress.all_ne_slash, htake,
        hrequested, if_neg (not_lt.mpr hbits), List.append_nil]

/-! ## Keys -/

/-- The bytes that pairs of hexadecimal digits spell. -/
def hexBytes : CString → Option Bytes
  | [] => some []
  | [_] => none
  | high :: low :: rest => do
      let highDigit ← hexDigitValue high
      let lowDigit ← hexDigitValue low
      let bytes ← hexBytes rest
      return UInt8.ofNat (16 * highDigit + lowDigit) :: bytes

theorem hexBytes_cons_eq_some {high low : UInt8} {rest : CString}
    {bytes : Bytes} (hbytes : hexBytes (high :: low :: rest) = some bytes) :
    ∃ highDigit lowDigit others, hexDigitValue high = some highDigit ∧
      hexDigitValue low = some lowDigit ∧ hexBytes rest = some others ∧
      bytes = UInt8.ofNat (16 * highDigit + lowDigit) :: others := by
  simp only [hexBytes, Option.bind_eq_bind, Option.bind_eq_some_iff, pure,
    Option.some.injEq] at hbytes
  obtain ⟨highDigit, hhigh, lowDigit, hlow, others, hrest, rfl⟩ := hbytes
  exact ⟨highDigit, lowDigit, others, hhigh, hlow, hrest, rfl⟩

theorem hexDigitValue_spec {c : UInt8} {digit : ℕ}
    (hdigit : hexDigitValue c = some digit) :
    isSpace c = false ∧ ¬ (c = 43 ∨ c = 45) ∧ digit < 16 := by
  have hrange : 48 ≤ c.toNat ∧ digit < 16 := by
    simp only [hexDigitValue, UInt8.le_iff_toNat_le, UInt8.reduceToNat]
      at hdigit
    split at hdigit
    · cases hdigit
      omega
    · split at hdigit
      · cases hdigit
        omega
      · split at hdigit
        · cases hdigit
          omega
        · cases hdigit
  refine ⟨?_, ?_, hrange.2⟩
  · simp only [isSpace, UInt8.le_iff_toNat_le, ← UInt8.toNat_inj,
      UInt8.reduceToNat]
    simp
    omega
  · simp only [← UInt8.toNat_inj, UInt8.reduceToNat]
    omega

theorem sscanf2x_of_hex {high low : UInt8} {rest : CString}
    {highDigit lowDigit : ℕ} (hhigh : hexDigitValue high = some highDigit)
    (hlow : hexDigitValue low = some lowDigit) :
    sscanf2x (high :: low :: rest) =
      some (UInt32.ofNat (16 * highDigit + lowDigit)) := by
  obtain ⟨hspace, hsign, _⟩ := hexDigitValue_spec hhigh
  have hdrop : (high :: low :: rest).dropWhile isSpace =
      high :: low :: rest := by
    simp [hspace]
  simp [sscanf2x, hdrop, if_neg hsign, hhigh, hlow]

theorem decodehexLoop_of_hexBytes {src : CString} {bytes : Bytes}
    (byteval : UInt32) (hbytes : hexBytes src = some bytes) :
    decodehexLoop bytes.length byteval src = bytes ∧
      src.length = 2 * bytes.length := by
  induction src using hexBytes.induct generalizing bytes byteval with
  | case1 =>
      cases hbytes
      exact ⟨rfl, rfl⟩
  | case2 c => cases hbytes
  | case3 high low rest ih =>
      obtain ⟨highDigit, lowDigit, others, hhigh, hlow, hrest, rfl⟩ :=
        hexBytes_cons_eq_some hbytes
      obtain ⟨hloop, hlength⟩ :=
        ih (UInt32.ofNat (16 * highDigit + lowDigit)) hrest
      have hhighLt := (hexDigitValue_spec hhigh).2.2
      have hlowLt := (hexDigitValue_spec hlow).2.2
      have hvalue : (UInt32.ofNat (16 * highDigit + lowDigit)).toNat =
          16 * highDigit + lowDigit := by
        rw [UInt32.toNat_ofNat']
        omega
      constructor
      · simp only [List.length_cons, decodehexLoop,
          sscanf2x_of_hex hhigh hlow, Option.getD_some, List.drop_succ_cons,
          List.drop_zero, hloop, hvalue]
      · simp only [List.length_cons, hlength]
        omega

theorem parseKey_of_hexBytes {text : CString} {key : ByteVec 16}
    (htext : hexBytes text = some key.val) (byteval : UInt32)
    (missing wrongLength : BuildError) :
    parseKey byteval (some text) missing wrongLength = .ok key := by
  obtain ⟨hloop, hlength⟩ := decodehexLoop_of_hexBytes byteval htext
  rw [key.2] at hloop hlength
  have hkey : decodehex byteval text = key := Subtype.ext hloop
  simp [parseKey, orExit, hlength, hkey, bind, Except.bind, pure,
    Except.pure]

/-! ## Backends and binds -/

def BackendState.name : BackendState → CString
  | .filling => ascii "filling"
  | .active => ascii "active"
  | .draining => ascii "draining"
  | .inactive => ascii "inactive"

def BindProtocol.name : BindProtocol → CString
  | .tcp => ascii "tcp"
  | .udp => ascii "udp"

structure BackendJson (json : Json) (backend : LoadedBackend) : Prop where
  ip : ∃ text,
    jsonStringValue (jsonObjectGet json (ascii "ip")) = some text ∧
      AddressText text backend.address
  state : jsonStringValue (jsonObjectGet json (ascii "state")) =
    some backend.state.name
  healthy : jsonObjectGet json (ascii "healthy") =
    some (.boolean backend.healthy)

/-- One `port`, or a `port_start` and a `port_end`. -/
def PortsJson (json : Json) (portStart portEnd : UInt16) : Prop :=
  (jsonObjectGet json (ascii "port") = some (.integer portStart.toNat) ∧
    portEnd = portStart) ∨
  (jsonObjectGet json (ascii "port") = none ∧
    jsonObjectGet json (ascii "port_start") =
      some (.integer portStart.toNat) ∧
    jsonObjectGet json (ascii "port_end") = some (.integer portEnd.toNat))

structure BindJson (json : Json) (bind : LoadedBind) : Prop where
  ip : ∃ text,
    jsonStringValue (jsonObjectGet json (ascii "ip")) = some text ∧
      SubnetText text bind.address bind.ipBits.toNat
  proto : jsonStringValue (jsonObjectGet json (ascii "proto")) =
    some bind.proto.name
  ports : PortsJson json bind.portStart bind.portEnd

theorem parseBackendState_name (state : BackendState) :
    parseBackendState state.name = some state := by
  cases state <;> decide +kernel

theorem parseProtocol_name (proto : BindProtocol) :
    parseProtocol proto.name = some proto := by
  cases proto <;> decide +kernel

theorem parseBackend_of_json {json : Json} {backend : LoadedBackend}
    (hjson : BackendJson json backend) : parseBackend json = .ok backend := by
  obtain ⟨⟨text, hip, haddress⟩, hstate, hhealthy⟩ := hjson
  simp only [parseBackend, hip, hstate, hhealthy, orExit, bind, Except.bind,
    haddress.contains_colon, parseAddress_of_text haddress,
    parseBackendState_name, jsonBooleanValue, pure, Except.pure]

theorem toInt_port (port : UInt16) : toInt (port.toNat : ℤ) = port.toNat := by
  have hlt := port.toNat_lt
  unfold toInt
  rw [Int.bmod_eq_of_le] <;> omega

theorem checkPort_port (port : UInt16) :
    checkPort (port.toNat : ℤ) = .ok port := by
  have hlt := port.toNat_lt
  rw [checkPort, if_pos (by omega), Int.toNat_natCast, UInt16.ofNat_toNat]

theorem bindPorts_of_json {json : Json} {portStart portEnd : UInt16}
    (hports : PortsJson json portStart portEnd) :
    bindPorts json = ((portStart.toNat : ℤ), (portEnd.toNat : ℤ)) := by
  rcases hports with ⟨hport, rfl⟩ | ⟨hport, hstart, hend⟩
  · simp only [bindPorts, hport, jsonIntegerValue, toInt_port]
  · simp only [bindPorts, hport, hstart, hend, jsonIntegerValue, toInt_port]

theorem parseBind_of_json {json : Json} {bind : LoadedBind}
    (hjson : BindJson json bind) : parseBind json = .ok bind := by
  obtain ⟨⟨text, hip, hsubnet⟩, hproto, hports⟩ := hjson
  obtain ⟨hcolon, host, hprefix, haddress⟩ :=
    parsePrefixLength_of_text hsubnet
  rw [Address.bits] at hprefix
  simp only [parseBind, hip, hproto, orExit, Bind.bind, Except.bind,
    bindPorts_of_json hports, checkPort_port, hcolon, hprefix,
    parseAddress_of_text haddress, parseProtocol_name, pure, Except.pure,
    UInt16.ofNat_toNat]

/-! ## Tables -/

theorem parseUpTo_of_forall₂ {α β : Type} {parse : α → Except BuildError β}
    {elements : List α} {parsed : List β}
    (hparse : List.Forall₂ (fun element value => parse element = .ok value)
      elements parsed) {limit : ℕ} (hlimit : elements.length ≤ limit) :
    ∃ hlength, parseUpTo parse limit elements = .ok ⟨parsed, hlength⟩ := by
  induction hparse generalizing limit with
  | nil =>
      cases limit with
      | zero => exact ⟨by simp, rfl⟩
      | succ limit => exact ⟨by simp, rfl⟩
  | @cons element value elements parsed hhead htail ih =>
      cases limit with
      | zero => simp at hlimit
      | succ limit =>
          obtain ⟨hlength, hrest⟩ := ih (by simpa using hlimit)
          refine ⟨by simp [hlength], ?_⟩
          simp only [parseUpTo, hhead, hrest, bind, Except.bind, pure,
            Except.pure]

def slotsOf {limit : ℕ} {α : Type} (used : List α)
    (hlength : used.length ≤ limit) (hsmall : limit < 2 ^ 32) :
    Slots limit α where
  count := UInt32.ofNat used.length
  used := used
  used_length := by
    rw [UInt32.toNat_ofNat']
    omega

theorem parseSlots_of_forall₂ {α : Type} {parse : Json → Except BuildError α}
    {elements : List Json} {parsed : List α} {limit : ℕ}
    (hparse : List.Forall₂ (fun element value => parse element = .ok value)
      elements parsed)
    (hlimit : parsed.length ≤ limit) (hsmall : limit < 2 ^ 32) :
    parseSlots parse limit elements = .ok (slotsOf parsed hlimit hsmall) := by
  have hsame : elements.length = parsed.length := hparse.length_eq
  have hcount : (UInt32.ofNat elements.length).toNat = elements.length := by
    rw [UInt32.toNat_ofNat']
    omega
  have htake : elements.take (UInt32.ofNat elements.length).toNat =
      elements := by
    rw [hcount, List.take_length]
  obtain ⟨hlength, hparsed⟩ := parseUpTo_of_forall₂
    (show List.Forall₂ _ (elements.take _) parsed from htake.symm ▸ hparse)
    (show _ ≤ limit by rw [take_count_length]; omega)
  simp only [parseSlots, hparsed, bind, Except.bind, pure, Except.pure]
  simp [slotsOf, hsame]

/-- The contents of a table: what the builder has room for, and at least two
backends to choose from. -/
structure TableSpec where
  backends : List LoadedBackend
  binds : List LoadedBind
  hashKey : ByteVec 16
  seed : ByteVec 16
  backends_length : 1 ≤ backends.length ∧ backends.length ≤ maxNumBackends
  binds_length : 1 ≤ binds.length ∧ binds.length ≤ maxNumBinds
  two_available :
    2 ≤ (backends.filter fun backend => backend.state ≠ .inactive).length

structure TableJson (json : Json) (spec : TableSpec) : Prop where
  backends : ∃ elements,
    jsonObjectGet json (ascii "backends") = some (.array elements) ∧
      List.Forall₂ BackendJson elements spec.backends
  binds : ∃ elements,
    jsonObjectGet json (ascii "binds") = some (.array elements) ∧
      List.Forall₂ BindJson elements spec.binds
  hashKey : ∃ text,
    jsonStringValue (jsonObjectGet json (ascii "hash_key")) = some text ∧
      hexBytes text = some spec.hashKey.val
  seed : ∃ text,
    jsonStringValue (jsonObjectGet json (ascii "seed")) = some text ∧
      hexBytes text = some spec.seed.val

def RootJson (root : Json) (specs : List TableSpec) : Prop :=
  ∃ elements, jsonObjectGet root (ascii "tables") = some (.array elements) ∧
    List.Forall₂ TableJson elements specs

def TableSpec.input (spec : TableSpec) : TableInput where
  backends := slotsOf spec.backends spec.backends_length.2 (by decide)
  binds := slotsOf spec.binds spec.binds_length.2 (by decide)
  hashKey := spec.hashKey
  seed := spec.seed

theorem parseTable_of_json {json : Json} {spec : TableSpec}
    (hjson : TableJson json spec) (garbage : StackGarbage)
    (tableIndex : ℕ) :
    parseTable garbage tableIndex json = .ok spec.input := by
  obtain ⟨⟨backends, hbackends, hbackendJson⟩, ⟨binds, hbinds, hbindJson⟩,
    ⟨hashText, hhash, hhashBytes⟩, seedText, hseed, hseedBytes⟩ := hjson
  have hloaded := parseSlots_of_forall₂
    (hbackendJson.imp fun _ _ h => parseBackend_of_json h)
    spec.backends_length.2 (show maxNumBackends < 2 ^ 32 by decide)
  have hparsed := parseSlots_of_forall₂
    (hbindJson.imp fun _ _ h => parseBind_of_json h)
    spec.binds_length.2 (show maxNumBinds < 2 ^ 32 by decide)
  simp only [parseTable, hbackends, hbinds, hhash, hseed, orExit, bind,
    Except.bind, jsonArrayElements, hloaded, hparsed,
    parseKey_of_hexBytes hhashBytes, parseKey_of_hexBytes hseedBytes, pure,
    Except.pure]
  rfl

theorem parseTables_of_json {elements : List Json} {specs : List TableSpec}
    (hjson : List.Forall₂ TableJson elements specs) (garbage : StackGarbage)
    (tableIndex : ℕ) :
    parseTables garbage tableIndex elements =
      .ok (specs.map TableSpec.input) := by
  induction hjson generalizing tableIndex with
  | nil => rfl
  | cons hhead _ ih =>
      exact parseTables_cons_eq_ok_iff.mpr ⟨_, _,
        parseTable_of_json hhead garbage tableIndex, ih (tableIndex + 1), rfl⟩

/-- The builder loads what a well-formed document says. -/
theorem buildInputs_of_json {root : Json} {specs : List TableSpec}
    (hjson : RootJson root specs) (garbage : StackGarbage) :
    buildInputs garbage root = .ok (specs.map TableSpec.input) := by
  obtain ⟨elements, htables, hspecs⟩ := hjson
  exact buildInputs_eq_ok_iff.mpr
    ⟨_, htables, parseTables_of_json hspecs garbage 0⟩

end GlbDirector
