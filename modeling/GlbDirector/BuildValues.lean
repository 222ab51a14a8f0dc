import GlbDirector.WellFormedConfig
import Mathlib.Data.List.TakeWhile

/-!
# The values that `build-config` accepts (`cli/main.c`)

Prefix lengths pass through `atoi`, ports through a conversion to `int`, and the
digits of the keys through `sscanf`, whose result is not checked.  An accepted
value is the one that the document says exactly when the document says it in
plain numbers; otherwise some other value takes its place.
-/

namespace GlbDirector

open ByteCodec ExceptLoops

/-! ## What the builder does not check -/

/-- The bits of an address of the family that the text is of. -/
def textBits (ip : CString) : ℕ := if ip.contains 58 then 128 else 32

/-- The prefix length is a plain number within its bound, and the ports are
integers in range. -/
structure PlainBind (bind : Json) : Prop where
  hsuffix : ∀ ip host suffix,
    jsonStringValue (jsonObjectGet bind (ascii "ip")) = some ip →
    ip = host ++ 47 :: suffix → 47 ∉ host →
      ∃ n, DecimalText suffix n ∧ n ≤ textBits ip
  hports : ∃ portStart portEnd, PortsJson bind portStart portEnd

def PlainKey (text : Option CString) : Prop :=
  ∀ hex, text = some hex → ∀ c ∈ hex, hexDigitValue c ≠ none

/-! ## Prefix lengths -/

theorem split_at_slash {ip host suffix : CString}
    (hip : ip = host ++ 47 :: suffix) (hslash : 47 ∉ host) :
    ip.dropWhile (· ≠ 47) = 47 :: suffix ∧
      ip.takeWhile (· ≠ 47) = host := by
  have hhost : ∀ c ∈ host, decide (c ≠ 47) = true := by
    intro c hc
    rw [decide_eq_true_eq]
    rintro rfl
    exact hslash hc
  subst hip
  constructor
  · rw [List.dropWhile_append_of_pos hhost]
    rfl
  · rw [List.takeWhile_append_of_pos hhost]
    simp

theorem addressText_of_parse {text : CString} {isIpv6 : Bool}
    {address : Address} (hparse : parseAddress isIpv6 text = some address) :
    AddressText text address := by
  cases isIpv6 with
  | true =>
      obtain ⟨octets, hoctets, rfl⟩ := Option.map_eq_some_iff.mp hparse
      exact hoctets
  | false =>
      obtain ⟨octets, hoctets, rfl⟩ := Option.map_eq_some_iff.mp hparse
      exact hoctets

/-- The two ways through the prefix length. -/
theorem parsePrefixLength_cases {ip host : CString} {bits n : ℕ}
    (hparse : parsePrefixLength ip bits = .ok (host, n)) :
    47 ∉ ip ∧ host = ip ∧ n = bits ∨
      ∃ suffix, ip = host ++ 47 :: suffix ∧ 47 ∉ host ∧
        n = (atoi suffix % 2 ^ 32).toNat ∧ n ≤ bits := by
  by_cases hslash : 47 ∈ ip
  · right
    obtain ⟨front, suffix, hip, hfront⟩ := List.eq_append_cons_of_mem hslash
    obtain ⟨hdrop, htake⟩ := split_at_slash hip hfront
    rw [parsePrefixLength, hdrop, htake] at hparse
    by_cases hbits : (atoi suffix % 2 ^ 32).toNat > bits
    · simp only [if_pos hbits] at hparse
      cases hparse
    · simp only [if_neg hbits] at hparse
      cases hparse
      exact ⟨suffix, hip, hfront, rfl, Nat.le_of_not_gt hbits⟩
  · left
    have hdrop : ip.dropWhile (· ≠ 47) = [] := by
      rw [List.dropWhile_eq_nil_iff]
      intro c hc
      rw [decide_eq_true_eq]
      rintro rfl
      exact hslash hc
    rw [parsePrefixLength, hdrop] at hparse
    cases hparse
    exact ⟨hslash, rfl, rfl⟩

theorem textBits_le (ip : CString) : textBits ip ≤ 128 := by
  unfold textBits
  split <;> omega

/-- The family of an address is that of the text it stands in, if the parser
took it for one of that family. -/
theorem address_bits_eq {ip host : CString} {address : Address}
    (haddress : parseAddress (ip.contains 58) host = some address) :
    address.bits = textBits ip := by
  unfold textBits
  cases hcolon : ip.contains 58 with
  | true =>
      rw [hcolon] at haddress
      obtain ⟨octets, _, rfl⟩ := Option.map_eq_some_iff.mp haddress
      rfl
  | false =>
      rw [hcolon] at haddress
      obtain ⟨octets, _, rfl⟩ := Option.map_eq_some_iff.mp haddress
      rfl

/-- An accepted prefix length is the number in the text if it is a plain
one. -/
theorem subnetText_of_parse {ip host : CString} {address : Address} {n : ℕ}
    (hparse : parsePrefixLength ip (textBits ip) = .ok (host, n))
    (haddress : parseAddress (ip.contains 58) host = some address)
    (hsuffix : ∀ host suffix, ip = host ++ 47 :: suffix → 47 ∉ host →
      ∃ n, DecimalText suffix n ∧ n ≤ textBits ip) :
    SubnetText ip address n := by
  have hbits := address_bits_eq haddress
  have htext := addressText_of_parse haddress
  rcases parsePrefixLength_cases hparse with
    ⟨hslash, rfl, rfl⟩ | ⟨suffix, hip, hslash, hn, hle⟩
  · exact .inl ⟨htext, hbits.symm⟩
  · obtain ⟨m, hdecimal, hm⟩ := hsuffix host suffix hip hslash
    have hmax := textBits_le ip
    have hatoi := atoi_of_decimalText hdecimal (by omega)
    have heq : n = m := by
      rw [hn, hatoi]
      omega
    subst heq
    exact .inr ⟨host, suffix, hip, htext, hdecimal, hbits ▸ hle⟩

/-- The text after the slash of a subnet is a plain number. -/
theorem SubnetText.suffix {ip : CString} {address : Address} {n : ℕ}
    (hip : SubnetText ip address n) {host suffix : CString}
    (heq : ip = host ++ 47 :: suffix) (hslash : 47 ∉ host) :
    ∃ n, DecimalText suffix n ∧ n ≤ textBits ip := by
  have hbits : address.bits = textBits ip := by
    rw [textBits, (parsePrefixLength_of_text hip).1]
    rfl
  rcases hip with ⟨haddress, _⟩ | ⟨front, digits, hip, haddress, hdecimal, hle⟩
  · apply absurd _ haddress.no_slash
    rw [heq]
    exact List.mem_append_cons_self
  · have hdrop := (split_at_slash heq hslash).1
    rw [(split_at_slash hip haddress.no_slash).1] at hdrop
    cases hdrop
    exact ⟨n, hdecimal, hbits ▸ hle⟩

/-! ## Keys -/

theorem exists_hexBytes_iff {hex : CString} {n : ℕ}
    (hlength : hex.length = 2 * n) :
    (∃ bytes, hexBytes hex = some bytes) ↔
      ∀ c ∈ hex, hexDigitValue c ≠ none := by
  induction hex using hexBytes.induct generalizing n with
  | case1 => simp [hexBytes]
  | case2 c =>
      simp only [List.length_singleton] at hlength
      omega
  | case3 high low rest ih =>
      have hrest : rest.length = 2 * (n - 1) := by
        simp only [List.length_cons] at hlength
        omega
      rw [List.forall_mem_cons, List.forall_mem_cons, ← ih hrest]
      cases hhigh : hexDigitValue high with
      | none => simp [hexBytes, hhigh]
      | some h =>
          cases hlow : hexDigitValue low with
          | none => simp [hexBytes, hhigh, hlow]
          | some l =>
              cases hothers : hexBytes rest with
              | none => simp [hexBytes, hhigh, hlow, hothers]
              | some others => simp [hexBytes, hhigh, hlow, hothers]

theorem parseKey_eq_ok_iff {byteval : UInt32} {text : Option CString}
    {missing wrongLength : BuildError} {key : ByteVec 16} :
    parseKey byteval text missing wrongLength = .ok key ↔
      ∃ hex, text = some hex ∧ hex.length = 32 ∧ key = decodehex byteval hex := by
  rw [parseKey]
  simp only [bind_eq_ok_iff, orExit_eq_ok_iff]
  constructor
  · rintro ⟨hex, htext, hkey⟩
    by_cases hlength : hex.length = 32
    · rw [if_neg (not_not.mpr hlength)] at hkey
      exact ⟨hex, htext, hlength, (Except.ok.inj hkey).symm⟩
    · rw [if_pos hlength] at hkey
      cases hkey
  · rintro ⟨hex, htext, hlength, rfl⟩
    refine ⟨hex, htext, ?_⟩
    rw [if_neg (not_not.mpr hlength)]
    rfl

/-- A text of 32 hexadecimal digits, and the bytes they spell. -/
def KeyText (text : Option CString) (key : ByteVec 16) : Prop :=
  ∃ hex, text = some hex ∧ hex.length = 32 ∧ hexBytes hex = some key.val

theorem keyText_iff {byteval : UInt32} {text : Option CString}
    {missing wrongLength : BuildError} {key : ByteVec 16}
    (hkey : parseKey byteval text missing wrongLength = .ok key) :
    KeyText text key ↔ PlainKey text := by
  obtain ⟨hex, rfl, hlength, rfl⟩ := parseKey_eq_ok_iff.mp hkey
  have hplain := exists_hexBytes_iff (n := 16) hlength
  constructor
  · rintro ⟨other, hother, _, hbytes⟩ hex' hhex'
    cases hother
    cases hhex'
    exact hplain.mp ⟨_, hbytes⟩
  · intro hdigits
    obtain ⟨bytes, hbytes⟩ := hplain.mpr (hdigits hex rfl)
    obtain ⟨hloop, htwice⟩ := decodehexLoop_of_hexBytes byteval hbytes
    have hlen : bytes.length = 16 := by omega
    refine ⟨hex, rfl, hlength, ?_⟩
    rw [hbytes, ← hloop, hlen]
    rfl

/-! ## Binds -/

theorem parseBind_eq_ok_iff {bind : Json} {loaded : LoadedBind} :
    parseBind bind = .ok loaded ↔
      ∃ ip text host n,
        jsonStringValue (jsonObjectGet bind (ascii "ip")) = some ip ∧
        jsonStringValue (jsonObjectGet bind (ascii "proto")) = some text ∧
        checkPort (bindPorts bind).1 = .ok loaded.portStart ∧
        checkPort (bindPorts bind).2 = .ok loaded.portEnd ∧
        parsePrefixLength ip (textBits ip) = .ok (host, n) ∧
        parseAddress (ip.contains 58) host = some loaded.address ∧
        parseProtocol text = some loaded.proto ∧
        loaded.ipBits = UInt16.ofNat n := by
  simp only [parseBind, bind_eq_ok_iff, orExit_eq_ok_iff]
  constructor
  · rintro ⟨ip, hip, text, htext, portStart, hstart, portEnd, hend,
      ⟨host, n⟩, hprefix, address, haddress, proto, hproto, hloaded⟩
    cases hloaded
    exact ⟨ip, text, host, n, hip, htext, hstart, hend, hprefix, haddress,
      hproto, rfl⟩
  · rintro ⟨ip, text, host, n, hip, htext, hstart, hend, hprefix, haddress,
      hproto, hbits⟩
    refine ⟨ip, hip, text, htext, _, hstart, _, hend, ⟨host, n⟩, hprefix, _,
      haddress, _, hproto, ?_⟩
    rw [← hbits]
    rfl

theorem parseProtocol_eq_some {text : CString} {proto : BindProtocol}
    (hproto : parseProtocol text = some proto) : text = proto.name := by
  unfold parseProtocol at hproto
  by_cases htcp : text = ascii "tcp"
  · rw [if_pos htcp] at hproto
    cases hproto
    exact htcp
  · rw [if_neg htcp] at hproto
    by_cases hudp : text = ascii "udp"
    · rw [if_pos hudp] at hproto
      cases hproto
      exact hudp
    · rw [if_neg hudp] at hproto
      cases hproto

theorem bindJson_iff {bind : Json} {loaded : LoadedBind}
    (hbind : parseBind bind = .ok loaded) :
    BindJson bind loaded ↔ PlainBind bind := by
  obtain ⟨ip, text, host, n, hip, htext, hstart, hend, hprefix, haddress,
    hproto, hbits⟩ := parseBind_eq_ok_iff.mp hbind
  constructor
  · intro hjson
    obtain ⟨other, hother, hsubnet⟩ := hjson.ip
    constructor
    · intro ip' host' suffix' hip' heq hslash
      obtain rfl := Option.some.inj (hother.symm.trans hip')
      exact hsubnet.suffix heq hslash
    · exact ⟨_, _, hjson.ports⟩
  · intro hplain
    have hsubnet := subnetText_of_parse hprefix haddress
      fun host suffix => hplain.hsuffix ip host suffix hip
    obtain ⟨portStart, portEnd, hports⟩ := hplain.hports
    rw [bindPorts_of_json hports, checkPort_port] at hstart hend
    have hn : loaded.ipBits.toNat = n := by
      have hle : n ≤ 128 := by
        rcases parsePrefixLength_cases hprefix with
          ⟨_, _, rfl⟩ | ⟨_, _, _, _, hle⟩
        · exact textBits_le ip
        · exact hle.trans (textBits_le ip)
      rw [hbits, UInt16.toNat_ofNat']
      omega
    constructor
    · exact ⟨ip, hip, hn ▸ hsubnet⟩
    · rw [htext, parseProtocol_eq_some hproto]
    · rw [← Except.ok.inj hstart, ← Except.ok.inj hend]
      exact hports

theorem build_values_iff
    (bind : Json) (loaded : LoadedBind)
    (byteval : UInt32) (text : Option CString)
    (missing wrongLength : BuildError) (key : ByteVec 16) :
    (parseBind bind = .ok loaded → (BindJson bind loaded ↔ PlainBind bind)) ∧
      (parseKey byteval text missing wrongLength = .ok key →
        (KeyText text key ↔ PlainKey text)) :=
  ⟨bindJson_iff, keyText_iff⟩

def repeatedAddress (octet : UInt8) : Address :=
  .v4 ⟨[octet, octet, octet, octet], rfl⟩

def sampleLoadedBind : LoadedBind where
  address := repeatedAddress 1
  ipBits := 32
  portStart := 80
  portEnd := 80
  proto := .tcp

theorem build_values_iff_sampleBind :
    parseBind sampleBind = .ok sampleLoadedBind ∧
      BindJson sampleBind sampleLoadedBind ∧
      parseKey 7 (some (List.replicate 32 48)) .badHashKey .hashKeyLength =
        .ok (ByteVec.zero 16) ∧
      KeyText (some (List.replicate 32 48)) (ByteVec.zero 16) := by
  have hparse : parseBind sampleBind = .ok sampleLoadedBind := by
    decide +kernel
  have hparseKey : parseKey 7 (some (List.replicate 32 48)) .badHashKey
      .hashKeyLength = .ok (ByteVec.zero 16) := by
    decide +kernel
  have hvalues := build_values_iff sampleBind sampleLoadedBind 7
    (some (List.replicate 32 48)) .badHashKey .hashKeyLength (ByteVec.zero 16)
  have hplain : PlainBind sampleBind := by
    refine ⟨?_, 80, 80, .inl ⟨rfl, rfl⟩⟩
    intro ip host suffix hip heq
    cases hip
    have hmem : (47 : UInt8) ∈ ascii "1.1.1.1" := by
      rw [heq]
      exact List.mem_append_cons_self
    exact absurd hmem (by decide)
  have hplainKey : PlainKey (some (List.replicate 32 48)) := by
    intro hex hhex c hc
    cases hhex
    rw [List.eq_of_mem_replicate hc]
    decide
  exact ⟨hparse, (hvalues.1 hparse).mpr hplain, hparseKey,
    (hvalues.2 hparseKey).mpr hplainKey⟩

/-- A bind whose prefix length is no number and that has no port. -/
def sloppyBind : Json :=
  .object [(ascii "ip", .string (ascii "1.1.1.1/abc")),
    (ascii "proto", .string (ascii "tcp"))]

/-- It is accepted as port 0 of every address, and a key without a single
digit is accepted as what the stack held. -/
theorem sloppy_values_accepted :
    (∃ loaded, parseBind sloppyBind = .ok loaded ∧ loaded.ipBits = 0 ∧
      loaded.portStart = 0 ∧ ¬ BindJson sloppyBind loaded) ∧
    ∃ key, parseKey 7 (some (List.replicate 32 122)) .badHashKey
        .hashKeyLength = .ok key ∧ key.val = List.replicate 16 7 ∧
      ¬ KeyText (some (List.replicate 32 122)) key := by
  constructor
  · refine ⟨⟨.v4 ⟨[1, 1, 1, 1], rfl⟩, 0, 0, 0, .tcp⟩, by decide +kernel, rfl,
      rfl, ?_⟩
    intro hjson
    rcases hjson.ports with ⟨hport, _⟩ | ⟨_, hstart, _⟩
    · cases hport
    · cases hstart
  · refine ⟨⟨List.replicate 16 7, rfl⟩, by decide +kernel, rfl, ?_⟩
    rintro ⟨hex, hhex, _, hbytes⟩
    cases hhex
    cases hbytes

end GlbDirector
