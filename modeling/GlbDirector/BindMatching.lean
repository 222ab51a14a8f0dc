import GlbDirector.ClassifierRules
import GlbDirector.FlowAffinity
import GlbDirector.MapWrites
import GlbDirector.XdpEquivalence

/-!
# Plain traffic reaches the same tables through both directors

The XDP loader writes one key for each port of a bind and one more for ICMP;
the DPDK director gives each bind a rule over ranges.  For binds that name one
address, both find a TCP or UDP packet exactly when a bind has its address,
protocol and port.
-/

namespace GlbDirector

open ByteCodec AclMatch ExceptLoops MapWrites

/-! ## What the loader writes into `glb_binds` -/

theorem lookupBind_cons (entry : GlbBind × UInt32)
    (binds : List (GlbBind × UInt32)) (key : GlbBind) :
    lookupBind (entry :: binds) key =
      if entry.1 = key then some entry.2 else lookupBind binds key := by
  unfold lookupBind
  rw [List.find?_cons]
  by_cases hkey : entry.1 = key
  · simp [hkey]
  · simp [hkey]

theorem lookupBind_replace {key : GlbBind} (tableIndex : UInt32)
    {binds : List (GlbBind × UInt32)}
    (hany : ∃ entry ∈ binds, entry.1 = key) :
    Writes (lookupBind binds)
      (lookupBind (binds.map fun entry =>
        if entry.1 = key then (key, tableIndex) else entry))
      (· = key) tableIndex := by
  constructor
  · intro other hother
    rw [hother]
    induction binds with
    | nil => simp at hany
    | cons entry binds ih =>
        rw [List.map_cons, lookupBind_cons]
        by_cases hkey : entry.1 = key
        · simp [hkey]
        · have hrest : ∃ entry ∈ binds, entry.1 = key := by
            simpa [hkey] using hany
          simp only [if_neg hkey]
          exact ih hrest
  · intro other hother
    clear hany
    induction binds with
    | nil => rfl
    | cons entry binds ih =>
        rw [List.map_cons, lookupBind_cons, lookupBind_cons, ih]
        by_cases hkey : entry.1 = key
        · have hne : key ≠ other := fun h => hother h.symm
          rw [if_pos hkey, hkey, if_neg hne, if_neg hne]
        · rw [if_neg hkey]

theorem lookupBind_append {key : GlbBind} (tableIndex : UInt32)
    {binds : List (GlbBind × UInt32)}
    (hnone : ∀ entry ∈ binds, entry.1 ≠ key) :
    Writes (lookupBind binds) (lookupBind (binds ++ [(key, tableIndex)]))
      (· = key) tableIndex := by
  constructor
  · intro other hother
    rw [hother]
    induction binds with
    | nil => simp [lookupBind]
    | cons entry binds ih =>
        rw [List.cons_append, lookupBind_cons,
          if_neg (hnone entry List.mem_cons_self)]
        exact ih fun entry' hmem =>
          hnone entry' (List.mem_cons_of_mem entry hmem)
  · intro other hother
    clear hnone
    induction binds with
    | nil =>
        rw [List.nil_append, lookupBind_cons, if_neg fun h => hother h.symm]
    | cons entry binds ih =>
        rw [List.cons_append, lookupBind_cons, lookupBind_cons, ih]

theorem lookupBind_putBind {key : GlbBind} {tableIndex : UInt32}
    {binds binds' : List (GlbBind × UInt32)}
    (hput : putBind key tableIndex binds = .ok binds') :
    Writes (lookupBind binds) (lookupBind binds') (· = key) tableIndex := by
  unfold putBind at hput
  split at hput
  · rename_i hany
    obtain rfl := Except.ok.inj hput
    obtain ⟨entry, hmem, hkey⟩ := List.any_eq_true.mp hany
    exact lookupBind_replace tableIndex
      ⟨entry, hmem, of_decide_eq_true hkey⟩
  · rename_i hnone
    split at hput
    · obtain rfl := Except.ok.inj hput
      refine lookupBind_append tableIndex fun entry hmem hkey => hnone ?_
      exact List.any_eq_true.mpr ⟨entry, hmem, decide_eq_true hkey⟩
    · cases hput

/-- The key for a port of the bind. -/
def portKey (bind : FwdBind) (port : UInt16) : GlbBind where
  ipv4 := getBindIpv4 bind
  ipv6 := getBindIpv6 bind
  proto := bind.proto.toUInt16
  port := htons port

def icmpKey (bind : FwdBind) : GlbBind where
  ipv4 := getBindIpv4 bind
  ipv6 := getBindIpv6 bind
  proto := getBindIcmpProto bind
  port := 0

/-- `key` is one of the keys of the ports from `p` on. -/
def PortKeyFrom (bind : FwdBind) (p : UInt16) (key : GlbBind) : Prop :=
  ∃ q, p ≤ q ∧ q ≤ bind.portEnd ∧ key = portKey bind q

/-- The keys that the loader writes for a bind. -/
def BindKey (bind : FwdBind) (key : GlbBind) : Prop :=
  PortKeyFrom bind bind.portStart key ∨ key = icmpKey bind

/-- A range that ends at 65535 is never left. -/
theorem putBindPorts_ne_ok {bind : FwdBind} (hend : bind.portEnd = 0xffff)
    (tableIndex : UInt32) (left : ℕ) (p : UInt16)
    (binds : List (GlbBind × UInt32))
    (result : List (GlbBind × UInt32) × ℕ) :
    putBindPorts bind tableIndex left p binds ≠ .ok result := by
  have hle : p ≤ bind.portEnd := by
    rw [hend, UInt16.le_iff_toNat_le]
    exact Nat.le_of_lt_succ p.toNat_lt
  induction left generalizing p binds with
  | zero =>
      rw [putBindPorts, if_pos hle]
      intro hrun
      cases hrun
  | succ left ih =>
      rw [putBindPorts, if_pos hle]
      intro hrun
      obtain ⟨binds', _, hrest⟩ := bind_eq_ok_iff.mp hrun
      refine ih (p + 1) binds' ?_ hrest
      rw [hend, UInt16.le_iff_toNat_le]
      exact Nat.le_of_lt_succ (p + 1).toNat_lt

theorem portKeyFrom_step {bind : FwdBind} {p : UInt16}
    (hend : bind.portEnd ≠ 0xffff) (hle : p ≤ bind.portEnd)
    (key : GlbBind) :
    key = portKey bind p ∨ PortKeyFrom bind (p + 1) key ↔
      PortKeyFrom bind p key := by
  have hlt := bind.portEnd.toNat_lt
  have hne : bind.portEnd.toNat ≠ 65535 := fun heq =>
    hend (UInt16.toNat_inj.mp heq)
  rw [UInt16.le_iff_toNat_le] at hle
  have hnext : (p + 1).toNat = p.toNat + 1 := by
    rw [UInt16.toNat_add]
    exact Nat.mod_eq_of_lt (by change p.toNat + 1 < 65536; omega)
  constructor
  · rintro (rfl | ⟨q, hq, hqend, rfl⟩)
    · exact ⟨p, UInt16.le_refl p, UInt16.le_iff_toNat_le.mpr hle, rfl⟩
    · refine ⟨q, ?_, hqend, rfl⟩
      rw [UInt16.le_iff_toNat_le] at hq ⊢
      omega
  · rintro ⟨q, hq, hqend, rfl⟩
    by_cases heq : q = p
    · exact .inl (by rw [heq])
    · refine .inr ⟨q, ?_, hqend, rfl⟩
      have hqne : q.toNat ≠ p.toNat := fun h => heq (UInt16.toNat_inj.mp h)
      rw [UInt16.le_iff_toNat_le] at hq ⊢
      omega

theorem putBindPorts_writes {bind : FwdBind} {tableIndex : UInt32}
    {left : ℕ} {p : UInt16} {binds : List (GlbBind × UInt32)}
    {result : List (GlbBind × UInt32) × ℕ}
    (hrun : putBindPorts bind tableIndex left p binds = .ok result) :
    Writes (lookupBind binds) (lookupBind result.1) (PortKeyFrom bind p)
      tableIndex := by
  have hend : bind.portEnd ≠ 0xffff := fun hend =>
    putBindPorts_ne_ok hend tableIndex left p binds result hrun
  have hdone : ∀ p, ¬ p ≤ bind.portEnd → ∀ key,
      False ↔ PortKeyFrom bind p key := by
    rintro p hdone key
    refine ⟨False.elim, ?_⟩
    rintro ⟨q, hq, hqend, _⟩
    exact hdone (UInt16.le_trans hq hqend)
  induction left generalizing p binds with
  | zero =>
      rw [putBindPorts] at hrun
      split at hrun
      · cases hrun
      · rename_i hp
        obtain rfl := Except.ok.inj hrun
        exact (Writes.none _ _).congr (hdone p hp)
  | succ left ih =>
      rw [putBindPorts] at hrun
      split at hrun
      · rename_i hp
        obtain ⟨binds', hput, hrest⟩ := bind_eq_ok_iff.mp hrun
        exact ((lookupBind_putBind hput).trans (ih hrest)).congr
          (portKeyFrom_step hend hp)
      · rename_i hp
        obtain rfl := Except.ok.inj hrun
        exact (Writes.none _ _).congr (hdone p hp)

theorem loadBind_writes {raw : Bytes} {t b : ℕ}
    {state state' : List (GlbBind × UInt32) × ℕ}
    (hload : loadBind raw t state b = .ok state') :
    ∃ bind, tableBind raw t b = some bind ∧
      Writes (lookupBind state.1) (lookupBind state'.1) (BindKey bind)
        (UInt32.ofNat t) := by
  simp only [loadBind, bind_eq_ok_iff, orLoadError_eq_ok_iff] at hload
  obtain ⟨bind, hbind, ⟨binds, left⟩, hports, hload⟩ := hload
  split at hload
  · cases hload
  · obtain ⟨binds', hput, hload⟩ := bind_eq_ok_iff.mp hload
    obtain rfl := Except.ok.inj hload
    exact ⟨bind, hbind,
      (putBindPorts_writes hports).trans (lookupBind_putBind hput)⟩

/-- The entries that the binds given account for. -/
def WrittenBy (binds : ℕ → FwdBind → Prop) (key : GlbBind)
    (tableIndex : UInt32) : Prop :=
  ∃ t bind, binds t bind ∧ BindKey bind key ∧ tableIndex = UInt32.ofNat t

theorem writtenBy_or_iff {binds : ℕ → FwdBind → Prop} {t : ℕ}
    {bind : FwdBind} {key : GlbBind} {tableIndex : UInt32} :
    WrittenBy (fun t' bind' => binds t' bind' ∨ t' = t ∧ bind' = bind) key
        tableIndex ↔
      WrittenBy binds key tableIndex ∨
        BindKey bind key ∧ tableIndex = UInt32.ofNat t := by
  constructor
  · rintro ⟨t', bind', hheld | ⟨rfl, rfl⟩, hkey, hindex⟩
    · exact .inl ⟨t', bind', hheld, hkey, hindex⟩
    · exact .inr ⟨hkey, hindex⟩
  · rintro (⟨t', bind', hheld, hkey, hindex⟩ | ⟨hkey, hindex⟩)
    · exact ⟨t', bind', .inl hheld, hkey, hindex⟩
    · exact ⟨t, bind, .inr ⟨rfl, rfl⟩, hkey, hindex⟩

theorem writtenBy_congr {binds binds' : ℕ → FwdBind → Prop}
    (hsame : ∀ t bind, binds t bind ↔ binds' t bind) (key : GlbBind)
    (tableIndex : UInt32) :
    WrittenBy binds key tableIndex ↔ WrittenBy binds' key tableIndex := by
  simp only [WrittenBy, hsame]

theorem foldlM_loadBind_holds {raw : Bytes} {t : ℕ} {numBinds : UInt32}
    {state state' : List (GlbBind × UInt32) × ℕ}
    (hnumBinds : tableNumBinds raw t = some numBinds)
    (hholds : Holds (lookupBind state.1) (WrittenBy (BindsUpTo raw t 0)))
    (hrun : (List.range numBinds.toNat).foldlM (loadBind raw t) state =
      .ok state') :
    Holds (lookupBind state'.1) (WrittenBy (BindsUpTo raw (t + 1) 0)) := by
  have hlast := foldlM_range_invariant
    (fun b (state : List (GlbBind × UInt32) × ℕ) =>
      Holds (lookupBind state.1) (WrittenBy (BindsUpTo raw t b)))
    hholds ?_ hrun
  · exact hlast.congr (writtenBy_congr fun t' bind =>
      bindsUpTo_table_iff hnumBinds)
  · intro b state state' _ hheld hstep
    obtain ⟨bind, hbind, hwrites⟩ := loadBind_writes hstep
    refine (hheld.writes hwrites).congr fun key tableIndex => ?_
    rw [← writtenBy_or_iff]
    exact writtenBy_congr (fun t' bind' =>
      (bindsUpTo_succ_iff hbind).symm) key tableIndex

theorem loadTable_holds {raw : Bytes} {state state' : XdpMaps × ℕ} {t : ℕ}
    (hholds : Holds (lookupBind state.1.glbBinds)
      (WrittenBy (BindsUpTo raw t 0)))
    (hload : loadTable raw state t = .ok state') :
    t < glbTablesMaxEntries ∧ Holds (lookupBind state'.1.glbBinds)
      (WrittenBy (BindsUpTo raw (t + 1) 0)) := by
  simp only [loadTable, bind_eq_ok_iff] at hload
  obtain ⟨rows, _, hload⟩ := hload
  split at hload
  · cases hload
  · rename_i hsmall
    simp only [bind_eq_ok_iff, orLoadError_eq_ok_iff] at hload
    obtain ⟨_, _, numBinds, hnumBinds, ⟨binds, left⟩, hrun, hload⟩ := hload
    obtain rfl := Except.ok.inj hload
    exact ⟨not_le.mp hsmall, foldlM_loadBind_holds hnumBinds hholds hrun⟩

theorem holds_bindsUpTo_zero (raw : Bytes) :
    Holds (lookupBind []) (WrittenBy (BindsUpTo raw 0 0)) where
  sound key tableIndex hfound := nomatch hfound
  complete key tableIndex hwritten := by
    obtain ⟨t, bind, hheld, _⟩ := hwritten
    exact absurd hheld (bindsUpTo_zero raw t bind)

/-- The entries of `glb_binds` after a load into fresh maps. -/
theorem reloadForwardingTable_binds {raw : Bytes} {start maps : XdpMaps}
    (hfresh : start.glbBinds = [])
    (hload : reloadForwardingTable raw start = .ok maps) :
    checkConfig raw = some (.ok ()) ∧
      (∀ t bind, FileHasBind raw t bind → t < glbTablesMaxEntries) ∧
      Holds (lookupBind maps.glbBinds) (WrittenBy (FileHasBind raw)) := by
  unfold reloadForwardingTable at hload
  split at hload
  · cases hload
  · rename_i hcheck
    simp only [bind_eq_ok_iff, orLoadError_eq_ok_iff] at hload
    obtain ⟨num, hnum, state, hrun, hmaps⟩ := hload
    obtain rfl := Except.ok.inj hmaps
    have hempty : Holds (lookupBind start.glbBinds)
        (WrittenBy (BindsUpTo raw 0 0)) := by
      rw [hfresh]
      exact holds_bindsUpTo_zero raw
    obtain ⟨hsmall, hholds⟩ := foldlM_range_invariant
      (fun t (state : XdpMaps × ℕ) => t ≤ glbTablesMaxEntries ∧
        Holds (lookupBind state.1.glbBinds)
          (WrittenBy (BindsUpTo raw t 0)))
      ⟨Nat.zero_le _, hempty⟩
      (fun t state state' _ hheld hstep => loadTable_holds hheld.2 hstep)
      hrun
    refine ⟨not_not.mp hcheck, ?_, hholds.congr (writtenBy_congr
      fun t bind => bindsUpTo_file_iff hnum)⟩
    rintro t bind ⟨⟨num', hnum', ht⟩, _⟩
    obtain rfl := Option.some.inj (hnum'.symm.trans hnum)
    exact ht.trans_le hsmall

theorem isSome_lookupBind_iff {raw : Bytes} {maps : XdpMaps}
    (hholds : Holds (lookupBind maps.glbBinds)
      (WrittenBy (FileHasBind raw))) (key : GlbBind) :
    (lookupBind maps.glbBinds key).isSome ↔
      SomeBind raw fun bind => BindKey bind key := by
  rw [hholds.isSome_iff]
  constructor
  · rintro ⟨_, t, bind, hbind, hkey, _⟩
    exact ⟨t, bind, hbind, hkey⟩
  · rintro ⟨t, bind, hbind, hkey⟩
    exact ⟨_, t, bind, hbind, hkey, rfl⟩

/-! ## Binds that name one address -/

def SingleAddress (bind : FwdBind) : Prop :=
  bind.family = familyIpv4 ∧ bind.ipBits = 32 ∨
    bind.family = familyIpv6 ∧ bind.ipBits = 128

def bindAddr (bind : FwdBind) : Bytes :=
  fieldBytes 0 (bindFamily bind).addrSize bind.ipv6Addr

def ZeroAddress (bind : FwdBind) : Prop :=
  bindAddr bind = List.replicate (bindFamily bind).addrSize 0

instance (bind : FwdBind) : Decidable (ZeroAddress bind) :=
  inferInstanceAs (Decidable (_ = _))

/-- The two address fields of a key of `glb_binds`. -/
def keyAddr : IpFamily → Bytes → UInt32 × Bytes
  | .ipv4, addr => (wordU32 addr, List.replicate 16 0)
  | .ipv6, addr => (0, addr)

theorem SingleAddress.bindFamily_cases {bind : FwdBind}
    (hsingle : SingleAddress bind) :
    bindFamily bind = .ipv4 ∧ bind.family = familyIpv4 ∧
        bind.ipBits = 32 ∨
      bindFamily bind = .ipv6 ∧ bind.family = familyIpv6 ∧
        bind.ipBits = 128 := by
  rcases hsingle with ⟨hfamily, hbits⟩ | ⟨hfamily, hbits⟩
  · exact .inl ⟨if_pos hfamily, hfamily, hbits⟩
  · refine .inr ⟨if_neg ?_, hfamily, hbits⟩
    rw [hfamily]
    decide

theorem SingleAddress.keyAddr_eq {bind : FwdBind}
    (hsingle : SingleAddress bind) (hlength : bind.ipv6Addr.length = 16) :
    (getBindIpv4 bind, getBindIpv6 bind) =
      keyAddr (bindFamily bind) (bindAddr bind) := by
  rcases hsingle.bindFamily_cases with ⟨hipv4, hfamily, _⟩ |
    ⟨hipv6, hfamily, _⟩
  · rw [bindAddr, hipv4, getBindIpv4, getBindIpv6, hfamily, if_pos rfl,
      if_neg (by decide)]
    rfl
  · rw [bindAddr, hipv6, getBindIpv4, getBindIpv6, hfamily, if_pos rfl,
      if_neg (by decide), keyAddr, fieldBytes, List.drop_zero,
      List.take_of_length_le (by rw [hlength]; exact le_refl _)]

theorem keyAddr_packetBind (family : IpFamily) (packet : Bytes) :
    ((packetBind (family.parsedFields packet)).ipv4,
        (packetBind (family.parsedFields packet)).ipv6) =
      keyAddr family (family.parsedTuple packet).dstAddr := by
  cases family with
  | ipv4 => rfl
  | ipv6 => rfl

theorem wordU32_inj {bytes bytes' : Bytes} (hlength : bytes.length = 4)
    (hlength' : bytes'.length = 4) (hword : wordU32 bytes = wordU32 bytes') :
    bytes = bytes' := by
  rw [← u32le_wordU32 hlength, hword, u32le_wordU32 hlength']

theorem keyAddr_inj {family family' : IpFamily} {addr addr' : Bytes}
    (hlength : addr.length = family.addrSize)
    (hlength' : addr'.length = family'.addrSize)
    (hzero : addr ≠ List.replicate family.addrSize 0) :
    keyAddr family addr = keyAddr family' addr' ↔
      family = family' ∧ addr = addr' := by
  constructor
  · intro hkey
    cases family with
    | ipv4 =>
        cases family' with
        | ipv4 =>
            exact ⟨rfl, wordU32_inj hlength hlength' (Prod.mk.inj hkey).1⟩
        | ipv6 =>
            have hword : wordU32 addr = wordU32 (List.replicate 4 0) :=
              (Prod.mk.inj hkey).1
            exact absurd (wordU32_inj hlength rfl hword) hzero
    | ipv6 =>
        cases family' with
        | ipv4 => exact absurd (Prod.mk.inj hkey).2 hzero
        | ipv6 => exact ⟨rfl, (Prod.mk.inj hkey).2⟩
  · rintro ⟨rfl, rfl⟩
    rfl

theorem bindAddr_length {bind : FwdBind}
    (hlength : bind.ipv6Addr.length = 16) :
    (bindAddr bind).length = (bindFamily bind).addrSize := by
  rw [bindAddr]
  refine fieldBytes_length rfl ?_
  rw [hlength]
  cases bindFamily bind <;> decide

theorem SingleAddress.cidr_eq {bind : FwdBind}
    (hsingle : SingleAddress bind) {family : IpFamily}
    (hfamily : bindFamily bind = family) (word : Fin family.words) :
    family.cidr bind word = .cidr (bindWord bind word) 32 := by
  rcases hsingle.bindFamily_cases with ⟨hipv4, _, hbits⟩ | ⟨hipv6, _, hbits⟩
  · obtain rfl : family = .ipv4 := hfamily.symm.trans hipv4
    show FieldSpec.cidr _ bind.ipBits.toNat = _
    rw [hbits]
    rfl
  · obtain rfl : family = .ipv6 := hfamily.symm.trans hipv6
    have hfull : ipv6CidrOffset 128 word = 32 := by
      have hlt : word.val < 4 := word.isLt
      exact if_pos (by omega)
    show FieldSpec.cidr _ (ipv6CidrOffset bind.ipBits.toNat word) = _
    rw [hbits]
    exact congrArg _ hfull

/-- A rule for one address asks for that address. -/
theorem SingleAddress.addrInBind_iff {bind : FwdBind}
    (hsingle : SingleAddress bind) (hlength : bind.ipv6Addr.length = 16)
    {family : IpFamily} (hfamily : bindFamily bind = family)
    {buffer : Bytes} {offset : ℕ}
    (hfits : offset + family.addrSize ≤ buffer.length) :
    AddrInBind family bind buffer offset ↔
      fieldBytes offset family.addrSize buffer = bindAddr bind := by
  have hword : ∀ word : Fin family.words,
      (family.cidr bind word).Accepts 4
          (beNat (fieldBytes (offset + 4 * word) 4 buffer)) ↔
        fieldBytes (offset + 4 * word) 4 buffer =
          fieldBytes (0 + 4 * word) 4 bind.ipv6Addr := by
    intro word
    have hinside : 4 * word.val + 4 ≤ family.addrSize := by
      rw [← family.words_addrSize]
      omega
    have hsize : family.addrSize ≤ 16 := by
      cases family <;> decide
    rw [hsingle.cidr_eq hfamily, accepts_cidr_all (le_refl _), bindWord,
      Nat.zero_add]
    apply beNat_inj
    rw [fieldBytes_length rfl (by omega), fieldBytes_length hlength (by omega)]
  rw [bindAddr, hfamily, ← family.words_addrSize, ← fieldBytes_words_iff]
  exact forall_congr' hword

/-! ## Ports -/

theorem htons_eq_iff {port field : UInt16} :
    htons port = field ↔ port = ntohs field := by
  constructor
  · rintro rfl
    exact (ntohs_ntohs port).symm
  · rintro rfl
    exact ntohs_ntohs field

theorem portAt_eq {offset : ℕ} {packet : Bytes}
    (hfits : offset + 2 ≤ packet.length) :
    portAt offset packet = (ntohs (fieldU16 offset packet)).toNat := by
  have hlength : (fieldBytes offset 2 packet).length = 2 :=
    fieldBytes_length rfl hfits
  have hfield : u16le (fieldU16 offset packet) =
      fieldBytes offset 2 packet := u16le_wordU16 hlength
  have hlt := beNat_lt (fieldBytes offset 2 packet)
  rw [hlength] at hlt
  rw [ntohs, hfield, wordU16]
  exact (UInt16.toNat_ofNat_of_lt' hlt).symm

/-! ## Reads inside the packet -/

section Buffer

variable {packet : Bytes} (trailing : Bytes) {offset len : ℕ}

theorem fieldBytes_buffer (hfits : offset + len ≤ packet.length) :
    fieldBytes offset len (packet ++ trailing) =
      fieldBytes offset len packet := by
  rw [fieldBytes, fieldBytes, List.drop_append_of_le_length (by omega),
    List.take_append_of_le_length]
  rw [List.length_drop]
  omega

theorem fieldU8_buffer (hfits : offset < packet.length) :
    fieldU8 offset (packet ++ trailing) = fieldU8 offset packet := by
  rw [fieldU8, fieldU8, List.getD_eq_getElem?_getD,
    List.getD_eq_getElem?_getD, List.getElem?_append_left hfits]

theorem fieldU16_buffer (hfits : offset + 2 ≤ packet.length) :
    fieldU16 offset (packet ++ trailing) = fieldU16 offset packet :=
  congrArg wordU16 (fieldBytes_buffer trailing hfits)

theorem portAt_buffer (hfits : offset + 2 ≤ packet.length) :
    portAt offset (packet ++ trailing) =
      (ntohs (fieldU16 offset packet)).toNat := by
  rw [portAt, fieldBytes_buffer trailing hfits]
  exact portAt_eq hfits

end Buffer

theorem IpFamily.header_offsets (family : IpFamily) :
    family.dstOffset + family.addrSize ≤ family.hdrSize ∧
      family.srcOffset + family.addrSize ≤ family.hdrSize ∧
      family.protoOffset < family.hdrSize := by
  cases family <;> decide

section Header

variable {family : IpFamily} {packet : Bytes}
  (hheader : family.l4Offset + 4 ≤ packet.length) (trailing : Bytes)

include hheader

theorem etherType_buffer :
    fieldU16 12 (packet ++ trailing) = fieldU16 12 packet := by
  rw [IpFamily.l4Offset, ethernetHdrSize] at hheader
  exact fieldU16_buffer trailing (by omega)

theorem proto_buffer :
    fieldU8 (ethernetHdrSize + family.protoOffset) (packet ++ trailing) =
      fieldU8 (ethernetHdrSize + family.protoOffset) packet := by
  have hoffsets := family.header_offsets
  rw [IpFamily.l4Offset] at hheader
  exact fieldU8_buffer trailing (by omega)

theorem dst_inside :
    ethernetHdrSize + family.dstOffset + family.addrSize ≤
      packet.length := by
  have hoffsets := family.header_offsets
  rw [IpFamily.l4Offset] at hheader
  omega

theorem dst_buffer :
    fieldBytes (ethernetHdrSize + family.dstOffset) family.addrSize
        (packet ++ trailing) =
      fieldBytes (ethernetHdrSize + family.dstOffset) family.addrSize
        packet :=
  fieldBytes_buffer trailing (dst_inside hheader)

/-- The first two words behind the IP header. -/
theorem l4_buffer :
    portAt family.l4Offset (packet ++ trailing) =
        portAt family.l4Offset packet ∧
      portAt (family.l4Offset + 2) (packet ++ trailing) =
        portAt (family.l4Offset + 2) packet := by
  constructor
  · exact congrArg beNat (fieldBytes_buffer trailing (by omega))
  · exact congrArg beNat (fieldBytes_buffer trailing (by omega))

end Header

/-! ## Packets that a bind's keys find -/

theorem getBindIcmpProto_eq (bind : FwdBind) :
    getBindIcmpProto bind = (bindFamily bind).icmpProto.toUInt16 := by
  unfold getBindIcmpProto bindFamily
  split
  · rfl
  · rfl

section Keys

variable {family : IpFamily} {packet : Bytes} {bind : FwdBind}
variable (hsingle : SingleAddress bind) (hlength : bind.ipv6Addr.length = 16)

include hsingle hlength

theorem packetBind_eq_iff {proto : UInt8} {port : UInt16} :
    packetBind (family.parsedFields packet) =
        { ipv4 := getBindIpv4 bind, ipv6 := getBindIpv6 bind
          proto := proto.toUInt16, port } ↔
      keyAddr (bindFamily bind) (bindAddr bind) =
          keyAddr family (family.parsedTuple packet).dstAddr ∧
        proto = family.parsedProto packet ∧
        port = (family.parsedTuple packet).dstPort := by
  rw [← hsingle.keyAddr_eq hlength, ← keyAddr_packetBind, Prod.mk.injEq,
    ← UInt8.toUInt16_inj]
  constructor
  · intro hkey
    rw [hkey]
    exact ⟨⟨rfl, rfl⟩, (congrArg GlbBind.proto hkey).symm,
      (congrArg GlbBind.port hkey).symm⟩
  · rintro ⟨⟨hipv4, hipv6⟩, hproto, hport⟩
    rw [hipv4, hipv6, hproto, hport]
    rfl

/-- The keys of a bind find a packet to its address, with its protocol and
one of its ports, or with the ICMP protocol and no port. -/
theorem bindKey_packetBind_iff :
    BindKey bind (packetBind (family.parsedFields packet)) ↔
      keyAddr (bindFamily bind) (bindAddr bind) =
          keyAddr family (family.parsedTuple packet).dstAddr ∧
        (bind.proto = family.parsedProto packet ∧
            PortInBind bind
              (ntohs (family.parsedTuple packet).dstPort).toNat ∨
          (bindFamily bind).icmpProto = family.parsedProto packet ∧
            (family.parsedTuple packet).dstPort = 0) := by
  have hports : PortKeyFrom bind bind.portStart
        (packetBind (family.parsedFields packet)) ↔
      keyAddr (bindFamily bind) (bindAddr bind) =
          keyAddr family (family.parsedTuple packet).dstAddr ∧
        bind.proto = family.parsedProto packet ∧
        PortInBind bind
          (ntohs (family.parsedTuple packet).dstPort).toNat := by
    constructor
    · rintro ⟨port, hstart, hend, hkey⟩
      obtain ⟨haddr, hproto, hport⟩ :=
        (packetBind_eq_iff hsingle hlength).mp hkey
      rw [htons_eq_iff] at hport
      rw [← hport]
      exact ⟨haddr, hproto, UInt16.le_iff_toNat_le.mp hstart,
        UInt16.le_iff_toNat_le.mp hend⟩
    · rintro ⟨haddr, hproto, hstart, hend⟩
      refine ⟨_, UInt16.le_iff_toNat_le.mpr hstart,
        UInt16.le_iff_toNat_le.mpr hend, ?_⟩
      exact (packetBind_eq_iff hsingle hlength).mpr
        ⟨haddr, hproto, htons_eq_iff.mpr rfl⟩
  have hicmp : packetBind (family.parsedFields packet) = icmpKey bind ↔
      keyAddr (bindFamily bind) (bindAddr bind) =
          keyAddr family (family.parsedTuple packet).dstAddr ∧
        (bindFamily bind).icmpProto = family.parsedProto packet ∧
        (family.parsedTuple packet).dstPort = 0 := by
    rw [icmpKey, getBindIcmpProto_eq, packetBind_eq_iff hsingle hlength,
      @eq_comm _ 0]
  rw [BindKey, hports, hicmp, ← and_or_left]

end Keys

/-! ## Plain packets -/

theorem PlainPacket.not_icmpProto {family : IpFamily} {packet : Bytes}
    (hplain : PlainPacket family packet) (family' : IpFamily) :
    family'.icmpProto ≠
      fieldU8 (ethernetHdrSize + family.protoOffset) packet := by
  rcases hplain.htransport.hproto with hproto | hproto
  · rw [hproto]
    cases family' <;> decide
  · rw [hproto]
    cases family' <;> decide

theorem PlainPacket.header_inside {family : IpFamily} {packet : Bytes}
    (hplain : PlainPacket family packet) :
    family.l4Offset + 4 ≤ packet.length :=
  hplain.htransport.hports

theorem PlainPacket.hether_buffer {family : IpFamily} {packet : Bytes}
    (hplain : PlainPacket family packet) (trailing : Bytes) :
    ntohs (fieldU16 12 (packet ++ trailing)) = family.etherType := by
  rw [etherType_buffer hplain.header_inside trailing]
  exact hplain.hether

theorem PlainPacket.dstPort_buffer {family : IpFamily} {packet : Bytes}
    (hplain : PlainPacket family packet) (trailing : Bytes) :
    portAt (family.l4Offset + 2) (packet ++ trailing) =
      (ntohs (headerTuple family packet ethernetHdrSize).dstPort).toNat := by
  have hheader := hplain.header_inside
  rw [(l4_buffer hheader trailing).2]
  exact portAt_eq (by omega)

/-- The keys and the rules of a bind find the same plain packets. -/
theorem PlainPacket.bindKey_iff {family : IpFamily} {packet : Bytes}
    (hplain : PlainPacket family packet) {bind : FwdBind}
    (hsingle : SingleAddress bind) (hzero : ¬ ZeroAddress bind)
    (hlength : bind.ipv6Addr.length = 16) (forward : Bool)
    (trailing : Bytes) :
    BindKey bind (packetBind (family.parsedFields packet)) ↔
      bindFamily bind = family ∧
        BindMatch family bind (packet ++ trailing) forward := by
  obtain ⟨_, htuple, hproto, _⟩ :=
    parsedFields_of_plain hplain.htransport.not_icmp
  have hheader := hplain.header_inside
  have hinside := dst_inside hheader
  have hdst : ((headerTuple family packet ethernetHdrSize).dstAddr).length =
      family.addrSize := fieldBytes_length rfl hinside
  have hdstBytes : fieldBytes (ethernetHdrSize + family.dstOffset)
      family.addrSize (packet ++ trailing) =
        (headerTuple family packet ethernetHdrSize).dstAddr :=
    dst_buffer hheader trailing
  rw [bindKey_packetBind_iff hsingle hlength, htuple, hproto,
    keyAddr_inj (bindAddr_length hlength) hdst hzero, and_assoc]
  refine and_congr_right fun hfamily => ?_
  have haddr := hsingle.addrInBind_iff hlength hfamily
    (show ethernetHdrSize + family.dstOffset + family.addrSize ≤
      (packet ++ trailing).length by rw [List.length_append]; omega)
  unfold BindMatch TypicalMatch FragmentationMatch EchoMatch
  rw [proto_buffer hheader, hplain.dstPort_buffer, haddr, hdstBytes]
  constructor
  · rintro ⟨hsame, ⟨hproto, hin⟩ | ⟨hproto, _⟩⟩
    · exact .inl ⟨hproto.symm, hsame.symm, hin⟩
    · exact absurd hproto (hplain.not_icmpProto _)
  · rintro (⟨hproto, hsame, hin⟩ | ⟨hproto, _⟩ | ⟨_, hproto, _⟩)
    · exact ⟨hsame.symm, .inl ⟨hproto.symm, hin⟩⟩
    · exact absurd hproto.symm (hplain.not_icmpProto family)
    · exact absurd hproto.symm (hplain.not_icmpProto family)

theorem classifiedTable_userdata {t : ℕ} (ht : t < glbTablesMaxEntries) :
    classifiedTable (classifiedBitmask ||| UInt32.ofNat t) =
      UInt32.ofNat t := by
  have hlt : t < 2 ^ 20 := ht.trans (by decide)
  have hadd : classifiedBitmask ||| UInt32.ofNat t =
      classifiedBitmask + UInt32.ofNat t := by
    apply UInt32.toNat_inj.mp
    have hid : (UInt32.ofNat t).toNat = t :=
      UInt32.toNat_ofNat_of_lt' (hlt.trans (by decide))
    have hor : 2 ^ 20 * 1 + t = 2 ^ 20 * 1 ||| t :=
      Nat.two_pow_add_eq_or_of_lt hlt 1
    rw [UInt32.toNat_or, UInt32.toNat_add, hid]
    show 2 ^ 20 * 1 ||| t = (2 ^ 20 * 1 + t) % 2 ^ 32
    rw [← hor, Nat.mod_eq_of_lt (by omega)]
  rw [classifiedTable, hadd, UInt32.add_comm, UInt32.add_sub_cancel]

/-- A plain packet is in `glb_binds` exactly when a rule of the DPDK
director matches it, and the table found is one of the tables of the rules
that match. -/
theorem plain_bind_matching {config : XdpConfig} {raw : Bytes}
    {maps : XdpMaps}
    (hload : reloadForwardingTable raw (syncConfigMap config freshMaps) =
      .ok maps)
    (hsingle : ∀ t bind, FileHasBind raw t bind →
      SingleAddress bind ∧ ¬ ZeroAddress bind)
    (forward : Bool) {family : IpFamily} {packet : Bytes}
    (hplain : PlainPacket family packet) (trailing : Bytes) :
    ∃ rules fields, createBindClassifier forward raw = some rules ∧
      glbExtractPacketFields .xdp packet = some fields ∧
      ((lookupBind maps.glbBinds (packetBind fields)).isSome ↔
        classifyToTables rules (packet ++ trailing) ≠ []) ∧
      ∀ id, lookupBind maps.glbBinds (packetBind fields) = some id →
        id ∈ (classifyToTables rules (packet ++ trailing)).map
          classifiedTable := by
  obtain ⟨hcheck, hsmall, hholds⟩ := reloadForwardingTable_binds rfl hload
  obtain ⟨rules, hrules, hclassify⟩ := exists_classifier forward hcheck
  have hparsed := (FlowPacket.plain hplain).parsed .xdp
  have hether := hplain.hether_buffer trailing
  have hbind : ∀ t bind, FileHasBind raw t bind →
      (BindKey bind (packetBind (family.parsedFields packet)) ↔
        bindFamily bind = family ∧
          BindMatch family bind (packet ++ trailing) forward) := by
    intro t bind hheld
    obtain ⟨hone, hzero⟩ := hsingle t bind hheld
    exact hplain.bindKey_iff hone hzero hheld.addr_length forward trailing
  refine ⟨rules, _, hrules, hparsed.1, ?_, ?_⟩
  · rw [hclassify.ne_nil_iff hether, ← someBind_congr hbind]
    exact isSome_lookupBind_iff hholds _
  · intro id hfound
    obtain ⟨t, bind, hheld, hkey, rfl⟩ := hholds.sound _ _ hfound
    refine List.mem_map.mpr
      ⟨_, (hclassify family (packet ++ trailing) hether _).mpr
        ⟨t, bind, hheld, (hbind t bind hheld).mp hkey, rfl⟩, ?_⟩
    exact classifiedTable_userdata (hsmall t bind hheld)

theorem fileHasBind_builtFile {garbage : StackGarbage} {sort : BackendSort}
    {inputs : List TableInput} {t : ℕ} {bind : FwdBind}
    (hcount : inputs.length ≤ glbTablesMaxEntries)
    (hlimits : ∀ input ∈ inputs, input.InLimits)
    (hheld : FileHasBind (builtFile garbage sort inputs) t bind) :
    ∃ input, inputs[t]? = some input ∧
      ∃ loaded ∈ input.binds.used, bind = loaded.entry.view := by
  obtain ⟨⟨num, hnum, ht⟩, numBinds, b, hnumBinds, hb, hbind⟩ := hheld
  have hsmall : inputs.length < 2 ^ 32 := lt_of_le_of_lt hcount (by decide)
  obtain rfl := Option.some.inj
    ((numTables_configFile _ _).symm.trans hnum)
  rw [UInt32.toNat_ofNat_of_lt' hsmall] at ht
  have hinput := List.getElem?_eq_getElem ht
  rw [tableNumBinds_builtFile hinput] at hnumBinds
  obtain rfl := Option.some.inj hnumBinds
  rw [← binds_used_length (hlimits _ (List.getElem_mem ht))] at hb
  rw [tableBind_builtFile hinput (List.getElem?_eq_getElem hb)] at hbind
  exact ⟨_, hinput, _, List.getElem_mem hb, (Option.some.inj hbind).symm⟩

/-- The bind 1.1.1.1:80 of the sample configurations, as the loader sees it. -/
def sampleFwdBind : FwdBind where
  family := familyIpv4
  ipv6Addr := [1, 1, 1, 1, 0, 0, 0, 0, 0, 0, 0, 0, 0, 0, 0, 0]
  ipBits := 32
  portStart := 80
  portEnd := 80
  proto := ipProtoTcp
  reserved := 0

def threeFile : Bytes :=
  builtFile zeroGarbage mergeSortByHash [sampleInput threeSlots]

theorem threeFile_binds {t : ℕ} {bind : FwdBind}
    (hheld : FileHasBind threeFile t bind) :
    t = 0 ∧ bind = sampleFwdBind := by
  have hlimits : ∀ input ∈ [sampleInput threeSlots], input.InLimits := by
    intro input hmem
    rw [List.mem_singleton.mp hmem]
    exact ⟨by decide, by decide⟩
  obtain ⟨input, hinput, loaded, hloaded, rfl⟩ :=
    fileHasBind_builtFile (by decide) hlimits hheld
  obtain ⟨rfl, rfl⟩ : t = 0 ∧ input = sampleInput threeSlots := by
    cases t with
    | zero => exact ⟨rfl, (Option.some.inj hinput).symm⟩
    | succ t => cases hinput
  rw [List.mem_singleton.mp hloaded]
  exact ⟨rfl, by decide⟩

theorem plain_bind_matching_threeFile :
    ∃ maps rules fields,
      reloadForwardingTable threeFile (syncConfigMap migratingXdp
        freshMaps) = .ok maps ∧
      createBindClassifier true threeFile = some rules ∧
      glbExtractPacketFields .xdp samplePacket = some fields ∧
      ((lookupBind maps.glbBinds (packetBind fields)).isSome ↔
        classifyToTables rules (samplePacket ++ [0, 0]) ≠ []) := by
  obtain ⟨maps, hload⟩ := threeRoot_loads
  have hsingle : ∀ t bind, FileHasBind threeFile t bind →
      SingleAddress bind ∧ ¬ ZeroAddress bind := by
    intro t bind hheld
    rw [(threeFile_binds hheld).2]
    exact ⟨.inl ⟨rfl, rfl⟩, by decide⟩
  obtain ⟨rules, fields, hrules, hfields, hfound, _⟩ :=
    plain_bind_matching hload hsingle true samplePacket_plain [0, 0]
  exact ⟨maps, rules, fields, hload, hrules, hfields, hfound⟩

end GlbDirector
