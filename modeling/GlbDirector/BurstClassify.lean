import GlbDirector.TypicalRules

/-!
# Classifying a burst (`classify_to_tables`)

The packets of a burst are sorted into one array for each family, with 8-bit
counters and an 8-bit map back to the position in the burst; `rte_acl` works on
the arrays, and its results are written back through the map.  What each
array holds after a prefix of the burst is an invariant of the first loop, and
it makes the second loop write to every packet what the packet alone would get.
-/

namespace GlbDirector

open ByteCodec AclMatch ExceptLoops

/-! ## `rte_acl_classify` -/

/-- The library as the code uses it: when a call returns 0, each result belongs
to the data at its own index, and is the user data of a matching rule. -/
structure RteAcl {Field : Type} (defs : Field → FieldDef) where
  classify : List (Rule Field) → (ℕ → Bytes) → ℕ → ℤ × (ℕ → UInt32)
  result : List (Rule Field) → Bytes → UInt32
  classify_ok : ∀ rules data num, (classify rules data num).1 = 0 →
    ∀ j < num, (classify rules data num).2 j = result rules (data j)
  result_spec : ∀ rules data,
    (∃ rule ∈ rules, rule.Matches defs data ∧
        result rules data = rule.userdata) ∨
      (∀ rule ∈ rules, ¬ rule.Matches defs data) ∧ result rules data = 0

/-! ## `classify_to_tables` -/

/-- `pkts_data`, `pkts_remap` and the counter of one family. -/
structure FamilyBurst where
  pktsData : ℕ → Bytes
  pktsRemap : ℕ → UInt8
  num : UInt8

def FamilyBurst.push (burst : FamilyBurst) (data : Bytes) (i : UInt8) :
    FamilyBurst where
  pktsData := Function.update burst.pktsData burst.num.toNat data
  pktsRemap := Function.update burst.pktsRemap burst.num.toNat i
  num := burst.num + 1

structure SortedBurst where
  v4 : FamilyBurst
  v6 : FamilyBurst
  classifications : ℕ → UInt32

def SortedBurst.of (sorted : SortedBurst) : IpFamily → FamilyBurst
  | .ipv4 => sorted.v4
  | .ipv6 => sorted.v6

/-- The body of the loop over the packets. -/
def sortPacket (pktsBurst : List Bytes) (i : UInt8) (sorted : SortedBurst) :
    SortedBurst :=
  let pkt := pktsBurst.getD i.toNat []
  let etherType := ntohs (fieldU16 12 pkt)
  let sorted :=
    if etherType = etherTypeIpv4 then
      { sorted with
        v4 := sorted.v4.push (pkt.drop (ethernetHdrSize + 9)) i }
    else if etherType = etherTypeIpv6 then
      { sorted with
        v6 := sorted.v6.push (pkt.drop (ethernetHdrSize + 6)) i }
    else sorted
  { sorted with
    classifications := Function.update sorted.classifications i.toNat 0 }

/-- The results of one family, written back. -/
def gatherResult (burst : FamilyBurst) (results : ℕ → UInt32) (i : UInt8)
    (classifications : ℕ → UInt32) : ℕ → UInt32 :=
  Function.update classifications (burst.pktsRemap i.toNat).toNat
    (results i.toNat)

section Classify

variable (acl : (family : IpFamily) → RteAcl family.defs)
variable (classifier : (family : IpFamily) →
  Option (List (Rule (AclField family.words))))
variable (fuel : ℕ)

def classifyFamily (family : IpFamily) (burst : FamilyBurst)
    (classifications : ℕ → UInt32) : Option (ℤ × (ℕ → UInt32)) :=
  if burst.num > 0 then
    match classifier family with
    | none => some (0, classifications)
    | some rules =>
        let (ret, results) :=
          (acl family).classify rules burst.pktsData burst.num.toNat
        if ret ≠ 0 then some (ret, classifications)
        else (byteLoop burst.num.toNat (gatherResult burst results) fuel 0
          classifications).map fun classifications => (0, classifications)
  else some (0, classifications)

/-- `classify_to_tables` with the stack arrays as they are found; the results
are a return value and the contents of `classifications`. -/
def classifyBurst (stack : SortedBurst) (pktsBurst : List Bytes) :
    Option (ℤ × (ℕ → UInt32)) := do
  let start : SortedBurst :=
    { stack with v4 := { stack.v4 with num := 0 },
                 v6 := { stack.v6 with num := 0 } }
  let sorted ← byteLoop pktsBurst.length (sortPacket pktsBurst) fuel 0 start
  let (ret, classifications) ←
    classifyFamily acl classifier fuel .ipv4 sorted.v4 sorted.classifications
  if ret ≠ 0 then return (ret, classifications)
  classifyFamily acl classifier fuel .ipv6 sorted.v6 classifications

/-- What the rules of a family give a packet; 0 without a classifier. -/
def familyResult (family : IpFamily) (pkt : Bytes) : UInt32 :=
  match classifier family with
  | none => 0
  | some rules => (acl family).result rules (family.aclData pkt)

/-- The classification of a packet by itself. -/
def classifyPacket (pkt : Bytes) : UInt32 :=
  let etherType := ntohs (fieldU16 12 pkt)
  if etherType = etherTypeIpv4 then familyResult acl classifier .ipv4 pkt
  else if etherType = etherTypeIpv6 then familyResult acl classifier .ipv6 pkt
  else 0

end Classify

/-! ## What the first loop leaves in the arrays -/

/-- Packet `i` of the burst belongs to the family. -/
def IsFamily (pktsBurst : List Bytes) (family : IpFamily) (i : ℕ) : Prop :=
  ntohs (fieldU16 12 (pktsBurst.getD i [])) = family.etherType

instance (pktsBurst : List Bytes) (family : IpFamily) (i : ℕ) :
    Decidable (IsFamily pktsBurst family i) :=
  inferInstanceAs (Decidable (_ = _))

/-- The array of a family after the first `k` packets. -/
structure Sorted (pktsBurst : List Bytes) (family : IpFamily) (k : ℕ)
    (burst : FamilyBurst) : Prop where
  hnum : burst.num.toNat ≤ k
  hsound : ∀ j < burst.num.toNat, (burst.pktsRemap j).toNat < k ∧
    IsFamily pktsBurst family (burst.pktsRemap j).toNat ∧
    burst.pktsData j =
      family.aclData (pktsBurst.getD (burst.pktsRemap j).toNat [])
  hcomplete : ∀ i < k, IsFamily pktsBurst family i →
    ∃ j < burst.num.toNat, (burst.pktsRemap j).toNat = i

section Sorting

variable {pktsBurst : List Bytes} {family : IpFamily} {k : ℕ}
variable {burst : FamilyBurst}

theorem Sorted.skip (hsorted : Sorted pktsBurst family k burst)
    (hother : ¬ IsFamily pktsBurst family k) :
    Sorted pktsBurst family (k + 1) burst where
  hnum := Nat.le_succ_of_le hsorted.hnum
  hsound := by
    intro j hj
    obtain ⟨hlt, hfamily, hdata⟩ := hsorted.hsound j hj
    exact ⟨Nat.lt_succ_of_lt hlt, hfamily, hdata⟩
  hcomplete := by
    intro i hi hfamily
    rcases Nat.lt_succ_iff_lt_or_eq.mp hi with hlt | rfl
    · exact hsorted.hcomplete i hlt hfamily
    · exact absurd hfamily hother

theorem Sorted.push {i : UInt8} (hsorted : Sorted pktsBurst family i.toNat
      burst)
    (hfamily : IsFamily pktsBurst family i.toNat) (hi : i.toNat < 255) :
    Sorted pktsBurst family (i.toNat + 1)
      (burst.push (family.aclData (pktsBurst.getD i.toNat [])) i) := by
  have hnum := hsorted.hnum
  have hnext : (burst.num + 1).toNat = burst.num.toNat + 1 := by
    rw [UInt8.toNat_add]
    exact Nat.mod_eq_of_lt (by show burst.num.toNat + 1 < 256; omega)
  constructor
  case hnum =>
    show (burst.num + 1).toNat ≤ _
    omega
  case hsound =>
    intro j hj
    change j < (burst.num + 1).toNat at hj
    show (Function.update burst.pktsRemap _ i j).toNat < _ ∧
      IsFamily pktsBurst family (Function.update burst.pktsRemap _ i j).toNat ∧
      Function.update burst.pktsData _ _ j = family.aclData (pktsBurst.getD
        (Function.update burst.pktsRemap _ i j).toNat [])
    rcases eq_or_ne j burst.num.toNat with rfl | hne
    · simp only [Function.update_self]
      exact ⟨Nat.lt_succ_self _, hfamily, trivial⟩
    · obtain ⟨hlt, hheld, hdata⟩ := hsorted.hsound j (by omega)
      simp only [Function.update_of_ne hne]
      exact ⟨Nat.lt_succ_of_lt hlt, hheld, hdata⟩
  case hcomplete =>
    intro i' hi' hheld
    show ∃ j < (burst.num + 1).toNat,
      (Function.update burst.pktsRemap _ i j).toNat = i'
    rcases Nat.lt_succ_iff_lt_or_eq.mp hi' with hlt | rfl
    · obtain ⟨j, hj, hremap⟩ := hsorted.hcomplete i' hlt hheld
      refine ⟨j, by omega, ?_⟩
      rw [Function.update_of_ne hj.ne]
      exact hremap
    · exact ⟨burst.num.toNat, by omega, by rw [Function.update_self]⟩

end Sorting

theorem sortPacket_of (pktsBurst : List Bytes) (i : UInt8)
    (sorted : SortedBurst) (family : IpFamily) :
    (sortPacket pktsBurst i sorted).of family =
      if IsFamily pktsBurst family i.toNat then
        (sorted.of family).push
          (family.aclData (pktsBurst.getD i.toNat [])) i
      else sorted.of family := by
  cases family with
  | ipv4 =>
      by_cases hipv4 : ntohs (fieldU16 12 (pktsBurst.getD i.toNat [])) =
          etherTypeIpv4
      · have hfamily : IsFamily pktsBurst .ipv4 i.toNat := hipv4
        rw [if_pos hfamily]
        simp only [sortPacket, hipv4, if_true]
        rfl
      · have hother : ¬ IsFamily pktsBurst .ipv4 i.toNat := hipv4
        rw [if_neg hother]
        simp only [sortPacket, hipv4, if_false]
        split <;> rfl
  | ipv6 =>
      by_cases hipv6 : ntohs (fieldU16 12 (pktsBurst.getD i.toNat [])) =
          etherTypeIpv6
      · have hfamily : IsFamily pktsBurst .ipv6 i.toNat := hipv6
        have hne : ¬ etherTypeIpv6 = etherTypeIpv4 := by decide
        rw [if_pos hfamily]
        simp only [sortPacket, hipv6, if_true, if_neg hne]
        rfl
      · have hother : ¬ IsFamily pktsBurst .ipv6 i.toNat := hipv6
        rw [if_neg hother]
        simp only [sortPacket, hipv6, if_false]
        split <;> rfl

theorem sortPacket_classifications (pktsBurst : List Bytes) (i : UInt8)
    (sorted : SortedBurst) :
    (sortPacket pktsBurst i sorted).classifications =
      Function.update sorted.classifications i.toNat 0 := by
  unfold sortPacket
  simp only
  split
  · rfl
  · split <;> rfl

/-- The first loop ends with every packet in the array of its family. -/
theorem exists_sorted {pktsBurst : List Bytes} (hburst : pktsBurst.length ≤ 255)
    {fuel : ℕ} (hfuel : pktsBurst.length < fuel) {start : SortedBurst}
    (hempty : ∀ family, (start.of family).num = 0) :
    ∃ sorted, byteLoop pktsBurst.length (sortPacket pktsBurst) fuel 0 start =
        some sorted ∧
      (∀ family, Sorted pktsBurst family pktsBurst.length
        (sorted.of family)) ∧
      ∀ i < pktsBurst.length, sorted.classifications i = 0 := by
  apply exists_byteLoop hburst (fun k (sorted : SortedBurst) =>
    (∀ family, Sorted pktsBurst family k (sorted.of family)) ∧
      ∀ i < k, sorted.classifications i = 0)
  · rintro i sorted hi ⟨hsorted, hzero⟩
    constructor
    · intro family
      rw [sortPacket_of]
      split
      · rename_i hfamily
        exact (hsorted family).push hfamily (by omega)
      · rename_i hother
        exact (hsorted family).skip hother
    · intro i' hi'
      rw [sortPacket_classifications]
      rcases eq_or_ne i' i.toNat with rfl | hne
      · exact Function.update_self ..
      · rw [Function.update_of_ne hne]
        exact hzero i' (by omega)
  · exact Nat.zero_le _
  · simpa using hfuel
  · constructor
    · intro family
      have hnum : (start.of family).num.toNat = 0 := by
        rw [hempty family]
        rfl
      constructor
      · exact hnum.le
      · intro j hj
        omega
      · intro i hi
        exact absurd hi (Nat.not_lt_zero i)
    · intro i hi
      exact absurd hi (Nat.not_lt_zero i)

/-! ## What the second loop writes -/

section Gathering

variable {acl : (family : IpFamily) → RteAcl family.defs}
variable {classifier : (family : IpFamily) →
  Option (List (Rule (AclField family.words)))}
variable {pktsBurst : List Bytes} {family : IpFamily} {n : ℕ}
variable {burst : FamilyBurst}

theorem exists_gathered {fuel : ℕ} {results : ℕ → UInt32}
    (value : ℕ → UInt32) (hfuel : burst.num.toNat < fuel)
    (hresults : ∀ j < burst.num.toNat,
      results j = value (burst.pktsRemap j).toNat)
    (classifications : ℕ → UInt32) :
    ∃ gathered, byteLoop burst.num.toNat (gatherResult burst results) fuel 0
        classifications = some gathered ∧
      (∀ j < burst.num.toNat, gathered (burst.pktsRemap j).toNat =
        value (burst.pktsRemap j).toNat) ∧
      ∀ i, (∀ j < burst.num.toNat, (burst.pktsRemap j).toNat ≠ i) →
        gathered i = classifications i := by
  apply exists_byteLoop (Nat.le_of_lt_succ burst.num.toNat_lt)
    (fun m (gathered : ℕ → UInt32) =>
      (∀ j < m, gathered (burst.pktsRemap j).toNat =
        value (burst.pktsRemap j).toNat) ∧
      ∀ i, (∀ j < m, (burst.pktsRemap j).toNat ≠ i) →
        gathered i = classifications i)
  · rintro m gathered hm ⟨hwritten, hother⟩
    -- two packets at one position would be given one value
    have hvalue : ∀ i, i = (burst.pktsRemap m.toNat).toNat →
        gatherResult burst results m gathered i = value i := by
      rintro i rfl
      rw [gatherResult, Function.update_self]
      exact hresults m.toNat hm
    constructor
    · intro j hj
      by_cases hsame : (burst.pktsRemap j).toNat =
          (burst.pktsRemap m.toNat).toNat
      · exact hvalue _ hsame
      · have hlt : j < m.toNat := by
          rcases Nat.lt_succ_iff_lt_or_eq.mp hj with hlt | rfl
          · exact hlt
          · exact absurd rfl hsame
        rw [gatherResult, Function.update_of_ne hsame]
        exact hwritten j hlt
    · intro i hi
      have hne : i ≠ (burst.pktsRemap m.toNat).toNat :=
        fun heq => hi m.toNat (Nat.lt_succ_self _) heq.symm
      rw [gatherResult, Function.update_of_ne hne]
      exact hother i fun j hj => hi j (Nat.lt_succ_of_lt hj)
  · exact Nat.zero_le _
  · simpa using hfuel
  · exact ⟨fun j hj => absurd hj (Nat.not_lt_zero j), fun i _ => rfl⟩

/-- One family of a burst: its packets get their own results, and the others
keep what they have. -/
theorem exists_classifyFamily (hsorted : Sorted pktsBurst family n burst)
    {fuel : ℕ} (hfuel : n < fuel) {classifications : ℕ → UInt32}
    (hzero : ∀ i < n, IsFamily pktsBurst family i → classifications i = 0) :
    ∃ ret after, classifyFamily acl classifier fuel family burst
        classifications = some (ret, after) ∧
      (ret = 0 → ∀ i < n, after i =
        if IsFamily pktsBurst family i then
          familyResult acl classifier family (pktsBurst.getD i [])
        else classifications i) := by
  have hkept : (∀ i < n, IsFamily pktsBurst family i →
        familyResult acl classifier family (pktsBurst.getD i []) = 0) →
      ∀ i < n, classifications i =
        if IsFamily pktsBurst family i then
          familyResult acl classifier family (pktsBurst.getD i [])
        else classifications i := by
    intro hnone i hi
    split
    · rename_i hfamily
      rw [hnone i hi hfamily, hzero i hi hfamily]
    · rfl
  unfold classifyFamily
  by_cases hnum : burst.num > 0
  · rw [if_pos hnum]
    cases hclassifier : classifier family with
    | none =>
        refine ⟨0, classifications, rfl, fun _ => hkept ?_⟩
        intro i hi _
        rw [familyResult, hclassifier]
    | some rules =>
        simp only
        by_cases hret : ((acl family).classify rules burst.pktsData
            burst.num.toNat).1 = 0
        · have hresults : ∀ j < burst.num.toNat, ((acl family).classify rules
              burst.pktsData burst.num.toNat).2 j =
                familyResult acl classifier family
                  (pktsBurst.getD (burst.pktsRemap j).toNat []) := by
            intro j hj
            rw [(acl family).classify_ok rules _ _ hret j hj, familyResult,
              hclassifier, (hsorted.hsound j hj).2.2]
          obtain ⟨gathered, hrun, hwritten, hother⟩ := exists_gathered
            (fun i => familyResult acl classifier family
              (pktsBurst.getD i []))
            (hsorted.hnum.trans_lt hfuel) hresults classifications
          refine ⟨0, gathered, ?_, fun _ i hi => ?_⟩
          · rw [if_neg (not_not.mpr hret), hrun]
            rfl
          · split
            · rename_i hfamily
              obtain ⟨j, hj, rfl⟩ := hsorted.hcomplete i hi hfamily
              exact hwritten j hj
            · rename_i hnot
              apply hother
              rintro j hj rfl
              exact hnot (hsorted.hsound j hj).2.1
        · refine ⟨_, classifications, if_pos hret, fun h => absurd h hret⟩
  · rw [if_neg hnum]
    refine ⟨0, classifications, rfl, fun _ => hkept ?_⟩
    intro i hi hfamily
    obtain ⟨j, hj, _⟩ := hsorted.hcomplete i hi hfamily
    rw [gt_iff_lt, UInt8.lt_iff_toNat_lt] at hnum
    exact absurd (Nat.zero_lt_of_lt hj) hnum

end Gathering

/-! ## The rules behind a classification -/

/-- The contexts of `create_bind_classifier`: `NULL` for a family without
rules. -/
def AclRules.classifier (rules : AclRules) (family : IpFamily) :
    Option (List (Rule (AclField family.words))) :=
  if (rules.of family).isEmpty then none else some (rules.of family)

theorem familyResult_spec (acl : (family : IpFamily) → RteAcl family.defs)
    (rules : AclRules) (family : IpFamily) (pkt : Bytes) :
    (∃ rule ∈ rules.of family, rule.Matches family.defs
        (family.aclData pkt) ∧ rule.userdata =
          familyResult acl rules.classifier family pkt) ∨
      (∀ rule ∈ rules.of family, ¬ rule.Matches family.defs
        (family.aclData pkt)) ∧
      familyResult acl rules.classifier family pkt = 0 := by
  unfold familyResult AclRules.classifier
  by_cases hempty : (rules.of family).isEmpty
  · rw [if_pos hempty, List.isEmpty_iff.mp hempty]
    exact .inr ⟨fun rule hrule => absurd hrule List.not_mem_nil, rfl⟩
  · rw [if_neg hempty]
    rcases (acl family).result_spec (rules.of family) (family.aclData pkt) with
      ⟨rule, hrule, hmatches, hresult⟩ | hnone
    · exact .inl ⟨rule, hrule, hmatches, hresult.symm⟩
    · exact .inr hnone

/-- The classification is the user data of a matching rule, if there is one. -/
theorem classifyPacket_spec (acl : (family : IpFamily) → RteAcl family.defs)
    (rules : AclRules) (pkt : Bytes) :
    classifyPacket acl rules.classifier pkt ∈ classifyToTables rules pkt ∨
      classifyToTables rules pkt = [] ∧
        classifyPacket acl rules.classifier pkt = 0 := by
  have hfamily : ∀ family : IpFamily,
      ntohs (fieldU16 12 pkt) = family.etherType →
      classifyPacket acl rules.classifier pkt =
        familyResult acl rules.classifier family pkt →
      classifyPacket acl rules.classifier pkt ∈ classifyToTables rules pkt ∨
        classifyToTables rules pkt = [] ∧
          classifyPacket acl rules.classifier pkt = 0 := by
    intro family hether hresult
    rw [mem_classifyToTables_iff hether, hresult]
    refine (familyResult_spec acl rules family pkt).imp_right ?_
    rintro ⟨hnone, hzero⟩
    refine ⟨List.eq_nil_iff_forall_not_mem.mpr fun userdata hmem => ?_, hzero⟩
    obtain ⟨rule, hrule, hmatches, _⟩ :=
      (mem_classifyToTables_iff hether).mp hmem
    exact hnone rule hrule hmatches
  by_cases hipv4 : ntohs (fieldU16 12 pkt) = etherTypeIpv4
  · apply hfamily .ipv4 hipv4
    rw [classifyPacket, if_pos hipv4]
  · by_cases hipv6 : ntohs (fieldU16 12 pkt) = etherTypeIpv6
    · apply hfamily .ipv6 hipv6
      rw [classifyPacket, if_neg hipv4, if_pos hipv6]
    · right
      rw [classifyPacket, classifyToTables, if_neg hipv4, if_neg hipv6,
        if_neg hipv4, if_neg hipv6]
      exact ⟨rfl, rfl⟩

/-! ## Bursts -/

section Packetwise

variable (acl : (family : IpFamily) → RteAcl family.defs)
variable (classifier : (family : IpFamily) →
  Option (List (Rule (AclField family.words))))

theorem classifyPacket_eq (pktsBurst : List Bytes) (i : ℕ) :
    classifyPacket acl classifier (pktsBurst.getD i []) =
      if IsFamily pktsBurst .ipv6 i then
        familyResult acl classifier .ipv6 (pktsBurst.getD i [])
      else if IsFamily pktsBurst .ipv4 i then
        familyResult acl classifier .ipv4 (pktsBurst.getD i [])
      else 0 := by
  by_cases hipv4 : ntohs (fieldU16 12 (pktsBurst.getD i [])) = etherTypeIpv4
  · have hfamily : IsFamily pktsBurst .ipv4 i := hipv4
    have hother : ¬ IsFamily pktsBurst .ipv6 i := by
      intro hipv6
      exact absurd (hipv4.symm.trans hipv6) (by decide)
    rw [if_neg hother, if_pos hfamily, classifyPacket]
    simp only [hipv4, if_true]
  · have hother : ¬ IsFamily pktsBurst .ipv4 i := hipv4
    rw [if_neg hother, classifyPacket]
    simp only [hipv4, if_false]
    rfl

theorem exists_classifyBurst {pktsBurst : List Bytes}
    (hburst : pktsBurst.length ≤ 255) {fuel : ℕ}
    (hfuel : pktsBurst.length < fuel) (stack : SortedBurst) :
    ∃ ret classifications, classifyBurst acl classifier fuel stack pktsBurst =
        some (ret, classifications) ∧
      (ret = 0 → ∀ i < pktsBurst.length, classifications i =
        classifyPacket acl classifier (pktsBurst.getD i [])) := by
  unfold classifyBurst
  obtain ⟨sorted, hloop, hsorted, hzero⟩ := exists_sorted hburst hfuel
    (show ∀ family, (SortedBurst.of
      { stack with v4 := { stack.v4 with num := 0 },
                   v6 := { stack.v6 with num := 0 } } family).num = 0 by
      intro family
      cases family <;> rfl)
  obtain ⟨ret4, after4, hrun4, hafter4⟩ := @exists_classifyFamily acl
    classifier pktsBurst .ipv4 _ sorted.v4 (hsorted .ipv4) fuel hfuel
    sorted.classifications fun i hi _ => hzero i hi
  simp only [hloop, hrun4, Option.bind_eq_bind, Option.bind_some]
  by_cases hret : ret4 = 0
  · have hstill : ∀ i < pktsBurst.length, IsFamily pktsBurst .ipv6 i →
        after4 i = 0 := by
      intro i hi hipv6
      have hnot : ¬ IsFamily pktsBurst .ipv4 i := by
        intro hipv4
        exact absurd (hipv4.symm.trans hipv6) (by decide)
      rw [hafter4 hret i hi, if_neg hnot, hzero i hi]
    obtain ⟨ret6, after6, hrun6, hafter6⟩ := @exists_classifyFamily acl
      classifier pktsBurst .ipv6 _ sorted.v6 (hsorted .ipv6) fuel hfuel
      after4 hstill
    refine ⟨ret6, after6, ?_, fun hret6 i hi => ?_⟩
    · rw [if_neg (not_not.mpr hret), hrun6]
    · rw [hafter6 hret6 i hi, hafter4 hret i hi, hzero i hi,
        classifyPacket_eq]
  · exact ⟨ret4, after4, if_pos hret, fun h => absurd h hret⟩

theorem burst_classification_packetwise
    {pktsBurst : List Bytes}
    (hburst : pktsBurst.length ≤ 255)
    {fuel : ℕ}
    (hfuel : pktsBurst.length < fuel)
    (stack : SortedBurst) :
    ∃ ret classifications,
      classifyBurst acl classifier fuel stack pktsBurst =
        some (ret, classifications) ∧
      (ret = 0 → ∀ i (hi : i < pktsBurst.length),
        classifications i = classifyPacket acl classifier pktsBurst[i] ∧
        ∀ stack' alone,
          classifyBurst acl classifier fuel stack' [pktsBurst[i]] =
            some (0, alone) → alone 0 = classifications i) := by
  obtain ⟨ret, classifications, hrun, hresults⟩ :=
    exists_classifyBurst acl classifier hburst hfuel stack
  refine ⟨ret, classifications, hrun, fun hret i hi => ?_⟩
  have hpacket := hresults hret i hi
  rw [List.getD_eq_getElem _ _ hi] at hpacket
  refine ⟨hpacket, fun stack' alone halone => ?_⟩
  have hone : [pktsBurst[i]].length < fuel := by
    rw [List.length_singleton]
    omega
  obtain ⟨ret', alone', hrun', hresults'⟩ := exists_classifyBurst acl
    classifier (show [pktsBurst[i]].length ≤ 255 by simp) hone stack'
  obtain ⟨rfl, rfl⟩ := Prod.mk.inj (Option.some.inj (halone.symm.trans hrun'))
  rw [hresults' rfl 0 Nat.one_pos, hpacket]
  rfl

end Packetwise

/-- Takes the first rule that matches. -/
def firstMatch {Field : Type} [Fintype Field] (defs : Field → FieldDef) :
    RteAcl defs where
  classify rules data num := (0, fun j =>
    ((rules.find? fun rule => rule.Matches defs (data j)).map
      Rule.userdata).getD 0)
  result rules data :=
    ((rules.find? fun rule => rule.Matches defs data).map
      Rule.userdata).getD 0
  classify_ok := by
    intros
    rfl
  result_spec := by
    intro rules data
    cases hfind : rules.find? fun rule => decide (rule.Matches defs data) with
    | none =>
        refine .inr ⟨fun rule hrule hmatches => ?_, rfl⟩
        exact List.find?_eq_none.mp hfind rule hrule (decide_eq_true hmatches)
    | some rule =>
        have hmatches := List.find?_some hfind
        exact .inl ⟨rule, List.mem_of_find?_eq_some hfind,
          of_decide_eq_true hmatches, rfl⟩

def sampleAcls : AclRules := typicalAcls [[sampleFwdBind], [sampleIpv6Range]]

def garbageBurst : FamilyBurst where
  pktsData _ := []
  pktsRemap _ := 7
  num := 9

theorem burst_classification_mixed :
    ∃ classifications,
      classifyBurst (fun family => firstMatch family.defs)
        sampleAcls.classifier 4 ⟨garbageBurst, garbageBurst, fun _ => 5⟩
        [sampleIpv6Packet, [], samplePacket] = some (0, classifications) ∧
      classifications 0 = classifiedBitmask ||| 1 ∧
      classifications 1 = 0 ∧
      classifications 2 = classifiedBitmask ||| 0 := by
  have hruns : (classifyBurst (fun family => firstMatch family.defs)
      sampleAcls.classifier 4 ⟨garbageBurst, garbageBurst, fun _ => 5⟩
      [sampleIpv6Packet, [], samplePacket]).map Prod.fst = some 0 := by
    decide +kernel
  obtain ⟨ret, classifications, hrun, hresults⟩ :=
    burst_classification_packetwise (fun family => firstMatch family.defs)
      sampleAcls.classifier
      (show [sampleIpv6Packet, [], samplePacket].length ≤ 255 by decide)
      (show [sampleIpv6Packet, [], samplePacket].length < 4 by decide)
      ⟨garbageBurst, garbageBurst, fun _ => 5⟩
  rw [hrun] at hruns
  obtain rfl : ret = 0 := Option.some.inj hruns
  refine ⟨classifications, hrun, ?_, ?_, ?_⟩
  · rw [(hresults rfl 0 (by decide)).1]
    decide +kernel
  · rw [(hresults rfl 1 (by decide)).1]
    decide +kernel
  · rw [(hresults rfl 2 (by decide)).1]
    decide +kernel

end GlbDirector
