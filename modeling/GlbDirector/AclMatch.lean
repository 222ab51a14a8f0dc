import GlbDirector.ByteCodec

/-!
# Multi-field rules over a byte string

A rule gives for each field of a layout a bit mask, an address range in CIDR
notation or an inclusive range, and matches the data whose fields, read as
big-endian numbers at their offsets, are all accepted.  A specification that
accepts every value of its size makes its field irrelevant; one with all
its bits set asks for equality.  A prefix of a long number is a prefix of each
of its words.
-/

namespace AclMatch

open ByteCodec

variable {Field : Type}

structure FieldDef where
  size : ℕ
  offset : ℕ

inductive FieldSpec where
  | bitmask (value mask : ℕ)
  | cidr (value bits : ℕ)
  | range (low high : ℕ)

/-- The bits that a CIDR specification leaves open. -/
def hostBits (size bits : ℕ) : ℕ := 8 * size - bits

def FieldSpec.Accepts (size : ℕ) (spec : FieldSpec) (x : ℕ) : Prop :=
  match spec with
  | .bitmask value mask => x &&& mask = value &&& mask
  | .cidr value bits =>
      x / 2 ^ hostBits size bits = value / 2 ^ hostBits size bits
  | .range low high => low ≤ x ∧ x ≤ high

instance (size : ℕ) (spec : FieldSpec) (x : ℕ) :
    Decidable (spec.Accepts size x) :=
  match spec with
  | .bitmask value mask =>
      inferInstanceAs (Decidable (x &&& mask = value &&& mask))
  | .cidr value bits =>
      inferInstanceAs (Decidable
        (x / 2 ^ hostBits size bits = value / 2 ^ hostBits size bits))
  | .range low high => inferInstanceAs (Decidable (low ≤ x ∧ x ≤ high))

structure Rule (Field : Type) where
  field : Field → FieldSpec
  userdata : UInt32

def FieldDef.value (def_ : FieldDef) (data : Bytes) : ℕ :=
  beNat ((data.drop def_.offset).take def_.size)

def Rule.Matches (defs : Field → FieldDef) (rule : Rule Field)
    (data : Bytes) : Prop :=
  ∀ field, (rule.field field).Accepts (defs field).size
    ((defs field).value data)

instance [Fintype Field] (defs : Field → FieldDef) (rule : Rule Field)
    (data : Bytes) : Decidable (rule.Matches defs data) :=
  inferInstanceAs (Decidable (∀ _, _))

/-! ## Big-endian numbers -/

theorem beNat_lt (bytes : Bytes) : beNat bytes < 256 ^ bytes.length := by
  have hlt := leNat_lt bytes.reverse
  rw [List.length_reverse] at hlt
  exact hlt

theorem beNat_word_lt {bytes : Bytes} (hlength : bytes.length = 4) :
    beNat bytes < 2 ^ 32 := by
  have hlt := beNat_lt bytes
  rw [hlength] at hlt
  exact hlt

theorem beNat_inj {bytes bytes' : Bytes}
    (hlength : bytes.length = bytes'.length) :
    beNat bytes = beNat bytes' ↔ bytes = bytes' := by
  constructor
  · intro heq
    have hreverse : bytes.reverse = bytes'.reverse := by
      rw [← leBytes_leNat bytes.reverse, ← leBytes_leNat bytes'.reverse,
        List.length_reverse, List.length_reverse, hlength]
      exact congrArg _ heq
    exact List.reverse_inj.mp hreverse
  · rintro rfl
    rfl

/-! ## Specifications without effect -/

theorem accepts_cidr_none {size x : ℕ} (hx : x < 256 ^ size) :
    (FieldSpec.cidr 0 0).Accepts size x := by
  have hpow : 256 ^ size = 2 ^ hostBits size 0 := by
    rw [hostBits, Nat.sub_zero, pow_mul]
    rfl
  show x / _ = 0 / _
  rw [← hpow, Nat.div_eq_of_lt hx, Nat.zero_div]

theorem accepts_range_all {x : ℕ} (hx : x < 256 ^ 2) :
    (FieldSpec.range 0 0xffff).Accepts 2 x :=
  ⟨Nat.zero_le x, Nat.le_of_lt_succ hx⟩

/-! ## Specifications that ask for equality -/

theorem accepts_bitmask_byte {value x : ℕ} (hvalue : value < 256)
    (hx : x < 256) :
    (FieldSpec.bitmask value 0xff).Accepts 1 x ↔ x = value := by
  have hmask : ∀ y < 256, y &&& 0xff = y := fun y hy => by
    rw [show (0xff : ℕ) = 2 ^ 8 - 1 from rfl, Nat.and_two_pow_sub_one_eq_mod]
    exact Nat.mod_eq_of_lt hy
  show x &&& 0xff = value &&& 0xff ↔ _
  rw [hmask x hx, hmask value hvalue]

theorem accepts_range_exact {value x : ℕ} :
    (FieldSpec.range value value).Accepts 2 x ↔ x = value :=
  ⟨fun h => le_antisymm h.2 h.1, fun h => ⟨h.ge, h.le⟩⟩

theorem accepts_cidr_all {size bits value x : ℕ}
    (hbits : 8 * size ≤ bits) :
    (FieldSpec.cidr value bits).Accepts size x ↔ x = value := by
  have hopen : hostBits size bits = 0 := Nat.sub_eq_zero_of_le hbits
  show x / _ = value / _ ↔ _
  rw [hopen, pow_zero, Nat.div_one, Nat.div_one]

/-! ## Prefixes word by word -/

/-- Two numbers of `width` bits agree on their first `bits`. -/
def SamePrefix (width bits x y : ℕ) : Prop :=
  x / 2 ^ (width - bits) = y / 2 ^ (width - bits)

theorem accepts_cidr_iff {size bits value x : ℕ} :
    (FieldSpec.cidr value bits).Accepts size x ↔
      SamePrefix (8 * size) bits x value :=
  Iff.rfl

theorem SamePrefix.zero {width x y : ℕ} (hx : x < 2 ^ width)
    (hy : y < 2 ^ width) : SamePrefix width 0 x y := by
  rw [SamePrefix, Nat.sub_zero, Nat.div_eq_of_lt hx, Nat.div_eq_of_lt hy]

theorem digits_inj {base high high' low low' : ℕ} (hlow : low < base)
    (hlow' : low' < base) :
    high * base + low = high' * base + low' ↔ high = high' ∧ low = low' := by
  have hbase : 0 < base := by omega
  constructor
  · intro heq
    have hdiv := congrArg (· / base) heq
    have hmod := congrArg (· % base) heq
    simp only [Nat.mul_comm _ base, Nat.mul_add_div hbase,
      Nat.div_eq_of_lt hlow, Nat.div_eq_of_lt hlow', Nat.add_zero] at hdiv
    simp only [Nat.mul_add_mod_self_right, Nat.mod_eq_of_lt hlow,
      Nat.mod_eq_of_lt hlow'] at hmod
    exact ⟨hdiv, hmod⟩
  · rintro ⟨rfl, rfl⟩
    rfl

/-- A prefix that ends in the low word contains the whole high word. -/
theorem samePrefix_append {widthHigh widthLow bits high high' low low' : ℕ}
    (hlow : low < 2 ^ widthLow) (hlow' : low' < 2 ^ widthLow) :
    SamePrefix (widthHigh + widthLow) bits (high * 2 ^ widthLow + low)
        (high' * 2 ^ widthLow + low') ↔
      SamePrefix widthHigh bits high high' ∧
        SamePrefix widthLow (bits - widthHigh) low low' := by
  by_cases hends : bits ≤ widthHigh
  · have hopen : widthHigh + widthLow - bits =
        widthLow + (widthHigh - bits) := by omega
    have hhigh : ∀ h l, l < 2 ^ widthLow →
        (h * 2 ^ widthLow + l) / 2 ^ (widthLow + (widthHigh - bits)) =
          h / 2 ^ (widthHigh - bits) := by
      intro h l hl
      rw [pow_add, ← Nat.div_div_eq_div_mul, Nat.mul_comm h,
        Nat.mul_add_div (Nat.two_pow_pos _), Nat.div_eq_of_lt hl,
        Nat.add_zero]
    rw [SamePrefix, hopen, hhigh high low hlow, hhigh high' low' hlow',
      Nat.sub_eq_zero_of_le hends]
    exact ⟨fun hsame => ⟨hsame, .zero hlow hlow'⟩, fun hboth => hboth.1⟩
  · generalize hleft : widthLow - (bits - widthHigh) = left
    obtain ⟨taken, htaken⟩ : ∃ taken, widthLow = left + taken :=
      ⟨widthLow - left, by omega⟩
    have hopen : widthHigh + widthLow - bits = left := by omega
    have hclosed : widthHigh - bits = 0 := by omega
    have hhigh : ∀ h l, (h * 2 ^ widthLow + l) / 2 ^ left =
        h * 2 ^ taken + l / 2 ^ left := by
      intro h l
      rw [htaken, pow_add, ← Nat.mul_assoc, Nat.mul_right_comm,
        Nat.mul_comm _ (2 ^ left), Nat.mul_add_div (Nat.two_pow_pos _)]
    have hsmall : ∀ l, l < 2 ^ widthLow → l / 2 ^ left < 2 ^ taken := by
      intro l hl
      apply Nat.div_lt_of_lt_mul
      rw [← pow_add, ← htaken]
      exact hl
    rw [SamePrefix, SamePrefix, SamePrefix, hopen, hclosed, hleft, hhigh,
      hhigh, digits_inj (hsmall low hlow) (hsmall low' hlow'), pow_zero,
      Nat.div_one, Nat.div_one]

theorem beNat_append (front back : Bytes) :
    beNat (front ++ back) = beNat front * 256 ^ back.length + beNat back := by
  have happend : ∀ low high : Bytes, leNat (low ++ high) =
      leNat low + 256 ^ low.length * leNat high := by
    intro low high
    induction low with
    | nil => simp [leNat]
    | cons byte rest ih =>
        simp only [List.cons_append, leNat, ih, List.length_cons, pow_succ]
        ring
  rw [beNat, List.reverse_append, happend, List.length_reverse, beNat, beNat]
  ring

/-- The prefix of an address in words of 32 bits, word by word. -/
theorem samePrefix_words {words bits : ℕ} {net addr : Bytes}
    (hnet : net.length = 4 * words) (haddr : addr.length = 4 * words) :
    (∀ word : Fin words, SamePrefix 32 (bits - 32 * word)
        (beNat ((addr.drop (4 * word)).take 4))
        (beNat ((net.drop (4 * word)).take 4))) ↔
      SamePrefix (32 * words) bits (beNat addr) (beNat net) := by
  induction words generalizing net addr with
  | zero =>
      obtain rfl := List.length_eq_zero_iff.mp hnet
      obtain rfl := List.length_eq_zero_iff.mp haddr
      exact iff_of_true (fun word => word.elim0) rfl
  | succ words ih =>
      have hfront : ∀ {bytes : Bytes}, bytes.length = 4 * (words + 1) →
          (bytes.take (4 * words)).length = 4 * words := by
        intro bytes hlength
        exact List.length_take_of_le (by omega)
      have hback : ∀ {bytes : Bytes}, bytes.length = 4 * (words + 1) →
          (bytes.drop (4 * words)).length = 4 := by
        intro bytes hlength
        rw [List.length_drop]
        omega
      have hsplit : ∀ {bytes : Bytes}, bytes.length = 4 * (words + 1) →
          beNat bytes = beNat (bytes.take (4 * words)) * 2 ^ 32 +
            beNat (bytes.drop (4 * words)) := by
        intro bytes hlength
        conv_lhs => rw [← List.take_append_drop (4 * words) bytes]
        rw [beNat_append, hback hlength]
        rfl
      have hlast : ∀ {bytes : Bytes}, bytes.length = 4 * (words + 1) →
          beNat (bytes.drop (4 * words)) < 2 ^ 32 := by
        intro bytes hlength
        exact beNat_word_lt (hback hlength)
      have hearlier : ∀ {bytes : Bytes} (word : Fin words),
          ((bytes.take (4 * words)).drop (4 * word)).take 4 =
            (bytes.drop (4 * word)).take 4 := by
        intro bytes word
        rw [List.drop_take, List.take_take, min_eq_left (by omega)]
      rw [Fin.forall_fin_succ', hsplit haddr, hsplit hnet,
        Nat.mul_succ, samePrefix_append (hlast haddr) (hlast hnet),
        ← ih (hfront hnet) (hfront haddr)]
      simp only [hearlier, Fin.val_castSucc, Fin.val_last]
      rw [List.take_of_length_le (hback haddr).le,
        List.take_of_length_le (hback hnet).le]

end AclMatch
