import GlbDirector.ByteCodec

/-!
# The C library and jansson calls of the table builder

A C string is its bytes up to the terminating NUL; jansson only returns
strings without embedded NUL bytes.  A `json_t *` is an optional value, since
every accessor used by the builder accepts `NULL` and answers for it.
-/

namespace GlbDirector

open ByteCodec

abbrev CString := Bytes

/-- The bytes of an ASCII literal of the source. -/
def ascii (literal : String) : CString :=
  literal.toList.map fun c => UInt8.ofNat c.toNat

/-! ## Characters and numbers -/

def isSpace (c : UInt8) : Bool := c = 32 || (9 ≤ c && c ≤ 13)

def decimalDigitValue (c : UInt8) : Option ℕ :=
  if 48 ≤ c ∧ c ≤ 57 then some (c.toNat - 48) else none

def hexDigitValue (c : UInt8) : Option ℕ :=
  if 48 ≤ c ∧ c ≤ 57 then some (c.toNat - 48)
  else if 97 ≤ c ∧ c ≤ 102 then some (c.toNat - 87)
  else if 65 ≤ c ∧ c ≤ 70 then some (c.toNat - 55)
  else none

def decimalPrefix : ℕ → CString → ℕ
  | value, [] => value
  | value, c :: rest =>
      match decimalDigitValue c with
      | some digit => decimalPrefix (10 * value + digit) rest
      | none => value

/-- The two's complement value of the low 32 bits: a C `int`. -/
def toInt (n : ℤ) : ℤ := n.bmod (2 ^ 32)

/-- `strtol` clamps to the range of a 64-bit `long`. -/
def clampLong (n : ℤ) : ℤ := max (-(2 ^ 63)) (min n (2 ^ 63 - 1))

def atoi (s : CString) : ℤ :=
  match s.dropWhile isSpace with
  | [] => 0
  | c :: rest =>
      if c = 45 then toInt (clampLong (-(decimalPrefix 0 rest : ℤ)))
      else if c = 43 then toInt (clampLong (decimalPrefix 0 rest))
      else toInt (clampLong (decimalPrefix 0 (c :: rest)))

/-- One `%2x` conversion of `sscanf`: leading blanks, then at most two
characters of an optionally signed hexadecimal number.  `none` when nothing
is assigned. -/
def sscanf2x (src : CString) : Option UInt32 :=
  match src.dropWhile isSpace with
  | [] => none
  | c :: rest =>
      if c = 43 ∨ c = 45 then
        match rest.head?.bind hexDigitValue with
        | some digit =>
            some (if c = 45 then 0 - UInt32.ofNat digit
              else UInt32.ofNat digit)
        | none => none
      else
        match hexDigitValue c with
        | none => none
        | some high =>
            match rest.head?.bind hexDigitValue with
            | some low => some (UInt32.ofNat (16 * high + low))
            | none => some (UInt32.ofNat high)

/-! ## Addresses -/

/-- The octets scanned so far and the value of the octet in progress. -/
def inetPton4Loop : CString → Bytes → Option ℕ → Option Bytes
  | [], octets, none => some octets
  | [], octets, some value => some (octets ++ [UInt8.ofNat value])
  | ch :: src, octets, current =>
      match decimalDigitValue ch, current with
      | some digit, none =>
          if octets.length + 1 > 4 then none
          else inetPton4Loop src octets (some digit)
      | some digit, some value =>
          if value = 0 then none
          else if 10 * value + digit > 255 then none
          else inetPton4Loop src octets (some (10 * value + digit))
      | none, some value =>
          if ch = 46 then
            if octets.length + 1 = 4 then none
            else inetPton4Loop src (octets ++ [UInt8.ofNat value]) none
          else none
      | none, none => none

def inetPton4 (src : CString) : Option (ByteVec 4) :=
  match inetPton4Loop src [] none with
  | some octets => if h : octets.length = 4 then some ⟨octets, h⟩ else none
  | none => none

/-- The hex groups and the position of `::` found by `inet_pton6`; `curtok`
is where the current group started, for a trailing dotted quad. -/
def inetPton6Loop :
    CString → Bytes → Option ℕ → CString → ℕ → ℕ →
      Option (Bytes × Option ℕ)
  | [], tp, colonp, _, xdigitsSeen, val =>
      if xdigitsSeen > 0 then
        if tp.length + 2 > 16 then none
        else some (tp ++ [UInt8.ofNat (val / 256), UInt8.ofNat val], colonp)
      else some (tp, colonp)
  | ch :: src, tp, colonp, curtok, xdigitsSeen, val =>
      match hexDigitValue ch with
      | some digit =>
          if xdigitsSeen = 4 then none
          else inetPton6Loop src tp colonp curtok (xdigitsSeen + 1)
            (16 * val + digit)
      | none =>
          if ch = 58 then
            if xdigitsSeen = 0 then
              if colonp.isSome then none
              else inetPton6Loop src tp (some tp.length) src 0 val
            else if src = [] then none
            else if tp.length + 2 > 16 then none
            else inetPton6Loop src
              (tp ++ [UInt8.ofNat (val / 256), UInt8.ofNat val])
              colonp src 0 0
          else if ch = 46 ∧ tp.length + 4 ≤ 16 then
            match inetPton4 curtok with
            | some quad => some (tp ++ quad.val, colonp)
            | none => none
          else none

/-- Replace `::` by the zeros it stands for. -/
def expandColons (tp : Bytes) : Option ℕ → Option Bytes
  | none => some tp
  | some colonp =>
      if tp.length = 16 then none
      else some (tp.take colonp ++
        (List.replicate (16 - tp.length) 0 ++ tp.drop colonp))

def inetPton6 (src : CString) : Option (ByteVec 16) :=
  let start : Option CString :=
    match src with
    | [] => none
    | first :: rest =>
        if first = 58 then
          if rest.head? = some 58 then some rest else none
        else some src
  match start with
  | none => none
  | some body =>
      match inetPton6Loop body [] none body 0 0 with
      | none => none
      | some (tp, colonp) =>
          match expandColons tp colonp with
          | none => none
          | some bytes =>
              if h : bytes.length = 16 then some ⟨bytes, h⟩ else none

example : (inetPton4 (ascii "10.0.255.1")).map Subtype.val =
    some [10, 0, 255, 1] := by decide +kernel

example : inetPton4 (ascii "10.00.255.1") = none := by decide +kernel

example : (inetPton6 (ascii "fdb4:98ce::1.2.3.4")).map Subtype.val =
    some [0xfd, 0xb4, 0x98, 0xce, 0, 0, 0, 0, 0, 0, 0, 0, 1, 2, 3, 4] := by
  decide +kernel

/-! ## Sorting -/

/-- What the C library promises of `qsort` under a comparison function: the
same elements, in an order the comparison allows.  The order of elements that
compare equal is unspecified. -/
structure Qsort (α : Type) (cmp : α → α → ℤ) where
  run : List α → List α
  perm : ∀ elements, (run elements).Perm elements
  sorted : ∀ elements, (run elements).Pairwise fun a b => cmp a b ≤ 0

theorem exists_map_eq_of_perm_map {α β : Type} (f : α → β) {source : List α}
    {target : List β} (hperm : target.Perm (source.map f)) :
    ∃ order : List α, order.Perm source ∧ target = order.map f := by
  induction source generalizing target with
  | nil => exact ⟨[], List.Perm.refl _, hperm.eq_nil⟩
  | cons head rest ih =>
      have hmem : f head ∈ target := hperm.mem_iff.mpr (by simp)
      obtain ⟨front, back, rfl⟩ := List.append_of_mem hmem
      have hrest : (front ++ back).Perm (rest.map f) :=
        (List.perm_cons (f head)).mp (List.perm_middle.symm.trans hperm)
      obtain ⟨order, horder, hmap⟩ := ih hrest
      obtain ⟨before, after, rfl, rfl, rfl⟩ :=
        List.append_eq_map_iff.mp hmap
      refine ⟨before ++ head :: after, ?_, by simp⟩
      exact List.perm_middle.trans (horder.cons head)

/-- Sorting the images of some elements amounts to reordering them. -/
theorem Qsort.exists_order {α β : Type} {cmp : β → β → ℤ}
    (sort : Qsort β cmp) (f : α → β) (elements : List α) :
    ∃ order : List α, order.Perm elements ∧
      sort.run (elements.map f) = order.map f ∧
      order.Pairwise fun a b => cmp (f a) (f b) ≤ 0 := by
  obtain ⟨order, horder, hrun⟩ :=
    exists_map_eq_of_perm_map f (sort.perm (elements.map f))
  have hsorted := sort.sorted (elements.map f)
  rw [hrun, List.pairwise_map] at hsorted
  exact ⟨order, horder, hrun, hsorted⟩

/-! ## JSON values -/

inductive Json where
  | null
  | boolean (value : Bool)
  | integer (value : ℤ)
  | real
  | string (value : CString)
  | array (elements : List Json)
  | object (members : List (CString × Json))
  deriving Repr

def jsonObjectGet (json : Option Json) (key : CString) : Option Json :=
  match json with
  | some (.object members) =>
      (members.find? fun member => member.1 == key).map Prod.snd
  | _ => none

def jsonArrayElements : Option Json → List Json
  | some (.array elements) => elements
  | _ => []

def jsonArraySize (json : Option Json) : ℕ := (jsonArrayElements json).length

def jsonStringValue : Option Json → Option CString
  | some (.string value) => some value
  | _ => none

def jsonBooleanValue : Option Json → Bool
  | some (.boolean value) => value
  | _ => false

def jsonIntegerValue : Option Json → ℤ
  | some (.integer value) => value
  | _ => 0

end GlbDirector
