/-
  Distinguished encodings (DER).

  An element is a tag, a length and its content.  A length is written in as few bytes as can be, and so is an integer,
  in two's complement.

  1. **Encodings** — `length`, `element` and `integer`; `Bytes.beInt` is the number that bytes are in two's complement.
  2. **Numbers** — bytes most significant first, and the byte in front.
  3. **Lengths** — the three forms of a length below `2 ^ 16`.
  4. **The crux (`fits_iff`)** — a number of several bytes fits in one byte less exactly where the first byte only
     repeats the sign.
  5. **Result** — `integer_beInt` and `beInt_integer`: what has no such byte is the encoding of its number, and the
     encoding has no such byte (`minimal_integer`).
-/
import T2TouchId.Pieces

namespace T2TouchId

/-! ## Encodings -/

/-- The number in two's complement, most significant byte first. -/
def Bytes.beInt (content : Bytes) : Int :=
  if 2 * Bytes.beNat content < 256 ^ content.length then Bytes.beNat content
  else Bytes.beNat content - 256 ^ content.length

namespace Der

/-- The bytes that a number needs. -/
def byteCount (n : Nat) : Nat := (n.size + 7) / 8

/-- A length: a byte of its own, or how many bytes it has, and these. -/
def length (n : Nat) : Bytes :=
  if n < 0x80 then [UInt8.ofNat n] else UInt8.ofNat (0x80 + byteCount n) :: Bytes.be (byteCount n) n

def element (tag : UInt8) (content : Bytes) : Bytes := tag :: (length content.length ++ content)

/-- The bits of a number in two's complement, without the sign. -/
def bits : Int → Nat
  | .ofNat n => n.size
  | .negSucc n => n.size

/-- The bytes that a number needs in two's complement. -/
def width (value : Int) : Nat := bits value / 8 + 1

/-- The content of an integer. -/
def integer (value : Int) : Bytes := Bytes.be (width value) (value % 256 ^ width value).toNat

/-- No first byte that only repeats the sign. -/
def Minimal : Bytes → Prop
  | [] => False
  | [_] => True
  | first :: second :: _ => ¬ (first = 0 ∧ second < 0x80) ∧ ¬ (first = 0xFF ∧ 0x80 ≤ second)

example : integer (-501) = [0xFE, 0x0B] := by decide

/-! ## Numbers -/

theorem beNat_cons (first : UInt8) (rest : Bytes) :
    Bytes.beNat (first :: rest) = first.toNat * 256 ^ rest.length + Bytes.beNat rest := by
  have hsingle : Bytes.leNat [first] = first.toNat := Nat.add_zero _
  rw [Bytes.beNat, List.reverse_cons, Bytes.leNat_append, List.length_reverse, hsingle, Bytes.beNat, Nat.mul_comm,
    Nat.add_comm]

theorem beNat_be {count n : Nat} (h : n < 256 ^ count) : Bytes.beNat (Bytes.be count n) = n := by
  rw [Bytes.beNat, Bytes.be, List.reverse_reverse, Bytes.leNat_le h]

/-- The sign is in the byte in front. -/
theorem beNat_low {first : UInt8} {rest : Bytes} :
    2 * Bytes.beNat (first :: rest) < 256 ^ (rest.length + 1) ↔ first.toNat < 0x80 := by
  have hrest := Bytes.beNat_lt (rfl : rest.length = rest.length)
  rw [beNat_cons, Nat.pow_succ]
  constructor
  · intro h
    by_contra hhigh
    have hmul : 0x80 * 256 ^ rest.length ≤ first.toNat * 256 ^ rest.length :=
      Nat.mul_le_mul_right _ (not_lt.mp hhigh)
    omega
  · intro h
    have hmul : first.toNat * 256 ^ rest.length ≤ 0x7F * 256 ^ rest.length := Nat.mul_le_mul_right _ (by omega)
    omega

/-! ## Lengths -/

theorem byteCount_le {n count : Nat} : byteCount n ≤ count ↔ n < 256 ^ count := by
  have hpow : 256 ^ count = 2 ^ (8 * count) := by rw [Nat.pow_mul]
  rw [hpow, ← Nat.size_le, byteCount]
  omega

theorem length_short {n : Nat} (h : n < 0x80) : length n = [UInt8.ofNat n] := if_pos h

theorem length_one {n : Nat} (h : 0x80 ≤ n) (hlt : n < 0x100) : length n = [0x81, UInt8.ofNat n] := by
  have hcount : byteCount n = 1 := by
    have hle : byteCount n ≤ 1 := byteCount_le.mpr (by omega)
    have hzero : ¬ byteCount n ≤ 0 := fun hle => absurd (byteCount_le.mp hle) (by omega)
    omega
  rw [length, if_neg (by omega), hcount]
  show [_, UInt8.ofNat (n % 256)] = _
  rw [Nat.mod_eq_of_lt hlt]
  rfl

theorem length_two {n : Nat} (h : 0x100 ≤ n) (hlt : n < 0x10000) :
    length n = [0x82, UInt8.ofNat (n / 256), UInt8.ofNat (n % 256)] := by
  have hcount : byteCount n = 2 := by
    have hle : byteCount n ≤ 2 := byteCount_le.mpr (by omega)
    have hone : ¬ byteCount n ≤ 1 := fun hle => absurd (byteCount_le.mp hle) (by omega)
    omega
  rw [length, if_neg (by omega), hcount]
  show [_, UInt8.ofNat (n / 256 % 256), UInt8.ofNat (n % 256)] = _
  rw [Nat.mod_eq_of_lt (by omega : n / 256 < 256)]
  rfl

theorem length_pos (n : Nat) : 0 < (length n).length := by
  rw [length]
  split
  · exact Nat.one_pos
  · exact Nat.succ_pos _

theorem element_length (tag : UInt8) (content : Bytes) :
    (element tag content).length = 1 + (length content.length).length + content.length := by
  rw [element, List.length_cons, List.length_append]
  omega

theorem length_le {n : Nat} (h : n < 0x10000) : (length n).length ≤ 3 := by
  obtain hshort | ⟨hone, hlt⟩ | htwo : n < 0x80 ∨ (0x80 ≤ n ∧ n < 0x100) ∨ 0x100 ≤ n := by omega
  · rw [length_short hshort]
    exact Nat.le_of_ble_eq_true rfl
  · rw [length_one hone hlt]
    exact Nat.le_of_ble_eq_true rfl
  · rw [length_two htwo h]
    exact Nat.le_of_ble_eq_true rfl

theorem element_le {tag : UInt8} {content : Bytes} {bound : Nat} (h : content.length ≤ bound)
    (hbound : bound < 0x10000) : (element tag content).length ≤ bound + 4 := by
  have hlength := length_le (lt_of_le_of_lt h hbound)
  rw [element_length]
  omega

/-! ## Integers -/

/-- The number has so many bytes in two's complement. -/
def Fits (count : Nat) (value : Int) : Prop := -(256 ^ count : Int) ≤ 2 * value ∧ 2 * value < 256 ^ count

theorem bits_le {value : Int} {count : Nat} (hcount : 0 < count) :
    bits value < 8 * count ↔ Fits count value := by
  have hpow : (256 : Int) ^ count = 2 * (2 ^ (8 * count - 1) : Nat) := by
    have hnat : 256 ^ count = 2 * 2 ^ (8 * count - 1) := by
      rw [← Nat.pow_succ', Nat.succ_eq_add_one, Nat.sub_add_cancel (by omega), Nat.pow_mul]
    exact_mod_cast hnat
  have hsize : ∀ n : Nat, n.size < 8 * count ↔ n < 2 ^ (8 * count - 1) := by
    intro n
    rw [← Nat.size_le]
    omega
  unfold Fits
  rw [hpow]
  cases value with
  | ofNat n =>
    rw [bits, hsize, Int.ofNat_eq_natCast]
    omega
  | negSucc n =>
    rw [bits, hsize, Int.negSucc_eq]
    omega

/-- The width is the least there is. -/
theorem width_le {value : Int} {count : Nat} (hcount : 0 < count) : width value ≤ count ↔ Fits count value := by
  rw [← bits_le hcount, width]
  omega

theorem fits_width (value : Int) : Fits (width value) value := (width_le (Nat.succ_pos _)).mp (le_refl _)

/-- Bytes are a number that they have room for. -/
theorem fits_beInt {content : Bytes} : Fits content.length (Bytes.beInt content) := by
  have hlt : (Bytes.beNat content : Int) < 256 ^ content.length := by
    exact_mod_cast Bytes.beNat_lt (rfl : content.length = content.length)
  unfold Bytes.beInt
  split
  · rename_i hlow
    have hlow : (2 * Bytes.beNat content : Int) < 256 ^ content.length := by exact_mod_cast hlow
    constructor
    · omega
    · exact hlow
  · rename_i hhigh
    have hhigh : (256 ^ content.length : Int) ≤ 2 * Bytes.beNat content := by exact_mod_cast not_lt.mp hhigh
    constructor
    · omega
    · omega

theorem beInt_emod (content : Bytes) :
    (Bytes.beInt content % 256 ^ content.length).toNat = Bytes.beNat content := by
  have hlt : (Bytes.beNat content : Int) < 256 ^ content.length := by
    exact_mod_cast Bytes.beNat_lt (rfl : content.length = content.length)
  have hmod : Bytes.beInt content % 256 ^ content.length = Bytes.beNat content := by
    unfold Bytes.beInt
    split
    · exact Int.emod_eq_of_lt (Int.natCast_nonneg _) hlt
    · rw [Int.sub_emod_right]
      exact Int.emod_eq_of_lt (Int.natCast_nonneg _) hlt
  rw [hmod, Int.toNat_natCast]

/-- **The first byte only repeats the sign** exactly where the number fits in the others. -/
theorem fits_iff {first second : UInt8} {rest : Bytes} :
    Fits (rest.length + 1) (Bytes.beInt (first :: second :: rest)) ↔
      (first = 0 ∧ second < 0x80) ∨ (first = 0xFF ∧ 0x80 ≤ second) := by
  have hfirst := first.toNat_lt
  have hsecond := second.toNat_lt
  have hrest := Bytes.beNat_lt (rfl : rest.length = rest.length)
  have hvalue : Bytes.beNat (first :: second :: rest) =
      (256 * first.toNat + second.toNat) * 256 ^ rest.length + Bytes.beNat rest := by
    rw [beNat_cons, beNat_cons, List.length_cons, Nat.pow_succ]
    ring
  have hsign : 2 * Bytes.beNat (first :: second :: rest) < 256 ^ (rest.length + 1 + 1) ↔ first.toNat < 0x80 := beNat_low
  have hzero : first = 0 ↔ first.toNat = 0 := UInt8.toNat_inj.symm
  have hones : first = 0xFF ↔ first.toNat = 0xFF := UInt8.toNat_inj.symm
  have hlow : second < 0x80 ↔ second.toNat < 0x80 := UInt8.lt_iff_toNat_lt
  have hhigh : 0x80 ≤ second ↔ 0x80 ≤ second.toNat := UInt8.le_iff_toNat_le
  rw [hzero, hones, hlow, hhigh]
  -- the two bytes in front as one number, times what the others count
  generalize hfront : 256 * first.toNat + second.toNat = front at hvalue
  have hbelow : ∀ bound : Nat, front < bound → front * 256 ^ rest.length + Bytes.beNat rest < bound * 256 ^ rest.length := by
    intro bound hlt
    have hmul : (front + 1) * 256 ^ rest.length ≤ bound * 256 ^ rest.length := Nat.mul_le_mul_right _ hlt
    rw [Nat.succ_mul] at hmul
    omega
  have habove : ∀ bound : Nat, bound ≤ front → bound * 256 ^ rest.length ≤ front * 256 ^ rest.length + Bytes.beNat rest :=
    fun bound hle => le_trans (Nat.mul_le_mul_right _ hle) (Nat.le_add_right _ _)
  have hpow : (256 : Int) ^ (rest.length + 1) = 256 * (256 ^ rest.length : Nat) := by
    rw [Int.pow_succ]
    push_cast
    ring
  have hfull : (256 : Int) ^ (rest.length + 1 + 1) = 65536 * (256 ^ rest.length : Nat) := by
    rw [Int.pow_succ, hpow]
    ring
  unfold Fits Bytes.beInt
  rw [List.length_cons, List.length_cons, hpow, hfull]
  by_cases hneg : first.toNat < 0x80
  · rw [if_pos (hsign.mpr hneg), hvalue]
    by_cases hsmall : front < 0x80
    · have hlt := hbelow 0x80 hsmall
      exact iff_of_true (by constructor <;> omega) (.inl (by omega))
    · have hge := habove 0x80 (not_lt.mp hsmall)
      exact iff_of_false (by omega) (by omega)
  · rw [if_neg fun h => hneg (hsign.mp h), hvalue]
    by_cases hsmall : front < 0xFF80
    · have hlt := hbelow 0xFF80 hsmall
      exact iff_of_false (by omega) (by omega)
    · have hge := habove 0xFF80 (not_lt.mp hsmall)
      have hlt := hbelow 65536 (by omega)
      exact iff_of_true (by constructor <;> omega) (.inr (by omega))

theorem minimal_iff {first second : UInt8} {rest : Bytes} :
    Minimal (first :: second :: rest) ↔ ¬ Fits (rest.length + 1) (Bytes.beInt (first :: second :: rest)) := by
  rw [fits_iff, not_or]
  exact Iff.rfl

/-- **What is minimal** is the encoding of its number. -/
theorem integer_beInt {content : Bytes} (h : Minimal content) : integer (Bytes.beInt content) = content := by
  have hwidth : width (Bytes.beInt content) = content.length := by
    have hpositive : 0 < width (Bytes.beInt content) := Nat.succ_pos _
    match content, h with
    | [first], _ =>
      have hle : width (Bytes.beInt [first]) ≤ 1 := (width_le Nat.one_pos).mpr fits_beInt
      exact le_antisymm hle hpositive
    | first :: second :: rest, h =>
      have hle : width (Bytes.beInt (first :: second :: rest)) ≤ rest.length + 1 + 1 :=
        (width_le (Nat.succ_pos _)).mpr fits_beInt
      have hnot := mt (width_le (Nat.succ_pos rest.length)).mp (minimal_iff.mp h)
      rw [List.length_cons, List.length_cons]
      omega
  rw [integer, hwidth, beInt_emod, Bytes.be_beNat rfl]

theorem integer_length (value : Int) : (integer value).length = width value := Bytes.length_be _ _

/-- **The encoding** of a number is the number, … -/
theorem beInt_integer (value : Int) : Bytes.beInt (integer value) = value := by
  obtain ⟨hlow, hhigh⟩ := fits_width value
  have hpos : (0 : Int) < 256 ^ width value := by positivity
  have hnonneg := Int.emod_nonneg value hpos.ne'
  have hnat : ((value % 256 ^ width value).toNat : Int) = value % 256 ^ width value := Int.toNat_of_nonneg hnonneg
  have hlt : (value % 256 ^ width value).toNat < 256 ^ width value := by
    have hmod := Int.emod_lt_of_pos value hpos
    rw [← hnat] at hmod
    exact_mod_cast hmod
  unfold Bytes.beInt
  rw [integer_length, integer, beNat_be hlt, hnat]
  by_cases hsign : 0 ≤ value
  · have hmod : value % 256 ^ width value = value := Int.emod_eq_of_lt hsign (by omega)
    rw [if_pos, hmod]
    zify
    rw [hnat, hmod]
    exact hhigh
  · have hmod : value % 256 ^ width value = value + 256 ^ width value := by
      rw [← Int.add_emod_right]
      exact Int.emod_eq_of_lt (by omega) (by omega)
    rw [if_neg, hmod]
    · omega
    · zify
      rw [hnat, hmod]
      omega

/-- … and has no byte too many. -/
theorem minimal_integer (value : Int) : Minimal (integer value) := by
  have hlength := integer_length value
  have hvalue := beInt_integer value
  match hcontent : integer value with
  | [] =>
    rw [hcontent] at hlength
    exact absurd hlength (Nat.succ_ne_zero _).symm
  | [_] => exact trivial
  | first :: second :: rest =>
    rw [hcontent] at hlength hvalue
    rw [minimal_iff, hvalue]
    intro hfits
    have hle := (width_le (Nat.succ_pos _)).mpr hfits
    rw [List.length_cons, List.length_cons] at hlength
    omega

/-- An integer without a sign in front. -/
theorem beInt_low {first : UInt8} {rest : Bytes} (h : first.toNat < 0x80) :
    Bytes.beInt (first :: rest) = Bytes.beNat (first :: rest) := if_pos (beNat_low.mpr h)

theorem beInt_neg {first : UInt8} {rest : Bytes} : Bytes.beInt (first :: rest) < 0 ↔ 0x80 ≤ first.toNat := by
  have hlt : (Bytes.beNat (first :: rest) : Int) < 256 ^ (rest.length + 1) := by
    exact_mod_cast Bytes.beNat_lt (rfl : (first :: rest).length = rest.length + 1)
  by_cases hlow : first.toNat < 0x80
  · rw [beInt_low hlow]
    omega
  · refine iff_of_true ?_ (not_lt.mp hlow)
    rw [Bytes.beInt, List.length_cons, if_neg fun h => hlow (beNat_low.mp h)]
    omega

end Der

end T2TouchId
