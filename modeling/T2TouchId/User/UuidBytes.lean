/-
  Sixteen bytes as a UUID and back.

  `uuid.UUID(bytes=…)` is a number of sixteen bytes, `str` writes it in hexadecimal digits, and `uuid.UUID(text)`
  reads it.  Nothing is lost on the way:

  1. **Numbers** — `be_beNat`, for bytes most significant first.
  2. **Digits** — `foldl_digits`: the digits of a number, read from the left, are the number.
  3. **Result** — `uuidInt_uuidStr` and `uuidBytes_uuidStr`.
-/
import T2TouchId.User.Mapping

namespace T2TouchId.Bytes

/-! ## Numbers -/

theorem le_leNat (data : Bytes) : le data.length (leNat data) = data := by
  induction data with
  | nil => rfl
  | cons b data ih =>
    have hb := b.toNat_lt
    have hlow : (b.toNat + 256 * leNat data) % 256 = b.toNat := by omega
    have hhigh : (b.toNat + 256 * leNat data) / 256 = leNat data := by omega
    rw [List.length_cons, leNat, le, hlow, hhigh, ih, UInt8.ofNat_toNat]

theorem leNat_lt (data : Bytes) : leNat data < 256 ^ data.length := by
  induction data with
  | nil => exact Nat.one_pos
  | cons b data ih =>
    have hb := b.toNat_lt
    rw [List.length_cons, leNat, Nat.pow_succ]
    omega

/-- Bytes most significant first are the bytes of their number, … -/
theorem be_beNat {data : Bytes} {width : Nat} (h : data.length = width) : be width (beNat data) = data := by
  rw [be, beNat, ← h, ← List.length_reverse, le_leNat, List.reverse_reverse]

/-- … which has no more digits than they are. -/
theorem beNat_lt {data : Bytes} {width : Nat} (h : data.length = width) : beNat data < 256 ^ width := by
  have hlt := leNat_lt data.reverse
  rwa [List.length_reverse, h] at hlt

end T2TouchId.Bytes

namespace T2TouchId.User

open T2TouchId.Python T2TouchId.Python.Json

/-! ## Digits -/

theorem isHexDigit_hexDigit (n : Nat) : isHexDigit (hexDigit n).val = true := by
  have h : ∀ m < 16, isHexDigit (hexDigit m).val = true := by decide
  have hmod : hexDigit n = hexDigit (n % 16) := by rw [hexDigit, hexDigit, Nat.mod_mod]
  rw [hmod]
  exact h _ (Nat.mod_lt n (by omega))

theorem digitValue_hexDigit (n : Nat) : digitValue (hexDigit n).val = n % 16 := by
  have h : ∀ m < 16, digitValue (hexDigit m).val = m := by decide
  have hmod : hexDigit n = hexDigit (n % 16) := by rw [hexDigit, hexDigit, Nat.mod_mod]
  rw [hmod]
  exact h _ (Nat.mod_lt n (by omega))

/-- So many digits of a number. -/
def digitsOf (count n : Nat) : PyStr := (List.range count).map fun i => hexDigit (n / 16 ^ (count - 1 - i))

theorem digitsOf_succ (count n : Nat) : digitsOf (count + 1) n = digitsOf count (n / 16) ++ [hexDigit n] := by
  rw [digitsOf, List.range_succ, List.map_append]
  congr 1
  · refine List.map_congr_left fun i hi => ?_
    have hlt := List.mem_range.mp hi
    have hexponent : count + 1 - 1 - i = (count - 1 - i) + 1 := by omega
    rw [hexponent, Nat.pow_succ, Nat.mul_comm, Nat.div_div_eq_div_mul]
  · simp

/-- Read from the left, the digits of a number are the number. -/
theorem foldl_digits (count : Nat) : ∀ n,
    ((digitsOf count n).map fun c => c.val).foldl (fun n d => 16 * n + digitValue d) 0 = n % 16 ^ count := by
  induction count with
  | zero =>
    intro n
    rw [Nat.pow_zero, Nat.mod_one]
    rfl
  | succ count ih =>
    intro n
    rw [digitsOf_succ, List.map_append, List.foldl_append, ih]
    show 16 * (n / 16 % 16 ^ count) + digitValue (hexDigit n).val = n % 16 ^ (count + 1)
    rw [digitValue_hexDigit, Nat.pow_succ, Nat.mul_comm (16 ^ count) 16, Nat.mod_mul]
    omega

/-! ## Result -/

theorem uuidStr_eq (n : Nat) : uuidStr n = dashed (digitsOf 32 n) := rfl

theorem mem_digitsOf {count n : Nat} {c : CodePoint} (h : c ∈ digitsOf count n) : isHexDigit c.val = true := by
  obtain ⟨i, -, rfl⟩ := List.mem_map.mp h
  exact isHexDigit_hexDigit _

/-- A number of sixteen bytes is read as it was written. -/
theorem uuidInt_uuidStr {n : Nat} (h : n < 256 ^ 16) : uuidInt (uuidStr n) = n := by
  have hhex : uuidHex (uuidStr n) = digitsOf 32 n := by
    rw [uuidStr_eq]
    exact uuidHex_dashed fun c hc => mem_digitsOf hc
  have hbelow : ∀ c ∈ digitsOf 32 n, intChar c = some c.val := by
    intro c hc
    have hdigit := mem_digitsOf hc
    simp only [isHexDigit, decide_eq_true_eq] at hdigit
    rw [intChar, if_pos (by omega)]
  have hchars : (digitsOf 32 n).filterMap intChar = (digitsOf 32 n).map fun c => c.val := by
    rw [← List.filterMap_eq_map]
    exact List.filterMap_congr hbelow
  have hall : ((digitsOf 32 n).map fun c => c.val).filter isHexDigit = (digitsOf 32 n).map fun c => c.val := by
    refine List.filter_eq_self.mpr fun m hm => ?_
    obtain ⟨c, hc, rfl⟩ := List.mem_map.mp hm
    exact mem_digitsOf hc
  rw [uuidInt, hhex, hchars, hall, foldl_digits]
  exact Nat.mod_eq_of_lt (by omega)

/-- `uuid.UUID(text).bytes`. -/
def uuidBytes (text : PyStr) : Bytes := Bytes.be 16 (uuidInt text)

theorem uuidBytes_uuidStr {data : Bytes} (h : data.length = 16) : uuidBytes (uuidStr (Bytes.beNat data)) = data := by
  rw [uuidBytes, uuidInt_uuidStr (Bytes.beNat_lt h), Bytes.be_beNat h]

end T2TouchId.User
