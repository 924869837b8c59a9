/-
  Pieces of byte strings.

  Formats put numbers and strings one behind the other, and readers take them out by their positions:

  1. **Slices** — `slice`, of a string put together of others.
  2. **Numbers** — `leNat` of a string in two pieces, and of what `le` has written.
  3. **Records** — a string of records of one size, taken apart and put together again.
-/
import T2TouchId.User.UuidBytes

namespace T2TouchId.Bytes

/-! ## Slices -/

/-- So many bytes from a position on. -/
def slice (request : Bytes) (position count : Nat) : Bytes := (request.drop position).take count

theorem length_slice {request : Bytes} {position count : Nat} (h : position + count ≤ request.length) :
    (slice request position count).length = count := by
  rw [slice, List.length_take, List.length_drop]
  omega

theorem drop_eq_slice (request : Bytes) (position count : Nat) :
    request.drop position = slice request position count ++ request.drop (position + count) := by
  rw [slice, ← List.drop_drop, List.take_append_drop]

/-- A piece behind what is in front. -/
theorem slice_append {before behind : Bytes} {position count : Nat} (h : before.length ≤ position) :
    slice (before ++ behind) position count = slice behind (position - before.length) count := by
  rw [slice, slice, List.drop_append, List.drop_eq_nil_of_le h, List.nil_append]

theorem slice_zero {piece behind : Bytes} {count : Nat} (h : piece.length = count) :
    slice (piece ++ behind) 0 count = piece := by
  rw [slice, List.drop_zero, List.take_left' h]

theorem slice_succ {request : Bytes} {position count : Nat} (h : position < request.length) :
    slice request position (count + 1) = request[position] :: slice request (position + 1) count := by
  rw [slice, slice, List.drop_eq_getElem_cons h, List.take_succ_cons]

/-- A piece in two. -/
theorem slice_add (request : Bytes) (position count more : Nat) :
    slice request position (count + more) = slice request position count ++ slice request (position + count) more := by
  rw [slice, slice, slice, ← List.drop_drop, List.take_add]

/-! ## Numbers -/

/-- The bytes of a number. -/
theorem slice_eq_le {request : Bytes} {position count n : Nat} (h : position + count ≤ request.length)
    (hn : leNat (slice request position count) = n) : slice request position count = le count n := by
  have hle := le_leNat (slice request position count)
  rw [length_slice h, hn] at hle
  exact hle.symm

theorem leNat_append (a b : Bytes) : leNat (a ++ b) = leNat a + 256 ^ a.length * leNat b := by
  induction a with
  | nil => rw [List.nil_append, List.length_nil, Nat.pow_zero, Nat.one_mul, leNat, Nat.zero_add]
  | cons byte a ih =>
    rw [List.cons_append, leNat, leNat, ih, List.length_cons, Nat.pow_succ, Nat.mul_add, ← Nat.mul_assoc,
      Nat.mul_comm 256 (256 ^ a.length), Nat.add_assoc]

theorem leNat_le {width n : Nat} (h : n < 256 ^ width) : leNat (le width n) = n := by
  induction width generalizing n with
  | zero =>
    rw [Nat.pow_zero] at h
    show 0 = n
    omega
  | succ width ih =>
    rw [Nat.pow_succ] at h
    have hbyte : (UInt8.ofNat (n % 256)).toNat = n % 256 :=
      UInt8.toNat_ofNat_of_lt' (Nat.mod_lt n (by decide))
    rw [le, leNat, ih (by omega), hbyte]
    omega

/-! ## Records -/

/-- So many records of one size. -/
def records (size : Nat) : Nat → Bytes → List Bytes
  | 0, _ => []
  | count + 1, output => output.take size :: records size count (output.drop size)

theorem length_record {size : Nat} : ∀ {count : Nat} {output : Bytes}, output.length = count * size →
    ∀ record ∈ records size count output, record.length = size := by
  intro count
  induction count with
  | zero => exact fun _ _ h => nomatch h
  | succ count ih =>
    intro output hlength record hrecord
    rw [Nat.succ_mul] at hlength
    rcases List.mem_cons.mp hrecord with rfl | hrecord
    · rw [List.length_take]
      omega
    · exact ih (by rw [List.length_drop]; omega) record hrecord

/-- The records put together again. -/
theorem flatten_records {size : Nat} : ∀ {count : Nat} {output : Bytes}, output.length = count * size →
    (records size count output).flatten = output := by
  intro count
  induction count with
  | zero =>
    intro output hlength
    rw [Nat.zero_mul] at hlength
    rw [List.length_eq_zero_iff.mp hlength]
    rfl
  | succ count ih =>
    intro output hlength
    rw [Nat.succ_mul] at hlength
    rw [records, List.flatten_cons, ih (by rw [List.length_drop]; omega), List.take_append_drop]

theorem records_flatten {size : Nat} : ∀ {pieces : List Bytes}, (∀ piece ∈ pieces, piece.length = size) →
    records size pieces.length pieces.flatten = pieces := by
  intro pieces
  induction pieces with
  | nil => exact fun _ => rfl
  | cons piece pieces ih =>
    intro h
    obtain ⟨hpiece, hpieces⟩ := List.forall_mem_cons.mp h
    rw [List.length_cons, records, List.flatten_cons, List.take_left' hpiece, List.drop_left' hpiece, ih hpieces]

end T2TouchId.Bytes
