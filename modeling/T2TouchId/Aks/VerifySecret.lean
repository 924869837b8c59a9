/-
  The verify-secret request of AppleKeyStore (`src/t2_aks_protocol.h` and `src/t2-aks-tool.c`).

  Problem: the tool writes a secret and a context, each as long as a field in front of it says, and the kernel
  takes the request apart again, from bytes it does not trust.  Does the kernel take what the tool writes and
  nothing else, and never look behind the end?

  1. **Program** — `verifySecretV1RequestAllowed` and `buildVerifyPasswordAcmRequest`.  The validator runs checked:
     a read behind the end, or a length that a `size_t` could not hold, is a `Fault`.
  2. **Reads** — what a read finds in a piece of the request.
  3. **The validator (`allowed_eq`)** — it never faults, and decides `Accepted`.
  4. **The layout (`accepted_iff`)** — what is accepted is what the tool writes, whose pieces can be told apart.
  5. **Result** — `verify_secret_exact`.
-/
import T2TouchId.Pieces

namespace T2TouchId.Aks

open T2TouchId.Python
open Bytes (slice length_slice drop_eq_slice slice_append slice_zero slice_succ slice_eq_le leNat_append leNat_le)

/-! ## The validator -/

/-- What can go wrong in C. -/
inductive Fault
  | outOfBounds (position : Nat)
  | wraps
  deriving DecidableEq

/-- A `size_t` has 32 bits or more. -/
def sizeLimit : Nat := 2 ^ 32

/-- `request[position]`. -/
def readByte (request : Bytes) (position : Nat) : Except Fault UInt8 :=
  match request[position]? with
  | some byte => .ok byte
  | none => .error (.outOfBounds position)

/-- The sum of two sizes. -/
def sizeAdd (a b : Nat) : Except Fault Nat := if a + b < sizeLimit then .ok (a + b) else .error .wraps

/-- `t2_aks_wire_get_le32`, of the bytes from a position on. -/
def wireGetLe32 (request : Bytes) (position : Nat) : Except Fault Nat := do
  let b0 ← readByte request position
  let b1 ← readByte request (position + 1)
  let b2 ← readByte request (position + 2)
  let b3 ← readByte request (position + 3)
  return Bytes.leNat [b0, b1, b2, b3]

/-- `t2_aks_wire_get_le64`. -/
def wireGetLe64 (request : Bytes) (position : Nat) : Except Fault Nat := do
  let low ← wireGetLe32 request position
  let high ← wireGetLe32 request (position + 4)
  return low + 2 ^ 32 * high

/-- The loop over the padding: are the next bytes zero? -/
def zerosFrom (request : Bytes) : Nat → Nat → Except Fault Bool
  | 0, _ => .ok true
  | count + 1, position => do
    let byte ← readByte request position
    if byte ≠ 0 then return false else zerosFrom request count (position + 1)

/-- `t2_aks_verify_secret_v1_request_allowed`. -/
def verifySecretV1RequestAllowed : Option Bytes → Except Fault Bool
  | none => .ok false
  | some request =>
    if request.length < 36 then .ok false
    else do
      let version ← wireGetLe32 request 0
      if version ≠ 1 then return false
      else
        let session ← wireGetLe64 request 4
        let handle ← wireGetLe32 request 12
        if session ≠ 1 ∨ handle = 0 then return false
        else
          let passwordLength ← wireGetLe32 request 16
          if passwordLength = 0 ∨ passwordLength > 128 then return false
          else
            let rounded ← sizeAdd passwordLength 3
            -- `& ~(size_t)3`
            let paddedLength := rounded - rounded % 4
            let least ← sizeAdd 32 paddedLength
            if request.length < least then return false
            else
              let zeros ← zerosFrom request (paddedLength - passwordLength) (20 + passwordLength)
              if ¬ zeros then return false
              else
                let contextLength ← wireGetLe32 request (20 + paddedLength)
                if contextLength ≠ 0 ∧ contextLength ≠ 16 then return false
                else
                  let expectedLength ← sizeAdd least contextLength
                  if request.length ≠ expectedLength then return false
                  else
                    let options ← wireGetLe64 request (24 + paddedLength + contextLength)
                    return decide (options = 0x200)

/-! ## The encoder -/

/-- A context. -/
abbrev Context := { bytes : Bytes // bytes.length = 16 }

/-- `memcpy` and the `put` functions: bytes in the place of others. -/
def put (position : Nat) (data request : Bytes) : Bytes :=
  request.take position ++ data ++ request.drop (position + data.length)

/-- `build_verify_password_acm_request`, with the length it returns; `calloc` may have no memory. -/
def buildVerifyPasswordAcmRequest (allocated : Bool) (session : UInt64) (handle : Int32) (secret : Bytes)
    (context : Option Context) : Option (Bytes × Nat) :=
  if secret.length = 0 ∨ secret.length > 128 ∨ handle = 0 then none
  else
    let contextLength := if context.isSome then 16 else 0
    let paddedLength := secret.length + 3 - (secret.length + 3) % 4
    let requestLength := 32 + paddedLength + contextLength
    if ¬ allocated then none
    else
      let request := put 0 (Bytes.le 4 1) (List.replicate requestLength 0)
      let request := put 4 (Bytes.le 8 session.toNat) request
      let request := put 12 (Bytes.le 4 handle.toUInt32.toNat) request
      let request := put 16 (Bytes.le 4 secret.length) request
      let request := put 20 secret request
      let request := put (20 + paddedLength) (Bytes.le 4 contextLength) request
      let request := match context with
        | some context => put (24 + paddedLength) context.val request
        | none => request
      let request := put (24 + paddedLength + contextLength) (Bytes.le 8 0x200) request
      some (request, requestLength % 2 ^ 32)

/-! ## Reads -/

theorem readByte_eq {request : Bytes} {position : Nat} (h : position < request.length) :
    readByte request position = .ok request[position] := by
  rw [readByte, List.getElem?_eq_getElem h]

theorem wireGetLe32_eq {request : Bytes} {position : Nat} (h : position + 4 ≤ request.length) :
    wireGetLe32 request position = .ok (Bytes.leNat (slice request position 4)) := by
  rw [wireGetLe32, readByte_eq (by omega), readByte_eq (by omega), readByte_eq (by omega), readByte_eq (by omega),
    slice_succ (by omega), slice_succ (by omega), slice_succ (by omega), slice_succ (by omega)]
  rfl

theorem wireGetLe64_eq {request : Bytes} {position : Nat} (h : position + 8 ≤ request.length) :
    wireGetLe64 request position = .ok (Bytes.leNat (slice request position 8)) := by
  have hsplit : slice request position 8 = slice request position 4 ++ slice request (position + 4) 4 :=
    Bytes.slice_add request position 4 4
  rw [wireGetLe64, wireGetLe32_eq (by omega), wireGetLe32_eq (by omega), hsplit, leNat_append, length_slice (by omega)]
  rfl

theorem zerosFrom_eq {request : Bytes} : ∀ {count position : Nat}, position + count ≤ request.length →
    zerosFrom request count position = .ok (decide (slice request position count = List.replicate count 0)) := by
  intro count
  induction count with
  | zero => exact fun _ => rfl
  | succ count ih =>
    intro position h
    have hlt : position < request.length := by omega
    rw [zerosFrom, readByte_eq hlt, slice_succ hlt, List.replicate_succ]
    show (if request[position] ≠ 0 then Except.ok false else zerosFrom request count (position + 1)) = _
    by_cases hzero : request[position] = 0
    · rw [if_neg (not_not.mpr hzero), ih (by omega), hzero]
      simp only [List.cons.injEq, true_and]
    · rw [if_pos hzero]
      simp only [List.cons.injEq, hzero, false_and, decide_false]

/-! ## The validator -/

/-- The length of the password with its padding. -/
def padded (length : Nat) : Nat := length + 3 - (length + 3) % 4

theorem padded_bounds (length : Nat) : length ≤ padded length ∧ padded length ≤ length + 3 := by
  unfold padded
  omega

theorem padded_pos {length : Nat} (h : 0 < length) : 4 ≤ padded length := by
  unfold padded
  omega

/-- The lengths that a request states. -/
def passwordLength (request : Bytes) : Nat := Bytes.leNat (slice request 16 4)
def contextLength (request : Bytes) : Nat := Bytes.leNat (slice request (20 + padded (passwordLength request)) 4)

/-- What the validator accepts, piece by piece. -/
structure Accepted (request : Bytes) : Prop where
  version : Bytes.leNat (slice request 0 4) = 1
  session : Bytes.leNat (slice request 4 8) = 1
  handle : Bytes.leNat (slice request 12 4) ≠ 0
  password : 0 < passwordLength request ∧ passwordLength request ≤ 128
  padding : slice request (20 + passwordLength request) (padded (passwordLength request) - passwordLength request) =
    List.replicate (padded (passwordLength request) - passwordLength request) 0
  context : contextLength request = 0 ∨ contextLength request = 16
  length : request.length = 32 + padded (passwordLength request) + contextLength request
  options : Bytes.leNat (slice request (24 + padded (passwordLength request) + contextLength request) 8) = 0x200

theorem Accepted.long {request : Bytes} (h : Accepted request) : 36 ≤ request.length := by
  have hpadded := padded_pos h.password.1
  have hlength := h.length
  omega

theorem sizeAdd_eq {a b : Nat} (h : a + b < sizeLimit) : sizeAdd a b = .ok (a + b) := if_pos h

/-- **The validator never faults**, and says whether the request is accepted. -/
theorem allowed_eq (request : Bytes) : ∃ verdict, verifySecretV1RequestAllowed (some request) = .ok verdict ∧
    (verdict = true ↔ Accepted request) := by
  have refused : ¬ Accepted request → ∃ verdict, (Except.ok false : Except Fault Bool) = .ok verdict ∧
      (verdict = true ↔ Accepted request) := fun h => ⟨false, rfl, iff_of_false Bool.false_ne_true h⟩
  rw [verifySecretV1RequestAllowed]
  by_cases hshort : request.length < 36
  · rw [if_pos hshort]
    exact refused fun h => absurd h.long (not_le.mpr hshort)
  rw [if_neg hshort, wireGetLe32_eq (by omega), ok_bind]
  by_cases hversion : Bytes.leNat (slice request 0 4) = 1
  swap
  · rw [if_pos hversion]
    exact refused fun h => hversion h.version
  rw [if_neg (not_not.mpr hversion), wireGetLe64_eq (by omega), ok_bind, wireGetLe32_eq (by omega), ok_bind]
  by_cases howner : Bytes.leNat (slice request 4 8) ≠ 1 ∨ Bytes.leNat (slice request 12 4) = 0
  · rw [if_pos howner]
    exact refused fun h => howner.elim (· h.session) h.handle
  obtain ⟨hsession, hhandle⟩ := not_or.mp howner
  rw [if_neg howner, wireGetLe32_eq (by omega), ok_bind]
  change ∃ verdict, (if passwordLength request = 0 ∨ passwordLength request > 128 then _ else _) = _ ∧ _
  by_cases hpassword : passwordLength request = 0 ∨ passwordLength request > 128
  · rw [if_pos hpassword]
    refine refused fun h => ?_
    have hbounds := h.password
    omega
  -- from here on all lengths are small
  have hlow : 0 < passwordLength request := by omega
  have hhigh : passwordLength request ≤ 128 := by omega
  have hpadded := padded_bounds (passwordLength request)
  rw [if_neg hpassword]
  change ∃ verdict, (sizeAdd (passwordLength request) 3 >>= fun rounded => _) = _ ∧ _
  rw [sizeAdd_eq (by unfold sizeLimit; omega), ok_bind]
  change ∃ verdict, (sizeAdd 32 (padded (passwordLength request)) >>= fun least => _) = _ ∧ _
  rw [sizeAdd_eq (by unfold sizeLimit; omega), ok_bind]
  by_cases hleast : request.length < 32 + padded (passwordLength request)
  · rw [if_pos hleast]
    refine refused fun h => ?_
    have hlength := h.length
    omega
  rw [if_neg hleast]
  change ∃ verdict, (zerosFrom request (padded (passwordLength request) - passwordLength request)
    (20 + passwordLength request) >>= fun zeros => _) = _ ∧ _
  rw [zerosFrom_eq (by omega), ok_bind]
  by_cases hzeros : slice request (20 + passwordLength request)
      (padded (passwordLength request) - passwordLength request) =
        List.replicate (padded (passwordLength request) - passwordLength request) 0
  swap
  · rw [if_pos (by simpa using hzeros)]
    exact refused fun h => hzeros h.padding
  rw [if_neg (by simpa using hzeros)]
  change ∃ verdict, (wireGetLe32 request (20 + padded (passwordLength request)) >>= fun found => _) = _ ∧ _
  rw [wireGetLe32_eq (by omega), ok_bind]
  change ∃ verdict, (if contextLength request ≠ 0 ∧ contextLength request ≠ 16 then _ else _) = _ ∧ _
  by_cases hcontext : contextLength request ≠ 0 ∧ contextLength request ≠ 16
  · rw [if_pos hcontext]
    exact refused fun h => h.context.elim hcontext.1 hcontext.2
  rw [if_neg hcontext]
  change ∃ verdict, (sizeAdd (32 + padded (passwordLength request)) (contextLength request) >>= fun expected => _) = _ ∧ _
  rw [sizeAdd_eq (by unfold sizeLimit; omega), ok_bind]
  by_cases hlength : request.length = 32 + padded (passwordLength request) + contextLength request
  swap
  · rw [if_pos hlength]
    exact refused fun h => hlength h.length
  rw [if_neg (not_not.mpr hlength)]
  change ∃ verdict, (wireGetLe64 request (24 + padded (passwordLength request) + contextLength request) >>=
    fun options => _) = _ ∧ _
  rw [wireGetLe64_eq (by omega), ok_bind]
  refine ⟨_, rfl, ?_⟩
  rw [decide_eq_true_iff]
  constructor
  · intro hoptions
    exact {
      version := hversion
      session := not_not.mp hsession
      handle := hhandle
      password := ⟨hlow, hhigh⟩
      padding := hzeros
      context := by omega
      length := hlength
      options := hoptions }
  · exact fun h => h.options

/-! ## The layout -/

/-- The pieces of a request in their order. -/
def layout (handle : Nat) (secret context : Bytes) : Bytes :=
  Bytes.le 4 1 ++ (Bytes.le 8 1 ++ (Bytes.le 4 handle ++ (Bytes.le 4 secret.length ++ (secret ++
    (List.replicate (padded secret.length - secret.length) 0 ++ (Bytes.le 4 context.length ++ (context ++
      Bytes.le 8 0x200)))))))

theorem length_layout (handle : Nat) (secret context : Bytes) :
    (layout handle secret context).length = 32 + padded secret.length + context.length := by
  have hpadded := padded_bounds secret.length
  simp only [layout, List.length_append, Bytes.length_le, List.length_replicate]
  omega

/-- What is laid out is accepted. -/
theorem accepted_layout {handle : Nat} {secret context : Bytes} (hhandle : handle ≠ 0) (hbits : handle < 2 ^ 32)
    (hsecret : 1 ≤ secret.length ∧ secret.length ≤ 128) (hcontext : context.length = 0 ∨ context.length = 16) :
    Accepted (layout handle secret context) := by
  have hpadded := padded_bounds secret.length
  have hpassword : passwordLength (layout handle secret context) = secret.length := by
    rw [passwordLength, layout, slice_append (by simp), slice_append (by simp), slice_append (by simp)]
    simp only [Bytes.length_le]
    rw [slice_zero (Bytes.length_le _ _), leNat_le (by omega)]
  have hbehind : ∀ {position count : Nat}, 20 + padded secret.length ≤ position →
      slice (layout handle secret context) position count =
        slice (Bytes.le 4 context.length ++ (context ++ Bytes.le 8 0x200)) (position - (20 + padded secret.length))
          count := by
    intro position count hposition
    rw [layout, slice_append (by simp; omega), slice_append (by simp; omega), slice_append (by simp; omega),
      slice_append (by simp; omega), slice_append (by simp; omega), slice_append (by simp; omega)]
    simp only [Bytes.length_le, List.length_replicate]
    exact congrArg (slice _ · count) (by omega)
  have hlength : contextLength (layout handle secret context) = context.length := by
    rw [contextLength, hpassword, hbehind (le_refl _), Nat.sub_self, slice_zero (Bytes.length_le _ _),
      leNat_le (by omega)]
  exact {
    version := by
      rw [layout, slice_zero (Bytes.length_le _ _), leNat_le (by decide)]
    session := by
      rw [layout, slice_append (by simp)]
      simp only [Bytes.length_le, Nat.sub_self]
      rw [slice_zero (Bytes.length_le _ _), leNat_le (by decide)]
    handle := by
      rw [layout, slice_append (by simp), slice_append (by simp)]
      simp only [Bytes.length_le]
      rw [slice_zero (Bytes.length_le _ _), leNat_le (by omega)]
      exact hhandle
    password := by
      rw [hpassword]
      omega
    padding := by
      rw [hpassword, layout, slice_append (by simp; omega), slice_append (by simp; omega),
        slice_append (by simp; omega), slice_append (by simp; omega), slice_append (by simp; omega)]
      simp only [Bytes.length_le]
      have hposition : 20 + secret.length - 4 - 8 - 4 - 4 - secret.length = 0 := by omega
      rw [hposition, slice_zero List.length_replicate]
    context := by rw [hlength]; exact hcontext
    length := by rw [length_layout, hpassword, hlength]
    options := by
      rw [hpassword, hlength, hbehind (by omega), slice_append (by simp; omega), slice_append (by simp; omega)]
      simp only [Bytes.length_le]
      have hposition : 24 + padded secret.length + context.length - (20 + padded secret.length) - 4 - context.length
          = 0 := by omega
      have hwhole : slice (Bytes.le 8 0x200 ++ []) 0 8 = Bytes.le 8 0x200 := slice_zero (Bytes.length_le 8 0x200)
      rw [List.append_nil] at hwhole
      rw [hposition, hwhole, leNat_le (by decide)] }

/-- What is accepted is laid out. -/
theorem layout_of_accepted {request : Bytes} (h : Accepted request) :
    request = layout (Bytes.leNat (slice request 12 4)) (slice request 20 (passwordLength request))
      (slice request (24 + padded (passwordLength request)) (contextLength request)) := by
  have hpadded := padded_bounds (passwordLength request)
  have hlength := h.length
  have hsecret : (slice request 20 (passwordLength request)).length = passwordLength request :=
    length_slice (by omega)
  have hcontext : (slice request (24 + padded (passwordLength request)) (contextLength request)).length =
      contextLength request := length_slice (by omega)
  have hversion : request.drop 0 = Bytes.le 4 1 ++ request.drop 4 := by
    rw [drop_eq_slice request 0 4, slice_eq_le (by omega) h.version]
  have hsession : request.drop 4 = Bytes.le 8 1 ++ request.drop 12 := by
    rw [drop_eq_slice request 4 8, slice_eq_le (by omega) h.session]
  have hhandle : request.drop 12 = Bytes.le 4 (Bytes.leNat (slice request 12 4)) ++ request.drop 16 := by
    rw [← slice_eq_le (by omega) rfl]
    exact drop_eq_slice request 12 4
  have hsize : request.drop 16 = Bytes.le 4 (passwordLength request) ++ request.drop 20 := by
    rw [← slice_eq_le (by omega) (rfl : _ = passwordLength request)]
    exact drop_eq_slice request 16 4
  have hpassword : request.drop 20 = slice request 20 (passwordLength request) ++
      request.drop (20 + passwordLength request) := drop_eq_slice request 20 _
  have hzeros : request.drop (20 + passwordLength request) =
      List.replicate (padded (passwordLength request) - passwordLength request) 0 ++
        request.drop (20 + padded (passwordLength request)) := by
    rw [← h.padding]
    have hposition : 20 + padded (passwordLength request) = 20 + passwordLength request +
        (padded (passwordLength request) - passwordLength request) := by omega
    rw [hposition]
    exact drop_eq_slice request _ _
  have hfound : request.drop (20 + padded (passwordLength request)) =
      Bytes.le 4 (contextLength request) ++ request.drop (24 + padded (passwordLength request)) := by
    rw [← slice_eq_le (by omega) (rfl : _ = contextLength request)]
    have hposition : 24 + padded (passwordLength request) = 20 + padded (passwordLength request) + 4 := by omega
    rw [hposition]
    exact drop_eq_slice request _ 4
  have hform : request.drop (24 + padded (passwordLength request)) =
      slice request (24 + padded (passwordLength request)) (contextLength request) ++
        request.drop (24 + padded (passwordLength request) + contextLength request) := drop_eq_slice request _ _
  have hoptions : request.drop (24 + padded (passwordLength request) + contextLength request) = Bytes.le 8 0x200 := by
    rw [← slice_eq_le (by omega) h.options, slice, List.take_of_length_le]
    rw [List.length_drop]
    omega
  calc request = request.drop 0 := rfl
    _ = _ := by
      rw [hversion, hsession, hhandle, hsize, hpassword, hzeros, hfound, hform, hoptions, layout, hsecret, hcontext]

/-! ### What the tool writes -/

theorem put_at (position : Nat) {data before piece behind : Bytes} (hposition : before.length = position)
    (hpiece : piece.length = data.length) :
    put position data (before ++ (piece ++ behind)) = before ++ data ++ behind := by
  have hend : position + data.length = before.length + piece.length := by omega
  rw [put, List.take_left' hposition, hend, List.drop_append, List.drop_eq_nil_of_le (Nat.le_add_right _ _),
    List.nil_append, Nat.add_sub_cancel_left, List.drop_left]

def contextBytes : Option Context → Bytes
  | none => []
  | some context => context.val

theorem length_contextBytes (context : Option Context) :
    (contextBytes context).length = if context.isSome then 16 else 0 := by
  cases context with
  | none => rfl
  | some context => exact context.property

/-- Zeros, piece by piece. -/
theorem zeros_split (length context : Nat) :
    List.replicate (32 + padded length + context) (0 : UInt8) =
      [] ++ (List.replicate 4 0 ++ (List.replicate 8 0 ++ (List.replicate 4 0 ++ (List.replicate 4 0 ++
        (List.replicate length 0 ++ (List.replicate (padded length - length) 0 ++ (List.replicate 4 0 ++
          (List.replicate context 0 ++ (List.replicate 8 0 ++ []))))))))) := by
  have hpadded := padded_bounds length
  rw [List.append_nil, List.nil_append]
  simp only [← List.replicate_add]
  exact congrArg (List.replicate · 0) (by omega)

/-- The tool writes the layout. -/
theorem build_eq {handle : Int32} {secret : Bytes} (context : Option Context) (hhandle : handle ≠ 0)
    (hsecret : 1 ≤ secret.length ∧ secret.length ≤ 128) :
    buildVerifyPasswordAcmRequest true 1 handle secret context =
      some (layout handle.toUInt32.toNat secret (contextBytes context),
        (layout handle.toUInt32.toNat secret (contextBytes context)).length) := by
  have hpadded := padded_bounds secret.length
  have hallowed : ¬ (secret.length = 0 ∨ secret.length > 128 ∨ handle = 0) := by
    rintro (h | h | h)
    · omega
    · omega
    · exact hhandle h
  have hone : Bytes.le 8 (1 : UInt64).toNat = Bytes.le 8 1 := rfl
  rw [buildVerifyPasswordAcmRequest, if_neg hallowed]
  show some (_, (32 + padded secret.length + _) % 2 ^ 32) = _
  rw [length_layout, length_contextBytes, hone]
  refine congrArg some (Prod.ext ?_ (Nat.mod_eq_of_lt ?_))
  swap
  · split <;> omega
  -- the pieces in front of the context
  have hfront : ∀ (size : Nat) (behind : Bytes), put (20 + padded secret.length) (Bytes.le 4 size) (put 20 secret
      (put 16 (Bytes.le 4 secret.length) (put 12 (Bytes.le 4 handle.toUInt32.toNat) (put 4 (Bytes.le 8 1)
        (put 0 (Bytes.le 4 1) ([] ++ (List.replicate 4 0 ++ (List.replicate 8 0 ++ (List.replicate 4 0 ++
          (List.replicate 4 0 ++ (List.replicate secret.length 0 ++
            (List.replicate (padded secret.length - secret.length) 0 ++ (List.replicate 4 0 ++ behind))))))))))))) =
      [] ++ Bytes.le 4 1 ++ Bytes.le 8 1 ++ Bytes.le 4 handle.toUInt32.toNat ++ Bytes.le 4 secret.length ++ secret ++
        List.replicate (padded secret.length - secret.length) 0 ++ Bytes.le 4 size ++ behind := by
    intro size behind
    rw [put_at 0, put_at 4, put_at 12, put_at 16, put_at 20,
      ← List.append_assoc _ (List.replicate (padded secret.length - secret.length) 0), put_at (20 + padded secret.length)]
    all_goals simp only [List.length_append, List.length_nil, List.length_replicate, Bytes.length_le]
    omega
  cases context with
  | none =>
    show put (24 + padded secret.length + 0) (Bytes.le 8 0x200) (put (20 + padded secret.length) (Bytes.le 4 0)
      (put 20 secret (put 16 _ (put 12 _ (put 4 _ (put 0 _ (List.replicate (32 + padded secret.length + 0) 0))))))) = _
    rw [zeros_split, hfront]
    show put _ _ (_ ++ (List.replicate 8 0 ++ [])) = _
    rw [put_at (24 + padded secret.length + 0)]
    · simp only [layout, contextBytes, List.append_assoc, List.append_nil, List.nil_append, List.length_nil]
    · simp only [List.length_append, List.length_nil, List.length_replicate, Bytes.length_le]
      omega
    · rw [List.length_replicate, Bytes.length_le]
  | some context =>
    have hcontext : context.val.length = 16 := context.property
    show put (24 + padded secret.length + 16) (Bytes.le 8 0x200) (put (24 + padded secret.length) context.val
      (put (20 + padded secret.length) (Bytes.le 4 16) (put 20 secret (put 16 _ (put 12 _ (put 4 _ (put 0 _
        (List.replicate (32 + padded secret.length + 16) 0)))))))) = _
    rw [zeros_split, hfront, put_at (24 + padded secret.length), put_at (24 + padded secret.length + 16)]
    · simp only [layout, contextBytes, hcontext, List.append_assoc, List.append_nil, List.nil_append]
    · simp only [List.length_append, List.length_nil, List.length_replicate, Bytes.length_le, hcontext]
      omega
    · rw [List.length_replicate, Bytes.length_le]
    · simp only [List.length_append, List.length_nil, List.length_replicate, Bytes.length_le]
      omega
    · rw [List.length_replicate, hcontext]

/-- The pieces of a layout can be told apart. -/
theorem layout_injective {handle handle' : Nat} {secret secret' context context' : Bytes} (hbits : handle < 2 ^ 32)
    (hbits' : handle' < 2 ^ 32) (hsecret : secret.length ≤ 128) (hsecret' : secret'.length ≤ 128)
    (hcontext : context.length ≤ 16) (hcontext' : context'.length ≤ 16)
    (h : layout handle secret context = layout handle' secret' context') :
    handle = handle' ∧ secret = secret' ∧ context = context' := by
  have hle : ∀ {m n : Nat}, m < 256 ^ 4 → n < 256 ^ 4 → Bytes.le 4 m = Bytes.le 4 n → m = n := by
    intro m n hm hn heq
    rw [← leNat_le hm, heq, leNat_le hn]
  obtain ⟨-, h⟩ := List.append_inj h (by simp)
  obtain ⟨-, h⟩ := List.append_inj h (by simp)
  obtain ⟨hhandle, h⟩ := List.append_inj h (by simp)
  obtain ⟨hsize, h⟩ := List.append_inj h (by simp)
  have hsize := hle (by omega) (by omega) hsize
  obtain ⟨hsame, h⟩ := List.append_inj h hsize
  obtain ⟨-, h⟩ := List.append_inj h (by rw [hsize])
  obtain ⟨hform, h⟩ := List.append_inj h (by simp)
  obtain ⟨hcontext, -⟩ := List.append_inj h (hle (by omega) (by omega) hform)
  exact ⟨hle (by omega) (by omega) hhandle, hsame, hcontext⟩

theorem contextBytes_injective {context context' : Option Context} (h : contextBytes context = contextBytes context') :
    context = context' := by
  have hlength := congrArg List.length h
  rw [length_contextBytes, length_contextBytes] at hlength
  cases context with
  | none =>
    cases context' with
    | none => rfl
    | some context' => exact nomatch hlength
  | some context =>
    cases context' with
    | none => exact nomatch hlength
    | some context' => exact congrArg some (Subtype.ext h)

/-- What the tool has tested. -/
theorem build_some {handle : Int32} {secret : Bytes} {context : Option Context} {written : Bytes × Nat}
    (h : buildVerifyPasswordAcmRequest true 1 handle secret context = some written) :
    handle ≠ 0 ∧ 1 ≤ secret.length ∧ secret.length ≤ 128 := by
  rw [buildVerifyPasswordAcmRequest] at h
  by_cases hrefused : secret.length = 0 ∨ secret.length > 128 ∨ handle = 0
  · rw [if_pos hrefused] at h
    exact nomatch h
  · obtain ⟨hempty, hrefused⟩ := not_or.mp hrefused
    obtain ⟨hlong, hhandle⟩ := not_or.mp hrefused
    exact ⟨hhandle, by omega, by omega⟩

/-- What is accepted is the layout of a handle, a secret and a context. -/
theorem written_of_accepted {request : Bytes} (h : Accepted request) :
    ∃ (handle : Int32) (secret : Bytes) (context : Option Context), handle ≠ 0 ∧
      (1 ≤ secret.length ∧ secret.length ≤ 128) ∧
      layout handle.toUInt32.toNat secret (contextBytes context) = request := by
  have hlayout := layout_of_accepted h
  have hpadded := padded_bounds (passwordLength request)
  have hpassword := h.password
  have hlength := h.length
  have hbits : Bytes.leNat (slice request 12 4) < 2 ^ 32 := by
    have hlt := Bytes.leNat_lt (slice request 12 4)
    rwa [length_slice (by have hlong := h.long; omega)] at hlt
  have hhandle : (UInt32.ofNat (Bytes.leNat (slice request 12 4))).toInt32.toUInt32.toNat =
      Bytes.leNat (slice request 12 4) := by
    rw [UInt32.toUInt32_toInt32, UInt32.toNat_ofNat_of_lt' hbits]
  have hsecret : (slice request 20 (passwordLength request)).length = passwordLength request :=
    length_slice (by omega)
  have hcontext : ∃ context, contextBytes context =
      slice request (24 + padded (passwordLength request)) (contextLength request) := by
    rcases h.context with hnone | hsome
    · refine ⟨none, ?_⟩
      rw [hnone, slice, List.take_zero]
      rfl
    · exact ⟨some ⟨slice request (24 + padded (passwordLength request)) (contextLength request),
        (length_slice (by omega)).trans hsome⟩, rfl⟩
  obtain ⟨context, hcontext⟩ := hcontext
  refine ⟨(UInt32.ofNat (Bytes.leNat (slice request 12 4))).toInt32, slice request 20 (passwordLength request), context,
    fun hzero => h.handle ?_, by omega, ?_⟩
  · rw [← hhandle, hzero]
    rfl
  · rw [hhandle, hcontext]
    exact hlayout.symm

/-! ## The result -/

/-- **The encoder and the validator agree**: what the tool writes is accepted, what is accepted the tool writes for
    one handle, secret and context, and the validator reads nothing behind the end and computes no length that does not
    fit. -/
theorem verify_secret_exact :
    (∀ (handle : Int32) (secret : Bytes) (context : Option Context), handle ≠ 0 →
      1 ≤ secret.length ∧ secret.length ≤ 128 →
      ∃ request, buildVerifyPasswordAcmRequest true 1 handle secret context = some (request, request.length) ∧
        verifySecretV1RequestAllowed (some request) = .ok true) ∧
    (∀ request, verifySecretV1RequestAllowed (some request) = .ok true →
      ∃! written : Int32 × Bytes × Option Context,
        buildVerifyPasswordAcmRequest true 1 written.1 written.2.1 written.2.2 = some (request, request.length)) ∧
    ∀ request, ∃ verdict, verifySecretV1RequestAllowed request = .ok verdict := by
  have hallowed : ∀ request, verifySecretV1RequestAllowed (some request) = .ok true ↔ Accepted request := by
    intro request
    obtain ⟨verdict, hverdict, haccepted⟩ := allowed_eq request
    rw [hverdict, ← haccepted, Except.ok.injEq]
  have hcontexts : ∀ context : Option Context, (contextBytes context).length = 0 ∨ (contextBytes context).length = 16 := by
    intro context
    rw [length_contextBytes]
    split
    · exact .inr rfl
    · exact .inl rfl
  have hnonzero : ∀ handle : Int32, handle ≠ 0 → handle.toUInt32.toNat ≠ 0 := by
    intro handle hhandle hzero
    exact hhandle (congrArg UInt32.toInt32 (UInt32.toNat_inj.mp hzero : handle.toUInt32 = 0))
  refine ⟨?_, ?_, ?_⟩
  · intro handle secret context hhandle hsecret
    refine ⟨_, build_eq context hhandle hsecret, (hallowed _).mpr ?_⟩
    exact accepted_layout (hnonzero handle hhandle) handle.toUInt32.toNat_lt hsecret (hcontexts context)
  · intro request h
    have haccepted := (hallowed request).mp h
    obtain ⟨handle, secret, context, hhandle, hsecret, rfl⟩ := written_of_accepted haccepted
    refine ⟨(handle, secret, context), build_eq context hhandle hsecret, ?_⟩
    rintro ⟨handle', secret', context'⟩ hbuilt
    obtain ⟨hhandle', hsecret'⟩ := build_some hbuilt
    have hsame := build_eq context' hhandle' hsecret'
    rw [hbuilt] at hsame
    have hlayout := congrArg Prod.fst (Option.some.inj hsame)
    have hshort := fun context => (hcontexts context).elim (fun h => h.le.trans (by decide)) fun h => h.le
    obtain ⟨hbits, rfl, hform⟩ := layout_injective handle.toUInt32.toNat_lt handle'.toUInt32.toNat_lt hsecret.2
      hsecret'.2 (hshort context) (hshort context') hlayout
    obtain rfl : handle = handle' := congrArg UInt32.toInt32 (UInt32.toNat_inj.mp hbits)
    rw [contextBytes_injective hform]
  · intro request
    cases request with
    | none => exact ⟨false, rfl⟩
    | some request =>
      obtain ⟨verdict, hverdict, -⟩ := allowed_eq request
      exact ⟨verdict, hverdict⟩

end T2TouchId.Aks
