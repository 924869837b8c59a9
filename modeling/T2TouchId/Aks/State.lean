/-
  The keybag state of AppleKeyStore (`src/t2_aks_state.py`).

  Problem: the state arrives as a DER dictionary, from bytes that are not trusted.  The decoder is written by hand,
  with lengths of three forms, integers with and without a sign, and ranges that are tested at the end.  Is there
  exactly one byte string for each state that it takes?

  1. **Program** — `decode`, in the order of the source.  A read behind the end, a missing key and an assertion raise
     what Python raises.
  2. **Specification** — `KeybagState.encoding`, and the ranges that the fields are declared with (`InRange`).
  3. **Elements (`tlv_iff`)** — an element is read exactly where its encoding stands.
  4. **Items (`decodeItems_iff`)** — the loop takes exactly the encodings of items with different keys.
  5. **The crux (`stateOf_iff`)** — of the items of the ten keys in order, the state is made whose items they are.
  6. **Result** — `decode_exact`.
-/
import T2TouchId.Der
import T2TouchId.Raising

namespace T2TouchId.Aks.State

open T2TouchId.Python T2TouchId.User

/-! ## Program -/

def maxDerBytes : Nat := 16300
def int32Min : Int := -2 ^ 31
def int32Max : Int := 2 ^ 31 - 1
def uint32Max : Int := 2 ^ 32 - 1
def uint64Max : Int := 2 ^ 64 - 1

/-- What `decode` can raise. -/
inductive Raised
  /-- `AKSStateError`. -/
  | aksState (message : String)
  | indexError
  | keyError
  | assertionError
  deriving DecidableEq

structure KeybagState where
  handle : Int
  maximumUnlockAttempts : Int
  backoff : Int
  failedAttempts : Int
  generationState : Int
  lockState : Int
  moreState : Int
  recoveryCountdown : Int
  state : Int
  userUuid : PyStr
  deriving DecidableEq

/-- `data[offset]`. -/
def byteAt (data : Bytes) (offset : Nat) : Except Raised UInt8 :=
  match data[offset]? with
  | some byte => .ok byte
  | none => .error .indexError

/-- `_length`. -/
def length (data : Bytes) (offset : Nat) : Except Raised (Nat × Nat) := do
  raiseIf (data.length ≤ offset) (.aksState "DER length is truncated")
  let first ← byteAt data offset
  let offset := offset + 1
  if first < 0x80 then return (first.toNat, offset)
  let count := first.toNat &&& 0x7F
  raiseIf (count = 0) (.aksState "indefinite DER length is forbidden")
  raiseIf (2 < count ∨ data.length < offset + count) (.aksState "DER length is invalid")
  let encoded := Bytes.slice data offset count
  let top ← byteAt encoded 0
  raiseIf (top = 0) (.aksState "DER length is not minimally encoded")
  let value := Bytes.beNat encoded
  raiseIf (value < 0x80) (.aksState "DER long-form length is not minimal")
  return (value, offset + count)

/-- `_tlv`: the byte at the offset is the tag, where there is one. -/
def tlv (data : Bytes) (offset : Nat) (expectedTag : UInt8) : Except Raised (Bytes × Nat) := do
  raiseIf (data[offset]? ≠ some expectedTag) (.aksState "DER tag is unexpected")
  let (size, contentOffset) ← length data (offset + 1)
  let stop := contentOffset + size
  raiseIf (data.length < stop) (.aksState "DER value is truncated")
  return (Bytes.slice data contentOffset size, stop)

/-- `int.from_bytes(content, "big", signed=signed)`. -/
def fromBytes (content : Bytes) (signed : Bool) : Int := if signed then Bytes.beInt content else Bytes.beNat content

/-- The tests of `_integer` that the first byte says something. -/
def checkPadding (content : Bytes) (field : String) : Except Raised Unit :=
  if content.length > 1 then do
    let first ← byteAt content 0
    let second ← byteAt content 1
    raiseIf (first = 0 ∧ second < 0x80) (.aksState (field ++ " integer has redundant positive padding"))
    raiseIf (first = 0xFF ∧ 0x80 ≤ second) (.aksState (field ++ " integer has redundant negative padding"))
  else .ok ()

/-- The tests of `_integer` of the value. -/
def checkRange (value : Int) (signed : Bool) (field : String) : Except Raised Unit :=
  if signed then
    raiseIf (¬ (int32Min ≤ value ∧ value ≤ int32Max) ∨ value = 0)
      (.aksState (field ++ " is outside the signed handle range"))
  else
    raiseIf (¬ (0 ≤ value ∧ value ≤ uint64Max)) (.aksState (field ++ " is outside the unsigned state range"))

/-- `_integer`. -/
def integer (content : Bytes) (signed : Bool) (field : String) : Except Raised Int := do
  raiseIf (content = []) (.aksState (field ++ " integer is empty"))
  checkPadding content field
  let first ← byteAt content 0
  raiseIf (¬ signed ∧ first.toNat &&& 0x80 ≠ 0) (.aksState (field ++ " integer is negative"))
  let value := fromBytes content signed
  checkRange value signed field
  return value

/-- A value of the dictionary. -/
inductive FieldValue
  | int (value : Int)
  | bytes (content : Bytes)
  deriving DecidableEq

/-- A dictionary, in the order in which its keys were set. -/
abbrev Items := List (String × FieldValue)

/-- `content.decode("ascii")`. -/
def asciiText (content : Bytes) : Option String :=
  if content.all (· < 0x80) then some (String.ofList (content.map fun byte => Char.ofNat byte.toNat)) else none

/-- The body of the loop: the item of a sequence. -/
def decodeItem (values : Items) (sequence : Bytes) : Except Raised (String × FieldValue) := do
  let (keyContent, sequenceOffset) ← tlv sequence 0 0x0C
  match asciiText keyContent with
  | none => .error (.aksState "keybag state key is not ASCII")
  | some key =>
    raiseIf (key ∈ values.map Prod.fst) (.aksState "keybag state contains a duplicate key")
    raiseIf (sequence.length ≤ sequenceOffset) (.aksState "keybag state value is missing")
    let tag ← byteAt sequence sequenceOffset
    let (content, valueEnd) ← tlv sequence sequenceOffset tag
    raiseIf (valueEnd ≠ sequence.length) (.aksState "keybag state sequence has extra values")
    if tag = 0x02 then
      let value ← integer content (key = "bh") key
      return (key, .int value)
    else if tag = 0x04 then return (key, .bytes content)
    else .error (.aksState "keybag state value type is unsupported")

/-- What is read is not empty. -/
theorem tlv_progress {data content : Bytes} {offset stop : Nat} {tag : UInt8}
    (h : tlv data offset tag = .ok (content, stop)) : offset < stop := by
  obtain ⟨-, h⟩ := raiseIf_ok.mp h
  obtain ⟨⟨size, contentOffset⟩, hlength, h⟩ := bind_ok h
  obtain ⟨-, h⟩ := raiseIf_ok.mp h
  obtain ⟨-, rfl⟩ := Prod.mk.inj (Except.ok.inj h)
  obtain ⟨-, hlength⟩ := raiseIf_ok.mp hlength
  obtain ⟨first, -, hlength⟩ := bind_ok hlength
  have hbehind : offset + 1 < contentOffset := by
    by_cases hshort : first < 0x80
    · rw [if_pos hshort] at hlength
      obtain ⟨-, rfl⟩ := Prod.mk.inj (Except.ok.inj hlength)
      omega
    · rw [if_neg hshort] at hlength
      obtain ⟨-, hlength⟩ := raiseIf_ok.mp hlength
      obtain ⟨-, hlength⟩ := raiseIf_ok.mp hlength
      obtain ⟨top, -, hlength⟩ := bind_ok hlength
      obtain ⟨-, hlength⟩ := raiseIf_ok.mp hlength
      obtain ⟨-, hlength⟩ := raiseIf_ok.mp hlength
      obtain ⟨-, rfl⟩ := Prod.mk.inj (Except.ok.inj hlength)
      omega
  omega

/-- The loop over the sequences. -/
def decodeItems (root : Bytes) (offset : Nat) (values : Items) : Except Raised Items :=
  if offset < root.length then
    match _ : tlv root offset 0x30 with
    | .error error => .error error
    | .ok (sequence, next) => do
      let item ← decodeItem values sequence
      decodeItems root next (values ++ [item])
  else .ok values
termination_by root.length - offset
decreasing_by
  have hprogress : offset < next := tlv_progress (by assumption)
  omega

/-- `expected`, which `sorted` leaves in this order. -/
def expected : List String := ["bh", "mua", "sb", "sfa", "sgs", "sls", "sms", "srcd", "ss", "uuuid"]

/-- `values[key]`. -/
def valueOf (values : Items) (key : String) : Except Raised FieldValue :=
  match values.lookup key with
  | some value => .ok value
  | none => .error .keyError

/-- `type(value) is int`. -/
def FieldValue.isInt : FieldValue → Bool
  | .int _ => true
  | .bytes _ => false

/-- `values[key]`, and the assertion that it is an integer. -/
def intOf (values : Items) (key : String) : Except Raised Int := do
  match ← valueOf values key with
  | .int value => return value
  | .bytes _ => .error .assertionError

/-- `decode` behind the loop. -/
def stateOf (values : Items) : Except Raised KeybagState := do
  let fieldOrder := values.map Prod.fst
  raiseIf (¬ ((∀ key ∈ fieldOrder, key ∈ expected) ∧ ∀ key ∈ expected, key ∈ fieldOrder))
    (.aksState "keybag state fields are incomplete or unsupported")
  raiseIf (fieldOrder ≠ expected) (.aksState "keybag state fields are not in Apple key order")
  let numbers ← (expected.filter (· ≠ "uuuid")).mapM (valueOf values)
  raiseIf (¬ numbers.all FieldValue.isInt) (.aksState "keybag state integer field has the wrong type")
  match ← valueOf values "uuuid" with
  | .int _ => .error (.aksState "keybag user UUID is not exactly 16 bytes")
  | .bytes rawUuid =>
    raiseIf (rawUuid.length ≠ 16) (.aksState "keybag user UUID is not exactly 16 bytes")
    raiseIf (Bytes.beNat rawUuid = 0) (.aksState "keybag user UUID is zero")
    let handle ← intOf values "bh"
    let maximumUnlockAttempts ← intOf values "mua"
    let backoff ← intOf values "sb"
    let failedAttempts ← intOf values "sfa"
    let generationState ← intOf values "sgs"
    let lockState ← intOf values "sls"
    let moreState ← intOf values "sms"
    let recoveryCountdown ← intOf values "srcd"
    let state ← intOf values "ss"
    raiseIf (uint32Max < maximumUnlockAttempts) (.aksState "maximum unlock attempts is outside uint32")
    raiseIf (uint32Max < backoff ∨ uint32Max < failedAttempts) (.aksState "keybag retry state is outside uint32")
    raiseIf (uint32Max < generationState ∨ uint32Max < moreState)
      (.aksState "keybag generation state is outside uint32")
    raiseIf (uint32Max < recoveryCountdown ∨ uint32Max < state) (.aksState "keybag state word is outside uint32")
    raiseIf (0xFFFF < lockState) (.aksState "keybag lock state is outside uint16")
    return { handle, maximumUnlockAttempts, backoff, failedAttempts, generationState, lockState, moreState,
             recoveryCountdown, state, userUuid := uuidStr (Bytes.beNat rawUuid) }

/-- `decode`, of `bytes` or of something else. -/
def decode : Option Bytes → Except Raised KeybagState
  | none => .error (.aksState "keybag state size is invalid")
  | some data => do
    raiseIf (¬ (0 < data.length ∧ data.length ≤ maxDerBytes)) (.aksState "keybag state size is invalid")
    let (root, stop) ← tlv data 0 0x31
    raiseIf (stop ≠ data.length) (.aksState "keybag state has trailing data")
    let values ← decodeItems root 0 []
    stateOf values

/-! ## Specification -/

/-- The bytes of a text of ASCII characters. -/
def asciiBytes (text : String) : Bytes := text.toList.map fun c => UInt8.ofNat c.toNat

/-- A value with its tag. -/
def FieldValue.encoding : FieldValue → Bytes
  | .int value => Der.element 0x02 (Der.integer value)
  | .bytes content => Der.element 0x04 content

def itemEncoding (item : String × FieldValue) : Bytes :=
  Der.element 0x30 (Der.element 0x0C (asciiBytes item.1) ++ item.2.encoding)

namespace KeybagState

/-- The items of a state, in the order of their keys. -/
def items (s : KeybagState) : Items :=
  [("bh", .int s.handle), ("mua", .int s.maximumUnlockAttempts), ("sb", .int s.backoff), ("sfa", .int s.failedAttempts),
   ("sgs", .int s.generationState), ("sls", .int s.lockState), ("sms", .int s.moreState),
   ("srcd", .int s.recoveryCountdown), ("ss", .int s.state), ("uuuid", .bytes (uuidBytes s.userUuid))]

/-- The canonical encoding of a state. -/
def encoding (s : KeybagState) : Bytes := Der.element 0x31 (s.items.flatMap itemEncoding)

/-- An unsigned number of so many bits. -/
abbrev Below (bound value : Int) : Prop := 0 ≤ value ∧ value ≤ bound

/-- The ranges of the fields. -/
structure InRange (s : KeybagState) : Prop where
  handle : (int32Min ≤ s.handle ∧ s.handle ≤ int32Max) ∧ s.handle ≠ 0
  maximumUnlockAttempts : Below uint32Max s.maximumUnlockAttempts
  backoff : Below uint32Max s.backoff
  failedAttempts : Below uint32Max s.failedAttempts
  generationState : Below uint32Max s.generationState
  lockState : Below 0xFFFF s.lockState
  moreState : Below uint32Max s.moreState
  recoveryCountdown : Below uint32Max s.recoveryCountdown
  state : Below uint32Max s.state
  userUuid : ∃ n, 0 < n ∧ n < 2 ^ 128 ∧ s.userUuid = uuidStr n

end KeybagState

/-! ## Elements -/

theorem byteAt_ok {data : Bytes} {offset : Nat} {byte : UInt8} :
    byteAt data offset = .ok byte ↔ data[offset]? = some byte := by
  unfold byteAt
  cases data[offset]? with
  | none => exact iff_of_false nofun nofun
  | some found => rw [Except.ok.injEq, Option.some.injEq]

theorem getElem?_iff {data : Bytes} {offset : Nat} {byte : UInt8} :
    data[offset]? = some byte ↔ ∃ rest, data.drop offset = byte :: rest := by
  rw [← List.head?_drop, List.head?_eq_some_iff]

theorem lt_of_drop {data rest : Bytes} {offset : Nat} {byte : UInt8} (h : data.drop offset = byte :: rest) :
    data.length = offset + 1 + rest.length := by
  have hlength := congrArg List.length h
  rw [List.length_drop, List.length_cons] at hlength
  omega

theorem drop_succ {data rest : Bytes} {offset : Nat} {byte : UInt8} (h : data.drop offset = byte :: rest) :
    data.drop (offset + 1) = rest := by
  rw [← List.drop_drop, h]
  rfl

/-- The low bits of the first byte. -/
theorem and_low (n : Nat) : n &&& 0x7F = n % 0x80 := Nat.and_two_pow_sub_one_eq_mod n 7

/-- A length that was read stands there, … -/
theorem length_ok {data : Bytes} {offset n stop : Nat} (h : length data offset = .ok (n, stop)) :
    n < 0x10000 ∧ ∃ rest, data.drop offset = Der.length n ++ rest ∧ stop = offset + (Der.length n).length := by
  obtain ⟨-, h⟩ := raiseIf_ok.mp h
  obtain ⟨first, hfirst, h⟩ := bind_ok h
  obtain ⟨rest, hdrop⟩ := getElem?_iff.mp (byteAt_ok.mp hfirst)
  have hbyte := first.toNat_lt
  by_cases hshort : first < 0x80
  · rw [if_pos hshort] at h
    obtain ⟨rfl, rfl⟩ := Prod.mk.inj (Except.ok.inj h)
    have hlt : first.toNat < 0x80 := UInt8.lt_iff_toNat_lt.mp hshort
    rw [Der.length_short hlt, UInt8.ofNat_toNat]
    exact ⟨by omega, rest, hdrop, rfl⟩
  rw [if_neg hshort] at h
  have hlong : 0x80 ≤ first.toNat := UInt8.le_iff_toNat_le.mp (UInt8.not_lt.mp hshort)
  obtain ⟨hzero, h⟩ := raiseIf_ok.mp h
  obtain ⟨hcount, h⟩ := raiseIf_ok.mp h
  obtain ⟨top, htop, h⟩ := bind_ok h
  obtain ⟨hpadded, h⟩ := raiseIf_ok.mp h
  obtain ⟨hsmall, h⟩ := raiseIf_ok.mp h
  obtain ⟨rfl, rfl⟩ := Prod.mk.inj (Except.ok.inj h)
  have hlow := and_low first.toNat
  have hroom := lt_of_drop hdrop
  generalize first.toNat &&& 0x7F = count at *
  have hslice : Bytes.slice data (offset + 1) count = rest.take count := by rw [Bytes.slice, drop_succ hdrop]
  rw [hslice] at htop hsmall ⊢
  obtain rfl | rfl : count = 1 ∨ count = 2 := by omega
  · rcases rest with _ | ⟨b, behind⟩
    · exact absurd hroom (by rw [List.length_nil]; omega)
    · have hvalue : Bytes.beNat ((b :: behind).take 1) = b.toNat := Nat.add_zero _
      have hb := b.toNat_lt
      rw [hvalue] at hsmall ⊢
      obtain rfl : first = 0x81 := UInt8.toNat_inj.mp (by show first.toNat = 0x81; omega)
      rw [Der.length_one (by omega) hb, UInt8.ofNat_toNat]
      exact ⟨by omega, behind, hdrop, rfl⟩
  · rcases rest with _ | ⟨b, _ | ⟨c, behind⟩⟩
    · exact absurd hroom (by rw [List.length_nil]; omega)
    · exact absurd hroom (by rw [List.length_singleton]; omega)
    · have hvalue : Bytes.beNat ((b :: c :: behind).take 2) = 256 * b.toNat + c.toNat := by
        show c.toNat + 256 * (b.toNat + 256 * 0) = _
        omega
      have hb := b.toNat_lt
      have hc := c.toNat_lt
      rw [hvalue] at hsmall ⊢
      have hne : b.toNat ≠ 0 := by
        obtain rfl : b = top := Option.some.inj (byteAt_ok.mp htop)
        exact fun h => hpadded (UInt8.toNat_inj.mp h)
      obtain rfl : first = 0x82 := UInt8.toNat_inj.mp (by show first.toNat = 0x82; omega)
      have hdiv : (256 * b.toNat + c.toNat) / 256 = b.toNat := by omega
      have hmod : (256 * b.toNat + c.toNat) % 256 = c.toNat := by omega
      rw [Der.length_two (by omega) (by omega), hdiv, hmod, UInt8.ofNat_toNat, UInt8.ofNat_toNat]
      exact ⟨by omega, behind, hdrop, rfl⟩

/-- … and a length that stands there is read. -/
theorem length_of {data rest : Bytes} {offset n : Nat} (hn : n < 0x10000)
    (h : data.drop offset = Der.length n ++ rest) : length data offset = .ok (n, offset + (Der.length n).length) := by
  have hslice : ∀ {first : UInt8} {behind : Bytes} (count : Nat), data.drop offset = first :: behind →
      Bytes.slice data (offset + 1) count = behind.take count := by
    intro first behind count hdrop
    rw [Bytes.slice, drop_succ hdrop]
  have hbyte : ∀ {m : Nat}, m < 0x100 → (UInt8.ofNat m).toNat = m := fun hm => UInt8.toNat_ofNat_of_lt' hm
  obtain hshort | ⟨hone, hlt⟩ | htwo : n < 0x80 ∨ (0x80 ≤ n ∧ n < 0x100) ∨ 0x100 ≤ n := by omega
  · rw [Der.length_short hshort] at h ⊢
    have hroom := lt_of_drop h
    have hfirst : UInt8.ofNat n < 0x80 := UInt8.lt_iff_toNat_lt.mpr (by rw [hbyte (by omega)]; exact hshort)
    refine raiseIf_ok.mpr ⟨by omega, bind_eq_ok.mpr ⟨_, byteAt_ok.mpr (getElem?_iff.mpr ⟨_, h⟩), ?_⟩⟩
    rw [if_pos hfirst, hbyte (by omega)]
    rfl
  · rw [Der.length_one hone hlt] at h ⊢
    change data.drop offset = 0x81 :: UInt8.ofNat n :: rest at h
    have hroom := lt_of_drop h
    rw [List.length_cons] at hroom
    refine raiseIf_ok.mpr ⟨by omega, bind_eq_ok.mpr ⟨_, byteAt_ok.mpr (getElem?_iff.mpr ⟨_, h⟩), ?_⟩⟩
    have hvalue : Bytes.beNat [UInt8.ofNat n] = n := (Nat.add_zero _).trans (hbyte hlt)
    rw [if_neg (by decide)]
    refine raiseIf_ok.mpr ⟨by decide, raiseIf_ok.mpr ⟨?_, ?_⟩⟩
    · rw [show (0x81 : UInt8).toNat &&& 0x7F = 1 from rfl]
      omega
    rw [show (0x81 : UInt8).toNat &&& 0x7F = 1 from rfl, hslice 1 h]
    refine bind_eq_ok.mpr ⟨UInt8.ofNat n, rfl, raiseIf_ok.mpr ⟨?_, raiseIf_ok.mpr ⟨?_, ?_⟩⟩⟩
    · intro hzero
      have hnat := congrArg UInt8.toNat hzero
      rw [hbyte hlt] at hnat
      exact absurd hnat (by show n ≠ 0; omega)
    · show ¬ Bytes.beNat [UInt8.ofNat n] < 0x80
      rw [hvalue]
      omega
    · show Except.ok (Bytes.beNat [UInt8.ofNat n], _) = _
      rw [hvalue]
      rfl
  · rw [Der.length_two htwo hn] at h ⊢
    change data.drop offset = 0x82 :: UInt8.ofNat (n / 256) :: UInt8.ofNat (n % 256) :: rest at h
    have hroom := lt_of_drop h
    rw [List.length_cons, List.length_cons] at hroom
    have hhigh : (UInt8.ofNat (n / 256)).toNat = n / 256 := hbyte (by omega)
    have hlow : (UInt8.ofNat (n % 256)).toNat = n % 256 := hbyte (by omega)
    have hvalue : Bytes.beNat [UInt8.ofNat (n / 256), UInt8.ofNat (n % 256)] = n := by
      show (UInt8.ofNat (n % 256)).toNat + 256 * ((UInt8.ofNat (n / 256)).toNat + 256 * 0) = n
      rw [hhigh, hlow]
      omega
    refine raiseIf_ok.mpr ⟨by omega, bind_eq_ok.mpr ⟨_, byteAt_ok.mpr (getElem?_iff.mpr ⟨_, h⟩), ?_⟩⟩
    rw [if_neg (by decide)]
    refine raiseIf_ok.mpr ⟨by decide, raiseIf_ok.mpr ⟨?_, ?_⟩⟩
    · rw [show (0x82 : UInt8).toNat &&& 0x7F = 2 from rfl]
      omega
    rw [show (0x82 : UInt8).toNat &&& 0x7F = 2 from rfl, hslice 2 h]
    refine bind_eq_ok.mpr ⟨UInt8.ofNat (n / 256), rfl, raiseIf_ok.mpr ⟨?_, raiseIf_ok.mpr ⟨?_, ?_⟩⟩⟩
    · intro hzero
      have hnat := congrArg UInt8.toNat hzero
      rw [hhigh] at hnat
      exact absurd hnat (by show n / 256 ≠ 0; omega)
    · show ¬ Bytes.beNat [UInt8.ofNat (n / 256), UInt8.ofNat (n % 256)] < 0x80
      rw [hvalue]
      omega
    · show Except.ok (Bytes.beNat [UInt8.ofNat (n / 256), UInt8.ofNat (n % 256)], _) = _
      rw [hvalue]
      rfl

/-- **An element is read** exactly where its encoding stands. -/
theorem tlv_iff {data content : Bytes} (hdata : data.length < 0x10000) {offset stop : Nat} {tag : UInt8} :
    tlv data offset tag = .ok (content, stop) ↔
      ∃ rest, data.drop offset = Der.element tag content ++ rest ∧ stop = offset + (Der.element tag content).length := by
  constructor
  · intro h
    obtain ⟨htag, h⟩ := raiseIf_ok.mp h
    obtain ⟨⟨size, contentOffset⟩, hlength, h⟩ := bind_ok h
    obtain ⟨hroom, h⟩ := raiseIf_ok.mp h
    obtain ⟨rfl, rfl⟩ := Prod.mk.inj (Except.ok.inj h)
    obtain ⟨rest, hdrop⟩ := getElem?_iff.mp (not_not.mp htag)
    obtain ⟨-, behind, hbehind, rfl⟩ := length_ok hlength
    have hcontent : (Bytes.slice data (offset + 1 + (Der.length size).length) size).length = size :=
      Bytes.length_slice (not_lt.mp hroom)
    obtain rfl : rest = Der.length size ++ behind := (drop_succ hdrop).symm.trans hbehind
    have hrest : data.drop (offset + 1 + (Der.length size).length) = behind := by
      rw [← List.drop_drop, hbehind, List.drop_left]
    refine ⟨behind.drop size, ?_, ?_⟩
    · rw [hdrop, Der.element, hcontent, Bytes.slice, hrest, List.cons_append, List.append_assoc, List.take_append_drop]
    · rw [Der.element_length, hcontent]
      omega
  · rintro ⟨rest, hdrop, rfl⟩
    have hroom := congrArg List.length hdrop
    rw [List.length_drop, List.length_append, Der.element_length] at hroom
    rw [Der.element, List.cons_append, List.append_assoc] at hdrop
    have hsize := length_of (by omega) (drop_succ hdrop)
    have hrest : data.drop (offset + 1 + (Der.length content.length).length) = content ++ rest := by
      rw [← List.drop_drop, drop_succ hdrop, List.drop_left]
    refine raiseIf_ok.mpr ⟨not_not.mpr (getElem?_iff.mpr ⟨_, hdrop⟩), bind_eq_ok.mpr ⟨_, hsize, raiseIf_ok.mpr ⟨?_, ?_⟩⟩⟩
    · show ¬ data.length < offset + 1 + (Der.length content.length).length + content.length
      have hpos := Der.length_pos content.length
      omega
    · show Except.ok (Bytes.slice data (offset + 1 + (Der.length content.length).length) content.length, _) = _
      rw [Bytes.slice, hrest, List.take_left, Der.element_length]
      exact congrArg (fun stop => Except.ok (content, stop)) (by omega)

/-! ## Items -/

/-- The values that an integer may have, with a sign and without. -/
def Admissible (signed : Bool) (value : Int) : Prop :=
  if signed then (int32Min ≤ value ∧ value ≤ int32Max) ∧ value ≠ 0 else 0 ≤ value ∧ value ≤ uint64Max

theorem and_sign {n : Nat} (h : n < 0x100) : n &&& 0x80 ≠ 0 ↔ 0x80 ≤ n := by
  have hall : ∀ m : Fin 0x100, m.val &&& 0x80 ≠ 0 ↔ 0x80 ≤ m.val := by decide +kernel
  exact hall ⟨n, h⟩

theorem checkPadding_ok {content : Bytes} {field : String} (hne : content ≠ []) :
    checkPadding content field = .ok () ↔ Der.Minimal content := by
  match content, hne with
  | [first], _ => exact iff_of_true rfl trivial
  | first :: second :: rest, _ =>
    have hlong : (first :: second :: rest).length > 1 := Nat.lt_of_sub_eq_succ rfl
    rw [checkPadding, if_pos hlong]
    exact raiseIf_ok.trans (and_congr_right fun _ => raiseIf_ok_last)

theorem checkRange_ok {value : Int} {signed : Bool} {field : String} :
    checkRange value signed field = .ok () ↔ Admissible signed value := by
  cases signed with
  | true =>
    refine raiseIf_ok_last.trans ?_
    rw [not_or, not_not]
    exact Iff.rfl
  | false => exact raiseIf_ok_last.trans not_not

/-- An integer is read exactly where it is minimal and in its range. -/
theorem integer_iff {content : Bytes} {signed : Bool} {field : String} {value : Int} :
    integer content signed field = .ok value ↔ content = Der.integer value ∧ Admissible signed value := by
  have hread : integer content signed field = .ok value ↔
      Der.Minimal content ∧ value = Bytes.beInt content ∧ Admissible signed value := by
    cases content with
    | nil => exact iff_of_false nofun fun h => h.1
    | cons first rest =>
      have hbyte := first.toNat_lt
      refine raiseIf_ok.trans ((and_iff_right (List.cons_ne_nil _ _)).trans ?_)
      have hpadded : checkPadding (first :: rest) field = .ok () ↔ Der.Minimal (first :: rest) :=
        checkPadding_ok (List.cons_ne_nil first rest)
      rw [bind_eq_ok, ← hpadded]
      constructor
      · rintro ⟨⟨⟩, hpadding, h⟩
        refine ⟨hpadding, ?_⟩
        obtain ⟨hnegative, h⟩ := raiseIf_ok.mp h
        obtain ⟨⟨⟩, hrange, h⟩ := bind_ok h
        obtain rfl := Except.ok.inj h
        refine ⟨?_, checkRange_ok.mp hrange⟩
        cases signed with
        | true => rfl
        | false =>
          have hlow : first.toNat < 0x80 :=
            not_le.mp fun hle => hnegative ⟨Bool.false_ne_true, (and_sign hbyte).mpr hle⟩
          exact (Der.beInt_low hlow).symm
      · rintro ⟨hpadding, rfl, hrange⟩
        have hvalue : fromBytes (first :: rest) signed = Bytes.beInt (first :: rest) ∧
            ¬ (¬ signed = true ∧ first.toNat &&& 0x80 ≠ 0) := by
          cases signed with
          | true => exact ⟨rfl, fun h => h.1 rfl⟩
          | false =>
            have hlow : first.toNat < 0x80 := not_le.mp fun hle => not_lt.mpr hrange.1 (Der.beInt_neg.mpr hle)
            exact ⟨(Der.beInt_low hlow).symm, fun h => not_le.mpr hlow ((and_sign hbyte).mp h.2)⟩
        refine ⟨(), hpadding, raiseIf_ok.mpr ⟨hvalue.2, bind_eq_ok.mpr ⟨(), ?_, congrArg Except.ok hvalue.1⟩⟩⟩
        rw [hvalue.1]
        exact checkRange_ok.mpr hrange
  rw [hread]
  constructor
  · rintro ⟨hminimal, rfl, hrange⟩
    exact ⟨(Der.integer_beInt hminimal).symm, hrange⟩
  · rintro ⟨rfl, hrange⟩
    exact ⟨Der.minimal_integer value, (Der.beInt_integer value).symm, hrange⟩

/-- A text of ASCII characters. -/
def IsAscii (text : String) : Prop := ∀ c ∈ text.toList, c.toNat < 0x80

theorem toNat_ofNat {n : Nat} (h : n < 0x80) : (Char.ofNat n).toNat = n := by
  have hall : ∀ m : Fin 0x80, (Char.ofNat m.val).toNat = m.val := by decide
  exact hall ⟨n, h⟩

theorem asciiText_iff {content : Bytes} {text : String} :
    asciiText content = some text ↔ content = asciiBytes text ∧ IsAscii text := by
  unfold asciiText
  constructor
  · intro h
    split at h
    swap
    · exact nomatch h
    rename_i hall
    obtain rfl := Option.some.inj h
    have hlow : ∀ byte ∈ content, byte.toNat < 0x80 := fun byte hbyte =>
      UInt8.lt_iff_toNat_lt.mp (of_decide_eq_true (List.all_eq_true.mp hall byte hbyte))
    constructor
    · rw [asciiBytes, String.toList_ofList, List.map_map]
      refine (List.map_id content).symm.trans (List.map_congr_left fun byte hbyte => ?_)
      rw [Function.comp_apply, toNat_ofNat (hlow byte hbyte), UInt8.ofNat_toNat]
      rfl
    · intro c hc
      rw [String.toList_ofList] at hc
      obtain ⟨byte, hbyte, rfl⟩ := List.mem_map.mp hc
      rw [toNat_ofNat (hlow byte hbyte)]
      exact hlow byte hbyte
  · rintro ⟨rfl, hascii⟩
    have hbyte : ∀ c ∈ text.toList, (UInt8.ofNat c.toNat).toNat = c.toNat := fun c hc =>
      UInt8.toNat_ofNat_of_lt' (lt_trans (hascii c hc) (by decide))
    rw [if_pos]
    · refine congrArg some ?_
      rw [asciiBytes, List.map_map, ← String.toList_inj, String.toList_ofList]
      refine (List.map_congr_left fun c hc => ?_).trans (List.map_id _)
      rw [Function.comp_apply, hbyte c hc, Char.ofNat_toNat]
      rfl
    · refine List.all_eq_true.mpr fun byte hmem => ?_
      obtain ⟨c, hc, rfl⟩ := List.mem_map.mp hmem
      refine decide_eq_true (UInt8.lt_iff_toNat_lt.mpr ?_)
      rw [hbyte c hc]
      exact hascii c hc

/-- The items that the decoder takes. -/
def Sound (item : String × FieldValue) : Prop :=
  IsAscii item.1 ∧ ∀ value, item.2 = .int value → Admissible (item.1 = "bh") value

theorem decodeItem_iff {values : Items} {sequence : Bytes} (hsequence : sequence.length < 0x10000)
    {item : String × FieldValue} :
    decodeItem values sequence = .ok item ↔
      sequence = Der.element 0x0C (asciiBytes item.1) ++ item.2.encoding ∧ Sound item ∧ item.1 ∉ values.map Prod.fst := by
  constructor
  · intro h
    obtain ⟨⟨keyContent, sequenceOffset⟩, hkey, h⟩ := bind_ok h
    obtain ⟨rest, hrest, rfl⟩ := (tlv_iff hsequence).mp hkey
    rw [List.drop_zero] at hrest
    obtain ⟨key, htext⟩ : ∃ key, asciiText keyContent = some key := by
      cases htext : asciiText keyContent with
      | none =>
        simp only [htext] at h
        exact nomatch h
      | some key => exact ⟨key, rfl⟩
    simp only [htext] at h
    obtain ⟨rfl, hascii⟩ := asciiText_iff.mp htext
    obtain ⟨hnew, h⟩ := raiseIf_ok.mp h
    obtain ⟨-, h⟩ := raiseIf_ok.mp h
    obtain ⟨tag, -, h⟩ := bind_ok h
    obtain ⟨⟨content, valueEnd⟩, hvalue, h⟩ := bind_ok h
    obtain ⟨hend, h⟩ := raiseIf_ok.mp h
    obtain ⟨behind, hbehind, rfl⟩ := (tlv_iff hsequence).mp hvalue
    rw [hrest, Nat.zero_add, List.drop_left] at hbehind
    -- the value ends where the sequence ends
    have hempty : behind = [] := by
      have hlength := congrArg List.length hrest
      rw [hbehind, List.length_append, List.length_append] at hlength
      exact List.length_eq_zero_iff.mp (by omega)
    rw [hempty, List.append_nil] at hbehind
    rw [hrest, hbehind]
    split at h
    · rename_i htag
      obtain ⟨value, hinteger, h⟩ := bind_ok h
      obtain rfl := Except.ok.inj h
      obtain ⟨rfl, hadmissible⟩ := integer_iff.mp hinteger
      rw [htag]
      exact ⟨rfl, ⟨hascii, fun _ h => FieldValue.int.inj h ▸ hadmissible⟩, hnew⟩
    · split at h
      · rename_i htag
        obtain rfl := Except.ok.inj h
        rw [htag]
        exact ⟨rfl, ⟨hascii, nofun⟩, hnew⟩
      · exact nomatch h
  · obtain ⟨key, value⟩ := item
    rintro ⟨hform, ⟨hascii, hadmissible⟩, hnew⟩
    refine bind_eq_ok.mpr ⟨⟨asciiBytes key, _⟩, (tlv_iff hsequence).mpr ⟨_, hform, rfl⟩, ?_⟩
    have htext : asciiText (asciiBytes key) = some key := asciiText_iff.mpr ⟨rfl, hascii⟩
    have hdrop : sequence.drop (0 + (Der.element 0x0C (asciiBytes key)).length) = value.encoding := by
      rw [hform, Nat.zero_add, List.drop_left]
    have hlength : sequence.length = (Der.element 0x0C (asciiBytes key)).length + value.encoding.length := by
      rw [hform, List.length_append]
    have hpos : 0 < value.encoding.length := by
      cases value with
      | int value => exact Nat.succ_pos _
      | bytes content => exact Nat.succ_pos _
    simp only [htext]
    refine raiseIf_ok.mpr ⟨hnew, raiseIf_ok.mpr ⟨by omega, ?_⟩⟩
    cases value with
    | int value =>
      refine bind_eq_ok.mpr ⟨0x02, byteAt_ok.mpr (getElem?_iff.mpr ⟨_, hdrop⟩), bind_eq_ok.mpr ⟨⟨Der.integer value, _⟩,
        (tlv_iff hsequence).mpr ⟨[], hdrop.trans (List.append_nil _).symm, rfl⟩, raiseIf_ok.mpr ⟨?_, ?_⟩⟩⟩
      · rw [hlength, Nat.zero_add]
        exact not_not.mpr rfl
      · rw [if_pos rfl]
        exact bind_eq_ok.mpr ⟨value, integer_iff.mpr ⟨rfl, hadmissible value rfl⟩, rfl⟩
    | bytes content =>
      refine bind_eq_ok.mpr ⟨0x04, byteAt_ok.mpr (getElem?_iff.mpr ⟨_, hdrop⟩), bind_eq_ok.mpr ⟨⟨content, _⟩,
        (tlv_iff hsequence).mpr ⟨[], hdrop.trans (List.append_nil _).symm, rfl⟩, raiseIf_ok.mpr ⟨?_, ?_⟩⟩⟩
      · rw [hlength, Nat.zero_add]
        exact not_not.mpr rfl
      · rfl

/-- **The loop** takes the encodings of items with different keys, and nothing else. -/
theorem decodeItems_iff {root : Bytes} (hroot : root.length < 0x10000) {result : Items} (offset : Nat) (values : Items) :
    decodeItems root offset values = .ok result ↔
      ∃ items, result = values ++ items ∧ root.drop offset = items.flatMap itemEncoding ∧
        (∀ item ∈ items, Sound item) ∧ ((items.map Prod.fst).Nodup ∧ ∀ key ∈ items.map Prod.fst, key ∉ values.map Prod.fst) := by
  induction offset, values using decodeItems.induct root with
  | case1 offset values hlt error htlv =>
    rw [decodeItems, if_pos hlt]
    split
    swap
    · rename_i hother
      exact nomatch htlv.symm.trans hother
    refine iff_of_false nofun ?_
    rintro ⟨items, -, hdrop, -⟩
    cases items with
    | nil =>
      have hlength := congrArg List.length hdrop
      rw [List.length_drop] at hlength
      have hzero : ([].flatMap itemEncoding : Bytes).length = 0 := rfl
      omega
    | cons item items =>
      rw [List.flatMap_cons, itemEncoding] at hdrop
      rw [(tlv_iff hroot).mpr ⟨_, hdrop, rfl⟩] at htlv
      exact nomatch htlv
  | case2 offset values hlt sequence next htlv ih =>
    rw [decodeItems, if_pos hlt]
    split
    · rename_i hother
      exact nomatch htlv.symm.trans hother
    rename_i found stop hfound
    obtain ⟨rfl, rfl⟩ := Prod.mk.inj (Except.ok.inj (htlv.symm.trans hfound))
    obtain ⟨rest, hrest, rfl⟩ := (tlv_iff hroot).mp htlv
    have hsequence : sequence.length < 0x10000 := by
      have hlength := congrArg List.length hrest
      rw [List.length_drop, List.length_append, Der.element_length] at hlength
      omega
    have hbehind : root.drop (offset + (Der.element 0x30 sequence).length) = rest := by
      rw [← List.drop_drop, hrest, List.drop_left]
    rw [bind_eq_ok]
    constructor
    · rintro ⟨item, hitem, h⟩
      obtain ⟨rfl, hsound, hnew⟩ := (decodeItem_iff hsequence).mp hitem
      obtain ⟨items, rfl, hdrop, hitems, hnodup, hfresh⟩ := (ih item).mp h
      refine ⟨item :: items, ?_, ?_, List.forall_mem_cons.mpr ⟨hsound, hitems⟩, ?_⟩
      · rw [List.append_assoc, List.singleton_append]
      · rw [hrest, List.flatMap_cons, ← hdrop, hbehind]
        rfl
      · rw [List.map_append, List.map_cons, List.map_nil] at hfresh
        rw [List.map_cons, List.nodup_cons, List.forall_mem_cons]
        refine ⟨⟨fun hmem => hfresh _ hmem ?_, hnodup⟩, hnew, fun key hkey hmem => hfresh key hkey ?_⟩
        · exact List.mem_append_right _ List.mem_cons_self
        · exact List.mem_append_left _ hmem
    · rintro ⟨items, rfl, hdrop, hitems, hnodup, hfresh⟩
      cases items with
      | nil =>
        rw [hrest] at hdrop
        exact nomatch hdrop
      | cons item items =>
        rw [List.flatMap_cons] at hdrop
        have hsame := (tlv_iff hroot).mpr ⟨_, hdrop, rfl⟩
        rw [htlv] at hsame
        obtain ⟨rfl, hnext⟩ := Prod.mk.inj (Except.ok.inj hsame)
        rw [List.map_cons, List.nodup_cons] at hnodup
        rw [List.map_cons, List.forall_mem_cons] at hfresh
        obtain ⟨hitem, hitems⟩ := List.forall_mem_cons.mp hitems
        refine ⟨item, (decodeItem_iff hsequence).mpr ⟨rfl, hitem, hfresh.1⟩, (ih item).mpr ⟨items, ?_, ?_, hitems, ?_⟩⟩
        · rw [List.append_assoc, List.singleton_append]
        · rw [hbehind]
          exact List.append_cancel_left (hrest.symm.trans hdrop)
        · refine ⟨hnodup.2, fun key hkey hmem => ?_⟩
          rw [List.map_append, List.mem_append] at hmem
          rcases hmem with hmem | hmem
          · exact hfresh.2 key hkey hmem
          · obtain rfl := List.mem_singleton.mp hmem
            exact hnodup.1 hkey
  | case3 offset values hge =>
    rw [decodeItems, if_neg hge, List.drop_eq_nil_of_le (not_lt.mp hge)]
    constructor
    · intro h
      exact ⟨[], by rw [← Except.ok.inj h, List.append_nil], rfl, nofun, List.nodup_nil, nofun⟩
    · rintro ⟨items, rfl, hdrop, -⟩
      cases items with
      | nil => rw [List.append_nil]
      | cons item items => exact nomatch hdrop

/-! ## The state -/

theorem isInt_iff {value : FieldValue} : value.isInt = true ↔ ∃ i, value = .int i := by
  cases value with
  | int i => exact iff_of_true rfl ⟨i, rfl⟩
  | bytes content => exact iff_of_false Bool.false_ne_true nofun

/-- Ten items of the ten keys. -/
theorem values_of_keys {values : Items} (h : values.map Prod.fst = expected) :
    ∃ bh mua sb sfa sgs sls sms srcd ss uuuid, values =
      [("bh", bh), ("mua", mua), ("sb", sb), ("sfa", sfa), ("sgs", sgs), ("sls", sls), ("sms", sms), ("srcd", srcd),
       ("ss", ss), ("uuuid", uuuid)] := by
  simp only [expected, List.map_eq_cons_iff, List.map_eq_nil_iff] at h
  obtain ⟨⟨_, bh⟩, _, rfl, rfl, ⟨_, mua⟩, _, rfl, rfl, ⟨_, sb⟩, _, rfl, rfl, ⟨_, sfa⟩, _, rfl, rfl, ⟨_, sgs⟩, _, rfl, rfl,
    ⟨_, sls⟩, _, rfl, rfl, ⟨_, sms⟩, _, rfl, rfl, ⟨_, srcd⟩, _, rfl, rfl, ⟨_, ss⟩, _, rfl, rfl, ⟨_, uuuid⟩, _, rfl, rfl,
    rfl⟩ := h
  exact ⟨bh, mua, sb, sfa, sgs, sls, sms, srcd, ss, uuuid, rfl⟩

/-- The tests of the items: ten keys, nine integers and sixteen bytes that are not zero. -/
theorem numbers_ok {bh mua sb sfa sgs sls sms srcd ss uuuid : FieldValue} :
    (expected.filter (· ≠ "uuuid")).mapM (valueOf [("bh", bh), ("mua", mua), ("sb", sb), ("sfa", sfa), ("sgs", sgs),
      ("sls", sls), ("sms", sms), ("srcd", srcd), ("ss", ss), ("uuuid", uuuid)]) =
        .ok [bh, mua, sb, sfa, sgs, sls, sms, srcd, ss] := rfl

/-- **The state** is the one whose items they are. -/
theorem stateOf_iff {values : Items} (hsound : ∀ item ∈ values, Sound item) {s : KeybagState} :
    stateOf values = .ok s ↔ s.InRange ∧ values = s.items := by
  constructor
  · intro h
    obtain ⟨-, h⟩ := raiseIf_ok.mp h
    obtain ⟨horder, h⟩ := raiseIf_ok.mp h
    obtain ⟨bh, mua, sb, sfa, sgs, sls, sms, srcd, ss, uuuid, rfl⟩ := values_of_keys (not_not.mp horder)
    obtain ⟨numbers, hnumbers, h⟩ := bind_ok h
    obtain rfl := Except.ok.inj (numbers_ok.symm.trans hnumbers)
    obtain ⟨hall, h⟩ := raiseIf_ok.mp h
    have hall := List.all_eq_true.mp (not_not.mp hall)
    simp only [List.forall_mem_cons, isInt_iff] at hall hsound
    obtain ⟨⟨bh, rfl⟩, ⟨mua, rfl⟩, ⟨sb, rfl⟩, ⟨sfa, rfl⟩, ⟨sgs, rfl⟩, ⟨sls, rfl⟩, ⟨sms, rfl⟩, ⟨srcd, rfl⟩, ⟨ss, rfl⟩, -⟩ :=
      hall
    obtain ⟨hbh, hmua, hsb, hsfa, hsgs, hsls, hsms, hsrcd, hss, -⟩ := hsound
    cases uuuid with
    | int value => exact nomatch h
    | bytes rawUuid =>
      obtain ⟨hlength, h⟩ := raiseIf_ok.mp h
      obtain ⟨hzero, h⟩ := raiseIf_ok.mp h
      change (raiseIf _ _ >>= fun _ => _) = _ at h
      obtain ⟨hmua', h⟩ := raiseIf_ok.mp h
      obtain ⟨hretry, h⟩ := raiseIf_ok.mp h
      obtain ⟨hgeneration, h⟩ := raiseIf_ok.mp h
      obtain ⟨hword, h⟩ := raiseIf_ok.mp h
      obtain ⟨hlock, h⟩ := raiseIf_ok.mp h
      obtain rfl := Except.ok.inj h
      have hlength := not_not.mp hlength
      have hlt := Bytes.beNat_lt hlength
      have hsigned : Admissible true bh := hbh.2 bh rfl
      have hnonneg : ∀ {key : String} {value : Int}, Sound (key, .int value) → key ≠ "bh" → 0 ≤ value := by
        intro key value hsound hkey
        have hadmissible := hsound.2 value rfl
        rw [decide_eq_false hkey] at hadmissible
        exact hadmissible.1
      refine ⟨?_, ?_⟩
      · exact {
          handle := hsigned
          maximumUnlockAttempts := ⟨hnonneg hmua (by decide), not_lt.mp hmua'⟩
          backoff := ⟨hnonneg hsb (by decide), not_lt.mp fun h => hretry (.inl h)⟩
          failedAttempts := ⟨hnonneg hsfa (by decide), not_lt.mp fun h => hretry (.inr h)⟩
          generationState := ⟨hnonneg hsgs (by decide), not_lt.mp fun h => hgeneration (.inl h)⟩
          lockState := ⟨hnonneg hsls (by decide), not_lt.mp hlock⟩
          moreState := ⟨hnonneg hsms (by decide), not_lt.mp fun h => hgeneration (.inr h)⟩
          recoveryCountdown := ⟨hnonneg hsrcd (by decide), not_lt.mp fun h => hword (.inl h)⟩
          state := ⟨hnonneg hss (by decide), not_lt.mp fun h => hword (.inr h)⟩
          userUuid := ⟨Bytes.beNat rawUuid, Nat.pos_of_ne_zero hzero, hlt, rfl⟩ }
      · rw [KeybagState.items, uuidBytes_uuidStr hlength]
  · rintro ⟨hrange, rfl⟩
    obtain ⟨n, hpos, hlt, huuid⟩ := hrange.userUuid
    have hraw : uuidBytes s.userUuid = Bytes.be 16 n := by rw [uuidBytes, huuid, uuidInt_uuidStr hlt]
    have hnumber : Bytes.beNat (uuidBytes s.userUuid) = n := by rw [hraw, Der.beNat_be hlt]
    have hlength : (uuidBytes s.userUuid).length = 16 := Bytes.length_be 16 _
    refine raiseIf_ok.mpr ⟨not_not.mpr ⟨fun _ h => h, fun _ h => h⟩, raiseIf_ok.mpr ⟨not_not.mpr rfl, ?_⟩⟩
    refine bind_eq_ok.mpr ⟨_, numbers_ok, raiseIf_ok.mpr ⟨not_not.mpr rfl, ?_⟩⟩
    rw [KeybagState.items]
    generalize uuidBytes s.userUuid = rawUuid at hnumber hlength ⊢
    refine raiseIf_ok.mpr ⟨not_not.mpr hlength, raiseIf_ok.mpr ⟨?_, ?_⟩⟩
    · rw [hnumber]
      exact hpos.ne'
    change (raiseIf _ _ >>= fun _ => _) = _
    refine raiseIf_ok.mpr ⟨not_lt.mpr hrange.maximumUnlockAttempts.2, raiseIf_ok.mpr ⟨?_, raiseIf_ok.mpr ⟨?_,
      raiseIf_ok.mpr ⟨?_, raiseIf_ok.mpr ⟨not_lt.mpr hrange.lockState.2, ?_⟩⟩⟩⟩⟩
    · exact not_or.mpr ⟨not_lt.mpr hrange.backoff.2, not_lt.mpr hrange.failedAttempts.2⟩
    · exact not_or.mpr ⟨not_lt.mpr hrange.generationState.2, not_lt.mpr hrange.moreState.2⟩
    · exact not_or.mpr ⟨not_lt.mpr hrange.recoveryCountdown.2, not_lt.mpr hrange.state.2⟩
    · rw [hnumber, ← huuid]
      rfl

/-! ## Sizes -/

/-- An integer of 32 bits, with a sign or without. -/
theorem int_le {value : Int} (h : int32Min ≤ value ∧ value ≤ uint32Max) : (Der.integer value).length ≤ 5 := by
  rw [Der.integer_length, Der.width_le (by decide)]
  unfold Der.Fits
  unfold int32Min uint32Max at h
  omega

theorem itemEncoding_le {item : String × FieldValue} (hkey : item.1.length ≤ 5)
    (hvalue : item.2.encoding.length ≤ 20) : (itemEncoding item).length ≤ 33 := by
  refine Der.element_le ?_ (by decide)
  have hascii : (asciiBytes item.1).length ≤ 5 := by
    rw [asciiBytes, List.length_map, String.length_toList]
    exact hkey
  have htext : (Der.element 0x0C (asciiBytes item.1)).length ≤ 9 := Der.element_le hascii (by decide)
  rw [List.length_append]
  omega

theorem flatMap_le {items : Items} (h : ∀ item ∈ items, (itemEncoding item).length ≤ 33) :
    (items.flatMap itemEncoding).length ≤ 33 * items.length := by
  induction items with
  | nil => exact le_refl 0
  | cons item items ih =>
    obtain ⟨hitem, hitems⟩ := List.forall_mem_cons.mp h
    have hrest := ih hitems
    rw [List.flatMap_cons, List.length_append, List.length_cons]
    omega

/-- An item of a number is sound and short, … -/
theorem int_item {key : String} {value : Int} (hkey : IsAscii key ∧ key.length ≤ 5)
    (hvalue : int32Min ≤ value ∧ value ≤ uint32Max) (hadmissible : Admissible (key = "bh") value) :
    Sound (key, .int value) ∧ (itemEncoding (key, .int value)).length ≤ 33 := by
  refine ⟨⟨hkey.1, fun _ h => FieldValue.int.inj h ▸ hadmissible⟩, itemEncoding_le hkey.2 ?_⟩
  exact le_trans (Der.element_le (int_le hvalue) (by decide)) (by decide)

/-- … and so is one of a number without a sign. -/
theorem word_item {key : String} {bound value : Int} (hkey : IsAscii key ∧ key.length ≤ 5) (hne : key ≠ "bh")
    (hbound : bound ≤ uint32Max) (hvalue : KeybagState.Below bound value) :
    Sound (key, .int value) ∧ (itemEncoding (key, .int value)).length ≤ 33 := by
  obtain ⟨hlow, hhigh⟩ := hvalue
  refine int_item hkey ⟨le_trans (by decide) hlow, hhigh.trans hbound⟩ ?_
  rw [decide_eq_false hne]
  exact ⟨hlow, (hhigh.trans hbound).trans (by decide)⟩

theorem KeybagState.InRange.items {s : KeybagState} (h : s.InRange) :
    ∀ item ∈ s.items, Sound item ∧ (itemEncoding item).length ≤ 33 := by
  have hkeys : ∀ key ∈ expected, IsAscii key ∧ key.length ≤ 5 := by
    have hall : ∀ key ∈ expected, (key.toList.all fun c => c.toNat < 0x80) = true ∧ key.length ≤ 5 := by decide
    intro key hkey
    obtain ⟨hascii, hlength⟩ := hall key hkey
    exact ⟨fun c hc => of_decide_eq_true (List.all_eq_true.mp hascii c hc), hlength⟩
  simp only [expected, List.forall_mem_cons] at hkeys
  obtain ⟨hbh, hmua, hsb, hsfa, hsgs, hsls, hsms, hsrcd, hss, huuuid, -⟩ := hkeys
  have huuid : (Der.element 0x04 (uuidBytes s.userUuid)).length ≤ 20 :=
    Der.element_le (Bytes.length_be 16 _).le (by decide)
  simp only [KeybagState.items, List.forall_mem_cons]
  refine ⟨int_item hbh ⟨h.handle.1.1, h.handle.1.2.trans (by decide)⟩ h.handle,
    word_item hmua (by decide) (le_refl _) h.maximumUnlockAttempts, word_item hsb (by decide) (le_refl _) h.backoff,
    word_item hsfa (by decide) (le_refl _) h.failedAttempts, word_item hsgs (by decide) (le_refl _) h.generationState,
    word_item hsls (by decide) (by decide) h.lockState, word_item hsms (by decide) (le_refl _) h.moreState,
    word_item hsrcd (by decide) (le_refl _) h.recoveryCountdown, word_item hss (by decide) (le_refl _) h.state, ?_⟩
  exact ⟨⟨⟨huuuid.1, nofun⟩, itemEncoding_le huuuid.2 huuid⟩, nofun⟩

/-! ## The result -/

/-- **The decoder** returns a state exactly for its encoding. -/
theorem decode_iff {data : Option Bytes} {s : KeybagState} :
    decode data = .ok s ↔ s.InRange ∧ data = some s.encoding := by
  cases data with
  | none => exact iff_of_false nofun nofun
  | some data =>
    rw [Option.some.injEq]
    constructor
    · intro h
      obtain ⟨hsize, h⟩ := raiseIf_ok.mp h
      have hdata : data.length < 0x10000 := lt_of_le_of_lt (not_not.mp hsize).2 (by decide)
      obtain ⟨⟨root, stop⟩, htlv, h⟩ := bind_ok h
      obtain ⟨hstop, h⟩ := raiseIf_ok.mp h
      obtain ⟨values, hvalues, hstate⟩ := bind_ok h
      obtain ⟨rest, hrest, rfl⟩ := (tlv_iff hdata).mp htlv
      rw [List.drop_zero] at hrest
      have hlength := congrArg List.length hrest
      rw [List.length_append] at hlength
      have hempty : rest = [] := List.length_eq_zero_iff.mp (by have hend := not_not.mp hstop; omega)
      rw [hempty, List.append_nil] at hrest
      rw [Der.element_length] at hlength
      obtain ⟨items, rfl, hroot, hsound, -⟩ := (decodeItems_iff (by omega) 0 []).mp hvalues
      obtain ⟨hrange, hitems⟩ := (stateOf_iff hsound).mp hstate
      rw [List.drop_zero, hitems] at hroot
      exact ⟨hrange, by rw [hrest, hroot]; rfl⟩
    · rintro ⟨hrange, rfl⟩
      have hitems := hrange.items
      have hroot : (s.items.flatMap itemEncoding).length ≤ 330 := flatMap_le fun item hitem => (hitems item hitem).2
      have hlength : s.encoding.length ≤ 334 := Der.element_le hroot (by decide)
      have hpos : 0 < s.encoding.length := Nat.succ_pos _
      refine raiseIf_ok.mpr ⟨not_not.mpr ⟨hpos, hlength.trans (by decide)⟩, bind_eq_ok.mpr
        ⟨⟨s.items.flatMap itemEncoding, _⟩, (tlv_iff (lt_of_le_of_lt hlength (by decide))).mpr
          ⟨[], (List.append_nil _).symm, rfl⟩, raiseIf_ok.mpr ⟨?_, bind_eq_ok.mpr ⟨s.items, ?_, ?_⟩⟩⟩⟩
      · exact not_not.mpr (Nat.zero_add _)
      · refine (decodeItems_iff (lt_of_le_of_lt hroot (by decide)) 0 []).mpr
          ⟨s.items, rfl, rfl, fun item hitem => (hitems item hitem).1, ?_, nofun⟩
        exact (by decide : expected.Nodup)
      · exact (stateOf_iff fun item hitem => (hitems item hitem).1).mpr ⟨hrange, rfl⟩

/-! ### What it raises -/

/-- The decoder's own error. -/
def Own (error : Raised) : Prop := ∃ message, error = .aksState message

theorem own {message : String} : Own (.aksState message) := ⟨message, rfl⟩

theorem own_byteAt {data : Bytes} {offset : Nat} (h : offset < data.length) : Only Own (byteAt data offset) := by
  rw [byteAt, List.getElem?_eq_getElem h]
  exact only_ok _

theorem own_length (data : Bytes) (offset : Nat) : Only Own (length data offset) := by
  refine only_refuse own fun hlt => (own_byteAt (not_le.mp hlt)).bind fun first _ => ?_
  split
  · exact only_ok _
  refine only_refuse own fun hzero => only_refuse own fun hcount => ?_
  have hslice : 0 < (Bytes.slice data (offset + 1) (first.toNat &&& 0x7F)).length := by
    rw [Bytes.length_slice (by omega)]
    omega
  exact (own_byteAt hslice).bind fun top _ => only_refuse own fun _ => only_refuse own fun _ => only_ok _

theorem own_tlv (data : Bytes) (offset : Nat) (tag : UInt8) : Only Own (tlv data offset tag) :=
  only_refuse own fun _ => (own_length data _).bind fun _ _ => only_refuse own fun _ => only_ok _

theorem own_integer (content : Bytes) (signed : Bool) (field : String) : Only Own (integer content signed field) := by
  refine only_refuse own fun hne => ?_
  have hpos : 0 < content.length := List.length_pos_iff.mpr hne
  have hpadding : Only Own (checkPadding content field) := by
    unfold checkPadding
    split
    · rename_i hlong
      exact (own_byteAt hpos).bind fun _ _ => (own_byteAt hlong).bind fun _ _ => only_refuse own fun _ => only_test own
    · exact only_ok _
  have hrange : ∀ value, Only Own (checkRange value signed field) := by
    intro value
    unfold checkRange
    split
    · exact only_test own
    · exact only_test own
  exact hpadding.bind fun _ _ => (own_byteAt hpos).bind fun _ _ => only_refuse own fun _ =>
    (hrange _).bind fun _ _ => only_ok _

theorem own_decodeItem (values : Items) (sequence : Bytes) : Only Own (decodeItem values sequence) := by
  refine (own_tlv _ _ _).bind fun key _ => ?_
  obtain ⟨keyContent, sequenceOffset⟩ := key
  cases htext : asciiText keyContent with
  | none =>
    simp only [htext]
    exact only_error own
  | some key =>
    simp only [htext]
    refine only_refuse own fun _ => only_refuse own fun hlt => (own_byteAt (not_le.mp hlt)).bind fun tag _ => ?_
    refine (own_tlv _ _ _).bind fun value _ => only_refuse own fun _ => ?_
    split
    · exact (own_integer _ _ _).bind fun _ _ => only_ok _
    · split
      · exact only_ok _
      · exact only_error own

theorem own_decodeItems (root : Bytes) (offset : Nat) (values : Items) : Only Own (decodeItems root offset values) := by
  induction offset, values using decodeItems.induct root with
  | case1 offset values hlt error htlv =>
    rw [decodeItems, if_pos hlt]
    split
    · rename_i found hfound
      exact only_error (own_tlv _ _ _ _ hfound)
    · rename_i hfound
      exact nomatch htlv.symm.trans hfound
  | case2 offset values hlt sequence next htlv ih =>
    rw [decodeItems, if_pos hlt]
    split
    · rename_i hfound
      exact nomatch htlv.symm.trans hfound
    · rename_i found stop hfound
      obtain ⟨rfl, rfl⟩ := Prod.mk.inj (Except.ok.inj (htlv.symm.trans hfound))
      exact (own_decodeItem _ _).bind fun item _ => ih item
  | case3 offset values hge =>
    rw [decodeItems, if_neg hge]
    exact only_ok _

/-- No key is missing behind the tests, and the assertion holds. -/
theorem own_stateOf (values : Items) : Only Own (stateOf values) := by
  refine only_refuse own fun _ => only_refuse own fun horder => ?_
  obtain ⟨bh, mua, sb, sfa, sgs, sls, sms, srcd, ss, uuuid, rfl⟩ := values_of_keys (not_not.mp horder)
  rw [numbers_ok]
  refine only_refuse own fun hall => ?_
  have hall := List.all_eq_true.mp (not_not.mp hall)
  simp only [List.forall_mem_cons, isInt_iff] at hall
  obtain ⟨⟨bh, rfl⟩, ⟨mua, rfl⟩, ⟨sb, rfl⟩, ⟨sfa, rfl⟩, ⟨sgs, rfl⟩, ⟨sls, rfl⟩, ⟨sms, rfl⟩, ⟨srcd, rfl⟩, ⟨ss, rfl⟩, -⟩ :=
    hall
  cases uuuid with
  | int value => exact only_error own
  | bytes rawUuid =>
    refine only_refuse own fun _ => only_refuse own fun _ => ?_
    change Only Own (raiseIf _ _ >>= fun _ => _)
    exact only_refuse own fun _ => only_refuse own fun _ => only_refuse own fun _ => only_refuse own fun _ =>
      only_refuse own fun _ => only_ok _

theorem own_decode (data : Option Bytes) : Only Own (decode data) := by
  cases data with
  | none => exact only_error own
  | some data =>
    exact only_refuse own fun _ => (own_tlv _ _ _).bind fun _ _ => only_refuse own fun _ =>
      (own_decodeItems _ _ _).bind fun _ _ => own_stateOf _

/-- **Decoding is exact**: a state is returned for its encoding and for nothing else, each state has one encoding, and
    whatever is no encoding of a state in its ranges raises the decoder's own error. -/
theorem decode_exact :
    (∀ s : KeybagState, s.InRange → decode (some s.encoding) = .ok s) ∧
    (∀ data s, decode data = .ok s → s.InRange ∧ data = some s.encoding) ∧
    (∀ s s' : KeybagState, s.InRange → s'.InRange → s.encoding = s'.encoding → s = s') ∧
    ∀ data, (∀ s : KeybagState, s.InRange → data ≠ some s.encoding) →
      ∃ message, decode data = .error (.aksState message) := by
  have hdecode : ∀ s : KeybagState, s.InRange → decode (some s.encoding) = .ok s := fun s hrange =>
    decode_iff.mpr ⟨hrange, rfl⟩
  refine ⟨hdecode, fun data s => decode_iff.mp, ?_, ?_⟩
  · intro s s' hrange hrange' hsame
    have hfound := hdecode s hrange
    rw [hsame, hdecode s' hrange'] at hfound
    exact (Except.ok.inj hfound).symm
  · intro data hnone
    cases hanswer : decode data with
    | ok s =>
      obtain ⟨hrange, hdata⟩ := decode_iff.mp hanswer
      exact absurd hdata (hnone s hrange)
    | error error =>
      obtain ⟨message, rfl⟩ := own_decode data error hanswer
      exact ⟨message, rfl⟩

end T2TouchId.Aks.State
