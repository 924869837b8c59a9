/-
  Packets of JSON, as the local protocols read and write them (`_decode` and `_encode` of
  `src/t2_user_broker_protocol.py` and `src/t2_fprint_worker_protocol.py`).

  A packet is one JSON object in canonical form.  The two protocols have the same reader and the same
  writer, but for the bound on the size and the texts of the errors.

  1. **Program** — `decodePacket`, `encodePacket`, with `PacketKind` for what differs.
  2. **Errors** — `Own`: nothing but the protocol's error is raised; one rule for each construction.
  3. **Results** — `decodePacket_encodePacket`: what was written is read back; `isNative_of_decodePacket`:
     what was read can be written.
-/
import T2TouchId.Journal.Written
import T2TouchId.Python.Json.Strict
import T2TouchId.User.Documents

namespace T2TouchId.Packets

open T2TouchId.Python T2TouchId.Python.Json T2TouchId.Journal T2TouchId.User

/-! ## Errors -/

/-- What an encoder or a decoder raises. -/
inductive PacketError
  /-- The error of the protocol. -/
  | protocol (message : String)
  /-- `TypeError`. -/
  | typeError
  /-- The `ValueError` of an integer with too many digits. -/
  | valueError
  deriving DecidableEq

/-- The error is the protocol's own. -/
def PacketError.IsOwn : PacketError → Prop
  | protocol _ => True
  | _ => False

/-- A call that returns or raises the protocol's own error. -/
def Own {α : Type} (answer : Except PacketError α) : Prop := ∀ error, answer = .error error → error.IsOwn

section Own

variable {α β : Type}

theorem own_ok (a : α) : Own (.ok a : Except PacketError α) := nofun

theorem own_protocol (message : String) : Own (.error (.protocol message) : Except PacketError α) := by
  rintro _ ⟨⟩
  trivial

theorem not_own_typeError : ¬ Own (.error .typeError : Except PacketError α) :=
  fun h => h _ rfl

/-- Behind a test that raises the protocol's own error. -/
theorem own_refuse {p : Prop} [Decidable p] {message : String} {f : Unit → Except PacketError α} :
    Own (raiseIf p (.protocol message) >>= f) ↔ (¬ p → Own (f ())) := by
  unfold raiseIf
  by_cases hp : p
  · rw [if_pos hp]
    exact iff_of_true (own_protocol message) (fun hnot => absurd hp hnot)
  · rw [if_neg hp]
    exact ⟨fun h _ => h, fun h => h hp⟩

/-- Behind a test that may find a value of the wrong kind. -/
theorem own_stray {p : Prop} [Decidable p] {f : Unit → Except PacketError α} :
    Own (raiseIf p .typeError >>= f) ↔ ¬ p ∧ Own (f ()) := by
  unfold raiseIf
  by_cases hp : p
  · rw [if_pos hp]
    exact iff_of_false not_own_typeError (fun h => h.1 hp)
  · rw [if_neg hp]
    exact (and_iff_right hp).symm

/-- Behind a call. -/
theorem own_bind {x : Except PacketError α} {f : α → Except PacketError β} :
    Own (x >>= f) ↔ Own x ∧ ∀ a, x = .ok a → Own (f a) := by
  cases x with
  | ok a =>
    refine ⟨fun h => ⟨own_ok a, ?_⟩, fun h => h.2 a rfl⟩
    rintro _ ⟨⟩
    exact h
  | error error =>
    refine ⟨fun h => ⟨?_, nofun⟩, fun h => ?_⟩
    · rintro _ ⟨⟩
      exact h _ rfl
    · rintro _ ⟨⟩
      exact h.1 _ rfl

/-! ### Ladders of tests

What goes astray behind a test that refuses is what passes it; a test that goes astray itself adds to it. -/

variable {p astray : Prop} [Decidable p] {message : String} {f : Unit → Except PacketError α}

theorem own_refuse_iff (h : Own (f ()) ↔ ¬ astray) :
    Own (raiseIf p (.protocol message) >>= f) ↔ ¬ (¬ p ∧ astray) := by
  rw [own_refuse, h, not_and]

theorem own_stray_iff (h : Own (f ()) ↔ ¬ astray) : Own (raiseIf p .typeError >>= f) ↔ ¬ (p ∨ astray) := by
  rw [own_stray, h, not_or]

theorem own_stray_last (h : Own (f ())) : Own (raiseIf p .typeError >>= f) ↔ ¬ p := by
  rw [own_stray]
  exact and_iff_left h

/-- A last test. -/
theorem own_refuse_last : Own (raiseIf p (.protocol message)) := by
  rw [raiseIf]
  by_cases hp : p
  · rw [if_pos hp]
    exact own_protocol message
  · rw [if_neg hp]
    exact own_ok ()

end Own

/-! ## Program -/

/-- What differs between the packets. -/
structure PacketKind where
  maximum : Nat
  sizeInvalid : String
  repeatedName : String
  notStrict : String
  notObject : String
  unencodable : String

/-- What `json.loads` of a packet raises. -/
inductive PacketFault
  | decode
  | digits
  | repeatedName
  | constant
  deriving DecidableEq

/-- `object_pairs_hook=_duplicate_safe_object`, and a `parse_constant` that raises. -/
def packetHooks : Hooks PacketFault := ⟨.decode, .digits, .repeatedName, some .constant⟩

/-- `isinstance(value, str) and value in {...}` of texts. -/
def isOneOf {φ : Type} (texts : List String) (value : Value φ) : Bool := texts.any fun text => value.isStr (py text)

/-- `type(value) is int and value == 1`. -/
def isVersionOne {φ : Type} : Value φ → Bool
  | .int n => n = 1
  | _ => false

section Program

variable (φ : Type) [JsonFloat φ] (kind : PacketKind)

/-- `_decode`. -/
def decodePacket (data : Bytes) : Except PacketError (Value φ) := do
  raiseIf (¬ (1 ≤ data.length ∧ data.length ≤ kind.maximum) ∨ 0 ∈ data) (.protocol kind.sizeInvalid)
  match utf8DecodeStrict data with
  | none => .error (.protocol kind.notStrict)
  | some text =>
    match loadsHooked packetHooks text with
    | .ok value => if value.isDict then .ok value else .error (.protocol kind.notObject)
    | .error .decode => .error (.protocol kind.notStrict)
    | .error .repeatedName => .error (.protocol kind.repeatedName)
    | .error .constant => .error (.protocol "non-finite JSON is forbidden")
    | .error .digits => .error .valueError

/-- `json.loads` of this packet does what is documented of it: it returns a value, or raises
    `JSONDecodeError` or what a hook raises. -/
def LoadsJson (data : Bytes) : Prop :=
  ∀ text, utf8DecodeStrict data = some text → loadsHooked (φ := φ) packetHooks text ≠ .error .digits

variable {φ}

/-- `json.dumps(value, ..., allow_nan=False)`. -/
def dumpsFinite (value : Value φ) : Option PyStr := if allFinite value then dumps value else none

/-- `_encode`. -/
def encodePacket (value : Value φ) : Except PacketError Bytes :=
  match dumpsFinite value with
  | none => .error (.protocol kind.unencodable)
  | some text =>
    let encoded := asciiBytes text
    if 1 ≤ encoded.length ∧ encoded.length ≤ kind.maximum then .ok encoded
    else .error (.protocol kind.sizeInvalid)

end Program

/-! ## What has passed a test -/

section Passed

variable {φ : Type} {value : Value φ}

theorem isOneOf_iff {texts : List String} : isOneOf texts value = true ↔ ∃ text ∈ texts, value = .str (py text) := by
  rw [isOneOf, List.any_eq_true]
  exact exists_congr fun text => and_congr_right fun _ => isStr_iff

theorem isVersionOne_iff : isVersionOne value = true ↔ value = .int 1 := by
  cases value <;> simp [isVersionOne]

theorem isTrue_iff : value.isTrue = true ↔ value = .bool true := by
  cases value <;> simp [Value.isTrue]

theorem isFalse_iff : isFalse value = true ↔ value = .bool false := by
  cases value <;> simp [Journal.isFalse]

theorem isBool_iff : isBool value = true ↔ ∃ b, value = .bool b := by
  cases value <;> simp [isBool]

theorem isNone_iff : isNone value = true ↔ value = .none := by
  cases value <;> simp [isNone]

theorem isInt_iff : isInt value = true ↔ ∃ n, value = .int n := by
  cases value <;> simp [isInt]

theorem isString_iff : isString value = true ↔ ∃ text, value = .str text := by
  cases value <;> simp [isString]

theorem isHashable_of_isOneOf {texts : List String} (h : isOneOf texts value = true) : isHashable value = true := by
  obtain ⟨text, -, rfl⟩ := isOneOf_iff.mp h
  rfl

/-- A text out of a list of plain texts can be written. -/
theorem isNative_of_isOneOf {texts : List String} (h : isOneOf texts value = true)
    (hplain : ∀ text ∈ texts, noPairs (py text) = true) : isNative value = true := by
  obtain ⟨text, htext, rfl⟩ := isOneOf_iff.mp h
  exact hplain text htext

theorem isNative_of_isBool (h : isBool value = true) : isNative value = true := by
  obtain ⟨b, rfl⟩ := isBool_iff.mp h
  rfl

end Passed

/-! ## What is written is read back -/

section RoundTrip

variable {φ : Type} [JsonFloat φ] {kind : PacketKind} {value : Value φ} {data : Bytes}

theorem own_decodePacket (h : LoadsJson φ data) : Own (decodePacket φ kind data) := by
  refine own_refuse.mpr fun _ => ?_
  cases htext : utf8DecodeStrict data with
  | none => exact own_protocol _
  | some text =>
    dsimp only
    cases hloads : loadsHooked (φ := φ) packetHooks text with
    | ok value =>
      show Own (if value.isDict = true then .ok value else .error (.protocol kind.notObject))
      by_cases hdict : value.isDict = true
      · rw [if_pos hdict]
        exact own_ok _
      · rw [if_neg hdict]
        exact own_protocol _
    | error fault =>
      cases fault with
      | decode => exact own_protocol _
      | repeatedName => exact own_protocol _
      | constant => exact own_protocol _
      | digits => exact absurd hloads (h text htext)

theorem own_encodePacket : Own (encodePacket kind value) := by
  unfold encodePacket
  split
  · exact own_protocol _
  · dsimp only
    split
    · exact own_ok _
    · exact own_protocol _

theorem encodePacket_ok : encodePacket kind value = .ok data ↔
    ∃ text, allFinite value = true ∧ dumps value = some text ∧ data = asciiBytes text ∧
      1 ≤ text.length ∧ text.length ≤ kind.maximum := by
  have hlength : ∀ text, (asciiBytes text).length = text.length := fun text => List.length_map _
  unfold encodePacket dumpsFinite
  by_cases hfinite : allFinite value = true
  · rw [if_pos hfinite]
    cases hdumps : dumps value with
    | none =>
      constructor
      · intro h
        cases h
      · rintro ⟨text, -, h, -⟩
        cases h
    | some text =>
      dsimp only
      rw [okIf, hlength]
      constructor
      · rintro ⟨rfl, hlow, hhigh⟩
        exact ⟨text, hfinite, rfl, rfl, hlow, hhigh⟩
      · rintro ⟨text, -, ⟨⟩, rfl, hlow, hhigh⟩
        exact ⟨rfl, hlow, hhigh⟩
  · rw [if_neg hfinite]
    constructor
    · intro h
      cases h
    · rintro ⟨text, h, -⟩
      exact absurd h hfinite

/-- **Writing and reading back** an object that JSON can stand for. -/
theorem decodePacket_encodePacket (h : encodePacket kind value = .ok data) (hnative : isNative value = true)
    (hdict : value.isDict = true) : decodePacket φ kind data = .ok value := by
  obtain ⟨text, hfinite, hdumps, rfl, hlow, hhigh⟩ := encodePacket_ok.mp h
  have hplain : PlainAscii text := fun c hc =>
    plainAscii_of_printable (dumps_printable value text hdumps) c (List.mem_append_left _ hc)
  have hlength : (asciiBytes text).length = text.length := List.length_map _
  have hzero : (0 : UInt8) ∉ asciiBytes text := by
    intro hmem
    have hpositive := (asciiBytes_plain hplain) 0 hmem
    exact absurd hpositive.1 (by decide)
  have hloads : loadsHooked packetHooks text = .ok value := by
    have hread : loadsHooked packetHooks (text ++ []) = .ok value :=
      loadsHooked_dumps hdumps hnative (fun _ => hfinite) trivial rfl
    rwa [List.append_nil] at hread
  refine raiseIf_ok.mpr ⟨?_, ?_⟩
  · rw [hlength]
    rintro (hsize | hmem)
    · exact hsize ⟨hlow, hhigh⟩
    · exact hzero hmem
  · rw [utf8DecodeStrict_asciiBytes hplain]
    simp only [hloads, hdict, if_true]

/-- An object is all that is read. -/
theorem isDict_of_decodePacket (h : decodePacket φ kind data = .ok value) : value.isDict = true := by
  obtain ⟨-, h⟩ := raiseIf_ok.mp h
  split at h
  · exact nomatch h
  · split at h
    · split at h
      · rename_i hdict
        cases h
        exact hdict
      · exact nomatch h
    all_goals exact nomatch h

/-- What is read is native. -/
theorem isNative_of_decodePacket (h : decodePacket φ kind data = .ok value) : isNative value = true := by
  obtain ⟨-, h⟩ := raiseIf_ok.mp h
  split at h
  · exact nomatch h
  · rename_i text htext
    split at h
    · rename_i found hloads
      split at h
      · cases h
        exact loadsHooked_native hloads (whole_of_utf8DecodeStrict htext)
      · exact nomatch h
    all_goals exact nomatch h

/-- A packet that was read is one that `json.loads` reads. -/
theorem loadsJson_of_decodePacket (h : decodePacket φ kind data = .ok value) : LoadsJson φ data := by
  obtain ⟨-, h⟩ := raiseIf_ok.mp h
  intro text htext hdigits
  rw [htext] at h
  simp only [hdigits] at h
  exact nomatch h

/-! ### The length of an object -/

/-- The characters of a member: the name, the colon, the value, and a comma or the closing brace. -/
def memberLength (item : String × Value φ) : Nat :=
  (dumpsStr (py item.1)).length + ((dumps item.2).getD []).length + 2

theorem dumps_members_length {items : List (String × Value φ)} (hne : items ≠ [])
    (h : ∀ item ∈ items, (dumps item.2).isSome = true) :
    ∃ text, dumps (members items) = some text ∧ text.length = (items.map memberLength).sum + 1 := by
  let written := items.map fun item => (⟨py item.1, item.2, (dumps item.2).getD []⟩ : Member φ)
  have hitems : written.map Member.item = items.map fun item => ((.str (py item.1) : Key φ), item.2) := by
    rw [List.map_map]
    rfl
  have hlengths : written.map Member.length = items.map memberLength := by
    rw [List.map_map]
    rfl
  have htexts : ∀ m ∈ written, dumps m.value = some m.text := by
    intro m hm
    obtain ⟨item, hitem, rfl⟩ := List.mem_map.mp hm
    obtain ⟨text, htext⟩ := Option.isSome_iff_exists.mp (h item hitem)
    rw [htext, Option.getD_some]
  have hwritten : written ≠ [] := by simpa [written] using hne
  obtain ⟨text, htext, hlength⟩ := dumpsMembers_length written hwritten htexts
  have hkeys : StringKeys (items.map fun item => ((.str (py item.1) : Key φ), item.2)) := by
    intro e he
    obtain ⟨item, -, rfl⟩ := List.mem_map.mp he
    exact ⟨py item.1, rfl⟩
  refine ⟨openBrace :: text, ?_, ?_⟩
  · rw [members, dumps_dict_str hkeys, ← hitems, htext]
    rfl
  · rw [List.length_cons, hlength, hlengths]

/-- The values of an object that was written have texts. -/
theorem dumps_of_members {items : List (String × Value φ)} {text : PyStr} (h : dumps (members items) = some text) :
    ∀ item ∈ items, (dumps item.2).isSome = true := by
  obtain ⟨rest, hrest, -⟩ := dumps_dict h
  intro item hitem
  have hall := (dumpsMembers_isSome _).mp (by rw [hrest]; rfl)
  exact (hall _ (List.mem_map_of_mem hitem)).2

end RoundTrip

end T2TouchId.Packets
