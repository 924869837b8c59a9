/-
  Reading JSON with an `object_pairs_hook` that refuses a name that stands twice.

  `json.loads` calls the hook at the closing brace of every object with the pairs in the order of the
  text.  The first thing that goes wrong in this order is what is raised: a place that is no JSON, an
  integer with too many digits, or the hook.

  1. **Program** — `scanOnce`, `scanElements`, `scanMembers` of `Json/Read` with the hook, over the same
     tokens; `loadsUnique`, and `utf8DecodeStrict` for the text.
  2. **Result** — `loadsUnique_dumps`: a native value that was written is read back; its names are in
     order, so that none stands twice.
-/
import T2TouchId.Python.Json.Hooks

namespace T2TouchId.Python.Json

/-! ## Program -/

/-- What the reader raises. -/
inductive LoadsError
  /-- `JSONDecodeError`. -/
  | decode
  /-- The hook. -/
  | repeatedName
  /-- The `ValueError` of an integer with too many digits. -/
  | digits
  deriving DecidableEq

/-- What is not found is no JSON. -/
def orDecode {α : Type} : Option α → Except LoadsError α
  | some a => .ok a
  | none => .error .decode

/-- `data.decode("utf-8")`: no surrogates come through. -/
def utf8DecodeStrict (data : Bytes) : Option PyStr :=
  (utf8Decode data).filter fun text => text.all fun c => !isHighSurrogate c && !isLowSurrogate c

section Scan

variable {φ : Type} [JsonFloat φ]

/-- A constant or a number. -/
def scanAtomUnique (s : PyStr) : Except LoadsError (Value φ × PyStr) :=
  match scanAtom s with
  | some found => .ok found
  | none => .error (if (matchNumber s).isSome then .digits else .decode)

mutual

def scanOnceUnique : Nat → PyStr → Except LoadsError (Value φ × PyStr)
  | 0, _ => .error .decode
  | _ + 1, [] => .error .decode
  | fuel + 1, c :: rest =>
    if c = quote then do
      let (s, rest) ← orDecode (scanString rest)
      return (.str s, rest)
    else if c = openBrace then
      match expect closeBrace (skipSpace rest) with
      | some rest => .ok (.dict [], rest)
      | none => scanMembersUnique fuel false [] (skipSpace rest)
    else if c = openBracket then
      match expect closeBracket (skipSpace rest) with
      | some rest => .ok (.list [], rest)
      | none => do
        let (items, rest) ← scanElementsUnique fuel (skipSpace rest)
        return (.list items, rest)
    else scanAtomUnique (c :: rest)

/-- The elements of an array, from the first character of one. -/
def scanElementsUnique : Nat → PyStr → Except LoadsError (List (Value φ) × PyStr)
  | 0, _ => .error .decode
  | fuel + 1, s => do
    let (v, rest) ← scanOnceUnique fuel s
    let rest := skipSpace rest
    match expect closeBracket rest with
    | some rest => return ([v], rest)
    | none => do
      let rest ← orDecode (expect comma rest)
      let (items, rest) ← scanElementsUnique fuel (skipSpace rest)
      return (v :: items, rest)

/-- The members of an object, from the quote of a name; the flag says that a name stood twice. -/
def scanMembersUnique : Nat → Bool → List (Key φ × Value φ) → PyStr →
    Except LoadsError (Value φ × PyStr)
  | 0, _, _, _ => .error .decode
  | fuel + 1, twice, items, s => do
    let rest ← orDecode (expect quote s)
    let (name, rest) ← orDecode (scanString rest)
    let rest ← orDecode (expect colon (skipSpace rest))
    let (v, rest) ← scanOnceUnique fuel (skipSpace rest)
    let twice := twice || hasName name items
    let items := Value.insertItem name v items
    let rest := skipSpace rest
    match expect closeBrace rest with
    | some rest => if twice then .error .repeatedName else return (.dict items, rest)
    | none => do
      let rest ← orDecode (expect comma rest)
      scanMembersUnique fuel twice items (skipSpace rest)

end

/-- `json.loads(text, object_pairs_hook=...)`. -/
def loadsUnique (text : PyStr) : Except LoadsError (Value φ) := do
  let (v, rest) ← scanOnceUnique (2 * text.length + 2) (skipSpace text)
  if skipSpace rest = [] then return v else .error .decode

end Scan

/-! ## It is the reader with hooks -/

/-- The hooks of this reader: the constants are read. -/
def uniqueHooks : Hooks LoadsError := ⟨.decode, .digits, .repeatedName, none⟩

theorem orDecode_eq {α : Type} (found : Option α) : orDecode found = orRaise LoadsError.decode found := by
  cases found <;> rfl

section RoundTrip

variable {φ : Type} [JsonFloat φ]

theorem scanAtomUnique_eq (s : PyStr) : scanAtomUnique (φ := φ) s = scanAtomHooked uniqueHooks s := by
  unfold scanAtomUnique scanAtomHooked
  cases scanAtom (φ := φ) s <;> rfl

/-- The two read the same, and raise the same. -/
theorem scanUnique_eq (fuel : Nat) :
    (∀ s, scanOnceUnique (φ := φ) fuel s = scanOnceHooked uniqueHooks fuel s) ∧
    (∀ s, scanElementsUnique (φ := φ) fuel s = scanElementsHooked uniqueHooks fuel s) ∧
    (∀ twice items s,
      scanMembersUnique (φ := φ) fuel twice items s = scanMembersHooked uniqueHooks fuel twice items s) := by
  induction fuel with
  | zero =>
    refine ⟨fun s => ?_, fun s => ?_, fun twice items s => ?_⟩
    · rw [scanOnceUnique, scanOnceHooked]
      rfl
    · rw [scanElementsUnique, scanElementsHooked]
      rfl
    · rw [scanMembersUnique, scanMembersHooked]
      rfl
  | succ fuel ih =>
    obtain ⟨ihOnce, ihElements, ihMembers⟩ := ih
    refine ⟨fun s => ?_, fun s => ?_, fun twice items s => ?_⟩
    · cases s with
      | nil =>
        rw [scanOnceUnique, scanOnceHooked]
        rfl
      | cons c rest =>
        simp only [scanOnceUnique, scanOnceHooked, orDecode_eq, scanAtomUnique_eq, ihElements, ihMembers]
        rfl
    · simp only [scanElementsUnique, scanElementsHooked, orDecode_eq, ihOnce, ihElements]
      rfl
    · simp only [scanMembersUnique, scanMembersHooked, orDecode_eq, ihOnce, ihMembers]
      rfl

theorem loadsUnique_eq (text : PyStr) : loadsUnique (φ := φ) text = loadsHooked uniqueHooks text := by
  simp only [loadsUnique, loadsHooked, (scanUnique_eq _).1]
  rfl

/-- **Writing and reading back**, with white space behind the text. -/
theorem loadsUnique_dumps {v : Value φ} {t space : PyStr} (ht : dumps v = some t)
    (hnative : isNative v = true) (hstops : Stops space) (hspace : skipSpace space = []) :
    loadsUnique (t ++ space) = .ok v := by
  rw [loadsUnique_eq]
  exact loadsHooked_dumps ht hnative (fun hsome => nomatch hsome) hstops hspace

/-- ASCII text is decoded to itself. -/
theorem utf8DecodeStrict_asciiBytes {text : PyStr} (h : PlainAscii text) :
    utf8DecodeStrict (asciiBytes text) = some text := by
  have hplain : (text.all fun c => !isHighSurrogate c && !isLowSurrogate c) = true := by
    refine List.all_eq_true.mpr fun c hc => ?_
    have hrange := (h c hc).2
    simp only [isHighSurrogate, isLowSurrogate, Bool.and_eq_true, Bool.not_eq_true',
      decide_eq_false_iff_not]
    omega
  rw [utf8DecodeStrict, utf8Decode_asciiBytes h, Option.filter_some, if_pos hplain]

/-- What is decoded has no surrogates. -/
theorem whole_of_utf8DecodeStrict {data : Bytes} {text : PyStr} (h : utf8DecodeStrict data = some text) :
    Whole text := by
  intro c hc
  have hall := List.all_eq_true.mp (Option.filter_eq_some_iff.mp h).2 c hc
  simpa using hall

end RoundTrip

end T2TouchId.Python.Json
