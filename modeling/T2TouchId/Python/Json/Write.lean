/-
  Writing JSON: `json.dumps(value, sort_keys=True, separators=(",", ":"), ensure_ascii=True)`.

  Problem: the journal hashes and stores the text of a value, and later reads it back.  What the text
  looks like decides both, so it is written here character by character.

  1. **Data** — text is a `PyStr`, all of it ASCII.  Floats come with the class `JsonFloat`: their
     `repr`, `float()` of a text, and that the second inverts the first.
  2. **Program** — `dumps`, which fails where `json.dumps` raises: on values JSON has no text for, on
     keys that do not compare, and on an integer too long for `int.__repr__`.
  3. **Results** — the text is printable ASCII (`dumps_printable`), so it has no newline and survives
     any line-based storage.

  Recursion limits of the interpreter are not modelled.
-/
import T2TouchId.Python.Value

namespace T2TouchId.Python.Json

/-! ## Characters -/

def quote : CodePoint := 0x22
def plus : CodePoint := 0x2B
def comma : CodePoint := 0x2C
def minus : CodePoint := 0x2D
def point : CodePoint := 0x2E
def colon : CodePoint := 0x3A
def openBracket : CodePoint := 0x5B
def backslash : CodePoint := 0x5C
def closeBracket : CodePoint := 0x5D
def openBrace : CodePoint := 0x7B
def closeBrace : CodePoint := 0x7D

/-- A decimal digit; only numbers below ten are asked for. -/
def decimalDigit (n : Nat) : CodePoint := Fin.ofNat _ (0x30 + n % 10)

/-- A lower-case hexadecimal digit; only numbers below sixteen are asked for. -/
def hexDigit (n : Nat) : CodePoint :=
  Fin.ofNat _ (if n % 16 < 10 then 0x30 + n % 16 else 0x57 + n % 16)

/-! ## Strings -/

/-- `\uXXXX`. -/
def unicodeEscape (n : Nat) : PyStr :=
  [backslash, 0x75, hexDigit (n / 0x1000), hexDigit (n / 0x100), hexDigit (n / 0x10), hexDigit n]

/-- One character of a string; above the basic plane as a surrogate pair. -/
def escapeChar (c : CodePoint) : PyStr :=
  if c = backslash then [backslash, backslash]
  else if c = quote then [backslash, quote]
  else if 0x20 ≤ c.val ∧ c.val ≤ 0x7E then [c]
  else if c = 0x08 then [backslash, 0x62]
  else if c = 0x0C then [backslash, 0x66]
  else if c = 0x0A then [backslash, 0x6E]
  else if c = 0x0D then [backslash, 0x72]
  else if c = 0x09 then [backslash, 0x74]
  else if c.val < 0x10000 then unicodeEscape c.val
  else unicodeEscape (0xD800 + (c.val - 0x10000) / 0x400)
    ++ unicodeEscape (0xDC00 + (c.val - 0x10000) % 0x400)

/-- `py_encode_basestring_ascii`. -/
def dumpsStr (s : PyStr) : PyStr := quote :: s.flatMap escapeChar ++ [quote]

/-! ## Numbers -/

/-- `sys.int_info.default_max_str_digits`. -/
def maxStrDigits : Nat := 4300

def decimal (n : Nat) : PyStr :=
  if n = 0 then [decimalDigit 0] else ((Nat.digits 10 n).map decimalDigit).reverse

/-- `int.__repr__`, which raises `ValueError` beyond the digit limit. -/
def dumpsInt (i : Int) : Option PyStr :=
  let digits := decimal i.natAbs
  if maxStrDigits < digits.length then none
  else some (if i < 0 then minus :: digits else digits)

/-- Is it one of the digits `0` to `9`? -/
def isDigit (c : CodePoint) : Bool := 0x30 ≤ c.val ∧ c.val ≤ 0x39

/-- The fraction of a number, and what follows. -/
def matchFraction : PyStr → PyStr × PyStr
  | [] => ([], [])
  | c :: rest =>
    if c = point ∧ rest.takeWhile isDigit ≠ [] then
      (c :: rest.takeWhile isDigit, rest.dropWhile isDigit)
    else ([], c :: rest)

/-- The sign of an exponent, and what follows. -/
def matchSign : PyStr → PyStr × PyStr
  | [] => ([], [])
  | c :: rest => if c = plus ∨ c = minus then ([c], rest) else ([], c :: rest)

/-- The exponent of a number, and what follows. -/
def matchExponent : PyStr → PyStr × PyStr
  | [] => ([], [])
  | c :: rest =>
    let (sign, digits) := matchSign rest
    if (c = 0x65 ∨ c = 0x45) ∧ digits.takeWhile isDigit ≠ [] then
      (c :: sign ++ digits.takeWhile isDigit, digits.dropWhile isDigit)
    else ([], c :: rest)

/-- The digits before the fraction: a zero, or digits that do not begin with one. -/
def matchInteger : PyStr → Option (PyStr × PyStr)
  | [] => none
  | c :: rest =>
    if c = 0x30 then some ([c], rest)
    else if isDigit c then some (c :: rest.takeWhile isDigit, rest.dropWhile isDigit)
    else none

/-- `NUMBER_RE`: the sign and digits, the fraction and exponent, and what follows. -/
def matchNumber (s : PyStr) : Option (PyStr × PyStr × PyStr) :=
  let (sign, rest) := match s with
    | [] => ([], [])
    | c :: rest => if c = minus then ([c], rest) else ([], c :: rest)
  do
    let (digits, rest) ← matchInteger rest
    let (fraction, rest) := matchFraction rest
    let (exponent, rest) := matchExponent rest
    return (sign ++ digits, fraction ++ exponent, rest)

/-- The texts of the floats that are not numbers. -/
def floatConstants : List PyStr := [py "NaN", py "Infinity", py "-Infinity"]

/-- What `json` needs of floats: `float.__repr__` (`floatstr` for the three constants), `float()` of a
    text, and that reading a written float gives it back.  The text of a float is one of the constants
    or a number with a fraction or an exponent. -/
class JsonFloat (φ : Type) extends PyFloat φ where
  floatstr : φ → PyStr
  parse : PyStr → φ
  parse_floatstr : ∀ x, parse (floatstr x) = x
  floatstr_shape : ∀ x, floatstr x ∈ floatConstants ∨
    ∃ integer fraction, floatstr x = integer ++ fraction ∧ fraction ≠ [] ∧
      matchNumber (floatstr x) = some (integer, fraction, [])

/-- A single float, zero. -/
instance : JsonFloat Unit where
  eq _ _ := true
  eqInt _ i := i = 0
  floatstr _ := py "0.0"
  parse _ := ()
  parse_floatstr _ := rfl
  floatstr_shape _ := .inr ⟨py "0", py ".0", by decide, by decide, by decide⟩

/-! ## Values -/

section Dumps

variable {φ : Type} [JsonFloat φ]

/-- The text of a key. -/
def keyText : Key φ → Option PyStr
  | .str s => some s
  | .int i => dumpsInt i
  | .float x => some (JsonFloat.floatstr x)
  | .bool b => some (if b then py "true" else py "false")
  | .none => some (py "null")
  | .other => none

def Key.isStr : Key φ → Bool
  | .str _ => true
  | _ => false

def Key.isNumber : Key φ → Bool
  | .int _ | .float _ | .bool _ => true
  | _ => false

/-- `sorted(dct.items())` raises on keys of kinds that do not compare. -/
def keysCompare (items : List (Key φ × Value φ)) : Bool :=
  items.length ≤ 1 || items.all (fun e => Key.isStr e.1) || items.all (fun e => Key.isNumber e.1)

mutual

def dumps : Value φ → Option PyStr
  | .none => some (py "null")
  | .bool b => some (if b then py "true" else py "false")
  | .int i => dumpsInt i
  | .float x => some (JsonFloat.floatstr x)
  | .str s => some (dumpsStr s)
  | .list items | .tuple items => do
    return openBracket :: (← dumpsElements items)
  | .dict items => do
    if keysCompare items then return openBrace :: (← dumpsMembers items) else none
  | .bytes _ | .object => none

/-- The elements of a list, with the bracket that closes it. -/
def dumpsElements : List (Value φ) → Option PyStr
  | [] => some [closeBracket]
  | [v] => do return (← dumps v) ++ [closeBracket]
  | v :: vs => do return (← dumps v) ++ comma :: (← dumpsElements vs)

/-- The members of an object, with the brace that closes it. -/
def dumpsMembers : List (Key φ × Value φ) → Option PyStr
  | [] => some [closeBrace]
  | [(k, v)] => do return dumpsStr (← keyText k) ++ colon :: (← dumps v) ++ [closeBrace]
  | (k, v) :: items => do
    return dumpsStr (← keyText k) ++ colon :: (← dumps v) ++ comma :: (← dumpsMembers items)

end

/-! ## The text is printable ASCII -/

/-- Every character is one from space to tilde. -/
def Printable (s : PyStr) : Prop := ∀ c ∈ s, 0x20 ≤ c.val ∧ c.val ≤ 0x7E

instance (s : PyStr) : Decidable (Printable s) :=
  decidable_of_iff (s.all fun c => 0x20 ≤ c.val ∧ c.val ≤ 0x7E) (by simp [Printable])

theorem printable_nil : Printable [] := by simp [Printable]

theorem printable_cons {c : CodePoint} {s : PyStr} :
    Printable (c :: s) ↔ (0x20 ≤ c.val ∧ c.val ≤ 0x7E) ∧ Printable s :=
  List.forall_mem_cons

theorem printable_append {s t : PyStr} : Printable (s ++ t) ↔ Printable s ∧ Printable t :=
  List.forall_mem_append

theorem decimalDigit_digit (n : Nat) : isDigit (decimalDigit n) = true := by
  have hval : (decimalDigit n).val = 0x30 + n % 10 :=
    Nat.mod_eq_of_lt (by omega)
  simp only [isDigit, hval, decide_eq_true_eq]
  omega

theorem printable_of_isDigit {c : CodePoint} (h : isDigit c = true) :
    0x20 ≤ c.val ∧ c.val ≤ 0x7E := by
  have hrange : 0x30 ≤ c.val ∧ c.val ≤ 0x39 := of_decide_eq_true h
  omega

theorem hexDigit_printable (n : Nat) : 0x20 ≤ (hexDigit n).val ∧ (hexDigit n).val ≤ 0x7E := by
  have hval : (hexDigit n).val = if n % 16 < 10 then 0x30 + n % 16 else 0x57 + n % 16 :=
    Nat.mod_eq_of_lt (by split <;> omega)
  rw [hval]
  split <;> omega

theorem unicodeEscape_printable (n : Nat) : Printable (unicodeEscape n) := by
  simp only [unicodeEscape, printable_cons]
  exact ⟨by decide, by decide, hexDigit_printable _, hexDigit_printable _, hexDigit_printable _,
    hexDigit_printable _, printable_nil⟩

theorem escapeChar_printable (c : CodePoint) : Printable (escapeChar c) := by
  unfold escapeChar
  split
  · decide
  · split
    · decide
    · split
      · exact printable_cons.mpr ⟨‹_›, printable_nil⟩
      · -- the five short escapes are closed terms
        repeat (split; · decide)
        split
        · exact unicodeEscape_printable _
        · exact printable_append.mpr ⟨unicodeEscape_printable _, unicodeEscape_printable _⟩

theorem dumpsStr_printable (s : PyStr) : Printable (dumpsStr s) := by
  refine printable_cons.mpr ⟨by decide, printable_append.mpr ⟨?_, by decide⟩⟩
  intro c hc
  obtain ⟨d, -, hd⟩ := List.mem_flatMap.mp hc
  exact escapeChar_printable d c hd

/-- A decimal text has digits only, and begins with a zero only when it is `0`. -/
theorem decimal_digits (n : Nat) : ∀ c ∈ decimal n, isDigit c = true := by
  intro c hc
  unfold decimal at hc
  split at hc
  · exact List.mem_singleton.mp hc ▸ decimalDigit_digit 0
  · obtain ⟨d, -, rfl⟩ := List.mem_map.mp (List.mem_reverse.mp hc)
    exact decimalDigit_digit d

theorem dumpsInt_printable {i : Int} {t : PyStr} (h : dumpsInt i = some t) : Printable t := by
  have hdigits : Printable (decimal i.natAbs) := fun c hc =>
    printable_of_isDigit (decimal_digits _ c hc)
  simp only [dumpsInt] at h
  split at h
  · exact nomatch h
  · split at h <;> cases h
    · exact printable_cons.mpr ⟨by decide, hdigits⟩
    · exact hdigits

theorem takeWhile_isDigit_printable (s : PyStr) : Printable (s.takeWhile isDigit) :=
  fun _ hc => printable_of_isDigit (List.mem_takeWhile_imp hc)

theorem matchFraction_printable (s : PyStr) : Printable (matchFraction s).1 := by
  cases s with
  | nil => exact printable_nil
  | cons c rest =>
    simp only [matchFraction]
    split
    · rename_i h
      exact printable_cons.mpr ⟨by rw [h.1]; decide, takeWhile_isDigit_printable rest⟩
    · exact printable_nil

theorem matchExponent_printable (s : PyStr) : Printable (matchExponent s).1 := by
  cases s with
  | nil => exact printable_nil
  | cons c rest =>
    have hsign : Printable (matchSign rest).1 := by
      cases rest with
      | nil => exact printable_nil
      | cons d rest =>
        simp only [matchSign]
        split
        · rename_i h
          rcases h with h | h <;> exact printable_cons.mpr ⟨by rw [h]; decide, printable_nil⟩
        · exact printable_nil
    simp only [matchExponent]
    split
    · rename_i h
      refine printable_cons.mpr ⟨?_, printable_append.mpr ⟨hsign, takeWhile_isDigit_printable _⟩⟩
      rcases h.1 with h | h <;> rw [h] <;> decide
    · exact printable_nil

theorem matchInteger_printable {s a rest : PyStr} (h : matchInteger s = some (a, rest)) :
    Printable a := by
  cases s with
  | nil => exact nomatch h
  | cons c s =>
    simp only [matchInteger] at h
    split at h
    · rename_i hc
      cases h
      exact printable_cons.mpr ⟨by rw [hc]; decide, printable_nil⟩
    · split at h
      · rename_i hc
        cases h
        exact printable_cons.mpr ⟨printable_of_isDigit hc, takeWhile_isDigit_printable s⟩
      · exact nomatch h

theorem matchNumber_printable {s integer fraction rest : PyStr}
    (h : matchNumber s = some (integer, fraction, rest)) : Printable (integer ++ fraction) := by
  have key : ∀ sign tail : PyStr, Printable sign →
      (do
        let (digits, rest) ← matchInteger tail
        let (fraction, rest) := matchFraction rest
        let (exponent, rest) := matchExponent rest
        return (sign ++ digits, fraction ++ exponent, rest)) = some (integer, fraction, rest) →
      Printable (integer ++ fraction) := by
    intro sign tail hsign h
    cases hdigits : matchInteger tail with
    | none => rw [hdigits] at h; exact nomatch h
    | some found =>
      rw [hdigits] at h
      cases h
      exact printable_append.mpr ⟨printable_append.mpr ⟨hsign, matchInteger_printable hdigits⟩,
        printable_append.mpr ⟨matchFraction_printable _, matchExponent_printable _⟩⟩
  unfold matchNumber at h
  cases s with
  | nil => exact key [] [] printable_nil h
  | cons c s =>
    by_cases hc : c = minus
    · simp only [if_pos hc] at h
      exact key [c] s (printable_cons.mpr ⟨by rw [hc]; decide, printable_nil⟩) h
    · simp only [if_neg hc] at h
      exact key [] (c :: s) printable_nil h

theorem floatstr_printable (x : φ) : Printable (JsonFloat.floatstr x) := by
  rcases JsonFloat.floatstr_shape x with h | ⟨integer, fraction, htext, -, hmatch⟩
  · simp only [floatConstants, List.mem_cons, List.not_mem_nil, or_false] at h
    rcases h with h | h | h <;> rw [h] <;> decide
  · rw [htext]
    exact matchNumber_printable hmatch

mutual

/-- **Printable**: the text of a value is printable ASCII. -/
theorem dumps_printable : ∀ (v : Value φ) (t : PyStr), dumps v = some t → Printable t
  | .none, _, h => by cases h; decide
  | .bool b, _, h => by cases h; cases b <;> decide
  | .int _, _, h => dumpsInt_printable h
  | .float x, _, h => by cases h; exact floatstr_printable x
  | .str s, _, h => by cases h; exact dumpsStr_printable s
  | .list items, _, h | .tuple items, _, h => by
    obtain ⟨t, ht, h⟩ := Option.bind_eq_some_iff.mp h
    cases h
    exact printable_cons.mpr ⟨by decide, dumpsElements_printable items t ht⟩
  | .dict items, _, h => by
    unfold dumps at h
    split at h
    · obtain ⟨t, ht, h⟩ := Option.bind_eq_some_iff.mp h
      cases h
      exact printable_cons.mpr ⟨by decide, dumpsMembers_printable items t ht⟩
    · exact nomatch h
  | .bytes _, _, h | .object, _, h => nomatch h

theorem dumpsElements_printable : ∀ (vs : List (Value φ)) (t : PyStr),
    dumpsElements vs = some t → Printable t
  | [], _, h => by cases h; decide
  | [v], _, h => by
    obtain ⟨t, ht, h⟩ := Option.bind_eq_some_iff.mp h
    cases h
    exact printable_append.mpr ⟨dumps_printable v t ht, by decide⟩
  | v :: w :: vs, _, h => by
    obtain ⟨t, ht, h⟩ := Option.bind_eq_some_iff.mp h
    obtain ⟨u, hu, h⟩ := Option.bind_eq_some_iff.mp h
    cases h
    exact printable_append.mpr ⟨dumps_printable v t ht,
      printable_cons.mpr ⟨by decide, dumpsElements_printable (w :: vs) u hu⟩⟩

theorem dumpsMembers_printable : ∀ (items : List (Key φ × Value φ)) (t : PyStr),
    dumpsMembers items = some t → Printable t
  | [], _, h => by cases h; decide
  | [(k, v)], _, h => by
    obtain ⟨key, -, h⟩ := Option.bind_eq_some_iff.mp h
    obtain ⟨t, ht, h⟩ := Option.bind_eq_some_iff.mp h
    cases h
    exact printable_append.mpr ⟨printable_append.mpr ⟨dumpsStr_printable key,
      printable_cons.mpr ⟨by decide, dumps_printable v t ht⟩⟩, by decide⟩
  | (k, v) :: item :: items, _, h => by
    obtain ⟨key, -, h⟩ := Option.bind_eq_some_iff.mp h
    obtain ⟨t, ht, h⟩ := Option.bind_eq_some_iff.mp h
    obtain ⟨u, hu, h⟩ := Option.bind_eq_some_iff.mp h
    cases h
    exact printable_append.mpr ⟨printable_append.mpr ⟨dumpsStr_printable key,
      printable_cons.mpr ⟨by decide, dumps_printable v t ht⟩⟩,
      printable_cons.mpr ⟨by decide, dumpsMembers_printable (item :: items) u hu⟩⟩

end

end Dumps

end T2TouchId.Python.Json
