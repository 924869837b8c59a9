/-
  The text functions the journal checks its arguments with: `str.replace`, `str.strip`, `int(text, 16)`,
  and `uuid.UUID` over them.

  `uuid.UUID` accepts more than its canonical spelling: `int` takes white space, a sign, a `0x`, single
  underscores and every decimal digit of Unicode.  What the journal relies on is that an accepted text
  can be written to JSON and read back, so the result proved here is that it holds no surrogate
  (`uuidParses_plain`).
-/
import T2TouchId.Python.Value

namespace T2TouchId.Python

/-! ## Replacing and stripping -/

/-- `text.replace(needle, "")`: the first counter is the rest of an occurrence that is being removed. -/
def deleteAll (needle : PyStr) : Nat → PyStr → PyStr
  | _, [] => []
  | skip + 1, _ :: rest => deleteAll needle skip rest
  | 0, c :: rest =>
    if needle.isPrefixOf (c :: rest) then deleteAll needle (needle.length - 1) rest
    else c :: deleteAll needle 0 rest

/-- `text.strip(chars)`. -/
def strip (chars : PyStr) (text : PyStr) : PyStr :=
  ((text.dropWhile (· ∈ chars)).reverse.dropWhile (· ∈ chars)).reverse

/-! ## `int(text, 16)` -/

/-- The code points of the decimal zeros; nine digits follow each. -/
def decimalZeros : List Nat :=
  [0x30, 0x660, 0x6F0, 0x7C0, 0x966, 0x9E6, 0xA66, 0xAE6, 0xB66, 0xBE6, 0xC66, 0xCE6, 0xD66, 0xDE6,
   0xE50, 0xED0, 0xF20, 0x1040, 0x1090, 0x17E0, 0x1810, 0x1946, 0x19D0, 0x1A80, 0x1A90, 0x1B50,
   0x1BB0, 0x1C40, 0x1C50, 0xA620, 0xA8D0, 0xA900, 0xA9D0, 0xA9F0, 0xAA50, 0xABF0, 0xFF10, 0x104A0,
   0x10D30, 0x11066, 0x110F0, 0x11136, 0x111D0, 0x112F0, 0x11450, 0x114D0, 0x11650, 0x116C0,
   0x11730, 0x118E0, 0x11950, 0x11C50, 0x11D50, 0x11DA0, 0x16A60, 0x16AC0, 0x16B50, 0x1D7CE,
   0x1D7D8, 0x1D7E2, 0x1D7EC, 0x1D7F6, 0x1E140, 0x1E2F0, 0x1E950, 0x1FBF0]

/-- The white space outside ASCII. -/
def wideSpaces : List Nat :=
  [0x85, 0xA0, 0x1680, 0x2000, 0x2001, 0x2002, 0x2003, 0x2004, 0x2005, 0x2006, 0x2007, 0x2008,
   0x2009, 0x200A, 0x2028, 0x2029, 0x202F, 0x205F, 0x3000]

/-- `_PyUnicode_TransformDecimalAndSpaceToASCII`: what `int` takes a character for. -/
def intChar (c : CodePoint) : Option Nat :=
  if c.val < 0x80 then some c.val
  else if c.val ∈ wideSpaces then some 0x20
  else (decimalZeros.find? fun first => first ≤ c.val ∧ c.val < first + 10).map fun first =>
    0x30 + (c.val - first)

def isIntSpace (n : Nat) : Bool := n = 0x20 ∨ (0x09 ≤ n ∧ n ≤ 0x0D)

def isHexDigit (n : Nat) : Bool :=
  (0x30 ≤ n ∧ n ≤ 0x39) ∨ (0x41 ≤ n ∧ n ≤ 0x46) ∨ (0x61 ≤ n ∧ n ≤ 0x66)

/-- Digits with single underscores between them; the flag says that a digit stands before. -/
def hexDigits : Bool → List Nat → Bool
  | afterDigit, [] => afterDigit
  | afterDigit, n :: rest =>
    if n = 0x5F then afterDigit && hexDigits false rest else isHexDigit n && hexDigits true rest

/-- The digits behind an optional `0x`, after which one underscore may stand. -/
def hexNumber : List Nat → Bool
  | 0x30 :: x :: rest =>
    if x = 0x78 ∨ x = 0x58 then
      match rest with
      | 0x5F :: rest => hexDigits false rest
      | _ => hexDigits false rest
    else hexDigits false (0x30 :: x :: rest)
  | ns => hexDigits false ns

/-- Does `int(text, 16)` return? -/
def intParses16 (text : PyStr) : Bool :=
  match text.mapM intChar with
  | none => false
  | some ns =>
    let trimmed := ((ns.dropWhile isIntSpace).reverse.dropWhile isIntSpace).reverse
    match trimmed with
    | [] => false
    | n :: rest => if n = 0x2B ∨ n = 0x2D then hexNumber rest else hexNumber (n :: rest)

/-! ## `uuid.UUID` -/

/-- The text that `uuid.UUID` hands to `int`. -/
def uuidHex (text : PyStr) : PyStr :=
  deleteAll (py "-") 0
    (strip (py "\x7b\x7d") (deleteAll (py "uuid:") 0 (deleteAll (py "urn:") 0 text)))

/-- Does `uuid.UUID(text)` return?  A number of 32 hexadecimal digits is in range. -/
def uuidParses (text : PyStr) : Bool :=
  (uuidHex text).length = 32 && intParses16 (uuidHex text)

/-- `text.isascii()`. -/
def isAscii (text : PyStr) : Bool := text.all fun c => c.val < 0x80

/-- `text.isalnum()` of ASCII text. -/
def isAlnum (text : PyStr) : Bool :=
  !text.isEmpty && text.all fun c =>
    (0x30 ≤ c.val ∧ c.val ≤ 0x39) ∨ (0x41 ≤ c.val ∧ c.val ≤ 0x5A) ∨ (0x61 ≤ c.val ∧ c.val ≤ 0x7A)

/-! ## An accepted UUID holds no surrogate -/

def isSurrogate (c : CodePoint) : Prop := 0xD800 ≤ c.val ∧ c.val ≤ 0xDFFF

/-- What is removed is a part of the needle. -/
theorem mem_deleteAll (needle : PyStr) (hne : needle ≠ []) {c : CodePoint} (text : PyStr) :
    ∀ skip, c ∈ text → c ∈ deleteAll needle skip text ∨ c ∈ needle ∨ c ∈ text.take skip := by
  induction text with
  | nil => exact fun _ h => absurd h List.not_mem_nil
  | cons d rest ih =>
    intro skip hc
    cases skip with
    | succ skip =>
      rw [deleteAll, List.take_succ_cons]
      rcases List.mem_cons.mp hc with rfl | hc
      · exact .inr (.inr List.mem_cons_self)
      · exact (ih skip hc).imp_right (Or.imp_right (List.mem_cons_of_mem d))
    | zero =>
      rw [deleteAll]
      split
      · rename_i hprefix
        -- an occurrence is as long as the needle and made of its characters
        obtain ⟨tail, htail⟩ := List.isPrefixOf_iff_prefix.mp hprefix
        obtain ⟨e, needle, rfl⟩ := List.exists_cons_of_ne_nil hne
        injection htail with hed htail
        subst hed htail
        rcases List.mem_cons.mp hc with rfl | hc
        · exact .inr (.inl List.mem_cons_self)
        · rcases ih needle.length hc with h | h | h
          · exact .inl h
          · exact .inr (.inl h)
          · have h : c ∈ (needle ++ tail).take needle.length := h
            rw [List.take_left] at h
            exact .inr (.inl (List.mem_cons_of_mem e h))
      · rcases List.mem_cons.mp hc with rfl | hc
        · exact .inl List.mem_cons_self
        · exact (ih 0 hc).elim (fun h => .inl (List.mem_cons_of_mem d h)) .inr

theorem mem_dropWhile {p : CodePoint → Bool} {c : CodePoint} {text : PyStr} (h : c ∈ text) :
    c ∈ text.dropWhile p ∨ p c = true := by
  rw [← List.takeWhile_append_dropWhile (p := p) (l := text)] at h
  exact (List.mem_append.mp h).elim (fun h => .inr (List.mem_takeWhile_imp h)) .inl

theorem mem_strip (chars : PyStr) {c : CodePoint} {text : PyStr} (h : c ∈ text) :
    c ∈ strip chars text ∨ c ∈ chars := by
  rcases mem_dropWhile (p := (· ∈ chars)) h with h | h
  · rcases mem_dropWhile (p := (· ∈ chars)) (List.mem_reverse.mpr h) with h | h
    · exact .inl (List.mem_reverse.mpr h)
    · exact .inr (of_decide_eq_true h)
  · exact .inr (of_decide_eq_true h)

/-- Every character is one that `uuid.UUID` removes or one that `int` reads. -/
theorem mem_uuidHex {c : CodePoint} {text : PyStr} (h : c ∈ text) :
    c ∈ uuidHex text ∨ c.val < 0x80 := by
  have hascii : ∀ s : PyStr, isAscii s = true → c ∈ s → c.val < 0x80 := fun s hs hc =>
    of_decide_eq_true (List.all_eq_true.mp hs c hc)
  rcases mem_deleteAll (py "urn:") (by decide) text 0 h with h | h | h
  · rcases mem_deleteAll (py "uuid:") (by decide) _ 0 h with h | h | h
    · rcases mem_strip (py "\x7b\x7d") h with h | h
      · rcases mem_deleteAll (py "-") (by decide) _ 0 h with h | h | h
        · exact .inl h
        · exact .inr (hascii _ (by decide) h)
        · exact absurd h (by simp)
      · exact .inr (hascii _ (by decide) h)
    · exact .inr (hascii _ (by decide) h)
    · exact absurd h (by simp)
  · exact .inr (hascii _ (by decide) h)
  · exact absurd h (by simp)

theorem intChar_plain {c : CodePoint} {n : Nat} (h : intChar c = some n) :
    ¬ isSurrogate c := by
  rintro ⟨hlow, hhigh⟩
  have hspaces : ∀ m ∈ wideSpaces, m < 0xD800 := by decide
  have hzeros : ∀ m ∈ decimalZeros, ¬ (0xD800 < m + 10 ∧ m ≤ 0xDFFF) := by decide
  unfold intChar at h
  split at h
  · omega
  · split at h
    · rename_i hspace
      have := hspaces _ hspace
      omega
    · obtain ⟨m, hfind, -⟩ := Option.map_eq_some_iff.mp h
      have hrange : m ≤ c.val ∧ c.val < m + 10 := by simpa using List.find?_some hfind
      have := hzeros m (List.mem_of_find?_eq_some hfind)
      omega

theorem mapM_some_mem {α β : Type} {f : α → Option β} (xs : List α) : ∀ ys,
    xs.mapM f = some ys → ∀ x ∈ xs, ∃ y, f x = some y := by
  induction xs with
  | nil => exact fun _ _ _ h => absurd h List.not_mem_nil
  | cons a xs ih =>
    intro ys h x hx
    rw [List.mapM_cons] at h
    obtain ⟨b, hb, h⟩ := Option.bind_eq_some_iff.mp h
    obtain ⟨bs, hbs, -⟩ := Option.bind_eq_some_iff.mp h
    rcases List.mem_cons.mp hx with rfl | hx
    · exact ⟨b, hb⟩
    · exact ih bs hbs x hx

/-- **Surrogates** make `uuid.UUID` raise. -/
theorem uuidParses_plain {text : PyStr} (h : uuidParses text = true) :
    ∀ c ∈ text, ¬ isSurrogate c := by
  intro c hc
  rcases mem_uuidHex hc with hc | hc
  · have hint := (Bool.and_eq_true_iff.mp h).2
    unfold intParses16 at hint
    split at hint
    · exact nomatch hint
    · rename_i ns hns
      obtain ⟨n, hn⟩ := mapM_some_mem _ ns hns c hc
      exact intChar_plain hn
  · rintro ⟨hlow, -⟩
    omega

end T2TouchId.Python
