/-
  Writing a UUID.

  `str(uuid.UUID(bytes=…))` spells sixteen bytes as 32 hexadecimal digits with four dashes.  What it writes,
  `uuid.UUID` reads: there is nothing to replace or to strip, and the dashes go.

  1. **Program** — `dashed`: 32 digits with the dashes.
  2. **Nothing to remove** — `deleteAll_absent`, `strip_absent`; `deleteAll_single` for the dashes.
  3. **Result** — `uuidHex_dashed` and `uuidParses_dashed`.
-/
import T2TouchId.Python.Text

namespace T2TouchId.Python

/-- The digits of a UUID with the dashes. -/
def dashed (digits : PyStr) : PyStr :=
  digits.take 8 ++ [0x2D] ++ (digits.drop 8).take 4 ++ [0x2D] ++ (digits.drop 12).take 4 ++ [0x2D]
    ++ (digits.drop 16).take 4 ++ [0x2D] ++ digits.drop 20

/-! ## Nothing to remove -/

/-- A needle whose first character is nowhere. -/
theorem deleteAll_absent {first : CodePoint} {needle text : PyStr} (h : first ∉ text) :
    deleteAll (first :: needle) 0 text = text := by
  induction text with
  | nil => rfl
  | cons c rest ih =>
    obtain ⟨hc, hrest⟩ := not_or.mp (fun hor => h (List.mem_cons.mpr hor))
    have hprefix : ¬ (first :: needle).isPrefixOf (c :: rest) = true := by
      rw [List.isPrefixOf_iff_prefix, List.cons_prefix_cons]
      exact fun hboth => hc hboth.1
    rw [deleteAll, if_neg hprefix, ih hrest]

/-- A single character. -/
theorem deleteAll_single (c : CodePoint) (text : PyStr) : deleteAll [c] 0 text = text.filter (· ≠ c) := by
  induction text with
  | nil => rfl
  | cons d rest ih =>
    by_cases hcd : d = c
    · subst hcd
      have hprefix : [d].isPrefixOf (d :: rest) = true := by simp
      rw [deleteAll, if_pos hprefix]
      show deleteAll [d] 0 rest = _
      rw [ih]
      simp
    · have hprefix : ¬ [c].isPrefixOf (d :: rest) = true := by simp [Ne.symm hcd]
      rw [deleteAll, if_neg hprefix, ih]
      simp [hcd]

theorem dropWhile_absent {text : List Nat} {p : Nat → Bool} (h : ∀ c ∈ text, p c = false) :
    text.dropWhile p = text := by
  cases text with
  | nil => rfl
  | cons c rest => rw [List.dropWhile_cons, h c List.mem_cons_self, if_neg Bool.false_ne_true]

theorem strip_absent {chars text : PyStr} (h : ∀ c ∈ text, c ∉ chars) : strip chars text = text := by
  have hdrop : ∀ text : PyStr, (∀ c ∈ text, c ∉ chars) → text.dropWhile (· ∈ chars) = text := by
    intro text h
    cases text with
    | nil => rfl
    | cons c rest => rw [List.dropWhile_cons, if_neg (by simpa using h c List.mem_cons_self)]
  rw [strip, hdrop text h, hdrop _ (fun c hc => h c (List.mem_reverse.mp hc)), List.reverse_reverse]

/-! ## The digits -/

theorem hexDigits_of {ns : List Nat} (h : ∀ n ∈ ns, isHexDigit n = true) :
    ∀ afterDigit, (ns = [] → afterDigit = true) → hexDigits afterDigit ns = true := by
  induction ns with
  | nil => exact fun afterDigit hempty => hempty rfl
  | cons n ns ih =>
    intro afterDigit _
    have hn := h n List.mem_cons_self
    have hne : n ≠ 0x5F := by
      rintro rfl
      exact absurd hn (by decide)
    rw [hexDigits, if_neg hne, hn, ih (fun m hm => h m (List.mem_cons_of_mem _ hm)) true fun _ => rfl]
    rfl

theorem hexNumber_of {ns : List Nat} (h : ∀ n ∈ ns, isHexDigit n = true) (hne : ns ≠ []) :
    hexNumber ns = true := by
  have hdigits := hexDigits_of h false (fun hempty => absurd hempty hne)
  unfold hexNumber
  split
  · rename_i x rest
    -- an `x` is no digit
    have hx : ¬ (x = 0x78 ∨ x = 0x58) := by
      rintro (rfl | rfl)
      · exact absurd (h 0x78 (by simp)) (by decide)
      · exact absurd (h 0x58 (by simp)) (by decide)
    rw [if_neg hx]
    exact hdigits
  · exact hdigits

/-- Hexadecimal digits are a number. -/
theorem intParses16_of {digits : PyStr} (h : ∀ c ∈ digits, isHexDigit c.val = true) (hne : digits ≠ []) :
    intParses16 digits = true := by
  have hbounds : ∀ n, isHexDigit n = true → n < 0x80 ∧ isIntSpace n = false ∧ n ≠ 0x2B ∧ n ≠ 0x2D := by
    intro n hn
    simp only [isHexDigit, isIntSpace, decide_eq_true_eq, decide_eq_false_iff_not] at *
    omega
  have hchars : digits.mapM intChar = some (digits.map fun c => c.val) := by
    clear hne
    induction digits with
    | nil => rfl
    | cons c rest ih =>
      have hc := (hbounds _ (h c List.mem_cons_self)).1
      rw [List.mapM_cons, intChar, if_pos hc, ih fun d hd => h d (List.mem_cons_of_mem _ hd)]
      rfl
  have hns : ∀ n ∈ digits.map (fun c => c.val), isHexDigit n = true := by
    intro n hn
    obtain ⟨c, hc, rfl⟩ := List.mem_map.mp hn
    exact h c hc
  have hspaces : ∀ n ∈ digits.map (fun c => c.val), isIntSpace n = false := fun n hn =>
    (hbounds n (hns n hn)).2.1
  unfold intParses16
  rw [hchars]
  simp only []
  rw [dropWhile_absent hspaces, dropWhile_absent fun n hn => hspaces n (List.mem_reverse.mp hn),
    List.reverse_reverse]
  obtain ⟨c, rest, rfl⟩ := List.exists_cons_of_ne_nil hne
  obtain ⟨-, -, hplus, hminus⟩ := hbounds _ (h c List.mem_cons_self)
  have hsign : ¬ (c.val = 0x2B ∨ c.val = 0x2D) := not_or.mpr ⟨hplus, hminus⟩
  simp only [List.map_cons, if_neg hsign]
  exact hexNumber_of hns (by simp)

/-! ## Reading back -/

/-- The characters of a written UUID. -/
theorem mem_dashed {digits : PyStr} {c : CodePoint} (h : c ∈ dashed digits) : c ∈ digits ∨ c = 0x2D := by
  simp only [dashed, List.mem_append, List.mem_singleton] at h
  have htake : ∀ n m, c ∈ (digits.drop n).take m → c ∈ digits := fun n m hc =>
    List.mem_of_mem_drop (List.mem_of_mem_take hc)
  rcases h with (((((((h | h) | h) | h) | h) | h) | h) | h) | h
  · exact .inl (List.mem_of_mem_take h)
  · exact .inr h
  · exact .inl (htake _ _ h)
  · exact .inr h
  · exact .inl (htake _ _ h)
  · exact .inr h
  · exact .inl (htake _ _ h)
  · exact .inr h
  · exact .inl (List.mem_of_mem_drop h)

/-- Without the dashes it is the digits again. -/
theorem filter_dashed {digits : PyStr} (h : ∀ c ∈ digits, c ≠ 0x2D) :
    (dashed digits).filter (· ≠ 0x2D) = digits := by
  have hkeep : ∀ part : PyStr, (∀ c ∈ part, c ∈ digits) → part.filter (· ≠ 0x2D) = part := fun part hpart =>
    List.filter_eq_self.mpr fun c hc => by simpa using h c (hpart c hc)
  have htake : ∀ n m, ∀ c ∈ (digits.drop n).take m, c ∈ digits := fun n m c hc =>
    List.mem_of_mem_drop (List.mem_of_mem_take hc)
  have hdash : ([0x2D] : PyStr).filter (· ≠ 0x2D) = [] := by simp
  simp only [dashed, List.filter_append, hdash, List.append_nil]
  rw [hkeep _ fun c hc => List.mem_of_mem_take hc, hkeep _ (htake 8 4), hkeep _ (htake 12 4),
    hkeep _ (htake 16 4), hkeep _ fun c hc => List.mem_of_mem_drop hc]
  have hsplit : ∀ n, (digits.drop n).take 4 ++ digits.drop (n + 4) = digits.drop n := by
    intro n
    rw [← List.drop_drop]
    exact List.take_append_drop 4 (digits.drop n)
  simp only [List.append_assoc]
  rw [hsplit 16, hsplit 12, hsplit 8, List.take_append_drop]

/-- What `int` is handed of a written UUID. -/
theorem uuidHex_dashed {digits : PyStr} (h : ∀ c ∈ digits, isHexDigit c.val = true) :
    uuidHex (dashed digits) = digits := by
  have hvals : ∀ c ∈ dashed digits, isHexDigit c.val = true ∨ c.val = 0x2D := by
    intro c hc
    rcases mem_dashed hc with hc | rfl
    · exact .inl (h c hc)
    · exact .inr rfl
  have habsent : ∀ d : CodePoint, isHexDigit d.val = false → d.val ≠ 0x2D → d ∉ dashed digits := by
    intro d hdigit hdash hd
    rcases hvals d hd with hhex | hval
    · exact absurd hhex (by simp [hdigit])
    · exact hdash hval
  have hne : ∀ c ∈ digits, c ≠ 0x2D := by
    rintro c hc rfl
    exact absurd (h _ hc) (by decide)
  have hurn : deleteAll (py "urn:") 0 (dashed digits) = dashed digits :=
    deleteAll_absent (habsent _ (by decide) (by decide))
  have huuid : deleteAll (py "uuid:") 0 (dashed digits) = dashed digits :=
    deleteAll_absent (habsent _ (by decide) (by decide))
  have hstrip : strip (py "\x7b\x7d") (dashed digits) = dashed digits := by
    refine strip_absent fun c hc hmem => ?_
    rcases List.mem_cons.mp hmem with rfl | hmem
    · exact habsent _ (by decide) (by decide) hc
    · rcases List.mem_cons.mp hmem with rfl | hmem
      · exact habsent _ (by decide) (by decide) hc
      · exact absurd hmem List.not_mem_nil
  rw [uuidHex, hurn, huuid, hstrip]
  exact (deleteAll_single _ _).trans (filter_dashed hne)

/-- **A written UUID** is one. -/
theorem uuidParses_dashed {digits : PyStr} (h : ∀ c ∈ digits, isHexDigit c.val = true)
    (hlength : digits.length = 32) : uuidParses (dashed digits) = true := by
  have hparses : intParses16 digits = true := by
    refine intParses16_of h ?_
    rintro rfl
    exact absurd hlength (by decide)
  rw [uuidParses, uuidHex_dashed h, hlength, hparses]
  rfl

end T2TouchId.Python
