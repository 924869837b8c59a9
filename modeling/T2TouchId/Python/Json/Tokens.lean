/-
  Reading and writing the pieces of JSON text: strings, numbers and constants.

  Two facts about each piece.  Behind what the writer puts there the scanner stops, and what it has read
  is what was written (`scanString_dumpsStr`, `scanAtom_int`, `scanAtom_float`).  And text without
  surrogates has them only as escapes, so a string read from it never has an adjacent pair
  (`scanString_whole`): the scanner would have joined it.

  The crux is that the writer puts one of `,` `]` `}` and a newline behind a value, and none of them
  continues a number (`matchNumber_append`).
-/
import T2TouchId.Python.Json.Read

namespace T2TouchId.Python.Json

/-! ## Strings -/

/-- No high surrogate is directly followed by a low one. -/
def noPairs : PyStr → Bool
  | [] => true
  | [_] => true
  | u :: v :: rest => !(isHighSurrogate u && isLowSurrogate v) && noPairs (v :: rest)

/-- A string without a high surrogate has no pair. -/
theorem noPairs_of_no_high {s : PyStr} (h : ∀ c ∈ s, isHighSurrogate c = false) :
    noPairs s = true := by
  induction s with
  | nil => rfl
  | cons c s ih =>
    have ih := ih fun d hd => h d (List.mem_cons_of_mem c hd)
    cases s with
    | nil => rfl
    | cons d s =>
      rw [noPairs, h c List.mem_cons_self, ih]
      rfl

/-- The surrogates a character above the basic plane is written as. -/
def highOf (c : CodePoint) : CodePoint := Fin.ofNat _ (0xD800 + (c.val - 0x10000) / 0x400)
def lowOf (c : CodePoint) : CodePoint := Fin.ofNat _ (0xDC00 + (c.val - 0x10000) % 0x400)

theorem hexValue_hexDigit (n : Nat) : hexValue (hexDigit n) = some (n % 16) := by
  have hval : (hexDigit n).val = if n % 16 < 10 then 0x30 + n % 16 else 0x57 + n % 16 :=
    Nat.mod_eq_of_lt (by split <;> omega)
  unfold hexValue isDigit
  rw [hval]
  by_cases hlt : n % 16 < 10
  · rw [if_pos hlt, if_pos (by simp; omega)]
    congr 1
    omega
  · rw [if_neg hlt, if_neg (by simp; omega), if_pos (by omega)]
    congr 1
    omega

theorem scanUnits_hex (d3 d2 d1 d0 : CodePoint) (s : PyStr) :
    scanUnits (backslash :: 0x75 :: d3 :: d2 :: d1 :: d0 :: s) =
      (readHex d3 d2 d1 d0).bind fun c => (scanUnits s).map fun r => ((c, true) :: r.1, r.2) := by
  rw [scanUnits.eq_def]
  simp only [if_neg (show backslash ≠ quote by decide), if_pos]
  cases readHex d3 d2 d1 d0 <;> [rfl; (cases scanUnits s <;> rfl)]

theorem scanUnits_unicodeEscape {n : Nat} (hn : n < 0x10000) (s : PyStr) :
    scanUnits (unicodeEscape n ++ s) =
      (scanUnits s).map fun r => ((Fin.ofNat _ n, true) :: r.1, r.2) := by
  have hread : readHex (hexDigit (n / 0x1000)) (hexDigit (n / 0x100)) (hexDigit (n / 0x10))
      (hexDigit n) = some (Fin.ofNat _ n) := by
    simp only [readHex, hexValue_hexDigit]
    show some (Fin.ofNat _ _) = _
    congr 2
    omega
  show scanUnits (backslash :: 0x75 :: _ :: _ :: _ :: _ :: s) = _
  rw [scanUnits_hex, hread, Option.bind_some]

/-- The units that a character is scanned to. -/
def unitsOf (c : CodePoint) : List (CodePoint × Bool) :=
  if c = backslash ∨ c = quote ∨ (0x20 ≤ c.val ∧ c.val ≤ 0x7E) ∨ c = 0x08 ∨ c = 0x0C ∨ c = 0x0A
      ∨ c = 0x0D ∨ c = 0x09 then [(c, false)]
  else if c.val < 0x10000 then [(c, true)]
  else [(highOf c, true), (lowOf c, true)]

theorem scanUnits_short {e : CodePoint} (he : e ≠ 0x75) (s : PyStr) :
    scanUnits (backslash :: e :: s) =
      (shortEscape e).bind fun c => (scanUnits s).map fun r => ((c, false) :: r.1, r.2) := by
  rw [scanUnits.eq_def]
  simp only [if_neg (show backslash ≠ quote by decide), if_pos, if_neg he]
  cases shortEscape e <;> [rfl; (cases scanUnits s <;> rfl)]

theorem scanUnits_plain {c : CodePoint} (hquote : c ≠ quote) (hbackslash : c ≠ backslash)
    (hc : ¬ c.val < 0x20) (s : PyStr) :
    scanUnits (c :: s) = (scanUnits s).map fun r => ((c, false) :: r.1, r.2) := by
  rw [scanUnits.eq_def]
  simp only [if_neg hquote, if_neg hbackslash, if_neg hc]
  cases scanUnits s <;> rfl

theorem ofNat_val (c : CodePoint) : Fin.ofNat 0x110000 c.val = c :=
  Fin.ext (Nat.mod_eq_of_lt c.isLt)

theorem scanUnits_escapeChar (c : CodePoint) (s : PyStr) :
    scanUnits (escapeChar c ++ s) = (scanUnits s).map fun r => (unitsOf c ++ r.1, r.2) := by
  unfold escapeChar
  split
  · rename_i h
    subst h
    exact scanUnits_short (by decide) s
  · rename_i hbackslash
    split
    · rename_i h
      subst h
      exact scanUnits_short (by decide) s
    · rename_i hquote
      split
      · rename_i h
        rw [unitsOf, if_pos (.inr (.inr (.inl h)))]
        exact scanUnits_plain hquote hbackslash (by omega) s
      · rename_i hplain
        -- the five short escapes, then the two lengths of an escape by number
        repeat (split; · rename_i h; subst h; exact scanUnits_short (by decide) s)
        rename_i h8 hC hA hD h9
        have hunits : ¬ (c = backslash ∨ c = quote ∨ (0x20 ≤ c.val ∧ c.val ≤ 0x7E) ∨ c = 0x08 ∨
            c = 0x0C ∨ c = 0x0A ∨ c = 0x0D ∨ c = 0x09) := by
          simp only [not_or]
          exact ⟨hbackslash, hquote, hplain, h8, hC, hA, hD, h9⟩
        rw [unitsOf, if_neg hunits]
        split
        · rename_i hbasic
          rw [scanUnits_unicodeEscape hbasic, ofNat_val]
          rfl
        · have hlt := c.isLt
          rw [List.append_assoc, scanUnits_unicodeEscape (by omega),
            scanUnits_unicodeEscape (by omega), Option.map_map]
          rfl

/-- The units of a written string come back, and the scanner stops behind the closing quote. -/
theorem scanUnits_dumpsStr (s rest : PyStr) :
    scanUnits (s.flatMap escapeChar ++ quote :: rest) = some (s.flatMap unitsOf, rest) := by
  induction s with
  | nil =>
    rw [List.flatMap_nil, List.nil_append, scanUnits.eq_def]
    exact if_pos rfl
  | cons c s ih =>
    rw [List.flatMap_cons, List.append_assoc, scanUnits_escapeChar, ih]
    rfl

/-- A unit that does not begin a marked pair is left alone. -/
theorem joinSurrogates_cons {u : CodePoint} {m : Bool} {us : List (CodePoint × Bool)}
    (h : ∀ v rest, us = (v, true) :: rest → m = true → isHighSurrogate u = true →
      isLowSurrogate v = false) :
    joinSurrogates ((u, m) :: us) = u :: joinSurrogates us := by
  cases us with
  | nil => rfl
  | cons unit rest =>
    obtain ⟨v, n⟩ := unit
    rw [joinSurrogates, if_neg]
    rintro ⟨hm, hn, hu, hv⟩
    cases n with
    | false => exact nomatch hn
    | true => rw [h v rest rfl hm hu] at hv; exact nomatch hv

theorem isHighSurrogate_iff {c : CodePoint} :
    isHighSurrogate c = true ↔ 0xD800 ≤ c.val ∧ c.val ≤ 0xDBFF := decide_eq_true_iff

theorem isLowSurrogate_iff {c : CodePoint} :
    isLowSurrogate c = true ↔ 0xDC00 ≤ c.val ∧ c.val ≤ 0xDFFF := decide_eq_true_iff

theorem highOf_val {c : CodePoint} (hc : 0x10000 ≤ c.val) :
    (highOf c).val = 0xD800 + (c.val - 0x10000) / 0x400 ∧ isHighSurrogate (highOf c) = true := by
  have hlt := c.isLt
  have hval : (highOf c).val = 0xD800 + (c.val - 0x10000) / 0x400 :=
    Nat.mod_eq_of_lt (by omega)
  exact ⟨hval, isHighSurrogate_iff.mpr (by omega)⟩

theorem lowOf_val (c : CodePoint) :
    (lowOf c).val = 0xDC00 + (c.val - 0x10000) % 0x400 ∧ isLowSurrogate (lowOf c) = true := by
  have hval : (lowOf c).val = 0xDC00 + (c.val - 0x10000) % 0x400 :=
    Nat.mod_eq_of_lt (by omega)
  exact ⟨hval, isLowSurrogate_iff.mpr (by omega)⟩

theorem joinPair_of {c : CodePoint} (hc : 0x10000 ≤ c.val) : joinPair (highOf c) (lowOf c) = c := by
  have hlt := c.isLt
  refine Fin.ext ?_
  show (0x10000 + ((highOf c).val - 0xD800) * 0x400 + ((lowOf c).val - 0xDC00)) % 0x110000 = c.val
  rw [(highOf_val hc).1, (lowOf_val c).1]
  omega

theorem unitsOf_cases (c : CodePoint) :
    unitsOf c = [(c, false)] ∨ unitsOf c = [(c, true)] ∨
      0x10000 ≤ c.val ∧ unitsOf c = [(highOf c, true), (lowOf c, true)] := by
  unfold unitsOf
  split
  · exact .inl rfl
  · split
    · exact .inr (.inl rfl)
    · exact .inr (.inr ⟨by omega, rfl⟩)

/-- A marked low surrogate at the front comes from a character that is one. -/
theorem unitsOf_low {c v : CodePoint} {us rest : List (CodePoint × Bool)}
    (h : unitsOf c ++ us = (v, true) :: rest) (hv : isLowSurrogate v = true) : v = c := by
  rcases unitsOf_cases c with hunits | hunits | ⟨hc, hunits⟩ <;> rw [hunits] at h <;>
    injection h with hunit <;> injection hunit with hcv hmark
  · exact nomatch hmark
  · exact hcv.symm
  · have hhigh := isHighSurrogate_iff.mp (highOf_val hc).2
    have hlow := isLowSurrogate_iff.mp hv
    rw [← hcv] at hlow
    omega

/-- What the scanner makes of a written string: adjacent surrogates come back as one character. -/
def rejoin (s : PyStr) : PyStr := joinSurrogates (s.flatMap unitsOf)

/-- An adjacent pair is joined. -/
theorem rejoin_pair {c d : CodePoint} (hc : isHighSurrogate c = true) (hd : isLowSurrogate d = true)
    (s : PyStr) : rejoin (c :: d :: s) = joinPair c d :: rejoin s := by
  have hunits : ∀ u : CodePoint, isHighSurrogate u = true ∨ isLowSurrogate u = true →
      unitsOf u = [(u, true)] := by
    intro u hu
    have hrange : 0xD800 ≤ u.val ∧ u.val ≤ 0xDFFF := by
      rcases hu with hu | hu
      · have hhigh := isHighSurrogate_iff.mp hu
        omega
      · have hlow := isLowSurrogate_iff.mp hu
        omega
    have hshort : ∀ e : CodePoint, e.val < 0x80 → u ≠ e := by
      rintro e he rfl
      omega
    rw [unitsOf, if_neg, if_pos (by omega)]
    simp only [not_or]
    exact ⟨hshort _ (by decide), hshort _ (by decide), by omega, hshort _ (by decide),
      hshort _ (by decide), hshort _ (by decide), hshort _ (by decide), hshort _ (by decide)⟩
  rw [rejoin, List.flatMap_cons, List.flatMap_cons, hunits c (.inl hc), hunits d (.inr hd),
    List.singleton_append, List.singleton_append, joinSurrogates, if_pos ⟨rfl, rfl, hc, hd⟩]
  rfl

/-- A character that does not begin a pair stays. -/
theorem rejoin_cons {c : CodePoint} {s : PyStr}
    (h : ∀ d rest, s = d :: rest → isHighSurrogate c = true → isLowSurrogate d = false) :
    rejoin (c :: s) = c :: rejoin s := by
  -- what follows begins with a marked low surrogate only when the next character is one
  have hnext : ∀ v rest, s.flatMap unitsOf = (v, true) :: rest → isHighSurrogate c = true →
      isLowSurrogate v = false := by
    intro v rest hunits hhigh
    cases s with
    | nil => exact nomatch hunits
    | cons d s =>
      by_contra hlow
      have hlow : isLowSurrogate v = true := by simpa using hlow
      have hd : v = d := unitsOf_low hunits hlow
      rw [hd, h d s rfl hhigh] at hlow
      exact nomatch hlow
  rw [rejoin, List.flatMap_cons]
  rcases unitsOf_cases c with hunits | hunits | ⟨hc, hunits⟩ <;> rw [hunits]
  · rw [List.singleton_append, joinSurrogates_cons (fun _ _ _ hm => absurd hm (by decide))]
    rfl
  · rw [List.singleton_append, joinSurrogates_cons fun v rest hunits _ => hnext v rest hunits]
    rfl
  · rw [List.cons_append, List.singleton_append, joinSurrogates,
      if_pos ⟨rfl, rfl, (highOf_val hc).2, (lowOf_val c).2⟩, joinPair_of hc]
    rfl

/-- **Strings**: without an adjacent pair a string comes back. -/
theorem rejoin_of_noPairs (s : PyStr) (h : noPairs s = true) : rejoin s = s := by
  induction s with
  | nil => rfl
  | cons c s ih =>
    have hs : noPairs s = true := by
      cases s with
      | nil => rfl
      | cons d s => exact (Bool.and_eq_true_iff.mp h).2
    rw [rejoin_cons, ih hs]
    rintro d rest rfl hhigh
    have hpair := (Bool.and_eq_true_iff.mp h).1
    rw [hhigh] at hpair
    simpa using hpair

theorem scanString_dumpsStr (s rest : PyStr) :
    scanString (s.flatMap escapeChar ++ quote :: rest) = some (rejoin s, rest) := by
  rw [scanString, scanUnits_dumpsStr, Option.map_some]
  rfl

/-! ## Numbers -/

/-- What the writer puts behind a value, or the end of the text. -/
def Stops : PyStr → Prop
  | [] => True
  | c :: _ => c = comma ∨ c = closeBracket ∨ c = closeBrace ∨ c = 0x0A

/-- None of it continues a number. -/
theorem Stops.head {c : CodePoint} {rest : PyStr} (h : Stops (c :: rest)) :
    isDigit c = false ∧ c ≠ point ∧ c ≠ 0x65 ∧ c ≠ 0x45 ∧ c ≠ plus ∧ c ≠ minus := by
  rcases h with rfl | rfl | rfl | rfl <;> decide

theorem takeWhile_append_stops (s : PyStr) {rest : PyStr} (h : Stops rest) :
    (s ++ rest).takeWhile isDigit = s.takeWhile isDigit ∧
      (s ++ rest).dropWhile isDigit = s.dropWhile isDigit ++ rest := by
  induction s with
  | nil =>
    cases rest with
    | nil => exact ⟨rfl, rfl⟩
    | cons c rest =>
      have hc := h.head.1
      exact ⟨List.takeWhile_cons_of_neg (by simp [hc]), List.dropWhile_cons_of_neg (by simp [hc])⟩
  | cons c s ih =>
    rw [List.cons_append]
    by_cases hc : isDigit c = true
    · rw [List.takeWhile_cons_of_pos hc, List.takeWhile_cons_of_pos hc,
        List.dropWhile_cons_of_pos hc, List.dropWhile_cons_of_pos hc, ih.1, ih.2]
      exact ⟨rfl, rfl⟩
    · rw [List.takeWhile_cons_of_neg hc, List.takeWhile_cons_of_neg hc,
        List.dropWhile_cons_of_neg hc, List.dropWhile_cons_of_neg hc]
      exact ⟨rfl, rfl⟩

theorem matchFraction_append (s : PyStr) {rest : PyStr} (h : Stops rest) :
    matchFraction (s ++ rest) = ((matchFraction s).1, (matchFraction s).2 ++ rest) := by
  cases s with
  | nil =>
    cases rest with
    | nil => rfl
    | cons c rest =>
      show matchFraction (c :: rest) = ([], c :: rest)
      rw [matchFraction, if_neg fun hc => h.head.2.1 hc.1]
  | cons c s =>
    rw [List.cons_append, matchFraction, matchFraction, (takeWhile_append_stops s h).1,
      (takeWhile_append_stops s h).2]
    split <;> rfl

theorem matchSign_append (s : PyStr) {rest : PyStr} (h : Stops rest) :
    matchSign (s ++ rest) = ((matchSign s).1, (matchSign s).2 ++ rest) := by
  cases s with
  | nil =>
    cases rest with
    | nil => rfl
    | cons c rest =>
      show matchSign (c :: rest) = ([], c :: rest)
      rw [matchSign, if_neg fun hc => hc.elim h.head.2.2.2.2.1 h.head.2.2.2.2.2]
  | cons c s =>
    rw [List.cons_append, matchSign, matchSign]
    split <;> rfl

theorem matchExponent_append (s : PyStr) {rest : PyStr} (h : Stops rest) :
    matchExponent (s ++ rest) = ((matchExponent s).1, (matchExponent s).2 ++ rest) := by
  cases s with
  | nil =>
    cases rest with
    | nil => rfl
    | cons c rest =>
      show matchExponent (c :: rest) = ([], c :: rest)
      exact if_neg fun hc => hc.1.elim h.head.2.2.1 h.head.2.2.2.1
  | cons c s =>
    rw [List.cons_append, matchExponent, matchExponent, matchSign_append s h]
    simp only [(takeWhile_append_stops _ h).1, (takeWhile_append_stops _ h).2]
    split <;> rfl

theorem matchInteger_append {s a b rest : PyStr} (hs : matchInteger s = some (a, b))
    (h : Stops rest) : matchInteger (s ++ rest) = some (a, b ++ rest) := by
  cases s with
  | nil => cases hs
  | cons c s =>
    rw [matchInteger] at hs
    rw [List.cons_append, matchInteger, (takeWhile_append_stops s h).1,
      (takeWhile_append_stops s h).2]
    split at hs
    · rw [if_pos ‹_›]
      cases hs
      rfl
    · rw [if_neg ‹_›]
      split at hs
      · rw [if_pos ‹_›]
        cases hs
        rfl
      · cases hs

/-- An integer part begins with a digit. -/
theorem matchInteger_head {s : PyStr} {r : PyStr × PyStr} (h : matchInteger s = some r) :
    ∃ d rest, s = d :: rest ∧ isDigit d = true := by
  cases s with
  | nil => cases h
  | cons d rest =>
    refine ⟨d, rest, rfl, ?_⟩
    rw [matchInteger] at h
    split at h
    · rename_i hd
      rw [hd]
      decide
    · split at h
      · assumption
      · cases h

/-- **The parts of a number**: the sign, the integer part, the fraction and the exponent. -/
theorem matchNumber_iff {s integer fraction rest : PyStr} :
    matchNumber s = some (integer, fraction, rest) ↔
      ∃ sign tail digits behind, s = sign ++ tail ∧ (sign = [] ∨ sign = [minus]) ∧
        matchInteger tail = some (digits, behind) ∧ integer = sign ++ digits ∧
        fraction = (matchFraction behind).1 ++ (matchExponent (matchFraction behind).2).1 ∧
        rest = (matchExponent (matchFraction behind).2).2 := by
  constructor
  · intro h
    unfold matchNumber at h
    cases s with
    | nil => cases h
    | cons c s =>
      by_cases hc : c = minus
      · simp only [if_pos hc] at h
        obtain ⟨⟨digits, behind⟩, hdigits, h⟩ := Option.bind_eq_some_iff.mp h
        cases h
        exact ⟨[c], s, digits, behind, rfl, .inr (hc ▸ rfl), hdigits, rfl, rfl, rfl⟩
      · simp only [if_neg hc] at h
        obtain ⟨⟨digits, behind⟩, hdigits, h⟩ := Option.bind_eq_some_iff.mp h
        cases h
        exact ⟨[], c :: s, digits, behind, rfl, .inl rfl, hdigits, rfl, rfl, rfl⟩
  · rintro ⟨sign, tail, digits, behind, rfl, hsign, hdigits, rfl, rfl, rfl⟩
    obtain rfl | rfl := hsign
    · obtain ⟨d, tail, rfl, hd⟩ := matchInteger_head hdigits
      have hne : d ≠ minus := by
        rintro rfl
        exact absurd hd (by decide)
      simp only [List.nil_append, matchNumber, if_neg hne, hdigits]
      rfl
    · simp only [List.singleton_append, matchNumber, if_pos, hdigits]
      rfl

/-- A number is matched no further than a stop. -/
theorem matchNumber_append {s integer fraction b rest : PyStr}
    (hs : matchNumber s = some (integer, fraction, b)) (h : Stops rest) :
    matchNumber (s ++ rest) = some (integer, fraction, b ++ rest) := by
  obtain ⟨sign, tail, digits, behind, rfl, hsign, hdigits, rfl, rfl, rfl⟩ := matchNumber_iff.mp hs
  refine matchNumber_iff.mpr ⟨sign, tail ++ rest, digits, behind ++ rest, List.append_assoc .., hsign,
    matchInteger_append hdigits h, rfl, ?_, ?_⟩
  · rw [matchFraction_append _ h, matchExponent_append _ h]
  · rw [matchFraction_append _ h, matchExponent_append _ h]

theorem decimalDigit_val (d : Nat) : (decimalDigit d).val = 0x30 + d % 10 :=
  Nat.mod_eq_of_lt (by omega)

/-- A number above zero is written without a leading zero. -/
theorem decimal_head {n : Nat} (hn : n ≠ 0) : ∃ c rest, decimal n = c :: rest ∧ c ≠ 0x30 := by
  have hne : Nat.digits 10 n ≠ [] := Nat.digits_ne_nil_iff_ne_zero.mpr hn
  have hmap : ((Nat.digits 10 n).map decimalDigit).reverse ≠ [] := by simpa using hne
  refine ⟨_, _, (by rw [decimal, if_neg hn, List.cons_head_tail hmap]), ?_⟩
  rw [List.head_reverse, List.getLast_map]
  intro hzero
  have hlast := Nat.getLast_digit_ne_zero 10 hn
  have hlt := Nat.digits_lt_base (by decide : 1 < 10) (List.getLast_mem hne)
  have hval := decimalDigit_val ((Nat.digits 10 n).getLast hne)
  rw [hzero] at hval
  have hval : 0x30 = 0x30 + (Nat.digits 10 n).getLast hne % 10 := hval
  omega

theorem matchInteger_decimal (n : Nat) : matchInteger (decimal n) = some (decimal n, []) := by
  by_cases hn : n = 0
  · subst hn
    decide
  · obtain ⟨c, rest, htext, hc⟩ := decimal_head hn
    have hdigits := decimal_digits n
    rw [htext] at hdigits ⊢
    have hrest : ∀ d ∈ rest, isDigit d = true := fun d hd => hdigits d (List.mem_cons_of_mem c hd)
    rw [matchInteger, if_neg hc, if_pos (hdigits c List.mem_cons_self),
      List.takeWhile_eq_self_iff.mpr hrest, List.dropWhile_eq_nil_iff.mpr hrest]

theorem readNat_decimal (n : Nat) : readNat (decimal n) = n := by
  unfold decimal
  split
  · rename_i hn
    subst hn
    decide
  · have hback : (Nat.digits 10 n).map (fun d => (decimalDigit d).val - 0x30) = Nat.digits 10 n := by
      conv => rhs; rw [← List.map_id (Nat.digits 10 n)]
      refine List.map_congr_left fun d hd => ?_
      have hlt := Nat.digits_lt_base (by decide : 1 < 10) hd
      rw [decimalDigit_val, id]
      omega
    rw [readNat, List.reverse_reverse, List.map_map]
    show Nat.ofDigits 10 ((Nat.digits 10 n).map fun d => (decimalDigit d).val - 0x30) = n
    rw [hback, Nat.ofDigits_digits]

theorem decimal_ne_minus (n : Nat) : ∀ c ∈ decimal n, c ≠ minus := by
  intro c hc hminus
  have hdigit := decimal_digits n c hc
  rw [hminus] at hdigit
  exact absurd hdigit (by decide)

/-- **Integers**: the text of an integer is one number, and `int()` of it is the integer. -/
theorem matchNumber_dumpsInt {i : Int} {t : PyStr} (h : dumpsInt i = some t) :
    matchNumber t = some (t, [], []) ∧ readInt t = some i := by
  obtain ⟨c, rest, htext⟩ : ∃ c rest, decimal i.natAbs = c :: rest := by
    by_cases hn : i.natAbs = 0
    · rw [hn]; exact ⟨_, _, rfl⟩
    · obtain ⟨c, rest, htext, -⟩ := decimal_head hn
      exact ⟨c, rest, htext⟩
  have hminus : c ≠ minus := decimal_ne_minus i.natAbs c (htext ▸ List.mem_cons_self)
  have hmatch := matchInteger_decimal i.natAbs
  have hread := readNat_decimal i.natAbs
  simp only [dumpsInt] at h
  split at h
  · cases h
  · rename_i hlimit
    rw [htext] at h hmatch hread hlimit
    split at h <;> cases h
    · rename_i hneg
      constructor
      · simp only [matchNumber, if_pos, hmatch]
        rfl
      · simp only [readInt, if_pos, if_neg hlimit, hread]
        congr 1
        omega
    · rename_i hneg
      constructor
      · simp only [matchNumber, if_neg hminus, hmatch]
        rfl
      · simp only [readInt, if_neg hminus, if_neg hlimit, hread]
        show some (i.natAbs : Int) = _
        congr 1
        omega

/-- A number begins with a digit, behind a minus or not. -/
theorem matchNumber_head {s : PyStr} {r : PyStr × PyStr × PyStr} (h : matchNumber s = some r) :
    ∃ c rest, s = c :: rest ∧
      (isDigit c = true ∨ c = minus ∧ ∃ d tail, rest = d :: tail ∧ isDigit d = true) := by
  obtain ⟨sign, tail, digits, behind, rfl, hsign, hdigits, -⟩ := matchNumber_iff.mp h
  obtain ⟨d, tail, rfl, hd⟩ := matchInteger_head hdigits
  obtain rfl | rfl := hsign
  · exact ⟨d, tail, rfl, .inl hd⟩
  · exact ⟨minus, d :: tail, rfl, .inr ⟨rfl, d, tail, rfl, hd⟩⟩

section Atoms

variable {φ : Type} [JsonFloat φ]

theorem scanAtom_constant {text : PyStr} {v : Value φ} (h : (text, v) ∈ constants) (rest : PyStr) :
    scanAtom (text ++ rest) = some (v, rest) := by
  simp only [constants, floatConstants, List.map_cons, List.map_nil, List.cons_append,
    List.nil_append, List.mem_cons, Prod.mk.injEq, List.not_mem_nil, or_false] at h
  rcases h with ⟨rfl, rfl⟩ | ⟨rfl, rfl⟩ | ⟨rfl, rfl⟩ | ⟨rfl, rfl⟩ | ⟨rfl, rfl⟩ | ⟨rfl, rfl⟩ <;> rfl

/-- No constant begins like a number. -/
theorem find?_constants_number {s : PyStr} {r : PyStr × PyStr × PyStr} (h : matchNumber s = some r) :
    (constants (φ := φ)).find? (fun e => e.1.isPrefixOf s) = none := by
  obtain ⟨c, rest, rfl, hc⟩ := matchNumber_head h
  have hfirst : ∀ d text, isDigit d = false → d ≠ minus →
      ¬ List.isPrefixOf (d :: text) (c :: rest) = true := by
    intro d text hd hminus hprefix
    have hdc : d = c := by simpa using (Bool.and_eq_true_iff.mp hprefix).1
    rcases hc with hc | ⟨hc, -⟩
    · rw [hdc, hc] at hd; exact nomatch hd
    · exact hminus (hdc.trans hc)
  -- `-Infinity` is told from a negative number by its second character
  have hinfinity : ¬ (py "-Infinity").isPrefixOf (c :: rest) = true := by
    intro hprefix
    rw [show py "-Infinity" = minus :: codePoint 'I' :: py "nfinity" from rfl] at hprefix
    have htail := (Bool.and_eq_true_iff.mp hprefix).2
    rcases hc with hc | ⟨-, d, tail, rfl, hd⟩
    · have hcm : minus = c := by simpa using (Bool.and_eq_true_iff.mp hprefix).1
      rw [← hcm] at hc
      exact absurd hc (by decide)
    · have hdI : codePoint 'I' = d := by simpa using (Bool.and_eq_true_iff.mp htail).1
      rw [← hdI] at hd
      exact absurd hd (by decide)
  rw [List.find?_eq_none]
  intro e he
  simp only [constants, floatConstants, List.map_cons, List.map_nil, List.cons_append,
    List.nil_append, List.mem_cons, List.not_mem_nil, or_false] at he
  rcases he with rfl | rfl | rfl | rfl | rfl | rfl
  · exact hfirst (codePoint 'n') _ (by decide) (by decide)
  · exact hfirst (codePoint 't') _ (by decide) (by decide)
  · exact hfirst (codePoint 'f') _ (by decide) (by decide)
  · exact hfirst (codePoint 'N') _ (by decide) (by decide)
  · exact hfirst (codePoint 'I') _ (by decide) (by decide)
  · exact hinfinity

theorem scanAtom_number {s : PyStr} {r : PyStr × PyStr × PyStr} (h : matchNumber s = some r) :
    scanAtom (φ := φ) s = scanNumber s := by
  rw [scanAtom, find?_constants_number h]

theorem scanAtom_float (x : φ) {rest : PyStr} (h : Stops rest) :
    scanAtom (JsonFloat.floatstr x ++ rest) = some (.float x, rest) := by
  rcases JsonFloat.floatstr_shape x with hconstant | ⟨integer, fraction, htext, hne, hmatch⟩
  · have hmem : (JsonFloat.floatstr x, Value.float x) ∈ constants := by
      refine List.mem_append_right _ (List.mem_map.mpr ⟨_, hconstant, ?_⟩)
      rw [JsonFloat.parse_floatstr]
    exact scanAtom_constant hmem rest
  · have hmatch' := matchNumber_append hmatch h
    rw [scanAtom_number hmatch', scanNumber, hmatch']
    show (if fraction = [] then _ else _) = _
    rw [if_neg hne, ← htext, JsonFloat.parse_floatstr]
    rfl

theorem scanAtom_int {i : Int} {t rest : PyStr} (ht : dumpsInt i = some t) (h : Stops rest) :
    scanAtom (φ := φ) (t ++ rest) = some (.int i, rest) := by
  obtain ⟨hmatch, hread⟩ := matchNumber_dumpsInt ht
  have hmatch' := matchNumber_append hmatch h
  rw [scanAtom_number hmatch', scanNumber, hmatch']
  show ((readInt t).bind fun i => some (Value.int i, rest)) = _
  rw [hread]
  rfl

end Atoms

/-! ## ASCII text -/

def Ascii (s : PyStr) : Prop := ∀ c ∈ s, c.val < 0x80

instance (s : PyStr) : Decidable (Ascii s) :=
  decidable_of_iff (s.all fun c => c.val < 0x80) (by simp [Ascii])

/-- A text without surrogates. -/
def Whole (s : PyStr) : Prop := ∀ c ∈ s, isHighSurrogate c = false ∧ isLowSurrogate c = false

theorem Ascii.whole {s : PyStr} (h : Ascii s) : Whole s := by
  intro c hc
  have hlt := h c hc
  refine ⟨decide_eq_false ?_, decide_eq_false ?_⟩
  · omega
  · omega

theorem Whole.tail {c : CodePoint} {s : PyStr} (h : Whole (c :: s)) : Whole s :=
  fun d hd => h d (List.mem_cons_of_mem c hd)

theorem Whole.dropWhile {s : PyStr} (h : Whole s) (p : CodePoint → Bool) : Whole (s.dropWhile p) :=
  fun d hd => h d ((List.dropWhile_sublist p).mem hd)

theorem Whole.drop {s : PyStr} (h : Whole s) (n : Nat) : Whole (s.drop n) :=
  fun d hd => h d (List.mem_of_mem_drop hd)

theorem Whole.expect {c : CodePoint} {s rest : PyStr} (h : Whole s)
    (hrest : expect c s = some rest) : Whole rest := by
  cases s with
  | nil => cases hrest
  | cons d s =>
    by_cases hd : d = c
    · obtain rfl : s = rest := Option.some.inj ((if_pos hd).symm.trans hrest)
      exact h.tail
    · cases (expect_cons_ne hd).symm.trans hrest

theorem Whole.noPairs {s : PyStr} (h : Whole s) : noPairs s = true :=
  noPairs_of_no_high fun c hc => (h c hc).1

theorem Ascii.noPairs {s : PyStr} (h : Ascii s) : noPairs s = true := h.whole.noPairs

/-- An unmarked unit is no surrogate. -/
def Unpaired (us : List (CodePoint × Bool)) : Prop :=
  ∀ u, (u, false) ∈ us → isHighSurrogate u = false ∧ isLowSurrogate u = false

theorem Unpaired.tail {unit : CodePoint × Bool} {us : List (CodePoint × Bool)}
    (h : Unpaired (unit :: us)) : Unpaired us :=
  fun u hu => h u (List.mem_cons_of_mem unit hu)

theorem joinPair_plain {u v : CodePoint} (hu : isHighSurrogate u = true)
    (hv : isLowSurrogate v = true) :
    isHighSurrogate (joinPair u v) = false ∧ isLowSurrogate (joinPair u v) = false := by
  have hhigh := isHighSurrogate_iff.mp hu
  have hlow := isLowSurrogate_iff.mp hv
  have hval : (joinPair u v).val = 0x10000 + (u.val - 0xD800) * 0x400 + (v.val - 0xDC00) :=
    Nat.mod_eq_of_lt (by omega)
  constructor
  · refine decide_eq_false fun h => ?_
    omega
  · refine decide_eq_false fun h => ?_
    omega

/-- A low surrogate at the front of a joined string was marked, and was not joined. -/
theorem noPairs_joinSurrogates (us : List (CodePoint × Bool)) (h : Unpaired us) :
    noPairs (joinSurrogates us) = true ∧
      ∀ c rest, joinSurrogates us = c :: rest → isLowSurrogate c = true →
        ∃ tail, us = (c, true) :: tail := by
  have hlast : ∀ {u : CodePoint} {m : Bool} {us : List (CodePoint × Bool)},
      Unpaired ((u, m) :: us) → isHighSurrogate u = true ∨ isLowSurrogate u = true → m = true := by
    intro u m us h hu
    cases m with
    | true => rfl
    | false =>
      obtain ⟨hhigh, hlow⟩ := h u List.mem_cons_self
      rcases hu with hu | hu
      · rw [hhigh] at hu; exact nomatch hu
      · rw [hlow] at hu; exact nomatch hu
  induction us using joinSurrogates.induct with
  | case1 => exact ⟨rfl, fun _ _ h => nomatch h⟩
  | case2 u m =>
    refine ⟨rfl, fun c rest hcons hc => ?_⟩
    injection hcons with hu
    subst hu
    exact ⟨[], by rw [hlast h (.inr hc)]⟩
  | case3 u m v n rest hjoin ih =>
    rw [joinSurrogates, if_pos hjoin]
    obtain ⟨hhigh, hlow⟩ := joinPair_plain hjoin.2.2.1 hjoin.2.2.2
    refine ⟨?_, fun c rest' hcons hc => ?_⟩
    · have hrest := (ih h.tail.tail).1
      cases hj : joinSurrogates rest with
      | nil => rfl
      | cons d ds =>
        rw [hj] at hrest
        rw [noPairs, hhigh, hrest]
        rfl
    · injection hcons with hu
      rw [← hu, hlow] at hc
      exact nomatch hc
  | case4 u m v n rest hjoin ih =>
    rw [joinSurrogates, if_neg hjoin]
    obtain ⟨hrest, hhead⟩ := ih h.tail
    refine ⟨?_, fun c rest' hcons hc => ?_⟩
    · cases hj : joinSurrogates ((v, n) :: rest) with
      | nil => rfl
      | cons d ds =>
        rw [hj] at hrest
        have hnot : (isHighSurrogate u && isLowSurrogate d) = false := by
          by_contra hpair
          obtain ⟨hu, hd⟩ := Bool.and_eq_true_iff.mp (by simpa using hpair)
          obtain ⟨tail, htail⟩ := hhead d ds hj hd
          injection htail with hvd
          injection hvd with hvd hn
          exact hjoin ⟨hlast h (.inl hu), hn, hu, hvd ▸ hd⟩
        rw [noPairs, hnot, hrest]
        rfl
    · injection hcons with hu
      subst hu
      exact ⟨_, by rw [hlast h (.inr hc)]⟩

theorem shortEscape_plain {e c : CodePoint} (h : shortEscape e = some c) :
    isHighSurrogate c = false ∧ isLowSurrogate c = false := by
  have hmem : c ∈ [quote, backslash, 0x2F, 0x08, 0x0C, 0x0A, 0x0D, 0x09] := by
    unfold shortEscape at h
    repeat (split at h; · cases h; decide)
    exact nomatch h
  simp only [List.mem_cons, List.not_mem_nil, or_false] at hmem
  rcases hmem with rfl | rfl | rfl | rfl | rfl | rfl | rfl | rfl <;> decide

theorem Unpaired.cons_marked {u : CodePoint} {us : List (CodePoint × Bool)} (h : Unpaired us) :
    Unpaired ((u, true) :: us) := by
  intro v hv
  rcases List.mem_cons.mp hv with hv | hv
  · exact nomatch (Prod.mk.inj hv).2
  · exact h v hv

theorem Unpaired.cons_plain {u : CodePoint} {us : List (CodePoint × Bool)}
    (hu : isHighSurrogate u = false ∧ isLowSurrogate u = false) (h : Unpaired us) :
    Unpaired ((u, false) :: us) := by
  intro v hv
  rcases List.mem_cons.mp hv with hv | hv
  · exact (Prod.mk.inj hv).1 ▸ hu
  · exact h v hv

/-- Such a text has surrogates only as marked escapes. -/
theorem scanUnits_whole (s : PyStr) : ∀ us rest, scanUnits s = some (us, rest) → Whole s →
    Unpaired us ∧ Whole rest := by
  induction s using scanUnits.induct with
  | case1 => exact fun _ _ h => by cases h
  | case2 s =>
    intro us rest h hs
    rw [scanUnits.eq_def] at h
    cases h
    exact ⟨fun _ hu => absurd hu List.not_mem_nil, hs.tail⟩
  | case3 =>
    intro us rest h
    rw [scanUnits.eq_def] at h
    cases h
  | case4 d3 d2 d1 d0 s _ ih =>
    intro us rest h hs
    rw [scanUnits_hex] at h
    obtain ⟨c, -, h⟩ := Option.bind_eq_some_iff.mp h
    obtain ⟨⟨us', rest'⟩, hscan, h⟩ := Option.map_eq_some_iff.mp h
    cases h
    obtain ⟨hus, hrest⟩ := ih us' _ hscan hs.tail.tail.tail.tail.tail.tail
    exact ⟨hus.cons_marked, hrest⟩
  | case5 s hshort =>
    intro us rest h
    rw [scanUnits.eq_def] at h
    simp only [if_neg (show backslash ≠ quote by decide), if_pos] at h
    cases h
  | case6 e s he _ ih =>
    intro us rest h hs
    rw [scanUnits_short he] at h
    obtain ⟨c, hc, h⟩ := Option.bind_eq_some_iff.mp h
    obtain ⟨⟨us', rest'⟩, hscan, h⟩ := Option.map_eq_some_iff.mp h
    cases h
    obtain ⟨hus, hrest⟩ := ih us' _ hscan hs.tail.tail
    exact ⟨hus.cons_plain (shortEscape_plain hc), hrest⟩
  | case7 c s hquote hbackslash hc =>
    intro us rest h
    rw [scanUnits.eq_def] at h
    simp only [if_neg hquote, if_neg hbackslash, if_pos hc] at h
    cases h
  | case8 c s hquote hbackslash hc ih =>
    intro us rest h hs
    rw [scanUnits_plain hquote hbackslash hc] at h
    obtain ⟨⟨us', rest'⟩, hscan, h⟩ := Option.map_eq_some_iff.mp h
    cases h
    obtain ⟨hus, hrest⟩ := ih us' _ hscan hs.tail
    exact ⟨hus.cons_plain (hs c List.mem_cons_self), hrest⟩

theorem scanString_whole {s t rest : PyStr} (h : scanString s = some (t, rest)) (hs : Whole s) :
    noPairs t = true ∧ Whole rest := by
  obtain ⟨⟨us, rest'⟩, hscan, h⟩ := Option.map_eq_some_iff.mp h
  cases h
  obtain ⟨hus, hrest⟩ := scanUnits_whole s us rest hscan hs
  exact ⟨(noPairs_joinSurrogates us hus).1, hrest⟩

theorem matchFraction_whole {s : PyStr} (hs : Whole s) : Whole (matchFraction s).2 := by
  cases s with
  | nil => exact hs
  | cons c s =>
    rw [matchFraction]
    split
    · exact hs.tail.dropWhile isDigit
    · exact hs

theorem matchExponent_whole {s : PyStr} (hs : Whole s) : Whole (matchExponent s).2 := by
  cases s with
  | nil => exact hs
  | cons c s =>
    have hsign : Whole (matchSign s).2 := by
      cases s with
      | nil => exact hs.tail
      | cons d s =>
        rw [matchSign]
        split
        · exact hs.tail.tail
        · exact hs.tail
    simp only [matchExponent]
    split
    · exact hsign.dropWhile isDigit
    · exact hs

theorem matchInteger_whole {s a rest : PyStr} (h : matchInteger s = some (a, rest))
    (hs : Whole s) : Whole rest := by
  cases s with
  | nil => cases h
  | cons c s =>
    rw [matchInteger] at h
    split at h
    · cases h
      exact hs.tail
    · split at h
      · cases h
        exact hs.tail.dropWhile isDigit
      · cases h

theorem matchNumber_whole {s integer fraction rest : PyStr}
    (h : matchNumber s = some (integer, fraction, rest)) (hs : Whole s) : Whole rest := by
  obtain ⟨sign, tail, digits, behind, rfl, hsign, hdigits, rfl, rfl, rfl⟩ := matchNumber_iff.mp h
  have htail : Whole tail := by
    obtain rfl | rfl := hsign
    · exact hs
    · exact hs.tail
  exact matchExponent_whole (matchFraction_whole (matchInteger_whole hdigits htail))

end T2TouchId.Python.Json
