/-
  A text that is cut off.

  Problem: a reader may look at a file while a line is being written to it.  What it sees of the line is
  a beginning of it, and it should not take the beginning for a value.

  1. **Data** — `Ends`: the characters that end a value inside an array or an object.
  2. **The crux** — what the scanner has read of a text it reads in the same way with more text behind
     it (`scan_append`); only a number needs that the text goes on with a character that ends it.
  3. **Result** — `loadsText_cut`: the text of an object without its last characters has no value.
-/
import T2TouchId.Python.Json.RoundTrip

namespace T2TouchId.Python.Json

/-! ## What ends a value -/

/-- The text goes on with white space, a comma, or a closing bracket. -/
def Ends : PyStr → Prop
  | [] => False
  | c :: _ => isSpace c = true ∨ c = comma ∨ c = closeBracket ∨ c = closeBrace

/-- None of these continues a number. -/
theorem Ends.head {c : CodePoint} {rest : PyStr} (h : Ends (c :: rest)) :
    isDigit c = false ∧ c ≠ point ∧ c ≠ 0x65 ∧ c ≠ 0x45 := by
  have hspace : isSpace c = true → c = 0x20 ∨ c = 0x09 ∨ c = 0x0A ∨ c = 0x0D := by
    simp [isSpace]
  rcases h with h | rfl | rfl | rfl
  · rcases hspace h with rfl | rfl | rfl | rfl <;> decide
  all_goals decide

theorem Ends.ne_nil {rest : PyStr} (h : Ends rest) : rest ≠ [] := by
  rintro rfl
  exact h

/-- A character that is expected behind white space ends what stands before. -/
theorem ends_of_expect {c : CodePoint} {s rest : PyStr}
    (hc : c = comma ∨ c = closeBracket ∨ c = closeBrace) (h : expect c (skipSpace s) = some rest) :
    Ends s := by
  cases s with
  | nil => cases h
  | cons d s =>
    by_cases hd : isSpace d = true
    · exact .inl hd
    · rw [skipSpace_cons (by simpa using hd), expect] at h
      split at h
      · rename_i hdc
        subst hdc
        exact .inr hc
      · cases h

/-! ## More text behind -/

theorem expect_append {c : CodePoint} {s : PyStr} (hs : s ≠ []) (more : PyStr) :
    expect c (s ++ more) = (expect c s).map (· ++ more) := by
  cases s with
  | nil => exact absurd rfl hs
  | cons d s =>
    rw [List.cons_append, expect, expect]
    split <;> rfl

theorem ne_nil_of_expect {c : CodePoint} {s rest : PyStr} (h : expect c s = some rest) : s ≠ [] := by
  rintro rfl
  exact nomatch h

theorem skipSpace_append {s : PyStr} (hs : skipSpace s ≠ []) (more : PyStr) :
    skipSpace (s ++ more) = skipSpace s ++ more := by
  rw [skipSpace, List.dropWhile_append, if_neg (by simpa [skipSpace] using hs)]
  rfl

/-- A character that is found behind white space is found there. -/
theorem expect_skipSpace_append {c : CodePoint} {s rest : PyStr}
    (h : expect c (skipSpace s) = some rest) (more : PyStr) :
    expect c (skipSpace (s ++ more)) = some (rest ++ more) := by
  have hne := ne_nil_of_expect h
  rw [skipSpace_append hne, expect_append hne, h]
  rfl

theorem takeWhile_append_of_dropWhile {s : PyStr} (hs : s.dropWhile isDigit ≠ []) (more : PyStr) :
    (s ++ more).takeWhile isDigit = s.takeWhile isDigit ∧
      (s ++ more).dropWhile isDigit = s.dropWhile isDigit ++ more := by
  have hlength : ¬ (s.takeWhile isDigit).length = s.length := by
    intro h
    have hsplit := congrArg List.length (List.takeWhile_append_dropWhile (p := isDigit) (l := s))
    rw [List.length_append, h] at hsplit
    exact hs (List.eq_nil_of_length_eq_zero (by omega))
  rw [List.takeWhile_append, List.dropWhile_append, if_neg hlength, if_neg (by simpa using hs)]
  exact ⟨rfl, rfl⟩

/-! ### Numbers -/

theorem matchInteger_more {s digits rest : PyStr} (h : matchInteger s = some (digits, rest))
    (hrest : rest ≠ []) (more : PyStr) : matchInteger (s ++ more) = some (digits, rest ++ more) := by
  cases s with
  | nil => cases h
  | cons c s =>
    rw [matchInteger] at h
    rw [List.cons_append, matchInteger]
    split at h
    · rw [if_pos ‹_›]
      cases h
      rfl
    · rw [if_neg ‹_›]
      split at h
      · rw [if_pos ‹_›]
        cases h
        rw [(takeWhile_append_of_dropWhile hrest more).1, (takeWhile_append_of_dropWhile hrest more).2]
      · cases h

theorem matchSign_more {s : PyStr} (hs : s ≠ []) (more : PyStr) :
    matchSign (s ++ more) = ((matchSign s).1, (matchSign s).2 ++ more) := by
  cases s with
  | nil => exact absurd rfl hs
  | cons c s =>
    rw [List.cons_append, matchSign, matchSign]
    split <;> rfl

theorem matchExponent_cons (c : CodePoint) (s : PyStr) : matchExponent (c :: s) =
    if (c = 0x65 ∨ c = 0x45) ∧ (matchSign s).2.takeWhile isDigit ≠ [] then
      (c :: (matchSign s).1 ++ (matchSign s).2.takeWhile isDigit, (matchSign s).2.dropWhile isDigit)
    else ([], c :: s) :=
  rfl

/-- An exponent that something ends, or none. -/
theorem matchExponent_more {s : PyStr} (h : Ends (matchExponent s).2) (more : PyStr) :
    matchExponent (s ++ more) = ((matchExponent s).1, (matchExponent s).2 ++ more) := by
  cases s with
  | nil => exact absurd rfl h.ne_nil
  | cons c s =>
    rw [matchExponent_cons] at h
    rw [List.cons_append, matchExponent_cons, matchExponent_cons]
    by_cases hc : c = 0x65 ∨ c = 0x45
    · by_cases hdigits : (matchSign s).2.takeWhile isDigit ≠ []
      · -- there are digits, so `s` goes on and what follows them is not empty
        rw [if_pos ⟨hc, hdigits⟩] at h
        have hs : s ≠ [] := by
          rintro rfl
          exact hdigits rfl
        have hdrop := takeWhile_append_of_dropWhile h.ne_nil more
        simp only [matchSign_more hs, hdrop.1, hdrop.2, if_pos (And.intro hc hdigits)]
      · rw [if_neg fun hboth => hdigits hboth.2] at h
        exact absurd hc (not_or.mpr h.head.2.2)
    · rw [if_neg fun hboth => hc hboth.1, if_neg fun hboth => hc hboth.1]
      rfl

theorem matchFraction_more {s : PyStr} (hne : (matchFraction s).2 ≠ [])
    (hpoint : ∀ rest, (matchFraction s).2 ≠ point :: rest) (more : PyStr) :
    matchFraction (s ++ more) = ((matchFraction s).1, (matchFraction s).2 ++ more) := by
  cases s with
  | nil => exact absurd rfl hne
  | cons c s =>
    rw [matchFraction] at hne hpoint
    rw [List.cons_append, matchFraction, matchFraction]
    by_cases hc : c = point ∧ s.takeWhile isDigit ≠ []
    · rw [if_pos hc] at hne
      have hdrop := takeWhile_append_of_dropWhile hne more
      rw [hdrop.1, hdrop.2, if_pos hc, if_pos hc]
    · rw [if_neg hc] at hpoint
      have hcpoint : c ≠ point := by
        rintro rfl
        exact hpoint s rfl
      rw [if_neg fun hboth => hcpoint hboth.1, if_neg hc]
      rfl

/-- A text without an exponent at its begin stays as it is. -/
theorem matchExponent_snd {s : PyStr} (h : Ends (matchExponent s).2) :
    s ≠ [] ∧ ∀ rest, s ≠ point :: rest := by
  refine ⟨?_, ?_⟩
  · rintro rfl
    exact h
  · rintro rest rfl
    rw [matchExponent_cons, if_neg fun hboth => absurd hboth.1 (by decide)] at h
    exact h.head.2.1 rfl

/-- **A number that something ends** is matched no further. -/
theorem matchNumber_more {s integer fraction rest : PyStr}
    (h : matchNumber s = some (integer, fraction, rest)) (hrest : Ends rest) (more : PyStr) :
    matchNumber (s ++ more) = some (integer, fraction, rest ++ more) := by
  obtain ⟨sign, tail, digits, behind, rfl, hsign, hdigits, rfl, rfl, rfl⟩ := matchNumber_iff.mp h
  obtain ⟨hne, hpoint⟩ := matchExponent_snd hrest
  have hbehind : behind ≠ [] := by
    rintro rfl
    exact hne rfl
  refine matchNumber_iff.mpr ⟨sign, tail ++ more, digits, behind ++ more, List.append_assoc .., hsign,
    matchInteger_more hdigits hbehind more, rfl, ?_, ?_⟩
  · rw [matchFraction_more hne hpoint, matchExponent_more hrest]
  · rw [matchFraction_more hne hpoint, matchExponent_more hrest]

/-! ### Strings -/

theorem scanUnits_append (more : PyStr) (s : PyStr) : ∀ units rest,
    scanUnits s = some (units, rest) → scanUnits (s ++ more) = some (units, rest ++ more) := by
  induction s using scanUnits.induct with
  | case1 => exact fun _ _ h => by cases h
  | case2 s =>
    intro units rest h
    rw [scanUnits.eq_def] at h
    cases h
    rw [List.cons_append, scanUnits.eq_def]
    exact if_pos rfl
  | case3 =>
    intro units rest h
    rw [scanUnits.eq_def] at h
    cases h
  | case4 d3 d2 d1 d0 s _ ih =>
    intro units rest h
    rw [scanUnits_hex] at h
    obtain ⟨c, hc, h⟩ := Option.bind_eq_some_iff.mp h
    obtain ⟨⟨units', rest'⟩, hscan, h⟩ := Option.map_eq_some_iff.mp h
    cases h
    show scanUnits (backslash :: 0x75 :: d3 :: d2 :: d1 :: d0 :: (s ++ more)) = _
    rw [scanUnits_hex, hc, ih units' _ hscan]
    rfl
  | case5 s hshort =>
    intro units rest h
    rw [scanUnits.eq_def] at h
    simp only [if_neg (show backslash ≠ quote by decide), if_pos] at h
    cases h
  | case6 e s he _ ih =>
    intro units rest h
    rw [scanUnits_short he] at h
    obtain ⟨c, hc, h⟩ := Option.bind_eq_some_iff.mp h
    obtain ⟨⟨units', rest'⟩, hscan, h⟩ := Option.map_eq_some_iff.mp h
    cases h
    show scanUnits (backslash :: e :: (s ++ more)) = _
    rw [scanUnits_short he, hc, ih units' _ hscan]
    rfl
  | case7 c s hquote hbackslash hc =>
    intro units rest h
    rw [scanUnits.eq_def] at h
    simp only [if_neg hquote, if_neg hbackslash, if_pos hc] at h
    cases h
  | case8 c s hquote hbackslash hc ih =>
    intro units rest h
    rw [scanUnits_plain hquote hbackslash hc] at h
    obtain ⟨⟨units', rest'⟩, hscan, h⟩ := Option.map_eq_some_iff.mp h
    cases h
    rw [List.cons_append, scanUnits_plain hquote hbackslash hc, ih units' _ hscan]
    rfl

theorem scanString_append {s t rest : PyStr} (h : scanString s = some (t, rest)) (more : PyStr) :
    scanString (s ++ more) = some (t, rest ++ more) := by
  obtain ⟨⟨units, rest'⟩, hscan, h⟩ := Option.map_eq_some_iff.mp h
  cases h
  rw [scanString, scanUnits_append more s units _ hscan]
  rfl

/-! ### Values -/

section Values

variable {φ : Type} [JsonFloat φ]

theorem scanAtom_append {s rest : PyStr} {v : Value φ} (h : scanAtom s = some (v, rest))
    (hrest : Ends rest) (more : PyStr) : scanAtom (s ++ more) = some (v, rest ++ more) := by
  rw [scanAtom] at h
  split at h
  · rename_i text w hfound
    obtain ⟨rfl, rfl⟩ := Prod.mk.inj (Option.some.inj h)
    have hfront : text.isPrefixOf s = true := by
      exact List.find?_some (p := fun e : PyStr × Value φ => e.1.isPrefixOf s) hfound
    obtain ⟨behind, rfl⟩ := List.isPrefixOf_iff_prefix.mp hfront
    rw [List.append_assoc, scanAtom_constant (List.mem_of_find?_eq_some hfound), List.drop_left]
  · obtain ⟨⟨integer, fraction, behind⟩, hmatch, hread⟩ := Option.bind_eq_some_iff.mp h
    dsimp only at hread
    by_cases hfraction : fraction = []
    · rw [if_pos hfraction] at hread
      obtain ⟨i, hi, hpair⟩ := Option.bind_eq_some_iff.mp hread
      obtain ⟨rfl, rfl⟩ := Prod.mk.inj (Option.some.inj hpair)
      have hmore := matchNumber_more hmatch hrest more
      rw [scanAtom_number hmore, scanNumber, hmore]
      show (if fraction = [] then _ else _) = _
      rw [if_pos hfraction, hi]
      rfl
    · rw [if_neg hfraction] at hread
      obtain ⟨rfl, rfl⟩ := Prod.mk.inj (Option.some.inj hread)
      have hmore := matchNumber_more hmatch hrest more
      rw [scanAtom_number hmore, scanNumber, hmore]
      show (if fraction = [] then _ else _) = _
      rw [if_neg hfraction]
      rfl

theorem scanOnce_nil (fuel : Nat) : scanOnce (φ := φ) fuel [] = none := by
  cases fuel <;> rw [scanOnce]

theorem scanElements_nil (fuel : Nat) : scanElements (φ := φ) fuel [] = none := by
  cases fuel with
  | zero => rw [scanElements]
  | succ fuel =>
    rw [scanElements, scanOnce_nil]
    rfl

theorem scanMembers_nil (fuel : Nat) (items : List (Key φ × Value φ)) :
    scanMembers fuel items [] = none := by
  cases fuel <;> rw [scanMembers]
  rfl

/-- **More text behind** changes nothing of what was read, but what is left. -/
theorem scan_append (more : PyStr) (fuel : Nat) :
    (∀ (s rest : PyStr) (v : Value φ) (fuel' : Nat), scanOnce fuel s = some (v, rest) →
      fuel ≤ fuel' → (Ends rest ∨ s.head? = some openBrace) →
      scanOnce fuel' (s ++ more) = some (v, rest ++ more)) ∧
    (∀ (s rest : PyStr) (vs : List (Value φ)) (fuel' : Nat), scanElements fuel s = some (vs, rest) →
      fuel ≤ fuel' → scanElements fuel' (s ++ more) = some (vs, rest ++ more)) ∧
    (∀ (items : List (Key φ × Value φ)) (s rest : PyStr) (v : Value φ) (fuel' : Nat),
      scanMembers fuel items s = some (v, rest) → fuel ≤ fuel' →
      scanMembers fuel' items (s ++ more) = some (v, rest ++ more)) := by
  induction fuel with
  | zero =>
    refine ⟨fun _ _ _ _ h => ?_, fun _ _ _ _ h => ?_, fun _ _ _ _ _ h => ?_⟩
    · rw [scanOnce] at h; cases h
    · rw [scanElements] at h; cases h
    · rw [scanMembers] at h; cases h
  | succ fuel ih =>
    obtain ⟨ihOnce, ihElements, ihMembers⟩ := ih
    refine ⟨fun s rest v fuel' h hfuel hends => ?_, fun s rest vs fuel' h hfuel => ?_,
      fun items s rest v fuel' h hfuel => ?_⟩ <;>
    obtain ⟨fuel', rfl⟩ : ∃ n, fuel' = n + 1 := ⟨fuel' - 1, by omega⟩
    · cases s with
      | nil => rw [scanOnce] at h; cases h
      | cons c s =>
        rw [scanOnce] at h
        rw [List.cons_append, scanOnce]
        split at h
        · rw [if_pos ‹_›]
          obtain ⟨⟨t, rest'⟩, hscan, h⟩ := Option.bind_eq_some_iff.mp h
          cases h
          rw [scanString_append hscan]
          rfl
        · rw [if_neg ‹_›]
          split at h
          · rw [if_pos ‹_›]
            split at h
            · rename_i hexpect
              cases h
              rw [expect_skipSpace_append hexpect]
            · rename_i hexpect
              have hne : skipSpace s ≠ [] := by
                intro hnil
                rw [hnil, scanMembers_nil] at h
                cases h
              rw [skipSpace_append hne, expect_append hne, hexpect]
              exact ihMembers [] _ rest v fuel' h (by omega)
          · rw [if_neg ‹_›]
            split at h
            · rw [if_pos ‹_›]
              split at h
              · rename_i hexpect
                cases h
                rw [expect_skipSpace_append hexpect]
              · rename_i hexpect
                obtain ⟨⟨vs, rest'⟩, hscan, h⟩ := Option.bind_eq_some_iff.mp h
                cases h
                have hne : skipSpace s ≠ [] := by
                  intro hnil
                  rw [hnil, scanElements_nil] at hscan
                  cases hscan
                rw [skipSpace_append hne, expect_append hne, hexpect]
                show (scanElements fuel' (skipSpace s ++ more)).bind _ = _
                rw [ihElements _ _ vs fuel' hscan (by omega)]
                rfl
            · rw [if_neg ‹_›]
              rename_i hbrace _
              rcases hends with hends | hopen
              · exact scanAtom_append h hends more
              · exact absurd (Option.some.inj hopen) hbrace
    · rw [scanElements] at h
      obtain ⟨⟨w, s1⟩, hscan, h⟩ := Option.bind_eq_some_iff.mp h
      simp only at h
      split at h
      · rename_i hexpect
        cases h
        have hends := ends_of_expect (.inr (.inl rfl)) hexpect
        exact scanElements_last (ihOnce s s1 w fuel' hscan (by omega) (.inl hends)) (expect_skipSpace_append hexpect more)
      · rename_i hexpect
        obtain ⟨s2, hcomma, h⟩ := Option.bind_eq_some_iff.mp h
        obtain ⟨⟨ws, s3⟩, hscans, h⟩ := Option.bind_eq_some_iff.mp h
        cases h
        have hends := ends_of_expect (.inl rfl) hcomma
        have hne := ne_nil_of_expect hcomma
        have hne2 : skipSpace s2 ≠ [] := by
          intro hnil
          rw [hnil, scanElements_nil] at hscans
          cases hscans
        refine scanElements_next (ihOnce s s1 w fuel' hscan (by omega) (.inl hends)) ?_
          (expect_skipSpace_append hcomma more) ?_
        · rw [skipSpace_append hne, expect_append hne, hexpect]
          rfl
        · rw [skipSpace_append hne2]
          exact ihElements _ _ ws fuel' hscans (by omega)
    · rw [scanMembers] at h
      obtain ⟨s1, hquote, h⟩ := Option.bind_eq_some_iff.mp h
      obtain ⟨⟨name, s2⟩, hname, h⟩ := Option.bind_eq_some_iff.mp h
      obtain ⟨s3, hcolon, h⟩ := Option.bind_eq_some_iff.mp h
      obtain ⟨⟨w, s4⟩, hscan, h⟩ := Option.bind_eq_some_iff.mp h
      have hne3 : skipSpace s3 ≠ [] := by
        intro hnil
        rw [hnil, scanOnce_nil] at hscan
        cases hscan
      have hquote' : expect quote (s ++ more) = some (s1 ++ more) := by
        rw [expect_append (ne_nil_of_expect hquote), hquote]
        rfl
      have hscan' : Ends s4 → scanOnce fuel' (skipSpace (s3 ++ more)) = some (w, s4 ++ more) := by
        intro hends
        rw [skipSpace_append hne3]
        exact ihOnce _ s4 w fuel' hscan (by omega) (.inl hends)
      simp only at h
      split at h
      · rename_i hexpect
        cases h
        have hends := ends_of_expect (.inr (.inr rfl)) hexpect
        exact scanMembers_last hquote' (scanString_append hname more) (expect_skipSpace_append hcolon more)
          (hscan' hends) (expect_skipSpace_append hexpect more)
      · rename_i hexpect
        obtain ⟨s5, hcomma, h⟩ := Option.bind_eq_some_iff.mp h
        have hends := ends_of_expect (.inl rfl) hcomma
        have hne := ne_nil_of_expect hcomma
        have hne5 : skipSpace s5 ≠ [] := by
          intro hnil
          rw [hnil, scanMembers_nil] at h
          cases h
        have hopen : expect closeBrace (skipSpace (s4 ++ more)) = none := by
          rw [skipSpace_append hne, expect_append hne, hexpect]
          rfl
        rw [scanMembers_next hquote' (scanString_append hname more) (expect_skipSpace_append hcolon more)
          (hscan' hends) hopen (expect_skipSpace_append hcomma more), skipSpace_append hne5]
        exact ihMembers _ _ rest v fuel' h (by omega)

/-- **The text of an object without its last characters** is no value. -/
theorem loadsText_cut {items : List (Key φ × Value φ)} {text part missing : PyStr}
    (htext : dumps (.dict items) = some text) (hcut : text = part ++ missing) (hmissing : missing ≠ []) :
    loadsText (φ := φ) part = none := by
  cases hpart : loadsText (φ := φ) part with
  | none => rfl
  | some v =>
    exfalso
    obtain ⟨⟨w, rest⟩, hscan, hrest⟩ := Option.bind_eq_some_iff.mp hpart
    obtain ⟨tail, rfl⟩ : ∃ tail, text = openBrace :: tail := by
      unfold dumps at htext
      split at htext
      · obtain ⟨t, -, ht⟩ := Option.bind_eq_some_iff.mp htext
        cases ht
        exact ⟨_, rfl⟩
      · cases htext
    -- the part begins with the same brace
    obtain ⟨part, rfl⟩ : ∃ rest, part = openBrace :: rest := by
      cases part with
      | nil =>
        rw [show skipSpace [] = [] from rfl, scanOnce_nil] at hscan
        cases hscan
      | cons c part => exact ⟨part, by rw [(List.cons.inj hcut).1]⟩
    rw [skipSpace_cons (by decide)] at hscan
    have hmore := (scan_append missing _).1 _ rest w (2 * (openBrace :: tail).length + 2) hscan
      (by rw [hcut, List.length_append]; omega) (.inr rfl)
    have hwhole := scanOnce_dumps (.dict items) _ htext (2 * (openBrace :: tail).length + 2) []
      (by omega) trivial
    rw [← hcut] at hmore
    rw [List.append_nil, hmore] at hwhole
    have hnil := (Prod.mk.inj (Option.some.inj hwhole)).2
    exact hmissing (List.append_eq_nil_iff.mp hnil).2

end Values

end T2TouchId.Python.Json
