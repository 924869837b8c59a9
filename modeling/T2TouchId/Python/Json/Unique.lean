/-
  What a text says about the value it was written from.

  Problem: hashes are taken of texts, so what a hash pins down is a text.  Two values can share one: a
  string with an adjacent surrogate pair is written like the one with the character.

  1. **Decoding** — a text can be cut off whatever follows it in only one way (`dumps_append_inj`,
     `dumpsStr_append_inj`): the scanner stops in one place.
  2. **Specification** — `SameItem`: two members of objects with the same key text and the same value
     text.
  3. **Results** — objects with the same text have the same members, one by one
     (`dumpsMembers_inj`), so they agree on what is found under an ASCII name (`find_sameItem`), and
     still have the same text when an item is set in both (`insertItem_sameItem`).

  Only objects with string keys are compared; `loads` gives no others (`loads_keys`).
-/
import T2TouchId.Python.Json.RoundTrip

namespace T2TouchId.Python.Json

/-! ## Strings -/

theorem dumpsStr_append_inj {s s' r r' : PyStr} (h : dumpsStr s ++ r = dumpsStr s' ++ r') :
    dumpsStr s = dumpsStr s' ∧ rejoin s = rejoin s' ∧ r = r' := by
  have hcut : ∀ s r : PyStr, dumpsStr s ++ r = quote :: (s.flatMap escapeChar ++ quote :: r) := by
    intro s r
    simp [dumpsStr]
  have hunits : s.flatMap escapeChar ++ quote :: r = s'.flatMap escapeChar ++ quote :: r' := by
    have hcons := (hcut s r).symm.trans (h.trans (hcut s' r'))
    exact (List.cons.inj hcons).2
  have hscan := scanString_dumpsStr s r
  rw [hunits, scanString_dumpsStr s' r'] at hscan
  obtain ⟨hstring, hrest⟩ := Prod.mk.inj (Option.some.inj hscan)
  subst hrest
  exact ⟨List.append_cancel_right h, hstring.symm, rfl⟩

/-- A character of ASCII is neither a surrogate nor above the basic plane. -/
theorem rejoin_ascii_lt (s : PyStr) : ∀ name : PyStr, Ascii name →
    ((name = s ↔ name = rejoin s) ∧ (name < s ↔ name < rejoin s)) := by
  intro name hname
  induction name generalizing s with
  | nil =>
    cases s with
    | nil => exact ⟨Iff.rfl, Iff.rfl⟩
    | cons c s =>
      have hne : rejoin (c :: s) ≠ [] := by
        intro hnil
        by_cases hpair : ∀ d rest, s = d :: rest → isHighSurrogate c = true →
            isLowSurrogate d = false
        · rw [rejoin_cons hpair] at hnil
          exact nomatch hnil
        · push Not at hpair
          obtain ⟨d, rest, rfl, hc, hd⟩ := hpair
          rw [rejoin_pair hc (by simpa using hd)] at hnil
          exact nomatch hnil
      obtain ⟨e, rest, hcons⟩ := List.exists_cons_of_ne_nil hne
      rw [hcons]
      exact ⟨⟨nofun, nofun⟩, ⟨fun _ => List.nil_lt_cons _ _, fun _ => List.nil_lt_cons _ _⟩⟩
  | cons a name ih =>
    have ha : a.val < 0x80 := hname a List.mem_cons_self
    have htail : Ascii name := fun d hd => hname d (List.mem_cons_of_mem a hd)
    cases s with
    | nil => exact ⟨Iff.rfl, Iff.rfl⟩
    | cons c s =>
      by_cases hpair : ∀ d rest, s = d :: rest → isHighSurrogate c = true →
          isLowSurrogate d = false
      · rw [rejoin_cons hpair]
        obtain ⟨heq, hlt⟩ := ih s htail
        constructor
        · rw [List.cons.injEq, List.cons.injEq, heq]
        · rw [List.cons_lt_cons_iff, List.cons_lt_cons_iff, hlt]
      · -- a joined pair is above every ASCII character, and so is its first half
        push Not at hpair
        obtain ⟨d, rest, rfl, hc, hd⟩ := hpair
        have hd : isLowSurrogate d = true := by simpa using hd
        have hhigh := isHighSurrogate_iff.mp hc
        have hlow := isLowSurrogate_iff.mp hd
        have hval : (joinPair c d).val = 0x10000 + (c.val - 0xD800) * 0x400 + (d.val - 0xDC00) :=
          Nat.mod_eq_of_lt (by omega)
        have hac : a < c := Fin.lt_def.mpr (by omega)
        have haj : a < joinPair c d := Fin.lt_def.mpr (by omega)
        rw [rejoin_pair hc hd]
        refine ⟨⟨fun h => ?_, fun h => ?_⟩, ⟨fun _ => ?_, fun _ => ?_⟩⟩
        · exact absurd (List.cons.inj h).1 (ne_of_lt hac)
        · exact absurd (List.cons.inj h).1 (ne_of_lt haj)
        · exact List.cons_lt_cons_iff.mpr (.inl haj)
        · exact List.cons_lt_cons_iff.mpr (.inl hac)

/-- Strings with the same text compare alike with an ASCII name. -/
theorem ascii_lt_of_dumpsStr_eq {name s s' : PyStr} (hname : Ascii name)
    (h : dumpsStr s = dumpsStr s') : (name = s ↔ name = s') ∧ (name < s ↔ name < s') := by
  have hrejoin : rejoin s = rejoin s' :=
    (dumpsStr_append_inj (congrArg (· ++ []) h)).2.1
  obtain ⟨heq, hlt⟩ := rejoin_ascii_lt s name hname
  obtain ⟨heq', hlt'⟩ := rejoin_ascii_lt s' name hname
  rw [heq, hlt, heq', hlt', hrejoin]
  exact ⟨Iff.rfl, Iff.rfl⟩

section Unique

variable {φ : Type} [JsonFloat φ]

/-! ## Values -/

/-- **One way to cut**: the text of a value ends where the scanner stops. -/
theorem dumps_append_inj {v v' : Value φ} {t t' r r' : PyStr} (ht : dumps v = some t)
    (ht' : dumps v' = some t') (h : t ++ r = t' ++ r') (hr : Stops r) (hr' : Stops r') :
    t = t' ∧ r = r' := by
  have hscan := scanOnce_dumps v t ht (t.length + t'.length + 1) r (by omega) hr
  rw [h, scanOnce_dumps v' t' ht' (t.length + t'.length + 1) r' (by omega) hr'] at hscan
  obtain rfl : r' = r := (Prod.mk.inj (Option.some.inj hscan)).2
  exact ⟨List.append_cancel_right h, rfl⟩

/-! ## Members -/

/-- Two members with string keys and the same texts. -/
inductive SameItem : Key φ × Value φ → Key φ × Value φ → Prop
  | intro {s s' : PyStr} {v v' : Value φ} (key : dumpsStr s = dumpsStr s')
      (value : dumps v = dumps v') : SameItem (.str s, v) (.str s', v')

/-- All keys are strings. -/
def StringKeys (items : List (Key φ × Value φ)) : Prop := ∀ e ∈ items, ∃ s, e.1 = .str s

omit [JsonFloat φ] in
theorem StringKeys.tail {e : Key φ × Value φ} {items : List (Key φ × Value φ)}
    (h : StringKeys (e :: items)) : StringKeys items :=
  fun e' he' => h e' (List.mem_cons_of_mem e he')

/-- The text of the first member, and what is behind it. -/
theorem dumpsMembers_str {s : PyStr} {v : Value φ} {items : List (Key φ × Value φ)} {t : PyStr}
    (h : dumpsMembers ((.str s, v) :: items) = some t) :
    ∃ tv tail, dumps v = some tv ∧ t = dumpsStr s ++ (colon :: (tv ++ tail)) ∧
      ((items = [] ∧ tail = [closeBrace]) ∨
        ∃ rest, items ≠ [] ∧ dumpsMembers items = some rest ∧ tail = comma :: rest) := by
  cases items with
  | nil =>
    obtain ⟨tv, hv, h⟩ := Option.bind_eq_some_iff.mp h
    cases h
    exact ⟨tv, [closeBrace], hv, by simp, .inl ⟨rfl, rfl⟩⟩
  | cons item items =>
    obtain ⟨tv, hv, h⟩ := Option.bind_eq_some_iff.mp h
    obtain ⟨rest, hrest, h⟩ := Option.bind_eq_some_iff.mp h
    cases h
    exact ⟨tv, comma :: rest, hv, by simp, .inr ⟨rest, by simp, hrest, rfl⟩⟩

theorem dumpsMembers_stops {items : List (Key φ × Value φ)} {tail : PyStr}
    (h : (items = [] ∧ tail = [closeBrace]) ∨
      ∃ rest, items ≠ [] ∧ dumpsMembers items = some rest ∧ tail = comma :: rest) : Stops tail := by
  rcases h with ⟨-, rfl⟩ | ⟨rest, -, -, rfl⟩
  · exact .inr (.inr (.inl rfl))
  · exact .inl rfl

/-- The text of no members is the closing brace alone, and that of some members is not. -/
theorem dumpsMembers_nil_iff {items : List (Key φ × Value φ)}
    (h : dumpsMembers items = some [closeBrace]) : items = [] := by
  cases items with
  | nil => rfl
  | cons item items =>
    obtain ⟨rest, hrest⟩ := dumpsMembers_head h
    exact absurd (List.cons.inj hrest).1 (by decide)

/-- **Members**: objects with the same text have the same members. -/
theorem dumpsMembers_inj (items : List (Key φ × Value φ)) : ∀ (items' : List (Key φ × Value φ))
    (t : PyStr), StringKeys items → StringKeys items' → dumpsMembers items = some t →
    dumpsMembers items' = some t → List.Forall₂ SameItem items items' := by
  induction items with
  | nil =>
    intro items' t _ _ h h'
    cases h
    rw [dumpsMembers_nil_iff h']
    exact .nil
  | cons item items ih =>
    intro items' t hkeys hkeys' h h'
    obtain ⟨k, v⟩ := item
    obtain ⟨s, rfl⟩ : ∃ s, k = .str s := hkeys _ List.mem_cons_self
    cases items' with
    | nil =>
      cases h'
      exact nomatch dumpsMembers_nil_iff h
    | cons item' items' =>
      obtain ⟨k', v'⟩ := item'
      obtain ⟨s', rfl⟩ : ∃ s, k' = .str s := hkeys' _ List.mem_cons_self
      obtain ⟨tv, tail, hv, rfl, htail⟩ := dumpsMembers_str h
      obtain ⟨tv', tail', hv', htext, htail'⟩ := dumpsMembers_str h'
      obtain ⟨hkey, -, hrest⟩ := dumpsStr_append_inj htext
      obtain ⟨rfl, rfl⟩ := dumps_append_inj hv hv' (List.cons.inj hrest).2
        (dumpsMembers_stops htail) (dumpsMembers_stops htail')
      refine .cons (.intro hkey (hv.trans hv'.symm)) ?_
      rcases htail with ⟨rfl, rfl⟩ | ⟨rest, hne, hitems, rfl⟩
      · rcases htail' with ⟨rfl, -⟩ | ⟨rest, -, -, hcomma⟩
        · exact .nil
        · exact absurd (List.cons.inj hcomma).1 (by decide)
      · rcases htail' with ⟨-, hbrace⟩ | ⟨rest', -, hitems', hcomma⟩
        · exact absurd (List.cons.inj hbrace).1 (by decide)
        · obtain rfl := (List.cons.inj hcomma).2
          exact ih items' rest hkeys.tail hkeys'.tail hitems hitems'

theorem dumps_dict_str {items : List (Key φ × Value φ)} (h : StringKeys items) :
    dumps (.dict items) = (dumpsMembers items).map (openBrace :: ·) := by
  have hall : items.all (fun e => Key.isStr e.1) = true := by
    refine List.all_eq_true.mpr fun e he => ?_
    obtain ⟨s, hs⟩ := h e he
    rw [hs]
    rfl
  rw [dumps, keysCompare, hall, Bool.or_true, Bool.true_or, if_pos rfl]
  cases dumpsMembers items <;> rfl

theorem SameItem.stringKeys {items items' : List (Key φ × Value φ)}
    (h : List.Forall₂ SameItem items items') : StringKeys items ∧ StringKeys items' := by
  induction h with
  | nil => exact ⟨nofun, nofun⟩
  | cons hitem _ ih =>
    obtain ⟨hkey, hvalue⟩ := hitem
    constructor
    · rintro e (_ | ⟨_, he⟩)
      · exact ⟨_, rfl⟩
      · exact ih.1 e he
    · rintro e (_ | ⟨_, he⟩)
      · exact ⟨_, rfl⟩
      · exact ih.2 e he

/-- The same members give the same text. -/
theorem dumpsMembers_congr {items items' : List (Key φ × Value φ)}
    (h : List.Forall₂ SameItem items items') : dumpsMembers items = dumpsMembers items' := by
  induction h with
  | nil => rfl
  | cons hitem hrest ih =>
    obtain ⟨hkey, hvalue⟩ := hitem
    cases hrest with
    | nil => simp only [dumpsMembers, keyText, hvalue, hkey, Option.bind_eq_bind, Option.bind_some]
    | cons _ _ =>
      simp only [dumpsMembers, keyText, hvalue, hkey, Option.bind_eq_bind, Option.bind_some] at ih ⊢
      rw [ih]

/-- What is found under an ASCII name has the same text in both. -/
theorem find_sameItem (name : PyStr) (hname : Ascii name) {items items' : List (Key φ × Value φ)}
    (h : List.Forall₂ SameItem items items') :
    (Value.find name items).map dumps = (Value.find name items').map dumps := by
  induction h with
  | nil => rfl
  | cons hitem _ ih =>
    obtain @⟨s, s', v, v', hkey, hvalue⟩ := hitem
    obtain ⟨heq, -⟩ := ascii_lt_of_dumpsStr_eq hname hkey
    rw [Value.find, Value.find]
    by_cases hs : name = s
    · rw [if_pos hs.symm, if_pos (heq.mp hs).symm, Option.map_some, Option.map_some, hvalue]
    · rw [if_neg (Ne.symm hs), if_neg (fun h => hs (heq.mpr h.symm))]
      exact ih

/-- Setting an item in both keeps them alike. -/
theorem insertItem_sameItem (name : PyStr) (hname : Ascii name) (v : Value φ)
    {items items' : List (Key φ × Value φ)} (h : List.Forall₂ SameItem items items') :
    List.Forall₂ SameItem (Value.insertItem name v items) (Value.insertItem name v items') := by
  induction h with
  | nil => exact .cons (.intro rfl rfl) .nil
  | cons hitem hrest ih =>
    obtain @⟨s, s', w, w', hkey, hvalue⟩ := hitem
    obtain ⟨heq, hlt⟩ := ascii_lt_of_dumpsStr_eq hname hkey
    rw [Value.insertItem, Value.insertItem]
    by_cases hs : name = s
    · rw [if_pos hs, if_pos (heq.mp hs)]
      exact .cons (.intro hkey rfl) hrest
    · rw [if_neg hs, if_neg (mt heq.mpr hs)]
      by_cases hbefore : name < s
      · rw [if_pos hbefore, if_pos (hlt.mp hbefore)]
        exact .cons (.intro rfl rfl) (.cons (.intro hkey hvalue) hrest)
      · rw [if_neg hbefore, if_neg (mt hlt.mpr hbefore)]
        exact .cons (.intro hkey hvalue) ih

/-! ## What is read has string keys -/

omit [JsonFloat φ] in
theorem stringKeys_insertItem {name : PyStr} {v : Value φ} {items : List (Key φ × Value φ)}
    (h : StringKeys items) : StringKeys (Value.insertItem name v items) := by
  intro e he
  rcases mem_insertItem he with rfl | he
  · exact ⟨name, rfl⟩
  · exact h e he

theorem scanMembers_keys (fuel : Nat) : ∀ (items : List (Key φ × Value φ)) (s rest : PyStr)
    (v : Value φ), StringKeys items → scanMembers fuel items s = some (v, rest) →
    ∃ items', v = .dict items' ∧ StringKeys items' := by
  induction fuel with
  | zero =>
    intro items s rest v _ h
    rw [scanMembers] at h
    cases h
  | succ fuel ih =>
    intro items s rest v hitems h
    rw [scanMembers] at h
    obtain ⟨s1, -, h⟩ := Option.bind_eq_some_iff.mp h
    obtain ⟨⟨name, s2⟩, -, h⟩ := Option.bind_eq_some_iff.mp h
    obtain ⟨s3, -, h⟩ := Option.bind_eq_some_iff.mp h
    obtain ⟨⟨w, s4⟩, -, h⟩ := Option.bind_eq_some_iff.mp h
    have hitems' : StringKeys (Value.insertItem name w items) := stringKeys_insertItem hitems
    simp only at h
    split at h
    · cases h
      exact ⟨_, rfl, hitems'⟩
    · obtain ⟨s5, -, h⟩ := Option.bind_eq_some_iff.mp h
      exact ih _ _ rest v hitems' h

theorem scanNumber_not_dict {s rest : PyStr} {items : List (Key φ × Value φ)} :
    scanNumber s ≠ some (.dict items, rest) := by
  intro h
  obtain ⟨⟨integer, fraction, tail⟩, -, h⟩ := Option.bind_eq_some_iff.mp h
  simp only at h
  split at h
  · obtain ⟨i, -, h⟩ := Option.bind_eq_some_iff.mp h
    cases h
  · cases h

theorem scanAtom_not_dict {s rest : PyStr} {items : List (Key φ × Value φ)} :
    scanAtom s ≠ some (.dict items, rest) := by
  intro h
  unfold scanAtom at h
  split at h
  · rename_i text v hfind
    have hmem := List.mem_of_find?_eq_some hfind
    injection h with h
    obtain ⟨rfl, -⟩ := Prod.mk.inj h
    simp [constants, floatConstants] at hmem
  · exact scanNumber_not_dict h

/-- **String keys**: `loads` gives no others. -/
theorem loads_keys {b : Bytes} {items : List (Key φ × Value φ)}
    (h : loads b = some (.dict items)) : StringKeys items := by
  obtain ⟨text, -, h⟩ := Option.bind_eq_some_iff.mp h
  obtain ⟨⟨v, rest⟩, hscan, h⟩ := Option.bind_eq_some_iff.mp h
  simp only at h
  split at h
  · cases h
    cases hs : skipSpace text with
    | nil => rw [hs, scanOnce] at hscan; cases hscan
    | cons c s =>
      rw [hs, scanOnce] at hscan
      split at hscan
      · obtain ⟨⟨t, rest'⟩, -, hscan⟩ := Option.bind_eq_some_iff.mp hscan
        cases hscan
      · split at hscan
        · split at hscan
          · cases hscan
            exact List.forall_mem_nil _
          · obtain ⟨items', hitems, hkeys⟩ := scanMembers_keys _ [] _ _ _ (List.forall_mem_nil _) hscan
            injection hitems with hitems
            exact hitems ▸ hkeys
        · split at hscan
          · split at hscan
            · cases hscan
            · obtain ⟨⟨vs, rest'⟩, -, hscan⟩ := Option.bind_eq_some_iff.mp hscan
              cases hscan
          · exact absurd hscan scanAtom_not_dict
  · cases h

end Unique

end T2TouchId.Python.Json
