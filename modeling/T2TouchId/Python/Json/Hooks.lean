/-
  Reading JSON with an `object_pairs_hook` that refuses a name that stands twice, and with a
  `parse_constant`.

  `json.loads` calls the first hook at the closing brace of every object with the pairs in the order of the
  text, and the second at each of the texts that stand for no number.  The first thing that goes wrong in
  this order is what is raised.

  1. **Program** — `Hooks` are the errors that may be raised; `scanOnce`, `scanElements`, `scanMembers` of
     `Json/Read` with them, over the same tokens.
  2. **Results** — `loadsHooked_dumps`: a native value that was written is read back; its names are in
     order, so that none stands twice.  `loadsHooked_native`: what is read is native.
-/
import T2TouchId.Python.Json.RoundTrip

namespace T2TouchId.Python.Json

/-! ## Program -/

/-- What a reader raises. -/
structure Hooks (ε : Type) where
  /-- `JSONDecodeError`. -/
  decode : ε
  /-- The `ValueError` of an integer with too many digits. -/
  digits : ε
  /-- What `object_pairs_hook` raises on a name that stands twice. -/
  repeatedName : ε
  /-- What `parse_constant` raises; without it, the three constants are read. -/
  constant : Option ε

/-- What is not found is an error. -/
def orRaise {ε α : Type} (error : ε) : Option α → Except ε α
  | some a => .ok a
  | none => .error error

/-- The text begins with the name of a float that is no number. -/
def startsConstant (s : PyStr) : Bool := floatConstants.any fun text => text.isPrefixOf s

/-- Does the name stand among the items? -/
def hasName {φ : Type} (name : PyStr) (items : List (Key φ × Value φ)) : Bool :=
  (Value.find name items).isSome

section Scan

variable {ε φ : Type} [JsonFloat φ] (hooks : Hooks ε)

/-- A constant or a number. -/
def scanAtomHooked (s : PyStr) : Except ε (Value φ × PyStr) :=
  match hooks.constant, startsConstant s with
  | some error, true => .error error
  | _, _ => orRaise (if (matchNumber s).isSome then hooks.digits else hooks.decode) (scanAtom s)

mutual

def scanOnceHooked : Nat → PyStr → Except ε (Value φ × PyStr)
  | 0, _ => .error hooks.decode
  | _ + 1, [] => .error hooks.decode
  | fuel + 1, c :: rest =>
    if c = quote then do
      let (s, rest) ← orRaise hooks.decode (scanString rest)
      return (.str s, rest)
    else if c = openBrace then
      match expect closeBrace (skipSpace rest) with
      | some rest => .ok (.dict [], rest)
      | none => scanMembersHooked fuel false [] (skipSpace rest)
    else if c = openBracket then
      match expect closeBracket (skipSpace rest) with
      | some rest => .ok (.list [], rest)
      | none => do
        let (items, rest) ← scanElementsHooked fuel (skipSpace rest)
        return (.list items, rest)
    else scanAtomHooked hooks (c :: rest)

/-- The elements of an array, from the first character of one. -/
def scanElementsHooked : Nat → PyStr → Except ε (List (Value φ) × PyStr)
  | 0, _ => .error hooks.decode
  | fuel + 1, s => do
    let (v, rest) ← scanOnceHooked fuel s
    let rest := skipSpace rest
    match expect closeBracket rest with
    | some rest => return ([v], rest)
    | none => do
      let rest ← orRaise hooks.decode (expect comma rest)
      let (items, rest) ← scanElementsHooked fuel (skipSpace rest)
      return (v :: items, rest)

/-- The members of an object, from the quote of a name; the flag says that a name stood twice. -/
def scanMembersHooked : Nat → Bool → List (Key φ × Value φ) → PyStr → Except ε (Value φ × PyStr)
  | 0, _, _, _ => .error hooks.decode
  | fuel + 1, twice, items, s => do
    let rest ← orRaise hooks.decode (expect quote s)
    let (name, rest) ← orRaise hooks.decode (scanString rest)
    let rest ← orRaise hooks.decode (expect colon (skipSpace rest))
    let (v, rest) ← scanOnceHooked fuel (skipSpace rest)
    let twice := twice || hasName name items
    let items := Value.insertItem name v items
    let rest := skipSpace rest
    match expect closeBrace rest with
    | some rest => if twice then .error hooks.repeatedName else return (.dict items, rest)
    | none => do
      let rest ← orRaise hooks.decode (expect comma rest)
      scanMembersHooked fuel twice items (skipSpace rest)

end

/-- `json.loads(text, object_pairs_hook=..., parse_constant=...)`. -/
def loadsHooked (text : PyStr) : Except ε (Value φ) := do
  let (v, rest) ← scanOnceHooked hooks (2 * text.length + 2) (skipSpace text)
  if skipSpace rest = [] then return v else .error hooks.decode

end Scan

/-! ## Values without infinities -/

section Finite

variable {φ : Type} [JsonFloat φ]

/-- The float is a number. -/
def isFinite (x : φ) : Bool := JsonFloat.floatstr x ∉ floatConstants

mutual

/-- Every float in the value is a number. -/
def allFinite : Value φ → Bool
  | .float x => isFinite x
  | .list items | .tuple items => eachFinite items
  | .dict items => membersFinite items
  | _ => true

def eachFinite : List (Value φ) → Bool
  | [] => true
  | v :: vs => allFinite v && eachFinite vs

def membersFinite : List (Key φ × Value φ) → Bool
  | [] => true
  | (_, v) :: items => allFinite v && membersFinite items

end

/-- What the reader takes: anything, or without `parse_constant` the numbers. -/
def Hooks.Takes {ε : Type} (hooks : Hooks ε) (finite : Bool) : Prop := hooks.constant.isSome = true → finite = true

theorem Hooks.Takes.left {ε : Type} {hooks : Hooks ε} {a b : Bool} (h : hooks.Takes (a && b)) : hooks.Takes a :=
  fun hsome => (Bool.and_eq_true_iff.mp (h hsome)).1

theorem Hooks.Takes.right {ε : Type} {hooks : Hooks ε} {a b : Bool} (h : hooks.Takes (a && b)) :
    hooks.Takes b :=
  fun hsome => (Bool.and_eq_true_iff.mp (h hsome)).2

end Finite

/-! ## Writing and reading back -/

section RoundTrip

variable {ε φ : Type} [JsonFloat φ] {hooks : Hooks ε}

/-- A number is read, and does not begin with the name of a constant. -/
theorem startsConstant_number {s : PyStr} {r : PyStr × PyStr × PyStr} (h : matchNumber s = some r) :
    startsConstant s = false := by
  by_contra hnot
  obtain ⟨text, htext, hprefix⟩ := List.any_eq_true.mp (eq_true_of_ne_false hnot)
  have hconstant := List.find?_eq_none.mp (find?_constants_number (φ := Unit) h)
    (text, .float ()) (List.mem_append_right _ (List.mem_map.mpr ⟨text, htext, rfl⟩))
  exact hconstant hprefix

/-- An atom that the reader without hooks reads, and whose text is no constant that is refused. -/
theorem scanAtomHooked_ok {s rest : PyStr} {v : Value φ} (h : scanAtom s = some (v, rest))
    (hconstant : hooks.constant.isSome = true → startsConstant s = false) :
    scanAtomHooked hooks s = .ok (v, rest) := by
  unfold scanAtomHooked
  split
  · rename_i error hsome hstarts
    exact nomatch (hconstant (by rw [hsome]; rfl)).symm.trans hstarts
  · rw [h]
    rfl

theorem scanOnceHooked_atom (fuel : Nat) {c : CodePoint} {rest tail : PyStr} {v : Value φ}
    (h : startsAtom c = true) (hscan : scanAtomHooked hooks (c :: rest) = .ok (v, tail)) :
    scanOnceHooked hooks (fuel + 1) (c :: rest) = .ok (v, tail) := by
  rw [scanOnceHooked, if_neg (startsAtom_ne h (by decide)), if_neg (startsAtom_ne h (by decide)),
    if_neg (startsAtom_ne h (by decide)), hscan]

theorem scanAtomHooked_float {x : φ} {rest : PyStr} (hrest : Stops rest) (htakes : hooks.Takes (isFinite x)) :
    scanAtomHooked hooks (JsonFloat.floatstr x ++ rest) = .ok (.float x, rest) := by
  refine scanAtomHooked_ok (scanAtom_float x hrest) fun hsome => ?_
  have hfinite : JsonFloat.floatstr x ∉ floatConstants := of_decide_eq_true (htakes hsome)
  rcases JsonFloat.floatstr_shape x with hconstant | ⟨integer, fraction, -, -, hmatch⟩
  · exact absurd hconstant hfinite
  · exact startsConstant_number (matchNumber_append hmatch hrest)

theorem scanAtomHooked_int {i : Int} {t rest : PyStr} (ht : dumpsInt i = some t) (hrest : Stops rest) :
    scanAtomHooked hooks (t ++ rest) = .ok ((.int i : Value φ), rest) :=
  scanAtomHooked_ok (scanAtom_int ht hrest) fun _ =>
    startsConstant_number (matchNumber_append (matchNumber_dumpsInt ht).1 hrest)

omit [JsonFloat φ] in
/-- A name behind all others is not among them. -/
theorem hasName_before {name : PyStr} {items : List (Key φ × Value φ)}
    (h : ∀ e ∈ items, keyBefore e.1 (.str name) = true) : hasName name items = false := by
  induction items with
  | nil => rfl
  | cons e items ih =>
    obtain ⟨k, v⟩ := e
    have hk := h _ List.mem_cons_self
    have ih := ih fun e he => h e (List.mem_cons_of_mem _ he)
    cases k with
    | str s =>
      have hlt : s < name := of_decide_eq_true hk
      have hne : s ≠ name := by
        rintro rfl
        exact List.lt_irrefl s hlt
      rw [hasName, Value.find, if_neg hne]
      exact ih
    | _ => cases hk

/-- One member: the scanner goes on behind its value. -/
theorem scanMembersHooked_member {fuel : Nat} {name t tail : PyStr} {v : Value φ}
    {before : List (Key φ × Value φ)} (hname : noPairs name = true)
    (hbefore : ∀ e ∈ before, keyBefore e.1 (.str name) = true)
    (hstart : ∃ c rest, t = c :: rest ∧ startsValue c = true)
    (hscan : scanOnceHooked hooks fuel (t ++ tail) = .ok (v, tail)) :
    scanMembersHooked hooks (fuel + 1) false before (dumpsStr name ++ colon :: t ++ tail) =
      match expect closeBrace (skipSpace tail) with
      | some rest => .ok (.dict (before ++ [(.str name, v)]), rest)
      | none => orRaise hooks.decode (expect comma (skipSpace tail)) >>= fun rest =>
        scanMembersHooked hooks fuel false (before ++ [(.str name, v)]) (skipSpace rest) := by
  obtain ⟨c, rest, rfl, hc⟩ := hstart
  have htext : dumpsStr name ++ colon :: (c :: rest) ++ tail =
      quote :: (name.flatMap escapeChar ++ quote :: colon :: (c :: rest ++ tail)) := by
    simp [dumpsStr]
  rw [htext, scanMembersHooked]
  show (orRaise hooks.decode (scanString _)).bind _ = _
  rw [scanString_dumpsStr, rejoin_of_noPairs name hname]
  show (scanOnceHooked hooks fuel (skipSpace (c :: (rest ++ tail)))).bind _ = _
  rw [skipSpace_cons (isSpace_of_startsValue hc), ← List.cons_append, hscan]
  show (match expect closeBrace (skipSpace tail) with
    | some rest => if hasName name before then _ else _
    | none => orRaise hooks.decode (expect comma (skipSpace tail)) >>= fun rest =>
      scanMembersHooked hooks fuel (hasName name before) (Value.insertItem name v before) (skipSpace rest)) = _
  rw [hasName_before hbefore, insertItem_last hbefore]
  rfl

mutual

/-- **The round trip** of a native value, in front of anything the writer puts behind it. -/
theorem scanOnceHooked_dumps : ∀ (v : Value φ) (t : PyStr), dumps v = some t → isNative v = true →
    hooks.Takes (allFinite v) → ∀ (fuel : Nat) (rest : PyStr), t.length < fuel → Stops rest →
      scanOnceHooked hooks fuel (t ++ rest) = .ok (v, rest)
  | .none, _, ht, _, _, fuel + 1, rest, _, _ => by
    cases ht
    have hmem : (py "null", (Value.none : Value φ)) ∈ constants := by simp [constants]
    exact scanOnceHooked_atom fuel (by decide) (scanAtomHooked_ok (scanAtom_constant hmem rest) fun _ => rfl)
  | .bool b, _, ht, _, _, fuel + 1, rest, _, _ => by
    cases ht
    have hmem : (if b then py "true" else py "false", (Value.bool b : Value φ)) ∈ constants := by
      cases b <;> simp [constants]
    have hscan := scanAtom_constant hmem rest
    cases b <;> exact scanOnceHooked_atom fuel (by decide) (scanAtomHooked_ok hscan fun _ => rfl)
  | .int i, _, ht, _, _, fuel + 1, rest, _, hrest => by
    have hscan : scanAtomHooked hooks _ = .ok ((.int i : Value φ), rest) := scanAtomHooked_int ht hrest
    obtain ⟨c, tail, rfl, hc⟩ := dumpsInt_head ht
    exact scanOnceHooked_atom fuel hc hscan
  | .float x, _, ht, _, htakes, fuel + 1, rest, _, hrest => by
    cases ht
    have hscan := scanAtomHooked_float hrest htakes
    obtain ⟨c, tail, hcons, hc⟩ := floatstr_head x
    rw [hcons] at hscan ⊢
    exact scanOnceHooked_atom fuel hc hscan
  | .str s, _, ht, hnative, _, fuel + 1, rest, _, _ => by
    cases ht
    show scanOnceHooked hooks (fuel + 1) (quote :: (s.flatMap escapeChar ++ [quote] ++ rest)) = _
    rw [List.append_assoc, scanOnceHooked, if_pos rfl]
    show (orRaise hooks.decode (scanString (_ ++ quote :: rest))).bind _ = _
    rw [scanString_dumpsStr, rejoin_of_noPairs s hnative]
    rfl
  | .list items, _, ht, hnative, htakes, fuel + 1, rest, hfuel, _ => by
    obtain ⟨t, hitems, ht⟩ := Option.bind_eq_some_iff.mp ht
    cases ht
    rw [List.cons_append, scanOnceHooked, if_neg (by decide), if_neg (by decide), if_pos rfl]
    cases items with
    | nil =>
      cases hitems
      rfl
    | cons v vs =>
      obtain ⟨c, tail, rfl, hc⟩ := dumpsElements_head hitems
      rw [List.cons_append, skipSpace_cons (isSpace_of_startsValue hc),
        expect_cons_ne (startsValue_ne hc (by decide))]
      have hscan := scanElementsHooked_dumps (v :: vs) _ hitems hnative htakes (by simp) fuel rest
        (by simpa using hfuel)
      rw [List.cons_append] at hscan
      simp only [hscan]
      rfl
  | .dict items, _, ht, hnative, htakes, fuel + 1, rest, hfuel, _ => by
    obtain ⟨horder, hhave⟩ := Bool.and_eq_true_iff.mp hnative
    unfold dumps at ht
    split at ht
    · obtain ⟨t, hitems, ht⟩ := Option.bind_eq_some_iff.mp ht
      cases ht
      rw [List.cons_append, scanOnceHooked, if_neg (by decide), if_pos rfl]
      cases items with
      | nil =>
        cases hitems
        rfl
      | cons item items =>
        have hscan := scanMembersHooked_dumps (item :: items) t hitems hhave htakes (by simp) fuel [] horder
          rest (by simpa using hfuel)
        obtain ⟨tail, rfl⟩ := dumpsMembers_head hitems
        rw [List.cons_append, skipSpace_cons (by decide), expect_cons_ne (by decide)]
        exact hscan
    · exact nomatch ht

theorem scanElementsHooked_dumps : ∀ (vs : List (Value φ)) (t : PyStr), dumpsElements vs = some t →
    areNative vs = true → hooks.Takes (eachFinite vs) → vs ≠ [] → ∀ (fuel : Nat) (rest : PyStr), t.length < fuel →
      scanElementsHooked hooks fuel (t ++ rest) = .ok (vs, rest)
  | [v], _, ht, hnative, htakes, _, fuel + 1, rest, hfuel => by
    obtain ⟨t, hv, ht⟩ := Option.bind_eq_some_iff.mp ht
    cases ht
    have hlen : t.length < fuel := by simpa using hfuel
    have hscan := scanOnceHooked_dumps v t hv (Bool.and_eq_true_iff.mp hnative).1 htakes.left fuel
      (closeBracket :: rest) hlen (.inr (.inl rfl))
    rw [List.append_assoc, List.singleton_append, scanElementsHooked, hscan]
    rfl
  | v :: w :: vs, _, ht, hnative, htakes, _, fuel + 1, rest, hfuel => by
    obtain ⟨t, hv, ht⟩ := Option.bind_eq_some_iff.mp ht
    obtain ⟨u, hrest, ht⟩ := Option.bind_eq_some_iff.mp ht
    cases ht
    obtain ⟨hnative, hnatives⟩ := Bool.and_eq_true_iff.mp hnative
    have hlen : t.length + u.length < fuel := by
      simp only [List.length_append, List.length_cons] at hfuel
      omega
    have hscan := scanOnceHooked_dumps v t hv hnative htakes.left fuel (comma :: (u ++ rest)) (by omega) (.inl rfl)
    have htail := scanElementsHooked_dumps (w :: vs) u hrest hnatives htakes.right (by simp) fuel rest (by omega)
    obtain ⟨c, tail, rfl, hc⟩ := dumpsElements_head hrest
    rw [List.append_assoc, List.cons_append, scanElementsHooked, hscan]
    show (scanElementsHooked hooks fuel (skipSpace (c :: (tail ++ rest)))).bind _ = _
    rw [skipSpace_cons (isSpace_of_startsValue hc), ← List.cons_append, htail]
    rfl

theorem scanMembersHooked_dumps : ∀ (items : List (Key φ × Value φ)) (t : PyStr),
    dumpsMembers items = some t → haveNative items = true → hooks.Takes (membersFinite items) →
    items ≠ [] →
    ∀ (fuel : Nat) (before : List (Key φ × Value φ)), inKeyOrder (before ++ items) = true →
      ∀ (rest : PyStr), t.length < fuel →
        scanMembersHooked hooks fuel false before (t ++ rest) = .ok (.dict (before ++ items), rest)
  | [(k, v)], _, ht, hhave, htakes, _, fuel + 1, before, horder, rest, hfuel => by
    obtain ⟨hkey, hv⟩ := haveNative_head hhave
    obtain ⟨name, rfl, hname⟩ := isNativeKey_str hkey
    obtain ⟨t, hdumps, ht⟩ := Option.bind_eq_some_iff.mp ht
    cases ht
    have hlen : t.length < fuel := by
      simp only [List.length_append, List.length_cons, List.length_nil] at hfuel
      omega
    have hscan := scanOnceHooked_dumps v t hdumps hv htakes.left fuel (closeBrace :: rest) hlen (.inr (.inr (.inl rfl)))
    rw [List.append_assoc, List.singleton_append,
      scanMembersHooked_member hname (keysBefore_of_inKeyOrder horder) (dumps_head hdumps) hscan]
    rfl
  | (k, v) :: item :: items, _, ht, hhave, htakes, _, fuel + 1, before, horder, rest, hfuel => by
    obtain ⟨hkey, hv⟩ := haveNative_head hhave
    obtain ⟨name, rfl, hname⟩ := isNativeKey_str hkey
    obtain ⟨t, hdumps, ht⟩ := Option.bind_eq_some_iff.mp ht
    obtain ⟨u, hrest, ht⟩ := Option.bind_eq_some_iff.mp ht
    cases ht
    have hlen : t.length + u.length < fuel := by
      simp only [List.length_append, List.length_cons] at hfuel
      omega
    have horder' : inKeyOrder ((before ++ [(.str name, v)]) ++ item :: items) = true := by
      rwa [List.append_assoc, List.singleton_append]
    have hscan := scanOnceHooked_dumps v t hdumps hv htakes.left fuel (comma :: (u ++ rest)) (by omega) (.inl rfl)
    have htail := scanMembersHooked_dumps (item :: items) u hrest (haveNative_tail hhave) htakes.right (by simp) fuel
      (before ++ [(.str name, v)]) horder' rest (by omega)
    obtain ⟨tail, rfl⟩ := dumpsMembers_head hrest
    rw [List.append_assoc, List.cons_append,
      scanMembersHooked_member hname (keysBefore_of_inKeyOrder horder) (dumps_head hdumps) hscan]
    show scanMembersHooked hooks fuel false _ (skipSpace (quote :: (tail ++ rest))) = _
    rw [skipSpace_cons (by decide), ← List.cons_append, htail, List.append_assoc, List.singleton_append]

end

/-- **Writing and reading back**, with white space behind the text. -/
theorem loadsHooked_dumps {v : Value φ} {t space : PyStr} (ht : dumps v = some t)
    (hnative : isNative v = true) (htakes : hooks.Takes (allFinite v)) (hstops : Stops space) (hspace : skipSpace space = []) :
    loadsHooked hooks (t ++ space) = .ok v := by
  have hlen : t.length < 2 * (t ++ space).length + 2 := by
    rw [List.length_append]
    omega
  have hscan : scanOnceHooked hooks _ _ = .ok (v, space) :=
    scanOnceHooked_dumps v t ht hnative htakes _ space hlen hstops
  obtain ⟨c, rest, hcons, hc⟩ := dumps_head ht
  have hskip : skipSpace (t ++ space) = t ++ space := by
    rw [hcons, List.cons_append, skipSpace_cons (isSpace_of_startsValue hc)]
  rw [loadsHooked, hskip, hscan]
  show (if skipSpace space = [] then _ else _) = _
  rw [if_pos hspace]
  rfl

end RoundTrip

/-! ## What is read

A hook refuses texts, and changes nothing of what is read. -/

section Read

variable {ε φ : Type} [JsonFloat φ] {hooks : Hooks ε}

theorem orRaise_ok {α : Type} {error : ε} {found : Option α} {a : α} (h : orRaise error found = .ok a) :
    found = some a := by
  cases found with
  | none => exact nomatch h
  | some b => exact congrArg some (Except.ok.inj h)

theorem scanAtom_of_hooked {s rest : PyStr} {v : Value φ} (h : scanAtomHooked hooks s = .ok (v, rest)) :
    scanAtom s = some (v, rest) := by
  unfold scanAtomHooked at h
  split at h
  · exact nomatch h
  · exact orRaise_ok h

theorem scan_of_hooked (fuel : Nat) :
    (∀ (s rest : PyStr) (v : Value φ), scanOnceHooked hooks fuel s = .ok (v, rest) →
      scanOnce fuel s = some (v, rest)) ∧
    (∀ (s rest : PyStr) (vs : List (Value φ)), scanElementsHooked hooks fuel s = .ok (vs, rest) →
      scanElements fuel s = some (vs, rest)) ∧
    (∀ (twice : Bool) (items : List (Key φ × Value φ)) (s rest : PyStr) (v : Value φ),
      scanMembersHooked hooks fuel twice items s = .ok (v, rest) →
      scanMembers fuel items s = some (v, rest)) := by
  induction fuel with
  | zero =>
    refine ⟨fun _ _ _ h => ?_, fun _ _ _ h => ?_, fun _ _ _ _ _ h => ?_⟩
    · rw [scanOnceHooked] at h
      cases h
    · rw [scanElementsHooked] at h
      cases h
    · rw [scanMembersHooked] at h
      cases h
  | succ fuel ih =>
    obtain ⟨ihOnce, ihElements, ihMembers⟩ := ih
    refine ⟨fun s rest v h => ?_, fun s rest vs h => ?_, fun twice items s rest v h => ?_⟩
    · cases s with
      | nil =>
        rw [scanOnceHooked] at h
        cases h
      | cons c s =>
        rw [scanOnceHooked] at h
        rw [scanOnce]
        split at h
        · rename_i hquote
          obtain ⟨⟨t, rest'⟩, hscan, h⟩ := bind_ok h
          cases h
          rw [if_pos hquote, orRaise_ok hscan]
          rfl
        · rename_i hquote
          rw [if_neg hquote]
          split at h
          · rename_i hbrace
            rw [if_pos hbrace]
            cases hexpect : expect closeBrace (skipSpace s) with
            | some behind =>
              rw [hexpect] at h
              cases h
              rfl
            | none =>
              rw [hexpect] at h
              exact ihMembers false [] _ rest v h
          · rename_i hbrace
            rw [if_neg hbrace]
            split at h
            · rename_i hbracket
              rw [if_pos hbracket]
              cases hexpect : expect closeBracket (skipSpace s) with
              | some behind =>
                rw [hexpect] at h
                cases h
                rfl
              | none =>
                rw [hexpect] at h
                obtain ⟨⟨vs, rest'⟩, hscan, h⟩ := bind_ok h
                cases h
                simp only [ihElements _ _ vs hscan]
                rfl
            · rename_i hbracket
              rw [if_neg hbracket]
              exact scanAtom_of_hooked h
    · rw [scanElementsHooked] at h
      obtain ⟨⟨w, s1⟩, hscan, h⟩ := bind_ok h
      simp only at h
      split at h
      · rename_i hexpect
        cases h
        exact scanElements_last (ihOnce _ _ w hscan) hexpect
      · rename_i hexpect
        obtain ⟨s2, hcomma, h⟩ := bind_ok h
        obtain ⟨⟨ws, s3⟩, hscans, h⟩ := bind_ok h
        cases h
        exact scanElements_next (ihOnce _ _ w hscan) hexpect (orRaise_ok hcomma) (ihElements _ _ ws hscans)
    · rw [scanMembersHooked] at h
      obtain ⟨s1, hquote, h⟩ := bind_ok h
      obtain ⟨⟨name, s2⟩, hname, h⟩ := bind_ok h
      obtain ⟨s3, hcolon, h⟩ := bind_ok h
      obtain ⟨⟨w, s4⟩, hscan, h⟩ := bind_ok h
      simp only at h
      split at h
      · rename_i hexpect
        split at h
        · cases h
        · cases h
          exact scanMembers_last (orRaise_ok hquote) (orRaise_ok hname) (orRaise_ok hcolon) (ihOnce _ _ w hscan) hexpect
      · rename_i hexpect
        obtain ⟨s5, hcomma, h⟩ := bind_ok h
        rw [scanMembers_next (orRaise_ok hquote) (orRaise_ok hname) (orRaise_ok hcolon) (ihOnce _ _ w hscan) hexpect
          (orRaise_ok hcomma)]
        exact ihMembers _ _ _ rest v h

/-- **What is read is native** when the text has no surrogates. -/
theorem loadsHooked_native {text : PyStr} {v : Value φ} (h : loadsHooked hooks text = .ok v)
    (hwhole : Whole text) : isNative v = true := by
  obtain ⟨⟨w, rest⟩, hscan, h⟩ := bind_ok h
  simp only at h
  split at h
  · cases h
    exact ((scan_native _).1 _ rest _ ((scan_of_hooked _).1 _ rest _ hscan) (hwhole.dropWhile isSpace)).1
  · exact nomatch h

end Read

end T2TouchId.Python.Json
