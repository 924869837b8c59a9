/-
  What a call may raise.

  `Only allowed answer` says of a call that it returns or raises one of the allowed errors, and `Strays` that
  it raises another.  One rule for each construction says where a call goes astray: a call behind a call, a
  test, a conversion of errors, a list of calls.
-/
import T2TouchId.User.Mapping

namespace T2TouchId

open T2TouchId.Python T2TouchId.User

section Strays

variable {ε ε' α β : Type} {allowed : ε → Prop}

/-- The call returns or raises one of these errors. -/
def Only (allowed : ε → Prop) (answer : Except ε α) : Prop := ∀ error, answer = .error error → allowed error

/-- The call raises something else. -/
def Strays (allowed : ε → Prop) (answer : Except ε α) : Prop := ∃ error, answer = .error error ∧ ¬ allowed error

theorem only_iff {answer : Except ε α} : Only allowed answer ↔ ¬ Strays allowed answer := by
  constructor
  · rintro h ⟨error, hanswer, hnot⟩
    exact hnot (h error hanswer)
  · intro h error hanswer
    by_contra hnot
    exact h ⟨error, hanswer, hnot⟩

theorem only_ok (a : α) : Only allowed (.ok a : Except ε α) := nofun

theorem only_error {error : ε} (h : allowed error) : Only allowed (.error error : Except ε α) := by
  rintro _ ⟨⟩
  exact h

/-- A call behind a call. -/
theorem Only.bind {x : Except ε α} {f : α → Except ε β} (hx : Only allowed x)
    (hf : ∀ a, x = .ok a → Only allowed (f a)) : Only allowed (x >>= f) := by
  cases x with
  | ok a => exact hf a rfl
  | error error => exact only_error (hx error rfl)

/-- A test, … -/
theorem only_test {p : Prop} [Decidable p] {error : ε} (herror : allowed error) :
    Only allowed (raiseIf p error) := by
  unfold raiseIf
  by_cases hp : p
  · rw [if_pos hp]
    exact only_error herror
  · rw [if_neg hp]
    exact only_ok ()

/-- … and what is behind it. -/
theorem only_refuse {p : Prop} [Decidable p] {error : ε} {f : Unit → Except ε α} (herror : allowed error)
    (hf : ¬ p → Only allowed (f ())) : Only allowed (raiseIf p error >>= f) := by
  refine (only_test herror).bind fun _ h => ?_
  exact hf (fun hp => by rw [raiseIf, if_pos hp] at h; exact nomatch h)

theorem not_strays_ok (a : α) : ¬ Strays allowed (.ok a : Except ε α) := by
  rintro ⟨error, h, -⟩
  exact nomatch h

theorem strays_error {error : ε} : Strays allowed (.error error : Except ε α) ↔ ¬ allowed error := by
  constructor
  · rintro ⟨_, ⟨⟩, h⟩
    exact h
  · exact fun h => ⟨error, rfl, h⟩

theorem not_strays_error {error : ε} (h : allowed error) : ¬ Strays allowed (.error error : Except ε α) :=
  fun hstrays => strays_error.mp hstrays h

/-- Behind a call. -/
theorem strays_bind {x : Except ε α} {f : α → Except ε β} :
    Strays allowed (x >>= f) ↔ Strays allowed x ∨ ∃ a, x = .ok a ∧ Strays allowed (f a) := by
  cases x with
  | ok a =>
    constructor
    · exact fun h => .inr ⟨a, rfl, h⟩
    · rintro (h | ⟨_, ⟨⟩, h⟩)
      · exact absurd h (not_strays_ok a)
      · exact h
  | error error =>
    constructor
    · exact fun h => .inl (strays_error.mpr (strays_error.mp h))
    · rintro (h | ⟨_, h, -⟩)
      · exact strays_error.mpr (strays_error.mp h)
      · exact nomatch h

/-- Behind a call that does not go astray. -/
theorem strays_bind_of {x : Except ε α} (hx : ¬ Strays allowed x) {f : α → Except ε β} :
    Strays allowed (x >>= f) ↔ ∃ a, x = .ok a ∧ Strays allowed (f a) :=
  strays_bind.trans (or_iff_right hx)

/-- In front of what does not go astray. -/
theorem strays_bind_last {x : Except ε α} {f : α → Except ε β} (hf : ∀ a, x = .ok a → ¬ Strays allowed (f a)) :
    Strays allowed (x >>= f) ↔ Strays allowed x := by
  refine strays_bind.trans (or_iff_left ?_)
  rintro ⟨a, hx, h⟩
  exact hf a hx h

/-- Behind a call whose answer makes no difference. -/
theorem returns_and {x : Except ε α} {r : α → Prop} {q : Prop} (h : ∀ a, x = .ok a → (r a ↔ q)) :
    (∃ a, x = .ok a ∧ r a) ↔ (∃ a, x = .ok a) ∧ q := by
  rw [← exists_and_right]
  exact exists_congr fun a => and_congr_right fun hx => h a hx

section Tests

variable {p : Prop} [Decidable p] {error : ε} {f : Unit → Except ε α}

/-- Behind a test that raises one of them. -/
theorem strays_refuse (herror : allowed error) :
    Strays allowed (raiseIf p error >>= f) ↔ ¬ p ∧ Strays allowed (f ()) := by
  unfold raiseIf
  by_cases hp : p
  · rw [if_pos hp]
    exact iff_of_false (not_strays_error herror) fun h => h.1 hp
  · rw [if_neg hp]
    exact (and_iff_right hp).symm

/-- At a test that raises something else, or behind it. -/
theorem strays_raise (herror : ¬ allowed error) :
    Strays allowed (raiseIf p error >>= f) ↔ p ∨ Strays allowed (f ()) := by
  unfold raiseIf
  by_cases hp : p
  · rw [if_pos hp]
    exact iff_of_true (strays_error.mpr herror) (.inl hp)
  · rw [if_neg hp]
    exact (or_iff_right hp).symm

/-- A last test. -/
theorem not_strays_test (herror : allowed error) : ¬ Strays allowed (raiseIf p error) := by
  unfold raiseIf
  by_cases hp : p
  · rw [if_pos hp]
    exact not_strays_error herror
  · rw [if_neg hp]
    exact not_strays_ok ()

theorem not_strays_ite {x y : Except ε α} (hx : ¬ Strays allowed x) (hy : ¬ Strays allowed y) :
    ¬ Strays allowed (if p then x else y) := by
  by_cases hp : p
  · rw [if_pos hp]
    exact hx
  · rw [if_neg hp]
    exact hy

/-- A test behind which there is nothing. -/
theorem raiseIf_ok_last {p : Prop} [Decidable p] {error : ε} : raiseIf p error = .ok () ↔ ¬ p := by
  rw [raiseIf]
  by_cases hp : p
  · rw [if_pos hp]
    exact iff_of_false nofun (not_not.mpr hp)
  · rw [if_neg hp]
    exact iff_of_true rfl hp

end Tests

theorem strays_mapError {allowed' : ε' → Prop} {convert : ε → ε'} {x : Except ε α} :
    Strays allowed' (x.mapError convert) ↔ ∃ error, x = .error error ∧ ¬ allowed' (convert error) := by
  cases x with
  | ok a => exact iff_of_false (not_strays_ok a) nofun
  | error error =>
    show Strays allowed' (.error (convert error)) ↔ _
    rw [strays_error]
    constructor
    · exact fun h => ⟨error, rfl, h⟩
    · rintro ⟨_, ⟨⟩, h⟩
      exact h

/-- A list of calls returns where every one does. -/
theorem mapM_returns {f : α → Except ε β} {items : List α} :
    (∃ bs, items.mapM f = .ok bs) ↔ ∀ item ∈ items, ∃ b, f item = .ok b := by
  induction items with
  | nil => exact iff_of_true ⟨[], rfl⟩ nofun
  | cons first items ih =>
    rw [List.forall_mem_cons, ← ih]
    constructor
    · rintro ⟨bs, h⟩
      rw [List.mapM_cons] at h
      obtain ⟨b, hb, h⟩ := bind_ok h
      obtain ⟨rest, hrest, -⟩ := bind_ok h
      exact ⟨⟨b, hb⟩, rest, hrest⟩
    · rintro ⟨⟨b, hb⟩, bs, hbs⟩
      refine ⟨b :: bs, ?_⟩
      rw [List.mapM_cons]
      exact bind_eq_ok.mpr ⟨b, hb, bind_eq_ok.mpr ⟨bs, hbs, rfl⟩⟩

theorem mapM_length {f : α → Except ε β} : ∀ {as : List α} {bs : List β},
    as.mapM f = .ok bs → bs.length = as.length
  | [], _, h => by
    cases h
    rfl
  | a :: as, _, h => by
    rw [List.mapM_cons] at h
    obtain ⟨b, -, h⟩ := bind_ok h
    obtain ⟨bs, hbs, h⟩ := bind_ok h
    cases h
    exact congrArg Nat.succ (mapM_length hbs)

/-- The results of a list of calls are those of the calls, … -/
theorem mem_of_mapM {f : α → Except ε β} {as : List α} {bs : List β} (h : as.mapM f = .ok bs) {b : β} :
    b ∈ bs ↔ ∃ a ∈ as, f a = .ok b := by
  constructor
  · exact mapM_ok_right h b
  · rintro ⟨a, ha, hb⟩
    obtain ⟨found, hfound, hcall⟩ := mapM_ok_left h a ha
    obtain rfl : found = b := Except.ok.inj (hcall.symm.trans hb)
    exact hfound

/-- … in their order. -/
theorem map_of_mapM_mem {γ : Type} {f : α → Except ε β} {left : α → γ} {right : β → γ} : ∀ {as : List α} {bs : List β},
    (∀ a ∈ as, ∀ b, f a = .ok b → right b = left a) → as.mapM f = .ok bs → bs.map right = as.map left := by
  intro as
  induction as with
  | nil =>
    rintro _ - ⟨⟩
    rfl
  | cons a as ih =>
    intro bs hf h
    obtain ⟨ha, has⟩ := List.forall_mem_cons.mp hf
    rw [List.mapM_cons] at h
    obtain ⟨b, hb, h⟩ := bind_ok h
    obtain ⟨rest, hrest, h⟩ := bind_ok h
    cases h
    rw [List.map_cons, List.map_cons, ha b hb, ih has hrest]

theorem map_of_mapM {γ : Type} {f : α → Except ε β} {left : α → γ} {right : β → γ}
    (hf : ∀ a b, f a = .ok b → right b = left a) {as : List α} {bs : List β} (h : as.mapM f = .ok bs) :
    bs.map right = as.map left :=
  map_of_mapM_mem (fun a _ b => hf a b) h

/-- A list of calls and its results, one beside the other. -/
theorem mapM_eq_ok {f : α → Except ε β} {as : List α} {bs : List β} :
    as.mapM f = .ok bs ↔ List.Forall₂ (fun a b => f a = .ok b) as bs := by
  constructor
  · intro h
    induction as generalizing bs with
    | nil =>
      cases h
      exact .nil
    | cons a as ih =>
      rw [List.mapM_cons] at h
      obtain ⟨b, hb, h⟩ := bind_ok h
      obtain ⟨rest, hrest, h⟩ := bind_ok h
      cases h
      exact .cons hb (ih hrest)
  · intro h
    induction h with
    | nil => rfl
    | cons hb _ ih =>
      rw [List.mapM_cons]
      exact bind_eq_ok.mpr ⟨_, hb, bind_eq_ok.mpr ⟨_, ih, rfl⟩⟩

theorem mapM_of_forall {f : α → Except ε β} {g : α → β} {items : List α} (h : ∀ item ∈ items, f item = .ok (g item)) :
    items.mapM f = .ok (items.map g) := by
  induction items with
  | nil => rfl
  | cons first items ih =>
    obtain ⟨hfirst, hrest⟩ := List.forall_mem_cons.mp h
    rw [List.mapM_cons]
    exact bind_eq_ok.mpr ⟨_, hfirst, bind_eq_ok.mpr ⟨_, ih hrest, rfl⟩⟩

/-- A list of calls goes astray at one of them, where those in front have returned. -/
theorem strays_mapM {f : α → Except ε β} {items : List α} : Strays allowed (items.mapM f) ↔
    ∃ before item behind, items = before ++ item :: behind ∧ (∀ other ∈ before, ∃ b, f other = .ok b) ∧
      Strays allowed (f item) := by
  induction items with
  | nil =>
    refine iff_of_false (not_strays_ok []) ?_
    rintro ⟨before, item, behind, h, -⟩
    exact absurd h (by simp)
  | cons first items ih =>
    rw [List.mapM_cons, strays_bind]
    have hrest : ∀ b, Strays allowed (items.mapM f >>= fun bs => (pure (b :: bs) : Except ε (List β))) ↔
        Strays allowed (items.mapM f) :=
      fun b => strays_bind_last fun bs _ => not_strays_ok _
    constructor
    · rintro (hfirst | ⟨b, hb, hnext⟩)
      · exact ⟨[], first, items, rfl, nofun, hfirst⟩
      · obtain ⟨before, item, behind, rfl, hbefore, hitem⟩ := ih.mp ((hrest b).mp hnext)
        exact ⟨first :: before, item, behind, rfl, List.forall_mem_cons.mpr ⟨⟨b, hb⟩, hbefore⟩, hitem⟩
    · rintro ⟨before, item, behind, hsplit, hbefore, hitem⟩
      cases before with
      | nil =>
        obtain ⟨rfl, rfl⟩ := List.cons.inj hsplit
        exact .inl hitem
      | cons other before =>
        obtain ⟨rfl, rfl⟩ := List.cons.inj hsplit
        obtain ⟨⟨b, hb⟩, hbefore⟩ := List.forall_mem_cons.mp hbefore
        exact .inr ⟨b, hb, (hrest b).mpr (ih.mpr ⟨before, item, behind, rfl, hbefore, hitem⟩)⟩

end Strays

end T2TouchId
