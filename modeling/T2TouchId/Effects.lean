/-
  Programs that issue effects one at a time, and what a crash can leave of them.

  A program reads the state freely and changes it only through EFFECTS, each a named total state
  change (`Effect.apply`).  Running it from a state gives the list of effects it issued, oldest
  first, and how it ended.  Two things follow from keeping the list and not only the last state:

  * a CRASH is a prefix of that list (`crashAt`), so "the process died between two effects" needs
    no second semantics of the program;
  * a FAULT (an effect that takes place and then raises) is a prefix followed by an error, which is
    the same prefix.

  `Holds I p s Q X` is the judgement the proofs use: every crash state of `p` from `s` satisfies `I`,
  a normal end satisfies `Q` and an end by an error satisfies `X`.  The rules below follow the
  program text, with one loop rule for `List.forM`.  `Crashes p s s'` is any number of runs of `p`,
  each cut at some effect, and `Holds.crashes` carries the crash condition through all of them.
-/
import Mathlib

namespace T2TouchId.Effects

/-- An alphabet `E` of effects on states `σ`: what each effect does. -/
class Effect (E : Type) (σ : outParam Type) where
  apply : E → σ → σ

section Programs

variable {E σ ε α β : Type}

/-- The state after a list of effects, oldest first. -/
def after [Effect E σ] (es : List E) (s : σ) : σ :=
  es.foldl (fun s e => Effect.apply e s) s

@[simp] theorem after_nil [Effect E σ] (s : σ) : after ([] : List E) s = s := rfl

@[simp] theorem after_cons [Effect E σ] (e : E) (es : List E) (s : σ) :
    after (e :: es) s = after es (Effect.apply e s) := rfl

@[simp] theorem after_append [Effect E σ] (es fs : List E) (s : σ) :
    after (es ++ fs) s = after fs (after es s) := List.foldl_append ..

/-- A program: from a state, the effects it issues and how it ends. -/
def Prog (E σ ε α : Type) : Type := σ → List E × Except ε α

namespace Prog

/-- The effects issued from `s`. -/
def trail (p : Prog E σ ε α) (s : σ) : List E := (p s).1

/-- How the run from `s` ends. -/
def result (p : Prog E σ ε α) (s : σ) : Except ε α := (p s).2

/-- The state a complete run from `s` leaves. -/
def final [Effect E σ] (p : Prog E σ ε α) (s : σ) : σ := after (p.trail s) s

/-- The state left by a crash after `k` effects. -/
def crashAt [Effect E σ] (p : Prog E σ ε α) (s : σ) (k : Nat) : σ :=
  after ((p.trail s).take k) s

instance [Effect E σ] : Monad (Prog E σ ε) where
  pure a := fun _ => ([], .ok a)
  bind p k := fun s =>
    match p s with
    | (es, .ok a) => (es ++ (k a (after es s)).1, (k a (after es s)).2)
    | (es, .error e) => (es, .error e)

/-- Stop with an error. -/
def raise (e : ε) : Prog E σ ε α := fun _ => ([], .error e)

/-- Read the state. -/
def look : Prog E σ ε σ := fun s => ([], .ok s)

/-- Issue one effect. -/
def emit (e : E) : Prog E σ ε Unit := fun _ => ([e], .ok ())

/-- Raise `e` when the condition holds. -/
def raiseIf [Effect E σ] (c : Prop) [Decidable c] (e : ε) : Prog E σ ε Unit :=
  if c then raise e else pure ()

/-- Run `p` when the condition holds. -/
def when [Effect E σ] (c : Prop) [Decidable c] (p : Prog E σ ε Unit) : Prog E σ ε Unit :=
  if c then p else pure ()

/-- Run a computation without effects. -/
def lift (r : Except ε α) : Prog E σ ε α := fun _ => ([], r)

end Prog

end Programs

/-! ## Which effects a program can issue

`Emits P p` bounds the effects of `p` whatever the state, and `Quiet p` says that there are none: a
check of the state.  The result of a quiet program is read off step by step (`Quiet.bind_ok_iff`,
`Quiet.forM_ok_iff`). -/

section Emits

variable {E σ ε α β : Type} {P : E → Prop}

/-- Every effect `p` ever issues satisfies `P`. -/
def Emits (P : E → Prop) (p : Prog E σ ε α) : Prop := ∀ s, ∀ e ∈ p.trail s, P e

/-- `p` only reads. -/
def Quiet (p : Prog E σ ε α) : Prop := Emits (fun _ => False) p

theorem Emits.raise (e : ε) : Emits P (Prog.raise e : Prog E σ ε α) := fun _ _ h => nomatch h

theorem Emits.look : Emits P (Prog.look : Prog E σ ε σ) := fun _ _ h => nomatch h

theorem Emits.lift (r : Except ε α) : Emits P (Prog.lift r : Prog E σ ε α) :=
  fun _ _ h => nomatch h

theorem Emits.emit {e : E} (h : P e) : Emits P (Prog.emit e : Prog E σ ε Unit) := by
  intro s e' he'
  rcases List.mem_singleton.mp he' with rfl
  exact h

theorem Quiet.trail {p : Prog E σ ε α} (h : Quiet p) (s : σ) : p.trail s = [] :=
  List.eq_nil_iff_forall_not_mem.mpr fun e he => h s e he

@[simp] theorem Prog.result_look (s : σ) : (Prog.look : Prog E σ ε σ).result s = .ok s := rfl

@[simp] theorem Prog.result_lift (r : Except ε α) (s : σ) :
    (Prog.lift r : Prog E σ ε α).result s = r := rfl

variable [Effect E σ]

theorem Prog.trail_bind (p : Prog E σ ε α) (k : α → Prog E σ ε β) (s : σ) :
    (p >>= k).trail s = p.trail s ++
      (match p.result s with
        | .ok a => (k a).trail (p.final s)
        | .error _ => []) := by
  rcases hp : p s with ⟨es, r | a⟩ <;>
    simp [Prog.trail, Prog.result, Prog.final, Bind.bind, hp]

theorem Prog.trail_prefix_bind (p : Prog E σ ε α) (k : α → Prog E σ ε β) (s : σ) :
    p.trail s <+: (p >>= k).trail s := by
  rw [Prog.trail_bind]
  exact List.prefix_append _ _

theorem Prog.result_bind (p : Prog E σ ε α) (k : α → Prog E σ ε β) (s : σ) :
    (p >>= k).result s =
      (match p.result s with
        | .ok a => (k a).result (p.final s)
        | .error e => .error e) := by
  rcases hp : p s with ⟨es, r | a⟩ <;>
    simp [Prog.trail, Prog.result, Prog.final, Bind.bind, hp]

theorem Emits.pure (a : α) : Emits P (Pure.pure a : Prog E σ ε α) := fun _ _ h => nomatch h

theorem Emits.raiseIf (c : Prop) [Decidable c] (e : ε) :
    Emits P (Prog.raiseIf c e : Prog E σ ε Unit) := by
  unfold Prog.raiseIf
  split
  · exact Emits.raise e
  · exact Emits.pure ()

theorem Emits.when {c : Prop} [Decidable c] {p : Prog E σ ε Unit} (hp : Emits P p) :
    Emits P (Prog.when c p) := by
  unfold Prog.when
  split
  · exact hp
  · exact Emits.pure ()

theorem Emits.bind {p : Prog E σ ε α} {k : α → Prog E σ ε β} (hp : Emits P p)
    (hk : ∀ a, Emits P (k a)) : Emits P (p >>= k) := by
  intro s e he
  rw [Prog.trail_bind, List.mem_append] at he
  rcases he with he | he
  · exact hp s e he
  · cases hr : p.result s with
    | ok a => rw [hr] at he; exact hk a _ e he
    | error _ => rw [hr] at he; exact nomatch he

theorem Emits.forM {f : α → Prog E σ ε PUnit} (hf : ∀ x, Emits P (f x)) (xs : List α) :
    Emits P (xs.forM f) := by
  induction xs with
  | nil => exact Emits.pure ()
  | cons x xs ih => exact Emits.bind (hf x) fun _ => ih

theorem Quiet.final {p : Prog E σ ε α} (h : Quiet p) (s : σ) : p.final s = s := by
  simp [Prog.final, h.trail s]

theorem Quiet.bind_ok_iff {p : Prog E σ ε α} (hp : Quiet p) {k : α → Prog E σ ε β} {s : σ}
    {b : β} : (p >>= k).result s = .ok b ↔ ∃ a, p.result s = .ok a ∧ (k a).result s = .ok b := by
  rw [Prog.result_bind, hp.final]
  cases p.result s <;> simp

/-- A check that passes leaves no trace. -/
theorem Quiet.trail_bind {p : Prog E σ ε α} (hp : Quiet p) {k : α → Prog E σ ε β} {s : σ} {a : α}
    (ha : p.result s = .ok a) : (p >>= k).trail s = (k a).trail s := by
  rw [Prog.trail_bind, ha, hp.trail, hp.final, List.nil_append]

theorem Prog.trail_emit_bind {e : E} {k : Unit → Prog E σ ε β} {s : σ} :
    (Prog.emit e >>= k).trail s = e :: (k ()).trail (Effect.apply e s) := rfl

theorem Quiet.forM_ok_iff {f : α → Prog E σ ε PUnit} (hf : ∀ x, Quiet (f x)) {xs : List α}
    {s : σ} : (xs.forM f).result s = .ok () ↔ ∀ x ∈ xs, (f x).result s = .ok () := by
  induction xs with
  | nil => simp [List.forM, Prog.result, Pure.pure]
  | cons x xs ih =>
    show (f x >>= fun _ => xs.forM f).result s = .ok () ↔ _
    rw [(hf x).bind_ok_iff, List.forall_mem_cons, ← ih]
    exact ⟨fun ⟨(), h⟩ => h, fun h => ⟨(), h⟩⟩

@[simp] theorem Prog.result_raiseIf_ok (c : Prop) [Decidable c] (e : ε) (s : σ) :
    (Prog.raiseIf c e : Prog E σ ε Unit).result s = .ok () ↔ ¬ c := by
  unfold Prog.raiseIf
  split <;> simp [*, Prog.raise, Prog.result, Pure.pure]

end Emits

/-! ## The judgement and its rules -/

section Judgement

variable {E σ ε α β : Type} [Effect E σ]

/-- Every crash state of `p` from `s` satisfies `I`; a normal end satisfies `Q`, an error `X`. -/
structure Holds (I : σ → Prop) (p : Prog E σ ε α) (s : σ) (Q : α → σ → Prop)
    (X : ε → σ → Prop) : Prop where
  crash : ∀ k, I (p.crashAt s k)
  ok : ∀ a, p.result s = .ok a → Q a (p.final s)
  error : ∀ e, p.result s = .error e → X e (p.final s)

variable {I : σ → Prop} {Q : α → σ → Prop} {X : ε → σ → Prop} {s : σ}

theorem Holds.start {p : Prog E σ ε α} (h : Holds I p s Q X) : I s := by
  simpa [Prog.crashAt] using h.crash 0

theorem Holds.end {p : Prog E σ ε α} (h : Holds I p s Q X) : I (p.final s) := by
  have := h.crash (p.trail s).length
  simpa [Prog.crashAt, Prog.final] using this

/-- A program whose errors are impossible returns. -/
theorem Holds.returns {p : Prog E σ ε α} (h : Holds I p s Q X) (hX : ∀ e s, ¬ X e s) :
    ∃ a, p.result s = .ok a := by
  cases hr : p.result s with
  | ok a => exact ⟨a, rfl⟩
  | error e => exact absurd (h.error e hr) (hX e _)

theorem Holds.mono {I' : σ → Prop} {Q' : α → σ → Prop} {X' : ε → σ → Prop} {p : Prog E σ ε α}
    (h : Holds I p s Q X) (hI : ∀ s, I s → I' s) (hQ : ∀ a s, Q a s → Q' a s)
    (hX : ∀ e s, X e s → X' e s) : Holds I' p s Q' X' where
  crash k := hI _ (h.crash k)
  ok a ha := hQ a _ (h.ok a ha)
  error e he := hX e _ (h.error e he)

theorem Holds.pure {a : α} (hI : I s) (hQ : Q a s) :
    Holds I (Pure.pure a : Prog E σ ε α) s Q X where
  crash k := by cases k <;> exact hI
  ok b hb := by cases hb; exact hQ
  error e he := by cases he

theorem Holds.raise {e : ε} (hI : I s) (hX : X e s) :
    Holds I (Prog.raise e : Prog E σ ε α) s Q X where
  crash k := by cases k <;> exact hI
  ok b hb := by cases hb
  error e he := by cases he; exact hX

theorem Holds.look {Q : σ → σ → Prop} (hI : I s) (hQ : Q s s) :
    Holds I (Prog.look : Prog E σ ε σ) s Q X where
  crash k := by cases k <;> exact hI
  ok b hb := by cases hb; exact hQ
  error e he := by cases he

theorem Holds.lift {r : Except ε α} (hI : I s) (hQ : ∀ a, r = .ok a → Q a s)
    (hX : ∀ e, r = .error e → X e s) : Holds I (Prog.lift r : Prog E σ ε α) s Q X where
  crash k := by cases k <;> exact hI
  ok b hb := hQ b hb
  error e he := hX e he

theorem Holds.emit {e : E} {Q : Unit → σ → Prop} (hI : I s) (hI' : I (Effect.apply e s))
    (hQ : Q () (Effect.apply e s)) : Holds I (Prog.emit e : Prog E σ ε Unit) s Q X where
  crash k := by cases k with
    | zero => exact hI
    | succ k => cases k <;> exact hI'
  ok b hb := by cases hb; exact hQ
  error e he := by cases he

theorem Holds.raiseIf {c : Prop} [Decidable c] {e : ε} {Q : Unit → σ → Prop} (hI : I s)
    (hQ : ¬ c → Q () s) (hX : c → X e s) :
    Holds I (Prog.raiseIf c e : Prog E σ ε Unit) s Q X := by
  unfold Prog.raiseIf
  split
  · exact Holds.raise hI (hX ‹_›)
  · exact Holds.pure hI (hQ ‹_›)

/-- Sequencing: the second program is judged from wherever the first one ends normally. -/
theorem Holds.bind {p : Prog E σ ε α} {k : α → Prog E σ ε β} {Q : β → σ → Prop}
    (h : Holds I p s (fun a s' => Holds I (k a) s' Q X) X) : Holds I (p >>= k) s Q X := by
  obtain ⟨hc, hok, herr⟩ := h
  rcases hp : p s with ⟨es, r⟩
  have htrail : p.trail s = es := by simp [Prog.trail, hp]
  cases r with
  | error e =>
    have hbind : (p >>= k) s = (es, .error e) := by simp [Bind.bind, hp]
    have hX : X e (p.final s) := herr e (by simp [Prog.result, hp])
    refine ⟨fun n => ?_, fun a ha => ?_, fun e' he => ?_⟩
    · have := hc n
      simpa [Prog.crashAt, Prog.trail, hbind, hp] using this
    · simp [Prog.result, hbind] at ha
    · simp only [Prog.result, hbind, Except.error.injEq] at he
      subst he
      simpa [Prog.final, Prog.trail, hbind, hp] using hX
  | ok a =>
    have hbind : (p >>= k) s =
        (es ++ (k a (after es s)).1, (k a (after es s)).2) := by simp [Bind.bind, hp]
    have hk : Holds I (k a) (after es s) Q X := by
      have := hok a (by simp [Prog.result, hp])
      simpa [Prog.final, htrail] using this
    have hfin : (p >>= k).final s = (k a).final (after es s) := by
      simp [Prog.final, Prog.trail, hbind]
    refine ⟨fun n => ?_, fun b hb => ?_, fun e' he => ?_⟩
    · -- the crash falls in the first program or in the second one
      rcases Nat.lt_or_ge n es.length with hn | hn
      · have := hc n
        simpa [Prog.crashAt, Prog.trail, hbind, hp, List.take_append_of_le_length (Nat.le_of_lt hn)]
          using this
      · have := hk.crash (n - es.length)
        simpa [Prog.crashAt, Prog.trail, hbind, List.take_append, List.take_of_length_le hn]
          using this
    · rw [hfin]; exact hk.ok b (by simpa [Prog.result, hbind] using hb)
    · rw [hfin]; exact hk.error e' (by simpa [Prog.result, hbind] using he)

theorem Holds.look_bind {k : σ → Prog E σ ε β} {Q : β → σ → Prop} (hI : I s)
    (h : Holds I (k s) s Q X) : Holds I (Prog.look >>= k) s Q X :=
  Holds.bind (Holds.look hI h)

theorem Holds.raiseIf_bind {c : Prop} [Decidable c] {e : ε} {k : Unit → Prog E σ ε β}
    {Q : β → σ → Prop} (hI : I s) (h : ¬ c → Holds I (k ()) s Q X) (hX : c → X e s) :
    Holds I (Prog.raiseIf c e >>= k) s Q X :=
  Holds.bind (Holds.raiseIf hI h hX)

theorem Holds.when {c : Prop} [Decidable c] {p : Prog E σ ε Unit} {Q : Unit → σ → Prop}
    (hI : I s) (hp : c → Holds I p s Q X) (hskip : ¬ c → Q () s) :
    Holds I (Prog.when c p) s Q X := by
  unfold Prog.when
  split
  · exact hp ‹_›
  · exact Holds.pure hI (hskip ‹_›)

theorem Holds.emit_bind {e : E} {k : Unit → Prog E σ ε β} {Q : β → σ → Prop} (hI : I s)
    (h : Holds I (k ()) (Effect.apply e s) Q X) : Holds I (Prog.emit e >>= k) s Q X :=
  Holds.bind (Holds.emit hI h.start h)

/-- A check of the state, then the rest from the same state. -/
theorem Holds.quiet_bind {p : Prog E σ ε α} {k : α → Prog E σ ε β} {Q : β → σ → Prop}
    (hp : Quiet p) (hI : I s) (hok : ∀ a, p.result s = .ok a → Holds I (k a) s Q X)
    (herr : ∀ e, p.result s = .error e → X e s) : Holds I (p >>= k) s Q X := by
  refine Holds.bind ⟨fun n => ?_, fun a ha => ?_, fun e he => ?_⟩
  · simpa [Prog.crashAt, hp.trail s] using hI
  · rw [hp.final]; exact hok a ha
  · rw [hp.final]; exact herr e he

/-- The loop rule: `J` relates the names still to visit to the state. -/
theorem Holds.forM {f : α → Prog E σ ε PUnit} (J : List α → σ → Prop)
    (hI : ∀ xs s, J xs s → I s)
    (hstep : ∀ x xs s, J (x :: xs) s → Holds I (f x) s (fun _ s' => J xs s') X) :
    ∀ xs s, J xs s → Holds I (xs.forM f) s (fun _ s' => J [] s') X := by
  intro xs
  induction xs with
  | nil =>
    intro s hJ
    exact Holds.pure (hI _ _ hJ) hJ
  | cons x xs ih =>
    intro s hJ
    exact Holds.bind ((hstep x xs s hJ).mono (fun _ h => h) (fun _ s' h => ih s' h) (fun _ _ h => h))

end Judgement

/-! ## Crashes, any number of them -/

section Crashes

variable {E σ ε α : Type} [Effect E σ]

/-- `s'` is left by some number of runs of `p` from `s`, each one cut at some effect. -/
inductive Crashes (p : Prog E σ ε α) : σ → σ → Prop
  | refl (s : σ) : Crashes p s s
  | step {s s' : σ} (k : Nat) : Crashes p (p.crashAt s k) s' → Crashes p s s'

/-- A condition that every crash state of `p` keeps is kept by any number of crashed runs. -/
theorem Crashes.invariant {p : Prog E σ ε α} {I : σ → Prop}
    (hI : ∀ s, I s → ∀ k, I (p.crashAt s k)) {s s' : σ} (h : Crashes p s s') : I s → I s' := by
  induction h with
  | refl s => exact fun hs => hs
  | step k _ ih => exact fun hs => ih (hI _ hs k)

end Crashes

end T2TouchId.Effects
