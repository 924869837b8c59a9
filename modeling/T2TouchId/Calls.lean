/-
  Programs that call out, and what they may rely on.

  A program asks for one thing after the other (a command, a write, an event) and goes on with each
  reply.  Nothing is said of who replies: a test, a device, a scheduler with other programs.

  1. **Data** — `Proc`: the tree of questions and replies.  `Op`: a program with variables that survive an
     exception, and an end that is a value, an exception, or a cut (the loop went on for longer than
     one looks).
  2. **Runs** — `Runs p log p'`: after the exchanges of `log` the program `p` has come to `p'`.  A crash is
     a run that goes no further.
  3. **Contracts** — a `Contract` has a state of its own, says in each state what may be asked and what may
     be replied, and how an exchange moves it.  `Proc.Meets` is the judgement, `Op.Meets` has one
     postcondition for values and one for exceptions, with a rule for each construction of a program.
  4. **Result** — `Proc.Meets.runs`: what is left of a program after a run meets the contract in the state
     that the run leads to, as long as the replies were allowed.
  5. **Logs** — `logged` allows everything and remembers it: what every run comes to under it holds of the log,
     whoever replies (`Op.Ends.played`).  A `session` is one call after the other.
-/
import Mathlib

namespace T2TouchId.Calls

/-! ## Programs -/

/-- A program is done, or asks `q` and goes on with the reply. -/
inductive Proc (Q : Type) (R : Q → Type) (α : Type)
  | done (a : α)
  | ask (q : Q) (k : R q → Proc Q R α)

/-- One question with its reply. -/
structure Exchange (Q : Type) (R : Q → Type) where
  asked : Q
  reply : R asked

/-- How a block ends. -/
inductive Outcome (ε α : Type)
  | returned (a : α)
  | raised (e : ε)
  /-- A loop was followed for as many rounds as one looks, and goes on. -/
  | cut

section Programs

variable {Q : Type} {R : Q → Type} {S ε α β : Type}

def Proc.bind : Proc Q R α → (α → Proc Q R β) → Proc Q R β
  | .done a, f => f a
  | .ask q k, f => .ask q fun r => (k r).bind f

/-- A block with the variables `S`. -/
def Op (Q : Type) (R : Q → Type) (S ε α : Type) : Type := S → Proc Q R (Outcome ε α × S)

namespace Op

instance : Monad (Op Q R S ε) where
  pure a := fun s => .done (.returned a, s)
  bind p f := fun s => (p s).bind fun
    | (.returned a, s) => f a s
    | (.raised e, s) => .done (.raised e, s)
    | (.cut, s) => .done (.cut, s)

def raise (e : ε) : Op Q R S ε α := fun s => .done (.raised e, s)

/-- Nobody looks further. -/
def cut : Op Q R S ε α := fun s => .done (.cut, s)

/-- One question. -/
def ask (q : Q) : Op Q R S ε (R q) := fun s => .ask q fun r => .done (.returned r, s)

def get : Op Q R S ε S := fun s => .done (.returned s, s)

def set (s : S) : Op Q R S ε Unit := fun _ => .done (.returned (), s)

/-- A computation that asks for nothing. -/
def lift : Except ε α → Op Q R S ε α
  | .ok a => pure a
  | .error e => raise e

/-- `try: … except BaseException as e: …`. -/
def except (p : Op Q R S ε α) (handler : ε → Op Q R S ε α) : Op Q R S ε α := fun s =>
  (p s).bind fun
    | (.raised e, s) => handler e s
    | (outcome, s) => .done (outcome, s)

/-- `try: … finally: …`, where the last block sets variables. -/
def ensuring (p : Op Q R S ε α) (last : S → S) : Op Q R S ε α := fun s =>
  (p s).bind fun (outcome, s) => .done (outcome, last s)

/-- `with … as …`: the block, and on every way out of it the last call. -/
def leaving (p : Op Q R S ε α) (last : Op Q R S ε Unit) : Op Q R S ε α := fun s =>
  (p s).bind fun
    | (.cut, s) => .done (.cut, s)
    | (outcome, s) => (last s).bind fun
      | (.returned _, s) => .done (outcome, s)
      | (.raised e, s) => .done (.raised e, s)
      | (.cut, s) => .done (.cut, s)

end Op

/-! ## Runs -/

/-- The exchanges of the log lead from one program to what is left of it. -/
inductive Proc.Runs : Proc Q R α → List (Exchange Q R) → Proc Q R α → Prop
  | here (p : Proc Q R α) : Runs p [] p
  | ask {q : Q} {k : R q → Proc Q R α} {r : R q} {log : List (Exchange Q R)} {p : Proc Q R α} :
      Runs (k r) log p → Runs (.ask q k) (⟨q, r⟩ :: log) p

theorem Proc.Runs.bind {p p' : Proc Q R α} {log : List (Exchange Q R)} (h : p.Runs log p')
    (f : α → Proc Q R β) : (p.bind f).Runs log (p'.bind f) := by
  induction h with
  | here p => exact .here _
  | ask hrest ih => exact .ask ih

theorem Proc.Runs.trans {p p' p'' : Proc Q R α} {log log' : List (Exchange Q R)} (h : p.Runs log p')
    (h' : p'.Runs log' p'') : p.Runs (log ++ log') p'' := by
  induction h with
  | here p => exact h'
  | ask hrest ih => exact .ask (ih h')

/-- A block that returned, and the next one. -/
theorem Op.runs_bind {p : Op Q R S ε α} {f : α → Op Q R S ε β} {s s' : S} {a : α}
    {log log' all : List (Exchange Q R)} {rest : Proc Q R (Outcome ε β × S)}
    (h : (p s).Runs log (.done (.returned a, s'))) (hf : (f a s').Runs log' rest) (hall : all = log ++ log') :
    ((p >>= f) s).Runs all rest :=
  hall ▸ (h.bind _).trans hf

theorem Op.runs_lift {r : Except ε α} {a : α} (h : r = .ok a) (s : S) :
    (Op.lift r s : Proc Q R _).Runs [] (.done (.returned a, s)) :=
  h ▸ .here _

end Programs

/-! ## Contracts -/

/-- What may be asked and replied in each state, and where an exchange leads. -/
structure Contract (Q : Type) (R : Q → Type) (G : Type) where
  allows : G → Q → Prop
  replies : G → (q : Q) → R q → Prop
  next : G → (q : Q) → R q → G

section Contracts

variable {Q : Type} {R : Q → Type} {G S ε α β : Type} {c : Contract Q R G}

/-- Every question is allowed where it is asked, and the end is as it should be. -/
def Proc.Meets (c : Contract Q R G) (post : α → G → Prop) : Proc Q R α → G → Prop
  | .done a, g => post a g
  | .ask q k, g => c.allows g q ∧ ∀ r, c.replies g q r → (k r).Meets c post (c.next g q r)

/-- The state behind some exchanges. -/
def Contract.after (c : Contract Q R G) (g : G) (log : List (Exchange Q R)) : G :=
  log.foldl (fun g e => c.next g e.asked e.reply) g

/-- All replies were allowed. -/
def Contract.Obeyed (c : Contract Q R G) : G → List (Exchange Q R) → Prop
  | _, [] => True
  | g, e :: log => c.replies g e.asked e.reply ∧ c.Obeyed (c.next g e.asked e.reply) log

theorem Proc.Meets.mono {post post' : α → G → Prop} {p : Proc Q R α} {g : G} (h : p.Meets c post g)
    (hpost : ∀ a g, post a g → post' a g) : p.Meets c post' g := by
  induction p generalizing g with
  | done a => exact hpost a g h
  | ask q k ih => exact ⟨h.1, fun r hr => ih r (h.2 r hr)⟩

theorem Proc.Meets.bind {post : β → G → Prop} {p : Proc Q R α} {f : α → Proc Q R β} {g : G}
    (h : p.Meets c (fun a g => (f a).Meets c post g) g) : (p.bind f).Meets c post g := by
  induction p generalizing g with
  | done a => exact h
  | ask q k ih => exact ⟨h.1, fun r hr => ih r (h.2 r hr)⟩

/-- **The run lemma**: what is left of a program keeps to the contract. -/
theorem Proc.Meets.runs {post : α → G → Prop} {p p' : Proc Q R α} {log : List (Exchange Q R)}
    (hrun : p.Runs log p') : ∀ {g : G}, p.Meets c post g → c.Obeyed g log →
      p'.Meets c post (c.after g log) := by
  induction hrun with
  | here p => exact fun h _ => h
  | ask hrest ih => exact fun h hobeyed => ih (h.2 _ hobeyed.1) hobeyed.2

/-- Every question of a run was allowed where it was asked. -/
theorem Proc.Meets.asks {post : α → G → Prop} {p p' : Proc Q R α} {log : List (Exchange Q R)}
    (hrun : p.Runs log p') : ∀ {g : G}, p.Meets c post g → c.Obeyed g log →
      ∀ before e later, log = before ++ e :: later → c.allows (c.after g before) e.asked := by
  induction hrun with
  | here p =>
    intro g _ _ before e later hlog
    exact absurd hlog (by simp)
  | ask hrest ih =>
    intro g h hobeyed before e later hlog
    cases before with
    | nil =>
      obtain ⟨rfl, -⟩ := List.cons_eq_cons.mp hlog
      exact h.1
    | cons first before =>
      obtain ⟨rfl, hrest⟩ := List.cons_eq_cons.mp hlog
      exact ih (h.2 _ hobeyed.1) hobeyed.2 before e later hrest

/-- Every question is allowed; `ok` behind a value, `err` behind an exception, `whenCut` where nobody looks further. -/
def Op.Ends (whenCut : Prop) (c : Contract Q R G) (p : Op Q R S ε α) (s : S) (g : G) (ok : α → S → G → Prop)
    (err : ε → S → G → Prop) : Prop :=
  (p s).Meets c (fun
    | (.returned a, s), g => ok a s g
    | (.raised e, s), g => err e s g
    | (.cut, _), _ => whenCut) g

/-- The same for a program that may be cut. -/
def Op.Meets (c : Contract Q R G) (p : Op Q R S ε α) (s : S) (g : G) (ok : α → S → G → Prop)
    (err : ε → S → G → Prop) : Prop :=
  Op.Ends True c p s g ok err

namespace Op

variable {s : S} {g : G} {ok : α → S → G → Prop} {err : ε → S → G → Prop} {whenCut : Prop}

theorem Ends.mono {p : Op Q R S ε α} {ok' : α → S → G → Prop} {err' : ε → S → G → Prop}
    (h : Ends whenCut c p s g ok err) (hok : ∀ a s g, ok a s g → ok' a s g)
    (herr : ∀ e s g, err e s g → err' e s g) : Ends whenCut c p s g ok' err' := by
  refine Proc.Meets.mono h fun (outcome, s) g => ?_
  cases outcome with
  | returned a => exact hok a s g
  | raised e => exact herr e s g
  | cut => exact id

theorem Ends.pure {a : α} (h : ok a s g) : Ends whenCut c (Pure.pure a : Op Q R S ε α) s g ok err := h

theorem Ends.raise {e : ε} (h : err e s g) : Ends whenCut c (Op.raise e : Op Q R S ε α) s g ok err := h

theorem Ends.bind {p : Op Q R S ε α} {f : α → Op Q R S ε β} {ok : β → S → G → Prop}
    (h : Ends whenCut c p s g (fun a s g => Ends whenCut c (f a) s g ok err) err) :
    Ends whenCut c (p >>= f) s g ok err := by
  refine Proc.Meets.bind (Proc.Meets.mono h fun (outcome, s) g => ?_)
  cases outcome <;> exact id

/-- One block after the other, with what holds between them. -/
theorem Ends.seq {p : Op Q R S ε α} {f : α → Op Q R S ε β} {ok : β → S → G → Prop}
    {M : α → S → G → Prop} (h : Ends whenCut c p s g M err)
    (hf : ∀ a s g, M a s g → Ends whenCut c (f a) s g ok err) : Ends whenCut c (p >>= f) s g ok err :=
  .bind (h.mono hf fun _ _ _ => id)

/-- A question, and the rest for every reply that is allowed. -/
theorem Ends.ask {q : Q} {ok : R q → S → G → Prop} (hallows : c.allows g q)
    (h : ∀ r, c.replies g q r → ok r s (c.next g q r)) :
    Ends whenCut c (Op.ask q : Op Q R S ε (R q)) s g ok err :=
  ⟨hallows, h⟩

theorem Ends.get {ok : S → S → G → Prop} (h : ok s s g) :
    Ends whenCut c (Op.get : Op Q R S ε S) s g ok err := h

theorem Ends.set {s' : S} {ok : Unit → S → G → Prop} (h : ok () s' g) :
    Ends whenCut c (Op.set s' : Op Q R S ε Unit) s g ok err := h

theorem Ends.lift {r : Except ε α} (hok : ∀ a, r = .ok a → ok a s g)
    (herr : ∀ e, r = .error e → err e s g) : Ends whenCut c (Op.lift r : Op Q R S ε α) s g ok err := by
  cases r with
  | ok a => exact hok a rfl
  | error e => exact herr e rfl

/-- The handler is judged from wherever an exception ends the block. -/
theorem Ends.except {p : Op Q R S ε α} {handler : ε → Op Q R S ε α}
    (h : Ends whenCut c p s g ok fun e s g => Ends whenCut c (handler e) s g ok err) :
    Ends whenCut c (p.except handler) s g ok err := by
  refine Proc.Meets.bind (Proc.Meets.mono h fun (outcome, s) g => ?_)
  cases outcome <;> exact id

theorem Meets.mono {p : Op Q R S ε α} {ok' : α → S → G → Prop} {err' : ε → S → G → Prop}
    (h : Meets c p s g ok err) (hok : ∀ a s g, ok a s g → ok' a s g)
    (herr : ∀ e s g, err e s g → err' e s g) : Meets c p s g ok' err' :=
  Ends.mono h hok herr

theorem Meets.pure {a : α} (h : ok a s g) : Meets c (Pure.pure a : Op Q R S ε α) s g ok err := h

theorem Meets.raise {e : ε} (h : err e s g) : Meets c (Op.raise e : Op Q R S ε α) s g ok err := h

theorem Meets.cut : Meets c (Op.cut : Op Q R S ε α) s g ok err := trivial

theorem Meets.bind {p : Op Q R S ε α} {f : α → Op Q R S ε β} {ok : β → S → G → Prop}
    (h : Meets c p s g (fun a s g => Meets c (f a) s g ok err) err) :
    Meets c (p >>= f) s g ok err :=
  Ends.bind h

/-- One block after the other, with what holds between them. -/
theorem Meets.seq {p : Op Q R S ε α} {f : α → Op Q R S ε β} {ok : β → S → G → Prop}
    {M : α → S → G → Prop} (h : Meets c p s g M err)
    (hf : ∀ a s g, M a s g → Meets c (f a) s g ok err) : Meets c (p >>= f) s g ok err :=
  Ends.seq h hf

/-- A question, and the rest for every reply that is allowed. -/
theorem Meets.ask {q : Q} {ok : R q → S → G → Prop} (hallows : c.allows g q)
    (h : ∀ r, c.replies g q r → ok r s (c.next g q r)) :
    Meets c (Op.ask q : Op Q R S ε (R q)) s g ok err :=
  Ends.ask hallows h

theorem Meets.get {ok : S → S → G → Prop} (h : ok s s g) :
    Meets c (Op.get : Op Q R S ε S) s g ok err := h

theorem Meets.set {s' : S} {ok : Unit → S → G → Prop} (h : ok () s' g) :
    Meets c (Op.set s' : Op Q R S ε Unit) s g ok err := h

theorem Meets.lift {r : Except ε α} (hok : ∀ a, r = .ok a → ok a s g)
    (herr : ∀ e, r = .error e → err e s g) : Meets c (Op.lift r : Op Q R S ε α) s g ok err :=
  Ends.lift hok herr

/-- The handler is judged from wherever an exception ends the block. -/
theorem Meets.except {p : Op Q R S ε α} {handler : ε → Op Q R S ε α}
    (h : Meets c p s g ok fun e s g => Meets c (handler e) s g ok err) :
    Meets c (p.except handler) s g ok err :=
  Ends.except h

/-- The last block is run however the first one ends. -/
theorem Meets.ensuring {p : Op Q R S ε α} {last : S → S}
    (h : Meets c p s g (fun a s g => ok a (last s) g) fun e s g => err e (last s) g) :
    Meets c (p.ensuring last) s g ok err := by
  refine Proc.Meets.bind (Proc.Meets.mono h fun (outcome, s) g => ?_)
  cases outcome <;> exact id

/-- The last call is judged from wherever the block ends. -/
theorem Meets.leaving {p : Op Q R S ε α} {last : Op Q R S ε Unit}
    (h : Meets c p s g (fun a s g => Meets c last s g (fun _ s g => ok a s g) err)
      fun e s g => Meets c last s g (fun _ s g => err e s g) err) :
    Meets c (p.leaving last) s g ok err := by
  refine Proc.Meets.bind (Proc.Meets.mono h fun (outcome, s) g => ?_)
  cases outcome with
  | returned a =>
    refine fun hlast => Proc.Meets.bind (Proc.Meets.mono hlast fun (ended, s) g => ?_)
    cases ended <;> exact id
  | raised e =>
    refine fun hlast => Proc.Meets.bind (Proc.Meets.mono hlast fun (ended, s) g => ?_)
    cases ended <;> exact id
  | cut => exact id

end Op

end Contracts

/-! ## Logs -/

section Logs

variable {Q : Type} {R : Q → Type} {S ε α β : Type}

/-- Everything is allowed, and the state is the log. -/
def logged : Contract Q R (List (Exchange Q R)) where
  allows _ _ := True
  replies _ _ _ := True
  next log q r := log ++ [⟨q, r⟩]

theorem after_logged (log more : List (Exchange Q R)) : logged.after log more = log ++ more := by
  induction more generalizing log with
  | nil => exact (List.append_nil log).symm
  | cons e more ih =>
    have h := ih (log ++ [e])
    rw [List.append_assoc] at h
    exact h

theorem obeyed_logged (log more : List (Exchange Q R)) : logged.Obeyed log more := by
  induction more generalizing log with
  | nil => trivial
  | cons e more ih => exact ⟨trivial, ih _⟩

/-- A run to the end, with somebody who replies to each question and knows what came before. -/
def Proc.play (replier : List (Exchange Q R) → (q : Q) → R q) (log : List (Exchange Q R)) :
    Proc Q R α → List (Exchange Q R) × α
  | .done a => (log, a)
  | .ask q k => (k (replier log q)).play replier (log ++ [⟨q, replier log q⟩])

/-- It is a run. -/
theorem Proc.runs_play (replier : List (Exchange Q R) → (q : Q) → R q) (p : Proc Q R α)
    (log : List (Exchange Q R)) :
    ∃ more, (p.play replier log).1 = log ++ more ∧ p.Runs more (.done (p.play replier log).2) := by
  induction p generalizing log with
  | done a => exact ⟨[], (List.append_nil log).symm, .here _⟩
  | ask q k ih =>
    obtain ⟨more, hmore, hruns⟩ := ih (replier log q) (log ++ [⟨q, replier log q⟩])
    refine ⟨⟨q, replier log q⟩ :: more, ?_, .ask hruns⟩
    show ((k (replier log q)).play replier (log ++ [⟨q, replier log q⟩])).1 = _
    rw [hmore, List.append_assoc]
    rfl

/-- **What a program meets** holds of its log, whoever replies. -/
theorem Proc.Meets.play {post : α → List (Exchange Q R) → Prop} {p : Proc Q R α} {log : List (Exchange Q R)}
    (h : p.Meets logged post log) (replier : List (Exchange Q R) → (q : Q) → R q) :
    post (p.play replier log).2 (p.play replier log).1 := by
  obtain ⟨more, hmore, hruns⟩ := p.runs_play replier log
  have hend := Proc.Meets.runs hruns h (obeyed_logged log more)
  rw [after_logged, ← hmore] at hend
  exact hend

/-- Under `logged` every run comes to a value or to an exception. -/
abbrev Op.Logged (p : Op Q R S ε α) (s : S) (log : List (Exchange Q R)) (ok : α → S → List (Exchange Q R) → Prop)
    (err : ε → S → List (Exchange Q R) → Prop) : Prop :=
  Op.Ends False logged p s log ok err

theorem Op.Ends.asked {whenCut : Prop} {q : Q} {s : S} {log : List (Exchange Q R)}
    {ok : R q → S → List (Exchange Q R) → Prop} {err : ε → S → List (Exchange Q R) → Prop}
    (h : ∀ r, ok r s (log ++ [⟨q, r⟩])) : Ends whenCut logged (Op.ask q) s log ok err :=
  .ask trivial fun r _ => h r

/-- What every run comes to, and so the one with this replier. -/
theorem Op.Ends.played {p : Op Q R S ε α} {s : S} {log : List (Exchange Q R)}
    {ok : α → S → List (Exchange Q R) → Prop} {err : ε → S → List (Exchange Q R) → Prop}
    (h : p.Logged s log ok err) (replier : List (Exchange Q R) → (q : Q) → R q) :
    (∃ a, ((p s).play replier log).2.1 = .returned a ∧
      ok a ((p s).play replier log).2.2 ((p s).play replier log).1) ∨
    ∃ e, ((p s).play replier log).2.1 = .raised e ∧
      err e ((p s).play replier log).2.2 ((p s).play replier log).1 := by
  have hend := Proc.Meets.play h replier
  generalize (p s).play replier log = run at hend ⊢
  obtain ⟨log', outcome, s'⟩ := run
  cases outcome with
  | returned a => exact .inl ⟨a, rfl, hend⟩
  | raised e => exact .inr ⟨e, rfl, hend⟩
  | cut => exact hend.elim

end Logs

/-! ## Sessions -/

section Sessions

variable {Q : Type} {R : Q → Type} {G S C ε ε' α : Type} {c : Contract Q R G} {whenCut : Prop}

/-- The caller looks at how the call ended. -/
def Op.attempt (p : Op Q R S ε α) : Op Q R S ε' (Except ε α) := fun s =>
  (p s).bind fun
    | (.returned a, s) => .done (.returned (.ok a), s)
    | (.raised e, s) => .done (.returned (.error e), s)
    | (.cut, s) => .done (.cut, s)

theorem Op.Ends.attempt {p : Op Q R S ε α} {s : S} {g : G} {ok : Except ε α → S → G → Prop}
    {err : ε' → S → G → Prop}
    (h : Ends whenCut c p s g (fun a s g => ok (.ok a) s g) fun e s g => ok (.error e) s g) :
    Ends whenCut c p.attempt s g ok err := by
  refine Proc.Meets.bind (Proc.Meets.mono h fun (outcome, s) g => ?_)
  cases outcome <;> exact id

/-- One call after the other, by a caller that goes on whatever a call raised. -/
def Op.session (perform : C → Op Q R S ε α) : List C → Op Q R S ε' (List (Except ε α))
  | [] => pure []
  | call :: calls => do
    let answer ← (perform call).attempt
    let answers ← session perform calls
    return answer :: answers

/-- **What one call keeps**, with its answer behind the others, a session keeps. -/
theorem Op.Ends.session {perform : C → Op Q R S ε α} {I : List (Except ε α) → S → G → Prop}
    (hstep : ∀ call answers s g, I answers s g → Ends whenCut c (perform call) s g
      (fun a s g => I (answers ++ [.ok a]) s g) fun e s g => I (answers ++ [.error e]) s g)
    (calls : List C) {s : S} {g : G} (h : I [] s g) :
    Ends whenCut c (Op.session perform calls : Op Q R S ε' _) s g (fun answers s g => I answers s g)
      fun _ _ _ => False := by
  -- the calls that are left, behind those that were answered
  suffices hrest : ∀ answers s g, I answers s g → Ends whenCut c
      (Op.session perform calls : Op Q R S ε' _) s g (fun more s g => I (answers ++ more) s g)
      fun _ _ _ => False from hrest [] s g h
  induction calls with
  | nil =>
    intro answers s g h
    exact .pure (by rwa [List.append_nil])
  | cons call calls ih =>
    intro answers s g h
    refine .bind (.attempt ((hstep call answers s g h).mono ?_ ?_))
    · intro a s g h
      refine .seq (ih _ s g h) fun more s g hmore => .pure ?_
      rwa [List.append_assoc] at hmore
    · intro e s g h
      refine .seq (ih _ s g h) fun more s g hmore => .pure ?_
      rwa [List.append_assoc] at hmore

end Sessions

end T2TouchId.Calls
