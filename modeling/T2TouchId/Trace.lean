/-
  Logs, and the folds that read them.

  A machine that may refuse reads a log entry by entry.  What holds of it is said of the log (what stands
  before what) and proved of the machine's state (what it remembers).

  1. **Data** — `Every P`: each entry of a log is in order behind the entries before it.
  2. **Rules** — `every_concat`: a log grows at its end.  `foldlM_induction`: what the empty log has and
     every further entry keeps, every log that was read has.  `OneWay.closed_iff`: what was told is told
     for ever, but for the entries that take it back.
-/
import Mathlib

namespace T2TouchId

section Trace

variable {α ε S : Type}

/-- Each entry satisfies `P` with the entries before it. -/
def Every (P : List α → α → Prop) (log : List α) : Prop :=
  ∀ before entry after, log = before ++ entry :: after → P before entry

theorem every_nil (P : List α → α → Prop) : Every P [] := by
  intro before entry after h
  have hlength := congrArg List.length h
  rw [List.length_append, List.length_cons, List.length_nil] at hlength
  omega

/-- **One more entry** is looked at with all of the log before it. -/
theorem every_concat {P : List α → α → Prop} {log : List α} {last : α} :
    Every P (log ++ [last]) ↔ Every P log ∧ P log last := by
  constructor
  · intro h
    refine ⟨fun before entry after hlog => ?_, h log last [] rfl⟩
    exact h before entry (after ++ [last]) (by rw [hlog]; simp)
  · rintro ⟨hlog, hlast⟩ before entry after h
    rcases List.eq_nil_or_concat' after with rfl | ⟨after, final, rfl⟩
    · obtain ⟨rfl, hentry⟩ := List.append_inj' h rfl
      rw [← List.cons_eq_cons.mp hentry |>.1]
      exact hlast
    · rw [← List.cons_append, ← List.append_assoc] at h
      exact hlog before entry after (List.append_inj' h rfl).1

theorem Every.mono {P Q : List α → α → Prop} {log : List α}
    (h : ∀ before entry, P before entry → Q before entry) (hlog : Every P log) : Every Q log :=
  fun before entry after hsplit => h before entry (hlog before entry after hsplit)

/-- Entries that are in order behind anything. -/
theorem every_of_all {P : List α → α → Prop} {log : List α} (h : ∀ entry ∈ log, ∀ before, P before entry) :
    Every P log := by
  rintro before entry after rfl
  exact h entry (List.mem_append_right _ (List.mem_cons_self ..)) before

/-- One entry among such entries. -/
theorem every_of_one {P : List α → α → Prop} {front back : List α} {entry : α}
    (hothers : ∀ other ∈ front ++ back, ∀ before, P before other) (hentry : P front entry) :
    Every P (front ++ entry :: back) := by
  have hfront : Every P front := every_of_all fun other hother => hothers other (List.mem_append_left _ hother)
  induction back using List.reverseRecOn with
  | nil => exact every_concat.mpr ⟨hfront, hentry⟩
  | append_singleton back last ih =>
    have hlast : last ∈ front ++ (back ++ [last]) := List.mem_append_right _ (List.mem_append_right _ (by simp))
    rw [show front ++ entry :: (back ++ [last]) = front ++ entry :: back ++ [last] by simp]
    refine every_concat.mpr ⟨ih fun other hother => hothers other ?_, hothers last hlast _⟩
    rcases List.mem_append.mp hother with hother | hother
    · exact List.mem_append_left _ hother
    · exact List.mem_append_right _ (List.mem_append_left _ hother)

/-- A beginning of a log that is in order. -/
theorem Every.front {P : List α → α → Prop} {log rest : List α} (h : Every P (log ++ rest)) :
    Every P log :=
  fun before entry after hsplit => h before entry (after ++ rest) (by rw [hsplit]; simp)

/-- An entry inside a log that was read. -/
theorem foldlM_split_ok {step : S → α → Except ε S} {start state : S} {before after : List α}
    {entry : α} (h : (before ++ entry :: after).foldlM step start = .ok state) :
    ∃ earlier later, before.foldlM step start = .ok earlier ∧ step earlier entry = .ok later ∧
      after.foldlM step later = .ok state := by
  rw [List.foldlM_append] at h
  cases hbefore : before.foldlM step start with
  | error e =>
    rw [hbefore] at h
    exact nomatch h
  | ok earlier =>
    rw [hbefore] at h
    have h : (step earlier entry >>= fun later => after.foldlM step later) = .ok state := h
    cases hentry : step earlier entry with
    | error e =>
      rw [hentry] at h
      exact nomatch h
    | ok later =>
      rw [hentry] at h
      exact ⟨earlier, later, rfl, hentry, h⟩

/-- The last entry that was read. -/
theorem foldlM_concat_ok {step : S → α → Except ε S} {start state : S} {log : List α} {last : α}
    (h : (log ++ [last]).foldlM step start = .ok state) :
    ∃ earlier, log.foldlM step start = .ok earlier ∧ step earlier last = .ok state := by
  obtain ⟨earlier, later, hlog, hlast, hnil⟩ := foldlM_split_ok h
  cases hnil
  exact ⟨earlier, hlog, hlast⟩

/-- **Every log that was read** has what the empty one has and each further entry keeps. -/
theorem foldlM_induction {step : S → α → Except ε S} {start : S} {P : List α → S → Prop}
    (hstart : P [] start)
    (hstep : ∀ log state last state', log.foldlM step start = .ok state → P log state →
      step state last = .ok state' → P (log ++ [last]) state')
    (log : List α) : ∀ state, log.foldlM step start = .ok state → P log state := by
  induction log using List.reverseRecOn with
  | nil =>
    intro state h
    cases h
    exact hstart
  | append_singleton log last ih =>
    intro state h
    obtain ⟨earlier, hearlier, hlast⟩ := foldlM_concat_ok h
    exact hstep log earlier last state hearlier (ih earlier hearlier) hlast

/-! ## Evidence that one kind of entry takes back -/

/-- A machine in which something that was told puts it beyond a point, and only one kind of entry leads
    back, to where nothing follows. -/
structure OneWay (step : S → α → Except ε S) (inv : S → Prop) (tells takesBack : α → Prop)
    (beyond closed : S → Prop) : Prop where
  inv_step : ∀ s a s', inv s → step s a = .ok s' → inv s'
  told : ∀ s a s', inv s → step s a = .ok s' → tells a → beyond s'
  stays : ∀ s a s', inv s → beyond s → step s a = .ok s' → ¬ takesBack a → beyond s'
  closes : ∀ s a s', step s a = .ok s' → takesBack a → closed s'
  final : ∀ s a s', closed s → step s a ≠ .ok s'
  apart : ∀ s, beyond s → ¬ closed s

/-- **Taken back or not**: once it was told, the machine is closed exactly where an entry has taken it
    back. -/
theorem OneWay.closed_iff {step : S → α → Except ε S} {inv : S → Prop} {tells takesBack : α → Prop}
    {beyond closed : S → Prop} (h : OneWay step inv tells takesBack beyond closed) {start : S}
    (hstart : inv start) (log : List α) (state : S) (hrun : log.foldlM step start = .ok state)
    (htold : ∃ a ∈ log, tells a) : closed state ↔ ∃ a ∈ log, takesBack a := by
  have hinvariant := @foldlM_induction _ _ _ step start (fun log state =>
      inv state ∧ ((∃ a ∈ log, takesBack a) → closed state) ∧
        ((∃ a ∈ log, tells a) → beyond state ∨ ∃ a ∈ log, takesBack a))
    ⟨hstart, nofun, nofun⟩ (fun log s a s' _ ih hstep => ?_) log state hrun
  · obtain ⟨-, hclosed, hbeyond⟩ := hinvariant
    refine ⟨fun hc => (hbeyond htold).resolve_left fun hb => h.apart _ hb hc, hclosed⟩
  · obtain ⟨hinv, hclosed, hbeyond⟩ := ih
    -- nothing follows what was taken back
    have hnot : ¬ ∃ a ∈ log, takesBack a := fun hold => h.final s a s' (hclosed hold) hstep
    refine ⟨h.inv_step s a s' hinv hstep, fun ⟨b, hb, hback⟩ => ?_, fun ⟨b, hb, htells⟩ => ?_⟩
    · rcases List.mem_append.mp hb with hold | hlast
      · exact absurd ⟨b, hold, hback⟩ hnot
      · rw [List.mem_singleton.mp hlast] at hback
        exact h.closes s a s' hstep hback
    · by_cases hback : takesBack a
      · exact .inr ⟨a, by simp, hback⟩
      · rcases List.mem_append.mp hb with hold | hlast
        · have hs := (hbeyond ⟨b, hold, htells⟩).resolve_right hnot
          exact .inl (h.stays s a s' hinv hs hstep hback)
        · rw [List.mem_singleton.mp hlast] at htells
          exact .inl (h.told s a s' hinv hstep htells)

end Trace

end T2TouchId
