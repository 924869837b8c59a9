/-
  Walks of directed graphs.

  A depth-first walk puts a node down when it is through with all that the node points at, so the nodes lie in an order
  in which every one points at those behind it only.

  1. **Orders** — `Topological`: no node comes twice, and what a node points at is behind it.
  2. **The crux (`not_transGen`)** — such a list is closed, and has no cycle.
  3. **Weights** — `outside`: what the nodes below a bound weigh that are not on a list; a node that is put on the list
     takes its weight away.
-/
import Mathlib

namespace T2TouchId.Graph

open Relation

section Orders

variable {α : Type} {r : α → α → Prop}

/-! ## Orders -/

inductive Topological (r : α → α → Prop) : List α → Prop
  | nil : Topological r []
  | cons {a : α} {order : List α} (hnew : a ∉ order) (hbehind : ∀ b, r a b → b ∈ order) (h : Topological r order) :
      Topological r (a :: order)

/-- What a node points at is on the list, too, … -/
theorem Topological.mem_of {order : List α} (h : Topological r order) {a b : α} (ha : a ∈ order) (hab : r a b) :
    b ∈ order := by
  induction h with
  | nil => exact nomatch ha
  | cons hnew hbehind h ih =>
    rcases List.mem_cons.mp ha with rfl | ha
    · exact List.mem_cons_of_mem _ (hbehind b hab)
    · exact List.mem_cons_of_mem _ (ih ha)

/-- … and so is all that can be reached from it. -/
theorem Topological.closed {order : List α} (h : Topological r order) {a b : α} (ha : a ∈ order)
    (hab : ReflTransGen r a b) : b ∈ order := by
  induction hab with
  | refl => exact ha
  | tail _ hbc ih => exact h.mem_of ih hbc

/-- **There is no cycle** on the list. -/
theorem Topological.not_transGen {order : List α} (h : Topological r order) {a : α} (ha : a ∈ order) :
    ¬ TransGen r a a := by
  induction h with
  | nil => exact nomatch ha
  | cons hnew hbehind h ih =>
    rcases List.mem_cons.mp ha with rfl | ha
    · -- the first step leads behind the node, and no other leads back
      intro hcycle
      obtain ⟨b, hab, hba⟩ := TransGen.head'_iff.mp hcycle
      exact hnew (h.closed (hbehind b hab) hba)
    · exact ih ha

end Orders

/-! ## Weights -/

section Weights

variable (weight : Nat → Nat) (bound : Nat)

/-- What is not on the list. -/
def outside (path : List Nat) : Nat := ∑ i ∈ (Finset.range bound).filter (· ∉ path), weight i

theorem outside_nil : outside weight bound [] = ∑ i ∈ Finset.range bound, weight i := by
  rw [outside, Finset.filter_true_of_mem fun _ _ => List.not_mem_nil]

/-- A node takes its weight away. -/
theorem outside_cons {path : List Nat} {i : Nat} (hi : i < bound) (hpath : i ∉ path) :
    weight i + outside weight bound (i :: path) = outside weight bound path := by
  have hinsert : (Finset.range bound).filter (· ∉ path) = insert i ((Finset.range bound).filter (· ∉ i :: path)) := by
    ext j
    simp only [Finset.mem_filter, Finset.mem_range, Finset.mem_insert, List.mem_cons, not_or]
    constructor
    · rintro ⟨hj, hnot⟩
      by_cases hij : j = i
      · exact .inl hij
      · exact .inr ⟨hj, hij, hnot⟩
    · rintro (rfl | ⟨hj, -, hnot⟩)
      · exact ⟨hi, hpath⟩
      · exact ⟨hj, hnot⟩
  have hnot : i ∉ (Finset.range bound).filter (· ∉ i :: path) := by
    intro hmem
    exact (Finset.mem_filter.mp hmem).2 List.mem_cons_self
  rw [outside, outside, hinsert, Finset.sum_insert hnot]

end Weights

end T2TouchId.Graph
