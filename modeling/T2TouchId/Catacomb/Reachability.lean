/-
  The three copies of the walk (`validateReachability`, `requireComponentReachability`, `Graph._reachable`).

  Problem: the codec walks the objects of a user component and of the other components in code of its own each, the
  other reader in a third.  Does each come to an end, take exactly the graphs that are as they should be, and say the
  same as the other two?

  1. **Verdict** — a reader takes a graph, refuses it with its own error, or has no room left on the stack.
  2. **One walk (`verdicts_eq`)** — each copy's verdict is that of the walk (`reachesAll`).
  3. **Result** — `reachability_exact`: with room for what the top and the objects nest (`callsNeeded`), all three end,
     and take exactly what is `Sound`.
-/
import T2TouchId.Catacomb.Oracle
import T2TouchId.Python.Reachability

namespace T2TouchId.Catacomb

open T2TouchId.Python
open Codec (CodecError)
open Oracle (ReadError)

/-! ## Verdict -/

/-- What a reader says of a graph. -/
inductive Verdict
  | accepted
  /-- It raises its own error. -/
  | refused
  /-- It raises `RecursionError`. -/
  | unfinished
  deriving DecidableEq

def codecVerdict : Except CodecError Unit → Verdict
  | .ok _ => .accepted
  | .error (.codec _) => .refused
  | .error _ => .unfinished

def oracleVerdict : Except ReadError Unit → Verdict
  | .ok _ => .accepted
  | .error (.oracle _) => .refused
  | .error _ => .unfinished

def walkVerdict : Except WalkError Bool → Verdict
  | .ok all => if all then .accepted else .refused
  | .error .recursion => .unfinished
  | .error _ => .refused

theorem walkVerdict_accepted {answer : Except WalkError Bool} : walkVerdict answer = .accepted ↔ answer = .ok true := by
  rcases answer with (_ | _ | _) | (_ | _) <;> simp [walkVerdict]

theorem walkVerdict_unfinished {answer : Except WalkError Bool} :
    walkVerdict answer = .unfinished ↔ answer = .error .recursion := by
  rcases answer with (_ | _ | _) | (_ | _) <;> simp [walkVerdict]

section Copies

variable {φ ρ : Type} (node : ρ → Node φ ρ) (objects : List ρ) (room : Nat) (top : Node φ ρ)

/-- What the user reader of the codec says, its component reader, and the other reader. -/
def verdicts : List Verdict :=
  [codecVerdict (Codec.validateReachability node objects room top),
   codecVerdict (Codec.requireComponentReachability node room objects top),
   oracleVerdict (Oracle.reachable node ⟨top, objects⟩ room)]

/-! ## One walk -/

theorem validateReachability_verdict :
    codecVerdict (Codec.validateReachability node objects room top) = walkVerdict (reachesAll node objects room top) := by
  rw [Codec.validateReachability]
  rcases reachesAll node objects room top with (_ | _ | _) | (_ | _) <;> rfl

theorem requireComponentReachability_verdict :
    codecVerdict (Codec.requireComponentReachability node room objects top) =
      walkVerdict (reachesAll node objects room top) := by
  rw [Codec.requireComponentReachability]
  rcases reachesAll node objects room top with (_ | _ | _) | (_ | _) <;> rfl

theorem reachable_verdict :
    oracleVerdict (Oracle.reachable node ⟨top, objects⟩ room) = walkVerdict (reachesAll node objects room top) := by
  rw [Oracle.reachable]
  rcases reachesAll node objects room top with (_ | _ | _) | (_ | _) <;> rfl

/-- **The copies say the same**: what the walk says. -/
theorem verdicts_eq : verdicts node objects room top = List.replicate 3 (walkVerdict (reachesAll node objects room top)) := by
  rw [verdicts, validateReachability_verdict, requireComponentReachability_verdict, reachable_verdict]
  rfl

end Copies

/-! ## The result -/

section Trees

variable {φ : Type}

/-- The null of an archive holds nothing. -/
theorem not_contains_null {objects : List (Plist φ)}
    (hnull : (objects.head?.any fun first => first.node.isStr (py "$null")) = true) (data : Nat) :
    ¬ Contains Plist.node objects 0 data := by
  rintro ⟨object, hobject, hholds⟩
  rw [List.head?_eq_getElem?, hobject, Option.any_some] at hnull
  cases object with
  | str => exact nomatch hholds
  | _ => exact nomatch hnull

/-- **Reachability**, for every table of objects and every top dictionary that are trees.  Whatever the room, the three
    copies say the same.  With the room that the nesting needs each one ends, and accepts exactly a graph in which every
    `UID` that can be reached is in range, no object that can be reached is inside of itself, and every object can be
    reached.  Nothing looks into object 0; behind the callers' test that it is the null, that makes no difference. -/
theorem reachability_exact (objects : List (Plist φ)) (items : List (Key φ × Plist φ)) :
    (∀ room, ∃ verdict, verdicts Plist.node objects room (.dict items) = [verdict, verdict, verdict]) ∧
    (∀ room, callsNeeded objects (.dict items) ≤ room →
      ∀ verdict ∈ verdicts Plist.node objects room (.dict items), verdict ≠ .unfinished ∧
        (verdict = .accepted ↔ Sound Plist.node objects (.dict items))) ∧
    ((objects.head?.any fun first => first.node.isStr (py "$null")) = true →
      Links Plist.node objects = Contains Plist.node objects) := by
  refine ⟨fun room => ⟨_, verdicts_eq Plist.node objects room (.dict items)⟩, ?_,
    fun hnull => links_eq_contains (not_contains_null hnull)⟩
  intro room hroom verdict hverdict
  rw [verdicts_eq] at hverdict
  obtain rfl := List.eq_of_mem_replicate hverdict
  have hends : reachesAll Plist.node objects room (.dict items) ≠ .error .recursion := reachesAll_room hroom
  constructor
  · rw [Ne, walkVerdict_unfinished]
    exact hends
  · rw [walkVerdict_accepted]
    exact reachesAll_sound hends

/-- Two lists share a third; or they hold one another. -/
example :
    let null : Plist Int := .str (py "$null")
    let top : Node Int (Plist Int) := .dict [(.str [], .list [.uid 1, .uid 2])]
    verdicts Plist.node [null, .list [.uid 3], .list [.uid 3], .list []] 7 top = [.accepted, .accepted, .accepted] ∧
      verdicts Plist.node [null, .list [.uid 2], .list [.uid 1]] 7 top = [.refused, .refused, .refused] := by decide

end Trees

end T2TouchId.Catacomb
