/-
  The daemon's view of the fingers (`src/t2_fprint_runtime.py`, and `public` of `src/t2_fprint_projection.py`).

  Problem: the collector counts the identities of an inventory that have no finger of their own, and the daemon tests the
  counts and the names anew.  A count that the one can print and the other refuses would leave a user without a finger
  to log in with.

  1. **Program** — `FprintProjection.public`, `parseProjection`, `listedFingers` and `resolveMatch`.
  2. **Specification** — `Consistent`: what the daemon tests of a projection.  `Resolves`: the finger that is matched.
  3. **The crux (`consistent_projectionOf`)** — the counts of any names pass the tests: an inventory holds no more
     identities than there are fingers, and those without a name of a finger and those with one twice are different ones.
  4. **Result** — `projection_agrees`: the daemon takes whatever the collector projects, and lists and matches the same
     fingers.
-/
import T2TouchId.Packets.Published

namespace T2TouchId.Packets.Broker

open T2TouchId.Python T2TouchId.Python.Json T2TouchId.Journal T2TouchId.User

section Program

variable {φ : Type}

/-! ## Program -/

def FprintProjection.public (projection : FprintProjection) : Value φ :=
  members
    [("compatibility_alias_required", .bool (!projection.complete)), ("complete", .bool projection.complete),
     ("duplicate_finger_name_count", .int projection.duplicateFingerNameCount),
     ("finger_names", .list (projection.fingerNames.map .str)),
     ("finger_names_are_presentation_metadata", .bool true), ("identifiers_redacted", .bool true),
     ("reconciled_identity_count", .int projection.reconciledIdentityCount), ("schema_version", .int 1),
     ("unassigned_identity_count", .int projection.unassignedIdentityCount)]

inductive RuntimeError
  /-- `FprintRuntimeError`. -/
  | runtime (message : String)
  | typeError
  deriving DecidableEq

structure RuntimeProjection where
  fingerNames : List PyStr
  reconciledIdentityCount : Int
  complete : Bool
  compatibilityAlias : PyStr

def RuntimeProjection.listedFingers (view : RuntimeProjection) : List PyStr :=
  if view.complete then view.fingerNames
  else if view.reconciledIdentityCount ≠ 0 then [view.compatibilityAlias]
  else []

structure MatchRequest where
  requestedFinger : PyStr
  targetFinger : Option PyStr
  matchAll : Bool
  compatibilityAliasUsed : Bool
  deriving DecidableEq

/-- `_integer`. -/
def integer (value : Value φ) (field : String) : Except RuntimeError Int := do
  raiseIf (¬ isIntIn 0 fingerNames.length value) (.runtime (field ++ " is invalid"))
  return intOf value

/-- `type(value) is str and value in FINGER_NAME_SET`. -/
def isFingerName : Value φ → Bool
  | .str name => name ∈ fingerNames
  | _ => false

/-- `expected_keys`. -/
def projectionKeys : List String :=
  ["compatibility_alias_required", "complete", "duplicate_finger_name_count", "finger_names",
   "finger_names_are_presentation_metadata", "identifiers_redacted", "reconciled_identity_count", "schema_version",
   "unassigned_identity_count"]

variable [JsonFloat φ]

def parseProjection (value compatibilityAlias : Value φ) : Except RuntimeError RuntimeProjection := do
  raiseIf (¬ hasKeys projectionKeys value) (.runtime "fprint projection has an invalid schema")
  -- the alias is looked for in a set before anything has said that it is a text
  raiseIf (¬ isHashable compatibilityAlias) .typeError
  raiseIf (¬ isFingerName compatibilityAlias) (.runtime "compatibility alias is invalid")
  let namesValue := value.get "finger_names"
  raiseIf (¬ isList namesValue ∨ ¬ (itemsOf namesValue).all isFingerName)
    (.runtime "fprint projection names are invalid")
  let names := (itemsOf namesValue).map strOf
  let identityCount ← integer (value.get "reconciled_identity_count") "reconciled identity count"
  let unassigned ← integer (value.get "unassigned_identity_count") "unassigned identity count"
  let duplicates ← integer (value.get "duplicate_finger_name_count") "duplicate finger count"
  let complete := value.get "complete"
  let aliasRequired := value.get "compatibility_alias_required"
  raiseIf (differ (value.get "schema_version") (.int 1) ∨ ¬ isBool complete ∨ ¬ isBool aliasRequired
      ∨ ¬ (value.get "finger_names_are_presentation_metadata").isTrue ∨ ¬ (value.get "identifiers_redacted").isTrue
      ∨ aliasRequired.isTrue = complete.isTrue)
    (.runtime "fprint projection flags are invalid")
  let canonicalOrder := fingerNames.filter (· ∈ names)
  if complete.isTrue then
    raiseIf (names ≠ canonicalOrder ∨ names.length ≠ names.dedup.length ∨ names.length ≠ identityCount
        ∨ unassigned ≠ 0 ∨ duplicates ≠ 0)
      (.runtime "complete fprint projection is inconsistent")
  else
    raiseIf (names ≠ [] ∨ unassigned > identityCount ∨ duplicates > identityCount - unassigned
        ∨ (unassigned = 0 ∧ duplicates = 0))
      (.runtime "incomplete fprint projection is inconsistent")
  return ⟨names, identityCount, complete.isTrue, strOf compatibilityAlias⟩

omit [JsonFloat φ] in
/-- `resolve_match`, of a view. -/
def resolveMatch (view : RuntimeProjection) : Value φ → Except RuntimeError MatchRequest
  | .str requestedFinger =>
    if requestedFinger = py "any" then do
      raiseIf (view.reconciledIdentityCount = 0) (.runtime "no fingerprints are enrolled")
      return ⟨py "any", none, true, false⟩
    else if view.complete then do
      raiseIf (requestedFinger ∉ view.fingerNames) (.runtime "requested finger is not enrolled")
      return ⟨requestedFinger, some requestedFinger, false, false⟩
    else do
      raiseIf (requestedFinger ≠ view.compatibilityAlias ∨ view.reconciledIdentityCount = 0)
        (.runtime "requested compatibility finger is unavailable")
      return ⟨requestedFinger, none, true, true⟩
  | _ => .error (.runtime "requested finger has the wrong type")

end Program

section Projection

variable {φ : Type}

/-! ## Specification -/

/-- What the daemon tests of a projection. -/
structure Consistent (projection : FprintProjection) : Prop where
  few : projection.reconciledIdentityCount ≤ fingerNames.length
  counted : projection.unassignedIdentityCount + projection.duplicateFingerNameCount ≤ projection.reconciledIdentityCount
  complete : projection.complete = true ↔
    projection.unassignedIdentityCount = 0 ∧ projection.duplicateFingerNameCount = 0
  ordered : projection.fingerNames = fingerNames.filter (· ∈ projection.fingerNames)
  named : projection.fingerNames.length = if projection.complete then projection.reconciledIdentityCount else 0

/-- The view of a projection. -/
def viewOf (projection : FprintProjection) (compatibilityAlias : PyStr) : RuntimeProjection :=
  ⟨projection.fingerNames, projection.reconciledIdentityCount, projection.complete, compatibilityAlias⟩

/-- The request that is made of a finger: `any`, where there are identities, or a finger that is listed. -/
inductive Resolves (view : RuntimeProjection) : Value φ → MatchRequest → Prop
  | any (h : view.reconciledIdentityCount ≠ 0) : Resolves view (.str (py "any")) ⟨py "any", none, true, false⟩
  | targeted {name : PyStr} (h : name ∈ view.listedFingers) (hcomplete : view.complete = true) :
      Resolves view (.str name) ⟨name, some name, false, false⟩
  | compatible {name : PyStr} (h : name ∈ view.listedFingers) (hcomplete : view.complete = false) :
      Resolves view (.str name) ⟨name, none, true, true⟩

/-! ## The parser -/

theorem integer_of {count : Nat} (h : count ≤ fingerNames.length) (field : String) :
    integer (.int count : Value φ) field = .ok (count : Int) := by
  have hin : isIntIn 0 fingerNames.length (.int count : Value φ) = true := by
    show (decide ((0 : Int) ≤ count) && decide ((count : Int) ≤ fingerNames.length)) = true
    rw [decide_eq_true (by omega), decide_eq_true (by omega)]
    rfl
  exact raiseIf_ok.mpr ⟨not_not.mpr hin, rfl⟩

theorem strOf_str (names : List PyStr) : (names.map (.str : PyStr → Value φ)).map strOf = names := by
  rw [List.map_map]
  exact List.map_id names

/-- Names in the order of the fingers are of fingers, and each is there once. -/
theorem Consistent.fingers {projection : FprintProjection} (h : Consistent projection) :
    projection.fingerNames.Nodup ∧ ∀ name ∈ projection.fingerNames, name ∈ fingerNames := by
  rw [h.ordered]
  exact ⟨fingerNames_nodup.filter _, fun name hname => (List.mem_filter.mp hname).1⟩

variable [JsonFloat φ]

/-- **The daemon takes a projection** that is consistent. -/
theorem parseProjection_public {projection : FprintProjection} (h : Consistent projection) {compatibilityAlias : PyStr}
    (halias : compatibilityAlias ∈ fingerNames) :
    parseProjection (projection.public : Value φ) (.str compatibilityAlias) = .ok (viewOf projection compatibilityAlias) := by
  have hget : ∀ name, (projection.public : Value φ).get name = _ := fun name => get_members name _
  have hnames : (projection.public : Value φ).get "finger_names" = .list (projection.fingerNames.map .str) := hget _
  have hcount : (projection.public : Value φ).get "reconciled_identity_count" =
    .int projection.reconciledIdentityCount := hget _
  have hunassigned : (projection.public : Value φ).get "unassigned_identity_count" =
    .int projection.unassignedIdentityCount := hget _
  have hduplicates : (projection.public : Value φ).get "duplicate_finger_name_count" =
    .int projection.duplicateFingerNameCount := hget _
  have hcomplete : (projection.public : Value φ).get "complete" = .bool projection.complete := hget _
  have hrequired : (projection.public : Value φ).get "compatibility_alias_required" =
    .bool (!projection.complete) := hget _
  have hversion : (projection.public : Value φ).get "schema_version" = .int 1 := hget _
  have hmetadata : (projection.public : Value φ).get "finger_names_are_presentation_metadata" = .bool true := hget _
  have hredacted : (projection.public : Value φ).get "identifiers_redacted" = .bool true := hget _
  have hfew := h.few
  have hcounted := h.counted
  refine raiseIf_ok.mpr ⟨not_not.mpr (hasKeys_members rfl), raiseIf_ok.mpr ⟨not_not.mpr rfl, raiseIf_ok.mpr
    ⟨not_not.mpr (decide_eq_true halias), ?_⟩⟩⟩
  rw [hnames, hcount, hunassigned, hduplicates, hcomplete, hrequired, hversion, hmetadata, hredacted]
  refine raiseIf_ok.mpr ⟨?_, bind_eq_ok.mpr ⟨_, integer_of hfew _, bind_eq_ok.mpr ⟨_, integer_of (by omega) _,
    bind_eq_ok.mpr ⟨_, integer_of (by omega) _, raiseIf_ok.mpr ⟨?_, ?_⟩⟩⟩⟩⟩
  · rintro (hlist | hall)
    · exact hlist rfl
    · refine hall (List.all_eq_true.mpr fun item hitem => ?_)
      obtain ⟨name, hname, rfl⟩ := List.mem_map.mp hitem
      exact decide_eq_true (h.fingers.2 name hname)
  · rintro (hversion | hbool | hbool | hmetadata | hredacted | hrequired)
    · exact nomatch hversion
    · exact hbool rfl
    · exact hbool rfl
    · exact hmetadata rfl
    · exact hredacted rfl
    · cases hflag : projection.complete <;> rw [hflag] at hrequired <;> exact nomatch hrequired
  · show (if projection.complete = true then _ else _) = _
    have hitems : (itemsOf (.list (projection.fingerNames.map .str) : Value φ)).map strOf = projection.fingerNames :=
      strOf_str projection.fingerNames
    have hnamed := h.named
    have hzero := h.complete
    rw [hitems]
    cases hflag : projection.complete with
    | true =>
      rw [hflag, if_pos rfl] at hnamed
      obtain ⟨hunassigned, hduplicates⟩ := hzero.mp hflag
      rw [if_pos rfl]
      refine raiseIf_ok.mpr ⟨?_, ?_⟩
      · rintro (horder | honce | hlength | hother | hother)
        · exact horder h.ordered
        · rw [List.dedup_eq_self.mpr h.fingers.1] at honce
          exact honce rfl
        · exact hlength (congrArg _ hnamed)
        · omega
        · omega
      · rw [viewOf, hflag]
        rfl
    | false =>
      rw [hflag, if_neg Bool.false_ne_true, List.length_eq_zero_iff] at hnamed
      rw [if_neg Bool.false_ne_true]
      refine raiseIf_ok.mpr ⟨?_, ?_⟩
      · rintro (hother | hother | hother | hother)
        · exact hother hnamed
        · omega
        · omega
        · refine Bool.false_ne_true (hflag.symm.trans (hzero.mpr ?_))
          omega
      · rw [viewOf, hflag]
        rfl

/-! ## The projection -/

theorem consistent_projectionOf {names : List PyStr} (hfew : names.length ≤ fingerNames.length) :
    Consistent (projectionOf names) where
  few := hfew
  counted := by
    -- the names that are there twice are among those that are of fingers
    have hrecognized : (names.filter (· ∈ fingerNames)).length ≤ names.length := List.length_filter_le _ _
    show names.length - (names.filter (· ∈ fingerNames)).length + ((names.filter (· ∈ fingerNames)).length -
      (names.filter (· ∈ fingerNames)).dedup.length) ≤ names.length
    omega
  complete := decide_eq_true_iff
  ordered := by
    by_cases hown : OwnFingers names
    · rw [projectionOf_own hown]
      refine List.filter_congr fun name hname => decide_eq_decide.mpr ?_
      rw [List.mem_filter, decide_eq_true_iff, and_iff_right hname]
    · rw [projectionOf_other hown]
      exact (List.filter_eq_nil_iff.mpr fun name _ => by simp).symm
  named := by
    by_cases hown : OwnFingers names
    · rw [projectionOf_own hown, if_pos (projectionOf_complete.mpr hown)]
      exact (perm_fingers hown).length_eq
    · rw [projectionOf_other hown, if_neg (mt projectionOf_complete.mp hown)]
      rfl

omit [JsonFloat φ] in
theorem length_parsePublicIdentities {records : List (Value φ)} : ∀ {slot : Nat} {identities : List (PublicIdentity φ)},
    parsePublicIdentities slot records = .ok identities → identities.length = records.length := by
  induction records with
  | nil =>
    rintro slot _ ⟨⟩
    rfl
  | cons record records ih =>
    intro slot identities h
    rw [parsePublicIdentities] at h
    obtain ⟨identity, -, h⟩ := bind_ok h
    obtain ⟨rest, hrest, h⟩ := bind_ok h
    cases h
    exact congrArg (· + 1) (ih hrest)

/-- There are no more identities than fingers. -/
theorem few_of_parse {value : Value φ} {inventory : PublicIdentityInventory φ}
    (h : parsePublicInventory value = .ok inventory) : (namesOf inventory).length ≤ fingerNames.length := by
  obtain ⟨-, h⟩ := raiseIf_ok.mp h
  obtain ⟨hfields, h⟩ := raiseIf_ok.mp h
  obtain ⟨identities, hidentities, h⟩ := bind_ok h
  obtain ⟨-, h⟩ := raiseIf_ok.mp h
  cases h
  obtain ⟨-, hfields⟩ := not_or.mp hfields
  obtain ⟨hcount, hfields⟩ := not_or.mp hfields
  obtain ⟨-, hfields⟩ := not_or.mp hfields
  obtain ⟨hlength, -⟩ := not_or.mp hfields
  have hrecords := length_parsePublicIdentities hidentities
  rw [namesOf, List.length_map]
  show identities.length ≤ 10
  cases hvalue : value.get "identity_count" with
  | int count =>
    rw [hvalue] at hcount hlength
    obtain ⟨-, hhigh⟩ := Bool.and_eq_true_iff.mp (not_not.mp hcount)
    have hhigh : count ≤ 10 := of_decide_eq_true hhigh
    have hsame : ((itemsOf (value.get "identities")).length : Int) = count := not_not.mp hlength
    omega
  | _ =>
    rw [hvalue] at hcount
    exact absurd (fun h => by cases h) hcount

/-! ## The match -/

omit [JsonFloat φ] in
/-- **What is matched**, where `any` is not the name of a finger. -/
theorem resolveMatch_ok {view : RuntimeProjection} (hany : py "any" ∉ view.listedFingers) {finger : Value φ}
    {request : MatchRequest} : resolveMatch view finger = .ok request ↔ Resolves view finger request := by
  constructor
  · intro h
    cases finger with
    | str name =>
      rw [resolveMatch] at h
      by_cases hname : name = py "any"
      · rw [if_pos hname] at h
        obtain ⟨hcount, h⟩ := raiseIf_ok.mp h
        cases h
        rw [hname]
        exact .any hcount
      rw [if_neg hname] at h
      cases hcomplete : view.complete with
      | true =>
        rw [if_pos hcomplete] at h
        obtain ⟨hlisted, h⟩ := raiseIf_ok.mp h
        cases h
        refine .targeted ?_ hcomplete
        rw [RuntimeProjection.listedFingers, if_pos hcomplete]
        exact not_not.mp hlisted
      | false =>
        rw [hcomplete, if_neg Bool.false_ne_true] at h
        obtain ⟨hlisted, h⟩ := raiseIf_ok.mp h
        cases h
        obtain ⟨halias, hcount⟩ := not_or.mp hlisted
        refine .compatible ?_ hcomplete
        rw [RuntimeProjection.listedFingers, hcomplete, if_neg Bool.false_ne_true, if_pos hcount]
        exact List.mem_singleton.mpr (not_not.mp halias)
    | _ => exact nomatch h
  · intro h
    cases h with
    | any hcount =>
      rw [resolveMatch, if_pos rfl]
      exact raiseIf_ok.mpr ⟨hcount, rfl⟩
    | targeted hlisted hcomplete =>
      have hname : _ ≠ py "any" := ne_of_mem_of_not_mem hlisted hany
      rw [RuntimeProjection.listedFingers, if_pos hcomplete] at hlisted
      rw [resolveMatch, if_neg hname, if_pos hcomplete]
      exact raiseIf_ok.mpr ⟨not_not.mpr hlisted, rfl⟩
    | compatible hlisted hcomplete =>
      have hname : _ ≠ py "any" := ne_of_mem_of_not_mem hlisted hany
      rw [RuntimeProjection.listedFingers, hcomplete, if_neg Bool.false_ne_true] at hlisted
      by_cases hcount : view.reconciledIdentityCount ≠ 0
      · rw [if_pos hcount, List.mem_singleton] at hlisted
        rw [resolveMatch, if_neg hname, hcomplete, if_neg Bool.false_ne_true]
        exact raiseIf_ok.mpr ⟨not_or.mpr ⟨not_not.mpr hlisted, hcount⟩, rfl⟩
      · rw [if_neg hcount] at hlisted
        exact nomatch hlisted

/-! ## Result -/

/-- The fingers that a view lists can be asked for by name. -/
theorem any_not_listed {projection : FprintProjection} (h : Consistent projection) {compatibilityAlias : PyStr}
    (halias : compatibilityAlias ∈ fingerNames) : py "any" ∉ (viewOf projection compatibilityAlias).listedFingers := by
  have hany : py "any" ∉ fingerNames := by decide
  intro hlisted
  refine hany ?_
  rw [RuntimeProjection.listedFingers] at hlisted
  split_ifs at hlisted with hcomplete hcount
  · exact h.fingers.2 _ hlisted
  · rw [List.mem_singleton.mp hlisted]
    exact halias
  · exact nomatch hlisted

/-- Where there is an identity, a finger is listed. -/
theorem listedFingers_ne_nil {projection : FprintProjection} (h : Consistent projection) {compatibilityAlias : PyStr}
    (hcount : projection.reconciledIdentityCount ≠ 0) : (viewOf projection compatibilityAlias).listedFingers ≠ [] := by
  have hnamed := h.named
  rw [RuntimeProjection.listedFingers]
  split_ifs with hcomplete hnone
  · have hcomplete : projection.complete = true := hcomplete
    rw [if_pos hcomplete] at hnamed
    refine List.ne_nil_of_length_pos ?_
    show 0 < projection.fingerNames.length
    omega
  · exact List.cons_ne_nil _ _
  · exact absurd (not_not.mp hnone) (Int.natCast_ne_zero.mpr hcount)

/-- **The collector and the daemon agree**: whatever is projected is taken, with the names, the count and the
    completeness of the projection.  The names are those of the inventory, in the order of the fingers, where each
    identity has a finger of its own, and there are none elsewhere; what can be matched is `any`, where there are
    identities, and each finger that is listed; and some finger is listed where there are identities. -/
theorem projection_agrees {value : Value φ} {projection : FprintProjection} (hproject : project value = .ok projection)
    {compatibilityAlias : PyStr} (halias : compatibilityAlias ∈ fingerNames) :
    ∃ inventory view, parsePublicInventory value = .ok inventory ∧
      parseProjection (projection.public : Value φ) (.str compatibilityAlias) = .ok view ∧
      view.fingerNames = projection.fingerNames ∧
      view.reconciledIdentityCount = projection.reconciledIdentityCount ∧
      view.complete = projection.complete ∧
      view.reconciledIdentityCount = (namesOf inventory).length ∧
      (view.complete = true ↔ OwnFingers (namesOf inventory)) ∧
      (OwnFingers (namesOf inventory) →
        view.fingerNames = fingerNames.filter (· ∈ namesOf inventory) ∧ view.fingerNames.Perm (namesOf inventory)) ∧
      (¬ OwnFingers (namesOf inventory) → view.fingerNames = []) ∧
      view.fingerNames.Nodup ∧
      (∀ (finger : Value φ) request, resolveMatch view finger = .ok request ↔ Resolves view finger request) ∧
      (view.reconciledIdentityCount ≠ 0 → view.listedFingers ≠ []) := by
  obtain ⟨inventory, hinventory, rfl⟩ := project_ok.mp hproject
  have hconsistent : Consistent (projectionOf (namesOf inventory)) := consistent_projectionOf (few_of_parse hinventory)
  refine ⟨inventory, viewOf (projectionOf (namesOf inventory)) compatibilityAlias, hinventory,
    parseProjection_public hconsistent halias, rfl, rfl, rfl, rfl, projectionOf_complete, fun hown => ?_,
    projectionOf_other, hconsistent.fingers.1, fun finger request => resolveMatch_ok (any_not_listed hconsistent halias),
    fun hcount => listedFingers_ne_nil hconsistent (Int.natCast_ne_zero.mp hcount)⟩
  have hnames : (viewOf (projectionOf (namesOf inventory)) compatibilityAlias).fingerNames =
      fingerNames.filter (· ∈ namesOf inventory) := projectionOf_own hown
  rw [hnames]
  exact ⟨rfl, perm_fingers hown⟩

end Projection

/-! ## A sample -/

/-- An inventory of these names. -/
def samplePublished (names : List String) : Value Unit :=
  let record := fun e : String × Nat => (⟨.int e.2, .str (py e.1), .bool true⟩ : PublicIdentity Unit)
  (⟨(names.zipIdx 1).map record, .bool true, .str (py "current-reconciled-list"), .bool true, .bool true⟩ :
    PublicIdentityInventory Unit).public

/-- The right thumb was enrolled in front of the left. -/
theorem projection_agrees_sample : ∃ projection view, project (samplePublished ["right-thumb", "left-thumb"]) = .ok projection ∧
    parseProjection (projection.public : Value Unit) (.str (py "right-index-finger")) = .ok view ∧
    view.fingerNames = [py "left-thumb", py "right-thumb"] ∧
    resolveMatch view (.str (py "left-thumb") : Value Unit) = .ok ⟨py "left-thumb", some (py "left-thumb"), false, false⟩ := by
  have hproject : project (samplePublished ["right-thumb", "left-thumb"]) =
      .ok ⟨[py "left-thumb", py "right-thumb"], 2, 0, 0, true⟩ := by rfl
  obtain ⟨inventory, view, -, hview, hnames, -, hcomplete, -, -, -, -, -, hresolves, -⟩ :=
    projection_agrees hproject (by decide : py "right-index-finger" ∈ fingerNames)
  refine ⟨_, view, hproject, hview, hnames, (hresolves _ _).mpr (.targeted ?_ hcomplete)⟩
  rw [RuntimeProjection.listedFingers, if_pos hcomplete, hnames]
  exact List.mem_cons_self

end T2TouchId.Packets.Broker
