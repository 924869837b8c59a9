/-
  The laws of the edits of a user component.

  1. **Lists** — the one entry of a table that has a property, taken by its key.
  2. **The edit of a model (`run_eq`)** — an edit looks at nothing of a component but its model: it tests the model,
     and saves what the edit makes of it.
  3. **What was saved (`save_ok`)** — is read back as it was.
  4. **Laws of `Edit.apply`** — `apply_delete_add`, and `apply_comm` for edits of two identities in either order.
  5. **Result** — `edit_laws`.  `edit_laws_fails`: two additions do not commute.
-/
import T2TouchId.Catacomb.Edits
import T2TouchId.Catacomb.Validated

set_option linter.unusedSectionVars false

namespace T2TouchId.Catacomb

open T2TouchId.Python T2TouchId.User
open Codec (Identity UserCatacomb Model Edit EditError Moment Names)

/-! ## Lists -/

section Lists

variable {κ α : Type} [DecidableEq κ] {p : α → Prop} [DecidablePred p] {entries : List (κ × α)} {e : κ × α}

/-- The one entry that has the property, and those in front of it and behind it. -/
theorem entries_split (hone : entries.filter (fun e => p e.2) = [e]) :
    ∃ before behind, entries = before ++ e :: behind ∧ (∀ other ∈ before, ¬ p other.2) ∧ p e.2 ∧
      ∀ other ∈ behind, ¬ p other.2 := by
  obtain ⟨before, behind, hsplit, hbefore, he, hbehind⟩ := List.filter_eq_cons_iff.mp hone
  refine ⟨before, behind, hsplit, fun other hother hp => hbefore other hother (decide_eq_true hp),
    of_decide_eq_true he, fun other hother hp => ?_⟩
  exact List.filter_eq_nil_iff.mp hbehind other hother (decide_eq_true hp)

/-- No other entry has the key of this one. -/
theorem key_unique {before behind : List (κ × α)} (hnodup : ((before ++ e :: behind).map Prod.fst).Nodup) :
    (∀ other ∈ before, other.1 ≠ e.1) ∧ ∀ other ∈ behind, other.1 ≠ e.1 := by
  rw [List.map_append, List.map_cons] at hnodup
  obtain ⟨-, hbehind, hbefore⟩ := List.nodup_append.mp hnodup
  constructor
  · intro other hother
    exact hbefore _ (List.mem_map_of_mem hother) _ (List.mem_cons_self ..)
  · intro other hother heq
    exact (List.nodup_cons.mp hbehind).1 (heq ▸ List.mem_map_of_mem hother)

/-- The change of the one item that has the property, at the index of its key. -/
theorem modify_idxOf (f : α → α) (hnodup : (entries.map Prod.fst).Nodup)
    (hone : entries.filter (fun e => p e.2) = [e]) :
    (entries.map Prod.snd).modify ((entries.map Prod.fst).idxOf e.1) f =
      (entries.map Prod.snd).map fun item => if p item then f item else item := by
  obtain ⟨before, behind, rfl, hbefore, he, hbehind⟩ := entries_split hone
  have hindex : ((before ++ e :: behind).map Prod.fst).idxOf e.1 = (before.map Prod.snd).length := by
    rw [List.map_append, List.map_cons, List.idxOf_append_of_notMem, List.idxOf_cons_self, List.length_map,
      List.length_map, Nat.add_zero]
    intro hmem
    obtain ⟨other, hother, heq⟩ := List.mem_map.mp hmem
    exact (key_unique hnodup).1 other hother heq
  have hother : ∀ others : List (κ × α), (∀ other ∈ others, ¬ p other.2) →
      (others.map Prod.snd).map (fun item => if p item then f item else item) = others.map Prod.snd := by
    intro others hothers
    rw [List.map_map]
    exact List.map_congr_left fun other hother => if_neg (hothers other hother)
  rw [hindex, List.map_append, List.map_cons, List.modify_eq_take_drop, List.take_left, List.drop_left,
    List.modifyHead_cons, List.map_append, List.map_cons, hother before hbefore, hother behind hbehind, if_pos he]

/-- The items without the one that has the property, told by its key. -/
theorem filter_ne_key (hnodup : (entries.map Prod.fst).Nodup) (hone : entries.filter (fun e => p e.2) = [e]) :
    (entries.filter fun other => other.1 ≠ e.1).map Prod.snd = (entries.map Prod.snd).filter fun item => ¬ p item := by
  obtain ⟨before, behind, rfl, hbefore, he, hbehind⟩ := entries_split hone
  obtain ⟨hbeforeKeys, hbehindKeys⟩ := key_unique hnodup
  have hother : ∀ others : List (κ × α), (∀ other ∈ others, ¬ p other.2) → (∀ other ∈ others, other.1 ≠ e.1) →
      (others.filter fun other => other.1 ≠ e.1).map Prod.snd =
        (others.map Prod.snd).filter fun item => ¬ p item := by
    intro others hothers hkeys
    rw [List.filter_eq_self.mpr fun other hother => decide_eq_true (hkeys other hother), eq_comm]
    refine List.filter_eq_self.mpr fun item hitem => ?_
    obtain ⟨other, hother, rfl⟩ := List.mem_map.mp hitem
    exact decide_eq_true (hothers other hother)
  have hkey : decide (e.1 ≠ e.1) = false := decide_eq_false fun h => h rfl
  have hitem : decide (¬ p e.2) = false := decide_eq_false fun h => h he
  rw [List.filter_append, List.filter_cons, hkey, List.map_append, List.map_append, List.map_cons, List.filter_append,
    List.filter_cons, hitem, hother before hbefore hbeforeKeys]
  exact congrArg _ (hother behind hbehind hbehindKeys)

end Lists

/-! ## The edit of a model -/

section Run

variable {φ ρ : Type} [PlistFloat φ] [DecidableEq φ] {node : ρ → Node φ ρ} {loads : Bytes → Option ρ} {room : Nat}
  {dumps : Plist φ → Bytes}

/-- What is written, and what it is compared with, is of the model. -/
theorem encodeAndVerify_eq (component : UserCatacomb φ) (identities : List (Identity φ)) (secureData : Option Bytes) :
    Codec.encodeAndVerify node loads room dumps component (Codec.buildRoot component identities secureData) identities
        secureData =
      Codec.Model.save node loads room dumps { component.model with
        identities, secureData := secureData.getD component.secureData } := by
  cases secureData <;> rfl

theorem uuidTarget_ok {text target : PyStr} : Codec.uuidTarget text = .ok target ↔ uuidStr (uuidInt text) = target ∧
    uuidParses text = true := okIf

/-- The keys and the identities of a component, entry by entry. -/
theorem entries_keys {component : UserCatacomb φ} (hvalid : Validated component) :
    (component.identityIndices.zip component.identities).map Prod.fst = component.identityIndices :=
  List.map_fst_zip hvalid.indices.le

theorem entries_identities {component : UserCatacomb φ} (hvalid : Validated component) :
    (component.identityIndices.zip component.identities).map Prod.snd = component.identities :=
  List.map_snd_zip hvalid.indices.ge

theorem length_entries {component : UserCatacomb φ} (hvalid : Validated component) (p : Identity φ → Bool) :
    ((component.identityIndices.zip component.identities).filter fun e => p e.2).length =
      (component.identities.filter p).length := by
  conv_rhs => rw [← entries_identities hvalid, List.filter_map, List.length_map]
  rfl

/-- The index of an identity is found where the test of the model finds the identity. -/
theorem identityIndex_cases {component : UserCatacomb φ} (hvalid : Validated component) (identityUuid : PyStr) :
    (∃ error, Codec.identityIndex component identityUuid = .error error ∧
      component.model.testPresent identityUuid = .error error) ∨
    ∃ e, Codec.identityIndex component identityUuid = .ok e.1 ∧ component.model.testPresent identityUuid = .ok () ∧
      (component.identityIndices.zip component.identities).filter (fun e => Names identityUuid e.2) = [e] := by
  unfold Codec.identityIndex Codec.Model.testPresent
  cases htarget : Codec.uuidTarget identityUuid with
  | error error => exact .inl ⟨error, rfl, rfl⟩
  | ok target =>
    obtain ⟨rfl, -⟩ := uuidTarget_ok.mp htarget
    have hlength : ((component.identityIndices.zip component.identities).filter fun e =>
        Names identityUuid e.2).length = (component.identities.filter (Names identityUuid ·)).length :=
      length_entries hvalid fun identity => decide (Names identityUuid identity)
    by_cases hone : (component.identities.filter (Names identityUuid ·)).length = 1
    · obtain ⟨e, he⟩ := List.length_eq_one_iff.mp (hlength.trans hone)
      refine .inr ⟨e, ?_, if_neg (not_not.mpr hone), he⟩
      have hfound : (component.identityIndices.zip component.identities).filter
          (fun e => e.2.uuid = uuidStr (uuidInt identityUuid)) = [e] := he
      dsimp only [bind, Except.bind]
      rw [hfound]
    · refine .inl ⟨Codec.refused "target identity is not uniquely present", ?_, if_pos hone⟩
      rw [← hlength] at hone
      dsimp only [bind, Except.bind]
      split
      · rename_i e he
        exact absurd (congrArg List.length he) hone
      · rfl

/-- A step that both programs make, one of them behind others. -/
theorem bind_eq_bind {ε α β γ : Type} {x : Except ε α} {f : α → Except ε β} {g : α → Except ε γ} {h : γ → Except ε β}
    (heq : ∀ a, x = .ok a → f a = g a >>= h) : x >>= f = (x >>= g) >>= h := by
  cases x with
  | error error => rfl
  | ok a => exact heq a rfl

theorem creationSeconds_ok {created : Moment φ} {seconds : φ} (h : Codec.creationSeconds created = .ok seconds)
    (now : φ) : created.secondsOr now = seconds := by
  cases created with
  | naive => exact nomatch h
  | aware found => exact (okIf.mp h).1

theorem entity_ok {i : Int} {field : String} {n : Nat}
    (h : (Codec.boundedInt (.int i : Node φ ρ) field).mapError EditError.codec = .ok n) : i.toNat = n :=
  (okIf.mp (mapError_ok.mp h)).1

/-- **An edit is one of the model**: what it does with a component does not depend on its layout. -/
theorem run_eq {component : UserCatacomb φ} (hvalid : Validated component) (edit : Edit φ) :
    edit.run node loads room dumps component =
      edit.tests component.model >>= fun _ => (edit.apply component.model).save node loads room dumps := by
  cases edit with
  | rename identityUuid name =>
    rw [Edit.tests]
    refine bind_eq_bind fun _ _ => ?_
    rcases identityIndex_cases hvalid identityUuid with ⟨error, hindex, htest⟩ | ⟨e, hindex, htest, hone⟩
    · rw [hindex, htest]
      rfl
    · rw [hindex, htest]
      have hlist := modify_idxOf (fun identity : Identity φ => { identity with name })
        ((entries_keys hvalid).symm ▸ hvalid.indicesDistinct) hone
      rw [entries_keys hvalid, entries_identities hvalid] at hlist
      show Codec.encodeAndVerify node loads room dumps component (Codec.buildRoot component
        (component.identities.modify (component.identityIndices.idxOf e.1) fun identity => { identity with name })
        none) _ none = _
      rw [hlist]
      exact encodeAndVerify_eq component _ none
  | delete identityUuid =>
    rw [Edit.tests]
    refine bind_eq_bind fun _ _ => ?_
    rcases identityIndex_cases hvalid identityUuid with ⟨error, hindex, htest⟩ | ⟨e, hindex, htest, hone⟩
    · rw [hindex, htest]
      rfl
    · rw [hindex, htest]
      have hlist := filter_ne_key ((entries_keys hvalid).symm ▸ hvalid.indicesDistinct) hone
      rw [entries_identities hvalid] at hlist
      show Codec.encodeAndVerify node loads room dumps component (Codec.buildRoot component
        (((component.identityIndices.zip component.identities).filter fun other => other.1 ≠ e.1).map Prod.snd)
        none) _ none = _
      rw [hlist]
      exact encodeAndVerify_eq component _ none
  | replaceOnlyForAbsentSep identityUuid entity name created absentSepAttested =>
    show Codec.replaceOnlyForAbsentSep node loads room dumps component identityUuid entity name created
      absentSepAttested = _
    rw [Edit.tests, Codec.replaceOnlyForAbsentSep]
    obtain ⟨userId, secureData, accountUuid, keybagUuid, indices, identities⟩ := component
    rcases identities with _ | ⟨prototype, _ | ⟨other, rest⟩⟩
    · rfl
    · refine bind_eq_bind fun _ _ => bind_eq_bind fun newUuid huuid => bind_eq_bind fun n hentity => ?_
      refine bind_eq_bind fun _ _ => bind_eq_bind fun seconds hseconds => ?_
      obtain ⟨rfl, -⟩ := uuidTarget_ok.mp huuid
      obtain rfl := entity_ok hentity
      obtain rfl := creationSeconds_ok hseconds prototype.creationTime
      exact encodeAndVerify_eq _ _ none
    · rfl
  | add identityUuid entity name created now =>
    show Codec.add node loads room dumps component identityUuid entity name created now = _
    rw [Edit.tests, Codec.add]
    obtain ⟨userId, secureData, accountUuid, keybagUuid, indices, identities⟩ := component
    cases identities with
    | nil => rfl
    | cons prototype rest =>
      refine bind_eq_bind fun _ _ => bind_eq_bind fun newUuid huuid => bind_eq_bind fun _ _ => ?_
      refine bind_eq_bind fun n hentity => bind_eq_bind fun _ _ => bind_eq_bind fun _ _ => ?_
      refine bind_eq_bind fun seconds hseconds => ?_
      obtain ⟨rfl, -⟩ := uuidTarget_ok.mp huuid
      obtain rfl := entity_ok hentity
      obtain rfl := creationSeconds_ok hseconds now
      exact encodeAndVerify_eq _ _ none
  | replaceSecureData secureData =>
    rw [Edit.tests]
    refine bind_eq_bind fun data hdata => ?_
    obtain ⟨hbytes, -⟩ := secureEnvelope_ok.mp (mapError_ok.mp hdata)
    obtain rfl := Node.bytes.inj hbytes
    exact encodeAndVerify_eq component component.identities (some secureData)

/-! ## What was saved -/

/-- **What was saved is read back as it was.** -/
theorem save_ok {model : Model φ} {data : Bytes} (h : model.save node loads room dumps = .ok data) :
    ∃ component, Codec.decodeUserCatacomb node loads room data model.userId = .ok component ∧
      component.model = model := by
  obtain ⟨decoded, hdecode, h⟩ := bind_ok h
  rw [mapError_ok] at hdecode
  obtain ⟨hsecure, h⟩ := raiseIf_ok.mp h
  obtain ⟨hbindings, h⟩ := raiseIf_ok.mp h
  obtain ⟨reading, hread, h⟩ := bind_ok h
  obtain ⟨hsame, h⟩ := raiseIf_ok.mp h
  cases h
  rw [mapError_ok, readUser_of hdecode] at hread
  cases hread
  have huser := user_of_decode hdecode
  obtain ⟨haccount, hkeybag⟩ := not_or.mp hbindings
  obtain ⟨-, hsame⟩ := not_or.mp hsame
  obtain ⟨-, hsame⟩ := not_or.mp hsame
  obtain ⟨-, hsame⟩ := not_or.mp hsame
  obtain ⟨-, hidentities⟩ := not_or.mp hsame
  refine ⟨decoded, hdecode, ?_⟩
  obtain ⟨userId, secureData, accountUuid, keybagUuid, indices, identities⟩ := decoded
  obtain rfl : userId = model.userId := Int.ofNat.inj huser
  obtain rfl : secureData = model.secureData := not_not.mp hsecure
  obtain rfl : accountUuid = model.accountUuid := not_not.mp haccount
  obtain rfl : keybagUuid = model.keybagUuid := not_not.mp hkeybag
  obtain rfl : identities = model.identities := not_not.mp hidentities
  rfl

/-- **What an edit returns** is read as the edit of the model. -/
theorem run_ok {component : UserCatacomb φ} (hvalid : Validated component) {edit : Edit φ} {data : Bytes}
    (h : edit.run node loads room dumps component = .ok data) :
    edit.tests component.model = .ok () ∧
      ∃ edited, Codec.decodeUserCatacomb node loads room data component.expectedUserId = .ok edited ∧
        edited.model = edit.apply component.model := by
  rw [run_eq hvalid] at h
  obtain ⟨⟨⟩, htests, h⟩ := bind_ok h
  change (edit.apply component.model).save node loads room dumps = .ok data at h
  obtain ⟨edited, hedited, hmodel⟩ := save_ok h
  have huser : (edit.apply component.model).userId = component.expectedUserId := rfl
  rw [huser] at hedited
  exact ⟨htests, edited, hedited, hmodel⟩

/-! ## Edits one after the other -/

variable (node loads room dumps) in
/-- Edits, each of what the one before has written. -/
def editAll (expectedUserId : Int) (data : Bytes) : List (Edit φ) → Except EditError Bytes
  | [] => .ok data
  | edit :: edits => do
    let component ← (Codec.decodeUserCatacomb node loads room data expectedUserId).mapError .codec
    let data ← edit.run node loads room dumps component
    editAll expectedUserId data edits

/-- **Any number of edits**: what the last has written is read as what all of them make of the model. -/
theorem editAll_ok {expectedUserId : Int} {edits : List (Edit φ)} : ∀ {data written : Bytes}
    {component : UserCatacomb φ}, Codec.decodeUserCatacomb node loads room data expectedUserId = .ok component →
    editAll node loads room dumps expectedUserId data edits = .ok written →
    ∃ edited, Codec.decodeUserCatacomb node loads room written expectedUserId = .ok edited ∧
      edited.model = edits.foldl (fun model edit => edit.apply model) component.model := by
  induction edits with
  | nil =>
    intro data written component hdecode h
    cases h
    exact ⟨component, hdecode, rfl⟩
  | cons edit edits ih =>
    intro data written component hdecode h
    obtain ⟨found, hfound, h⟩ := bind_ok h
    rw [mapError_ok, hdecode] at hfound
    cases hfound
    obtain ⟨next, hnext, h⟩ := bind_ok h
    obtain ⟨-, edited, hedited, hmodel⟩ := run_ok (validated_of_decode hdecode) hnext
    rw [user_of_decode hdecode] at hedited
    rw [List.foldl_cons, ← hmodel]
    exact ih hedited h

end Run

/-! ## Laws of the edits of a model -/

section Laws

variable {φ : Type}

/-- The UUID a text is read as. -/
def canonical (identityUuid : PyStr) : PyStr := uuidStr (uuidInt identityUuid)

/-- The identity that an edit is about. -/
def subject : Edit φ → Option PyStr
  | .rename identityUuid _ | .delete identityUuid | .replaceOnlyForAbsentSep identityUuid .. | .add identityUuid .. =>
    some (canonical identityUuid)
  | .replaceSecureData _ => none

/-- Edits of two identities that are not independent: each puts its identity behind, or in the place of, what there
    is, or one takes away the identity whose metadata the other copies. -/
def Ordered (model : Model φ) : Edit φ → Edit φ → Prop
  | .add .., .add .. => True
  | .replaceOnlyForAbsentSep .., .replaceOnlyForAbsentSep .. => True
  | .add .., .delete identityUuid | .delete identityUuid, .add .. =>
    ∃ first ∈ model.identities.head?, Names identityUuid first
  | _, _ => False

theorem not_names {identityUuid other : PyStr} (hne : canonical identityUuid ≠ canonical other)
    {identity : Identity φ} (h : Names identityUuid identity) : ¬ Names other identity :=
  fun hother => hne (h.symm.trans hother)

variable [PlistFloat φ] {model : Model φ}

/-! ### What the tests say -/

theorem testPresent_ok {identityUuid : PyStr} (h : model.testPresent identityUuid = .ok ()) :
    ∃ identity ∈ model.identities, Names identityUuid identity := by
  obtain ⟨target, htarget, h⟩ := bind_ok h
  obtain ⟨rfl, -⟩ := uuidTarget_ok.mp htarget
  have hlength : (model.identities.filter fun identity => identity.uuid = uuidStr (uuidInt identityUuid)).length = 1 := by
    by_contra hne
    rw [raiseIf, if_pos hne] at h
    cases h
  obtain ⟨identity, hone⟩ := List.length_eq_one_iff.mp hlength
  have hmem : identity ∈ model.identities.filter fun identity => identity.uuid = uuidStr (uuidInt identityUuid) := by
    rw [hone]
    exact List.mem_singleton_self identity
  exact ⟨identity, List.mem_of_mem_filter hmem, of_decide_eq_true (List.mem_filter.mp hmem).2⟩

theorem tests_rename {identityUuid name : PyStr} (h : (Edit.rename identityUuid name).tests model = .ok ()) :
    ∃ identity ∈ model.identities, Names identityUuid identity := by
  obtain ⟨-, -, h⟩ := bind_ok h
  exact testPresent_ok h

theorem tests_delete {identityUuid : PyStr} (h : (Edit.delete identityUuid).tests model = .ok ()) :
    1 < model.identities.length ∧ ∃ identity ∈ model.identities, Names identityUuid identity := by
  obtain ⟨hfew, h⟩ := raiseIf_ok.mp h
  exact ⟨not_le.mp hfew, testPresent_ok h⟩

theorem tests_replace {identityUuid name : PyStr} {entity : Int} {created : Moment φ} {attested : Bool}
    (h : (Edit.replaceOnlyForAbsentSep identityUuid entity name created attested).tests model = .ok ()) :
    model.identities.length = 1 := by
  unfold Edit.tests at h
  dsimp only at h
  split at h
  · rename_i prototype hone
    rw [hone]
    rfl
  · exact nomatch h

theorem tests_add {identityUuid name : PyStr} {entity : Int} {created : Option (Moment φ)} {now : φ}
    (h : (Edit.add identityUuid entity name created now).tests model = .ok ()) :
    model.identities ≠ [] ∧ ∀ identity ∈ model.identities, ¬ Names identityUuid identity := by
  unfold Edit.tests at h
  dsimp only at h
  split at h
  · exact nomatch h
  · rename_i prototype rest hidentities
    obtain ⟨-, h⟩ := raiseIf_ok.mp h
    obtain ⟨target, htarget, h⟩ := bind_ok h
    obtain ⟨hnew, h⟩ := raiseIf_ok.mp h
    obtain ⟨rfl, -⟩ := uuidTarget_ok.mp htarget
    rw [hidentities]
    exact ⟨List.cons_ne_nil _ _, fun identity hidentity hnames => hnew (List.mem_map.mpr ⟨identity, hidentity, hnames⟩)⟩

/-! ### Two edits in either order -/

/-- Behind an addition, the deletion of what was added leaves what there was. -/
theorem apply_delete_add {identityUuid other name : PyStr} {entity : Int} {created : Option (Moment φ)} {now : φ}
    (hadd : (Edit.add identityUuid entity name created now).tests model = .ok ())
    (hsame : canonical other = canonical identityUuid) :
    (Edit.delete other).apply ((Edit.add identityUuid entity name created now).apply model) = model := by
  obtain ⟨hne, hnew⟩ := tests_add hadd
  obtain ⟨userId, accountUuid, keybagUuid, secureData, identities⟩ := model
  have hold : identities.filter (fun identity => ¬ Names other identity) = identities := by
    refine List.filter_eq_self.mpr fun identity hidentity => decide_eq_true fun hnames => ?_
    exact hnew identity hidentity (hnames.trans hsame)
  have hmade : ∀ prototype seconds, Names other
      (Codec.made ⟨userId, accountUuid, keybagUuid, secureData, identities⟩ prototype identityUuid entity name seconds) :=
    fun _ _ => hsame.symm
  have hlist : ((Edit.delete other).apply ((Edit.add identityUuid entity name created now).apply
      ⟨userId, accountUuid, keybagUuid, secureData, identities⟩)).identities = identities := by
    show List.filter _ (identities ++ _) = identities
    rw [List.filter_append, hold]
    cases identities with
    | nil => exact absurd rfl hne
    | cons prototype rest =>
      show _ ++ List.filter _ [_] = _
      rw [List.filter_singleton, decide_eq_false (not_not.mpr (hmade _ _))]
      exact List.append_nil _
  exact congrArg (fun found => (⟨userId, accountUuid, keybagUuid, secureData, found⟩ : Model φ)) hlist

/-- A new name does not make another identity of it. -/
@[simp] theorem names_with {other name : PyStr} (identity : Identity φ) :
    Names other { identity with name } ↔ Names other identity := Iff.rfl

theorem list_rename_rename {identityUuid name other name' : PyStr} (hne : canonical identityUuid ≠ canonical other) :
    (Edit.rename other name').list ((Edit.rename identityUuid name).apply model) =
      (Edit.rename identityUuid name).list ((Edit.rename other name').apply model) := by
  show (model.identities.map _).map _ = (model.identities.map _).map _
  rw [List.map_map, List.map_map]
  refine List.map_congr_left fun identity _ => ?_
  by_cases hnames : Names identityUuid identity
  · have hother : ¬ Names other identity := not_names hne hnames
    simp only [Function.comp_apply, names_with, hnames, hother, if_true, if_false]
  · by_cases hother : Names other identity
    · simp only [Function.comp_apply, names_with, hnames, hother, if_true, if_false]
    · simp only [Function.comp_apply, hnames, hother, if_false]

theorem list_delete_delete {identityUuid other : PyStr} :
    (Edit.delete other).list ((Edit.delete identityUuid).apply model) =
      (Edit.delete identityUuid).list ((Edit.delete other).apply model) := by
  show (model.identities.filter _).filter _ = (model.identities.filter _).filter _
  rw [List.filter_filter, List.filter_filter]
  exact List.filter_congr fun identity _ => Bool.and_comm _ _

theorem names_rename {identityUuid name other : PyStr} (identity : Identity φ) :
    Names other (if Names identityUuid identity then { identity with name } else identity) ↔ Names other identity := by
  by_cases hnames : Names identityUuid identity
  · rw [if_pos hnames]
    exact Iff.rfl
  · rw [if_neg hnames]

theorem list_rename_delete {identityUuid name other : PyStr} :
    (Edit.delete other).list ((Edit.rename identityUuid name).apply model) =
      (Edit.rename identityUuid name).list ((Edit.delete other).apply model) := by
  show (model.identities.map _).filter _ = (model.identities.filter _).map _
  rw [List.filter_map]
  refine congrArg (List.map _) (List.filter_congr fun identity _ => ?_)
  exact decide_eq_decide.mpr (not_congr (names_rename identity))

theorem list_rename_add {identityUuid name other name' : PyStr} {entity : Int} {created : Option (Moment φ)} {now : φ}
    (hne : canonical identityUuid ≠ canonical other) :
    (Edit.add other entity name' created now).list ((Edit.rename identityUuid name).apply model) =
      (Edit.rename identityUuid name).list ((Edit.add other entity name' created now).apply model) := by
  show model.identities.map _ ++ ((model.identities.map _).head?.map _).toList = (model.identities ++ _).map _
  rw [List.map_append]
  refine congrArg _ ?_
  cases hidentities : model.identities with
  | nil => rfl
  | cons prototype rest =>
    have hnew : ∀ seconds, ¬ Names identityUuid (Codec.made model prototype other entity name' seconds) :=
      fun _ h => hne h.symm
    show [Codec.made _ (if Names identityUuid prototype then _ else _) other entity name' _] = [if _ then _ else _]
    rw [if_neg (hnew _)]
    by_cases hnames : Names identityUuid prototype
    · rw [if_pos hnames]
      rfl
    · rw [if_neg hnames]
      rfl

/-- Where the first identity stays, so does what is copied of it. -/
theorem list_delete_add {identityUuid other name : PyStr} {entity : Int} {created : Option (Moment φ)} {now : φ}
    (hne : canonical identityUuid ≠ canonical other)
    (hfirst : ¬ ∃ first ∈ model.identities.head?, Names identityUuid first) :
    (Edit.add other entity name created now).list ((Edit.delete identityUuid).apply model) =
      (Edit.delete identityUuid).list ((Edit.add other entity name created now).apply model) := by
  show model.identities.filter _ ++ ((model.identities.filter _).head?.map _).toList = (model.identities ++ _).filter _
  rw [List.filter_append]
  refine congrArg _ ?_
  cases hidentities : model.identities with
  | nil => rfl
  | cons prototype rest =>
    have hstays : ¬ Names identityUuid prototype := by
      rw [hidentities] at hfirst
      exact fun hnames => hfirst ⟨prototype, rfl, hnames⟩
    have hnew : ∀ seconds, ¬ Names identityUuid (Codec.made model prototype other entity name seconds) :=
      fun _ h => hne h.symm
    have hdecide : decide (¬ Names identityUuid prototype) = true := decide_eq_true hstays
    rw [List.filter_cons, hdecide]
    show [_] = List.filter _ [_]
    rw [List.filter_singleton, decide_eq_true (hnew _)]
    rfl

/-- A replacement has the one identity there is go, so that it leaves none to another edit. -/
theorem replace_alone {identityUuid name : PyStr} {entity : Int} {created : Moment φ} {attested : Bool} {edit : Edit φ}
    (hreplace : (Edit.replaceOnlyForAbsentSep identityUuid entity name created attested).tests model = .ok ())
    (hbefore : (Edit.replaceOnlyForAbsentSep identityUuid entity name created attested).tests (edit.apply model) = .ok ())
    (hedit : edit.tests model = .ok ())
    (hbehind : edit.tests
      ((Edit.replaceOnlyForAbsentSep identityUuid entity name created attested).apply model) = .ok ())
    (hne : subject edit ≠ some (canonical identityUuid)) :
    (∃ secureData, edit = .replaceSecureData secureData) ∨
      ∃ other entity' name' created' attested', edit = .replaceOnlyForAbsentSep other entity' name' created' attested' := by
  have hone := tests_replace hreplace
  cases edit with
  | rename other name' =>
    -- the only identity is the new one
    obtain ⟨identity, hidentity, hnames⟩ := tests_rename hbehind
    obtain ⟨prototype, -, rfl⟩ := List.mem_map.mp hidentity
    exact absurd (congrArg some hnames.symm) hne
  | delete other =>
    obtain ⟨hmany, -⟩ := tests_delete hedit
    omega
  | add other entity' name' created' now =>
    have htwo := tests_replace hbefore
    obtain ⟨prototype, hprototype⟩ := List.length_eq_one_iff.mp hone
    rw [show ((Edit.add other entity' name' created' now).apply model).identities = _ ++ _ from rfl, hprototype] at htwo
    exact nomatch htwo
  | replaceOnlyForAbsentSep other entity' name' created' attested' => exact .inr ⟨_, _, _, _, _, rfl⟩
  | replaceSecureData secureData => exact .inl ⟨secureData, rfl⟩

theorem apply_comm_of {first second : Edit φ}
    (hsecure : ∀ secureData secureData', first = .replaceSecureData secureData → second ≠ .replaceSecureData secureData')
    (hlist : second.list (first.apply model) = first.list (second.apply model)) :
    second.apply (first.apply model) = first.apply (second.apply model) := by
  have hsame : (second.apply (first.apply model)).secureData = (first.apply (second.apply model)).secureData := by
    cases first with
    | replaceSecureData secureData =>
      cases second with
      | replaceSecureData secureData' => exact absurd rfl (hsecure _ _ rfl)
      | _ => rfl
    | _ => cases second <;> rfl
  show (⟨_, _, _, _, _⟩ : Model φ) = ⟨_, _, _, _, _⟩
  exact congrArg₂ (fun data identities => (⟨model.userId, model.accountUuid, model.keybagUuid, data, identities⟩ : Model φ))
    hsame hlist

/-- **Edits of two identities commute** where both orders are allowed and they are independent. -/
theorem apply_comm {first second : Edit φ} (hfirst : first.tests model = .ok ())
    (hsecond : second.tests (first.apply model) = .ok ()) (hsecond' : second.tests model = .ok ())
    (hfirst' : first.tests (second.apply model) = .ok ()) (hne : subject first ≠ subject second)
    (hordered : ¬ Ordered model first second) :
    second.apply (first.apply model) = first.apply (second.apply model) := by
  refine apply_comm_of (fun _ _ hone hother => hne (by rw [hone, hother]; rfl)) ?_
  cases first with
  | replaceSecureData secureData => cases second <;> rfl
  | rename identityUuid name =>
    cases second with
    | rename other name' => exact list_rename_rename fun h => hne (congrArg some h)
    | delete other => exact list_rename_delete
    | add other entity name' created now => exact list_rename_add fun h => hne (congrArg some h)
    | replaceSecureData secureData => rfl
    | replaceOnlyForAbsentSep other entity name' created attested =>
      rcases replace_alone hsecond' hsecond hfirst hfirst' hne with ⟨_, h⟩ | ⟨_, _, _, _, _, h⟩
      · exact nomatch h
      · exact nomatch h
  | delete identityUuid =>
    cases second with
    | rename other name' => exact list_rename_delete.symm
    | delete other => exact list_delete_delete
    | add other entity name' created now => exact list_delete_add (fun h => hne (congrArg some h)) hordered
    | replaceSecureData secureData => rfl
    | replaceOnlyForAbsentSep other entity name' created attested =>
      rcases replace_alone hsecond' hsecond hfirst hfirst' hne with ⟨_, h⟩ | ⟨_, _, _, _, _, h⟩
      · exact nomatch h
      · exact nomatch h
  | add identityUuid entity name created now =>
    cases second with
    | rename other name' => exact (list_rename_add fun h => hne (congrArg some h.symm)).symm
    | delete other => exact (list_delete_add (fun h => hne (congrArg some h.symm)) hordered).symm
    | add other entity' name' created' now' => exact absurd trivial hordered
    | replaceSecureData secureData => rfl
    | replaceOnlyForAbsentSep other entity' name' created' attested =>
      rcases replace_alone hsecond' hsecond hfirst hfirst' hne with ⟨_, h⟩ | ⟨_, _, _, _, _, h⟩
      · exact nomatch h
      · exact nomatch h
  | replaceOnlyForAbsentSep identityUuid entity name created attested =>
    rcases replace_alone hfirst hfirst' hsecond' hsecond hne.symm with ⟨_, rfl⟩ | ⟨_, _, _, _, _, rfl⟩
    · rfl
    · exact absurd trivial hordered

end Laws

/-! ## The result -/

section Result

variable {φ ρ : Type} [PlistFloat φ] [DecidableEq φ] {node : ρ → Node φ ρ} {loads : Bytes → Option ρ} {room : Nat}
  {dumps : Plist φ → Bytes}

/-- One edit, and what follows it. -/
theorem editAll_cons {expectedUserId : Int} {data written : Bytes} {component : UserCatacomb φ} {edit : Edit φ}
    {edits : List (Edit φ)}
    (hdecode : Codec.decodeUserCatacomb node loads room data expectedUserId = .ok component)
    (h : editAll node loads room dumps expectedUserId data (edit :: edits) = .ok written) :
    edit.tests component.model = .ok () ∧ ∃ next edited,
      Codec.decodeUserCatacomb node loads room next expectedUserId = .ok edited ∧
      edited.model = edit.apply component.model ∧
      editAll node loads room dumps expectedUserId next edits = .ok written := by
  obtain ⟨found, hfound, h⟩ := bind_ok h
  rw [mapError_ok, hdecode] at hfound
  cases hfound
  obtain ⟨next, hnext, h⟩ := bind_ok h
  obtain ⟨htests, edited, hedited, hmodel⟩ := run_ok (validated_of_decode hdecode) hnext
  rw [user_of_decode hdecode] at hedited
  exact ⟨htests, next, edited, hedited, hmodel, h⟩

/-- Two edits: both were allowed where they were made. -/
theorem editAll_pair {expectedUserId : Int} {data written : Bytes} {component : UserCatacomb φ} {first second : Edit φ}
    (hdecode : Codec.decodeUserCatacomb node loads room data expectedUserId = .ok component)
    (h : editAll node loads room dumps expectedUserId data [first, second] = .ok written) :
    first.tests component.model = .ok () ∧ second.tests (first.apply component.model) = .ok () := by
  obtain ⟨hfirst, next, edited, hedited, hmodel, h⟩ := editAll_cons hdecode h
  obtain ⟨hsecond, -⟩ := editAll_cons hedited h
  exact ⟨hfirst, hmodel ▸ hsecond⟩

/-- **The laws of the edits**, of every component that decodes: what an edit returns is read as the edit of the
    model, and depends on nothing else; a deletion takes an addition back; two edits of different identities commute,
    but for those whose order shows; and any number of them stays decodable. -/
theorem edit_laws (node : ρ → Node φ ρ) (loads : Bytes → Option ρ) (room : Nat) (dumps : Plist φ → Bytes) {data : Bytes}
    {expectedUserId : Int} {component : UserCatacomb φ}
    (hdecode : Codec.decodeUserCatacomb node loads room data expectedUserId = .ok component) :
    (∀ (edit : Edit φ) (written : Bytes), edit.run node loads room dumps component = .ok written →
      ∃ edited, Codec.decodeUserCatacomb node loads room written expectedUserId = .ok edited ∧
        edited.model = edit.apply component.model) ∧
    (∀ (otherData : Bytes) (otherUserId : Int) (other : UserCatacomb φ),
      Codec.decodeUserCatacomb node loads room otherData otherUserId = .ok other → other.model = component.model →
      ∀ edit : Edit φ, edit.run node loads room dumps other = edit.run node loads room dumps component) ∧
    (∀ (identityUuid other name : PyStr) (entity : Int) (created : Option (Moment φ)) (now : φ) (written : Bytes),
      canonical other = canonical identityUuid →
      editAll node loads room dumps expectedUserId data [.add identityUuid entity name created now, .delete other] =
        .ok written →
      ∃ edited, Codec.decodeUserCatacomb node loads room written expectedUserId = .ok edited ∧
        edited.model = component.model) ∧
    (∀ (first second : Edit φ) (written written' : Bytes), subject first ≠ subject second →
      ¬ Ordered component.model first second →
      editAll node loads room dumps expectedUserId data [first, second] = .ok written →
      editAll node loads room dumps expectedUserId data [second, first] = .ok written' →
      ∃ edited edited', Codec.decodeUserCatacomb node loads room written expectedUserId = .ok edited ∧
        Codec.decodeUserCatacomb node loads room written' expectedUserId = .ok edited' ∧
        edited.model = edited'.model) ∧
    (∀ (edits : List (Edit φ)) (written : Bytes),
      editAll node loads room dumps expectedUserId data edits = .ok written →
      ∃ edited, Codec.decodeUserCatacomb node loads room written expectedUserId = .ok edited ∧
        edited.model = edits.foldl (fun model edit => edit.apply model) component.model) := by
  have hvalid := validated_of_decode hdecode
  refine ⟨?_, ?_, ?_, ?_, fun edits written h => editAll_ok hdecode h⟩
  · intro edit written h
    obtain ⟨-, edited, hedited, hmodel⟩ := run_ok hvalid h
    rw [user_of_decode hdecode] at hedited
    exact ⟨edited, hedited, hmodel⟩
  · intro otherData otherUserId other hother hmodel edit
    rw [run_eq (validated_of_decode hother), run_eq hvalid, hmodel]
  · intro identityUuid other name entity created now written hsame h
    obtain ⟨hadd, -⟩ := editAll_pair hdecode h
    obtain ⟨edited, hedited, hmodel⟩ := editAll_ok hdecode h
    exact ⟨edited, hedited, hmodel.trans (apply_delete_add hadd hsame)⟩
  · intro first second written written' hne hordered h h'
    obtain ⟨hfirst, hsecond⟩ := editAll_pair hdecode h
    obtain ⟨hsecond', hfirst'⟩ := editAll_pair hdecode h'
    obtain ⟨edited, hedited, hmodel⟩ := editAll_ok hdecode h
    obtain ⟨edited', hedited', hmodel'⟩ := editAll_ok hdecode h'
    refine ⟨edited, edited', hedited, hedited', ?_⟩
    rw [hmodel, hmodel']
    exact apply_comm hfirst hsecond hsecond' hfirst' hne hordered

end Result

/-! ## A sample -/

def asciiBytes (text : PyStr) : Bytes := text.map fun c => UInt8.ofNat c.val

/-- The file of one identity, as `plistlib` writes it, … -/
def thumbFile : Bytes :=
  [98, 112, 108, 105, 115, 116, 48, 48, 212, 1, 2, 3, 4, 5, 6, 7, 20, 88, 36, 118, 101, 114, 115, 105, 111, 110,
   89, 36, 97, 114, 99, 104, 105, 118, 101, 114, 84, 36, 116, 111, 112, 88, 36, 111, 98, 106, 101, 99, 116, 115,
   18, 0, 1, 134, 160, 95, 16, 15, 78, 83, 75, 101, 121, 101, 100, 65, 114, 99, 104, 105, 118, 101, 114, 214, 8,
   9, 10, 11, 12, 13, 14, 15, 16, 17, 18, 19, 95, 16, 15, 67, 97, 116, 97, 99, 111, 109, 98, 86, 101, 114, 115,
   105, 111, 110, 95, 16, 18, 67, 97, 116, 97, 99, 111, 109, 98, 83, 101, 99, 117, 114, 101, 68, 97, 116, 97, 95,
   16, 22, 67, 97, 116, 97, 99, 111, 109, 98, 85, 115, 101, 114, 75, 101, 121, 98, 97, 103, 85, 85, 73, 68, 94,
   67, 97, 116, 97, 99, 111, 109, 98, 85, 115, 101, 114, 73, 68, 95, 16, 20, 67, 97, 116, 97, 99, 111, 109, 98,
   73, 100, 101, 110, 116, 105, 116, 121, 76, 105, 115, 116, 95, 16, 16, 67, 97, 116, 97, 99, 111, 109, 98, 85,
   115, 101, 114, 85, 85, 73, 68, 18, 0, 3, 0, 0, 128, 1, 128, 14, 17, 1, 245, 128, 3, 128, 13, 175, 16, 18, 21,
   22, 27, 34, 39, 43, 46, 49, 52, 55, 58, 59, 67, 77, 81, 84, 85, 89, 85, 36, 110, 117, 108, 108, 210, 23, 24,
   25, 26, 87, 78, 83, 46, 100, 97, 116, 97, 86, 36, 99, 108, 97, 115, 115, 79, 16, 16, 76, 84, 70, 67, 0, 0, 0,
   0, 0, 0, 0, 0, 0, 0, 0, 0, 128, 2, 210, 28, 29, 30, 31, 90, 36, 99, 108, 97, 115, 115, 110, 97, 109, 101, 88,
   36, 99, 108, 97, 115, 115, 101, 115, 93, 78, 83, 77, 117, 116, 97, 98, 108, 101, 68, 97, 116, 97, 163, 30, 32,
   33, 86, 78, 83, 68, 97, 116, 97, 88, 78, 83, 79, 98, 106, 101, 99, 116, 210, 35, 24, 36, 38, 90, 78, 83, 46,
   111, 98, 106, 101, 99, 116, 115, 161, 37, 128, 17, 128, 4, 210, 28, 29, 40, 41, 94, 78, 83, 77, 117, 116, 97,
   98, 108, 101, 65, 114, 114, 97, 121, 163, 40, 42, 33, 87, 78, 83, 65, 114, 114, 97, 121, 210, 28, 29, 44, 45,
   95, 16, 20, 66, 105, 111, 109, 101, 116, 114, 105, 99, 75, 105, 116, 73, 100, 101, 110, 116, 105, 116, 121,
   162, 44, 33, 210, 28, 29, 47, 48, 86, 78, 83, 68, 97, 116, 101, 162, 47, 33, 210, 28, 29, 50, 51, 95, 16, 21,
   66, 105, 111, 109, 101, 116, 114, 105, 99, 75, 105, 116, 65, 99, 99, 101, 115, 115, 111, 114, 121, 162, 50, 33,
   210, 28, 29, 53, 54, 95, 16, 26, 66, 105, 111, 109, 101, 116, 114, 105, 99, 75, 105, 116, 65, 99, 99, 101, 115,
   115, 111, 114, 121, 71, 114, 111, 117, 112, 162, 53, 33, 210, 28, 29, 56, 57, 86, 78, 83, 85, 85, 73, 68, 162,
   56, 33, 87, 66, 117, 105, 108, 116, 105, 110, 212, 60, 61, 62, 24, 63, 64, 65, 66, 95, 16, 20, 66, 75, 65, 99,
   99, 101, 115, 115, 111, 114, 121, 71, 114, 111, 117, 112, 78, 97, 109, 101, 95, 16, 20, 66, 75, 65, 99, 99,
   101, 115, 115, 111, 114, 121, 71, 114, 111, 117, 112, 84, 121, 112, 101, 95, 16, 20, 66, 75, 65, 99, 99, 101,
   115, 115, 111, 114, 121, 71, 114, 111, 117, 112, 85, 85, 73, 68, 128, 10, 16, 1, 79, 16, 16, 0, 0, 0, 0, 0, 0,
   0, 0, 0, 0, 0, 0, 0, 0, 0, 0, 128, 8, 214, 68, 69, 70, 71, 72, 24, 65, 73, 74, 64, 75, 76, 95, 16, 15, 66, 75,
   65, 99, 99, 101, 115, 115, 111, 114, 121, 85, 85, 73, 68, 95, 16, 16, 66, 75, 65, 99, 99, 101, 115, 115, 111,
   114, 121, 70, 108, 97, 103, 115, 95, 16, 15, 66, 75, 65, 99, 99, 101, 115, 115, 111, 114, 121, 78, 97, 109,
   101, 95, 16, 15, 66, 75, 65, 99, 99, 101, 115, 115, 111, 114, 121, 84, 121, 112, 101, 95, 16, 16, 66, 75, 65,
   99, 99, 101, 115, 115, 111, 114, 121, 71, 114, 111, 117, 112, 16, 6, 128, 10, 128, 11, 128, 7, 210, 78, 24, 79,
   80, 92, 78, 83, 46, 117, 117, 105, 100, 98, 121, 116, 101, 115, 79, 16, 16, 0, 0, 0, 0, 0, 0, 0, 0, 0, 0, 0, 0,
   0, 0, 0, 1, 128, 9, 210, 78, 24, 82, 83, 79, 16, 16, 0, 0, 0, 0, 0, 0, 0, 0, 0, 0, 0, 0, 0, 0, 0, 2, 128, 9,
   85, 116, 104, 117, 109, 98, 210, 86, 24, 87, 88, 87, 78, 83, 46, 116, 105, 109, 101, 35, 0, 0, 0, 0, 0, 0, 0,
   0, 128, 6, 221, 90, 91, 92, 93, 94, 95, 96, 97, 98, 99, 100, 101, 24, 102, 103, 64, 104, 102, 102, 105, 64,
   106, 64, 17, 102, 107, 95, 16, 20, 66, 75, 73, 100, 101, 110, 116, 105, 116, 121, 77, 97, 116, 99, 104, 67,
   111, 117, 110, 116, 95, 16, 22, 66, 75, 73, 100, 101, 110, 116, 105, 116, 121, 67, 114, 101, 97, 116, 105, 111,
   110, 84, 105, 109, 101, 95, 16, 22, 66, 75, 73, 100, 101, 110, 116, 105, 116, 121, 69, 110, 116, 105, 116, 121,
   78, 117, 109, 98, 101, 114, 94, 66, 75, 73, 100, 101, 110, 116, 105, 116, 121, 85, 85, 73, 68, 95, 16, 15, 66,
   75, 73, 100, 101, 110, 116, 105, 116, 121, 70, 108, 97, 103, 115, 95, 16, 30, 66, 75, 73, 100, 101, 110, 116,
   105, 116, 121, 77, 97, 116, 99, 104, 67, 111, 117, 110, 116, 67, 111, 110, 116, 105, 110, 117, 111, 117, 115,
   94, 66, 75, 73, 100, 101, 110, 116, 105, 116, 121, 78, 97, 109, 101, 94, 66, 75, 73, 100, 101, 110, 116, 105,
   116, 121, 84, 121, 112, 101, 95, 16, 19, 66, 75, 73, 100, 101, 110, 116, 105, 116, 121, 65, 99, 99, 101, 115,
   115, 111, 114, 121, 95, 16, 21, 66, 75, 73, 100, 101, 110, 116, 105, 116, 121, 85, 112, 100, 97, 116, 101, 67,
   111, 117, 110, 116, 95, 16, 16, 66, 75, 73, 100, 101, 110, 116, 105, 116, 121, 85, 115, 101, 114, 73, 68, 95,
   16, 19, 66, 75, 73, 100, 101, 110, 116, 105, 116, 121, 65, 116, 116, 114, 105, 98, 117, 116, 101, 16, 0, 128,
   16, 79, 16, 16, 0, 0, 0, 0, 0, 0, 0, 0, 0, 0, 0, 0, 0, 0, 0, 3, 128, 15, 128, 12, 128, 5, 0, 8, 0, 17, 0, 26,
   0, 36, 0, 41, 0, 50, 0, 55, 0, 73, 0, 86, 0, 104, 0, 125, 0, 150, 0, 165, 0, 188, 0, 207, 0, 212, 0, 214, 0,
   216, 0, 219, 0, 221, 0, 223, 0, 244, 0, 250, 0, 255, 1, 7, 1, 14, 1, 33, 1, 35, 1, 40, 1, 51, 1, 60, 1, 74, 1,
   78, 1, 85, 1, 94, 1, 99, 1, 110, 1, 112, 1, 114, 1, 116, 1, 121, 1, 136, 1, 140, 1, 148, 1, 153, 1, 176, 1,
   179, 1, 184, 1, 191, 1, 194, 1, 199, 1, 223, 1, 226, 1, 231, 2, 4, 2, 7, 2, 12, 2, 19, 2, 22, 2, 30, 2, 39, 2,
   62, 2, 85, 2, 108, 2, 110, 2, 112, 2, 131, 2, 133, 2, 146, 2, 164, 2, 183, 2, 201, 2, 219, 2, 238, 2, 240, 2,
   242, 2, 244, 2, 246, 2, 251, 3, 8, 3, 27, 3, 29, 3, 34, 3, 53, 3, 55, 3, 61, 3, 66, 3, 74, 3, 83, 3, 85, 3,
   112, 3, 135, 3, 160, 3, 185, 3, 200, 3, 218, 3, 251, 4, 10, 4, 25, 4, 47, 4, 71, 4, 90, 4, 112, 4, 114, 4, 116,
   4, 135, 4, 137, 4, 139, 0, 0, 0, 0, 0, 0, 2, 1, 0, 0, 0, 0, 0, 0, 0, 108, 0, 0, 0, 0, 0, 0, 0, 0, 0, 0, 0, 0,
   0, 0, 4, 141]

/-- … of another one behind it, … -/
def pairFile (other : Identity Int) : Bytes :=
  [98, 112, 108, 105, 115, 116, 48, 48, 212, 1, 2, 3, 4, 5, 6, 7, 20, 88, 36, 118, 101, 114, 115, 105, 111, 110,
   89, 36, 97, 114, 99, 104, 105, 118, 101, 114, 84, 36, 116, 111, 112, 88, 36, 111, 98, 106, 101, 99, 116, 115,
   18, 0, 1, 134, 160, 95, 16, 15, 78, 83, 75, 101, 121, 101, 100, 65, 114, 99, 104, 105, 118, 101, 114, 214, 8,
   9, 10, 11, 12, 13, 14, 15, 16, 17, 18, 19, 95, 16, 15, 67, 97, 116, 97, 99, 111, 109, 98, 86, 101, 114, 115,
   105, 111, 110, 95, 16, 18, 67, 97, 116, 97, 99, 111, 109, 98, 83, 101, 99, 117, 114, 101, 68, 97, 116, 97, 95,
   16, 22, 67, 97, 116, 97, 99, 111, 109, 98, 85, 115, 101, 114, 75, 101, 121, 98, 97, 103, 85, 85, 73, 68, 94,
   67, 97, 116, 97, 99, 111, 109, 98, 85, 115, 101, 114, 73, 68, 95, 16, 20, 67, 97, 116, 97, 99, 111, 109, 98,
   73, 100, 101, 110, 116, 105, 116, 121, 76, 105, 115, 116, 95, 16, 16, 67, 97, 116, 97, 99, 111, 109, 98, 85,
   115, 101, 114, 85, 85, 73, 68, 18, 0, 3, 0, 0, 128, 1, 128, 14, 17, 1, 245, 128, 3, 128, 13, 175, 16, 21, 21,
   22, 27, 34, 40, 44, 47, 50, 53, 56, 59, 60, 68, 78, 82, 85, 86, 90, 109, 110, 112, 85, 36, 110, 117, 108, 108,
   210, 23, 24, 25, 26, 87, 78, 83, 46, 100, 97, 116, 97, 86, 36, 99, 108, 97, 115, 115, 79, 16, 16, 76, 84, 70,
   67, 0, 0, 0, 0, 0, 0, 0, 0, 0, 0, 0, 0, 128, 2, 210, 28, 29, 30, 31, 90, 36, 99, 108, 97, 115, 115, 110, 97,
   109, 101, 88, 36, 99, 108, 97, 115, 115, 101, 115, 93, 78, 83, 77, 117, 116, 97, 98, 108, 101, 68, 97, 116, 97,
   163, 30, 32, 33, 86, 78, 83, 68, 97, 116, 97, 88, 78, 83, 79, 98, 106, 101, 99, 116, 210, 35, 24, 36, 39, 90,
   78, 83, 46, 111, 98, 106, 101, 99, 116, 115, 162, 37, 38, 128, 17, 128, 20, 128, 4, 210, 28, 29, 41, 42, 94,
   78, 83, 77, 117, 116, 97, 98, 108, 101, 65, 114, 114, 97, 121, 163, 41, 43, 33, 87, 78, 83, 65, 114, 114, 97,
   121, 210, 28, 29, 45, 46, 95, 16, 20, 66, 105, 111, 109, 101, 116, 114, 105, 99, 75, 105, 116, 73, 100, 101,
   110, 116, 105, 116, 121, 162, 45, 33, 210, 28, 29, 48, 49, 86, 78, 83, 68, 97, 116, 101, 162, 48, 33, 210, 28,
   29, 51, 52, 95, 16, 21, 66, 105, 111, 109, 101, 116, 114, 105, 99, 75, 105, 116, 65, 99, 99, 101, 115, 115,
   111, 114, 121, 162, 51, 33, 210, 28, 29, 54, 55, 95, 16, 26, 66, 105, 111, 109, 101, 116, 114, 105, 99, 75,
   105, 116, 65, 99, 99, 101, 115, 115, 111, 114, 121, 71, 114, 111, 117, 112, 162, 54, 33, 210, 28, 29, 57, 58,
   86, 78, 83, 85, 85, 73, 68, 162, 57, 33, 87, 66, 117, 105, 108, 116, 105, 110, 212, 61, 62, 63, 24, 64, 65, 66,
   67, 95, 16, 20, 66, 75, 65, 99, 99, 101, 115, 115, 111, 114, 121, 71, 114, 111, 117, 112, 78, 97, 109, 101, 95,
   16, 20, 66, 75, 65, 99, 99, 101, 115, 115, 111, 114, 121, 71, 114, 111, 117, 112, 84, 121, 112, 101, 95, 16,
   20, 66, 75, 65, 99, 99, 101, 115, 115, 111, 114, 121, 71, 114, 111, 117, 112, 85, 85, 73, 68, 128, 10, 16, 1,
   79, 16, 16, 0, 0, 0, 0, 0, 0, 0, 0, 0, 0, 0, 0, 0, 0, 0, 0, 128, 8, 214, 69, 70, 71, 72, 73, 24, 66, 74, 75,
   65, 76, 77, 95, 16, 15, 66, 75, 65, 99, 99, 101, 115, 115, 111, 114, 121, 85, 85, 73, 68, 95, 16, 16, 66, 75,
   65, 99, 99, 101, 115, 115, 111, 114, 121, 70, 108, 97, 103, 115, 95, 16, 15, 66, 75, 65, 99, 99, 101, 115, 115,
   111, 114, 121, 78, 97, 109, 101, 95, 16, 15, 66, 75, 65, 99, 99, 101, 115, 115, 111, 114, 121, 84, 121, 112,
   101, 95, 16, 16, 66, 75, 65, 99, 99, 101, 115, 115, 111, 114, 121, 71, 114, 111, 117, 112, 16, 6, 128, 10, 128,
   11, 128, 7, 210, 79, 24, 80, 81, 92, 78, 83, 46, 117, 117, 105, 100, 98, 121, 116, 101, 115, 79, 16, 16, 0, 0,
   0, 0, 0, 0, 0, 0, 0, 0, 0, 0, 0, 0, 0, 1, 128, 9, 210, 79, 24, 83, 84, 79, 16, 16, 0, 0, 0, 0, 0, 0, 0, 0, 0,
   0, 0, 0, 0, 0, 0, 2, 128, 9, 85, 116, 104, 117, 109, 98, 210, 87, 24, 88, 89, 87, 78, 83, 46, 116, 105, 109,
   101, 35, 0, 0, 0, 0, 0, 0, 0, 0, 128, 6, 221, 91, 92, 93, 94, 95, 96, 97, 98, 99, 100, 101, 102, 24, 103, 104,
   65, 105, 103, 103, 106, 65, 107, 65, 17, 103, 108, 95, 16, 20, 66, 75, 73, 100, 101, 110, 116, 105, 116, 121,
   77, 97, 116, 99, 104, 67, 111, 117, 110, 116, 95, 16, 22, 66, 75, 73, 100, 101, 110, 116, 105, 116, 121, 67,
   114, 101, 97, 116, 105, 111, 110, 84, 105, 109, 101, 95, 16, 22, 66, 75, 73, 100, 101, 110, 116, 105, 116, 121,
   69, 110, 116, 105, 116, 121, 78, 117, 109, 98, 101, 114, 94, 66, 75, 73, 100, 101, 110, 116, 105, 116, 121, 85,
   85, 73, 68, 95, 16, 15, 66, 75, 73, 100, 101, 110, 116, 105, 116, 121, 70, 108, 97, 103, 115, 95, 16, 30, 66,
   75, 73, 100, 101, 110, 116, 105, 116, 121, 77, 97, 116, 99, 104, 67, 111, 117, 110, 116, 67, 111, 110, 116,
   105, 110, 117, 111, 117, 115, 94, 66, 75, 73, 100, 101, 110, 116, 105, 116, 121, 78, 97, 109, 101, 94, 66, 75,
   73, 100, 101, 110, 116, 105, 116, 121, 84, 121, 112, 101, 95, 16, 19, 66, 75, 73, 100, 101, 110, 116, 105, 116,
   121, 65, 99, 99, 101, 115, 115, 111, 114, 121, 95, 16, 21, 66, 75, 73, 100, 101, 110, 116, 105, 116, 121, 85,
   112, 100, 97, 116, 101, 67, 111, 117, 110, 116, 95, 16, 16, 66, 75, 73, 100, 101, 110, 116, 105, 116, 121, 85,
   115, 101, 114, 73, 68, 95, 16, 19, 66, 75, 73, 100, 101, 110, 116, 105, 116, 121, 65, 116, 116, 114, 105, 98,
   117, 116, 101, 16, 0, 128, 16, 79, 16, 16, 0, 0, 0, 0, 0, 0, 0, 0, 0, 0, 0, 0, 0, 0, 0, 3, 128, 15, 128, 12,
   128, 5, 85] ++
  asciiBytes other.name ++
  [210, 87, 24, 88, 111, 128, 6, 221, 91, 92, 93, 94, 95, 96, 97, 98, 99, 100, 101, 102, 24, 103, 113, 114, 115,
   103, 103, 116, 65, 117, 65, 17, 103, 118, 128, 19, 16] ++
  Bytes.be 1 other.entity ++
  [79, 16, 16, 0, 0, 0, 0, 0, 0, 0, 0, 0, 0, 0, 0, 0, 0, 0] ++
  (uuidBytes other.uuid).drop 15 ++
  [128, 18, 128, 12, 128, 5, 0, 8, 0, 17, 0, 26, 0, 36, 0, 41, 0, 50, 0, 55, 0, 73, 0, 86, 0, 104, 0, 125, 0, 150,
   0, 165, 0, 188, 0, 207, 0, 212, 0, 214, 0, 216, 0, 219, 0, 221, 0, 223, 0, 247, 0, 253, 1, 2, 1, 10, 1, 17, 1,
   36, 1, 38, 1, 43, 1, 54, 1, 63, 1, 77, 1, 81, 1, 88, 1, 97, 1, 102, 1, 113, 1, 116, 1, 118, 1, 120, 1, 122, 1,
   127, 1, 142, 1, 146, 1, 154, 1, 159, 1, 182, 1, 185, 1, 190, 1, 197, 1, 200, 1, 205, 1, 229, 1, 232, 1, 237, 2,
   10, 2, 13, 2, 18, 2, 25, 2, 28, 2, 36, 2, 45, 2, 68, 2, 91, 2, 114, 2, 116, 2, 118, 2, 137, 2, 139, 2, 152, 2,
   170, 2, 189, 2, 207, 2, 225, 2, 244, 2, 246, 2, 248, 2, 250, 2, 252, 3, 1, 3, 14, 3, 33, 3, 35, 3, 40, 3, 59,
   3, 61, 3, 67, 3, 72, 3, 80, 3, 89, 3, 91, 3, 118, 3, 141, 3, 166, 3, 191, 3, 206, 3, 224, 4, 1, 4, 16, 4, 31,
   4, 53, 4, 77, 4, 96, 4, 118, 4, 120, 4, 122, 4, 141, 4, 143, 4, 145, 4, 147, 4, 153, 4, 158, 4, 160, 4, 187, 4,
   189, 4, 191, 4, 210, 4, 212, 4, 214, 0, 0, 0, 0, 0, 0, 2, 1, 0, 0, 0, 0, 0, 0, 0, 119, 0, 0, 0, 0, 0, 0, 0, 0,
   0, 0, 0, 0, 0, 0, 4, 216]

/-- … and of a third. -/
def tripleFile (other last : Identity Int) : Bytes :=
  [98, 112, 108, 105, 115, 116, 48, 48, 212, 1, 2, 3, 4, 5, 6, 7, 20, 88, 36, 118, 101, 114, 115, 105, 111, 110,
   89, 36, 97, 114, 99, 104, 105, 118, 101, 114, 84, 36, 116, 111, 112, 88, 36, 111, 98, 106, 101, 99, 116, 115,
   18, 0, 1, 134, 160, 95, 16, 15, 78, 83, 75, 101, 121, 101, 100, 65, 114, 99, 104, 105, 118, 101, 114, 214, 8,
   9, 10, 11, 12, 13, 14, 15, 16, 17, 18, 19, 95, 16, 15, 67, 97, 116, 97, 99, 111, 109, 98, 86, 101, 114, 115,
   105, 111, 110, 95, 16, 18, 67, 97, 116, 97, 99, 111, 109, 98, 83, 101, 99, 117, 114, 101, 68, 97, 116, 97, 95,
   16, 22, 67, 97, 116, 97, 99, 111, 109, 98, 85, 115, 101, 114, 75, 101, 121, 98, 97, 103, 85, 85, 73, 68, 94,
   67, 97, 116, 97, 99, 111, 109, 98, 85, 115, 101, 114, 73, 68, 95, 16, 20, 67, 97, 116, 97, 99, 111, 109, 98,
   73, 100, 101, 110, 116, 105, 116, 121, 76, 105, 115, 116, 95, 16, 16, 67, 97, 116, 97, 99, 111, 109, 98, 85,
   115, 101, 114, 85, 85, 73, 68, 18, 0, 3, 0, 0, 128, 1, 128, 14, 17, 1, 245, 128, 3, 128, 13, 175, 16, 24, 21,
   22, 27, 34, 41, 45, 48, 51, 54, 57, 60, 61, 69, 79, 83, 86, 87, 91, 110, 111, 113, 120, 121, 123, 85, 36, 110,
   117, 108, 108, 210, 23, 24, 25, 26, 87, 78, 83, 46, 100, 97, 116, 97, 86, 36, 99, 108, 97, 115, 115, 79, 16,
   16, 76, 84, 70, 67, 0, 0, 0, 0, 0, 0, 0, 0, 0, 0, 0, 0, 128, 2, 210, 28, 29, 30, 31, 90, 36, 99, 108, 97, 115,
   115, 110, 97, 109, 101, 88, 36, 99, 108, 97, 115, 115, 101, 115, 93, 78, 83, 77, 117, 116, 97, 98, 108, 101,
   68, 97, 116, 97, 163, 30, 32, 33, 86, 78, 83, 68, 97, 116, 97, 88, 78, 83, 79, 98, 106, 101, 99, 116, 210, 35,
   24, 36, 40, 90, 78, 83, 46, 111, 98, 106, 101, 99, 116, 115, 163, 37, 38, 39, 128, 17, 128, 20, 128, 23, 128,
   4, 210, 28, 29, 42, 43, 94, 78, 83, 77, 117, 116, 97, 98, 108, 101, 65, 114, 114, 97, 121, 163, 42, 44, 33, 87,
   78, 83, 65, 114, 114, 97, 121, 210, 28, 29, 46, 47, 95, 16, 20, 66, 105, 111, 109, 101, 116, 114, 105, 99, 75,
   105, 116, 73, 100, 101, 110, 116, 105, 116, 121, 162, 46, 33, 210, 28, 29, 49, 50, 86, 78, 83, 68, 97, 116,
   101, 162, 49, 33, 210, 28, 29, 52, 53, 95, 16, 21, 66, 105, 111, 109, 101, 116, 114, 105, 99, 75, 105, 116, 65,
   99, 99, 101, 115, 115, 111, 114, 121, 162, 52, 33, 210, 28, 29, 55, 56, 95, 16, 26, 66, 105, 111, 109, 101,
   116, 114, 105, 99, 75, 105, 116, 65, 99, 99, 101, 115, 115, 111, 114, 121, 71, 114, 111, 117, 112, 162, 55, 33,
   210, 28, 29, 58, 59, 86, 78, 83, 85, 85, 73, 68, 162, 58, 33, 87, 66, 117, 105, 108, 116, 105, 110, 212, 62,
   63, 64, 24, 65, 66, 67, 68, 95, 16, 20, 66, 75, 65, 99, 99, 101, 115, 115, 111, 114, 121, 71, 114, 111, 117,
   112, 78, 97, 109, 101, 95, 16, 20, 66, 75, 65, 99, 99, 101, 115, 115, 111, 114, 121, 71, 114, 111, 117, 112,
   84, 121, 112, 101, 95, 16, 20, 66, 75, 65, 99, 99, 101, 115, 115, 111, 114, 121, 71, 114, 111, 117, 112, 85,
   85, 73, 68, 128, 10, 16, 1, 79, 16, 16, 0, 0, 0, 0, 0, 0, 0, 0, 0, 0, 0, 0, 0, 0, 0, 0, 128, 8, 214, 70, 71,
   72, 73, 74, 24, 67, 75, 76, 66, 77, 78, 95, 16, 15, 66, 75, 65, 99, 99, 101, 115, 115, 111, 114, 121, 85, 85,
   73, 68, 95, 16, 16, 66, 75, 65, 99, 99, 101, 115, 115, 111, 114, 121, 70, 108, 97, 103, 115, 95, 16, 15, 66,
   75, 65, 99, 99, 101, 115, 115, 111, 114, 121, 78, 97, 109, 101, 95, 16, 15, 66, 75, 65, 99, 99, 101, 115, 115,
   111, 114, 121, 84, 121, 112, 101, 95, 16, 16, 66, 75, 65, 99, 99, 101, 115, 115, 111, 114, 121, 71, 114, 111,
   117, 112, 16, 6, 128, 10, 128, 11, 128, 7, 210, 80, 24, 81, 82, 92, 78, 83, 46, 117, 117, 105, 100, 98, 121,
   116, 101, 115, 79, 16, 16, 0, 0, 0, 0, 0, 0, 0, 0, 0, 0, 0, 0, 0, 0, 0, 1, 128, 9, 210, 80, 24, 84, 85, 79, 16,
   16, 0, 0, 0, 0, 0, 0, 0, 0, 0, 0, 0, 0, 0, 0, 0, 2, 128, 9, 85, 116, 104, 117, 109, 98, 210, 88, 24, 89, 90,
   87, 78, 83, 46, 116, 105, 109, 101, 35, 0, 0, 0, 0, 0, 0, 0, 0, 128, 6, 221, 92, 93, 94, 95, 96, 97, 98, 99,
   100, 101, 102, 103, 24, 104, 105, 66, 106, 104, 104, 107, 66, 108, 66, 17, 104, 109, 95, 16, 20, 66, 75, 73,
   100, 101, 110, 116, 105, 116, 121, 77, 97, 116, 99, 104, 67, 111, 117, 110, 116, 95, 16, 22, 66, 75, 73, 100,
   101, 110, 116, 105, 116, 121, 67, 114, 101, 97, 116, 105, 111, 110, 84, 105, 109, 101, 95, 16, 22, 66, 75, 73,
   100, 101, 110, 116, 105, 116, 121, 69, 110, 116, 105, 116, 121, 78, 117, 109, 98, 101, 114, 94, 66, 75, 73,
   100, 101, 110, 116, 105, 116, 121, 85, 85, 73, 68, 95, 16, 15, 66, 75, 73, 100, 101, 110, 116, 105, 116, 121,
   70, 108, 97, 103, 115, 95, 16, 30, 66, 75, 73, 100, 101, 110, 116, 105, 116, 121, 77, 97, 116, 99, 104, 67,
   111, 117, 110, 116, 67, 111, 110, 116, 105, 110, 117, 111, 117, 115, 94, 66, 75, 73, 100, 101, 110, 116, 105,
   116, 121, 78, 97, 109, 101, 94, 66, 75, 73, 100, 101, 110, 116, 105, 116, 121, 84, 121, 112, 101, 95, 16, 19,
   66, 75, 73, 100, 101, 110, 116, 105, 116, 121, 65, 99, 99, 101, 115, 115, 111, 114, 121, 95, 16, 21, 66, 75,
   73, 100, 101, 110, 116, 105, 116, 121, 85, 112, 100, 97, 116, 101, 67, 111, 117, 110, 116, 95, 16, 16, 66, 75,
   73, 100, 101, 110, 116, 105, 116, 121, 85, 115, 101, 114, 73, 68, 95, 16, 19, 66, 75, 73, 100, 101, 110, 116,
   105, 116, 121, 65, 116, 116, 114, 105, 98, 117, 116, 101, 16, 0, 128, 16, 79, 16, 16, 0, 0, 0, 0, 0, 0, 0, 0,
   0, 0, 0, 0, 0, 0, 0, 3, 128, 15, 128, 12, 128, 5, 85] ++
  asciiBytes other.name ++
  [210, 88, 24, 89, 112, 128, 6, 221, 92, 93, 94, 95, 96, 97, 98, 99, 100, 101, 102, 103, 24, 104, 114, 115, 116,
   104, 104, 117, 66, 118, 66, 17, 104, 119, 128, 19, 16] ++
  Bytes.be 1 other.entity ++
  [79, 16, 16, 0, 0, 0, 0, 0, 0, 0, 0, 0, 0, 0, 0, 0, 0, 0] ++
  (uuidBytes other.uuid).drop 15 ++
  [128, 18, 128, 12, 128, 5, 85] ++
  asciiBytes last.name ++
  [210, 88, 24, 89, 122, 128, 6, 221, 92, 93, 94, 95, 96, 97, 98, 99, 100, 101, 102, 103, 24, 104, 124, 125, 126,
   104, 104, 127, 66, 128, 66, 17, 104, 129, 128, 22, 16] ++
  Bytes.be 1 last.entity ++
  [79, 16, 16, 0, 0, 0, 0, 0, 0, 0, 0, 0, 0, 0, 0, 0, 0, 0] ++
  (uuidBytes last.uuid).drop 15 ++
  [128, 21, 128, 12, 128, 5, 0, 8, 0, 17, 0, 26, 0, 36, 0, 41, 0, 50, 0, 55, 0, 73, 0, 86, 0, 104, 0, 125, 0, 150,
   0, 165, 0, 188, 0, 207, 0, 212, 0, 214, 0, 216, 0, 219, 0, 221, 0, 223, 0, 250, 1, 0, 1, 5, 1, 13, 1, 20, 1,
   39, 1, 41, 1, 46, 1, 57, 1, 66, 1, 80, 1, 84, 1, 91, 1, 100, 1, 105, 1, 116, 1, 120, 1, 122, 1, 124, 1, 126, 1,
   128, 1, 133, 1, 148, 1, 152, 1, 160, 1, 165, 1, 188, 1, 191, 1, 196, 1, 203, 1, 206, 1, 211, 1, 235, 1, 238, 1,
   243, 2, 16, 2, 19, 2, 24, 2, 31, 2, 34, 2, 42, 2, 51, 2, 74, 2, 97, 2, 120, 2, 122, 2, 124, 2, 143, 2, 145, 2,
   158, 2, 176, 2, 195, 2, 213, 2, 231, 2, 250, 2, 252, 2, 254, 3, 0, 3, 2, 3, 7, 3, 20, 3, 39, 3, 41, 3, 46, 3,
   65, 3, 67, 3, 73, 3, 78, 3, 86, 3, 95, 3, 97, 3, 124, 3, 147, 3, 172, 3, 197, 3, 212, 3, 230, 4, 7, 4, 22, 4,
   37, 4, 59, 4, 83, 4, 102, 4, 124, 4, 126, 4, 128, 4, 147, 4, 149, 4, 151, 4, 153, 4, 159, 4, 164, 4, 166, 4,
   193, 4, 195, 4, 197, 4, 216, 4, 218, 4, 220, 4, 222, 4, 228, 4, 233, 4, 235, 5, 6, 5, 8, 5, 10, 5, 29, 5, 31,
   5, 33, 0, 0, 0, 0, 0, 0, 2, 1, 0, 0, 0, 0, 0, 0, 0, 130, 0, 0, 0, 0, 0, 0, 0, 0, 0, 0, 0, 0, 0, 0, 5, 35]

/-- Identities of user 501 that differ in their name, their entity number and their UUID. -/
def finger (uuid entity : Nat) (name : String) : Identity Int :=
  ⟨uuidStr uuid, 501, entity, py name, 1, 0, 0, 0, 0, 1, 0⟩

def thumb : Identity Int := finger 3 1 "thumb"
def indexFinger : Identity Int := finger 4 2 "index"
def pinky : Identity Int := finger 5 3 "pinky"

/-- What is written for these identities. -/
def fingerRoot (identities : List (Identity Int)) : Plist Int :=
  Codec.buildRoot ⟨501, Codec.catacombMagic ++ List.replicate 12 0, uuidStr 1, uuidStr 2, [], []⟩ identities none

def fingerFiles : List (List (Identity Int) × Bytes) :=
  [([thumb], thumbFile), ([thumb, indexFinger], pairFile indexFinger), ([thumb, pinky], pairFile pinky),
   ([thumb, indexFinger, pinky], tripleFile indexFinger pinky), ([thumb, pinky, indexFinger], tripleFile pinky indexFinger)]

/-- The names of the identities in a root, behind the fifteen objects that all have. -/
def fingerNames (root : Plist Int) : List PyStr :=
  match root.node.get Plist.node "$objects" with
  | .list objects => (objects.drop 15).filterMap fun
    | .str name => some name
    | _ => none
  | _ => []

def fingerDumps (root : Plist Int) : Bytes :=
  ((fingerFiles.find? fun file => fingerNames root = file.1.map (·.name)).map Prod.snd).getD []

def fingerLoads (data : Bytes) : Option (Plist Int) :=
  (fingerFiles.find? fun file => data = file.2).map fun file => fingerRoot file.1

/-- The additions of the two other fingers. -/
def addIndex : Edit Int := .add (uuidStr 4) 2 (py "index") (some (.aware 0)) 0
def addPinky : Edit Int := .add (uuidStr 5) 3 (py "pinky") (some (.aware 0)) 0

/-- The UUIDs of a file, in order. -/
def uuidsOf (data : Bytes) : Except Codec.CodecError (List PyStr) :=
  (Codec.decodeUserCatacomb Plist.node fingerLoads 100 data 501).map fun component => component.identities.map (·.uuid)

theorem decode_of_uuidsOf {data : Bytes} {uuids : List PyStr} (h : uuidsOf data = .ok uuids) : ∃ component,
    Codec.decodeUserCatacomb Plist.node fingerLoads 100 data 501 = .ok component ∧
      component.identities.map (·.uuid) = uuids := by
  unfold uuidsOf at h
  cases hdecode : Codec.decodeUserCatacomb Plist.node fingerLoads 100 data 501 with
  | error error =>
    rw [hdecode] at h
    exact nomatch h
  | ok component =>
    rw [hdecode] at h
    exact ⟨component, rfl, Except.ok.inj h⟩

/-- On all that is written, `loads` undoes `dumps`. -/
theorem fingerLoads_dumps : ∀ file ∈ fingerFiles,
    fingerLoads (fingerDumps (fingerRoot file.1)) = some (fingerRoot file.1) := by
  have hfiles : ∀ file ∈ fingerFiles, fingerDumps (fingerRoot file.1) = file.2 ∧
      fingerFiles.find? (fun other => file.2 = other.2) = some file := by
    decide +kernel
  intro file hfile
  obtain ⟨hdumps, hloads⟩ := hfiles file hfile
  rw [hdumps, fingerLoads, hloads]
  rfl

/-- What the codec makes of the files. -/
theorem finger_runs : uuidsOf thumbFile = .ok [uuidStr 3] ∧
    editAll Plist.node fingerLoads 100 fingerDumps 501 thumbFile [addIndex, addPinky] =
      .ok (tripleFile indexFinger pinky) ∧
    editAll Plist.node fingerLoads 100 fingerDumps 501 thumbFile [addPinky, addIndex] =
      .ok (tripleFile pinky indexFinger) ∧
    uuidsOf (tripleFile indexFinger pinky) = .ok [uuidStr 3, uuidStr 4, uuidStr 5] ∧
    uuidsOf (tripleFile pinky indexFinger) = .ok [uuidStr 3, uuidStr 5, uuidStr 4] := by
  decide +kernel

theorem edit_laws_sample : ∃ component edited,
    Codec.decodeUserCatacomb Plist.node fingerLoads 100 thumbFile 501 = .ok component ∧
    Codec.decodeUserCatacomb Plist.node fingerLoads 100 (tripleFile indexFinger pinky) 501 = .ok edited ∧
    edited.model = addPinky.apply (addIndex.apply component.model) := by
  obtain ⟨component, hdecode, -⟩ := decode_of_uuidsOf finger_runs.1
  have hlaws := edit_laws Plist.node fingerLoads 100 fingerDumps hdecode
  obtain ⟨edited, hedited, hmodel⟩ := hlaws.2.2.2.2 [addIndex, addPinky] _ finger_runs.2.1
  exact ⟨component, edited, hdecode, hedited, hmodel⟩

/-- **Two additions do not commute**: `loads` undoes `dumps` on all that is written, the identities are different, both
    orders return, and the order of the list is another. -/
theorem edit_laws_fails : ∃ component written written' edited edited',
    (∀ file ∈ fingerFiles, fingerLoads (fingerDumps (fingerRoot file.1)) = some (fingerRoot file.1)) ∧
    Codec.decodeUserCatacomb Plist.node fingerLoads 100 thumbFile 501 = .ok component ∧
    subject addIndex ≠ subject addPinky ∧
    editAll Plist.node fingerLoads 100 fingerDumps 501 thumbFile [addIndex, addPinky] = .ok written ∧
    editAll Plist.node fingerLoads 100 fingerDumps 501 thumbFile [addPinky, addIndex] = .ok written' ∧
    Codec.decodeUserCatacomb Plist.node fingerLoads 100 written 501 = .ok edited ∧
    Codec.decodeUserCatacomb Plist.node fingerLoads 100 written' 501 = .ok edited' ∧
    edited.model ≠ edited'.model := by
  obtain ⟨huuids, hindexFirst, hpinkyFirst, hpinkyLast, hindexLast⟩ := finger_runs
  obtain ⟨component, hdecode, -⟩ := decode_of_uuidsOf huuids
  obtain ⟨edited, hedited, hmodel⟩ := decode_of_uuidsOf hpinkyLast
  obtain ⟨edited', hedited', hmodel'⟩ := decode_of_uuidsOf hindexLast
  refine ⟨component, _, _, edited, edited', fingerLoads_dumps, hdecode, by decide +kernel, hindexFirst, hpinkyFirst,
    hedited, hedited', fun hsame => ?_⟩
  have horder := congrArg (fun model : Model Int => model.identities.map (·.uuid)) hsame
  have hlists : [uuidStr 3, uuidStr 4, uuidStr 5] = [uuidStr 3, uuidStr 5, uuidStr 4] :=
    hmodel.symm.trans (horder.trans hmodel')
  exact absurd hlists (by decide +kernel)

end T2TouchId.Catacomb
