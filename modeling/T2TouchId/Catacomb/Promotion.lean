/-
  Promotion: what a crash can leave of a Catacomb transaction behind its boundary.

  Once `prepare/` has been renamed to `commit/`, `_roll_forward` moves the files of `commit/` into the
  root one by one.  Between the unlink of an old root file and the rename that replaces it the root
  has no entry under that name, so the root alone is no invariant: `AllPlaced` looks at `commit/` and
  the root together and says where each name stands.  Every effect of a promotion keeps it, no
  promotion raises, and with `commit/` empty it says that the root is the overlay.
-/
import T2TouchId.Catacomb.Staging

namespace T2TouchId.Catacomb

open T2TouchId.Effects

section Promoting

variable {S : Store} (old : CommittedRoot S) (new : ComponentSet S)

/-- Where one name stands: untouched when it was not staged; otherwise its file is still in
    `commit/`, over the old root file or none, or already in the root. -/
def Placed (staged oldRoot commit root : Option File) : Prop :=
  match staged with
  | none => commit = none ∧ root = oldRoot
  | some file => (commit = some file ∧ (root = oldRoot ∨ root = none)) ∨
      (commit = none ∧ root = some file)

/-- The state of a promotion with `files` still in `commit/`. -/
def promotingState (root files : Files) : StoreState := ⟨root, none, some ⟨true, false, files⟩⟩

/-- Every name of a promotion has its place. -/
def AllPlaced (root files : Files) : Prop :=
  ∀ name, Placed (new.files.lookup name) (old.files.lookup name) (files.lookup name)
    (root.lookup name)

/-- The crash states behind the boundary. -/
def Promoting (s : StoreState) : Prop :=
  s = (old.overlay new).state ∨
    ∃ root files, AllPlaced old new root files ∧ s = promotingState root files

variable {old new}

theorem AllPlaced.mem_staged {root files : Files} (h : AllPlaced old new root files)
    {name : ComponentName} {file : File} (hfile : files.lookup name = some file) :
    ∃ data, new.components.lookup name = some data ∧ file = ⟨data, true⟩ := by
  have hplace := h name
  rw [new.lookup_files, hfile] at hplace
  cases hnew : new.components.lookup name with
  | none => rw [hnew] at hplace; exact nomatch hplace.1
  | some data =>
    rw [hnew] at hplace
    rcases hplace with ⟨hcommit, _⟩ | ⟨hcommit, _⟩
    · cases hcommit; exact ⟨data, rfl, rfl⟩
    · exact nomatch hcommit

/-- An old file found under a name still in `commit/` is a valid one. -/
theorem AllPlaced.root_valid {root files : Files} (h : AllPlaced old new root files)
    {name : ComponentName} {file found : File} (hfile : files.lookup name = some file)
    (hfound : root.lookup name = some found) :
    found.secure ∧ S.validateComponent name found.data = .ok () := by
  obtain ⟨data, hdata, rfl⟩ := h.mem_staged hfile
  have hplace := h name
  rw [new.lookup_files, hdata, hfile, hfound] at hplace
  rcases hplace with ⟨_, hroot | hroot⟩ | ⟨hcommit, _⟩
  · exact old.valid name (new.allowed (mem_keys_of_lookup hdata)) found hroot.symm
  · exact nomatch hroot
  · exact nomatch hcommit

theorem AllPlaced.unlinkRoot {root files : Files} (h : AllPlaced old new root files)
    {name : ComponentName} {file : File} (hfile : files.lookup name = some file) :
    AllPlaced old new (root.erase name) files := by
  intro n
  by_cases hn : n = name
  · subst hn
    obtain ⟨data, hdata, rfl⟩ := h.mem_staged hfile
    rw [new.lookup_files, hdata, hfile, Finmap.lookup_erase]
    exact Or.inl ⟨rfl, Or.inr rfl⟩
  · rw [Finmap.lookup_erase_ne hn]
    exact h n

theorem AllPlaced.promote {root files : Files} (h : AllPlaced old new root files)
    {name : ComponentName} {file : File} (hfile : files.lookup name = some file) :
    AllPlaced old new (root.insert name file) (files.erase name) := by
  intro n
  by_cases hn : n = name
  · subst hn
    obtain ⟨data, hdata, rfl⟩ := h.mem_staged hfile
    rw [new.lookup_files, hdata, Finmap.lookup_insert, Finmap.lookup_erase]
    exact Or.inr ⟨rfl, rfl⟩
  · rw [Finmap.lookup_insert_of_ne _ hn, Finmap.lookup_erase_ne hn]
    exact h n

/-- With nothing left in `commit/` the root is the overlay. -/
theorem AllPlaced.root_eq {root : Files} (h : AllPlaced old new root ∅) :
    root = (old.overlay new).files := by
  refine Finmap.ext_lookup fun name => ?_
  have hplace := h name
  rw [Finmap.lookup_empty] at hplace
  show root.lookup name = (new.files ∪ old.files).lookup name
  cases hnew : new.files.lookup name with
  | none =>
    rw [hnew] at hplace
    rw [Finmap.lookup_union_right (Finmap.lookup_eq_none.mp hnew)]
    exact hplace.2
  | some file =>
    rw [hnew] at hplace
    rw [Finmap.lookup_union_left (Finmap.lookup_isSome.mp (by rw [hnew]; rfl)), hnew]
    rcases hplace with ⟨hcommit, _⟩ | ⟨_, hroot⟩
    · exact nomatch hcommit
    · exact hroot

/-- `rest` are the names still in `commit/`. -/
def PromotingRest (old : CommittedRoot S) (new : ComponentSet S) (rest : List ComponentName)
    (s : StoreState) : Prop :=
  rest.Nodup ∧ ∃ root files, AllPlaced old new root files ∧ s = promotingState root files ∧
    ∀ name, name ∈ files.keys ↔ name ∈ rest

theorem promoteComponent_step (name : ComponentName) (rest : List ComponentName) (s : StoreState)
    (h : PromotingRest old new (name :: rest) s) :
    Holds (Promoting old new) (S.promoteComponent name) s
      (fun _ s' => PromotingRest old new rest s') (fun _ _ => False) := by
  obtain ⟨hnodup, root, files, hplaced, rfl, hrest⟩ := h
  obtain ⟨hfresh, hnodup⟩ := List.nodup_cons.mp hnodup
  obtain ⟨file, hfile⟩ := lookup_of_mem_keys ((hrest name).mpr List.mem_cons_self)
  have hI : ∀ {r}, AllPlaced old new r files → Promoting old new (promotingState r files) :=
    fun h => Or.inr ⟨_, _, h, rfl⟩
  -- whether or not an old file had to go, the rename puts the staged one into the root
  have hpromote : ∀ r, AllPlaced old new r files →
      Holds (ε := StoreError) (Promoting old new)
        (do Prog.emit (.promote name); Prog.emit .sync; Prog.emit StoreEffect.sync)
        (promotingState r files) (fun _ s' => PromotingRest old new rest s')
        (fun _ _ => False) := by
    intro r hr
    have happly : StoreEffect.apply (.promote name) (promotingState r files) =
        promotingState (r.insert name file) (files.erase name) := by
      simp [StoreEffect.apply, promoteFile, promotingState, hfile, onFiles]
    have hplaced' := hr.promote hfile
    have hI' : Promoting old new (StoreEffect.apply (.promote name) (promotingState r files)) :=
      Or.inr ⟨_, _, hplaced', happly⟩
    refine Holds.emit_bind (hI hr) (Holds.emit_bind hI' (Holds.emit hI' hI'
      ⟨hnodup, _, _, hplaced', happly, fun n => ?_⟩))
    by_cases hn : n = name
    · subst hn
      refine ⟨fun hmem => ?_, fun hmem => absurd hmem hfresh⟩
      obtain ⟨f, hf⟩ := lookup_of_mem_keys hmem
      rw [Finmap.lookup_erase] at hf
      cases hf
    · have := hrest n
      rw [List.mem_cons, or_iff_right hn] at this
      rw [← this, Finmap.mem_keys, Finmap.mem_keys, ← Finmap.lookup_isSome,
        ← Finmap.lookup_isSome, Finmap.lookup_erase_ne hn]
  unfold Store.promoteComponent
  refine Holds.look_bind (hI hplaced) (Holds.bind (Holds.when (hI hplaced) (fun hsome => ?_)
    (fun _ => hpromote root hplaced)))
  obtain ⟨found, hfound⟩ : ∃ found, root.lookup name = some found :=
    Option.isSome_iff_exists.mp hsome
  obtain ⟨hsecure, hvalid⟩ := hplaced.root_valid hfile hfound
  have hread : (Store.readRegular .root name).result (promotingState root files) =
      .ok found.data := by
    show Store.readEntry name (root.lookup name) = _
    rw [hfound]
    exact Store.readEntry_ok_iff.mpr ⟨⟨hsecure, (Store.length_of_valid hvalid).2⟩, rfl⟩
  refine Holds.quiet_bind (Store.quiet_readRegular _ _) (hI hplaced) (fun data hdata => ?_)
    (fun e he => by cases hread.symm.trans he)
  cases hread.symm.trans hdata
  rw [hvalid]
  have hplaced' := hplaced.unlinkRoot hfile
  exact Holds.bind (Holds.lift (hI hplaced)
    (fun _ _ => Holds.emit (hI hplaced) (hI hplaced') (hpromote _ hplaced')) (fun e he => by cases he))

theorem quiet_validateAgainst (S : Store) (expected : Hashes) (what : String)
    (name : ComponentName) (place : Store.Place) :
    Quiet (S.validateAgainst expected what name place) :=
  Emits.bind (Store.quiet_readRegular _ _) fun _ =>
    Emits.bind (Emits.raiseIf _ _) fun _ => Emits.lift _

/-- A staged file passes the validation loops wherever it is found. -/
theorem validateAgainst_ok {s : StoreState} {name : ComponentName} {data : Bytes} (what : String)
    {place : Store.Place} (hdata : new.components.lookup name = some data)
    (hfound : (place.files s).bind (·.lookup name) = some ⟨data, true⟩) :
    (S.validateAgainst (S.hashes new.components) what name place).result s = .ok () := by
  have hvalid := new.valid name data hdata
  have hread : (Store.readRegular place name).result s = .ok data := by
    show Store.readEntry name ((place.files s).bind (·.lookup name)) = _
    rw [hfound]
    exact Store.readEntry_ok_iff.mpr ⟨⟨rfl, (Store.length_of_valid hvalid).2⟩, rfl⟩
  have hhash : (S.hashes new.components).lookup name = some (S.lib.sha256 data) := by
    rw [Store.hashes, lookup_mapValues, hdata]; rfl
  unfold Store.validateAgainst
  rw [(Store.quiet_readRegular _ _).bind_ok_iff]
  refine ⟨data, hread, ?_⟩
  rw [Quiet.bind_ok_iff (Emits.raiseIf _ _)]
  exact ⟨(), (Prog.result_raiseIf_ok _ _ _).mpr (fun hne => hne hhash), hvalid⟩

theorem quiet_validatePrepare (S : Store) (expected : Hashes) :
    Quiet (S.validatePrepare expected) :=
  Emits.bind Store.quiet_directoryEntries fun _ => Emits.bind (Emits.raiseIf _ _) fun _ =>
    Emits.forM (fun _ => quiet_validateAgainst _ _ _ _ _) _

theorem quiet_validateCommit (S : Store) (expected : Hashes) :
    Quiet (S.validateCommit expected) :=
  Emits.bind Store.quiet_directoryEntries fun _ => Emits.bind (Emits.raiseIf _ _) fun _ =>
    Emits.bind (Emits.forM (fun _ => quiet_validateAgainst _ _ _ _ _) _) fun _ => Emits.pure _

theorem keys_hashes (S : Store) (components : Components) :
    (S.hashes components).keys = components.keys := keys_mapValues _ _

theorem validatePrepare_ok :
    (S.validatePrepare (S.hashes new.components)).result (stagingState old new.files) = .ok () := by
  have hentries : (Store.directoryEntries .prepare).result (stagingState old new.files) =
      .ok new.components.keys := by
    show Except.ok new.files.keys = _
    rw [ComponentSet.files, keys_mapValues]
  unfold Store.validatePrepare
  rw [Store.quiet_directoryEntries.bind_ok_iff]
  refine ⟨_, hentries, ?_⟩
  rw [Quiet.bind_ok_iff (Emits.raiseIf _ _), keys_hashes]
  refine ⟨(), (Prog.result_raiseIf_ok _ _ _).mpr ?_, ?_⟩
  · rintro (h | h)
    · exact h new.allowed
    · exact h rfl
  · refine (Quiet.forM_ok_iff fun _ => quiet_validateAgainst _ _ _ _ _).mpr fun name hname => ?_
    obtain ⟨data, hdata⟩ := lookup_of_mem_keys (mem_sort.mp hname)
    refine validateAgainst_ok _ hdata ?_
    show new.files.lookup name = _
    rw [new.lookup_files, hdata]; rfl

theorem validateCommit_ok {root files : Files} (h : AllPlaced old new root files) :
    (S.validateCommit (S.hashes new.components)).result (promotingState root files) =
      .ok files.keys := by
  have hentries : (Store.directoryEntries .commit).result (promotingState root files) =
      .ok files.keys := rfl
  unfold Store.validateCommit
  rw [Store.quiet_directoryEntries.bind_ok_iff]
  refine ⟨_, hentries, ?_⟩
  rw [Quiet.bind_ok_iff (Emits.raiseIf _ _), keys_hashes]
  refine ⟨(), (Prog.result_raiseIf_ok _ _ _).mpr ?_, ?_⟩
  · rintro (hsub | hsub)
    · refine hsub fun name hname => ?_
      obtain ⟨file, hfile⟩ := lookup_of_mem_keys hname
      obtain ⟨data, hdata, _⟩ := h.mem_staged hfile
      exact mem_keys_of_lookup hdata
    · exact hsub new.allowed
  · rw [Quiet.bind_ok_iff (Emits.forM (fun _ => quiet_validateAgainst _ _ _ _ _) _)]
    refine ⟨(), ?_, rfl⟩
    refine (Quiet.forM_ok_iff fun _ => quiet_validateAgainst _ _ _ _ _).mpr fun name hname => ?_
    obtain ⟨data, hdata⟩ := lookup_of_mem_keys (mem_sort.mp hname)
    have hplace := h name
    rw [new.lookup_files, hdata] at hplace
    refine validateAgainst_ok _ hdata ?_
    split
    · -- not promoted yet
      rename_i hin
      obtain ⟨file, hfile⟩ := lookup_of_mem_keys hin
      show files.lookup name = _
      rcases hplace with ⟨hcommit, _⟩ | ⟨hcommit, _⟩
      · exact hcommit
      · rw [hfile] at hcommit; exact nomatch hcommit
    · rename_i hout
      show root.lookup name = _
      rcases hplace with ⟨hcommit, _⟩ | ⟨_, hroot⟩
      · exact absurd (mem_keys_of_lookup hcommit) hout
      · exact hroot

/-- **`_roll_forward`** from any promotion state ends normally in the overlaid root. -/
theorem rollForward_holds {root files : Files} (h : AllPlaced old new root files) :
    Holds (Promoting old new) (S.rollForward (S.hashes new.components))
      (promotingState root files) (fun _ s => s = (old.overlay new).state) (fun _ _ => False) := by
  have hI : ∀ {r f}, AllPlaced old new r f → Promoting old new (promotingState r f) :=
    fun h => Or.inr ⟨_, _, h, rfl⟩
  unfold Store.rollForward
  refine Holds.quiet_bind (quiet_validateCommit _ _) (hI h) (fun remaining hrem => ?_)
    (fun e he => nomatch (validateCommit_ok h).symm.trans he)
  cases (validateCommit_ok h).symm.trans hrem
  refine Holds.bind ((Holds.forM (PromotingRest old new) ?_ promoteComponent_step _ _
    ⟨nodup_sort _, root, files, h, rfl, fun _ => mem_sort.symm⟩).mono (fun _ hs => hs) ?_
    (fun _ _ hf => hf))
  · rintro rest s ⟨_, r, f, hplaced, rfl, _⟩
    exact hI hplaced
  · rintro _ s ⟨_, r, f, hplaced, rfl, hnone⟩
    have hempty : f = ∅ := Finmap.ext_lookup fun name => by
      rw [Finmap.lookup_empty]
      exact lookup_eq_none_of_not_mem_keys fun h => nomatch (hnone name).mp h
    subst hempty
    have hdone : StoreEffect.apply .rmdirCommit (promotingState r ∅) =
        (old.overlay new).state := by rw [hplaced.root_eq]; rfl
    have hI' : Promoting old new (StoreEffect.apply .rmdirCommit (promotingState r ∅)) :=
      Or.inl hdone
    refine Holds.look_bind (hI hplaced) (Holds.raiseIf_bind (hI hplaced) (fun _ => ?_) ?_)
    · exact Holds.emit_bind (hI hplaced) (Holds.emit hI' hI' hdone)
    · rintro (h | h)
      · exact nomatch h
      · exact absurd rfl h

end Promoting

end T2TouchId.Catacomb
