/-
  Staging: what a crash can leave of a Catacomb transaction before its boundary.

  `stage` writes below `prepare/` only, file by file and byte by byte.

  1. **Data** — `CommittedRoot` is a root whose allowed components are all present and valid,
     `ComponentSet` a nonempty set of valid components that may be staged.  Both carry their validity
     as fields, and `CommittedRoot.overlay` puts the second over the first.
  2. **Invariant** — `Staging`: the root is the old one, `commit/` does not exist, every file in
     `prepare/` is a prefix of its component.
  3. **Results** — `stage_holds`: a valid set is staged without an error, and then `prepare/` holds it
     byte for byte, so that no property of the hash function is needed later.
     `discardPrepare_holds`: a discard ends normally exactly when it accepts every file it found.
-/
import T2TouchId.Catacomb.Store

namespace T2TouchId.Catacomb

open T2TouchId.Effects

/-! ## Valid roots and valid component sets -/

/-- A committed root: every allowed component is there, regular, private and valid. -/
structure CommittedRoot (S : Store) where
  files : Files
  complete : ∀ name ∈ S.allowedNames, name ∈ files
  valid : ∀ name ∈ S.allowedNames, ∀ file, files.lookup name = some file →
    file.secure ∧ S.validateComponent name file.data = .ok ()

/-- A set of components that `stage` accepts. -/
structure ComponentSet (S : Store) where
  components : Components
  nonempty : components.keys ≠ ∅
  allowed : components.keys ⊆ S.allowedNames
  valid : ∀ name data, components.lookup name = some data →
    S.validateComponent name data = .ok ()

namespace CommittedRoot

variable {S : Store}

/-- The store at rest over a root. -/
def state (old : CommittedRoot S) : StoreState := ⟨old.files, none, none⟩

end CommittedRoot

/-- The files that a component set becomes. -/
def ComponentSet.files {S : Store} (new : ComponentSet S) : Files :=
  mapValues (fun data => ⟨data, true⟩) new.components

theorem ComponentSet.lookup_files {S : Store} (new : ComponentSet S) (name : ComponentName) :
    new.files.lookup name = (new.components.lookup name).map fun data => ⟨data, true⟩ :=
  lookup_mapValues _ _ _

theorem mem_keys_of_lookup {α : Type} {m : Finmap fun _ : ComponentName => α} {name : ComponentName}
    {a : α} (h : m.lookup name = some a) : name ∈ m.keys :=
  Finmap.mem_keys.mpr (Finmap.lookup_isSome.mp (by rw [h]; rfl))

theorem lookup_of_mem_keys {α : Type} {m : Finmap fun _ : ComponentName => α} {name : ComponentName}
    (h : name ∈ m.keys) : ∃ a, m.lookup name = some a :=
  Option.isSome_iff_exists.mp (Finmap.lookup_isSome.mpr (Finmap.mem_keys.mp h))

theorem lookup_eq_none_of_not_mem_keys {α : Type} {m : Finmap fun _ : ComponentName => α}
    {name : ComponentName} (h : name ∉ m.keys) : m.lookup name = none :=
  Finmap.lookup_eq_none.mpr fun hm => h (Finmap.mem_keys.mpr hm)

/-- The old root overlaid with the staged components, again a committed root. -/
def CommittedRoot.overlay {S : Store} (old : CommittedRoot S) (new : ComponentSet S) :
    CommittedRoot S where
  files := new.files ∪ old.files
  complete name h := Finmap.mem_union.mpr (Or.inr (old.complete name h))
  valid name h file hfile := by
    rcases hnew : new.components.lookup name with _ | data
    · have hout : name ∉ new.files := by
        rw [← Finmap.lookup_eq_none, new.lookup_files, hnew]; rfl
      rw [Finmap.lookup_union_right hout] at hfile
      exact old.valid name h file hfile
    · have hin : new.files.lookup name = some ⟨data, true⟩ := by rw [new.lookup_files, hnew]; rfl
      rw [Finmap.lookup_union_left (Finmap.lookup_isSome.mp (by rw [hin]; rfl)), hin] at hfile
      cases hfile
      exact ⟨rfl, new.valid name data hnew⟩

/-! ## Before the boundary

Staging issues effects below `prepare/` only.  `Staging` is what holds at every point of it and at
every point of a recovery that discards. -/

section Staging

variable {S : Store} (old : CommittedRoot S) (new : ComponentSet S)

/-- The old root is untouched, and `prepare/`, if it is there, holds prefixes of components. -/
structure Staging (s : StoreState) : Prop where
  root : s.root = old.files
  commit : s.commit = none
  prepare : ∀ d, s.prepare = some d → d.isPrivate ∧ ¬ d.stray ∧
    ∀ name file, d.files.lookup name = some file →
      file.secure ∧ ∃ data, new.components.lookup name = some data ∧ file.data <+: data

/-- The state of a staging run whose `prepare/` holds `files`. -/
def stagingState (files : Files) : StoreState := ⟨old.files, some ⟨true, false, files⟩, none⟩

/-- Files that are prefixes of their components. -/
def Prefixes (files : Files) : Prop :=
  ∀ name file, files.lookup name = some file →
    file.secure ∧ ∃ data, new.components.lookup name = some data ∧ file.data <+: data

variable {old new}

theorem staging_of_prefixes (old : CommittedRoot S) {files : Files} (h : Prefixes new files) :
    Staging old new (stagingState old files) := by
  refine ⟨rfl, rfl, fun d hd => ?_⟩
  cases hd
  exact ⟨rfl, Bool.false_ne_true, h⟩

theorem Prefixes.insert {files : Files} (h : Prefixes new files) {name : ComponentName}
    {data written : Bytes} (hdata : new.components.lookup name = some data)
    (hwritten : written <+: data) : Prefixes new (files.insert name ⟨written, true⟩) := by
  intro n file hfile
  by_cases hn : n = name
  · subst hn
    rw [Finmap.lookup_insert] at hfile
    cases hfile
    exact ⟨rfl, data, hdata, hwritten⟩
  · rw [Finmap.lookup_insert_of_ne _ hn] at hfile
    exact h n file hfile

/-- Writing one more byte of a file under construction. -/
theorem appendByte_insert (name : ComponentName) (byte : UInt8) (written : Bytes) (files : Files) :
    appendByte name byte (files.insert name ⟨written, true⟩) =
      files.insert name ⟨written ++ [byte], true⟩ := by
  simp only [appendByte, Finmap.lookup_insert, Finmap.insert_insert]

/-- `_write_exclusive` leaves a prefix at every crash and the whole component at its end. -/
theorem writeExclusive_holds {files : Files} (h : Prefixes new files) {name : ComponentName}
    {data : Bytes} (hfree : files.lookup name = none)
    (hdata : new.components.lookup name = some data) :
    Holds (Staging old new) (Store.writeExclusive name data) (stagingState old files)
      (fun _ s => s = stagingState old (files.insert name ⟨data, true⟩)) (fun _ _ => False) := by
  have hI := staging_of_prefixes old h
  unfold Store.writeExclusive
  refine Holds.look_bind hI (Holds.raiseIf_bind hI (fun _ => ?_) (fun hex => ?_))
  · refine Holds.emit_bind hI (Holds.bind ?_)
    -- the bytes still to write complete the bytes written to the component
    refine (Holds.forM (X := fun _ _ => False)
      (fun bytes s => ∃ written, written ++ bytes = data ∧
        s = stagingState old (files.insert name ⟨written, true⟩)) ?_ ?_ data _
        ⟨[], rfl, rfl⟩).mono (fun _ hs => hs) ?_ (fun _ _ hf => hf.elim)
    · rintro bytes s ⟨written, hw, rfl⟩
      exact staging_of_prefixes _ (h.insert hdata ⟨bytes, hw⟩)
    · rintro byte bytes s ⟨written, hw, rfl⟩
      have hnext : StoreEffect.apply (.writeStaged name byte)
          (stagingState old (files.insert name ⟨written, true⟩)) =
          stagingState old (files.insert name ⟨written ++ [byte], true⟩) := by
        simp [StoreEffect.apply, stagingState, onFiles, appendByte_insert]
      have hw' : (written ++ [byte]) ++ bytes = data := by rw [← hw]; simp
      refine Holds.emit (staging_of_prefixes _ (h.insert hdata ⟨_, hw⟩)) ?_ ?_
      · show Staging old new (StoreEffect.apply _ _)
        rw [hnext]
        exact staging_of_prefixes _ (h.insert hdata ⟨_, hw'⟩)
      · exact ⟨written ++ [byte], hw', hnext⟩
    · rintro _ s ⟨written, hw, rfl⟩
      rw [List.append_nil] at hw
      subst hw
      have := staging_of_prefixes old (h.insert hdata (List.prefix_refl written))
      exact Holds.emit this this rfl
  · simp [stagingState, hfree] at hex

/-- `stage_component` raises nothing here, and adds its component to `prepare/`. -/
theorem stageComponent_holds {files : Files} (h : Prefixes new files) {name : ComponentName}
    {data : Bytes} (hfree : files.lookup name = none)
    (hdata : new.components.lookup name = some data) :
    Holds (Staging old new) (S.stageComponent name data new.components.keys)
      (stagingState old files)
      (fun _ s => s = stagingState old (files.insert name ⟨data, true⟩)) (fun _ _ => False) := by
  have hI := staging_of_prefixes old h
  unfold Store.stageComponent
  refine Holds.raiseIf_bind hI (fun _ => ?_) (fun hbad => ?_)
  · have hentries : (Store.directoryEntries .prepare).result (stagingState old files) =
        .ok files.keys := rfl
    refine Holds.quiet_bind Store.quiet_directoryEntries hI (fun existing hex => ?_) ?_
    · cases hentries.symm.trans hex
      refine Holds.raiseIf_bind hI (fun _ => ?_) (fun hbad => ?_)
      · rw [new.valid name data hdata]
        refine Holds.bind (Holds.lift hI (fun _ _ => ?_) (fun e he => nomatch he))
        refine Holds.bind ((writeExclusive_holds h hfree hdata).mono (fun _ hs => hs) ?_
          (fun _ _ hf => hf))
        rintro _ s rfl
        have := staging_of_prefixes old (h.insert hdata (List.prefix_refl data))
        exact Holds.emit_bind this (Holds.pure this rfl)
      · -- the directory holds other staged components only
        rcases hbad with hbad | hbad
        · refine hbad fun n hn => ?_
          obtain ⟨file, hfile⟩ := lookup_of_mem_keys hn
          obtain ⟨_, d, hd, _⟩ := h n file hfile
          exact mem_keys_of_lookup hd
        · obtain ⟨file, hfile⟩ := lookup_of_mem_keys hbad
          rw [hfree] at hfile
          exact nomatch hfile
    · intro e he
      exact nomatch hentries.symm.trans he
  · exact hbad.elim (fun hn => hn (mem_keys_of_lookup hdata)) (fun hn => hn new.allowed)

/-- The staged files with the names in `rest` left out. -/
def StagedBut (old : CommittedRoot S) (new : ComponentSet S) (rest : List ComponentName)
    (s : StoreState) : Prop :=
  rest.Nodup ∧ (∀ name ∈ rest, name ∈ new.components.keys) ∧
    ∃ files, s = stagingState old files ∧
      ∀ name, files.lookup name = if name ∈ rest then none else new.files.lookup name

theorem prefixes_of_lookup {files : Files} {rest : List ComponentName}
    (h : ∀ name, files.lookup name = if name ∈ rest then none else new.files.lookup name) :
    Prefixes new files := by
  intro name file hfile
  rw [h name] at hfile
  split at hfile
  · exact nomatch hfile
  · rw [new.lookup_files, Option.map_eq_some_iff] at hfile
    obtain ⟨data, hdata, rfl⟩ := hfile
    exact ⟨rfl, data, hdata, List.prefix_refl data⟩

theorem stageComponent_step (name : ComponentName) (rest : List ComponentName) (s : StoreState)
    (h : StagedBut old new (name :: rest) s) :
    Holds (Staging old new)
      (do let _ ← S.stageComponent name ((new.components.lookup name).getD []) new.components.keys
          pure ()) s
      (fun _ s' => StagedBut old new rest s') (fun _ _ => False) := by
  obtain ⟨hnodup, hkeys, files, rfl, hfiles⟩ := h
  obtain ⟨hfresh, hnodup⟩ := List.nodup_cons.mp hnodup
  obtain ⟨data, hdata⟩ := lookup_of_mem_keys (hkeys name List.mem_cons_self)
  have hpre := prefixes_of_lookup hfiles
  have hfree : files.lookup name = none := by rw [hfiles name, if_pos List.mem_cons_self]
  rw [hdata]
  refine Holds.bind ((stageComponent_holds hpre hfree hdata).mono (fun _ hs => hs) ?_
    (fun _ _ hf => hf))
  rintro _ s rfl
  refine Holds.pure (staging_of_prefixes _ (hpre.insert hdata (List.prefix_refl data)))
    ⟨hnodup, fun n hn => hkeys n (List.mem_cons_of_mem _ hn), _, rfl, fun n => ?_⟩
  by_cases hn : n = name
  · subst hn
    rw [Finmap.lookup_insert, if_neg hfresh, new.lookup_files, hdata]; rfl
  · rw [Finmap.lookup_insert_of_ne _ hn, hfiles n]
    simp [hn]

theorem nodup_sort (s : Finset ComponentName) : s.sort.Nodup := Finset.sort_nodup s (· ≤ ·)

theorem mem_sort {s : Finset ComponentName} {name : ComponentName} : name ∈ s.sort ↔ name ∈ s :=
  Finset.mem_sort (· ≤ ·)

/-- The first loop of `stage` accepts a valid set. -/
theorem validateStaged_ok (s : StoreState) :
    (new.components.keys.sort.forM fun name => Prog.lift (E := StoreEffect)
      ((S.validateComponent name ((new.components.lookup name).getD [])).mapError
        (Store.wrapCodec "staged" name))).result s = .ok () := by
  refine (Quiet.forM_ok_iff fun _ => Emits.lift _).mpr fun name hname => ?_
  obtain ⟨data, hdata⟩ := lookup_of_mem_keys (mem_sort.mp hname)
  simp [hdata, new.valid name data hdata, Except.mapError]

/-- **`stage` of a valid set over a valid root** never raises, is discardable at every crash, and
    ends with exactly the staged files in `prepare/`. -/
theorem stage_holds (old : CommittedRoot S) (new : ComponentSet S) :
    Holds (Staging old new) (S.stage new.components) old.state
      (fun expected s => expected = S.hashes new.components ∧ s = stagingState old new.files)
      (fun _ _ => False) := by
  have hI : Staging old new old.state := ⟨rfl, rfl, fun d hd => nomatch hd⟩
  have hempty : Prefixes new ∅ := fun name file hfile => by simp at hfile
  have hmade : Staging old new (stagingState old ∅) := staging_of_prefixes _ hempty
  unfold Store.stage
  refine Holds.raiseIf_bind hI (fun _ => ?_)
    (fun hbad => hbad.elim new.nonempty (fun hn => hn new.allowed))
  -- every component is validated before `prepare/` exists
  refine Holds.quiet_bind (Emits.forM (fun _ => Emits.lift _) _) hI (fun _ _ => ?_) ?_
  · refine Holds.bind ?_
    unfold Store.beginStage
    refine Holds.raiseIf_bind hI (fun _ => ?_)
      (fun hbad => hbad.elim new.nonempty (fun hn => hn new.allowed))
    refine Holds.look_bind hI (Holds.raiseIf_bind hI (fun _ => ?_) ?_)
    · refine Holds.emit_bind hI (Holds.emit hmade hmade ?_)
      refine Holds.bind ((Holds.forM (StagedBut old new) ?_ stageComponent_step _ _
        ⟨nodup_sort _, fun _ => mem_sort.mp, ∅, rfl, fun name => ?_⟩).mono (fun _ hs => hs) ?_
        (fun _ _ hf => hf))
      · rintro rest s ⟨_, _, files, rfl, hfiles⟩
        exact staging_of_prefixes _ (prefixes_of_lookup hfiles)
      · simp only [Finmap.lookup_empty, mem_sort]
        split
        · rfl
        · rename_i hout
          rw [new.lookup_files, lookup_eq_none_of_not_mem_keys hout]; rfl
      · rintro _ s ⟨_, _, files, rfl, hfiles⟩
        have hall : files = new.files := Finmap.ext_lookup fun name => by
          rw [hfiles name, if_neg List.not_mem_nil]
        subst hall
        exact Holds.pure (staging_of_prefixes _ (prefixes_of_lookup hfiles)) ⟨rfl, rfl⟩
    · rintro (h | h) <;> exact nomatch h
  · intro e he
    exact nomatch (validateStaged_ok old.state).symm.trans he

/-- Every state of staging is the store at rest or has such a `prepare/`. -/
theorem Staging.cases {s : StoreState} (h : Staging old new s) :
    s = old.state ∨ ∃ files, Prefixes new files ∧ s = stagingState old files := by
  obtain ⟨root, prepare, commit⟩ := s
  obtain ⟨rfl, rfl, hprepare⟩ := h
  cases prepare with
  | none => exact Or.inl rfl
  | some d =>
    obtain ⟨hprivate, hstray, hfiles⟩ := hprepare d rfl
    obtain ⟨isPrivate, stray, files⟩ := d
    simp only at hprivate hstray
    subst hprivate
    cases stray with
    | true => exact absurd rfl hstray
    | false => exact Or.inr ⟨files, hfiles, rfl⟩

/-! ### Discarding `prepare/` -/

/-- What `discard_prepare` asks of the files it finds. -/
def Discardable (S : Store) (names : Finset ComponentName) (hashes : Hashes) (files : Files) :
    Prop :=
  names ≠ ∅ ∧ names ⊆ S.allowedNames ∧ hashes.keys ⊆ names ∧ files.keys ⊆ names ∧
    ∀ name file, files.lookup name = some file → (file.secure ∧ file.data.length ≤ maxFileBytes) ∧
      (∀ h, hashes.lookup name = some h → S.lib.sha256 file.data = h) ∧
      S.validateComponent name file.data = .ok ()

theorem validatePrepared_ok_iff {hashes : Hashes} {files : Files} {name : ComponentName}
    {file : File} (hfile : files.lookup name = some file) :
    (S.validatePrepared hashes name).result (stagingState old files) = .ok () ↔
      (file.secure ∧ file.data.length ≤ maxFileBytes) ∧
      (∀ h, hashes.lookup name = some h → S.lib.sha256 file.data = h) ∧
      S.validateComponent name file.data = .ok () := by
  have hread : ∀ data, (Store.readRegular .prepare name).result (stagingState old files) = .ok data ↔
      (file.secure ∧ file.data.length ≤ maxFileBytes) ∧ data = file.data := by
    intro data
    show Store.readEntry name (files.lookup name) = .ok data ↔ _
    rw [hfile]
    exact Store.readEntry_ok_iff
  have hcodec : ((S.validateComponent name file.data).mapError
      (Store.wrapCodec "prepared" name)) = .ok () ↔ S.validateComponent name file.data = .ok () := by
    cases S.validateComponent name file.data <;> simp [Except.mapError]
  unfold Store.validatePrepared
  rw [(Store.quiet_readRegular _ _).bind_ok_iff]
  constructor
  · rintro ⟨data, hdata, hrest⟩
    obtain ⟨hsafe, rfl⟩ := (hread data).mp hdata
    rw [Quiet.bind_ok_iff (Emits.raiseIf _ _)] at hrest
    obtain ⟨_, hhash, hvalid⟩ := hrest
    rw [Prog.result_raiseIf_ok] at hhash
    refine ⟨hsafe, fun h hh => ?_, hcodec.mp hvalid⟩
    by_contra hne
    exact hhash ⟨h, hh, hne⟩
  · rintro ⟨hsafe, hhash, hvalid⟩
    refine ⟨file.data, (hread _).mpr ⟨hsafe, rfl⟩, ?_⟩
    rw [Quiet.bind_ok_iff (Emits.raiseIf _ _)]
    refine ⟨(), (Prog.result_raiseIf_ok _ _ _).mpr ?_, hcodec.mpr hvalid⟩
    rintro ⟨h, hh, hne⟩
    exact hne (hhash h hh)

theorem quiet_validatePrepared (S : Store) (hashes : Hashes) (name : ComponentName) :
    Quiet (S.validatePrepared hashes name) :=
  Emits.bind (Store.quiet_readRegular _ _) fun _ =>
    Emits.bind (Emits.raiseIf _ _) fun _ => Emits.lift _

/-- The files still to unlink are those of `rest`. -/
def Unlinking (old : CommittedRoot S) (new : ComponentSet S) (rest : List ComponentName)
    (s : StoreState) : Prop :=
  ∃ files, s = stagingState old files ∧ Prefixes new files ∧ ∀ name ∈ files.keys, name ∈ rest

theorem unlinkPrepared_step (name : ComponentName) (rest : List ComponentName) (s : StoreState)
    (h : Unlinking old new (name :: rest) s) :
    Holds (ε := StoreError) (Staging old new) (Prog.emit (StoreEffect.unlinkPrepared name)) s
      (fun _ s' => Unlinking old new rest s') (fun _ _ => False) := by
  obtain ⟨files, rfl, hpre, hrest⟩ := h
  have hlook : ∀ n file, (files.erase name).lookup n = some file →
      n ≠ name ∧ files.lookup n = some file := by
    intro n file hn
    by_cases hname : n = name
    · subst hname; rw [Finmap.lookup_erase] at hn; exact nomatch hn
    · exact ⟨hname, by rwa [Finmap.lookup_erase_ne hname] at hn⟩
  have hpre' : Prefixes new (files.erase name) := fun n file hn => hpre n file (hlook n file hn).2
  refine Holds.emit (staging_of_prefixes _ hpre) (staging_of_prefixes _ hpre')
    ⟨files.erase name, rfl, hpre', fun n hn => ?_⟩
  obtain ⟨file, hfile⟩ := lookup_of_mem_keys hn
  obtain ⟨hne, hold⟩ := hlook n file hfile
  exact (List.mem_cons.mp (hrest n (mem_keys_of_lookup hold))).resolve_left hne

/-- **`discard_prepare`** keeps the old root at every crash; it ends normally, back at rest, exactly
    when the files it found are the ones it may discard. -/
theorem discardPrepare_holds (old : CommittedRoot S) {files : Files} (hpre : Prefixes new files)
    (names : Finset ComponentName) (hashes : Hashes) :
    Holds (Staging old new) (S.discardPrepare names hashes) (stagingState old files)
      (fun _ s => s = old.state ∧ Discardable S names hashes files)
      (fun _ _ => ¬ Discardable S names hashes files) := by
  have hI := staging_of_prefixes old hpre
  have hentries : (Store.directoryEntries .prepare).result (stagingState old files) =
      .ok files.keys := rfl
  unfold Store.discardPrepare
  refine Holds.raiseIf_bind hI (fun hexp => ?_) (fun hbad ⟨h1, h2, h3, _⟩ => ?_)
  · simp only [not_or, not_not] at hexp
    obtain ⟨hnames, hallowed, hsub⟩ := hexp
    refine Holds.quiet_bind Store.quiet_directoryEntries hI (fun found hfound => ?_)
      (fun e he => nomatch hentries.symm.trans he)
    cases hentries.symm.trans hfound
    refine Holds.raiseIf_bind hI (fun hfiles => ?_) (fun hbad ⟨_, _, _, h4, _⟩ => hbad h4)
    rw [not_not] at hfiles
    have hchecks : ((files.keys.sort.forM fun name => S.validatePrepared hashes name).result
        (stagingState old files) = .ok ()) ↔ Discardable S names hashes files := by
      rw [Quiet.forM_ok_iff (quiet_validatePrepared S hashes)]
      constructor
      · intro hall
        refine ⟨hnames, hallowed, hsub, hfiles, fun name file hfile => ?_⟩
        exact (validatePrepared_ok_iff hfile).mp
          (hall name (mem_sort.mpr (mem_keys_of_lookup hfile)))
      · rintro ⟨_, _, _, _, hall⟩ name hname
        obtain ⟨file, hfile⟩ := lookup_of_mem_keys (mem_sort.mp hname)
        exact (validatePrepared_ok_iff hfile).mpr (hall name file hfile)
    refine Holds.quiet_bind (Emits.forM (quiet_validatePrepared S hashes) _) hI
      (fun _ hok => ?_) (fun e he hd => nomatch he.symm.trans (hchecks.mpr hd))
    have hd := hchecks.mp hok
    refine Holds.bind ((Holds.forM (Unlinking old new) ?_ unlinkPrepared_step _ _
      ⟨files, rfl, hpre, fun _ => mem_sort.mpr⟩).mono (fun _ hs => hs) ?_ (fun _ _ hf => hf.elim))
    · rintro rest s ⟨files, rfl, hpre, _⟩
      exact staging_of_prefixes _ hpre
    · rintro _ s ⟨rest, rfl, hrest, hnone⟩
      have hempty : rest = ∅ := Finmap.ext_lookup fun name => by
        rw [Finmap.lookup_empty]
        exact lookup_eq_none_of_not_mem_keys fun h => nomatch hnone name h
      subst hempty
      have hs := staging_of_prefixes old hrest
      have hdone : Staging old new old.state := ⟨rfl, rfl, fun d hd => nomatch hd⟩
      refine Holds.emit_bind hs (Holds.look_bind hs (Holds.raiseIf_bind hs (fun _ => ?_) ?_))
      · exact Holds.emit_bind hs (Holds.emit hdone hdone ⟨rfl, hd⟩)
      · rintro (h | h)
        · exact nomatch h
        · exact absurd rfl h
  · exact hbad.elim h1 (fun h => h.elim (fun h => h h2) (fun h => h h3))

end Staging

end T2TouchId.Catacomb
