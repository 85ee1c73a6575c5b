import Vectis.Core.Error
import Vectis.Lib.FileSystem

/-!
# Creating files atomically

`write_new_file_atomically` and `remove_created_file_and_sync` of `core/files.rs`, over a file system whose operations
may fail at any point.

- `attempt`: the operations up to the first failure, with what was done so far;
- `Undoable`: what the progress says about the files, and `attempt_keeps`, `rollback_undoable`;
- `writeNewFileAtomically_spec`: nothing changes on an error, and on success one new file holds the content.
-/

namespace Vectis.Core.Files

open FileSystem

/-! ## Paths -/

/-- A path: its directory (`.` when it has none) and its file name. Different paths name different files. -/
structure Path where
  parent : String
  fileName : Option String
  deriving DecidableEq, Repr

abbrev FileMap := FileSystem.Files Path

def temporaryName (fileName : String) (process counter : Nat) : String :=
  "." ++ fileName ++ "." ++ toString process ++ "." ++ toString counter ++ ".tmp"

/-! ## Writing -/

/-- The operations of `write_new_file_atomically` that may fail. -/
inductive Step
  | create
  | write
  | sync
  | link
  | removeTemporary
  | openParent
  | syncParent
  | rollbackDestination
  | rollbackTemporary
  | rollbackOpen
  | rollbackSync
  deriving DecidableEq, Repr

def Step.isRollback : Step → Bool
  | rollbackDestination | rollbackTemporary | rollbackOpen | rollbackSync => true
  | _ => false

/-- Which operations of a call fail. -/
abbrev Faults := Step → Option Fault

/-- The files, and what was done so far. -/
structure Progress where
  files : FileMap
  temporaryCreated : Bool
  destinationLinked : Bool

abbrev Attempt := EStateM IoError Progress Unit

def perform (op : Op Path) : Attempt := fun s =>
  match op s.files with
  | (.ok _, files) => .ok () { s with files := files }
  | (.error e, files) => .error e { s with files := files }

def createTemporary (faults : Faults) (temporaryPath : Path) : Attempt := do
  perform (Op.createNew (faults .create) temporaryPath)
  modify fun s => { s with temporaryCreated := true }

def linkDestination (faults : Faults) (temporaryPath path : Path) : Attempt := do
  perform (Op.hardLink (faults .link) temporaryPath path)
  modify fun s => { s with destinationLinked := true }

/-- The operations of `write_new_file_atomically`. -/
def attempt (faults : Faults) (temporaryPath path : Path) (content : List UInt8) : Attempt := do
  createTemporary faults temporaryPath
  perform (Op.writeAll (faults .write) temporaryPath content)
  perform (Op.syncAll (faults .sync))
  linkDestination faults temporaryPath path
  perform (Op.removeFile (faults .removeTemporary) temporaryPath)
  perform (Op.syncAll (faults .openParent))
  perform (Op.syncAll (faults .syncParent))

/-- The removal of a file, when this call created it: the errors, whether it is gone, and the files. -/
def undo (created : Bool) (fault : Option Fault) (path : Path) (files : FileMap) : List String × Bool × FileMap :=
  if created then
    match Op.removeFile fault path files with
    | (.error .notFound, files) => ([], true, files)
    | (.error e, files) => ([e.toText], false, files)
    | (.ok _, files) => ([], true, files)
  else ([], false, files)

def syncDirectory (openFault syncFault : Option Fault) : Op Path := fun files =>
  match Op.syncAll openFault files with
  | (.error e, files) => (.error e, files)
  | (.ok _, files) => Op.syncAll syncFault files

/-- The rollback errors and the files after the rollback. -/
def rollback (faults : Faults) (temporaryPath path : Path) (s : Progress) : List String × FileMap :=
  let (destinationErrors, destinationRemoved, files) :=
    undo s.destinationLinked (faults .rollbackDestination) path s.files
  let (temporaryErrors, temporaryRemoved, files) :=
    undo s.temporaryCreated (faults .rollbackTemporary) temporaryPath files
  let errors := destinationErrors ++ temporaryErrors
  if destinationRemoved || temporaryRemoved then
    match syncDirectory (faults .rollbackOpen) (faults .rollbackSync) files with
    | (.error e, files) => (errors ++ [e.toText], files)
    | (.ok _, files) => (errors, files)
  else (errors, files)

def writeNewFileAtomically (faults : Faults) (process counter : Nat) (path : Path) (content : List UInt8)
    (label : String) (files : FileMap) : Except DynError Unit × FileMap :=
  match path.fileName with
  | none => (.error (.invalidInput (label ++ " path must name a file")), files)
  | some fileName =>
    let temporaryPath : Path := ⟨path.parent, some (temporaryName fileName process counter)⟩
    match attempt faults temporaryPath path content ⟨files, false, false⟩ with
    | .ok _ s => (.ok (), s.files)
    | .error error s =>
      match rollback faults temporaryPath path s with
      | ([], files) => (.error (.other error.toText), files)
      | (errors, files) =>
        (.error (.internal (error.toText ++ "; atomic write rollback failed: " ++ "; ".intercalate errors)), files)

/-! ## What is done can be undone -/

/-- What was created did not exist before, and no other file has changed. -/
structure Undoable (files₀ : FileMap) (temporaryPath path : Path) (s : Progress) : Prop where
  others : ∀ other, other ≠ temporaryPath → other ≠ path → s.files other = files₀ other
  temporary : if s.temporaryCreated then files₀ temporaryPath = none else s.files temporaryPath = files₀ temporaryPath
  destination : if s.destinationLinked then files₀ path = none else s.files path = files₀ path

section

variable {faults : Faults} {temporaryPath path : Path} {content : List UInt8} {files₀ files : FileMap}

/-- The temporary file holds something, and nothing else has changed. -/
def Written (files₀ : FileMap) (temporaryPath : Path) (content : List UInt8) (s : Progress) : Prop :=
  files₀ temporaryPath = none ∧ s = ⟨Function.update files₀ temporaryPath (some content), true, false⟩

/-- The destination holds the content, with or without the temporary file. -/
def Linked (files₀ : FileMap) (temporaryPath path : Path) (content : List UInt8) (temporary : Option (List UInt8))
    (s : Progress) : Prop :=
  files₀ temporaryPath = none ∧ files₀ path = none ∧
    s = ⟨Function.update (Function.update files₀ temporaryPath temporary) path (some content), true, true⟩

theorem undoable_of_written (hne : temporaryPath ≠ path) {s : Progress} (h : Written files₀ temporaryPath content s) :
    Undoable files₀ temporaryPath path s := by
  obtain ⟨hnone, rfl⟩ := h
  exact ⟨fun other hother _ => Function.update_of_ne hother _ _, hnone, Function.update_of_ne hne.symm _ _⟩

theorem undoable_of_linked {temporary : Option (List UInt8)} {s : Progress}
    (h : Linked files₀ temporaryPath path content temporary s) : Undoable files₀ temporaryPath path s := by
  obtain ⟨hnone, hpath, rfl⟩ := h
  refine ⟨fun other hother hother' => ?_, hnone, hpath⟩
  exact (Function.update_of_ne hother' _ _).trans (Function.update_of_ne hother _ _)

theorem perform_triple {op : Op Path} {pre post exc : Progress → Prop}
    (h : ∀ s result files, pre s → op s.files = (result, files) →
      (result = .ok () → post { s with files := files }) ∧ ∀ e, result = .error e → exc { s with files := files }) :
    Triple pre (perform op) post exc := by
  intro s hs
  unfold perform
  cases hop : op s.files with
  | mk result files =>
    obtain ⟨hok, herror⟩ := h s result files hs hop
    cases result with
    | ok => exact hok rfl
    | error e => exact herror e rfl

/-- An operation that changes no file. -/
theorem sync_triple {fault : Option Fault} {inv exc : Progress → Prop} (h : ∀ s, inv s → exc s) :
    Triple inv (perform (Op.syncAll fault)) inv exc := by
  refine perform_triple fun s result files hs hop => ?_
  rw [syncAll_files hop]
  exact ⟨fun _ => hs, fun _ _ => h s hs⟩

theorem createTemporary_triple :
    Triple (· = ⟨files₀, false, false⟩) (createTemporary faults temporaryPath) (Written files₀ temporaryPath [])
      (Undoable files₀ temporaryPath path) := by
  have hcreate : Triple (· = ⟨files₀, false, false⟩) (perform (Op.createNew (faults .create) temporaryPath))
      (fun s => files₀ temporaryPath = none ∧ s = ⟨Function.update files₀ temporaryPath (some []), false, false⟩)
      (Undoable files₀ temporaryPath path) := by
    refine perform_triple fun s result files hs hop => ?_
    subst hs
    obtain ⟨⟨e, rfl⟩, rfl⟩ | ⟨rfl, hnone, rfl⟩ := createNew_cases hop
    · exact ⟨nofun, fun _ _ => ⟨fun _ _ _ => rfl, rfl, rfl⟩⟩
    · exact ⟨fun _ => ⟨hnone, rfl⟩, nofun⟩
  refine hcreate.seq ?_
  rintro s ⟨hnone, rfl⟩
  exact ⟨hnone, rfl⟩

theorem writeTemporary_triple (hne : temporaryPath ≠ path) :
    Triple (Written files₀ temporaryPath []) (perform (Op.writeAll (faults .write) temporaryPath content))
      (Written files₀ temporaryPath content) (Undoable files₀ temporaryPath path) := by
  refine perform_triple fun s result files hs hop => ?_
  obtain ⟨hnone, rfl⟩ := hs
  obtain ⟨written, rfl, hwritten⟩ := writeAll_cases hop
  rw [Function.update_idem]
  refine ⟨fun hok => ?_, fun e _ => undoable_of_written hne ⟨hnone, rfl⟩⟩
  rw [hwritten hok]
  exact ⟨hnone, rfl⟩

theorem linkDestination_triple (hne : temporaryPath ≠ path) :
    Triple (Written files₀ temporaryPath content) (linkDestination faults temporaryPath path)
      (Linked files₀ temporaryPath path content (some content)) (Undoable files₀ temporaryPath path) := by
  have hlink : Triple (Written files₀ temporaryPath content) (perform (Op.hardLink (faults .link) temporaryPath path))
      (fun s => files₀ temporaryPath = none ∧ files₀ path = none ∧
        s = ⟨Function.update (Function.update files₀ temporaryPath (some content)) path (some content), true, false⟩)
      (Undoable files₀ temporaryPath path) := by
    refine perform_triple fun s result files hs hop => ?_
    obtain ⟨⟨e, rfl⟩, rfl⟩ | ⟨rfl, hpath, rfl⟩ := hardLink_cases hop
    · exact ⟨nofun, fun _ _ => undoable_of_written hne hs⟩
    · obtain ⟨hnone, rfl⟩ := hs
      dsimp only at hpath ⊢
      rw [Function.update_of_ne hne.symm] at hpath
      rw [Function.update_self]
      exact ⟨fun _ => ⟨hnone, hpath, rfl⟩, nofun⟩
  refine hlink.seq ?_
  rintro s ⟨hnone, hpath, rfl⟩
  exact ⟨hnone, hpath, rfl⟩

theorem removeTemporary_triple (hne : temporaryPath ≠ path) :
    Triple (Linked files₀ temporaryPath path content (some content))
      (perform (Op.removeFile (faults .removeTemporary) temporaryPath))
      (Linked files₀ temporaryPath path content none) (Undoable files₀ temporaryPath path) := by
  refine perform_triple fun s result files hs hop => ?_
  obtain ⟨⟨e, rfl⟩, rfl⟩ | ⟨rfl, rfl⟩ := removeFile_cases hop
  · exact ⟨nofun, fun _ _ => undoable_of_linked hs⟩
  · obtain ⟨hnone, hpath, rfl⟩ := hs
    dsimp only
    rw [Function.update_comm hne.symm, Function.update_idem]
    exact ⟨fun _ => ⟨hnone, hpath, rfl⟩, nofun⟩

/-- Either everything was done, or what was done can be undone. -/
theorem attempt_triple (hne : temporaryPath ≠ path) :
    Triple (· = ⟨files₀, false, false⟩) (attempt faults temporaryPath path content)
      (Linked files₀ temporaryPath path content none) (Undoable files₀ temporaryPath path) :=
  createTemporary_triple.seq <| (writeTemporary_triple hne).seq <|
    (sync_triple fun _ => undoable_of_written hne).seq <| (linkDestination_triple hne).seq <|
      (removeTemporary_triple hne).seq <| (sync_triple fun _ => undoable_of_linked).seq <|
        sync_triple fun _ => undoable_of_linked

/-- The files without one that was created. -/
def without (created : Bool) (path : Path) (files : FileMap) : FileMap :=
  if created then Function.update files path none else files

theorem undo_none (created : Bool) (path : Path) (files : FileMap) :
    undo created none path files = ([], created, without created path files) := by
  cases created with
  | false => rfl
  | true =>
    obtain h | h := removeFile_none path files
    all_goals simp [undo, without, h]

theorem without_self {created : Bool} (h : if created then files₀ path = none else files path = files₀ path) :
    without created path files path = files₀ path := by
  cases created with
  | false => exact h
  | true => exact (Function.update_self path none files).trans h.symm

theorem without_of_ne {created : Bool} {other : Path} (h : other ≠ path) :
    without created path files other = files other := by
  cases created with
  | false => rfl
  | true => exact Function.update_of_ne h none files

/-- The rollback restores the files. -/
theorem rollback_undoable (hfaults : ∀ step, step.isRollback = true → faults step = none) (hne : temporaryPath ≠ path)
    {s : Progress} (h : Undoable files₀ temporaryPath path s) :
    rollback faults temporaryPath path s = ([], files₀) := by
  have hfiles : without s.temporaryCreated temporaryPath (without s.destinationLinked path s.files) = files₀ := by
    funext other
    by_cases htemporary : other = temporaryPath
    · subst htemporary
      refine without_self ?_
      rw [without_of_ne hne]
      exact h.temporary
    · rw [without_of_ne htemporary]
      by_cases hpath : other = path
      · subst hpath
        exact without_self h.destination
      · rw [without_of_ne hpath]
        exact h.others other htemporary hpath
  unfold rollback
  rw [hfaults .rollbackDestination rfl, hfaults .rollbackTemporary rfl, hfaults .rollbackOpen rfl,
    hfaults .rollbackSync rfl]
  simp only [undo_none, hfiles]
  split
  · rfl
  · rfl

theorem temporaryName_ne (fileName : String) (process counter : Nat) :
    temporaryName fileName process counter ≠ fileName := by
  intro h
  have hlength := congrArg String.length h
  simp only [temporaryName, String.length_append] at hlength
  have hdot : (".").length = 1 := rfl
  omega

end

/-! ## One file -/

/-- The file was not there before, and is all that is there now that was not. -/
def Created (path : Path) (content : List UInt8) (files files' : FileMap) : Prop :=
  files path = none ∧ files' = Function.update files path (some content)

/-- On an error no file has changed; on success the destination has been created and no temporary file is left. -/
theorem writeNewFileAtomically_spec {faults : Faults} {process counter : Nat} {path : Path} {content : List UInt8}
    {label : String} {files files' : FileMap} {result : Except DynError Unit}
    (hfaults : ∀ step, step.isRollback = true → faults step = none)
    (h : writeNewFileAtomically faults process counter path content label files = (result, files')) :
    ((∃ e, result = .error e) ∧ files' = files) ∨ (result = .ok () ∧ Created path content files files' ∧
      ∀ fileName ∈ path.fileName, files' ⟨path.parent, some (temporaryName fileName process counter)⟩ = none) := by
  unfold writeNewFileAtomically at h
  split at h
  · cases h
    exact .inl ⟨⟨_, rfl⟩, rfl⟩
  · rename_i fileName hname
    have hne : (⟨path.parent, some (temporaryName fileName process counter)⟩ : Path) ≠ path := by
      intro heq
      have hfileName := congrArg Path.fileName heq
      rw [hname] at hfileName
      exact temporaryName_ne fileName process counter (Option.some.inj hfileName)
    simp only at h
    split at h
    · rename_i s hattempt
      cases h
      obtain ⟨hnone, hpath, rfl⟩ := (attempt_triple hne).ok rfl hattempt
      have hremoved : Function.update files ⟨path.parent, some (temporaryName fileName process counter)⟩ none =
          files := by
        rw [← hnone]
        exact Function.update_eq_self _ files
      dsimp only
      rw [hremoved]
      refine .inr ⟨rfl, ⟨hpath, rfl⟩, fun other hother => ?_⟩
      rw [hname] at hother
      cases hother
      exact (Function.update_of_ne hne _ _).trans hnone
    · rename_i error s hattempt
      rw [rollback_undoable hfaults hne ((attempt_triple hne).error rfl hattempt)] at h
      cases h
      exact .inl ⟨⟨_, rfl⟩, rfl⟩

/-! ## Removing a created file -/

/-- The operations of `remove_created_file_and_sync` that may fail. -/
inductive RemoveStep
  | remove
  | openParent
  | syncParent
  deriving DecidableEq, Repr

def removeCreatedFileAndSync (faults : RemoveStep → Option Fault) (path : Path) (label : String) (files : FileMap) :
    Except DynError Unit × FileMap :=
  match Op.removeFile (faults .remove) path files with
  | (.error e, files) => (.error (.internal (label ++ " could not be removed: " ++ e.toText)), files)
  | (.ok _, files) =>
    match syncDirectory (faults .openParent) (faults .syncParent) files with
    | (.error e, files) =>
      (.error (.internal (label ++ " parent directory could not be synchronized: " ++ e.toText)), files)
    | (.ok _, files) => (.ok (), files)

/-- A file that was created is removed again. -/
theorem removeCreatedFile_created {path : Path} {content : List UInt8} {label : String} {files files' : FileMap}
    (h : Created path content files files') :
    removeCreatedFileAndSync (fun _ => none) path label files' = (.ok (), files) := by
  obtain ⟨hpath, rfl⟩ := h
  have hrestored : Function.update (Function.update files path (some content)) path none = files := by
    rw [Function.update_idem, ← hpath, Function.update_eq_self]
  simp [removeCreatedFileAndSync, Op.removeFile, syncDirectory, Op.syncAll, hrestored]

end Vectis.Core.Files
