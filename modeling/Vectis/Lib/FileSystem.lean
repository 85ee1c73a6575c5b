import Mathlib.Logic.Function.Basic

/-!
# File systems whose operations may fail

A file system is a map from paths to contents. An operation is given the fault it meets, if any: it then fails and
changes nothing, except that a failing write leaves the bytes it has written.

- `Op.createNew`, `Op.writeAll`, `Op.hardLink`, `Op.rename`, `Op.removeFile`, `Op.syncAll`: the operations;
- `Triple`: what holds when a program with errors ends well, and when it fails, and the rules of sequences
  (`Triple.seq`) and of operations (`run_triple`).
-/

namespace FileSystem

/-! ## Operations -/

inductive IoError
  | notFound
  | alreadyExists
  | other (message : String)
  deriving DecidableEq, Repr

/-- `io::Error::to_string`. -/
def IoError.toText : IoError → String
  | notFound => "No such file or directory (os error 2)"
  | alreadyExists => "File exists (os error 17)"
  | other message => message

/-- Why an operation fails, and how many bytes a failing write has written. -/
structure Fault where
  error : IoError
  written : Nat
  deriving DecidableEq, Repr

/-- The files of the file system. -/
abbrev Files (P : Type) := P → Option (List UInt8)

variable {P : Type} [DecidableEq P]

/-- An operation: its result, and the files after it. -/
abbrev Op (P : Type) := Files P → Except IoError Unit × Files P

namespace Op

/-- `OpenOptions::create_new`. -/
def createNew (fault : Option Fault) (path : P) : Op P := fun files =>
  match fault with
  | some fault => (.error fault.error, files)
  | none => if (files path).isSome then (.error .alreadyExists, files) else (.ok (),
      Function.update files path (some []))

/-- `write_all` to a file that was just created. -/
def writeAll (fault : Option Fault) (path : P) (content : List UInt8) : Op P := fun files =>
  match fault with
  | some fault => (.error fault.error, Function.update files path (some (content.take fault.written)))
  | none => (.ok (), Function.update files path (some content))

/-- `sync_all`, and the opening of a directory. -/
def syncAll (fault : Option Fault) : Op P := fun files =>
  match fault with
  | some fault => (.error fault.error, files)
  | none => (.ok (), files)

def hardLink (fault : Option Fault) (source destination : P) : Op P := fun files =>
  match fault, files source with
  | some fault, _ => (.error fault.error, files)
  | none, none => (.error .notFound, files)
  | none, some content =>
    if (files destination).isSome then (.error .alreadyExists, files)
    else (.ok (), Function.update files destination (some content))

def rename (fault : Option Fault) (source destination : P) : Op P := fun files =>
  match fault, files source with
  | some fault, _ => (.error fault.error, files)
  | none, none => (.error .notFound, files)
  | none, some content => (.ok (), Function.update (Function.update files source none) destination (some content))

def removeFile (fault : Option Fault) (path : P) : Op P := fun files =>
  match fault with
  | some fault => (.error fault.error, files)
  | none => if (files path).isSome then (.ok (), Function.update files path none) else (.error .notFound, files)

end Op

section Results

variable {files files' : Files P} {path source destination : P} {content : List UInt8} {fault : Option Fault}
  {result : Except IoError Unit}

theorem createNew_cases (h : Op.createNew fault path files = (result, files')) :
    (∃ e, result = .error e) ∧ files' = files ∨
      result = .ok () ∧ files path = none ∧ files' = Function.update files path (some []) := by
  unfold Op.createNew at h
  split at h
  · cases h
    exact .inl ⟨⟨_, rfl⟩, rfl⟩
  · split at h
    · cases h
      exact .inl ⟨⟨_, rfl⟩, rfl⟩
    · rename_i hnone
      cases h
      exact .inr ⟨rfl, by simpa using hnone, rfl⟩

theorem writeAll_cases (h : Op.writeAll fault path content files = (result, files')) :
    ∃ written, files' = Function.update files path (some written) ∧ (result = .ok () → written = content) := by
  unfold Op.writeAll at h
  split at h
  · cases h
    exact ⟨_, rfl, nofun⟩
  · cases h
    exact ⟨_, rfl, fun _ => rfl⟩

omit [DecidableEq P] in
theorem syncAll_files (h : Op.syncAll fault files = (result, files')) : files' = files := by
  unfold Op.syncAll at h
  split at h
  all_goals
    cases h
    rfl

theorem hardLink_cases (h : Op.hardLink fault source destination files = (result, files')) :
    (∃ e, result = .error e) ∧ files' = files ∨
      result = .ok () ∧ files destination = none ∧ files' = Function.update files destination (files source) := by
  unfold Op.hardLink at h
  split at h
  · cases h
    exact .inl ⟨⟨_, rfl⟩, rfl⟩
  · cases h
    exact .inl ⟨⟨_, rfl⟩, rfl⟩
  · rename_i hsource
    split at h
    · cases h
      exact .inl ⟨⟨_, rfl⟩, rfl⟩
    · rename_i hnone
      cases h
      exact .inr ⟨rfl, by simpa using hnone, by rw [hsource]⟩

theorem rename_cases (h : Op.rename fault source destination files = (result, files')) :
    (∃ e, result = .error e) ∧ files' = files ∨
      result = .ok () ∧ files' = Function.update (Function.update files source none) destination (files source) := by
  unfold Op.rename at h
  split at h
  · cases h
    exact .inl ⟨⟨_, rfl⟩, rfl⟩
  · cases h
    exact .inl ⟨⟨_, rfl⟩, rfl⟩
  · rename_i hsource
    cases h
    exact .inr ⟨rfl, by rw [hsource]⟩

theorem removeFile_cases (h : Op.removeFile fault path files = (result, files')) :
    (∃ e, result = .error e) ∧ files' = files ∨ result = .ok () ∧ files' = Function.update files path none := by
  unfold Op.removeFile at h
  split at h
  · cases h
    exact .inl ⟨⟨_, rfl⟩, rfl⟩
  · split at h
    · cases h
      exact .inr ⟨rfl, rfl⟩
    · cases h
      exact .inl ⟨⟨_, rfl⟩, rfl⟩

/-- Without a fault the file is gone afterwards, and the operation fails only when it was before. -/
theorem removeFile_none (path : P) (files : Files P) :
    Op.removeFile none path files = (.ok (), Function.update files path none) ∨
      Op.removeFile none path files = (.error .notFound, Function.update files path none) := by
  unfold Op.removeFile
  by_cases h : (files path).isSome
  · exact .inl (if_pos h)
  · refine .inr ((if_neg h).trans ?_)
    rw [Option.not_isSome_iff_eq_none] at h
    rw [← h, Function.update_eq_self]

theorem removeFile_other {other : P} (h : other ≠ path) (fault : Option Fault) (files : Files P) :
    (Op.removeFile fault path files).2 other = files other := by
  cases hop : Op.removeFile fault path files with
  | mk result files' =>
    obtain ⟨-, rfl⟩ | ⟨-, rfl⟩ := removeFile_cases hop
    · rfl
    · exact Function.update_of_ne h none files

theorem removeFile_gone (path : P) (files : Files P) : (Op.removeFile none path files).2 path = none := by
  obtain h | h := removeFile_none path files
  all_goals
    rw [h]
    exact Function.update_self path none files

end Results

/-! ## Programs -/

section Programs

variable {ε σ : Type} {x y : EStateM ε σ Unit} {pre mid post exc : σ → Prop}

/-- From a state with `pre`, the program ends well in a state with `post`, or fails in one with `exc`. -/
def Triple (pre : σ → Prop) (x : EStateM ε σ Unit) (post exc : σ → Prop) : Prop :=
  ∀ s, pre s → match x s with
    | .ok _ s' => post s'
    | .error _ s' => exc s'

theorem Triple.seq (hx : Triple pre x mid exc) (hy : Triple mid y post exc) :
    Triple pre (x >>= fun _ => y) post exc := by
  intro s hs
  have h := hx s hs
  change match EStateM.bind x (fun _ => y) s with | .ok _ s' => post s' | .error _ s' => exc s'
  unfold EStateM.bind
  cases hxs : x s with
  | error e s' =>
    rw [hxs] at h
    exact h
  | ok a s' =>
    rw [hxs] at h
    exact hy s' h

theorem Triple.ok {s s' : σ} (h : Triple pre x post exc) (hs : pre s) (hx : x s = .ok () s') : post s' := by
  have h := h s hs
  rwa [hx] at h

theorem Triple.error {s s' : σ} {e : ε} (h : Triple pre x post exc) (hs : pre s) (hx : x s = .error e s') : exc s' := by
  have h := h s hs
  rwa [hx] at h

end Programs

section Operations

variable {P : Type} {op : Op P} {pre post exc : Files P → Prop}

/-- An operation as a program. -/
def Op.run (op : Op P) : EStateM IoError (Files P) Unit := fun files =>
  match op files with
  | (.ok _, files) => .ok () files
  | (.error e, files) => .error e files

theorem run_triple (h : ∀ files result files', pre files → op files = (result, files') →
    (result = .ok () → post files') ∧ ∀ e, result = .error e → exc files') : Triple pre op.run post exc := by
  intro files hfiles
  unfold Op.run
  cases hop : op files with
  | mk result files' =>
    obtain ⟨hok, herror⟩ := h files result files' hfiles hop
    cases result with
    | ok => exact hok rfl
    | error e => exact herror e rfl

end Operations

end FileSystem
