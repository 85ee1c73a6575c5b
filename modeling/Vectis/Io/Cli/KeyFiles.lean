import Vectis.Core.Files
import Vectis.Lib.Loop
import Vectis.Lib.Utf8

/-!
# The key files of `init` and `slh-dsa create`

Both commands write a private and a public file, and remove the first one when the second cannot be written:
`write_init_files` of `io/cli/init.rs` and `run_create` of `io/cli/slh_dsa.rs`.

- `writePair_spec`: both files are created, or nothing has changed;
- `key_files_atomic`: the same for one file, for `writeInitFiles` and for `runCreate`.
-/

namespace Vectis.Io.Cli

open FileSystem Core.Files

/-! ## Two files -/

/-- What fails in the two writes and in the removal of the first file, and the numbers of the temporary files. -/
structure PairPlan where
  first : Faults
  second : Faults
  remove : RemoveStep → Option Fault
  process : Nat
  firstCounter : Nat
  secondCounter : Nat

/-- The operations that undo others succeed. -/
structure PairPlan.Undoes (plan : PairPlan) : Prop where
  first : ∀ step, step.isRollback = true → plan.first step = none
  second : ∀ step, step.isRollback = true → plan.second step = none
  remove : ∀ step, plan.remove step = none

def withRollbackResult (operationError : DynError) : Except DynError Unit → DynError
  | .ok _ => operationError
  | .error rollbackError => .internal (operationError.toText ++ "; rollback failed: " ++ rollbackError.toText)

/-- A private file, then a public file; without the second the first is removed. -/
def writePair (plan : PairPlan) (privateLabel publicLabel : String) (privatePath : Path) (privateJson : String)
    (publicPath : Path) (publicJson : String) (files : FileMap) : Except DynError Unit × FileMap :=
  match writeNewFileAtomically plan.first plan.process plan.firstCounter privatePath (Utf8.encode privateJson)
      privateLabel files with
  | (.error e, files) => (.error e, files)
  | (.ok _, files) =>
    match writeNewFileAtomically plan.second plan.process plan.secondCounter publicPath (Utf8.encode publicJson)
        publicLabel files with
    | (.ok _, files) => (.ok (), files)
    | (.error e, files) =>
      let (rollback, files) := removeCreatedFileAndSync plan.remove privatePath privateLabel files
      (.error (withRollbackResult e rollback), files)

def writeInitFiles (plan : PairPlan) (initKeysPath : Path) (initKeysJson : String) (initPublicKeysPath : Path)
    (initPublicKeysJson : String) (files : FileMap) : Except DynError Unit × FileMap :=
  writePair plan "init key file" "init key file" initKeysPath initKeysJson initPublicKeysPath initPublicKeysJson files

/-! ## `slh-dsa create` -/

/-- The paths among the arguments of `slh-dsa`. -/
structure Args where
  out : Option Path
  key : Option Path
  input : Option Path
  signature : Option Path

def rejectUnused (args : Args) (allowed : List String) (command : String) : Except DynError Unit :=
  [("out", args.out.isSome), ("key", args.key.isSome), ("input", args.input.isSome),
      ("signature", args.signature.isSome)].forM fun (name, present) =>
    if present && name ∉ allowed then .error (.invalidInput ("slh-dsa " ++ command ++ " does not accept --" ++ name))
      else .ok ()

def derivedPath (pre : Path) (suffix : String) : Except DynError Path :=
  match pre.fileName with
  | none => .error (.invalidInput "SLH-DSA output prefix must name a file")
  | some name => .ok { pre with fileName := some (name ++ suffix) }

/-- `Path::try_exists`. -/
def tryExists (fault : Option Fault) (path : Path) (files : FileMap) : Except DynError Bool :=
  match fault with
  | some fault => .error (.other fault.error.toText)
  | none => .ok (files path).isSome

/-- `private_path == public_path || private_path.try_exists()? || public_path.try_exists()?`. -/
def keyFilesExist (privateFault publicFault : Option Fault) (privatePath publicPath : Path) (files : FileMap) :
    Except DynError Bool := do
  if privatePath = publicPath then return true
  if ← tryExists privateFault privatePath files then return true
  tryExists publicFault publicPath files

/-- The paths and the texts of the two files, before anything is written. The response that is printed at the end cannot
fail: it is a JSON object of four texts. -/
def prepareCreate {σ : Type} (privateFault publicFault : Option Fault) (args : Args) (initState : Except DynError σ)
    (create : σ → Except DynError (String × String)) (files : FileMap) :
    Except DynError (Path × Path × String × String) := do
  rejectUnused args ["out"] "create"
  let some pre := args.out | .error (.invalidInput "slh-dsa create requires --out <prefix>")
  let privatePath ← derivedPath pre "-slh-dsa.enc"
  let publicPath ← derivedPath pre "-slh-dsa.pub"
  if ← keyFilesExist privateFault publicFault privatePath publicPath files then
    .error (.invalidInput "SLH-DSA key files already exist; refusing to overwrite")
  let initState ← initState
  let (privateJson, publicJson) ← create initState
  return (privatePath, publicPath, privateJson, publicJson)

def runCreate {σ : Type} (plan : PairPlan) (privateFault publicFault : Option Fault) (args : Args)
    (initState : Except DynError σ) (create : σ → Except DynError (String × String)) (files : FileMap) :
    Except DynError Unit × FileMap :=
  match prepareCreate privateFault publicFault args initState create files with
  | .error e => (.error e, files)
  | .ok (privatePath, publicPath, privateJson, publicJson) =>
    writePair plan "SLH-DSA private key file" "SLH-DSA public key file" privatePath privateJson publicPath
      publicJson files

/-! ## All or nothing -/

/-- Both files were not there before, and they are all that is there now that was not. -/
def CreatedPair (privatePath : Path) (privateJson : String) (publicPath : Path) (publicJson : String)
    (files files' : FileMap) : Prop :=
  files privatePath = none ∧ files publicPath = none ∧ files' = Function.update
    (Function.update files privatePath (some (Utf8.encode privateJson))) publicPath (some (Utf8.encode publicJson))

variable {plan : PairPlan} {privatePath publicPath : Path} {privateJson publicJson : String} {files files' : FileMap}
  {result : Except DynError Unit}

theorem writePair_spec {privateLabel publicLabel : String} (hplan : plan.Undoes) (hne : privatePath ≠ publicPath)
    (h : writePair plan privateLabel publicLabel privatePath privateJson publicPath publicJson files =
      (result, files')) :
    ((∃ e, result = .error e) ∧ files' = files) ∨
      (result = .ok () ∧ CreatedPair privatePath privateJson publicPath publicJson files files') := by
  unfold writePair at h
  split at h
  · rename_i hfirst
    cases h
    obtain ⟨-, rfl⟩ | ⟨hok, -⟩ := writeNewFileAtomically_spec hplan.first hfirst
    · exact .inl ⟨⟨_, rfl⟩, rfl⟩
    · cases hok
  · rename_i files₁ hfirst
    obtain ⟨⟨e, he⟩, -⟩ | ⟨-, hcreated, -⟩ := writeNewFileAtomically_spec hplan.first hfirst
    · cases he
    split at h
    · rename_i files₂ hsecond
      cases h
      obtain ⟨⟨e, he⟩, -⟩ | ⟨-, hcreated', -⟩ := writeNewFileAtomically_spec hplan.second hsecond
      · cases he
      · obtain ⟨hprivate, rfl⟩ := hcreated
        obtain ⟨hpublic, rfl⟩ := hcreated'
        rw [Function.update_of_ne hne.symm] at hpublic
        exact .inr ⟨rfl, hprivate, hpublic, rfl⟩
    · rename_i e files₂ hsecond
      obtain ⟨-, rfl⟩ | ⟨hok, -⟩ := writeNewFileAtomically_spec hplan.second hsecond
      · rw [funext hplan.remove, removeCreatedFile_created hcreated] at h
        cases h
        exact .inl ⟨⟨_, rfl⟩, rfl⟩
      · cases hok

theorem keyFilesExist_false {privateFault publicFault : Option Fault}
    (h : keyFilesExist privateFault publicFault privatePath publicPath files = .ok false) :
    privatePath ≠ publicPath := by
  rintro rfl
  rw [keyFilesExist, if_pos rfl] at h
  cases h

/-- The files are named by `--out`. -/
def Named (args : Args) (privatePath publicPath : Path) : Prop := ∃ pre, args.out = some pre ∧
  derivedPath pre "-slh-dsa.enc" = .ok privatePath ∧ derivedPath pre "-slh-dsa.pub" = .ok publicPath

theorem prepareCreate_ok {σ : Type} {privateFault publicFault : Option Fault} {args : Args}
    {initState : Except DynError σ} {create : σ → Except DynError (String × String)}
    (h : prepareCreate privateFault publicFault args initState create files =
      .ok (privatePath, publicPath, privateJson, publicJson)) :
    Named args privatePath publicPath ∧ privatePath ≠ publicPath ∧
      ∃ state, initState = .ok state ∧ create state = .ok (privateJson, publicJson) := by
  unfold prepareCreate at h
  obtain ⟨-, h⟩ := Loop.bind_unit_eq_ok.mp h
  cases hout : args.out with
  | none =>
    rw [hout] at h
    cases h
  | some pre =>
    rw [hout] at h
    obtain ⟨privatePath', hprivate, h⟩ := Loop.bind_eq_ok.mp h
    obtain ⟨publicPath', hpublic, h⟩ := Loop.bind_eq_ok.mp h
    obtain ⟨exist, hexist, h⟩ := Loop.bind_eq_ok.mp h
    cases exist with
    | true => cases h
    | false =>
      obtain ⟨state, hstate, h⟩ := Loop.bind_eq_ok.mp h
      obtain ⟨keys, hkeys, h⟩ := Loop.bind_eq_ok.mp h
      cases h
      exact ⟨⟨pre, hout, hprivate, hpublic⟩, keyFilesExist_false hexist, state, hstate, hkeys⟩

/-- One file is created or nothing has changed, and so are the two files of `init` and of `slh-dsa create`. -/
theorem key_files_atomic :
    (∀ (faults : Faults) (process counter : Nat) (path : Path) (content : List UInt8) (label : String)
      (files files' : FileMap) (result : Except DynError Unit), (∀ step, step.isRollback = true → faults step = none) →
      writeNewFileAtomically faults process counter path content label files = (result, files') →
      ((∃ e, result = .error e) ∧ files' = files) ∨ (result = .ok () ∧ Created path content files files' ∧
        ∀ fileName ∈ path.fileName, files' ⟨path.parent, some (temporaryName fileName process counter)⟩ = none)) ∧
    (∀ (plan : PairPlan) (initKeysPath initPublicKeysPath : Path) (initKeysJson initPublicKeysJson : String)
      (files files' : FileMap) (result : Except DynError Unit), plan.Undoes → initKeysPath ≠ initPublicKeysPath →
      writeInitFiles plan initKeysPath initKeysJson initPublicKeysPath initPublicKeysJson files = (result, files') →
      ((∃ e, result = .error e) ∧ files' = files) ∨
        (result = .ok () ∧ CreatedPair initKeysPath initKeysJson initPublicKeysPath initPublicKeysJson files files')) ∧
    (∀ (σ : Type) (plan : PairPlan) (privateFault publicFault : Option Fault) (args : Args)
      (initState : Except DynError σ) (create : σ → Except DynError (String × String)) (files files' : FileMap)
      (result : Except DynError Unit), plan.Undoes →
      runCreate plan privateFault publicFault args initState create files = (result, files') →
      ((∃ e, result = .error e) ∧ files' = files) ∨ (result = .ok () ∧ ∃ privatePath publicPath state keys,
        Named args privatePath publicPath ∧ privatePath ≠ publicPath ∧ initState = .ok state ∧ create state = .ok keys ∧
          CreatedPair privatePath keys.1 publicPath keys.2 files files')) := by
  refine ⟨?_, ?_, ?_⟩
  · intro faults process counter path content label files files' result hfaults h
    exact writeNewFileAtomically_spec hfaults h
  · intro plan initKeysPath initPublicKeysPath initKeysJson initPublicKeysJson files files' result hplan hne h
    exact writePair_spec hplan hne h
  · intro σ plan privateFault publicFault args initState create files files' result hplan h
    unfold runCreate at h
    split at h
    · cases h
      exact .inl ⟨⟨_, rfl⟩, rfl⟩
    · rename_i privatePath publicPath privateJson publicJson hprepare
      obtain ⟨hnamed, hne, state, hstate, hcreate⟩ := prepareCreate_ok hprepare
      obtain ⟨herror, hfiles⟩ | ⟨hok, hcreated⟩ := writePair_spec hplan hne h
      · exact .inl ⟨herror, hfiles⟩
      · exact .inr ⟨hok, privatePath, publicPath, state, _, hnamed, hne, hstate, hcreate, hcreated⟩

/-- The directory cannot be synchronized after the second file was linked. -/
def syncFails : PairPlan where
  first := fun _ => none
  second := fun step => if step = .syncParent then some ⟨.other "Input/output error (os error 5)", 0⟩ else none
  remove := fun _ => none
  process := 1
  firstCounter := 0
  secondCounter := 1

theorem syncFails_undoes : syncFails.Undoes := by
  refine ⟨fun _ _ => rfl, fun step hstep => if_neg ?_, fun _ => rfl⟩
  rintro rfl
  cases hstep

def exampleOut : Args := ⟨some ⟨".", some "vendor"⟩, none, none, none⟩

/-- Neither command leaves a file when the second one fails. -/
theorem key_files_atomic_example :
    (∃ e, writeInitFiles syncFails ⟨".", some "init.enc"⟩ "k" ⟨".", some "init.pub"⟩ "p" (fun _ => none) =
      (.error e, fun _ => none)) ∧
    ∃ e, runCreate syncFails none none exampleOut (.ok ()) (fun _ => .ok ("k", "p")) (fun _ => none) =
      (.error e, fun _ => none) := by
  constructor
  · have hne : (⟨".", some "init.enc"⟩ : Path) ≠ ⟨".", some "init.pub"⟩ := by decide
    generalize h : writeInitFiles syncFails ⟨".", some "init.enc"⟩ "k" ⟨".", some "init.pub"⟩ "p" (fun _ => none) =
      written
    obtain ⟨e, he⟩ : ∃ e, written.1 = .error e := by
      rw [← h]
      exact ⟨_, rfl⟩
    obtain ⟨-, hfiles⟩ | ⟨hok, -⟩ := key_files_atomic.2.1 syncFails _ _ _ _ _ written.2 written.1 syncFails_undoes hne h
    · exact ⟨e, Prod.ext he hfiles⟩
    · rw [he] at hok
      cases hok
  · generalize h : runCreate syncFails none none exampleOut (.ok ()) (fun _ => .ok ("k", "p")) (fun _ => none) = written
    obtain ⟨e, he⟩ : ∃ e, written.1 = .error e := by
      rw [← h]
      exact ⟨_, rfl⟩
    obtain ⟨-, hfiles⟩ | ⟨hok, -⟩ :=
      key_files_atomic.2.2 Unit syncFails _ _ _ _ _ _ written.2 written.1 syncFails_undoes h
    · exact ⟨e, Prod.ext he hfiles⟩
    · rw [he] at hok
      cases hok

end Vectis.Io.Cli
