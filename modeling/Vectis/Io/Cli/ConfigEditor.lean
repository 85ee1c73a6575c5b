import Vectis.Core.ConfigFile
import Vectis.Core.Files
import Vectis.Core.Records
import Vectis.Lib.Utf8

/-!
# Editing the configuration file

`write_file_atomically` (`io/cli/http.rs`) and the commands of `io/cli/config_editor.rs` that change the file: it is
read, changed, checked and replaced.

- `writeFileAtomically_spec`: the file keeps its content or has the new one, whatever fails;
- `mutateConfig_cases`: a command leaves the file, or replaces it by a content that passed the checks;
- `config_edits_atomic`: the same for every run of commands, as a run of whole edits.
-/

namespace Vectis.Io.Cli

open FileSystem Core.Canonical Core.Config Core.Files Json

/-! ## Replacing a file -/

/-- The operations of `write_file_atomically` that may fail. -/
inductive ReplaceStep
  | create
  | write
  | sync
  | rename
  | openParent
  | syncParent
  | removeTemporary
  deriving DecidableEq, Repr

/-- Which operations fail, and the numbers in the name of the temporary file. -/
structure ReplacePlan where
  faults : ReplaceStep → Option Fault
  process : Nat
  counter : Nat

def ReplacePlan.temporaryPath (plan : ReplacePlan) (path : Path) (fileName : String) : Path :=
  ⟨path.parent, some (temporaryName fileName plan.process plan.counter)⟩

/-- The operations up to the first failure. -/
def replaceFile (faults : ReplaceStep → Option Fault) (temporaryPath path : Path) (content : List UInt8) :
    EStateM IoError FileMap Unit := do
  (Op.createNew (faults .create) temporaryPath).run
  (Op.writeAll (faults .write) temporaryPath content).run
  (Op.syncAll (faults .sync)).run
  (Op.rename (faults .rename) temporaryPath path).run
  (Op.syncAll (faults .openParent)).run
  (Op.syncAll (faults .syncParent)).run

def writeFileAtomically (plan : ReplacePlan) (path : Path) (content : String) (files : FileMap) : Res Unit × FileMap :=
  match path.fileName with
  | none => (.error (.invalidInput "config file path must name a file"), files)
  | some fileName =>
    let temporaryPath := plan.temporaryPath path fileName
    match replaceFile plan.faults temporaryPath path (Utf8.encode content) files with
    | .ok _ files => (.ok (), files)
    -- the result of the removal is dropped
    | .error e files => (.error (.other e.toText), (Op.removeFile (plan.faults .removeTemporary) temporaryPath files).2)

/-- No file but the temporary one has changed. -/
def Kept (temporaryPath : Path) (files₀ files : FileMap) : Prop :=
  ∀ other, other ≠ temporaryPath → files other = files₀ other

/-- The file has the content, and no other has changed. -/
def Replaced (temporaryPath path : Path) (content : List UInt8) (files₀ files : FileMap) : Prop :=
  files₀ temporaryPath = none ∧ files = Function.update files₀ path (some content)

section

variable {faults : ReplaceStep → Option Fault} {temporaryPath path : Path} {content : List UInt8}
  {files₀ files files' : FileMap}

/-- The temporary file holds the content, and nothing else has changed. -/
def Prepared (temporaryPath : Path) (content : List UInt8) (files₀ files : FileMap) : Prop :=
  files₀ temporaryPath = none ∧ files = Function.update files₀ temporaryPath (some content)

theorem Prepared.kept (h : Prepared temporaryPath content files₀ files) : Kept temporaryPath files₀ files := by
  obtain ⟨-, rfl⟩ := h
  exact fun other hother => Function.update_of_ne hother _ _

/-- An operation that changes no file. -/
theorem sync_run {fault : Option Fault} {inv exc : FileMap → Prop} (h : ∀ files, inv files → exc files) :
    Triple inv (Op.syncAll fault).run inv exc := by
  refine run_triple fun files result files' hfiles hop => ?_
  rw [syncAll_files hop]
  exact ⟨fun _ => hfiles, fun _ _ => h files hfiles⟩

theorem create_run {exc : FileMap → Prop} (h : exc files₀) : Triple (· = files₀)
    (Op.createNew (faults .create) temporaryPath).run (Prepared temporaryPath [] files₀) exc := by
  refine run_triple fun files result files' hfiles hop => ?_
  subst hfiles
  obtain ⟨⟨e, rfl⟩, rfl⟩ | ⟨rfl, hnone, rfl⟩ := createNew_cases hop
  · exact ⟨nofun, fun _ _ => h⟩
  · exact ⟨fun _ => ⟨hnone, rfl⟩, nofun⟩

theorem write_run {exc : FileMap → Prop} (h : ∀ files, Kept temporaryPath files₀ files → exc files) :
    Triple (Prepared temporaryPath [] files₀) (Op.writeAll (faults .write) temporaryPath content).run
      (Prepared temporaryPath content files₀) exc := by
  refine run_triple fun files result files' hfiles hop => ?_
  obtain ⟨hnone, rfl⟩ := hfiles
  obtain ⟨written, rfl, hwritten⟩ := writeAll_cases hop
  rw [Function.update_idem]
  have hkept : Prepared temporaryPath written files₀ (Function.update files₀ temporaryPath (some written)) :=
    ⟨hnone, rfl⟩
  refine ⟨fun hok => ?_, fun e _ => h _ hkept.kept⟩
  rw [hwritten hok]
  exact ⟨hnone, rfl⟩

theorem rename_run {exc : FileMap → Prop} (h : ∀ files, Kept temporaryPath files₀ files → exc files) :
    Triple (Prepared temporaryPath content files₀) (Op.rename (faults .rename) temporaryPath path).run
      (Replaced temporaryPath path content files₀) exc := by
  refine run_triple fun files result files' hfiles hop => ?_
  obtain ⟨⟨e, rfl⟩, rfl⟩ | ⟨rfl, rfl⟩ := rename_cases hop
  · exact ⟨nofun, fun _ _ => h _ hfiles.kept⟩
  · obtain ⟨hnone, rfl⟩ := hfiles
    have hremoved : Function.update (Function.update files₀ temporaryPath (some content)) temporaryPath none =
        files₀ := by
      rw [Function.update_idem, ← hnone, Function.update_eq_self]
    rw [hremoved, Function.update_self]
    exact ⟨fun _ => ⟨hnone, rfl⟩, nofun⟩

/-- What fails has changed nothing but the temporary file, or has already replaced the file. -/
theorem replaceFile_triple : Triple (· = files₀) (replaceFile faults temporaryPath path content)
    (Replaced temporaryPath path content files₀)
    (fun files => Kept temporaryPath files₀ files ∨ Replaced temporaryPath path content files₀ files) :=
  (create_run (.inl fun _ _ => rfl)).seq <| (write_run fun _ => .inl).seq <|
    (sync_run fun _ h => .inl h.kept).seq <| (rename_run fun _ => .inl).seq <|
      (sync_run fun _ => .inr).seq <| sync_run fun _ => .inr

end

theorem temporaryPath_ne {plan : ReplacePlan} {path : Path} {fileName : String}
    (hname : path.fileName = some fileName) : plan.temporaryPath path fileName ≠ path := by
  intro heq
  have hfileName := congrArg Path.fileName heq
  rw [hname] at hfileName
  exact temporaryName_ne fileName _ _ (Option.some.inj hfileName)

/-- On success the file has the content; on an error it has that or what it had before. Nothing else changes but the
temporary file, which is gone unless its removal fails. -/
theorem writeFileAtomically_spec {plan : ReplacePlan} {path : Path} {content : String} {files files' : FileMap}
    {result : Res Unit} (h : writeFileAtomically plan path content files = (result, files')) :
    (files' path = some (Utf8.encode content) ∨ (∃ e, result = .error e) ∧ files' path = files path) ∧
      ∀ other, other ≠ path → files' other = files other ∨ ∃ fileName ∈ path.fileName,
        other = plan.temporaryPath path fileName ∧ (plan.faults .removeTemporary = none → files' other = none) := by
  unfold writeFileAtomically at h
  split at h
  · cases h
    exact ⟨.inr ⟨⟨_, rfl⟩, rfl⟩, fun other _ => .inl rfl⟩
  rename_i fileName hname
  have hne : plan.temporaryPath path fileName ≠ path := temporaryPath_ne hname
  simp only at h
  generalize htemp : plan.temporaryPath path fileName = temporaryPath at *
  split at h
  · rename_i files₁ hreplace
    cases h
    obtain ⟨-, rfl⟩ := replaceFile_triple.ok rfl hreplace
    exact ⟨.inl (Function.update_self _ _ _), fun other hother => .inl (Function.update_of_ne hother _ _)⟩
  · rename_i e files₁ hreplace
    cases h
    have hfiles : (files₁ path = some (Utf8.encode content) ∨ files₁ path = files path) ∧
        ∀ other, other ≠ temporaryPath → other ≠ path → files₁ other = files other := by
      obtain hkept | ⟨-, rfl⟩ := replaceFile_triple.error rfl hreplace
      · exact ⟨.inr (hkept path hne.symm), fun other hother _ => hkept other hother⟩
      · exact ⟨.inl (Function.update_self _ _ _), fun other _ hother => Function.update_of_ne hother _ _⟩
    rw [removeFile_other hne.symm]
    refine ⟨hfiles.1.imp_right fun hpath => ⟨⟨_, rfl⟩, hpath⟩, fun other hother => ?_⟩
    by_cases htemporary : other = temporaryPath
    · subst htemporary
      refine .inr ⟨fileName, hname, htemp.symm, fun hfault => ?_⟩
      rw [hfault]
      exact removeFile_gone other files₁
    · exact .inl ((removeFile_other htemporary _ files₁).trans (hfiles.2 other htemporary hother))

/-- A file under the temporary name is removed: unlike the creation of a new file, this one does not look who made
it. -/
theorem writeFileAtomically_stale {plan : ReplacePlan} {path : Path} {fileName content : String} {stale : List UInt8}
    {files : FileMap} (hfaults : ∀ step, plan.faults step = none) (hname : path.fileName = some fileName)
    (hstale : files (plan.temporaryPath path fileName) = some stale) :
    writeFileAtomically plan path content files = (.error (.other IoError.alreadyExists.toText),
      Function.update files (plan.temporaryPath path fileName) none) := by
  unfold writeFileAtomically
  rw [hname]
  have hcreate : replaceFile plan.faults (plan.temporaryPath path fileName) path (Utf8.encode content) files =
      .error .alreadyExists files := by
    simp [replaceFile, bind, EStateM.bind, Op.run, Op.createNew, hfaults, hstale]
  simp [hcreate, Op.removeFile, hfaults, hstale]

/-- Without faults, and with no file in the way, the file is replaced. -/
theorem writeFileAtomically_ok {plan : ReplacePlan} {path : Path} {fileName content : String} {files : FileMap}
    (hfaults : ∀ step, plan.faults step = none) (hname : path.fileName = some fileName)
    (hfree : files (plan.temporaryPath path fileName) = none) :
    writeFileAtomically plan path content files =
    (.ok (), Function.update files path (some (Utf8.encode content))) := by
  have hremoved : Function.update files (plan.temporaryPath path fileName) none = files := by
    rw [← hfree, Function.update_eq_self]
  have hreplace : replaceFile plan.faults (plan.temporaryPath path fileName) path (Utf8.encode content) files =
      .ok () (Function.update files path (some (Utf8.encode content))) := by
    simp [replaceFile, bind, EStateM.bind, Op.run, Op.createNew, Op.writeAll, Op.syncAll, Op.rename, hfaults, hfree,
      hremoved]
  unfold writeFileAtomically
  rw [hname]
  simp only [hreplace]

/-! ## Reading the file -/

/-- `CONFIG_FILE_MAX_SIZE_BYTES`. -/
def configFileMaxSizeBytes : Nat := 8 * 1024 * 1024

/-- `read_config_file`: the content that is there, if any, of a regular file. -/
def readConfigFile (fault : Option Fault) (content : Option (List UInt8)) : Res String :=
  match fault, content with
  | some _, _ => .error (.internal "config file could not be read")
  | none, none => .error (.notFound "config file does not exist")
  | none, some bytes =>
    if bytes.length > configFileMaxSizeBytes then .error (.invalidInput "config file exceeds maximum allowed size")
    else
      match Utf8.decode bytes with
      | none => .error (.invalidInput "config file is not valid UTF-8")
      | some text => .ok text

/-- `BTreeMap::insert`. -/
def setEntry (key : String) (value : Value) (entries : List (String × Value)) : List (String × Value) :=
  insertEntry key value (entries.filter fun entry => entry.1 ≠ key)

def ensureSectionArray (entries : List (String × Value)) (sectionName : String) : Res (List (String × Value)) :=
  match (Value.object entries).get sectionName with
  | some (.array _) => .ok entries
  | some _ => .error (.invalidInput ("config." ++ sectionName ++ " must be an array"))
  | none => .ok (setEntry sectionName (.array []) entries)

/-- The sections in the order in which `ensure_config_shape` asks for them. -/
def sectionNames : List String :=
  ["routes", "remote_routes", "permissions", "fpe_profiles", "tokenization_profiles",
    "deterministic_tokenization_profiles", "mac_profiles", "masking_profiles", "commitment_profiles",
    "sharing_profiles"]

def ensureConfigShape : Value → Res Value
  | .object entries => do
    let entries :=
      if ((Value.object entries).get "version").isSome then entries else setEntry "version" (.string "v1") entries
    let entries ← sectionNames.foldlM ensureSectionArray entries
    .ok (.object entries)
  | _ => .error (.invalidInput "config item must be an object")

/-! ## Commands -/

/-- `LocalConfigSettings`. -/
structure LocalConfigSettings where
  configPath : Path
  finalAppAddr : String
  finalAppPath : String

/-- What a command runs with: the libraries, the settings, and where the loader has the path of the file from. -/
structure Editor where
  lib : ConfigLibrary
  pretty : PrettyJson lib.serde
  app : LocalConfigSettings
  source : String
  trial : String → Res (List UInt8 × List UInt8)

/-- The keys that the checks are tried with: the node's own are not at hand. -/
def localHooks (trial : String → Res (List UInt8 × List UInt8)) : ConfigHooks where
  isLoadedKid _ := true
  deriveFpeKey _ := .ok (List.replicate Core.Fpe.fpeKeySizeBytes 0)
  deriveTokenizationKeys _ := .ok ⟨List.replicate Core.Tokenization.tokenKeySizeBytes 0,
    List.replicate Core.Tokenization.tokenKeySizeBytes 1, "AES-256/GCM"⟩
  hashAlgorithmForKid _ := .ok "BLAKE2b(256)"
  deriveMacKey _ := .ok ⟨"HMAC(BLAKE2b(256))", "HMAC(BLAKE2b(256))", List.replicate Core.Mac.macKeySizeBytes 0⟩
  deriveCommitmentKey _ :=
    .ok ⟨"HMAC(BLAKE2b(256))", "HMAC(BLAKE2b(256))", List.replicate Core.Commitments.commitmentKeySizeBytes 0⟩
  deriveSharingKey _ := .ok ⟨"HMAC(BLAKE2b(256))", "HMAC(BLAKE2b(256))",
    List.replicate Core.Sharing.sharingKeySizeBytes 0⟩
  deriveFpeAuthKey _ := .ok (List.replicate Core.Fpe.fpeAuthKeySizeBytes 9)
  deriveDeterministicKey _ := .ok (List.replicate 64 7)
  trial

def loadLocalConfig (editor : Editor) (fault : Option Fault) (content : Option (List UInt8)) : Res Value :=
  match readConfigFile fault content with
  | .ok text =>
    match editor.lib.serde.fromStr text with
    | some value => ensureConfigShape value
    | none => .error (.invalidInput "config file must be valid JSON")
  | .error (.vectis (.notFound _)) => .error (.invalidInput ("VECTIS_CONFIG_PATH (" ++ editor.source ++
      "): could not read config file; run `vectis config init` first"))
  | .error e => .error e

def validateLocalConfig (editor : Editor) (value : Value) : Res Unit := do
  let _ ← validateConfigContent editor.lib (editor.app.finalAppAddr, editor.app.finalAppPath) (localHooks editor.trial)
    (editor.lib.serde.toText value)
  .ok ()

/-- `CONFIG_EDIT_REMINDER`. -/
def configEditReminder : String := "run `vectis config sign`, then `vectis config reload`"

def responseWithReminder : Value → Value
  | .object entries => .object (setEntry "next" (.string configEditReminder) entries)
  | response => response

/-- A command that changes the file: the new value and the response, and what fails. -/
structure EditCall where
  action : Value → Res (Value × Value)
  readFault : Option Fault
  plan : ReplacePlan

/-- What a command prints and what it writes, before it writes. -/
def prepareEdit (editor : Editor) (call : EditCall) (content : Option (List UInt8)) : Res (Value × String) := do
  let value ← loadLocalConfig editor call.readFault content
  let (value, response) ← call.action value
  validateLocalConfig editor value
  .ok (responseWithReminder response, editor.pretty.toTextPretty value)

def mutateConfig (editor : Editor) (call : EditCall) (files : FileMap) : Res Value × FileMap :=
  match prepareEdit editor call (files editor.app.configPath) with
  | .error e => (.error e, files)
  | .ok (response, text) =>
    match writeFileAtomically call.plan editor.app.configPath text files with
    | (.error e, files) => (.error e, files)
    | (.ok _, files) => (.ok response, files)

/-- Commands one after another, with their results. -/
def runEdits (editor : Editor) : List EditCall → FileMap → List (Res Value) × FileMap
  | [], files => ([], files)
  | call :: calls, files =>
    let (result, files) := mutateConfig editor call files
    let (results, files) := runEdits editor calls files
    (result :: results, files)

/-! ## Whole edits -/

section

variable {editor : Editor} {call : EditCall} {content : Option (List UInt8)} {files files' : FileMap}

/-- The text of a value that passed the checks. -/
def Checked (editor : Editor) (text : String) : Prop :=
  ∃ value, validateLocalConfig editor value = .ok () ∧ text = editor.pretty.toTextPretty value

/-- A run of whole edits of the content: a command that succeeded has replaced it by what was prepared from it, and one
that failed has done so too or has left it. -/
inductive Serial (editor : Editor) : Option (List UInt8) → List (EditCall × Res Value) → Option (List UInt8) → Prop
  | done (content : Option (List UInt8)) : Serial editor content [] content
  | left {content final : Option (List UInt8)} {call : EditCall} {e : DynError} {rest : List (EditCall × Res Value)} :
      Serial editor content rest final → Serial editor content ((call, .error e) :: rest) final
  | replaced {content final : Option (List UInt8)} {call : EditCall} {result : Res Value} {response : Value}
      {text : String} {rest : List (EditCall × Res Value)} : prepareEdit editor call content = .ok (response, text) →
      (∀ printed, result = .ok printed → printed = response) →
      Serial editor (some (Utf8.encode text)) rest final → Serial editor content ((call, result) :: rest) final

theorem prepareEdit_checked {response : Value} {text : String}
    (h : prepareEdit editor call content = .ok (response, text)) :
    Checked editor text := by
  obtain ⟨value, -, h⟩ := Loop.bind_eq_ok.mp h
  obtain ⟨edited, -, h⟩ := Loop.bind_eq_ok.mp h
  obtain ⟨hvalid, h⟩ := Loop.bind_unit_eq_ok.mp h
  cases h
  exact ⟨edited.1, hvalid, rfl⟩

/-- What is there after a run was there before it, or passed the checks. -/
theorem Serial.checked {calls : List (EditCall × Res Value)} {final : Option (List UInt8)}
    (h : Serial editor content calls final) : final = content ∨ ∃ text, Checked editor text ∧
    final = some (Utf8.encode text) := by
  induction h with
  | done content => exact .inl rfl
  | left _ ih => exact ih
  | replaced hprepare _ _ ih =>
    obtain hfinal | hchecked := ih
    · exact .inr ⟨_, prepareEdit_checked hprepare, hfinal⟩
    · exact .inr hchecked

/-- A file that is not the configuration is as it was, or it is a temporary one and gone, unless its removal failed. -/
def Untouched (path : Path) (calls : List EditCall) (files files' : FileMap) : Prop :=
  ∀ other, other ≠ path → files' other = files other ∨ ∃ call ∈ calls, ∃ fileName ∈ path.fileName,
    other = call.plan.temporaryPath path fileName ∧
      ((∀ call ∈ calls, call.plan.faults .removeTemporary = none) → files' other = none)

/-- One command. -/
theorem mutateConfig_cases {result : Res Value} (h : mutateConfig editor call files = (result, files')) :
    ((∃ e, result = .error e) ∧ files' editor.app.configPath = files editor.app.configPath ∨
      ∃ response text, prepareEdit editor call (files editor.app.configPath) = .ok (response, text) ∧
        (∀ printed, result = .ok printed → printed = response) ∧
        files' editor.app.configPath = some (Utf8.encode text)) ∧
      Untouched editor.app.configPath [call] files files' := by
  unfold mutateConfig at h
  split at h
  · cases h
    exact ⟨.inl ⟨⟨_, rfl⟩, rfl⟩, fun other _ => .inl rfl⟩
  rename_i response text hprepare
  cases hwrite : writeFileAtomically call.plan editor.app.configPath text files with
  | mk written files₁ =>
    obtain ⟨hpath, hothers⟩ := writeFileAtomically_spec hwrite
    have huntouched : Untouched editor.app.configPath [call] files files₁ := by
      intro other hother
      obtain hsame | ⟨fileName, hname, htemporary, hgone⟩ := hothers other hother
      · exact .inl hsame
      · exact .inr ⟨call, List.mem_singleton_self call, fileName, hname, htemporary,
          fun hfaults => hgone (hfaults call (List.mem_singleton_self call))⟩
    rw [hwrite] at h
    cases written with
    | ok =>
      cases h
      refine ⟨.inr ⟨response, text, hprepare, fun _ hprinted => (Except.ok.inj hprinted).symm, ?_⟩, huntouched⟩
      obtain hcontent | ⟨⟨e, he⟩, -⟩ := hpath
      · exact hcontent
      · cases he
    | error e =>
      cases h
      refine ⟨?_, huntouched⟩
      obtain hcontent | ⟨-, hsame⟩ := hpath
      · exact .inr ⟨response, text, hprepare, nofun, hcontent⟩
      · exact .inl ⟨⟨e, rfl⟩, hsame⟩

theorem Untouched.cons {path : Path} {calls : List EditCall} {files₁ : FileMap}
    (hfirst : Untouched path [call] files files₁) (hrest : Untouched path calls files₁ files') :
    Untouched path (call :: calls) files files' := by
  intro other hother
  obtain hsame | ⟨later, hlater, fileName, hname, htemporary, hgone⟩ := hrest other hother
  · obtain hsame' | ⟨first, hcall, fileName, hname, htemporary, hgone⟩ := hfirst other hother
    · exact .inl (hsame.trans hsame')
    · obtain rfl := List.mem_singleton.mp hcall
      refine .inr ⟨first, List.mem_cons_self, fileName, hname, htemporary, fun hfaults => ?_⟩
      rw [hsame]
      exact hgone fun other hcall => hfaults other (List.mem_singleton.mp hcall ▸ List.mem_cons_self)
  · exact .inr ⟨later, List.mem_cons_of_mem _ hlater, fileName, hname, htemporary,
      fun hfaults => hgone fun other hcall => hfaults other (List.mem_cons_of_mem _ hcall)⟩

theorem runEdits_spec : ∀ (calls : List EditCall) (files : FileMap),
    Serial editor (files editor.app.configPath) (calls.zip (runEdits editor calls files).1)
      ((runEdits editor calls files).2 editor.app.configPath) ∧
    Untouched editor.app.configPath calls files (runEdits editor calls files).2 := by
  intro calls
  induction calls with
  | nil => exact fun files => ⟨.done _, fun other _ => .inl rfl⟩
  | cons call calls ih =>
    intro files
    cases hstep : mutateConfig editor call files with
    | mk result files₁ =>
      obtain ⟨hserial, huntouched⟩ := ih files₁
      obtain ⟨hcases, hfirst⟩ := mutateConfig_cases hstep
      simp only [runEdits, hstep, List.zip_cons_cons]
      refine ⟨?_, hfirst.cons huntouched⟩
      obtain ⟨⟨e, rfl⟩, hsame⟩ | ⟨response, text, hprepare, hprinted, hcontent⟩ := hcases
      · rw [hsame] at hserial
        exact .left hserial
      · rw [hcontent] at hserial
        exact .replaced hprepare hprinted hserial

end

/-- In every run of commands, whatever fails, the configuration file goes through whole edits: it is never left half
written or unchecked, what a command printed is what it wrote, and no other file has changed. -/
theorem config_edits_atomic (editor : Editor) (calls : List EditCall) (files : FileMap) :
    Serial editor (files editor.app.configPath) (calls.zip (runEdits editor calls files).1)
      ((runEdits editor calls files).2 editor.app.configPath) ∧
    ((runEdits editor calls files).2 editor.app.configPath = files editor.app.configPath ∨ ∃ text, Checked editor text ∧
      (runEdits editor calls files).2 editor.app.configPath = some (Utf8.encode text)) ∧
    Untouched editor.app.configPath calls files (runEdits editor calls files).2 := by
  obtain ⟨hserial, huntouched⟩ := runEdits_spec calls files
  exact ⟨hserial, hserial.checked, huntouched⟩

end Vectis.Io.Cli
