import Vectis.Io.Cli.ConfigSections
import Vectis.Ops.ConfigSignature

/-!
# The configuration file as a store

The commands on sections over the file: `read_config` for `get`, `mutate_config` for the others. Whatever fails, the
file is ten maps, and every command that takes effect does to them what it says.

- `ensureConfigShape_holds`: a value with all its sections is not changed when it is read;
- `StoreCall.execute_refines`: one command;
- `config_store_refines`: every run of commands.
-/

namespace Vectis.Io.Cli

open FileSystem Core.Canonical Core.Config Core.Files Core.Validation Json

/-! ## Commands on the file -/

/-- A command on a section, and what fails in it. -/
structure StoreCall extends ConfigCommand where
  readFault : Option Fault
  plan : ReplacePlan

/-- All commands but `get` write the file. -/
def SectionCommand.writes : SectionCommand → Bool
  | .get _ => false
  | _ => true

/-- The arguments of an update of a remote route are checked before the file is read. -/
def ConfigCommand.checkFirst (addr : AddrLibrary) (c : ConfigCommand) : Res Unit :=
  match c.target, c.command with
  | .remoteRoutes, .update args => (updateArguments addr remoteRoutesSection args).map fun _ => ()
  | _, _ => .ok ()

def readConfig (editor : Editor) (fault : Option Fault) (action : Value → Res (Value × Value)) (files : FileMap) :
    Res Value := do
  let value ← loadLocalConfig editor fault (files editor.app.configPath)
  let (_, response) ← action value
  .ok response

def StoreCall.execute (editor : Editor) (call : StoreCall) (files : FileMap) : Res Value × FileMap :=
  let action := call.run editor.lib.addr
  match call.checkFirst editor.lib.addr with
  | .error e => (.error e, files)
  | .ok () =>
    if call.command.writes then mutateConfig editor ⟨action, call.readFault, call.plan⟩ files
    else (readConfig editor call.readFault action files, files)

/-- What is printed of a response. -/
def StoreCall.printed (call : StoreCall) (response : Value) : Value :=
  if call.command.writes then responseWithReminder response else response

def runCalls (editor : Editor) : List StoreCall → FileMap → List (Res Value) × FileMap
  | [], files => ([], files)
  | call :: calls, files =>
    let (result, files) := call.execute editor files
    let (results, files) := runCalls editor calls files
    (result :: results, files)

/-! ## Reading back -/

/-- A value without fractions and reserved keys that is not nested too deep, and whose text is not too long for a
file. -/
structure Fits (editor : Editor) (value : Value) : Prop where
  plain : value.plain = true
  unreserved : Unreserved value
  depth : value.depth < recursionLimit
  size : (editor.pretty.toTextPretty value).utf8ByteSize ≤ configFileMaxSizeBytes

/-- The indented text of a value without fractions and reserved keys is read as the value. -/
def ReadsPretty (editor : Editor) : Prop := ∀ value, value.plain = true → Unreserved value →
  value.depth < recursionLimit →
  editor.lib.serde.fromStr (editor.pretty.toTextPretty value) = some value

/-- The file is read as a value whose sections are the maps. -/
def FileHolds (editor : Editor) (content : Option (List UInt8)) (maps : Section → ItemMap) : Prop :=
  ∃ value, loadLocalConfig editor none content = .ok value ∧ HoldsAll value maps

/-- What the commands of a run write fits. -/
def Fitting (editor : Editor) : List StoreCall → FileMap → Prop
  | [], _ => True
  | call :: calls, files =>
    (∀ value value' response, call.command.writes = true →
      loadLocalConfig editor call.readFault (files editor.app.configPath) = .ok value →
      call.run editor.lib.addr value = .ok (value', response) → Fits editor value') ∧
      Fitting editor calls (call.execute editor files).2

section

variable {editor : Editor} {value value' response : Value} {entries : List (String × Value)} {maps : Section → ItemMap}
  {files files' : FileMap}

theorem foldlM_ensureSectionArray : ∀ {names : List String},
    (∀ name ∈ names, ∃ items, arrayRef (Value.object entries) name = .ok items) →
    names.foldlM ensureSectionArray entries = .ok entries := by
  intro names
  induction names with
  | nil => exact fun _ => rfl
  | cons name names ih =>
    intro h
    obtain ⟨items, hitems⟩ := h name List.mem_cons_self
    have hstep : ensureSectionArray entries name = .ok entries := by
      unfold arrayRef at hitems
      unfold ensureSectionArray
      split at hitems
      · rename_i hget
        rw [hget]
      · cases hitems
    rw [List.foldlM_cons, hstep]
    exact ih fun name hname => h name (List.mem_cons_of_mem _ hname)

/-- The names of the sections are those that are asked for. -/
theorem mem_sectionNames {name : String} (h : name ∈ sectionNames) : ∃ s : Section, s.spec.jsonSection = name := by
  simp only [sectionNames, List.mem_cons, List.not_mem_nil, or_false] at h
  rcases h with rfl | rfl | rfl | rfl | rfl | rfl | rfl | rfl | rfl | rfl
  · exact ⟨.routes, rfl⟩
  · exact ⟨.remoteRoutes, rfl⟩
  · exact ⟨.permissions, rfl⟩
  · exact ⟨.fpeProfiles, rfl⟩
  · exact ⟨.tokenizationProfiles, rfl⟩
  · exact ⟨.deterministicProfiles, rfl⟩
  · exact ⟨.macProfiles, rfl⟩
  · exact ⟨.maskingProfiles, rfl⟩
  · exact ⟨.commitmentProfiles, rfl⟩
  · exact ⟨.sharingProfiles, rfl⟩

theorem ensureConfigShape_holds (hversion : (value.get "version").isSome) (h : HoldsAll value maps) :
    ensureConfigShape value = .ok value := by
  cases value with
  | object entries =>
    have hsections : ∀ name ∈ sectionNames, ∃ items, arrayRef (.object entries) name = .ok items := by
      intro name hname
      obtain ⟨s, rfl⟩ := mem_sectionNames hname
      obtain ⟨items, hitems, -⟩ := h s
      exact ⟨items, hitems⟩
    show (sectionNames.foldlM ensureSectionArray (if ((Value.object entries).get "version").isSome then entries
      else _) >>= fun entries => .ok (Value.object entries)) = .ok (Value.object entries)
    rw [if_pos hversion, foldlM_ensureSectionArray hsections]
    rfl
  | _ => cases hversion

theorem foldlM_version : ∀ {names : List String} {entries entries' : List (String × Value)}, "version" ∉ names →
    names.foldlM ensureSectionArray entries = .ok entries' →
    (Value.object entries').get "version" = (Value.object entries).get "version" := by
  intro names
  induction names with
  | nil =>
    intro entries entries' _ h
    cases h
    rfl
  | cons name names ih =>
    intro entries entries' hnames h
    rw [List.foldlM_cons] at h
    obtain ⟨next, hnext, h⟩ := Loop.bind_eq_ok.mp h
    rw [ih (fun hmem => hnames (List.mem_cons_of_mem _ hmem)) h]
    unfold ensureSectionArray at hnext
    split at hnext
    · cases hnext
      rfl
    · cases hnext
    · cases hnext
      exact get_setEntry fun hname => hnames (hname ▸ List.mem_cons_self)

theorem ensureConfigShape_version (h : ensureConfigShape value = .ok value') : (value'.get "version").isSome := by
  unfold ensureConfigShape at h
  split at h
  · obtain ⟨shaped, hshaped, h⟩ := Loop.bind_eq_ok.mp h
    cases h
    rw [foldlM_version (by decide) hshaped]
    split
    · assumption
    · rw [get_setEntry_self]
      rfl
  · cases h

theorem loadLocalConfig_version {fault : Option Fault} {content : Option (List UInt8)}
    (h : loadLocalConfig editor fault content = .ok value) : (value.get "version").isSome := by
  unfold loadLocalConfig at h
  split at h
  · split at h
    · exact ensureConfigShape_version h
    · cases h
  · cases h
  · cases h

theorem jsonSection_ne_version (s : Section) : "version" ≠ s.spec.jsonSection := by
  cases s <;> decide

theorem loadLocalConfig_encode {text : String} (hsize : text.utf8ByteSize ≤ configFileMaxSizeBytes)
    (hparse : editor.lib.serde.fromStr text = some value) :
    loadLocalConfig editor none (some (Utf8.encode text)) = ensureConfigShape value := by
  have hcontent : readConfigFile none (some (Utf8.encode text)) = .ok text := by
    simp [readConfigFile, Utf8.length_encode, Nat.not_lt.mpr hsize, Utf8.decode_encode]
  unfold loadLocalConfig
  simp only [hcontent, hparse]

/-- What fits is read back. -/
theorem loadLocalConfig_written (hread : ReadsPretty editor) (hfits : Fits editor value) :
    loadLocalConfig editor none (some (Utf8.encode (editor.pretty.toTextPretty value))) = ensureConfigShape value :=
  loadLocalConfig_encode hfits.size (hread value hfits.plain hfits.unreserved hfits.depth)

theorem loadLocalConfig_quiet {fault : Option Fault} {content : Option (List UInt8)}
    (h : loadLocalConfig editor fault content = .ok value) : loadLocalConfig editor none content = .ok value := by
  cases fault with
  | none => exact h
  | some fault => cases h

/-- What a command reads from the file has the maps. -/
theorem FileHolds.loaded {fault : Option Fault} {content : Option (List UInt8)} (h : FileHolds editor content maps)
    (hload : loadLocalConfig editor fault content = .ok value) : HoldsAll value maps := by
  obtain ⟨found, hfound, hholds⟩ := h
  rw [loadLocalConfig_quiet hload] at hfound
  cases hfound
  exact hholds

theorem apply_get {addr : AddrLibrary} {c : ConfigCommand} {map map' : ItemMap} (hget : c.command.writes = false)
    (h : c.apply addr map = .ok (map', response)) : map' = map := by
  obtain ⟨target, command, fetch⟩ := c
  cases command with
  | get args =>
    obtain ⟨key, -, h⟩ := Loop.bind_eq_ok.mp h
    obtain ⟨item, -, h⟩ := Loop.bind_eq_ok.mp h
    cases h
    rfl
  | _ => cases hget

/-- A command that takes effect takes the map of its section to the next one. -/
theorem apply_of_run {addr : AddrLibrary} {c : ConfigCommand} (h : HoldsAll value maps)
    (hrun : c.run addr value = .ok (value', response)) : ∃ map, c.apply addr (maps c.target) = .ok (map, response) ∧
      HoldsAll value' (Function.update maps c.target map) ∧ value'.get "version" = value.get "version" := by
  have hstep : Refines c.target.spec value (c.run addr value) (c.apply addr (maps c.target)) :=
    SectionCommand.run_refines (h c.target) c.command
  rw [hrun] at hstep
  cases happly : c.apply addr (maps c.target) with
  | error e =>
    rw [happly] at hstep
    cases hstep
  | ok done =>
    obtain ⟨map, response'⟩ := done
    rw [happly] at hstep
    obtain ⟨next, hnext, hmap, hothers⟩ := hstep
    cases hnext
    exact ⟨map, rfl, h.step hmap hothers, hothers _ (jsonSection_ne_version c.target)⟩

/-- A command that takes effect has arguments that pass the check. -/
theorem checkFirst_of_run {addr : AddrLibrary} {c : ConfigCommand} (hrun : c.run addr value = .ok (value', response)) :
    c.checkFirst addr = .ok () := by
  obtain ⟨target, command, fetch⟩ := c
  unfold ConfigCommand.checkFirst
  split
  · rename_i args htarget hcommand
    dsimp only at htarget hcommand
    subst htarget hcommand
    obtain ⟨parsed, hparsed, -⟩ := Loop.bind_eq_ok.mp hrun
    rw [hparsed]
    rfl
  · rfl

/-- A command that fails before it writes leaves the file; any other has run on the value of the file. -/
theorem StoreCall.execute_cases {call : StoreCall} {result : Res Value} (hexecute : call.execute editor files =
    (result, files')) :
    (∃ e, result = .error e) ∧ files' editor.app.configPath = files editor.app.configPath ∨
      ∃ value value' response, loadLocalConfig editor call.readFault (files editor.app.configPath) = .ok value ∧
        call.run editor.lib.addr value = .ok (value', response) ∧
        (∀ printed, result = .ok printed → printed = call.printed response) ∧
        (call.command.writes = true ∧
            files' editor.app.configPath = some (Utf8.encode (editor.pretty.toTextPretty value')) ∨
          call.command.writes = false ∧ files' = files) := by
  unfold StoreCall.execute at hexecute
  unfold StoreCall.printed
  rcases hcheck : call.checkFirst editor.lib.addr with e | ⟨⟩
  · rw [hcheck] at hexecute
    cases hexecute
    exact .inl ⟨⟨e, rfl⟩, rfl⟩
  rw [hcheck] at hexecute
  cases hwrites : call.command.writes with
  | true =>
    rw [hwrites] at hexecute
    obtain ⟨hleft | ⟨printed, text, hprepare, hprinted, hcontent⟩, -⟩ := mutateConfig_cases hexecute
    · exact .inl hleft
    obtain ⟨value, hload, hprepare⟩ := Loop.bind_eq_ok.mp hprepare
    obtain ⟨⟨value', response⟩, hrun, hprepare⟩ := Loop.bind_eq_ok.mp hprepare
    obtain ⟨-, hprepare⟩ := Loop.bind_unit_eq_ok.mp hprepare
    cases hprepare
    exact .inr ⟨value, value', response, hload, hrun, hprinted, .inl ⟨rfl, hcontent⟩⟩
  | false =>
    rw [hwrites] at hexecute
    cases hexecute
    cases hconfig : readConfig editor call.readFault (call.run editor.lib.addr) files with
    | error e => exact .inl ⟨⟨e, rfl⟩, rfl⟩
    | ok printed =>
      obtain ⟨value, hload, hconfig⟩ := Loop.bind_eq_ok.mp hconfig
      obtain ⟨⟨value', response⟩, hrun, hconfig⟩ := Loop.bind_eq_ok.mp hconfig
      cases hconfig
      exact .inr ⟨value, value', printed, hload, hrun, fun _ hprinted => (Except.ok.inj hprinted).symm, .inr ⟨rfl, rfl⟩⟩

/-- One command takes effect as a whole, or it fails and leaves the file. -/
theorem StoreCall.execute_refines {call : StoreCall} {result : Res Value} (hread : ReadsPretty editor)
    (h : FileHolds editor (files editor.app.configPath) maps)
    (hfits : ∀ value value' response, call.command.writes = true →
      loadLocalConfig editor call.readFault (files editor.app.configPath) = .ok value →
      call.run editor.lib.addr value = .ok (value', response) → Fits editor value')
    (hexecute : call.execute editor files = (result, files')) :
    (∃ e, result = .error e) ∧ files' editor.app.configPath = files editor.app.configPath ∨
      ∃ map response, call.apply editor.lib.addr (maps call.target) = .ok (map, response) ∧
        (∀ printed, result = .ok printed → printed = call.printed response) ∧
        FileHolds editor (files' editor.app.configPath) (Function.update maps call.target map) := by
  obtain hleft | ⟨value, value', response, hload, hrun, hprinted, hfile⟩ := StoreCall.execute_cases hexecute
  · exact .inl hleft
  obtain ⟨map, happly, hholds, hversion⟩ := apply_of_run (h.loaded hload) hrun
  refine .inr ⟨map, response, happly, hprinted, ?_⟩
  obtain ⟨hwrites, hcontent⟩ | ⟨hreads, rfl⟩ := hfile
  · have hshape : ensureConfigShape value' = .ok value' := by
      refine ensureConfigShape_holds ?_ hholds
      rw [hversion]
      exact loadLocalConfig_version hload
    rw [hcontent]
    exact ⟨value', (loadLocalConfig_written hread (hfits value value' response hwrites hload hrun)).trans hshape,
      hholds⟩
  · rw [apply_get hreads happly, Function.update_eq_self]
    exact h

/-- Without faults, and with no file in the way, a command succeeds when the checks accept what it writes. -/
theorem StoreCall.execute_quiet {call : StoreCall} {fileName : String} (hread : call.readFault = none)
    (hfaults : ∀ step, call.plan.faults step = none) (hname : editor.app.configPath.fileName = some fileName)
    (hfree : files (call.plan.temporaryPath editor.app.configPath fileName) = none)
    (hload : loadLocalConfig editor none (files editor.app.configPath) = .ok value)
    (hrun : call.run editor.lib.addr value = .ok (value', response))
    (hvalid : call.command.writes = true → validateLocalConfig editor value' = .ok ()) :
    (call.execute editor files).1 = .ok (call.printed response) := by
  unfold StoreCall.execute StoreCall.printed
  rw [checkFirst_of_run hrun]
  cases hwrites : call.command.writes with
  | true =>
    have hprepare : prepareEdit editor ⟨call.run editor.lib.addr, call.readFault, call.plan⟩
        (files editor.app.configPath) = .ok (responseWithReminder response, editor.pretty.toTextPretty value') := by
      refine Loop.bind_eq_ok.mpr ⟨value, ?_, Loop.bind_eq_ok.mpr ⟨_, hrun,
        Loop.bind_unit_eq_ok.mpr ⟨hvalid hwrites, rfl⟩⟩⟩
      rw [hread]
      exact hload
    show (mutateConfig editor _ files).1 = _
    unfold mutateConfig
    rw [hprepare]
    simp only [writeFileAtomically_ok hfaults hname hfree]
    rfl
  | false =>
    refine Loop.bind_eq_ok.mpr ⟨value, ?_, Loop.bind_eq_ok.mpr ⟨_, hrun, rfl⟩⟩
    rw [hread]
    exact hload

end

/-! ## Runs -/

/-- A run on the maps: a command that succeeded has taken effect and printed its response, and one that failed has taken
effect or not. -/
inductive MapRun (addr : AddrLibrary) : (Section → ItemMap) → List (StoreCall × Res Value) → (Section → ItemMap) → Prop
  | done (maps : Section → ItemMap) : MapRun addr maps [] maps
  | left {maps final : Section → ItemMap} {call : StoreCall} {e : DynError} {rest : List (StoreCall × Res Value)} :
      MapRun addr maps rest final → MapRun addr maps ((call, .error e) :: rest) final
  | taken {maps final : Section → ItemMap} {call : StoreCall} {result : Res Value} {map : ItemMap} {response : Value}
      {rest : List (StoreCall × Res Value)} :
      call.apply addr (maps call.target) = .ok (map, response) →
      (∀ printed, result = .ok printed → printed = call.printed response) →
      MapRun addr (Function.update maps call.target map) rest final → MapRun addr maps ((call, result) :: rest) final

/-- Through every run of commands, whatever fails, the file stays ten maps that the commands act on one after
another. -/
theorem config_store_refines (editor : Editor) (hread : ReadsPretty editor) (calls : List StoreCall) (files : FileMap)
    (maps : Section → ItemMap) (hstart : FileHolds editor (files editor.app.configPath) maps)
    (hfits : Fitting editor calls files) :
    ∃ final, MapRun editor.lib.addr maps (calls.zip (runCalls editor calls files).1) final ∧
      FileHolds editor ((runCalls editor calls files).2 editor.app.configPath) final := by
  induction calls generalizing files maps with
  | nil => exact ⟨maps, .done maps, hstart⟩
  | cons call calls ih =>
    obtain ⟨hfirst, hrest⟩ := hfits
    cases hexecute : call.execute editor files with
    | mk result files₁ =>
      rw [hexecute] at hrest
      simp only [runCalls, hexecute, List.zip_cons_cons]
      obtain ⟨⟨e, rfl⟩, hsame⟩ | ⟨map, response, happly, hprinted, hholds⟩ :=
        call.execute_refines hread hstart hfirst hexecute
      · obtain ⟨final, hrun, hfinal⟩ := ih files₁ maps (hsame ▸ hstart) hrest
        exact ⟨final, .left hrun, hfinal⟩
      · obtain ⟨final, hrun, hfinal⟩ := ih files₁ _ hholds hrest
        exact ⟨final, .taken happly hprinted hrun, hfinal⟩

/-- Commands that keep to values that fit. -/
theorem fitting_of_states {editor : Editor} {states : List Value} (hread : ReadsPretty editor)
    (hfits : ∀ value ∈ states, Fits editor value ∧ ensureConfigShape value = .ok value) {calls : List StoreCall}
    (hstep : ∀ call ∈ calls, ∀ value ∈ states, ∀ value' response,
      call.run editor.lib.addr value = .ok (value', response) → value' ∈ states) {files : FileMap}
    (hload : ∀ value, loadLocalConfig editor none (files editor.app.configPath) = .ok value → value ∈ states) :
    Fitting editor calls files := by
  induction calls generalizing files with
  | nil => trivial
  | cons call calls ih =>
    have hrun : ∀ {value value' response}, loadLocalConfig editor call.readFault (files editor.app.configPath) =
      .ok value →
        call.run editor.lib.addr value = .ok (value', response) → value' ∈ states := fun hvalue hrun =>
      hstep call List.mem_cons_self _ (hload _ (loadLocalConfig_quiet hvalue)) _ _ hrun
    refine ⟨fun value value' response _ hvalue hvalue' => (hfits value' (hrun hvalue hvalue')).1,
      ih (fun call hcall => hstep call (List.mem_cons_of_mem _ hcall)) fun value hvalue => ?_⟩
    cases hexecute : call.execute editor files with
    | mk result files' =>
      rw [hexecute] at hvalue
      dsimp only at hvalue
      obtain ⟨-, hsame⟩ | ⟨loaded, written, response, hloaded, hwritten, -, hfile⟩ := StoreCall.execute_cases hexecute
      · exact hload value (hsame ▸ hvalue)
      obtain ⟨-, hcontent⟩ | ⟨-, rfl⟩ := hfile
      · have hmem : written ∈ states := hrun hloaded hwritten
        obtain ⟨hfit, hshape⟩ := hfits written hmem
        rw [hcontent, loadLocalConfig_written hread hfit, hshape] at hvalue
        cases hvalue
        exact hmem
      · exact hload value hvalue

/-- The servers of the default settings have names. -/
def timeServers (name : String) : Except String Unit :=
  if name = "time.cloudflare.com" ∨ name = "roughtime.cloudflare.com" then .ok () else .error "invalid domain name"

/-- An editor of `./config.json`. -/
def exampleEditor : Editor where
  lib := { Ops.Sign.exampleConfigLibrary "" with addr := .std timeServers }
  pretty := .compact
  app := ⟨⟨".", some "config.json"⟩, "localhost:8080", "/"⟩
  source := "default"
  trial _ := .error (.internal "no generator")

theorem exampleEditor_reads : ReadsPretty exampleEditor := by
  intro value hplain _ hdepth
  show parse recursionLimit (String.ofList (value.pretty 0)) = some value
  rw [parse_pretty (integral_of_plain value hplain) hdepth, normalize_plain value hplain]

/-- An object without entries is in the file. -/
def exampleFiles : FileMap := Function.update (fun _ => none) exampleEditor.app.configPath
  (some (Utf8.encode "\x7b\x7d"))

theorem exampleFiles_load :
    loadLocalConfig exampleEditor none (exampleFiles exampleEditor.app.configPath) = .ok emptySections := by
  rw [exampleFiles, Function.update_self, loadLocalConfig_encode (by decide) (show _ = some (.object []) from rfl)]
  rfl

def exampleAdd : StoreCall :=
  ⟨⟨.macProfiles, .add ["--name", "pan", "--kid", exampleKid, "--context", "field=c"], exampleFetch⟩, none,
    ⟨fun _ => none, 1, 0⟩⟩

/-- A profile is added, updated, renamed and, at the second try, deleted. -/
def exampleCalls : List StoreCall :=
  [exampleAdd,
    ⟨⟨.macProfiles, .update ["pan", "--context", "field=d"], exampleFetch⟩, none, ⟨fun _ => none, 1, 1⟩⟩,
    ⟨⟨.macProfiles, .update ["pan", "--name", "iban"], exampleFetch⟩, none, ⟨fun _ => none, 1, 2⟩⟩,
    ⟨⟨.macProfiles, .delete ["pan"], exampleFetch⟩, none,
      ⟨fun step => if step = .rename then some ⟨.other "rename", 0⟩ else none, 1, 3⟩⟩,
    ⟨⟨.macProfiles, .delete ["pan"], exampleFetch⟩, none, ⟨fun _ => none, 1, 4⟩⟩,
    ⟨⟨.macProfiles, .get ["pan"], exampleFetch⟩, none, ⟨fun _ => none, 1, 5⟩⟩]

def profiled (context : String) : Value := setArray "mac_profiles" [macItem context] emptySections

def exampleStates : List Value := [emptySections, profiled "field=c", profiled "field=d"]

theorem exampleStates_step : ∀ call ∈ exampleCalls, ∀ value ∈ exampleStates, ∀ value' response,
    call.run exampleEditor.lib.addr value = .ok (value', response) → value' ∈ exampleStates := by
  have hsteps : ∀ call ∈ exampleCalls, ∀ value ∈ exampleStates,
      (∃ e, call.run exampleEditor.lib.addr value = .error e) ∨
        ∃ value' ∈ exampleStates, ∃ response, call.run exampleEditor.lib.addr value = .ok (value', response) := by
    intro call hcall value hvalue
    simp only [exampleCalls, exampleStates, List.mem_cons, List.not_mem_nil, or_false] at hcall hvalue
    obtain rfl | rfl | rfl | rfl | rfl | rfl := hcall <;> obtain rfl | rfl | rfl := hvalue <;> first
      | exact .inl ⟨_, rfl⟩
      | exact .inr ⟨_, .head _, _, rfl⟩
      | exact .inr ⟨_, .tail _ (.head _), _, rfl⟩
      | exact .inr ⟨_, .tail _ (.tail _ (.head _)), _, rfl⟩
  intro call hcall value hvalue value' response hrun
  obtain ⟨e, herror⟩ | ⟨next, hnext, answer, hok⟩ := hsteps call hcall value hvalue
  · rw [hrun] at herror
    cases herror
  · rw [hrun] at hok
    cases hok
    exact hnext

theorem exampleStates_fit : ∀ value ∈ exampleStates, Fits exampleEditor value ∧
    ensureConfigShape value = .ok value := by
  have hsize : ∀ value ∈ exampleStates, ((value.pretty 0).map Char.utf8Size).sum ≤
      configFileMaxSizeBytes := by decide +kernel
  intro value hvalue
  have hfits : value.plain = true ∧ Unreserved value ∧ value.depth < recursionLimit ∧
      ensureConfigShape value = .ok value := by
    simp only [exampleStates, List.mem_cons, List.not_mem_nil, or_false] at hvalue
    obtain rfl | rfl | rfl := hvalue <;> exact ⟨by decide, by decide, by decide, by rfl⟩
  obtain ⟨hplain, hunreserved, hdepth, hshape⟩ := hfits
  refine ⟨⟨hplain, hunreserved, hdepth, ?_⟩, hshape⟩
  show (String.ofList _).utf8ByteSize ≤ configFileMaxSizeBytes
  rw [Utf8.utf8ByteSize_ofList]
  exact hsize value hvalue

theorem exampleAdd_valid : validateLocalConfig exampleEditor (profiled "field=c") = .ok () := by
  have hvalid : (configCodec.fromValue (profiled "field=c")).map (fun configFile =>
      (validateConfigFile exampleEditor.lib (exampleEditor.app.finalAppAddr, exampleEditor.app.finalAppPath)
        (localHooks exampleEditor.trial) configFile).isOk) =
      some true := by decide +kernel
  obtain ⟨configFile, hread, hvalid⟩ := Option.map_eq_some_iff.mp hvalid
  have hcompact : ∀ value : Value, value.plain = true → value.depth < recursionLimit →
      SerdeJson.compact.fromStrAs configCodec (SerdeJson.compact.toText value) = configCodec.fromValue value := by
    intro value hplain hdepth
    show (parse recursionLimit (String.ofList value.render)).bind configCodec.fromValue = _
    rw [parse_render hplain hdepth, Option.bind_some]
  have hserde : exampleEditor.lib.serde = .compact := rfl
  unfold validateLocalConfig validateConfigContent
  rw [hserde, parseConfigJson_ok_iff.mpr ((hcompact _ (by decide) (by decide)).trans hread)]
  show (validateConfigFile _ _ _ configFile >>= fun _ => .ok ()) = .ok ()
  cases hstate : validateConfigFile exampleEditor.lib (exampleEditor.app.finalAppAddr, exampleEditor.app.finalAppPath)
      (localHooks exampleEditor.trial) configFile with
  | error e =>
    rw [hstate] at hvalid
    cases hvalid
  | ok state => rfl

/-- The addition takes effect. -/
theorem exampleAdd_response : (exampleAdd.execute exampleEditor exampleFiles).1 =
    .ok (exampleAdd.printed (sectionResponse "added" macProfilesSection (macItem "field=c"))) :=
  StoreCall.execute_quiet rfl (fun _ => rfl) rfl (Function.update_of_ne (by decide) _ _) exampleFiles_load rfl
    fun _ => exampleAdd_valid

theorem config_store_refines_example :
    (exampleAdd.execute exampleEditor exampleFiles).1 =
      .ok (exampleAdd.printed (sectionResponse "added" macProfilesSection (macItem "field=c"))) ∧
    ∃ final, MapRun exampleEditor.lib.addr (fun _ _ => none)
      (exampleCalls.zip (runCalls exampleEditor exampleCalls exampleFiles).1) final ∧
        FileHolds exampleEditor ((runCalls exampleEditor exampleCalls exampleFiles).2 exampleEditor.app.configPath)
        final := by
  refine ⟨exampleAdd_response, ?_⟩
  refine config_store_refines exampleEditor exampleEditor_reads exampleCalls exampleFiles _
    ⟨emptySections, exampleFiles_load, emptySections_holds⟩
    (fitting_of_states exampleEditor_reads exampleStates_fit exampleStates_step fun value hload => ?_)
  rw [exampleFiles_load] at hload
  cases hload
  exact List.mem_cons_self

end Vectis.Io.Cli
