import Vectis.Core.Error
import Vectis.Lib.Loop
import Vectis.Lib.Run

/-!
# Reloading the configuration

`reload_config_state` (`io/http/mod.rs`, `core/config_file.rs`) next to edits of the files, other reloads and requests.
A reload takes the loaded keys, reads the configuration, reads its signature, checks both, and then waits for the lock
under which it installs its snapshot. The reads of the files are separate steps.

- `step`: one action of the node or of its environment;
- `inv_step`: what a step keeps, when files are found and no reload reads between the reads and the install of another;
- `reloads_ok_of_steady`: in such runs reloads are ordered and failure-safe.
-/

namespace Vectis

/-- `error::is_not_found`. -/
def DynError.isNotFound : DynError → Bool
  | .vectis (.notFound _) => true
  | _ => false

/-- `error::is_config_signature_stale`. -/
def DynError.isConfigSignatureStale : DynError → Bool
  | .vectis (.configSignatureStale _) => true
  | _ => false

namespace Io.Http.ConfigReload

/-! ## The node -/

/-- What a reload calls. `K` is what it takes from the loaded keys, `C` the validated configuration. The checks never
report a missing file. -/
structure Library (K C : Type) where
  verifyConfigFileSignature : String → String → Res Unit
  validateConfigContent : K → String → Res C
  emptyConfigState : C
  verify_found : ∀ {content signature err}, verifyConfigFileSignature content signature = .error err →
  err.isNotFound = false
  validate_found : ∀ {keys content err}, validateConfigContent keys content = .error err → err.isNotFound = false

variable {K C : Type}

/-- When a reload read the first and the last of its files. -/
structure Reads where
  first : Nat
  last : Nat
  deriving DecidableEq, Repr

/-- What a snapshot was made from. -/
inductive Source (K : Type)
  | startup
  | missing (reload : Nat) (reads : Reads)
  | signed (reload : Nat) (reads : Reads) (keys : K) (content signature : String)

namespace Source

def reload : Source K → Option Nat
  | .startup => none
  | .missing r _ | .signed r _ _ _ _ => some r

def reads : Source K → Reads
  | .startup => ⟨0, 0⟩
  | .missing _ reads | .signed _ reads _ _ _ => reads

end Source

structure Snapshot (K C : Type) where
  config : C
  source : Source K

inductive ConfigReloadOutcome
  | applied
  | staleSignatureKeptPrevious
  deriving DecidableEq, Repr

/-- Where a reload is: `loaded` waits for the write lock. -/
inductive Pc (K C : Type)
  | idle
  | started (keys : K)
  | read (keys : K) (content : String) (time : Nat)
  | loaded (snapshot : Snapshot K C)
  | done (outcome : Res ConfigReloadOutcome)

/-- The files are what reading them gives now. `installs` and `requests` record what was installed, and what each
request got. -/
structure State (K C : Type) where
  configFile : Res String
  signatureFile : Res String
  keys : K
  clock : Nat
  installed : Snapshot K C
  installs : List (Snapshot K C)
  requests : List (Snapshot K C)
  reloads : Nat → Pc K C

inductive Action (K : Type)
  | editConfig (file : Res String)
  | editSignature (file : Res String)
  | loadKeys (keys : K)
  | begin (r : Nat)
  | readConfig (r : Nat)
  | readSignature (r : Nat)
  | install (r : Nat)
  | abort (r : Nat) (err : DynError)
  | request

def State.setReload (s : State K C) (r : Nat) (pc : Pc K C) : State K C :=
  { s with reloads := fun r' => if r' = r then pc else s.reloads r' }

def State.tick (s : State K C) : State K C := { s with clock := s.clock + 1 }

variable (lib : Library K C)

/-- `load_config_file` after both reads. -/
def loadConfigFile (keys : K) (content signature : String) : Res C := do
  lib.verifyConfigFileSignature content signature
  lib.validateConfigContent keys content

/-- What follows a load: a missing file gives the empty configuration, a stale signature keeps the previous one. -/
def afterLoad (r : Nat) (reads : Reads) (source : Source K) : Res C → Pc K C
  | .ok config => .loaded ⟨config, source⟩
  | .error err =>
    if err.isNotFound then .loaded ⟨lib.emptyConfigState, .missing r reads⟩
    else if err.isConfigSignatureStale then .done (.ok .staleSignatureKeptPrevious)
    else .done (.error err)

def readConfig (s : State K C) (r : Nat) (keys : K) : Pc K C :=
  match s.configFile with
  | .ok content => .read keys content s.clock
  | .error err => afterLoad lib r ⟨s.clock, s.clock⟩ .startup (.error err)

def readSignature (s : State K C) (r : Nat) (keys : K) (content : String) (time : Nat) : Pc K C :=
  match s.signatureFile with
  | .ok signature =>
    afterLoad lib r ⟨time, s.clock⟩ (.signed r ⟨time, s.clock⟩ keys content signature)
      (loadConfigFile lib keys content signature)
  | .error err => afterLoad lib r ⟨time, s.clock⟩ .startup (.error err)

def step (s : State K C) : Action K → Option (State K C)
  | .editConfig file => some { s with configFile := file }
  | .editSignature file => some { s with signatureFile := file }
  | .loadKeys keys => some { s with keys := keys }
  | .begin r =>
    match s.reloads r with
    | .idle => some (s.setReload r (.started s.keys))
    | _ => none
  | .readConfig r =>
    match s.reloads r with
    | .started keys => some (s.setReload r (readConfig lib s r keys)).tick
    | _ => none
  | .readSignature r =>
    match s.reloads r with
    | .read keys content time => some (s.setReload r (readSignature lib s r keys content time)).tick
    | _ => none
  | .install r =>
    match s.reloads r with
    | .loaded snapshot =>
      some { s.setReload r (.done (.ok .applied)) with installed := snapshot, installs := s.installs ++ [snapshot] }
    | _ => none
  | .abort r err =>
    match s.reloads r with
    | .started _ | .read _ _ _ | .loaded _ => some (s.setReload r (.done (.error err)))
    | _ => none
  | .request => some { s with requests := s.requests ++ [s.installed] }

/-- A node that has just started, with any files and keys. -/
def State.start (configFile signatureFile : Res String) (keys : K) (startup : C) : State K C where
  configFile := configFile
  signatureFile := signatureFile
  keys := keys
  clock := 0
  installed := ⟨startup, .startup⟩
  installs := []
  requests := []
  reloads _ := .idle

/-! ## Ordered and failure-safe -/

/-- The snapshot of a reload from one signed content. -/
def SignedBy (r : Nat) (snapshot : Snapshot K C) : Prop :=
  ∃ reads keys content signature, snapshot.source = .signed r reads keys content signature ∧
    lib.verifyConfigFileSignature content signature = .ok () ∧
    lib.validateConfigContent keys content = .ok snapshot.config

/-- All reads of one source come before those of another. -/
def ReadBefore (older newer : Source K) : Prop := older.reads.last < newer.reads.first

/-- What holds of the node: the snapshot changes when a reload is applied and never else, requests get one snapshot of a
signed content, and no older content is installed after a newer one. -/
structure ReloadsOk (startup : C) (s : State K C) : Prop where
  last : s.installed = s.installs.getLastD ⟨startup, .startup⟩
  applied : ∀ snapshot ∈ s.installs, ∃ r, SignedBy lib r snapshot ∧ s.reloads r = .done (.ok .applied)
  kept : ∀ action s', step lib s action = some s' → s'.installed = s.installed ∨
    ∃ r, action = .install r ∧ s'.reloads r = .done (.ok .applied)
  requests : ∀ seen ∈ s.requests, seen = ⟨startup, .startup⟩ ∨ seen ∈ s.installs
  ordered : s.installs.Pairwise fun earlier later => ¬ ReadBefore later.source earlier.source

/-- A reload that has read contents and has not ended. -/
def Pc.holds : Pc K C → Bool
  | .read _ _ _ | .loaded _ => true
  | _ => false

/-- Reading it does not report a missing file. -/
def Found (file : Res String) : Prop := ∀ err, file = .error err → err.isNotFound = false

/-- Files are there when they are read, and a reload reads them only while no other reload holds contents. -/
def Steady (s : State K C) : Action K → Prop
  | .readConfig r => Found s.configFile ∧ ∀ r', r' ≠ r → (s.reloads r').holds = false
  | .readSignature _ => Found s.signatureFile
  | _ => True

/-! ## What a step keeps -/

section Invariant

variable {lib} {startup : C} {s s' : State K C} {r : Nat}

/-- What was read comes after everything that is installed. -/
def PcOk (lib : Library K C) (installs : List (Snapshot K C)) (clock r : Nat) : Pc K C → Prop
  | .read _ _ time => time < clock ∧ ∀ earlier ∈ installs, earlier.source.reads.last < time
  | .loaded snapshot => SignedBy lib r snapshot ∧ snapshot.source.reads.first ≤ snapshot.source.reads.last ∧
      snapshot.source.reads.last < clock ∧ ∀ earlier ∈ installs, ReadBefore earlier.source snapshot.source
  | _ => True

structure Inv (lib : Library K C) (startup : C) (s : State K C) : Prop where
  last : s.installed = s.installs.getLastD ⟨startup, .startup⟩
  applied : ∀ snapshot ∈ s.installs, ∃ r, SignedBy lib r snapshot ∧ s.reloads r = .done (.ok .applied)
  requests : ∀ seen ∈ s.requests, seen = ⟨startup, .startup⟩ ∨ seen ∈ s.installs
  times : ∀ snapshot ∈ s.installs, snapshot.source.reads.first ≤ snapshot.source.reads.last ∧
    snapshot.source.reads.last < s.clock
  ordered : s.installs.Pairwise fun earlier later => ReadBefore earlier.source later.source
  one : ∀ r r', (s.reloads r).holds = true → (s.reloads r').holds = true → r = r'
  reloads : ∀ r, PcOk lib s.installs s.clock r (s.reloads r)

theorem inv_start (configFile signatureFile : Res String) (keys : K) :
    Inv lib startup (State.start configFile signatureFile keys startup) where
  last := rfl
  applied _ h := nomatch h
  requests _ h := nomatch h
  times _ h := nomatch h
  ordered := .nil
  one _ _ h := nomatch h
  reloads _ := trivial

@[simp] theorem setReload_self (s : State K C) (r : Nat) (pc : Pc K C) : (s.setReload r pc).reloads r = pc := if_pos rfl

theorem setReload_other {r' : Nat} (s : State K C) (pc : Pc K C) (h : r' ≠ r) :
    (s.setReload r pc).reloads r' = s.reloads r' := if_neg h

theorem PcOk.mono {installs : List (Snapshot K C)} {clock clock' : Nat} {pc : Pc K C} (hle : clock ≤ clock')
    (h : PcOk lib installs clock r pc) : PcOk lib installs clock' r pc := by
  cases pc with
  | read keys content time => exact ⟨Nat.lt_of_lt_of_le h.1 hle, h.2⟩
  | loaded snapshot => exact ⟨h.1, h.2.1, Nat.lt_of_lt_of_le h.2.2.1 hle, h.2.2.2⟩
  | idle => trivial
  | started => trivial
  | done => trivial

/-- A reload goes on without installing, while no other one holds contents if it does. -/
theorem inv_setReload (hI : Inv lib startup s) {pc : Pc K C} {clock : Nat} (hclock : s.clock ≤ clock)
    (hopen : ∀ outcome, s.reloads r ≠ .done outcome) (hpc : PcOk lib s.installs clock r pc)
    (hone : pc.holds = true → ∀ r', r' ≠ r → (s.reloads r').holds = false) :
    Inv lib startup { s.setReload r pc with clock := clock } where
  last := hI.last
  applied snapshot hmem := by
    obtain ⟨r', hsigned, hdone⟩ := hI.applied snapshot hmem
    have hne : r' ≠ r := by
      rintro rfl
      exact hopen _ hdone
    exact ⟨r', hsigned, (setReload_other s pc hne).trans hdone⟩
  requests := hI.requests
  times snapshot hmem := ⟨(hI.times snapshot hmem).1, Nat.lt_of_lt_of_le (hI.times snapshot hmem).2 hclock⟩
  ordered := hI.ordered
  one r₁ r₂ h₁ h₂ := by
    by_cases hr₁ : r₁ = r
    · subst hr₁
      by_cases hr₂ : r₂ = r₁
      · exact hr₂.symm
      · have hholds : pc.holds = true := by simpa using h₁
        have hother : (s.reloads r₂).holds = true := by simpa [setReload_other s pc hr₂] using h₂
        rw [hone hholds r₂ hr₂] at hother
        cases hother
    · by_cases hr₂ : r₂ = r
      · subst hr₂
        have hholds : pc.holds = true := by simpa using h₂
        have hother : (s.reloads r₁).holds = true := by simpa [setReload_other s pc hr₁] using h₁
        rw [hone hholds r₁ hr₁] at hother
        cases hother
      · exact hI.one r₁ r₂ (by simpa [setReload_other s pc hr₁] using h₁) (by simpa [setReload_other s pc hr₂] using h₂)
  reloads r' := by
    show PcOk lib s.installs clock r' ((s.setReload r pc).reloads r')
    by_cases hr : r' = r
    · subst hr
      rw [setReload_self]
      exact hpc
    · rw [setReload_other s pc hr]
      exact (hI.reloads r').mono hclock

/-- The environment changes nothing that was read. -/
theorem inv_environment (hI : Inv lib startup s) (configFile signatureFile : Res String) (keys : K) :
    Inv lib startup { s with configFile := configFile, signatureFile := signatureFile, keys := keys } :=
  ⟨hI.last, hI.applied, hI.requests, hI.times, hI.ordered, hI.one, hI.reloads⟩

theorem inv_request (hI : Inv lib startup s) : Inv lib startup { s with requests := s.requests ++ [s.installed] } where
  last := hI.last
  applied := hI.applied
  requests seen hmem := by
    rcases List.mem_append.mp hmem with hmem | hmem
    · exact hI.requests seen hmem
    · rw [List.mem_singleton.mp hmem, hI.last]
      cases hlast : s.installs.getLast? with
      | none =>
        rw [List.getLast?_eq_none_iff.mp hlast]
        exact Or.inl rfl
      | some snapshot =>
        rw [List.getLastD_eq_getLast?, hlast]
        exact Or.inr (List.mem_of_getLast? hlast)
  times := hI.times
  ordered := hI.ordered
  one := hI.one
  reloads := hI.reloads

/-- A reload that waits for the lock installs its snapshot. -/
theorem inv_install {snapshot : Snapshot K C} (hI : Inv lib startup s) (hr : s.reloads r = .loaded snapshot) :
    Inv lib startup { s.setReload r (.done (.ok .applied)) with
      installed := snapshot, installs := s.installs ++ [snapshot] } := by
  have hloaded : PcOk lib s.installs s.clock r (.loaded snapshot) := hr ▸ hI.reloads r
  obtain ⟨hsigned, hle, hlt, hbefore⟩ := hloaded
  have hholds : (s.reloads r).holds = true := by rw [hr]; rfl
  have hfree : ∀ r', r' ≠ r → (s.reloads r').holds = false := by
    intro r' hne
    rw [Bool.eq_false_iff]
    intro hother
    exact hne (hI.one r' r hother hholds)
  refine ⟨by simp, ?_, ?_, ?_, ?_, ?_, ?_⟩
  · intro earlier hmem
    rcases List.mem_append.mp hmem with hmem | hmem
    · obtain ⟨r', hsigned', hdone⟩ := hI.applied earlier hmem
      refine ⟨r', hsigned', ?_⟩
      by_cases hne : r' = r
      · subst hne
        exact setReload_self s r' _
      · exact (setReload_other s _ hne).trans hdone
    · rw [List.mem_singleton.mp hmem]
      exact ⟨r, hsigned, setReload_self s r _⟩
  · intro seen hmem
    exact (hI.requests seen hmem).imp_right (List.mem_append_left _)
  · intro earlier hmem
    rcases List.mem_append.mp hmem with hmem | hmem
    · exact hI.times earlier hmem
    · rw [List.mem_singleton.mp hmem]
      exact ⟨hle, hlt⟩
  · refine List.pairwise_append.mpr ⟨hI.ordered, List.pairwise_singleton _ _, fun earlier hmem later hlater => ?_⟩
    rw [List.mem_singleton.mp hlater]
    exact hbefore earlier hmem
  · intro r₁ r₂ h₁ h₂
    have hnot : ∀ r', ((s.setReload r (.done (.ok .applied))).reloads r').holds = false := by
      intro r'
      by_cases hne : r' = r
      · subst hne
        rw [setReload_self]
        rfl
      · rw [setReload_other s _ hne]
        exact hfree r' hne
    rw [show _ = false from hnot r₁] at h₁
    cases h₁
  · intro r'
    by_cases hne : r' = r
    · subst hne
      simp [PcOk]
    · have hpc : (s.setReload r (.done (.ok .applied))).reloads r' = s.reloads r' := setReload_other s _ hne
      show PcOk lib _ _ r' ((s.setReload r (.done (.ok .applied))).reloads r')
      rw [hpc]
      have hnot := hfree r' hne
      cases hpc' : s.reloads r' with
      | read keys content time => rw [hpc'] at hnot; cases hnot
      | loaded other => rw [hpc'] at hnot; cases hnot
      | idle => trivial
      | started => trivial
      | done => trivial

/-- A load that does not end in a missing file is refused, or gives the snapshot of its source. -/
theorem afterLoad_cases (lib : Library K C) (r : Nat) (reads : Reads) (source : Source K) {result : Res C}
    (hfound : ∀ err, result = .error err → err.isNotFound = false) :
    (∃ outcome, afterLoad lib r reads source result = .done outcome) ∨
    ∃ config, result = .ok config ∧ afterLoad lib r reads source result = .loaded ⟨config, source⟩ := by
  cases result with
  | ok config => exact Or.inr ⟨config, rfl, rfl⟩
  | error err =>
    refine Or.inl ?_
    simp only [afterLoad, hfound err rfl, Bool.false_eq_true, if_false]
    split
    · exact ⟨_, rfl⟩
    · exact ⟨_, rfl⟩

theorem loadConfigFile_found {keys : K} {content signature : String} (err : DynError)
    (h : loadConfigFile lib keys content signature = .error err) : err.isNotFound = false := by
  unfold loadConfigFile at h
  cases hverify : lib.verifyConfigFileSignature content signature with
  | error err' =>
    rw [hverify] at h
    cases h
    exact lib.verify_found hverify
  | ok _ =>
    rw [hverify] at h
    exact lib.validate_found h

theorem inv_readConfig (hI : Inv lib startup s) {keys : K} (hr : s.reloads r = .started keys)
    (hfound : Found s.configFile) (hfree : ∀ r', r' ≠ r → (s.reloads r').holds = false) :
    Inv lib startup (s.setReload r (readConfig lib s r keys)).tick := by
  have hopen : ∀ outcome, s.reloads r ≠ .done outcome := by simp [hr]
  refine inv_setReload hI (Nat.le_succ s.clock) hopen ?_ fun _ => hfree
  unfold readConfig
  cases hfile : s.configFile with
  | ok content => exact ⟨Nat.lt_succ_self _, fun earlier hmem => (hI.times earlier hmem).2⟩
  | error err =>
    have herr : ∀ err', (.error err : Res C) = .error err' → err'.isNotFound = false := by
      rintro err' ⟨⟩
      exact hfound err hfile
    rcases afterLoad_cases lib r ⟨s.clock, s.clock⟩ .startup herr with ⟨outcome, hdone⟩ | ⟨config, hok, -⟩
    · simp only [hdone]
      trivial
    · cases hok

theorem inv_readSignature (hI : Inv lib startup s) {keys : K} {content : String} {time : Nat}
    (hr : s.reloads r = .read keys content time) (hfound : Found s.signatureFile) :
    Inv lib startup (s.setReload r (readSignature lib s r keys content time)).tick := by
  have hopen : ∀ outcome, s.reloads r ≠ .done outcome := by simp [hr]
  have hread : PcOk lib s.installs s.clock r (.read keys content time) := hr ▸ hI.reloads r
  have hholds : (s.reloads r).holds = true := by rw [hr]; rfl
  have hfree : ∀ r', r' ≠ r → (s.reloads r').holds = false := by
    intro r' hne
    rw [Bool.eq_false_iff]
    intro hother
    exact hne (hI.one r' r hother hholds)
  refine inv_setReload hI (Nat.le_succ s.clock) hopen ?_ fun _ => hfree
  unfold readSignature
  cases hfile : s.signatureFile with
  | error err =>
    have herr : ∀ err', (.error err : Res C) = .error err' → err'.isNotFound = false := by
      rintro err' ⟨⟩
      exact hfound err hfile
    rcases afterLoad_cases lib r ⟨time, s.clock⟩ .startup herr with ⟨outcome, hdone⟩ | ⟨config, hok, -⟩
    · simp only [hdone]
      trivial
    · cases hok
  | ok signature =>
    rcases afterLoad_cases lib r ⟨time, s.clock⟩ (.signed r ⟨time, s.clock⟩ keys content signature)
      (@loadConfigFile_found _ _ lib keys content signature) with ⟨outcome, hdone⟩ | ⟨config, hload, hloaded⟩
    · simp only [hdone]
      trivial
    · obtain ⟨hverify, hvalidate⟩ := Loop.bind_unit_eq_ok.mp hload
      simp only [hloaded]
      exact ⟨⟨_, keys, content, signature, rfl, hverify, hvalidate⟩, Nat.le_of_lt hread.1, Nat.lt_succ_self _, hread.2⟩

/-- A step keeps the invariant when files are found, and no other reload holds contents when one reads. -/
theorem inv_step {action : Action K} (hI : Inv lib startup s) (hsteady : Steady s action)
    (h : step lib s action = some s') : Inv lib startup s' := by
  cases action with
  | editConfig file =>
    cases h
    exact inv_environment hI file s.signatureFile s.keys
  | editSignature file =>
    cases h
    exact inv_environment hI s.configFile file s.keys
  | loadKeys keys =>
    cases h
    exact inv_environment hI s.configFile s.signatureFile keys
  | begin r =>
    simp only [step] at h
    split at h
    · rename_i hr
      cases h
      exact inv_setReload hI (Nat.le_refl _) (by simp [hr]) trivial (fun hholds => nomatch hholds)
    · cases h
  | readConfig r =>
    simp only [step] at h
    split at h
    · rename_i keys hr
      cases h
      exact inv_readConfig hI hr hsteady.1 hsteady.2
    · cases h
  | readSignature r =>
    simp only [step] at h
    split at h
    · rename_i keys content time hr
      cases h
      exact inv_readSignature hI hr hsteady
    · cases h
  | install r =>
    simp only [step] at h
    split at h
    · rename_i snapshot hr
      cases h
      exact inv_install hI hr
    · cases h
  | abort r err =>
    have habort : ∀ pc : Pc K C, s.reloads r = pc → (∀ outcome, pc ≠ .done outcome) →
        Inv lib startup (s.setReload r (.done (.error err))) := by
      intro pc hr hopen
      exact inv_setReload hI (Nat.le_refl _) (by rw [hr]; exact hopen) trivial (fun hholds => nomatch hholds)
    simp only [step] at h
    split at h
    · rename_i hr
      cases h
      exact habort _ hr (by simp)
    · rename_i hr
      cases h
      exact habort _ hr (by simp)
    · rename_i hr
      cases h
      exact habort _ hr (by simp)
    · cases h
  | request =>
    cases h
    exact inv_request hI

/-- Only an applied reload changes the snapshot, in every state. -/
theorem installed_step {action : Action K} (h : step lib s action = some s') : s'.installed = s.installed ∨
    ∃ r, action = .install r ∧ s'.reloads r = .done (.ok .applied) := by
  cases action with
  | install r =>
    simp only [step] at h
    split at h
    · cases h
      exact Or.inr ⟨r, rfl, setReload_self s r _⟩
    · cases h
  | editConfig | editSignature | loadKeys | request =>
    cases h
    exact Or.inl rfl
  | begin r | readConfig r | readSignature r | abort r err =>
    simp only [step] at h
    split at h <;> cases h <;> exact Or.inl rfl

theorem reloadsOk_of_inv (hI : Inv lib startup s) : ReloadsOk lib startup s where
  last := hI.last
  applied := hI.applied
  kept _ _ h := installed_step h
  requests := hI.requests
  ordered := by
    refine hI.ordered.imp_of_mem fun {earlier later} hearlier hlater hbefore hafter => ?_
    have hle := (hI.times earlier hearlier).1
    have hle' := (hI.times later hlater).1
    simp only [ReadBefore] at hbefore hafter
    omega

end Invariant

/-- When files are found and no reload reads between the reads and the install of another, reloads are ordered and
failure-safe in every state that is reached. -/
theorem reloads_ok_of_steady {startup : C} {configFile signatureFile : Res String} {keys : K}
    {actions : List (Action K)} {s : State K C}
    (hsteady : Run.Along (step lib) Steady (State.start configFile signatureFile keys startup) actions)
    (hrun : Run.run (step lib) (State.start configFile signatureFile keys startup) actions = some s) :
    ReloadsOk lib startup s := by
  refine reloadsOk_of_inv (Run.run_inv_along (fun _ _ _ hI hC h => inv_step hI hC h) ?_ hsteady hrun)
  exact inv_start configFile signatureFile keys

/-! ## Examples -/

/-- A signature names the content it signs, and every content is valid. -/
def exampleLibrary : Library Unit String where
  verifyConfigFileSignature content signature :=
    if signature = content then .ok () else .error (.vectis (.configSignatureStale "stale"))
  validateConfigContent _ content := .ok content
  emptyConfigState := "empty"
  verify_found h := by
    split at h
    · cases h
    · cases h
      rfl
  validate_found h := by cases h

/-- A reload, an edit of both files, a second reload and a request after it. -/
def steadyRun : List (Action Unit) :=
  [.begin 0, .readConfig 0, .readSignature 0, .install 0, .editConfig (.ok "b"), .editSignature (.ok "b"), .begin 1,
    .readConfig 1, .readSignature 1, .install 1, .request]

theorem found_ok {text : String} : Found (.ok text) := fun _ h => nomatch h

theorem steadyRun_steady : Run.Along (step exampleLibrary) Steady (State.start (.ok "a") (.ok "a") () "startup")
    steadyRun := by
  refine ⟨trivial, ?_⟩
  rintro _ ⟨⟩
  refine ⟨⟨found_ok, fun r' hne => ?_⟩, ?_⟩
  · rw [setReload_other _ _ hne]
    rfl
  rintro _ ⟨⟩
  refine ⟨found_ok, ?_⟩
  rintro _ ⟨⟩
  refine ⟨trivial, ?_⟩
  rintro _ ⟨⟩
  refine ⟨trivial, ?_⟩
  rintro _ ⟨⟩
  refine ⟨trivial, ?_⟩
  rintro _ ⟨⟩
  refine ⟨trivial, ?_⟩
  rintro _ ⟨⟩
  refine ⟨⟨found_ok, fun r' hne => ?_⟩, ?_⟩
  · -- the first reload is done, and no other has begun
    rcases r' with _ | _ | r'
    · rfl
    · exact absurd rfl hne
    · rfl
  rintro _ ⟨⟩
  refine ⟨found_ok, ?_⟩
  rintro _ ⟨⟩
  refine ⟨trivial, ?_⟩
  rintro _ ⟨⟩
  refine ⟨trivial, ?_⟩
  rintro _ ⟨⟩
  trivial

theorem reloads_ok_of_steady_reload : ∃ s,
    Run.run (step exampleLibrary) (State.start (.ok "a") (.ok "a") () "startup") steadyRun = some s ∧
    s.installs.map Snapshot.config = ["a", "b"] ∧ s.installed.config = "b" ∧ ReloadsOk exampleLibrary "startup" s := by
  obtain ⟨s, hs⟩ : ∃ s, Run.run (step exampleLibrary) (State.start (.ok "a") (.ok "a") () "startup") steadyRun =
    some s :=
    ⟨_, rfl⟩
  have hview : (Run.run (step exampleLibrary) (State.start (.ok "a") (.ok "a") () "startup") steadyRun).map
      (fun s => (s.installs.map Snapshot.config, s.installed.config)) = some (["a", "b"], "b") := rfl
  rw [hs, Option.map_some, Option.some.injEq, Prod.mk.injEq] at hview
  exact ⟨s, hs, hview.1, hview.2, reloads_ok_of_steady exampleLibrary steadyRun_steady hs⟩

/-- The second reload reads the edited files and installs them before the first one installs what it has read. -/
def raceRun : List (Action Unit) :=
  [.begin 0, .readConfig 0, .readSignature 0, .editConfig (.ok "b"), .editSignature (.ok "b"), .begin 1, .readConfig 1,
    .readSignature 1, .install 1, .install 0]

/-- A reload of a configuration whose signature is gone. -/
def unsignedRun : List (Action Unit) := [.begin 0, .readConfig 0, .readSignature 0, .install 0]

/-- Old contents replace newer ones, and a configuration without a signature is replaced by the empty one. -/
theorem reloads_not_ok :
    (∃ s, Run.run (step exampleLibrary) (State.start (.ok "a") (.ok "a") () "startup") raceRun = some s ∧
      s.installs.map Snapshot.config = ["b", "a"] ∧ ¬ ReloadsOk exampleLibrary "startup" s) ∧
    ∃ s, Run.run (step exampleLibrary) (State.start (.ok "a")
      (.error (.notFound "config signature file does not exist")) () "startup") unsignedRun = some s ∧
        s.installed.config = "empty" ∧ ¬ ReloadsOk exampleLibrary "startup" s := by
  refine ⟨⟨_, rfl, rfl, fun h => ?_⟩, ⟨_, rfl, rfl, fun h => ?_⟩⟩
  · have hordered := h.ordered
    rw [show State.installs _ = [_, _] from rfl, List.pairwise_cons] at hordered
    exact hordered.1 _ List.mem_cons_self (show (1 : Nat) < 2 by decide)
  · obtain ⟨r, ⟨reads, keys, content, signature, hsource, -⟩, -⟩ := h.applied _ List.mem_cons_self
    cases hsource

end Io.Http.ConfigReload

end Vectis
