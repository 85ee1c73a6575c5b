import Vectis.Core.AuditChain.Writer
import Vectis.Lib.Trace

/-!
# What the writer hands to the sink

In every run and for every pattern of failures.

- `SinkInv`: the handed records are numbered and linked, the state of the chain is that of the last one, nothing uses
  the sink after a failure;
- `sinkInv_writeEvent`, `sinkInv_appendCheckpoint`: one write keeps it. The state moves on only after the sink has
  accepted the line, and where it moves on and fails the writer is poisoned;
- `sinkOk_step`, `sinkOk_reaches`: every step and every run keep it.
-/

namespace Vectis.Core.AuditChain

open Ops.Sign Trace

/-! ## The records of a trace -/

/-- The records that were handed to the sink. -/
def handed (trace : List Event) : List AuditChainRecord :=
  trace.filterMap fun
    | .record _ record _ _ => some record
    | _ => none

/-- The hash that the next record has to carry. -/
def lastHash (trace : List Event) : String := ((handed trace).getLast?.map AuditChainRecord.eventHash).getD genesisHash

/-- The record has the next number, the hash of the one before and its own. -/
def Linked (platform : Platform) (past : List Event) : Event → Prop
  | .record _ record _ _ => record.body.sequence.toNat = (handed past).length ∧ record.body.prevHash = lastHash past ∧
      hashRecord platform record.body = .ok record.eventHash
  | _ => True

/-- The sink is not used after a failure. -/
def Quiet (past : List Event) (e : Event) : Prop := e.usesSink = true → ∀ f ∈ past, f.isFailure = false

structure SinkInv (platform : Platform) (trace : List Event) (chain : AuditChainState) (poisoned : Option String) :
    Prop where
  quiet : Each Quiet trace
  linked : Each (Linked platform) trace
  clean : poisoned = none → ∀ f ∈ trace, f.isFailure = false
  head : poisoned = none → chain.nextSequence.toNat = (handed trace).length ∧ chain.headHash = lastHash trace

variable {platform : Platform} {signer : HybridPrivateKeys} {eventCount : UInt64} {trace : List Event}
  {chain : AuditChainState} {poisoned : Option String}

theorem handed_append (trace events : List Event) : handed (trace ++ events) = handed trace ++ handed events := by
  simp [handed]

theorem lastHash_append {events : List Event} (h : handed events = []) :
    lastHash (trace ++ events) = lastHash trace := by
  simp [lastHash, handed_append, h]

/-- An event that tells the clients something. -/
theorem sinkInv_emit (hI : SinkInv platform trace chain poisoned) {e : Event} (hsink : e.usesSink = false)
    (hfail : e.isFailure = false) : SinkInv platform (trace ++ [e]) chain poisoned := by
  have hnone : handed [e] = [] := by
    cases e with
    | record => cases hsink
    | _ => rfl
  refine ⟨each_snoc hI.quiet fun h => ?_, each_snoc hI.linked ?_, fun hp f hf => ?_, fun hp => ?_⟩
  · rw [hsink] at h; cases h
  · cases e with
    | record => cases hsink
    | _ => trivial
  · rcases List.mem_append.mp hf with hf | hf
    · exact hI.clean hp f hf
    · rw [List.mem_singleton.mp hf]; exact hfail
  · rw [handed_append, hnone, List.append_nil, lastHash_append hnone]
    exact hI.head hp

/-- Poisoning needs nothing of the state. -/
theorem sinkInv_poison (hI : SinkInv platform trace chain poisoned) (chain' : AuditChainState) (reason : String) :
    SinkInv platform (trace ++ [.failed]) chain' (some reason) :=
  ⟨each_snoc hI.quiet (fun h => by cases h), each_snoc hI.linked trivial, (fun hp => by cases hp),
    fun hp => by cases hp⟩

/-- The sink is used while nothing has failed, and the state moves on with it. -/
theorem sinkInv_use (hI : SinkInv platform trace chain none) {e : Event} (hlink : Linked platform trace e)
    (hfail : e.isFailure = false) {chain' : AuditChainState} (hseq : chain'.nextSequence.toNat =
      (handed (trace ++ [e])).length)
    (hhash : chain'.headHash = lastHash (trace ++ [e])) : SinkInv platform (trace ++ [e]) chain' none := by
  refine ⟨each_snoc hI.quiet fun _ => hI.clean rfl, each_snoc hI.linked hlink, fun _ f hf => ?_, fun _ => ⟨hseq, hhash⟩⟩
  rcases List.mem_append.mp hf with hf | hf
  · exact hI.clean rfl f hf
  · rw [List.mem_singleton.mp hf]; exact hfail

/-- The sink is used, with whatever outcome, and the writer is poisoned. -/
theorem sinkInv_use_poison (hI : SinkInv platform trace chain none) {e : Event} (hlink : Linked platform trace e)
    (chain' : AuditChainState) (reason : String) :
    SinkInv platform (trace ++ [e] ++ [.failed]) chain' (some reason) := by
  have hquiet : Each Quiet (trace ++ [e]) := each_snoc hI.quiet fun _ => hI.clean rfl
  exact ⟨each_snoc hquiet (fun h => by cases h), each_snoc (each_snoc hI.linked hlink) trivial, (fun hp => by cases hp),
    fun hp => by cases hp⟩

theorem sinkInv_synced (hI : SinkInv platform trace chain none) : SinkInv platform (trace ++ [.synced]) chain none := by
  have hnone : handed [.synced] = [] := rfl
  refine sinkInv_use (e := .synced) hI trivial rfl ?_ ?_
  · rw [handed_append, hnone, List.append_nil]
    exact (hI.head rfl).1
  · rw [lastHash_append hnone]
    exact (hI.head rfl).2

/-! ## Writes -/

/-- The property holds after a write; one that returns an error poisons the writer. -/
def After (I : List Event → AuditChainState → Option String → Prop) (trace : List Event) (chain : AuditChainState) :
    Res Unit → Prop
  | .ok () => I trace chain none
  | .error err => I (trace ++ [.failed]) chain (some err.toText)

/-- What a write may have done: nothing, handed a record that was not persisted, or handed one and moved on; an error
after that poisons the writer. -/
theorem writeEvent_cases {ticket : Option Nat} {event : AuditEvent} {env : WriteEnv} {chain' : AuditChainState}
    {events : List Event} {result : Res Unit} (h : writeEvent platform chain ticket event env =
      (chain', events, result)) :
    (∃ err, result = .error err ∧ events = [] ∧ chain' = chain) ∨
    ∃ record text persisted, events = [.record ticket record text persisted] ∧
      buildRecord platform chain env.now event = .ok (record, text) ∧
      ((∃ err, result = .error err) ∨ (result = .ok () ∧ persisted = true ∧ chain'.chainId = chain.chainId ∧
        chain'.headHash = record.eventHash ∧ chain'.nextSequence.toNat = chain.nextSequence.toNat + 1 ∧
        chain'.lastCheckpointSequence = chain.lastCheckpointSequence)) := by
  unfold writeEvent at h
  split at h
  · cases h; exact Or.inl ⟨_, rfl, rfl, rfl⟩
  · rename_i record text hbuild
    split at h
    · cases h; exact Or.inr ⟨record, text, false, rfl, hbuild, Or.inl ⟨_, rfl⟩⟩
    · simp only at h
      split at h
      · cases h; exact Or.inr ⟨record, text, true, rfl, hbuild, Or.inl ⟨_, rfl⟩⟩
      · rename_i next hnext
        have hn : next.toNat = chain.nextSequence.toNat + 1 := U64.checkedAdd_eq_some hnext
        split at h
        · split at h
          · cases h; exact Or.inr ⟨record, text, true, rfl, hbuild, Or.inl ⟨_, rfl⟩⟩
          · cases h; exact Or.inr ⟨record, text, true, rfl, hbuild, Or.inr ⟨rfl, rfl, rfl, rfl, hn, rfl⟩⟩
        · cases h; exact Or.inr ⟨record, text, true, rfl, hbuild, Or.inr ⟨rfl, rfl, rfl, rfl, hn, rfl⟩⟩

/-- A built record has the next number and the last hash. -/
theorem linked_buildRecord (hI : SinkInv platform trace chain none) {now : Res UInt64} {event : AuditEvent}
    {record : AuditChainRecord} {text : String} (h : buildRecord platform chain now event = .ok (record, text))
    (ticket : Option Nat) (persisted : Bool) : Linked platform trace (.record ticket record text persisted) := by
  obtain ⟨seconds, hbody, hhash, -⟩ := buildRecord_ok h
  obtain ⟨hseq, hprev⟩ := hI.head rfl
  refine ⟨?_, ?_, hhash⟩
  · rw [hbody]; exact hseq
  · rw [hbody]; exact hprev

theorem sinkInv_writeEvent (hI : SinkInv platform trace chain none) {ticket : Option Nat} {event : AuditEvent}
    {env : WriteEnv} {chain' : AuditChainState} {events : List Event} {result : Res Unit}
    (h : writeEvent platform chain ticket event env = (chain', events, result)) :
    After (SinkInv platform) (trace ++ events) chain' result := by
  rcases writeEvent_cases h with ⟨err, rfl, rfl, -⟩ | ⟨record, text, persisted, rfl, hbuild, hres⟩
  · rw [List.append_nil]
    exact sinkInv_poison hI chain' _
  · have hlink := linked_buildRecord hI hbuild ticket persisted
    rcases hres with ⟨err, rfl⟩ | ⟨rfl, rfl, -, hhash, hseq, -⟩
    · exact sinkInv_use_poison hI hlink chain' _
    · have hone : handed [.record ticket record text true] = [record] := rfl
      refine sinkInv_use hI hlink rfl ?_ ?_
      · rw [hseq, (hI.head rfl).1, handed_append, hone]
        simp
      · rw [hhash, lastHash, handed_append, hone]
        simp

/-- What a checkpoint may have done. -/
theorem appendCheckpoint_cases {env : CommitEnv} {chain' : AuditChainState} {events : List Event} {result : Res Unit}
    (h : appendCheckpoint platform chain signer env = (chain', events, result)) :
    (∃ err, result = .error err ∧ events = []) ∨
    ∃ payload text persisted, events = [.checkpoint payload text persisted] ∧
      buildCheckpoint platform chain signer env = .ok (payload, text) ∧
      ((∃ err, result = .error err) ∨ (result = .ok () ∧ persisted = true ∧ chain'.chainId = chain.chainId ∧
        chain'.headHash = chain.headHash ∧ chain'.nextSequence = chain.nextSequence ∧
        chain'.lastCheckpointSequence = some payload.lastSequence)) := by
  unfold appendCheckpoint at h
  split at h
  · cases h; exact Or.inl ⟨_, rfl, rfl⟩
  · rename_i payload text hbuild
    split at h
    · cases h; exact Or.inr ⟨payload, text, false, rfl, hbuild, Or.inl ⟨_, rfl⟩⟩
    · cases h; exact Or.inr ⟨payload, text, true, rfl, hbuild, Or.inr ⟨rfl, rfl, rfl, rfl, rfl, rfl⟩⟩

theorem sinkInv_appendCheckpoint (hI : SinkInv platform trace chain none) {env : CommitEnv} {chain' : AuditChainState}
    {events : List Event} {result : Res Unit} (h : appendCheckpoint platform chain signer env =
      (chain', events, result)) :
    After (SinkInv platform) (trace ++ events) chain' result := by
  rcases appendCheckpoint_cases h with ⟨err, rfl, rfl⟩ | ⟨payload, text, persisted, rfl, hbuild, hres⟩
  · rw [List.append_nil]
    exact sinkInv_poison hI chain' _
  · rcases hres with ⟨err, rfl⟩ | ⟨rfl, rfl, -, hhash, hseq, -⟩
    · exact sinkInv_use_poison (e := .checkpoint payload text persisted) hI trivial chain' _
    · have hnone : handed [.checkpoint payload text true] = [] := rfl
      refine sinkInv_use (e := .checkpoint payload text true) hI trivial rfl ?_ ?_
      · rw [hseq, handed_append, hnone, List.append_nil]
        exact (hI.head rfl).1
      · rw [hhash, lastHash_append hnone]
        exact (hI.head rfl).2

/-! ## Runs -/

variable (platform) in
def SinkOk (s : System) : Prop := SinkInv platform s.trace s.chain s.poisoned

theorem process_queued (platform : Platform) (s : System) (batch : Batch) (ticket : Nat) (env : WriteEnv)
    (command : WriterCommand) :
    (process platform s batch ticket env command).1.queued = s.queued := by
  cases command with
  | record event failure standalone =>
    simp only [process]
    split
    · rfl
    · split <;> rfl
  | _ => rfl

theorem release_queued : ∀ (barriers : List PendingBarrier) (s : System), (barriers.foldl releaseBarrier s).queued =
    s.queued
  | [], _ => rfl
  | barrier :: barriers, s => by
    rw [List.foldl_cons, release_queued]
    unfold releaseBarrier
    split <;> rfl

theorem commit_queued (s : System) (batch : Batch) (env : CommitEnv) :
    (commit platform signer eventCount s batch env).queued = s.queued := by
  have hcheck : (commitCheckpoint platform signer eventCount s batch env).1.queued = s.queued := by
    unfold commitCheckpoint
    split
    · split <;> rfl
    · rfl
  have hsync : ∀ (s : System) requested, (commitSync s requested env).queued = s.queued := by
    intro s requested
    unfold commitSync
    split
    · split <;> rfl
    · rfl
  unfold commit
  simp only
  split
  · rw [release_queued, hsync, hcheck]
  · rw [hsync, hcheck]

/-- A property of the trace, the chain and the poison that every write keeps, for the events, the writes and the commits
that are allowed. -/
structure Keeps (platform : Platform) (signer : HybridPrivateKeys) (admits : AuditEvent → Prop) (writes : WriteEnv →
    Prop) (commits : CommitEnv → Prop) (I : List Event → AuditChainState → Option String → Prop) : Prop where
  tell : ∀ {trace : List Event} {chain : AuditChainState} {poisoned : Option String} {e : Event},
  I trace chain poisoned →
    e.usesSink = false → e.isFailure = false → I (trace ++ [e]) chain poisoned
  write : ∀ {trace : List Event} {chain chain' : AuditChainState} {ticket : Option Nat} {event : AuditEvent}
    {env : WriteEnv} {events : List Event} {result : Res Unit}, I trace chain none → admits event → writes env →
    writeEvent platform chain ticket event env = (chain', events, result) →
    After I (trace ++ events) chain' result
  checkpoint : ∀ {trace : List Event} {chain chain' : AuditChainState} {env : CommitEnv} {events : List Event}
    {result : Res Unit}, I trace chain none → commits env →
    appendCheckpoint platform chain signer env = (chain', events, result) →
    After I (trace ++ events) chain' result
  synced : ∀ {trace : List Event} {chain : AuditChainState}, I trace chain none → I (trace ++ [.synced]) chain none
  unsynced : ∀ {trace : List Event} {chain : AuditChainState} (reason : String), I trace chain none →
    I (trace ++ [.failed]) chain (some reason)

/-- The events that are sent, the writes and the commits of an action are allowed. -/
def Allowed (admits : AuditEvent → Prop) (writes : WriteEnv → Prop) (commits : CommitEnv → Prop) : Action → Prop
  | .send (.record event _ _) => admits event
  | .take env => writes env
  | .commit env => commits env
  | _ => True

namespace Keeps

variable {admits : AuditEvent → Prop} {writes : WriteEnv → Prop} {commits : CommitEnv → Prop}
  {I : List Event → AuditChainState → Option String → Prop} {s : System}

theorem setFailure (K : Keeps platform signer admits writes commits I) (hI : I s.trace s.chain s.poisoned)
    (failure : Nat) (reason : String) : I (s.setFailure failure reason).trace (s.setFailure failure reason).chain
      (s.setFailure failure reason).poisoned :=
  K.tell (e := .reported failure) hI rfl rfl

theorem process (K : Keeps platform signer admits writes commits I) (hI : I s.trace s.chain s.poisoned) (batch : Batch)
    (ticket : Nat) {env : WriteEnv} (henv : writes env) {command : WriterCommand}
    (hcommand : ∀ event failure standalone, command = .record event failure standalone → admits event) :
    I (process platform s batch ticket env command).1.trace (process platform s batch ticket env command).1.chain
      (process platform s batch ticket env command).1.poisoned := by
  cases command with
  | record event failure standalone =>
    cases hp : s.poisoned with
    | some reason =>
      simp only [AuditChain.process, hp]
      exact K.setFailure hI failure reason
    | none =>
      have hI' : I s.trace s.chain none := hp ▸ hI
      obtain ⟨chain, events, result, hwrite⟩ :
          ∃ chain events result, writeEvent platform s.chain (some ticket) event env = (chain, events, result) :=
        ⟨_, _, _, rfl⟩
      have hw := K.write hI' (hcommand event failure standalone rfl) henv hwrite
      cases result with
      | error err =>
        simp only [AuditChain.process, hp, hwrite]
        exact K.tell (e := .reported failure) hw rfl rfl
      | ok u =>
        simp only [AuditChain.process, hp, hwrite]
        exact hw
  | barrier failure => exact hI
  | shutdown => exact hI

theorem commitCheckpoint (K : Keeps platform signer admits writes commits I) (eventCount : UInt64)
    (hI : I s.trace s.chain s.poisoned) (batch : Batch) {env : CommitEnv} (henv : commits env) :
    I (commitCheckpoint platform signer eventCount s batch env).1.trace
      (commitCheckpoint platform signer eventCount s batch env).1.chain
      (commitCheckpoint platform signer eventCount s batch env).1.poisoned := by
  unfold AuditChain.commitCheckpoint
  split
  · rename_i hdue
    have hp : s.poisoned = none := by
      rw [Bool.and_eq_true] at hdue
      exact Option.isNone_iff_eq_none.mp hdue.1
    have hI' : I s.trace s.chain none := hp ▸ hI
    split
    · rename_i chain events err happend
      exact K.checkpoint hI' henv happend
    · rename_i chain events happend
      show I (s.trace ++ events) chain s.poisoned
      rw [hp]
      exact K.checkpoint hI' henv happend
  · exact hI

theorem commitSync (K : Keeps platform signer admits writes commits I) (hI : I s.trace s.chain s.poisoned)
    (commitRequested : Bool) (env : CommitEnv) : I (commitSync s commitRequested env).trace
      (commitSync s commitRequested env).chain (commitSync s commitRequested env).poisoned := by
  unfold AuditChain.commitSync
  split
  · rename_i hsync
    have hp : s.poisoned = none := by
      rw [Bool.and_eq_true] at hsync
      exact Option.isNone_iff_eq_none.mp hsync.2
    have hI' : I s.trace s.chain none := hp ▸ hI
    split
    · show I (s.trace ++ [.synced]) s.chain s.poisoned
      rw [hp]
      exact K.synced hI'
    · exact K.unsynced _ hI'
  · exact hI

theorem releaseBarrier (K : Keeps platform signer admits writes commits I) (hI : I s.trace s.chain s.poisoned)
    (barrier : PendingBarrier) : I (releaseBarrier s barrier).trace (releaseBarrier s barrier).chain
      (releaseBarrier s barrier).poisoned := by
  unfold AuditChain.releaseBarrier
  split
  · exact K.tell (e := .acked barrier.ticket) (K.setFailure hI _ _) rfl rfl
  · exact K.tell (e := .acked barrier.ticket) hI rfl rfl

theorem release (K : Keeps platform signer admits writes commits I) : ∀ (barriers : List PendingBarrier) {s : System},
    I s.trace s.chain s.poisoned → I (barriers.foldl AuditChain.releaseBarrier s).trace
      (barriers.foldl AuditChain.releaseBarrier s).chain (barriers.foldl AuditChain.releaseBarrier s).poisoned
  | [], _, hI => hI
  | barrier :: barriers, _, hI => release K barriers (K.releaseBarrier hI barrier)

/-- Every allowed step keeps the property, and that the queued events are allowed. -/
theorem step (K : Keeps platform signer admits writes commits I) {a : Action} {s' : System}
    (hI : I s.trace s.chain s.poisoned ∧ ∀ event failure standalone, .record event failure standalone ∈ s.queued →
      admits event)
    (ha : Allowed admits writes commits a) (h : step platform signer eventCount s a = some s') :
    I s'.trace s'.chain s'.poisoned ∧ ∀ event failure standalone, .record event failure standalone ∈ s'.queued →
    admits event := by
  obtain ⟨hI, hqueued⟩ := hI
  cases a with
  | send command =>
    simp only [AuditChain.step, send] at h
    split at h
    · split at h <;> cases h
      · exact ⟨K.setFailure hI _ _, hqueued⟩
      · exact ⟨K.setFailure hI _ _, hqueued⟩
      · exact ⟨hI, hqueued⟩
    · split at h
      · cases h
        refine ⟨hI, fun event failure standalone hmem => ?_⟩
        rcases List.mem_append.mp hmem with hold | hnew
        · exact hqueued event failure standalone hold
        · rw [← List.mem_singleton.mp hnew] at ha
          exact ha
      · split at h <;> cases h
        exact ⟨K.setFailure hI _ _, hqueued⟩
  | take env =>
    obtain ⟨batch, -, h⟩ := Option.bind_eq_some_iff.mp h
    obtain ⟨command, hcommand, rfl⟩ := Option.map_eq_some_iff.mp h
    have htook : I (({ s with taken := s.taken + 1 } : System).emit [.took s.taken]).trace s.chain s.poisoned :=
      K.tell (e := .took s.taken) hI rfl rfl
    refine ⟨K.process (s := ({ s with taken := s.taken + 1 } : System).emit [.took s.taken]) htook _ _ ha ?_, ?_⟩
    · rintro event failure standalone rfl
      exact hqueued event failure standalone (List.mem_of_getElem? hcommand)
    · intro event failure standalone hmem
      have hframe := process_queued platform (({ s with taken := s.taken + 1 } : System).emit [.took s.taken])
        { batch with processed := batch.processed + 1 } s.taken env command
      exact hqueued event failure standalone (hframe ▸ hmem)
  | drained =>
    simp only [AuditChain.step] at h
    split at h <;> cases h
    exact ⟨hI, hqueued⟩
  | commit env =>
    simp only [AuditChain.step] at h
    split at h <;> cases h
    rename_i batch hphase
    have hcheck := K.commitCheckpoint eventCount hI batch ha
    have hsync := K.commitSync hcheck (AuditChain.commitCheckpoint platform signer eventCount s batch env).2 env
    refine ⟨?_, fun event failure standalone hmem => ?_⟩
    · unfold commit
      simp only
      split
      · exact K.release batch.barriers hsync
      · exact hsync
    · exact hqueued event failure standalone (commit_queued .. ▸ hmem)
  | hangUp =>
    simp only [AuditChain.step] at h
    split at h <;> cases h
    exact ⟨hI, hqueued⟩
  | unanswered ticket =>
    simp only [AuditChain.step, unanswered] at h
    split at h
    · split at h <;> cases h
      exact ⟨K.setFailure hI _ _, hqueued⟩
    · cases h

theorem allowed_all (a : Action) : Allowed (fun _ => True) (fun _ => True) (fun _ => True) a := by
  cases a with
  | send command => cases command <;> trivial
  | _ => trivial

/-- What holds after the start and is kept without conditions holds in every state that is reached. -/
theorem reaches (K : Keeps platform signer (fun _ => True) (fun _ => True) (fun _ => True) I)
    (hstart : ∀ random env sync s₀, start platform random env sync = .ok s₀ → I s₀.trace s₀.chain s₀.poisoned)
    (h : Reaches platform signer eventCount s) : I s.trace s.chain s.poisoned := by
  obtain ⟨random, env, sync, s₀, actions, hs₀, hrun⟩ := h
  have hstep : ∀ s a s', I s.trace s.chain s.poisoned → AuditChain.step platform signer eventCount s a = some s' →
      I s'.trace s'.chain s'.poisoned :=
    fun s a s' hI hs => (K.step ⟨hI, fun _ _ _ _ => trivial⟩ (allowed_all a) hs).1
  exact Run.run_inv hstep (hstart random env sync s₀ hs₀) hrun

end Keeps

theorem sinkInv_keeps : Keeps platform signer (fun _ => True) (fun _ => True) (fun _ => True) (SinkInv platform) where
  tell hI hsink hfail := sinkInv_emit hI hsink hfail
  write hI _ _ h := sinkInv_writeEvent hI h
  checkpoint hI _ h := sinkInv_appendCheckpoint hI h
  synced := sinkInv_synced
  unsynced reason hI := sinkInv_poison hI _ reason

theorem sinkOk_setFailure {s : System} (hI : SinkOk platform s) (failure : Nat) (reason : String) :
    SinkOk platform (s.setFailure failure reason) :=
  sinkInv_emit hI rfl rfl

theorem sinkOk_step (s : System) (a : Action) (s' : System) (hI : SinkOk platform s)
    (h : step platform signer eventCount s a = some s') : SinkOk platform s' :=
  (sinkInv_keeps.step ⟨hI, fun _ _ _ _ => trivial⟩ (Keeps.allowed_all a) h).1

theorem start_queued {random : Vector UInt8 16} {env : WriteEnv} {sync : Except String Unit} {s : System}
    (h : start platform random env sync = .ok s) : s.queued = [] := by
  unfold start at h
  split at h
  · cases h
  · split at h <;> cases h
    rfl

theorem sinkOk_start {random : Vector UInt8 16} {env : WriteEnv} {sync : Except String Unit} {s : System}
    (h : start platform random env sync = .ok s) : SinkOk platform s := by
  have hempty : SinkInv platform [] (.new random) none :=
    ⟨each_nil, each_nil, fun _ _ hf => absurd hf List.not_mem_nil, fun _ => ⟨rfl, rfl⟩⟩
  unfold start at h
  split at h
  · cases h
  · rename_i chain events hwrite
    split at h <;> cases h
    exact sinkInv_synced (sinkInv_writeEvent hempty hwrite)

theorem sinkOk_reaches {s : System} (h : Reaches platform signer eventCount s) : SinkOk platform s :=
  sinkInv_keeps.reaches (fun _ _ _ _ hstart => sinkOk_start hstart) h

end Vectis.Core.AuditChain
