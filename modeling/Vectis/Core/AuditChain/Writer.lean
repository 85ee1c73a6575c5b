import Vectis.Core.AuditChain.Record
import Vectis.Lib.Run

/-!
# The audit writer

Clients put commands into a bounded channel; one writer takes them in batches (`writer_loop_with_policy`). A batch ends
when the channel is found empty, or after `groupCommitMaxCommands` commands, and is committed then: a checkpoint when
one is due, a sync when one is asked for, the replies to the barriers.

The trace lists what the writer does to the sink and tells the clients. A client is named by its failure cell, a command
by its ticket: its place among the commands that were queued. Clock, sink and random bytes belong to the environment.
-/

namespace Vectis.Core.AuditChain

open Canonical Ops.Sign

/-! ## Events -/

/-- What the writer does: a line is handed to the sink, which persists it or fails. -/
inductive Event
  | took (ticket : Nat)
  | record (ticket : Option Nat) (record : AuditChainRecord) (text : String) (persisted : Bool)
  | checkpoint (payload : AuditCheckpointPayload) (text : String) (persisted : Bool)
  | synced
  | failed
  | reported (failure : Nat)
  | acked (ticket : Nat)
  deriving DecidableEq, Repr

/-- The event uses the sink. -/
def Event.usesSink : Event → Bool
  | .record .. | .checkpoint .. | .synced => true
  | _ => false

/-- A write, a checkpoint or a sync has failed. -/
def Event.isFailure : Event → Bool
  | .failed | .record _ _ _ false | .checkpoint _ _ false => true
  | _ => false

/-! ## Writing -/

structure WriteEnv where
  now : Res UInt64
  write : Except String Unit

structure CommitEnv where
  now : Res UInt64
  rng : Res (List UInt8 × List UInt8)
  write : Except String Unit
  sync : Except String Unit

variable (platform : Platform)

/-- `write_event`: the new state, what was handed to the sink, and the result. -/
def writeEvent (state : AuditChainState) (ticket : Option Nat) (event : AuditEvent) (env : WriteEnv) :
    AuditChainState × List Event × Res Unit :=
  match buildRecord platform state env.now event with
  | .error err => (state, [], .error err)
  | .ok (record, text) =>
    match env.write with
    | .error err =>
      (state, [.record ticket record text false], .error (.internal ("cannot persist audit record: " ++ err)))
    | .ok () =>
      let state := { state with headHash := record.eventHash }
      match U64.checkedAdd state.nextSequence 1 with
      | none => (state, [.record ticket record text true], .error (.internal "audit sequence exhausted"))
      | some next =>
        let state := { state with nextSequence := next }
        if next > 1 then
          match U64.checkedAdd state.eventsSinceCheckpoint 1 with
          | none =>
            (state, [.record ticket record text true], .error (.internal "audit checkpoint event count exhausted"))
          | some count => ({ state with eventsSinceCheckpoint := count }, [.record ticket record text true], .ok ())
        else (state, [.record ticket record text true], .ok ())

/-- A record that is built and written advances the chain. -/
theorem writeEvent_ok {platform : Platform} {state : AuditChainState} (hstate : StateOk state) {seconds : UInt64}
    {event : AuditEvent} {hash : String}
    (hhash : hashRecord platform (recordBody state (toString seconds.toNat) event) = .ok hash)
    (hnext : state.nextSequence.toNat + 1 < 2 ^ 64) (hcount : state.eventsSinceCheckpoint.toNat + 1 < 2 ^ 64)
    (ticket : Option Nat) :
    ∃ text, buildRecord platform state (.ok seconds) event =
        .ok (⟨recordBody state (toString seconds.toNat) event, hash⟩, text) ∧
      writeEvent platform state ticket event ⟨.ok seconds, .ok ()⟩ =
      ({ state with
          headHash := hash
          nextSequence := state.nextSequence + 1
          eventsSinceCheckpoint :=
            if state.nextSequence + 1 > 1 then state.eventsSinceCheckpoint + 1 else state.eventsSinceCheckpoint },
        [.record ticket ⟨recordBody state (toString seconds.toNat) event, hash⟩ text true], .ok ()) := by
  obtain ⟨text, hbuild⟩ := buildRecord_fits hstate hhash
  refine ⟨text, hbuild, ?_⟩
  unfold writeEvent
  rw [hbuild]
  simp only [U64.checkedAdd, UInt64.toNat_one, hnext, hcount, if_true]
  split <;> rfl

def checkpointPayload (state : AuditChainState) (createdAt : String) : AuditCheckpointPayload where
  version := "v1"
  tokenType := checkpointType
  kid := initKeysKid
  chainId := state.chainId
  lastSequence := U64.saturatingSub state.nextSequence 1
  headHash := state.headHash
  hashAlg := Validation.internalKeysHash
  createdAt := createdAt

/-- The checkpoint of `append_checkpoint`, and the text of its line. -/
def buildCheckpoint (state : AuditChainState) (signer : HybridPrivateKeys) (env : CommitEnv) :
    Res (AuditCheckpointPayload × String) := do
  let createdAt ← currentTimestamp env.now
  let payload := checkpointPayload state createdAt
  let rng ← env.rng
  let signature ← signCompactHybridPayload platform.toSignLibrary payloadCodec rng payload signer
  let serialized ← canonicalJsonV1 platform.serde checkpointLineCodec ⟨checkpointVersion, signature⟩
  if serialized.utf8ByteSize > recordMaxBytes then .error (.internal "audit checkpoint exceeds maximum size")
  else .ok (payload, serialized)

def appendCheckpoint (state : AuditChainState) (signer : HybridPrivateKeys) (env : CommitEnv) :
    AuditChainState × List Event × Res Unit :=
  match buildCheckpoint platform state signer env with
  | .error err => (state, [], .error err)
  | .ok (payload, text) =>
    match env.write with
    | .error err =>
      (state, [.checkpoint payload text false], .error (.internal ("cannot persist audit checkpoint: " ++ err)))
    | .ok () =>
      ({ state with eventsSinceCheckpoint := 0, lastCheckpointSequence := some payload.lastSequence },
        [.checkpoint payload text true], .ok ())

/-! ## The channel and the batches -/

inductive WriterCommand
  | record (event : AuditEvent) (failure : Nat) (standalone : Bool)
  | barrier (failure : Nat)
  | shutdown
  deriving DecidableEq, Repr

structure PendingBarrier where
  ticket : Nat
  failure : Nat
  deriving DecidableEq, Repr

structure Batch where
  barriers : List PendingBarrier
  processed : Nat
  commitRequested : Bool
  shutdownReply : Option Nat
  deriving DecidableEq, Repr

inductive Phase
  | receiving
  | batching (batch : Batch)
  | committing (batch : Batch)
  | stopped
  deriving DecidableEq, Repr

/-- The channel holds the queued commands from `taken` on. -/
structure System where
  queued : List WriterCommand
  taken : Nat
  chain : AuditChainState
  poisoned : Option String
  dirty : Bool
  phase : Phase
  cells : Nat → Option String
  trace : List Event

/-- `config::AUDIT_CHAIN_CHANNEL_CAPACITY`. -/
def channelCapacity : Nat := 1024

/-- `config::AUDIT_GROUP_COMMIT_MAX_COMMANDS`. -/
def groupCommitMaxCommands : Nat := 256

namespace System

def emit (s : System) (events : List Event) : System := { s with trace := s.trace ++ events }

/-- `set_failure`: the first reason stays. -/
def setFailure (s : System) (failure : Nat) (reason : String) : System :=
  { s with
    cells := fun cell => if cell = failure ∧ s.cells cell = none then some reason else s.cells cell
    trace := s.trace ++ [.reported failure] }

/-- The writer appends nothing any more. -/
def poison (s : System) (reason : String) : System := { s with poisoned := some reason, trace := s.trace ++ [.failed] }

end System

/-- One command of a batch. -/
def process (s : System) (batch : Batch) (ticket : Nat) (env : WriteEnv) : WriterCommand → System × Batch
  | .record event failure standalone =>
    match s.poisoned with
    | some reason => (s.setFailure failure reason, batch)
    | none =>
      match writeEvent platform s.chain (some ticket) event env with
      | (chain, events, .error err) =>
        ((({ s with chain := chain }.emit events).poison err.toText).setFailure failure err.toText, batch)
      | (chain, events, .ok ()) =>
        ({ s with chain := chain, dirty := true }.emit events,
          { batch with commitRequested := batch.commitRequested || standalone })
  | .barrier failure =>
    (s, { batch with barriers := batch.barriers ++ [⟨ticket, failure⟩], commitRequested := true })
  | .shutdown => (s, { batch with shutdownReply := some ticket, commitRequested := true })

/-- The batch that the next command goes into. -/
def Phase.open : Phase → Option Batch
  | .receiving => some ⟨[], 0, false, none⟩
  | .batching batch => some batch
  | _ => none

/-- A batch without a shutdown is full after `groupCommitMaxCommands` commands. -/
def Batch.next (batch : Batch) : Phase :=
  if batch.shutdownReply.isNone && batch.processed ≥ groupCommitMaxCommands then .committing batch else .batching batch

def take (s : System) (env : WriteEnv) : Option System :=
  s.phase.open.bind fun batch => s.queued[s.taken]?.map fun command =>
    let (s', batch') := process platform ({ s with taken := s.taken + 1 }.emit [.took s.taken])
      { batch with processed := batch.processed + 1 } s.taken env command
    { s' with phase := batch'.next }

def checkpointDue (state : AuditChainState) (eventCount : UInt64) (shutdown : Bool) : Bool :=
  state.eventsSinceCheckpoint > 0 && (state.eventsSinceCheckpoint ≥ eventCount ||
    (shutdown && state.lastCheckpointSequence ≠ some (U64.saturatingSub state.nextSequence 1)))

variable (signer : HybridPrivateKeys) (eventCount : UInt64)

/-- The checkpoint of a commit; the flag is `commit_requested`. -/
def commitCheckpoint (s : System) (batch : Batch) (env : CommitEnv) : System × Bool :=
  if s.poisoned.isNone && checkpointDue s.chain eventCount batch.shutdownReply.isSome then
    match appendCheckpoint platform s.chain signer env with
    | (chain, events, .error err) => (({ s with chain := chain }.emit events).poison err.toText, true)
    | (chain, events, .ok ()) => ({ s with chain := chain, dirty := true }.emit events, true)
  else (s, batch.commitRequested)

def commitSync (s : System) (commitRequested : Bool) (env : CommitEnv) : System :=
  if commitRequested && s.dirty && s.poisoned.isNone then
    match env.sync with
    | .ok () => { s with dirty := false }.emit [.synced]
    | .error err => s.poison ("cannot fsync audit log: " ++ err)
  else s

/-- A barrier gets its reply; before that, its client the reason if the writer is poisoned. -/
def releaseBarrier (s : System) (barrier : PendingBarrier) : System :=
  match s.poisoned with
  | some reason => (s.setFailure barrier.failure reason).emit [.acked barrier.ticket]
  | none => s.emit [.acked barrier.ticket]

def commit (s : System) (batch : Batch) (env : CommitEnv) : System :=
  let (s, commitRequested) := commitCheckpoint platform signer eventCount s batch env
  let s := commitSync s commitRequested env
  let s := if commitRequested then batch.barriers.foldl releaseBarrier s else s
  { s with phase := if batch.shutdownReply.isSome then .stopped else .receiving }

/-- A step of a client or of the writer. `drained`: the channel is found empty. -/
inductive Action
  | send (command : WriterCommand)
  | take (env : WriteEnv)
  | drained
  | commit (env : CommitEnv)
  | hangUp
  | unanswered (ticket : Nat)

def unavailable : String := "audit writer is unavailable"

/-- A record is refused when the channel is full (`try_send`); the other commands wait for room. -/
def send (s : System) (command : WriterCommand) : Option System :=
  if s.phase = .stopped then
    match command with
    | .record _ failure _ | .barrier failure => some (s.setFailure failure unavailable)
    | .shutdown => some s
  else if s.queued.length - s.taken < channelCapacity then some { s with queued := s.queued ++ [command] }
  else
    match command with
    | .record _ failure _ => some (s.setFailure failure unavailable)
    | _ => none

/-- A client whose barrier was still queued when the writer stopped gets no reply. -/
def unanswered (s : System) (ticket : Nat) : Option System :=
  match s.phase, s.queued[ticket]? with
  | .stopped, some (.barrier failure) =>
    if s.taken ≤ ticket then some (s.setFailure failure "audit writer did not confirm persistence") else none
  | _, _ => none

def step (s : System) : Action → Option System
  | .send command => send s command
  | .take env => take platform s env
  | .drained =>
    match s.phase with
    | .batching batch => some { s with phase := .committing batch }
    | _ => none
  | .commit env =>
    match s.phase with
    | .committing batch => some (commit platform signer eventCount s batch env)
    | _ => none
  | .hangUp => if s.phase = .receiving ∧ s.taken = s.queued.length then some { s with phase := .stopped } else none
  | .unanswered ticket => unanswered s ticket

/-- `AuditRuntime::start`: the first record is written and synced before any command. -/
def start (random : Vector UInt8 16) (env : WriteEnv) (sync : Except String Unit) : Res System :=
  match writeEvent platform (.new random) none .chainStarted env with
  | (_, _, .error err) => .error err
  | (chain, events, .ok ()) =>
    match sync with
    | .error err => .error (.internal ("cannot fsync audit log: " ++ err))
    | .ok () => .ok ⟨[], 0, chain, none, false, .receiving, fun _ => none, events ++ [.synced]⟩

/-- A state of a writer that was started and has taken some steps. -/
def Reaches (s : System) : Prop :=
  ∃ random env sync s₀ actions, start platform random env sync = .ok s₀ ∧
    Run.run (step platform signer eventCount) s₀ actions = some s

/-! ## An example -/

def exampleEvent : AuditEvent := ⟨"key.created", "success", "alice", "f0", false, true, "k1", "", "create", "", "r1"⟩

def exampleSigner : HybridPrivateKeys := ⟨"eddsa", "ml-dsa"⟩

def exampleRandom : Vector UInt8 16 := Vector.replicate 16 171

variable {platform}

theorem start_written {random : Vector UInt8 16} {env : WriteEnv} {chain : AuditChainState} {events : List Event}
    (h : writeEvent platform (.new random) none .chainStarted env = (chain, events, .ok ())) :
    start platform random env (.ok ()) =
      .ok ⟨[], 0, chain, none, false, .receiving, fun _ => none, events ++ [.synced]⟩ := by
  simp only [start, h]

theorem take_written {s : System} {batch : Batch} {event : AuditEvent} {failure : Nat} {standalone : Bool}
    {env : WriteEnv} {chain : AuditChainState} {events : List Event} (hopen : s.phase.open = some batch)
    (hcommand : s.queued[s.taken]? = some (.record event failure standalone)) (hpoisoned : s.poisoned = none)
    (hwrite : writeEvent platform s.chain (some s.taken) event env = (chain, events, .ok ())) :
    take platform s env = some
      { s with
        taken := s.taken + 1
        chain := chain
        dirty := true
        trace := s.trace ++ [.took s.taken] ++ events
        phase := Batch.next { batch with
          processed := batch.processed + 1
          commitRequested := batch.commitRequested || standalone } } := by
  simp [take, hopen, hcommand, process, hpoisoned, hwrite, System.emit]

theorem take_failed {s : System} {batch : Batch} {event : AuditEvent} {failure : Nat} {standalone : Bool}
    {env : WriteEnv} {chain : AuditChainState} {events : List Event} {err : DynError}
    (hopen : s.phase.open = some batch)
    (hcommand : s.queued[s.taken]? = some (.record event failure standalone)) (hpoisoned : s.poisoned = none)
    (hwrite : writeEvent platform s.chain (some s.taken) event env = (chain, events, .error err)) :
    take platform s env = some
      { ((({ s with taken := s.taken + 1, chain := chain }.emit [.took s.taken]).emit events).poison
          err.toText).setFailure failure err.toText with
        phase := Batch.next { batch with processed := batch.processed + 1 } } := by
  simp [take, hopen, hcommand, process, hpoisoned, hwrite, System.emit]

/-- A writer that has only written its first record. -/
def exampleStarted (chain : AuditChainState) (record : AuditChainRecord) (text : String) : System :=
  ⟨[], 0, chain, none, false, .receiving, fun _ => none, [.record none record text true, .synced]⟩

/-- Where the hash works, a writer starts. -/
theorem exampleStart (htotal : ∀ body, ∃ hash, hashRecord platform body = .ok hash) :
    ∃ chain record text,
      start platform exampleRandom ⟨.ok 4, .ok ()⟩ (.ok ()) = .ok (exampleStarted chain record text) ∧ StateOk chain ∧
      chain.nextSequence = 1 ∧ chain.eventsSinceCheckpoint = 0 ∧
      buildRecord platform (.new exampleRandom) (.ok 4) .chainStarted = .ok (record, text) := by
  obtain ⟨hash, hhash⟩ := htotal (recordBody (.new exampleRandom) (toString (4 : UInt64).toNat) .chainStarted)
  obtain ⟨text, hbuild, hwrite⟩ := writeEvent_ok (stateOk_new exampleRandom) hhash (by decide) (by decide) none
  exact ⟨_, _, _, start_written hwrite, ⟨(stateOk_new exampleRandom).chainId, hashRecord_ok hhash⟩, rfl, rfl, hbuild⟩

end Vectis.Core.AuditChain
