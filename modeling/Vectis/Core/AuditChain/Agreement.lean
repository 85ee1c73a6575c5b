import Mathlib.Data.List.Forall2
import Vectis.Core.AuditChain.Sink
import Vectis.Core.AuditChain.Verify

/-!
# Writer and verifier agree

What the writer leaves in a sink that does not fail is accepted by the verifier, for every run, every split into batches
and every checkpoint threshold, and the verifier reports the writer's own state.

- `Agree`: the verifier has read the lines of the trace, and its chain has the counts and hashes of the writer's;
- `agree_write`, `agree_checkpoint`: one line keeps that;
- `files_verify`: files of several runs, one after the other.
-/

namespace Vectis.Core.AuditChain

open Canonical Validation Ops.Sign

/-! ## The file -/

/-- The bytes that an event leaves in the file. -/
def sinkLine : Event → List UInt8
  | .record _ _ text true | .checkpoint _ text true => Utf8.encode text ++ [10]
  | _ => []

def sinkBytes (trace : List Event) : List UInt8 := trace.flatMap sinkLine

theorem sinkBytes_append (trace events : List Event) :
    sinkBytes (trace ++ events) = sinkBytes trace ++ sinkBytes events := by
  simp [sinkBytes]

theorem sinkLine_of_tell {e : Event} (h : e.usesSink = false) : sinkLine e = [] := by
  cases e with
  | record => cases h
  | checkpoint => cases h
  | _ => rfl

/-! ## One write -/

variable {platform : Platform} {verifier : HybridPublicKeys} {signer : HybridPrivateKeys}
  {chain chain' : AuditChainState} {events : List Event} {result : Res Unit}

/-- What a write does in a sink that does not fail; the number stays only where the sequence is exhausted. -/
theorem writeEvent_written {ticket : Option Nat} {event : AuditEvent} {env : WriteEnv} (henv : env.write = .ok ())
    (h : writeEvent platform chain ticket event env = (chain', events, result)) :
    (∃ err, result = .error err ∧ events = [] ∧ chain' = chain) ∨
    ∃ record text, events = [.record ticket record text true] ∧
    buildRecord platform chain env.now event = .ok (record, text) ∧
      chain'.chainId = chain.chainId ∧ chain'.headHash = record.eventHash ∧
      chain'.lastCheckpointSequence = chain.lastCheckpointSequence ∧
      chain'.nextSequence = U64.saturatingAdd chain.nextSequence 1 ∧
      (result = .ok () → chain'.nextSequence.toNat = chain.nextSequence.toNat + 1) := by
  unfold writeEvent at h
  split at h
  · cases h
    exact Or.inl ⟨_, rfl, rfl, rfl⟩
  · rename_i record text hbuild
    rw [henv] at h
    simp only at h
    refine Or.inr ⟨record, text, ?_⟩
    split at h
    · rename_i hnone
      cases h
      have hmax : chain.nextSequence = U64.saturatingAdd chain.nextSequence 1 := by
        refine UInt64.toNat_inj.mp ?_
        have hge := U64.checkedAdd_eq_none hnone
        have hlt := chain.nextSequence.toNat_lt
        rw [UInt64.toNat_one] at hge
        rw [U64.toNat_saturatingAdd, UInt64.toNat_one]
        omega
      exact ⟨rfl, hbuild, rfl, rfl, rfl, hmax, fun hok => by cases hok⟩
    · rename_i next hnext
      have hn : next.toNat = chain.nextSequence.toNat + 1 := U64.checkedAdd_eq_some hnext
      have hsat : next = U64.saturatingAdd chain.nextSequence 1 := by
        rw [U64.saturatingAdd, hnext, Option.getD_some]
      split at h
      · split at h
        · cases h
          exact ⟨rfl, hbuild, rfl, rfl, rfl, hsat, fun hok => by cases hok⟩
        · cases h
          exact ⟨rfl, hbuild, rfl, rfl, rfl, hsat, fun _ => hn⟩
      · cases h
        exact ⟨rfl, hbuild, rfl, rfl, rfl, hsat, fun _ => hn⟩

/-- The checks on events that the writer leaves to its clients, after sanitizing. -/
structure EventOk (event : AuditEvent) : Prop where
  named : sanitize event.event reasonMaxChars ≠ ""
  decided : sanitize event.outcome reasonMaxChars ≠ ""
  notReserved : sanitize event.event reasonMaxChars ≠ chainStarted

/-- The verifier's chain has the writer's counts and hashes; its last number is the one before the next, unless the
writer has stopped with an exhausted sequence. -/
structure Agrees (v : VerifiedChain) (chain : AuditChainState) (poisoned : Option String) : Prop where
  chainId : v.chainId = chain.chainId
  records : v.records = chain.nextSequence
  headHash : v.headHash = chain.headHash
  lastCheckpoint : v.lastCheckpointSequence = chain.lastCheckpointSequence
  lastSequence : poisoned = none → v.lastSequence.toNat + 1 = chain.nextSequence.toNat

/-- From `before` on, the verifier reads the lines of the trace as one more chain, which agrees with the writer's. -/
structure Agree (platform : Platform) (verifier : HybridPublicKeys) (before : Progress) (trace : List Event)
    (chain : AuditChainState) (poisoned : Option String) : Prop where
  state : StateOk chain
  verified : ∃ v lineIndex, Agrees v chain poisoned ∧ ∀ rest,
    verifyLoop platform verifier before (sinkBytes trace ++ rest) =
      verifyLoop platform verifier ⟨before.finish, some v, lineIndex⟩ rest

variable {before : Progress} {trace : List Event} {poisoned : Option String}

/-- What leaves nothing in the file changes nothing. -/
theorem Agree.extend {poisoned' : Option String} (h : Agree platform verifier before trace chain poisoned)
    {es : List Event} (hes : sinkBytes es = []) (hp : poisoned' = none → poisoned = none) :
    Agree platform verifier before (trace ++ es) chain poisoned' := by
  obtain ⟨v, lineIndex, hv, hread⟩ := h.verified
  refine ⟨h.state, v, lineIndex, ⟨hv.chainId, hv.records, hv.headHash, hv.lastCheckpoint,
    fun h' => hv.lastSequence (hp h')⟩, fun rest => ?_⟩
  rw [sinkBytes_append, hes, List.append_nil]
  exact hread rest

/-- One more line. -/
theorem Agree.line (h : Agree platform verifier before trace chain none) {e : Event} {text : String} {line : Line}
    (he : sinkLine e = Utf8.encode text ++ [10]) (hline : Utf8.encode text ≠ [] ∧ (10 : UInt8) ∉ Utf8.encode text)
    (hsize : text.utf8ByteSize ≤ recordMaxBytes) (hparse : ∀ lineIndex, parseLine platform lineIndex text = .ok line)
    (hstate : StateOk chain')
    (haccept : ∀ v chains lineIndex, Agrees v chain none → ∃ v', Agrees v' chain' poisoned ∧
      acceptLine platform verifier ⟨chains, some v, lineIndex⟩ line = .ok ⟨chains, some v', lineIndex + 1⟩) :
    Agree platform verifier before (trace ++ [e]) chain' poisoned := by
  obtain ⟨v, lineIndex, hv, hread⟩ := h.verified
  obtain ⟨v', hv', hstep⟩ := haccept v before.finish lineIndex hv
  refine ⟨hstate, v', lineIndex + 1, hv', fun rest => ?_⟩
  have hbytes : sinkBytes (trace ++ [e]) ++ rest = sinkBytes trace ++ (Utf8.encode text ++ 10 :: rest) := by
    rw [sinkBytes_append]
    simp [sinkBytes, he]
  rw [hbytes, hread, verifyLoop_line hline hsize (hparse _), hstep]
  rfl

theorem saturatingAdd_eq {a b : UInt64} (h : a.toNat + 1 = b.toNat) : U64.saturatingAdd a 1 = b := by
  refine UInt64.toNat_inj.mp ?_
  have := b.toNat_lt
  rw [U64.toNat_saturatingAdd, UInt64.toNat_one]
  omega

theorem saturatingSub_eq {a b : UInt64} (h : a.toNat + 1 = b.toNat) : U64.saturatingSub b 1 = a := by
  refine UInt64.toNat_inj.mp ?_
  rw [U64.toNat_saturatingSub, UInt64.toNat_one]
  omega

/-- A record that the writer builds is one that the verifier pushes. -/
theorem acceptLine_record {v : VerifiedChain} {seconds : UInt64} {event : AuditEvent} {record : AuditChainRecord}
    (hv : Agrees v chain none) (hbody : record.body = recordBody chain (toString seconds.toNat) event)
    (hevent : sanitize event.event reasonMaxChars ≠ chainStarted) (chains : List AuditChainSummary) (lineIndex : Nat) :
    acceptLine platform verifier ⟨chains, some v, lineIndex⟩ (.record record) =
      .ok ⟨chains, some { v with
        records := U64.saturatingAdd v.records 1
        lastSequence := chain.nextSequence
        headHash := record.eventHash }, lineIndex + 1⟩ := by
  have hname : record.body.event ≠ chainStarted := by
    rw [hbody]
    exact hevent
  have hpush : v.push record = .ok { v with
      records := U64.saturatingAdd v.records 1, lastSequence := chain.nextSequence, headHash := record.eventHash } := by
    unfold VerifiedChain.push
    rw [hbody, saturatingAdd_eq (hv.lastSequence rfl)]
    simp [recordBody, hv.chainId, hv.headHash]
  simp only [acceptLine, if_neg hname, hpush, Loop.mapError_ok, bind, Except.bind]

theorem agree_write (h : Agree platform verifier before trace chain none) {ticket : Option Nat} {event : AuditEvent}
    {env : WriteEnv} (hevent : EventOk event) (henv : env.write = .ok ())
    (hwrite : writeEvent platform chain ticket event env = (chain', events, result)) :
    After (Agree platform verifier before) (trace ++ events) chain' result := by
  rcases writeEvent_written henv hwrite with ⟨err, rfl, rfl, rfl⟩ | ⟨record, text, rfl, hbuild, hid, hhead, hlast,
    hnext, hok⟩
  · rw [List.append_nil]
    exact h.extend rfl (fun hp => by cases hp)
  · obtain ⟨seconds, hbody, hhash, htext, hsize⟩ := buildRecord_ok hbuild
    have hvalid := validateRecord_build h.state hevent.named hevent.decided hbuild
    have hversion : record.body.version = chainVersion := by
      rw [hbody]
      rfl
    have hstate : StateOk chain' := ⟨hid ▸ h.state.chainId, hhead ▸ hashRecord_ok hhash⟩
    have hstep : ∀ poisoned, (poisoned = none → result = .ok ()) →
        Agree platform verifier before (trace ++ [.record ticket record text true]) chain' poisoned := by
      intro poisoned hp
      refine h.line rfl (canonical_line (recordCodec_plain record) htext) hsize (parseLine_record hversion hvalid htext)
        hstate fun v chains lineIndex hv => ?_
      refine ⟨_, ?_, acceptLine_record hv hbody hevent.notReserved chains lineIndex⟩
      refine ⟨hv.chainId.trans hid.symm, ?_, hhead.symm, hv.lastCheckpoint.trans hlast.symm, fun h' => ?_⟩
      · rw [hv.records, hnext]
      · exact (hok (hp h')).symm
    cases result with
    | ok u => exact hstep none fun _ => rfl
    | error err => exact (hstep (some err.toText) (fun hp => by cases hp)).extend rfl id

/-- A checkpoint of the writer's chain has the fields that the verifier asks for. -/
theorem validateCheckpointPayload_build (hstate : StateOk chain) (seconds : UInt64) :
    validateCheckpointPayload (checkpointPayload chain (toString seconds.toNat)) = .ok () := by
  have hhash : validateHashHexField "audit checkpoint head_hash" chain.headHash internalKeysHash = .ok () :=
    validateInternalHash_ok_iff.mpr hstate.headHash
  simp [validateCheckpointPayload, checkpointPayload, hexDecodes, hstate.chainId.1, hstate.chainId.2, hhash,
    parseU64_repr, bind, Except.bind]

theorem buildCheckpoint_ok {env : CommitEnv} {payload : AuditCheckpointPayload} {text : String}
    (h : buildCheckpoint platform chain signer env = .ok (payload, text)) :
    ∃ (seconds : UInt64) (rng : List UInt8 × List UInt8) (signature : String),
      payload = checkpointPayload chain (toString seconds.toNat) ∧
      signCompactHybridPayload platform.toSignLibrary payloadCodec rng payload signer = .ok signature ∧
      canonicalJsonV1 platform.serde checkpointLineCodec ⟨checkpointVersion, signature⟩ = .ok text ∧
      text.utf8ByteSize ≤ recordMaxBytes := by
  obtain ⟨createdAt, htime, h⟩ := Loop.bind_eq_ok.mp h
  obtain ⟨rng, -, h⟩ := Loop.bind_eq_ok.mp h
  obtain ⟨signature, hsign, h⟩ := Loop.bind_eq_ok.mp h
  obtain ⟨serialized, hser, h⟩ := Loop.bind_eq_ok.mp h
  obtain ⟨seconds, -, rfl⟩ := Loop.map_eq_ok.mp htime
  obtain ⟨hsize, h⟩ := Loop.guard_eq_ok.mp h
  cases h
  exact ⟨seconds, rng, signature, rfl, hsign, hser, Nat.le_of_not_lt hsize⟩

theorem verifyCheckpoint_build (hmatch : Matches platform.toSignLibrary signer verifier) (hstate : StateOk chain)
    {seconds : UInt64} {rng : List UInt8 × List UInt8} {signature : String}
    (hsign : signCompactHybridPayload platform.toSignLibrary payloadCodec rng
      (checkpointPayload chain (toString seconds.toNat)) signer = .ok signature) :
    verifyCheckpoint platform verifier ⟨checkpointVersion, signature⟩ =
      .ok (checkpointPayload chain (toString seconds.toNat)) := by
  have hverify := verify_sign hmatch (payloadCodec_plain _) (payloadCodec_depth _) hsign
  have hpayload := validateCheckpointPayload_build hstate seconds
  unfold verifyCheckpoint
  rw [if_neg (by simp), hverify]
  simp only [hpayload, Loop.mapError_ok, bind, Except.bind]

theorem agree_checkpoint (hmatch : Matches platform.toSignLibrary signer verifier)
    (h : Agree platform verifier before trace chain none) {env : CommitEnv} (henv : env.write = .ok ())
    (happend : appendCheckpoint platform chain signer env = (chain', events, result)) :
    After (Agree platform verifier before) (trace ++ events) chain' result := by
  unfold appendCheckpoint at happend
  split at happend
  · cases happend
    rw [List.append_nil]
    exact h.extend rfl (fun hp => by cases hp)
  · rename_i payload text hbuild
    rw [henv] at happend
    cases happend
    obtain ⟨seconds, rng, signature, rfl, hsign, htext, hsize⟩ := buildCheckpoint_ok hbuild
    refine h.line rfl (canonical_line (checkpointLineCodec_plain _) htext) hsize (parseLine_checkpoint rfl htext)
      ⟨h.state.chainId, h.state.headHash⟩ fun v chains lineIndex hv => ?_
    have hlast := saturatingSub_eq (hv.lastSequence rfl)
    have hcheck : v.checkpoint (checkpointPayload chain (toString seconds.toNat)) = .ok { v with
        checkpointsVerified := U64.saturatingAdd v.checkpointsVerified 1
        lastCheckpointSequence := some (U64.saturatingSub chain.nextSequence 1)
        lastCheckpointHeadHash := some chain.headHash } := by
      simp [VerifiedChain.checkpoint, checkpointPayload, hv.chainId, hv.headHash, hlast]
    have haccept : acceptLine platform verifier ⟨chains, some v, lineIndex⟩
        (.checkpoint ⟨checkpointVersion, signature⟩) = .ok ⟨chains, some { v with
          checkpointsVerified := U64.saturatingAdd v.checkpointsVerified 1
          lastCheckpointSequence := some (U64.saturatingSub chain.nextSequence 1)
          lastCheckpointHeadHash := some chain.headHash }, lineIndex + 1⟩ := by
      simp only [acceptLine, verifyCheckpoint_build hmatch h.state hsign, hcheck, Loop.mapError_ok, bind, Except.bind]
    refine ⟨_, ?_, haccept⟩
    exact ⟨hv.chainId, hv.records, hv.headHash, rfl, hv.lastSequence⟩

/-! ## Runs -/

theorem agree_keeps (hmatch : Matches platform.toSignLibrary signer verifier) (before : Progress) :
    Keeps platform signer EventOk (fun env => env.write = .ok ()) (fun env => env.write = .ok () ∧ env.sync = .ok ())
      (Agree platform verifier before) where
  tell h hsink _ := h.extend (by simp [sinkBytes, sinkLine_of_tell hsink]) id
  write h hevent henv hwrite := agree_write h hevent henv hwrite
  checkpoint h henv happend := agree_checkpoint hmatch h henv.1 happend
  synced h := h.extend rfl id
  unsynced _ h := h.extend rfl fun hp => by cases hp

/-- The first record of a run starts a chain. -/
theorem agree_start {random : Vector UInt8 16} {env : WriteEnv} {sync : Except String Unit} {s : System}
    (henv : env.write = .ok ()) (h : start platform random env sync = .ok s) (before : Progress) :
    Agree platform verifier before s.trace s.chain s.poisoned := by
  unfold start at h
  split at h
  · cases h
  · rename_i chain events hwrite
    split at h
    · cases h
    · cases h
      rcases writeEvent_written henv hwrite with ⟨err, herr, -⟩ | ⟨record, text, rfl, hbuild, hid, hhead, hlast,
        hnext, -⟩
      · cases herr
      · obtain ⟨seconds, hbody, hhash, htext, hsize⟩ := buildRecord_ok hbuild
        have hevent : sanitize chainStarted reasonMaxChars = chainStarted := by rfl
        have houtcome : sanitize "success" reasonMaxChars = "success" := by rfl
        have haction : sanitize "chain-start" reasonMaxChars = "chain-start" := by rfl
        have hvalid : validateRecord platform record = .ok () := by
          refine validateRecord_build (stateOk_new random) ?_ ?_ hbuild
          · rw [AuditEvent.chainStarted, hevent]
            decide
          · rw [AuditEvent.chainStarted, houtcome]
            decide
        have hversion : record.body.version = chainVersion := by
          rw [hbody]
          rfl
        have hgenesis : isGenesis record = true := by
          simp [isGenesis, hbody, recordBody, AuditChainState.new, AuditEvent.chainStarted, houtcome, haction]
        have hname : record.body.event = chainStarted := by
          rw [hbody]
          exact hevent
        have haccept : acceptLine platform verifier before (.record record) =
            .ok ⟨before.finish, some (.fromGenesis record), before.lineIndex + 1⟩ := by
          simp [acceptLine, hname, hgenesis]
        have hline := canonical_line (recordCodec_plain record) htext
        refine ⟨⟨hid ▸ (stateOk_new random).chainId, hhead ▸ hashRecord_ok hhash⟩, .fromGenesis record,
          before.lineIndex + 1, ⟨?_, ?_, hhead.symm, hlast.symm, fun _ => ?_⟩, fun rest => ?_⟩
        · rw [hid, VerifiedChain.fromGenesis, hbody]
          rfl
        · rw [hnext]
          rfl
        · rw [hnext]
          rfl
        · have hbytes : sinkBytes ([.record none record text true] ++ [.synced]) ++ rest = Utf8.encode text ++
              10 :: rest := by
            simp [sinkBytes, sinkLine]
          rw [hbytes, verifyLoop_line hline hsize (parseLine_record hversion hvalid htext _), haccept]
          rfl

/-- A run of the writer whose sink does not fail; `admits` says which events its clients may send. -/
def CleanRun (platform : Platform) (verifier : HybridPublicKeys) (admits : AuditEvent → Prop) (s : System) : Prop :=
  ∃ signer eventCount random env sync s₀ actions, Matches platform.toSignLibrary signer verifier ∧ env.write = .ok () ∧
    start platform random env sync = .ok s₀ ∧
    (∀ a ∈ actions, Allowed admits (fun env => env.write = .ok ()) (fun env => env.write = .ok () ∧
      env.sync = .ok ()) a) ∧
    Run.run (step platform signer eventCount) s₀ actions = some s

theorem agree_run {s : System} (h : CleanRun platform verifier EventOk s) (before : Progress) :
    Agree platform verifier before s.trace s.chain s.poisoned := by
  obtain ⟨signer, eventCount, random, env, sync, s₀, actions, hmatch, henv, hstart, hallowed, hrun⟩ := h
  have hinitial : ∀ event failure standalone, .record event failure standalone ∈ s₀.queued → EventOk event := by
    rw [start_queued hstart]
    intro _ _ _ hmem
    cases hmem
  have hstep : ∀ s a s', (Agree platform verifier before s.trace s.chain s.poisoned ∧
      ∀ event failure standalone, .record event failure standalone ∈ s.queued → EventOk event) →
      Allowed EventOk (fun env => env.write = .ok ()) (fun env => env.write = .ok () ∧ env.sync = .ok ()) a →
      step platform signer eventCount s a = some s' → _ :=
    fun _ _ _ hI ha h => (agree_keeps hmatch before).step hI ha h
  exact (Run.run_inv_along hstep ⟨agree_start henv hstart before, hinitial⟩ (Run.along_of_forall hallowed) hrun).1

/-- The verifier reports a chain with the writer's counts, head and last checkpoint. -/
structure Reports (summary : AuditChainSummary) (s : System) : Prop where
  chainId : summary.chainId = s.chain.chainId
  records : summary.records = s.chain.nextSequence
  headHash : summary.headHash = s.chain.headHash
  lastCheckpoint : summary.lastCheckpointSequence = s.chain.lastCheckpointSequence

theorem verifyLoop_nil (progress : Progress) : verifyLoop platform verifier progress [] = .ok progress := by
  rw [verifyLoop]
  rfl

theorem verifyLoop_runs : ∀ {runs : List System} (before : Progress),
    (∀ s ∈ runs, CleanRun platform verifier EventOk s) →
    ∃ progress summaries, verifyLoop platform verifier before (runs.flatMap fun s => sinkBytes s.trace) = .ok progress ∧
      progress.finish = before.finish ++ summaries ∧ List.Forall₂ Reports summaries runs
  | [], before, _ => ⟨before, [], verifyLoop_nil before, by simp, .nil⟩
  | s :: runs, before, h => by
    obtain ⟨v, lineIndex, hv, hread⟩ := (agree_run (h s List.mem_cons_self) before).verified
    obtain ⟨progress, summaries, hloop, hfinish, hreports⟩ :=
      verifyLoop_runs ⟨before.finish, some v, lineIndex⟩ fun s' h' => h s' (List.mem_cons_of_mem _ h')
    refine ⟨progress, v.summary :: summaries, ?_, ?_, .cons ⟨hv.chainId, hv.records, hv.headHash, hv.lastCheckpoint⟩
      hreports⟩
    · rw [List.flatMap_cons, hread]
      exact hloop
    · rw [hfinish]
      simp [Progress.finish]

/-- The file of some runs, one after the other, is accepted, and the report is the writer's own state after each run. -/
def FilesVerify (platform : Platform) (verifier : HybridPublicKeys) (runs : List System) : Prop :=
  ∃ output, verifyFileWithVerifier platform verifier (runs.flatMap fun s => sinkBytes s.trace) = .ok output ∧
    List.Forall₂ Reports output.chains runs

theorem filesVerify_of_clean {runs : List System} (hne : runs ≠ [])
    (h : ∀ s ∈ runs, CleanRun platform verifier EventOk s) :
    FilesVerify platform verifier runs := by
  obtain ⟨progress, summaries, hloop, hfinish, hreports⟩ := verifyLoop_runs ⟨[], none, 0⟩ h
  have hsummaries : progress.finish = summaries := by simpa [Progress.finish] using hfinish
  have hnonempty : ¬ progress.finish.isEmpty = true := by
    rw [hsummaries, List.isEmpty_iff]
    rintro rfl
    cases hreports
    exact hne rfl
  refine ⟨⟨true, progress.finish⟩, ?_, hsummaries ▸ hreports⟩
  unfold verifyFileWithVerifier
  rw [hloop]
  simp only [bind, Except.bind, if_neg hnonempty]

/-- Files of runs whose sink does not fail are accepted, whatever the batches, the thresholds and the other failures. -/
theorem files_verify {runs : List System} (hne : runs ≠ []) (h : ∀ s ∈ runs, CleanRun platform verifier EventOk s) :
    FilesVerify platform verifier runs :=
  filesVerify_of_clean hne h

/-! ## Examples -/

def exampleVerifier : HybridPublicKeys := ⟨"eddsa", "ml-dsa"⟩

theorem exampleMatches : Matches examplePlatform.toSignLibrary exampleSigner exampleVerifier :=
  ⟨Scheme.keyed_pair _, Scheme.keyed_pair _⟩

/-- A writer that has written its first record and one of a client. -/
theorem exampleRecorded (htotal : ∀ body, ∃ hash, hashRecord platform body = .ok hash)
    (hmatch : Matches platform.toSignLibrary signer verifier) {admits : AuditEvent → Prop} {event : AuditEvent}
    (hadmits : admits event) :
    ∃ s₀ s record text, CleanRun platform verifier admits s ∧ start platform exampleRandom ⟨.ok 4, .ok ()⟩ (.ok ()) =
    .ok s₀ ∧
      StateOk s₀.chain ∧ s₀.chain.nextSequence = 1 ∧ buildRecord platform s₀.chain (.ok 5) event = .ok (record, text) ∧
      s.trace = s₀.trace ++ [.took 0, .record (some 0) record text true] := by
  obtain ⟨chain, record, text, hstart, hstate, hnext, hcount, -⟩ := exampleStart htotal
  obtain ⟨hash, hhash⟩ := htotal (recordBody chain (toString (5 : UInt64).toNat) event)
  obtain ⟨text', hbuild, hwrite⟩ := writeEvent_ok hstate hhash (by rw [hnext]; decide) (by rw [hcount]; decide) (some 0)
  have htake := take_written (s := { exampleStarted chain record text with queued := [.record event 0 false] }) rfl
    rfl rfl hwrite
  have hrun : Run.run (step platform signer 100) (exampleStarted chain record text)
      [.send (.record event 0 false), .take ⟨.ok 5, .ok ()⟩] = some _ := Run.run_of_step rfl (Run.run_of_step htake rfl)
  refine ⟨_, _, _, text', ⟨signer, 100, _, _, _, _, _, hmatch, rfl, hstart, ?_, hrun⟩, hstart, hstate, hnext,
    hbuild, rfl⟩
  intro a ha
  rcases List.mem_cons.mp ha with rfl | ha
  · exact hadmits
  · rw [List.mem_singleton.mp ha]
    rfl

theorem exampleEvent_ok : EventOk exampleEvent := ⟨by decide, by decide, by decide⟩

theorem files_verify_example : ∃ s, (handed s.trace).length = 2 ∧
    FilesVerify examplePlatform exampleVerifier [s, s] := by
  obtain ⟨s₀, s, record, text, hclean, hstart, -, -, -, htrace⟩ :=
    exampleRecorded hashRecord_example exampleMatches exampleEvent_ok
  refine ⟨s, ?_, files_verify (by simp) (by simp [hclean])⟩
  obtain ⟨chain, first, text₀, hstart', -⟩ := exampleStart hashRecord_example
  rw [hstart] at hstart'
  cases hstart'
  rw [htrace]
  rfl

/-- The condition on the text of the event as it is sent, which sanitizing may turn into the reserved name. -/
def SentOk (event : AuditEvent) : Prop :=
  sanitize event.event reasonMaxChars ≠ "" ∧ sanitize event.outcome reasonMaxChars ≠ "" ∧ event.event ≠ chainStarted

/-- The reserved name behind a control character. -/
def disguisedEvent : AuditEvent := { exampleEvent with event := "\taudit.chain.started" }

/-- A file that ends with a record of the reserved name which does not start a chain. -/
theorem disguised_refused (htotal : ∀ body, ∃ hash, hashRecord platform body = .ok hash)
    (hmatch : Matches platform.toSignLibrary signer verifier) :
    ∃ s, CleanRun platform verifier SentOk s ∧ ¬ FilesVerify platform verifier [s] := by
  have hsent : SentOk disguisedEvent := ⟨by decide, by decide, by decide⟩
  have hname : sanitize disguisedEvent.event reasonMaxChars = chainStarted := by rfl
  obtain ⟨s₀, s, record, text, hclean, hstart, hstate, hnext, hbuild, htrace⟩ := exampleRecorded htotal hmatch hsent
  refine ⟨s, hclean, ?_⟩
  rintro ⟨output, hverify, -⟩
  have hagree : Agree platform verifier ⟨[], none, 0⟩ s₀.trace s₀.chain s₀.poisoned := agree_start rfl hstart _
  obtain ⟨v, lineIndex, -, hread⟩ := hagree.verified
  obtain ⟨seconds, hbody, hhash, htext, hsize⟩ := buildRecord_ok hbuild
  have hvalid := validateRecord_build hstate hsent.1 hsent.2.1 hbuild
  have hversion : record.body.version = chainVersion := by
    rw [hbody]
    rfl
  have hstarted : record.body.event = chainStarted := by
    rw [hbody]
    exact hname
  have hgenesis : isGenesis record = false := by
    have hsequence : record.body.sequence = 1 := by
      rw [hbody]
      exact hnext
    simp [isGenesis, hsequence]
  have hbytes : ([s].flatMap fun s => sinkBytes s.trace) = sinkBytes s₀.trace ++ (Utf8.encode text ++ 10 :: []) := by
    rw [List.flatMap_singleton, htrace, sinkBytes_append]
    simp [sinkBytes, sinkLine]
  unfold verifyFileWithVerifier at hverify
  rw [hbytes, hread, verifyLoop_line (canonical_line (recordCodec_plain record) htext) hsize
    (parseLine_record hversion hvalid htext _)] at hverify
  simp [acceptLine, hstarted, hgenesis, bind, Except.bind] at hverify

/-- The file of a run with a disguised event is refused, and so is the file of no runs. -/
theorem files_refused : (∃ s, CleanRun examplePlatform exampleVerifier SentOk s ∧
    ¬ FilesVerify examplePlatform exampleVerifier [s]) ∧ ¬ FilesVerify examplePlatform exampleVerifier [] := by
  refine ⟨disguised_refused hashRecord_example exampleMatches, ?_⟩
  rintro ⟨output, hverify, -⟩
  unfold verifyFileWithVerifier at hverify
  rw [List.flatMap_nil, verifyLoop_nil] at hverify
  cases hverify

end Vectis.Core.AuditChain
