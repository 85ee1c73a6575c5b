import Mathlib.Data.List.Induction
import Mathlib.Data.Set.Function
import Vectis.Core.AuditChain.Agreement
import Vectis.Core.AuditChain.Capacity
import Vectis.Lib.HashChain

/-!
# Tampering is evident

A record is hashed with the hash of the one before, so where the hash does not collide the head of a chain determines
all its records, and a signed checkpoint the records before it.

- `chainsOf`: the lines of a file, chain by chain;
- `Describes`: the records of a chain that the verifier reports are linked up to its head, and those before each
  checkpoint up to the head that the checkpoint names;
- `tamper_evident`: equal heads are equal records, and the records before a checkpoint are those that the writer had
  written.
-/

namespace Vectis.Core.AuditChain

open Canonical Validation Json Ops.Sign Trace HashChain

/-! ## The chains of a file -/

def Line.record? : Line → Option AuditChainRecord
  | .record r => some r
  | .checkpoint _ => none

def recordsOf (lines : List Line) : List AuditChainRecord := lines.filterMap Line.record?

/-- A record with the reserved name starts a chain. -/
def Line.starts : Line → Bool
  | .record r => r.body.event = chainStarted
  | .checkpoint _ => false

/-- One more line, the newest chain first. -/
def addLine (chains : List (List Line)) (line : Line) : List (List Line) :=
  if line.starts then [line] :: chains
  else
    match chains with
    | [] => [[line]]
    | chain :: chains => (chain ++ [line]) :: chains

def chainsOf (lines : List Line) : List (List Line) := (lines.foldl addLine []).reverse

/-! ## Links -/

variable (platform : Platform) (verifier : HybridPublicKeys)

/-- The records are linked, from one with the number 0 to one with the hash `head`. -/
structure LinkedTo (records : List AuditChainRecord) (head : String) : Prop where
  chain : Chain (fun r : AuditChainRecord => r.body.sequence = 0) AuditChainRecord.eventHash (fun r => r.body.prevHash)
    records.reverse
  head : records.reverse.head?.map AuditChainRecord.eventHash = some head

/-- The records before a checkpoint are linked to the head that it names. -/
def Pinned (before : List Line) : Line → Prop
  | .checkpoint checkpoint => ∃ payload, verifyCheckpoint platform verifier checkpoint = .ok payload ∧
      LinkedTo (recordsOf before) payload.headHash
  | .record _ => True

structure Describes (summary : AuditChainSummary) (lines : List Line) : Prop where
  linked : LinkedTo (recordsOf lines) summary.headHash
  pinned : Each (Pinned platform verifier) lines

/-- The chains that were read, the newest first. -/
def Holds (progress : Progress) (chains : List (List Line)) : Prop :=
  match progress.current with
  | none => progress.chains = [] ∧ chains = []
  | some v => ∃ lines older, chains = lines :: older ∧ Describes platform verifier v.summary lines ∧
      List.Forall₂ (Describes platform verifier) progress.chains.reverse older

variable {platform verifier}

theorem LinkedTo.push {records : List AuditChainRecord} {head : String} (h : LinkedTo records head)
    {record : AuditChainRecord} (hsequence : record.body.sequence ≠ 0) (hprev : record.body.prevHash = head) :
    LinkedTo (records ++ [record]) record.eventHash := by
  obtain ⟨hchain, hhead⟩ := h
  refine ⟨?_, by simp⟩
  rw [List.reverse_append, List.reverse_singleton, List.singleton_append]
  cases hrecords : records.reverse with
  | nil =>
    rw [hrecords] at hhead
    cases hhead
  | cons last rest =>
    rw [hrecords] at hchain hhead
    exact .link record last rest hsequence (hprev.trans (Option.some.inj hhead).symm) hchain

theorem recordsOf_record (lines : List Line) (record : AuditChainRecord) :
    recordsOf (lines ++ [.record record]) = recordsOf lines ++ [record] := by
  simp [recordsOf, Line.record?]

theorem recordsOf_checkpoint (lines : List Line) (checkpoint : AuditCheckpointLine) :
    recordsOf (lines ++ [.checkpoint checkpoint]) = recordsOf lines := by
  simp [recordsOf, Line.record?]

/-- What a pushed record says: it has a number after the first, the hash of the head, and a hash of its own. -/
theorem push_ok {v v' : VerifiedChain} {record : AuditChainRecord} (h : v.push record = .ok v') :
    record.body.sequence ≠ 0 ∧ record.body.prevHash = v.headHash ∧ v'.headHash = record.eventHash := by
  unfold VerifiedChain.push at h
  obtain ⟨-, h⟩ := Loop.guard_eq_ok.mp h
  obtain ⟨hsequence, h⟩ := Loop.guard_eq_ok.mp h
  obtain ⟨hprev, h⟩ := Loop.guard_eq_ok.mp h
  cases h
  refine ⟨?_, Decidable.not_not.mp hprev, rfl⟩
  rw [Decidable.not_not.mp hsequence]
  intro hzero
  have hnat := congrArg UInt64.toNat hzero
  rw [U64.toNat_saturatingAdd, UInt64.toNat_one, UInt64.toNat_zero] at hnat
  omega

theorem checkpoint_ok {v v' : VerifiedChain} {payload : AuditCheckpointPayload} (h : v.checkpoint payload = .ok v') :
    payload.headHash = v.headHash ∧ v'.headHash = v.headHash := by
  unfold VerifiedChain.checkpoint at h
  obtain ⟨-, h⟩ := Loop.guard_eq_ok.mp h
  obtain ⟨-, h⟩ := Loop.guard_eq_ok.mp h
  obtain ⟨hhead, h⟩ := Loop.guard_eq_ok.mp h
  cases h
  exact ⟨Decidable.not_not.mp hhead, rfl⟩

theorem holds_acceptLine {progress progress' : Progress} {chains : List (List Line)} {line : Line}
    (hI : Holds platform verifier progress chains) (h : acceptLine platform verifier progress line = .ok progress') :
    Holds platform verifier progress' (addLine chains line) := by
  cases line with
  | record record =>
    simp only [acceptLine] at h
    split at h
    · rename_i hstarted
      obtain ⟨hgenesis, h⟩ := Loop.guard_eq_ok.mp h
      cases h
      have hsequence : record.body.sequence = 0 := by
        simp only [isGenesis, Bool.not_eq_true, Bool.not_eq_false', Bool.and_eq_true, decide_eq_true_eq] at hgenesis
        exact hgenesis.1.1.1
      have hadd : addLine chains (.record record) = [.record record] :: chains := by
        simp [addLine, Line.starts, hstarted]
      have hnew : Describes platform verifier (VerifiedChain.fromGenesis record).summary [.record record] := by
        refine ⟨⟨.start record hsequence, rfl⟩, ?_⟩
        exact each_snoc each_nil trivial
      refine ⟨_, _, hadd, hnew, ?_⟩
      unfold Holds at hI
      unfold Progress.finish
      split at hI
      · rename_i hnone
        obtain ⟨hchains, rfl⟩ := hI
        rw [hnone, hchains]
        exact .nil
      · rename_i v hsome
        obtain ⟨lines, older, rfl, hlines, holder⟩ := hI
        rw [hsome, Option.toList_some, List.map_singleton, List.reverse_append, List.reverse_singleton]
        exact .cons hlines holder
    · rename_i hstarted
      split at h
      · cases h
      · rename_i v hsome
        obtain ⟨v', hpush, h⟩ := Loop.bind_eq_ok.mp h
        cases h
        obtain ⟨hsequence, hprev, hhead⟩ := push_ok (Loop.mapError_eq_ok.mp hpush)
        simp only [Holds, hsome] at hI
        obtain ⟨lines, older, rfl, hlines, holder⟩ := hI
        have hadd : addLine (lines :: older) (.record record) = (lines ++ [.record record]) :: older := by
          simp [addLine, Line.starts, hstarted]
        refine ⟨_, _, hadd, ⟨?_, each_snoc hlines.pinned trivial⟩, holder⟩
        rw [recordsOf_record]
        show LinkedTo _ v'.headHash
        rw [hhead]
        exact hlines.linked.push hsequence hprev
  | checkpoint checkpoint =>
    simp only [acceptLine] at h
    split at h
    · cases h
    · rename_i v hsome
      obtain ⟨payload, hverify, h⟩ := Loop.bind_eq_ok.mp h
      obtain ⟨v', hcheckpoint, h⟩ := Loop.bind_eq_ok.mp h
      cases h
      obtain ⟨hhead, hhead'⟩ := checkpoint_ok (Loop.mapError_eq_ok.mp hcheckpoint)
      simp only [Holds, hsome] at hI
      obtain ⟨lines, older, rfl, hlines, holder⟩ := hI
      have hadd : addLine (lines :: older) (.checkpoint checkpoint) = (lines ++ [.checkpoint checkpoint]) :: older :=
        rfl
      have hlinked : LinkedTo (recordsOf lines) v.headHash := hlines.linked
      refine ⟨_, _, hadd, ⟨?_, each_snoc hlines.pinned ⟨payload, Loop.mapError_eq_ok.mp hverify, ?_⟩⟩, holder⟩
      · rw [recordsOf_checkpoint]
        show LinkedTo _ v'.headHash
        rw [hhead']
        exact hlinked
      · rw [hhead]
        exact hlinked

theorem holds_foldlM : ∀ {lines : List Line} {progress progress' : Progress} {chains : List (List Line)},
    Holds platform verifier progress chains → lines.foldlM (acceptLine platform verifier) progress = .ok progress' →
    Holds platform verifier progress' (lines.foldl addLine chains)
  | [], _, _, _, hI, h => by
    cases h
    exact hI
  | line :: lines, progress, progress', chains, hI, h => by
    rw [List.foldlM_cons] at h
    obtain ⟨progress₁, hline, hrest⟩ := Loop.bind_eq_ok.mp h
    have hholds := holds_foldlM (holds_acceptLine hI hline) hrest
    exact hholds

/-- The verifier reports the chains of the file, each up to its head. -/
theorem describes_file {file : List UInt8} {output : AuditVerificationOutput}
    (h : verifyFileWithVerifier platform verifier file = .ok output) :
    List.Forall₂ (Describes platform verifier) output.chains (chainsOf (fileLines platform file)) ∧
      ∀ record, .record record ∈ fileLines platform file → validateRecord platform record = .ok () := by
  obtain ⟨progress, hloop, h⟩ := Loop.bind_eq_ok.mp h
  obtain ⟨-, h⟩ := Loop.guard_eq_ok.mp h
  cases h
  obtain ⟨hfold, hchecked⟩ := verifyLoop_lines hloop
  refine ⟨?_, hchecked⟩
  have hempty : Holds platform verifier ⟨[], none, 0⟩ [] := ⟨rfl, rfl⟩
  have hholds := holds_foldlM hempty hfold
  unfold Holds at hholds
  unfold chainsOf Progress.finish
  split at hholds
  · rename_i hnone
    obtain ⟨hchains, hlines⟩ := hholds
    rw [hnone, hchains, hlines]
    exact .nil
  · rename_i v hsome
    obtain ⟨lines, older, hlines, hdescribes, holder⟩ := hholds
    rw [hsome, hlines, ← List.forall₂_reverse_iff, List.reverse_append]
    simp only [Option.toList_some, List.map_singleton, List.reverse_singleton, List.reverse_reverse,
      List.singleton_append]
    exact .cons hdescribes holder

/-! ## Hashes without collisions -/

variable (platform) in
/-- The bytes that some records are hashed from. -/
def recordInputs (records : Set AuditChainRecord) : Set (List UInt8) :=
  {input | ∃ record ∈ records, ∃ canonical, canonicalJsonV1 platform.serde bodyCodec record.body = .ok canonical ∧
    hashInput canonical = input}

theorem hashInput_injective {a b : AuditRecordBody} {s t : String}
    (hs : canonicalJsonV1 platform.serde bodyCodec a = .ok s) (ht : canonicalJsonV1 platform.serde bodyCodec b = .ok t)
    (h : hashInput s = hashInput t) : a = b := by
  have htext : s = t := Utf8.encode_injective (List.append_cancel_left h)
  rw [canonicalJsonV1_ok hs, canonicalJsonV1_ok ht] at htext
  have hvalue := toText_injective (bodyCodec_plain a) (bodyCodec_plain b) htext
  have hread := bodyCodec.fromValue_toValue a
  rw [hvalue, bodyCodec.fromValue_toValue] at hread
  exact (Option.some.inj hread).symm

/-- A record is hashed over all its fields. -/
theorem record_eq_of_hash {records : Set AuditChainRecord}
    (hinj : Set.InjOn platform.hashBytes (recordInputs platform records)) {a b : AuditChainRecord} (ha : a ∈ records)
    (hb : b ∈ records) (hashA : hashRecord platform a.body = .ok a.eventHash)
    (hashB : hashRecord platform b.body = .ok b.eventHash) (h : a.eventHash = b.eventHash) : a = b := by
  obtain ⟨s, hs, hashA⟩ := Loop.bind_eq_ok.mp hashA
  obtain ⟨digestA, hdigestA, hashA⟩ := Loop.bind_eq_ok.mp hashA
  obtain ⟨t, ht, hashB⟩ := Loop.bind_eq_ok.mp hashB
  obtain ⟨digestB, hdigestB, hashB⟩ := Loop.bind_eq_ok.mp hashB
  have hdigest : digestA = digestB := by
    refine Hex.encode_injective ?_
    have heq := (Except.ok.inj hashA).trans (h.trans (Except.ok.inj hashB).symm)
    exact heq
  have hinput : hashInput s = hashInput t :=
    hinj ⟨a, ha, s, hs, rfl⟩ ⟨b, hb, t, ht, rfl⟩ (by rw [hdigestA, hdigestB, hdigest])
  have hbody := hashInput_injective hs ht hinput
  cases a
  cases b
  simp only at hbody h
  rw [hbody, h]

theorem hashRecord_of_validateRecord {record : AuditChainRecord} (h : validateRecord platform record = .ok ()) :
    hashRecord platform record.body = .ok record.eventHash := by
  obtain ⟨⟨⟩, -, h⟩ := Loop.bind_eq_ok.mp h
  obtain ⟨⟨⟩, -, h⟩ := Loop.bind_eq_ok.mp h
  obtain ⟨⟨⟩, -, h⟩ := Loop.bind_eq_ok.mp h
  obtain ⟨serialized, -, h⟩ := Loop.bind_eq_ok.mp h
  obtain ⟨-, h⟩ := Loop.guard_eq_ok.mp h
  obtain ⟨hash, hhash, h⟩ := Loop.bind_eq_ok.mp h
  obtain ⟨heq, -⟩ := Loop.guard_eq_ok.mp h
  rw [hhash, Decidable.not_not.mp heq]

/-- Linked records with one head are the same records. -/
theorem LinkedTo.eq {as bs : List AuditChainRecord} {head : String} {records : Set AuditChainRecord}
    (hinj : Set.InjOn platform.hashBytes (recordInputs platform records)) (ha : LinkedTo as head)
    (hb : LinkedTo bs head)
    (hashA : ∀ a ∈ as, a ∈ records ∧ hashRecord platform a.body = .ok a.eventHash)
    (hashB : ∀ b ∈ bs, b ∈ records ∧ hashRecord platform b.body = .ok b.eventHash) : as = bs := by
  refine List.reverse_injective (ha.chain.eq_of_head hb.chain ?_ (ha.head.trans hb.head.symm))
  intro x hx y hy heq
  obtain ⟨hxs, hashX⟩ := hashA x (List.mem_reverse.mp hx)
  obtain ⟨hys, hashY⟩ := hashB y (List.mem_reverse.mp hy)
  exact record_eq_of_hash hinj hxs hys hashX hashY heq

/-! ## The records of a writer -/

variable {signer : HybridPrivateKeys} {eventCount : UInt64} {s : System}

theorem each_init {P : List Event → Event → Prop} {trace : List Event} {e : Event} (h : Each P (trace ++ [e])) :
    Each P trace ∧ P trace e :=
  ⟨fun past x rest heq => h past x (rest ++ [e]) (by rw [heq]; simp), h trace e [] rfl⟩

/-- The records of a trace are linked to its last hash. -/
theorem linkedTo_handed {trace : List Event} (h : Each (Linked platform) trace) (hne : handed trace ≠ []) :
    LinkedTo (handed trace) (lastHash trace) ∧ ∀ record ∈ handed trace, hashRecord platform record.body =
    .ok record.eventHash := by
  induction trace using List.reverseRecOn with
  | nil => exact absurd rfl hne
  | append_singleton trace e ih =>
    obtain ⟨hinit, hlast⟩ := each_init h
    by_cases hrecord : ∃ ticket record text persisted, e = .record ticket record text persisted
    · obtain ⟨ticket, record, text, persisted, rfl⟩ := hrecord
      obtain ⟨hsequence, hprev, hhash⟩ := hlast
      have hhanded : handed (trace ++ [.record ticket record text persisted]) = handed trace ++ [record] :=
        handed_append _ _
      have hhead : lastHash (trace ++ [.record ticket record text persisted]) = record.eventHash := by
        simp [lastHash, hhanded]
      rw [hhanded, hhead]
      by_cases hempty : handed trace = []
      · rw [hempty] at hsequence ⊢
        refine ⟨⟨.start record (UInt64.toNat_inj.mp hsequence), rfl⟩, fun r hr => ?_⟩
        rw [List.mem_singleton.mp hr]
        exact hhash
      · obtain ⟨hlinked, hhashed⟩ := ih hinit hempty
        have hpositive : record.body.sequence ≠ 0 := by
          intro hzero
          rw [hzero] at hsequence
          exact hempty (List.length_eq_zero_iff.mp hsequence.symm)
        refine ⟨hlinked.push hpositive hprev, fun r hr => ?_⟩
        rcases List.mem_append.mp hr with hr | hr
        · exact hhashed r hr
        · rw [List.mem_singleton.mp hr]
          exact hhash
    · have hnone : handed [e] = [] := by
        cases e with
        | record ticket record text persisted => exact absurd ⟨ticket, record, text, persisted, rfl⟩ hrecord
        | _ => rfl
      rw [handed_append, hnone, List.append_nil] at hne ⊢
      rw [lastHash_append hnone]
      exact ih hinit hne

/-- A writer that was started has written. -/
theorem handed_keeps : Keeps platform signer (fun _ => True) (fun _ => True) (fun _ => True)
    (fun trace _ _ => handed trace ≠ []) := by
  have hgrow : ∀ {trace : List Event} (es : List Event), handed trace ≠ [] → handed (trace ++ es) ≠ [] := by
    intro trace es h
    rw [handed_append]
    exact fun hnil => h (List.append_eq_nil_iff.mp hnil).1
  refine ⟨fun h _ _ => hgrow _ h, fun {_ _ _ _ _ _ _ result} h _ _ _ => ?_, fun {_ _ _ _ _ result} h _ _ => ?_,
    fun h => hgrow _ h, fun _ h => hgrow _ h⟩
  · cases result with
    | ok => exact hgrow _ h
    | error => exact hgrow _ (hgrow _ h)
  · cases result with
    | ok => exact hgrow _ h
    | error => exact hgrow _ (hgrow _ h)

theorem handed_start {random : Vector UInt8 16} {env : WriteEnv} {sync : Except String Unit} {s : System}
    (h : start platform random env sync = .ok s) : handed s.trace ≠ [] := by
  unfold start at h
  split at h
  · cases h
  · rename_i chain events hwrite
    split at h
    · cases h
    · cases h
      rcases writeEvent_cases hwrite with ⟨err, herr, -⟩ | ⟨record, text, persisted, rfl, -⟩
      · cases herr
      · rw [handed_append]
        exact List.cons_ne_nil _ _

/-- The records that a writer has written are linked to the head of its chain. -/
theorem linkedTo_reaches (h : Reaches platform signer eventCount s) (hpoisoned : s.poisoned = none) :
    LinkedTo (handed s.trace) s.chain.headHash ∧
      ∀ record ∈ handed s.trace, hashRecord platform record.body = .ok record.eventHash := by
  have hsink := sinkOk_reaches h
  have hne : handed s.trace ≠ [] := handed_keeps.reaches (fun _ _ _ _ hstart => handed_start hstart) h
  rw [(hsink.head hpoisoned).2]
  exact linkedTo_handed hsink.linked hne

/-! ## Tamper evidence -/

variable (platform) in
/-- A running writer signs the payload of a checkpoint. -/
def Signs (s : System) (payload : AuditCheckpointPayload) : Prop :=
  ∃ signer eventCount env text, Reaches platform signer eventCount s ∧ s.poisoned = none ∧
    buildCheckpoint platform s.chain signer env = .ok (payload, text)

theorem signs_headHash {payload : AuditCheckpointPayload} (h : Signs platform s payload) :
    payload.headHash = s.chain.headHash := by
  obtain ⟨signer, eventCount, env, text, -, -, h⟩ := h
  obtain ⟨createdAt, -, h⟩ := Loop.bind_eq_ok.mp h
  obtain ⟨rng, -, h⟩ := Loop.bind_eq_ok.mp h
  obtain ⟨signature, -, h⟩ := Loop.bind_eq_ok.mp h
  obtain ⟨serialized, -, h⟩ := Loop.bind_eq_ok.mp h
  obtain ⟨-, h⟩ := Loop.guard_eq_ok.mp h
  cases h
  rfl

variable (platform) in
/-- The records of a file. -/
def fileRecords (file : List UInt8) : Set AuditChainRecord := {record | .record record ∈ fileLines platform file}

theorem mem_addLine {chains : List (List Line)} {line x : Line} {lines : List Line}
    (hlines : lines ∈ addLine chains line) (hx : x ∈ lines) : x = line ∨ ∃ lines' ∈ chains, x ∈ lines' := by
  unfold addLine at hlines
  split at hlines
  · rcases List.mem_cons.mp hlines with rfl | hmem
    · exact Or.inl (List.mem_singleton.mp hx)
    · exact Or.inr ⟨lines, hmem, hx⟩
  · cases chains with
    | nil =>
      rw [List.mem_singleton.mp hlines] at hx
      exact Or.inl (List.mem_singleton.mp hx)
    | cons chain chains =>
      rcases List.mem_cons.mp hlines with rfl | hmem
      · rcases List.mem_append.mp hx with hx | hx
        · exact Or.inr ⟨chain, List.mem_cons_self, hx⟩
        · exact Or.inl (List.mem_singleton.mp hx)
      · exact Or.inr ⟨lines, List.mem_cons_of_mem _ hmem, hx⟩

theorem mem_foldl_addLine : ∀ {all : List Line} {chains : List (List Line)} {lines : List Line} {x : Line},
    lines ∈ all.foldl addLine chains → x ∈ lines → x ∈ all ∨ ∃ lines' ∈ chains, x ∈ lines'
  | [], _, lines, _, hlines, hx => Or.inr ⟨lines, hlines, hx⟩
  | line :: all, chains, lines, x, hlines, hx => by
    have hfold : lines ∈ all.foldl addLine (addLine chains line) := hlines
    rcases mem_foldl_addLine hfold hx with hmem | ⟨lines', hlines', hx'⟩
    · exact Or.inl (List.mem_cons_of_mem _ hmem)
    · rcases mem_addLine hlines' hx' with rfl | hold
      · exact Or.inl List.mem_cons_self
      · exact Or.inr hold

/-- The lines of the chains are lines of the file. -/
theorem mem_chainsOf {all lines : List Line} {x : Line} (hlines : lines ∈ chainsOf all) (hx : x ∈ lines) : x ∈ all := by
  rcases mem_foldl_addLine (List.mem_reverse.mp hlines) hx with hmem | ⟨lines', hnil, -⟩
  · exact hmem
  · cases hnil

theorem mem_recordsOf {lines : List Line} {record : AuditChainRecord} (h : record ∈ recordsOf lines) :
    .record record ∈ lines := by
  obtain ⟨line, hmem, hline⟩ := List.mem_filterMap.mp h
  cases line with
  | record r =>
    cases hline
    exact hmem
  | checkpoint c => cases hline

theorem forall₂_getElem? {α β : Type} {R : α → β → Prop} {as : List α} {bs : List β} (h : List.Forall₂ R as bs) :
    ∀ {i : Nat} {a : α}, as[i]? = some a → ∃ b, bs[i]? = some b ∧ R a b := by
  induction h with
  | nil =>
    intro i a hi
    simp at hi
  | cons hab _ ih =>
    intro i a hi
    cases i with
    | zero =>
      cases hi
      exact ⟨_, rfl, hab⟩
    | succ i => exact ih (by simpa using hi)

/-- Two files with one head for a chain have the same records in it. The records before a checkpoint that verifies are
those that the writer had written when it signed it, provided that no one else signs checkpoints. Hashes must not
collide on the records that occur. -/
theorem tamper_evident :
    (∀ file₁ file₂ output₁ output₂, verifyFileWithVerifier platform verifier file₁ = .ok output₁ →
      verifyFileWithVerifier platform verifier file₂ = .ok output₂ →
      Set.InjOn platform.hashBytes (recordInputs platform (fileRecords platform file₁ ∪ fileRecords platform file₂)) →
      ∀ (i j : Nat) summary₁ summary₂, output₁.chains[i]? = some summary₁ → output₂.chains[j]? = some summary₂ →
        summary₁.chainId = summary₂.chainId → summary₁.headHash = summary₂.headHash →
        ∃ lines₁ lines₂, (chainsOf (fileLines platform file₁))[i]? = some lines₁ ∧
          (chainsOf (fileLines platform file₂))[j]? = some lines₂ ∧ recordsOf lines₁ = recordsOf lines₂) ∧
    ∀ file output (writers : Set System), verifyFileWithVerifier platform verifier file = .ok output →
      (∀ checkpoint payload, .checkpoint checkpoint ∈ fileLines platform file →
        verifyCheckpoint platform verifier checkpoint = .ok payload → ∃ s ∈ writers, Signs platform s payload) →
      Set.InjOn platform.hashBytes
        (recordInputs platform (fileRecords platform file ∪ {record | ∃ s ∈ writers, record ∈ handed s.trace})) →
      ∀ lines ∈ chainsOf (fileLines platform file), ∀ before checkpoint after,
        lines = before ++ .checkpoint checkpoint :: after →
        ∃ payload, verifyCheckpoint platform verifier checkpoint = .ok payload ∧
          ∃ s ∈ writers, Signs platform s payload ∧ recordsOf before = handed s.trace ∧
          ∀ e ∈ s.trace, e.isFailure = false := by
  constructor
  · intro file₁ file₂ output₁ output₂ h₁ h₂ hinj i j summary₁ summary₂ hi hj _ hhead
    obtain ⟨hdescribes₁, hchecked₁⟩ := describes_file h₁
    obtain ⟨hdescribes₂, hchecked₂⟩ := describes_file h₂
    obtain ⟨lines₁, hlines₁, hlinked₁⟩ := forall₂_getElem? hdescribes₁ hi
    obtain ⟨lines₂, hlines₂, hlinked₂⟩ := forall₂_getElem? hdescribes₂ hj
    refine ⟨lines₁, lines₂, hlines₁, hlines₂, LinkedTo.eq hinj hlinked₁.linked (hhead ▸ hlinked₂.linked) ?_ ?_⟩
    · intro a ha
      have hmem := mem_chainsOf (List.mem_of_getElem? hlines₁) (mem_recordsOf ha)
      exact ⟨Or.inl hmem, hashRecord_of_validateRecord (hchecked₁ a hmem)⟩
    · intro b hb
      have hmem := mem_chainsOf (List.mem_of_getElem? hlines₂) (mem_recordsOf hb)
      exact ⟨Or.inr hmem, hashRecord_of_validateRecord (hchecked₂ b hmem)⟩
  · intro file output writers h hsigned hinj lines hlines before checkpoint after heq
    obtain ⟨hdescribes, hchecked⟩ := describes_file h
    obtain ⟨i, hi⟩ := List.mem_iff_getElem?.mp hlines
    obtain ⟨summary, -, hsummary⟩ := forall₂_getElem? hdescribes.flip hi
    obtain ⟨payload, hverify, hlinked⟩ := hsummary.pinned before (.checkpoint checkpoint) after heq
    have hmem : .checkpoint checkpoint ∈ fileLines platform file := mem_chainsOf hlines (by rw [heq]; simp)
    obtain ⟨s, hs, hsigns⟩ := hsigned checkpoint payload hmem hverify
    have hstate := hsigns
    obtain ⟨signer, eventCount, env, text, hreaches, hpoisoned, -⟩ := hstate
    obtain ⟨hwriter, hhashed⟩ := linkedTo_reaches hreaches hpoisoned
    rw [signs_headHash hsigns] at hlinked
    refine ⟨payload, hverify, s, hs, hsigns, LinkedTo.eq hinj hlinked hwriter ?_ ?_,
      (sinkOk_reaches hreaches).clean hpoisoned⟩
    · intro a ha
      have hmemA : .record a ∈ lines := by
        rw [heq]
        exact List.mem_append_left _ (mem_recordsOf ha)
      have hmemFile := mem_chainsOf hlines hmemA
      exact ⟨Or.inl hmemFile, hashRecord_of_validateRecord (hchecked a hmemFile)⟩
    · intro b hb
      exact ⟨Or.inr ⟨s, hs, hb⟩, hhashed b hb⟩

/-! ## An example -/

/-- The platform of the examples with another hash. -/
def keyedPlatform (hashBytes : List UInt8 → Res (List UInt8))
    (hlength : ∀ input digest, hashBytes input = .ok digest → digest.length = 32) : Platform :=
  ⟨⟨.compact, .urlSafeNoPad, .keyed, .keyed⟩, hashBytes, hlength⟩

/-- A signature over a short header and a short payload is short and printable. -/
theorem keyedSignature (signer : HybridPrivateKeys) {header payload : String} (hheader : header.utf8ByteSize ≤ 200)
    (hpayload : payload.utf8ByteSize ≤ 1500) {input signature : String}
    (hinput : input = Base64Url.urlSafeNoPad.encode (Utf8.encode header) ++ "." ++
      Base64Url.urlSafeNoPad.encode (Utf8.encode payload))
    (hsignature : signature = input ++ "." ++ Base64Url.urlSafeNoPad.encode
      (checksum (Utf8.encode (signer.eddsa ++ input))) ++ "." ++ Base64Url.urlSafeNoPad.encode
      (checksum (Utf8.encode (signer.mlDsa ++ input)))) :
    signature.utf8ByteSize ≤ 2400 ∧ printable signature = true := by
  constructor
  · rw [hsignature, hinput]
    simp only [String.utf8ByteSize_append, utf8ByteSize_base64, length_checksum, Utf8.length_encode]
    have hdot : ".".utf8ByteSize = 1 := by decide
    omega
  · refine List.all_eq_true.mpr fun c hc => decide_eq_true ?_
    have hcontrol : isControl c = false := by
      simp only [hsignature, hinput, String.toList_append, List.mem_append] at hc
      have hdot : ∀ c ∈ ".".toList, isControl c = false := by
        intro c hc
        rw [List.mem_singleton.mp hc]
        rfl
      rcases hc with (((((hc | hc) | hc) | hc) | hc) | hc) | hc
      · exact (base64_ascii _ c hc).2.2.1
      · exact hdot c hc
      · exact (base64_ascii _ c hc).2.2.1
      · exact hdot c hc
      · exact (base64_ascii _ c hc).2.2.1
      · exact hdot c hc
      · exact (base64_ascii _ c hc).2.2.1
    simp only [isControl, Bool.or_eq_false_iff, decide_eq_false_iff_not, UInt32.lt_iff_toNat_lt] at hcontrol
    exact Nat.le_of_not_lt hcontrol.1

/-- Signatures of 32 bytes fit into a checkpoint. -/
theorem keyedCheckpoint {hashBytes : List UInt8 → Res (List UInt8)}
    {hlength : ∀ input digest, hashBytes input = .ok digest → digest.length = 32} {chain : AuditChainState}
    (hstate : StateOk chain) (signer : HybridPrivateKeys) (seconds : UInt64) :
    ∃ text, buildCheckpoint (keyedPlatform hashBytes hlength) chain signer ⟨.ok seconds, .ok ([], []), .ok (), .ok ()⟩ =
      .ok (checkpointPayload chain (toString seconds.toNat), text) := by
  have hworks : SignerWorks (keyedPlatform hashBytes hlength).toSignLibrary signer := signerWorks_example signer
  obtain ⟨signature, hbuild, -⟩ :=
    buildCheckpoint_fits (keyedPlatform hashBytes hlength) utf8ByteSize_base64 hworks hstate seconds ([], [])
      (.ok ()) (.ok ())
  exact ⟨_, hbuild⟩

/-- The first record of the example is hashed to zeros, every other one to ones. -/
def exampleFirst : List UInt8 :=
  hashInput (String.ofList (bodyCodec.toValue (recordBody (.new exampleRandom) (toString (4 : UInt64).toNat)
    .chainStarted)).render)

def exampleHash (input : List UInt8) : Res (List UInt8) :=
  .ok (if input = exampleFirst then List.replicate 32 0 else List.replicate 32 1)

def apartPlatform : Platform := keyedPlatform exampleHash fun input digest h => by
  cases h
  split <;> simp

/-- A writer with a full batch of one record after the first. -/
def exampleCommitting (chain : AuditChainState) (first record : AuditChainRecord) (text text' : String) : System :=
  ⟨[.record exampleEvent 0 false], 1,
    { chain with headHash := record.eventHash, nextSequence := 2, eventsSinceCheckpoint := 1 }, none, true,
    .committing ⟨[], 1, false, none⟩, fun _ => none,
    [.record none first text true, .synced, .took 0, .record (some 0) record text' true]⟩

/-- It signs a checkpoint. -/
theorem exampleCommitting_commit {platform : Platform} {chain : AuditChainState} {first record : AuditChainRecord}
    {text text' text'' : String} {payload : AuditCheckpointPayload}
    (h : buildCheckpoint platform (exampleCommitting chain first record text text').chain exampleSigner
      ⟨.ok 6, .ok ([], []), .ok (), .ok ()⟩ = .ok (payload, text'')) :
    ∃ s, step platform exampleSigner 1 (exampleCommitting chain first record text text')
        (.commit ⟨.ok 6, .ok ([], []), .ok (), .ok ()⟩) = some s ∧
      s.trace = (exampleCommitting chain first record text text').trace ++ [.checkpoint payload text'' true,
        .synced] := by
  have happend : appendCheckpoint platform (exampleCommitting chain first record text text').chain exampleSigner
      ⟨.ok 6, .ok ([], []), .ok (), .ok ()⟩ = ({ (exampleCommitting chain first record text text').chain with
        eventsSinceCheckpoint := 0, lastCheckpointSequence := some payload.lastSequence },
        [.checkpoint payload text'' true], .ok ()) := by
    unfold appendCheckpoint
    rw [h]
  have hdue : checkpointDue (exampleCommitting chain first record text text').chain 1 false = true := rfl
  refine ⟨_, rfl, ?_⟩
  simp only [commit, commitCheckpoint, happend]
  rfl

/-- The run that leads there. -/
theorem exampleCommitting_run {platform : Platform} (htotal : ∀ body, ∃ hash, hashRecord platform body = .ok hash) :
    ∃ chain first record text text', start platform exampleRandom ⟨.ok 4, .ok ()⟩ (.ok ()) =
    .ok (exampleStarted chain first text) ∧
      (∀ actions, Run.run (step platform exampleSigner 1) (exampleStarted chain first text)
        (.send (.record exampleEvent 0 false) :: .take ⟨.ok 5, .ok ()⟩ :: .drained :: actions) =
        Run.run (step platform exampleSigner 1) (exampleCommitting chain first record text text') actions) ∧
      StateOk chain ∧ StateOk (exampleCommitting chain first record text text').chain ∧ chain.nextSequence = 1 ∧
      buildRecord platform (.new exampleRandom) (.ok 4) .chainStarted = .ok (first, text) ∧
      buildRecord platform chain (.ok 5) exampleEvent = .ok (record, text') := by
  obtain ⟨chain, first, text, hstart, hstate, hnext, hcount, hbuild⟩ := exampleStart htotal
  obtain ⟨hash, hhash⟩ := htotal (recordBody chain (toString (5 : UInt64).toNat) exampleEvent)
  obtain ⟨text', hbuild', hwrite⟩ := writeEvent_ok hstate hhash (by rw [hnext]; decide) (by rw [hcount]; decide)
    (some 0)
  rw [hnext, hcount] at hwrite
  have htake := take_written (s := { exampleStarted chain first text with queued := [.record exampleEvent 0 false] })
    rfl rfl rfl hwrite
  have hrun : ∀ actions, Run.run (step platform exampleSigner 1) (exampleStarted chain first text)
      (.send (.record exampleEvent 0 false) :: .take ⟨.ok 5, .ok ()⟩ :: .drained :: actions) =
      Run.run (step platform exampleSigner 1) (exampleCommitting chain first
        ⟨recordBody chain (toString (5 : UInt64).toNat) exampleEvent, hash⟩ text text') actions := by
    intro actions
    have hstep : step platform exampleSigner 1
        { exampleStarted chain first text with queued := [.record exampleEvent 0 false] } (.take ⟨.ok 5, .ok ()⟩) =
          some _ := htake
    refine (Run.run_step rfl).trans ((Run.run_step hstep).trans ?_)
    exact Run.run_step rfl
  exact ⟨chain, first, _, text, text', hstart, hrun, hstate, ⟨hstate.chainId, hashRecord_ok hhash⟩, hnext, hbuild,
    hbuild'⟩

/-- The lines of a file are read one by one. -/
theorem fileLines_line {platform : Platform} {text : String} {line : Line} (hnot : (10 : UInt8) ∉ Utf8.encode text)
    (hparse : parseLine platform 0 text = .ok line) (rest : List UInt8) :
    fileLines platform (Utf8.encode text ++ [10] ++ rest) = line :: fileLines platform rest := by
  have hline : lineOf platform (Utf8.encode text) = some line := by
    rw [lineOf, Utf8.decode_encode, Option.bind_some, hparse]
    rfl
  rw [List.append_assoc, List.singleton_append, fileLines_cons hnot, hline]
  rfl

theorem exampleHash_total (body : AuditRecordBody) : ∃ hash, hashRecord apartPlatform body = .ok hash := ⟨_, rfl⟩

/-- The two records of the example have different hashes. -/
theorem exampleHash_injOn {first record : AuditChainRecord}
    (hfirst : first.body = recordBody (.new exampleRandom) (toString (4 : UInt64).toNat) .chainStarted)
    (hne : record.body ≠ first.body) : Set.InjOn exampleHash (recordInputs apartPlatform {first, record}) := by
  have hinput : ∀ canonical, canonicalJsonV1 apartPlatform.serde bodyCodec first.body = .ok canonical →
      hashInput canonical = exampleFirst := by
    intro canonical h
    have htext : canonical = String.ofList (bodyCodec.toValue first.body).render := canonicalJsonV1_ok h
    rw [htext, hfirst, exampleFirst]
  have hinput' : ∀ canonical, canonicalJsonV1 apartPlatform.serde bodyCodec record.body = .ok canonical →
      hashInput canonical ≠ exampleFirst := by
    intro canonical h heq
    obtain ⟨text, htext⟩ : ∃ text, canonicalJsonV1 apartPlatform.serde bodyCodec first.body = .ok text := ⟨_, rfl⟩
    exact hne (hashInput_injective h htext (heq.trans (hinput text htext).symm))
  have hapart : List.replicate 32 (0 : UInt8) ≠ List.replicate 32 1 := by decide
  rintro x ⟨a, ha, s, hs, rfl⟩ y ⟨b, hb, t, ht, rfl⟩ heq
  have heq' := Except.ok.inj heq
  rcases ha with rfl | rfl
  · rcases hb with rfl | rfl
    · rw [hinput s hs, hinput t ht]
    · rw [if_pos (hinput s hs), if_neg (hinput' t ht)] at heq'
      exact absurd heq' hapart
  · rcases hb with rfl | rfl
    · rw [if_neg (hinput' s hs), if_pos (hinput t ht)] at heq'
      exact absurd heq'.symm hapart
    · rw [hs] at ht
      cases ht
      rfl

/-- The lines that a writer leaves with two records and a checkpoint. -/
theorem exampleLines {chain : AuditChainState} (hstate : StateOk chain) {first record : AuditChainRecord}
    {text text' text'' signature : String}
    (hbuild : buildRecord apartPlatform (.new exampleRandom) (.ok 4) .chainStarted = .ok (first, text))
    (hbuild' : buildRecord apartPlatform chain (.ok 5) exampleEvent = .ok (record, text'))
    (htext'' : canonicalJsonV1 apartPlatform.serde checkpointLineCodec ⟨checkpointVersion, signature⟩ = .ok text'') :
    fileLines apartPlatform (Utf8.encode text ++ [10] ++
      (Utf8.encode text' ++ [10] ++ (Utf8.encode text'' ++ [10] ++ []))) = [.record first, .record record,
      .checkpoint ⟨checkpointVersion, signature⟩] := by
  obtain ⟨seconds, hbody, -, htext, -⟩ := buildRecord_ok hbuild
  obtain ⟨seconds', hbody', -, htext', -⟩ := buildRecord_ok hbuild'
  have hvalid : validateRecord apartPlatform first = .ok () :=
    validateRecord_build (stateOk_new exampleRandom) (by decide) (by decide) hbuild
  have hvalid' := validateRecord_build hstate exampleEvent_ok.named exampleEvent_ok.decided hbuild'
  rw [fileLines_line (canonical_line (recordCodec_plain _) htext).2 (parseLine_record (by rw [hbody]; rfl) hvalid
    htext 0), fileLines_line (canonical_line (recordCodec_plain _) htext').2
      (parseLine_record (by rw [hbody']; rfl) hvalid' htext' 0),
    fileLines_line (canonical_line (checkpointLineCodec_plain _) htext'').2 (parseLine_checkpoint rfl htext'' 0)]
  rfl

/-- A file with two records and a checkpoint that the writer signed over them. -/
theorem exampleFile : ∃ file output first record checkpoint s,
    verifyFileWithVerifier apartPlatform exampleVerifier file = .ok output ∧
    fileLines apartPlatform file = [.record first, .record record, .checkpoint checkpoint] ∧
    first.body = recordBody (.new exampleRandom) (toString (4 : UInt64).toNat) .chainStarted ∧
    record.body.event ≠ chainStarted ∧ handed s.trace = [first, record] ∧ s.poisoned = none ∧
    ∀ payload, verifyCheckpoint apartPlatform exampleVerifier checkpoint = .ok payload →
    Signs apartPlatform s payload := by
  have hmatch : Matches apartPlatform.toSignLibrary exampleSigner exampleVerifier :=
    ⟨Scheme.keyed_pair _, Scheme.keyed_pair _⟩
  obtain ⟨chain, first, record, text, text', hstart, hrun, hstate, hstate', -, hbuild, hbuild'⟩ :=
    exampleCommitting_run exampleHash_total
  obtain ⟨text'', hcheckpoint⟩ : ∃ text'', buildCheckpoint apartPlatform
      (exampleCommitting chain first record text text').chain exampleSigner ⟨.ok 6, .ok ([], []), .ok (), .ok ()⟩ =
      .ok (_, text'') := keyedCheckpoint hstate' exampleSigner 6
  obtain ⟨s', hstep, htrace⟩ := exampleCommitting_commit hcheckpoint
  have hclean : CleanRun apartPlatform exampleVerifier EventOk s' := by
    refine ⟨exampleSigner, 1, _, _, _, _, _, hmatch, rfl, hstart, ?_, (hrun [_]).trans (Run.run_of_step hstep rfl)⟩
    intro a ha
    simp only [List.mem_cons, List.not_mem_nil, or_false] at ha
    rcases ha with rfl | rfl | rfl | rfl
    · exact exampleEvent_ok
    · rfl
    · trivial
    · exact ⟨rfl, rfl⟩
  have hfiles : FilesVerify apartPlatform exampleVerifier [s'] := filesVerify_of_clean (by simp) (by simpa using hclean)
  obtain ⟨output, hverify, -⟩ := hfiles
  obtain ⟨seconds, rng, signature, hpayload, hsign, htext'', -⟩ := buildCheckpoint_ok hcheckpoint
  have hfile : ([s'].flatMap fun s => sinkBytes s.trace) = Utf8.encode text ++ [10] ++ (Utf8.encode text' ++ [10] ++
      (Utf8.encode text'' ++ [10] ++ [])) := by
    rw [List.flatMap_singleton, htrace]
    simp [exampleCommitting, sinkBytes, sinkLine]
  refine ⟨_, output, first, record, ⟨checkpointVersion, signature⟩, exampleCommitting chain first record text text',
    hverify, ?_, ?_, ?_, rfl, rfl, ?_⟩
  · rw [hfile]
    exact exampleLines hstate hbuild hbuild' htext''
  · obtain ⟨timestamp, htime, h⟩ := Loop.bind_eq_ok.mp hbuild
    obtain ⟨hash, -, h⟩ := Loop.bind_eq_ok.mp h
    obtain ⟨serialized, -, h⟩ := Loop.bind_eq_ok.mp h
    obtain ⟨-, h⟩ := Loop.guard_eq_ok.mp h
    cases htime
    cases h
    rfl
  · obtain ⟨seconds', hbody', -⟩ := buildRecord_ok hbuild'
    rw [hbody']
    exact exampleEvent_ok.notReserved
  · intro payload hverified
    rw [hpayload] at hsign
    rw [verifyCheckpoint_build hmatch hstate' hsign, ← hpayload] at hverified
    cases hverified
    exact ⟨exampleSigner, 1, _, text'', ⟨_, _, _, _, _, hstart, hrun []⟩, rfl, hcheckpoint⟩

theorem tamper_evident_example : ∃ file output, verifyFileWithVerifier apartPlatform exampleVerifier file = .ok output ∧
    ∃ (before : List Line) (checkpoint : AuditCheckpointLine) (s : System), before ++ [.checkpoint checkpoint] ∈
      chainsOf (fileLines apartPlatform file) ∧ (recordsOf before).length = 2 ∧ recordsOf before = handed s.trace := by
  obtain ⟨file, output, first, record, checkpoint, s, hverify, hlines, hfirst, hnot, hhanded, hpoisoned, hsigns⟩ :=
    exampleFile
  have hstarted : first.body.event = chainStarted := by
    rw [hfirst]
    show sanitize chainStarted reasonMaxChars = chainStarted
    rfl
  have hchains : chainsOf (fileLines apartPlatform file) =
      [[.record first, .record record] ++ [.checkpoint checkpoint]] := by
    rw [hlines]
    simp [chainsOf, addLine, Line.starts, hstarted, hnot]
  have hinj : Set.InjOn apartPlatform.hashBytes (recordInputs apartPlatform
      (fileRecords apartPlatform file ∪ {r | ∃ s' ∈ ({s} : Set System), r ∈ handed s'.trace})) := by
    refine (exampleHash_injOn hfirst fun heq => hnot (heq ▸ hstarted)).mono ?_
    rintro input ⟨r, hr, canonical, hcanonical, rfl⟩
    refine ⟨r, ?_, canonical, hcanonical, rfl⟩
    rcases hr with hr | ⟨s', rfl, hr⟩
    · have hmem : .record r ∈ [Line.record first, .record record, .checkpoint checkpoint] := hlines ▸ hr
      simpa using hmem
    · rw [hhanded] at hr
      simpa using hr
  have hsigned : ∀ checkpoint' payload, .checkpoint checkpoint' ∈ fileLines apartPlatform file →
      verifyCheckpoint apartPlatform exampleVerifier checkpoint' = .ok payload →
      ∃ s' ∈ ({s} : Set System), Signs apartPlatform s' payload := by
    intro checkpoint' payload hmem hverified
    have heq : checkpoint' = checkpoint := by simpa [hlines] using hmem
    exact ⟨s, rfl, hsigns payload (heq ▸ hverified)⟩
  have hmem : [.record first, .record record] ++ .checkpoint checkpoint :: [] ∈ chainsOf
      (fileLines apartPlatform file) := by
    rw [hchains]
    exact List.mem_singleton.mpr rfl
  obtain ⟨payload, -, s', -, -, heq, -⟩ := (@tamper_evident apartPlatform exampleVerifier).2 file output {s} hverify
    hsigned hinj _ hmem _ _ [] rfl
  exact ⟨file, output, hverify, _, _, s', hmem, rfl, heq⟩

end Vectis.Core.AuditChain
