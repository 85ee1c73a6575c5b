import Vectis.Core.AuditChain.Writer

/-!
# The audit verifier

`verify_file_with_verifier` (`core/audit_chain.rs`) on the bytes of a file: lines are read up to a bound, a line is a
record or a checkpoint, and the chain that is being verified moves on with it.

- `verifyLoop_line`: a line of text is read, parsed and accepted before the rest of the file;
- `verifyLoop_lines`: a file that is accepted consists of such lines;
- `parseLine_record`, `parseLine_checkpoint`: what the writer writes is parsed as what it is.
-/

namespace Vectis.Core.AuditChain

open Canonical Validation Json Ops.Sign

/-! ## Lines -/

/-- `Read::take` and `read_until`: bytes up to a line feed, and the rest. -/
def readUntil : Nat → List UInt8 → List UInt8 × List UInt8
  | 0, file => ([], file)
  | _, [] => ([], [])
  | limit + 1, byte :: file =>
    if byte = 10 then ([byte], file)
    else
      let (line, rest) := readUntil limit file
      (byte :: line, rest)

def verifyError (lineIndex : Nat) (reason : String) : DynError :=
  .invalidInput ("audit verification failed at record " ++ toString (lineIndex + 1) ++ ": " ++ reason)

/-- The text of a line that was read. -/
def lineText (lineIndex : Nat) (bytes : List UInt8) : Res String :=
  if bytes.length > recordMaxBytes + 1 then .error (verifyError lineIndex "record exceeds maximum size")
  else if bytes.getLast? ≠ some 10 then
    .error (verifyError lineIndex "record is truncated (missing trailing newline)")
  else if bytes.dropLast.isEmpty then .error (verifyError lineIndex "record is empty")
  else
    match Utf8.decode bytes.dropLast with
    | none => .error (verifyError lineIndex "record is not valid UTF-8")
    | some line => .ok line

inductive Line
  | record (record : AuditChainRecord)
  | checkpoint (checkpoint : AuditCheckpointLine)
  deriving DecidableEq, Repr

variable (platform : Platform) (verifier : HybridPublicKeys)

def lineVersion (line : String) : Option String :=
  (platform.serde.fromStr line).bind fun value => textField value "version"

/-- A line as a record or a checkpoint in canonical form; a record is checked here, a checkpoint later. -/
def parseLine (lineIndex : Nat) (line : String) : Res Line :=
  match lineVersion platform line with
  | none => .error (verifyError lineIndex "record contains invalid JSON")
  | some version =>
    if version = chainVersion then
      match platform.serde.fromStrAs recordCodec line with
      | none => .error (verifyError lineIndex "record contains invalid JSON")
      | some record => do
        (validateRecord platform record).mapError fun err => verifyError lineIndex err.toText
        let canonical ← canonicalJsonV1 platform.serde recordCodec record
        if canonical ≠ line then .error (verifyError lineIndex "record JSON is not canonical") else .ok (.record record)
    else if version = checkpointVersion then
      match platform.serde.fromStrAs checkpointLineCodec line with
      | none => .error (verifyError lineIndex "checkpoint contains invalid JSON")
      | some checkpoint => do
        let canonical ← canonicalJsonV1 platform.serde checkpointLineCodec checkpoint
        if canonical ≠ line then .error (verifyError lineIndex "checkpoint JSON is not canonical")
        else .ok (.checkpoint checkpoint)
    else .error (verifyError lineIndex "record version is unsupported")

/-! ## Chains -/

structure VerifiedChain where
  chainId : String
  records : UInt64
  lastSequence : UInt64
  headHash : String
  checkpointsVerified : UInt64
  lastCheckpointSequence : Option UInt64
  lastCheckpointHeadHash : Option String
  deriving DecidableEq, Repr

structure AuditChainSummary where
  chainId : String
  records : UInt64
  lastSequence : UInt64
  headHash : String
  checkpointsVerified : UInt64
  lastCheckpointSequence : Option UInt64
  lastCheckpointHeadHash : Option String
  deriving DecidableEq, Repr

structure AuditVerificationOutput where
  valid : Bool
  chains : List AuditChainSummary
  deriving DecidableEq, Repr

namespace VerifiedChain

def fromGenesis (record : AuditChainRecord) : VerifiedChain :=
  ⟨record.body.chainId, 1, 0, record.eventHash, 0, none, none⟩

def push (chain : VerifiedChain) (record : AuditChainRecord) : Except String VerifiedChain :=
  if record.body.chainId ≠ chain.chainId then .error "chain_id changed without a genesis record"
  else if record.body.sequence ≠ U64.saturatingAdd chain.lastSequence 1 then .error "sequence is not consecutive"
  else if record.body.prevHash ≠ chain.headHash then .error "prev_hash does not match prior event hash"
  else .ok { chain with
    records := U64.saturatingAdd chain.records 1
    lastSequence := record.body.sequence
    headHash := record.eventHash }

def checkpoint (chain : VerifiedChain) (payload : AuditCheckpointPayload) : Except String VerifiedChain :=
  if payload.chainId ≠ chain.chainId then .error "checkpoint chain_id does not match active chain"
  else if payload.lastSequence ≠ chain.lastSequence then .error "checkpoint sequence does not match active chain"
  else if payload.headHash ≠ chain.headHash then .error "checkpoint head_hash does not match active chain"
  else .ok { chain with
    checkpointsVerified := U64.saturatingAdd chain.checkpointsVerified 1
    lastCheckpointSequence := some payload.lastSequence
    lastCheckpointHeadHash := some payload.headHash }

def summary (chain : VerifiedChain) : AuditChainSummary where
  chainId := chain.chainId
  records := chain.records
  lastSequence := chain.lastSequence
  headHash := chain.headHash
  checkpointsVerified := chain.checkpointsVerified
  lastCheckpointSequence := chain.lastCheckpointSequence
  lastCheckpointHeadHash := chain.lastCheckpointHeadHash

end VerifiedChain

def validateCheckpointPayload (payload : AuditCheckpointPayload) : Res Unit :=
  if payload.version ≠ "v1" || payload.tokenType ≠ checkpointType || payload.kid ≠ initKeysKid ||
      payload.hashAlg ≠ internalKeysHash then
    .error (.invalidInput "audit checkpoint payload fields are invalid")
  else if payload.chainId.utf8ByteSize ≠ 32 || !hexDecodes payload.chainId then
    .error (.invalidInput "audit checkpoint chain_id is invalid")
  else do
    validateHashHexField "audit checkpoint head_hash" payload.headHash internalKeysHash
    if (parseU64 payload.createdAt).isNone then .error (.invalidInput "audit checkpoint created_at is invalid")
      else .ok ()

def verifyCheckpoint (checkpoint : AuditCheckpointLine) : Res AuditCheckpointPayload :=
  if checkpoint.version ≠ checkpointVersion then .error (.invalidInput "checkpoint version is unsupported")
  else do
    let payload ← (verifyStrict platform.toSignLibrary payloadCodec checkpoint.signature verifier).mapError fun _ =>
      .invalidSignature "audit checkpoint signature verification failed"
    validateCheckpointPayload payload
    .ok payload

/-! ## The loop -/

/-- The chains that are complete, the one that is being verified, and the number of lines. -/
structure Progress where
  chains : List AuditChainSummary
  current : Option VerifiedChain
  lineIndex : Nat
  deriving DecidableEq, Repr

def Progress.finish (progress : Progress) : List AuditChainSummary :=
  progress.chains ++ progress.current.toList.map VerifiedChain.summary

/-- A record that claims to start a chain does. -/
def isGenesis (record : AuditChainRecord) : Bool :=
  record.body.sequence = 0 && record.body.prevHash = genesisHash && record.body.outcome = "success" &&
    record.body.action = "chain-start"

def acceptLine (progress : Progress) : Line → Res Progress
  | .record record =>
    if record.body.event = chainStarted then
      if !isGenesis record then .error (verifyError progress.lineIndex "chain genesis is invalid")
      else .ok ⟨progress.finish, some (.fromGenesis record), progress.lineIndex + 1⟩
    else
      match progress.current with
      | none => .error (verifyError progress.lineIndex "first record must start a chain")
      | some chain => do
        let chain ← (chain.push record).mapError (verifyError progress.lineIndex)
        .ok ⟨progress.chains, some chain, progress.lineIndex + 1⟩
  | .checkpoint checkpoint =>
    match progress.current with
    | none => .error (verifyError progress.lineIndex "checkpoint appears before chain genesis")
    | some chain => do
      let payload ← (verifyCheckpoint platform verifier checkpoint).mapError fun err =>
        verifyError progress.lineIndex err.toText
      let chain ← (chain.checkpoint payload).mapError (verifyError progress.lineIndex)
      .ok ⟨progress.chains, some chain, progress.lineIndex + 1⟩

/-- The body of the loop, for a line that was read. -/
def verifyLine (progress : Progress) (bytes : List UInt8) : Res Progress := do
  let text ← lineText progress.lineIndex bytes
  let line ← parseLine platform progress.lineIndex text
  acceptLine platform verifier progress line

theorem readUntil_append : ∀ (limit : Nat) (file : List UInt8), (readUntil limit file).1 ++ (readUntil limit file).2 =
    file
  | 0, file => by simp [readUntil]
  | _ + 1, [] => rfl
  | limit + 1, byte :: file => by
    have ih := readUntil_append limit file
    unfold readUntil
    split
    · rfl
    · rw [List.cons_append, ih]

def verifyLoop (progress : Progress) (file : List UInt8) : Res Progress :=
  match _hread : readUntil (recordMaxBytes + 2) file with
  | ([], _) => .ok progress
  | (byte :: bytes, rest) => do
    let progress ← verifyLine platform verifier progress (byte :: bytes)
    verifyLoop progress rest
  termination_by file.length
  decreasing_by
    have happend := readUntil_append (recordMaxBytes + 2) file
    rw [_hread] at happend
    simp only [← happend, List.length_append, List.length_cons]
    omega

def verifyFileWithVerifier (file : List UInt8) : Res AuditVerificationOutput := do
  let progress ← verifyLoop platform verifier ⟨[], none, 0⟩ file
  if progress.finish.isEmpty then .error (.invalidInput "audit file contains no records")
  else .ok ⟨true, progress.finish⟩

/-! ## Texts of lines -/

variable {platform verifier}

theorem canonical_text {T : Type} {codec : Codec T} {t : T} {text : String} (hplain : (codec.toValue t).plain = true)
    (h : canonicalJsonV1 platform.serde codec t = .ok text) : text = String.ofList (codec.toValue t).render := by
  rw [canonicalJsonV1_ok h, platform.serde.toText_plain _ hplain]

/-- A canonical text is one line. -/
theorem canonical_line {T : Type} {codec : Codec T} {t : T} {text : String} (hplain : (codec.toValue t).plain = true)
    (h : canonicalJsonV1 platform.serde codec t = .ok text) : Utf8.encode text ≠ [] ∧
    (10 : UInt8) ∉ Utf8.encode text := by
  have hcanonical : canonicalJsonV1 platform.toSignLibrary.serde codec t = .ok text := h
  refine ⟨encode_canonical_ne hcanonical hplain, Utf8.newline_not_mem_encode ?_⟩
  rw [canonical_text hplain h, String.toList_ofList]
  exact newline_not_mem_render _ hplain

theorem lineVersion_canonical {T : Type} {codec : Codec T} {t : T} {text version : String}
    (hplain : (codec.toValue t).plain = true) (hdepth : (codec.toValue t).depth < recursionLimit)
    (hversion : textField (codec.toValue t) "version" = some version)
    (h : canonicalJsonV1 platform.serde codec t = .ok text) : lineVersion platform text = some version := by
  unfold lineVersion
  rw [canonicalJsonV1_ok h, platform.serde.fromStr_toText _ hplain (canonicalJsonV1_unreserved h) hdepth]
  exact hversion

/-- A line is parsed as a record that was checked, or as a checkpoint; it is the canonical text of what it is parsed
as. -/
theorem parseLine_ok_iff {lineIndex : Nat} {text : String} {line : Line} :
    parseLine platform lineIndex text = .ok line ↔
    (lineVersion platform text = some chainVersion ∧ ∃ record, platform.serde.fromStrAs recordCodec text = some record ∧
      validateRecord platform record = .ok () ∧ canonicalJsonV1 platform.serde recordCodec record = .ok text ∧
      .record record = line) ∨
    (lineVersion platform text = some checkpointVersion ∧ ∃ checkpoint,
      platform.serde.fromStrAs checkpointLineCodec text = some checkpoint ∧
      canonicalJsonV1 platform.serde checkpointLineCodec checkpoint = .ok text ∧ .checkpoint checkpoint = line) := by
  have hne : checkpointVersion ≠ chainVersion := by decide
  unfold parseLine
  cases hversion : lineVersion platform text with
  | none => simp
  | some version =>
    dsimp only
    by_cases hrecord : version = chainVersion
    · subst hrecord
      rw [if_pos rfl]
      cases hread : platform.serde.fromStrAs recordCodec text with
      | none => simp [hne.symm]
      | some record =>
        simp only [Loop.bind_eq_ok, Loop.mapError_eq_ok, Loop.guard_eq_ok, Decidable.not_not, ne_eq,
          Except.ok.injEq, Option.some.injEq, hne.symm, false_and, or_false, true_and]
        constructor
        · rintro ⟨⟨⟩, hvalid, _, hcanonical, rfl, hline⟩
          exact ⟨record, rfl, hvalid, hcanonical, hline⟩
        · rintro ⟨_, rfl, hvalid, hcanonical, hline⟩
          exact ⟨(), hvalid, text, hcanonical, rfl, hline⟩
    · rw [if_neg hrecord]
      by_cases hcheckpoint : version = checkpointVersion
      · subst hcheckpoint
        rw [if_pos rfl]
        cases hread : platform.serde.fromStrAs checkpointLineCodec text with
        | none => simp [hne]
        | some checkpoint =>
          simp only [Loop.bind_eq_ok, Loop.guard_eq_ok, Decidable.not_not, ne_eq, Except.ok.injEq, Option.some.injEq,
            hne, false_and, false_or, true_and]
          constructor
          · rintro ⟨_, hcanonical, rfl, hline⟩
            exact ⟨checkpoint, rfl, hcanonical, hline⟩
          · rintro ⟨_, rfl, hcanonical, hline⟩
            exact ⟨text, hcanonical, rfl, hline⟩
      · rw [if_neg hcheckpoint]
        simp [hrecord, hcheckpoint]

theorem parseLine_record {record : AuditChainRecord} {text : String} (hversion : record.body.version = chainVersion)
    (hvalid : validateRecord platform record = .ok ()) (htext : canonicalJsonV1 platform.serde recordCodec record =
      .ok text)
    (lineIndex : Nat) : parseLine platform lineIndex text = .ok (.record record) := by
  have hline : lineVersion platform text = some chainVersion :=
    lineVersion_canonical (recordCodec_plain record) (recordCodec_depth record) (hversion ▸ rfl) htext
  have hread : platform.serde.fromStrAs recordCodec text = some record := by
    rw [canonicalJsonV1_ok htext]
    exact platform.serde.fromStrAs_toText recordCodec record (recordCodec_plain record)
      (canonicalJsonV1_unreserved htext) (recordCodec_depth record)
  exact parseLine_ok_iff.mpr (.inl ⟨hline, record, hread, hvalid, htext, rfl⟩)

theorem parseLine_checkpoint {checkpoint : AuditCheckpointLine} {text : String}
    (hversion : checkpoint.version = checkpointVersion)
    (htext : canonicalJsonV1 platform.serde checkpointLineCodec checkpoint = .ok text) (lineIndex : Nat) :
    parseLine platform lineIndex text = .ok (.checkpoint checkpoint) := by
  have hline : lineVersion platform text = some checkpointVersion :=
    lineVersion_canonical (checkpointLineCodec_plain checkpoint) (checkpointLineCodec_depth checkpoint)
      (hversion ▸ rfl) htext
  have hread : platform.serde.fromStrAs checkpointLineCodec text = some checkpoint := by
    rw [canonicalJsonV1_ok htext]
    exact platform.serde.fromStrAs_toText checkpointLineCodec checkpoint (checkpointLineCodec_plain checkpoint)
      (canonicalJsonV1_unreserved htext) (checkpointLineCodec_depth checkpoint)
  exact parseLine_ok_iff.mpr (.inr ⟨hline, checkpoint, hread, htext, rfl⟩)

/-- The number of a line is only for its errors. -/
theorem parseLine_index {text : String} {line : Line} {lineIndex : Nat}
    (h : parseLine platform lineIndex text = .ok line) (lineIndex' : Nat) :
    parseLine platform lineIndex' text = .ok line :=
  parseLine_ok_iff.mpr (parseLine_ok_iff.mp h)

/-- A record of a file was checked. -/
theorem validateRecord_of_parseLine {text : String} {record : AuditChainRecord} {lineIndex : Nat}
    (h : parseLine platform lineIndex text = .ok (.record record)) : validateRecord platform record = .ok () := by
  rcases parseLine_ok_iff.mp h with ⟨-, record', -, hvalid, -, heq⟩ | ⟨-, checkpoint, -, -, heq⟩
  · cases heq
    exact hvalid
  · cases heq

/-! ## One line of a file -/

theorem readUntil_line : ∀ {limit : Nat} {line rest : List UInt8}, (10 : UInt8) ∉ line → line.length < limit →
    readUntil limit (line ++ 10 :: rest) = (line ++ [10], rest)
  | 0, _, _, _, h => by cases h
  | limit + 1, [], rest, _, _ => by simp [readUntil]
  | limit + 1, byte :: line, rest, hnot, hlen => by
    have hbyte : byte ≠ 10 := fun h => hnot (h ▸ List.mem_cons_self)
    have ih : readUntil limit (line ++ 10 :: rest) = (line ++ [10], rest) :=
      readUntil_line (fun h => hnot (List.mem_cons_of_mem _ h)) (by simpa using hlen)
    simp only [List.cons_append, readUntil, if_neg hbyte, ih]

theorem verifyLoop_read {progress : Progress} {file line rest : List UInt8} (hne : line ≠ [])
    (hread : readUntil (recordMaxBytes + 2) file = (line, rest)) :
    verifyLoop platform verifier progress file =
      (verifyLine platform verifier progress line >>= fun progress => verifyLoop platform verifier progress rest) := by
  rw [verifyLoop]
  split
  · rename_i heq
    rw [hread] at heq
    exact absurd (Prod.mk.inj heq).1 hne
  · rename_i byte bytes rest' heq
    rw [hread] at heq
    obtain ⟨rfl, rfl⟩ := Prod.mk.inj heq
    rfl

/-- A line that parses is read before the rest of the file. -/
theorem verifyLoop_line {progress : Progress} {text : String} {line : Line}
    (hline : Utf8.encode text ≠ [] ∧ (10 : UInt8) ∉ Utf8.encode text) (hsize : text.utf8ByteSize ≤ recordMaxBytes)
    (hparse : parseLine platform progress.lineIndex text = .ok line) (rest : List UInt8) :
    verifyLoop platform verifier progress (Utf8.encode text ++ 10 :: rest) =
      (acceptLine platform verifier progress line >>= fun progress => verifyLoop platform verifier progress rest) := by
  have hlen : (Utf8.encode text).length ≤ recordMaxBytes := hsize
  have htext : lineText progress.lineIndex (Utf8.encode text ++ [10]) = .ok text := by
    unfold lineText
    rw [if_neg (by simp; omega)]
    simp [hline.1]
  rw [verifyLoop_read (by simp) (readUntil_line hline.2 (by omega))]
  simp only [verifyLine, htext, hparse, bind, Except.bind]

/-! ## The lines of an accepted file -/

variable (platform) in
/-- The line that some bytes are, whatever its number. -/
def lineOf (bytes : List UInt8) : Option Line :=
  (Utf8.decode bytes).bind fun text => (parseLine platform 0 text).toOption

variable (platform) in
/-- The lines of a file. -/
def fileLines (file : List UInt8) : List Line := (file.splitOn 10).dropLast.filterMap (lineOf platform)

theorem readUntil_dropLast : ∀ (limit : Nat) (file : List UInt8), (10 : UInt8) ∉ (readUntil limit file).1.dropLast
  | 0, _ => by simp [readUntil]
  | _ + 1, [] => by simp [readUntil]
  | limit + 1, byte :: file => by
    have ih := readUntil_dropLast limit file
    unfold readUntil
    split
    · simp
    · rename_i hbyte
      simp only
      cases hline : (readUntil limit file).1 with
      | nil => simp
      | cons next line =>
        rw [hline] at ih
        rw [List.dropLast_cons_cons, List.mem_cons, not_or]
        exact ⟨Ne.symm hbyte, ih⟩

theorem readUntil_eq_nil {limit : Nat} {file : List UInt8} (h : (readUntil (limit + 1) file).1 = []) : file = [] := by
  cases file with
  | nil => rfl
  | cons byte file =>
    unfold readUntil at h
    split at h <;> cases h

theorem lineText_ok {lineIndex : Nat} {bytes : List UInt8} {text : String} (h : lineText lineIndex bytes = .ok text) :
    bytes = bytes.dropLast ++ [10] ∧ Utf8.decode bytes.dropLast = some text := by
  unfold lineText at h
  split at h
  · cases h
  · split at h
    · cases h
    · rename_i hlast
      split at h
      · cases h
      · split at h
        · cases h
        · rename_i line hdecode
          cases h
          exact ⟨(List.dropLast_append_getLast? 10 (by simpa using hlast)).symm, hdecode⟩

/-- A file that is accepted is empty, or a line that is accepted and the rest. -/
theorem verifyLoop_cases {progress progress' : Progress} {file : List UInt8}
    (h : verifyLoop platform verifier progress file = .ok progress') :
    (file = [] ∧ progress' = progress) ∨ ∃ bytes text line progress₁ rest, file = bytes ++ 10 :: rest ∧
    (10 : UInt8) ∉ bytes ∧
      Utf8.decode bytes = some text ∧ parseLine platform progress.lineIndex text = .ok line ∧
      acceptLine platform verifier progress line = .ok progress₁ ∧
      verifyLoop platform verifier progress₁ rest = .ok progress' := by
  obtain ⟨line, rest, hread⟩ : ∃ line rest, readUntil (recordMaxBytes + 2) file = (line, rest) := ⟨_, _, rfl⟩
  by_cases hne : line = []
  · have hfile : file = [] := readUntil_eq_nil (by rw [hread, hne])
    subst hfile
    rw [verifyLoop] at h
    exact Or.inl ⟨rfl, (Except.ok.inj h).symm⟩
  · rw [verifyLoop_read hne hread] at h
    obtain ⟨progress₁, hline, hrest⟩ := Loop.bind_eq_ok.mp h
    obtain ⟨text, htext, hline⟩ := Loop.bind_eq_ok.mp hline
    obtain ⟨parsed, hparse, haccept⟩ := Loop.bind_eq_ok.mp hline
    obtain ⟨hbytes, hdecode⟩ := lineText_ok htext
    have happend := readUntil_append (recordMaxBytes + 2) file
    have hnot := readUntil_dropLast (recordMaxBytes + 2) file
    rw [hread] at happend hnot
    refine Or.inr ⟨line.dropLast, text, parsed, progress₁, rest, ?_, hnot, hdecode, hparse, haccept, hrest⟩
    rw [← happend]
    show line ++ rest = _
    rw [hbytes]
    simp

theorem fileLines_cons {bytes rest : List UInt8} (h : (10 : UInt8) ∉ bytes) :
    fileLines platform (bytes ++ 10 :: rest) = (lineOf platform bytes).toList ++ fileLines platform rest := by
  unfold fileLines
  rw [List.splitOn_append_cons_self_of_not_mem h, List.dropLast_cons_of_ne_nil (List.splitOn_ne_nil _ _),
    List.filterMap_cons]
  cases lineOf platform bytes <;> rfl

/-- The lines of a file that is accepted are accepted one after the other, and its records were checked. -/
theorem verifyLoop_lines {progress' : Progress} : ∀ {file : List UInt8} {progress : Progress},
    verifyLoop platform verifier progress file = .ok progress' →
    (fileLines platform file).foldlM (acceptLine platform verifier) progress = .ok progress' ∧
      ∀ record, .record record ∈ fileLines platform file → validateRecord platform record = .ok ()
  | file, progress, h => by
    rcases verifyLoop_cases h with ⟨rfl, rfl⟩ | ⟨bytes, text, line, progress₁, rest, hfile, hnot, hdecode, hparse,
      haccept, hrest⟩
    · exact ⟨rfl, fun record hmem => by cases hmem⟩
    · obtain ⟨hfold, hchecked⟩ := verifyLoop_lines hrest
      have hline : lineOf platform bytes = some line := by
        rw [lineOf, hdecode, Option.bind_some, parseLine_index hparse 0]
        rfl
      rw [hfile, fileLines_cons hnot, hline]
      refine ⟨?_, fun record hmem => ?_⟩
      · show (line :: fileLines platform rest).foldlM _ _ = _
        rw [List.foldlM_cons, haccept]
        exact hfold
      · rcases List.mem_cons.mp hmem with heq | hmem
        · exact validateRecord_of_parseLine (heq ▸ hparse)
        · exact hchecked record hmem
  termination_by file => file.length
  decreasing_by
    simp only [hfile, List.length_append, List.length_cons]
    omega

end Vectis.Core.AuditChain
