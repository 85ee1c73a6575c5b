import Vectis.Lib.Hex
import Vectis.Lib.U64
import Vectis.Ops.Sign

/-!
# Audit records

The lines of an audit file (`core/audit_chain.rs`): chained records and signed checkpoints.

- `buildRecord`: the record that `write_event` hands to the sink, with its canonical text;
- `validateRecord`: the checks of the verifier on one record;
- `validateRecord_build`: a built record with an event and an outcome passes them;
- `buildRecord_fits`: a record is built whenever the clock and the hash work.

The hash function is a parameter, with the size of its output.
-/

namespace Vectis.Core.AuditChain

open Canonical Validation Json Ops.Sign

/-! ## Data -/

def chainVersion : String := "audit-chain-v1"

def checkpointVersion : String := "audit-checkpoint-v1"

def checkpointType : String := "vectis-audit-checkpoint"

def initKeysKid : String := "init-keys"

def chainStarted : String := "audit.chain.started"

def domain : List UInt8 := Utf8.encode "vectis:audit-chain:v1" ++ [0]

def genesisHash : String := "0000000000000000000000000000000000000000000000000000000000000000"

/-- `config::AUDIT_CHAIN_RECORD_MAX_BYTES`. -/
def recordMaxBytes : Nat := 16384

/-- `config::AUDIT_CHAIN_REASON_MAX_CHARS`. -/
def reasonMaxChars : Nat := 256

structure AuditEvent where
  event : String
  outcome : String
  actor : String
  actorFp : String
  root : Bool
  admin : Bool
  kid : String
  remoteKid : String
  action : String
  reason : String
  requestId : String
  deriving DecidableEq, Repr

def AuditEvent.chainStarted : AuditEvent :=
  ⟨AuditChain.chainStarted, "success", "", "", false, false, "", "", "chain-start", "", ""⟩

structure AuditRecordBody where
  version : String
  chainId : String
  sequence : UInt64
  timestamp : String
  event : String
  outcome : String
  actor : String
  actorFp : String
  root : Bool
  admin : Bool
  kid : String
  remoteKid : String
  action : String
  reason : String
  requestId : String
  hashAlg : String
  prevHash : String
  deriving DecidableEq, Repr

structure AuditChainRecord where
  body : AuditRecordBody
  eventHash : String
  deriving DecidableEq, Repr

structure AuditCheckpointLine where
  version : String
  signature : String
  deriving DecidableEq, Repr

structure AuditCheckpointPayload where
  version : String
  tokenType : String
  kid : String
  chainId : String
  lastSequence : UInt64
  headHash : String
  hashAlg : String
  createdAt : String
  deriving DecidableEq, Repr

/-! ## JSON -/

def textField (value : Value) (key : String) : Option String := (value.get key).bind Value.asStr

def boolField (value : Value) (key : String) : Option Bool :=
  match value.get key with
  | some (.bool b) => some b
  | _ => none

def u64Field (value : Value) (key : String) : Option UInt64 :=
  match value.get key with
  | some (.number (.posInt n)) => if n < 2 ^ 64 then some (UInt64.ofNat n) else none
  | _ => none

def u64Value (n : UInt64) : Value := .number (.posInt n.toNat)

def bodyFromValue (value : Value) : Option AuditRecordBody := do
  some ⟨← textField value "version", ← textField value "chain_id", ← u64Field value "sequence",
    ← textField value "timestamp", ← textField value "event", ← textField value "outcome", ← textField value "actor",
    ← textField value "actor_fp", ← boolField value "root", ← boolField value "admin", ← textField value "kid",
    ← textField value "remote_kid", ← textField value "action", ← textField value "reason", ← textField value
      "request_id",
    ← textField value "hash_alg", ← textField value "prev_hash"⟩

/-- The fields up to `event`, and from `hash_alg` on: `event_hash` goes between. -/
def bodyFirst (body : AuditRecordBody) : List (String × Value) :=
  [("action", .string body.action), ("actor", .string body.actor), ("actor_fp", .string body.actorFp),
    ("admin", .bool body.admin), ("chain_id", .string body.chainId), ("event", .string body.event)]

def bodyRest (body : AuditRecordBody) : List (String × Value) :=
  [("hash_alg", .string body.hashAlg), ("kid", .string body.kid), ("outcome", .string body.outcome),
    ("prev_hash", .string body.prevHash), ("reason", .string body.reason), ("remote_kid", .string body.remoteKid),
    ("request_id", .string body.requestId), ("root", .bool body.root), ("sequence", u64Value body.sequence),
    ("timestamp", .string body.timestamp), ("version", .string body.version)]

theorem u64Field_u64Value {value : Value} {key : String} {n : UInt64} (h : value.get key = some (u64Value n)) :
    u64Field value key = some n := by
  simp [u64Field, h, u64Value, n.toNat_lt]

theorem bodyFromValue_toValue (body : AuditRecordBody) :
    bodyFromValue (.object (bodyFirst body ++ bodyRest body)) = some body := by
  have hseq : u64Field (.object (bodyFirst body ++ bodyRest body)) "sequence" = some body.sequence :=
    u64Field_u64Value rfl
  unfold bodyFromValue
  rw [hseq]
  rfl

def bodyCodec : Codec AuditRecordBody where
  toValue body := .object (bodyFirst body ++ bodyRest body)
  fromValue := bodyFromValue
  fromValue_toValue := bodyFromValue_toValue

def recordFields (record : AuditChainRecord) : List (String × Value) :=
  bodyFirst record.body ++ ("event_hash", .string record.eventHash) :: bodyRest record.body

theorem recordFromValue_toValue (record : AuditChainRecord) :
    (do some ⟨← bodyFromValue (.object (recordFields record)), ← textField (.object (recordFields record))
      "event_hash"⟩) = some record := by
  have hseq : u64Field (.object (recordFields record)) "sequence" = some record.body.sequence := u64Field_u64Value rfl
  unfold bodyFromValue
  rw [hseq]
  rfl

/-- The body is flattened into the record. -/
def recordCodec : Codec AuditChainRecord where
  toValue record := .object (recordFields record)
  fromValue value := do some ⟨← bodyFromValue value, ← textField value "event_hash"⟩
  fromValue_toValue := recordFromValue_toValue

def checkpointLineCodec : Codec AuditCheckpointLine where
  toValue line := .object [("signature", .string line.signature), ("version", .string line.version)]
  fromValue
    | .object [("signature", .string signature), ("version", .string version)] => some ⟨version, signature⟩
    | _ => none
  fromValue_toValue _ := rfl

def payloadFields (payload : AuditCheckpointPayload) : List (String × Value) :=
  [("chain_id", .string payload.chainId), ("created_at", .string payload.createdAt),
    ("hash_alg", .string payload.hashAlg), ("head_hash", .string payload.headHash), ("kid", .string payload.kid),
    ("last_sequence", u64Value payload.lastSequence),
    ("type", .string payload.tokenType), ("version", .string payload.version)]

def payloadFromValue (value : Value) : Option AuditCheckpointPayload := do
  some ⟨← textField value "version", ← textField value "type", ← textField value "kid", ← textField value "chain_id",
    ← u64Field value "last_sequence", ← textField value "head_hash", ← textField value "hash_alg",
    ← textField value "created_at"⟩

theorem payloadFromValue_toValue (payload : AuditCheckpointPayload) :
    payloadFromValue (.object (payloadFields payload)) = some payload := by
  have hseq : u64Field (.object (payloadFields payload)) "last_sequence" = some payload.lastSequence :=
    u64Field_u64Value rfl
  unfold payloadFromValue
  rw [hseq]
  rfl

def payloadCodec : Codec AuditCheckpointPayload where
  toValue payload := .object (payloadFields payload)
  fromValue := payloadFromValue
  fromValue_toValue := payloadFromValue_toValue

theorem u64Value_plain (n : UInt64) : (u64Value n).plain = true := by
  simp [u64Value, Value.plain, Number.plain, n.toNat_lt]

theorem recordCodec_plain (record : AuditChainRecord) : (recordCodec.toValue record).plain = true := by
  simp [recordCodec, recordFields, bodyFirst, bodyRest, Value.plain, plainEntries, plainEntry, u64Value_plain]
  decide

theorem bodyCodec_plain (body : AuditRecordBody) : (bodyCodec.toValue body).plain = true := by
  simp [bodyCodec, bodyFirst, bodyRest, Value.plain, plainEntries, plainEntry, u64Value_plain]
  decide

theorem payloadCodec_plain (payload : AuditCheckpointPayload) : (payloadCodec.toValue payload).plain = true := by
  simp [payloadCodec, payloadFields, Value.plain, plainEntries, plainEntry, u64Value_plain]
  decide

theorem checkpointLineCodec_plain (line : AuditCheckpointLine) : (checkpointLineCodec.toValue line).plain = true := by
  simp [checkpointLineCodec, Value.plain, plainEntries, plainEntry]
  rfl

theorem recordCodec_depth (record : AuditChainRecord) : (recordCodec.toValue record).depth < recursionLimit := by
  simp [recordCodec, recordFields, bodyFirst, bodyRest, u64Value, Value.depth, depthEntries, depthEntry, recursionLimit]

theorem payloadCodec_depth (payload : AuditCheckpointPayload) :
    (payloadCodec.toValue payload).depth < recursionLimit := by
  simp [payloadCodec, payloadFields, u64Value, Value.depth, depthEntries, depthEntry, recursionLimit]

theorem checkpointLineCodec_depth (line : AuditCheckpointLine) :
    (checkpointLineCodec.toValue line).depth < recursionLimit := by
  simp [checkpointLineCodec, Value.depth, depthEntries, depthEntry, recursionLimit]

/-! ## Texts -/

/-- `hex::encode`. -/
def hexEncode (bytes : List UInt8) : String := Hex.encode bytes

/-- Whether `hex::decode` succeeds. -/
def hexDecodes (text : String) : Bool := text.utf8ByteSize % 2 = 0 && text.toList.all isAsciiHexdigit

/-- `str::parse::<u64>`. -/
def parseU64 (text : String) : Option UInt64 :=
  let digits := match text.toList with
    | '+' :: digits => digits
    | digits => digits
  if digits.isEmpty || !digits.all isAsciiDigit then none
  else if Nat.ofDigitChars 10 digits 0 < 2 ^ 64 then some (UInt64.ofNat (Nat.ofDigitChars 10 digits 0)) else none

/-- `validation::current_timestamp`, at a time in seconds. -/
def currentTimestamp (now : Res UInt64) : Res String := now.map fun seconds => toString seconds.toNat

def sanitize (value : String) (maxChars : Nat) : String :=
  String.ofList ((value.toList.filter fun character => !isControl character).take maxChars)

theorem hexDigit_isAsciiHexdigit : ∀ n : Fin 16, isAsciiHexdigit (Hex.digit n) = true ∧
    (Hex.digit n).utf8Size = 1 := by decide

theorem hexEncode_ok : ∀ bytes : List UInt8,
    (hexEncode bytes).utf8ByteSize = 2 * bytes.length ∧ (hexEncode bytes).toList.all isAsciiHexdigit = true
  | [] => ⟨rfl, rfl⟩
  | byte :: bytes => by
    obtain ⟨hsize, hall⟩ := hexEncode_ok bytes
    have hbyte := byte.toNat_lt
    obtain ⟨hhigh, hhighSize⟩ := hexDigit_isAsciiHexdigit ⟨byte.toNat / 16, by omega⟩
    obtain ⟨hlow, hlowSize⟩ := hexDigit_isAsciiHexdigit ⟨byte.toNat % 16, by omega⟩
    simp only [hexEncode, Hex.encode, Utf8.utf8ByteSize_ofList, String.toList_ofList] at hsize hall ⊢
    simp only at hhigh hhighSize hlow hlowSize
    constructor
    · simp only [List.flatMap_cons, List.map_append, List.sum_append, hsize, List.map_cons, List.map_nil, List.sum_cons,
        List.sum_nil, hhighSize, hlowSize, List.length_cons]
      omega
    · simp only [List.flatMap_cons, List.all_append, hall, List.all_cons, hhigh, hlow, List.all_nil, Bool.and_self]

theorem isAsciiDigit_of_isDigit {c : Char} (h : c.isDigit = true) : isAsciiDigit c = true := by
  simpa [Char.isDigit, isAsciiDigit] using h

theorem parseU64_repr (n : UInt64) : parseU64 n.toNat.repr = some n := by
  have hdigits : ∀ c ∈ Nat.toDigits 10 n.toNat, isAsciiDigit c = true := fun c hc =>
    isAsciiDigit_of_isDigit (Nat.isDigit_of_mem_toDigits (by decide) (by decide) hc)
  have hsign : ∀ digits, Nat.toDigits 10 n.toNat ≠ '+' :: digits := by
    intro digits heq
    have := hdigits '+' (by rw [heq]; exact List.mem_cons_self)
    exact absurd this (by decide)
  have hempty : (Nat.toDigits 10 n.toNat).isEmpty = false := by
    rw [List.isEmpty_eq_false_iff]
    exact Nat.toDigits_ne_nil
  unfold parseU64
  rw [Nat.toList_repr]
  split
  · rename_i digits heq
    exact absurd heq (hsign digits)
  · simp [hempty, List.all_eq_true.mpr hdigits, n.toNat_lt]

theorem sanitize_chars {value : String} {maxChars : Nat} : ∀ c ∈ (sanitize value maxChars).toList,
    isControl c = false := by
  intro c hc
  rw [sanitize, String.toList_ofList] at hc
  simpa using (List.mem_filter.mp (List.mem_of_mem_take hc)).2

theorem length_sanitize (value : String) (maxChars : Nat) : (sanitize value maxChars).length ≤ maxChars := by
  rw [sanitize, String.length_ofList, List.length_take]
  omega

/-! ## Records -/

/-- The libraries, with `crypto::hash_bytes` of the internal hash. -/
structure Platform extends SignLibrary where
  hashBytes : List UInt8 → Res (List UInt8)
  hashBytes_length : ∀ input digest, hashBytes input = .ok digest → digest.length = 32

structure AuditChainState where
  chainId : String
  nextSequence : UInt64
  headHash : String
  eventsSinceCheckpoint : UInt64
  lastCheckpointSequence : Option UInt64
  deriving DecidableEq, Repr

/-- A new chain, with a random id. -/
def AuditChainState.new (random : Vector UInt8 16) : AuditChainState :=
  ⟨hexEncode random.toList, 0, genesisHash, 0, none⟩

variable (platform : Platform)

/-- The bytes that the hash of a record is taken of. -/
def hashInput (canonical : String) : List UInt8 := domain ++ Utf8.encode canonical

def hashRecord (body : AuditRecordBody) : Res String := do
  let canonical ← canonicalJsonV1 platform.serde bodyCodec body
  let digest ← platform.hashBytes (hashInput canonical)
  .ok (hexEncode digest)

def recordBody (state : AuditChainState) (timestamp : String) (event : AuditEvent) : AuditRecordBody where
  version := chainVersion
  chainId := state.chainId
  sequence := state.nextSequence
  timestamp := timestamp
  event := sanitize event.event reasonMaxChars
  outcome := sanitize event.outcome reasonMaxChars
  actor := sanitize event.actor reasonMaxChars
  actorFp := sanitize event.actorFp reasonMaxChars
  root := event.root
  admin := event.admin
  kid := sanitize event.kid reasonMaxChars
  remoteKid := sanitize event.remoteKid reasonMaxChars
  action := sanitize event.action reasonMaxChars
  reason := sanitize event.reason reasonMaxChars
  requestId := sanitize event.requestId reasonMaxChars
  hashAlg := internalKeysHash
  prevHash := state.headHash

/-- The record of `write_event`, and its text. -/
def buildRecord (state : AuditChainState) (now : Res UInt64) (event : AuditEvent) :
    Res (AuditChainRecord × String) := do
  let timestamp ← currentTimestamp now
  let eventHash ← hashRecord platform (recordBody state timestamp event)
  let record := ⟨recordBody state timestamp event, eventHash⟩
  let serialized ← canonicalJsonV1 platform.serde recordCodec record
  if serialized.utf8ByteSize > recordMaxBytes then .error (.internal "audit record exceeds maximum size")
  else .ok (record, serialized)

def validateRecordShape (record : AuditChainRecord) : Res Unit := do
  if record.body.version ≠ chainVersion || record.body.hashAlg ≠ internalKeysHash then
    .error (.invalidInput "record version or hash algorithm is unsupported")
  else if record.body.chainId.utf8ByteSize ≠ 32 || !hexDecodes record.body.chainId then
    .error (.invalidInput "record chain_id is invalid")
  else do
    validateHexField "prev_hash" record.body.prevHash
    validateHexField "event_hash" record.eventHash
    if (parseU64 record.body.timestamp).isNone then .error (.invalidInput "record timestamp is invalid")
    else if record.body.event.isEmpty || record.body.outcome.isEmpty then
      .error (.invalidInput "record event and outcome must not be empty")
    else if record.body.reason.length > reasonMaxChars ||
        [record.body.event, record.body.outcome, record.body.actor, record.body.actorFp, record.body.kid,
          record.body.remoteKid, record.body.action, record.body.reason, record.body.requestId].any
          fun value => value.toList.any isControl then
      .error (.invalidInput "record contains invalid text fields")
    else .ok ()

def validateRecord (record : AuditChainRecord) : Res Unit := do
  validateRecordShape record
  validateHashHexField "prev_hash" record.body.prevHash internalKeysHash
  validateHashHexField "event_hash" record.eventHash internalKeysHash
  let serialized ← canonicalJsonV1 platform.serde recordCodec record
  if serialized.utf8ByteSize > recordMaxBytes then .error (.invalidInput "record exceeds maximum size")
  else do
    let hash ← hashRecord platform record.body
    if hash ≠ record.eventHash then .error (.invalidInput "event hash does not match record content")
    else .ok ()

/-! ## Built records pass the checks -/

/-- The ids and hashes of a chain have the shape that the verifier asks for. -/
structure StateOk (state : AuditChainState) : Prop where
  chainId : state.chainId.utf8ByteSize = 32 ∧ state.chainId.toList.all isAsciiHexdigit = true
  headHash : state.headHash.utf8ByteSize = 64 ∧ state.headHash.toList.all isAsciiHexdigit = true

theorem stateOk_new (random : Vector UInt8 16) : StateOk (.new random) := by
  obtain ⟨hsize, hall⟩ := hexEncode_ok random.toList
  have hgenesis : genesisHash.utf8ByteSize = 64 ∧ genesisHash.toList.all isAsciiHexdigit = true := by decide
  rw [Vector.length_toList] at hsize
  exact ⟨⟨hsize, hall⟩, hgenesis⟩

variable {platform}

theorem hashRecord_ok {body : AuditRecordBody} {hash : String} (h : hashRecord platform body = .ok hash) :
    hash.utf8ByteSize = 64 ∧ hash.toList.all isAsciiHexdigit = true := by
  obtain ⟨canonical, -, h⟩ := Loop.bind_eq_ok.mp h
  obtain ⟨digest, hdigest, h⟩ := Loop.bind_eq_ok.mp h
  cases h
  obtain ⟨hsize, hall⟩ := hexEncode_ok digest
  rw [platform.hashBytes_length _ _ hdigest] at hsize
  exact ⟨hsize, hall⟩

/-- What a built record is. -/
theorem buildRecord_ok {state : AuditChainState} {now : Res UInt64} {event : AuditEvent} {record : AuditChainRecord}
    {text : String} (h : buildRecord platform state now event = .ok (record, text)) :
    ∃ seconds : UInt64, record.body = recordBody state (toString seconds.toNat) event ∧
      hashRecord platform record.body = .ok record.eventHash ∧
      canonicalJsonV1 platform.serde recordCodec record = .ok text ∧ text.utf8ByteSize ≤ recordMaxBytes := by
  obtain ⟨timestamp, htime, h⟩ := Loop.bind_eq_ok.mp h
  obtain ⟨eventHash, hhash, h⟩ := Loop.bind_eq_ok.mp h
  obtain ⟨serialized, hser, h⟩ := Loop.bind_eq_ok.mp h
  split at h
  · cases h
  · rename_i hsize
    cases h
    cases hnow : now with
    | error err => rw [hnow] at htime; cases htime
    | ok seconds =>
      rw [hnow] at htime
      cases htime
      exact ⟨seconds, rfl, hhash, hser, by omega⟩

theorem validateHexField_of_hash {field value : String}
    (h : validateHashHexField field value internalKeysHash = .ok ()) :
    validateHexField field value = .ok () := by
  obtain ⟨-, -, h⟩ := Loop.bind_eq_ok.mp h
  obtain ⟨⟨⟩, h, -⟩ := Loop.bind_eq_ok.mp h
  exact h

theorem validateRecord_build {state : AuditChainState} {now : Res UInt64} {event : AuditEvent}
    {record : AuditChainRecord} {text : String} (hstate : StateOk state)
    (hevent : sanitize event.event reasonMaxChars ≠ "")
    (houtcome : sanitize event.outcome reasonMaxChars ≠ "")
    (h : buildRecord platform state now event = .ok (record, text)) : validateRecord platform record = .ok () := by
  obtain ⟨seconds, hbody, hhash, htext, hsize⟩ := buildRecord_ok h
  have hprev : ∀ field, validateHashHexField field record.body.prevHash internalKeysHash = .ok () := by
    intro field
    rw [hbody]
    exact validateInternalHash_ok_iff.mpr hstate.headHash
  have hown : ∀ field, validateHashHexField field record.eventHash internalKeysHash = .ok () := fun field =>
    validateInternalHash_ok_iff.mpr (hashRecord_ok hhash)
  have hcontrol : ∀ value : String, (sanitize value reasonMaxChars).toList.any isControl = false := fun value =>
    List.any_eq_false.mpr fun c hc => by simp [sanitize_chars c hc]
  have hshape : validateRecordShape record = .ok () := by
    have hlen : ¬ (sanitize event.reason reasonMaxChars).length > reasonMaxChars :=
      Nat.not_lt.mpr (length_sanitize event.reason reasonMaxChars)
    unfold validateRecordShape
    rw [validateHexField_of_hash (hprev "prev_hash"), validateHexField_of_hash (hown "event_hash"), hbody]
    simp [recordBody, hexDecodes, hstate.chainId.1, hstate.chainId.2, parseU64_repr, hevent, houtcome, hcontrol,
      hlen, bind, Except.bind]
  unfold validateRecord
  simp only [hshape, hprev, hown, htext, hhash, bind, Except.bind]
  rw [if_neg (by omega), if_neg (by simp)]

/-! ## Built records fit -/

theorem recordCodec_valid (record : AuditChainRecord) :
    validateCanonicalJsonValue "canonical JSON" (recordCodec.toValue record) = .ok () := rfl

theorem printable_repr (n : Nat) : printable n.repr = true := by
  refine List.all_eq_true.mpr fun c hc => decide_eq_true ?_
  rw [Nat.toList_repr] at hc
  have hdigit := Nat.isDigit_of_mem_toDigits (by decide) (by decide) hc
  have hge : '0'.toNat ≤ c.toNat := by
    simp only [Char.isDigit, Bool.and_eq_true, decide_eq_true_eq] at hdigit
    exact UInt32.le_iff_toNat_le.mp hdigit.1
  exact Nat.le_trans (by decide) hge

theorem length_repr_u64 (n : UInt64) : n.toNat.repr.length ≤ 20 := by
  rw [← String.length_toList, Nat.toList_repr]
  exact (Nat.length_toDigits_le_iff (by decide) (by decide)).mpr (Nat.lt_trans n.toNat_lt (by decide))

/-- Nine texts of 256 characters leave room for the rest of the record. -/
theorem recordText_fits {state : AuditChainState} (hstate : StateOk state) (seconds : UInt64) (event : AuditEvent)
    {hash : String} (hhash : hash.utf8ByteSize = 64 ∧ hash.toList.all isAsciiHexdigit = true) :
    bytes (recordCodec.toValue ⟨recordBody state (toString seconds.toNat) event, hash⟩).render ≤ recordMaxBytes := by
  have htext : ∀ text, bytes (Value.string (sanitize text reasonMaxChars)).render ≤ 1026 := fun text =>
    bytes_string (printable_of_control sanitize_chars) (length_sanitize text reasonMaxChars)
  have hhex : ∀ {text : String} {n : Nat}, text.utf8ByteSize = n ∧ text.toList.all isAsciiHexdigit = true →
      bytes (Value.string text).render ≤ 4 * n + 2 := fun h =>
    bytes_string (printable_hex h.2) (h.1 ▸ Utf8.length_le_utf8ByteSize _)
  have halg : bytes (Value.string internalKeysHash).render ≤ 4 * 12 + 2 := bytes_string (by rfl) (by decide)
  have hversion : bytes (Value.string chainVersion).render ≤ 4 * 14 + 2 := bytes_string (by rfl) (by decide)
  have htime := bytes_string (printable_repr seconds.toNat) (length_repr_u64 seconds)
  have hsequence := bytes_nat state.nextSequence.toNat_lt
  have h₁ := entryBytes_le (show shortKey "action" = true by rfl) (htext event.action)
  have h₂ := entryBytes_le (show shortKey "actor" = true by rfl) (htext event.actor)
  have h₃ := entryBytes_le (show shortKey "actor_fp" = true by rfl) (htext event.actorFp)
  have h₄ := entryBytes_le (show shortKey "admin" = true by rfl) (bytes_bool event.admin)
  have h₅ := entryBytes_le (show shortKey "chain_id" = true by rfl) (hhex hstate.chainId)
  have h₆ := entryBytes_le (show shortKey "event" = true by rfl) (htext event.event)
  have h₇ := entryBytes_le (show shortKey "event_hash" = true by rfl) (hhex hhash)
  have h₈ := entryBytes_le (show shortKey "hash_alg" = true by rfl) halg
  have h₉ := entryBytes_le (show shortKey "kid" = true by rfl) (htext event.kid)
  have h₁₀ := entryBytes_le (show shortKey "outcome" = true by rfl) (htext event.outcome)
  have h₁₁ := entryBytes_le (show shortKey "prev_hash" = true by rfl) (hhex hstate.headHash)
  have h₁₂ := entryBytes_le (show shortKey "reason" = true by rfl) (htext event.reason)
  have h₁₃ := entryBytes_le (show shortKey "remote_kid" = true by rfl) (htext event.remoteKid)
  have h₁₄ := entryBytes_le (show shortKey "request_id" = true by rfl) (htext event.requestId)
  have h₁₅ := entryBytes_le (show shortKey "root" = true by rfl) (bytes_bool event.root)
  have h₁₆ := entryBytes_le (show shortKey "sequence" = true by rfl) hsequence
  have h₁₇ := entryBytes_le (show shortKey "timestamp" = true by rfl) htime
  have h₁₈ := entryBytes_le (show shortKey "version" = true by rfl) hversion
  refine Nat.le_trans (bytes_object _) ?_
  simp only [recordFields, bodyFirst, bodyRest, recordBody, u64Value, List.cons_append, List.nil_append, List.map_cons,
    List.map_nil, List.sum_cons, List.sum_nil, recordMaxBytes, Nat.toString_eq_repr]
  omega

/-- `write_event` builds a record whenever the clock and the hash work. -/
theorem buildRecord_fits {state : AuditChainState} (hstate : StateOk state) {seconds : UInt64} {event : AuditEvent}
    {hash : String} (hhash : hashRecord platform (recordBody state (toString seconds.toNat) event) = .ok hash) :
    ∃ text, buildRecord platform state (.ok seconds) event
      = .ok (⟨recordBody state (toString seconds.toNat) event, hash⟩, text) := by
  have hfits := recordText_fits hstate seconds event (hashRecord_ok hhash)
  have hplain := recordCodec_plain ⟨recordBody state (toString seconds.toNat) event, hash⟩
  refine ⟨platform.serde.toText (recordCodec.toValue ⟨recordBody state (toString seconds.toNat) event, hash⟩), ?_⟩
  have hsize : (platform.serde.toText (recordCodec.toValue
      ⟨recordBody state (toString seconds.toNat) event, hash⟩)).utf8ByteSize ≤ recordMaxBytes := by
    rw [platform.serde.toText_plain _ hplain, Utf8.utf8ByteSize_ofList]
    exact hfits
  simp only [buildRecord, currentTimestamp, Except.map, hhash, canonicalJsonV1, recordCodec_valid, bind, Except.bind]
  rw [if_neg (Nat.not_lt.mpr hsize)]

/-! ## An example -/

def examplePlatform : Platform where
  serde := .compact
  base64 := .urlSafeNoPad
  eddsa := .keyed
  mlDsa := .keyed
  hashBytes input := .ok (checksum input)
  hashBytes_length := length_digest

theorem hashRecord_example (body : AuditRecordBody) : ∃ hash, hashRecord examplePlatform body = .ok hash := ⟨_, rfl⟩

end Vectis.Core.AuditChain
