import Vectis.Core.AuditChain.Writer

/-!
# The lines of the writer fit

No text of an event and no state of a chain makes a line too long or breaks it: with a working clock, hash, signer and
sink the writer does not fail.

- `Grows`: the states of a chain, from a new one by `write_event` and `append_checkpoint`, whatever their outcome;
- `SignerWorks`: both keys sign, with signatures of the sizes of Ed448 and ML-DSA-87 at most;
- `writer_never_poisoned`: every record and every checkpoint fits, without a line break, and is written.
-/

namespace Vectis.Core.AuditChain

open Canonical Validation Json Ops.Sign

/-! ## Sizes -/

theorem payload_bytes {chain : AuditChainState} (hstate : StateOk chain) (seconds : UInt64) :
    bytes (payloadCodec.toValue (checkpointPayload chain (toString seconds.toNat))).render ≤ 1500 := by
  have hhex : ∀ {text : String} {n : Nat}, text.utf8ByteSize = n ∧ text.toList.all isAsciiHexdigit = true →
      bytes (Value.string text).render ≤ 4 * n + 2 := fun h =>
    bytes_string (printable_hex h.2) (h.1 ▸ Utf8.length_le_utf8ByteSize _)
  have halg : bytes (Value.string internalKeysHash).render ≤ 4 * 12 + 2 := bytes_string (by rfl) (by decide)
  have hkid : bytes (Value.string initKeysKid).render ≤ 4 * 9 + 2 := bytes_string (by rfl) (by decide)
  have htype : bytes (Value.string checkpointType).render ≤ 4 * 23 + 2 := bytes_string (by rfl) (by decide)
  have hversion : bytes (Value.string "v1").render ≤ 4 * 2 + 2 := bytes_string (by rfl) (by decide)
  have htime := bytes_string (printable_repr seconds.toNat) (length_repr_u64 seconds)
  have hsequence := bytes_nat (U64.saturatingSub chain.nextSequence 1).toNat_lt
  have h₁ := entryBytes_le (show shortKey "chain_id" = true by rfl) (hhex hstate.chainId)
  have h₂ := entryBytes_le (show shortKey "created_at" = true by rfl) htime
  have h₃ := entryBytes_le (show shortKey "hash_alg" = true by rfl) halg
  have h₄ := entryBytes_le (show shortKey "head_hash" = true by rfl) (hhex hstate.headHash)
  have h₅ := entryBytes_le (show shortKey "kid" = true by rfl) hkid
  have h₆ := entryBytes_le (show shortKey "last_sequence" = true by rfl) hsequence
  have h₇ := entryBytes_le (show shortKey "type" = true by rfl) htype
  have h₈ := entryBytes_le (show shortKey "version" = true by rfl) hversion
  refine Nat.le_trans (bytes_object _) ?_
  simp only [payloadFields, checkpointPayload, u64Value, List.map_cons, List.map_nil, List.sum_cons, List.sum_nil,
    Nat.toString_eq_repr]
  omega

theorem header_text (serde : SerdeJson) (header : CompactSignatureHeader) :
    canonicalJsonV1 serde headerCodec header = .ok (serde.toText (headerCodec.toValue header)) := rfl

theorem payload_text (serde : SerdeJson) (payload : AuditCheckpointPayload) :
    canonicalJsonV1 serde payloadCodec payload = .ok (serde.toText (payloadCodec.toValue payload)) := rfl

theorem checkpointLine_text (serde : SerdeJson) (line : AuditCheckpointLine) :
    canonicalJsonV1 serde checkpointLineCodec line = .ok (serde.toText (checkpointLineCodec.toValue line)) := rfl

theorem header_bytes : bytes (headerCodec.toValue ⟨compactSignatureVersion⟩).render ≤ 200 := by
  have hversion : bytes (Value.string compactSignatureVersion).render ≤ 4 * 19 + 2 :=
    bytes_string (by rfl) (by decide)
  have h₁ := entryBytes_le (show shortKey "version" = true by rfl) hversion
  refine Nat.le_trans (bytes_object _) ?_
  simp only [List.map_cons, List.map_nil, List.sum_cons, List.sum_nil]
  omega

/-- `base64::URL_SAFE_NO_PAD` writes four characters for three bytes. -/
def Base64Sized (base64 : Base64Url) : Prop := ∀ bytes, (base64.encode bytes).utf8ByteSize = (4 * bytes.length + 2) / 3

/-- The private key loads and signs every message, with at most `maxBytes` bytes. -/
def SchemeWorks (scheme : Scheme) (privateDerHex : String) (maxBytes : Nat) : Prop :=
  ∃ key, scheme.loadPrivateKeyDerHex privateDerHex = .ok key ∧ ∀ rng message, ∃ signature,
    scheme.sign rng key message = .ok signature ∧ signature.length ≤ maxBytes

/-- The largest signatures are those of Ed448 and of ML-DSA-87. -/
structure SignerWorks (lib : SignLibrary) (signer : HybridPrivateKeys) : Prop where
  eddsa : SchemeWorks lib.eddsa signer.eddsa 114
  mlDsa : SchemeWorks lib.mlDsa signer.mlDsa 4627

/-- A character of a compact signature is written as it is. -/
theorem compactChar_written {c : Char} (h : isBase64UrlChar c = true ∨ c = '.') : escapeChar c = [c] ∧
    c.utf8Size = 1 := by
  obtain h | rfl := h
  · have hall : ∀ n : Fin 128, isBase64UrlChar (Char.ofNat n) = true →
        escapeChar (Char.ofNat n) = [Char.ofNat n] ∧ (Char.ofNat n).utf8Size = 1 := by decide
    have hlt : c.toNat < 128 := by
      have hascii := (base64UrlChar_safe h).1
      simp only [isAscii, decide_eq_true_eq, UInt32.lt_iff_toNat_lt] at hascii
      exact hascii
    have hc := hall ⟨c.toNat, hlt⟩
    rw [Char.ofNat_toNat] at hc
    exact hc h
  · decide

variable {platform : Platform} {signer : HybridPrivateKeys}

/-- Four segments joined by dots. -/
def joined (base64 : Base64Url) (header payload eddsa mlDsa : List UInt8) : String :=
  base64.encode header ++ "." ++ base64.encode payload ++ "." ++ base64.encode eddsa ++ "." ++ base64.encode mlDsa

theorem utf8ByteSize_joined {base64 : Base64Url} (hbase64 : Base64Sized base64)
    {header payload eddsa mlDsa : List UInt8} (hheader : header.length ≤ 200) (hpayload : payload.length ≤ 1500)
    (heddsa : eddsa.length ≤ 114)
    (hmlDsa : mlDsa.length ≤ 4627) : (joined base64 header payload eddsa mlDsa).utf8ByteSize ≤ 8600 := by
  have hdot : ".".utf8ByteSize = 1 := by decide
  simp only [joined, String.utf8ByteSize_append, hbase64 _]
  omega

theorem joined_chars {base64 : Base64Url} {header payload eddsa mlDsa : List UInt8} :
    ∀ c ∈ (joined base64 header payload eddsa mlDsa).toList, isBase64UrlChar c = true ∨ c = '.' := by
  have hchar : ∀ bytes, ∀ c ∈ (base64.encode bytes).toList, isBase64UrlChar c = true := fun bytes =>
    List.all_eq_true.mp (base64.alphabet bytes)
  intro c hc
  simp only [joined, String.toList_append, List.mem_append] at hc
  have hdot : c ∈ ".".toList → isBase64UrlChar c = true ∨ c = '.' := fun h => .inr (List.mem_singleton.mp h)
  rcases hc with (((((hc | hc) | hc) | hc) | hc) | hc) | hc
  · exact .inl (hchar _ c hc)
  · exact hdot hc
  · exact .inl (hchar _ c hc)
  · exact hdot hc
  · exact .inl (hchar _ c hc)
  · exact hdot hc
  · exact .inl (hchar _ c hc)

/-- The signature of a short payload is short when the schemes sign its text. -/
theorem sign_fits_of {lib : SignLibrary} (hbase64 : Base64Sized lib.base64) {T : Type} {codec : Codec T} {payload : T}
    {text input : String} (hcanonical : canonicalJsonV1 lib.serde codec payload = .ok text)
    (htext : text.utf8ByteSize ≤ 1500)
    (hinput : input =
      lib.base64.encode (Utf8.encode (lib.serde.toText (headerCodec.toValue ⟨compactSignatureVersion⟩))) ++ "." ++
        lib.base64.encode (Utf8.encode text)) {rng : List UInt8 × List UInt8} {eddsaKey : lib.eddsa.PrivateKey}
    (heddsaKey : lib.eddsa.loadPrivateKeyDerHex signer.eddsa = .ok eddsaKey) {mlDsaKey : lib.mlDsa.PrivateKey}
    (hmlDsaKey : lib.mlDsa.loadPrivateKeyDerHex signer.mlDsa = .ok mlDsaKey)
    {eddsaSignature mlDsaSignature : List UInt8}
    (heddsaSign : lib.eddsa.sign rng.1 eddsaKey input = .ok eddsaSignature)
    (hmlDsaSign : lib.mlDsa.sign rng.2 mlDsaKey input = .ok mlDsaSignature) (heddsaLength : eddsaSignature.length ≤ 114)
    (hmlDsaLength : mlDsaSignature.length ≤ 4627) :
    ∃ signature, signCompactHybridPayload lib codec rng payload signer = .ok signature ∧
      signature.utf8ByteSize ≤ 8600 ∧ ∀ c ∈ signature.toList, isBase64UrlChar c = true ∨ c = '.' := by
  have hheader : (lib.serde.toText (headerCodec.toValue ⟨compactSignatureVersion⟩)).utf8ByteSize ≤ 200 := by
    rw [lib.serde.toText_plain _ (by rfl), Utf8.utf8ByteSize_ofList]
    exact header_bytes
  have hsize := utf8ByteSize_joined hbase64 (Utf8.length_encode _ ▸ hheader) (Utf8.length_encode _ ▸ htext)
    heddsaLength hmlDsaLength
  refine ⟨_, ?_, hsize, joined_chars⟩
  refine Loop.bind_eq_ok.mpr ⟨_, header_text _ _, Loop.bind_eq_ok.mpr ⟨_, hcanonical, ?_⟩⟩
  refine Loop.bind_eq_ok.mpr ⟨_, heddsaKey, Loop.bind_eq_ok.mpr ⟨_, hmlDsaKey, ?_⟩⟩
  rw [← hinput]
  refine Loop.bind_eq_ok.mpr ⟨_, heddsaSign, Loop.bind_eq_ok.mpr ⟨_, hmlDsaSign, ?_⟩⟩
  rw [hinput]
  exact if_neg (Nat.not_lt.mpr (Nat.le_trans hsize (by decide)))

/-- The signature of a short payload is made, and is short. -/
theorem sign_fits {lib : SignLibrary} (hbase64 : Base64Sized lib.base64) (hworks : SignerWorks lib signer)
    (rng : List UInt8 × List UInt8) {payload : AuditCheckpointPayload}
    (hpayload : (lib.serde.toText (payloadCodec.toValue payload)).utf8ByteSize ≤ 1500) :
    ∃ signature, signCompactHybridPayload lib payloadCodec rng payload signer = .ok signature ∧
      signature.utf8ByteSize ≤ 8600 ∧ ∀ c ∈ signature.toList, isBase64UrlChar c = true ∨ c = '.' := by
  obtain ⟨eddsaKey, heddsaKey, heddsa⟩ := hworks.eddsa
  obtain ⟨mlDsaKey, hmlDsaKey, hmlDsa⟩ := hworks.mlDsa
  obtain ⟨eddsaSignature, heddsaSign, heddsaLength⟩ := heddsa rng.1 _
  obtain ⟨mlDsaSignature, hmlDsaSign, hmlDsaLength⟩ := hmlDsa rng.2 _
  exact sign_fits_of hbase64 (payload_text _ _) hpayload rfl heddsaKey hmlDsaKey heddsaSign hmlDsaSign heddsaLength
    hmlDsaLength

/-- The line of a short signature is short. -/
theorem checkpointLine_fits {signature : String} (hsize : signature.utf8ByteSize ≤ 8600)
    (hchars : ∀ c ∈ signature.toList, isBase64UrlChar c = true ∨ c = '.') :
    bytes (checkpointLineCodec.toValue ⟨checkpointVersion, signature⟩).render ≤ recordMaxBytes := by
  have hsignature : bytes (Value.string signature).render ≤ 8602 := by
    rw [Value.render, bytes_renderString_plain fun c hc => compactChar_written (hchars c hc)]
    have := Utf8.length_le_utf8ByteSize signature
    omega
  have hversion : bytes (Value.string checkpointVersion).render ≤ 4 * 19 + 2 :=
    bytes_string (by rfl) (by decide)
  have h₁ := entryBytes_le (show shortKey "signature" = true by rfl) hsignature
  have h₂ := entryBytes_le (show shortKey "version" = true by rfl) hversion
  refine Nat.le_trans (bytes_object _) ?_
  simp only [List.map_cons, List.map_nil, List.sum_cons, List.sum_nil, recordMaxBytes]
  omega

/-- `append_checkpoint` builds a checkpoint whenever the clock and the signer work. -/
theorem buildCheckpoint_fits (platform : Platform) (hbase64 : Base64Sized platform.base64)
    (hworks : SignerWorks platform.toSignLibrary signer) {state : AuditChainState} (hstate : StateOk state)
    (seconds : UInt64) (rng : List UInt8 × List UInt8) (write sync : Except String Unit) :
    ∃ signature, buildCheckpoint platform state signer ⟨.ok seconds, .ok rng, write, sync⟩ =
        .ok (checkpointPayload state (toString seconds.toNat),
          platform.serde.toText (checkpointLineCodec.toValue ⟨checkpointVersion, signature⟩)) ∧
      signCompactHybridPayload platform.toSignLibrary payloadCodec rng
        (checkpointPayload state (toString seconds.toNat)) signer = .ok signature ∧
      (platform.serde.toText (checkpointLineCodec.toValue ⟨checkpointVersion, signature⟩)).utf8ByteSize ≤
      recordMaxBytes := by
  have hpayload : (platform.serde.toText (payloadCodec.toValue
      (checkpointPayload state (toString seconds.toNat)))).utf8ByteSize ≤ 1500 := by
    rw [platform.serde.toText_plain _ (payloadCodec_plain _), Utf8.utf8ByteSize_ofList]
    exact payload_bytes hstate seconds
  obtain ⟨signature, hsign, hsize, hchars⟩ := sign_fits hbase64 hworks rng hpayload
  have hline : (platform.serde.toText (checkpointLineCodec.toValue ⟨checkpointVersion, signature⟩)).utf8ByteSize ≤
      recordMaxBytes := by
    rw [platform.serde.toText_plain _ (checkpointLineCodec_plain _), Utf8.utf8ByteSize_ofList]
    exact checkpointLine_fits hsize hchars
  refine ⟨signature, ?_, hsign, hline⟩
  refine Loop.bind_eq_ok.mpr ⟨_, rfl, Loop.bind_eq_ok.mpr ⟨_, rfl, Loop.bind_eq_ok.mpr ⟨_, hsign, ?_⟩⟩⟩
  refine Loop.bind_eq_ok.mpr ⟨_, checkpointLine_text _ _, ?_⟩
  exact if_neg (Nat.not_lt.mpr hline)

/-! ## The states of a chain -/

/-- A state of a chain: a new one, or what a write or a checkpoint leaves, with any clock, random bytes and sink. -/
inductive Grows (platform : Platform) (signer : HybridPrivateKeys) : AuditChainState → Prop
  | new (random : Vector UInt8 16) : Grows platform signer (.new random)
  | write {state : AuditChainState} (h : Grows platform signer state) (ticket : Option Nat) (event : AuditEvent)
      (env : WriteEnv) : Grows platform signer (writeEvent platform state ticket event env).1
  | checkpoint {state : AuditChainState} (h : Grows platform signer state) (env : CommitEnv) :
      Grows platform signer (appendCheckpoint platform state signer env).1

/-- No more events are counted than there are records. -/
structure Counted (state : AuditChainState) : Prop where
  shape : StateOk state
  count : state.eventsSinceCheckpoint.toNat ≤ state.nextSequence.toNat

theorem counted_writeEvent {state : AuditChainState} (h : Counted state) (ticket : Option Nat) (event : AuditEvent)
    (env : WriteEnv) : Counted (writeEvent platform state ticket event env).1 := by
  unfold writeEvent
  split
  · exact h
  · rename_i record text hbuild
    obtain ⟨_, _, hhash, _⟩ := buildRecord_ok hbuild
    have hshape : ∀ next count, StateOk ⟨state.chainId, next, record.eventHash, count, state.lastCheckpointSequence⟩ :=
      fun _ _ => ⟨h.shape.chainId, hashRecord_ok hhash⟩
    have hcount := h.count
    split
    · exact h
    · simp only
      split
      · exact ⟨hshape _ _, hcount⟩
      · rename_i next hnext
        have hn := U64.checkedAdd_eq_some hnext
        rw [UInt64.toNat_one] at hn
        split
        · split
          · exact ⟨hshape _ _, by simp only; omega⟩
          · rename_i count hc
            have hcn := U64.checkedAdd_eq_some hc
            rw [UInt64.toNat_one] at hcn
            exact ⟨hshape _ _, by simp only; omega⟩
        · exact ⟨hshape _ _, by simp only; omega⟩

theorem counted_appendCheckpoint {state : AuditChainState} (h : Counted state) (env : CommitEnv) :
    Counted (appendCheckpoint platform state signer env).1 := by
  unfold appendCheckpoint
  split
  · exact h
  · split
    · exact h
    · exact ⟨⟨h.shape.chainId, h.shape.headHash⟩, Nat.zero_le _⟩

theorem Grows.counted {state : AuditChainState} (h : Grows platform signer state) : Counted state := by
  induction h with
  | new random => exact ⟨stateOk_new random, Nat.zero_le _⟩
  | write _ ticket event env ih => exact counted_writeEvent ih ticket event env
  | checkpoint _ env ih => exact counted_appendCheckpoint ih env

/-! ## Nothing poisons the writer -/

theorem hashRecord_total (hhash : ∀ input, ∃ digest, platform.hashBytes input = .ok digest) (body : AuditRecordBody) :
    ∃ hash, hashRecord platform body = .ok hash := by
  obtain ⟨digest, hdigest⟩ := hhash (hashInput (platform.serde.toText (bodyCodec.toValue body)))
  exact ⟨_, Loop.bind_eq_ok.mpr ⟨_, rfl, Loop.bind_eq_ok.mpr ⟨digest, hdigest, rfl⟩⟩⟩

theorem newline_not_mem_toText {value : Value} (hplain : value.plain = true) :
    (10 : UInt8) ∉ Utf8.encode (platform.serde.toText value) := by
  rw [platform.serde.toText_plain _ hplain]
  apply Utf8.newline_not_mem_encode
  rw [String.toList_ofList]
  exact newline_not_mem_render value hplain

/-- For every event, whatever its texts, every state of a chain below the last sequence number and every time: the
record of `write_event` and the line of `append_checkpoint` are at most `recordMaxBytes` bytes without a line break, and
with a working clock, hash, signer and sink neither function fails. -/
theorem writer_never_poisoned (platform : Platform) (signer : HybridPrivateKeys)
    (hhash : ∀ input, ∃ digest, platform.hashBytes input = .ok digest) (hbase64 : Base64Sized platform.base64)
    (hworks : SignerWorks platform.toSignLibrary signer) {state : AuditChainState}
    (hstate : Grows platform signer state)
    (hsequence : state.nextSequence.toNat < 2 ^ 64 - 1) (seconds : UInt64) :
    (∀ event ticket, ∃ record text state', record.body = recordBody state (toString seconds.toNat) event ∧
      canonicalJsonV1 platform.serde recordCodec record = .ok text ∧ text.utf8ByteSize ≤ recordMaxBytes ∧
      (10 : UInt8) ∉ Utf8.encode text ∧ writeEvent platform state ticket event ⟨.ok seconds, .ok ()⟩ =
        (state', [.record ticket record text true], .ok ())) ∧
    ∀ rng sync, ∃ line text state', canonicalJsonV1 platform.serde checkpointLineCodec line = .ok text ∧
      signCompactHybridPayload platform.toSignLibrary payloadCodec rng
        (checkpointPayload state (toString seconds.toNat)) signer = .ok line.signature ∧
      text.utf8ByteSize ≤ recordMaxBytes ∧ (10 : UInt8) ∉ Utf8.encode text ∧
      appendCheckpoint platform state signer ⟨.ok seconds, .ok rng, .ok (), sync⟩ =
        (state', [.checkpoint (checkpointPayload state (toString seconds.toNat)) text true], .ok ()) := by
  have hcounted := hstate.counted
  have hcount := hcounted.count
  constructor
  · intro event ticket
    obtain ⟨hash, hh⟩ := hashRecord_total hhash (recordBody state (toString seconds.toNat) event)
    obtain ⟨text, hbuild, hwrite⟩ := writeEvent_ok hcounted.shape hh (by omega) (by omega) ticket
    obtain ⟨_, -, -, htext, hsize⟩ := buildRecord_ok hbuild
    refine ⟨_, text, _, rfl, htext, hsize, ?_, hwrite⟩
    rw [canonicalJsonV1_ok htext]
    exact newline_not_mem_toText (recordCodec_plain _)
  · intro rng sync
    obtain ⟨signature, hbuild, hsign, hsize⟩ :=
      buildCheckpoint_fits platform hbase64 hworks hcounted.shape seconds rng (.ok ()) sync
    refine ⟨⟨checkpointVersion, signature⟩, _, { state with
      eventsSinceCheckpoint := 0
      lastCheckpointSequence := some (checkpointPayload state (toString seconds.toNat)).lastSequence },
      checkpointLine_text _ _, hsign, hsize, newline_not_mem_toText (checkpointLineCodec_plain _), ?_⟩
    simp only [appendCheckpoint, hbuild]

theorem signerWorks_example (signer : HybridPrivateKeys) : SignerWorks examplePlatform.toSignLibrary signer :=
  ⟨⟨_, rfl, fun _ _ => ⟨_, rfl, by rw [length_checksum]; decide⟩⟩,
    ⟨_, rfl, fun _ _ => ⟨_, rfl, by rw [length_checksum]; decide⟩⟩⟩

/-- An event with a line break and a quote in its reason, as the first record of a chain. -/
theorem writer_never_poisoned_example :
    (AuditChainState.new (Vector.replicate 16 0)).nextSequence.toNat < 2 ^ 64 - 1 ∧
    ∃ record text state', writeEvent examplePlatform (.new (Vector.replicate 16 0)) none
        { AuditEvent.chainStarted with reason := "a\n\"b" } ⟨.ok 7, .ok ()⟩ =
      (state', [.record none record text true], .ok ()) ∧ (10 : UInt8) ∉ Utf8.encode text := by
  refine ⟨by decide, ?_⟩
  obtain ⟨record, text, state', -, -, -, hbreak, hwrite⟩ :=
    (writer_never_poisoned examplePlatform ⟨"", ""⟩ (fun _ => ⟨_, rfl⟩) utf8ByteSize_base64 (signerWorks_example _)
      (.new (Vector.replicate 16 0)) (by decide) 7).1 { AuditEvent.chainStarted with reason := "a\n\"b" } none
  exact ⟨record, text, state', hwrite, hbreak⟩

end Vectis.Core.AuditChain
