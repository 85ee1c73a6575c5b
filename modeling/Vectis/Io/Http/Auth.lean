import Vectis.Core.Permissions
import Vectis.Lib.Hex

/-!
# API key authentication

The check of the `x-api-key` header (`io/http/auth.rs`). The keyed hash of the crypto library is a parameter.

- `authorizeApiKey_of_presents`: a well-formed key other than the root key is looked up by the lowercase hex text of its
  hash;
- `matched_iff`: clients are matched by the bytes of their hashes exactly when the list spells no hash twice in
  different letter cases and its active clients spell theirs in lowercase.
-/

namespace Vectis.Io.Http.Auth

open Core.Validation Core.Permissions

/-! ## The request -/

/-- `HeaderValue::to_str`: visible ASCII and tabs. -/
def toStr (value : List UInt8) : Option String :=
  if value.all fun byte => (32 ≤ byte && byte < 127) || byte = 9 then
    some (String.ofList (value.map fun byte => Char.ofNat byte.toNat))
  else none

structure HttpAuthState where
  rootApiKeyHashHex : Option String
  rootApiKeyHashBytes : Option (List UInt8)
  deriving DecidableEq, Repr

/-- `InternalDerivedKeysState`, with the hash keyed by its authentication key. -/
structure InternalDerivedKeysState where
  createHmac : String → Res (List UInt8)

def InternalDerivedKeysState.apiKeyHash (internalKeys : InternalDerivedKeysState) (apiKey : String) : Res String := do
  validateHashHexField "VECTIS_APIKEY" apiKey internalKeysHash
  (internalKeys.createHmac apiKey).map Hex.encode

/-- The answer to a denied request, and the reason in the audit event. -/
structure Denied where
  status : Nat
  error : String
  reason : String
  deriving DecidableEq, Repr

def deny (reason : String) : Except Denied AuthenticatedClient := .error ⟨401, "unauthorized", reason⟩

def authorizeClient (permissionsState : PermissionsState) (candidate : List UInt8) :
    Except Denied AuthenticatedClient :=
  match permissionsState.authenticateHash (Hex.encode candidate) with
  | some client => .ok client
  | none => deny "unknown api key"

def authorizeCandidate (authState : HttpAuthState) (permissionsState : PermissionsState) (candidate : List UInt8) :
    Except Denied AuthenticatedClient :=
  match authState.rootApiKeyHashBytes, authState.rootApiKeyHashHex with
  | some expected, some rootHashHex =>
    if candidate = expected then .ok (AuthenticatedClient.root rootHashHex) else authorizeClient permissionsState
      candidate
  | _, _ => authorizeClient permissionsState candidate

def authorizeApiKey (header : Option (List UInt8)) (authState : HttpAuthState) (internalKeys : InternalDerivedKeysState)
    (permissionsState : PermissionsState) : Except Denied AuthenticatedClient :=
  match header with
  | none => deny "missing api key"
  | some value =>
    match toStr value with
    | none => deny "malformed api key"
    | some apiKey =>
      match validateHashHexField "X-API-Key" apiKey internalKeysHash with
      | .error _ => deny "malformed api key"
      | .ok () =>
        match internalKeys.apiKeyHash apiKey with
        | .error _ => deny "authentication error"
        | .ok candidateHash =>
          match Hex.decode candidateHash with
          | none => deny "authentication error"
          | some candidate => authorizeCandidate authState permissionsState candidate

/-! ## Lookups by text -/

/-- The header presents a key whose hash is `bytes`. -/
structure Presents (internalKeys : InternalDerivedKeysState) (header : Option (List UInt8)) (apiKey : String)
    (bytes : List UInt8) : Prop where
  header : header.bind toStr = some apiKey
  format : validateHashHexField "X-API-Key" apiKey internalKeysHash = .ok ()
  hash : internalKeys.createHmac apiKey = .ok bytes

theorem authorizeApiKey_of_presents {authState : HttpAuthState} {internalKeys : InternalDerivedKeysState}
    {permissionsState : PermissionsState} {header : Option (List UInt8)} {apiKey : String} {bytes : List UInt8}
    (h : Presents internalKeys header apiKey bytes) (hroot : authState.rootApiKeyHashBytes ≠ some bytes) :
    authorizeApiKey header authState internalKeys permissionsState = authorizeClient permissionsState bytes := by
  obtain ⟨hheader, hformat, hhash⟩ := h
  obtain ⟨value, rfl, hstr⟩ := Option.bind_eq_some_iff.mp hheader
  have hkey : internalKeys.apiKeyHash apiKey = .ok (Hex.encode bytes) := by
    unfold InternalDerivedKeysState.apiKeyHash
    rw [validateInternalHash_ok_iff.mpr (validateInternalHash_ok_iff.mp hformat), hhash]
    rfl
  simp only [authorizeApiKey, hstr, hformat, hkey, Hex.decode_encode]
  unfold authorizeCandidate
  split
  · rename_i expected rootHex hbytes _
    rw [if_neg]
    rintro rfl
    exact hroot hbytes
  · rfl

/-! ## Matching by bytes -/

/-- The client of the request when an entry of the list is authenticated. -/
def authenticated (client : PermissionClientInput) : AuthenticatedClient :=
  ⟨client.client, client.apikeyHash, false, client.hasAdmin⟩

/-- Clients are matched by the bytes of their hashes: a key other than the root key is authenticated as the active
client whose hash it has, and is denied if a disabled or revoked client has its hash. -/
structure MatchedByBytes (inputs : List PermissionClientInput) (permissionsState : PermissionsState)
    (authState : HttpAuthState) (internalKeys : InternalDerivedKeysState) : Prop where
  authenticates : ∀ header apiKey bytes, Presents internalKeys header apiKey bytes →
    authState.rootApiKeyHashBytes ≠ some bytes → ∀ client,
    authorizeApiKey header authState internalKeys permissionsState = .ok client ↔
      ∃ input ∈ inputs, input.status = "active" ∧ Hex.decode input.apikeyHash = some bytes ∧
      authenticated input = client
  denies : ∀ header apiKey bytes, Presents internalKeys header apiKey bytes →
    authState.rootApiKeyHashBytes ≠ some bytes →
    (∃ input ∈ inputs, input.status ≠ "active" ∧ Hex.decode input.apikeyHash = some bytes) →
    ∃ denied, authorizeApiKey header authState internalKeys permissionsState = .error denied
  distinct : inputs.Pairwise fun a b => Hex.decode a.apikeyHash ≠ Hex.decode b.apikeyHash
  reachable : ∀ input ∈ inputs, input.status = "active" → ∃ bytes, Hex.decode input.apikeyHash = some bytes ∧
    authorizeClient permissionsState bytes = .ok (authenticated input)

/-- The texts of the list that the lookup by lowercase text gets right. -/
structure Spelled (inputs : List PermissionClientInput) : Prop where
  distinct : (inputs.map fun input => Hex.lower input.apikeyHash).Nodup
  lowercase : ∀ input ∈ inputs, input.status = "active" → Hex.lower input.apikeyHash = input.apikeyHash

theorem fromPermissionClient_kept {input : PermissionClientInput} {kept : PermissionClient}
    (h : input.kept = some kept) :
    AuthenticatedClient.fromPermissionClient kept = authenticated input := by
  unfold PermissionClientInput.kept at h
  unfold authenticated
  split at h
  · cases h
  · split at h
    · rename_i hadmin
      cases h
      rw [hadmin]
      rfl
    · rename_i hadmin
      cases h
      rw [Bool.not_eq_true _ |>.mp hadmin]
      rfl

theorem kept_of_active {input : PermissionClientInput} (h : input.status = "active") :
    ∃ kept, input.kept = some kept := by
  unfold PermissionClientInput.kept
  cases input.hasAdmin <;> simp [h]

section Accepted

variable {isLoadedKid : String → Bool} {inputs : List PermissionClientInput}

theorem decodes_of_accepted (h : Accepted isLoadedKid inputs) {input : PermissionClientInput} (hmem : input ∈ inputs) :
    ∃ bytes, Hex.decode input.apikeyHash = some bytes :=
  decode_of_validateHexField (validateSymmetricKey_ok_iff.mp (h.clients input hmem).hash).1

/-- A candidate is the active client whose hash text is the lowercase text of its bytes. -/
theorem authorizeClient_ok_iff (h : Accepted isLoadedKid inputs) {bytes : List UInt8} {client : AuthenticatedClient} :
    authorizeClient (PermissionsState.fromClients (inputs.filterMap PermissionClientInput.kept)) bytes = .ok client ↔
      ∃ input ∈ inputs, input.status = "active" ∧ input.apikeyHash = Hex.encode bytes ∧
      authenticated input = client := by
  have hfound : authorizeClient (PermissionsState.fromClients (inputs.filterMap PermissionClientInput.kept)) bytes =
      .ok client ↔ (PermissionsState.lastWith (inputs.filterMap PermissionClientInput.kept) (Hex.encode bytes)).map
        AuthenticatedClient.fromPermissionClient = some client := by
    unfold authorizeClient
    rw [PermissionsState.authenticateHash_eq]
    cases PermissionsState.lastWith (inputs.filterMap PermissionClientInput.kept) (Hex.encode bytes) <;> simp [deny]
  rw [hfound, Option.map_eq_some_iff]
  constructor
  · rintro ⟨kept, hlast, rfl⟩
    obtain ⟨input, hmem, hhash, hkept⟩ := h.lastWith_iff.mp hlast
    exact ⟨input, hmem, (PermissionClientInput.kept_eq_some hkept).1, hhash, (fromPermissionClient_kept hkept).symm⟩
  · rintro ⟨input, hmem, hactive, hhash, rfl⟩
    obtain ⟨kept, hkept⟩ := kept_of_active hactive
    exact ⟨kept, h.lastWith_iff.mpr ⟨input, hmem, hhash, hkept⟩, fromPermissionClient_kept hkept⟩

/-- Distinct lowercase texts are distinct bytes. -/
theorem distinct_iff (h : Accepted isLoadedKid inputs) :
    (inputs.map fun input => Hex.lower input.apikeyHash).Nodup ↔
      inputs.Pairwise fun a b => Hex.decode a.apikeyHash ≠ Hex.decode b.apikeyHash := by
  rw [List.Nodup, List.pairwise_map]
  refine List.Pairwise.iff_of_mem ?_
  intro a b ha hb
  obtain ⟨as, hdecodea⟩ := decodes_of_accepted h ha
  obtain ⟨bs, hdecodeb⟩ := decodes_of_accepted h hb
  rw [hdecodea, hdecodeb, ne_eq, ne_eq, Hex.lower_eq_iff hdecodea hdecodeb, Option.some.injEq]

theorem Spelled.apikeyHash_iff (hspelled : Spelled inputs) {input : PermissionClientInput} (hmem : input ∈ inputs)
    (hactive : input.status = "active") {bytes : List UInt8} :
    input.apikeyHash = Hex.encode bytes ↔ Hex.decode input.apikeyHash = some bytes := by
  constructor
  · intro heq
    rw [heq, Hex.decode_encode]
  · intro hdecode
    rw [Hex.encode_of_decode hdecode, hspelled.lowercase input hmem hactive]

end Accepted

/-- Clients are matched by the bytes of their hashes exactly when no two entries spell one hash in different letter
cases and every active client spells its hash in lowercase. -/
theorem matched_iff {isLoadedKid : String → Bool} {inputs : List PermissionClientInput}
    {permissionsState : PermissionsState} (h : validatePermissionClients inputs isLoadedKid = .ok permissionsState)
    (authState : HttpAuthState)
    (internalKeys : InternalDerivedKeysState) :
    MatchedByBytes inputs permissionsState authState internalKeys ↔ Spelled inputs := by
  obtain ⟨hacc, rfl⟩ := validatePermissionClients_ok_iff.mp h
  constructor
  · intro hmatched
    refine ⟨(distinct_iff hacc).mpr hmatched.distinct, ?_⟩
    intro input hmem hactive
    obtain ⟨bytes, hdecode, hauth⟩ := hmatched.reachable input hmem hactive
    obtain ⟨other, -, -, hhash, heq⟩ := (authorizeClient_ok_iff hacc).mp hauth
    have hsame : other.apikeyHash = input.apikeyHash := congrArg AuthenticatedClient.apikeyHash heq
    rw [← Hex.encode_of_decode hdecode, ← hhash, hsame]
  · intro hspelled
    have hdistinct := (distinct_iff hacc).mp hspelled.distinct
    have hauth : ∀ header apiKey bytes, Presents internalKeys header apiKey bytes →
        authState.rootApiKeyHashBytes ≠ some bytes → ∀ client,
        authorizeApiKey header authState internalKeys
          (PermissionsState.fromClients (inputs.filterMap PermissionClientInput.kept)) = .ok client ↔
        ∃ input ∈ inputs, input.status = "active" ∧ Hex.decode input.apikeyHash = some bytes ∧
        authenticated input = client := by
      intro header apiKey bytes hpresents hroot client
      rw [authorizeApiKey_of_presents hpresents hroot, authorizeClient_ok_iff hacc]
      constructor
      · rintro ⟨input, hmem, hactive, hhash, heq⟩
        exact ⟨input, hmem, hactive, (hspelled.apikeyHash_iff hmem hactive).mp hhash, heq⟩
      · rintro ⟨input, hmem, hactive, hdecode, heq⟩
        exact ⟨input, hmem, hactive, (hspelled.apikeyHash_iff hmem hactive).mpr hdecode, heq⟩
    refine ⟨hauth, ?_, hdistinct, ?_⟩
    · rintro header apiKey bytes hpresents hroot ⟨input, hmem, hinactive, hdecode⟩
      cases hresult : authorizeApiKey header authState internalKeys
        (PermissionsState.fromClients (inputs.filterMap PermissionClientInput.kept)) with
      | error denied => exact ⟨denied, rfl⟩
      | ok client =>
        -- the entry that authenticates has the bytes of the inactive one, so it is that one
        obtain ⟨other, hother, hactive, hdecode', -⟩ := (hauth header apiKey bytes hpresents hroot client).mp hresult
        have heq := List.inj_on_of_nodup_map (List.pairwise_map.mpr hdistinct) hother hmem (hdecode'.trans hdecode.symm)
        exact absurd (heq ▸ hactive) hinactive
    · intro input hmem hactive
      obtain ⟨bytes, hdecode⟩ := decodes_of_accepted hacc hmem
      refine ⟨bytes, hdecode, (authorizeClient_ok_iff hacc).mpr ⟨input, hmem, hactive, ?_, rfl⟩⟩
      exact (hspelled.apikeyHash_iff hmem hactive).mpr hdecode

theorem matched_iff_example : ∃ permissionsState,
    validatePermissionClients exampleInputs (fun _ => true) = .ok permissionsState ∧
    MatchedByBytes exampleInputs permissionsState ⟨none, none⟩ ⟨fun _ => .ok (List.replicate 32 0x11)⟩ := by
  have h := validatePermissionClients_ok_iff.mpr ⟨exampleInputs_accepted, rfl⟩
  exact ⟨_, h, (matched_iff h _ _).mpr ⟨by decide +kernel, by decide +kernel⟩⟩

/-- One hash in two spellings: revoked in uppercase, active in lowercase. -/
def respelledInputs : List PermissionClientInput :=
  [⟨"old", hexText 'A', "revoked", []⟩, ⟨"app", hexText 'a', "active", [⟨"*", ["metrics"]⟩]⟩]

/-- The revoked key is still accepted. -/
theorem respelled_accepted : ∃ permissionsState,
    validatePermissionClients respelledInputs (fun _ => true) = .ok permissionsState ∧
    ¬ MatchedByBytes respelledInputs permissionsState ⟨none, none⟩ ⟨fun _ => .ok (List.replicate 32 0xaa)⟩ := by
  have hacc : Accepted (fun _ => true) respelledInputs := by
    refine ⟨?_, by decide, by decide⟩
    simp only [respelledInputs, List.forall_mem_cons]
    refine ⟨⟨rfl, validateSymmetricKey_hexText (by decide) _, rfl, fun h => absurd h (by decide),
      fun h => absurd h (by decide)⟩, ⟨rfl, validateSymmetricKey_hexText (by decide) _, rfl, ?_, ?_⟩, by simp⟩
    · intro _ hadmin
      exact absurd hadmin (by decide)
    · intro _ _
      refine ⟨by decide, ?_⟩
      simp only [List.forall_mem_cons]
      exact ⟨⟨⟨by simp, by decide, by decide⟩, rfl⟩, by simp⟩
  refine ⟨_, validatePermissionClients_ok_iff.mpr ⟨hacc, rfl⟩, fun hmatched => ?_⟩
  have hpresents : Presents ⟨fun _ => .ok (List.replicate 32 0xaa)⟩ (some (List.replicate 64 0x30)) (hexText '0')
      (List.replicate 32 0xaa) := ⟨by rfl, rfl, rfl⟩
  have hroot : (⟨none, none⟩ : HttpAuthState).rootApiKeyHashBytes ≠ some (List.replicate 32 0xaa) := by simp
  obtain ⟨denied, hdenied⟩ := hmatched.denies _ _ _ hpresents hroot
    ⟨_, List.mem_cons_self, by decide, by rfl⟩
  have hallowed := (authorizeClient_ok_iff hacc).mpr ⟨_, List.mem_cons_of_mem _ List.mem_cons_self, rfl,
    (by rfl : hexText 'a' = Hex.encode (List.replicate 32 0xaa)), rfl⟩
  rw [authorizeApiKey_of_presents hpresents hroot, hallowed] at hdenied
  cases hdenied

end Vectis.Io.Http.Auth
