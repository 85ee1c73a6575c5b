import Vectis.Core.Storage.Rows
import Vectis.Core.Validation
import Vectis.Lib.Loop

/-!
# Operational keys

The parts of `ops/keys.rs` that lifecycle changes go through: the properties of a key and their validation, the
lifecycle gates and transitions, loading a key from its row, and the in-memory key cache `KeysDbState`.

The encryption of the two envelopes of a row under the internal keys is a parameter (`InternalKeys`): opening a
properties envelope that a row may hold gives back what was sealed.
-/

namespace Vectis.Ops.Keys

open Core.Storage Core.Validation

/-! ## Ids -/

/-- `KeyId::parse`. -/
def parseKeyId (id : String) : Res Unit := validateHashHexField "id" id internalKeysHash

def validateKeyId (id : String) : Res Unit := parseKeyId id

/-! ## Properties and lifecycle -/

structure OpsKeyLifecycle where
  status : String
  reason : String
  changedAt : String
  deriving DecidableEq, Repr

structure OpsKeyProperties where
  version : UInt8
  profile : String
  tag : String
  createdAt : String
  lifecycle : OpsKeyLifecycle
  deriving DecidableEq, Repr

def propertyProfiles : List String :=
  ["hybrid-performance-v1", "hybrid-standard-v1", "hybrid-high-assurance-v1", "hybrid-long-term-v1", "custom"]

def lifecycleStatuses : List String := ["active", "disabled", "retired", "compromised", "destroyed"]

/-- `INTERNAL_REF_MAX_CHARS`. -/
def internalRefMaxChars : Nat := 128

def validateLifecycleStatus (field status : String) : Res Unit := validateAllowedValue field status lifecycleStatuses

def validateOpsKeyProperties (properties : OpsKeyProperties) : Res Unit := do
  validateAllowedValue "properties.profile" properties.profile propertyProfiles
  validateTextField "properties.tag" properties.tag
  validateTextField "properties.created_at" properties.createdAt
  validateLifecycleStatus "properties.lifecycle.status" properties.lifecycle.status
  validateBoundedTextField "properties.lifecycle.reason" properties.lifecycle.reason internalRefMaxChars
  validateTextField "properties.lifecycle.changed_at" properties.lifecycle.changedAt

def lifecycleAllowed (current next : String) : Bool :=
  match current with
  | "active" => next ∈ ["disabled", "retired", "compromised", "destroyed"]
  | "disabled" => next = "active"
  | _ => false

def validateLifecycleTransition (current next : String) : Res Unit :=
  if lifecycleAllowed current next then .ok ()
  else .error (.invalidInput ("invalid lifecycle transition: " ++ current ++ " -> " ++ next))

/-- The statuses that no transition leaves. -/
def terminal (status : String) : Bool := status ∈ ["retired", "compromised", "destroyed"]

theorem lifecycleAllowed_terminal {current next : String} (h : terminal current = true) :
    lifecycleAllowed current next = false := by
  simp only [terminal, List.mem_cons, List.not_mem_nil, or_false, decide_eq_true_eq] at h
  rcases h with rfl | rfl | rfl <;> rfl

/-! ## Gates -/

def blockedLifecycleError (status : String) : DynError :=
  match status with
  | "disabled" => .forbidden "key is currently disabled"
  | "compromised" => .forbidden "key is compromised and cannot be used for security reasons"
  | "destroyed" => .forbidden "key is logically destroyed and cannot be used"
  | _ => .forbidden "key lifecycle status does not allow this operation"

def retiredError : DynError := .forbidden "key is retired and can only be used for decrypt or verification"

def requireLifecycleForNewUse (status : String) : Res Unit :=
  match status with
  | "active" => .ok ()
  | "retired" => .error retiredError
  | status => .error (blockedLifecycleError status)

def requireLifecycleForDecryptOrVerify (status : String) : Res Unit :=
  match status with
  | "active" | "retired" => .ok ()
  | status => .error (blockedLifecycleError status)

/-- The two gates. -/
inductive Gate
  | newUse
  | decryptOrVerify
  deriving DecidableEq, Repr

def Gate.require : Gate → String → Res Unit
  | .newUse => requireLifecycleForNewUse
  | .decryptOrVerify => requireLifecycleForDecryptOrVerify

def Gate.passes (gate : Gate) (status : String) : Bool := (gate.require status).isOk

/-! ## Rows -/

/-- `STORAGE_ENVELOPE_MAX_CHARS`. -/
def storageEnvelopeMaxChars : Nat := 32768

/-- An envelope of properties that a row may hold. -/
def Storable (decode : String → Option (List UInt8)) (envelope : String) : Prop :=
  ∃ segments, validateBase64StandardEnvelopeSegments decode "opskeys.properties" envelope storageEnvelopeMaxChars =
    .ok segments

/-- What the internal keys do; `K` is the key material of a row. An envelope that is too long is sealed but not
opened. -/
structure InternalKeys (K : Type) where
  decodeBase64 : String → Option (List UInt8)
  validateKidMatchesKeys : String → String → Res Unit
  decryptKeys : String → Res (String × K)
  decryptProperties : String → Res (String × OpsKeyProperties)
  encryptProperties : List UInt8 → OpsKeyProperties → String → Res String
  validateBinding : String → String × K → String × OpsKeyProperties → Res Unit
  decrypt_encrypt : ∀ nonce properties aad envelope, encryptProperties nonce properties aad = .ok envelope →
    (∃ opened old, decryptProperties opened = .ok (aad, old)) → Storable decodeBase64 envelope →
    decryptProperties envelope = .ok (aad, properties)

structure LoadedOpsKey (K : Type) where
  id : String
  aad : String
  propertiesAad : String
  keyMaterial : K
  properties : OpsKeyProperties

variable {K : Type}

def LoadedOpsKey.lifecycleStatus (key : LoadedOpsKey K) : String := key.properties.lifecycle.status

def validateOpsKeyRow (keys : InternalKeys K) (row : OpsKeyRow) : Res Unit := do
  validateHashHexField "opskeys.kid" row.kid internalKeysHash
  let _ ← validateBase64StandardEnvelopeSegments keys.decodeBase64 "opskeys.keys" row.keys storageEnvelopeMaxChars
  let _ ← validateBase64StandardEnvelopeSegments keys.decodeBase64 "opskeys.properties" row.properties
    storageEnvelopeMaxChars
  .ok ()

/-- Open both envelopes of a row and check them, as loading and updating do. -/
def openOpsKeyRow (keys : InternalKeys K) (row : OpsKeyRow) : Res ((String × K) × (String × OpsKeyProperties)) := do
  keys.validateKidMatchesKeys row.kid row.keys
  let decrypted ← keys.decryptKeys row.keys
  let properties ← keys.decryptProperties row.properties
  validateOpsKeyProperties properties.2
  keys.validateBinding row.kid decrypted properties
  .ok (decrypted, properties)

def loadOpsKeyFromRow (keys : InternalKeys K) (row : OpsKeyRow) : Res (LoadedOpsKey K) := do
  let (decrypted, properties) ← openOpsKeyRow keys row
  .ok ⟨row.kid, decrypted.1, properties.1, decrypted.2, properties.2⟩

/-- The new properties of `update_key_lifecycle`, with the AAD of the old ones. -/
def changeLifecycle (keys : InternalKeys K) (row : OpsKeyRow) (status reason changedAt : String) :
    Res (String × OpsKeyProperties) := do
  let (_, aad, properties) ← openOpsKeyRow keys row
  validateLifecycleTransition properties.lifecycle.status status
  let changed := { properties with lifecycle := ⟨status, reason, changedAt⟩ }
  validateOpsKeyProperties changed
  .ok (aad, changed)

/-- The lifecycle status that an envelope holds. -/
def statusOf (keys : InternalKeys K) (envelope : String) : Option String :=
  match keys.decryptProperties envelope with
  | .ok (_, properties) => some properties.lifecycle.status
  | .error _ => none

theorem openOpsKeyRow_properties {keys : InternalKeys K} {row : OpsKeyRow} {decrypted : String × K}
    {properties : String × OpsKeyProperties} (h : openOpsKeyRow keys row = .ok (decrypted, properties)) :
    keys.decryptProperties row.properties = .ok properties := by
  simp only [openOpsKeyRow, Loop.bind_eq_ok, Except.ok.injEq, Prod.mk.injEq] at h
  obtain ⟨-, -, _, -, _, hp, -, -, -, -, rfl, rfl⟩ := h
  exact hp

/-- The properties of an opened row are those of its envelope. -/
theorem statusOf_openOpsKeyRow {keys : InternalKeys K} {row : OpsKeyRow} {decrypted : String × K}
    {properties : String × OpsKeyProperties} (h : openOpsKeyRow keys row = .ok (decrypted, properties)) :
    statusOf keys row.properties = some properties.2.lifecycle.status := by
  rw [statusOf, openOpsKeyRow_properties h]

theorem loadOpsKeyFromRow_ok {keys : InternalKeys K} {row : OpsKeyRow} {key : LoadedOpsKey K}
    (h : loadOpsKeyFromRow keys row = .ok key) :
    key.id = row.kid ∧ statusOf keys row.properties = some key.lifecycleStatus := by
  obtain ⟨⟨decrypted, properties⟩, hopen, h⟩ := Loop.bind_eq_ok.mp h
  cases h
  exact ⟨rfl, statusOf_openOpsKeyRow hopen⟩

/-- The change is one that the transition check allows, from the status that the row holds, with the AAD that the row
holds. -/
theorem changeLifecycle_ok {keys : InternalKeys K} {row : OpsKeyRow} {status reason changedAt aad : String}
    {changed : OpsKeyProperties} (h : changeLifecycle keys row status reason changedAt = .ok (aad, changed)) :
    changed.lifecycle.status = status ∧ (∃ opened old, keys.decryptProperties opened = .ok (aad, old)) ∧
      ∃ current, statusOf keys row.properties = some current ∧ validateLifecycleTransition current status = .ok () := by
  obtain ⟨⟨decrypted, properties⟩, hopen, h⟩ := Loop.bind_eq_ok.mp h
  obtain ⟨⟨⟩, htrans, h⟩ := Loop.bind_eq_ok.mp h
  obtain ⟨-, -, h⟩ := Loop.bind_eq_ok.mp h
  cases h
  exact ⟨rfl, ⟨_, _, openOpsKeyRow_properties hopen⟩, _, statusOf_openOpsKeyRow hopen, htrans⟩

/-- A sealed change holds its status. -/
theorem statusOf_encrypt {keys : InternalKeys K} {nonce : List UInt8} {properties : OpsKeyProperties}
    {aad envelope : String} (h : keys.encryptProperties nonce properties aad = .ok envelope)
    (haad : ∃ opened old, keys.decryptProperties opened = .ok (aad, old))
    (hstorable : Storable keys.decodeBase64 envelope) :
    statusOf keys envelope = some properties.lifecycle.status := by
  simp [statusOf, keys.decrypt_encrypt nonce properties aad envelope h haad hstorable]

/-! ## The key cache -/

/-- `KeysDbState`: the keys in a list, and the place of each id. Entries are any type with an id. -/
structure KeysDbState (E : Type) where
  keysDb : List E
  byId : String → Option Nat

namespace KeysDbState

variable {E : Type} (idOf : E → String)

/-- `from_keys`: of equal ids the last one is found. -/
def fromKeys (keysDb : List E) : KeysDbState E where
  keysDb := keysDb
  byId id := (keysDb.zipIdx.reverse.find? fun entry => idOf entry.1 = id).map Prod.snd

def get (state : KeysDbState E) (id : String) : Option E := (state.byId id).bind fun index => state.keysDb[index]?

def containsId (state : KeysDbState E) (id : String) : Bool := (state.byId id).isSome

def upsert (state : KeysDbState E) (key : E) : KeysDbState E :=
  match state.byId (idOf key) with
  | some index => { state with keysDb := state.keysDb.set index key }
  | none => ⟨state.keysDb ++ [key], fun id => if id = idOf key then some state.keysDb.length else state.byId id⟩

/-- Whether the key was inserted, and the new state. -/
def insertIfAbsent (state : KeysDbState E) (key : E) : Bool × KeysDbState E :=
  if state.containsId (idOf key) then (false, state) else (true, state.upsert idOf key)

/-- Every id leads to an entry with that id. -/
def WellFormed (state : KeysDbState E) : Prop :=
  ∀ id index, state.byId id = some index → ∃ key, state.keysDb[index]? = some key ∧ idOf key = id

variable {idOf}

/-- `fromKeys` leads each id to the place of an entry with that id. -/
theorem fromKeys_byId {keysDb : List E} {id : String} {index : Nat} (h : (fromKeys idOf keysDb).byId id = some index) :
    ∃ key, keysDb[index]? = some key ∧ idOf key = id := by
  obtain ⟨⟨key, i⟩, hfind, rfl⟩ := Option.map_eq_some_iff.mp h
  have hmem := List.mem_reverse.mp (List.mem_of_find?_eq_some hfind)
  exact ⟨key, List.mem_zipIdx_iff_getElem?.mp hmem, by simpa using List.find?_some hfind⟩

theorem wellFormed_fromKeys (keysDb : List E) : WellFormed idOf (fromKeys idOf keysDb) :=
  fun _ _ h => fromKeys_byId h

theorem get_fromKeys {keysDb : List E} {id : String} {key : E} (h : (fromKeys idOf keysDb).get id = some key) :
    key ∈ keysDb ∧ idOf key = id := by
  obtain ⟨index, hindex, hget⟩ := Option.bind_eq_some_iff.mp h
  obtain ⟨key', hkey', hid⟩ := fromKeys_byId hindex
  have hget' : keysDb[index]? = some key := hget
  rw [hkey', Option.some.injEq] at hget'
  subst hget'
  exact ⟨List.mem_of_getElem? hkey', hid⟩

theorem wellFormed_upsert {state : KeysDbState E} (hw : WellFormed idOf state) (key : E) :
    WellFormed idOf (state.upsert idOf key) := by
  intro id index h
  unfold upsert at h ⊢
  split at h
  · rename_i i hi
    obtain ⟨old, hold, hid⟩ := hw id index h
    obtain ⟨old', hold', hid'⟩ := hw (idOf key) i hi
    by_cases hii : i = index
    · subst hii
      refine ⟨key, ?_, ?_⟩
      · rw [List.getElem?_set_self]
        exact (List.getElem?_eq_some_iff.mp hold).1
      · rw [hold, Option.some.injEq] at hold'
        rw [← hid, hold', hid']
    · exact ⟨old, by rw [List.getElem?_set_ne hii]; exact hold, hid⟩
  · simp only at h ⊢
    split at h
    · rename_i hid
      cases h
      exact ⟨key, by simp, hid.symm⟩
    · obtain ⟨old, hold, hid⟩ := hw id index h
      exact ⟨old, by rw [List.getElem?_append_left (List.getElem?_eq_some_iff.mp hold).1]; exact hold, hid⟩

/-- After an upsert the id leads to the new entry, every other id to what it led to. -/
theorem get_upsert {state : KeysDbState E} (hw : WellFormed idOf state) (key : E) (id : String) :
    (state.upsert idOf key).get id = if id = idOf key then some key else state.get id := by
  unfold get upsert
  cases hb : state.byId (idOf key) with
  | some i =>
    obtain ⟨old, hold, hid⟩ := hw (idOf key) i hb
    simp only
    split
    · rename_i he
      rw [he, hb, Option.bind_some, List.getElem?_set_self (List.getElem?_eq_some_iff.mp hold).1]
    · rename_i hne
      cases hb' : state.byId id with
      | none => rfl
      | some j =>
        obtain ⟨old', hold', hid'⟩ := hw id j hb'
        have hij : i ≠ j := by
          rintro rfl
          rw [hold, Option.some.injEq] at hold'
          exact hne (by rw [← hid', ← hold', hid])
        rw [Option.bind_some, Option.bind_some, List.getElem?_set_ne hij]
  | none =>
    simp only
    split
    · simp
    · cases hb' : state.byId id with
      | none => rfl
      | some j =>
        obtain ⟨old', hold', -⟩ := hw id j hb'
        rw [Option.bind_some, Option.bind_some, List.getElem?_append_left (List.getElem?_eq_some_iff.mp hold').1]

/-- A well-formed cache contains an id when it finds a key for it. -/
theorem containsId_iff {state : KeysDbState E} (hw : WellFormed idOf state) (id : String) :
    state.containsId id = (state.get id).isSome := by
  unfold containsId get
  cases hb : state.byId id with
  | none => rfl
  | some i =>
    obtain ⟨key, hkey, -⟩ := hw id i hb
    simp [hkey]

end KeysDbState

end Vectis.Ops.Keys
