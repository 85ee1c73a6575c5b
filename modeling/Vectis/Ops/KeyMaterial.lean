import Vectis.Ops.Keys

/-!
# Key material

The keys that an operational key holds (`ops/keys.rs`), and its use by operations: the loaded key of an id, and the
check of its lifecycle (`prepareProfileUse`).
-/

namespace Vectis.Ops.Keys

open Core.Validation

structure SymmetricKey where
  variant : String
  keyHex : String
  deriving DecidableEq, Repr

structure VariantDerKeyPair where
  variant : String
  privateKeyDerHex : String
  publicKeyDerHex : String
  deriving DecidableEq, Repr

structure VariantKeyAgreementKeyPair where
  variant : String
  privateKeyDerHex : String
  publicKeyHex : String
  deriving DecidableEq, Repr

structure KeyMaterial where
  symmetric : SymmetricKey
  eddsa : VariantDerKeyPair
  xecdh : VariantKeyAgreementKeyPair
  mlDsa : VariantDerKeyPair
  mlKem : VariantDerKeyPair
  hashVariant : String
  deriving DecidableEq, Repr

abbrev OpsKey := LoadedOpsKey KeyMaterial

namespace LoadedOpsKey

def symmetric (key : OpsKey) : SymmetricKey := key.keyMaterial.symmetric

end LoadedOpsKey

abbrev LoadedKeys := KeysDbState OpsKey

def getLoadedKey (state : LoadedKeys) (id : String) : Res OpsKey := do
  parseKeyId id
  match state.get id with
  | some key => .ok key
  | none => .error (.notFound ("ops key not loaded in state: " ++ id))

inductive ProfileUse
  | newUse
  | verify
  | tokenDelete
  deriving DecidableEq, Repr

def requireProfileUse (useKind : ProfileUse) (key : OpsKey) : Res Unit :=
  match useKind with
  | .newUse => requireLifecycleForNewUse key.lifecycleStatus
  | .verify => requireLifecycleForDecryptOrVerify key.lifecycleStatus
  | .tokenDelete => .ok ()

def prepareProfileUse (state : LoadedKeys) (kid profileKid profileKind : String) (useKind : ProfileUse) : Res Unit :=
  if profileKid ≠ kid then .error (.forbidden (profileKind ++ " profile is not authorized for this kid"))
  else do
    let key ← getLoadedKey state kid
    requireProfileUse useKind key

theorem getLoadedKey_ok_iff {state : LoadedKeys} {id : String} {key : OpsKey} :
    getLoadedKey state id = .ok key ↔ parseKeyId id = .ok () ∧ state.get id = some key := by
  unfold getLoadedKey
  rw [Loop.bind_unit_eq_ok]
  cases state.get id with
  | none => simp
  | some found => simp

theorem KeysDbState.WellFormed.id_eq {state : LoadedKeys} (h : state.WellFormed LoadedOpsKey.id) {id : String}
    {key : OpsKey} (hget : state.get id = some key) : key.id = id := by
  obtain ⟨index, hindex, hkey⟩ := Option.bind_eq_some_iff.mp hget
  obtain ⟨found, hfound, hid⟩ := h id index hindex
  rw [hfound, Option.some.injEq] at hkey
  rw [← hkey, hid]

end Vectis.Ops.Keys
