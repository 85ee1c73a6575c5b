import Vectis.Core.Canonical

/-!
# Signed contracts

The payloads that nodes sign (`ops/contracts.rs`), with their JSON. Fields come in the order of their names, as in
canonical JSON.
-/

namespace Vectis.Ops.Contracts

open Core.Canonical Json

/-! ## Timestamps -/

structure MessageHash where
  alg : String
  hex : String
  deriving DecidableEq, Repr

structure TimestampPayload where
  version : String
  tokenType : String
  createdAt : String
  info : String
  kid : String
  serial : String
  messageHash : MessageHash
  deriving DecidableEq, Repr

def messageHashValue (hash : MessageHash) : Value := .object [("alg", .string hash.alg), ("hex", .string hash.hex)]

def timestampCodec : Codec TimestampPayload where
  toValue payload := .object [("created_at", .string payload.createdAt), ("info", .string payload.info),
    ("kid", .string payload.kid), ("message_hash", messageHashValue payload.messageHash),
    ("serial", .string payload.serial),
    ("type", .string payload.tokenType), ("version", .string payload.version)]
  fromValue
    | .object [("created_at", .string createdAt), ("info", .string info), ("kid", .string kid),
        ("message_hash", .object [("alg", .string alg), ("hex", .string hex)]), ("serial", .string serial),
        ("type", .string tokenType), ("version", .string version)] =>
      some ⟨version, tokenType, createdAt, info, kid, serial, ⟨alg, hex⟩⟩
    | _ => none
  fromValue_toValue _ := rfl

theorem timestampCodec_plain (payload : TimestampPayload) : (timestampCodec.toValue payload).plain = true := by
  simp [timestampCodec, messageHashValue, Value.plain, plainEntries, plainEntry]
  decide

theorem timestampCodec_depth (payload : TimestampPayload) :
    (timestampCodec.toValue payload).depth < recursionLimit := by
  simp [timestampCodec, messageHashValue, Value.depth, depthEntries, depthEntry, recursionLimit]

/-! ## Protected messages -/

structure MessageSender where
  host : String
  kid : String
  deriving DecidableEq, Repr

structure MessageKem where
  alg : String
  xecdhEphemeralPublic : String
  mlKemCiphertext : String
  mlKemSalt : String
  hkdfSalt : String
  deriving DecidableEq, Repr

structure MessageCipher where
  alg : String
  nonce : String
  aad : String
  ct : String
  deriving DecidableEq, Repr

/-- The recipient is its kid, the one field of `MessageRecipient`. -/
structure ProtectedMessagePayload where
  version : String
  tokenType : String
  createdAt : String
  sender : MessageSender
  recipientKid : String
  kem : MessageKem
  cipher : MessageCipher
  deriving DecidableEq, Repr

def cipherValue (cipher : MessageCipher) : Value :=
  .object [("aad", .string cipher.aad), ("alg", .string cipher.alg), ("ct", .string cipher.ct),
    ("nonce", .string cipher.nonce)]

def kemValue (kem : MessageKem) : Value :=
  .object [("alg", .string kem.alg), ("hkdf_salt", .string kem.hkdfSalt),
    ("ml_kem_ciphertext", .string kem.mlKemCiphertext), ("ml_kem_salt", .string kem.mlKemSalt),
    ("xecdh_ephemeral_public", .string kem.xecdhEphemeralPublic)]

def protectedMessageCodec : Codec ProtectedMessagePayload where
  toValue payload := .object [("cipher", cipherValue payload.cipher), ("created_at", .string payload.createdAt),
    ("kem", kemValue payload.kem), ("recipient", .object [("kid", .string payload.recipientKid)]),
    ("sender", .object [("host", .string payload.sender.host), ("kid", .string payload.sender.kid)]),
    ("type", .string payload.tokenType), ("version", .string payload.version)]
  fromValue
    | .object [("cipher", .object [("aad", .string aad), ("alg", .string alg), ("ct", .string ct),
        ("nonce", .string nonce)]), ("created_at", .string createdAt),
        ("kem", .object [("alg", .string kemAlg), ("hkdf_salt", .string hkdfSalt),
          ("ml_kem_ciphertext", .string mlKemCiphertext), ("ml_kem_salt", .string mlKemSalt),
          ("xecdh_ephemeral_public", .string xecdhEphemeralPublic)]),
        ("recipient", .object [("kid", .string recipientKid)]),
        ("sender", .object [("host", .string host), ("kid", .string kid)]), ("type", .string tokenType),
        ("version", .string version)] =>
      some ⟨version, tokenType, createdAt, ⟨host, kid⟩, recipientKid,
        ⟨kemAlg, xecdhEphemeralPublic, mlKemCiphertext, mlKemSalt, hkdfSalt⟩, ⟨alg, nonce, aad, ct⟩⟩
    | _ => none
  fromValue_toValue _ := rfl

theorem protectedMessageCodec_plain (payload : ProtectedMessagePayload) :
    (protectedMessageCodec.toValue payload).plain = true := by
  simp [protectedMessageCodec, cipherValue, kemValue, Value.plain, plainEntries, plainEntry]
  decide

end Vectis.Ops.Contracts
