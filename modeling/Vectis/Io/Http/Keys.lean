import Vectis.Core.Storage.Tokens
import Vectis.Lib.Run
import Vectis.Ops.Keys

/-!
# Key requests on several nodes

Nodes share the key table and keep a key cache each. Their requests take one step at a time:

- a lifecycle update (`update_lifecycle_endpoint`) reads the row, seals the changed properties, swaps them for the ones
  it read (`update_ops_key_properties_if_current`), reads the row again and puts it into the cache of its node;
- a cache miss (`ensure_keys_db_entry`) reads the row and inserts it if it is still absent;
- a reload (`reload_keys_db_state`) lists the rows, loads them and replaces the whole cache.

In SQLite the swap is one statement. In PostgreSQL it is a transaction: the row stays locked until it commits.
-/

namespace Vectis.Io.Http.Keys

open Core.Storage Core.Validation Ops.Keys

/-! ## The key table -/

/-- A committed properties envelope of a row, and the version that its writer had read. -/
structure Version where
  properties : String
  base : Nat
  deriving DecidableEq, Repr

/-- A row with its earlier versions, oldest first, and the request that holds the row lock. -/
structure KeyRecord where
  keys : String
  older : List Version
  current : Version
  lock : Option Nat
  deriving DecidableEq, Repr

namespace KeyRecord

def versions (record : KeyRecord) : List Version := record.older ++ [record.current]

/-- The number of the current version. -/
def latest (record : KeyRecord) : Nat := record.older.length

def commit (record : KeyRecord) (version : Version) : KeyRecord :=
  { record with older := record.versions, current := version, lock := none }

end KeyRecord

/-- The rows of `opskeys`; `records` is read at the kids of the table only. -/
structure Db where
  kids : List String
  records : String → KeyRecord

def Db.row (db : Db) (kid : String) : OpsKeyRow := ⟨kid, (db.records kid).keys, (db.records kid).current.properties⟩

def Db.set (db : Db) (kid : String) (record : KeyRecord) : Db :=
  { db with records := fun k => if k = kid then record else db.records k }

def notFoundKey (kid : String) : DynError := .notFound ("ops key not found: " ++ kid)

section Steps

variable {K : Type} (keys : InternalKeys K)

/-- `StorageState::get_ops_keys`: the row, and its version. -/
def getOpsKeys (db : Db) (kid : String) : Res (OpsKeyRow × Nat) := do
  validateStorageKid "opskeys.kid" kid
  if kid ∉ db.kids then .error (notFoundKey kid)
  else
    validateOpsKeyRow keys (db.row kid)
    .ok (db.row kid, (db.records kid).latest)

/-- `StorageState::list_ops_keys`: one invalid row fails the whole list. -/
def listOpsKeys (db : Db) : Res (List (OpsKeyRow × Nat)) := do
  (db.kids.map db.row).forM (validateOpsKeyRow keys)
  .ok (db.kids.map fun kid => (db.row kid, (db.records kid).latest))

/-- A loaded key, with the version of the row that it was loaded from. -/
structure Cached (K : Type) where
  key : LoadedOpsKey K
  version : Nat

def Cached.id (cached : Cached K) : String := cached.key.id

abbrev Cache (K : Type) := KeysDbState (Cached K)

def loadRow (row : OpsKeyRow) (version : Nat) : Res (Cached K) :=
  (loadOpsKeyFromRow keys row).map fun key => ⟨key, version⟩

/-- `load_keys_db_entry`. -/
def loadKeysDbEntry (db : Db) (kid : String) : Res (Cached K) := do
  parseKeyId kid
  let (row, version) ← getOpsKeys keys db kid
  loadRow keys row version

/-- `load_keys_from_rows`: the rows that load, in their order; the tasks of the `failed` rows do not return. -/
def loadKeysFromRows (rows : List (OpsKeyRow × Nat)) (failed : List Nat) : List (Cached K) :=
  rows.zipIdx.filterMap fun entry =>
    if entry.2 ∈ failed then none else (loadRow keys entry.1.1 entry.1.2).toOption

/-! ## Requests -/

inductive Task
  | updateLifecycle (kid status reason : String)
  | ensureEntry (kid : String)
  | reload

inductive Output
  | updated (kid : String) (lifecycle : OpsKeyLifecycle)
  | present
  | reloaded (count : Nat)

/-- Where a request is. An update keeps the row and the version that it has read, then the version it has committed. -/
inductive Pc (K : Type)
  | start
  | sealing (row : OpsKeyRow) (read : Nat)
  | swapping (row : OpsKeyRow) (read : Nat) (envelope : String) (lifecycle : OpsKeyLifecycle)
  | committing (row : OpsKeyRow) (read : Nat) (envelope : String) (lifecycle : OpsKeyLifecycle)
  | readingBack (committed : Nat) (lifecycle : OpsKeyLifecycle)
  | rereading (committed : Nat) (lifecycle : OpsKeyLifecycle)
  | upserting (committed : Nat) (lifecycle : OpsKeyLifecycle) (cached : Cached K)
  | missing
  | loading
  | inserting (cached : Cached K)
  | listed (rows : List (OpsKeyRow × Nat))
  | replacing (cached : List (Cached K))
  | done (committed : Option Nat) (reply : Res Output)

/-- The version that an update has committed. -/
def Pc.committed : Pc K → Option Nat
  | .readingBack committed _ | .rereading committed _ | .upserting committed _ _ => some committed
  | .done committed _ => committed
  | _ => none

structure Request (K : Type) where
  node : Nat
  task : Task
  pc : Pc K

structure State (K : Type) where
  db : Db
  sealed : List String
  caches : Nat → Cache K
  requests : List (Request K)

/-- What the environment supplies to a step: a nonce, the time, and the load tasks that do not return. -/
structure Env where
  nonce : List UInt8
  now : String
  failed : List Nat

/-- What a step of a request changes. -/
structure Effect (K : Type) where
  db : Db
  sealed : List String
  cache : Cache K
  pc : Pc K

def changedConcurrently : DynError :=
  .invalidInput "ops key properties changed concurrently; retry lifecycle update"

/-- The new properties, sealed under a nonce. -/
def sealChange (row : OpsKeyRow) (status reason : String) (env : Env) : Res (String × OpsKeyLifecycle) := do
  let (aad, changed) ← changeLifecycle keys row status reason env.now
  let envelope ← keys.encryptProperties env.nonce changed aad
  .ok (envelope, changed.lifecycle)

/-- The checks of `StorageState::update_ops_key_properties_if_current`. -/
def validateSwap (kid current new : String) : Res Unit := do
  validateStorageKid "opskeys.kid" kid
  validateStorageEnvelope keys.decodeBase64 "opskeys.properties" current storageEnvelopeMaxChars
  validateStorageEnvelope keys.decodeBase64 "opskeys.properties" new storageEnvelopeMaxChars

/-- The row is there and still holds the properties that were read. -/
def isCurrent (db : Db) (kid : String) (row : OpsKeyRow) : Bool :=
  kid ∈ db.kids && (db.records kid).current.properties = row.properties

def swapError (db : Db) (kid : String) : DynError := if kid ∈ db.kids then changedConcurrently else notFoundKey kid

variable (backend : Backend) (s : State K) (r : Nat) (cache : Cache K) (env : Env)

/-- Nothing but the request changes. -/
def go (pc : Pc K) : Effect K := ⟨s.db, s.sealed, cache, pc⟩

def orFail {α : Type} (committed : Option Nat) (result : Res α) (next : α → Pc K) : Pc K :=
  match result with
  | .error err => .done committed (.error err)
  | .ok a => next a

/-- The step of a lifecycle update; `none` while it waits for the row lock, or when the sealed envelope is not fresh. -/
def advanceUpdate (kid status reason : String) : Pc K → Option (Effect K)
  | .start => some (go s cache (orFail none (do parseKeyId kid; getOpsKeys keys s.db kid) fun (row, read) =>
      .sealing row read))
  | .sealing row read =>
    match sealChange keys row status reason env with
    | .error err => some (go s cache (.done none (.error err)))
    | .ok (envelope, lifecycle) =>
      if envelope ∈ s.sealed then none
      else some { go s cache (.swapping row read envelope lifecycle) with sealed := envelope :: s.sealed }
  | .swapping row read envelope lifecycle =>
    match validateSwap keys kid row.properties envelope with
    | .error err => some (go s cache (.done none (.error err)))
    | .ok () =>
      let record := s.db.records kid
      match backend with
      | .sqlite =>
        if isCurrent s.db kid row then
          some { go s cache (.readingBack (record.latest + 1) lifecycle) with
            db := s.db.set kid (record.commit ⟨envelope, read⟩) }
        else some (go s cache (.done none (.error (swapError s.db kid))))
      | .postgres =>
        if isCurrent s.db kid row then
          if record.lock.isSome then none
          else some { go s cache (.committing row read envelope lifecycle) with
            db := s.db.set kid { record with lock := some r } }
        else some (go s cache (.done none (.error (swapError s.db kid))))
  | .committing _ read envelope lifecycle =>
    let record := s.db.records kid
    some { go s cache (.rereading (record.latest + 1) lifecycle) with
      db := s.db.set kid (record.commit ⟨envelope, read⟩) }
  | .readingBack committed lifecycle =>
    some (go s cache (orFail (some committed) (getOpsKeys keys s.db kid) fun _ => .rereading committed lifecycle))
  | .rereading committed lifecycle =>
    some (go s cache (orFail (some committed) (loadKeysDbEntry keys s.db kid) (.upserting committed lifecycle)))
  | .upserting committed lifecycle cached =>
    some { go s cache (.done (some committed) (.ok (.updated kid lifecycle))) with
      cache := cache.upsert Cached.id cached }
  | _ => none

/-- The step of a cache miss. -/
def advanceEnsure (kid : String) : Pc K → Option (Effect K)
  | .start => some (go s cache (orFail none (parseKeyId kid) fun _ =>
      if (cache.get kid).isSome then .done none (.ok .present) else .missing))
  | .missing => some (go s cache (if cache.containsId kid then .done none (.ok .present) else .loading))
  | .loading => some (go s cache (orFail none (loadKeysDbEntry keys s.db kid) .inserting))
  | .inserting cached =>
    some { go s cache (.done none (.ok .present)) with cache := (cache.insertIfAbsent Cached.id cached).2 }
  | _ => none

/-- The step of a reload. -/
def advanceReload : Pc K → Option (Effect K)
  | .start => some (go s cache (orFail none (listOpsKeys keys s.db) .listed))
  | .listed rows => some (go s cache (.replacing (loadKeysFromRows keys rows env.failed)))
  | .replacing cached =>
    some { go s cache (.done none (.ok (.reloaded cached.length))) with cache := .fromKeys Cached.id cached }
  | _ => none

def advance (task : Task) (pc : Pc K) : Option (Effect K) :=
  match task with
  | .updateLifecycle kid status reason => advanceUpdate keys backend s r cache env kid status reason pc
  | .ensureEntry kid => advanceEnsure keys s cache kid pc
  | .reload => advanceReload keys s cache env pc

inductive Action
  | begin (node : Nat) (task : Task)
  | advance (r : Nat) (env : Env)
  | fail (r : Nat) (err : DynError)

/-- A transaction that fails gives its row lock back. -/
def Db.unlock (db : Db) (task : Task) (pc : Pc K) : Db :=
  match task, pc with
  | .updateLifecycle kid _ _, .committing .. => db.set kid { db.records kid with lock := none }
  | _, _ => db

def step : Action → Option (State K)
  | .begin node task => some { s with requests := s.requests ++ [⟨node, task, .start⟩] }
  | .advance r env => (s.requests[r]?).bind fun req =>
      (advance keys backend s r (s.caches req.node) env req.task req.pc).map fun effect =>
        { db := effect.db
          sealed := effect.sealed
          caches := fun node => if node = req.node then effect.cache else s.caches node
          requests := s.requests.set r { req with pc := effect.pc } }
  | .fail r err => (s.requests[r]?).bind fun req =>
      match req.pc with
      | .done _ _ => none
      | pc => some { s with
          db := s.db.unlock req.task pc
          requests := s.requests.set r { req with pc := .done pc.committed (.error err) } }

/-- The table with the given keys and properties, one version each; the caches are empty. -/
def State.initial (kids : List String) (row : String → String × String) : State K where
  db := ⟨kids, fun kid => ⟨(row kid).1, [], ⟨(row kid).2, 0⟩, none⟩⟩
  sealed := kids.map fun kid => (row kid).2
  caches _ := .fromKeys Cached.id []
  requests := []

end Steps

end Vectis.Io.Http.Keys
