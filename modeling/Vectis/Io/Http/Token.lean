import Vectis.Core.Storage.Tokens
import Vectis.Lib.Run

/-!
# Token requests

The endpoints of `io/http/token.rs` that read and remove token rows (`decode_endpoint`, `decode_batch_endpoint`,
`delete_endpoint`) and the subject deletion, as requests that take one step at a time: they hash the tokens, read the
rows, decrypt them and remove them in one transaction. Other requests take steps in between.

- `TokenContext`: a tokenization profile with the keys it works with; hashing and decryption are its operations;
- `advance`: the next step of a request on the database;
- `step`: a request begins, takes its next step, or fails (authorization, validation, the key's lifecycle, the
  database).
-/

namespace Vectis.Io.Http.Token

open Core.Storage Core.Validation

/-! ## Token contexts -/

section Context

variable {Value : Type}

structure TokenDataPayload (Value : Type) where
  profile : String
  plaintext : String
  metadata : Option Value
  createdAt : String

structure TokenContext (Value : Type) where
  name : String
  kid : String
  oneTime : Bool
  stored : Bool
  subject : Option String
  hash : String → Res String
  decrypt : String → String → Res (TokenDataPayload Value)

def validateSubjectMode (stored : Bool) (subject : Option String) : Res Unit := do
  validateOptionalSubject subject
  if stored ≠ subject.isSome then
    .error (.invalidInput "subject is required only for stored tokenization profiles")
  else .ok ()

def TokenContext.validateMode (ctx : TokenContext Value) (expected : Option String) : Res Unit := do
  validateSubjectMode ctx.stored expected
  if ctx.subject ≠ expected then .error (.invalidInput "subject does not match token context") else .ok ()

/-! ## Outputs -/

/-- One decoded token of a response. -/
structure DecodedItem (Value : Type) where
  refId : String
  plaintext : String
  metadata : Option Value

inductive Output (Value : Type)
  | decoded (item : DecodedItem Value)
  | decodedBatch (kid profile : String) (items : List (DecodedItem Value))
  | deleted (refId : String)
  | noContent

/-- The plaintexts that a response carries. -/
def Output.items : Output Value → List (DecodedItem Value)
  | .decoded item => [item]
  | .decodedBatch _ _ items => items
  | .deleted _ | .noContent => []

def decodedItem (refId : String) (payload : TokenDataPayload Value) : DecodedItem Value :=
  ⟨refId, payload.plaintext, payload.metadata⟩

/-! ## Decoding -/

def subjectMismatch : DynError := .internal "stored token subject does not match request"

def batchItemFailed (index : Nat) (err : DynError) : DynError :=
  err.withPrefix ("batch item " ++ toString index ++ " failed")

/-- `prepare_decode` and `decode`. -/
def decodeOne (ctx : TokenContext Value) (refId token : String) (subject : Option String) (row : TokenRow) :
    Res (DecodedItem Value) := do
  ctx.validateMode subject
  let hashid ← ctx.hash token
  let payload ← ctx.decrypt hashid row.data
  .ok (decodedItem refId payload)

/-- The hash ids of a batch, from the item `index` on. -/
def hashItems (ctx : TokenContext Value) : Nat → List (String × String) → Res (List String)
  | _, [] => .ok []
  | index, (_, token) :: items => do
    let hashid ← (ctx.hash token).mapError (batchItemFailed index)
    let hashids ← hashItems ctx (index + 1) items
    .ok (hashid :: hashids)

/-- The first item whose hash id was seen before. -/
def firstDuplicate : Nat → List String → List String → Option Nat
  | _, _, [] => none
  | index, seen, hashid :: hashids =>
    if hashid ∈ seen then some index else firstDuplicate (index + 1) (hashid :: seen) hashids

def duplicatedToken : DynError := .invalidInput "token batch contains duplicated token"

/-- Hash the tokens; a one-time batch must not list a token twice. -/
def hashBatch (ctx : TokenContext Value) (items : List (String × String)) : Res (List String) := do
  let hashids ← hashItems ctx 0 items
  match if ctx.oneTime then firstDuplicate 0 [] hashids else none with
  | some index => .error (batchItemFailed index duplicatedToken)
  | none => .ok hashids

/-- Every row must be there and belong to the subject of the request. -/
def checkRows (subject : Option String) : Nat → List (Option TokenRow) → Res (List TokenRow)
  | _, [] => .ok []
  | index, none :: _ => .error (batchItemFailed index (.notFound "token not found"))
  | index, some row :: rows =>
    if row.subject ≠ subject then .error subjectMismatch
    else do
      let rest ← checkRows subject (index + 1) rows
      .ok (row :: rest)

/-- The items of `decode_batch`: the refs with the hash ids and the rows, from the item `index` on. -/
def decodeItems (ctx : TokenContext Value) : Nat → List ((String × String) × TokenRow) → Res (List (DecodedItem Value))
  | _, [] => .ok []
  | index, ((refId, hashid), row) :: items => do
    let payload ← (ctx.decrypt hashid row.data).mapError (batchItemFailed index)
    let rest ← decodeItems ctx (index + 1) items
    .ok (decodedItem refId payload :: rest)

/-- `prepare_decode_batch` and `decode_batch`. -/
def decodeBatch (ctx : TokenContext Value) (kid : String) (refs hashids : List String) (rows : List TokenRow) :
    Res (Output Value) := do
  ctx.validateMode ctx.subject
  if rows.length ≠ hashids.length then
    .error (.internal "token decode batch row count does not match hashid count")
  else if refs.length ≠ hashids.length then
    .error (.internal "token decode batch ref count does not match hashid count")
  else
    let items ← decodeItems ctx 0 ((refs.zip hashids).zip rows)
    .ok (.decodedBatch kid ctx.name items)

/-- The place of the hash id in the batch; of equal ones the last. -/
def hashidIndex (hashids : List String) (hashid : String) : Option Nat :=
  (hashids.zipIdx.reverse.find? fun entry => entry.1 = hashid).map Prod.snd

def mapTokenBatchConsumeError (hashids : List String) : TokenBatchConsumeError → DynError
  | .missingToken hashid =>
    match hashidIndex hashids hashid with
    | some index => .notFound ("batch item " ++ toString index ++ " failed: token not found")
    | none => .internal "token batch consume returned an unknown token"
  | .other err => err

/-! ## Requests -/

inductive Task (Value : Type)
  | decode (ctx : TokenContext Value) (kid refId token : String) (subject : Option String)
  | decodeBatch (ctx : TokenContext Value) (kid : String) (items : List (String × String)) (subject : Option String)
  | delete (ctx : TokenContext Value) (kid refId token : String) (subject : Option String)
  | deleteSubject (kid subject : String)

/-- Where a request is. From the decryption on it keeps the rows that it has decrypted. -/
inductive Pc (Value : Type)
  | start
  | readOne (hashid : String)
  | decodeOne (hashid : String) (row : TokenRow)
  | consumeOne (hashid : String) (row : TokenRow) (output : Output Value)
  | readBatch (hashids : List String)
  | decodeBatch (hashids : List String) (rows : List TokenRow)
  | consumeBatch (hashids : List String) (rows : List TokenRow) (output : Output Value)
  | deleteOne (hashid : String)
  | done (rows : List TokenRow) (reply : Res (Output Value))

structure Db where
  tokens : TokenTable
  subjects : List SubjectRow

/-- A request that goes on at `next`, or is answered with the error. -/
def orFail {α : Type} (r : Res α) (next : α → Pc Value) : Pc Value :=
  match r with
  | .error err => .done [] (.error err)
  | .ok a => next a

/-- A transaction on the tokens: it commits and the request is answered, or nothing changes. -/
def commitTokens (db : Db) (r : Res TokenTable) (rows : List TokenRow) (output : Output Value) : Db × Pc Value :=
  match r with
  | .error err => (db, .done [] (.error err))
  | .ok tokens => ({ db with tokens := tokens }, .done rows (.ok output))

/-- `StorageState::delete_subject`: the rows are gone also when there was no subjects row. -/
def deleteSubject (db : Db) (kid subject : String) : Db × Pc Value :=
  match (do validateStorageKid "subjects.kid" kid; validateSubject subject : Res Unit) with
  | .error err => (db, .done [] (.error err))
  | .ok () =>
    let db' : Db := ⟨db.tokens.delete fun row => row.kid = kid && row.subject = some subject,
      db.subjects.filter fun row => !subjectKey kid subject row⟩
    (db', .done [] ((deleteSubjectReply (db.subjects.countP (subjectKey kid subject))).map fun _ => .noContent))

end Context

section Steps

variable {Value : Type} (backend : Backend) (decode : String → Option (List UInt8))

/-- The next step of a request. -/
def advance (db : Db) : Task Value → Pc Value → Option (Db × Pc Value)
  | .decode ctx _ _ token _, .start => some (db, orFail (ctx.hash token) .readOne)
  | .decode _ kid _ _ subject, .readOne hashid =>
    some (db, orFail (getToken decode db.tokens kid hashid) fun row =>
      if row.subject ≠ subject then .done [] (.error subjectMismatch) else .decodeOne hashid row)
  | .decode ctx _ refId token subject, .decodeOne hashid row =>
    some (db, orFail (Token.decodeOne ctx refId token subject row) fun item =>
      if ctx.oneTime then .consumeOne hashid row (.decoded item) else .done [row] (.ok (.decoded item)))
  | .decode _ kid _ _ subject, .consumeOne hashid row output =>
    some (commitTokens db (deleteTokenForSubject db.tokens kid hashid subject) [row] output)
  | .decodeBatch ctx _ items _, .start => some (db, orFail (hashBatch ctx items) .readBatch)
  | .decodeBatch _ kid _ subject, .readBatch hashids =>
    some (db, orFail (getTokensBatch decode db.tokens kid hashids tokenDecodeBatchMaxEnvelopeBytes) fun found =>
      orFail (checkRows subject 0 found) (.decodeBatch hashids))
  | .decodeBatch ctx kid items _, .decodeBatch hashids rows =>
    some (db, orFail (Token.decodeBatch ctx kid (items.map Prod.fst) hashids rows) fun output =>
      if ctx.oneTime then .consumeBatch hashids rows output else .done rows (.ok output))
  | .decodeBatch _ kid _ subject, .consumeBatch hashids rows output =>
    some (commitTokens db
      ((consumeTokensBatchForSubject backend db.tokens kid hashids subject).mapError
        (mapTokenBatchConsumeError hashids))
      rows output)
  | .delete ctx _ _ token _, .start => some (db, orFail (ctx.hash token) .deleteOne)
  | .delete _ kid refId _ subject, .deleteOne hashid =>
    some (commitTokens db (deleteTokenForSubject db.tokens kid hashid subject) [] (.deleted refId))
  | .deleteSubject kid subject, .start => some (deleteSubject db kid subject)
  | _, _ => none

/-- A request, with the rows that its transactions have removed. -/
structure Request (Value : Type) where
  task : Task Value
  pc : Pc Value
  removed : List TokenRow

structure State (Value : Type) where
  db : Db
  requests : List (Request Value)

inductive Action (Value : Type)
  | begin (task : Task Value)
  | advance (i : Nat)
  | fail (i : Nat) (err : DynError)

/-- The rows of the first table that are not in the second. -/
def removedRows (db db' : Db) : List TokenRow := db.tokens.rows.filter fun row => !db'.tokens.rows.contains row

def step (s : State Value) : Action Value → Option (State Value)
  | .begin task => some { s with requests := s.requests ++ [⟨task, .start, []⟩] }
  | .advance i => (s.requests[i]?).bind fun req => (advance backend decode s.db req.task req.pc).map fun (db, pc) =>
      ⟨db, s.requests.set i ⟨req.task, pc, req.removed ++ removedRows s.db db⟩⟩
  | .fail i err => (s.requests[i]?).bind fun req =>
      match req.pc with
      | .done _ _ => none
      | _ => some { s with requests := s.requests.set i { req with pc := .done [] (.error err) } }

end Steps

end Vectis.Io.Http.Token
