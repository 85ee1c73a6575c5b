import Mathlib.Data.List.Nodup
import Mathlib.Data.List.Sort
import Vectis.Core.Storage.Rows
import Vectis.Core.Validation
import Vectis.Lib.Loop

/-!
# Token rows: reads, deletions and consumption

The token operations of `StorageState` with the SQL of both backends. A table is a list of rows with distinct primary
keys. A transaction is a function on tables: an error leaves the table as it is.

- `getToken`, `getTokensBatch`: reads, the batch one under a byte budget (`TokenBatchReadBudget`);
- `deleteTokenForSubject`, `consumeTokensBatchForSubject`: the deletions that one-time decoding rests on. Both backends
  remove exactly one row for each hash id, or nothing (`consumeTokensBatchForSubject_ok`).
-/

namespace Vectis.Core.Storage

open Validation

inductive Backend
  | sqlite
  | postgres
  deriving DecidableEq, Repr

/-- The primary key of a token row. -/
def TokenRow.key (row : TokenRow) : String × String := (row.kid, row.hashid)

structure TokenTable where
  rows : List TokenRow
  pk : (rows.map TokenRow.key).Nodup

namespace TokenTable

variable {table : TokenTable} {row row' : TokenRow}

/-- `DELETE FROM tokens WHERE …`. -/
def delete (table : TokenTable) (p : TokenRow → Bool) : TokenTable where
  rows := table.rows.filter fun row => !p row
  pk := table.pk.sublist (List.filter_sublist.map _)

theorem eq_of_key (h : row ∈ table.rows) (h' : row' ∈ table.rows) (hkey : row.key = row'.key) : row = row' :=
  List.inj_on_of_nodup_map table.pk h h' hkey

theorem nodup (table : TokenTable) : table.rows.Nodup := table.pk.of_map

theorem mem_delete {p : TokenRow → Bool} : row ∈ (table.delete p).rows ↔ row ∈ table.rows ∧ p row = false := by
  simp [delete, List.mem_filter]

end TokenTable

/-! ## Row validation -/

/-- `STORAGE_TOKEN_ENVELOPE_MAX_CHARS`. -/
def storageTokenEnvelopeMaxChars : Nat := 131072

/-- `TOKEN_DECODE_BATCH_MAX_ENVELOPE_BYTES`. -/
def tokenDecodeBatchMaxEnvelopeBytes : Nat := 5 * 1024 * 1024

def validateStorageKid (field kid : String) : Res Unit := validateHashHexField field kid internalKeysHash

def validateTokenHashid (hashid : String) : Res Unit := validateHashHexField "tokens.hashid" hashid internalKeysHash

def validateOptionalSubject : Option String → Res Unit
  | none => .ok ()
  | some subject => validateSubject subject

section Base64

-- the base64 decoder of the standard alphabet
variable (decode : String → Option (List UInt8))

def validateStorageEnvelope (field value : String) (maxChars : Nat) : Res Unit :=
  (validateBase64StandardEnvelopeSegments decode field value maxChars).map fun _ => ()

def validateTokenFields (kid hashid data : String) : Res Unit := do
  validateStorageKid "tokens.kid" kid
  validateTokenHashid hashid
  validateStorageEnvelope decode "tokens.data" data storageTokenEnvelopeMaxChars

def validateTokenRow (row : TokenRow) : Res Unit := do
  validateOptionalSubject row.subject
  validateTokenFields decode row.kid row.hashid row.data

/-! ## Reads -/

def getToken (table : TokenTable) (kid hashid : String) : Res TokenRow := do
  validateStorageKid "tokens.kid" kid
  validateTokenHashid hashid
  match table.rows.find? fun row => row.kid = kid && row.hashid = hashid with
  | none => .error (.notFound "token not found")
  | some row => (validateTokenRow decode row).map fun _ => row

/-- `TokenBatchReadBudget::retain`: the bytes that remain after the row, counted once for each request of it. -/
def retain (hashids : List String) (remaining : Nat) (hashid data : String) : Res Nat := do
  validateTokenHashid hashid
  validateStorageEnvelope decode "tokens.data" data storageTokenEnvelopeMaxChars
  if hashid ∉ hashids then .error (.internal "unexpected token batch row")
  else
    let bytes := data.utf8ByteSize * hashids.count hashid
    if remaining < bytes then .error (.vectis .tokenDecodeBatchTooLarge) else .ok (remaining - bytes)

/-- The rows of the batch query go through the budget in the order the backend returns them. -/
def retainRows (hashids : List String) : Nat → List TokenRow → Res Unit
  | _, [] => .ok ()
  | remaining, row :: rows => do
    let remaining ← retain decode hashids remaining row.hashid row.data
    validateOptionalSubject row.subject
    retainRows hashids remaining rows

/-- `resolve_tokens_in_request_order`: a row is cloned while it is requested again and moved out at its last request. -/
def resolveTokensInRequestOrder : List TokenRow → List String → List (Option TokenRow)
  | _, [] => []
  | found, hashid :: hashids =>
    let found' := if hashid ∈ hashids then found else found.filter fun row => row.hashid ≠ hashid
    (found.find? fun row => row.hashid = hashid) :: resolveTokensInRequestOrder found' hashids

def getTokensBatch (table : TokenTable) (kid : String) (hashids : List String) (maxEnvelopeBytes : Nat) :
    Res (List (Option TokenRow)) := do
  validateStorageKid "tokens.kid" kid
  hashids.forM validateTokenHashid
  let found := table.rows.filter fun row => row.kid = kid && hashids.contains row.hashid
  retainRows decode hashids maxEnvelopeBytes found
  found.forM (validateTokenRow decode)
  .ok (resolveTokensInRequestOrder found hashids)

end Base64

/-! ## Deletions -/

/-- `kid = ? AND hashid = ? AND subject IS ?`. -/
def TokenRow.is (kid hashid : String) (subject : Option String) (row : TokenRow) : Bool :=
  row.kid = kid && row.hashid = hashid && row.subject = subject

def deleteTokenForSubject (table : TokenTable) (kid hashid : String) (subject : Option String) : Res TokenTable := do
  validateStorageKid "tokens.kid" kid
  validateTokenHashid hashid
  validateOptionalSubject subject
  if table.rows.countP (TokenRow.is kid hashid subject) ≠ 1 then .error (.notFound "token not found")
  else .ok (table.delete (TokenRow.is kid hashid subject))

inductive TokenBatchConsumeError
  | missingToken (hashid : String)
  | other (err : DynError)
  deriving DecidableEq, Repr

def validateUniqueTokenHashids : List String → List String → Res Unit
  | _, [] => .ok ()
  | seen, hashid :: hashids => do
    validateTokenHashid hashid
    if hashid ∈ seen then .error (.invalidInput "token batch contains duplicated token")
    else validateUniqueTokenHashids (hashid :: seen) hashids

/-- SQLite: one `DELETE` for each hash id; the transaction is dropped at the first one that finds no row. -/
def consumeLoop (kid : String) (subject : Option String) :
    TokenTable → List String → Except TokenBatchConsumeError TokenTable
  | table, [] => .ok table
  | table, hashid :: hashids =>
    if table.rows.countP (TokenRow.is kid hashid subject) ≠ 1 then .error (.missingToken hashid)
    else consumeLoop kid subject (table.delete (TokenRow.is kid hashid subject)) hashids

def firstMissingHashid (requested deleted : List String) : Option String :=
  requested.find? fun hashid => !deleted.contains hashid

/-- `kid = $1 AND hashid = ANY($2) AND subject IS NOT DISTINCT FROM $3`. -/
def TokenRow.isAny (kid : String) (hashids : List String) (subject : Option String) (row : TokenRow) : Bool :=
  row.kid = kid && hashids.contains row.hashid && row.subject = subject

/-- PostgreSQL: one `DELETE … RETURNING hashid`; the transaction is dropped when a hash id is missing. -/
def consumeAny (kid : String) (subject : Option String) (table : TokenTable) (ordered : List String) :
    Except TokenBatchConsumeError TokenTable :=
  let deleted := (table.rows.filter (TokenRow.isAny kid ordered subject)).map TokenRow.hashid
  match firstMissingHashid ordered deleted with
  | some hashid => .error (.missingToken hashid)
  | none => .ok (table.delete (TokenRow.isAny kid ordered subject))

def consumeTokensBatchForSubject (backend : Backend) (table : TokenTable) (kid : String) (hashids : List String)
    (subject : Option String) : Except TokenBatchConsumeError TokenTable := do
  (validateStorageKid "tokens.kid" kid).mapError .other
  (validateUniqueTokenHashids [] hashids).mapError .other
  (validateOptionalSubject subject).mapError .other
  let ordered := hashids.insertionSort (· ≤ ·)
  match backend with
  | .sqlite => consumeLoop kid subject table ordered
  | .postgres => consumeAny kid subject table ordered

/-! ## Specifications -/

variable {table table' : TokenTable} {kid hashid : String} {subject : Option String} {hashids : List String}

theorem TokenRow.is_iff {row : TokenRow} :
    row.is kid hashid subject = true ↔ row.kid = kid ∧ row.hashid = hashid ∧ row.subject = subject := by
  simp [TokenRow.is, and_assoc]

theorem TokenRow.isAny_iff {row : TokenRow} :
    row.isAny kid hashids subject = true ↔ ∃ hashid ∈ hashids, row.is kid hashid subject = true := by
  simp only [TokenRow.isAny, TokenRow.is_iff, Bool.and_eq_true, decide_eq_true_eq, List.contains_iff_mem]
  constructor
  · rintro ⟨⟨hkid, hmem⟩, hsub⟩
    exact ⟨row.hashid, hmem, hkid, rfl, hsub⟩
  · rintro ⟨h, hmem, hkid, rfl, hsub⟩
    exact ⟨⟨hkid, hmem⟩, hsub⟩

/-- A count of one finds a row. -/
theorem exists_of_countP {rows : List TokenRow} {p : TokenRow → Bool} (h : ¬ rows.countP p ≠ 1) :
    ∃ row ∈ rows, p row = true := by
  have hpos : 0 < rows.countP p := by omega
  obtain ⟨row, hm, hp⟩ := List.countP_pos_iff.mp hpos
  exact ⟨row, hm, hp⟩

theorem getToken_ok {decode : String → Option (List UInt8)} {row : TokenRow}
    (h : getToken decode table kid hashid = .ok row) : row ∈ table.rows ∧ row.kid = kid ∧ row.hashid = hashid := by
  unfold getToken at h
  obtain ⟨-, -, h⟩ := Loop.bind_eq_ok.mp h
  obtain ⟨-, -, h⟩ := Loop.bind_eq_ok.mp h
  split at h
  · cases h
  · rename_i found hfind
    have hrow : found = row := by
      cases hv : validateTokenRow decode found with
      | error err => simp [hv, Except.map] at h
      | ok => simpa [hv, Except.map] using h
    subst hrow
    exact ⟨List.mem_of_find?_eq_some hfind, by simpa using List.find?_some hfind⟩

/-- The rows are resolved as if each was looked up on its own. -/
theorem resolveTokensInRequestOrder_eq : ∀ (found : List TokenRow) (hashids : List String),
    resolveTokensInRequestOrder found hashids = hashids.map fun hashid => found.find? fun row => row.hashid = hashid
  | _, [] => rfl
  | found, hashid :: hashids => by
    rw [resolveTokensInRequestOrder, List.map_cons, resolveTokensInRequestOrder_eq]
    congr 1
    split
    · rfl
    · rename_i hlast
      refine List.map_congr_left fun h hmem => ?_
      have hne : h ≠ hashid := fun he => hlast (he ▸ hmem)
      rw [List.find?_filter]
      congr 1
      funext row
      by_cases hr : row.hashid = h
      · simp [hr, hne]
      · simp [hr]

theorem getTokensBatch_ok {decode : String → Option (List UInt8)} {maxEnvelopeBytes : Nat}
    {rows : List (Option TokenRow)} (h : getTokensBatch decode table kid hashids maxEnvelopeBytes = .ok rows) :
    rows.length = hashids.length ∧ ∀ (i : Nat) hashid row, hashids[i]? = some hashid → rows[i]? = some (some row) →
      row ∈ table.rows ∧ row.kid = kid ∧ row.hashid = hashid := by
  unfold getTokensBatch at h
  obtain ⟨-, -, h⟩ := Loop.bind_eq_ok.mp h
  obtain ⟨-, -, h⟩ := Loop.bind_eq_ok.mp h
  obtain ⟨-, -, h⟩ := Loop.bind_eq_ok.mp h
  obtain ⟨-, -, h⟩ := Loop.bind_eq_ok.mp h
  rw [resolveTokensInRequestOrder_eq, Except.ok.injEq] at h
  subst h
  refine ⟨List.length_map _, fun i hashid row hi hrow => ?_⟩
  rw [List.getElem?_map, hi, Option.map_some, Option.some.injEq] at hrow
  have hmem := List.mem_filter.mp (List.mem_of_find?_eq_some hrow)
  refine ⟨hmem.1, ?_, by simpa using List.find?_some hrow⟩
  have := hmem.2
  simp only [Bool.and_eq_true, decide_eq_true_eq] at this
  exact this.1

theorem deleteTokenForSubject_ok (h : deleteTokenForSubject table kid hashid subject = .ok table') :
    table' = table.delete (TokenRow.is kid hashid subject) ∧ ∃ row ∈ table.rows, row.is kid hashid subject = true := by
  unfold deleteTokenForSubject at h
  obtain ⟨-, -, h⟩ := Loop.bind_eq_ok.mp h
  obtain ⟨-, -, h⟩ := Loop.bind_eq_ok.mp h
  obtain ⟨-, -, h⟩ := Loop.bind_eq_ok.mp h
  split at h
  · cases h
  · rename_i hcount
    exact ⟨(Except.ok.inj h).symm, exists_of_countP hcount⟩

theorem consumeLoop_ok : ∀ {table : TokenTable} {hashids : List String}, consumeLoop kid subject table hashids =
    .ok table' →
    table'.rows = table.rows.filter (fun row => !row.isAny kid hashids subject) ∧
      ∀ hashid ∈ hashids, ∃ row ∈ table.rows, row.is kid hashid subject = true
  | table, [], h => by
    cases h
    refine ⟨?_, fun _ hm => absurd hm List.not_mem_nil⟩
    rw [List.filter_eq_self.mpr]
    intro row _
    simp [TokenRow.isAny]
  | table, hashid :: hashids, h => by
    rw [consumeLoop] at h
    split at h
    · cases h
    · rename_i hcount
      obtain ⟨hrows, hfound⟩ := consumeLoop_ok h
      refine ⟨?_, fun h' hm => ?_⟩
      · rw [hrows, TokenTable.delete, List.filter_filter]
        refine List.filter_congr fun row _ => ?_
        simp only [TokenRow.isAny, TokenRow.is, List.contains_cons]
        by_cases h₁ : row.hashid = hashid <;> by_cases h₂ : row.kid = kid <;> by_cases h₃ : row.subject = subject <;>
          simp [h₁, h₂, h₃]
      · rcases List.mem_cons.mp hm with rfl | hm
        · exact exists_of_countP hcount
        · obtain ⟨row, hrow, his⟩ := hfound h' hm
          exact ⟨row, (TokenTable.mem_delete.mp hrow).1, his⟩

theorem consumeAny_ok {ordered : List String} (h : consumeAny kid subject table ordered = .ok table') :
    table'.rows = table.rows.filter (fun row => !row.isAny kid ordered subject) ∧
      ∀ hashid ∈ ordered, ∃ row ∈ table.rows, row.is kid hashid subject = true := by
  unfold consumeAny at h
  simp only at h
  split at h
  · cases h
  · rename_i hnone
    cases h
    refine ⟨rfl, fun hashid hm => ?_⟩
    have hdel := List.find?_eq_none.mp hnone hashid hm
    simp only [Bool.not_eq_true', Bool.not_eq_false, List.contains_iff_mem, List.mem_map, List.mem_filter] at hdel
    obtain ⟨row, ⟨hrow, hany⟩, rfl⟩ := hdel
    obtain ⟨h', -, his⟩ := TokenRow.isAny_iff.mp hany
    rw [TokenRow.is_iff] at his
    exact ⟨row, hrow, TokenRow.is_iff.mpr ⟨his.1, rfl, his.2.2⟩⟩

/-- Both backends delete the rows of the hash ids and nothing else, when each hash id has one. -/
theorem consumeTokensBatchForSubject_ok {backend : Backend}
    (h : consumeTokensBatchForSubject backend table kid hashids subject = .ok table') :
    table'.rows = table.rows.filter (fun row => !row.isAny kid hashids subject) ∧
      ∀ hashid ∈ hashids, ∃ row ∈ table.rows, row.is kid hashid subject = true := by
  unfold consumeTokensBatchForSubject at h
  obtain ⟨-, -, h⟩ := Loop.bind_eq_ok.mp h
  obtain ⟨-, -, h⟩ := Loop.bind_eq_ok.mp h
  obtain ⟨-, -, h⟩ := Loop.bind_eq_ok.mp h
  have hperm : (hashids.insertionSort (· ≤ ·)).Perm hashids := List.perm_insertionSort _ _
  have hany : ∀ row : TokenRow, row.isAny kid (hashids.insertionSort (· ≤ ·)) subject =
      row.isAny kid hashids subject := by
    intro row
    rw [Bool.eq_iff_iff, TokenRow.isAny_iff, TokenRow.isAny_iff]
    simp only [hperm.mem_iff]
  have hspec : table'.rows = table.rows.filter (fun row =>
        !row.isAny kid (hashids.insertionSort (· ≤ ·)) subject) ∧
      ∀ hashid ∈ hashids.insertionSort (· ≤ ·), ∃ row ∈ table.rows, row.is kid hashid subject = true := by
    cases backend with
    | sqlite => exact consumeLoop_ok h
    | postgres => exact consumeAny_ok h
  simp only [hany, hperm.mem_iff] at hspec
  exact hspec

end Vectis.Core.Storage
