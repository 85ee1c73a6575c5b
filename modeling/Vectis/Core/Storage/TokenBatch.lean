import Mathlib.Algebra.BigOperators.Group.List.Basic
import Mathlib.Data.List.Induction
import Mathlib.Tactic.Ring
import Vectis.Core.Storage.Tokens
import Vectis.Lib.Base64

/-!
# Batch reads of tokens

`get_tokens_batch` of `StorageState` and of its backends, down to the maps and the machine arithmetic: the hash ids are
counted, the rows are streamed in any order against a budget of bytes that a row takes once for each request of it, and
the rows are then moved out of the map at the last request of each hash id.

- `lookup_countHashids`, `resolve_eq`: the counts are right, and a row is at hand at every request of it;
- `charge_eq_total`: what the rows take from the budget is the sum over the requests;
- `getTokensBatch_reads`: a batch read fails as too large exactly when that sum exceeds the budget, and else gives what
  single reads give, for every order of the rows.
-/

namespace Vectis.Core.Storage

open Validation

/-! ## Maps -/

section Maps

variable {α : Type}

/-- `HashMap::insert`. -/
def mapInsert (key : String) (value : α) (map : List (String × α)) : List (String × α) :=
  (key, value) :: map.filter fun entry => entry.1 ≠ key

/-- `HashMap::remove`, without the removed value. -/
def mapRemove (key : String) (map : List (String × α)) : List (String × α) := map.filter fun entry => entry.1 ≠ key

theorem lookup_mapRemove {key : String} : ∀ {map : List (String × α)} {other : String}, other ≠ key →
    (mapRemove key map).lookup other = map.lookup other
  | [], _, _ => rfl
  | (k, v) :: map, other, hne => by
    by_cases hk : k = key
    · have hother : (other == k) = false := by simp [hk, hne]
      have hstep : mapRemove key ((k, v) :: map) = mapRemove key map := by simp [mapRemove, hk]
      rw [hstep, lookup_mapRemove hne, List.lookup_cons, hother]
    · have hstep : mapRemove key ((k, v) :: map) = (k, v) :: mapRemove key map := by simp [mapRemove, hk]
      rw [hstep, List.lookup_cons, List.lookup_cons, lookup_mapRemove hne]

theorem lookup_mapInsert {key other : String} {value : α} {map : List (String × α)} :
    (mapInsert key value map).lookup other = if other = key then some value else map.lookup other := by
  unfold mapInsert
  by_cases h : other = key
  · subst h
    simp
  · have hne : (other == key) = false := by simp [h]
    rw [List.lookup_cons, hne, if_neg h]
    exact lookup_mapRemove h

end Maps

/-! ## The code -/

namespace TokenBatch

/-- `usize::checked_mul` on 64 bits. -/
def checkedMul (a b : Nat) : Option Nat := if a * b < 2 ^ 64 then some (a * b) else none

/-- `usize::checked_sub`. -/
def checkedSub (a b : Nat) : Option Nat := if b ≤ a then some (a - b) else none

/-- The loop that counts the hash ids; `+= 1` wraps. -/
def countHashids (hashids : List String) : List (String × Nat) :=
  hashids.foldl (fun occurrences hashid =>
    mapInsert hashid (((occurrences.lookup hashid).getD 0 + 1) % 2 ^ 64) occurrences) []

structure TokenBatchReadBudget where
  occurrences : List (String × Nat)
  remaining : Nat

def TokenBatchReadBudget.new (hashids : List String) (maxBytes : Nat) : TokenBatchReadBudget :=
  ⟨countHashids hashids, maxBytes⟩

section Base64

variable (decode : String → Option (List UInt8))

def TokenBatchReadBudget.retain (budget : TokenBatchReadBudget) (hashid data : String) : Res TokenBatchReadBudget := do
  validateTokenHashid hashid
  validateStorageEnvelope decode "tokens.data" data storageTokenEnvelopeMaxChars
  match budget.occurrences.lookup hashid with
  | none => .error (.internal "unexpected token batch row")
  | some count =>
    match (checkedMul data.utf8ByteSize count).bind (checkedSub budget.remaining) with
    | none => .error (.vectis .tokenDecodeBatchTooLarge)
    | some bytes => .ok { budget with remaining := bytes }

/-- The loop of both backends over the rows of the query, in the order they come. -/
def readRows (kid : String) : TokenBatchReadBudget → List (String × TokenRow) → List TokenRow →
    Res (List (String × TokenRow))
  | _, found, [] => .ok found
  | budget, found, row :: rows => do
    let budget ← budget.retain decode row.hashid row.data
    validateOptionalSubject row.subject
    readRows kid budget (mapInsert row.hashid { row with kid := kid } found) rows

/-- `get_tokens_batch` of a backend, on the rows its query returns. -/
def backendGetTokensBatch (backend : Backend) (rows : List TokenRow) (kid : String) (hashids : List String)
    (maxEnvelopeBytes : Nat) : Res (List (String × TokenRow)) :=
  if backend = .sqlite ∧ hashids.isEmpty then .ok []
  else readRows decode kid (.new hashids maxEnvelopeBytes) [] rows

/-- The loop of `resolve_tokens_in_request_order`; `none` is a panic. -/
def resolve : List (String × Nat) → List (String × TokenRow) → List String → Option (List (Option TokenRow))
  | _, _, [] => some []
  | occurrences, found, hashid :: hashids =>
    match occurrences.lookup hashid with
    | none | some 0 => none
    | some (remaining + 1) =>
      let found' := if remaining = 0 then mapRemove hashid found else found
      (resolve (mapInsert hashid remaining occurrences) found' hashids).map (found.lookup hashid :: ·)

def resolveTokensInRequestOrder (found : List (String × TokenRow)) (hashids : List String) :
    Option (List (Option TokenRow)) :=
  resolve (countHashids hashids) found hashids

/-- `StorageState::get_tokens_batch`; the map is iterated in any order, and a panic is shown as an error of its own. -/
def getTokensBatch (backend : Backend) (rows : List TokenRow) (kid : String) (hashids : List String)
    (maxEnvelopeBytes : Nat) : Res (List (Option TokenRow)) := do
  validateStorageKid "tokens.kid" kid
  hashids.forM validateTokenHashid
  let found ← backendGetTokensBatch decode backend rows kid hashids maxEnvelopeBytes
  (found.map Prod.snd).forM (validateTokenRow decode)
  match resolveTokensInRequestOrder found hashids with
  | none => .error (.other "hashid counted above")
  | some rows => .ok rows

end Base64

/-! ## Tables -/

/-- The rows the query of a batch selects. -/
def selected (table : TokenTable) (kid : String) (hashids : List String) : List TokenRow :=
  table.rows.filter fun row => row.kid = kid && hashids.contains row.hashid

/-- The row of a hash id. -/
def lookup (table : TokenTable) (kid hashid : String) : Option TokenRow :=
  table.rows.find? fun row => row.kid = kid && row.hashid = hashid

/-- The bytes of the requested rows, with repetitions. -/
def totalBytes (table : TokenTable) (kid : String) (hashids : List String) : Nat :=
  (hashids.map fun hashid => ((lookup table kid hashid).map fun row => row.data.utf8ByteSize).getD 0).sum

/-! ## Counts -/

theorem lookup_countHashids : ∀ {hashids : List String}, hashids.length < 2 ^ 64 → ∀ hashid,
    (countHashids hashids).lookup hashid = if hashid ∈ hashids then some (hashids.count hashid) else none := by
  intro hashids
  induction hashids using List.reverseRecOn with
  | nil => intro _ hashid; rfl
  | append_singleton hashids last ih =>
    intro hlen hashid
    rw [List.length_append, List.length_singleton] at hlen
    have ih := ih (by omega)
    have hcount : hashids.count last ≤ hashids.length := List.count_le_length
    have hlast : ((countHashids hashids).lookup last).getD 0 = hashids.count last := by
      rw [ih last]
      split
      · rfl
      · rename_i hnot
        simp [List.count_eq_zero_of_not_mem hnot]
    have hstep : countHashids (hashids ++ [last]) =
        mapInsert last (hashids.count last + 1) (countHashids hashids) := by
      rw [← hlast]
      unfold countHashids at hlast ⊢
      rw [List.foldl_append, List.foldl_cons, List.foldl_nil, Nat.mod_eq_of_lt]
      rw [hlast]
      omega
    rw [hstep, lookup_mapInsert, ih hashid]
    by_cases heq : hashid = last
    · simp [heq]
    · have heq' : last ≠ hashid := fun h => heq h.symm
      simp [heq, heq', List.count_append]

/-! ## Resolving -/

/-- The counts are those of the requests to come, and their rows are still at hand. -/
theorem resolve_of_counts : ∀ {hashids : List String} {occurrences : List (String × Nat)}
    {found : List (String × TokenRow)}, (∀ hashid ∈ hashids, occurrences.lookup hashid = some (hashids.count hashid)) →
    resolve occurrences found hashids = some (hashids.map fun hashid => found.lookup hashid)
  | [], _, _, _ => rfl
  | hashid :: hashids, occurrences, found, hcounts => by
    have hhead := hcounts hashid List.mem_cons_self
    rw [List.count_cons_self] at hhead
    have hcounts' : ∀ h ∈ hashids,
        (mapInsert hashid (hashids.count hashid) occurrences).lookup h = some (hashids.count h) := by
      intro h hmem
      rw [lookup_mapInsert]
      by_cases heq : h = hashid
      · simp [heq]
      · have heq' : hashid ≠ h := fun h' => heq h'.symm
        rw [if_neg heq, hcounts h (List.mem_cons_of_mem _ hmem), List.count_cons_of_ne heq']
    rw [resolve, hhead]
    simp only
    rw [resolve_of_counts hcounts', Option.map_some, List.map_cons]
    congr 2
    refine List.map_congr_left fun h hmem => ?_
    split
    · rename_i hzero
      have hne : h ≠ hashid := fun heq => List.count_eq_zero.mp hzero (heq ▸ hmem)
      exact lookup_mapRemove hne
    · rfl

theorem resolve_eq {hashids : List String} (hlen : hashids.length < 2 ^ 64) (found : List (String × TokenRow)) :
    resolveTokensInRequestOrder found hashids = some (hashids.map fun hashid => found.lookup hashid) :=
  resolve_of_counts fun hashid hmem => by rw [lookup_countHashids hlen, if_pos hmem]

/-! ## The budget -/

section Budget

variable {decode : String → Option (List UInt8)} {hashids : List String} {kid : String}

/-- What the loop checks of a row. -/
structure RowOk (decode : String → Option (List UInt8)) (row : TokenRow) : Prop where
  hashid : validateTokenHashid row.hashid = .ok ()
  data : validateStorageEnvelope decode "tokens.data" row.data storageTokenEnvelopeMaxChars = .ok ()
  subject : validateOptionalSubject row.subject = .ok ()

theorem rowOk_iff {row : TokenRow} (hkid : validateStorageKid "tokens.kid" row.kid = .ok ()) :
    validateTokenRow decode row = .ok () ↔ RowOk decode row := by
  rw [validateTokenRow, validateTokenFields, Loop.bind_unit_eq_ok, Loop.bind_unit_eq_ok, Loop.bind_unit_eq_ok]
  constructor
  · rintro ⟨hsubject, -, hhashid, hdata⟩
    exact ⟨hhashid, hdata, hsubject⟩
  · intro h
    exact ⟨h.subject, hkid, h.hashid, h.data⟩

/-- What a row takes from the budget. -/
def charge (hashids : List String) (row : TokenRow) : Nat := row.data.utf8ByteSize * hashids.count row.hashid

/-- Neither operation wraps: the budget is charged, or it does not suffice. -/
theorem checked_eq {remaining size count : Nat} (h : remaining < 2 ^ 64) :
    (checkedMul size count).bind (checkedSub remaining) =
      if size * count ≤ remaining then some (remaining - size * count) else none := by
  unfold checkedMul
  by_cases hmul : size * count < 2 ^ 64
  · rw [if_pos hmul]
    rfl
  · have hexceeds : ¬ size * count ≤ remaining := by omega
    rw [if_neg hmul, if_neg hexceeds]
    rfl

/-- A budget of the requests. -/
def budgetOf (hashids : List String) (remaining : Nat) : TokenBatchReadBudget := ⟨countHashids hashids, remaining⟩

theorem retain_of_ok (hlen : hashids.length < 2 ^ 64) {remaining : Nat} (hrem : remaining < 2 ^ 64) {row : TokenRow}
    (hrow : RowOk decode row) (hmem : row.hashid ∈ hashids) :
    (budgetOf hashids remaining).retain decode row.hashid row.data =
      if charge hashids row ≤ remaining then .ok (budgetOf hashids (remaining - charge hashids row))
      else .error (.vectis .tokenDecodeBatchTooLarge) := by
  unfold TokenBatchReadBudget.retain
  rw [hrow.hashid, hrow.data]
  simp only [bind, Except.bind, budgetOf, lookup_countHashids hlen, if_pos hmem, checked_eq hrem]
  by_cases hle : charge hashids row ≤ remaining
  · have hle' : row.data.utf8ByteSize * hashids.count row.hashid ≤ remaining := hle
    simp only [hle, hle', if_true]
    rfl
  · have hle' : ¬ row.data.utf8ByteSize * hashids.count row.hashid ≤ remaining := hle
    simp only [hle, hle', if_false]

/-- With rows that pass the checks, the loop ends iff the budget suffices for all of them. -/
theorem readRows_of_ok (hlen : hashids.length < 2 ^ 64) : ∀ (rows : List TokenRow) (remaining : Nat)
    (found : List (String × TokenRow)), remaining < 2 ^ 64 → (∀ row ∈ rows, RowOk decode row ∧ row.hashid ∈ hashids) →
    ((rows.map (charge hashids)).sum ≤ remaining →
      ∃ found', readRows decode kid (budgetOf hashids remaining) found rows = .ok found') ∧
    (remaining < (rows.map (charge hashids)).sum →
      readRows decode kid (budgetOf hashids remaining) found rows = .error (.vectis .tokenDecodeBatchTooLarge))
  | [], remaining, found, _, _ => by
    refine ⟨fun _ => ⟨found, rfl⟩, fun h => ?_⟩
    simp at h
  | row :: rows, remaining, found, hrem, hall => by
    obtain ⟨hrow, hmem⟩ := hall row List.mem_cons_self
    have hretain := retain_of_ok hlen hrem hrow hmem
    rw [List.map_cons, List.sum_cons]
    by_cases hle : charge hashids row ≤ remaining
    · have ih := readRows_of_ok hlen rows (remaining - charge hashids row)
        (mapInsert row.hashid { row with kid := kid } found) (by omega) fun r hr => hall r (List.mem_cons_of_mem _ hr)
      rw [if_pos hle] at hretain
      simp only [readRows, hretain, hrow.subject, bind, Except.bind]
      exact ⟨fun h => ih.1 (by omega), fun h => ih.2 (by omega)⟩
    · rw [if_neg hle] at hretain
      simp only [readRows, hretain, bind, Except.bind]
      exact ⟨fun h => by omega, fun _ => trivial⟩

/-- A row that was retained passed the checks and was paid. -/
theorem retain_ok (hlen : hashids.length < 2 ^ 64) {remaining : Nat} (hrem : remaining < 2 ^ 64) {row : TokenRow}
    {budget : TokenBatchReadBudget} (h : (budgetOf hashids remaining).retain decode row.hashid row.data = .ok budget) :
    validateTokenHashid row.hashid = .ok () ∧
      validateStorageEnvelope decode "tokens.data" row.data storageTokenEnvelopeMaxChars = .ok () ∧
      charge hashids row ≤ remaining ∧ budget = budgetOf hashids (remaining - charge hashids row) := by
  unfold TokenBatchReadBudget.retain at h
  obtain ⟨hhashid, h⟩ := Loop.bind_unit_eq_ok.mp h
  obtain ⟨hdata, h⟩ := Loop.bind_unit_eq_ok.mp h
  simp only [budgetOf, lookup_countHashids hlen, checked_eq hrem] at h
  by_cases hmem : row.hashid ∈ hashids
  · by_cases hle : charge hashids row ≤ remaining
    · have hle' : row.data.utf8ByteSize * hashids.count row.hashid ≤ remaining := hle
      simp only [hmem, hle', if_true] at h
      cases h
      exact ⟨hhashid, hdata, hle, rfl⟩
    · have hle' : ¬ row.data.utf8ByteSize * hashids.count row.hashid ≤ remaining := hle
      simp [hmem, hle'] at h
  · simp [hmem] at h

/-- The rows of a loop that ended passed the checks, and the map holds the last row of each hash id. -/
theorem readRows_ok (hlen : hashids.length < 2 ^ 64) : ∀ {rows : List TokenRow} {remaining : Nat}
    {found found' : List (String × TokenRow)}, remaining < 2 ^ 64 →
    readRows decode kid (budgetOf hashids remaining) found rows = .ok found' →
    (∀ row ∈ rows, RowOk decode row) ∧ (rows.map (charge hashids)).sum ≤ remaining ∧
    (∀ entry ∈ found', entry ∈ found ∨ ∃ row ∈ rows, entry.2 = { row with kid := kid }) ∧
    ∀ hashid, found'.lookup hashid =
      ((rows.reverse.find? fun row => row.hashid = hashid).map fun row => { row with kid := kid }).or
        (found.lookup hashid)
  | [], remaining, found, found', _, h => by
    cases h
    simp
  | row :: rows, remaining, found, found', hrem, h => by
    obtain ⟨budget, hretain, h⟩ := Loop.bind_eq_ok.mp h
    obtain ⟨hsubject, h⟩ := Loop.bind_unit_eq_ok.mp h
    obtain ⟨hhashid, hdata, hle, rfl⟩ := retain_ok hlen hrem hretain
    obtain ⟨hrows, hsum, hentries, hlookup⟩ := readRows_ok hlen (by omega) h
    refine ⟨?_, ?_, ?_, ?_⟩
    · exact List.forall_mem_cons.mpr ⟨⟨hhashid, hdata, hsubject⟩, hrows⟩
    · rw [List.map_cons, List.sum_cons]
      omega
    · intro entry hentry
      rcases hentries entry hentry with hmem | ⟨r, hr, heq⟩
      · rcases List.mem_cons.mp hmem with rfl | hmem
        · exact .inr ⟨row, List.mem_cons_self, rfl⟩
        · exact .inl (List.mem_of_mem_filter hmem)
      · exact .inr ⟨r, List.mem_cons_of_mem _ hr, heq⟩
    · intro hashid
      rw [hlookup, lookup_mapInsert, List.reverse_cons, List.find?_append]
      cases rows.reverse.find? fun row => row.hashid = hashid with
      | some r => simp
      | none =>
        by_cases heq : row.hashid = hashid
        · simp [heq]
        · have heq' : ¬ hashid = row.hashid := fun h => heq h.symm
          simp [heq, heq']

/-! ## Failures -/

def tooLarge : DynError := .vectis .tokenDecodeBatchTooLarge

theorem bind_unit_eq_tooLarge {α : Type} {x : Res Unit} {f : Unit → Res α} (hx : x ≠ .error tooLarge)
    (h : (x >>= f) = .error tooLarge) : x = .ok () ∧ f () = .error tooLarge := by
  cases x with
  | error e => cases h; exact absurd rfl hx
  | ok u => exact ⟨rfl, h⟩

theorem validateHash_ne_tooLarge {field value : String} :
    validateHashHexField field value internalKeysHash ≠ .error tooLarge := by
  have halg : validateAllowedValue "hash_algorithm" internalKeysHash hashAlgorithms = .ok () := rfl
  have hsize : hashOutputSizeBytes internalKeysHash = some 32 := by decide
  intro h
  simp only [validateHashHexField, halg, hsize, bind, Except.bind] at h
  split at h
  · rename_i e he
    unfold validateHexField at he
    split at he
    · cases he; cases h
    · split at he
      · cases he; cases h
      · split at he
        · cases he; cases h
        · cases he
  · split at h
    · cases h
    · cases h

theorem validateStorageEnvelope_ne_tooLarge {field value : String} {maxChars : Nat} :
    validateStorageEnvelope decode field value maxChars ≠ .error tooLarge := by
  intro h
  simp only [validateStorageEnvelope, validateBase64StandardEnvelopeSegments, splitBase64StandardEnvelopeSegments, bind,
    Except.bind, Except.map] at h
  split at h
  · rename_i e he
    split at he
    · rename_i e' he'
      split at he'
      · cases he'; cases he; cases h
      · split at he'
        · cases he'; cases he; cases h
        · split at he'
          · cases he'; cases he; cases h
          · split at he'
            · split at he'
              · cases he'; cases he; cases h
              · cases he'
            · cases he'; cases he; cases h
    · split at he
      · cases he
      · cases he; cases h
  · cases h

theorem validateOptionalSubject_ne_tooLarge {subject : Option String} :
    validateOptionalSubject subject ≠ .error tooLarge := by
  intro h
  cases subject with
  | none => cases h
  | some subject =>
    rw [validateOptionalSubject, validateSubject] at h
    split at h
    · cases h
    · cases h

theorem retain_tooLarge (hlen : hashids.length < 2 ^ 64) {remaining : Nat} (hrem : remaining < 2 ^ 64) {row : TokenRow}
    (h : (budgetOf hashids remaining).retain decode row.hashid row.data = .error tooLarge) :
    remaining < charge hashids row := by
  unfold TokenBatchReadBudget.retain at h
  obtain ⟨-, h⟩ := bind_unit_eq_tooLarge validateHash_ne_tooLarge h
  obtain ⟨-, h⟩ := bind_unit_eq_tooLarge validateStorageEnvelope_ne_tooLarge h
  simp only [budgetOf, lookup_countHashids hlen, checked_eq hrem] at h
  by_cases hmem : row.hashid ∈ hashids
  · by_cases hle : row.data.utf8ByteSize * hashids.count row.hashid ≤ remaining
    · simp [hmem, hle] at h
    · exact Nat.lt_of_not_le hle
  · simp [hmem, tooLarge, DynError.internal] at h

/-- The loop fails as too large only when the rows take more than the budget. -/
theorem readRows_tooLarge (hlen : hashids.length < 2 ^ 64) : ∀ {rows : List TokenRow} {remaining : Nat}
    {found : List (String × TokenRow)}, remaining < 2 ^ 64 →
    readRows decode kid (budgetOf hashids remaining) found rows = .error tooLarge →
    remaining < (rows.map (charge hashids)).sum
  | [], _, _, _, h => by cases h
  | row :: rows, remaining, found, hrem, h => by
    rw [List.map_cons, List.sum_cons]
    rw [readRows] at h
    cases hretain : (budgetOf hashids remaining).retain decode row.hashid row.data with
    | error e =>
      rw [hretain] at h
      cases h
      have := retain_tooLarge hlen hrem hretain
      omega
    | ok budget =>
      obtain ⟨-, -, hle, rfl⟩ := retain_ok hlen hrem hretain
      rw [hretain] at h
      obtain ⟨-, h⟩ := bind_unit_eq_tooLarge validateOptionalSubject_ne_tooLarge h
      have := readRows_tooLarge hlen (by omega) h
      omega

end Budget

/-! ## Charges and requests -/

section Charges

variable {rows : List TokenRow}

def sizeOf (rows : List TokenRow) (hashid : String) : Nat :=
  ((rows.find? fun row => row.hashid = hashid).map fun row => row.data.utf8ByteSize).getD 0

/-- Among rows with distinct hash ids, the bytes of those with one hash id are those of the row found. -/
theorem sum_indicator (hashid : String) : ∀ {rows : List TokenRow}, (rows.map TokenRow.hashid).Nodup →
    (rows.map fun row => if row.hashid = hashid then row.data.utf8ByteSize else 0).sum = sizeOf rows hashid
  | [], _ => rfl
  | row :: rows, hnodup => by
    rw [List.map_cons, List.nodup_cons] at hnodup
    obtain ⟨hnot, hnodup⟩ := hnodup
    rw [List.map_cons, List.sum_cons, sum_indicator hashid hnodup, sizeOf, sizeOf, List.find?_cons]
    by_cases heq : row.hashid = hashid
    · have hnone : (rows.find? fun row => row.hashid = hashid) = none := by
        rw [List.find?_eq_none]
        intro r hr hr'
        have hr' : r.hashid = hashid := by simpa using hr'
        exact hnot (List.mem_map.mpr ⟨r, hr, hr'.trans heq.symm⟩)
      simp [heq, hnone]
    · simp [heq]

/-- Each request adds the row it finds. -/
theorem sum_charge : ∀ (hashids : List String), (rows.map TokenRow.hashid).Nodup →
    (rows.map (charge hashids)).sum = (hashids.map (sizeOf rows)).sum
  | [], _ => by
    have hzero : charge [] = fun _ => 0 := funext fun row => by simp [charge]
    simp [hzero]
  | hashid :: hashids, hnodup => by
    rw [List.map_cons, List.sum_cons, ← sum_charge hashids hnodup, ← sum_indicator hashid hnodup, ← List.sum_map_add]
    congr 1
    refine List.map_congr_left fun row _ => ?_
    by_cases heq : row.hashid = hashid
    · subst heq
      simp only [charge, List.count_cons_self, if_true]
      ring
    · have heq' : hashid ≠ row.hashid := fun h => heq h.symm
      simp [charge, heq, List.count_cons_of_ne heq']

/-- Rows that are not requested take nothing. -/
theorem sum_charge_filter (hashids : List String) : ∀ rows : List TokenRow,
    ((rows.filter fun row => hashids.contains row.hashid).map (charge hashids)).sum = (rows.map (charge hashids)).sum
  | [] => rfl
  | row :: rows => by
    rw [List.map_cons, List.sum_cons, ← sum_charge_filter hashids rows, List.filter_cons]
    by_cases hmem : row.hashid ∈ hashids
    · simp [hmem]
    · have hzero : charge hashids row = 0 := by simp [charge, List.count_eq_zero_of_not_mem hmem]
      simp [hmem, hzero]

end Charges

/-! ## Batch reads and single reads -/

section Reads

variable {decode : String → Option (List UInt8)} {table : TokenTable} {kid : String} {hashids : List String}
  {stream : List TokenRow}

theorem mem_selected {row : TokenRow} : row ∈ selected table kid hashids ↔
    row ∈ table.rows ∧ row.kid = kid ∧ row.hashid ∈ hashids := by
  simp [selected]

theorem lookup_eq_some {hashid : String} {row : TokenRow} : lookup table kid hashid = some row ↔
    row ∈ table.rows ∧ row.kid = kid ∧ row.hashid = hashid := by
  constructor
  · intro h
    exact ⟨List.mem_of_find?_eq_some h, by simpa using List.find?_some h⟩
  · rintro ⟨hmem, hkid, hhashid⟩
    cases hfind : lookup table kid hashid with
    | none =>
      have := List.find?_eq_none.mp hfind row hmem
      simp [hkid, hhashid] at this
    | some row' =>
      have hmem' := List.mem_of_find?_eq_some hfind
      have hkey : row'.kid = kid ∧ row'.hashid = hashid := by simpa using List.find?_some hfind
      have heq : row' = row := TokenTable.eq_of_key hmem' hmem (by simp [TokenRow.key, hkey, hkid, hhashid])
      rw [heq]

/-- The rows of one kid have distinct hash ids. -/
theorem nodup_hashids (table : TokenTable) (kid : String) :
    ((table.rows.filter fun row => row.kid = kid).map TokenRow.hashid).Nodup := by
  have hkeys : ((table.rows.filter fun row => row.kid = kid).map TokenRow.key).Nodup :=
    table.pk.sublist (List.filter_sublist.map _)
  rw [List.nodup_map_iff_inj_on (List.Nodup.filter _ table.nodup)] at hkeys ⊢
  intro row hrow row' hrow' heq
  refine hkeys row hrow row' hrow' ?_
  have hkid : row.kid = kid := by simpa using (List.mem_filter.mp hrow).2
  have hkid' : row'.kid = kid := by simpa using (List.mem_filter.mp hrow').2
  rw [TokenRow.key, TokenRow.key, hkid, hkid', heq]

/-- What the rows take from the budget is the sum over the requests, in any order of the rows. -/
theorem charge_eq_total (hstream : stream.Perm (selected table kid hashids)) :
    (stream.map (charge hashids)).sum = totalBytes table kid hashids := by
  have hselected : selected table kid hashids =
      (table.rows.filter fun row => row.kid = kid).filter fun row => hashids.contains row.hashid := by
    rw [selected, List.filter_filter]
    simp only [Bool.and_comm]
  have hlookup : ∀ hashid, sizeOf (table.rows.filter fun row => row.kid = kid) hashid =
      ((lookup table kid hashid).map fun row => row.data.utf8ByteSize).getD 0 := by
    intro hashid
    rw [sizeOf, lookup, List.find?_filter]
    simp only [Bool.decide_and, Bool.decide_eq_true]
  rw [(hstream.map _).sum_eq, hselected, sum_charge_filter, sum_charge hashids (nodup_hashids table kid), totalBytes]
  exact congrArg List.sum (List.map_congr_left fun hashid _ => hlookup hashid)

/-- The map of the rows, whatever their order, holds the row of each request. -/
theorem find_stream (hstream : stream.Perm (selected table kid hashids)) {hashid : String} (hmem : hashid ∈ hashids) :
    ((stream.reverse.find? fun row => row.hashid = hashid).map fun row => { row with kid := kid }) =
      lookup table kid hashid := by
  cases hfind : stream.reverse.find? fun row => row.hashid = hashid with
  | none =>
    cases hlookup : lookup table kid hashid with
    | none => rfl
    | some row =>
      obtain ⟨hrow, hkid, hhashid⟩ := lookup_eq_some.mp hlookup
      have hin : row ∈ stream.reverse := List.mem_reverse.mpr
        (hstream.mem_iff.mpr (mem_selected.mpr ⟨hrow, hkid, hhashid ▸ hmem⟩))
      have := List.find?_eq_none.mp hfind row hin
      simp [hhashid] at this
  | some row =>
    have hin := hstream.mem_iff.mp (List.mem_reverse.mp (List.mem_of_find?_eq_some hfind))
    obtain ⟨hrow, hkid, -⟩ := mem_selected.mp hin
    have hhashid : row.hashid = hashid := by simpa using List.find?_some hfind
    rw [lookup_eq_some.mpr ⟨hrow, hkid, hhashid⟩, Option.map_some, ← hkid]

/-- The checks of a batch: on the kid, the hash ids and the rows found. -/
structure Readable (decode : String → Option (List UInt8)) (table : TokenTable) (kid : String) (hashids : List String) :
    Prop where
  kidOk : validateStorageKid "tokens.kid" kid = .ok ()
  hashidsOk : ∀ hashid ∈ hashids, validateTokenHashid hashid = .ok ()
  rowsOk : ∀ row ∈ selected table kid hashids, validateTokenRow decode row = .ok ()

/-- What a single read of a hash id gives: the row, or that there is none. -/
def SingleRead (decode : String → Option (List UInt8)) (table : TokenTable) (kid hashid : String) :
    Option TokenRow → Prop
  | some row => getToken decode table kid hashid = .ok row
  | none => getToken decode table kid hashid = .error (.notFound "token not found")

theorem singleRead_lookup (hread : Readable decode table kid hashids) {hashid : String} (hmem : hashid ∈ hashids) :
    SingleRead decode table kid hashid (lookup table kid hashid) := by
  cases hlookup : lookup table kid hashid with
  | none =>
    have hfind : (table.rows.find? fun row => row.kid = kid && row.hashid = hashid) = none := hlookup
    have hget : getToken decode table kid hashid = .error (.notFound "token not found") := by
      rw [getToken, hread.kidOk, hread.hashidsOk hashid hmem, hfind]
      rfl
    exact hget
  | some row =>
    obtain ⟨hrow, hkid, hhashid⟩ := lookup_eq_some.mp hlookup
    have hrowOk := hread.rowsOk row (mem_selected.mpr ⟨hrow, hkid, hhashid ▸ hmem⟩)
    have hfind : (table.rows.find? fun row => row.kid = kid && row.hashid = hashid) = some row := hlookup
    have hget : getToken decode table kid hashid = .ok row := by
      rw [getToken, hread.kidOk, hread.hashidsOk hashid hmem, hfind]
      simp only [hrowOk]
      rfl
    exact hget

/-- The rows streamed are as in the table, and so are their checks. -/
theorem readable_stream (hstream : stream.Perm (selected table kid hashids))
    (hkid : validateStorageKid "tokens.kid" kid = .ok ()) :
    (∀ row ∈ selected table kid hashids, validateTokenRow decode row = .ok ()) ↔ ∀ row ∈ stream, RowOk decode row := by
  have hiff : ∀ row ∈ selected table kid hashids, (validateTokenRow decode row = .ok () ↔ RowOk decode row) := by
    intro row hrow
    refine rowOk_iff ?_
    rw [(mem_selected.mp hrow).2.1]
    exact hkid
  constructor
  · exact fun h row hrow => (hiff row (hstream.mem_iff.mp hrow)).mp (h row (hstream.mem_iff.mp hrow))
  · exact fun h row hrow => (hiff row hrow).mpr (h row (hstream.mem_iff.mpr hrow))

/-- A backend reads the rows streamed; there are none without requests. -/
theorem backend_eq (backend : Backend) (hstream : stream.Perm (selected table kid hashids)) (maxEnvelopeBytes : Nat) :
    backendGetTokensBatch decode backend stream kid hashids maxEnvelopeBytes =
      readRows decode kid (budgetOf hashids maxEnvelopeBytes) [] stream := by
  unfold backendGetTokensBatch
  split
  · rename_i hempty
    have hnil : hashids = [] := List.isEmpty_iff.mp hempty.2
    have hstream' : stream = [] := by
      rw [hnil] at hstream
      have hnone : selected table kid [] = [] := by simp [selected]
      rw [hnone] at hstream
      exact List.Perm.eq_nil hstream
    rw [hstream']
    rfl
  · rfl

variable {maxEnvelopeBytes : Nat}

/-- What a batch read that succeeds returns. -/
theorem getTokensBatch_ok {backend : Backend} (hstream : stream.Perm (selected table kid hashids))
    (hlen : hashids.length < 2 ^ 64) (hmax : maxEnvelopeBytes < 2 ^ 64) {rows : List (Option TokenRow)}
    (h : getTokensBatch decode backend stream kid hashids maxEnvelopeBytes = .ok rows) :
    Readable decode table kid hashids ∧ totalBytes table kid hashids ≤ maxEnvelopeBytes ∧
      rows = hashids.map (lookup table kid) := by
  obtain ⟨hkid, h⟩ := Loop.bind_unit_eq_ok.mp h
  obtain ⟨hhashids, h⟩ := Loop.bind_unit_eq_ok.mp h
  obtain ⟨found, hfound, h⟩ := Loop.bind_eq_ok.mp h
  obtain ⟨-, h⟩ := Loop.bind_unit_eq_ok.mp h
  rw [backend_eq backend hstream] at hfound
  obtain ⟨hrows, hsum, -, hlookup⟩ := readRows_ok hlen hmax hfound
  rw [resolve_eq hlen] at h
  cases h
  refine ⟨⟨hkid, Loop.forM_eq_ok.mp hhashids, (readable_stream hstream hkid).mpr hrows⟩, ?_, ?_⟩
  · rw [← charge_eq_total hstream]
    exact hsum
  · refine List.map_congr_left fun hashid hmem => ?_
    rw [hlookup, List.lookup_nil, Option.or_none, find_stream hstream hmem]

/-- When all checks pass, only the budget decides. -/
theorem getTokensBatch_of_readable (backend : Backend) (hstream : stream.Perm (selected table kid hashids))
    (hlen : hashids.length < 2 ^ 64) (hmax : maxEnvelopeBytes < 2 ^ 64) (hread : Readable decode table kid hashids) :
    (totalBytes table kid hashids ≤ maxEnvelopeBytes →
      ∃ rows, getTokensBatch decode backend stream kid hashids maxEnvelopeBytes = .ok rows) ∧
    (maxEnvelopeBytes < totalBytes table kid hashids →
      getTokensBatch decode backend stream kid hashids maxEnvelopeBytes = .error tooLarge) := by
  have hrows := (readable_stream hstream hread.kidOk).mp hread.rowsOk
  have hall : ∀ row ∈ stream, RowOk decode row ∧ row.hashid ∈ hashids := fun row hrow =>
    ⟨hrows row hrow, (mem_selected.mp (hstream.mem_iff.mp hrow)).2.2⟩
  have hloop := @readRows_of_ok decode hashids kid hlen stream maxEnvelopeBytes [] hmax hall
  rw [charge_eq_total hstream, ← backend_eq backend hstream] at hloop
  have hfirst : getTokensBatch decode backend stream kid hashids maxEnvelopeBytes = (do
      let found ← backendGetTokensBatch decode backend stream kid hashids maxEnvelopeBytes
      (found.map Prod.snd).forM (validateTokenRow decode)
      match resolveTokensInRequestOrder found hashids with
      | none => .error (.other "hashid counted above")
      | some rows => .ok rows) := by
    rw [getTokensBatch, hread.kidOk, Loop.forM_eq_ok.mpr hread.hashidsOk]
    rfl
  constructor
  · intro hle
    obtain ⟨found, hfound⟩ := hloop.1 hle
    have hvalues : (found.map Prod.snd).forM (validateTokenRow decode) = .ok () := by
      rw [backend_eq backend hstream] at hfound
      obtain ⟨-, -, hentries, -⟩ := readRows_ok hlen hmax hfound
      rw [Loop.forM_eq_ok]
      intro row hrow
      obtain ⟨entry, hentry, rfl⟩ := List.mem_map.mp hrow
      rcases hentries entry hentry with hnil | ⟨row, hrow, heq⟩
      · cases hnil
      · have hkid : row.kid = kid := (mem_selected.mp (hstream.mem_iff.mp hrow)).2.1
        have hsame : entry.2 = row := by rw [heq, ← hkid]
        rw [hsame]
        exact hread.rowsOk row (hstream.mem_iff.mp hrow)
    refine ⟨hashids.map fun hashid => found.lookup hashid, ?_⟩
    rw [hfirst, hfound]
    simp only [bind, Except.bind, hvalues, resolve_eq hlen]
  · intro hlt
    rw [hfirst, hloop.2 hlt]
    rfl

theorem validateTokenRow_ne_tooLarge {row : TokenRow} : validateTokenRow decode row ≠ .error tooLarge := by
  intro h
  obtain ⟨-, h⟩ := bind_unit_eq_tooLarge validateOptionalSubject_ne_tooLarge h
  obtain ⟨-, h⟩ := bind_unit_eq_tooLarge validateHash_ne_tooLarge h
  obtain ⟨-, h⟩ := bind_unit_eq_tooLarge validateHash_ne_tooLarge h
  exact validateStorageEnvelope_ne_tooLarge h

theorem forM_ne_tooLarge {α : Type} {f : α → Res Unit} (hf : ∀ a, f a ≠ .error tooLarge) : ∀ l : List α,
    l.forM f ≠ .error tooLarge
  | [], h => by cases h
  | a :: l, h => by
    obtain ⟨-, h⟩ := bind_unit_eq_tooLarge (hf a) h
    exact forM_ne_tooLarge hf l h

/-- A batch read fails as too large only when the requested rows exceed the budget. -/
theorem getTokensBatch_tooLarge {backend : Backend} (hstream : stream.Perm (selected table kid hashids))
    (hlen : hashids.length < 2 ^ 64) (hmax : maxEnvelopeBytes < 2 ^ 64)
    (h : getTokensBatch decode backend stream kid hashids maxEnvelopeBytes = .error tooLarge) :
    maxEnvelopeBytes < totalBytes table kid hashids := by
  obtain ⟨-, h⟩ := bind_unit_eq_tooLarge validateHash_ne_tooLarge h
  obtain ⟨-, h⟩ := bind_unit_eq_tooLarge (forM_ne_tooLarge (fun _ => validateHash_ne_tooLarge) hashids) h
  cases hfound : backendGetTokensBatch decode backend stream kid hashids maxEnvelopeBytes with
  | error e =>
    rw [hfound] at h
    cases h
    rw [backend_eq backend hstream] at hfound
    rw [← charge_eq_total hstream]
    exact readRows_tooLarge hlen hmax hfound
  | ok found =>
    rw [hfound] at h
    obtain ⟨-, h⟩ := bind_unit_eq_tooLarge (forM_ne_tooLarge (fun _ => validateTokenRow_ne_tooLarge) _) h
    rw [resolve_eq hlen] at h
    cases h

/-- **Batch reads**: for every table, kid, list of hash ids and budget, in every order the backend returns the rows, a
batch read succeeds exactly when its checks pass and the requested bytes, with repetitions, fit the budget, fails as too
large only when they do not, and gives at each position what a single read gives. -/
theorem getTokensBatch_reads (backend : Backend) (hstream : stream.Perm (selected table kid hashids))
    (hlen : hashids.length < 2 ^ 64) (hmax : maxEnvelopeBytes < 2 ^ 64) :
    (Readable decode table kid hashids → (getTokensBatch decode backend stream kid hashids maxEnvelopeBytes =
      .error tooLarge ↔ maxEnvelopeBytes < totalBytes table kid hashids)) ∧
    (getTokensBatch decode backend stream kid hashids maxEnvelopeBytes = .error tooLarge →
      maxEnvelopeBytes < totalBytes table kid hashids) ∧
    ((∃ rows, getTokensBatch decode backend stream kid hashids maxEnvelopeBytes = .ok rows) ↔
      Readable decode table kid hashids ∧ totalBytes table kid hashids ≤ maxEnvelopeBytes) ∧
    ∀ rows, getTokensBatch decode backend stream kid hashids maxEnvelopeBytes = .ok rows →
      rows.length = hashids.length ∧ ∀ (i : Nat) hashid, hashids[i]? = some hashid →
        rows[i]? = some (lookup table kid hashid) ∧ SingleRead decode table kid hashid (lookup table kid hashid) := by
  refine ⟨fun hread => ⟨getTokensBatch_tooLarge hstream hlen hmax, ?_⟩, getTokensBatch_tooLarge hstream hlen hmax,
    ⟨?_, ?_⟩, ?_⟩
  · exact (getTokensBatch_of_readable backend hstream hlen hmax hread).2
  · rintro ⟨rows, h⟩
    obtain ⟨hread, hle, -⟩ := getTokensBatch_ok hstream hlen hmax h
    exact ⟨hread, hle⟩
  · rintro ⟨hread, hle⟩
    exact (getTokensBatch_of_readable backend hstream hlen hmax hread).1 hle
  · intro rows h
    obtain ⟨hread, -, rfl⟩ := getTokensBatch_ok hstream hlen hmax h
    refine ⟨List.length_map _, fun i hashid hi => ⟨?_, ?_⟩⟩
    · rw [List.getElem?_map, hi, Option.map_some]
    · exact singleRead_lookup hread (List.mem_of_getElem? hi)

/-! ## The reads of `Tokens` -/

theorem retainRows_ok_iff : ∀ {rows : List TokenRow} {remaining : Nat}, retainRows decode hashids remaining rows =
    .ok () ↔
    (∀ row ∈ rows, RowOk decode row ∧ row.hashid ∈ hashids) ∧ (rows.map (charge hashids)).sum ≤ remaining
  | [], remaining => by simp [retainRows]
  | row :: rows, remaining => by
    rw [retainRows, Loop.bind_eq_ok, List.forall_mem_cons, List.map_cons, List.sum_cons]
    constructor
    · rintro ⟨remaining', hretain, h⟩
      obtain ⟨hsubject, h⟩ := Loop.bind_unit_eq_ok.mp h
      obtain ⟨hhashid, hretain⟩ := Loop.bind_unit_eq_ok.mp hretain
      obtain ⟨hdata, hretain⟩ := Loop.bind_unit_eq_ok.mp hretain
      obtain ⟨hmem, hretain⟩ := Loop.guard_eq_ok.mp hretain
      obtain ⟨hle, hretain⟩ := Loop.guard_eq_ok.mp hretain
      cases hretain
      obtain ⟨hrows, hsum⟩ := retainRows_ok_iff.mp h
      have hle' : charge hashids row ≤ remaining := Nat.le_of_not_lt hle
      refine ⟨⟨⟨⟨hhashid, hdata, hsubject⟩, Classical.not_not.mp hmem⟩, hrows⟩, ?_⟩
      rw [show row.data.utf8ByteSize * hashids.count row.hashid = charge hashids row from rfl] at hsum
      omega
    · rintro ⟨⟨⟨hrow, hmem⟩, hrows⟩, hsum⟩
      have hle : charge hashids row ≤ remaining := by omega
      refine ⟨remaining - charge hashids row, ?_, ?_⟩
      · refine Loop.bind_unit_eq_ok.mpr ⟨hrow.hashid, Loop.bind_unit_eq_ok.mpr ⟨hrow.data, ?_⟩⟩
        refine Loop.guard_eq_ok.mpr ⟨fun h => h hmem, Loop.guard_eq_ok.mpr ⟨?_, rfl⟩⟩
        exact Nat.not_lt.mpr hle
      · refine Loop.bind_unit_eq_ok.mpr ⟨hrow.subject, retainRows_ok_iff.mpr ⟨hrows, ?_⟩⟩
        omega

theorem find_selected {hashid : String} (hmem : hashid ∈ hashids) :
    ((selected table kid hashids).find? fun row => row.hashid = hashid) = lookup table kid hashid := by
  rw [selected, List.find?_filter, lookup]
  congr 1
  funext row
  by_cases heq : row.hashid = hashid
  · simp [heq, hmem]
  · simp [heq]

/-- The model of `Tokens`, which reads in the order of the table and without a map, gives the same rows. -/
theorem getTokensBatch_eq_ok_iff (backend : Backend) (hstream : stream.Perm (selected table kid hashids))
    (hlen : hashids.length < 2 ^ 64) (hmax : maxEnvelopeBytes < 2 ^ 64) (rows : List (Option TokenRow)) :
    getTokensBatch decode backend stream kid hashids maxEnvelopeBytes = .ok rows ↔
      Storage.getTokensBatch decode table kid hashids maxEnvelopeBytes = .ok rows := by
  have hspec : Storage.getTokensBatch decode table kid hashids maxEnvelopeBytes = .ok rows ↔
      (Readable decode table kid hashids ∧ totalBytes table kid hashids ≤ maxEnvelopeBytes) ∧
        rows = hashids.map (lookup table kid) := by
    rw [Storage.getTokensBatch, Loop.bind_unit_eq_ok, Loop.bind_unit_eq_ok, Loop.bind_unit_eq_ok, Loop.bind_unit_eq_ok,
      Loop.forM_eq_ok, Loop.forM_eq_ok, ← selected, retainRows_ok_iff, charge_eq_total (List.Perm.refl _),
      resolveTokensInRequestOrder_eq,
      List.map_congr_left fun hashid hmem => find_selected hmem, Except.ok.injEq]
    constructor
    · rintro ⟨hkid, hhashids, ⟨-, hsum⟩, hrows, heq⟩
      exact ⟨⟨⟨hkid, hhashids, hrows⟩, hsum⟩, heq.symm⟩
    · rintro ⟨⟨hread, hle⟩, heq⟩
      have hrows := (readable_stream (List.Perm.refl _) hread.kidOk).mp hread.rowsOk
      exact ⟨hread.kidOk, hread.hashidsOk, ⟨fun row hrow => ⟨hrows row hrow, (mem_selected.mp hrow).2.2⟩, hle⟩,
        hread.rowsOk, heq.symm⟩
  rw [hspec]
  constructor
  · intro h
    obtain ⟨hread, hle, hrows⟩ := getTokensBatch_ok hstream hlen hmax h
    exact ⟨⟨hread, hle⟩, hrows⟩
  · rintro ⟨⟨hread, hle⟩, rfl⟩
    obtain ⟨rows, h⟩ := (getTokensBatch_of_readable backend hstream hlen hmax hread).1 hle
    rw [h, (getTokensBatch_ok hstream hlen hmax h).2.2]

end Reads

/-! ## Examples -/

def exampleKid : String := "aaaaaaaaaaaaaaaaaaaaaaaaaaaaaaaaaaaaaaaaaaaaaaaaaaaaaaaaaaaaaaaa"

def exampleRow : TokenRow where
  kid := exampleKid
  hashid := "bbbbbbbbbbbbbbbbbbbbbbbbbbbbbbbbbbbbbbbbbbbbbbbbbbbbbbbbbbbbbbbb"
  data := "YQ==.YQ==.YQ=="
  subject := none

def exampleTable : TokenTable := ⟨[exampleRow], by simp⟩

def exampleDecode (text : String) : Option (List UInt8) := Base64.decodeStandard text.toList

/-- A hash id requested twice, with a budget for both. -/
theorem getTokensBatch_reads_example : totalBytes exampleTable exampleKid [exampleRow.hashid, exampleRow.hashid] = 28 ∧
    ∃ rows, getTokensBatch exampleDecode .postgres [exampleRow] exampleKid [exampleRow.hashid, exampleRow.hashid] 28 =
      .ok rows ∧ rows[1]? = some (lookup exampleTable exampleKid exampleRow.hashid) := by
  have htotal : totalBytes exampleTable exampleKid [exampleRow.hashid, exampleRow.hashid] = 28 := by rfl
  have hstream : [exampleRow].Perm (selected exampleTable exampleKid [exampleRow.hashid, exampleRow.hashid]) := by
    have hselected : selected exampleTable exampleKid [exampleRow.hashid, exampleRow.hashid] = [exampleRow] := by
      rfl
    rw [hselected]
  have hread : Readable exampleDecode exampleTable exampleKid [exampleRow.hashid, exampleRow.hashid] := by
    have hkid : ∀ field, validateHashHexField field exampleKid internalKeysHash = .ok () :=
      validateInternalHash_replicate (c := 'a') (by decide)
    have hhashid : validateTokenHashid exampleRow.hashid = .ok () :=
      validateInternalHash_replicate (c := 'b') (by decide) _
    refine ⟨hkid _, by simp [hhashid], fun row hrow => ?_⟩
    rw [List.mem_singleton.mp (hstream.mem_iff.mpr hrow)]
    exact (@rowOk_iff exampleDecode exampleRow (hkid _)).mpr ⟨hhashid, by rfl, rfl⟩
  obtain ⟨-, -, hok, hrows⟩ := getTokensBatch_reads .postgres hstream (by simp) (by decide : 28 < 2 ^ 64)
  obtain ⟨rows, h⟩ := hok.mpr ⟨hread, Nat.le_of_eq htotal⟩
  exact ⟨htotal, rows, h, ((hrows rows h).2 1 _ rfl).1⟩

/-- A text that is no hash id is refused, though nothing is read for it. -/
theorem getTokensBatch_invalid_hashid : totalBytes exampleTable exampleKid ["x"] ≤ 28 ∧
    ¬ ∃ rows, getTokensBatch exampleDecode .postgres [] exampleKid ["x"] 28 = .ok rows := by
  refine ⟨by decide, ?_⟩
  rintro ⟨rows, h⟩
  obtain ⟨-, h⟩ := Loop.bind_unit_eq_ok.mp h
  obtain ⟨h, -⟩ := Loop.bind_unit_eq_ok.mp h
  have hhashid := Loop.forM_eq_ok.mp h "x" List.mem_cons_self
  exact absurd (validateInternalHash_ok_iff.mp hhashid).1 (by decide)

end TokenBatch

end Vectis.Core.Storage
