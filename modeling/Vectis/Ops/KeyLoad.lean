import Vectis.Ops.Keys
import Vectis.Lib.Base64
import Vectis.Lib.Run
import Mathlib.Data.List.Nodup

/-!
# Loading the keys

`load_keys_db_state` (`ops/keys.rs`): the rows of the key table are listed, and loaded by concurrent tasks of which a
bounded number is pending. The tasks end in any order, and each of them may panic or be cancelled.

- `joinNext`: one turn of the loop, where a pending task ends;
- `loadInv_joinNext`, `loadInv_run`: what is loaded belongs to the ended tasks, in every order;
- `keys_load_resilient_iff`: exactly the good rows are loaded, when every row passes the checks of the listing.
-/

namespace Vectis.Ops.Keys

open Core.Storage Core.Validation

variable {K : Type}

/-! ## The loop -/

/-- How a task ends: with the result of the loader, or with an error of the join. -/
inductive TaskEnd
  | returned
  | panicked
  | cancelled
  | lost
  deriving DecidableEq, Repr

inductive KeyLoadFailureReason
  | decryptOrValidate
  | taskPanic
  | taskCancelled
  | taskJoin
  deriving DecidableEq, Repr

structure KeysLoadSummary where
  total : Nat
  loaded : Nat
  decryptOrValidateFailed : Nat
  taskPanicked : Nat
  taskCancelled : Nat
  taskJoinFailed : Nat
  deriving DecidableEq, Repr

namespace KeysLoadSummary

def skipped (summary : KeysLoadSummary) : Nat :=
  summary.decryptOrValidateFailed + summary.taskPanicked + summary.taskCancelled + summary.taskJoinFailed

def recordFailure (summary : KeysLoadSummary) : KeyLoadFailureReason → KeysLoadSummary
  | .decryptOrValidate => { summary with decryptOrValidateFailed := summary.decryptOrValidateFailed + 1 }
  | .taskPanic => { summary with taskPanicked := summary.taskPanicked + 1 }
  | .taskCancelled => { summary with taskCancelled := summary.taskCancelled + 1 }
  | .taskJoin => { summary with taskJoinFailed := summary.taskJoinFailed + 1 }

@[simp] theorem skipped_recordFailure (summary : KeysLoadSummary) (reason : KeyLoadFailureReason) :
    (summary.recordFailure reason).skipped = summary.skipped + 1 := by
  cases reason <;> simp only [skipped, recordFailure] <;> omega

@[simp] theorem total_recordFailure (summary : KeysLoadSummary) (reason : KeyLoadFailureReason) :
    (summary.recordFailure reason).total = summary.total := by
  cases reason <;> rfl

end KeysLoadSummary

/-- The state of `load_keys_from_rows`: the rows that no task has, the tasks of the `JoinSet`, and what was loaded. -/
structure LoadLoop (K : Type) where
  rows : List (Nat × OpsKeyRow)
  pending : List (Nat × OpsKeyRow)
  loaded : List (Option (LoadedOpsKey K))
  summary : KeysLoadSummary

/-- `rows.into_iter().enumerate()`. -/
def enumerate (rows : List OpsKeyRow) : List (Nat × OpsKeyRow) := rows.zipIdx.map Prod.swap

/-- The first tasks are spawned. -/
def startLoad (limit : Nat) (rows : List OpsKeyRow) : LoadLoop K where
  rows := (enumerate rows).drop (max limit 1)
  pending := (enumerate rows).take (max limit 1)
  loaded := List.replicate rows.length none
  summary := ⟨rows.length, 0, 0, 0, 0, 0⟩

def LoadLoop.spawnNext (s : LoadLoop K) : LoadLoop K :=
  match s.rows with
  | [] => s
  | task :: rows => { s with rows := rows, pending := s.pending ++ [task] }

/-- What the loop does with a task that ended. -/
def LoadLoop.record (keys : InternalKeys K) (s : LoadLoop K) (index : Nat) (row : OpsKeyRow) : TaskEnd → LoadLoop K
  | .returned =>
    match loadOpsKeyFromRow keys row with
    | .ok key => { s with loaded := s.loaded.set index (some key) }
    | .error _ => { s with summary := s.summary.recordFailure .decryptOrValidate }
  | .panicked => { s with summary := s.summary.recordFailure .taskPanic }
  | .cancelled => { s with summary := s.summary.recordFailure .taskCancelled }
  | .lost => { s with summary := s.summary.recordFailure .taskJoin }

/-- One turn: the pending task of the index ends, and the next row gets a task. -/
def joinNext (keys : InternalKeys K) (ends : Nat → TaskEnd) (s : LoadLoop K) (index : Nat) : Option (LoadLoop K) :=
  match s.pending.find? fun task => task.1 = index with
  | none => none
  | some task =>
    let s := { s with pending := s.pending.eraseP fun task => task.1 = index }
    some (s.record keys index task.2 (ends index)).spawnNext

structure KeysDbLoad (K : Type) where
  state : KeysDbState (LoadedOpsKey K)
  summary : KeysLoadSummary

def LoadLoop.finish (s : LoadLoop K) : KeysDbLoad K where
  state := .fromKeys LoadedOpsKey.id (s.loaded.filterMap id)
  summary := { s.summary with loaded := (s.loaded.filterMap id).length }

/-- `StorageState::list_ops_keys` over the rows of the query: one invalid row fails the whole list. -/
def listRows (keys : InternalKeys K) (table : List OpsKeyRow) : Res (List OpsKeyRow) := do
  table.forM (validateOpsKeyRow keys)
  .ok table

/-- `load_keys_db_state` gives this result when the tasks end in this order. -/
def LoadKeysDbState (keys : InternalKeys K) (limit : Nat) (ends : Nat → TaskEnd) (table : List OpsKeyRow)
    (order : List Nat) (result : Res (KeysDbLoad K)) : Prop :=
  match listRows keys table with
  | .error err => order = [] ∧ result = .error err
  | .ok rows => ∃ s, Run.run (joinNext keys ends) (startLoad limit rows) order = some s ∧ s.pending = [] ∧
      result = .ok s.finish

/-! ## What is loaded -/

/-- The key of a row whose task returns and which decrypts. -/
def loadable (keys : InternalKeys K) (ends : Nat → TaskEnd) (row : OpsKeyRow) (index : Nat) : Option (LoadedOpsKey K) :=
  if ends index = .returned then (loadOpsKeyFromRow keys row).toOption else none

/-- The rows that no ended task had. -/
def LoadLoop.unended (s : LoadLoop K) : List (Nat × OpsKeyRow) := s.pending ++ s.rows

variable {keys : InternalKeys K} {ends : Nat → TaskEnd} {rows : List OpsKeyRow} {s s' : LoadLoop K}

/-- What was loaded belongs to the tasks that ended. -/
structure LoadInv (keys : InternalKeys K) (ends : Nat → TaskEnd) (rows : List OpsKeyRow) (s : LoadLoop K) : Prop where
  tasks : ∀ task ∈ s.unended, rows[task.1]? = some task.2
  nodup : (s.unended.map Prod.fst).Nodup
  loaded : ∀ index, s.loaded[index]? = rows[index]?.map fun row =>
    if index ∈ s.unended.map Prod.fst then none else loadable keys ends row index
  count : s.summary.skipped + s.loaded.countP Option.isSome + s.unended.length = rows.length
  total : s.summary.total = rows.length
  drained : s.pending = [] → s.rows = []

theorem unended_spawnNext (s : LoadLoop K) : s.spawnNext.unended = s.unended := by
  unfold LoadLoop.spawnNext LoadLoop.unended
  cases hrows : s.rows with
  | nil => rw [hrows]
  | cons task rows => simp

theorem drained_spawnNext (s : LoadLoop K) (h : s.spawnNext.pending = []) : s.spawnNext.rows = [] := by
  unfold LoadLoop.spawnNext at h ⊢
  cases hrows : s.rows with
  | nil => exact hrows
  | cons task rows => simp [hrows] at h

@[simp] theorem loaded_spawnNext (s : LoadLoop K) : s.spawnNext.loaded = s.loaded := by
  unfold LoadLoop.spawnNext
  split <;> rfl

@[simp] theorem summary_spawnNext (s : LoadLoop K) : s.spawnNext.summary = s.summary := by
  unfold LoadLoop.spawnNext
  split <;> rfl

theorem countP_set_some {loaded : List (Option (LoadedOpsKey K))} {index : Nat} (h : loaded[index]? = some none)
    (key : LoadedOpsKey K) : (loaded.set index (some key)).countP Option.isSome = loaded.countP Option.isSome + 1 := by
  obtain ⟨hlt, hget⟩ := List.getElem?_eq_some_iff.mp h
  rw [List.countP_set hlt, hget]
  rfl

/-- What a task that ended changes. -/
structure Recorded (keys : InternalKeys K) (ends : Nat → TaskEnd) (s : LoadLoop K) (index : Nat) (row : OpsKeyRow)
    (s' : LoadLoop K) : Prop where
  unended : s'.unended = s.unended
  loaded : s'.loaded[index]? = some (loadable keys ends row index)
  others : ∀ i, i ≠ index → s'.loaded[i]? = s.loaded[i]?
  count : s'.summary.skipped + s'.loaded.countP Option.isSome = s.summary.skipped + s.loaded.countP Option.isSome + 1
  total : s'.summary.total = s.summary.total

theorem recorded_failure {index : Nat} {row : OpsKeyRow} (h : s.loaded[index]? = some none)
    (hnone : loadable keys ends row index = none) (reason : KeyLoadFailureReason) :
    Recorded keys ends s index row { s with summary := s.summary.recordFailure reason } where
  unended := rfl
  loaded := h.trans (by rw [hnone])
  others _ _ := rfl
  count := by
    simp only [KeysLoadSummary.skipped_recordFailure]
    omega
  total := KeysLoadSummary.total_recordFailure _ reason

theorem recorded_success {index : Nat} {row : OpsKeyRow} {key : LoadedOpsKey K} (h : s.loaded[index]? = some none)
    (hkey : loadable keys ends row index = some key) :
    Recorded keys ends s index row { s with loaded := s.loaded.set index (some key) } where
  unended := rfl
  loaded := by
    obtain ⟨hlt, -⟩ := List.getElem?_eq_some_iff.mp h
    rw [hkey]
    exact List.getElem?_set_self hlt
  others i hi := List.getElem?_set_ne hi.symm
  count := by
    simp only [countP_set_some h]
    omega
  total := rfl

/-- A task that ended is loaded, or counted as skipped. -/
theorem recorded_record {index : Nat} {row : OpsKeyRow} (h : s.loaded[index]? = some none) :
    Recorded keys ends s index row (s.record keys index row (ends index)) := by
  have hloadable : loadable keys ends row index =
      if ends index = .returned then (loadOpsKeyFromRow keys row).toOption else none := rfl
  unfold LoadLoop.record
  cases hend : ends index with
  | returned =>
    rw [hend, if_pos rfl] at hloadable
    cases hload : loadOpsKeyFromRow keys row with
    | ok key => exact recorded_success h (by rw [hloadable, hload]; rfl)
    | error err => exact recorded_failure h (by rw [hloadable, hload]; rfl) .decryptOrValidate
  | panicked => exact recorded_failure h (by rw [hloadable, hend]; rfl) .taskPanic
  | cancelled => exact recorded_failure h (by rw [hloadable, hend]; rfl) .taskCancelled
  | lost => exact recorded_failure h (by rw [hloadable, hend]; rfl) .taskJoin

/-- A turn takes one pending task out. -/
theorem joinNext_cases {index : Nat} (h : joinNext keys ends s index = some s') :
    ∃ row before after, s.pending = before ++ (index, row) :: after ∧
      s' = (LoadLoop.record keys { s with pending := before ++ after } index row (ends index)).spawnNext := by
  unfold joinNext at h
  split at h
  · cases h
  rename_i task hfind
  obtain ⟨task', before, after, hbefore, htask', hpending, herase⟩ := List.exists_of_eraseP
    (List.mem_of_find?_eq_some hfind) (List.find?_some hfind)
  have hsame : task = task' := by
    have hnone : before.find? (fun task => decide (task.1 = index)) = none :=
      List.find?_eq_none.mpr fun other hother => hbefore other hother
    rw [hpending, List.find?_append, hnone, Option.none_or, List.find?_cons, htask'] at hfind
    exact (Option.some.inj hfind).symm
  subst hsame
  obtain ⟨i, row⟩ := task
  obtain rfl : i = index := by simpa using htask'
  rw [← Option.some.inj h, herase]
  exact ⟨row, before, after, hpending, rfl⟩

theorem mem_enumerate {task : Nat × OpsKeyRow} : task ∈ enumerate rows ↔ rows[task.1]? = some task.2 := by
  rw [enumerate, List.mem_map]
  constructor
  · rintro ⟨entry, hmem, rfl⟩
    exact List.mem_zipIdx_iff_getElem?.mp hmem
  · intro hget
    exact ⟨task.swap, List.mem_zipIdx_iff_getElem?.mpr hget, Prod.swap_swap task⟩

theorem map_fst_enumerate (rows : List OpsKeyRow) : (enumerate rows).map Prod.fst = List.range rows.length := by
  rw [enumerate, List.map_map, List.range_eq_range', ← List.zipIdx_map_snd 0 rows]
  rfl

theorem unended_start (limit : Nat) (rows : List OpsKeyRow) :
    (startLoad limit rows : LoadLoop K).unended = enumerate rows := List.take_append_drop _ _

theorem loadInv_start (limit : Nat) : LoadInv keys ends rows (startLoad limit rows) where
  tasks task hmem := by
    rw [unended_start] at hmem
    exact mem_enumerate.mp hmem
  nodup := by
    rw [unended_start, map_fst_enumerate]
    exact List.nodup_range
  loaded index := by
    rw [unended_start, map_fst_enumerate]
    show (List.replicate rows.length none)[index]? = _
    by_cases hlt : index < rows.length
    · simp [hlt]
    · simp [hlt]
  count := by
    rw [unended_start, enumerate, List.length_map, List.length_zipIdx]
    simp [startLoad, KeysLoadSummary.skipped, List.countP_replicate]
  total := rfl
  drained h := by
    have hlength := congrArg List.length h
    simp only [startLoad, List.length_take, List.length_nil] at hlength
    refine List.eq_nil_of_length_eq_zero ?_
    simp only [startLoad, List.length_drop]
    omega

/-- A turn keeps the invariant, and leaves one row less. -/
theorem loadInv_joinNext {index : Nat} (hI : LoadInv keys ends rows s) (h : joinNext keys ends s index = some s') :
    LoadInv keys ends rows s' ∧ s'.unended.length + 1 = s.unended.length := by
  obtain ⟨row, before, after, hpending, rfl⟩ := joinNext_cases h
  have hold : s.unended = before ++ (index, row) :: (after ++ s.rows) := by simp [LoadLoop.unended, hpending]
  have hrow : rows[index]? = some row := hI.tasks (index, row) (by rw [hold]; simp)
  have hloaded : s.loaded[index]? = some none := by
    rw [hI.loaded index, hrow, Option.map_some, if_pos (by rw [hold]; simp)]
  generalize hmid : ({ s with pending := before ++ after } : LoadLoop K) = mid
  have hmidLoaded : mid.loaded = s.loaded := by rw [← hmid]
  have hmidSummary : mid.summary = s.summary := by rw [← hmid]
  have hnew : mid.unended = before ++ (after ++ s.rows) := by simp [← hmid, LoadLoop.unended]
  have hrec : Recorded keys ends mid index row (mid.record keys index row (ends index)) :=
    recorded_record (hmidLoaded ▸ hloaded)
  generalize mid.record keys index row (ends index) = final at hrec
  have hunended : final.spawnNext.unended = before ++ (after ++ s.rows) := by
    rw [unended_spawnNext, hrec.unended, hnew]
  have hnodup := hI.nodup
  rw [hold, List.map_append, List.map_cons, List.nodup_middle, ← List.map_append, ← hunended] at hnodup
  obtain ⟨hnot, hnodup⟩ := List.nodup_cons.mp hnodup
  have hlength : final.spawnNext.unended.length + 1 = s.unended.length := by
    rw [hunended, hold]
    simp only [List.length_append, List.length_cons]
    omega
  have hfst : ∀ i, i ≠ index → (i ∈ s.unended.map Prod.fst ↔ i ∈ final.spawnNext.unended.map Prod.fst) := by
    intro i hi
    rw [hold, hunended]
    simp [hi]
  refine ⟨⟨fun task htask => hI.tasks task ?_, hnodup, fun i => ?_, ?_, ?_, drained_spawnNext final⟩, hlength⟩
  · rw [hunended, List.mem_append] at htask
    rw [hold, List.mem_append, List.mem_cons]
    exact htask.imp_right Or.inr
  · rw [loaded_spawnNext]
    by_cases hi : i = index
    · subst hi
      rw [hrec.loaded, hrow, Option.map_some, if_neg hnot]
    · rw [hrec.others i hi, hmidLoaded, hI.loaded i]
      simp only [hfst i hi]
  · have hcount := hI.count
    have hcount' := hrec.count
    rw [hmidLoaded, hmidSummary] at hcount'
    rw [loaded_spawnNext, summary_spawnNext]
    omega
  · rw [summary_spawnNext, hrec.total, hmidSummary]
    exact hI.total

/-- After any turns the invariant holds, and each turn has ended one task. -/
theorem loadInv_run : ∀ {s s' : LoadLoop K} {order : List Nat}, LoadInv keys ends rows s →
    Run.run (joinNext keys ends) s order = some s' →
    LoadInv keys ends rows s' ∧ s'.unended.length + order.length = s.unended.length
  | s, s', [], hI, h => by
    cases h
    exact ⟨hI, rfl⟩
  | s, s', index :: order, hI, h => by
    obtain ⟨s₁, hjoin, hrun⟩ := Run.run_cons h
    obtain ⟨hI₁, hlength₁⟩ := loadInv_joinNext hI hjoin
    obtain ⟨hI', hlength'⟩ := loadInv_run hI₁ hrun
    exact ⟨hI', by rw [List.length_cons]; omega⟩

/-- While tasks are pending, the loop can go on to its end. -/
theorem run_to_end : ∀ (n : Nat) {s : LoadLoop K}, LoadInv keys ends rows s → s.unended.length = n →
    ∃ order s', Run.run (joinNext keys ends) s order = some s' ∧ s'.pending = []
  | 0, s, _, hn => ⟨[], s, rfl, (List.append_eq_nil_iff.mp (List.eq_nil_of_length_eq_zero hn)).1⟩
  | n + 1, s, hI, hn => by
    cases hpending : s.pending with
    | nil => exact ⟨[], s, rfl, hpending⟩
    | cons task pending =>
      obtain ⟨s₁, hjoin⟩ : ∃ s₁, joinNext keys ends s task.1 = some s₁ := by
        simp [joinNext, hpending]
      obtain ⟨hI₁, hlength₁⟩ := loadInv_joinNext hI hjoin
      obtain ⟨order, s', hrun, hend⟩ := run_to_end n hI₁ (by omega)
      exact ⟨task.1 :: order, s', Run.run_of_step hjoin hrun, hend⟩

/-! ## Resilience -/

/-- The keys of the rows that validate and decrypt, and whose tasks return, in the order of the rows. -/
def goodKeys (keys : InternalKeys K) (ends : Nat → TaskEnd) (table : List OpsKeyRow) : List (LoadedOpsKey K) :=
  table.zipIdx.filterMap fun entry =>
    if (validateOpsKeyRow keys entry.1).isOk then loadable keys ends entry.1 entry.2 else none

/-- The load succeeds with the good rows, and every other row is counted. -/
def Exact (keys : InternalKeys K) (ends : Nat → TaskEnd) (table : List OpsKeyRow) (result : Res (KeysDbLoad K)) :
    Prop :=
  ∃ load, result = .ok load ∧ load.state = .fromKeys LoadedOpsKey.id (goodKeys keys ends table) ∧
    load.summary.total = table.length ∧ load.summary.loaded = load.state.keysDb.length ∧
    load.summary.loaded + load.summary.skipped = table.length

/-- In every order of the tasks the load is exact, and it always goes on to its end. -/
def Resilient (keys : InternalKeys K) (table : List OpsKeyRow) : Prop :=
  ∀ limit ends,
    (∀ order result, LoadKeysDbState keys limit ends table order result → Exact keys ends table result) ∧
    ∀ order s, Run.run (joinNext keys ends) (startLoad limit table) order = some s → order.length ≤ table.length ∧
      ∃ rest result, LoadKeysDbState keys limit ends table (order ++ rest) result

theorem goodKeys_valid (h : ∀ row ∈ rows, validateOpsKeyRow keys row = .ok ()) :
    goodKeys keys ends rows = rows.zipIdx.filterMap fun entry => loadable keys ends entry.1 entry.2 := by
  refine List.filterMap_congr fun entry hentry => if_pos ?_
  rw [h entry.1 (List.mem_of_getElem? (List.mem_zipIdx_iff_getElem?.mp hentry))]
  rfl

/-- When no task is pending, every row is loaded or skipped. -/
theorem exact_finish (h : ∀ row ∈ rows, validateOpsKeyRow keys row = .ok ()) (hI : LoadInv keys ends rows s)
    (hpending : s.pending = []) : Exact keys ends rows (.ok s.finish) := by
  have hunended : s.unended = [] := by rw [LoadLoop.unended, hpending, hI.drained hpending, List.append_nil]
  have hloaded : s.loaded = rows.zipIdx.map fun entry => loadable keys ends entry.1 entry.2 := by
    refine List.ext_getElem? fun i => ?_
    rw [hI.loaded i, hunended, List.getElem?_map, List.getElem?_zipIdx]
    cases rows[i]? with
    | none => rfl
    | some row => simp
  have hkeys : s.loaded.filterMap id = goodKeys keys ends rows := by
    rw [goodKeys_valid h, hloaded, List.filterMap_map]
    rfl
  have hcount := hI.count
  rw [hunended, List.length_nil] at hcount
  have hlength : (s.loaded.filterMap id).length = s.loaded.countP Option.isSome := List.length_filterMap_eq_countP
  refine ⟨s.finish, rfl, ?_, hI.total, rfl, ?_⟩
  · rw [LoadLoop.finish, hkeys]
  · show (s.loaded.filterMap id).length + s.summary.skipped = rows.length
    omega

theorem listRows_ok (h : ∀ row ∈ rows, validateOpsKeyRow keys row = .ok ()) : listRows keys rows = .ok rows := by
  rw [listRows, Loop.forM_ok rows h]
  rfl

theorem resilient_of_valid (h : ∀ row ∈ rows, validateOpsKeyRow keys row = .ok ()) : Resilient keys rows := by
  intro limit ends
  refine ⟨fun order result hload => ?_, fun order s hrun => ?_⟩
  · rw [LoadKeysDbState, listRows_ok h] at hload
    obtain ⟨s, hrun, hpending, rfl⟩ := hload
    exact exact_finish h (loadInv_run (loadInv_start limit) hrun).1 hpending
  · obtain ⟨hI, hlength⟩ := loadInv_run (loadInv_start limit) hrun
    obtain ⟨rest, s', hrest, hpending⟩ := run_to_end _ hI rfl
    refine ⟨?_, rest, .ok s'.finish, ?_⟩
    · rw [unended_start, enumerate, List.length_map, List.length_zipIdx] at hlength
      omega
    · rw [LoadKeysDbState, listRows_ok h]
      exact ⟨s', Run.run_append hrun hrest, hpending, rfl⟩

/-- One row that the listing refuses fails the whole load. -/
theorem listRows_error {row : OpsKeyRow} (hmem : row ∈ rows) (hrow : validateOpsKeyRow keys row ≠ .ok ()) :
    ∃ err, listRows keys rows = .error err := by
  cases hlist : listRows keys rows with
  | error err => exact ⟨err, rfl⟩
  | ok listed =>
    obtain ⟨hall, -⟩ := Loop.bind_unit_eq_ok.mp hlist
    exact absurd (Loop.forM_eq_ok.mp hall row hmem) hrow

theorem not_resilient {row : OpsKeyRow} (hmem : row ∈ rows) (hrow : validateOpsKeyRow keys row ≠ .ok ()) :
    ¬ Resilient keys rows := by
  intro h
  obtain ⟨err, hlist⟩ := listRows_error hmem hrow
  have hfails : LoadKeysDbState keys 1 (fun _ => .returned) rows [] (.error err) := by
    rw [LoadKeysDbState, hlist]
    exact ⟨rfl, rfl⟩
  obtain ⟨load, hload, -⟩ := (h 1 fun _ => .returned).1 [] _ hfails
  cases hload

/-- The load is resilient exactly when every row passes the checks of the listing. -/
theorem keys_load_resilient_iff (keys : InternalKeys K) (table : List OpsKeyRow) :
    Resilient keys table ↔ ∀ row ∈ table, validateOpsKeyRow keys row = .ok () := by
  refine ⟨fun h row hmem => ?_, resilient_of_valid⟩
  by_cases hrow : validateOpsKeyRow keys row = .ok ()
  · exact hrow
  · exact absurd h (not_resilient hmem hrow)

/-! ## An example -/

/-- Every row decrypts. -/
def openKeys : InternalKeys Unit where
  decodeBase64 text := Base64.decodeStandard text.toList
  validateKidMatchesKeys _ _ := .ok ()
  decryptKeys _ := .ok ("aad", ())
  decryptProperties _ := .ok ("aad", ⟨1, "custom", "tag", "now", ⟨"active", "created", "now"⟩⟩)
  encryptProperties _ _ _ := .error (.other "")
  validateBinding _ _ _ := .ok ()
  decrypt_encrypt _ _ _ _ h _ _ := by cases h

def kidOf (digit : Char) : String := String.ofList (List.replicate 64 digit)

def goodRow : OpsKeyRow := ⟨kidOf '0', "AAAA.AAAA.AAAA", "AAAA.AAAA.AAAA"⟩

/-- The keys are not an envelope of three segments. -/
def malformedRow : OpsKeyRow := ⟨kidOf '1', "AAAA", "AAAA.AAAA.AAAA"⟩

/-- One malformed row keeps a good row from being loaded. -/
theorem keys_load_stopped : validateOpsKeyRow openKeys goodRow = .ok () ∧
    (loadOpsKeyFromRow openKeys goodRow).isOk = true ∧ ¬ Resilient openKeys [goodRow, malformedRow] := by
  have hkid : ∀ digit, isAsciiHexdigit digit = true ∧ digit.utf8Size = 1 →
      validateHashHexField "opskeys.kid" (kidOf digit) internalKeysHash = .ok () := fun _ h =>
    validateInternalHash_replicate h _
  have hmalformed : validateOpsKeyRow openKeys malformedRow ≠ .ok () := by
    intro h
    obtain ⟨-, h⟩ := Loop.bind_unit_eq_ok.mp h
    exact absurd h (by decide)
  refine ⟨Loop.bind_unit_eq_ok.mpr ⟨hkid '0' (by decide), by rfl⟩, by rfl, ?_⟩
  exact not_resilient (List.mem_cons_of_mem _ List.mem_cons_self) hmalformed

end Vectis.Ops.Keys
