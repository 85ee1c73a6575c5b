import Vectis.Core.Storage.PostgresErasure
import Vectis.Core.Storage.Sqlite

/-!
# Subject erasure

`delete_subject` removes the tokens of a subject and its row, `save_tokens_batch_guarded` stores tokens of a subject
under the seed that the encoder opened. In SQLite no interleaving leaves a token without its generation. In PostgreSQL a
guarded write that commits after the deletion has taken its snapshot of the tokens and before it deletes the subjects
row leaves one (`erasure_orphan`); every other interleaving is safe (`erasure_noOrphans`).
-/

namespace Vectis.Core.Storage

/-- A run of one of the two backends. -/
inductive StorageRun
  | sqlite (actions : List Sqlite.Action)
  | postgres (actions : List Postgres.Action)

namespace StorageRun

/-- The committed rows after the run. -/
def tables : StorageRun → Option (List StoredToken × List SubjectRow)
  | .sqlite actions => (Run.run Sqlite.step .empty actions).map fun s => (s.tokens, s.subjects)
  | .postgres actions => (Run.run Postgres.step .empty actions).map fun s =>
      (Mvcc.liveRows s.status s.tokens, Mvcc.liveRows s.status s.subjects)

/-- In PostgreSQL no guarded write commits inside the window of a deletion of its subject. -/
def NoCommitInWindow : StorageRun → Prop
  | .sqlite _ => True
  | .postgres actions => Run.Along Postgres.step (fun s a => Postgres.commitsInWindow s a = false) .empty actions

end StorageRun

/-- The committed rows have no orphans in any state of any run, and no token is left under a seed that was erased; in
PostgreSQL as long as no guarded write commits inside the window of a deletion of its subject. -/
theorem erasure_noOrphans {run : StorageRun} {tokens : List StoredToken} {subjects : List SubjectRow}
    (h : run.tables = some (tokens, subjects)) (hc : run.NoCommitInWindow) :
    NoOrphans tokens subjects ∧ Erased tokens subjects := by
  have hno : NoOrphans tokens subjects := by
    cases run with
    | sqlite actions =>
      obtain ⟨s, hrun, hs⟩ := Option.map_eq_some_iff.mp h
      cases hs
      exact Sqlite.run_noOrphans hrun
    | postgres actions =>
      obtain ⟨s, hrun, hs⟩ := Option.map_eq_some_iff.mp h
      cases hs
      exact Postgres.run_noOrphans hrun hc
  exact ⟨hno, erased_of_noOrphans hno⟩

/-! ## Two runs -/

def saveAlice (seed : String) : Request := .saveSubject ⟨"kid", "alice", seed⟩

def encodeAlice (hashid seed : String) : Request :=
  .saveTokensBatchGuarded [⟨"kid", hashid, "data", some "alice"⟩] [⟨"kid", "alice", seed⟩]

def deleteAlice : Request := .deleteSubject "kid" "alice"

/-- The steps of the open transaction `t` of each request, up to its commit. -/
def saveSteps (t : Nat) : List Postgres.Action := List.replicate 2 (.advance t 0)

def encodeSteps (t : Nat) : List Postgres.Action := List.replicate 6 (.advance t 0)

/-- The encode commits while the deletion has its snapshot of the tokens, and before the subjects row is deleted. -/
def orphanRun : List Postgres.Action :=
  [.begin (saveAlice "seed")] ++ saveSteps 0 ++ [.begin (encodeAlice "h" "seed"), .begin deleteAlice, .advance 2 0] ++
    encodeSteps 1 ++ List.replicate 5 (.advance 2 0)

/-- After this run no transaction is open, the token row is there and the subjects row is not. -/
theorem erasure_orphan : ∃ s, Run.run Postgres.step .empty orphanRun = some s ∧ s.idle = true ∧
    ¬ NoOrphans (Mvcc.liveRows s.status s.tokens) (Mvcc.liveRows s.status s.subjects) := by
  refine ⟨_, rfl, by decide, fun h => ?_⟩
  obtain ⟨row, hrow, -⟩ := h ⟨⟨"kid", "h", "data", some "alice"⟩, some "seed"⟩ (by decide) "alice" rfl
  exact absurd hrow (by decide +revert)

/-- The deletion waits for the open encode to commit before it looks at the tokens; then alice is created again. -/
def recreateRun : List Postgres.Action :=
  [.begin (saveAlice "old")] ++ saveSteps 0 ++ [.begin (encodeAlice "h1" "old"), .begin deleteAlice] ++ encodeSteps 1 ++
    List.replicate 7 (.advance 2 0) ++ [.begin (saveAlice "new")] ++ saveSteps 3 ++
    [.begin (encodeAlice "h2" "new")] ++ encodeSteps 4

theorem erasure_noOrphans_recreate :
    (StorageRun.postgres recreateRun).tables =
      some ([⟨⟨"kid", "h2", "data", some "alice"⟩, some "new"⟩], [⟨"kid", "alice", "new"⟩]) ∧
    NoOrphans [⟨⟨"kid", "h2", "data", some "alice"⟩, some "new"⟩] [⟨"kid", "alice", "new"⟩] ∧
    Erased [⟨⟨"kid", "h2", "data", some "alice"⟩, some "new"⟩] [⟨"kid", "alice", "new"⟩] := by
  have htables : (StorageRun.postgres recreateRun).tables =
      some ([⟨⟨"kid", "h2", "data", some "alice"⟩, some "new"⟩], [⟨"kid", "alice", "new"⟩]) := rfl
  have hwindow : (StorageRun.postgres recreateRun).NoCommitInWindow := by
    unfold StorageRun.NoCommitInWindow
    decide
  exact ⟨htables, erasure_noOrphans htables hwindow⟩

end Vectis.Core.Storage
