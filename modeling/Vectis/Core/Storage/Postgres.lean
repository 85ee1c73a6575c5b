import Vectis.Core.Storage.Rows
import Vectis.Lib.Mvcc
import Vectis.Lib.Run

/-!
# Subjects and their tokens in PostgreSQL

Transactions run at READ COMMITTED. A statement takes its snapshot when it starts and then comes to its rows one after
another, in any order; other transactions go on in between. A statement that has to wait for a row lock or a unique key
takes no step until it is free.

- `start`: what a request does before it opens its transaction;
- `effect`: what the next statement, or the next row of the running one, does (`none` while it waits);
- `step`: a request begins, a transaction takes its next effect, or it is aborted (a deadlock, a lost connection).
-/

namespace Vectis.Core.Storage.Postgres

open Mvcc

/-- What the transaction does next. The `todo` of a running `DELETE` are the rows of its snapshot that it still has to
come to. -/
inductive Pc
  | insertSubject (row : SubjectRow)
  | lockGuards (todo : List SubjectWriteGuard) (records : List StoredToken)
  | lockRow (guard : SubjectWriteGuard) (found : Option Nat) (todo : List SubjectWriteGuard)
      (records : List StoredToken)
  | insertTokens (records : List StoredToken)
  | deleteTokens (kid subject : String)
  | deleteTokenRows (kid subject : String) (todo : List Nat)
  | deleteSubject (kid subject : String)
  | deleteSubjectRows (kid subject : String) (todo : List Nat) (affected : Nat)
  | commit (reply : Res Reply)

/-- A transaction, with the guards whose rows it holds a share lock on. -/
structure Tx where
  pc : Pc
  status : Status
  locked : List SubjectWriteGuard

/-- Transactions are named by their place in `txs`. -/
structure State where
  tokens : List (Version StoredToken)
  subjects : List (Version SubjectRow)
  txs : List Tx
  replies : List (Res Reply)

def State.empty : State := ⟨[], [], [], []⟩

def State.status (s : State) (t : Nat) : Status := ((s.txs[t]?).map Tx.status).getD .aborted

/-- No transaction is open. -/
def State.idle (s : State) : Bool := s.txs.all fun tx => tx.status ≠ .active

/-- What a request does before it opens its transaction; a guarded write without records is answered at once. -/
def start : Request → Except (Res Reply) Pc
  | .saveSubject row => .ok (.insertSubject row)
  | .saveTokensBatchGuarded records guards =>
    match subjectWriteGuards records guards with
    | .error err => .error (.error err)
    | .ok ordered =>
      if records.isEmpty then .error (.ok .savedTokens) else .ok (.lockGuards ordered (storedTokens records guards))
  | .deleteSubject kid subject => .ok (.deleteTokens kid subject)

/-! ## Effects -/

inductive Effect
  | go (pc : Pc)
  | lock (guard : SubjectWriteGuard) (i : Nat) (pc : Pc)
  | insertToken (record : StoredToken) (pc : Pc)
  | insertSubject (row : SubjectRow) (pc : Pc)
  | deleteToken (i : Nat) (pc : Pc)
  | deleteSubject (i : Nat) (pc : Pc)
  | commit (reply : Res Reply)
  | fail (err : DynError)

def uniqueViolation : DynError :=
  .other "error returned from database: duplicate key value violates unique constraint \"tokens_pkey\""

/-- The seed that `SELECT seed … FOR SHARE` returned goes through the generation check. -/
def checked (seed : Option String) (guard : SubjectWriteGuard) (next : Effect) : Effect :=
  match checkSubjectGeneration seed guard.seed with
  | .error err => .fail err
  | .ok () => next

/-- A running `DELETE` comes to the version `i` of its snapshot. -/
def deleteRow {ρ : Type} (st : Nat → Status) (t i : Nat) (h : List (Version ρ)) (skip delete : Effect) :
    Option Effect :=
  (h[i]?).bind fun v =>
    match rowState st t true v with
    | .gone => some skip
    | .wait => none
    | .free => some delete

/-- The next effect of transaction `t`; `i` is the row that a running `DELETE` comes to next. -/
def effect (s : State) (t i : Nat) : Pc → Option Effect
  | .insertSubject row =>
    match keyState s.status t (subjectKey row.kid row.subject) s.subjects with
    | .taken => some (.go (.commit (.ok (.savedSubject false))))
    | .wait => none
    | .free => some (.insertSubject row (.commit (.ok (.savedSubject true))))
  | .lockGuards [] records => some (.go (.insertTokens records))
  | .lockGuards (guard :: todo) records =>
    let found := (snapshot s.status t (subjectKey guard.kid guard.subject) s.subjects).head?
    some (.go (.lockRow guard found todo records))
  | .lockRow guard none todo records => some (checked none guard (.go (.lockGuards todo records)))
  | .lockRow guard (some j) todo records =>
    (s.subjects[j]?).bind fun v =>
      match rowState s.status t false v with
      | .gone => some (checked none guard (.go (.lockGuards todo records)))
      | .wait => none
      | .free => some (checked (some v.row.seed) guard (.lock guard j (.lockGuards todo records)))
  | .insertTokens [] => some (.go (.commit (.ok .savedTokens)))
  | .insertTokens (record :: records) =>
    match keyState s.status t (tokenKey record.row) s.tokens with
    | .taken => some (.fail uniqueViolation)
    | .wait => none
    | .free => some (.insertToken record (.insertTokens records))
  | .deleteTokens kid subject =>
    some (.go (.deleteTokenRows kid subject (snapshot s.status t (tokenOf kid subject) s.tokens)))
  | .deleteTokenRows kid subject todo =>
    if todo = [] then some (.go (.deleteSubject kid subject))
    else if i ∈ todo then
      let next := .deleteTokenRows kid subject (todo.erase i)
      deleteRow s.status t i s.tokens (.go next) (.deleteToken i next)
    else none
  | .deleteSubject kid subject =>
    some (.go (.deleteSubjectRows kid subject (snapshot s.status t (subjectKey kid subject) s.subjects) 0))
  | .deleteSubjectRows kid subject todo affected =>
    if todo = [] then some (.go (.commit (deleteSubjectReply affected)))
    else if i ∈ todo then
      deleteRow s.status t i s.subjects (.go (.deleteSubjectRows kid subject (todo.erase i) affected))
        (.deleteSubject i (.deleteSubjectRows kid subject (todo.erase i) (affected + 1)))
    else none
  | .commit reply => some (.commit reply)

def State.setTx (s : State) (t : Nat) (tx : Tx) : State := { s with txs := s.txs.set t tx }

/-- The transaction ends and its request is answered. -/
def State.finish (s : State) (t : Nat) (tx : Tx) (status : Status) (reply : Res Reply) : State :=
  { s.setTx t { tx with status := status } with replies := s.replies ++ [reply] }

def apply (s : State) (t : Nat) (tx : Tx) : Effect → State
  | .go pc => s.setTx t { tx with pc := pc }
  | .lock guard i pc =>
    { s.setTx t { tx with pc := pc, locked := guard :: tx.locked } with subjects := lockShare s.subjects i t }
  | .insertToken record pc => { s.setTx t { tx with pc := pc } with tokens := insertRow s.tokens record t }
  | .insertSubject row pc => { s.setTx t { tx with pc := pc } with subjects := insertRow s.subjects row t }
  | .deleteToken i pc => { s.setTx t { tx with pc := pc } with tokens := setXmax s.tokens i t }
  | .deleteSubject i pc => { s.setTx t { tx with pc := pc } with subjects := setXmax s.subjects i t }
  | .commit reply => s.finish t tx .committed reply
  | .fail err => s.finish t tx .aborted (.error err)

/-! ## Steps -/

inductive Action
  | begin (request : Request)
  | advance (t i : Nat)
  | abort (t : Nat) (err : DynError)

/-- The open transaction `t`. -/
def State.openTx (s : State) (t : Nat) : Option Tx := (s.txs[t]?).filter fun tx => tx.status = .active

def step (s : State) : Action → Option State
  | .begin request =>
    match start request with
    | .error reply => some { s with replies := s.replies ++ [reply] }
    | .ok pc => some { s with txs := s.txs ++ [⟨pc, .active, []⟩] }
  | .advance t i => (s.openTx t).bind fun tx => (effect s t i tx.pc).map (apply s t tx)
  | .abort t err => (s.openTx t).map fun tx => s.finish t tx .aborted (.error err)

/-! ## The deletion window -/

/-- A deletion that has taken its snapshot of the tokens and has not yet deleted the subjects row: the subject, and the
tokens that the running `DELETE` still has to come to. -/
def Pc.window : Pc → Option (String × String × List Nat)
  | .deleteTokenRows kid subject todo => some (kid, subject, todo)
  | .deleteSubject kid subject => some (kid, subject, [])
  | .deleteSubjectRows kid subject (_ :: _) _ => some (kid, subject, [])
  | _ => none

/-- A guarded write commits while a deletion of one of its subjects is in its window. -/
def commitsInWindow (s : State) : Action → Bool
  | .advance t _ => (s.openTx t).any fun tx =>
    (tx.pc matches .commit _) && tx.locked.any fun g => s.txs.any fun d =>
      d.status = .active && d.pc.window.any fun w => w.1 = g.kid && w.2.1 = g.subject
  | _ => false

end Vectis.Core.Storage.Postgres
