import Vectis.Core.Storage.Rows
import Vectis.Lib.Run

/-!
# Subjects and their tokens in SQLite

Guarded writes and `delete_subject` run in `BEGIN IMMEDIATE` transactions, `save_subject` is one statement in a
transaction of its own: at most one of them is open at a time. The open transaction works on its own view of the tables,
which its commit publishes.

- `step`: a request begins when no transaction is open, then takes one statement after another, or is rolled back;
- `Inv`: the tables and the view of the open transaction have no orphans, and the transaction is on its way to keep
  that;
- `run_noOrphans`: after every run the tables have no orphans.
-/

namespace Vectis.Core.Storage.Sqlite

/-! ## Transactions -/

/-- What the open transaction does next. -/
inductive Pc
  | insertSubject (row : SubjectRow)
  | checkGuards (todo : List SubjectWriteGuard) (records : List StoredToken)
  | insertTokens (records : List StoredToken)
  | deleteTokens (kid subject : String)
  | deleteSubject (kid subject : String)
  | commit (reply : Res Reply)

structure Writer where
  pc : Pc
  tokens : List StoredToken
  subjects : List SubjectRow

structure State where
  tokens : List StoredToken
  subjects : List SubjectRow
  writer : Option Writer
  replies : List (Res Reply)

def State.empty : State := ⟨[], [], none, []⟩

/-- What a request does before it opens its transaction. -/
def start : Request → Res Pc
  | .saveSubject row => .ok (.insertSubject row)
  | .saveTokensBatchGuarded records guards =>
    (subjectWriteGuards records guards).map fun ordered => .checkGuards ordered (storedTokens records guards)
  | .deleteSubject kid subject => .ok (.deleteTokens kid subject)

/-- The text of the driver's error; 1555 is the code of a primary key that is taken. -/
def uniqueViolation : DynError :=
  .other "error returned from database: (code: 1555) UNIQUE constraint failed: tokens.kid, tokens.hashid"

/-- One statement of the open transaction; an error rolls it back. -/
def statement (w : Writer) : Res Writer :=
  match w.pc with
  | .insertSubject row =>
    if w.subjects.any (subjectKey row.kid row.subject) then .ok { w with pc := .commit (.ok (.savedSubject false)) }
    else .ok { w with subjects := w.subjects ++ [row], pc := .commit (.ok (.savedSubject true)) }
  | .checkGuards [] records => .ok { w with pc := .insertTokens records }
  | .checkGuards (guard :: todo) records =>
    let seed := (w.subjects.find? (subjectKey guard.kid guard.subject)).map SubjectRow.seed
    (checkSubjectGeneration seed guard.seed).map fun _ => { w with pc := .checkGuards todo records }
  | .insertTokens [] => .ok { w with pc := .commit (.ok .savedTokens) }
  | .insertTokens (record :: records) =>
    if w.tokens.any (tokenKey record.row) then .error uniqueViolation
    else .ok { w with tokens := w.tokens ++ [record], pc := .insertTokens records }
  | .deleteTokens kid subject =>
    .ok { w with tokens := w.tokens.filter fun token => !tokenOf kid subject token, pc := .deleteSubject kid subject }
  | .deleteSubject kid subject =>
    let affected := w.subjects.countP (subjectKey kid subject)
    .ok { w with
      subjects := w.subjects.filter fun row => !subjectKey kid subject row
      pc := .commit (deleteSubjectReply affected) }
  | .commit _ => .ok w

inductive Action
  | begin (request : Request)
  | advance
  | rollback (err : DynError)

/-- A request waits for the open transaction to end; the transaction then goes on alone until it commits or fails. -/
def step (s : State) : Action → Option State
  | .begin request =>
    match s.writer, start request with
    | some _, _ => none
    | none, .error err => some { s with replies := s.replies ++ [.error err] }
    | none, .ok pc => some { s with writer := some ⟨pc, s.tokens, s.subjects⟩ }
  | .advance => s.writer.map fun w =>
    match w.pc with
    | .commit reply => ⟨w.tokens, w.subjects, none, s.replies ++ [reply]⟩
    | _ =>
      match statement w with
      | .error err => { s with writer := none, replies := s.replies ++ [.error err] }
      | .ok w' => { s with writer := some w' }
  | .rollback err => s.writer.map fun _ => { s with writer := none, replies := s.replies ++ [.error err] }

/-! ## The invariant -/

/-- What the statements that are left rely on. -/
def PcOk (w : Writer) : Pc → Prop
  | .checkGuards todo records => ∃ checked, (∀ g ∈ checked, g.row ∈ w.subjects) ∧
      ∀ token ∈ records, Guarded (todo ++ checked) token
  | .insertTokens records => ∀ token ∈ records, HasGeneration w.subjects token
  | .deleteSubject kid subject => ∀ token ∈ w.tokens, tokenOf kid subject token = false
  | _ => True

structure WriterOk (w : Writer) : Prop where
  noOrphans : NoOrphans w.tokens w.subjects
  pc : PcOk w w.pc

structure Inv (s : State) : Prop where
  noOrphans : NoOrphans s.tokens s.subjects
  writer : ∀ w, s.writer = some w → WriterOk w

/-- More subjects rows keep what is covered. -/
theorem hasGeneration_append {subjects : List SubjectRow} {token : StoredToken} (h : HasGeneration subjects token)
    (rows : List SubjectRow) : HasGeneration (subjects ++ rows) token := by
  intro subject hs
  obtain ⟨row, hm, hr⟩ := h subject hs
  exact ⟨row, List.mem_append_left _ hm, hr⟩

/-- Deleting the subjects rows of another subject keeps what is covered. -/
theorem hasGeneration_filter {subjects : List SubjectRow} {token : StoredToken} {kid subject : String}
    (h : HasGeneration subjects token) (hne : tokenOf kid subject token = false) :
    HasGeneration (subjects.filter fun row => !subjectKey kid subject row) token := by
  intro sub hs
  obtain ⟨row, hm, hkid, hsub, hseed⟩ := h sub hs
  have hkey : subjectKey kid subject row = tokenOf kid subject token := by simp [subjectKey, tokenOf, hkid, hsub, hs]
  exact ⟨row, List.mem_filter.mpr ⟨hm, by rw [hkey, hne]; rfl⟩, hkid, hsub, hseed⟩

theorem start_ok {s : State} {request : Request} {pc : Pc} (hs : Inv s) (h : start request = .ok pc) :
    WriterOk ⟨pc, s.tokens, s.subjects⟩ := by
  refine ⟨hs.noOrphans, ?_⟩
  cases request with
  | saveSubject row => cases h; trivial
  | deleteSubject kid subject => cases h; trivial
  | saveTokensBatchGuarded records guards =>
    cases hg : subjectWriteGuards records guards with
    | error err => simp [start, hg, Except.map] at h
    | ok ordered =>
      simp only [start, hg, Except.map, Except.ok.injEq] at h
      subst h
      refine ⟨[], fun _ h => absurd h List.not_mem_nil, fun token ht => ?_⟩
      rw [List.append_nil]
      exact storedTokens_guarded hg ht

/-- A guard that passed the check is a row of the table. -/
theorem mem_of_checkSubjectGeneration {subjects : List SubjectRow} {g : SubjectWriteGuard}
    (h : checkSubjectGeneration ((subjects.find? (subjectKey g.kid g.subject)).map SubjectRow.seed) g.seed = .ok ()) :
    g.row ∈ subjects := by
  obtain ⟨row, hfind, hseed⟩ := Option.map_eq_some_iff.mp (checkSubjectGeneration_ok h)
  have hkey := List.find?_some hfind
  simp only [subjectKey, Bool.and_eq_true, decide_eq_true_eq] at hkey
  obtain ⟨kid, subject, seed⟩ := row
  simp only at hkey hseed
  rw [SubjectWriteGuard.row, ← hkey.1, ← hkey.2, ← hseed]
  exact List.mem_of_find?_eq_some hfind

theorem statement_ok {w w' : Writer} (hw : WriterOk w) (h : statement w = .ok w') : WriterOk w' := by
  obtain ⟨pc, tokens, subjects⟩ := w
  obtain ⟨hno, hpc⟩ := hw
  simp only at hno hpc
  cases pc with
  | insertSubject row =>
    simp only [statement] at h
    split at h <;> cases h
    · exact ⟨hno, trivial⟩
    · exact ⟨fun token ht => hasGeneration_append (hno token ht) [row], trivial⟩
  | checkGuards todo records =>
    cases todo with
    | nil =>
      cases h
      obtain ⟨checked, hrows, hrecords⟩ := hpc
      refine ⟨hno, fun token ht subject hs => ?_⟩
      obtain ⟨g, hg, hgen⟩ := hrecords token ht subject hs
      exact ⟨g.row, hrows g hg, hgen⟩
    | cons guard todo =>
      simp only [statement] at h
      cases hcheck : checkSubjectGeneration ((subjects.find? (subjectKey guard.kid guard.subject)).map SubjectRow.seed)
        guard.seed with
      | error err => simp [hcheck, Except.map] at h
      | ok =>
        simp only [hcheck, Except.map, Except.ok.injEq] at h
        subst h
        obtain ⟨checked, hrows, hrecords⟩ := hpc
        refine ⟨hno, guard :: checked, fun g hg => ?_, fun token ht => (hrecords token ht).mono fun g hg => ?_⟩
        · rcases List.mem_cons.mp hg with rfl | hg
          · exact mem_of_checkSubjectGeneration hcheck
          · exact hrows g hg
        · simp only [List.cons_append, List.mem_cons, List.mem_append] at hg ⊢
          exact or_left_comm.mp hg
  | insertTokens records =>
    cases records with
    | nil => cases h; exact ⟨hno, trivial⟩
    | cons record records =>
      simp only [statement] at h
      split at h <;> cases h
      refine ⟨fun token ht => ?_, fun token ht => hpc token (List.mem_cons_of_mem _ ht)⟩
      rcases List.mem_append.mp ht with ht | ht
      · exact hno token ht
      · rw [List.mem_singleton.mp ht]
        exact hpc record List.mem_cons_self
  | deleteTokens kid subject =>
    cases h
    refine ⟨fun token ht => hno token (List.mem_filter.mp ht).1, fun token ht => ?_⟩
    simpa using (List.mem_filter.mp ht).2
  | deleteSubject kid subject =>
    cases h
    exact ⟨fun token ht => hasGeneration_filter (hno token ht) (hpc token ht), trivial⟩
  | commit reply => cases h; exact ⟨hno, trivial⟩

/-! ## Runs -/

theorem inv_step (s : State) (a : Action) (s' : State) (hs : Inv s) (h : step s a = some s') : Inv s' := by
  cases a with
  | begin request =>
    simp only [step] at h
    split at h <;> cases h
    · exact ⟨hs.noOrphans, hs.writer⟩
    · rename_i pc _ hstart
      refine ⟨hs.noOrphans, fun w hw => ?_⟩
      cases hw
      exact start_ok hs hstart
  | advance =>
    simp only [step, Option.map_eq_some_iff] at h
    obtain ⟨w, hw, rfl⟩ := h
    split
    · exact ⟨(hs.writer w hw).noOrphans, fun _ h => nomatch h⟩
    · split
      · exact ⟨hs.noOrphans, fun _ h => nomatch h⟩
      · rename_i w' hst
        refine ⟨hs.noOrphans, fun w₁ h₁ => ?_⟩
        cases h₁
        exact statement_ok (hs.writer w hw) hst
  | rollback err =>
    simp only [step, Option.map_eq_some_iff] at h
    obtain ⟨w, hw, rfl⟩ := h
    exact ⟨hs.noOrphans, fun _ h => nomatch h⟩

theorem inv_empty : Inv State.empty := by
  refine ⟨fun _ h => absurd h List.not_mem_nil, fun w hw => ?_⟩
  cases hw

/-- No interleaving of requests leaves an orphan in the tables. -/
theorem run_noOrphans {actions : List Action} {s : State} (h : Run.run step State.empty actions = some s) :
    NoOrphans s.tokens s.subjects :=
  (Run.run_inv inv_step inv_empty h).noOrphans

end Vectis.Core.Storage.Sqlite
