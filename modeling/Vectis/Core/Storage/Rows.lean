import Vectis.Core.Error

/-!
# Storage rows and write guards

The rows of the four tables and the helpers of `core/storage/mod.rs` that both backends share: `subject_write_guards`
collects, for the records that carry a subject, the guard of each (kid, subject) once and in key order;
`check_subject_generation` compares the seed that is stored with the one the encoder opened.
-/

namespace Vectis.Core.Storage

structure OpsKeyRow where
  kid : String
  keys : String
  properties : String
  deriving DecidableEq, Repr

structure TokenRow where
  kid : String
  hashid : String
  data : String
  subject : Option String
  deriving DecidableEq, Repr

structure SubjectRow where
  kid : String
  subject : String
  seed : String
  deriving DecidableEq, Repr

/-- The generation opened by an encode. -/
structure SubjectWriteGuard where
  kid : String
  subject : String
  seed : String
  deriving DecidableEq, Repr

namespace SubjectWriteGuard

/-- The subjects row that the guard expects. -/
def row (g : SubjectWriteGuard) : SubjectRow := ⟨g.kid, g.subject, g.seed⟩

/-- The order of the keys `(kid, subject)` in a `BTreeMap`. -/
def before (g h : SubjectWriteGuard) : Bool := g.kid < h.kid || (g.kid = h.kid && g.subject < h.subject)

def sameKey (g h : SubjectWriteGuard) : Bool := g.kid = h.kid && g.subject = h.subject

end SubjectWriteGuard

/-- The first guard for the subject of a record. -/
def findGuard (guards : List SubjectWriteGuard) (kid subject : String) : Option SubjectWriteGuard :=
  guards.find? fun guard => guard.kid = kid && guard.subject = subject

/-- `BTreeMap::insert` on the values in key order. -/
def insertOrdered (g : SubjectWriteGuard) : List SubjectWriteGuard → List SubjectWriteGuard
  | [] => [g]
  | h :: hs => if g.sameKey h then g :: hs else if g.before h then g :: h :: hs else h :: insertOrdered g hs

/-- The loop of `subject_write_guards`. -/
def collectGuards (guards : List SubjectWriteGuard) : List SubjectWriteGuard → List TokenRow →
    Res (List SubjectWriteGuard)
  | ordered, [] => .ok ordered
  | ordered, record :: records =>
    match record.subject with
    | none => collectGuards guards ordered records
    | some subject =>
      match findGuard guards record.kid subject with
      | none => .error (.invalidInput "subject write requires a generation guard")
      | some guard => collectGuards guards (insertOrdered guard ordered) records

def subjectWriteGuards (records : List TokenRow) (guards : List SubjectWriteGuard) : Res (List SubjectWriteGuard) :=
  if records.all fun record => record.subject.isNone then .ok [] else collectGuards guards [] records

def checkSubjectGeneration (seed : Option String) (expected : String) : Res Unit :=
  match seed with
  | none => .error (.notFound "subject not found")
  | some seed => if seed ≠ expected then .error (.conflict "subject changed during token operation") else .ok ()

/-! ## Requests that write subjects and their tokens -/

/-- A token row, with the seed of the guard it was inserted under. -/
structure StoredToken where
  row : TokenRow
  guard : Option String
  deriving DecidableEq, Repr

/-- The records of a guarded write, each with the seed of its guard. -/
def storedTokens (records : List TokenRow) (guards : List SubjectWriteGuard) : List StoredToken :=
  records.map fun record => ⟨record, (record.subject.bind (findGuard guards record.kid)).map SubjectWriteGuard.seed⟩

inductive Request
  | saveSubject (row : SubjectRow)
  | saveTokensBatchGuarded (records : List TokenRow) (guards : List SubjectWriteGuard)
  | deleteSubject (kid subject : String)
  deriving DecidableEq, Repr

/-- What the three functions return. -/
inductive Reply
  | savedSubject (created : Bool)
  | savedTokens
  | deletedSubject
  deriving DecidableEq, Repr

/-- `rows_affected() == 0` after the commit of `delete_subject`. -/
def deleteSubjectReply (affected : Nat) : Res Reply :=
  if affected = 0 then .error (.notFound "subject not found") else .ok .deletedSubject

/-- The primary key of `tokens`. -/
def tokenKey (record : TokenRow) (stored : StoredToken) : Bool :=
  stored.row.kid = record.kid && stored.row.hashid = record.hashid

/-- `WHERE kid = ? AND subject = ?` on `tokens`. -/
def tokenOf (kid subject : String) (stored : StoredToken) : Bool :=
  stored.row.kid = kid && stored.row.subject = some subject

/-- `WHERE kid = ? AND subject = ?` on `subjects`, its primary key. -/
def subjectKey (kid subject : String) (row : SubjectRow) : Bool := row.kid = kid && row.subject = subject

/-- A token row that carries a subject has the subjects row of the generation it was inserted under. -/
def HasGeneration (subjects : List SubjectRow) (token : StoredToken) : Prop :=
  ∀ subject, token.row.subject = some subject →
    ∃ row ∈ subjects, row.kid = token.row.kid ∧ row.subject = subject ∧ token.guard = some row.seed

/-- A token row that carries a subject was written under one of the guards. -/
def Guarded (guards : List SubjectWriteGuard) (token : StoredToken) : Prop :=
  ∀ subject, token.row.subject = some subject →
    ∃ g ∈ guards, g.kid = token.row.kid ∧ g.subject = subject ∧ token.guard = some g.seed

/-- No token row outlives the generation of its subject. -/
def NoOrphans (tokens : List StoredToken) (subjects : List SubjectRow) : Prop :=
  ∀ token ∈ tokens, HasGeneration subjects token

/-- Under a seed whose subjects row is gone no token row is left. -/
def Erased (tokens : List StoredToken) (subjects : List SubjectRow) : Prop :=
  ∀ row, row ∉ subjects → ∀ token ∈ tokens, tokenOf row.kid row.subject token = true → token.guard ≠ some row.seed

theorem erased_of_noOrphans {tokens : List StoredToken} {subjects : List SubjectRow} (h : NoOrphans tokens subjects) :
    Erased tokens subjects := by
  intro row hrow token ht hof hguard
  simp only [tokenOf, Bool.and_eq_true, decide_eq_true_eq] at hof
  obtain ⟨kept, hkept, hkid, hsub, hseed⟩ := h token ht row.subject hof.2
  rw [hguard, Option.some.injEq] at hseed
  have : kept = row := by
    cases kept; cases row
    simp_all
  exact hrow (this ▸ hkept)

/-! ## What the guards cover -/

theorem findGuard_some {guards : List SubjectWriteGuard} {kid subject : String} {g : SubjectWriteGuard}
    (h : findGuard guards kid subject = some g) : g.kid = kid ∧ g.subject = subject := by
  simpa using List.find?_some h

theorem mem_insertOrdered_self (g : SubjectWriteGuard) : ∀ hs, g ∈ insertOrdered g hs
  | [] => List.mem_singleton.mpr rfl
  | h :: hs => by
    rw [insertOrdered]
    split
    · exact List.mem_cons_self
    · split
      · exact List.mem_cons_self
      · exact List.mem_cons_of_mem _ (mem_insertOrdered_self g hs)

/-- Inserting replaces only a guard of the same key. -/
theorem mem_insertOrdered_of_mem {g k : SubjectWriteGuard} (hk : g.sameKey k = true → g = k) :
    ∀ {hs : List SubjectWriteGuard}, k ∈ hs → k ∈ insertOrdered g hs
  | h :: hs, hm => by
    rw [insertOrdered]
    split
    · rename_i hsame
      rcases List.mem_cons.mp hm with rfl | hm
      · rw [hk hsame]; exact List.mem_cons_self
      · exact List.mem_cons_of_mem _ hm
    · split
      · exact List.mem_cons_of_mem _ hm
      · rcases List.mem_cons.mp hm with rfl | hm
        · exact List.mem_cons_self
        · exact List.mem_cons_of_mem _ (mem_insertOrdered_of_mem hk hm)

/-- The guards collected are found ones; those of the records and those collected before are all there. -/
theorem collectGuards_covers {guards : List SubjectWriteGuard} : ∀ {records : List TokenRow}
    {ordered result : List SubjectWriteGuard},
    (∀ g ∈ ordered, findGuard guards g.kid g.subject = some g) → collectGuards guards ordered records = .ok result →
      (∀ g ∈ ordered, g ∈ result) ∧ ∀ record ∈ records, ∀ subject, record.subject = some subject →
        ∃ g ∈ result, findGuard guards record.kid subject = some g
  | [], ordered, result, _, h => by
    simp only [collectGuards, Except.ok.injEq] at h
    subst h
    exact ⟨fun _ hg => hg, fun _ hr => absurd hr List.not_mem_nil⟩
  | record :: records, ordered, result, hord, h => by
    rw [collectGuards] at h
    split at h
    · rename_i hnone
      obtain ⟨h₁, h₂⟩ := collectGuards_covers hord h
      refine ⟨h₁, fun r hr subject hs => ?_⟩
      rcases List.mem_cons.mp hr with rfl | hr
      · rw [hnone] at hs; cases hs
      · exact h₂ r hr subject hs
    · rename_i subject hsome
      split at h
      · cases h
      · rename_i guard hfind
        obtain ⟨hkid, hsub⟩ := findGuard_some hfind
        -- a guard of the same key is the same guard: both are what `findGuard` returns for the key
        have hsame : ∀ k ∈ ordered, guard.sameKey k = true → guard = k := by
          intro k hk hkey
          simp only [SubjectWriteGuard.sameKey, Bool.and_eq_true, decide_eq_true_eq] at hkey
          have hk' := hord k hk
          rw [← hkey.1, ← hkey.2, hkid, hsub, hfind] at hk'
          exact Option.some.inj hk'
        have hins : ∀ g ∈ insertOrdered guard ordered, findGuard guards g.kid g.subject = some g := by
          intro g hg
          have hmem : g = guard ∨ g ∈ ordered := by
            clear hord hsame h
            induction ordered with
            | nil => exact Or.inl (List.mem_singleton.mp hg)
            | cons k ks ih =>
              rw [insertOrdered] at hg
              split at hg
              · rcases List.mem_cons.mp hg with rfl | hg
                · exact Or.inl rfl
                · exact Or.inr (List.mem_cons_of_mem _ hg)
              · split at hg
                · rcases List.mem_cons.mp hg with rfl | hg
                  · exact Or.inl rfl
                  · exact Or.inr hg
                · rcases List.mem_cons.mp hg with rfl | hg
                  · exact Or.inr List.mem_cons_self
                  · exact (ih hg).imp_right (List.mem_cons_of_mem _)
          rcases hmem with rfl | hmem
          · rw [hkid, hsub]; exact hfind
          · exact hord g hmem
        obtain ⟨h₁, h₂⟩ := collectGuards_covers hins h
        refine ⟨fun g hg => h₁ g (mem_insertOrdered_of_mem (hsame g hg) hg), fun r hr s hs => ?_⟩
        rcases List.mem_cons.mp hr with rfl | hr
        · rw [hsome, Option.some.injEq] at hs
          subst hs
          exact ⟨guard, h₁ guard (mem_insertOrdered_self guard ordered), hfind⟩
        · exact h₂ r hr s hs

/-- Every record with a subject has its guard among the collected ones. -/
theorem subjectWriteGuards_covers {records : List TokenRow} {guards ordered : List SubjectWriteGuard}
    (h : subjectWriteGuards records guards = .ok ordered) {record : TokenRow} (hr : record ∈ records) {subject : String}
    (hs : record.subject = some subject) : ∃ g ∈ ordered, findGuard guards record.kid subject = some g := by
  unfold subjectWriteGuards at h
  split at h
  · rename_i hall
    have := List.all_eq_true.mp hall record hr
    rw [hs] at this
    cases this
  · exact (collectGuards_covers (fun _ hg => absurd hg List.not_mem_nil) h).2 record hr subject hs

/-- The records of a guarded write are written under the collected guards. -/
theorem storedTokens_guarded {records : List TokenRow} {guards ordered : List SubjectWriteGuard}
    (h : subjectWriteGuards records guards = .ok ordered) {token : StoredToken}
    (ht : token ∈ storedTokens records guards) : Guarded ordered token := by
  intro subject hs
  obtain ⟨record, hr, rfl⟩ := List.mem_map.mp ht
  obtain ⟨g, hg, hfind⟩ := subjectWriteGuards_covers h hr hs
  obtain ⟨hkid, hsub⟩ := findGuard_some hfind
  exact ⟨g, hg, hkid, hsub, by simp [show record.subject = some subject from hs, hfind]⟩

theorem Guarded.mono {guards guards' : List SubjectWriteGuard} {token : StoredToken} (h : Guarded guards token)
    (hsub : ∀ g ∈ guards, g ∈ guards') : Guarded guards' token := by
  intro subject hs
  obtain ⟨g, hg, hrest⟩ := h subject hs
  exact ⟨g, hsub g hg, hrest⟩

theorem checkSubjectGeneration_ok {seed : Option String} {expected : String}
    (h : checkSubjectGeneration seed expected = .ok ()) : seed = some expected := by
  unfold checkSubjectGeneration at h
  split at h
  · cases h
  · split at h
    · cases h
    · rename_i hne
      rw [Classical.not_not.mp hne]

end Vectis.Core.Storage
