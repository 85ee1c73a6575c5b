import Vectis.Core.Storage.Postgres

/-!
# Erasure in PostgreSQL

Under the condition that no guarded write commits inside the window of a deletion of its subject, no orphan is left.

- `Does`: everything an effect can be (`effect_does`);
- `Inv`: the invariant. Its core is `covered`: a committed token has a committed subjects row of its generation, and an
  open deletion of that row has deleted the token too. `window` says that a deletion in its window will come to every
  committed token of its subject, `locks` that the guards of an open write stay locked until it ends;
- `inv_step`, `run_noOrphans`.
-/

namespace Vectis.Core.Storage.Postgres

open Mvcc

variable {s : State} {t : Nat} {tx : Tx}

/-! ## What an effect can be -/

inductive Does (s : State) (t : Nat) : Pc → Effect → Prop
  | subjectExists (row : SubjectRow) (reply : Res Reply) : Does s t (.insertSubject row) (.go (.commit reply))
  | insertSubject (row : SubjectRow) (reply : Res Reply) :
      Does s t (.insertSubject row) (.insertSubject row (.commit reply))
  | guardsLocked (records : List StoredToken) : Does s t (.lockGuards [] records) (.go (.insertTokens records))
  | findGuard (guard : SubjectWriteGuard) (found : Option Nat) (todo : List SubjectWriteGuard)
      (records : List StoredToken)
      (hfound : ∀ j, found = some j → j ∈ snapshot s.status t (subjectKey guard.kid guard.subject) s.subjects) :
      Does s t (.lockGuards (guard :: todo) records) (.go (.lockRow guard found todo records))
  | lockRow (guard : SubjectWriteGuard) (j : Nat) (v : Version SubjectRow) (todo : List SubjectWriteGuard)
      (records : List StoredToken) (hv : s.subjects[j]? = some v) (hfree : rowState s.status t false v = .free)
      (hseed : v.row.seed = guard.seed) :
      Does s t (.lockRow guard (some j) todo records) (.lock guard j (.lockGuards todo records))
  | tokensInserted (reply : Res Reply) : Does s t (.insertTokens []) (.go (.commit reply))
  | insertToken (record : StoredToken) (records : List StoredToken) :
      Does s t (.insertTokens (record :: records)) (.insertToken record (.insertTokens records))
  | findTokens (kid subject : String) : Does s t (.deleteTokens kid subject)
      (.go (.deleteTokenRows kid subject (snapshot s.status t (tokenOf kid subject) s.tokens)))
  | tokensDeleted (kid subject : String) : Does s t (.deleteTokenRows kid subject []) (.go (.deleteSubject kid subject))
  | skipToken (kid subject : String) (todo : List Nat) (i : Nat) (v : Version StoredToken) (hv : s.tokens[i]? = some v)
      (hgone : rowState s.status t true v = .gone) :
      Does s t (.deleteTokenRows kid subject todo) (.go (.deleteTokenRows kid subject (todo.erase i)))
  | deleteToken (kid subject : String) (todo : List Nat) (i : Nat) (v : Version StoredToken)
      (hv : s.tokens[i]? = some v) (hfree : rowState s.status t true v = .free) :
      Does s t (.deleteTokenRows kid subject todo) (.deleteToken i (.deleteTokenRows kid subject (todo.erase i)))
  | findSubject (kid subject : String) : Does s t (.deleteSubject kid subject)
      (.go (.deleteSubjectRows kid subject (snapshot s.status t (subjectKey kid subject) s.subjects) 0))
  | subjectDeleted (kid subject : String) (affected : Nat) (reply : Res Reply) :
      Does s t (.deleteSubjectRows kid subject [] affected) (.go (.commit reply))
  | skipSubject (kid subject : String) (todo : List Nat) (affected i : Nat) (hi : i ∈ todo) :
      Does s t (.deleteSubjectRows kid subject todo affected)
        (.go (.deleteSubjectRows kid subject (todo.erase i) affected))
  | deleteSubject (kid subject : String) (todo : List Nat) (affected i : Nat) (hi : i ∈ todo) (v : Version SubjectRow)
      (hv : s.subjects[i]? = some v) (hfree : rowState s.status t true v = .free) :
      Does s t (.deleteSubjectRows kid subject todo affected)
        (.deleteSubject i (.deleteSubjectRows kid subject (todo.erase i) (affected + 1)))
  | commit (reply : Res Reply) : Does s t (.commit reply) (.commit reply)
  | fail (pc : Pc) (err : DynError) : Does s t pc (.fail err)

/-- A row that was not found fails the generation check. -/
theorem checked_none (guard : SubjectWriteGuard) (next : Effect) : ∃ err, checked none guard next = .fail err :=
  ⟨_, rfl⟩

theorem checked_some (seed : String) (guard : SubjectWriteGuard) (next : Effect) :
    (∃ err, checked (some seed) guard next = .fail err) ∨
    (seed = guard.seed ∧ checked (some seed) guard next = next) := by
  unfold checked
  split
  · exact Or.inl ⟨_, rfl⟩
  · rename_i hok
    exact Or.inr ⟨Option.some.inj (checkSubjectGeneration_ok hok), rfl⟩

theorem deleteRow_cases {ρ : Type} {st : Nat → Status} {i : Nat} {h : List (Version ρ)} {skip delete e : Effect}
    (he : deleteRow st t i h skip delete = some e) : ∃ v, h[i]? = some v ∧
      ((rowState st t true v = .gone ∧ e = skip) ∨ (rowState st t true v = .free ∧ e = delete)) := by
  unfold deleteRow at he
  obtain ⟨v, hv, he⟩ := Option.bind_eq_some_iff.mp he
  refine ⟨v, hv, ?_⟩
  split at he
  · rename_i hgone
    exact Or.inl ⟨hgone, (Option.some.inj he).symm⟩
  · cases he
  · rename_i hfree
    exact Or.inr ⟨hfree, (Option.some.inj he).symm⟩

theorem effect_does {i : Nat} {pc : Pc} {e : Effect} (h : effect s t i pc = some e) : Does s t pc e := by
  cases pc with
  | insertSubject row =>
    simp only [effect] at h
    split at h <;> cases h
    · exact .subjectExists row _
    · exact .insertSubject row _
  | lockGuards todo records =>
    cases todo with
    | nil => cases h; exact .guardsLocked records
    | cons guard todo =>
      cases h
      exact .findGuard guard _ todo records fun j hj => List.mem_of_head? hj
  | lockRow guard found todo records =>
    cases found with
    | none =>
      obtain ⟨err, herr⟩ := checked_none guard (.go (.lockGuards todo records))
      simp only [effect, herr, Option.some.injEq] at h
      subst h
      exact .fail _ err
    | some j =>
      simp only [effect] at h
      obtain ⟨v, hv, h⟩ := Option.bind_eq_some_iff.mp h
      split at h
      · obtain ⟨err, herr⟩ := checked_none guard (.go (.lockGuards todo records))
        rw [herr] at h
        cases h
        exact .fail _ err
      · cases h
      · rename_i hfree
        cases h
        rcases checked_some v.row.seed guard (.lock guard j (.lockGuards todo records)) with
          ⟨err, herr⟩ | ⟨hseed, hnext⟩
        · rw [herr]; exact .fail _ err
        · rw [hnext]; exact .lockRow guard j v todo records hv hfree hseed
  | insertTokens records =>
    cases records with
    | nil => cases h; exact .tokensInserted _
    | cons record records =>
      simp only [effect] at h
      split at h <;> cases h
      · exact .fail _ _
      · exact .insertToken record records
  | deleteTokens kid subject => cases h; exact .findTokens kid subject
  | deleteTokenRows kid subject todo =>
    simp only [effect] at h
    split at h
    · rename_i hnil
      cases h
      subst hnil
      exact .tokensDeleted kid subject
    · split at h
      · obtain ⟨v, hv, ⟨hgone, rfl⟩ | ⟨hfree, rfl⟩⟩ := deleteRow_cases h
        · exact .skipToken kid subject todo i v hv hgone
        · exact .deleteToken kid subject todo i v hv hfree
      · cases h
  | deleteSubject kid subject => cases h; exact .findSubject kid subject
  | deleteSubjectRows kid subject todo affected =>
    simp only [effect] at h
    split at h
    · rename_i hnil
      cases h
      subst hnil
      exact .subjectDeleted kid subject affected _
    · split at h
      · rename_i hi
        obtain ⟨v, hv, ⟨hgone, rfl⟩ | ⟨hfree, rfl⟩⟩ := deleteRow_cases h
        · exact .skipSubject kid subject todo affected i hi
        · exact .deleteSubject kid subject todo affected i hi v hv hfree
      · cases h
  | commit reply => cases h; exact .commit reply

/-! ## The invariant -/

/-- What the rows that are left rely on. -/
def PcOk (s : State) (t : Nat) (tx : Tx) : Pc → Prop
  | .lockGuards todo records => ∀ token ∈ records, Guarded (todo ++ tx.locked) token
  | .lockRow guard found todo records => (∀ token ∈ records, Guarded (guard :: (todo ++ tx.locked)) token) ∧
      ∀ j, found = some j → ∃ v, s.subjects[j]? = some v ∧ subjectKey guard.kid guard.subject v.row = true ∧
        inserted s.status t v = true
  | .insertTokens records => ∀ token ∈ records, Guarded tx.locked token
  | .deleteTokens _ _ | .deleteTokenRows _ _ _ | .deleteSubject _ _ => tx.locked = []
  | .deleteSubjectRows kid subject todo _ => tx.locked = [] ∧
      ∀ j ∈ todo, ∃ v, s.subjects[j]? = some v ∧ subjectKey kid subject v.row = true
  | .insertSubject _ | .commit _ => True

/-- The version names transactions that exist. -/
def Known {ρ : Type} (s : State) (v : Version ρ) : Prop :=
  v.xmin < s.txs.length ∧ ∀ x, v.xmax = some x → x < s.txs.length

/-- A subjects version of the token's generation; an open deletion of it has deleted the token as well. -/
def Covers (s : State) (token : Version StoredToken) (v : Version SubjectRow) : Prop :=
  live s.status v = true ∧ v.row.kid = token.row.row.kid ∧ token.row.row.subject = some v.row.subject ∧
    token.row.guard = some v.row.seed ∧ ∀ d, v.xmax = some d → s.status d = .active → token.xmax = some d

/-- A version that the guard has locked: the lock of `t` is on it and no deletion counts. -/
def Held (s : State) (t : Nat) (g : SubjectWriteGuard) (v : Version SubjectRow) : Prop :=
  v.row = g.row ∧ t ∈ v.share ∧ inserted s.status t v = true ∧ ∀ x, v.xmax = some x → s.status x = .aborted

structure Inv (s : State) : Prop where
  tokenIds : ∀ v ∈ s.tokens, Known s v
  subjectIds : ∀ v ∈ s.subjects, Known s v
  covered : ∀ (i : Nat) (token : Version StoredToken), s.tokens[i]? = some token → live s.status token = true →
    token.row.row.subject.isSome → ∃ (j : Nat) (v : Version SubjectRow), s.subjects[j]? = some v ∧ Covers s token v
  window : ∀ (d : Nat) (tx : Tx), s.openTx d = some tx → ∀ kid subject todo, tx.pc.window = some (kid, subject, todo) →
    ∀ (i : Nat) (token : Version StoredToken), s.tokens[i]? = some token → live s.status token = true →
      tokenOf kid subject token.row = true → token.xmax = some d ∨ i ∈ todo
  locks : ∀ (t : Nat) (tx : Tx), s.openTx t = some tx → ∀ g ∈ tx.locked,
    ∃ (j : Nat) (v : Version SubjectRow), s.subjects[j]? = some v ∧ Held s t g v
  fresh : ∀ (i : Nat) (token : Version StoredToken), s.tokens[i]? = some token → ∀ tx, s.openTx token.xmin = some tx →
    Guarded tx.locked token.row
  pcs : ∀ (t : Nat) (tx : Tx), s.openTx t = some tx → PcOk s t tx tx.pc

/-! ## Transactions after a step -/

theorem openTx_iff : s.openTx t = some tx ↔ s.txs[t]? = some tx ∧ tx.status = .active := by
  simp [State.openTx, Option.filter_eq_some_iff]

theorem status_of_openTx (h : s.openTx t = some tx) : s.status t = .active := by
  obtain ⟨h₁, h₂⟩ := openTx_iff.mp h
  simp [State.status, h₁, h₂]

theorem lt_of_openTx (h : s.openTx t = some tx) : t < s.txs.length :=
  (List.getElem?_eq_some_iff.mp (openTx_iff.mp h).1).1

theorem getElem?_set_openTx (h : s.openTx t = some tx) (tx' : Tx) (u : Nat) :
    (s.txs.set t tx')[u]? = if u = t then some tx' else s.txs[u]? := by
  rw [List.getElem?_set]
  by_cases hu : u = t
  · simp [hu, lt_of_openTx h]
  · simp [hu, Ne.symm hu]

/-- The status of the transactions after `t` is replaced. -/
theorem status_set {s' : State} (tx' : Tx) (h : s.openTx t = some tx) (htxs : s'.txs = s.txs.set t tx') (u : Nat) :
    s'.status u = if u = t then tx'.status else s.status u := by
  unfold State.status
  rw [htxs, getElem?_set_openTx h]
  by_cases hu : u = t <;> simp [hu]

/-- The open transactions after `t` is replaced. -/
theorem openTx_set {s' : State} (tx' : Tx) (h : s.openTx t = some tx) (htxs : s'.txs = s.txs.set t tx') (u : Nat) :
    s'.openTx u = if u = t then (if tx'.status = .active then some tx' else none) else s.openTx u := by
  unfold State.openTx
  rw [htxs, getElem?_set_openTx h]
  by_cases hu : u = t <;> simp [hu, Option.filter_some]

/-- The step changes `t` only, which stays open: no status changes. -/
structure Moves (s s' : State) (t : Nat) (tx' : Tx) : Prop where
  status : s'.status = s.status
  openTx : ∀ u, s'.openTx u = if u = t then some tx' else s.openTx u
  length : s'.txs.length = s.txs.length

theorem moves_of_set {s' : State} {tx' : Tx} (h : s.openTx t = some tx) (hact : tx'.status = .active)
    (htxs : s'.txs = s.txs.set t tx') : Moves s s' t tx' := by
  refine ⟨funext fun u => ?_, fun u => ?_, by rw [htxs, List.length_set]⟩
  · rw [status_set tx' h htxs]
    split
    · rename_i hu
      rw [hu, hact, status_of_openTx h]
    · rfl
  · rw [openTx_set tx' h htxs, if_pos hact]

/-- The open transactions after the step: `t` as it is now, or another one as it was. -/
theorem Moves.cases {s' : State} {tx' ux : Tx} {u : Nat} (hm : Moves s s' t tx') (h : s'.openTx u = some ux) :
    (u = t ∧ ux = tx') ∨ (u ≠ t ∧ s.openTx u = some ux) := by
  rw [hm.openTx] at h
  split at h
  · rename_i hu
    exact Or.inl ⟨hu, (Option.some.inj h).symm⟩
  · rename_i hu
    exact Or.inr ⟨hu, h⟩

/-- When `t` keeps its locks, every open transaction was open with the same locks. -/
theorem Moves.prev {s' : State} {tx' ux : Tx} {u : Nat} (hm : Moves s s' t tx') (ho : s.openTx t = some tx)
    (hlocked : tx'.locked = tx.locked) (h : s'.openTx u = some ux) :
    ∃ ux', s.openTx u = some ux' ∧ ux'.locked = ux.locked := by
  rcases hm.cases h with ⟨rfl, rfl⟩ | ⟨-, hu⟩
  · exact ⟨tx, ho, hlocked.symm⟩
  · exact ⟨ux, hu, rfl⟩

/-! ## What carries over -/

theorem Known.mono {ρ : Type} {s' : State} {v : Version ρ} (h : Known s v) (hlen : s.txs.length ≤ s'.txs.length) :
    Known s' v :=
  ⟨Nat.lt_of_lt_of_le h.1 hlen, fun x hx => Nat.lt_of_lt_of_le (h.2 x hx) hlen⟩

theorem Moves.known {ρ : Type} {s' : State} {tx' : Tx} {v : Version ρ} (hm : Moves s s' t tx') (h : Known s v) :
    Known s' v :=
  h.mono (Nat.le_of_eq hm.length.symm)

/-- Versions keep their rows and inserters, and what has committed stays so. -/
theorem PcOk.mono {s' : State} {pc : Pc} (h : PcOk s t tx pc) (hext : Extends s.subjects s'.subjects)
    (hst : ∀ x, s.status x = .committed → s'.status x = .committed) : PcOk s' t tx pc := by
  cases pc with
  | lockRow guard found todo records =>
    refine ⟨h.1, fun j hj => ?_⟩
    obtain ⟨v, hv, hkey, hins⟩ := h.2 j hj
    obtain ⟨w, hw, hrow, hxmin⟩ := hext j v hv
    refine ⟨w, hw, hrow ▸ hkey, inserted_iff.mpr ?_⟩
    rw [hxmin]
    exact (inserted_iff.mp hins).imp_right (hst v.xmin)
  | deleteSubjectRows kid subject todo affected =>
    refine ⟨h.1, fun j hj => ?_⟩
    obtain ⟨v, hv, hkey⟩ := h.2 j hj
    obtain ⟨w, hw, hrow, -⟩ := hext j v hv
    exact ⟨w, hw, hrow ▸ hkey⟩
  | _ => exact h

theorem Covers.congr {s' : State} {token : Version StoredToken} {v w : Version SubjectRow} (h : Covers s token v)
    (hst : s'.status = s.status) (hrow : w.row = v.row) (hxmin : w.xmin = v.xmin) (hxmax : w.xmax = v.xmax) :
    Covers s' token w := by
  obtain ⟨hlive, hkid, hsub, hseed, hdel⟩ := h
  rw [live_iff] at hlive
  refine ⟨live_iff.mpr ?_, ?_, ?_, ?_, ?_⟩
  · rw [hst, hxmin, hxmax]; exact hlive
  · rw [hrow]; exact hkid
  · rw [hrow]; exact hsub
  · rw [hrow]; exact hseed
  · rw [hst, hxmax]; exact hdel

theorem Held.congr {s' : State} {g : SubjectWriteGuard} {v w : Version SubjectRow} (h : Held s t g v)
    (hst : s'.status = s.status) (hrow : w.row = v.row) (hxmin : w.xmin = v.xmin) (hxmax : w.xmax = v.xmax)
    (hshare : ∀ x ∈ v.share, x ∈ w.share) : Held s' t g w := by
  obtain ⟨hg, hmem, hins, hdel⟩ := h
  refine ⟨hrow.trans hg, hshare t hmem, ?_, ?_⟩
  · rw [inserted_iff, hst, hxmin]; exact inserted_iff.mp hins
  · rw [hst, hxmax]; exact hdel

/-- The locks of an open transaction are still held when the subjects rows stay as they are. -/
theorem Moves.locks {s' : State} {tx' ux : Tx} {u : Nat} {g : SubjectWriteGuard} (hm : Moves s s' t tx') (hI : Inv s)
    (ho : s.openTx t = some tx) (hlocked : tx'.locked = tx.locked) (hsub : s'.subjects = s.subjects)
    (h : s'.openTx u = some ux) (hg : g ∈ ux.locked) :
    ∃ (j : Nat) (v : Version SubjectRow), s'.subjects[j]? = some v ∧ Held s' u g v := by
  obtain ⟨ux', hu', hl⟩ := hm.prev ho hlocked h
  obtain ⟨j, v, hv, hh⟩ := hI.locks u ux' hu' g (hl ▸ hg)
  exact ⟨j, v, hsub ▸ hv, hh.congr hm.status rfl rfl rfl fun _ h => h⟩

/-! ## Effects that only move the transaction on -/

/-- While rows are left to do, the deletion of the subjects row is in the window of its subject. -/
theorem window_deleteSubjectRows {kid subject kid' subject' : String} {rows todo : List Nat} {affected : Nat}
    (h : (Pc.deleteSubjectRows kid subject rows affected).window = some (kid', subject', todo)) :
    (kid', subject', todo) = (kid, subject, []) := by
  cases rows with
  | nil => cases h
  | cons row rows => exact (Option.some.inj h).symm

theorem window_of_mem {kid subject : String} {rows : List Nat} {affected i : Nat} (hi : i ∈ rows) :
    (Pc.deleteSubjectRows kid subject rows affected).window = some (kid, subject, []) := by
  cases rows with
  | nil => exact absurd hi List.not_mem_nil
  | cons row rows => rfl

/-- Moving on keeps the promise of the window: every committed token of the subject is deleted by `t` or still to do. -/
theorem window_go (hI : Inv s) (ho : s.openTx t = some tx) {p pc : Pc} (hp : tx.pc = p) (hd : Does s t p (.go pc))
    {kid subject : String} {todo : List Nat} (hw : pc.window = some (kid, subject, todo)) {i : Nat}
    {token : Version StoredToken} (hi : s.tokens[i]? = some token) (hl : live s.status token = true)
    (hof : tokenOf kid subject token.row = true) : token.xmax = some t ∨ i ∈ todo := by
  cases hd with
  | subjectExists | guardsLocked | findGuard | tokensInserted | subjectDeleted => cases hw
  | findTokens kid' subject' =>
    cases hw
    exact (mem_snapshot_of_live hi hl hof).symm
  | tokensDeleted kid' subject' =>
    cases hw
    exact hI.window t tx ho _ _ _ (by rw [hp]; rfl) i token hi hl hof
  | skipToken kid' subject' todo' j v hv hgone =>
    cases hw
    rcases hI.window t tx ho _ _ _ (by rw [hp]; rfl) i token hi hl hof with hx | hmem
    · exact Or.inl hx
    · by_cases hij : i = j
      · subst hij
        rw [hi, Option.some.injEq] at hv
        subst hv
        -- a live row that is gone was deleted by `t` itself
        obtain ⟨x, hx, rfl | hcom⟩ := rowState_gone hgone
        · exact Or.inl hx
        · exact absurd hcom ((live_iff.mp hl).2 x hx)
      · exact Or.inr ((List.mem_erase_of_ne hij).mpr hmem)
  | findSubject kid' subject' =>
    cases window_deleteSubjectRows hw
    exact hI.window t tx ho _ _ _ (by rw [hp]; rfl) i token hi hl hof
  | skipSubject kid' subject' todo' affected j hj =>
    cases window_deleteSubjectRows hw
    exact hI.window t tx ho _ _ _ (by rw [hp]; exact window_of_mem hj) i token hi hl hof

theorem pcOk_go (hI : Inv s) (ho : s.openTx t = some tx) {p pc : Pc} (hp : tx.pc = p) (hd : Does s t p (.go pc)) :
    PcOk s t { tx with pc := pc } pc := by
  have hok := hI.pcs t tx ho
  rw [hp] at hok
  cases hd with
  | subjectExists | tokensInserted | subjectDeleted => trivial
  | guardsLocked records => exact hok
  | findGuard guard found todo records hfound =>
    refine ⟨hok, fun j hj => ?_⟩
    obtain ⟨v, hv, hvis, hkey⟩ := mem_snapshot.mp (hfound j hj)
    exact ⟨v, hv, hkey, (Bool.and_eq_true_iff.mp hvis).1⟩
  | findTokens | tokensDeleted | skipToken => exact hok
  | findSubject kid subject =>
    refine ⟨hok, fun j hj => ?_⟩
    obtain ⟨v, hv, -, hkey⟩ := mem_snapshot.mp hj
    exact ⟨v, hv, hkey⟩
  | skipSubject kid subject todo affected i hi =>
    exact ⟨hok.1, fun j hj => hok.2 j (List.mem_of_mem_erase hj)⟩

theorem inv_go (hI : Inv s) (ho : s.openTx t = some tx) {pc : Pc} (hd : Does s t tx.pc (.go pc)) :
    Inv (apply s t tx (.go pc)) := by
  have hm : Moves s (apply s t tx (.go pc)) t { tx with pc := pc } := moves_of_set ho (openTx_iff.mp ho).2 rfl
  refine ⟨fun v hv => hm.known (hI.tokenIds v hv), fun v hv => hm.known (hI.subjectIds v hv),
    fun i token hi hl hs => ?_, fun d dx hdx kid subject todo hw i token hi hl hof => ?_,
    fun u ux hu g hg => hm.locks hI ho rfl rfl hu hg, fun i token hi ux hu => ?_, fun u ux hu => ?_⟩
  · rw [hm.status] at hl
    obtain ⟨j, v, hv, hc⟩ := hI.covered i token hi hl hs
    exact ⟨j, v, hv, hc.congr hm.status rfl rfl rfl⟩
  · rw [hm.status] at hl
    rcases hm.cases hdx with ⟨rfl, rfl⟩ | ⟨-, hdx⟩
    · exact window_go hI ho rfl hd hw hi hl hof
    · exact hI.window d dx hdx kid subject todo hw i token hi hl hof
  · obtain ⟨ux', hu', hlocked⟩ := hm.prev ho rfl hu
    exact hlocked ▸ hI.fresh i token hi ux' hu'
  · rcases hm.cases hu with ⟨rfl, rfl⟩ | ⟨-, hu⟩
    · exact (pcOk_go hI ho rfl hd).mono (extends_refl _) fun x hx => hm.status ▸ hx
    · exact (hI.pcs u ux hu).mono (extends_refl _) fun x hx => hm.status ▸ hx

/-! ## The guarded write -/

/-- The row that `FOR SHARE` locked is the row of the guard, and it is not being deleted. -/
theorem held_of_lockRow (hI : Inv s) (ho : s.openTx t = some tx) {guard : SubjectWriteGuard} {j : Nat}
    {todo : List SubjectWriteGuard} {records : List StoredToken} {v : Version SubjectRow}
    (hp : tx.pc = .lockRow guard (some j) todo records) (hv : s.subjects[j]? = some v)
    (hfree : rowState s.status t false v = .free) (hseed : v.row.seed = guard.seed) :
    v.row = guard.row ∧ inserted s.status t v = true ∧ ∀ x, v.xmax = some x → s.status x = .aborted := by
  have hok := hI.pcs t tx ho
  rw [hp] at hok
  obtain ⟨w, hw, hkey, hins⟩ := hok.2 j rfl
  rw [hv, Option.some.injEq] at hw
  subst hw
  refine ⟨?_, hins, (rowState_free hfree).1⟩
  simp only [subjectKey, Bool.and_eq_true, decide_eq_true_eq] at hkey
  simp only [SubjectWriteGuard.row, ← hkey.1, ← hkey.2, ← hseed]

theorem inv_lock (hI : Inv s) (ho : s.openTx t = some tx) {guard : SubjectWriteGuard} {j : Nat} {v : Version SubjectRow}
    {todo : List SubjectWriteGuard} {records : List StoredToken} (hp : tx.pc = .lockRow guard (some j) todo records)
    (hv : s.subjects[j]? = some v) (hfree : rowState s.status t false v = .free) (hseed : v.row.seed = guard.seed) :
    Inv (apply s t tx (.lock guard j (.lockGuards todo records))) := by
  have hm : Moves s (apply s t tx (.lock guard j (.lockGuards todo records))) t
      { tx with pc := .lockGuards todo records, locked := guard :: tx.locked } :=
    moves_of_set ho (openTx_iff.mp ho).2 rfl
  have hheld : ∀ u g, (∃ (k : Nat) (w : Version SubjectRow), s.subjects[k]? = some w ∧ Held s u g w) →
      ∃ (k : Nat) (w : Version SubjectRow), (lockShare s.subjects j t)[k]? = some w ∧
        Held (apply s t tx (.lock guard j (.lockGuards todo records))) u g w := by
    rintro u g ⟨k, w, hw, hh⟩
    obtain ⟨w', hw', hrow, hxmin, hxmax, hshare, -⟩ := getElem?_lockShare_of_some hw
    exact ⟨k, w', hw', hh.congr hm.status hrow hxmin hxmax hshare⟩
  refine ⟨fun w hw => hm.known (hI.tokenIds w hw), fun w hw => ?_, fun i token hi hl hs => ?_,
    fun d dx hdx kid subject todo hw i token hi hl hof => ?_, fun u ux hu g hg => ?_, fun i token hi ux hu => ?_,
    fun u ux hu => ?_⟩
  · obtain ⟨k, hk⟩ := List.mem_iff_getElem?.mp hw
    obtain ⟨w₀, hw₀, -, hxmin, hxmax⟩ := getElem?_lockShare_inv hk
    have hknown := hm.known (hI.subjectIds w₀ (List.mem_of_getElem? hw₀))
    exact ⟨hxmin ▸ hknown.1, hxmax ▸ hknown.2⟩
  · obtain ⟨k, w, hw, hc⟩ := hI.covered i token hi (by rwa [hm.status] at hl) hs
    obtain ⟨w', hw', hrow, hxmin, hxmax, -⟩ := getElem?_lockShare_of_some hw
    exact ⟨k, w', hw', hc.congr hm.status hrow hxmin hxmax⟩
  · rw [hm.status] at hl
    rcases hm.cases hdx with ⟨rfl, rfl⟩ | ⟨-, hdx⟩
    · cases hw
    · exact hI.window d dx hdx kid subject todo hw i token hi hl hof
  · rcases hm.cases hu with ⟨rfl, rfl⟩ | ⟨-, hu⟩
    · rcases List.mem_cons.mp hg with rfl | hg
      · obtain ⟨hrow, hins, hdel⟩ := held_of_lockRow hI ho hp hv hfree hseed
        obtain ⟨w, hw, hrow', hxmin, hxmax, -, hmem⟩ := getElem?_lockShare_of_some (i := j) (t := u) hv
        have hdel' : ∀ x, w.xmax = some x → s.status x = .aborted := by rw [hxmax]; exact hdel
        exact ⟨j, w, hw, hrow'.trans hrow, hmem rfl,
          by rw [hm.status, inserted_iff, hxmin]; exact inserted_iff.mp hins, by rw [hm.status]; exact hdel'⟩
      · exact hheld u g (hI.locks u tx ho g hg)
    · exact hheld u g (hI.locks u ux hu g hg)
  · rcases hm.cases hu with ⟨hu', rfl⟩ | ⟨-, hu⟩
    · exact (hI.fresh i token hi tx (hu' ▸ ho)).mono fun g hg => List.mem_cons_of_mem _ hg
    · exact hI.fresh i token hi ux hu
  · rcases hm.cases hu with ⟨rfl, rfl⟩ | ⟨-, hu⟩
    · have hok := hI.pcs u tx ho
      rw [hp] at hok
      intro token ht
      refine (hok.1 token ht).mono fun g hg => ?_
      simp only [List.mem_cons, List.mem_append] at hg ⊢
      exact or_left_comm.mp hg
    · exact (hI.pcs u ux hu).mono extends_lockShare fun x hx => hm.status ▸ hx

theorem inv_insertToken (hI : Inv s) (ho : s.openTx t = some tx) {record : StoredToken} {records : List StoredToken}
    (hp : tx.pc = .insertTokens (record :: records)) :
    Inv (apply s t tx (.insertToken record (.insertTokens records))) := by
  have hm : Moves s (apply s t tx (.insertToken record (.insertTokens records))) t
      { tx with pc := .insertTokens records } := moves_of_set ho (openTx_iff.mp ho).2 rfl
  have hok := hI.pcs t tx ho
  rw [hp] at hok
  -- the new version is not committed: its inserter is open
  have hold : ∀ {i : Nat} {token : Version StoredToken}, (insertRow s.tokens record t)[i]? = some token →
      live s.status token = true → s.tokens[i]? = some token := by
    intro i token hi hl
    rcases getElem?_insertRow hi with hi | rfl
    · exact hi
    · have := (live_iff.mp hl).1
      rw [status_of_openTx ho] at this
      cases this
  refine ⟨fun v hv => ?_, fun v hv => hm.known (hI.subjectIds v hv), fun i token hi hl hs => ?_,
    fun d dx hdx kid subject todo hw i token hi hl hof => ?_, fun u ux hu g hg => hm.locks hI ho rfl rfl hu hg,
    fun i token hi ux hu => ?_, fun u ux hu => ?_⟩
  · rcases List.mem_append.mp hv with hv | hv
    · exact hm.known (hI.tokenIds v hv)
    · rw [List.mem_singleton.mp hv]
      exact hm.known ⟨lt_of_openTx ho, fun x hx => by cases hx⟩
  · rw [hm.status] at hl
    obtain ⟨j, v, hv, hc⟩ := hI.covered i token (hold hi hl) hl hs
    exact ⟨j, v, hv, hc.congr hm.status rfl rfl rfl⟩
  · rw [hm.status] at hl
    rcases hm.cases hdx with ⟨rfl, rfl⟩ | ⟨-, hdx⟩
    · cases hw
    · exact hI.window d dx hdx kid subject todo hw i token (hold hi hl) hl hof
  · rcases getElem?_insertRow hi with hi | rfl
    · rcases hm.cases hu with ⟨hu', rfl⟩ | ⟨-, hu⟩
      · exact hI.fresh i token hi tx (hu' ▸ ho)
      · exact hI.fresh i token hi ux hu
    · rcases hm.cases hu with ⟨-, rfl⟩ | ⟨hne, -⟩
      · exact hok record List.mem_cons_self
      · exact absurd rfl hne
  · rcases hm.cases hu with ⟨rfl, rfl⟩ | ⟨-, hu⟩
    · exact fun token ht => hok token (List.mem_cons_of_mem _ ht)
    · exact (hI.pcs u ux hu).mono (extends_refl _) fun x hx => hm.status ▸ hx

/-! ## The subjects row and the deletion -/

theorem inv_insertSubject (hI : Inv s) (ho : s.openTx t = some tx) (row : SubjectRow) (reply : Res Reply) :
    Inv (apply s t tx (.insertSubject row (.commit reply))) := by
  have hm : Moves s (apply s t tx (.insertSubject row (.commit reply))) t { tx with pc := .commit reply } :=
    moves_of_set ho (openTx_iff.mp ho).2 rfl
  refine ⟨fun v hv => hm.known (hI.tokenIds v hv), fun v hv => ?_, fun i token hi hl hs => ?_,
    fun d dx hdx kid subject todo hw i token hi hl hof => ?_, fun u ux hu g hg => ?_, fun i token hi ux hu => ?_,
    fun u ux hu => ?_⟩
  · rcases List.mem_append.mp hv with hv | hv
    · exact hm.known (hI.subjectIds v hv)
    · rw [List.mem_singleton.mp hv]
      exact hm.known ⟨lt_of_openTx ho, fun x hx => by cases hx⟩
  · rw [hm.status] at hl
    obtain ⟨j, v, hv, hc⟩ := hI.covered i token hi hl hs
    exact ⟨j, v, getElem?_insertRow_of_some hv, hc.congr hm.status rfl rfl rfl⟩
  · rw [hm.status] at hl
    rcases hm.cases hdx with ⟨rfl, rfl⟩ | ⟨-, hdx⟩
    · cases hw
    · exact hI.window d dx hdx kid subject todo hw i token hi hl hof
  · obtain ⟨ux', hu', hlocked⟩ := hm.prev ho rfl hu
    obtain ⟨j, v, hv, hh⟩ := hI.locks u ux' hu' g (hlocked ▸ hg)
    exact ⟨j, v, getElem?_insertRow_of_some hv, hh.congr hm.status rfl rfl rfl fun _ h => h⟩
  · obtain ⟨ux', hu', hlocked⟩ := hm.prev ho rfl hu
    exact hlocked ▸ hI.fresh i token hi ux' hu'
  · rcases hm.cases hu with ⟨rfl, rfl⟩ | ⟨-, hu⟩
    · trivial
    · exact (hI.pcs u ux hu).mono extends_insertRow fun x hx => hm.status ▸ hx

theorem inv_deleteToken (hI : Inv s) (ho : s.openTx t = some tx) {kid subject : String} {todo : List Nat} {i : Nat}
    {v : Version StoredToken} (hp : tx.pc = .deleteTokenRows kid subject todo) (hv : s.tokens[i]? = some v)
    (hfree : rowState s.status t true v = .free) :
    Inv (apply s t tx (.deleteToken i (.deleteTokenRows kid subject (todo.erase i)))) := by
  have hm : Moves s (apply s t tx (.deleteToken i (.deleteTokenRows kid subject (todo.erase i)))) t
      { tx with pc := .deleteTokenRows kid subject (todo.erase i) } := moves_of_set ho (openTx_iff.mp ho).2 rfl
  have hab := (rowState_free hfree).1
  -- a version that is live now was live before, and an open deletion of it is still the one it had, or that of `t`
  have hold : ∀ {j : Nat} {token : Version StoredToken}, (setXmax s.tokens i t)[j]? = some token →
      live s.status token = true → ∃ w, s.tokens[j]? = some w ∧ live s.status w = true ∧ token.row = w.row ∧
        ((i = j ∧ token.xmax = some t) ∨ (i ≠ j ∧ token.xmax = w.xmax)) ∧
          ∀ d, s.status d = .active → w.xmax = some d → token.xmax = some d := by
    intro j token hj hl
    obtain ⟨w, hw, hrow, hxmin, -, hx⟩ := getElem?_setXmax_inv hj
    have hl' := live_iff.mp hl
    rcases hx with ⟨rfl, hx⟩ | ⟨hne, hx⟩
    · rw [hv, Option.some.injEq] at hw
      subst hw
      refine ⟨v, hv, live_iff.mpr ⟨hxmin ▸ hl'.1, fun x hx' => ?_⟩, hrow, Or.inl ⟨rfl, hx⟩, fun d hd hx' => ?_⟩
      · rw [hab x hx']; exact fun h => nomatch h
      · rw [hab d hx'] at hd; cases hd
    · exact ⟨w, hw, live_iff.mpr ⟨hxmin ▸ hl'.1, hx ▸ hl'.2⟩, hrow, Or.inr ⟨hne, hx⟩, fun d _ hx' => hx.trans hx'⟩
  refine ⟨fun w hw => ?_, fun w hw => hm.known (hI.subjectIds w hw), fun j token hj hl hs => ?_,
    fun d dx hdx kid' subject' todo' hw j token hj hl hof => ?_, fun u ux hu g hg => hm.locks hI ho rfl rfl hu hg,
    fun j token hj ux hu => ?_, fun u ux hu => ?_⟩
  · obtain ⟨k, hk⟩ := List.mem_iff_getElem?.mp hw
    obtain ⟨w₀, hw₀, -, hxmin, -, hx⟩ := getElem?_setXmax_inv hk
    have hknown := hI.tokenIds w₀ (List.mem_of_getElem? hw₀)
    refine hm.known ⟨hxmin ▸ hknown.1, fun x hx' => ?_⟩
    rcases hx with ⟨-, hx⟩ | ⟨-, hx⟩
    · rw [hx, Option.some.injEq] at hx'
      exact hx' ▸ lt_of_openTx ho
    · exact hknown.2 x (hx ▸ hx')
  · rw [hm.status] at hl
    obtain ⟨w, hw, hlw, hrow, -, hkeep⟩ := hold hj hl
    obtain ⟨k, c, hc, hlc, hkid, hsub, hseed, hdel⟩ := hI.covered j w hw hlw (hrow ▸ hs)
    refine ⟨k, c, hc, ?_, ?_, ?_, ?_, ?_⟩
    · rw [hm.status]; exact hlc
    · rw [hrow]; exact hkid
    · rw [hrow]; exact hsub
    · rw [hrow]; exact hseed
    · rw [hm.status]; exact fun d hd hact => hkeep d hact (hdel d hd hact)
  · rw [hm.status] at hl
    obtain ⟨w, hw', hlw, hrow, hx, hkeep⟩ := hold hj hl
    rw [hrow] at hof
    rcases hm.cases hdx with ⟨rfl, rfl⟩ | ⟨-, hdx⟩
    · cases hw
      rcases hx with ⟨-, hx⟩ | ⟨hne, hx⟩
      · exact Or.inl hx
      · rw [hx]
        exact (hI.window d tx ho _ _ _ (by rw [hp]; rfl) j w hw' hlw hof).imp_right
          (List.mem_erase_of_ne (Ne.symm hne)).mpr
    · exact (hI.window d dx hdx _ _ _ hw j w hw' hlw hof).imp_left (hkeep d (status_of_openTx hdx))
  · obtain ⟨w, hw, hrow, hxmin, -, -⟩ := getElem?_setXmax_inv hj
    obtain ⟨ux', hu', hlocked⟩ := hm.prev ho rfl hu
    rw [hrow, ← hlocked]
    exact hI.fresh j w hw ux' (hxmin ▸ hu')
  · rcases hm.cases hu with ⟨rfl, rfl⟩ | ⟨-, hu⟩
    · have hok := hI.pcs u tx ho
      rw [hp] at hok
      exact hok
    · exact (hI.pcs u ux hu).mono (extends_refl _) fun x hx => hm.status ▸ hx

theorem inv_deleteSubject (hI : Inv s) (ho : s.openTx t = some tx) {kid subject : String} {todo : List Nat}
    {affected i : Nat} {v : Version SubjectRow} (hp : tx.pc = .deleteSubjectRows kid subject todo affected)
    (hi : i ∈ todo) (hv : s.subjects[i]? = some v) (hfree : rowState s.status t true v = .free) :
    Inv (apply s t tx (.deleteSubject i (.deleteSubjectRows kid subject (todo.erase i) (affected + 1)))) := by
  have hm : Moves s (apply s t tx (.deleteSubject i (.deleteSubjectRows kid subject (todo.erase i) (affected + 1)))) t
      { tx with pc := .deleteSubjectRows kid subject (todo.erase i) (affected + 1) } :=
    moves_of_set ho (openTx_iff.mp ho).2 rfl
  have hok := hI.pcs t tx ho
  rw [hp] at hok
  have hwin : tx.pc.window = some (kid, subject, []) := by rw [hp]; exact window_of_mem hi
  have hkey : subjectKey kid subject v.row = true := by
    obtain ⟨w, hw, hkey⟩ := hok.2 i hi
    rw [hv, Option.some.injEq] at hw
    exact hw ▸ hkey
  refine ⟨fun w hw => hm.known (hI.tokenIds w hw), fun w hw => ?_, fun j token hj hl hs => ?_,
    fun d dx hdx kid' subject' todo' hw j token hj hl hof => ?_, fun u ux hu g hg => ?_, fun j token hj ux hu => ?_,
    fun u ux hu => ?_⟩
  · obtain ⟨k, hk⟩ := List.mem_iff_getElem?.mp hw
    obtain ⟨w₀, hw₀, -, hxmin, -, hx⟩ := getElem?_setXmax_inv hk
    have hknown := hI.subjectIds w₀ (List.mem_of_getElem? hw₀)
    refine hm.known ⟨hxmin ▸ hknown.1, fun x hx' => ?_⟩
    rcases hx with ⟨-, hx⟩ | ⟨-, hx⟩
    · rw [hx, Option.some.injEq] at hx'
      exact hx' ▸ lt_of_openTx ho
    · exact hknown.2 x (hx ▸ hx')
  · rw [hm.status] at hl
    obtain ⟨k, c, hc, hcov⟩ := hI.covered j token hj hl hs
    by_cases hk : i = k
    · subst hk
      rw [hv, Option.some.injEq] at hc
      subst hc
      obtain ⟨hlc, hkid, hsub, hseed, -⟩ := hcov
      -- the token belongs to the deleted subject, so the window has deleted it already
      have hof : tokenOf kid subject token.row = true := by
        simp only [subjectKey, Bool.and_eq_true, decide_eq_true_eq] at hkey
        simp [tokenOf, ← hkid, hsub, hkey.1, hkey.2]
      have hdeleted : token.xmax = some t :=
        (hI.window t tx ho _ _ _ hwin j token hj hl hof).resolve_right List.not_mem_nil
      refine ⟨i, { v with xmax := some t }, ?_, live_iff.mpr ⟨?_, fun x hx => ?_⟩, hkid, hsub, hseed, fun d hd _ => ?_⟩
      · show (setXmax s.subjects i t)[i]? = _
        rw [getElem?_setXmax, hv]; simp
      · rw [hm.status]; exact (live_iff.mp hlc).1
      · rw [← Option.some.inj hx, hm.status, status_of_openTx ho]
        exact fun h => by cases h
      · rw [hdeleted]; exact hd
    · exact ⟨k, c, getElem?_setXmax_of_ne hc hk, hcov.congr hm.status rfl rfl rfl⟩
  · rw [hm.status] at hl
    rcases hm.cases hdx with ⟨rfl, rfl⟩ | ⟨-, hdx⟩
    · cases window_deleteSubjectRows hw
      exact hI.window d tx ho _ _ _ hwin j token hj hl hof
    · exact hI.window d dx hdx _ _ _ hw j token hj hl hof
  · rcases hm.cases hu with ⟨rfl, rfl⟩ | ⟨hne, hu⟩
    · rw [show tx.locked = [] from hok.1] at hg
      exact absurd hg List.not_mem_nil
    · obtain ⟨k, c, hc, hh⟩ := hI.locks u ux hu g hg
      have hk : i ≠ k := by
        rintro rfl
        rw [hv, Option.some.injEq] at hc
        subst hc
        exact (rowState_free hfree).2 rfl u hh.2.1 hne (status_of_openTx hu)
      exact ⟨k, c, getElem?_setXmax_of_ne hc hk, hh.congr hm.status rfl rfl rfl fun _ h => h⟩
  · obtain ⟨ux', hu', hlocked⟩ := hm.prev ho rfl hu
    exact hlocked ▸ hI.fresh j token hj ux' hu'
  · rcases hm.cases hu with ⟨rfl, rfl⟩ | ⟨-, hu⟩
    · have hok' : PcOk s u tx (.deleteSubjectRows kid subject (todo.erase i) (affected + 1)) :=
        ⟨hok.1, fun j hj => hok.2 j (List.mem_of_mem_erase hj)⟩
      exact hok'.mono extends_setXmax fun x hx => hm.status ▸ hx
    · exact (hI.pcs u ux hu).mono extends_setXmax fun x hx => hm.status ▸ hx

/-! ## The end of a transaction -/

/-- A transaction that ends is not open any more; the others stay as they are. -/
structure Ends (s s' : State) (t : Nat) (status : Status) : Prop where
  status : ∀ u, s'.status u = if u = t then status else s.status u
  openTx : ∀ {u : Nat} {ux : Tx}, s'.openTx u = some ux → u ≠ t ∧ s.openTx u = some ux
  length : s'.txs.length = s.txs.length

theorem ends_finish (ho : s.openTx t = some tx) {status : Status} (hst : status ≠ .active) (reply : Res Reply) :
    Ends s (s.finish t tx status reply) t status := by
  refine ⟨fun u => ?_, fun {u ux} hu => ?_, List.length_set⟩
  · exact status_set { tx with status := status } ho rfl u
  · rw [openTx_set { tx with status := status } ho rfl] at hu
    by_cases hne : u = t
    · rw [if_pos hne, if_neg hst] at hu
      cases hu
    · rw [if_neg hne] at hu
      exact ⟨hne, hu⟩

/-- What has committed stays committed when an open transaction ends. -/
theorem Ends.committed {s' : State} {status : Status} (he : Ends s s' t status) (ho : s.openTx t = some tx) {x : Nat}
    (h : s.status x = .committed) : s'.status x = .committed := by
  rw [he.status]
  split
  · rename_i hx
    rw [hx, status_of_openTx ho] at h
    cases h
  · exact h

theorem Ends.aborted {s' : State} {status : Status} (he : Ends s s' t status) (ho : s.openTx t = some tx) {x : Nat}
    (h : s.status x = .aborted) : s'.status x = .aborted := by
  rw [he.status]
  split
  · rename_i hx
    rw [hx, status_of_openTx ho] at h
    cases h
  · exact h

theorem Ends.active {s' : State} {status : Status} (he : Ends s s' t status) (hst : status ≠ .active) {x : Nat}
    (h : s'.status x = .active) : s.status x = .active := by
  rw [he.status] at h
  split at h
  · exact absurd h hst
  · exact h

theorem Ends.held {s' : State} {status : Status} {u : Nat} {g : SubjectWriteGuard} {v : Version SubjectRow}
    (he : Ends s s' t status) (ho : s.openTx t = some tx) (h : Held s u g v) : Held s' u g v := by
  obtain ⟨hrow, hshare, hins, hdel⟩ := h
  exact ⟨hrow, hshare, inserted_iff.mpr ((inserted_iff.mp hins).imp_right (he.committed ho)),
    fun x hx => he.aborted ho (hdel x hx)⟩

theorem inv_abort (hI : Inv s) (ho : s.openTx t = some tx) (reply : Res Reply) :
    Inv (s.finish t tx .aborted reply) := by
  have he : Ends s (s.finish t tx .aborted reply) t .aborted := ends_finish ho (by decide) reply
  have hlen : s.txs.length ≤ (s.finish t tx .aborted reply).txs.length := Nat.le_of_eq he.length.symm
  -- nothing commits, so the same versions are live
  have hcom : ∀ x, (s.finish t tx .aborted reply).status x = .committed ↔ s.status x = .committed := by
    intro x
    refine ⟨fun h => ?_, he.committed ho⟩
    rw [he.status] at h
    split at h
    · cases h
    · exact h
  have hlive : ∀ {ρ : Type} {v : Version ρ},
      live (s.finish t tx .aborted reply).status v = true ↔ live s.status v = true := by
    intro ρ v
    simp only [live_iff, ne_eq, hcom]
  refine ⟨fun v hv => (hI.tokenIds v hv).mono hlen, fun v hv => (hI.subjectIds v hv).mono hlen,
    fun i token hi hl hs => ?_, fun d dx hdx kid subject todo hw i token hi hl hof => ?_, fun u ux hu g hg => ?_,
    fun i token hi ux hu => hI.fresh i token hi ux (he.openTx hu).2, fun u ux hu => ?_⟩
  · obtain ⟨j, v, hv, hlv, hkid, hsub, hseed, hdel⟩ := hI.covered i token hi (hlive.mp hl) hs
    exact ⟨j, v, hv, hlive.mpr hlv, hkid, hsub, hseed, fun d hd hact => hdel d hd (he.active (by decide) hact)⟩
  · exact hI.window d dx (he.openTx hdx).2 _ _ _ hw i token hi (hlive.mp hl) hof
  · obtain ⟨j, v, hv, hh⟩ := hI.locks u ux (he.openTx hu).2 g hg
    exact ⟨j, v, hv, he.held ho hh⟩
  · exact (hI.pcs u ux (he.openTx hu).2).mono (extends_refl _) fun x hx => he.committed ho hx

/-- A deletion in the window of one of the locked guards excludes the commit. -/
theorem not_window_of_commit {i : Nat} (hc : commitsInWindow s (.advance t i) = false) (ho : s.openTx t = some tx)
    {reply : Res Reply} (hp : tx.pc = .commit reply) {g : SubjectWriteGuard} (hg : g ∈ tx.locked) {d : Nat} {dx : Tx}
    (hd : s.openTx d = some dx) {todo : List Nat} : dx.pc.window ≠ some (g.kid, g.subject, todo) := by
  intro hw
  obtain ⟨hd₁, hd₂⟩ := openTx_iff.mp hd
  have hany : commitsInWindow s (.advance t i) = true := by
    simp only [commitsInWindow, ho, Option.any_some, hp, Bool.true_and]
    refine List.any_eq_true.mpr ⟨g, hg, List.any_eq_true.mpr ⟨dx, List.mem_of_getElem? hd₁, ?_⟩⟩
    simp [hd₂, hw]
  rw [hc] at hany
  cases hany

theorem inv_commit (hI : Inv s) (ho : s.openTx t = some tx) {reply : Res Reply} (hp : tx.pc = .commit reply) {i : Nat}
    (hc : commitsInWindow s (.advance t i) = false) : Inv (s.finish t tx .committed reply) := by
  have he : Ends s (s.finish t tx .committed reply) t .committed := ends_finish ho (by decide) reply
  have hlen : s.txs.length ≤ (s.finish t tx .committed reply).txs.length := Nat.le_of_eq he.length.symm
  -- a live version was live before, or `t` inserted it; `t` has not deleted it
  have hold : ∀ {token : Version StoredToken}, live (s.finish t tx .committed reply).status token = true →
      token.xmax ≠ some t ∧ (live s.status token = true ∨ token.xmin = t) := by
    intro token hl
    obtain ⟨hmin, hmax⟩ := live_iff.mp hl
    refine ⟨fun hx => hmax t hx (by rw [he.status, if_pos rfl]), ?_⟩
    by_cases ht : token.xmin = t
    · exact Or.inr ht
    · rw [he.status, if_neg ht] at hmin
      exact Or.inl (live_iff.mpr ⟨hmin, fun x hx hcom => hmax x hx (he.committed ho hcom)⟩)
  refine ⟨fun v hv => (hI.tokenIds v hv).mono hlen, fun v hv => (hI.subjectIds v hv).mono hlen,
    fun j token hj hl hs => ?_, fun d dx hdx kid subject todo hw j token hj hl hof => ?_, fun u ux hu g hg => ?_,
    fun j token hj ux hu => hI.fresh j token hj ux (he.openTx hu).2, fun u ux hu => ?_⟩
  · obtain ⟨hx, hlive | hown⟩ := hold hl
    · obtain ⟨k, v, hv, hlv, hkid, hsub, hseed, hdel⟩ := hI.covered j token hj hlive hs
      obtain ⟨hvmin, hvmax⟩ := live_iff.mp hlv
      refine ⟨k, v, hv, live_iff.mpr ⟨he.committed ho hvmin, fun x hvx hcom => ?_⟩, hkid, hsub, hseed,
        fun d hd hact => hdel d hd (he.active (by decide) hact)⟩
      -- if `t` has deleted the subjects row, it has deleted the token too
      by_cases hxt : x = t
      · subst hxt
        exact hx (hdel x hvx (status_of_openTx ho))
      · rw [he.status, if_neg hxt] at hcom
        exact hvmax x hvx hcom
    · -- a token that `t` inserted: its guard is locked
      obtain ⟨subject, hsub⟩ := Option.isSome_iff_exists.mp hs
      obtain ⟨g, hg, hgkid, hgsub, hgseed⟩ := hI.fresh j token hj tx (hown ▸ ho) subject hsub
      obtain ⟨k, v, hv, hrow, -, hins, hdel⟩ := hI.locks t tx ho g hg
      refine ⟨k, v, hv, live_iff.mpr ⟨?_, fun x hvx hcom => ?_⟩, ?_, ?_, ?_, fun d hd hact => ?_⟩
      · rcases inserted_iff.mp hins with hmin | hmin
        · rw [he.status, if_pos hmin]
        · exact he.committed ho hmin
      · rw [he.aborted ho (hdel x hvx)] at hcom
        cases hcom
      · rw [hrow]; exact hgkid
      · rw [hrow, hsub, ← hgsub]; rfl
      · rw [hrow]; exact hgseed
      · rw [he.aborted ho (hdel d hd)] at hact
        cases hact
  · obtain ⟨-, hdx⟩ := he.openTx hdx
    obtain ⟨-, hlive | hown⟩ := hold hl
    · exact hI.window d dx hdx _ _ _ hw j token hj hlive hof
    · simp only [tokenOf, Bool.and_eq_true, decide_eq_true_eq] at hof
      obtain ⟨g, hg, hgkid, hgsub, -⟩ := hI.fresh j token hj tx (hown ▸ ho) subject hof.2
      rw [← hof.1, ← hgkid, ← hgsub] at hw
      exact absurd hw (not_window_of_commit hc ho hp hg hdx)
  · obtain ⟨k, v, hv, hh⟩ := hI.locks u ux (he.openTx hu).2 g hg
    exact ⟨k, v, hv, he.held ho hh⟩
  · exact (hI.pcs u ux (he.openTx hu).2).mono (extends_refl _) fun x hx => he.committed ho hx

/-! ## Runs -/

theorem start_ok {request : Request} {pc : Pc} (h : start request = .ok pc) (s : State) (t : Nat) :
    PcOk s t ⟨pc, .active, []⟩ pc ∧ pc.window = none := by
  cases request with
  | saveSubject row => cases h; exact ⟨trivial, rfl⟩
  | deleteSubject kid subject => cases h; exact ⟨rfl, rfl⟩
  | saveTokensBatchGuarded records guards =>
    simp only [start] at h
    split at h
    · cases h
    · rename_i ordered hg
      split at h <;> cases h
      refine ⟨fun token ht => ?_, rfl⟩
      rw [List.append_nil]
      exact storedTokens_guarded hg ht

theorem inv_begin (hI : Inv s) {request : Request} {pc : Pc} (h : start request = .ok pc) :
    Inv { s with txs := s.txs ++ [⟨pc, .active, []⟩] } := by
  let s' : State := { s with txs := s.txs ++ [⟨pc, .active, []⟩] }
  have hopen : ∀ {u ux}, s'.openTx u = some ux → (u = s.txs.length ∧ ux = ⟨pc, .active, []⟩) ∨
      s.openTx u = some ux := by
    intro u ux hu
    obtain ⟨hu₁, hu₂⟩ := openTx_iff.mp hu
    rcases Nat.lt_trichotomy u s.txs.length with hlt | heq | hgt
    · exact Or.inr (openTx_iff.mpr ⟨by rwa [List.getElem?_append_left hlt] at hu₁, hu₂⟩)
    · subst heq
      exact Or.inl ⟨rfl, by simpa [s'] using hu₁.symm⟩
    · rw [List.getElem?_eq_none (by simp only [s', List.length_append, List.length_singleton]; omega)] at hu₁
      cases hu₁
  have hst : ∀ {u}, u < s.txs.length → s'.status u = s.status u := by
    intro u hlt
    simp only [State.status, s', List.getElem?_append_left hlt]
  have hlen : s.txs.length ≤ s'.txs.length := by simp [s']
  have hcom : ∀ {u}, s.status u = .committed → s'.status u = .committed := by
    intro u hu
    rcases Nat.lt_or_ge u s.txs.length with hlt | hge
    · rw [hst hlt, hu]
    · simp [State.status, List.getElem?_eq_none hge] at hu
  have hlive : ∀ {ρ : Type} {v : Version ρ}, Known s v → (live s'.status v = true ↔ live s.status v = true) := by
    intro ρ v hv
    rw [live_iff, live_iff, hst hv.1]
    exact and_congr_right fun _ => forall_congr' fun x => imp_congr_right fun hx => by rw [hst (hv.2 x hx)]
  refine ⟨fun v hv => (hI.tokenIds v hv).mono hlen, fun v hv => (hI.subjectIds v hv).mono hlen,
    fun i token hi hl hs => ?_, fun d dx hdx kid subject todo hw i token hi hl hof => ?_, fun u ux hu g hg => ?_,
    fun i token hi ux hu => ?_, fun u ux hu => ?_⟩
  · have hknown := hI.tokenIds token (List.mem_of_getElem? hi)
    obtain ⟨j, v, hv, hlv, hkid, hsub, hseed, hdel⟩ := hI.covered i token hi ((hlive hknown).mp hl) hs
    have hv' := hI.subjectIds v (List.mem_of_getElem? hv)
    exact ⟨j, v, hv, (hlive hv').mpr hlv, hkid, hsub, hseed, fun d hd hact => hdel d hd (hst (hv'.2 d hd) ▸ hact)⟩
  · rcases hopen hdx with ⟨-, rfl⟩ | hdx
    · rw [(start_ok h s 0).2] at hw
      cases hw
    · exact hI.window d dx hdx _ _ _ hw i token hi ((hlive (hI.tokenIds token (List.mem_of_getElem? hi))).mp hl) hof
  · rcases hopen hu with ⟨-, rfl⟩ | hu
    · exact absurd hg List.not_mem_nil
    · obtain ⟨j, v, hv, hrow, hshare, hins, hdel⟩ := hI.locks u ux hu g hg
      have hv' := hI.subjectIds v (List.mem_of_getElem? hv)
      exact ⟨j, v, hv, hrow, hshare, inserted_iff.mpr ((inserted_iff.mp hins).imp_right hcom),
        fun x hx => (hst (hv'.2 x hx)).trans (hdel x hx)⟩
  · rcases hopen hu with ⟨hu', -⟩ | hu
    · exact absurd (hI.tokenIds token (List.mem_of_getElem? hi)).1 (hu' ▸ Nat.lt_irrefl _)
    · exact hI.fresh i token hi ux hu
  · rcases hopen hu with ⟨-, rfl⟩ | hu
    · exact (start_ok h _ u).1
    · exact (hI.pcs u ux hu).mono (extends_refl _) fun x hx => hcom hx

/-- An effect keeps the invariant unless it is a commit inside a window. -/
theorem inv_apply (hI : Inv s) (ho : s.openTx t = some tx) {i : Nat} {e : Effect} (h : effect s t i tx.pc = some e)
    (hc : commitsInWindow s (.advance t i) = false) : Inv (apply s t tx e) := by
  have hd := effect_does h
  cases e with
  | go pc => exact inv_go hI ho hd
  | lock guard j pc =>
    generalize hp : tx.pc = p at hd
    cases hd with
    | lockRow _ _ v todo records hv hfree hseed => exact inv_lock hI ho hp hv hfree hseed
  | insertToken record pc =>
    generalize hp : tx.pc = p at hd
    cases hd with
    | insertToken _ records => exact inv_insertToken hI ho hp
  | insertSubject row pc =>
    generalize hp : tx.pc = p at hd
    cases hd with
    | insertSubject _ reply => exact inv_insertSubject hI ho row reply
  | deleteToken j pc =>
    generalize hp : tx.pc = p at hd
    cases hd with
    | deleteToken kid subject todo _ v hv hfree => exact inv_deleteToken hI ho hp hv hfree
  | deleteSubject j pc =>
    generalize hp : tx.pc = p at hd
    cases hd with
    | deleteSubject kid subject todo affected _ hj v hv hfree => exact inv_deleteSubject hI ho hp hj hv hfree
  | commit reply =>
    generalize hp : tx.pc = p at hd
    cases hd with
    | commit => exact inv_commit hI ho hp hc
  | fail err => exact inv_abort hI ho _

theorem inv_step (s : State) (a : Action) (s' : State) (hI : Inv s) (hc : commitsInWindow s a = false)
    (h : step s a = some s') : Inv s' := by
  cases a with
  | begin request =>
    simp only [step] at h
    split at h <;> cases h
    · exact ⟨hI.tokenIds, hI.subjectIds, hI.covered, hI.window, hI.locks, hI.fresh, hI.pcs⟩
    · rename_i pc hstart
      exact inv_begin hI hstart
  | advance t i =>
    obtain ⟨tx, ho, h⟩ := Option.bind_eq_some_iff.mp h
    obtain ⟨e, he, rfl⟩ := Option.map_eq_some_iff.mp h
    exact inv_apply hI ho he hc
  | abort t err =>
    obtain ⟨tx, ho, rfl⟩ := Option.map_eq_some_iff.mp h
    exact inv_abort hI ho _

theorem inv_empty : Inv State.empty := by
  constructor <;> simp [State.empty, State.openTx]

/-- The committed rows have no orphans, whatever is open. -/
theorem noOrphans_of_inv (hI : Inv s) : NoOrphans (liveRows s.status s.tokens) (liveRows s.status s.subjects) := by
  intro token ht subject hs
  obtain ⟨i, v, hi, hl, rfl⟩ := mem_liveRows.mp ht
  obtain ⟨j, w, hj, hlw, hkid, hsub, hseed, -⟩ := hI.covered i v hi hl (by simp [hs])
  rw [hs, Option.some.injEq] at hsub
  exact ⟨w.row, mem_liveRows.mpr ⟨j, w, hj, hlw, rfl⟩, hkid, hsub.symm, hseed⟩

/-- No interleaving leaves an orphan, as long as no guarded write commits inside the window of a deletion. -/
theorem run_noOrphans {actions : List Action} (h : Run.run step State.empty actions = some s)
    (hc : Run.Along step (fun s a => commitsInWindow s a = false) State.empty actions) :
    NoOrphans (liveRows s.status s.tokens) (liveRows s.status s.subjects) :=
  noOrphans_of_inv (Run.run_inv_along inv_step inv_empty hc h)

end Vectis.Core.Storage.Postgres
