import Mathlib.Logic.Basic

/-!
# Row versions

A table under multiversion concurrency control is a list of row versions. A version names the transaction that inserted
it (`xmin`), the one that deleted it last (`xmax`) and those that hold a share lock on it. What a statement of
transaction `t` finds depends on the status of these transactions at the moment it looks:

- `snapshot`: the versions that the statement sees when it starts (`mem_snapshot`);
- `rowState`: whether a row of the snapshot can be locked now, is gone, or makes the statement wait (`rowState_free`,
  `rowState_gone`);
- `keyState`: what a unique index says about an insert;
- `Extends`: rows and inserters of versions never change (`extends_lockShare`, `extends_setXmax`, `extends_append`).
-/

namespace Mvcc

inductive Status
  | active
  | committed
  | aborted
  deriving DecidableEq, Repr

structure Version (ρ : Type) where
  row : ρ
  xmin : Nat
  xmax : Option Nat
  share : List Nat
  deriving DecidableEq, Repr

variable {ρ : Type} {st : Nat → Status} {t : Nat} {v : Version ρ} {h h' : List (Version ρ)} {i j : Nat}

/-! ## What a statement finds -/

/-- The inserter is `t` itself or has committed. -/
def inserted (st : Nat → Status) (t : Nat) (v : Version ρ) : Bool := v.xmin = t || st v.xmin = .committed

/-- The deleter is `t` itself or has committed. -/
def deleted (st : Nat → Status) (t : Nat) (v : Version ρ) : Bool :=
  v.xmax.any fun x => x = t || st x = .committed

/-- A transaction that is still open has deleted the version. -/
def deleting (st : Nat → Status) (v : Version ρ) : Bool := v.xmax.any fun x => st x = .active

def visible (st : Nat → Status) (t : Nat) (v : Version ρ) : Bool := inserted st t v && !deleted st t v

/-- The versions that a statement of `t` sees when it starts, by their place in the table. -/
def snapshot (st : Nat → Status) (t : Nat) (p : ρ → Bool) (h : List (Version ρ)) : List Nat :=
  (List.range h.length).filter fun i => h[i]?.any fun v => visible st t v && p v.row

inductive RowState
  | gone
  | wait
  | free
  deriving DecidableEq, Repr

/-- What a statement of `t` that locks a row of its snapshot finds when it comes to it: share locks exclude a deletion,
an open deletion excludes both. -/
def rowState (st : Nat → Status) (t : Nat) (exclusive : Bool) (v : Version ρ) : RowState :=
  if deleted st t v then .gone
  else if deleting st v then .wait
  else if exclusive && v.share.any fun x => x ≠ t && st x = .active then .wait
  else .free

inductive KeyState
  | free
  | wait
  | taken
  deriving DecidableEq, Repr

/-- What one version with the inserted key means for the insert. -/
def versionKeyState (st : Nat → Status) (t : Nat) (v : Version ρ) : KeyState :=
  if st v.xmin = .aborted || deleted st t v then .free
  else if (v.xmin ≠ t && st v.xmin = .active) || deleting st v then .wait
  else .taken

/-- The unique index at an insert of `t`: the versions whose row has the inserted key. -/
def keyState (st : Nat → Status) (t : Nat) (key : ρ → Bool) (h : List (Version ρ)) : KeyState :=
  let found := (h.filter fun v => key v.row).map (versionKeyState st t)
  if .taken ∈ found then .taken else if .wait ∈ found then .wait else .free

/-- Inserted by a committed transaction and not deleted by one. -/
def live (st : Nat → Status) (v : Version ρ) : Bool :=
  st v.xmin = .committed && !v.xmax.any fun x => st x = .committed

/-- The committed rows of the table. -/
def liveRows (st : Nat → Status) (h : List (Version ρ)) : List ρ := (h.filter (live st)).map Version.row

/-! ## What a statement changes -/

def insertRow (h : List (Version ρ)) (row : ρ) (t : Nat) : List (Version ρ) := h ++ [⟨row, t, none, []⟩]

def lockShare (h : List (Version ρ)) (i t : Nat) : List (Version ρ) :=
  h.modify i fun v => { v with share := t :: v.share }

def setXmax (h : List (Version ρ)) (i t : Nat) : List (Version ρ) := h.modify i fun v => { v with xmax := some t }

/-! ## Specifications -/

theorem live_iff : live st v = true ↔ st v.xmin = .committed ∧ ∀ x, v.xmax = some x → st x ≠ .committed := by
  cases hx : v.xmax <;> simp [live, hx]

theorem mem_liveRows {r : ρ} : r ∈ liveRows st h ↔ ∃ (i : Nat) (v : Version ρ), h[i]? = some v ∧ live st v = true ∧
    v.row = r := by
  simp only [liveRows, List.mem_map, List.mem_filter]
  constructor
  · rintro ⟨v, ⟨hm, hl⟩, hr⟩
    obtain ⟨i, hi⟩ := List.mem_iff_getElem?.mp hm
    exact ⟨i, v, hi, hl, hr⟩
  · rintro ⟨i, v, hi, hl, hr⟩
    exact ⟨v, ⟨List.mem_of_getElem? hi, hl⟩, hr⟩

theorem mem_snapshot {p : ρ → Bool} :
    i ∈ snapshot st t p h ↔ ∃ v, h[i]? = some v ∧ visible st t v = true ∧ p v.row = true := by
  simp only [snapshot, List.mem_filter, List.mem_range]
  constructor
  · rintro ⟨hlt, hv⟩
    cases hi : h[i]? with
    | none => simp [hi] at hv
    | some v => exact ⟨v, rfl, by simpa [hi] using hv⟩
  · rintro ⟨v, hi, hv, hp⟩
    refine ⟨(List.getElem?_eq_some_iff.mp hi).1, ?_⟩
    simp [hi, hv, hp]

/-- A live version is in the snapshot unless `t` itself has deleted it. -/
theorem mem_snapshot_of_live {p : ρ → Bool} (hi : h[i]? = some v) (hl : live st v = true) (hp : p v.row = true) :
    i ∈ snapshot st t p h ∨ v.xmax = some t := by
  obtain ⟨hmin, hmax⟩ := live_iff.mp hl
  by_cases hown : v.xmax = some t
  · exact Or.inr hown
  · refine Or.inl (mem_snapshot.mpr ⟨v, hi, ?_, hp⟩)
    simp only [visible, inserted, hmin, decide_true, Bool.or_true, Bool.true_and, Bool.not_eq_true']
    cases hx : v.xmax with
    | none => simp [deleted, hx]
    | some x =>
      have : x ≠ t := fun he => hown (by rw [hx, he])
      simp [deleted, hx, this, hmax x hx]

theorem inserted_iff : inserted st t v = true ↔ v.xmin = t ∨ st v.xmin = .committed := by
  simp [inserted]

/-- A row that is gone was deleted by `t` itself or by a committed transaction. -/
theorem rowState_gone {b : Bool} (hr : rowState st t b v = .gone) :
    ∃ x, v.xmax = some x ∧ (x = t ∨ st x = .committed) := by
  unfold rowState at hr
  split at hr
  · rename_i hd
    cases hx : v.xmax with
    | none => simp [deleted, hx] at hd
    | some x => exact ⟨x, rfl, by simpa [deleted, hx] using hd⟩
  · split at hr
    · cases hr
    · split at hr <;> cases hr

/-- A row that is free has no deletion that counts, and for a deletion no open share lock of another transaction. -/
theorem rowState_free {b : Bool} (hr : rowState st t b v = .free) :
    (∀ x, v.xmax = some x → st x = .aborted) ∧ (b = true → ∀ x ∈ v.share, x ≠ t → st x ≠ .active) := by
  unfold rowState at hr
  split at hr
  · cases hr
  · rename_i hd
    split at hr
    · cases hr
    · rename_i hg
      split at hr
      · cases hr
      · rename_i hs
        constructor
        · intro x hx
          simp only [deleted, deleting, hx, Option.any_some, Bool.or_eq_true, decide_eq_true_eq, not_or] at hd hg
          cases hst : st x with
          | active => exact absurd hst hg
          | committed => exact absurd hst hd.2
          | aborted => rfl
        · intro hb x hx hne hact
          subst hb
          exact hs (by simpa using ⟨x, hx, hne, hact⟩)

/-! ## Versions keep their row and inserter -/

/-- Every version is still there, with its row and its inserter. -/
def Extends (h h' : List (Version ρ)) : Prop :=
  ∀ (i : Nat) (v : Version ρ), h[i]? = some v → ∃ v', h'[i]? = some v' ∧ v'.row = v.row ∧ v'.xmin = v.xmin

theorem extends_refl (h : List (Version ρ)) : Extends h h := fun _ v hi => ⟨v, hi, rfl, rfl⟩

theorem getElem?_insertRow {row : ρ} (hi : (insertRow h row t)[i]? = some v) :
    h[i]? = some v ∨ v = ⟨row, t, none, []⟩ := by
  unfold insertRow at hi
  rcases Nat.lt_or_ge i h.length with hlt | hge
  · exact Or.inl (by rwa [List.getElem?_append_left hlt] at hi)
  · rw [List.getElem?_append_right hge] at hi
    exact Or.inr (List.mem_singleton.mp (List.mem_of_getElem? hi))

theorem getElem?_insertRow_of_some {row : ρ} (hi : h[i]? = some v) : (insertRow h row t)[i]? = some v := by
  rw [insertRow, List.getElem?_append_left (List.getElem?_eq_some_iff.mp hi).1, hi]

theorem getElem?_lockShare : (lockShare h i t)[j]? =
    (h[j]?).map fun v => if i = j then { v with share := t :: v.share } else v := by
  rw [lockShare, List.getElem?_modify]; rfl

theorem getElem?_setXmax : (setXmax h i t)[j]? =
    (h[j]?).map fun v => if i = j then { v with xmax := some t } else v := by
  rw [setXmax, List.getElem?_modify]; rfl

theorem extends_insertRow {row : ρ} : Extends h (insertRow h row t) :=
  fun _ v hi => ⟨v, getElem?_insertRow_of_some hi, rfl, rfl⟩

theorem extends_lockShare : Extends h (lockShare h i t) := by
  intro j v hj
  refine ⟨if i = j then { v with share := t :: v.share } else v, by rw [getElem?_lockShare, hj]; rfl, ?_⟩
  split <;> exact ⟨rfl, rfl⟩

theorem extends_setXmax : Extends h (setXmax h i t) := by
  intro j v hj
  refine ⟨if i = j then { v with xmax := some t } else v, by rw [getElem?_setXmax, hj]; rfl, ?_⟩
  split <;> exact ⟨rfl, rfl⟩

/-- A version of the table after a deletion was there before; only the deleted one has a new `xmax`. -/
theorem getElem?_setXmax_inv (hj : (setXmax h i t)[j]? = some v) :
    ∃ w, h[j]? = some w ∧ v.row = w.row ∧ v.xmin = w.xmin ∧ v.share = w.share ∧
      ((i = j ∧ v.xmax = some t) ∨ (i ≠ j ∧ v.xmax = w.xmax)) := by
  rw [getElem?_setXmax] at hj
  obtain ⟨w, hw, rfl⟩ := Option.map_eq_some_iff.mp hj
  refine ⟨w, hw, ?_⟩
  by_cases he : i = j <;> simp [he]

/-- A version of the table after a share lock was there before, with the same deleter. -/
theorem getElem?_lockShare_inv (hj : (lockShare h i t)[j]? = some v) :
    ∃ w, h[j]? = some w ∧ v.row = w.row ∧ v.xmin = w.xmin ∧ v.xmax = w.xmax := by
  rw [getElem?_lockShare] at hj
  obtain ⟨w, hw, rfl⟩ := Option.map_eq_some_iff.mp hj
  refine ⟨w, hw, ?_⟩
  by_cases he : i = j <;> simp [he]

/-- A share lock changes no deleter and drops no lock. -/
theorem getElem?_lockShare_of_some (hj : h[j]? = some v) : ∃ w, (lockShare h i t)[j]? = some w ∧ w.row = v.row ∧
    w.xmin = v.xmin ∧ w.xmax = v.xmax ∧ (∀ x ∈ v.share, x ∈ w.share) ∧ (i = j → t ∈ w.share) := by
  refine ⟨if i = j then { v with share := t :: v.share } else v, by rw [getElem?_lockShare, hj]; rfl, ?_⟩
  by_cases he : i = j
  · simp only [he, if_true, true_and]
    exact ⟨fun x hx => List.mem_cons_of_mem _ hx, fun _ => List.mem_cons_self⟩
  · simp [he]

theorem getElem?_setXmax_of_ne (hj : h[j]? = some v) (hne : i ≠ j) : (setXmax h i t)[j]? = some v := by
  rw [getElem?_setXmax, hj]; simp [hne]

end Mvcc
