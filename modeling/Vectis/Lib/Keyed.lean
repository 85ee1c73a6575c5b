import Mathlib.Logic.Function.Basic

/-!
# Lists of keyed items as maps

A list whose items have at most one of each key is a map (`Represents`); appending, replacing and erasing an item update
it.
-/

namespace Keyed

variable {α κ : Type} [DecidableEq κ] (key : α → Option κ)

/-- The items with a key. -/
def matching (k : κ) (items : List α) : List α := items.filter fun item => key item = some k

/-- The item of a key is put in the place of the old one. -/
def replace (k : κ) (new : α) (items : List α) : List α := items.map fun item => if key item = some k then new else item

/-- The first item of a key is taken out. -/
def erase (k : κ) (items : List α) : List α := items.eraseP fun item => key item = some k

/-- The list has the items of the map, each once, and no others with a key. -/
def Represents (items : List α) (store : κ → Option α) : Prop := ∀ k, matching key k items = (store k).toList

variable {key} {k k' : κ} {new : α} {items : List α} {store : κ → Option α}

theorem matching_cons (item : α) :
    matching key k (item :: items) = if key item = some k then item :: matching key k items else matching key k
    items := by
  unfold matching
  rw [List.filter_cons]
  simp only [decide_eq_true_eq]

theorem matching_append_self (h : key new = some k) :
    matching key k (items ++ [new]) = matching key k items ++ [new] := by
  simp [matching, h]

theorem matching_append_ne (h : key new = some k) (hne : k' ≠ k) :
    matching key k' (items ++ [new]) = matching key k' items := by
  simp [matching, h, hne.symm]

theorem matching_replace_self (h : key new = some k) :
    matching key k (replace key k new items) = (matching key k items).map fun _ => new := by
  induction items with
  | nil => rfl
  | cons item items ih =>
    rw [replace, List.map_cons, ← replace, matching_cons, matching_cons, ih]
    by_cases hitem : key item = some k
    · simp [hitem, h]
    · simp [hitem]

theorem matching_replace_ne (h : key new = some k) (hne : k' ≠ k) :
    matching key k' (replace key k new items) = matching key k' items := by
  induction items with
  | nil => rfl
  | cons item items ih =>
    rw [replace, List.map_cons, ← replace, matching_cons, matching_cons, ih]
    by_cases hitem : key item = some k
    · simp [hitem, h, hne.symm]
    · simp [hitem]

theorem matching_erase_self : matching key k (erase key k items) = (matching key k items).tail := by
  induction items with
  | nil => rfl
  | cons item items ih =>
    rw [erase, List.eraseP_cons, ← erase, matching_cons]
    by_cases hitem : key item = some k
    · simp [hitem]
    · simp [hitem, matching_cons, ih]

theorem matching_erase_ne (hne : k' ≠ k) : matching key k' (erase key k items) = matching key k' items := by
  induction items with
  | nil => rfl
  | cons item items ih =>
    rw [erase, List.eraseP_cons, ← erase, matching_cons]
    by_cases hitem : key item = some k
    · simp [hitem, hne.symm]
    · simp [hitem, matching_cons, ih]

namespace Represents

theorem append (h : Represents key items store) (hnew : key new = some k) (hnone : store k = none) :
    Represents key (items ++ [new]) (Function.update store k (some new)) := by
  intro k'
  by_cases hk : k' = k
  · subst hk
    rw [matching_append_self hnew, h k', hnone, Function.update_self]
    rfl
  · rw [matching_append_ne hnew hk, h k', Function.update_of_ne hk]

theorem replace {old : α} (h : Represents key items store) (hnew : key new = some k) (hsome : store k = some old) :
    Represents key (replace key k new items) (Function.update store k (some new)) := by
  intro k'
  by_cases hk : k' = k
  · subst hk
    rw [matching_replace_self hnew, h k', hsome, Function.update_self]
    rfl
  · rw [matching_replace_ne hnew hk, h k', Function.update_of_ne hk]

theorem erase (h : Represents key items store) : Represents key (erase key k items) (Function.update store k none) := by
  intro k'
  by_cases hk : k' = k
  · subst hk
    rw [matching_erase_self, h k', Function.update_self]
    cases store k' with
    | none => rfl
    | some item => rfl
  · rw [matching_erase_ne hk, h k', Function.update_of_ne hk]

/-- The item of a key has that key. -/
theorem key_eq {item : α} (h : Represents key items store) (hsome : store k = some item) : key item = some k := by
  have hmem : item ∈ matching key k items := by
    rw [h k, hsome]
    exact List.mem_singleton_self item
  exact of_decide_eq_true (List.mem_filter.mp hmem).2

/-- An item has the key when the map has it. -/
theorem any_eq (h : Represents key items store) (k : κ) :
    (items.any fun item => key item = some k) = (store k).isSome := by
  rw [Bool.eq_iff_iff, List.any_eq_true]
  constructor
  · rintro ⟨item, hitem, hkey⟩
    have hmem : item ∈ matching key k items := List.mem_filter.mpr ⟨hitem, hkey⟩
    rw [h k, Option.mem_toList] at hmem
    rw [hmem]
    rfl
  · intro hsome
    obtain ⟨item, hitem⟩ := Option.isSome_iff_exists.mp hsome
    have hmem : item ∈ matching key k items := by
      rw [h k, hitem]
      exact List.mem_singleton_self item
    exact ⟨item, List.mem_filter.mp hmem⟩

end Represents

/-- The lists that are maps are those without a key twice. -/
theorem exists_represents_iff : (∃ store, Represents key items store) ↔ ∀ k, (matching key k items).length ≤ 1 := by
  constructor
  · rintro ⟨store, h⟩ k
    rw [h k]
    cases store k with
    | none => exact Nat.zero_le 1
    | some item => exact Nat.le_refl 1
  · intro h
    refine ⟨fun k => (matching key k items).head?, fun k => ?_⟩
    have hlength := h k
    revert hlength
    show (matching key k items).length ≤ 1 → matching key k items = (matching key k items).head?.toList
    cases matching key k items with
    | nil => exact fun _ => rfl
    | cons item rest =>
      intro hlength
      rw [List.eq_nil_of_length_eq_zero (Nat.le_zero.mp (Nat.le_of_succ_le_succ hlength))]
      rfl

end Keyed
