import Mathlib.Data.List.Nodup

/-!
# Lists with an index

The index of a list by the names of its items, as the pairs of a name and a position in the order of their insertion; a
later pair replaces an earlier one.

- `find_eq_some_iff`: with distinct names it finds the item of a name.
-/

namespace Index

variable {T K : Type}

def ofList (name : T → K) (items : List T) : List (K × Nat) := items.zipIdx.map fun entry => (name entry.1, entry.2)

theorem mem_ofList {name : T → K} {items : List T} {key : K} {i : Nat} :
    (key, i) ∈ ofList name items ↔ ∃ t, items[i]? = some t ∧ name t = key := by
  rw [ofList, List.mem_map]
  constructor
  · rintro ⟨⟨t, j⟩, hmem, h⟩
    obtain ⟨rfl, rfl⟩ := Prod.mk.inj h
    exact ⟨t, List.mem_zipIdx_iff_getElem?.mp hmem, rfl⟩
  · rintro ⟨t, ht, rfl⟩
    exact ⟨(t, i), List.mem_zipIdx_iff_getElem?.mpr ht, rfl⟩

variable [DecidableEq K]

def find (index : List (K × Nat)) (items : List T) (key : K) : Option T :=
  (index.reverse.lookup key).bind (items[·]?)

theorem mem_of_lookup {key : K} {i : Nat} {index : List (K × Nat)} (h : index.reverse.lookup key = some i) :
    (key, i) ∈ index := by
  obtain ⟨before, after, hsplit, -⟩ := List.lookup_eq_some_iff.mp h
  exact List.mem_reverse.mp (hsplit ▸ List.mem_append_right _ List.mem_cons_self)

theorem find_ofList {name : T → K} {items : List T} {key : K} {t : T}
    (h : find (ofList name items) items key = some t) :
    t ∈ items ∧ name t = key := by
  obtain ⟨i, hi, ht⟩ := Option.bind_eq_some_iff.mp h
  obtain ⟨s, hs, hname⟩ := mem_ofList.mp (mem_of_lookup hi)
  rw [hs] at ht
  cases ht
  exact ⟨List.mem_of_getElem? hs, hname⟩

theorem find_eq_some_iff {name : T → K} {items : List T} (hnodup : (items.map name).Nodup) {key : K} {t : T} :
    find (ofList name items) items key = some t ↔ t ∈ items ∧ name t = key := by
  refine ⟨find_ofList, ?_⟩
  rintro ⟨hmem, rfl⟩
  obtain ⟨i, hi⟩ := List.mem_iff_getElem?.mp hmem
  cases hlookup : (ofList name items).reverse.lookup (name t) with
  | none =>
    have hpair : (name t, i) ∈ (ofList name items).reverse := List.mem_reverse.mpr (mem_ofList.mpr ⟨t, hi, rfl⟩)
    simpa using List.lookup_eq_none_iff.mp hlookup _ hpair
  | some j =>
    obtain ⟨s, hs, hname⟩ := mem_ofList.mp (mem_of_lookup hlookup)
    rw [find, hlookup, Option.bind_some, hs, List.inj_on_of_nodup_map hnodup (List.mem_of_getElem? hs) hmem hname]

end Index
