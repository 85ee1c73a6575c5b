import Mathlib.Data.List.Nodup
import Vectis.Ops.Keys

/-!
# The index of the key cache

`KeysDbState` keeps the keys in a list and the place of each id in a map, and its two operations change them separately.
Over every sequence of operations from `from_keys` on distinct ids:

- list and map agree (`Indexed`): the ids stay distinct and the map leads exactly the listed ids to their places;
- `get` is given by the history (`latest`): the last key upserted for the id, else the key it had at the start, else the
  first one inserted.
-/

namespace Vectis.Ops.Keys.KeysDbState

variable {E : Type} (idOf : E → String)

/-! ## Operations -/

/-- `ids`. -/
def ids (state : KeysDbState E) : List String := state.keysDb.map idOf

/-- A call that changes the cache. -/
inductive Op (E : Type)
  | upsert (key : E)
  | insertIfAbsent (key : E)

def apply (state : KeysDbState E) : Op E → KeysDbState E
  | .upsert key => state.upsert idOf key
  | .insertIfAbsent key => (state.insertIfAbsent idOf key).2

def applyAll (state : KeysDbState E) (ops : List (Op E)) : KeysDbState E := ops.foldl (apply idOf) state

/-! ## List and index agree -/

/-- The ids are distinct, and the index leads exactly the listed ids to their places. -/
structure Indexed (state : KeysDbState E) : Prop where
  nodup : (state.ids idOf).Nodup
  byId : ∀ id index, state.byId id = some index ↔ (state.ids idOf)[index]? = some id

variable {idOf}

theorem getElem?_ids {state : KeysDbState E} {index : Nat} {id : String} :
    (state.ids idOf)[index]? = some id ↔ ∃ key, state.keysDb[index]? = some key ∧ idOf key = id := by
  rw [ids, List.getElem?_map, Option.map_eq_some_iff]

theorem Indexed.wellFormed {state : KeysDbState E} (hi : Indexed idOf state) : WellFormed idOf state :=
  fun id index h => getElem?_ids.mp ((hi.byId id index).mp h)

theorem Indexed.containsId_iff {state : KeysDbState E} (hi : Indexed idOf state) (id : String) :
    state.containsId id = true ↔ id ∈ state.ids idOf := by
  rw [containsId, Option.isSome_iff_exists, List.mem_iff_getElem?]
  exact exists_congr fun index => hi.byId id index

theorem Indexed.byId_none {state : KeysDbState E} (hi : Indexed idOf state) {id : String} (h : state.byId id = none) :
    id ∉ state.ids idOf := by
  rw [← hi.containsId_iff id, containsId, h]
  simp

/-- `from_keys` finds every listed id, and when the ids are distinct it can only lead to the id's own place. -/
theorem indexed_fromKeys {keysDb : List E} (hd : (keysDb.map idOf).Nodup) : Indexed idOf (fromKeys idOf keysDb) := by
  refine ⟨hd, fun id index => ⟨fun h => getElem?_ids.mpr (fromKeys_byId h), fun h => ?_⟩⟩
  obtain ⟨key, hkey, hid⟩ := getElem?_ids.mp h
  have hmem : (key, index) ∈ keysDb.zipIdx.reverse :=
    List.mem_reverse.mpr (List.mem_zipIdx_iff_getElem?.mpr hkey)
  have hfound : (keysDb.zipIdx.reverse.find? fun entry => idOf entry.1 = id).isSome := by
    rw [List.find?_isSome]
    exact ⟨(key, index), hmem, by simpa using hid⟩
  obtain ⟨⟨key', index'⟩, hfind⟩ := Option.isSome_iff_exists.mp hfound
  have hby : (fromKeys idOf keysDb).byId id = some index' := by
    simp only [fromKeys, hfind, Option.map_some]
  have hat : ((fromKeys idOf keysDb).ids idOf)[index']? = some id := getElem?_ids.mpr (fromKeys_byId hby)
  have hplace : index' = index :=
    (List.getElem?_inj (List.getElem?_eq_some_iff.mp hat).1 hd).mp (hat.trans h.symm)
  rw [hby, hplace]

/-- An upsert keeps the ids and their order, and appends an id that was not there. -/
theorem ids_upsert {state : KeysDbState E} (hi : Indexed idOf state) (key : E) :
    (state.upsert idOf key).ids idOf =
      if idOf key ∈ state.ids idOf then state.ids idOf else state.ids idOf ++ [idOf key] := by
  unfold upsert
  cases hb : state.byId (idOf key) with
  | some index =>
    have hat := (hi.byId _ _).mp hb
    rw [if_pos (List.mem_of_getElem? hat)]
    change (state.keysDb.set index key).map idOf = state.ids idOf
    rw [List.map_set, ← ids]
    apply List.ext_getElem?
    intro i
    rw [List.getElem?_set]
    split
    · rename_i he
      subst he
      rw [if_pos (List.getElem?_eq_some_iff.mp hat).1]
      exact hat.symm
    · rfl
  | none =>
    rw [if_neg (hi.byId_none hb)]
    exact List.map_append

theorem indexed_upsert {state : KeysDbState E} (hi : Indexed idOf state) (key : E) :
    Indexed idOf (state.upsert idOf key) := by
  have hids := ids_upsert hi key
  cases hb : state.byId (idOf key) with
  | some index =>
    rw [if_pos (List.mem_of_getElem? ((hi.byId _ _).mp hb))] at hids
    have hsame : (state.upsert idOf key).byId = state.byId := by
      simp only [upsert, hb]
    exact ⟨hids ▸ hi.nodup, fun id index => by rw [hids, hsame, hi.byId]⟩
  | none =>
    have hnew := hi.byId_none hb
    rw [if_neg hnew] at hids
    refine ⟨?_, fun id index => ?_⟩
    · rw [hids, ← List.concat_eq_append]
      exact List.Nodup.concat hnew hi.nodup
    · have hlen : state.keysDb.length = (state.ids idOf).length := List.length_map .. |>.symm
      have hby : (state.upsert idOf key).byId id = if id = idOf key then some state.keysDb.length
          else state.byId id := by
        simp only [upsert, hb]
      rw [hids, hby, hlen]
      by_cases hid : id = idOf key
      · rw [if_pos hid, Option.some.injEq, List.getElem?_append]
        split
        · rename_i hlt
          constructor
          · rintro rfl
            exact absurd hlt (Nat.lt_irrefl _)
          · intro h
            exact absurd (hid ▸ List.mem_of_getElem? h) hnew
        · rw [hid]
          constructor
          · rintro rfl
            simp
          · intro h
            have := (List.getElem?_eq_some_iff.mp h).1
            simp only [List.length_singleton] at this
            omega
      · rw [if_neg hid, hi.byId, List.getElem?_append]
        split
        · rfl
        · rename_i hge
          constructor
          · intro h
            exact absurd (List.getElem?_eq_some_iff.mp h).1 hge
          · intro h
            have hmem := List.mem_of_getElem? h
            exact absurd (List.mem_singleton.mp hmem) hid

theorem indexed_apply {state : KeysDbState E} (hi : Indexed idOf state) (op : Op E) :
    Indexed idOf (state.apply idOf op) := by
  cases op with
  | upsert key => exact indexed_upsert hi key
  | insertIfAbsent key =>
    simp only [apply, insertIfAbsent]
    split
    · exact hi
    · exact indexed_upsert hi key

theorem indexed_applyAll {state : KeysDbState E} (hi : Indexed idOf state) (ops : List (Op E)) :
    Indexed idOf (state.applyAll idOf ops) := by
  induction ops generalizing state with
  | nil => exact hi
  | cons op ops ih => exact ih (indexed_apply hi op)

/-! ## What is found -/

variable (idOf)

/-- The key of an upsert for `id`. -/
def Op.upserted (id : String) : Op E → Option E
  | .upsert key => if idOf key = id then some key else none
  | .insertIfAbsent _ => none

/-- The key of an insertion for `id`. -/
def Op.inserted (id : String) : Op E → Option E
  | .upsert _ => none
  | .insertIfAbsent key => if idOf key = id then some key else none

/-- The last key upserted for the id, else its key at the start, else the first key inserted for it. -/
def latest (ops : List (Op E)) (start : Option E) (id : String) : Option E :=
  (ops.reverse.findSome? (Op.upserted idOf id)).or (start.or (ops.findSome? (Op.inserted idOf id)))

variable {idOf}

/-- What `apply` does to `get`: an upsert replaces, an insertion fills a gap. -/
theorem get_apply {state : KeysDbState E} (hi : Indexed idOf state) (op : Op E) (id : String) :
    (state.apply idOf op).get id = (op.upserted idOf id).or ((state.get id).or (op.inserted idOf id)) := by
  cases op with
  | upsert key =>
    rw [apply, get_upsert hi.wellFormed, Op.upserted, Op.inserted, Option.or_none]
    by_cases h : idOf key = id
    · rw [if_pos h.symm, if_pos h, Option.some_or]
    · rw [if_neg (Ne.symm h), if_neg h, Option.none_or]
  | insertIfAbsent key =>
    have hc := KeysDbState.containsId_iff hi.wellFormed (idOf key)
    simp only [apply, insertIfAbsent, Op.upserted, Op.inserted, Option.none_or]
    by_cases h : idOf key = id
    · subst h
      rw [if_pos rfl]
      cases hg : state.get (idOf key) with
      | some old =>
        rw [hg, Option.isSome_some] at hc
        rw [if_pos hc, hg, Option.some_or]
      | none =>
        rw [hg] at hc
        rw [if_neg (by simp [hc]), get_upsert hi.wellFormed, if_pos rfl, Option.none_or]
    · rw [if_neg h, Option.or_none]
      split
      · rfl
      · rw [get_upsert hi.wellFormed, if_neg (Ne.symm h)]

/-- After every sequence of operations an id leads to what its history says. -/
theorem get_applyAll {state : KeysDbState E} (hi : Indexed idOf state) (ops : List (Op E)) (id : String) :
    (state.applyAll idOf ops).get id = latest idOf ops (state.get id) id := by
  induction ops generalizing state with
  | nil => simp [applyAll, latest]
  | cons op ops ih =>
    have h := ih (indexed_apply hi op)
    rw [get_apply hi op id] at h
    refine (show (state.applyAll idOf (op :: ops)).get id = _ from h).trans ?_
    simp only [latest, List.reverse_cons, List.findSome?_append, List.findSome?_cons, List.findSome?_nil]
    -- An operation is an upsert or an insertion for the id, or neither.
    cases hu : op.upserted idOf id with
    | some key =>
      cases op with
      | upsert key => simp [Op.inserted]
      | insertIfAbsent key => exact absurd hu (by simp [Op.upserted])
    | none => cases op.inserted idOf id <;> simp

/-- Without operations `get` is the key with that id. -/
theorem get_fromKeys_eq {keysDb : List E} (hd : (keysDb.map idOf).Nodup) (id : String) :
    (fromKeys idOf keysDb).get id = keysDb.find? fun key => idOf key = id := by
  have hi := indexed_fromKeys hd
  cases hf : keysDb.find? fun key => idOf key = id with
  | none =>
    have hnot : id ∉ (fromKeys idOf keysDb).ids idOf := by
      intro hmem
      obtain ⟨key, hkey, hid⟩ := List.mem_map.mp hmem
      exact absurd (List.find?_eq_none.mp hf key hkey) (by simpa using hid)
    rw [← hi.containsId_iff, containsId, Bool.not_eq_true, Option.isSome_eq_false_iff,
      Option.isNone_iff_eq_none] at hnot
    rw [get, hnot, Option.bind_none]
  | some key =>
    obtain ⟨index, hindex⟩ := List.mem_iff_getElem?.mp (List.mem_of_find?_eq_some hf)
    have hid : idOf key = id := by simpa using List.find?_some hf
    have hby := (hi.byId id index).mpr (getElem?_ids.mpr ⟨key, hindex, hid⟩)
    rw [get, hby, Option.bind_some]
    exact hindex

/-- From distinct ids, after any operations: list and index agree, `get` follows the history, an upsert changes nothing
for the other ids, and an insertion answers whether the id was absent. -/
theorem key_cache_indexed {keysDb : List E} (hd : (keysDb.map idOf).Nodup) (ops : List (Op E)) :
    let state := (fromKeys idOf keysDb).applyAll idOf ops
    Indexed idOf state ∧
    (∀ id, state.get id = latest idOf ops (keysDb.find? fun key => idOf key = id) id) ∧
    (∀ key, (state.upsert idOf key).get (idOf key) = some key ∧
      (∀ id, id ≠ idOf key → (state.upsert idOf key).get id = state.get id) ∧
      (state.upsert idOf key).ids idOf =
        if idOf key ∈ state.ids idOf then state.ids idOf else state.ids idOf ++ [idOf key]) ∧
    (∀ key, ((state.insertIfAbsent idOf key).1 = true ↔ idOf key ∉ state.ids idOf) ∧
      (idOf key ∈ state.ids idOf → (state.insertIfAbsent idOf key).2 = state)) := by
  have hstart := indexed_fromKeys hd
  have hi := indexed_applyAll hstart ops
  refine ⟨hi, fun id => ?_, fun key => ⟨?_, fun id hid => ?_, ids_upsert hi key⟩, fun key => ?_⟩
  · rw [get_applyAll hstart, get_fromKeys_eq hd]
  · rw [get_upsert hi.wellFormed, if_pos rfl]
  · rw [get_upsert hi.wellFormed, if_neg hid]
  · unfold insertIfAbsent
    by_cases hmem : idOf key ∈ ((fromKeys idOf keysDb).applyAll idOf ops).ids idOf
    · rw [if_pos ((hi.containsId_iff _).mpr hmem)]
      simp [hmem]
    · rw [if_neg fun h => hmem ((hi.containsId_iff _).mp h)]
      simp [hmem]

theorem key_cache_indexed_example :
    ((fromKeys Prod.fst [("a", 1), ("b", 2)]).applyAll Prod.fst
      [.upsert ("b", 3), .insertIfAbsent ("a", 4), .insertIfAbsent ("c", 5)]).get "b" = some ("b", 3) := by
  have hd : ([("a", 1), ("b", 2)].map Prod.fst).Nodup := by decide
  have h := (key_cache_indexed hd [.upsert ("b", 3), .insertIfAbsent ("a", 4), .insertIfAbsent ("c", 5)]).2.1 "b"
  exact h.trans (by decide)

end Vectis.Ops.Keys.KeysDbState
