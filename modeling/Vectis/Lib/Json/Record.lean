import Vectis.Lib.Json.Order
import Mathlib.Data.List.Chain

/-!
# Records

Typed values written as JSON and read back. A `Shape` carries the facts about what it writes: it is read back, it is
plain, and it is nested at most `levels` deep.

- `Field`: a field of a record, which may be left out when it is written;
- `Fields`: several, in the order of their keys, and `Shape.record`, the objects made of them;
- `Shape.write_injective`: different values are written differently.
-/

namespace Json

/-- How values of a type are written and read. -/
structure Shape (T : Type) where
  write : T → Value
  read : Value → Option T
  levels : Nat
  read_write : ∀ t, read (write t) = some t
  plain : ∀ t, (write t).plain = true
  depth_le : ∀ t, (write t).depth ≤ levels

theorem Shape.write_injective {T : Type} (shape : Shape T) {s t : T} (h : shape.write s = shape.write t) : s = t := by
  have hread := shape.read_write s
  rw [h, shape.read_write t] at hread
  exact (Option.some.inj hread).symm

/-! ## Scalars and lists -/

def readString : Value → Option String
  | .string s => some s
  | _ => none

def Shape.string : Shape String where
  write := .string
  read := readString
  levels := 0
  read_write _ := rfl
  plain _ := rfl
  depth_le _ := Nat.le_refl 0

def readBool : Value → Option Bool
  | .bool b => some b
  | _ => none

def Shape.bool : Shape Bool where
  write := .bool
  read := readBool
  levels := 0
  read_write _ := rfl
  plain _ := rfl
  depth_le _ := Nat.le_refl 0

/-- Unsigned integers of 64 bits. -/
def readU64 : Value → Option UInt64
  | .number (.posInt n) => if n < 2 ^ 64 then some (UInt64.ofNat n) else none
  | _ => none

def writeU64 (n : UInt64) : Value := .number (.posInt n.toNat)

theorem readU64_writeU64 (n : UInt64) : readU64 (writeU64 n) = some n := by
  rw [writeU64, readU64, if_pos n.toNat_lt, UInt64.ofNat_toNat]

theorem plain_writeU64 (n : UInt64) : (writeU64 n).plain = true := decide_eq_true n.toNat_lt

def Shape.u64 : Shape UInt64 where
  write := writeU64
  read := readU64
  levels := 0
  read_write := readU64_writeU64
  plain := plain_writeU64
  depth_le _ := Nat.le_refl 0

section Lists

variable {T : Type}

/-- A value of one of finitely many names. -/
def readName (name : T → String) (names : List T) : Value → Option T
  | .string s => names.find? fun t => name t = s
  | _ => none

theorem readName_write {name : T → String} {names : List T} (hmem : ∀ t, t ∈ names)
    (hname : ∀ s t, name s = name t → s = t) (t : T) : readName name names (.string (name t)) = some t := by
  cases hfind : names.find? fun s => name s = name t with
  | none => exact absurd (List.find?_eq_none.mp hfind t (hmem t)) (by simp)
  | some s =>
    rw [readName, hfind, hname s t (by simpa using List.find?_some hfind)]

def Shape.names (name : T → String) (names : List T) (hmem : ∀ t, t ∈ names) (hname : ∀ s t, name s = name t → s = t) :
    Shape T where
  write t := .string (name t)
  read := readName name names
  levels := 0
  read_write := readName_write hmem hname
  plain _ := rfl
  depth_le _ := Nat.le_refl 0

def readList (read : Value → Option T) : Value → Option (List T)
  | .array items => items.mapM read
  | _ => none

theorem mapM_read_write (shape : Shape T) : ∀ ts : List T, (ts.map shape.write).mapM shape.read = some ts
  | [] => rfl
  | t :: ts => by
    rw [List.map_cons, List.mapM_cons, shape.read_write, mapM_read_write shape ts]
    rfl

theorem plainItems_iff : ∀ {items : List Value}, plainItems items = true ↔ ∀ item ∈ items, item.plain = true
  | [] => by simp [plainItems]
  | item :: items => by rw [plainItems, Bool.and_eq_true, plainItems_iff, List.forall_mem_cons]

theorem depthItems_le {n : Nat} : ∀ {items : List Value}, (∀ item ∈ items, item.depth ≤ n) → depthItems items ≤ n
  | [], _ => Nat.zero_le n
  | item :: items, h => by
    obtain ⟨hitem, hitems⟩ := List.forall_mem_cons.mp h
    exact Nat.max_le.mpr ⟨hitem, depthItems_le hitems⟩

theorem plain_array (shape : Shape T) (ts : List T) : (Value.array (ts.map shape.write)).plain = true := by
  refine plainItems_iff.mpr fun item hitem => ?_
  obtain ⟨t, -, rfl⟩ := List.mem_map.mp hitem
  exact shape.plain t

theorem depth_array (shape : Shape T) (ts : List T) : (Value.array (ts.map shape.write)).depth ≤ shape.levels + 1 := by
  refine Nat.succ_le_succ (depthItems_le fun item hitem => ?_)
  obtain ⟨t, -, rfl⟩ := List.mem_map.mp hitem
  exact shape.depth_le t

def Shape.list (shape : Shape T) : Shape (List T) where
  write ts := .array (ts.map shape.write)
  read := readList shape.read
  levels := shape.levels + 1
  read_write := mapM_read_write shape
  plain := plain_array shape
  depth_le := depth_array shape

end Lists

/-! ## Fields -/

/-- A field of a record: `none` is written when it is left out, and read when it is missing. -/
structure Field (T : Type) where
  key : String
  write : T → Option Value
  read : Option Value → Option T
  levels : Nat
  read_write : ∀ t, read (write t) = some t
  plain : ∀ t, ∀ value ∈ write t, value.plain = true
  depth_le : ∀ t, ∀ value ∈ write t, value.depth ≤ levels

section Field

variable {T : Type} (key : String) (shape : Shape T)

/-- What a shape says of a value that is written with it. -/
theorem Shape.written {t : T} {value : Value} (h : value ∈ some (shape.write t)) :
    value.plain = true ∧ value.depth ≤ shape.levels := by
  cases h
  exact ⟨shape.plain t, shape.depth_le t⟩

/-- A field that must be there. -/
def Field.required : Field T where
  key
  write t := some (shape.write t)
  read value := value.bind shape.read
  levels := shape.levels
  read_write := shape.read_write
  plain _ _ h := (shape.written h).1
  depth_le _ _ h := (shape.written h).2

/-- A field that is always written, with a value for when it is missing. -/
def Field.default (missing : T) : Field T where
  key
  write t := some (shape.write t)
  read
    | none => some missing
    | some value => shape.read value
  levels := shape.levels
  read_write := shape.read_write
  plain _ _ h := (shape.written h).1
  depth_le _ _ h := (shape.written h).2

theorem written_unless {missing : T} [DecidableEq T] {t : T} {value : Value}
    (h : value ∈ if t = missing then none else some (shape.write t)) : value.plain = true ∧
    value.depth ≤ shape.levels := by
  split at h
  · cases h
  · exact shape.written h

def readUnless (missing : T) : Option Value → Option T
  | none => some missing
  | some value => shape.read value

theorem readUnless_write (missing : T) [DecidableEq T] (t : T) :
    readUnless shape missing (if t = missing then none else some (shape.write t)) = some t := by
  split
  · rename_i h
    rw [h, readUnless]
  · exact shape.read_write t

/-- A field that is left out when it has the value that a missing one has. -/
def Field.unless (missing : T) [DecidableEq T] : Field T where
  key
  write t := if t = missing then none else some (shape.write t)
  read := readUnless shape missing
  levels := shape.levels
  read_write := readUnless_write shape missing
  plain _ _ h := (written_unless shape h).1
  depth_le _ _ h := (written_unless shape h).2

def readPresent : Option Value → Option (Option T)
  | none => some none
  | some value => (shape.read value).map some

theorem readPresent_write (t : Option T) : readPresent shape (t.map shape.write) = some t := by
  cases t with
  | none => rfl
  | some t => rw [Option.map_some, readPresent, shape.read_write, Option.map_some]

theorem written_map {t : Option T} {value : Value} (h : value ∈ t.map shape.write) :
    value.plain = true ∧ value.depth ≤ shape.levels := by
  cases t with
  | none => cases h
  | some t => exact shape.written h

/-- A field that may be missing, but is not `null`. -/
def Field.present : Field (Option T) where
  key
  write t := t.map shape.write
  read := readPresent shape
  levels := shape.levels
  read_write := readPresent_write shape
  plain _ _ h := (written_map shape h).1
  depth_le _ _ h := (written_map shape h).2

/-- A field that may be missing or `null`. -/
def readOptional : Option Value → Option (Option T)
  | none => some none
  | some .null => some none
  | some value => (shape.read value).map some

variable (hnull : ∀ t, shape.write t ≠ .null)

include hnull in
theorem readOptional_some (t : T) : readOptional shape (some (shape.write t)) = some (some t) := by
  unfold readOptional
  split
  · rename_i h
    cases h
  · rename_i h
    exact absurd (Option.some.inj h) (hnull t)
  · rename_i h
    rw [← Option.some.inj h, shape.read_write, Option.map_some]

include hnull in
theorem readOptional_map (t : Option T) : readOptional shape (t.map shape.write) = some t := by
  cases t with
  | none => rfl
  | some t => exact readOptional_some shape hnull t

/-- It is left out when there is no value. -/
def Field.optional : Field (Option T) where
  key
  write t := t.map shape.write
  read := readOptional shape
  levels := shape.levels
  read_write := readOptional_map shape hnull
  plain _ _ h := (written_map shape h).1
  depth_le _ _ h := (written_map shape h).2

/-- No value as `null`. -/
def writeNullable (t : Option T) : Value := (t.map shape.write).getD .null

include hnull in
theorem readOptional_writeNullable (t : Option T) : readOptional shape (some (writeNullable shape t)) = some t := by
  cases t with
  | none => rfl
  | some t => exact readOptional_some shape hnull t

theorem written_nullable {t : Option T} {value : Value} (h : value ∈ some (writeNullable shape t)) :
    value.plain = true ∧ value.depth ≤ shape.levels := by
  cases h
  cases t with
  | none => exact ⟨rfl, Nat.zero_le _⟩
  | some t => exact shape.written rfl

/-- It is written as `null` when there is no value. -/
def Field.nullable : Field (Option T) where
  key
  write t := some (writeNullable shape t)
  read := readOptional shape
  levels := shape.levels
  read_write := readOptional_writeNullable shape hnull
  plain _ _ h := (written_nullable shape h).1
  depth_le _ _ h := (written_nullable shape h).2

end Field

/-! ## Records -/

/-- The entries of the fields that are not left out. -/
def entriesOf (keys : List String) (values : List (Option Value)) : List (String × Value) :=
  (keys.zip values).filterMap fun field => field.2.map (Prod.mk field.1)

theorem mem_entriesOf {keys : List String} {values : List (Option Value)} {entry : String × Value} :
    entry ∈ entriesOf keys values ↔ (entry.1, some entry.2) ∈ keys.zip values := by
  rw [entriesOf, List.mem_filterMap]
  constructor
  · rintro ⟨⟨key, value⟩, hmem, h⟩
    obtain ⟨v, rfl, rfl⟩ := Option.map_eq_some_iff.mp h
    exact hmem
  · intro h
    exact ⟨_, h, rfl⟩

/-- Keys in increasing order. -/
def Sorted (keys : List String) : Prop := keys.IsChain fun a b => keyLt a b = true

instance (keys : List String) : Decidable (Sorted keys) := inferInstanceAs (Decidable (keys.IsChain _))

theorem Sorted.pairwise {keys : List String} (h : Sorted keys) : keys.Pairwise fun a b => keyLt a b = true := by
  have : IsTrans String fun a b => keyLt a b = true := ⟨fun _ _ _ => keyLt_trans⟩
  exact List.isChain_iff_pairwise.mp h

theorem Sorted.nodup {keys : List String} (h : Sorted keys) : keys.Nodup := h.pairwise.imp keyLt_ne

theorem find?_zip : ∀ {keys : List String} {values : List (Option Value)} {key : String} {value : Option Value},
    keys.Nodup → (key, value) ∈ keys.zip values →
    ((entriesOf keys values).find? fun entry => entry.1 = key).map Prod.snd = value
  | [], _, _, _, _, h => by simp at h
  | _ :: _, [], _, _, _, h => by simp at h
  | k :: keys, v :: values, key, value, hnodup, h => by
    obtain ⟨hk, hnodup⟩ := List.nodup_cons.mp hnodup
    have hother : ∀ entry ∈ entriesOf keys values, entry.1 ≠ k := by
      rintro entry hentry rfl
      exact hk (List.of_mem_zip (mem_entriesOf.mp hentry)).1
    rw [List.zip_cons_cons, List.mem_cons] at h
    rcases h with h | h
    · obtain ⟨rfl, rfl⟩ := Prod.mk.inj h
      cases value with
      | some v => simp [entriesOf]
      | none =>
        have hnone : (entriesOf keys values).find? (fun entry => entry.1 = key) = none :=
          List.find?_eq_none.mpr fun entry hentry => by simpa using hother entry hentry
        rw [show entriesOf (key :: keys) (none :: values) = entriesOf keys values from rfl, hnone, Option.map_none]
    · have hne : k ≠ key := fun heq => hk (heq ▸ (List.of_mem_zip h).1)
      have ih := find?_zip hnodup h
      cases v with
      | none => exact ih
      | some v =>
        rw [show entriesOf (k :: keys) (some v :: values) = (k, v) :: entriesOf keys values from rfl,
          List.find?_cons_of_neg (by simpa using hne)]
        exact ih

theorem get_record {keys : List String} {values : List (Option Value)} (hnodup : keys.Nodup) {key : String}
    {value : Option Value} (h : (key, value) ∈ keys.zip values) :
    (Value.object (entriesOf keys values)).get key = value :=
  find?_zip hnodup h

theorem plainEntry_eq (entry : String × Value) : plainEntry entry = entry.2.plain := by
  obtain ⟨key, value⟩ := entry
  rw [plainEntry]

theorem plainEntries_iff {entries : List (String × Value)} : plainEntries entries = true ↔
    Sorted (entries.map Prod.fst) ∧ ∀ entry ∈ entries, entry.2.plain = true := by
  induction entries with
  | nil => simp [plainEntries, Sorted]
  | cons entry entries ih =>
    cases entries with
    | nil => simp [plainEntries, plainEntry_eq, Sorted]
    | cons next entries =>
      simp only [Sorted, List.map_cons] at ih
      simp only [plainEntries, Bool.and_eq_true, ih, plainEntry_eq, Sorted, List.map_cons, List.isChain_cons_cons,
        List.forall_mem_cons]
      tauto

theorem sublist_entriesOf : ∀ (keys : List String) (values : List (Option Value)),
    ((entriesOf keys values).map Prod.fst).Sublist keys
  | [], _ => List.Sublist.refl []
  | _ :: _, [] => List.nil_sublist _
  | key :: keys, none :: values => (sublist_entriesOf keys values).cons key
  | key :: keys, some _ :: values => (sublist_entriesOf keys values).cons_cons key

theorem plain_record {keys : List String} {values : List (Option Value)} (hsorted : Sorted keys)
    (hplain : ∀ value, some value ∈ values → value.plain = true) :
    (Value.object (entriesOf keys values)).plain = true := by
  refine plainEntries_iff.mpr ⟨?_, fun entry hentry => hplain _ (List.of_mem_zip (mem_entriesOf.mp hentry)).2⟩
  have : IsTrans String fun a b => keyLt a b = true := ⟨fun _ _ _ => keyLt_trans⟩
  exact List.isChain_iff_pairwise.mpr (hsorted.pairwise.sublist (sublist_entriesOf keys values))

theorem depthEntry_eq (entry : String × Value) : depthEntry entry = entry.2.depth := by
  obtain ⟨key, value⟩ := entry
  rw [depthEntry]

theorem depthEntries_le {n : Nat} : ∀ {entries : List (String × Value)}, (∀ entry ∈ entries, entry.2.depth ≤ n) →
    depthEntries entries ≤ n
  | [], _ => Nat.zero_le n
  | entry :: entries, h => by
    obtain ⟨hentry, hentries⟩ := List.forall_mem_cons.mp h
    exact Nat.max_le.mpr ⟨depthEntry_eq entry ▸ hentry, depthEntries_le hentries⟩

theorem depth_record {keys : List String} {values : List (Option Value)} {n : Nat}
    (hdepth : ∀ value, some value ∈ values → value.depth ≤ n) : (Value.object (entriesOf keys values)).depth ≤ n + 1 :=
  Nat.succ_le_succ (depthEntries_le fun _ hentry => hdepth _ (List.of_mem_zip (mem_entriesOf.mp hentry)).2)

/-- Fields in the order of their keys. -/
structure Fields (T : Type) where
  keys : List String
  write : T → List (Option Value)
  read : (String → Option Value) → Option T
  levels : Nat
  read_write : ∀ t lookup, (∀ field ∈ keys.zip (write t), lookup field.1 = field.2) → read lookup = some t
  plain : ∀ t value, some value ∈ write t → value.plain = true
  depth_le : ∀ t value, some value ∈ write t → value.depth ≤ levels

def Fields.nil : Fields Unit where
  keys := []
  write _ := []
  read _ := some ()
  levels := 0
  read_write _ _ _ := rfl
  plain _ _ h := absurd h List.not_mem_nil
  depth_le _ _ h := absurd h List.not_mem_nil

section Cons

variable {S T : Type} (field : Field S) (fields : Fields T)

def readCons (lookup : String → Option Value) : Option (S × T) := do
  let first ← field.read (lookup field.key)
  let rest ← fields.read lookup
  some (first, rest)

theorem readCons_write (t : S × T) (lookup : String → Option Value)
    (h : ∀ f ∈ (field.key :: fields.keys).zip (field.write t.1 :: fields.write t.2), lookup f.1 = f.2) :
    readCons field fields lookup = some t := by
  rw [List.zip_cons_cons, List.forall_mem_cons] at h
  rw [readCons, h.1, field.read_write, fields.read_write t.2 lookup h.2]
  rfl

theorem plain_cons (t : S × T) (value : Value) (h : some value ∈ field.write t.1 :: fields.write t.2) :
    value.plain = true := by
  rcases List.mem_cons.mp h with h | h
  · exact field.plain t.1 value h.symm
  · exact fields.plain t.2 value h

theorem depth_cons (t : S × T) (value : Value) (h : some value ∈ field.write t.1 :: fields.write t.2) :
    value.depth ≤ max field.levels fields.levels := by
  rcases List.mem_cons.mp h with h | h
  · exact (field.depth_le t.1 value h.symm).trans (Nat.le_max_left _ _)
  · exact (fields.depth_le t.2 value h).trans (Nat.le_max_right _ _)

def Fields.cons : Fields (S × T) where
  keys := field.key :: fields.keys
  write t := field.write t.1 :: fields.write t.2
  read := readCons field fields
  levels := max field.levels fields.levels
  read_write := readCons_write field fields
  plain := plain_cons field fields
  depth_le := depth_cons field fields

end Cons

section Record

variable {S T : Type} (fields : Fields S)

theorem map_read_write {toTuple : T → S} {ofTuple : S → T} (h : ∀ t, ofTuple (toTuple t) = t) (t : T)
    (lookup : String → Option Value)
    (hlookup : ∀ f ∈ fields.keys.zip (fields.write (toTuple t)), lookup f.1 = f.2) :
    (fields.read lookup).map ofTuple = some t := by
  rw [fields.read_write (toTuple t) lookup hlookup, Option.map_some, h]

/-- The fields of a structure, as those of the tuple of its values. -/
def Fields.map (toTuple : T → S) (ofTuple : S → T) (h : ∀ t, ofTuple (toTuple t) = t) : Fields T where
  keys := fields.keys
  write t := fields.write (toTuple t)
  read lookup := (fields.read lookup).map ofTuple
  levels := fields.levels
  read_write := map_read_write fields h
  plain t := fields.plain (toTuple t)
  depth_le t := fields.depth_le (toTuple t)

/-- The keys of an object are all known. -/
def known (keys : List String) : Value → Bool
  | .object entries => entries.all fun entry => entry.1 ∈ keys
  | _ => false

theorem known_record (keys : List String) (values : List (Option Value)) :
    known keys (.object (entriesOf keys values)) = true :=
  List.all_eq_true.mpr fun _ hentry => decide_eq_true (List.of_mem_zip (mem_entriesOf.mp hentry)).1

/-- A record is read from an object, by its keys; `closed` refuses other keys. -/
def readRecord (closed : Bool) (value : Value) : Option S :=
  if (if closed then known fields.keys value else value.isObject) then fields.read value.get else none

theorem readRecord_write (closed : Bool) (hsorted : Sorted fields.keys) (t : S) :
    readRecord fields closed (.object (entriesOf fields.keys (fields.write t))) = some t := by
  rw [readRecord, if_pos (by cases closed <;> simp [known_record, Value.isObject])]
  exact fields.read_write t _ fun f hf => get_record hsorted.nodup hf

def Shape.record (closed : Bool) (hsorted : Sorted fields.keys) : Shape S where
  write t := .object (entriesOf fields.keys (fields.write t))
  read := readRecord fields closed
  levels := fields.levels + 1
  read_write := readRecord_write fields closed hsorted
  plain t := plain_record hsorted (fields.plain t)
  depth_le t := depth_record (fields.depth_le t)

theorem record_ne_null (closed : Bool) (hsorted : Sorted fields.keys) (t : S) :
    (Shape.record fields closed hsorted).write t ≠ .null := fun h => Value.noConfusion h

end Record

end Json
