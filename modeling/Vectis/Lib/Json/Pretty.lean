import Mathlib.Data.List.TakeWhile
import Vectis.Lib.Json

/-!
# Indented JSON

The text that a pretty printer writes: every item and entry on a line of its own, indented by two blanks for each level.

- `Value.pretty`: the text of a value at a level;
- `parse_pretty`: it is read back as the value, with the entries of objects in the order of their keys.
-/

namespace Json

/-! ## Text -/

/-- A line break, and the indentation of a level. -/
def newline (level : Nat) : List Char := '\n' :: List.replicate (2 * level) ' '

mutual

/-- The indented text of a value. -/
def Value.pretty : Nat → Value → List Char
  | _, .array [] => ['[', ']']
  | level, .array (item :: items) => '[' :: prettyItems (level + 1) (item :: items) ++ newline level ++ [']']
  | _, .object [] => ['{', '}']
  | level, .object (entry :: entries) => '{' :: prettyEntries (level + 1) (entry :: entries) ++ newline level ++ ['}']
  | _, value => value.render

def prettyItems : Nat → List Value → List Char
  | _, [] => []
  | level, [item] => newline level ++ item.pretty level
  | level, item :: items => newline level ++ item.pretty level ++ ',' :: prettyItems level items

def prettyEntries : Nat → List (String × Value) → List Char
  | _, [] => []
  | level, [entry] => newline level ++ prettyEntry level entry
  | level, entry :: entries => newline level ++ prettyEntry level entry ++ ',' :: prettyEntries level entries

def prettyEntry : Nat → String × Value → List Char
  | level, (key, value) => renderString key ++ ':' :: ' ' :: value.pretty level

end

/-! ## Normal forms -/

theorem insertEntry_nil {key : String} {value : Value} : insertEntry key value [] = [(key, value)] := rfl

theorem insertEntry_first {key other : String} {value value' : Value} {entries : List (String × Value)}
    (h : keyLt key other = true) :
    insertEntry key value ((other, value') :: entries) = (key, value) :: (other, value') :: entries := if_pos h

theorem insertEntry_later {key other : String} {value value' : Value} {entries : List (String × Value)}
    (h : keyLt key other = false) (hne : key ≠ other) :
    insertEntry key value ((other, value') :: entries) = (other, value') :: insertEntry key value entries := by
  rw [insertEntry, if_neg (by simp [h]), if_neg hne]

/-! ## Blanks -/

theorem newline_space (level : Nat) : ∀ c ∈ newline level, isSpace c = true := by
  intro c hc
  rcases List.mem_cons.mp hc with rfl | hc
  · rfl
  · rw [(List.mem_replicate.mp hc).2]
    rfl

theorem dropWhile_newline (level : Nat) (cs : List Char) :
    (newline level ++ cs).dropWhile isSpace = cs.dropWhile isSpace :=
  List.dropWhile_append_of_pos (newline_space level)

/-- A value may come after blanks. -/
theorem parseValue_blank {blank : List Char} (h : ∀ c ∈ blank, isSpace c = true) (fuel depth : Nat) (cs : List Char) :
    parseValue fuel depth (blank ++ cs) = parseValue fuel depth cs := by
  cases fuel with
  | zero => rfl
  | succ fuel => rw [parseValue, parseValue, List.dropWhile_append_of_pos h]

theorem parseEntries_blank {blank : List Char} (h : ∀ c ∈ blank, isSpace c = true) (fuel depth : Nat) (cs : List Char) :
    parseEntries fuel depth (blank ++ cs) = parseEntries fuel depth cs := by
  cases fuel with
  | zero => rfl
  | succ fuel => rw [parseEntries, parseEntries, List.dropWhile_append_of_pos h]

theorem parseItems_blank {blank : List Char} (h : ∀ c ∈ blank, isSpace c = true) (fuel depth : Nat) (cs : List Char) :
    parseItems fuel depth (blank ++ cs) = parseItems fuel depth cs := by
  cases fuel with
  | zero => rfl
  | succ fuel => rw [parseItems, parseItems, parseValue_blank h]

/-- The blank after a colon. -/
theorem parseValue_colon (fuel depth : Nat) (cs : List Char) :
    parseValue fuel depth (' ' :: cs) = parseValue fuel depth cs := by
  have hblank : ∀ c ∈ [' '], isSpace c = true := by simp [isSpace]
  exact parseValue_blank hblank fuel depth cs

theorem stops_newline (level : Nat) (cs : List Char) : Stops (newline level ++ cs) := by
  intro c rest h
  cases h
  decide

theorem parseItems_dropWhile (fuel depth : Nat) (cs : List Char) :
    parseItems fuel depth (cs.dropWhile isSpace) = parseItems fuel depth cs := by
  have hblank : ∀ c ∈ cs.takeWhile isSpace, isSpace c = true := fun c hc => List.mem_takeWhile_imp hc
  have h := parseItems_blank hblank fuel depth (cs.dropWhile isSpace)
  rwa [List.takeWhile_append_dropWhile, eq_comm] at h

theorem parseEntries_dropWhile (fuel depth : Nat) (cs : List Char) :
    parseEntries fuel depth (cs.dropWhile isSpace) = parseEntries fuel depth cs := by
  have hblank : ∀ c ∈ cs.takeWhile isSpace, isSpace c = true := fun c hc => List.mem_takeWhile_imp hc
  have h := parseEntries_blank hblank fuel depth (cs.dropWhile isSpace)
  rwa [List.takeWhile_append_dropWhile, eq_comm] at h

/-- An array that is not closed at once. -/
theorem parseValue_items {fuel depth : Nat} {cs : List Char} (hdepth : depth ≠ 0)
    (h : ∀ rest, cs.dropWhile isSpace ≠ ']' :: rest) : parseValue (fuel + 1) depth ('[' :: cs) =
      (parseItems fuel (depth - 1) cs).map fun (items, rest) => (.array items, rest) := by
  rw [parseValue, dropWhile_space (c := '[') rfl]
  simp only [if_neg hdepth]
  rw [parseItems_dropWhile]

/-- An object that is not closed at once. -/
theorem parseValue_entries {fuel depth : Nat} {cs : List Char} (hdepth : depth ≠ 0)
    (h : ∀ rest, cs.dropWhile isSpace ≠ '}' :: rest) : parseValue (fuel + 1) depth ('{' :: cs) =
      (parseEntries fuel (depth - 1) cs).map fun (entries, rest) => (.object entries, rest) := by
  rw [parseValue, dropWhile_space (c := '{') rfl]
  simp only [if_neg hdepth]
  rw [parseEntries_dropWhile]

/-! ## Round trip -/

/-- The text of a value that is not an array or an object with members. -/
theorem pretty_render {v : Value} (harray : ∀ item items, v ≠ .array (item :: items))
    (hobject : ∀ entry entries, v ≠ .object (entry :: entries)) (level : Nat) : v.pretty level = v.render := by
  cases v with
  | array items =>
    cases items with
    | nil => rfl
    | cons item items => exact absurd rfl (harray item items)
  | object entries =>
    cases entries with
    | nil => rfl
    | cons entry entries => exact absurd rfl (hobject entry entries)
  | _ => rw [Value.pretty] <;> simp

theorem pretty_head {v : Value} (hv : v.integral = true) (level : Nat) : ∃ c cs, v.pretty level = c :: cs ∧
    Starts c := by
  by_cases harray : ∃ item items, v = .array (item :: items)
  · obtain ⟨item, items, rfl⟩ := harray
    exact ⟨'[', _, by rw [Value.pretty]; rfl, rfl, by decide⟩
  by_cases hobject : ∃ entry entries, v = .object (entry :: entries)
  · obtain ⟨entry, entries, rfl⟩ := hobject
    exact ⟨'{', _, by rw [Value.pretty]; rfl, rfl, by decide⟩
  rw [pretty_render (fun item items h => harray ⟨item, items, h⟩) (fun entry entries h => hobject ⟨entry, entries, h⟩)]
  exact render_head hv

/-- Items begin with a line break and a value, entries with a line break and a quote. -/
theorem prettyItems_cons (level : Nat) (item : Value) (items : List Value) :
    ∃ cs, prettyItems level (item :: items) = newline level ++ (item.pretty level ++ cs) := by
  cases items with
  | nil => exact ⟨[], by rw [prettyItems, List.append_nil]⟩
  | cons next items => exact ⟨',' :: prettyItems level (next :: items), by simp [prettyItems]⟩

theorem prettyEntries_cons (level : Nat) (entry : String × Value) (entries : List (String × Value)) :
    ∃ cs, prettyEntries level (entry :: entries) = newline level ++ '"' :: cs := by
  obtain ⟨key, value⟩ := entry
  cases entries with
  | nil => exact ⟨_, by rw [prettyEntries, prettyEntry, renderString, List.cons_append, List.cons_append]⟩
  | cons next entries =>
    exact ⟨key.toList.flatMap escapeChar ++ ['"'] ++ ':' :: ' ' :: value.pretty level ++ ',' ::
      prettyEntries level (next :: entries), by simp [prettyEntries, prettyEntry, renderString]⟩

mutual

theorem parseValue_pretty : ∀ (v : Value) (level fuel depth : Nat) (rest : List Char), v.integral = true →
    v.depth ≤ depth → (v.pretty level).length ≤ fuel → Stops rest →
      parseValue fuel depth (v.pretty level ++ rest) = some (v.normalize, rest)
  | v, level, 0, _, _, hp, _, hf, _ => by
    obtain ⟨c, cs, hcs, -⟩ := pretty_head hp level
    rw [hcs] at hf
    simp at hf
  | .array (item :: items), level, fuel + 1, depth, rest, hp, hd, hf, _ => by
    rw [Value.integral] at hp
    rw [Value.depth] at hd
    rw [Value.pretty, List.length_append, List.length_append, List.length_cons, List.length_singleton] at hf
    obtain ⟨cs, hcs⟩ := prettyItems_cons (level + 1) item items
    obtain ⟨c, cs', hc, hspace, hbracket⟩ := pretty_head (show item.integral = true by
      rw [integralItems, Bool.and_eq_true] at hp; exact hp.1) (level + 1)
    have hitems := parseItems_pretty item items (level + 1) level fuel (depth - 1) rest hp (by omega) (by omega)
    have hrender : (Value.array (item :: items)).pretty level ++ rest =
        '[' :: (prettyItems (level + 1) (item :: items) ++ (newline level ++ ']' :: rest)) := by simp [Value.pretty]
    rw [hrender, parseValue_items (by omega), hitems]
    · rfl
    · intro rest' h
      rw [hcs, List.append_assoc, dropWhile_newline, hc, List.cons_append, List.cons_append,
        dropWhile_space hspace] at h
      exact hbracket (List.cons.inj h).1
  | .object (entry :: entries), level, fuel + 1, depth, rest, hp, hd, hf, _ => by
    rw [Value.integral] at hp
    rw [Value.depth] at hd
    rw [Value.pretty, List.length_append, List.length_append, List.length_cons, List.length_singleton] at hf
    obtain ⟨cs, hcs⟩ := prettyEntries_cons (level + 1) entry entries
    have hentries := parseEntries_pretty entry entries (level + 1) level fuel (depth - 1) rest hp (by omega) (by omega)
    have hrender : (Value.object (entry :: entries)).pretty level ++ rest =
        '{' :: (prettyEntries (level + 1) (entry :: entries) ++ (newline level ++ '}' :: rest)) := by
      simp [Value.pretty]
    rw [hrender, parseValue_entries (by omega), hentries]
    · rfl
    · intro rest' h
      rw [hcs, List.append_assoc, dropWhile_newline, List.cons_append, dropWhile_space (c := '"') rfl] at h
      exact absurd (List.cons.inj h).1 (by decide)
  | .array [], level, fuel + 1, depth, rest, hp, hd, hf, hr => parseValue_render (.array []) (fuel + 1) depth rest hp
      hd hf hr
  | .object [], level, fuel + 1, depth, rest, hp, hd, hf, hr => parseValue_render (.object []) (fuel + 1) depth rest hp
      hd hf hr
  | .null, level, fuel + 1, depth, rest, hp, hd, hf, hr => parseValue_render .null (fuel + 1) depth rest hp hd hf hr
  | .bool b, level, fuel + 1, depth, rest, hp, hd, hf, hr => parseValue_render (.bool b) (fuel + 1) depth rest hp
      hd hf hr
  | .number n, level, fuel + 1, depth, rest, hp, hd, hf, hr => parseValue_render (.number n) (fuel + 1) depth rest hp
      hd hf hr
  | .string s, level, fuel + 1, depth, rest, hp, hd, hf, hr => parseValue_render (.string s) (fuel + 1) depth rest hp
      hd hf hr
termination_by structural _ _ fuel => fuel

theorem parseItems_pretty : ∀ (item : Value) (items : List Value) (level outer fuel depth : Nat) (rest : List Char),
    integralItems (item :: items) = true → depthItems (item :: items) ≤ depth →
    (prettyItems level (item :: items)).length < fuel →
    parseItems fuel depth (prettyItems level (item :: items) ++ (newline outer ++ ']' :: rest)) =
      some (normalizeItems (item :: items), rest)
  | item, items, _, _, 0, _, _, _, _, hf => absurd hf (Nat.not_lt_zero _)
  | item, [], level, outer, fuel + 1, depth, rest, hp, hd, hf => by
    simp only [integralItems, Bool.and_true, depthItems, Nat.max_zero, prettyItems, List.length_append] at hp hd hf
    have hitem := parseValue_pretty item level fuel depth (newline outer ++ ']' :: rest) hp hd (by omega)
      (stops_newline outer _)
    rw [prettyItems, parseItems, List.append_assoc, parseValue_blank (newline_space level), hitem]
    simp [dropWhile_newline, isSpace, normalizeItems]
  | item, next :: items, level, outer, fuel + 1, depth, rest, hp, hd, hf => by
    rw [integralItems, Bool.and_eq_true] at hp
    rw [depthItems] at hd
    have hrender : prettyItems level (item :: next :: items) =
        newline level ++ (item.pretty level ++ ',' :: prettyItems level (next :: items)) := by simp [prettyItems]
    rw [hrender, List.length_append, List.length_append, List.length_cons] at hf
    have hitem := parseValue_pretty item level fuel depth
      (',' :: (prettyItems level (next :: items) ++ (newline outer ++ ']' :: rest))) hp.1 (by omega) (by omega)
      (stops_cons _ (by simp))
    have hitems := parseItems_pretty next items level outer fuel depth rest hp.2 (by omega) (by omega)
    rw [hrender, List.append_assoc, List.append_assoc, List.cons_append, parseItems,
      parseValue_blank (newline_space level), hitem]
    simp [isSpace, hitems, normalizeItems]
termination_by structural _ _ _ _ fuel => fuel

theorem parseEntries_pretty : ∀ (entry : String × Value) (entries : List (String × Value))
    (level outer fuel depth : Nat) (rest : List Char), integralEntries (entry :: entries) = true →
    depthEntries (entry :: entries) ≤ depth →
    (prettyEntries level (entry :: entries)).length < fuel →
    parseEntries fuel depth (prettyEntries level (entry :: entries) ++ (newline outer ++ '}' :: rest)) =
      some (normalizeEntries (entry :: entries), rest)
  | _, _, _, _, 0, _, _, _, _, hf => absurd hf (Nat.not_lt_zero _)
  | (key, value), [], level, outer, fuel + 1, depth, rest, hp, hd, hf => by
    simp only [integralEntries, integralEntry, Bool.and_true, depthEntries, depthEntry, Nat.max_zero,
      prettyEntries, prettyEntry, List.length_append, List.length_cons] at hp hd hf
    have hvalue := parseValue_pretty value level fuel depth (newline outer ++ '}' :: rest) hp hd (by omega)
      (stops_newline outer _)
    have hkey := parseString_renderString key (':' :: ' ' :: (value.pretty level ++ (newline outer ++ '}' :: rest)))
    have hrender : prettyEntries level [(key, value)] ++ (newline outer ++ '}' :: rest) = newline level ++
        ('"' :: (key.toList.flatMap escapeChar ++ ['"'] ++ ':' :: ' ' ::
          (value.pretty level ++ (newline outer ++ '}' :: rest)))) := by
      simp [prettyEntries, prettyEntry, renderString]
    rw [hrender, parseEntries_blank (newline_space level), parseEntries, dropWhile_space (c := '"') rfl]
    simp only [hkey, Option.bind_eq_bind, Option.bind_some, dropWhile_space (c := ':') rfl,
      parseValue_colon, hvalue, dropWhile_newline, dropWhile_space (c := '}') rfl,
      String.ofList_toList, normalizeEntries, normalizeEntry, insertEntry]
  | (key, value), next :: entries, level, outer, fuel + 1, depth, rest, hp, hd, hf => by
    rw [integralEntries, Bool.and_eq_true, integralEntry] at hp
    rw [depthEntries, depthEntry] at hd
    have hlength : (prettyEntries level ((key, value) :: next :: entries)).length = (newline level).length +
        (renderString key).length + (value.pretty level).length + (prettyEntries level (next :: entries)).length
          + 3 := by
      simp [prettyEntries, prettyEntry]
      omega
    have hvalue := parseValue_pretty value level fuel depth
      (',' :: (prettyEntries level (next :: entries) ++ (newline outer ++ '}' :: rest))) hp.1 (by omega) (by omega)
      (stops_cons _ (by simp))
    have hentries := parseEntries_pretty next entries level outer fuel depth rest hp.2 (by omega) (by omega)
    have hkey := parseString_renderString key (':' :: ' ' ::
      (value.pretty level ++ ',' :: (prettyEntries level (next :: entries) ++ (newline outer ++ '}' :: rest))))
    have hrender : prettyEntries level ((key, value) :: next :: entries) ++ (newline outer ++ '}' :: rest) =
        newline level ++ ('"' :: (key.toList.flatMap escapeChar ++ ['"'] ++ ':' :: ' ' :: (value.pretty level ++ ',' ::
          (prettyEntries level (next :: entries) ++ (newline outer ++ '}' :: rest))))) := by
      simp [prettyEntries, prettyEntry, renderString]
    rw [hrender, parseEntries_blank (newline_space level), parseEntries, dropWhile_space (c := '"') rfl]
    simp only [hkey, Option.bind_eq_bind, Option.bind_some, dropWhile_space (c := ':') rfl,
      parseValue_colon, hvalue, dropWhile_space (c := ',') rfl, hentries,
      String.ofList_toList, normalizeEntries, normalizeEntry]
termination_by structural _ _ _ _ fuel => fuel

end

/-- Reading gives back what was written, with the entries of objects in the order of their keys. -/
theorem parse_pretty {limit : Nat} {v : Value} (hp : v.integral = true) (hd : v.depth < limit) :
    parse limit (String.ofList (v.pretty 0)) = some v.normalize := by
  have hstops : Stops [] := by
    intro c cs h
    cases h
  have hparse := parseValue_pretty v 0 ((v.pretty 0).length + 1) (limit - 1) [] hp (by omega) (by omega) hstops
  rw [List.append_nil] at hparse
  simp only [parse, String.length_ofList, String.toList_ofList, hparse, List.all_nil, if_true]

/-! ## Sizes -/

theorem bytes_newline (level : Nat) : bytes (newline level) = 2 * level + 1 := by
  have hbreak : ('\n').utf8Size = 1 := by decide
  have hblank : (' ').utf8Size = 1 := by decide
  simp [newline, bytes, List.map_replicate, hbreak, hblank]
  omega

/-- A value without members is written as in compact text. -/
def scalar : Value → Bool
  | .array _ | .object _ => false
  | _ => true

theorem pretty_scalar {v : Value} (h : scalar v = true) (level : Nat) : v.pretty level = v.render :=
  pretty_render (by rintro item items rfl; cases h) (by rintro entry entries rfl; cases h) level

/-- An entry takes four bytes more than in compact text: the blank, the line break and two blanks before it. -/
theorem bytes_prettyEntries : ∀ (entry : String × Value) (entries : List (String × Value)),
    (∀ e ∈ entry :: entries, scalar e.2 = true) →
    bytes (prettyEntries 1 (entry :: entries)) + 1 = ((entry :: entries).map fun e => entryBytes e + 4).sum
  | (key, value), [], h => by
    have hvalue := pretty_scalar (h _ List.mem_cons_self) 1
    have hcolon : (':').utf8Size = 1 := by decide
    have hblank : (' ').utf8Size = 1 := by decide
    simp only [prettyEntries, prettyEntry, bytes_append, bytes_cons, bytes_newline, hvalue, entryBytes, hcolon, hblank,
      List.map_cons, List.map_nil, List.sum_cons, List.sum_nil]
    omega
  | (key, value), next :: entries, h => by
    have hvalue := pretty_scalar (h _ List.mem_cons_self) 1
    have hcolon : (':').utf8Size = 1 := by decide
    have hblank : (' ').utf8Size = 1 := by decide
    have hcomma : (',').utf8Size = 1 := by decide
    have ih := bytes_prettyEntries next entries fun e he => h e (List.mem_cons_of_mem _ he)
    rw [List.map_cons, List.sum_cons, ← ih]
    simp only [prettyEntries, prettyEntry, bytes_append, bytes_cons, bytes_newline, hvalue, entryBytes, hcolon, hblank,
      hcomma]
    omega

/-- The size of a record of scalars. -/
theorem bytes_pretty_object {entry : String × Value} {entries : List (String × Value)}
    (h : ∀ e ∈ entry :: entries, scalar e.2 = true) :
    bytes ((Value.object (entry :: entries)).pretty 0) = ((entry :: entries).map fun e => entryBytes e + 4).sum
    + 2 := by
  have hentries := bytes_prettyEntries entry entries h
  have hopen : ('{').utf8Size = 1 := by decide
  have hclose : bytes ['}'] = 1 := by decide
  rw [Value.pretty]
  simp only [List.cons_append, bytes_append, bytes_cons, bytes_newline, hopen, hclose, Nat.zero_add]
  omega

end Json
