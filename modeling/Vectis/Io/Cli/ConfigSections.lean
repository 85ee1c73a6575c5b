import Vectis.Core.HostPort
import Vectis.Io.Cli.ConfigFields
import Vectis.Lib.Keyed

/-!
# The sections of the configuration file

The commands `add`, `get`, `update` and `delete` of `io/cli/config_editor.rs` on the sections of the file, and the maps
from names to items that they keep. What `fetch_public_keys` gets from the remote node is a parameter of each command.

- `SectionCommand.run_refines`: a command does to the items of its section what it does to the map;
- `section_commands_refine`: the same for every run of commands on all sections.
-/

namespace Vectis.Io.Cli

open Core.Config Core.Validation Json

/-! ## Sections -/

inductive Section
  | routes
  | remoteRoutes
  | permissions
  | fpeProfiles
  | tokenizationProfiles
  | macProfiles
  | deterministicProfiles
  | maskingProfiles
  | commitmentProfiles
  | sharingProfiles
  deriving DecidableEq, Repr

def Section.spec : Section → SectionSpec
  | routes => routesSection
  | remoteRoutes => remoteRoutesSection
  | permissions => permissionsSection
  | fpeProfiles => fpeProfilesSection
  | tokenizationProfiles => tokenizationProfilesSection
  | macProfiles => macProfilesSection
  | deterministicProfiles => deterministicProfilesSection
  | maskingProfiles => maskingProfilesSection
  | commitmentProfiles => commitmentProfilesSection
  | sharingProfiles => sharingProfilesSection

theorem Section.jsonSection_injective {s t : Section} (h : s.spec.jsonSection = t.spec.jsonSection) : s = t := by
  revert h
  cases s <;> cases t <;> decide

/-! ## Items -/

/-- `value.get(field).and_then(Value::as_str)`. -/
def fieldText (field : String) (value : Value) : Option String := (value.get field).bind Value.asStr

def arrayRef (value : Value) (sectionName : String) : Res (List Value) :=
  match value.get sectionName with
  | some (.array items) => .ok items
  | _ => .error (.invalidInput ("config." ++ sectionName ++ " must be an array"))

/-- The array behind `array_mut` after it was changed. -/
def setArray (sectionName : String) (items : List Value) : Value → Value
  | .object entries => .object (setEntry sectionName (.array items) entries)
  | value => value

def objectEntries : Value → Res (List (String × Value))
  | .object entries => .ok entries
  | _ => .error (.invalidInput "config item must be an object")

def notFoundText (field expected : String) : String := field ++ " not found: " ++ expected

def findByField (items : List Value) (field expected : String) : Res Value :=
  match Keyed.matching (fieldText field) expected items with
  | [item] => .ok item
  | [] => .error (.invalidInput (notFoundText field expected))
  | _ => .error (.invalidInput ("multiple records found with " ++ field ++ ": " ++ expected))

def removeByField (items : List Value) (field expected : String) : Res (Value × List Value) := do
  let item ← findByField items field expected
  .ok (item, Keyed.erase (fieldText field) expected items)

def existsText (field expected : String) : String := "record already exists with " ++ field ++ ": " ++ expected

def ensureUniqueField (items : List Value) (field expected : String) : Res Unit :=
  if items.any fun item => fieldText field item = some expected then .error (.invalidInput (existsText field expected))
  else .ok ()

def requiredString (value : Value) (field : String) : Res String :=
  match fieldText field value with
  | some text => .ok text
  | none => .error (.invalidInput (field ++ " must be a string"))

/-- `Map::remove`. -/
def removeEntry (key : String) (entries : List (String × Value)) : List (String × Value) :=
  entries.filter fun entry => entry.1 ≠ key

/-- `Map::extend`. -/
def extendEntries (entries fields : List (String × Value)) : List (String × Value) :=
  fields.foldl (fun entries field => setEntry field.1 field.2 entries) entries

/-- The mode `none` of a deterministic profile is left out. -/
def dropModeNone (spec : SectionSpec) (item : Value) : Res Value :=
  if spec.jsonSection = "deterministic_tokenization_profiles" ∧ fieldText "subject_mode" item = some "none" then do
    let entries ← objectEntries item
    .ok (.object (removeEntry "subject_mode" entries))
  else .ok item

def removeWhen (condition : Bool) (key : String) (entries : List (String × Value)) : List (String × Value) :=
  if condition then removeEntry key entries else entries

/-- The entries of a profile without those that a new alphabet replaces. -/
def dropAlphabet (update entries : FieldMap) : FieldMap :=
  let custom := hasField update "alphabet"
  let preset := hasField update "alphabet_preset"
  let number := preset && fieldText "alphabet_preset" (.object update) = some "num"
  removeWhen number "letter_case" <| removeWhen preset "alphabet" <| removeWhen custom "letter_case" <|
    removeWhen custom "alphabet_preset" entries

def editEntries (spec : SectionSpec) (update entries : FieldMap) : Res Value :=
  if spec.jsonSection = "fpe_profiles" then do
    let candidate := Value.object (extendEntries (dropAlphabet update entries) update)
    validateProfileDefinition candidate
    .ok candidate
  else .ok (.object (extendEntries entries update))

/-- The item after an update. -/
def updateItem (spec : SectionSpec) (update : FieldMap) (item : Value) : Res Value := do
  let entries ← objectEntries item
  let item ← editEntries spec update entries
  dropModeNone spec item

/-- The keys that a remote node answers with, from its address and a kid. -/
abbrev FetchKeys := String → String → Res Value

section Remote

variable (addr : AddrLibrary) (fetch : FetchKeys)

def fetchPublicKeys (remoteAddr remoteKid : String) : Res Value := do
  let _ ← validateHostPort addr "remote_addr" remoteAddr
  validateKid "remote_kid" remoteKid
  fetch remoteAddr remoteKid

/-- The remote route after an update, with new keys when it has a new kid or a new address. -/
def updateRoute (update : FieldMap) (item : Value) : Res Value := do
  let entries ← objectEntries item
  let route := extendEntries entries update
  if hasField update "remote_kid" || hasField update "remote_addr" then do
    let remoteAddr ← requiredString (.object route) "remote_addr"
    let remoteKid ← requiredString (.object route) "remote_kid"
    let publicKeys ← fetchPublicKeys addr fetch remoteAddr remoteKid
    .ok (.object (setEntry "public_keys" publicKeys route))
  else .ok (.object route)

end Remote

/-! ## Commands -/

/-- A command with its arguments. -/
inductive SectionCommand
  | add (args : List String)
  | get (args : List String)
  | update (args : List String)
  | delete (args : List String)

def sectionResponse (status : String) (spec : SectionSpec) (item : Value) : Value :=
  .object [("item", item), ("section", .string spec.jsonSection), ("status", .string status)]

section Arguments

variable (addr : AddrLibrary) (spec : SectionSpec)

def commandText (command : String) : String := "config " ++ spec.cliName ++ " " ++ command

/-- The one argument of a command, which is the name of an item. -/
def nameArgument (command : String) (args : List String) : Res String := do
  let key ← expectOne args spec.itemName (commandText spec command)
  validateTextField spec.keyField key
  .ok key

/-- The name of an item, and the fields to change. -/
def updateArguments (args : List String) : Res (String × FieldMap) := do
  let (key, rest) ← splitNameAndRest args spec.itemName (commandText spec "update")
  validateTextField spec.keyField key
  let update ← parseSectionUpdate addr spec rest
  .ok (key, update)

end Arguments

section Commands

variable (addr : AddrLibrary) (fetch : FetchKeys)

def sectionAddValue (spec : SectionSpec) (value item : Value) : Res (Value × Value) := do
  let item ← dropModeNone spec item
  let key ← requiredString item spec.keyField
  let items ← arrayRef value spec.jsonSection
  ensureUniqueField items spec.keyField key
  .ok (setArray spec.jsonSection (items ++ [item]) value, sectionResponse "added" spec item)

def sectionGet (spec : SectionSpec) (value : Value) (args : List String) : Res Value := do
  let key ← nameArgument spec "get" args
  let items ← arrayRef value spec.jsonSection
  findByField items spec.keyField key

/-- An item is found, edited and put back. -/
def editSection (spec : SectionSpec) (value : Value) (key : String) (edit : Value → Res Value) :
    Res (Value × Value) := do
  let items ← arrayRef value spec.jsonSection
  let item ← findByField items spec.keyField key
  let item ← edit item
  .ok (setArray spec.jsonSection (Keyed.replace (fieldText spec.keyField) key item items) value,
    sectionResponse "updated" spec item)

def sectionUpdate (spec : SectionSpec) (value : Value) (args : List String) : Res (Value × Value) := do
  let (key, update) ← updateArguments addr spec args
  editSection spec value key (updateItem spec update)

def sectionDelete (spec : SectionSpec) (value : Value) (args : List String) : Res (Value × Value) := do
  let key ← nameArgument spec "delete" args
  let items ← arrayRef value spec.jsonSection
  let (removed, items) ← removeByField items spec.keyField key
  .ok (setArray spec.jsonSection items value, sectionResponse "deleted" spec removed)

def routeEntries : Value → Res FieldMap
  | .object route => .ok route
  | _ => .error (.invalidInput "remote route must be an object")

/-- The fields of a new remote route, with its name, address and kid. -/
def newRoute (args : List String) : Res (FieldMap × String × String × String) := do
  let item ← parseSectionAdd addr remoteRoutesSection args
  let route ← routeEntries item
  let name ← requiredString (.object route) "name"
  let remoteAddr ← requiredString (.object route) "remote_addr"
  let remoteKid ← requiredString (.object route) "remote_kid"
  .ok (route, name, remoteAddr, remoteKid)

def withKeys (route : FieldMap) (publicKeys : Value) : Value := .object (setEntry "public_keys" publicKeys route)

def remoteRouteAdd (value : Value) (args : List String) : Res (Value × Value) := do
  let (route, name, remoteAddr, remoteKid) ← newRoute addr args
  let items ← arrayRef value "remote_routes"
  ensureUniqueField items "name" name
  let publicKeys ← fetchPublicKeys addr fetch remoteAddr remoteKid
  let item := withKeys route publicKeys
  .ok (setArray "remote_routes" (items ++ [item]) value, sectionResponse "added" remoteRoutesSection item)

def remoteRouteUpdate (value : Value) (args : List String) : Res (Value × Value) := do
  let (name, update) ← updateArguments addr remoteRoutesSection args
  editSection remoteRoutesSection value name (updateRoute addr fetch update)

/-- A command on the value of the file: the new value and the response. -/
def SectionCommand.run (target : Section) (value : Value) : SectionCommand → Res (Value × Value)
  | .add args =>
    if target = .remoteRoutes then remoteRouteAdd addr fetch value args
    else do
      let item ← parseSectionAdd addr target.spec args
      sectionAddValue target.spec value item
  | .get args => do
    let item ← sectionGet target.spec value args
    .ok (value, item)
  | .update args =>
    if target = .remoteRoutes then remoteRouteUpdate addr fetch value args else sectionUpdate addr target.spec
      value args
  | .delete args => sectionDelete target.spec value args

/-! ## Maps -/

/-- The items of a section by their names. -/
abbrev ItemMap := String → Option Value

def ItemMap.find (map : ItemMap) (field key : String) : Res Value :=
  match map key with
  | some item => .ok item
  | none => .error (.invalidInput (notFoundText field key))

/-- A new item, which may need a last step. -/
def ItemMap.insertNew (map : ItemMap) (spec : SectionSpec) (key : String) (item : Res Value) : Res (ItemMap × Value) :=
  if (map key).isSome then .error (.invalidInput (existsText spec.keyField key))
  else do
    let item ← item
    .ok (Function.update map key (some item), sectionResponse "added" spec item)

def ItemMap.edit (map : ItemMap) (spec : SectionSpec) (key : String) (edit : Value → Res Value) :
    Res (ItemMap × Value) := do
  let item ← map.find spec.keyField key
  let item ← edit item
  .ok (Function.update map key (some item), sectionResponse "updated" spec item)

/-- A command on the map of its section. -/
def SectionCommand.apply (target : Section) (map : ItemMap) : SectionCommand → Res (ItemMap × Value)
  | .add args =>
    if target = .remoteRoutes then do
      let (route, name, remoteAddr, remoteKid) ← newRoute addr args
      map.insertNew remoteRoutesSection name ((fetchPublicKeys addr fetch remoteAddr remoteKid).map (withKeys route))
    else do
      let item ← parseSectionAdd addr target.spec args
      let item ← dropModeNone target.spec item
      let key ← requiredString item target.spec.keyField
      map.insertNew target.spec key (.ok item)
  | .get args => do
    let key ← nameArgument target.spec "get" args
    let item ← map.find target.spec.keyField key
    .ok (map, item)
  | .update args =>
    if target = .remoteRoutes then do
      let (name, fields) ← updateArguments addr remoteRoutesSection args
      map.edit remoteRoutesSection name (updateRoute addr fetch fields)
    else do
      let (key, fields) ← updateArguments addr target.spec args
      map.edit target.spec key (updateItem target.spec fields)
  | .delete args => do
    let key ← nameArgument target.spec "delete" args
    let item ← map.find target.spec.keyField key
    .ok (Function.update map key none, sectionResponse "deleted" target.spec item)

end Commands

/-- The section of the value is the map. -/
def Holds (spec : SectionSpec) (value : Value) (map : ItemMap) : Prop :=
  ∃ items, arrayRef value spec.jsonSection = .ok items ∧ Keyed.Represents (fieldText spec.keyField) items map

/-! ## Entries -/

section

variable {key other field : String} {value new item : Value} {entries fields : FieldMap}

theorem find_removeEntry (hne : other ≠ key) :
    (removeEntry key entries).find? (fun entry => entry.1 = other) = entries.find? fun entry => entry.1 = other := by
  rw [removeEntry, List.find?_filter]
  congr 1
  funext entry
  by_cases hentry : entry.1 = other
  · simp [hentry, hne]
  · simp [hentry]

theorem find_insertEntry (hne : other ≠ key) :
    (insertEntry key new entries).find? (fun entry => entry.1 = other) = entries.find? fun entry => entry.1 =
    other := by
  induction entries with
  | nil => simp [insertEntry, hne.symm]
  | cons entry entries ih =>
    obtain ⟨name, old⟩ := entry
    unfold insertEntry
    split
    · simp [List.find?_cons, hne.symm]
    · split
      · rfl
      · simp [List.find?_cons, ih]

theorem find_insertEntry_self (h : ∀ entry ∈ entries, entry.1 ≠ key) :
    (insertEntry key new entries).find? (fun entry => entry.1 = key) = some (key, new) := by
  induction entries with
  | nil => simp [insertEntry]
  | cons entry entries ih =>
    obtain ⟨name, old⟩ := entry
    have hname : name ≠ key := h _ List.mem_cons_self
    unfold insertEntry
    split
    · simp
    · rw [if_neg hname.symm, List.find?_cons]
      simp [hname, ih fun entry hentry => h entry (List.mem_cons_of_mem _ hentry)]

theorem get_setEntry_self : (Value.object (setEntry key new entries)).get key = some new := by
  have hfind : (setEntry key new entries).find? (fun entry => entry.1 = key) = some (key, new) :=
    find_insertEntry_self fun entry hentry => of_decide_eq_true (List.mem_filter.mp hentry).2
  rw [Value.get, hfind]
  rfl

theorem get_removeEntry (hne : other ≠ key) :
    (Value.object (removeEntry key entries)).get other = (Value.object entries).get other := by
  rw [Value.get, find_removeEntry hne]
  rfl

theorem get_setEntry (hne : other ≠ key) :
    (Value.object (setEntry key new entries)).get other = (Value.object entries).get other := by
  rw [Value.get, setEntry, find_insertEntry hne]
  exact get_removeEntry hne

theorem get_extendEntries : ∀ {fields entries : List (String × Value)}, (∀ field ∈ fields, field.1 ≠ other) →
    (Value.object (extendEntries entries fields)).get other = (Value.object entries).get other := by
  intro fields
  induction fields with
  | nil => exact fun _ => rfl
  | cons field fields ih =>
    intro entries h
    have hfield : other ≠ field.1 := (h field List.mem_cons_self).symm
    exact (ih fun field hfield => h field (List.mem_cons_of_mem _ hfield)).trans (get_setEntry hfield)

end

/-! ## One command -/

section

variable {spec : SectionSpec} {key : String} {value item item' : Value} {items : List Value} {map : ItemMap}

theorem arrayRef_setArray (h : arrayRef value spec.jsonSection = .ok items) (items' : List Value) :
    arrayRef (setArray spec.jsonSection items' value) spec.jsonSection = .ok items' := by
  cases value with
  | object entries => rw [setArray, arrayRef, get_setEntry_self]
  | _ => cases h

theorem get_setArray_ne {other : String} (hne : other ≠ spec.jsonSection) (items' : List Value) :
    (setArray spec.jsonSection items' value).get other = value.get other := by
  cases value with
  | object entries => exact get_setEntry hne
  | _ => rfl

theorem fieldText_removeEntry {field name : String} {entries : List (String × Value)} (hne : field ≠ name) :
    fieldText field (.object (removeEntry name entries)) = fieldText field (.object entries) := by
  rw [fieldText, get_removeEntry hne, fieldText]

theorem fieldText_setEntry {field name : String} {new : Value} {entries : FieldMap} (hne : field ≠ name) :
    fieldText field (.object (setEntry name new entries)) = fieldText field (.object entries) := by
  rw [fieldText, get_setEntry hne, fieldText]

theorem fieldText_extendEntries {field : String} {update entries : FieldMap} (h : ∀ entry ∈ update, entry.1 ≠ field) :
    fieldText field (.object (extendEntries entries update)) = fieldText field (.object entries) := by
  rw [fieldText, get_extendEntries h, fieldText]

theorem objectEntries_ok {entries : List (String × Value)} (h : objectEntries item = .ok entries) :
    item = .object entries := by
  cases item with
  | object found => exact congrArg Value.object (Except.ok.inj h)
  | _ => cases h

theorem dropModeNone_name (h : dropModeNone spec item = .ok item') :
    fieldText spec.keyField item' = fieldText spec.keyField item := by
  unfold dropModeNone at h
  split at h
  · obtain ⟨entries, hentries, h⟩ := Loop.bind_eq_ok.mp h
    cases h
    rw [objectEntries_ok hentries]
    exact fieldText_removeEntry (List.ne_of_not_mem_cons spec.named)
  · cases h
    rfl

theorem fieldText_removeWhen {field name : String} {entries : List (String × Value)} (condition : Bool)
    (hne : field ≠ name) :
    fieldText field (.object (removeWhen condition name entries)) = fieldText field (.object entries) := by
  cases condition with
  | false => rfl
  | true => exact fieldText_removeEntry hne

theorem dropAlphabet_name (fields entries : List (String × Value)) :
    fieldText spec.keyField (.object (dropAlphabet fields entries)) = fieldText spec.keyField (.object entries) := by
  have hnamed := spec.named
  simp only [List.mem_cons, List.not_mem_nil, or_false, not_or] at hnamed
  obtain ⟨-, halphabet, hpreset, hcase⟩ := hnamed
  unfold dropAlphabet
  rw [fieldText_removeWhen _ hcase, fieldText_removeWhen _ halphabet, fieldText_removeWhen _ hcase,
    fieldText_removeWhen _ hpreset]

/-- An update keeps the name. -/
theorem updateItem_name {update : FieldMap} (himmutable : ∀ field ∈ update, field.1 ≠ spec.keyField)
    (h : updateItem spec update item = .ok item') : fieldText spec.keyField item' = fieldText spec.keyField item := by
  obtain ⟨entries, hentries, h⟩ := Loop.bind_eq_ok.mp h
  obtain ⟨edited, hedited, h⟩ := Loop.bind_eq_ok.mp h
  rw [dropModeNone_name h, objectEntries_ok hentries]
  unfold editEntries at hedited
  split at hedited
  · obtain ⟨-, hedited⟩ := Loop.bind_unit_eq_ok.mp hedited
    cases hedited
    rw [fieldText_extendEntries himmutable, dropAlphabet_name]
  · cases hedited
    exact fieldText_extendEntries himmutable

theorem updateRoute_name {addr : AddrLibrary} {fetch : FetchKeys} {update : FieldMap}
    (himmutable : ∀ field ∈ update, field.1 ≠ remoteRoutesSection.keyField)
    (h : updateRoute addr fetch update item = .ok item') :
    fieldText remoteRoutesSection.keyField item' = fieldText remoteRoutesSection.keyField item := by
  obtain ⟨entries, hentries, h⟩ := Loop.bind_eq_ok.mp h
  have hextend : fieldText remoteRoutesSection.keyField (.object (extendEntries entries update)) =
      fieldText remoteRoutesSection.keyField (.object entries) := fieldText_extendEntries himmutable
  rw [objectEntries_ok hentries, ← hextend]
  dsimp only at h
  split at h
  · obtain ⟨remoteAddr, -, h⟩ := Loop.bind_eq_ok.mp h
    obtain ⟨remoteKid, -, h⟩ := Loop.bind_eq_ok.mp h
    obtain ⟨publicKeys, -, h⟩ := Loop.bind_eq_ok.mp h
    cases h
    exact fieldText_setEntry (by decide)
  · cases h
    rfl

theorem updateArguments_immutable {addr : AddrLibrary} {args : List String} {update : FieldMap}
    (h : updateArguments addr spec args = .ok (key, update)) : ∀ field ∈ update, field.1 ≠ spec.keyField := by
  obtain ⟨⟨name, rest⟩, -, h⟩ := Loop.bind_eq_ok.mp h
  obtain ⟨-, h⟩ := Loop.bind_unit_eq_ok.mp h
  obtain ⟨fields, hfields, h⟩ := Loop.bind_eq_ok.mp h
  cases h
  exact parseSectionUpdate_immutable hfields

theorem findByField_represents {field : String} (h : Keyed.Represents (fieldText field) items map) :
    findByField items field key = map.find field key := by
  unfold findByField ItemMap.find
  rw [h key]
  cases map key with
  | none => rfl
  | some item => rfl

theorem ensureUniqueField_represents {field : String} (h : Keyed.Represents (fieldText field) items map) :
    ensureUniqueField items field key =
      if (map key).isSome then .error (.invalidInput (existsText field key)) else .ok () := by
  unfold ensureUniqueField
  rw [h.any_eq key]

/-- A section is a map when it is an array without a name twice. -/
theorem exists_holds_iff : (∃ map, Holds spec value map) ↔ ∃ items, arrayRef value spec.jsonSection = .ok items ∧
    ∀ key, (Keyed.matching (fieldText spec.keyField) key items).length ≤ 1 := by
  constructor
  · rintro ⟨map, items, hitems, hmap⟩
    exact ⟨items, hitems, Keyed.exists_represents_iff.mp ⟨map, hmap⟩⟩
  · rintro ⟨items, hitems, honce⟩
    obtain ⟨map, hmap⟩ := Keyed.exists_represents_iff.mpr honce
    exact ⟨map, items, hitems, hmap⟩

/-- What a command on the value does when the command on the map ends as it does. -/
def Refines (spec : SectionSpec) (value : Value) (result : Res (Value × Value)) : Res (ItemMap × Value) → Prop
  | .error e => result = .error e
  | .ok (map, response) => ∃ value', result = .ok (value', response) ∧ Holds spec value' map ∧
      ∀ other, other ≠ spec.jsonSection → value'.get other = value.get other

/-- A new array is all that changes. -/
theorem refines_setArray {items' : List Value} {map' : ItemMap} {response : Value}
    (hitems : arrayRef value spec.jsonSection = .ok items)
    (hmap : Keyed.Represents (fieldText spec.keyField) items' map') :
    Refines spec value (.ok (setArray spec.jsonSection items' value, response)) (.ok (map', response)) :=
  ⟨_, rfl, ⟨items', arrayRef_setArray hitems items', hmap⟩, fun _ hother => get_setArray_ne hother items'⟩

/-- Both sides take one step that fails or gives the same value. -/
theorem refines_bind {α : Type} {x : Res α} {f : α → Res (Value × Value)} {g : α → Res (ItemMap × Value)}
    (h : ∀ a, x = .ok a → Refines spec value (f a) (g a)) : Refines spec value (x >>= f) (x >>= g) := by
  cases x with
  | error e => rfl
  | ok a => exact h a rfl

theorem requiredString_ok (h : requiredString item spec.keyField = .ok key) :
    fieldText spec.keyField item = some key := by
  unfold requiredString at h
  cases hfield : fieldText spec.keyField item with
  | none =>
    rw [hfield] at h
    cases h
  | some text =>
    rw [hfield] at h
    exact congrArg some (Except.ok.inj h)

theorem find_ok (h : map.find spec.keyField key = .ok item) : map key = some item := by
  unfold ItemMap.find at h
  cases hmap : map key with
  | none =>
    rw [hmap] at h
    cases h
  | some found =>
    rw [hmap] at h
    exact congrArg some (Except.ok.inj h)

/-- A new item is appended, and inserted. -/
theorem append_refines (hitems : arrayRef value spec.jsonSection = .ok items)
    (hmap : Keyed.Represents (fieldText spec.keyField) items map) (last : Res Value)
    (hlast : ∀ item, last = .ok item → fieldText spec.keyField item = some key) :
    Refines spec value (ensureUniqueField items spec.keyField key >>= fun _ => last >>= fun item =>
        .ok (setArray spec.jsonSection (items ++ [item]) value, sectionResponse "added" spec item))
      (map.insertNew spec key last) := by
  rw [ensureUniqueField_represents hmap, ItemMap.insertNew]
  cases hnone : map key with
  | some old => rfl
  | none =>
    exact refines_bind fun item hitem => refines_setArray hitems (hmap.append (hlast item hitem) hnone)

/-- An item is edited in the list as it is in the map. -/
theorem edit_refines (h : Holds spec value map) {edit : Value → Res Value}
    (hedit : ∀ item item', edit item = .ok item' → fieldText spec.keyField item' = fieldText spec.keyField item) :
    Refines spec value (editSection spec value key edit) (map.edit spec key edit) := by
  obtain ⟨items, hitems, hmap⟩ := h
  unfold editSection
  rw [hitems]
  show Refines spec value (findByField items spec.keyField key >>= fun _ => _) _
  rw [findByField_represents hmap]
  refine refines_bind fun old hold => refines_bind fun new hnew => ?_
  have hname : fieldText spec.keyField new = some key := by
    rw [hedit old new hnew]
    exact hmap.key_eq (find_ok hold)
  exact refines_setArray hitems (hmap.replace hname (find_ok hold))

theorem sectionAddValue_refines (h : Holds spec value map) (item : Value) :
    Refines spec value (sectionAddValue spec value item) (dropModeNone spec item >>= fun item =>
      requiredString item spec.keyField >>= fun key => map.insertNew spec key (.ok item)) := by
  obtain ⟨items, hitems, hmap⟩ := h
  refine refines_bind fun item _ => refines_bind fun key hkey => ?_
  rw [hitems]
  refine append_refines hitems hmap (.ok item) ?_
  rintro _ ⟨⟩
  exact requiredString_ok hkey

theorem newRoute_name {addr : AddrLibrary} {args : List String} {route : FieldMap} {name remoteAddr remoteKid : String}
    (h : newRoute addr args = .ok (route, name, remoteAddr, remoteKid)) :
    fieldText remoteRoutesSection.keyField (.object route) = some name := by
  obtain ⟨item, -, h⟩ := Loop.bind_eq_ok.mp h
  obtain ⟨entries, -, h⟩ := Loop.bind_eq_ok.mp h
  obtain ⟨key, hkey, h⟩ := Loop.bind_eq_ok.mp h
  obtain ⟨_, -, h⟩ := Loop.bind_eq_ok.mp h
  obtain ⟨_, -, h⟩ := Loop.bind_eq_ok.mp h
  cases h
  exact requiredString_ok hkey

theorem remoteRouteAdd_refines {addr : AddrLibrary} {fetch : FetchKeys} (h : Holds remoteRoutesSection value map)
    (args : List String) : Refines remoteRoutesSection value (remoteRouteAdd addr fetch value args)
      (newRoute addr args >>= fun (route, name, remoteAddr, remoteKid) =>
        map.insertNew remoteRoutesSection name ((fetchPublicKeys addr fetch remoteAddr remoteKid).map
          (withKeys route))) := by
  obtain ⟨items, hitems, hmap⟩ := h
  refine refines_bind fun ⟨route, name, remoteAddr, remoteKid⟩ hroute => ?_
  have hlast : ∀ item, (fetchPublicKeys addr fetch remoteAddr remoteKid).map (withKeys route) = .ok item →
      fieldText remoteRoutesSection.keyField item = some name := by
    intro item hitem
    obtain ⟨publicKeys, -, rfl⟩ := Loop.map_eq_ok.mp hitem
    exact (fieldText_setEntry (by decide)).trans (newRoute_name hroute)
  have happend := append_refines hitems hmap _ hlast
  show Refines _ _ (arrayRef value remoteRoutesSection.jsonSection >>= fun _ => _) _
  dsimp only
  rw [hitems]
  cases hfetch : fetchPublicKeys addr fetch remoteAddr remoteKid with
  | error e =>
    rw [hfetch] at happend
    exact happend
  | ok publicKeys =>
    rw [hfetch] at happend
    exact happend

/-- A command on the value does what the command on the map does. -/
theorem SectionCommand.run_refines {addr : AddrLibrary} {fetch : FetchKeys} {target : Section}
    (h : Holds target.spec value map) (command : SectionCommand) :
    Refines target.spec value (command.run addr fetch target value) (command.apply addr fetch target map) := by
  cases command with
  | add args =>
    by_cases hremote : target = .remoteRoutes
    · subst hremote
      exact remoteRouteAdd_refines h args
    · simp only [SectionCommand.run, SectionCommand.apply, if_neg hremote]
      exact refines_bind fun item _ => sectionAddValue_refines h item
  | get args =>
    obtain ⟨items, hitems, hmap⟩ := h
    show Refines target.spec value ((nameArgument target.spec "get" args >>= fun _ => _) >>= fun item =>
      .ok (value, item)) _
    rw [bind_assoc]
    refine refines_bind fun key _ => ?_
    rw [hitems]
    show Refines target.spec value (findByField items target.spec.keyField key >>= fun item => .ok (value, item)) _
    rw [findByField_represents hmap]
    exact refines_bind fun item _ => ⟨value, rfl, ⟨items, hitems, hmap⟩, fun _ _ => rfl⟩
  | update args =>
    by_cases hremote : target = .remoteRoutes
    · subst hremote
      refine refines_bind fun ⟨name, fields⟩ hargs => edit_refines h fun item item' => ?_
      exact updateRoute_name (updateArguments_immutable hargs)
    · simp only [SectionCommand.run, SectionCommand.apply, if_neg hremote]
      refine refines_bind fun ⟨key, fields⟩ hargs => edit_refines h fun item item' => ?_
      exact updateItem_name (updateArguments_immutable hargs)
  | delete args =>
    obtain ⟨items, hitems, hmap⟩ := h
    refine refines_bind fun key _ => ?_
    rw [hitems]
    show Refines target.spec value (removeByField items target.spec.keyField key >>= fun _ => _) _
    unfold removeByField
    rw [findByField_represents hmap, bind_assoc]
    exact refines_bind fun old hold => refines_setArray hitems hmap.erase

end

/-! ## Runs -/

/-- A command on one of the sections, and what the remote node answers to it. -/
structure ConfigCommand where
  target : Section
  command : SectionCommand
  fetch : FetchKeys

section

variable (addr : AddrLibrary)

def ConfigCommand.run (c : ConfigCommand) (value : Value) : Res (Value × Value) :=
  c.command.run addr c.fetch c.target value

def ConfigCommand.apply (c : ConfigCommand) (map : ItemMap) : Res (ItemMap × Value) :=
  c.command.apply addr c.fetch c.target map

/-- Commands one after another; one that fails changes nothing. -/
def runSections : List ConfigCommand → Value → List (Res Value) × Value
  | [], value => ([], value)
  | c :: commands, value =>
    match c.run addr value with
    | .error e =>
      let (results, value) := runSections commands value
      (.error e :: results, value)
    | .ok (value, response) =>
      let (results, value) := runSections commands value
      (.ok response :: results, value)

/-- The same commands on maps. -/
def runMaps : List ConfigCommand → (Section → ItemMap) → List (Res Value) × (Section → ItemMap)
  | [], maps => ([], maps)
  | c :: commands, maps =>
    match c.apply addr (maps c.target) with
    | .error e =>
      let (results, maps) := runMaps commands maps
      (.error e :: results, maps)
    | .ok (map, response) =>
      let (results, maps) := runMaps commands (Function.update maps c.target map)
      (.ok response :: results, maps)

end

/-- All sections of the value are their maps. -/
def HoldsAll (value : Value) (maps : Section → ItemMap) : Prop := ∀ s : Section, Holds s.spec value (maps s)

/-- What a command does to its own section leaves the others. -/
theorem HoldsAll.step {value value' : Value} {maps : Section → ItemMap} {map : ItemMap} {target : Section}
    (h : HoldsAll value maps) (htarget : Holds target.spec value' map)
    (hothers : ∀ other, other ≠ target.spec.jsonSection → value'.get other = value.get other) :
    HoldsAll value' (Function.update maps target map) := by
  intro s
  by_cases hs : s = target
  · subst hs
    rw [Function.update_self]
    exact htarget
  · rw [Function.update_of_ne hs]
    obtain ⟨items, hitems, hmap⟩ := h s
    have hother : arrayRef value' s.spec.jsonSection = arrayRef value s.spec.jsonSection := by
      rw [arrayRef, hothers _ fun heq => hs (Section.jsonSection_injective heq)]
      rfl
    exact ⟨items, hother.trans hitems, hmap⟩

/-- In every run of commands, the sections answer like maps from names to items, and stay such maps. -/
theorem section_commands_refine (addr : AddrLibrary) (commands : List ConfigCommand) (value : Value) (maps : Section →
    ItemMap) (h : HoldsAll value maps) : (runSections addr commands value).1 = (runMaps addr commands maps).1 ∧
      HoldsAll (runSections addr commands value).2 (runMaps addr commands maps).2 := by
  induction commands generalizing value maps with
  | nil => exact ⟨rfl, h⟩
  | cons c commands ih =>
    have hstep : Refines c.target.spec value (c.run addr value) (c.apply addr (maps c.target)) :=
      SectionCommand.run_refines (h c.target) c.command
    unfold runSections runMaps
    cases happly : c.apply addr (maps c.target) with
    | error e =>
      rw [happly] at hstep
      rw [show c.run addr value = .error e from hstep]
      obtain ⟨hresults, hholds⟩ := ih value maps h
      exact ⟨congrArg (List.cons _) hresults, hholds⟩
    | ok done =>
      obtain ⟨map, response⟩ := done
      rw [happly] at hstep
      obtain ⟨value', hrun, hmap, hothers⟩ := hstep
      rw [hrun]
      obtain ⟨hresults, hholds⟩ := ih value' _ (h.step hmap hothers)
      exact ⟨congrArg (List.cons _) hresults, hholds⟩

/-- The sections of `empty_config` and of `ensure_config_shape`. -/
def emptySections : Value :=
  .object [("commitment_profiles", .array []), ("deterministic_tokenization_profiles", .array []),
    ("fpe_profiles", .array []), ("mac_profiles", .array []), ("masking_profiles", .array []),
    ("permissions", .array []),
    ("remote_routes", .array []), ("routes", .array []), ("sharing_profiles", .array []),
    ("tokenization_profiles", .array []),
    ("version", .string "v1")]

theorem emptySections_holds : HoldsAll emptySections fun _ _ => none := by
  intro s
  refine ⟨[], ?_, fun _ => rfl⟩
  cases s <;> rfl

def exampleKid : String := "0123456789abcdef0123456789abcdef0123456789abcdef0123456789abcdef"

def macItem (context : String) : Value :=
  .object [("context", .string context), ("kid", .string exampleKid), ("name", .string "pan")]

/-- The remote node answers with its address. -/
def exampleFetch : FetchKeys := fun remoteAddr _ => .ok (.object [("addr", .string remoteAddr)])

def routeItem (remoteAddr : String) : Value :=
  .object [("allowed_local_kids", .array [.string "*"]), ("name", .string "edge"),
    ("public_keys", .object [("addr", .string remoteAddr)]), ("remote_addr", .string remoteAddr),
    ("remote_kid", .string exampleKid), ("status", .string "active")]

/-- A profile is added twice, renamed, updated and, after a remote route was added and moved, deleted and looked up. -/
def exampleCommands : List ConfigCommand :=
  [⟨.macProfiles, .add ["--name", "pan", "--kid", exampleKid, "--context", "field=c"], exampleFetch⟩,
    ⟨.macProfiles, .add ["--name", "pan", "--kid", exampleKid, "--context", "field=d"], exampleFetch⟩,
    ⟨.macProfiles, .update ["pan", "--name", "iban"], exampleFetch⟩,
    ⟨.macProfiles, .update ["pan", "--context", "field=d"], exampleFetch⟩,
    ⟨.remoteRoutes, .add ["--name", "edge", "--remote-kid", exampleKid, "--remote-addr", "localhost:8080",
      "--allowed-local-kid", "*"], exampleFetch⟩,
    ⟨.remoteRoutes, .update ["edge", "--remote-addr", "localhost:8081"], exampleFetch⟩,
    ⟨.macProfiles, .delete ["pan"], exampleFetch⟩,
    ⟨.macProfiles, .get ["pan"], exampleFetch⟩]

theorem section_commands_refine_example : (runSections (.std exampleDomain) exampleCommands emptySections).1 =
    [.ok (sectionResponse "added" macProfilesSection (macItem "field=c")),
      .error (.invalidInput "record already exists with name: pan"),
      .error (.invalidInput "unknown config mac update option: --name"),
      .ok (sectionResponse "updated" macProfilesSection (macItem "field=d")),
      .ok (sectionResponse "added" remoteRoutesSection (routeItem "localhost:8080")),
      .ok (sectionResponse "updated" remoteRoutesSection (routeItem "localhost:8081")),
      .ok (sectionResponse "deleted" macProfilesSection (macItem "field=d")),
      .error (.invalidInput "name not found: pan")] :=
  (section_commands_refine _ exampleCommands emptySections _ emptySections_holds).1.trans rfl

end Vectis.Io.Cli
