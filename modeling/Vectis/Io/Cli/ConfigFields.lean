import Vectis.Io.Cli.ConfigEditor

/-!
# The options of section commands

The tables of options of `io/cli/config_editor.rs`, and the parsers that turn the arguments of `add` and `update` into
the fields of an item.

- `parseFields_known`: what is parsed are fields of the table, with `update` only those that it lets change;
- `parseSectionUpdate_immutable`: no update has the field that names the items of the section.
-/

namespace Vectis.Io.Cli

open Core.Config Core.Validation Json

/-! ## Tables -/

inductive DefaultValue
  | string (value : String)
  | emptyArray

def DefaultValue.toValue : DefaultValue → Value
  | .string value => .string value
  | .emptyArray => .array []

inductive FieldKind
  | configName
  | kid
  | remoteKid
  | hostPort
  | finalAppPath
  | apiKeyHash
  | permissionStatus
  | remoteRouteStatus
  | permissionKid
  | permissionAction
  | usize
  | bool
  | subjectMode
  | fpeProfileName
  | fpeVersion
  | fpeAlphabet
  | fpeAlphabetPreset
  | fpeLetterCase
  | fpePreserveCharacters
  | fpeTweakAad
  | tokenProfileName
  | tokenPrefix
  | macProfileName
  | macContext
  | maskingProfileName
  | maskChar
  | commitmentProfileName
  | commitmentContext
  | sharingProfileName
  | sharingContext
  deriving DecidableEq, Repr

inductive FieldCardinality
  | one
  | many
  deriving DecidableEq, Repr

structure FieldSpec where
  flag : String
  jsonField : String
  kind : FieldKind
  cardinality : FieldCardinality
  requiredOnAdd : Bool
  mutableOnUpdate : Bool
  defaultOnAdd : Option DefaultValue

structure DefaultField where
  jsonField : String
  value : DefaultValue

/-- The fields of an item under their names. -/
abbrev FieldMap := List (String × Value)

/-- `Map::contains_key`. -/
def hasField (parsed : FieldMap) (field : String) : Bool := ((Value.object parsed).get field).isSome

/-- A section of the file with the options of its items. -/
structure SectionSpec where
  cliName : String
  jsonSection : String
  keyField : String
  itemName : String
  commandContext : String
  fields : List FieldSpec
  addDefaults : List DefaultField
  parsedValidator : Option (FieldMap → Res Unit)
  /-- What an edit removes is never the name. -/
  named : keyField ∉ ["subject_mode", "alphabet", "alphabet_preset", "letter_case"]
  /-- No option changes the name. -/
  immutable : ∀ field ∈ fields, field.mutableOnUpdate = true → field.jsonField ≠ keyField

/-! ## Fields that depend on each other -/

def optionalUsizeField (parsed : FieldMap) (field : String) : Res (Option UInt64) :=
  match (Value.object parsed).get field with
  | none => .ok none
  | some value =>
    match readU64 value with
    | some n => .ok (some n)
    | none => .error (.invalidInput (field ++ " must be an unsigned integer"))

def validateTokenizationProfileParsedFields (parsed : FieldMap) : Res Unit := do
  let tokenLen ← optionalUsizeField parsed "token_len"
  let maxPlaintextLen ← optionalUsizeField parsed "max_plaintext_len"
  match tokenLen, maxPlaintextLen with
  | some tokenLen, some maxPlaintextLen => Core.Tokenization.validateTokenLengths tokenLen.toNat maxPlaintextLen.toNat
  | some tokenLen, none => Core.Tokenization.validateTokenLengths tokenLen.toNat Core.Tokenization.tokenPlaintextMaxLen
  | none, some maxPlaintextLen =>
    Core.Tokenization.validateTokenLengths Core.Tokenization.tokenLenMinBytes maxPlaintextLen.toNat
  | none, none => .ok ()

def validateFpeProfileParsedFields (parsed : FieldMap) : Res Unit := do
  if hasField parsed "alphabet" && hasField parsed "alphabet_preset" then
    .error (.invalidInput "--alphabet and --alphabet-preset are mutually exclusive")
  else if hasField parsed "letter_case" && (hasField parsed "alphabet" ||
      ((Value.object parsed).get "alphabet_preset").bind Value.asStr = some "num") then
    .error (.invalidInput "--letter-case is prohibited for custom/num alphabets")
  else do
    let minLen ← optionalUsizeField parsed "min_len"
    let maxLen ← optionalUsizeField parsed "max_len"
    match minLen, maxLen with
    | some minLen, some maxLen => Core.Fpe.validateFpeLengthBounds minLen.toNat maxLen.toNat
    | some minLen, none => Core.Fpe.validateFpeMinLen minLen.toNat
    | none, some maxLen => Core.Fpe.validateFpeMaxLen maxLen.toNat
    | none, none => .ok ()

def validateMaskingProfileParsedFields (parsed : FieldMap) : Res Unit := do
  let visibleFirst ← optionalUsizeField parsed "visible_first"
  let visibleLast ← optionalUsizeField parsed "visible_last"
  let minLen ← optionalUsizeField parsed "min_len"
  let maxLen ← optionalUsizeField parsed "max_len"
  match visibleFirst, visibleLast, minLen, maxLen with
  | some visibleFirst, some visibleLast, some minLen, some maxLen =>
    Core.Masking.validateMaskingLengths visibleFirst visibleLast minLen maxLen
  | none, none, some minLen, some maxLen => Core.Masking.validateMaskingLengths 0 0 minLen maxLen
  | none, none, some minLen, none => Core.Masking.validateMaskingLengths 0 0 minLen Core.Masking.maskingPlaintextMaxLen
  | none, none, none, some maxLen => Core.Masking.validateMaskingLengths 0 0 1 maxLen
  | _, _, _, _ => .ok ()

def checkOptional (check : Nat → Res Unit) : Option UInt64 → Res Unit
  | some n => check n.toNat
  | none => .ok ()

def validateCommitmentProfileParsedFields (parsed : FieldMap) : Res Unit := do
  let maxPlaintextLen ← optionalUsizeField parsed "max_plaintext_len"
  checkOptional Core.Commitments.validateCommitmentPlaintextLen maxPlaintextLen
  let openingLen ← optionalUsizeField parsed "opening_len"
  checkOptional Core.Commitments.validateCommitmentOpeningLen openingLen

def validateParsedThreshold : Option UInt64 → Option UInt64 → Res Unit
  | some threshold, some shares => Core.Sharing.validateThreshold threshold.toNat shares.toNat
  | some threshold, none => Core.Sharing.validateThreshold threshold.toNat Core.Sharing.INTERNAL_SHARE_MAX
  | none, some shares => Core.Sharing.validateThreshold Core.Sharing.SHARING_MIN_THRESHOLD shares.toNat
  | none, none => .ok ()

def validateSharingProfileParsedFields (parsed : FieldMap) : Res Unit := do
  let threshold ← optionalUsizeField parsed "threshold"
  let shares ← optionalUsizeField parsed "shares"
  validateParsedThreshold threshold shares
  let maxSecretLen ← optionalUsizeField parsed "max_secret_len"
  checkOptional Core.Sharing.validateMaxSecretLen maxSecretLen

/-! ## Sections -/

/-- `DEFAULT_REMOTE_ROUTE_STATUS`. -/
def defaultRemoteRouteStatus : String := "active"

/-- `DEFAULT_PERMISSION_STATUS`. -/
def defaultPermissionStatus : String := "active"

def routesSection : SectionSpec where
  cliName := "routes"
  jsonSection := "routes"
  keyField := "name"
  itemName := "route name"
  commandContext := "routes"
  fields := [⟨"--name", "name", .configName, .one, true, false, none⟩,
    ⟨"--kid", "kid", .kid, .one, true, true, none⟩,
    ⟨"--final-app-addr", "final_app_addr", .hostPort, .one, true, true, none⟩,
    ⟨"--final-app-path", "final_app_path", .finalAppPath, .one, true, true, none⟩]
  addDefaults := []
  parsedValidator := none
  named := by decide
  immutable := by decide

def remoteRoutesSection : SectionSpec where
  cliName := "remote-routes"
  jsonSection := "remote_routes"
  keyField := "name"
  itemName := "remote route name"
  commandContext := "remote-routes"
  fields := [⟨"--name", "name", .configName, .one, true, false, none⟩,
    ⟨"--remote-kid", "remote_kid", .remoteKid, .one, true, true, none⟩,
    ⟨"--remote-addr", "remote_addr", .hostPort, .one, true, true, none⟩,
    ⟨"--allowed-local-kid", "allowed_local_kids", .permissionKid, .many, true, true, none⟩,
    ⟨"--status", "status", .remoteRouteStatus, .one, false, true, some (.string defaultRemoteRouteStatus)⟩]
  addDefaults := []
  parsedValidator := none
  named := by decide
  immutable := by decide

def permissionsSection : SectionSpec where
  cliName := "permissions"
  jsonSection := "permissions"
  keyField := "client"
  itemName := "client"
  commandContext := "permissions"
  fields := [⟨"--client", "client", .configName, .one, true, false, none⟩,
    ⟨"--apikey-hash", "apikey_hash", .apiKeyHash, .one, true, true, none⟩,
    ⟨"--status", "status", .permissionStatus, .one, false, true, some (.string defaultPermissionStatus)⟩]
  addDefaults := [⟨"permissions", .emptyArray⟩]
  parsedValidator := none
  named := by decide
  immutable := by decide

def fpeProfilesSection : SectionSpec where
  cliName := "fpe"
  jsonSection := "fpe_profiles"
  keyField := "name"
  itemName := "fpe profile name"
  commandContext := "config fpe"
  fields := [⟨"--name", "name", .fpeProfileName, .one, true, false, none⟩,
    ⟨"--kid", "kid", .kid, .one, true, true, none⟩,
    ⟨"--fpe-version", "fpe_version", .fpeVersion, .one, false, true, some (.string Core.Fpe.fpeVersionFf12025)⟩,
    ⟨"--alphabet", "alphabet", .fpeAlphabet, .one, false, true, none⟩,
    ⟨"--alphabet-preset", "alphabet_preset", .fpeAlphabetPreset, .one, false, true, none⟩,
    ⟨"--letter-case", "letter_case", .fpeLetterCase, .one, false, true, none⟩,
    ⟨"--preserve-characters", "preserve_characters", .fpePreserveCharacters, .one, false, true, none⟩,
    ⟨"--authenticated", "authenticated", .bool, .one, false, true, none⟩,
    ⟨"--subject-mode", "subject_mode", .subjectMode, .one, false, true, none⟩,
    ⟨"--min-len", "min_len", .usize, .one, true, true, none⟩,
    ⟨"--max-len", "max_len", .usize, .one, true, true, none⟩,
    ⟨"--tweak-aad", "tweak_aad", .fpeTweakAad, .one, true, true, none⟩]
  addDefaults := []
  parsedValidator := some validateFpeProfileParsedFields
  named := by decide
  immutable := by decide

def tokenizationProfilesSection : SectionSpec where
  cliName := "token"
  jsonSection := "tokenization_profiles"
  keyField := "name"
  itemName := "tokenization profile name"
  commandContext := "config token"
  fields := [⟨"--subject-mode", "subject_mode", .subjectMode, .one, false, true, some (.string "none")⟩,
    ⟨"--name", "name", .tokenProfileName, .one, true, false, none⟩,
    ⟨"--kid", "kid", .kid, .one, true, true, none⟩,
    ⟨"--token-prefix", "token_prefix", .tokenPrefix, .one, true, true, none⟩,
    ⟨"--token-len", "token_len", .usize, .one, true, true, none⟩,
    ⟨"--max-plaintext-len", "max_plaintext_len", .usize, .one, true, true, none⟩,
    ⟨"--one-time", "one_time", .bool, .one, true, true, none⟩]
  addDefaults := []
  parsedValidator := some validateTokenizationProfileParsedFields
  named := by decide
  immutable := by decide

def macProfilesSection : SectionSpec where
  cliName := "mac"
  jsonSection := "mac_profiles"
  keyField := "name"
  itemName := "mac profile name"
  commandContext := "config mac"
  fields := [⟨"--name", "name", .macProfileName, .one, true, false, none⟩,
    ⟨"--kid", "kid", .kid, .one, true, true, none⟩,
    ⟨"--context", "context", .macContext, .one, true, true, none⟩]
  addDefaults := []
  parsedValidator := none
  named := by decide
  immutable := by decide

def deterministicProfilesSection : SectionSpec where
  cliName := "token-deterministic"
  jsonSection := "deterministic_tokenization_profiles"
  keyField := "name"
  itemName := "deterministic token profile name"
  commandContext := "config token-deterministic"
  fields := [⟨"--subject-mode", "subject_mode", .subjectMode, .one, false, true, none⟩,
    ⟨"--name", "name", .tokenProfileName, .one, true, false, none⟩,
    ⟨"--kid", "kid", .kid, .one, true, true, none⟩,
    ⟨"--context", "context", .macContext, .one, true, true, none⟩,
    ⟨"--min-plaintext-len", "min_plaintext_len", .usize, .one, true, true, none⟩,
    ⟨"--max-plaintext-len", "max_plaintext_len", .usize, .one, true, true, none⟩]
  addDefaults := []
  parsedValidator := none
  named := by decide
  immutable := by decide

def maskingProfilesSection : SectionSpec where
  cliName := "masking"
  jsonSection := "masking_profiles"
  keyField := "name"
  itemName := "masking profile name"
  commandContext := "config masking"
  fields := [⟨"--name", "name", .maskingProfileName, .one, true, false, none⟩,
    ⟨"--kid", "kid", .kid, .one, true, true, none⟩,
    ⟨"--visible-first", "visible_first", .usize, .one, true, true, none⟩,
    ⟨"--visible-last", "visible_last", .usize, .one, true, true, none⟩,
    ⟨"--mask-char", "mask_char", .maskChar, .one, true, true, none⟩,
    ⟨"--min-len", "min_len", .usize, .one, true, true, none⟩,
    ⟨"--max-len", "max_len", .usize, .one, true, true, none⟩]
  addDefaults := []
  parsedValidator := some validateMaskingProfileParsedFields
  named := by decide
  immutable := by decide

def commitmentProfilesSection : SectionSpec where
  cliName := "commitment"
  jsonSection := "commitment_profiles"
  keyField := "name"
  itemName := "commitment profile name"
  commandContext := "config commitment"
  fields := [⟨"--name", "name", .commitmentProfileName, .one, true, false, none⟩,
    ⟨"--kid", "kid", .kid, .one, true, true, none⟩,
    ⟨"--context", "context", .commitmentContext, .one, true, true, none⟩,
    ⟨"--max-plaintext-len", "max_plaintext_len", .usize, .one, true, true, none⟩,
    ⟨"--opening-len", "opening_len", .usize, .one, true, true, none⟩]
  addDefaults := []
  parsedValidator := some validateCommitmentProfileParsedFields
  named := by decide
  immutable := by decide

def sharingProfilesSection : SectionSpec where
  cliName := "sharing"
  jsonSection := "sharing_profiles"
  keyField := "name"
  itemName := "sharing profile name"
  commandContext := "config sharing"
  fields := [⟨"--name", "name", .sharingProfileName, .one, true, false, none⟩,
    ⟨"--kid", "kid", .kid, .one, true, true, none⟩,
    ⟨"--threshold", "threshold", .usize, .one, true, true, none⟩,
    ⟨"--shares", "shares", .usize, .one, true, true, none⟩,
    ⟨"--max-secret-len", "max_secret_len", .usize, .one, true, true, none⟩,
    ⟨"--context", "context", .sharingContext, .one, true, true, none⟩]
  addDefaults := []
  parsedValidator := some validateSharingProfileParsedFields
  named := by decide
  immutable := by decide

/-! ## Values of options -/

def validateKid (field value : String) : Res Unit := validateHashHexField field value internalKeysHash

def validatePermissionKid (kid : String) : Res Unit := if kid = "*" then .ok () else validateKid "kid" kid

def validatePermissionStatus (status : String) : Res Unit :=
  validateAllowedValue "status" status ["active", "disabled", "revoked"]

def validateRemoteRouteStatus (status : String) : Res Unit :=
  validateAllowedValue "status" status ["active", "disabled"]

def validateApikeyHash (value : String) : Res Unit := validateSymmetricKey "apikey_hash" value 32

/-- `config::validate_bool_field`. -/
def validateBoolField (field value : String) : Res Bool := do
  validateAllowedValue field value ["true", "false"]
  .ok (value = "true")

def parseUsizeFlag (flag value : String) : Res Nat :=
  match parseUint 64 value.toList with
  | some n => .ok n
  | none => .error (.invalidInput (flag ++ " must be a positive integer"))

/-- A text that is kept as it is when it passes the check. -/
def checkedText (check : Res Unit) (raw : String) : Res Value := do
  check
  .ok (.string raw)

/-- The parsers of addresses are those of the validators. -/
def parseFieldValue (addr : AddrLibrary) (field : FieldSpec) (raw : String) : Res Value :=
  match field.kind with
  | .subjectMode =>
    if raw = "none" || raw = "stored" then .ok (.string raw)
    else .error (.invalidInput "subject_mode must be none or stored")
  | .configName => checkedText (validateConfigName field.jsonField raw) raw
  | .kid => checkedText (validateKid field.jsonField raw) raw
  | .remoteKid => checkedText (validateKid "remote_kid" raw) raw
  | .hostPort => (validateHostPort addr field.jsonField raw).map .string
  | .finalAppPath => (Core.Routes.validateHttpPathField field.jsonField raw).map .string
  | .apiKeyHash => checkedText (validateApikeyHash raw) raw
  | .permissionStatus => checkedText (validatePermissionStatus raw) raw
  | .remoteRouteStatus => checkedText (validateRemoteRouteStatus raw) raw
  | .permissionKid => checkedText (validatePermissionKid raw) raw
  | .permissionAction => checkedText (validateAllowedValue "action" raw Core.Permissions.permissionActions) raw
  | .usize => (parseUsizeFlag field.flag raw).map fun n => .number (.posInt n)
  | .bool => (validateBoolField field.jsonField raw).map .bool
  | .fpeProfileName => checkedText (validateAadConfigName "fpe_profiles.name" raw) raw
  | .fpeVersion => checkedText (Core.Fpe.validateFpeVersion raw) raw
  | .fpeAlphabet => checkedText ((Core.Fpe.validateFpeAlphabet raw).map fun _ => ()) raw
  | .fpeAlphabetPreset => checkedText (validateAllowedValue "alphabet_preset" raw ["num", "alpha", "alphanum"]) raw
  | .fpeLetterCase => checkedText (validateAllowedValue "letter_case" raw ["uppercase", "lowercase", "mixed"]) raw
  | .fpePreserveCharacters => checkedText (Core.Fpe.validatePreserveCharacters raw) raw
  | .fpeTweakAad => checkedText (validateLabels "fpe_profiles.tweak_aad" raw Core.Fpe.fpeTweakAadMaxChars) raw
  | .tokenProfileName => checkedText (validateAadConfigName "tokenization_profiles.name" raw) raw
  | .tokenPrefix => checkedText (Core.Tokenization.validateTokenPrefix raw) raw
  | .macProfileName => checkedText (validateAadConfigName "mac_profiles.name" raw) raw
  | .macContext => checkedText (validateLabels "mac_profiles.context" raw Core.Mac.macContextMaxChars) raw
  | .maskingProfileName => checkedText (validateAadConfigName "masking_profiles.name" raw) raw
  | .maskChar => checkedText (Core.Masking.validateMaskChar raw) raw
  | .commitmentProfileName => checkedText (validateAadConfigName "commitment_profiles.name" raw) raw
  | .commitmentContext =>
    checkedText (validateLabels "commitment_profiles.context" raw Core.Commitments.commitmentContextMaxChars) raw
  | .sharingProfileName => checkedText (validateAadConfigName "sharing_profiles.name" raw) raw
  | .sharingContext => checkedText (validateLabels "sharing_profiles.context" raw Core.Sharing.sharingContextMaxChars)
      raw

/-! ## Arguments -/

section Arguments

variable (addr : AddrLibrary) (fields : List FieldSpec) (commandContext operation : String) (update : Bool)

/-- The field of an option; one that takes a single value is refused the second time. -/
def findOption (seen : List String) (flag : String) : Res FieldSpec :=
  match fields.find? fun field => field.flag = flag && (!update || field.mutableOnUpdate) with
  | none => .error (.invalidInput ("unknown " ++ commandContext ++ " " ++ operation ++ " option: " ++ flag))
  | some field =>
    if field.cardinality = .one && field.flag ∈ seen then
      .error (.invalidInput (field.flag ++ " can only be provided once"))
    else .ok field

/-- A field that may be given several times is the array of its values. -/
def storeField (field : FieldSpec) (value : Value) (parsed : FieldMap) : Res FieldMap :=
  match field.cardinality with
  | .one => .ok (setEntry field.jsonField value parsed)
  | .many =>
    match (Value.object parsed).get field.jsonField with
    | none => .ok (setEntry field.jsonField (.array [value]) parsed)
    | some (.array items) => .ok (setEntry field.jsonField (.array (items ++ [value])) parsed)
    | some _ => .error (.invalidInput (field.jsonField ++ " must be an array"))

/-- The loop over the arguments, with the options and the fields so far. -/
def parseFields (seen : List String) (parsed : FieldMap) : List String → Res FieldMap
  | [] => .ok parsed
  | [flag] => do
    let field ← findOption fields commandContext operation update seen flag
    .error (.invalidInput (field.flag ++ " requires a value"))
  | flag :: raw :: args => do
    let field ← findOption fields commandContext operation update seen flag
    let value ← parseFieldValue addr field raw
    let parsed ← storeField field value parsed
    parseFields (if field.cardinality = .one then field.flag :: seen else seen) parsed args

end Arguments

section Sections

variable (addr : AddrLibrary) (spec : SectionSpec)

def parseSectionFields (operation : String) (args : List String) (update : Bool) : Res FieldMap :=
  parseFields addr spec.fields spec.commandContext operation update [] [] args

/-- The loop over the kids. -/
def validateLocalKids : List String → List String → Res Unit
  | _, [] => .ok ()
  | seen, kid :: kids => do
    validatePermissionKid kid
    if kid ∈ seen then .error (.invalidInput ("duplicated --allowed-local-kid: " ++ kid))
    else validateLocalKids (kid :: seen) kids

def validateAllowedLocalKids (kids : List String) : Res Unit :=
  if kids.isEmpty then .error (.invalidInput "--allowed-local-kid is required")
  else if "*" ∈ kids && kids.length > 1 then
    .error (.invalidInput "--allowed-local-kid * cannot be mixed with explicit kids")
  else validateLocalKids [] kids

def kidTexts : List Value → Res (List String)
  | [] => .ok []
  | .string kid :: kids => (kidTexts kids).map (kid :: ·)
  | _ :: _ => .error (.invalidInput "allowed_local_kids must contain strings")

def validateParsedLocalKids (parsed : FieldMap) : Res Unit :=
  match (Value.object parsed).get "allowed_local_kids" with
  | none => .ok ()
  | some (.array kids) => do
    let kids ← kidTexts kids
    validateAllowedLocalKids kids
  | some _ => .error (.invalidInput "allowed_local_kids must be an array")

def validateParsedFieldCombinations (parsed : FieldMap) : Res Unit := do
  validateParsedLocalKids parsed
  match spec.parsedValidator with
  | some validator => validator parsed
  | none => .ok ()

/-- `validate_profile_definition` of `core/fpe.rs`. -/
def validateProfileDefinition (value : Value) : Res Unit :=
  match fpeProfileShape.read value with
  | none => .error (.invalidInput "invalid fpe profile definition")
  | some input => do
    let alphabet ← Core.Fpe.resolveFpeAlphabet input.alphabet input.alphabetPreset input.letterCase
    let _ ← Core.Fpe.validatePreservedCharacters alphabet (input.preserveCharacters.getD "")
    let _ ← Core.Fpe.validateFpeProfileFields input.name input.fpeVersion alphabet input.minLen.toNat input.maxLen.toNat
      input.tweakAad
    .ok ()

/-- The defaults of the fields that were not given; without a default a required one is missed. -/
def fillFields : List FieldSpec → FieldMap → Res FieldMap
  | [], parsed => .ok parsed
  | field :: fields, parsed =>
    if hasField parsed field.jsonField then fillFields fields parsed
    else
      match field.defaultOnAdd with
      | some value => fillFields fields (setEntry field.jsonField value.toValue parsed)
      | none =>
        if field.requiredOnAdd then .error (.invalidInput (field.flag ++ " is required")) else fillFields fields parsed

def fillDefaults (parsed : FieldMap) (defaults : List DefaultField) : FieldMap :=
  defaults.foldl (fun parsed default =>
    if hasField parsed default.jsonField then parsed else setEntry default.jsonField default.value.toValue parsed)
      parsed

def parseSectionAdd (args : List String) : Res Value := do
  let parsed ← parseSectionFields addr spec "add" args false
  let parsed ← fillFields spec.fields parsed
  let parsed := fillDefaults parsed spec.addDefaults
  validateParsedFieldCombinations spec parsed
  if spec.jsonSection = "fpe_profiles" then do
    validateProfileDefinition (.object parsed)
    .ok (.object parsed)
  else .ok (.object parsed)

def parseSectionUpdate (args : List String) : Res FieldMap := do
  let parsed ← parseSectionFields addr spec "update" args true
  if parsed.isEmpty then .error (.invalidInput (spec.commandContext ++ " update requires at least one field"))
  else do
    validateParsedFieldCombinations spec parsed
    .ok parsed

end Sections

/-! ## Positional arguments -/

/-- `reject_option_like_positional` of `io/cli/http.rs`. -/
def rejectOptionLikePositional (value command : String) : Res Unit :=
  if value.toList.head? = some '-' then .error (.invalidInput ("unknown " ++ command ++ " option: " ++ value))
    else .ok ()

def splitNameAndRest (args : List String) (field command : String) : Res (String × List String) :=
  match args with
  | [] => .error (.invalidInput ("missing " ++ field))
  | name :: rest => do
    rejectOptionLikePositional name command
    .ok (name, rest)

def expectOne (args : List String) (field command : String) : Res String :=
  match args with
  | [value] => do
    rejectOptionLikePositional value command
    .ok value
  | _ => .error (.invalidInput ("expected exactly one " ++ field))

/-! ## What is parsed -/

section

variable {addr : AddrLibrary} {fields : List FieldSpec} {commandContext operation : String} {update : Bool}

theorem findOption_ok {seen : List String} {flag : String} {field : FieldSpec}
    (h : findOption fields commandContext operation update seen flag = .ok field) :
    field ∈ fields ∧ (update = true → field.mutableOnUpdate = true) := by
  unfold findOption at h
  split at h
  · cases h
  · rename_i found hfind
    obtain ⟨-, h⟩ := Loop.guard_eq_ok.mp h
    cases h
    have hmem := List.mem_of_find?_eq_some hfind
    have hflag := List.find?_some hfind
    rw [Bool.and_eq_true] at hflag
    exact ⟨hmem, fun hupdate => by simpa [hupdate] using hflag.2⟩

theorem setEntry_keys {P : String → Prop} {key : String} {value : Value} {entries : FieldMap} (hkey : P key)
    (hentries : ∀ entry ∈ entries, P entry.1) : ∀ entry ∈ setEntry key value entries, P entry.1 := by
  intro entry hentry
  obtain rfl | hentry := mem_insertEntry hentry
  · exact hkey
  · exact hentries entry (List.mem_of_mem_filter hentry)

theorem storeField_keys {P : String → Prop} {field : FieldSpec} {value : Value} {parsed parsed' : FieldMap}
    (hfield : P field.jsonField) (hparsed : ∀ entry ∈ parsed, P entry.1)
    (h : storeField field value parsed = .ok parsed') :
    ∀ entry ∈ parsed', P entry.1 := by
  unfold storeField at h
  split at h
  · cases h
    exact setEntry_keys hfield hparsed
  · split at h
    · cases h
      exact setEntry_keys hfield hparsed
    · cases h
      exact setEntry_keys hfield hparsed
    · cases h

/-- Only fields of the table are parsed, and for an update only those that may change. -/
theorem parseFields_known {P : String → Prop}
    (hknown : ∀ field ∈ fields, (update = true → field.mutableOnUpdate = true) → P field.jsonField)
    {args seen : List String} {parsed result : FieldMap} (hparsed : ∀ entry ∈ parsed, P entry.1)
    (h : parseFields addr fields commandContext operation update seen parsed args = .ok result) :
    ∀ entry ∈ result, P entry.1 := by
  induction args using List.twoStepInduction generalizing seen parsed with
  | nil =>
    cases h
    exact hparsed
  | singleton flag =>
    obtain ⟨field, -, h⟩ := Loop.bind_eq_ok.mp h
    cases h
  | cons_cons flag raw args ih _ =>
    obtain ⟨field, hfield, h⟩ := Loop.bind_eq_ok.mp h
    obtain ⟨value, -, h⟩ := Loop.bind_eq_ok.mp h
    obtain ⟨parsed', hstore, h⟩ := Loop.bind_eq_ok.mp h
    obtain ⟨hmem, hmutable⟩ := findOption_ok hfield
    exact ih (storeField_keys (hknown field hmem hmutable) hparsed hstore) h

end

/-- No update has the field that names the items. -/
theorem parseSectionUpdate_immutable {addr : AddrLibrary} {spec : SectionSpec} {args : List String} {fields : FieldMap}
    (h : parseSectionUpdate addr spec args = .ok fields) : ∀ field ∈ fields, field.1 ≠ spec.keyField := by
  obtain ⟨parsed, hparsed, h⟩ := Loop.bind_eq_ok.mp h
  obtain ⟨-, h⟩ := Loop.guard_eq_ok.mp h
  obtain ⟨-, h⟩ := Loop.bind_unit_eq_ok.mp h
  cases h
  exact parseFields_known (P := (· ≠ spec.keyField)) (fun field hmem hmutable => spec.immutable field hmem
    (hmutable rfl)) (fun _ hentry => absurd hentry List.not_mem_nil) hparsed

end Vectis.Io.Cli
