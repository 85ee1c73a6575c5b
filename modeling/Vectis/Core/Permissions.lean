import Mathlib.Data.List.Induction
import Mathlib.Data.List.Nodup
import Mathlib.Data.List.Forall2
import Vectis.Ops.Keys

/-!
# Permissions

The client list of the configuration and the decisions made with it (`core/permissions.rs`).

- `validatePermissionClients_ok_iff`: what the validator accepts, and the clients that it keeps;
- `authenticateHash_eq`, `requirePermission_eq`: the scan over the clients and the hash index pick the same client;
- `authorization_exact`: the decision in terms of the client list, for every order of clients and rules.
-/

namespace Vectis.Core.Permissions

open Validation Ops.Keys

/-! ## Data -/

def permissionActions : List String :=
  ["admin", "keys", "lifecycle", "self-test", "sign", "message", "symmetric", "fpe-encrypt", "fpe-decrypt",
    "token-encode", "token-decode", "token-delete", "token-deterministic-encode", "token-deterministic-decode",
    "subject-create",
    "subject-delete", "mac-create", "mac-verify", "index-create", "index-verify", "mask", "commit-create",
    "commit-verify",
    "share-split", "share-combine", "time-attest", "metrics"]

def globalPermissionActions : List String := ["metrics", "time-attest"]

structure KidPermissionInput where
  kid : String
  actions : List String
  deriving DecidableEq, Repr

structure PermissionClientInput where
  client : String
  apikeyHash : String
  status : String
  permissions : List KidPermissionInput
  deriving DecidableEq, Repr

structure KidPermission where
  kid : String
  actions : List String
  deriving DecidableEq, Repr

structure PermissionClient where
  client : String
  apikeyHash : String
  admin : Bool
  permissions : List KidPermission
  deriving DecidableEq, Repr

structure AuthenticatedClient where
  client : String
  apikeyHash : String
  isRoot : Bool
  admin : Bool
  deriving DecidableEq, Repr

/-- The clients, and their index by hash: the pairs in the order of their insertion. -/
structure PermissionsState where
  clients : List PermissionClient
  byHash : List (String × Nat)
  deriving DecidableEq, Repr

namespace AuthenticatedClient

def root (apikeyHash : String) : AuthenticatedClient := ⟨"root", apikeyHash, true, true⟩

def fromPermissionClient (client : PermissionClient) : AuthenticatedClient :=
  ⟨client.client, client.apikeyHash, false, client.admin⟩

end AuthenticatedClient

/-! ## Decisions -/

def isGlobalPermissionAction (action : String) : Bool := action ∈ globalPermissionActions

namespace PermissionsState

def fromClients (clients : List PermissionClient) : PermissionsState :=
  ⟨clients, clients.zipIdx.map fun entry => (entry.1.apikeyHash, entry.2)⟩

/-- `by_hash.get`: a later pair replaces an earlier one. -/
def indexOf (state : PermissionsState) (apikeyHash : String) : Option Nat := state.byHash.reverse.lookup apikeyHash

/-- The scan goes on after a match. -/
def scan (clients : List PermissionClient) (apikeyHash : String) : Option Nat :=
  clients.zipIdx.foldl (fun matched entry => if entry.1.apikeyHash = apikeyHash then some entry.2 else matched) none

def authenticateHash (state : PermissionsState) (apikeyHash : String) : Option AuthenticatedClient :=
  ((scan state.clients apikeyHash).bind (state.clients[·]?)).map AuthenticatedClient.fromPermissionClient

def lists (permissions : List KidPermission) (kid action : String) : Bool :=
  permissions.any fun permission => permission.kid = kid && permission.actions.any (· = action)

def requirePermission (state : PermissionsState) (client : AuthenticatedClient) (kid : Option String)
    (action : String) :
    Res Unit := do
  validateAllowedValue "permission action" action permissionActions
  if client.isRoot || client.admin then .ok ()
  else
    match (state.indexOf client.apikeyHash).bind (state.clients[·]?) with
    | none => .error (.forbidden "api key is not authorized")
    | some permissionClient =>
      if isGlobalPermissionAction action then
        if lists permissionClient.permissions "*" action then .ok ()
        else .error (.forbidden "api key does not have permission for this endpoint")
      else
        match kid with
        | none => .error (.forbidden "admin permission is required for this endpoint")
        | some kid => do
          validateKeyId kid
          if lists permissionClient.permissions kid action then .ok ()
          else .error (.forbidden "api key does not have permission for this kid")

/-- `authenticate_hash` followed by `require_permission`. -/
def authorize (state : PermissionsState) (apikeyHash : String) (kid : Option String) (action : String) :
    Option (AuthenticatedClient × Res Unit) :=
  (state.authenticateHash apikeyHash).map fun client => (client, state.requirePermission client kid action)

end PermissionsState

/-! ## Validation of the client list -/

def validateActionItems : List String → List String → Res Unit
  | _, [] => .ok ()
  | seen, action :: actions => do
    validateAllowedValue "permissions.actions" action permissionActions
    if action ∈ seen then .error (.invalidInput ("duplicated permission action: " ++ action))
    else validateActionItems (action :: seen) actions

def validateActionList (actions : List String) : Res (List String) := do
  if actions.isEmpty then .error (.invalidInput "permissions.actions must not be empty")
  else
    validateActionItems [] actions
    .ok actions

def validateActions (permissions : List KidPermissionInput) : Res Unit :=
  permissions.forM fun permission => (validateActionList permission.actions).map fun _ => ()

def validateGlobalActions (actions : List String) : Res Unit :=
  actions.forM fun action =>
    if isGlobalPermissionAction action then .ok ()
    else .error (.invalidInput ("permission action " ++ action ++ " cannot use wildcard kid"))

/-- The kid of a rule: the wildcard takes global actions only, other kids are loaded. -/
def validateRuleKid (isLoadedKid : String → Bool) (kid : String) (actions : List String) : Res Unit :=
  if kid = "*" then validateGlobalActions actions
  else
    match validateKeyId kid with
    | .error err => .error (.invalidInput ("permissions.kid is invalid: " ++ err.toText))
    | .ok () =>
      if isLoadedKid kid then .ok ()
      else .error (.invalidInput ("permissions file references kid not loaded in memory: " ++ kid))

def validateRules (isLoadedKid : String → Bool) (client : String) :
    List String → List KidPermissionInput → Res (List KidPermission)
  | _, [] => .ok []
  | seenKids, permission :: permissions =>
    if permission.kid ∈ seenKids then
      .error (.invalidInput ("permissions file has duplicated kid for client " ++ client ++ ": " ++ permission.kid))
    else do
      let actions ← validateActionList permission.actions
      validateRuleKid isLoadedKid permission.kid actions
      let rest ← validateRules isLoadedKid client (permission.kid :: seenKids) permissions
      .ok (⟨permission.kid, actions⟩ :: rest)

/-- The variables of the loop over the client list. -/
structure ClientLoop where
  seenClients : List String
  seenHashes : List String
  clients : List PermissionClient

def PermissionClientInput.hasAdmin (client : PermissionClientInput) : Bool :=
  client.permissions.any fun permission => permission.actions.any (· = "admin")

def validateClient (isLoadedKid : String → Bool) (loop : ClientLoop) (client : PermissionClientInput) :
    Res ClientLoop := do
  validateConfigName "permissions.client" client.client
  validateSymmetricKey "permissions.apikey_hash" client.apikeyHash 32
  validateAllowedValue "permissions.status" client.status ["active", "disabled", "revoked"]
  if client.client ∈ loop.seenClients then
    .error (.invalidInput ("permissions file has duplicated client: " ++ client.client))
  else if client.apikeyHash ∈ loop.seenHashes then
    .error (.invalidInput "permissions file has duplicated apikey_hash")
  else
    let seenClients := client.client :: loop.seenClients
    let seenHashes := client.apikeyHash :: loop.seenHashes
    if client.status ≠ "active" then .ok ⟨seenClients, seenHashes, loop.clients⟩
    else if client.hasAdmin then do
      validateActions client.permissions
      .ok ⟨seenClients, seenHashes, loop.clients ++ [⟨client.client, client.apikeyHash, true, []⟩]⟩
    else do
      let permissions ← validateRules isLoadedKid client.client [] client.permissions
      .ok ⟨seenClients, seenHashes, loop.clients ++ [⟨client.client, client.apikeyHash, false, permissions⟩]⟩

def validatePermissionClients (clientInputs : List PermissionClientInput) (isLoadedKid : String → Bool) :
    Res PermissionsState := do
  let loop ← clientInputs.foldlM (validateClient isLoadedKid) ⟨[], [], []⟩
  .ok (PermissionsState.fromClients loop.clients)

/-! ## What the validator accepts -/

structure ActionsOk (actions : List String) : Prop where
  ne_nil : actions ≠ []
  allowed : ∀ action ∈ actions, action ∈ permissionActions
  nodup : actions.Nodup

theorem validateTextField_action {field : String} : ∀ action ∈ permissionActions, validateTextField field action =
    .ok () := by
  simp only [permissionActions, List.forall_mem_cons]
  repeat' apply And.intro
  all_goals first | rfl | simp

theorem validateAllowedAction_ok_iff {field action : String} :
    validateAllowedValue field action permissionActions = .ok () ↔ action ∈ permissionActions := by
  unfold validateAllowedValue
  rw [Loop.bind_unit_eq_ok, Loop.check_eq_ok]
  exact ⟨fun h => h.2.1, fun h => ⟨validateTextField_action action h, h, rfl⟩⟩

theorem validateActionItems_ok_iff : ∀ {actions seen : List String}, validateActionItems seen actions = .ok () ↔
    (∀ action ∈ actions, action ∈ permissionActions) ∧ (∀ action ∈ actions, action ∉ seen) ∧ actions.Nodup
  | [], seen => by simp [validateActionItems]
  | action :: actions, seen => by
    unfold validateActionItems
    rw [Loop.bind_unit_eq_ok, Loop.guard_eq_ok, validateAllowedAction_ok_iff, validateActionItems_ok_iff]
    simp only [List.forall_mem_cons, List.nodup_cons]
    simp only [List.mem_cons, not_or]
    constructor
    · rintro ⟨hallowed, hfresh, hrest, hseen, hnodup⟩
      exact ⟨⟨hallowed, hrest⟩, ⟨hfresh, fun a ha => (hseen a ha).2⟩, fun hmem => (hseen action hmem).1 rfl, hnodup⟩
    · rintro ⟨⟨hallowed, hrest⟩, ⟨hfresh, hseen⟩, hmem, hnodup⟩
      exact ⟨hallowed, hfresh, hrest, fun a ha => ⟨fun heq => hmem (heq ▸ ha), hseen a ha⟩, hnodup⟩

theorem validateActionList_ok_iff {actions validated : List String} :
    validateActionList actions = .ok validated ↔ ActionsOk actions ∧ actions = validated := by
  unfold validateActionList
  rw [Loop.guard_eq_ok, Loop.bind_unit_eq_ok, validateActionItems_ok_iff]
  constructor
  · rintro ⟨hne, ⟨hallowed, -, hnodup⟩, h⟩
    exact ⟨⟨by simpa using hne, hallowed, hnodup⟩, Except.ok.inj h⟩
  · rintro ⟨⟨hne, hallowed, hnodup⟩, rfl⟩
    exact ⟨by simpa using hne, ⟨hallowed, by simp, hnodup⟩, rfl⟩

theorem validateActions_ok_iff {permissions : List KidPermissionInput} :
    validateActions permissions = .ok () ↔ ∀ permission ∈ permissions, ActionsOk permission.actions := by
  unfold validateActions
  rw [Loop.forM_eq_ok]
  simp only [Loop.map_eq_ok, validateActionList_ok_iff]
  exact ⟨fun h p hp => by obtain ⟨_, ⟨hok, -⟩, -⟩ := h p hp; exact hok, fun h p hp => ⟨_, ⟨h p hp, rfl⟩, trivial⟩⟩

/-- A rule that the validator accepts for a client without admin rules. -/
structure RuleOk (isLoadedKid : String → Bool) (permission : KidPermissionInput) : Prop where
  actions : ActionsOk permission.actions
  kid : validateRuleKid isLoadedKid permission.kid permission.actions = .ok ()

def KidPermissionInput.rule (permission : KidPermissionInput) : KidPermission := ⟨permission.kid, permission.actions⟩

theorem validateRules_ok_iff {isLoadedKid : String → Bool} {client : String} :
    ∀ {permissions : List KidPermissionInput} {seen : List String} {rules : List KidPermission},
    validateRules isLoadedKid client seen permissions = .ok rules ↔
      (∀ permission ∈ permissions, permission.kid ∉ seen) ∧ (permissions.map (·.kid)).Nodup ∧
        (∀ permission ∈ permissions, RuleOk isLoadedKid permission) ∧
        permissions.map KidPermissionInput.rule = rules
  | [], seen, rules => by simp [validateRules]
  | permission :: permissions, seen, rules => by
    unfold validateRules
    rw [Loop.guard_eq_ok]
    simp only [Loop.bind_eq_ok, validateActionList_ok_iff, validateRules_ok_iff, List.forall_mem_cons, List.map_cons,
      List.nodup_cons]
    simp only [List.mem_cons, not_or]
    constructor
    · rintro ⟨hfresh, _, ⟨hactions, rfl⟩, ⟨⟩, hkid, _, ⟨hseen, hnodup, hrules, rfl⟩, h⟩
      refine ⟨⟨hfresh, fun p hp => (hseen p hp).2⟩, ⟨?_, hnodup⟩, ⟨⟨hactions, hkid⟩, hrules⟩, Except.ok.inj h⟩
      intro hmem
      obtain ⟨p, hp, hkid⟩ := List.mem_map.mp hmem
      exact (hseen p hp).1 hkid
    · rintro ⟨⟨hfresh, hseen⟩, ⟨hmem, hnodup⟩, ⟨⟨hactions, hkid⟩, hrules⟩, rfl⟩
      refine ⟨hfresh, _, ⟨hactions, rfl⟩, (), hkid, _, ⟨?_, hnodup, hrules, rfl⟩, rfl⟩
      exact fun p hp => ⟨fun heq => hmem (List.mem_map.mpr ⟨p, hp, heq⟩), hseen p hp⟩

/-- A client that the validator accepts, its name and hash apart from those of the other clients. -/
structure ClientOk (isLoadedKid : String → Bool) (client : PermissionClientInput) : Prop where
  name : validateConfigName "permissions.client" client.client = .ok ()
  hash : validateSymmetricKey "permissions.apikey_hash" client.apikeyHash 32 = .ok ()
  status : validateAllowedValue "permissions.status" client.status ["active", "disabled", "revoked"] = .ok ()
  admin : client.status = "active" → client.hasAdmin = true →
    ∀ permission ∈ client.permissions, ActionsOk permission.actions
  rules : client.status = "active" → client.hasAdmin = false → (client.permissions.map (·.kid)).Nodup ∧
    ∀ permission ∈ client.permissions, RuleOk isLoadedKid permission

/-- The client that stays in memory: none for an inactive one, and no rules for an admin. -/
def PermissionClientInput.kept (client : PermissionClientInput) : Option PermissionClient :=
  if client.status ≠ "active" then none
  else if client.hasAdmin then some ⟨client.client, client.apikeyHash, true, []⟩
  else some ⟨client.client, client.apikeyHash, false, client.permissions.map KidPermissionInput.rule⟩

def ClientLoop.after (loop : ClientLoop) (client : PermissionClientInput) : ClientLoop :=
  ⟨client.client :: loop.seenClients, client.apikeyHash :: loop.seenHashes, loop.clients ++ client.kept.toList⟩

theorem validateClient_ok_iff {isLoadedKid : String → Bool} {loop after : ClientLoop} {client : PermissionClientInput} :
    validateClient isLoadedKid loop client = .ok after ↔ ClientOk isLoadedKid client ∧
      client.client ∉ loop.seenClients ∧ client.apikeyHash ∉ loop.seenHashes ∧ loop.after client = after := by
  unfold validateClient ClientLoop.after PermissionClientInput.kept
  simp only [Loop.bind_unit_eq_ok, Loop.guard_eq_ok]
  by_cases hactive : client.status = "active"
  · cases hadmin : client.hasAdmin with
    | true =>
      simp only [hactive, ne_eq, not_true_eq_false, if_false, if_true, Loop.bind_unit_eq_ok, validateActions_ok_iff,
        Except.ok.injEq, Option.toList_some]
      constructor
      · rintro ⟨hname, hhash, hstatus, hclient, hfresh, hactions, rfl⟩
        exact ⟨⟨hname, hhash, hactive ▸ hstatus, fun _ _ => hactions, by simp [hadmin]⟩, hclient, hfresh, rfl⟩
      · rintro ⟨hok, hclient, hfresh, rfl⟩
        exact ⟨hok.name, hok.hash, hactive ▸ hok.status, hclient, hfresh, hok.admin hactive hadmin, rfl⟩
    | false =>
      simp only [hactive, ne_eq, not_true_eq_false, if_false, Bool.false_eq_true, Loop.bind_eq_ok, validateRules_ok_iff,
        Except.ok.injEq, Option.toList_some]
      constructor
      · rintro ⟨hname, hhash, hstatus, hclient, hfresh, _, ⟨-, hnodup, hrules, rfl⟩, rfl⟩
        exact ⟨⟨hname, hhash, hactive ▸ hstatus, by simp [hadmin], fun _ _ => ⟨hnodup, hrules⟩⟩, hclient, hfresh, rfl⟩
      · rintro ⟨hok, hclient, hfresh, rfl⟩
        obtain ⟨hnodup, hrules⟩ := hok.rules hactive hadmin
        exact ⟨hok.name, hok.hash, hactive ▸ hok.status, hclient, hfresh, _, ⟨by simp, hnodup, hrules, rfl⟩, rfl⟩
  · simp only [hactive, ne_eq, not_false_eq_true, if_true, Except.ok.injEq, Option.toList_none, List.append_nil]
    constructor
    · rintro ⟨hname, hhash, hstatus, hclient, hfresh, rfl⟩
      exact ⟨⟨hname, hhash, hstatus, fun h => absurd h hactive, fun h => absurd h hactive⟩, hclient, hfresh, rfl⟩
    · rintro ⟨hok, hclient, hfresh, rfl⟩
      exact ⟨hok.name, hok.hash, hok.status, hclient, hfresh, rfl⟩

theorem validateClients_ok_iff {isLoadedKid : String → Bool} :
    ∀ {inputs : List PermissionClientInput} {loop : ClientLoop} {clients : List PermissionClient},
    (∃ after, inputs.foldlM (validateClient isLoadedKid) loop = .ok after ∧ after.clients = clients) ↔
      (∀ client ∈ inputs, ClientOk isLoadedKid client) ∧
        ((∀ client ∈ inputs, client.client ∉ loop.seenClients) ∧ (inputs.map (·.client)).Nodup) ∧
        ((∀ client ∈ inputs, client.apikeyHash ∉ loop.seenHashes) ∧ (inputs.map (·.apikeyHash)).Nodup) ∧
        loop.clients ++ inputs.filterMap PermissionClientInput.kept = clients
  | [], loop, clients => by simp [pure, Except.pure]
  | client :: inputs, loop, clients => by
    have hstep : (∃ after, (client :: inputs).foldlM (validateClient isLoadedKid) loop = .ok after ∧
      after.clients = clients) ↔
        (ClientOk isLoadedKid client ∧ client.client ∉ loop.seenClients ∧ client.apikeyHash ∉ loop.seenHashes) ∧
        ∃ after, inputs.foldlM (validateClient isLoadedKid) (loop.after client) = .ok after ∧
        after.clients = clients := by
      simp only [List.foldlM_cons, Loop.bind_eq_ok, validateClient_ok_iff]
      constructor
      · rintro ⟨after, ⟨_, ⟨hok, hclient, hhash, rfl⟩, hrest⟩, rfl⟩
        exact ⟨⟨hok, hclient, hhash⟩, after, hrest, rfl⟩
      · rintro ⟨⟨hok, hclient, hhash⟩, after, hrest, rfl⟩
        exact ⟨after, ⟨_, ⟨hok, hclient, hhash, rfl⟩, hrest⟩, rfl⟩
    have hkept : (client :: inputs).filterMap PermissionClientInput.kept =
        client.kept.toList ++ inputs.filterMap PermissionClientInput.kept := by
      rw [List.filterMap_cons]
      cases client.kept <;> rfl
    rw [hstep, validateClients_ok_iff, hkept]
    simp only [List.forall_mem_cons, List.map_cons, List.nodup_cons, ClientLoop.after, List.append_assoc]
    simp only [List.mem_cons, not_or, List.mem_map]
    constructor
    · rintro ⟨⟨hok, hclient, hhash⟩, hoks, ⟨hclients, hnodup⟩, ⟨hhashes, hnodup'⟩, heq⟩
      exact ⟨⟨hok, hoks⟩, ⟨⟨hclient, fun c hc => (hclients c hc).2⟩, fun ⟨c, hc, h⟩ => (hclients c hc).1 h, hnodup⟩,
        ⟨⟨hhash, fun c hc => (hhashes c hc).2⟩, fun ⟨c, hc, h⟩ => (hhashes c hc).1 h, hnodup'⟩, heq⟩
    · rintro ⟨⟨hok, hoks⟩, ⟨⟨hclient, hclients⟩, hnot, hnodup⟩, ⟨⟨hhash, hhashes⟩, hnot', hnodup'⟩, heq⟩
      exact ⟨⟨hok, hclient, hhash⟩, hoks, ⟨fun c hc => ⟨fun h => hnot ⟨c, hc, h⟩, hclients c hc⟩, hnodup⟩,
        ⟨fun c hc => ⟨fun h => hnot' ⟨c, hc, h⟩, hhashes c hc⟩, hnodup'⟩, heq⟩

/-- A client list that the validator accepts: good clients, with distinct names and distinct hash texts. -/
structure Accepted (isLoadedKid : String → Bool) (inputs : List PermissionClientInput) : Prop where
  clients : ∀ client ∈ inputs, ClientOk isLoadedKid client
  names : (inputs.map (·.client)).Nodup
  hashes : (inputs.map (·.apikeyHash)).Nodup

theorem validatePermissionClients_ok_iff {isLoadedKid : String → Bool} {inputs : List PermissionClientInput}
    {state : PermissionsState} : validatePermissionClients inputs isLoadedKid = .ok state ↔
      Accepted isLoadedKid inputs ∧ PermissionsState.fromClients (inputs.filterMap PermissionClientInput.kept) =
      state := by
  have hloop : validatePermissionClients inputs isLoadedKid = .ok state ↔ ∃ clients,
      (∃ after, inputs.foldlM (validateClient isLoadedKid) ⟨[], [], []⟩ = .ok after ∧ after.clients = clients) ∧
      PermissionsState.fromClients clients = state := by
    unfold validatePermissionClients
    rw [Loop.bind_eq_ok]
    constructor
    · rintro ⟨after, hfold, h⟩
      exact ⟨_, ⟨after, hfold, rfl⟩, Except.ok.inj h⟩
    · rintro ⟨_, ⟨after, hfold, rfl⟩, rfl⟩
      exact ⟨after, hfold, rfl⟩
  simp only [hloop, validateClients_ok_iff, List.nil_append]
  constructor
  · rintro ⟨_, ⟨hok, ⟨-, hnames⟩, ⟨-, hhashes⟩, rfl⟩, h⟩
    exact ⟨⟨hok, hnames, hhashes⟩, h⟩
  · rintro ⟨⟨hok, hnames, hhashes⟩, h⟩
    exact ⟨_, ⟨hok, ⟨by simp, hnames⟩, ⟨by simp, hhashes⟩, rfl⟩, h⟩

/-! ## The two lookups -/

namespace PermissionsState

/-- The last client of the list with a hash. -/
def lastWith (clients : List PermissionClient) (apikeyHash : String) : Option PermissionClient :=
  clients.reverse.find? (·.apikeyHash = apikeyHash)

theorem scan_concat (clients : List PermissionClient) (client : PermissionClient) (hash : String) :
    scan (clients ++ [client]) hash = if client.apikeyHash = hash then some clients.length else scan clients hash := by
  simp [scan, List.zipIdx_append]

theorem indexOf_concat (clients : List PermissionClient) (client : PermissionClient) (hash : String) :
    (fromClients (clients ++ [client])).indexOf hash =
      if client.apikeyHash = hash then some clients.length else (fromClients clients).indexOf hash := by
  by_cases h : client.apikeyHash = hash
  · simp [fromClients, indexOf, List.zipIdx_append, h]
  · have hne : (hash == client.apikeyHash) = false := by simpa using Ne.symm h
    simp [fromClients, indexOf, List.zipIdx_append, List.lookup_cons, h, hne]

/-- The scan and the index find the same position. -/
theorem indexOf_eq_scan (clients : List PermissionClient) (hash : String) :
    (fromClients clients).indexOf hash = scan clients hash := by
  induction clients using List.reverseRecOn with
  | nil => rfl
  | append_singleton clients client ih => rw [indexOf_concat, scan_concat, ih]

theorem scan_lt {clients : List PermissionClient} {hash : String} {i : Nat} (h : scan clients hash = some i) :
    i < clients.length := by
  induction clients using List.reverseRecOn with
  | nil => cases h
  | append_singleton clients client ih =>
    rw [scan_concat] at h
    rw [List.length_append, List.length_singleton]
    split at h
    · cases h
      omega
    · have := ih h
      omega

theorem scan_bind (clients : List PermissionClient) (hash : String) :
    (scan clients hash).bind (clients[·]?) = lastWith clients hash := by
  induction clients using List.reverseRecOn with
  | nil => rfl
  | append_singleton clients client ih =>
    rw [scan_concat]
    unfold lastWith at *
    rw [List.reverse_append, List.reverse_singleton, List.singleton_append, List.find?_cons]
    by_cases h : client.apikeyHash = hash
    · simp [h]
    · simp only [h, if_false, decide_false]
      rw [← ih]
      cases hscan : scan clients hash with
      | none => rfl
      | some i => exact List.getElem?_append_left (scan_lt hscan)

theorem authenticateHash_eq (clients : List PermissionClient) (hash : String) :
    (fromClients clients).authenticateHash hash =
    (lastWith clients hash).map AuthenticatedClient.fromPermissionClient := by
  unfold authenticateHash
  rw [← scan_bind]
  rfl

/-- With distinct hashes a lookup finds a client exactly when it is in the list. -/
theorem lastWith_eq_some_iff {clients : List PermissionClient} (hnodup : (clients.map (·.apikeyHash)).Nodup)
    {hash : String} {client : PermissionClient} : lastWith clients hash = some client ↔ client ∈ clients ∧
    client.apikeyHash = hash := by
  unfold lastWith
  constructor
  · intro h
    exact ⟨List.mem_reverse.mp (List.mem_of_find?_eq_some h), by simpa using List.find?_some h⟩
  · rintro ⟨hmem, hhash⟩
    have hsome : (clients.reverse.find? (·.apikeyHash = hash)).isSome := by
      rw [List.find?_isSome]
      exact ⟨client, List.mem_reverse.mpr hmem, by simpa using hhash⟩
    obtain ⟨other, hother⟩ := Option.isSome_iff_exists.mp hsome
    have hothermem := List.mem_reverse.mp (List.mem_of_find?_eq_some hother)
    have hotherhash : other.apikeyHash = hash := by simpa using List.find?_some hother
    rw [hother, List.inj_on_of_nodup_map hnodup hothermem hmem (hotherhash.trans hhash.symm)]

end PermissionsState

/-! ## Exact decisions -/

/-- The decision of `require_permission` for a client of the list. -/
def PermissionClient.decision (client : PermissionClient) (kid : Option String) (action : String) : Res Unit := do
  validateAllowedValue "permission action" action permissionActions
  if client.admin then .ok ()
  else if isGlobalPermissionAction action then
    if PermissionsState.lists client.permissions "*" action then .ok ()
    else .error (.forbidden "api key does not have permission for this endpoint")
  else
    match kid with
    | none => .error (.forbidden "admin permission is required for this endpoint")
    | some kid => do
      validateKeyId kid
      if PermissionsState.lists client.permissions kid action then .ok ()
      else .error (.forbidden "api key does not have permission for this kid")

namespace PermissionsState

theorem requirePermission_eq {clients : List PermissionClient} {client : PermissionClient} {hash : String}
    (h : lastWith clients hash = some client) (kid : Option String) (action : String) :
    (fromClients clients).requirePermission (.fromPermissionClient client) kid action = client.decision kid action := by
  have hhash : client.apikeyHash = hash := by simpa using List.find?_some h
  have hlookup : ((fromClients clients).indexOf client.apikeyHash).bind ((fromClients clients).clients[·]?) =
      some client := by
    rw [indexOf_eq_scan, hhash, ← h, ← scan_bind]
    rfl
  unfold requirePermission PermissionClient.decision
  simp only [AuthenticatedClient.fromPermissionClient, Bool.false_or, hlookup]

theorem authorize_eq (clients : List PermissionClient) (hash : String) (kid : Option String) (action : String) :
    (fromClients clients).authorize hash kid action =
      (lastWith clients hash).map fun client => (.fromPermissionClient client, client.decision kid action) := by
  unfold authorize
  rw [authenticateHash_eq]
  cases h : lastWith clients hash with
  | none => rfl
  | some client => simp only [Option.map_some, requirePermission_eq h]

theorem lists_iff {permissions : List KidPermission} {kid action : String} :
    lists permissions kid action = true ↔ ∃ permission ∈ permissions, permission.kid = kid ∧
    action ∈ permission.actions := by
  simp [lists]

end PermissionsState

theorem decision_ok_iff {client : PermissionClient} {kid : Option String} {action : String} :
    client.decision kid action = .ok () ↔ action ∈ permissionActions ∧ (client.admin = true ∨
      (action ∈ globalPermissionActions ∧ PermissionsState.lists client.permissions "*" action = true) ∨
      (action ∉ globalPermissionActions ∧
        ∃ k, kid = some k ∧ validateKeyId k = .ok () ∧ PermissionsState.lists client.permissions k action = true)) := by
  unfold PermissionClient.decision isGlobalPermissionAction
  rw [Loop.bind_unit_eq_ok, validateAllowedAction_ok_iff]
  refine and_congr_right fun _ => ?_
  cases hadmin : client.admin with
  | true => simp
  | false =>
    by_cases hglobal : action ∈ globalPermissionActions
    · simp [hglobal]
    · cases kid with
      | none => simp [hglobal]
      | some k => simp [hglobal, Loop.bind_unit_eq_ok]

/-- The rules of a client that grant an action: an admin rule, a wildcard rule for a global action, the rule of the
kid. -/
def PermissionClientInput.GrantedBy (client : PermissionClientInput) (kid : Option String) (action : String) : Prop :=
  (∃ permission ∈ client.permissions, "admin" ∈ permission.actions) ∨
  (action ∈ globalPermissionActions ∧ ∃ permission ∈ client.permissions, permission.kid = "*" ∧
    action ∈ permission.actions) ∨
  (action ∉ globalPermissionActions ∧ ∃ k, kid = some k ∧ validateKeyId k = .ok () ∧
    ∃ permission ∈ client.permissions, permission.kid = k ∧ action ∈ permission.actions)

/-- A client list grants an action to the key with a hash. -/
def Grants (inputs : List PermissionClientInput) (apikeyHash : String) (kid : Option String) (action : String) : Prop :=
  action ∈ permissionActions ∧ ∃ client ∈ inputs, client.apikeyHash = apikeyHash ∧ client.status = "active" ∧
    client.GrantedBy kid action

namespace PermissionClientInput

theorem hasAdmin_iff {client : PermissionClientInput} :
    client.hasAdmin = true ↔ ∃ permission ∈ client.permissions, "admin" ∈ permission.actions := by
  simp [hasAdmin]

theorem kept_eq_some {client : PermissionClientInput} {kept : PermissionClient} (h : client.kept = some kept) :
    client.status = "active" ∧ kept.client = client.client ∧ kept.apikeyHash = client.apikeyHash := by
  unfold PermissionClientInput.kept at h
  split at h
  · cases h
  · rename_i hactive
    split at h
    · cases h
      exact ⟨by simpa using hactive, rfl, rfl⟩
    · cases h
      exact ⟨by simpa using hactive, rfl, rfl⟩

theorem lists_rule {permissions : List KidPermissionInput} {kid action : String} :
    PermissionsState.lists (permissions.map KidPermissionInput.rule) kid action = true ↔
      ∃ permission ∈ permissions, permission.kid = kid ∧ action ∈ permission.actions := by
  simp [PermissionsState.lists_iff, KidPermissionInput.rule]

/-- What the client that stays in memory is granted. -/
theorem decision_kept {client : PermissionClientInput} {kept : PermissionClient} (h : client.kept = some kept)
    {kid : Option String} {action : String} :
    kept.decision kid action = .ok () ↔ action ∈ permissionActions ∧ client.GrantedBy kid action := by
  rw [decision_ok_iff]
  refine and_congr_right fun _ => ?_
  unfold PermissionClientInput.kept at h
  unfold GrantedBy
  split at h
  · cases h
  · split at h
    · rename_i hadmin
      cases h
      simp [hasAdmin_iff.mp hadmin]
    · rename_i hadmin
      cases h
      rw [← hasAdmin_iff]
      simp only [hadmin, lists_rule]

end PermissionClientInput

/-- The clients in memory have distinct hashes. -/
theorem kept_hashes_nodup : ∀ {inputs : List PermissionClientInput}, (inputs.map (·.apikeyHash)).Nodup →
    ((inputs.filterMap PermissionClientInput.kept).map (·.apikeyHash)).Nodup
  | [], _ => by simp
  | client :: inputs, h => by
    rw [List.map_cons, List.nodup_cons] at h
    have ih := kept_hashes_nodup h.2
    rw [List.filterMap_cons]
    cases hkept : client.kept with
    | none => exact ih
    | some kept =>
      rw [List.map_cons, List.nodup_cons]
      refine ⟨?_, ih⟩
      intro hmem
      obtain ⟨other, hother, hhash⟩ := List.mem_map.mp hmem
      obtain ⟨input, hinput, hkeptInput⟩ := List.mem_filterMap.mp hother
      refine h.1 (List.mem_map.mpr ⟨input, hinput, ?_⟩)
      rw [← (PermissionClientInput.kept_eq_some hkeptInput).2.2, hhash, (PermissionClientInput.kept_eq_some hkept).2.2]

/-- The client that a hash finds is the one that its entry of the list leaves in memory. -/
theorem Accepted.lastWith_iff {isLoadedKid : String → Bool} {inputs : List PermissionClientInput}
    (h : Accepted isLoadedKid inputs) {hash : String} {kept : PermissionClient} :
    PermissionsState.lastWith (inputs.filterMap PermissionClientInput.kept) hash = some kept ↔
      ∃ client ∈ inputs, client.apikeyHash = hash ∧ client.kept = some kept := by
  rw [PermissionsState.lastWith_eq_some_iff (kept_hashes_nodup h.hashes), List.mem_filterMap]
  constructor
  · rintro ⟨⟨client, hmem, hkept⟩, hhash⟩
    exact ⟨client, hmem, by rw [← (PermissionClientInput.kept_eq_some hkept).2.2, hhash], hkept⟩
  · rintro ⟨client, hmem, hhash, hkept⟩
    exact ⟨⟨client, hmem, hkept⟩, by rw [(PermissionClientInput.kept_eq_some hkept).2.2, hhash]⟩

theorem Accepted.authorize_iff {isLoadedKid : String → Bool} {inputs : List PermissionClientInput}
    (h : Accepted isLoadedKid inputs) (hash : String) (kid : Option String) (action : String) :
    (∃ client, (PermissionsState.fromClients (inputs.filterMap PermissionClientInput.kept)).authorize hash kid action =
      some (client, .ok ())) ↔ Grants inputs hash kid action := by
  rw [PermissionsState.authorize_eq]
  constructor
  · rintro ⟨client, hauth⟩
    obtain ⟨kept, hlast, heq⟩ := Option.map_eq_some_iff.mp hauth
    obtain ⟨input, hmem, hhash, hkept⟩ := h.lastWith_iff.mp hlast
    obtain ⟨haction, hgranted⟩ := (PermissionClientInput.decision_kept hkept).mp (Prod.mk.inj heq).2
    exact ⟨haction, input, hmem, hhash, (PermissionClientInput.kept_eq_some hkept).1, hgranted⟩
  · rintro ⟨haction, input, hmem, hhash, hactive, hgranted⟩
    obtain ⟨kept, hkept⟩ : ∃ kept, input.kept = some kept := by
      unfold PermissionClientInput.kept
      cases input.hasAdmin <;> simp [hactive]
    rw [h.lastWith_iff.mpr ⟨input, hmem, hhash, hkept⟩]
    exact ⟨_, congrArg some (Prod.ext rfl ((PermissionClientInput.decision_kept hkept).mpr ⟨haction, hgranted⟩))⟩

/-! ## Orders of clients and rules -/

/-- The same client with its rules in another order. -/
structure SameClient (a b : PermissionClientInput) : Prop where
  client : a.client = b.client
  apikeyHash : a.apikeyHash = b.apikeyHash
  status : a.status = b.status
  permissions : a.permissions.Perm b.permissions

/-- Another order of the clients, and of the rules of each. -/
def Reordering (inputs inputs' : List PermissionClientInput) : Prop :=
  ∃ clients, inputs.Perm clients ∧ List.Forall₂ SameClient clients inputs'

namespace SameClient

variable {a b : PermissionClientInput}

theorem refl (a : PermissionClientInput) : SameClient a a := ⟨rfl, rfl, rfl, .refl _⟩

theorem symm (h : SameClient a b) : SameClient b a :=
  ⟨h.client.symm, h.apikeyHash.symm, h.status.symm, h.permissions.symm⟩

theorem hasAdmin (h : SameClient a b) : a.hasAdmin = b.hasAdmin := h.permissions.any_eq

theorem clientOk {isLoadedKid : String → Bool} (h : SameClient a b) (ha : ClientOk isLoadedKid a) :
    ClientOk isLoadedKid b := by
  refine ⟨h.client ▸ ha.name, h.apikeyHash ▸ ha.hash, h.status ▸ ha.status, ?_, ?_⟩
  · intro hactive hadmin permission hmem
    exact ha.admin (h.status ▸ hactive) (h.hasAdmin ▸ hadmin) permission (h.permissions.mem_iff.mpr hmem)
  · intro hactive hadmin
    obtain ⟨hnodup, hrules⟩ := ha.rules (h.status ▸ hactive) (h.hasAdmin ▸ hadmin)
    exact ⟨(h.permissions.map _).nodup_iff.mp hnodup, fun p hp => hrules p (h.permissions.mem_iff.mpr hp)⟩

theorem lists (h : SameClient a b) (kid action : String) :
    PermissionsState.lists (a.permissions.map KidPermissionInput.rule) kid action =
      PermissionsState.lists (b.permissions.map KidPermissionInput.rule) kid action :=
  (h.permissions.map _).any_eq

/-- What stays in memory of the client answers every request alike. -/
theorem kept (h : SameClient a b) {kept : PermissionClient} (hkept : a.kept = some kept) :
    ∃ kept', b.kept = some kept' ∧ AuthenticatedClient.fromPermissionClient kept' = .fromPermissionClient kept ∧
      ∀ kid action, kept'.decision kid action = kept.decision kid action := by
  unfold PermissionClientInput.kept at hkept ⊢
  rw [← h.status, ← h.hasAdmin, ← h.client, ← h.apikeyHash]
  split at hkept
  · cases hkept
  · rename_i hactive
    rw [if_neg hactive]
    split at hkept
    · rename_i hadmin
      cases hkept
      exact ⟨_, if_pos hadmin, rfl, fun _ _ => rfl⟩
    · rename_i hadmin
      cases hkept
      refine ⟨_, if_neg hadmin, rfl, fun kid action => ?_⟩
      unfold PermissionClient.decision
      simp only [h.lists]

end SameClient

/-- Two accepted lists with the same clients of a hash give the same result for it. -/
theorem Accepted.authorize_congr {isLoadedKid : String → Bool} {inputs inputs' : List PermissionClientInput}
    {hash : String} (h : Accepted isLoadedKid inputs) (h' : Accepted isLoadedKid inputs')
    (hsame : ∀ a ∈ inputs, a.apikeyHash = hash → ∃ b ∈ inputs', SameClient a b)
    (hsame' : ∀ b ∈ inputs', b.apikeyHash = hash → ∃ a ∈ inputs, SameClient b a) (kid : Option String)
    (action : String) :
    (PermissionsState.fromClients (inputs'.filterMap PermissionClientInput.kept)).authorize hash kid action =
      (PermissionsState.fromClients (inputs.filterMap PermissionClientInput.kept)).authorize hash kid action := by
  rw [PermissionsState.authorize_eq, PermissionsState.authorize_eq]
  cases hlast : PermissionsState.lastWith (inputs.filterMap PermissionClientInput.kept) hash with
  | some kept =>
    obtain ⟨a, ha, hhash, hkept⟩ := h.lastWith_iff.mp hlast
    obtain ⟨b, hb, hab⟩ := hsame a ha hhash
    obtain ⟨kept', hkept', hclient, hdecision⟩ := hab.kept hkept
    rw [h'.lastWith_iff.mpr ⟨b, hb, hab.apikeyHash ▸ hhash, hkept'⟩]
    simp only [Option.map_some, hclient, hdecision]
  | none =>
    cases hlast' : PermissionsState.lastWith (inputs'.filterMap PermissionClientInput.kept) hash with
    | none => rfl
    | some kept' =>
      obtain ⟨b, hb, hhash, hkept'⟩ := h'.lastWith_iff.mp hlast'
      obtain ⟨a, ha, hba⟩ := hsame' b hb hhash
      obtain ⟨kept, hkept, -⟩ := hba.kept hkept'
      rw [h.lastWith_iff.mpr ⟨a, ha, hba.apikeyHash ▸ hhash, hkept⟩] at hlast
      cases hlast

theorem forall₂_map_eq {α β : Type} {r : α → α → Prop} {f : α → β} (hf : ∀ a b, r a b → f a = f b) {l l' : List α}
    (h : List.Forall₂ r l l') : l.map f = l'.map f := by
  induction h with
  | nil => rfl
  | cons hab _ ih => rw [List.map_cons, List.map_cons, hf _ _ hab, ih]

theorem forall₂_mem {α : Type} {r : α → α → Prop} {l l' : List α} (h : List.Forall₂ r l l') {a : α} (ha : a ∈ l) :
    ∃ b ∈ l', r a b := by
  induction h with
  | nil => cases ha
  | cons hab _ ih =>
    rcases List.mem_cons.mp ha with rfl | ha
    · exact ⟨_, List.mem_cons_self, hab⟩
    · obtain ⟨b, hb, hrel⟩ := ih ha
      exact ⟨b, List.mem_cons_of_mem _ hb, hrel⟩

theorem Reordering.mem {inputs inputs' : List PermissionClientInput} (h : Reordering inputs inputs')
    {a : PermissionClientInput} (ha : a ∈ inputs) : ∃ b ∈ inputs', SameClient a b := by
  obtain ⟨clients, hperm, hsame⟩ := h
  exact forall₂_mem hsame (hperm.mem_iff.mp ha)

theorem Reordering.mem_of {inputs inputs' : List PermissionClientInput} (h : Reordering inputs inputs')
    {b : PermissionClientInput} (hb : b ∈ inputs') : ∃ a ∈ inputs, SameClient b a := by
  obtain ⟨clients, hperm, hsame⟩ := h
  obtain ⟨a, ha, hab⟩ := forall₂_mem hsame.flip hb
  exact ⟨a, hperm.mem_iff.mpr ha, hab.symm⟩

/-- The validator accepts every order of a list that it accepts. -/
theorem Accepted.reordering {isLoadedKid : String → Bool} {inputs inputs' : List PermissionClientInput}
    (h : Accepted isLoadedKid inputs) (hre : Reordering inputs inputs') : Accepted isLoadedKid inputs' := by
  have hmap : ∀ f : PermissionClientInput → String, (∀ a b, SameClient a b → f a = f b) → (inputs.map f).Nodup →
      (inputs'.map f).Nodup := by
    intro f hf hnodup
    obtain ⟨clients, hperm, hsame⟩ := hre
    rw [← forall₂_map_eq hf hsame]
    exact (hperm.map f).nodup_iff.mp hnodup
  refine ⟨?_, hmap _ (fun _ _ hab => hab.client) h.names, hmap _ (fun _ _ hab => hab.apikeyHash) h.hashes⟩
  intro b hb
  obtain ⟨a, ha, hba⟩ := hre.mem_of hb
  exact hba.symm.clientOk (h.clients a ha)

theorem Accepted.sublist {isLoadedKid : String → Bool} {inputs inputs' : List PermissionClientInput}
    (h : Accepted isLoadedKid inputs) (hsub : inputs'.Sublist inputs) : Accepted isLoadedKid inputs' :=
  ⟨fun client hmem => h.clients client (hsub.subset hmem), h.names.sublist (hsub.map _), h.hashes.sublist (hsub.map _)⟩

/-- A request is allowed exactly when the client list grants it. Other orders of the clients and of their rules, and
clients with other hashes, do not change the result. -/
theorem authorization_exact {isLoadedKid : String → Bool} {inputs : List PermissionClientInput}
    {state : PermissionsState} (h : validatePermissionClients inputs isLoadedKid = .ok state) :
    (∀ hash kid action, (∃ client, state.authorize hash kid action = some (client, .ok ())) ↔
      Grants inputs hash kid action) ∧
    (∀ inputs', Reordering inputs inputs' → ∃ state', validatePermissionClients inputs' isLoadedKid = .ok state' ∧
      ∀ hash kid action, state'.authorize hash kid action = state.authorize hash kid action) ∧
    (∀ inputs', inputs'.Sublist inputs → ∃ state', validatePermissionClients inputs' isLoadedKid = .ok state') ∧
    (∀ inputs' state' hash, validatePermissionClients inputs' isLoadedKid = .ok state' →
      inputs'.filter (·.apikeyHash = hash) = inputs.filter (·.apikeyHash = hash) →
      ∀ kid action, state'.authorize hash kid action = state.authorize hash kid action) := by
  obtain ⟨hacc, rfl⟩ := validatePermissionClients_ok_iff.mp h
  refine ⟨hacc.authorize_iff, ?_, ?_, ?_⟩
  · intro inputs' hre
    have hacc' := hacc.reordering hre
    refine ⟨_, validatePermissionClients_ok_iff.mpr ⟨hacc', rfl⟩, fun hash kid action => ?_⟩
    exact hacc.authorize_congr hacc' (fun a ha _ => hre.mem ha) (fun b hb _ => hre.mem_of hb) kid action
  · intro inputs' hsub
    exact ⟨_, validatePermissionClients_ok_iff.mpr ⟨hacc.sublist hsub, rfl⟩⟩
  · intro inputs' state' hash h' hfilter kid action
    obtain ⟨hacc', rfl⟩ := validatePermissionClients_ok_iff.mp h'
    have hmem : ∀ client, client.apikeyHash = hash → (client ∈ inputs' ↔ client ∈ inputs) := by
      intro client hhash
      have := congrArg (client ∈ ·) hfilter
      simpa [List.mem_filter, hhash] using this
    exact hacc.authorize_congr hacc' (fun a ha hhash => ⟨a, (hmem a hhash).mpr ha, .refl a⟩)
      (fun b hb hhash => ⟨b, (hmem b hhash).mp hb, .refl b⟩) kid action

def hexText (c : Char) : String := String.ofList (List.replicate 64 c)

theorem validateSymmetricKey_hexText {c : Char} (h : isAsciiHexdigit c = true ∧ c.utf8Size = 1) (field : String) :
    validateSymmetricKey field (hexText c) 32 = .ok () := by
  obtain ⟨hsize, hall⟩ := validateInternalHash_ok_iff.mp (validateInternalHash_replicate h field)
  refine validateSymmetricKey_ok_iff.mpr ⟨validateHexField_ok_iff.mpr ⟨by simp [hexText], ?_, hall⟩, hsize⟩
  rw [hexText, hsize]

/-- A client with a rule of its own and a wildcard rule, and a revoked client. -/
def exampleInputs : List PermissionClientInput :=
  [⟨"app", hexText '1', "active", [⟨hexText 'a', ["message"]⟩, ⟨"*", ["metrics"]⟩]⟩,
    ⟨"old", hexText '2', "revoked", []⟩]

theorem exampleInputs_accepted : Accepted (fun _ => true) exampleInputs := by
  refine ⟨?_, by decide, by decide⟩
  simp only [exampleInputs, List.forall_mem_cons]
  refine ⟨⟨rfl, validateSymmetricKey_hexText (by decide) _, rfl, ?_, ?_⟩,
    ⟨rfl, validateSymmetricKey_hexText (by decide) _, rfl, ?_, ?_⟩, by simp⟩
  · intro _ h
    exact absurd h (by decide)
  · intro _ _
    refine ⟨by decide, ?_⟩
    simp only [List.forall_mem_cons]
    have hkid : validateRuleKid (fun _ => true) (hexText 'a') ["message"] = .ok () := by
      have hid : validateKeyId (hexText 'a') = .ok () := validateInternalHash_replicate (by decide) "id"
      simp only [validateRuleKid, hid]
      decide
    exact ⟨⟨⟨by simp, by decide, by decide⟩, hkid⟩,
      ⟨⟨by simp, by decide, by decide⟩, rfl⟩, by simp⟩
  · intro h
    exact absurd h (by decide)
  · intro h
    exact absurd h (by decide)

theorem authorization_exact_example : ∃ state, validatePermissionClients exampleInputs (fun _ => true) = .ok state ∧
    ∃ client, state.authorize (hexText '1') (some (hexText 'a')) "message" = some (client, .ok ()) := by
  have h := validatePermissionClients_ok_iff.mpr ⟨exampleInputs_accepted, rfl⟩
  refine ⟨_, h, ((authorization_exact h).1 _ _ _).mpr ⟨by decide, _, List.mem_cons_self, rfl, rfl, .inr (.inr ?_)⟩⟩
  exact ⟨by decide, _, rfl, rfl, _, List.mem_cons_self, rfl, by simp⟩

end Vectis.Core.Permissions
