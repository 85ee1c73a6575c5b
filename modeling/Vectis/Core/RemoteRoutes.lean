import Vectis.Core.Routes
import Vectis.Lib.Index
import Vectis.Ops.Message.Protected

/-!
# Routes to other nodes

The `remote_routes` section of the configuration (`core/remote_routes.rs`): the peers that may be sent to, by which
local kids, and their pinned public keys.

- `validateRemoteRoutes_ok_iff`: the lists that are accepted;
- `routeFor_ok_iff`, `publicKeysFor_eq_some_iff`: what is looked up in an accepted list;
- `remote_routes_exact`: with the errors.
-/

namespace Vectis.Core.RemoteRoutes

open Validation Routes Ops.Keys Ops.Message

/-- `RemoteRouteInput` and `RemoteRoute`, which have the same fields. -/
structure RemoteRoute where
  remoteKid : String
  name : String
  remoteAddr : String
  allowedLocalKids : List String
  status : String
  publicKeys : Option PublicKeys
  deriving DecidableEq, Repr

/-- The routes, and their index by kid. -/
structure RemoteRoutesState where
  routes : List RemoteRoute
  byRemoteKid : List (String × Nat)
  deriving DecidableEq, Repr

/-! ## Lookups -/

def RemoteRoute.allowsLocalKid (route : RemoteRoute) (senderKid : String) : Bool :=
  route.allowedLocalKids.any fun allowedKid => allowedKid = "*" || allowedKid = senderKid

namespace RemoteRoutesState

def fromRoutes (routes : List RemoteRoute) : RemoteRoutesState := ⟨routes, Index.ofList RemoteRoute.remoteKid routes⟩

def routeFor (state : RemoteRoutesState) (senderKid recipientKid : String) : Res RemoteRoute :=
  match Index.find state.byRemoteKid state.routes recipientKid with
  | none => .error (.notFound "recipient route not found")
  | some route =>
    if route.status ≠ "active" then .error (.forbidden "recipient route is disabled")
    else if !route.allowsLocalKid senderKid then .error (.forbidden "sender kid is not allowed for recipient route")
    else .ok route

def publicKeysFor (state : RemoteRoutesState) (kid : String) : Option PublicKeys :=
  ((Index.find state.byRemoteKid state.routes kid).filter fun route => route.status = "active").bind
    RemoteRoute.publicKeys

end RemoteRoutesState

/-! ## Validation -/

section Validation

variable (lib : MessageLibrary) (addr : AddrLibrary) (localKidExists : String → Bool)

/-- `REMOTE_ROUTE_ML_KEM_SHARED_KEY_SIZE_BYTES`. -/
def remoteRouteMlKemSharedKeySizeBytes : Nat := 32

def validatePeerPublicKeys (trial : Res (List UInt8 × List UInt8)) (keys : PublicKeys) : Res Unit := do
  validateAllowedValue "remote_routes.public_keys.eddsa.alg" keys.eddsa.alg eddsaAlgorithms
  validateHexField "remote_routes.public_keys.eddsa.public_key_der_hex" keys.eddsa.publicKeyDerHex
  let _ ← validateDerPublicKeyHex lib.eddsa.loadPublicKeyDerHex "remote_routes.public_keys.eddsa.public_key_der_hex"
    keys.eddsa.publicKeyDerHex
  validateAllowedValue "remote_routes.public_keys.xecdh.alg" keys.xecdh.alg xecdhAlgorithms
  validateHexField "remote_routes.public_keys.xecdh.public_key_hex" keys.xecdh.publicKeyHex
  let _ ← validateXKeyAgreementPublicKeyHex "remote_routes.public_keys.xecdh.public_key_hex" keys.xecdh.alg
    keys.xecdh.publicKeyHex
  validateAllowedValue "remote_routes.public_keys.ml-dsa.alg" keys.mlDsa.alg mlDsaAlgorithms
  validateHexField "remote_routes.public_keys.ml-dsa.public_key_der_hex" keys.mlDsa.publicKeyDerHex
  let _ ← validateDerPublicKeyHex lib.mlDsa.loadPublicKeyDerHex "remote_routes.public_keys.ml-dsa.public_key_der_hex"
    keys.mlDsa.publicKeyDerHex
  validateAllowedValue "remote_routes.public_keys.ml-kem.alg" keys.mlKem.alg mlKemAlgorithms
  validateHexField "remote_routes.public_keys.ml-kem.public_key_der_hex" keys.mlKem.publicKeyDerHex
  validateMlKemPublicKeyHex lib trial "remote_routes.public_keys.ml-kem.public_key_der_hex" keys.mlKem.publicKeyDerHex
    remoteRouteMlKemSharedKeySizeBytes

def validatePinnedKeys (trial : Res (List UInt8 × List UInt8)) : Option PublicKeys → Res Unit
  | none => .ok ()
  | some publicKeys => validatePeerPublicKeys lib trial publicKeys

/-- The loop over the explicit kids, with those before it. -/
def validateExplicitKids : List String → List String → Res Unit
  | _, [] => .ok ()
  | seen, kid :: kids => do
    (parseKeyId kid).mapError fun err =>
      .invalidInput ("remote_routes.allowed_local_kids contains invalid kid: " ++ err.toText)
    if kid ∈ seen then .error (.invalidInput ("remote_routes.allowed_local_kids has duplicated kid: " ++ kid))
    else if !localKidExists kid then
      .error (.invalidInput ("remote_routes.allowed_local_kids contains unloaded kid: " ++ kid))
    else validateExplicitKids (kid :: seen) kids

def validateAllowedLocalKids (allowedLocalKids : List String) : Res Unit :=
  if allowedLocalKids.isEmpty then .error (.invalidInput "remote_routes.allowed_local_kids must not be empty")
  else if "*" ∈ allowedLocalKids ∧ allowedLocalKids.length > 1 then
    .error (.invalidInput "remote_routes.allowed_local_kids wildcard cannot be mixed with explicit kids")
  else if "*" ∈ allowedLocalKids then .ok ()
  else validateExplicitKids localKidExists [] allowedLocalKids

/-- One round of the loop over the routes; `trial kid` is what the generator draws to try the keys of the peer `kid`. -/
def validateRemoteRoute (trial : String → Res (List UInt8 × List UInt8)) (seen : List (String × String))
    (route : RemoteRoute) : Res RemoteRoute := do
  (parseKeyId route.remoteKid).mapError fun err => .invalidInput ("remote_routes.remote_kid is invalid: " ++ err.toText)
  if route.remoteKid ∈ seen.map Prod.fst then
    .error (.invalidInput ("remote routes file has duplicated remote_kid: " ++ route.remoteKid))
  else do
    validateConfigName "remote_routes.name" route.name
    if route.name ∈ seen.map Prod.snd then
      .error (.invalidInput ("remote routes file has duplicated name: " ++ route.name))
    else do
      let remoteAddr ← validateHostPort addr "remote_routes.remote_addr" route.remoteAddr
      validateAllowedValue "remote_routes.status" route.status ["active", "disabled"]
      validateAllowedLocalKids localKidExists route.allowedLocalKids
      validatePinnedKeys lib (trial route.remoteKid) route.publicKeys
      .ok { route with remoteAddr }

def RemoteRoute.key (route : RemoteRoute) : String × String := (route.remoteKid, route.name)

def validateRemoteRoutes (trial : String → Res (List UInt8 × List UInt8)) (routes : List RemoteRoute) :
    Res (List RemoteRoute) :=
  Loop.collect (validateRemoteRoute lib addr localKidExists trial) RemoteRoute.key [] routes

end Validation

/-! ## Accepted routes -/

section Accepted

variable {lib : MessageLibrary} {addr : AddrLibrary} {localKidExists : String → Bool}
  {trial : String → Res (List UInt8 × List UInt8)}

theorem validateExplicitKids_ok_iff : ∀ {kids seen : List String}, validateExplicitKids localKidExists seen kids =
    .ok () ↔
    (∀ kid ∈ kids, parseKeyId kid = .ok () ∧ localKidExists kid = true ∧ kid ∉ seen) ∧ kids.Nodup
  | [], seen => by simp [validateExplicitKids]
  | kid :: kids, seen => by
    rw [validateExplicitKids, Loop.bind_unit_eq_ok, Loop.mapError_eq_ok, Loop.guard_eq_ok, Loop.guard_eq_ok,
      validateExplicitKids_ok_iff, List.forall_mem_cons, List.nodup_cons]
    simp only [Bool.not_eq_true', Bool.not_eq_false, List.mem_cons, not_or]
    constructor
    · rintro ⟨hparse, hseen, hexists, hkids, hnodup⟩
      exact ⟨⟨⟨hparse, hexists, hseen⟩, fun k hk => ⟨(hkids k hk).1, (hkids k hk).2.1, (hkids k hk).2.2.2⟩⟩,
        fun hmem => (hkids kid hmem).2.2.1 rfl, hnodup⟩
    · rintro ⟨⟨⟨hparse, hexists, hseen⟩, hkids⟩, hnot, hnodup⟩
      exact ⟨hparse, hseen, hexists,
        fun k hk => ⟨(hkids k hk).1, (hkids k hk).2.1, fun h => hnot (h ▸ hk), (hkids k hk).2.2⟩, hnodup⟩

/-- The local kids are all, or some that are loaded. -/
def KidsOk (localKidExists : String → Bool) (allowedLocalKids : List String) : Prop :=
  allowedLocalKids = ["*"] ∨ allowedLocalKids ≠ [] ∧ "*" ∉ allowedLocalKids ∧ allowedLocalKids.Nodup ∧
    ∀ kid ∈ allowedLocalKids, parseKeyId kid = .ok () ∧ localKidExists kid = true

theorem validateAllowedLocalKids_ok_iff {kids : List String} :
    validateAllowedLocalKids localKidExists kids = .ok () ↔ KidsOk localKidExists kids := by
  unfold validateAllowedLocalKids KidsOk
  rw [Loop.guard_eq_ok, Loop.guard_eq_ok, List.isEmpty_iff]
  by_cases hstar : "*" ∈ kids
  · rw [if_pos hstar]
    simp only [hstar, true_and, not_true_eq_false, false_and, and_false, or_false, and_true, gt_iff_lt, Nat.not_lt]
    constructor
    · rintro ⟨-, hlength⟩
      obtain ⟨kid, rfl⟩ := List.length_eq_one_iff.mp (Nat.le_antisymm hlength (List.length_pos_of_mem hstar))
      rw [List.mem_singleton.mp hstar]
    · rintro rfl
      exact ⟨List.cons_ne_nil _ _, Nat.le_refl 1⟩
  · rw [if_neg hstar, validateExplicitKids_ok_iff]
    have hne : kids ≠ ["*"] := by
      rintro rfl
      exact hstar List.mem_cons_self
    simp only [hstar, false_and, not_false_eq_true, true_and, List.not_mem_nil, and_true, hne, false_or, ne_eq]
    exact ⟨fun h => ⟨h.1, h.2.2, h.2.1⟩, fun h => ⟨h.1, h.2.2, h.2.1⟩⟩

/-- What holds of an accepted route, whatever the other routes are. -/
structure RouteOk (lib : MessageLibrary) (addr : AddrLibrary) (localKidExists : String → Bool)
    (trial : String → Res (List UInt8 × List UInt8)) (route : RemoteRoute) : Prop where
  kid : parseKeyId route.remoteKid = .ok ()
  name : validateConfigName "remote_routes.name" route.name = .ok ()
  address : ∃ checked, validateHostPort addr "remote_routes.remote_addr" route.remoteAddr = .ok checked
  status : route.status = "active" ∨ route.status = "disabled"
  kids : KidsOk localKidExists route.allowedLocalKids
  publicKeys : ∀ keys ∈ route.publicKeys, validatePeerPublicKeys lib (trial route.remoteKid) keys = .ok ()

theorem validateStatus_ok_iff {status : String} :
    validateAllowedValue "remote_routes.status" status ["active", "disabled"] = .ok () ↔
      status = "active" ∨ status = "disabled" := by
  constructor
  · intro h
    simpa using validateAllowedValue_mem h
  · rintro (rfl | rfl) <;> rfl

theorem validateRemoteRoute_ok_iff (seen : List (String × String)) (route out : RemoteRoute) :
    validateRemoteRoute lib addr localKidExists trial seen route = .ok out ↔
      RouteOk lib addr localKidExists trial route ∧ (∀ k ∈ seen, Apart k route.key) ∧ out = route := by
  rw [validateRemoteRoute, Loop.bind_unit_eq_ok, Loop.mapError_eq_ok, Loop.guard_eq_ok, Loop.bind_unit_eq_ok,
    Loop.guard_eq_ok, apart_iff]
  constructor
  · rintro ⟨hkid, hkids, hname, hnames, h⟩
    obtain ⟨address, haddress, h⟩ := Loop.bind_eq_ok.mp h
    rw [Loop.bind_unit_eq_ok, Loop.bind_unit_eq_ok, Loop.bind_unit_eq_ok, validateStatus_ok_iff,
      validateAllowedLocalKids_ok_iff] at h
    obtain ⟨hstatus, hallowed, hkeys, h⟩ := h
    cases h
    refine ⟨⟨hkid, hname, ⟨_, haddress⟩, hstatus, hallowed, fun keys hmem => ?_⟩, ⟨hkids, hnames⟩, ?_⟩
    · rw [Option.mem_def.mp hmem, validatePinnedKeys] at hkeys
      exact hkeys
    · rw [validateHostPort_eq haddress]
  · rintro ⟨hok, ⟨hkids, hnames⟩, rfl⟩
    obtain ⟨address, haddress⟩ := hok.address
    refine ⟨hok.kid, hkids, hok.name, hnames, Loop.bind_eq_ok.mpr ⟨_, haddress, ?_⟩⟩
    rw [Loop.bind_unit_eq_ok, Loop.bind_unit_eq_ok, Loop.bind_unit_eq_ok, validateStatus_ok_iff,
      validateAllowedLocalKids_ok_iff, validateHostPort_eq haddress]
    refine ⟨hok.status, hok.kids, ?_, rfl⟩
    cases hkeys : out.publicKeys with
    | none => rfl
    | some keys => exact hok.publicKeys keys hkeys

theorem validateRemoteRoutes_ok_iff {routes out : List RemoteRoute} :
    validateRemoteRoutes lib addr localKidExists trial routes = .ok out ↔
      (∀ route ∈ routes, RouteOk lib addr localKidExists trial route) ∧ (routes.map RemoteRoute.remoteKid).Nodup ∧
        (routes.map RemoteRoute.name).Nodup ∧ out = routes := by
  rw [validateRemoteRoutes, Loop.collect_eq_ok (f := id) validateRemoteRoute_ok_iff, pairwise_apart, List.map_map,
    List.map_map, List.map_id]
  simp only [List.not_mem_nil, false_imp_iff, implies_true, true_and, and_assoc]
  rfl

/-! ## What is looked up -/

variable {routes out : List RemoteRoute}

theorem find_eq_some_iff (h : validateRemoteRoutes lib addr localKidExists trial routes = .ok out) {kid : String}
    {route : RemoteRoute} : Index.find (RemoteRoutesState.fromRoutes out).byRemoteKid out kid = some route ↔
      route ∈ routes ∧ route.remoteKid = kid := by
  obtain ⟨-, hnodup, -, rfl⟩ := validateRemoteRoutes_ok_iff.mp h
  exact Index.find_eq_some_iff hnodup

/-- The wildcard stands alone, so the sender is one of the listed kids or every sender is allowed. -/
theorem allowsLocalKid_iff {route : RemoteRoute} {senderKid : String} : route.allowsLocalKid senderKid = true ↔
    "*" ∈ route.allowedLocalKids ∨ senderKid ∈ route.allowedLocalKids := by
  simp only [RemoteRoute.allowsLocalKid, List.any_eq_true, Bool.or_eq_true, decide_eq_true_eq]
  constructor
  · rintro ⟨kid, hmem, rfl | rfl⟩
    · exact Or.inl hmem
    · exact Or.inr hmem
  · rintro (hmem | hmem)
    · exact ⟨_, hmem, Or.inl rfl⟩
    · exact ⟨_, hmem, Or.inr rfl⟩

theorem routeFor_ok_iff (h : validateRemoteRoutes lib addr localKidExists trial routes = .ok out)
    {senderKid recipientKid : String} {route : RemoteRoute} :
    (RemoteRoutesState.fromRoutes out).routeFor senderKid recipientKid = .ok route ↔
      route ∈ routes ∧ route.remoteKid = recipientKid ∧ route.status = "active" ∧
        (route.allowedLocalKids = ["*"] ∨ senderKid ∈ route.allowedLocalKids) := by
  have hfound := @find_eq_some_iff lib addr localKidExists trial routes out h recipientKid
  have hwild : ∀ r ∈ routes, "*" ∈ r.allowedLocalKids → r.allowedLocalKids = ["*"] := by
    intro r hr hstar
    rcases ((validateRemoteRoutes_ok_iff.mp h).1 r hr).kids with hkids | ⟨-, hnot, -⟩
    · exact hkids
    · exact absurd hstar hnot
  unfold RemoteRoutesState.routeFor
  rw [show (RemoteRoutesState.fromRoutes out).routes = out from rfl]
  cases hfind : Index.find (RemoteRoutesState.fromRoutes out).byRemoteKid out recipientKid with
  | none =>
    refine ⟨fun herr => absurd herr (by simp), ?_⟩
    rintro ⟨hmem, hkid, -⟩
    rw [hfound.mpr ⟨hmem, hkid⟩] at hfind
    cases hfind
  | some found =>
    obtain ⟨hmem, hkid⟩ := hfound.mp hfind
    rw [Loop.guard_eq_ok, Loop.guard_eq_ok]
    simp only [ne_eq, Decidable.not_not, Bool.not_eq_true', Bool.not_eq_false, allowsLocalKid_iff, Except.ok.injEq]
    constructor
    · rintro ⟨hactive, hallowed, rfl⟩
      exact ⟨hmem, hkid, hactive, hallowed.imp_left (hwild _ hmem)⟩
    · rintro ⟨hmem', hkid', hactive, hallowed⟩
      rw [hfound.mpr ⟨hmem', hkid'⟩] at hfind
      cases hfind
      exact ⟨hactive, hallowed.imp_left fun heq => by rw [heq]; exact List.mem_cons_self, rfl⟩

theorem publicKeysFor_eq_some_iff (h : validateRemoteRoutes lib addr localKidExists trial routes = .ok out)
    {kid : String} {keys : PublicKeys} : (RemoteRoutesState.fromRoutes out).publicKeysFor kid = some keys ↔
      ∃ route ∈ routes, route.remoteKid = kid ∧ route.status = "active" ∧ route.publicKeys = some keys := by
  unfold RemoteRoutesState.publicKeysFor
  rw [show (RemoteRoutesState.fromRoutes out).routes = out from rfl, Option.bind_eq_some_iff]
  simp only [Option.filter_eq_some_iff, find_eq_some_iff h, decide_eq_true_eq]
  constructor
  · rintro ⟨route, ⟨⟨hmem, hkid⟩, hactive⟩, hkeys⟩
    exact ⟨route, hmem, hkid, hactive, hkeys⟩
  · rintro ⟨route, hmem, hkid, hactive, hkeys⟩
    exact ⟨route, ⟨⟨hmem, hkid⟩, hactive⟩, hkeys⟩

/-- A message is routed to a peer exactly when the accepted configuration has an active route to it that allows the
sender; an unknown peer is not found, and any other is forbidden. Pinned keys are those of the active route, and were
checked. -/
theorem remote_routes_exact (h : validateRemoteRoutes lib addr localKidExists trial routes = .ok out)
    (senderKid recipientKid : String) :
    (∀ route, (RemoteRoutesState.fromRoutes out).routeFor senderKid recipientKid = .ok route ↔
      route ∈ routes ∧ route.remoteKid = recipientKid ∧ route.status = "active" ∧
        (route.allowedLocalKids = ["*"] ∨ senderKid ∈ route.allowedLocalKids)) ∧
    (∀ err, (RemoteRoutesState.fromRoutes out).routeFor senderKid recipientKid = .error err →
      if ∃ route ∈ routes, route.remoteKid = recipientKid then ∃ message, err = .forbidden message
      else err = .notFound "recipient route not found") ∧
    ∀ keys, (RemoteRoutesState.fromRoutes out).publicKeysFor recipientKid = some keys ↔
      ∃ route ∈ routes, route.remoteKid = recipientKid ∧ route.status = "active" ∧ route.publicKeys = some keys ∧
        validatePeerPublicKeys lib (trial recipientKid) keys = .ok () := by
  refine ⟨fun route => routeFor_ok_iff h, fun err herr => ?_, fun keys => ?_⟩
  · unfold RemoteRoutesState.routeFor at herr
    rw [show (RemoteRoutesState.fromRoutes out).routes = out from rfl] at herr
    cases hfind : Index.find (RemoteRoutesState.fromRoutes out).byRemoteKid out recipientKid with
    | none =>
      rw [if_neg]
      · rw [hfind] at herr
        exact (Except.error.inj herr).symm
      · rintro ⟨route, hmem, hkid⟩
        rw [(find_eq_some_iff h).mpr ⟨hmem, hkid⟩] at hfind
        cases hfind
    | some found =>
      obtain ⟨hmem, hkid⟩ := (find_eq_some_iff h).mp hfind
      rw [if_pos ⟨found, hmem, hkid⟩]
      simp only [hfind] at herr
      split at herr
      · exact ⟨_, (Except.error.inj herr).symm⟩
      · split at herr
        · exact ⟨_, (Except.error.inj herr).symm⟩
        · cases herr
  · rw [publicKeysFor_eq_some_iff h]
    refine exists_congr fun route => and_congr_right fun hmem => ?_
    constructor
    · rintro ⟨hkid, hactive, hkeys⟩
      have hvalid := ((validateRemoteRoutes_ok_iff.mp h).1 route hmem).publicKeys keys hkeys
      exact ⟨hkid, hactive, hkeys, hkid ▸ hvalid⟩
    · rintro ⟨hkid, hactive, hkeys, -⟩
      exact ⟨hkid, hactive, hkeys⟩

end Accepted

/-! ## An accepted list -/

/-- A peer that one local kid may send to. -/
def exampleRoute : RemoteRoute where
  remoteKid := recipientKey.id
  name := "peer"
  remoteAddr := "127.0.0.1:3000"
  allowedLocalKids := [senderKey.id]
  status := "active"
  publicKeys := some examplePeer

theorem exampleRoute_accepted : validateRemoteRoutes (exampleLibrary (.ofSealings [])) exampleAddr (· = senderKey.id)
    (fun _ => .ok ([], [])) [exampleRoute] = .ok [exampleRoute] := by
  have haddress : validateHostPort exampleAddr "remote_routes.remote_addr" exampleRoute.remoteAddr =
      .ok exampleRoute.remoteAddr := rfl
  have hraw : validateXKeyAgreementPublicKeyHex "remote_routes.public_keys.xecdh.public_key_hex" examplePeer.xecdh.alg
      examplePeer.xecdh.publicKeyHex = .ok (List.replicate 32 3) := by rfl
  refine validateRemoteRoutes_ok_iff.mpr ⟨?_, List.nodup_singleton _, List.nodup_singleton _, rfl⟩
  intro route hroute
  obtain rfl := List.mem_singleton.mp hroute
  refine ⟨recipientKey_id "id", by rfl, ⟨_, haddress⟩, Or.inl rfl,
    Or.inr ⟨List.cons_ne_nil _ _, by decide, List.nodup_singleton _, ?_⟩, ?_⟩
  · intro kid hkid
    obtain rfl := List.mem_singleton.mp hkid
    exact ⟨senderKey_id "id", by simp⟩
  · rintro keys ⟨⟩
    unfold validatePeerPublicKeys
    rw [hraw]
    rfl

/-- The listed sender is routed to the peer, another one is not. -/
theorem remote_routes_exact_example :
    (RemoteRoutesState.fromRoutes [exampleRoute]).routeFor senderKey.id recipientKey.id = .ok exampleRoute ∧
    ∀ route, (RemoteRoutesState.fromRoutes [exampleRoute]).routeFor "other" recipientKey.id ≠ .ok route := by
  constructor
  · exact ((remote_routes_exact exampleRoute_accepted senderKey.id recipientKey.id).1 exampleRoute).mpr
      ⟨List.mem_singleton_self _, rfl, rfl, Or.inr (List.mem_singleton_self _)⟩
  · intro route h
    obtain ⟨hmem, -, -, hallowed⟩ := ((remote_routes_exact exampleRoute_accepted "other" recipientKey.id).1 route).mp h
    obtain rfl := List.mem_singleton.mp hmem
    revert hallowed
    decide

end Vectis.Core.RemoteRoutes
