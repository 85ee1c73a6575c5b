import Mathlib.Data.List.Nodup
import Vectis.Core.Hosts
import Vectis.Ops.Keys

/-!
# Routes to final applications

The `routes` section of the configuration (`core/routes.rs`), and the route of a kid.

- `validateRoutes_ok_iff`: the lists that are accepted; the routes are those of the input;
- `routeFor_eq`: a kid has its route, or the default.
-/

namespace Vectis.Core.Routes

open Validation Ops.Keys

/-- `RouteInput` and `FinalAppRoute`, which have the same fields. -/
structure FinalAppRoute where
  kid : String
  name : String
  finalAppAddr : String
  finalAppPath : String
  deriving DecidableEq, Repr

structure RoutesState where
  defaultAddr : String
  defaultPath : String
  routes : List FinalAppRoute
  deriving DecidableEq, Repr

def RoutesState.routeFor (state : RoutesState) (kid : String) : FinalAppRoute :=
  (state.routes.find? fun route => route.kid = kid).getD ⟨kid, "default-final-app", state.defaultAddr,
    state.defaultPath⟩

/-- `config::validate_http_path_field`. -/
def validateHttpPathField (field value : String) : Res String := do
  validateTextField field value
  if value.toList.head? ≠ some '/' then .error (.invalidInput (field ++ " must start with /"))
  else if ' ' ∈ value.toList then .error (.invalidInput (field ++ " must not contain spaces"))
  else .ok value

section Validation

variable (addr : AddrLibrary) (isLoadedKid : String → Bool)

/-- One round of the loop over the routes, with the kids and names before it. -/
def validateRoute (seen : List (String × String)) (route : FinalAppRoute) : Res FinalAppRoute := do
  (parseKeyId route.kid).mapError fun err => .invalidInput ("routes.kid is invalid: " ++ err.toText)
  if !isLoadedKid route.kid then
    .error (.invalidInput ("routes file references kid not loaded in memory: " ++ route.kid))
  else if route.kid ∈ seen.map Prod.fst then .error (.invalidInput ("routes file has duplicated kid: " ++ route.kid))
  else do
    validateConfigName "routes.name" route.name
    if route.name ∈ seen.map Prod.snd then .error (.invalidInput ("routes file has duplicated name: " ++ route.name))
    else do
      let finalAppAddr ← validateHostPort addr "routes.final_app_addr" route.finalAppAddr
      let finalAppPath ← validateHttpPathField "routes.final_app_path" route.finalAppPath
      .ok ⟨route.kid, route.name, finalAppAddr, finalAppPath⟩

def FinalAppRoute.key (route : FinalAppRoute) : String × String := (route.kid, route.name)

def validateRoutes (routes : List FinalAppRoute) : Res (List FinalAppRoute) :=
  Loop.collect (validateRoute addr isLoadedKid) FinalAppRoute.key [] routes

end Validation

/-! ## Accepted routes -/

/-- A checked address is returned as it is. -/
theorem validateHostPort_eq {addr : AddrLibrary} {field value checked : String}
    (h : validateHostPort addr field value = .ok checked) : checked = value := by
  unfold validateHostPort at h
  obtain ⟨⟨⟩, -, h⟩ := Loop.bind_eq_ok.mp h
  split at h
  · exact (Except.ok.inj h).symm
  · split at h
    · cases h
    · obtain ⟨⟨⟩, -, h⟩ := Loop.bind_eq_ok.mp h
      split at h
      · cases h
      · cases h
      · exact (Except.ok.inj h).symm

theorem validateHttpPathField_eq {field value checked : String} (h : validateHttpPathField field value = .ok checked) :
    checked = value := by
  obtain ⟨⟨⟩, -, h⟩ := Loop.bind_eq_ok.mp h
  simp only [Loop.guard_eq_ok] at h
  exact (Except.ok.inj h.2.2).symm

variable {addr : AddrLibrary} {isLoadedKid : String → Bool}

/-- What holds of an accepted route, whatever the other routes are. -/
structure RouteOk (addr : AddrLibrary) (isLoadedKid : String → Bool) (route : FinalAppRoute) : Prop where
  kid : parseKeyId route.kid = .ok ()
  loaded : isLoadedKid route.kid = true
  name : validateConfigName "routes.name" route.name = .ok ()
  address : ∃ checked, validateHostPort addr "routes.final_app_addr" route.finalAppAddr = .ok checked
  path : ∃ checked, validateHttpPathField "routes.final_app_path" route.finalAppPath = .ok checked

/-- Neither the kids nor the names are the same. -/
def Apart (a b : String × String) : Prop := a.1 ≠ b.1 ∧ a.2 ≠ b.2

theorem apart_iff {seen : List (String × String)} {key : String × String} :
    (∀ k ∈ seen, Apart k key) ↔ key.1 ∉ seen.map Prod.fst ∧ key.2 ∉ seen.map Prod.snd := by
  simp only [Apart, List.mem_map, not_exists, not_and]
  exact ⟨fun h => ⟨fun k hk => (h k hk).1, fun k hk => (h k hk).2⟩, fun h k hk => ⟨h.1 k hk, h.2 k hk⟩⟩

theorem pairwise_apart {keys : List (String × String)} :
    keys.Pairwise Apart ↔ (keys.map Prod.fst).Nodup ∧ (keys.map Prod.snd).Nodup := by
  simp only [List.Nodup, List.pairwise_map, ← List.pairwise_and_iff]
  rfl

theorem validateRoute_ok_iff (seen : List (String × String)) (route out : FinalAppRoute) :
    validateRoute addr isLoadedKid seen route = .ok out ↔
      RouteOk addr isLoadedKid route ∧ (∀ k ∈ seen, Apart k route.key) ∧ out = route := by
  rw [validateRoute, Loop.bind_unit_eq_ok, Loop.mapError_eq_ok, Loop.guard_eq_ok, Loop.guard_eq_ok,
    Loop.bind_unit_eq_ok, Loop.guard_eq_ok, apart_iff]
  constructor
  · rintro ⟨hkid, hloaded, hkids, hname, hnames, h⟩
    obtain ⟨address, haddress, h⟩ := Loop.bind_eq_ok.mp h
    obtain ⟨path, hpath, h⟩ := Loop.bind_eq_ok.mp h
    cases h
    refine ⟨⟨hkid, by simpa using hloaded, hname, ⟨_, haddress⟩, ⟨_, hpath⟩⟩, ⟨hkids, hnames⟩, ?_⟩
    rw [validateHostPort_eq haddress, validateHttpPathField_eq hpath]
  · rintro ⟨hok, ⟨hkids, hnames⟩, rfl⟩
    obtain ⟨address, haddress⟩ := hok.address
    obtain ⟨path, hpath⟩ := hok.path
    refine ⟨hok.kid, by simp [hok.loaded], hkids, hok.name, hnames, Loop.bind_eq_ok.mpr ⟨_, haddress, ?_⟩⟩
    refine Loop.bind_eq_ok.mpr ⟨_, hpath, ?_⟩
    rw [validateHostPort_eq haddress, validateHttpPathField_eq hpath]

theorem validateRoutes_ok_iff {routes out : List FinalAppRoute} : validateRoutes addr isLoadedKid routes = .ok out ↔
    (∀ route ∈ routes, RouteOk addr isLoadedKid route) ∧ (routes.map FinalAppRoute.kid).Nodup ∧
      (routes.map FinalAppRoute.name).Nodup ∧ out = routes := by
  rw [validateRoutes, Loop.collect_eq_ok (f := id) validateRoute_ok_iff, pairwise_apart, List.map_map, List.map_map,
    List.map_id]
  simp only [List.not_mem_nil, false_imp_iff, implies_true, true_and, and_assoc]
  rfl

/-- A kid has the route that names it, else the default. -/
theorem routeFor_eq {routes out : List FinalAppRoute} (h : validateRoutes addr isLoadedKid routes = .ok out)
    (defaultAddr defaultPath kid : String) :
    (∀ route ∈ routes, route.kid = kid → (RoutesState.mk defaultAddr defaultPath out).routeFor kid = route) ∧
      ((∀ route ∈ routes, route.kid ≠ kid) → (RoutesState.mk defaultAddr defaultPath out).routeFor kid =
        ⟨kid, "default-final-app", defaultAddr, defaultPath⟩) := by
  obtain ⟨-, hnodup, -, rfl⟩ := validateRoutes_ok_iff.mp h
  constructor
  · rintro route hroute rfl
    cases hfind : out.find? fun r => r.kid = route.kid with
    | none => exact absurd (List.find?_eq_none.mp hfind route hroute) (by simp)
    | some found =>
      have hkid : found.kid = route.kid := by simpa using List.find?_some hfind
      rw [RoutesState.routeFor, hfind, Option.getD_some,
        List.inj_on_of_nodup_map hnodup (List.mem_of_find?_eq_some hfind) hroute hkid]
  · intro hnone
    have hfind : (out.find? fun r => r.kid = kid) = none := List.find?_eq_none.mpr fun r hr => by simpa using hnone r hr
    rw [RoutesState.routeFor, hfind, Option.getD_none]

end Vectis.Core.Routes
