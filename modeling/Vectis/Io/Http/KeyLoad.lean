import Vectis.Core.Error
import Vectis.Lib.Run

/-!
# Loading a missing key once

`KeyLoadSingleflight` (`io/http/key_load.rs`): callers that need the same key share a flight, whose cell is filled by
one of them. The map holds weak references to the flights; a caller holds a strong one in its lease, from `acquire`
until the lease is dropped. A caller can be cancelled while it waits or loads, and another one then takes over.

- `step`: one action of a caller. The map is changed under its lock, so `acquire` and `release` are one step each;
- `inv_step`, `inv_run`: the map has the flights with callers and no others;
- `singleflight_exact`: one loader for each kid, one result for each flight, and no flight that outlives its callers.
-/

namespace Vectis.Io.Http.KeyLoad

/-! ## Callers and flights -/

abbrev SharedKeyLoadResult := Except VectisError Unit

/-- The error that the other callers of the flight get. -/
def sharedError : DynError → VectisError
  | .vectis err => err
  | .other message => .internal message

def sharedResult : Res Unit → SharedKeyLoadResult
  | .ok () => .ok ()
  | .error err => .error (sharedError err)

/-- What a caller makes of the result in the cell. -/
def ofShared : SharedKeyLoadResult → Res Unit
  | .ok () => .ok ()
  | .error err => .error (.vectis err)

/-- `OnceCell`: its initializer may be dropped before it is done. -/
inductive Cell
  | empty
  | running (caller : Nat)
  | full (result : SharedKeyLoadResult)

/-- Where a caller is: `returning` and `cancelled` still hold the lease. -/
inductive Pc
  | waiting
  | loading
  | returning (result : Res Unit)
  | cancelled
  | left (result : Option (Res Unit))

structure Caller where
  kid : String
  flight : Nat
  pc : Pc

/-- The caller has a strong reference to its flight. -/
def Caller.holds (caller : Caller) : Bool :=
  match caller.pc with
  | .left _ => false
  | _ => true

/-- The map from kids to flights, the cells, the number of flights so far, and the callers in the order of their
arrival. -/
structure State where
  flights : String → Option Nat
  cells : Nat → Cell
  next : Nat
  callers : List Caller

def State.initial : State := ⟨fun _ => none, fun _ => .empty, 0, []⟩

def strongCount (callers : List Caller) (flight : Nat) : Nat :=
  callers.countP fun caller => caller.holds && caller.flight = flight

/-- `flights.retain(|_, flight| flight.strong_count() > 0)`. -/
def State.retained (s : State) (kid : String) : Option Nat :=
  (s.flights kid).filter fun flight => 0 < strongCount s.callers flight

def State.acquire (s : State) (kid : String) : State :=
  match s.retained kid with
  | some flight => { s with flights := s.retained, callers := s.callers ++ [⟨kid, flight, .waiting⟩] }
  | none =>
    { flights := fun k => if k = kid then some s.next else s.retained k
      cells := fun f => if f = s.next then .empty else s.cells f
      next := s.next + 1
      callers := s.callers ++ [⟨kid, s.next, .waiting⟩] }

/-- A caller goes on, with its cell. -/
def State.update (s : State) (i : Nat) (caller : Caller) (pc : Pc) (cell : Cell) : State :=
  { s with
    cells := fun f => if f = caller.flight then cell else s.cells f
    callers := s.callers.set i { caller with pc := pc } }

/-- `KeyLoadLease::drop`: the reference is given up under the lock, and the last one removes its own entry. -/
def State.release (s : State) (i : Nat) (caller : Caller) (result : Option (Res Unit)) : State :=
  let callers := s.callers.set i { caller with pc := .left result }
  let remove := s.flights caller.kid = some caller.flight ∧ strongCount callers caller.flight = 0
  { s with
    flights := if remove then fun k => if k = caller.kid then none else s.flights k else s.flights
    callers := callers }

inductive Action
  | acquire (kid : String)
  | beginLoad (i : Nat)
  | complete (i : Nat) (result : Res Unit)
  | observe (i : Nat)
  | cancel (i : Nat)
  | release (i : Nat)

def step (s : State) : Action → Option State
  | .acquire kid => some (s.acquire kid)
  | .beginLoad i => do
    let caller ← s.callers[i]?
    match caller.pc, s.cells caller.flight with
    | .waiting, .empty => some (s.update i caller .loading (.running i))
    | _, _ => none
  | .complete i result => do
    let caller ← s.callers[i]?
    match caller.pc with
    | .loading => some (s.update i caller (.returning result) (.full (sharedResult result)))
    | _ => none
  | .observe i => do
    let caller ← s.callers[i]?
    match caller.pc, s.cells caller.flight with
    | .waiting, .full result => some (s.update i caller (.returning (ofShared result)) (.full result))
    | _, _ => none
  | .cancel i => do
    let caller ← s.callers[i]?
    match caller.pc with
    | .waiting => some (s.update i caller .cancelled (s.cells caller.flight))
    | .loading => some (s.update i caller .cancelled .empty)
    | _ => none
  | .release i => do
    let caller ← s.callers[i]?
    match caller.pc with
    | .returning result => some (s.release i caller (some result))
    | .cancelled => some (s.release i caller none)
    | _ => none

/-! ## What a step keeps -/

variable {s s' : State} {i : Nat} {caller : Caller}

/-- The result that a caller got from its flight. -/
def Pc.result : Pc → Option (Res Unit)
  | .returning result => some result
  | .left result => result
  | _ => none

structure Inv (s : State) : Prop where
  entry : ∀ kid flight, s.flights kid = some flight →
    ∃ (i : Nat) (caller : Caller), s.callers[i]? = some caller ∧ caller.holds = true ∧ caller.kid = kid ∧
    caller.flight = flight
  held : ∀ (i : Nat) (caller : Caller), s.callers[i]? = some caller → caller.holds = true →
  s.flights caller.kid = some caller.flight
  kids : ∀ (i j : Nat) (caller other : Caller), s.callers[i]? = some caller → s.callers[j]? = some other →
    caller.flight = other.flight → caller.kid = other.kid
  known : ∀ (i : Nat) (caller : Caller), s.callers[i]? = some caller → caller.flight < s.next
  unused : ∀ flight, s.next ≤ flight → s.cells flight = .empty
  running : ∀ flight i, s.cells flight = .running i → ∃ caller : Caller, s.callers[i]? = some caller ∧
  caller.pc = .loading ∧
    caller.flight = flight
  loading : ∀ (i : Nat) (caller : Caller), s.callers[i]? = some caller → caller.pc = .loading →
  s.cells caller.flight = .running i
  result : ∀ (i : Nat) (caller : Caller) result, s.callers[i]? = some caller → caller.pc.result = some result →
    s.cells caller.flight = .full (sharedResult result)

theorem inv_initial : Inv .initial where
  entry _ _ h := nomatch h
  held _ _ h := nomatch h
  kids _ _ _ _ h := nomatch h
  known _ _ h := nomatch h
  unused _ _ := rfl
  running _ _ h := nomatch h
  loading _ _ h := nomatch h
  result _ _ _ h := nomatch h

theorem sharedResult_ofShared (result : SharedKeyLoadResult) : sharedResult (ofShared result) = result := by
  cases result with
  | ok => rfl
  | error err => rfl

theorem strongCount_pos {callers : List Caller} {flight : Nat} : 0 < strongCount callers flight ↔
    ∃ (i : Nat) (caller : Caller), callers[i]? = some caller ∧ caller.holds = true ∧ caller.flight = flight := by
  rw [strongCount, List.countP_pos_iff]
  constructor
  · rintro ⟨caller, hmem, hholds⟩
    obtain ⟨i, hi⟩ := List.mem_iff_getElem?.mp hmem
    exact ⟨i, caller, hi, by simpa using hholds⟩
  · rintro ⟨i, caller, hi, hholds, hflight⟩
    exact ⟨caller, List.mem_of_getElem? hi, by simp [hholds, hflight]⟩

/-- Every flight of the map has a caller, so that none is removed. -/
theorem retained_eq (hI : Inv s) : s.retained = s.flights := by
  funext kid
  unfold State.retained
  cases hflight : s.flights kid with
  | none => rfl
  | some flight =>
    obtain ⟨i, caller, hi, hholds, -, hf⟩ := hI.entry kid flight hflight
    exact Option.filter_some_pos (decide_eq_true (strongCount_pos.mpr ⟨i, caller, hi, hholds, hf⟩))

/-- The callers after one of them goes on. -/
theorem getElem?_set_cases {callers : List Caller} {new caller : Caller} (hi : callers[i]? = some caller) {j : Nat}
    {found : Caller} (h : (callers.set i new)[j]? = some found) : j = i ∧ found = new ∨ j ≠ i ∧
    callers[j]? = some found := by
  obtain ⟨hlt, -⟩ := List.getElem?_eq_some_iff.mp hi
  by_cases hj : j = i
  · subst hj
    rw [List.getElem?_set_self hlt, Option.some.injEq] at h
    exact Or.inl ⟨rfl, h.symm⟩
  · rw [List.getElem?_set_ne (Ne.symm hj)] at h
    exact Or.inr ⟨hj, h⟩

/-- A caller that goes on keeps its kid and its flight. -/
theorem getElem?_set_same {callers : List Caller} {caller found : Caller} {pc : Pc} (hi : callers[i]? = some caller)
    {j : Nat} (h : (callers.set i { caller with pc := pc })[j]? = some found) :
    ∃ old, callers[j]? = some old ∧ old.kid = found.kid ∧ old.flight = found.flight := by
  rcases getElem?_set_cases hi h with ⟨rfl, rfl⟩ | ⟨-, hj⟩
  · exact ⟨caller, hi, rfl, rfl⟩
  · exact ⟨found, hj, rfl, rfl⟩

theorem getElem?_set_self' {callers : List Caller} {new caller : Caller} (hi : callers[i]? = some caller) :
    (callers.set i new)[i]? = some new := by
  obtain ⟨hlt, -⟩ := List.getElem?_eq_some_iff.mp hi
  exact List.getElem?_set_self hlt

/-- A caller that keeps its lease goes on. Its cell changes only while no other caller depends on it. -/
theorem inv_update {pc : Pc} {cell : Cell} (hI : Inv s) (hi : s.callers[i]? = some caller)
    (hholds : caller.holds = true) (hholds' : Caller.holds { caller with pc := pc } = true)
    (hcell : cell = s.cells caller.flight ∨ s.cells caller.flight = .empty ∨ s.cells caller.flight = .running i)
    (hrunning : ∀ j, cell = .running j → j ≠ i ∧ s.cells caller.flight = .running j ∨ j = i ∧ pc = .loading)
    (hloading : pc = .loading → cell = .running i)
    (hresult : ∀ result, pc.result = some result → cell = .full (sharedResult result)) :
    Inv (s.update i caller pc cell) where
  entry kid flight hflight := by
    obtain ⟨j, other, hj, hother, hkid, hf⟩ := hI.entry kid flight hflight
    by_cases hne : j = i
    · subst hne
      rw [hi, Option.some.injEq] at hj
      subst hj
      exact ⟨j, _, getElem?_set_self' hi, hholds', hkid, hf⟩
    · exact ⟨j, other, (List.getElem?_set_ne (Ne.symm hne)).trans hj, hother, hkid, hf⟩
  held j other hj hother := by
    rcases getElem?_set_cases hi hj with ⟨rfl, rfl⟩ | ⟨hne, hj⟩
    · exact hI.held j caller hi hholds
    · exact hI.held j other hj hother
  kids j k other another hj hk hf := by
    obtain ⟨other', hother', hkid, hflight⟩ := getElem?_set_same hi hj
    obtain ⟨another', hanother', hkid', hflight'⟩ := getElem?_set_same hi hk
    rw [← hkid, ← hkid']
    exact hI.kids j k other' another' hother' hanother' (by rw [hflight, hflight', hf])
  known j other hj := by
    obtain ⟨other', hother', -, hflight⟩ := getElem?_set_same hi hj
    exact hflight ▸ hI.known j other' hother'
  unused flight hflight := by
    have hne : flight ≠ caller.flight := by
      rintro rfl
      exact Nat.lt_irrefl _ (Nat.lt_of_lt_of_le (hI.known i caller hi) hflight)
    exact (if_neg hne).trans (hI.unused flight hflight)
  running flight j hflight := by
    have hother : ∀ {g : Nat}, j ≠ i → s.cells g = .running j → ∃ other, (s.update i caller pc cell).callers[j]? =
      some other ∧
        other.pc = .loading ∧ other.flight = g := by
      intro g hne hg
      obtain ⟨other, hj, hload, hf⟩ := hI.running g j hg
      exact ⟨other, (List.getElem?_set_ne (Ne.symm hne)).trans hj, hload, hf⟩
    have hflight' : (if flight = caller.flight then cell else s.cells flight) = .running j := hflight
    split at hflight'
    · rename_i hf
      subst hf
      rcases hrunning j hflight' with ⟨hne, hold⟩ | ⟨rfl, hpc⟩
      · exact hother hne hold
      · exact ⟨_, getElem?_set_self' hi, hpc, rfl⟩
    · rename_i hf
      refine hother ?_ hflight'
      rintro rfl
      obtain ⟨found, hfound, -, hflight⟩ := hI.running flight j hflight'
      rw [hi, Option.some.injEq] at hfound
      exact hf (hfound ▸ hflight.symm)
  loading j other hj hload := by
    show (if other.flight = caller.flight then cell else s.cells other.flight) = .running j
    rcases getElem?_set_cases hi hj with ⟨rfl, rfl⟩ | ⟨hne, hj⟩
    · exact (if_pos rfl).trans (hloading hload)
    · have hold := hI.loading j other hj hload
      split
      · rename_i hf
        rw [hf] at hold
        rcases hcell with hsame | hempty | hrun
        · exact hsame.trans hold
        · rw [hempty] at hold
          cases hold
        · rw [hrun, Cell.running.injEq] at hold
          exact absurd hold.symm hne
      · exact hold
  result j other result hj hres := by
    show (if other.flight = caller.flight then cell else s.cells other.flight) = .full (sharedResult result)
    rcases getElem?_set_cases hi hj with ⟨rfl, rfl⟩ | ⟨hne, hj⟩
    · exact (if_pos rfl).trans (hresult result hres)
    · have hold := hI.result j other result hj hres
      split
      · rename_i hf
        rw [hf] at hold
        rcases hcell with hsame | hempty | hrun
        · exact hsame.trans hold
        · rw [hempty] at hold
          cases hold
        · rw [hrun] at hold
          cases hold
      · exact hold

/-- Without the caller that leaves, a flight has no callers or another one. -/
theorem strongCount_release {result : Option (Res Unit)} {flight : Nat} (hi : s.callers[i]? = some caller) :
    strongCount (s.callers.set i { caller with pc := .left result }) flight = 0 ↔
      ∀ (j : Nat) (other : Caller), j ≠ i → s.callers[j]? = some other → other.holds = true →
      other.flight ≠ flight := by
  rw [← Nat.le_zero, ← Nat.not_lt, strongCount_pos]
  constructor
  · intro hnone j other hne hj hholds hf
    exact hnone ⟨j, other, (List.getElem?_set_ne (Ne.symm hne)).trans hj, hholds, hf⟩
  · rintro hall ⟨j, other, hj, hholds, hf⟩
    rcases getElem?_set_cases hi hj with ⟨rfl, rfl⟩ | ⟨hne, hj⟩
    · cases hholds
    · exact hall j other hne hj hholds hf

/-- The entries after a caller left are those of the flights that still have callers. -/
theorem release_flights (result : Option (Res Unit)) (hI : Inv s) (hi : s.callers[i]? = some caller)
    (hholds : caller.holds = true) (kid : String) (flight : Nat) :
    (s.release i caller result).flights kid = some flight ↔ s.flights kid = some flight ∧
      ∃ (j : Nat) (other : Caller), j ≠ i ∧ s.callers[j]? = some other ∧ other.holds = true ∧ other.kid = kid ∧
        other.flight = flight := by
  have hown := hI.held i caller hi hholds
  by_cases hlast : strongCount (s.callers.set i { caller with pc := .left result }) caller.flight = 0
  · have hnone := (strongCount_release hi).mp hlast
    have hflights : (s.release i caller result).flights = fun k => if k = caller.kid then none else s.flights k :=
      if_pos ⟨hown, hlast⟩
    rw [hflights]
    by_cases hkid : kid = caller.kid
    · subst hkid
      simp only [if_true, reduceCtorEq, false_iff, not_and, not_exists]
      intro hflight j other hne hj hother _ hf
      rw [hown, Option.some.injEq] at hflight
      exact hnone j other hne hj hother (hf.trans hflight.symm)
    · simp only [if_neg hkid]
      refine ⟨fun hflight => ⟨hflight, ?_⟩, fun h => h.1⟩
      obtain ⟨j, other, hj, hother, hk, hf⟩ := hI.entry kid flight hflight
      refine ⟨j, other, ?_, hj, hother, hk, hf⟩
      rintro rfl
      rw [hi, Option.some.injEq] at hj
      exact hkid (hj ▸ hk.symm)
  · have hflights : (s.release i caller result).flights = s.flights := if_neg fun h => hlast h.2
    rw [hflights]
    refine ⟨fun hflight => ⟨hflight, ?_⟩, fun h => h.1⟩
    obtain ⟨j, other, hj, hother, hk, hf⟩ := hI.entry kid flight hflight
    by_cases hne : j = i
    · -- the caller leaves, but its flight has another one
      subst hne
      rw [hi, Option.some.injEq] at hj
      subst hj
      rw [strongCount_release hi] at hlast
      simp only [Classical.not_forall, Classical.not_not] at hlast
      obtain ⟨j', another, hne', hj', hanother, hf'⟩ := hlast
      refine ⟨j', another, hne', hj', hanother, ?_, hf'.trans hf⟩
      rw [← hk]
      exact hI.kids j' j another caller hj' hi hf'
    · exact ⟨j, other, hne, hj, hother, hk, hf⟩

theorem inv_release {result : Option (Res Unit)} (hI : Inv s) (hi : s.callers[i]? = some caller)
    (hholds : caller.holds = true) (hload : caller.pc ≠ .loading)
    (hresult : ∀ value, result = some value → caller.pc.result = some value) : Inv (s.release i caller result) where
  entry kid flight hflight := by
    obtain ⟨-, j, other, hne, hj, hother, hk, hf⟩ := (release_flights result hI hi hholds kid flight).mp hflight
    exact ⟨j, other, (List.getElem?_set_ne (Ne.symm hne)).trans hj, hother, hk, hf⟩
  held j other hj hother := by
    rcases getElem?_set_cases hi hj with ⟨rfl, rfl⟩ | ⟨hne, hj⟩
    · cases hother
    · exact (release_flights result hI hi hholds other.kid other.flight).mpr
        ⟨hI.held j other hj hother, j, other, hne, hj, hother, rfl, rfl⟩
  kids j k other another hj hk hf := by
    obtain ⟨other', hother', hkid, hflight⟩ := getElem?_set_same hi hj
    obtain ⟨another', hanother', hkid', hflight'⟩ := getElem?_set_same hi hk
    rw [← hkid, ← hkid']
    exact hI.kids j k other' another' hother' hanother' (by rw [hflight, hflight', hf])
  known j other hj := by
    obtain ⟨other', hother', -, hflight⟩ := getElem?_set_same hi hj
    exact hflight ▸ hI.known j other' hother'
  unused := hI.unused
  running flight j hflight := by
    obtain ⟨other, hj, hpc, hf⟩ := hI.running flight j hflight
    refine ⟨other, (List.getElem?_set_ne ?_).trans hj, hpc, hf⟩
    rintro rfl
    rw [hi, Option.some.injEq] at hj
    exact hload (hj ▸ hpc)
  loading j other hj hpc := by
    rcases getElem?_set_cases hi hj with ⟨rfl, rfl⟩ | ⟨hne, hj⟩
    · cases hpc
    · exact hI.loading j other hj hpc
  result j other value hj hvalue := by
    rcases getElem?_set_cases hi hj with ⟨rfl, rfl⟩ | ⟨hne, hj⟩
    · exact hI.result j caller value hi (hresult value hvalue)
    · exact hI.result j other value hj hvalue

theorem getElem?_append_cases {callers : List Caller} {new found : Caller} {j : Nat}
    (h : (callers ++ [new])[j]? = some found) : callers[j]? = some found ∨ j = callers.length ∧ found = new := by
  rcases Nat.lt_or_ge j callers.length with hlt | hge
  · rw [List.getElem?_append_left hlt] at h
    exact Or.inl h
  · rw [List.getElem?_append_right hge] at h
    obtain ⟨hzero, hfound⟩ := List.getElem?_eq_some_iff.mp h
    have hj : j = callers.length := by simp at hzero; omega
    subst hj
    simp at hfound
    exact Or.inr ⟨rfl, hfound.symm⟩

theorem getElem?_append_old {callers : List Caller} {new found : Caller} {j : Nat} (h : callers[j]? = some found) :
    (callers ++ [new])[j]? = some found := by
  obtain ⟨hlt, -⟩ := List.getElem?_eq_some_iff.mp h
  rw [List.getElem?_append_left hlt, h]

/-- A caller arrives, and its flight is in the map. -/
theorem inv_arrive {kid : String} {flight : Nat} {t : State} (hI : Inv s)
    (hcallers : t.callers = s.callers ++ [⟨kid, flight, .waiting⟩]) (hown : t.flights kid = some flight)
    (hothers : ∀ k, k ≠ kid → t.flights k = s.flights k)
    (hsame : ∀ (i : Nat) (caller : Caller), s.callers[i]? = some caller → caller.kid = kid → caller.holds = true →
      caller.flight = flight)
    (hkids : ∀ (i : Nat) (caller : Caller), s.callers[i]? = some caller → caller.flight = flight → caller.kid = kid)
    (hnext : s.next ≤ t.next) (hflight : flight < t.next) (hcells : ∀ f, t.cells f = s.cells f) : Inv t where
  entry k f hf := by
    by_cases hk : k = kid
    · subst hk
      rw [hown, Option.some.injEq] at hf
      exact ⟨s.callers.length, ⟨k, flight, .waiting⟩, by rw [hcallers]; simp, rfl, rfl, hf⟩
    · rw [hothers k hk] at hf
      obtain ⟨i, caller, hi, hholds, hkid, hcf⟩ := hI.entry k f hf
      exact ⟨i, caller, hcallers ▸ getElem?_append_old hi, hholds, hkid, hcf⟩
  held i caller hi hholds := by
    rw [hcallers] at hi
    rcases getElem?_append_cases hi with hi | ⟨-, rfl⟩
    · by_cases hk : caller.kid = kid
      · rw [hk, hown, hsame i caller hi hk hholds]
      · rw [hothers _ hk]
        exact hI.held i caller hi hholds
    · exact hown
  kids i j caller other hi hj hf := by
    rw [hcallers] at hi hj
    rcases getElem?_append_cases hi with hi | ⟨-, rfl⟩
    · rcases getElem?_append_cases hj with hj | ⟨-, rfl⟩
      · exact hI.kids i j caller other hi hj hf
      · exact hkids i caller hi hf
    · rcases getElem?_append_cases hj with hj | ⟨-, rfl⟩
      · exact (hkids j other hj hf.symm).symm
      · rfl
  known i caller hi := by
    rw [hcallers] at hi
    rcases getElem?_append_cases hi with hi | ⟨-, rfl⟩
    · exact Nat.lt_of_lt_of_le (hI.known i caller hi) hnext
    · exact hflight
  unused f hf := (hcells f).trans (hI.unused f (Nat.le_trans hnext hf))
  running f i hf := by
    rw [hcells] at hf
    obtain ⟨caller, hi, hpc, hcf⟩ := hI.running f i hf
    exact ⟨caller, hcallers ▸ getElem?_append_old hi, hpc, hcf⟩
  loading i caller hi hpc := by
    rw [hcallers] at hi
    rcases getElem?_append_cases hi with hi | ⟨-, rfl⟩
    · rw [hcells]
      exact hI.loading i caller hi hpc
    · cases hpc
  result i caller value hi hvalue := by
    rw [hcallers] at hi
    rcases getElem?_append_cases hi with hi | ⟨-, rfl⟩
    · rw [hcells]
      exact hI.result i caller value hi hvalue
    · cases hvalue

/-- A new caller joins the flight of the map, or starts one. -/
theorem acquire_cases (hI : Inv s) (kid : String) :
    ∃ flight, (s.acquire kid).callers = s.callers ++ [⟨kid, flight, .waiting⟩] ∧
    (s.flights kid = some flight ∧ s.acquire kid = { s with callers := s.callers ++ [⟨kid, flight, .waiting⟩] } ∨
      s.flights kid = none ∧ flight = s.next ∧
      (s.acquire kid).flights = (fun k => if k = kid then some s.next else s.flights k) ∧
      (s.acquire kid).next = s.next + 1 ∧ ∀ f, (s.acquire kid).cells f = s.cells f) := by
  unfold State.acquire
  rw [retained_eq hI]
  cases hflight : s.flights kid with
  | some flight => exact ⟨flight, rfl, Or.inl ⟨rfl, rfl⟩⟩
  | none =>
    refine ⟨s.next, rfl, Or.inr ⟨rfl, rfl, rfl, rfl, fun f => ?_⟩⟩
    show (if f = s.next then Cell.empty else s.cells f) = s.cells f
    split
    · rename_i hf
      exact (hI.unused f (Nat.le_of_eq hf.symm)).symm
    · rfl

theorem inv_acquire (hI : Inv s) (kid : String) : Inv (s.acquire kid) := by
  obtain ⟨flight, hcallers, ⟨hflight, hsame⟩ | ⟨hnone, rfl, hflights, hnext, hcells⟩⟩ := acquire_cases hI kid
  · obtain ⟨j, other, hj, hother, hkid, hf⟩ := hI.entry kid flight hflight
    refine inv_arrive hI hcallers (by rw [hsame]; exact hflight) (fun k _ => by rw [hsame]) ?_ ?_
      (Nat.le_of_eq (by rw [hsame])) (by rw [hsame]; exact hf ▸ hI.known j other hj) (fun f => by rw [hsame])
    · intro i caller hi hk hholds
      have hheld := hI.held i caller hi hholds
      rw [hk, hflight, Option.some.injEq] at hheld
      exact hheld.symm
    · intro i caller hi hcf
      exact (hI.kids i j caller other hi hj (hcf.trans hf.symm)).trans hkid
  · refine inv_arrive hI hcallers (by rw [hflights]; exact if_pos rfl) (fun k hk => by rw [hflights]; exact if_neg hk)
      ?_ ?_ (by omega) (by omega) hcells
    · intro i caller hi hk hholds
      have hheld := hI.held i caller hi hholds
      rw [hk, hnone] at hheld
      cases hheld
    · intro i caller hi hcf
      exact absurd (hI.known i caller hi) (by omega)

theorem inv_step {action : Action} (hI : Inv s) (h : step s action = some s') : Inv s' := by
  cases action with
  | acquire kid =>
    cases h
    exact inv_acquire hI kid
  | beginLoad i =>
    obtain ⟨caller, hi, h⟩ := Option.bind_eq_some_iff.mp h
    split at h
    · rename_i hpc hcell
      cases h
      refine inv_update hI hi (by simp [Caller.holds, hpc]) rfl (Or.inr (Or.inl hcell)) ?_ (fun _ => rfl)
        (fun _ hr => nomatch hr)
      intro j hj
      cases hj
      exact Or.inr ⟨rfl, rfl⟩
    · cases h
  | complete i result =>
    obtain ⟨caller, hi, h⟩ := Option.bind_eq_some_iff.mp h
    split at h
    · rename_i hpc
      cases h
      refine inv_update hI hi (by simp [Caller.holds, hpc]) rfl (Or.inr (Or.inr (hI.loading i caller hi hpc)))
        (fun _ hj => nomatch hj) (fun hpc' => nomatch hpc') ?_
      intro value hvalue
      cases hvalue
      rfl
    · cases h
  | observe i =>
    obtain ⟨caller, hi, h⟩ := Option.bind_eq_some_iff.mp h
    split at h
    · rename_i result hpc hcell
      cases h
      refine inv_update hI hi (by simp [Caller.holds, hpc]) rfl (Or.inl hcell.symm) (fun _ hj => nomatch hj)
        (fun hpc' => nomatch hpc') ?_
      intro value hvalue
      cases hvalue
      rw [sharedResult_ofShared]
    · cases h
  | cancel i =>
    obtain ⟨caller, hi, h⟩ := Option.bind_eq_some_iff.mp h
    split at h
    · rename_i hpc
      cases h
      refine inv_update hI hi (by simp [Caller.holds, hpc]) rfl (Or.inl rfl) ?_ (fun hpc' => nomatch hpc')
        (fun _ hr => nomatch hr)
      intro j hj
      refine Or.inl ⟨?_, hj⟩
      rintro rfl
      obtain ⟨found, hfound, hload, -⟩ := hI.running _ _ hj
      rw [hi, Option.some.injEq] at hfound
      rw [← hfound, hpc] at hload
      cases hload
    · rename_i hpc
      cases h
      exact inv_update hI hi (by simp [Caller.holds, hpc]) rfl (Or.inr (Or.inr (hI.loading i caller hi hpc)))
        (fun _ hj => nomatch hj) (fun hpc' => nomatch hpc') (fun _ hr => nomatch hr)
    · cases h
  | release i =>
    obtain ⟨caller, hi, h⟩ := Option.bind_eq_some_iff.mp h
    split at h
    · rename_i result hpc
      cases h
      refine inv_release hI hi (by simp [Caller.holds, hpc]) (by simp [hpc]) ?_
      intro value hvalue
      cases hvalue
      simp [hpc, Pc.result]
    · rename_i hpc
      cases h
      exact inv_release hI hi (by simp [Caller.holds, hpc]) (by simp [hpc]) (fun _ hvalue => nomatch hvalue)
    · cases h

/-! ## Exactness -/

/-- A cell that is full stays full. -/
theorem full_step {action : Action} {flight : Nat} {result : SharedKeyLoadResult} (hI : Inv s)
    (hfull : s.cells flight = .full result) (h : step s action = some s') : s'.cells flight = .full result := by
  have hupdate : ∀ {i : Nat} {caller : Caller} {pc : Pc} {cell : Cell},
      (caller.flight = flight → cell = .full result) → (s.update i caller pc cell).cells flight = .full result := by
    intro i caller pc cell hcell
    show (if flight = caller.flight then cell else s.cells flight) = .full result
    split
    · rename_i hf
      exact hcell hf.symm
    · exact hfull
  cases action with
  | acquire kid =>
    cases h
    obtain ⟨_, -, ⟨-, hsame⟩ | ⟨-, -, -, -, hcells⟩⟩ := acquire_cases hI kid
    · rw [hsame]
      exact hfull
    · rw [hcells]
      exact hfull
  | beginLoad i =>
    obtain ⟨caller, hi, h⟩ := Option.bind_eq_some_iff.mp h
    split at h
    · rename_i hpc hcell
      cases h
      refine hupdate fun hf => ?_
      rw [hf, hfull] at hcell
      cases hcell
    · cases h
  | complete i value =>
    obtain ⟨caller, hi, h⟩ := Option.bind_eq_some_iff.mp h
    split at h
    · rename_i hpc
      cases h
      refine hupdate fun hf => ?_
      have hrun := hI.loading i caller hi hpc
      rw [hf, hfull] at hrun
      cases hrun
    · cases h
  | observe i =>
    obtain ⟨caller, hi, h⟩ := Option.bind_eq_some_iff.mp h
    split at h
    · rename_i value hpc hcell
      cases h
      refine hupdate fun hf => ?_
      rw [← hcell, hf, hfull]
    · cases h
  | cancel i =>
    obtain ⟨caller, hi, h⟩ := Option.bind_eq_some_iff.mp h
    split at h
    · cases h
      refine hupdate fun hf => ?_
      rw [hf, hfull]
    · rename_i hpc
      cases h
      refine hupdate fun hf => ?_
      have hrun := hI.loading i caller hi hpc
      rw [hf, hfull] at hrun
      cases hrun
    · cases h
  | release i =>
    obtain ⟨caller, hi, h⟩ := Option.bind_eq_some_iff.mp h
    split at h
    · cases h
      exact hfull
    · cases h
      exact hfull
    · cases h

/-- What holds between any two steps. -/
structure Exact (s : State) : Prop where
  oneLoader : ∀ (i j : Nat) (caller other : Caller), s.callers[i]? = some caller → s.callers[j]? = some other →
    caller.pc = .loading → other.pc = .loading → caller.kid = other.kid → i = j
  result : ∀ (i : Nat) (caller : Caller) result, s.callers[i]? = some caller → caller.pc.result = some result →
    s.cells caller.flight = .full (sharedResult result)
  observes : ∀ (i : Nat) (caller : Caller) result, s.callers[i]? = some caller → caller.pc = .waiting →
    s.cells caller.flight = .full result → step s (.beginLoad i) = none ∧ ∃ s', step s (.observe i) = some s' ∧
      s'.callers[i]? = some { caller with pc := .returning (ofShared result) }
  stays : ∀ action s' flight result, step s action = some s' → s.cells flight = .full result →
  s'.cells flight = .full result
  noReuse : ∀ kid s', step s (.acquire kid) = some s' → ∃ flight, s'.callers = s.callers ++ [⟨kid, flight, .waiting⟩] ∧
    ((∃ caller ∈ s.callers, caller.holds = true ∧ caller.flight = flight) ∨
      s'.cells flight = .empty ∧ ∀ caller ∈ s.callers, caller.flight ≠ flight)
  lateDrop : ∀ (i : Nat) s' (caller : Caller) kid flight, step s (.release i) = some s' → s.callers[i]? = some caller →
    s.flights kid = some flight → flight ≠ caller.flight → s'.flights kid = some flight
  idle : (∀ caller ∈ s.callers, caller.holds = false) → ∀ kid, s.flights kid = none

theorem oneLoader_of_inv (hI : Inv s) {i j : Nat} {caller other : Caller} (hi : s.callers[i]? = some caller)
    (hj : s.callers[j]? = some other) (hload : caller.pc = .loading) (hload' : other.pc = .loading)
    (hkid : caller.kid = other.kid) : i = j := by
  have hheld := hI.held i caller hi (by simp [Caller.holds, hload])
  have hheld' := hI.held j other hj (by simp [Caller.holds, hload'])
  rw [hkid, hheld', Option.some.injEq] at hheld
  have hrun := hI.loading i caller hi hload
  rw [← hheld, hI.loading j other hj hload', Cell.running.injEq] at hrun
  exact hrun.symm

theorem observes_of_full {result : SharedKeyLoadResult} (hi : s.callers[i]? = some caller) (hpc : caller.pc = .waiting)
    (hfull : s.cells caller.flight = .full result) : step s (.beginLoad i) = none ∧
    ∃ s', step s (.observe i) = some s' ∧
      s'.callers[i]? = some { caller with pc := .returning (ofShared result) } := by
  constructor
  · simp [step, hi, hpc, hfull]
  · refine ⟨s.update i caller (.returning (ofShared result)) (.full result), ?_, getElem?_set_self' hi⟩
    simp [step, hi, hpc, hfull]

theorem noReuse_of_inv (hI : Inv s) {kid : String} (h : step s (.acquire kid) = some s') :
    ∃ flight, s'.callers = s.callers ++ [⟨kid, flight, .waiting⟩] ∧
      ((∃ caller ∈ s.callers, caller.holds = true ∧ caller.flight = flight) ∨
        s'.cells flight = .empty ∧ ∀ caller ∈ s.callers, caller.flight ≠ flight) := by
  cases h
  obtain ⟨flight, hcallers, ⟨hflight, -⟩ | ⟨-, rfl, -, -, hcells⟩⟩ := acquire_cases hI kid
  · obtain ⟨i, caller, hi, hholds, -, hf⟩ := hI.entry kid flight hflight
    exact ⟨flight, hcallers, Or.inl ⟨caller, List.mem_of_getElem? hi, hholds, hf⟩⟩
  · refine ⟨s.next, hcallers, Or.inr ⟨(hcells _).trans (hI.unused _ (Nat.le_refl _)), fun caller hmem => ?_⟩⟩
    obtain ⟨i, hi⟩ := List.mem_iff_getElem?.mp hmem
    exact Nat.ne_of_lt (hI.known i caller hi)

theorem lateDrop_of_inv (hI : Inv s) {kid : String} {flight : Nat} (h : step s (.release i) = some s')
    (hi : s.callers[i]? = some caller) (hflight : s.flights kid = some flight) (hne : flight ≠ caller.flight) :
    s'.flights kid = some flight := by
  have hkept : ∀ result, caller.holds = true → (s.release i caller result).flights kid = some flight := by
    intro result hholds
    obtain ⟨j, other, hj, hother, hk, hf⟩ := hI.entry kid flight hflight
    refine (release_flights result hI hi hholds kid flight).mpr ⟨hflight, j, other, ?_, hj, hother, hk, hf⟩
    rintro rfl
    rw [hi, Option.some.injEq] at hj
    exact hne (hj ▸ hf.symm)
  obtain ⟨found, hfound, h⟩ := Option.bind_eq_some_iff.mp h
  rw [hi, Option.some.injEq] at hfound
  subst hfound
  split at h
  · rename_i result hpc
    cases h
    exact hkept _ (by simp [Caller.holds, hpc])
  · rename_i hpc
    cases h
    exact hkept _ (by simp [Caller.holds, hpc])
  · cases h

theorem idle_of_inv (hI : Inv s) (h : ∀ caller ∈ s.callers, caller.holds = false) (kid : String) :
    s.flights kid = none := by
  cases hflight : s.flights kid with
  | none => rfl
  | some flight =>
    obtain ⟨i, caller, hi, hholds, -, -⟩ := hI.entry kid flight hflight
    rw [h caller (List.mem_of_getElem? hi)] at hholds
    cases hholds

/-- In every run, between any two steps: one loader for each kid, one result for each flight, and no flight that
outlives its callers. -/
theorem singleflight_exact {actions : List Action} (hrun : Run.run step .initial actions = some s) : Exact s := by
  have hI : Inv s := Run.run_inv (fun _ _ _ hI h => inv_step hI h) inv_initial hrun
  exact ⟨fun _ _ _ _ hi hj hload hload' hkid => oneLoader_of_inv hI hi hj hload hload' hkid, hI.result,
    fun _ _ _ hi hpc hfull => observes_of_full hi hpc hfull, fun _ _ _ _ h hfull => full_step hI hfull h,
    fun _ _ h => noReuse_of_inv hI h, fun _ _ _ _ _ h hi hflight hne => lateDrop_of_inv hI h hi hflight hne,
      idle_of_inv hI⟩

/-- The first of two callers is cancelled while it loads, and the second takes over and fails. -/
def takeoverRun : List Action :=
  [.acquire "k", .acquire "k", .beginLoad 0, .cancel 0, .beginLoad 1, .release 0, .complete 1 (.error (.other "down")),
    .release 1]

theorem singleflight_exact_takeover : ∃ s, Run.run step .initial takeoverRun = some s ∧ s.flights "k" = none ∧
    Exact s := by
  obtain ⟨s, hs⟩ : ∃ s, Run.run step .initial takeoverRun = some s := ⟨_, rfl⟩
  have hview : (Run.run step .initial takeoverRun).map (fun s => s.flights "k") = some none := rfl
  rw [hs, Option.map_some, Option.some.injEq] at hview
  exact ⟨s, hs, hview, singleflight_exact hs⟩

end Vectis.Io.Http.KeyLoad
