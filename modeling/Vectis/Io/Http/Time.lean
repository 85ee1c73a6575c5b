import Mathlib.Logic.Function.Basic
import Vectis.Lib.I64
import Vectis.Lib.Run

/-!
# Throttling of time attestation

`admit` of `io/http/time.rs` reads the shared slot, compares, and swaps its own time in, again after every failed swap.
The calls of the server are steps of one system, in any order:

- `step`: one load, one comparison or one `compare_exchange_weak` of one call; a weak swap may also fail spuriously;
- `Inv`: what the slot and the value that a call holds say about the calls admitted so far;
- `admit_throttles`: in every run the admitted times are an interval apart and every denial has its reason.
-/

namespace Vectis.Io.Http.Time

/-! ## The calls -/

/-- Where a call of `admit` stands. -/
inductive Pc
  | start
  /-- At the head of the loop, with `last`. -/
  | loaded (last : Int64)
  /-- Before the swap. -/
  | checked (last : Int64)
  | admitted
  | denied
  deriving DecidableEq, Repr

/-- The slot, the calls, and the calls that returned, in the order of their last step, with what they return. -/
structure State (ι : Type) where
  slot : Int64
  pc : ι → Pc
  returned : List (ι × Bool)

variable {ι : Type}

/-- `ATTEST_SLOT` starts at `i64::MIN`. -/
def State.init : State ι := ⟨Int64.minValue, fun _ => .start, []⟩

inductive Action (ι : Type)
  | load (call : ι)
  | check (call : ι)
  | swap (call : ι) (spurious : Bool)
  deriving DecidableEq, Repr

/-- The admitted calls, in the order of their swaps. -/
def admittedCalls (returned : List (ι × Bool)) : List ι := (returned.filter Prod.snd).map Prod.fst

variable [DecidableEq ι]

/-- One atomic step of a call; `now` gives the times of the calls. -/
def step (now : ι → Int64) (interval : Int64) (s : State ι) : Action ι → Option (State ι)
  | .load call =>
    match s.pc call with
    | .start => some { s with pc := Function.update s.pc call (.loaded s.slot) }
    | _ => none
  | .check call =>
    match s.pc call with
    | .loaded last =>
      if I64.saturatingSub (now call) last < interval then
        some { s with pc := Function.update s.pc call .denied, returned := s.returned ++ [(call, false)] }
      else some { s with pc := Function.update s.pc call (.checked last) }
    | _ => none
  | .swap call spurious =>
    match s.pc call with
    | .checked last =>
      if s.slot = last ∧ spurious = false then
        some ⟨now call, Function.update s.pc call .admitted, s.returned ++ [(call, true)]⟩
      else some { s with pc := Function.update s.pc call (.loaded s.slot) }
    | _ => none

variable {now : ι → Int64} {interval : Int64}

/-- What a step can do. -/
theorem step_cases {s s' : State ι} {action : Action ι} (h : step now interval s action = some s') :
    (∃ call, action = .load call ∧ s.pc call = .start ∧
      s' = { s with pc := Function.update s.pc call (.loaded s.slot) }) ∨
    (∃ call last, action = .check call ∧ s.pc call = .loaded last ∧ I64.saturatingSub (now call) last < interval ∧
      s' = { s with pc := Function.update s.pc call .denied, returned := s.returned ++ [(call, false)] }) ∨
    (∃ call last, action = .check call ∧ s.pc call = .loaded last ∧ ¬I64.saturatingSub (now call) last < interval ∧
      s' = { s with pc := Function.update s.pc call (.checked last) }) ∨
    (∃ call spurious, action = .swap call spurious ∧ s.pc call = .checked s.slot ∧
      s' = ⟨now call, Function.update s.pc call .admitted, s.returned ++ [(call, true)]⟩) ∨
    (∃ call spurious last, action = .swap call spurious ∧ s.pc call = .checked last ∧
      s' = { s with pc := Function.update s.pc call (.loaded s.slot) }) := by
  cases action with
  | load call =>
    simp only [step] at h
    split at h
    · rename_i hpc
      exact .inl ⟨call, rfl, hpc, (Option.some.inj h).symm⟩
    · cases h
  | check call =>
    simp only [step] at h
    split at h
    · rename_i last hpc
      split at h
      · rename_i hlt
        exact .inr (.inl ⟨call, last, rfl, hpc, hlt, (Option.some.inj h).symm⟩)
      · rename_i hge
        exact .inr (.inr (.inl ⟨call, last, rfl, hpc, hge, (Option.some.inj h).symm⟩))
    · cases h
  | swap call spurious =>
    simp only [step] at h
    split at h
    · rename_i last hpc
      split at h
      · rename_i hsame
        obtain ⟨hslot, -⟩ := hsame
        rw [← hslot] at hpc
        exact .inr (.inr (.inr (.inl ⟨call, spurious, rfl, hpc, (Option.some.inj h).symm⟩)))
      · exact .inr (.inr (.inr (.inr ⟨call, spurious, last, rfl, hpc, (Option.some.inj h).symm⟩)))
    · cases h

/-! ## The invariant -/

/-- The time of an admitted call, or what the slot held at the start. -/
def Known (now : ι → Int64) (returned : List (ι × Bool)) (value : Int64) : Prop :=
  value = Int64.minValue ∨ ∃ call ∈ admittedCalls returned, value = now call

/-- The denial of `call` has a reason: a call admitted before it, less than an interval earlier, or later. -/
def Reason (now : ι → Int64) (interval : Int64) (before : List (ι × Bool)) (call : ι) : Prop :=
  ∃ other ∈ admittedCalls before, (now call).toInt - interval.toInt < (now other).toInt

structure Inv (now : ι → Int64) (interval : Int64) (s : State ι) : Prop where
  slot : Known now s.returned s.slot
  below : ∀ call ∈ admittedCalls s.returned, (now call).toInt ≤ s.slot.toInt
  spaced : (admittedCalls s.returned).Pairwise fun c d => (now c).toInt + interval.toInt ≤ (now d).toInt
  held : ∀ call last, s.pc call = .loaded last ∨ s.pc call = .checked last → Known now s.returned last
  passed : ∀ call last, s.pc call = .checked last → interval.toInt ≤ (now call).toInt - last.toInt
  admitted : ∀ call, s.pc call = .admitted ↔ (call, true) ∈ s.returned
  denied : ∀ call, s.pc call = .denied ↔ (call, false) ∈ s.returned
  reasons : ∀ before call after, s.returned = before ++ (call, false) :: after → Reason now interval before call

section

omit [DecidableEq ι]

theorem admittedCalls_append (returned : List (ι × Bool)) (call : ι) (result : Bool) :
    admittedCalls (returned ++ [(call, result)]) =
      if result then admittedCalls returned ++ [call] else admittedCalls returned := by
  cases result <;> simp [admittedCalls, List.filter_append]

theorem mem_admittedCalls {returned : List (ι × Bool)} {call : ι} :
    call ∈ admittedCalls returned ↔ (call, true) ∈ returned := by
  simp [admittedCalls]

theorem Known.append {returned : List (ι × Bool)} {value : Int64} (h : Known now returned value) (entry : ι × Bool) :
    Known now (returned ++ [entry]) value := by
  obtain h | ⟨call, hcall, h⟩ := h
  · exact .inl h
  · exact .inr ⟨call, mem_admittedCalls.mpr (List.mem_append_left _ (mem_admittedCalls.mp hcall)), h⟩

theorem inv_init : Inv now interval (State.init : State ι) where
  slot := .inl rfl
  below := by simp [State.init, admittedCalls]
  spaced := by simp [State.init, admittedCalls]
  held := by simp [State.init]
  passed := by simp [State.init]
  admitted := by simp [State.init]
  denied := by simp [State.init]
  reasons := by simp [State.init]

/-- A denied call holds the time of an admitted one: against the start value no time of the epoch is denied. -/
theorem reason_of_lt {returned : List (ι × Bool)} {call : ι} {last : Int64} (hpos : 0 < interval.toInt)
    (hnow : 0 ≤ (now call).toInt) (hknown : Known now returned last)
    (hlt : I64.saturatingSub (now call) last < interval) : Reason now interval returned call := by
  rw [I64.saturatingSub_lt hpos] at hlt
  obtain rfl | ⟨other, hother, rfl⟩ := hknown
  · have := interval.toInt_lt
    rw [Int64.toInt_minValue] at hlt
    omega
  · exact ⟨other, hother, by omega⟩

/-- The reasons of the earlier denials stay, and a last entry that is a denial needs its own. -/
theorem reasons_append {returned : List (ι × Bool)} {call : ι} {result : Bool}
    (h : ∀ before call after, returned = before ++ (call, false) :: after → Reason now interval before call)
    (hnew : result = false → Reason now interval returned call) :
    ∀ before other after, returned ++ [(call, result)] = before ++ (other, false) :: after →
      Reason now interval before other := by
  intro before other after heq
  rcases List.eq_nil_or_concat after with rfl | ⟨after', entry, rfl⟩
  · obtain ⟨rfl, hentry⟩ := List.append_inj' heq rfl
    simp only [List.cons.injEq, Prod.mk.injEq, and_true] at hentry
    obtain ⟨rfl, hres⟩ := hentry
    exact hnew hres
  · rw [List.concat_eq_append, ← List.cons_append, ← List.append_assoc] at heq
    exact h before other after' (List.append_inj' heq rfl).1

end

/-- A step of a call inside the loop, to a value that is known. -/
theorem Inv.move {s : State ι} (hi : Inv now interval s) {call : ι} {pc : Pc}
    (hfrom : s.pc call ≠ .admitted ∧ s.pc call ≠ .denied) (hto : pc ≠ .admitted ∧ pc ≠ .denied)
    (hheld : ∀ last, pc = .loaded last ∨ pc = .checked last → Known now s.returned last)
    (hpassed : ∀ last, pc = .checked last → interval.toInt ≤ (now call).toInt - last.toInt) :
    Inv now interval { s with pc := Function.update s.pc call pc } where
  slot := hi.slot
  below := hi.below
  spaced := hi.spaced
  reasons := hi.reasons
  held other last h := by
    by_cases he : other = call
    · subst he
      simp only [Function.update_self] at h
      exact hheld last h
    · simp only [Function.update_of_ne he] at h
      exact hi.held other last h
  passed other last h := by
    by_cases he : other = call
    · subst he
      simp only [Function.update_self] at h
      exact hpassed last h
    · simp only [Function.update_of_ne he] at h
      exact hi.passed other last h
  admitted other := by
    by_cases he : other = call
    · subst he
      simp only [Function.update_self, ← hi.admitted, hto.1, hfrom.1]
    · simp only [Function.update_of_ne he, hi.admitted]
  denied other := by
    by_cases he : other = call
    · subst he
      simp only [Function.update_self, ← hi.denied, hto.2, hfrom.2]
    · simp only [Function.update_of_ne he, hi.denied]

/-- What a call that returns changes beside the list. -/
theorem Inv.pc_return {s : State ι} (hi : Inv now interval s) (call : ι) (result : Bool) {pc : Pc}
    (hpc : pc = if result then .admitted else .denied) (hfrom : s.pc call ≠ .admitted ∧ s.pc call ≠ .denied) :
    (∀ other, Function.update s.pc call pc other = .admitted ↔ (other, true) ∈ s.returned ++ [(call, result)]) ∧
      ∀ other, Function.update s.pc call pc other = .denied ↔ (other, false) ∈ s.returned ++ [(call, result)] := by
  have hnotin : ∀ r, (call, r) ∉ s.returned := by
    intro r hmem
    cases r with
    | true => exact hfrom.1 ((hi.admitted call).mpr hmem)
    | false => exact hfrom.2 ((hi.denied call).mpr hmem)
  constructor
  all_goals
    intro other
    by_cases he : other = call
    · subst he
      cases result <;> simp [hpc, hnotin]
    · simp [hi.admitted, hi.denied, he]

/-- The values that calls hold stay known when a call returns. -/
theorem Inv.held_return {s : State ι} (hi : Inv now interval s) {call : ι} {pc : Pc} {entry : ι × Bool}
    (hpc : pc = .admitted ∨ pc = .denied) {other : ι} {last : Int64}
    (h : Function.update s.pc call pc other = .loaded last ∨ Function.update s.pc call pc other = .checked last) :
    Known now (s.returned ++ [entry]) last := by
  by_cases he : other = call
  · subst he
    rw [Function.update_self] at h
    obtain rfl | rfl := hpc <;> simp at h
  · rw [Function.update_of_ne he] at h
    exact (hi.held other last h).append entry

theorem Inv.passed_return {s : State ι} (hi : Inv now interval s) {call : ι} {pc : Pc}
    (hpc : pc = .admitted ∨ pc = .denied) {other : ι} {last : Int64}
    (h : Function.update s.pc call pc other = .checked last) : interval.toInt ≤ (now other).toInt - last.toInt := by
  by_cases he : other = call
  · subst he
    rw [Function.update_self] at h
    obtain rfl | rfl := hpc <;> simp at h
  · rw [Function.update_of_ne he] at h
    exact hi.passed other last h

/-- Every step keeps the invariant. -/
theorem step_inv (hpos : 0 < interval.toInt) (hnow : ∀ call, 0 ≤ (now call).toInt) {s s' : State ι} {action : Action ι}
    (hi : Inv now interval s) (h : step now interval s action = some s') : Inv now interval s' := by
  obtain ⟨call, -, hpc, rfl⟩ | ⟨call, last, -, hpc, hlt, rfl⟩ | ⟨call, last, -, hpc, hge, rfl⟩ |
    ⟨call, spurious, -, hpc, rfl⟩ | ⟨call, spurious, last, -, hpc, rfl⟩ := step_cases h
  · exact hi.move (by simp [hpc]) (by simp) (by rintro last (h | h) <;> cases h; exact hi.slot) (by simp)
  · have hreturn := hi.pc_return call false rfl (by simp [hpc])
    have hreason := reason_of_lt hpos (hnow call) (hi.held call last (.inl hpc)) hlt
    have hsame : admittedCalls (s.returned ++ [(call, false)]) = admittedCalls s.returned := by
      simp [admittedCalls_append]
    exact ⟨hi.slot.append _, by simpa only [hsame] using hi.below, by simpa only [hsame] using hi.spaced,
      fun _ _ => hi.held_return (.inr rfl), fun _ _ => hi.passed_return (.inr rfl), hreturn.1, hreturn.2,
      reasons_append hi.reasons fun _ => hreason⟩
  · rw [I64.saturatingSub_lt hpos] at hge
    exact hi.move (by simp [hpc]) (by simp) (by rintro _ (h | h) <;> cases h; exact hi.held call last (.inl hpc))
      (by rintro _ ⟨⟩; omega)
  · have hreturn := hi.pc_return call true rfl (by simp [hpc])
    have hgap := hi.passed call s.slot hpc
    have hadd : admittedCalls (s.returned ++ [(call, true)]) = admittedCalls s.returned ++ [call] := by
      simp [admittedCalls_append]
    refine ⟨.inr ⟨call, ?_, rfl⟩, ?_, ?_, fun _ _ => hi.held_return (.inl rfl), fun _ _ => hi.passed_return (.inl rfl),
      hreturn.1, hreturn.2, reasons_append hi.reasons (by simp)⟩
    · simp [hadd]
    · intro other hother
      rw [hadd, List.mem_append, List.mem_singleton] at hother
      obtain hother | rfl := hother
      · have := hi.below other hother
        change (now other).toInt ≤ (now call).toInt
        omega
      · exact Int.le_refl _
    · rw [hadd, List.pairwise_append]
      refine ⟨hi.spaced, List.pairwise_singleton _ _, fun other hother last hlast => ?_⟩
      rw [List.mem_singleton.mp hlast]
      have := hi.below other hother
      omega
  · exact hi.move (by simp [hpc]) (by simp) (by rintro last (h | h) <;> cases h; exact hi.slot) (by simp)

/-! ## Throttling -/

/-- In every interleaving of any calls, with clocks in any order: the admitted times, in the order of their swaps, grow
by at least the interval, every denied call was denied after a call that was admitted with a time greater than its own
minus the interval, and the differences that the calls compare are exact up to saturation at the greatest value. -/
theorem admit_throttles (now : ι → Int64) (interval : Int64) (hpos : 0 < interval.toInt)
    (hnow : ∀ call, 0 ≤ (now call).toInt) {actions : List (Action ι)} {s : State ι}
    (h : Run.run (step now interval) State.init actions = some s) :
    (admittedCalls s.returned).Pairwise (fun c d => (now c).toInt + interval.toInt ≤ (now d).toInt) ∧
    (∀ call, s.pc call = .admitted ↔ call ∈ admittedCalls s.returned) ∧
    (∀ call, s.pc call = .denied → ∃ before after, s.returned = before ++ (call, false) :: after ∧
      ∃ other ∈ admittedCalls before, (now call).toInt - interval.toInt < (now other).toInt) ∧
    ∀ call last, s.pc call = .loaded last →
      (I64.saturatingSub (now call) last).toInt = min ((now call).toInt - last.toInt) (2 ^ 63 - 1) ∧
      (last ≠ Int64.minValue → (I64.saturatingSub (now call) last).toInt = (now call).toInt - last.toInt) := by
  have hi : Inv now interval s := Run.run_inv (fun _ _ _ hi hs => step_inv hpos hnow hi hs) inv_init h
  refine ⟨hi.spaced, fun call => (hi.admitted call).trans mem_admittedCalls.symm, fun call hdenied => ?_,
    fun call last hlast => ?_⟩
  · obtain ⟨before, after, hsplit⟩ := List.append_of_mem ((hi.denied call).mp hdenied)
    exact ⟨before, after, hsplit, hi.reasons before call after hsplit⟩
  · have hcall := hnow call
    have hhigh := (now call).toInt_lt
    have hlast_lt := last.toInt_lt
    rw [I64.toInt_saturatingSub]
    refine ⟨by omega, fun hne => ?_⟩
    obtain rfl | ⟨other, -, rfl⟩ := hi.held call last (.inl hlast)
    · exact absurd rfl hne
    · have := hnow other
      omega

/-- The times of two calls. -/
def exampleNow (call : Bool) : Int64 := if call then 10500000 else 10000000

/-- Both calls load the slot at its start; the second one is beaten to the swap and denied at its second comparison. -/
theorem admit_throttles_example :
    ∃ s : State Bool, Run.run (step exampleNow 1000000) State.init
        [.load false, .load true, .check false, .check true, .swap false true, .check false, .swap false false,
          .swap true false, .check true] = some s ∧
      s.returned = [(false, true), (true, false)] ∧ s.pc true = .denied ∧
      ∃ before after, s.returned = before ++ (true, false) :: after ∧
        ∃ other ∈ admittedCalls before, 10500000 - 1000000 < (exampleNow other).toInt := by
  obtain ⟨s, hrun, hreturned, hpc⟩ : ∃ s : State Bool, Run.run (step exampleNow 1000000) State.init
      [.load false, .load true, .check false, .check true, .swap false true, .check false, .swap false false,
        .swap true false, .check true] = some s ∧ s.returned = [(false, true), (true, false)] ∧ s.pc true = .denied :=
    ⟨_, rfl, rfl, rfl⟩
  exact ⟨s, hrun, hreturned, hpc, (admit_throttles exampleNow 1000000 (by decide) (by decide) hrun).2.2.1 true hpc⟩

end Vectis.Io.Http.Time
