import Vectis.Core.Error
import Vectis.Lib.Run
import Vectis.Lib.Semaphore

/-!
# Admission of crypto work

`CryptoLimiter` of `core/blocking.rs`: a call of `run` takes an execution permit, at once or after waiting in the
bounded queue until a deadline, and moves it into a blocking job. Calls, jobs, deadlines and cancellations are steps of
one system, in any order.

- `Call.next`: one step of one call, between two await points or inside the blocking pool;
- `next_execution`, `next_waiting`: what a step does to the two semaphores;
- `limiter_conserves`: in every run permits are kept, and a call that was turned away never runs its job.
-/

namespace Vectis.Core.Blocking

/-! ## The calls -/

structure CryptoLimiter where
  execution : Semaphore
  waiting : Semaphore
  timeout : Nat
  deriving DecidableEq, Repr

def CryptoLimiter.new (max queued timeout : Nat) : CryptoLimiter := ⟨⟨max⟩, ⟨queued⟩, timeout⟩

/-- A closure in the blocking pool. -/
inductive Job
  | queued
  | running
  /-- `f` has returned or panicked, and `_permit` is not dropped yet. -/
  | finished (panicked : Bool)
  | ended (panicked : Bool)
  deriving DecidableEq, Repr

inductive Caller
  | awaiting
  | returned
  | cancelled
  deriving DecidableEq, Repr

inductive CryptoRejection
  | full
  | timeout
  deriving DecidableEq, Repr

def CryptoRejection.error : CryptoRejection → DynError
  | full => .vectis (.overloaded "crypto queue full")
  | timeout => .vectis (.overloaded "crypto queue timeout")

/-- Where a call of `run` stands. -/
inductive Call
  | start
  /-- There was no execution permit. -/
  | noPermits
  /-- In `timeout_at`, with a queue position. -/
  | waiting (deadline : Nat)
  /-- `acquire` is about to return a permit or the timeout, and the position is not dropped yet. -/
  | granted
  | timedOut
  /-- `acquire` has returned the permit. -/
  | admitted
  | spawned (job : Job) (caller : Caller)
  | rejected (reason : CryptoRejection)
  /-- Dropped before its job was spawned. -/
  | cancelled
  deriving DecidableEq, Repr

/-- The steps of a call. A future is dropped at an await point only, or before its first poll. -/
inductive Event
  | tryExecution
  | tryWaiting
  | acquire
  | timeout
  | leave
  | spawn
  | startJob
  | finishJob (panicked : Bool)
  | dropPermit
  | join
  | cancel
  deriving DecidableEq, Repr

/-- A step of a call at the time `now`. The semaphores are never closed. -/
def Call.next (limiter : CryptoLimiter) (now : Nat) : Call → Event → Option (CryptoLimiter × Call)
  | start, .tryExecution =>
    match limiter.execution.tryAcquire with
    | some execution => some ({ limiter with execution := execution }, admitted)
    | none => some (limiter, noPermits)
  | noPermits, .tryWaiting =>
    match limiter.waiting.tryAcquire with
    | some positions => some ({ limiter with waiting := positions }, .waiting (now + limiter.timeout))
    | none => some (limiter, rejected .full)
  | waiting _, .acquire =>
    limiter.execution.tryAcquire.map fun execution => ({ limiter with execution := execution }, granted)
  | waiting deadline, .timeout => if deadline ≤ now then some (limiter, timedOut) else none
  | granted, .leave => some ({ limiter with waiting := limiter.waiting.release }, admitted)
  | timedOut, .leave => some ({ limiter with waiting := limiter.waiting.release }, rejected .timeout)
  | admitted, .spawn => some (limiter, spawned .queued .awaiting)
  | spawned .queued caller, .startJob => some (limiter, spawned .running caller)
  | spawned .running caller, .finishJob panicked => some (limiter, spawned (.finished panicked) caller)
  | spawned (.finished panicked) caller, .dropPermit =>
    some ({ limiter with execution := limiter.execution.release }, spawned (.ended panicked) caller)
  | spawned (.ended panicked) .awaiting, .join => some (limiter, spawned (.ended panicked) .returned)
  | start, .cancel => some (limiter, cancelled)
  | waiting _, .cancel => some ({ limiter with waiting := limiter.waiting.release }, cancelled)
  | spawned job .awaiting, .cancel => some (limiter, spawned job .cancelled)
  | _, _ => none

/-! ## The system -/

structure State where
  limiter : CryptoLimiter
  now : Nat
  calls : List Call
  deriving DecidableEq, Repr

def State.init (max queued timeout : Nat) : State := ⟨.new max queued timeout, 0, []⟩

inductive Action
  | call
  | elapse (time : Nat)
  | event (i : Nat) (event : Event)
  deriving DecidableEq, Repr

def step (s : State) : Action → Option State
  | .call => some { s with calls := s.calls ++ [.start] }
  | .elapse time => some { s with now := s.now + time }
  | .event i event => do
    let call ← s.calls[i]?
    let (limiter, call) ← call.next s.limiter s.now event
    some { s with limiter := limiter, calls := s.calls.set i call }

/-! ## Who holds what -/

/-- The job is executing. -/
def Call.executing : Call → Bool
  | spawned .running _ => true
  | _ => false

/-- The caller is in the queue. -/
def Call.inQueue : Call → Bool
  | waiting _ => true
  | _ => false

def Job.holdsPermit : Job → Bool
  | ended _ => false
  | _ => true

def Call.holdsPermit : Call → Bool
  | granted | admitted => true
  | spawned job _ => job.holdsPermit
  | _ => false

def Call.holdsPosition : Call → Bool
  | waiting _ | granted | timedOut => true
  | _ => false

/-- The caller waits, or its job has yet to end. -/
def Call.active : Call → Bool
  | waiting _ | granted | timedOut | admitted => true
  | spawned (.ended _) _ => false
  | spawned _ _ => true
  | _ => false

/-- The call has been turned away. -/
def Call.Refused (call : Call) : Prop := (∃ reason, call = .rejected reason) ∨ call = .cancelled

def Call.Spawned (call : Call) : Prop := ∃ job caller, call = .spawned job caller

/-! ## One step of a call -/

section

variable {limiter limiter' : CryptoLimiter} {now : Nat} {call call' : Call} {event : Event}

/-- What a step of a call can do. -/
structure Next (limiter : CryptoLimiter) (call : Call) (event : Event) (limiter' : CryptoLimiter) (call' : Call) :
    Prop where
  execution : Semaphore.Moves Call.holdsPermit limiter.execution call limiter'.execution call'
  waiting : Semaphore.Moves Call.holdsPosition limiter.waiting call limiter'.waiting call'
  live : ¬call.Refused
  spawned : call.Spawned → call'.Spawned
  started : event = .startJob → call'.Spawned
  kept : call.Spawned → call.holdsPermit = true → call'.holdsPermit = true ∨
    ∃ panicked caller, call = .spawned (.finished panicked) caller ∧ event = .dropPermit

theorem Next.of_unspawned (execution : Semaphore.Moves Call.holdsPermit limiter.execution call limiter'.execution call')
    (waiting : Semaphore.Moves Call.holdsPosition limiter.waiting call limiter'.waiting call') (live : ¬call.Refused)
    (hspawned : ¬call.Spawned) (hevent : event ≠ .startJob) : Next limiter call event limiter' call' :=
  ⟨execution, waiting, live, fun h => absurd h hspawned, fun h => absurd h hevent, fun h => absurd h hspawned⟩

theorem next_cases (h : call.next limiter now event = some (limiter', call')) :
    Next limiter call event limiter' call' := by
  unfold Call.next at h
  split at h
  case h_1 =>
    split at h
    · rename_i hacquire
      cases h
      exact .of_unspawned (.inr (.inl ⟨rfl, rfl, hacquire⟩)) (.inl ⟨rfl, rfl⟩) (by simp [Call.Refused]) nofun nofun
    · cases h
      exact .of_unspawned (.inl ⟨rfl, rfl⟩) (.inl ⟨rfl, rfl⟩) (by simp [Call.Refused]) nofun nofun
  case h_2 =>
    split at h
    · rename_i hacquire
      cases h
      exact .of_unspawned (.inl ⟨rfl, rfl⟩) (.inr (.inl ⟨rfl, rfl, hacquire⟩)) (by simp [Call.Refused]) nofun nofun
    · cases h
      exact .of_unspawned (.inl ⟨rfl, rfl⟩) (.inl ⟨rfl, rfl⟩) (by simp [Call.Refused]) nofun nofun
  case h_3 =>
    obtain ⟨execution, hacquire, h⟩ := Option.map_eq_some_iff.mp h
    cases h
    exact .of_unspawned (.inr (.inl ⟨rfl, rfl, hacquire⟩)) (.inl ⟨rfl, rfl⟩) (by simp [Call.Refused]) nofun nofun
  case h_4 =>
    obtain ⟨-, h⟩ := Option.ite_none_right_eq_some.mp h
    cases h
    exact .of_unspawned (.inl ⟨rfl, rfl⟩) (.inl ⟨rfl, rfl⟩) (by simp [Call.Refused]) nofun nofun
  case h_15 => cases h
  all_goals cases h
  case h_5 | h_6 =>
    exact .of_unspawned (.inl ⟨rfl, rfl⟩) (.inr (.inr ⟨rfl, rfl, rfl⟩)) (by simp [Call.Refused]) nofun nofun
  case h_7 => exact .of_unspawned (.inl ⟨rfl, rfl⟩) (.inl ⟨rfl, rfl⟩) (by simp [Call.Refused]) nofun nofun
  case h_12 => exact .of_unspawned (.inl ⟨rfl, rfl⟩) (.inl ⟨rfl, rfl⟩) (by simp [Call.Refused]) nofun nofun
  case h_13 => exact .of_unspawned (.inl ⟨rfl, rfl⟩) (.inr (.inr ⟨rfl, rfl, rfl⟩)) (by simp [Call.Refused]) nofun nofun
  case h_10 panicked caller =>
    exact ⟨.inr (.inr ⟨rfl, rfl, rfl⟩), .inl ⟨rfl, rfl⟩, by simp [Call.Refused], fun _ => ⟨_, _, rfl⟩, nofun,
      fun _ _ => .inr ⟨panicked, caller, rfl, rfl⟩⟩
  case h_8 | h_9 | h_11 | h_14 =>
    exact ⟨.inl ⟨rfl, rfl⟩, .inl ⟨rfl, rfl⟩, by simp [Call.Refused], fun _ => ⟨_, _, rfl⟩, fun _ => ⟨_, _, rfl⟩,
      fun _ h => .inl h⟩

end

/-! ## Runs -/

variable {s s' : State} {i : Nat}

/-- What a step of the system can do. -/
theorem step_cases {action : Action} (h : step s action = some s') :
    (action = .call ∧ s' = { s with calls := s.calls ++ [.start] }) ∨
    (∃ time, action = .elapse time ∧ s' = { s with now := s.now + time }) ∨
    (∃ j event call limiter call', action = .event j event ∧ s.calls[j]? = some call ∧
      Next s.limiter call event limiter call' ∧ s' = { s with limiter := limiter, calls := s.calls.set j call' }) := by
  cases action with
  | call => exact .inl ⟨rfl, (Option.some.inj h).symm⟩
  | elapse time => exact .inr (.inl ⟨time, rfl, (Option.some.inj h).symm⟩)
  | event j event =>
    obtain ⟨call, hcall, h⟩ := Option.bind_eq_some_iff.mp h
    obtain ⟨⟨limiter, call'⟩, hnext, h⟩ := Option.bind_eq_some_iff.mp h
    exact .inr (.inr ⟨j, event, call, limiter, call', rfl, hcall, next_cases hnext, (Option.some.inj h).symm⟩)

/-- The permits of both semaphores are free or held. -/
structure Inv (max queued : Nat) (s : State) : Prop where
  execution : s.limiter.execution.Conserves max Call.holdsPermit s.calls
  waiting : s.limiter.waiting.Conserves queued Call.holdsPosition s.calls

theorem step_inv {max queued : Nat} {action : Action} (hinv : Inv max queued s) (h : step s action = some s') :
    Inv max queued s' := by
  obtain ⟨-, rfl⟩ | ⟨time, -, rfl⟩ | ⟨j, event, call, limiter, call', -, hcall, hnext, rfl⟩ := step_cases h
  · exact ⟨hinv.execution.spawn rfl, hinv.waiting.spawn rfl⟩
  · exact ⟨hinv.execution, hinv.waiting⟩
  · exact ⟨hinv.execution.moves hcall hnext.execution, hinv.waiting.moves hcall hnext.waiting⟩

theorem run_inv {max queued timeout : Nat} {as : List Action} (h : Run.run step (.init max queued timeout) as =
    some s) :
    Inv max queued s :=
  Run.run_inv (fun _ _ _ hinv hstep => step_inv hinv hstep) ⟨.new max, .new queued⟩ h

/-- Where a call goes in a step of the system. -/
theorem step_call {action : Action} {call : Call} (hcall : s.calls[i]? = some call) (h : step s action = some s') :
    s'.calls[i]? = some call ∨ ∃ event limiter call', action = .event i event ∧
    Next s.limiter call event limiter call' ∧
      s'.calls[i]? = some call' := by
  have hlt := (List.getElem?_eq_some_iff.mp hcall).1
  obtain ⟨-, rfl⟩ | ⟨time, -, rfl⟩ | ⟨j, event, other, limiter, call', rfl, hother, hnext, rfl⟩ := step_cases h
  · refine .inl ?_
    rw [← hcall]
    exact List.getElem?_append_left hlt
  · exact .inl hcall
  · by_cases hj : j = i
    · subst hj
      rw [hcall] at hother
      cases hother
      exact .inr ⟨event, limiter, call', rfl, hnext, by simp [hlt]⟩
    · refine .inl ?_
      rw [← hcall]
      exact List.getElem?_set_ne hj

/-- A refused call stays where it is. -/
theorem run_refused {as : List Action} {call : Call} (hrefused : call.Refused) (hcall : s.calls[i]? = some call)
    (h : Run.run step s as = some s') : s'.calls[i]? = some call := by
  refine Run.run_inv (I := fun s => s.calls[i]? = some call) ?_ hcall h
  intro s action s' hcall hstep
  obtain hsame | ⟨event, limiter, call', -, hnext, -⟩ := step_call hcall hstep
  · exact hsame
  · exact absurd hrefused hnext.live

theorem run_spawned {as : List Action} (hspawned : ∃ call, s.calls[i]? = some call ∧ call.Spawned)
    (h : Run.run step s as = some s') : ∃ call, s'.calls[i]? = some call ∧ call.Spawned := by
  refine Run.run_inv (I := fun s => ∃ call, s.calls[i]? = some call ∧ call.Spawned) ?_ hspawned h
  rintro s action s' ⟨call, hcall, hspawned⟩ hstep
  obtain hsame | ⟨event, limiter, call', -, hnext, hcall'⟩ := step_call hcall hstep
  · exact ⟨call, hsame, hspawned⟩
  · exact ⟨call', hcall', hnext.spawned hspawned⟩

/-- A job that was started had been spawned. -/
theorem run_started {as : List Action} (h : Run.run step s as = some s') (hstart : .event i .startJob ∈ as) :
    ∃ call, s'.calls[i]? = some call ∧ call.Spawned := by
  induction as generalizing s with
  | nil => cases hstart
  | cons action as ih =>
    obtain ⟨s₁, hstep, hrun⟩ := Run.run_cons h
    obtain rfl | htail := List.mem_cons.mp hstart
    · obtain ⟨hcall, -⟩ | ⟨time, htime, -⟩ | ⟨j, event, call, limiter, call', hevent, hcall, hnext, rfl⟩ :=
        step_cases hstep
      · cases hcall
      · cases htime
      · cases hevent
        have hlt := (List.getElem?_eq_some_iff.mp hcall).1
        exact run_spawned ⟨call', by simp [hlt], hnext.started rfl⟩ hrun
    · exact ih hrun htail

/-- A refused call never ran its job, and never will. -/
theorem refused_never_starts {max queued timeout : Nat} {as bs : List Action} {call : Call}
    (h : Run.run step (.init max queued timeout) as = some s) (hcall : s.calls[i]? = some call)
    (hrefused : call.Refused)
    (hrun : Run.run step s bs = some s') : s'.calls[i]? = some call ∧ .event i .startJob ∉ as ++ bs := by
  have hcall' := run_refused hrefused hcall hrun
  refine ⟨hcall', fun hstart => ?_⟩
  obtain ⟨other, hother, job, caller, rfl⟩ := run_started (Run.run_append h hrun) hstart
  rw [hcall'] at hother
  cases hother
  obtain ⟨reason, hreason⟩ | hcancelled := hrefused
  · cases hreason
  · cases hcancelled

theorem holds_of_executing (call : Call) (h : call.executing = true) : call.holdsPermit = true := by
  unfold Call.executing at h
  split at h
  · rfl
  · cases h

theorem holds_of_inQueue (call : Call) (h : call.inQueue = true) : call.holdsPosition = true := by
  unfold Call.inQueue at h
  split at h
  · rfl
  · cases h

theorem free_of_inactive {call : Call} (h : call.active = false) : call.holdsPermit = false ∧
    call.holdsPosition = false := by
  cases call with
  | spawned job caller =>
    cases job with
    | ended panicked => exact ⟨rfl, rfl⟩
    | _ => cases h
  | waiting deadline => cases h
  | granted => cases h
  | timedOut => cases h
  | admitted => cases h
  | _ => exact ⟨rfl, rfl⟩

/-- In every run: the bounds; refused calls never run their jobs; a spawned job keeps its permit, whatever becomes of
its caller, until it has ended; and when no caller waits and every job has ended, all permits are free. -/
theorem limiter_conserves {max queued timeout : Nat} {as : List Action}
    (h : Run.run step (.init max queued timeout) as = some s) :
    s.calls.countP Call.executing ≤ max ∧ s.calls.countP Call.inQueue ≤ queued ∧
    (∀ i call, s.calls[i]? = some call → call.Refused → ∀ bs s', Run.run step s bs = some s' →
      s'.calls[i]? = some call ∧ .event i .startJob ∉ as ++ bs) ∧
    (∀ i job caller, s.calls[i]? = some (.spawned job caller) → job.holdsPermit = true →
      s.limiter.execution.available + (s.calls.eraseIdx i).countP Call.holdsPermit + 1 = max ∧
      ∀ action s', step s action = some s' →
        (∃ job' caller', s'.calls[i]? = some (.spawned job' caller') ∧ job'.holdsPermit = true) ∨
          ∃ panicked, job = .finished panicked ∧ action = .event i .dropPermit) ∧
    ((∀ call ∈ s.calls, call.active = false) →
      s.limiter.execution.available = max ∧ s.limiter.waiting.available = queued) := by
  have hinv := run_inv h
  refine ⟨hinv.execution.countP_le holds_of_executing, hinv.waiting.countP_le holds_of_inQueue,
    fun i call hcall hrefused bs s' hrun => refused_never_starts h hcall hrefused hrun, ?_, ?_⟩
  · intro i job caller hcall hjob
    refine ⟨hinv.execution.others hcall hjob, fun action s' hstep => ?_⟩
    obtain hsame | ⟨event, limiter, call', rfl, hnext, hcall'⟩ := step_call hcall hstep
    · exact .inl ⟨job, caller, hsame, hjob⟩
    · obtain ⟨job', caller', rfl⟩ := hnext.spawned ⟨job, caller, rfl⟩
      obtain hholds | ⟨panicked, other, hfinished, rfl⟩ := hnext.kept ⟨job, caller, rfl⟩ hjob
      · exact .inl ⟨job', caller', hcall', hholds⟩
      · cases hfinished
        exact .inr ⟨panicked, rfl, rfl⟩
  · intro hidle
    exact ⟨hinv.execution.available_eq fun call hcall => (free_of_inactive (hidle call hcall)).1,
      hinv.waiting.available_eq fun call hcall => (free_of_inactive (hidle call hcall)).2⟩

/-- One permit and one position: a caller is cancelled while its job runs, a second times out, a third finds the queue
full. -/
def exampleActions : List Action :=
  [.call, .call, .call, .event 0 .tryExecution, .event 0 .spawn, .event 1 .tryExecution, .event 1 .tryWaiting,
    .event 2 .tryExecution, .event 2 .tryWaiting, .event 0 .startJob, .event 0 .cancel, .elapse 30, .event 1 .timeout,
    .event 1 .leave, .event 0 (.finishJob true), .event 0 .dropPermit]

def exampleState : State :=
  ⟨.new 1 1 30, 30, [.spawned (.ended true) .cancelled, .rejected .timeout, .rejected .full]⟩

theorem limiter_conserves_example :
    exampleState.limiter.execution.available = 1 ∧ exampleState.limiter.waiting.available = 1 ∧
      .event 1 .startJob ∉ exampleActions := by
  have hrun : Run.run step (.init 1 1 30) exampleActions = some exampleState := by decide
  have h := limiter_conserves hrun
  have hidle : ∀ call ∈ exampleState.calls, call.active = false := by simp [exampleState, Call.active]
  have hrefused := h.2.2.1 1 (.rejected .timeout) rfl (.inl ⟨_, rfl⟩) [] exampleState rfl
  rw [List.append_nil] at hrefused
  exact ⟨(h.2.2.2.2 hidle).1, (h.2.2.2.2 hidle).2, hrefused.2⟩

end Vectis.Core.Blocking
