import Vectis.Core.AuditChain.Sink

/-!
# Acknowledged records are durable, failed ones are reported

What the clients of the writer can rely on, for every interleaving, every split into batches and every pattern of
failures.

- `Covered`: a record was persisted, and a sync has succeeded after that;
- `ClientInv`: a taken record is persisted or its failure is reported, and while the writer is neither dirty nor
  poisoned all persisted records are covered;
- `acked_durable`: an acknowledged barrier covers the earlier records of its client, or the client's cell is set;
- `poisoned_stays`: after a failure the sink is not used and every record that is taken is reported.
-/

namespace Vectis.Core.AuditChain

open Ops.Sign Trace

/-! ## The invariant -/

/-- The record was persisted, and a later sync has succeeded. -/
def Covered (trace : List Event) (ticket : Nat) : Prop :=
  ∃ past record text rest, trace = past ++ .record (some ticket) record text true :: rest ∧ .synced ∈ rest

/-- A barrier is acknowledged when every earlier record of its client is covered, or its failure was reported. -/
def AckOk (queued : List WriterCommand) (past : List Event) : Event → Prop
  | .acked ticket => ∃ failure, queued[ticket]? = some (.barrier failure) ∧ ∀ t < ticket, ∀ event standalone,
      queued[t]? = some (.record event failure standalone) → Covered past t ∨ .reported failure ∈ past
  | _ => True

/-- A record that is taken after a failure is reported. -/
def Answered (queued : List WriterCommand) (trace : List Event) : Prop :=
  ∀ past ticket rest, trace = past ++ .took ticket :: rest → (∃ f ∈ past, f.isFailure = true) →
    ∀ event failure standalone, queued[ticket]? = some (.record event failure standalone) → .reported failure ∈ rest

structure ClientInv (s : System) : Prop where
  taken : s.taken ≤ s.queued.length
  tickets : ∀ ticket, .took ticket ∈ s.trace → ticket < s.taken
  ackTickets : ∀ ticket, .acked ticket ∈ s.trace → ticket < s.taken
  cells : ∀ cell, s.cells cell ≠ none ↔ .reported cell ∈ s.trace
  written : ∀ ticket < s.taken, ∀ event failure standalone,
    s.queued[ticket]? = some (.record event failure standalone) →
      (∃ record text, .record (some ticket) record text true ∈ s.trace) ∨ .reported failure ∈ s.trace
  covered : s.poisoned = none → s.dirty = false → ∀ ticket record text,
    .record (some ticket) record text true ∈ s.trace → Covered s.trace ticket
  acks : Each (AckOk s.queued) s.trace
  answered : Answered s.queued s.trace

/-- The barriers of the current batch are taken commands. -/
def BarriersOk (s : System) (batch : Batch) : Prop :=
  ∀ b ∈ batch.barriers, b.ticket < s.taken ∧ s.queued[b.ticket]? = some (.barrier b.failure)

variable {platform : Platform} {signer : HybridPrivateKeys} {eventCount : UInt64} {s s' : System} {es : List Event}

theorem Covered.append {trace : List Event} {ticket : Nat} (h : Covered trace ticket) (es : List Event) :
    Covered (trace ++ es) ticket := by
  obtain ⟨past, record, text, rest, rfl, hsynced⟩ := h
  exact ⟨past, record, text, rest ++ es, by simp, List.mem_append_left _ hsynced⟩

/-- A sync covers what was persisted before. -/
theorem covered_synced {trace : List Event} {ticket : Nat} {record : AuditChainRecord} {text : String}
    (h : .record (some ticket) record text true ∈ trace) : Covered (trace ++ [.synced]) ticket := by
  obtain ⟨past, rest, rfl⟩ := List.append_of_mem h
  exact ⟨past, record, text, rest ++ [.synced], by simp, List.mem_append_right _ (List.mem_singleton.mpr rfl)⟩

/-! ## Appending events -/

/-- The event is neither about a command that is taken nor about a reply. -/
def Event.isInner : Event → Bool
  | .took _ | .acked _ => false
  | _ => true

theorem acks_append {queued : List WriterCommand} {trace : List Event} (h : Each (AckOk queued) trace) :
    ∀ {es : List Event}, (∀ e ∈ es, e.isInner = true) → Each (AckOk queued) (trace ++ es)
  | [], _ => by simpa using h
  | e :: es, hes => by
    have he : AckOk queued trace e := by
      have hinner := hes e List.mem_cons_self
      cases e with
      | acked => cases hinner
      | _ => trivial
    have htail : Each (AckOk queued) (trace ++ [e] ++ es) :=
      acks_append (each_snoc h he) fun e' h' => hes e' (List.mem_cons_of_mem _ h')
    simpa using htail

theorem took_append {past rest trace es : List Event} {ticket : Nat} (hes : ∀ e ∈ es, e.isInner = true)
    (h : trace ++ es = past ++ .took ticket :: rest) : ∃ rest', trace = past ++ .took ticket :: rest' ∧
    rest = rest' ++ es := by
  rcases List.append_eq_append_iff.mp h with ⟨as, hpast, hes'⟩ | ⟨bs, htrace, hrest⟩
  · have hmem : Event.took ticket ∈ es := by rw [hes']; simp
    have := hes _ hmem
    cases this
  · cases bs with
    | nil =>
      have hmem : Event.took ticket ∈ es := by
        have : es = .took ticket :: rest := by simpa using hrest.symm
        rw [this]; exact List.mem_cons_self
      have := hes _ hmem
      cases this
    | cons b bs =>
      obtain ⟨hb, hbs⟩ := List.cons.inj hrest
      exact ⟨bs, by rw [htrace, hb], hbs⟩

theorem answered_append {queued : List WriterCommand} {trace : List Event} (h : Answered queued trace)
    (hes : ∀ e ∈ es, e.isInner = true) : Answered queued (trace ++ es) := by
  intro past ticket rest heq hfail event failure standalone hq
  obtain ⟨rest', htrace, rfl⟩ := took_append hes heq
  exact List.mem_append_left _ (h past ticket rest' htrace hfail event failure standalone hq)

/-- What the writer does between taking a command and replying. -/
structure Inner (s s' : System) (es : List Event) : Prop where
  trace : s'.trace = s.trace ++ es
  queued : s'.queued = s.queued
  taken : s'.taken = s.taken
  inner : ∀ e ∈ es, e.isInner = true
  cells : ∀ cell, s'.cells cell ≠ none ↔ s.cells cell ≠ none ∨ .reported cell ∈ es
  clean : s'.poisoned = none → s'.dirty = false → s.poisoned = none ∧
    ((s.dirty = false ∧ ∀ ticket record text, .record (some ticket) record text true ∉ es) ∨ es = [.synced])

theorem clientInv_inner (hI : ClientInv s) (h : Inner s s' es) : ClientInv s' := by
  have hnot : ∀ {e : Event}, e ∈ es → e.isInner = false → False := by
    intro e he hinner
    rw [h.inner e he] at hinner
    cases hinner
  refine ⟨?_, fun ticket ht => ?_, fun ticket ht => ?_, fun cell => ?_, fun ticket ht event failure standalone hq => ?_,
    fun hp hd ticket record text hr => ?_, ?_, ?_⟩
  · rw [h.taken, h.queued]; exact hI.taken
  · rw [h.trace] at ht
    rw [h.taken]
    rcases List.mem_append.mp ht with ht | ht
    · exact hI.tickets ticket ht
    · exact (hnot ht rfl).elim
  · rw [h.trace] at ht
    rw [h.taken]
    rcases List.mem_append.mp ht with ht | ht
    · exact hI.ackTickets ticket ht
    · exact (hnot ht rfl).elim
  · rw [h.cells, hI.cells, h.trace, List.mem_append]
  · rw [h.taken] at ht
    rw [h.queued] at hq
    rw [h.trace]
    rcases hI.written ticket ht event failure standalone hq with ⟨record, text, hr⟩ | hr
    · exact Or.inl ⟨record, text, List.mem_append_left _ hr⟩
    · exact Or.inr (List.mem_append_left _ hr)
  · rw [h.trace] at hr ⊢
    obtain ⟨hp', ⟨hd', hnone⟩ | rfl⟩ := h.clean hp hd
    · rcases List.mem_append.mp hr with hr | hr
      · exact (hI.covered hp' hd' ticket record text hr).append es
      · exact absurd hr (hnone ticket record text)
    · rcases List.mem_append.mp hr with hr | hr
      · exact covered_synced hr
      · cases List.mem_singleton.mp hr
  · rw [h.trace, h.queued]; exact acks_append hI.acks h.inner
  · rw [h.trace, h.queued]; exact answered_append hI.answered h.inner

/-- Taking a command: its record is persisted or reported, and reported if the writer is poisoned. -/
theorem clientInv_take (hI : ClientInv s) (hS : SinkOk platform s) (hlt : s.taken < s.queued.length)
    (h : Inner ({ s with taken := s.taken + 1 }.emit [.took s.taken]) s' es)
    (hrecord : ∀ event failure standalone, s.queued[s.taken]? = some (.record event failure standalone) →
      ((∃ record text, .record (some s.taken) record text true ∈ es) ∧ s.poisoned = none) ∨ .reported failure ∈ es) :
    ClientInv s' := by
  have htrace : s'.trace = (s.trace ++ [.took s.taken]) ++ es := h.trace
  have htaken : s'.taken = s.taken + 1 := h.taken
  have hqueued : s'.queued = s.queued := h.queued
  have hacks : Each (AckOk s.queued) (s.trace ++ [.took s.taken]) := each_snoc hI.acks trivial
  have hnot : ∀ {e : Event}, e ∈ es → e.isInner = false → False := by
    intro e he hinner
    rw [h.inner e he] at hinner
    cases hinner
  refine ⟨by rw [hqueued]; omega, fun ticket ht => ?_, fun ticket ht => ?_, fun cell => ?_,
    fun ticket ht event failure standalone hq => ?_, fun hp hd ticket record text hr => ?_,
    by rw [htrace, hqueued]; exact acks_append hacks h.inner, ?_⟩
  · rw [htrace, List.mem_append, List.mem_append] at ht
    rcases ht with (ht | ht) | ht
    · have := hI.tickets ticket ht
      omega
    · cases List.mem_singleton.mp ht
      omega
    · exact (hnot ht rfl).elim
  · rw [htrace, List.mem_append, List.mem_append] at ht
    rcases ht with (ht | ht) | ht
    · have := hI.ackTickets ticket ht
      omega
    · cases List.mem_singleton.mp ht
    · exact (hnot ht rfl).elim
  · have hold : (s.cells cell ≠ none) ↔ .reported cell ∈ s.trace := hI.cells cell
    rw [h.cells, htrace, List.mem_append, List.mem_append]
    simp only [System.emit, hold, List.mem_singleton]
    constructor
    · rintro (h' | h')
      · exact Or.inl (Or.inl h')
      · exact Or.inr h'
    · rintro ((h' | h') | h')
      · exact Or.inl h'
      · cases h'
      · exact Or.inr h'
  · rw [hqueued] at hq
    rw [htrace]
    rcases Nat.lt_or_ge ticket s.taken with hlt' | hge
    · rcases hI.written ticket hlt' event failure standalone hq with ⟨record, text, hr⟩ | hr
      · exact Or.inl ⟨record, text, List.mem_append_left _ (List.mem_append_left _ hr)⟩
      · exact Or.inr (List.mem_append_left _ (List.mem_append_left _ hr))
    · obtain rfl : ticket = s.taken := by omega
      rcases hrecord event failure standalone hq with ⟨⟨record, text, hr⟩, -⟩ | hr
      · exact Or.inl ⟨record, text, List.mem_append_right _ hr⟩
      · exact Or.inr (List.mem_append_right _ hr)
  · rw [htrace] at hr ⊢
    obtain ⟨hp', ⟨hd', hnone⟩ | rfl⟩ := h.clean hp hd
    · rcases List.mem_append.mp hr with hr | hr
      · rcases List.mem_append.mp hr with hr | hr
        · exact ((hI.covered hp' hd' ticket record text hr).append _).append es
        · cases List.mem_singleton.mp hr
      · exact absurd hr (hnone ticket record text)
    · rcases List.mem_append.mp hr with hr | hr
      · exact covered_synced hr
      · cases List.mem_singleton.mp hr
  · rw [htrace, hqueued]
    intro past ticket rest heq hfail event failure standalone hq
    obtain ⟨rest', heq', rfl⟩ := took_append h.inner heq
    rcases snoc_eq heq' with ⟨rfl, htook, rfl⟩ | ⟨rest'', rfl, hold⟩
    · cases htook
      rcases hrecord event failure standalone hq with ⟨-, hp⟩ | hr
      · obtain ⟨f, hf, hfail⟩ := hfail
        rw [hS.clean hp f hf] at hfail
        cases hfail
      · exact List.mem_append_right _ hr
    · exact List.mem_append_left _ (List.mem_append_left _
        (hI.answered past ticket rest'' hold hfail event failure standalone hq))

/-! ## The steps -/

theorem inner_setFailure (s : System) (failure : Nat) (reason : String) :
    Inner s (s.setFailure failure reason) [.reported failure] := by
  refine ⟨rfl, rfl, rfl, by simp [Event.isInner], fun cell => ?_, fun hp hd => ⟨hp, Or.inl ⟨hd, by simp⟩⟩⟩
  simp only [System.setFailure, List.mem_singleton, Event.reported.injEq]
  split
  · rename_i h
    simp [h.1]
  · rename_i h
    constructor
    · exact Or.inl
    · rintro (hc | rfl)
      · exact hc
      · simpa using h

theorem clientInv_setFailure (hI : ClientInv s) (failure : Nat) (reason : String) :
    ClientInv (s.setFailure failure reason) :=
  clientInv_inner hI (inner_setFailure s failure reason)

/-- The events of a write are at most one line, of this ticket. -/
theorem writeEvent_events {chain chain' : AuditChainState} {ticket : Option Nat} {event : AuditEvent} {env : WriteEnv}
    {events : List Event} {result : Res Unit} (h : writeEvent platform chain ticket event env =
      (chain', events, result)) :
    (∀ e ∈ events, e.isInner = true ∧ ∀ cell, e ≠ .reported cell) ∧
      (result = .ok () → ∃ record text, .record ticket record text true ∈ events) := by
  rcases writeEvent_cases h with ⟨err, rfl, rfl, -⟩ | ⟨record, text, persisted, rfl, -, hres⟩
  · exact ⟨by simp, fun hr => by cases hr⟩
  · refine ⟨fun e he => ?_, fun hr => ?_⟩
    · rw [List.mem_singleton.mp he]
      exact ⟨rfl, fun cell hc => by cases hc⟩
    · rcases hres with ⟨err, rfl⟩ | ⟨-, rfl, -⟩
      · cases hr
      · exact ⟨record, text, List.mem_singleton.mpr rfl⟩

theorem appendCheckpoint_events {chain chain' : AuditChainState} {env : CommitEnv} {events : List Event}
    {result : Res Unit} (h : appendCheckpoint platform chain signer env = (chain', events, result)) :
    ∀ e ∈ events, e.isInner = true ∧ ∀ cell, e ≠ .reported cell := by
  rcases appendCheckpoint_cases h with ⟨err, rfl, rfl⟩ | ⟨payload, text, persisted, rfl, -⟩
  · simp
  · intro e he
    rw [List.mem_singleton.mp he]
    exact ⟨rfl, fun cell hc => by cases hc⟩

/-- A write or a checkpoint, with the cells as they are; the writer is dirty or poisoned after it. -/
theorem inner_emit {events : List Event} {last : List Event} (htrace : s'.trace = s.trace ++ (events ++ last))
    (hqueued : s'.queued = s.queued) (htaken : s'.taken = s.taken) (hcells : s'.cells = s.cells)
    (hevents : ∀ e ∈ events, e.isInner = true ∧ ∀ cell, e ≠ .reported cell) (hlast : last = [] ∨ last = [.failed])
    (hdirty : s'.poisoned ≠ none ∨ s'.dirty = true) : Inner s s' (events ++ last) := by
  have hall : ∀ e ∈ events ++ last, e.isInner = true ∧ ∀ cell, e ≠ .reported cell := by
    intro e he
    rcases List.mem_append.mp he with he | he
    · exact hevents e he
    · rcases hlast with rfl | rfl
      · cases he
      · rw [List.mem_singleton.mp he]
        exact ⟨rfl, fun cell hc => by cases hc⟩
  refine ⟨htrace, hqueued, htaken, fun e he => (hall e he).1, fun cell => ?_, fun hp hd => ?_⟩
  · rw [hcells]
    constructor
    · exact Or.inl
    · rintro (h | h)
      · exact h
      · exact absurd rfl ((hall _ h).2 cell)
  · rcases hdirty with h | h
    · exact absurd hp h
    · rw [hd] at h; cases h

theorem Inner.trans {s₁ s₂ : System} {es₁ es₂ : List Event} (h₁ : Inner s s₁ es₁) (h₂ : Inner s₁ s₂ es₂)
    (hpoisoned : s₂.poisoned ≠ none) : Inner s s₂ (es₁ ++ es₂) := by
  refine ⟨by rw [h₂.trace, h₁.trace, List.append_assoc], h₂.queued.trans h₁.queued, h₂.taken.trans h₁.taken,
    fun e he => ?_, fun cell => ?_, fun hp => absurd hp hpoisoned⟩
  · rcases List.mem_append.mp he with he | he
    · exact h₁.inner e he
    · exact h₂.inner e he
  · rw [h₂.cells, h₁.cells, List.mem_append, or_assoc]

variable (platform) in
/-- Processing a command: a record is persisted by a healthy writer, or reported. -/
theorem inner_process (s : System) (batch : Batch) (ticket : Nat) (env : WriteEnv) (command : WriterCommand) :
    ∃ es, Inner s (process platform s batch ticket env command).1 es ∧
      ∀ event failure standalone, command = .record event failure standalone →
        ((∃ record text, .record (some ticket) record text true ∈ es) ∧ s.poisoned = none) ∨
        .reported failure ∈ es := by
  have hrefl : Inner s s [] :=
    ⟨by simp, rfl, rfl, by simp, by simp, fun hp hd => ⟨hp, Or.inl ⟨hd, by simp⟩⟩⟩
  cases command with
  | barrier failure => exact ⟨[], hrefl, fun _ _ _ h => by cases h⟩
  | shutdown => exact ⟨[], hrefl, fun _ _ _ h => by cases h⟩
  | record event failure standalone =>
    cases hp : s.poisoned with
    | some reason =>
      simp only [process, hp]
      exact ⟨[.reported failure], inner_setFailure s failure reason,
        fun _ _ _ h => by cases h; exact Or.inr (List.mem_singleton.mpr rfl)⟩
    | none =>
      obtain ⟨chain, events, result, hwrite⟩ :
          ∃ chain events result, writeEvent platform s.chain (some ticket) event env = (chain, events, result) :=
        ⟨_, _, _, rfl⟩
      obtain ⟨hevents, hok⟩ := writeEvent_events hwrite
      cases result with
      | error err =>
        simp only [process, hp, hwrite]
        have hpoison : Inner s ((({ s with chain := chain } : System).emit events).poison err.toText)
          (events ++ [.failed]) :=
          inner_emit (by simp [System.poison, System.emit]) rfl rfl rfl hevents (Or.inr rfl)
            (Or.inl (by simp [System.poison]))
        refine ⟨_, hpoison.trans (inner_setFailure _ failure err.toText) (by simp [System.setFailure, System.poison]),
          ?_⟩
        intro _ _ _ h
        cases h
        exact Or.inr (by simp)
      | ok u =>
        simp only [process, hp, hwrite]
        refine ⟨events ++ [], inner_emit (by simp [System.emit]) rfl rfl rfl hevents (Or.inl rfl) (Or.inr rfl), ?_⟩
        intro _ _ _ h
        cases h
        obtain ⟨record, text, hr⟩ := hok rfl
        exact Or.inl ⟨⟨record, text, by simpa using hr⟩, trivial⟩

variable (platform signer eventCount) in
theorem inner_commitCheckpoint (s : System) (batch : Batch) (env : CommitEnv) :
    ∃ es, Inner s (commitCheckpoint platform signer eventCount s batch env).1 es := by
  unfold commitCheckpoint
  split
  · split
    · rename_i chain events err happend
      exact ⟨events ++ [.failed], inner_emit (by simp [System.poison, System.emit]) rfl rfl rfl
        (appendCheckpoint_events happend) (Or.inr rfl) (Or.inl (by simp [System.poison]))⟩
    · rename_i chain events happend
      exact ⟨events ++ [], inner_emit (by simp [System.emit]) rfl rfl rfl (appendCheckpoint_events happend) (Or.inl rfl)
        (Or.inr rfl)⟩
  · exact ⟨[], by simp, rfl, rfl, by simp, by simp, fun hp hd => ⟨hp, Or.inl ⟨hd, by simp⟩⟩⟩

theorem inner_commitSync (s : System) (commitRequested : Bool) (env : CommitEnv) :
    ∃ es, Inner s (commitSync s commitRequested env) es := by
  unfold commitSync
  split
  · rename_i hsync
    split
    · refine ⟨[.synced], rfl, rfl, rfl, by simp [Event.isInner], by simp [System.emit], fun hp _ => ⟨hp, Or.inr rfl⟩⟩
    · exact ⟨[] ++ [.failed], inner_emit (by simp [System.poison]) rfl rfl rfl (by simp) (Or.inr rfl)
        (Or.inl (by simp [System.poison]))⟩
  · exact ⟨[], by simp, rfl, rfl, by simp, by simp, fun hp hd => ⟨hp, Or.inl ⟨hd, by simp⟩⟩⟩

/-- After the sync of a requested commit a healthy writer is not dirty. -/
theorem commitSync_clean (s : System) (env : CommitEnv) :
    (commitSync s true env).poisoned = none → (commitSync s true env).dirty = false := by
  intro hp
  unfold commitSync at hp ⊢
  split at hp
  · split at hp
    · rename_i h _ hok
      rw [if_pos h]
      rfl
    · cases hp
  · rename_i h
    rw [if_neg h]
    simp only [hp, Option.isNone_none, Bool.and_true, Bool.true_and, Bool.not_eq_true] at h
    exact h

/-- A barrier of a commit gets its reply when a healthy writer is not dirty. -/
theorem clientInv_releaseBarrier (hI : ClientInv s) (hclean : s.poisoned = none → s.dirty = false) {b : PendingBarrier}
    (hb : b.ticket < s.taken) (hq : s.queued[b.ticket]? = some (.barrier b.failure)) :
    ClientInv (releaseBarrier s b) := by
  have hack : ∀ {s₁ : System}, ClientInv s₁ → s₁.queued = s.queued → s₁.taken = s.taken →
      (s₁.poisoned = none → s₁.dirty = false) → AckOk s.queued s₁.trace (.acked b.ticket) →
      ClientInv (s₁.emit [.acked b.ticket]) := by
    intro s₁ hI₁ hqueued htaken hclean₁ hok
    refine ⟨hI₁.taken, fun ticket ht => ?_, fun ticket ht => ?_, fun cell => ?_,
      fun ticket ht event failure standalone hq => ?_, fun hp hd ticket record text hr => ?_,
        each_snoc hI₁.acks (hqueued ▸ hok), ?_⟩
    · rcases List.mem_append.mp ht with ht | ht
      · exact hI₁.tickets ticket ht
      · cases List.mem_singleton.mp ht
    · rcases List.mem_append.mp ht with ht | ht
      · exact hI₁.ackTickets ticket ht
      · cases List.mem_singleton.mp ht
        show b.ticket < s₁.taken
        rw [htaken]
        exact hb
    · simp only [System.emit, List.mem_append, List.mem_singleton, reduceCtorEq, or_false]
      exact hI₁.cells cell
    · rcases hI₁.written ticket ht event failure standalone hq with ⟨record, text, hr⟩ | hr
      · exact Or.inl ⟨record, text, List.mem_append_left _ hr⟩
      · exact Or.inr (List.mem_append_left _ hr)
    · rcases List.mem_append.mp hr with hr | hr
      · exact (hI₁.covered hp hd ticket record text hr).append _
      · cases List.mem_singleton.mp hr
    · intro past ticket rest heq hfail event failure standalone hq
      rcases snoc_eq heq with ⟨-, htook, -⟩ | ⟨rest', rfl, hold⟩
      · cases htook
      · exact List.mem_append_left _ (hI₁.answered past ticket rest' hold hfail event failure standalone hq)
  unfold releaseBarrier
  split
  · rename_i reason hp
    refine hack (clientInv_setFailure hI b.failure reason) rfl rfl (fun hp' => ?_) ⟨b.failure, hq, fun t _ _ _ _ => ?_⟩
    · exact absurd (hp.symm.trans hp') (by simp)
    · exact Or.inr (List.mem_append_right _ (List.mem_singleton.mpr rfl))
  · rename_i hp
    refine hack hI rfl rfl hclean ⟨b.failure, hq, fun t ht event standalone hrec => ?_⟩
    rcases hI.written t (Nat.lt_trans ht hb) event b.failure standalone hrec with ⟨record, text, hr⟩ | hr
    · exact Or.inl (hI.covered hp (hclean hp) t record text hr)
    · exact Or.inr hr

theorem releaseBarrier_frame (s : System) (b : PendingBarrier) :
    (releaseBarrier s b).poisoned = s.poisoned ∧ (releaseBarrier s b).dirty = s.dirty ∧
      (releaseBarrier s b).taken = s.taken ∧ (releaseBarrier s b).queued = s.queued := by
  unfold releaseBarrier
  split <;> exact ⟨rfl, rfl, rfl, rfl⟩

theorem clientInv_release : ∀ (barriers : List PendingBarrier) {s : System}, ClientInv s →
    (s.poisoned = none → s.dirty = false) →
    (∀ b ∈ barriers, b.ticket < s.taken ∧ s.queued[b.ticket]? = some (.barrier b.failure)) →
    ClientInv (barriers.foldl releaseBarrier s)
  | [], _, hI, _, _ => hI
  | b :: barriers, s, hI, hclean, hb => by
    obtain ⟨hp, hd, htaken, hqueued⟩ := releaseBarrier_frame s b
    refine clientInv_release barriers (clientInv_releaseBarrier hI hclean (hb b List.mem_cons_self).1
      (hb b List.mem_cons_self).2) (fun h => ?_) fun b' hb' => ?_
    · rw [hd]
      exact hclean (hp ▸ h)
    · rw [htaken, hqueued]
      exact hb b' (List.mem_cons_of_mem _ hb')

/-! ## Runs -/

/-- The batch of a phase. -/
def Phase.batch : Phase → Option Batch
  | .batching batch | .committing batch => some batch
  | _ => none

structure DurableInv (platform : Platform) (s : System) : Prop where
  sink : SinkOk platform s
  client : ClientInv s
  barriers : ∀ batch, s.phase.batch = some batch → BarriersOk s batch

theorem ClientInv.withPhase (hI : ClientInv s) (phase : Phase) : ClientInv { s with phase := phase } :=
  ⟨hI.taken, hI.tickets, hI.ackTickets, hI.cells, hI.written, hI.covered, hI.acks, hI.answered⟩

/-- Another command is queued. -/
theorem clientInv_queue (hI : ClientInv s) (command : WriterCommand) :
    ClientInv { s with queued := s.queued ++ [command] } := by
  have hold : ∀ {i : Nat}, i < s.taken → (s.queued ++ [command])[i]? = s.queued[i]? := fun {i} hi =>
    List.getElem?_append_left (Nat.lt_of_lt_of_le hi hI.taken)
  refine ⟨?_, hI.tickets, hI.ackTickets, hI.cells, fun ticket ht event failure standalone hq => ?_, hI.covered, ?_, ?_⟩
  · have := hI.taken
    simp only [List.length_append, List.length_cons, List.length_nil]
    omega
  · exact hI.written ticket ht event failure standalone (by rw [← hold ht]; exact hq)
  · intro past e rest heq
    have hok := hI.acks past e rest heq
    cases e with
    | acked ticket =>
      have hlt : ticket < s.taken := hI.ackTickets ticket (by rw [heq]; simp)
      obtain ⟨failure, hq, hall⟩ := hok
      refine ⟨failure, by rw [hold hlt]; exact hq, fun t ht event standalone hrec => ?_⟩
      rw [hold (Nat.lt_trans ht hlt)] at hrec
      exact hall t ht event standalone hrec
    | _ => trivial
  · intro past ticket rest heq hfail event failure standalone hq
    have hlt : ticket < s.taken := hI.tickets ticket (by rw [heq]; simp)
    rw [hold hlt] at hq
    exact hI.answered past ticket rest heq hfail event failure standalone hq

/-- The barriers of a batch after a command: the old ones, and the command if it is one. -/
theorem process_barriers (s : System) (batch : Batch) (ticket : Nat) (env : WriteEnv) (command : WriterCommand) :
    ∀ b ∈ (process platform s batch ticket env command).2.barriers,
      b ∈ batch.barriers ∨ (b.ticket = ticket ∧ command = .barrier b.failure) := by
  intro b hb
  cases command with
  | record event failure standalone =>
    simp only [process] at hb
    split at hb
    · exact Or.inl hb
    · split at hb <;> exact Or.inl hb
  | barrier failure =>
    rcases List.mem_append.mp hb with hb | hb
    · exact Or.inl hb
    · rw [List.mem_singleton.mp hb]
      exact Or.inr ⟨rfl, rfl⟩
  | shutdown => exact Or.inl hb

theorem open_batch {phase : Phase} {batch : Batch} (h : phase.open = some batch) :
    batch.barriers = [] ∨ phase.batch = some batch := by
  cases phase with
  | receiving => cases h; exact Or.inl rfl
  | batching b => cases h; exact Or.inr rfl
  | committing b => cases h
  | stopped => cases h

theorem next_batch (batch : Batch) : batch.next.batch = some batch := by
  unfold Batch.next
  split <;> rfl

theorem durableInv_setFailure (hI : DurableInv platform s) (failure : Nat) (reason : String) :
    DurableInv platform (s.setFailure failure reason) :=
  ⟨sinkOk_setFailure hI.sink failure reason, clientInv_setFailure hI.client failure reason, hI.barriers⟩

theorem durableInv_take {env : WriteEnv} (hI : DurableInv platform s) (h : take platform s env = some s')
    (hS : SinkOk platform s') : DurableInv platform s' := by
  obtain ⟨batch, hopen, h⟩ := Option.bind_eq_some_iff.mp h
  obtain ⟨command, hcommand, rfl⟩ := Option.map_eq_some_iff.mp h
  have hlt : s.taken < s.queued.length := (List.getElem?_eq_some_iff.mp hcommand).1
  obtain ⟨es, hinner, hrecord⟩ := inner_process platform
    (({ s with taken := s.taken + 1 } : System).emit [.took s.taken])
      { batch with processed := batch.processed + 1 } s.taken env
    command
  have hclient := clientInv_take hI.client hI.sink hlt hinner fun event failure standalone hq =>
    hrecord event failure standalone (Option.some.inj (hcommand.symm.trans hq))
  refine ⟨hS, hclient.withPhase _, fun batch' hbatch' b hb => ?_⟩
  rw [next_batch, Option.some.injEq] at hbatch'
  subst hbatch'
  rw [show (_ : System).taken = s.taken + 1 from hinner.taken, show (_ : System).queued = s.queued from hinner.queued]
  rcases process_barriers _ _ _ _ _ b hb with hold | ⟨hticket, hcmd⟩
  · rcases open_batch hopen with hnil | hphase
    · rw [show batch.barriers = [] from hnil] at hold
      cases hold
    · obtain ⟨hlt', hq⟩ := hI.barriers batch hphase b hold
      exact ⟨Nat.lt_succ_of_lt hlt', hq⟩
  · rw [hticket, hcommand, hcmd]
    exact ⟨Nat.lt_succ_self _, rfl⟩

theorem durableInv_commit {batch : Batch} {env : CommitEnv} (hI : DurableInv platform s)
    (hphase : s.phase = .committing batch) (hS : SinkOk platform (commit platform signer eventCount s batch env)) :
    DurableInv platform (commit platform signer eventCount s batch env) := by
  obtain ⟨es₁, h₁⟩ := inner_commitCheckpoint platform signer eventCount s batch env
  have hI₁ := clientInv_inner hI.client h₁
  obtain ⟨es₂, h₂⟩ := inner_commitSync (commitCheckpoint platform signer eventCount s batch env).1
    (commitCheckpoint platform signer eventCount s batch env).2 env
  have hI₂ := clientInv_inner hI₁ h₂
  have hbarriers := hI.barriers batch (by rw [hphase]; rfl)
  refine ⟨hS, ?_, fun batch' h' => ?_⟩
  · have hrelease : ClientInv (if (commitCheckpoint platform signer eventCount s batch env).2 then
        batch.barriers.foldl releaseBarrier (commitSync (commitCheckpoint platform signer eventCount s batch env).1
          (commitCheckpoint platform signer eventCount s batch env).2 env)
        else commitSync (commitCheckpoint platform signer eventCount s batch env).1
          (commitCheckpoint platform signer eventCount s batch env).2 env) := by
      split
      · rename_i hreq
        refine clientInv_release batch.barriers hI₂ (fun hp => ?_) fun b hb => ?_
        · rw [hreq] at hp ⊢
          exact commitSync_clean _ env hp
        · rw [h₂.taken, h₁.taken, h₂.queued, h₁.queued]
          exact hbarriers b hb
      · exact hI₂
    exact hrelease.withPhase _
  · have hnone : (commit platform signer eventCount s batch env).phase.batch = none := by
      unfold commit
      simp only
      split <;> rfl
    rw [hnone] at h'
    cases h'

theorem durableInv_step (s : System) (a : Action) (s' : System) (hI : DurableInv platform s)
    (h : step platform signer eventCount s a = some s') : DurableInv platform s' := by
  have hS : SinkOk platform s' := sinkOk_step s a s' hI.sink h
  cases a with
  | send command =>
    simp only [step, send] at h
    split at h
    · split at h <;> cases h
      · exact durableInv_setFailure hI _ _
      · exact durableInv_setFailure hI _ _
      · exact hI
    · split at h
      · cases h
        refine ⟨hS, clientInv_queue hI.client command, fun batch hbatch b hb => ?_⟩
        obtain ⟨hlt, hq⟩ := hI.barriers batch hbatch b hb
        exact ⟨hlt, by rw [List.getElem?_append_left (Nat.lt_of_lt_of_le hlt hI.client.taken)]; exact hq⟩
      · split at h <;> cases h
        exact durableInv_setFailure hI _ _
  | take env => exact durableInv_take hI h hS
  | drained =>
    simp only [step] at h
    split at h <;> cases h
    rename_i batch hphase
    exact ⟨hS, hI.client.withPhase _, fun batch' h' => hI.barriers batch' (by rw [hphase]; exact h')⟩
  | commit env =>
    simp only [step] at h
    split at h <;> cases h
    rename_i batch hphase
    exact durableInv_commit hI hphase hS
  | hangUp =>
    simp only [step] at h
    split at h <;> cases h
    exact ⟨hS, hI.client.withPhase _, fun batch' h' => by cases h'⟩
  | unanswered ticket =>
    simp only [step, unanswered] at h
    split at h
    · split at h <;> cases h
      exact durableInv_setFailure hI _ _
    · cases h

theorem durableInv_start {random : Vector UInt8 16} {env : WriteEnv} {sync : Except String Unit} {s : System}
    (h : start platform random env sync = .ok s) : DurableInv platform s := by
  have hS := sinkOk_start h
  unfold start at h
  split at h
  · cases h
  · rename_i chain events hwrite
    split at h <;> cases h
    rcases writeEvent_cases hwrite with ⟨err, hres, -⟩ | ⟨record, text, persisted, rfl, -⟩
    · cases hres
    · refine ⟨hS, ⟨Nat.zero_le _, by simp, by simp, by simp, fun ticket ht => absurd ht (Nat.not_lt_zero _), by simp,
        ?_, ?_⟩, fun batch h => by cases h⟩
      · exact each_snoc (each_snoc each_nil trivial) trivial
      · intro past ticket rest heq
        have hmem : Event.took ticket ∈ [Event.record none record text persisted, .synced] := by
          rw [show [Event.record none record text persisted, .synced] = past ++ .took ticket :: rest from heq]
          simp
        simp at hmem

theorem durableInv_reaches (h : Reaches platform signer eventCount s) : DurableInv platform s := by
  obtain ⟨random, env, sync, s₀, actions, hstart, hrun⟩ := h
  exact Run.run_inv durableInv_step (durableInv_start hstart) hrun

/-! ## What clients rely on -/

/-- A write, a checkpoint or a sync failed when the record was not covered. -/
def Lost (trace : List Event) (ticket : Nat) : Prop :=
  ∃ past f rest, trace = past ++ f :: rest ∧ f.isFailure = true ∧ ¬ Covered past ticket

/-- Nothing uses the sink after a failure. -/
theorem quiet_rest {trace past rest : List Event} {f : Event} (hquiet : Each Quiet trace)
    (htrace : trace = past ++ f :: rest) (hf : f.isFailure = true) : ∀ e ∈ rest, e.usesSink = false := by
  intro e he
  obtain ⟨l₁, l₂, rfl⟩ := List.append_of_mem he
  rw [Bool.eq_false_iff]
  intro hsink
  have := hquiet (past ++ f :: l₁) e l₂ (by rw [htrace]; simp) hsink f (by simp)
  rw [this] at hf
  cases hf

/-- Nothing is covered after a failure. -/
theorem covered_of_quiet {trace past rest : List Event} {f : Event} {ticket : Nat} (hquiet : Each Quiet trace)
    (htrace : trace = past ++ f :: rest) (hf : f.isFailure = true) (h : Covered trace ticket) :
    Covered past ticket := by
  obtain ⟨before, record, text, after, heq, hsynced⟩ := h
  have hno := quiet_rest hquiet htrace hf
  obtain ⟨mid, last, rfl⟩ := List.append_of_mem hsynced
  have hboth : past ++ f :: rest = (before ++ .record (some ticket) record text true :: mid) ++ .synced :: last := by
    rw [← htrace, heq]
    simp
  rcases List.append_eq_append_iff.mp hboth with ⟨as, hlong, hfs⟩ | ⟨bs, hpast, hfs⟩
  · -- the sync would come after the failure
    cases as with
    | nil =>
      obtain ⟨rfl, -⟩ := List.cons.inj hfs
      cases hf
    | cons a as =>
      obtain ⟨-, hrest⟩ := List.cons.inj hfs
      have := hno .synced (by rw [hrest]; simp)
      cases this
  · cases bs with
    | nil =>
      obtain ⟨rfl, -⟩ := List.cons.inj hfs
      cases hf
    | cons b bs =>
      obtain ⟨rfl, -⟩ := List.cons.inj hfs
      exact ⟨before, record, text, mid ++ .synced :: bs, by rw [hpast]; simp, by simp⟩

/-- When a barrier was acknowledged and the cell of its client is empty, all earlier records of the client were covered
before the acknowledgement. A record that a failure has hit was reported before any later barrier of its client was
acknowledged. -/
theorem acked_durable (h : Reaches platform signer eventCount s) {past rest : List Event} {b failure : Nat}
    (hack : s.trace = past ++ .acked b :: rest) (hb : s.queued[b]? = some (.barrier failure)) :
    ∀ t < b, ∀ event standalone, s.queued[t]? = some (.record event failure standalone) →
      (s.cells failure = none → Covered past t) ∧
      (Lost past t → .reported failure ∈ past ∧ s.cells failure ≠ none) := by
  have hI := durableInv_reaches h
  intro t ht event standalone hrec
  obtain ⟨failure', hb', hall⟩ := hI.client.acks past (.acked b) rest hack
  cases Option.some.inj (hb'.symm.trans hb)
  have hset : .reported failure ∈ past → s.cells failure ≠ none := fun hmem =>
    (hI.client.cells failure).mpr (by rw [hack]; exact List.mem_append_left _ hmem)
  rcases hall t ht event standalone hrec with hcovered | hreported
  · refine ⟨fun _ => hcovered, fun ⟨before, f, after, heq, hf, hnot⟩ => absurd ?_ hnot⟩
    have hquiet : Each Quiet past := fun p e r hp => hI.sink.quiet p e (r ++ .acked b :: rest) (by rw [hack, hp]; simp)
    exact covered_of_quiet hquiet heq hf hcovered
  · exact ⟨fun hnone => absurd hnone (hset hreported), fun _ => ⟨hreported, hset hreported⟩⟩

variable (signer) in
/-- A client queues a record and a barrier, which are committed together. -/
theorem exampleAcked (htotal : ∀ body, ∃ hash, hashRecord platform body = .ok hash) :
    ∃ past s, Reaches platform signer 100 s ∧ s.queued = [.record exampleEvent 0 false, .barrier 0] ∧ s.cells 0 = none ∧
      s.trace = past ++ [.acked 1] := by
  obtain ⟨chain, record, text, hstart, hstate, hnext, hcount, -⟩ := exampleStart htotal
  obtain ⟨hash, hhash⟩ := htotal (recordBody chain (toString (5 : UInt64).toNat) exampleEvent)
  obtain ⟨text', -, hwrite⟩ := writeEvent_ok hstate hhash (by rw [hnext]; decide) (by rw [hcount]; decide) (some 0)
  rw [hnext, hcount] at hwrite
  let s₀ := exampleStarted chain record text
  have htake := take_written (s := { s₀ with queued := [.record exampleEvent 0 false, .barrier 0] }) rfl rfl rfl hwrite
  have hrun : Run.run (step platform signer 100) s₀ [.send (.record exampleEvent 0 false), .send (.barrier 0),
      .take ⟨.ok 5, .ok ()⟩, .take ⟨.ok 5, .ok ()⟩, .drained, .commit ⟨.ok 6, .ok ([], []), .ok (), .ok ()⟩] = some _ :=
    Run.run_of_step rfl (Run.run_of_step rfl (Run.run_of_step htake rfl))
  exact ⟨[.record none record text true, .synced, .took 0,
    .record (some 0) ⟨recordBody chain (toString (5 : UInt64).toNat) exampleEvent, hash⟩ text' true, .took 1, .synced],
    _, ⟨_, _, _, _, _, hstart, hrun⟩, rfl, rfl, rfl⟩

theorem acked_durable_example : ∃ past s, Reaches examplePlatform exampleSigner 100 s ∧ s.trace = past ++ [.acked 1] ∧
    s.cells 0 = none ∧ Covered past 0 := by
  obtain ⟨past, s, hreach, hqueued, hcell, htrace⟩ := exampleAcked exampleSigner hashRecord_example
  have hdurable := acked_durable hreach htrace (by rw [hqueued]; rfl) 0 (by decide) exampleEvent false
    (by rw [hqueued]; rfl)
  exact ⟨past, s, hreach, htrace, hcell, hdurable.1 hcell⟩

/-- The handed records are numbered from 0 and each carries the hash of the one before. After a failure nothing uses the
sink any more, and every record that is taken from the channel is reported. -/
theorem poisoned_stays (h : Reaches platform signer eventCount s) :
    (∀ (i : Nat) (record : AuditChainRecord), (handed s.trace)[i]? = some record →
      record.body.sequence.toNat = i ∧ hashRecord platform record.body = .ok record.eventHash ∧
      record.body.prevHash = (((handed s.trace).take i).getLast?.map AuditChainRecord.eventHash).getD genesisHash) ∧
    ∀ past f rest, s.trace = past ++ f :: rest → f.isFailure = true →
      (∀ e ∈ rest, e.usesSink = false) ∧
      ∀ ticket event failure standalone, .took ticket ∈ rest →
        s.queued[ticket]? = some (.record event failure standalone) → .reported failure ∈ rest ∧
        s.cells failure ≠ none := by
  have hI := durableInv_reaches h
  refine ⟨fun i record hi => ?_, fun past f rest htrace hf => ⟨quiet_rest hI.sink.quiet htrace hf, ?_⟩⟩
  · obtain ⟨past, e, rest, htrace, he, hpast⟩ := filterMap_getElem? hi
    have hlink := hI.sink.linked past e rest htrace
    have hlen : i < (handed s.trace).length := (List.getElem?_eq_some_iff.mp hi).1
    cases e with
    | record ticket r text persisted =>
      cases he
      obtain ⟨hseq, hprev, hhash⟩ := hlink
      rw [hseq, hprev, lastHash, show handed past = (handed s.trace).take i from hpast, List.length_take]
      exact ⟨by omega, hhash, rfl⟩
    | _ => cases he
  · intro ticket event failure standalone htook hq
    obtain ⟨l₁, l₂, rfl⟩ := List.append_of_mem htook
    have hmem := hI.client.answered (past ++ f :: l₁) ticket l₂ (by rw [htrace]; simp) ⟨f, by simp, hf⟩ event failure
      standalone hq
    have hcell : s.cells failure ≠ none := (hI.client.cells failure).mpr (by rw [htrace]; simp [hmem])
    exact ⟨by simp [hmem], hcell⟩

variable (signer) in
/-- The first of two records cannot be written. -/
theorem examplePoisoned (htotal : ∀ body, ∃ hash, hashRecord platform body = .ok hash) :
    ∃ past rest s, Reaches platform signer 100 s ∧
      s.queued = [.record exampleEvent 0 false, .record exampleEvent 1 false] ∧
      s.trace = past ++ .failed :: rest ∧ .took 1 ∈ rest := by
  obtain ⟨chain, record, text, hstart, hstate, -, -⟩ := exampleStart htotal
  obtain ⟨hash, hhash⟩ := htotal (recordBody chain (toString (5 : UInt64).toNat) exampleEvent)
  obtain ⟨text', hbuild⟩ := buildRecord_fits hstate hhash
  have hwrite : writeEvent platform chain (some 0) exampleEvent ⟨.ok 5, .error "disk full"⟩ =
      (chain, [.record (some 0) ⟨recordBody chain (toString (5 : UInt64).toNat) exampleEvent, hash⟩ text' false],
        .error (.internal "cannot persist audit record: disk full")) := by
    unfold writeEvent
    rw [hbuild]
    rfl
  let s₀ := exampleStarted chain record text
  have htake := take_failed
    (s := { s₀ with queued := [.record exampleEvent 0 false, .record exampleEvent 1 false] }) rfl rfl rfl hwrite
  have hrun : Run.run (step platform signer 100) s₀ [.send (.record exampleEvent 0 false),
      .send (.record exampleEvent 1 false), .take ⟨.ok 5, .error "disk full"⟩, .take ⟨.ok 5, .ok ()⟩] = some _ :=
    Run.run_of_step rfl (Run.run_of_step rfl (Run.run_of_step htake rfl))
  exact ⟨[.record none record text true, .synced, .took 0,
    .record (some 0) ⟨recordBody chain (toString (5 : UInt64).toNat) exampleEvent, hash⟩ text' false],
    [.reported 0, .took 1, .reported 1], _, ⟨_, _, _, _, _, hstart, hrun⟩, rfl, rfl, by simp⟩

theorem poisoned_stays_example : ∃ past rest s, Reaches examplePlatform exampleSigner 100 s ∧
    s.trace = past ++ .failed :: rest ∧ (∀ e ∈ rest, e.usesSink = false) ∧ .reported 1 ∈ rest ∧ s.cells 1 ≠ none := by
  obtain ⟨past, rest, s, hreach, hqueued, htrace, htook⟩ := examplePoisoned exampleSigner hashRecord_example
  obtain ⟨hquiet, hreported⟩ := (poisoned_stays hreach).2 past .failed rest htrace rfl
  obtain ⟨hmem, hcell⟩ := hreported 1 exampleEvent 1 false htook (by rw [hqueued]; rfl)
  exact ⟨past, rest, s, hreach, htrace, hquiet, hmem, hcell⟩

end Vectis.Core.AuditChain
