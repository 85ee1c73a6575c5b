import Vectis.Io.Http.Lifecycle

/-!
# The key cache and acknowledged lifecycle changes

The three writers of a cache (an update, a cache miss, a reload) read the table at one step and write the cache at a
later one. Nothing compares the two: a row that was read before a change can land after the change was acknowledged.

- `NotBehind`: a key that passes a gate has a status that the row held at, or since, every acknowledged change to a
  status that the gate refuses;
- `Undisturbed`: when such a change is acknowledged, no other request of the node is between its read of the row and its
  write of the cache;
- `notBehind_of_undisturbed`: the first holds in every run whose steps all meet the second;
- `notBehind_reload`: a run in which a reload that listed the rows before the change replaces the cache after it.
-/

namespace Vectis.Io.Http.Keys

open Core.Storage Core.Validation Ops.Keys

variable {K : Type} {keys : InternalKeys K} {backend : Backend} {s : State K}

/-! ## Acknowledged changes -/

/-- The kid, the status and the committed version of an update that was answered with success. -/
def Request.acked (req : Request K) : Option (String × String × Nat) :=
  match req.task, req.pc with
  | .updateLifecycle kid status _, .done (some committed) (.ok _) => some (kid, status, committed)
  | _, _ => none

/-- An update of `kid` to `status` on `node` was answered with success; it has committed version `m`. -/
def Acked (s : State K) (node : Nat) (kid status : String) (m : Nat) : Prop :=
  ∃ req ∈ s.requests, req.node = node ∧ req.acked = some (kid, status, m)

/-- A lookup that passes the gate sees a status of the row that is not from before an acknowledged change to a status
that the gate refuses. -/
def NotBehind (keys : InternalKeys K) (gate : Gate) (s : State K) : Prop :=
  ∀ node kid status m, Acked s node kid status m → gate.passes status = false →
    ∀ cached, (s.caches node).get kid = some cached → gate.passes cached.key.lifecycleStatus = true →
      ∃ n v, m ≤ n ∧ (s.db.records kid).versions[n]? = some v ∧
        statusOf keys v.properties = some cached.key.lifecycleStatus

/-- The keys that the next step of a request puts into the cache of its node. -/
def writes (cache : Cache K) : Task → Pc K → List (Cached K)
  | .updateLifecycle _ _ _, .upserting _ _ cached => [cached]
  | .ensureEntry _, .inserting cached => if cache.containsId cached.id then [] else [cached]
  | .reload, .replacing cached => cached
  | _, _ => []

/-- The request is between its read of the row of `kid` and its write of the cache. -/
def between (kid : String) : Task → Pc K → Bool
  | .updateLifecycle k _ _, .upserting _ _ _ => k = kid
  | .ensureEntry k, .inserting _ => k = kid
  | .reload, .listed _ | .reload, .replacing _ => true
  | _, _ => false

/-- The key of an update to a status that the gate refuses, when the next step of the update answers it with success. -/
def acknowledges (gate : Gate) : Task → Pc K → Option String
  | .updateLifecycle kid status _, .upserting _ _ _ => if gate.passes status then none else some kid
  | _, _ => none

/-- When the step acknowledges a change of a key to a status that the gate refuses, no other request of the node is
between its read of the row of the key and its write of the cache. -/
def Undisturbed (gate : Gate) (s : State K) : Action → Prop
  | .advance r _ => ∀ req ∈ s.requests[r]?, ∀ kid ∈ acknowledges gate req.task req.pc,
      ∀ other ∈ s.requests.zipIdx, other.2 ≠ r → other.1.node = req.node → between kid other.1.task other.1.pc = false
  | _ => True

instance decidableUndisturbed (gate : Gate) (s : State K) : ∀ a, Decidable (Undisturbed gate s a)
  | .begin _ _ => isTrue trivial
  | .advance _ _ => by unfold Undisturbed; infer_instance
  | .fail _ _ => isTrue trivial

theorem acked_eq_some {req : Request K} {kid status : String} {m : Nat} (h : req.acked = some (kid, status, m)) :
    (∃ reason, req.task = .updateLifecycle kid status reason) ∧ ∃ output, req.pc = .done (some m) (.ok output) := by
  unfold Request.acked at h
  split at h
  · rename_i kid' status' reason committed output htask hpc
    cases h
    exact ⟨⟨reason, htask⟩, output, hpc⟩
  · cases h

/-! ## Loaded keys and the table -/

/-- The key holds the status of the version that it was loaded from. -/
def Loaded (keys : InternalKeys K) (db : Db) (cached : Cached K) : Prop :=
  ∃ v, (db.records cached.id).versions[cached.version]? = some v ∧
    statusOf keys v.properties = some cached.key.lifecycleStatus

/-- Versions are only added. -/
def Grows (db db' : Db) : Prop :=
  ∀ kid, ∃ added, (db'.records kid).versions = (db.records kid).versions ++ added

theorem Grows.refl (db : Db) : Grows db db := fun _ => ⟨[], (List.append_nil _).symm⟩

theorem Grows.getElem? {db db' : Db} (h : Grows db db') {kid : String} {n : Nat} {v : Version}
    (hv : (db.records kid).versions[n]? = some v) : (db'.records kid).versions[n]? = some v := by
  obtain ⟨added, hadded⟩ := h kid
  rw [hadded, List.getElem?_append_left (List.getElem?_eq_some_iff.mp hv).1]
  exact hv

theorem Grows.latest {db db' : Db} (h : Grows db db') (kid : String) :
    (db.records kid).latest ≤ (db'.records kid).latest := by
  obtain ⟨added, hadded⟩ := h kid
  have hlen := congrArg List.length hadded
  rw [List.length_append, length_versions, length_versions] at hlen
  omega

theorem grows_commit (db : Db) (kid : String) (version : Version) :
    Grows db (db.set kid ((db.records kid).commit version)) := by
  intro k
  rw [records_set]
  split
  · rename_i hk
    exact ⟨[version], by rw [hk, versions_commit]⟩
  · exact ⟨[], (List.append_nil _).symm⟩

theorem grows_lock (db : Db) (kid : String) (lock : Option Nat) :
    Grows db (db.set kid { db.records kid with lock := lock }) := by
  intro k
  rw [records_set]
  split
  · rename_i hk
    exact ⟨[], by rw [hk, List.append_nil]; rfl⟩
  · exact ⟨[], (List.append_nil _).symm⟩

theorem Loaded.grows {db db' : Db} {cached : Cached K} (h : Grows db db') (hl : Loaded keys db cached) :
    Loaded keys db' cached := by
  obtain ⟨v, hv, hstatus⟩ := hl
  exact ⟨v, h.getElem? hv, hstatus⟩

/-- A row of a list of the table, and its version. -/
def Listed (db : Db) (entry : OpsKeyRow × Nat) : Prop :=
  ∃ v, (db.records entry.1.kid).versions[entry.2]? = some v ∧ v.properties = entry.1.properties

theorem Listed.grows {db db' : Db} {entry : OpsKeyRow × Nat} (h : Grows db db') (hl : Listed db entry) :
    Listed db' entry := by
  obtain ⟨v, hv, hp⟩ := hl
  exact ⟨v, h.getElem? hv, hp⟩

theorem loadRow_ok {db : Db} {row : OpsKeyRow} {version : Nat} {cached : Cached K} (hrow : Listed db (row, version))
    (h : loadRow keys row version = .ok cached) : Loaded keys db cached ∧ cached.id = row.kid ∧
    cached.version = version := by
  unfold loadRow at h
  cases hload : loadOpsKeyFromRow keys row with
  | error err => rw [hload] at h; cases h
  | ok key =>
    rw [hload] at h
    cases h
    obtain ⟨hid, hstatus⟩ := loadOpsKeyFromRow_ok hload
    obtain ⟨v, hv, hp⟩ := hrow
    refine ⟨⟨v, ?_, by rw [hp]; exact hstatus⟩, hid, rfl⟩
    show (db.records key.id).versions[version]? = some v
    rw [hid]
    exact hv

theorem listed_row (db : Db) (kid : String) : Listed db (db.row kid, (db.records kid).latest) :=
  ⟨_, getElem?_latest _, rfl⟩

/-- A key that was loaded just now is of the latest version. -/
theorem loadKeysDbEntry_ok {db : Db} {kid : String} {cached : Cached K} (h : loadKeysDbEntry keys db kid = .ok cached) :
    Loaded keys db cached ∧ cached.id = kid ∧ cached.version = (db.records kid).latest := by
  obtain ⟨-, -, h⟩ := Loop.bind_eq_ok.mp h
  obtain ⟨⟨row, version⟩, hget, h⟩ := Loop.bind_eq_ok.mp h
  obtain ⟨-, rfl, rfl⟩ := getOpsKeys_ok hget
  exact loadRow_ok (listed_row db kid) h

theorem listOpsKeys_ok {db : Db} {rows : List (OpsKeyRow × Nat)} (h : listOpsKeys keys db = .ok rows) :
    ∀ entry ∈ rows, Listed db entry ∧ entry.2 = (db.records entry.1.kid).latest := by
  obtain ⟨-, -, h⟩ := Loop.bind_eq_ok.mp h
  cases h
  intro entry hentry
  obtain ⟨kid, -, rfl⟩ := List.mem_map.mp hentry
  exact ⟨listed_row db kid, rfl⟩

theorem loadKeysFromRows_ok {db : Db} {rows : List (OpsKeyRow × Nat)} {failed : List Nat}
    (hrows : ∀ entry ∈ rows, Listed db entry) : ∀ cached ∈ loadKeysFromRows keys rows failed,
      Loaded keys db cached ∧ ∃ entry ∈ rows, cached.id = entry.1.kid ∧ cached.version = entry.2 := by
  intro cached hcached
  obtain ⟨⟨⟨row, version⟩, i⟩, hentry, hload⟩ := List.mem_filterMap.mp hcached
  have hmem : (row, version) ∈ rows := List.mem_of_getElem? (List.mem_zipIdx_iff_getElem?.mp hentry)
  split at hload
  · cases hload
  · cases hres : loadRow keys row version with
    | error err => simp only [hres, Except.toOption] at hload; cases hload
    | ok loaded =>
      simp only [hres, Except.toOption, Option.some.injEq] at hload
      subst hload
      obtain ⟨hloaded, hid, hversion⟩ := loadRow_ok (hrows _ hmem) hres
      exact ⟨hloaded, _, hmem, hid, hversion⟩

/-! ## What requests hold -/

/-- The keys and rows that a request holds come from the table; what an update has read back is not older than what it
has committed. -/
def Holds (keys : InternalKeys K) (db : Db) : Task → Pc K → Prop
  | .updateLifecycle kid _ _, .readingBack committed _ => committed ≤ (db.records kid).latest
  | .updateLifecycle kid _ _, .rereading committed _ => committed ≤ (db.records kid).latest
  | .updateLifecycle kid _ _, .upserting committed _ cached =>
    Loaded keys db cached ∧ cached.id = kid ∧ committed ≤ cached.version
  | .ensureEntry kid, .inserting cached => Loaded keys db cached ∧ cached.id = kid
  | .reload, .listed rows => ∀ entry ∈ rows, Listed db entry
  | .reload, .replacing cached => ∀ c ∈ cached, Loaded keys db c
  | _, _ => True

theorem Holds.grows {db db' : Db} (hg : Grows db db') {task : Task} {pc : Pc K} (h : Holds keys db task pc) :
    Holds keys db' task pc := by
  unfold Holds at h ⊢
  split at h
  · exact Nat.le_trans h (hg.latest _)
  · exact Nat.le_trans h (hg.latest _)
  · exact ⟨h.1.grows hg, h.2⟩
  · exact ⟨h.1.grows hg, h.2⟩
  · exact fun entry hentry => (h entry hentry).grows hg
  · exact fun c hc => (h c hc).grows hg
  · trivial

/-- What a request is about to write comes from the table. -/
theorem loaded_of_writes {db : Db} {cache : Cache K} {task : Task} {pc : Pc K} (h : Holds keys db task pc) :
    ∀ cached ∈ writes cache task pc, Loaded keys db cached := by
  intro cached hcached
  unfold writes at hcached
  split at hcached
  · rw [List.mem_singleton.mp hcached]
    exact h.1
  · split at hcached
    · cases hcached
    · rw [List.mem_singleton.mp hcached]
      exact h.1
  · exact h cached hcached
  · cases hcached

/-- The keys that a request has read and not yet written, with the versions of their rows. -/
def held : Task → Pc K → List (String × Nat)
  | .updateLifecycle _ _ _, .upserting _ _ cached => [(cached.id, cached.version)]
  | .ensureEntry _, .inserting cached => [(cached.id, cached.version)]
  | .reload, .listed rows => rows.map fun entry => (entry.1.kid, entry.2)
  | .reload, .replacing cached => cached.map fun c => (c.id, c.version)
  | _, _ => []

theorem held_of_writes {cache : Cache K} {task : Task} {pc : Pc K} {cached : Cached K}
    (h : cached ∈ writes cache task pc) :
    (cached.id, cached.version) ∈ held task pc := by
  unfold writes at h
  split at h
  · rw [List.mem_singleton.mp h]
    exact List.mem_singleton_self _
  · split at h
    · cases h
    · rw [List.mem_singleton.mp h]
      exact List.mem_singleton_self _
  · exact List.mem_map_of_mem h
  · cases h

theorem held_done (task : Task) (committed : Option Nat) (reply : Res Output) :
    held task (.done committed reply : Pc K) = [] := by
  cases task <;> rfl

/-- A request that holds a key has read its row and not yet written it. -/
theorem between_of_held {db : Db} {task : Task} {pc : Pc K} {entry : String × Nat} (h : Holds keys db task pc)
    (hentry : entry ∈ held task pc) : between entry.1 task pc = true := by
  unfold held at hentry
  split at hentry
  · rw [List.mem_singleton.mp hentry]
    exact decide_eq_true h.2.1.symm
  · rw [List.mem_singleton.mp hentry]
    exact decide_eq_true h.2.symm
  · rfl
  · rfl
  · cases hentry

/-- What a step does to the cache: entries are old ones or written ones, and what the request holds it held before or
has just read. A request that is answered with success after a commit has just put its key into the cache. -/
structure CacheStep (keys : InternalKeys K) (s : State K) (cache : Cache K) (task : Task) (pc : Pc K)
    (effect : Effect K) :
    Prop where
  grows : Grows s.db effect.db
  holds : Holds keys effect.db task effect.pc
  wellFormed : effect.cache.WellFormed Cached.id
  entries : ∀ kid cached, effect.cache.get kid = some cached →
    cache.get kid = some cached ∨ (cached.id = kid ∧ cached ∈ writes cache task pc)
  fresh : ∀ entry ∈ held task effect.pc, entry ∈ held task pc ∨ entry.2 = (s.db.records entry.1).latest
  acked : ∀ m output, effect.pc = .done (some m) (.ok output) → ∀ kid status reason,
    task = .updateLifecycle kid status reason → m ≤ (s.db.records kid).latest ∧ held task effect.pc = [] ∧
      (∃ lifecycle cached, pc = .upserting m lifecycle cached) ∧
      ∀ cached, effect.cache.get kid = some cached → m ≤ cached.version

section Steps

variable {r : Nat} {cache : Cache K} {env : Env} {effect : Effect K}

/-- A step that leaves the cache alone and answers nothing. -/
theorem cacheStep_quiet {task : Task} {pc : Pc K} (hw : cache.WellFormed Cached.id) (hcache : effect.cache = cache)
    (hgrows : Grows s.db effect.db) (hholds : Holds keys effect.db task effect.pc)
    (hfresh : ∀ entry ∈ held task effect.pc, entry ∈ held task pc ∨ entry.2 = (s.db.records entry.1).latest)
    (hpc : ∀ m output, effect.pc ≠ .done (some m) (.ok output)) : CacheStep keys s cache task pc effect :=
  ⟨hgrows, hholds, hcache ▸ hw, fun _ _ h => Or.inl (hcache ▸ h), hfresh, fun m output h => absurd h (hpc m output)⟩

theorem orFail_ne_ok {α : Type} {committed : Option Nat} {result : Res α} {next : α → Pc K}
    (hnext : ∀ a, ∀ m output, next a ≠ .done (some m) (.ok output)) (m : Nat) (output : Output) :
    orFail committed result next ≠ .done (some m) (.ok output) :=
  orFail_cases (P := fun pc => pc ≠ .done (some m) (.ok output)) (fun _ h => by cases h) fun a _ => hnext a m output

theorem orFail_holds {α : Type} {db : Db} {task : Task} {committed : Option Nat} {result : Res α} {next : α → Pc K}
    (hnext : ∀ a, result = .ok a → Holds keys db task (next a)) : Holds keys db task (orFail committed result next) :=
  orFail_cases (P := Holds keys db task) (fun _ => by unfold Holds; split <;> trivial) hnext

theorem orFail_fresh {α : Type} {task : Task} {committed : Option Nat} {result : Res α} {next : α → Pc K}
    {P : String × Nat → Prop} (hnext : ∀ a, result = .ok a → ∀ entry ∈ held task (next a), P entry) :
    ∀ entry ∈ held task (orFail committed result next), P entry :=
  orFail_cases (P := fun pc => ∀ entry ∈ held task pc, P entry) (fun _ entry h => by rw [held_done] at h; cases h) hnext

theorem get_upsert_entries {key cached : Cached K} {kid : String} (hw : cache.WellFormed Cached.id)
    (h : (cache.upsert Cached.id key).get kid = some cached) :
    cache.get kid = some cached ∨ (cached.id = kid ∧ cached = key) := by
  rw [KeysDbState.get_upsert hw] at h
  split at h
  · rename_i hid
    cases h
    exact Or.inr ⟨hid.symm, rfl⟩
  · exact Or.inl h

theorem cacheStep_advanceUpdate {kid status reason : String} {pc : Pc K} (hw : cache.WellFormed Cached.id)
    (hok : Holds keys s.db (.updateLifecycle kid status reason) pc)
    (h : advanceUpdate keys backend s r cache env kid status reason pc = some effect) :
    CacheStep keys s cache (.updateLifecycle kid status reason) pc effect := by
  have hcommit : ∀ version, (s.db.records kid).latest + 1 ≤
      (((s.db.set kid ((s.db.records kid).commit version))).records kid).latest := by
    intro version
    rw [records_set, if_pos rfl]
    simp [KeyRecord.latest, KeyRecord.commit, KeyRecord.versions]
  cases pc with
  | start =>
    cases h
    exact cacheStep_quiet hw rfl (Grows.refl _) (orFail_holds fun _ _ => trivial)
      (orFail_fresh fun _ _ _ h => by cases h) (orFail_ne_ok fun _ _ _ h => by cases h)
  | sealing row read =>
    simp only [advanceUpdate] at h
    split at h
    · cases h
      exact cacheStep_quiet hw rfl (Grows.refl _) trivial (fun _ h => by cases h) fun _ _ h => by cases h
    · split at h <;> cases h
      exact cacheStep_quiet hw rfl (Grows.refl _) trivial (fun _ h => by cases h) fun _ _ h => by cases h
  | swapping row read envelope lifecycle =>
    simp only [advanceUpdate] at h
    split at h
    · cases h
      exact cacheStep_quiet hw rfl (Grows.refl _) trivial (fun _ h => by cases h) fun _ _ h => by cases h
    · split at h
      · split at h <;> cases h
        · exact cacheStep_quiet hw rfl (grows_commit _ _ _) (hcommit _) (fun _ h => by cases h) fun _ _ h => by cases h
        · exact cacheStep_quiet hw rfl (Grows.refl _) trivial (fun _ h => by cases h) fun _ _ h => by cases h
      · split at h
        · split at h <;> cases h
          exact cacheStep_quiet hw rfl (grows_lock _ _ _) trivial (fun _ h => by cases h) fun _ _ h => by cases h
        · cases h
          exact cacheStep_quiet hw rfl (Grows.refl _) trivial (fun _ h => by cases h) fun _ _ h => by cases h
  | committing row read envelope lifecycle =>
    cases h
    exact cacheStep_quiet hw rfl (grows_commit _ _ _) (hcommit _) (fun _ h => by cases h) fun _ _ h => by cases h
  | readingBack committed lifecycle =>
    cases h
    exact cacheStep_quiet hw rfl (Grows.refl _) (orFail_holds fun _ _ => hok) (orFail_fresh fun _ _ _ h => by cases h)
      (orFail_ne_ok fun _ _ _ h => by cases h)
  | rereading committed lifecycle =>
    cases h
    refine cacheStep_quiet hw rfl (Grows.refl _) (orFail_holds fun cached hload => ?_)
      (orFail_fresh fun cached hload entry hentry => Or.inr ?_) (orFail_ne_ok fun _ _ _ h => by cases h)
    · obtain ⟨hloaded, hid, hversion⟩ := loadKeysDbEntry_ok hload
      exact ⟨hloaded, hid, hversion ▸ hok⟩
    · obtain ⟨-, hid, hversion⟩ := loadKeysDbEntry_ok hload
      rw [List.mem_singleton.mp hentry, hversion, hid]
  | upserting committed lifecycle cached =>
    cases h
    obtain ⟨⟨v, hv, -⟩, hid, hle⟩ := hok
    refine ⟨Grows.refl _, trivial, KeysDbState.wellFormed_upsert hw cached, fun k c hc => ?_, (fun _ h => by cases h),
      fun m output hpc k st re ht => ?_⟩
    · rcases get_upsert_entries hw hc with hold | ⟨hck, rfl⟩
      · exact Or.inl hold
      · exact Or.inr ⟨hck, List.mem_singleton.mpr rfl⟩
    · cases hpc
      cases ht
      have hlatest : cached.version ≤ (s.db.records kid).latest := by
        have hlt := (List.getElem?_eq_some_iff.mp hv).1
        rw [length_versions, hid] at hlt
        exact Nat.le_of_lt_succ hlt
      refine ⟨Nat.le_trans hle hlatest, rfl, ⟨_, _, rfl⟩, fun c hc => ?_⟩
      have hnew : (cache.upsert Cached.id cached).get kid = some cached := by
        rw [KeysDbState.get_upsert hw, if_pos hid.symm]
      rw [Option.some.inj (hc.symm.trans hnew)]
      exact hle
  | _ => cases h

theorem cacheStep_advanceEnsure {kid : String} {pc : Pc K} (hw : cache.WellFormed Cached.id)
    (h : advanceEnsure keys s cache kid pc = some effect) : CacheStep keys s cache (.ensureEntry kid) pc effect := by
  cases pc with
  | start =>
    cases h
    refine cacheStep_quiet hw rfl (Grows.refl _) (orFail_holds fun _ _ => ?_) (orFail_fresh fun _ _ => ?_)
      (orFail_ne_ok fun _ _ _ => ?_)
    · split <;> trivial
    · split <;> (intro _ h; cases h)
    · split <;> (intro h; cases h)
  | missing =>
    cases h
    refine cacheStep_quiet hw rfl (Grows.refl _) ?_ ?_ fun _ _ => ?_
    · simp only [go]
      split <;> trivial
    · simp only [go]
      split <;> (intro _ h; cases h)
    · simp only [go]
      split <;> (intro h; cases h)
  | loading =>
    cases h
    refine cacheStep_quiet hw rfl (Grows.refl _) (orFail_holds fun cached hload => ?_)
      (orFail_fresh fun cached hload entry hentry => Or.inr ?_) (orFail_ne_ok fun _ _ _ h => by cases h)
    · obtain ⟨hloaded, hid, -⟩ := loadKeysDbEntry_ok hload
      exact ⟨hloaded, hid⟩
    · obtain ⟨-, hid, hversion⟩ := loadKeysDbEntry_ok hload
      rw [List.mem_singleton.mp hentry, hversion, hid]
  | inserting cached =>
    cases h
    unfold KeysDbState.insertIfAbsent
    by_cases hin : cache.containsId cached.id = true
    · rw [if_pos hin]
      exact cacheStep_quiet hw rfl (Grows.refl _) trivial (fun _ h => by cases h) fun _ _ h => by cases h
    · rw [if_neg hin]
      refine ⟨Grows.refl _, trivial, KeysDbState.wellFormed_upsert hw cached, fun k c hc => ?_, (fun _ h => by cases h),
        fun _ _ h => by cases h⟩
      rcases get_upsert_entries hw hc with hold | ⟨hck, rfl⟩
      · exact Or.inl hold
      · exact Or.inr ⟨hck, by simp [writes, hin]⟩
  | _ => cases h

theorem cacheStep_advanceReload {pc : Pc K} (hw : cache.WellFormed Cached.id) (hok : Holds keys s.db .reload pc)
    (h : advanceReload keys s cache env pc = some effect) : CacheStep keys s cache .reload pc effect := by
  cases pc with
  | start =>
    cases h
    refine cacheStep_quiet hw rfl (Grows.refl _) (orFail_holds fun _ hlist entry hentry =>
      (listOpsKeys_ok hlist entry hentry).1) (orFail_fresh fun rows hlist entry hentry => Or.inr ?_)
        (orFail_ne_ok fun _ _ _ h => by cases h)
    obtain ⟨row, hrow, rfl⟩ := List.mem_map.mp hentry
    exact (listOpsKeys_ok hlist row hrow).2
  | listed rows =>
    cases h
    refine cacheStep_quiet hw rfl (Grows.refl _) (fun cached hcached => (loadKeysFromRows_ok hok cached hcached).1)
      (fun entry hentry => Or.inl ?_) fun _ _ h => by cases h
    obtain ⟨cached, hcached, rfl⟩ := List.mem_map.mp hentry
    obtain ⟨-, row, hrow, hid, hversion⟩ := loadKeysFromRows_ok hok cached hcached
    rw [hid, hversion]
    exact List.mem_map_of_mem hrow
  | replacing cached =>
    cases h
    refine ⟨Grows.refl _, trivial, KeysDbState.wellFormed_fromKeys cached, fun k c hc => ?_, (fun _ h => by cases h),
      fun _ _ h => by cases h⟩
    obtain ⟨hmem, hid⟩ := KeysDbState.get_fromKeys hc
    exact Or.inr ⟨hid, hmem⟩
  | _ => cases h

theorem cacheStep_advance {task : Task} {pc : Pc K} (hw : cache.WellFormed Cached.id) (hok : Holds keys s.db task pc)
    (h : advance keys backend s r cache env task pc = some effect) : CacheStep keys s cache task pc effect := by
  cases task with
  | updateLifecycle kid status reason => exact cacheStep_advanceUpdate hw hok h
  | ensureEntry kid => exact cacheStep_advanceEnsure hw h
  | reload => exact cacheStep_advanceReload hw hok h

end Steps

/-! ## Runs -/

/-- Nothing on a node, in the cache or in the hand of a request, is from before a change to a status that the gate
refuses which the node has acknowledged. -/
structure CacheInv (keys : InternalKeys K) (gate : Gate) (s : State K) : Prop where
  wellFormed : ∀ node, (s.caches node).WellFormed Cached.id
  holds : ∀ req ∈ s.requests, Holds keys s.db req.task req.pc
  loaded : ∀ node kid cached, (s.caches node).get kid = some cached → cached.id = kid ∧ Loaded keys s.db cached
  committed : ∀ node kid status m, Acked s node kid status m → m ≤ (s.db.records kid).latest
  inHand : ∀ req ∈ s.requests, ∀ entry ∈ held req.task req.pc, ∀ status m, Acked s req.node entry.1 status m →
    gate.passes status = false → m ≤ entry.2
  inCache : ∀ node kid status m, Acked s node kid status m → gate.passes status = false →
    ∀ cached, (s.caches node).get kid = some cached → m ≤ cached.version

theorem CacheInv.notBehind {gate : Gate} (hI : CacheInv keys gate s) : NotBehind keys gate s := by
  intro node kid status m hacked hrefused cached hget _
  obtain ⟨rfl, v, hv, hstatus⟩ := hI.loaded node kid cached hget
  exact ⟨cached.version, v, hI.inCache node _ status m hacked hrefused cached hget, hv, hstatus⟩

/-- After a step of `req`, an acknowledgement is an old one or its own. -/
theorem acked_set {r : Nat} {req : Request K} {db' : Db} {sealed' : List String} {caches' : Nat → Cache K} {pc' : Pc K}
    {node m : Nat} {kid status : String}
    (h : Acked (⟨db', sealed', caches', s.requests.set r { req with pc := pc' }⟩ : State K) node kid status m) :
    Acked s node kid status m ∨ (req.node = node ∧ (∃ reason, req.task = .updateLifecycle kid status reason) ∧
      ∃ output, pc' = .done (some m) (.ok output)) := by
  obtain ⟨q, hq, hnode, hacked⟩ := h
  rcases List.mem_or_eq_of_mem_set hq with hq | rfl
  · exact Or.inl ⟨q, hq, hnode, hacked⟩
  · exact Or.inr ⟨hnode, acked_eq_some hacked⟩

/-- After a step of request `r`, a request is that one or another that was there before. -/
theorem mem_set_cases {r : Nat} {req req' q : Request K} (hreq : s.requests[r]? = some req)
    (hq : q ∈ s.requests.set r req') : q = req' ∨ ∃ i, i ≠ r ∧ (q, i) ∈ s.requests.zipIdx := by
  obtain ⟨i, hi⟩ := List.mem_iff_getElem?.mp hq
  by_cases hir : i = r
  · subst hir
    rw [List.getElem?_set_self (List.getElem?_eq_some_iff.mp hreq).1] at hi
    exact Or.inl (Option.some.inj hi).symm
  · rw [List.getElem?_set_ne (Ne.symm hir)] at hi
    exact Or.inr ⟨i, hir, List.mem_zipIdx_iff_getElem?.mpr hi⟩

theorem cacheInv_step {gate : Gate} (s : State K) (a : Action) (s' : State K) (hI : CacheInv keys gate s)
    (hC : Undisturbed gate s a) (h : step keys backend s a = some s') : CacheInv keys gate s' := by
  cases a with
  | begin node task =>
    cases h
    have hold : ∀ n kid status m, Acked { s with requests := s.requests ++ [⟨node, task, .start⟩] } n kid status m →
        Acked s n kid status m := by
      rintro n kid status m ⟨req, hreq, hnode, hacked⟩
      rcases List.mem_append.mp hreq with hreq | hreq
      · exact ⟨req, hreq, hnode, hacked⟩
      · obtain ⟨-, output, hpc⟩ := acked_eq_some hacked
        rw [List.mem_singleton.mp hreq] at hpc
        cases hpc
    refine ⟨hI.wellFormed, fun req hreq => ?_, hI.loaded, fun n kid status m hacked => hI.committed n kid status m
      (hold n kid status m hacked), fun req hreq entry hentry status m hacked => ?_, fun n kid status m hacked =>
      hI.inCache n kid status m (hold n kid status m hacked)⟩
    · rcases List.mem_append.mp hreq with hreq | hreq
      · exact hI.holds req hreq
      · rw [List.mem_singleton.mp hreq]
        unfold Holds
        split <;> trivial
    · rcases List.mem_append.mp hreq with hreq | hreq
      · exact hI.inHand req hreq entry hentry status m (hold _ _ status m hacked)
      · rw [List.mem_singleton.mp hreq] at hentry
        cases task <;> cases hentry
  | advance r env =>
    obtain ⟨req, hreq, h⟩ := Option.bind_eq_some_iff.mp h
    obtain ⟨effect, hadv, rfl⟩ := Option.map_eq_some_iff.mp h
    have hmem := List.mem_of_getElem? hreq
    have hok := hI.holds req hmem
    have hstep := cacheStep_advance (hI.wellFormed req.node) hok hadv
    refine ⟨fun node => ?_, fun q hq => ?_, fun node kid cached hget => ?_, fun node kid status m hacked => ?_,
      fun q hq entry hentry status m hacked hrefused => ?_, fun node kid status m hacked hrefused cached hget => ?_⟩
    · simp only
      split
      · exact hstep.wellFormed
      · exact hI.wellFormed node
    · rcases List.mem_or_eq_of_mem_set hq with hq | rfl
      · exact (hI.holds q hq).grows hstep.grows
      · exact hstep.holds
    · simp only at hget
      split at hget
      · rcases hstep.entries kid cached hget with hold | ⟨hid, hwrite⟩
        · obtain ⟨hid, hloaded⟩ := hI.loaded _ kid cached hold
          exact ⟨hid, hloaded.grows hstep.grows⟩
        · exact ⟨hid, (loaded_of_writes hok cached hwrite).grows hstep.grows⟩
      · obtain ⟨hid, hloaded⟩ := hI.loaded _ kid cached hget
        exact ⟨hid, hloaded.grows hstep.grows⟩
    · refine Nat.le_trans ?_ (hstep.grows.latest kid)
      rcases acked_set hacked with hold | ⟨-, ⟨reason, htask⟩, output, hpc⟩
      · exact hI.committed node kid status m hold
      · exact (hstep.acked m output hpc kid status reason htask).1
    · rcases mem_set_cases hreq hq with rfl | ⟨i, hir, hi⟩
      · -- the request itself: what it holds it held before, or it has read the row after every acknowledgement
        rcases acked_set hacked with hold | ⟨-, ⟨reason, htask⟩, output, hpc⟩
        · rcases hstep.fresh entry hentry with hheld | hlatest
          · exact hI.inHand req hmem entry hheld status m hold hrefused
          · exact hlatest ▸ hI.committed _ _ status m hold
        · rw [(hstep.acked m output hpc _ status reason htask).2.1] at hentry
          cases hentry
      · -- another request: it holds nothing of a key when a change of it is acknowledged
        have hq := List.mem_of_getElem? (List.mem_zipIdx_iff_getElem?.mp hi)
        rcases acked_set hacked with hold | ⟨hnode, ⟨reason, htask⟩, output, hpc⟩
        · exact hI.inHand q hq entry hentry status m hold hrefused
        · obtain ⟨-, -, ⟨lifecycle, cached, hupserting⟩, -⟩ := hstep.acked m output hpc _ status reason htask
          have hacknowledges : acknowledges gate req.task req.pc = some entry.1 := by
            rw [htask, hupserting, acknowledges, hrefused]
            rfl
          have hno := hC req hreq entry.1 hacknowledges (q, i) hi hir hnode.symm
          rw [between_of_held (hI.holds q hq) hentry] at hno
          cases hno
    · simp only at hget
      rcases acked_set hacked with hold | ⟨hnode, ⟨reason, htask⟩, output, hpc⟩
      · split at hget
        · rename_i hnode
          subst hnode
          rcases hstep.entries kid cached hget with hentry | ⟨rfl, hwrite⟩
          · exact hI.inCache _ kid status m hold hrefused cached hentry
          · exact hI.inHand req hmem _ (held_of_writes hwrite) status m hold hrefused
        · exact hI.inCache node kid status m hold hrefused cached hget
      · rw [if_pos hnode.symm] at hget
        exact (hstep.acked m output hpc kid status reason htask).2.2.2 cached hget
  | fail r err =>
    obtain ⟨req, hreq, h⟩ := Option.bind_eq_some_iff.mp h
    have hgrows : Grows s.db (s.db.unlock req.task req.pc) := by
      unfold Db.unlock
      split
      · exact grows_lock _ _ _
      · exact Grows.refl _
    have hold : ∀ node kid status m, Acked (⟨s.db.unlock req.task req.pc, s.sealed, s.caches,
        s.requests.set r { req with pc := .done req.pc.committed (.error err) }⟩ : State K) node kid status m →
        Acked s node kid status m := by
      intro node kid status m hacked
      rcases acked_set hacked with hold | ⟨-, -, output, hpc⟩
      · exact hold
      · injection hpc with _ hreply
        cases hreply
    split at h
    · cases h
    · cases h
      refine ⟨hI.wellFormed, fun q hq => ?_, fun node kid cached hget => ?_, fun node kid status m hacked => ?_,
        fun q hq entry hentry status m hacked => ?_, fun node kid status m hacked =>
        hI.inCache node kid status m (hold node kid status m hacked)⟩
      · rcases List.mem_or_eq_of_mem_set hq with hq | rfl
        · exact (hI.holds q hq).grows hgrows
        · unfold Holds
          split <;> trivial
      · obtain ⟨hid, hloaded⟩ := hI.loaded node kid cached hget
        exact ⟨hid, hloaded.grows hgrows⟩
      · exact Nat.le_trans (hI.committed node kid status m (hold node kid status m hacked)) (hgrows.latest kid)
      · rcases List.mem_or_eq_of_mem_set hq with hq | rfl
        · exact hI.inHand q hq entry hentry status m (hold _ _ status m hacked)
        · rw [held_done] at hentry
          cases hentry

theorem cacheInv_initial (gate : Gate) (kids : List String) (row : String → String × String) :
    CacheInv keys gate (State.initial kids row : State K) := by
  have hnone : ∀ node kid status m, ¬ Acked (State.initial kids row : State K) node kid status m := by
    rintro node kid status m ⟨req, hreq, -⟩
    cases hreq
  refine ⟨fun _ => KeysDbState.wellFormed_fromKeys _, fun req hreq => absurd hreq List.not_mem_nil,
    fun node kid cached hget => ?_, fun node kid status m hacked => absurd hacked (hnone node kid status m),
    fun req hreq => absurd hreq List.not_mem_nil, fun node kid status m hacked =>
      absurd hacked (hnone node kid status m)⟩
  obtain ⟨hmem, -⟩ := KeysDbState.get_fromKeys hget
  cases hmem

/-- In every run in which no other request of the node is between its read and its write of a key when a change of the
key to a refused status is acknowledged, no lookup goes back behind an acknowledged change. -/
theorem notBehind_of_undisturbed {gate : Gate} {kids : List String} {row : String → String × String}
    {actions : List Action} {s : State K} (hC : Run.Along (step keys backend) (Undisturbed gate)
      (State.initial kids row) actions)
    (h : Run.run (step keys backend) (State.initial kids row) actions = some s) : NotBehind keys gate s :=
  (Run.run_inv_along cacheInv_step (cacheInv_initial gate kids row) hC h).notBehind

/-! ## A reload around a change -/

def quietEnv : Env := ⟨[], "now", []⟩

/-- The steps of request `r`, an update to a destroyed key. -/
def destroySteps (r : Nat) : List Action :=
  [.advance r quietEnv, .advance r ⟨[0, 0, 1], "now", []⟩, .advance r quietEnv, .advance r quietEnv,
    .advance r quietEnv, .advance r quietEnv]

def destroyTask : Task := .updateLifecycle exampleKid "destroyed" "reason"

/-- The reload lists the rows before the key is destroyed, and replaces the cache after that was acknowledged. -/
def aroundRun : List Action :=
  [.begin 0 .reload, .advance 0 quietEnv, .begin 0 destroyTask] ++ destroySteps 1 ++
    [.advance 0 quietEnv, .advance 0 quietEnv]

def afterRun : List Action :=
  [.begin 0 destroyTask] ++ destroySteps 0 ++
    [.begin 0 .reload, .advance 1 quietEnv, .advance 1 quietEnv, .advance 1 quietEnv]

/-- What can be seen of a state: a request, the versions of the key, and its status in the cache of the node. -/
structure View where
  request : Option (Nat × Option (String × String × Nat))
  versions : List Version
  status : Option String
  deriving DecidableEq

def State.view (r : Nat) (s : State Unit) : View where
  request := s.requests[r]?.map fun req => (req.node, req.acked)
  versions := (s.db.records exampleKid).versions
  status := ((s.caches 0).get exampleKid).map fun cached => cached.key.lifecycleStatus

def destroyedVersions : List Version := [⟨exampleEnvelope, 0⟩, ⟨"AAAA.AAAB.AAAA", 0⟩]

/-- The key was destroyed, and passes both gates. -/
theorem notBehind_reload : ∃ s, Run.run (step exampleKeys .sqlite) exampleState aroundRun = some s ∧
    ∀ gate, ¬ NotBehind exampleKeys gate s := by
  have hview : (Run.run (step exampleKeys .sqlite) exampleState aroundRun).map (State.view 1) =
      some ⟨some (0, some (exampleKid, "destroyed", 1)), destroyedVersions, some "active"⟩ := by decide +kernel
  obtain ⟨s, hs, hview⟩ := Option.map_eq_some_iff.mp hview
  obtain ⟨hreq, hversions, hcached⟩ : _ ∧ _ ∧ _ := by simpa only [State.view, View.mk.injEq] using hview
  obtain ⟨req, hreq, hacked⟩ := Option.map_eq_some_iff.mp hreq
  obtain ⟨hnode, hacked⟩ := Prod.mk.inj hacked
  obtain ⟨cached, hget, hstatus⟩ := Option.map_eq_some_iff.mp hcached
  refine ⟨s, hs, fun gate hbehind => ?_⟩
  have hrefused : gate.passes "destroyed" = false := by cases gate <;> rfl
  have hpasses : gate.passes cached.key.lifecycleStatus = true := by rw [hstatus]; cases gate <;> rfl
  obtain ⟨n, v, hn, hv, hv'⟩ := hbehind 0 exampleKid "destroyed" 1 ⟨req, List.mem_of_getElem? hreq, hnode,
    hacked⟩ hrefused cached hget hpasses
  rw [hversions, destroyedVersions] at hv
  obtain rfl : n = 1 := by
    have := (List.getElem?_eq_some_iff.mp hv).1
    simp only [List.length_cons, List.length_nil] at this
    omega
  cases hv
  rw [hstatus] at hv'
  exact absurd hv' (by decide)

/-- A reload that starts after the acknowledgement. -/
theorem notBehind_of_undisturbed_reload : ∃ s, Run.run (step exampleKeys .sqlite) exampleState afterRun = some s ∧
    s.view 0 = ⟨some (0, some (exampleKid, "destroyed", 1)), destroyedVersions, some "destroyed"⟩ ∧
    NotBehind exampleKeys .newUse s := by
  have hview : (Run.run (step exampleKeys .sqlite) exampleState afterRun).map (State.view 0) =
      some ⟨some (0, some (exampleKid, "destroyed", 1)), destroyedVersions, some "destroyed"⟩ := by decide +kernel
  have hC : Run.Along (step exampleKeys .sqlite) (Undisturbed .newUse) exampleState afterRun := by decide +kernel
  obtain ⟨s, hs, hview⟩ := Option.map_eq_some_iff.mp hview
  exact ⟨s, hs, hview, notBehind_of_undisturbed hC hs⟩

end Vectis.Io.Http.Keys
