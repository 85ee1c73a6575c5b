import Vectis.Io.Http.Keys

/-!
# Lifecycle histories are linear

The versions of a row form a path of allowed transitions, and the writer of each version had read the one before.

- `RecordOk`: the path, with pairwise distinct envelopes;
- `UpdateOk`: what an update knows about the row that it has read. A change that is not written yet is allowed from the
  row that was read, and its envelope is in no row;
- `inv_step`: a swap succeeds on the envelope that was read only, and that is the current version;
- `lifecycle_linear`: in every run, on any number of nodes, for both backends.
-/

namespace Vectis.Io.Http.Keys

open Core.Storage Core.Validation Ops.Keys

variable {K : Type} {keys : InternalKeys K} {backend : Backend} {s : State K}

/-! ## Versions -/

/-- The second envelope is an allowed change of the first. -/
def Allowed (keys : InternalKeys K) (old new : String) : Prop :=
  ∃ current next, statusOf keys old = some current ∧ statusOf keys new = some next ∧
    validateLifecycleTransition current next = .ok ()

/-- Each version is an allowed change of the one before, which its writer had read. -/
def Linear (keys : InternalKeys K) (versions : List Version) : Prop :=
  ∀ (i : Nat) (v w : Version), versions[i]? = some v → versions[i + 1]? = some w →
    w.base = i ∧ Allowed keys v.properties w.properties

structure RecordOk (keys : InternalKeys K) (envelopes : List String) (record : KeyRecord) : Prop where
  linear : Linear keys record.versions
  nodup : (record.versions.map Version.properties).Nodup
  known : ∀ v ∈ record.versions, v.properties ∈ envelopes

theorem versions_commit (record : KeyRecord) (version : Version) :
    (record.commit version).versions = record.versions ++ [version] := rfl

theorem length_versions (record : KeyRecord) : record.versions.length = record.latest + 1 := by
  simp [KeyRecord.versions, KeyRecord.latest]

theorem getElem?_latest (record : KeyRecord) : record.versions[record.latest]? = some record.current := by
  simp [KeyRecord.versions, KeyRecord.latest]

theorem RecordOk.mono {envelopes envelopes' : List String} {record : KeyRecord} (h : RecordOk keys envelopes record)
    (hsub : ∀ e ∈ envelopes, e ∈ envelopes') : RecordOk keys envelopes' record :=
  ⟨h.linear, h.nodup, fun v hv => hsub _ (h.known v hv)⟩

/-- A new version that is an allowed change of the current one, and new. -/
theorem recordOk_commit {envelopes : List String} {record : KeyRecord} {envelope : String}
    (h : RecordOk keys envelopes record) (hallowed : Allowed keys record.current.properties envelope)
    (hnew : ∀ v ∈ record.versions, v.properties ≠ envelope) (hknown : envelope ∈ envelopes) :
    RecordOk keys envelopes (record.commit ⟨envelope, record.latest⟩) := by
  refine ⟨fun i v w hv hw => ?_, ?_, fun v hv => ?_⟩
  · rw [versions_commit] at hv hw
    have hi : i + 1 < record.versions.length + 1 := by
      have := (List.getElem?_eq_some_iff.mp hw).1
      simpa using this
    rw [List.getElem?_append_left (by omega)] at hv
    rcases Nat.lt_or_ge (i + 1) record.versions.length with hlt | hge
    · rw [List.getElem?_append_left hlt] at hw
      exact h.linear i v w hv hw
    · have hlast : i = record.latest := by
        rw [length_versions] at hge hi
        omega
      subst hlast
      rw [getElem?_latest, Option.some.injEq] at hv
      subst hv
      rw [List.getElem?_append_right hge] at hw
      obtain rfl := List.mem_singleton.mp (List.mem_of_getElem? hw)
      exact ⟨rfl, hallowed⟩
  · rw [versions_commit, List.map_append, List.nodup_append]
    refine ⟨h.nodup, by simp, ?_⟩
    intro a ha b hb hab
    obtain ⟨v, hv, rfl⟩ := List.mem_map.mp ha
    obtain rfl : b = envelope := by simpa using hb
    exact hnew v hv hab
  · rw [versions_commit] at hv
    rcases List.mem_append.mp hv with hv | hv
    · exact h.known v hv
    · rw [List.mem_singleton.mp hv]
      exact hknown

/-- Of distinct envelopes the current one is found at the latest version only. -/
theorem read_eq_latest {envelopes : List String} {record : KeyRecord} (h : RecordOk keys envelopes record) {read : Nat}
    {v : Version} (hread : record.versions[read]? = some v) (hcur : record.current.properties = v.properties) :
    read = record.latest := by
  obtain ⟨hlt, hv⟩ := List.getElem?_eq_some_iff.mp hread
  obtain ⟨hlt', hv'⟩ := List.getElem?_eq_some_iff.mp (getElem?_latest record)
  have hi : read < (record.versions.map Version.properties).length := by simpa using hlt
  have hj : record.latest < (record.versions.map Version.properties).length := by simpa using hlt'
  have heq : (record.versions.map Version.properties)[read] =
      (record.versions.map Version.properties)[record.latest] := by
    simp only [List.getElem_map, hv, hv', hcur]
  exact h.nodup.getElem_inj_iff.mp heq

/-! ## The invariant -/

/-- The row that the request has read was a version of the table. -/
def Read (s : State K) (kid : String) (row : OpsKeyRow) (read : Nat) : Prop :=
  kid ∈ s.db.kids ∧ ∃ v, (s.db.records kid).versions[read]? = some v ∧ v.properties = row.properties

/-- A sealed change that is not written: in no version of the row, and allowed from the one that was read if a row may
hold it. -/
def InFlight (keys : InternalKeys K) (s : State K) (kid : String) (row : OpsKeyRow) (envelope : String) : Prop :=
  (Storable keys.decodeBase64 envelope → Allowed keys row.properties envelope) ∧ envelope ∈ s.sealed ∧
    ∀ v ∈ (s.db.records kid).versions, v.properties ≠ envelope

def UpdateOk (keys : InternalKeys K) (backend : Backend) (s : State K) (r : Nat) (kid : String) : Pc K → Prop
  | .sealing row read => Read s kid row read
  | .swapping row read envelope _ => Read s kid row read ∧ InFlight keys s kid row envelope
  | .committing row read envelope _ => Read s kid row read ∧ InFlight keys s kid row envelope ∧
      Storable keys.decodeBase64 envelope ∧ backend = .postgres ∧ (s.db.records kid).lock = some r ∧
      (s.db.records kid).current.properties = row.properties
  | _ => True

/-- The envelope that a request has sealed and not written. -/
def Pc.inFlight : Pc K → Option String
  | .swapping _ _ envelope _ | .committing _ _ envelope _ => some envelope
  | _ => none

structure Inv (keys : InternalKeys K) (backend : Backend) (s : State K) : Prop where
  records : ∀ kid ∈ s.db.kids, RecordOk keys s.sealed (s.db.records kid)
  updates : ∀ (r : Nat) (req : Request K), s.requests[r]? = some req → ∀ kid status reason,
    req.task = .updateLifecycle kid status reason → UpdateOk keys backend s r kid req.pc
  known : ∀ (r : Nat) (req : Request K), s.requests[r]? = some req → ∀ e, req.pc.inFlight = some e → e ∈ s.sealed
  distinct : ∀ (r₁ r₂ : Nat) (q₁ q₂ : Request K) (e : String), s.requests[r₁]? = some q₁ → s.requests[r₂]? = some q₂ →
    q₁.pc.inFlight = some e → q₂.pc.inFlight = some e → r₁ = r₂

/-! ## What carries over -/

variable {r : Nat} {req : Request K} {db' : Db} {sealed' : List String} {caches' : Nat → Cache K} {pc' : Pc K}

/-- A request moves on: what has to be shown for the table, for the request itself and for the others. -/
theorem inv_set (hI : Inv keys backend s) (hreq : s.requests[r]? = some req) (hkids : db'.kids = s.db.kids)
    (hsealed : ∀ e ∈ s.sealed, e ∈ sealed') (hrecords : ∀ kid ∈ s.db.kids, RecordOk keys sealed' (db'.records kid))
    (hown : ∀ kid status reason, req.task = .updateLifecycle kid status reason →
      UpdateOk keys backend ⟨db', sealed', caches', s.requests⟩ r kid pc')
    (hothers : ∀ (r' : Nat) (req' : Request K), r' ≠ r → s.requests[r']? = some req' → ∀ kid,
      UpdateOk keys backend s r' kid req'.pc → UpdateOk keys backend ⟨db', sealed', caches', s.requests⟩ r' kid req'.pc)
    (hflight : ∀ e, pc'.inFlight = some e → req.pc.inFlight = some e ∨ (e ∈ sealed' ∧ e ∉ s.sealed)) :
    Inv keys backend ⟨db', sealed', caches', s.requests.set r { req with pc := pc' }⟩ := by
  have hget : ∀ {u : Nat} {q : Request K}, (s.requests.set r { req with pc := pc' })[u]? = some q →
      (u = r ∧ q = { req with pc := pc' }) ∨ (u ≠ r ∧ s.requests[u]? = some q) := by
    intro u q hu
    by_cases hur : u = r
    · subst hur
      rw [List.getElem?_set_self (List.getElem?_eq_some_iff.mp hreq).1] at hu
      exact Or.inl ⟨rfl, (Option.some.inj hu).symm⟩
    · rw [List.getElem?_set_ne (Ne.symm hur)] at hu
      exact Or.inr ⟨hur, hu⟩
  refine ⟨fun kid hkid => hrecords kid (hkids ▸ hkid), fun u q hu kid status reason htask => ?_, fun u q hu e he => ?_,
    fun r₁ r₂ q₁ q₂ e h₁ h₂ he₁ he₂ => ?_⟩
  · rcases hget hu with ⟨rfl, rfl⟩ | ⟨hne, hu⟩
    · exact hown kid status reason htask
    · exact hothers u q hne hu kid (hI.updates u q hu kid status reason htask)
  · rcases hget hu with ⟨rfl, rfl⟩ | ⟨-, hu⟩
    · rcases hflight e he with hold | ⟨hnew, -⟩
      · exact hsealed e (hI.known u req hreq e hold)
      · exact hnew
    · exact hsealed e (hI.known u q hu e he)
  · -- an envelope in flight at `r` was in flight there before, or is new
    have hmine : ∀ {u : Nat} {q : Request K}, pc'.inFlight = some e → s.requests[u]? = some q → q.pc.inFlight = some e →
        u ≠ r → False := by
      intro u q hpc hu hq hne
      rcases hflight e hpc with hold | ⟨-, hnew⟩
      · exact hne (hI.distinct u r q req e hu hreq hq hold)
      · exact hnew (hI.known u q hu e hq)
    rcases hget h₁ with ⟨hr₁, hq₁⟩ | ⟨hne₁, hu₁⟩ <;> rcases hget h₂ with ⟨hr₂, hq₂⟩ | ⟨hne₂, hu₂⟩
    · rw [hr₁, hr₂]
    · rw [hq₁] at he₁
      exact (hmine he₁ hu₂ he₂ hne₂).elim
    · rw [hq₂] at he₂
      exact (hmine he₂ hu₁ he₁ hne₁).elim
    · exact hI.distinct r₁ r₂ q₁ q₂ e hu₁ hu₂ he₁ he₂

/-- A step that changes neither the table nor the sealed envelopes. -/
theorem inv_go (hI : Inv keys backend s) (hreq : s.requests[r]? = some req)
    (hown : ∀ kid status reason, req.task = .updateLifecycle kid status reason → UpdateOk keys backend s r kid pc')
    (hflight : pc'.inFlight = none ∨ pc'.inFlight = req.pc.inFlight) :
    Inv keys backend ⟨s.db, s.sealed, caches', s.requests.set r { req with pc := pc' }⟩ := by
  refine inv_set hI hreq rfl (fun _ h => h) hI.records hown (fun _ _ _ _ _ h => h) fun e he => ?_
  rcases hflight with h | h
  · rw [h] at he; cases he
  · exact Or.inl (h ▸ he)

theorem getOpsKeys_ok {db : Db} {kid : String} {row : OpsKeyRow} {read : Nat}
    (h : getOpsKeys keys db kid = .ok (row, read)) :
    kid ∈ db.kids ∧ row = db.row kid ∧ read = (db.records kid).latest := by
  unfold getOpsKeys at h
  obtain ⟨-, -, h⟩ := Loop.bind_eq_ok.mp h
  split at h
  · cases h
  · rename_i hkid
    obtain ⟨-, -, h⟩ := Loop.bind_eq_ok.mp h
    cases h
    exact ⟨Classical.not_not.mp hkid, rfl, rfl⟩

theorem read_of_getOpsKeys {kid : String} {row : OpsKeyRow} {read : Nat}
    (h : getOpsKeys keys s.db kid = .ok (row, read)) : Read s kid row read := by
  obtain ⟨hkid, rfl, rfl⟩ := getOpsKeys_ok h
  exact ⟨hkid, _, getElem?_latest _, rfl⟩

/-- A sealed change is an allowed one. -/
theorem sealChange_ok {row : OpsKeyRow} {status reason envelope : String} {env : Env} {lifecycle : OpsKeyLifecycle}
    (h : sealChange keys row status reason env = .ok (envelope, lifecycle))
    (hstorable : Storable keys.decodeBase64 envelope) :
    Allowed keys row.properties envelope := by
  unfold sealChange at h
  obtain ⟨⟨aad, changed⟩, hchange, h⟩ := Loop.bind_eq_ok.mp h
  obtain ⟨sealed, henc, h⟩ := Loop.bind_eq_ok.mp h
  cases h
  obtain ⟨hstatus, haad, current, hcurrent, htrans⟩ := changeLifecycle_ok hchange
  exact ⟨current, status, hcurrent, by rw [statusOf_encrypt henc haad hstorable, hstatus], htrans⟩

/-- What is swapped in may be held by a row. -/
theorem storable_of_validateSwap {kid current new : String} (h : validateSwap keys kid current new = .ok ()) :
    Storable keys.decodeBase64 new := by
  obtain ⟨-, h⟩ := Loop.bind_unit_eq_ok.mp h
  obtain ⟨-, h⟩ := Loop.bind_unit_eq_ok.mp h
  obtain ⟨segments, hsegments, -⟩ := Loop.map_eq_ok.mp h
  exact ⟨segments, hsegments⟩

theorem isCurrent_iff {db : Db} {kid : String} {row : OpsKeyRow} :
    isCurrent db kid row = true ↔ kid ∈ db.kids ∧ (db.records kid).current.properties = row.properties := by
  simp [isCurrent]

theorem records_set {db : Db} {kid k : String} {record : KeyRecord} :
    (db.set kid record).records k = if k = kid then record else db.records k := rfl

/-! ## Steps of an update -/

/-- Committing the envelope that `r` has in flight, on the version that it has read. -/
theorem inv_commit {kid status reason envelope : String} {row : OpsKeyRow} {read : Nat} (hI : Inv keys backend s)
    (hreq : s.requests[r]? = some req) (htask : req.task = .updateLifecycle kid status reason)
    (hflight : req.pc.inFlight = some envelope) (hread : Read s kid row read) (hin : InFlight keys s kid row envelope)
    (hstorable : Storable keys.decodeBase64 envelope)
    (hcur : (s.db.records kid).current.properties = row.properties)
    (hlock : backend = .sqlite ∨ (s.db.records kid).lock = some r) (hpc : pc'.inFlight = none)
    (hown : ∀ s' : State K, UpdateOk keys backend s' r kid pc') :
    Inv keys backend ⟨s.db.set kid ((s.db.records kid).commit ⟨envelope, read⟩), s.sealed, caches',
      s.requests.set r { req with pc := pc' }⟩ := by
  obtain ⟨hkid, v, hv, hvp⟩ := hread
  have hlatest : read = (s.db.records kid).latest := read_eq_latest (hI.records kid hkid) hv (hcur.trans hvp.symm)
  subst hlatest
  refine inv_set hI hreq rfl (fun _ h => h) (fun k hk => ?_) (fun k st re ht => ?_) (fun r' req' hne hreq' k hok => ?_)
    fun e he => ?_
  · rw [records_set]
    split
    · exact recordOk_commit (hI.records kid hkid) (hcur ▸ hin.1 hstorable) hin.2.2 hin.2.1
    · exact hI.records k hk
  · rw [htask] at ht
    cases ht
    exact hown _
  · -- the other requests keep what they have read; their envelopes are others
    have hread' : ∀ {row' read'}, Read s k row' read' →
        Read (⟨s.db.set kid ((s.db.records kid).commit ⟨envelope, (s.db.records kid).latest⟩), s.sealed, caches',
          s.requests⟩ : State K) k row' read' := by
      rintro row' read' ⟨hk, w, hw, hwp⟩
      refine ⟨hk, w, ?_, hwp⟩
      rw [records_set]
      split
      · rename_i hkk
        subst hkk
        rw [versions_commit, List.getElem?_append_left (List.getElem?_eq_some_iff.mp hw).1]
        exact hw
      · exact hw
    have hin' : ∀ {row' envelope'}, req'.pc.inFlight = some envelope' → InFlight keys s k row' envelope' →
        InFlight keys (⟨s.db.set kid ((s.db.records kid).commit ⟨envelope, (s.db.records kid).latest⟩), s.sealed,
          caches', s.requests⟩ : State K) k row' envelope' := by
      rintro row' envelope' hfl ⟨hallowed, hmem, hfresh⟩
      refine ⟨hallowed, hmem, fun w hw => ?_⟩
      rw [records_set] at hw
      split at hw
      · rename_i hkk
        subst hkk
        rcases List.mem_append.mp hw with hw | hw
        · exact hfresh w hw
        · rw [List.mem_singleton.mp hw]
          rintro rfl
          exact hne (hI.distinct r' r req' req _ hreq' hreq hfl hflight)
      · exact hfresh w hw
    cases hpc' : req'.pc with
    | sealing row' read' =>
      rw [hpc'] at hok
      exact hread' hok
    | swapping row' read' envelope' lifecycle =>
      rw [hpc'] at hok hin'
      exact ⟨hread' hok.1, hin' rfl hok.2⟩
    | committing row' read' envelope' lifecycle =>
      rw [hpc'] at hok hin'
      obtain ⟨h₁, h₂, hst, hpg, hlk, hc⟩ := hok
      have hkk : k ≠ kid := by
        rintro rfl
        rcases hlock with hsq | hlk'
        · rw [hsq] at hpg; cases hpg
        · rw [hlk', Option.some.injEq] at hlk
          exact hne hlk.symm
      refine ⟨hread' h₁, hin' rfl h₂, hst, hpg, ?_, ?_⟩
      · rw [records_set, if_neg hkk]; exact hlk
      · rw [records_set, if_neg hkk]; exact hc
    | _ => trivial
  · rw [hpc] at he
    cases he

/-- Taking or giving back the row lock changes no version; only `r` may hold it. -/
theorem inv_lock {kid : String} {lock : Option Nat} (hI : Inv keys backend s) (hreq : s.requests[r]? = some req)
    (hfree : ∀ r', r' ≠ r → (s.db.records kid).lock ≠ some r')
    (hown : ∀ k status reason, req.task = .updateLifecycle k status reason →
      UpdateOk keys backend ⟨s.db.set kid { s.db.records kid with lock := lock }, s.sealed, caches', s.requests⟩
      r k pc')
    (hflight : pc'.inFlight = none ∨ pc'.inFlight = req.pc.inFlight) :
    Inv keys backend ⟨s.db.set kid { s.db.records kid with lock := lock }, s.sealed, caches',
      s.requests.set r { req with pc := pc' }⟩ := by
  have hversions : ∀ k, ((s.db.set kid { s.db.records kid with lock := lock }).records k).versions =
      (s.db.records k).versions := by
    intro k
    rw [records_set]
    split
    · rename_i hk
      rw [hk]; rfl
    · rfl
  have hcurrent : ∀ k, ((s.db.set kid { s.db.records kid with lock := lock }).records k).current =
      (s.db.records k).current := by
    intro k
    rw [records_set]
    split
    · rename_i hk
      rw [hk]
    · rfl
  refine inv_set hI hreq rfl (fun _ h => h) (fun k hk => ?_) hown (fun r' req' hne hreq' k hok => ?_) fun e he => ?_
  · obtain ⟨h₁, h₂, h₃⟩ := hI.records k hk
    exact ⟨by rw [hversions]; exact h₁, by rw [hversions]; exact h₂, by rw [hversions]; exact h₃⟩
  · cases hpc' : req'.pc with
    | sealing row read =>
      rw [hpc'] at hok
      simp only [UpdateOk, Read, hversions] at hok ⊢
      exact hok
    | swapping row read envelope lifecycle =>
      rw [hpc'] at hok
      simp only [UpdateOk, Read, InFlight, hversions] at hok ⊢
      exact hok
    | committing row read envelope lifecycle =>
      rw [hpc'] at hok
      have hkk : k ≠ kid := fun hkk => hfree r' hne (hkk ▸ hok.2.2.2.2.1)
      simp only [UpdateOk, Read, InFlight, hversions, hcurrent] at hok ⊢
      rw [records_set, if_neg hkk]
      exact hok
    | _ => trivial
  · rcases hflight with h | h
    · rw [h] at he; cases he
    · exact Or.inl (h ▸ he)

theorem orFail_cases {α : Type} {committed : Option Nat} {result : Res α} {next : α → Pc K} {P : Pc K → Prop}
    (hfail : ∀ err, P (.done committed (.error err))) (hnext : ∀ a, result = .ok a → P (next a)) :
    P (orFail committed result next) := by
  unfold orFail
  split
  · exact hfail _
  · exact hnext _ rfl

theorem inv_advanceUpdate {kid status reason : String} {env : Env} {effect : Effect K} (hI : Inv keys backend s)
    (hreq : s.requests[r]? = some req) (htask : req.task = .updateLifecycle kid status reason)
    (h : advanceUpdate keys backend s r (s.caches req.node) env kid status reason req.pc = some effect) :
    Inv keys backend ⟨effect.db, effect.sealed, caches', s.requests.set r { req with pc := effect.pc }⟩ := by
  have hok := hI.updates r req hreq kid status reason htask
  -- only the pc of the request changes, and no envelope is in flight
  have hquiet : ∀ {pc' : Pc K}, pc'.inFlight = none → UpdateOk keys backend s r kid pc' →
      Inv keys backend ⟨s.db, s.sealed, caches', s.requests.set r { req with pc := pc' }⟩ := by
    intro pc' hnone hown
    refine inv_go hI hreq (fun k st re ht => ?_) (Or.inl hnone)
    rw [htask] at ht
    cases ht
    exact hown
  have hdone : ∀ committed reply, Inv keys backend
      ⟨s.db, s.sealed, caches', s.requests.set r { req with pc := .done committed reply }⟩ :=
    fun committed reply => hquiet rfl trivial
  cases hpc : req.pc with
  | start =>
    rw [hpc] at h
    cases h
    refine orFail_cases (P := fun pc' => Inv keys backend ⟨_, _, _, s.requests.set r { req with pc := pc' }⟩)
      (fun err => hdone _ _) fun ⟨row, read⟩ hget => hquiet rfl ?_
    obtain ⟨-, -, hget⟩ := Loop.bind_eq_ok.mp hget
    exact read_of_getOpsKeys hget
  | sealing row read =>
    rw [hpc] at h hok
    simp only [advanceUpdate] at h
    split at h
    · cases h; exact hdone _ _
    · rename_i envelope lifecycle hseal
      split at h <;> cases h
      rename_i hfresh
      refine inv_set hI hreq rfl (fun _ h => List.mem_cons_of_mem _ h)
        (fun k hk => (hI.records k hk).mono fun _ h => List.mem_cons_of_mem _ h) (fun k st re ht => ?_)
        (fun r' req' _ _ k hok' => ?_) fun e he => ?_
      · rw [htask] at ht
        cases ht
        refine ⟨hok, sealChange_ok hseal, List.mem_cons_self, fun v hv hve => hfresh ?_⟩
        exact hve ▸ (hI.records kid hok.1).known v hv
      · cases hpc' : req'.pc with
        | swapping row' read' envelope' lifecycle' =>
          rw [hpc'] at hok'
          exact ⟨hok'.1, hok'.2.1, List.mem_cons_of_mem _ hok'.2.2.1, hok'.2.2.2⟩
        | committing row' read' envelope' lifecycle' =>
          rw [hpc'] at hok'
          obtain ⟨h₁, ⟨h₂, h₃, h₄⟩, h₅⟩ := hok'
          exact ⟨h₁, ⟨h₂, List.mem_cons_of_mem _ h₃, h₄⟩, h₅⟩
        | sealing row' read' =>
          rw [hpc'] at hok'
          exact hok'
        | _ => trivial
      · cases he
        exact Or.inr ⟨List.mem_cons_self, hfresh⟩
  | swapping row read envelope lifecycle =>
    rw [hpc] at h hok
    have hfl : req.pc.inFlight = some envelope := by rw [hpc]; rfl
    simp only [advanceUpdate] at h
    split at h
    · cases h; exact hdone _ _
    · rename_i hswap
      have hstorable := storable_of_validateSwap hswap
      split at h
      · split at h <;> cases h
        · rename_i hcur
          exact inv_commit hI hreq htask hfl hok.1 hok.2 hstorable (isCurrent_iff.mp hcur).2 (Or.inl rfl) rfl fun _ =>
            trivial
        · exact hdone _ _
      · split at h
        · rename_i hcur
          split at h <;> cases h
          rename_i hlock
          refine inv_lock hI hreq (fun r' _ hr' => hlock (by rw [hr']; rfl)) (fun k st re ht => ?_)
            (Or.inr (by rw [hpc]; rfl))
          rw [htask] at ht
          cases ht
          have hv : ((s.db.set kid { s.db.records kid with lock := some r }).records kid).versions =
              (s.db.records kid).versions := by rw [records_set, if_pos rfl]; rfl
          simp only [UpdateOk, Read, InFlight, hv]
          rw [records_set, if_pos rfl]
          exact ⟨hok.1, hok.2, hstorable, trivial, rfl, (isCurrent_iff.mp hcur).2⟩
        · cases h; exact hdone _ _
  | committing row read envelope lifecycle =>
    rw [hpc] at h hok
    cases h
    obtain ⟨hread, hin, hstorable, -, hlock, hcur⟩ := hok
    exact inv_commit hI hreq htask (by rw [hpc]; rfl) hread hin hstorable hcur (Or.inr hlock) rfl fun _ => trivial
  | readingBack committed lifecycle =>
    rw [hpc] at h
    cases h
    exact orFail_cases (P := fun pc' => Inv keys backend ⟨_, _, _, s.requests.set r { req with pc := pc' }⟩)
      (fun err => hdone _ _) fun _ _ => hquiet rfl trivial
  | rereading committed lifecycle =>
    rw [hpc] at h
    cases h
    exact orFail_cases (P := fun pc' => Inv keys backend ⟨_, _, _, s.requests.set r { req with pc := pc' }⟩)
      (fun err => hdone _ _) fun _ _ => hquiet rfl trivial
  | upserting committed lifecycle cached =>
    rw [hpc] at h
    cases h
    exact hdone _ _
  | _ =>
    rw [hpc] at h
    simp [advanceUpdate] at h

/-! ## Runs -/

/-- A cache miss changes neither the table nor the sealed envelopes. -/
theorem advanceEnsure_frame {cache : Cache K} {kid : String} {pc : Pc K} {effect : Effect K}
    (h : advanceEnsure keys s cache kid pc = some effect) :
    effect.db = s.db ∧ effect.sealed = s.sealed ∧ effect.pc.inFlight = none := by
  unfold advanceEnsure at h
  split at h <;> cases h
  · refine ⟨rfl, rfl, orFail_cases (P := fun pc => pc.inFlight = none) (fun _ => rfl) fun _ _ => ?_⟩
    split <;> rfl
  · refine ⟨rfl, rfl, ?_⟩
    simp only [go]
    split <;> rfl
  · exact ⟨rfl, rfl, orFail_cases (P := fun pc => pc.inFlight = none) (fun _ => rfl) fun _ _ => rfl⟩
  · exact ⟨rfl, rfl, rfl⟩

theorem advanceReload_frame {cache : Cache K} {env : Env} {pc : Pc K} {effect : Effect K}
    (h : advanceReload keys s cache env pc = some effect) :
    effect.db = s.db ∧ effect.sealed = s.sealed ∧ effect.pc.inFlight = none := by
  unfold advanceReload at h
  split at h <;> cases h
  · exact ⟨rfl, rfl, orFail_cases (P := fun pc => pc.inFlight = none) (fun _ => rfl) fun _ _ => rfl⟩
  · exact ⟨rfl, rfl, rfl⟩
  · exact ⟨rfl, rfl, rfl⟩

/-- A request that is no update only moves on. -/
theorem inv_frame {effect : Effect K} (hI : Inv keys backend s) (hreq : s.requests[r]? = some req)
    (htask : ∀ kid status reason, req.task ≠ .updateLifecycle kid status reason)
    (h : effect.db = s.db ∧ effect.sealed = s.sealed ∧ effect.pc.inFlight = none) :
    Inv keys backend ⟨effect.db, effect.sealed, caches', s.requests.set r { req with pc := effect.pc }⟩ := by
  rw [h.1, h.2.1]
  exact inv_go hI hreq (fun kid status reason ht => absurd ht (htask kid status reason)) (Or.inl h.2.2)

theorem inv_fail (hI : Inv keys backend s) (hreq : s.requests[r]? = some req) (err : DynError) :
    Inv keys backend ⟨s.db.unlock req.task req.pc, s.sealed, caches',
      s.requests.set r { req with pc := .done req.pc.committed (.error err) }⟩ := by
  unfold Db.unlock
  split
  · rename_i kid status reason row read envelope lifecycle htask hpc
    have hok := hI.updates r req hreq kid status reason htask
    rw [hpc] at hok
    refine inv_lock hI hreq (fun r' hne hr' => hne ?_) (fun _ _ _ _ => trivial) (Or.inl rfl)
    exact (Option.some.inj (hok.2.2.2.2.1.symm.trans hr')).symm
  · exact inv_go hI hreq (fun _ _ _ _ => trivial) (Or.inl rfl)

theorem inv_step (s : State K) (a : Action) (s' : State K) (hI : Inv keys backend s)
    (h : step keys backend s a = some s') : Inv keys backend s' := by
  cases a with
  | begin node task =>
    cases h
    have hget : ∀ {u : Nat} {q : Request K}, (s.requests ++ [⟨node, task, .start⟩])[u]? = some q →
        s.requests[u]? = some q ∨ q = ⟨node, task, .start⟩ := by
      intro u q hu
      rcases Nat.lt_or_ge u s.requests.length with hlt | hge
      · exact Or.inl (by rwa [List.getElem?_append_left hlt] at hu)
      · rw [List.getElem?_append_right hge] at hu
        exact Or.inr (List.mem_singleton.mp (List.mem_of_getElem? hu))
    refine ⟨hI.records, fun u q hu kid status reason ht => ?_, fun u q hu e he => ?_,
      fun r₁ r₂ q₁ q₂ e h₁ h₂ he₁ he₂ => ?_⟩
    · rcases hget hu with hu | rfl
      · exact hI.updates u q hu kid status reason ht
      · trivial
    · rcases hget hu with hu | rfl
      · exact hI.known u q hu e he
      · cases he
    · rcases hget h₁ with hu₁ | rfl
      · rcases hget h₂ with hu₂ | rfl
        · exact hI.distinct r₁ r₂ q₁ q₂ e hu₁ hu₂ he₁ he₂
        · cases he₂
      · cases he₁
  | advance r env =>
    obtain ⟨req, hreq, h⟩ := Option.bind_eq_some_iff.mp h
    obtain ⟨effect, hadv, rfl⟩ := Option.map_eq_some_iff.mp h
    obtain ⟨task, htask⟩ : ∃ task, req.task = task := ⟨_, rfl⟩
    cases task with
    | updateLifecycle kid status reason =>
      rw [htask] at hadv
      exact inv_advanceUpdate hI hreq htask hadv
    | ensureEntry kid =>
      rw [htask] at hadv
      exact inv_frame hI hreq (fun _ _ _ ht => by rw [htask] at ht; cases ht) (advanceEnsure_frame hadv)
    | reload =>
      rw [htask] at hadv
      exact inv_frame hI hreq (fun _ _ _ ht => by rw [htask] at ht; cases ht) (advanceReload_frame hadv)
  | fail r err =>
    obtain ⟨req, hreq, h⟩ := Option.bind_eq_some_iff.mp h
    split at h
    · cases h
    · cases h
      exact inv_fail hI hreq err

theorem inv_initial (kids : List String) (row : String → String × String) :
    Inv keys backend (State.initial kids row : State K) := by
  refine ⟨fun kid hkid => ⟨fun i v w _ hw => ?_, by simp [State.initial, KeyRecord.versions], fun v hv => ?_⟩,
    fun r req hr => ?_, fun r req hr => ?_, fun r₁ r₂ q₁ q₂ e h₁ => ?_⟩
  · simp [State.initial, KeyRecord.versions] at hw
  · have hv' : v = ⟨(row kid).2, 0⟩ := by simpa [State.initial, KeyRecord.versions] using hv
    rw [hv']
    exact List.mem_map.mpr ⟨kid, hkid, rfl⟩
  · simp [State.initial] at hr
  · simp [State.initial] at hr
  · simp [State.initial] at h₁

/-- In every run the versions of a key form a path: each is an allowed change of the one before it, which its writer had
read. A terminal status is that of the last version. -/
theorem lifecycle_linear {kids : List String} {row : String → String × String} {actions : List Action} {s : State K}
    (h : Run.run (step keys backend) (State.initial kids row) actions = some s) {kid : String}
    (hkid : kid ∈ s.db.kids) :
    Linear keys (s.db.records kid).versions ∧
      ∀ (i : Nat) (v : Version) (status : String), (s.db.records kid).versions[i]? = some v →
        statusOf keys v.properties = some status → terminal status = true → i = (s.db.records kid).latest := by
  have hI := Run.run_inv inv_step (inv_initial kids row) h
  have hlinear := (hI.records kid hkid).linear
  refine ⟨hlinear, fun i v status hv hstatus hterm => ?_⟩
  by_contra hne
  have hlt := (List.getElem?_eq_some_iff.mp hv).1
  rw [length_versions] at hlt
  have hnext : i + 1 < (s.db.records kid).versions.length := by
    rw [length_versions]
    omega
  obtain ⟨-, current, next, hcurrent, -, htrans⟩ := hlinear i v _ hv (List.getElem?_eq_getElem hnext)
  rw [hstatus, Option.some.injEq] at hcurrent
  subst hcurrent
  simp [validateLifecycleTransition, lifecycleAllowed_terminal hterm] at htrans

/-! ## Two updates on two nodes -/

def exampleKid : String := "aaaaaaaaaaaaaaaaaaaaaaaaaaaaaaaaaaaaaaaaaaaaaaaaaaaaaaaaaaaaaaaa"

def exampleEnvelope : String := "AAAA.AAAA.AAAA"

def exampleProperties (status : String) : OpsKeyProperties := ⟨1, "custom", "tag", "then", ⟨status, "reason", "now"⟩⟩

def exampleOpen (envelope : String) : Res (String × OpsKeyProperties) :=
  match envelope with
  | "AAAA.AAAA.AAAA" => .ok ("aad", exampleProperties "active")
  | "AAAA.AAAB.AAAA" => .ok ("aad", exampleProperties "destroyed")
  | "AAAA.AAAC.AAAA" => .ok ("aad", exampleProperties "disabled")
  | _ => .error (.other "decryption failed")

def nonceEnvelope (nonce : List UInt8) : String := if nonce = [0, 0, 1] then "AAAA.AAAB.AAAA" else "AAAA.AAAC.AAAA"

/-- The nonce chooses the envelope, which is given out for the properties that it opens to. -/
def exampleSeal (nonce : List UInt8) (properties : OpsKeyProperties) (aad : String) : Res String :=
  match exampleOpen (nonceEnvelope nonce) with
  | .ok opened => if opened = (aad, properties) then .ok (nonceEnvelope nonce) else .error (.other "encryption failed")
  | .error err => .error err

theorem exampleOpen_seal (nonce : List UInt8) (properties : OpsKeyProperties) (aad envelope : String)
    (h : exampleSeal nonce properties aad = .ok envelope) : exampleOpen envelope = .ok (aad, properties) := by
  unfold exampleSeal at h
  split at h
  · rename_i opened hopen
    split at h
    · rename_i heq
      cases h
      rw [hopen, heq]
    · cases h
  · cases h

def exampleKeys : InternalKeys Unit where
  decodeBase64 part :=
    match part with
    | "AAAA" => some [0, 0, 0]
    | "AAAB" => some [0, 0, 1]
    | "AAAC" => some [0, 0, 2]
    | _ => none
  validateKidMatchesKeys _ _ := .ok ()
  decryptKeys _ := .ok ("aad", ())
  decryptProperties := exampleOpen
  encryptProperties := exampleSeal
  validateBinding _ _ _ := .ok ()
  decrypt_encrypt nonce properties aad envelope h _ _ := exampleOpen_seal nonce properties aad envelope h

def exampleState : State Unit := State.initial [exampleKid] fun _ => (exampleEnvelope, exampleEnvelope)

/-- Both nodes read the active key; the first destroys it while the second is about to disable it. -/
def raceRun : List Action :=
  [.begin 0 (.updateLifecycle exampleKid "destroyed" "reason"),
    .begin 1 (.updateLifecycle exampleKid "disabled" "reason"), .advance 0 ⟨[], "now", []⟩, .advance 1 ⟨[], "now", []⟩,
    .advance 0 ⟨[0, 0, 1], "now", []⟩,
    .advance 1 ⟨[0, 0, 2], "now", []⟩, .advance 0 ⟨[], "now", []⟩, .advance 0 ⟨[], "now", []⟩,
    .advance 1 ⟨[], "now", []⟩]

def raceEnd (backend : Backend) : Option (State Unit) := Run.run (step exampleKeys backend) exampleState raceRun

theorem lifecycle_linear_race : ∃ s req, raceEnd .postgres = some s ∧
    (s.db.records exampleKid).versions = [⟨exampleEnvelope, 0⟩, ⟨"AAAA.AAAB.AAAA", 0⟩] ∧ s.requests[1]? = some req ∧
    req.pc = .done none (.error changedConcurrently) ∧ Linear exampleKeys (s.db.records exampleKid).versions := by
  have hview : (raceEnd .postgres).map (fun s => ((s.db.records exampleKid).versions, s.db.kids,
      s.requests[1]?.map Request.pc)) = some ([⟨exampleEnvelope, 0⟩, ⟨"AAAA.AAAB.AAAA", 0⟩], [exampleKid],
        some (.done none (.error changedConcurrently))) := rfl
  obtain ⟨s, hs, hview⟩ := Option.map_eq_some_iff.mp hview
  obtain ⟨hversions, hview⟩ := Prod.mk.inj hview
  obtain ⟨hkids, hpc⟩ := Prod.mk.inj hview
  obtain ⟨req, hreq, hpc⟩ := Option.map_eq_some_iff.mp hpc
  have hkid : exampleKid ∈ s.db.kids := by simp [hkids]
  exact ⟨s, req, hs, hversions, hreq, hpc, (lifecycle_linear hs hkid).1⟩

end Vectis.Io.Http.Keys
