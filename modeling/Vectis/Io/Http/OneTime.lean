import Mathlib.Data.List.Perm.Basic
import Mathlib.Data.List.Forall2
import Vectis.Io.Http.Token

/-!
# One-time tokens

A token row of a one-time profile is released at most once.

- `ReqOk`: what a request knows at each of its steps about the rows it has read and decrypted;
- `advance_ok`: a step keeps it, and only takes rows out of the table;
- `Inv`: the rows of the table and those removed by the requests are the rows of the table at the start, each once;
- `one_time_released_once`: in every run, for both backends.
-/

namespace Vectis.Io.Http.Token

open Core.Storage Core.Validation

variable {Value : Type} {ctx : TokenContext Value} {kid hashid refId token : String} {subject : Option String}
  {tokens : TokenTable} {db db' : Db}

/-! ## Rows that are read and decrypted -/

/-- A row of the table that the request looked up under the hash id. -/
def ReadFor (tokens : TokenTable) (kid : String) (subject : Option String) (hashid : String) (row : TokenRow) : Prop :=
  row ∈ tokens.rows ∧ row.is kid hashid subject = true

/-- The item carries the plaintext of the row. -/
def Decodes (ctx : TokenContext Value) (row : TokenRow) (item : DecodedItem Value) : Prop :=
  ∃ payload, ctx.decrypt row.hashid row.data = .ok payload ∧ item.plaintext = payload.plaintext ∧
    item.metadata = payload.metadata

theorem ReadFor.hashid_eq {row : TokenRow} (h : ReadFor tokens kid subject hashid row) : row.hashid = hashid :=
  (TokenRow.is_iff.mp h.2).2.1

theorem decodeOne_ok {row : TokenRow} {item : DecodedItem Value} (hhash : ctx.hash token = .ok hashid)
    (hrow : ReadFor tokens kid subject hashid row) (h : decodeOne ctx refId token subject row = .ok item) :
    Decodes ctx row item := by
  simp only [decodeOne, Loop.bind_eq_ok, hhash, Except.ok.injEq] at h
  obtain ⟨-, -, _, rfl, payload, hp, rfl⟩ := h
  exact ⟨payload, hrow.hashid_eq ▸ hp, rfl, rfl⟩

theorem mapError_ok {ε ε' α : Type} {f : ε → ε'} {r : Except ε α} {a : α} (h : r.mapError f = .ok a) : r = .ok a := by
  cases r with
  | error err => cases h
  | ok b =>
    cases h
    rfl

theorem decodeItems_ok : ∀ {index : Nat} {refs hashids : List String} {rows : List TokenRow}
    {items : List (DecodedItem Value)}, refs.length = hashids.length →
    List.Forall₂ (ReadFor tokens kid subject) hashids rows →
    decodeItems ctx index ((refs.zip hashids).zip rows) = .ok items → List.Forall₂ (Decodes ctx) rows items
  | _, [], [], _, _, _, .nil, h => by
    cases h
    exact .nil
  | index, ref :: refs, hashid :: hashids, _, items, hlen, .cons (b := row) hrow hrows, h => by
    simp only [List.zip_cons_cons, decodeItems] at h
    obtain ⟨payload, hp, h⟩ := Loop.bind_eq_ok.mp h
    obtain ⟨rest, hrest, h⟩ := Loop.bind_eq_ok.mp h
    cases h
    exact .cons ⟨payload, hrow.hashid_eq ▸ mapError_ok hp, rfl, rfl⟩ (decodeItems_ok (Nat.succ.inj hlen) hrows hrest)

theorem decodeBatch_ok {refs hashids : List String} {rows : List TokenRow} {output : Output Value}
    (hrows : List.Forall₂ (ReadFor tokens kid subject) hashids rows)
    (h : decodeBatch ctx kid refs hashids rows = .ok output) : List.Forall₂ (Decodes ctx) rows output.items := by
  unfold decodeBatch at h
  obtain ⟨-, -, h⟩ := Loop.bind_eq_ok.mp h
  split at h
  · cases h
  · split at h
    · cases h
    · rename_i hrefs
      obtain ⟨items, hitems, h⟩ := Loop.bind_eq_ok.mp h
      cases h
      exact decodeItems_ok (Classical.not_not.mp hrefs) hrows hitems

theorem checkRows_ok : ∀ {index : Nat} {found : List (Option TokenRow)} {rows : List TokenRow},
    checkRows subject index found = .ok rows → found = rows.map some ∧ ∀ row ∈ rows, row.subject = subject
  | _, [], rows, h => by
    cases h
    exact ⟨rfl, fun _ hm => absurd hm List.not_mem_nil⟩
  | _, none :: _, _, h => by cases h
  | index, some row :: found, rows, h => by
    rw [checkRows] at h
    split at h
    · cases h
    · rename_i hsub
      obtain ⟨rest, hrest, h⟩ := Loop.bind_eq_ok.mp h
      cases h
      obtain ⟨hfound, hall⟩ := checkRows_ok hrest
      refine ⟨by rw [hfound, List.map_cons], fun r hr => ?_⟩
      rcases List.mem_cons.mp hr with rfl | hr
      · exact Classical.not_not.mp hsub
      · exact hall r hr

/-- The rows of a batch read that passed the checks, one for each hash id. -/
theorem readBatch_ok {decode : String → Option (List UInt8)} {hashids : List String} {max : Nat}
    {found : List (Option TokenRow)} {rows : List TokenRow} (hsub : ∀ row ∈ db.tokens.rows, row ∈ tokens.rows)
    (hget : getTokensBatch decode db.tokens kid hashids max = .ok found)
    (hcheck : checkRows subject 0 found = .ok rows) :
    List.Forall₂ (ReadFor tokens kid subject) hashids rows := by
  obtain ⟨hlen, hread⟩ := getTokensBatch_ok hget
  obtain ⟨hfound, hall⟩ := checkRows_ok hcheck
  subst hfound
  rw [List.length_map] at hlen
  refine List.forall₂_iff_get.mpr ⟨hlen.symm, fun i h₁ h₂ => ?_⟩
  obtain ⟨hmem, hkid, hid⟩ := hread i hashids[i] rows[i] (List.getElem?_eq_getElem h₁) (by simp)
  exact ⟨hsub _ hmem, TokenRow.is_iff.mpr ⟨hkid, hid, hall _ (List.getElem_mem h₂)⟩⟩

/-! ## Rows that are removed -/

theorem removedRows_self (db : Db) : removedRows db db = [] := by
  simp [removedRows]

theorem mem_removedRows {row : TokenRow} :
    row ∈ removedRows db db' ↔ row ∈ db.tokens.rows ∧ row ∉ db'.tokens.rows := by
  simp [removedRows]

/-- A table that lost rows: what is left and what was removed are what was there. -/
theorem perm_removedRows {p : TokenRow → Bool} (h : db'.tokens.rows = db.tokens.rows.filter p) :
    (db'.tokens.rows ++ removedRows db db').Perm db.tokens.rows := by
  have hremoved : removedRows db db' = db.tokens.rows.filter fun row => !p row := by
    refine List.filter_congr fun row hrow => ?_
    rw [h]
    cases hp : p row <;> simp [hrow, hp]
  rw [h, hremoved]
  exact List.filter_append_perm p db.tokens.rows

/-- The row that was read is the one that the deletion of its hash id removes. -/
theorem ReadFor.mem_removedRows {row found : TokenRow} (hrow : ReadFor tokens kid subject hashid row)
    (hsub : ∀ row ∈ db.tokens.rows, row ∈ tokens.rows) (hfound : found ∈ db.tokens.rows)
    (his : found.is kid hashid subject = true) (hgone : found ∉ db'.tokens.rows) : row ∈ removedRows db db' := by
  have hkey : found.key = row.key := by
    obtain ⟨hk, hh, -⟩ := TokenRow.is_iff.mp his
    obtain ⟨hk', hh', -⟩ := TokenRow.is_iff.mp hrow.2
    simp [TokenRow.key, hk, hh, hk', hh']
  have heq : found = row := TokenTable.eq_of_key (hsub found hfound) hrow.1 hkey
  exact Token.mem_removedRows.mpr ⟨heq ▸ hfound, heq ▸ hgone⟩

/-! ## What a request knows -/

/-- What a decode request knows at each step, besides the hash of its token. -/
def DecodeOk (tokens : TokenTable) (ctx : TokenContext Value) (kid : String) (subject : Option String)
    (removed : List TokenRow) : Pc Value → Prop
  | .decodeOne hashid row => removed = [] ∧ ReadFor tokens kid subject hashid row
  | .consumeOne hashid row output => removed = [] ∧ ReadFor tokens kid subject hashid row ∧
      List.Forall₂ (Decodes ctx) [row] output.items
  | .decodeBatch hashids rows => removed = [] ∧ List.Forall₂ (ReadFor tokens kid subject) hashids rows
  | .consumeBatch hashids rows output => removed = [] ∧ List.Forall₂ (ReadFor tokens kid subject) hashids rows ∧
      List.Forall₂ (Decodes ctx) rows output.items
  | .done rows (.ok output) => List.Forall₂ (Decodes ctx) rows output.items ∧
      (ctx.oneTime = true → ∀ row ∈ rows, row ∈ removed)
  | .start | .readOne _ | .readBatch _ | .deleteOne _ | .done _ (.error _) => removed = []

/-- The hash id that a single decode works with is that of its token. -/
def HashOk (ctx : TokenContext Value) (token : String) : Pc Value → Prop
  | .readOne hashid | .decodeOne hashid _ => ctx.hash token = .ok hashid
  | _ => True

/-- A request that only deletes answers with no plaintext. -/
def DeleteOk : Pc Value → Prop
  | .done rows (.ok output) => rows = [] ∧ output.items = []
  | _ => True

def ReqOk (tokens : TokenTable) (removed : List TokenRow) : Task Value → Pc Value → Prop
  | .decode ctx kid _ token subject, pc => DecodeOk tokens ctx kid subject removed pc ∧ HashOk ctx token pc
  | .decodeBatch ctx kid _ subject, pc => DecodeOk tokens ctx kid subject removed pc
  | .delete .., pc | .deleteSubject .., pc => DeleteOk pc

/-- A step that cannot fail into a wrong answer: the error branch has removed nothing. -/
theorem decodeOk_orFail {α : Type} {removed : List TokenRow} {r : Res α} {next : α → Pc Value} (hremoved : removed = [])
    (h : ∀ a, r = .ok a → DecodeOk tokens ctx kid subject removed (next a)) :
    DecodeOk tokens ctx kid subject removed (orFail r next) := by
  unfold orFail
  split
  · exact hremoved
  · exact h _ rfl

theorem hashOk_orFail {α : Type} {r : Res α} {next : α → Pc Value} (h : ∀ a, r = .ok a → HashOk ctx token (next a)) :
    HashOk ctx token (orFail r next) := by
  unfold orFail
  split
  · trivial
  · exact h _ rfl

/-- The transaction of a decode: on success the rows are among the removed ones, otherwise none is. -/
theorem decodeOk_commitTokens {r : Res TokenTable} {rows : List TokenRow} {output : Output Value}
    {pc : Pc Value} (hdec : List.Forall₂ (Decodes ctx) rows output.items)
    (hrows : ∀ table, r = .ok table → ∀ row ∈ rows, row ∈ removedRows db { db with tokens := table })
    (h : commitTokens db r rows output = (db', pc)) :
    DecodeOk tokens ctx kid subject (removedRows db db') pc := by
  unfold commitTokens at h
  split at h <;> cases h
  · exact removedRows_self db
  · exact ⟨hdec, fun _ row hrow => hrows _ rfl row hrow⟩

theorem commitTokens_rows {r : Res TokenTable} {rows : List TokenRow} {output : Output Value} {pc : Pc Value}
    (hfilter : ∀ table, r = .ok table → ∃ p : TokenRow → Bool, table.rows = db.tokens.rows.filter p)
    (h : commitTokens db r rows output = (db', pc)) :
    ∃ p : TokenRow → Bool, db'.tokens.rows = db.tokens.rows.filter p := by
  unfold commitTokens at h
  split at h <;> cases h
  · exact ⟨fun _ => true, (List.filter_true _).symm⟩
  · exact hfilter _ rfl

theorem deleteToken_rows {table : TokenTable} (h : deleteTokenForSubject db.tokens kid hashid subject = .ok table) :
    ∃ p : TokenRow → Bool, table.rows = db.tokens.rows.filter p := by
  obtain ⟨rfl, -⟩ := deleteTokenForSubject_ok h
  exact ⟨_, rfl⟩

theorem consume_rows {backend : Backend} {hashids : List String} {table : TokenTable}
    (h : (consumeTokensBatchForSubject backend db.tokens kid hashids subject).mapError
      (mapTokenBatchConsumeError hashids) = .ok table) :
    ∃ p : TokenRow → Bool, table.rows = db.tokens.rows.filter p :=
  ⟨_, (consumeTokensBatchForSubject_ok (mapError_ok h)).1⟩

/-- The single decode removes the row that it has decrypted. -/
theorem mem_removed_deleteToken {table : TokenTable} {row : TokenRow} (hrow : ReadFor tokens kid subject hashid row)
    (hsub : ∀ row ∈ db.tokens.rows, row ∈ tokens.rows)
    (h : deleteTokenForSubject db.tokens kid hashid subject = .ok table) :
    row ∈ removedRows db { db with tokens := table } := by
  obtain ⟨rfl, found, hfound, his⟩ := deleteTokenForSubject_ok h
  refine hrow.mem_removedRows hsub hfound his fun hmem => ?_
  rw [(TokenTable.mem_delete.mp hmem).2] at his
  cases his

/-- The batch decode removes all the rows that it has decrypted. -/
theorem mem_removed_consume {backend : Backend} {hashids : List String} {table : TokenTable} {rows : List TokenRow}
    (hrows : List.Forall₂ (ReadFor tokens kid subject) hashids rows)
    (hsub : ∀ row ∈ db.tokens.rows, row ∈ tokens.rows)
    (h : (consumeTokensBatchForSubject backend db.tokens kid hashids subject).mapError
      (mapTokenBatchConsumeError hashids) = .ok table) {row : TokenRow} (hrow : row ∈ rows) :
    row ∈ removedRows db { db with tokens := table } := by
  obtain ⟨htable, hfound⟩ := consumeTokensBatchForSubject_ok (mapError_ok h)
  obtain ⟨hashid, hmem, hread⟩ : ∃ hashid ∈ hashids, ReadFor tokens kid subject hashid row := by
    obtain ⟨i, hi, rfl⟩ := List.getElem_of_mem hrow
    obtain ⟨hlen, hget⟩ := List.forall₂_iff_get.mp hrows
    exact ⟨_, List.get_mem hashids ⟨i, hlen ▸ hi⟩, hget i (hlen ▸ hi) hi⟩
  obtain ⟨found, hin, his⟩ := hfound hashid hmem
  refine hread.mem_removedRows hsub hin his fun hleft => ?_
  rw [htable, List.mem_filter] at hleft
  simp [TokenRow.isAny_iff.mpr ⟨hashid, hmem, his⟩] at hleft

/-! ## One step -/

/-- The database is as it was. -/
theorem rows_self (db : Db) : ∃ p : TokenRow → Bool, db.tokens.rows = db.tokens.rows.filter p :=
  ⟨fun _ => true, (List.filter_true _).symm⟩

theorem deleteSubject_rows {subject : String} {pc : Pc Value} (h : deleteSubject db kid subject = (db', pc)) :
    ∃ p : TokenRow → Bool, db'.tokens.rows = db.tokens.rows.filter p := by
  unfold deleteSubject at h
  split at h <;> cases h
  · exact rows_self db
  · exact ⟨_, rfl⟩

theorem deleteSubject_ok {subject : String} {pc : Pc Value} (h : deleteSubject db kid subject = (db', pc)) :
    DeleteOk pc := by
  unfold deleteSubject at h
  split at h <;> cases h
  · trivial
  · cases deleteSubjectReply (db.subjects.countP (subjectKey kid subject)) with
    | error err => trivial
    | ok reply => exact ⟨rfl, rfl⟩

theorem deleteOk_commitTokens {r : Res TokenTable} {pc : Pc Value}
    (h : commitTokens db r [] (.deleted refId) = (db', pc)) : DeleteOk pc := by
  unfold commitTokens at h
  split at h <;> cases h
  · trivial
  · exact ⟨rfl, rfl⟩

/-- A step only takes rows out of the table. -/
theorem advance_rows {backend : Backend} {decode : String → Option (List UInt8)} {task : Task Value} {pc pc' : Pc Value}
    (h : advance backend decode db task pc = some (db', pc')) :
    ∃ p : TokenRow → Bool, db'.tokens.rows = db.tokens.rows.filter p := by
  unfold advance at h
  split at h
  case h_4 | h_10 => exact commitTokens_rows (fun _ => deleteToken_rows) (Option.some.inj h)
  case h_8 => exact commitTokens_rows (fun _ => consume_rows) (Option.some.inj h)
  case h_11 => exact deleteSubject_rows (Option.some.inj h)
  case h_12 => cases h
  all_goals
    cases h
    exact rows_self _

theorem advance_ok {backend : Backend} {decode : String → Option (List UInt8)} {task : Task Value} {pc pc' : Pc Value}
    {removed : List TokenRow} (hsub : ∀ row ∈ db.tokens.rows, row ∈ tokens.rows) (hok : ReqOk tokens removed task pc)
    (h : advance backend decode db task pc = some (db', pc')) :
    ReqOk tokens (removed ++ removedRows db db') task pc' := by
  cases task with
  | decode ctx kid refId token subject =>
    obtain ⟨hdec, hhash⟩ := hok
    cases pc with
    | start =>
      obtain rfl : removed = [] := hdec
      cases h
      rw [removedRows_self]
      exact ⟨decodeOk_orFail rfl fun _ _ => rfl, hashOk_orFail fun _ hr => hr⟩
    | readOne hashid =>
      obtain rfl : removed = [] := hdec
      cases h
      rw [removedRows_self]
      refine ⟨decodeOk_orFail rfl fun row hr => ?_, hashOk_orFail fun row hr => ?_⟩
      · obtain ⟨hmem, hkid, hid⟩ := getToken_ok hr
        split
        · exact rfl
        · rename_i hsubject
          exact ⟨rfl, hsub row hmem, TokenRow.is_iff.mpr ⟨hkid, hid, Classical.not_not.mp hsubject⟩⟩
      · split
        · trivial
        · exact hhash
    | decodeOne hashid row =>
      obtain ⟨rfl, hrow⟩ := hdec
      cases h
      rw [removedRows_self]
      refine ⟨decodeOk_orFail rfl fun item hr => ?_, hashOk_orFail fun item _ => ?_⟩
      · have hitem : List.Forall₂ (Decodes ctx) [row] (Output.decoded item).items :=
          .cons (decodeOne_ok hhash hrow hr) .nil
        split
        · exact ⟨rfl, hrow, hitem⟩
        · rename_i honce
          exact ⟨hitem, fun h => absurd h honce⟩
      · split <;> trivial
    | consumeOne hashid row output =>
      obtain ⟨rfl, hrow, hitem⟩ := hdec
      have hcommit := Option.some.inj h
      refine ⟨decodeOk_commitTokens hitem (fun table ht r hr => ?_) hcommit, ?_⟩
      · rw [List.mem_singleton.mp hr]
        exact mem_removed_deleteToken hrow hsub ht
      · unfold commitTokens at hcommit
        split at hcommit <;> cases hcommit <;> trivial
    | _ => simp [advance] at h
  | decodeBatch ctx kid items subject =>
    cases pc with
    | start =>
      obtain rfl : removed = [] := hok
      cases h
      rw [removedRows_self]
      exact decodeOk_orFail rfl fun _ _ => rfl
    | readBatch hashids =>
      obtain rfl : removed = [] := hok
      cases h
      rw [removedRows_self]
      exact decodeOk_orFail rfl fun found hget => decodeOk_orFail rfl fun rows hcheck =>
        ⟨rfl, readBatch_ok hsub hget hcheck⟩
    | decodeBatch hashids rows =>
      obtain ⟨rfl, hrows⟩ := hok
      cases h
      rw [removedRows_self]
      refine decodeOk_orFail rfl fun output hr => ?_
      have hitems := decodeBatch_ok hrows hr
      split
      · exact ⟨rfl, hrows, hitems⟩
      · rename_i honce
        exact ⟨hitems, fun h => absurd h honce⟩
    | consumeBatch hashids rows output =>
      obtain ⟨rfl, hrows, hitems⟩ := hok
      exact decodeOk_commitTokens hitems (fun table ht row hr => mem_removed_consume hrows hsub ht hr)
        (Option.some.inj h)
    | _ => simp [advance] at h
  | delete ctx kid refId token subject =>
    cases pc with
    | start =>
      cases h
      show DeleteOk _
      unfold orFail
      split <;> trivial
    | deleteOne hashid => exact deleteOk_commitTokens (Option.some.inj h)
    | _ => simp [advance] at h
  | deleteSubject kid subject =>
    cases pc with
    | start => exact deleteSubject_ok (Option.some.inj h)
    | _ => simp [advance] at h

/-! ## Runs -/

structure Inv (tokens : TokenTable) (s : State Value) : Prop where
  perm : (s.db.tokens.rows ++ s.requests.flatMap Request.removed).Perm tokens.rows
  requests : ∀ req ∈ s.requests, ReqOk tokens req.removed req.task req.pc

theorem Inv.subset {s : State Value} (hI : Inv tokens s) : ∀ row ∈ s.db.tokens.rows, row ∈ tokens.rows :=
  fun _ hrow => hI.perm.mem_iff.mp (List.mem_append_left _ hrow)

/-- A request whose removed rows grow by `extra`. -/
theorem flatMap_set_perm {α β : Type} (f : α → List β) {a : α} (a' : α) {extra : List β} (hf : f a' = f a ++ extra) :
    ∀ {l : List α} {i : Nat}, l[i]? = some a → ((l.set i a').flatMap f).Perm (l.flatMap f ++ extra)
  | b :: l, 0, h => by
    simp only [List.getElem?_cons_zero, Option.some.injEq] at h
    subst h
    rw [List.set_cons_zero, List.flatMap_cons, List.flatMap_cons, hf, List.append_assoc, List.append_assoc]
    exact List.Perm.append_left _ List.perm_append_comm
  | b :: l, i + 1, h => by
    rw [List.set_cons_succ, List.flatMap_cons, List.flatMap_cons, List.append_assoc]
    exact List.Perm.append_left _ (flatMap_set_perm f a' hf h)

/-- A request that is not answered yet has removed nothing. -/
theorem decodeOk_pending {removed : List TokenRow} {pc : Pc Value} (h : DecodeOk tokens ctx kid subject removed pc)
    (hpc : ∀ rows reply, pc ≠ .done rows reply) : removed = [] := by
  cases pc with
  | done rows reply => exact absurd rfl (hpc rows reply)
  | decodeOne | consumeOne | decodeBatch | consumeBatch => exact h.1
  | start | readOne | readBatch | deleteOne => exact h

theorem reqOk_fail {removed : List TokenRow} {task : Task Value} {pc : Pc Value} (h : ReqOk tokens removed task pc)
    (hpc : ∀ rows reply, pc ≠ .done rows reply) (err : DynError) :
    ReqOk tokens removed task (.done [] (.error err)) := by
  cases task with
  | decode => exact ⟨decodeOk_pending h.1 hpc, trivial⟩
  | decodeBatch => exact decodeOk_pending (show DecodeOk _ _ _ _ _ _ from h) hpc
  | delete | deleteSubject => trivial

/-- The requests after one of them is replaced. -/
theorem reqOk_set {s : State Value} (hI : Inv tokens s) {i : Nat} {req' : Request Value}
    (h : ReqOk tokens req'.removed req'.task req'.pc) :
    ∀ req ∈ s.requests.set i req', ReqOk tokens req.removed req.task req.pc := by
  intro req hreq
  rcases List.mem_or_eq_of_mem_set hreq with hreq | rfl
  · exact hI.requests req hreq
  · exact h

theorem inv_step {backend : Backend} {decode : String → Option (List UInt8)} (s : State Value) (a : Action Value)
    (s' : State Value) (hI : Inv tokens s) (h : step backend decode s a = some s') : Inv tokens s' := by
  cases a with
  | begin task =>
    cases h
    refine ⟨by simpa [List.flatMap_append] using hI.perm, fun req hreq => ?_⟩
    rcases List.mem_append.mp hreq with hreq | hreq
    · exact hI.requests req hreq
    · rw [List.mem_singleton.mp hreq]
      cases task with
      | decode => exact ⟨rfl, trivial⟩
      | decodeBatch => exact rfl
      | delete | deleteSubject => trivial
  | advance i =>
    obtain ⟨req, hreq, h⟩ := Option.bind_eq_some_iff.mp h
    obtain ⟨⟨db', pc'⟩, hadv, rfl⟩ := Option.map_eq_some_iff.mp h
    have hold := hI.requests req (List.mem_of_getElem? hreq)
    obtain ⟨p, hp⟩ := advance_rows hadv
    refine ⟨?_, reqOk_set hI (advance_ok hI.subset hold hadv)⟩
    have hset := flatMap_set_perm Request.removed ⟨req.task, pc', req.removed ++ removedRows s.db db'⟩ rfl hreq
    -- what was removed before and what is removed now change places
    have hleft : (db'.tokens.rows ++ (s.requests.flatMap Request.removed ++ removedRows s.db db')).Perm
        (s.db.tokens.rows ++ s.requests.flatMap Request.removed) := by
      refine (List.perm_append_comm.append_left _).trans ?_
      rw [← List.append_assoc]
      exact (perm_removedRows hp).append_right _
    exact ((hset.append_left _).trans hleft).trans hI.perm
  | fail i err =>
    obtain ⟨req, hreq, h⟩ := Option.bind_eq_some_iff.mp h
    have hold := hI.requests req (List.mem_of_getElem? hreq)
    have hset := flatMap_set_perm Request.removed { req with pc := .done [] (.error err) }
      (List.append_nil req.removed).symm hreq
    rw [List.append_nil] at hset
    split at h
    · cases h
    · rename_i hpc
      cases h
      exact ⟨(hset.append_left _).trans hI.perm, reqOk_set hI (reqOk_fail hold hpc err)⟩

/-! ## The release of a row -/

/-- The context of a request that returns plaintexts. -/
def Task.context : Task Value → Option (TokenContext Value)
  | .decode ctx _ _ _ _ | .decodeBatch ctx _ _ _ => some ctx
  | .delete .. | .deleteSubject .. => none

/-- The row belongs to a one-time profile: no other profile decrypts it. -/
def OneTimeRow (s : State Value) (row : TokenRow) : Prop :=
  ∀ req ∈ s.requests, ∀ ctx, req.task.context = some ctx → (∃ payload, ctx.decrypt row.hashid row.data = .ok payload) →
    ctx.oneTime = true

/-- The request was answered with success, and the item of the answer is made from the row. -/
def Releases (req : Request Value) (row : TokenRow) (item : DecodedItem Value) : Prop :=
  ∃ rows output, req.pc = .done rows (.ok output) ∧ (row, item) ∈ rows.zip output.items

/-- What a released row comes from: a decode request that decrypted it, and that has removed it when it is one-time. -/
theorem releases_ok {s : State Value} (hI : Inv tokens s) {row : TokenRow} {item : DecodedItem Value}
    {req : Request Value} (hreq : req ∈ s.requests) (hrel : Releases req row item) :
    ∃ ctx, req.task.context = some ctx ∧ Decodes ctx row item ∧ (ctx.oneTime = true → row ∈ req.removed) := by
  obtain ⟨rows, output, hpc, hmem⟩ := hrel
  have hok := hI.requests req hreq
  have hrow : row ∈ rows := (List.of_mem_zip hmem).1
  have hdecode : ∀ ctx kid subject, DecodeOk tokens ctx kid subject req.removed req.pc →
      Decodes ctx row item ∧ (ctx.oneTime = true → row ∈ req.removed) := by
    intro ctx kid subject hdec
    rw [hpc] at hdec
    exact ⟨List.forall₂_zip hdec.1 hmem, fun honce => hdec.2 honce row hrow⟩
  cases htask : req.task with
  | decode ctx kid refId token subject =>
    rw [htask] at hok
    exact ⟨ctx, rfl, hdecode ctx kid subject hok.1⟩
  | decodeBatch ctx kid items subject =>
    rw [htask] at hok
    exact ⟨ctx, rfl, hdecode ctx kid subject hok⟩
  | delete | deleteSubject =>
    rw [htask, hpc] at hok
    rw [hok.1] at hrow
    exact absurd hrow List.not_mem_nil

/-- Two requests have removed no row in common. -/
theorem removed_disjoint {s : State Value} (hI : Inv tokens s) {i j : Nat} {ri rj : Request Value}
    (hi : s.requests[i]? = some ri) (hj : s.requests[j]? = some rj) {row : TokenRow} (hri : row ∈ ri.removed)
    (hrj : row ∈ rj.removed) : i = j := by
  have hnodup : (s.requests.flatMap Request.removed).Nodup :=
    (List.nodup_append.mp (hI.perm.nodup_iff.mpr tokens.nodup)).2.1
  obtain ⟨-, hpair⟩ := List.nodup_flatMap.mp hnodup
  obtain ⟨hilt, rfl⟩ := List.getElem?_eq_some_iff.mp hi
  obtain ⟨hjlt, rfl⟩ := List.getElem?_eq_some_iff.mp hj
  have hget := List.pairwise_iff_getElem.mp hpair
  rcases Nat.lt_trichotomy i j with hlt | heq | hgt
  · exact (hget i j hilt hjlt hlt hri hrj).elim
  · exact heq
  · exact (hget j i hjlt hilt hgt hrj hri).elim

theorem inv_start (tokens : TokenTable) (subjects : List SubjectRow) :
    Inv tokens (⟨⟨tokens, subjects⟩, []⟩ : State Value) :=
  ⟨by simp, fun _ h => absurd h List.not_mem_nil⟩

/-- In every run, for both backends: what a request releases it has decrypted; a row of a one-time profile is released
by one request at most, which has removed it; and a batch decode that is answered with an error has removed nothing. -/
theorem one_time_released_once {backend : Backend} {decode : String → Option (List UInt8)} {tokens : TokenTable}
    {subjects : List SubjectRow} {actions : List (Action Value)} {s : State Value}
    (h : Run.run (step backend decode) ⟨⟨tokens, subjects⟩, []⟩ actions = some s) :
    (∀ req ∈ s.requests, ∀ row item, Releases req row item →
      ∃ ctx, req.task.context = some ctx ∧ Decodes ctx row item) ∧
    (∀ row, OneTimeRow s row →
      (∀ (i j : Nat) (ri rj : Request Value) (itemᵢ itemⱼ : DecodedItem Value), s.requests[i]? = some ri →
        s.requests[j]? = some rj → Releases ri row itemᵢ → Releases rj row itemⱼ → i = j) ∧
      ∀ req ∈ s.requests, ∀ item, Releases req row item →
        row ∈ tokens.rows ∧ row ∈ req.removed ∧ row ∉ s.db.tokens.rows) ∧
    ∀ req ∈ s.requests, ∀ ctx kid items subject rows err, req.task = .decodeBatch ctx kid items subject →
      req.pc = .done rows (.error err) → req.removed = [] := by
  have hI := Run.run_inv inv_step (inv_start tokens subjects) h
  have honce : ∀ {row item req}, OneTimeRow s row → req ∈ s.requests → Releases req row item → row ∈ req.removed := by
    intro row item req hrow hreq hrel
    obtain ⟨ctx, hctx, ⟨payload, hp, -⟩, hremoved⟩ := releases_ok hI hreq hrel
    exact hremoved (hrow req hreq ctx hctx ⟨payload, hp⟩)
  refine ⟨fun req hreq row item hrel => ?_, fun row hrow => ⟨?_, ?_⟩, ?_⟩
  · obtain ⟨ctx, hctx, hdec, -⟩ := releases_ok hI hreq hrel
    exact ⟨ctx, hctx, hdec⟩
  · intro i j ri rj itemᵢ itemⱼ hi hj hri hrj
    exact removed_disjoint hI hi hj (honce hrow (List.mem_of_getElem? hi) hri)
      (honce hrow (List.mem_of_getElem? hj) hrj)
  · intro req hreq item hrel
    have hremoved := honce hrow hreq hrel
    have hall : row ∈ s.requests.flatMap Request.removed := List.mem_flatMap.mpr ⟨req, hreq, hremoved⟩
    have hdisj := (List.nodup_append.mp (hI.perm.nodup_iff.mpr tokens.nodup)).2.2
    exact ⟨hI.perm.mem_iff.mp (List.mem_append_right _ hall), hremoved, fun hin => hdisj row hin row hall rfl⟩
  · intro req hreq ctx kid items subject rows err htask hpc
    have hok := hI.requests req hreq
    rw [htask, hpc] at hok
    exact hok

/-! ## A single and a batch decode of the same token -/

/-- A key id and a hash id. -/
def exampleHash : String := "aaaaaaaaaaaaaaaaaaaaaaaaaaaaaaaaaaaaaaaaaaaaaaaaaaaaaaaaaaaaaaaa"

def exampleRow : TokenRow := ⟨exampleHash, exampleHash, "AAAA.AAAA.AAAA", none⟩

def exampleBase64 (part : String) : Option (List UInt8) := if part = "AAAA" then some [0, 0, 0] else none

def exampleContext : TokenContext Unit where
  name := "card"
  kid := exampleHash
  oneTime := true
  stored := false
  subject := none
  hash _ := .ok exampleHash
  decrypt _ _ := .ok ⟨"card", "secret", none, "now"⟩

def exampleDecode : Task Unit := .decode exampleContext exampleHash "r" "t" none

def exampleBatch : Task Unit := .decodeBatch exampleContext exampleHash [("r", "t")] none

/-- Both requests read and decrypt the row before one of them consumes it. -/
def raceRun : List (Action Unit) :=
  [.begin exampleDecode, .begin exampleBatch, .advance 0, .advance 1, .advance 0, .advance 1, .advance 0, .advance 1,
    .advance 1, .advance 0]

def raceStart : State Unit := ⟨⟨⟨[exampleRow], by simp⟩, []⟩, []⟩

def raceEnd : State Unit where
  db := ⟨⟨[], by simp⟩, []⟩
  requests :=
    [⟨exampleDecode, .done [] (.error (.notFound "token not found")), []⟩,
      ⟨exampleBatch, .done [exampleRow] (.ok (.decodedBatch exampleHash "card" [⟨"r", "secret", none⟩])), [exampleRow]⟩]

theorem one_time_released_once_race :
    Run.run (step .postgres exampleBase64) raceStart raceRun = some raceEnd ∧ OneTimeRow raceEnd exampleRow ∧
      (∃ item, Releases (raceEnd.requests.get ⟨1, by decide⟩) exampleRow item) ∧
      ∀ (i : Nat) req item, raceEnd.requests[i]? = some req → Releases req exampleRow item → i = 1 := by
  have hrun : Run.run (step .postgres exampleBase64) raceStart raceRun = some raceEnd := rfl
  have honce : OneTimeRow raceEnd exampleRow := by
    intro req hreq ctx hctx _
    simp only [raceEnd, List.mem_cons, List.not_mem_nil, or_false] at hreq
    rcases hreq with rfl | rfl <;> cases hctx <;> rfl
  have hrel : Releases (raceEnd.requests.get ⟨1, by decide⟩) exampleRow ⟨"r", "secret", none⟩ :=
    ⟨_, _, rfl, List.mem_singleton.mpr rfl⟩
  refine ⟨hrun, honce, ⟨_, hrel⟩, fun i req item hi h => ?_⟩
  exact ((one_time_released_once hrun).2.1 exampleRow honce).1 i 1 req _ item _ hi rfl h hrel

end Vectis.Io.Http.Token
