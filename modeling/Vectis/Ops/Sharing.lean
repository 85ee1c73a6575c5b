import Vectis.Core.Sharing.Combine
import Vectis.Core.Sharing.Envelope
import Vectis.Ops.KeyMaterial

/-!
# Requests to split and to combine

The requests of `ops/sharing.rs`: a secret leaves as the texts of its shares, which share a fresh set id, and comes back
from enough of them.

- `decodeShares_ok_iff`: the loop over the texts accepts shares of one set;
- `combine_authentic`: what is combined is the secret of the split with the reported set id;
- `combine_selection`: any choice of enough texts of a split is combined.
-/

namespace Vectis.Ops.Sharing

open Vectis.Core Vectis.Core.Validation Vectis.Core.Profiles Vectis.Core.Mac Vectis.Core.Canonical Vectis.Core.Sharing
  Keys

/-! ## Inputs -/

structure ShareSplitInput where
  profile : String
  plaintext : String
  deriving DecidableEq, Repr

structure ShareCombineInput where
  kid : String
  profile : String
  shares : List String
  deriving DecidableEq, Repr

/-- The loop over the texts, from the share at `index` on. -/
def validateShareTexts : Nat → List String → Res Unit
  | _, [] => .ok ()
  | index, share :: shares => do
    (validateTextField "share" share).mapError (DynError.withPrefix ("share " ++ toString index ++ " failed"))
    validateShareTexts (index + 1) shares

def validateCombineInput (input : ShareCombineInput) : Res ShareCombineInput := do
  (validateKeyId input.kid).mapError fun err => .invalidInput ("kid is invalid: " ++ err.toText)
  validateAadConfigName "profile" input.profile
  if input.shares.isEmpty then .error (.invalidInput "shares must not be empty")
  else if input.shares.length > INTERNAL_SHARE_MAX then
    .error (.invalidInput ("shares exceeds maximum allowed value: " ++ toString INTERNAL_SHARE_MAX))
  else do
    validateShareTexts 0 input.shares
    .ok input

structure PreparedShareSplit where
  kid : String
  profile : KeyedSharingProfile
  input : ShareSplitInput
  deriving DecidableEq, Repr

structure PreparedShareCombine where
  kid : String
  profile : KeyedSharingProfile
  input : ShareCombineInput
  deriving DecidableEq, Repr

def validatePlaintextLen (profile : KeyedSharingProfile) (plaintext : String) : Res Unit :=
  if plaintext.utf8ByteSize > profile.maxSecretLen.toNat then
    .error (.invalidInput "plaintext exceeds sharing profile maximum length")
  else .ok ()

def prepareCombine (state : LoadedKeys) (profile : KeyedSharingProfile) (input : ShareCombineInput) :
    Res PreparedShareCombine := do
  prepareProfileUse state input.kid profile.kid "sharing" .verify
  if input.shares.length < profile.threshold.toNat then
    .error (.invalidInput "not enough shares to meet sharing profile threshold")
  else .ok ⟨input.kid, profile, input⟩

/-! ## Operations -/

structure ShareSplitOutput where
  kid : String
  profile : String
  threshold : UInt64
  setId : String
  shares : List String
  deriving DecidableEq, Repr

structure ShareCombineOutput where
  kid : String
  profile : String
  setId : String
  plaintext : String
  deriving DecidableEq, Repr

section Operations

variable (lib : TagLib) (serde : SerdeJson)

/-- The bytes of the set id and the coefficients of every byte are what the generator gives. -/
def split (prepared : PreparedShareSplit) (setId : Res (List UInt8))
    (random : Fin (Utf8.encode prepared.input.plaintext).length → Fin (prepared.profile.sharing.threshold - 1) →
      UInt8) :
    Res ShareSplitOutput := do
  let setId ← newSetId setId
  let shares ← Core.Sharing.split prepared.profile.sharing (Utf8.encode prepared.input.plaintext) random
  let texts ← shares.mapM (encodeShare lib serde prepared.profile setId)
  .ok ⟨prepared.kid, prepared.input.profile, prepared.profile.threshold, setId, texts⟩

/-- The loop over the texts: the set id of the first one, and the shares so far. -/
def decodeShares (profile : KeyedSharingProfile) : Nat → Option String → List String →
    Res (Option String × List RawShare)
  | _, setId, [] => .ok (setId, [])
  | index, setId, encoded :: rest => do
    let (shareSetId, share) ← (decodeShare lib serde profile encoded).mapError
      (DynError.withPrefix ("share " ++ toString index ++ " failed"))
    if setId.any (· ≠ shareSetId) then .error (.invalidInput "shares do not belong to the same sharing set")
    else
      let (setId, shares) ← decodeShares profile (index + 1) (some shareSetId) rest
      .ok (setId, share :: shares)

def combine (prepared : PreparedShareCombine) : Res ShareCombineOutput := do
  let (setId, shares) ← decodeShares lib serde prepared.profile 0 none prepared.input.shares
  let plaintext ← Core.Sharing.combine shares prepared.profile.threshold.toNat
  if plaintext.length > prepared.profile.maxSecretLen.toNat then
    .error (.invalidInput "reconstructed secret exceeds sharing profile maximum length")
  else
    match Utf8.decode plaintext with
    | none => .error (.invalidInput "reconstructed secret is not valid UTF-8")
    | some plaintext =>
      match setId with
      | none => .error (.internal "share set id is missing after combining shares")
      | some setId => .ok ⟨prepared.kid, prepared.input.profile, setId, plaintext⟩

/-- A request to combine shares, with the profile that it names. -/
def combineRequest (state : LoadedKeys) (profile : KeyedSharingProfile) (input : ShareCombineInput) :
    Res ShareCombineOutput := do
  let input ← validateCombineInput input
  let prepared ← prepareCombine state profile input
  combine lib serde prepared

end Operations

/-! ## The loop over the texts -/

section Loop

variable {lib : TagLib} {serde : SerdeJson} {profile : KeyedSharingProfile}

/-- The texts are shares of a set. -/
def SharesOf (lib : TagLib) (serde : SerdeJson) (profile : KeyedSharingProfile) (setId : String) (texts : List String)
    (shares : List RawShare) : Prop :=
  List.Forall₂ (fun text share => decodeShare lib serde profile text = .ok (setId, share)) texts shares

theorem decodeShares_some {setId : String} : ∀ {texts : List String} {index : Nat} {found : Option String}
    {shares : List RawShare}, decodeShares lib serde profile index (some setId) texts = .ok (found, shares) ↔
      found = some setId ∧ SharesOf lib serde profile setId texts shares
  | [], index, found, shares => by
    simp only [decodeShares, Except.ok.injEq, Prod.mk.injEq, SharesOf, List.forall₂_nil_left_iff]
    exact ⟨fun h => ⟨h.1.symm, h.2.symm⟩, fun h => ⟨h.1.symm, h.2.symm⟩⟩
  | text :: texts, index, found, shares => by
    rw [decodeShares, Loop.bind_eq_ok]
    constructor
    · rintro ⟨⟨shareSetId, share⟩, hdecode, h⟩
      rw [Loop.mapError_eq_ok] at hdecode
      obtain ⟨hsame, h⟩ := Loop.guard_eq_ok.mp h
      obtain rfl : setId = shareSetId := by simpa using hsame
      obtain ⟨⟨found', rest⟩, hrest, h⟩ := Loop.bind_eq_ok.mp h
      cases h
      obtain ⟨hfound, hshares⟩ := decodeShares_some.mp hrest
      exact ⟨hfound, .cons hdecode hshares⟩
    · rintro ⟨rfl, h⟩
      cases h with
      | cons hdecode hrest =>
        refine ⟨_, Loop.mapError_eq_ok.mpr hdecode, Loop.guard_eq_ok.mpr ⟨by simp, ?_⟩⟩
        exact Loop.bind_eq_ok.mpr ⟨_, decodeShares_some.mpr ⟨rfl, hrest⟩, rfl⟩

theorem SharesOf.exists_text {setId : String} {texts : List String} {shares : List RawShare}
    (h : SharesOf lib serde profile setId texts shares) :
    ∀ share ∈ shares, ∃ text ∈ texts, decodeShare lib serde profile text = .ok (setId, share) := by
  induction h with
  | nil => exact fun _ h => absurd h List.not_mem_nil
  | cons hdecode _ ih =>
    intro share hshare
    rcases List.mem_cons.mp hshare with rfl | hshare
    · exact ⟨_, List.mem_cons_self, hdecode⟩
    · obtain ⟨text, htext, hdecode⟩ := ih share hshare
      exact ⟨text, List.mem_cons_of_mem _ htext, hdecode⟩

/-- The loop accepts shares of one set. -/
theorem decodeShares_ok_iff {texts : List String} {setId : String} {shares : List RawShare} (hne : texts ≠ []) :
    decodeShares lib serde profile 0 none texts = .ok (some setId, shares) ↔
    SharesOf lib serde profile setId texts shares := by
  cases texts with
  | nil => exact absurd rfl hne
  | cons text texts =>
    rw [decodeShares, Loop.bind_eq_ok]
    constructor
    · rintro ⟨⟨shareSetId, share⟩, hdecode, h⟩
      rw [Loop.mapError_eq_ok] at hdecode
      obtain ⟨-, h⟩ := Loop.guard_eq_ok.mp h
      obtain ⟨⟨found', rest⟩, hrest, h⟩ := Loop.bind_eq_ok.mp h
      cases h
      obtain ⟨hfound, hshares⟩ := decodeShares_some.mp hrest
      cases hfound
      exact .cons hdecode hshares
    · intro h
      cases h with
      | cons hdecode hrest =>
        refine ⟨_, Loop.mapError_eq_ok.mpr hdecode, Loop.guard_eq_ok.mpr ⟨by simp, ?_⟩⟩
        exact Loop.bind_eq_ok.mpr ⟨_, decodeShares_some.mpr ⟨rfl, hrest⟩, rfl⟩

end Loop

/-! ## Splits -/

/-- A request to split, with what the generator gave it. -/
structure SplitRun where
  prepared : PreparedShareSplit
  setId : List UInt8
  random : Fin (Utf8.encode prepared.input.plaintext).length → Fin (prepared.profile.sharing.threshold - 1) → UInt8

theorem urlSafe_injective {a b : List UInt8} (h : urlSafe a = urlSafe b) : a = b := by
  have hdecode := Base64.decode_encode a
  rw [show Base64.encode a = Base64.encode b from String.ofList_injective h, Base64.decode_encode] at hdecode
  exact (Option.some.inj hdecode).symm

namespace SplitRun

def profile (run : SplitRun) : KeyedSharingProfile := run.prepared.profile

def plaintext (run : SplitRun) : String := run.prepared.input.plaintext

def setIdText (run : SplitRun) : String := urlSafe run.setId

def output (run : SplitRun) (lib : TagLib) (serde : SerdeJson) : Res ShareSplitOutput :=
  split lib serde run.prepared (.ok run.setId) run.random

/-- The raw shares; none when the plaintext is refused. -/
def rawShares (run : SplitRun) : List RawShare :=
  ((Core.Sharing.split run.profile.sharing (Utf8.encode run.plaintext) run.random).toOption).getD []

/-- The calls of `encode_share` that the request makes. -/
def calls (run : SplitRun) : Set EncodeCall :=
  {call | call.profile = run.profile ∧ call.setId = run.setIdText ∧ call.share ∈ run.rawShares}

/-- The profile was accepted, and the set id has the right size. -/
structure Accepted (run : SplitRun) : Prop where
  profile : SharingOk run.profile
  setId : run.setId.length = sharingSetIdBytes

end SplitRun

section Splits

variable {lib : TagLib} {serde : SerdeJson} {run : SplitRun}

theorem rawShares_eq (hsecret : validateSecret run.profile.sharing (Utf8.encode run.plaintext) = .ok ()) :
    Core.Sharing.split run.profile.sharing (Utf8.encode run.plaintext) run.random = .ok run.rawShares := by
  have hsplit := split_ok hsecret run.random
  rw [SplitRun.rawShares, hsplit]
  rfl

/-- Only an accepted plaintext has shares. -/
theorem validateSecret_of_mem {share : RawShare} (h : share ∈ run.rawShares) :
    validateSecret run.profile.sharing (Utf8.encode run.plaintext) = .ok () := by
  cases hsecret : validateSecret run.profile.sharing (Utf8.encode run.plaintext) with
  | ok => rfl
  | error err =>
    have hsplit : Core.Sharing.split run.profile.sharing (Utf8.encode run.plaintext) run.random = .error err := by
      unfold Core.Sharing.split
      rw [hsecret]
      rfl
    rw [SplitRun.rawShares, hsplit] at h
    exact absurd h List.not_mem_nil

/-- Enough of the shares combine to the plaintext. -/
theorem combine_rawShares (hok : run.Accepted)
    (hsecret : validateSecret run.profile.sharing (Utf8.encode run.plaintext) = .ok ()) {selection : List RawShare}
    (hsub : ∀ share ∈ selection, share ∈ run.rawShares) (hnodup : (selection.map RawShare.index).Nodup)
    (hlength : run.profile.threshold.toNat ≤ selection.length) :
    Core.Sharing.combine selection run.profile.threshold.toNat = .ok (Utf8.encode run.plaintext) := by
  obtain ⟨output, hsplit, hcombine⟩ := combine_split run.profile.sharing (Utf8.encode run.plaintext) run.random
    hok.profile.threshold hsecret
  rw [rawShares_eq hsecret] at hsplit
  cases hsplit
  exact hcombine selection hsub hnodup hlength

theorem validateRawShare_of_mem (hok : SharingOk run.profile) {share : RawShare} (h : share ∈ run.rawShares) :
    validateRawShare run.profile share = .ok () := by
  have hsecret := validateSecret_of_mem h
  have hsplit := (rawShares_eq hsecret).symm.trans (split_ok hsecret run.random)
  rw [Except.ok.injEq] at hsplit
  rw [hsplit] at h
  obtain ⟨index, hindex, rfl⟩ := List.mem_map.mp h
  obtain ⟨-, -, h32⟩ := validateThreshold_ok hok.threshold
  obtain ⟨hne, hlength⟩ := validateSecret_ok hsecret
  have hzero := @index_ne_zero run.profile.sharing h32 index hindex
  obtain ⟨n, hn, rfl⟩ := List.mem_map.mp hindex
  have hrange := (List.mem_range'_1.mp hn).2
  have hsmall : run.profile.sharing.shares ≤ 32 := h32
  have hn' : n.toUInt8.toNat = n := UInt8.toNat_ofNat_of_lt' (by change n < 256; omega)
  refine validateRawShare_ok_iff.mpr ⟨?_, ?_, ?_⟩
  · have hle : ¬ n.toUInt8.toNat > run.profile.shares.toNat := by
      rw [hn']
      have : run.profile.sharing.shares = run.profile.shares.toNat := rfl
      omega
    simp only [validateShareIndex, hzero, decide_false, Bool.false_or, hle, Bool.false_eq_true, if_false]
  · exact List.ne_nil_of_length_pos (by rw [List.length_ofFn]; exact List.length_pos_iff.mpr hne)
  · rw [List.length_ofFn]
    exact hlength

theorem rawShares_index {share share' : RawShare} (h : share ∈ run.rawShares) (h' : share' ∈ run.rawShares)
    (hindex : share.index = share'.index) : share = share' := by
  have hsecret := validateSecret_of_mem h
  have hsplit := (rawShares_eq hsecret).symm.trans (split_ok hsecret run.random)
  rw [Except.ok.injEq] at hsplit
  rw [hsplit] at h h'
  obtain ⟨index, -, rfl⟩ := List.mem_map.mp h
  obtain ⟨index', -, rfl⟩ := List.mem_map.mp h'
  obtain rfl : index = index' := hindex
  rfl

/-- An accepted request gives the texts of its shares, which are read back. -/
theorem output_ok (htotal : lib.Total) (hok : run.Accepted)
    (hsecret : validateSecret run.profile.sharing (Utf8.encode run.plaintext) = .ok ()) :
    ∃ text : RawShare → String, run.output lib serde = .ok ⟨run.prepared.kid, run.prepared.input.profile,
        run.profile.threshold, run.setIdText, run.rawShares.map text⟩ ∧
      ∀ share ∈ run.rawShares, encodeShare lib serde run.profile run.setIdText share = .ok (text share) ∧
        decodeShare lib serde run.profile (text share) = .ok (run.setIdText, share) := by
  have hexists : ∀ share, ∃ text, share ∈ run.rawShares →
      encodeShare lib serde run.profile run.setIdText share = .ok text ∧
        decodeShare lib serde run.profile text = .ok (run.setIdText, share) := by
    intro share
    by_cases hmem : share ∈ run.rawShares
    · obtain ⟨text, hencode, -, hdecode⟩ := decodeShare_encodeShare htotal hok.profile hok.setId
        (validateRawShare_of_mem hok.profile hmem)
      exact ⟨text, fun _ => ⟨hencode, hdecode⟩⟩
    · exact ⟨"", fun h => absurd h hmem⟩
  choose text htext using hexists
  refine ⟨text, ?_, htext⟩
  have hmap := Loop.mapM_ok run.rawShares fun share hmem => (htext share hmem).1
  have hraw := rawShares_eq hsecret
  unfold SplitRun.profile SplitRun.plaintext at hraw
  unfold SplitRun.profile SplitRun.setIdText at hmap
  simp only [SplitRun.output, split, newSetId, bind, Except.bind, hraw, hmap, SplitRun.profile, SplitRun.setIdText]

end Splits

/-! ## Combining -/

section Combining

variable {lib : TagLib} {serde : SerdeJson}

/-- What a request to combine computes from shares of one set. -/
theorem combine_ok {prepared : PreparedShareCombine} {output : ShareCombineOutput}
    (h : combine lib serde prepared = .ok output) : ∃ shares secret,
      SharesOf lib serde prepared.profile output.setId prepared.input.shares shares ∧
      Core.Sharing.combine shares prepared.profile.threshold.toNat = .ok secret ∧
      Utf8.decode secret = some output.plaintext := by
  obtain ⟨⟨found, shares⟩, hdecode, h⟩ := Loop.bind_eq_ok.mp h
  obtain ⟨secret, hsecret, h⟩ := Loop.bind_eq_ok.mp h
  obtain ⟨-, h⟩ := Loop.guard_eq_ok.mp h
  split at h
  · cases h
  · rename_i plaintext hplaintext
    split at h
    · cases h
    · rename_i setId
      cases h
      refine ⟨shares, secret, (decodeShares_ok_iff ?_).mp hdecode, hsecret, hplaintext⟩
      intro hnil
      rw [hnil] at hdecode
      cases hdecode

/-- Shares of one set come from one split. -/
theorem shares_of_run {history : List SplitRun} (hdistinct : history.Pairwise fun a b => a.setId ≠ b.setId)
    {profile : KeyedSharingProfile} {setId : String} {texts : List String} {submitted : Set String}
    (hunforged : Unforged lib serde {call | ∃ run ∈ history, call ∈ run.calls} submitted)
    (hsub : ∀ text ∈ texts, text ∈ submitted) {shares : List RawShare} (hne : shares ≠ [])
    (h : SharesOf lib serde profile setId texts shares) :
    ∃ run ∈ history, run.setIdText = setId ∧ run.profile.threshold = profile.threshold ∧
      (∀ share ∈ shares, share ∈ run.rawShares) ∧ ∀ other ∈ history, other.setIdText = setId → other = run := by
  have hsame : ∀ run ∈ history, ∀ other ∈ history, run.setIdText = other.setIdText → run = other := by
    intro run hrun other hother hset
    by_contra hne
    have : Std.Symm fun a b : SplitRun => a.setId ≠ b.setId := ⟨fun _ _ h => h.symm⟩
    exact hdistinct.forall hrun hother hne (urlSafe_injective hset)
  have hone : ∀ share ∈ shares, ∃ run ∈ history, run.setIdText = setId ∧ run.profile.threshold = profile.threshold ∧
      share ∈ run.rawShares := by
    intro share hshare
    obtain ⟨text, htext, hdecode⟩ := h.exists_text share hshare
    obtain ⟨call, ⟨run, hrun, hprofile, hset, hmem⟩, hset', rfl, -, -, hthreshold, -⟩ :=
      decodeShare_authentic hunforged (hsub text htext) hdecode
    exact ⟨run, hrun, hset.symm.trans hset', hprofile ▸ hthreshold, hmem⟩
  obtain ⟨share, hshare⟩ := List.exists_mem_of_ne_nil shares hne
  obtain ⟨run, hrun, hset, hthreshold, -⟩ := hone share hshare
  refine ⟨run, hrun, hset, hthreshold, fun other hother => ?_, fun other hother hset' =>
    hsame other hother run hrun (hset'.trans hset.symm)⟩
  obtain ⟨run', hrun', hset', -, hmem⟩ := hone other hother
  exact hsame run' hrun' run hrun (hset'.trans hset.symm) ▸ hmem

/-- What is combined is the secret of the split with the reported set id. -/
theorem combine_authentic {history : List SplitRun} (hok : ∀ run ∈ history, run.Accepted)
    (hdistinct : history.Pairwise fun a b => a.setId ≠ b.setId) {submitted : Set String}
    (hunforged : Unforged lib serde {call | ∃ run ∈ history, call ∈ run.calls} submitted)
    {prepared : PreparedShareCombine}
    (hsub : ∀ text ∈ prepared.input.shares, text ∈ submitted) {output : ShareCombineOutput}
    (h : combine lib serde prepared = .ok output) :
    ∃ run ∈ history, run.setIdText = output.setId ∧ run.plaintext = output.plaintext ∧
      ∀ other ∈ history, other.setIdText = output.setId → other = run := by
  obtain ⟨shares, secret, hshares, hcombine, hdecode⟩ := combine_ok h
  obtain ⟨hlength, length, hvalid, -⟩ := (combine_eq_ok_iff _ _ _).mp hcombine
  obtain ⟨hne, -, hnodup⟩ := (validateRawShares_ok_iff _ _).mp hvalid
  obtain ⟨run, hrun, hset, hthreshold, hmem, honly⟩ := shares_of_run hdistinct hunforged hsub hne hshares
  obtain ⟨share, hshare⟩ := List.exists_mem_of_ne_nil shares hne
  rw [← hthreshold] at hlength hcombine
  have hplain := combine_rawShares (hok run hrun) (validateSecret_of_mem (hmem share hshare)) hmem hnodup hlength
  rw [hplain, Except.ok.injEq] at hcombine
  rw [← hcombine, Utf8.decode_encode, Option.some.injEq] at hdecode
  exact ⟨run, hrun, hset, hdecode, honly⟩

theorem validateSecret_of_output {run : SplitRun} {output : ShareSplitOutput} (h : run.output lib serde = .ok output) :
    validateSecret run.profile.sharing (Utf8.encode run.plaintext) = .ok () := by
  obtain ⟨setId, -, h⟩ := Loop.bind_eq_ok.mp h
  obtain ⟨shares, hsplit, -⟩ := Loop.bind_eq_ok.mp h
  exact (Loop.bind_unit_eq_ok.mp hsplit).1

/-- Any choice of enough texts of a split is combined. -/
theorem combine_selection (htotal : lib.Total) {run : SplitRun} (hok : run.Accepted) {output : ShareSplitOutput}
    (houtput : run.output lib serde = .ok output) {prepared : PreparedShareCombine}
    (hprofile : prepared.profile = run.profile)
    (hsub : ∀ text ∈ prepared.input.shares, text ∈ output.shares) (hnodup : prepared.input.shares.Nodup)
    (hlength : run.profile.threshold.toNat ≤ prepared.input.shares.length) :
    combine lib serde prepared = .ok ⟨prepared.kid, prepared.input.profile, output.setId, run.plaintext⟩ := by
  have hsecret := validateSecret_of_output houtput
  obtain ⟨text, hout, htext⟩ := @output_ok lib serde run htotal hok hsecret
  obtain rfl := Except.ok.inj (houtput.symm.trans hout)
  -- the share that a text is read as
  have hshare : ∀ t, ∃ share, t ∈ prepared.input.shares → share ∈ run.rawShares ∧ text share = t := by
    intro t
    by_cases ht : t ∈ prepared.input.shares
    · obtain ⟨share, hmem, heq⟩ := List.mem_map.mp (hsub t ht)
      exact ⟨share, fun _ => ⟨hmem, heq⟩⟩
    · exact ⟨⟨0, []⟩, fun h => absurd h ht⟩
  choose share hshare using hshare
  have hshares : SharesOf lib serde run.profile run.setIdText prepared.input.shares
      (prepared.input.shares.map share) := by
    refine List.forall₂_map_right_iff.mpr (List.forall₂_same.mpr fun t ht => ?_)
    have hdecode := (htext (share t) (hshare t ht).1).2
    rwa [(hshare t ht).2] at hdecode
  have hmem : ∀ s ∈ prepared.input.shares.map share, s ∈ run.rawShares := by
    intro s hs
    obtain ⟨t, ht, rfl⟩ := List.mem_map.mp hs
    exact (hshare t ht).1
  have hindexes : ((prepared.input.shares.map share).map RawShare.index).Nodup := by
    rw [List.map_map]
    refine hnodup.map_on fun t ht t' ht' heq => ?_
    rw [← (hshare t ht).2, ← (hshare t' ht').2, rawShares_index (hshare t ht).1 (hshare t' ht').1 heq]
  have hcombine := combine_rawShares hok hsecret hmem hindexes (by rwa [List.length_map])
  have hne : prepared.input.shares ≠ [] := by
    intro hnil
    rw [hnil, List.length_nil] at hlength
    have := (validateThreshold_ok hok.profile.threshold).1
    omega
  have hsize : ¬ (Utf8.encode run.plaintext).length > run.profile.maxSecretLen.toNat :=
    Nat.not_lt.mpr (validateSecret_ok hsecret).2
  unfold combine
  rw [hprofile, (decodeShares_ok_iff hne).mpr hshares]
  simp only [bind, Except.bind, hcombine, hsize, if_false, Utf8.decode_encode]

end Combining

/-! ## Requests -/

section Requests

variable {lib : TagLib} {serde : SerdeJson}

theorem sextet_clean : ∀ n : Fin 64, isControl (Base64.sextet n) = false := by decide

/-- The text of a share is a text field. -/
theorem validateTextField_shareText (field : String) (envelope : ShareEnvelope) :
    validateTextField field (shareText serde envelope) = .ok () := by
  have hlist : (shareText serde envelope).toList =
      sharePrefix.toList ++ Base64.encode (Utf8.encode (serde.toText (shareCodec.toValue envelope))) := by
    rw [shareText, String.toList_append, urlSafe, String.toList_ofList]
  have hfixed : validateTextField field sharePrefix = .ok () := validateTextField_ok_iff.mpr (by decide)
  obtain ⟨hblank, hcontrol⟩ := validateTextField_ok_iff.mp hfixed
  refine validateTextField_ok_iff.mpr ⟨?_, ?_⟩
  · rw [hlist, List.all_append, hblank, Bool.false_and]
  · rw [hlist, List.any_append, hcontrol, Bool.false_or]
    refine List.any_eq_false.mpr fun c hc => ?_
    obtain ⟨n, rfl⟩ := Base64.encode_chars _ c hc
    simp [sextet_clean n]

theorem validateShareTexts_ok : ∀ {texts : List String} {index : Nat},
    (∀ text ∈ texts, validateTextField "share" text = .ok ()) → validateShareTexts index texts = .ok ()
  | [], _, _ => rfl
  | text :: texts, index, h => by
    rw [validateShareTexts, Loop.bind_unit_eq_ok, Loop.mapError_eq_ok]
    exact ⟨h text List.mem_cons_self, validateShareTexts_ok fun t ht => h t (List.mem_cons_of_mem _ ht)⟩

/-- The texts of a split, of which there are at most 32. -/
theorem output_texts (htotal : lib.Total) {run : SplitRun} (hok : run.Accepted) {output : ShareSplitOutput}
    (houtput : run.output lib serde = .ok output) : output.setId = run.setIdText ∧
      output.shares.length ≤ INTERNAL_SHARE_MAX ∧ ∀ text ∈ output.shares, validateTextField "share" text = .ok () := by
  have hsecret := validateSecret_of_output houtput
  obtain ⟨text, hout, htext⟩ := @output_ok lib serde run htotal hok hsecret
  obtain rfl := Except.ok.inj (houtput.symm.trans hout)
  refine ⟨rfl, ?_, ?_⟩
  · have hsplit := (rawShares_eq hsecret).symm.trans (split_ok hsecret run.random)
    rw [Except.ok.injEq] at hsplit
    rw [List.length_map, hsplit, List.length_map, shareIndexes, List.length_map, List.length_range']
    exact (validateThreshold_ok hok.profile.threshold).2.2
  · intro t ht
    obtain ⟨share, hshare, rfl⟩ := List.mem_map.mp ht
    obtain ⟨-, -, tag, -, heq⟩ := encodeShare_ok.mp (htext share hshare).1
    rw [heq]
    exact validateTextField_shareText "share" _

theorem combineRequest_ok {state : LoadedKeys} {profile : KeyedSharingProfile} {input : ShareCombineInput}
    {output : ShareCombineOutput} (h : combineRequest lib serde state profile input = .ok output) :
    combine lib serde ⟨input.kid, profile, input⟩ = .ok output := by
  obtain ⟨validated, hvalidated, h⟩ := Loop.bind_eq_ok.mp h
  obtain ⟨prepared, hprepared, h⟩ := Loop.bind_eq_ok.mp h
  rw [validateCombineInput, Loop.bind_unit_eq_ok, Loop.bind_unit_eq_ok, Loop.guard_eq_ok, Loop.guard_eq_ok,
    Loop.bind_unit_eq_ok] at hvalidated
  obtain ⟨-, -, -, -, -, hvalidated⟩ := hvalidated
  cases hvalidated
  rw [prepareCombine, Loop.bind_unit_eq_ok, Loop.guard_eq_ok] at hprepared
  obtain ⟨-, -, hprepared⟩ := hprepared
  cases hprepared
  exact h

/-- The checks of a request with enough texts of a split. -/
theorem combineRequest_selection (htotal : lib.Total) {run : SplitRun} (hok : run.Accepted) {output : ShareSplitOutput}
    (houtput : run.output lib serde = .ok output) {state : LoadedKeys} {input : ShareCombineInput}
    (hkid : validateKeyId input.kid = .ok ()) (hname : validateAadConfigName "profile" input.profile = .ok ())
    (huse : prepareProfileUse state input.kid run.profile.kid "sharing" .verify = .ok ())
    (hsub : ∀ text ∈ input.shares, text ∈ output.shares) (hnodup : input.shares.Nodup)
    (hlength : run.profile.threshold.toNat ≤ input.shares.length) :
    combineRequest lib serde state run.profile input =
      .ok ⟨input.kid, input.profile, output.setId, run.plaintext⟩ := by
  obtain ⟨-, hcount, htexts⟩ := output_texts htotal hok houtput
  have htwo := (validateThreshold_ok hok.profile.threshold).1
  have hmax : input.shares.length ≤ INTERNAL_SHARE_MAX :=
    Nat.le_trans (List.Subperm.length_le (hnodup.subperm fun t ht => hsub t ht)) hcount
  have hvalidated : validateCombineInput input = .ok input := by
    rw [validateCombineInput, Loop.bind_unit_eq_ok, Loop.bind_unit_eq_ok, Loop.guard_eq_ok, Loop.guard_eq_ok,
      Loop.bind_unit_eq_ok, Loop.mapError_eq_ok]
    refine ⟨hkid, hname, ?_, Nat.not_lt.mpr hmax, validateShareTexts_ok fun t ht => htexts t (hsub t ht), rfl⟩
    rw [List.isEmpty_iff]
    rintro hnil
    rw [hnil, List.length_nil] at hlength
    omega
  have hprepared : prepareCombine state run.profile input = .ok ⟨input.kid, run.profile, input⟩ := by
    rw [prepareCombine, Loop.bind_unit_eq_ok, Loop.guard_eq_ok]
    exact ⟨huse, Nat.not_lt.mpr hlength, rfl⟩
  refine Loop.bind_eq_ok.mpr ⟨input, hvalidated, Loop.bind_eq_ok.mpr ⟨_, hprepared, ?_⟩⟩
  exact combine_selection htotal hok houtput rfl hsub hnodup hlength

/-- The checks of a request to split are enough for the plaintext. -/
theorem validateSecret_of_input {profile : KeyedSharingProfile} {plaintext : String}
    (htext : validateTextField "plaintext" plaintext = .ok ())
    (hlength : validatePlaintextLen profile plaintext = .ok ()) :
    validateSecret profile.sharing (Utf8.encode plaintext) = .ok () := by
  have hsize : ¬ (Utf8.encode plaintext).length > profile.sharing.maxSecretLen := (Loop.guard_eq_ok.mp hlength).1
  have hne : Utf8.encode plaintext ≠ [] := by
    intro hnil
    have hblank := (validateTextField_ok_iff.mp htext).1
    rw [Utf8.encode_injective (hnil.trans (show [] = Utf8.encode "" from rfl))] at hblank
    cases hblank
  rw [validateSecret, if_neg hne, if_neg hsize]

/-- A profile of an accepted configuration. -/
def AcceptedProfile (hkdf : Hkdf) (profile : KeyedSharingProfile) : Prop :=
  ∃ hooks inputs state, TagHooks.Resolved hooks ∧
  validateSharingProfiles hkdf hooks inputs = .ok state ∧ profile ∈ state.profiles

/-- The texts of shares are read back and bind their set; what is combined is the secret of one split, and any choice of
enough texts of a split is combined. -/
theorem sharing_sets {hkdf : Hkdf} (hsized : Sized hkdf) {lib : TagLib} (htotal : lib.Total) (serde : SerdeJson) :
    (∀ profile random setId share, AcceptedProfile hkdf profile → random.length = sharingSetIdBytes →
      newSetId (.ok random) = .ok setId → validateRawShare profile share = .ok () →
      ∃ text, encodeShare lib serde profile setId share = .ok text ∧ text.utf8ByteSize ≤ shareEnvelopeMaxChars ∧
        decodeShare lib serde profile text = .ok (setId, share)) ∧
    (∀ calls texts, Unforged lib serde calls texts → ∀ profile text setId share, text ∈ texts →
      decodeShare lib serde profile text = .ok (setId, share) →
      ∃ call ∈ calls, call.setId = setId ∧ call.share = share ∧ call.profile.name = profile.name ∧
        call.profile.kid = profile.kid ∧ call.profile.threshold = profile.threshold ∧
        call.profile.shares = profile.shares) ∧
    ∀ history : List SplitRun, (∀ run ∈ history, AcceptedProfile hkdf run.profile ∧
      run.setId.length = sharingSetIdBytes) →
      (history.Pairwise fun a b => a.setId ≠ b.setId) →
      (∀ submitted, Unforged lib serde {call | ∃ run ∈ history, call ∈ run.calls} submitted →
        ∀ state profile input output, (∀ text ∈ input.shares, text ∈ submitted) →
        combineRequest lib serde state profile input = .ok output →
        ∃ run ∈ history, run.setIdText = output.setId ∧ run.plaintext = output.plaintext ∧
          ∀ other ∈ history, other.setIdText = output.setId → other = run) ∧
      (∀ run ∈ history, validateTextField "plaintext" run.plaintext = .ok () →
        validatePlaintextLen run.profile run.plaintext = .ok () → ∃ output, run.output lib serde = .ok output) ∧
      ∀ run ∈ history, ∀ output, run.output lib serde = .ok output → ∀ state input,
        validateKeyId input.kid = .ok () → validateAadConfigName "profile" input.profile = .ok () →
        prepareProfileUse state input.kid run.profile.kid "sharing" .verify = .ok () →
        (∀ text ∈ input.shares, text ∈ output.shares) → input.shares.Nodup →
        run.profile.threshold.toNat ≤ input.shares.length →
        combineRequest lib serde state run.profile input =
          .ok ⟨input.kid, input.profile, output.setId, run.plaintext⟩ := by
  have hok : ∀ {profile}, AcceptedProfile hkdf profile → SharingOk profile := by
    rintro profile ⟨hooks, inputs, state, hresolved, hstate, hmem⟩
    exact sharingOk_of_validate hsized hresolved hstate hmem
  refine ⟨?_, ?_, ?_⟩
  · intro profile random setId share hprofile hlength hset hshare
    obtain rfl := Except.ok.inj hset
    exact decodeShare_encodeShare htotal (hok hprofile) hlength hshare
  · intro calls texts hunforged profile text setId share htext h
    exact decodeShare_authentic hunforged htext h
  · intro history haccepted hdistinct
    have hruns : ∀ run ∈ history, run.Accepted := fun run hrun => ⟨hok (haccepted run hrun).1, (haccepted run hrun).2⟩
    refine ⟨?_, ?_, ?_⟩
    · intro submitted hunforged state profile input output hsub h
      exact combine_authentic hruns hdistinct hunforged hsub (combineRequest_ok h)
    · intro run hrun htext hlength
      obtain ⟨text, houtput, -⟩ := @output_ok lib serde run htotal (hruns run hrun)
        (validateSecret_of_input htext hlength)
      exact ⟨_, houtput⟩
    · intro run hrun output houtput state input hkid hname huse hsub hnodup hlength
      exact combineRequest_selection htotal (hruns run hrun) houtput hkid hname huse hsub hnodup hlength

end Requests

/-! ## An example -/

/-- The tags of these queries begin with 1, all others are 0. -/
def ofQueries (queries : List TagQuery) : TagLib where
  hmac algorithm key message :=
    .ok (if ⟨algorithm, key, none, message⟩ ∈ queries then [1, (queries.idxOf ⟨algorithm, key, none, message⟩).toUInt8]
      else [0])
  kmac _ _ _ _ := .ok [0]

theorem total_ofQueries (queries : List TagQuery) : (ofQueries queries).Total := by
  intro hash resolved key customization payload _ _
  unfold computeKeyedTag ofQueries
  split
  · exact ⟨_, rfl, by decide⟩
  · refine ⟨_, rfl, ?_⟩
    split <;> simp

/-- A tag other than 0 is that of one of the queries. -/
theorem query_of_computeTag {queries : List TagQuery} {serde : SerdeJson} {profile : KeyedSharingProfile}
    {unsigned : UnsignedShareEnvelope} {tag : List UInt8} (h : computeTag (ofQueries queries) serde profile unsigned =
      .ok tag) :
    tag = [0] ↔ profile.query serde unsigned ∉ queries ∨ profile.usesKmac = true := by
  rw [computeTag, canonical_unsigned] at h
  simp only [bind, Except.bind, computeKeyedTag, ofQueries] at h
  unfold KeyedSharingProfile.query
  cases hkmac : profile.usesKmac with
  | true =>
    simp only [hkmac, if_true, Except.ok.injEq] at h
    simp [← h]
  | false =>
    simp only [hkmac, Bool.false_eq_true, if_false, Except.ok.injEq] at h
    simp only [Bool.false_eq_true, if_false, or_false]
    rw [← h]
    split
    · rename_i hmem
      simp [hmem]
    · rename_i hmem
      simp [hmem]

def exampleKid : String := "aaaaaaaaaaaaaaaaaaaaaaaaaaaaaaaaaaaaaaaaaaaaaaaaaaaaaaaaaaaaaaaa"

def exampleHkdf : Hkdf := fun _ _ _ length => .ok (List.replicate length 2)

def exampleHooks : TagHooks where
  isLoadedKid _ := true
  hashAlgorithmForKid _ := .ok "SHA-256"
  deriveKey := deriveSharingKeyForProfile exampleHkdf "00"

theorem exampleHkdf_sized : Sized exampleHkdf := by
  intro inputKey salt info length output h
  cases h
  exact List.length_replicate

def exampleInput : SharingProfileInput := ⟨"secrets", exampleKid, 2, 3, 64, "tenant=demo"⟩

def exampleProfile : KeyedSharingProfile :=
  ⟨"secrets", exampleKid, 2, 3, 64, "tenant=demo", "HMAC(SHA-256)", "HMAC(SHA-256)",
    "profile=secrets;kid=" ++ exampleKid ++ ";context.tenant=demo", List.replicate 32 2⟩

theorem exampleProfile_accepted : AcceptedProfile exampleHkdf exampleProfile := by
  refine ⟨exampleHooks, [exampleInput], .fromProfiles KeyedSharingProfile.name [exampleProfile], ?_, ?_,
    List.mem_singleton.mpr rfl⟩
  · intro request derived h
    exact ⟨request.hashAlgorithm, deriveTagKeyForProfile_resolved h⟩
  · decide +kernel

def exampleRun : SplitRun where
  prepared := ⟨exampleKid, exampleProfile, ⟨"secrets", "pin"⟩⟩
  setId := List.replicate 16 3
  random _ _ := 5

def exampleCalls : List EncodeCall := exampleRun.rawShares.map fun share =>
  ⟨exampleProfile, exampleRun.setIdText, share⟩

def exampleLib : TagLib := ofQueries (exampleCalls.map fun call => call.query .compact)

theorem exampleRun_accepted : exampleRun.Accepted := by
  obtain ⟨hooks, inputs, state, hresolved, hstate, hmem⟩ := exampleProfile_accepted
  exact ⟨sharingOk_of_validate exampleHkdf_sized hresolved hstate hmem, rfl⟩

theorem exampleUnforged {output : ShareSplitOutput} (houtput : exampleRun.output exampleLib .compact = .ok output) :
    Unforged exampleLib .compact {call | ∃ run ∈ [exampleRun], call ∈ run.calls} {text | text ∈ output.shares} := by
  have hok := exampleRun_accepted
  have htotal : exampleLib.Total := total_ofQueries _
  have hsecret := validateSecret_of_output houtput
  obtain ⟨text, hout, htext⟩ := @output_ok exampleLib .compact exampleRun htotal hok hsecret
  obtain rfl := Except.ok.inj (houtput.symm.trans hout)
  intro t ht profile envelope tag hparse htag hdecode
  obtain ⟨share, hshare, rfl⟩ := List.mem_map.mp ht
  obtain ⟨-, hraw, tag', htag', heq⟩ := encodeShare_ok.mp (htext share hshare).1
  obtain ⟨found, hfound, hlength⟩ := @computeTag_ok exampleLib .compact _ htotal hok.profile
    (exampleRun.profile.unsigned exampleRun.setIdText share)
  obtain rfl := Except.ok.inj (htag'.symm.trans hfound)
  have hsize := @size_shareText .compact _ exampleRun.setId tag' share hok.profile hok.setId hlength
    (validateRawShare_ok_iff.mp hraw).2.2
  rw [heq, parseShareEnvelope_shareText hsize] at hparse
  obtain rfl := Except.ok.inj hparse
  have hsame : tag' = tag := by
    simpa [decodeTag, KeyedSharingProfile.signed, hexDecode, Hex.decode_encode, Loop.mapError_ok] using hdecode
  -- the tag of the share is not 0, so the other query is one of the list too
  have hcall : (⟨exampleProfile, exampleRun.setIdText, share⟩ : EncodeCall) ∈ exampleCalls :=
    List.mem_map.mpr ⟨share, hshare, rfl⟩
  have hne : tag' ≠ [0] := by
    intro hzero
    rcases (query_of_computeTag htag').mp hzero with hnot | hkmac
    · exact hnot (List.mem_map.mpr ⟨_, hcall, rfl⟩)
    · exact absurd hkmac (by decide)
  have hquery : profile.query .compact (exampleRun.profile.signed (urlSafe exampleRun.setId) share tag').covered ∈
      exampleCalls.map fun call => call.query .compact := by
    by_contra hnot
    exact hne (hsame.trans ((query_of_computeTag htag).mpr (.inl hnot)))
  obtain ⟨call, hcalls, hcallQuery⟩ := List.mem_map.mp hquery
  obtain ⟨other, hother, rfl⟩ := List.mem_map.mp hcalls
  exact ⟨_, ⟨exampleRun, List.mem_singleton.mpr rfl, rfl, rfl, hother⟩, hcallQuery⟩

def exampleState : LoadedKeys :=
  .fromKeys LoadedOpsKey.id [⟨exampleKid, "", "", ⟨⟨"AES-256/GCM", ""⟩, ⟨"", "", ""⟩, ⟨"", "", ""⟩, ⟨"", "", ""⟩,
    ⟨"", "", ""⟩, "SHA-256"⟩, ⟨1, "", "", "", ⟨"active", "", ""⟩⟩⟩]

theorem exampleTexts_nodup {output : ShareSplitOutput} (houtput : exampleRun.output exampleLib .compact = .ok output) :
    output.shares.Nodup ∧ output.shares.length = 3 := by
  obtain ⟨text, hout, htext⟩ :=
    @output_ok exampleLib .compact exampleRun (total_ofQueries _) exampleRun_accepted (validateSecret_of_output houtput)
  obtain rfl := Except.ok.inj (houtput.symm.trans hout)
  have hnodup : exampleRun.rawShares.Nodup ∧ exampleRun.rawShares.length = 3 := by decide
  refine ⟨hnodup.1.map_on fun share h share' h' heq => ?_, by rw [List.length_map]; exact hnodup.2⟩
  have hdecode := (htext share h).2
  rw [heq, (htext share' h').2, Except.ok.injEq, Prod.mk.injEq] at hdecode
  exact hdecode.2.symm

/-- Two of the three texts of a secret are combined, and what is combined is the secret of the one split. -/
theorem sharing_sets_example : ∃ output, exampleRun.output exampleLib .compact = .ok output ∧
    combineRequest exampleLib .compact exampleState exampleProfile ⟨exampleKid, "secrets", output.shares.take 2⟩ =
      .ok ⟨exampleKid, "secrets", output.setId, "pin"⟩ ∧
    ∃ run ∈ [exampleRun], run.setIdText = output.setId ∧ run.plaintext = "pin" := by
  have htotal : exampleLib.Total := total_ofQueries _
  obtain ⟨-, -, hhistory⟩ := sharing_sets exampleHkdf_sized htotal .compact
  obtain ⟨hauthentic, hsplit, hcombine⟩ := hhistory [exampleRun]
    (fun run hrun => List.mem_singleton.mp hrun ▸ ⟨exampleProfile_accepted, rfl⟩) (List.pairwise_singleton _ _)
  obtain ⟨output, houtput⟩ := hsplit exampleRun (List.mem_singleton.mpr rfl) (by rfl) (by rfl)
  obtain ⟨hnodup, hlength⟩ := exampleTexts_nodup houtput
  have htake : ∀ text ∈ output.shares.take 2, text ∈ output.shares := fun _ h => List.mem_of_mem_take h
  have hkid : validateKeyId exampleKid = .ok () := validateInternalHash_replicate (c := 'a') (by decide) "id"
  have hname : validateAadConfigName "profile" "secrets" = .ok () := by rfl
  have huse : prepareProfileUse exampleState exampleKid exampleKid "sharing" .verify = .ok () := by rfl
  have hresult := hcombine exampleRun (List.mem_singleton.mpr rfl) output houtput exampleState
    ⟨exampleKid, "secrets", output.shares.take 2⟩ hkid hname huse htake (hnodup.sublist (List.take_sublist 2 _))
    (by rw [List.length_take, hlength]; decide)
  obtain ⟨run, hrun, hset, hplaintext, -⟩ := hauthentic _ (exampleUnforged houtput) exampleState exampleProfile _ _
    htake hresult
  exact ⟨output, houtput, hresult, run, hrun, hset, hplaintext⟩

end Vectis.Ops.Sharing
