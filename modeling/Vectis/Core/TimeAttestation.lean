import Mathlib.Data.Set.Defs
import Vectis.Core.Error
import Vectis.Lib.I64
import Vectis.Lib.Loop

/-!
# Time attestation

`core/time_attestation.rs`: the offset and the round trip of an NTS exchange, and the verdict on the local clock from
them and a Roughtime interval. `local_vs_nts_skew_ms`, a floating-point number beside the offset, is left out of the
output.

- `clamp`: every operation of the evaluation is exact up to the ends of `u64`, for all arguments (`toNat_signedAdd` and
  the lemmas after it);
- `acceptable_iff`: the flag, where no operation saturates;
- `attestation_exact_iff`: it is the verdict on the intervals unless a local bracket that runs backwards is accepted.
-/

namespace Vectis.Core.TimeAttestation

/-! ## Observations -/

structure EffectiveTimeAttestationConfig where
  provider : String
  ntsServer : String
  roughtimeServer : String
  roughtimePublicKey : String
  maxClockSkewMs : UInt64
  maxRoundTripMs : UInt64
  maxRoughtimeRadiusMs : UInt64

structure NtsObservation where
  offsetUs : Int64
  roundTripUs : UInt64
  authenticated : Bool

structure RoughtimeObservation where
  midpointUs : UInt64
  radiusUs : UInt64
  verified : Bool
  nonceB64 : String
  responseB64 : String

/-- `i64::try_from` of microseconds. -/
def offsetFromMicros (micros : Nat) : Res Int64 :=
  if micros < 2 ^ 63 then .ok (Int64.ofNat micros) else .error (.internal "NTS offset is out of range")

/-- `server_minus_local_us`; times are in nanoseconds from the epoch. -/
def serverMinusLocalUs (systemTime networkTime : Int) : Res Int64 :=
  if systemTime ≤ networkTime then offsetFromMicros ((networkTime - systemTime).toNat / 1000)
  else do
    let offset ← offsetFromMicros ((systemTime - networkTime).toNat / 1000)
    .ok (-offset)

/-- `duration_to_us`, of a duration in nanoseconds. -/
def durationToUs (duration : Nat) : Res UInt64 :=
  if duration / 1000 < 2 ^ 64 then .ok (UInt64.ofNat (duration / 1000))
  else .error (.internal "NTS round trip is out of range")

/-- What the NTS client reports. -/
structure NtsSnapshot where
  authenticated : Bool
  systemTime : Int
  networkTime : Int
  roundTripDelay : Nat

/-- `query_nts` after the exchange. -/
def observeNts (snapshot : NtsSnapshot) : Res NtsObservation :=
  if snapshot.authenticated then do
    let offsetUs ← serverMinusLocalUs snapshot.systemTime snapshot.networkTime
    let roundTripUs ← durationToUs snapshot.roundTripDelay
    .ok ⟨offsetUs, roundTripUs, true⟩
  else .error (.internal "NTS response was not authenticated")

theorem offsetFromMicros_ok {micros : Nat} {offset : Int64} (h : offsetFromMicros micros = .ok offset) :
    offset.toInt = micros := by
  unfold offsetFromMicros at h
  split at h
  · rename_i hlt
    cases h
    exact Int64.toInt_ofNat_of_lt hlt
  · cases h

/-- The offset is the difference in whole microseconds, rounded towards zero. -/
theorem serverMinusLocalUs_ok {systemTime networkTime : Int} {offset : Int64}
    (h : serverMinusLocalUs systemTime networkTime = .ok offset) :
    offset.toInt = (networkTime - systemTime).tdiv 1000 := by
  unfold serverMinusLocalUs at h
  split at h
  · obtain ⟨n, hn⟩ := Int.eq_ofNat_of_zero_le (show 0 ≤ networkTime - systemTime by omega)
    rw [hn] at h ⊢
    exact offsetFromMicros_ok h
  · obtain ⟨n, hn⟩ := Int.eq_ofNat_of_zero_le (show 0 ≤ systemTime - networkTime by omega)
    have hneg : networkTime - systemTime = -(n : Int) := by omega
    rw [hn] at h
    obtain ⟨positive, hpositive, h⟩ := Loop.bind_eq_ok.mp h
    cases h
    have hval := offsetFromMicros_ok hpositive
    rw [Int.toNat_natCast] at hval
    have hlt := positive.toInt_lt
    rw [hneg, Int.neg_tdiv, Int64.toInt_neg, Int.bmod_eq_of_le (by omega) (by omega), hval]
    rfl

theorem durationToUs_ok {duration : Nat} {micros : UInt64} (h : durationToUs duration = .ok micros) :
    micros.toNat = duration / 1000 := by
  unfold durationToUs at h
  split at h
  · rename_i hlt
    cases h
    exact UInt64.toNat_ofNat_of_lt' hlt
  · cases h

/-! ## Evaluation -/

def signedAdd (value : UInt64) (delta : Int64) : UInt64 :=
  if delta < 0 then U64.saturatingSub value (I64.unsignedAbs delta) else U64.saturatingAdd value delta.toUInt64

structure ServerClockOutput where
  acceptable : Bool
  maxAllowedSkewMs : UInt64
  localWithinRoughtimeInterval : Bool
  ntsWithinRoughtimeInterval : Bool

structure NtsOutput where
  authenticated : Bool
  server : String
  offsetUs : String
  roundTripUs : String

structure RoughtimeOutput where
  verified : Bool
  server : String
  midpointUs : String
  radiusUs : String
  earliestUs : String
  latestUs : String
  nonceB64 : String
  responseB64 : String

structure TimeAttestationOutput where
  version : String
  provider : String
  systemUnixUs : String
  nts : NtsOutput
  roughtime : RoughtimeOutput
  serverClock : ServerClockOutput

/-- The middle of the local bracket. -/
def localSample (localStartUs localEndUs : UInt64) : UInt64 :=
  U64.saturatingAdd localStartUs (U64.saturatingSub localEndUs localStartUs / 2)

def earliestUs (roughtime : RoughtimeObservation) : UInt64 := U64.saturatingSub roughtime.midpointUs roughtime.radiusUs

def latestUs (roughtime : RoughtimeObservation) : UInt64 := U64.saturatingAdd roughtime.midpointUs roughtime.radiusUs

def evaluateTimeAttestation (localStartUs localEndUs : UInt64) (config : EffectiveTimeAttestationConfig)
    (nts : NtsObservation) (roughtime : RoughtimeObservation) : TimeAttestationOutput :=
  let sample := localSample localStartUs localEndUs
  let earliest := earliestUs roughtime
  let latest := latestUs roughtime
  let localWithin := decide (localStartUs ≤ latest ∧ earliest ≤ localEndUs)
  let ntsStart := signedAdd localStartUs nts.offsetUs
  let ntsEnd := signedAdd localEndUs nts.offsetUs
  let ntsWithin := decide (ntsStart ≤ latest ∧ earliest ≤ ntsEnd)
  let acceptable := decide (I64.unsignedAbs nts.offsetUs ≤ U64.saturatingMul config.maxClockSkewMs 1000) &&
    decide (nts.roundTripUs ≤ U64.saturatingMul config.maxRoundTripMs 1000) &&
    decide (roughtime.radiusUs ≤ U64.saturatingMul config.maxRoughtimeRadiusMs 1000) && localWithin && ntsWithin
  { version := "vectis-time-attestation-v1"
    provider := config.provider
    systemUnixUs := toString sample
    nts := ⟨nts.authenticated, config.ntsServer, toString nts.offsetUs, toString nts.roundTripUs⟩
    roughtime := ⟨roughtime.verified, config.roughtimeServer, toString roughtime.midpointUs,
      toString roughtime.radiusUs, toString earliest, toString latest, roughtime.nonceB64, roughtime.responseB64⟩
    serverClock := ⟨acceptable, config.maxClockSkewMs, localWithin, ntsWithin⟩ }

def outputIsAcceptable (output : TimeAttestationOutput) : Bool := output.serverClock.acceptable

/-! ## No operation wraps -/

/-- A number cut off at the ends of `u64`. -/
def clamp (n : Int) : Int := max 0 (min n (2 ^ 64 - 1))

theorem toNat_signedAdd (value : UInt64) (delta : Int64) :
    ((signedAdd value delta).toNat : Int) = clamp (value.toNat + delta.toInt) := by
  have hlt := value.toNat_lt
  have hzero : (0 : Int64).toInt = 0 := rfl
  unfold signedAdd clamp
  split
  · rename_i hneg
    rw [Int64.lt_iff_toInt_lt, hzero] at hneg
    rw [U64.toNat_saturatingSub, I64.toNat_unsignedAbs]
    omega
  · rename_i hpos
    rw [Int64.lt_iff_toInt_lt, hzero] at hpos
    have hcast := I64.toNat_toUInt64 (a := delta) (by omega)
    rw [U64.toNat_saturatingAdd, hcast]
    omega

theorem toNat_earliestUs (roughtime : RoughtimeObservation) :
    ((earliestUs roughtime).toNat : Int) = clamp (roughtime.midpointUs.toNat - roughtime.radiusUs.toNat) := by
  have hlt := roughtime.midpointUs.toNat_lt
  rw [earliestUs, U64.toNat_saturatingSub, clamp]
  omega

theorem toNat_latestUs (roughtime : RoughtimeObservation) :
    ((latestUs roughtime).toNat : Int) = clamp (roughtime.midpointUs.toNat + roughtime.radiusUs.toNat) := by
  rw [latestUs, U64.toNat_saturatingAdd, clamp]
  omega

/-- The sample lies in the bracket; of a bracket that runs backwards it is the start. -/
theorem toNat_localSample (localStartUs localEndUs : UInt64) :
    (localSample localStartUs localEndUs).toNat =
      localStartUs.toNat + (localEndUs.toNat - localStartUs.toNat) / 2 := by
  have hstart := localStartUs.toNat_lt
  have hend := localEndUs.toNat_lt
  have htwo : (2 : UInt64).toNat = 2 := rfl
  rw [localSample, U64.toNat_saturatingAdd, UInt64.toNat_div, U64.toNat_saturatingSub, htwo]
  omega

/-- What an NTS exchange reports is exact. -/
theorem observeNts_ok {snapshot : NtsSnapshot} {nts : NtsObservation} (h : observeNts snapshot = .ok nts) :
    nts.offsetUs.toInt = (snapshot.networkTime - snapshot.systemTime).tdiv 1000 ∧
      nts.roundTripUs.toNat = snapshot.roundTripDelay / 1000 := by
  unfold observeNts at h
  split at h
  · obtain ⟨offset, hoffset, h⟩ := Loop.bind_eq_ok.mp h
    obtain ⟨roundTrip, hroundTrip, h⟩ := Loop.bind_eq_ok.mp h
    cases h
    exact ⟨serverMinusLocalUs_ok hoffset, durationToUs_ok hroundTrip⟩
  · cases h

/-! ## The verdict -/

section Verdict

variable (localStartUs localEndUs : UInt64) (config : EffectiveTimeAttestationConfig) (nts : NtsObservation)
  (roughtime : RoughtimeObservation)

/-- The three limits, in exact arithmetic. -/
def WithinLimits : Prop :=
  nts.offsetUs.toInt.natAbs ≤ config.maxClockSkewMs.toNat * 1000 ∧
  nts.roundTripUs.toNat ≤ config.maxRoundTripMs.toNat * 1000 ∧
  roughtime.radiusUs.toNat ≤ config.maxRoughtimeRadiusMs.toNat * 1000

/-- The instants between two readings: none, when the clock was set back between them. -/
def bracket (start stop : Int) : Set Int := {t | start ≤ t ∧ t ≤ stop}

/-- The Roughtime interval. -/
def roughtimeInterval : Set Int :=
  bracket (roughtime.midpointUs.toNat - roughtime.radiusUs.toNat)
    (roughtime.midpointUs.toNat + roughtime.radiusUs.toNat)

/-- The verdict in exact arithmetic: the limits hold, and the local bracket meets the Roughtime interval, as it is and
shifted by the offset. -/
def Verdict : Prop :=
  WithinLimits config nts roughtime ∧
  (bracket localStartUs.toNat localEndUs.toNat ∩ roughtimeInterval roughtime).Nonempty ∧
  (bracket (localStartUs.toNat + nts.offsetUs.toInt) (localEndUs.toNat + nts.offsetUs.toInt) ∩
    roughtimeInterval roughtime).Nonempty

/-- The shifted times and the ends of the Roughtime interval are numbers of `u64`. -/
structure InRange : Prop where
  start : 0 ≤ localStartUs.toNat + nts.offsetUs.toInt ∧ localStartUs.toNat + nts.offsetUs.toInt < 2 ^ 64
  stop : 0 ≤ localEndUs.toNat + nts.offsetUs.toInt ∧ localEndUs.toNat + nts.offsetUs.toInt < 2 ^ 64
  earliest : roughtime.radiusUs.toNat ≤ roughtime.midpointUs.toNat
  latest : roughtime.midpointUs.toNat + roughtime.radiusUs.toNat < 2 ^ 64

variable {localStartUs localEndUs config nts roughtime}

theorem clamp_of_range {n : Int} (hlow : 0 ≤ n) (hhigh : n < 2 ^ 64) : clamp n = n := by
  unfold clamp
  omega

/-- The flag, where nothing saturates: the comparisons of the ends. -/
theorem acceptable_iff (hr : InRange localStartUs localEndUs nts roughtime) :
    outputIsAcceptable (evaluateTimeAttestation localStartUs localEndUs config nts roughtime) = true ↔
      WithinLimits config nts roughtime ∧
      ((localStartUs.toNat : Int) ≤ roughtime.midpointUs.toNat + roughtime.radiusUs.toNat ∧
        (roughtime.midpointUs.toNat - roughtime.radiusUs.toNat : Int) ≤ localEndUs.toNat) ∧
      localStartUs.toNat + nts.offsetUs.toInt ≤ roughtime.midpointUs.toNat + roughtime.radiusUs.toNat ∧
        (roughtime.midpointUs.toNat - roughtime.radiusUs.toNat : Int) ≤ localEndUs.toNat + nts.offsetUs.toInt := by
  have hearliest := toNat_earliestUs roughtime
  have hlatest := toNat_latestUs roughtime
  have hstart := toNat_signedAdd localStartUs nts.offsetUs
  have hend := toNat_signedAdd localEndUs nts.offsetUs
  have hle := hr.earliest
  have hlt := hr.latest
  rw [clamp_of_range (by omega) (by omega)] at hearliest hlatest
  rw [clamp_of_range hr.start.1 hr.start.2] at hstart
  rw [clamp_of_range hr.stop.1 hr.stop.2] at hend
  have hthousand : (1000 : UInt64).toNat = 1000 := rfl
  simp only [outputIsAcceptable, evaluateTimeAttestation, Bool.and_eq_true, decide_eq_true_eq, WithinLimits,
    U64.le_saturatingMul, I64.toNat_unsignedAbs, hthousand, and_assoc]
  simp only [UInt64.le_iff_toNat_le]
  refine and_congr Iff.rfl (and_congr Iff.rfl (and_congr Iff.rfl (and_congr ?_ (and_congr ?_ (and_congr ?_ ?_)))))
  all_goals omega

/-- Two brackets meet when neither ends before the other starts, provided that they run forwards. -/
theorem nonempty_inter_iff {a b c d : Int} (hcd : c ≤ d) :
    (bracket a b ∩ bracket c d).Nonempty ↔ a ≤ b ∧ a ≤ d ∧ c ≤ b := by
  constructor
  · rintro ⟨t, ⟨hat, htb⟩, hct, htd⟩
    omega
  · rintro ⟨hab, had, hcb⟩
    by_cases hca : c ≤ a
    · exact ⟨a, ⟨Int.le_refl a, hab⟩, hca, had⟩
    · exact ⟨c, ⟨by omega, hcb⟩, Int.le_refl c, hcd⟩

/-- The ends of a bracket that runs backwards lie in an interval when the bracket read forwards does. -/
theorem backwards_subset_iff {a b c d : Int} (hba : b ≤ a) : bracket b a ⊆ bracket c d ↔ a ≤ d ∧ c ≤ b := by
  constructor
  · intro h
    exact ⟨(h ⟨hba, Int.le_refl a⟩).2, (h ⟨Int.le_refl b, hba⟩).1⟩
  · rintro ⟨had, hcb⟩ t ⟨hbt, hta⟩
    exact ⟨Int.le_trans hcb hbt, Int.le_trans hta had⟩

variable (localStartUs localEndUs config nts roughtime)

/-- The local clock was not set back between its two readings, or a limit is exceeded, or the times between the two
readings, as they are or shifted by the offset, are not all in the Roughtime interval. -/
def NotAcceptedBackwards : Prop :=
  localStartUs ≤ localEndUs ∨ ¬WithinLimits config nts roughtime ∨
  ¬bracket localEndUs.toNat localStartUs.toNat ⊆ roughtimeInterval roughtime ∨
  ¬bracket (localEndUs.toNat + nts.offsetUs.toInt) (localStartUs.toNat + nts.offsetUs.toInt) ⊆
    roughtimeInterval roughtime

/-- No operation of the evaluation or of the NTS observation wraps, for any arguments; and where the shifted times and
the Roughtime interval are in range, the flag is the verdict exactly when no bracket that runs backwards is accepted. -/
theorem attestation_exact_iff :
    (∀ value delta, ((signedAdd value delta).toNat : Int) = clamp (value.toNat + delta.toInt)) ∧
    ((earliestUs roughtime).toNat : Int) = clamp (roughtime.midpointUs.toNat - roughtime.radiusUs.toNat) ∧
    ((latestUs roughtime).toNat : Int) = clamp (roughtime.midpointUs.toNat + roughtime.radiusUs.toNat) ∧
    (localSample localStartUs localEndUs).toNat = localStartUs.toNat + (localEndUs.toNat - localStartUs.toNat) / 2 ∧
    (I64.unsignedAbs nts.offsetUs).toNat = nts.offsetUs.toInt.natAbs ∧
    (∀ limit : UInt64, (U64.saturatingMul limit 1000).toNat = min (limit.toNat * 1000) (2 ^ 64 - 1)) ∧
    (∀ snapshot observed, observeNts snapshot = .ok observed →
      observed.offsetUs.toInt = (snapshot.networkTime - snapshot.systemTime).tdiv 1000 ∧
      observed.roundTripUs.toNat = snapshot.roundTripDelay / 1000) ∧
    (InRange localStartUs localEndUs nts roughtime →
      ((outputIsAcceptable (evaluateTimeAttestation localStartUs localEndUs config nts roughtime) = true ↔
        Verdict localStartUs localEndUs config nts roughtime) ↔
      NotAcceptedBackwards localStartUs localEndUs config nts roughtime)) := by
  refine ⟨toNat_signedAdd, toNat_earliestUs roughtime, toNat_latestUs roughtime, toNat_localSample _ _,
    I64.toNat_unsignedAbs _, fun limit => U64.toNat_saturatingMul limit 1000, fun _ _ => observeNts_ok, fun hr => ?_⟩
  have hinterval : (roughtime.midpointUs.toNat - roughtime.radiusUs.toNat : Int) ≤
      roughtime.midpointUs.toNat + roughtime.radiusUs.toNat := by omega
  rw [acceptable_iff hr, Verdict, NotAcceptedBackwards, roughtimeInterval, nonempty_inter_iff hinterval,
    nonempty_inter_iff hinterval, UInt64.le_iff_toNat_le]
  by_cases hle : localStartUs.toNat ≤ localEndUs.toNat
  · have hshift : localStartUs.toNat + nts.offsetUs.toInt ≤ localEndUs.toNat + nts.offsetUs.toInt := by omega
    simp only [Int.ofNat_le.mpr hle, hle, hshift, true_and, true_or]
  · have hback : ¬(localStartUs.toNat : Int) ≤ localEndUs.toNat := by omega
    rw [backwards_subset_iff (by omega), backwards_subset_iff (by omega)]
    simp only [hle, hback, false_and, and_false, iff_false, false_or]
    tauto

/-- A Roughtime reply of one millisecond around second one. -/
def exampleRoughtime : RoughtimeObservation := ⟨1000000, 1000, true, "", ""⟩

def exampleConfig : EffectiveTimeAttestationConfig := ⟨"cloudflare", "", "", "", 1000, 2000, 2000⟩

/-- A local clock set back by one microsecond between its readings: no instant is in the bracket, and the flag is
set. -/
theorem backwards_bracket_accepted :
    InRange 1000001 1000000 ⟨0, 10, true⟩ exampleRoughtime ∧
    outputIsAcceptable (evaluateTimeAttestation 1000001 1000000 exampleConfig ⟨0, 10, true⟩ exampleRoughtime) = true ∧
    ¬Verdict 1000001 1000000 exampleConfig ⟨0, 10, true⟩ exampleRoughtime := by
  refine ⟨⟨by decide, by decide, by decide, by decide⟩, by decide, ?_⟩
  rintro ⟨-, ⟨t, ⟨hstart, hend⟩, -⟩, -⟩
  have hone : (1000001 : UInt64).toNat = 1000001 := rfl
  have hzero : (1000000 : UInt64).toNat = 1000000 := rfl
  rw [hone] at hstart
  rw [hzero] at hend
  omega

end Verdict

end Vectis.Core.TimeAttestation
