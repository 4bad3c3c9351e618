/-
This file embeds the selection of a candidate within six fixed families: lower bounds adjusted over
a family, a representative of each family, a step-down correction over the families for both
metrics, and the lock of the first of what passed. At most one candidate of a family passes, and
neither what passes nor what is locked depends on the order of the candidates or the families.

Lower bounds and values are those of any ordered field.
-/

import QuantAgent.Library.Holm
import QuantAgent.Library.KeyedList
import QuantAgent.Library.Refusal

namespace QuantAgent.Inference.Selection

open Ranking Holm

/-! ### Candidates -/

/-- `_FAMILIES`. -/
inductive Family
  | trendContinuation
  | breakoutContinuation
  | failedMoveReversal
  | btcEthConfirmDiverge
  | fundingDirectionInteraction
  | pairDepthTwo
  deriving DecidableEq

namespace Family

def name : Family → String
  | trendContinuation => "D1_TREND_CONTINUATION"
  | breakoutContinuation => "D2_BREAKOUT_CONTINUATION"
  | failedMoveReversal => "D3_FAILED_MOVE_REVERSAL"
  | btcEthConfirmDiverge => "D4_BTC_ETH_CONFIRM_DIVERGE"
  | fundingDirectionInteraction => "D5_FUNDING_DIRECTION_INTERACTION"
  | pairDepthTwo => "PAIR_DEPTH_TWO"

/-- The fixed order of the families. -/
def all : List Family :=
  [trendContinuation, breakoutContinuation, failedMoveReversal, btcEthConfirmDiverge,
    fundingDirectionInteraction, pairDepthTwo]

def ofName (text : String) : Option Family := all.find? fun family => family.name = text

theorem mem_all (family : Family) : family ∈ all := by
  cases family <;> decide

theorem all_nodup : all.Nodup := by decide

theorem name_injective : Function.Injective name := by
  intro first second same
  cases first <;> cases second <;> first | rfl | exact absurd same (by decide)

instance : LinearOrder Family := LinearOrder.lift' name name_injective

end Family

inductive Metric
  | precision
  | netExpectancy
  deriving DecidableEq

def byMetric {Value : Type} (precision netExpectancy : Value) : Metric → Value
  | .precision => precision
  | .netExpectancy => netExpectancy

theorem byMetric_eq {Value : Type} (value : Metric → Value) :
    byMetric (value .precision) (value .netExpectancy) = value := by
  funext metric
  cases metric <;> rfl

/-- The fields of `H40CandidateResultEntry` that the selection reads. -/
structure Entry where
  structuralConfigurationHash : String
  familyId : String
  complexity : ℕ

def Entry.family (entry : Entry) : Option Family :=
  if entry.complexity = 2 then some .pairDepthTwo else Family.ofName entry.familyId

/-- `_CandidateScience`, without its audit. -/
structure CandidateScience (K : Type) where
  hardGatesPassed : Bool
  pointPrecision : K
  pointNetExpectancy : K
  precisionReplicates : List K
  netReplicates : List K
  p0 : K

/-- A loaded candidate, with its science where that is complete. -/
structure Candidate (K : Type) where
  entry : Entry
  science : Option (CandidateScience K)

inductive ReasonCode
  | configIdentityConflict
  | notTestable
  | thresholdUnmet
  deriving DecidableEq

inductive Fault
  | guard (reason : ReasonCode) (message : String)
  | keyError

def Fault.fail (message : String) : Fault := .guard .configIdentityConflict message

/-- `_M`. -/
def replicateCount : ℕ := 10000

section

variable {K : Type} [Field K] [LinearOrder K]

/-! ### Bounds and values -/

def h40MarginalP (point : K) (replicates : List K) (null : K) : Except Fault K := do
  refuse (replicates.length ≠ replicateCount)
    (.fail "marginal p-value requires 10000 finite replicates")
  return ((1 + replicates.countP fun replicate => point - null ≤ replicate - point : ℕ) : K) /
    (replicateCount + 1 : ℕ)

/-- The 9500th of the greatest centered replicates. -/
def familyCritical : List (List K) → K
  | [] => 0
  | first :: rest => ((rest.foldl (List.zipWith max) first).insertionSort (· ≤ ·)).getD 9499 0

/-- `h40_family_adjusted_lcbs`, where the points and the replicates are those of the same items. -/
def h40FamilyAdjustedLcbs {Item : Type} (identity : Item → String) (point : Item → K)
    (replicates : Item → List K) (items : List Item) : Except Fault (Item → K) := do
  refuse (items.isEmpty = true)
    (.fail "family correction requires the complete registered candidate set")
  refuse (∃ item ∈ items, (replicates item).length ≠ replicateCount)
    (.fail "family correction requires complete finite bootstrap vectors")
  let critical := familyCritical ((sortedBy identity items).map fun item =>
    (replicates item).map fun replicate => replicate - point item)
  return fun item => point item - critical

def h40HolmFixedSix (rawP : List (Family × K)) : Except Fault (List (Family × K)) := do
  refuse (¬ ∀ family ∈ Family.all, family ∈ rawP.map Prod.fst)
    (.fail "Holm family universe must contain exactly six fixed slots")
  refuse (∃ item ∈ rawP, item.2 < 0 ∨ 1 < item.2) (.fail "Holm p-value outside [0, 1]")
  return Holm.adjusted 6 0 (sortedBy Holm.rank rawP)

/-! ### A family -/

structure Member (K : Type) where
  entry : Entry
  science : CandidateScience K

namespace Member

def point (metric : Metric) (member : Member K) : K :=
  match metric with
  | .precision => member.science.pointPrecision
  | .netExpectancy => member.science.pointNetExpectancy

def replicates (metric : Metric) (member : Member K) : List K :=
  match metric with
  | .precision => member.science.precisionReplicates
  | .netExpectancy => member.science.netReplicates

def null (metric : Metric) (member : Member K) : K :=
  match metric with
  | .precision => member.science.p0
  | .netExpectancy => 0

def identity (member : Member K) : String := member.entry.structuralConfigurationHash

end Member

/-- A candidate with its adjusted lower bounds and its raw values. -/
structure Scored (K : Type) where
  entry : Entry
  hardGatesPassed : Bool
  adjusted : Metric → K
  pValue : Metric → K

/-- The order in which a representative is chosen. -/
def Scored.rank (scored : Scored K) : K ×ₗ K ×ₗ ℕ ×ₗ String :=
  toLex (-scored.adjusted .netExpectancy, toLex (-scored.adjusted .precision,
    toLex (scored.entry.complexity, scored.entry.structuralConfigurationHash)))

def scoreFamily (members : List (Member K)) : Except Fault (List (Scored K)) := do
  let precision ← h40FamilyAdjustedLcbs Member.identity (Member.point .precision)
    (Member.replicates .precision) members
  let netExpectancy ← h40FamilyAdjustedLcbs Member.identity (Member.point .netExpectancy)
    (Member.replicates .netExpectancy) members
  members.mapM fun member => do
    let pPrecision ← h40MarginalP (member.point .precision) (member.replicates .precision)
      (member.null .precision)
    let pNetExpectancy ← h40MarginalP (member.point .netExpectancy)
      (member.replicates .netExpectancy) (member.null .netExpectancy)
    return {
      entry := member.entry
      hardGatesPassed := member.science.hardGatesPassed
      adjusted := byMetric (precision member) (netExpectancy member)
      pValue := byMetric pPrecision pNetExpectancy }

def membersOf (candidates : List (Candidate K)) (family : Family) : List (Candidate K) :=
  candidates.filter fun candidate => candidate.entry.family = some family

def Candidate.member (candidate : Candidate K) : Option (Member K) :=
  candidate.science.map (Member.mk candidate.entry)

def Withheld (candidates : List (Candidate K)) : Prop :=
  (∃ candidate ∈ candidates, candidate.science.isNone = true) ∨ candidates.isEmpty = true

instance (candidates : List (Candidate K)) : Decidable (Withheld candidates) :=
  inferInstanceAs (Decidable (_ ∨ _))

/-- What is known of a family, unless it is unavailable or empty. -/
def familyOutcome (candidates : List (Candidate K)) (family : Family) :
    Except Fault (Option (List (Scored K))) :=
  if Withheld (membersOf candidates family) then .ok none
  else (scoreFamily ((membersOf candidates family).filterMap Candidate.member)).map some

/-- `representatives[family]`. -/
def representative (scored : List (Scored K)) : Option (Scored K) :=
  leastBy Scored.rank (scored.filter fun item => item.hardGatesPassed)

def rawP (metric : Metric) (outcome : Option (List (Scored K))) : K :=
  (outcome.bind representative).elim 1 fun item => item.pValue metric

/-! ### The selection -/

/-- `H40CandidateVerification`. -/
structure CandidateVerification (K : Type) where
  hardGatesPassed : Bool
  adjustedLcbNetExpectancy : Option K
  adjustedLcbPrecision : Option K
  scientificUnavailable : Bool

/-- The adjusted value of a family. -/
def holmAt (holm : List (Family × K)) (family : Family) : K :=
  (KeyedList.lookup Prod.fst holm family).elim 1 Prod.snd

def verifications (candidates : List (Candidate K)) (holm : Metric → List (Family × K))
    (outcome : Family × Option (List (Scored K))) : List (String × CandidateVerification K) :=
  match outcome with
  | (family, none) => (membersOf candidates family).map fun candidate =>
      (candidate.entry.structuralConfigurationHash, ⟨false, none, none, true⟩)
  | (family, some scored) => scored.map fun item =>
      (item.entry.structuralConfigurationHash,
        { hardGatesPassed :=
            (representative scored).map (fun chosen => chosen.entry.structuralConfigurationHash) =
                some item.entry.structuralConfigurationHash ∧
              holmAt (holm .precision) family ≤ 1 / 20 ∧
              holmAt (holm .netExpectancy) family ≤ 1 / 20
          adjustedLcbNetExpectancy := some (item.adjusted .netExpectancy)
          adjustedLcbPrecision := some (item.adjusted .precision)
          scientificUnavailable := false })

/-- `_evaluate_candidates`, in some order of the families. -/
def evaluateCandidates (families : List Family) (candidates : List (Candidate K)) :
    Except Fault (List (String × CandidateVerification K)) := do
  refuse (∃ candidate ∈ candidates, candidate.entry.family = none) .keyError
  let outcomes ← families.mapM fun family => (familyOutcome candidates family).map (Prod.mk family)
  let precision ← h40HolmFixedSix (outcomes.map fun outcome =>
    (outcome.1, rawP .precision outcome.2))
  let netExpectancy ← h40HolmFixedSix (outcomes.map fun outcome =>
    (outcome.1, rawP .netExpectancy outcome.2))
  return outcomes.flatMap (verifications candidates (byMetric precision netExpectancy))

/-! ### The lock -/

/-- A passed candidate with its lower bounds. -/
structure LockRow (K : Type) where
  entry : Entry
  netExpectancy : K
  precision : K

/-- The order in which a candidate is locked. -/
def LockRow.rank (row : LockRow K) : K ×ₗ K ×ₗ ℕ ×ₗ String :=
  toLex (-row.netExpectancy, toLex (-row.precision,
    toLex (row.entry.complexity, row.entry.structuralConfigurationHash)))

def lockRow (verified : List (String × CandidateVerification K)) (entry : Entry) :
    Except Fault (Option (LockRow K) × Bool) :=
  match KeyedList.lookup Prod.fst verified entry.structuralConfigurationHash with
  | none => .error (.fail "candidate verification has no matching bound Discovery manifest")
  | some (_, result) =>
    if result.hardGatesPassed then
      match result.adjustedLcbNetExpectancy, result.adjustedLcbPrecision with
      | some netExpectancy, some precision =>
        .ok (some ⟨entry, netExpectancy, precision⟩, result.scientificUnavailable)
      | _, _ => .error (.fail "passed candidate has undefined scientific lower bound")
    else .ok (none, result.scientificUnavailable)

/-- `authorize_candidate_lock`, from the verifications of the entries. -/
def authorizeCandidateLock (entries : List Entry)
    (verified : List (String × CandidateVerification K)) : Except Fault Entry := do
  let rows ← entries.mapM (lockRow verified)
  match leastBy LockRow.rank (rows.filterMap Prod.fst) with
  | some selected => return selected.entry
  | none =>
    .error (.guard (if rows.any Prod.snd then .notTestable else .thresholdUnmet)
      "no candidate passed every accepted hard gate")

def lockCandidate (families : List Family) (candidates : List (Candidate K)) :
    Except Fault Entry := do
  let verified ← evaluateCandidates families candidates
  authorizeCandidateLock (candidates.map Candidate.entry) verified

/-! ### What is computed -/

def Complete (members : List (Member K)) : Prop :=
  ∀ member ∈ members, ∀ metric, (member.replicates metric).length = replicateCount

def critical (members : List (Member K)) (metric : Metric) : K :=
  familyCritical ((sortedBy Member.identity members).map fun member =>
    (member.replicates metric).map fun replicate => replicate - member.point metric)

/-- The raw value of a member. -/
def marginal (member : Member K) (metric : Metric) : K :=
  ((1 + (member.replicates metric).countP fun replicate =>
    member.point metric - member.null metric ≤ replicate - member.point metric : ℕ) : K) /
      (replicateCount + 1 : ℕ)

def scoreOf (members : List (Member K)) (member : Member K) : Scored K where
  entry := member.entry
  hardGatesPassed := member.science.hardGatesPassed
  adjusted := fun metric => member.point metric - critical members metric
  pValue := marginal member

theorem h40MarginalP_eq_ok_iff (member : Member K) (metric : Metric) (value : K) :
    h40MarginalP (member.point metric) (member.replicates metric) (member.null metric) =
        .ok value ↔
      (member.replicates metric).length = replicateCount ∧ value = marginal member metric := by
  unfold h40MarginalP
  rw [refuse_bind_eq_ok, not_not]
  exact and_congr_right fun _ =>
    ⟨fun done => (Except.ok.inj done).symm, congrArg Except.ok ∘ Eq.symm⟩

theorem h40FamilyAdjustedLcbs_eq_ok_iff (members : List (Member K)) (metric : Metric)
    (bound : Member K → K) :
    h40FamilyAdjustedLcbs Member.identity (Member.point metric) (Member.replicates metric) members =
        .ok bound ↔
      members ≠ [] ∧ (∀ member ∈ members, (member.replicates metric).length = replicateCount) ∧
        bound = fun member => member.point metric - critical members metric := by
  unfold h40FamilyAdjustedLcbs
  rw [refuse_bind_eq_ok, refuse_bind_eq_ok, List.isEmpty_iff]
  push Not
  exact and_congr_right fun _ => and_congr_right fun _ =>
    ⟨fun done => (Except.ok.inj done).symm, congrArg Except.ok ∘ Eq.symm⟩

theorem scoreFamily_eq_ok_iff (members : List (Member K)) (scored : List (Scored K)) :
    scoreFamily members = .ok scored ↔
      members ≠ [] ∧ Complete members ∧ scored = members.map (scoreOf members) := by
  have scores (some_member : members ≠ []) (complete : Complete members) :
      scoreFamily members = .ok (members.map (scoreOf members)) := by
    have bound (metric : Metric) := (h40FamilyAdjustedLcbs_eq_ok_iff members metric _).mpr
      ⟨some_member, fun member inside => complete member inside metric, rfl⟩
    unfold scoreFamily
    rw [bound .precision, bound .netExpectancy, ok_bind, ok_bind]
    refine mapM_eq_map fun member inside => ?_
    have value (metric : Metric) := (h40MarginalP_eq_ok_iff member metric _).mpr
      ⟨complete member inside metric, rfl⟩
    rw [value .precision, value .netExpectancy, ok_bind, ok_bind]
    exact congrArg Except.ok
      ((Scored.mk.injEq ..).mpr ⟨rfl, rfl, byMetric_eq fun metric =>
        member.point metric - critical members metric, byMetric_eq (marginal member)⟩)
  constructor
  · intro done
    have bounds := done
    unfold scoreFamily at bounds
    obtain ⟨precision, first, rest⟩ := bind_eq_ok.mp bounds
    obtain ⟨netExpectancy, second, -⟩ := bind_eq_ok.mp rest
    obtain ⟨some_member, completePrecision, -⟩ :=
      (h40FamilyAdjustedLcbs_eq_ok_iff members .precision _).mp first
    obtain ⟨-, completeNet, -⟩ :=
      (h40FamilyAdjustedLcbs_eq_ok_iff members .netExpectancy _).mp second
    have complete : Complete members := fun member inside metric =>
      match metric with
      | .precision => completePrecision member inside
      | .netExpectancy => completeNet member inside
    exact ⟨some_member, complete, Except.ok.inj (done.symm.trans (scores some_member complete))⟩
  · rintro ⟨some_member, complete, rfl⟩
    exact scores some_member complete

/-- What is known of a family whose vectors are complete. -/
def outcomeOf (candidates : List (Candidate K)) (family : Family) : Option (List (Scored K)) :=
  if Withheld (membersOf candidates family) then none
  else
    let members := (membersOf candidates family).filterMap Candidate.member
    some (members.map (scoreOf members))

def CompleteFamily (candidates : List (Candidate K)) (family : Family) : Prop :=
  ¬ Withheld (membersOf candidates family) →
    Complete ((membersOf candidates family).filterMap Candidate.member)

variable {candidates : List (Candidate K)}

omit [Field K] [LinearOrder K] in
theorem members_ne_nil (open_family : ¬ Withheld candidates) :
    candidates.filterMap Candidate.member ≠ [] := by
  unfold Withheld at open_family
  push Not at open_family
  obtain ⟨available, some_candidate⟩ := open_family
  cases candidates with
  | nil => exact absurd rfl some_candidate
  | cons candidate rest =>
    have here := available candidate List.mem_cons_self
    unfold Candidate.member
    cases science : candidate.science with
    | none => rw [science] at here; exact absurd rfl here
    | some found => simp [science]

theorem familyOutcome_eq_ok_iff (candidates : List (Candidate K)) (family : Family)
    (outcome : Option (List (Scored K))) :
    familyOutcome candidates family = .ok outcome ↔
      CompleteFamily candidates family ∧ outcome = outcomeOf candidates family := by
  unfold familyOutcome outcomeOf CompleteFamily
  split_ifs with withheld
  · constructor
    · exact fun done => ⟨fun open_family => absurd withheld open_family, (Except.ok.inj done).symm⟩
    · exact fun ⟨_, same⟩ => congrArg Except.ok same.symm
  · rw [map_eq_ok]
    simp only [scoreFamily_eq_ok_iff]
    constructor
    · rintro ⟨scored, ⟨-, complete, rfl⟩, rfl⟩
      exact ⟨fun _ => complete, rfl⟩
    · rintro ⟨complete, rfl⟩
      exact ⟨_, ⟨members_ne_nil withheld, complete withheld, rfl⟩, rfl⟩

theorem member_of_scored {family : Family}
    {scored : List (Scored K)} {item : Scored K} (known : outcomeOf candidates family = some scored)
    (inside : item ∈ scored) :
    ¬ Withheld (membersOf candidates family) ∧
      ∃ member ∈ (membersOf candidates family).filterMap Candidate.member,
        scoreOf ((membersOf candidates family).filterMap Candidate.member) member = item := by
  unfold outcomeOf at known
  split_ifs at known with withheld
  rw [← Option.some.inj known] at inside
  exact ⟨withheld, List.mem_map.mp inside⟩

theorem mem_of_representative {scored : List (Scored K)} {item : Scored K}
    (chosen : representative scored = some item) : item ∈ scored ∧ item.hardGatesPassed = true :=
  List.mem_filter.mp (leastBy_mem chosen)

variable [IsStrictOrderedRing K]

theorem marginal_unit {member : Member K} {metric : Metric}
    (complete : (member.replicates metric).length = replicateCount) :
    0 ≤ marginal member metric ∧ marginal member metric ≤ 1 := by
  unfold marginal
  refine ⟨by positivity, ?_⟩
  rw [div_le_one (by positivity), Nat.cast_le, ← complete, Nat.add_comm]
  exact Nat.succ_le_succ List.countP_le_length

theorem rawP_unit {family : Family}
    (complete : CompleteFamily candidates family) (metric : Metric) :
    0 ≤ rawP metric (outcomeOf candidates family) ∧
      rawP metric (outcomeOf candidates family) ≤ 1 := by
  unfold rawP
  cases chosen : (outcomeOf candidates family).bind representative with
  | none => exact ⟨zero_le_one, le_rfl⟩
  | some item =>
    obtain ⟨scored, known, least⟩ := Option.bind_eq_some_iff.mp chosen
    obtain ⟨open_family, member, inside, rfl⟩ :=
      member_of_scored known (mem_of_representative least).1
    exact marginal_unit (complete open_family member inside metric)

/-! ### The correction -/

omit [IsStrictOrderedRing K] in
theorem h40HolmFixedSix_eq {families : List Family} (fixed : families.Perm Family.all)
    {raw : Family → K} (unit : ∀ family, 0 ≤ raw family ∧ raw family ≤ 1) :
    h40HolmFixedSix (values families raw) = .ok (Holm.holm (values families raw)) := by
  have whole : ∀ family ∈ Family.all, family ∈ (values families raw).map Prod.fst := by
    intro family member
    rw [values_names]
    exact fixed.mem_iff.mpr member
  have within : ¬ ∃ item ∈ values families raw, item.2 < 0 ∨ 1 < item.2 := by
    rintro ⟨item, member, outside⟩
    obtain ⟨family, -, rfl⟩ := List.mem_map.mp member
    exact outside.elim (not_lt.mpr (unit family).1) (not_lt.mpr (unit family).2)
  have six : (values families raw).length = 6 := by
    unfold values
    rw [List.length_map, fixed.length_eq]
    rfl
  unfold h40HolmFixedSix Holm.holm
  rw [refuse_of_not (not_not.mpr whole), refuse_of_not within, six]
  rfl

def holmOf (families : List Family) (candidates : List (Candidate K)) (metric : Metric) :
    List (Family × K) :=
  Holm.holm (values families fun family => rawP metric (outcomeOf candidates family))

/-- The selection succeeds exactly when every family is known and complete, and records of each
family what its outcome and the corrected values say. -/
theorem evaluateCandidates_eq_ok_iff {families : List Family} (fixed : families.Perm Family.all)
    (candidates : List (Candidate K)) (verified : List (String × CandidateVerification K)) :
    evaluateCandidates families candidates = .ok verified ↔
      (∀ candidate ∈ candidates, candidate.entry.family ≠ none) ∧
        (∀ family, CompleteFamily candidates family) ∧
          verified = families.flatMap fun family =>
            verifications candidates (holmOf families candidates)
              (family, outcomeOf candidates family) := by
  have outcome (family : Family) (found : Family × Option (List (Scored K))) :
      (familyOutcome candidates family).map (Prod.mk family) = .ok found ↔
        CompleteFamily candidates family ∧ found = (family, outcomeOf candidates family) := by
    rw [map_eq_ok]
    simp only [familyOutcome_eq_ok_iff]
    constructor
    · rintro ⟨_, ⟨complete, rfl⟩, rfl⟩
      exact ⟨complete, rfl⟩
    · rintro ⟨complete, rfl⟩
      exact ⟨_, ⟨complete, rfl⟩, rfl⟩
  have corrected (complete : ∀ family, CompleteFamily candidates family) (metric : Metric) :
      h40HolmFixedSix ((families.map fun family => (family, outcomeOf candidates family)).map
        fun outcome => (outcome.1, rawP metric outcome.2)) =
          .ok (holmOf families candidates metric) := by
    rw [List.map_map]
    exact h40HolmFixedSix_eq fixed fun family => rawP_unit (complete family) metric
  unfold evaluateCandidates
  rw [refuse_bind_eq_ok]
  push Not
  refine and_congr_right fun _ => ?_
  rw [bind_eq_ok]
  simp only [mapM_eq_ok_iff_of outcome]
  constructor
  · rintro ⟨_, ⟨completeFamilies, rfl⟩, rest⟩
    have complete : ∀ family, CompleteFamily candidates family := fun family =>
      completeFamilies family (fixed.mem_iff.mpr family.mem_all)
    rw [corrected complete, corrected complete, ok_bind, ok_bind, byMetric_eq,
      List.flatMap_map] at rest
    exact ⟨complete, (Except.ok.inj rest).symm⟩
  · rintro ⟨complete, rfl⟩
    refine ⟨_, ⟨fun family _ => complete family, rfl⟩, ?_⟩
    rw [corrected complete, corrected complete, ok_bind, ok_bind, byMetric_eq,
      List.flatMap_map]
    rfl

end

/-! ### The order of the candidates -/

section

variable {K : Type} [Field K] [LinearOrder K]

def Distinct (candidates : List (Candidate K)) : Prop :=
  (candidates.map fun candidate => candidate.entry.structuralConfigurationHash).Nodup

section

variable {candidates others : List (Candidate K)} {family : Family}

omit [Field K] [LinearOrder K]

theorem Distinct.eq (distinct : Distinct candidates) {first second : Candidate K}
    (inFirst : first ∈ candidates) (inSecond : second ∈ candidates)
    (same : first.entry.structuralConfigurationHash = second.entry.structuralConfigurationHash) :
    first = second :=
  List.inj_on_of_nodup_map distinct inFirst inSecond same

theorem candidate_of_member {member : Member K}
    (inside : member ∈ (membersOf candidates family).filterMap Candidate.member) :
    ∃ candidate ∈ candidates, candidate.entry.family = some family ∧
      candidate.member = some member ∧ candidate.entry = member.entry := by
  obtain ⟨candidate, inFamily, found⟩ := List.mem_filterMap.mp inside
  obtain ⟨inCandidates, own⟩ := List.mem_filter.mp inFamily
  obtain ⟨science, -, rfl⟩ := Option.map_eq_some_iff.mp found
  exact ⟨candidate, inCandidates, of_decide_eq_true own, found, rfl⟩

theorem members_apart (distinct : Distinct candidates) (family : Family) :
    Apart Member.identity ((membersOf candidates family).filterMap Candidate.member) := by
  intro first inFirst second inSecond same
  obtain ⟨own, inCandidates, -, found, entry⟩ := candidate_of_member inFirst
  obtain ⟨other, inOthers, -, foundOther, entryOther⟩ := candidate_of_member inSecond
  have one : own = other := distinct.eq inCandidates inOthers (by
    rw [entry, entryOther]
    exact same)
  rw [one, foundOther] at found
  exact (Option.some.inj found).symm

theorem membersOf_perm (same : candidates.Perm others) (family : Family) :
    (membersOf candidates family).Perm (membersOf others family) :=
  same.filter _

theorem withheld_perm (same : candidates.Perm others) : Withheld candidates ↔ Withheld others := by
  unfold Withheld
  rw [List.isEmpty_iff, List.isEmpty_iff]
  refine or_congr ?_ ⟨fun empty => ?_, fun empty => ?_⟩
  · exact exists_congr fun candidate => and_congr_left fun _ => same.mem_iff
  · exact (empty ▸ same).nil_eq.symm
  · exact (empty ▸ same.symm).nil_eq.symm

end

variable {verified : List (String × CandidateVerification K)}

section

variable {candidates others : List (Candidate K)} {families order : List Family} {family : Family}
  (distinct : Distinct candidates) (same : candidates.Perm others)

include distinct same in
theorem scoreOf_perm (family : Family) :
    scoreOf ((membersOf candidates family).filterMap Candidate.member) =
      scoreOf ((membersOf others family).filterMap Candidate.member) := by
  have ordered := sortedBy_eq_of_perm (members_apart distinct family)
    ((membersOf_perm same family).filterMap Candidate.member)
  funext member
  unfold scoreOf critical
  rw [ordered]

include distinct in
theorem scored_apart {scored : List (Scored K)}
    (known : outcomeOf candidates family = some scored) : Apart Scored.rank scored := by
  intro first inFirst second inSecond same
  obtain ⟨-, own, inMembers, rfl⟩ := member_of_scored known inFirst
  obtain ⟨-, other, inOthers, rfl⟩ := member_of_scored known inSecond
  have rest := (Prod.mk.inj (toLex.injective (Prod.mk.inj (toLex.injective same)).2)).2
  have identity := (Prod.mk.inj (toLex.injective rest)).2
  rw [members_apart distinct family own inMembers other inOthers identity]

theorem representative_perm {scored found : List (Scored K)} (apart : Apart Scored.rank scored)
    (same : scored.Perm found) : representative scored = representative found :=
  leastBy_eq_of_perm (fun first inFirst second inSecond =>
    apart first (List.mem_of_mem_filter inFirst) second (List.mem_of_mem_filter inSecond))
    (same.filter _)

include distinct same in
theorem outcomeOf_perm (family : Family) :
    (outcomeOf candidates family = none ∧ outcomeOf others family = none) ∨
      ∃ scored found, outcomeOf candidates family = some scored ∧
        outcomeOf others family = some found ∧ scored.Perm found ∧
          representative scored = representative found := by
  have withheld := withheld_perm (membersOf_perm same family)
  by_cases withheldOthers : Withheld (membersOf others family)
  · left
    unfold outcomeOf
    exact ⟨if_pos (withheld.mpr withheldOthers), if_pos withheldOthers⟩
  · right
    have known : outcomeOf candidates family = some _ :=
      if_neg fun held => withheldOthers (withheld.mp held)
    have permuted := ((membersOf_perm same family).filterMap Candidate.member).map
      (scoreOf ((membersOf candidates family).filterMap Candidate.member))
    refine ⟨_, _, known, if_neg withheldOthers, ?_, ?_⟩
    · rw [← scoreOf_perm distinct same]
      exact permuted
    · rw [← scoreOf_perm distinct same]
      exact representative_perm (scored_apart distinct known) permuted

include distinct same in
theorem rawP_perm (metric : Metric) (family : Family) :
    rawP metric (outcomeOf candidates family) = rawP metric (outcomeOf others family) := by
  unfold rawP
  rcases outcomeOf_perm distinct same family with ⟨none, noneOther⟩ |
    ⟨scored, found, known, knownOther, -, chosen⟩
  · rw [none, noneOther]
  · rw [known, knownOther]
    exact congrArg (fun item => item.elim 1 fun item => item.pValue metric) chosen

include distinct same in
theorem holmOf_perm (reordered : families.Perm order) :
    holmOf families candidates = holmOf order others := by
  funext metric
  unfold holmOf
  rw [funext (rawP_perm distinct same metric)]
  exact holm_eq_of_perm (reordered.map _)

include distinct same in
theorem verifications_perm (holm : Metric → List (Family × K)) (family : Family) :
    (verifications candidates holm (family, outcomeOf candidates family)).Perm
      (verifications others holm (family, outcomeOf others family)) := by
  rcases outcomeOf_perm distinct same family with ⟨none, noneOther⟩ |
    ⟨scored, found, known, knownOther, permuted, chosen⟩
  · rw [none, noneOther]
    exact (membersOf_perm same family).map _
  · rw [known, knownOther]
    unfold verifications
    dsimp only
    rw [chosen]
    exact permuted.map _

omit [Field K] [LinearOrder K] in
theorem completeFamily_perm (same : candidates.Perm others)
    (complete : CompleteFamily candidates family) : CompleteFamily others family :=
  fun open_family member inside =>
    complete (fun held => open_family ((withheld_perm (membersOf_perm same family)).mp held)) member
      (((membersOf_perm same family).filterMap Candidate.member).mem_iff.mpr inside)

/-! ### What passes -/

def Passed (verified : List (String × CandidateVerification K)) (candidate : Candidate K) : Prop :=
  ∃ verification, (candidate.entry.structuralConfigurationHash, verification) ∈ verified ∧
    verification.hardGatesPassed = true

theorem candidate_of_verification {holm : Metric → List (Family × K)}
    {item : String × CandidateVerification K}
    (inside : item ∈ verifications candidates holm (family, outcomeOf candidates family)) :
    ∃ candidate ∈ candidates, candidate.entry.family = some family ∧
      candidate.entry.structuralConfigurationHash = item.1 := by
  cases known : outcomeOf candidates family with
  | none =>
    rw [known] at inside
    obtain ⟨candidate, inFamily, rfl⟩ := List.mem_map.mp inside
    obtain ⟨inCandidates, own⟩ := List.mem_filter.mp inFamily
    exact ⟨candidate, inCandidates, of_decide_eq_true own, rfl⟩
  | some scored =>
    rw [known] at inside
    obtain ⟨row, inScored, rfl⟩ := List.mem_map.mp inside
    obtain ⟨-, member, inMembers, rfl⟩ := member_of_scored known inScored
    obtain ⟨candidate, inCandidates, own, -, entry⟩ := candidate_of_member inMembers
    exact ⟨candidate, inCandidates, own, congrArg Entry.structuralConfigurationHash entry⟩

variable [IsStrictOrderedRing K]

theorem evaluateCandidates_perm (fixed : families.Perm Family.all) (distinct : Distinct candidates)
    (same : candidates.Perm others) (reordered : families.Perm order)
    (evaluated : evaluateCandidates families candidates = .ok verified) :
    ∃ found, evaluateCandidates order others = .ok found ∧ verified.Perm found := by
  obtain ⟨known, complete, rfl⟩ := (evaluateCandidates_eq_ok_iff fixed candidates _).mp evaluated
  refine ⟨_, (evaluateCandidates_eq_ok_iff (reordered.symm.trans fixed) others _).mpr
    ⟨?_, fun family => completeFamily_perm same (complete family), rfl⟩, ?_⟩
  · exact fun candidate member => known candidate (same.mem_iff.mpr member)
  · rw [holmOf_perm distinct same reordered]
    refine (reordered.flatMap_right _).trans (List.Perm.flatMap_left _ fun family _ => ?_)
    exact verifications_perm distinct same _ family

theorem of_passed (fixed : families.Perm Family.all) (distinct : Distinct candidates)
    (evaluated : evaluateCandidates families candidates = .ok verified) {candidate : Candidate K}
    (inside : candidate ∈ candidates) (passed : Passed verified candidate) :
    ∃ family scored chosen, candidate.entry.family = some family ∧
      outcomeOf candidates family = some scored ∧ representative scored = some chosen ∧
      chosen.entry = candidate.entry ∧
      (∃ science, candidate.science = some science ∧ science.hardGatesPassed = true) ∧
      ∀ metric, holmAt (holmOf families candidates metric) family ≤ 1 / 20 := by
  obtain ⟨-, -, rfl⟩ := (evaluateCandidates_eq_ok_iff fixed candidates _).mp evaluated
  obtain ⟨verification, recorded, gates⟩ := passed
  obtain ⟨family, -, inFamily⟩ := List.mem_flatMap.mp recorded
  obtain ⟨other, inOther, own, identity⟩ := candidate_of_verification inFamily
  have same : other = candidate := distinct.eq inOther inside identity
  subst same
  cases known : outcomeOf candidates family with
  | none =>
    rw [known] at inFamily
    obtain ⟨_, -, row⟩ := List.mem_map.mp inFamily
    rw [← (Prod.mk.inj row).2] at gates
    cases gates
  | some scored =>
    rw [known] at inFamily
    obtain ⟨item, -, row⟩ := List.mem_map.mp inFamily
    obtain ⟨itemIdentity, verifiedRow⟩ := Prod.mk.inj row
    rw [← verifiedRow] at gates
    obtain ⟨represents, precision, netExpectancy⟩ := of_decide_eq_true gates
    rw [itemIdentity] at represents
    obtain ⟨chosen, least, chosenIdentity⟩ := Option.map_eq_some_iff.mp represents
    obtain ⟨inScored, hard⟩ := mem_of_representative least
    obtain ⟨-, member, inMembers, rfl⟩ := member_of_scored known inScored
    obtain ⟨holder, inHolder, -, found, entry⟩ := candidate_of_member inMembers
    have one : holder = other := distinct.eq inHolder inside
      ((congrArg Entry.structuralConfigurationHash entry).trans chosenIdentity)
    subst one
    obtain ⟨science, held, rfl⟩ := Option.map_eq_some_iff.mp found
    refine ⟨family, scored, _, own, known, least, rfl, ⟨science, held, hard⟩, fun metric => ?_⟩
    cases metric with
    | precision => exact precision
    | netExpectancy => exact netExpectancy

/-! ### What is locked -/

omit [IsStrictOrderedRing K] in
theorem verifications_nodup (distinct : Distinct candidates) (holm : Metric → List (Family × K))
    (family : Family) :
    ((verifications candidates holm (family, outcomeOf candidates family)).map Prod.fst).Nodup := by
  have inFamily : (membersOf candidates family).Nodup :=
    (List.Nodup.of_map _ distinct).filter _
  cases known : outcomeOf candidates family with
  | none =>
    unfold verifications
    rw [List.map_map]
    exact distinct.sublist (List.filter_sublist.map _)
  | some scored =>
    unfold outcomeOf at known
    split_ifs at known with withheld
    unfold verifications
    rw [← Option.some.inj known]
    dsimp only
    rw [List.map_map, List.map_map]
    refine List.Nodup.map_on ?_ (inFamily.filterMap ?_)
    · exact fun first inFirst second inSecond same =>
        members_apart distinct family first inFirst second inSecond same
    · intro first second member inFirst inSecond
      obtain ⟨science, held, rfl⟩ := Option.map_eq_some_iff.mp inFirst
      obtain ⟨other, heldOther, same⟩ := Option.map_eq_some_iff.mp inSecond
      obtain ⟨entries, sciences⟩ := Member.mk.inj same
      obtain ⟨entry, _⟩ := first
      obtain ⟨entryOther, _⟩ := second
      subst held heldOther entries sciences
      rfl

theorem verified_distinct (fixed : families.Perm Family.all) (distinct : Distinct candidates)
    (evaluated : evaluateCandidates families candidates = .ok verified) :
    KeyedList.Distinct Prod.fst verified := by
  obtain ⟨-, -, rfl⟩ := (evaluateCandidates_eq_ok_iff fixed candidates _).mp evaluated
  unfold KeyedList.Distinct
  rw [List.map_flatMap, List.nodup_flatMap]
  refine ⟨fun family _ => verifications_nodup distinct _ family, ?_⟩
  have apart : families.Nodup := fixed.nodup_iff.mpr Family.all_nodup
  refine apart.imp fun {first second} different identity inFirst inSecond => different ?_
  obtain ⟨item, inItems, rfl⟩ := List.mem_map.mp inFirst
  obtain ⟨other, inOthers, same⟩ := List.mem_map.mp inSecond
  obtain ⟨own, inOwn, family, identity⟩ := candidate_of_verification inItems
  obtain ⟨holder, inHolder, familyOther, identityOther⟩ := candidate_of_verification inOthers
  have one : own = holder :=
    distinct.eq inOwn inHolder (identity.trans (same.symm.trans identityOther.symm))
  rw [one, familyOther] at family
  exact (Option.some.inj family).symm

omit [Field K] [LinearOrder K] [IsStrictOrderedRing K] in
theorem lockRow_eq_some {entry : Entry} {row : LockRow K} {unavailable : Bool}
    (found : lockRow verified entry = .ok (some row, unavailable)) :
    row.entry = entry ∧ ∃ verification,
      (entry.structuralConfigurationHash, verification) ∈ verified ∧
        verification.hardGatesPassed = true := by
  unfold lockRow at found
  cases recorded : KeyedList.lookup Prod.fst verified entry.structuralConfigurationHash with
  | none => rw [recorded] at found; cases found
  | some item =>
    obtain ⟨identity, verification⟩ := item
    have key : identity = entry.structuralConfigurationHash := KeyedList.lookup_key recorded
    rw [recorded] at found
    dsimp only at found
    split_ifs at found with passed
    · split at found
      · cases found
        exact ⟨rfl, verification, key ▸ KeyedList.lookup_mem recorded, passed⟩
      · cases found
    · cases found

omit [IsStrictOrderedRing K] in
theorem authorizeCandidateLock_passed {entries : List Entry} {selected : Entry}
    (locked : authorizeCandidateLock entries verified = .ok selected) :
    selected ∈ entries ∧ ∃ verification,
      (selected.structuralConfigurationHash, verification) ∈ verified ∧
        verification.hardGatesPassed = true := by
  obtain ⟨rows, made, rest⟩ := bind_eq_ok.mp locked
  cases least : leastBy LockRow.rank (rows.filterMap Prod.fst) with
  | none => rw [least] at rest; cases rest
  | some row =>
    rw [least] at rest
    cases rest
    obtain ⟨⟨_, unavailable⟩, inRows, rfl⟩ := List.mem_filterMap.mp (leastBy_mem least)
    obtain ⟨entry, inEntries, found⟩ := exists_of_mem_mapM made inRows
    obtain ⟨same, passed⟩ := lockRow_eq_some found
    rw [same]
    exact ⟨inEntries, passed⟩

omit [IsStrictOrderedRing K] in
theorem authorizeCandidateLock_perm {entries reorderedEntries : List Entry}
    {verified found : List (String × CandidateVerification K)} {selected : Entry}
    (distinct : (entries.map Entry.structuralConfigurationHash).Nodup)
    (recorded : KeyedList.Distinct Prod.fst verified) (same : entries.Perm reorderedEntries)
    (permuted : verified.Perm found)
    (locked : authorizeCandidateLock entries verified = .ok selected) :
    authorizeCandidateLock reorderedEntries found = .ok selected := by
  have calls : lockRow verified = lockRow found := by
    funext entry
    unfold lockRow
    rw [recorded.lookup_perm permuted]
  obtain ⟨rows, made, rest⟩ := bind_eq_ok.mp locked
  obtain ⟨reorderedRows, madeOther, permutedRows⟩ := mapM_perm same made
  have apart : Apart LockRow.rank (rows.filterMap Prod.fst) := by
    intro first inFirst second inSecond sameRank
    obtain ⟨⟨_, unavailable⟩, inRows, rfl⟩ := List.mem_filterMap.mp inFirst
    obtain ⟨⟨_, unavailableOther⟩, inOthers, rfl⟩ := List.mem_filterMap.mp inSecond
    obtain ⟨entry, inEntries, calledFirst⟩ := exists_of_mem_mapM made inRows
    obtain ⟨entryOther, inEntriesOther, calledSecond⟩ := exists_of_mem_mapM made inOthers
    have rest := (Prod.mk.inj (toLex.injective (Prod.mk.inj (toLex.injective sameRank)).2)).2
    have identity := (Prod.mk.inj (toLex.injective rest)).2
    have one : entry = entryOther := List.inj_on_of_nodup_map distinct inEntries inEntriesOther (by
      rw [← (lockRow_eq_some calledFirst).1, ← (lockRow_eq_some calledSecond).1]
      exact identity)
    rw [one, calledSecond] at calledFirst
    exact (Option.some.inj (Prod.mk.inj (Except.ok.inj calledFirst)).1).symm
  have least := leastBy_eq_of_perm apart (permutedRows.filterMap Prod.fst)
  refine bind_eq_ok.mpr ⟨reorderedRows, calls ▸ madeOther, ?_⟩
  rw [← least]
  cases chosen : leastBy LockRow.rank (rows.filterMap Prod.fst) with
  | none => rw [chosen] at rest; cases rest
  | some row => rw [chosen] at rest; exact rest

theorem lockCandidate_perm (fixed : families.Perm Family.all) (distinct : Distinct candidates)
    (same : candidates.Perm others) (reordered : families.Perm order) {selected : Entry}
    (locked : lockCandidate families candidates = .ok selected) :
    lockCandidate order others = .ok selected := by
  obtain ⟨verified, evaluated, rest⟩ := bind_eq_ok.mp locked
  obtain ⟨found, evaluatedOther, permuted⟩ :=
    evaluateCandidates_perm fixed distinct same reordered evaluated
  refine bind_eq_ok.mpr ⟨found, evaluatedOther, ?_⟩
  refine authorizeCandidateLock_perm ?_ (verified_distinct fixed distinct evaluated)
    (same.map Candidate.entry) permuted rest
  rw [List.map_map]
  exact distinct

/-! ### The selection as a whole -/

end

def rawPValues (families : List Family) (candidates : List (Candidate K)) (metric : Metric) :
    Except Fault (List (Family × K)) :=
  families.mapM fun family =>
    (familyOutcome candidates family).map fun outcome => (family, rawP metric outcome)

structure SoundSelection (families : List Family) (candidates : List (Candidate K))
    (verified : List (String × CandidateVerification K)) : Prop where
  single : ∀ first ∈ candidates, ∀ second ∈ candidates,
    first.entry.family = second.entry.family → Passed verified first → Passed verified second →
      first = second
  gates : ∀ candidate ∈ candidates, Passed verified candidate →
    ∃ science, candidate.science = some science ∧ science.hardGatesPassed = true
  available : ∀ candidate ∈ candidates, Passed verified candidate → ∀ other ∈ candidates,
    other.entry.family = candidate.entry.family → other.science.isSome = true
  corrected : ∀ candidate ∈ candidates, Passed verified candidate → ∀ metric,
    ∃ family raw adjusted value, candidate.entry.family = some family ∧
      rawPValues families candidates metric = .ok raw ∧ h40HolmFixedSix raw = .ok adjusted ∧
      (family, value) ∈ adjusted ∧ value ≤ 1 / 20

/-- The adjusted values are exact for every level below one, and never rise with a fall. -/
structure SoundCorrection (K : Type) [Field K] [LinearOrder K] (families : List Family) : Prop where
  stepDown : ∀ raw : Family → K, (∀ family, 0 ≤ raw family ∧ raw family ≤ 1) →
    ∃ adjusted, h40HolmFixedSix (values families raw) = .ok adjusted ∧
      (adjusted.map Prod.fst).Perm Family.all ∧ ∀ alpha < 1, ∀ family,
        family ∈ rejected alpha (values families raw) ↔
          ∃ value, (family, value) ∈ adjusted ∧ value ≤ alpha
  monotone : ∀ lower raw : Family → K, (∀ family, 0 ≤ lower family) →
    (∀ family, lower family ≤ raw family) → (∀ family, raw family ≤ 1) →
      ∀ adjustedLower adjusted, h40HolmFixedSix (values families lower) = .ok adjustedLower →
        h40HolmFixedSix (values families raw) = .ok adjusted →
          ∀ family below above, (family, below) ∈ adjustedLower → (family, above) ∈ adjusted →
            below ≤ above

section

variable [IsStrictOrderedRing K] {candidates : List (Candidate K)} {families : List Family}

theorem rawPValues_eq (fixed : families.Perm Family.all)
    (evaluated : evaluateCandidates families candidates = .ok verified) (metric : Metric) :
    rawPValues families candidates metric =
      .ok (values families fun family => rawP metric (outcomeOf candidates family)) := by
  obtain ⟨-, complete, -⟩ := (evaluateCandidates_eq_ok_iff fixed candidates _).mp evaluated
  refine mapM_eq_map fun family _ => ?_
  rw [(familyOutcome_eq_ok_iff candidates family _).mpr ⟨complete family, rfl⟩]
  rfl

theorem evaluateCandidates_sound (fixed : families.Perm Family.all) (distinct : Distinct candidates)
    (evaluated : evaluateCandidates families candidates = .ok verified) :
    SoundSelection families candidates verified where
  single := by
    intro first inFirst second inSecond same passedFirst passedSecond
    obtain ⟨family, scored, chosen, own, known, least, entry, -, -⟩ :=
      of_passed fixed distinct evaluated inFirst passedFirst
    obtain ⟨familyOther, scoredOther, chosenOther, ownOther, knownOther, leastOther, entryOther,
      -, -⟩ := of_passed fixed distinct evaluated inSecond passedSecond
    rw [own, ownOther] at same
    cases same
    rw [known] at knownOther
    cases knownOther
    rw [least] at leastOther
    cases leastOther
    exact distinct.eq inFirst inSecond
      (congrArg Entry.structuralConfigurationHash (entry.symm.trans entryOther))
  gates := by
    intro candidate inside passed
    obtain ⟨_, _, _, -, -, -, -, gates, -⟩ := of_passed fixed distinct evaluated inside passed
    exact gates
  available := by
    intro candidate inside passed other inOther same
    obtain ⟨family, scored, chosen, own, known, least, -⟩ :=
      of_passed fixed distinct evaluated inside passed
    obtain ⟨open_family, -⟩ := member_of_scored known (mem_of_representative least).1
    have inFamily : other ∈ membersOf candidates family :=
      List.mem_filter.mpr ⟨inOther, decide_eq_true (same.trans own)⟩
    cases science : other.science with
    | none => exact absurd (.inl ⟨other, inFamily, by rw [science]; rfl⟩) open_family
    | some found => rfl
  corrected := by
    intro candidate inside passed metric
    obtain ⟨family, scored, chosen, own, -, -, -, -, small⟩ :=
      of_passed fixed distinct evaluated inside passed
    obtain ⟨-, complete, -⟩ := (evaluateCandidates_eq_ok_iff fixed candidates _).mp evaluated
    have within := small metric
    unfold holmAt at within
    cases found : KeyedList.lookup Prod.fst (holmOf families candidates metric) family with
    | none =>
      rw [found] at within
      norm_num at within
    | some item =>
      rw [found] at within
      have key : item.1 = family := KeyedList.lookup_key found
      exact ⟨family, _, _, item.2, own, rawPValues_eq fixed evaluated metric,
        h40HolmFixedSix_eq fixed fun family => rawP_unit (complete family) metric,
        key ▸ KeyedList.lookup_mem found, within⟩

theorem h40HolmFixedSix_sound (fixed : families.Perm Family.all) :
    SoundCorrection K families where
  stepDown := by
    intro raw unit
    refine ⟨_, h40HolmFixedSix_eq fixed unit, ?_, fun alpha capped family => ?_⟩
    · rw [← values_names Family.all raw]
      exact (holm_names _).trans ((fixed.map _).map Prod.fst)
    · exact mem_rejected_iff capped (List.forall_mem_map.mpr fun name _ => (unit name).1) family
  monotone := by
    intro lower raw nonneg fall capped adjustedLower adjusted doneLower doneRaw family below above
      inLower inRaw
    rw [h40HolmFixedSix_eq fixed fun family =>
      ⟨nonneg family, (fall family).trans (capped family)⟩] at doneLower
    rw [h40HolmFixedSix_eq fixed fun family =>
      ⟨(nonneg family).trans (fall family), capped family⟩] at doneRaw
    cases doneLower
    cases doneRaw
    exact holm_mono (fixed.nodup_iff.mpr Family.all_nodup) (fun family _ => nonneg family)
      (fun family _ => fall family) inLower inRaw

/-- When a candidate of a set of families passes, some raw value of the set, times the size of the
set, is within the level. -/
theorem familywise_of_passed (fixed : families.Perm Family.all) (distinct : Distinct candidates)
    {verified : List (String × CandidateVerification K)}
    (evaluated : evaluateCandidates families candidates = .ok verified) {candidate : Candidate K}
    (inside : candidate ∈ candidates) (passed : Passed verified candidate) {nulls : Finset Family}
    (null : ∃ family ∈ nulls, candidate.entry.family = some family) (metric : Metric) :
    ∃ raw, rawPValues families candidates metric = .ok raw ∧
      ∃ least ∈ nulls, ∃ value, (least, value) ∈ raw ∧ nulls.card * value ≤ 1 / 20 := by
  obtain ⟨family, raw, adjusted, value, own, known, corrected, recorded, small⟩ :=
    (evaluateCandidates_sound fixed distinct evaluated).corrected candidate inside passed metric
  obtain ⟨other, inNulls, named⟩ := null
  cases own.symm.trans named
  refine ⟨raw, known, ?_⟩
  cases (rawPValues_eq fixed evaluated metric).symm.trans known
  obtain ⟨-, complete, -⟩ := (evaluateCandidates_eq_ok_iff fixed candidates _).mp evaluated
  have unit (family : Family) := rawP_unit (complete family) metric
  obtain ⟨sameAdjusted, done, -, exact⟩ := (h40HolmFixedSix_sound fixed).stepDown _ unit
  cases corrected.symm.trans done
  obtain ⟨least, inside, within⟩ := exists_small_of_rejected
    (fixed.nodup_iff.mpr Family.all_nodup) (fun family _ => (unit family).1)
    (fun family _ => fixed.mem_iff.mpr family.mem_all) inNulls
    ((exact (1 / 20) (by norm_num) family).mpr ⟨value, recorded, small⟩)
  exact ⟨least, inside, _,
    List.mem_map.mpr ⟨least, fixed.mem_iff.mpr least.mem_all, rfl⟩, within⟩

/-- The selection and the lock are sound and free of order, and the correction is that of Holm for
every level below one. -/
theorem selection_sound (families : List Family) (fixed : families.Perm Family.all)
    (candidates : List (Candidate K)) (distinct : Distinct candidates) :
    (∀ verified, evaluateCandidates families candidates = .ok verified →
      SoundSelection families candidates verified ∧
        ∀ selected,
          authorizeCandidateLock (candidates.map Candidate.entry) verified = .ok selected →
            ∃ candidate ∈ candidates, candidate.entry = selected ∧ Passed verified candidate) ∧
      SoundCorrection K families ∧
      ∀ (order : List Family) (others : List (Candidate K)), families.Perm order →
        candidates.Perm others →
          (∀ verified, evaluateCandidates families candidates = .ok verified →
            ∃ found, evaluateCandidates order others = .ok found ∧ verified.Perm found) ∧
          ∀ selected, lockCandidate families candidates = .ok selected ↔
            lockCandidate order others = .ok selected := by
  refine ⟨fun verified evaluated => ⟨evaluateCandidates_sound fixed distinct evaluated, ?_⟩,
    h40HolmFixedSix_sound fixed, fun order others reordered same => ⟨?_, fun selected => ⟨?_, ?_⟩⟩⟩
  · intro selected locked
    obtain ⟨inEntries, passed⟩ := authorizeCandidateLock_passed locked
    obtain ⟨candidate, inside, rfl⟩ := List.mem_map.mp inEntries
    exact ⟨candidate, inside, rfl, passed⟩
  · exact fun verified => evaluateCandidates_perm fixed distinct same reordered
  · exact lockCandidate_perm fixed distinct same reordered
  · refine lockCandidate_perm (reordered.symm.trans fixed) ?_ same.symm reordered.symm
    exact (same.map _).nodup_iff.mp distinct

end

end

/-- Raw values of one half are adjusted to one, and not rejected at the level one. -/
theorem half_not_rejected_at_one :
    ∃ adjusted, h40HolmFixedSix (values Family.all fun _ => (1 / 2 : ℚ)) = .ok adjusted ∧
      (∃ value, (Family.trendContinuation, value) ∈ adjusted ∧ value ≤ 1) ∧
      Family.trendContinuation ∉
        rejected 1 (values Family.all fun _ => (1 / 2 : ℚ)) := by
  refine ⟨_, h40HolmFixedSix_eq (List.Perm.refl _) fun _ => by norm_num, ⟨1, ?_, le_rfl⟩, ?_⟩
  · decide +kernel
  · decide +kernel

/-- Every bootstrap replicate is zero, and both points are one. -/
def clearScience (gates : Bool) : CandidateScience ℚ where
  hardGatesPassed := gates
  pointPrecision := 1
  pointNetExpectancy := 1
  precisionReplicates := List.replicate 10000 0
  netReplicates := List.replicate 10000 0
  p0 := 0

def clearCandidate : Candidate ℚ where
  entry := ⟨"a", "D1_TREND_CONTINUATION", 1⟩
  science := some (clearScience true)

def gatedCandidate : Candidate ℚ where
  entry := ⟨"b", "D1_TREND_CONTINUATION", 1⟩
  science := some (clearScience false)

def pairCandidate : Candidate ℚ where
  entry := ⟨"c", "PAIR_DEPTH_TWO", 2⟩
  science := some (clearScience true)

/-- Two families, of which one has a candidate that fails a gate of its own. -/
def clearCandidates : List (Candidate ℚ) := [clearCandidate, gatedCandidate, pairCandidate]

theorem clear_distinct : Distinct clearCandidates := by
  unfold Distinct
  decide

theorem clear_outcome (family : Family) :
    outcomeOf clearCandidates family =
      let trend : List (Member ℚ) := [⟨clearCandidate.entry, clearScience true⟩,
        ⟨gatedCandidate.entry, clearScience false⟩]
      let pair : List (Member ℚ) := [⟨pairCandidate.entry, clearScience true⟩]
      match family with
      | .trendContinuation => some (trend.map (scoreOf trend))
      | .pairDepthTwo => some (pair.map (scoreOf pair))
      | _ => none := by
  cases family <;> rfl

theorem clear_marginal (entry : Entry) (gates : Bool) (metric : Metric) :
    marginal ⟨entry, clearScience gates⟩ metric = 1 / 10001 := by
  unfold marginal
  cases metric with
  | precision =>
    show ((1 + (List.replicate 10000 0).countP _ : ℕ) : ℚ) / _ = _
    rw [List.countP_replicate, if_neg (by norm_num [Member.point, Member.null, clearScience])]
    norm_num [replicateCount]
  | netExpectancy =>
    show ((1 + (List.replicate 10000 0).countP _ : ℕ) : ℚ) / _ = _
    rw [List.countP_replicate, if_neg (by norm_num [Member.point, Member.null, clearScience])]
    norm_num [replicateCount]

theorem clear_rawP (metric : Metric) (family : Family) :
    rawP metric (outcomeOf clearCandidates family) =
      if family = .trendContinuation ∨ family = .pairDepthTwo then 1 / 10001 else 1 := by
  rw [clear_outcome]
  cases family with
  | trendContinuation => exact clear_marginal _ true metric
  | pairDepthTwo => exact clear_marginal _ true metric
  | _ => rfl

theorem clear_complete (family : Family) : CompleteFamily clearCandidates family := by
  intro _ member inside metric
  obtain ⟨candidate, here, -, found, -⟩ := candidate_of_member inside
  have science : ∃ gates, candidate.science = some (clearScience gates) := by
    simp only [clearCandidates, List.mem_cons, List.not_mem_nil, or_false] at here
    obtain rfl | rfl | rfl := here
    · exact ⟨true, rfl⟩
    · exact ⟨false, rfl⟩
    · exact ⟨true, rfl⟩
  obtain ⟨gates, science⟩ := science
  have own := congrArg (Option.map (Member.mk candidate.entry)) science
  obtain rfl := Option.some.inj (found.symm.trans own)
  cases metric <;> exact List.length_replicate

theorem clear_passed :
    ∃ verified, evaluateCandidates Family.all clearCandidates = .ok verified ∧
      Passed verified clearCandidate := by
  have evaluated := (evaluateCandidates_eq_ok_iff (.refl _) clearCandidates _).mpr
    ⟨by decide, clear_complete, rfl⟩
  have small (metric : Metric) :
      holmAt (holmOf Family.all clearCandidates metric) .trendContinuation ≤ 1 / 20 := by
    unfold holmOf
    rw [funext (clear_rawP metric)]
    decide +kernel
  have recorded : ∃ verification, ("a", verification) ∈ verifications clearCandidates
      (holmOf Family.all clearCandidates) (.trendContinuation,
        outcomeOf clearCandidates .trendContinuation) ∧ verification.hardGatesPassed = true := by
    rw [clear_outcome]
    exact ⟨_, List.mem_cons_self, decide_eq_true ⟨rfl, small .precision, small .netExpectancy⟩⟩
  obtain ⟨verification, inFamily, gates⟩ := recorded
  exact ⟨_, evaluated, verification, List.mem_flatMap.mpr ⟨_, Family.mem_all _, inFamily⟩, gates⟩

theorem clear_passes :
    ∃ verified, evaluateCandidates Family.all clearCandidates = .ok verified ∧
      Passed verified clearCandidate ∧
      SoundSelection Family.all clearCandidates verified := by
  obtain ⟨verified, evaluated, passed⟩ := clear_passed
  exact ⟨verified, evaluated, passed,
    ((selection_sound Family.all (.refl _) clearCandidates clear_distinct).1 _ evaluated).1⟩

theorem clear_familywise :
    ∃ raw, rawPValues Family.all clearCandidates .precision = .ok raw ∧
      ∃ least ∈ ({.trendContinuation, .pairDepthTwo} : Finset Family), ∃ value,
        (least, value) ∈ raw ∧
          (({.trendContinuation, .pairDepthTwo} : Finset Family).card : ℚ) * value ≤ 1 / 20 := by
  obtain ⟨verified, evaluated, passed⟩ := clear_passed
  exact familywise_of_passed (.refl _) clear_distinct evaluated List.mem_cons_self passed
    ⟨.trendContinuation, by decide, rfl⟩ .precision

end QuantAgent.Inference.Selection
