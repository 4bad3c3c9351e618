/-
This file embeds the configuration slots of the H40 search: the checks that a slot passes when it
is built, the identity that its own fields determine, and its form as a dictionary, which is read
back as the slot.

The status, the reason code and the notes of a slot are not part of its identity.
-/

import QuantAgent.Research.Reading

namespace QuantAgent.SearchBudget

open Research

/-! ### Reason codes and families -/

inductive ReasonCode where
  | sourceMissing
  | sourceUnverified
  | sourceHashMismatch
  | sourceGap
  | duplicateTimestamp
  | pitUnavailable
  | productMismatch
  | intervalMismatch
  | outsidePreregisteredSplit
  | protectedSurfaceDenied
  | confirmationNotReady
  | unauthorizedFamily
  | searchBudgetExhausted
  | configIdentityConflict
  | notTestable
  | executionDisabled
  | familyPairRestricted
  | confirmationHoldLocked
  | horizonTruncated
  | purgeBoundary
  | thresholdUnmet
  | lookbackReserved
  deriving DecidableEq

namespace ReasonCode

def value : ReasonCode → String
  | sourceMissing => "SOURCE_MISSING"
  | sourceUnverified => "SOURCE_UNVERIFIED"
  | sourceHashMismatch => "SOURCE_HASH_MISMATCH"
  | sourceGap => "SOURCE_GAP"
  | duplicateTimestamp => "DUPLICATE_TIMESTAMP"
  | pitUnavailable => "PIT_UNAVAILABLE"
  | productMismatch => "PRODUCT_MISMATCH"
  | intervalMismatch => "INTERVAL_MISMATCH"
  | outsidePreregisteredSplit => "OUTSIDE_PREREGISTERED_SPLIT"
  | protectedSurfaceDenied => "PROTECTED_SURFACE_DENIED"
  | confirmationNotReady => "CONFIRMATION_NOT_READY"
  | unauthorizedFamily => "UNAUTHORIZED_FAMILY"
  | searchBudgetExhausted => "SEARCH_BUDGET_EXHAUSTED"
  | configIdentityConflict => "CONFIG_IDENTITY_CONFLICT"
  | notTestable => "NOT_TESTABLE"
  | executionDisabled => "EXECUTION_DISABLED"
  | familyPairRestricted => "FAMILY_PAIR_RESTRICTED"
  | confirmationHoldLocked => "CONFIRMATION_HOLD_LOCKED"
  | horizonTruncated => "HORIZON_TRUNCATED"
  | purgeBoundary => "PURGE_BOUNDARY"
  | thresholdUnmet => "THRESHOLD_UNMET"
  | lookbackReserved => "LOOKBACK_RESERVED"

def all : List ReasonCode :=
  [sourceMissing, sourceUnverified, sourceHashMismatch, sourceGap, duplicateTimestamp,
    pitUnavailable, productMismatch, intervalMismatch, outsidePreregisteredSplit,
    protectedSurfaceDenied, confirmationNotReady, unauthorizedFamily, searchBudgetExhausted,
    configIdentityConflict, notTestable, executionDisabled, familyPairRestricted,
    confirmationHoldLocked, horizonTruncated, purgeBoundary, thresholdUnmet, lookbackReserved]

def ofText (text : String) : Option ReasonCode := all.find? fun code => code.value = text

theorem ofText_value (code : ReasonCode) : ofText code.value = some code := by
  cases code <;> decide

theorem value_ne_empty (code : ReasonCode) : code.value ≠ "" := by
  cases code <;> decide

end ReasonCode

inductive Family where
  | d1TrendContinuation
  | d2BreakoutContinuation
  | d3FailedMoveReversal
  | d4BtcEthConfirmDiverge
  | d5FundingDirectionInteraction
  deriving DecidableEq

namespace Family

def value : Family → String
  | d1TrendContinuation => "D1_TREND_CONTINUATION"
  | d2BreakoutContinuation => "D2_BREAKOUT_CONTINUATION"
  | d3FailedMoveReversal => "D3_FAILED_MOVE_REVERSAL"
  | d4BtcEthConfirmDiverge => "D4_BTC_ETH_CONFIRM_DIVERGE"
  | d5FundingDirectionInteraction => "D5_FUNDING_DIRECTION_INTERACTION"

def all : List Family :=
  [d1TrendContinuation, d2BreakoutContinuation, d3FailedMoveReversal, d4BtcEthConfirmDiverge,
    d5FundingDirectionInteraction]

def ofText (text : String) : Option Family := all.find? fun family => family.value = text

theorem ofText_value (family : Family) : ofText family.value = some family := by
  cases family <;> decide

/-- `ALLOWED_DEPTH_TWO_PAIRS`. -/
def allowedPairs : List (Finset Family) :=
  [{d1TrendContinuation, d4BtcEthConfirmDiverge},
    {d1TrendContinuation, d5FundingDirectionInteraction},
    {d2BreakoutContinuation, d4BtcEthConfirmDiverge},
    {d3FailedMoveReversal, d5FundingDirectionInteraction}]

def bases : List Family := [d1TrendContinuation, d2BreakoutContinuation, d3FailedMoveReversal]

end Family

/-! ### Faults and the surface guard -/

inductive SlotFault where
  | guard (reason : ReasonCode) (message : String)
  | data (fault : Fault)
  | index (message : String)
  deriving DecidableEq

/-- `H40ProtectedSurfaceGuard.assert_path_allowed`, which resolves a text as a path. -/
class SurfaceGuard where
  allowed : String → Bool

/-! ### Slots -/

structure SlotFields where
  slotIndex : ℤ
  familyCombination : List Family
  assetScope : List String
  primaryHorizon : String
  actionThreshold : Double
  hyperparameters : FrozenDict
  scope : String
  directionVariant : String
  regimeContractId : String
  opportunityContractId : String
  directionContractId : String
  geometryContractId : String
  calibrationContractId : String
  abstentionPolicy : String
  requiredFeatureIds : List String
  featureParams : FrozenDict
  lookbackWindows : FrozenDict
  availabilityRule : String
  costProxyId : String
  mechanicalRefitPolicy : String
  protocolHash : String
  sourceManifestHash : String
  splitManifestHash : String
  ledgerSchemaVersion : String
  frozenKernelSha : String
  p1CodeBaselineSha : String
  status : String
  reasonCode : Option ReasonCode
  notes : String
  deriving DecidableEq

def allowedPrimaryHorizons : List String := ["4h", "8h", "12h"]

def allowedActionThresholds : List ℚ := [55 / 100, 60 / 100, 65 / 100]

def allowedAssets : List String := ["BTCUSDT", "ETHUSDT"]

def allowedScopes : List String := ["BTC_ONLY", "ETH_ONLY", "POOLED_BTC_ETH"]

def forbiddenPerfKeys : List String :=
  ["sharpe", "profit_factor", "return", "pnl", "drawdown", "win_rate", "trades", "cagr", "sortino",
    "calmar", "alpha", "mfe", "mae", "precision", "expectancy", "brier", "ece", "p_value", "hac",
    "bootstrap", "calibration_score", "forward_return", "target_label"]

def hasPart (part text : String) : Bool := decide (part.toList <:+: text.toList)

def IsAllowedThreshold : Double → Prop
  | .finite value => ∃ allowed ∈ allowedActionThresholds, |value - allowed| < 1 / 1000000
  | _ => False

instance : DecidablePred IsAllowedThreshold
  | .finite _ => inferInstanceAs (Decidable (∃ _ ∈ _, _))
  | .infinite _ => inferInstanceAs (Decidable False)
  | .notANumber => inferInstanceAs (Decidable False)

/-- `round(value, 4)`; no allowed threshold is near a tie. -/
def round4 : Double → Double
  | .finite value => .finite (round (value * 10000) / 10000)
  | other => other

def unauthorized (message : String) : SlotFault := .guard .unauthorizedFamily message

namespace SlotFields

def checkFamilies (fields : SlotFields) : Except SlotFault Unit := do
  refuse (fields.familyCombination = [])
    (unauthorized "Configuration must specify at least one direction family.")
  if fields.familyCombination.length = 2 then
    refuse (fields.familyCombination.toFinset ∉ Family.allowedPairs)
      (.guard .familyPairRestricted "Depth-two combination is not authorized.")
  else
    refuse (fields.familyCombination.length ≠ 1)
      (.guard .familyPairRestricted "Configuration depth exceeds authorized maximum depth 2.")
  if .d5FundingDirectionInteraction ∈ fields.familyCombination then
    if fields.familyCombination.length = 1 then
      refuse ((fields.featureParams.members.lookup "base_directional_owner").getD (.str "") ∉
          Family.bases.map fun family => Json.str family.value)
        (unauthorized "D5 requires a base directional family in {D1, D2, D3}.")
    else
      refuse (∀ family ∈ fields.familyCombination, family ∉ Family.bases)
        (unauthorized "D5 pair requires a base directional family in {D1, D2, D3}.")

/-- `__post_init__`. -/
def check [SurfaceGuard] (fields : SlotFields) : Except SlotFault Unit := do
  fields.checkFamilies
  refuse (fields.primaryHorizon ∉ allowedPrimaryHorizons)
    (.guard .intervalMismatch "Primary horizon invalid.")
  refuse (¬ IsAllowedThreshold fields.actionThreshold)
    (.guard .thresholdUnmet "Action threshold invalid.")
  refuse (fields.scope ∉ allowedScopes) (.guard .productMismatch "Scope invalid.")
  refuse (fields.assetScope = []) (.guard .productMismatch "Asset scope cannot be empty.")
  refuse (∃ asset ∈ fields.assetScope, asset ∉ allowedAssets)
    (.guard .productMismatch "Asset outside authorized scope.")
  refuse (hasPart "CLOSED_BAR" fields.availabilityRule = false ∧
      hasPart "<" fields.availabilityRule = false)
    (.guard .pitUnavailable "Availability rule violates strict closed-bar semantics.")
  refuse (∃ text ∈ [fields.notes, fields.regimeContractId, fields.directionContractId],
      SurfaceGuard.allowed text = false)
    (.guard .protectedSurfaceDenied "Access to protected surface is permanently denied.")
  refuse (∃ dict ∈ [fields.hyperparameters, fields.featureParams, fields.lookbackWindows],
      ∃ member ∈ dict.members, member.1.toLower ∈ forbiddenPerfKeys)
    (.guard .protectedSurfaceDenied
      "Forbidden outcome or performance metric in pre-outcome configuration.")

/-- The members that the identity covers. -/
def semanticMembers (fields : SlotFields) : List (String × Json) :=
  [("scope", .str fields.scope),
    ("primary_horizon", .str fields.primaryHorizon),
    ("family_combination", .arr (fields.familyCombination.map fun family => .str family.value)),
    ("direction_variant", .str fields.directionVariant),
    ("regime_contract_id", .str fields.regimeContractId),
    ("opportunity_contract_id", .str fields.opportunityContractId),
    ("direction_contract_id", .str fields.directionContractId),
    ("geometry_contract_id", .str fields.geometryContractId),
    ("calibration_contract_id", .str fields.calibrationContractId),
    ("action_threshold", .float fields.actionThreshold),
    ("abstention_policy", .str fields.abstentionPolicy),
    ("required_feature_ids", .arr (fields.requiredFeatureIds.map .str)),
    ("feature_params", fields.featureParams.thaw),
    ("lookback_windows", fields.lookbackWindows.thaw),
    ("availability_rule", .str fields.availabilityRule),
    ("cost_proxy_id", .str fields.costProxyId),
    ("mechanical_refit_policy", .str fields.mechanicalRefitPolicy),
    ("protocol_hash", .str fields.protocolHash),
    ("source_manifest_hash", .str fields.sourceManifestHash),
    ("split_manifest_hash", .str fields.splitManifestHash),
    ("ledger_schema_version", .str fields.ledgerSchemaVersion),
    ("frozen_kernel_sha", .str fields.frozenKernelSha),
    ("p1_code_baseline_sha", .str fields.p1CodeBaselineSha),
    ("asset_scope", .arr (fields.assetScope.map .str)),
    ("hyperparameters", fields.hyperparameters.thaw)]

def semanticPayload (fields : SlotFields) : List (String × Json) :=
  semanticMembers { fields with
    actionThreshold := round4 fields.actionThreshold
    requiredFeatureIds := fields.requiredFeatureIds.insertionSort (· ≤ ·)
    assetScope := fields.assetScope.insertionSort (· ≤ ·) }

/-- The members of `to_dict` other than the identity. -/
def toMembers (fields : SlotFields) : List (String × Json) :=
  ("slot_index", .int fields.slotIndex) :: fields.semanticMembers ++
    [("status", .str fields.status),
      ("reason_code", (fields.reasonCode.map fun code => Json.str code.value).getD .null),
      ("notes", .str fields.notes)]

end SlotFields

variable [Platform]

def SlotFields.configId (fields : SlotFields) : Except SlotFault String :=
  (canonicalSha256 (.obj fields.semanticPayload)).mapError .data

def SlotFields.toDict (fields : SlotFields) : Except SlotFault Json := do
  let configId ← fields.configId
  .ok (.obj (("config_id", .str configId) :: fields.toMembers))

variable [SurfaceGuard]

/-- `H40ConfigurationSlot`. -/
structure Slot extends SlotFields where
  valid : toSlotFields.check = .ok ()

namespace Slot

def create (fields : SlotFields) : Except SlotFault Slot :=
  match checked : fields.check with
  | .ok () => .ok ⟨fields, checked⟩
  | .error fault => .error fault

omit [Platform] in
theorem create_self (slot : Slot) : create slot.toSlotFields = .ok slot := by
  unfold create
  split
  · rfl
  · next failed => exact nomatch slot.valid.symm.trans failed

omit [Platform] in
theorem fields_of_create {fields : SlotFields} {slot : Slot} (created : create fields = .ok slot) :
    slot.toSlotFields = fields := by
  unfold create at created
  split at created
  · rw [← Except.ok.inj created]
  · exact nomatch created

end Slot

/-! ### Reading a slot -/

/-- `for item in value`. -/
def itemsOf : Json → Except SlotFault (List Json)
  | .arr items => .ok items
  | .obj members => .ok (members.map fun member => .str member.1)
  | .str text => .ok (text.toList.map fun letter => .str (String.singleton letter))
  | _ => .error (.data ⟨.type, "object is not iterable"⟩)

/-- `H40Family(value)`. -/
def familyOf : Json → Except SlotFault Family
  | .str text =>
    match Family.ofText text with
    | some family => .ok family
    | none => .error (.data (valueError "is not a valid H40Family"))
  | _ => .error (.data (valueError "is not a valid H40Family"))

/-- `H40ReasonCode(value) if value else None`. -/
def reasonCodeOf (value : Json) : Except SlotFault (Option ReasonCode) :=
  if value.truthy then
    match value with
    | .str text =>
      match ReasonCode.ofText text with
      | some code => .ok (some code)
      | none => .error (.data (valueError "is not a valid H40ReasonCode"))
    | _ => .error (.data (valueError "is not a valid H40ReasonCode"))
  else .ok none

/-- What a slot takes from the module when the dictionary does not have it. -/
structure SlotDefaults where
  protocolHash : String
  sourceManifestHash : String
  splitManifestHash : String
  frozenKernelSha : String
  p1CodeBaselineSha : String

def defaults (protocolHash : String) : SlotDefaults where
  protocolHash := protocolHash
  sourceManifestHash := "af7fe2c187dcd503ba27a3f24ba6347cb3c619a63662106e85c6343eda90a74c"
  splitManifestHash := "6e3ed51b4139c7822343752e29b6d8b2e94f9fadf0def38f2101a444b1da62e9"
  frozenKernelSha := "6838e9db8d5c369b5da87354821d9c8e79c2a879"
  p1CodeBaselineSha := "3fc89541ed0965fc0e2972af310e34ae1b838168"

namespace SlotFields

/-- `data[key]` and `data.get(key, default)`. -/
def required (members : List (String × Json)) (key : String) : Except SlotFault Json :=
  (entry members key).mapError .data

def optional (members : List (String × Json)) (key : String) (default : Json) : Json :=
  (members.lookup key).getD default

def text (members : List (String × Json)) (key default : String) : String :=
  textOf (optional members key (.str default))

def frozen (members : List (String × Json)) (key : String) : Except SlotFault FrozenDict :=
  (FrozenDict.ofJson (optional members key (.obj []))).mapError .data

/-- The fields that `from_dict` hands to the constructor. -/
def ofMembers (protocolHash : String) (members : List (String × Json)) :
    Except SlotFault SlotFields := do
  let familyCombination ← (← itemsOf (← required members "family_combination")).mapM familyOf
  let assetScope ← (textsOf (← required members "asset_scope")).mapError .data
  let reasonCode ← reasonCodeOf (optional members "reason_code" .null)
  let slotIndex ← (intOf (← required members "slot_index")).mapError .data
  let primaryHorizon := textOf (← required members "primary_horizon")
  let actionThreshold ← (floatOf (← required members "action_threshold")).mapError .data
  let hyperparameters ← frozen members "hyperparameters"
  let requiredFeatureIds ←
    (textsOf (optional members "required_feature_ids" (.arr []))).mapError .data
  let featureParams ← frozen members "feature_params"
  let lookbackWindows ← frozen members "lookback_windows"
  let own := defaults protocolHash
  .ok {
    slotIndex := slotIndex
    familyCombination := familyCombination
    assetScope := assetScope
    primaryHorizon := primaryHorizon
    actionThreshold := actionThreshold
    hyperparameters := hyperparameters
    scope := text members "scope" "BTC_ONLY"
    directionVariant := text members "direction_variant" ""
    regimeContractId := text members "regime_contract_id" "R_VOL_RANGE_V1_24H"
    opportunityContractId := text members "opportunity_contract_id" "O_RANGE_EXPANSION_V1_24H"
    directionContractId := text members "direction_contract_id" ""
    geometryContractId := text members "geometry_contract_id"
      "GEOMETRY_ESTIMATOR_WF1_CELL_MEDIAN_V1"
    calibrationContractId := text members "calibration_contract_id" "CALIBRATION_PLATT_LOGISTIC_V1"
    abstentionPolicy := text members "abstention_policy" "NO_TRADE"
    requiredFeatureIds := requiredFeatureIds
    featureParams := featureParams
    lookbackWindows := lookbackWindows
    availabilityRule := text members "availability_rule" "CLOSED_BAR_STRICT"
    costProxyId := text members "cost_proxy_id" "COST_PROXY_12BPS_V1"
    mechanicalRefitPolicy := text members "mechanical_refit_policy"
      "REFIT_CHRONOLOGICAL_PAST_ONLY_V1"
    protocolHash := text members "protocol_hash" own.protocolHash
    sourceManifestHash := text members "source_manifest_hash" own.sourceManifestHash
    splitManifestHash := text members "split_manifest_hash" own.splitManifestHash
    ledgerSchemaVersion := text members "ledger_schema_version" "H40_LEDGER_V1"
    frozenKernelSha := text members "frozen_kernel_sha" own.frozenKernelSha
    p1CodeBaselineSha := text members "p1_code_baseline_sha" own.p1CodeBaselineSha
    status := text members "status" "REGISTERED"
    reasonCode := reasonCode
    notes := text members "notes" "" }

end SlotFields

/-- `H40ConfigurationSlot.from_dict`. -/
def Slot.fromDict (protocolHash : String) : Json → Except SlotFault Slot
  | .obj members => do Slot.create (← SlotFields.ofMembers protocolHash members)
  | _ => .error (.data ⟨.type, "slot data is not a mapping"⟩)

/-! ### The round trip of a slot -/

omit [Platform] [SurfaceGuard] in
theorem mapM_familyOf (families : List Family) :
    (families.map fun family => Json.str family.value).mapM familyOf = .ok families := by
  induction families with
  | nil => rfl
  | cons family families inductionHypothesis =>
    rw [List.map_cons, List.mapM_cons, inductionHypothesis]
    show (match Family.ofText family.value with
      | some family => Except.ok family
      | none => Except.error _) >>= _ = _
    rw [family.ofText_value]
    rfl

omit [Platform] [SurfaceGuard] in
theorem reasonCodeOf_value (code : Option ReasonCode) :
    reasonCodeOf ((code.map fun code => Json.str code.value).getD .null) = .ok code := by
  cases code with
  | none => rfl
  | some code =>
    show (if decide (code.value ≠ "") = true then _ else _) = _
    rw [if_pos (decide_eq_true code.value_ne_empty)]
    show (match ReasonCode.ofText code.value with
      | some code => Except.ok (some code)
      | none => Except.error _) = _
    rw [code.ofText_value]

omit [SurfaceGuard] in
theorem textsOf_texts (texts : List String) :
    textsOf (.arr (texts.map .str)) = .ok texts := by
  show Except.ok ((texts.map Json.str).map textOf) = _
  rw [List.map_map]
  exact congrArg Except.ok (List.map_id texts)

omit [SurfaceGuard] in
theorem SlotFields.ofMembers_toMembers (protocolHash configId : String) (fields : SlotFields) :
    SlotFields.ofMembers protocolHash (("config_id", .str configId) :: fields.toMembers) =
      .ok fields := by
  have reason := reasonCodeOf_value fields.reasonCode
  have features := textsOf_texts fields.requiredFeatureIds
  have assets := textsOf_texts fields.assetScope
  have families := mapM_familyOf fields.familyCombination
  have items : itemsOf (.arr (fields.familyCombination.map fun family => .str family.value)) =
      .ok (fields.familyCombination.map fun family => .str family.value) := rfl
  simp [SlotFields.ofMembers, SlotFields.required, SlotFields.optional, SlotFields.text,
    SlotFields.frozen, entry, SlotFields.toMembers, SlotFields.semanticMembers,
    Json.lookup_cons_of_ne, reason, features, assets, families, items, textOf, intOf, floatOf,
    FrozenDict.ofJson_thaw, Except.mapError, ok_bind]

theorem Slot.fromDict_toDict {protocolHash : String} {slot : Slot} {written : Json}
    (toDict : slot.toDict = .ok written) : Slot.fromDict protocolHash written = .ok slot := by
  unfold SlotFields.toDict at toDict
  obtain ⟨configId, -, written⟩ := bind_eq_ok.mp toDict
  rw [← Except.ok.inj written]
  show (SlotFields.ofMembers protocolHash _ >>= Slot.create) = _
  rw [SlotFields.ofMembers_toMembers]
  exact slot.create_self

end QuantAgent.SearchBudget
