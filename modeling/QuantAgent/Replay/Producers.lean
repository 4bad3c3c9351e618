/-
This file embeds the signals and the producers that replay them. The canonical producer follows the
rule of its contract over the window; the synthetic and the random one take the signal from the
generation contract of the submission.
-/

import QuantAgent.Library.KeyedList
import QuantAgent.Replay.Selection

namespace QuantAgent.Replay

open Research

/-! ### Numbers and plain values -/

theorem InformationSignal.positive_of_demand {value : ℤ} (demanded : PLift (0 < value)) :
    0 < value :=
  demanded.down

/-- A float times a factor that is not zero. -/
def scale (factor : ℚ) : Double → Double
  | .finite value => .finite (value * factor)
  | .infinite negative => .infinite (negative != (factor < 0 : Bool))
  | .notANumber => .notANumber

/-- `==` of two floats. -/
abbrev SameFloat (number other : Double) : Prop := number = other ∧ number ≠ .notANumber

mutual

/-- A value with every number as a float: what `==` compares. -/
def plain : Json → Json
  | .bool value => .float (.finite (if value then 1 else 0))
  | .int value => .float (.finite value)
  | .arr items => .arr (plainItems items)
  | .obj members => .obj (plainMembers members)
  | .null => .null
  | .float value => .float value
  | .str text => .str text

def plainItems : List Json → List Json
  | [] => []
  | item :: items => plain item :: plainItems items

def plainMembers : List (String × Json) → List (String × Json)
  | [] => []
  | (key, value) :: members => (key, plain value) :: plainMembers members

end

/-- `==` of two JSON values without infinite numbers. -/
abbrev SameJson (value other : Json) : Prop := (plain value).canonical = (plain other).canonical

section

variable [Platform]

/-- `list(value)`. -/
def listOf : Json → Except Fault (List Json)
  | .arr items => .ok items
  | .str text => .ok (text.toList.map fun character => .str (String.singleton character))
  | .obj members => .ok (members.map fun member => .str member.1)
  | _ => .error ⟨.type, "object is not iterable"⟩

/-- A key and its value, of an item that `dict` is made from. -/
def pairOf : Json → Except Fault (String × Json)
  | .arr [.str key, value] => .ok (key, value)
  | .str text =>
    match text.toList with
    | [key, value] => .ok (String.singleton key, .str (String.singleton value))
    | _ => .error (valueError "dictionary update sequence element has the wrong length")
  | _ => .error ⟨.type, "cannot convert dictionary update sequence element to a sequence"⟩

/-- `dict(value)`; later values of one key replace earlier ones. -/
def dictOf : Json → Except Fault (List (String × Json))
  | .obj members => .ok members
  | .arr items => do
    let pairs ← items.mapM pairOf
    .ok (pairs.foldl (KeyedList.insert Prod.fst) [])
  | .str "" => .ok []
  | _ => .error ⟨.type, "object is not iterable"⟩

/-! ### Signals -/

/-- A signal, with the checks of its constructor. -/
structure InformationSignal where
  signalId : String
  experimentId : String
  timestampMs : ℤ
  asset : String
  direction : ℤ
  strength : Double
  confidenceInterval : Option (Json × Json)
  horizonMs : ℤ
  metadata : Json
  signalId_text : signalId ≠ ""
  experimentId_text : experimentId ≠ ""
  timestampMs_positive : 0 < timestampMs
  direction_sign : direction ∈ [-1, 0, 1]
  horizonMs_positive : 0 < horizonMs

/-- What a producer decides about a signal. -/
structure SignalContent where
  asset : String
  direction : ℤ
  strength : Double
  confidenceInterval : Option (Json × Json)
  horizonMs : ℤ
  metadata : Json

namespace InformationSignal

/-- `InformationSignal(...)`. -/
def create (signalId experimentId : String) (timestampMs : ℤ) (content : SignalContent) :
    Except Fault InformationSignal := do
  let signalIdText ← demand (signalId ≠ "") (valueError "signal_id cannot be empty")
  let experimentIdText ← demand (experimentId ≠ "") (valueError "experiment_id cannot be empty")
  let timestamp ← demand (0 < timestampMs) (valueError "timestamp_ms must be positive")
  let sign ← demand (content.direction ∈ [-1, 0, 1])
    (valueError ("direction must be -1, 0, or 1; got " ++ toString content.direction))
  let horizon ← demand (0 < content.horizonMs)
    (valueError ("horizon_ms must be positive; got " ++ toString content.horizonMs))
  .ok ⟨signalId, experimentId, timestampMs, content.asset, content.direction, content.strength,
    content.confidenceInterval, content.horizonMs, content.metadata, signalIdText.down,
    experimentIdText.down, positive_of_demand timestamp, sign.down, horizon.down⟩

/-- Two items of a list, or none. -/
def intervalOf : Option Json → Option (Json × Json)
  | some (.arr [lower, upper]) => some (lower, upper)
  | _ => none

def intervalJson : Option (Json × Json) → Json
  | some (lower, upper) => .arr [lower, upper]
  | none => .null

/-- `InformationSignal.from_dict`. -/
def fromDict (data : List (String × Json)) : Except Fault InformationSignal := do
  let signalId := textOf (← entry data "signal_id")
  let experimentId := textOf (← entry data "experiment_id")
  let timestampMs ← intOf (← entry data "timestamp_ms")
  let direction ← intOf ((data.lookup "direction").getD (.int 1))
  let strength ← floatOf ((data.lookup "strength").getD (.float (.finite 1)))
  let horizonMs ← intOf ((data.lookup "horizon_ms").getD (.int 3600000))
  let metadata ← dictOf ((data.lookup "metadata").getD (.obj []))
  create signalId experimentId timestampMs {
    asset := textOf ((data.lookup "asset").getD (.str "BTCUSDT"))
    direction := direction
    strength := strength
    confidenceInterval := intervalOf (data.lookup "confidence_interval")
    horizonMs := horizonMs
    metadata := .obj metadata }

variable (signal : InformationSignal)

def toDict : List (String × Json) :=
  [("signal_id", .str signal.signalId), ("experiment_id", .str signal.experimentId),
    ("timestamp_ms", .int signal.timestampMs), ("asset", .str signal.asset),
    ("direction", .int signal.direction), ("strength", .float signal.strength),
    ("confidence_interval", intervalJson signal.confidenceInterval),
    ("horizon_ms", .int signal.horizonMs), ("metadata", signal.metadata)]

def economicMetadata : Except Fault (List (String × Json)) :=
  match signal.metadata with
  | .obj members => .ok (members.filter fun member => member.2 ≠ .null)
  | .arr [] | .str "" => .ok []
  | _ => .error ⟨.type, "metadata is not a mapping"⟩

/-- `canonical_signal_semantic_payload`. -/
def semanticPayload : Except Fault (List (String × Json)) := do
  let metadata ← signal.economicMetadata
  .ok [("signal_id", .str signal.signalId), ("experiment_id", .str signal.experimentId),
    ("timestamp_ms", .int signal.timestampMs), ("asset", .str signal.asset),
    ("direction", .int signal.direction), ("strength", .float signal.strength),
    ("horizon_ms", .int signal.horizonMs),
    ("confidence_interval", intervalJson signal.confidenceInterval),
    ("economic_metadata", .obj metadata)]

end InformationSignal

/-! ### Checks of the inputs -/

def checkAvailable (timestampMs : ℤ) : List DatasetCandle → Except Fault Unit
  | [] => .ok ()
  | candle :: candles => do
    refuse (candle.closed ≠ true) (valueError "input candle is not explicitly closed")
    refuse (¬ ∃ availableMs ∈ candle.availableAtMs, availableMs ≤ timestampMs)
      (valueError "input candle was not available by signal timestamp")
    checkAvailable timestampMs candles

def openTimes (candles : List DatasetCandle) : List Json :=
  candles.map fun candle => .int candle.openTimeMs

/-- `canonical_sha256` of the payloads. -/
def preimageSha256 (candles : List DatasetCandle) : Except Fault String :=
  canonicalSha256 (.arr (candles.map DatasetCandle.payload))

def checkDeclaredInputs (generation : List (String × Json)) (candles : List DatasetCandle) :
    Except Fault Unit := do
  match generation.lookup "material_input_open_times_ms" with
  | none | some .null => .ok ()
  | some declared => do
    let declared ← listOf declared
    refuse (¬ SameJson (.arr declared) (.arr (openTimes candles)))
      (valueError "input open times do not match generation contract")
  match generation.lookup "expected_preimage_sha256" with
  | none | some .null => .ok ()
  | some expected => do
    let actual ← preimageSha256 candles
    refuse (.str actual ≠ expected)
      (valueError "input preimage hash mismatch during signal replay")

/-! ### The canonical producer -/

namespace CanonicalRule

def checkDeclared (generation : List (String × Json)) (name : String) (required : ℤ) :
    Except Fault Unit :=
  match generation.lookup name with
  | none | some .null => .ok ()
  | some raw => do
    let declared ← intOf raw
    refuse (declared ≠ required) (valueError ("generation_contract " ++ name ++
      " mismatch: selector requires " ++ toString required ++ ", entry declared " ++ textOf raw))

def checkSelector (generation : List (String × Json)) (policy : SelectorPolicy) :
    Except Fault Unit := do
  checkDeclared generation "min_lookback_bars" policy.requiredBars
  match generation.lookup "material_input_selector_type" with
  | none | some .null => .ok ()
  | some declared =>
    refuse (declared ≠ .str materialInputSelectorType)
      (valueError ("generation_contract material_input_selector_type mismatch: selector requires "
        ++
        materialInputSelectorType ++ ", entry declared " ++ textOf declared))
  checkDeclared generation "material_input_required_bars" policy.requiredBars
  match generation.lookup "material_input_selector_sha256" with
  | none | some .null => .ok ()
  | some declared =>
    refuse (declared ≠ .str policy.selectorSha256)
      (valueError ("generation_contract material_input_selector_sha256 mismatch: entry declared " ++
        "a selector policy that disagrees with the authoritative contract"))

def Adjacent : List DatasetCandle → Prop
  | previous :: candle :: rest =>
    candle.openTimeMs = previous.closeTimeMs + 1 ∧ Adjacent (candle :: rest)
  | _ => True

instance Adjacent.decidable : DecidablePred Adjacent
  | _ :: candle :: rest =>
    have := Adjacent.decidable (candle :: rest)
    inferInstanceAs (Decidable (_ ∧ _))
  | [] => .isTrue trivial
  | [_] => .isTrue trivial

def checkWindow (policy : SelectorPolicy) (candles : List DatasetCandle) : Except Fault Unit := do
  refuse (candles = []) (valueError "signal replay requires non-empty material inputs")
  refuse ((candles.length : ℤ) ≠ policy.requiredBars)
    (valueError ("signal replay requires the exact required material window: required " ++
      toString policy.requiredBars ++ ", got " ++ toString candles.length))
  refuse (¬ candles.Pairwise fun candle later => candle.openTimeMs < later.openTimeMs)
    (valueError "input candles must be ordered and non-overlapping")
  refuse ((candles.map fun candle => candle.symbol).dedup.length ≠ 1 ∨
      (candles.map fun candle => candle.interval).dedup.length ≠ 1)
    (valueError "input candles must share one symbol and one interval")
  refuse (1 < policy.requiredBars ∧ ¬ Adjacent candles)
    (valueError "input candles must be contiguous required material rows")

def sign (above below : Prop) [Decidable above] [Decidable below] : ℤ :=
  if above then 1 else if below then -1 else 0

def direction (contract : SignalProducerContract) (first last : DatasetCandle) :
    Except Fault ℤ :=
  if contract.rule = "MOMENTUM_THRESHOLD" then do
    let threshold ← floatOf
      ((contract.parameters.members.lookup "threshold_return_bps").getD (.float (.finite 0)))
    let threshold := scale (1 / 10000) threshold
    refuse (first.openPrice = 0) (valueError "float division by zero")
    let move := Double.finite ((last.close - first.openPrice) / first.openPrice)
    .ok (sign (Double.Less threshold move) (Double.Less move (scale (-1) threshold)))
  else if contract.rule = "PRICE_BREAKOUT" then
    match contract.parameters.members.lookup "breakout_level" with
    | none => .error (valueError
        "PRICE_BREAKOUT requires breakout_level in authoritative contract parameters")
    | some raw => do
      let level ← floatOf raw
      .ok (sign (Double.Less level (.finite last.close)) (Double.Less (.finite last.close) level))
  else if contract.rule = "RETURN_SIGN" then
    .ok (sign (last.openPrice < last.close) (last.close < last.openPrice))
  else .error (valueError ("unsupported rule in authoritative contract: " ++ contract.rule))

def content (contract : SignalProducerContract) (first last : DatasetCandle) :
    Except Fault SignalContent := do
  let direction ← direction contract first last
  let parameters := contract.parameters.members
  let strength ← floatOf ((parameters.lookup "strength").getD (.float (.finite 1)))
  let horizonMs ← intOf ((parameters.lookup "horizon_ms").getD (.int 3600000))
  .ok {
    asset := textOf ((parameters.lookup "asset").getD (.str last.symbol))
    direction := direction
    strength := strength
    confidenceInterval := InformationSignal.intervalOf (parameters.lookup "confidence_interval")
    horizonMs := horizonMs
    metadata := (parameters.lookup "metadata").getD (.obj []) }

/-- `CanonicalRuleSignalProducer.replay_signal` under an authoritative contract. -/
def replaySignal (signalId : String) (timestampMs : ℤ) (experimentId : String)
    (candles : List DatasetCandle) (generation : List (String × Json))
    (contract : SignalProducerContract) : Except Fault InformationSignal := do
  refuse (contract.rule = "FIXED_DIRECTION") (valueError
    ("FIXED_DIRECTION is forbidden in CanonicalRuleSignalProducer; canonical candidate signals " ++
      "must derive direction from market inputs. Use SyntheticFixedSignalProducer for synthetic " ++
      "testing only."))
  refuse (∃ declared ∈ generation.lookup "rule", declared ≠ .str contract.rule)
    (valueError ("generation_contract rule mismatch: contract specifies " ++ contract.rule))
  let policy ← SelectorPolicy.resolve contract
  checkSelector generation policy
  checkWindow policy candles
  checkAvailable timestampMs candles
  checkDeclaredInputs generation candles
  match candles.head?, candles.getLast? with
  | some first, some last => do
    let content ← content contract first last
    InformationSignal.create signalId experimentId timestampMs content
  | _, _ => .error (valueError "signal replay requires non-empty material inputs")

end CanonicalRule

/-! ### The producers that take the signal from the submission -/

def declaredContent (generation : List (String × Json)) (last : DatasetCandle) :
    Except Fault SignalContent := do
  let direction ← intOf (← entry generation "direction")
  let strength ← floatOf ((generation.lookup "strength").getD (.float (.finite 1)))
  let horizonMs ← intOf ((generation.lookup "horizon_ms").getD (.int 3600000))
  let metadata ← dictOf ((generation.lookup "metadata").getD (.obj []))
  .ok {
    asset := textOf ((generation.lookup "asset").getD (.str last.symbol))
    direction := direction
    strength := strength
    confidenceInterval := InformationSignal.intervalOf (generation.lookup "confidence_interval")
    horizonMs := horizonMs
    metadata := .obj metadata }

def replayDeclared (signalId : String) (timestampMs : ℤ) (experimentId : String)
    (candles : List DatasetCandle) (generation : List (String × Json)) (empty : String)
    (own : Except Fault Unit) : Except Fault InformationSignal :=
  match candles.getLast? with
  | none => .error (valueError empty)
  | some last => do
    own
    checkAvailable timestampMs candles
    checkDeclaredInputs generation candles
    let content ← declaredContent generation last
    InformationSignal.create signalId experimentId timestampMs content

/-- `SyntheticFixedSignalProducer.replay_signal`. -/
def SyntheticFixed.replaySignal (signalId : String) (timestampMs : ℤ) (experimentId : String)
    (candles : List DatasetCandle) (generation : List (String × Json)) :
    Except Fault InformationSignal :=
  replayDeclared signalId timestampMs experimentId candles generation
    "synthetic signal replay requires non-empty material inputs" do
      let least ← intOf ((generation.lookup "min_lookback_bars").getD (.int 1))
      refuse ((candles.length : ℤ) < least)
        (valueError ("insufficient lookback for signal replay: required " ++ toString least ++
          ", got " ++ toString candles.length))

/-- `RandomBenchmarkSignalProducer.replay_signal`. -/
def RandomBenchmark.replaySignal (signalId : String) (timestampMs : ℤ) (experimentId : String)
    (candles : List DatasetCandle) (generation : List (String × Json)) :
    Except Fault InformationSignal :=
  replayDeclared signalId timestampMs experimentId candles generation
    "random benchmark signal replay requires non-empty material inputs" (.ok ())

/-! ### The registry -/

inductive Producer where
  | canonicalRule
  | randomBenchmark
  | syntheticFixed
  deriving DecidableEq

namespace Producer

def identity : Producer → String
  | canonicalRule => "CANONICAL_RULE_SIGNAL_PRODUCER"
  | randomBenchmark => "RANDOM_BENCHMARK_PRODUCER"
  | syntheticFixed => "SYNTHETIC_FIXED_SIGNAL_PRODUCER"

def version : Producer → String := fun _ => "1.0.0"

/-- `get_producer`. -/
def find (identity version : String) : Option Producer :=
  [canonicalRule, randomBenchmark, syntheticFixed].find? fun producer =>
    producer.identity = identity ∧ producer.version = version

def replaySignal (producer : Producer) (signalId : String) (timestampMs : ℤ)
    (experimentId : String) (candles : List DatasetCandle) (generation : List (String × Json))
    (contract : SignalProducerContract) : Except Fault InformationSignal :=
  match producer with
  | canonicalRule =>
    CanonicalRule.replaySignal signalId timestampMs experimentId candles generation contract
  | randomBenchmark =>
    RandomBenchmark.replaySignal signalId timestampMs experimentId candles generation
  | syntheticFixed =>
    SyntheticFixed.replaySignal signalId timestampMs experimentId candles generation

end Producer

structure Registry where
  contracts : List SignalProducerContract := []

namespace Registry

variable (registry : Registry)

/-- `get_contract`; a contract always carries the hash of its content. -/
def getContract (contractId : String) (contractHash : Option String) :
    Option SignalProducerContract :=
  match registry.contracts.find? fun contract => contract.contractId = contractId with
  | none => none
  | some contract =>
    if ∃ declared ∈ contractHash, contract.contractHash ≠ declared then none else some contract

/-- `_resolve_protocol_producer_contract`. -/
def resolve (protocol : ExperimentMetadata) : Option SignalProducerContract :=
  match protocol.signalProducerContract with
  | none => none
  | some (.contract contract) => some contract
  | some (.identity identity) =>
    registry.getContract identity.logicalId (some identity.contentSha256)

end Registry

end

end QuantAgent.Replay
