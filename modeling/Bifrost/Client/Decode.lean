import Bifrost.Client.Runtime

/-!
# The decode pass over a block's extrinsics

`parseExtrinsicByDecode` walks a block's extrinsics in order. Each one is hex-decoded and
handed to the `expand` decoder; a `timestamp` call sets the block's timestamp, a
`Balances.transfer` or `transfer_keep_alive` gives one candidate, and a `Utility.batch`
gives one candidate per `dest` argument of each batched Balances transfer. An error ends
the pass with that error; a panic is recovered by a deferred handler that reports the
block with no entries.

The loop is `decodeLoop`, one iteration `decodeStep`. Beside the model stands
`blockCandidates`, the same list written without the loop as the spec describes it, and
the pass is proved to compute it:

* `parseExtrinsicByDecode_candidates`: on a block whose extrinsics all decode, the pass
  reports `blockCandidates`, or no entries when the client's own type assertions panic on
  one of them; the entries are in order of index and each carries its extrinsic's call.
* `parseExtrinsicByDecode_entry_fields`: every entry a completed pass reports comes from an
  extrinsic of the block that decoded, with the recipient and amount that call gives it.
* `parseExtrinsicByDecode_unresolved`: the pass leaves every status and type empty.

The timestamp the pass reports is `blockTimestamp`, the last `now` of the block's
`timestamp` calls (`parseExtrinsicByDecode_eq`).
-/

namespace Bifrost

namespace Client

variable {Conn Md : Type} (codec : Codec Md) (node : Node Conn Md) (c : Client Conn Md)

/-! ## Fees and transaction ids -/

/-- `getPartialFee`: the `partialFee` field of `payment_queryInfo` for an extrinsic, which
is given a `0x` prefix first. -/
def getPartialFee (extrinsic parentHash : String) : Except String String :=
  let extrinsic := if stringsHasPrefix extrinsic "0x" then extrinsic else "0x" ++ extrinsic
  match node.paymentQueryInfo c.c extrinsic parentHash with
  | .error err => .error ("get payment info error: " ++ err)
  | .ok result =>
    match mapIndex result "partialFee" with
    | none | some .null => .error "result partialFee is nil ptr"
    | some (.string fee) => .ok fee
    | some v => .error ("partialFee is not string type: " ++ codec.formatValue v)

/-- `createTxHash`: the BLAKE2b-256 hash of the extrinsic's bytes, in hex behind `0x`. A
decoding fault is ignored, and the bytes decoded before it are hashed. -/
def createTxHash (extrinsic : String) : String :=
  "0x" ++ Hex.encodeToString (codec.sum256 (Hex.decodeString (removeHex0x extrinsic)).1)

/-! ## One extrinsic -/

/-- The locals of the loop of `parseExtrinsicByDecode`: the candidates so far and the
block's timestamp. -/
structure DecodeLocals where
  params : List ParseBlockExtrinsicParams
  timestamp : Int

/-- How an iteration of that loop leaves the function: by returning an error, or by a
panic, with the timestamp as it stood then, which the deferred handler reports. -/
inductive DecodeExit where
  | error (msg : String)
  | panic (timestamp : Int)

/-- The `timestamp` branch: each `now` parameter sets the timestamp, and one that is not a
JSON number panics (`param.Value.(float64)`); `.error t` is that panic, `t` the timestamp
at that moment. -/
def readTimestamp (timestamp : Int) : List ExtrinsicDecodeParam → Except Int Int
  | [] => .ok timestamp
  | param :: params =>
    if param.name = "now" then
      match param.value with
      | .number n => readTimestamp n params
      | _ => .error timestamp
    else readTimestamp timestamp params

/-- The parameter loop of the `Balances` branch: a `dest` sets the recipient, its SS58
address under the client's prefix (empty when encoding fails), and a `value` sets the
amount; either one not a JSON string panics, which is `none`. -/
def readTransferParams (blockData : ParseBlockExtrinsicParams) :
    List ExtrinsicDecodeParam → Option ParseBlockExtrinsicParams
  | [] => some blockData
  | param :: params => do
    let blockData ← if param.name = "dest" then
        (param.value.asString?).map fun dest =>
          { blockData with «to» := orEmpty (codec.encodeByPubHex dest c.prefixBytes) }
      else some blockData
    let blockData ← if param.name = "value" then
        (param.value.asString?).map fun value => { blockData with amount := value }
      else some blockData
    readTransferParams blockData params

/-- The candidate the `Balances` branch fills in before reading the call's parameters. -/
def transferData (i : Nat) (extrinsic parentHash : String) (resp : ExtrinsicDecodeResponse) :
    ParseBlockExtrinsicParams :=
  { «from» := orEmpty (codec.encodeByPubHex resp.accountId c.prefixBytes)
    era := resp.era, sig := resp.signature, nonce := resp.nonce, extrinsicIdx := i
    fee := orEmpty (getPartialFee codec node c extrinsic parentHash)
    txid := createTxHash codec extrinsic
    length := resp.length
    «to» := "", amount := "" }

/-- The candidate of the `Utility.batch` branch for one `dest` argument. Its amount and
length are never set. -/
def batchData (i : Nat) (extrinsic parentHash : String) (resp : ExtrinsicDecodeResponse)
    (arg : UtilityCallArg) : ParseBlockExtrinsicParams :=
  { «from» := orEmpty (codec.encodeByPubHex resp.accountId c.prefixBytes)
    era := resp.era, sig := resp.signature, nonce := resp.nonce, extrinsicIdx := i
    fee := orEmpty (getPartialFee codec node c extrinsic parentHash)
    txid := createTxHash codec extrinsic
    «to» := orEmpty (codec.encodeByPubHex arg.valueRaw c.prefixBytes)
    length := 0, amount := "" }

/-- Whether a module's function is one of the two Balances transfers the client reads. -/
def isTransferFunction (function : String) : Bool :=
  function = "transfer" || function = "transfer_keep_alive"

/-- The two transfers the client reads, by name. -/
@[simp] theorem isTransferFunction_iff (function : String) :
    isTransferFunction function = true ↔
      function = "transfer" ∨ function = "transfer_keep_alive" := by
  simp [isTransferFunction]

/-- The candidates of one parameter of a `Utility.batch`: for a `calls` list that
unmarshals into calls, one per `dest` argument of each batched Balances transfer, in
order; none for any other parameter. -/
def batchParamData (i : Nat) (extrinsic parentHash : String) (resp : ExtrinsicDecodeResponse)
    (param : ExtrinsicDecodeParam) : List ParseBlockExtrinsicParams :=
  if param.name = "calls" then
    match param.value with
    | .array items =>
      match codec.unmarshalCalls items with
      | .error _ => []
      | .ok values =>
        values.flatMap fun value =>
          if value.callModule = "Balances" ∧ isTransferFunction value.callFunction ∧
              0 < value.callArgs.length then
            (value.callArgs.filter (·.name = "dest")).map
              (batchData codec node c i extrinsic parentHash resp)
          else []
    | _ => []
  else []

/-- The `switch resp.CallModule` of one iteration, on the decoded call `resp` of extrinsic
`i` (its hex already stripped of `0x`). -/
def callStep (parentHash : String) (locals : DecodeLocals) (i : Nat) (extrinsic : String)
    (resp : ExtrinsicDecodeResponse) : Except DecodeExit DecodeLocals :=
  if resp.callModule = "Timestamp" then
    match readTimestamp locals.timestamp resp.params with
    | .ok timestamp => .ok { locals with timestamp }
    | .error timestamp => .error (.panic timestamp)
  else if resp.callModule = "Balances" then
    if isTransferFunction resp.callModuleFunction then
      match readTransferParams codec c
          (transferData codec node c i extrinsic parentHash resp) resp.params with
      | some blockData => .ok { locals with params := locals.params ++ [blockData] }
      | none => .error (.panic locals.timestamp)
    else .ok locals
  else if resp.callModule = "Utility" then
    if resp.callModuleFunction = "batch" then
      .ok { locals with
        params := locals.params ++
          resp.params.flatMap (batchParamData codec node c i extrinsic parentHash resp) }
    else .ok locals
  else .ok locals

/-- One iteration of the loop of `parseExtrinsicByDecode`, on extrinsic `i`: strip `0x`,
hex-decode, run the decoder, then `callStep`. -/
def decodeStep (parentHash : String) (locals : DecodeLocals) (i : Nat) (extrinsic : String) :
    Except DecodeExit DecodeLocals :=
  let extrinsic := remove0X extrinsic
  match Hex.decodeString extrinsic with
  | (_, some err) => .error (.error ("hex.decode extrinsic error: " ++ err.message))
  | (data, none) =>
    match codec.decodeExtrinsic c.meta data with
    | .newDecoderError err => .error (.error ("new extrinsic decode error: " ++ err))
    | .processError err => .error (.error ("decode extrinsic error: " ++ err))
    | .emptyJson => .error (.error "unknown extrinsic decode response")
    | .unmarshalError err => .error (.error ("json unmarshal extrinsic decode error: " ++ err))
    | .panicked => .error (.panic locals.timestamp)
    | .decoded resp => callStep codec node c parentHash locals i extrinsic resp

/-- The loop of `parseExtrinsicByDecode` from extrinsic `i` on. -/
def decodeLoop (parentHash : String) :
    DecodeLocals → Nat → List String → Except DecodeExit DecodeLocals
  | locals, _, [] => .ok locals
  | locals, i, extrinsic :: extrinsics =>
    match decodeStep codec node c parentHash locals i extrinsic with
    | .ok locals => decodeLoop parentHash locals (i + 1) extrinsics
    | .error e => .error e

/-- The report entry built from a candidate; its status and type stay empty. -/
def toExtrinsicResponse (param : ParseBlockExtrinsicParams) :
    ExtrinsicResponse :=
  { signature := param.sig, fromAddress := param.from, toAddress := param.to
    nonce := param.nonce, era := param.era, fee := param.fee
    extrinsicIndex := param.extrinsicIdx, amount := param.amount, txid := param.txid
    extrinsicLength := param.length, status := "", type := "" }

/-- `parseExtrinsicByDecode`: the report with the block's timestamp and its candidates, or
the error that ended the loop. A panic is recovered: the report then has the timestamp as
it stood and no entries, and the function returns nil. -/
def parseExtrinsicByDecode (extrinsics : List String) (blockResp : BlockResponse) :
    Except String BlockResponse :=
  match decodeLoop codec node c blockResp.parentHash ⟨[], 0⟩ 0 extrinsics with
  | .ok locals =>
    .ok { blockResp with
      timestamp := locals.timestamp
      extrinsic := locals.params.map toExtrinsicResponse }
  | .error (.error msg) => .error msg
  | .error (.panic timestamp) => .ok { blockResp with timestamp := timestamp, extrinsic := [] }

/-! ## The candidates of a block, as the spec describes them -/

/-- Whether a parameter makes the `timestamp` branch panic: a `now` that is not a JSON
number. -/
def badTimestampParam (param : ExtrinsicDecodeParam) : Bool :=
  param.name = "now" && !param.value.isNumber

/-- Whether a parameter makes the `Balances` branch panic: a `dest` or a `value` that is
not a JSON string. -/
def badTransferParam (param : ExtrinsicDecodeParam) : Bool :=
  (param.name = "dest" || param.name = "value") && (param.value.asString?).isNone

/-- Whether the client's own type assertions panic on a decoded call. -/
def processingPanics (resp : ExtrinsicDecodeResponse) : Bool :=
  (resp.callModule = "Timestamp" && resp.params.any badTimestampParam) ||
    (resp.callModule = "Balances" &&
      (resp.callModuleFunction = "transfer" || resp.callModuleFunction = "transfer_keep_alive") &&
      resp.params.any badTransferParam)

/-- The values the `now` parameters among `params` carry, in order. -/
def paramNows (params : List ExtrinsicDecodeParam) : List Int :=
  params.filterMap fun param => if param.name = "now" then param.value.asNumber? else none

/-- The values a decoded call sets the block's timestamp to, in order: the `now` parameters
of a `timestamp` call, none for any other call. -/
def callNows (resp : ExtrinsicDecodeResponse) : List Int :=
  if resp.callModule = "Timestamp" then paramNows resp.params else []

/-- The block's timestamp as the spec describes it, captured once per block: the last `now`
of its `timestamp` calls, or `t` when it has none. -/
def blockTimestamp (t : Int) (blocks : List (String × ExtrinsicDecodeResponse)) : Int :=
  (blocks.flatMap (callNows ·.2)).getLast?.getD t

/-- The string value of the last parameter named `name`. In a pass that does not panic,
every parameter read this way is a string. -/
def lastString (name : String) : List ExtrinsicDecodeParam → Option String
  | [] => none
  | param :: params =>
    (lastString name params).orElse fun _ =>
      if param.name = name then param.value.asString? else none

/-- The `dest` arguments a batch parameter contributes: for a `calls` list that unmarshals
into calls, those of each call whose module is Balances and whose function is a
transfer, in order. -/
def callsDests (param : ExtrinsicDecodeParam) : List UtilityCallArg :=
  if param.name = "calls" then
    match param.value with
    | .array items =>
      match codec.unmarshalCalls items with
      | .ok calls =>
        calls.flatMap fun call =>
          if call.callModule = "Balances" ∧
              (call.callFunction = "transfer" ∨ call.callFunction = "transfer_keep_alive") then
            call.callArgs.filter (·.name = "dest")
          else []
      | .error _ => []
    | _ => []
  else []

/-- The fields every entry of extrinsic `i`, hex `x`, decoded as `resp` shares: the index,
the transaction id of `x`, its fee, and the call's signature, nonce, era and sender. The
status and the type stay empty until the correlator runs. -/
def candidateBase (parentHash : String) (i : Nat) (x : String)
    (resp : ExtrinsicDecodeResponse) : ExtrinsicResponse :=
  { extrinsicIndex := i, txid := createTxHash codec x
    signature := resp.signature, nonce := resp.nonce, era := resp.era
    fromAddress := orEmpty (codec.encodeByPubHex resp.accountId c.prefixBytes)
    fee := orEmpty (getPartialFee codec node c x parentHash)
    toAddress := "", amount := "", extrinsicLength := 0, status := "", type := "" }

/-- The entries the spec expects of extrinsic `i`: one for a Balances transfer, with the
recipient and the amount of its last `dest` and `value`; one per `dest` argument of the
batched Balances transfers of a `Utility.batch`; none for any other call. -/
def extrinsicCandidates (parentHash : String) (i : Nat) (x : String)
    (resp : ExtrinsicDecodeResponse) : List ExtrinsicResponse :=
  if resp.callModule = "Balances" ∧
      (resp.callModuleFunction = "transfer" ∨ resp.callModuleFunction = "transfer_keep_alive") then
    [{ candidateBase codec node c parentHash i x resp with
        toAddress := (lastString "dest" resp.params).elim ""
          fun dest => orEmpty (codec.encodeByPubHex dest c.prefixBytes)
        amount := (lastString "value" resp.params).getD ""
        extrinsicLength := resp.length }]
  else if resp.callModule = "Utility" ∧ resp.callModuleFunction = "batch" then
    (resp.params.flatMap (callsDests codec)).map fun arg =>
      { candidateBase codec node c parentHash i x resp with
        toAddress := orEmpty (codec.encodeByPubHex arg.valueRaw c.prefixBytes) }
  else []

/-- The entries the spec expects of a block: those of each extrinsic in turn, the first at
index `i`. -/
def blockCandidates (parentHash : String) :
    Nat → List (String × ExtrinsicDecodeResponse) → List ExtrinsicResponse
  | _, [] => []
  | i, (x, resp) :: blocks =>
    extrinsicCandidates codec node c parentHash i x resp ++
      blockCandidates parentHash (i + 1) blocks

/-- Extrinsic `x` hex-decodes once `0x` is stripped, and the decoder makes `resp` of it. -/
def Decodes (x : String) (resp : ExtrinsicDecodeResponse) : Prop :=
  (Hex.decodeString (remove0X x)).2 = none ∧
    codec.decodeExtrinsic c.meta (Hex.decodeString (remove0X x)).1 = .decoded resp

/-! ## Stripping `0x` changes neither the fee nor the transaction id -/

/-- On an extrinsic that decodes, `createTxHash` gives the same id with or without the
`0x` the loop strips. -/
theorem createTxHash_remove0X {x : String} (h : (Hex.decodeString (remove0X x)).2 = none) :
    createTxHash codec (remove0X x) = createTxHash codec x := by
  have hpre := stringsHasPrefix_eq_false_of_decodeString h
  simp only [createTxHash]
  congr 4
  unfold removeHex0x
  rw [hpre]
  rfl

/-- On an extrinsic that decodes, the fee query sees the same `0x`-prefixed hex with or
without the `0x` the loop strips. -/
theorem getPartialFee_remove0X {x : String} (h : (Hex.decodeString (remove0X x)).2 = none)
    (parentHash : String) :
    getPartialFee codec node c (remove0X x) parentHash =
      getPartialFee codec node c x parentHash := by
  have hpre := stringsHasPrefix_eq_false_of_decodeString h
  simp only [getPartialFee, hpre]
  congr 2
  unfold remove0X
  rcases hx : stringsHasPrefix x "0x"
  · simp
  · obtain ⟨rest, hdata⟩ := stringsHasPrefix_0x.1 hx
    obtain ⟨data⟩ := x
    simp only at hdata
    subst hdata
    rfl

/-! ## One iteration -/

/-- The `timestamp` branch panics exactly when some `now` is not a number, and otherwise
leaves the timestamp at the last `now`. -/
theorem readTimestamp_spec (timestamp : Int) (params : List ExtrinsicDecodeParam) :
    ∃ t, readTimestamp timestamp params =
      if params.any badTimestampParam then .error t
      else .ok ((paramNows params).getLast?.getD timestamp) := by
  induction params generalizing timestamp with
  | nil => exact ⟨timestamp, rfl⟩
  | cons param params ih =>
    by_cases hnow : param.name = "now"
    · match hv : param.value with
      | .number n =>
        simpa [readTimestamp, hnow, hv, badTimestampParam, Value.isNumber, paramNows,
          Value.asNumber?, List.getLast?_cons] using ih n
      | .null | .bool _ | .string _ | .array _ | .object _ =>
        exact ⟨timestamp, by simp [readTimestamp, hnow, hv, badTimestampParam, Value.isNumber]⟩
    · simpa [readTimestamp, hnow, badTimestampParam, paramNows] using ih timestamp

/-- The `Balances` parameter loop panics exactly when a `dest` or `value` is not a string;
otherwise the recipient is the address of the last `dest` and the amount the last
`value`, each left as it was when there is none. -/
theorem readTransferParams_spec (blockData : ParseBlockExtrinsicParams)
    (params : List ExtrinsicDecodeParam) :
    readTransferParams codec c blockData params =
      if params.any badTransferParam then none
      else some { blockData with
        «to» := (lastString "dest" params).elim blockData.to
          fun dest => orEmpty (codec.encodeByPubHex dest c.prefixBytes)
        amount := (lastString "value" params).getD blockData.amount } := by
  induction params generalizing blockData with
  | nil => rfl
  | cons param params ih =>
    by_cases hdest : param.name = "dest"
    · have hvalue : param.name ≠ "value" := by rw [hdest]; decide
      match hv : param.value with
      | .string dest =>
        simp only [readTransferParams, hdest, hvalue, hv, Value.asString?, if_true, if_false,
          Option.map_some', Option.some_bind, ih, List.any_cons, badTransferParam,
          decide_True, decide_False, Bool.true_or, Option.isNone_some, Bool.and_false,
          Bool.false_or, lastString]
        cases lastString "dest" params <;> cases lastString "value" params <;> rfl
      | .null | .bool _ | .number _ | .array _ | .object _ =>
        simp [readTransferParams, badTransferParam, hdest, hv, Value.asString?]
    · by_cases hvalue : param.name = "value"
      · match hv : param.value with
        | .string value =>
          simp only [readTransferParams, hdest, hvalue, hv, Value.asString?, if_true, if_false,
            Option.map_some', Option.some_bind, ih, List.any_cons, badTransferParam,
            decide_True, decide_False, Bool.or_true, Option.isNone_some, Bool.and_false,
            Bool.false_or, lastString]
          cases lastString "dest" params <;> cases lastString "value" params <;> rfl
        | .null | .bool _ | .number _ | .array _ | .object _ =>
          simp [readTransferParams, badTransferParam, hdest, hvalue, hv, Value.asString?]
      · simp only [readTransferParams, hdest, hvalue, if_false, Option.some_bind, ih,
          List.any_cons, badTransferParam, decide_False, Bool.false_or, Bool.false_and,
          lastString]
        cases lastString "dest" params <;> cases lastString "value" params <;> rfl

/-- The nested loops of the batch branch pick out the `dest` arguments the spec names, in
order, and build one candidate from each. -/
theorem batchParamData_eq (i : Nat) (extrinsic parentHash : String)
    (resp : ExtrinsicDecodeResponse) (param : ExtrinsicDecodeParam) :
    batchParamData codec node c i extrinsic parentHash resp param =
      (callsDests codec param).map (batchData codec node c i extrinsic parentHash resp) := by
  obtain ⟨name, value⟩ := param
  dsimp only [batchParamData, callsDests]
  split_ifs
  · cases value with
    | array items =>
      dsimp only
      cases codec.unmarshalCalls items with
      | error => rfl
      | ok calls =>
        simp only [List.map_flatMap]
        congr 1
        funext call
        by_cases h : call.callModule = "Balances" ∧
            (call.callFunction = "transfer" ∨ call.callFunction = "transfer_keep_alive")
        · rcases Nat.eq_zero_or_pos call.callArgs.length with hl | hl
          · simp [List.eq_nil_of_length_eq_zero hl]
          · simp [h, hl]
        · rw [if_neg fun h' => h ⟨h'.1, (isTransferFunction_iff _).1 h'.2.1⟩, if_neg h,
            List.map_nil]
    | null | bool | number | string | object => rfl
  · rfl

/-- The candidate of one batched `dest`, as a report entry, is the spec's. -/
theorem toResponse_batchData {x : String} (h : (Hex.decodeString (remove0X x)).2 = none)
    (parentHash : String) (i : Nat) (resp : ExtrinsicDecodeResponse) (arg : UtilityCallArg) :
    toExtrinsicResponse (batchData codec node c i (remove0X x) parentHash resp arg) =
      { candidateBase codec node c parentHash i x resp with
        toAddress := orEmpty (codec.encodeByPubHex arg.valueRaw c.prefixBytes) } := by
  simp only [batchData, toExtrinsicResponse, candidateBase,
    createTxHash_remove0X codec h, getPartialFee_remove0X codec node c h]

/-- One call, on an extrinsic that decodes: it panics exactly when the client's own type
assertions fail on it, and otherwise it appends candidates whose report entries are the
spec's and leaves the timestamp at the call's last `now`, if it has one. -/
theorem callStep_spec (parentHash : String) (locals : DecodeLocals) (i : Nat) {x : String}
    (hx : (Hex.decodeString (remove0X x)).2 = none) (resp : ExtrinsicDecodeResponse) :
    ∃ t ps, ps.map toExtrinsicResponse =
        extrinsicCandidates codec node c parentHash i x resp ∧
      callStep codec node c parentHash locals i (remove0X x) resp =
        if processingPanics resp then .error (.panic t)
        else .ok ⟨locals.params ++ ps, (callNows resp).getLast?.getD locals.timestamp⟩ := by
  by_cases hts : resp.callModule = "Timestamp"
  · obtain ⟨t, ht⟩ := readTimestamp_spec locals.timestamp resp.params
    refine ⟨t, [], by simp [extrinsicCandidates, hts], ?_⟩
    cases hb : resp.params.any badTimestampParam <;> simp only [hb] at ht <;>
      simp [callStep, processingPanics, hts, ht, hb, callNows]
  by_cases hbal : resp.callModule = "Balances"
  · by_cases htr :
        resp.callModuleFunction = "transfer" ∨ resp.callModuleFunction = "transfer_keep_alive"
    · refine ⟨locals.timestamp,
        [{ transferData codec node c i (remove0X x) parentHash resp with
            «to» := (lastString "dest" resp.params).elim ""
              fun dest => orEmpty (codec.encodeByPubHex dest c.prefixBytes)
            amount := (lastString "value" resp.params).getD "" }], ?_, ?_⟩
      · simp [extrinsicCandidates, hbal, htr, transferData, candidateBase,
          toExtrinsicResponse, createTxHash_remove0X codec hx,
          getPartialFee_remove0X codec node c hx]
      · cases hb : resp.params.any badTransferParam <;>
          simp [callStep, processingPanics, hts, hbal, htr, readTransferParams_spec, hb,
            transferData, callNows]
    · exact ⟨locals.timestamp, [], by simp [extrinsicCandidates, hbal, htr],
        by simp [callStep, processingPanics, hts, hbal, htr, callNows]⟩
  by_cases hut : resp.callModule = "Utility" ∧ resp.callModuleFunction = "batch"
  · refine ⟨locals.timestamp,
      resp.params.flatMap (batchParamData codec node c i (remove0X x) parentHash resp), ?_, ?_⟩
    · simp only [extrinsicCandidates, hbal, false_and, if_false, hut, and_self, if_true,
        batchParamData_eq, List.map_flatMap, List.map_map, List.flatMap_map]
      rw [if_neg (by decide)]
      congr 1
      funext param
      congr 1
      funext arg
      exact toResponse_batchData codec node c hx parentHash i resp arg
    · simp [callStep, processingPanics, hts, hbal, hut, callNows]
  · refine ⟨locals.timestamp, [], by simp [extrinsicCandidates, hbal, hut], ?_⟩
    by_cases hu : resp.callModule = "Utility"
    · simp [callStep, processingPanics, hts, hbal, hu, callNows,
        show resp.callModuleFunction ≠ "batch" from fun h => hut ⟨hu, h⟩]
    · simp [callStep, processingPanics, hts, hbal, hu, callNows]

/-- On an extrinsic that decodes, an iteration is the `switch` on its decoded call. -/
theorem decodeStep_of_decodes {x : String} {resp : ExtrinsicDecodeResponse}
    (h : Decodes codec c x resp) (parentHash : String) (locals : DecodeLocals) (i : Nat) :
    decodeStep codec node c parentHash locals i x =
      callStep codec node c parentHash locals i (remove0X x) resp := by
  obtain ⟨hhex, hdec⟩ := h
  unfold decodeStep
  rcases hd : Hex.decodeString (remove0X x) with ⟨data, _ | err⟩
  · rw [hd] at hdec
    simp only [hd, hdec]
  · rw [hd] at hhex
    cases hhex

/-! ## The whole loop -/

/-- The timestamp of a block is the one its first extrinsic leaves, carried through the
rest. -/
theorem blockTimestamp_cons (t : Int) (b : String × ExtrinsicDecodeResponse)
    (blocks : List (String × ExtrinsicDecodeResponse)) :
    blockTimestamp t (b :: blocks) = blockTimestamp ((callNows b.2).getLast?.getD t) blocks := by
  simp only [blockTimestamp, List.flatMap_cons, List.getLast?_append]
  cases (blocks.flatMap (callNows ·.2)).getLast? <;> rfl

/-- The loop over extrinsics that all decode panics when the type assertions fail on one
of them, and otherwise appends, in order, the candidates the spec expects of each and
leaves the spec's timestamp. -/
theorem decodeLoop_spec (parentHash : String) (blocks : List (String × ExtrinsicDecodeResponse))
    (hdec : ∀ b ∈ blocks, Decodes codec c b.1 b.2) (locals : DecodeLocals) (i : Nat) :
    (blocks.any (processingPanics ·.2) = true →
      ∃ t, decodeLoop codec node c parentHash locals i (blocks.map Prod.fst) = .error (.panic t)) ∧
    (blocks.any (processingPanics ·.2) = false →
      ∃ ps, ps.map toExtrinsicResponse = blockCandidates codec node c parentHash i blocks ∧
        decodeLoop codec node c parentHash locals i (blocks.map Prod.fst) =
          .ok ⟨locals.params ++ ps, blockTimestamp locals.timestamp blocks⟩) := by
  induction blocks generalizing locals i with
  | nil => exact ⟨by simp, fun _ => ⟨[], rfl, by simp [decodeLoop, blockTimestamp]⟩⟩
  | cons b blocks ih =>
    obtain ⟨x, resp⟩ := b
    have hb := hdec (x, resp) (List.mem_cons_self _ _)
    have ih' := ih (fun b hmem => hdec b (List.mem_cons_of_mem _ hmem))
    obtain ⟨t₁, ps₁, hps₁, hstep⟩ := callStep_spec codec node c parentHash locals i hb.1 resp
    have hloop : decodeLoop codec node c parentHash locals i (x :: blocks.map Prod.fst) =
        match callStep codec node c parentHash locals i (remove0X x) resp with
        | .ok locals => decodeLoop codec node c parentHash locals (i + 1) (blocks.map Prod.fst)
        | .error e => .error e := by
      simp only [decodeLoop, decodeStep_of_decodes codec node c hb]
    simp only [List.map_cons, List.any_cons, hloop, hstep]
    cases hp : processingPanics resp
    · obtain ⟨hpanic, hok⟩ :=
        ih' ⟨locals.params ++ ps₁, (callNows resp).getLast?.getD locals.timestamp⟩ (i + 1)
      refine ⟨fun h => by simpa using hpanic h, fun h => ?_⟩
      obtain ⟨ps₂, hps₂, hrest⟩ := hok (by simpa using h)
      exact ⟨ps₁ ++ ps₂, by simp [blockCandidates, hps₁, hps₂],
        by simp [hrest, List.append_assoc, blockTimestamp_cons]⟩
    · exact ⟨fun _ => ⟨t₁, rfl⟩, fun h => by simp at h⟩

/-- On a block whose extrinsics all decode, the decode pass reports the candidates the spec
expects of the block and its timestamp, or no entries when the type assertions panic on
one extrinsic; the other fields of the report are left as they were. -/
theorem parseExtrinsicByDecode_eq (blocks : List (String × ExtrinsicDecodeResponse))
    (blockResp : BlockResponse) (hdec : ∀ b ∈ blocks, Decodes codec c b.1 b.2) :
    ∃ t, parseExtrinsicByDecode codec node c (blocks.map Prod.fst) blockResp =
      .ok { blockResp with
        timestamp := if blocks.any (processingPanics ·.2) then t else blockTimestamp 0 blocks
        extrinsic := if blocks.any (processingPanics ·.2) then []
          else blockCandidates codec node c blockResp.parentHash 0 blocks } := by
  obtain ⟨hpanic, hok⟩ := decodeLoop_spec codec node c blockResp.parentHash blocks hdec ⟨[], 0⟩ 0
  cases hp : blocks.any (processingPanics ·.2)
  · obtain ⟨ps, hps, hloop⟩ := hok hp
    exact ⟨0, by simp [parseExtrinsicByDecode, hloop, hps]⟩
  · obtain ⟨t, hloop⟩ := hpanic hp
    exact ⟨t, by simp [parseExtrinsicByDecode, hloop]⟩

/-! ## Its errors -/

/-- The texts that open the errors of the decode pass, one for each step of an iteration
that can fail: the hex decoding, building the decoder, decoding, an empty answer, and
reading the answer. -/
def decodeErrorPrefixes : List String :=
  ["hex.decode extrinsic error: ", "new extrinsic decode error: ", "decode extrinsic error: ",
    "unknown extrinsic decode response", "json unmarshal extrinsic decode error: "]

/-- The client's own handling of a decoded call never returns an error; it can only panic. -/
theorem callStep_ne_error (parentHash : String) (locals : DecodeLocals) (i : Nat)
    (x : String) (resp : ExtrinsicDecodeResponse) (msg : String) :
    callStep codec node c parentHash locals i x resp ≠ .error (.error msg) := by
  unfold callStep
  repeat' split
  all_goals simp

/-- Every error an iteration returns names the step that failed. -/
theorem decodeStep_error_names_step {parentHash : String} {locals : DecodeLocals} {i : Nat}
    {x msg : String} (h : decodeStep codec node c parentHash locals i x = .error (.error msg)) :
    hasPrefixIn decodeErrorPrefixes msg = true := by
  unfold decodeStep at h
  dsimp only at h
  split at h
  · cases h
    exact hasPrefixIn_append (by decide) _
  · split at h
    · cases h
      exact hasPrefixIn_append (by decide) _
    · cases h
      exact hasPrefixIn_append (by decide) _
    · cases h
      decide
    · cases h
      exact hasPrefixIn_append (by decide) _
    · cases h
    · exact absurd h (callStep_ne_error codec node c _ _ _ _ _ _)

/-- Every error the loop returns names the step of an iteration that failed. -/
theorem decodeLoop_error_names_step {parentHash msg : String} :
    ∀ {locals : DecodeLocals} {i : Nat} {extrinsics : List String},
      decodeLoop codec node c parentHash locals i extrinsics = .error (.error msg) →
      hasPrefixIn decodeErrorPrefixes msg = true
  | _, _, [], h => by cases h
  | locals, i, x :: extrinsics, h => by
    simp only [decodeLoop] at h
    split at h
    · exact decodeLoop_error_names_step h
    · cases h
      exact decodeStep_error_names_step codec node c ‹_›

/-- Every error the decode pass returns names the step of an iteration that failed. -/
theorem parseExtrinsicByDecode_error_names_step {extrinsics : List String}
    {blockResp : BlockResponse} {msg : String}
    (h : parseExtrinsicByDecode codec node c extrinsics blockResp = .error msg) :
    hasPrefixIn decodeErrorPrefixes msg = true := by
  unfold parseExtrinsicByDecode at h
  split at h
  · cases h
  · cases h
    exact decodeLoop_error_names_step codec node c ‹_›
  · cases h

/-! ## What the reported entries carry -/

/-- Entry `e` carries what every candidate of extrinsic `i`, hex `x`, decoded as `resp`
carries: the index `i`, the transaction id of `x`, and the call's signature, nonce, era
and sender. -/
structure CarriesCall (e : ExtrinsicResponse) (i : Nat) (x : String)
    (resp : ExtrinsicDecodeResponse) : Prop where
  index : e.extrinsicIndex = i
  txid : e.txid = createTxHash codec x
  signature : e.signature = resp.signature
  nonce : e.nonce = resp.nonce
  era : e.era = resp.era
  sender : e.fromAddress = orEmpty (codec.encodeByPubHex resp.accountId c.prefixBytes)

/-- Every candidate of an extrinsic carries the extrinsic's call, and is either the one
entry of a Balances transfer, with the recipient and amount of its last `dest` and
`value`, or an entry of a `Utility.batch`, with the recipient of one of its batched
`dest` arguments. -/
theorem mem_extrinsicCandidates {parentHash : String} {i : Nat} {x : String}
    {resp : ExtrinsicDecodeResponse} {e : ExtrinsicResponse}
    (he : e ∈ extrinsicCandidates codec node c parentHash i x resp) :
    CarriesCall codec c e i x resp ∧
      ((resp.callModule = "Balances" ∧
        (resp.callModuleFunction = "transfer" ∨ resp.callModuleFunction = "transfer_keep_alive") ∧
        e.toAddress = (lastString "dest" resp.params).elim ""
          (fun dest => orEmpty (codec.encodeByPubHex dest c.prefixBytes)) ∧
        e.amount = (lastString "value" resp.params).getD "") ∨
      (resp.callModule = "Utility" ∧ resp.callModuleFunction = "batch" ∧
        ∃ arg ∈ resp.params.flatMap (callsDests codec),
          e.toAddress = orEmpty (codec.encodeByPubHex arg.valueRaw c.prefixBytes))) := by
  unfold extrinsicCandidates at he
  split_ifs at he with htr hbatch
  · obtain rfl := List.mem_singleton.1 he
    exact ⟨⟨rfl, rfl, rfl, rfl, rfl, rfl⟩, .inl ⟨htr.1, htr.2, rfl, rfl⟩⟩
  · obtain ⟨arg, harg, rfl⟩ := List.mem_map.1 he
    exact ⟨⟨rfl, rfl, rfl, rfl, rfl, rfl⟩, .inr ⟨hbatch.1, hbatch.2, arg, harg, rfl⟩⟩
  · cases he

/-- Every candidate of an extrinsic is given the fee of that extrinsic at the parent hash. -/
theorem mem_extrinsicCandidates_fee {parentHash : String} {i : Nat} {x : String}
    {resp : ExtrinsicDecodeResponse} {e : ExtrinsicResponse}
    (he : e ∈ extrinsicCandidates codec node c parentHash i x resp) :
    e.fee = orEmpty (getPartialFee codec node c x parentHash) := by
  unfold extrinsicCandidates at he
  split_ifs at he
  · obtain rfl := List.mem_singleton.1 he
    rfl
  · obtain ⟨arg, -, rfl⟩ := List.mem_map.1 he
    rfl
  · cases he

/-- An entry of the block's candidates comes from the extrinsic at its own index. -/
theorem mem_blockCandidates {parentHash : String} {e : ExtrinsicResponse} :
    ∀ {i : Nat} {blocks : List (String × ExtrinsicDecodeResponse)},
      e ∈ blockCandidates codec node c parentHash i blocks →
      ∃ j x resp, blocks[j]? = some (x, resp) ∧ e.extrinsicIndex = i + j ∧
        e ∈ extrinsicCandidates codec node c parentHash (i + j) x resp
  | _, [], he => by cases he
  | i, (x, resp) :: blocks, he => by
    rcases List.mem_append.1 he with he | he
    · exact ⟨0, x, resp, by simp, (mem_extrinsicCandidates codec node c he).1.index, he⟩
    · obtain ⟨j, x', resp', hj, hidx, he'⟩ := mem_blockCandidates he
      exact ⟨j + 1, x', resp', by simpa using hj, by omega,
        by rwa [← Nat.add_assoc, Nat.add_right_comm]⟩

/-- The block's candidates are in non-decreasing order of extrinsic index. -/
theorem blockCandidates_sorted (parentHash : String) :
    ∀ (i : Nat) (blocks : List (String × ExtrinsicDecodeResponse)),
      (blockCandidates codec node c parentHash i blocks).Pairwise
        (fun e e' => e.extrinsicIndex ≤ e'.extrinsicIndex)
  | _, [] => .nil
  | i, (x, resp) :: blocks => by
    refine List.pairwise_append.2 ⟨?_, blockCandidates_sorted parentHash (i + 1) blocks, ?_⟩
    · refine List.pairwise_of_forall_mem_list fun e he e' he' => ?_
      rw [(mem_extrinsicCandidates codec node c he).1.index,
        (mem_extrinsicCandidates codec node c he').1.index]
    · intro e he e' he'
      obtain ⟨j, _, _, _, hidx, _⟩ := mem_blockCandidates codec node c he'
      rw [(mem_extrinsicCandidates codec node c he).1.index, hidx]
      omega

/-! ## The decode pass, as the spec states it -/

/-- The decode pass over a block whose extrinsics all decode reports the spec's candidates
of each extrinsic in turn, or no entries when the client's type assertions panic on one
of them. Every entry carries the call of the extrinsic at its own index; so the entries
are in order of index, every index is a position of the block, and entries of one
extrinsic share signature, nonce and transaction id. -/
theorem parseExtrinsicByDecode_candidates (blocks : List (String × ExtrinsicDecodeResponse))
    (blockResp : BlockResponse) (hdec : ∀ b ∈ blocks, Decodes codec c b.1 b.2) :
    ∃ r, parseExtrinsicByDecode codec node c (blocks.map Prod.fst) blockResp = .ok r ∧
      r.extrinsic = (if blocks.any (processingPanics ·.2) then []
        else blockCandidates codec node c blockResp.parentHash 0 blocks) ∧
      (∀ e ∈ r.extrinsic, ∃ x resp, blocks[e.extrinsicIndex]? = some (x, resp) ∧
        CarriesCall codec c e e.extrinsicIndex x resp) ∧
      r.extrinsic.Pairwise (fun e e' => e.extrinsicIndex ≤ e'.extrinsicIndex) ∧
      (∀ e ∈ r.extrinsic, e.extrinsicIndex < blocks.length) ∧
      (∀ e ∈ r.extrinsic, ∀ e' ∈ r.extrinsic, e.extrinsicIndex = e'.extrinsicIndex →
        e.signature = e'.signature ∧ e.nonce = e'.nonce ∧ e.txid = e'.txid) := by
  obtain ⟨t, hparse⟩ := parseExtrinsicByDecode_eq codec node c blocks blockResp hdec
  refine ⟨_, hparse, rfl, ?_⟩
  -- Each entry comes from the extrinsic at its own index, which fixes its shared fields.
  have hcarry : ∀ e ∈ (if blocks.any (processingPanics ·.2) then []
      else blockCandidates codec node c blockResp.parentHash 0 blocks),
      ∃ x resp, blocks[e.extrinsicIndex]? = some (x, resp) ∧
        CarriesCall codec c e e.extrinsicIndex x resp := by
    intro e he
    split_ifs at he
    · cases he
    · obtain ⟨j, x, resp, hj, hidx, he'⟩ := mem_blockCandidates codec node c he
      rw [Nat.zero_add] at hidx he'
      exact ⟨x, resp, hidx ▸ hj, hidx ▸ (mem_extrinsicCandidates codec node c he').1⟩
  refine ⟨hcarry, ?_, fun e he => ?_, fun e he e' he' hidx => ?_⟩
  · split_ifs
    · exact .nil
    · exact blockCandidates_sorted codec node c _ 0 blocks
  · obtain ⟨_, _, hj, -⟩ := hcarry e he
    exact (List.getElem?_eq_some_iff.1 hj).1
  · obtain ⟨x, resp, hj, hc⟩ := hcarry e he
    obtain ⟨x', resp', hj', hc'⟩ := hcarry e' he'
    rw [hidx, hj'] at hj
    obtain ⟨rfl, rfl⟩ := Prod.mk.inj (Option.some.inj hj)
    exact ⟨hc.signature.trans hc'.signature.symm, hc.nonce.trans hc'.nonce.symm,
      hc.txid.trans hc'.txid.symm⟩

/-- `parseExtrinsicByDecode_candidates` in the batch scenario: Alice's transfer to Bob
gives one entry at index 0, and her batch of two transfers two entries at index 1. -/
theorem parseExtrinsicByDecode_candidates_sample :
    let node := sampleNode sampleRuntime (some (), none) none .null
    let blocks := [("01", sampleTransfer), ("02", sampleBatch)]
    (∀ b ∈ blocks, Decodes sampleBatchCodec sampleClient b.1 b.2) ∧
    ((parseExtrinsicByDecode sampleBatchCodec node sampleClient (blocks.map Prod.fst)
        default).toOption.map fun r => r.extrinsic.map (·.extrinsicIndex)) = some [0, 1, 1] ∧
    ∃ r, parseExtrinsicByDecode sampleBatchCodec node sampleClient (blocks.map Prod.fst)
        default = .ok r ∧
      r.extrinsic = (if blocks.any (processingPanics ·.2) then []
        else blockCandidates sampleBatchCodec node sampleClient (default : BlockResponse).parentHash
          0 blocks) ∧
      (∀ e ∈ r.extrinsic, ∃ x resp, blocks[e.extrinsicIndex]? = some (x, resp) ∧
        CarriesCall sampleBatchCodec sampleClient e e.extrinsicIndex x resp) ∧
      r.extrinsic.Pairwise (fun e e' => e.extrinsicIndex ≤ e'.extrinsicIndex) ∧
      (∀ e ∈ r.extrinsic, e.extrinsicIndex < blocks.length) ∧
      (∀ e ∈ r.extrinsic, ∀ e' ∈ r.extrinsic, e.extrinsicIndex = e'.extrinsicIndex →
        e.signature = e'.signature ∧ e.nonce = e'.nonce ∧ e.txid = e'.txid) := by
  intro node blocks
  have hdec : ∀ b ∈ blocks, Decodes sampleBatchCodec sampleClient b.1 b.2 := by
    simp only [blocks, List.forall_mem_cons]
    exact ⟨⟨rfl, rfl⟩, ⟨rfl, rfl⟩, fun _ h => nomatch h⟩
  exact ⟨hdec, by decide, parseExtrinsicByDecode_candidates _ _ _ _ _ hdec⟩

/-- An iteration that goes on has decoded its extrinsic. -/
theorem decodeStep_ok_inv {parentHash : String} {locals l : DecodeLocals} {i : Nat} {x : String}
    (h : decodeStep codec node c parentHash locals i x = .ok l) :
    ∃ resp, Decodes codec c x resp ∧
      callStep codec node c parentHash locals i (remove0X x) resp = .ok l := by
  unfold decodeStep at h
  rcases hd : Hex.decodeString (remove0X x) with ⟨data, _ | err⟩
  · simp only [hd] at h
    cases hx : codec.decodeExtrinsic c.meta data <;> simp only [hx] at h <;> try cases h
    exact ⟨_, ⟨by rw [hd], by rw [hd]; exact hx⟩, h⟩
  · simp only [hd] at h
    cases h

/-- A loop that completes has decoded every extrinsic, and no type assertion panicked. -/
theorem decodeLoop_ok_inv {parentHash : String} :
    ∀ {locals l : DecodeLocals} {i : Nat} {extrinsics : List String},
      decodeLoop codec node c parentHash locals i extrinsics = .ok l →
      ∃ blocks : List (String × ExtrinsicDecodeResponse), blocks.map Prod.fst = extrinsics ∧
        (∀ b ∈ blocks, Decodes codec c b.1 b.2) ∧ blocks.any (processingPanics ·.2) = false
  | _, _, _, [], _ => ⟨[], rfl, by simp, rfl⟩
  | locals, l, i, x :: extrinsics, h => by
    simp only [decodeLoop] at h
    split at h
    · next l₁ hstep =>
      obtain ⟨resp, hx, hcall⟩ := decodeStep_ok_inv codec node c hstep
      obtain ⟨blocks, hmap, hdec, hp⟩ := decodeLoop_ok_inv h
      obtain ⟨t, ps, -, hspec⟩ := callStep_spec codec node c parentHash locals i hx.1 resp
      have hpanic : processingPanics resp = false := by
        cases hq : processingPanics resp
        · rfl
        · rw [hspec, hq, if_pos rfl] at hcall
          cases hcall
      refine ⟨(x, resp) :: blocks, by simp [hmap], ?_, by simp [hpanic, hp]⟩
      intro b hb
      rcases List.mem_cons.1 hb with rfl | hb
      · exact hx
      · exact hdec b hb
    · cases h

/-- A decode pass that completes either reports no entries, after a recovered panic, or
has decoded every extrinsic of the block and reports the spec's candidates. -/
theorem parseExtrinsicByDecode_ok_inv {extrinsics : List String} {blockResp r : BlockResponse}
    (h : parseExtrinsicByDecode codec node c extrinsics blockResp = .ok r) :
    r.extrinsic = [] ∨ ∃ blocks : List (String × ExtrinsicDecodeResponse),
      blocks.map Prod.fst = extrinsics ∧ (∀ b ∈ blocks, Decodes codec c b.1 b.2) ∧
      r.extrinsic = blockCandidates codec node c blockResp.parentHash 0 blocks := by
  unfold parseExtrinsicByDecode at h
  split at h
  · next locals hloop =>
    obtain ⟨blocks, rfl, hdec, hp⟩ := decodeLoop_ok_inv codec node c hloop
    obtain ⟨ps, hps, hspec⟩ :=
      (decodeLoop_spec codec node c blockResp.parentHash blocks hdec ⟨[], 0⟩ 0).2 hp
    rw [hspec] at hloop
    cases hloop
    cases h
    exact .inr ⟨blocks, rfl, hdec, by simpa using hps⟩
  · cases h
  · cases h
    exact .inl rfl

/-- The decode pass leaves the status and the type of every entry it reports empty: only
the correlator sets them. -/
theorem parseExtrinsicByDecode_unresolved {extrinsics : List String}
    {blockResp r : BlockResponse}
    (h : parseExtrinsicByDecode codec node c extrinsics blockResp = .ok r) :
    ∀ e ∈ r.extrinsic, e.status = "" ∧ e.type = "" := by
  unfold parseExtrinsicByDecode at h
  split at h <;> cases h
  · simp [toExtrinsicResponse]
  · simp

/-- An entry of a completed decode pass is a candidate of the extrinsic at its own index,
and that extrinsic decoded. -/
theorem mem_parseExtrinsicByDecode {extrinsics : List String} {blockResp r : BlockResponse}
    (h : parseExtrinsicByDecode codec node c extrinsics blockResp = .ok r)
    {e : ExtrinsicResponse} (he : e ∈ r.extrinsic) :
    ∃ x resp, extrinsics[e.extrinsicIndex]? = some x ∧ Decodes codec c x resp ∧
      e ∈ extrinsicCandidates codec node c blockResp.parentHash e.extrinsicIndex x resp := by
  rcases parseExtrinsicByDecode_ok_inv codec node c h with hnil | ⟨blocks, rfl, hdec, hr⟩
  · rw [hnil] at he
    cases he
  · rw [hr] at he
    obtain ⟨j, x, resp, hj, hidx, he'⟩ := mem_blockCandidates codec node c he
    rw [Nat.zero_add] at hidx he'
    exact ⟨x, resp, by simp [hidx, hj], hdec _ (List.getElem?_mem hj), by rwa [hidx]⟩

/-- Every entry of a completed decode pass has the id of the extrinsic at its own index,
and the fee that extrinsic is given at the report's parent hash. -/
theorem parseExtrinsicByDecode_entry_fee {extrinsics : List String} {blockResp r : BlockResponse}
    (h : parseExtrinsicByDecode codec node c extrinsics blockResp = .ok r) :
    ∀ e ∈ r.extrinsic, ∃ x, extrinsics[e.extrinsicIndex]? = some x ∧
      e.txid = createTxHash codec x ∧
      e.fee = orEmpty (getPartialFee codec node c x blockResp.parentHash) := by
  intro e he
  obtain ⟨x, resp, hx, -, he'⟩ := mem_parseExtrinsicByDecode codec node c h he
  exact ⟨x, hx, (mem_extrinsicCandidates codec node c he').1.txid,
    mem_extrinsicCandidates_fee codec node c he'⟩

/-- The decode pass never reads the event storage: a node that answers
`state_getStorageAt` in any other way gives the same pass. -/
theorem parseExtrinsicByDecode_stateGetStorageAt (f : Conn → String → String → Except String Value)
    (extrinsics : List String) (blockResp : BlockResponse) :
    parseExtrinsicByDecode codec { node with stateGetStorageAt := f } c extrinsics blockResp =
      parseExtrinsicByDecode codec node c extrinsics blockResp := by
  have hloop : ∀ locals i, decodeLoop codec { node with stateGetStorageAt := f } c
      blockResp.parentHash locals i extrinsics =
      decodeLoop codec node c blockResp.parentHash locals i extrinsics := by
    induction extrinsics with
    | nil => intro _ _; rfl
    | cons x extrinsics ih =>
      intro locals i
      have hstep : decodeStep codec { node with stateGetStorageAt := f } c blockResp.parentHash
          locals i x = decodeStep codec node c blockResp.parentHash locals i x := rfl
      simp only [decodeLoop, hstep, ih]
  simp only [parseExtrinsicByDecode, hloop]

/-- The decode pass leaves the report's height and hashes as they were. -/
theorem parseExtrinsicByDecode_header {extrinsics : List String} {blockResp r : BlockResponse}
    (h : parseExtrinsicByDecode codec node c extrinsics blockResp = .ok r) :
    r.height = blockResp.height ∧ r.parentHash = blockResp.parentHash ∧
      r.blockHash = blockResp.blockHash := by
  unfold parseExtrinsicByDecode at h
  split at h <;> cases h <;> exact ⟨rfl, rfl, rfl⟩

/-- Every entry of a completed decode pass comes from an extrinsic of the block that
decoded. The entry of a Balances transfer carries the amount of its last `value` and the
address of its last `dest`, empty when it has none or when the address does not encode;
an entry of a batch carries the address of one of its batched `dest` arguments, empty
when that does not encode. -/
theorem parseExtrinsicByDecode_entry_fields {extrinsics : List String}
    {blockResp r : BlockResponse}
    (h : parseExtrinsicByDecode codec node c extrinsics blockResp = .ok r) :
    ∀ e ∈ r.extrinsic, ∃ x resp, extrinsics[e.extrinsicIndex]? = some x ∧
      Decodes codec c x resp ∧
      ((resp.callModule = "Balances" ∧
        (resp.callModuleFunction = "transfer" ∨ resp.callModuleFunction = "transfer_keep_alive") ∧
        e.toAddress = (lastString "dest" resp.params).elim ""
          (fun dest => orEmpty (codec.encodeByPubHex dest c.prefixBytes)) ∧
        e.amount = (lastString "value" resp.params).getD "") ∨
      (resp.callModule = "Utility" ∧ resp.callModuleFunction = "batch" ∧
        ∃ arg ∈ resp.params.flatMap (callsDests codec),
          e.toAddress = orEmpty (codec.encodeByPubHex arg.valueRaw c.prefixBytes))) := by
  intro e he
  obtain ⟨x, resp, hx, hdec, he'⟩ := mem_parseExtrinsicByDecode codec node c h he
  exact ⟨x, resp, hx, hdec, (mem_extrinsicCandidates codec node c he').2⟩

/-- `parseExtrinsicByDecode_entry_fields` in the batch scenario: Alice's transfer to Bob
and her batch of two such transfers. -/
theorem parseExtrinsicByDecode_entry_fields_sample :
    let node := sampleNode sampleRuntime (some (), none) none .null
    ∃ r, parseExtrinsicByDecode sampleBatchCodec node sampleClient ["01", "02"] default = .ok r ∧
      ∀ e ∈ r.extrinsic, ∃ x resp, ["01", "02"][e.extrinsicIndex]? = some x ∧
        Decodes sampleBatchCodec sampleClient x resp ∧
        ((resp.callModule = "Balances" ∧
          (resp.callModuleFunction = "transfer" ∨ resp.callModuleFunction = "transfer_keep_alive") ∧
          e.toAddress = (lastString "dest" resp.params).elim ""
            (fun dest => orEmpty (sampleBatchCodec.encodeByPubHex dest sampleClient.prefixBytes)) ∧
          e.amount = (lastString "value" resp.params).getD "") ∨
        (resp.callModule = "Utility" ∧ resp.callModuleFunction = "batch" ∧
          ∃ arg ∈ resp.params.flatMap (callsDests sampleBatchCodec),
            e.toAddress = orEmpty (sampleBatchCodec.encodeByPubHex arg.valueRaw
              sampleClient.prefixBytes))) := by
  intro node
  exact ⟨_, rfl, parseExtrinsicByDecode_entry_fields _ _ _ rfl⟩

/-- **Counterexample** to every recognised transfer carrying a recipient and its amount:
Alice's transfer of 5 to a `dest` that does not encode is reported with no recipient, and
her batch of two transfers of 5 (`05`) to Bob as two entries to Bob with no amount. -/
theorem parseExtrinsicByDecode_empty_fields :
    ((parseExtrinsicByDecode
        (sampleCodec (fun _ => .decoded (sampleCall "Balances" "transfer"
          [⟨"dest", .string ""⟩, ⟨"value", .string "5"⟩])) [] sampleEvents)
        (sampleNode sampleRuntime (some (), none) none .null) sampleClient ["01"]
        default).toOption.map fun r => r.extrinsic.map fun e => (e.toAddress, e.amount)) =
      some [("", "5")] ∧
    (sampleBatchedTransfer.callArgs.filter (·.name = "value")).map (·.valueRaw) = ["05"] ∧
    ((parseExtrinsicByDecode
        (sampleCodec (fun _ => .decoded (sampleCall "Utility" "batch" [⟨"calls", .array []⟩]))
          [sampleBatchedTransfer, sampleBatchedTransfer] sampleEvents)
        (sampleNode sampleRuntime (some (), none) none .null) sampleClient ["01"]
        default).toOption.map fun r => r.extrinsic.map fun e => (e.toAddress, e.amount)) =
      some [(Hex.encodeToString sampleBob.bytes, ""), (Hex.encodeToString sampleBob.bytes, "")] := by
  decide

end Client

end Bifrost
