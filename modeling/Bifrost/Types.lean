import Bifrost.Go

/-!
# The client's data model

The records the client reads and writes, as its `models` package and the decoders hand
them over, and the services it calls without implementing them: the node's JSON-RPC
methods (`Node`) and the decoders, address codec and hash of other packages (`Codec`).
Only the fields that some modelled function reads or writes are kept.

The metadata type and the connection type stay abstract (`Md`, `Conn`): the client only
stores them and passes them on.
-/

namespace Bifrost

/-! ## Decoded extrinsics -/

/-- A JSON value as `encoding/json` stores it in an `interface{}`. The client reads a JSON
number only through `int64(v.(float64))`, so a number is kept as that integer. -/
inductive Value where
  | null
  | bool (b : Bool)
  | number (n : Int)
  | string (s : String)
  | array (items : List Value)
  | object (fields : List (String × Value))
  deriving Repr, Inhabited

namespace Value

/-- The string a `v.(string)` assertion takes out, `none` where it would panic. -/
def asString? : Value → Option String
  | .string s => some s
  | _ => none

/-- The number a `v.(float64)` assertion takes out, `none` where it would panic. -/
def asNumber? : Value → Option Int
  | .number n => some n
  | _ => none

/-- Whether a `v.(float64)` assertion succeeds. -/
def isNumber : Value → Bool
  | .number _ => true
  | _ => false

end Value

/-- `m[key]` on a `map[string]interface{}` decoded from a JSON object, where a repeated key
keeps its last value; `none` is an absent key. -/
def mapIndex (fields : List (String × Value)) (key : String) : Option Value :=
  (fields.filter fun kv => kv.1 == key).getLast?.map (·.2)

/-- One parameter of a decoded call, `models.ExtrinsicDecodeParam`. -/
structure ExtrinsicDecodeParam where
  /-- The parameter's name, such as `dest`, `value`, `calls` or `now`. -/
  name : String
  /-- The parameter's value, as the JSON round trip leaves it. -/
  value : Value
  deriving Repr, Inhabited

/-- A decoded extrinsic, `models.ExtrinsicDecodeResponse`. -/
structure ExtrinsicDecodeResponse where
  /-- The signer's public key, in hex. -/
  accountId : String
  callModule : String
  callModuleFunction : String
  era : String
  nonce : Int
  signature : String
  /-- The extrinsic's length in bytes. -/
  length : Int
  params : List ExtrinsicDecodeParam
  deriving Repr, Inhabited

/-- One argument of a batched call, an element of `models.UtilityParamsValue`'s
`callArgs`: its name and its raw hex value. -/
structure UtilityCallArg where
  name : String
  valueRaw : String
  deriving DecidableEq, Repr

/-- One call of a `Utility.batch`, `models.UtilityParamsValue`. -/
structure UtilityParamsValue where
  callModule : String
  callFunction : String
  callArgs : List UtilityCallArg
  deriving DecidableEq, Repr

/-- What the `expand` package makes of one extrinsic's bytes. `NewExtrinsicDecoder`,
`ProcessExtrinsicDecoder`, `json.Marshal` of the decoded value (which may give no bytes)
and `json.Unmarshal` into a response each end the decoding in their own way, and any of
them may panic. -/
inductive ExtrinsicDecoding where
  | newDecoderError (err : String)
  | processError (err : String)
  | emptyJson
  | unmarshalError (err : String)
  | panicked
  | decoded (resp : ExtrinsicDecodeResponse)
  deriving Repr

/-! ## The block report -/

/-- One transfer entry of a block report, `models.ExtrinsicResponse`. -/
structure ExtrinsicResponse where
  /-- The entry's kind; the correlator writes `transfer`. -/
  type : String
  /-- `success` or `fail` once the correlator has run; empty before. -/
  status : String
  /-- The transaction id, a hash of the extrinsic's bytes. -/
  txid : String
  fromAddress : String
  toAddress : String
  amount : String
  fee : String
  signature : String
  nonce : Int
  era : String
  /-- The extrinsic's position in the block. -/
  extrinsicIndex : Nat
  extrinsicLength : Int
  deriving DecidableEq, Repr, Inhabited

/-- A block report, `models.BlockResponse`. -/
structure BlockResponse where
  height : Int
  parentHash : String
  blockHash : String
  timestamp : Int
  /-- The block's transfer entries. -/
  extrinsic : List ExtrinsicResponse
  deriving DecidableEq, Repr, Inhabited

/-- A block header, as `chain_getBlock` returns it: the height in hex and the parent's
hash. -/
structure Header where
  number : String
  parentHash : String
  deriving DecidableEq, Repr

/-- A block: its header and its extrinsics in hex. -/
structure Block where
  header : Header
  extrinsics : List String
  deriving DecidableEq, Repr

/-- `models.SignedBlock`, the result of `chain_getBlock`. -/
structure SignedBlock where
  block : Block
  deriving DecidableEq, Repr

/-- The candidate the decode pass builds for one transfer, `parseBlockExtrinsicParams`. -/
structure ParseBlockExtrinsicParams where
  «from» : String
  «to» : String
  sig : String
  era : String
  txid : String
  nonce : Int
  extrinsicIdx : Nat
  length : Int
  amount : String
  fee : String
  deriving DecidableEq, Repr, Inhabited

/-! ## Events -/

/-- The phase of an event record: during an extrinsic, at finalization, or at
initialization. -/
inductive Phase where
  | applyExtrinsic (index : UInt32)
  | finalization
  | initialization
  deriving DecidableEq, Repr

/-- A 32-byte account id, `types.AccountID`. -/
structure AccountID where
  bytes : List UInt8
  length_eq : bytes.length = 32
  deriving DecidableEq

/-- A `Balances.Transfer` event: its phase, sender, recipient and the amount moved (a
`U128`). -/
structure EventBalancesTransfer where
  phase : Phase
  «from» : AccountID
  «to» : AccountID
  value : Fin (2 ^ 128)
  deriving DecidableEq

/-- A `System.ExtrinsicFailed` event; only its phase is read. -/
structure EventSystemExtrinsicFailed where
  phase : Phase
  deriving DecidableEq

/-- The decoded `System.Events` of a block, as `expand.DecodeEventRecords` returns them and
`GetBalancesTransfer` and `GetSystemExtrinsicFailed` read them back. -/
structure EventRecords where
  balancesTransfer : List EventBalancesTransfer
  systemExtrinsicFailed : List EventSystemExtrinsicFailed
  deriving DecidableEq

/-- A transfer read off the event log, `models.EventResult`. -/
structure EventResult where
  extrinsicIdx : Nat
  «from» : String
  «to» : String
  amount : String
  deriving DecidableEq, Repr

/-! ## Accounts -/

/-- The balances of an account, the `data` of `types.AccountInfo` (all `U128`). -/
structure AccountData where
  free : Fin (2 ^ 128)
  reserved : Fin (2 ^ 128)
  miscFrozen : Fin (2 ^ 128)
  freeFrozen : Fin (2 ^ 128)
  deriving DecidableEq, Repr

/-- `types.AccountInfo`, the `System.Account` entry of older runtimes. -/
structure AccountInfo where
  nonce : UInt32
  refcount : UInt32
  data : AccountData
  deriving DecidableEq, Repr

/-- `expand.AccountInfoWithProviders`, the `System.Account` entry of newer runtimes, which
count consumers and providers in place of one reference count. -/
structure AccountInfoWithProviders where
  nonce : UInt32
  consumers : UInt32
  providers : UInt32
  data : AccountData
  deriving DecidableEq, Repr

/-! ## The client and the services it calls -/

/-- What `State.GetRuntimeVersionLatest` reports of the runtime. -/
structure RuntimeVersion where
  specName : String
  specVersion : UInt32
  transactionVersion : UInt32
  deriving DecidableEq, Repr

/-- The client state, `Client`. `prefixBytes` is the SS58 address prefix (`prefix` in the
source). -/
structure Client (Conn Md : Type) where
  /-- The RPC connection. -/
  c : Conn
  /-- The chain metadata; `none` is a nil pointer. -/
  meta : Option Md
  prefixBytes : List UInt8
  chainName : String
  specVersion : Int
  transactionVersion : Int
  genesisHash : String
  url : String

/-- The node's JSON-RPC methods the client calls. Each goes through the connection it is
given, so a reconnect may change the answers. -/
structure Node (Conn Md : Type) where
  /-- `gsrc.NewSubstrateAPI(url)`. -/
  newSubstrateAPI : String → Except String Conn
  /-- `gsClient.Connect(url)` followed by `rpc.NewRPC`, as `reConnectWs` does. -/
  connect : String → Except String Conn
  /-- `State.GetRuntimeVersionLatest`. -/
  getRuntimeVersionLatest : Conn → Except String RuntimeVersion
  /-- `State.GetMetadataLatest`: the metadata pointer and the error, which Go returns
  together (a failed decode returns a pointer with its error). -/
  getMetadataLatest : Conn → Option Md × Option String
  /-- `Chain.GetBlockHash` at a height. -/
  getBlockHash : Conn → UInt64 → Except String (List UInt8)
  /-- `chain_getBlock` at a block hash; `none` is a JSON `null`. -/
  chainGetBlock : Conn → String → Except String (Option SignedBlock)
  /-- `state_getStorageAt` at a storage key and a block hash, decoded into `interface{}`. -/
  stateGetStorageAt : Conn → String → String → Except String Value
  /-- `payment_queryInfo` for an extrinsic at a block hash, decoded into
  `map[string]interface{}` (a JSON `null` gives the empty map). -/
  paymentQueryInfo : Conn → String → String → Except String (List (String × Value))
  /-- `payment_queryFeeDetails` for an extrinsic at a block hash, decoded the same way. -/
  paymentQueryFeeDetails : Conn → String → String → Except String (List (String × Value))
  /-- `State.GetStorageLatest` at a storage key, decoded as a `types.AccountInfo`; `none` is
  an empty entry (`ok` false). Decoding may panic. -/
  getStorageLatestAccountInfo : Conn → String → Except Exit (Option AccountInfo)
  /-- The same, decoded as an `expand.AccountInfoWithProviders`. -/
  getStorageLatestWithProviders : Conn → String → Except Exit (Option AccountInfoWithProviders)

/-- The chain table of the repository's `base` package, which the source files use but do
not contain: the SS58 prefix `getChainPrefix` returns for a chain name, which `new` keeps
whatever error comes with it. -/
structure BasicTypes where
  getChainPrefix : String → List UInt8

/-- The decoders, codecs and hash of other packages that the client calls. -/
structure Codec (Md : Type) where
  /-- `base.InitBasicTypesByHexData`. -/
  initBasicTypesByHexData : Except String BasicTypes
  /-- `ss58.EncodeByPubHex`: the address of a hex public key under a prefix. -/
  encodeByPubHex : String → List UInt8 → Except String String
  /-- `ss58.DecodeToPub`: the public key of an address. -/
  decodeToPub : String → Except String (List UInt8)
  /-- `blake2b.Sum256`. -/
  sum256 : List UInt8 → List UInt8
  /-- The `expand` extrinsic decoder under the given metadata. -/
  decodeExtrinsic : Option Md → List UInt8 → ExtrinsicDecoding
  /-- `json.Marshal` of a batch's `calls` list followed by `json.Unmarshal` into
  `[]models.UtilityParamsValue`. -/
  unmarshalCalls : List Value → Except String (List UtilityParamsValue)
  /-- `types.CreateStorageKey(meta, module, function, arg, nil)` rendered by `Hex()`; it
  may panic, for instance on a nil metadata pointer. -/
  createStorageKey : Option Md → String → String → Option (List UInt8) → Except Exit String
  /-- `expand.DecodeEventRecords(meta, hex, chainName)`, which may fail or panic. -/
  decodeEventRecords : Option Md → String → String → Except Exit EventRecords
  /-- How `fmt` prints a JSON value with `%v`. -/
  formatValue : Value → String

/-- The value a Go call that failed leaves in the variable it assigns, when the caller
discards the error (`v, _ := f()`): the zero value, here the empty string. -/
def orEmpty : Except String String → String
  | .ok s => s
  | .error _ => ""

@[simp] theorem orEmpty_ok (s : String) : orEmpty (.ok s) = s := rfl

@[simp] theorem orEmpty_error (e : String) : orEmpty (.error e) = "" := rfl

/-! ## A sample chain

The witnesses run on a small chain: one connection and one metadata (`Unit`), addresses
that are their public keys in hex, and a one-byte hash. -/

/-- The sample chain's runtime report: spec version 9, transaction version 5. -/
def sampleRuntime : RuntimeVersion := ⟨"polkadot", 9, 5⟩

/-- A node of the sample chain: it reports the runtime `v`, answers the metadata request
with `meta`, and sends `block` for every block hash and `events` for every storage
query; it has no inclusion fee to report, as for an unsigned extrinsic. -/
def sampleNode (v : RuntimeVersion) (meta : Option Unit × Option String)
    (block : Option SignedBlock) (events : Value) : Node Unit Unit where
  newSubstrateAPI _ := .ok ()
  connect _ := .ok ()
  getRuntimeVersionLatest _ := .ok v
  getMetadataLatest _ := meta
  getBlockHash _ _ := .ok [2]
  chainGetBlock _ _ := .ok block
  stateGetStorageAt _ _ _ := .ok events
  paymentQueryInfo _ _ _ := .ok [("partialFee", .string "100")]
  paymentQueryFeeDetails _ _ _ := .ok [("inclusionFee", .null)]
  getStorageLatestAccountInfo _ _ := .ok none
  getStorageLatestWithProviders _ _ := .ok none

/-- The sample chain's decoders: `decoded` decodes extrinsics, every batch's `calls`
unmarshal to `calls`, and the block's event log is `events`. -/
def sampleCodec (decoded : List UInt8 → ExtrinsicDecoding) (calls : List UtilityParamsValue)
    (events : EventRecords) : Codec Unit where
  initBasicTypesByHexData := .ok ⟨fun _ => [0]⟩
  encodeByPubHex pub _ := if pub = "" then .error "empty public key" else .ok pub
  decodeToPub address := .ok (goBytes address)
  sum256 _ := [0]
  decodeExtrinsic _ := decoded
  unmarshalCalls _ := .ok calls
  createStorageKey _ _ _ _ := .ok "0x26aa"
  decodeEventRecords _ _ _ := .ok events
  formatValue _ := ""

/-- A client of the sample chain, as `new` leaves it. -/
def sampleClient : Client Unit Unit :=
  { c := (), meta := some (), prefixBytes := [0], chainName := "polkadot", specVersion := 9
    transactionVersion := 5, genesisHash := "", url := "" }

/-- Two accounts of the sample chain. -/
def sampleAlice : AccountID := ⟨List.replicate 32 1, rfl⟩

@[inherit_doc sampleAlice]
def sampleBob : AccountID := ⟨List.replicate 32 2, rfl⟩

/-- A signed extrinsic of Alice's, decoded: the call `module.function` with `params`. -/
def sampleCall (module function : String) (params : List ExtrinsicDecodeParam) :
    ExtrinsicDecodeResponse :=
  { accountId := Hex.encodeToString sampleAlice.bytes, callModule := module
    callModuleFunction := function, era := "00", nonce := 0, signature := "0x01", length := 1
    params := params }

/-- Alice's `Balances.transfer` of 5 to Bob, and the same transfer inside a batch. -/
def sampleTransfer : ExtrinsicDecodeResponse :=
  sampleCall "Balances" "transfer"
    [⟨"dest", .string (Hex.encodeToString sampleBob.bytes)⟩, ⟨"value", .string "5"⟩]

@[inherit_doc sampleTransfer]
def sampleBatchedTransfer : UtilityParamsValue :=
  { callModule := "Balances", callFunction := "transfer"
    callArgs := [⟨"dest", Hex.encodeToString sampleBob.bytes⟩, ⟨"value", "05"⟩] }

/-- The event log of a block whose first extrinsic moved 5 from Alice to Bob. -/
def sampleEvents : EventRecords :=
  ⟨[⟨.applyExtrinsic 0, sampleAlice, sampleBob, 5⟩], []⟩

/-- A block of the sample chain at height 1 whose one extrinsic is the hex `01`. -/
def sampleBlock : SignedBlock := ⟨⟨⟨"0x1", "0x00"⟩, ["01"]⟩⟩

/-! ## The batch scenario

A block of two extrinsics: `01`, Alice's transfer of 5 to Bob, and `02`, her
`Utility.batch` of two such transfers, with the log of all three. -/

/-- Alice's `Utility.batch`, whose `calls` list the sample codec unmarshals to two transfers
of 5 to Bob. -/
def sampleBatch : ExtrinsicDecodeResponse :=
  sampleCall "Utility" "batch" [⟨"calls", .array [.null, .null]⟩]

/-- The decoder of the batch scenario: `01` is Alice's transfer, any other extrinsic her
batch. -/
def sampleBatchDecoded (bytes : List UInt8) : ExtrinsicDecoding :=
  .decoded (if bytes = [1] then sampleTransfer else sampleBatch)

/-- The event log of the batch scenario: extrinsic 0 moved 5 from Alice to Bob, and
extrinsic 1 did so twice. -/
def sampleBatchEvents : EventRecords :=
  ⟨[⟨.applyExtrinsic 0, sampleAlice, sampleBob, 5⟩, ⟨.applyExtrinsic 1, sampleAlice, sampleBob, 5⟩,
    ⟨.applyExtrinsic 1, sampleAlice, sampleBob, 5⟩], []⟩

/-- The sample chain's decoders in the batch scenario. -/
def sampleBatchCodec : Codec Unit :=
  sampleCodec sampleBatchDecoded [sampleBatchedTransfer, sampleBatchedTransfer] sampleBatchEvents

/-- The block of the batch scenario, at height 1. -/
def sampleBatchBlock : SignedBlock := ⟨⟨⟨"0x1", "0x00"⟩, ["01", "02"]⟩⟩

end Bifrost
