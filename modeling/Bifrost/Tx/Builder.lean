import Bifrost.Tx.Sign

/-!
# Building a transaction

A caller starts a `SubstrateTransaction` with `newSubstrateTransaction`, from the sender's
address and the nonce, and fills it in through the setters, each of which writes its own
fields and returns the transaction for the next call: the genesis and block hashes, each
stripped of a leading `0x`, the two versions, the tip, the era parameters and the call.
Nothing is checked when a field is set. A hash that is not hex makes `mustHexDecodeString`
panic when the transaction is signed, and a transaction whose call was never set is signed
with the empty call of `newSubstrateTransaction`.

* `hexDecodeString_remove0X`: a hash in the hex `hex.EncodeToString` writes, with or without
  `0x`, is stored so that signing reads its bytes back.
* `returnSign_built`: `returnSign` of a transaction the setters built returns the extrinsic
  of the call that was set, options holding exactly the values that were set, the hashes cut
  or padded to 32 bytes, and the message over the payload of those values.
-/

namespace Bifrost

namespace Tx

/-! ## The builder -/

/-- `newSubstrateTransaction`: a zero transaction but for the sender's public key and the
nonce. `utils.AddressToPublicKey`, which turns the address `from` into the key, is not among
the source files and is a parameter here. -/
def newSubstrateTransaction (AddressToPublicKey : String → String) («from» : String)
    (nonce : UInt64) : SubstrateTransaction :=
  { senderPubkey := AddressToPublicKey «from», nonce := nonce, blockHash := "", genesisHash := ""
    specVersion := 0, transactionVersion := 0, tip := 0, blockNumber := 0, eraPeriod := 0
    call := ⟨⟨0, 0⟩, []⟩ }

namespace SubstrateTransaction

/-- `setGenesisHashAndBlockHash`: the genesis hash first, then the block hash, each without a
leading `0x`. -/
def setGenesisHashAndBlockHash (tx : SubstrateTransaction) (genesisHash blockHash : String) :
    SubstrateTransaction :=
  { tx with genesisHash := remove0X genesisHash, blockHash := remove0X blockHash }

/-- `setSpecAndTxVersion`. -/
def setSpecAndTxVersion (tx : SubstrateTransaction) (specVersion transactionVersion : UInt32) :
    SubstrateTransaction :=
  { tx with specVersion := specVersion, transactionVersion := transactionVersion }

/-- `setSpecVersionAndCallId`, whose body is that of `setSpecAndTxVersion`: its second
argument is the transaction version, not a call id. -/
def setSpecVersionAndCallId (tx : SubstrateTransaction)
    (specVersion transactionVersion : UInt32) : SubstrateTransaction :=
  tx.setSpecAndTxVersion specVersion transactionVersion

/-- `setTip`. -/
def setTip (tx : SubstrateTransaction) (tip : UInt64) : SubstrateTransaction :=
  { tx with tip := tip }

/-- `setEra`: the era's reference block and how many blocks the transaction stays valid. -/
def setEra (tx : SubstrateTransaction) (blockNumber eraPeriod : UInt64) : SubstrateTransaction :=
  { tx with blockNumber := blockNumber, eraPeriod := eraPeriod }

/-- `setCall`. -/
def setCall (tx : SubstrateTransaction) (call : Call) : SubstrateTransaction :=
  { tx with call := call }

end SubstrateTransaction

/-! ## Hashes in hex -/

/-- A hash written by `hex.EncodeToString`, behind `0x` or not, is stored without the `0x`,
and `hexDecodeString` reads its bytes back. -/
theorem hexDecodeString_remove0X {s : String} {bytes : List UInt8}
    (h : s = Hex.encodeToString bytes ∨ s = "0x" ++ Hex.encodeToString bytes) :
    hexDecodeString (remove0X s) = (bytes, none) := by
  have hplain : remove0X s = Hex.encodeToString bytes := by
    rcases h with rfl | rfl
    · exact remove0X_of_decodeString (by rw [Hex.decodeString_encodeToString])
    · exact remove0X_0x_append _
  rw [hplain, hexDecodeString_encodeToString]

/-! ## What a built transaction signs -/

variable (env : TxEnv) (AddressToPublicKey : String → String)

/-- `returnSign` of a transaction whose hashes are hex: the unsigned extrinsic of its call,
the options `signatureOptions_eq_ok` describes, and the message over the payload of its own
values with the era of `getEra`, or an immortal one. -/
theorem returnSign_eq_ok {tx : SubstrateTransaction} {blockHash genesisHash : List UInt8}
    (hb : hexDecodeString tx.blockHash = (blockHash, none))
    (hg : hexDecodeString tx.genesisHash = (genesisHash, none)) :
    returnSign env tx = .ok (newExtrinsic tx.call,
      { blockHash := newHash blockHash, genesisHash := newHash genesisHash, nonce := tx.nonce
        specVersion := tx.specVersion, tip := tx.tip, transactionVersion := tx.transactionVersion
        era := (getEra tx).getD ⟨false, false, ⟨0, 0⟩⟩ },
      messageOf env
        ({ method := tx.call.encode, era := (getEra tx).getD .immortal, nonce := tx.nonce
           tip := tx.tip, specVersion := tx.specVersion, transactionVersion := tx.transactionVersion
           genesisHash := newHash genesisHash, blockHash := newHash blockHash } :
          ExtrinsicPayloadV4).encode) := by
  simp only [returnSign, signatureOptions_eq_ok hb hg, bind, Except.bind, newExtrinsic_type,
    ne_eq, not_true_eq_false, if_false, payloadEra_getEra]
  rfl

/-- The setters called in turn, with both hashes in hex behind `0x` or not, give a
transaction that `returnSign` signs without failing: it returns the extrinsic of the call that
was set, options holding the decoded hashes (cut or padded to 32 bytes), the nonce, tip and
versions that were set and the era of `getEra` (the zero era when there is none), and the
message over the payload of exactly these values. -/
theorem returnSign_built («from» : String) (nonce : UInt64) {genesisHash blockHash : String}
    {genesis block : List UInt8}
    (hg : genesisHash = Hex.encodeToString genesis ∨
      genesisHash = "0x" ++ Hex.encodeToString genesis)
    (hb : blockHash = Hex.encodeToString block ∨ blockHash = "0x" ++ Hex.encodeToString block)
    (specVersion transactionVersion : UInt32) (tip blockNumber eraPeriod : UInt64) (call : Call) :
    let tx := newSubstrateTransaction AddressToPublicKey «from» nonce
      |>.setGenesisHashAndBlockHash genesisHash blockHash
      |>.setSpecAndTxVersion specVersion transactionVersion |>.setTip tip
      |>.setEra blockNumber eraPeriod |>.setCall call
    let o : SignatureOptions :=
      { blockHash := newHash block, genesisHash := newHash genesis, nonce := nonce
        specVersion := specVersion, tip := tip, transactionVersion := transactionVersion
        era := (getEra tx).getD ⟨false, false, ⟨0, 0⟩⟩ }
    let payload : ExtrinsicPayloadV4 :=
      { method := call.encode, era := (getEra tx).getD .immortal, nonce := nonce, tip := tip
        specVersion := specVersion, transactionVersion := transactionVersion
        genesisHash := newHash genesis, blockHash := newHash block }
    returnSign env tx = .ok (newExtrinsic call, o, messageOf env payload.encode) :=
  returnSign_eq_ok env (hexDecodeString_remove0X hb) (hexDecodeString_remove0X hg)

/-- `returnSign_built` on a transaction whose genesis hash is given behind `0x` and whose
block hash, one byte long, is given without it and padded with zeros. -/
theorem returnSign_built_sample :
    let tx := newSubstrateTransaction id "alice" 7 |>.setGenesisHashAndBlockHash "0x0102" "0a"
      |>.setSpecAndTxVersion 9 5 |>.setTip 1 |>.setEra 100 64 |>.setCall ⟨⟨5, 0⟩, [1]⟩
    ∃ o m, returnSign sampleEnv tx = .ok (newExtrinsic ⟨⟨5, 0⟩, [1]⟩, o, m) ∧
      o.genesisHash = newHash [1, 2] ∧ o.blockHash = newHash [10] ∧ o.nonce = 7 :=
  ⟨_, _, @returnSign_built sampleEnv id "alice" 7 "0x0102" "0a" [1, 2] [10] (.inr (by decide))
    (.inl (by decide)) 9 5 1 100 64 ⟨⟨5, 0⟩, [1]⟩, rfl, rfl, rfl⟩

example : (newHash [10]).bytes = 10 :: List.replicate 31 0 := rfl

end Tx

end Bifrost
