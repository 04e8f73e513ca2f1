import Bifrost.Client.Session
import Bifrost.Tx.Builder

/-!
# The chain identity a client hands to a transaction

A caller signs for the chain a client talks to by passing the genesis hash the client
returns, and a block hash it fetched, to `setGenesisHashAndBlockHash`. The client caches
block 0's hash in the hex `hash.Hex()` writes, or returns the empty string when the node
cannot give it, without an error (`Reachable.genesisHex`).

* `returnSign_getGenesisHash`: whatever the client returns is accepted by the transaction
  builder and by `returnSign`, which never panics on it: the options hold the node's
  block-0 hash, or, when the node failed, 32 zero bytes, so the failure surfaces only when
  the chain rejects the signature.
-/

namespace Bifrost

open Client Tx

variable {Conn Md : Type} (codec : Codec Md) (env : TxEnv) (AddressToPublicKey : String → String)

/-- For every client some run reaches and every node, the genesis hash `getGenesisHash`
returns, with a block hash in hex, makes a transaction that `returnSign` signs: its options
hold the block's bytes and either the bytes of the hash in hex the client returned or, when
it returned the empty string, 32 zero bytes. -/
theorem returnSign_getGenesisHash {c : Client Conn Md} (hc : Reachable codec c)
    (node : Node Conn Md) («from» : String) (nonce : UInt64) {blockHash : String}
    {block : List UInt8}
    (hb : blockHash = Hex.encodeToString block ∨ blockHash = "0x" ++ Hex.encodeToString block)
    (specVersion transactionVersion : UInt32) (tip blockNumber eraPeriod : UInt64) (call : Call) :
    let tx := newSubstrateTransaction AddressToPublicKey «from» nonce
      |>.setGenesisHashAndBlockHash (getGenesisHash node c).2 blockHash
      |>.setSpecAndTxVersion specVersion transactionVersion |>.setTip tip
      |>.setEra blockNumber eraPeriod |>.setCall call
    ∃ o m, returnSign env tx = .ok (newExtrinsic call, o, m) ∧ o.blockHash = newHash block ∧
      ((getGenesisHash node c).2 = "" ∧ o.genesisHash = newHash [] ∨
        ∃ genesis, (getGenesisHash node c).2 = "0x" ++ Hex.encodeToString genesis ∧
          o.genesisHash = newHash genesis) := by
  intro tx
  have hblock : hexDecodeString tx.blockHash = (block, none) := hexDecodeString_remove0X hb
  rcases getGenesisHash_hex node hc.genesisHex with hg | ⟨genesis, hg⟩
  · -- The node failed: the empty string reads as no bytes at all.
    have hgen : hexDecodeString tx.genesisHash = ([], none) := hexDecodeString_remove0X (.inl hg)
    exact ⟨_, _, returnSign_eq_ok env hblock hgen, rfl, .inl ⟨hg, rfl⟩⟩
  · have hgen : hexDecodeString tx.genesisHash = (genesis, none) :=
      hexDecodeString_remove0X (.inr hg)
    exact ⟨_, _, returnSign_eq_ok env hblock hgen, rfl, .inr ⟨genesis, hg, rfl⟩⟩

/-- `returnSign_getGenesisHash` on a new client whose node cannot give block 0's hash: the
client returns the empty string, and the transaction is signed for the all-zero genesis
hash. -/
theorem returnSign_getGenesisHash_sample :
    let down := { sampleNode sampleRuntime (some (), none) none .null with
      getBlockHash := fun _ _ => .error "closed" }
    ∃ c : Client Unit Unit, Reachable (sampleCodec (fun _ => .panicked) [] sampleEvents) c ∧
      (getGenesisHash down c).2 = "" ∧
      ∃ o m, returnSign sampleEnv (newSubstrateTransaction id "alice" 7
          |>.setGenesisHashAndBlockHash (getGenesisHash down c).2 "0x0a"
          |>.setSpecAndTxVersion 9 5 |>.setTip 1 |>.setEra 100 64 |>.setCall ⟨⟨5, 0⟩, [1]⟩) =
          .ok (newExtrinsic ⟨⟨5, 0⟩, [1]⟩, o, m) ∧ o.blockHash = newHash [10] ∧
        ((getGenesisHash down c).2 = "" ∧ o.genesisHash = newHash [] ∨
          ∃ genesis, (getGenesisHash down c).2 = "0x" ++ Hex.encodeToString genesis ∧
            o.genesisHash = newHash genesis) :=
  have hnew := @Reachable.new _ _ (sampleCodec (fun _ => .panicked) [] sampleEvents)
    (sampleNode sampleRuntime (some (), none) none .null) "" false _ rfl
  ⟨_, hnew, rfl, @returnSign_getGenesisHash _ _ _ sampleEnv id _ hnew _ "alice" 7 "0x0a" [10]
    (.inr (by decide)) 9 5 1 100 64 ⟨⟨5, 0⟩, [1]⟩⟩

end Bifrost
