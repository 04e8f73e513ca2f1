import Bifrost.Go

/-!
# The transaction builder's data model

A `SubstrateTransaction` holds what the caller sets: the sender's public key, the nonce and
tip, the two versions, the block and genesis hashes in hex, the era parameters and the
call. Signing builds the `types.SignatureOptions` and `types.ExtrinsicPayloadV4` of the RPC
library from it, and fills in the signature of an `expand.Extrinsic`.

The `expand` package is part of the repository but not among its source files: what the
signer uses of it (`newExtrinsic`, the version of an extrinsic, `MultiAddress`) is modelled
from the spec. The signature scheme and the final hex encoding are services (`TxEnv`).
-/

namespace Bifrost

namespace Tx

/-- A Go byte array `[n]byte`; its length is a field, so a wrong size cannot be built. -/
structure FixedBytes (n : Nat) where
  bytes : List UInt8
  length_eq : bytes.length = n
  deriving DecidableEq

/-- Go's `copy` of a slice into a zeroed `[n]byte`: the first `n` bytes, zeros after a short
slice. -/
def copyInto (n : Nat) (b : List UInt8) : FixedBytes n :=
  ⟨(b ++ List.replicate n 0).take n, by simp⟩

/-- `types.NewHash`. -/
def newHash (b : List UInt8) : FixedBytes 32 := copyInto 32 b

/-- `types.NewAccountID`. -/
def newAccountID (b : List UInt8) : FixedBytes 32 := copyInto 32 b

/-- `types.NewSignature`. -/
def newSignature (b : List UInt8) : FixedBytes 64 := copyInto 64 b

/-- The two bytes of a mortal era, `types.MortalEra`. -/
structure MortalEra where
  first : UInt8
  second : UInt8
  deriving DecidableEq, Repr

/-- `types.ExtrinsicEra`. The zero value is neither immortal nor mortal. -/
structure ExtrinsicEra where
  isImmortalEra : Bool
  isMortalEra : Bool
  asMortalEra : MortalEra
  deriving DecidableEq, Repr

/-- The era `types.ExtrinsicEra{isImmortalEra: true}`. -/
def ExtrinsicEra.immortal : ExtrinsicEra := ⟨true, false, ⟨0, 0⟩⟩

/-- The index of a call: its pallet and its function. -/
structure CallIndex where
  sectionIndex : UInt8
  methodIndex : UInt8
  deriving DecidableEq, Repr

/-- `types.Call`: a call index and the call's arguments, already encoded. -/
structure Call where
  callIndex : CallIndex
  args : List UInt8
  deriving DecidableEq, Repr

/-- `SubstrateTransaction`, what the caller sets before signing. -/
structure SubstrateTransaction where
  /-- The sender's public key in hex. -/
  senderPubkey : String
  nonce : UInt64
  /-- The hash of the era's reference block, in hex. -/
  blockHash : String
  genesisHash : String
  specVersion : UInt32
  transactionVersion : UInt32
  tip : UInt64
  /-- The number of the era's reference block. -/
  blockNumber : UInt64
  /-- How many blocks the transaction is meant to stay valid for. -/
  eraPeriod : UInt64
  call : Call
  deriving DecidableEq, Repr

/-- `types.SignatureOptions`; the nonce and the tip are `UCompact`s of `uint64`s. -/
structure SignatureOptions where
  blockHash : FixedBytes 32
  era : ExtrinsicEra
  genesisHash : FixedBytes 32
  nonce : UInt64
  specVersion : UInt32
  tip : UInt64
  transactionVersion : UInt32
  deriving DecidableEq

/-- `types.ExtrinsicPayloadV4`, the message a transaction's signature covers. -/
structure ExtrinsicPayloadV4 where
  /-- The encoded call, written without a length prefix. -/
  method : List UInt8
  era : ExtrinsicEra
  nonce : UInt64
  tip : UInt64
  specVersion : UInt32
  genesisHash : FixedBytes 32
  blockHash : FixedBytes 32
  transactionVersion : UInt32
  deriving DecidableEq

/-- Modelled from the spec: `expand.MultiAddress` is not among the source files. The signer
sets its type to 0, an account id, the "signer address" of the spec. -/
structure MultiAddress where
  accountId : FixedBytes 32
  deriving DecidableEq

/-- `types.MultiSignature`, tagged by algorithm: fixed-size for Ed25519 and Sr25519, any
length for ECDSA. -/
inductive MultiSignature where
  | ed25519 (sig : FixedBytes 64)
  | sr25519 (sig : FixedBytes 64)
  | ecdsa (sig : List UInt8)
  deriving DecidableEq

/-- `expand.ExtrinsicSignatureV4`: signer, signature, era, nonce and tip. -/
structure ExtrinsicSignatureV4 where
  signer : MultiAddress
  signature : MultiSignature
  era : ExtrinsicEra
  nonce : UInt64
  tip : UInt64
  deriving DecidableEq

/-- The version byte of an extrinsic in the fourth format, and its signed bit. -/
def extrinsicVersion4 : UInt8 := 4

@[inherit_doc extrinsicVersion4]
def extrinsicBitSigned : UInt8 := 0x80

/-- Modelled from the spec: `expand.Extrinsic` is not among the source files. A version
byte, whose top bit says it is signed, a signature (`none` is the zero value of an
unsigned extrinsic) and the call. -/
structure Extrinsic where
  version : UInt8
  signature : Option ExtrinsicSignatureV4
  method : Call
  deriving DecidableEq

namespace Extrinsic

/-- Modelled from the spec: an extrinsic's format, its version without the signed bit. -/
def type (e : Extrinsic) : UInt8 := e.version &&& ~~~extrinsicBitSigned

/-- Modelled from the spec: whether the signed bit is set. -/
def isSigned (e : Extrinsic) : Bool := e.version &&& extrinsicBitSigned = extrinsicBitSigned

end Extrinsic

/-- Modelled from the spec: `expand.NewExtrinsic` is not among the source files. An
unsigned extrinsic of the supported version, "v4", carrying the call. -/
def newExtrinsic (c : Call) : Extrinsic :=
  { version := extrinsicVersion4, signature := none, method := c }

/-- The services the signer calls: the hash, the signature scheme with its type
constants, and the hex encoding of a signed extrinsic. -/
structure TxEnv where
  /-- `blake2b.Sum256`. -/
  sum256 : List UInt8 → FixedBytes 32
  /-- `crypto.Sign(privateKey, message, signType)`. -/
  sign : List UInt8 → List UInt8 → Int → Except String (List UInt8)
  /-- The signature types `crypto.Ed25519Type`, `crypto.Sr25519Type` and `crypto.EcdsaType`. -/
  ed25519Type : Int
  sr25519Type : Int
  ecdsaType : Int
  /-- `types.EncodeToHexString` of a signed extrinsic. -/
  encodeToHexString : Extrinsic → Except String String

/-- A transaction with the era parameters `blockNumber` and `eraPeriod`, zero hashes and
everything else empty, on which the era computations are run. -/
def sampleTx (blockNumber eraPeriod : UInt64) : SubstrateTransaction :=
  { senderPubkey := "", nonce := 0, blockHash := "", genesisHash := "", specVersion := 0
    transactionVersion := 0, tip := 0, blockNumber := blockNumber, eraPeriod := eraPeriod
    call := ⟨⟨0, 0⟩, []⟩ }

/-- A signer environment to run the signer on: an all-zero hash, a scheme that signs a
message with itself, the types 0, 1 and 2, and a fixed encoding. -/
def sampleEnv : TxEnv where
  sum256 _ := copyInto 32 []
  sign _ data _ := .ok data
  ed25519Type := 0
  sr25519Type := 1
  ecdsaType := 2
  encodeToHexString _ := .ok "0x00"

/-- `types.HexDecodeString`: an optional `0x`, then hex, with a `0` put in front of an odd
number of digits. -/
def hexDecodeString (s : String) : List UInt8 × Option Hex.HexError :=
  let s := stringsTrimPrefix s "0x"
  Hex.decodeString (if (goBytes s).length % 2 ≠ 0 then "0" ++ s else s)

/-- `types.MustHexDecodeString`, which panics where `hexDecodeString` fails. -/
def mustHexDecodeString (s : String) : Except Exit (List UInt8) :=
  match hexDecodeString s with
  | (b, none) => .ok b
  | (_, some _) => .error .panic

/-- `hexDecodeString` reads back the bytes of the hex that `hex.EncodeToString` writes: it
has no `0x` to trim and an even number of digits. -/
theorem hexDecodeString_encodeToString (bytes : List UInt8) :
    hexDecodeString (Hex.encodeToString bytes) = (bytes, none) := by
  have hdec := Hex.decodeString_encodeToString bytes
  have htrim : stringsTrimPrefix (Hex.encodeToString bytes) "0x" = Hex.encodeToString bytes := by
    rw [stringsTrimPrefix, stringsHasPrefix_eq_false_of_decodeString (by rw [hdec]),
      if_neg Bool.false_ne_true]
  have heven : (goBytes (Hex.encodeToString bytes)).length % 2 = 0 := by
    rw [Hex.goBytes_encodeToString, List.length_flatMap]
    simp only [Function.comp_def, List.length_cons, List.length_nil, List.map_const',
      List.sum_replicate, smul_eq_mul, Nat.mul_mod_left]
  simp only [hexDecodeString, htrim, heven, ne_eq, not_true_eq_false, if_false, hdec]

end Tx

end Bifrost
