import Bifrost.Client.Runtime

/-!
# Account and fee queries

`getAccountInfo` reads the `System.Account` entry of an address after the runtime check,
in the storage layout the chain name selects; a panic while reading it is recovered into a
local the function does not return. `getPartialFeeDetail` reads the inclusion fee of an
extrinsic and parses its three parts from hex; nothing recovers its panics.

The chain name is compared with `polkadot` and `kusama` after `strings.ToLower`, which
`stringsToLower` models for every rune whose lower case is ASCII.

* `getAccountInfo_error_names_step`: an error opens with the text of the step that failed.
* `getPartialFeeDetail_of_fields`: an `inclusionFee` object of three strings gives the
  three parts read by `decodeFunc`; `getPartialFeeDetail_reads_hex`: the parts a node
  writes in hex are read back whole, at any size.
-/

namespace Bifrost

namespace Client

variable {Conn Md : Type} (codec : Codec Md) (node : Node Conn Md)

/-! ## Reading an account -/

/-- How `getAccountInfo` reads a `GetStorageLatest` answer: an error, or an empty entry
(`ok` false with a nil error), is `get account info error`, and an entry is converted by
`f`. -/
def readAccountInfo {α : Type} (f : α → AccountInfo) :
    Except Exit (Option α) → Except Exit AccountInfo
  | .error e => .error (e.wrap "get account info error: ")
  | .ok none => .error (.error "get account info error: <nil>")
  | .ok (some info) => .ok (f info)

/-- `getAccountInfo` after the runtime check, which may panic. Polkadot and Kusama store
the newer layout, whose consumer count becomes the reference count. -/
def getAccountInfoBody (c : Client Conn Md) (address : String) : Except Exit AccountInfo :=
  match codec.decodeToPub address with
  | .error err => .error (.error ("ss58 decode address error: " ++ err))
  | .ok pub =>
    match (codec.createStorageKey c.meta "System" "Account" (some pub)).mapError
        (Exit.wrap "create System.Account storage error: ") with
    | .error e => .error e
    | .ok storage =>
      if stringsToLower c.chainName = "polkadot" ∨ stringsToLower c.chainName = "kusama" then
        readAccountInfo (fun info => ⟨info.nonce, info.consumers, info.data⟩)
          (node.getStorageLatestWithProviders c.c storage)
      else readAccountInfo id (node.getStorageLatestAccountInfo c.c storage)

/-- `getAccountInfo`: the client as the call leaves it, and the account or the error. A
panic is recovered into the local `err`, which the function does not return: it then
returns nil and nil, `.ok none`. -/
def getAccountInfo (c : Client Conn Md) (address : String) :
    Client Conn Md × Except String (Option AccountInfo) :=
  match checkRuntimeVersion node c with
  | (c, some err) => (c, .error err)
  | (c, none) =>
    (c, match getAccountInfoBody codec node c address with
      | .ok info => .ok (some info)
      | .error (.error msg) => .error msg
      | .error .panic => .ok none)

/-- `getAccountInfo` leaves the client as its runtime check did. -/
@[simp] theorem getAccountInfo_fst (c : Client Conn Md) (address : String) :
    (getAccountInfo codec node c address).1 = (checkRuntimeVersion node c).1 := by
  unfold getAccountInfo
  split <;> simp_all

/-- The texts that open the errors of `getAccountInfo`: those of the runtime check, then
one for each later step that can fail: decoding the address, building the storage key,
and reading the entry. -/
def accountErrorPrefixes : List String :=
  runtimeErrorPrefixes ++
    ["ss58 decode address error: ", "create System.Account storage error: ",
      "get account info error: "]

/-- Reading a `GetStorageLatest` answer fails only with `get account info error`. -/
theorem readAccountInfo_error_names_step {α : Type} {f : α → AccountInfo}
    {r : Except Exit (Option α)} {msg : String} (h : readAccountInfo f r = .error (.error msg)) :
    hasPrefixIn accountErrorPrefixes msg = true := by
  rcases r with (m | _) | _ | a <;> simp only [readAccountInfo, Exit.wrap, Except.error.injEq,
    Exit.error.injEq, reduceCtorEq] at h
  · exact h ▸ hasPrefixIn_append (by decide) _
  · subst h
    decide

/-- Every error `getAccountInfo` returns names the step that failed. -/
theorem getAccountInfo_error_names_step (c : Client Conn Md) {c' : Client Conn Md}
    {address msg : String} (h : getAccountInfo codec node c address = (c', .error msg)) :
    hasPrefixIn accountErrorPrefixes msg = true := by
  unfold getAccountInfo at h
  rcases hc : checkRuntimeVersion node c with ⟨c₁, _ | err⟩ <;> simp only [hc] at h
  · obtain ⟨rfl, hbody⟩ := Prod.mk.inj h
    have hb : getAccountInfoBody codec node c₁ address = .error (.error msg) := by
      split at hbody <;> cases hbody
      assumption
    unfold getAccountInfoBody at hb
    rcases hpub : codec.decodeToPub address with m | pub <;>
      simp only [hpub, Except.error.injEq, Exit.error.injEq] at hb
    · exact hb ▸ hasPrefixIn_append (by decide) _
    rcases hkey : codec.createStorageKey c₁.meta "System" "Account" (some pub) with
      (m | _) | key <;> simp only [hkey, Except.mapError, Exit.wrap, Except.error.injEq,
        Exit.error.injEq, reduceCtorEq] at hb
    · exact hb ▸ hasPrefixIn_append (by decide) _
    split_ifs at hb <;> exact readAccountInfo_error_names_step hb
  · cases (Prod.mk.inj h).2
    exact hasPrefixIn_of_subset (List.subset_append_left _ _)
      (checkRuntimeVersion_error_names_step node c (by rw [hc]))

example : (getAccountInfo
    { sampleCodec (fun _ => .panicked) [] sampleEvents with createStorageKey := fun _ _ _ _ => .error .panic }
    (sampleNode sampleRuntime (some (), none) none .null) sampleClient "alice").2 = .ok none := rfl

/-! ## Fee details -/

/-- `expand.FeeDetail`: the parts of the inclusion fee, each a `types.U128`, which wraps a
`big.Int` and so holds any integer. -/
structure FeeDetail where
  lenFee : Int
  baseFee : Int
  adjustedWeightFee : Int
  deriving DecidableEq, Repr

/-- The `decodeFunc` of `getPartialFeeDetail`: drop a `0x`, then `SetString` in base 16. -/
def decodeFunc (val : String) : Int :=
  Big.setString16 (stringsTrimPrefix val "0x")

/-- `getPartialFeeDetail`: the inclusion fee `payment_queryFeeDetails` reports for an
extrinsic, which is given a `0x` prefix first. Nothing recovers a panic: an `inclusionFee`
that is not a JSON object, `null` included, or a part of it that is not a string panics
out of the call. -/
def getPartialFeeDetail (c : Client Conn Md) (extrinsic parentHash : String) :
    Except Exit FeeDetail :=
  let extrinsic := if stringsHasPrefix extrinsic "0x" then extrinsic else "0x" ++ extrinsic
  match node.paymentQueryFeeDetails c.c extrinsic parentHash with
  | .error err => .error (.error ("get payment info error: " ++ err))
  | .ok result =>
    match mapIndex result "inclusionFee" with
    | some (.object fee) =>
      match (mapIndex fee "lenFee").bind Value.asString?,
          (mapIndex fee "baseFee").bind Value.asString?,
          (mapIndex fee "adjustedWeightFee").bind Value.asString? with
      | some lenFee, some baseFee, some adjustedWeightFee =>
        .ok ⟨decodeFunc lenFee, decodeFunc baseFee, decodeFunc adjustedWeightFee⟩
      | _, _, _ => .error .panic
    | _ => .error .panic

example : getPartialFeeDetail (sampleNode sampleRuntime (some (), none) none .null) sampleClient
    "01" "0x02" = .error .panic := rfl

/-- `decodeFunc` reads back every number written in hex behind `0x`, at any size: nothing
bounds what it returns to the 128 bits of a `U128`. -/
theorem decodeFunc_hexString (n : Nat) : decodeFunc ("0x" ++ hexString n) = n := by
  have hdigits := fun d (hd : d ∈ (Nat.digits 16 n).reverse) => lt_of_mem_digits_reverse hd
  have hscan : Big.scanLoop 0 (hexString n).data = n :=
    (Big.scanLoop_digitChar 0 _ hdigits).trans (foldl_digits_reverse n)
  -- Its digits carry no sign.
  have hsign : ∀ c cs, (hexString n).data = c :: cs → (Strconv.digitValue c).isSome := by
    intro c cs hs
    obtain ⟨d, hd, rfl⟩ := List.mem_map.1 (hs ▸ List.mem_cons_self c cs)
    simp [Big.digitValue_digitChar (hdigits d hd)]
  rw [decodeFunc, stringsTrimPrefix_0x_append, Big.setString16_of_digit hsign, hscan]

/-- An `inclusionFee` object whose three parts are strings gives the detail of the three
parts read by `decodeFunc`. -/
theorem getPartialFeeDetail_of_fields (c : Client Conn Md) (extrinsic parentHash : String)
    {result fee : List (String × Value)} {lenFee baseFee adjustedWeightFee : String}
    (hq : node.paymentQueryFeeDetails c.c
      (if stringsHasPrefix extrinsic "0x" then extrinsic else "0x" ++ extrinsic) parentHash =
        .ok result)
    (hfee : mapIndex result "inclusionFee" = some (.object fee))
    (hlen : mapIndex fee "lenFee" = some (.string lenFee))
    (hbase : mapIndex fee "baseFee" = some (.string baseFee))
    (hadj : mapIndex fee "adjustedWeightFee" = some (.string adjustedWeightFee)) :
    getPartialFeeDetail node c extrinsic parentHash =
      .ok ⟨decodeFunc lenFee, decodeFunc baseFee, decodeFunc adjustedWeightFee⟩ := by
  simp only [getPartialFeeDetail, hq, hfee, hlen, hbase, hadj]
  rfl

/-- Fees a node writes in lower-case hex behind `0x` come back whole from
`getPartialFeeDetail`, however large: nothing bounds them to the 128 bits of a `U128`. -/
theorem getPartialFeeDetail_reads_hex (c : Client Conn Md) (extrinsic parentHash : String)
    (lenFee baseFee adjustedWeightFee : Nat) {result fee : List (String × Value)}
    (hq : node.paymentQueryFeeDetails c.c
      (if stringsHasPrefix extrinsic "0x" then extrinsic else "0x" ++ extrinsic) parentHash =
        .ok result)
    (hfee : mapIndex result "inclusionFee" = some (.object fee))
    (hlen : mapIndex fee "lenFee" = some (.string ("0x" ++ hexString lenFee)))
    (hbase : mapIndex fee "baseFee" = some (.string ("0x" ++ hexString baseFee)))
    (hadj : mapIndex fee "adjustedWeightFee" =
      some (.string ("0x" ++ hexString adjustedWeightFee))) :
    getPartialFeeDetail node c extrinsic parentHash = .ok ⟨lenFee, baseFee, adjustedWeightFee⟩ := by
  rw [getPartialFeeDetail_of_fields node c extrinsic parentHash hq hfee hlen hbase hadj,
    decodeFunc_hexString, decodeFunc_hexString, decodeFunc_hexString]

/-- `getPartialFeeDetail_reads_hex` on a node that reports fees of 1, 300 and `2 ^ 130`. -/
theorem getPartialFeeDetail_reads_hex_sample :
    getPartialFeeDetail
        { sampleNode sampleRuntime (some (), none) none .null with
          paymentQueryFeeDetails := fun _ _ _ => .ok [("inclusionFee", .object
            [("lenFee", .string ("0x" ++ hexString 1)), ("baseFee", .string ("0x" ++ hexString 300)),
              ("adjustedWeightFee", .string ("0x" ++ hexString (2 ^ 130)))])] }
        sampleClient "01" "0x02" = .ok ⟨(1 : Nat), (300 : Nat), (2 ^ 130 : Nat)⟩ :=
  getPartialFeeDetail_reads_hex _ sampleClient "01" "0x02" 1 300 (2 ^ 130) rfl rfl rfl rfl rfl

end Client

end Bifrost
