import Bifrost.Client.Storage

/-!
# Reading a block

`getBlockByHash` checks the runtime version, fetches the block with `chain_getBlock`, and
builds its report: the height and parent hash of the header and, when the block has
extrinsics, the entries of the decode pass resolved by the correlator. `getBlockByNumber`
first asks the node for the hash at a height. Neither recovers a panic, so a `null` block,
which the function dereferences, panics out of them.

* `getBlockByHash_ok_inv`: a report comes from the decode pass and the correlator run on
  the block the node sent; `getBlockByHash_error_names_step`: an error opens with the text
  of the step that failed.
* `getBlockByHash_height`: a report carries the height of the block the node sent, read
  from hex up to the largest `int64`; `getBlockByHash_entry_fee`: every entry carries the
  id and the fee of the extrinsic at its own index.
* `getBlockByHash_events_unread`: a report with no entries is made without reading the
  event log.
* `getBlockByHash_success_entries`: every `success` entry has a transfer event of its
  extrinsic, to its address and with its amount, in the event log the call fetched, and
  that extrinsic did not fail.
* `getBlockByHash_null_answers`: when the node answers the event query with `null`, the
  report comes back without an error and with its entry unresolved, and a `null` block
  makes the call panic.
* `getBlockByHash_report`: when every stage succeeds, the report is `blockReport`, the
  spec's candidates of the block resolved against its events, with the block's timestamp;
  `getBlockByHash_panic_report`: when a type assertion panics on a decoded call, the report
  is the header with no entries.
-/

namespace Bifrost

namespace Client

variable {Conn Md : Type} (codec : Codec Md) (node : Node Conn Md)

/-- The report `getBlockByHash` starts from: a fresh `models.BlockResponse` with the
header's height, the parent hash and the block hash. -/
def blockResponseOf (blockHash : String) (block : SignedBlock) : BlockResponse :=
  { height := Strconv.parseInt (removeHex0x block.block.header.number)
    parentHash := block.block.header.parentHash, blockHash := blockHash
    timestamp := 0, extrinsic := [] }

/-- `getBlockByHash` after the runtime check, on the client `c` that the check leaves. -/
def getBlockBody (c : Client Conn Md) (blockHash : String) : Except Exit BlockResponse :=
  match node.chainGetBlock c.c blockHash with
  | .error err => .error (.error ("get block error: " ++ err))
  -- `block.Block` dereferences the nil pointer that a JSON `null` leaves.
  | .ok none => .error .panic
  | .ok (some block) =>
    if 0 < block.block.extrinsics.length then
      match parseExtrinsicByDecode codec node c block.block.extrinsics
          (blockResponseOf blockHash block) with
      | .error err => .error (.error err)
      | .ok blockResp =>
        match parseExtrinsicByStorage codec node c blockHash blockResp with
        | .error err => .error (.error err)
        | .ok blockResp => .ok blockResp
    else .ok (blockResponseOf blockHash block)

/-- `getBlockByHash`: the client as the call leaves it, and the report or how the call
ended. -/
def getBlockByHash (c : Client Conn Md) (blockHash : String) :
    Client Conn Md × Except Exit BlockResponse :=
  match checkRuntimeVersion node c with
  | (c, some err) => (c, .error (.error err))
  | (c, none) => (c, getBlockBody codec node c blockHash)

/-- `getBlockByHash` leaves the client as its runtime check did. -/
@[simp] theorem getBlockByHash_fst (c : Client Conn Md) (blockHash : String) :
    (getBlockByHash codec node c blockHash).1 = (checkRuntimeVersion node c).1 := by
  unfold getBlockByHash
  split <;> simp_all

/-- `getBlockHashByNumber`: the hash of the block at a height, `uint64(height)` wrapping a
negative height around. -/
def getBlockHashByNumber (c : Client Conn Md) (height : Int) : Except String (List UInt8) :=
  (node.getBlockHash c.c (UInt64.ofNat (height % 2 ^ 64).toNat)).mapError fun err =>
    "get block hash error:" ++ err ++ ",height:" ++ toString height

/-- `getBlockByNumber`: the body of `getBlockHashByNumber`, then `getBlockByHash` at the
hash in hex (`hash.Hex()`). -/
def getBlockByNumber (c : Client Conn Md) (height : Int) :
    Client Conn Md × Except Exit BlockResponse :=
  match getBlockHashByNumber node c height with
  | .error err => (c, .error (.error err))
  | .ok hash => getBlockByHash codec node c ("0x" ++ Hex.encodeToString hash)

/-! ## What a report is made of -/

variable (c : Client Conn Md) (blockHash : String)

/-- A block body that returns a report fetched a block; the report is the bare header when
the block has no extrinsics, and otherwise the decode pass's report resolved by the
correlator. -/
theorem getBlockBody_ok_inv {r : BlockResponse}
    (h : getBlockBody codec node c blockHash = .ok r) :
    ∃ block, node.chainGetBlock c.c blockHash = .ok (some block) ∧
      (block.block.extrinsics = [] ∧ r = blockResponseOf blockHash block ∨
        ∃ r₁, parseExtrinsicByDecode codec node c block.block.extrinsics
            (blockResponseOf blockHash block) = .ok r₁ ∧
          parseExtrinsicByStorage codec node c blockHash r₁ = .ok r) := by
  unfold getBlockBody at h
  rcases hb : node.chainGetBlock c.c blockHash with _ | _ | block <;> simp only [hb] at h
  · cases h
  · cases h
  refine ⟨block, rfl, ?_⟩
  split_ifs at h with hlen
  · refine .inr ?_
    split at h
    · cases h
    · next r₁ hdec =>
      split at h
      · cases h
      · next hstore => exact ⟨r₁, hdec, by rw [hstore, Except.ok.inj h]⟩
  · exact .inl ⟨List.eq_nil_of_length_eq_zero (Nat.eq_zero_of_not_pos hlen),
      (Except.ok.inj h).symm⟩

/-- A report of `getBlockByHash` comes after a runtime check that returned nil, from the
body run on the client the check left, which the call returns. -/
theorem getBlockByHash_ok_inv {c' : Client Conn Md} {r : BlockResponse}
    (h : getBlockByHash codec node c blockHash = (c', .ok r)) :
    checkRuntimeVersion node c = (c', none) ∧ getBlockBody codec node c' blockHash = .ok r := by
  unfold getBlockByHash at h
  rcases hc : checkRuntimeVersion node c with ⟨c₁, _ | err⟩ <;> rw [hc] at h
  · obtain ⟨rfl, hbody⟩ := Prod.mk.inj h
    exact ⟨rfl, hbody⟩
  · cases (Prod.mk.inj h).2

/-- The texts that open the errors of `getBlockByHash`: those of the runtime check, of the
block request, of the decode pass and of the correlator. -/
def blockErrorPrefixes : List String :=
  runtimeErrorPrefixes ++ "get block error: " :: decodeErrorPrefixes ++ storageErrorPrefixes

/-- Every error `getBlockByHash` returns names the step that failed: the runtime check, the
block request, a step of the decode pass or one of the correlator. -/
theorem getBlockByHash_error_names_step {c' : Client Conn Md} {msg : String}
    (h : getBlockByHash codec node c blockHash = (c', .error (.error msg))) :
    hasPrefixIn blockErrorPrefixes msg = true := by
  unfold getBlockByHash at h
  rcases hc : checkRuntimeVersion node c with ⟨c₁, _ | err⟩ <;> simp only [hc] at h
  · obtain ⟨rfl, hbody⟩ := Prod.mk.inj h
    unfold getBlockBody at hbody
    rcases hb : node.chainGetBlock c₁.c blockHash with m | _ | block <;> simp only [hb] at hbody
    · cases hbody
      exact hasPrefixIn_append (by simp [blockErrorPrefixes]) _
    · cases hbody
    split_ifs at hbody
    · split at hbody
      · cases hbody
        exact hasPrefixIn_of_subset (fun _ hx => by simp [blockErrorPrefixes, hx])
          (parseExtrinsicByDecode_error_names_step codec node c₁ ‹_›)
      · split at hbody
        · cases hbody
          exact hasPrefixIn_of_subset (fun _ hx => by simp [blockErrorPrefixes, hx])
            (parseExtrinsicByStorage_error_names_step codec node c₁ blockHash _ ‹_›)
        · cases hbody
  · cases (Prod.mk.inj h).2
    exact hasPrefixIn_of_subset (fun _ hx => by simp [blockErrorPrefixes, hx])
      (checkRuntimeVersion_error_names_step node c (by rw [hc]))

/-- A block body's report carries the height and the parent hash of the block the node
sent, and the hash asked for: neither pass touches them. -/
theorem getBlockBody_header {r : BlockResponse} (h : getBlockBody codec node c blockHash = .ok r) :
    ∃ block, node.chainGetBlock c.c blockHash = .ok (some block) ∧
      r.height = Strconv.parseInt (removeHex0x block.block.header.number) ∧
      r.parentHash = block.block.header.parentHash ∧ r.blockHash = blockHash := by
  obtain ⟨block, hb, ⟨-, rfl⟩ | ⟨r₁, hdec, hstore⟩⟩ := getBlockBody_ok_inv codec node c blockHash h
  · exact ⟨block, hb, rfl, rfl, rfl⟩
  · obtain ⟨h₁, p₁, b₁⟩ := parseExtrinsicByDecode_header codec node c hdec
    obtain ⟨⟨h₂, p₂, b₂⟩, -, -⟩ := parseExtrinsicByStorage_frame codec node c blockHash r₁ hstore
    exact ⟨block, hb, h₂.trans h₁, p₂.trans p₁, b₂.trans b₁⟩

/-- The height of a report is the block number the node wrote in hex, up to the largest
`int64`, where `strconv.ParseInt` stops. -/
theorem getBlockByHash_height {c' : Client Conn Md} {r : BlockResponse} {block : SignedBlock}
    {n : Nat} (h : getBlockByHash codec node c blockHash = (c', .ok r))
    (hb : node.chainGetBlock c'.c blockHash = .ok (some block))
    (hn : block.block.header.number = "0x" ++ hexString n) :
    r.height = min n (2 ^ 63 - 1) := by
  obtain ⟨block', hb', hheight, -⟩ :=
    getBlockBody_header codec node c' blockHash (getBlockByHash_ok_inv codec node c blockHash h).2
  obtain rfl : block' = block := Option.some.inj (Except.ok.inj (hb'.symm.trans hb))
  rw [hheight, hn, parseInt_hexString]

/-- `getBlockByHash_height` on the sample block, whose number is `0x1`. -/
theorem getBlockByHash_height_sample :
    ∃ c' r, getBlockByHash (sampleCodec (fun _ => .decoded sampleTransfer) [] sampleEvents)
        (sampleNode sampleRuntime (some (), none) (some sampleBlock) (.string "0x00"))
        sampleClient "0x02" = (c', .ok r) ∧
      (sampleNode sampleRuntime (some (), none) (some sampleBlock) (.string "0x00")).chainGetBlock
          c'.c "0x02" = .ok (some sampleBlock) ∧
      sampleBlock.block.header.number = "0x" ++ hexString 1 ∧ r.height = min 1 (2 ^ 63 - 1) :=
  have hn : sampleBlock.block.header.number = "0x" ++ hexString 1 := by
    simp [sampleBlock, hexString]
    rfl
  ⟨_, _, rfl, rfl, hn, getBlockByHash_height (sampleCodec (fun _ => .decoded sampleTransfer) [] sampleEvents)
    (sampleNode sampleRuntime (some (), none) (some sampleBlock) (.string "0x00")) sampleClient "0x02"
    rfl rfl hn⟩

/-- Every entry of a `getBlockByHash` report has the id of the block's extrinsic at its own
index, and the fee `getPartialFee` gives for that extrinsic at the block's parent hash
(empty when that query fails): the correlation with the events moves neither. -/
theorem getBlockByHash_entry_fee {c' : Client Conn Md} {r : BlockResponse}
    (h : getBlockByHash codec node c blockHash = (c', .ok r)) :
    ∃ block, node.chainGetBlock c'.c blockHash = .ok (some block) ∧
      ∀ e ∈ r.extrinsic, ∃ x, block.block.extrinsics[e.extrinsicIndex]? = some x ∧
        e.txid = createTxHash codec x ∧
        e.fee = orEmpty (getPartialFee codec node c' x block.block.header.parentHash) := by
  obtain ⟨-, hbody⟩ := getBlockByHash_ok_inv codec node c blockHash h
  obtain ⟨block, hb, ⟨-, rfl⟩ | ⟨r₁, hdec, hstore⟩⟩ :=
    getBlockBody_ok_inv codec node c' blockHash hbody
  · exact ⟨block, hb, fun e he => by cases he⟩
  · refine ⟨block, hb, fun e he => ?_⟩
    obtain ⟨e₀, he₀, hidx, htx, hfee⟩ :=
      (parseExtrinsicByStorage_frame codec node c' blockHash r₁ hstore).2.2 e he
    obtain ⟨x, hx, htx₀, hfee₀⟩ := parseExtrinsicByDecode_entry_fee codec node c' hdec e₀ he₀
    exact ⟨x, by rwa [hidx], htx.trans htx₀, hfee.trans hfee₀⟩

/-- `getBlockByHash_entry_fee` on the sample block, whose one extrinsic is `01`. -/
theorem getBlockByHash_entry_fee_sample :
    ∃ c' r, getBlockByHash (sampleCodec (fun _ => .decoded sampleTransfer) [] sampleEvents)
        (sampleNode sampleRuntime (some (), none) (some sampleBlock) (.string "0x00"))
        sampleClient "0x02" = (c', .ok r) ∧
      ∃ block, (sampleNode sampleRuntime (some (), none) (some sampleBlock) (.string "0x00")).chainGetBlock
          c'.c "0x02" = .ok (some block) ∧
        ∀ e ∈ r.extrinsic, ∃ x, block.block.extrinsics[e.extrinsicIndex]? = some x ∧
          e.txid = createTxHash (sampleCodec (fun _ => .decoded sampleTransfer) [] sampleEvents) x ∧
          e.fee = orEmpty (getPartialFee (sampleCodec (fun _ => .decoded sampleTransfer) [] sampleEvents)
            (sampleNode sampleRuntime (some (), none) (some sampleBlock) (.string "0x00")) c' x
            block.block.header.parentHash) :=
  ⟨_, _, rfl, getBlockByHash_entry_fee (sampleCodec (fun _ => .decoded sampleTransfer) [] sampleEvents)
    _ sampleClient _ rfl⟩

/-- The event log is read only when there are entries to resolve: a report with no entries
comes back alike from a node that answers `state_getStorageAt` in any other way. -/
theorem getBlockByHash_events_unread {c' : Client Conn Md} {r : BlockResponse}
    (h : getBlockByHash codec node c blockHash = (c', .ok r)) (hr : r.extrinsic = [])
    (f : Conn → String → String → Except String Value) :
    getBlockByHash codec { node with stateGetStorageAt := f } c blockHash = (c', .ok r) := by
  obtain ⟨hc, hbody⟩ := getBlockByHash_ok_inv codec node c blockHash h
  -- The runtime check, the block request and the decode pass ask for no storage.
  have hc' : checkRuntimeVersion { node with stateGetStorageAt := f } c = (c', none) := hc
  have hbody' : getBlockBody codec { node with stateGetStorageAt := f } c' blockHash = .ok r := by
    obtain ⟨block, hb, ⟨hnil, rfl⟩ | ⟨r₁, hdec, hstore⟩⟩ :=
      getBlockBody_ok_inv codec node c' blockHash hbody
    · simp [getBlockBody, hb, hnil]
    · have hnil₁ : r₁.extrinsic = [] := List.length_eq_zero.1
        ((parseExtrinsicByStorage_frame codec node c' blockHash r₁ hstore).2.1 ▸ hr ▸ rfl)
      rw [parseExtrinsicByStorage_of_nil codec node c' blockHash r₁ hnil₁] at hstore
      cases hstore
      simp only [getBlockBody, hb, hdec, parseExtrinsicByDecode_stateGetStorageAt,
        parseExtrinsicByStorage_of_nil codec _ c' blockHash r hnil₁] at hbody ⊢
      exact hbody
  rw [getBlockByHash, hc']
  exact congrArg (Prod.mk c') hbody'

/-- `getBlockByHash_events_unread` on the sample block holding a `Staking` call: its empty
report comes back alike when the event storage cannot be read. -/
theorem getBlockByHash_events_unread_sample :
    ∃ c' r, getBlockByHash (sampleCodec (fun _ => .decoded (sampleCall "Staking" "bond" [])) [] sampleEvents)
        (sampleNode sampleRuntime (some (), none) (some sampleBlock) (.string "0x00"))
        sampleClient "0x02" = (c', .ok r) ∧ r.extrinsic = [] ∧
      getBlockByHash (sampleCodec (fun _ => .decoded (sampleCall "Staking" "bond" [])) [] sampleEvents)
        { sampleNode sampleRuntime (some (), none) (some sampleBlock) (.string "0x00") with
          stateGetStorageAt := fun _ _ _ => .error "unavailable" }
        sampleClient "0x02" = (c', .ok r) :=
  ⟨_, _, rfl, rfl, getBlockByHash_events_unread
    (sampleCodec (fun _ => .decoded (sampleCall "Staking" "bond" [])) [] sampleEvents)
    (sampleNode sampleRuntime (some (), none) (some sampleBlock) (.string "0x00")) sampleClient
    "0x02" rfl rfl _⟩

/-! ## Success entries and the event log -/

/-- Every `success` entry of a report of `getBlockByHash` is backed by the event log the
call fetched with the client it returns: a `Balances.Transfer` event of the entry's
extrinsic, whose sender encodes and whose recipient encodes to the entry's address, moved
the entry's amount, and no `System.ExtrinsicFailed` event is attached to that extrinsic.
Nothing keeps two entries from being backed by the same event. -/
theorem getBlockByHash_success_entries {c' : Client Conn Md} {r : BlockResponse}
    (h : getBlockByHash codec node c blockHash = (c', .ok r)) :
    ∀ e ∈ r.extrinsic, e.status = "success" →
      ∃ key hex ier, codec.createStorageKey c'.meta "System" "Events" none = .ok key ∧
        node.stateGetStorageAt c'.c key blockHash = .ok (.string hex) ∧
        codec.decodeEventRecords c'.meta hex c'.chainName = .ok ier ∧
        ∃ ev ∈ ier.balancesTransfer, transferMatches codec c' e.extrinsicIndex e.toAddress ev ∧
          toString ev.value.val = e.amount ∧ extrinsicFailed ier e.extrinsicIndex = false := by
  intro e he hs
  obtain ⟨-, hbody⟩ := getBlockByHash_ok_inv codec node c blockHash h
  obtain ⟨block, -, ⟨-, rfl⟩ | ⟨r₁, hdec, hstore⟩⟩ :=
    getBlockBody_ok_inv codec node c' blockHash hbody
  · cases he
  rcases parseExtrinsicByStorage_cases codec node c' blockHash r₁ with
    ⟨msg, hm⟩ | hsame | ⟨key, hex, ier, hkey, hres, hier, hcorr⟩
  · cases hstore.symm.trans hm
  · -- The correlator left the decode pass's report: no entry has a status.
    cases hstore.symm.trans hsame
    rw [(parseExtrinsicByDecode_unresolved codec node c' hdec e he).1] at hs
    simp at hs
  · cases hstore.symm.trans hcorr
    obtain ⟨e₀, -, rfl⟩ := List.mem_map.1 he
    obtain ⟨ev, hin, hmatch, hamount, hfail⟩ := correlated_success codec c' hs
    exact ⟨key, hex, ier, hkey, hres, hier, ev, hin, hmatch, hamount.symm, hfail⟩

/-- `getBlockByHash_success_entries` in the batch scenario: a block of Alice's transfer to
Bob and her batch of two such transfers, whose log has all three, is reported as three
successful transfers. -/
theorem getBlockByHash_success_entries_sample :
    let node := sampleNode sampleRuntime (some (), none) (some sampleBatchBlock) (.string "0x00")
    ((getBlockByHash sampleBatchCodec node sampleClient "0x02").2.toOption.map fun r =>
      r.extrinsic.map fun e => (e.extrinsicIndex, e.status)) =
      some [(0, "success"), (1, "success"), (1, "success")] ∧
    ∃ c' r, getBlockByHash sampleBatchCodec node sampleClient "0x02" = (c', .ok r) ∧
      ∀ e ∈ r.extrinsic, e.status = "success" →
        ∃ key hex ier,
          sampleBatchCodec.createStorageKey c'.meta "System" "Events" none = .ok key ∧
          node.stateGetStorageAt c'.c key "0x02" = .ok (.string hex) ∧
          sampleBatchCodec.decodeEventRecords c'.meta hex c'.chainName = .ok ier ∧
          ∃ ev ∈ ier.balancesTransfer,
            transferMatches sampleBatchCodec c' e.extrinsicIndex e.toAddress ev ∧
            toString ev.value.val = e.amount ∧ extrinsicFailed ier e.extrinsicIndex = false := by
  intro node
  exact ⟨by decide, _, _, rfl, getBlockByHash_success_entries _ _ sampleClient _ rfl⟩

/-- **Counterexample** to crediting each event once: a batch of Alice's that sends Bob 5
twice, in a block whose log has the one transfer of 5 to Bob, is reported as two
successful transfers of 5 to Bob. -/
theorem getBlockByHash_credits_one_event_twice :
    sampleEvents.balancesTransfer.length = 1 ∧
    ((getBlockByHash
        (sampleCodec (fun _ => .decoded (sampleCall "Utility" "batch" [⟨"calls", .array []⟩]))
          [sampleBatchedTransfer, sampleBatchedTransfer] sampleEvents)
        (sampleNode sampleRuntime (some (), none) (some sampleBlock) (.string "0x00"))
        sampleClient "0x02").2.toOption.map fun r =>
      (r.extrinsic.filter (·.status = "success")).map fun e =>
        (e.extrinsicIndex, e.toAddress, e.amount)) =
      some [(0, Hex.encodeToString sampleBob.bytes, "5"), (0, Hex.encodeToString sampleBob.bytes, "5")] := by
  decide

/-! ## Unresolved reports -/

/-- The block reader at two answers of the node: a block whose event log is `null` is
reported without an error and with its transfer unresolved, and a block that is `null`
makes the call panic. -/
theorem getBlockByHash_null_answers :
    ((getBlockByHash (sampleCodec (fun _ => .decoded sampleTransfer) [] sampleEvents)
        (sampleNode sampleRuntime (some (), none) (some sampleBlock) .null)
        sampleClient "0x02").2.toOption.map fun r =>
      r.extrinsic.map fun e => (e.status, e.type)) = some [("", "")] ∧
    (getBlockByHash (sampleCodec (fun _ => .decoded sampleTransfer) [] sampleEvents)
        (sampleNode sampleRuntime (some (), none) none .null) sampleClient "0x02").2 =
      .error .panic :=
  ⟨by decide, rfl⟩

/-! ## The report of a block, end to end -/

/-- The report the spec describes for a block whose extrinsics decode as `blocks` and whose
event log decodes as `ier`: the header's height and hashes, the block's timestamp, and the
candidates of its extrinsics, each resolved against the events. -/
def blockReport (block : SignedBlock) (blocks : List (String × ExtrinsicDecodeResponse))
    (ier : EventRecords) : BlockResponse :=
  { blockResponseOf blockHash block with
    timestamp := blockTimestamp 0 blocks
    extrinsic := (blockCandidates codec node c block.block.header.parentHash 0 blocks).map
      (correlated codec c ier) }

/-- When the runtime check returns nil, the node sends a block whose extrinsics all decode
and on which no type assertion panics, and the block's event log is read and decodes,
`getBlockByHash` returns the spec's report of the block. -/
theorem getBlockByHash_report {c' : Client Conn Md} {block : SignedBlock}
    {blocks : List (String × ExtrinsicDecodeResponse)} {key hex : String} {ier : EventRecords}
    (hc : checkRuntimeVersion node c = (c', none))
    (hb : node.chainGetBlock c'.c blockHash = .ok (some block))
    (hx : block.block.extrinsics = blocks.map Prod.fst)
    (hdec : ∀ b ∈ blocks, Decodes codec c' b.1 b.2)
    (hp : blocks.any (processingPanics ·.2) = false)
    (hkey : codec.createStorageKey c'.meta "System" "Events" none = .ok key)
    (hres : node.stateGetStorageAt c'.c key blockHash = .ok (.string hex))
    (hier : codec.decodeEventRecords c'.meta hex c'.chainName = .ok ier) :
    getBlockByHash codec node c blockHash =
      (c', .ok (blockReport codec node c' blockHash block blocks ier)) := by
  obtain ⟨t, hdecode⟩ :=
    parseExtrinsicByDecode_eq codec node c' blocks (blockResponseOf blockHash block) hdec
  rw [hp] at hdecode
  simp only [getBlockByHash, hc, getBlockBody, hb, hx]
  split_ifs with hlen
  · simp only [hdecode, parseExtrinsicByStorage,
      parseExtrinsicByStorageBody_of_events codec node c' blockHash _ hkey hres hier]
    rfl
  · obtain rfl : blocks = [] := by simpa using hlen
    rfl

/-- `getBlockByHash_report` on a block holding Alice's transfer to Bob, whose log has that
transfer. -/
theorem getBlockByHash_report_sample :
    getBlockByHash (sampleCodec (fun _ => .decoded sampleTransfer) [] sampleEvents)
        (sampleNode sampleRuntime (some (), none) (some sampleBlock) (.string "0x00"))
        sampleClient "0x02" =
      (sampleClient, .ok (blockReport (sampleCodec (fun _ => .decoded sampleTransfer) [] sampleEvents)
        (sampleNode sampleRuntime (some (), none) (some sampleBlock) (.string "0x00"))
        sampleClient "0x02" sampleBlock [("01", sampleTransfer)] sampleEvents)) :=
  getBlockByHash_report _ _ _ _ rfl rfl rfl
    (fun b hb => by obtain rfl := List.mem_singleton.1 hb; exact ⟨rfl, rfl⟩) rfl rfl rfl rfl

/-- When the client's own type assertions panic on a decoded call of the block, the panic is
recovered into zero transfers: `getBlockByHash` returns the header with no entries and no
error, and the event log is not read. -/
theorem getBlockByHash_panic_report {c' : Client Conn Md} {block : SignedBlock}
    {blocks : List (String × ExtrinsicDecodeResponse)}
    (hc : checkRuntimeVersion node c = (c', none))
    (hb : node.chainGetBlock c'.c blockHash = .ok (some block))
    (hx : block.block.extrinsics = blocks.map Prod.fst)
    (hdec : ∀ b ∈ blocks, Decodes codec c' b.1 b.2)
    (hp : blocks.any (processingPanics ·.2) = true) :
    ∃ t, getBlockByHash codec node c blockHash =
      (c', .ok { blockResponseOf blockHash block with timestamp := t }) := by
  obtain ⟨t, hdecode⟩ :=
    parseExtrinsicByDecode_eq codec node c' blocks (blockResponseOf blockHash block) hdec
  rw [hp] at hdecode
  -- A panicking call makes the block non-empty.
  have hlen : 0 < block.block.extrinsics.length := by
    obtain ⟨b, hb', -⟩ := List.any_eq_true.1 hp
    rw [hx, List.length_map]
    exact List.length_pos_of_mem hb'
  simp only [if_true] at hdecode
  refine ⟨t, ?_⟩
  simp only [getBlockByHash, hc, getBlockBody, hb, if_pos hlen]
  rw [hx, hdecode]
  simp only [parseExtrinsicByStorage_of_nil codec node c' blockHash
    { blockResponseOf blockHash block with timestamp := t, extrinsic := [] } rfl]
  rfl

/-- `getBlockByHash_panic_report` on the sample block read as a `timestamp` call whose `now`
is a string. -/
theorem getBlockByHash_panic_report_sample :
    ∃ t, getBlockByHash
        (sampleCodec (fun _ => .decoded (sampleCall "Timestamp" "set" [⟨"now", .string "x"⟩]))
          [] sampleEvents)
        (sampleNode sampleRuntime (some (), none) (some sampleBlock) (.string "0x00"))
        sampleClient "0x02" =
      (sampleClient, .ok { blockResponseOf "0x02" sampleBlock with timestamp := t }) :=
  @getBlockByHash_panic_report _ _
    (sampleCodec (fun _ => .decoded (sampleCall "Timestamp" "set" [⟨"now", .string "x"⟩]))
      [] sampleEvents)
    (sampleNode sampleRuntime (some (), none) (some sampleBlock) (.string "0x00")) sampleClient
    "0x02" _ _ [("01", sampleCall "Timestamp" "set" [⟨"now", .string "x"⟩])] rfl rfl rfl
    (fun b hb => by obtain rfl := List.mem_singleton.1 hb; exact ⟨rfl, rfl⟩) rfl

end Client

end Bifrost
