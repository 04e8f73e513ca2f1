import Bifrost.Client.Decode

/-!
# The event correlator

`parseExtrinsicByStorage` fetches the block's `System.Events`, decodes them, and gives each
entry of the report its final status. It records the indices of the `System.ExtrinsicFailed`
events and reads a transfer off every `Balances.Transfer` event of an extrinsic whose
sender and recipient both encode; an entry is then `success` when a transfer of its
extrinsic goes to its address and the extrinsic did not fail, and `fail` otherwise, and it
takes the amount of the last such transfer.

A panic while fetching or decoding the events is recovered by a deferred handler, which
writes the local `err` only: the function then returns nil with the entries untouched.

* `resolveEntry_eq`: the status loop, for one entry, gives the spec's `correlated` entry.
* `parseExtrinsicByStorage_eq`: a run that fetches and decodes the events reports every
  entry correlated, in place, and changes nothing else.
* `parseExtrinsicByStorage_cases`: a run ends in an error, in the report unchanged, or in
  the report correlated with the events it fetched.
* `parseExtrinsicByStorage_error_names_step`: an error opens with the text of the step
  that failed.
-/

namespace Bifrost

namespace Client

variable {Conn Md : Type} (codec : Codec Md) (node : Node Conn Md) (c : Client Conn Md)

/-! ## The model -/

/-- The indices of the extrinsics a `System.ExtrinsicFailed` event is attached to, the keys
of `failedMap`. -/
def failedIndices (ier : EventRecords) : List Nat :=
  ier.systemExtrinsicFailed.filterMap fun failed =>
    match failed.phase with
    | .applyExtrinsic idx => some idx.toNat
    | _ => none

/-- The transfer the event loop reads off one `Balances.Transfer` event; `none` is a
`continue`, for an event outside an extrinsic or one whose sender or recipient does not
encode. -/
def eventResult (ebt : EventBalancesTransfer) : Option EventResult :=
  match ebt.phase with
  | .applyExtrinsic idx =>
    match codec.encodeByPubHex (Hex.encodeToString ebt.from.bytes) c.prefixBytes with
    | .error _ => none
    | .ok «from» =>
      match codec.encodeByPubHex (Hex.encodeToString ebt.to.bytes) c.prefixBytes with
      | .error _ => none
      | .ok «to» =>
        some { extrinsicIdx := idx.toNat, «from» := «from», «to» := «to»
               amount := toString ebt.value.val }
  | _ => none

/-- The event scan: `failedMap` and `res`, both filled only when the block has a
`Balances.Transfer` event at all. -/
def scanEvents (ier : EventRecords) : List Nat × List EventResult :=
  if 0 < ier.balancesTransfer.length then
    (failedIndices ier, ier.balancesTransfer.filterMap (eventResult codec c))
  else ([], [])

/-- One pass of the inner status loop: a transfer of the entry's extrinsic to the entry's
address marks it `success`, or `fail` when the extrinsic failed, and overwrites the amount
and the address with the event's. -/
def resolveStep (failedMap : List Nat) (e : ExtrinsicResponse) (r : EventResult) :
    ExtrinsicResponse :=
  if e.extrinsicIndex = r.extrinsicIdx ∧ e.toAddress = r.to then
    { e with
      status := if e.extrinsicIndex ∈ failedMap then "fail" else "success"
      type := "transfer", amount := r.amount, toAddress := r.to }
  else e

/-- The status loop for one entry: `fail` and `transfer` first, then every transfer read off
the events in turn. (The source's `len(res) > 0` guard only skips an empty loop.) -/
def resolveEntry (failedMap : List Nat) (res : List EventResult) (e : ExtrinsicResponse) :
    ExtrinsicResponse :=
  res.foldl (resolveStep failedMap) { e with status := "fail", type := "transfer" }

/-- The body of `parseExtrinsicByStorage` up to its last `return`, as a Go computation that
may still be panicking. -/
def parseExtrinsicByStorageBody (blockHash : String) (blockResp : BlockResponse) :
    Except Exit BlockResponse :=
  if blockResp.extrinsic.length ≤ 0 then .ok blockResp
  else
    match (codec.createStorageKey c.meta "System" "Events" none).mapError
        (Exit.wrap "create storage key error: ") with
    | .error e => .error e
    | .ok key =>
      match errorf "get storage data error: " (node.stateGetStorageAt c.c key blockHash) with
      | .error e => .error e
      | .ok result =>
        -- `result.(string)` panics on anything but a JSON string, a `null` included.
        match result with
        | .string hex =>
          match (codec.decodeEventRecords c.meta hex c.chainName).mapError
              (Exit.wrap "decode event data error: ") with
          | .error e => .error e
          | .ok ier =>
            let (failedMap, res) := scanEvents codec c ier
            .ok { blockResp with extrinsic := blockResp.extrinsic.map (resolveEntry failedMap res) }
        | _ => .error .panic

/-- `parseExtrinsicByStorage`. The deferred `recover` assigns the local `err`, not the
result, so after a panic the function returns nil with the report as the panic left it,
which is untouched. -/
def parseExtrinsicByStorage (blockHash : String) (blockResp : BlockResponse) :
    Except String BlockResponse :=
  match parseExtrinsicByStorageBody codec node c blockHash blockResp with
  | .ok r => .ok r
  | .error (.error msg) => .error msg
  | .error .panic => .ok blockResp

/-! ## The correlation the spec describes -/

/-- Whether a phase is that of extrinsic `i`. -/
def appliesTo (i : Nat) : Phase → Bool
  | .applyExtrinsic idx => idx.toNat = i
  | _ => false

/-- Whether event `ev` is a transfer of extrinsic `i` to address `addr`: it is attached to
the extrinsic, its sender encodes, and its recipient encodes to `addr`. -/
def transferMatches (i : Nat) (addr : String) (ev : EventBalancesTransfer) : Bool :=
  appliesTo i ev.phase &&
    (match codec.encodeByPubHex (Hex.encodeToString ev.from.bytes) c.prefixBytes with
      | .ok _ => true
      | .error _ => false) &&
    (match codec.encodeByPubHex (Hex.encodeToString ev.to.bytes) c.prefixBytes with
      | .ok «to» => «to» = addr
      | .error _ => false)

/-- The transfer events the spec matches to entry `e`, `M(e)`. -/
def matchingTransfers (ier : EventRecords) (e : ExtrinsicResponse) :
    List EventBalancesTransfer :=
  ier.balancesTransfer.filter (transferMatches codec c e.extrinsicIndex e.toAddress)

/-- Whether a `System.ExtrinsicFailed` event is attached to extrinsic `i`. -/
def extrinsicFailed (ier : EventRecords) (i : Nat) : Bool :=
  ier.systemExtrinsicFailed.any fun failed => appliesTo i failed.phase

/-- Entry `e` as the spec says the correlator leaves it: of type `transfer`; `success`
exactly when a transfer event matches it and its extrinsic did not fail, `fail` otherwise;
with the amount of the last matching event, or its own when none matches. -/
def correlated (ier : EventRecords) (e : ExtrinsicResponse) : ExtrinsicResponse :=
  { e with
    type := "transfer"
    status := if (matchingTransfers codec c ier e).isEmpty || extrinsicFailed ier e.extrinsicIndex
      then "fail" else "success"
    amount := ((matchingTransfers codec c ier e).getLast?).elim e.amount
      fun ev => toString ev.value.val }

/-! ## The status loop computes the correlation -/

/-- The transfer read off an event matches an entry exactly when the event does, and it
carries the event's amount. -/
theorem eventResult_spec (i : Nat) (addr : String) (ev : EventBalancesTransfer) :
    match eventResult codec c ev with
    | none => transferMatches codec c i addr ev = false
    | some r => decide (i = r.extrinsicIdx ∧ addr = r.to) = transferMatches codec c i addr ev ∧
        r.amount = toString ev.value.val := by
  unfold eventResult transferMatches
  cases ev.phase with
  | applyExtrinsic idx =>
    cases codec.encodeByPubHex (Hex.encodeToString ev.from.bytes) c.prefixBytes <;>
      cases codec.encodeByPubHex (Hex.encodeToString ev.to.bytes) c.prefixBytes <;>
      simp [appliesTo, eq_comm]
  | finalization | initialization => simp [appliesTo]

/-- The status loop over the transfers read off a list of events leaves an entry of type
`transfer` as it was when no event matches it, and otherwise sets its status from the
failure set and its amount from the last matching event. -/
theorem foldl_resolveStep (failedMap : List Nat) :
    ∀ (evs : List EventBalancesTransfer) (e : ExtrinsicResponse), e.type = "transfer" →
      (evs.filterMap (eventResult codec c)).foldl (resolveStep failedMap) e =
        if evs.filter (transferMatches codec c e.extrinsicIndex e.toAddress) = [] then e
        else { e with
          status := if e.extrinsicIndex ∈ failedMap then "fail" else "success"
          amount :=
            ((evs.filter (transferMatches codec c e.extrinsicIndex e.toAddress)).getLast?).elim
              e.amount fun ev => toString ev.value.val }
  | [], e, _ => by simp
  | ev :: evs, e, htype => by
    have hspec := eventResult_spec codec c e.extrinsicIndex e.toAddress ev
    rcases hr : eventResult codec c ev with _ | r
    · rw [hr] at hspec
      simp only [List.filterMap_cons, hr, List.filter_cons, hspec]
      exact foldl_resolveStep failedMap evs e htype
    · rw [hr] at hspec
      obtain ⟨hmatch, hamount⟩ := hspec
      simp only [List.filterMap_cons, hr, List.foldl_cons, List.filter_cons, ← hmatch]
      by_cases hm : e.extrinsicIndex = r.extrinsicIdx ∧ e.toAddress = r.to
      · -- A matching transfer: the status and amount are set, index and address kept.
        have hstep : resolveStep failedMap e r =
            { e with
              status := if e.extrinsicIndex ∈ failedMap then "fail" else "success"
              amount := r.amount } := by
          rw [resolveStep, if_pos hm, ← hm.2, ← htype]
        rw [hstep, foldl_resolveStep failedMap evs _ (by exact htype), decide_eq_true hm]
        cases evs.filter (transferMatches codec c e.extrinsicIndex e.toAddress) <;>
          simp [hamount, List.getLast?_cons]
      · simp only [resolveStep, if_neg hm, decide_eq_false hm]
        exact foldl_resolveStep failedMap evs e htype

/-- An extrinsic index is a key of `failedMap` exactly when a `System.ExtrinsicFailed`
event is attached to it. -/
theorem mem_failedIndices (ier : EventRecords) (i : Nat) :
    i ∈ failedIndices ier ↔ extrinsicFailed ier i = true := by
  simp only [failedIndices, extrinsicFailed, List.mem_filterMap, List.any_eq_true]
  refine exists_congr fun failed => and_congr_right fun _ => ?_
  cases failed.phase <;> simp [appliesTo]

/-- For one entry, the status loop after the event scan gives the spec's correlated
entry. -/
theorem resolveEntry_eq (ier : EventRecords) (e : ExtrinsicResponse) :
    resolveEntry (scanEvents codec c ier).1 (scanEvents codec c ier).2 e =
      correlated codec c ier e := by
  unfold resolveEntry correlated matchingTransfers
  by_cases hlen : 0 < ier.balancesTransfer.length
  · rw [scanEvents, if_pos hlen, foldl_resolveStep codec c _ _ _ rfl]
    cases ier.balancesTransfer.filter (transferMatches codec c e.extrinsicIndex e.toAddress) <;>
      simp [mem_failedIndices]
  · simp [scanEvents, List.eq_nil_of_length_eq_zero (Nat.eq_zero_of_not_pos hlen)]

/-- A correlated entry is `success` only when a transfer event of its extrinsic goes to its
address, with the entry's amount, and the extrinsic did not fail: the last event of
`M(e)`. -/
theorem correlated_success {ier : EventRecords} {e : ExtrinsicResponse}
    (h : (correlated codec c ier e).status = "success") :
    ∃ ev ∈ ier.balancesTransfer, transferMatches codec c e.extrinsicIndex e.toAddress ev ∧
      (correlated codec c ier e).amount = toString ev.value.val ∧
      extrinsicFailed ier e.extrinsicIndex = false := by
  unfold correlated at h ⊢
  split_ifs at h with hf
  · simp at h
  simp only [Bool.or_eq_true, not_or, Bool.not_eq_true, List.isEmpty_eq_false] at hf
  obtain ⟨hne, hfail⟩ := hf
  rcases hm : (matchingTransfers codec c ier e).getLast? with _ | ev
  · exact absurd (List.getLast?_eq_none_iff.1 hm) hne
  · obtain ⟨hin, hmatch⟩ := List.mem_filter.1 (List.mem_of_getLast?_eq_some hm)
    exact ⟨ev, hin, hmatch, by simp [hm], hfail⟩

/-! ## The correlator -/

section Events

variable (blockHash : String) (blockResp : BlockResponse) {key hex : String} {ier : EventRecords}

/-- The body of the correlator, once it has fetched and decoded the block's events, reports
every entry correlated with them. -/
theorem parseExtrinsicByStorageBody_of_events
    (hkey : codec.createStorageKey c.meta "System" "Events" none = .ok key)
    (hres : node.stateGetStorageAt c.c key blockHash = .ok (.string hex))
    (hier : codec.decodeEventRecords c.meta hex c.chainName = .ok ier) :
    parseExtrinsicByStorageBody codec node c blockHash blockResp =
      .ok { blockResp with extrinsic := blockResp.extrinsic.map (correlated codec c ier) } := by
  unfold parseExtrinsicByStorageBody
  split_ifs with hlen
  · obtain ⟨h, p, b, t, ex⟩ := blockResp
    obtain rfl := List.length_eq_zero.1 (Nat.le_zero.1 hlen)
    rfl
  · simp only [hkey, hres, hier, Except.mapError, errorf]
    congr
    funext e
    exact resolveEntry_eq codec c ier e

/-- A run of `parseExtrinsicByStorage` that fetches and decodes the block's events reports
every entry correlated with them, in place, and changes nothing else. -/
theorem parseExtrinsicByStorage_eq
    (hkey : codec.createStorageKey c.meta "System" "Events" none = .ok key)
    (hres : node.stateGetStorageAt c.c key blockHash = .ok (.string hex))
    (hier : codec.decodeEventRecords c.meta hex c.chainName = .ok ier) :
    parseExtrinsicByStorage codec node c blockHash blockResp =
      .ok { blockResp with extrinsic := blockResp.extrinsic.map (correlated codec c ier) } := by
  simp [parseExtrinsicByStorage,
    parseExtrinsicByStorageBody_of_events codec node c blockHash blockResp hkey hres hier]

/-- `parseExtrinsicByStorage_eq` in the batch scenario: the decode pass's report of Alice's
transfer to Bob and her batch of two such transfers, correlated with the log of all three. -/
theorem parseExtrinsicByStorage_eq_sample :
    let node := sampleNode sampleRuntime (some (), none) none (.string "0x00")
    ∃ r, parseExtrinsicByDecode sampleBatchCodec node sampleClient ["01", "02"] default = .ok r ∧
      sampleBatchCodec.createStorageKey sampleClient.meta "System" "Events" none = .ok "0x26aa" ∧
      node.stateGetStorageAt sampleClient.c "0x26aa" "0x02" = .ok (.string "0x00") ∧
      sampleBatchCodec.decodeEventRecords sampleClient.meta "0x00" sampleClient.chainName =
        .ok sampleBatchEvents ∧
      parseExtrinsicByStorage sampleBatchCodec node sampleClient "0x02" r =
        .ok { r with extrinsic := r.extrinsic.map (correlated sampleBatchCodec sampleClient
          sampleBatchEvents) } := by
  intro node
  exact ⟨_, rfl, rfl, rfl, rfl, parseExtrinsicByStorage_eq _ _ _ _ _ rfl rfl rfl⟩

/-- A body that returns has either nothing to correlate, or fetched and decoded the block's
events and correlated every entry with them. -/
theorem parseExtrinsicByStorageBody_ok_inv {r : BlockResponse}
    (h : parseExtrinsicByStorageBody codec node c blockHash blockResp = .ok r) :
    r = blockResp ∨ ∃ key hex ier,
      codec.createStorageKey c.meta "System" "Events" none = .ok key ∧
      node.stateGetStorageAt c.c key blockHash = .ok (.string hex) ∧
      codec.decodeEventRecords c.meta hex c.chainName = .ok ier ∧
      r = { blockResp with extrinsic := blockResp.extrinsic.map (correlated codec c ier) } := by
  by_cases hlen : blockResp.extrinsic.length ≤ 0
  · simp only [parseExtrinsicByStorageBody, if_pos hlen, Except.ok.injEq] at h
    exact .inl h.symm
  rcases hkey : codec.createStorageKey c.meta "System" "Events" none with _ | key
  · simp [parseExtrinsicByStorageBody, hlen, hkey, Except.mapError] at h
  rcases hres : node.stateGetStorageAt c.c key blockHash with _ | (_ | _ | _ | hex | _ | _) <;>
    simp [parseExtrinsicByStorageBody, hlen, hkey, hres, Except.mapError, errorf] at h
  rcases hier : codec.decodeEventRecords c.meta hex c.chainName with _ | ier
  · simp [hier, Except.mapError] at h
  · have hentry := funext (resolveEntry_eq codec c ier)
    simp only [hier, Except.mapError, hentry, Except.ok.injEq] at h
    exact .inr ⟨key, hex, ier, rfl, hres, hier, h.symm⟩

/-- Everything a run of `parseExtrinsicByStorage` can end in: an error; the report it was
given, unchanged, which is also where a panic leaves it; or the report with every entry
correlated with the event log the run fetched and decoded. -/
theorem parseExtrinsicByStorage_cases :
    (∃ msg, parseExtrinsicByStorage codec node c blockHash blockResp = .error msg) ∨
    parseExtrinsicByStorage codec node c blockHash blockResp = .ok blockResp ∨
    ∃ key hex ier,
      codec.createStorageKey c.meta "System" "Events" none = .ok key ∧
      node.stateGetStorageAt c.c key blockHash = .ok (.string hex) ∧
      codec.decodeEventRecords c.meta hex c.chainName = .ok ier ∧
      parseExtrinsicByStorage codec node c blockHash blockResp =
        .ok { blockResp with extrinsic := blockResp.extrinsic.map (correlated codec c ier) } := by
  rcases hbody : parseExtrinsicByStorageBody codec node c blockHash blockResp with
    (msg | _) | r
  · exact .inl ⟨msg, by simp [parseExtrinsicByStorage, hbody]⟩
  · exact .inr (.inl (by simp [parseExtrinsicByStorage, hbody]))
  · simp only [parseExtrinsicByStorage, hbody]
    rcases parseExtrinsicByStorageBody_ok_inv codec node c blockHash blockResp hbody with
      rfl | ⟨key, hex, ier, hkey, hres, hier, rfl⟩
    · exact .inr (.inl rfl)
    · exact .inr (.inr ⟨key, hex, ier, hkey, hres, hier, rfl⟩)

/-- The correlator leaves the report's height and hashes as they were, and as many
entries; each entry it returns is one it was given, with the same index, transaction id
and fee. -/
theorem parseExtrinsicByStorage_frame {r : BlockResponse}
    (h : parseExtrinsicByStorage codec node c blockHash blockResp = .ok r) :
    (r.height = blockResp.height ∧ r.parentHash = blockResp.parentHash ∧
      r.blockHash = blockResp.blockHash) ∧ r.extrinsic.length = blockResp.extrinsic.length ∧
    ∀ e ∈ r.extrinsic, ∃ e₀ ∈ blockResp.extrinsic,
      e.extrinsicIndex = e₀.extrinsicIndex ∧ e.txid = e₀.txid ∧ e.fee = e₀.fee := by
  rcases parseExtrinsicByStorage_cases codec node c blockHash blockResp with
    ⟨msg, hm⟩ | hsame | ⟨_, _, _, -, -, -, hcorr⟩
  · cases h.symm.trans hm
  · cases h.symm.trans hsame
    exact ⟨⟨rfl, rfl, rfl⟩, rfl, fun e he => ⟨e, he, rfl, rfl, rfl⟩⟩
  · cases h.symm.trans hcorr
    refine ⟨⟨rfl, rfl, rfl⟩, List.length_map _ _, fun e he => ?_⟩
    obtain ⟨e₀, he₀, rfl⟩ := List.mem_map.1 he
    exact ⟨e₀, he₀, rfl, rfl, rfl⟩

/-- With no entries to resolve, the correlator returns the report without asking the node
for anything. -/
theorem parseExtrinsicByStorage_of_nil (h : blockResp.extrinsic = []) :
    parseExtrinsicByStorage codec node c blockHash blockResp = .ok blockResp := by
  simp [parseExtrinsicByStorage, parseExtrinsicByStorageBody, h]

/-- The texts that open the errors of the correlator, one for each step that can fail:
building the storage key, reading the storage, and decoding the events. -/
def storageErrorPrefixes : List String :=
  ["create storage key error: ", "get storage data error: ", "decode event data error: "]

/-- Every error the correlator returns names the step that failed. -/
theorem parseExtrinsicByStorage_error_names_step {msg : String}
    (h : parseExtrinsicByStorage codec node c blockHash blockResp = .error msg) :
    hasPrefixIn storageErrorPrefixes msg = true := by
  have hbody : parseExtrinsicByStorageBody codec node c blockHash blockResp =
      .error (.error msg) := by
    unfold parseExtrinsicByStorage at h
    split at h <;> cases h
    assumption
  have hlen : ¬blockResp.extrinsic.length ≤ 0 := fun hlen => by
    simp [parseExtrinsicByStorageBody, hlen] at hbody
  rcases hkey : codec.createStorageKey c.meta "System" "Events" none with (m | _) | key <;>
    simp only [parseExtrinsicByStorageBody, hlen, hkey, if_false, Except.mapError, Exit.wrap,
      Except.error.injEq, Exit.error.injEq, reduceCtorEq] at hbody
  · exact hbody ▸ hasPrefixIn_append (by decide) _
  rcases hres : node.stateGetStorageAt c.c key blockHash with m | (_ | _ | _ | hex | _ | _) <;>
    simp only [hres, errorf_error, errorf_ok, Except.error.injEq, Exit.error.injEq,
      reduceCtorEq] at hbody
  · exact hbody ▸ hasPrefixIn_append (by decide) _
  rcases hier : codec.decodeEventRecords c.meta hex c.chainName with (m | _) | ier <;>
    simp only [hier, Except.mapError, Exit.wrap, Except.error.injEq, Exit.error.injEq,
      reduceCtorEq] at hbody
  exact hbody ▸ hasPrefixIn_append (by decide) _

end Events

end Client

end Bifrost
