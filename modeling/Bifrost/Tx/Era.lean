import Bifrost.Tx.Types

/-!
# The era of a transaction

`getEra` packs the era of a transaction into the two bytes of a `types.MortalEra`. It fixes
the era's period at `2 ^ 6 = 64` (`index := 6`), takes the phase modulo `eraPeriod`, and
splits `encoded = 5 + (phase << 4)` into `first`, its high byte, and `second`, its low
byte. SCALE writes `first` and then `second`, and the chain reads the first byte on the
wire as the low byte of the era's value.

* `getEra_spec`: for a non-zero block number and period, the era is mortal and its two
  bytes hold `5 + 16 * (blockNumber mod eraPeriod)` modulo `2 ^ 16`.
* `getEra_encoded`: that value is exact exactly when the phase is below 4096.
* `getEra_window`: read as `second + 256 * first`, the era has period 64 and the phase
  modulo 4096, so it is valid exactly when that phase is below 64.
* `getEra_read_immortal`: read as the chain reads it, the era of every phase below 16
  (modulo 4096) is immortal.
-/

namespace Bifrost

namespace Tx

/-! ## The model -/

/-- `getEra`: no era for a zero block number or period; otherwise a mortal era. -/
def getEra (tx : SubstrateTransaction) : Option ExtrinsicEra :=
  if tx.blockNumber = 0 ∨ tx.eraPeriod = 0 then none
  else
    let phase := tx.blockNumber % tx.eraPeriod
    let index : UInt64 := 6
    let trailingZero := index - 1
    -- The source first sets `encoded` to `trailingZero` or 1, then overwrites it.
    let encoded : UInt64 := if trailingZero < 15 then trailingZero else 15
    -- Go parses `phase / 1 << 4` as `(phase / 1) << 4`.
    let encoded := encoded + (phase / 1) <<< 4
    some { isImmortalEra := false, isMortalEra := true
           asMortalEra := ⟨(encoded >>> 8).toUInt8, (encoded &&& 0xff).toUInt8⟩ }

/-- `ExtrinsicEra.Encode` of the RPC library: `0` for an immortal era, otherwise the bytes
`first` and `second`, in this order. -/
def ExtrinsicEra.encode (era : ExtrinsicEra) : List UInt8 :=
  if era.isImmortalEra then [0] else [era.asMortalEra.first, era.asMortalEra.second]

/-! ## The chain's reading of an era -/

/-- The period of a mortal era with the 16-bit value `e`, by the chain's rule. -/
def mortalPeriod (e : Nat) : Nat := 2 ^ (e % 16 + 1)

/-- The phase of a mortal era with the value `e`, quantized for periods above 4096. -/
def mortalPhase (e : Nat) : Nat := e / 16 * max (mortalPeriod e / 4096) 1

/-- Whether the chain accepts the value `e` as a mortal era. -/
def mortalValid (e : Nat) : Bool := 4 ≤ mortalPeriod e && mortalPhase e < mortalPeriod e

/-- An era as the chain decodes it. -/
inductive ChainEra where
  | immortal
  | mortal (period phase : Nat)
  deriving DecidableEq, Repr

/-- The chain's era decoder: a first byte `0` is an immortal era; otherwise the first two
bytes are the era's value, the first one low, and an invalid value is rejected. -/
def decodeEra : List UInt8 → Option ChainEra
  | [] => none
  | first :: rest =>
    if first = 0 then some .immortal
    else
      match rest with
      | [] => none
      | second :: _ =>
        let e := first.toNat + 256 * second.toNat
        if mortalValid e then some (.mortal (mortalPeriod e) (mortalPhase e)) else none

/-- The value `getEra` means its two bytes to hold, `first` the high byte. -/
def eraValue (era : ExtrinsicEra) : Nat :=
  era.asMortalEra.second.toNat + 256 * era.asMortalEra.first.toNat

/-! ## `uint64` arithmetic -/

theorem UInt64.toNat_add' (a b : UInt64) : (a + b).toNat = (a.toNat + b.toNat) % 2 ^ 64 := by
  show (a.toBitVec + b.toBitVec).toNat = _
  rw [BitVec.toNat_add]
  rfl

theorem UInt64.toNat_shiftLeft_four (a : UInt64) : (a <<< 4).toNat = a.toNat * 16 % 2 ^ 64 := by
  show (a.toBitVec <<< (UInt64.mod 4 64).toBitVec).toNat = _
  rw [BitVec.shiftLeft_eq', BitVec.toNat_shiftLeft]
  simp [Nat.shiftLeft_eq]
  rfl

theorem UInt64.toNat_shiftRight_eight (a : UInt64) : (a >>> 8).toNat = a.toNat / 256 := by
  show (a.toBitVec >>> (UInt64.mod 8 64).toBitVec).toNat = _
  rw [BitVec.ushiftRight_eq', BitVec.toNat_ushiftRight]
  simp [Nat.shiftRight_eq_div_pow]
  rfl

theorem UInt64.toNat_and_255 (a : UInt64) : (a &&& 255).toNat = a.toNat % 256 := by
  rw [UInt64.and_toNat]
  exact Nat.and_pow_two_sub_one_eq_mod a.toNat 8

theorem UInt64.toNat_toUInt8 (a : UInt64) : a.toUInt8.toNat = a.toNat % 256 := by
  simp [UInt64.toUInt8, UInt8.toNat, UInt8.ofNat]

/-! ## What the two bytes hold -/

/-- For a non-zero block number and period, `getEra` returns a mortal era whose two bytes
hold `5 + 16 * (blockNumber mod eraPeriod)`, less the bits above the sixteenth. -/
theorem getEra_spec (tx : SubstrateTransaction) (hb : tx.blockNumber ≠ 0)
    (hp : tx.eraPeriod ≠ 0) :
    ∃ era, getEra tx = some era ∧ era.isMortalEra = true ∧ era.isImmortalEra = false ∧
      eraValue era = (5 + 16 * (tx.blockNumber.toNat % tx.eraPeriod.toNat)) % 65536 := by
  refine ⟨_, if_neg (not_or.2 ⟨hb, hp⟩), rfl, rfl, ?_⟩
  have hphase :
      (tx.blockNumber % tx.eraPeriod / 1).toNat = tx.blockNumber.toNat % tx.eraPeriod.toNat := by
    simp
  have hlt := (tx.blockNumber % tx.eraPeriod / 1).toNat_lt_size
  -- `trailingZero` is 5, below 15.
  have hfive : (if (6 : UInt64) - 1 < 15 then 6 - 1 else (15 : UInt64)).toNat = 5 := by decide
  simp only [eraValue, UInt64.toNat_toUInt8, UInt64.toNat_and_255, UInt64.toNat_shiftRight_eight,
    UInt64.toNat_add', UInt64.toNat_shiftLeft_four, hphase, hfive]
  simp only [UInt64.size] at hlt
  omega

/-- The era's two bytes hold `5 + 16 * (blockNumber mod eraPeriod)` modulo `2 ^ 16`, and
hold it exactly when the phase is below 4096: above, its high bits are lost. -/
theorem getEra_encoded (tx : SubstrateTransaction) (hb : tx.blockNumber ≠ 0)
    (hp : tx.eraPeriod ≠ 0) :
    ∃ era, getEra tx = some era ∧ era.isMortalEra = true ∧
      eraValue era = (5 + 16 * (tx.blockNumber.toNat % tx.eraPeriod.toNat)) % 65536 ∧
      (eraValue era = 5 + 16 * (tx.blockNumber.toNat % tx.eraPeriod.toNat) ↔
        tx.blockNumber.toNat % tx.eraPeriod.toNat < 4096) := by
  obtain ⟨era, h, hm, -, hv⟩ := getEra_spec tx hb hp
  exact ⟨era, h, hm, hv, by rw [hv]; omega⟩

/-- `getEra_encoded` at block 100 and period 64. -/
theorem getEra_encoded_sampleTx :
    (sampleTx 100 64).blockNumber ≠ 0 ∧ (sampleTx 100 64).eraPeriod ≠ 0 ∧
    ∃ era, getEra (sampleTx 100 64) = some era ∧ era.isMortalEra = true ∧
      eraValue era =
        (5 + 16 * ((sampleTx 100 64).blockNumber.toNat % (sampleTx 100 64).eraPeriod.toNat)) % 65536 ∧
      (eraValue era = 5 + 16 * ((sampleTx 100 64).blockNumber.toNat % (sampleTx 100 64).eraPeriod.toNat) ↔
        (sampleTx 100 64).blockNumber.toNat % (sampleTx 100 64).eraPeriod.toNat < 4096) :=
  ⟨by decide, by decide, getEra_encoded (sampleTx 100 64) (by decide) (by decide)⟩

/-- **Counterexample** to an exact encoding: at block 4096 and period 4097 the phase is
4096, and the two bytes hold 5 where `5 + 16 * 4096` was meant. -/
theorem getEra_drops_high_bits :
    getEra (sampleTx 4096 4097) = some ⟨false, true, ⟨0, 5⟩⟩ ∧
      eraValue ⟨false, true, ⟨0, 5⟩⟩ ≠ 5 + 16 * (4096 % 4097) := by
  decide

/-! ## How the chain reads the era -/

/-- Read as `second + 256 * first`, the era has period 64, the period `index := 6` fixes,
and the phase `blockNumber mod eraPeriod` modulo 4096; it is valid exactly when that phase
is below 64, so always when the period asked for is 64, and then its window holds the
block. -/
theorem getEra_window (tx : SubstrateTransaction) (hb : tx.blockNumber ≠ 0)
    (hp : tx.eraPeriod ≠ 0) :
    ∃ era, getEra tx = some era ∧ era.isMortalEra = true ∧
      mortalPeriod (eraValue era) = 64 ∧
      mortalPhase (eraValue era) = tx.blockNumber.toNat % tx.eraPeriod.toNat % 4096 ∧
      (mortalValid (eraValue era) = true ↔ tx.blockNumber.toNat % tx.eraPeriod.toNat % 4096 < 64) ∧
      (tx.eraPeriod = 64 → mortalValid (eraValue era) = true ∧
        mortalPhase (eraValue era) = tx.blockNumber.toNat % mortalPeriod (eraValue era)) := by
  obtain ⟨era, h, hm, -, hv⟩ := getEra_spec tx hb hp
  have hmod : eraValue era % 16 = 5 := by omega
  have hdiv : eraValue era / 16 = tx.blockNumber.toNat % tx.eraPeriod.toNat % 4096 := by omega
  have hperiod : mortalPeriod (eraValue era) = 64 := by simp [mortalPeriod, hmod]
  have hphase : mortalPhase (eraValue era) = tx.blockNumber.toNat % tx.eraPeriod.toNat % 4096 := by
    simp [mortalPhase, hperiod, hdiv]
  refine ⟨era, h, hm, hperiod, hphase, by simp [mortalValid, hperiod, hphase], fun h64 => ?_⟩
  have hP : tx.eraPeriod.toNat = 64 := by rw [h64]; rfl
  rw [hP] at hphase
  exact ⟨by simp [mortalValid, hperiod, hphase]; omega, by rw [hphase, hperiod]; omega⟩

/-- `getEra_window` at block 100 and period 64. -/
theorem getEra_window_sampleTx :
    (sampleTx 100 64).blockNumber ≠ 0 ∧ (sampleTx 100 64).eraPeriod ≠ 0 ∧
    ∃ era, getEra (sampleTx 100 64) = some era ∧ era.isMortalEra = true ∧
      mortalPeriod (eraValue era) = 64 ∧
      mortalPhase (eraValue era) =
        (sampleTx 100 64).blockNumber.toNat % (sampleTx 100 64).eraPeriod.toNat % 4096 ∧
      (mortalValid (eraValue era) = true ↔
        (sampleTx 100 64).blockNumber.toNat % (sampleTx 100 64).eraPeriod.toNat % 4096 < 64) ∧
      ((sampleTx 100 64).eraPeriod = 64 → mortalValid (eraValue era) = true ∧
        mortalPhase (eraValue era) = (sampleTx 100 64).blockNumber.toNat % mortalPeriod (eraValue era)) :=
  ⟨by decide, by decide, getEra_window (sampleTx 100 64) (by decide) (by decide)⟩

/-- **Counterexample** to the chain accepting every era `getEra` makes: the era of block
100 with period 128 is written as the bytes 6 and 69 and rejected, and the era of block
128 with period 64 is written as 0 and 5 and read as immortal. -/
theorem getEra_misread_by_chain :
    getEra (sampleTx 100 128) = some ⟨false, true, ⟨6, 69⟩⟩ ∧
      decodeEra (ExtrinsicEra.encode ⟨false, true, ⟨6, 69⟩⟩) = none ∧
    getEra (sampleTx 128 64) = some ⟨false, true, ⟨0, 5⟩⟩ ∧
      decodeEra (ExtrinsicEra.encode ⟨false, true, ⟨0, 5⟩⟩) = some .immortal := by
  decide

/-- The chain reads the era's bytes in the other order, the first one low. So for every
block number and period whose phase, modulo 4096, is below 16, the era `getEra` writes
starts with the byte 0, and the chain takes the transaction for an immortal one. -/
theorem getEra_read_immortal (tx : SubstrateTransaction) (hb : tx.blockNumber ≠ 0)
    (hp : tx.eraPeriod ≠ 0) (hsmall : tx.blockNumber.toNat % tx.eraPeriod.toNat % 4096 < 16) :
    ∃ era, getEra tx = some era ∧ decodeEra era.encode = some .immortal := by
  obtain ⟨era, h, -, himm, hv⟩ := getEra_spec tx hb hp
  refine ⟨era, h, ?_⟩
  -- The value is below 256, so the high byte, written first, is 0.
  have hfirst : era.asMortalEra.first = 0 := by
    have hsecond := era.asMortalEra.second.toNat_lt_size
    apply UInt8.toNat.inj
    simp only [eraValue] at hv
    simp only [UInt8.size] at hsecond
    show era.asMortalEra.first.toNat = 0
    omega
  simp [ExtrinsicEra.encode, himm, decodeEra, hfirst]

/-- `getEra_read_immortal` at block 128 with period 64. -/
theorem getEra_read_immortal_sampleTx :
    (sampleTx 128 64).blockNumber ≠ 0 ∧ (sampleTx 128 64).eraPeriod ≠ 0 ∧
    (sampleTx 128 64).blockNumber.toNat % (sampleTx 128 64).eraPeriod.toNat % 4096 < 16 ∧
    ∃ era, getEra (sampleTx 128 64) = some era ∧ decodeEra era.encode = some .immortal :=
  ⟨by decide, by decide, by decide, getEra_read_immortal _ (by decide) (by decide) (by decide)⟩

end Tx

end Bifrost
