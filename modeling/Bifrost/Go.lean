import Mathlib.Data.List.Basic
import Mathlib.Algebra.Group.Nat.Basic
import Mathlib.Algebra.Group.Int
import Mathlib.Data.Nat.Digits

/-!
# The Go the client is written in

The client is Go code, and the parts of Go and of its standard library that the modelled
functions rely on are fixed here once.

* `Exit`: how a call ends when it does not return its results, either with a non-nil
  `error` or with a panic that is still unwinding. A Go computation is an
  `Except Exit α`; a deferred `recover` is a match on `.panic`.
* `Hex.decodeString` and `Hex.encodeToString`: `encoding/hex` over the bytes of a string,
  with the partial result and the error texts of `hex.DecodeString`, which reads back what
  `hex.EncodeToString` writes (`Hex.decodeString_encodeToString`).
* `Strconv.ParseInt`: the block height's `strconv.ParseInt(s, 16, 64)`, syntax and range
  errors included.
* `remove0X` and `removeHex0x`: the `0x`-stripping helpers of the repository's `utils`
  package, which the source files call but do not contain.

The lemma the block parser needs is `stringsHasPrefix_eq_false_of_decodeString`: a string
that decodes as hex carries no `0x` prefix. `hexString` writes a number in hex as a node
does, and `parseInt_hexString` reads it back through `removeHex0x` and `parseInt`, up to
the largest `int64`.
-/

namespace Bifrost

/-- How a Go call ends other than by returning normally: with a non-nil `error` whose text
is `msg`, or with a panic still unwinding. The client only ever logs a panic's value, so
the value is not kept. -/
inductive Exit where
  | error (msg : String)
  | panic
  deriving DecidableEq, Repr

/-- A call's error wrapped as `fmt.Errorf(format + "%v", err)` does: the text `format`
followed by the error's own text. -/
def errorf {α : Type} (format : String) (r : Except String α) : Except Exit α :=
  r.mapError fun err => .error (format ++ err)

@[simp] theorem errorf_ok {α : Type} (format : String) (a : α) :
    errorf format (.ok a) = .ok a := rfl

@[simp] theorem errorf_error {α : Type} (format err : String) :
    errorf (α := α) format (.error err) = .error (.error (format ++ err)) := rfl

/-- An error wrapped as `fmt.Errorf(format + "%v", err)` does; a panic passes through. -/
def Exit.wrap (format : String) : Exit → Exit
  | .error msg => .error (format ++ msg)
  | .panic => .panic

/-- The bytes of a Go string: its UTF-8 encoding, which is what `[]byte(s)` and byte
indexing see. -/
def goBytes (s : String) : List UInt8 :=
  s.data.flatMap String.utf8EncodeChar

/-- Go's `strings.Contains`: whether `substr` occurs in `s`. -/
def stringsContains (s substr : String) : Bool :=
  go s.data
where
  /-- Whether `substr` starts at some position of the remaining characters. -/
  go : List Char → Bool
    | [] => substr.data.isPrefixOf []
    | c :: cs => substr.data.isPrefixOf (c :: cs) || go cs

/-- Go's `strings.HasPrefix`: whether `s` starts with `pre`. -/
def stringsHasPrefix (s pre : String) : Bool :=
  pre.data.isPrefixOf s.data

/-- Go's `strings.TrimPrefix`: `s` without a leading `pre`. -/
def stringsTrimPrefix (s pre : String) : String :=
  if stringsHasPrefix s pre then ⟨s.data.drop pre.length⟩ else s

/-- A string starts with `0x` exactly when its first two characters are `0` and `x`. -/
theorem stringsHasPrefix_0x {s : String} :
    stringsHasPrefix s "0x" = true ↔ ∃ rest, s.data = '0' :: 'x' :: rest := by
  obtain ⟨_ | ⟨a, _ | ⟨b, rest⟩⟩⟩ := s <;> simp [stringsHasPrefix, List.isPrefixOf]
  exact ⟨fun h => ⟨h.1.symm, h.2.symm⟩, fun h => ⟨h.1.symm, h.2.symm⟩⟩

/-- Trimming `0x` from a string written behind `0x` gives the string back. -/
theorem stringsTrimPrefix_0x_append (s : String) : stringsTrimPrefix ("0x" ++ s) "0x" = s := by
  have h : stringsHasPrefix ("0x" ++ s) "0x" = true := stringsHasPrefix_0x.2 ⟨s.data, rfl⟩
  rw [stringsTrimPrefix, if_pos h]
  rfl

/-- Whether `s` starts with one of `pres`: how a caller tells the errors of one step from
those of another with `strings.HasPrefix`. -/
def hasPrefixIn (pres : List String) (s : String) : Bool :=
  pres.any (stringsHasPrefix s)

/-- A text written behind one of `pres` starts with one of them. -/
theorem hasPrefixIn_append {pres : List String} {pre : String} (h : pre ∈ pres)
    (rest : String) : hasPrefixIn pres (pre ++ rest) = true :=
  List.any_eq_true.2 ⟨pre, h, by simp [stringsHasPrefix]⟩

/-- Starting with one of `pres` stays true when more texts are allowed. -/
theorem hasPrefixIn_of_subset {pres pres' : List String} (hsub : pres ⊆ pres') {s : String}
    (h : hasPrefixIn pres s = true) : hasPrefixIn pres' s = true :=
  let ⟨pre, hpre, hs⟩ := List.any_eq_true.1 h
  List.any_eq_true.2 ⟨pre, hsub hpre, hs⟩

/-- `unicode.ToLower` for the runes whose lower case is ASCII: the ASCII capitals, U+0130
(capital I with a dot above) and U+212A (the Kelvin sign). Any other rune is kept, where Go
lowers a non-ASCII capital to another non-ASCII rune; the two agree on whether the result is
ASCII (`toLowerRune_lt_128`), and so on every comparison with a text of ASCII letters. -/
def toLowerRune (c : Char) : Char :=
  if c = '\u0130' then 'i' else if c = '\u212A' then 'k' else c.toLower

/-- A rune lowers to ASCII exactly when it is ASCII or one of U+0130 and U+212A, as in Go's
case tables. -/
theorem toLowerRune_lt_128 (c : Char) :
    (toLowerRune c).toNat < 128 ↔ c.toNat < 128 ∨ c = '\u0130' ∨ c = '\u212A' := by
  unfold toLowerRune
  split_ifs with hI hK
  · subst hI; decide
  · subst hK; decide
  · simp only [hI, hK, or_false, Char.toLower]
    split_ifs
    · -- An ASCII capital moves 32 code points up, into the small letters.
      rw [Char.ofNat, dif_pos (by unfold Nat.isValidChar; omega)]
      show c.toNat + 32 < 128 ↔ _
      omega
    · rfl

/-- Go's `strings.ToLower`: `toLowerRune` on every rune. -/
def stringsToLower (s : String) : String :=
  ⟨s.data.map toLowerRune⟩

example : stringsToLower "\u212Ausama" = "kusama" := by decide

namespace Strconv

/-- The value of a digit in base 16, as `strconv` reads it: `0-9`, and `a-f` in either
case. -/
def digitValue (c : Char) : Option Nat :=
  if '0' ≤ c ∧ c ≤ '9' then some (c.toNat - '0'.toNat)
  else if 'a' ≤ c.toLower ∧ c.toLower ≤ 'f' then some (c.toLower.toNat - 'a'.toNat + 10)
  else none

/-- The digit loop of `strconv.ParseUint(s, 16, 64)` from the value `n` read so far: `none`
is a syntax error, and a value that no longer fits stops the loop at the largest `uint64`,
as the range error does. -/
def parseUintLoop (n : Nat) : List Char → Option Nat
  | [] => some n
  | c :: cs =>
    match digitValue c with
    | none => none
    | some d => if 2 ^ 60 ≤ n then some (2 ^ 64 - 1) else parseUintLoop (n * 16 + d) cs

/-- `strconv.ParseUint(s, 16, 64)`: `none` for a syntax error, the empty string included. -/
def parseUint (digits : List Char) : Option Nat :=
  if digits = [] then none else parseUintLoop 0 digits

/-- `strconv.ParseInt(s, 16, 64)` with its error discarded: an optional sign, then the
digits; a syntax error gives 0 and a value out of range the nearest `int64`. -/
def parseInt (s : String) : Int :=
  match s.data with
  | [] => 0
  | c :: cs =>
    let (neg, digits) :=
      if c = '+' then (false, cs) else if c = '-' then (true, cs) else (false, c :: cs)
    match parseUint digits with
    | none => 0
    | some un =>
      if neg then (if 2 ^ 63 < un then -2 ^ 63 else -(un : Int))
      else if 2 ^ 63 ≤ un then 2 ^ 63 - 1 else un

end Strconv

namespace Big

/-- The digit loop of `nat.scan` in base 16 from the value `n` read so far. It stops at the
first character that is not a hex digit, which `SetString` then finds unread. -/
def scanLoop (n : Nat) : List Char → Nat
  | [] => n
  | c :: cs =>
    match Strconv.digitValue c with
    | none => n
    | some d => scanLoop (n * 16 + d) cs

/-- `z.SetString(s, 16)` on a zero `z`, with its result discarded: an optional sign, then
the hex digits up to the first other character. On a string that is not all digits
`SetString` reports failure, but the digits read before the fault are stored by then; an
empty string leaves 0. -/
def setString16 (s : String) : Int :=
  match s.data with
  | '-' :: cs => -(scanLoop 0 cs : Int)
  | '+' :: cs => scanLoop 0 cs
  | cs => scanLoop 0 cs

/-- The digits `Nat.digitChar` writes are read back as themselves. -/
theorem digitValue_digitChar {d : Nat} (h : d < 16) :
    Strconv.digitValue (Nat.digitChar d) = some d :=
  (by decide : ∀ d < 16, Strconv.digitValue (Nat.digitChar d) = some d) d h

/-- Over hex digits the loop is the fold of `n * 16 + d`. -/
theorem scanLoop_digitChar (n : Nat) (ds : List Nat) (h : ∀ d ∈ ds, d < 16) :
    scanLoop n (ds.map Nat.digitChar) = ds.foldl (fun n d => n * 16 + d) n := by
  induction ds generalizing n with
  | nil => rfl
  | cons d ds ih =>
    simp only [List.map_cons, scanLoop, digitValue_digitChar (h d (List.mem_cons_self _ _)),
      List.foldl_cons]
    exact ih _ fun d' hd' => h d' (List.mem_cons_of_mem _ hd')

/-- A string that is empty or starts with a hex digit has no sign: it is read from its
first character. -/
theorem setString16_of_digit {s : String}
    (h : ∀ c cs, s.data = c :: cs → (Strconv.digitValue c).isSome) :
    setString16 s = scanLoop 0 s.data := by
  unfold setString16
  split
  · next cs heq => exact absurd (h _ _ heq) (by decide)
  · next cs heq => exact absurd (h _ _ heq) (by decide)
  · rfl

end Big

namespace Hex

/-- The value of one hexadecimal digit, as `encoding/hex` reads it: `0-9`, `a-f`, `A-F`. -/
def fromHexChar (c : UInt8) : Option UInt8 :=
  if 48 ≤ c ∧ c ≤ 57 then some (c - 48)
  else if 97 ≤ c ∧ c ≤ 102 then some (c - 87)
  else if 65 ≤ c ∧ c ≤ 70 then some (c - 55)
  else none

/-- The errors of `hex.Decode`: `InvalidByteError` and `ErrLength`. -/
inductive HexError where
  | invalidByte (b : UInt8)
  | length
  deriving DecidableEq, Repr

/-- An upper-case hexadecimal digit, for `%X`. -/
def upperDigit (n : UInt8) : Char :=
  if n < 10 then Char.ofNat (48 + n.toNat) else Char.ofNat (55 + n.toNat)

/-- Whether `strconv.IsPrint` holds of the rune with this code point below 256. -/
def isPrintLatin1 (b : UInt8) : Bool :=
  (32 ≤ b && b ≤ 126) || (161 ≤ b && b != 173)

/-- A byte as `%#U` prints `rune(b)`: `U+00XX`, then the character in quotes when it is
printable. -/
def formatRune (b : UInt8) : String :=
  "U+00" ++ (upperDigit (b >>> 4)).toString ++ (upperDigit (b &&& 15)).toString ++
    if isPrintLatin1 b then " \x27" ++ (Char.ofNat b.toNat).toString ++ "\x27" else ""

/-- The text of an `encoding/hex` error, as its `Error` method gives it. -/
def HexError.message : HexError → String
  | .invalidByte b => "encoding/hex: invalid byte: " ++ formatRune b
  | .length => "encoding/hex: odd length hex string"

/-- Go's `hex.Decode` over a byte string: the bytes decoded before the first fault, and
that fault. A trailing odd byte is checked for validity before the length is blamed. -/
def decode : List UInt8 → List UInt8 × Option HexError
  | [] => ([], none)
  | [c] => ([], some (if (fromHexChar c).isSome then .length else .invalidByte c))
  | p :: q :: rest =>
    match fromHexChar p, fromHexChar q with
    | some a, some b => (((a <<< 4) ||| b) :: (decode rest).1, (decode rest).2)
    | none, _ => ([], some (.invalidByte p))
    | some _, none => ([], some (.invalidByte q))

/-- Go's `hex.DecodeString`: `decode` over the string's bytes. -/
def decodeString (s : String) : List UInt8 × Option HexError :=
  decode (goBytes s)

/-- A lower-case hexadecimal digit, as `hex.Encode` writes it. -/
def lowerDigit (n : UInt8) : Char :=
  if n < 10 then Char.ofNat (48 + n.toNat) else Char.ofNat (87 + n.toNat)

/-- Go's `hex.EncodeToString`: two lower-case digits per byte, high half first. -/
def encodeToString (bytes : List UInt8) : String :=
  ⟨bytes.flatMap fun b => [lowerDigit (b >>> 4), lowerDigit (b &&& 15)]⟩

/-- A byte string whose second byte is `x` is not hex: the first pair already fails. -/
theorem decode_zero_x (rest : List UInt8) :
    (decode (48 :: 120 :: rest)).2 = some (.invalidByte 120) := by
  simp [decode, fromHexChar]

/-! ### Reading back what `hex.EncodeToString` writes -/

theorem toNat_shiftRight_four_lt (b : UInt8) : (b >>> 4).toNat < 16 := by
  have hb : b.toNat < 256 := b.toBitVec.isLt
  show (b.toBitVec >>> (UInt8.mod 4 8).toBitVec).toNat < 16
  rw [BitVec.ushiftRight_eq', BitVec.toNat_ushiftRight, Nat.shiftRight_eq_div_pow]
  exact Nat.div_lt_of_lt_mul (by simpa using hb)

theorem toNat_and_fifteen_lt (b : UInt8) : (b &&& 15).toNat < 16 := by
  rw [UInt8.and_toNat]
  exact lt_of_le_of_lt Nat.and_le_right (by decide)

/-- A byte is its high half shifted back in place, or-ed with its low half. -/
theorem shiftRight_four_or_and (b : UInt8) : (b >>> 4) <<< 4 ||| (b &&& 15) = b := by
  apply UInt8.eq_of_toBitVec_eq
  apply BitVec.eq_of_getLsbD_eq
  intro i
  show ((b.toBitVec >>> (4 % 8 : Nat)) <<< (4 % 8 : Nat) ||| (b.toBitVec &&& 15)).getLsbD i = _
  fin_cases i <;> simp [BitVec.getLsbD_shiftLeft, BitVec.getLsbD_ushiftRight]

/-- A digit `hex.Encode` writes is one ASCII byte, which `fromHexChar` reads back. -/
theorem utf8EncodeChar_lowerDigit {n : UInt8} (h : n.toNat < 16) :
    String.utf8EncodeChar (lowerDigit n) = [(lowerDigit n).val.toUInt8] ∧
      fromHexChar (lowerDigit n).val.toUInt8 = some n := by
  have digit : ∀ k : Fin 16, String.utf8EncodeChar (lowerDigit (UInt8.ofNat k)) =
      [(lowerDigit (UInt8.ofNat k)).val.toUInt8] ∧
      fromHexChar (lowerDigit (UInt8.ofNat k)).val.toUInt8 = some (UInt8.ofNat k) := by
    decide
  have hn : UInt8.ofNat n.toNat = n :=
    UInt8.toNat.inj (UInt8.toNat_ofNat_of_lt (by show n.toNat < 256; omega))
  simpa only [hn] using digit ⟨n.toNat, h⟩

/-- The bytes of an encoded string: two ASCII digits per byte. -/
theorem goBytes_encodeToString (bytes : List UInt8) :
    goBytes (encodeToString bytes) = bytes.flatMap fun b =>
      [(lowerDigit (b >>> 4)).val.toUInt8, (lowerDigit (b &&& 15)).val.toUInt8] := by
  induction bytes with
  | nil => rfl
  | cons b bs ih =>
    simp only [goBytes, encodeToString, List.flatMap_cons] at ih ⊢
    simp [(utf8EncodeChar_lowerDigit (toNat_shiftRight_four_lt b)).1,
      (utf8EncodeChar_lowerDigit (toNat_and_fifteen_lt b)).1, ih]

/-- `hex.DecodeString` reads back what `hex.EncodeToString` wrote, without error. -/
theorem decodeString_encodeToString (bytes : List UInt8) :
    decodeString (encodeToString bytes) = (bytes, none) := by
  rw [decodeString, goBytes_encodeToString]
  induction bytes with
  | nil => rfl
  | cons b bs ih =>
    rw [List.flatMap_cons, List.cons_append, List.cons_append, List.nil_append]
    simp only [decode.eq_3, (utf8EncodeChar_lowerDigit (toNat_shiftRight_four_lt b)).2,
      (utf8EncodeChar_lowerDigit (toNat_and_fifteen_lt b)).2, ih, shiftRight_four_or_and]

end Hex

/-- Modelled from the spec: `utils.Remove0X` is not among the source files. The spec hashes
and decodes an extrinsic as its "non-0x-prefixed" hex, so this is `strings.HasPrefix(s,
"0x")` followed by `s[2:]`. -/
def remove0X (s : String) : String :=
  if stringsHasPrefix s "0x" then ⟨s.data.drop 2⟩ else s

/-- Modelled from the spec: `utils.RemoveHex0x` is not among the source files; like
`remove0X`, it drops one leading `0x`. -/
def removeHex0x (s : String) : String :=
  if stringsHasPrefix s "0x" then ⟨s.data.drop 2⟩ else s

/-- A string that decodes as hex without error does not start with `0x`. -/
theorem stringsHasPrefix_eq_false_of_decodeString {s : String}
    (h : (Hex.decodeString s).2 = none) : stringsHasPrefix s "0x" = false := by
  rcases hs : stringsHasPrefix s "0x"
  · rfl
  · obtain ⟨rest, hdata⟩ := stringsHasPrefix_0x.1 hs
    have hbytes : goBytes s = 48 :: 120 :: rest.flatMap String.utf8EncodeChar := by
      simp only [goBytes, hdata, List.flatMap_cons]
      rfl
    rw [Hex.decodeString, hbytes, Hex.decode_zero_x] at h
    cases h

/-- `remove0X` drops a leading `0x`. -/
theorem remove0X_0x_append (s : String) : remove0X ("0x" ++ s) = s := by
  have h : stringsHasPrefix ("0x" ++ s) "0x" = true := stringsHasPrefix_0x.2 ⟨s.data, rfl⟩
  rw [remove0X, if_pos h]
  rfl

/-- `remove0X` leaves a string that is hex as it is. -/
theorem remove0X_of_decodeString {s : String} (h : (Hex.decodeString s).2 = none) :
    remove0X s = s := by
  rw [remove0X, stringsHasPrefix_eq_false_of_decodeString h, if_neg Bool.false_ne_true]

/-! ## Numbers in hex, as a node writes them -/

/-- The digits of `n` in base 16, most significant first, in lower case: a number as a
node writes it in hex, behind `0x`. -/
def hexString (n : Nat) : String :=
  ⟨(Nat.digits 16 n).reverse.map Nat.digitChar⟩

/-- The fold that reads base-16 digits, most significant first. -/
theorem le_foldl_hex (m : Nat) (ds : List Nat) : m ≤ ds.foldl (fun n d => n * 16 + d) m := by
  induction ds generalizing m with
  | nil => exact le_rfl
  | cons d ds ih => exact le_trans (by omega) (ih (m * 16 + d))

/-- The digits of `hexString n`, read from the most significant, make `n`. -/
theorem foldl_digits_reverse (n : Nat) :
    (Nat.digits 16 n).reverse.foldl (fun m d => m * 16 + d) 0 = n := by
  have hn := Nat.ofDigits_digits 16 n
  rw [Nat.ofDigits_eq_foldr] at hn
  rw [List.foldl_reverse]
  convert hn using 2
  funext d m
  simp only [Nat.cast_id]
  ring

/-- Every digit of `hexString n` is below 16. -/
theorem lt_of_mem_digits_reverse {n d : Nat} (hd : d ∈ (Nat.digits 16 n).reverse) : d < 16 :=
  Nat.digits_lt_base (by norm_num) (List.mem_reverse.1 hd)

/-- Over hex digits, from a value that fits in 64 bits, the `ParseUint` loop is the fold of
`n * 16 + d`, stopped at the largest `uint64`. -/
theorem Strconv.parseUintLoop_digitChar (ds : List Nat) (h : ∀ d ∈ ds, d < 16) :
    ∀ n < 2 ^ 64, Strconv.parseUintLoop n (ds.map Nat.digitChar) =
      some (min (ds.foldl (fun n d => n * 16 + d) n) (2 ^ 64 - 1)) := by
  have h64 : (2 : Nat) ^ 64 = 2 ^ 60 * 16 := by norm_num
  induction ds with
  | nil =>
    intro n hn
    simp only [List.map_nil, Strconv.parseUintLoop, List.foldl_nil]
    congr
    omega
  | cons d ds ih =>
    intro n hn
    have hd := h d (List.mem_cons_self _ _)
    simp only [List.map_cons, Strconv.parseUintLoop, Big.digitValue_digitChar hd, List.foldl_cons]
    split_ifs with hbig
    · have := le_foldl_hex (n * 16 + d) ds
      congr
      omega
    · exact ih (fun d' hd' => h d' (List.mem_cons_of_mem _ hd')) _ (by omega)

/-- `removeHex0x` drops the `0x` a node writes. -/
theorem removeHex0x_0x_append (s : String) : removeHex0x ("0x" ++ s) = s := by
  have h : stringsHasPrefix ("0x" ++ s) "0x" = true := stringsHasPrefix_0x.2 ⟨s.data, rfl⟩
  rw [removeHex0x, if_pos h]
  rfl

/-- A number written in hex behind `0x` is read back by `parseInt` after `RemoveHex0x`, up
to the largest `int64`, where `parseInt` stops. -/
theorem parseInt_hexString (n : Nat) :
    Strconv.parseInt (removeHex0x ("0x" ++ hexString n)) = min n (2 ^ 63 - 1) := by
  rw [removeHex0x_0x_append]
  have hdigits := fun d (hd : d ∈ (Nat.digits 16 n).reverse) => lt_of_mem_digits_reverse hd
  have hread := Strconv.parseUintLoop_digitChar _ hdigits 0 (by norm_num)
  rw [foldl_digits_reverse] at hread
  unfold Strconv.parseInt hexString
  rcases hds : (Nat.digits 16 n).reverse with _ | ⟨d, ds⟩
  · obtain rfl : n = 0 := Nat.digits_eq_nil_iff_eq_zero.1 (List.reverse_eq_nil_iff.1 hds)
    rfl
  · have hd := hdigits d (hds ▸ List.mem_cons_self _ _)
    have hsign : Nat.digitChar d ≠ '+' ∧ Nat.digitChar d ≠ '-' :=
      (by decide : ∀ d < 16, Nat.digitChar d ≠ '+' ∧ Nat.digitChar d ≠ '-') d hd
    rw [hds, List.map_cons] at hread
    simp only [List.map_cons, if_neg hsign.1, if_neg hsign.2, Strconv.parseUint,
      List.cons_ne_nil, if_false, hread, Bool.false_eq_true]
    split_ifs <;> omega

end Bifrost
