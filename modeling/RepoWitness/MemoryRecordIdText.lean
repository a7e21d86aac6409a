import RepoWitness.FixedWidthDigits
import RepoWitness.MemoryRecordModel

namespace RepoWitness

/-!
# Text form of memory record identities

`MemoryRecordIdTextV1`: the tag `mem_` followed by the 128-bit identity in 26
digits of Crockford Base32.  The 26 digits hold 130 bits, so a first digit
above 7 is out of range.
-/

inductive MemoryRecordIdTextError where
  | invalidLength (actualBytes : Nat)
  | invalidPrefix
  | invalidBase32
  | outOfRange
  deriving DecidableEq

namespace MemoryRecordIdText

/-- The bytes of `mem_`. -/
def tag : List UInt8 := [109, 101, 109, 95]

def payloadBytes : Nat := 26

/-- The bytes of `0123456789ABCDEFGHJKMNPQRSTVWXYZ`. -/
def crockfordBase32 : List UInt8 :=
  [48, 49, 50, 51, 52, 53, 54, 55, 56, 57, 65, 66, 67, 68, 69, 70,
    71, 72, 74, 75, 77, 78, 80, 81, 82, 83, 84, 86, 87, 88, 89, 90]

def symbol (digit : Nat) : UInt8 := crockfordBase32.getD digit 0

def encode (recordId : MemoryRecordId) : List UInt8 :=
  tag ++ (digitsOf 32 payloadBytes recordId.toNat).map symbol

def decodeDigit (byte : UInt8) : Except MemoryRecordIdTextError Nat :=
  match crockfordBase32.findIdx? (· == byte) with
  | some position => .ok position
  | none => .error .invalidBase32

/-- The digit loop with its checked arithmetic. -/
def decodeFrom : Nat → Nat → List UInt8 → Except MemoryRecordIdTextError Nat
  | _, decoded, [] => .ok decoded
  | index, decoded, byte :: rest => do
    let digit ← decodeDigit byte
    if index = 0 ∧ 7 < digit then
      .error .outOfRange
    else if 2 ^ 128 ≤ decoded * 32 ∨ 2 ^ 128 ≤ decoded * 32 + digit then
      .error .outOfRange
    else
      decodeFrom (index + 1) (decoded * 32 + digit) rest

def decode (text : List UInt8) : Except MemoryRecordIdTextError MemoryRecordId :=
  if text.length ≠ tag.length + payloadBytes then
    .error (.invalidLength text.length)
  else if tag.isPrefixOf text then do
    .ok (BitVec.ofNat 128 (← decodeFrom 0 0 (text.drop tag.length)))
  else
    .error .invalidPrefix

/-! ## Symbols -/

theorem decodeDigit_symbol : ∀ digit < 32, decodeDigit (symbol digit) = .ok digit := by
  decide +kernel

theorem symbol_lt_symbol : ∀ second < 32, ∀ first < second, symbol first < symbol second := by
  decide +kernel

theorem decodeDigit_eq_ok {byte : UInt8} {digit : Nat} (decoded : decodeDigit byte = .ok digit) :
    digit < 32 ∧ symbol digit = byte := by
  unfold decodeDigit at decoded
  split at decoded
  · rename_i position found
    cases decoded
    obtain ⟨small, same, -⟩ := List.findIdx?_eq_some_iff_getElem.mp found
    refine ⟨small, ?_⟩
    rw [symbol, List.getD_eq_getElem?_getD, List.getElem?_eq_getElem small]
    exact beq_iff_eq.mp same
  · cases decoded

/-! ## The digit loop -/

section Loop

variable {index decoded result : Nat} {byte : UInt8} {payload : List UInt8}

/-- After the first digit the checked arithmetic has room for every digit to come. -/
theorem decodeFrom_cons (later : 0 < index) (counted : index + (byte :: payload).length = 26)
    (small : decoded < 2 ^ (5 * index - 2)) :
    decodeFrom index decoded (byte :: payload) = (do
      decodeFrom (index + 1) (decoded * 32 + (← decodeDigit byte)) payload) ∧
    ∀ digit, decodeDigit byte = .ok digit → decoded * 32 + digit < 2 ^ (5 * (index + 1) - 2) := by
  rw [List.length_cons] at counted
  have power : 2 ^ (5 * (index + 1) - 2) = 2 ^ (5 * index - 2) * 32 := by
    rw [show 5 * (index + 1) - 2 = 5 * index - 2 + 5 by omega, Nat.pow_add]
  have room : 2 ^ (5 * (index + 1) - 2) ≤ 2 ^ 128 := Nat.pow_le_pow_right (by decide) (by omega)
  rw [decodeFrom]
  cases digits : decodeDigit byte with
  | error error => exact ⟨rfl, fun _ impossible => nomatch impossible⟩
  | ok digit =>
    have bounded := (decodeDigit_eq_ok digits).1
    constructor
    · simp only [bind, Except.bind]
      rw [if_neg (by omega), if_neg (by omega)]
    · rintro _ ⟨⟩
      omega

theorem decodeFrom_eq_ok_iff (later : 0 < index) (counted : index + payload.length = 26)
    (small : decoded < 2 ^ (5 * index - 2)) :
    decodeFrom index decoded payload = .ok result ↔
      ∃ digits : List Nat, payload = digits.map symbol ∧ (∀ digit ∈ digits, digit < 32) ∧
        result = valueFrom 32 decoded digits := by
  induction payload generalizing index decoded with
  | nil => simp [decodeFrom, valueFrom, eq_comm]
  | cons byte rest hypothesis =>
    obtain ⟨step, next⟩ := decodeFrom_cons later counted small
    rw [List.length_cons] at counted
    rw [step]
    constructor
    · intro decodes
      cases read : decodeDigit byte with
      | error error =>
        rw [read] at decodes
        cases decodes
      | ok digit =>
        rw [read] at decodes
        obtain ⟨bounded, rfl⟩ := decodeDigit_eq_ok read
        obtain ⟨digits, rfl, allBounded, rfl⟩ :=
          (hypothesis (Nat.succ_pos _) (by omega) (next digit read)).mp decodes
        exact ⟨digit :: digits, rfl, List.forall_mem_cons.mpr ⟨bounded, allBounded⟩, rfl⟩
    · rintro ⟨digits, spelled, allBounded, rfl⟩
      cases digits with
      | nil => cases spelled
      | cons digit digits =>
        cases spelled
        obtain ⟨bounded, restBounded⟩ := List.forall_mem_cons.mp allBounded
        have read := decodeDigit_symbol digit bounded
        rw [read]
        exact (hypothesis (Nat.succ_pos _) (by omega) (next digit read)).mpr
          ⟨digits, rfl, restBounded, rfl⟩

theorem decodeFrom_ne_outOfRange (later : 0 < index) (counted : index + payload.length = 26)
    (small : decoded < 2 ^ (5 * index - 2)) :
    decodeFrom index decoded payload ≠ .error .outOfRange := by
  induction payload generalizing index decoded with
  | nil => exact nofun
  | cons byte rest hypothesis =>
    obtain ⟨step, next⟩ := decodeFrom_cons later counted small
    rw [List.length_cons] at counted
    rw [step]
    cases read : decodeDigit byte with
    | error error =>
      unfold decodeDigit at read
      split at read
      · cases read
      · cases read
        exact nofun
    | ok digit => exact hypothesis (Nat.succ_pos _) (by omega) (next digit read)

/-- The first turn of the loop. -/
theorem decodeFrom_zero :
    decodeFrom 0 0 (byte :: payload) = (do
      let digit ← decodeDigit byte
      if 7 < digit then .error .outOfRange else decodeFrom 1 digit payload) := by
  rw [decodeFrom]
  cases read : decodeDigit byte with
  | error error => rfl
  | ok digit =>
    have bounded := (decodeDigit_eq_ok read).1
    simp only [bind, Except.bind, Nat.zero_mul, Nat.zero_add, true_and]
    split
    · rfl
    · rw [if_neg (by omega)]

end Loop

/-! ## Identities and their texts -/

variable {text : List UInt8} {recordId : MemoryRecordId}

theorem decode_eq_ok_iff : decode text = .ok recordId ↔
      ∃ first rest, first < 8 ∧ (∀ digit ∈ rest, digit < 32) ∧ rest.length = 25 ∧
        text = tag ++ (first :: rest).map symbol ∧
          recordId = BitVec.ofNat 128 (valueFrom 32 first rest) := by
  unfold decode
  constructor
  · intro decoded
    split at decoded
    · cases decoded
    · rename_i length
      split at decoded
      · rename_i tagged
        obtain ⟨payload, rfl⟩ := List.isPrefixOf_iff_prefix.mp tagged
        rw [not_not, List.length_append, Nat.add_left_cancel_iff] at length
        rw [List.drop_left] at decoded
        cases payload with
        | nil => cases length
        | cons byte payload =>
          rw [List.length_cons, payloadBytes, Nat.add_right_cancel_iff] at length
          rw [decodeFrom_zero] at decoded
          cases read : decodeDigit byte with
          | error error =>
            rw [read] at decoded
            cases decoded
          | ok first =>
            rw [read] at decoded
            simp only [bind, Except.bind] at decoded
            by_cases large : 7 < first
            · rw [if_pos large] at decoded
              cases decoded
            · rw [if_neg large] at decoded
              split at decoded
              · cases decoded
              · rename_i value later
                cases decoded
                obtain ⟨-, rfl⟩ := decodeDigit_eq_ok read
                obtain ⟨rest, rfl, bounded, rfl⟩ := (decodeFrom_eq_ok_iff Nat.one_pos
                  (by omega) (Nat.lt_of_not_le large)).mp later
                rw [List.length_map] at length
                exact ⟨first, rest, by omega, bounded, length, rfl, rfl⟩
      · cases decoded
  · rintro ⟨first, rest, leading, bounded, length, rfl, rfl⟩
    have later := (@decodeFrom_eq_ok_iff 1 first _ (rest.map symbol) Nat.one_pos
      (by rw [List.length_map]; omega) leading).mpr ⟨rest, rfl, bounded, rfl⟩
    rw [if_neg (by simp [length, payloadBytes]),
      if_pos (List.isPrefixOf_iff_prefix.mpr (List.prefix_append _ _)), List.drop_left,
      List.map_cons, decodeFrom_zero, decodeDigit_symbol first (by omega)]
    simp only [bind, Except.bind]
    rw [if_neg (by omega), later]

/-- The payload of an identity starts with its three highest bits. -/
theorem digits_of_recordId (recordId : MemoryRecordId) :
    ∃ first rest, digitsOf 32 payloadBytes recordId.toNat = first :: rest ∧ first < 8 ∧
      (∀ digit ∈ rest, digit < 32) ∧ rest.length = 25 ∧
        valueFrom 32 first rest = recordId.toNat := by
  have length : (digitsOf 32 payloadBytes recordId.toNat).length = payloadBytes :=
    length_digitsOf _
  have small := recordId.isLt
  have value := @valueFrom_digitsOf 32 payloadBytes recordId.toNat
    (Nat.lt_trans small (by decide))
  have bounded := @digitsOf_lt 32 payloadBytes (by decide) recordId.toNat
  cases shape : digitsOf 32 payloadBytes recordId.toNat with
  | nil =>
    rw [shape] at length
    cases length
  | cons first rest =>
    rw [shape] at length value bounded
    rw [List.length_cons, payloadBytes, Nat.add_right_cancel_iff] at length
    have leading := @le_valueFrom 32 first rest
    have same : valueFrom 32 0 (first :: rest) = valueFrom 32 first rest := by
      simp [valueFrom]
    rw [length] at leading
    exact ⟨first, rest, rfl, by omega, (List.forall_mem_cons.mp bounded).2, length,
      same.symm.trans value⟩

theorem decode_encode (recordId : MemoryRecordId) : decode (encode recordId) = .ok recordId := by
  obtain ⟨first, rest, digits, leading, bounded, length, value⟩ := digits_of_recordId recordId
  refine decode_eq_ok_iff.mpr ⟨first, rest, leading, bounded, length, ?_, ?_⟩
  · rw [encode, digits]
  · rw [value, BitVec.ofNat_toNat, BitVec.setWidth_eq]

theorem encode_of_decode (decoded : decode text = .ok recordId) : encode recordId = text := by
  obtain ⟨first, rest, leading, bounded, length, rfl, rfl⟩ := decode_eq_ok_iff.mp decoded
  have small : valueFrom 32 first rest < 2 ^ 128 := by
    have below := valueFrom_lt leading bounded
    rw [length] at below
    exact below.trans_eq (by decide)
  have digits := @digitsOf_valueFrom 32 (first :: rest)
    (List.forall_mem_cons.mpr ⟨by omega, bounded⟩)
  have same : valueFrom 32 0 (first :: rest) = valueFrom 32 first rest := by simp [valueFrom]
  rw [List.length_cons, length, same] at digits
  rw [encode, BitVec.toNat_ofNat, Nat.mod_eq_of_lt small]
  exact congrArg (fun digits => tag ++ digits.map symbol) digits

theorem encode_lt_encode {first second : MemoryRecordId} (less : first < second) :
    encode first < encode second := by
  refine List.append_left_lt (map_digitsOf_lt ?_ (by decide) less ?_)
  · exact fun lower upper less small => symbol_lt_symbol upper small lower less
  · exact Nat.lt_trans second.isLt (by decide)

theorem decode_eq_outOfRange (refused : decode text = .error .outOfRange) :
    ∃ first rest digit, text = tag ++ first :: rest ∧ decodeDigit first = .ok digit ∧
      7 < digit := by
  unfold decode at refused
  split at refused
  · cases refused
  · rename_i length
    split at refused
    · rename_i tagged
      obtain ⟨payload, rfl⟩ := List.isPrefixOf_iff_prefix.mp tagged
      rw [not_not, List.length_append, Nat.add_left_cancel_iff] at length
      rw [List.drop_left] at refused
      cases payload with
      | nil => cases length
      | cons byte payload =>
        rw [List.length_cons, payloadBytes, Nat.add_right_cancel_iff] at length
        rw [decodeFrom_zero] at refused
        cases read : decodeDigit byte with
        | error error =>
          rw [read] at refused
          cases refused
          unfold decodeDigit at read
          split at read <;> cases read
        | ok first =>
          refine ⟨byte, payload, first, rfl, read, ?_⟩
          by_contra small
          rw [read] at refused
          simp only [bind, Except.bind] at refused
          rw [if_neg small] at refused
          have ranged := @decodeFrom_ne_outOfRange 1 first payload Nat.one_pos (by omega)
            (Nat.lt_of_not_le small)
          cases later : decodeFrom 1 first payload with
          | ok value =>
            rw [later] at refused
            cases refused
          | error error =>
            rw [later] at refused
            cases refused
            exact ranged later
    · cases refused

/-- Identities and accepted texts correspond one to one, in order. -/
theorem record_id_text_bijective :
    (∀ recordId, decode (encode recordId) = .ok recordId) ∧
    (∀ text recordId, decode text = .ok recordId → encode recordId = text) ∧
    (∀ first second, first < second ↔ encode first < encode second) ∧
    ∀ text, decode text = .error .outOfRange →
      ∃ first rest digit, text = tag ++ first :: rest ∧ decodeDigit first = .ok digit ∧
        7 < digit := by
  refine ⟨decode_encode, fun _ _ => encode_of_decode, ?_, fun _ => decode_eq_outOfRange⟩
  intro first second
  refine ⟨encode_lt_encode, fun less => ?_⟩
  rcases Nat.lt_trichotomy first.toNat second.toNat with lower | same | greater
  · exact BitVec.lt_def.mpr lower
  · rw [BitVec.eq_of_toNat_eq same] at less
    exact absurd less (List.lt_irrefl _)
  · exact absurd less (List.lt_asymm (encode_lt_encode (BitVec.lt_def.mpr greater)))

end MemoryRecordIdText

end RepoWitness
