import RepoWitness.RepositoryPath

namespace RepoWitness

/-!
# Text form of repository paths

`RepositoryPathTextV1`: the tag `rwp1:h:` followed by the path bytes in
uppercase Base16.  A text is the sequence of its bytes, which is what both
directions work on.
-/

inductive RepositoryPathTextError where
  | encodedByteCountNotRepresentable
  | encodedLengthNotRepresentable
  | encodedLimitExceeded (actual limit : Nat)
  | invalidTag
  | emptyPayload
  | oddPayloadLength
  | nonCanonicalBase16
  | decodedLengthNotRepresentable
  | invalidRepositoryPath (error : RepositoryPathError)
  deriving DecidableEq

namespace RepositoryPathText

/-- The bytes of `rwp1:h:`. -/
def tag : List UInt8 := [114, 119, 112, 49, 58, 104, 58]

def base16Upper (digit : Nat) : UInt8 :=
  [48, 49, 50, 51, 52, 53, 54, 55, 56, 57, 65, 66, 67, 68, 69, 70].getD digit 0

def decodeNibble (byte : UInt8) : Option Nat :=
  if 48 ≤ byte ∧ byte ≤ 57 then
    some (byte - 48).toNat
  else if 65 ≤ byte ∧ byte ≤ 70 then
    some (byte - 65 + 10).toNat
  else
    none

def encodeByte (byte : UInt8) : List UInt8 :=
  [base16Upper (byte >>> 4).toNat, base16Upper (byte &&& 0x0f).toNat]

def enforceEncodedLimit (actual limit : Nat) : Except RepositoryPathTextError Unit :=
  if limit < actual then .error (.encodedLimitExceeded actual limit) else .ok ()

def encodedLength (path : RepositoryPath) : Except RepositoryPathTextError Nat :=
  if 2 ^ 64 ≤ tag.length + path.bytes.length * 2 then
    .error .encodedLengthNotRepresentable
  else
    .ok (tag.length + path.bytes.length * 2)

def encode (path : RepositoryPath) (limit : Nat) :
    Except RepositoryPathTextError (List UInt8) := do
  enforceEncodedLimit (← encodedLength path) limit
  .ok (tag ++ path.bytes.flatMap encodeByte)

/-- The loop over the pairs of a payload of even length. -/
def decodePairs : List UInt8 → Except RepositoryPathTextError (List UInt8)
  | high :: low :: rest =>
    match decodeNibble high, decodeNibble low with
    | some high, some low => do
      .ok (UInt8.ofNat (high <<< 4 ||| low) :: (← decodePairs rest))
    | _, _ => .error .nonCanonicalBase16
  | _ => .ok []

theorem length_of_decodePairs {payload bytes : List UInt8}
    (decoded : decodePairs payload = .ok bytes) : bytes.length * 2 ≤ payload.length := by
  fun_induction decodePairs payload generalizing bytes with
  | case1 high low rest highDigit lowDigit isLow isHigh hypothesis =>
    cases later : decodePairs rest with
    | error error =>
      rw [later] at decoded
      cases decoded
    | ok others =>
      rw [later] at decoded
      cases decoded
      have shorter := hypothesis later
      simp only [List.length_cons]
      omega
  | case2 => cases decoded
  | case3 =>
    cases decoded
    exact Nat.zero_le _

theorem addressable_of_decodePairs {payload bytes : List UInt8}
    (addressable : payload.length < 2 ^ 63) (decoded : decodePairs payload = .ok bytes) :
    bytes.length < 2 ^ 62 := by
  have half := length_of_decodePairs decoded
  omega

def decodePayload (payload : List UInt8) (addressable : payload.length < 2 ^ 63)
    (pathLimits : RepositoryPathLimits) : Except RepositoryPathTextError RepositoryPath :=
  if payload = [] then
    .error .emptyPayload
  else if payload.length % 2 ≠ 0 then
    .error .oddPayloadLength
  else if pathLimits.maxBytes < payload.length / 2 then
    .error (.invalidRepositoryPath
      (.byteLimitExceeded (payload.length / 2) pathLimits.maxBytes))
  else
    match pairs : decodePairs payload with
    | .error error => .error error
    | .ok decoded =>
      match RepositoryPath.tryFromBytes decoded (addressable_of_decodePairs addressable pairs)
          pathLimits with
      | .error error => .error (.invalidRepositoryPath error)
      | .ok path => .ok path

/-- The bytes of a live text: no more than the text of some path that a process holds. -/
structure EncodedText where
  bytes : List UInt8
  addressable : bytes.length < tag.length + 2 ^ 63

theorem EncodedText.payload_addressable (encoded : EncodedText) :
    (encoded.bytes.drop tag.length).length < 2 ^ 63 := by
  have addressable := encoded.addressable
  rw [List.length_drop]
  omega

def decode (encoded : EncodedText) (encodedLimit : Nat) (pathLimits : RepositoryPathLimits) :
    Except RepositoryPathTextError RepositoryPath := do
  if 2 ^ 64 ≤ encoded.bytes.length then
    .error .encodedByteCountNotRepresentable
  else
    enforceEncodedLimit encoded.bytes.length encodedLimit
    if tag.isPrefixOf encoded.bytes then
      decodePayload (encoded.bytes.drop tag.length) encoded.payload_addressable pathLimits
    else
      .error .invalidTag

/-! ## Digits and pairs -/

/-- A statement about the 256 bytes. -/
theorem forall_byte {holds : UInt8 → Prop} (all : ∀ value < 256, holds (UInt8.ofNat value)) :
    ∀ byte, holds byte := by
  intro byte
  rw [← @UInt8.ofNat_toNat byte]
  exact all byte.toNat byte.toNat_lt

theorem decodeNibble_encodeByte : ∀ byte : UInt8,
    decodeNibble (base16Upper (byte >>> 4).toNat) = some (byte >>> 4).toNat ∧
      decodeNibble (base16Upper (byte &&& 0x0f).toNat) = some (byte &&& 0x0f).toNat ∧
        UInt8.ofNat ((byte >>> 4).toNat <<< 4 ||| (byte &&& 0x0f).toNat) = byte :=
  forall_byte (by decide +kernel)

theorem base16Upper_of_decodeNibble : ∀ byte : UInt8, ∀ digit ∈ decodeNibble byte,
    digit < 16 ∧ base16Upper digit = byte :=
  forall_byte (by decide +kernel)

theorem encodeByte_nibbles : ∀ high < 16, ∀ low < 16,
    encodeByte (UInt8.ofNat (high <<< 4 ||| low)) = [base16Upper high, base16Upper low] := by
  decide +kernel

theorem decodePairs_flatMap_encodeByte (bytes : List UInt8) :
    decodePairs (bytes.flatMap encodeByte) = .ok bytes := by
  induction bytes with
  | nil => rfl
  | cons byte rest hypothesis =>
    obtain ⟨high, low, whole⟩ := decodeNibble_encodeByte byte
    rw [List.flatMap_cons, encodeByte, List.cons_append, List.singleton_append, decodePairs,
      high, low, hypothesis]
    simp only [whole]
    rfl

variable {payload : List UInt8} {path : RepositoryPath} {text : List UInt8}
  {limits : RepositoryPathLimits}

theorem flatMap_encodeByte_of_decodePairs {bytes : List UInt8}
    (even : payload.length % 2 = 0) (decoded : decodePairs payload = .ok bytes) :
    bytes.flatMap encodeByte = payload := by
  induction payload using decodePairs.induct generalizing bytes with
  | case1 high low rest highDigit lowDigit isLow isHigh hypothesis =>
    rw [decodePairs, isHigh, isLow] at decoded
    cases later : decodePairs rest with
    | error error =>
      rw [later] at decoded
      cases decoded
    | ok others =>
      rw [later] at decoded
      cases decoded
      obtain ⟨highSmall, rfl⟩ := base16Upper_of_decodeNibble high highDigit isHigh
      obtain ⟨lowSmall, rfl⟩ := base16Upper_of_decodeNibble low lowDigit isLow
      rw [List.length_cons, List.length_cons] at even
      rw [List.flatMap_cons, encodeByte_nibbles highDigit highSmall lowDigit lowSmall,
        hypothesis (by omega) later]
      rfl
  | case2 high low rest notDigits =>
    unfold decodePairs at decoded
    split at decoded
    · rename_i isHigh isLow
      exact absurd isLow (notDigits _ _ isHigh)
    · cases decoded
  | case3 payload short =>
    match payload with
    | [] =>
      cases decoded
      rfl
    | [_] => exact absurd even Nat.one_ne_zero
    | high :: low :: rest => exact absurd rfl (short high low rest)

/-! ## The text of a path -/

theorem length_flatMap_encodeByte (bytes : List UInt8) :
    (bytes.flatMap encodeByte).length = bytes.length * 2 := by
  rw [List.length_flatMap]
  simp [encodeByte]

theorem length_text (path : RepositoryPath) :
    (tag ++ path.bytes.flatMap encodeByte).length = tag.length + path.bytes.length * 2 := by
  rw [List.length_append, length_flatMap_encodeByte]

theorem length_text_lt (path : RepositoryPath) :
    (tag ++ path.bytes.flatMap encodeByte).length < tag.length + 2 ^ 63 := by
  have addressable := path.addressable
  rw [length_text]
  omega

theorem encode_eq_ok_iff {limit : Nat} : encode path limit = .ok text ↔
      text = tag ++ path.bytes.flatMap encodeByte ∧ text.length ≤ limit := by
  have length := length_text path
  have representable := length_text_lt path
  have seven : tag.length = 7 := rfl
  unfold encode encodedLength enforceEncodedLimit
  rw [if_neg (by omega)]
  by_cases beyond : limit < tag.length + path.bytes.length * 2
  · simp only [bind, Except.bind, if_pos beyond, reduceCtorEq, false_iff]
    rintro ⟨rfl, fits⟩
    omega
  · simp only [bind, Except.bind, if_neg beyond, Except.ok.injEq]
    constructor
    · rintro rfl
      exact ⟨rfl, by omega⟩
    · rintro ⟨rfl, -⟩
      rfl

theorem decodePayload_eq_ok_iff {addressable : payload.length < 2 ^ 63} :
    decodePayload payload addressable limits = .ok path ↔ payload = path.bytes.flatMap encodeByte ∧
        ∃ counts, RepositoryPath.validate path.bytes limits = .ok counts := by
  unfold decodePayload
  constructor
  · intro decoded
    split at decoded
    · cases decoded
    · split at decoded
      · cases decoded
      · rename_i even
        split at decoded
        · cases decoded
        · split at decoded
          · cases decoded
          · rename_i bytes pairs
            split at decoded
            · cases decoded
            · rename_i accepted
              cases decoded
              obtain ⟨rfl, valid⟩ := RepositoryPath.tryFromBytes_eq_ok_iff.mp accepted
              exact ⟨(flatMap_encodeByte_of_decodePairs (not_not.mp even) pairs).symm, valid⟩
  · rintro ⟨rfl, valid⟩
    have addressable := path.addressable
    have wellFormed := (RepositoryPath.validate_eq_ok_iff (by omega)).mp valid
    obtain ⟨-, -, -, -, fits, -⟩ := wellFormed
    have length := length_flatMap_encodeByte path.bytes
    have occupied : path.bytes.flatMap encodeByte ≠ [] := by
      intro empty
      have positive := List.length_pos_iff.mpr path.nonempty
      rw [empty, List.length_nil] at length
      omega
    rw [if_neg occupied, if_neg (by omega), if_neg (by omega)]
    split
    · rename_i refused
      rw [decodePairs_flatMap_encodeByte] at refused
      cases refused
    · rename_i bytes pairs
      rw [decodePairs_flatMap_encodeByte] at pairs
      cases pairs
      simp only [RepositoryPath.tryFromBytes_eq_ok_iff.mpr ⟨rfl, valid⟩]

theorem decode_eq_ok_iff {text : EncodedText} {encodedLimit : Nat} :
    decode text encodedLimit limits = .ok path ↔
      encode path encodedLimit = .ok text.bytes ∧
        ∃ counts, RepositoryPath.validate path.bytes limits = .ok counts := by
  rw [encode_eq_ok_iff]
  unfold decode enforceEncodedLimit
  constructor
  · intro decoded
    split at decoded
    · cases decoded
    · by_cases beyond : encodedLimit < text.bytes.length
      · rw [if_pos beyond] at decoded
        cases decoded
      · rw [if_neg beyond] at decoded
        simp only [bind, Except.bind] at decoded
        split at decoded
        · rename_i tagged
          obtain ⟨payload, split⟩ := List.isPrefixOf_iff_prefix.mp tagged
          obtain ⟨rest, valid⟩ := decodePayload_eq_ok_iff.mp decoded
          rw [← split, List.drop_left] at rest
          exact ⟨⟨by rw [← split, rest], Nat.not_lt.mp beyond⟩, valid⟩
        · cases decoded
  · rintro ⟨⟨whole, fits⟩, valid⟩
    have addressable := text.addressable
    have seven : tag.length = 7 := rfl
    have tagged : tag.isPrefixOf text.bytes = true :=
      List.isPrefixOf_iff_prefix.mpr ⟨_, whole.symm⟩
    rw [if_neg (by omega), if_neg (by omega)]
    simp only [bind, Except.bind, tagged, if_true]
    exact decodePayload_eq_ok_iff.mpr ⟨by rw [whole, List.drop_left], valid⟩

/--
A path is read back from its text under the limits that accepted it, an
accepted text is the encoding of its path, and the accepted paths are the
well-formed ones.
-/
theorem path_text_canonical :
    (∀ (path : RepositoryPath) (limits : RepositoryPathLimits) (encodedLimit : Nat),
      (∃ counts, RepositoryPath.validate path.bytes limits = .ok counts) →
      tag.length + path.bytes.length * 2 ≤ encodedLimit →
      ∃ text : EncodedText, encode path encodedLimit = .ok text.bytes ∧
        decode text encodedLimit limits = .ok path) ∧
    (∀ (text : EncodedText) (encodedLimit : Nat) (limits : RepositoryPathLimits)
      (path : RepositoryPath), decode text encodedLimit limits = .ok path →
        encode path encodedLimit = .ok text.bytes) ∧
    ∀ (bytes : List UInt8) (limits : RepositoryPathLimits), bytes.length < 2 ^ 64 →
      ((∃ counts, RepositoryPath.validate bytes limits = .ok counts) ↔
        RepositoryPath.WellFormed limits bytes) := by
  refine ⟨?_, ?_, ?_⟩
  · intro path limits encodedLimit valid fits
    have encoded := encode_eq_ok_iff.mpr ⟨rfl, (length_text path).trans_le fits⟩
    exact ⟨⟨_, length_text_lt path⟩, encoded, decode_eq_ok_iff.mpr ⟨encoded, valid⟩⟩
  · intro text encodedLimit limits path decoded
    exact (decode_eq_ok_iff.mp decoded).1
  · intro bytes limits representable
    exact RepositoryPath.validate_eq_ok_iff representable

end RepositoryPathText

end RepoWitness
