import Mathlib.Algebra.GroupWithZero.Nat

namespace OpenKit
namespace Retrieval

/-!
# Base64url

`decode_base64url` of `digest_window.rs` shifts six bits a character into a 32-bit
accumulator and writes a byte whenever it has eight.  The shift leaves zeros, so
the sum is its `|`; the caller's output is long enough for every byte.
-/

def base64Value (byte : UInt8) : Option Nat :=
  let code := byte.toNat
  if 65 <= code /\ code <= 90 then some (code - 65)
  else if 97 <= code /\ code <= 122 then some (code - 97 + 26)
  else if 48 <= code /\ code <= 57 then some (code - 48 + 52)
  else if code = 45 then some 62
  else if code = 95 then some 63
  else none

/-- The loop, with the bytes it has yet to write. -/
def decodeFrom (accumulator bits : Nat) : List UInt8 -> Option (List UInt8)
  | [] => if accumulator % 2 ^ bits ≠ 0 then none else some []
  | byte :: rest =>
    (base64Value byte).bind fun value =>
      let accumulator := accumulator * 64 % 2 ^ 32 + value
      if 8 <= bits + 6 then
        (decodeFrom accumulator (bits + 6 - 8) rest).map
          (UInt8.ofNat (accumulator / 2 ^ (bits + 6 - 8)) :: ·)
      else decodeFrom accumulator (bits + 6) rest

def decodeBase64url (input : List UInt8) : Option (List UInt8) :=
  if input.length % 4 = 1 then none else decodeFrom 0 0 input

/-! ## The encoding -/

/-- The character of six bits. -/
def base64Char (value : Nat) : UInt8 :=
  if value < 26 then .ofNat (value + 65)
  else if value < 52 then .ofNat (value + 71)
  else if value < 62 then .ofNat (value - 4)
  else if value = 62 then 45 else 95

/-- The unpadded encoding, three bytes in four characters. -/
def encodeBase64url : List UInt8 -> List UInt8
  | [] => []
  | [a] => [base64Char (a.toNat / 4), base64Char (a.toNat % 4 * 16)]
  | [a, b] => [base64Char (a.toNat / 4), base64Char (a.toNat % 4 * 16 + b.toNat / 16),
      base64Char (b.toNat % 16 * 4)]
  | a :: b :: c :: rest =>
    base64Char (a.toNat / 4) :: base64Char (a.toNat % 4 * 16 + b.toNat / 16) ::
      base64Char (b.toNat % 16 * 4 + c.toNat / 64) :: base64Char (c.toNat % 64) ::
        encodeBase64url rest

theorem base64Value_base64Char {value : Nat} (fits : value < 64) :
    base64Value (base64Char value) = some value := by
  revert value
  decide

theorem base64Char_of_value {byte : UInt8} {value : Nat} (read : base64Value byte = some value) :
    value < 64 /\ base64Char value = byte := by
  have all : ∀ code : Fin 256, ∀ value ∈ base64Value ⟨⟨code⟩⟩,
      value < 64 /\ base64Char value = ⟨⟨code⟩⟩ := by
    decide +kernel
  exact all byte.toFin value read

theorem ofNat_eq_iff {value : Nat} {byte : UInt8} :
    UInt8.ofNat value = byte <-> value % 256 = byte.toNat := by
  rw [<- UInt8.toNat_inj, UInt8.toNat_ofNat']

theorem length_encodeBase64url (bytes : List UInt8) : (encodeBase64url bytes).length % 4 ≠ 1 := by
  fun_induction encodeBase64url bytes <;> simp only [List.length_cons, List.length_nil] <;> omega

theorem decodeFrom_encodeBase64url (accumulator : Nat) (bytes : List UInt8) :
    decodeFrom accumulator 0 (encodeBase64url bytes) = some bytes := by
  fun_induction encodeBase64url bytes generalizing accumulator
  case case1 => simp [decodeFrom, Nat.mod_one]
  case case2 a =>
    have small := a.toNat_lt
    simp (disch := omega) [decodeFrom, base64Value_base64Char, ofNat_eq_iff]
    omega
  case case3 a b =>
    have smallA := a.toNat_lt
    have smallB := b.toNat_lt
    simp (disch := omega) [decodeFrom, base64Value_base64Char, ofNat_eq_iff]
    omega
  case case4 a b c rest ih =>
    have smallA := a.toNat_lt
    have smallB := b.toNat_lt
    have smallC := c.toNat_lt
    simp (disch := omega) [decodeFrom, base64Value_base64Char, ofNat_eq_iff, ih, -UInt8.ofNat_add]
    omega

variable {accumulator bits : Nat} {byte : UInt8} {rest bytes : List UInt8}

theorem decodeFrom_end : decodeFrom accumulator bits [] = some bytes <->
    accumulator % 2 ^ bits = 0 /\ [] = bytes := by
  simp [decodeFrom]

theorem decodeFrom_first (decoded : decodeFrom accumulator 0 (byte :: rest) = some bytes) :
    ∃ value < 64, base64Char value = byte /\
      decodeFrom (accumulator * 64 % 2 ^ 32 + value) 6 rest = some bytes := by
  rcases Option.bind_eq_some_iff.mp decoded with ⟨value, read, later⟩
  rcases base64Char_of_value read with ⟨small, same⟩
  exact ⟨value, small, same, later⟩

theorem decodeFrom_next (decoded : decodeFrom accumulator (bits + 2) (byte :: rest) = some bytes) :
    ∃ value < 64, base64Char value = byte /\ ∃ later,
      decodeFrom (accumulator * 64 % 2 ^ 32 + value) bits rest = some later /\
        UInt8.ofNat ((accumulator * 64 % 2 ^ 32 + value) / 2 ^ bits) :: later = bytes := by
  rcases Option.bind_eq_some_iff.mp decoded with ⟨value, read, decoded⟩
  rcases base64Char_of_value read with ⟨small, same⟩
  rw [if_pos (by omega), Nat.add_assoc, Nat.add_sub_cancel] at decoded
  exact ⟨value, small, same, Option.map_eq_some_iff.mp decoded⟩

theorem encode_of_decodeFrom {input : List UInt8} (length : input.length % 4 ≠ 1)
    (decoded : decodeFrom accumulator 0 input = some bytes) : encodeBase64url bytes = input := by
  induction size : input.length using Nat.strongRecOn generalizing input bytes accumulator with
  | _ size ih =>
    cases input with
    | nil =>
      rcases decodeFrom_end.mp decoded with ⟨_, rfl⟩
      rfl
    | cons w input =>
    rcases decodeFrom_first decoded with ⟨a, smallA, rfl, first⟩
    cases input with
    | nil => simp at length
    | cons x input =>
    rcases decodeFrom_next first with ⟨b, smallB, rfl, later, second, rfl⟩
    cases input with
    | nil =>
      rcases decodeFrom_end.mp second with ⟨unused, rfl⟩
      simp only [encodeBase64url, UInt8.toNat_ofNat', List.cons.injEq, and_true]
      constructor <;> congr 1 <;> omega
    | cons y input =>
    rcases decodeFrom_next second with ⟨c, smallC, rfl, later, third, rfl⟩
    cases input with
    | nil =>
      rcases decodeFrom_end.mp third with ⟨unused, rfl⟩
      simp only [encodeBase64url, UInt8.toNat_ofNat', List.cons.injEq, and_true]
      refine ⟨?_, ?_, ?_⟩ <;> congr 1 <;> omega
    | cons z input =>
    rcases decodeFrom_next third with ⟨d, smallD, rfl, later, fourth, rfl⟩
    simp only [List.length_cons] at length size
    have rest := ih input.length (by omega) (by omega) fourth rfl
    simp only [encodeBase64url, UInt8.toNat_ofNat', List.cons.injEq, rest, and_true]
    refine ⟨?_, ?_, ?_, ?_⟩ <;> congr 1 <;> omega

/-- The decoder accepts exactly the encodings: it returns `bytes` for one input only, and that
is the input the encoder writes for them. -/
theorem decodeBase64url_exact (input bytes : List UInt8) :
    (decodeBase64url input = some bytes <-> input = encodeBase64url bytes) /\
      decodeBase64url (encodeBase64url bytes) = some bytes /\
      ∀ other, decodeBase64url input = some bytes -> decodeBase64url other = some bytes ->
        input = other := by
  have inverse : decodeBase64url (encodeBase64url bytes) = some bytes :=
    (if_neg (length_encodeBase64url bytes)).trans (decodeFrom_encodeBase64url 0 bytes)
  have canonical : ∀ input, decodeBase64url input = some bytes ->
      encodeBase64url bytes = input := by
    intro input decoded
    unfold decodeBase64url at decoded
    split at decoded
    · cases decoded
    next length => exact encode_of_decodeFrom length decoded
  refine ⟨⟨fun decoded => (canonical input decoded).symm, ?_⟩, inverse, ?_⟩
  · rintro rfl
    exact inverse
  · intro other decoded same
    exact (canonical input decoded).symm.trans (canonical other same)

/-- A final pair of symbols. -/
theorem encodeBase64url_f : encodeBase64url [102] = [90, 103] :=
  (decodeBase64url_exact _ [102]).2.2 [90, 103] (by decide) (by decide)

end Retrieval
end OpenKit
