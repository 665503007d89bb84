import OpenKit.Foundation.Sha1

namespace OpenKit
namespace EntityIds

open Foundation.Sha1 List

/-!
# The hash behind derived entity ids

`sha1` computes with signed 32-bit numbers.  A number is an integer here, since every sum
is far below `2 ^ 53`, and a bitwise operator first takes the low 32 bits of its operands.
-/

/-- The operand of a bitwise operator. -/
def int32 (number : Int) : Word := BitVec.ofInt 32 number

def rotate (word : Int) (bits : Nat) : Int :=
  -- `>>>` is the only operator with an unsigned result
  (int32 (int32 word <<< bits).toInt ||| int32 (int32 word >>> (32 - bits)).toNat).toInt

def bitAnd (left right : Int) : Int := (int32 left &&& int32 right).toInt

def bitOr (left right : Int) : Int := (int32 left ||| int32 right).toInt

def bitXor (left right : Int) : Int := (int32 left ^^^ int32 right).toInt

def bitNot (number : Int) : Int := (~~~ int32 number).toInt

def f (index : Nat) (b c d : Int) : Int :=
  if index < 20 then bitOr (bitAnd b c) (bitAnd (bitNot b) d)
  else if index < 40 then bitXor (bitXor b c) d
  else if index < 60 then bitOr (bitOr (bitAnd b c) (bitAnd b d)) (bitAnd c d)
  else bitXor (bitXor b c) d

def k (index : Nat) : Int :=
  if index < 20 then 0x5a827999 else if index < 40 then 0x6ed9eba1
  else if index < 60 then 0x8f1bbcdc else 0xca62c1d6

/-- The words of a block, as far as the second loop has written them. -/
def words (padded : List UInt8) (offset : Nat) : Nat -> List Int
  | 0 => (range 16).map fun index => (word padded (offset + index * 4)).toInt
  | written + 1 =>
    let words := words padded offset written
    let index := 16 + written
    let mixed := bitXor (bitXor (bitXor (words.getD (index - 3) 0) (words.getD (index - 8) 0))
      (words.getD (index - 14) 0)) (words.getD (index - 16) 0)
    words ++ [rotate mixed 1]

def next (words : List Int) (state : Registers Int) (index : Nat) : Registers Int :=
  ⟨(int32 (rotate state.a 5 + f index state.b state.c state.d + state.e + k index +
      words.getD index 0)).toInt,
    state.a, rotate state.b 30, state.c, state.d⟩

def addBlock (padded : List UInt8) (state : Registers Int) (offset : Nat) : Registers Int :=
  state.zipWith (fun left right => (int32 (left + right)).toInt)
    ((range 80).foldl (next (words padded offset 64)) state)

/-- Write bytes into a buffer. -/
def setAt (buffer : List UInt8) (offset : Nat) (bytes : List UInt8) : List UInt8 :=
  buffer.take offset ++ bytes ++ buffer.drop (offset + bytes.length)

def padded (input : List UInt8) : List UInt8 :=
  let length := (input.length + 9 + 63) / 64 * 64
  let buffer := setAt (setAt (replicate length 0) 0 input) input.length [0x80]
  setAt buffer (length - 8) (bigEndian 8 (input.length * 8))

def sha1 (input : List UInt8) : List UInt8 :=
  let padded := padded input
  let state := (range (padded.length / 64)).foldl
    (fun state block => addBlock padded state (64 * block))
    ⟨0x67452301, 0xefcdab89, 0x98badcfe, 0x10325476, 0xc3d2e1f0⟩
  state.toList.flatMap fun number => bigEndian 4 (int32 number).toNat

/-! ## Agreement with the standard -/

theorem int32_toInt (word : Word) : int32 word.toInt = word :=
  BitVec.ofInt_toInt

theorem int32_add (left right : Int) : int32 (left + right) = int32 left + int32 right :=
  BitVec.ofInt_add left right

theorem int32_rotate (number : Int) {bits : Nat} (small : bits < 32) :
    int32 (rotate number bits) = (int32 number).rotateLeft bits := by
  rw [rotate, int32_toInt, int32_toInt, BitVec.rotateLeft, BitVec.rotateLeftAux,
    Nat.mod_eq_of_lt small]
  congr 1
  rw [int32, BitVec.ofInt_natCast, BitVec.ofNat_toNat, BitVec.setWidth_eq]

/-- The code joins with `|` what the standard joins with an exclusive or. -/
theorem int32_f (index : Nat) (b c d : Int) :
    int32 (f index b c d) = logical index (int32 b) (int32 c) (int32 d) := by
  have choice : ∀ x y z : Word, x &&& y ||| ~~~ x &&& z = ch x y z := by
    intro x y z
    ext place
    cases bit : x[place] <;> simp [ch, bit]
  have majority : ∀ x y z : Word, x &&& y ||| x &&& z ||| y &&& z = maj x y z := by
    intro x y z
    ext place
    cases bit : x[place] <;> cases other : y[place] <;> simp [maj, bit, other]
  unfold f logical
  split_ifs
  · simp only [bitOr, bitAnd, bitNot, int32_toInt, choice]
  · simp only [bitXor, int32_toInt, parity]
  · simp only [bitOr, bitAnd, int32_toInt, majority]
  · simp only [bitXor, int32_toInt, parity]

theorem int32_k (index : Nat) : int32 (k index) = constant index := by
  unfold k constant
  split_ifs <;> rfl

theorem getD_of_map {numbers : List Int} {count index : Nat} {value : Nat -> Word}
    (same : numbers.map int32 = (range count).map value) (small : index < count) :
    int32 (numbers.getD index 0) = value index := by
  have there : (numbers.map int32)[index]? = some (value index) := by
    simp [same, small]
  rw [getElem?_map, Option.map_eq_some_iff] at there
  rcases there with ⟨number, found, converts⟩
  rw [getD_eq_getElem?_getD, found]
  exact converts

section

variable {bytes : List UInt8} {place : Nat}

/-- The words that have been written are those of the schedule. -/
theorem words_schedule (written : Nat) : (words bytes (64 * place) written).map int32 =
      (range (16 + written)).map (schedule (block bytes place)) := by
  induction written with
  | zero =>
    rw [words, map_map]
    refine map_congr_left (fun index mem => ?_)
    unfold schedule
    rw [if_pos (mem_range.mp mem), block]
    simp [mem_range.mp mem, int32_toInt, Nat.mul_comm]
  | succ written ih =>
    have earlier : ∀ index < 16 + written,
        int32 ((words bytes (64 * place) written).getD index 0) =
          schedule (block bytes place) index := fun _ => getD_of_map ih
    rw [words, map_append, ih, <- Nat.add_assoc, range_succ, map_append, map_singleton,
      map_singleton]
    congr 2
    unfold schedule
    rw [if_neg (by omega), int32_rotate _ (by decide)]
    simp only [bitXor, int32_toInt]
    rw [earlier _ (by omega), earlier _ (by omega), earlier _ (by omega), earlier _ (by omega)]

theorem next_round (state : Registers Int) {index : Nat} (small : index < 80) :
    (next (words bytes (64 * place) 64) state index).map int32 =
      roundStep (block bytes place) (state.map int32) index := by
  simp only [next, roundStep, Registers.map, int32_toInt, int32_add, int32_f, int32_k,
    getD_of_map (words_schedule 64) small, int32_rotate _ (show 5 < 32 by decide),
    int32_rotate _ (show 30 < 32 by decide)]

theorem addBlock_compress (state : Registers Int) :
    (addBlock bytes state (64 * place)).map int32 =
      compress (state.map int32) (block bytes place) := by
  have rounds : ((range 80).foldl (next (words bytes (64 * place) 64)) state).map int32 =
      (range 80).foldl (roundStep (block bytes place)) (state.map int32) := by
    refine foldl_rel (r := fun state registers => Registers.map int32 state = registers) rfl ?_
    rintro index mem state _ rfl
    exact next_round state (mem_range.mp mem)
  rw [compress, <- rounds]
  simp only [addBlock, Registers.map, Registers.zipWith, int32_toInt, int32_add]

theorem setAt_append {left old right bytes : List UInt8} {offset : Nat}
    (here : offset = left.length) (same : bytes.length = old.length) :
    setAt (left ++ old ++ right) offset bytes = left ++ bytes ++ right := by
  simp [setAt, here, same, drop_append]

/-- The buffer ends with the first block that has room for the one bit and the length. -/
theorem padded_eq_pad (input : List UInt8) : padded input = pad input := by
  have length : (input.length + 9 + 63) / 64 * 64 =
      input.length + (1 + ((119 - input.length % 64) % 64 + 8)) := by omega
  simp only [padded, pad, length]
  generalize (119 - input.length % 64) % 64 = zeros
  have empty : replicate (input.length + (1 + (zeros + 8))) (0 : UInt8) =
      [] ++ replicate input.length 0 ++ ([0] ++ (replicate zeros 0 ++ replicate 8 0)) := by
    simp only [<- replicate_append_replicate, nil_append, replicate_one]
  rw [empty, setAt_append, nil_append, <- append_assoc, setAt_append, <- append_assoc,
    <- append_nil (_ ++ replicate 8 0), setAt_append, append_nil, Nat.mul_comm]
  all_goals simp [bigEndian]
  all_goals omega

end

/-- The hash function of the ids is SHA-1: signed numbers, a reused buffer and `|` in place of
an exclusive or make no difference to any message. -/
theorem sha1_eq_digest (input : List UInt8) : sha1 input = digest input := by
  have blocks : ((range ((pad input).length / 64)).foldl
      (fun state block => addBlock (pad input) state (64 * block))
      ⟨0x67452301, 0xefcdab89, 0x98badcfe, 0x10325476, 0xc3d2e1f0⟩).map int32 =
      ((range ((pad input).length / 64)).map (block (pad input))).foldl compress initial := by
    rw [foldl_map]
    refine foldl_rel (r := fun state hash => Registers.map int32 state = hash) rfl ?_
    rintro place _ state _ rfl
    exact addBlock_compress state
  change _ = ((map _ _).foldl compress initial).toList.flatMap _
  rw [<- blocks, sha1, padded_eq_pad]
  rfl

example : sha1 [0x61, 0x62, 0x63] =
    [0xa9, 0x99, 0x3e, 0x36, 0x47, 0x06, 0x81, 0x6a, 0xba, 0x3e, 0x25, 0x71, 0x78, 0x50, 0xc2,
      0x6c, 0x9c, 0xd0, 0xd8, 0x9d] := by
  decide +kernel

end EntityIds
end OpenKit
