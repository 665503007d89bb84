import Mathlib.Data.List.Basic

namespace OpenKit
namespace Foundation
namespace Sha1

open List

/-!
# The hash function SHA-1

The definition of the standard, for messages of whole bytes: functions and constants,
padding, message schedule and rounds.  Words are numbers modulo `2 ^ 32`.
-/

abbrev Word := BitVec 32

/-- Five working variables. -/
structure Registers (α : Type) where
  (a b c d e : α)

namespace Registers

variable {α β γ : Type}

def map (f : α -> β) (registers : Registers α) : Registers β :=
  ⟨f registers.a, f registers.b, f registers.c, f registers.d, f registers.e⟩

def zipWith (f : α -> β -> γ) (left : Registers α) (right : Registers β) : Registers γ :=
  ⟨f left.a right.a, f left.b right.b, f left.c right.c, f left.d right.d, f left.e right.e⟩

def toList (registers : Registers α) : List α :=
  [registers.a, registers.b, registers.c, registers.d, registers.e]

end Registers

def ch (x y z : Word) : Word := (x &&& y) ^^^ (~~~ x &&& z)

def parity (x y z : Word) : Word := x ^^^ y ^^^ z

def maj (x y z : Word) : Word := (x &&& y) ^^^ (x &&& z) ^^^ (y &&& z)

/-- The logical function of a round. -/
def logical (t : Nat) : Word -> Word -> Word -> Word :=
  if t < 20 then ch else if t < 40 then parity else if t < 60 then maj else parity

/-- The constant of a round. -/
def constant (t : Nat) : Word :=
  if t < 20 then 0x5a827999 else if t < 40 then 0x6ed9eba1 else if t < 60 then 0x8f1bbcdc
  else 0xca62c1d6

/-- The bytes of a number, the most significant one first. -/
def bigEndian (count value : Nat) : List UInt8 :=
  (range count).map fun index => UInt8.ofNat (value >>> (8 * (count - 1 - index)))

/-- The word that starts at an offset. -/
def word (bytes : List UInt8) (offset : Nat) : Word :=
  (range 4).foldl (fun high index =>
    high <<< 8 ||| (bytes.getD (offset + index) 0).toBitVec.setWidth 32) 0

/-- A one bit, the fewest zero bits after which 64 bits complete a block, and in these the
length of the message in bits. -/
def pad (message : List UInt8) : List UInt8 :=
  message ++ [0x80] ++ replicate ((119 - message.length % 64) % 64) 0 ++
    bigEndian 8 (8 * message.length)

def block (padded : List UInt8) (index : Nat) : List Word :=
  (range 16).map fun place => word padded (64 * index + 4 * place)

def schedule (block : List Word) (t : Nat) : Word :=
  if t < 16 then block.getD t 0
  else (schedule block (t - 3) ^^^ schedule block (t - 8) ^^^ schedule block (t - 14) ^^^
    schedule block (t - 16)).rotateLeft 1
termination_by t
decreasing_by all_goals omega

def roundStep (block : List Word) (registers : Registers Word) (t : Nat) : Registers Word :=
  ⟨registers.a.rotateLeft 5 + logical t registers.b registers.c registers.d + registers.e +
      constant t + schedule block t,
    registers.a, registers.b.rotateLeft 30, registers.c, registers.d⟩

def compress (hash : Registers Word) (block : List Word) : Registers Word :=
  hash.zipWith (· + ·) ((range 80).foldl (roundStep block) hash)

def initial : Registers Word := ⟨0x67452301, 0xefcdab89, 0x98badcfe, 0x10325476, 0xc3d2e1f0⟩

def digest (message : List UInt8) : List UInt8 :=
  let padded := pad message
  let blocks := (range (padded.length / 64)).map (block padded)
  (blocks.foldl compress initial).toList.flatMap fun word => bigEndian 4 word.toNat

end Sha1
end Foundation
end OpenKit
