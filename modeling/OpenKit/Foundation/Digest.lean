import Mathlib.Logic.Equiv.List

namespace OpenKit
namespace Foundation

/-!
# Collision-free text codes

Content digests enter this development as functions to strings that are
assumed injective.  Such functions exist for every encodable type, so an
assumption of that kind can be met.  The code below is only reasoned about; its
texts are far too long to be computed.
-/

instance charEncodable : Encodable Char :=
  Encodable.ofLeftInjection Char.toNat (fun code => some (Char.ofNat code))
    (fun character => congrArg some (Char.ofNat_toNat character))

instance stringEncodable : Encodable String :=
  Encodable.ofLeftInverse String.toList String.ofList (fun _ => String.ofList_toList)

/-- A text that spells a number in unary. -/
def unaryText (count : Nat) : String :=
  String.ofList (List.replicate count '1')

theorem unaryText_injective : Function.Injective unaryText := by
  intro left right equal
  have letters := congrArg (·.toList.length) equal
  simpa [unaryText] using letters

/-- A collision-free text for every value of an encodable type. -/
def textCode {α : Type} [Encodable α] (value : α) : String :=
  unaryText (Encodable.encode value)

theorem textCode_injective {α : Type} [Encodable α] :
    Function.Injective (textCode : α -> String) := by
  intro left right equal
  apply Encodable.encode_injective
  exact unaryText_injective equal

end Foundation
end OpenKit
