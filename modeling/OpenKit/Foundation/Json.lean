import Mathlib.Tactic.Common

namespace OpenKit
namespace Foundation

/-!
# JSON objects and their readers

A reader takes the fields that it knows from an object, checks them, and drops
the rest.  Enumerations are read through the texts of their members.
-/

universe u

inductive Json where
  | null
  | bool (value : Bool)
  | number (value : Int)
  | text (value : String)
  | list (items : List Json)
  | object (fields : List (String × Json))

/-- A closed vocabulary: each member has its own text. -/
class Vocabulary (α : Type u) where
  all : List α
  text : α -> String
  find?_text : ∀ member, all.find? (text · = text member) = some member

def readLiteral (α : Type u) [Vocabulary α] : Json -> Option α
  | .text content => Vocabulary.all.find? (fun member : α => Vocabulary.text member = content)
  | _ => none

@[simp] theorem readLiteral_text {α : Type u} [Vocabulary α] (member : α) :
    readLiteral α (.text (Vocabulary.text member)) = some member :=
  Vocabulary.find?_text member

/-- The fields of an object. -/
abbrev JsonFields := List (String × Json)

namespace JsonFields

def value? (fields : JsonFields) (name : String) : Option Json :=
  fields.lookup name

@[simp] theorem value?_nil (name : String) : value? [] name = none := rfl

@[simp] theorem value?_cons (field : String) (value : Json) (rest : JsonFields) (name : String) :
    value? ((field, value) :: rest) name = if name = field then some value else value? rest name := by
  unfold value?
  rw [List.lookup_cons]
  by_cases same : name = field
  · simp [same]
  · have differs : (name == field) = false := by simpa using same
    simp [same, differs]

/-- A text field that is present. -/
def text? (fields : JsonFields) (name : String) : Option String :=
  match fields.value? name with
  | some (.text content) => some content
  | _ => none

/-- A member of a closed vocabulary. -/
def literal? (α : Type u) [Vocabulary α] (fields : JsonFields) (name : String) : Option α :=
  (fields.value? name).bind (readLiteral α)

/-- Whether a field is one fixed text. -/
def hasText (fields : JsonFields) (name content : String) : Bool :=
  fields.text? name = some content

/-- A field that may be missing: a missing one reads as nothing, and a present
one must be read. -/
def optional? {α : Type u} (fields : JsonFields) (name : String) (read : Json -> Option α) :
    Option (Option α) :=
  match fields.value? name with
  | none => some none
  | some value => (read value).map some

end JsonFields

end Foundation
end OpenKit
