/-!
# The text of a structured value

Stores, tables and cursors can be shown as text.  The format is one line: a record is its name
followed by its fields in braces, a list stands in brackets, an optional value is `None` or
`Some(..)`.  The three functions here fix those marks once for the whole library.
-/

namespace ByteTable

/-- Values that have a text of this format. -/
class Describe (α : Type) where
  /-- The text of a value. -/
  describe : α → String

export Describe (describe)

namespace Description

/-- The text of a record: its name, then its fields in braces. -/
def record (name : String) (fields : List (String × String)) : String :=
  name ++ " \x7b " ++ ", ".intercalate (fields.map fun f => f.1 ++ ": " ++ f.2) ++ " \x7d"

/-- The text of a record of which only the leading fields are shown. -/
def openRecord (name : String) (fields : List (String × String)) : String :=
  name ++ " \x7b " ++ String.join (fields.map fun f => f.1 ++ ": " ++ f.2 ++ ", ") ++ ".. \x7d"

/-- The text of a list of texts. -/
def list (items : List String) : String :=
  "[" ++ ", ".intercalate items ++ "]"

/-- The text of a value wrapped in a named constructor. -/
def wrap (name text : String) : String :=
  name ++ "(" ++ text ++ ")"

end Description

instance : Describe Nat := ⟨Nat.repr⟩

instance : Describe Bool := ⟨fun b => if b then "true" else "false"⟩

instance : Describe UInt8 := ⟨fun b => Nat.repr b.toNat⟩

instance {α : Type} [Describe α] : Describe (List α) :=
  ⟨fun items => Description.list (items.map describe)⟩

instance {α : Type} [Describe α] : Describe (Array α) :=
  ⟨fun items => describe items.toList⟩

instance {α : Type} [Describe α] : Describe (Option α) :=
  ⟨fun
    | none => "None"
    | some a => Description.wrap "Some" (describe a)⟩

end ByteTable
