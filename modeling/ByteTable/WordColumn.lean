import ByteTable.Action
import ByteTable.Slot.Word

/-!
# Columns of words

The layouts that keep the slots' words apart hold them in one array per bucket.  Like a `Column`
it grows only after memory was reserved, eight bytes for each word.
-/

namespace ByteTable

/-- The words of one bucket. -/
abbrev WordColumn := Array SlotWord

namespace WordColumn

/-- The number of bytes a word takes. -/
def wordBytes : Nat := 8

/-- Reserve memory for one more word. -/
def reserveOne (limit : Nat) : Action WordColumn Unit := fun words =>
  if wordBytes * (words.size + 1) ≤ limit then (Action.pure ()) words
  else Action.raise .allocation words

/-- The word at an index, which must exist. -/
def word (words : WordColumn) (index : Nat) : Except Crash SlotWord :=
  match words[index]? with
  | some w => .ok w
  | none => .error .outOfBounds

/-- Replace the word at an index, which must exist. -/
def setWord (index : Nat) (w : SlotWord) : Action WordColumn Unit := fun words =>
  if index < words.size then Action.modify (Array.setIfInBounds · index w) words
  else Action.crash .outOfBounds words

end WordColumn

end ByteTable
