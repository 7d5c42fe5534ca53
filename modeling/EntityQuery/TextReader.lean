/-!
# Readers of text

A reader takes the characters it needs from the front of a text and returns what it has read and the
rest, or nothing if the text does not start with what it reads.
-/

namespace EntityQuery

/-- A reader of values of some type: the value and what follows it, or nothing. -/
abbrev TextReader (α : Type) : Type := List Char → Option (α × List Char)

namespace TextReader

/-- Takes a word that must come next. -/
def word? : List Char → List Char → Option (List Char)
  | [], cs => some cs
  | _ :: _, [] => none
  | w :: ws, c :: cs => if w = c then word? ws cs else none

/-- The value of a hexadecimal digit. -/
def hexValue? (c : Char) : Option Nat :=
  if c.isDigit then some (c.toNat - 0x30)
  else if 'a' ≤ c ∧ c ≤ 'f' then some (c.toNat - 0x57)
  else if 'A' ≤ c ∧ c ≤ 'F' then some (c.toNat - 0x37)
  else none

@[simp] theorem word?_nil (cs : List Char) : word? [] cs = some cs := rfl

end TextReader

end EntityQuery
