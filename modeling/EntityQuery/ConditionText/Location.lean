/-!
# Locations in text

Places in a text are counted in two ways: by line and column, both from one and in characters, and
by the number of bytes in front. Reading a text moves a location along; `byteOffset` turns a
location back into a number of bytes, whatever location it is given.
-/

namespace EntityQuery.ConditionText

/-- A line and a column, counted from one. -/
structure Location where
  line : Nat
  column : Nat
  deriving DecidableEq, Repr, Inhabited

namespace Location

/-- The start of a text. -/
def start : Location := ⟨1, 1⟩

/-- The location after a character. -/
def advance (l : Location) (c : Char) : Location :=
  if c = '\n' then ⟨l.line + 1, 1⟩ else ⟨l.line, l.column + 1⟩

/-- The location after some characters. -/
def advanceAll (l : Location) (cs : List Char) : Location := cs.foldl advance l

/-- Whether a location comes before another one. -/
def before (a b : Location) : Bool := a.line < b.line || (a.line == b.line && a.column < b.column)

/-- The earlier one of two locations. -/
def earlier (a b : Location) : Location := if b.before a then b else a

/-- The later one of two locations. -/
def later (a b : Location) : Location := if a.before b then b else a

end Location

/-- The number of bytes of some characters. -/
def byteLength : List Char → Nat
  | [] => 0
  | c :: cs => c.utf8Size + byteLength cs

/-- The bytes in front of the character of an index in the first line; past the line's end these
are all bytes of the line, with its line break. -/
def lineOffset : List Char → Nat → Nat
  | [], _ => 0
  | _ :: _, 0 => 0
  | c :: cs, n + 1 => c.utf8Size + if c = '\n' then 0 else lineOffset cs n

/-- The bytes in front of a location; past the last line these are all bytes. -/
def byteOffset : List Char → Location → Nat
  | [], _ => 0
  | c :: cs, ⟨line, column⟩ =>
    if line = 1 then lineOffset (c :: cs) (column - 1)
    else c.utf8Size + byteOffset cs ⟨if c = '\n' then line - 1 else line, column⟩

/-- The part of a text that something covers: from its first location to the one after it. -/
structure Extent where
  first : Location
  last : Location
  deriving DecidableEq, Repr, Inhabited

/-- The part of a text that something covers, if it is known. -/
abbrev Span : Type := Option Extent

namespace Span

/-- The span of nothing. -/
def empty : Span := none

/-- The least span that covers two spans. -/
def union : Span → Span → Span
  | none, b => b
  | a, none => a
  | some a, some b => some ⟨a.first.earlier b.first, a.last.later b.last⟩

/-- The least span that covers several spans. -/
def unions (spans : List Span) : Span := spans.foldl union none

@[simp] theorem union_none (a : Span) : union a none = a := by
  cases a <;> rfl

@[simp] theorem none_union (a : Span) : union none a = a := rfl

end Span

@[simp] theorem byteLength_nil : byteLength [] = 0 := rfl

@[simp] theorem byteOffset_nil (l : Location) : byteOffset [] l = 0 := rfl

theorem byteLength_append (a b : List Char) :
    byteLength (a ++ b) = byteLength a + byteLength b := by
  induction a with
  | nil => simp
  | cons c cs ih => simp [byteLength, ih, Nat.add_assoc]

end EntityQuery.ConditionText
