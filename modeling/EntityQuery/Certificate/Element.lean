/-!
# Elements

Bytes hold elements one after the other: a tag, the number of the bytes that follow, and those
bytes, the contents. The contents of a nested element are elements again; it may also leave out the
number and go on to an end mark.

A shape says what comes next, and contents are checked as a whole, so that nothing is left of them.
-/

namespace EntityQuery.Certificate

/-- What an element is: a number within one of four groups, zero being the group of the tags that
mean the same everywhere. -/
structure Tag where
  group : Nat
  number : Nat
  deriving DecidableEq, Repr

namespace Tag

/-- A tag that means the same everywhere. -/
def common (number : Nat) : Tag := ⟨0, number⟩

/-- A tag that means a part of what is around it. -/
def part (number : Nat) : Tag := ⟨2, number⟩

end Tag

/-- What comes in front of the contents of an element. -/
structure Head where
  tag : Tag
  isNested : Bool
  /-- The number of the bytes of the contents, unless they go on to an end mark. -/
  size : Option Nat

namespace Head

/-- The largest number that may go on with one more byte. -/
def largestToGoOn : Nat := 16777215

/-- A number of seven bits in each byte, the last one being below 128, behind what has been read. -/
def longNumber? (n : Nat) : List UInt8 → Option (Nat × List UInt8)
  | [] => none
  | b :: rest =>
    let n := n * 128 + b.toNat % 128
    if b < 128 then some (n, rest)
    else if largestToGoOn < n then none
    else longNumber? n rest

/-- The number that bytes spell, the most significant one first. -/
def number (bytes : List UInt8) : Nat := bytes.foldl (fun n b => 256 * n + b.toNat) 0

/-- The number of the bytes of the contents, and what follows it. It is one byte below 128, or
follows a byte that tells, above 128, how many bytes hold it. The byte 128 leaves it out. -/
def size? : List UInt8 → Option (Option Nat × List UInt8)
  | [] => none
  | b :: rest =>
    let n := b.toNat - 128
    if b < 128 then some (some b.toNat, rest)
    else if b = 128 then some (none, rest)
    else if rest.length ≤ n then none
    else some (some (number (rest.take n)), rest.drop n)

/-- The tag at the front, whether its element is nested, and what follows. The number of a tag is in
its first byte, unless that is full. -/
def tag? : List UInt8 → Option (Tag × Bool × List UInt8)
  | [] => none
  | b :: rest =>
    let group := b.toNat / 64
    let isNested := b.toNat / 32 % 2 == 1
    let n := b.toNat % 32
    if n < 31 then some (⟨group, n⟩, isNested, rest)
    else (longNumber? 0 rest).map fun (n, rest) => (⟨group, n⟩, isNested, rest)

end Head

/-- The head at the front, and what follows it: all of the contents, or a nested element. -/
def head? (bytes : List UInt8) : Option (Head × List UInt8) := do
  let (tag, isNested, rest) ← Head.tag? bytes
  let (size, rest) ← Head.size? rest
  match size with
  | some n => if n ≤ rest.length then some (⟨tag, isNested, size⟩, rest) else none
  | none => if isNested then some (⟨tag, isNested, none⟩, rest) else none

/-- Whether bytes start with an end mark. -/
def startsWithEnd : List UInt8 → Bool
  | 0 :: 0 :: _ => true
  | _ => false

/-- What follows the end mark of the element around the bytes. The first argument bounds the steps,
the second one counts the elements that have begun since and wait for their end marks. -/
def afterEnd? : Nat → Nat → List UInt8 → Option (List UInt8)
  | 0, _, _ => none
  | n + 1, opened, bytes =>
    if startsWithEnd bytes then
      match opened with
      | 0 => some (bytes.drop 2)
      | opened + 1 => afterEnd? n opened (bytes.drop 2)
    else
      match head? bytes with
      | some (⟨_, _, some size⟩, rest) => afterEnd? n opened (rest.drop size)
      | some (⟨_, _, none⟩, rest) => afterEnd? n (opened + 1) rest
      | none => none

/-- An element. -/
structure Element where
  tag : Tag
  isNested : Bool
  contents : List UInt8

/-- The element at the front, and what follows it. -/
def element? (bytes : List UInt8) : Option (Element × List UInt8) := do
  let (head, rest) ← head? bytes
  match head.size with
  | some n => some (⟨head.tag, head.isNested, rest.take n⟩, rest.drop n)
  | none =>
    let behind ← afterEnd? rest.length 0 rest
    some (⟨head.tag, head.isNested, rest.take (rest.length - behind.length - 2)⟩, behind)

/-- The contents of some elements together. The first argument bounds the steps, the second one how
deep nested elements are taken apart. -/
def gathered? : Nat → Nat → List UInt8 → Option (List UInt8)
  | _, _, [] => some []
  | 0, _, _ :: _ => none
  | n + 1, depth, bytes =>
    if startsWithEnd bytes then none
    else do
      let (e, rest) ← element? bytes
      let here ←
        if e.isNested then
          match depth with
          | 0 => none
          | depth + 1 => gathered? n depth e.contents
        else some e.contents
      let later ← gathered? n depth rest
      some (here ++ later)

namespace Element

/-- Whether an element is not nested and its contents pass a check. -/
def isPlain (check : List UInt8 → Bool) (e : Element) : Bool := !e.isNested && check e.contents

/-- Whether an element is nested and its contents pass a check. -/
def isMade (check : List UInt8 → Bool) (e : Element) : Bool := e.isNested && check e.contents

/-- The number of levels of texts that are put together. -/
def deepestText : Nat := 5

/-- The text of an element. It may be nested, and is put together then. -/
def text? (e : Element) : Option (List UInt8) :=
  if e.isNested then gathered? e.contents.length deepestText e.contents else some e.contents

/-- Whether an element has a text that passes a check. -/
def hasText (check : List UInt8 → Bool) (e : Element) : Bool := e.text?.any check

end Element

/-- What may come next in some bytes: the bytes behind it, if it does. -/
abbrev Shape : Type := List UInt8 → Option (List UInt8)

namespace Shape

/-- An element that passes a check. -/
def any (check : Element → Bool) : Shape := fun bytes => do
  let (e, rest) ← element? bytes
  if check e then some rest else none

/-- An element of a tag that passes a check. -/
def element (tag : Tag) (check : Element → Bool) : Shape := any fun e => e.tag == tag && check e

/-- An element that may be left out: it is there if its tag comes next. -/
def optional (tag : Tag) (check : Element → Bool) : Shape := fun bytes =>
  if (head? bytes).any fun (head, _) => head.tag == tag then element tag check bytes
  else some bytes

/-- Whether bytes are some shapes in order. -/
def inOrder (shapes : List Shape) (bytes : List UInt8) : Bool :=
  (shapes.foldlM (fun bytes (shape : Shape) => shape bytes) bytes).any List.isEmpty

/-- Whether bytes are of one shape again and again. The first argument bounds how often. -/
def repeats (shape : Shape) : Nat → List UInt8 → Bool
  | _, [] => true
  | 0, _ :: _ => false
  | n + 1, bytes => (shape bytes).any (repeats shape n)

/-- Whether bytes are of one shape again and again. -/
def all (shape : Shape) (bytes : List UInt8) : Bool := repeats shape bytes.length bytes

@[simp] theorem all_nil (shape : Shape) : shape.all [] = true := by
  simp [all, repeats]

end Shape

@[simp] theorem Head.number_nil : Head.number [] = 0 := rfl

end EntityQuery.Certificate
