/-!
# Armoured blocks

A file keeps bytes in blocks of lines: base64 between a line that begins a block of some label and
the line that ends it. A block may start with header lines, which a blank line parts from the data.
What stands outside of the blocks is skipped, but a block that breaks the rules spoils the file,
also in front of the block that is looked for.

Lines are read in pieces of limited length. What is at most a space and what is beyond ASCII does
not count at the end of a piece, and nothing is seen behind a zero byte.
-/

namespace EntityQuery.Certificate

/-- The bytes of a text. -/
def bytesOf (text : String) : List UInt8 := text.toUTF8.toList

/-- A piece of a line. -/
structure Piece where
  /-- The bytes up to the last one that counts. -/
  text : List UInt8
  /-- Whether the line goes on after the piece. -/
  isPartial : Bool

namespace Piece

/-- The number of bytes of the longest piece. -/
def longest : Nat := 254

/-- The byte at the end of a line. -/
def lineFeed : UInt8 := 10

/-- Whether a byte counts at the end of a piece. -/
def counts (b : UInt8) : Bool := 32 < b && b < 128

/-- Bytes up to the last one that counts. -/
def trimmed (bytes : List UInt8) : List UInt8 :=
  (bytes.reverse.dropWhile fun b => !counts b).reverse

/-- The pieces of some bytes. The first argument bounds their number. -/
def split : Nat → List UInt8 → List Piece
  | 0, _ | _, [] => []
  | n + 1, bytes =>
    let window := bytes.take longest
    let line := window.takeWhile (· != lineFeed)
    let isPartial := line.length == longest
    let size := if line.length < window.length then line.length + 1 else line.length
    ⟨trimmed line, isPartial⟩ :: split n (bytes.drop size)

/-- The pieces of some bytes. -/
def ofBytes (bytes : List UInt8) : List Piece := split bytes.length bytes

/-- The bytes of a piece that are seen. -/
def seen (p : Piece) : List UInt8 := p.text.takeWhile (· != 0)

end Piece

/-- A block of a file. -/
structure Block where
  label : List UInt8
  /-- The bytes of the lines in front of the blank line, if there is one. -/
  header : Option (List UInt8)
  /-- The bytes of the other lines. -/
  armoured : List UInt8

namespace Block

/-- What a line begins with that begins a block. -/
def opening : List UInt8 := bytesOf "-----BEGIN "

/-- What a line begins with that ends a block. -/
def closing : List UInt8 := bytesOf "-----END "

/-- What the first and the last line of a block end with. -/
def rule : List UInt8 := bytesOf "-----"

/-- The mark of the order of bytes, which is skipped in front of a block. -/
def byteOrderMark : List UInt8 := [0xEF, 0xBB, 0xBF]

/-- The label of a line that begins a block. -/
def label? (line : List UInt8) : Option (List UInt8) :=
  if opening.isPrefixOf line && rule.isSuffixOf line then
    some (((line.drop opening.length).take
      (line.length - opening.length - rule.length)).takeWhile (· != 0))
  else none

/-- The label of the next block, and what follows its first line. -/
def begin? : List Piece → Option (List UInt8 × List Piece)
  | [] => none
  | p :: ps =>
    match label? p.text with
    | some label => some (label, ps)
    | none => begin? ps

/-- Pieces without a mark of the order of bytes at their front. -/
def withoutMark : List Piece → List Piece
  | [] => []
  | p :: ps =>
    let start := if byteOrderMark.isPrefixOf p.text then byteOrderMark.length else 0
    { p with text := p.text.drop start } :: ps

/-- The line that ends a block of a label. -/
def lastLine (label : List UInt8) : List UInt8 := closing ++ label ++ rule

/-- The number of bytes of a line of data behind a header; only the last line is shorter. -/
def width : Nat := 64

/-- The data behind a header, and what follows the block. The first truth value tells whether a line
was short, the second one whether the piece in front was partial. A blank line is an error, unless
it is the end of such a piece. -/
def tail? (label : List UInt8) : Bool → Bool → List Piece → Option (List UInt8 × List Piece)
  | _, _, [] => none
  | short, isPartial, p :: ps =>
    if p.text.isEmpty then
      if isPartial then tail? label short p.isPartial ps else none
    else if closing.isPrefixOf p.text then
      if p.text = lastLine label then some ([], ps) else none
    else if short || width < p.text.length then none
    else (tail? label (p.text.length < width) p.isPartial ps).map fun (data, rest) =>
      (p.seen ++ data, rest)

/-- A block behind its first line, and what follows the block. The first truth value tells whether
a colon was seen, after which the header has to end with a blank line, the second one whether the
piece in front was partial. -/
def body? (label : List UInt8) : Bool → Bool → List Piece → Option (Block × List Piece)
  | _, _, [] => none
  | colon, isPartial, p :: ps =>
    let colon := colon || p.text.contains 58
    if p.text.isEmpty then
      if isPartial then body? label colon p.isPartial ps
      else (tail? label false p.isPartial ps).map fun (data, rest) => (⟨label, some [], data⟩, rest)
    else if closing.isPrefixOf p.text then
      if p.text = lastLine label ∧ !colon then some (⟨label, none, []⟩, ps) else none
    else (body? label colon p.isPartial ps).map fun (block, rest) =>
      match block.header with
      | some header => ({ block with header := some (p.seen ++ header) }, rest)
      | none => ({ block with armoured := p.seen ++ block.armoured }, rest)

/-- The next block, and what follows it. -/
def next? (pieces : List Piece) : Option (Block × List Piece) :=
  (begin? (withoutMark pieces)).bind fun (label, rest) => body? label false false rest

end Block

/-- The value of a digit of base64. -/
def digitValue? (b : UInt8) : Option Nat :=
  let n := b.toNat
  if 65 ≤ n ∧ n ≤ 90 then some (n - 65)
  else if 97 ≤ n ∧ n ≤ 122 then some (n - 97 + 26)
  else if 48 ≤ n ∧ n ≤ 57 then some (n - 48 + 52)
  else if n = 43 then some 62
  else if n = 47 then some 63
  else none

/-- The values of the digits of base64 in some bytes, and how many of them are padding, which counts
as zero: at most two equals signs behind the digits. Blanks and line ends are skipped, a hyphen ends
the digits. -/
def digits? (padding : Nat) : List UInt8 → Option (List Nat × Nat)
  | [] => some ([], padding)
  | b :: rest =>
    if b = 45 then some ([], padding)
    else if b = 32 ∨ b = 9 ∨ b = 10 ∨ b = 13 then digits? padding rest
    else if b = 61 then
      if padding = 2 then none else (digits? (padding + 1) rest).map fun (ds, n) => (0 :: ds, n)
    else if padding = 0 then do
      let d ← digitValue? b
      let (ds, n) ← digits? padding rest
      some (d :: ds, n)
    else none

/-- The bytes of digits in groups of four. -/
def grouped? : List Nat → Option (List UInt8)
  | [] => some []
  | a :: b :: c :: d :: rest =>
    let n := ((a * 64 + b) * 64 + c) * 64 + d
    (grouped? rest).map fun bytes => .ofNat (n / 65536) :: .ofNat (n / 256) :: .ofNat n :: bytes
  | _ => none

/-- The bytes that base64 stands for. -/
def base64? (bytes : List UInt8) : Option (List UInt8) := do
  let (ds, padding) ← digits? 0 bytes
  let decoded ← grouped? ds
  some (decoded.take (decoded.length - padding))

/-- The bytes of the first block of one of the labels, if its header is empty. All blocks in front
of it hold bytes, too. The first argument bounds their number. -/
def bytesIn? (labels : List (List UInt8)) : Nat → List Piece → Option (List UInt8)
  | 0, _ => none
  | n + 1, pieces => do
    let (block, rest) ← Block.next? pieces
    let bytes ← base64? block.armoured
    if bytes.isEmpty then none
    else if labels.contains block.label then
      if (block.header.getD []).isEmpty then some bytes else none
    else bytesIn? labels n rest

@[simp] theorem digits?_nil (padding : Nat) : digits? padding [] = some ([], padding) := rfl

@[simp] theorem grouped?_nil : grouped? [] = some [] := rfl

@[simp] theorem Piece.ofBytes_nil : Piece.ofBytes [] = [] := rfl

end EntityQuery.Certificate
