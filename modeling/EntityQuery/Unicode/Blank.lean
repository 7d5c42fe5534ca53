/-!
# Blank characters

Blanks are the characters with the White_Space property, in every script. Trimming and splitting
at blanks are defined on lists of characters, together with their forms on strings.
-/

namespace EntityQuery.Unicode

/-- Whether a character has the White_Space property. -/
def isBlank (c : Char) : Bool :=
  let n := c.toNat
  (9 ≤ n && n ≤ 13) || n == 0x20 || n == 0x85 || n == 0xA0 || n == 0x1680 ||
    (0x2000 ≤ n && n ≤ 0x200A) || n == 0x2028 || n == 0x2029 || n == 0x202F || n == 0x205F ||
    n == 0x3000

/-- The characters without the leading blanks. -/
def trimLeft (cs : List Char) : List Char := cs.dropWhile isBlank

/-- The characters without the blanks at either end. -/
def trim (cs : List Char) : List Char := (trimLeft (trimLeft cs).reverse).reverse

/-- Puts a word in front of the words after it, unless it is empty. -/
def closeWord (word : List Char) (words : List (List Char)) : List (List Char) :=
  if word.isEmpty then words else word :: words

/-- The longest pieces that contain no blank, in order; no piece is empty. -/
def pieces (cs : List Char) : List (List Char) :=
  let (word, words) := cs.foldr
    (fun c (word, words) => if isBlank c then ([], closeWord word words) else (c :: word, words))
    ([], [])
  closeWord word words

/-- A text without the blanks at either end. -/
def trimText (s : String) : String := String.ofList (trim s.toList)

/-- Whether a text consists of blanks alone. -/
def allBlank (s : String) : Bool := s.toList.all isBlank

@[simp] theorem trimLeft_nil : trimLeft [] = [] := rfl

@[simp] theorem pieces_nil : pieces [] = [] := rfl

end EntityQuery.Unicode
