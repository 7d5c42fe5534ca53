import EntityQuery.Certificate.Armour
import EntityQuery.Certificate.Contents
import EntityQuery.Certificate.Element

/-!
# Certificates

A certificate is a sequence of what is certified, the algorithm of the signature and the signature.
Its outline is checked down to the names and the extensions; whether the signature holds is not
decided here.
-/

namespace EntityQuery.Certificate

open Contents

/-- A sequence of shapes. -/
def sequence (shapes : List Shape) : Shape :=
  .element (.common 16) (Element.isMade (Shape.inOrder shapes))

/-- A sequence of any number of elements of one shape. -/
def sequenceOf (shape : Shape) : Shape := .element (.common 16) fun e => shape.all e.contents

/-- A set of elements of one shape. -/
def setOf (shape : Shape) : Shape := .element (.common 17) fun e => shape.all e.contents

/-- A whole number. -/
def integer : Shape := .element (.common 2) (Element.isPlain isInteger)

/-- The name of an object. -/
def object : Shape := .element (.common 6) (Element.isPlain isObject)

/-- Bits. -/
def bits : Shape := .element (.common 3) (Element.hasText isBits)

/-- A truth value that may be left out. -/
def flag : Shape := .optional (.common 1) (Element.isPlain isFlag)

/-- Bytes that are not looked into. -/
def octets : Shape := .element (.common 4) (Element.hasText fun _ => true)

/-- Whether an element is what its tag says, if that means the same everywhere. -/
def isSound (e : Element) : Bool :=
  if e.tag.group ≠ 0 then true
  else
    match e.tag.number with
    | 1 => e.isPlain isFlag
    | 2 | 10 => e.isPlain isInteger
    | 3 => e.hasText isBits
    | 5 => e.isPlain List.isEmpty
    | 6 => e.isPlain isObject
    | 16 | 17 => e.isNested
    | 23 => e.hasText fun text => 13 ≤ text.length
    | 24 => e.hasText fun text => 15 ≤ text.length
    | 28 => e.hasText fun text => text.length % 4 == 0
    | 30 => e.hasText fun text => text.length % 2 == 0
    | _ => e.hasText fun _ => true

/-- Any element, or nothing. -/
def anything : Shape := fun bytes =>
  if bytes.isEmpty then some []
  else if startsWithEnd bytes then none
  else Shape.any isSound bytes

/-- An algorithm: its name, and what it depends on. -/
def algorithm : Shape := sequence [object, anything]

/-- The numbers of the tags of texts in names. -/
def textNumbers : List Nat := [3, 7, 8, 9, 11, 12, 13, 14, 15, 16, 18, 19, 20, 22, 28, 29, 30]

/-- Whether an element is a text. -/
def isText (e : Element) : Bool :=
  e.tag.group == 0 && textNumbers.contains e.tag.number &&
    match e.tag.number with
    | 12 => e.hasText isUtf8
    | 28 => e.hasText isUtf32
    | 30 => e.hasText isUtf16
    | _ => isSound e

/-- A name: sets of parts, each with its kind and its text. -/
def name : Shape := sequenceOf (setOf (sequence [object, .any isText]))

/-- A moment. -/
def moment : Shape := .any fun e => (e.tag == .common 23 || e.tag == .common 24) && isSound e

/-- An extension: its kind, whether it matters, and what it says. -/
def extension : Shape := sequence [object, flag, octets]

/-- What is certified. -/
def subject : Shape :=
  sequence
    [.optional (.part 0) (Element.isMade (Shape.inOrder [integer])), integer, algorithm, name,
     sequence [moment, moment], name, sequence [algorithm, bits],
     .optional (.part 1) (Element.hasText isBits), .optional (.part 2) (Element.hasText isBits),
     .optional (.part 3) (Element.isMade (Shape.inOrder [sequenceOf extension]))]

/-- A certificate. -/
def certificate : Shape := sequence [subject, algorithm, bits]

/-- The labels of blocks that hold certificates. -/
def labels : List (List UInt8) := ["CERTIFICATE", "X509 CERTIFICATE"].map bytesOf

/-- Whether the text of a file holds a certificate: the first block of a certificate's label starts
with one. -/
def isIn (text : String) : Bool :=
  let bytes := bytesOf text
  ((bytesIn? labels (bytes.length + 1) (Piece.ofBytes bytes)).bind certificate).isSome

end EntityQuery.Certificate
