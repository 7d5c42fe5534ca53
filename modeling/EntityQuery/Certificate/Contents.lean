/-!
# Contents of elements

What the contents of the elements have to be that mean the same everywhere: whole numbers without
padding, names of objects, bits, and texts in several encodings.
-/

namespace EntityQuery.Certificate.Contents

/-- Whether bytes hold a whole number: there is a byte, and the first one is needed for the sign. -/
def isInteger : List UInt8 → Bool
  | [] => false
  | [_] => true
  | a :: b :: rest =>
    let isPadding := a == 0 || (a == 255 && (b :: rest).any (· != 0))
    !(isPadding && (a < 128) == (b < 128))

/-- Whether bytes are steps of a path of numbers, of which all bytes but the last one of a step are
above 127. No step starts with a byte that adds nothing. The truth value tells whether a step
starts. -/
def isPath : Bool → List UInt8 → Bool
  | starts, [] => starts
  | starts, b :: rest => !(starts && b == 128) && isPath (b < 128) rest

/-- Whether bytes name an object. -/
def isObject (bytes : List UInt8) : Bool := !bytes.isEmpty && isPath true bytes

/-- Whether bytes hold bits: the first one tells how many bits of the last one are not used. -/
def isBits (bytes : List UInt8) : Bool := bytes.head?.any (· < 8)

/-- Whether bytes hold a truth value. -/
def isFlag (bytes : List UInt8) : Bool := bytes.length == 1

/-- Whether bytes are text in UTF-8. -/
def isUtf8 (bytes : List UInt8) : Bool := (ByteArray.mk bytes.toArray).validateUTF8

/-- Whether bytes are characters of two bytes each. -/
def isUtf16 : List UInt8 → Bool
  | [] => true
  | [_] => false
  | a :: _ :: rest => !(0xD8 ≤ a && a < 0xE0) && isUtf16 rest

/-- Whether bytes are characters of four bytes each. -/
def isUtf32 : List UInt8 → Bool
  | [] => true
  | a :: b :: c :: d :: rest =>
    (((a.toNat * 256 + b.toNat) * 256 + c.toNat) * 256 + d.toNat).isValidChar && isUtf32 rest
  | _ => false

@[simp] theorem isUtf16_nil : isUtf16 [] = true := rfl

@[simp] theorem isUtf32_nil : isUtf32 [] = true := rfl

@[simp] theorem isObject_nil : isObject [] = false := rfl

end EntityQuery.Certificate.Contents
