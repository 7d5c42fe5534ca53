import EntityQuery.Json
import EntityQuery.Double.Shortest

/-!
# Exchange text

JSON text in two layouts: compact, without any blank, and indented by two spaces a level. Only
quotes, backslashes and control characters are escaped.
-/

namespace EntityQuery.Json

/-- A hexadecimal digit, small. -/
def hexDigit (n : Nat) : Char := Char.ofNat (if n < 10 then 0x30 + n else 0x57 + n)

/-- A character as it stands between the quotes of a string. -/
def escapeChar (c : Char) : List Char :=
  match c with
  | '"' => ['\\', '"']
  | '\\' => ['\\', '\\']
  | '\n' => ['\\', 'n']
  | '\r' => ['\\', 'r']
  | '\t' => ['\\', 't']
  | '\x08' => ['\\', 'b']
  | '\x0c' => ['\\', 'f']
  | c =>
    if c.toNat < 0x20 then
      ['\\', 'u', '0', '0', hexDigit (c.toNat / 16), hexDigit (c.toNat % 16)]
    else [c]

/-- A text between quotes. -/
def quote (s : String) : String :=
  String.ofList ('"' :: (s.toList.flatMap escapeChar ++ ['"']))

/-- A number that is no number has no text of its own. -/
def realText (d : Double) : String := d.exchangeText?.getD "null"

mutual

/-- The text of a value without blanks. -/
def compact : Json → String
  | null => "null"
  | bool b => if b then "true" else "false"
  | integer i => toString i
  | real d => realText d
  | string s => quote s
  | array items => "[" ++ ",".intercalate (compactItems items) ++ "]"
  | object fields => "\x7b" ++ ",".intercalate (compactFields fields) ++ "\x7d"

/-- The texts of the items of an array. -/
def compactItems : List Json → List String
  | [] => []
  | item :: rest => compact item :: compactItems rest

/-- The texts of the fields of an object. -/
def compactFields : List (String × Json) → List String
  | [] => []
  | (key, value) :: rest => (quote key ++ ":" ++ compact value) :: compactFields rest

end

/-- The start of a line at a level of indentation. -/
def lineStart (level : Nat) : String := "\n" ++ String.ofList (List.replicate (2 * level) ' ')

/-- Items on lines of their own between brackets; nothing between them stays on one line. -/
def block (level : Nat) (opening closing : String) (items : List String) : String :=
  if items.isEmpty then opening ++ closing
  else
    opening ++ ",".intercalate (items.map (lineStart (level + 1) ++ ·)) ++ lineStart level ++
      closing

mutual

/-- The text of a value, indented from a level on. -/
def indented (level : Nat) : Json → String
  | array items => block level "[" "]" (indentedItems level items)
  | object fields => block level "\x7b" "\x7d" (indentedFields level fields)
  | null => "null"
  | bool b => if b then "true" else "false"
  | integer i => toString i
  | real d => realText d
  | string s => quote s

/-- The texts of the items of an array. -/
def indentedItems (level : Nat) : List Json → List String
  | [] => []
  | item :: rest => indented (level + 1) item :: indentedItems level rest

/-- The texts of the fields of an object. -/
def indentedFields (level : Nat) : List (String × Json) → List String
  | [] => []
  | (key, value) :: rest =>
    (quote key ++ ": " ++ indented (level + 1) value) :: indentedFields level rest

end

end EntityQuery.Json
