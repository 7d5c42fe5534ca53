import EntityQuery.Unicode.Bounds
import EntityQuery.Unicode.CaseData

/-!
# Upper and lower case

Full case mapping of texts: a character may become several (`ß` is `SS` in upper case), and a
capital sigma becomes its final form at the end of a word. The mapping of ASCII texts alone is
kept apart, because names and keywords are compared with it.
-/

namespace EntityQuery.Unicode

/-- The character that a run maps a code point to, if the code point belongs to the run. -/
def CaseRun.map? (run : CaseRun) (n : Nat) : Option Char :=
  if run.first ≤ n && n ≤ run.last && (n - run.first) % run.stride == 0 then
    some (Char.ofNat (n + run.shift).toNat)
  else none

/-- The case mapping of one character beyond ASCII: its expansion, its run, or itself. -/
def mapCase (runs : List CaseRun) (expansions : List (Nat × List Nat)) (c : Char) : List Char :=
  match expansions.lookup c.toNat with
  | some ns => ns.map Char.ofNat
  | none => [(runs.findSome? (·.map? c.toNat)).getD c]

/-- The lower case of one character, apart from its neighbours. -/
def lowerChar (c : Char) : List Char :=
  if c.toNat < 128 then [c.toLower] else mapCase lowerRuns lowerExpansions c

/-- The upper case of one character. -/
def upperChar (c : Char) : List Char :=
  if c.toNat < 128 then [c.toUpper] else mapCase upperRuns upperExpansions c

/-- Whether the first character that is not case-ignorable is cased. -/
def reachesCased (cs : List Char) : Bool :=
  match cs.dropWhile (fun c => inBounds caseIgnorableBounds c.toNat) with
  | [] => false
  | c :: _ => inBounds casedBounds c.toNat

/-- A sigma is final when letters come before it in its word and none after it. -/
def sigmaBetween (before after : List Char) : Char :=
  if reachesCased before && !reachesCased after then 'ς' else 'σ'

/-- The lower case of the second list, which follows the first one (given backwards). -/
def lowerFrom (before : List Char) : List Char → List Char
  | [] => []
  | c :: cs =>
    (if c = 'Σ' then [sigmaBetween before cs] else lowerChar c) ++ lowerFrom (c :: before) cs

/-- The lower case of a text. -/
def lower (s : String) : String := String.ofList (lowerFrom [] s.toList)

/-- The upper case of a text. -/
def upper (s : String) : String := String.ofList (s.toList.flatMap upperChar)

/-- The text with its ASCII capitals made small. -/
def lowerAscii (s : String) : String := String.ofList (s.toList.map Char.toLower)

/-- The text with its ASCII small letters made capital. -/
def upperAscii (s : String) : String := String.ofList (s.toList.map Char.toUpper)

end EntityQuery.Unicode
