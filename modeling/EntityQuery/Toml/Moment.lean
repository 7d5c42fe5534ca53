import EntityQuery.TextReader

/-!
# Dates and times of settings files

A moment is a date, a time of day, or both with an optional offset. No setting holds one, so reading
one tells only whether it is written correctly, down to the length of the month, and what follows
it.
-/

namespace EntityQuery.Toml

/-- The number that exactly so many decimal digits spell, after what has been read. -/
def fixedDigits? : Nat → Nat → TextReader Nat
  | 0, read, cs => some (read, cs)
  | _ + 1, _, [] => none
  | n + 1, read, c :: cs =>
    if c.isDigit then fixedDigits? n (10 * read + (c.toNat - '0'.toNat)) cs else none

/-- Two digits within bounds. -/
def pair? (least greatest : Nat) (cs : List Char) : Option (Nat × List Char) :=
  (fixedDigits? 2 0 cs).filter fun (n, _) => least ≤ n && n ≤ greatest

/-- What follows a character that must come next. -/
def mark? (mark : Char) : List Char → Option (List Char)
  | c :: cs => if c = mark then some cs else none
  | [] => none

/-- Whether a year has a leap day. -/
def isLeapYear (year : Nat) : Bool := year % 4 == 0 && (year % 100 != 0 || year % 400 == 0)

/-- The number of days of a month. -/
def monthLength (year month : Nat) : Nat :=
  if month == 2 then (if isLeapYear year then 29 else 28)
  else if month == 4 || month == 6 || month == 9 || month == 11 then 30
  else 31

/-- What follows a date. -/
def date? (cs : List Char) : Option (List Char) := do
  let (year, cs) ← fixedDigits? 4 0 cs
  let cs ← mark? '-' cs
  let (month, cs) ← pair? 1 12 cs
  let cs ← mark? '-' cs
  let (_, cs) ← pair? 1 (monthLength year month) cs
  some cs

/-- What follows a fraction of a second; a point must be followed by a digit. -/
def secondFraction (cs : List Char) : List Char :=
  match cs with
  | '.' :: c :: rest => if c.isDigit then rest.dropWhile Char.isDigit else cs
  | _ => cs

/-- What follows a time of day. -/
def time? (cs : List Char) : Option (List Char) := do
  let (_, cs) ← pair? 0 23 cs
  let cs ← mark? ':' cs
  let (_, cs) ← pair? 0 59 cs
  let cs ← mark? ':' cs
  let (_, cs) ← pair? 0 60 cs
  some (secondFraction cs)

/-- What follows an offset from universal time. -/
def offset? : List Char → Option (List Char)
  | c :: cs =>
    if c == 'Z' || c == 'z' then some cs
    else if c == '+' || c == '-' then do
      let (_, cs) ← pair? 0 23 cs
      let cs ← mark? ':' cs
      let (_, cs) ← pair? 0 59 cs
      some cs
    else none
  | [] => none

/-- What follows the time and the offset after a date, where there are any. -/
def timeOfDate (cs : List Char) : List Char :=
  match cs with
  | c :: rest =>
    if c == 'T' || c == 't' || c == ' ' then
      match time? rest with
      | some rest => (offset? rest).getD rest
      | none => cs
    else cs
  | [] => []

/-- What follows a moment. -/
def moment? (cs : List Char) : Option (List Char) :=
  match date? cs with
  | some rest => some (timeOfDate rest)
  | none => time? cs

@[simp] theorem moment?_nil : moment? [] = none := rfl

end EntityQuery.Toml
