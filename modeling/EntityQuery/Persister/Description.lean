import EntityQuery.Persister
import EntityQuery.Unicode.Quoted

/-!
# Descriptions of persisters

How a persister is shown to someone who looks for a mistake: its entity, the case of its result
columns and the identity, if it has been asked for already.
-/

namespace EntityQuery

/-- A column in a description. -/
def describeColumn (column : String) : String := "FieldPath(" ++ Unicode.quoted column ++ ")"

/-- An identity in a description. -/
def Identity.description : Identity → String
  | single column => "Single(" ++ describeColumn column ++ ")"
  | composite columns => "Composite([" ++ ", ".intercalate (columns.map describeColumn) ++ "])"

/-- A persister in a description, with what it remembers. -/
def Persister.description (p : Persister) (memo : Memo) : String :=
  let identity := match memo.identity with
    | some identity => "Some(" ++ identity.description ++ ")"
    | none => "None"
  "Persister \x7b entity: " ++ Unicode.quoted p.entity ++ ", casing: " ++ p.casing.title ++
    ", identity: " ++ identity ++ ", .. \x7d"

end EntityQuery
