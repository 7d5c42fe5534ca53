import EntityQuery.Criteria
import EntityQuery.QueryText

/-!
# Composing criteria with query text

Criteria may hold query text under their reserved key. A composer reads both for one persister: the
condition of the text comes first, and the comparisons of the other keys are added to it.
-/

namespace EntityQuery

/-- Reads criteria and query text for one persister. -/
structure Composer where
  persister : Persister
  reservedKey : String := defaultReservedKey
  deriving Repr

namespace Composer

/-- The condition of the text under the reserved key, if there is one. -/
def base? (c : Composer) (criteria : Criteria) : Lookup (Option Condition) :=
  match criteria.lookup c.reservedKey with
  | none => pure none
  | some (.string text) => some <$> QueryText.condition c.persister text
  | some _ => throw (.invalidValue c.reservedKey .baseQueryNotText)

/-- A condition added to another one. -/
def extend (base added : Condition) : Condition :=
  if added.isTrivial then base else .conj [base, added]

/-- The query of criteria with a sort order and a page. The text under the reserved key is read
last. -/
def compose (c : Composer) (criteria : Criteria) (request : SortRequest)
    (limit offset : Option Nat) : Lookup Query := do
  let query ← criteria.read c.persister c.reservedKey request limit offset
  match ← c.base? criteria with
  | none => pure query
  | some base =>
    let merged := extend base (query.clauses.condition.getD .always)
    Lookup.ofResult (query.setClause ClauseName.condition.text (.condition merged))

/-- The query of a text. -/
def read (c : Composer) (text : String) : Lookup Query := QueryText.query c.persister text

end Composer

end EntityQuery
