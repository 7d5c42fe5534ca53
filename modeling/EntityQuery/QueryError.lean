import EntityQuery.Operator
import EntityQuery.Transform

/-!
# What can go wrong with a query

One error type for reading criteria and query text, for the life cycle of a query and for running
it. An error holds its cause; its wording is made in `QueryError.message` and nowhere else.
-/

namespace EntityQuery

/-- Why a value is refused for a field. -/
inductive ValueFault where
  | unknownDirection (text : String)
  | listOutsideMembership (op : Operator)
  | listExpected (op : Operator)
  | nullInList
  | nullCompared (op : Operator)
  | patternExpected
  | notInteger (text : String)
  | notBoolean (text : String)
  | transformMismatch (transform : Transform) (kind : String)
  | nestedList
  | bareArray
  | notStructured
  | unknownOperator (written : String)
  | notScalars
  | unsupported
  | baseQueryNotText
  deriving DecidableEq, Repr

/-- The reason in words. -/
def ValueFault.reason : ValueFault → String
  | unknownDirection text => "unknown sort direction: " ++ text
  | listOutsideMembership op => "a list is only valid with IN / NOT IN, not " ++ op.text
  | listExpected op => op.text ++ " requires a list value"
  | nullInList => "NULL is not allowed in a list"
  | nullCompared op => "NULL can only be compared with = or <>, not " ++ op.text
  | patternExpected => "LIKE requires a text pattern"
  | notInteger text => "'" ++ text ++ "' is not an integer"
  | notBoolean text => "'" ++ text ++ "' is not a boolean"
  | transformMismatch transform kind =>
    "cannot apply " ++ transform.title ++ " to a " ++ kind ++ " value"
  | nestedList => "nested lists cannot be lowered"
  | bareArray =>
    "arrays require an explicit \x7b\"op\": \"IN\", \"value\": [...]\x7d comparison"
  | notStructured => "objects must be structured comparisons with exactly \"op\" and \"value\""
  | unknownOperator written => "unknown operator " ++ written
  | notScalars => "value must be a scalar or a list of scalars"
  | unsupported => "unsupported value"
  | baseQueryNotText => "the base query must be a string"

/-- Why a repository cannot answer a request. -/
inductive Misconfiguration where
  | baseQueryKey (key : String)
  | countBy
  | queryText
  deriving DecidableEq, Repr

/-- The misconfiguration in words. -/
def Misconfiguration.reason : Misconfiguration → String
  | baseQueryKey key =>
    "criteria key \"" ++ key ++ "\" holds a base query, which requires a configured parser"
  | countBy => "count_by requires a configured parser"
  | queryText => "query text requires a configured parser"

/-- The slots of a query that hold clauses. -/
inductive ClauseName where
  | condition | order
  deriving DecidableEq, Repr

/-- The name of a slot. -/
def ClauseName.text : ClauseName → String
  | condition => "condition"
  | order => "order"

/-- The slot of a name. -/
def ClauseName.ofText? : String → Option ClauseName
  | "condition" => some condition
  | "order" => some order
  | _ => none

/-- An error of a query. -/
inductive QueryError where
  | unknownField (entity field : String)
  | unknownClause (name : String)
  | clauseMismatch (slot held : ClauseName)
  | invalidValue (field : String) (fault : ValueFault)
  | syntaxError (position : Nat) (expected : String)
  | unsupportedEntity (entity : String)
  | alreadyBound
  | queryFrozen
  | notBound
  | notFound
  | nonUniqueResult
  | misconfigured (cause : Misconfiguration)
  | backend (message : String)
  deriving DecidableEq, Repr

/-- The error in words. -/
def QueryError.message : QueryError → String
  | unknownField entity field =>
    "unknown field \"" ++ field ++ "\" on entity \"" ++ entity ++ "\""
  | unknownClause name => "unknown clause: " ++ name
  | clauseMismatch slot held =>
    "unknown clause: " ++ slot.text ++ " cannot hold a " ++ held.text ++ " expression"
  | invalidValue field fault =>
    "invalid criteria value for \"" ++ field ++ "\": " ++ fault.reason
  | syntaxError position expected =>
    "syntax error at byte " ++ toString position ++ ": expected " ++ expected
  | unsupportedEntity entity => "entity \"" ++ entity ++ "\" has no identifier metadata"
  | alreadyBound => "query is already bound to a persister"
  | queryFrozen => "query is frozen once bound to a persister"
  | notBound => "query is not bound to this persister"
  | notFound => "no result found"
  | nonUniqueResult => "more than one result found"
  | misconfigured cause => "repository is misconfigured: " ++ cause.reason
  | backend message => "backend error: " ++ message

/-- The result of an operation that can fail with an error of a query. -/
abbrev QueryResult (α : Type) : Type := Except QueryError α

end EntityQuery
