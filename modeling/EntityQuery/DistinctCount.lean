import EntityQuery.Query

/-!
# Counting

The number of entities that a query finds, whatever its order and page. An identity of one column
is counted within the statement; an identity of several columns is selected without duplicates
first, and the rows of that statement are counted around it.
-/

namespace EntityQuery

/-- A column of the result of a count, and the name it is given out under. -/
structure ScalarColumn where
  column : String
  label : String
  deriving DecidableEq, Repr

/-- The counting statement of a query. -/
structure CountForm where
  native : NativeQuery
  strategy : CountStrategy
  shape : Option (List ScalarColumn)

namespace CountForm

/-- The name of the counted column, before its case is folded. -/
def countAlias : String := "dctrn_count"

/-- The alias of the derived table. -/
def derivedAlias : String := "dctrn_result"

/-- The statement that selects the identities of a statement's rows, each once. -/
def identities (columns : List String) : Sql.Select → Sql.Select
  | ⟨_, _, source, filter, _, _, _⟩ =>
    ⟨true, columns.map fun c => .expr (rootColumn c) none, source, filter, [], none, none⟩

/-- The statement that counts the different identities of a statement's rows. -/
def distinctCount (columns : List String) : Sql.Select → Sql.Select
  | ⟨distinct, _, source, filter, _, _, _⟩ =>
    ⟨distinct, [.expr (.aggregate "COUNT" (columns.map rootColumn) true) none], source, filter, [],
      none, none⟩

/-- The statement that counts the rows of another one. -/
def rowCount (label : String) (query : Sql.Select) : Sql.Select :=
  ⟨false, [.expr (.aggregate "COUNT" [.wildcard] false) (some label)],
    some (.derived query derivedAlias), none, [], none, none⟩

/-- The counting statement for an identity. -/
def ofSelect (casing : ResultCasing) (identity : Identity) (base : Sql.Select) : CountForm :=
  match identity with
  | .composite columns =>
    let label := casing.apply countAlias
    { native :=
        { select := rowCount label (identities columns base)
          distinct := true
          walker := some .outputWalker }
      strategy := .outputWalker
      shape := some [⟨label, "count"⟩] }
  | .single column =>
    { native :=
        { select := distinctCount [column] base
          distinct := true
          walker := some .treeWalker }
      strategy := .treeWalker
      shape := none }

/-- The column that holds the count, where it has to be found by its name. -/
def scalarColumn? (f : CountForm) : Option String :=
  match f.shape with
  | some (first :: _) => some first.column
  | _ => none

end CountForm

/-- The counting statement of some clauses. -/
def Persister.countForm (p : Persister) (c : Clauses) : Lookup CountForm := do
  let identity ← p.identity
  let base ← Lookup.ofResult (p.select c)
  pure (.ofSelect p.casing identity base)

/-- The counting statement of a bound query. -/
def Query.countForm (q : Query) : Lookup CountForm :=
  match q.persister? with
  | some p => p.countForm q.clauses
  | none => throw .notBound

end EntityQuery
