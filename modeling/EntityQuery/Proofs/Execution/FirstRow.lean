import EntityQuery.Proofs.Execution.Serving
import EntityQuery.Proofs.Filter.Fitting
import EntityQuery.Proofs.Lifecycle.Coherence

/-!
# The first row

Fetching one row sends the statement of all rows with the limit replaced by one, whatever the limit
was. From a backend that serves the statement this is the first row of the page, because a page that
may hold a row begins where a page of one row begins. A page of limit zero holds nothing, and there
the replaced limit asks for a row that the query does not find.
-/

namespace EntityQuery

/-- The first of some rows. -/
def firstRow {α : Type} : List α → QueryResult α
  | [] => .error .notFound
  | row :: _ => .ok row

section

variable {α : Type} {limit : Option Nat} {rows : List α}

theorem firstRow_eq_notFound : firstRow rows = .error .notFound ↔ rows = [] := by
  cases rows <;> simp [firstRow]

/-- The only row of a page of one row is the first row behind the offset. -/
theorem exactlyOne_pageOf_one (offset : Option Nat) (rows : List α) :
    (exactlyOne (pageOf (some 1) offset rows)).mapError BackendFailure.toQueryError =
      firstRow (rows.drop (offset.getD 0)) := by
  simp only [pageOf]
  cases rows.drop (offset.getD 0) <;> rfl

/-- A page that may hold a row begins with the first row behind the offset. -/
theorem firstRow_pageOf (room : limit ≠ some 0) (offset : Option Nat) (rows : List α) :
    firstRow (pageOf limit offset rows) = firstRow (rows.drop (offset.getD 0)) := by
  cases limit with
  | none => rfl
  | some n =>
      cases n with
      | zero => exact absurd rfl room
      | succ n =>
          simp only [pageOf]
          cases rows.drop (offset.getD 0) <;> rfl

end

namespace Query

variable {q : Query} {p : Persister} {b : Backend} {rows : List Row}

/-- All rows are the page of the query. -/
theorem Coherent.execute_serving (h : Coherent q) (attached : q.persister? = some p)
    (serves : ∀ s, p.select q.clauses = .ok s → b.Serves s rows) :
    (p.execute b q).result =
      (p.select q.clauses >>= fun _ => .ok (pageOf q.clauses.limit q.clauses.offset rows)) := by
  rw [Persister.execute, h.runNative_result attached rfl, Persister.lower]
  cases made : p.select q.clauses with
  | error e => rfl
  | ok s =>
      obtain ⟨limited, shifted⟩ := Persister.page_of_select made
      have answered := (serves s made).all s.limit s.offset
      rw [Sql.Select.paginated_self, limited, shifted] at answered
      change (b.all s.text).mapError _ = _
      rw [answered]
      rfl

/-- The one row is the first row behind the offset, whatever the limit is. -/
theorem Coherent.executeOne_serving (h : Coherent q) (attached : q.persister? = some p)
    (serves : ∀ s, p.select q.clauses = .ok s → b.Serves s rows) :
    (p.executeOne b q).result =
      (p.select q.clauses >>= fun _ => firstRow (rows.drop (q.clauses.offset.getD 0))) := by
  rw [Persister.executeOne, h.runNative_result attached rfl, Persister.lower]
  cases made : p.select q.clauses with
  | error e => rfl
  | ok s =>
      obtain ⟨-, shifted⟩ := Persister.page_of_select made
      have answered := (serves s made).one (some 1) s.offset
      change (b.one (s.paginated (some 1) s.offset).text).mapError _ = _
      rw [answered, shifted]
      exact exactlyOne_pageOf_one _ rows

/-- On a backend that serves the statement of a bound query from some rows, fetching one row gives
the first of all the rows that the query finds, and no row is found exactly if there are none of
them. With the limit zero the query finds no rows, but fetching one still gives the first row behind
the offset. -/
theorem Reachable.first_row (h : Reachable q) (attached : q.persister? = some p)
    (serves : ∀ s, p.select q.clauses = .ok s → b.Serves s rows) :
    (q.clauses.limit ≠ some 0 →
      (p.executeOne b q).result = ((p.execute b q).result >>= firstRow) ∧
        ((p.executeOne b q).result = .error .notFound ↔ (p.execute b q).result = .ok [])) ∧
      (q.clauses.limit = some 0 →
        (p.execute b q).result = (p.select q.clauses >>= fun _ => .ok []) ∧
          (p.executeOne b q).result =
            (p.select q.clauses >>= fun _ => firstRow (rows.drop (q.clauses.offset.getD 0)))) := by
  rw [h.coherent.execute_serving attached serves, h.coherent.executeOne_serving attached serves]
  constructor
  · intro room
    have first := firstRow_pageOf room q.clauses.offset rows
    cases made : p.select q.clauses with
    | error e =>
        -- lowering fails with other errors than a missing row
        have other : e ≠ .notFound := by
          rintro rfl
          obtain ⟨column, fault, impossible⟩ | impossible := Persister.select_error made <;>
            cases impossible
        refine ⟨rfl, iff_of_false (fun same => other (Except.error.inj same)) ?_⟩
        rintro ⟨⟩
    | ok s =>
        refine ⟨first.symm, ?_⟩
        change firstRow _ = _ ↔ Except.ok _ = Except.ok _
        rw [← first, firstRow_eq_notFound, Except.ok.injEq]
  · intro none
    have empty : pageOf (some 0) q.clauses.offset rows = [] := by simp [pageOf]
    rw [none, empty]
    exact ⟨rfl, rfl⟩

/-- A page of the users, bound to the persister of users. -/
def pageOfUsers (limit offset : Option Nat) : Query :=
  ((Operation.bind users).perform (ofParts .always [] limit offset)).query

/-- The rows of two users. -/
def userRows : List Row := [⟨[("id", .integer 1)]⟩, ⟨[("id", .integer 2)]⟩]

/-- A backend with two users. -/
def twoUsers : Backend := .serving (.wholeRows ⟨none, "users"⟩ none [] none none) userRows

theorem reachable_pageOfUsers (limit offset : Option Nat) :
    Reachable (pageOfUsers limit offset) :=
  .step (.ofParts .always [] limit offset) (.bind users)

/-- The two users are served to every page of the users. -/
theorem serves_twoUsers (limit offset : Option Nat) (s : Sql.Select)
    (made : users.select (pageOfUsers limit offset).clauses = .ok s) :
    twoUsers.Serves s userRows := by
  obtain rfl : s = .wholeRows ⟨none, "users"⟩ none [] limit offset := by
    cases made
    rfl
  have served := Backend.serves_serving (.wholeRows ⟨none, "users"⟩ none [] none none) userRows
  exact ⟨served.all, served.one⟩

/-- Behind the first user, the second one is the first of the ten that are asked for. -/
theorem first_row_of_second_user :
    (users.executeOne twoUsers (pageOfUsers (some 10) (some 1))).result =
      ((users.execute twoUsers (pageOfUsers (some 10) (some 1))).result >>= firstRow) ∧
      (users.execute twoUsers (pageOfUsers (some 10) (some 1))).result =
        .ok [⟨[("id", .integer 2)]⟩] := by
  have reachable := reachable_pageOfUsers (some 10) (some 1)
  have serves := serves_twoUsers (some 10) (some 1)
  exact ⟨((reachable.first_row rfl serves).1 (by decide)).1,
    reachable.coherent.execute_serving rfl serves⟩

/-- No users are asked for, and one is given. -/
theorem first_row_of_no_users :
    Reachable (pageOfUsers (some 0) none) ∧
      (pageOfUsers (some 0) none).persister? = some users ∧
      (∀ s, users.select (pageOfUsers (some 0) none).clauses = .ok s →
        twoUsers.Serves s userRows) ∧
      (users.execute twoUsers (pageOfUsers (some 0) none)).result = .ok [] ∧
      (users.executeOne twoUsers (pageOfUsers (some 0) none)).result =
        .ok ⟨[("id", .integer 1)]⟩ := by
  have reachable := reachable_pageOfUsers (some 0) none
  have serves := serves_twoUsers (some 0) none
  exact ⟨reachable, rfl, serves, reachable.coherent.execute_serving rfl serves,
    reachable.coherent.executeOne_serving rfl serves⟩

end Query

end EntityQuery
