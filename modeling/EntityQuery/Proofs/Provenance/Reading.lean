import EntityQuery.Composer
import EntityQuery.Proofs.Parts
import EntityQuery.Proofs.QueryText.Narrowed
import EntityQuery.Proofs.Values

/-!
# Where columns come from

Callers name fields: as keys of criteria, in sort orders, and in query text. Columns are grounded in
some field names if the catalog has every one of the names for the entity and if every column is
where one of these fields is stored. Each way of reading grounds the columns of its result in the
names that it is given, so it leaves none of them out and adds none; and none of them makes a piece
of SQL out of what it reads.
-/

namespace EntityQuery

open ConditionText Lookup

/-! ## Grounds -/

/-- The catalog has all the fields for the persister's entity, and every column is that of one of
them. -/
structure Persister.Grounds (p : Persister) (fields columns : List String) : Prop where
  known : ∀ field ∈ fields, ∃ m, p.catalog.mapping? p.entity field = some m
  stored : ∀ column ∈ columns, ∃ field ∈ fields, ∃ m,
    p.catalog.mapping? p.entity field = some m ∧ m.column = column

namespace Persister.Grounds

variable {p : Persister} {fields fields' columns columns' : List String}

theorem nil : p.Grounds [] [] where
  known := by simp
  stored := by simp

theorem single {field : String} {m : FieldMapping}
    (known : p.catalog.mapping? p.entity field = some m) : p.Grounds [field] [m.column] where
  known := by simpa using ⟨m, known⟩
  stored := by simpa using ⟨m, known, rfl⟩

theorem append (h : p.Grounds fields columns) (h' : p.Grounds fields' columns') :
    p.Grounds (fields ++ fields') (columns ++ columns') where
  known := by
    intro field mem
    obtain mem | mem := List.mem_append.1 mem
    · exact h.known field mem
    · exact h'.known field mem
  stored := by
    intro column mem
    obtain mem | mem := List.mem_append.1 mem
    · obtain ⟨field, named, stored⟩ := h.stored column mem
      exact ⟨field, List.mem_append_left _ named, stored⟩
    · obtain ⟨field, named, stored⟩ := h'.stored column mem
      exact ⟨field, List.mem_append_right _ named, stored⟩

/-- What is grounded part by part is grounded. -/
theorem flatMap {α β : Type} {as : List α} {bs : List β} {named : α → List String}
    {compared : β → List String}
    (each : List.Forall₂ (fun a b => p.Grounds (named a) (compared b)) as bs) :
    p.Grounds (as.flatMap named) (bs.flatMap compared) := by
  induction each with
  | nil => exact nil
  | cons first further ih =>
      rw [List.flatMap_cons, List.flatMap_cons]
      exact first.append ih

/-- Fewer columns are grounded in the same fields. -/
theorem of_mem (h : p.Grounds fields columns) (fewer : ∀ column ∈ columns', column ∈ columns) :
    p.Grounds fields columns' where
  known := h.known
  stored := fun column mem => h.stored column (fewer column mem)

end Persister.Grounds

/-- The columns of a condition are grounded in some field names, and no piece of SQL is in it. -/
structure Condition.Grounded (p : Persister) (fields : List String) (c : Condition) : Prop where
  grounds : p.Grounds fields c.columns
  noFragments : c.fragments = []

/-- The columns of a sort order. -/
def SortOrder.columns (keys : SortOrder) : List String := keys.map (·.column)

/-- The columns that clauses compare and sort by. -/
def Clauses.columns (c : Clauses) : List String :=
  (c.condition.elim [] Condition.columns) ++ SortOrder.columns (c.order.getD [])

/-- The columns of clauses are grounded in some field names, and no piece of SQL is in them. -/
structure Clauses.Grounded (p : Persister) (fields : List String) (c : Clauses) : Prop where
  grounds : p.Grounds fields c.columns
  noFragments : ∀ condition, c.condition = some condition → condition.fragments = []

section

variable {p : Persister} {field : String} {fields fields' : List String}

theorem Condition.Grounded.always : Condition.always.Grounded p [] where
  grounds := .nil
  noFragments := by rw [Condition.always, Condition.fragments, Condition.allFragments]

/-- A comparison of a field is grounded in its name, whatever it is compared with. -/
theorem FieldMapping.grounded_comparison {m : FieldMapping} {op : Operator} {v : Value}
    {c : Condition} (known : p.catalog.mapping? p.entity field = some m)
    (h : m.comparison field op v = .ok c) : c.Grounded p [field] := by
  obtain ⟨-, w, -, rfl⟩ := comparison_eq_ok h
  exact ⟨.single known, rfl⟩

namespace Condition.Grounded

variable {c d : Condition}

theorem conj {α : Type} {as : List α} {named : α → List String} {cs : List Condition}
    (each : List.Forall₂ (fun a c => Grounded p (named a) c) as cs) :
    (Condition.conj cs).Grounded p (as.flatMap named) where
  grounds := by
    rw [columns_conj]
    exact .flatMap (each.imp fun _ _ grounded => grounded.grounds)
  noFragments := by
    rw [fragments_conj, List.flatMap_eq_nil_iff]
    induction each with
    | nil => simp
    | cons first further ih => exact List.forall_mem_cons.2 ⟨first.noFragments, ih⟩

theorem conj_pair (h : c.Grounded p fields) (h' : d.Grounded p fields') :
    (Condition.conj [c, d]).Grounded p (fields ++ fields') := by
  have both : (Condition.conj [c, d]).Grounded p ([fields, fields'].flatMap id) :=
    conj (.cons h (.cons h' .nil))
  simpa using both

theorem disj_pair (h : c.Grounded p fields) (h' : d.Grounded p fields') :
    (Condition.disj [c, d]).Grounded p (fields ++ fields') where
  grounds := by
    rw [columns_disj]
    simpa using h.grounds.append h'.grounds
  noFragments := by
    rw [fragments_disj]
    simp [h.noFragments, h'.noFragments]

end Condition.Grounded

end

/-! ## Criteria -/

namespace Criteria

variable {p : Persister}

/-- The field names of criteria. -/
def fields (reservedKey : String) (criteria : Criteria) : List String :=
  (criteria.filter (·.1 != reservedKey)).map (·.1)

theorem grounded_comparison {field : String} {v : Json} {c : Condition}
    (h : (comparison p field v).fresh = .ok c) : c.Grounded p [field] := by
  obtain ⟨m, op, value, known, -, compared⟩ := comparison_eq_ok.1 h
  exact FieldMapping.grounded_comparison known compared

theorem grounded_condition {key : String} {criteria : Criteria} {c : Condition}
    (h : (condition p key criteria).fresh = .ok c) : c.Grounded p (criteria.fields key) := by
  obtain ⟨cs, each, rfl⟩ := condition_eq_ok.1 h
  rw [fields, List.map_eq_flatMap]
  exact .conj (each.imp fun x c compared => grounded_comparison compared)

theorem grounds_order {request : SortRequest} {keys : SortOrder}
    (h : (order p request).fresh = .ok keys) :
    p.Grounds (request.map (·.1)) keys.columns := by
  rw [fresh_order] at h
  rw [SortOrder.columns, List.map_eq_flatMap, List.map_eq_flatMap]
  refine .flatMap ((mapM_eq_ok.1 h).imp fun x key sorted => ?_)
  rw [fresh_sortKey] at sorted
  obtain ⟨m, known, sorted⟩ := bind_eq_ok.1 sorted
  obtain ⟨direction, -, sorted⟩ := bind_eq_ok.1 sorted
  cases sorted
  exact .single (Persister.mapping_eq_ok.1 known)

/-- A query of criteria is grounded in the names of the criteria and of its order. -/
theorem grounded_read {key : String} {criteria : Criteria} {request : SortRequest}
    {limit offset : Option Nat} {q : Query}
    (h : (criteria.read p key request limit offset).fresh = .ok q) :
    q.clauses.Grounded p (criteria.fields key ++ request.map (·.1)) := by
  rw [fresh_read] at h
  obtain ⟨condition, compared, h⟩ := bind_eq_ok.1 h
  obtain ⟨order, sorted, h⟩ := bind_eq_ok.1 h
  cases h
  have grounded := grounded_condition compared
  refine ⟨grounded.grounds.append (grounds_order sorted), ?_⟩
  rintro _ ⟨⟩
  exact grounded.noFragments

end Criteria

/-! ## Query text -/

namespace ConditionText

mutual

/-- The field names in an expression, each without the name in front of it. -/
def Expr.fieldNames : Expr → List String
  | .ident name => [name.value]
  | .compound parts => (parts.getLast?.map (·.value)).toList
  | .constant _ => []
  | .signed _ operand => operand.fieldNames
  | .binary left _ right => left.fieldNames ++ right.fieldNames
  | .nested inner => inner.fieldNames
  | .like _ _ operand pattern _ => operand.fieldNames ++ pattern.fieldNames
  | .inList operand items _ => operand.fieldNames ++ Expr.allFieldNames items
  | .isNull operand _ => operand.fieldNames
  | .subquery _ | .other _ => []

/-- The field names in some expressions. -/
def Expr.allFieldNames : List Expr → List String
  | [] => []
  | e :: rest => e.fieldNames ++ Expr.allFieldNames rest

end

/-- The field names in the condition and in the sort keys of a statement. -/
def Statement.fieldNames (s : Statement) : List String :=
  s.condition.fieldNames ++ (s.tail.order.getD []).flatMap fun t => t.key.fieldNames

end ConditionText

namespace QueryText

variable {p : Persister} {text : List Char}

/-- The field names in query text; text that is refused has none. -/
def fieldNames (text : String) : List String :=
  if Unicode.allBlank text then []
  else
    match statement text.toList with
    | .ok s => s.fieldNames
    | .error _ => []

theorem fieldNames_of_field? {e : Expr} {name : String} (h : field? e = some name) :
    e.fieldNames = [name] := by
  unfold field? at h
  split at h
  · cases h
    rw [Expr.fieldNames]
  · cases h
    rw [Expr.fieldNames]
    rfl
  · cases h
    rw [Expr.fieldNames]
    rfl
  · cases h

/-- Literals name no field. -/
theorem fieldNames_of_literal {e : Expr} {v : Value} (h : literal text e = .ok v) :
    e.fieldNames = [] := by
  have read := (literal_eq_ok.1 h).1
  unfold value? at read
  split at read <;> first | simp only [Expr.fieldNames] | cases read

theorem allFieldNames_of_literals {es : List Expr} {vs : List Value}
    (h : es.mapM (literal text) = .ok vs) : Expr.allFieldNames es = [] := by
  have each := mapM_eq_ok.1 h
  clear h
  induction each with
  | nil => rw [Expr.allFieldNames]
  | cons first further ih =>
      rw [Expr.allFieldNames, fieldNames_of_literal first, ih, List.append_nil]

theorem grounded_comparison {target : Expr} {op : Operator} {v : Value} {c : Condition}
    (h : (comparison p text target op v).fresh = .ok c) : c.Grounded p target.fieldNames := by
  obtain ⟨name, m, named, known, compared⟩ := comparison_eq_ok.1 h
  rw [fieldNames_of_field? named]
  exact FieldMapping.grounded_comparison known compared

/-- Narrowing grounds the condition in the names of the expression: the induction is over the
connectives and parentheses, and each test names its field. -/
theorem Narrows.isGrounded {e : Expr} {c : Condition} (h : Narrows p text e c) :
    c.Grounded p e.fieldNames := by
  induction h with
  | symbol known read compared | pattern read compared =>
      rw [Expr.fieldNames, fieldNames_of_literal read, List.append_nil]
      exact grounded_comparison compared
  | membership read compared =>
      rw [Expr.fieldNames, allFieldNames_of_literals read, List.append_nil]
      exact grounded_comparison compared
  | nullTest compared =>
      rw [Expr.fieldNames]
      exact grounded_comparison compared
  | conj _ _ ihl ihr =>
      rw [Expr.fieldNames]
      exact ihl.conj_pair ihr
  | disj _ _ ihl ihr =>
      rw [Expr.fieldNames]
      exact ihl.disj_pair ihr
  | nested _ ih =>
      rw [Expr.fieldNames]
      exact ih

theorem grounds_sortKeys {ts : List OrderTerm} {keys : SortOrder}
    (h : ts.mapM (fun t => (sortKey p text t).fresh) = .ok keys) :
    p.Grounds (ts.flatMap fun t => t.key.fieldNames) keys.columns := by
  rw [SortOrder.columns, List.map_eq_flatMap]
  refine .flatMap ((mapM_eq_ok.1 h).imp fun t key sorted => ?_)
  rw [fresh_sortKey] at sorted
  obtain ⟨name, named, sorted⟩ := bind_eq_ok.1 sorted
  obtain ⟨m, known, sorted⟩ := bind_eq_ok.1 sorted
  cases sorted
  rw [fieldNames_of_field? (field_eq_ok.1 named)]
  exact .single (Persister.mapping_eq_ok.1 known)

theorem grounded_condition {text : String} {c : Condition}
    (h : (condition p text).fresh = .ok c) : c.Grounded p (fieldNames text) := by
  rw [fieldNames]
  obtain ⟨blank, rfl⟩ | ⟨s, notBlank, read, noOrder, narrowed⟩ := condition_cases h
  · rw [if_pos blank]
    exact .always
  · have names : s.fieldNames = s.condition.fieldNames := by
      rw [Statement.fieldNames, noOrder]
      exact List.append_nil _
    rw [if_neg notBlank, read]
    dsimp only
    rw [names]
    exact narrowed.isGrounded

theorem grounded_query {text : String} {q : Query} (h : (query p text).fresh = .ok q) :
    q.clauses.Grounded p (fieldNames text) := by
  rw [fieldNames]
  obtain ⟨blank, rfl⟩ | ⟨s, c, keys, limit, offset, notBlank, read, narrowed, sorted, rfl⟩ :=
    query_cases h
  · rw [if_pos blank]
    refine ⟨.nil, ?_⟩
    rintro _ ⟨⟩
    exact (Condition.Grounded.always (p := p)).noFragments
  · rw [if_neg notBlank, read]
    have grounded := (narrows_of_narrow narrowed).isGrounded
    refine ⟨grounded.grounds.append (grounds_sortKeys sorted), ?_⟩
    rintro _ ⟨⟩
    exact grounded.noFragments

end QueryText

/-! ## Composing -/

namespace Composer

variable {c : Composer} {criteria : Criteria} {request : SortRequest} {limit offset : Option Nat}

/-- The field names in the query text of criteria. -/
def textFields (c : Composer) (criteria : Criteria) : List String :=
  match criteria.lookup c.reservedKey with
  | some (.string text) => QueryText.fieldNames text
  | _ => []

theorem grounded_base? {base : Option Condition} (h : (c.base? criteria).fresh = .ok base) :
    match base with
    | none => c.textFields criteria = []
    | some condition => condition.Grounded c.persister (c.textFields criteria) := by
  rw [textFields]
  obtain ⟨absent, rfl⟩ | ⟨text, condition, present, read, rfl⟩ := base?_cases h
  · rw [absent]
  · rw [present]
    exact QueryText.grounded_condition read

theorem grounded_extend {p : Persister} {fields fields' : List String} {base added : Condition}
    (h : base.Grounded p fields) (h' : added.Grounded p fields') :
    (extend base added).Grounded p (fields ++ fields') := by
  rw [extend]
  split
  · have both := h.grounds.append h'.grounds
    exact ⟨both.of_mem fun column mem => List.mem_append_left _ mem, h.noFragments⟩
  · exact h.conj_pair h'

/-- A composed query is grounded in the names of its text, of its criteria and of its order. -/
theorem grounded_compose {q : Query}
    (h : (c.compose criteria request limit offset).fresh = .ok q) :
    q.clauses.Grounded c.persister
      (c.textFields criteria ++ criteria.fields c.reservedKey ++ request.map (·.1)) := by
  rw [fresh_compose] at h
  obtain ⟨condition, read, h⟩ := bind_eq_ok.1 h
  obtain ⟨order, sorted, h⟩ := bind_eq_ok.1 h
  obtain ⟨base, found, h⟩ := bind_eq_ok.1 h
  cases h
  have own := Criteria.grounded_condition read
  have merged : (merge base condition).Grounded c.persister
      (c.textFields criteria ++ criteria.fields c.reservedKey) := by
    have text := grounded_base? found
    cases base with
    | none =>
        rw [text, List.nil_append]
        exact own
    | some base => exact grounded_extend text own
  refine ⟨merged.grounds.append (Criteria.grounds_order sorted), ?_⟩
  rintro _ ⟨⟩
  exact merged.noFragments

end Composer

end EntityQuery
