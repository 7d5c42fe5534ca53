import EntityQuery.Proofs.Passing.Query

/-!
# Where clauses start

Behind the condition of a text stand clauses, each with a keyword of its own at its start. Reading
keeps only what the clauses say. `clauseStarts` reads the same clauses and keeps the tokens that
they start with, in the order of the text; a statement says that it has clauses of some kind exactly
if one of these tokens is a keyword of the kind.
-/

namespace EntityQuery.ConditionText

namespace Parse

/-- A reading that may give nothing, with the token in front of which it gives something. -/
def started {α : Type} (p : Parse (Option α)) : Parse (Option α × List Lexeme) := fun ls =>
  match p ls with
  | .ok (some a, rest) => .ok ((some a, ls.head?.toList), rest)
  | .ok (none, rest) => .ok ((none, []), rest)
  | .error fault => .error fault

/-- The locks and formats behind a query, if there are any. -/
def forClauses? : Parse (Option (List String)) := do
  let clauses ← forClauses (← get).length
  pure (if clauses.isEmpty then none else some clauses)

/-- The tokens that the clauses behind the condition of a selection start with. -/
def selectStarts (inner : Level) : Parse (List Lexeme) := do
  let (_, group) ← started (groupClause? inner)
  let (_, cluster) ← started (exprsAfter? inner ["CLUSTER", "BY"])
  let (_, distribute) ← started (exprsAfter? inner ["DISTRIBUTE", "BY"])
  let (_, sort) ← started (exprsAfter? inner ["SORT", "BY"])
  let (_, having) ← started (afterKeyword? "HAVING" (Expr.fragment <$> inner.expr))
  let (windows?, windows) ← started (windows? inner)
  let (qualify?, qualify) ← started (afterKeyword? "QUALIFY" (Expr.fragment <$> inner.expr))
  let (_, windowsLast) ←
    started (if windows?.isNone && qualify?.isSome then Parse.windows? inner else pure none)
  pure (group ++ cluster ++ distribute ++ sort ++ having ++ windows ++ qualify ++ windowsLast)

/-- The tokens that the clauses behind a selection or a combination of selections start with. A
number of rows that is known is not asked for again. -/
def tailStarts (inner : Level) : Parse (List Lexeme) := do
  let (_, order) ← started (orderClause? inner)
  let (limit?, limit) ← started (limitClause inner none)
  let (offset?, offset) ← started (offsetClause inner none)
  let (_, limitLast) ← started (if limit?.isSome then pure none else limitClause inner none)
  let (_, offsetLast) ← started (if offset?.isSome then pure none else offsetClause inner none)
  let (_, fetch) ← started (afterKeyword? "FETCH" fetchClause)
  let (_, others) ← started forClauses?
  pure (order ++ limit ++ offset ++ limitLast ++ offsetLast ++ fetch ++ others)

/-- The tokens that the clauses of query text start with. -/
def clauseStarts : Parse (List Lexeme) := do
  let inner := level (nestingBudget - 2)
  discard inner.expr
  let ofSelection ← selectStarts inner
  discard (combinations (queryBody inner 3) 0 (← get).length "")
  let ofQuery ← tailStarts inner
  pure (ofSelection ++ ofQuery)

end Parse

/-! ## Kinds of clauses -/

/-- The kinds of clauses behind a condition: those that group rows, those that sort and count the
rows of the whole, and all others. -/
inductive ClauseKind where
  | grouping | paging | foreign
  deriving DecidableEq

/-- The keywords that the clauses of a kind start with. -/
def ClauseKind.openers : ClauseKind → List String
  | grouping => ["GROUP", "HAVING"]
  | paging => ["ORDER", "LIMIT", "OFFSET"]
  | foreign => ["CLUSTER", "DISTRIBUTE", "SORT", "WINDOW", "QUALIFY", "FETCH", "FOR"]

/-- Whether a token starts a clause of a kind. -/
def Lexeme.opens (kind : ClauseKind) (x : Lexeme) : Bool := x.token.isOneOf kind.openers

/-- Whether there are clauses of a kind behind the condition of a selection. -/
def SelectTail.has (t : SelectTail) : ClauseKind → Bool
  | .grouping => t.grouped
  | .paging => false
  | .foreign => t.further

/-- Whether there are clauses of a kind behind a selection or a combination of selections. -/
def QueryTail.has (t : QueryTail) : ClauseKind → Bool
  | .grouping => false
  | .paging => t.order.isSome || t.limit.isSome || t.offset.isSome
  | .foreign => t.further

/-- Whether query text has clauses of a kind. -/
def Statement.has (s : Statement) (kind : ClauseKind) : Bool := s.select.has kind || s.tail.has kind

/-- Clauses of a kind are there exactly if some token starts one. -/
def Told (starts : List Lexeme) (has : ClauseKind → Bool) : Prop :=
  ∀ kind, has kind = starts.any (Lexeme.opens kind)

/-- The keywords of an opener are of a single kind. -/
theorem Lexeme.opens_of_isKeyword {x : Lexeme} {key : String} (h : x.token.isKeyword key)
    (kind : ClauseKind) : x.opens kind = kind.openers.contains key := by
  obtain ⟨token, extent⟩ := x
  cases token with
  | word value quoted capitals =>
      cases quoted with
      | false =>
          obtain rfl : capitals = key := by simpa [Token.isKeyword] using h
          rfl
      | true => cases h
  | _ => cases h

theorem Told.append {a b : List Lexeme} {f g : ClauseKind → Bool} (first : Told a f)
    (second : Told b g) : Told (a ++ b) fun kind => f kind || g kind := fun kind => by
  rw [List.any_append]
  exact congrArg₂ or (first kind) (second kind)

/-! ## Tokens that are taken -/

/-- Some tokens are among those that have been read, in their order. -/
def Taken (starts ls rest : List Lexeme) : Prop := ∃ ts, ls = ts ++ rest ∧ starts.Sublist ts

namespace Taken

variable {a b ls middle rest : List Lexeme}

theorem of_suffix (h : rest <:+ ls) : Taken [] ls rest := by
  obtain ⟨ts, rfl⟩ := h
  exact ⟨ts, rfl, List.nil_sublist ts⟩

theorem of_head {x : Lexeme} (h : rest <:+ ls) : Taken [x] (x :: ls) rest := by
  obtain ⟨ts, rfl⟩ := h
  exact ⟨x :: ts, rfl, (List.nil_sublist ts).cons_cons x⟩

theorem append (first : Taken a ls middle) (second : Taken b middle rest) :
    Taken (a ++ b) ls rest := by
  obtain ⟨ts, rfl, subA⟩ := first
  obtain ⟨us, rfl, subB⟩ := second
  exact ⟨ts ++ us, (List.append_assoc _ _ _).symm, subA.append subB⟩

theorem sublist (h : Taken a ls rest) : a.Sublist ls := by
  obtain ⟨ts, rfl, sub⟩ := h
  exact sub.trans (List.sublist_append_left ts rest)

theorem suffix (h : Taken a ls rest) : rest <:+ ls := by
  obtain ⟨ts, rfl, -⟩ := h
  exact List.suffix_append ts rest

end Taken

namespace Parse

variable {α : Type} {inner : Level} {key : String} {p : Parse (Option α)} {ls rest : List Lexeme}

/-! ## Clauses behind a keyword -/

/-- A reading gives something only behind a keyword. -/
def Opened (key : String) (p : Parse (Option α)) : Prop :=
  ∀ ls a? rest, p ls = .ok (a?, rest) → match a? with
    | some _ => ∃ x more, ls = x :: more ∧ x.token.isKeyword key ∧ rest <:+ more
    | none => rest <:+ ls

/-- What is read behind a keyword starts with it, and it is the only start. -/
theorem Opened.started (h : Opened key p) {a? : Option α} (read : p ls = .ok (a?, rest)) :
    ∃ starts, started p ls = .ok ((a?, starts), rest) ∧ Taken starts ls rest ∧
      Told starts fun kind => a?.isSome && kind.openers.contains key := by
  have opened := h ls a? rest read
  unfold Parse.started
  rw [read]
  cases a? with
  | none => exact ⟨[], rfl, .of_suffix opened, fun _ => rfl⟩
  | some a =>
      obtain ⟨x, more, rfl, keyword, suffix⟩ := opened
      refine ⟨[x], rfl, .of_head suffix, fun kind => ?_⟩
      rw [List.any_cons, List.any_nil, Bool.or_false, Lexeme.opens_of_isKeyword keyword]
      exact Bool.true_and _

theorem opened_pure_none : Opened key (pure none : Parse (Option α)) := by
  intro ls a? rest read
  cases read
  exact List.suffix_rfl

theorem Opened.ite {c : Prop} [Decidable c] {p q : Parse (Option α)} (yes : Opened key p)
    (no : Opened key q) : Opened key (if c then p else q) := by
  split
  · exact yes
  · exact no

/-- A reading behind a keyword, perhaps with further ones, which is nothing without them. -/
theorem opened_behind {gate : Parse Bool} {p : Parse (Option α)} [Placed α] [Passes .nothing p]
    (closed : ∀ {ls rest}, gate ls = .ok (false, rest) → rest = ls)
    (passed : ∀ {ls rest}, gate ls = .ok (true, rest) →
      ∃ x more, ls = x :: more ∧ x.token.isKeyword key ∧ rest <:+ more) :
    Opened key (gate >>= fun found => if found then p else pure none) := by
  intro ls a? rest read
  obtain ⟨found, middle, first, inside⟩ := bind_eq_ok.1 read
  cases found with
  | false =>
      cases inside
      exact closed first ▸ List.suffix_rfl
  | true =>
      obtain ⟨x, more, rfl, keyword, behind⟩ := passed first
      have suffix : rest <:+ middle := Passes.suffix (p := p) inside
      cases a? with
      | none => exact (suffix.trans behind).trans (List.suffix_cons x more)
      | some a => exact ⟨x, more, rfl, keyword, suffix.trans behind⟩

theorem keyword_eq_true {middle : List Lexeme} (h : keyword key ls = .ok (true, middle)) :
    ∃ x more, ls = x :: more ∧ x.token.isKeyword key ∧ middle <:+ more := by
  obtain ⟨x, rfl, keyword⟩ := accept_eq_true h
  exact ⟨x, middle, rfl, keyword, List.suffix_rfl⟩

theorem keywords_eq_true {keys : List String} {middle : List Lexeme}
    (h : keywords (key :: keys) ls = .ok (true, middle)) :
    ∃ x more, ls = x :: more ∧ x.token.isKeyword key ∧ middle <:+ more := by
  unfold keywords at h
  split at h
  · next found =>
      cases h
      cases ls with
      | nil => cases found
      | cons x more =>
          simp only [afterKeywords] at found
          split at found
          · next keyword => exact ⟨x, more, rfl, keyword, suffix_of_afterKeywords found⟩
          · cases found
  · cases h

theorem opened_afterKeyword? {β : Type} [Placed β] {p : Parse β} [Passes .nothing p] :
    Opened key (afterKeyword? key p) :=
  opened_behind (p := some <$> p) accept_eq_false keyword_eq_true

theorem opened_afterKeywords? {β : Type} [Placed β] {p : Parse β} [Passes .nothing p]
    {keys : List String} : Opened key (afterKeywords? (key :: keys) p) :=
  opened_behind (p := some <$> p) keywords_eq_false keywords_eq_true

/-- A number of rows is known, or it is asked for. -/
theorem limitClause_known {known e? : Option Expr}
    (read : limitClause inner known ls = .ok (e?, rest)) :
    ∃ later? : Option Expr,
      (if known.isSome then pure none else limitClause inner none) ls = .ok (later?, rest) ∧
      e?.isSome = (known.isSome || later?.isSome) := by
  cases known with
  | none => exact ⟨e?, read, rfl⟩
  | some e =>
      cases read
      exact ⟨none, rfl, rfl⟩

theorem offsetClause_known {known e? : Option (Expr × String)}
    (read : offsetClause inner known ls = .ok (e?, rest)) :
    ∃ later? : Option (Expr × String),
      (if known.isSome then pure none else offsetClause inner none) ls = .ok (later?, rest) ∧
      e?.isSome = (known.isSome || later?.isSome) := by
  cases known with
  | none => exact ⟨e?, read, rfl⟩
  | some e =>
      cases read
      exact ⟨none, rfl, rfl⟩

section

variable [inner.IsSound]

theorem opened_groupClause? : Opened "GROUP" (groupClause? inner) := opened_afterKeywords?

theorem opened_exprsAfter? {keys : List String} : Opened key (exprsAfter? inner (key :: keys)) :=
  opened_afterKeywords?

theorem opened_windows? : Opened "WINDOW" (windows? inner) := opened_afterKeyword?

theorem opened_orderClause? : Opened "ORDER" (orderClause? inner) := opened_afterKeywords?

theorem opened_limitClause : Opened "LIMIT" (limitClause inner none) :=
  opened_behind (p := keyword "ALL" >>= fun all => if all then pure none else some <$> inner.expr)
    accept_eq_false keyword_eq_true

theorem opened_offsetClause : Opened "OFFSET" (offsetClause inner none) :=
  opened_behind (p := some <$> (inner.expr >>= fun e => oneOf? ["ROW", "ROWS"] >>= fun unit =>
    pure (e, (unit.map (" " ++ ·)).getD ""))) accept_eq_false keyword_eq_true

end

theorem opened_forClauses? : Opened "FOR" forClauses? := by
  intro ls clauses? rest read
  unfold forClauses? at read
  rw [bind_of_ok (get_apply ls)] at read
  obtain ⟨clauses, middle, inside, done⟩ := bind_eq_ok.1 read
  cases done
  have suffix : rest <:+ ls := Passes.suffix inside
  cases clauses with
  | nil => exact suffix
  | cons clause clauses =>
      cases ls with
      | nil => cases inside
      | cons x more =>
          obtain ⟨found, middle, first, behind⟩ := bind_eq_ok.1 inside
          cases found with
          | false => cases behind
          | true =>
              obtain ⟨y, taken, keyword⟩ := accept_eq_true first
              cases taken
              exact ⟨x, more, rfl, keyword, Passes.suffix
                (p := forClause >>= fun found =>
                  if found.2 then (found.1 :: ·) <$> forClauses more.length else pure [found.1])
                behind⟩

theorem discard_of_ok {β : Type} {p : Parse β} {b : β} (read : p ls = .ok (b, rest)) :
    discard p ls = .ok ((), rest) :=
  bind_eq_ok (f := fun _ => pure ()).2 ⟨b, rest, read, rfl⟩

/-! ## Clauses of a statement -/

section

variable [inner.IsSound]

theorem selectStarts_of_selectTail {t : SelectTail} (read : selectTail inner ls = .ok (t, rest)) :
    ∃ starts, selectStarts inner ls = .ok (starts, rest) ∧ Taken starts ls rest ∧
      Told starts t.has := by
  obtain ⟨group?, _, readGroup, read⟩ := bind_eq_ok.1 read
  obtain ⟨cluster?, _, readCluster, read⟩ := bind_eq_ok.1 read
  obtain ⟨distribute?, _, readDistribute, read⟩ := bind_eq_ok.1 read
  obtain ⟨sort?, _, readSort, read⟩ := bind_eq_ok.1 read
  obtain ⟨having?, _, readHaving, read⟩ := bind_eq_ok.1 read
  obtain ⟨windows?, _, readWindows, read⟩ := bind_eq_ok.1 read
  obtain ⟨qualify?, middle, readQualify, read⟩ := bind_eq_ok.1 read
  obtain ⟨last?, readLast, grouped, further⟩ : ∃ last? : Option Fragment,
      (if windows?.isNone && qualify?.isSome then Parse.windows? inner else pure none) middle =
        .ok (last?, rest) ∧ t.grouped = (group?.isSome || having?.isSome) ∧
      t.further = (cluster?.isSome || distribute?.isSome || sort?.isSome || windows?.isSome ||
        qualify?.isSome || last?.isSome) := by
    split at read
    · next c =>
        obtain ⟨last?, _, readLast, done⟩ := bind_eq_ok.1 read
        cases done
        simp_all
    · next c =>
        cases read
        exact ⟨none, by rw [if_neg c]; rfl, rfl, by simp [Bool.or_assoc]⟩
  obtain ⟨_, readGroup, takenGroup, group⟩ := opened_groupClause?.started readGroup
  obtain ⟨_, readCluster, takenCluster, cluster⟩ := opened_exprsAfter?.started readCluster
  obtain ⟨_, readDistribute, takenDistribute, distribute⟩ :=
    opened_exprsAfter?.started readDistribute
  obtain ⟨_, readSort, takenSort, sort⟩ := opened_exprsAfter?.started readSort
  obtain ⟨_, readHaving, takenHaving, having⟩ := opened_afterKeyword?.started readHaving
  obtain ⟨_, readWindows, takenWindows, windows⟩ := opened_windows?.started readWindows
  obtain ⟨_, readQualify, takenQualify, qualify⟩ := opened_afterKeyword?.started readQualify
  obtain ⟨_, readLast, takenLast, last⟩ :=
    (opened_windows?.ite opened_pure_none).started readLast
  refine ⟨_, ?_, ((((((takenGroup.append takenCluster).append takenDistribute).append
    takenSort).append takenHaving).append takenWindows).append takenQualify).append takenLast, ?_⟩
  · exact bind_eq_ok.2 ⟨_, _, readGroup, bind_eq_ok.2 ⟨_, _, readCluster,
      bind_eq_ok.2 ⟨_, _, readDistribute, bind_eq_ok.2 ⟨_, _, readSort,
      bind_eq_ok.2 ⟨_, _, readHaving, bind_eq_ok.2 ⟨_, _, readWindows,
      bind_eq_ok.2 ⟨_, _, readQualify, bind_eq_ok.2 ⟨_, _, readLast, rfl⟩⟩⟩⟩⟩⟩⟩⟩
  · intro kind
    rw [← ((((((group.append cluster).append distribute).append sort).append having).append
      windows).append qualify).append last kind]
    cases kind <;> simp [SelectTail.has, ClauseKind.openers, grouped, further]

theorem tailStarts_of_queryTail {t : QueryTail} (read : queryTail inner ls = .ok (t, rest)) :
    ∃ starts, tailStarts inner ls = .ok (starts, rest) ∧ Taken starts ls rest ∧
      Told starts t.has := by
  obtain ⟨order?, _, readOrder, read⟩ := bind_eq_ok.1 read
  obtain ⟨limit?, _, readLimit, read⟩ := bind_eq_ok.1 read
  obtain ⟨offset?, _, readOffset, read⟩ := bind_eq_ok.1 read
  obtain ⟨limit', _, readLimit', read⟩ := bind_eq_ok.1 read
  obtain ⟨offset', _, readOffset', read⟩ := bind_eq_ok.1 read
  obtain ⟨fetch?, _, readFetch, read⟩ := bind_eq_ok.1 read
  rw [bind_of_ok (get_apply _)] at read
  obtain ⟨others, _, readOthers, done⟩ := bind_eq_ok.1 read
  cases done
  obtain ⟨last?, readLast, limited⟩ := limitClause_known readLimit'
  obtain ⟨skip?, readSkip, skipped⟩ := offsetClause_known readOffset'
  have readFor := bind_eq_ok
    (f := fun clauses => pure (if clauses.isEmpty then none else some clauses)).2
    ⟨others, rest, readOthers, rfl⟩
  obtain ⟨_, readOrder, takenOrder, order⟩ := opened_orderClause?.started readOrder
  obtain ⟨_, readLimit, takenLimit, limit⟩ := opened_limitClause.started readLimit
  obtain ⟨_, readOffset, takenOffset, offset⟩ := opened_offsetClause.started readOffset
  obtain ⟨_, readLast, takenLast, last⟩ :=
    (opened_pure_none.ite opened_limitClause).started readLast
  obtain ⟨_, readSkip, takenSkip, skip⟩ :=
    (opened_pure_none.ite opened_offsetClause).started readSkip
  obtain ⟨_, readFetch, takenFetch, fetch⟩ := opened_afterKeyword?.started readFetch
  obtain ⟨_, readFor, takenFor, locks⟩ := opened_forClauses?.started readFor
  refine ⟨_, ?_, (((((takenOrder.append takenLimit).append takenOffset).append takenLast).append
    takenSkip).append takenFetch).append takenFor, ?_⟩
  · exact bind_eq_ok.2 ⟨_, _, readOrder, bind_eq_ok.2 ⟨_, _, readLimit,
      bind_eq_ok.2 ⟨_, _, readOffset, bind_eq_ok.2 ⟨_, _, readLast,
      bind_eq_ok.2 ⟨_, _, readSkip, bind_eq_ok.2 ⟨_, _, readFetch,
      bind_eq_ok.2 ⟨_, _, readFor, rfl⟩⟩⟩⟩⟩⟩⟩
  · intro kind
    rw [← (((((order.append limit).append offset).append last).append skip).append fetch).append
      locks kind]
    cases kind <;> cases others <;>
      simp [QueryTail.has, ClauseKind.openers, limited, skipped, Bool.or_assoc, Bool.or_left_comm]

end

/-- The clauses of query text have their starts among its tokens. -/
theorem clauseStarts_of_statement {s : Statement} (read : statement ls = .ok (s, rest)) :
    ∃ starts, clauseStarts ls = .ok (starts, rest) ∧ starts.Sublist ls ∧ rest <:+ ls ∧
      Told starts s.has := by
  obtain ⟨condition, t₁, readCondition, read⟩ := bind_eq_ok.1 read
  obtain ⟨select, t₂, readSelect, read⟩ := bind_eq_ok.1 read
  rw [bind_of_ok (get_apply t₂)] at read
  obtain ⟨⟨whole, combined⟩, t₃, readWhole, read⟩ := bind_eq_ok.1 read
  obtain ⟨tail, t₄, readTail, done⟩ := bind_eq_ok.1 read
  cases done
  obtain ⟨ofSelection, readSelection, takenSelection, selection⟩ :=
    selectStarts_of_selectTail readSelect
  obtain ⟨ofQuery, readQuery, takenQuery, query⟩ := tailStarts_of_queryTail readTail
  have taken : Taken ([] ++ ofSelection ++ [] ++ ofQuery) ls rest :=
    (((Taken.of_suffix (Passes.suffix readCondition)).append takenSelection).append
      (.of_suffix (Passes.suffix readWhole))).append takenQuery
  rw [List.nil_append, List.append_nil] at taken
  refine ⟨ofSelection ++ ofQuery, ?_, taken.sublist, taken.suffix, selection.append query⟩
  exact bind_eq_ok.2 ⟨(), t₁, discard_of_ok readCondition, bind_eq_ok.2 ⟨_, t₂, readSelection,
    bind_eq_ok.2 ⟨t₂, t₂, get_apply t₂, bind_eq_ok.2 ⟨(), t₃, discard_of_ok readWhole,
    bind_eq_ok.2 ⟨_, rest, readQuery, rfl⟩⟩⟩⟩⟩

end Parse

end EntityQuery.ConditionText
