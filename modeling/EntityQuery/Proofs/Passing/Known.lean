import EntityQuery.ConditionText.FurtherStatement

/-!
# Known places

What is read has its places from tokens: its span starts with a token that it was read from and
ends with one. While something is read, the spans of its parts are known to be within the tokens
passed so far, and the span of the whole is told from them. There is one instance for each way to
put parts together, so what the places of a whole are told from is found by its form.
-/

namespace EntityQuery.ConditionText

/-- Whether a span starts and ends with some of the given tokens. -/
def Within (ts : List Lexeme) (s : Span) : Prop :=
  ∀ e ∈ s, (∃ x ∈ ts, x.extent.first = e.first) ∧ ∃ x ∈ ts, x.extent.last = e.last

namespace Within

variable {ts us : List Lexeme} {s s' : Span}

theorem none (ts : List Lexeme) : Within ts none := by
  rintro _ ⟨⟩

theorem token {x : Lexeme} (mem : x ∈ ts) : Within ts (some x.extent) := by
  rintro _ ⟨⟩
  exact ⟨⟨x, mem, rfl⟩, x, mem, rfl⟩

theorem mono (h : Within ts s) (within : ts ⊆ us) : Within us s := by
  intro e mem
  obtain ⟨⟨x, hx, first⟩, y, hy, last⟩ := h e mem
  exact ⟨⟨x, within hx, first⟩, y, within hy, last⟩

theorem union (h : Within ts s) (h' : Within ts s') : Within ts (s.union s') := by
  cases s with
  | none => rwa [Span.none_union]
  | some a =>
      cases s' with
      | none => rwa [Span.union_none]
      | some b =>
          rintro _ ⟨⟩
          obtain ⟨firstA, lastA⟩ := h a rfl
          obtain ⟨firstB, lastB⟩ := h' b rfl
          constructor
          · simp only [Location.earlier]
            split
            · exact firstB
            · exact firstA
          · simp only [Location.later]
            split
            · exact lastB
            · exact lastA

theorem unions {spans : List Span} (each : ∀ s ∈ spans, Within ts s) :
    Within ts (Span.unions spans) := by
  have fold : ∀ start, Within ts start → Within ts (spans.foldl Span.union start) := by
    induction spans with
    | nil => exact fun _ h => h
    | cons s more ih =>
        rw [List.forall_mem_cons] at each
        exact fun _ h => ih each.2 _ (h.union each.1)
  exact fold _ (none ts)

end Within

/-! ## Places of results -/

/-- What has places in the text. -/
class Placed (α : Type) where
  /-- The spans of the parts. -/
  spans : α → List Span

export Placed (spans)

section

variable {α β : Type} [Placed α] [Placed β]

instance : Placed Unit := ⟨fun _ => []⟩
instance : Placed Bool := ⟨fun _ => []⟩
instance : Placed Nat := ⟨fun _ => []⟩
instance : Placed String := ⟨fun _ => []⟩
instance : Placed Token := ⟨fun _ => []⟩
instance : Placed Location := ⟨fun _ => []⟩
instance : Placed Constant := ⟨fun _ => []⟩
instance : Placed DataType := ⟨fun _ => []⟩
instance : Placed Lexeme := ⟨fun l => [some l.extent]⟩
instance : Placed Ident := ⟨fun i => [i.span]⟩
instance : Placed Fragment := ⟨fun f => [f.span]⟩
instance : Placed Expr := ⟨fun e => [e.span]⟩
instance : Placed Relation := ⟨fun r => [r.fragment.span]⟩
instance : Placed OrderTerm := ⟨fun t => [t.key.span]⟩
instance : Placed (Option α) := ⟨fun a? => a?.toList.flatMap spans⟩
instance : Placed (List α) := ⟨fun as => as.flatMap spans⟩
instance : Placed (α × β) := ⟨fun r => spans r.1 ++ spans r.2⟩
instance : Placed Parse.Wildcard := ⟨fun w => spans w.parts ++ [some w.star]⟩
instance : Placed SelectTail := ⟨fun t => [t.fragment.span]⟩
instance : Placed QueryTail := ⟨fun t => spans t.order ++ spans t.limit ++ spans t.offset ++
  [t.fragment.span]⟩

end

section

variable {α β : Type} [Placed α] [Placed β]

@[simp] theorem spans_pair (a : α) (b : β) : spans (a, b) = spans a ++ spans b := rfl

@[simp] theorem spans_some (a : α) : spans (some a) = spans a := List.append_nil _

@[simp] theorem spans_cons (a : α) (as : List α) : spans (a :: as) = spans a ++ spans as := rfl

theorem spans_append (as bs : List α) : spans (as ++ bs) = spans as ++ spans bs :=
  List.flatMap_append

end

/-! ## Known places -/

/-- The spans that are known to be within what has been passed. -/
def Known : Type := Span → Prop

namespace Known

variable {α β γ : Type} [Placed α] [Placed β] [Placed γ]

/-- Nothing is known. -/
def nothing : Known := fun _ => False

/-- What is known when a result is known besides. -/
def and (K : Known) (a : α) : Known := fun s => K s ∨ s ∈ spans a

/-- Whether what is known is within some tokens. -/
def Holds (K : Known) (ts : List Lexeme) : Prop := ∀ s, K s → Within ts s

variable {K : Known} {ts us : List Lexeme}

theorem holds_nothing (ts : List Lexeme) : nothing.Holds ts := fun _ => False.elim

theorem Holds.mono (h : K.Holds ts) (within : ts ⊆ us) : K.Holds us :=
  fun s known => (h s known).mono within

theorem holds_and {a : α} : (K.and a).Holds ts ↔ K.Holds ts ∧ ∀ s ∈ spans a, Within ts s := by
  simp only [Holds, Known.and, or_imp, forall_and]

/-- A token that is passed is known from then on. -/
theorem Holds.token (h : K.Holds ts) (x : Lexeme) : (K.and (some x)).Holds (ts ++ [x]) :=
  holds_and.2 ⟨h.mono (List.subset_append_left _ _), fun s mem => by
    obtain rfl : s = some x.extent := by simpa [spans] using mem
    exact .token (List.mem_append_right _ (List.mem_singleton_self x))⟩

/-- Whether a span is told from known ones. -/
def Tells (K : Known) (s : Span) : Prop := ∀ ts, K.Holds ts → Within ts s

namespace Tells

variable {s s' : Span}

theorem none : K.Tells none := fun ts _ => .none ts

theorem union (h : K.Tells s) (h' : K.Tells s') : K.Tells (s.union s') :=
  fun ts known => (h ts known).union (h' ts known)

theorem unions {spans : List Span} (each : ∀ s ∈ spans, K.Tells s) : K.Tells (.unions spans) :=
  fun ts known => .unions fun s mem => each s mem ts known

end Tells

/-- The places of something are told from known ones. -/
class Has (K : Known) (a : α) : Prop where
  tells : ∀ s ∈ spans a, K.Tells s

namespace Has

variable {a : α} {as bs : List α} {a? : Option α} {b : β} {c : γ} {f : α → β}

/-! ### From what is known -/

instance (priority := low) here : Has (K.and a) a := ⟨fun s mem _ h => (holds_and.1 h).2 s mem⟩

instance (priority := low) weaken [h : Has K a] : Has (K.and b) a :=
  ⟨fun s mem ts h' => h.tells s mem ts (holds_and.1 h').1⟩

/-- What is told from something known is known. -/
theorem trans (h : Has K a) (h' : Has (K.and a) b) : Has K b :=
  ⟨fun s mem ts known => h'.tells s mem ts
    (holds_and.2 ⟨known, fun s mem => h.tells s mem ts known⟩)⟩

/-- What is known of a result is known of its parts. -/
theorem of_parts (K' : Known) [h : Has K' c] (same : ∀ ts, K.Holds ts → K'.Holds ts) : Has K c :=
  ⟨fun s mem ts known => h.tells s mem ts (same ts known)⟩

instance (priority := low) of_pair [Has ((K.and a).and b) c] : Has (K.and (a, b)) c :=
  of_parts ((K.and a).and b) fun _ h => by
    simpa only [holds_and, spans_pair, List.forall_mem_append, and_assoc] using h

instance (priority := low) of_some [Has (K.and a) c] : Has (K.and (some a)) c :=
  of_parts (K.and a) fun _ h => by simpa only [holds_and, spans_some] using h

instance (priority := low) of_cons [Has ((K.and a).and as) c] : Has (K.and (a :: as)) c :=
  of_parts ((K.and a).and as) fun _ h => by
    simpa only [holds_and, spans_cons, List.forall_mem_append, and_assoc] using h

/-! ### What has no places -/

instance (u : Unit) : Has K u := ⟨by rintro _ ⟨⟩⟩
instance (b : Bool) : Has K b := ⟨by rintro _ ⟨⟩⟩
instance (s : String) : Has K s := ⟨by rintro _ ⟨⟩⟩
instance (n : Nat) : Has K n := ⟨by rintro _ ⟨⟩⟩
instance (c : Constant) : Has K c := ⟨by rintro _ ⟨⟩⟩
instance (d : DataType) : Has K d := ⟨by rintro _ ⟨⟩⟩

/-! ### What is put together -/

theorem of_mem (each : ∀ a ∈ as, Has K a) : Has K as :=
  ⟨fun s place => by
    obtain ⟨a, mem, place⟩ := List.mem_flatMap.1 place
    exact (each a mem).tells s place⟩

theorem mem (h : Has K as) (mem : a ∈ as) : Has K a :=
  ⟨fun s place => h.tells s (List.mem_flatMap.2 ⟨a, mem, place⟩)⟩

instance pair [h : Has K a] [h' : Has K b] : Has K (a, b) :=
  ⟨List.forall_mem_append.2 ⟨h.tells, h'.tells⟩⟩

instance fst {r : α × β} [h : Has K r] : Has K r.1 :=
  ⟨fun s mem => h.tells s (List.mem_append_left _ mem)⟩

instance snd {r : α × β} [h : Has K r] : Has K r.2 :=
  ⟨fun s mem => h.tells s (List.mem_append_right _ mem)⟩

instance none : Has K (none : Option α) := ⟨by rintro _ ⟨⟩⟩

instance some [h : Has K a] : Has K (some a) := ⟨by rw [spans_some]; exact h.tells⟩

instance ite {p : Prop} [Decidable p] {a a' : α} [h : Has K a] [h' : Has K a'] :
    Has K (if p then a else a') := by
  split
  · exact h
  · exact h'

theorem get (h : Has K (Option.some a)) : Has K a := ⟨by rw [← spans_some]; exact h.tells⟩

instance nil : Has K ([] : List α) := ⟨by rintro _ ⟨⟩⟩

instance cons [h : Has K a] [hs : Has K as] : Has K (a :: as) :=
  ⟨List.forall_mem_append.2 ⟨h.tells, hs.tells⟩⟩

instance singleton [Has K a] : Has K (List.singleton a) := cons

instance append [h : Has K as] [h' : Has K bs] : Has K (as ++ bs) :=
  ⟨by rw [spans_append]; exact List.forall_mem_append.2 ⟨h.tells, h'.tells⟩⟩

instance toList [h : Has K a?] : Has K a?.toList := ⟨h.tells⟩

instance mapOption [h : Has K a?] [h' : ∀ a, Has (K.and a) (f a)] : Has K (a?.map f) := by
  cases a? with
  | none => exact none
  | some a =>
      have : Has K (f a) := h.get.trans (h' a)
      exact some

instance bindOption {f : α → Option β} [h : Has K a?] [h' : ∀ a, Has (K.and a) (f a)] :
    Has K (a?.bind f) := by
  cases a? with
  | none => exact none
  | some a => exact h.get.trans (h' a)

instance map [h : Has K as] [h' : ∀ a, Has (K.and a) (f a)] : Has K (as.map f) :=
  of_mem fun _ image => by
    obtain ⟨a, member, rfl⟩ := List.mem_map.1 image
    exact (h.mem member).trans (h' a)

instance filterMap {as : List (Option α)} [h : Has K as] : Has K (as.filterMap id) :=
  of_mem fun _ image => by
    obtain ⟨a?, member, rfl⟩ := List.mem_filterMap.1 image
    exact (h.mem member).get

end Has

/-! ### Fragments and expressions -/

section

variable {f g : Fragment} {fs : List Fragment} {e e' : Expr} {es : List Expr} {i : Ident}
  {is : List Ident}

theorem has_single {s : Span} (a : α) (single : spans a = [s]) : K.Has a ↔ K.Tells s :=
  ⟨fun h => h.tells s (single ▸ List.mem_singleton_self s), fun h => ⟨fun s' mem => by
    rw [single, List.mem_singleton] at mem
    exact mem ▸ h⟩⟩

theorem has_fragment : K.Has f ↔ K.Tells f.span := has_single f rfl

theorem has_expr : K.Has e ↔ K.Tells e.span := has_single e rfl

theorem has_ident : K.Has i ↔ K.Tells i.span := has_single i rfl

namespace Has

instance words (text : String) : K.Has (Fragment.words text) := has_fragment.2 .none

instance appendFragment [h : K.Has f] [h' : K.Has g] : K.Has (f ++ g) :=
  has_fragment.2 ((has_fragment.1 h).union (has_fragment.1 h'))

instance after (text : String) [K.Has f] : K.Has (f.after text) := appendFragment

instance unplaced : K.Has f.unplaced := words _

instance orNothing {f? : Option Fragment} [h : K.Has f?] : K.Has (Fragment.orNothing f?) := by
  cases f? with
  | none => exact words ""
  | some f => exact h.get

instance clause (text : String) {f? : Option Fragment} [K.Has f?] :
    K.Has (Fragment.clause text f?) := by
  unfold Fragment.clause
  infer_instance

theorem joined_of_mem (separator : String) (each : ∀ f ∈ fs, K.Has f) :
    K.Has (Fragment.joined separator fs) := by
  induction fs using Fragment.joined.induct with
  | case1 => exact words ""
  | case2 f => exact each f (List.mem_singleton_self f)
  | case3 f g more ih =>
      rw [List.forall_mem_cons] at each
      have := each.1
      have := ih each.2
      exact inferInstanceAs (K.Has (f ++ Fragment.words separator ++ _))

instance joined (separator : String) [h : K.Has fs] : K.Has (Fragment.joined separator fs) :=
  joined_of_mem separator fun _ member => h.mem member

instance listedFragments [K.Has fs] : K.Has (Fragment.listed fs) := joined ", "

instance identFragment [h : K.Has i] : K.Has i.fragment := has_fragment.2 (has_ident.1 h)

theorem identSpan (h : K.Has is) : K.Tells (identSpan is) :=
  .unions fun s image => by
    obtain ⟨i, member, rfl⟩ := List.mem_map.1 image
    exact has_ident.1 (h.mem member)

instance dottedFragment [h : K.Has is] : K.Has (dottedFragment is) := has_fragment.2 h.identSpan

instance listedNames [K.Has is] : K.Has (listedNames is) := by
  unfold ConditionText.listedNames
  infer_instance

instance exprFragment [h : K.Has e] : K.Has e.fragment := has_fragment.2 (has_expr.1 h)

instance listedExprs [K.Has es] : K.Has (Expr.listed es) := by
  unfold Expr.listed
  infer_instance

instance other [h : K.Has f] : K.Has (Expr.other f) := by
  rw [has_expr, Expr.span]
  exact has_fragment.1 h

instance subquery [h : K.Has f] : K.Has (Expr.subquery f) := by
  rw [has_expr, Expr.span]
  exact has_fragment.1 h

instance identExpr [h : K.Has i] : K.Has (Expr.ident i) := by
  rw [has_expr, Expr.span]
  exact has_ident.1 h

instance compound [h : K.Has is] : K.Has (Expr.compound is) := by
  rw [has_expr, Expr.span]
  exact h.identSpan

instance constantExpr (c : Constant) : K.Has (Expr.constant c) := by
  rw [has_expr, Expr.span_constant]
  exact .none

instance signed (op : SignOp) [h : K.Has e] : K.Has (Expr.signed op e) := by
  rw [has_expr, Expr.span]
  exact has_expr.1 h

instance binary (op : BinaryOp) [h : K.Has e] [h' : K.Has e'] : K.Has (Expr.binary e op e') := by
  rw [has_expr, Expr.span]
  exact (has_expr.1 h).union (has_expr.1 h')

instance nested [h : K.Has e] : K.Has (Expr.nested e) := by
  rw [has_expr, Expr.span]
  exact has_expr.1 h

instance like (negated any : Bool) (escape : Option String) [h : K.Has e] [h' : K.Has e'] :
    K.Has (Expr.like negated any e e' escape) := by
  rw [has_expr, Expr.span]
  exact (has_expr.1 h).union (has_expr.1 h')

theorem spans_exprs (h : K.Has es) : K.Tells (Expr.spans es) := by
  induction es with
  | nil =>
      rw [Expr.spans]
      exact .none
  | cons e es ih =>
      rw [Expr.spans]
      exact (has_expr.1 (h.mem List.mem_cons_self)).union
        (ih (of_mem fun _ member => h.mem (List.mem_cons_of_mem _ member)))

instance inList (negated : Bool) [h : K.Has e] [hs : K.Has es] :
    K.Has (Expr.inList e es negated) := by
  rw [has_expr, Expr.span]
  exact (has_expr.1 h).union hs.spans_exprs

instance isNull (negated : Bool) [h : K.Has e] : K.Has (Expr.isNull e negated) := by
  rw [has_expr, Expr.span]
  exact has_expr.1 h

end Has

end

/-! ### Other results -/

namespace Has

instance lexemeIdent {l : Lexeme} [h : K.Has l] : K.Has l.ident? := by
  have known : K.Tells (Option.some l.extent) := h.tells _ (List.mem_singleton_self _)
  unfold Lexeme.ident?
  split
  · exact some (h := has_ident.2 known)
  · exact some (h := has_ident.2 .none)
  · exact none

instance tokenFragment {l : Lexeme} {text : String} [h : K.Has l] :
    K.Has (Fragment.mk (Option.some l.extent) text) := has_fragment.2 (h.tells _ List.mem_cons_self)

instance headFragment {l : Lexeme} {ls : List Lexeme} {text : String} [h : K.Has l] :
    K.Has (Fragment.mk ((l :: ls).head?.map (·.extent)) text) :=
  has_fragment.2 (h.tells _ List.mem_cons_self)

instance unionFragment {l : Lexeme} {f : Fragment} {text : String} [h : K.Has l] [h' : K.Has f] :
    K.Has (Fragment.mk (Span.union (Option.some l.extent) f.span) text) :=
  has_fragment.2 (.union (h.tells _ List.mem_cons_self) (has_fragment.1 h'))

instance unplacedIdent (value : String) (quote : Option Char) :
    K.Has (Ident.mk value quote Option.none) := has_ident.2 .none

/-- The name that a known lexeme is, is known. -/
theorem of_ident? {l : Lexeme} {i : Ident} (same : l.ident? = Option.some i) (K : Known) :
    (K.and (Option.some l)).Has i := by
  have known : (K.and (Option.some l)).Has l.ident? := inferInstance
  rw [same] at known
  exact known.get

instance wildcard {parts : List Ident} {l : Lexeme} [hs : K.Has parts] [h : K.Has l] :
    K.Has (Parse.Wildcard.mk parts l.extent) :=
  ⟨List.forall_mem_append.2 ⟨hs.tells, h.tells⟩⟩

instance wildcardFragment {w : Parse.Wildcard} [h : K.Has w] : K.Has w.fragment := by
  have names : K.Has w.parts := ⟨fun s mem => h.tells s (List.mem_append_left _ mem)⟩
  unfold Parse.Wildcard.fragment
  split <;> infer_instance

instance wholeWildcard {w : Parse.Wildcard} [h : K.Has w] : K.Has w.wholeFragment :=
  has_fragment.2 ((has_fragment.1 wildcardFragment).union
    (h.tells _ (List.mem_append_right _ List.mem_cons_self)))

instance relationFragment {r : Relation} [h : K.Has r] : K.Has r.fragment :=
  has_fragment.2 (h.tells _ (List.mem_singleton_self _))

instance relation {f : Fragment} {isJoin : Bool} [h : K.Has f] : K.Has (Relation.mk f isJoin) :=
  ⟨h.tells⟩

instance orderKey {t : OrderTerm} [h : K.Has t] : K.Has t.key :=
  has_expr.2 (h.tells _ (List.mem_singleton_self _))

instance orderTerm {e : Expr} {ascending nullsFirst : Option Bool} [h : K.Has e] :
    K.Has (OrderTerm.mk e ascending nullsFirst) := ⟨h.tells⟩

instance orderFragment {t : OrderTerm} [K.Has t] : K.Has t.fragment := by
  unfold OrderTerm.fragment
  infer_instance

instance listedTerms {terms : List OrderTerm} [K.Has terms] : K.Has (OrderTerm.listed terms) := by
  unfold OrderTerm.listed
  infer_instance

instance selectTailFragment {t : SelectTail} [h : K.Has t] : K.Has t.fragment :=
  has_fragment.2 (h.tells _ (List.mem_singleton_self _))

instance selectTail {grouped further : Bool} {f : Fragment} [h : K.Has f] :
    K.Has (SelectTail.mk grouped further f) := ⟨h.tells⟩

instance queryTail {order : Option (List OrderTerm)} {limit offset : Option Expr} {further : Bool}
    {f : Fragment} [ho : K.Has order] [hl : K.Has limit] [hs : K.Has offset] [hf : K.Has f] :
    K.Has (QueryTail.mk order limit offset further f) :=
  ⟨List.forall_mem_append.2 ⟨List.forall_mem_append.2
    ⟨List.forall_mem_append.2 ⟨ho.tells, hl.tells⟩, hs.tells⟩, hf.tells⟩⟩

instance queryTailFragment {t : QueryTail} [h : K.Has t] : K.Has t.fragment :=
  has_fragment.2 (h.tells _ (List.mem_append_right _ (List.mem_singleton_self _)))

end Has

end Known

end EntityQuery.ConditionText
