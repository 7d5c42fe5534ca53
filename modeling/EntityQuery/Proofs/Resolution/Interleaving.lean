import EntityQuery.FieldCache
import Mathlib.Logic.Function.Basic

/-!
# Resolutions that run at the same time

A call to resolve a field takes up to three turns: it looks into the cache, asks the metadata, and
keeps the answer. Each turn is atomic, and between two turns of one call any other calls may have
theirs. The metadata need not be fixed: whoever asks gets the answer of that moment, which is part
of the turn. A pool holds the shared cache, how far every call has come, and all questions that the
metadata has been asked. Calls are told apart by an index of any type, so there may be any number.

Two calls for the same field may both miss the cache and get different answers. They still agree in
the end, because the later one leaves the entry of the earlier one alone and returns it.
-/

namespace EntityQuery

/-- A field of an entity. -/
structure FieldName where
  entity : String
  field : String
  deriving DecidableEq, Repr

/-- A question for a field, with the answer that was given. -/
structure Question where
  name : FieldName
  answer : Option FieldMapping
  deriving DecidableEq, Repr

/-- The field that an entry of the cache is about. -/
def CachedField.name (e : CachedField) : FieldName := ⟨e.entity, e.field⟩

namespace FieldCache

variable (cache : FieldCache)

/-- The remembered mapping of a named field. -/
def at? (name : FieldName) : Option FieldMapping := cache.find? name.entity name.field

/-- What an uninterrupted resolution asks: nothing, if the field is remembered. -/
def questions (catalog : Catalog) (name : FieldName) : List Question :=
  match cache.at? name with
  | some _ => []
  | none => [⟨name, catalog.mapping? name.entity name.field⟩]

variable {cache} {name other : FieldName} {mapping : FieldMapping}

theorem at?_cons {lookups : Nat} :
    at? ⟨⟨name.entity, name.field, mapping⟩ :: cache.entries, lookups⟩ other =
      if other = name then some mapping else cache.at? other := by
  obtain ⟨entity, field⟩ := name
  obtain ⟨entity', field'⟩ := other
  by_cases same : entity = entity' ∧ field = field'
  · obtain ⟨rfl, rfl⟩ := same
    simp [at?, find?]
  · have different : ¬(entity' = entity ∧ field' = field) := fun h => same ⟨h.1.symm, h.2.symm⟩
    simp [at?, find?, same, different]

theorem keep_of_some {kept : FieldMapping} (present : cache.at? name = some kept) :
    cache.keep name.entity name.field mapping = (kept, cache) := by
  rw [at?] at present
  rw [keep, present]

theorem keep_of_none (absent : cache.at? name = none) :
    cache.keep name.entity name.field mapping =
      (mapping, ⟨⟨name.entity, name.field, mapping⟩ :: cache.entries, cache.lookups⟩) := by
  rw [at?] at absent
  rw [keep, absent]

/-- After an answer is kept, its field has the entry that was returned; all others are as before. -/
theorem at?_keep :
    (cache.keep name.entity name.field mapping).2.at? other =
      if other = name then some (cache.keep name.entity name.field mapping).1
      else cache.at? other := by
  cases present : cache.at? name with
  | none =>
      rw [keep_of_none present]
      exact at?_cons
  | some kept =>
      rw [keep_of_some present]
      split
      · next same => rw [same, present]
      · rfl

/-- An answer is added as an entry of its field, or nothing is added. -/
theorem entries_keep :
    ∃ added, (cache.keep name.entity name.field mapping).2.entries = added ++ cache.entries ∧
      ∀ e ∈ added, e.name = name := by
  cases present : cache.at? name with
  | none =>
      rw [keep_of_none present]
      exact ⟨[⟨name.entity, name.field, mapping⟩], rfl, by simp [CachedField.name]⟩
  | some kept =>
      rw [keep_of_some present]
      exact ⟨[], rfl, by simp⟩

end FieldCache

/-- How far a call has come. -/
inductive Progress where
  | waiting
  /-- The cache had no entry. -/
  | missed
  /-- The metadata had an answer, which is not kept yet. -/
  | answered (mapping : FieldMapping)
  | finished (result : QueryResult FieldMapping)

namespace Progress

/-- The turns that a call needs at most until it is finished. -/
def remaining : Progress → Nat
  | waiting => 3
  | missed => 2
  | answered _ => 1
  | finished _ => 0

/-- The progress of a call for a field after its next turn. -/
def next (cache : FieldCache) (name : FieldName) (answer : Option FieldMapping) :
    Progress → Progress
  | waiting =>
    match cache.at? name with
    | some mapping => finished (.ok mapping)
    | none => missed
  | missed =>
    match answer with
    | some mapping => answered mapping
    | none => finished (.error (.unknownField name.entity name.field))
  | answered mapping => finished (.ok (cache.keep name.entity name.field mapping).1)
  | finished result => finished result

/-- The cache after the next turn of a call. -/
def cacheAfter (cache : FieldCache) (name : FieldName) : Progress → FieldCache
  | missed => cache.countLookup
  | answered mapping => (cache.keep name.entity name.field mapping).2
  | _ => cache

/-- What the next turn of a call asks. -/
def asks (name : FieldName) (answer : Option FieldMapping) : Progress → List Question
  | missed => [⟨name, answer⟩]
  | _ => []

section

variable {cache : FieldCache} {name other : FieldName} {answer : Option FieldMapping}
  {mapping : FieldMapping} {p : Progress}

/-- Entries stay as they are. -/
theorem at?_cacheAfter (present : cache.at? other = some mapping) :
    (p.cacheAfter cache name).at? other = some mapping := by
  cases p with
  | answered answer =>
      rw [cacheAfter, FieldCache.at?_keep]
      split
      · next same =>
          rw [same] at present
          rw [FieldCache.keep_of_some present]
      · exact present
  | waiting | missed | finished => exact present

/-- Only entries of the call's own field are added. -/
theorem entries_cacheAfter :
    ∃ added, (p.cacheAfter cache name).entries = added ++ cache.entries ∧
      ∀ e ∈ added, e.name = name := by
  cases p with
  | answered mapping => exact FieldCache.entries_keep
  | waiting | missed | finished => exact ⟨[], rfl, by simp⟩

/-- An entry is as old as the cache, or it is the answer that the call has just kept. -/
theorem at?_cacheAfter_cases (present : (p.cacheAfter cache name).at? other = some mapping) :
    cache.at? other = some mapping ∨ other = name ∧ p = answered mapping := by
  cases p with
  | answered answer =>
      rw [cacheAfter, FieldCache.at?_keep] at present
      split at present
      · next same =>
          cases before : cache.at? name with
          | none =>
              rw [FieldCache.keep_of_none before] at present
              cases present
              exact .inr ⟨same, rfl⟩
          | some kept =>
              rw [FieldCache.keep_of_some before] at present
              rw [same, before]
              exact .inl present
      · exact .inl present
  | waiting | missed | finished => exact .inl present

theorem next_eq_answered (h : p.next cache name answer = answered mapping) :
    p = missed ∧ answer = some mapping := by
  cases p with
  | waiting =>
      rw [next] at h
      split at h <;> cases h
  | missed =>
      cases answer with
      | none => cases h
      | some given =>
          cases h
          exact ⟨rfl, rfl⟩
  | answered | finished => cases h

/-- A call that returns a mapping has found it in the cache or put it there. -/
theorem next_eq_ok (h : p.next cache name answer = finished (.ok mapping)) :
    p = finished (.ok mapping) ∨ (p.cacheAfter cache name).at? name = some mapping := by
  cases p with
  | waiting =>
      rw [next] at h
      split at h
      · next present =>
          cases h
          exact .inr present
      · cases h
  | missed => cases answer <;> cases h
  | answered given =>
      cases h
      exact .inr (by rw [cacheAfter, FieldCache.at?_keep, if_pos rfl])
  | finished result => exact .inl h

/-- A call is refused only by an answer of the metadata. -/
theorem next_eq_error {e : QueryError} (h : p.next cache name answer = finished (.error e)) :
    p = finished (.error e) ∨
      p = missed ∧ answer = none ∧ e = .unknownField name.entity name.field := by
  cases p with
  | waiting =>
      rw [next] at h
      split at h <;> cases h
  | missed =>
      cases answer with
      | none =>
          cases h
          exact .inr ⟨rfl, rfl, rfl⟩
      | some given => cases h
  | answered given => cases h
  | finished result => exact .inl h

theorem remaining_next : (p.next cache name answer).remaining ≤ p.remaining - 1 := by
  cases p with
  | waiting => cases present : cache.at? name <;> simp [next, present, remaining]
  | missed => cases answer <;> simp [next, remaining]
  | answered | finished => exact Nat.le_refl 0

theorem finished_of_remaining (none : p.remaining = 0) : ∃ result, p = finished result := by
  cases p with
  | finished result => exact ⟨result, rfl⟩
  | waiting | missed | answered => cases none

end

end Progress

/-- A turn of a call, with the answer that the metadata gives if it is asked in this turn. -/
structure Turn (ι : Type) where
  call : ι
  answer : Option FieldMapping

/-- Calls in flight: the cache that they share, how far they are, and what has been asked. -/
structure Pool (ι : Type) where
  cache : FieldCache := {}
  progress : ι → Progress := fun _ => .waiting
  questions : List Question := []

namespace Pool

variable {ι : Type} (target : ι → FieldName)

/-- What is remembered has been answered, and what has been returned is remembered. -/
structure Sound (s : Pool ι) : Prop where
  remembered : ∀ name mapping, s.cache.at? name = some mapping →
    ⟨name, some mapping⟩ ∈ s.questions
  answered : ∀ i mapping, s.progress i = .answered mapping → ⟨target i, some mapping⟩ ∈ s.questions
  returned : ∀ i mapping, s.progress i = .finished (.ok mapping) →
    s.cache.at? (target i) = some mapping
  refused : ∀ i e, s.progress i = .finished (.error e) →
    e = .unknownField (target i).entity (target i).field ∧ ⟨target i, none⟩ ∈ s.questions

/-- Before the first turn nothing is remembered and no call has come anywhere. -/
theorem Sound.start : Sound target {} where
  remembered := by
    intro name mapping present
    cases present
  answered := by
    intro i mapping now
    cases now
  returned := by
    intro i mapping now
    cases now
  refused := by
    intro i e now
    cases now

variable [DecidableEq ι]

/-- The pool after a turn. -/
def step (s : Pool ι) (turn : Turn ι) : Pool ι :=
  let name := target turn.call
  let current := s.progress turn.call
  { cache := current.cacheAfter s.cache name
    progress := Function.update s.progress turn.call (current.next s.cache name turn.answer)
    questions := s.questions ++ current.asks name turn.answer }

/-- The pool after some turns. -/
def run (s : Pool ι) (turns : List (Turn ι)) : Pool ι := turns.foldl (step target) s

variable {target} {s : Pool ι} {turn : Turn ι} {turns : List (Turn ι)} {i : ι}

theorem run_cons : s.run target (turn :: turns) = (s.step target turn).run target turns := rfl

theorem progress_step_self :
    (s.step target turn).progress turn.call =
      (s.progress turn.call).next s.cache (target turn.call) turn.answer :=
  Function.update_self ..

theorem progress_step_of_ne (other : i ≠ turn.call) :
    (s.step target turn).progress i = s.progress i :=
  Function.update_of_ne other ..

theorem mem_questions_step {q : Question} (h : q ∈ s.questions) :
    q ∈ (s.step target turn).questions :=
  List.mem_append_left _ h

theorem asked_step (missed : s.progress turn.call = .missed) :
    ⟨target turn.call, turn.answer⟩ ∈ (s.step target turn).questions := by
  simp [step, missed, Progress.asks]

theorem at?_step {name : FieldName} {mapping : FieldMapping}
    (present : s.cache.at? name = some mapping) :
    (s.step target turn).cache.at? name = some mapping :=
  Progress.at?_cacheAfter present

/-- Every turn keeps a pool sound. -/
theorem Sound.step (h : Sound target s) (turn : Turn ι) : Sound target (s.step target turn) where
  remembered := by
    intro name mapping present
    obtain before | ⟨rfl, now⟩ := Progress.at?_cacheAfter_cases present
    · exact mem_questions_step (h.remembered name mapping before)
    · exact mem_questions_step (h.answered turn.call mapping now)
  answered := by
    intro i mapping now
    obtain rfl | other := eq_or_ne i turn.call
    · rw [progress_step_self] at now
      obtain ⟨missed, given⟩ := Progress.next_eq_answered now
      rw [← given]
      exact asked_step missed
    · rw [progress_step_of_ne other] at now
      exact mem_questions_step (h.answered i mapping now)
  returned := by
    intro i mapping now
    obtain rfl | other := eq_or_ne i turn.call
    · rw [progress_step_self] at now
      obtain before | present := Progress.next_eq_ok now
      · exact at?_step (h.returned _ mapping before)
      · exact present
    · rw [progress_step_of_ne other] at now
      exact at?_step (h.returned i mapping now)
  refused := by
    intro i e now
    obtain rfl | other := eq_or_ne i turn.call
    · rw [progress_step_self] at now
      obtain before | ⟨missed, given, error⟩ := Progress.next_eq_error now
      · obtain ⟨error, asked⟩ := h.refused _ e before
        exact ⟨error, mem_questions_step asked⟩
      · rw [← given]
        exact ⟨error, asked_step missed⟩
    · rw [progress_step_of_ne other] at now
      obtain ⟨error, asked⟩ := h.refused i e now
      exact ⟨error, mem_questions_step asked⟩

theorem Sound.run (h : Sound target s) (turns : List (Turn ι)) :
    Sound target (s.run target turns) := by
  induction turns generalizing s with
  | nil => exact h
  | cons turn turns ih => exact ih (h.step turn)

/-- What is remembered once is remembered ever after. -/
theorem at?_run {name : FieldName} {mapping : FieldMapping}
    (present : s.cache.at? name = some mapping) :
    (s.run target turns).cache.at? name = some mapping := by
  induction turns generalizing s with
  | nil => exact present
  | cons turn turns ih => exact ih (at?_step present)

/-- A call that has finished has no further turns. -/
theorem finished_run {result : QueryResult FieldMapping}
    (done : s.progress i = .finished result) :
    (s.run target turns).progress i = .finished result := by
  induction turns generalizing s with
  | nil => exact done
  | cons turn turns ih =>
      apply ih
      obtain rfl | other := eq_or_ne i turn.call
      · rw [progress_step_self, done, Progress.next]
      · rw [progress_step_of_ne other, done]

/-- Whatever the others do, a call is finished after as many turns of its own as remain to it. -/
theorem remaining_run :
    ((s.run target turns).progress i).remaining ≤
      (s.progress i).remaining - turns.countP (·.call = i) := by
  induction turns generalizing s with
  | nil => exact Nat.le_refl _
  | cons turn turns ih =>
      rw [run_cons, List.countP_cons]
      refine Nat.le_trans ih ?_
      by_cases own : turn.call = i
      · subst own
        have spent : ((s.step target turn).progress turn.call).remaining ≤
            (s.progress turn.call).remaining - 1 := by
          rw [progress_step_self]
          exact Progress.remaining_next
        simp only [decide_true, if_true]
        omega
      · rw [progress_step_of_ne (Ne.symm own)]
        simp [own]

/-- A call that fails in the end adds no entry in any of its turns. -/
theorem entries_step_of_refused {e : QueryError}
    (refused : ((s.step target turn).run target turns).progress turn.call = .finished (.error e)) :
    (s.step target turn).cache.entries = s.cache.entries := by
  cases current : s.progress turn.call with
  | answered mapping =>
      have done : (s.step target turn).progress turn.call =
          .finished (.ok
            (s.cache.keep (target turn.call).entity (target turn.call).field mapping).1) := by
        rw [progress_step_self, current, Progress.next]
      rw [finished_run done] at refused
      cases refused
  | waiting | missed | finished => simp [step, current, Progress.cacheAfter, FieldCache.countLookup]

/-- A call that has its three turns without interruption, and a catalog to ask, is a resolution. -/
theorem run_alone (catalog : Catalog) (waiting : s.progress i = .waiting) :
    let turn : Turn ι := ⟨i, catalog.mapping? (target i).entity (target i).field⟩
    let after := s.run target [turn, turn, turn]
    let resolved := s.cache.resolve catalog (target i).entity (target i).field
    after.cache = resolved.2 ∧ after.progress i = .finished resolved.1 ∧
      after.questions = s.questions ++ s.cache.questions catalog (target i) := by
  cases present : s.cache.find? (target i).entity (target i).field with
  | some mapping =>
      simp [run, step, waiting, Progress.next, Progress.cacheAfter, Progress.asks, FieldCache.at?,
        present, FieldCache.resolve, FieldCache.questions]
  | none =>
      cases known : catalog.mapping? (target i).entity (target i).field <;>
        simp [run, step, waiting, Progress.next, Progress.cacheAfter, Progress.asks,
          FieldCache.at?, present, FieldCache.resolve, FieldCache.questions, known]

/-- Resolutions that run at the same time agree, however their turns are interleaved and whatever
the metadata answers from one turn to the next. All calls that succeed for one field return the same
mapping, which the metadata has answered for this very field; a call fails only if the metadata did
not know the field; and a call is finished after three turns of its own. Entries of the cache never
change and never disappear, a call that fails adds none, and a call adds none for a field that is
not its own. -/
theorem resolutions_agree (target : ι → FieldName) (turns : List (Turn ι)) :
    let s := ({} : Pool ι).run target turns
    (∀ i j m n, target i = target j → s.progress i = .finished (.ok m) →
      s.progress j = .finished (.ok n) → m = n) ∧
    (∀ i m, s.progress i = .finished (.ok m) → ⟨target i, some m⟩ ∈ s.questions) ∧
    (∀ i e, s.progress i = .finished (.error e) →
      e = .unknownField (target i).entity (target i).field ∧ ⟨target i, none⟩ ∈ s.questions) ∧
    (∀ i, 3 ≤ turns.countP (·.call = i) → ∃ result, s.progress i = .finished result) ∧
    (∀ later name m, s.cache.at? name = some m → (s.run target later).cache.at? name = some m) ∧
    (∀ turn later e,
      ((s.step target turn).run target later).progress turn.call = .finished (.error e) →
        (s.step target turn).cache.entries = s.cache.entries) ∧
    ∀ turn, ∃ added, (s.step target turn).cache.entries = added ++ s.cache.entries ∧
      ∀ e ∈ added, e.name = target turn.call := by
  intro s
  have sound : Sound target s := (Sound.start target).run turns
  refine ⟨?_, ?_, sound.refused, ?_, fun _ _ _ => at?_run, fun _ _ _ => entries_step_of_refused,
    fun _ => Progress.entries_cacheAfter⟩
  · intro i j m n same first second
    have remembered := sound.returned i m first
    rw [same, sound.returned j n second] at remembered
    exact (Option.some.inj remembered).symm
  · intro i m done
    exact sound.remembered _ m (sound.returned i m done)
  · intro i enough
    have none : (s.progress i).remaining ≤ 3 - turns.countP (·.call = i) := remaining_run
    exact Progress.finished_of_remaining (by omega)

/-- Two calls for one field that both miss the cache and get different answers. -/
def race : List (Turn Bool) :=
  let first (answer : String) : Turn Bool := ⟨false, some ⟨answer, .identity⟩⟩
  let second (answer : String) : Turn Bool := ⟨true, some ⟨answer, .identity⟩⟩
  [first "", second "", first "full_name", second "name", second "", first ""]

theorem race_agrees :
    let s := ({} : Pool Bool).run (fun _ => ⟨"users", "name"⟩) race
    s.questions.length = 2 ∧
    s.progress false = .finished (.ok ⟨"name", .identity⟩) ∧
    s.progress true = .finished (.ok ⟨"name", .identity⟩) ∧
    ∀ m n, s.progress false = .finished (.ok m) → s.progress true = .finished (.ok n) → m = n :=
  ⟨rfl, rfl, rfl, fun m n => (resolutions_agree (fun _ => ⟨"users", "name"⟩) race).1 false true m n
    rfl⟩

end Pool

end EntityQuery
