import EntityQuery.ConditionText.Location

/-!
# Fragments

A fragment is what is kept of a part of query text that conditions have no use for: the part of the
text that its names cover, and its canonical spelling. Fragments are put together from left to
right. Words and punctuation are fragments that cover nothing, so a spelling is put together from
them and from the parts that have been read.
-/

namespace EntityQuery.ConditionText

/-- The span and the canonical spelling of a part of a text. -/
structure Fragment where
  span : Span
  text : String
  deriving DecidableEq, Repr, Inhabited

namespace Fragment

/-- Words or punctuation, which cover nothing. -/
def words (text : String) : Fragment := ⟨.empty, text⟩

instance : Coe String Fragment := ⟨words⟩

instance : Append Fragment := ⟨fun a b => ⟨a.span.union b.span, a.text ++ b.text⟩⟩

/-- A fragment with words in front of it. -/
def after (f : Fragment) (text : String) : Fragment := words text ++ f

/-- Fragments with a separator between them. -/
def joined (separator : String) : List Fragment → Fragment
  | [] => words ""
  | [f] => f
  | f :: g :: more => f ++ words separator ++ joined separator (g :: more)

/-- Fragments between commas. -/
def listed (fragments : List Fragment) : Fragment := joined ", " fragments

/-- A fragment that may be missing. -/
def orNothing (fragment : Option Fragment) : Fragment := fragment.getD (words "")

/-- A fragment that may be missing, with words in front of it if it is there. -/
def clause (text : String) (fragment : Option Fragment) : Fragment :=
  orNothing (fragment.map (after · text))

/-- The spelling of a fragment, as if it covered nothing. -/
def unplaced (f : Fragment) : Fragment := words f.text

@[simp] theorem text_append (a b : Fragment) : (a ++ b).text = a.text ++ b.text := rfl

@[simp] theorem span_append (a b : Fragment) : (a ++ b).span = a.span.union b.span := rfl

@[simp] theorem span_words (text : String) : (words text).span = none := rfl

end Fragment

end EntityQuery.ConditionText
