import EntityQuery.ConditionText.Location
import EntityQuery.Unicode.Case

/-!
# Tokens of query text

Query text is SQL, and its tokens are those of PostgreSQL. A word carries its spelling in capitals,
by which keywords are recognised; a quoted word has none and is never a keyword.
-/

namespace EntityQuery.ConditionText

/-- The kinds of quoted texts. -/
inductive Quotation where
  | plain | escaped | unicode | national | hexadecimal | byteSingle | byteDouble
  deriving DecidableEq, Repr

/-- A token. -/
inductive Token where
  /-- A word, in quotes or not, with its spelling in capitals where it is not. -/
  | word (value : String) (quoted : Bool) (capitals : String)
  /-- A number without sign, as it is written, possibly with the mark of a long one. -/
  | number (digits : String) (long : Bool)
  | quotation (kind : Quotation) (value : String)
  | dollarQuotation (tag : Option String) (value : String)
  | placeholder (name : String)
  /-- Punctuation or an operator of the language. -/
  | symbol (text : String)
  /-- Operator characters that form no operator of the language. -/
  | customOperator (text : String)
  /-- A character that starts no token. -/
  | other (c : Char)
  deriving DecidableEq, Repr

namespace Token

/-- The word of a spelling that is not in quotes. -/
def bareWord (value : String) : Token := word value false (Unicode.upper value)

/-- The word inside double quotes. -/
def quotedWord (value : String) : Token := word value true ""

/-- Whether a token is a keyword. -/
def isKeyword (key : String) : Token → Bool
  | word _ false capitals => capitals == key
  | _ => false

/-- Whether a token is one of several keywords. -/
def isOneOf (keys : List String) : Token → Bool
  | word _ false capitals => keys.contains capitals
  | _ => false

/-- Whether a token is the given punctuation or operator. -/
def isSymbol (text : String) : Token → Bool
  | symbol t => t == text
  | _ => false

theorem isOneOf_of_isKeyword {t : Token} {key : String} {words : List String}
    (h : t.isKeyword key) (mem : key ∈ words) : t.isOneOf words := by
  unfold isKeyword at h
  split at h
  · simp only [beq_iff_eq] at h
    subst h
    exact List.contains_iff_mem.2 mem
  · cases h

theorem isOneOf_mono {t : Token} {words more : List String} (within : words ⊆ more)
    (h : t.isOneOf words) : t.isOneOf more := by
  unfold isOneOf at h ⊢
  split at h
  · exact List.contains_iff_mem.2 (within (List.contains_iff_mem.1 h))
  · cases h

end Token

/-- A token and the part of the text that it covers. -/
structure Lexeme where
  token : Token
  extent : Extent
  deriving Repr

/-- Why a text cannot be read. -/
inductive Failure where
  /-- The text is nested too deeply. -/
  | tooDeep
  /-- Something else was expected at a place, or at the end of the text. -/
  | expected (what : String) (place : Option Location)
  deriving DecidableEq, Repr

end EntityQuery.ConditionText
