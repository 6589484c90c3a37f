import GraphSearch.Predicate.Basic

/-!
The names under which the parts of a predicate appear in documents.
-/

namespace GraphSearch

/-- The name of a member of a table of names. -/
def nameIn {α : Type} [DecidableEq α] (names : List (String × α)) (x : α) : String :=
  match names.find? fun entry => entry.2 = x with
  | some (name, _) => name
  | none => ""

def Occurrence.names : List (String × Occurrence) :=
  [("must", must), ("should", should), ("must_not", mustNot)]

def Comparison.names : List (String × Comparison) :=
  [("equal", equal), ("notEqual", notEqual), ("greater", greater),
    ("greaterOrEqual", greaterOrEqual), ("less", less), ("lessOrEqual", lessOrEqual),
    ("isNull", isNull), ("isNotNull", isNotNull), ("startsWith", startsWith),
    ("endsWith", endsWith), ("contains", contains),
    ("caseInsensitiveStartsWith", startsWithAnyCase),
    ("caseInsensitiveEndsWith", endsWithAnyCase), ("caseInsensitiveContains", containsAnyCase)]

def Combinator.names : List (String × Combinator) :=
  [("and", and), ("or", or)]

def Direction.names : List (String × Direction) :=
  [("outgoing", outgoing), ("incoming", incoming), ("both", both)]

def SortMode.names : List (String × SortMode) :=
  [("lexical", lexical), ("numeric", numeric)]

def PredicateKind.names : List (String × PredicateKind) :=
  [("comparison", comparison), ("range", range), ("fulltext", fulltext), ("exact", exact),
    ("spatial", spatial), ("array", array), ("type", type), ("uuid", uuid),
    ("relationship", relationship), ("not_empty", notEmpty), ("empty", empty), ("group", group)]

end GraphSearch
