import GraphSearch.Clause.Draft

/-!
Clause builders: from a condition to the clause that expresses it.

Each builder knows conditions of one or two kinds and has no clause for others. It also has none
for a condition that cannot be expressed, such as a comparison without a value; the search then goes
on as if the condition had not been asked for.
-/

namespace GraphSearch

/-- The property that holds the name of an entity's type. -/
def typeKey : String := "type"

/-- The property that holds the uuid of an entity. -/
def uuidKey : String := "id"

inductive ClauseBuilder where
  | array
  | comparison
  | empty
  | notEmpty
  | group
  /-- Exact values and full text. -/
  | keyword
  | range
  | relationship
  | spatial
  | type
  | uuid
deriving DecidableEq, Repr

namespace Draft

def isMissing (key : String) : Draft :=
  nullTest key "IS"

def isPresent (key : String) : Draft :=
  nullTest key "IS NOT"

def equals (key : String) (value : Value) : Draft :=
  comparison key "=" value false

/-- A comparison of a property with a value, which is null only for a test of presence. -/
def ofComparison (key : String) (operation : Comparison) (value : Value) : Draft :=
  let compare (operator : String) : Draft := comparison key operator value false
  let compareLowered (operator : String) : Draft := comparison key operator value.lowered true
  match operation with
  | .equal => compare "="
  | .notEqual => compare "<>"
  | .greater => compare ">"
  | .greaterOrEqual => compare ">="
  | .less => compare "<"
  | .lessOrEqual => compare "<="
  | .startsWith => compare "STARTS WITH"
  | .endsWith => compare "ENDS WITH"
  | .contains => compare "CONTAINS"
  | .isNull => isMissing key
  | .isNotNull => isPresent key
  | .startsWithAnyCase => compareLowered "STARTS WITH"
  | .endsWithAnyCase => compareLowered "ENDS WITH"
  | .containsAnyCase => compareLowered "CONTAINS"

/-- The characters that mean something in a regular expression. -/
def patternMarks : List Char :=
  ['\\', '.', '+', '*', '?', '(', ')', '|', '[', ']', '\x7b', '\x7d', '^', '$']

/-- The text as a regular expression for itself. -/
def escapedPattern (text : String) : String :=
  String.ofList (text.toList.flatMap fun c => if c ∈ patternMarks then ['\\', c] else [c])

/-- A property contains a text, in any case. -/
def containsText (key text : String) : Draft :=
  comparison key "=~" (.string ("(?i).*" ++ escapedPattern text ++ ".*")) false

def bound (key operator : String) (value : Value) : List DraftPart :=
  [.text (Identifier.property key ++ " " ++ operator ++ " "), .value key value]

/-- A property lies between bounds, of which a null does not count; there is no clause without
bounds. -/
def ofRange? (key : String) (low high : Value) (includeLow includeHigh : Bool) : Option Draft :=
  let lower := bound key (if includeLow then ">=" else ">") low
  let upper := bound key (if includeHigh then "<=" else "<") high
  match low.isNull, high.isNull with
  | true, true => none
  | false, true => some (composite lower)
  | true, false => some (composite upper)
  | false, false =>
    some (composite ([.text "("] ++ lower ++ [.text " AND "] ++ upper ++ [.text ")"]))

/-- An array property holds a value, or all items of a list. -/
def holds (key : String) (value : Value) : Draft :=
  match value with
  | .null => isMissing key
  | .list _ =>
    composite [.text "ALL(x IN ", .value key value,
      .text (" WHERE x IN " ++ Identifier.property key ++ ")")]
  | _ => composite [.value key value, .text (" IN " ++ Identifier.property key)]

/-- The entity lies within a distance of a point. -/
def within (latitude longitude distance : Binary64) : Draft :=
  composite [
    .text ("point.distance(point(\x7blatitude: " ++ Identifier.property "latitude" ++
      ", longitude: " ++ Identifier.property "longitude" ++ "\x7d), point(\x7blatitude: "),
    .value "latitude" (.float latitude),
    .text ", longitude: ",
    .value "longitude" (.float longitude),
    .text "\x7d)) <= ",
    .value "distance" (.float distance)]

/-- The pattern of a relationship of a type. -/
def relationshipPattern (type : String) (direction : Direction) : String :=
  let edge := "[:" ++ Identifier.quoted type ++ "]"
  let entity := "(" ++ Identifier.entity ++ ")"
  match direction with
  | .outgoing => entity ++ "-" ++ edge ++ "->(m)"
  | .incoming => entity ++ "<-" ++ edge ++ "-(m)"
  | .both => entity ++ "-" ++ edge ++ "-(m)"

/-- A relationship exists, to the entity with a uuid if one is given. -/
def isRelated (type : String) (direction : Direction) (related : Option String) : Draft :=
  let pattern := relationshipPattern type direction
  match related with
  | none => composite [.text ("EXISTS \x7b " ++ pattern ++ " \x7d")]
  | some uuid =>
    composite [
      .text ("EXISTS \x7b " ++ pattern ++ " WHERE m." ++ Identifier.quoted uuidKey ++ " = "),
      .value uuidKey (.string uuid),
      .text " \x7d"]

end Draft

/-- The clause for a condition on the property `name?`, if the builder has one. -/
def ClauseBuilder.draft? (t : ClauseBuilder) (kind : EntityKind) (name? : Option String)
    (condition : Condition) : Option Draft :=
  match t, condition, name? with
  | .comparison, .comparison operation value, some name =>
    if value.stored.isNull && !operation.isNullTest then none
    else some (.ofComparison name operation value.stored)
  | .range, .range low high includeLow includeHigh, some name =>
    Draft.ofRange? name low high includeLow includeHigh
  | .keyword, .exact value, some name =>
    some (if value.isNull then .isMissing name else .equals name value)
  | .keyword, .fulltext value, some name =>
    some (match value with
      | .null => .isMissing name
      | .string text => .containsText name text
      | _ => .equals name value)
  | .array, .array value, some name => some (.holds name value)
  | .notEmpty, .notEmpty, some name => some (.isPresent name)
  | .empty, .empty, some name => some (.isMissing name)
  | .type, .type typeName, _ => some (.equals typeKey (.string typeName))
  | .uuid, .uuid id, _ => some (.equals uuidKey (.string id))
  | .spatial, .spatial latitude longitude distance, _ =>
    if latitude.isFinite && longitude.isFinite && distance.isFinite then
      some (.within latitude longitude distance)
    else none
  | .relationship, .relationship relType direction related, _ =>
    if relType.isEmpty || kind == .relationship then none
    else some (.isRelated relType direction related)
  | _, _, _ => none

end GraphSearch
