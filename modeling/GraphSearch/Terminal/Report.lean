import GraphSearch.Digest.SipHash
import GraphSearch.Index.Explanation
import GraphSearch.Terminal.Style
import GraphSearch.Text.Escaped

/-!
What a person is shown: explanations, the head of a result and its records, as lines of text.
-/

namespace GraphSearch

/-- Lines as text, each with its line break. -/
def linesText (lines : List String) : String :=
  String.join (lines.map (· ++ "\n"))

/-- A value behind the name of a parameter or a property. Strings stand between quotes. -/
def Value.report (colored : Bool) : Value → String
  | .string s => escaped s
  | .null => painted colored [.dimmed] "null"
  | v => v.text

def Explanation.report (e : Explanation) (colored : Bool) : List String :=
  let paint := painted colored
  let parameter (entry : String × Value) : String :=
    "  $" ++ paint [.yellow] entry.1 ++ " = " ++ entry.2.report colored
  [paint [.bold] "Count" ++ " " ++ paint [.dimmed] ("(" ++ e.kind.label ++ ")"),
    "  " ++ paint [.cyan] e.countStatement, "",
    paint [.bold] "Fetch", "  " ++ paint [.cyan] e.fetchStatement,
    "  " ++ paint [.dimmed]
      ("sorted only below " ++ toString e.sortThreshold.toNat ++ " rows"), "",
    paint [.bold] "Parameters"] ++
    (if e.parameters.isEmpty then ["  " ++ paint [.dimmed] "none"]
      else e.parameters.map parameter) ++
    ["", paint [.bold] "Hash" ++ ": " ++ wordText e.digest]

/-- The lines above the records of a result. -/
def ResultStream.report (s : ResultStream) (colored : Bool) : List String :=
  let count := (s.resultCount?.map toString).getD "?"
  let order := if s.sorted then painted colored [.green] "sorted"
    else painted colored [.yellow] "unsorted"
  [painted colored [.bold] count ++ " " ++ painted colored [.dimmed] "matching" ++ " (" ++ order ++
      ")",
    String.ofList (List.replicate 50 '─')]

/-- The lines of the properties of a record. -/
def propertyReport (colored : Bool) (properties : Dictionary Value) : List String :=
  properties.map fun entry => "    " ++ entry.1 ++ ": " ++ entry.2.report colored

/-- The lines of the record at a position of a result. -/
def Record.report (position : Nat) (colored : Bool) (r : Record) : List String :=
  let paint := painted colored
  let place := paint [.dimmed] (toString position ++ ":")
  let number (id : Int64) : String := toString id.toInt
  match r with
  | .node n =>
    (place ++ " " ++ paint [.cyan] ("(" ++ number n.id ++ ")") ++ " " ++
        paint [.magenta] (":".intercalate n.labels)) ::
      propertyReport colored n.properties
  | .relationship r =>
    (place ++ " " ++ paint [.cyan] ("[" ++ number r.id ++ "]") ++ " (" ++ number r.start ++ ")-[" ++
        paint [.magenta] r.type ++ "]->(" ++ number r.stop ++ ")") ::
      propertyReport colored r.properties
  | .map m => place :: propertyReport colored m

end GraphSearch
