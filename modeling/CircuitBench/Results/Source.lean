import CircuitBench.Text.LowerCase

/-!
# Sources of results

A `Source` is one of the pattern matching algorithms whose results are compared. It has a label,
which is read in any case, and a folder.
-/

namespace CircuitBench

/-- A pattern matching algorithm whose results are compared. -/
inductive Source where
  | quartz
  | portmatching
deriving DecidableEq, Repr

namespace Source

/-- The sources in the order in which their results are put together. -/
def all : List Source := [.quartz, .portmatching]

/-- The name shown for a source. -/
def label : Source → String
  | .quartz => "Quartz"
  | .portmatching => "Portmatching"

/-- The folder of a source below the results folder. -/
def folder : Source → String
  | .quartz => "quartz"
  | .portmatching => "portmatching"

/-- The source with a name, in any case. -/
def read? (name : String) : Option Source :=
  let word := String.ofList (Text.lowerCase name.toList)
  all.find? (·.folder == word)

/-- The wording for a name that is none of a source. -/
def unknownMessage (name : String) : String :=
  "unknown pattern matching algorithm: " ++ String.ofList (Text.lowerCase name.toList)

end Source

end CircuitBench
