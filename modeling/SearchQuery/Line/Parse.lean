import SearchQuery.Line.Grammar

/-!
# Reading a line

A line is accepted with its node or rejected with an error.  The error stands at the farthest place
at which some token was looked for in vain, and names all tokens looked for there, each once and in
the order in which they were first tried.
-/

namespace SearchQuery.Line

/-- Why a line cannot be read. -/
structure SyntaxError where
  /-- Offset in the line. -/
  offset : Nat
  /-- The tokens any of which could have stood there. -/
  expected : List Token
  deriving DecidableEq, Repr

namespace SyntaxError

/-- The message of an error. -/
def message (error : SyntaxError) : String :=
  "Expected " ++ " or ".intercalate (error.expected.map Token.label)

/-- The error that the failures of a line amount to. -/
def ofFailures (failures : List Failure) : SyntaxError :=
  let farthest := (failures.map (·.offset)).foldl max 0
  { offset := farthest
    expected := ((failures.filter (·.offset == farthest)).map (·.token)).eraseDups }

end SyntaxError

/-- The node of a line, with offsets counted from its beginning. -/
def parse (content : List Char) : Except SyntaxError Node :=
  let reading := line ⟨0, content⟩
  match reading.found with
  | some (node, _) => .ok node
  | none => .error (.ofFailures reading.failures)

end SearchQuery.Line
