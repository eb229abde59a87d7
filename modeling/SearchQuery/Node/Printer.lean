import SearchQuery.Node.Traversal

/-!
# Printing nodes

A node is printed as query text.  Words are cut from the text the tree was read from, operators and
separators are written afresh, and a variable is replaced by what `lookup` finds under its name:
nothing, if it finds nothing.
-/

namespace SearchQuery

namespace Node

mutual

/-- The query text of a node whose words stand in `source`. -/
def print (source : List Char) (lookup : String → Option String) : Node → Except Fault String
  | .literal span _ => .ok (String.ofList (span.slice source))
  | .number span _ => .ok (String.ofList (span.slice source))
  | .date span _ => .ok (String.ofList (span.slice source))
  | .mark span _ => .ok (String.ofList (span.slice source))
  | .variable _ name _ => .ok ((lookup name).getD "")
  | .missing _ _ => .ok ""
  | .range _ lower upper => do
      let lower ← printOption source lookup lower
      let upper ← printOption source lookup upper
      return lower ++ ".." ++ upper
  | .compare _ operator value => do
      let value ← print source lookup value
      return operator ++ value
  | .qualified _ negated qualifier value => do
      let qualifier ← print source lookup qualifier
      let value ← print source lookup value
      return (if negated then "-" else "") ++ qualifier ++ ":" ++ value
  | .sort _ keyword criteria => do
      let keyword ← print source lookup keyword
      let criteria ← print source lookup criteria
      return keyword ++ ":" ++ criteria
  | .definition _ name value _ => do
      let value ← print source lookup value
      return name.word ++ "=" ++ value
  | .query _ items => do
      let items ← printList source lookup items
      return " ".intercalate items
  | .document _ lines _ => do
      let lines ← printList source lookup lines
      return "\n".intercalate lines
  | .foreign value => .error (.notANode value)

/-- The query text of a boundary. -/
def printOption (source : List Char) (lookup : String → Option String) :
    Option Node → Except Fault String
  | none => .ok ""
  | some node => print source lookup node

/-- The query texts of nodes. -/
def printList (source : List Char) (lookup : String → Option String) :
    List Node → Except Fault (List String)
  | [] => .ok []
  | node :: nodes => do
      let text ← print source lookup node
      let texts ← printList source lookup nodes
      return text :: texts

end

end Node

end SearchQuery
