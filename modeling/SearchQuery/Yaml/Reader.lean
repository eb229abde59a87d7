import SearchQuery.Yaml.Resolve

/-!
# Values of YAML documents

The value of a document comes from its nodes.  Plain scalars are resolved, quoted ones are texts,
and of entries with the same key the last one gives the value and the first one the place.
Collections cannot be keys, and a mapping that is merged into another one is not covered.

Where a document has several problems, the one nearest to its root is reported, and of those equally
near the first one.
-/

namespace SearchQuery.Yaml

/-- A problem and the number of collections around it. -/
structure Located where
  /-- Number of collections around the problem. -/
  depth : Nat
  /-- The problem. -/
  problem : Problem
  deriving Repr

/-- A value, as far as it can be given, and the problems in it. -/
structure Outcome where
  /-- The value. -/
  value : Value
  /-- The problems, in the order of the text. -/
  problems : List Located

namespace Node

/-- The value of a scalar. -/
def scalarValue (depth : Nat) (plain : Bool) (text : String) : Outcome :=
  if plain then
    match resolve text with
    | .ok value => ⟨value, []⟩
    | .error problem => ⟨.null, [⟨depth, problem⟩]⟩
  else ⟨.text text, []⟩

/-- The value of a key in a mapping. -/
def keyValue (depth : Nat) : Node → Outcome
  | .scalar true "=" => ⟨.text "=", []⟩
  | .scalar true "<<" => ⟨.null, [⟨depth, .uncovered⟩]⟩
  | .scalar plain text => scalarValue depth plain text
  | _ => ⟨.null, [⟨depth, .malformed⟩]⟩

mutual

/-- The value of a node inside `depth` collections. -/
def value (depth : Nat) : Node → Outcome
  | .scalar plain text => scalarValue depth plain text
  | .sequence items =>
      let outcomes := values (depth + 1) items
      ⟨.list (outcomes.map (·.value)), outcomes.flatMap (·.problems)⟩
  | .mapping entries =>
      let outcomes := entryValues (depth + 1) entries
      let insert (map : List (Value × Value)) (entry : Outcome × Outcome) :=
        Value.insertEntry map entry.1.value entry.2.value
      ⟨.map (outcomes.foldl insert []),
        outcomes.flatMap fun entry => entry.1.problems ++ entry.2.problems⟩

/-- The values of nodes. -/
def values (depth : Nat) : List Node → List Outcome
  | [] => []
  | node :: nodes => value depth node :: values depth nodes

/-- The values of keys and what belongs to them. -/
def entryValues (depth : Nat) : List (Node × Node) → List (Outcome × Outcome)
  | [] => []
  | (key, item) :: entries => (keyValue depth key, value depth item) :: entryValues depth entries

end

end Node

/-- The problem nearest to the root. -/
def firstProblem? : List Located → Option Problem
  | [] => none
  | first :: others =>
      some (others.foldl (fun best other => if other.depth < best.depth then other else best)
        first).problem

/-- The value of a document, or the problem nearest to its root. -/
def Node.toValue (root : Node) : Except Problem Value :=
  let outcome := root.value 0
  match firstProblem? outcome.problems with
  | some problem => .error problem
  | none => .ok outcome.value

/-- The value of a text; a text without a document has none. -/
def read (text : String) : Except Problem Value := do
  let tokens ← Token.ofText text.toList
  match ← orMalformed (Node.ofTokens? tokens) with
  | none => return .null
  | some root => root.toValue

end SearchQuery.Yaml
