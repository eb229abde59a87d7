import SearchQuery.Node.Basic
import SearchQuery.Value.Render

/-!
# Traversal

A tree is visited from the root down and from left to right.  `Node.walk` keeps the nodes still to
be visited on a stack; `Node.visits` is the same order by recursion.  A visit also tells whether
the node is the direct value of a qualifier.

A value that is no node can be met but not entered: the walk ends there with a fault.
-/

namespace SearchQuery

/-- What can be wrong with a tree. -/
inductive Fault where
  /-- A value stands where a node is asked for its parts or its text. -/
  | notANode (value : Value)
  deriving Repr, Inhabited

/-- The message of a fault, absent if the value in it has no text. -/
def Fault.message? : Fault → Option String
  | .notANode value => value.shown?.map ("Not a query node: " ++ ·)

/-- One step of a walk. -/
structure Visit where
  /-- The node that is visited. -/
  node : Node
  /-- Whether the node is the direct value of a qualifier. -/
  ofQualifier : Bool
  deriving Inhabited

namespace Node

/-- The direct parts of a node from left to right, as they are visited. -/
def parts : Node → List Visit
  | .range _ lower upper => (lower.toList ++ upper.toList).map (⟨·, false⟩)
  | .compare _ _ value => [⟨value, false⟩]
  | .qualified _ _ qualifier value => [⟨qualifier, false⟩, ⟨value, true⟩]
  | .sort _ keyword criteria => [⟨keyword, false⟩, ⟨criteria, false⟩]
  | .query _ items => items.map (⟨·, false⟩)
  | .definition _ name value _ => [⟨name, false⟩, ⟨value, false⟩]
  | .document _ lines _ => lines.map (⟨·, false⟩)
  | _ => []

/-- The fault of asking a node for its parts, if it has no parts to give. -/
def fault? : Node → Option Fault
  | .foreign value => some (.notANode value)
  | _ => none

/-- The direct parts of a node in the order of the source. -/
def children (node : Node) : Except Fault (List Node) :=
  match node.fault? with
  | some fault => .error fault
  | none => .ok (node.parts.map (·.node))

end Node

/-- The size of the trees still to be visited. -/
noncomputable def Visit.load : List Visit → Nat
  | [] => 0
  | visit :: stack => sizeOf visit.node + load stack

@[simp]
theorem Visit.load_append (front stack : List Visit) :
    load (front ++ stack) = load front + load stack := by
  induction front with
  | nil => simp [load]
  | cons visit front ih => simp [load, ih, Nat.add_assoc]

theorem Visit.load_map_le (nodes : List Node) :
    load (nodes.map (⟨·, false⟩)) ≤ sizeOf nodes := by
  induction nodes with
  | nil => simp [load]
  | cons node nodes ih => simp [load]; omega

/-- The parts of a node weigh less than the node. -/
theorem Node.load_parts_lt (node : Node) : Visit.load node.parts < sizeOf node := by
  cases node with
  | range span lower upper =>
      cases lower <;> cases upper <;> simp [parts, Visit.load] <;> omega
  | query span items =>
      have := Visit.load_map_le items
      simp [parts]
      omega
  | document span lines source =>
      have := Visit.load_map_le lines
      simp [parts]
      omega
  | _ => simp [parts, Visit.load] <;> omega

/-- What a walk has seen. -/
structure Walk where
  /-- The visits made, in order. -/
  visits : List Visit
  /-- The fault that ended the walk, if it did not reach the end of the tree. -/
  fault : Option Fault

namespace Walk

/-- The walk with one visit in front. -/
def after (visit : Visit) (walk : Walk) : Walk :=
  { walk with visits := visit :: walk.visits }

/-- The visits of a walk that met no fault. -/
def visits? (walk : Walk) : Except Fault (List Visit) :=
  match walk.fault with
  | some fault => .error fault
  | none => .ok walk.visits

/-- The walk through the trees on a stack, the first one first. -/
def ofStack : List Visit → Walk
  | [] => { visits := [], fault := none }
  | visit :: stack =>
      match visit.node.fault? with
      | some fault => { visits := [visit], fault := some fault }
      | none => (ofStack (visit.node.parts ++ stack)).after visit
termination_by stack => Visit.load stack
decreasing_by
  have := visit.node.load_parts_lt
  simp only [Visit.load_append, Visit.load]
  omega

end Walk

namespace Node

/-- The walk through a tree. -/
def walk (root : Node) : Walk := .ofStack [⟨root, false⟩]

mutual

/-- The visits of a tree, the root first and then part after part. -/
def visits (ofQualifier : Bool) : Node → List Visit
  | .range span lower upper =>
      ⟨.range span lower upper, ofQualifier⟩ :: (visitsOption lower ++ visitsOption upper)
  | .compare span operator value =>
      ⟨.compare span operator value, ofQualifier⟩ :: visits false value
  | .qualified span negated qualifier value =>
      ⟨.qualified span negated qualifier value, ofQualifier⟩ ::
        (visits false qualifier ++ visits true value)
  | .sort span keyword criteria =>
      ⟨.sort span keyword criteria, ofQualifier⟩ :: (visits false keyword ++ visits false criteria)
  | .query span items => ⟨.query span items, ofQualifier⟩ :: visitsList items
  | .definition span name value label =>
      ⟨.definition span name value label, ofQualifier⟩ :: (visits false name ++ visits false value)
  | .document span lines source => ⟨.document span lines source, ofQualifier⟩ :: visitsList lines
  | node => [⟨node, ofQualifier⟩]

/-- The visits of a boundary. -/
def visitsOption : Option Node → List Visit
  | none => []
  | some node => visits false node

/-- The visits of trees that follow each other. -/
def visitsList : List Node → List Visit
  | [] => []
  | node :: nodes => visits false node ++ visitsList nodes

end

/-- The nodes of a tree, the root first and then part after part. -/
def preorder (root : Node) : List Node := (root.visits false).map (·.node)

end Node

end SearchQuery
