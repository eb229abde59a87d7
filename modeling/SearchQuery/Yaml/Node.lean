import SearchQuery.Yaml.Token

/-!
# Nodes of a YAML document

The tree that the tokens of a document spell out.  Between the tokens of a collection a node may be
left out, which makes an empty plain scalar.  A text holds one document at most.
-/

namespace SearchQuery.Yaml

/-- A node of a document. -/
inductive Node where
  /-- A scalar, plain or quoted. -/
  | scalar (plain : Bool) (text : String)
  /-- A sequence of nodes. -/
  | sequence (items : List Node)
  /-- Keys and values, in order. -/
  | mapping (entries : List (Node × Node))
  deriving Repr, Inhabited

namespace Node

/-- The node that stands for one that is left out. -/
def empty : Node := .scalar true ""

/-- Whether the next token is one of those given. -/
def isNext (expected : List Token) (tokens : List Token) : Bool :=
  tokens.head?.any (· ∈ expected)

/-- Something that was read and the tokens after it. -/
abbrev Parsed (α : Type) : Type := α × List Token

/-- A way to read a node. -/
abbrev Reading : Type := List Token → Option (Parsed Node)

/-- Reads a node unless the next token is one that can follow it. -/
def orEmpty (read : Reading) (follows : List Token) (tokens : List Token) : Option (Parsed Node) :=
  if isNext follows tokens then some (empty, tokens) else read tokens

/-- Reads a value behind its colon; without a colon the value is left out. -/
def valueOrEmpty (read : Reading) (follows : List Token) : List Token → Option (Parsed Node)
  | .value :: tokens => orEmpty read follows tokens
  | tokens => some (empty, tokens)

/-- Reads the members of a block sequence up to its end. -/
def blockItems (read : Reading) : Nat → List Token → Option (Parsed (List Node))
  | 0, _ => none
  | fuel + 1, tokens =>
      match tokens with
      | .blockEntry :: tokens => do
          let (item, tokens) ← orEmpty read [.blockEntry, .blockEnd] tokens
          let (items, tokens) ← blockItems read fuel tokens
          return (item :: items, tokens)
      | .blockEnd :: tokens => some ([], tokens)
      | _ => none

/-- Reads the members of a block sequence at the column of the key it belongs to. -/
def flatItems (read : Reading) : Nat → List Token → Option (Parsed (List Node))
  | 0, _ => none
  | fuel + 1, tokens =>
      match tokens with
      | .blockEntry :: tokens => do
          let (item, tokens) ← orEmpty read [.blockEntry, .key, .value, .blockEnd] tokens
          let (items, tokens) ← flatItems read fuel tokens
          return (item :: items, tokens)
      | tokens => some ([], tokens)

/-- Reads the entries of a block mapping up to its end. -/
def blockEntries (read : Reading) : Nat → List Token → Option (Parsed (List (Node × Node)))
  | 0, _ => none
  | fuel + 1, tokens =>
      let follows := [Token.key, .value, .blockEnd]
      match tokens with
      | .key :: tokens => do
          let (key, tokens) ← orEmpty read follows tokens
          let (value, tokens) ← valueOrEmpty read follows tokens
          let (entries, tokens) ← blockEntries read fuel tokens
          return ((key, value) :: entries, tokens)
      | .blockEnd :: tokens => some ([], tokens)
      | _ => none

/-- Reads an entry of a flow mapping, or the only entry of a mapping in a flow sequence. -/
def flowEntry (read : Reading) (ending : Token) : List Token → Option (Parsed (Node × Node))
  | .key :: tokens => do
      let (key, tokens) ← orEmpty read [.value, .flowEntry, ending] tokens
      let (value, tokens) ← valueOrEmpty read [.flowEntry, ending] tokens
      return ((key, value), tokens)
  | tokens => do
      let (key, tokens) ← read tokens
      return ((key, empty), tokens)

/-- Reads a member of a flow sequence. -/
def flowItem (read : Reading) (tokens : List Token) : Option (Parsed Node) :=
  if isNext [.key] tokens then do
    let (entry, tokens) ← flowEntry read .flowSequenceEnd tokens
    return (.mapping [entry], tokens)
  else read tokens

/-- Reads the members of a flow collection up to its end.  A comma may stand behind the last. -/
def flowMembers {α : Type} (read : List Token → Option (Parsed α)) (ending : Token) :
    Nat → List Token → Option (Parsed (List α))
  | 0, _ => none
  | fuel + 1, tokens =>
      if isNext [ending] tokens then some ([], tokens.drop 1)
      else do
        let (member, tokens) ← read tokens
        match tokens with
        | .flowEntry :: tokens =>
            let (members, tokens) ← flowMembers read ending fuel tokens
            return (member :: members, tokens)
        | tokens => if isNext [ending] tokens then some ([member], tokens.drop 1) else none

/-- Reads a node.  A block collection may stand only outside flow collections, and a block sequence
at the column of its key only as the key or value of a block mapping. -/
def read (block indentless : Bool) : Nat → Reading
  | 0, _ => none
  | fuel + 1, tokens =>
      let count := tokens.length + 1
      match tokens with
      | .scalar plain text :: tokens => some (.scalar plain text, tokens)
      | .flowSequenceStart :: tokens => do
          let (items, tokens) ←
            flowMembers (flowItem (read false false fuel)) .flowSequenceEnd count tokens
          return (.sequence items, tokens)
      | .flowMappingStart :: tokens => do
          let (entries, tokens) ←
            flowMembers (flowEntry (read false false fuel) .flowMappingEnd) .flowMappingEnd count
              tokens
          return (.mapping entries, tokens)
      | .blockSequenceStart :: tokens =>
          if block then do
            let (items, tokens) ← blockItems (read true false fuel) count tokens
            return (.sequence items, tokens)
          else none
      | .blockMappingStart :: tokens =>
          if block then do
            let (entries, tokens) ← blockEntries (read true true fuel) count tokens
            return (.mapping entries, tokens)
          else none
      | .blockEntry :: tokens =>
          if indentless then do
            let (items, tokens) ← flatItems (read true false fuel) count (.blockEntry :: tokens)
            return (.sequence items, tokens)
          else none
      | _ => none

/-- Reads the content of a document that a marker begins. -/
def afterMarker (tokens : List Token) : Option (Parsed Node) :=
  if tokens.isEmpty || isNext [.documentStart, .documentEnd] tokens then some (empty, tokens)
  else read true false (tokens.length + 1) tokens

/-- Reads a document. -/
def document : List Token → Option (Parsed Node)
  | .documentStart :: tokens => afterMarker tokens
  | tokens => read true false (tokens.length + 1) tokens

/-- The only document of a stream of tokens, which may be absent. -/
def ofTokens? : List Token → Option (Option Node)
  | [] => some none
  | tokens => do
      let (node, rest) ← document tokens
      if rest.all (· == .documentEnd) then return some node else none

end Node

end SearchQuery.Yaml
