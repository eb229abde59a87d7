import SearchQuery.Yaml.Scalar

/-!
# Tokens of a YAML text

The tokens make the structure explicit that indentation gives: a block collection begins where a
column is deeper than the one before it and ends where a line goes back.  That a scalar or a flow
collection is a key shows only at the colon behind it, on the same line and not too far off, so the
tokens for it are then put in front of what was read since.

Directives, anchors, aliases, tags and block scalars are not covered.
-/

namespace SearchQuery.Yaml

/-- The tokens of a YAML text. -/
inductive Token where
  | documentStart | documentEnd
  | blockSequenceStart | blockMappingStart | blockEnd
  | flowSequenceStart | flowSequenceEnd | flowMappingStart | flowMappingEnd
  | blockEntry | flowEntry | key | value
  /-- A scalar, plain or quoted. -/
  | scalar (plain : Bool) (text : String)
  deriving DecidableEq, Repr

/-- A place at which a key may have begun. -/
structure KeyCandidate where
  /-- Number of tokens before the place. -/
  position : Nat
  /-- Whether something has to be a key there, since a line of a block mapping begins. -/
  required : Bool
  /-- The place. -/
  start : Cursor
  deriving Repr

/-- What has been read of a text. -/
structure Scan where
  /-- The place that is reached. -/
  cursor : Cursor
  /-- The tokens so far. -/
  tokens : Array Token
  /-- Column of the innermost block collection. -/
  indent : Int
  /-- Columns of the block collections around it. -/
  outer : List Int
  /-- Number of flow collections that are open. -/
  flowDepth : Nat
  /-- Whether a key may begin here. -/
  allowKey : Bool
  /-- Where a key may have begun, by the number of flow collections open there. -/
  candidates : List (Nat × KeyCandidate)

namespace Scan

/-- The beginning of a text. -/
def ofText (text : List Char) : Scan :=
  { cursor := .ofText text, tokens := #[], indent := -1, outer := [], flowDepth := 0,
    allowKey := true, candidates := [] }

/-- Whether a flow collection is open. -/
def inFlow (scan : Scan) : Bool := scan.flowDepth != 0

/-- Adds a token. -/
def push (scan : Scan) (token : Token) : Scan := { scan with tokens := scan.tokens.push token }

/-- Goes on by some characters. -/
def advance (scan : Scan) (count : Nat) : Scan :=
  { scan with cursor := scan.cursor.forward count }

/-- The place past spaces, comments and line breaks.  After a line break a key may begin, unless a
flow collection is open. -/
def skipSpace (scan : Scan) : Nat → Scan
  | 0 => scan
  | fuel + 1 =>
      let place := scan.cursor.skip (· == ' ')
      let place := if place.peek 0 = some '#' then place.skip (!isBreak ·) else place
      match place.takeBreak? with
      | some (_, after) =>
          { scan with cursor := after, allowKey := scan.allowKey || !scan.inFlow }.skipSpace fuel
      | none => { scan with cursor := place }

/-- Drops the candidates for keys that are on another line or too far off by now. -/
def dropStale (scan : Scan) : Option Scan :=
  let isStale (candidate : KeyCandidate) : Bool :=
    candidate.start.line != scan.cursor.line || 1024 < scan.cursor.index - candidate.start.index
  if scan.candidates.any fun entry => isStale entry.2 && entry.2.required then none
  else some { scan with candidates := scan.candidates.filter fun entry => !isStale entry.2 }

/-- Ends the block collections that are deeper than a column. -/
def unwind (scan : Scan) (column : Int) : Scan :=
  if scan.inFlow then scan
  else
    let ended := scan.outer.takeWhile (column < ·)
    if scan.indent ≤ column then scan
    else
      { scan with
        tokens := scan.tokens ++ List.replicate (ended.length + 1) Token.blockEnd
        indent := (scan.outer.drop ended.length).headD (-1)
        outer := scan.outer.drop (ended.length + 1) }

/-- Begins a block collection at a column if it is deeper than the innermost one. -/
def indentTo (scan : Scan) (column : Int) : Bool × Scan :=
  if scan.indent < column then
    (true, { scan with indent := column, outer := scan.indent :: scan.outer })
  else (false, scan)

/-- Begins a block collection with a token if the place is deeper than the innermost one. -/
def openBlock (scan : Scan) (token : Token) : Scan :=
  match scan.indentTo scan.cursor.column with
  | (true, deeper) => deeper.push token
  | (false, same) => same

/-- Drops the candidate for a key among the members of the innermost flow collection. -/
def dropCandidate (scan : Scan) : Option Scan :=
  match scan.candidates.lookup scan.flowDepth with
  | none => some scan
  | some candidate =>
      if candidate.required then none
      else some { scan with candidates := scan.candidates.filter (·.1 != scan.flowDepth) }

/-- Notes that a key may begin here. -/
def noteCandidate (scan : Scan) : Option Scan :=
  if scan.allowKey then do
    let scan ← scan.dropCandidate
    let required := !scan.inFlow && scan.indent == (scan.cursor.column : Int)
    return { scan with
      candidates := (scan.flowDepth, ⟨scan.tokens.size, required, scan.cursor⟩) :: scan.candidates }
  else some scan

/-- Reads the marker that begins or ends a document. -/
def takeMarker (scan : Scan) (token : Token) : Option Scan := do
  let scan ← (scan.unwind (-1)).dropCandidate
  return ({ scan with allowKey := false }.push token).advance 3

/-- Reads the beginning of a flow collection. -/
def openFlow (scan : Scan) (token : Token) : Option Scan := do
  let scan ← scan.noteCandidate
  return ({ scan with flowDepth := scan.flowDepth + 1, allowKey := true }.push token).advance 1

/-- Reads the end of a flow collection. -/
def closeFlow (scan : Scan) (token : Token) : Option Scan := do
  let scan ← scan.dropCandidate
  if scan.flowDepth = 0 then none
  else
    return ({ scan with flowDepth := scan.flowDepth - 1, allowKey := false }.push token).advance 1

/-- Reads the comma between members of a flow collection. -/
def takeFlowEntry (scan : Scan) : Option Scan := do
  let scan ← { scan with allowKey := true }.dropCandidate
  return (scan.push .flowEntry).advance 1

/-- Reads the hyphen in front of a member of a block sequence. -/
def takeBlockEntry (scan : Scan) : Option Scan := do
  if !scan.inFlow && !scan.allowKey then none
  else
    let scan := if scan.inFlow then scan else scan.openBlock .blockSequenceStart
    let scan ← { scan with allowKey := true }.dropCandidate
    return (scan.push .blockEntry).advance 1

/-- Reads the question mark in front of a key. -/
def takeKey (scan : Scan) : Option Scan := do
  if !scan.inFlow && !scan.allowKey then none
  else
    let scan := if scan.inFlow then scan else scan.openBlock .blockMappingStart
    let scan ← { scan with allowKey := !scan.inFlow }.dropCandidate
    return (scan.push .key).advance 1

/-- Puts the tokens of a key at the place where it began. -/
def insertKey (scan : Scan) (candidate : KeyCandidate) : Scan :=
  let opens := !scan.inFlow && scan.indent < (candidate.start.column : Int)
  let scan := if opens then (scan.indentTo candidate.start.column).2 else scan
  let before := scan.tokens.extract 0 candidate.position
  let since := scan.tokens.extract candidate.position scan.tokens.size
  { scan with
    tokens := before ++ (if opens then #[Token.blockMappingStart, .key] else #[Token.key]) ++ since
    candidates := scan.candidates.filter (·.1 != scan.flowDepth)
    allowKey := false }

/-- Reads the colon between a key and its value. -/
def takeValue (scan : Scan) : Option Scan := do
  match scan.candidates.lookup scan.flowDepth with
  | some candidate => return ((scan.insertKey candidate).push .value).advance 1
  | none =>
      if !scan.inFlow && !scan.allowKey then none
      else
        let scan := if scan.inFlow then scan else scan.openBlock .blockMappingStart
        let scan ← { scan with allowKey := !scan.inFlow }.dropCandidate
        return (scan.push .value).advance 1

/-- Reads a quoted scalar. -/
def takeQuoted (scan : Scan) (quote : Char) : Except Problem Scan := do
  let scan ← orMalformed scan.noteCandidate
  let (text, after) ← quotedText quote scan.cursor.next (scan.cursor.rest.length + 1)
  return { scan with allowKey := false, cursor := after }.push
    (.scalar false (String.ofList text))

/-- Reads a plain scalar. -/
def takePlain (scan : Scan) : Option Scan := do
  let scan ← scan.noteCandidate
  let scanned :=
    plainText scan.inFlow (scan.indent + 1) scan.cursor false (scan.cursor.rest.length + 1)
  return { scan with allowKey := scanned.broken, cursor := scanned.after }.push
    (.scalar true (String.ofList scanned.text))

/-- Whether a plain scalar cannot begin with the character, whatever follows it. -/
def isIndicator (c : Char) : Bool :=
  isFlowIndicator c || c == '-' || c == '?' || c == ':' || c == '#' || c == '&' || c == '*' ||
    c == '!' || c == '|' || c == '>' || c == '\'' || c == '"' || c == '%' || c == '@' ||
    c == '\x60' || isSpace c || isBreak c

/-- Whether a plain scalar begins here. -/
def beginsPlain (scan : Scan) (c : Char) : Bool :=
  !isIndicator c ||
    (!scan.cursor.endsAt 1 && (c == '-' || (!scan.inFlow && (c == '?' || c == ':'))))

/-- Whether a directive, an anchor, an alias, a tag or a block scalar begins here. -/
def beginsUncovered (scan : Scan) (c : Char) : Bool :=
  c == '&' || c == '*' || c == '!' || (!scan.inFlow && (c == '|' || c == '>')) ||
    (scan.cursor.column == 0 && c == '%')

/-- Reads the token that begins with the character `c`. -/
def takeToken (scan : Scan) (c : Char) : Except Problem Scan :=
  let marker := scan.cursor.column == 0 && scan.cursor.atMarker
  let alone := scan.cursor.endsAt 1
  if marker && c == '-' then orMalformed (scan.takeMarker .documentStart)
  else if marker && c == '.' then orMalformed (scan.takeMarker .documentEnd)
  else if c == '[' then orMalformed (scan.openFlow .flowSequenceStart)
  else if c == '\x7b' then orMalformed (scan.openFlow .flowMappingStart)
  else if c == ']' then orMalformed (scan.closeFlow .flowSequenceEnd)
  else if c == '\x7d' then orMalformed (scan.closeFlow .flowMappingEnd)
  else if c == ',' then orMalformed scan.takeFlowEntry
  else if c == '-' && alone then orMalformed scan.takeBlockEntry
  else if c == '?' && (scan.inFlow || alone) then orMalformed scan.takeKey
  else if c == ':' && (scan.inFlow || alone) then orMalformed scan.takeValue
  else if c == '\'' || c == '"' then scan.takeQuoted c
  else if scan.beginsPlain c then orMalformed scan.takePlain
  else if scan.beginsUncovered c then .error .uncovered
  else .error .malformed

/-- Ends the text. -/
def finish (scan : Scan) : Option (List Token) := do
  let scan ← (scan.unwind (-1)).dropCandidate
  return scan.tokens.toList

/-- Reads the tokens up to the end of the text. -/
def run (scan : Scan) : Nat → Except Problem (List Token)
  | 0 => .error .malformed
  | fuel + 1 => do
      let scan := scan.skipSpace (scan.cursor.rest.length + 1)
      let scan ← orMalformed scan.dropStale
      let scan := scan.unwind scan.cursor.column
      match scan.cursor.rest with
      | [] => orMalformed scan.finish
      | c :: _ => do
          let scan ← scan.takeToken c
          scan.run fuel

end Scan

/-- The tokens of a text.  A byte order mark may stand in front. -/
def Token.ofText (text : List Char) : Except Problem (List Token) :=
  if text.all isAllowed then
    let scan := Scan.ofText text
    let scan := if text.head? = some '\ufeff' then scan.advance 1 else scan
    scan.run (text.length + 2)
  else .error .malformed

end SearchQuery.Yaml
