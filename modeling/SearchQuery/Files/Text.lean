import SearchQuery.Files.Tree

/-!
# Text files

The text of a file is its content read as UTF-8, with every CR LF and every other CR replaced by a
line feed.
-/

namespace SearchQuery.Files

/-- A text in which all carriage returns, alone or in front of a line feed, are line feeds. -/
def unifyLineEnds : List Char → List Char
  | [] => []
  | '\r' :: '\n' :: rest => '\n' :: unifyLineEnds rest
  | c :: rest => (if c = '\r' then '\n' else c) :: unifyLineEnds rest

/-- The text of a file's content, if it is UTF-8. -/
def decode? (content : ByteArray) : Option String :=
  (String.fromUTF8? content).map fun text => String.ofList (unifyLineEnds text.toList)

end SearchQuery.Files
