import Gamebook.Held
import Gamebook.Text.Lines

/-!
# Files and findings

Things that routines hold: the file of a story, the piece of a text that was found by a pattern, and
the reader of bytes. By the time a fault is told, files are closed.
-/

namespace Gamebook.Held

/-! ## Files -/

/-- The kinds of line ends that occur: none, a single one by itself, or a row of them. -/
def lineEnds (used : Text.LineEnds) : Held :=
  let all := [("\r", used.single), ("\n", used.feed), ("\r\n", used.both)]
  match (all.filter (·.2)).map (·.1) with
  | [] => null
  | [one] => text one
  | row => texts row

/-- The name of a file in the text of a thing. -/
def named (path : String) : List Char := "name=".toList ++ Text.quote path.toList

/-- The bytes of a file as the disk has them. -/
def rawFile (path : String) : Held :=
  .thing "_io.FileIO" "<_io.FileIO [closed]>".toList
    [("name", text path), ("mode", text "rb"), ("closefd", bool true), ("closed", bool true),
     ("_blksize", int 4096), ("_finalizing", bool false), ("__IOBase_closed", bool true),
     ("__dict__", .table [("name", text path), ("__IOBase_closed", bool true)])]
    []

/-- The bytes of a file as they are read. -/
def byteFile (path : String) : Held :=
  .thing "_io.BufferedReader" ("<_io.BufferedReader ".toList ++ named path ++ ['>'])
    [("raw", rawFile path), ("name", text path), ("mode", text "rb"), ("closed", bool true),
     ("_finalizing", bool false), ("__dict__", .table [])]
    []

/-- A file that is read as a text. -/
def file (path : String) (used : Text.LineEnds) : Held :=
  .thing "_io.TextIOWrapper"
    ("<_io.TextIOWrapper ".toList ++ named path ++ " mode='r' encoding='utf-8'>".toList)
    [("name", text path), ("mode", text "r"), ("encoding", text "utf-8"), ("errors", text "strict"),
     ("newlines", lineEnds used), ("buffer", byteFile path), ("closed", bool true),
     ("line_buffering", bool false), ("write_through", bool false), ("_CHUNK_SIZE", int 8192),
     ("_finalizing", bool false), ("__dict__", .table [("mode", text "r")])]
    []

/-- The reader of bytes, before it has read any. -/
def decoder : Held :=
  .thing "encodings.utf_8.IncrementalDecoder"
    (placed "encodings.utf_8.IncrementalDecoder object")
    [("errors", text "strict"), ("buffer", .bytes []),
     ("__dict__", .table [("errors", text "strict"), ("buffer", .bytes [])])]
    []

/-! ## Patterns and findings -/

/-- A flag of a pattern, by its name and its bit. -/
def flag (name : String) (bit : Nat) : Held :=
  .thing "re.RegexFlag" ("re." ++ name).toList
    [("name", text name), ("value", int bit), ("_name_", text name), ("_value_", int bit),
     ("real", int bit), ("imag", int 0), ("numerator", int bit), ("denominator", int 1)]
    []


/-- A piece of a text, by its start and its end. -/
abbrev Span := Nat × Nat

/-- The piece of a text at a span. -/
def piece (cs : List Char) (span : Span) : List Char := (cs.take span.2).drop span.1

/-- A span as a row of two numbers. -/
def ofSpan (span : Span) : Held := .tuple [int span.1, int span.2]

/-- The most characters of a quoted pattern that are shown. -/
def maxPattern : Nat := 200

/-- The most characters of a quoted piece that are shown. -/
def maxPiece : Nat := 50

/-- A pattern with a number of groups. -/
def pattern (source : String) (groups : Nat) : Held :=
  .thing "re.Pattern"
    ("re.compile(".toList ++ (Text.quote source.toList).take maxPattern ++ [')'])
    [("pattern", text source), ("flags", int 32), ("groups", int groups), ("groupindex", .table [])]
    []

/-- What a pattern has found in a text: the span of the whole, and the spans of its groups. -/
def found (source : String) (cs : List Char) (whole : Span) (groups : List Span) : Held :=
  let spans := whole :: groups
  .thing "re.Match"
    ("<re.Match object; span=".toList ++ literal [] (ofSpan whole) ++ ", match=".toList ++
      (Text.quote (piece cs whole)).take maxPiece ++ ['>'])
    [("string", chars cs), ("re", pattern source groups.length), ("pos", int 0),
     ("endpos", int cs.length), ("lastindex", int groups.length), ("lastgroup", null),
     ("regs", .tuple (spans.map ofSpan))]
    (spans.map fun span => chars (piece cs span))

end Gamebook.Held
