import Gamebook.Disk
import Gamebook.Json.Display

/-!
# Faults

Everything that can end a command early, by its cause. `message` is the wording that players see,
`label` the name of the kind, and `details` the parts the message is made from, which a language
pack may pick out one by one.
-/

namespace Gamebook

/-- What went wrong. -/
inductive Fault where
  /-- A text is not a whole number. -/
  | notNumber (text : String)
  /-- A text starts with a number of too many digits. -/
  | numberTooLong (digits : Nat)
  /-- A file is no text: its bytes and the first bad piece. -/
  | notText (content : List UInt8) (fault : Text.Utf8.Fault)
  /-- The language is a list or a dictionary, which cannot be looked up. -/
  | notLanguage (value : Json)
  /-- A pack gives something that is not a text where words are exchanged. -/
  | notWords (value : Json)
  /-- A path could not be used. -/
  | disk (failure : Disk.Failure) (path : String)
  /-- There is no further answer; `ranOut` tells whether the answers were used up. -/
  | endOfInput (ranOut : Bool)
  /-- The player broke off. -/
  | interrupted

/-- One of the parts a fault's message is made from. -/
inductive Detail where
  | value (v : Json)
  | bytes (content : List UInt8)

/-- A detail spelled out. -/
def Detail.literal : Detail → List Char
  | .value v => v.literal
  | .bytes content => Text.quoteBytes content

namespace Fault

/-- What is wrong with a bad piece of a file, in words. -/
def reasonText : Text.Utf8.Reason → String
  | .start => "invalid start byte"
  | .continuation => "invalid continuation byte"
  | .truncated => "unexpected end of data"

/-- The name of a fault's kind. -/
def label : Fault → String
  | .notNumber _ => "ValueError"
  | .numberTooLong _ => "ValueError"
  | .notText .. => "UnicodeDecodeError"
  | .notLanguage _ => "TypeError"
  | .notWords _ => "AttributeError"
  | .disk .missing _ => "FileNotFoundError"
  | .disk .notFolder _ => "NotADirectoryError"
  | .disk .isFolder _ => "IsADirectoryError"
  | .disk .exists _ => "FileExistsError"
  | .endOfInput _ => "EOFError"
  | .interrupted => "KeyboardInterrupt"

/-- The decimal text of a count. -/
def count (n : Nat) : String := String.ofList (Nat.toDigits 10 n)

/-- The place of a bad piece in a file, and its byte if it is a single one. -/
def badPiece (content : List UInt8) (fault : Text.Utf8.Fault) : String :=
  if fault.stop = fault.first + 1 then
    let byte := (content[fault.first]?.getD 0).toNat
    "byte 0x" ++ String.ofList (Text.hexDigits 2 byte) ++ " in position " ++ count fault.first
  else
    "bytes in position " ++ count fault.first ++ "-" ++ count (fault.stop - 1)

/-- The most characters of a quoted text that a message shows. -/
def maxQuoted : Nat := 200

/-- A fault in words. -/
def message : Fault → String
  | .notNumber text =>
    "invalid literal for int() with base 10: " ++
      String.ofList ((Text.quote text.toList).take maxQuoted)
  | .numberTooLong digits =>
    "Exceeds the limit (" ++ count Whole.maxDigits ++
      " digits) for integer string conversion: value has " ++ count digits ++
      " digits; use sys.set_int_max_str_digits() to increase the limit"
  | .notText content fault =>
    "'utf-8' codec can't decode " ++ badPiece content fault ++ ": " ++ reasonText fault.reason
  | .notLanguage value => "unhashable type: '" ++ value.kind ++ "'"
  | .notWords value => "'" ++ value.kind ++ "' object has no attribute 'replace'"
  | .disk failure path =>
    "[Errno " ++ count failure.code ++ "] " ++ failure.text ++ ": " ++ Text.quoted path
  | .endOfInput ranOut => if ranOut then "EOF when reading a line" else ""
  | .interrupted => ""

/-- The parts of a fault's message. -/
def details : Fault → List Detail
  | .notText content fault =>
    [.value (.str "utf-8"), .bytes content, .value (.int fault.first), .value (.int fault.stop),
      .value (.str (reasonText fault.reason))]
  | .disk failure _ => [.value (.int failure.code), .value (.str failure.text)]
  | .endOfInput false => []
  | .interrupted => []
  | f => [.value (.str f.message)]

/-- Texts in parentheses. A single one has a comma behind it. -/
def inParentheses (texts : List (List Char)) : List Char :=
  match texts with
  | [] => ['(', ')']
  | [cs] => '(' :: (cs ++ [',', ')'])
  | cs :: texts => '(' :: (cs ++ texts.flatMap (fun cs => ',' :: ' ' :: cs) ++ [')'])

/-- A fault spelled out: its kind, and its details in parentheses. -/
def literal (f : Fault) : List Char :=
  f.label.toList ++
    match f.details with
    | [d] => '(' :: (d.literal ++ [')'])
    | ds => inParentheses (ds.map Detail.literal)

end Fault

end Gamebook
