/-!
# Line ends and words

`unifyLineEnds` turns every kind of line end into `\n`, `lineEnds` tells which kinds occur, and
`replaceAll` exchanges a word for another.
-/

namespace Gamebook.Text

/-- A text whose line ends, `\r\n` or a single `\r`, have all become `\n`. -/
def unifyLineEnds : List Char → List Char
  | [] => []
  | '\r' :: '\n' :: cs => '\n' :: unifyLineEnds cs
  | c :: cs => (if c = '\r' then '\n' else c) :: unifyLineEnds cs

/-- The kinds of line ends that occur in a text: a single `\r`, a single `\n`, and `\r\n`. -/
structure LineEnds where
  single : Bool := false
  feed : Bool := false
  both : Bool := false
  deriving DecidableEq, Repr

/-- The kinds of line ends in a text, together with those found before it. -/
def lineEndsFrom (found : LineEnds) : List Char → LineEnds
  | [] => found
  | '\r' :: '\n' :: cs => lineEndsFrom { found with both := true } cs
  | c :: cs =>
    if c = '\r' then lineEndsFrom { found with single := true } cs
    else if c = '\n' then lineEndsFrom { found with feed := true } cs
    else lineEndsFrom found cs

/-- The kinds of line ends in a text. -/
def lineEnds (cs : List Char) : LineEnds := lineEndsFrom {} cs

/-- Exchanges `old` for `new` in a text whose first `skip` characters belong to an occurrence that
    is already exchanged. -/
def replaceFrom {α : Type} [BEq α] (old new : List α) : (skip : Nat) → List α → List α
  | _, [] => []
  | skip + 1, _ :: cs => replaceFrom old new skip cs
  | 0, c :: cs =>
    if old.isPrefixOf (c :: cs) then new ++ replaceFrom old new (old.length - 1) cs
    else c :: replaceFrom old new 0 cs

/-- Exchanges every occurrence of `old`, which is not empty, for `new`, from left to right. -/
def replaceAll {α : Type} [BEq α] (old new cs : List α) : List α := replaceFrom old new 0 cs

example : unifyLineEnds ['a', '\r', '\n', 'b', '\r', '\r'] = ['a', '\n', 'b', '\n', '\n'] := by
  decide
example : lineEnds ['a', '\n', '\r', '\n', '\r'] = ⟨true, true, true⟩ := by decide
example : replaceAll ['a', 'a'] ['x'] ['a', 'a', 'a', 'b'] = ['x', 'a', 'b'] := by decide

end Gamebook.Text
