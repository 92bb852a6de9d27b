import Gamebook.Number.Binary64
import Gamebook.Table
import Gamebook.Wording

/-!
# JSON values

Language packs and settings are JSON. An object keeps its fields as a table: in the order in which
their names first appeared, a name that comes again changing the value in place.
-/

namespace Gamebook

/-- A JSON value. Numbers without a fraction are unbounded. -/
inductive Json where
  | null
  | bool (b : Bool)
  | int (n : Int)
  | float (x : Binary64)
  | str (w : Wording)
  | arr (items : List Json)
  | obj (fields : List (Wording × Json))
  deriving Inhabited

namespace Json

/-- The word by which messages call the kind of a value. -/
def kind : Json → String
  | .null => "NoneType"
  | .bool _ => "bool"
  | .int _ => "int"
  | .float _ => "float"
  | .str _ => "str"
  | .arr _ => "list"
  | .obj _ => "dict"

end Json

end Gamebook
