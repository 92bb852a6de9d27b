import Gamebook.Disk
import Gamebook.Json.Reader
import Gamebook.Text.Lines

/-!
# JSON in files

Settings and language packs are files of JSON. `Disk.json?` reads one, and gives nothing if there is
no such file, or if it is not text, or if the text is not JSON.
-/

namespace Gamebook

/-- The value in the file at a path. Inside of its outermost list or object, `inner` more may stand
    one in the other. -/
def Disk.json? (inner : Nat) (d : Disk) (path : String) : Option Json := do
  let content ← (d.read path).toOption
  let cs ← (Text.Utf8.decode content).toOption
  Json.parse inner (Text.unifyLineEnds cs)

end Gamebook
