import Gamebook.World

/-!
# Speech

Someone says something, and a pause may follow.
-/

namespace Gamebook

open Play

/-- Lets `name` say a text, and then waits if the pause is longer than nothing. -/
def say (text name : String) (seconds : Binary64) : Play Unit := do
  tell "dialogue_format" [.text name, .text text]
  if seconds.isPositive then pause seconds

end Gamebook
