import GraphSchema.Text.Segments
import GraphSchema.Options.Error

/-!
Paths of files, as far as options need them: the name of the last component and its extension.
-/

namespace GraphSchema.FilePath

open Text

/-- The last component that is neither empty nor a single dot, unless it leads up. -/
def fileName? (path : String) : Option String :=
  match ((fields '/' path).filter fun part => part ≠ "" && part ≠ ".").getLast? with
  | some ".." => none
  | name => name

def extension? (path : String) : Option String := do
  let name ← fileName? path
  let (reversed, rest) ← splitFirst '.' name.toList.reverse
  if rest = [] then none else some (String.ofList reversed.reverse)

def format (path : String) : Except OptionsError FileFormat :=
  match ((extension? path).getD "").toList.map Char.toLower with
  | ['j', 's', 'o', 'n'] => .ok .json
  | ['y', 'a', 'm', 'l'] | ['y', 'm', 'l'] => .ok .yaml
  | ['t', 'o', 'm', 'l'] => .ok .toml
  | _ => .error (.unsupportedFormat path)

end GraphSchema.FilePath
