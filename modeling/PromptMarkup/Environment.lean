import PromptMarkup.Keyed
import PromptMarkup.Text.Search
/-!
# Environment — variables that stand outside the template

An environment is kept as entries `name=value`, and a variable is what
follows its name and an equals sign in an entry (`valueIn?_entry`). The
first equals sign of an entry ends the name it was set by, but a later one,
which is part of the value, ends a longer name that can be asked for as
well: where `A` is `B=C`, the variable `A=B` is `C`.
-/

namespace PromptMarkup

/-- The variables of an environment, by the names they were set by. -/
abbrev Environment := Keyed String

namespace Environment

/-- The entry of a variable. -/
def entry (name value : String) : String :=
  name ++ "=" ++ value

/-- The value that an entry gives to a name, if it begins with it. -/
def valueIn? (name entry : String) : Option String :=
  (Text.dropPrefix? (name ++ "=").toList entry.toList).map String.ofList

/-- The value of a variable: what the first entry gives that begins with its
name. -/
def value? (env : Environment) (name : String) : Option String :=
  env.findSome? fun (known, value) => valueIn? name (entry known value)

/-- **An entry gives its own name its value.** -/
theorem valueIn?_entry (name value : String) : valueIn? name (entry name value) = some value := by
  simp only [valueIn?, entry, String.toList_append, Text.dropPrefix?_append, Option.map_some,
    String.ofList_toList]

end Environment

end PromptMarkup
