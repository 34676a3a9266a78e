import PromptMarkup.Context
import PromptMarkup.Environment
import PromptMarkup.Function
import PromptMarkup.Tag
/-!
# Resolver — tags with a meaning of their own

A resolver turns a tag into text. It sees the context of the tag, the
attributes and the setting of the render, and it may refuse attributes when
the template is read. A block resolver's text stands before the content of
its tag; it never sees that content. What a resolver gives depends on what it
sees and on nothing else, so code with a state of its own is outside of this
model, as it is for functions.
-/

namespace PromptMarkup

/-- What a resolver sees of the render: the template it stands in and that
template's configuration, the functions of the engine and the variables of
the environment. -/
structure Setting where
  template : String
  config : Option Value
  functions : Functions
  environment : Environment

/-- A tag with a meaning of its own. -/
structure Resolver where
  tag : String
  shape : TagShape := .selfClosing
  validate : Attributes → Except Failure Unit := fun _ => .ok ()
  resolve : Context → Setting → Attributes → Except Failure String

namespace Resolver

/-- Refuses a tag in which an attribute is missing or blank. -/
def require (tag name : String) (attrs : Attributes) : Except Failure Unit :=
  match attrs.filled? name with
  | some _ => .ok ()
  | none => .error (.parse (.missingAttribute tag name) none)

/-- The value of an environment variable, or else the default. -/
def env : Resolver where
  tag := Tag.env
  validate := require Tag.env "name"
  resolve _ setting attrs :=
    let name := attrs.getD "name" ""
    match (setting.environment.value? name).or (attrs.get? "default") with
    | some text => .ok text
    | none => .error (.render (.environmentUnset name) none none)

/-- A value of the template's configuration, or else the default. -/
def config : Resolver where
  tag := Tag.config
  validate := require Tag.config "key"
  resolve _ setting attrs :=
    let key := attrs.getD "key" ""
    let found := setting.config.bind (·.lookup? key)
    match (found.map Value.shown).or (attrs.get? "default") with
    | some text => .ok text
    | none => .error (.render (.configurationMissing key) none none)

end Resolver

/-- The resolvers of an engine, by the name of their tag. -/
abbrev Resolvers := Keyed Resolver

namespace Resolvers

/-- The resolvers that every engine has. -/
def builtin : Resolvers :=
  Keyed.ofEntries [(Tag.env, .env), (Tag.config, .config)]

/-- The fault in registering a tag of this name. -/
def fault? (rs : Resolvers) (name : String) : Option RegistrationFault :=
  if Text.isBlankText name then some .emptyTagName
  else if Tag.isStructural name then some (.reservedTag name)
  else if Keyed.has rs name then some (.resolverTaken name)
  else none

/-- Adds a resolver whose tag is free. -/
def register (rs : Resolvers) (r : Resolver) : Except Failure Resolvers :=
  match fault? rs r.tag with
  | some fault => .error (.registration fault)
  | none => .ok (Keyed.insert r.tag r rs)

/-- A tag of this name has a meaning. -/
def knows (rs : Resolvers) (name : String) : Bool :=
  Tag.isStructural name || Keyed.has rs name

end Resolvers

end PromptMarkup
