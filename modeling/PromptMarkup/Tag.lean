import PromptMarkup.Token.Reader
/-!
# Tag — the names of the tags with a fixed meaning

Structural tags are part of the language: they write out variables, choose
and repeat parts of a template and combine templates. All other names
belong to resolvers, two of which every engine has.
-/

namespace PromptMarkup

namespace Tag

def var : String := "prompty.var"
def ifTag : String := "prompty.if"
def elseIfTag : String := "prompty.elseif"
def elseTag : String := "prompty.else"
def forTag : String := "prompty.for"
def includeTag : String := "prompty.include"
def extendsTag : String := "prompty.extends"
def block : String := "prompty.block"
def parent : String := "prompty.parent"
def message : String := "prompty.message"
def env : String := "prompty.env"
def config : String := "prompty.config"

/-- The tags that are part of the language. No resolver may take their
names. -/
def structural : List String :=
  [var, ifTag, elseIfTag, elseTag, forTag, includeTag, extendsTag, block, parent, message,
   Token.rawTag, Token.commentTag]

/-- The name of a structural tag. -/
def isStructural (name : String) : Bool :=
  structural.contains name

end Tag

end PromptMarkup
