import PromptMarkup.Expr.Symbol
/-!
# Failure — faults of a text

What can be wrong with a template source, a condition or the value of an
attribute when it is read, and how each fault is put into words.
-/

namespace PromptMarkup

/-- What is wrong with a condition. Offsets are bytes of the condition. -/
inductive ExprFault where
  | assignment (offset : Nat)
  | singleAmpersand (offset : Nat)
  | singleBar (offset : Nat)
  | unexpectedCharacter (c : Char) (offset : Nat)
  | malformedPath (path : String) (offset : Nat)
  | unterminatedString (offset : Nat)
  | empty
  | unexpectedEnd
  | unexpectedSymbol (symbol : Expr.Symbol) (offset : Nat)
  | chainedComparison
  | invalidNumeral (text : String)
  | invalidFunctionName (name : String)
  | missingParenthesis
  | unclosedArguments
  deriving DecidableEq, Repr

/-- The wording of a fault that lies between two symbols of a condition. -/
def ExprFault.lexical (wording : String) (offset : Nat) : String :=
  s!"{wording} (offset {offset} in expression)"

/-- The wording of a fault in a condition. -/
def ExprFault.message : ExprFault → String
  | .assignment offset => lexical "assignment is not supported, use '=='" offset
  | .singleAmpersand offset => lexical "unexpected '&', use '&&'" offset
  | .singleBar offset => lexical "unexpected '|', use '||'" offset
  | .unexpectedCharacter c offset => lexical s!"unexpected character '{c}'" offset
  | .malformedPath path offset => lexical s!"malformed variable path \"{path}\"" offset
  | .unterminatedString offset => lexical "unterminated string literal" offset
  | .empty => "empty expression"
  | .unexpectedEnd => "unexpected end of expression"
  | .unexpectedSymbol symbol offset =>
    s!"unexpected {symbol.described} at offset {offset} in expression"
  | .chainedComparison => "comparisons cannot be chained, use '&&'"
  | .invalidNumeral text => s!"invalid number literal {text}"
  | .invalidFunctionName name => s!"invalid function name \"{name}\""
  | .missingParenthesis => "expected ')'"
  | .unclosedArguments => "expected ',' or ')' in argument list"

/-- What the reader of a tag had before it when it met a character that
cannot follow. -/
inductive TagSite where
  | tagStart
  | closingTag
  | slash
  | attributeName (name : String)
  | attributeList
  deriving DecidableEq, Repr

/-- How a complaint names the site. -/
def TagSite.described : TagSite → String
  | .tagStart => "tag start"
  | .closingTag => "closing tag"
  | .slash => "'/'"
  | .attributeName name => s!"attribute {name}"
  | .attributeList => "attribute list"

/-- What is wrong with a text that cannot be read. `reported` is a fault in
the words of an extension. -/
inductive ParseFault where
  | unterminatedTag
  | unexpectedCharacter (c : Char) (after : TagSite)
  | unquotedValue
  | unterminatedString
  | unclosedVerbatim (name : String)
  | unknownStrategy (name : String)
  | missingAttribute (tag name : String)
  | expression (fault : ExprFault)
  | reported (message : String)
  deriving DecidableEq, Repr

/-- The wording of a fault in a text. -/
def ParseFault.message : ParseFault → String
  | .unterminatedTag => "unterminated tag"
  | .unexpectedCharacter c after => s!"unexpected character '{c}' after {after.described}"
  | .unquotedValue => "attribute values must be quoted"
  | .unterminatedString => "unterminated string"
  | .unclosedVerbatim name => s!"unclosed {name} block"
  | .unknownStrategy name => s!"unknown error strategy \"{name}\""
  | .missingAttribute tag name => s!"{tag} requires a \"{name}\" attribute"
  | .expression fault => fault.message
  | .reported message => message

end PromptMarkup
