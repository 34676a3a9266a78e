import PromptMarkup.Attributes
import PromptMarkup.Source
/-!
# Token — the pieces of a template source

A source is a sequence of literal text, comments and tags. Each piece is
held with the span it covers and the position it starts at.
-/

namespace PromptMarkup

/-- How a tag is written: complete in itself, or around other pieces. -/
inductive TagShape where
  | selfClosing
  | block
  deriving DecidableEq, Repr

/-- The name of a shape. -/
def TagShape.text : TagShape → String
  | .selfClosing => "self-closing"
  | .block => "block"

/-- What a piece of a source is. -/
inductive Piece where
  | text (body : String)
  | comment (body : String)
  | opening (shape : TagShape) (name : String) (attrs : Attributes)
  | closing (name : String)
  deriving DecidableEq, Repr

/-- The tag a piece belongs to. -/
def Piece.tag? : Piece → Option String
  | .opening _ name _ | .closing name => some name
  | .text _ | .comment _ => none

/-- A piece in its place. -/
structure Token where
  piece : Piece
  span : Span
  position : Position
  deriving DecidableEq, Repr

end PromptMarkup
