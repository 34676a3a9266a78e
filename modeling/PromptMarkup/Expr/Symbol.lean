/-!
# Expr — the symbols of a condition

The vocabulary that conditions are written in, before they are arranged
into a tree. A symbol knows how a complaint names it.
-/

namespace PromptMarkup

namespace Expr

/-- A comparison. -/
inductive Operator where
  | equal
  | notEqual
  | less
  | lessOrEqual
  | greater
  | greaterOrEqual
  deriving DecidableEq, Repr

/-- How a comparison is written. -/
def Operator.text : Operator → String
  | .equal => "=="
  | .notEqual => "!="
  | .less => "<"
  | .lessOrEqual => "<="
  | .greater => ">"
  | .greaterOrEqual => ">="

/-- A word that stands for a value. -/
inductive Keyword where
  | true
  | false
  | nil
  deriving DecidableEq, Repr

/-- How a keyword is named. -/
def Keyword.text : Keyword → String
  | .true => "true"
  | .false => "false"
  | .nil => "nil"

/-- A symbol of a condition. A string is held without its quotes and
escapes, a numeral as it was written. -/
inductive Symbol where
  | path (name : String)
  | string (value : String)
  | numeral (text : String)
  | leftParen
  | rightParen
  | comma
  | not
  | and
  | or
  | operator (op : Operator)
  | keyword (word : Keyword)
  deriving DecidableEq, Repr

/-- How a complaint names a symbol. -/
def Symbol.described : Symbol → String
  | .path name => s!"identifier \"{name}\""
  | .string value => s!"string \"{value}\""
  | .numeral text => s!"number {text}"
  | .leftParen => "'('"
  | .rightParen => "')'"
  | .comma => "','"
  | .not => "'!'"
  | .and => "'&&'"
  | .or => "'||'"
  | .operator op => "'" ++ op.text ++ "'"
  | .keyword word => word.text

end Expr

end PromptMarkup
