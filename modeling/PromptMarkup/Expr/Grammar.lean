import PromptMarkup.Expr
import PromptMarkup.Expr.Reader
/-!
# Expr — arranging symbols into a condition

The grammar, loosest first:

* a disjunction is conjunctions joined by `||`, grouped to the left;
* a conjunction is comparisons joined by `&&`, grouped to the left;
* a comparison is an operand, or two of them around one operator;
* an operand is a primary after any number of `!`;
* a primary is a literal, a path, a call or a disjunction in parentheses.

Each function reads one of these from the front of the symbols. They call
one another no more than eight times for each symbol taken, and the first
argument counts these calls; `parse` starts with enough of them.
-/

namespace PromptMarkup

namespace Expr

/-- What is read from the front of some symbols, and the symbols left. -/
abbrev Reading (α : Type) := Except ExprFault (α × List Located)

/-- The literal that a symbol stands for by itself. -/
def Symbol.literal? : Symbol → Option (Except ExprFault Value)
  | .string value => some (.ok (.text value))
  | .numeral text =>
    match Number.read? text with
    | some n => some (.ok (.number n))
    | none => some (.error (.invalidNumeral text))
  | .keyword .true => some (.ok (.boolean true))
  | .keyword .false => some (.ok (.boolean false))
  | .keyword .nil => some (.ok .null)
  | _ => none

mutual

/-- Reads a disjunction. -/
def readOr : Nat → List Located → Reading Expr
  | 0, _ => .error .unexpectedEnd
  | n + 1, symbols =>
    match readAnd n symbols with
    | .error fault => .error fault
    | .ok (left, rest) => readOrMore n left rest

/-- Reads the further members of a disjunction. -/
def readOrMore : Nat → Expr → List Located → Reading Expr
  | 0, _, _ => .error .unexpectedEnd
  | n + 1, left, ⟨.or, _⟩ :: rest =>
    match readAnd n rest with
    | .error fault => .error fault
    | .ok (right, rest) => readOrMore n (.or left right) rest
  | _ + 1, left, rest => .ok (left, rest)

/-- Reads a conjunction. -/
def readAnd : Nat → List Located → Reading Expr
  | 0, _ => .error .unexpectedEnd
  | n + 1, symbols =>
    match readComparison n symbols with
    | .error fault => .error fault
    | .ok (left, rest) => readAndMore n left rest

/-- Reads the further members of a conjunction. -/
def readAndMore : Nat → Expr → List Located → Reading Expr
  | 0, _, _ => .error .unexpectedEnd
  | n + 1, left, ⟨.and, _⟩ :: rest =>
    match readComparison n rest with
    | .error fault => .error fault
    | .ok (right, rest) => readAndMore n (.and left right) rest
  | _ + 1, left, rest => .ok (left, rest)

/-- Reads a comparison. A second operator is refused. -/
def readComparison : Nat → List Located → Reading Expr
  | 0, _ => .error .unexpectedEnd
  | n + 1, symbols =>
    match readOperand n symbols with
    | .error fault => .error fault
    | .ok (left, ⟨.operator op, _⟩ :: rest) =>
      match readOperand n rest with
      | .error fault => .error fault
      -- a comparison has no truth value to compare further
      | .ok (_, ⟨.operator _, _⟩ :: _) => .error .chainedComparison
      | .ok (right, rest) => .ok (.compare op left right, rest)
    | .ok (left, rest) => .ok (left, rest)

/-- Reads an operand. -/
def readOperand : Nat → List Located → Reading Expr
  | 0, _ => .error .unexpectedEnd
  | n + 1, ⟨.not, _⟩ :: rest =>
    match readOperand n rest with
    | .error fault => .error fault
    | .ok (inner, rest) => .ok (.not inner, rest)
  | n + 1, symbols => readPrimary n symbols

/-- Reads a primary. -/
def readPrimary : Nat → List Located → Reading Expr
  | 0, _ | _ + 1, [] => .error .unexpectedEnd
  | n + 1, ⟨.path name, _⟩ :: ⟨.leftParen, _⟩ :: rest =>
    if name.toList.contains '.' then .error (.invalidFunctionName name)
    else
      match readArguments n rest with
      | .error fault => .error fault
      | .ok (args, rest) => .ok (.call name args, rest)
  | _ + 1, ⟨.path name, _⟩ :: rest => .ok (.path name, rest)
  | n + 1, ⟨.leftParen, _⟩ :: rest =>
    match readOr n rest with
    | .error fault => .error fault
    | .ok (inner, ⟨.rightParen, _⟩ :: rest) => .ok (inner, rest)
    | .ok _ => .error .missingParenthesis
  | _ + 1, ⟨symbol, span⟩ :: rest =>
    match symbol.literal? with
    | some (.ok value) => .ok (.literal value, rest)
    | some (.error fault) => .error fault
    | none => .error (.unexpectedSymbol symbol span.start)

/-- Reads the arguments of a call, from behind the opening parenthesis. -/
def readArguments : Nat → List Located → Reading (List Expr)
  | 0, _ => .error .unexpectedEnd
  | _ + 1, ⟨.rightParen, _⟩ :: rest => .ok ([], rest)
  | n + 1, symbols => readArgumentList n symbols

/-- Reads one argument and those after it, up to the closing parenthesis. -/
def readArgumentList : Nat → List Located → Reading (List Expr)
  | 0, _ => .error .unexpectedEnd
  | n + 1, symbols =>
    match readOr n symbols with
    | .error fault => .error fault
    | .ok (arg, ⟨.rightParen, _⟩ :: rest) => .ok ([arg], rest)
    | .ok (arg, ⟨.comma, _⟩ :: rest) =>
      match readArgumentList n rest with
      | .error fault => .error fault
      | .ok (args, rest) => .ok (arg :: args, rest)
    | .ok _ => .error .unclosedArguments

end

/-- Arranges symbols into the condition that takes all of them. -/
def arrange (symbols : List Located) : Except ExprFault Expr :=
  if symbols.isEmpty then .error .empty
  else
    match readOr (8 * (symbols.length + 1)) symbols with
    | .error fault => .error fault
    | .ok (e, []) => .ok e
    | .ok (_, ⟨symbol, span⟩ :: _) => .error (.unexpectedSymbol symbol span.start)

/-- The condition that a text denotes. -/
def parse (source : String) : Except ExprFault Expr :=
  match symbols source with
  | .error fault => .error fault
  | .ok symbols => arrange symbols

end Expr

end PromptMarkup
