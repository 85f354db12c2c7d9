import TsWorkshop.Text.Basic

/-!
The syntax of shell scripts: words are made of pieces, and commands of words.
-/

namespace TsWorkshop.Script

/-- What is done with the value of a parameter. The flag of the first four says whether an empty
value counts as none, that of the cuts whether the longest match is cut. -/
inductive ParameterUse where
  | value | length
  | orElse (emptyToo : Bool) | orAssign (emptyToo : Bool) | orFail (emptyToo : Bool)
  | ifSet (emptyToo : Bool)
  | cutStart (longest : Bool) | cutEnd (longest : Bool)
  deriving DecidableEq, Repr

/-- Where a redirection leads. -/
inductive RedirectMode where
  | replace | append | read
  /-- To where another stream leads. -/
  | duplicate
  deriving DecidableEq, Repr

mutual

/-- A piece of a word; what is in quotes is not split. -/
inductive Piece where
  | text (s : String) (inQuotes : Bool)
  | parameter (name : String) (use : ParameterUse) (word : List Piece) (inQuotes : Bool)
  | arithmetic (expression : List Piece) (inQuotes : Bool)
  | output (body : Command) (inQuotes : Bool)

/-- A redirection of a stream. -/
inductive Redirect where
  | mk (stream : Nat) (mode : RedirectMode) (target : List Piece)

inductive Command where
  | simple (line : Nat) (assignments : List (String × List Piece)) (words : List (List Piece))
      (redirects : List Redirect)
  /-- Several commands, one after another. -/
  | sequence (first second : Command)
  | andThen (first second : Command)
  | orElse (first second : Command)
  | negated (body : Command)
  /-- A command whose output is another one's input. -/
  | pipe (first second : Command)
  /-- A compound command; a subshell works on a copy of the state. -/
  | redirected (line : Nat) (subshell : Bool) (body : Command) (redirects : List Redirect)
  | choice (condition thenBody elseBody : Command)
  /-- A loop that goes on while its condition succeeds, or fails. -/
  | loop (whileFails : Bool) (condition body : Command)
  | forEach (name : String) (words : Option (List (List Piece))) (body : Command)
  | caseOf (word : List Piece) (arms : List (List (List Piece) × Command))
  /-- The definition of a function. -/
  | define (name : String) (body : Command)
  | skip

end

/-- Why a script cannot be read on. -/
inductive SyntaxFault where
  | unexpected (token : String) (expected : Option String)
  | openQuote
  | openBrace
  | badVariable
  deriving DecidableEq, Repr

def SyntaxFault.message : SyntaxFault → String
  | unexpected token none => "Syntax error: " ++ token ++ " unexpected"
  | unexpected token (some expected) =>
    "Syntax error: " ++ token ++ " unexpected (expecting \"" ++ expected ++ "\")"
  | openQuote => "Syntax error: Unterminated quoted string"
  | openBrace => "Syntax error: Missing '\x7d'"
  | badVariable => "Syntax error: Bad for loop variable"

/-- A fault and the line on which it was found. -/
structure LocatedFault where
  line : Nat
  fault : SyntaxFault
  deriving DecidableEq, Repr

end TsWorkshop.Script
