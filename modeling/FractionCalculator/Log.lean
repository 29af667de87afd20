import FractionCalculator.Expression.Evaluate

namespace FractionCalculator

-- The parts of the calculator that keep a log.
inductive LogSource
  | number
  | lexer
  | solver
  | session
deriving DecidableEq

def LogSource.name : LogSource → String
  | number => "fraccalc.rational"
  | lexer => "fraccalc.lexer"
  | solver => "fraccalc.solver"
  | session => "fraccalc.cli"

-- One entry of the log. All entries are of the lowest level.
structure LogRecord where
  source : LogSource
  message : String
deriving DecidableEq

namespace LogRecord

def level : String :=
  "DEBUG"

def render (time : String) (r : LogRecord) : String :=
  time ++ " - " ++ r.source.name ++ " - " ++ level ++ " - " ++ r.message

def ofRounding (r : Rounding) : LogRecord :=
  ⟨.number, r.message⟩

end LogRecord

-- The roundings behind an operation. Subtraction negates and division inverts its right operand
-- first, which may take a rounding of its own.
def Operator.roundings : Operator → Number → Number → List Rounding
  | add, x, y => (Exact.sum x y).roundings
  | subtract, x, y => (Exact.negation y).roundings ++ (Exact.sum x y.negate).roundings
  | multiply, x, y => (Exact.product x y).roundings
  | divide, x, y => (Exact.reciprocal y).roundings ++ (Exact.product x y.reciprocal).roundings

-- The roundings of a postfix run that starts on the given stack, up to its end or its failure.
def runRoundings : List Number → List Token → List Rounding
  | _, [] => []
  | stack, .value x _ :: tokens => runRoundings (x :: stack) tokens
  | right :: left :: stack, .operator op :: tokens =>
    op.roundings left right ++ runRoundings (op.apply left right :: stack) tokens
  | _, .operator _ :: _ => []

-- What reading a line leaves in the log. A line that cannot be read leaves nothing.
def readingLog (line : String) : List LogRecord :=
  match Token.ofLine line with
  | .ok tokens =>
    [⟨.lexer, "Tokenized " ++ Text.quote line ++ " as " ++ Token.describeAll tokens⟩]
  | .error _ => []

-- What evaluating tokens leaves in the log.
def evaluationLog (tokens : List Token) : List LogRecord :=
  match toPostfix tokens with
  | .ok postfixTokens =>
    let result :=
      match evaluatePostfix postfixTokens with
      | .ok x => [⟨.solver, "Result: " ++ x.describe⟩]
      | .error _ => []
    [⟨.solver, "Postfix: " ++ Token.describeAll postfixTokens⟩] ++
      (runRoundings [] postfixTokens).map LogRecord.ofRounding ++ result
  | .error _ => []

def solvingLog (line : String) : List LogRecord :=
  match Token.ofLine line with
  | .ok tokens => readingLog line ++ evaluationLog tokens
  | .error _ => []

end FractionCalculator
