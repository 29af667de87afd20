import FractionCalculator.Session.Arguments

namespace FractionCalculator.Usage

def levelChoices : String :=
  "\x7b" ++ ",".intercalate (LogLevel.all.map LogLevel.name) ++ "\x7d"

def summary : String :=
  "usage: fraccalc [-h] [--mixed]\n" ++
  "                [--log-level " ++ levelChoices ++ "]\n" ++
  "                [--no-history]\n" ++
  "                ...\n"

def help : String :=
  summary ++
  "\nSolve arithmetic expressions over integers and fractions.\n" ++
  "\npositional arguments:\n" ++
  "  expression            Expression to solve. Prompts interactively when\n" ++
  "                        omitted.\n" ++
  "\noptions:\n" ++
  "  -h, --help, -?        Show this help message and exit.\n" ++
  "  --mixed               Render improper fractions as mixed fractions (e.g.\n" ++
  "                        5_2/5).\n" ++
  "  --log-level " ++ levelChoices ++ "\n" ++
  "                        Logging level (default: FRACCALC_LOG_LEVEL or\n" ++
  "                        WARNING).\n" ++
  "  --no-history          Do not read or write the interactive prompt history\n" ++
  "                        file.\n" ++
  "\nExpressions are whitespace delimited values and operators, for example:\n" ++
  "  ? 1/2 + 3_1/4 * -2\n" ++
  "  = -6\n" ++
  "\nValues:     integers (12), fractions (3/4, -27/5), mixed fractions (1_3/4)\n" ++
  "Operators:  + - * /   (* and / bind tighter; equal precedence is left to right)\n" ++
  "Results:    reduced fractions, or NaN, +Infinity, -Infinity\n" ++
  "\nEnvironment: FRACCALC_RENDER_MODE, FRACCALC_LOG_LEVEL, FRACCALC_HISTORY_FILE,\n" ++
  "FRACCALC_PROMPT (also read from a .env file).\n"

def renderFault (fault : UsageFault) : String :=
  summary ++ "fraccalc: error: " ++ fault.message ++ "\n"

end FractionCalculator.Usage
