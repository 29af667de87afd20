namespace FractionCalculator

inductive LogLevel
  | critical
  | error
  | warning
  | info
  | debug
deriving DecidableEq

namespace LogLevel

def name : LogLevel → String
  | critical => "CRITICAL"
  | error => "ERROR"
  | warning => "WARNING"
  | info => "INFO"
  | debug => "DEBUG"

-- A record shows when its number reaches that of the level in force.
def number : LogLevel → Nat
  | critical => 50
  | error => 40
  | warning => 30
  | info => 20
  | debug => 10

def all : List LogLevel :=
  [critical, error, warning, info, debug]

def ofName? (name : String) : Option LogLevel :=
  all.find? fun level => level.name = name

end LogLevel

end FractionCalculator
