import FractionCalculator.Number.Construct
import FractionCalculator.Text.Blank

namespace FractionCalculator

-- The three written shapes of a number, as runs of digits.
inductive Literal
  | whole (negative : Bool) (digits : List Char)
  | fraction (negative : Bool) (num den : List Char)
  | mixed (negative : Bool) (units num den : List Char)
deriving DecidableEq

-- A run of digits and what follows it.
def splitDigits (cs : List Char) : List Char × List Char :=
  (cs.takeWhile Char.isDigit, cs.dropWhile Char.isDigit)

-- The value of a run of digits.
def digitsValue (digits : List Char) : Nat :=
  digits.foldl (fun value c => 10 * value + (c.toNat - '0'.toNat)) 0

namespace Literal

-- An optional sign and the unsigned rest.
def splitSign : List Char → Bool × List Char
  | '+' :: rest => (false, rest)
  | '-' :: rest => (true, rest)
  | cs => (false, cs)

-- Reads a whole text. Between its digits a literal holds no blanks.
def ofChars? (cs : List Char) : Option Literal :=
  let (negative, unsigned) := splitSign cs
  match splitDigits unsigned with
  | ([], _) => none
  | (first, []) => some (whole negative first)
  | (first, '/' :: rest) =>
    match splitDigits rest with
    | ([], _) => none
    | (second, []) => some (fraction negative first second)
    | _ => none
  | (first, '_' :: rest) =>
    match splitDigits rest with
    | ([], _) => none
    | (second, '/' :: rest) =>
      match splitDigits rest with
      | ([], _) => none
      | (third, []) => some (mixed negative first second third)
      | _ => none
    | _ => none
  | _ => none

-- A word has at most ten digits, so a component with more is refused unread.
def component (text : String) (digits : List Char) : Except CalcError Int :=
  if (digits.dropWhile (· = '0')).length > 10 then
    .error (.componentTooLong (String.ofList digits) text)
  else if digits.length > digitLimit then .error (.digitsUnreadable digits.length)
  else .ok (digitsValue digits)

def inRange (text : String) (value : Int) : Except CalcError Int :=
  if wordMin ≤ value ∧ value ≤ wordMax then .ok value
  else .error (.componentOutOfRange value text)

def signed (negative : Bool) (value : Int) : Int :=
  if negative then -value else value

-- The number that a literal denotes. All components are read before any range is checked. In
-- the mixed shape the sign belongs to the whole part unless that is zero.
def value (text : String) : Literal → Except CalcError Number
  | whole negative digits => do
    let n ← component text digits
    let n ← inRange text (signed negative n)
    return Number.ofInt n
  | fraction negative num den => do
    let n ← component text num
    let d ← component text den
    let d ← inRange text d
    let n ← inRange text (signed negative n)
    Number.ofRatio n d
  | mixed negative units num den => do
    let w ← component text units
    let n ← component text num
    let d ← component text den
    let d ← inRange text d
    let w' ← inRange text (if w = 0 then w else signed negative w)
    let n ← inRange text (if w = 0 then signed negative n else n)
    Number.ofMixed w' n d

end Literal

namespace Number

-- The number written in a text, with blanks allowed around it.
def parse (text : String) : Except CalcError Number :=
  match Literal.ofChars? (Text.trimEnds text.toList) with
  | some literal => literal.value text
  | none => .error (.notALiteral text)

def parseOption : Option String → Except CalcError Number
  | some text => parse text
  | none => .error (.noInput .parse)

end Number

end FractionCalculator
