import BenchScript.Command.Basic
import BenchScript.Decimal.Reading

/-!
# Checking arguments

What can be wrong with a command line, and the check of one argument against the parameter that it
is given for.
-/

namespace BenchScript

open BenchScript.Text BenchScript.Decimal

/-- Something wrong with a command line. -/
inductive Issue
  | unknownCommand (header : String)
  | notAnOption (param : String) (value : String)
  | notANumber (param : String) (value : String)
  | outOfRange (param : String) (value : Float)

/-- The wording of an issue. -/
def Issue.message : Issue → String
  | .unknownCommand header => "'" ++ header ++ "' is not in the command library"
  | .notAnOption param value => "'" ++ value ++ "' is not an allowed value of '" ++ param ++ "'"
  | .notANumber param value => "'" ++ value ++ "' is not a number, expected by '" ++ param ++ "'"
  | .outOfRange param value => messageText value ++ " is outside the range of '" ++ param ++ "'"

/-- The words that a numeric parameter takes in place of a number, each in two lengths. -/
def rangeMnemonics : List (List Char) :=
  ["MIN".toList, "MINIMUM".toList, "MAX".toList, "MAXIMUM".toList, "DEF".toList, "DEFAULT".toList]

/-- Whether an argument is such a word, in any case. -/
def isRangeMnemonic (argument : List Char) : Bool := rangeMnemonics.any (sameAsciiCase · argument)

/-- The argument without a unit at its end, in any case, unless nothing but the unit is there. -/
def stripUnit (unit argument : List Char) : List Char :=
  let rest := argument.length - unit.length
  if !unit.isEmpty && unit.length < argument.length && sameAsciiCase (argument.drop rest) unit then
    argument.take rest
  else argument

/-- The arguments of a command line: its words after the first one, without commas at their
ends. -/
def argumentsOf (line : List Char) : List (List Char) :=
  ((words line).drop 1).map (stripEnds (· == ','))

namespace Param

/-- Whether an argument is one of the allowed values, in any case. -/
def allows (p : Param) (argument : List Char) : Bool :=
  p.allowed.any fun o => sameAsciiCase o.toList argument

/-- What is wrong with a number given for the parameter, unit included. -/
def checkNumber (p : Param) (argument : List Char) : Option Issue :=
  match readFloat? (stripUnit (p.unit.getD "").toList argument) with
  | none => some (.notANumber p.name (String.ofList argument))
  | some x => if p.inRange x then none else some (.outOfRange p.name x)

/-- What is wrong with an argument given for the parameter. -/
def check (p : Param) (argument : List Char) : Option Issue :=
  if !p.allowed.isEmpty && !p.allows argument then
    some (.notAnOption p.name (String.ofList argument))
  else if p.kind.isNumeric && !isRangeMnemonic argument then p.checkNumber argument
  else none

end Param

/-- What is wrong with the arguments of a command line, each taken for the parameter in its
place. -/
def Command.checkArguments (c : Command) (line : List Char) : List Issue :=
  (c.paramList.zip (argumentsOf line)).filterMap fun (p, a) => p.check a

end BenchScript
