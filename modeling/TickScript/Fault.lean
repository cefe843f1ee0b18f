import TickScript.Breakdown

/-! Why a script cannot go on. A script error leaves the interpreter ready for
another attempt; a time beyond the last one is no error of the script and stops
the program. -/
namespace TickScript

/-- What is wrong with the arguments of a command. -/
inductive ArgumentFault
  | count | type
  deriving DecidableEq, Repr

def ArgumentFault.code : ArgumentFault → String
  | count => "WrongArgumentCountError"
  | type => "WrongArgumentTypeError"

inductive ScriptError
  /-- No handler is registered under the name. -/
  | resolution (name : String)
  /-- An expression has no value. -/
  | evaluation (expr reason : String)
  /-- A command refuses its arguments. -/
  | argument (command : String) (fault : ArgumentFault) (message : String)
  deriving DecidableEq, Repr

namespace ScriptError

/-- The expected count in words or digits, and the count that was found. -/
def wrongCount (command expected : String) (found : Nat) : ScriptError :=
  argument command .count ("expected " ++ expected ++ " argument(s), got " ++ toString found)

def wrongType (command message : String) : ScriptError := argument command .type message

/-- The name of a class of errors, by which hosts tell them apart. -/
def code : ScriptError → String
  | resolution _ => "ResolutionError"
  | evaluation .. => "EvaluationError"
  | argument _ fault _ => fault.code

def message : ScriptError → String
  | resolution name => "unknown command '" ++ name ++ "'"
  | evaluation expr reason => "cannot evaluate '" ++ expr ++ "': " ++ reason
  | argument command _ message => command ++ ": " ++ message

/-- A record of one form with named texts. -/
def describeForm (form : String) (fields : List (String × String)) : String :=
  let texts := fields.map fun field => field.1 ++ ": " ++ Text.quoted field.2
  form ++ " \x7b " ++ ", ".intercalate texts ++ " \x7d"

/-- The error with all its parts, for developers. -/
def describe : ScriptError → String
  | resolution name => describeForm "Resolution" [("name", name)]
  | evaluation expr reason => describeForm "Evaluation" [("expr", expr), ("reason", reason)]
  | argument command fault message =>
    describeForm "Argument" [("command", command), ("code", fault.code), ("message", message)]

end ScriptError

inductive Fault
  | script (error : ScriptError)
  | breakdown (cause : Breakdown)
  deriving DecidableEq, Repr

def Fault.message : Fault → String
  | script error => error.message
  | breakdown cause => cause.message

end TickScript
