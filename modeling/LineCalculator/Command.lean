import LineCalculator.Text.Ending
import LineCalculator.Text.Printable

/-!
# The command line

Arguments are read from left to right.  A flag is spelled with two dashes and
its name, or by its letter among others behind one dash; every other argument
is positional, and behind `--` all are.  The first request for help or the
version, and the first fault, are final: later arguments are not looked at.
-/

namespace LineCalculator

inductive Flag where
  | tree
  | help
  | version
  deriving DecidableEq, Repr

namespace Flag

def name : Flag → String
  | .tree => "tree"
  | .help => "help"
  | .version => "version"

def ofName? : String → Option Flag
  | "tree" => some .tree
  | "help" => some .help
  | "version" => some .version
  | _ => none

def ofLetter? : Char → Option Flag
  | 't' => some .tree
  | 'h' => some .help
  | 'V' => some .version
  | _ => none

end Flag

inductive UsageFault where
  | unexpectedArgument (argument : String)
  | unexpectedValue (flag : Flag) (value : String)
  | repeatedFlag (flag : Flag)
  deriving DecidableEq, Repr

/-- The first line of the report, without its newline; the advice and the usage
lines below it are left out.  What the user typed is shown without terminal
controls, and the line ends where a shown argument breaks it. -/
def UsageFault.message (fault : UsageFault) : String :=
  let text :=
    match fault with
    | .unexpectedArgument argument =>
        "unexpected argument '" ++ printable argument ++ "' found"
    | .unexpectedValue flag value =>
        "unexpected value '" ++ printable value ++ "' for '--" ++ flag.name ++
          "' found; no more were expected"
    | .repeatedFlag flag =>
        "the argument '--" ++ flag.name ++ "' cannot be used multiple times"
  "error: " ++ firstLine text

/-- What the arguments ask for. -/
inductive Request where
  | help
  | version
  | misuse (fault : UsageFault)
  | once (showTree : Bool) (expression : String)
  | session (showTree : Bool)
  deriving DecidableEq, Repr

/-- What has been gathered from the arguments read so far. -/
structure Arguments where
  showTree : Bool
  expression : Option String
  deriving DecidableEq, Repr

namespace Arguments

def addFlag (arguments : Arguments) : Flag → Except Request Arguments
  | .help => .error .help
  | .version => .error .version
  | .tree =>
      if arguments.showTree then .error (.misuse (.repeatedFlag .tree))
      else .ok { arguments with showTree := true }

def addPositional (arguments : Arguments) (argument : String) :
    Except Request Arguments :=
  match arguments.expression with
  | none => .ok { arguments with expression := some argument }
  | some _ => .error (.misuse (.unexpectedArgument argument))

def addPositionals (arguments : Arguments) (rest : List String) :
    Except Request Arguments :=
  rest.foldlM addPositional arguments

def addLetters (arguments : Arguments) : List Char → Except Request Arguments
  | [] => .ok arguments
  | letter :: rest =>
      match Flag.ofLetter? letter with
      | none =>
          .error (.misuse (.unexpectedArgument (String.ofList ['-', letter])))
      | some flag => do
          let gathered ← arguments.addFlag flag
          gathered.addLetters rest

/-- The text behind two dashes: a name, and a value if an equals sign follows
the name.  No flag takes a value. -/
def addNamed (arguments : Arguments) (text : List Char) :
    Except Request Arguments :=
  let name := String.ofList (text.takeWhile (· ≠ '='))
  match Flag.ofName? name, text.dropWhile (· ≠ '=') with
  | none, _ => .error (.misuse (.unexpectedArgument ("--" ++ name)))
  | some flag, [] => arguments.addFlag flag
  | some flag, _ :: value =>
      .error (.misuse (.unexpectedValue flag (String.ofList value)))

def gather (arguments : Arguments) : List String → Except Request Arguments
  | [] => .ok arguments
  | argument :: rest =>
      match argument.toList with
      | ['-', '-'] => arguments.addPositionals rest
      | '-' :: '-' :: text => do
          let gathered ← arguments.addNamed text
          gathered.gather rest
      | '-' :: letter :: letters => do
          let gathered ← arguments.addLetters (letter :: letters)
          gathered.gather rest
      | _ => do
          let gathered ← arguments.addPositional argument
          gathered.gather rest

end Arguments

def Request.ofArguments (args : List String) : Request :=
  match Arguments.gather ⟨false, none⟩ args with
  | .error request => request
  | .ok ⟨showTree, some expression⟩ => .once showTree expression
  | .ok ⟨showTree, none⟩ => .session showTree

end LineCalculator
