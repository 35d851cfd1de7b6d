import LineCalculator.Log

/-!
# The filter of the log

A filter is a list of directives between commas.  A directive is the name of a
level, or the beginning of the names of some modules with a level behind an
equals sign; without a level it keeps every record.  The longest beginning
decides.  What is no directive is passed over, and a filter without directives
keeps errors.

A run has one threshold for all its modules.  Directives for some of them only
are left out here, and so is the pattern for messages behind a slash.
-/

namespace LineCalculator

/-- What the names of all modules begin with. -/
def programName : String := "simple_calc"

/-- The threshold for the modules whose names begin with a text. -/
structure Directive where
  beginning : String
  threshold : Threshold
  deriving DecidableEq, Repr

def trimBlanks (text : List Char) : List Char :=
  ((text.dropWhile isBlank).reverse.dropWhile isBlank).reverse

/-- The names of levels are read whatever their case. -/
def Threshold.ofText? (text : List Char) : Option Threshold :=
  ofName? (String.ofList (text.map Char.toLower))

namespace Directive

def ofText? (text : List Char) : Option Directive :=
  match (trimBlanks text).splitOn '=' with
  | [[]] => none
  | [name] =>
      match Threshold.ofText? name with
      | some threshold => some ⟨"", threshold⟩
      | none => some ⟨String.ofList name, some .trace⟩
  | [name, level] =>
      match trimBlanks level with
      | [] => some ⟨String.ofList name, some .trace⟩
      | level => (Threshold.ofText? level).map fun threshold =>
          ⟨String.ofList name, threshold⟩
  | _ => none

def reachesProgram (directive : Directive) : Bool :=
  directive.beginning.toList.isPrefixOf programName.toList

/-- The one of two directives that decides: the longer, or else the later. -/
def prefer (first : Option Directive) (second : Directive) : Option Directive :=
  match first with
  | none => some second
  | some first =>
      if second.beginning.length < first.beginning.length then some first
      else some second

end Directive

def Threshold.ofFilter (filter : String) : Threshold :=
  let texts := (filter.toList.takeWhile (· ≠ '/')).splitOn ','
  match texts.filterMap Directive.ofText? with
  | [] => some .error
  | directives =>
      ((directives.filter Directive.reachesProgram).foldl Directive.prefer
        none).bind Directive.threshold

/-- A level that is given for the whole program is its threshold. -/
theorem Threshold.ofFilter_program (level : Level) :
    ofFilter (programName ++ "=" ++ level.name) = some level := by
  cases level <;> rfl

end LineCalculator
