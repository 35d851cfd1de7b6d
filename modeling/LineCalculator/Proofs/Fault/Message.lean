import LineCalculator.Fault
import Mathlib.Tactic

/-!
# What a message tells

A message names its fault completely.  How it begins shows the stage that
failed and the kind of the fault, and whatever the fault carries can be read
off the rest.
-/

namespace LineCalculator

theorem Kind.name_injective : Function.Injective Kind.name := by
  intro first second hname
  have hkinds := congrArg Kind.ofName? hname
  simpa using hkinds

namespace GrammarFault

@[simp] theorem expectation_numberExpected_none :
    (numberExpected none).expectation = "a number, found end of input" := rfl

@[simp] theorem expectation_numberExpected_some (found : String) :
    (numberExpected (some found)).expectation =
      "a number, found '" ++ found ++ "'" := rfl

@[simp] theorem expectation_endExpected (found : String) :
    (endExpected found).expectation =
      "end of expression, found '" ++ found ++ "'" := rfl

@[simp] theorem expectation_operatorLimitExceeded :
    operatorLimitExceeded.expectation =
      "an expression of at most 1024 operators" := rfl

theorem expectation_injective : Function.Injective expectation := by
  intro first second htext
  have hhead := congrArg (fun text => text.toList.head?) htext
  have hnext := congrArg (fun text => text.toList[1]?) htext
  have hmark := congrArg (fun text => text.toList[16]?) htext
  cases first with
  | numberExpected found =>
      cases second with
      | numberExpected other =>
          cases found with
          | none =>
              cases other with
              | none => rfl
              | some other => simp at hmark
          | some found =>
              cases other with
              | none => simp at hmark
              | some other => simpa using htext
      | endExpected other => cases found <;> simp at hhead
      | operatorLimitExceeded => cases found <;> simp at hnext
  | endExpected found =>
      cases second with
      | numberExpected other => cases other <;> simp at hhead
      | endExpected other => simpa using htext
      | operatorLimitExceeded => simp at hhead
  | operatorLimitExceeded =>
      cases second with
      | numberExpected other => cases other <;> simp at hnext
      | endExpected other => simp at hhead
      | operatorLimitExceeded => rfl

end GrammarFault

namespace ValueFault

@[simp] theorem reason_emptyLiteral : emptyLiteral.reason = "empty literal" := rfl

@[simp] theorem reason_notDecimal (lexeme : String) :
    (notDecimal lexeme).reason = "'" ++ lexeme ++ "' is not a valid number" := rfl

@[simp] theorem reason_notLiteral (kind : Kind) :
    (notLiteral kind).reason = kind.name ++ " is not a literal" := rfl

@[simp] theorem reason_notOperator (kind : Kind) :
    (notOperator kind).reason = "unknown operator " ++ kind.name := rfl

theorem reason_injective : Function.Injective reason := by
  intro first second htext
  have hhead := congrArg (fun text => text.toList.head?) htext
  cases first with
  | emptyLiteral =>
      cases second with
      | emptyLiteral => rfl
      | notDecimal lexeme => simp at hhead
      | notLiteral kind => cases kind <;> simp [Kind.name] at hhead
      | notOperator kind => simp at hhead
  | notDecimal lexeme =>
      cases second with
      | emptyLiteral => simp at hhead
      | notDecimal other => simpa using htext
      | notLiteral kind => cases kind <;> simp [Kind.name] at hhead
      | notOperator kind => simp at hhead
  | notLiteral kind =>
      cases second with
      | emptyLiteral => cases kind <;> simp [Kind.name] at hhead
      | notDecimal lexeme => cases kind <;> simp [Kind.name] at hhead
      | notLiteral other =>
          have hname : kind.name = other.name := by simpa using htext
          rw [Kind.name_injective hname]
      | notOperator other => cases kind <;> simp [Kind.name] at hhead
  | notOperator kind =>
      cases second with
      | emptyLiteral => simp at hhead
      | notDecimal lexeme => simp at hhead
      | notLiteral other => cases other <;> simp [Kind.name] at hhead
      | notOperator other =>
          have hname : kind.name = other.name := by simpa using htext
          rw [Kind.name_injective hname]

end ValueFault

namespace Fault

@[simp] theorem message_foreign (c : Char) :
    (foreign c).message =
      "invalid character, '" ++ String.singleton c ++ "', encountered" := rfl

@[simp] theorem message_grammar (cause : GrammarFault) :
    (grammar cause).message =
      "could not parse expression, expected " ++ cause.expectation := rfl

@[simp] theorem message_value (cause : ValueFault) :
    (value cause).message =
      "could not evaluate expression, " ++ cause.reason := rfl

theorem message_injective : Function.Injective message := by
  intro first second htext
  have hhead := congrArg (fun text => text.toList.head?) htext
  have hstage := congrArg (fun text => text.toList[10]?) htext
  cases first with
  | foreign c =>
      cases second with
      | foreign other =>
          have hquoted : String.singleton c = String.singleton other := by
            simpa using htext
          simpa using congrArg String.toList hquoted
      | grammar cause => simp at hhead
      | value cause => simp at hhead
  | grammar cause =>
      cases second with
      | foreign c => simp at hhead
      | grammar other =>
          have hcause : cause.expectation = other.expectation := by
            simpa using htext
          rw [GrammarFault.expectation_injective hcause]
      | value other => simp at hstage
  | value cause =>
      cases second with
      | foreign c => simp at hhead
      | grammar other => simp at hstage
      | value other =>
          have hcause : cause.reason = other.reason := by simpa using htext
          rw [ValueFault.reason_injective hcause]

end Fault

end LineCalculator
