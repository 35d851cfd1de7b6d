import LineCalculator.Proofs.Line.Joining
import LineCalculator.Proofs.Line.Reply
import Mathlib.Tactic

/-!
# Reading a response back

The grammar has no sign of its own, so the text of a negative value is no
expression.  A zero in front makes it one: the sign is then a subtraction.  In
front of any other value the zero is one more digit, and nothing changes.

The least word is no exception.  Its magnitude is read as the least word, and
zero less the least word is the least word again.
-/

namespace LineCalculator

/-! ## Digits of a natural number -/

theorem Token.wellSpelled_repr (number : Nat) :
    (Token.mk .number number.repr).WellSpelled := by
  refine ⟨?_, ?_⟩
  · simp [Nat.toList_repr]
  · intro c hc
    exact isDigit_of_mem_repr hc

theorem Token.natural_repr (kind : Kind) (number : Nat) :
    (Token.mk kind number.repr).natural = number := by
  rw [Token.natural, Nat.toList_repr, Nat.ofDigitChars_ten_toDigits]

theorem Token.natural_zero_append (kind : Kind) (digits : String) :
    (Token.mk kind ("0" ++ digits)).natural = (Token.mk kind digits).natural := by
  have hzero : ("0" ++ digits).toList = '0' :: digits.toList := by simp
  rw [Token.natural, Token.natural, hzero, Nat.ofDigitChars_cons]
  rfl

theorem signedSum_number (digits : String) :
    signedSum [⟨.number, digits⟩] = (Token.mk .number digits).natural := by
  simp [signedSum, signedGroups, groupTotal]

theorem signCount_number {digits : String}
    (hspelled : (Token.mk .number digits).WellSpelled) :
    signCount digits.toList = 0 :=
  hspelled.signCount_lexeme

theorem decimal_cases (value : Int64) :
    (∃ number : Nat, value.toInt = number ∧ decimal value = number.repr) ∨
      ∃ number : Nat, 0 < number ∧ value.toInt = -number ∧
        decimal value = "-" ++ number.repr := by
  unfold decimal
  cases hvalue : value.toInt with
  | ofNat number => exact .inl ⟨number, rfl, rfl⟩
  | negSucc below =>
      refine .inr ⟨below + 1, by omega, ?_, rfl⟩
      omega

namespace Line

theorem alternating_number {digits : String}
    (hspelled : (Token.mk .number digits).WellSpelled) :
    Alternating digits [⟨.number, digits⟩] := by
  refine ⟨tokens_lexeme hspelled, ?_, ?_⟩
  · intro position hposition
    rw [List.length_singleton, Nat.lt_one_iff] at hposition
    simp [hposition]
  · rw [signCount_number hspelled]
    rfl

/-! ## Values of printed values -/

theorem value_number {digits : String}
    (hspelled : (Token.mk .number digits).WellSpelled) :
    (Line.value digits).outcome =
      .ok (Int64.ofInt (Token.mk .number digits).natural) := by
  rw [← signedSum_number]
  apply (alternating_number hspelled).value
  rw [signCount_number hspelled]
  exact Nat.zero_le _

theorem value_zero_append_decimal (value : Int64) :
    (Line.value ("0" ++ decimal value)).outcome = .ok value := by
  have hzero : (Token.mk .number "0").WellSpelled := Token.wellSpelled_repr 0
  rcases decimal_cases value with
    ⟨number, hnumber, htext⟩ | ⟨number, _, hnumber, htext⟩
  · have hdigits := hzero.number_append (Token.wellSpelled_repr number)
    rw [htext, value_number hdigits, Token.natural_zero_append, Token.natural_repr,
      ← hnumber, Int64.ofInt_toInt]
  · have hminus : (Token.mk .minus "-").WellSpelled := rfl
    have hrepr := Token.wellSpelled_repr number
    have hlimit : signCount "0".toList + signCount number.repr.toList + 1 ≤
        operatorLimit := by
      rw [signCount_number hzero, signCount_number hrepr]
      decide
    have hvalue := (alternating_number hzero).value_join
      (alternating_number hrepr) hminus (by simp) hlimit
    have hproduct : ∀ token ∈ [Token.mk .number number.repr],
        token.kind.isAdditive = false := by
      simp [Kind.isAdditive]
    have hsum : signedSum
        ([⟨.number, "0"⟩] ++ ⟨.minus, "-"⟩ :: [⟨.number, number.repr⟩]) =
          value.toInt := by
      have hnothing : (Token.mk .number "0").natural = 0 := Token.natural_repr _ 0
      rw [signedSum_append_minus rfl hproduct, signedSum_number,
        signedSum_number, Token.natural_repr, hnothing, hnumber, Int.natCast_zero,
        Int.zero_sub]
    rw [hsum, Int64.ofInt_toInt] at hvalue
    rwa [htext, ← String.append_assoc]

theorem value_decimal_of_nonneg {value : Int64} (hsign : 0 ≤ value) :
    (Line.value (decimal value)).outcome = .ok value := by
  rw [Int64.le_iff_toInt_le, Int64.toInt_zero] at hsign
  rcases decimal_cases value with
    ⟨number, hnumber, htext⟩ | ⟨number, hpos, hnumber, _⟩
  · rw [htext, value_number (Token.wellSpelled_repr number), Token.natural_repr,
      ← hnumber, Int64.ofInt_toInt]
  · omega

theorem expr_decimal_of_neg {value : Int64} (hsign : value < 0) :
    (Line.expr (decimal value)).outcome =
      .error (.grammar (.numberExpected (some "-"))) := by
  rw [Int64.lt_iff_toInt_lt, Int64.toInt_zero] at hsign
  rcases decimal_cases value with
    ⟨number, hnumber, _⟩ | ⟨number, hpos, _, htext⟩
  · omega
  · have hminus : (Token.mk .minus "-").WellSpelled := rfl
    have hsign := tokens_lexeme hminus
    have hdigits := tokens_lexeme (Token.wellSpelled_repr number)
    have hcut : cutsNumber "-".toList number.repr.toList = false := rfl
    have htokens : (Line.tokens ("-" ++ number.repr)).outcome =
        .ok [⟨.minus, "-"⟩, ⟨.number, number.repr⟩] := by
      rw [tokens_append_eq_ok_iff hcut]
      exact ⟨_, _, hsign, hdigits, rfl⟩
    rw [htext, expr_outcome_eq_error_iff]
    exact .inr ⟨_, _, htokens, rfl, rfl⟩

theorem response_false_eq_ok_iff {source text : String} :
    (Line.response false source).outcome = .ok text ↔
      ∃ value, (Line.value source).outcome = .ok value ∧ text = decimal value := by
  simp only [Line.response, Bool.false_eq_true, if_false,
    Traced.bind_outcome_eq_ok_iff, Traced.pure_outcome, Except.ok.injEq,
    @eq_comm _ text]

end Line

/-- A response without a tree, read as a line with a zero in front of it, has
the value it was printed for and prints as before.  The zero is needed for
negative values only, and there it cannot be left out. -/
theorem Line.response_reads_back (source text : String)
    (hresponse : (Line.response false source).outcome = .ok text) :
    ∃ value, (Line.value source).outcome = .ok value ∧
      (Line.value ("0" ++ text)).outcome = .ok value ∧
      (Line.response false ("0" ++ text)).outcome = .ok text ∧
      (0 ≤ value → (Line.response false text).outcome = .ok text) ∧
      (value < 0 → ∃ cause,
        (Line.response false text).outcome = .error (.grammar cause) ∧
          cause.expectation = "a number, found '-'") := by
  rcases response_false_eq_ok_iff.mp hresponse with ⟨value, hvalue, htext⟩
  have hpadded := value_zero_append_decimal value
  rw [← htext] at hpadded
  refine ⟨value, hvalue, hpadded, ?_, ?_, ?_⟩
  · exact response_false_eq_ok_iff.mpr ⟨value, hpadded, htext⟩
  · intro hsign
    have hprinted := value_decimal_of_nonneg hsign
    rw [← htext] at hprinted
    exact response_false_eq_ok_iff.mpr ⟨value, hprinted, htext⟩
  · intro hsign
    have hprinted := expr_decimal_of_neg hsign
    rw [← htext] at hprinted
    exact ⟨_, response_outcome_eq_error_iff.mpr hprinted, rfl⟩

/-- The least word, from a sum that wraps around. -/
theorem Line.response_reads_back_least :
    (Line.response false ("0" ++ "-9223372036854775808")).outcome =
        .ok "-9223372036854775808" ∧
      ∃ cause, (Line.response false "-9223372036854775808").outcome =
          .error (.grammar cause) ∧
        cause.expectation = "a number, found '-'" := by
  have hline : Line.Alternating "9223372036854775807 + 1"
      [⟨.number, "9223372036854775807"⟩, ⟨.plus, "+"⟩, ⟨.number, "1"⟩] :=
    ⟨by cbv, by decide, by decide⟩
  have hvalue : (Line.value "9223372036854775807 + 1").outcome =
      .ok (-9223372036854775808) := hline.value (by decide)
  have hresponse : (Line.response false "9223372036854775807 + 1").outcome =
      .ok "-9223372036854775808" :=
    Line.response_false_eq_ok_iff.mpr ⟨_, hvalue, by decide⟩
  rcases Line.response_reads_back _ _ hresponse with
    ⟨value, hread, _, hpadded, _, hfault⟩
  rw [hvalue, Except.ok.injEq] at hread
  rw [← hread] at hfault
  exact ⟨hpadded, hfault (by decide)⟩

end LineCalculator
