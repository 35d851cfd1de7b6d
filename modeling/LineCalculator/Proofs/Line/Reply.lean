import LineCalculator.Proofs.Line.Identity
import Mathlib.Tactic

/-!
# The reply to a line

A reply is the response to its line, or the message of the line's fault behind
a word of its own.  Its first character tells the two apart, and a newline in
it can only be the one between a tree and a value.  So a reply that is ended by
a newline can be read off the front of any text, and with it the outcome of
its line.
-/

namespace LineCalculator

def Line.reply (showTree : Bool) (line : String) : String :=
  match (Line.response showTree line).outcome with
  | .ok text => text
  | .error fault => "Error, " ++ fault.message

/-! ## Values -/

theorem isDigit_of_mem_repr {number : Nat} {c : Char}
    (hc : c ∈ number.repr.toList) : c.isDigit = true := by
  rw [Nat.repr, String.toList_ofList] at hc
  exact Nat.isDigit_of_mem_toDigits (by decide) (by decide) hc

theorem decimal_toList_ne_nil (value : Int64) : (decimal value).toList ≠ [] := by
  unfold decimal
  split
  · simp [Nat.repr]
  · simp

theorem isDigit_or_eq_minus_of_mem_decimal {value : Int64} {c : Char}
    (hc : c ∈ (decimal value).toList) : c.isDigit = true ∨ c = '-' := by
  unfold decimal at hc
  split at hc
  · exact .inl (isDigit_of_mem_repr hc)
  · rw [String.toList_append, List.mem_append] at hc
    rcases hc with hsign | hdigit
    · exact .inr (by simpa using hsign)
    · exact .inl (isDigit_of_mem_repr hdigit)

theorem newline_not_mem_decimal (value : Int64) :
    '\n' ∉ (decimal value).toList := by
  intro hmem
  rcases isDigit_or_eq_minus_of_mem_decimal hmem with hdigit | hminus
  · exact absurd hdigit (by decide)
  · exact absurd hminus (by decide)

/-! ## Faults -/

theorem Token.WellSpelled.newline_not_mem {token : Token}
    (hspelled : token.WellSpelled) : '\n' ∉ token.lexeme.toList := by
  rcases hspelled.cases_lexeme with ⟨_, _, hdigits⟩ | ⟨c, hlexeme, _, hsign⟩
  · intro hmem
    exact absurd (hdigits '\n' hmem) (by decide)
  · rw [hlexeme, String.toList_singleton, List.mem_singleton]
    intro hnewline
    rw [← hnewline] at hsign
    simp [Kind.ofSign?_eq_some_iff] at hsign

theorem Expr.expectation_of_ofTokens {tokens : List Token}
    {cause : GrammarFault} (hread : ofTokens tokens = .error cause) :
    cause = .operatorLimitExceeded ∨ cause = .numberExpected none ∨
      ∃ token ∈ tokens, cause = .numberExpected (some token.lexeme) ∨
        cause = .endExpected token.lexeme := by
  rw [ofTokens_eq_error_iff] at hread
  rcases Nat.lt_or_ge operatorLimit (appliedCount tokens) with hlimit | hlimit
  · rw [foretold_of_limit_lt hlimit, Option.some.injEq] at hread
    exact .inl hread.symm
  · rw [foretold_of_le_limit hlimit] at hread
    cases hfound : tokens[frontLength tokens]? with
    | none =>
        rw [hfound] at hread
        split at hread
        · exact .inr (.inl (by simpa using hread.symm))
        · simp at hread
    | some token =>
        rw [hfound] at hread
        refine .inr (.inr ⟨token, List.mem_of_getElem? hfound, ?_⟩)
        split at hread
        · exact .inl (by simpa using hread.symm)
        · exact .inr (by simpa using hread.symm)

namespace Line

theorem newline_not_mem_message {source : String} {fault : Fault}
    (hfault : (Line.expr source).outcome = .error fault) :
    '\n' ∉ fault.message.toList := by
  rcases expr_outcome_eq_error_iff.mp hfault with
    hscan | ⟨tokens, cause, hscan, hread, rfl⟩
  · obtain ⟨c, rfl, hfound⟩ := tokens_outcome_eq_error_iff.mp hscan
    have hforeign := List.find?_some hfound
    have hnewline : c ≠ '\n' := by
      intro hc
      rw [hc] at hforeign
      exact absurd hforeign (by decide)
    simp [hnewline.symm]
  · obtain ⟨layout, _, rfl⟩ := tokens_outcome_eq_ok_iff.mp hscan
    rcases Expr.expectation_of_ofTokens hread with
      rfl | rfl | ⟨token, hmem, rfl | rfl⟩
    · simp
    · simp
    · simp [(layout.wellSpelled_of_mem hmem).newline_not_mem]
    · simp [(layout.wellSpelled_of_mem hmem).newline_not_mem]

/-! ## Replies -/

variable {source : String} {tree : Expr} {fault : Fault}

theorem reply_of_expr (showTree : Bool)
    (htree : (Line.expr source).outcome = .ok tree) :
    Line.reply showTree source =
      (if showTree then tree.render ++ "\n" else "") ++
        decimal (Int64.ofInt tree.integer) := by
  rw [reply, response_outcome_of_expr showTree htree]

theorem reply_of_fault (showTree : Bool)
    (hfault : (Line.expr source).outcome = .error fault) :
    Line.reply showTree source = "Error, " ++ fault.message := by
  rw [reply, response_outcome_eq_error_iff.mpr hfault]

theorem head?_reply_of_expr (showTree : Bool)
    (htree : (Line.expr source).outcome = .ok tree) :
    ∃ c, (Line.reply showTree source).toList.head? = some c ∧
      (c = '(' ∨ c = '-' ∨ c.isDigit = true) := by
  rw [reply_of_expr showTree htree]
  cases showTree with
  | true =>
      obtain ⟨c, hhead, hclass⟩ :=
        (evaluable_of_expr htree).numeralLeaves.head?_render
      refine ⟨c, by simp [List.head?_append, hhead], ?_⟩
      exact hclass.imp_right .inr
  | false =>
      obtain ⟨c, text, htext⟩ := List.exists_cons_of_ne_nil
        (decimal_toList_ne_nil (Int64.ofInt tree.integer))
      refine ⟨c, by simp [htext], .inr ?_⟩
      apply Or.symm
      apply isDigit_or_eq_minus_of_mem_decimal
      rw [htext]
      exact List.mem_cons_self

theorem head?_reply_of_fault (showTree : Bool)
    (hfault : (Line.expr source).outcome = .error fault) :
    (Line.reply showTree source).toList.head? = some 'E' := by
  rw [reply_of_fault showTree hfault]
  simp

theorem count_newline_reply (showTree : Bool) (line : String) :
    (Line.reply showTree line).toList.count '\n' =
      match (Line.response showTree line).outcome with
      | .ok _ => showTree.toNat
      | .error _ => 0 := by
  cases houtcome : (Line.expr line).outcome with
  | ok tree =>
      rw [reply_of_expr showTree houtcome,
        response_outcome_of_expr showTree houtcome]
      have hvalue := newline_not_mem_decimal (Int64.ofInt tree.integer)
      have hrender :=
        (evaluable_of_expr houtcome).numeralLeaves.newline_not_mem_render
      cases showTree with
      | true =>
          simp [List.count_eq_zero_of_not_mem hvalue,
            List.count_eq_zero_of_not_mem hrender]
      | false => simp [List.count_eq_zero_of_not_mem hvalue]
  | error fault =>
      rw [reply_of_fault showTree houtcome,
        response_outcome_eq_error_iff.mpr houtcome]
      have hmessage := newline_not_mem_message houtcome
      simp [List.count_eq_zero_of_not_mem hmessage]

end Line

theorem head_eq_of_append_eq {first second rest others : List Char} {c d : Char}
    (hfirst : first.head? = some c) (hsecond : second.head? = some d)
    (htext : first ++ rest = second ++ others) : c = d := by
  have hheads := congrArg List.head? htext
  simpa [List.head?_append, hfirst, hsecond] using hheads

namespace Line

theorem reply_of_expr_ne_reply_of_fault {first second : String} {tree : Expr}
    {fault : Fault} {rest others : List Char} (showTree : Bool)
    (htree : (Line.expr first).outcome = .ok tree)
    (hfault : (Line.expr second).outcome = .error fault) :
    (Line.reply showTree first).toList ++ rest ≠
      (Line.reply showTree second).toList ++ others := by
  intro htext
  obtain ⟨c, hhead, hclass⟩ := head?_reply_of_expr showTree htree
  obtain rfl := head_eq_of_append_eq hhead (head?_reply_of_fault showTree hfault)
    htext
  exact absurd hclass (by decide)

/-- A reply is read off the front of a text without a choice, and so is the
outcome that it tells. -/
theorem reply_append_inj {first second : String} {rest others : List Char}
    (showTree : Bool)
    (htext : (Line.reply showTree first).toList ++ '\n' :: rest =
      (Line.reply showTree second).toList ++ '\n' :: others) :
    (Line.response showTree first).outcome =
        (Line.response showTree second).outcome ∧
      rest = others := by
  cases hfirst : (Line.expr first).outcome with
  | error fault =>
      cases hsecond : (Line.expr second).outcome with
      | error other =>
          rw [reply_of_fault showTree hfirst, reply_of_fault showTree hsecond]
            at htext
          obtain ⟨hmessage, hrest⟩ := append_separator_inj
            (by simpa using newline_not_mem_message hfirst)
            (by simpa using newline_not_mem_message hsecond) htext
          obtain rfl : fault = other := by
            apply Fault.message_injective
            simpa using String.toList_inj.mp hmessage
          rw [response_outcome_eq_error_iff.mpr hfirst,
            response_outcome_eq_error_iff.mpr hsecond]
          exact ⟨rfl, hrest⟩
      | ok tree =>
          exact absurd htext.symm
            (reply_of_expr_ne_reply_of_fault showTree hsecond hfirst)
  | ok tree =>
      cases hsecond : (Line.expr second).outcome with
      | error fault =>
          exact absurd htext
            (reply_of_expr_ne_reply_of_fault showTree hfirst hsecond)
      | ok other =>
          have hvalue := newline_not_mem_decimal (Int64.ofInt tree.integer)
          have hotherValue := newline_not_mem_decimal (Int64.ofInt other.integer)
          rw [reply_of_expr showTree hfirst, reply_of_expr showTree hsecond]
            at htext
          rw [response_outcome_of_expr showTree hfirst,
            response_outcome_of_expr showTree hsecond, Except.ok.injEq]
          cases showTree with
          | true =>
              simp only [if_true, String.toList_append, List.append_assoc]
                at htext
              obtain ⟨hrender, hbelow⟩ := append_separator_inj
                (evaluable_of_expr hfirst).numeralLeaves.newline_not_mem_render
                (evaluable_of_expr hsecond).numeralLeaves.newline_not_mem_render
                htext
              obtain ⟨hdecimal, hrest⟩ := append_separator_inj hvalue
                hotherValue hbelow
              rw [String.toList_inj.mp hrender, String.toList_inj.mp hdecimal]
              exact ⟨rfl, hrest⟩
          | false =>
              simp only [Bool.false_eq_true, if_false, String.empty_append]
                at htext ⊢
              obtain ⟨hdecimal, hrest⟩ := append_separator_inj hvalue
                hotherValue htext
              exact ⟨String.toList_inj.mp hdecimal, hrest⟩

end Line

end LineCalculator
