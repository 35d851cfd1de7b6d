import LineCalculator.Proofs.Token.Layout
import Mathlib.Tactic

/-!
# Scanning a text in two parts

A cut through a text matters to a scan only if digits stand on both sides of
it.  Then one number straddles the cut, and the parts hold its halves.  At any
other cut the scan of the whole text is the scan of the first part, continued
in the second.

`Cursor.scan_append` says so for positions as well as for tokens.  Blanks have
no tokens, so putting some in or taking some out is a matter of two such cuts.
-/

namespace LineCalculator

/-- Whether a cut has digits on both sides. -/
def cutsNumber (before after : List Char) : Bool :=
  before.getLast?.any Char.isDigit && after.head?.any Char.isDigit

section Cuts

variable {before after : List Char}

theorem cutsNumber_of_getLast? (hlast : ∀ c ∈ before.getLast?, c.isDigit = false) :
    cutsNumber before after = false := by
  cases hcase : before.getLast? with
  | none => simp [cutsNumber, hcase]
  | some c => simp [cutsNumber, hcase, hlast c hcase]

theorem cutsNumber_of_head? (hhead : ∀ c ∈ after.head?, c.isDigit = false) :
    cutsNumber before after = false := by
  cases hcase : after.head? with
  | none => simp [cutsNumber, hcase]
  | some c => simp [cutsNumber, hcase, hhead c hcase]

theorem head?_of_cutsNumber_eq_false {c : Char} (hlast : c.isDigit = true)
    (hcut : cutsNumber (before ++ [c]) after = false) :
    ∀ d ∈ after.head?, d.isDigit = false := by
  intro d hd
  simpa [cutsNumber, hlast, Option.mem_def.mp hd] using hcut

theorem cutsNumber_append_left {front : List Char} (hne : before ≠ []) :
    cutsNumber (front ++ before) after = cutsNumber before after := by
  rw [cutsNumber, List.getLast?_append_of_ne_nil _ hne, cutsNumber]

end Cuts

theorem isDigit_eq_false_of_isForeign {c : Char} (hforeign : isForeign c = true) :
    c.isDigit = false := by
  simp only [isForeign, Bool.not_eq_true', Bool.or_eq_false_iff] at hforeign
  exact hforeign.1.1.1.2

namespace Cursor

/-! ## Continuing a scan at a cut -/

theorem scan_eq_of_next_eq {first second : Cursor}
    (hnext : first.next = second.next) : first.scan = second.scan := by
  rcases hsecond : second.next with ⟨step, after⟩
  rw [hsecond] at hnext
  cases step with
  | token found => rw [scan_of_token hnext, scan_of_token hsecond]
  | foreign c => rw [scan_of_foreign hnext, scan_of_foreign hsecond]
  | done => rw [scan_of_done hnext, scan_of_done hsecond]

theorem scan_blanks_append (offset : Nat) {blanks : List Char}
    (hblanks : ∀ c ∈ blanks, isBlank c = true) (text : List Char) :
    (Cursor.mk offset (blanks ++ text)).scan =
      (Cursor.mk (offset + byteLength blanks) text).scan := by
  apply scan_eq_of_next_eq
  rcases exists_run isBlank text with ⟨more, tail, htext, hmore, htail⟩
  have hall : ∀ c ∈ blanks ++ more, isBlank c = true :=
    List.forall_mem_append.mpr ⟨hblanks, hmore⟩
  rw [htext, ← List.append_assoc, next, next, skipBlanks_append _ hall htail,
    skipBlanks_append _ hmore htail, byteLength_append, Nat.add_assoc]

theorem scan_lexeme (offset : Nat) {token : Token}
    (hspelled : token.WellSpelled) :
    (Cursor.mk offset token.lexeme.toList).scan = ⟨[⟨token, offset⟩], none⟩ := by
  have hblanks : ∀ c ∈ ([] : List Char), isBlank c = true := by simp
  have htail : token.kind = .number →
      ∀ c ∈ ([] : List Char).head?, c.isDigit = false := by simp
  have hnext := next_spelled offset hblanks hspelled htail
  rw [List.nil_append, List.append_nil] at hnext
  rw [scan_of_token hnext, scan_of_done (next_blanks _ hblanks)]
  simp

/-- Nothing behind a foreign character is looked at. -/
theorem scan_append_of_foreign (offset : Nat) {first : List Char}
    (hforeign : ∃ c ∈ first, isForeign c = true) (second : List Char) :
    (Cursor.mk offset (first ++ second)).scan = (Cursor.mk offset first).scan := by
  induction first using scan_induction generalizing offset with
  | token blanks token tail hblanks hspelled htail ih =>
      have hbehind : ∃ c ∈ tail, isForeign c = true := by
        rcases hforeign with ⟨c, hc, hclass⟩
        rw [List.mem_append, List.mem_append] at hc
        rcases hc with hblank | hlexeme | hc
        · rw [isForeign_eq_false_of_isBlank (hblanks c hblank)] at hclass
          contradiction
        · rw [hspelled.not_isForeign hlexeme] at hclass
          contradiction
        · exact ⟨c, hc, hclass⟩
      have hne : tail ≠ [] := by
        intro hnil
        simp [hnil] at hbehind
      have hhead : token.kind = .number →
          ∀ c ∈ (tail ++ second).head?, c.isDigit = false := by
        rw [List.head?_append_of_ne_nil _ hne]
        exact htail
      rw [List.append_assoc, List.append_assoc,
        scan_of_token (next_spelled offset hblanks hspelled hhead),
        scan_of_token (next_spelled offset hblanks hspelled htail),
        ih _ hbehind]
  | foreign blanks c tail hblanks hclass =>
      rw [List.append_assoc, List.cons_append,
        scan_of_foreign (next_foreign offset hblanks hclass),
        scan_of_foreign (next_foreign offset hblanks hclass)]
  | done blanks hblanks =>
      rcases hforeign with ⟨c, hc, hclass⟩
      rw [isForeign_eq_false_of_isBlank (hblanks c hc)] at hclass
      contradiction

theorem scan_append (offset : Nat) {first second : List Char}
    (hclean : ∀ c ∈ first, isForeign c = false)
    (hcut : cutsNumber first second = false) :
    (Cursor.mk offset (first ++ second)).scan =
      ⟨(Cursor.mk offset first).scan.found ++
          (Cursor.mk (offset + byteLength first) second).scan.found,
        (Cursor.mk (offset + byteLength first) second).scan.foreign⟩ := by
  induction first using scan_induction generalizing offset with
  | token blanks token tail hblanks hspelled htail ih =>
      have hhead : token.kind = .number →
          ∀ c ∈ (tail ++ second).head?, c.isDigit = false := by
        intro hnumber
        cases tail with
        | cons c tail => simpa using htail hnumber
        | nil =>
            -- The lexeme ends at the cut, and its last character is a digit.
            rcases hspelled.cases_lexeme with
              ⟨_, hne, hdigits⟩ | ⟨c, _, _, hsign⟩
            · rw [List.append_nil, cutsNumber_append_left hne,
                ← List.dropLast_append_getLast hne] at hcut
              exact head?_of_cutsNumber_eq_false
                (hdigits _ (List.getLast_mem hne)) hcut
            · simp [hnumber, Kind.ofSign?_eq_some_iff] at hsign
      have hbehind : cutsNumber tail second = false := by
        cases tail with
        | nil => rfl
        | cons c tail =>
            rwa [cutsNumber_append_left (by simp),
              cutsNumber_append_left (by simp)] at hcut
      have hrest : ∀ c ∈ tail, isForeign c = false := by
        intro c hc
        exact hclean c (by simp [hc])
      rw [List.append_assoc, List.append_assoc,
        scan_of_token (next_spelled offset hblanks hspelled hhead),
        scan_of_token (next_spelled offset hblanks hspelled htail),
        ih _ hrest hbehind]
      simp [Nat.add_assoc]
  | foreign blanks c tail hblanks hclass =>
      rw [hclean c (by simp)] at hclass
      contradiction
  | done blanks hblanks =>
      rw [scan_blanks_append offset hblanks,
        scan_of_done (next_blanks offset hblanks)]
      simp

/-- A foreign character ends the scan of the text in front of it. -/
theorem scan_append_cons_foreign (offset : Nat) {before after : List Char}
    {c : Char} (hclean : ∀ d ∈ before, isForeign d = false)
    (hforeign : isForeign c = true) :
    (Cursor.mk offset (before ++ c :: after)).scan =
      ⟨(Cursor.mk offset before).scan.found, some c⟩ := by
  have hcut : cutsNumber before (c :: after) = false := by
    apply cutsNumber_of_head?
    simpa using isDigit_eq_false_of_isForeign hforeign
  have hblanks : ∀ d ∈ ([] : List Char), isBlank d = true := by simp
  have hnext : (Cursor.mk (offset + byteLength before) (c :: after)).next = _ :=
    next_foreign (offset + byteLength before) hblanks hforeign
  rw [scan_append offset hclean hcut, scan_of_foreign hnext, List.append_nil]

/-- Blanks behind the last token are passed without a trace. -/
theorem scan_append_blanks (offset : Nat) (text : List Char)
    {blanks : List Char} (hblanks : ∀ c ∈ blanks, isBlank c = true) :
    (Cursor.mk offset (text ++ blanks)).scan = (Cursor.mk offset text).scan := by
  by_cases hforeign : ∃ c ∈ text, isForeign c = true
  · exact scan_append_of_foreign offset hforeign blanks
  · have hclean : ∀ c ∈ text, isForeign c = false := by
      simpa using hforeign
    have hnone : (Cursor.mk offset text).scan.foreign = none := by
      rw [scan_foreign]
      simpa using hclean
    have hcut : cutsNumber text blanks = false := by
      apply cutsNumber_of_head?
      intro c hc
      exact isDigit_eq_false_of_isBlank (hblanks c (List.mem_of_mem_head? hc))
    rw [scan_append offset hclean hcut, scan_of_done (next_blanks _ hblanks),
      List.append_nil, ← hnone]

/-- The tokens of a text do not depend on where the text stands. -/
theorem map_token_scan (offset other : Nat) (text : List Char) :
    (Cursor.mk offset text).scan.found.map Located.token =
      (Cursor.mk other text).scan.found.map Located.token := by
  induction text using scan_induction generalizing offset other with
  | token blanks token tail hblanks hspelled htail ih =>
      rw [scan_of_token (next_spelled offset hblanks hspelled htail),
        scan_of_token (next_spelled other hblanks hspelled htail)]
      simp only [List.map_cons]
      rw [ih]
  | foreign blanks c tail hblanks hclass =>
      rw [scan_of_foreign (next_foreign offset hblanks hclass),
        scan_of_foreign (next_foreign other hblanks hclass)]
  | done blanks hblanks =>
      rw [scan_of_done (next_blanks offset hblanks),
        scan_of_done (next_blanks other hblanks)]

end Cursor

/-! ## The digits at a cut -/

theorem exists_digits_ahead {text : List Char}
    (hhead : text.head?.any Char.isDigit = true) :
    ∃ digits back, text = digits ++ back ∧
      (Token.mk .number (String.ofList digits)).WellSpelled ∧
      ∀ c ∈ back.head?, c.isDigit = false := by
  rcases exists_run Char.isDigit text with ⟨digits, back, htext, hdigits, hback⟩
  have hne : digits ≠ [] := by
    intro hnil
    rw [htext, hnil, List.nil_append] at hhead
    cases hcase : back.head? with
    | none => simp [hcase] at hhead
    | some c => simp [hcase, hback c hcase] at hhead
  refine ⟨digits, back, htext, ?_, hback⟩
  simpa [Token.WellSpelled] using And.intro hne hdigits

theorem exists_digits_behind {text : List Char}
    (hlast : text.getLast?.any Char.isDigit = true) :
    ∃ front digits, text = front ++ digits ∧
      (Token.mk .number (String.ofList digits)).WellSpelled ∧
      ∀ c ∈ front.getLast?, c.isDigit = false := by
  rw [← List.head?_reverse] at hlast
  rcases exists_digits_ahead hlast with ⟨digits, back, htext, hdigits, hback⟩
  refine ⟨back.reverse, digits.reverse, ?_, ?_, ?_⟩
  · rw [← List.reverse_append, ← htext, List.reverse_reverse]
  · simpa [Token.WellSpelled] using hdigits
  · simpa using hback

theorem Token.WellSpelled.number_append {digits more : String}
    (hdigits : (Token.mk .number digits).WellSpelled)
    (hmore : (Token.mk .number more).WellSpelled) :
    (Token.mk .number (digits ++ more)).WellSpelled := by
  simp only [Token.WellSpelled, String.toList_append] at hdigits hmore ⊢
  refine ⟨?_, List.forall_mem_append.mpr ⟨hdigits.2, hmore.2⟩⟩
  intro hnil
  exact hdigits.1 (List.append_eq_nil_iff.mp hnil).1

namespace Line

/-! ## The tokens of two parts -/

theorem tokens_outcome_eq (source : String) :
    (Line.tokens source).outcome =
      match source.toList.find? isForeign with
      | some c => .error (.foreign c)
      | none => .ok ((Scan.ofString source).found.map Located.token) := by
  simp only [Line.tokens, Scan.tokens, Scan.ofString, Cursor.start,
    Cursor.scan_foreign]
  cases source.toList.find? isForeign <;> rfl

theorem tokens_append {first second : String}
    (hcut : cutsNumber first.toList second.toList = false) :
    (Line.tokens (first ++ second)).outcome = do
      let found ← (Line.tokens first).outcome
      let others ← (Line.tokens second).outcome
      return found ++ others := by
  rw [tokens_outcome_eq (first ++ second), tokens_outcome_eq first,
    tokens_outcome_eq second, String.toList_append, List.find?_append]
  cases hfirst : first.toList.find? isForeign with
  | some c => rfl
  | none =>
      have hclean : ∀ c ∈ first.toList, isForeign c = false := by
        simpa using hfirst
      cases hsecond : second.toList.find? isForeign with
      | some c => rfl
      | none =>
          have hscan := Cursor.scan_append 0 hclean hcut
          rw [← String.toList_append] at hscan
          simp only [Scan.ofString, Cursor.start, hscan, List.map_append,
            Cursor.map_token_scan (0 + byteLength first.toList) 0]
          rfl

theorem tokens_append_eq_ok_iff {first second : String} {whole : List Token}
    (hcut : cutsNumber first.toList second.toList = false) :
    (Line.tokens (first ++ second)).outcome = .ok whole ↔
      ∃ found others, (Line.tokens first).outcome = .ok found ∧
        (Line.tokens second).outcome = .ok others ∧ whole = found ++ others := by
  rw [tokens_append hcut]
  cases (Line.tokens first).outcome with
  | error fault => simp [Bind.bind, Except.bind]
  | ok found =>
      cases (Line.tokens second).outcome with
      | error fault => simp [Bind.bind, Except.bind]
      | ok others => simp [Bind.bind, Except.bind, Pure.pure, Except.pure, eq_comm]

theorem tokens_append_of_error {first : String} {fault : Fault}
    (hfirst : (Line.tokens first).outcome = .error fault) (second : String) :
    (Line.tokens (first ++ second)).outcome = .error fault := by
  rw [tokens_outcome_eq_error_iff] at hfirst ⊢
  rcases hfirst with ⟨c, hfault, hfound⟩
  exact ⟨c, hfault, by simp [hfound]⟩

theorem tokens_append_of_error_right {first second : String} {found : List Token}
    {fault : Fault} (hfirst : (Line.tokens first).outcome = .ok found)
    (hsecond : (Line.tokens second).outcome = .error fault) :
    (Line.tokens (first ++ second)).outcome = .error fault := by
  have hclean : first.toList.find? isForeign = none := by
    rw [tokens_outcome_eq] at hfirst
    cases hcase : first.toList.find? isForeign with
    | none => rfl
    | some c => simp [hcase] at hfirst
  rw [tokens_outcome_eq_error_iff] at hsecond ⊢
  rcases hsecond with ⟨c, hfault, hfound⟩
  exact ⟨c, hfault, by simp [hclean, hfound]⟩

theorem tokens_lexeme {token : Token} (hspelled : token.WellSpelled) :
    (Line.tokens token.lexeme).outcome = .ok [token] := by
  have hscan : Scan.ofString token.lexeme = ⟨[⟨token, 0⟩], none⟩ :=
    Cursor.scan_lexeme 0 hspelled
  rw [Line.tokens, hscan]
  rfl

theorem tokens_blanks {blanks : String}
    (hblanks : ∀ c ∈ blanks.toList, isBlank c = true) :
    (Line.tokens blanks).outcome = .ok [] := by
  have hscan : Scan.ofString blanks = ⟨[], none⟩ :=
    Cursor.scan_of_done (Cursor.next_blanks 0 hblanks)
  rw [Line.tokens, hscan]
  rfl

theorem tokens_append_of_cutsNumber {first second : String}
    {found others : List Token}
    (hcut : cutsNumber first.toList second.toList = true)
    (hfirst : (Line.tokens first).outcome = .ok found)
    (hsecond : (Line.tokens second).outcome = .ok others) :
    ∃ front digits more back, found = front ++ [⟨.number, digits⟩] ∧
      others = ⟨.number, more⟩ :: back ∧
      (Line.tokens (first ++ second)).outcome =
        .ok (front ++ ⟨.number, digits ++ more⟩ :: back) := by
  rw [cutsNumber, Bool.and_eq_true] at hcut
  rcases exists_digits_behind hcut.1 with
    ⟨before, digits, hfirstText, hdigits, hbefore⟩
  rcases exists_digits_ahead hcut.2 with
    ⟨more, behind, hsecondText, hmore, hbehind⟩
  have hleft : first = String.ofList before ++ String.ofList digits := by
    apply String.toList_inj.mp
    simp [hfirstText]
  have hright : second = String.ofList more ++ String.ofList behind := by
    apply String.toList_inj.mp
    simp [hsecondText]
  have hmerged := tokens_lexeme (hdigits.number_append hmore)
  -- The number in the middle is a part of its own, with no cut at its ends.
  have hfrontCut : ∀ text, cutsNumber (String.ofList before).toList text = false := by
    intro text
    apply cutsNumber_of_getLast?
    simpa using hbefore
  have hbackCut : ∀ text, cutsNumber text (String.ofList behind).toList = false := by
    intro text
    apply cutsNumber_of_head?
    simpa using hbehind
  rw [hleft, tokens_append_eq_ok_iff (hfrontCut _), tokens_lexeme hdigits] at hfirst
  rw [hright, tokens_append_eq_ok_iff (hbackCut _), tokens_lexeme hmore] at hsecond
  rcases hfirst with ⟨front, last, hfront, hlast, hfound⟩
  rcases hsecond with ⟨next, back, hnext, hback, hothers⟩
  rw [Except.ok.injEq] at hlast hnext
  subst hlast hnext
  refine ⟨front, String.ofList digits, String.ofList more, back, hfound, hothers, ?_⟩
  have htext : first ++ second = String.ofList before ++
      (String.ofList digits ++ String.ofList more ++ String.ofList behind) := by
    simp only [hleft, hright, String.append_assoc]
  rw [htext, tokens_append_eq_ok_iff (hfrontCut _)]
  refine ⟨front, _, hfront, ?_, rfl⟩
  rw [tokens_append_eq_ok_iff (hbackCut _)]
  exact ⟨_, back, hmerged, hback, rfl⟩

/-! ## Blanks put in or taken out -/

theorem tokens_insert_blanks {before blanks after : String}
    (hblanks : ∀ c ∈ blanks.toList, isBlank c = true)
    (hcut : cutsNumber before.toList after.toList = false) :
    (Line.tokens (before ++ blanks ++ after)).outcome =
      (Line.tokens (before ++ after)).outcome := by
  have hlast : ∀ c ∈ blanks.toList.getLast?, c.isDigit = false := by
    intro c hc
    exact isDigit_eq_false_of_isBlank (hblanks c (List.mem_of_mem_getLast? hc))
  have hbehind : (Line.tokens (blanks ++ after)).outcome =
      (Line.tokens after).outcome := by
    rw [tokens_append (cutsNumber_of_getLast? hlast), tokens_blanks hblanks]
    cases (Line.tokens after).outcome <;> rfl
  have hwhole : cutsNumber before.toList (blanks ++ after).toList = false := by
    cases hcase : blanks.toList with
    | nil => rwa [String.toList_append, hcase, List.nil_append]
    | cons c rest =>
        apply cutsNumber_of_head?
        have hblank : isBlank c = true := hblanks c (by simp [hcase])
        simpa [hcase] using isDigit_eq_false_of_isBlank hblank
  rw [String.append_assoc, tokens_append hwhole, tokens_append hcut, hbehind]

end Line

theorem Traced.bind_outcome_congr {α β : Type} {first second : Traced α}
    (next : α → Traced β) (houtcome : first.outcome = second.outcome) :
    (first >>= next).outcome = (second >>= next).outcome := by
  cases hsecond : second.outcome with
  | error fault =>
      rw [hsecond] at houtcome
      rw [Traced.bind_of_error next houtcome, Traced.bind_of_error next hsecond]
  | ok found =>
      rw [hsecond] at houtcome
      rw [Traced.bind_of_ok next houtcome, Traced.bind_of_ok next hsecond]

namespace Line

variable {first second : String}

theorem expr_outcome_congr
    (htokens : (Line.tokens first).outcome = (Line.tokens second).outcome) :
    (Line.expr first).outcome = (Line.expr second).outcome :=
  Traced.bind_outcome_congr _ htokens

theorem value_outcome_congr
    (htokens : (Line.tokens first).outcome = (Line.tokens second).outcome) :
    (Line.value first).outcome = (Line.value second).outcome :=
  Traced.bind_outcome_congr _ (expr_outcome_congr htokens)

theorem response_outcome_congr (showTree : Bool)
    (htokens : (Line.tokens first).outcome = (Line.tokens second).outcome) :
    (Line.response showTree first).outcome =
      (Line.response showTree second).outcome := by
  cases showTree with
  | true => exact Traced.bind_outcome_congr _ (expr_outcome_congr htokens)
  | false => exact Traced.bind_outcome_congr _ (value_outcome_congr htokens)

end Line

/-- The tokens of two texts in a row are those of the first and those of the
second, and a fault of either is a fault of both together, the first one's
before the second one's.  Only a cut between two digits is different: the
number in front of it and the number behind it are one.  So blanks that do not
stand between two digits may come and go. -/
theorem Line.tokens_distribute_over_append (first second : String) :
    (∀ fault, (Line.tokens first).outcome = .error fault →
        (Line.tokens (first ++ second)).outcome = .error fault) ∧
      (cutsNumber first.toList second.toList = false →
        ∀ found, (Line.tokens first).outcome = .ok found →
          (∀ others, (Line.tokens second).outcome = .ok others →
            (Line.tokens (first ++ second)).outcome = .ok (found ++ others)) ∧
          ∀ fault, (Line.tokens second).outcome = .error fault →
            (Line.tokens (first ++ second)).outcome = .error fault) ∧
      (cutsNumber first.toList second.toList = true →
        ∀ found, (Line.tokens first).outcome = .ok found →
          (∀ others, (Line.tokens second).outcome = .ok others →
            ∃ front digits more back, found = front ++ [⟨.number, digits⟩] ∧
              others = [⟨.number, more⟩] ++ back ∧
              (Line.tokens (first ++ second)).outcome =
                .ok (front ++ [⟨.number, digits ++ more⟩] ++ back)) ∧
          ∀ fault, (Line.tokens second).outcome = .error fault →
            (Line.tokens (first ++ second)).outcome = .error fault) ∧
      (cutsNumber first.toList second.toList = false →
        ∀ blanks : String, (∀ c ∈ blanks.toList, isBlank c = true) →
          (Line.tokens (first ++ blanks ++ second)).outcome =
              (Line.tokens (first ++ second)).outcome ∧
            (Line.value (first ++ blanks ++ second)).outcome =
              (Line.value (first ++ second)).outcome ∧
            ∀ showTree,
              (Line.response showTree (first ++ blanks ++ second)).outcome =
                (Line.response showTree (first ++ second)).outcome) := by
  have hright : ∀ found, (Line.tokens first).outcome = .ok found →
      ∀ fault, (Line.tokens second).outcome = .error fault →
        (Line.tokens (first ++ second)).outcome = .error fault := by
    intro found hfirst fault hsecond
    exact tokens_append_of_error_right hfirst hsecond
  refine ⟨?_, ?_, ?_, ?_⟩
  · intro fault hfirst
    exact tokens_append_of_error hfirst second
  · intro hcut found hfirst
    refine ⟨?_, hright found hfirst⟩
    intro others hsecond
    rw [tokens_append_eq_ok_iff hcut]
    exact ⟨found, others, hfirst, hsecond, rfl⟩
  · intro hcut found hfirst
    refine ⟨?_, hright found hfirst⟩
    intro others hsecond
    simpa using tokens_append_of_cutsNumber hcut hfirst hsecond
  · intro hcut blanks hblanks
    have htokens := tokens_insert_blanks hblanks hcut
    exact ⟨htokens, value_outcome_congr htokens,
      fun showTree => response_outcome_congr showTree htokens⟩

/-- A number across the cut, and a wide blank put in front of an operator. -/
theorem Line.tokens_distribute_over_append_straddling :
    (Line.tokens ("1-02" ++ "30 *")).outcome =
        .ok [⟨.number, "1"⟩, ⟨.minus, "-"⟩, ⟨.number, "0230"⟩, ⟨.times, "*"⟩] ∧
      (Line.response true ("1-02" ++ "\u3000" ++ "*30")).outcome =
        (Line.response true ("1-02" ++ "*30")).outcome := by
  have hfirst : (Line.tokens "1-02").outcome =
      .ok ([⟨.number, "1"⟩, ⟨.minus, "-"⟩] ++ [⟨.number, "02"⟩]) := by cbv
  have hsecond : (Line.tokens "30 *").outcome =
      .ok ([⟨.number, "30"⟩] ++ [⟨.times, "*"⟩]) := by cbv
  have hblank : isBlank '\u3000' = true := by decide
  rcases ((Line.tokens_distribute_over_append "1-02" "30 *").2.2.1 (by decide)
    _ hfirst).1 _ hsecond with ⟨front, digits, more, back, hfound, hothers, hwhole⟩
  have hfront := List.append_inj_left' hfound (by simp)
  have hdigits := List.append_inj_right' hfound (by simp)
  simp only [List.cons.injEq, Token.mk.injEq, List.cons_append, List.nil_append]
    at hdigits hothers
  have hblanks := (Line.tokens_distribute_over_append "1-02" "*30").2.2.2
    (by decide) "\u3000" (by simpa using hblank)
  refine ⟨?_, hblanks.2.2 true⟩
  rw [hwhole, ← hfront, ← hdigits.1.2, ← hothers.1.2, ← hothers.2]
  rfl

end LineCalculator
