import LineCalculator.Expr.Grammar
import Mathlib.Tactic

/-!
# The trees that token lists spell

A tree spells a list of tokens if an in-order walk over it meets them one by
one.  Many trees spell the same list.  The grammar picks the one in which
chains nest to the left and no sum stands below a multiplication, and reading
finds exactly that tree.

Soundness carries one invariant through both loops: a partial reading covers
the tokens in front of the cursor and has counted its own operators.
Completeness follows the shape of the tree, from the product grammar to the
sum grammar.
-/

namespace LineCalculator

namespace Kind

variable {kind : Kind}

theorem ne_times_of_isAdditive (hkind : kind.isAdditive = true) :
    kind ≠ .times := by
  intro htimes
  simp [htimes, isAdditive] at hkind

theorem ne_number_of_isAdditive (hkind : kind.isAdditive = true) :
    kind ≠ .number := by
  intro hnumber
  simp [hnumber, isAdditive] at hkind

theorem eq_number_of_not_operator (htimes : kind ≠ .times)
    (hadditive : kind.isAdditive = false) : kind = .number := by
  cases kind with
  | number => rfl
  | times => contradiction
  | plus => simp [isAdditive] at hadditive
  | minus => simp [isAdditive] at hadditive

end Kind

namespace Expr

inductive Entry where
  | leaf (token : Token)
  | node (operator : Kind)
  deriving DecidableEq, Repr

/-- A leaf stands for one token only, a node for every token of its kind. -/
def Entry.Matches : Entry → Token → Prop
  | .leaf expected, token => token = expected
  | .node operator, token => token.kind = operator

def inOrder : Expr → List Entry
  | .literal token => [.leaf token]
  | .binary operator left right =>
      left.inOrder ++ .node operator :: right.inOrder

def Spells (expr : Expr) (tokens : List Token) : Prop :=
  List.Forall₂ Entry.Matches expr.inOrder tokens

def operatorCount : Expr → Nat
  | .literal _ => 0
  | .binary _ left right => left.operatorCount + right.operatorCount + 1

def WellKinded : Expr → Prop
  | .literal token => token.kind = .number
  | .binary operator left right =>
      operator ≠ .number ∧ left.WellKinded ∧ right.WellKinded

def isLiteral : Expr → Bool
  | .literal _ => true
  | .binary _ _ _ => false

def isAdditive : Expr → Bool
  | .literal _ => false
  | .binary operator _ _ => operator.isAdditive

/-- Chains nest to the left, and no additive node stands below a
multiplication. -/
def Nested : Expr → Prop
  | .literal _ => True
  | .binary operator left right =>
      (operator = .times → right.isLiteral = true ∧ left.isAdditive = false) ∧
        (operator.isAdditive = true → right.isAdditive = false) ∧
        left.Nested ∧ right.Nested

/-- The tree that the grammar assigns to a list of tokens. -/
structure IsTreeOf (expr : Expr) (tokens : List Token) : Prop where
  spells : expr.Spells tokens
  kinds : expr.WellKinded
  nested : expr.Nested
  bounded : expr.operatorCount ≤ 1024

/-! ## Spelling -/

@[simp] theorem spells_literal {token : Token} {tokens : List Token} :
    (literal token).Spells tokens ↔ tokens = [token] := by
  simp [Spells, inOrder, Entry.Matches, List.forall₂_cons_left_iff]

theorem forall₂_append_left {α β : Type} {r : α → β → Prop}
    {first second : List α} {whole : List β} :
    List.Forall₂ r (first ++ second) whole ↔
      ∃ before after, whole = before ++ after ∧
        List.Forall₂ r first before ∧ List.Forall₂ r second after := by
  induction first generalizing whole with
  | nil => simp
  | cons entry first ih =>
      simp only [List.cons_append, List.forall₂_cons_left_iff, ih]
      constructor
      · rintro ⟨item, rest, hitem, ⟨before, after, rfl, hbefore, hafter⟩, rfl⟩
        exact ⟨item :: before, after, rfl, ⟨item, before, hitem, hbefore, rfl⟩,
          hafter⟩
      · rintro ⟨_, after, rfl, ⟨item, before, hitem, hbefore, rfl⟩, hafter⟩
        exact ⟨item, before ++ after, hitem, ⟨before, after, rfl, hbefore, hafter⟩,
          rfl⟩

theorem spells_binary {operator : Kind} {left right : Expr}
    {tokens : List Token} :
    (binary operator left right).Spells tokens ↔
      ∃ before sign after, tokens = before ++ sign :: after ∧
        sign.kind = operator ∧ left.Spells before ∧ right.Spells after := by
  simp only [Spells, inOrder, forall₂_append_left, List.forall₂_cons_left_iff]
  constructor
  · rintro ⟨before, _, rfl, hleft, sign, after, hsign, hright, rfl⟩
    exact ⟨before, sign, after, rfl, hsign, hleft, hright⟩
  · rintro ⟨before, sign, after, rfl, hsign, hleft, hright⟩
    exact ⟨before, sign :: after, rfl, hleft, sign, after, hsign, hright, rfl⟩

/-! ## Products and sums -/

inductive IsProduct : Expr → Prop where
  | number {token : Token} (hkind : token.kind = .number) :
      IsProduct (.literal token)
  | times {left : Expr} {token : Token} (hleft : IsProduct left)
      (hkind : token.kind = .number) :
      IsProduct (.binary .times left (.literal token))

inductive IsSum : Expr → Prop where
  | product {expr : Expr} (hproduct : IsProduct expr) : IsSum expr
  | join {operator : Kind} {left right : Expr}
      (hoperator : operator.isAdditive = true) (hleft : IsSum left)
      (hright : IsProduct right) : IsSum (.binary operator left right)

theorem IsProduct.isAdditive_eq_false {expr : Expr} (hproduct : expr.IsProduct) :
    expr.isAdditive = false := by
  cases hproduct <;> rfl

theorem IsSum.isProduct_of_isAdditive_eq_false {expr : Expr}
    (hsum : expr.IsSum) (hroot : expr.isAdditive = false) : expr.IsProduct := by
  cases hsum with
  | product hproduct => exact hproduct
  | join hoperator _ _ => simp [isAdditive, hoperator] at hroot

theorem IsProduct.wellKinded_and_nested {expr : Expr}
    (hproduct : expr.IsProduct) : expr.WellKinded ∧ expr.Nested := by
  induction hproduct with
  | number hkind => exact ⟨hkind, trivial⟩
  | times hleft hkind ih =>
      have hroot := hleft.isAdditive_eq_false
      simp [WellKinded, Nested, isLiteral, Kind.isAdditive, hkind, hroot, ih]

theorem isSum_iff {expr : Expr} :
    expr.IsSum ↔ expr.WellKinded ∧ expr.Nested := by
  constructor
  · intro hsum
    induction hsum with
    | product hproduct => exact hproduct.wellKinded_and_nested
    | @join operator left right hoperator _ hright ih =>
        have hparts := hright.wellKinded_and_nested
        have hroot := hright.isAdditive_eq_false
        have htimes := Kind.ne_times_of_isAdditive hoperator
        have hnumber := Kind.ne_number_of_isAdditive hoperator
        simp [WellKinded, Nested, htimes, hnumber, hroot, hparts, ih]
  · intro ⟨hkinds, hnested⟩
    induction expr with
    | literal token => exact .product (.number hkinds)
    | binary operator left right ihLeft ihRight =>
        rcases hkinds with ⟨hoperator, hleftKinds, hrightKinds⟩
        rcases hnested with ⟨htimes, hadditive, hleftNested, hrightNested⟩
        have hleft := ihLeft hleftKinds hleftNested
        have hright := ihRight hrightKinds hrightNested
        cases hkind : operator.isAdditive with
        | true =>
            exact .join hkind hleft
              (hright.isProduct_of_isAdditive_eq_false (hadditive hkind))
        | false =>
            obtain rfl : operator = .times := by
              by_contra hother
              exact hoperator (Kind.eq_number_of_not_operator hother hkind)
            rcases htimes rfl with ⟨hliteral, hroot⟩
            cases right with
            | literal token =>
                exact .product
                  (.times (hleft.isProduct_of_isAdditive_eq_false hroot)
                    hrightKinds)
            | binary _ _ _ => simp [isLiteral] at hliteral

/-! ## Reading what a tree spells -/

theorem extendProduct_of_stop {left : Expr} {operators : Nat}
    {tokens : List Token}
    (hstop : ∀ token ∈ tokens.head?, token.kind ≠ .times) :
    extendProduct left operators tokens = .ok ⟨left, operators, tokens⟩ := by
  cases tokens with
  | nil => simp [extendProduct]
  | cons token rest =>
      have hkind : token.kind ≠ .times := by simpa using hstop
      simp [extendProduct, hkind]

theorem extendSum_of_stop {left : Expr} {operators : Nat}
    {tokens : List Token}
    (hstop : ∀ token ∈ tokens.head?, token.kind.isAdditive = false) :
    extendSum left operators tokens = .ok ⟨left, operators, tokens⟩ := by
  cases tokens with
  | nil => simp [extendSum]
  | cons token rest =>
      have hkind : token.kind.isAdditive = false := by simpa using hstop
      simp [extendSum, hkind]

theorem applyOperator_of_lt {operators : Nat} (operator : Kind)
    (left right : Expr) (hlimit : operators < operatorLimit) :
    applyOperator operators operator left right =
      .ok (.binary operator left right, operators + 1) := by
  rw [applyOperator, if_neg (by omega)]

theorem extendProduct_cons_times {sign token : Token} {left : Expr}
    {operators : Nat} {rest : List Token} (hsign : sign.kind = .times)
    (hkind : token.kind = .number) (hlimit : operators < operatorLimit) :
    extendProduct left operators (sign :: token :: rest) =
      extendProduct (.binary .times left (.literal token)) (operators + 1)
        rest := by
  have hliteral : readLiteral (token :: rest) = .ok (.literal token, rest) := by
    simp [readLiteral, hkind]
  rw [extendProduct]
  simp only [hsign, if_true]
  split
  · rename_i fault hfault
    simp [hliteral] at hfault
  · rename_i right behind hfound
    obtain ⟨rfl, rfl⟩ : literal token = right ∧ rest = behind := by
      simpa [hliteral] using hfound
    rw [applyOperator_of_lt _ _ _ hlimit]

theorem extendSum_cons_additive {sign : Token} {left : Expr}
    {operators : Nat} {behind : List Token} {right : Reading}
    (hsign : sign.kind.isAdditive = true)
    (hright : readProduct operators behind = .ok right)
    (hlimit : right.operators < operatorLimit) :
    extendSum left operators (sign :: behind) =
      extendSum (.binary sign.kind left right.expr) (right.operators + 1)
        right.rest := by
  rw [extendSum]
  simp only [hsign, if_true]
  split
  · rename_i fault hfault
    simp [hright] at hfault
  · rename_i found hfound
    obtain rfl : right = found := by simpa [hright] using hfound
    rw [applyOperator_of_lt _ _ _ hlimit]

theorem readProduct_of_spells {expr : Expr} {tokens : List Token}
    (operators : Nat) (hproduct : expr.IsProduct) (hspells : expr.Spells tokens)
    (hlimit : operators + expr.operatorCount ≤ operatorLimit)
    (rest : List Token) :
    readProduct operators (tokens ++ rest) =
      extendProduct expr (operators + expr.operatorCount) rest := by
  induction hproduct generalizing tokens rest with
  | number hkind =>
      rcases spells_literal.mp hspells with rfl
      simp [readProduct, readLiteral, hkind, operatorCount]
  | @times left token _ hkind ih =>
      obtain ⟨before, sign, after, rfl, hsign, hleft, hright⟩ :=
        spells_binary.mp hspells
      rcases spells_literal.mp hright with rfl
      simp only [operatorCount] at hlimit ⊢
      have hbefore := ih hleft (by omega) (sign :: token :: rest)
      have hlt : operators + left.operatorCount < operatorLimit := by omega
      rw [List.append_assoc, List.cons_append, List.singleton_append, hbefore,
        extendProduct_cons_times hsign hkind hlt]
      simp [Nat.add_assoc]

theorem readSum_of_spells {expr : Expr} {tokens : List Token}
    (operators : Nat) (hsum : expr.IsSum) (hspells : expr.Spells tokens)
    (hlimit : operators + expr.operatorCount ≤ operatorLimit)
    (rest : List Token) (hstop : ∀ token ∈ rest.head?, token.kind ≠ .times) :
    readSum operators (tokens ++ rest) =
      extendSum expr (operators + expr.operatorCount) rest := by
  induction hsum generalizing tokens rest with
  | product hproduct =>
      simp [readSum, readProduct_of_spells operators hproduct hspells hlimit rest,
        extendProduct_of_stop hstop]
  | @join operator left right hoperator _ hright ih =>
      obtain ⟨before, sign, after, rfl, rfl, hleft, hafter⟩ :=
        spells_binary.mp hspells
      simp only [operatorCount] at hlimit ⊢
      have hsign : ∀ token ∈ (sign :: (after ++ rest)).head?,
          token.kind ≠ .times := by
        rintro _ ⟨⟩
        exact Kind.ne_times_of_isAdditive hoperator
      have hbefore := ih hleft (by omega) (sign :: (after ++ rest)) hsign
      have hproduct := readProduct_of_spells (operators + left.operatorCount)
        hright hafter (by omega) rest
      rw [extendProduct_of_stop hstop] at hproduct
      rw [List.append_assoc, List.cons_append, hbefore,
        extendSum_cons_additive hoperator hproduct (by simp only; omega)]
      simp [Nat.add_assoc]

theorem ofTokens_of_isSum {expr : Expr} {tokens : List Token}
    (hsum : expr.IsSum) (hspells : expr.Spells tokens)
    (hlimit : expr.operatorCount ≤ operatorLimit) :
    ofTokens tokens = .ok expr := by
  have hread := readSum_of_spells 0 hsum hspells (by omega) []
    (by simp)
  rw [extendSum_of_stop (by simp), List.append_nil] at hread
  simp [ofTokens, hread]

/-! ## What a reading covers -/

end Expr

/-- A reading that started in front of `tokens`, after `start` operators: its
expression spells the tokens behind which it stands, and its count has grown
by the operators of its expression. -/
structure Reading.Covers (reading : Reading) (start : Nat)
    (tokens : List Token) : Prop where
  spelled : ∃ read, tokens = read ++ reading.rest ∧ reading.expr.Spells read
  counted : reading.operators = start + reading.expr.operatorCount
  bounded : reading.operators ≤ operatorLimit

namespace Expr

theorem readLiteral_cases {tokens rest : List Token} {expr : Expr}
    (hread : readLiteral tokens = .ok (expr, rest)) :
    ∃ token, tokens = token :: rest ∧ token.kind = .number ∧
      expr = .literal token := by
  cases tokens with
  | nil => simp [readLiteral] at hread
  | cons token tokens =>
      simp only [readLiteral] at hread
      split at hread
      · rename_i hkind
        cases hread
        exact ⟨token, rfl, hkind, rfl⟩
      · simp at hread

theorem applyOperator_cases {operators count : Nat} {operator : Kind}
    {left right expr : Expr}
    (happly : applyOperator operators operator left right = .ok (expr, count)) :
    operators < operatorLimit ∧ expr = .binary operator left right ∧
      count = operators + 1 := by
  unfold applyOperator at happly
  split at happly
  · simp at happly
  · rename_i hlimit
    cases happly
    exact ⟨by omega, rfl, rfl⟩

theorem covers_literal (token : Token) (rest : List Token) {operators : Nat}
    (hlimit : operators ≤ operatorLimit) :
    (Reading.mk (.literal token) operators rest).Covers operators
      (token :: rest) where
  spelled := ⟨[token], rfl, spells_literal.mpr rfl⟩
  counted := by simp [operatorCount]
  bounded := hlimit

/-- Both loops take the same step: they join what is read already with an
operand that was read behind the operator. -/
theorem covers_applyOperator {start operators count : Nat}
    {tokens behind : List Token} {sign : Token} {left expr : Expr}
    {right : Reading}
    (hleft : (Reading.mk left operators (sign :: behind)).Covers start tokens)
    (hright : right.Covers operators behind)
    (happly : applyOperator right.operators sign.kind left right.expr =
      .ok (expr, count)) :
    (Reading.mk expr count right.rest).Covers start tokens := by
  rcases applyOperator_cases happly with ⟨hlimit, rfl, rfl⟩
  rcases hleft.spelled with ⟨read, rfl, hread⟩
  rcases hright.spelled with ⟨operand, rfl, hoperand⟩
  have hcount := hleft.counted
  have hoperands := hright.counted
  simp only at hcount
  refine ⟨⟨read ++ sign :: operand, by simp, ?_⟩, ?_, hlimit⟩
  · exact spells_binary.mpr ⟨read, sign, operand, rfl, rfl, hread, hoperand⟩
  · simp only [operatorCount]
    omega

theorem extendProduct_covers {start operators : Nat} {left : Expr}
    {tokens behind : List Token} {reading : Reading}
    (hleft : (Reading.mk left operators behind).Covers start tokens)
    (hproduct : left.IsProduct)
    (hread : extendProduct left operators behind = .ok reading) :
    reading.Covers start tokens ∧ reading.expr.IsProduct := by
  fun_induction extendProduct left operators behind with
  | case1 left operators =>
      cases hread
      exact ⟨hleft, hproduct⟩
  | case2 => simp at hread
  | case3 => simp at hread
  | case4 left operators sign behind hsign right rest hliteral expr count happly
      ih =>
      rcases readLiteral_cases hliteral with ⟨token, rfl, hkind, rfl⟩
      rw [← hsign] at happly
      have hnext := covers_applyOperator hleft
        (covers_literal token rest hleft.bounded) happly
      rcases applyOperator_cases happly with ⟨_, rfl, rfl⟩
      rw [hsign] at hnext hread ih
      exact ih hnext (.times hproduct hkind) hread
  | case5 left operators token behind hkind =>
      cases hread
      exact ⟨hleft, hproduct⟩

theorem readProduct_covers {operators : Nat} {tokens : List Token}
    {reading : Reading} (hlimit : operators ≤ operatorLimit)
    (hread : readProduct operators tokens = .ok reading) :
    reading.Covers operators tokens ∧ reading.expr.IsProduct := by
  unfold readProduct at hread
  split at hread
  · simp at hread
  · rename_i first rest hliteral
    rcases readLiteral_cases hliteral with ⟨token, rfl, hkind, rfl⟩
    exact extendProduct_covers (covers_literal token rest hlimit)
      (.number hkind) hread

theorem extendSum_covers {start operators : Nat} {left : Expr}
    {tokens behind : List Token} {reading : Reading}
    (hleft : (Reading.mk left operators behind).Covers start tokens)
    (hsum : left.IsSum) (hread : extendSum left operators behind = .ok reading) :
    reading.Covers start tokens ∧ reading.expr.IsSum := by
  fun_induction extendSum left operators behind with
  | case1 left operators =>
      cases hread
      exact ⟨hleft, hsum⟩
  | case2 => simp at hread
  | case3 => simp at hread
  | case4 left operators sign behind hsign right hproduct expr count happly ih =>
      rcases readProduct_covers hleft.bounded hproduct with ⟨hright, hshape⟩
      have hjoined := covers_applyOperator hleft hright happly
      rcases applyOperator_cases happly with ⟨_, rfl, rfl⟩
      exact ih hjoined (.join hsign hsum hshape) hread
  | case5 left operators token behind hkind =>
      cases hread
      exact ⟨hleft, hsum⟩

theorem readSum_covers {operators : Nat} {tokens : List Token}
    {reading : Reading} (hlimit : operators ≤ operatorLimit)
    (hread : readSum operators tokens = .ok reading) :
    reading.Covers operators tokens ∧ reading.expr.IsSum := by
  unfold readSum at hread
  split at hread
  · simp at hread
  · rename_i first hfirst
    rcases readProduct_covers hlimit hfirst with ⟨hcovers, hproduct⟩
    exact extendSum_covers hcovers (.product hproduct) hread

theorem extendProduct_stop {left : Expr} {operators : Nat}
    {tokens : List Token} {reading : Reading}
    (hread : extendProduct left operators tokens = .ok reading) :
    ∀ token ∈ reading.rest.head?, token.kind ≠ .times := by
  fun_induction extendProduct left operators tokens with
  | case1 =>
      cases hread
      simp
  | case2 => simp at hread
  | case3 => simp at hread
  | case4 left operators sign behind hsign right rest hliteral expr count happly
      ih => exact ih hread
  | case5 left operators token behind hkind =>
      cases hread
      simpa using hkind

theorem readProduct_stop {operators : Nat} {tokens : List Token}
    {reading : Reading} (hread : readProduct operators tokens = .ok reading) :
    ∀ token ∈ reading.rest.head?, token.kind ≠ .times := by
  unfold readProduct at hread
  split at hread
  · simp at hread
  · exact extendProduct_stop hread

theorem isSum_of_ofTokens {expr : Expr} {tokens : List Token}
    (hread : ofTokens tokens = .ok expr) :
    expr.IsSum ∧ expr.Spells tokens ∧ expr.operatorCount ≤ operatorLimit := by
  unfold ofTokens at hread
  split at hread
  · simp at hread
  · rename_i reading hsum
    split at hread
    · rename_i hrest
      cases hread
      rcases readSum_covers (Nat.zero_le _) hsum with ⟨hcovers, hshape⟩
      rcases hcovers.spelled with ⟨read, hread, hspells⟩
      have hcount := hcovers.counted
      have hlimit := hcovers.bounded
      rw [hrest, List.append_nil] at hread
      subst hread
      exact ⟨hshape, hspells, by omega⟩
    · simp at hread

theorem ofTokens_eq_ok_iff {expr : Expr} {tokens : List Token} :
    ofTokens tokens = .ok expr ↔
      expr.IsSum ∧ expr.Spells tokens ∧ expr.operatorCount ≤ operatorLimit :=
  ⟨isSum_of_ofTokens, fun ⟨hsum, hspells, hlimit⟩ =>
    ofTokens_of_isSum hsum hspells hlimit⟩

theorem isTreeOf_iff {expr : Expr} {tokens : List Token} :
    expr.IsTreeOf tokens ↔
      expr.IsSum ∧ expr.Spells tokens ∧ expr.operatorCount ≤ operatorLimit := by
  rw [isSum_iff]
  constructor
  · intro htree
    exact ⟨⟨htree.kinds, htree.nested⟩, htree.spells, htree.bounded⟩
  · rintro ⟨⟨hkinds, hnested⟩, hspells, hbounded⟩
    exact ⟨hspells, hkinds, hnested, hbounded⟩

/-- Reading finds the one tree that spells the tokens, has numbers at its
leaves and operators at its nodes, nests as the grammar does and stays within
the limit. -/
theorem ofTokens_eq_ok_iff_isTreeOf (tokens : List Token) :
    (∀ expr, ofTokens tokens = .ok expr ↔ expr.IsTreeOf tokens) ∧
      {expr : Expr | expr.IsTreeOf tokens}.Subsingleton := by
  have hread : ∀ expr : Expr, ofTokens tokens = .ok expr ↔
      expr.IsTreeOf tokens := by
    intro expr
    rw [isTreeOf_iff, ofTokens_eq_ok_iff]
  refine ⟨hread, ?_⟩
  intro first hfirst second hsecond
  have hfirstRead := (hread first).mpr hfirst
  have hsecondRead := (hread second).mpr hsecond
  rw [hfirstRead] at hsecondRead
  exact Except.ok.inj hsecondRead

end Expr
end LineCalculator
