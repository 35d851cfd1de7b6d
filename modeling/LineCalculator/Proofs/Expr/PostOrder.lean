import LineCalculator.Proofs.Expr.Fault
import LineCalculator.Proofs.Fault.Message
import Mathlib.Tactic

/-!
# The order in which a tree is evaluated

Evaluation visits the operands of a node, the left one first, and then the
node itself.  It stops at the first entry of that order that has no value,
whatever the entry is: a leaf that is no number, a number without a reading,
or a node that is no operator.

A context is a tree with one place left open.  The entries of a subtree are in
one piece of the order, so a context tells which entries come before whatever
is put into its place.
-/

namespace LineCalculator
namespace Expr

/-- The entries of a tree, each node behind both of its operands. -/
def postOrder : Expr → List Entry
  | .literal token => [.leaf token]
  | .binary operator left right =>
      left.postOrder ++ right.postOrder ++ [.node operator]

namespace Entry

def Faulty : Entry → Prop
  | .leaf token =>
      token.kind ≠ .number ∨ token.lexeme = "" ∨
        ∃ c ∈ token.lexeme.toList, c.isDigit = false
  | .node operator => operator = .number

instance : DecidablePred Faulty
  | .leaf token =>
      inferInstanceAs (Decidable (token.kind ≠ .number ∨ token.lexeme = "" ∨
        ∃ c ∈ token.lexeme.toList, c.isDigit = false))
  | .node operator => inferInstanceAs (Decidable (operator = .number))

/-- What is said about an entry at which evaluation stops. -/
def complaint : Entry → String
  | .leaf token =>
      if token.kind ≠ .number then token.kind.name ++ " is not a literal"
      else if token.lexeme = "" then "empty literal"
      else "'" ++ token.lexeme ++ "' is not a valid number"
  | .node _ => "unknown operator NUM"

def fault? : Entry → Option ValueFault
  | .leaf token => token.fault?
  | .node operator => operator.fault?

theorem fault?_eq_none_iff {entry : Entry} :
    entry.fault? = none ↔ ¬entry.Faulty := by
  cases entry with
  | node operator => exact Kind.fault?_eq_none_iff
  | leaf token =>
      rw [fault?, Token.fault?_eq_none_iff]
      simp [Faulty, Token.IsNumeral]

theorem reason_of_fault? {entry : Entry} {fault : ValueFault}
    (hfault : entry.fault? = some fault) : fault.reason = entry.complaint := by
  cases entry with
  | node operator =>
      simp only [fault?, Kind.fault?] at hfault
      split at hfault
      · rw [Option.some.injEq] at hfault
        rw [← hfault]
        rfl
      · contradiction
  | leaf token =>
      simp only [fault?, Token.fault?] at hfault
      simp only [complaint]
      split_ifs at hfault ⊢
      all_goals
        rw [Option.some.injEq] at hfault
        rw [← hfault]
        rfl

end Entry

/-! ## The first faulty entry -/

theorem faults_eq_filterMap_postOrder (expr : Expr) :
    expr.faults = expr.postOrder.filterMap Entry.fault? := by
  induction expr with
  | literal token =>
      cases hfault : token.fault? <;>
        simp [faults, postOrder, Entry.fault?, hfault]
  | binary operator left right ihLeft ihRight =>
      cases hfault : operator.fault? <;>
        simp [faults, postOrder, Entry.fault?, ihLeft, ihRight, hfault]

theorem value_eq_error_iff_findSome? {expr : Expr} {fault : ValueFault} :
    expr.value = .error fault ↔
      expr.postOrder.findSome? Entry.fault? = some fault := by
  rw [value_eq_error_iff, faults_eq_filterMap_postOrder, List.head?_filterMap]

theorem value_of_find?_faulty {expr : Expr} {entry : Entry}
    (hfind : expr.postOrder.find? (fun entry => entry.Faulty) = some entry) :
    expr.value.mapError ValueFault.reason = .error entry.complaint := by
  rw [List.find?_eq_some_iff_append] at hfind
  rcases hfind with ⟨hfaulty, before, after, horder, hbefore⟩
  rw [decide_eq_true_eq] at hfaulty
  have hnone : before.findSome? Entry.fault? = none := by
    rw [List.findSome?_eq_none_iff]
    intro earlier hearlier
    rw [Entry.fault?_eq_none_iff]
    simpa using hbefore earlier hearlier
  cases hfault : entry.fault? with
  | none => exact absurd hfaulty (Entry.fault?_eq_none_iff.mp hfault)
  | some fault =>
      have hvalue : expr.value = .error fault := by
        rw [value_eq_error_iff_findSome?, horder, List.findSome?_append, hnone,
          Option.none_or, List.findSome?_cons, hfault]
      rw [hvalue, ← Entry.reason_of_fault? hfault]
      rfl

/-! ## Trees with an open place -/

inductive Context where
  | hole
  | inLeft (operator : Kind) (context : Context) (right : Expr)
  | inRight (operator : Kind) (left : Expr) (context : Context)

namespace Context

def fill : Context → Expr → Expr
  | .hole, expr => expr
  | .inLeft operator context right, expr =>
      .binary operator (context.fill expr) right
  | .inRight operator left context, expr =>
      .binary operator left (context.fill expr)

/-- The entries in front of those of the subtree at the open place. -/
def before : Context → List Entry
  | .hole => []
  | .inLeft _ context _ => context.before
  | .inRight _ left context => left.postOrder ++ context.before

/-- The entries behind those of the subtree at the open place. -/
def behind : Context → List Entry
  | .hole => []
  | .inLeft operator context right =>
      context.behind ++ right.postOrder ++ [.node operator]
  | .inRight operator _ context => context.behind ++ [.node operator]

theorem postOrder_fill (context : Context) (expr : Expr) :
    (context.fill expr).postOrder =
      context.before ++ expr.postOrder ++ context.behind := by
  induction context with
  | hole => simp [fill, before, behind]
  | inLeft operator context right ih =>
      simp [fill, before, behind, postOrder, ih]
  | inRight operator left context ih =>
      simp [fill, before, behind, postOrder, ih]

theorem value_fill_of_faulty_before {context : Context}
    (hfaulty : ∃ entry ∈ context.before, entry.Faulty) :
    ∃ fault, ∀ expr, (context.fill expr).value = .error fault := by
  cases hfirst : context.before.findSome? Entry.fault? with
  | none =>
      rcases hfaulty with ⟨entry, hentry, hbad⟩
      rw [List.findSome?_eq_none_iff] at hfirst
      exact absurd hbad (Entry.fault?_eq_none_iff.mp (hfirst entry hentry))
  | some fault =>
      refine ⟨fault, ?_⟩
      intro expr
      rw [value_eq_error_iff_findSome?, postOrder_fill, List.append_assoc,
        List.findSome?_append, hfirst, Option.some_or]

end Context

/-- A tree with a faulty entry fails at the first such entry of its order and
with that entry's complaint.  A subtree that comes after a faulty entry may
therefore be any other tree. -/
theorem value_of_first_faulty_entry :
    (∀ expr : Expr, (∃ entry ∈ expr.postOrder, entry.Faulty) →
      ∃ entry, expr.postOrder.find? (fun entry => entry.Faulty) = some entry ∧
        expr.value.mapError ValueFault.reason = .error entry.complaint) ∧
      ∀ (context : Context) (subtree other : Expr),
        (context.fill subtree).postOrder =
            context.before ++ subtree.postOrder ++ context.behind ∧
          ((∃ entry ∈ context.before, entry.Faulty) →
            (context.fill other).value = (context.fill subtree).value) := by
  refine ⟨?_, ?_⟩
  · intro expr hfaulty
    have hsome : (expr.postOrder.find? fun entry => entry.Faulty).isSome := by
      simpa using hfaulty
    rcases Option.isSome_iff_exists.mp hsome with ⟨entry, hfind⟩
    exact ⟨entry, hfind, value_of_find?_faulty hfind⟩
  · intro context subtree other
    refine ⟨context.postOrder_fill subtree, ?_⟩
    intro hfaulty
    rcases Context.value_fill_of_faulty_before hfaulty with ⟨fault, hvalue⟩
    rw [hvalue other, hvalue subtree]

/-- The root is no operator and the leaves behind it are no numbers, but the
empty number comes first. -/
theorem value_of_first_faulty_entry_below :
    (binary .number
        (binary .plus (literal ⟨.number, ""⟩) (literal ⟨.times, "*"⟩))
        (literal ⟨.number, "4x"⟩)).value.mapError ValueFault.reason =
        .error "empty literal" ∧
      (binary .number
        (binary .plus (literal ⟨.number, ""⟩) (literal ⟨.times, "*"⟩))
        (literal ⟨.number, "4x"⟩)).value =
      (binary .number
        (binary .plus (literal ⟨.number, ""⟩) (literal ⟨.number, "7"⟩))
        (literal ⟨.number, "4x"⟩)).value := by
  have hfirst := value_of_first_faulty_entry.1
    (binary .number
      (binary .plus (literal ⟨.number, ""⟩) (literal ⟨.times, "*"⟩))
      (literal ⟨.number, "4x"⟩)) (by decide)
  have hlater := (value_of_first_faulty_entry.2
    (.inLeft .number (.inRight .plus (literal ⟨.number, ""⟩) .hole)
      (literal ⟨.number, "4x"⟩)) (literal ⟨.number, "7"⟩)
    (literal ⟨.times, "*"⟩)).2 (by decide)
  rcases hfirst with ⟨entry, hfind, hvalue⟩
  have hempty : some (Entry.leaf ⟨.number, ""⟩) = some entry := by
    rw [← hfind]
    decide
  rw [Option.some.injEq] at hempty
  rw [← hempty] at hvalue
  exact ⟨hvalue, hlater⟩

end Expr
end LineCalculator
