import LineCalculator.Expr.Grammar
import LineCalculator.Expr.Value
import LineCalculator.Traced

/-!
# A line and its response

The text of a line is cut into tokens, the tokens spell an expression, and the
expression has a value.  Each stage works on the result of the one before it,
and the first that fails gives the fault of the line.
-/

namespace LineCalculator
namespace Line

def tokens (source : String) : Traced (List Token) :=
  let scan := Scan.ofString source
  ⟨scan.found.map Event.scanned, scan.tokens.mapError Fault.foreign⟩

def expr (source : String) : Traced Expr := do
  let read ← tokens source
  Traced.note (.tokens read)
  let tree ← Traced.silent ((Expr.ofTokens read).mapError Fault.grammar)
  Traced.note (.tree tree)
  return tree

def value (source : String) : Traced Int64 := do
  let tree ← expr source
  Traced.silent (tree.value.mapError Fault.value)

/-- The text that answers a line: its value, below its expression if trees are
shown. -/
def response (showTree : Bool) (source : String) : Traced String :=
  if showTree then do
    let tree ← expr source
    let result ← Traced.silent (tree.value.mapError Fault.value)
    return tree.render ++ "\n" ++ decimal result
  else do
    let result ← value source
    return decimal result

end Line
end LineCalculator
