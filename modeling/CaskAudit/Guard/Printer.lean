import CaskAudit.Guard.Basic

/-!
# Writing guards

A guard in the syntax of manifests. Conjunctions and disjunctions stand in parentheses wherever
they are operands, so no reader has to know which operator binds tighter.
-/

namespace CaskAudit.Guard

/-- Whether a guard joins others, and so needs parentheses as an operand. -/
def isJunction : Guard → Bool
  | .all _ => true
  | .any _ => true
  | _ => false

/-- A text in parentheses if a guard needs them. -/
def wrap (g : Guard) (text : String) : String :=
  if g.isJunction then "(" ++ text ++ ")" else text

mutual

/-- A guard as manifests write it. -/
def render : Guard → String
  | .release op token => "MacOS.release " ++ op.symbol ++ " :" ++ token
  | .capability c => c.term
  | .not g => "!" ++ wrap g (render g)
  | .all gs => " && ".intercalate (renderOperands gs)
  | .any gs => " || ".intercalate (renderOperands gs)

/-- The operands of a junction as manifests write them. -/
def renderOperands : List Guard → List String
  | [] => []
  | g :: gs => wrap g (render g) :: renderOperands gs

end

end CaskAudit.Guard
