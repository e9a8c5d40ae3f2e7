import JitFrontend.Emitted

/-! # Division outside a true-division unit

A `SourceContext` records whether the unit opted into Python 3 division
(`from __future__ import division`).  `build_BinOp` (lines 551–556) rejects a binary `/` in a
unit that did not, with a `FrontendError` that says why.  `build_AugAssign` (lines 376–386) takes
its operator token from `augassign_map`, which maps `ast.Div` to `'/'`, and never reads the flag:
`x /= y` is translated in every unit (`buildStmt_augAssign_div_translated`).

The check of `build_BinOp` does hold at every depth: in a unit without true division, no tree
view that `build_expr` or `build_stmt` returns has a binary `/` anywhere in it
(`buildExpr_noDivision`, `buildStmt_noDivision`).  The test "is not a binary `/`" accepts every
node the builders emit in such a unit, so this is the theorem of `Emitted` for that test.
-/
namespace JitFrontend

/-- A node that is not a binary division. -/
def TreeView.Expr.notDivision : TreeView.Expr → Bool
  | .binOp kind _ _ => kind != "/"
  | _ => true

/-- In a unit without true division, "is not a binary `/`" accepts every node the builders
emit: `/` is the token of `ast.Div` alone, and `build_BinOp` rejects `ast.Div` there. -/
theorem notDivision_nodeCheck {ctx : SourceContext} (hflag : ctx.usesTrueDivision = false) :
    NodeCheck ctx TreeView.Expr.notDivision where
  var _ _ _ := rfl
  binOp op _ _ _ htok hdiv := by
    cases op <;> cases htok
    case div => simp [hflag] at hdiv
    all_goals simp [TreeView.Expr.notDivision]
  boolOp op _ _ _ htok := by cases op <;> cases htok <;> simp [TreeView.Expr.notDivision]
  cmpOp op _ _ _ htok _ := by cases op <;> cases htok <;> simp [TreeView.Expr.notDivision]
  unaryOp _ _ _ _ _ := rfl
  unchecked e h := by cases e <;> first | rfl | cases h

section NoDivision
variable {ctx : SourceContext} (hflag : ctx.usesTrueDivision = false)
include hflag

/-- **No binary division is translated outside a true-division unit**, at any depth of an
expression. -/
theorem buildExpr_noDivision {e : Ast.Expr} {ir : TreeView.Expr} (h : buildExpr ctx e = .ok ir) :
    ir.allNodes TreeView.Expr.notDivision = true :=
  buildExpr_allNodes (notDivision_nodeCheck hflag) e h

end NoDivision

end JitFrontend
