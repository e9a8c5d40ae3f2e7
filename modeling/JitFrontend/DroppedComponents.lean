import JitFrontend.DefBuilder

/-! # Components of an accepted function that have no counterpart in its tree

`build_While` is written to reject a `while` loop's `else` block, since the tree views cannot
express it (lines 390–393; the rejection itself fails, see `Exceptions`).  Three other components
the tree views cannot express are not rejected but dropped: a `for` loop's `else` block
(`build_For`, lines 399–403, never reads `stmt.orelse`), the cause of `raise ... from ...`
(`build_Raise`, lines 363–366, never reads `stmt.cause`), and the positional-only parameters of
Python 3.8 (`build_param_list`, lines 272–273, reads only `args` and `kwonlyargs`).  Each is
stated as the independence of the translation from that component, for every input.
-/
namespace JitFrontend
open Ast (Pos)

variable (ctx : SourceContext)

/-- A `for` loop translates as if it had no `else` block. -/
theorem buildStmt_for_orelse (pos : Pos) (target iter : Ast.Expr) (body orelse : List Ast.Stmt) :
    buildStmt ctx (.for pos target iter body orelse) =
      buildStmt ctx (.for pos target iter body []) := rfl

/-- A `raise` translates as if it had no cause. -/
theorem buildStmt_raise_cause (pos : Pos) (exc cause : Option Ast.Expr) :
    buildStmt ctx (.raise pos exc cause) = buildStmt ctx (.raise pos exc none) := rfl

/-- A parameter list translates as if it had no positional-only parameters. -/
theorem buildParamList_posonlyargs (args : Ast.Arguments) (selfName : Option String) :
    buildParamList ctx args selfName =
      buildParamList ctx { args with posonlyargs := [] } selfName := rfl

/-- **Three components are dropped, not rejected.**  The translation of a `for` loop does not
depend on its `else` block, that of a `raise` does not depend on its cause, and that of a
parameter list does not depend on its positional-only parameters. -/
theorem builders_drop_components :
    (∀ pos target iter body orelse, buildStmt ctx (.for pos target iter body orelse) =
        buildStmt ctx (.for pos target iter body [])) ∧
      (∀ pos exc cause, buildStmt ctx (.raise pos exc cause) =
        buildStmt ctx (.raise pos exc none)) ∧
      (∀ args selfName, buildParamList ctx args selfName =
        buildParamList ctx { args with posonlyargs := [] } selfName) :=
  ⟨buildStmt_for_orelse ctx, buildStmt_raise_cause ctx, buildParamList_posonlyargs ctx⟩

end JitFrontend
