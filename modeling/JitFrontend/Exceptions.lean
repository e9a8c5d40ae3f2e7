import JitFrontend.DefBuilder

/-! # Python exceptions that escape the builders

The file's diagnostics are the `FrontendError` family; a translation that stops with anything
else crashes the frontend instead of reporting a source location.  Four syntactic shapes that
Python's parser produces reach such a crash, on any line of the text.

* Unary `+`: `build_UnaryOp` takes `len(op_token)` before its own check that `op_token` is `None`
  (lines 567–571), so the `NotSupportedError` it was written to raise is never reached, and
  `TypeError` escapes instead.
* A bare `raise`: `build_Raise` passes `stmt.exc`, which is `None`, to `build_expr` (line 365).
* A dict display with a `**` entry: its key is `None`, and `build_Dict` builds every key (line 684).
* A `while` loop with an `else` block: `build_While` raises `NotSupportedError(None, ...)`
  (line 393), and `FrontendError.__init__` hands that `None` to `torch._C.ErrorReport` (line 94),
  which raises `TypeError`.

In the second and third the dispatcher finds no `build_NoneType` and constructs
`UnsupportedNodeError(ctx, None)`, which fails on `None.lineno` with `AttributeError`.

A fifth crash depends on the layout of the text rather than on a syntactic shape: `build_def`
makes the range of `def` on line `lineno + len(decorator_list)` (line 234).  Python's parser has put
a decorated `FunctionDef` on the line of its `def` keyword since 3.8, so that line lies one line
further down per decorator, past the end of the text when the function ends fewer lines below its
`def` than it has decorators; `make_range` then raises `IndexError`.
-/
namespace JitFrontend
open Ast (Pos)

variable {ctx : SourceContext}

/-- Unary `+` on any operand that translates raises `TypeError`. -/
theorem buildExpr_unaryOp_uAdd {pos : Pos} {operand : Ast.Expr} {sub : TreeView.Expr}
    (h : buildExpr ctx operand = .ok sub) :
    buildExpr ctx (.unaryOp pos .uAdd operand) =
      .error (.python .typeError "object of type 'NoneType' has no len()") := by
  simp [h, buildUnaryOp, unopMap]

/-- A bare `raise`, with or without a cause, raises `AttributeError` once its keyword's range is
made. -/
theorem buildStmt_raise_none {pos : Pos} (hpos : ctx.hasLine pos.lineno = true)
    (cause : Option Ast.Expr) : buildStmt ctx (.raise pos none cause) = .error noneNodeError := by
  obtain ⟨r, hr⟩ := ctx.makeRange_of_hasLine hpos pos.colOffset (pos.colOffset + "raise".length)
  simp only [buildStmt, keywordRange, hr, except_ok_bind]
  rfl

/-- A dict display whose first entry is a `**` expansion raises `AttributeError` once its range is
made. -/
theorem buildExpr_dict_doubleStar {pos : Pos} (hpos : ctx.hasLine pos.lineno = true)
    (keys : List (Option Ast.Expr)) (values : List Ast.Expr) :
    buildExpr ctx (.dict pos (none :: keys) values) = .error noneNodeError := by
  obtain ⟨r, hr⟩ := ctx.makeRange_of_hasLine hpos pos.colOffset (pos.colOffset + 1)
  simp [hr]

/-- A `while` loop with an `else` block raises `TypeError`, before anything of it is built. -/
theorem buildStmt_while_orelse (pos : Pos) (test : Ast.Expr) (body : List Ast.Stmt)
    (s : Ast.Stmt) (orelse : List Ast.Stmt) :
    buildStmt ctx (.while pos test body (s :: orelse)) = .error noneRangeError := rfl

/-- **Python exceptions escape the builders.**  In every source context, on lines the text has,
`+x` raises `TypeError`, a bare `raise` and the display `{**d}` raise `AttributeError`, and a
`while` loop with an `else` block raises `TypeError`: none is a `FrontendError`. -/
theorem builders_raise_python_exceptions (ctx : SourceContext) (pos p : Pos)
    (hpos : ctx.hasLine pos.lineno = true) (hp : ctx.hasLine p.lineno = true) :
    buildExpr ctx (.unaryOp pos .uAdd (.name p "x")) =
        .error (.python .typeError "object of type 'NoneType' has no len()") ∧
      buildStmt ctx (.raise pos none none) = .error noneNodeError ∧
      buildExpr ctx (.dict pos [none] [.name p "d"]) = .error noneNodeError ∧
      buildStmt ctx (.while pos (.name p "x") [.pass p] [.pass p]) = .error noneRangeError := by
  obtain ⟨r, hr⟩ := ctx.makeRange_of_hasLine hp p.colOffset (p.colOffset + "x".length)
  have hx : buildExpr ctx (.name p "x") = .ok (.var ⟨r, "x"⟩) := by
    simp only [buildExpr_name, buildName, hr, except_ok_bind]
    rfl
  exact ⟨buildExpr_unaryOp_uAdd hx, buildStmt_raise_none hpos none,
    buildExpr_dict_doubleStar hpos [] _, buildStmt_while_orelse pos _ _ _ _⟩

/-- `+x`, a bare `raise`, `{**d}` and a `while` loop with an `else` block, all on line 2 of a
two-line function. -/
theorem builders_raise_python_exceptions_example :
    let ctx : SourceContext := ⟨"def f(x):\n    return +x\n", 0, true⟩
    ctx.hasLine 2 = true ∧
      buildExpr ctx (.unaryOp ⟨2, 11⟩ .uAdd (.name ⟨2, 12⟩ "x")) =
        .error (.python .typeError "object of type 'NoneType' has no len()") ∧
      buildStmt ctx (.raise ⟨2, 11⟩ none none) = .error noneNodeError ∧
      buildExpr ctx (.dict ⟨2, 11⟩ [none] [.name ⟨2, 12⟩ "d"]) = .error noneNodeError ∧
      buildStmt ctx (.while ⟨2, 11⟩ (.name ⟨2, 12⟩ "x") [.pass ⟨2, 12⟩] [.pass ⟨2, 12⟩]) =
        .error noneRangeError :=
  ⟨rfl, builders_raise_python_exceptions _ ⟨2, 11⟩ ⟨2, 12⟩ rfl rfl⟩

end JitFrontend
