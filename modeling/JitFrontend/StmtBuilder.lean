import JitFrontend.ExprBuilder

/-! # The statement builder

`StmtBuilder` (lines 314–438) translates one statement; `build_stmts` (lines 126–128) translates a
block and drops the statements that translate to `None` — only docstrings do.  A block is where
the recursion of the statement builder happens, so `buildStmt` and `buildStmts` are one `mutual`
block over `Stmt` and `List Stmt`; everything inside a statement goes to `buildExpr`.
-/
namespace JitFrontend
open Ast (Pos)

/-- `StmtBuilder.augassign_map` (lines 315–321). -/
def augassignMap : Ast.Operator → Option String
  | .add => some "+" | .sub => some "-" | .mult => some "*" | .div => some "/" | .mod => some "%"
  | _ => none

/-- `find_before(ctx, pos, substr, offsets)` (lines 760–762): the last occurrence of `substr` in
the first `pos` code points of the text, shifted by `offsets`.  A negative offset, which its one
caller cannot produce, is clamped to `0`. -/
def findBefore (ctx : SourceContext) (pos : Nat) (substr : String) (offsets : Int × Int) :
    Except Error Range :=
  match rindex (ctx.source.toList.take pos) substr.toList with
  | none => throw (.python .valueError "substring not found")
  | some newPos =>
    pure (ctx.makeRawRange (newPos + offsets.1).toNat (newPos + substr.length + offsets.2).toNat)

/-- `build_withitem` (lines 304–311): the range starts at the context expression and is as long as
`pretty_node_names[ast.With]`. -/
def buildWithitem (ctx : SourceContext) (item : Ast.WithItem) :
    Except Error TreeView.WithItem := do
  let lineno := item.contextExpr.pos.lineno
  let start := item.contextExpr.pos.colOffset
  let stop := start + ((prettyNodeNames.lookup "With").getD "").length
  let r ← ctx.makeRange lineno start stop
  let target ← buildExpr ctx item.contextExpr
  let var ← buildOptional ctx item.optionalVars
  pure ⟨r, target, var⟩

/-- A statement's range: its position, as long as its leading keyword. -/
def keywordRange (ctx : SourceContext) (pos : Pos) (keyword : String) : Except Error Range :=
  ctx.makeRange pos.lineno pos.colOffset (pos.colOffset + keyword.length)

mutual
variable (ctx : SourceContext)

/-- `build_stmt(ctx, stmt)`: `Builder.__call__` dispatching to the methods of `StmtBuilder`;
`none` is the `None` of a docstring. -/
def buildStmt : Ast.Stmt → Except Error (Option TreeView.Stmt)
  | .expr _ value =>
    -- `value.__class__.__name__ == 'Str'`: only the legacy class counts as a docstring
    match value with
    | .str .. => pure none
    | _ => do
      let e ← buildExpr ctx value
      pure (some (.exprStmt e))
  | .assign _ targets value => do
    let rhs ← buildExpr ctx value
    let lhs ← buildExprs ctx targets
    pure (some (.assign lhs rhs none))
  | .annAssign pos target annot value =>
    match value with
    | none => unsupportedNodeError ctx "AnnAssign" pos "without assigned value"
    | some value => do
      let rhs ← buildExpr ctx value
      let lhs ← buildExpr ctx target
      let theType ← buildExpr ctx annot
      pure (some (.assign [lhs] rhs (some theType)))
  | .delete pos targets =>
    if targets.length > 1 then do
      let sourceRange ← keywordRange ctx pos "del"
      throw (.notSupportedError sourceRange "del with more than one operand is not supported")
    else match targets with
      | [] => throw (.python .indexError "list index out of range")
      | target :: _ => do
        let e ← buildExpr ctx target
        pure (some (.delete e))
  | .return pos value => do
    let r ← keywordRange ctx pos "return"
    let value ← buildOptional ctx value
    pure (some (.return r value))
  | .raise pos exc _ => do
    let r ← keywordRange ctx pos "raise"
    match exc with
    | none => throw noneNodeError
    | some exc => do
      let expr ← buildExpr ctx exc
      pure (some (.raise r expr))
  | .assert pos test msg => do
    let r ← keywordRange ctx pos "assert"
    let test ← buildExpr ctx test
    let msg ← buildOptional ctx msg
    pure (some (.assert r test msg))
  | .augAssign _ target op value => do
    let lhs ← buildExpr ctx target
    let rhs ← buildExpr ctx value
    match augassignMap op with
    | some opToken => pure (some (.augAssign lhs opToken rhs))
    | none => do
      let r ← findBefore ctx rhs.range.start "=" (-1, 0)
      throw (.notSupportedError r ("unsupported kind of augumented assignment: " ++ op.name))
  | .while pos test body orelse =>
    -- `NotSupportedError(None, ...)`: the diagnostic cannot be built without a range
    if !orelse.isEmpty then throw noneRangeError
    else do
      let r ← keywordRange ctx pos "while"
      let test ← buildExpr ctx test
      let body ← buildStmts body
      pure (some (.while r test body))
  | .for pos target iter body _ => do
    let r ← keywordRange ctx pos "for"
    let target ← buildExpr ctx target
    let iter ← buildExpr ctx iter
    let body ← buildStmts body
    pure (some (.for r [target] [iter] body))
  | .if pos test body orelse => do
    let r ← keywordRange ctx pos "if"
    let test ← buildExpr ctx test
    let body ← buildStmts body
    let orelse ← buildStmts orelse
    pure (some (.if r test body orelse))
  | .print pos dest values => do
    let r ← keywordRange ctx pos "print"
    if dest.isSome then
      throw (.notSupportedError r
        "print statements with non-default destinations aren't supported")
    else do
      let args ← buildExprs ctx values
      pure (some (.exprStmt (.apply (.var ⟨r, "print"⟩) args [])))
  | .pass pos => do
    let r ← keywordRange ctx pos "pass"
    pure (some (.pass r))
  | .break pos => do
    let r ← keywordRange ctx pos "break"
    pure (some (.break r))
  | .continue pos => do
    let r ← keywordRange ctx pos "continue"
    pure (some (.continue r))
  | .with pos items body => do
    let r ← keywordRange ctx pos "with"
    let items ← items.mapM (buildWithitem ctx)
    let body ← buildStmts body
    pure (some (.with r items body))
  | .functionDef pos .. => unsupportedNodeError ctx "FunctionDef" pos ""
  | .other cls pos => unsupportedNodeError ctx cls.name pos ""

/-- `build_stmts(ctx, stmts)`: every statement is built, then the `None`s are filtered out. -/
def buildStmts : List Ast.Stmt → Except Error (List TreeView.Stmt)
  | [] => pure []
  | s :: ss => do
    let s ← buildStmt s
    let ss ← buildStmts ss
    pure (s.toList ++ ss)
end

/-- `build_Expr` on a value that is no legacy string: an expression statement. -/
theorem buildStmt_expr (ctx : SourceContext) {v : Ast.Expr} (hv : ∀ p s, v ≠ .str p s)
    (pos : Pos) :
    buildStmt ctx (.expr pos v) = (buildExpr ctx v >>= fun e => pure (some (.exprStmt e))) := by
  cases v <;> first | rfl | exact absurd rfl (hv _ _)

end JitFrontend
