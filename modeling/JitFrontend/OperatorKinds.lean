import JitFrontend.Emitted

/-! # The operators the tree view is given

The tree view takes an operator as a string, its kind, and the frontend picks the kinds from its
four tables (lines 441–480).  Two tables hold more than the tree view is given: `cmpop_map` maps
`NotIn` to `not in`, which `build_Compare` never emits as a `BinOp` and writes as
`not (… in …)` instead (lines 607–611), and `unop_map` has no entry for unary `+`, which
`build_UnaryOp` rejects.  So every operator of a translated function is one of a fixed list of
kinds, whatever the function: the `NodeCheck` of "is a known kind" holds
(`knownOperator_nodeCheck`), and with it every node of every translated body passes.
-/
namespace JitFrontend

/-- The kinds of `BinOp` the frontend emits: the tokens of `binop_map`, `boolop_map` and
`cmpop_map`, `not in` excepted. -/
def binOpKinds : List String :=
  ["+", "-", "*", "/", "**", "%", "//", "&", "^", "|", "<<", ">>", "@", "and", "or",
    "==", "!=", "<=", "<", ">=", ">", "is", "is not", "in"]

/-- The kinds of `UnaryOp` the frontend emits: the tokens of `unop_map`. -/
def unaryOpKinds : List String := ["not", "-", "~"]

/-- An operator node has a kind of the lists above; every other node passes. -/
def TreeView.Expr.knownOperator : TreeView.Expr → Bool
  | .binOp kind _ _ => binOpKinds.contains kind
  | .unaryOp _ kind _ => unaryOpKinds.contains kind
  | _ => true

theorem knownOperator_nodeCheck (ctx : SourceContext) :
    NodeCheck ctx TreeView.Expr.knownOperator where
  var _ _ _ := rfl
  binOp op _ _ _ htok _ := by cases op <;> cases htok <;> rfl
  boolOp op _ _ _ htok := by cases op <;> cases htok <;> rfl
  cmpOp op _ _ _ htok hop := by
    cases op <;> cases htok
    case notIn => exact absurd rfl hop
    all_goals rfl
  unaryOp op _ _ _ htok := by cases op <;> cases htok <;> rfl
  unchecked e h := by cases e <;> first | rfl | cases h

/-- **Every operator of a translated function body has a kind of `binOpKinds` or
`unaryOpKinds`**, at every depth, for every function, dropped or not: in particular no `BinOp`
is `not in` and no `UnaryOp` is `+`. -/
theorem getJitDef_body_knownOperators {tc : TypeComments} {fn : FunctionSource} {defName : String}
    {selfName : Option String} {d : TreeView.Def} (h : getJitDef tc fn defName selfName = .ok d) :
    TreeView.allNodesStmts TreeView.Expr.knownOperator d.body = true :=
  getJitDef_body_allNodes (knownOperator_nodeCheck _) h

/-- `def f(x, y): return not x or x not in y`, whatever the type-comment parser. -/
theorem getJitDef_body_knownOperators_example :
    let fn : FunctionSource := ⟨"def f(x, y):\n    return not x or x not in y\n", 0,
      [.functionDef ⟨1, 0⟩ ⟨[], [⟨"x", none, ⟨1, 6⟩⟩, ⟨"y", none, ⟨1, 9⟩⟩], none, [], [], none⟩
        [.return ⟨2, 4⟩ (some (.boolOp ⟨2, 11⟩ .or
          [.unaryOp ⟨2, 11⟩ .not (.name ⟨2, 15⟩ "x"),
            .compare ⟨2, 20⟩ (.name ⟨2, 20⟩ "x") (.notIn, .name ⟨2, 29⟩ "y") []]))] [] none],
      none, false⟩
    ∃ d, ∀ comments : TypeComments, getJitDef comments fn "f" none = .ok d ∧
      TreeView.allNodesStmts TreeView.Expr.knownOperator d.body = true := by
  intro fn
  exact ⟨_, fun comments => ⟨rfl, @getJitDef_body_knownOperators comments fn "f" none _ rfl⟩⟩

end JitFrontend
