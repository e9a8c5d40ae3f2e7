import JitFrontend.Source

/-! # Tree views and diagnostics

The builders' output is a tree of `torch._C._jit_tree_views` nodes; this module gives, as Lean
data, the classes `frontend.py` imports (lines 7–16), each with the arguments the file passes to its
constructor.  The builders read a node's range back through `.range()`, and that range is derived:
a node is a C++ `Compound`, whose range is the hull of the range it was built with and the ranges
of all its children, lists and options of children included.  A node built without a range of its
own is built with the range of a child, so `x.y.z` spans from `x` to `z`.

Raising a diagnostic can itself raise: `UnsupportedNodeError` makes its range with `make_range`,
and `FrontendError(None, msg)` hands `None` to `torch._C.ErrorReport`, which rejects it.
-/
namespace JitFrontend

@[simp] theorem except_ok_bind {ε α β : Type} (a : α) (f : α → Except ε β) :
    (Except.ok a >>= f) = f a := rfl

@[simp] theorem except_error_bind {ε α β : Type} (e : ε) (f : α → Except ε β) :
    (Except.error e >>= f) = .error e := rfl

@[simp] theorem except_pure {ε α : Type} (a : α) : (pure a : Except ε α) = .ok a := rfl

@[simp] theorem except_throw {ε α : Type} (e : ε) : (throw e : Except ε α) = .error e := rfl

/-- The inversion of `>>=` on a successful result: the first computation succeeded, and the rest
succeeded on its value. -/
theorem except_bind_eq_ok {ε α β : Type} {x : Except ε α} {f : α → Except ε β} {b : β} :
    (x >>= f) = .ok b ↔ ∃ a, x = .ok a ∧ f a = .ok b := by
  cases x <;> simp

/-- Every output of a successful `mapM` has what every successful call's output has. -/
theorem except_mapM_forall {ε α β : Type} {f : α → Except ε β} {P : β → Prop}
    (hf : ∀ a b, f a = .ok b → P b) {l : List α} {bs : List β} (h : l.mapM f = .ok bs) :
    ∀ b ∈ bs, P b := by
  induction l generalizing bs with
  | nil => cases h; simp
  | cons a l ih =>
    rw [List.mapM_cons] at h
    obtain ⟨b, hb, h⟩ := except_bind_eq_ok.1 h
    obtain ⟨bs', hbs', h⟩ := except_bind_eq_ok.1 h
    cases h
    exact List.forall_mem_cons.2 ⟨hf a b hb, ih hbs'⟩

/-- The hull of two ranges, as a C++ `Compound` merges a child's range into its own: the smaller
start and the larger end. -/
def Range.merge (r s : Range) : Range := ⟨min r.start s.start, max r.stop s.stop⟩

@[simp] theorem Range.merge_start (r s : Range) : (r.merge s).start = min r.start s.start := rfl

@[simp] theorem Range.merge_stop (r s : Range) : (r.merge s).stop = max r.stop s.stop := rfl

namespace TreeView

/-- `Ident(range, name)`. -/
structure Ident where
  range : Range
  name : String
deriving DecidableEq, Repr, Inhabited

/-- Tree-view expressions.  `apply` holds its keyword arguments as `Attribute(name, value)` pairs. -/
inductive Expr where
  | var (name : Ident)
  | emptyTypeAnnot (range : Range)
  | trueLiteral (range : Range)
  | falseLiteral (range : Range)
  | noneLiteral (range : Range)
  | const (range : Range) (value : String)
  | stringLiteral (range : Range) (value : String)
  | dots (range : Range)
  | binOp (kind : String) (lhs rhs : Expr)
  | unaryOp (range : Range) (kind : String) (expr : Expr)
  | ternaryIf (cond trueExpr falseExpr : Expr)
  | apply (callee : Expr) (inputs : List Expr) (attributes : List (Ident × Expr))
  | select (value : Expr) (selector : Ident)
  | starred (range : Range) (expr : Expr)
  | listLiteral (range : Range) (inputs : List Expr)
  | tupleLiteral (range : Range) (inputs : List Expr)
  | dictLiteral (range : Range) (keys values : List Expr)
  | listComp (range : Range) (elt target iter : Expr)
  | subscript (value : Expr) (subscriptExprs : List Expr)
  | sliceExpr (range : Range) (start stop step : Option Expr)

instance : Inhabited Expr := ⟨.dots default⟩

mutual
/-- Modelled from the spec: a node's `.range()`, derived from its children ("Range values are
derived", §3).  It is the hull of the range the node is built with and of its children's; `Var`,
`BinOp`, `TernaryIf`, `Apply`, `Select` and `Subscript` are built with their first child's. -/
def Expr.range : Expr → Range
  | .var name => name.range
  | .emptyTypeAnnot r | .trueLiteral r | .falseLiteral r | .noneLiteral r | .const r _
  | .stringLiteral r _ | .dots r => r
  | .binOp _ lhs rhs => lhs.range.merge rhs.range
  | .unaryOp r _ e | .starred r e => r.merge e.range
  | .ternaryIf cond t f => (cond.range.merge t.range).merge f.range
  | .apply callee inputs attributes =>
    Expr.attributesRange (Expr.listRange callee.range inputs) attributes
  | .select value selector => value.range.merge selector.range
  | .listLiteral r es | .tupleLiteral r es => Expr.listRange r es
  | .dictLiteral r keys values => Expr.listRange (Expr.listRange r keys) values
  | .listComp r elt target iter => ((r.merge elt.range).merge target.range).merge iter.range
  | .subscript value es => Expr.listRange value.range es
  | .sliceExpr r start stop step =>
    Expr.optionRange (Expr.optionRange (Expr.optionRange r start) stop) step

/-- The range of `wrap_list(r, es)`: the hull of `r` and of the elements' ranges. -/
def Expr.listRange (r : Range) : List Expr → Range
  | [] => r
  | e :: es => Expr.listRange (r.merge e.range) es

/-- The range of a list of keyword arguments from `r`, each `Attribute(name, value)` spanning its
name and its value. -/
def Expr.attributesRange (r : Range) : List (Ident × Expr) → Range
  | [] => r
  | (name, e) :: rest => Expr.attributesRange (r.merge (name.range.merge e.range)) rest

/-- The range of `wrap_maybe(r, e)`. -/
def Expr.optionRange (r : Range) : Option Expr → Range
  | none => r
  | some e => r.merge e.range
end

/-- `WithItem(range, target, var)`. -/
structure WithItem where
  range : Range
  target : Expr
  var : Option Expr

/-- The range of `wrap_list(r, items)` for `with` items, each spanning its range, its target and
its variable. -/
def withItemsRange (r : Range) (items : List WithItem) : Range :=
  items.foldl (fun acc w => acc.merge (Expr.optionRange (w.range.merge w.target.range) w.var)) r

/-- Tree-view statements. -/
inductive Stmt where
  | exprStmt (expr : Expr)
  | assign (lhs : List Expr) (rhs : Expr) (type : Option Expr)
  | delete (expr : Expr)
  | return (range : Range) (expr : Option Expr)
  | raise (range : Range) (expr : Expr)
  | assert (range : Range) (test : Expr) (msg : Option Expr)
  | augAssign (lhs : Expr) (aug : String) (rhs : Expr)
  | while (range : Range) (cond : Expr) (body : List Stmt)
  | for (range : Range) (targets itrs : List Expr) (body : List Stmt)
  | if (range : Range) (cond : Expr) (trueBranch falseBranch : List Stmt)
  | pass (range : Range)
  | break (range : Range)
  | continue (range : Range)
  | with (range : Range) (targets : List WithItem) (body : List Stmt)

mutual
/-- Modelled from the spec: a statement's `.range()`, the hull of the range it is built with and
of its children's.  `Assign` is built with the range of the list of its targets, which is built
with the value's; `ExprStmt`, `Delete` and `AugAssign` with their first child's. -/
def Stmt.range : Stmt → Range
  | .exprStmt e | .delete e => e.range
  | .assign lhs rhs type => Expr.optionRange (Expr.listRange rhs.range lhs) type
  | .return r e => Expr.optionRange r e
  | .raise r e => r.merge e.range
  | .assert r test msg => Expr.optionRange (r.merge test.range) msg
  | .augAssign lhs _ rhs => lhs.range.merge rhs.range
  | .while r cond body => Stmt.listRange (r.merge cond.range) body
  | .for r targets itrs body =>
    Stmt.listRange (Expr.listRange (Expr.listRange r targets) itrs) body
  | .if r cond t f => Stmt.listRange (Stmt.listRange (r.merge cond.range) t) f
  | .pass r | .break r | .continue r => r
  | .with r items body => Stmt.listRange (withItemsRange r items) body

/-- The range of `wrap_list(r, body)` for a block. -/
def Stmt.listRange (r : Range) : List Stmt → Range
  | [] => r
  | s :: ss => Stmt.listRange (r.merge s.range) ss
end

/-- `Param(type, ident, kwarg_only)`. -/
structure Param where
  type : Expr
  ident : Ident
  kwargOnly : Bool

/-- A parameter's `.range()`: it is built with its name's, and spans its type. -/
def Param.range (p : Param) : Range := p.ident.range.merge p.type.range

/-- `Decl(range, params, return_type)`. -/
structure Decl where
  range : Range
  params : List Param
  returnType : Option Expr

/-- `Def(name, decl, body)`. -/
structure Def where
  name : Ident
  decl : Decl
  body : List Stmt

/-- Modelled from the spec: a `Def`'s `.range()`.  It is built with its name's range, and spans its
declaration — the range that is built with, the parameters and the return type — and its body. -/
def Def.range (d : Def) : Range :=
  let declRange := Expr.optionRange
    (d.decl.params.foldl (fun r p => r.merge p.range) d.decl.range) d.decl.returnType
  Stmt.listRange (d.name.range.merge declRange) d.body

/-- `Property(range, name, getter, setter)`. -/
structure Property where
  range : Range
  name : Ident
  getter : Def
  setter : Option Def

/-- `ClassDef(name, body, properties)`; the body is the methods' `Def`s. -/
structure ClassDef where
  name : Ident
  body : List Def
  properties : List Property

end TreeView

/-- `pretty_node_names` (lines 34–47, 64–70 and 82), keyed by class name. -/
def prettyNodeNames : List (String × String) :=
  [("FunctionDef", "function definitions"), ("For", "for loops"), ("Delete", "del statements"),
   ("ClassDef", "class definitions"), ("With", "with statements"),
   ("Raise", "raise statements"), ("Assert", "assertions"), ("Import", "import statements"),
   ("ImportFrom", "import statements"), ("Global", "global variables"),
   ("Break", "break statements"), ("Continue", "continue statements"),
   ("AsyncFunctionDef", "async function definitions"), ("AsyncFor", "async for loops"),
   ("AsyncWith", "async with statements"), ("Try", "try blocks"),
   ("Nonlocal", "nonlocal variables"), ("AnnAssign", "annotated assignments")]

/-- `node_start_tokens` (lines 49–62 and 72–78), keyed by class name. -/
def nodeStartTokens : List (String × String) :=
  [("FunctionDef", "def"), ("For", "for"), ("Delete", "del"), ("ClassDef", "class"),
   ("With", "with"), ("Raise", "raise"), ("Assert", "assert"), ("Import", "import"),
   ("ImportFrom", "from"), ("Global", "global"), ("Break", "break"), ("Continue", "continue"),
   ("AsyncFunctionDef", "async def"), ("AsyncFor", "async for"), ("AsyncWith", "async with"),
   ("Try", "try"), ("Nonlocal", "nonlocal")]

/-- `raise UnsupportedNodeError(ctx, offending_node, reason)` (lines 105–114), for a node of class
`className` at `pos`: the range covers the class's start token (one byte if it has none), and the
message names the class by its pretty name.  The constructor makes the range first, so a line past
the end of the text raises `IndexError` instead. -/
def unsupportedNodeError {α : Type} (ctx : SourceContext) (className : String) (pos : Ast.Pos)
    (reason : String) : Except Error α := do
  let rangeLen := ((nodeStartTokens.lookup className).getD " ").length
  let sourceRange ← ctx.makeRange pos.lineno pos.colOffset (pos.colOffset + rangeLen)
  let featureName := (prettyNodeNames.lookup className).getD className
  throw (.unsupportedNodeError sourceRange
    (featureName ++ " " ++ (if reason = "" then "" else reason ++ " ") ++ "aren't supported"))

theorem unsupportedNodeError_ne_ok {α : Type} {ctx : SourceContext} {className : String}
    {pos : Ast.Pos} {reason : String} {a : α} :
    unsupportedNodeError ctx className pos reason ≠ .ok a := fun h => by
  obtain ⟨_, -, h⟩ := except_bind_eq_ok.1 h
  cases h

/-- `build_expr(ctx, None)`: the dispatcher finds no `build_NoneType`, and
`UnsupportedNodeError(ctx, None)` fails on `None.lineno`. -/
def noneNodeError : Error :=
  .python .attributeError "'NoneType' object has no attribute 'lineno'"

/-- `NotSupportedError(None, msg)`: `FrontendError.__init__` hands its range to
`torch._C.ErrorReport` (line 94), whose one constructor takes a `SourceRange`, so pybind raises
`TypeError` before the diagnostic exists. -/
def noneRangeError : Error :=
  .python .typeError ("__init__(): incompatible constructor arguments. The following argument " ++
    "types are supported:\n    1. torch._C.ErrorReport(arg0: " ++
    "torch._C._jit_tree_views.SourceRange)\n\nInvoked with: None")

end JitFrontend
