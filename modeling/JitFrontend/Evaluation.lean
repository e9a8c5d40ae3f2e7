import JitFrontend.ExprBuilder

/-! # Evaluating the tree view

The frontend only translates: the tree view gets its meaning from the TorchScript compiler behind
it.  To say what the translation preserves, this module gives the tree view an evaluation that
fixes what each node does with its children, and leaves to the backend (`Semantics`) what the
frontend does not fix: the values, how a value tests as a condition, what a variable or a
literal evaluates to, what each operator token computes, and the operation a node applies to
its children's values (calling, reading an attribute, subscripting, building a list).

* Children run left to right and thread one state, so that effects (a call that prints,
  appends or counts) are visible.  The short-circuit operators `and` and `or` skip their right
  operand once the left one decides, and return the deciding operand's value, as Python's do.
* A dict display runs each key and then its value, entry after entry.
* An assignment target (`Semantics.assign`) takes a value: a variable stores it, a tuple or list
  unpacks it into its elements, and an attribute or a subscript runs its object and indices and
  then sets.  A list comprehension binds each element of its iterable to its target this way.

Next to it stand Python's own meanings of the two constructs the builders desugar: a boolean
operation over a flat list of operands, and a chained comparison.  Both run each operand at most
once, left to right, and stop at the first operand or comparison that decides the result.
-/
namespace JitFrontend

/-- What the evaluation of a tree view leaves to the backend. -/
structure Semantics (V σ : Type) where
  /-- How a value tests as a condition (Python's `bool(v)`). -/
  truthy : V → Bool
  /-- The values `True` and `False`. -/
  ofBool : Bool → V
  /-- What a binary operator token other than `and` and `or` computes. -/
  binary : String → V → V → V
  /-- What a unary operator token other than `not` computes. -/
  unary : String → V → V
  /-- How a leaf evaluates: a variable, a literal, `...`. -/
  leaf : TreeView.Expr → σ → V × σ
  /-- Calling a value with positional arguments and named keyword arguments. -/
  call : V → List V → List (String × V) → σ → V × σ
  /-- Reading an attribute. -/
  getattr : V → String → σ → V × σ
  /-- Subscripting a value with a list of indices. -/
  index : V → List V → σ → V × σ
  /-- The slice `start:stop:step`. -/
  slice : Option V → Option V → Option V → V
  /-- `*v`: an argument or element that unpacks. -/
  starred : V → V
  /-- A list and a tuple of values. -/
  list : List V → V
  tuple : List V → V
  /-- A dict from its entries; an entry without key is a `**` expansion. -/
  dict : List (Option V × V) → V
  /-- A list comprehension over the iterable's value: `body` binds one element to the target
  and evaluates the element expression, in the scope the backend gives it. -/
  comprehension : V → (V → σ → V × σ) → σ → V × σ
  /-- Assigning to a variable, an attribute and a subscript. -/
  store : String → V → σ → σ
  setattr : V → String → V → σ → σ
  setitem : V → List V → V → σ → σ
  /-- The values a value unpacks into, one per target of `t₁, …, tₙ = v`; the flags mark the
  starred target. -/
  unpack : V → List Bool → List V
  /-- `del` of a variable, an attribute and a subscript. -/
  delete : String → σ → σ
  delattr : V → String → σ → σ
  delitem : V → List V → σ → σ
  /-- What an augmented assignment's operator token computes from the old value and the
  operand. -/
  inplace : String → V → V → V

/-- The truth value at which a boolean operator stops: `and` at the first false operand, `or` at
the first true one. -/
def Ast.BoolOp.decidesOn : Ast.BoolOp → Bool
  | .and => false
  | .or => true

/-- `isinstance(e, Starred)`. -/
def TreeView.Expr.isStarred : TreeView.Expr → Bool
  | .starred .. => true
  | _ => false

/-- The entries of a dict display from its keys' and values' evaluations: each key runs, then its
value. -/
def dictFrom {V σ κ : Type} : List (σ → κ × σ) → List (σ → V × σ) → σ → List (κ × V) × σ
  | k :: ks, v :: vs, s =>
    let a := k s
    let b := v a.2
    let c := dictFrom ks vs b.2
    ((a.1, b.1) :: c.1, c.2)
  | _, _, s => ([], s)

/-- A key of a dict display, which is never a `**` expansion in the tree view. -/
def someKey {V σ : Type} (k : σ → V × σ) (s : σ) : Option V × σ :=
  let a := k s
  (some a.1, a.2)

namespace Semantics
variable {V σ : Type} (S : Semantics V σ)

mutual
/-- Evaluation of a tree view. -/
def run : TreeView.Expr → σ → V × σ
  | .binOp kind lhs rhs, s =>
    let l := run lhs s
    if kind = "and" then (if S.truthy l.1 then run rhs l.2 else l)
    else if kind = "or" then (if S.truthy l.1 then l else run rhs l.2)
    else
      let r := run rhs l.2
      (S.binary kind l.1 r.1, r.2)
  | .unaryOp _ kind e, s =>
    let a := run e s
    (if kind = "not" then S.ofBool (!S.truthy a.1) else S.unary kind a.1, a.2)
  | .ternaryIf cond t f, s =>
    let c := run cond s
    if S.truthy c.1 then run t c.2 else run f c.2
  | .apply callee inputs attributes, s =>
    let f := run callee s
    let args := runList inputs f.2
    let kwargs := runAttributes attributes args.2
    S.call f.1 args.1 kwargs.1 kwargs.2
  | .select value selector, s =>
    let b := run value s
    S.getattr b.1 selector.name b.2
  | .subscript value subscriptExprs, s =>
    let b := run value s
    let is := runList subscriptExprs b.2
    S.index b.1 is.1 is.2
  | .sliceExpr _ start stop step, s =>
    let a := runOpt start s
    let b := runOpt stop a.2
    let c := runOpt step b.2
    (S.slice a.1 b.1 c.1, c.2)
  | .starred _ e, s =>
    let a := run e s
    (S.starred a.1, a.2)
  | .listLiteral _ inputs, s =>
    let a := runList inputs s
    (S.list a.1, a.2)
  | .tupleLiteral _ inputs, s =>
    let a := runList inputs s
    (S.tuple a.1, a.2)
  | .dictLiteral _ keys values, s =>
    let a := dictFrom ((runEach keys).map someKey) (runEach values) s
    (S.dict a.1, a.2)
  | .listComp _ elt target iter, s =>
    let it := run iter s
    S.comprehension it.1 (fun x s => run elt (assign target x s)) it.2
  | e, s => S.leaf e s

/-- The expressions of a list, one after another. -/
def runList : List TreeView.Expr → σ → List V × σ
  | [], s => ([], s)
  | e :: es, s =>
    let a := run e s
    let b := runList es a.2
    (a.1 :: b.1, b.2)

/-- Each expression of a list as an evaluation of its own. -/
def runEach : List TreeView.Expr → List (σ → V × σ)
  | [] => []
  | e :: es => run e :: runEach es

def runOpt : Option TreeView.Expr → σ → Option V × σ
  | none, s => (none, s)
  | some e, s =>
    let a := run e s
    (some a.1, a.2)

/-- Keyword arguments, one after another. -/
def runAttributes : List (TreeView.Ident × TreeView.Expr) → σ → List (String × V) × σ
  | [], s => ([], s)
  | (name, e) :: rest, s =>
    let a := run e s
    let b := runAttributes rest a.2
    ((name.name, a.1) :: b.1, b.2)

/-- Assigning a value to a target. -/
def assign : TreeView.Expr → V → σ → σ
  | .var name, v, s => S.store name.name v s
  | .tupleLiteral _ inputs, v, s | .listLiteral _ inputs, v, s =>
    assignList inputs (S.unpack v (inputs.map TreeView.Expr.isStarred)) s
  | .starred _ e, v, s => assign e v s
  | .select value selector, v, s =>
    let b := run value s
    S.setattr b.1 selector.name v b.2
  | .subscript value subscriptExprs, v, s =>
    let b := run value s
    let is := runList subscriptExprs b.2
    S.setitem b.1 is.1 v is.2
  | _, _, s => s

/-- Assigning values to targets, one after another. -/
def assignList : List TreeView.Expr → List V → σ → σ
  | e :: es, v :: vs, s => assignList es vs (assign e v s)
  | _, _, s => s
end

/-- The backend subscripts with several indices as Python subscripts with their tuple: `x[i, j]`
is `x[(i, j)]`.  This is the convention `build_Subscript` relies on (lines 653–669) when it turns
a tuple index into one index per element. -/
structure TupleSubscripts : Prop where
  index : ∀ b vs s, S.index b [S.tuple vs] s = S.index b vs s
  setitem : ∀ b vs v s, S.setitem b [S.tuple vs] v s = S.setitem b vs v s
  delitem : ∀ b vs s, S.delitem b [S.tuple vs] s = S.delitem b vs s

/-! ### One equation per node

Each clause of the evaluation, as an equation that later proofs rewrite with. -/

section Equations
variable (s : σ)

@[simp] theorem run_apply (callee : TreeView.Expr) (inputs : List TreeView.Expr)
    (attributes : List (TreeView.Ident × TreeView.Expr)) :
    S.run (.apply callee inputs attributes) s =
      let f := S.run callee s
      let args := S.runList inputs f.2
      let kwargs := S.runAttributes attributes args.2
      S.call f.1 args.1 kwargs.1 kwargs.2 := rfl

@[simp] theorem run_select (value : TreeView.Expr) (selector : TreeView.Ident) :
    S.run (.select value selector) s =
      S.getattr (S.run value s).1 selector.name (S.run value s).2 := rfl

@[simp] theorem run_subscript (value : TreeView.Expr) (subscriptExprs : List TreeView.Expr) :
    S.run (.subscript value subscriptExprs) s =
      let b := S.run value s
      let is := S.runList subscriptExprs b.2
      S.index b.1 is.1 is.2 := rfl

@[simp] theorem run_sliceExpr (r : Range) (start stop step : Option TreeView.Expr) :
    S.run (.sliceExpr r start stop step) s =
      let a := S.runOpt start s
      let b := S.runOpt stop a.2
      let c := S.runOpt step b.2
      (S.slice a.1 b.1 c.1, c.2) := rfl

@[simp] theorem run_starred (r : Range) (e : TreeView.Expr) :
    S.run (.starred r e) s = (S.starred (S.run e s).1, (S.run e s).2) := rfl

@[simp] theorem run_listLiteral (r : Range) (inputs : List TreeView.Expr) :
    S.run (.listLiteral r inputs) s = (S.list (S.runList inputs s).1, (S.runList inputs s).2) :=
  rfl

@[simp] theorem run_tupleLiteral (r : Range) (inputs : List TreeView.Expr) :
    S.run (.tupleLiteral r inputs) s = (S.tuple (S.runList inputs s).1, (S.runList inputs s).2) :=
  rfl

@[simp] theorem run_dictLiteral (r : Range) (keys values : List TreeView.Expr) :
    S.run (.dictLiteral r keys values) s =
      let a := dictFrom ((S.runEach keys).map someKey) (S.runEach values) s
      (S.dict a.1, a.2) := rfl

@[simp] theorem run_listComp (r : Range) (elt target iter : TreeView.Expr) :
    S.run (.listComp r elt target iter) s =
      S.comprehension (S.run iter s).1 (fun x s => S.run elt (S.assign target x s))
        (S.run iter s).2 := rfl

@[simp] theorem runList_nil : S.runList [] s = ([], s) := rfl

@[simp] theorem runList_cons (e : TreeView.Expr) (es : List TreeView.Expr) :
    S.runList (e :: es) s =
      ((S.run e s).1 :: (S.runList es (S.run e s).2).1, (S.runList es (S.run e s).2).2) := rfl

@[simp] theorem runEach_nil : S.runEach [] = [] := rfl

@[simp] theorem runEach_cons (e : TreeView.Expr) (es : List TreeView.Expr) :
    S.runEach (e :: es) = S.run e :: S.runEach es := rfl

@[simp] theorem runOpt_none : S.runOpt none s = (none, s) := rfl

@[simp] theorem runOpt_some (e : TreeView.Expr) :
    S.runOpt (some e) s = (some (S.run e s).1, (S.run e s).2) := rfl

@[simp] theorem runAttributes_nil : S.runAttributes [] s = ([], s) := rfl

@[simp] theorem runAttributes_cons (name : TreeView.Ident) (e : TreeView.Expr)
    (rest : List (TreeView.Ident × TreeView.Expr)) :
    S.runAttributes ((name, e) :: rest) s =
      ((name.name, (S.run e s).1) :: (S.runAttributes rest (S.run e s).2).1,
        (S.runAttributes rest (S.run e s).2).2) := rfl

variable (v : V)

@[simp] theorem assign_var (name : TreeView.Ident) :
    S.assign (.var name) v s = S.store name.name v s := rfl

@[simp] theorem assign_tupleLiteral (r : Range) (inputs : List TreeView.Expr) :
    S.assign (.tupleLiteral r inputs) v s =
      S.assignList inputs (S.unpack v (inputs.map TreeView.Expr.isStarred)) s := rfl

@[simp] theorem assign_listLiteral (r : Range) (inputs : List TreeView.Expr) :
    S.assign (.listLiteral r inputs) v s =
      S.assignList inputs (S.unpack v (inputs.map TreeView.Expr.isStarred)) s := rfl

@[simp] theorem assign_starred (r : Range) (e : TreeView.Expr) :
    S.assign (.starred r e) v s = S.assign e v s := rfl

@[simp] theorem assign_select (value : TreeView.Expr) (selector : TreeView.Ident) :
    S.assign (.select value selector) v s =
      S.setattr (S.run value s).1 selector.name v (S.run value s).2 := rfl

@[simp] theorem assign_subscript (value : TreeView.Expr) (subscriptExprs : List TreeView.Expr) :
    S.assign (.subscript value subscriptExprs) v s =
      let b := S.run value s
      let is := S.runList subscriptExprs b.2
      S.setitem b.1 is.1 v is.2 := rfl

@[simp] theorem assignList_nil (vs : List V) : S.assignList [] vs s = s := rfl

@[simp] theorem assignList_cons (e : TreeView.Expr) (es : List TreeView.Expr) (vs : List V) :
    S.assignList (e :: es) (v :: vs) s = S.assignList es vs (S.assign e v s) := rfl

end Equations

theorem runList_append (xs ys : List TreeView.Expr) (s : σ) :
    S.runList (xs ++ ys) s =
      ((S.runList xs s).1 ++ (S.runList ys (S.runList xs s).2).1,
        (S.runList ys (S.runList xs s).2).2) := by
  induction xs generalizing s with
  | nil => rfl
  | cons x xs ih => simp [ih]

@[simp] theorem run_and (lhs rhs : TreeView.Expr) (s : σ) :
    S.run (.binOp "and" lhs rhs) s =
      if S.truthy (S.run lhs s).1 then S.run rhs (S.run lhs s).2 else S.run lhs s := rfl

@[simp] theorem run_or (lhs rhs : TreeView.Expr) (s : σ) :
    S.run (.binOp "or" lhs rhs) s =
      if S.truthy (S.run lhs s).1 then S.run lhs s else S.run rhs (S.run lhs s).2 := rfl

theorem run_binary {kind : String} (hand : kind ≠ "and") (hor : kind ≠ "or")
    (lhs rhs : TreeView.Expr) (s : σ) :
    S.run (.binOp kind lhs rhs) s =
      (S.binary kind (S.run lhs s).1 (S.run rhs (S.run lhs s).2).1,
        (S.run rhs (S.run lhs s).2).2) := by
  show (if kind = "and" then _ else if kind = "or" then _ else _) = _
  rw [if_neg hand, if_neg hor]

@[simp] theorem run_not (r : Range) (e : TreeView.Expr) (s : σ) :
    S.run (.unaryOp r "not" e) s = (S.ofBool (!S.truthy (S.run e s).1), (S.run e s).2) := rfl

/-! ## Python's boolean operations -/

/-- Python's `e₁ op e₂ op … op eₙ` once the operands before `es` have run, the last of them to
`r`: the next operand runs only while no operand has decided the result, and the result is the
value of the deciding operand, or of the last one. -/
def boolOpFrom (op : Ast.BoolOp) : V × σ → List TreeView.Expr → V × σ
  | r, [] => r
  | r, e :: es => if S.truthy r.1 = op.decidesOn then r else boolOpFrom op (S.run e r.2) es

/-- Python's boolean operation over the operands `first :: rest`. -/
def pyBoolOp (op : Ast.BoolOp) (first : TreeView.Expr) (rest : List TreeView.Expr) (s : σ) :
    V × σ :=
  S.boolOpFrom op (S.run first s) rest

/-- The operands `first :: rest` run one after another; the value is the last one's. -/
def runAll : TreeView.Expr → List TreeView.Expr → σ → V × σ
  | e, [], s => S.run e s
  | e, e' :: es, s => runAll e' es (S.run e s).2

theorem boolOpFrom_decided {op : Ast.BoolOp} {r : V × σ} (h : S.truthy r.1 = op.decidesOn)
    (es : List TreeView.Expr) : S.boolOpFrom op r es = r := by
  cases es <;> simp [boolOpFrom, h]

/-- One operand more: Python's boolean operation is associative on evaluations. -/
theorem boolOpFrom_step (op : Ast.BoolOp) (r : V × σ) (e : TreeView.Expr)
    (es : List TreeView.Expr) :
    S.boolOpFrom op (S.boolOpFrom op r [e]) es = S.boolOpFrom op r (e :: es) := by
  by_cases h : S.truthy r.1 = op.decidesOn
  · simp only [S.boolOpFrom_decided h]
  · simp [boolOpFrom, h]

/-- The tree view's `and` and `or` are Python's boolean operation over two operands. -/
theorem run_boolOp {op : Ast.BoolOp} {tok : String} (htok : boolopMap op = some tok)
    (lhs rhs : TreeView.Expr) (s : σ) :
    S.run (.binOp tok lhs rhs) s = S.boolOpFrom op (S.run lhs s) [rhs] := by
  cases op <;> cases htok <;> by_cases h : S.truthy (S.run lhs s).1 <;>
    simp [boolOpFrom, Ast.BoolOp.decidesOn, h]

/-- **The left fold of `and` or `or` is Python's flat boolean operation**, for every backend. -/
theorem run_foldl_boolOp {op : Ast.BoolOp} {tok : String} (htok : boolopMap op = some tok)
    (rest : List TreeView.Expr) (lhs : TreeView.Expr) (s : σ) :
    S.run (rest.foldl (.binOp tok) lhs) s = S.boolOpFrom op (S.run lhs s) rest := by
  induction rest generalizing lhs with
  | nil => rfl
  | cons e es ih => rw [List.foldl_cons, ih, S.run_boolOp htok, S.boolOpFrom_step]

theorem pyBoolOp_cons (op : Ast.BoolOp) (first e : TreeView.Expr) (es : List TreeView.Expr)
    (s : σ) :
    S.pyBoolOp op first (e :: es) s =
      if S.truthy (S.run first s).1 = op.decidesOn then S.run first s
      else S.pyBoolOp op e es (S.run first s).2 := rfl

/-- Python's boolean operation runs a prefix of its operands, each once, in order. -/
theorem pyBoolOp_runs_prefix (op : Ast.BoolOp) (rest : List TreeView.Expr)
    (first : TreeView.Expr) (s : σ) :
    ∃ k ≤ rest.length, S.pyBoolOp op first rest s = S.runAll first (rest.take k) s := by
  induction rest generalizing first s with
  | nil => exact ⟨0, le_rfl, rfl⟩
  | cons e es ih =>
    rw [pyBoolOp_cons]
    split
    · exact ⟨0, Nat.zero_le _, rfl⟩
    · obtain ⟨k, hk, h⟩ := ih e (S.run first s).2
      exact ⟨k + 1, by simpa using hk, h⟩

/-! ## Python's chained comparisons -/

/-- Python's comparison `a op b` on two values: the operator of `cmpop_map`, and `not in` as
`not (a in b)`. -/
def cmp (op : Ast.CmpOp) (a b : V) : V :=
  if op = .notIn then S.ofBool (!S.truthy (S.binary "in" a b))
  else S.binary ((cmpopMap op).getD "") a b

/-- Python's chained comparison `… lhs op rhs op' rhs' …` once `lhs` has run to `v`: each
further operand runs once, and the chain stops at the first comparison that is false, whose
value is the result. -/
def chain (v : V) (op : Ast.CmpOp) (rhs : TreeView.Expr) :
    List (Ast.CmpOp × TreeView.Expr) → σ → V × σ
  | [], s => (S.cmp op v (S.run rhs s).1, (S.run rhs s).2)
  | (op', rhs') :: rest, s =>
    if S.truthy (S.cmp op v (S.run rhs s).1) then
      chain (S.run rhs s).1 op' rhs' rest (S.run rhs s).2
    else (S.cmp op v (S.run rhs s).1, (S.run rhs s).2)

/-- Python's `a₀ op₁ a₁ … opₙ aₙ`. -/
def pyCompare (first : TreeView.Expr) (op : Ast.CmpOp) (rhs : TreeView.Expr)
    (rest : List (Ast.CmpOp × TreeView.Expr)) (s : σ) : V × σ :=
  S.chain (S.run first s).1 op rhs rest (S.run first s).2

/-- Running `e` again right after it ran gives the same value and state: `e` has no effect a
second evaluation could observe or repeat (a name, a constant, a pure computation). -/
def Idempotent (e : TreeView.Expr) : Prop := ∀ s, S.run e (S.run e s).2 = S.run e s

end Semantics
end JitFrontend
