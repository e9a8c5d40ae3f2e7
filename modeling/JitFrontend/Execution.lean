import JitFrontend.Meaning

/-! # Running statements

`build_stmts` is a compiler pass from Python's statements to the tree view's, and this module
gives both sides a meaning, so that `BlockMeaning` can compare them.  `Semantics.exec` runs a
tree-view block as the TorchScript compiler behind the frontend runs it, and `Semantics.pyExec`
runs a source block as Python does, with `Semantics.py` for its expressions and
`Semantics.pyAssign` for its targets.

The two interpreters have one shape.  They thread one state and end every statement with an
`Outcome`: a normal end, `break`, `continue`, `return`, or an exception.  What the frontend does
not fix is left to the backend, as for expressions: the values a `for` loop runs over, and what
a context manager does on entry and exit (`Effects`).  Targets are run by their parts: `del t`
deletes a variable, an attribute or a subscript, and `t op= v` reads the target's current value
first, then runs the operand, and stores the result of the in-place operator into the same
place.

Only `while` can run forever.  Each `while` loop stops after `fuel` iterations, in both
interpreters alike, and a run that needs more has no result (`none`); every other statement runs
by recursion on the statements it is made of.
-/
namespace JitFrontend

/-- How a statement or a block ends: normally, by leaving a loop, or by leaving the function with
`return` or with an exception. -/
inductive Outcome (V σ : Type) where
  | normal (s : σ)
  | break (s : σ)
  | continue (s : σ)
  | return (value : Option V) (s : σ)
  | raise (exc : V) (s : σ)

namespace Outcome
variable {V σ : Type}

/-- In a block: the next statements run after a normal end, and any other end stops the block. -/
def andThen (next : σ → Option (Outcome V σ)) : Outcome V σ → Option (Outcome V σ)
  | .normal s => next s
  | o => some o

/-- After a loop's body: the next iteration runs after a normal end and after `continue`,
`break` leaves the loop normally, and `return` and an exception leave it as they are. -/
def loopThen (next : σ → Option (Outcome V σ)) : Outcome V σ → Option (Outcome V σ)
  | .normal s | .continue s => next s
  | .break s => some (.normal s)
  | o => some o

/-- The same end, in the state `f` makes of its state. -/
def mapState (f : σ → σ) : Outcome V σ → Outcome V σ
  | .normal s => .normal (f s)
  | .break s => .break (f s)
  | .continue s => .continue (f s)
  | .return v s => .return v (f s)
  | .raise e s => .raise e (f s)

end Outcome

/-- What running statements leaves to the backend, besides expressions and targets. -/
structure Effects (V σ : Type) where
  /-- The values a `for` loop runs over, from the iterable's value. -/
  elements : V → σ → List V
  /-- A context manager's `__enter__`: the value `as` binds, and the new state. -/
  enter : V → σ → V × σ
  /-- A context manager's `__exit__`. -/
  exit : V → σ → σ
  /-- The `AssertionError` a failed `assert` raises, from its message's value. -/
  assertionError : Option V → V

/-- What Python's meaning of a statement leaves open besides `Effects`. -/
structure PyEffects (V σ : Type) where
  /-- The exception `raise e from c` raises: `e` with `c` as its cause. -/
  withCause : V → V → V
  /-- How the statements outside the frontend's language run: a nested `def`, an annotation
  without a value, a bare `raise`, `print >>f`, and the classes of `StmtClass`. -/
  other : Ast.Stmt → σ → Option (Outcome V σ)

/-! ## The pieces both interpreters share -/

section Shared
variable {V σ α ι τ : Type}

/-- `t₁ = t₂ = … = v`: the value goes to each target in turn. -/
def storeAll (assign : τ → V → σ → σ) (targets : List τ) (v : V) (s : σ) : σ :=
  targets.foldl (fun s t => assign t v s) s

/-- `return` and `return e`. -/
def returnWith (eval : α → σ → V × σ) : Option α → σ → Outcome V σ
  | none, s => .return none s
  | some e, s => .return (some (eval e s).1) (eval e s).2

/-- A `for` loop over the values `xs`: each goes to the target and the body runs; when they run
out, `done` runs (Python's `else` branch). -/
def forEach (store : V → σ → σ) (body done : σ → Option (Outcome V σ)) :
    List V → σ → Option (Outcome V σ)
  | [], s => done s
  | x :: xs, s => (body (store x s)).bind (Outcome.loopThen (forEach store body done xs))

/-- `… as t`: the value goes to the target, if there is one. -/
def storeOpt (assign : τ → V → σ → σ) : Option τ → V → σ → σ
  | none, _, s => s
  | some t, v, s => assign t v s

/-- `with i₁, …, iₙ: body`: the items' context managers are entered in order, each binding its
value to the item's variable if it has one; then the body runs, and the managers exit in the
reverse order, whatever the body's outcome. -/
def withItems (E : Effects V σ) (assign : τ → V → σ → σ) (manager : ι → σ → V × σ)
    (var : ι → Option τ) (body : σ → Option (Outcome V σ)) : List ι → σ → Option (Outcome V σ)
  | [], s => body s
  | i :: is, s =>
    let m := manager i s
    let entered := E.enter m.1 m.2
    (withItems E assign manager var body is (storeOpt assign (var i) entered.1 entered.2)).map
      (Outcome.mapState (E.exit m.1))

namespace Semantics
variable (S : Semantics V σ)

/-- `while test: body else: orelse`, for at most `fuel` iterations. -/
def whileLoop (test : σ → V × σ) (body orelse : σ → Option (Outcome V σ)) :
    Nat → σ → Option (Outcome V σ)
  | 0, _ => none
  | fuel + 1, s =>
    if S.truthy (test s).1 then
      (body (test s).2).bind (Outcome.loopThen (whileLoop test body orelse fuel))
    else orelse (test s).2

/-- `assert test, msg`: when the test fails, the message runs, if there is one, and the
`AssertionError` is raised. -/
def assertWith (E : Effects V σ) (eval : α → σ → V × σ) (test : α) (msg : Option α) (s : σ) :
    Outcome V σ :=
  if S.truthy (eval test s).1 then .normal (eval test s).2
  else match msg with
    | none => .raise (E.assertionError none) (eval test s).2
    | some m =>
      .raise (E.assertionError (some (eval m (eval test s).2).1)) (eval m (eval test s).2).2

end Semantics
end Shared

namespace Semantics
variable {V σ : Type} (S : Semantics V σ) (E : Effects V σ)

/-! ## The tree view -/

section TreeView
variable (fuel : Nat)

mutual
/-- `del t`: a variable, an attribute or a subscript is deleted, after its object and indices
run; a tuple or a list deletes its elements in turn. -/
def deleteTarget : TreeView.Expr → σ → σ
  | .var name, s => S.delete name.name s
  | .select value selector, s => S.delattr (S.run value s).1 selector.name (S.run value s).2
  | .subscript value subscriptExprs, s =>
    let b := S.run value s
    let is := S.runList subscriptExprs b.2
    S.delitem b.1 is.1 is.2
  | .tupleLiteral _ inputs, s | .listLiteral _ inputs, s => deleteTargets inputs s
  | _, s => s

/-- The targets of a list deleted in turn. -/
def deleteTargets : List TreeView.Expr → σ → σ
  | [], s => s
  | t :: ts, s => deleteTargets ts (deleteTarget t s)
end

/-- `t op= v` with the operator's token: the target's current value is read first, then the
operand runs, and the in-place operator's result goes back into the same place. -/
def augAssign (lhs : TreeView.Expr) (aug : String) (rhs : TreeView.Expr) (s : σ) : σ :=
  match lhs with
  | .var name =>
    let old := S.run (.var name) s
    let r := S.run rhs old.2
    S.store name.name (S.inplace aug old.1 r.1) r.2
  | .select value selector =>
    let b := S.run value s
    let old := S.getattr b.1 selector.name b.2
    let r := S.run rhs old.2
    S.setattr b.1 selector.name (S.inplace aug old.1 r.1) r.2
  | .subscript value subscriptExprs =>
    let b := S.run value s
    let is := S.runList subscriptExprs b.2
    let old := S.index b.1 is.1 is.2
    let r := S.run rhs old.2
    S.setitem b.1 is.1 (S.inplace aug old.1 r.1) r.2
  | _ => s

mutual
/-- Running a tree-view statement.  A `For` runs over one target and one iterable, the only
form the compiler accepts, and the only one the frontend emits. -/
def exec : TreeView.Stmt → σ → Option (Outcome V σ)
  | .exprStmt e, s => some (.normal (S.run e s).2)
  | .assign lhs rhs _, s => some (.normal (storeAll S.assign lhs (S.run rhs s).1 (S.run rhs s).2))
  | .delete e, s => some (.normal (S.deleteTarget e s))
  | .return _ e, s => some (returnWith S.run e s)
  | .raise _ e, s => some (.raise (S.run e s).1 (S.run e s).2)
  | .assert _ test msg, s => some (S.assertWith E S.run test msg s)
  | .augAssign lhs aug rhs, s => some (.normal (S.augAssign lhs aug rhs s))
  | .while _ cond body, s =>
    S.whileLoop (S.run cond) (execBlock body) (fun s => some (.normal s)) fuel s
  | .for _ [target] [itr] body, s =>
    forEach (S.assign target) (execBlock body) (fun s => some (.normal s))
      (E.elements (S.run itr s).1 (S.run itr s).2) (S.run itr s).2
  | .for .., _ => none
  | .if _ cond trueBranch falseBranch, s =>
    if S.truthy (S.run cond s).1 then execBlock trueBranch (S.run cond s).2
    else execBlock falseBranch (S.run cond s).2
  | .pass _, s => some (.normal s)
  | .break _, s => some (.break s)
  | .continue _, s => some (.continue s)
  | .with _ items body, s =>
    withItems E S.assign (fun i => S.run i.target) TreeView.WithItem.var (execBlock body) items s

/-- Running a tree-view block. -/
def execBlock : List TreeView.Stmt → σ → Option (Outcome V σ)
  | [], s => some (.normal s)
  | t :: ts, s => (exec t s).bind (Outcome.andThen (execBlock ts))
end

end TreeView

/-! ## Python -/

section Python
variable (A : Ast.Expr → σ → V × σ) (Q : PyEffects V σ) (fuel : Nat)

mutual
/-- Python's `del t`: a name, an attribute or a subscript is deleted, after its object and key
run; a tuple or a list deletes its elements in turn. -/
def pyDelete : Ast.Expr → σ → σ
  | .name _ id, s => S.delete id s
  | .attribute _ value attr, s => S.delattr (S.py A value s).1 attr (S.py A value s).2
  | .subscript pos value sl, s =>
    let b := S.py A value s
    let k := S.pyKey A pos sl b.2
    S.delitem b.1 [k.1] k.2
  | .tuple _ elts, s | .list _ elts, s => pyDeleteList elts s
  | _, s => s

/-- `del t₁, …, tₙ`: the targets deleted in turn. -/
def pyDeleteList : List Ast.Expr → σ → σ
  | [], s => s
  | t :: ts, s => pyDeleteList ts (pyDelete t s)
end

/-- Python's `t op= v`: the target's object and key run and its current value is read, then the
operand runs, and the in-place operator's result is stored into the same place. -/
def pyAugAssign (target : Ast.Expr) (op : String) (value : Ast.Expr) (s : σ) : σ :=
  match target with
  | .name pos id =>
    let old := S.py A (.name pos id) s
    let r := S.py A value old.2
    S.store id (S.inplace op old.1 r.1) r.2
  | .attribute _ obj attr =>
    let b := S.py A obj s
    let old := S.getattr b.1 attr b.2
    let r := S.py A value old.2
    S.setattr b.1 attr (S.inplace op old.1 r.1) r.2
  | .subscript pos obj sl =>
    let b := S.py A obj s
    let k := S.pyKey A pos sl b.2
    let old := S.index b.1 [k.1] k.2
    let r := S.py A value old.2
    S.setitem b.1 [k.1] (S.inplace op old.1 r.1) r.2
  | _ => s

mutual
/-- Python's meaning of a statement, with `Semantics.py` for its expressions and
`Semantics.pyAssign` for its targets.  A docstring is an expression statement like any other,
and `print` without a destination is the call of `print`. -/
def pyExec : Ast.Stmt → σ → Option (Outcome V σ)
  | .expr _ value, s => some (.normal (S.py A value s).2)
  | .assign _ targets value, s =>
    some (.normal (storeAll (S.pyAssign A) targets (S.py A value s).1 (S.py A value s).2))
  | .annAssign _ target _ (some value), s =>
    some (.normal (S.pyAssign A target (S.py A value s).1 (S.py A value s).2))
  | .delete _ targets, s => some (.normal (S.pyDeleteList A targets s))
  | .return _ value, s => some (returnWith (S.py A) value s)
  | .raise _ (some exc) none, s => some (.raise (S.py A exc s).1 (S.py A exc s).2)
  | .raise _ (some exc) (some cause), s =>
    some (.raise (Q.withCause (S.py A exc s).1 (S.py A cause (S.py A exc s).2).1)
      (S.py A cause (S.py A exc s).2).2)
  | .assert _ test msg, s => some (S.assertWith E (S.py A) test msg s)
  | .augAssign _ target op value, s => some (.normal (S.pyAugAssign A target op.pyToken value s))
  | .while _ test body orelse, s =>
    S.whileLoop (S.py A test) (pyExecBlock body) (pyExecBlock orelse) fuel s
  | .for _ target iter body orelse, s =>
    forEach (S.pyAssign A target) (pyExecBlock body) (pyExecBlock orelse)
      (E.elements (S.py A iter s).1 (S.py A iter s).2) (S.py A iter s).2
  | .if _ test body orelse, s =>
    if S.truthy (S.py A test s).1 then pyExecBlock body (S.py A test s).2
    else pyExecBlock orelse (S.py A test s).2
  | .pass _, s => some (.normal s)
  | .break _, s => some (.break s)
  | .continue _, s => some (.continue s)
  | .with _ items body, s =>
    withItems E (S.pyAssign A) (fun i => S.py A i.contextExpr) Ast.WithItem.optionalVars
      (pyExecBlock body) items s
  | .print pos none values, s =>
    some (.normal (S.py A (.call pos (.name pos "print") values none []) s).2)
  | stmt@(.annAssign _ _ _ none), s | stmt@(.raise _ none _), s | stmt@(.print _ (some _) _), s
  | stmt@(.functionDef ..), s | stmt@(.other ..), s => Q.other stmt s

/-- Python's meaning of a block. -/
def pyExecBlock : List Ast.Stmt → σ → Option (Outcome V σ)
  | [], s => some (.normal s)
  | st :: sts, s => (pyExec st s).bind (Outcome.andThen (pyExecBlock sts))
end

end Python
end Semantics
end JitFrontend
