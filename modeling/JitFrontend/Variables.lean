import JitFrontend.Emitted

/-! # No variable of a translated body is reserved

`build_Name` (lines 521–532) rejects every name that starts with `__jit`, so that the names the
TorchScript compiler generates cannot collide with the user's.  This module proves that the
check covers every expression and every statement: no variable of the body of a `Def` that
`get_jit_def` returns has the reserved prefix, whatever the syntax tree, and neither does any
variable of a class `get_jit_class_def` returns.  The parameters of a definition are not
variables of its body: `build_param` binds them unchecked, as `Correspondence` shows.

`allVars p` is `allNodes` of the test `varCheck p`, which looks at the variables only
(`Expr.allVars_eq_allNodes`), and `varCheck notReserved` accepts every node the builders emit
(`varCheck_nodeCheck`); each result below is the theorem of `Emitted` for that test.
-/
namespace JitFrontend
open Ast (Pos)

namespace TreeView

mutual
/-- Every variable of the expression has a name that satisfies `p`. -/
def Expr.allVars (p : String → Bool) : Expr → Bool
  | .var name => p name.name
  | .emptyTypeAnnot _ | .trueLiteral _ | .falseLiteral _ | .noneLiteral _ | .const .. |
    .stringLiteral .. | .dots _ => true
  | .binOp _ lhs rhs => lhs.allVars p && rhs.allVars p
  | .unaryOp _ _ e | .starred _ e | .select e _ => e.allVars p
  | .ternaryIf cond t f => cond.allVars p && t.allVars p && f.allVars p
  | .apply callee inputs attributes =>
    callee.allVars p && allVarsList p inputs && allVarsAttributes p attributes
  | .listLiteral _ es | .tupleLiteral _ es => allVarsList p es
  | .dictLiteral _ keys values => allVarsList p keys && allVarsList p values
  | .listComp _ elt target iter => elt.allVars p && target.allVars p && iter.allVars p
  | .subscript value es => value.allVars p && allVarsList p es
  | .sliceExpr _ start stop step =>
    allVarsOption p start && allVarsOption p stop && allVarsOption p step

/-- `Expr.allVars` of every expression of a list. -/
def allVarsList (p : String → Bool) : List Expr → Bool
  | [] => true
  | e :: es => e.allVars p && allVarsList p es

/-- `Expr.allVars` of every value of a keyword list. -/
def allVarsAttributes (p : String → Bool) : List (Ident × Expr) → Bool
  | [] => true
  | (_, e) :: rest => e.allVars p && allVarsAttributes p rest

/-- `Expr.allVars` of an optional expression. -/
def allVarsOption (p : String → Bool) : Option Expr → Bool
  | none => true
  | some e => e.allVars p
end

/-- `Expr.allVars` of a `with` item. -/
def WithItem.allVars (p : String → Bool) (item : WithItem) : Bool :=
  item.target.allVars p && allVarsOption p item.var

mutual
/-- Every variable of the statement has a name that satisfies `p`. -/
def Stmt.allVars (p : String → Bool) : Stmt → Bool
  | .exprStmt e | .delete e | .raise _ e => e.allVars p
  | .assign lhs rhs type => allVarsList p lhs && rhs.allVars p && allVarsOption p type
  | .return _ e => allVarsOption p e
  | .assert _ test msg => test.allVars p && allVarsOption p msg
  | .augAssign lhs _ rhs => lhs.allVars p && rhs.allVars p
  | .while _ cond body => cond.allVars p && allVarsStmts p body
  | .for _ targets itrs body => allVarsList p targets && allVarsList p itrs && allVarsStmts p body
  | .if _ cond t f => cond.allVars p && allVarsStmts p t && allVarsStmts p f
  | .pass _ | .break _ | .continue _ => true
  | .with _ targets body => targets.all (WithItem.allVars p) && allVarsStmts p body

/-- `Stmt.allVars` of every statement of a block. -/
def allVarsStmts (p : String → Bool) : List Stmt → Bool
  | [] => true
  | s :: ss => s.allVars p && allVarsStmts p ss
end

/-- The test `allVars p` makes at a single node: a variable's name satisfies `p`. -/
def varCheck (p : String → Bool) : Expr → Bool
  | .var name => p name.name
  | _ => true

variable (p : String → Bool)

mutual
theorem Expr.allVars_eq_allNodes : ∀ e : Expr, e.allVars p = e.allNodes (varCheck p)
  | .var _ | .emptyTypeAnnot _ | .trueLiteral _ | .falseLiteral _ | .noneLiteral _ | .const ..
  | .stringLiteral .. | .dots _ => rfl
  | .binOp _ lhs rhs => by
    simp only [Expr.allVars, Expr.allNodes, varCheck, Bool.true_and,
      Expr.allVars_eq_allNodes lhs, Expr.allVars_eq_allNodes rhs]
  | .unaryOp _ _ e | .starred _ e | .select e _ => by
    simp only [Expr.allVars, Expr.allNodes, varCheck, Bool.true_and, Expr.allVars_eq_allNodes e]
  | .ternaryIf cond t f => by
    simp only [Expr.allVars, Expr.allNodes, varCheck, Bool.true_and,
      Expr.allVars_eq_allNodes cond, Expr.allVars_eq_allNodes t, Expr.allVars_eq_allNodes f]
  | .apply callee inputs attributes => by
    simp only [Expr.allVars, Expr.allNodes, varCheck, Bool.true_and,
      Expr.allVars_eq_allNodes callee, allVarsList_eq_allNodesList inputs,
      allVarsAttributes_eq_allNodesAttributes attributes]
  | .listLiteral _ es | .tupleLiteral _ es => by
    simp only [Expr.allVars, Expr.allNodes, varCheck, Bool.true_and, allVarsList_eq_allNodesList es]
  | .dictLiteral _ keys values => by
    simp only [Expr.allVars, Expr.allNodes, varCheck, Bool.true_and,
      allVarsList_eq_allNodesList keys, allVarsList_eq_allNodesList values]
  | .listComp _ elt target iter => by
    simp only [Expr.allVars, Expr.allNodes, varCheck, Bool.true_and,
      Expr.allVars_eq_allNodes elt, Expr.allVars_eq_allNodes target, Expr.allVars_eq_allNodes iter]
  | .subscript value es => by
    simp only [Expr.allVars, Expr.allNodes, varCheck, Bool.true_and,
      Expr.allVars_eq_allNodes value, allVarsList_eq_allNodesList es]
  | .sliceExpr _ start stop step => by
    simp only [Expr.allVars, Expr.allNodes, varCheck, Bool.true_and,
      allVarsOption_eq_allNodesOption start, allVarsOption_eq_allNodesOption stop,
      allVarsOption_eq_allNodesOption step]

theorem allVarsList_eq_allNodesList : ∀ es : List Expr,
    allVarsList p es = allNodesList (varCheck p) es
  | [] => rfl
  | e :: es => by
    simp only [allVarsList, allNodesList, Expr.allVars_eq_allNodes e, allVarsList_eq_allNodesList es]

theorem allVarsAttributes_eq_allNodesAttributes : ∀ kws : List (Ident × Expr),
    allVarsAttributes p kws = allNodesAttributes (varCheck p) kws
  | [] => rfl
  | (_, e) :: kws => by
    simp only [allVarsAttributes, allNodesAttributes, Expr.allVars_eq_allNodes e,
      allVarsAttributes_eq_allNodesAttributes kws]

theorem allVarsOption_eq_allNodesOption : ∀ e : Option Expr,
    allVarsOption p e = allNodesOption (varCheck p) e
  | none => rfl
  | some e => Expr.allVars_eq_allNodes e
end

theorem WithItem.allVars_eq_allNodes : WithItem.allVars p = WithItem.allNodes (varCheck p) :=
  funext fun item => by
    simp only [WithItem.allVars, WithItem.allNodes, Expr.allVars_eq_allNodes,
      allVarsOption_eq_allNodesOption]

mutual
theorem Stmt.allVars_eq_allNodes : ∀ s : Stmt, s.allVars p = s.allNodes (varCheck p)
  | .exprStmt e | .delete e | .raise _ e => Expr.allVars_eq_allNodes p e
  | .assign lhs rhs type => by
    simp only [Stmt.allVars, Stmt.allNodes, allVarsList_eq_allNodesList,
      Expr.allVars_eq_allNodes, allVarsOption_eq_allNodesOption]
  | .return _ e => allVarsOption_eq_allNodesOption p e
  | .assert _ test msg => by
    simp only [Stmt.allVars, Stmt.allNodes, Expr.allVars_eq_allNodes,
      allVarsOption_eq_allNodesOption]
  | .augAssign lhs _ rhs => by simp only [Stmt.allVars, Stmt.allNodes, Expr.allVars_eq_allNodes]
  | .while _ cond body => by
    simp only [Stmt.allVars, Stmt.allNodes, Expr.allVars_eq_allNodes,
      allVarsStmts_eq_allNodesStmts body]
  | .for _ targets itrs body => by
    simp only [Stmt.allVars, Stmt.allNodes, allVarsList_eq_allNodesList,
      allVarsStmts_eq_allNodesStmts body]
  | .if _ cond t f => by
    simp only [Stmt.allVars, Stmt.allNodes, Expr.allVars_eq_allNodes,
      allVarsStmts_eq_allNodesStmts t, allVarsStmts_eq_allNodesStmts f]
  | .pass _ | .break _ | .continue _ => rfl
  | .with _ targets body => by
    simp only [Stmt.allVars, Stmt.allNodes, WithItem.allVars_eq_allNodes,
      allVarsStmts_eq_allNodesStmts body]

theorem allVarsStmts_eq_allNodesStmts : ∀ ss : List Stmt,
    allVarsStmts p ss = allNodesStmts (varCheck p) ss
  | [] => rfl
  | s :: ss => by
    simp only [allVarsStmts, allNodesStmts, Stmt.allVars_eq_allNodes s,
      allVarsStmts_eq_allNodesStmts ss]
end

end TreeView

open TreeView

/-- `build_Name`'s test, made at the variables only, accepts every node the builders emit. -/
theorem varCheck_nodeCheck (ctx : SourceContext) : NodeCheck ctx (varCheck notReserved) where
  var _ _ h := h
  binOp _ _ _ _ _ _ := rfl
  boolOp _ _ _ _ _ := rfl
  cmpOp _ _ _ _ _ _ := rfl
  unaryOp _ _ _ _ _ := rfl
  unchecked e h := by cases e <;> first | rfl | cases h

/-- **No variable of a translated function body is reserved**, for every function, dropped or
not: what `build_Name` checks holds of the whole body `get_jit_def` returns. -/
theorem getJitDef_body_allVars (tc : TypeComments) (fn : FunctionSource) (defName : String)
    (selfName : Option String) {d : TreeView.Def} (h : getJitDef tc fn defName selfName = .ok d) :
    allVarsStmts notReserved d.body = true := by
  rw [allVarsStmts_eq_allNodesStmts]
  exact getJitDef_body_allNodes (varCheck_nodeCheck _) h

/-- `def f(x): return x`, whatever the type-comment parser. -/
theorem getJitDef_body_allVars_example :
    let fn : FunctionSource := ⟨"def f(x):\n    return x\n", 0,
      [.functionDef ⟨1, 0⟩ ⟨[], [⟨"x", none, ⟨1, 6⟩⟩], none, [], [], none⟩
        [.return ⟨2, 4⟩ (some (.name ⟨2, 11⟩ "x"))] [] none], none, false⟩
    ∃ d, ∀ comments : TypeComments,
      getJitDef comments fn "f" none = .ok d ∧ allVarsStmts notReserved d.body = true := by
  intro fn
  exact ⟨_, fun comments => ⟨rfl, getJitDef_body_allVars comments fn "f" none rfl⟩⟩

/-- **No variable of a translated class is reserved**: nor of its methods' bodies, nor of its
properties' getters and setters. -/
theorem getJitClassDef_allVars (tc : TypeComments) (cls : ClassSource) (selfName : String)
    {c : TreeView.ClassDef} (h : getJitClassDef tc cls selfName = .ok c) :
    (∀ d ∈ c.body, allVarsStmts notReserved d.body = true) ∧
    ∀ prop ∈ c.properties, allVarsStmts notReserved prop.getter.body = true ∧
      ∀ setter ∈ prop.setter, allVarsStmts notReserved setter.body = true := by
  simp only [allVarsStmts_eq_allNodesStmts]
  exact getJitClassDef_allNodes (fun _ _ => varCheck_nodeCheck _) h

/-- A class with a method `f` and a property `p` that has a setter, each `def f(self): return
self`, whatever the type-comment parser. -/
theorem getJitClassDef_allVars_example :
    let fn : FunctionSource := ⟨"def f(self):\n    return self\n", 0,
      [.functionDef ⟨1, 0⟩ ⟨[], [⟨"self", none, ⟨1, 6⟩⟩], none, [], [], none⟩
        [.return ⟨2, 4⟩ (some (.name ⟨2, 11⟩ "self"))] [] none], none, false⟩
    let cls : ClassSource := ⟨[("f", fn)], [("p", fn, some fn)], "class C:\n    pass\n", 0,
      [.other .classDef ⟨1, 0⟩]⟩
    ∃ c, ∀ comments : TypeComments, getJitClassDef comments cls "C" = .ok c ∧
      (∀ d ∈ c.body, allVarsStmts notReserved d.body = true) ∧
      ∀ prop ∈ c.properties, allVarsStmts notReserved prop.getter.body = true ∧
        ∀ setter ∈ prop.setter, allVarsStmts notReserved setter.body = true := by
  intro _ cls
  exact ⟨_, fun comments => ⟨rfl, getJitClassDef_allVars comments cls "C" rfl⟩⟩

end JitFrontend
