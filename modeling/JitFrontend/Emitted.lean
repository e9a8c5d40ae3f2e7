import JitFrontend.DefBuilder

/-! # The nodes the builders emit

The builders check two things of the nodes they put into a tree view, as opposed to the Python
nodes they read: `build_Name` (lines 521–532) rejects a variable whose name starts with `__jit`,
and `build_BinOp` (lines 551–556) emits a binary `/` only in a unit that opted into true
division.  Every other node they emit carries an operator of `binop_map`, `boolop_map` or
`cmpop_map`, or nothing a builder checks.

`NodeCheck ctx q` says that a test `q` of single nodes accepts every node the builders may emit in
`ctx`.  Its one theorem, proved once here by induction over every builder, is that such a test then
holds at every node of every tree view `build_expr`, `build_stmt` and `get_jit_def` return
(`buildExpr_allNodes`, `buildStmts_allNodes`, `getJitDef_body_allNodes`).  `Variables` and
`TrueDivision` instantiate it with the two checks.
-/
namespace JitFrontend
open Ast (Pos)

/-- The names `build_Name` accepts. -/
def notReserved (id : String) : Bool := !startsWith id reservedPrefix

/-- The one variable a builder makes without `build_Name`: `build_Print`'s callee. -/
theorem notReserved_print : notReserved "print" = true := rfl

namespace TreeView

/-- A node none of whose own data a builder checks: neither a variable nor a binary operator. -/
def Expr.unchecked : Expr → Bool
  | .var _ | .binOp .. | .unaryOp .. => false
  | _ => true

mutual
/-- `q` holds of the expression and of every expression inside it. -/
def Expr.allNodes (q : Expr → Bool) : Expr → Bool
  | e@(.var _) | e@(.emptyTypeAnnot _) | e@(.trueLiteral _) | e@(.falseLiteral _)
  | e@(.noneLiteral _) | e@(.const ..) | e@(.stringLiteral ..) | e@(.dots _) => q e
  | e@(.binOp _ lhs rhs) => q e && lhs.allNodes q && rhs.allNodes q
  | e@(.unaryOp _ _ a) | e@(.starred _ a) | e@(.select a _) => q e && a.allNodes q
  | e@(.ternaryIf cond t f) => q e && cond.allNodes q && t.allNodes q && f.allNodes q
  | e@(.apply callee inputs attributes) =>
    q e && callee.allNodes q && allNodesList q inputs && allNodesAttributes q attributes
  | e@(.listLiteral _ es) | e@(.tupleLiteral _ es) => q e && allNodesList q es
  | e@(.dictLiteral _ keys values) => q e && allNodesList q keys && allNodesList q values
  | e@(.listComp _ elt target iter) =>
    q e && elt.allNodes q && target.allNodes q && iter.allNodes q
  | e@(.subscript value es) => q e && value.allNodes q && allNodesList q es
  | e@(.sliceExpr _ start stop step) =>
    q e && allNodesOption q start && allNodesOption q stop && allNodesOption q step

/-- `Expr.allNodes` of every expression of a list. -/
def allNodesList (q : Expr → Bool) : List Expr → Bool
  | [] => true
  | e :: es => e.allNodes q && allNodesList q es

/-- `Expr.allNodes` of every value of a keyword list. -/
def allNodesAttributes (q : Expr → Bool) : List (Ident × Expr) → Bool
  | [] => true
  | (_, e) :: rest => e.allNodes q && allNodesAttributes q rest

/-- `Expr.allNodes` of an optional expression. -/
def allNodesOption (q : Expr → Bool) : Option Expr → Bool
  | none => true
  | some e => e.allNodes q
end

/-- `Expr.allNodes` of a `with` item. -/
def WithItem.allNodes (q : Expr → Bool) (item : WithItem) : Bool :=
  item.target.allNodes q && allNodesOption q item.var

mutual
/-- `q` holds of every expression inside the statement, at every depth. -/
def Stmt.allNodes (q : Expr → Bool) : Stmt → Bool
  | .exprStmt e | .delete e | .raise _ e => e.allNodes q
  | .assign lhs rhs type => allNodesList q lhs && rhs.allNodes q && allNodesOption q type
  | .return _ e => allNodesOption q e
  | .assert _ test msg => test.allNodes q && allNodesOption q msg
  | .augAssign lhs _ rhs => lhs.allNodes q && rhs.allNodes q
  | .while _ cond body => cond.allNodes q && allNodesStmts q body
  | .for _ targets itrs body =>
    allNodesList q targets && allNodesList q itrs && allNodesStmts q body
  | .if _ cond t f => cond.allNodes q && allNodesStmts q t && allNodesStmts q f
  | .pass _ | .break _ | .continue _ => true
  | .with _ targets body => targets.all (WithItem.allNodes q) && allNodesStmts q body

/-- `Stmt.allNodes` of every statement of a block. -/
def allNodesStmts (q : Expr → Bool) : List Stmt → Bool
  | [] => true
  | s :: ss => s.allNodes q && allNodesStmts q ss
end

variable (q : Expr → Bool)

@[simp] theorem allNodesList_append (es es' : List Expr) :
    allNodesList q (es ++ es') = (allNodesList q es && allNodesList q es') := by
  induction es with
  | nil => rfl
  | cons e es ih => simp [allNodesList, ih, Bool.and_assoc]

@[simp] theorem allNodesStmts_append (ss ss' : List Stmt) :
    allNodesStmts q (ss ++ ss') = (allNodesStmts q ss && allNodesStmts q ss') := by
  induction ss with
  | nil => rfl
  | cons s ss ih => simp [allNodesStmts, ih, Bool.and_assoc]

/-- The left fold of a binary operator that `q` accepts has the nodes of its operands. -/
theorem allNodes_foldl_binOp {kind : String} (hkind : ∀ l r, q (.binOp kind l r) = true)
    (rest : List Expr) (first : Expr) :
    (rest.foldl (.binOp kind) first).allNodes q = (first.allNodes q && allNodesList q rest) := by
  induction rest generalizing first with
  | nil => simp [allNodesList]
  | cons e rest ih => simp [ih, Expr.allNodes, allNodesList, hkind, Bool.and_assoc]

end TreeView

open TreeView

/-- A test of single nodes that accepts every node the builders may emit in `ctx`: a variable
whose name `build_Name` accepts, a binary operator of `binop_map` (`/` only with true division),
of `boolop_map` or of `cmpop_map` but `not in`, which `build_Compare` writes as `not (… in …)`, a
unary operator of `unop_map`, and every node whose own data no builder checks. -/
structure NodeCheck (ctx : SourceContext) (q : TreeView.Expr → Bool) : Prop where
  var : ∀ r id, notReserved id = true → q (.var ⟨r, id⟩) = true
  binOp : ∀ op tok l r, binopMap op = some tok → (op = .div → ctx.usesTrueDivision = true) →
    q (.binOp tok l r) = true
  boolOp : ∀ op tok l r, boolopMap op = some tok → q (.binOp tok l r) = true
  cmpOp : ∀ op tok l r, cmpopMap op = some tok → op ≠ .notIn → q (.binOp tok l r) = true
  unaryOp : ∀ op tok r a, unopMap op = some tok → q (.unaryOp r tok a) = true
  unchecked : ∀ e, e.unchecked = true → q e = true

/-! ## The leaf builders -/

section Leaves
variable {ctx : SourceContext} {q : TreeView.Expr → Bool} (hq : NodeCheck ctx q)
include hq

theorem buildName_allNodes {pos : Pos} {id : String} {ir : TreeView.Expr}
    (h : buildName ctx pos id = .ok ir) : ir.allNodes q = true := by
  obtain ⟨r, -, h⟩ := except_bind_eq_ok.1 h
  split_ifs at h with hres <;> cases h
  all_goals first
    | exact hq.unchecked _ rfl
    | exact hq.var _ _ (by simpa [notReserved] using hres)

theorem buildNameConstant_allNodes {pos : Pos} {value : Ast.Singleton} {ir : TreeView.Expr}
    (h : buildNameConstant ctx pos value = .ok ir) : ir.allNodes q = true := by
  obtain ⟨r, -, h⟩ := except_bind_eq_ok.1 h
  cases value <;> cases h <;> exact hq.unchecked _ rfl

theorem buildNum_allNodes {pos : Pos} {n : Ast.Number} {ir : TreeView.Expr}
    (h : buildNum ctx pos n = .ok ir) : ir.allNodes q = true := by
  obtain ⟨r, -, h⟩ := except_bind_eq_ok.1 h
  cases h; exact hq.unchecked _ rfl

theorem buildStr_allNodes {pos : Pos} {str : String} {ir : TreeView.Expr}
    (h : buildStr ctx pos str = .ok ir) : ir.allNodes q = true := by
  obtain ⟨r, -, h⟩ := except_bind_eq_ok.1 h
  cases h; exact hq.unchecked _ rfl

theorem buildEllipsis_allNodes {pos : Pos} {ir : TreeView.Expr}
    (h : buildEllipsis ctx pos = .ok ir) : ir.allNodes q = true := by
  obtain ⟨r, -, h⟩ := except_bind_eq_ok.1 h
  cases h; exact hq.unchecked _ rfl

theorem buildConstant_allNodes {pos : Pos} {value : Ast.Constant} {ir : TreeView.Expr}
    (h : buildConstant ctx pos value = .ok ir) : ir.allNodes q = true := by
  rcases value with v | ⟨_ | _ | _⟩ | _ | _ | _
  · exact buildNameConstant_allNodes hq h
  · exact buildNum_allNodes hq h
  · exact buildNum_allNodes hq h
  all_goals first
    | exact buildStr_allNodes hq h
    | exact buildEllipsis_allNodes hq h
    | (obtain ⟨_, -, h⟩ := except_bind_eq_ok.1 h; cases h)

theorem buildAttribute_allNodes {base ir : TreeView.Expr} {attr : String}
    (h : buildAttribute ctx base attr = .ok ir) : ir.allNodes q = base.allNodes q := by
  unfold buildAttribute at h
  split at h
  · cases h
  · cases h
    simp [Expr.allNodes, hq.unchecked, Expr.unchecked]

theorem buildCall_allNodes (func : TreeView.Expr) (args : List TreeView.Expr)
    (stararg : Option TreeView.Expr) (kwargs : List (Ident × TreeView.Expr)) :
    (buildCall func args stararg kwargs).allNodes q =
      (func.allNodes q && allNodesList q args && allNodesOption q stararg &&
        allNodesAttributes q kwargs) := by
  cases stararg <;> simp [buildCall, Expr.allNodes, allNodesList, allNodesOption,
    hq.unchecked, Expr.unchecked, Bool.and_assoc]

/-- `build_BinOp` emits only the operators of `binop_map`, and `/` only with true division. -/
theorem buildBinOp_allNodes {op : Ast.Operator} {lhs rhs ir : TreeView.Expr}
    (h : buildBinOp ctx op lhs rhs = .ok ir) : ir.allNodes q = (lhs.allNodes q && rhs.allNodes q) := by
  unfold buildBinOp at h
  split_ifs at h with hdiv
  split at h
  · cases h
  · rename_i tok htok
    cases h
    have hflag : op = .div → ctx.usesTrueDivision = true := fun hop => by simpa [hop] using hdiv
    simp [Expr.allNodes, hq.binOp op tok lhs rhs htok hflag, Bool.and_assoc]

theorem buildUnaryOp_allNodes {pos : Pos} {op : Ast.UnaryOp} {e ir : TreeView.Expr}
    (h : buildUnaryOp ctx pos op e = .ok ir) : ir.allNodes q = e.allNodes q := by
  unfold buildUnaryOp at h
  split at h
  · cases h
  · rename_i tok htok
    obtain ⟨_, -, h⟩ := except_bind_eq_ok.1 h
    cases h
    simp [Expr.allNodes, hq.unaryOp op tok _ e htok]

theorem buildBoolOp_allNodes {op : Ast.BoolOp} {subExprs : List TreeView.Expr} {ir : TreeView.Expr}
    (h : buildBoolOp ctx op subExprs = .ok ir) : ir.allNodes q = allNodesList q subExprs := by
  unfold buildBoolOp at h
  split at h
  · rename_i tok lhs rest htok
    cases h
    simp [allNodes_foldl_binOp q (hq.boolOp op tok · · htok), allNodesList]
  · cases h
  · cases h

theorem compareStep_allNodes {lhs rhs c : TreeView.Expr} {op : Ast.CmpOp}
    (h : compareStep ctx lhs op rhs = .ok c) :
    c.allNodes q = (lhs.allNodes q && rhs.allNodes q) := by
  unfold compareStep at h
  split at h
  · cases h
  · rename_i tok htok
    split_ifs at h <;> cases h
    · simp [Expr.allNodes, hq.unaryOp .not "not" _ _ rfl, hq.cmpOp .in "in" lhs rhs rfl (by decide),
        Bool.and_assoc]
    · simp [Expr.allNodes, hq.cmpOp op tok lhs rhs htok ‹_›, Bool.and_assoc]

theorem compareLoop_allNodes {result lhs ir : TreeView.Expr}
    {rest : List (Ast.CmpOp × TreeView.Expr)} (hresult : result.allNodes q = true)
    (hlhs : lhs.allNodes q = true) (hrest : allNodesList q (rest.map Prod.snd) = true)
    (h : compareLoop ctx result lhs rest = .ok ir) : ir.allNodes q = true := by
  induction rest generalizing result lhs with
  | nil => cases h; exact hresult
  | cons next rest ih =>
    simp only [List.map_cons, allNodesList, Bool.and_eq_true] at hrest
    simp only [compareLoop] at h
    obtain ⟨c, hc, h⟩ := except_bind_eq_ok.1 h
    refine ih ?_ hrest.1 hrest.2 h
    simp [Expr.allNodes, hq.boolOp .and "and" _ _ rfl, hresult, compareStep_allNodes hq hc, hlhs,
      hrest.1]

theorem joinedStrCall_allNodes {pos : Pos} {template : String} {args : List TreeView.Expr}
    {ir : TreeView.Expr} (h : joinedStrCall ctx pos template args = .ok ir) :
    ir.allNodes q = allNodesList q args := by
  obtain ⟨r, -, h⟩ := except_bind_eq_ok.1 h
  cases h
  simp [Expr.allNodes, allNodesAttributes, hq.unchecked, Expr.unchecked]

end Leaves

theorem buildKeyword_snd {arg : Option String} {kwExpr : TreeView.Expr}
    {kw : Ident × TreeView.Expr} (h : buildKeyword arg kwExpr = .ok kw) : kw.2 = kwExpr := by
  unfold buildKeyword at h
  split_ifs at h
  cases h; rfl

/-! ## Expressions -/

mutual
variable {ctx : SourceContext} {q : TreeView.Expr → Bool}

/-- **Every node of a tree view `build_expr` returns passes every test that accepts what the
builders emit.** -/
theorem buildExpr_allNodes (hq : NodeCheck ctx q) : ∀ (e : Ast.Expr) {ir : TreeView.Expr},
    buildExpr ctx e = .ok ir → ir.allNodes q = true
  | .attribute _ value _, ir, h => by
    rw [buildExpr_attribute] at h
    obtain ⟨base, hbase, h⟩ := except_bind_eq_ok.1 h
    rw [buildAttribute_allNodes hq h]
    exact buildExpr_allNodes hq value hbase
  | .call _ func args starargs keywords, ir, h => by
    rw [buildExpr_call] at h
    obtain ⟨f, hf, h⟩ := except_bind_eq_ok.1 h
    obtain ⟨as, has, h⟩ := except_bind_eq_ok.1 h
    obtain ⟨st, hst, h⟩ := except_bind_eq_ok.1 h
    obtain ⟨kws, hkws, h⟩ := except_bind_eq_ok.1 h
    cases h
    simp [buildCall_allNodes hq, buildExpr_allNodes hq func hf, buildExprs_allNodes hq args has,
      buildOptional_allNodes hq starargs hst, buildKeywords_allNodes hq keywords hkws]
  | .ellipsis _, ir, h => buildEllipsis_allNodes hq h
  | .num .., ir, h => buildNum_allNodes hq h
  | .str .., ir, h => buildStr_allNodes hq h
  | .nameConstant .., ir, h => buildNameConstant_allNodes hq h
  | .name _ _, ir, h => buildName_allNodes hq h
  | .constant _ _, ir, h => buildConstant_allNodes hq h
  | .binOp _ left _ right, ir, h => by
    rw [buildExpr_binOp] at h
    obtain ⟨l, hl, h⟩ := except_bind_eq_ok.1 h
    obtain ⟨r, hr, h⟩ := except_bind_eq_ok.1 h
    simp [buildBinOp_allNodes hq h, buildExpr_allNodes hq left hl, buildExpr_allNodes hq right hr]
  | .unaryOp _ _ operand, ir, h => by
    rw [buildExpr_unaryOp] at h
    obtain ⟨e, he, h⟩ := except_bind_eq_ok.1 h
    rw [buildUnaryOp_allNodes hq h]
    exact buildExpr_allNodes hq operand he
  | .boolOp _ _ values, ir, h => by
    rw [buildExpr_boolOp] at h
    split at h
    · cases h
    · obtain ⟨es, hes, h⟩ := except_bind_eq_ok.1 h
      rw [buildBoolOp_allNodes hq h]
      exact buildExprs_allNodes hq values hes
  | .ifExp _ test body orelse, ir, h => by
    rw [buildExpr_ifExp] at h
    obtain ⟨t, ht, h⟩ := except_bind_eq_ok.1 h
    obtain ⟨b, hb, h⟩ := except_bind_eq_ok.1 h
    obtain ⟨o, ho, h⟩ := except_bind_eq_ok.1 h
    cases h
    simp [Expr.allNodes, hq.unchecked, Expr.unchecked, buildExpr_allNodes hq test ht,
      buildExpr_allNodes hq body hb, buildExpr_allNodes hq orelse ho]
  | .compare _ left (op, comparator) rest, ir, h => by
    rw [buildExpr_compare] at h
    obtain ⟨l, hl, h⟩ := except_bind_eq_ok.1 h
    obtain ⟨r, hr, h⟩ := except_bind_eq_ok.1 h
    obtain ⟨cs, hcs, h⟩ := except_bind_eq_ok.1 h
    obtain ⟨c, hc, h⟩ := except_bind_eq_ok.1 h
    refine compareLoop_allNodes hq ?_ (buildExpr_allNodes hq comparator hr)
      (buildComparators_allNodes hq rest hcs) h
    simp [compareStep_allNodes hq hc, buildExpr_allNodes hq left hl,
      buildExpr_allNodes hq comparator hr]
  | .subscript _ value slice, ir, h => by
    rw [buildExpr_subscript] at h
    obtain ⟨base, hbase, h⟩ := except_bind_eq_ok.1 h
    exact buildSubscript_allNodes hq base (buildExpr_allNodes hq value hbase) slice h
  | .list _ elts, ir, h | .tuple _ elts, ir, h => by
    simp only [buildExpr_list, buildExpr_tuple] at h
    obtain ⟨_, -, h⟩ := except_bind_eq_ok.1 h
    obtain ⟨es, hes, h⟩ := except_bind_eq_ok.1 h
    cases h
    simp [Expr.allNodes, hq.unchecked, Expr.unchecked, buildExprs_allNodes hq elts hes]
  | .dict _ keys values, ir, h => by
    rw [buildExpr_dict] at h
    obtain ⟨_, -, h⟩ := except_bind_eq_ok.1 h
    obtain ⟨ks, hks, h⟩ := except_bind_eq_ok.1 h
    obtain ⟨vs, hvs, h⟩ := except_bind_eq_ok.1 h
    cases h
    simp [Expr.allNodes, hq.unchecked, Expr.unchecked, buildDictKeys_allNodes hq keys hks,
      buildExprs_allNodes hq values hvs]
  | .joinedStr _ values, ir, h => by
    rw [buildExpr_joinedStr] at h
    obtain ⟨⟨template, args⟩, hvalues, h⟩ := except_bind_eq_ok.1 h
    rw [joinedStrCall_allNodes hq h]
    exact buildJoinedStrValues_allNodes hq "" [] values rfl hvalues
  | .listComp _ elt generators, ir, h => by
    rw [buildExpr_listComp] at h
    obtain ⟨_, -, h⟩ := except_bind_eq_ok.1 h
    obtain ⟨_, -, h⟩ := except_bind_eq_ok.1 h
    obtain ⟨e, he, h⟩ := except_bind_eq_ok.1 h
    obtain ⟨⟨t, i⟩, hti, h⟩ := except_bind_eq_ok.1 h
    cases h
    obtain ⟨ht, hi⟩ := buildGenerator_allNodes hq generators hti
    simp [Expr.allNodes, hq.unchecked, Expr.unchecked, buildExpr_allNodes hq elt he, ht, hi]
  | .starred _ value, ir, h => by
    rw [buildExpr_starred] at h
    obtain ⟨_, -, h⟩ := except_bind_eq_ok.1 h
    obtain ⟨e, he, h⟩ := except_bind_eq_ok.1 h
    cases h
    simp [Expr.allNodes, hq.unchecked, Expr.unchecked, buildExpr_allNodes hq value he]
  | .formattedValue .., ir, h | .other .., ir, h => absurd h unsupportedNodeError_ne_ok

theorem buildExprs_allNodes (hq : NodeCheck ctx q) : ∀ (es : List Ast.Expr)
    {irs : List TreeView.Expr}, buildExprs ctx es = .ok irs → allNodesList q irs = true
  | [], irs, h => by cases h; rfl
  | e :: es, irs, h => by
    rw [buildExprs_cons] at h
    obtain ⟨ir, hir, h⟩ := except_bind_eq_ok.1 h
    obtain ⟨irs', hirs, h⟩ := except_bind_eq_ok.1 h
    cases h
    simp [allNodesList, buildExpr_allNodes hq e hir, buildExprs_allNodes hq es hirs]

theorem buildOptional_allNodes (hq : NodeCheck ctx q) : ∀ (e : Option Ast.Expr)
    {r : Option TreeView.Expr}, buildOptional ctx e = .ok r → allNodesOption q r = true
  | none, r, h => by cases h; rfl
  | some e, r, h => by
    rw [buildOptional_some] at h
    obtain ⟨ir, hir, h⟩ := except_bind_eq_ok.1 h
    cases h
    exact buildExpr_allNodes hq e hir

theorem buildDictKeys_allNodes (hq : NodeCheck ctx q) : ∀ (keys : List (Option Ast.Expr))
    {irs : List TreeView.Expr}, buildDictKeys ctx keys = .ok irs → allNodesList q irs = true
  | [], irs, h => by cases h; rfl
  | none :: _, irs, h => by cases h
  | some k :: ks, irs, h => by
    rw [buildDictKeys_some] at h
    obtain ⟨ir, hir, h⟩ := except_bind_eq_ok.1 h
    obtain ⟨irs', hirs, h⟩ := except_bind_eq_ok.1 h
    cases h
    simp [allNodesList, buildExpr_allNodes hq k hir, buildDictKeys_allNodes hq ks hirs]

theorem buildKeywords_allNodes (hq : NodeCheck ctx q) : ∀ (kws : List Ast.Keyword)
    {r : List (Ident × TreeView.Expr)},
    buildKeywords ctx kws = .ok r → allNodesAttributes q r = true
  | [], r, h => by cases h; rfl
  | .mk _ value :: kws, r, h => by
    rw [buildKeywords_cons] at h
    obtain ⟨e, he, h⟩ := except_bind_eq_ok.1 h
    obtain ⟨⟨name, kwExpr⟩, hkw, h⟩ := except_bind_eq_ok.1 h
    obtain ⟨r', hr', h⟩ := except_bind_eq_ok.1 h
    cases h
    cases buildKeyword_snd hkw
    simp [allNodesAttributes, buildExpr_allNodes hq value he, buildKeywords_allNodes hq kws hr']

theorem buildComparators_allNodes (hq : NodeCheck ctx q) : ∀ (rest : List (Ast.CmpOp × Ast.Expr))
    {r : List (Ast.CmpOp × TreeView.Expr)},
    buildComparators ctx rest = .ok r → allNodesList q (r.map Prod.snd) = true
  | [], r, h => by cases h; rfl
  | (_, e) :: rest, r, h => by
    rw [buildComparators_cons] at h
    obtain ⟨ir, hir, h⟩ := except_bind_eq_ok.1 h
    obtain ⟨r', hr', h⟩ := except_bind_eq_ok.1 h
    cases h
    simp [allNodesList, buildExpr_allNodes hq e hir, buildComparators_allNodes hq rest hr']

theorem buildSubscript_allNodes (hq : NodeCheck ctx q) (base : TreeView.Expr)
    (hbase : base.allNodes q = true) : ∀ (slice : Ast.Slice) {ir : TreeView.Expr},
      buildSubscript ctx base slice = .ok ir → ir.allNodes q = true
  | .index v, ir, h => by
    by_cases ht : v.isTuple
    · cases v with
      | tuple _ elts =>
        rw [buildSubscript_index_tuple] at h
        obtain ⟨es, hes, h⟩ := except_bind_eq_ok.1 h
        cases h
        simp [Expr.allNodes, hq.unchecked, Expr.unchecked, hbase, buildExprs_allNodes hq elts hes]
      | _ => cases ht
    · rw [buildSubscript_index ctx base (by simpa using ht)] at h
      obtain ⟨e, he, h⟩ := except_bind_eq_ok.1 h
      cases h
      simp [Expr.allNodes, allNodesList, hq.unchecked, Expr.unchecked, hbase, buildExpr_allNodes hq v he]
  | .slice lower upper step, ir, h => by
    rw [buildSubscript_slice] at h
    obtain ⟨l, hl, h⟩ := except_bind_eq_ok.1 h
    obtain ⟨u, hu, h⟩ := except_bind_eq_ok.1 h
    obtain ⟨s, hs, h⟩ := except_bind_eq_ok.1 h
    cases h
    simp [Expr.allNodes, allNodesList, hq.unchecked, Expr.unchecked, hbase,
      buildOptional_allNodes hq lower hl, buildOptional_allNodes hq upper hu,
      buildOptional_allNodes hq step hs]
  | .extSlice dims, ir, h => by
    rw [buildSubscript_extSlice] at h
    obtain ⟨es, hes, h⟩ := except_bind_eq_ok.1 h
    cases h
    simp [Expr.allNodes, hq.unchecked, Expr.unchecked, hbase, buildDims_allNodes hq base dims hes]
  | .ellipsis, ir, h => by cases h

theorem buildDim_allNodes (hq : NodeCheck ctx q) (base : TreeView.Expr) :
    ∀ (d : Ast.Slice) {ir : TreeView.Expr}, buildDim ctx base d = .ok ir → ir.allNodes q = true
  | .index v, ir, h => by
    rw [buildDim_index] at h
    split at h
    · cases h
    · exact buildExpr_allNodes hq v h
  | .slice lower upper step, ir, h => by
    rw [buildDim_slice] at h
    obtain ⟨l, hl, h⟩ := except_bind_eq_ok.1 h
    obtain ⟨u, hu, h⟩ := except_bind_eq_ok.1 h
    obtain ⟨s, hs, h⟩ := except_bind_eq_ok.1 h
    cases h
    simp [Expr.allNodes, hq.unchecked, Expr.unchecked, buildOptional_allNodes hq lower hl,
      buildOptional_allNodes hq upper hu, buildOptional_allNodes hq step hs]
  | .ellipsis, ir, h => by cases h; exact hq.unchecked _ rfl
  | .extSlice _, ir, h => by cases h

theorem buildDims_allNodes (hq : NodeCheck ctx q) (base : TreeView.Expr) :
    ∀ (ds : List Ast.Slice) {irs : List TreeView.Expr},
      buildDims ctx base ds = .ok irs → allNodesList q irs = true
  | [], irs, h => by cases h; rfl
  | d :: ds, irs, h => by
    rw [buildDims_cons] at h
    obtain ⟨ir, hir, h⟩ := except_bind_eq_ok.1 h
    obtain ⟨irs', hirs, h⟩ := except_bind_eq_ok.1 h
    cases h
    simp [allNodesList, buildDim_allNodes hq base d hir, buildDims_allNodes hq base ds hirs]

theorem buildGenerator_allNodes (hq : NodeCheck ctx q) : ∀ (gs : List Ast.Comprehension)
    {r : TreeView.Expr × TreeView.Expr}, buildGenerator ctx gs = .ok r →
      r.1.allNodes q = true ∧ r.2.allNodes q = true
  | [], r, h => by cases h
  | .mk target iter _ :: _, r, h => by
    rw [buildGenerator_cons] at h
    obtain ⟨t, ht, h⟩ := except_bind_eq_ok.1 h
    obtain ⟨i, hi, h⟩ := except_bind_eq_ok.1 h
    cases h
    exact ⟨buildExpr_allNodes hq target ht, buildExpr_allNodes hq iter hi⟩

theorem buildJoinedStrValues_allNodes (hq : NodeCheck ctx q) : ∀ (s : String)
    (args : List TreeView.Expr) (values : List Ast.Expr) {r : String × List TreeView.Expr},
    allNodesList q args = true → buildJoinedStrValues ctx s args values = .ok r →
      allNodesList q r.2 = true
  | _, _, [], r, hargs, h => by cases h; exact hargs
  | s, args, value :: values, r, hargs, h => by
    by_cases hfv : value.isFormattedValue
    · cases value with
      | formattedValue _ v _ _ =>
        rw [buildJoinedStrValues_formattedValue] at h
        obtain ⟨_, -, h⟩ := except_bind_eq_ok.1 h
        split_ifs at h
        obtain ⟨e, he, h⟩ := except_bind_eq_ok.1 h
        refine buildJoinedStrValues_allNodes hq _ _ values ?_ h
        simp [hargs, allNodesList, buildExpr_allNodes hq v he]
      | _ => cases hfv
    · rw [buildJoinedStrValues_segment _ _ _ _ (by simpa using hfv)] at h
      obtain ⟨_, -, h⟩ := except_bind_eq_ok.1 h
      cases hseg : value.strSegment with
      | none => rw [hseg] at h; cases h
      | some seg =>
        rw [hseg] at h
        exact buildJoinedStrValues_allNodes hq _ _ values hargs h
end

/-! ## Statements and functions -/

theorem buildWithitem_allNodes {ctx : SourceContext} {q : TreeView.Expr → Bool}
    (hq : NodeCheck ctx q) {item : Ast.WithItem} {w : TreeView.WithItem}
    (h : buildWithitem ctx item = .ok w) : w.allNodes q = true := by
  simp only [buildWithitem] at h
  obtain ⟨_, -, h⟩ := except_bind_eq_ok.1 h
  obtain ⟨t, ht, h⟩ := except_bind_eq_ok.1 h
  obtain ⟨v, hv, h⟩ := except_bind_eq_ok.1 h
  cases h
  simp [WithItem.allNodes, buildExpr_allNodes hq _ ht, buildOptional_allNodes hq _ hv]

mutual
variable {ctx : SourceContext} {q : TreeView.Expr → Bool}

/-- **Every node of a tree view `build_stmt` returns passes every test that accepts what the
builders emit.** -/
theorem buildStmt_allNodes (hq : NodeCheck ctx q) : ∀ (s : Ast.Stmt) {r : Option TreeView.Stmt},
    buildStmt ctx s = .ok r → r.all (Stmt.allNodes q) = true
  | .expr _ value, r, h => by
    by_cases hv : ∃ p s, value = .str p s
    · obtain ⟨p, s, rfl⟩ := hv
      cases h; rfl
    · rw [buildStmt_expr ctx (fun p s he => hv ⟨p, s, he⟩)] at h
      obtain ⟨e, he, h⟩ := except_bind_eq_ok.1 h
      cases h
      simpa [Stmt.allNodes] using buildExpr_allNodes hq value he
  | .assign _ targets value, r, h => by
    simp only [buildStmt] at h
    obtain ⟨rhs, hrhs, h⟩ := except_bind_eq_ok.1 h
    obtain ⟨lhs, hlhs, h⟩ := except_bind_eq_ok.1 h
    cases h
    simp [Stmt.allNodes, allNodesOption, buildExpr_allNodes hq value hrhs,
      buildExprs_allNodes hq targets hlhs]
  | .annAssign _ target annot value, r, h => by
    cases value with
    | none => exact absurd h unsupportedNodeError_ne_ok
    | some value =>
      simp only [buildStmt] at h
      obtain ⟨rhs, hrhs, h⟩ := except_bind_eq_ok.1 h
      obtain ⟨lhs, hlhs, h⟩ := except_bind_eq_ok.1 h
      obtain ⟨ty, hty, h⟩ := except_bind_eq_ok.1 h
      cases h
      simp [Stmt.allNodes, allNodesList, allNodesOption, buildExpr_allNodes hq value hrhs,
        buildExpr_allNodes hq target hlhs, buildExpr_allNodes hq annot hty]
  | .delete _ targets, r, h => by
    rcases targets with _ | ⟨t, ts⟩
    · simp [buildStmt] at h
    · simp only [buildStmt, List.length_cons] at h
      split at h
      · obtain ⟨_, -, h⟩ := except_bind_eq_ok.1 h
        cases h
      · obtain ⟨e, he, h⟩ := except_bind_eq_ok.1 h
        cases h
        simpa [Stmt.allNodes] using buildExpr_allNodes hq t he
  | .return _ value, r, h => by
    simp only [buildStmt] at h
    obtain ⟨_, -, h⟩ := except_bind_eq_ok.1 h
    obtain ⟨v, hv, h⟩ := except_bind_eq_ok.1 h
    cases h
    simpa [Stmt.allNodes] using buildOptional_allNodes hq value hv
  | .raise _ exc _, r, h => by
    simp only [buildStmt] at h
    obtain ⟨_, -, h⟩ := except_bind_eq_ok.1 h
    cases exc with
    | none => cases h
    | some exc =>
      obtain ⟨e, he, h⟩ := except_bind_eq_ok.1 h
      cases h
      simpa [Stmt.allNodes] using buildExpr_allNodes hq exc he
  | .assert _ test msg, r, h => by
    simp only [buildStmt] at h
    obtain ⟨_, -, h⟩ := except_bind_eq_ok.1 h
    obtain ⟨t, ht, h⟩ := except_bind_eq_ok.1 h
    obtain ⟨m, hm, h⟩ := except_bind_eq_ok.1 h
    cases h
    simp [Stmt.allNodes, buildExpr_allNodes hq test ht, buildOptional_allNodes hq msg hm]
  | .augAssign _ target _ value, r, h => by
    simp only [buildStmt] at h
    obtain ⟨lhs, hlhs, h⟩ := except_bind_eq_ok.1 h
    obtain ⟨rhs, hrhs, h⟩ := except_bind_eq_ok.1 h
    split at h
    · cases h
      simp [Stmt.allNodes, buildExpr_allNodes hq target hlhs, buildExpr_allNodes hq value hrhs]
    · obtain ⟨_, -, h⟩ := except_bind_eq_ok.1 h
      cases h
  | .while _ test body _, r, h => by
    simp only [buildStmt] at h
    split at h
    · cases h
    · obtain ⟨_, -, h⟩ := except_bind_eq_ok.1 h
      obtain ⟨t, ht, h⟩ := except_bind_eq_ok.1 h
      obtain ⟨b, hb, h⟩ := except_bind_eq_ok.1 h
      cases h
      simp [Stmt.allNodes, buildExpr_allNodes hq test ht, buildStmts_allNodes hq body hb]
  | .for _ target iter body _, r, h => by
    simp only [buildStmt] at h
    obtain ⟨_, -, h⟩ := except_bind_eq_ok.1 h
    obtain ⟨t, ht, h⟩ := except_bind_eq_ok.1 h
    obtain ⟨i, hi, h⟩ := except_bind_eq_ok.1 h
    obtain ⟨b, hb, h⟩ := except_bind_eq_ok.1 h
    cases h
    simp [Stmt.allNodes, allNodesList, buildExpr_allNodes hq target ht,
      buildExpr_allNodes hq iter hi, buildStmts_allNodes hq body hb]
  | .if _ test body orelse, r, h => by
    simp only [buildStmt] at h
    obtain ⟨_, -, h⟩ := except_bind_eq_ok.1 h
    obtain ⟨t, ht, h⟩ := except_bind_eq_ok.1 h
    obtain ⟨b, hb, h⟩ := except_bind_eq_ok.1 h
    obtain ⟨o, ho, h⟩ := except_bind_eq_ok.1 h
    cases h
    simp [Stmt.allNodes, buildExpr_allNodes hq test ht, buildStmts_allNodes hq body hb,
      buildStmts_allNodes hq orelse ho]
  | .print _ _ values, r, h => by
    simp only [buildStmt] at h
    obtain ⟨_, -, h⟩ := except_bind_eq_ok.1 h
    split at h
    · cases h
    · obtain ⟨args, hargs, h⟩ := except_bind_eq_ok.1 h
      cases h
      simp [Stmt.allNodes, Expr.allNodes, allNodesAttributes, hq.unchecked, Expr.unchecked,
        hq.var _ _ notReserved_print, buildExprs_allNodes hq values hargs]
  | .pass _, r, h | .break _, r, h | .continue _, r, h => by
    simp only [buildStmt] at h
    obtain ⟨_, -, h⟩ := except_bind_eq_ok.1 h
    cases h; rfl
  | .with _ items body, r, h => by
    simp only [buildStmt] at h
    obtain ⟨_, -, h⟩ := except_bind_eq_ok.1 h
    obtain ⟨ws, hws, h⟩ := except_bind_eq_ok.1 h
    obtain ⟨b, hb, h⟩ := except_bind_eq_ok.1 h
    cases h
    have hws := except_mapM_forall (fun _ _ => buildWithitem_allNodes hq) hws
    simp [Stmt.allNodes, List.all_eq_true.2 hws, buildStmts_allNodes hq body hb]
  | .functionDef .., r, h | .other .., r, h => absurd h unsupportedNodeError_ne_ok

theorem buildStmts_allNodes (hq : NodeCheck ctx q) : ∀ (ss : List Ast.Stmt)
    {out : List TreeView.Stmt}, buildStmts ctx ss = .ok out → allNodesStmts q out = true
  | [], out, h => by cases h; rfl
  | s :: ss, out, h => by
    simp only [buildStmts] at h
    obtain ⟨r, hr, h⟩ := except_bind_eq_ok.1 h
    obtain ⟨out', hout, h⟩ := except_bind_eq_ok.1 h
    cases h
    rw [allNodesStmts_append, buildStmts_allNodes hq ss hout, Bool.and_true]
    cases r with
    | none => rfl
    | some st => simpa [allNodesStmts] using buildStmt_allNodes hq s hr
end

/-- `build_def`'s body is the translation of the function's body. -/
theorem buildDef_body {tc : TypeComments} {ctx : SourceContext} {pyDef : Ast.FunctionDef}
    {typeLine : Option String} {defName : String} {selfName : Option String} {d : TreeView.Def}
    (h : buildDef tc ctx pyDef typeLine defName selfName = .ok d) :
    buildStmts ctx pyDef.body = .ok d.body := by
  simp only [buildDef] at h
  obtain ⟨_, -, h⟩ := except_bind_eq_ok.1 h
  obtain ⟨_, -, h⟩ := except_bind_eq_ok.1 h
  obtain ⟨_, -, h⟩ := except_bind_eq_ok.1 h
  obtain ⟨_, -, h⟩ := except_bind_eq_ok.1 h
  obtain ⟨body, hbody, h⟩ := except_bind_eq_ok.1 h
  cases h
  exact hbody

/-- **Every node of a body `get_jit_def` returns passes every test that accepts what the builders
emit** in the unit's context, which has true division (line 202). -/
theorem getJitDef_body_allNodes {q : TreeView.Expr → Bool} {tc : TypeComments}
    {fn : FunctionSource} {defName : String} {selfName : Option String} {d : TreeView.Def}
    (hq : NodeCheck ⟨fn.source, fn.leadingWhitespaceLen, true⟩ q)
    (h : getJitDef tc fn defName selfName = .ok d) : allNodesStmts q d.body = true := by
  unfold getJitDef at h
  split at h
  · exact buildStmts_allNodes hq _ (buildDef_body h)
  · cases h

/-- **Every node of a class `get_jit_class_def` returns passes every test that accepts what the
builders emit** with true division: the bodies of its methods, and of its properties' getters and
setters. -/
theorem getJitClassDef_allNodes {q : TreeView.Expr → Bool} {tc : TypeComments} {cls : ClassSource}
    {selfName : String} {c : TreeView.ClassDef}
    (hq : ∀ source n, NodeCheck ⟨source, n, true⟩ q) (h : getJitClassDef tc cls selfName = .ok c) :
    (∀ d ∈ c.body, allNodesStmts q d.body = true) ∧
    ∀ prop ∈ c.properties, allNodesStmts q prop.getter.body = true ∧
      ∀ setter ∈ prop.setter, allNodesStmts q setter.body = true := by
  simp only [getJitClassDef, getClassProperties] at h
  obtain ⟨methods, hm, h⟩ := except_bind_eq_ok.1 h
  obtain ⟨props, hp, h⟩ := except_bind_eq_ok.1 h
  split at h
  · cases h
  · obtain ⟨_, -, h⟩ := except_bind_eq_ok.1 h
    cases h
    refine ⟨except_mapM_forall (fun _ _ => getJitDef_body_allNodes (hq _ _)) hm,
      except_mapM_forall ?_ hp⟩
    rintro ⟨name, fget, fset⟩ prop hprop
    obtain ⟨getter, hg, hprop⟩ := except_bind_eq_ok.1 hprop
    obtain ⟨setter, hs, hprop⟩ := except_bind_eq_ok.1 hprop
    cases hprop
    refine ⟨getJitDef_body_allNodes (hq _ _) hg, ?_⟩
    cases fset with
    | none => cases hs; simp
    | some fset =>
      obtain ⟨d, hd, hs⟩ := except_bind_eq_ok.1 hs
      cases hs
      simpa using getJitDef_body_allNodes (hq _ _) hd

end JitFrontend
