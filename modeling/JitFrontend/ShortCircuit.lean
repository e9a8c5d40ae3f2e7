import JitFrontend.Evaluation

/-! # Boolean operations and comparison chains

`build_BoolOp` (lines 575–587) folds `a or b or c` into `(a or b) or c`, and `build_Compare`
(lines 596–618) turns `a < b < c` into `(a < b) and (b < c)`.  This module runs both
translations, in the evaluation of `Evaluation`, against Python's own meanings.

* The fold of `and` and `or` is exact: in every backend and state the nested tree view has
  Python's value and final state, and it runs a prefix of the operands, once each, in order.
* The comparison chain is exact only up to re-evaluation.  The tree view of each middle operand
  sits in two comparisons and runs twice; where a second run cannot be told apart from the first
  (`Semantics.Idempotent`) the chain has Python's value and state, and for a call with an effect
  it does not.
-/
namespace JitFrontend
open Ast (Pos)

section Builders
variable (ctx : SourceContext)

theorem buildExprs_cons_ok {v : Ast.Expr} {vs : List Ast.Expr} {subExprs : List TreeView.Expr}
    (h : buildExprs ctx (v :: vs) = .ok subExprs) :
    ∃ e es, subExprs = e :: es ∧ buildExpr ctx v = .ok e ∧ buildExprs ctx vs = .ok es := by
  rw [buildExprs_cons] at h
  obtain ⟨e, he, h⟩ := except_bind_eq_ok.1 h
  obtain ⟨es, hes, h⟩ := except_bind_eq_ok.1 h
  exact ⟨e, es, (Except.ok.inj h).symm, he, hes⟩

theorem buildBoolOp_cons (op : Ast.BoolOp) (first : TreeView.Expr) (rest : List TreeView.Expr) :
    ∃ tok, boolopMap op = some tok ∧
      buildBoolOp ctx op (first :: rest) = .ok (rest.foldl (.binOp tok) first) := by
  cases op <;> exact ⟨_, rfl, rfl⟩

/-- `cmpop_map` has every comparison operator, so one comparison always translates. -/
theorem compareStep_ok (lhs : TreeView.Expr) (op : Ast.CmpOp) (rhs : TreeView.Expr) :
    ∃ c, compareStep ctx lhs op rhs = .ok c := by
  cases op <;> exact ⟨_, rfl⟩

/-- The comparisons of a chain from the operand `prev` on, as consecutive pairs of operands:
`a₁ op₂ a₂ op₃ a₃` gives `(a₁, op₂, a₂)` and `(a₂, op₃, a₃)`, so that each middle operand stands in
two of them. -/
def chainPairs (prev : TreeView.Expr) :
    List (Ast.CmpOp × TreeView.Expr) → List (TreeView.Expr × Ast.CmpOp × TreeView.Expr)
  | [] => []
  | (op, e) :: rest => (prev, op, e) :: chainPairs e rest

/-- The loop conjoins, left-nested, one comparison per consecutive pair of operands. -/
theorem compareLoop_foldl {result lhs ir : TreeView.Expr} {rest : List (Ast.CmpOp × TreeView.Expr)}
    (h : compareLoop ctx result lhs rest = .ok ir) :
    ∃ comparisons, List.Forall₂ (fun p c => compareStep ctx p.1 p.2.1 p.2.2 = .ok c)
      (chainPairs lhs rest) comparisons ∧ ir = comparisons.foldl (.binOp "and") result := by
  induction rest generalizing result lhs with
  | nil => exact ⟨[], .nil, (Except.ok.inj h).symm⟩
  | cons next rest ih =>
    obtain ⟨c, hc, h⟩ := except_bind_eq_ok.1 h
    obtain ⟨cs, hcs, rfl⟩ := ih h
    exact ⟨c :: cs, .cons hc hcs, rfl⟩

theorem compareLoop_ok (result lhs : TreeView.Expr) (rest : List (Ast.CmpOp × TreeView.Expr)) :
    ∃ ir, compareLoop ctx result lhs rest = .ok ir := by
  induction rest generalizing result lhs with
  | nil => exact ⟨_, rfl⟩
  | cons next rest ih =>
    obtain ⟨c, hc⟩ := compareStep_ok ctx lhs next.1 next.2
    obtain ⟨ir, hir⟩ := ih (.binOp "and" result c) next.2
    exact ⟨ir, by simp only [compareLoop, hc, except_ok_bind, hir]⟩

end Builders

section Evaluation
variable (ctx : SourceContext) {V σ : Type} (S : Semantics V σ)

/-- One comparison runs its two operands and compares their values as Python does. -/
theorem run_compareStep {lhs rhs c : TreeView.Expr} {op : Ast.CmpOp}
    (h : compareStep ctx lhs op rhs = .ok c) (s : σ) :
    S.run c s = (S.cmp op (S.run lhs s).1 (S.run rhs (S.run lhs s).2).1,
      (S.run rhs (S.run lhs s).2).2) := by
  cases op <;> cases h <;> rfl

/-- **The conjunction loop of `build_Compare`.**  Once `result` holds the comparisons up to the
operand `lhs`, the loop's tree view runs `result`, and if that is true it runs `lhs` a second
time and goes on as Python's chain. -/
theorem run_compareLoop {result lhs rhs ir : TreeView.Expr} {op : Ast.CmpOp}
    {rest : List (Ast.CmpOp × TreeView.Expr)}
    (hidem : ∀ e ∈ (rhs :: rest.map Prod.snd).dropLast, S.Idempotent e)
    (h : compareLoop ctx result lhs ((op, rhs) :: rest) = .ok ir) (s : σ) :
    S.run ir s =
      if S.truthy (S.run result s).1 then
        S.chain (S.run lhs (S.run result s).2).1 op rhs rest (S.run lhs (S.run result s).2).2
      else S.run result s := by
  induction rest generalizing result lhs op rhs with
  | nil =>
    simp only [compareLoop] at h
    obtain ⟨c, hc, h⟩ := except_bind_eq_ok.1 h
    cases h
    simp only [Semantics.run_and, run_compareStep ctx S hc, Semantics.chain]
  | cons next rest ih =>
    rcases next with ⟨op', rhs'⟩
    simp only [List.map_cons, List.dropLast_cons₂, List.mem_cons, forall_eq_or_imp,
      Semantics.Idempotent] at hidem
    simp only [compareLoop] at h
    obtain ⟨c, hc, h⟩ := except_bind_eq_ok.1 h
    rw [ih hidem.2 h, Semantics.run_and]
    by_cases hres : S.truthy (S.run result s).1
    · simp only [hres, if_true, run_compareStep ctx S hc, hidem.1, Semantics.chain]
    · simp [hres]

end Evaluation

variable (ctx : SourceContext) (pos : Pos)

/-- **`build_BoolOp` keeps Python's short-circuit meaning.**  With at least two operands the
translation is the left fold of `and` or `or` over the operands' translations.  In every backend
and state it evaluates as Python's flat boolean operation, to the deciding operand's value, and
it runs a prefix of the operands, once each, left to right. -/
theorem buildExpr_boolOp_short_circuit (op : Ast.BoolOp) (values : List Ast.Expr)
    (subExprs : List TreeView.Expr) (hlen : 2 ≤ values.length)
    (hsub : buildExprs ctx values = .ok subExprs) :
    ∃ tok first rest, boolopMap op = some tok ∧ subExprs = first :: rest ∧
      buildExpr ctx (.boolOp pos op values) = .ok (rest.foldl (.binOp tok) first) ∧
      ∀ (V σ : Type) (S : Semantics V σ) (s : σ),
        S.run (rest.foldl (.binOp tok) first) s = S.pyBoolOp op first rest s ∧
        ∃ k ≤ rest.length,
          S.run (rest.foldl (.binOp tok) first) s = S.runAll first (rest.take k) s := by
  rcases values with _ | ⟨v, vs⟩
  · simp at hlen
  obtain ⟨first, rest, rfl, -, -⟩ := buildExprs_cons_ok ctx hsub
  obtain ⟨tok, htok, hbuild⟩ := buildBoolOp_cons ctx op first rest
  refine ⟨tok, first, rest, htok, rfl, ?_, fun V σ S s => ?_⟩
  · simp only [buildExpr_boolOp, if_neg (show ¬(v :: vs).length < 2 by omega), hsub,
      except_ok_bind, hbuild]
  · rw [S.run_foldl_boolOp htok]
    exact ⟨rfl, S.pyBoolOp_runs_prefix op rest first s⟩

theorem buildExpr_boolOp_short_circuit_example :
    let ctx : SourceContext := ⟨"def f(a, b, c):\n    return a or b or c\n", 0, true⟩
    let values : List Ast.Expr := [.name ⟨2, 11⟩ "a", .name ⟨2, 16⟩ "b", .name ⟨2, 21⟩ "c"]
    let subExprs : List TreeView.Expr :=
      [.var ⟨⟨27, 28⟩, "a"⟩, .var ⟨⟨32, 33⟩, "b"⟩, .var ⟨⟨37, 38⟩, "c"⟩]
    2 ≤ values.length ∧ buildExprs ctx values = .ok subExprs ∧
      ∃ tok first rest, boolopMap .or = some tok ∧ subExprs = first :: rest ∧
        buildExpr ctx (.boolOp ⟨2, 11⟩ .or values) = .ok (rest.foldl (.binOp tok) first) ∧
        ∀ (V σ : Type) (S : Semantics V σ) (s : σ),
          S.run (rest.foldl (.binOp tok) first) s = S.pyBoolOp .or first rest s ∧
          ∃ k ≤ rest.length,
            S.run (rest.foldl (.binOp tok) first) s = S.runAll first (rest.take k) s :=
  ⟨by decide, rfl, buildExpr_boolOp_short_circuit _ _ _ _ _ (by decide) rfl⟩

/-- **`build_Compare` keeps Python's chain when its middle operands can run twice.**  The chain
`a₀ op₁ a₁ … opₙ aₙ` always translates, to the left-nested conjunction
`((a₀ op₁ a₁) and (a₁ op₂ a₂)) and …` of one comparison per consecutive pair of operands, so
that the tree view of each middle operand stands in two comparisons.  When each of
`a₁ … aₙ₋₁` is idempotent in a backend, that conjunction has there the value and final state of
Python's chained comparison. -/
theorem buildExpr_compare_idempotent_middle (left comparator : Ast.Expr) (op : Ast.CmpOp)
    (rest : List (Ast.CmpOp × Ast.Expr)) (lhs rhs : TreeView.Expr)
    (cs : List (Ast.CmpOp × TreeView.Expr)) (hl : buildExpr ctx left = .ok lhs)
    (hr : buildExpr ctx comparator = .ok rhs) (hc : buildComparators ctx rest = .ok cs) :
    ∃ first comparisons, compareStep ctx lhs op rhs = .ok first ∧
      List.Forall₂ (fun p c => compareStep ctx p.1 p.2.1 p.2.2 = .ok c) (chainPairs rhs cs)
        comparisons ∧
      buildExpr ctx (.compare pos left (op, comparator) rest) =
        .ok (comparisons.foldl (.binOp "and") first) ∧
      ∀ (V σ : Type) (S : Semantics V σ),
        (∀ e ∈ (rhs :: cs.map Prod.snd).dropLast, S.Idempotent e) →
        ∀ s, S.run (comparisons.foldl (.binOp "and") first) s = S.pyCompare lhs op rhs cs s := by
  obtain ⟨c, hstep⟩ := compareStep_ok ctx lhs op rhs
  obtain ⟨ir, hloop⟩ := compareLoop_ok ctx c rhs cs
  obtain ⟨comparisons, hcomp, rfl⟩ := compareLoop_foldl ctx hloop
  refine ⟨c, comparisons, hstep, hcomp,
    by simp only [buildExpr_compare, hl, hr, hc, hstep, except_ok_bind, hloop],
    fun V σ S hidem s => ?_⟩
  rcases cs with _ | ⟨⟨op', rhs'⟩, cs⟩
  · cases hcomp
    exact run_compareStep ctx S hstep s
  · simp only [List.map_cons, List.dropLast_cons₂, List.mem_cons, forall_eq_or_imp] at hidem
    have hrhs : ∀ s, S.run rhs (S.run rhs s).2 = S.run rhs s := hidem.1
    simp only [run_compareLoop ctx S hidem.2 hloop, run_compareStep ctx S hstep, hrhs]
    rfl

/-- `0 < x < 2`: the tree view is `(0 < x) and (x < 2)`. -/
theorem buildExpr_compare_idempotent_middle_example :
    let ctx : SourceContext := ⟨"def g(x):\n    return 0 < x < 2\n", 0, true⟩
    let left : Ast.Expr := .constant ⟨2, 11⟩ (.num (.int 0))
    let rest : List (Ast.CmpOp × Ast.Expr) := [(.lt, .constant ⟨2, 19⟩ (.num (.int 2)))]
    let lhs : TreeView.Expr := .const ⟨21, 22⟩ "0"
    let rhs : TreeView.Expr := .var ⟨⟨25, 26⟩, "x"⟩
    let cs : List (Ast.CmpOp × TreeView.Expr) := [(.lt, .const ⟨29, 30⟩ "2")]
    buildExpr ctx left = .ok lhs ∧ buildExpr ctx (.name ⟨2, 15⟩ "x") = .ok rhs ∧
      buildComparators ctx rest = .ok cs ∧
      ∃ first comparisons, compareStep ctx lhs .lt rhs = .ok first ∧
        List.Forall₂ (fun p c => compareStep ctx p.1 p.2.1 p.2.2 = .ok c) (chainPairs rhs cs)
          comparisons ∧
        buildExpr ctx (.compare ⟨2, 11⟩ left (.lt, .name ⟨2, 15⟩ "x") rest) =
          .ok (comparisons.foldl (.binOp "and") first) ∧
        ∀ (V σ : Type) (S : Semantics V σ),
          (∀ e ∈ (rhs :: cs.map Prod.snd).dropLast, S.Idempotent e) →
          ∀ s, S.run (comparisons.foldl (.binOp "and") first) s = S.pyCompare lhs .lt rhs cs s :=
  ⟨rfl, rfl, rfl, buildExpr_compare_idempotent_middle _ _ _ _ _ _ _ _ _ rfl rfl rfl⟩

/-- A backend with one effect: a call adds one to a counter and returns the new count.  The
numeral `2` is two, every other leaf zero, `<` compares, and the other operations do nothing. -/
def countingSemantics : Semantics Nat Nat where
  truthy v := v != 0
  ofBool b := if b then 1 else 0
  binary kind a b := if kind = "<" ∧ a < b then 1 else 0
  unary _ a := a
  leaf e s := match e with
    | .const _ v => (if v = "2" then 2 else 0, s)
    | _ => (0, s)
  call _ _ _ s := (s + 1, s + 1)
  getattr _ _ s := (0, s)
  index _ _ s := (0, s)
  slice _ _ _ := 0
  starred v := v
  list _ := 0
  tuple _ := 0
  dict _ := 0
  comprehension _ _ s := (0, s)
  store _ _ s := s
  setattr _ _ _ s := s
  setitem _ _ _ s := s
  unpack _ flags := flags.map fun _ => 0
  delete _ s := s
  delattr _ _ s := s
  delitem _ _ s := s
  inplace _ a _ := a

/-- `0 < f() < 2` with a counting `f`.  Python calls `f` once, gets `1`, and the chain is true;
the tree view calls `f` a second time, compares `2 < 2`, and is false. -/
theorem buildExpr_compare_reruns_middle_operand :
    let ctx : SourceContext := ⟨"def g():\n    return 0 < f() < 2\n", 0, true⟩
    let zero : Ast.Expr := .constant ⟨2, 11⟩ (.num (.int 0))
    let call : Ast.Expr := .call ⟨2, 15⟩ (.name ⟨2, 15⟩ "f") [] none []
    let rest : List (Ast.CmpOp × Ast.Expr) := [(.lt, .constant ⟨2, 21⟩ (.num (.int 2)))]
    ∃ lhs rhs cs ir, buildExpr ctx zero = .ok lhs ∧ buildExpr ctx call = .ok rhs ∧
      buildComparators ctx rest = .ok cs ∧
      buildExpr ctx (.compare ⟨2, 11⟩ zero (.lt, call) rest) = .ok ir ∧
      countingSemantics.run ir 0 = (0, 2) ∧ countingSemantics.pyCompare lhs .lt rhs cs 0 = (1, 1) :=
  ⟨_, _, _, _, rfl, rfl, rfl, rfl, rfl, rfl⟩

end JitFrontend
