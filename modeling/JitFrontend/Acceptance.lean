import JitFrontend.ShortCircuit

/-! # Which operator expressions translate

Over names and literals, `build_expr` rejects an operator expression for six reasons of its
own and no other: a name or a literal on a line the text does not have, where `make_range` fails,
a name with the reserved prefix (`build_Name`, lines 523–525), a `complex` or `bytes` constant
(`build_Constant`, lines 705–707), `/` in a unit without true division (`build_BinOp`, lines
553–556), unary `+`, which `unop_map` lacks (`build_UnaryOp`, lines 567–571), and a boolean
operation with fewer than two operands (`build_BoolOp`, lines 576–578).
Comparisons and conditional expressions always translate once their operands do.
`acceptsOperators` computes the verdict from those checks alone, and
`buildExpr_isOk_eq_acceptsOperators` proves that it is `build_expr`'s, at every depth.
-/
namespace JitFrontend
open Ast (Pos)

/-- The `Constant` values `build_Constant` accepts: all but a `complex` and a `bytes`. -/
def Ast.Constant.translates : Ast.Constant → Bool
  | .num (.complex _) | .bytes _ => false
  | _ => true

mutual
/-- An expression built from names and literals by the five operators `build_expr` rewrites. -/
def Ast.Expr.overLiterals : Ast.Expr → Bool
  | .name .. | .constant .. | .num .. | .str .. | .nameConstant .. | .ellipsis _ => true
  | .binOp _ left _ right => left.overLiterals && right.overLiterals
  | .unaryOp _ _ operand => operand.overLiterals
  | .boolOp _ _ values => Ast.overLiteralsList values
  | .ifExp _ test body orelse => test.overLiterals && body.overLiterals && orelse.overLiterals
  | .compare _ left (_, comparator) rest =>
    left.overLiterals && comparator.overLiterals && Ast.overLiteralsRest rest
  | _ => false

/-- `overLiterals` of every expression of a list. -/
def Ast.overLiteralsList : List Ast.Expr → Bool
  | [] => true
  | e :: es => e.overLiterals && Ast.overLiteralsList es

/-- `overLiterals` of every comparator of a chain. -/
def Ast.overLiteralsRest : List (Ast.CmpOp × Ast.Expr) → Bool
  | [] => true
  | (_, e) :: rest => e.overLiterals && Ast.overLiteralsRest rest
end

section
variable (ctx : SourceContext)

mutual
/-- The verdict of the checks above on an expression over names and literals. -/
def acceptsOperators : Ast.Expr → Bool
  | .name pos id => ctx.hasLine pos.lineno && !startsWith id reservedPrefix
  | .constant pos value => ctx.hasLine pos.lineno && value.translates
  | .num pos _ | .str pos _ | .nameConstant pos _ | .ellipsis pos => ctx.hasLine pos.lineno
  | .binOp _ left op right =>
    acceptsOperators left && acceptsOperators right && (op != .div || ctx.usesTrueDivision)
  | .unaryOp pos op operand => acceptsOperators operand && (op != .uAdd && ctx.hasLine pos.lineno)
  | .boolOp _ _ values => decide (2 ≤ values.length) && acceptsOperatorsList values
  | .ifExp _ test body orelse =>
    acceptsOperators test && acceptsOperators body && acceptsOperators orelse
  | .compare _ left (_, comparator) rest =>
    acceptsOperators left && acceptsOperators comparator && acceptsOperatorsRest rest
  | _ => true

/-- `acceptsOperators` of every expression of a list. -/
def acceptsOperatorsList : List Ast.Expr → Bool
  | [] => true
  | e :: es => acceptsOperators e && acceptsOperatorsList es

/-- `acceptsOperators` of every comparator of a chain. -/
def acceptsOperatorsRest : List (Ast.CmpOp × Ast.Expr) → Bool
  | [] => true
  | (_, e) :: rest => acceptsOperators e && acceptsOperatorsRest rest
end

/-! ## The checks, one builder at a time -/

@[simp] theorem except_isOk_ok {ε α : Type} (a : α) : (Except.ok a : Except ε α).isOk = true := rfl

@[simp] theorem except_isOk_error {ε α : Type} (e : ε) :
    (Except.error e : Except ε α).isOk = false := rfl

/-- A computation followed by one whose success is `c` on every value the first can return. -/
theorem except_isOk_bind {ε α β : Type} {x : Except ε α} {f : α → Except ε β} (c : Bool)
    (hf : ∀ a, x = .ok a → (f a).isOk = c) : (x >>= f).isOk = (x.isOk && c) := by
  cases x with
  | error => rfl
  | ok a => exact hf a rfl

variable (pos : Pos)

theorem buildName_isOk (id : String) :
    (buildName ctx pos id).isOk = (ctx.hasLine pos.lineno && !startsWith id reservedPrefix) := by
  rw [buildName, except_isOk_bind (!startsWith id reservedPrefix) fun _ _ => ?_,
    SourceContext.makeRange_isOk]
  split_ifs <;> simp_all

theorem buildNameConstant_isOk (value : Ast.Singleton) :
    (buildNameConstant ctx pos value).isOk = ctx.hasLine pos.lineno := by
  rw [buildNameConstant, except_isOk_bind true fun _ _ => ?_, SourceContext.makeRange_isOk,
    Bool.and_true]
  cases value <;> rfl

theorem buildNum_isOk (n : Ast.Number) : (buildNum ctx pos n).isOk = ctx.hasLine pos.lineno := by
  rw [buildNum, except_isOk_bind true fun _ _ => ?_, SourceContext.makeRange_isOk, Bool.and_true]
  rfl

theorem buildStr_isOk (str : String) : (buildStr ctx pos str).isOk = ctx.hasLine pos.lineno := by
  rw [buildStr, except_isOk_bind true fun _ _ => ?_, SourceContext.makeRange_isOk, Bool.and_true]
  rfl

theorem buildEllipsis_isOk : (buildEllipsis ctx pos).isOk = ctx.hasLine pos.lineno := by
  rw [buildEllipsis, except_isOk_bind true fun _ _ => ?_, SourceContext.makeRange_isOk,
    Bool.and_true]
  rfl

theorem buildConstant_isOk (value : Ast.Constant) :
    (buildConstant ctx pos value).isOk = (ctx.hasLine pos.lineno && value.translates) := by
  rcases value with v | (_ | _ | _) | _ | _ | _
  · exact (buildNameConstant_isOk ctx pos v).trans (Bool.and_true _).symm
  · exact (buildNum_isOk ctx pos _).trans (Bool.and_true _).symm
  · exact (buildNum_isOk ctx pos _).trans (Bool.and_true _).symm
  · rw [buildConstant, except_isOk_bind false fun _ _ => ?_, SourceContext.makeRange_isOk]
    · rfl
    · rfl
  · exact (buildStr_isOk ctx pos _).trans (Bool.and_true _).symm
  · rw [buildConstant, except_isOk_bind false fun _ _ => ?_, SourceContext.makeRange_isOk]
    · rfl
    · rfl
  · exact (buildEllipsis_isOk ctx pos).trans (Bool.and_true _).symm

theorem buildBinOp_isOk (op : Ast.Operator) (lhs rhs : TreeView.Expr) :
    (buildBinOp ctx op lhs rhs).isOk = (op != .div || ctx.usesTrueDivision) := by
  rcases ctx with ⟨_, _, _ | _⟩ <;> cases op <;> rfl

theorem buildUnaryOp_isOk (op : Ast.UnaryOp) (e : TreeView.Expr) :
    (buildUnaryOp ctx pos op e).isOk = (op != .uAdd && ctx.hasLine pos.lineno) := by
  cases op
  case uAdd => rfl
  all_goals
    simp only [buildUnaryOp, unopMap]
    rw [except_isOk_bind true fun _ _ => ?_, SourceContext.makeRange_isOk, Bool.and_true]
    · rfl
    · rfl

/-! ## Every depth -/

mutual
/-- The verdict at every depth: one case per operator form, and the builders' own checks at the
leaves. -/
theorem buildExpr_isOk :
    ∀ e : Ast.Expr, e.overLiterals = true → (buildExpr ctx e).isOk = acceptsOperators ctx e
  | .name pos id, _ => buildName_isOk ctx pos id
  | .constant pos value, _ => buildConstant_isOk ctx pos value
  | .num pos n, _ => buildNum_isOk ctx pos n
  | .str pos str, _ => buildStr_isOk ctx pos str
  | .nameConstant pos value, _ => buildNameConstant_isOk ctx pos value
  | .ellipsis pos, _ => buildEllipsis_isOk ctx pos
  | .binOp _ left op right, h => by
    have h := Bool.and_eq_true_iff.1 h
    rw [buildExpr_binOp, except_isOk_bind _ fun l _ =>
        except_isOk_bind _ fun r _ => buildBinOp_isOk ctx op l r,
      buildExpr_isOk left h.1, buildExpr_isOk right h.2]
    exact (Bool.and_assoc _ _ _).symm
  | .unaryOp pos op operand, h => by
    rw [buildExpr_unaryOp, except_isOk_bind _ fun e _ => buildUnaryOp_isOk ctx pos op e,
      buildExpr_isOk operand h]
    rfl
  | .boolOp _ op values, h => by
    have ih := buildExprs_isOk values h
    rw [buildExpr_boolOp]
    split_ifs with hlen
    · show false = (decide (2 ≤ values.length) && _)
      rw [decide_eq_false (by omega), Bool.false_and]
    · obtain ⟨v, vs, rfl⟩ : ∃ v vs, values = v :: vs := by
        cases values with
        | nil => simp at hlen
        | cons v vs => exact ⟨v, vs, rfl⟩
      rw [except_isOk_bind true fun subExprs hsub => ?_, ih]
      · show _ = (decide (2 ≤ (v :: vs).length) && _)
        rw [decide_eq_true (by omega), Bool.and_true, Bool.true_and]
      · obtain ⟨e, es, rfl, -⟩ := buildExprs_cons_ok ctx hsub
        obtain ⟨tok, -, hbuild⟩ := buildBoolOp_cons ctx op e es
        rw [hbuild]
        rfl
  | .ifExp _ test body orelse, h => by
    have h := (Bool.and_eq_true_iff.1 h).imp_left Bool.and_eq_true_iff.1
    rw [buildExpr_ifExp, except_isOk_bind _ fun t _ => except_isOk_bind _ fun b _ =>
        except_isOk_bind true fun o _ => ?_,
      buildExpr_isOk test h.1.1, buildExpr_isOk body h.1.2,
      buildExpr_isOk orelse h.2, Bool.and_true, ← Bool.and_assoc]
    · rfl
    · rfl
  | .compare _ left (op, comparator) rest, h => by
    have h := (Bool.and_eq_true_iff.1 h).imp_left Bool.and_eq_true_iff.1
    rw [buildExpr_compare, except_isOk_bind _ fun l _ => except_isOk_bind _ fun r _ =>
        except_isOk_bind true fun cs _ => ?_,
      buildExpr_isOk left h.1.1, buildExpr_isOk comparator h.1.2, buildComparators_isOk rest h.2,
      Bool.and_true, ← Bool.and_assoc]
    · rfl
    · obtain ⟨c, hc⟩ := compareStep_ok ctx l op r
      obtain ⟨ir, hir⟩ := compareLoop_ok ctx c r cs
      rw [hc, except_ok_bind, hir]
      rfl
  | .dict .., h | .listComp .., h | .call .., h | .formattedValue .., h | .joinedStr .., h
  | .attribute .., h | .subscript .., h | .starred .., h | .list .., h | .tuple .., h
  | .other .., h => by cases h

theorem buildExprs_isOk : ∀ es : List Ast.Expr, Ast.overLiteralsList es = true →
    (buildExprs ctx es).isOk = acceptsOperatorsList ctx es
  | [], _ => rfl
  | e :: es, h => by
    have h := Bool.and_eq_true_iff.1 h
    rw [buildExprs_cons, except_isOk_bind _ fun _ _ => except_isOk_bind true fun _ _ => ?_,
      buildExpr_isOk e h.1, buildExprs_isOk es h.2, Bool.and_true]
    · rfl
    · rfl

theorem buildComparators_isOk : ∀ rest : List (Ast.CmpOp × Ast.Expr),
    Ast.overLiteralsRest rest = true →
    (buildComparators ctx rest).isOk = acceptsOperatorsRest ctx rest
  | [], _ => rfl
  | (op, e) :: rest, h => by
    have h := Bool.and_eq_true_iff.1 h
    rw [buildComparators_cons, except_isOk_bind _ fun _ _ => except_isOk_bind true fun _ _ => ?_,
      buildExpr_isOk e h.1, buildComparators_isOk rest h.2, Bool.and_true]
    · rfl
    · rfl
end

end

end JitFrontend
