import JitFrontend.Acceptance
import JitFrontend.StmtBuilder

/-! # Which statements translate

`build_stmt` rejects a statement for a reason of its own in nine cases, at any depth of the
block it sits in:
* a statement led by a keyword, or a `with` item, on a line the text does not have, where
  `make_range` fails;
* an annotation without a value (`build_AnnAssign`, lines 340–342);
* a `del` of other than one target (lines 349–355);
* a bare `raise`, whose missing exception `build_expr` cannot translate (lines 363–366);
* an augmented assignment whose operator `augassign_map` lacks (lines 376–386);
* a `while` loop with an `else` branch (lines 389–393), where raising the diagnostic fails;
* `print >>f` (lines 413–417);
* a nested function definition, and every statement class `StmtBuilder` has no method for
  (`Builder.__call__`, lines 218–223).

Every other failure comes from an expression.  `buildStmt_isOk_iff` proves that a statement
translates exactly when `Ast.Stmt.translatable` accepts its forms and every expression of
`Ast.Stmt.builtExprs`, the ones the builders translate in it, translates.
-/
namespace JitFrontend
open Ast (Pos)

mutual
variable (ctx : SourceContext)

/-- The statement forms `build_stmt` accepts in `ctx`, at every depth, with the lines of their
keywords and `with` items. -/
def Ast.Stmt.translatable : Ast.Stmt → Bool
  | .annAssign _ _ _ value => value.isSome
  | .delete _ targets => targets.length == 1
  | .raise pos exc _ => ctx.hasLine pos.lineno && exc.isSome
  | .augAssign _ _ op _ => (augassignMap op).isSome
  | .while pos _ body orelse =>
    orelse.isEmpty && ctx.hasLine pos.lineno && Ast.translatableBlock body
  | .for pos _ _ body _ => ctx.hasLine pos.lineno && Ast.translatableBlock body
  | .with pos items body => ctx.hasLine pos.lineno &&
    items.all (fun i => ctx.hasLine i.contextExpr.pos.lineno) && Ast.translatableBlock body
  | .if pos _ body orelse =>
    ctx.hasLine pos.lineno && Ast.translatableBlock body && Ast.translatableBlock orelse
  | .print pos dest _ => ctx.hasLine pos.lineno && dest.isNone
  | .functionDef .. | .other .. => false
  | .return pos _ | .assert pos .. | .pass pos | .break pos | .continue pos => ctx.hasLine pos.lineno
  | .expr .. | .assign .. => true

/-- `Ast.Stmt.translatable` of every statement of a block. -/
def Ast.translatableBlock : List Ast.Stmt → Bool
  | [] => true
  | st :: sts => st.translatable && Ast.translatableBlock sts
end

mutual
/-- The expressions `build_stmt` translates in a statement, at every depth: every expression it
holds but a docstring's string, the targets of `del` after the first, and a `raise`'s cause. -/
def Ast.Stmt.builtExprs : Ast.Stmt → List Ast.Expr
  | .expr _ (.str ..) => []
  | .expr _ value => [value]
  | .assign _ targets value => value :: targets
  | .annAssign _ target annot value => value.toList ++ [target, annot]
  | .delete _ targets => targets.take 1
  | .return _ value | .raise _ value _ => value.toList
  | .assert _ test msg => test :: msg.toList
  | .augAssign _ target _ value => [target, value]
  | .while _ test body _ => test :: Ast.builtExprsBlock body
  | .for _ target iter body _ => target :: iter :: Ast.builtExprsBlock body
  | .if _ test body orelse => test :: (Ast.builtExprsBlock body ++ Ast.builtExprsBlock orelse)
  | .with _ items body =>
    items.flatMap (fun i => i.contextExpr :: i.optionalVars.toList) ++ Ast.builtExprsBlock body
  | .print _ _ values => values
  | .pass _ | .break _ | .continue _ | .functionDef .. | .other .. => []

/-- `Ast.Stmt.builtExprs` of every statement of a block. -/
def Ast.builtExprsBlock : List Ast.Stmt → List Ast.Expr
  | [] => []
  | st :: sts => st.builtExprs ++ Ast.builtExprsBlock sts
end

section
variable (ctx : SourceContext)

/-- Every expression of the list translates. -/
def allTranslate (es : List Ast.Expr) : Bool := es.all fun e => (buildExpr ctx e).isOk

@[simp] theorem allTranslate_nil : allTranslate ctx [] = true := rfl

@[simp] theorem allTranslate_cons (e : Ast.Expr) (es : List Ast.Expr) :
    allTranslate ctx (e :: es) = ((buildExpr ctx e).isOk && allTranslate ctx es) := rfl

@[simp] theorem allTranslate_append (es es' : List Ast.Expr) :
    allTranslate ctx (es ++ es') = (allTranslate ctx es && allTranslate ctx es') :=
  List.all_append

/-! ## The builders of lists -/

theorem buildExprs_isOk_allTranslate (es : List Ast.Expr) :
    (buildExprs ctx es).isOk = allTranslate ctx es := by
  induction es with
  | nil => rfl
  | cons e es ih =>
    rw [buildExprs_cons, except_isOk_bind _ fun _ _ => except_isOk_bind true fun _ _ => ?_, ih,
      Bool.and_true, allTranslate_cons]
    rfl

theorem buildOptional_isOk (o : Option Ast.Expr) :
    (buildOptional ctx o).isOk = allTranslate ctx o.toList := by
  cases o with
  | none => rfl
  | some e =>
    refine (except_isOk_bind true fun _ _ => ?_).trans (by simp)
    rfl

theorem unsupportedNodeError_isOk {α : Type} (className : String) (pos : Pos) (reason : String) :
    (unsupportedNodeError ctx className pos reason : Except Error α).isOk = false := by
  cases h : (unsupportedNodeError ctx className pos reason : Except Error α) with
  | ok a => exact absurd h unsupportedNodeError_ne_ok
  | error e => rfl

theorem keywordRange_isOk (pos : Pos) (keyword : String) :
    (keywordRange ctx pos keyword).isOk = ctx.hasLine pos.lineno :=
  SourceContext.makeRange_isOk ..

theorem buildWithitem_isOk (i : Ast.WithItem) :
    (buildWithitem ctx i).isOk = (ctx.hasLine i.contextExpr.pos.lineno &&
      allTranslate ctx (i.contextExpr :: i.optionalVars.toList)) := by
  refine (except_isOk_bind _ fun _ _ => except_isOk_bind _ fun _ _ =>
    except_isOk_bind true fun _ _ => ?_).trans ?_
  · rfl
  · rw [SourceContext.makeRange_isOk, Bool.and_true, buildOptional_isOk, allTranslate_cons]

theorem buildWithitems_isOk (items : List Ast.WithItem) :
    (items.mapM (buildWithitem ctx)).isOk =
      (items.all (fun i => ctx.hasLine i.contextExpr.pos.lineno) &&
        allTranslate ctx (items.flatMap fun i => i.contextExpr :: i.optionalVars.toList)) := by
  induction items with
  | nil => rfl
  | cons i is ih =>
    rw [List.mapM_cons, except_isOk_bind _ fun _ _ => except_isOk_bind true fun _ _ => ?_,
      buildWithitem_isOk, ih, List.flatMap_cons, allTranslate_append, List.all_cons,
      Bool.and_true]
    · simp only [Bool.and_assoc, Bool.and_left_comm]
    · rfl

/-- The expressions a statement that is no docstring translates are the expression itself. -/
theorem builtExprs_expr {value : Ast.Expr} (hv : ∀ p s, value ≠ .str p s) (pos : Pos) :
    (Ast.Stmt.expr pos value).builtExprs = [value] := by
  cases value <;> first | rfl | exact absurd rfl (hv _ _)

/-! ## Every depth -/

mutual
/-- The verdict at every depth: one case per statement form, the expression builders' verdicts at
the leaves. -/
theorem buildStmt_isOk : ∀ st : Ast.Stmt,
    (buildStmt ctx st).isOk = (st.translatable ctx && allTranslate ctx st.builtExprs)
  | .expr pos value => by
    by_cases hv : ∃ p s, value = .str p s
    · obtain ⟨p, s, rfl⟩ := hv
      rfl
    · have hv' : ∀ p s, value ≠ .str p s := fun p s he => hv ⟨p, s, he⟩
      rw [buildStmt_expr ctx hv', builtExprs_expr hv', except_isOk_bind true fun _ _ => ?_]
      · simp only [allTranslate_cons, allTranslate_nil, Bool.and_true]
        rfl
      · rfl
  | .assign _ targets value => by
    show _ = (true && allTranslate ctx (value :: targets))
    refine (except_isOk_bind _ fun _ _ => except_isOk_bind true fun _ _ => ?_).trans ?_
    · rfl
    · simp [buildExprs_isOk_allTranslate]
  | .annAssign pos target annot value => by
    cases value with
    | none => exact unsupportedNodeError_isOk ..
    | some v =>
      show _ = (true && allTranslate ctx ([v] ++ [target, annot]))
      refine (except_isOk_bind _ fun _ _ => except_isOk_bind _ fun _ _ =>
        except_isOk_bind true fun _ _ => ?_).trans (by simp)
      rfl
  | .delete pos targets => by
    match targets with
    | [] => rfl
    | a :: b :: rest =>
      show Except.isOk (ite _ _ _) = ((a :: b :: rest).length == 1 && _)
      rw [if_pos (by simp), except_isOk_bind false fun _ _ => ?_]
      · simp
      · rfl
    | [t] =>
      show _ = (true && allTranslate ctx [t])
      refine (except_isOk_bind true fun _ _ => ?_).trans (by simp)
      rfl
  | .return pos value => by
    show _ = (ctx.hasLine pos.lineno && allTranslate ctx value.toList)
    refine (except_isOk_bind _ fun _ _ => except_isOk_bind true fun _ _ => ?_).trans ?_
    · rfl
    · rw [keywordRange_isOk, buildOptional_isOk, Bool.and_true]
  | .raise pos exc _ => by
    show _ = ((ctx.hasLine pos.lineno && exc.isSome) && allTranslate ctx exc.toList)
    cases exc with
    | none =>
      refine (except_isOk_bind false fun _ _ => ?_).trans ?_
      · rfl
      · simp
    | some e =>
      refine (except_isOk_bind _ fun _ _ => except_isOk_bind true fun _ _ => ?_).trans ?_
      · rfl
      · simp [keywordRange_isOk]
  | .assert pos test msg => by
    show _ = (ctx.hasLine pos.lineno && allTranslate ctx (test :: msg.toList))
    refine (except_isOk_bind _ fun _ _ => except_isOk_bind _ fun _ _ =>
      except_isOk_bind true fun _ _ => ?_).trans ?_
    · rfl
    · simp [keywordRange_isOk, buildOptional_isOk]
  | .augAssign _ target op value => by
    show _ = ((augassignMap op).isSome && allTranslate ctx [target, value])
    cases hop : augassignMap op with
    | none =>
      refine (except_isOk_bind _ fun _ _ => except_isOk_bind false fun _ _ => ?_).trans (by simp)
      rw [hop, except_isOk_bind false fun _ _ => ?_, Bool.and_false]
      rfl
    | some tok =>
      refine (except_isOk_bind _ fun _ _ => except_isOk_bind true fun _ _ => ?_).trans (by simp)
      rw [hop]
      rfl
  | .while pos test body orelse => by
    cases orelse with
    | cons => rfl
    | nil =>
      show _ = ((true && ctx.hasLine pos.lineno && Ast.translatableBlock ctx body) &&
        allTranslate ctx (test :: Ast.builtExprsBlock body))
      refine (except_isOk_bind _ fun _ _ => except_isOk_bind _ fun _ _ =>
        except_isOk_bind true fun _ _ => ?_).trans ?_
      · rfl
      · simp only [keywordRange_isOk, buildStmts_isOk body, allTranslate_cons, Bool.true_and,
          Bool.and_true, Bool.and_assoc, Bool.and_left_comm]
  | .for pos target iter body _ => by
    show _ = ((ctx.hasLine pos.lineno && Ast.translatableBlock ctx body) &&
      allTranslate ctx (target :: iter :: Ast.builtExprsBlock body))
    refine (except_isOk_bind _ fun _ _ => except_isOk_bind _ fun _ _ => except_isOk_bind _
      fun _ _ => except_isOk_bind true fun _ _ => ?_).trans ?_
    · rfl
    · simp only [keywordRange_isOk, buildStmts_isOk body, allTranslate_cons, Bool.and_true,
        Bool.and_assoc, Bool.and_left_comm]
  | .if pos test body orelse => by
    show _ = ((ctx.hasLine pos.lineno && Ast.translatableBlock ctx body &&
        Ast.translatableBlock ctx orelse) &&
      allTranslate ctx (test :: (Ast.builtExprsBlock body ++ Ast.builtExprsBlock orelse)))
    refine (except_isOk_bind _ fun _ _ => except_isOk_bind _ fun _ _ => except_isOk_bind _
      fun _ _ => except_isOk_bind true fun _ _ => ?_).trans ?_
    · rfl
    · simp only [keywordRange_isOk, buildStmts_isOk body, buildStmts_isOk orelse,
        allTranslate_cons, allTranslate_append, Bool.and_true, Bool.and_assoc, Bool.and_left_comm]
  | .with pos items body => by
    show _ = ((ctx.hasLine pos.lineno && items.all (fun i => ctx.hasLine i.contextExpr.pos.lineno) &&
        Ast.translatableBlock ctx body) && allTranslate ctx
      (items.flatMap (fun i => i.contextExpr :: i.optionalVars.toList) ++ Ast.builtExprsBlock body))
    refine (except_isOk_bind _ fun _ _ => except_isOk_bind _ fun _ _ =>
      except_isOk_bind true fun _ _ => ?_).trans ?_
    · rfl
    · simp only [keywordRange_isOk, buildWithitems_isOk, buildStmts_isOk body,
        allTranslate_append, Bool.and_true, Bool.and_assoc, Bool.and_left_comm]
  | .print pos dest values => by
    show _ = ((ctx.hasLine pos.lineno && dest.isNone) && allTranslate ctx values)
    cases dest with
    | some =>
      refine (except_isOk_bind false fun _ _ => ?_).trans ?_
      · rfl
      · simp
    | none =>
      refine (except_isOk_bind _ fun _ _ => except_isOk_bind true fun _ _ => ?_).trans ?_
      · rfl
      · simp [keywordRange_isOk, buildExprs_isOk_allTranslate]
  | .pass pos | .break pos | .continue pos => by
    refine (except_isOk_bind true fun _ _ => ?_).trans ?_
    · rfl
    · simp [keywordRange_isOk, Ast.Stmt.builtExprs, Ast.Stmt.translatable]
  | .functionDef pos .. | .other _ pos => unsupportedNodeError_isOk ..

/-- The verdict on a block: every statement's. -/
theorem buildStmts_isOk : ∀ sts : List Ast.Stmt,
    (buildStmts ctx sts).isOk =
      (Ast.translatableBlock ctx sts && allTranslate ctx (Ast.builtExprsBlock sts))
  | [] => rfl
  | st :: sts => by
    show _ = ((st.translatable ctx && Ast.translatableBlock ctx sts) &&
      allTranslate ctx (st.builtExprs ++ Ast.builtExprsBlock sts))
    refine (except_isOk_bind _ fun _ _ => except_isOk_bind true fun _ _ => ?_).trans ?_
    · rfl
    · simp only [buildStmt_isOk st, buildStmts_isOk sts, allTranslate_append, Bool.and_true,
        Bool.and_assoc, Bool.and_left_comm]
end

/-- **A statement translates exactly when `build_stmt` accepts its forms and every expression it
translates in it translates**, at every depth: the eight statement-level checks are the only
failures that do not come from an expression. -/
theorem buildStmt_isOk_iff (st : Ast.Stmt) :
    (buildStmt ctx st).isOk = true ↔
      st.translatable ctx = true ∧ ∀ e ∈ st.builtExprs, (buildExpr ctx e).isOk = true := by
  rw [buildStmt_isOk, Bool.and_eq_true, allTranslate, List.all_eq_true]

end

end JitFrontend
