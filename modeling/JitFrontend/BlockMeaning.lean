import JitFrontend.Execution
import JitFrontend.Correspondence
import JitFrontend.Emitted

/-! # The translation of a block keeps Python's meaning

`build_stmts` keeps the control flow of a block as it is: `if`, `while` and `for` with their
bodies, `with`, `break`, `continue`, `return`, `raise` and `assert` each become the tree view's
statement of the same kind, over the translations of their expressions and targets.  It rewrites
the rest: a docstring is dropped (lines 324–328), an annotated assignment becomes an assignment
with a type (lines 340–346), `print` becomes a call of `print` (lines 413–419), and `x op= e`
takes its token from `augassign_map` (lines 376–387).  Two components have no counterpart in the
tree view and are left out: a `for` loop's `else` branch (lines 399–404) and the cause of
`raise … from …` (lines 363–367).

`getJitDef_body_preserves_meaning` says what the translation means, at every depth and in every
backend.  The body `get_jit_def` returns runs, in `Semantics.exec`, exactly as the function's
source body, with those two components erased (`Ast.Stmt.withoutDropped`), runs in Python
(`Semantics.pyExec`): the same outcome, value and final state, the same loops stopping for lack
of fuel.  It needs what the expression theorem needs (`LeavesAgree`, `TupleSubscripts`), that
every expression and target of the body keep to `SafeExpr` and `SafeTarget` (`SafeStmt`), and
that a docstring's string have no effect (`DocstringsPure`).  Targets are not assumed to agree:
assignments, `del`, the targets of `for` and `with`, and augmented assignments, which read their
target before they run their operand, are proved from the parts of the target.  So the frontend
keeps the meaning of every body without `for … else` and `raise … from`, and may silently
change the meaning of one with.
-/
namespace JitFrontend
open Ast (Pos)

namespace Semantics
variable {V σ : Type} (S : Semantics V σ) (A : Ast.Expr → σ → V × σ)

mutual
/-- The statements whose translation keeps their meaning: every expression the statement
evaluates keeps to `SafeExpr`, and every target it assigns, deletes or updates to
`SafeTarget`. -/
def SafeStmt : Ast.Stmt → Prop
  | .expr _ value => S.SafeExpr A value
  | .assign _ targets value => S.SafeTargets A targets ∧ S.SafeExpr A value
  | .annAssign _ target _ value => S.SafeTarget A target ∧ S.SafeOpt A value
  | .delete _ targets => S.SafeTargets A targets
  | .augAssign _ target _ value => S.SafeTarget A target ∧ S.SafeExpr A value
  | .return _ value | .raise _ value _ => S.SafeOpt A value
  | .assert _ test msg => S.SafeExpr A test ∧ S.SafeOpt A msg
  | .while _ test body _ => S.SafeExpr A test ∧ SafeBlock body
  | .for _ target iter body _ => S.SafeTarget A target ∧ S.SafeExpr A iter ∧ SafeBlock body
  | .if _ test body orelse => S.SafeExpr A test ∧ SafeBlock body ∧ SafeBlock orelse
  | .with _ items body =>
    (∀ i ∈ items, S.SafeExpr A i.contextExpr ∧ ∀ t ∈ i.optionalVars, S.SafeTarget A t) ∧
      SafeBlock body
  | .print _ _ values => S.SafeExprs A values
  | _ => True

/-- `SafeStmt` of every statement of a block. -/
def SafeBlock : List Ast.Stmt → Prop
  | [] => True
  | st :: sts => SafeStmt st ∧ SafeBlock sts
end

end Semantics

mutual
/-- The statement without the two components `build_stmt` leaves out, at every depth: a `for`
loop's `else` branch and the cause of `raise … from …`. -/
def Ast.Stmt.withoutDropped : Ast.Stmt → Ast.Stmt
  | .for pos target iter body _ => .for pos target iter (Ast.withoutDroppedBlock body) []
  | .raise pos exc _ => .raise pos exc none
  | .while pos test body orelse =>
    .while pos test (Ast.withoutDroppedBlock body) (Ast.withoutDroppedBlock orelse)
  | .if pos test body orelse =>
    .if pos test (Ast.withoutDroppedBlock body) (Ast.withoutDroppedBlock orelse)
  | .with pos items body => .with pos items (Ast.withoutDroppedBlock body)
  | st => st

/-- `Ast.Stmt.withoutDropped` of every statement of a block. -/
def Ast.withoutDroppedBlock : List Ast.Stmt → List Ast.Stmt
  | [] => []
  | st :: sts => st.withoutDropped :: Ast.withoutDroppedBlock sts
end

/-- Evaluating a string literal of the legacy class `Str` has no effect, as in Python. -/
def DocstringsPure {V σ : Type} (A : Ast.Expr → σ → V × σ) : Prop :=
  ∀ pos str s, (A (.str pos str) s).2 = s

/-! ## The builders, one statement at a time -/

section Builders
variable {ctx : SourceContext}

/-- Only a docstring translates to nothing. -/
theorem buildStmt_eq_none {st : Ast.Stmt} (h : buildStmt ctx st = .ok none) :
    ∃ pos p str, st = .expr pos (.str p str) := by
  cases hd : st.isDocstring
  · exact absurd h (buildStmt_ne_none ctx hd)
  · unfold Ast.Stmt.isDocstring at hd
    split at hd
    · exact ⟨_, _, _, rfl⟩
    · cases hd

/-- `augassign_map` spells every operator it has as Python does. -/
theorem augassignMap_eq_pyToken {op : Ast.Operator} {tok : String}
    (h : augassignMap op = some tok) : tok = op.pyToken := by
  cases op <;> cases h <;> rfl

/-- The name `print` at the statement's place translates to the variable `build_Print` calls. -/
theorem buildExpr_print_name {pos : Pos} {r : Range} (h : keywordRange ctx pos "print" = .ok r) :
    buildExpr ctx (.name pos "print") = .ok (.var ⟨r, "print"⟩) := by
  show ctx.makeRange _ _ _ >>= _ = _
  rw [show ctx.makeRange pos.lineno pos.colOffset (pos.colOffset + "print".length) = .ok r from h]
  rfl

end Builders

/-! ## Targets -/

section Targets
open Semantics
variable {ctx : SourceContext} {V σ : Type} {S : Semantics V σ} {A : Ast.Expr → σ → V × σ}

theorem storeAll_agree {targets : List Ast.Expr} {lhs : List TreeView.Expr}
    (h : List.Forall₂ (S.AssignsAs A) targets lhs) (v : V) :
    ∀ s, storeAll S.assign lhs v s = storeAll (S.pyAssign A) targets v s := by
  induction h with
  | nil => exact fun _ => rfl
  | cons ht _ ih => intro s; exact (congrArg _ (ht.2 v s)).trans (ih _)

theorem buildOptional_assignsAs (hA : S.LeavesAgree A ctx) (hT : S.TupleSubscripts)
    {o : Option Ast.Expr} {o' : Option TreeView.Expr}
    (h : buildOptional ctx o = .ok o') (hs : ∀ t ∈ o, S.SafeTarget A t) :
    ∀ v s, storeOpt S.assign o' v s = storeOpt (S.pyAssign A) o v s := by
  cases o with
  | none => cases h; exact fun _ _ => rfl
  | some t =>
    obtain ⟨t', ht, h⟩ := except_bind_eq_ok.1 h
    cases h
    exact (buildExpr_assignsAs hA hT t ht (hs t rfl)).2

mutual
/-- A target that translates is deleted as its source is. -/
theorem buildExpr_deletesAs (hA : S.LeavesAgree A ctx) (hT : S.TupleSubscripts) :
    ∀ (t : Ast.Expr) {t' : TreeView.Expr}, buildExpr ctx t = .ok t' → S.SafeTarget A t →
      ∀ s, S.deleteTarget t' s = S.pyDelete A t s
  | .name .., _, h, hs => by
    obtain ⟨r, rfl⟩ := buildName_var ctx hs h
    exact fun _ => rfl
  | .tuple _ elts, _, h, hs => by
    obtain ⟨_, -, h⟩ := except_bind_eq_ok.1 h
    obtain ⟨es, hes, h⟩ := except_bind_eq_ok.1 h
    have ih := buildExprs_deletesAs hA hT elts hes hs
    cases h
    exact ih
  | .list _ elts, _, h, hs => by
    obtain ⟨_, -, h⟩ := except_bind_eq_ok.1 h
    obtain ⟨es, hes, h⟩ := except_bind_eq_ok.1 h
    have ih := buildExprs_deletesAs hA hT elts hes hs
    cases h
    exact ih
  | .starred .., _, h, _ => by
    obtain ⟨_, -, h⟩ := except_bind_eq_ok.1 h
    obtain ⟨_, -, h⟩ := except_bind_eq_ok.1 h
    cases h
    exact fun _ => rfl
  | .attribute _ value _, _, h, hs => by
    obtain ⟨base, hbase, h⟩ := except_bind_eq_ok.1 h
    have hb := buildExpr_runsAs hA hT value hbase hs
    obtain ⟨r, rfl⟩ := buildAttribute_eq ctx h
    intro s
    show S.delattr (S.run base s).1 _ (S.run base s).2 = S.delattr (S.py A value s).1 _ _
    rw [hb s]
  | .subscript p value sl, _, h, hs => by
    obtain ⟨base, hbase, h⟩ := except_bind_eq_ok.1 h
    have hb := buildExpr_runsAs hA hT value hbase hs.1
    obtain ⟨idxs, rfl, hk⟩ := buildSubscript_runsAs hA hT p sl h hs.2
    intro s
    show S.delitem (S.run base s).1 (S.runList idxs (S.run base s).2).1 _ =
      S.delitem (S.py A value s).1 [(S.pyKey A p sl (S.py A value s).2).1] _
    rw [hb s, (hk _).1, delitem_of_key hT (hk _).2]
  | .boolOp .., _, _, hs | .binOp .., _, _, hs | .unaryOp .., _, _, hs | .ifExp .., _, _, hs
  | .dict .., _, _, hs | .listComp .., _, _, hs | .compare .., _, _, hs | .call .., _, _, hs
  | .formattedValue .., _, _, hs | .joinedStr .., _, _, hs | .constant .., _, _, hs
  | .num .., _, _, hs | .str .., _, _, hs | .nameConstant .., _, _, hs | .ellipsis .., _, _, hs
  | .other .., _, _, hs => False.elim hs

theorem buildExprs_deletesAs (hA : S.LeavesAgree A ctx) (hT : S.TupleSubscripts) :
    ∀ (ts : List Ast.Expr) {ts' : List TreeView.Expr}, buildExprs ctx ts = .ok ts' →
      S.SafeTargets A ts → ∀ s, S.deleteTargets ts' s = S.pyDeleteList A ts s
  | [], _, h, _ => by cases h; exact fun _ => rfl
  | t :: ts, _, h, hs => by
    obtain ⟨t', ht, h⟩ := except_bind_eq_ok.1 h
    obtain ⟨ts', hts, h⟩ := except_bind_eq_ok.1 h
    have ih := buildExpr_deletesAs hA hT t ht hs.1
    have ihs := buildExprs_deletesAs hA hT ts hts hs.2
    cases h
    intro s
    show S.deleteTargets ts' (S.deleteTarget t' s) = S.pyDeleteList A ts (S.pyDelete A t s)
    rw [ih, ihs]
end

/-- **`t op= v` is updated as Python updates it**: the target's object and indices run and its
value is read before the operand runs, on both sides. -/
theorem augAssign_agree (hA : S.LeavesAgree A ctx) (hT : S.TupleSubscripts)
    {target value : Ast.Expr} {lhs rhs : TreeView.Expr}
    (ht : buildExpr ctx target = .ok lhs) (hs : S.SafeTarget A target)
    (hv : S.RunsAs A value rhs) (tok : String) (s : σ) :
    S.augAssign lhs tok rhs s = S.pyAugAssign A target tok value s := by
  match target, ht, hs with
  | .name p id, ht, hs =>
    have hn := buildExpr_runsAs hA hT (.name p id) ht trivial
    obtain ⟨r, rfl⟩ := buildName_var ctx hs ht
    show S.store id _ _ = S.store id _ _
    simp only [hn s, hv _]
  | .attribute _ value attr, ht, hs =>
    obtain ⟨base, hbase, h⟩ := except_bind_eq_ok.1 ht
    have hb := buildExpr_runsAs hA hT value hbase hs
    obtain ⟨r, rfl⟩ := buildAttribute_eq ctx h
    show S.setattr (S.run base s).1 attr _ _ = S.setattr (S.py A value s).1 attr _ _
    simp only [hb s, hv _]
  | .subscript p value sl, ht, hs =>
    obtain ⟨base, hbase, h⟩ := except_bind_eq_ok.1 ht
    have hb := buildExpr_runsAs hA hT value hbase hs.1
    obtain ⟨idxs, rfl, hk⟩ := buildSubscript_runsAs hA hT p sl h hs.2
    show S.setitem (S.run base s).1 (S.runList idxs (S.run base s).2).1 _ _ =
      S.setitem (S.py A value s).1 [(S.pyKey A p sl (S.py A value s).2).1] _ _
    simp only [hb s, (hk _).1, index_of_key hT (hk _).2, setitem_of_key hT (hk _).2, hv _]
  | .tuple _ elts, ht, _ | .list _ elts, ht, _ =>
    obtain ⟨_, -, h⟩ := except_bind_eq_ok.1 ht
    obtain ⟨_, -, h⟩ := except_bind_eq_ok.1 h
    cases h
    rfl
  | .starred .., ht, _ =>
    obtain ⟨_, -, h⟩ := except_bind_eq_ok.1 ht
    obtain ⟨_, -, h⟩ := except_bind_eq_ok.1 h
    cases h
    rfl

end Targets

/-! ## Each statement runs as its source -/

section Statements
open Semantics
variable {ctx : SourceContext} {V σ : Type} {S : Semantics V σ} {A : Ast.Expr → σ → V × σ}
  {E : Effects V σ} {Q : PyEffects V σ} {fuel : Nat}
  (hA : S.LeavesAgree A ctx) (hT : S.TupleSubscripts)
include hA hT

theorem returnWith_agree {o : Option Ast.Expr} {o' : Option TreeView.Expr}
    (h : buildOptional ctx o = .ok o') (hs : S.SafeOpt A o) (s : σ) :
    returnWith S.run o' s = returnWith (S.py A) o s := by
  cases buildOptional_runsAs hA hT o h hs with
  | none => rfl
  | some he =>
    show Outcome.return _ _ = Outcome.return _ _
    rw [he s]

theorem assertWith_agree {test : Ast.Expr} {test' : TreeView.Expr} {msg : Option Ast.Expr}
    {msg' : Option TreeView.Expr} (ht : buildExpr ctx test = .ok test')
    (hm : buildOptional ctx msg = .ok msg') (hs : S.SafeExpr A test) (hms : S.SafeOpt A msg)
    (s : σ) : S.assertWith E S.run test' msg' s = S.assertWith E (S.py A) test msg s := by
  have htest := buildExpr_runsAs hA hT test ht hs s
  cases buildOptional_runsAs hA hT msg hm hms with
  | none => simp only [Semantics.assertWith, htest]
  | some he => simp only [Semantics.assertWith, htest, he _]

/-- The managers of a `with` statement's items run as their sources, and their variables take
the managers' values as the source's do. -/
theorem withItems_agree {body : σ → Option (Outcome V σ)} {body' : σ → Option (Outcome V σ)}
    (hbody : ∀ s, body' s = body s) :
    ∀ {items : List Ast.WithItem} {items' : List TreeView.WithItem},
      items.mapM (buildWithitem ctx) = .ok items' →
      (∀ i ∈ items, S.SafeExpr A i.contextExpr ∧ ∀ t ∈ i.optionalVars, S.SafeTarget A t) →
      ∀ s, withItems E S.assign (fun i => S.run i.target) TreeView.WithItem.var body' items' s =
        withItems E (S.pyAssign A) (fun i => S.py A i.contextExpr) Ast.WithItem.optionalVars body
          items s
  | [], _, h, _, s => by cases h; exact hbody s
  | i :: is, _, h, hs, s => by
    rw [List.mapM_cons] at h
    obtain ⟨i', hi, h⟩ := except_bind_eq_ok.1 h
    obtain ⟨is', his, h⟩ := except_bind_eq_ok.1 h
    cases h
    obtain ⟨_, -, hi⟩ := except_bind_eq_ok.1 hi
    obtain ⟨target, htarget, hi⟩ := except_bind_eq_ok.1 hi
    obtain ⟨var, hvar, hi⟩ := except_bind_eq_ok.1 hi
    cases hi
    have hi := hs i (List.mem_cons_self _ _)
    have hm := buildExpr_runsAs hA hT _ htarget hi.1 s
    simp only [withItems, hm, buildOptional_assignsAs hA hT hvar hi.2,
      withItems_agree hbody his fun j hj => hs j (List.mem_cons_of_mem _ hj)]

variable (E Q fuel)

theorem exec_exprStmt {pos : Pos} {value : Ast.Expr} {t : TreeView.Stmt}
    (h : buildStmt ctx (.expr pos value) = .ok (some t)) (hs : S.SafeExpr A value) (s : σ) :
    S.exec E fuel t s = S.pyExec E A Q fuel (.expr pos value) s := by
  by_cases hv : ∃ p str, value = .str p str
  · obtain ⟨p, str, rfl⟩ := hv
    cases h
  · rw [buildStmt_expr ctx fun p str he => hv ⟨p, str, he⟩] at h
    obtain ⟨e, he, h⟩ := except_bind_eq_ok.1 h
    cases h
    show some (Outcome.normal (S.run e s).2) = some (Outcome.normal (S.py A value s).2)
    rw [buildExpr_runsAs hA hT value he hs s]

theorem exec_assign {pos : Pos} {targets : List Ast.Expr} {value : Ast.Expr} {t : TreeView.Stmt}
    (h : buildStmt ctx (.assign pos targets value) = .ok (some t))
    (hs : S.SafeTargets A targets ∧ S.SafeExpr A value) (s : σ) :
    S.exec E fuel t s = S.pyExec E A Q fuel (.assign pos targets value) s := by
  obtain ⟨rhs, hrhs, h⟩ := except_bind_eq_ok.1 h
  obtain ⟨lhs, hlhs, h⟩ := except_bind_eq_ok.1 h
  cases h
  show some (Outcome.normal (storeAll S.assign lhs _ _)) =
    some (Outcome.normal (storeAll (S.pyAssign A) targets _ _))
  rw [buildExpr_runsAs hA hT value hrhs hs.2 s,
    storeAll_agree (buildExprs_assignsAs hA hT targets hlhs hs.1)]

theorem exec_annAssign {pos : Pos} {target annot : Ast.Expr} {value : Option Ast.Expr}
    {t : TreeView.Stmt} (h : buildStmt ctx (.annAssign pos target annot value) = .ok (some t))
    (hs : S.SafeTarget A target ∧ S.SafeOpt A value) (s : σ) :
    S.exec E fuel t s = S.pyExec E A Q fuel (.annAssign pos target annot value) s := by
  obtain _ | value := value
  · exact absurd h unsupportedNodeError_ne_ok
  obtain ⟨rhs, hrhs, h⟩ := except_bind_eq_ok.1 h
  obtain ⟨lhs, hlhs, h⟩ := except_bind_eq_ok.1 h
  obtain ⟨_, -, h⟩ := except_bind_eq_ok.1 h
  cases h
  show some (Outcome.normal (S.assign lhs _ _)) = some (Outcome.normal (S.pyAssign A target _ _))
  rw [buildExpr_runsAs hA hT value hrhs hs.2 s, (buildExpr_assignsAs hA hT target hlhs hs.1).2]

theorem exec_delete {pos : Pos} {targets : List Ast.Expr} {t : TreeView.Stmt}
    (h : buildStmt ctx (.delete pos targets) = .ok (some t)) (hs : S.SafeTargets A targets)
    (s : σ) : S.exec E fuel t s = S.pyExec E A Q fuel (.delete pos targets) s := by
  match targets, h with
  | [], h => cases h
  | _ :: _ :: _, h =>
    change ite _ _ _ = _ at h
    rw [if_pos (by simp)] at h
    obtain ⟨_, -, h⟩ := except_bind_eq_ok.1 h
    cases h
  | [target], h =>
    obtain ⟨e, he, h⟩ := except_bind_eq_ok.1 h
    cases h
    show some (Outcome.normal (S.deleteTarget e s)) =
      some (Outcome.normal (S.pyDelete A target s))
    rw [buildExpr_deletesAs hA hT target he hs.1]

theorem exec_return {pos : Pos} {value : Option Ast.Expr} {t : TreeView.Stmt}
    (h : buildStmt ctx (.return pos value) = .ok (some t)) (hs : S.SafeOpt A value) (s : σ) :
    S.exec E fuel t s = S.pyExec E A Q fuel (.return pos value) s := by
  obtain ⟨_, -, h⟩ := except_bind_eq_ok.1 h
  obtain ⟨v, hv, h⟩ := except_bind_eq_ok.1 h
  cases h
  exact congrArg some (returnWith_agree hA hT hv hs s)

theorem exec_raise {pos : Pos} {exc cause : Option Ast.Expr} {t : TreeView.Stmt}
    (h : buildStmt ctx (.raise pos exc cause) = .ok (some t)) (hexc : S.SafeOpt A exc) (s : σ) :
    S.exec E fuel t s = S.pyExec E A Q fuel (.raise pos exc none) s := by
  obtain ⟨_, -, h⟩ := except_bind_eq_ok.1 h
  obtain _ | exc := exc
  · cases h
  obtain ⟨e, he, h⟩ := except_bind_eq_ok.1 h
  cases h
  show some (Outcome.raise (S.run e s).1 (S.run e s).2) =
    some (Outcome.raise (S.py A exc s).1 (S.py A exc s).2)
  rw [buildExpr_runsAs hA hT exc he hexc s]

theorem exec_assert {pos : Pos} {test : Ast.Expr} {msg : Option Ast.Expr} {t : TreeView.Stmt}
    (h : buildStmt ctx (.assert pos test msg) = .ok (some t))
    (hs : S.SafeExpr A test ∧ S.SafeOpt A msg) (s : σ) :
    S.exec E fuel t s = S.pyExec E A Q fuel (.assert pos test msg) s := by
  obtain ⟨_, -, h⟩ := except_bind_eq_ok.1 h
  obtain ⟨test', ht, h⟩ := except_bind_eq_ok.1 h
  obtain ⟨msg', hm, h⟩ := except_bind_eq_ok.1 h
  cases h
  exact congrArg some (assertWith_agree hA hT ht hm hs.1 hs.2 s)

theorem exec_augAssign {pos : Pos} {target value : Ast.Expr} {op : Ast.Operator}
    {t : TreeView.Stmt} (h : buildStmt ctx (.augAssign pos target op value) = .ok (some t))
    (hs : S.SafeTarget A target ∧ S.SafeExpr A value) (s : σ) :
    S.exec E fuel t s = S.pyExec E A Q fuel (.augAssign pos target op value) s := by
  obtain ⟨lhs, hlhs, h⟩ := except_bind_eq_ok.1 h
  obtain ⟨rhs, hrhs, h⟩ := except_bind_eq_ok.1 h
  cases hop : augassignMap op with
  | none =>
    rw [hop] at h
    obtain ⟨_, -, h⟩ := except_bind_eq_ok.1 h
    cases h
  | some tok =>
    rw [hop] at h
    cases h
    show some (Outcome.normal (S.augAssign lhs tok rhs s)) =
      some (Outcome.normal (S.pyAugAssign A target op.pyToken value s))
    rw [augassignMap_eq_pyToken hop,
      augAssign_agree hA hT hlhs hs.1 (buildExpr_runsAs hA hT value hrhs hs.2)]

theorem exec_print {pos : Pos} {dest : Option Ast.Expr} {values : List Ast.Expr}
    {t : TreeView.Stmt} (h : buildStmt ctx (.print pos dest values) = .ok (some t))
    (hs : S.SafeExprs A values) (s : σ) :
    S.exec E fuel t s = S.pyExec E A Q fuel (.print pos dest values) s := by
  obtain ⟨r, hr, h⟩ := except_bind_eq_ok.1 h
  obtain _ | dest := dest
  · obtain ⟨args, hargs, h⟩ := except_bind_eq_ok.1 h
    cases h
    have hcall := buildExpr_runsAs hA hT (.call pos (.name pos "print") values none [])
      (by simp only [buildExpr_call, buildExpr_print_name hr, hargs, buildOptional_none,
        buildKeywords_nil, except_ok_bind, except_pure]; rfl)
      ⟨trivial, hs, trivial, trivial, .inl rfl⟩ s
    simp only [buildCall, Option.toList_none, List.map_nil, List.append_nil] at hcall
    exact congrArg (fun r => some (Outcome.normal r.2)) hcall
  · cases h

end Statements

/-! ## Every block runs as its source -/

section Blocks
open Semantics
variable {ctx : SourceContext} {V σ : Type} {S : Semantics V σ} {A : Ast.Expr → σ → V × σ}
  {E : Effects V σ} {Q : PyEffects V σ} {fuel : Nat}

mutual
/-- A statement's translation runs as the statement without its dropped components: the simple
statements by the lemmas above, and a compound one from its blocks. -/
theorem buildStmt_runs (hA : S.LeavesAgree A ctx) (hT : S.TupleSubscripts)
    (hdoc : DocstringsPure A) :
    ∀ (st : Ast.Stmt) {t : TreeView.Stmt}, buildStmt ctx st = .ok (some t) → S.SafeStmt A st →
      ∀ s, S.exec E fuel t s = S.pyExec E A Q fuel st.withoutDropped s
  | .expr .., _, h, hs => exec_exprStmt E Q fuel hA hT h hs
  | .assign .., _, h, hs => exec_assign E Q fuel hA hT h hs
  | .annAssign .., _, h, hs => exec_annAssign E Q fuel hA hT h hs
  | .delete .., _, h, hs => exec_delete E Q fuel hA hT h hs
  | .return .., _, h, hs => exec_return E Q fuel hA hT h hs
  | .raise .., _, h, hs => exec_raise E Q fuel hA hT h hs
  | .assert .., _, h, hs => exec_assert E Q fuel hA hT h hs
  | .augAssign .., _, h, hs => exec_augAssign E Q fuel hA hT h hs
  | .print .., _, h, hs => exec_print E Q fuel hA hT h hs
  | .pass _, _, h, _ | .break _, _, h, _ | .continue _, _, h, _ => by
    obtain ⟨_, -, h⟩ := except_bind_eq_ok.1 h
    cases h
    exact fun _ => rfl
  | .functionDef .., _, h, _ | .other .., _, h, _ => absurd h unsupportedNodeError_ne_ok
  | .while _ test body orelse, _, h, hs => by
    obtain rfl : orelse = [] := by
      cases orelse with
      | nil => rfl
      | cons => cases h
    obtain ⟨_, -, h⟩ := except_bind_eq_ok.1 h
    obtain ⟨test', ht, h⟩ := except_bind_eq_ok.1 h
    obtain ⟨body', hb, h⟩ := except_bind_eq_ok.1 h
    have htest : S.run test' = S.py A test := funext (buildExpr_runsAs hA hT test ht hs.1)
    have hbody : S.execBlock E fuel body' = _ := funext (buildStmts_runs hA hT hdoc body hb hs.2)
    cases h
    intro s
    show S.whileLoop (S.run test') (S.execBlock E fuel body') _ fuel s =
      S.whileLoop (S.py A test) _ _ fuel s
    rw [htest, hbody]
    rfl
  | .for _ target iter body _, _, h, ⟨htarget, hiter, hbs⟩ => by
    obtain ⟨_, -, h⟩ := except_bind_eq_ok.1 h
    obtain ⟨target', ht, h⟩ := except_bind_eq_ok.1 h
    obtain ⟨iter', hi, h⟩ := except_bind_eq_ok.1 h
    obtain ⟨body', hb, h⟩ := except_bind_eq_ok.1 h
    have hbody : S.execBlock E fuel body' = _ := funext (buildStmts_runs hA hT hdoc body hb hbs)
    have hstore : S.assign target' = S.pyAssign A target :=
      funext fun v => funext ((buildExpr_assignsAs hA hT target ht htarget).2 v)
    cases h
    intro s
    show forEach (S.assign target') (S.execBlock E fuel body') _
        (E.elements (S.run iter' s).1 (S.run iter' s).2) (S.run iter' s).2 =
      forEach (S.pyAssign A target) _ _ _ _
    rw [hstore, hbody, buildExpr_runsAs hA hT iter hi hiter s]
    rfl
  | .if _ test body orelse, _, h, hs => by
    obtain ⟨_, -, h⟩ := except_bind_eq_ok.1 h
    obtain ⟨test', ht, h⟩ := except_bind_eq_ok.1 h
    obtain ⟨body', hb, h⟩ := except_bind_eq_ok.1 h
    obtain ⟨orelse', ho, h⟩ := except_bind_eq_ok.1 h
    have hbody := buildStmts_runs hA hT hdoc body hb hs.2.1
    have horelse := buildStmts_runs hA hT hdoc orelse ho hs.2.2
    cases h
    intro s
    show (if S.truthy (S.run test' s).1 then S.execBlock E fuel body' _
        else S.execBlock E fuel orelse' _) = (if S.truthy (S.py A test s).1 then _ else _)
    rw [buildExpr_runsAs hA hT test ht hs.1 s, hbody, horelse]
  | .with _ items body, _, h, hs => by
    obtain ⟨_, -, h⟩ := except_bind_eq_ok.1 h
    obtain ⟨items', hi, h⟩ := except_bind_eq_ok.1 h
    obtain ⟨body', hb, h⟩ := except_bind_eq_ok.1 h
    have hbody := buildStmts_runs hA hT hdoc body hb hs.2
    cases h
    exact withItems_agree hA hT hbody hi hs.1

/-- A block's translation runs as the block without its dropped components: a dropped docstring
has no effect, and every other statement runs as its translation. -/
theorem buildStmts_runs (hA : S.LeavesAgree A ctx) (hT : S.TupleSubscripts)
    (hdoc : DocstringsPure A) :
    ∀ (sts : List Ast.Stmt) {out : List TreeView.Stmt}, buildStmts ctx sts = .ok out →
      S.SafeBlock A sts →
      ∀ s, S.execBlock E fuel out s = S.pyExecBlock E A Q fuel (Ast.withoutDroppedBlock sts) s
  | [], _, h, _ => by cases h; exact fun _ => rfl
  | st :: sts, _, h, hs => by
    obtain ⟨o, ho, h⟩ := except_bind_eq_ok.1 h
    obtain ⟨out, hout, h⟩ := except_bind_eq_ok.1 h
    have hrest := buildStmts_runs hA hT hdoc sts hout hs.2
    cases h
    intro s
    cases o with
    | none =>
      obtain ⟨pos, p, str, rfl⟩ := buildStmt_eq_none ho
      show S.execBlock E fuel out s =
        S.pyExecBlock E A Q fuel (Ast.withoutDroppedBlock sts) (A (.str p str) s).2
      rw [hdoc p str s, hrest]
    | some t =>
      show (S.exec E fuel t s).bind (Outcome.andThen (S.execBlock E fuel out)) =
        (S.pyExec E A Q fuel st.withoutDropped s).bind
          (Outcome.andThen (S.pyExecBlock E A Q fuel (Ast.withoutDroppedBlock sts)))
      rw [buildStmt_runs hA hT hdoc st ho hs.1 s, funext hrest]
end

end Blocks

/-! ## Functions -/

/-- **The body `get_jit_def` builds runs as Python runs the body it builds from, without the
components it drops.**  That body is the function's own, or the stub
`raise RuntimeError("Cannot call @unused methods")` for a function marked unused.  Take a backend
that evaluates the translations of names and literals as `A` says, subscripts with several
indices as with their tuple, and evaluates a docstring's string without effect.  When every
expression and target of the body keeps to `SafeExpr` and `SafeTarget`, the translated body ends
as Python's run of that body with its `for … else` branches and `raise … from` causes erased,
for every bound on loop iterations and from every state: with the same outcome, the same value
and the same final state.  A body that has neither runs as it is. -/
theorem getJitDef_body_preserves_meaning {tc : TypeComments} {fn : FunctionSource} {pos : Pos}
    {args : Ast.Arguments} {body : List Ast.Stmt} {decoratorList : List Ast.Expr}
    {returns : Option Ast.Expr}
    (hmodule : fn.module = [.functionDef pos args body decoratorList returns])
    {defName : String} {selfName : Option String} {d : TreeView.Def}
    (h : getJitDef tc fn defName selfName = .ok d) {V σ : Type} {S : Semantics V σ}
    {A : Ast.Expr → σ → V × σ} {E : Effects V σ} {Q : PyEffects V σ}
    (hA : S.LeavesAgree A ⟨fn.source, fn.leadingWhitespaceLen, true⟩) (hT : S.TupleSubscripts)
    (hdoc : DocstringsPure A)
    (hs : S.SafeBlock A (if fn.shouldDrop then unusedFnDef.body else body))
    (fuel : Nat) (s : σ) :
    S.execBlock E fuel d.body s = S.pyExecBlock E A Q fuel
      (Ast.withoutDroppedBlock (if fn.shouldDrop then unusedFnDef.body else body)) s := by
  simp only [getJitDef, hmodule] at h
  have hbody := buildDef_body h
  rw [apply_ite Ast.FunctionDef.body] at hbody
  exact buildStmts_runs hA hT hdoc _ hbody hs s

/-- A docstring, and a `for` loop whose `else` branch returns, over a subscript target: the
translation runs the loop without the `else` branch, in the counting backend. -/
theorem getJitDef_body_preserves_meaning_example :
    let src := "def f(xs):\n    \"doc\"\n    for xs[0] in xs:\n        if xs:\n" ++
      "            break\n    else:\n        return 1\n    return 0\n"
    let body : List Ast.Stmt := [.expr ⟨2, 4⟩ (.str ⟨2, 4⟩ "doc"),
      .for ⟨3, 4⟩ (.subscript ⟨3, 8⟩ (.name ⟨3, 8⟩ "xs") (.index (.constant ⟨3, 11⟩ (.num (.int 0)))))
        (.name ⟨3, 17⟩ "xs") [.if ⟨4, 8⟩ (.name ⟨4, 11⟩ "xs") [.break ⟨5, 12⟩] []]
        [.return ⟨7, 8⟩ (some (.constant ⟨7, 15⟩ (.num (.int 1))))],
      .return ⟨8, 4⟩ (some (.constant ⟨8, 11⟩ (.num (.int 0))))]
    let fn : FunctionSource := ⟨src, 0,
      [.functionDef ⟨1, 0⟩ ⟨[], [⟨"xs", none, ⟨1, 6⟩⟩], none, [], [], none⟩ body [] none],
      none, false⟩
    let ctx : SourceContext := ⟨src, 0, true⟩
    let S := countingSemantics
    let E : Effects Nat Nat := ⟨fun v _ => [v, v], fun v s => (v, s), fun _ s => s, fun _ => 0⟩
    let Q : PyEffects Nat Nat := ⟨fun e _ => e, fun _ _ => none⟩
    ∃ d, ∀ comments : TypeComments, getJitDef comments fn "f" none = .ok d ∧
      DocstringsPure (S.leavesOf ctx) ∧ S.SafeBlock (S.leavesOf ctx) body ∧
      ∀ fuel s, S.execBlock E fuel d.body s =
        S.pyExecBlock E (S.leavesOf ctx) Q fuel (Ast.withoutDroppedBlock body) s := by
  intro src body fn ctx S E Q
  have hdoc : DocstringsPure (S.leavesOf ctx) := fun _ _ _ => by
    unfold Semantics.leavesOf
    split
    · rename_i ir _
      cases ir <;> rfl
    · rfl
  have hs : S.SafeBlock (S.leavesOf ctx) body :=
    ⟨trivial, ⟨⟨trivial, trivial⟩, trivial, ⟨trivial, ⟨trivial, trivial⟩, trivial⟩, trivial⟩,
      ⟨trivial, trivial⟩⟩
  refine ⟨_, fun comments => ⟨rfl, hdoc, hs, fun fuel s => ?_⟩⟩
  exact @getJitDef_body_preserves_meaning comments fn _ _ body _ _ rfl "f" none _ rfl Nat Nat S
    (S.leavesOf ctx) E Q (S.leavesOf_agree ctx) countingSemantics_tupleSubscripts hdoc hs fuel s

end JitFrontend
