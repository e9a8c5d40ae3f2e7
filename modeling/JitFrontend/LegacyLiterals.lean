import JitFrontend.DefBuilder

/-! # Legacy literals and `Constant`

Up to Python 3.7 a literal parses to `Num`, `Str`, `NameConstant` or `Ellipsis`; from Python 3.8
on to `Constant`, which carries the value.  The builders keep both paths: `build_Constant`
(lines 693–707) dispatches on the value's type to the legacy builders, except that it rejects a
complex number, which `build_Num` accepts.  Two places read the class of a literal and not its
value: `build_Constant` itself, and `build_Expr` (lines 324–331), which drops an expression
statement as a docstring only when its class is named `Str`.

This module replaces every legacy literal of a tree by its `Constant`, and proves that this
changes the translation in those two places and nowhere else.  Without a string-literal
expression statement, the `Constant` form of a function translates as the legacy form does, or
stops earlier at a complex number with `FrontendError`.  With one, the legacy form drops it and
the `Constant` form keeps it.
-/
namespace JitFrontend
open Ast (Pos)

namespace Ast

mutual
/-- The expression with every legacy literal node replaced by the `Constant` node that carries
the same value, as Python 3.8 parses it. -/
def Expr.toConstant : Expr → Expr
  | .boolOp pos op values => .boolOp pos op (toConstantList values)
  | .binOp pos left op right => .binOp pos left.toConstant op right.toConstant
  | .unaryOp pos op operand => .unaryOp pos op operand.toConstant
  | .ifExp pos test body orelse => .ifExp pos test.toConstant body.toConstant orelse.toConstant
  | .dict pos keys values => .dict pos (toConstantKeys keys) (toConstantList values)
  | .listComp pos elt generators => .listComp pos elt.toConstant (toConstantGenerators generators)
  | .compare pos left (op, comparator) rest =>
    .compare pos left.toConstant (op, comparator.toConstant) (toConstantComparators rest)
  | .call pos func args starargs keywords =>
    .call pos func.toConstant (toConstantList args) (toConstantOption starargs)
      (toConstantKeywords keywords)
  | .formattedValue pos value conversion formatSpec =>
    .formattedValue pos value.toConstant conversion (toConstantOption formatSpec)
  | .joinedStr pos values => .joinedStr pos (toConstantList values)
  | .constant pos value => .constant pos value
  | .attribute pos value attr => .attribute pos value.toConstant attr
  | .subscript pos value slice => .subscript pos value.toConstant slice.toConstant
  | .starred pos value => .starred pos value.toConstant
  | .name pos id => .name pos id
  | .list pos elts => .list pos (toConstantList elts)
  | .tuple pos elts => .tuple pos (toConstantList elts)
  | .num pos n => .constant pos (.num n)
  | .str pos s => .constant pos (.str s)
  | .nameConstant pos value => .constant pos (.singleton value)
  | .ellipsis pos => .constant pos .ellipsis
  | .other cls pos => .other cls pos

/-- `Expr.toConstant` on a slice. -/
def Slice.toConstant : Slice → Slice
  | .index value => .index value.toConstant
  | .slice lower upper step =>
    .slice (toConstantOption lower) (toConstantOption upper) (toConstantOption step)
  | .extSlice dims => .extSlice (toConstantDims dims)
  | .ellipsis => .ellipsis

/-- `Expr.toConstant` on each expression of a list. -/
def toConstantList : List Expr → List Expr
  | [] => []
  | e :: es => e.toConstant :: toConstantList es

/-- `Expr.toConstant` on an optional expression. -/
def toConstantOption : Option Expr → Option Expr
  | none => none
  | some e => some e.toConstant

/-- `Expr.toConstant` on the keys of a dictionary display. -/
def toConstantKeys : List (Option Expr) → List (Option Expr)
  | [] => []
  | k :: ks => toConstantOption k :: toConstantKeys ks

/-- `Expr.toConstant` on the comparators of a chain. -/
def toConstantComparators : List (CmpOp × Expr) → List (CmpOp × Expr)
  | [] => []
  | (op, e) :: rest => (op, e.toConstant) :: toConstantComparators rest

/-- `Expr.toConstant` on keyword arguments. -/
def toConstantKeywords : List Keyword → List Keyword
  | [] => []
  | .mk arg value :: kws => .mk arg value.toConstant :: toConstantKeywords kws

/-- `Expr.toConstant` on the dimensions of an extended slice. -/
def toConstantDims : List Slice → List Slice
  | [] => []
  | d :: ds => d.toConstant :: toConstantDims ds

/-- `Expr.toConstant` on the generators of a comprehension. -/
def toConstantGenerators : List Comprehension → List Comprehension
  | [] => []
  | .mk target iter ifs :: gs =>
    .mk target.toConstant iter.toConstant (toConstantList ifs) :: toConstantGenerators gs
end

/-- `Expr.toConstant` on a `with` item. -/
def WithItem.toConstant (item : WithItem) : WithItem :=
  ⟨item.contextExpr.toConstant, toConstantOption item.optionalVars⟩

/-- `Expr.toConstant` on a parameter's annotation. -/
def Arg.toConstant (a : Arg) : Arg := { a with annot := toConstantOption a.annot }

/-- `Expr.toConstant` on the annotations and keyword-only defaults of a parameter list. -/
def Arguments.toConstant (a : Arguments) : Arguments :=
  ⟨a.posonlyargs.map Arg.toConstant, a.args.map Arg.toConstant, a.vararg.map Arg.toConstant,
    a.kwonlyargs.map Arg.toConstant, toConstantKeys a.kwDefaults, a.kwarg.map Arg.toConstant⟩

mutual
/-- `Expr.toConstant` on every expression of a statement. -/
def Stmt.toConstant : Stmt → Stmt
  | .functionDef pos args body decoratorList returns =>
    .functionDef pos args.toConstant (toConstantStmts body) (toConstantList decoratorList)
      (toConstantOption returns)
  | .return pos value => .return pos (toConstantOption value)
  | .delete pos targets => .delete pos (toConstantList targets)
  | .assign pos targets value => .assign pos (toConstantList targets) value.toConstant
  | .augAssign pos target op value => .augAssign pos target.toConstant op value.toConstant
  | .annAssign pos target annot value =>
    .annAssign pos target.toConstant annot.toConstant (toConstantOption value)
  | .for pos target iter body orelse =>
    .for pos target.toConstant iter.toConstant (toConstantStmts body) (toConstantStmts orelse)
  | .while pos test body orelse =>
    .while pos test.toConstant (toConstantStmts body) (toConstantStmts orelse)
  | .if pos test body orelse =>
    .if pos test.toConstant (toConstantStmts body) (toConstantStmts orelse)
  | .with pos items body => .with pos (items.map WithItem.toConstant) (toConstantStmts body)
  | .raise pos exc cause => .raise pos (toConstantOption exc) (toConstantOption cause)
  | .assert pos test msg => .assert pos test.toConstant (toConstantOption msg)
  | .expr pos value => .expr pos value.toConstant
  | .pass pos => .pass pos
  | .break pos => .break pos
  | .continue pos => .continue pos
  | .print pos dest values => .print pos (toConstantOption dest) (toConstantList values)
  | .other cls pos => .other cls pos

/-- `Stmt.toConstant` on each statement of a block. -/
def toConstantStmts : List Stmt → List Stmt
  | [] => []
  | s :: ss => s.toConstant :: toConstantStmts ss
end

/-- `Expr.toConstant` on every expression of a function definition. -/
def FunctionDef.toConstant (d : FunctionDef) : FunctionDef :=
  ⟨d.pos, d.args.toConstant, toConstantStmts d.body, toConstantList d.decoratorList,
    toConstantOption d.returns⟩

mutual
/-- The statement holds no expression statement whose value is a legacy string literal, the
statements `build_Expr` drops as docstrings. -/
def Stmt.noStrStatement : Stmt → Bool
  | .functionDef _ _ body _ _ | .with _ _ body => noStrStatements body
  | .for _ _ _ body orelse | .while _ _ body orelse | .if _ _ body orelse =>
    noStrStatements body && noStrStatements orelse
  | .expr _ (.str ..) => false
  | _ => true

/-- `Stmt.noStrStatement` of every statement of a block. -/
def noStrStatements : List Stmt → Bool
  | [] => true
  | s :: ss => s.noStrStatement && noStrStatements ss
end

/-! ### What the conversion keeps -/

@[simp] theorem toConstantList_length (es : List Expr) : (toConstantList es).length = es.length := by
  induction es <;> simp [toConstantList, *]

theorem toConstantGenerators_length (gs : List Comprehension) :
    (toConstantGenerators gs).length = gs.length := by
  induction gs with
  | nil => rfl
  | cons g gs ih => cases g; simp [toConstantGenerators, ih]

@[simp] theorem toConstantStmts_isEmpty (ss : List Stmt) :
    (toConstantStmts ss).isEmpty = ss.isEmpty := by
  cases ss <;> rfl

@[simp] theorem toConstantOption_isSome (e : Option Expr) :
    (toConstantOption e).isSome = e.isSome := by
  cases e <;> rfl

@[simp] theorem Expr.pos_toConstant (e : Expr) : e.toConstant.pos = e.pos := by
  cases e <;> rfl

@[simp] theorem Expr.isTuple_toConstant (e : Expr) : e.toConstant.isTuple = e.isTuple := by
  cases e <;> rfl

@[simp] theorem Expr.isSequence_toConstant (e : Expr) : e.toConstant.isSequence = e.isSequence := by
  cases e <;> rfl

@[simp] theorem Expr.isFormattedValue_toConstant (e : Expr) :
    e.toConstant.isFormattedValue = e.isFormattedValue := by
  cases e <;> rfl

@[simp] theorem Expr.strSegment_toConstant (e : Expr) : e.toConstant.strSegment = e.strSegment := by
  cases e <;> rfl

/-- The conversion leaves no legacy string. -/
theorem Expr.toConstant_ne_str (e : Expr) (p : Pos) (s : String) : e.toConstant ≠ .str p s := by
  cases e <;> intro h <;> cases h

end Ast

/-! ## Expressions -/

/-- `a` is `b`, or `a` stopped before at a value `build_Constant` rejects (lines 705–707): a
complex number, which the legacy `build_Num` accepts. -/
def Agrees {α : Type} (a b : Except Error α) : Prop :=
  a = b ∨ ∃ r, a = .error (.frontendError r "Unknown Constant expression type")

namespace Agrees
variable {α β : Type}

theorem refl (a : Except Error α) : Agrees a a := .inl rfl

theorem bind {a b : Except Error α} {f g : α → Except Error β} (h : Agrees a b)
    (hfg : ∀ x, Agrees (f x) (g x)) : Agrees (a >>= f) (b >>= g) := by
  rcases h with rfl | ⟨r, rfl⟩
  · cases a with
    | error e => exact .refl _
    | ok x => exact hfg x
  · exact .inr ⟨r, rfl⟩

theorem mapM_map {γ : Type} {f : γ → Except Error β} {g : α → Except Error β} {φ : α → γ}
    (l : List α) (h : ∀ x ∈ l, Agrees (f (φ x)) (g x)) :
    Agrees ((l.map φ).mapM f) (l.mapM g) := by
  induction l with
  | nil => exact .refl _
  | cons x l ih =>
    obtain ⟨hx, hl⟩ := List.forall_mem_cons.1 h
    simp only [List.map_cons, List.mapM_cons]
    exact hx.bind fun _ => (ih hl).bind fun _ => .refl _

end Agrees

theorem checkListComp_toConstant (r : Range) (gs : List Ast.Comprehension) :
    checkListComp r (Ast.toConstantGenerators gs) = checkListComp r gs := by
  rcases gs with _ | ⟨⟨target, iter, ifs⟩, gs⟩
  · rfl
  · simp only [Ast.toConstantGenerators, checkListComp, Ast.toConstantGenerators_length,
      Ast.toConstantList_length, List.length_cons]

mutual
variable (ctx : SourceContext)

/-- **An expression's `Constant` form translates as its legacy form**, up to a complex number. -/
theorem buildExpr_toConstant : ∀ e : Ast.Expr, Agrees (buildExpr ctx e.toConstant) (buildExpr ctx e)
  | .attribute pos value attr => (buildExpr_toConstant value).bind fun _ => .refl _
  | .call pos func args starargs keywords =>
    (buildExpr_toConstant func).bind fun _ => (buildExprs_toConstant args).bind fun _ =>
      (buildOptional_toConstant starargs).bind fun _ =>
        (buildKeywords_toConstant keywords).bind fun _ => .refl _
  | .ellipsis pos | .name pos _ | .nameConstant pos _ | .constant pos _ | .str pos _
  | .other _ pos => .refl _
  | .binOp pos left op right =>
    (buildExpr_toConstant left).bind fun _ => (buildExpr_toConstant right).bind fun _ => .refl _
  | .unaryOp pos op operand => (buildExpr_toConstant operand).bind fun _ => .refl _
  | .boolOp pos op values => by
    simp only [Ast.Expr.toConstant, buildExpr_boolOp, Ast.toConstantList_length]
    split
    · exact .refl _
    · exact (buildExprs_toConstant values).bind fun _ => .refl _
  | .ifExp pos test body orelse =>
    (buildExpr_toConstant test).bind fun _ => (buildExpr_toConstant body).bind fun _ =>
      (buildExpr_toConstant orelse).bind fun _ => .refl _
  | .compare pos left (op, comparator) rest =>
    (buildExpr_toConstant left).bind fun _ => (buildExpr_toConstant comparator).bind fun _ =>
      (buildComparators_toConstant rest).bind fun _ => .refl _
  | .subscript pos value slice =>
    (buildExpr_toConstant value).bind fun base => buildSubscript_toConstant base slice
  | .list pos elts | .tuple pos elts =>
    (Agrees.refl _).bind fun _ => (buildExprs_toConstant elts).bind fun _ => .refl _
  | .dict pos keys values =>
    (Agrees.refl _).bind fun _ => (buildDictKeys_toConstant keys).bind fun _ =>
      (buildExprs_toConstant values).bind fun _ => .refl _
  | .num pos (.complex _) => (Agrees.refl _).bind fun r => .inr ⟨r, rfl⟩
  | .num pos (.int _) | .num pos (.float _) => .refl _
  | .joinedStr pos values => (buildJoinedStrValues_toConstant "" [] values).bind fun _ => .refl _
  | .listComp pos elt generators => by
    simp only [Ast.Expr.toConstant, buildExpr_listComp, checkListComp_toConstant]
    exact (Agrees.refl _).bind fun _ => (Agrees.refl _).bind fun _ =>
      (buildExpr_toConstant elt).bind fun _ =>
        (buildGenerator_toConstant generators).bind fun _ => .refl _
  | .starred pos value =>
    (Agrees.refl _).bind fun _ => (buildExpr_toConstant value).bind fun _ => .refl _
  | .formattedValue pos value conversion formatSpec => .refl _

theorem buildExprs_toConstant :
    ∀ es : List Ast.Expr, Agrees (buildExprs ctx (Ast.toConstantList es)) (buildExprs ctx es)
  | [] => .refl _
  | e :: es =>
    (buildExpr_toConstant e).bind fun _ => (buildExprs_toConstant es).bind fun _ => .refl _

theorem buildOptional_toConstant :
    ∀ e : Option Ast.Expr, Agrees (buildOptional ctx (Ast.toConstantOption e)) (buildOptional ctx e)
  | none => .refl _
  | some e =>
    (buildExpr_toConstant e).bind fun _ => .refl _

theorem buildDictKeys_toConstant : ∀ keys : List (Option Ast.Expr),
    Agrees (buildDictKeys ctx (Ast.toConstantKeys keys)) (buildDictKeys ctx keys)
  | [] => .refl _
  | none :: _ => .refl _
  | some k :: ks =>
    (buildExpr_toConstant k).bind fun _ => (buildDictKeys_toConstant ks).bind fun _ =>
      .refl _

theorem buildKeywords_toConstant : ∀ kws : List Ast.Keyword,
    Agrees (buildKeywords ctx (Ast.toConstantKeywords kws)) (buildKeywords ctx kws)
  | [] => .refl _
  | .mk _ value :: kws =>
    (buildExpr_toConstant value).bind fun _ => (Agrees.refl _).bind fun _ =>
      (buildKeywords_toConstant kws).bind fun _ => .refl _

theorem buildComparators_toConstant : ∀ rest : List (Ast.CmpOp × Ast.Expr),
    Agrees (buildComparators ctx (Ast.toConstantComparators rest)) (buildComparators ctx rest)
  | [] => .refl _
  | (_, e) :: rest =>
    (buildExpr_toConstant e).bind fun _ => (buildComparators_toConstant rest).bind fun _ =>
      .refl _

theorem buildSubscript_toConstant (base : TreeView.Expr) : ∀ slice : Ast.Slice,
    Agrees (buildSubscript ctx base slice.toConstant) (buildSubscript ctx base slice)
  | .index v => by
    by_cases ht : v.isTuple
    · cases v with
      | tuple p elts =>
        simp only [Ast.Slice.toConstant, Ast.Expr.toConstant, buildSubscript_index_tuple]
        exact (buildExprs_toConstant elts).bind fun _ => .refl _
      | _ => cases ht
    · have ht : v.isTuple = false := by simpa using ht
      rw [Ast.Slice.toConstant, buildSubscript_index ctx base (by simpa using ht),
        buildSubscript_index ctx base ht]
      exact (buildExpr_toConstant v).bind fun _ => .refl _
  | .slice lower upper step =>
    (buildOptional_toConstant lower).bind fun _ => (buildOptional_toConstant upper).bind
      fun _ => (buildOptional_toConstant step).bind fun _ => .refl _
  | .extSlice dims =>
    (buildDims_toConstant base dims).bind fun _ => .refl _
  | .ellipsis => .refl _

theorem buildDim_toConstant (base : TreeView.Expr) : ∀ d : Ast.Slice,
    Agrees (buildDim ctx base d.toConstant) (buildDim ctx base d)
  | .index v => by
    simp only [Ast.Slice.toConstant, buildDim_index, Ast.Expr.isSequence_toConstant]
    split
    · exact .refl _
    · exact buildExpr_toConstant v
  | .slice lower upper step =>
    (buildOptional_toConstant lower).bind fun _ => (buildOptional_toConstant upper).bind
      fun _ => (buildOptional_toConstant step).bind fun _ => .refl _
  | .ellipsis => .refl _
  | .extSlice dims => .refl _

theorem buildDims_toConstant (base : TreeView.Expr) : ∀ ds : List Ast.Slice,
    Agrees (buildDims ctx base (Ast.toConstantDims ds)) (buildDims ctx base ds)
  | [] => .refl _
  | d :: ds =>
    (buildDim_toConstant base d).bind fun _ => (buildDims_toConstant base ds).bind fun _ =>
      .refl _

theorem buildGenerator_toConstant : ∀ gs : List Ast.Comprehension,
    Agrees (buildGenerator ctx (Ast.toConstantGenerators gs)) (buildGenerator ctx gs)
  | [] => .refl _
  | .mk target iter _ :: _ =>
    (buildExpr_toConstant target).bind fun _ => (buildExpr_toConstant iter).bind fun _ =>
      .refl _

theorem buildJoinedStrValues_toConstant :
    ∀ (s : String) (args : List TreeView.Expr) (values : List Ast.Expr),
      Agrees (buildJoinedStrValues ctx s args (Ast.toConstantList values))
        (buildJoinedStrValues ctx s args values)
  | s, args, [] => .refl _
  | s, args, value :: values => by
    by_cases hfv : value.isFormattedValue
    · cases value with
      | formattedValue p v conversion formatSpec =>
        simp only [Ast.toConstantList, Ast.Expr.toConstant, buildJoinedStrValues_formattedValue,
          Ast.toConstantOption_isSome]
        split_ifs
        · exact .refl _
        · exact .refl _
        · exact (Agrees.refl _).bind fun _ => (buildExpr_toConstant v).bind fun _ =>
            buildJoinedStrValues_toConstant _ _ values
      | _ => cases hfv
    · have hfv : value.isFormattedValue = false := by simpa using hfv
      rw [Ast.toConstantList, buildJoinedStrValues_segment _ _ _ _ (by simpa using hfv),
        buildJoinedStrValues_segment _ _ _ _ hfv, Ast.Expr.strSegment_toConstant,
        Ast.Expr.pos_toConstant]
      refine (Agrees.refl _).bind fun _ => ?_
      cases value.strSegment with
      | none => exact .refl _
      | some seg => exact buildJoinedStrValues_toConstant _ _ values
end

/-! ## Statements and functions -/

section Stmts
variable (ctx : SourceContext)

theorem buildWithitem_toConstant (item : Ast.WithItem) :
    Agrees (buildWithitem ctx item.toConstant) (buildWithitem ctx item) := by
  simp only [buildWithitem, Ast.WithItem.toConstant, Ast.Expr.pos_toConstant]
  exact (Agrees.refl _).bind fun _ => (buildExpr_toConstant ctx _).bind fun _ =>
    (buildOptional_toConstant ctx _).bind fun _ => .refl _

end Stmts

mutual
variable (ctx : SourceContext)

/-- **A statement's `Constant` form translates as its legacy form**, up to a complex number, when
it holds no string-literal expression statement. -/
theorem buildStmt_toConstant : ∀ s : Ast.Stmt, s.noStrStatement = true →
    Agrees (buildStmt ctx s.toConstant) (buildStmt ctx s)
  | .functionDef .., _ => .refl _
  | .return pos value, _ =>
    (Agrees.refl _).bind fun _ => (buildOptional_toConstant ctx value).bind fun _ => .refl _
  | .delete pos targets, _ => by
    rcases targets with _ | ⟨t, ts⟩
    · exact .refl _
    · simp only [Ast.Stmt.toConstant, Ast.toConstantList, buildStmt, List.length_cons,
        Ast.toConstantList_length]
      split
      · exact .refl _
      · exact (buildExpr_toConstant ctx t).bind fun _ => .refl _
  | .assign pos targets value, _ =>
    (buildExpr_toConstant ctx value).bind fun _ =>
      (buildExprs_toConstant ctx targets).bind fun _ => .refl _
  | .augAssign pos target op value, _ =>
    (buildExpr_toConstant ctx target).bind fun _ =>
      (buildExpr_toConstant ctx value).bind fun _ => .refl _
  | .annAssign pos target annot none, _ => .refl _
  | .annAssign pos target annot (some value), _ =>
    (buildExpr_toConstant ctx value).bind fun _ =>
      (buildExpr_toConstant ctx target).bind fun _ =>
        (buildExpr_toConstant ctx annot).bind fun _ => .refl _
  | .for pos target iter body orelse, h => by
    simp only [Ast.Stmt.noStrStatement, Bool.and_eq_true] at h
    exact (Agrees.refl _).bind fun _ => (buildExpr_toConstant ctx target).bind fun _ =>
      (buildExpr_toConstant ctx iter).bind fun _ =>
        (buildStmts_toConstant body h.1).bind fun _ => .refl _
  | .while pos test body orelse, h => by
    simp only [Ast.Stmt.noStrStatement, Bool.and_eq_true] at h
    simp only [Ast.Stmt.toConstant, buildStmt, Ast.toConstantStmts_isEmpty]
    split
    · exact .refl _
    · exact (Agrees.refl _).bind fun _ => (buildExpr_toConstant ctx test).bind fun _ =>
        (buildStmts_toConstant body h.1).bind fun _ => .refl _
  | .if pos test body orelse, h => by
    simp only [Ast.Stmt.noStrStatement, Bool.and_eq_true] at h
    exact (Agrees.refl _).bind fun _ => (buildExpr_toConstant ctx test).bind fun _ =>
      (buildStmts_toConstant body h.1).bind fun _ =>
        (buildStmts_toConstant orelse h.2).bind fun _ => .refl _
  | .with pos items body, h => by
    simp only [Ast.Stmt.noStrStatement] at h
    exact (Agrees.refl _).bind fun _ =>
      (Agrees.mapM_map items fun item _ => buildWithitem_toConstant ctx item).bind fun _ =>
        (buildStmts_toConstant body h).bind fun _ => .refl _
  | .raise pos none cause, _ => .refl _
  | .raise pos (some exc) cause, _ =>
    (Agrees.refl _).bind fun _ => (buildExpr_toConstant ctx exc).bind fun _ => .refl _
  | .assert pos test msg, _ =>
    (Agrees.refl _).bind fun _ => (buildExpr_toConstant ctx test).bind fun _ =>
      (buildOptional_toConstant ctx msg).bind fun _ => .refl _
  | .expr pos value, h => by
    rw [Ast.Stmt.toConstant, buildStmt_expr ctx (Ast.Expr.toConstant_ne_str value),
      buildStmt_expr ctx (by rintro p s rfl; cases h)]
    exact (buildExpr_toConstant ctx value).bind fun _ => .refl _
  | .pass _, _ | .break _, _ | .continue _, _ | .other .., _ => .refl _
  | .print pos dest values, _ => by
    simp only [Ast.Stmt.toConstant, buildStmt, Ast.toConstantOption_isSome]
    refine (Agrees.refl _).bind fun _ => ?_
    split
    · exact .refl _
    · exact (buildExprs_toConstant ctx values).bind fun _ => .refl _

theorem buildStmts_toConstant : ∀ ss : List Ast.Stmt, Ast.noStrStatements ss = true →
    Agrees (buildStmts ctx (Ast.toConstantStmts ss)) (buildStmts ctx ss)
  | [], _ => .refl _
  | s :: ss, h => by
    simp only [Ast.noStrStatements, Bool.and_eq_true] at h
    exact (buildStmt_toConstant s h.1).bind fun _ => (buildStmts_toConstant ss h.2).bind fun _ =>
      .refl _
end

section Defs
variable (ctx : SourceContext)

theorem paramAnnot_toConstant (annot : Option Ast.Expr) (selfName : Option String)
    (name : String) (r : Range) :
    Agrees (paramAnnot ctx (Ast.toConstantOption annot) selfName name r)
      (paramAnnot ctx annot selfName name r) := by
  cases annot with
  | none => exact .refl _
  | some e => exact buildExpr_toConstant ctx e

theorem buildParam_toConstant (a : Ast.Arg) (selfName : Option String) (kwargOnly : Bool) :
    Agrees (buildParam ctx a.toConstant selfName kwargOnly) (buildParam ctx a selfName kwargOnly) :=
  (Agrees.refl _).bind fun _ =>
    (paramAnnot_toConstant ctx a.annot selfName a.arg _).bind fun _ => .refl _

theorem checkKwDefaults_toConstant : ∀ ds : List (Option Ast.Expr),
    Agrees (checkKwDefaults ctx (Ast.toConstantKeys ds)) (checkKwDefaults ctx ds)
  | [] => .refl _
  | none :: ds => checkKwDefaults_toConstant ds
  | some d :: _ => (buildExpr_toConstant ctx d).bind fun _ => .refl _

theorem buildParamList_toConstant (pyArgs : Ast.Arguments) (selfName : Option String) :
    Agrees (buildParamList ctx pyArgs.toConstant selfName) (buildParamList ctx pyArgs selfName) := by
  obtain ⟨posonly, args, vararg, kwonly, kwDefaults, kwarg⟩ := pyArgs
  cases kwarg with
  | some kwarg => exact .refl _
  | none =>
    cases vararg with
    | some vararg => exact .refl _
    | none =>
      simp only [buildParamList, Ast.Arguments.toConstant, Option.map_none']
      exact (checkKwDefaults_toConstant ctx kwDefaults).bind fun _ =>
        (Agrees.mapM_map args fun a _ => buildParam_toConstant ctx a selfName false).bind fun _ =>
          (Agrees.mapM_map kwonly fun a _ => buildParam_toConstant ctx a selfName true).bind
            fun _ => .refl _

theorem buildDef_toConstant (tc : TypeComments) (pyDef : Ast.FunctionDef)
    (typeLine : Option String) (defName : String) (selfName : Option String)
    (h : Ast.noStrStatements pyDef.body = true) :
    Agrees (buildDef tc ctx pyDef.toConstant typeLine defName selfName)
      (buildDef tc ctx pyDef typeLine defName selfName) := by
  simp only [buildDef, Ast.FunctionDef.toConstant, Ast.toConstantList_length]
  exact (Agrees.refl _).bind fun _ => (buildParamList_toConstant ctx pyDef.args selfName).bind fun _ =>
    (buildOptional_toConstant ctx pyDef.returns).bind fun _ => (Agrees.refl _).bind fun _ =>
      (buildStmts_toConstant ctx pyDef.body h).bind fun _ => .refl _

end Defs

/-- The stub of a dropped function holds no legacy literal, so dropping commutes with the
conversion. -/
theorem dropFunction_toConstant (d : Ast.FunctionDef) :
    dropFunction d.toConstant = (dropFunction d).toConstant := by
  simp only [dropFunction, Ast.FunctionDef.toConstant, Ast.Arguments.toConstant, List.map_map]
  rfl

/-- **A function's `Constant` form translates as its legacy form**, or stops earlier at a complex
number, when its body holds no string-literal expression statement. -/
theorem getJitDef_toConstant (tc : TypeComments) (fn : FunctionSource) (defName : String)
    (selfName : Option String) (h : Ast.noStrStatements fn.module = true) :
    Agrees (getJitDef tc { fn with module := Ast.toConstantStmts fn.module } defName selfName)
      (getJitDef tc fn defName selfName) := by
  obtain ⟨source, lws, module, typeLine, shouldDrop⟩ := fn
  rcases module with _ | ⟨s, _ | ⟨t, rest⟩⟩
  · exact .refl _
  · cases s with
    | functionDef pos args body decoratorList returns =>
      simp only [Ast.noStrStatements, Ast.Stmt.noStrStatement, Bool.and_true] at h
      cases shouldDrop
      · exact buildDef_toConstant _ tc ⟨pos, args, body, decoratorList, returns⟩ typeLine defName
          selfName h
      · show Agrees (buildDef tc _ (dropFunction (Ast.FunctionDef.toConstant
            ⟨pos, args, body, decoratorList, returns⟩)) typeLine defName selfName) _
        rw [dropFunction_toConstant]
        exact buildDef_toConstant _ tc _ typeLine defName selfName rfl
    | _ => exact .refl _
  · cases s <;> exact .refl _

/-- **The `Constant` form keeps a docstring and rejects a complex number.**  From the legacy parse
`def f(): "doc"; pass` translates to `pass` alone, and from Python 3.8's to the string literal and
`pass`; `def f(): return 1j` translates from the legacy parse and is rejected from Python 3.8's. -/
theorem getJitDef_constant_form_differs (tc : TypeComments) :
    let doc : FunctionSource := ⟨"def f():\n    \"doc\"\n    pass\n", 0,
      [.functionDef ⟨1, 0⟩ ⟨[], [], none, [], [], none⟩
        [.expr ⟨2, 4⟩ (.str ⟨2, 4⟩ "doc"), .pass ⟨3, 4⟩] [] none], none, false⟩
    let complex : FunctionSource := ⟨"def f():\n    return 1j\n", 0,
      [.functionDef ⟨1, 0⟩ ⟨[], [], none, [], [], none⟩
        [.return ⟨2, 4⟩ (some (.num ⟨2, 11⟩ (.complex "1j")))] [] none], none, false⟩
    (getJitDef tc doc "f" none).map (·.body) = .ok [.pass ⟨23, 27⟩] ∧
      (getJitDef tc { doc with module := Ast.toConstantStmts doc.module } "f" none).map (·.body) =
        .ok [.exprStmt (.stringLiteral ⟨13, 14⟩ "doc"), .pass ⟨23, 27⟩] ∧
      (getJitDef tc complex "f" none).map (·.body) =
        .ok [.return ⟨13, 19⟩ (some (.const ⟨20, 22⟩ "1j"))] ∧
      getJitDef tc { complex with module := Ast.toConstantStmts complex.module } "f" none =
        .error (.frontendError ⟨20, 22⟩ "Unknown Constant expression type") :=
  ⟨rfl, rfl, rfl, rfl⟩

end JitFrontend
