import JitFrontend.ExprBuilder

/-! # Formatted strings

`build_JoinedStr` (lines 716–734) lowers `f"a{x}b"` to `"a{}b".format(x)`: the template is the
literal segments with one `{}` per interpolation, and the interpolated expressions are the
positional arguments.  Python's `str.format` reads its template again, though, and treats the
braces in it as markup, while the segments are concatenated as they are.

This module models `str.format` on a template and the value of an f-string, and proves both
sides of that: when no literal segment holds a brace the lowering keeps the f-string's value for
every value of the interpolations, and a segment `{}` (written `{{}}` in the f-string) turns into
a replacement field that takes an argument meant for a later one.
-/
namespace JitFrontend
open Ast (Pos)

/-- `{` and `}`. -/
def openBrace : Char := '\x7b'

/-- `}`. -/
def closeBrace : Char := '\x7d'

/-! ## Python's `str.format` -/

/-- Puts `t` before a successful result; an error, or a template outside the model, stays. -/
def prepend (t : List Char) : Option (Except Error (List Char)) → Option (Except Error (List Char))
  | some (.ok s) => some (.ok (t ++ s))
  | r => r

@[simp] theorem prepend_nil (r : Option (Except Error (List Char))) : prepend [] r = r := by
  rcases r with _ | _ | _ <;> rfl

@[simp] theorem prepend_ok (t s : List Char) : prepend t (some (.ok s)) = some (.ok (t ++ s)) :=
  rfl

theorem prepend_append (t u : List Char) (r : Option (Except Error (List Char))) :
    prepend t (prepend u r) = prepend (t ++ u) r := by
  rcases r with _ | _ | _ <;> simp [prepend]

/-- The error of a `{` or `}` that starts no field and is not doubled. -/
def singleBraceError (brace : String) : Error :=
  .python .valueError ("Single '" ++ brace ++ "' encountered in format string")

/-- Python's `str.format(*args)` on the rest `cs` of a template, left to right: `{{` and `}}` are
literal braces, `{}` takes the next positional argument, a lone brace raises `ValueError`, and a
missing argument `IndexError`.  `out` are the arguments the automatically numbered fields have not
taken yet, the first of them at index `next`.  The result is `none` at a replacement field with a
name, a conversion or a format spec, which this model does not evaluate. -/
def formatFrom : Nat → List String → List Char → Option (Except Error (List Char))
  | _, _, [] => some (.ok [])
  | next, out, c :: cs =>
    if c = openBrace then
      match cs with
      | [] => some (.error (singleBraceError "\x7b"))
      | d :: ds =>
        if d = openBrace then prepend [openBrace] (formatFrom next out ds)
        else if d = closeBrace then
          match out with
          | a :: rest => prepend a.toList (formatFrom (next + 1) rest ds)
          | [] => some (.error (.python .indexError ("Replacement index " ++ toString next ++
              " out of range for positional args tuple")))
        else none
    else if c = closeBrace then
      match cs with
      | d :: ds =>
        if d = closeBrace then prepend [closeBrace] (formatFrom next out ds)
        else some (.error (singleBraceError "\x7d"))
      | [] => some (.error (singleBraceError "\x7d"))
    else prepend [c] (formatFrom next out cs)

/-- `template.format(*args)`, with `args` the strings `format(vᵢ, '')` of the arguments. -/
def strFormat (args : List String) (template : String) : Option (Except Error (List Char)) :=
  formatFrom 0 args template.toList

theorem formatFrom_text {c : Char} (hopen : c ≠ openBrace) (hclose : c ≠ closeBrace)
    (next : Nat) (out : List String) (cs : List Char) :
    formatFrom next out (c :: cs) = prepend [c] (formatFrom next out cs) := by
  rw [formatFrom.eq_def]
  simp only [if_neg hopen, if_neg hclose]

theorem formatFrom_placeholder (next : Nat) (a : String) (out : List String) (cs : List Char) :
    formatFrom next (a :: out) (openBrace :: closeBrace :: cs) =
      prepend a.toList (formatFrom (next + 1) out cs) := rfl

/-- Text without braces is copied. -/
theorem formatFrom_text_append {t : List Char} (ht : ∀ c ∈ t, c ≠ openBrace ∧ c ≠ closeBrace)
    (next : Nat) (out : List String) (r : List Char) :
    formatFrom next out (t ++ r) = prepend t (formatFrom next out r) := by
  induction t with
  | nil => rw [List.nil_append, prepend_nil]
  | cons c t ih =>
    obtain ⟨hc, ht⟩ := List.forall_mem_cons.1 ht
    rw [List.cons_append, formatFrom_text hc.1 hc.2, ih ht, prepend_append, List.singleton_append]

/-! ## The f-string and its template -/

/-- The value of an f-string with the parts `values`, where `out` are the strings
`format(vᵢ, '')` of its interpolations in order: the literal segments and those strings,
concatenated. -/
def fStringValue : List Ast.Expr → List String → List Char
  | [], _ => []
  | v :: values, out =>
    if v.isFormattedValue then (out.headD "").toList ++ fStringValue values out.tail
    else (v.strSegment.getD "").toList ++ fStringValue values out

/-- Modelled from the spec: the template of an f-string, "built by concatenating literal segments
and a `{}` placeholder per interpolation" (§8). -/
def specTemplate : List Ast.Expr → List Char
  | [] => []
  | v :: values =>
    (if v.isFormattedValue then placeholder.toList else (v.strSegment.getD "").toList) ++
      specTemplate values

/-- The number of interpolations among the parts. -/
def interpolations (values : List Ast.Expr) : Nat := values.countP Ast.Expr.isFormattedValue

/-- With one value per interpolation and no brace in a literal segment, `str.format` of the spec's
template is the f-string's value. -/
theorem formatFrom_specTemplate {values : List Ast.Expr}
    (hseg : ∀ v ∈ values, ∀ c ∈ (v.strSegment.getD "").toList, c ≠ openBrace ∧ c ≠ closeBrace)
    (next : Nat) (out : List String) (hout : out.length = interpolations values) :
    formatFrom next out (specTemplate values) = some (.ok (fStringValue values out)) := by
  induction values generalizing next out with
  | nil => rfl
  | cons v values ih =>
    obtain ⟨hv, hseg⟩ := List.forall_mem_cons.1 hseg
    by_cases hfv : v.isFormattedValue
    · cases out with
      | nil => simp [interpolations, hfv] at hout
      | cons a out =>
        have hout : out.length = interpolations values := by
          simpa [interpolations, hfv] using hout
        simp only [specTemplate, fStringValue, hfv, if_true]
        rw [show placeholder.toList ++ specTemplate values =
            openBrace :: closeBrace :: specTemplate values from rfl, formatFrom_placeholder,
          ih hseg _ _ hout]
        rfl
    · have hout : out.length = interpolations values := by
        simpa [interpolations, hfv] using hout
      simp only [specTemplate, fStringValue, hfv, Bool.false_eq_true, if_false]
      rw [formatFrom_text_append hv, ih hseg next out hout, prepend_ok]

/-- **`build_JoinedStr`'s template is the spec's**, and its arguments are one translation per
interpolation, after those of the parts before. -/
theorem buildJoinedStrValues_spec (ctx : SourceContext) {values : List Ast.Expr} {s : String}
    {args : List TreeView.Expr} {template : String} {args' : List TreeView.Expr}
    (h : buildJoinedStrValues ctx s args values = .ok (template, args')) :
    template.toList = s.toList ++ specTemplate values ∧
      ∃ new, args' = args ++ new ∧ new.length = interpolations values := by
  induction values generalizing s args with
  | nil =>
    cases h
    exact ⟨by simp [specTemplate], [], by simp, rfl⟩
  | cons v values ih =>
    by_cases hfv : v.isFormattedValue
    · cases v with
      | formattedValue p e conversion formatSpec =>
        rw [buildJoinedStrValues_formattedValue] at h
        obtain ⟨_, -, h⟩ := except_bind_eq_ok.1 h
        split_ifs at h
        obtain ⟨e', -, h⟩ := except_bind_eq_ok.1 h
        obtain ⟨htemplate, new, rfl, hnew⟩ := ih h
        exact ⟨by rw [htemplate]; simp [specTemplate, Ast.Expr.isFormattedValue], e' :: new,
          by simp, by simp [interpolations, Ast.Expr.isFormattedValue, hnew]⟩
      | _ => cases hfv
    · rw [buildJoinedStrValues_segment _ _ _ _ (by simpa using hfv)] at h
      obtain ⟨_, -, h⟩ := except_bind_eq_ok.1 h
      cases hseg : v.strSegment with
      | none => rw [hseg] at h; cases h
      | some seg =>
        rw [hseg] at h
        obtain ⟨htemplate, new, rfl, hnew⟩ := ih h
        refine ⟨by rw [htemplate]; simp [specTemplate, hfv, hseg], new, rfl, ?_⟩
        simpa [interpolations, hfv] using hnew

variable (ctx : SourceContext) (pos : Pos)

/-- **Without braces in its literal segments an f-string keeps its value.**  When
`build_JoinedStr` succeeds and no literal segment holds a brace, `str.format` of the template,
given any strings for the interpolations, is the f-string's value. -/
theorem buildExpr_joinedStr_format (values : List Ast.Expr) (ir : TreeView.Expr)
    (h : buildExpr ctx (.joinedStr pos values) = .ok ir)
    (hseg : ∀ v ∈ values, ∀ c ∈ (v.strSegment.getD "").toList, c ≠ openBrace ∧ c ≠ closeBrace) :
    ∃ template args, joinedStrCall ctx pos template args = .ok ir ∧
      ∀ out : List String, out.length = args.length →
        strFormat out template = some (.ok (fStringValue values out)) := by
  rw [buildExpr_joinedStr] at h
  obtain ⟨⟨template, args⟩, hvalues, h⟩ := except_bind_eq_ok.1 h
  obtain ⟨htemplate, new, hargs, hnew⟩ := buildJoinedStrValues_spec ctx hvalues
  refine ⟨template, args, h, fun out hout => ?_⟩
  rw [strFormat, htemplate]
  exact formatFrom_specTemplate hseg 0 out (by simpa [hargs, hnew] using hout)

theorem buildExpr_joinedStr_format_example :
    buildExpr ⟨"def f(x):\n    return f\"a\x7bx\x7d\"\n", 0, true⟩
        (.joinedStr ⟨2, 11⟩ [.constant ⟨2, 11⟩ (.str "a"),
          .formattedValue ⟨2, 11⟩ (.name ⟨2, 15⟩ "x") (-1) none]) =
      .ok (.apply (.select (.stringLiteral ⟨21, 22⟩ "a\x7b\x7d") ⟨⟨21, 22⟩, "format"⟩)
        [.var ⟨⟨25, 26⟩, "x"⟩] []) ∧
      (∀ v ∈ [Ast.Expr.constant ⟨2, 11⟩ (.str "a"),
          .formattedValue ⟨2, 11⟩ (.name ⟨2, 15⟩ "x") (-1) none],
        ∀ c ∈ (v.strSegment.getD "").toList, c ≠ openBrace ∧ c ≠ closeBrace) ∧
      ∃ template args, joinedStrCall ⟨"def f(x):\n    return f\"a\x7bx\x7d\"\n", 0, true⟩
          ⟨2, 11⟩ template args =
          .ok (.apply (.select (.stringLiteral ⟨21, 22⟩ "a\x7b\x7d") ⟨⟨21, 22⟩, "format"⟩)
            [.var ⟨⟨25, 26⟩, "x"⟩] []) ∧
        ∀ out : List String, out.length = args.length →
          strFormat out template = some (.ok (fStringValue [.constant ⟨2, 11⟩ (.str "a"),
            .formattedValue ⟨2, 11⟩ (.name ⟨2, 15⟩ "x") (-1) none] out)) := by
  refine (fun h hseg => ⟨h, hseg, buildExpr_joinedStr_format _ _ _ _ h hseg⟩) rfl ?_
  decide

/-- **A doubled brace becomes markup.**  In `f"{{}}{x}"` the literal segment is `{}`, so the
template is `{}{}` with one argument: `str.format` fills the first field with the value of `x`
and raises `IndexError` at the second, where the f-string is `{}` followed by that value. -/
theorem buildExpr_joinedStr_escaped_braces (out : String) :
    buildExpr ⟨"def f(x):\n    return f\"\x7b\x7b\x7d\x7d\x7bx\x7d\"\n", 0, true⟩
        (.joinedStr ⟨2, 11⟩ [.constant ⟨2, 11⟩ (.str "\x7b\x7d"),
          .formattedValue ⟨2, 11⟩ (.name ⟨2, 18⟩ "x") (-1) none]) =
      .ok (.apply (.select (.stringLiteral ⟨21, 22⟩ "\x7b\x7d\x7b\x7d") ⟨⟨21, 22⟩, "format"⟩)
        [.var ⟨⟨28, 29⟩, "x"⟩] []) ∧
      strFormat [out] "\x7b\x7d\x7b\x7d" = some (.error (.python .indexError
        "Replacement index 1 out of range for positional args tuple")) ∧
      fStringValue [.constant ⟨2, 11⟩ (.str "\x7b\x7d"),
        .formattedValue ⟨2, 11⟩ (.name ⟨2, 18⟩ "x") (-1) none] [out] =
        openBrace :: closeBrace :: out.toList :=
  ⟨rfl, rfl, by simp [fStringValue, Ast.Expr.isFormattedValue, Ast.Expr.strSegment, openBrace,
    closeBrace]⟩

end JitFrontend
