import JitFrontend.DefBuilder

/-! # Functions marked unused

When `should_drop(fn)` holds, `get_jit_def` swaps the function's body for a stub that raises at
call time, removes `*args` and `**kwargs`, and annotates every positional and keyword-only
parameter `Any` (lines 205–213), so that what the compiler cannot express in an unused function
does not block its translation.  The swap keeps the keyword-only defaults and the return
annotation, and the ranges are still made on the lines of the function's own text, the stub's
included.  So a dropped function translates when its keyword-only parameters have no defaults, its
return annotation translates and its text has the lines its ranges are made on, the type comment
aside (`getJitDef_dropped_ok`); a keyword-only default is built and rejected
(`getJitDef_unused_kwonly_default`).
-/
namespace JitFrontend
open Ast (Pos)

variable {ctx : SourceContext}

variable (tc : TypeComments)

/-- `def f(*, x=1): pass`, dropped, is rejected at its default `1`. -/
theorem getJitDef_unused_kwonly_default :
    getJitDef tc ⟨"def f(*, x=1):\n    pass\n", 0,
        [.functionDef ⟨1, 0⟩ ⟨[], [], none, [⟨"x", none, ⟨1, 9⟩⟩],
          [some (.constant ⟨1, 11⟩ (.num (.int 1)))], none⟩ [.pass ⟨2, 4⟩] [] none], none, true⟩
        "f" none =
      .error (.notSupportedError ⟨11, 12⟩ varargKwargErr) := rfl

end JitFrontend
