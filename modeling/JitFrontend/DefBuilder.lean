import JitFrontend.StmtBuilder

/-! # Definitions and classes

`build_def` (lines 232–249) assembles a function's `Def`: its declaration from the parameter list
(`build_param_list`, `build_param`, lines 256–287) and the return annotation, merged with a type
comment when the source has one, and its translated body.  `get_jit_def` (lines 179–215) is the
entry point: it checks that the source is one function definition and, when the function is marked
unused (`should_drop`), swaps its body and signature for a stub before building it.
`get_jit_class_def` (lines 155–176) builds each method and property that way and assembles the
`ClassDef`.

What these read from the host — a function's source, its parse, whether it is dropped, its type
comment line, a class's own methods and properties — is input here (`FunctionSource`,
`ClassSource`), and so are the external type-comment parser and merger (`TypeComments`).
-/
namespace JitFrontend
open Ast (Pos)

/-- `_vararg_kwarg_err` (lines 252–253). -/
def varargKwargErr : String :=
  "Compiled functions can't take variable number of arguments or use keyword-only arguments " ++
    "with defaults"

section Params
variable (ctx : SourceContext)

/-- The annotation `build_param` gives a parameter (lines 281–286): its own, else the class for
the `self` of a method, else `EmptyTypeAnnotation`. -/
def paramAnnot (annot : Option Ast.Expr) (selfName : Option String) (name : String)
    (r : Range) : Except Error TreeView.Expr :=
  match annot, selfName with
  | some annot, _ => buildExpr ctx annot
  | none, some selfName =>
    if name = "self" then pure (.var ⟨r, selfName⟩) else pure (.emptyTypeAnnot r)
  | none, none => pure (.emptyTypeAnnot r)

/-- `build_param` (lines 277–287). -/
def buildParam (pyArg : Ast.Arg) (selfName : Option String) (kwargOnly : Bool) :
    Except Error TreeView.Param := do
  let r ← ctx.makeRange pyArg.pos.lineno pyArg.pos.colOffset
    (pyArg.pos.colOffset + pyArg.arg.length)
  let annotationExpr ← paramAnnot ctx pyArg.annot selfName pyArg.arg r
  pure ⟨annotationExpr, ⟨r, pyArg.arg⟩, kwargOnly⟩

/-- The rejection by `build_param_list` of `**kwargs` or `*args` (lines 257–264): its range covers
the name and the character before it. -/
def varargError {α : Type} (expr : Ast.Arg) : Except Error α := do
  let ctxRange ← ctx.makeRange expr.pos.lineno (expr.pos.colOffset - 1)
    (expr.pos.colOffset + expr.arg.length)
  throw (.notSupportedError ctxRange varargKwargErr)

/-- The loop over `kw_defaults` (lines 265–271): the first keyword-only default present is built,
and rejected at its range. -/
def checkKwDefaults : List (Option Ast.Expr) → Except Error Unit
  | [] => pure ()
  | none :: rest => checkKwDefaults rest
  | some arg :: _ => do
    let e ← buildExpr ctx arg
    throw (.notSupportedError e.range varargKwargErr)

/-- `build_param_list` (lines 256–274): positional parameters, then keyword-only ones. -/
def buildParamList (pyArgs : Ast.Arguments) (selfName : Option String) :
    Except Error (List TreeView.Param) :=
  match pyArgs.kwarg, pyArgs.vararg with
  | some kwarg, _ => varargError ctx kwarg
  | none, some vararg => varargError ctx vararg
  | none, none => do
    checkKwDefaults ctx pyArgs.kwDefaults
    let result ← pyArgs.args.mapM fun arg => buildParam ctx arg selfName false
    let kwonly ← pyArgs.kwonlyargs.mapM fun arg => buildParam ctx arg selfName true
    pure (result ++ kwonly)

end Params

/-- The external `TypeCommentParser` and `DeclMerger` (spec §6): `torch._C.parse_type_comment`
and `torch._C.merge_type_from_type_comment`. -/
structure TypeComments where
  parseTypeComment : String → Except Error TreeView.Decl
  mergeTypeFromTypeComment : TreeView.Decl → TreeView.Decl → Bool → Except Error TreeView.Decl

variable (tc : TypeComments)

/-- Lines 243–245: with a type comment, the declaration is merged with the one it parses to. -/
def applyTypeComment (decl : TreeView.Decl) (typeLine : Option String) (isMethod : Bool) :
    Except Error TreeView.Decl :=
  match typeLine with
  | none => pure decl
  | some typeLine => do
    let typeCommentDecl ← tc.parseTypeComment typeLine
    tc.mergeTypeFromTypeComment decl typeCommentDecl isMethod

/-- `build_def` (lines 232–249).  The range is the `def` keyword's, on the line `lineno` plus one
per decorator. -/
def buildDef (ctx : SourceContext) (pyDef : Ast.FunctionDef) (typeLine : Option String)
    (defName : String) (selfName : Option String) : Except Error TreeView.Def := do
  let r ← ctx.makeRange (pyDef.pos.lineno + pyDef.decoratorList.length) pyDef.pos.colOffset
    (pyDef.pos.colOffset + 3)
  let paramList ← buildParamList ctx pyDef.args selfName
  let returnType ← buildOptional ctx pyDef.returns
  let decl ← applyTypeComment tc ⟨r, paramList, returnType⟩ typeLine selfName.isSome
  let body ← buildStmts ctx pyDef.body
  pure ⟨⟨r, defName⟩, decl, body⟩

/-- The annotation `Any` of the stub's `self`, at line 1, column 20 of the stub's source. -/
def anyAnnot : Ast.Expr := .name ⟨1, 20⟩ "Any"

/-- The stub `def unused_fn(self: Any):\n\traise RuntimeError("Cannot call @unused methods")` of
line 207, as Python 3.8 parses it. -/
def unusedFnDef : Ast.FunctionDef where
  pos := ⟨1, 0⟩
  args := ⟨[], [⟨"self", some anyAnnot, ⟨1, 14⟩⟩], none, [], [], none⟩
  body := [.raise ⟨2, 1⟩ (some (.call ⟨2, 7⟩ (.name ⟨2, 7⟩ "RuntimeError")
    [.constant ⟨2, 20⟩ (.str "Cannot call @unused methods")] none [])) none]
  decoratorList := []
  returns := none

/-- The rewrite of a dropped function (lines 206–213): the stub's body, no `*args` or `**kwargs`,
and every positional and keyword-only parameter annotated `Any`.  Everything else is kept. -/
def dropFunction (fnDef : Ast.FunctionDef) : Ast.FunctionDef :=
  { fnDef with
    body := unusedFnDef.body
    args := { fnDef.args with
      kwarg := none
      vararg := none
      args := fnDef.args.args.map fun arg => { arg with annot := some anyAnnot }
      kwonlyargs := fnDef.args.kwonlyargs.map fun arg => { arg with annot := some anyAnnot } } }

/-- What `get_jit_def` learns about a function from the host: its source lines joined
(`source`), the indentation `dedent` removed, the body of `ast.parse(dedent(source))`, the type
comment line `get_type_line(source)`, and the policy `should_drop(fn)`. -/
structure FunctionSource where
  source : String
  leadingWhitespaceLen : Nat
  module : List Ast.Stmt
  typeLine : Option String
  shouldDrop : Bool

/-- `get_jit_def(fn, def_name, self_name)` (lines 179–215). -/
def getJitDef (fn : FunctionSource) (defName : String) (selfName : Option String) :
    Except Error TreeView.Def :=
  match fn.module with
  | [.functionDef pos args body decoratorList returns] =>
    let ctx : SourceContext := ⟨fn.source, fn.leadingWhitespaceLen, true⟩
    let fnDef : Ast.FunctionDef := ⟨pos, args, body, decoratorList, returns⟩
    buildDef tc ctx (if fn.shouldDrop then dropFunction fnDef else fnDef) fn.typeLine defName
      selfName
  | _ => throw (.python .runtimeError "Expected a single top-level function")

/-- `build_class_def` (lines 226–229): the range is the `class` keyword's. -/
def buildClassDef (ctx : SourceContext) (pyDef : Ast.Stmt) (methods : List TreeView.Def)
    (properties : List TreeView.Property) (selfName : String) : Except Error TreeView.ClassDef := do
  let r ← ctx.makeRange pyDef.pos.lineno pyDef.pos.colOffset (pyDef.pos.colOffset + 5)
  pure ⟨⟨r, selfName⟩, methods, properties⟩

/-- A property's setter (line 149): built when the property has one. -/
def buildSetter (name : String) (fset : Option FunctionSource) (selfName : String) :
    Except Error (Option TreeView.Def) :=
  match fset with
  | none => pure none
  | some fset => do
    let setter ← getJitDef tc fset ("__" ++ name ++ "_setter") (some selfName)
    pure (some setter)

/-- `get_class_properties` (lines 131–152): each property's getter, and setter if it has one, built
under a name derived from the property's. -/
def getClassProperties (props : List (String × FunctionSource × Option FunctionSource))
    (selfName : String) : Except Error (List TreeView.Property) :=
  props.mapM fun (name, fget, fset) => do
    let getter ← getJitDef tc fget ("__" ++ name ++ "_getter") (some selfName)
    let setter ← buildSetter tc name fset selfName
    pure ⟨getter.range, ⟨getter.range, name⟩, getter, setter⟩

/-- What `get_jit_class_def` learns about a class from the host (spec §6 `ClassIntrospector`): its
own non-static methods and its properties, in order, and its source as for a function. -/
structure ClassSource where
  methods : List (String × FunctionSource)
  properties : List (String × FunctionSource × Option FunctionSource)
  source : String
  leadingWhitespaceLen : Nat
  module : List Ast.Stmt

/-- `get_jit_class_def(cls, self_name)` (lines 155–176): methods, then properties, then the class
itself, in a context without true division. -/
def getJitClassDef (cls : ClassSource) (selfName : String) : Except Error TreeView.ClassDef := do
  let methods ← cls.methods.mapM fun (name, fn) => getJitDef tc fn name (some selfName)
  let properties ← getClassProperties tc cls.properties selfName
  let ctx : SourceContext := ⟨cls.source, cls.leadingWhitespaceLen, false⟩
  match cls.module with
  | [] => throw (.python .indexError "list index out of range")
  | pyDef :: _ => buildClassDef ctx pyDef methods properties selfName

end JitFrontend
