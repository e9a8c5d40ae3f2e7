import JitFrontend.TreeView

/-! # The expression builder

`ExprBuilder` (lines 440–754) translates one Python expression into a tree-view expression.  The
dispatcher `Builder.__call__` looks up `build_<ClassName>` and raises `UnsupportedNodeError` when
there is none; here it is the `match` of `buildExpr`, whose `other` arm is that fallback.

The leaf builders (names, literals, `Constant`, the attribute-name scan) read no subexpression and
come first; the recursive ones form one `mutual` block, structurally recursive over the syntax
tree, with one function for each list or option of children the Python code iterates over.
-/
namespace JitFrontend
open Ast (Pos)

/-- `ExprBuilder.binop_map` (lines 441–456). -/
def binopMap : Ast.Operator → Option String
  | .add => some "+" | .sub => some "-" | .mult => some "*" | .div => some "/"
  | .pow => some "**" | .mod => some "%" | .floorDiv => some "//" | .bitAnd => some "&"
  | .bitXor => some "^" | .bitOr => some "|" | .lShift => some "<<" | .rShift => some ">>"
  | .matMult => some "@"

/-- `ExprBuilder.unop_map` (lines 458–462): unary `+` has no entry. -/
def unopMap : Ast.UnaryOp → Option String
  | .not => some "not" | .uSub => some "-" | .invert => some "~" | .uAdd => none

/-- `ExprBuilder.boolop_map` (lines 464–467). -/
def boolopMap : Ast.BoolOp → Option String
  | .and => some "and" | .or => some "or"

/-- `ExprBuilder.cmpop_map` (lines 469–480). -/
def cmpopMap : Ast.CmpOp → Option String
  | .eq => some "==" | .notEq => some "!=" | .ltE => some "<=" | .lt => some "<"
  | .gtE => some ">=" | .gt => some ">" | .is => some "is" | .isNot => some "is not"
  | .in => some "in" | .notIn => some "not in"

/-- `_reserved_prefix` (line 25). -/
def reservedPrefix : String := "__jit"

/-- Python's `s.startswith(prefix)`. -/
def startsWith (s pre : String) : Bool := pre.toList.isPrefixOf s.toList

/-- The message of the true-division error of `build_BinOp` (lines 554–556). -/
def trueDivisionMsg : String :=
  "Division of ints in TorchScript uses Python 3 true division semantics. Please put " ++
    "`from __future__ import division` at the top of your file"

/-- The replacement field `{}` that `build_JoinedStr` writes for each interpolation. -/
def placeholder : String := "\x7b\x7d"

section Leaves
variable (ctx : SourceContext)

/-- `build_Ellipsis` (lines 516–518). -/
def buildEllipsis (pos : Pos) : Except Error TreeView.Expr := do
  let r ← ctx.makeRange pos.lineno pos.colOffset (pos.colOffset + 3)
  pure (.dots r)

/-- `build_Name` (lines 521–532). -/
def buildName (pos : Pos) (id : String) : Except Error TreeView.Expr := do
  let r ← ctx.makeRange pos.lineno pos.colOffset (pos.colOffset + id.length)
  if startsWith id reservedPrefix then
    throw (.notSupportedError r
      ("names of variables used in JIT-ed functions can't start with " ++ reservedPrefix))
  else if id = "True" then pure (.trueLiteral r)
  else if id = "False" then pure (.falseLiteral r)
  else if id = "None" then pure (.noneLiteral r)
  else pure (.var ⟨r, id⟩)

/-- `build_NameConstant` (lines 535–544).  Its `ValueError` arm is unreachable: the value is
always one of the three singletons. -/
def buildNameConstant (pos : Pos) (value : Ast.Singleton) : Except Error TreeView.Expr := do
  let r ← ctx.makeRange pos.lineno pos.colOffset (pos.colOffset + value.pyStr.length)
  match value with
  | .true => pure (.trueLiteral r)
  | .false => pure (.falseLiteral r)
  | .none => pure (.noneLiteral r)

/-- `build_Num` (lines 687–690): the range is as long as `str(n)`. -/
def buildNum (pos : Pos) (n : Ast.Number) : Except Error TreeView.Expr := do
  let value := n.pyStr
  let r ← ctx.makeRange pos.lineno pos.colOffset (pos.colOffset + value.length)
  pure (.const r value)

/-- `build_Str` (lines 710–713). -/
def buildStr (pos : Pos) (s : String) : Except Error TreeView.Expr := do
  let r ← ctx.makeRange pos.lineno pos.colOffset (pos.colOffset + 1)
  pure (.stringLiteral r s)

/-- `build_Constant` (lines 693–707): dispatch on the type of the value; a `complex` or `bytes`
value is rejected. -/
def buildConstant (pos : Pos) : Ast.Constant → Except Error TreeView.Expr
  | .singleton v => buildNameConstant ctx pos v
  | .num (.int n) => buildNum ctx pos (.int n)
  | .num (.float repr) => buildNum ctx pos (.float repr)
  | .str s => buildStr ctx pos s
  | .ellipsis => buildEllipsis ctx pos
  | value@(.num (.complex _)) | value@(.bytes _) => do
    let errorRange ← ctx.makeRange pos.lineno pos.colOffset (pos.colOffset + value.pyStr.length)
    throw (.frontendError errorRange "Unknown Constant expression type")

/-- `build_Attribute` once the base is built (lines 487–497): the name's range starts at the first
non-whitespace byte after `base.range().end + 1`, and is as long as the name in code points. -/
def buildAttribute (base : TreeView.Expr) (attr : String) : Except Error TreeView.Expr :=
  match skipWhitespace ctx.bytes (base.range.stop + 1) with
  | none => throw (.python .indexError "index out of range")
  | some startPos =>
    pure (.select base ⟨ctx.makeRawRange startPos (startPos + attr.length), attr⟩)

/-- `build_Call` once its parts are built (lines 500–513): a `*` argument is appended to the
positional arguments as `Starred`. -/
def buildCall (func : TreeView.Expr) (args : List TreeView.Expr)
    (stararg : Option TreeView.Expr) (kwargs : List (TreeView.Ident × TreeView.Expr)) :
    TreeView.Expr :=
  .apply func (args ++ stararg.toList.map fun e => .starred e.range e) kwargs

/-- One keyword argument of `build_Call` once its value is built (lines 508–512): a `**`
expansion, whose `arg` is `None`, is rejected. -/
def buildKeyword (arg : Option String) (kwExpr : TreeView.Expr) :
    Except Error (TreeView.Ident × TreeView.Expr) :=
  if arg.getD "" = "" then
    throw (.notSupportedError kwExpr.range "keyword-arg expansion is not supported")
  else pure (⟨kwExpr.range, arg.getD ""⟩, kwExpr)

/-- `build_BinOp` once its operands are built (lines 550–561): `/` needs true division. -/
def buildBinOp (op : Ast.Operator) (lhs rhs : TreeView.Expr) : Except Error TreeView.Expr :=
  if op = .div ∧ ctx.usesTrueDivision = false then
    throw (.frontendError (ctx.makeRawRange lhs.range.stop rhs.range.start) trueDivisionMsg)
  else match binopMap op with
    | none => throw (.notSupportedError (ctx.makeRawRange lhs.range.stop rhs.range.start)
        ("unsupported binary operator: " ++ op.name))
    | some opToken => pure (.binOp opToken lhs rhs)

/-- `build_UnaryOp` once its operand is built (lines 566–572).  `len(op_token)` runs before the
check for `None`, so an operator missing from the table raises `TypeError` there. -/
def buildUnaryOp (pos : Pos) (op : Ast.UnaryOp) (subExpr : TreeView.Expr) :
    Except Error TreeView.Expr :=
  match unopMap op with
  | none => throw (.python .typeError "object of type 'NoneType' has no len()")
  | some opToken => do
    let r ← ctx.makeRange pos.lineno pos.colOffset (pos.colOffset + opToken.length)
    pure (.unaryOp r opToken subExpr)

/-- `build_BoolOp` once its operands are built (lines 579–587): the left fold of `BinOp`. -/
def buildBoolOp (op : Ast.BoolOp) (subExprs : List TreeView.Expr) : Except Error TreeView.Expr :=
  match boolopMap op, subExprs with
  | some opToken, lhs :: rest => pure (rest.foldl (.binOp opToken) lhs)
  | some _, [] => throw (.python .indexError "list index out of range")
  | none, _ => throw (.notSupportedError (ctx.makeRawRange
      (subExprs.getD 0 default).range.stop (subExprs.getD 1 default).range.start)
      ("unsupported boolean operator: " ++ op.name))

/-- One comparison of `build_Compare`'s loop (lines 600–612); `not in` becomes `not (in)`. -/
def compareStep (lhs : TreeView.Expr) (op : Ast.CmpOp) (rhs : TreeView.Expr) :
    Except Error TreeView.Expr :=
  let r := ctx.makeRawRange lhs.range.stop rhs.range.start
  match cmpopMap op with
  | none => throw (.notSupportedError r ("unsupported comparison operator: " ++ op.name))
  | some opToken =>
    if op = .notIn then pure (.unaryOp r "not" (.binOp "in" lhs rhs))
    else pure (.binOp opToken lhs rhs)

/-- The rest of `build_Compare`'s loop once `result` is set (lines 599–617): each further
comparison is conjoined to the result with `and`. -/
def compareLoop (result lhs : TreeView.Expr) :
    List (Ast.CmpOp × TreeView.Expr) → Except Error TreeView.Expr
  | [] => pure result
  | (op, rhs) :: rest => do
    let cmpExpr ← compareStep ctx lhs op rhs
    compareLoop (.binOp "and" result cmpExpr) rhs rest

/-- The range of a list comprehension (line 738): it starts and ends at the node's column. -/
def listCompRange (pos : Pos) : Except Error Range :=
  ctx.makeRange pos.lineno pos.colOffset pos.colOffset

/-- The checks of `build_ListComp` once its range `r` is made (lines 739–743): one generator,
without `if` clauses. -/
def checkListComp (r : Range) (generators : List Ast.Comprehension) : Except Error Unit :=
  if generators.length > 1 then
    throw (.notSupportedError r "multiple comprehension generators not supported yet")
  else match generators with
    | [] => throw (.python .indexError "list index out of range")
    | .mk _ _ ifs :: _ =>
      if ifs.length ≠ 0 then
        throw (.notSupportedError r "comprehension ifs not supported yet")
      else pure ()

/-- The result of `build_JoinedStr` (lines 733–734): `template.format(*args)` as a tree view. -/
def joinedStrCall (pos : Pos) (template : String) (args : List TreeView.Expr) :
    Except Error TreeView.Expr := do
  let r ← ctx.makeRange pos.lineno pos.colOffset (pos.colOffset + 1)
  pure (.apply (.select (.stringLiteral r template) ⟨r, "format"⟩) args [])

end Leaves

/-- `isinstance(value, ast.Tuple)`. -/
def Ast.Expr.isTuple : Ast.Expr → Bool
  | .tuple .. => true
  | _ => false

/-- `isinstance(value, ast.Tuple) or isinstance(value, ast.List)` in `build_Index`. -/
def Ast.Expr.isSequence : Ast.Expr → Bool
  | .tuple .. | .list .. => true
  | _ => false

/-- `isinstance(value, ast.FormattedValue)`. -/
def Ast.Expr.isFormattedValue : Ast.Expr → Bool
  | .formattedValue .. => true
  | _ => false

/-- The text of a literal segment of an f-string: `value.s` when `isinstance(value, ast.Str)`,
which holds of a `Str` and of a `Constant` holding a `str`. -/
def Ast.Expr.strSegment : Ast.Expr → Option String
  | .str _ s | .constant _ (.str s) => some s
  | _ => none

mutual
variable (ctx : SourceContext)

/-- `build_expr(ctx, expr)`: `Builder.__call__` dispatching to the methods of `ExprBuilder`. -/
def buildExpr : Ast.Expr → Except Error TreeView.Expr
  | .attribute _ value attr => do
    let base ← buildExpr value
    buildAttribute ctx base attr
  | .call _ func args starargs keywords => do
    let func ← buildExpr func
    let args ← buildExprs args
    let stararg ← buildOptional starargs
    let kwargs ← buildKeywords keywords
    pure (buildCall func args stararg kwargs)
  | .ellipsis pos => buildEllipsis ctx pos
  | .name pos id => buildName ctx pos id
  | .nameConstant pos value => buildNameConstant ctx pos value
  | .binOp _ left op right => do
    let lhs ← buildExpr left
    let rhs ← buildExpr right
    buildBinOp ctx op lhs rhs
  | .unaryOp pos op operand => do
    let subExpr ← buildExpr operand
    buildUnaryOp ctx pos op subExpr
  | .boolOp _ op values =>
    if values.length < 2 then
      throw (.python .assertionError
        ("expected at least 2 values in BoolOp, but got " ++ toString values.length))
    else do
      let subExprs ← buildExprs values
      buildBoolOp ctx op subExprs
  | .ifExp _ test body orelse => do
    let test ← buildExpr test
    let body ← buildExpr body
    let orelse ← buildExpr orelse
    pure (.ternaryIf test body orelse)
  | .compare _ left (op, comparator) rest => do
    let lhs ← buildExpr left
    let rhs ← buildExpr comparator
    let rest ← buildComparators rest
    let cmpExpr ← compareStep ctx lhs op rhs
    compareLoop ctx cmpExpr rhs rest
  | .subscript _ value slice => do
    let base ← buildExpr value
    buildSubscript base slice
  | .list pos elts => do
    let r ← ctx.makeRange pos.lineno pos.colOffset (pos.colOffset + 1)
    let elts ← buildExprs elts
    pure (.listLiteral r elts)
  | .tuple pos elts => do
    let r ← ctx.makeRange pos.lineno pos.colOffset (pos.colOffset + 1)
    let elts ← buildExprs elts
    pure (.tupleLiteral r elts)
  | .dict pos keys values => do
    let r ← ctx.makeRange pos.lineno pos.colOffset (pos.colOffset + 1)
    let keys ← buildDictKeys keys
    let values ← buildExprs values
    pure (.dictLiteral r keys values)
  | .num pos n => buildNum ctx pos n
  | .constant pos value => buildConstant ctx pos value
  | .str pos s => buildStr ctx pos s
  | .joinedStr pos values => do
    let (template, args) ← buildJoinedStrValues "" [] values
    joinedStrCall ctx pos template args
  | .listComp pos elt generators => do
    let r ← listCompRange ctx pos
    checkListComp r generators
    let eltExpr ← buildExpr elt
    let (targetExpr, iterExpr) ← buildGenerator generators
    pure (.listComp r eltExpr targetExpr iterExpr)
  | .starred pos value => do
    let r ← ctx.makeRange pos.lineno pos.colOffset (pos.colOffset + 1)
    let e ← buildExpr value
    pure (.starred r e)
  | .formattedValue pos .. => unsupportedNodeError ctx "FormattedValue" pos ""
  | .other cls pos => unsupportedNodeError ctx cls.name pos ""

/-- `[build_expr(ctx, e) for e in exprs]`. -/
def buildExprs : List Ast.Expr → Except Error (List TreeView.Expr)
  | [] => pure []
  | e :: es => do
    let e ← buildExpr e
    let es ← buildExprs es
    pure (e :: es)

/-- `build_expr(ctx, e) if e is not None else None`. -/
def buildOptional : Option Ast.Expr → Except Error (Option TreeView.Expr)
  | none => pure none
  | some e => do
    let e ← buildExpr e
    pure (some e)

/-- `[build_expr(ctx, e) for e in expr.keys]` of `build_Dict`: the key of a `**` entry is `None`,
and building it fails. -/
def buildDictKeys : List (Option Ast.Expr) → Except Error (List TreeView.Expr)
  | [] => pure []
  | none :: _ => throw noneNodeError
  | some k :: ks => do
    let k ← buildExpr k
    let ks ← buildDictKeys ks
    pure (k :: ks)

/-- The keyword loop of `build_Call` (lines 507–512). -/
def buildKeywords : List Ast.Keyword → Except Error (List (TreeView.Ident × TreeView.Expr))
  | [] => pure []
  | .mk arg value :: kws => do
    let kwExpr ← buildExpr value
    let kwarg ← buildKeyword arg kwExpr
    let kwargs ← buildKeywords kws
    pure (kwarg :: kwargs)

/-- The comparators of `build_Compare` after the first, with their operators. -/
def buildComparators : List (Ast.CmpOp × Ast.Expr) →
    Except Error (List (Ast.CmpOp × TreeView.Expr))
  | [] => pure []
  | (op, e) :: rest => do
    let e ← buildExpr e
    let rest ← buildComparators rest
    pure ((op, e) :: rest)

/-- `build_Subscript` once its base is built (lines 653–669): a tuple index is `N`-dimensional
indexing, one index per element. -/
def buildSubscript (base : TreeView.Expr) : Ast.Slice → Except Error TreeView.Expr
  | .index v =>
    match v with
    | .tuple _ elts => do
      let indices ← buildExprs elts
      pure (.subscript base indices)
    | v => do
      let e ← buildExpr v
      pure (.subscript base [e])
  | .slice lower upper step => do
    let lower ← buildOptional lower
    let upper ← buildOptional upper
    let step ← buildOptional step
    pure (.subscript base [.sliceExpr base.range lower upper step])
  | .extSlice dims => do
    let subExprs ← buildDims base dims
    pure (.subscript base subExprs)
  | .ellipsis => throw (.notSupportedError base.range "ellipsis is not supported")

/-- One dimension of an extended slice (lines 636–650): `build_Index`, which rejects a tuple or
list index, `build_SliceExpr`, or `Dots`. -/
def buildDim (base : TreeView.Expr) : Ast.Slice → Except Error TreeView.Expr
  | .index v =>
    if v.isSequence then
      throw (.notSupportedError base.range
        "slicing multiple dimensions with sequences not supported yet")
    else buildExpr v
  | .slice lower upper step => do
    let lower ← buildOptional lower
    let upper ← buildOptional upper
    let step ← buildOptional step
    pure (.sliceExpr base.range lower upper step)
  | .ellipsis => pure (.dots base.range)
  | .extSlice _ => throw (.notSupportedError base.range
      "slicing multiple dimensions with <class '_ast.ExtSlice'> not supported")

/-- `build_ExtSlice` (lines 636–650). -/
def buildDims (base : TreeView.Expr) : List Ast.Slice → Except Error (List TreeView.Expr)
  | [] => pure []
  | d :: ds => do
    let e ← buildDim base d
    let es ← buildDims base ds
    pure (e :: es)

/-- The target and iterable of the first generator of a list comprehension (lines 746–748). -/
def buildGenerator : List Ast.Comprehension → Except Error (TreeView.Expr × TreeView.Expr)
  | [] => throw (.python .indexError "list index out of range")
  | .mk target iter _ :: _ => do
    let targetExpr ← buildExpr target
    let iterExpr ← buildExpr iter
    pure (targetExpr, iterExpr)

/-- The loop of `build_JoinedStr` (lines 719–731), from the template `s` and arguments `args` so
far. -/
def buildJoinedStrValues (s : String) (args : List TreeView.Expr) :
    List Ast.Expr → Except Error (String × List TreeView.Expr)
  | [] => pure (s, args)
  | value :: values => do
    let r ← ctx.makeRange value.pos.lineno value.pos.colOffset (value.pos.colOffset + 1)
    match value with
    | .formattedValue _ v conversion formatSpec =>
      if conversion ≠ -1 then
        throw (.notSupportedError r "Don't support conversion in JoinedStr")
      else if formatSpec.isSome then
        throw (.notSupportedError r "Don't support formatting in JoinedStr")
      else do
        let e ← buildExpr v
        buildJoinedStrValues (s ++ placeholder) (args ++ [e]) values
    | value =>
      match value.strSegment with
      | some seg => buildJoinedStrValues (s ++ seg) args values
      | none => throw (.notSupportedError r "Unsupported value in JoinedStr")
end

/-! ### One equation per clause

Each clause of the builders, as an equation that later proofs rewrite with; none of them unfolds
the recursion. -/

section Equations
variable (ctx : SourceContext) (pos : Pos)

@[simp] theorem buildExpr_attribute (value : Ast.Expr) (attr : String) :
    buildExpr ctx (.attribute pos value attr) =
      (buildExpr ctx value >>= fun base => buildAttribute ctx base attr) := rfl

@[simp] theorem buildExpr_call (func : Ast.Expr) (args : List Ast.Expr)
    (starargs : Option Ast.Expr) (keywords : List Ast.Keyword) :
    buildExpr ctx (.call pos func args starargs keywords) = (do
      let func ← buildExpr ctx func
      let args ← buildExprs ctx args
      let stararg ← buildOptional ctx starargs
      let kwargs ← buildKeywords ctx keywords
      pure (buildCall func args stararg kwargs)) := rfl

@[simp] theorem buildExpr_ellipsis : buildExpr ctx (.ellipsis pos) = buildEllipsis ctx pos := rfl

@[simp] theorem buildExpr_name (id : String) : buildExpr ctx (.name pos id) = buildName ctx pos id :=
  rfl

@[simp] theorem buildExpr_nameConstant (value : Ast.Singleton) :
    buildExpr ctx (.nameConstant pos value) = buildNameConstant ctx pos value := rfl

@[simp] theorem buildExpr_binOp (left right : Ast.Expr) (op : Ast.Operator) :
    buildExpr ctx (.binOp pos left op right) = (do
      let lhs ← buildExpr ctx left
      let rhs ← buildExpr ctx right
      buildBinOp ctx op lhs rhs) := rfl

@[simp] theorem buildExpr_unaryOp (op : Ast.UnaryOp) (operand : Ast.Expr) :
    buildExpr ctx (.unaryOp pos op operand) =
      (buildExpr ctx operand >>= buildUnaryOp ctx pos op) := rfl

@[simp] theorem buildExpr_boolOp (op : Ast.BoolOp) (values : List Ast.Expr) :
    buildExpr ctx (.boolOp pos op values) =
      if values.length < 2 then
        throw (.python .assertionError
          ("expected at least 2 values in BoolOp, but got " ++ toString values.length))
      else buildExprs ctx values >>= buildBoolOp ctx op := rfl

@[simp] theorem buildExpr_ifExp (test body orelse : Ast.Expr) :
    buildExpr ctx (.ifExp pos test body orelse) = (do
      let test ← buildExpr ctx test
      let body ← buildExpr ctx body
      let orelse ← buildExpr ctx orelse
      pure (.ternaryIf test body orelse)) := rfl

@[simp] theorem buildExpr_compare (left comparator : Ast.Expr) (op : Ast.CmpOp)
    (rest : List (Ast.CmpOp × Ast.Expr)) :
    buildExpr ctx (.compare pos left (op, comparator) rest) = (do
      let lhs ← buildExpr ctx left
      let rhs ← buildExpr ctx comparator
      let rest ← buildComparators ctx rest
      let cmpExpr ← compareStep ctx lhs op rhs
      compareLoop ctx cmpExpr rhs rest) := rfl

@[simp] theorem buildExpr_subscript (value : Ast.Expr) (slice : Ast.Slice) :
    buildExpr ctx (.subscript pos value slice) =
      (buildExpr ctx value >>= fun base => buildSubscript ctx base slice) := rfl

@[simp] theorem buildExpr_list (elts : List Ast.Expr) :
    buildExpr ctx (.list pos elts) = (do
      let r ← ctx.makeRange pos.lineno pos.colOffset (pos.colOffset + 1)
      let elts ← buildExprs ctx elts
      pure (.listLiteral r elts)) := rfl

@[simp] theorem buildExpr_tuple (elts : List Ast.Expr) :
    buildExpr ctx (.tuple pos elts) = (do
      let r ← ctx.makeRange pos.lineno pos.colOffset (pos.colOffset + 1)
      let elts ← buildExprs ctx elts
      pure (.tupleLiteral r elts)) := rfl

@[simp] theorem buildExpr_dict (keys : List (Option Ast.Expr)) (values : List Ast.Expr) :
    buildExpr ctx (.dict pos keys values) = (do
      let r ← ctx.makeRange pos.lineno pos.colOffset (pos.colOffset + 1)
      let keys ← buildDictKeys ctx keys
      let values ← buildExprs ctx values
      pure (.dictLiteral r keys values)) := rfl

@[simp] theorem buildExpr_num (n : Ast.Number) : buildExpr ctx (.num pos n) = buildNum ctx pos n :=
  rfl

@[simp] theorem buildExpr_str (s : String) : buildExpr ctx (.str pos s) = buildStr ctx pos s :=
  rfl

@[simp] theorem buildExpr_joinedStr (values : List Ast.Expr) :
    buildExpr ctx (.joinedStr pos values) = (buildJoinedStrValues ctx "" [] values >>=
      fun (template, args) => joinedStrCall ctx pos template args) := rfl

@[simp] theorem buildExpr_listComp (elt : Ast.Expr) (generators : List Ast.Comprehension) :
    buildExpr ctx (.listComp pos elt generators) = (do
      let r ← listCompRange ctx pos
      checkListComp r generators
      let eltExpr ← buildExpr ctx elt
      let (targetExpr, iterExpr) ← buildGenerator ctx generators
      pure (.listComp r eltExpr targetExpr iterExpr)) := rfl

@[simp] theorem buildExpr_starred (value : Ast.Expr) :
    buildExpr ctx (.starred pos value) = (do
      let r ← ctx.makeRange pos.lineno pos.colOffset (pos.colOffset + 1)
      let e ← buildExpr ctx value
      pure (.starred r e)) := rfl

@[simp] theorem buildExpr_formattedValue (value : Ast.Expr) (conversion : Int)
    (formatSpec : Option Ast.Expr) :
    buildExpr ctx (.formattedValue pos value conversion formatSpec) =
      unsupportedNodeError ctx "FormattedValue" pos "" := rfl

@[simp] theorem buildExpr_other (cls : Ast.ExprClass) :
    buildExpr ctx (.other cls pos) = unsupportedNodeError ctx cls.name pos "" := rfl

@[simp] theorem buildExprs_nil : buildExprs ctx [] = pure [] := rfl

@[simp] theorem buildExprs_cons (e : Ast.Expr) (es : List Ast.Expr) :
    buildExprs ctx (e :: es) = (do
      let e ← buildExpr ctx e
      let es ← buildExprs ctx es
      pure (e :: es)) := rfl

@[simp] theorem buildOptional_none : buildOptional ctx none = pure none := rfl

@[simp] theorem buildOptional_some (e : Ast.Expr) :
    buildOptional ctx (some e) = (buildExpr ctx e >>= fun e => pure (some e)) := rfl

@[simp] theorem buildDictKeys_nil : buildDictKeys ctx [] = pure [] := rfl

@[simp] theorem buildDictKeys_none (ks : List (Option Ast.Expr)) :
    buildDictKeys ctx (none :: ks) = throw noneNodeError := rfl

@[simp] theorem buildDictKeys_some (k : Ast.Expr) (ks : List (Option Ast.Expr)) :
    buildDictKeys ctx (some k :: ks) = (do
      let k ← buildExpr ctx k
      let ks ← buildDictKeys ctx ks
      pure (k :: ks)) := rfl

@[simp] theorem buildKeywords_nil : buildKeywords ctx [] = pure [] := rfl

@[simp] theorem buildKeywords_cons (arg : Option String) (value : Ast.Expr)
    (kws : List Ast.Keyword) :
    buildKeywords ctx (.mk arg value :: kws) = (do
      let kwExpr ← buildExpr ctx value
      let kwarg ← buildKeyword arg kwExpr
      let kwargs ← buildKeywords ctx kws
      pure (kwarg :: kwargs)) := rfl

@[simp] theorem buildComparators_nil : buildComparators ctx [] = pure [] := rfl

@[simp] theorem buildComparators_cons (op : Ast.CmpOp) (e : Ast.Expr)
    (rest : List (Ast.CmpOp × Ast.Expr)) :
    buildComparators ctx ((op, e) :: rest) = (do
      let e ← buildExpr ctx e
      let rest ← buildComparators ctx rest
      pure ((op, e) :: rest)) := rfl

variable (base : TreeView.Expr)

@[simp] theorem buildSubscript_index_tuple (p : Pos) (elts : List Ast.Expr) :
    buildSubscript ctx base (.index (.tuple p elts)) =
      (buildExprs ctx elts >>= fun indices => pure (.subscript base indices)) := rfl

theorem buildSubscript_index {v : Ast.Expr} (hv : v.isTuple = false) :
    buildSubscript ctx base (.index v) =
      (buildExpr ctx v >>= fun e => pure (.subscript base [e])) := by
  cases v <;> first | rfl | cases hv

@[simp] theorem buildSubscript_slice (lower upper step : Option Ast.Expr) :
    buildSubscript ctx base (.slice lower upper step) = (do
      let lower ← buildOptional ctx lower
      let upper ← buildOptional ctx upper
      let step ← buildOptional ctx step
      pure (.subscript base [.sliceExpr base.range lower upper step])) := rfl

@[simp] theorem buildSubscript_extSlice (dims : List Ast.Slice) :
    buildSubscript ctx base (.extSlice dims) =
      (buildDims ctx base dims >>= fun subExprs => pure (.subscript base subExprs)) := rfl

@[simp] theorem buildSubscript_ellipsis :
    buildSubscript ctx base .ellipsis =
      throw (.notSupportedError base.range "ellipsis is not supported") := rfl

@[simp] theorem buildDim_index (v : Ast.Expr) :
    buildDim ctx base (.index v) =
      if v.isSequence then
        throw (.notSupportedError base.range
          "slicing multiple dimensions with sequences not supported yet")
      else buildExpr ctx v := rfl

@[simp] theorem buildDim_slice (lower upper step : Option Ast.Expr) :
    buildDim ctx base (.slice lower upper step) = (do
      let lower ← buildOptional ctx lower
      let upper ← buildOptional ctx upper
      let step ← buildOptional ctx step
      pure (.sliceExpr base.range lower upper step)) := rfl

@[simp] theorem buildDim_ellipsis : buildDim ctx base .ellipsis = pure (.dots base.range) := rfl

@[simp] theorem buildDim_extSlice (dims : List Ast.Slice) :
    buildDim ctx base (.extSlice dims) = throw (.notSupportedError base.range
      "slicing multiple dimensions with <class '_ast.ExtSlice'> not supported") := rfl

@[simp] theorem buildDims_nil : buildDims ctx base [] = pure [] := rfl

@[simp] theorem buildDims_cons (d : Ast.Slice) (ds : List Ast.Slice) :
    buildDims ctx base (d :: ds) = (do
      let e ← buildDim ctx base d
      let es ← buildDims ctx base ds
      pure (e :: es)) := rfl

@[simp] theorem buildGenerator_nil :
    buildGenerator ctx [] = throw (.python .indexError "list index out of range") := rfl

@[simp] theorem buildGenerator_cons (target iter : Ast.Expr) (ifs : List Ast.Expr)
    (rest : List Ast.Comprehension) :
    buildGenerator ctx (.mk target iter ifs :: rest) = (do
      let targetExpr ← buildExpr ctx target
      let iterExpr ← buildExpr ctx iter
      pure (targetExpr, iterExpr)) := rfl

variable (s : String) (args : List TreeView.Expr)

@[simp] theorem buildJoinedStrValues_nil : buildJoinedStrValues ctx s args [] = pure (s, args) :=
  rfl

@[simp] theorem buildJoinedStrValues_formattedValue (p : Pos) (v : Ast.Expr) (conversion : Int)
    (formatSpec : Option Ast.Expr) (values : List Ast.Expr) :
    buildJoinedStrValues ctx s args (.formattedValue p v conversion formatSpec :: values) =
      (ctx.makeRange p.lineno p.colOffset (p.colOffset + 1) >>= fun r =>
        if conversion ≠ -1 then
          throw (.notSupportedError r "Don't support conversion in JoinedStr")
        else if formatSpec.isSome then
          throw (.notSupportedError r "Don't support formatting in JoinedStr")
        else buildExpr ctx v >>= fun e =>
          buildJoinedStrValues ctx (s ++ placeholder) (args ++ [e]) values) := rfl

theorem buildJoinedStrValues_segment {value : Ast.Expr} (values : List Ast.Expr)
    (hv : value.isFormattedValue = false) :
    buildJoinedStrValues ctx s args (value :: values) =
      (ctx.makeRange value.pos.lineno value.pos.colOffset (value.pos.colOffset + 1) >>= fun r =>
        match value.strSegment with
        | some seg => buildJoinedStrValues ctx (s ++ seg) args values
        | none => throw (.notSupportedError r "Unsupported value in JoinedStr")) := by
  cases value <;> first | rfl | cases hv

end Equations

end JitFrontend
