import Mathlib.Data.List.Basic

/-! # The Python syntax trees the frontend reads

`torch/jit/frontend.py` walks the tree that `ast.parse` returns for one function's source.  This
module gives that tree as Lean data: the node classes of Python 3.8's `ast` module that the builders
dispatch on, with the fields the builders read, and the legacy literal classes (`Num`, `Str`,
`NameConstant`, `Ellipsis`) of the older parsers, which the builders still handle.

Every expression and statement carries its position `(lineno, col_offset)`.  A class for which the
builders have no method is one constructor `other`, holding only its class and position: the
dispatcher (`Builder.__call__`, lines 218–223) reads nothing else of it.

Two parser guarantees are part of the types.  A `Compare` node has at least one operator, and as
many comparators as operators, so it is stored as its first `(op, comparator)` pair and the rest;
a `NameConstant` holds one of Python's three singletons.
-/
namespace JitFrontend
namespace Ast

/-- A node's `lineno` (1-based) and `col_offset` (0-based, in UTF-8 bytes). -/
structure Pos where
  lineno : Nat
  colOffset : Nat
deriving DecidableEq, Repr, Inhabited

/-- The value `n` of a `Num` node.  A `float` or `complex` carries its `str()` rendering, which is
all the builders read of it. -/
inductive Number where
  | int (n : Nat)
  | float (repr : String)
  | complex (repr : String)
deriving DecidableEq, Repr

/-- Python's `str(n)`. -/
def Number.pyStr : Number → String
  | .int n => toString n
  | .float repr => repr
  | .complex repr => repr

/-- `True`, `False` and `None`: the values a `NameConstant` can hold. -/
inductive Singleton where
  | true
  | false
  | none
deriving DecidableEq, Repr

/-- Python's `str(value)`. -/
def Singleton.pyStr : Singleton → String
  | .true => "True"
  | .false => "False"
  | .none => "None"

/-- The value of a `Constant` node (Python 3.8), by its Python type. -/
inductive Constant where
  | singleton (v : Singleton)
  | num (n : Number)
  | str (s : String)
  | bytes (repr : String)
  | ellipsis
deriving DecidableEq, Repr

/-- Python's `str(value)`. -/
def Constant.pyStr : Constant → String
  | .singleton v => v.pyStr
  | .num n => n.pyStr
  | .str s => s
  | .bytes repr => repr
  | .ellipsis => "Ellipsis"

/-- `ast.operator`. -/
inductive Operator where
  | add | sub | mult | matMult | div | mod | pow | lShift | rShift | bitOr | bitXor | bitAnd
  | floorDiv
deriving DecidableEq, Repr

/-- The class name `op.__name__`. -/
def Operator.name : Operator → String
  | .add => "Add" | .sub => "Sub" | .mult => "Mult" | .matMult => "MatMult" | .div => "Div"
  | .mod => "Mod" | .pow => "Pow" | .lShift => "LShift" | .rShift => "RShift"
  | .bitOr => "BitOr" | .bitXor => "BitXor" | .bitAnd => "BitAnd" | .floorDiv => "FloorDiv"

/-- `ast.unaryop`. -/
inductive UnaryOp where
  | invert | not | uAdd | uSub
deriving DecidableEq, Repr

/-- The class name `op.__name__`. -/
def UnaryOp.name : UnaryOp → String
  | .invert => "Invert" | .not => "Not" | .uAdd => "UAdd" | .uSub => "USub"

/-- `ast.boolop`. -/
inductive BoolOp where
  | and | or
deriving DecidableEq, Repr

/-- The class name `op.__name__`. -/
def BoolOp.name : BoolOp → String
  | .and => "And" | .or => "Or"

/-- `ast.cmpop`. -/
inductive CmpOp where
  | eq | notEq | lt | ltE | gt | gtE | is | isNot | in | notIn
deriving DecidableEq, Repr

/-- The class name `op.__name__`. -/
def CmpOp.name : CmpOp → String
  | .eq => "Eq" | .notEq => "NotEq" | .lt => "Lt" | .ltE => "LtE" | .gt => "Gt" | .gtE => "GtE"
  | .is => "Is" | .isNot => "IsNot" | .in => "In" | .notIn => "NotIn"

/-- Expression classes for which `ExprBuilder` has no `build_` method. -/
inductive ExprClass where
  | namedExpr | lambda | set | setComp | dictComp | generatorExp | await | yield | yieldFrom
  | bytes
deriving DecidableEq, Repr

/-- The class name `node.__class__.__name__`. -/
def ExprClass.name : ExprClass → String
  | .namedExpr => "NamedExpr" | .lambda => "Lambda" | .set => "Set" | .setComp => "SetComp"
  | .dictComp => "DictComp" | .generatorExp => "GeneratorExp" | .await => "Await"
  | .yield => "Yield" | .yieldFrom => "YieldFrom" | .bytes => "Bytes"

/-- Statement classes for which `StmtBuilder` has no `build_` method (`FunctionDef` has its own
constructor, since `get_jit_def` reads it). -/
inductive StmtClass where
  | asyncFunctionDef | classDef | asyncFor | asyncWith | try | import | importFrom | global
  | nonlocal
deriving DecidableEq, Repr

/-- The class name `node.__class__.__name__`. -/
def StmtClass.name : StmtClass → String
  | .asyncFunctionDef => "AsyncFunctionDef" | .classDef => "ClassDef" | .asyncFor => "AsyncFor"
  | .asyncWith => "AsyncWith" | .try => "Try" | .import => "Import"
  | .importFrom => "ImportFrom" | .global => "Global" | .nonlocal => "Nonlocal"

mutual
/-- `ast.expr`.  A `Compare` is `left`, its first `(op, comparator)` and the rest. -/
inductive Expr where
  | boolOp (pos : Pos) (op : BoolOp) (values : List Expr)
  | binOp (pos : Pos) (left : Expr) (op : Operator) (right : Expr)
  | unaryOp (pos : Pos) (op : UnaryOp) (operand : Expr)
  | ifExp (pos : Pos) (test body orelse : Expr)
  | dict (pos : Pos) (keys : List (Option Expr)) (values : List Expr)
  | listComp (pos : Pos) (elt : Expr) (generators : List Comprehension)
  | compare (pos : Pos) (left : Expr) (first : CmpOp × Expr) (rest : List (CmpOp × Expr))
  | call (pos : Pos) (func : Expr) (args : List Expr) (starargs : Option Expr)
      (keywords : List Keyword)
  | formattedValue (pos : Pos) (value : Expr) (conversion : Int) (formatSpec : Option Expr)
  | joinedStr (pos : Pos) (values : List Expr)
  | constant (pos : Pos) (value : Constant)
  | attribute (pos : Pos) (value : Expr) (attr : String)
  | subscript (pos : Pos) (value : Expr) (slice : Slice)
  | starred (pos : Pos) (value : Expr)
  | name (pos : Pos) (id : String)
  | list (pos : Pos) (elts : List Expr)
  | tuple (pos : Pos) (elts : List Expr)
  | num (pos : Pos) (n : Number)
  | str (pos : Pos) (s : String)
  | nameConstant (pos : Pos) (value : Singleton)
  | ellipsis (pos : Pos)
  | other (cls : ExprClass) (pos : Pos)

/-- `ast.slice` of Python 3.8, with the `Ellipsis` slice of Python 2. -/
inductive Slice where
  | index (value : Expr)
  | slice (lower upper step : Option Expr)
  | extSlice (dims : List Slice)
  | ellipsis

/-- `ast.comprehension`: one `for target in iter if ...` clause. -/
inductive Comprehension where
  | mk (target iter : Expr) (ifs : List Expr)

/-- `ast.keyword`: `arg` is `None` for a `**` expansion. -/
inductive Keyword where
  | mk (arg : Option String) (value : Expr)
end

instance : Inhabited Expr := ⟨.ellipsis default⟩

/-- Every expression's `(lineno, col_offset)`. -/
def Expr.pos : Expr → Pos
  | .boolOp pos .. | .binOp pos .. | .unaryOp pos .. | .ifExp pos .. | .dict pos ..
  | .listComp pos .. | .compare pos .. | .call pos .. | .formattedValue pos ..
  | .joinedStr pos .. | .constant pos .. | .attribute pos .. | .subscript pos ..
  | .starred pos .. | .name pos .. | .list pos .. | .tuple pos .. | .num pos ..
  | .str pos .. | .nameConstant pos .. | .ellipsis pos | .other _ pos => pos

/-- `ast.arg`: a parameter's name, its `annotation` (`annot`), and its position. -/
structure Arg where
  arg : String
  annot : Option Expr
  pos : Pos

/-- `ast.arguments`.  `kwDefaults` has one entry per keyword-only parameter, `None` when it has
no default. -/
structure Arguments where
  posonlyargs : List Arg
  args : List Arg
  vararg : Option Arg
  kwonlyargs : List Arg
  kwDefaults : List (Option Expr)
  kwarg : Option Arg

/-- `ast.withitem`: `with contextExpr as optionalVars`. -/
structure WithItem where
  contextExpr : Expr
  optionalVars : Option Expr

/-- `ast.stmt`, with the `Print` statement of Python 2. -/
inductive Stmt where
  | functionDef (pos : Pos) (args : Arguments) (body : List Stmt) (decoratorList : List Expr)
      (returns : Option Expr)
  | return (pos : Pos) (value : Option Expr)
  | delete (pos : Pos) (targets : List Expr)
  | assign (pos : Pos) (targets : List Expr) (value : Expr)
  | augAssign (pos : Pos) (target : Expr) (op : Operator) (value : Expr)
  | annAssign (pos : Pos) (target annot : Expr) (value : Option Expr)
  | for (pos : Pos) (target iter : Expr) (body orelse : List Stmt)
  | while (pos : Pos) (test : Expr) (body orelse : List Stmt)
  | if (pos : Pos) (test : Expr) (body orelse : List Stmt)
  | with (pos : Pos) (items : List WithItem) (body : List Stmt)
  | raise (pos : Pos) (exc cause : Option Expr)
  | assert (pos : Pos) (test : Expr) (msg : Option Expr)
  | expr (pos : Pos) (value : Expr)
  | pass (pos : Pos)
  | break (pos : Pos)
  | continue (pos : Pos)
  | print (pos : Pos) (dest : Option Expr) (values : List Expr)
  | other (cls : StmtClass) (pos : Pos)

/-- The fields of a `FunctionDef` node that `build_def` reads. -/
structure FunctionDef where
  pos : Pos
  args : Arguments
  body : List Stmt
  decoratorList : List Expr
  returns : Option Expr

/-- Every statement's `(lineno, col_offset)`. -/
def Stmt.pos : Stmt → Pos
  | .functionDef pos .. | .return pos .. | .delete pos .. | .assign pos .. | .augAssign pos ..
  | .annAssign pos .. | .for pos .. | .while pos .. | .if pos .. | .with pos .. | .raise pos ..
  | .assert pos .. | .expr pos .. | .pass pos | .break pos | .continue pos | .print pos ..
  | .other _ pos => pos

end Ast
end JitFrontend
