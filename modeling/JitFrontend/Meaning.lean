import JitFrontend.ShortCircuit

/-! # The translation keeps Python's meaning

`build_expr` rewrites five kinds of node: a binary and a unary operator become the tree view's
`BinOp` and `UnaryOp` with the operator's token, a boolean operation over `n` operands becomes
a left fold of `and` or `or` (lines 575–587), a chained comparison becomes a conjunction of
pairwise comparisons, with `not in` written `not (… in …)` (lines 596–618), and a conditional
expression becomes `TernaryIf`.  Every other node becomes the tree view's node of the same kind
over its children's translations: a call, an attribute, a subscript with its indices, the
displays, `*e`, and a list comprehension with its target.

`Semantics.py` is Python's meaning of a source expression, in terms of the same backend: every
node runs its children left to right and applies the backend's operation, `and`, `or` and
chained comparisons stop at the first operand or comparison that decides, each operand runs
once, and a target takes its value as Python's do (`Semantics.pyAssign`).  Only the leaves,
names and literals, get their meaning from elsewhere, from `A`: the two languages spell them
differently (`None` may be a name, `1` is a numeral), so the leaves are where the backend has
to agree with Python.

`buildExpr_preserves_meaning` is the theorem that the translation keeps that meaning at every
depth, in every backend: whenever it succeeds, its tree view runs to Python's value and final
state, provided

* the backend evaluates the translation of every leaf as `A` says (`LeavesAgree`);
* it subscripts with several indices as Python does with their tuple (`TupleSubscripts`), the
  convention by which `x[i, j]` becomes a subscript with two indices;
* the expression keeps to what is translated exactly (`SafeExpr`).  The middle operands of a
  chained comparison run twice in the tree view, so they must be able to
  (`buildExpr_compare_reruns_middle_operand` shows what happens otherwise).  Four forms are left
  out: an f-string, which becomes a `str.format` call (`FormatString`); a Python 2 call
  `f(*a, k=v)`, whose `*` argument Python runs after the keywords and the tree view before
  them; a Python 2 `Ellipsis` dimension, which becomes `...` at the subscript's place; and a
  target named `True`, `False` or `None`, which becomes a literal.
-/
namespace JitFrontend
open Ast (Pos)

/-- Names and literals: the nodes without subexpressions. -/
def Ast.Expr.isLeaf : Ast.Expr → Bool
  | .name .. | .constant .. | .num .. | .str .. | .nameConstant .. | .ellipsis .. => true
  | _ => false

/-- `isinstance(e, Starred)`. -/
def Ast.Expr.isStarred : Ast.Expr → Bool
  | .starred .. => true
  | _ => false

/-- Python's spelling of a binary operator. -/
def Ast.Operator.pyToken : Ast.Operator → String
  | .add => "+" | .sub => "-" | .mult => "*" | .matMult => "@" | .div => "/" | .mod => "%"
  | .pow => "**" | .lShift => "<<" | .rShift => ">>" | .bitOr => "|" | .bitXor => "^"
  | .bitAnd => "&" | .floorDiv => "//"

/-- Python's spelling of a unary operator. -/
def Ast.UnaryOp.pyToken : Ast.UnaryOp → String
  | .invert => "~" | .not => "not" | .uAdd => "+" | .uSub => "-"

/-- `binop_map` spells every operator as Python does. -/
theorem binopMap_eq_pyToken (op : Ast.Operator) : binopMap op = some op.pyToken := by
  cases op <;> rfl

/-- `unop_map` spells the operators it has as Python does, and lacks only unary `+`. -/
theorem unopMap_eq_pyToken {op : Ast.UnaryOp} {tok : String} (h : unopMap op = some tok) :
    tok = op.pyToken ∧ op ≠ .uAdd := by
  cases op <;> cases h <;> decide

namespace Semantics
variable {V σ : Type} (S : Semantics V σ) (A : Ast.Expr → σ → V × σ)

mutual
/-- Python's evaluation of an expression.  The operators are Python's: both operands of a
binary operator, `and` and `or` stopping at the deciding operand, a chain stopping at the first
false comparison.  A call runs the function, the positional arguments, the keyword arguments and
then Python 2's `*` argument; an attribute, a subscript and a display run their parts and apply
the backend's operation.  A leaf is as `A` says, and so is every node outside the frontend's
language. -/
def py : Ast.Expr → σ → V × σ
  | .binOp _ left op right, s =>
    let l := py left s
    let r := py right l.2
    (S.binary op.pyToken l.1 r.1, r.2)
  | .unaryOp _ op operand, s =>
    let a := py operand s
    (if op = .not then S.ofBool (!S.truthy a.1) else S.unary op.pyToken a.1, a.2)
  | .boolOp _ op (first :: rest), s => pyBoolOpFrom op (py first s) rest
  | .ifExp _ test body orelse, s =>
    let c := py test s
    if S.truthy c.1 then py body c.2 else py orelse c.2
  | .compare _ left (op, comparator) rest, s =>
    let l := py left s
    let r := py comparator l.2
    pyChainFrom r.1 (S.cmp op l.1 r.1, r.2) rest
  | .call _ func args starargs keywords, s =>
    let f := py func s
    let as := pyList args f.2
    let kws := pyKeywords keywords as.2
    let star := pyOpt starargs kws.2
    S.call f.1 (as.1 ++ (star.1.map S.starred).toList) kws.1 star.2
  | .attribute _ value attr, s =>
    let b := py value s
    S.getattr b.1 attr b.2
  | .subscript pos value sl, s =>
    let b := py value s
    let k := pyKey pos sl b.2
    S.index b.1 [k.1] k.2
  | .starred _ value, s =>
    let a := py value s
    (S.starred a.1, a.2)
  | .list _ elts, s =>
    let a := pyList elts s
    (S.list a.1, a.2)
  | .tuple _ elts, s =>
    let a := pyList elts s
    (S.tuple a.1, a.2)
  | .dict _ keys values, s =>
    let a := dictFrom (pyKeys keys) (pyEach values) s
    (S.dict a.1, a.2)
  | .listComp pos elt generators, s =>
    pyComprehension (py elt) (A (.listComp pos elt generators)) generators s
  | e, s => A e s

/-- The expressions of a list, one after another. -/
def pyList : List Ast.Expr → σ → List V × σ
  | [], s => ([], s)
  | e :: es, s =>
    let a := py e s
    let b := pyList es a.2
    (a.1 :: b.1, b.2)

/-- Each expression of a list as an evaluation of its own. -/
def pyEach : List Ast.Expr → List (σ → V × σ)
  | [] => []
  | e :: es => py e :: pyEach es

def pyOpt : Option Ast.Expr → σ → Option V × σ
  | none, s => (none, s)
  | some e, s =>
    let a := py e s
    (some a.1, a.2)

/-- The keys of a dict display; a `**` entry has none. -/
def pyKeys : List (Option Ast.Expr) → List (σ → Option V × σ)
  | [] => []
  | none :: ks => (fun s => (none, s)) :: pyKeys ks
  | some k :: ks => someKey (py k) :: pyKeys ks

/-- Keyword arguments, one after another; a `**` expansion, which the frontend rejects, goes
under the empty name. -/
def pyKeywords : List Ast.Keyword → σ → List (String × V) × σ
  | [], s => ([], s)
  | .mk arg value :: kws, s =>
    let a := py value s
    let b := pyKeywords kws a.2
    ((arg.getD "", a.1) :: b.1, b.2)

/-- The key a subscript passes: an index's value (a tuple's, for `x[i, j]`), a slice, the tuple
of an extended slice's dimensions, and for Python 2's `Ellipsis` slice the value of `...`. -/
def pyKey (pos : Pos) : Ast.Slice → σ → V × σ
  | .index v, s => py v s
  | .slice lower upper step, s =>
    let a := pyOpt lower s
    let b := pyOpt upper a.2
    let c := pyOpt step b.2
    (S.slice a.1 b.1 c.1, c.2)
  | .extSlice dims, s =>
    let a := pyDims pos dims s
    (S.tuple a.1, a.2)
  | .ellipsis, s => A (.ellipsis pos) s

/-- The dimensions of an extended slice, one after another. -/
def pyDims (pos : Pos) : List Ast.Slice → σ → List V × σ
  | [], s => ([], s)
  | d :: ds, s =>
    let a := pyKey pos d s
    let b := pyDims pos ds a.2
    (a.1 :: b.1, b.2)

/-- A list comprehension whose element runs as `body`: one generator without `if` clauses binds
each element of its iterable's value to its target and runs `body`.  Every other form, which
the frontend rejects, runs as `other`. -/
def pyComprehension (body other : σ → V × σ) : List Ast.Comprehension → σ → V × σ
  | [.mk target iter []], s =>
    let it := py iter s
    S.comprehension it.1 (fun x s => body (pyAssign target x s)) it.2
  | _, s => other s

/-- The rest of a boolean operation once the operands before `es` have run to `r`. -/
def pyBoolOpFrom (op : Ast.BoolOp) : V × σ → List Ast.Expr → V × σ
  | r, [] => r
  | r, e :: es => if S.truthy r.1 = op.decidesOn then r else pyBoolOpFrom op (py e r.2) es

/-- The rest of a chained comparison once the comparisons before `rest` have run to `result`,
the last operand having value `prev`. -/
def pyChainFrom (prev : V) (result : V × σ) : List (Ast.CmpOp × Ast.Expr) → V × σ
  | [] => result
  | (op, e) :: rest =>
    if S.truthy result.1 then
      pyChainFrom (py e result.2).1 (S.cmp op prev (py e result.2).1, (py e result.2).2) rest
    else result

/-- Python's assignment of a value to a target: a name stores it, a tuple or list unpacks it
into its elements, and an attribute or a subscript runs its object and key, then sets. -/
def pyAssign : Ast.Expr → V → σ → σ
  | .name _ id, v, s => S.store id v s
  | .tuple _ elts, v, s | .list _ elts, v, s =>
    pyAssignList elts (S.unpack v (elts.map Ast.Expr.isStarred)) s
  | .starred _ value, v, s => pyAssign value v s
  | .attribute _ value attr, v, s =>
    let b := py value s
    S.setattr b.1 attr v b.2
  | .subscript pos value sl, v, s =>
    let b := py value s
    let k := pyKey pos sl b.2
    S.setitem b.1 [k.1] v k.2
  | _, _, s => s

/-- Values assigned to targets, one after another. -/
def pyAssignList : List Ast.Expr → List V → σ → σ
  | e :: es, v :: vs, s => pyAssignList es vs (pyAssign e v s)
  | _, _, s => s
end

/-! ### One equation per node -/

section Equations
variable (pos : Pos) (s : σ)

@[simp] theorem py_call (func : Ast.Expr) (args : List Ast.Expr) (starargs : Option Ast.Expr)
    (keywords : List Ast.Keyword) :
    S.py A (.call pos func args starargs keywords) s =
      let f := S.py A func s
      let as := S.pyList A args f.2
      let kws := S.pyKeywords A keywords as.2
      let star := S.pyOpt A starargs kws.2
      S.call f.1 (as.1 ++ (star.1.map S.starred).toList) kws.1 star.2 := rfl

@[simp] theorem py_attribute (value : Ast.Expr) (attr : String) :
    S.py A (.attribute pos value attr) s = S.getattr (S.py A value s).1 attr (S.py A value s).2 :=
  rfl

@[simp] theorem py_subscript (value : Ast.Expr) (sl : Ast.Slice) :
    S.py A (.subscript pos value sl) s =
      let b := S.py A value s
      let k := S.pyKey A pos sl b.2
      S.index b.1 [k.1] k.2 := rfl

@[simp] theorem py_starred (value : Ast.Expr) :
    S.py A (.starred pos value) s = (S.starred (S.py A value s).1, (S.py A value s).2) := rfl

@[simp] theorem py_list (elts : List Ast.Expr) :
    S.py A (.list pos elts) s = (S.list (S.pyList A elts s).1, (S.pyList A elts s).2) := rfl

@[simp] theorem py_tuple (elts : List Ast.Expr) :
    S.py A (.tuple pos elts) s = (S.tuple (S.pyList A elts s).1, (S.pyList A elts s).2) := rfl

@[simp] theorem py_dict (keys : List (Option Ast.Expr)) (values : List Ast.Expr) :
    S.py A (.dict pos keys values) s =
      let a := dictFrom (S.pyKeys A keys) (S.pyEach A values) s
      (S.dict a.1, a.2) := rfl

@[simp] theorem py_listComp (elt target iter : Ast.Expr) :
    S.py A (.listComp pos elt [.mk target iter []]) s =
      S.comprehension (S.py A iter s).1 (fun x s => S.py A elt (S.pyAssign A target x s))
        (S.py A iter s).2 := rfl

@[simp] theorem pyList_nil : S.pyList A [] s = ([], s) := rfl

@[simp] theorem pyList_cons (e : Ast.Expr) (es : List Ast.Expr) :
    S.pyList A (e :: es) s =
      ((S.py A e s).1 :: (S.pyList A es (S.py A e s).2).1, (S.pyList A es (S.py A e s).2).2) :=
  rfl

@[simp] theorem pyEach_nil : S.pyEach A [] = [] := rfl

@[simp] theorem pyEach_cons (e : Ast.Expr) (es : List Ast.Expr) :
    S.pyEach A (e :: es) = S.py A e :: S.pyEach A es := rfl

@[simp] theorem pyOpt_none : S.pyOpt A none s = (none, s) := rfl

@[simp] theorem pyOpt_some (e : Ast.Expr) :
    S.pyOpt A (some e) s = (some (S.py A e s).1, (S.py A e s).2) := rfl

@[simp] theorem pyKeys_some (k : Ast.Expr) (ks : List (Option Ast.Expr)) :
    S.pyKeys A (some k :: ks) = someKey (S.py A k) :: S.pyKeys A ks := rfl

@[simp] theorem pyKeywords_nil : S.pyKeywords A [] s = ([], s) := rfl

@[simp] theorem pyKeywords_cons (arg : Option String) (value : Ast.Expr) (kws : List Ast.Keyword) :
    S.pyKeywords A (.mk arg value :: kws) s =
      ((arg.getD "", (S.py A value s).1) :: (S.pyKeywords A kws (S.py A value s).2).1,
        (S.pyKeywords A kws (S.py A value s).2).2) := rfl

@[simp] theorem pyKey_index (v : Ast.Expr) : S.pyKey A pos (.index v) s = S.py A v s := rfl

@[simp] theorem pyKey_slice (lower upper step : Option Ast.Expr) :
    S.pyKey A pos (.slice lower upper step) s =
      let a := S.pyOpt A lower s
      let b := S.pyOpt A upper a.2
      let c := S.pyOpt A step b.2
      (S.slice a.1 b.1 c.1, c.2) := rfl

@[simp] theorem pyKey_extSlice (dims : List Ast.Slice) :
    S.pyKey A pos (.extSlice dims) s =
      (S.tuple (S.pyDims A pos dims s).1, (S.pyDims A pos dims s).2) := rfl

@[simp] theorem pyDims_cons (d : Ast.Slice) (ds : List Ast.Slice) :
    S.pyDims A pos (d :: ds) s =
      ((S.pyKey A pos d s).1 :: (S.pyDims A pos ds (S.pyKey A pos d s).2).1,
        (S.pyDims A pos ds (S.pyKey A pos d s).2).2) := rfl

variable (v : V)

@[simp] theorem pyAssign_name (id : String) : S.pyAssign A (.name pos id) v s = S.store id v s :=
  rfl

@[simp] theorem pyAssign_tuple (elts : List Ast.Expr) :
    S.pyAssign A (.tuple pos elts) v s =
      S.pyAssignList A elts (S.unpack v (elts.map Ast.Expr.isStarred)) s := rfl

@[simp] theorem pyAssign_list (elts : List Ast.Expr) :
    S.pyAssign A (.list pos elts) v s =
      S.pyAssignList A elts (S.unpack v (elts.map Ast.Expr.isStarred)) s := rfl

@[simp] theorem pyAssign_starred (value : Ast.Expr) :
    S.pyAssign A (.starred pos value) v s = S.pyAssign A value v s := rfl

@[simp] theorem pyAssign_attribute (value : Ast.Expr) (attr : String) :
    S.pyAssign A (.attribute pos value attr) v s =
      S.setattr (S.py A value s).1 attr v (S.py A value s).2 := rfl

@[simp] theorem pyAssign_subscript (value : Ast.Expr) (sl : Ast.Slice) :
    S.pyAssign A (.subscript pos value sl) v s =
      let b := S.py A value s
      let k := S.pyKey A pos sl b.2
      S.setitem b.1 [k.1] v k.2 := rfl

@[simp] theorem pyAssignList_cons (e : Ast.Expr) (es : List Ast.Expr) (vs : List V) :
    S.pyAssignList A (e :: es) (v :: vs) s = S.pyAssignList A es vs (S.pyAssign A e v s) := rfl

end Equations

/-- Running `e` again right after it ran, in Python's evaluation, gives the same value and
state. -/
def PyIdempotent (e : Ast.Expr) : Prop := ∀ s, S.py A e (S.py A e s).2 = S.py A e s

mutual
/-- The expressions whose translation keeps their meaning exactly, at every depth: the middle
operands of every chained comparison can run twice, there is no f-string, no Python 2 call with
both a `*` argument and keywords, no Python 2 `Ellipsis` dimension, and every comprehension's
target is one `SafeTarget` accepts. -/
def SafeExpr : Ast.Expr → Prop
  | .binOp _ left _ right => SafeExpr left ∧ SafeExpr right
  | .unaryOp _ _ operand | .attribute _ operand _ | .starred _ operand => SafeExpr operand
  | .boolOp _ _ values | .list _ values | .tuple _ values => SafeExprs values
  | .ifExp _ test body orelse => SafeExpr test ∧ SafeExpr body ∧ SafeExpr orelse
  | .compare _ left (_, comparator) rest =>
    SafeExpr left ∧ SafeExpr comparator ∧ SafeRest rest ∧
      ∀ m ∈ (comparator :: rest.map Prod.snd).dropLast, S.PyIdempotent A m
  | .call _ func args starargs keywords =>
    SafeExpr func ∧ SafeExprs args ∧ SafeOpt starargs ∧ SafeKeywords keywords ∧
      (starargs = none ∨ keywords = [])
  | .subscript _ value sl => SafeExpr value ∧ SafeSlice sl
  | .dict _ keys values => SafeKeys keys ∧ SafeExprs values
  | .listComp _ elt generators => SafeExpr elt ∧ SafeGenerators generators
  | .joinedStr .. => False
  | _ => True

/-- `SafeExpr` of every expression of a list. -/
def SafeExprs : List Ast.Expr → Prop
  | [] => True
  | e :: es => SafeExpr e ∧ SafeExprs es

def SafeOpt : Option Ast.Expr → Prop
  | none => True
  | some e => SafeExpr e

/-- `SafeExpr` of every key of a dict display. -/
def SafeKeys : List (Option Ast.Expr) → Prop
  | [] => True
  | k :: ks => SafeOpt k ∧ SafeKeys ks

/-- `SafeExpr` of every keyword argument's value. -/
def SafeKeywords : List Ast.Keyword → Prop
  | [] => True
  | .mk _ value :: kws => SafeExpr value ∧ SafeKeywords kws

/-- `SafeExpr` of every comparator of a chain. -/
def SafeRest : List (Ast.CmpOp × Ast.Expr) → Prop
  | [] => True
  | (_, e) :: rest => SafeExpr e ∧ SafeRest rest

/-- `SafeExpr` of every part of a subscript's key. -/
def SafeSlice : Ast.Slice → Prop
  | .index v => SafeExpr v
  | .slice lower upper step => SafeOpt lower ∧ SafeOpt upper ∧ SafeOpt step
  | .extSlice dims => SafeDims dims
  | .ellipsis => True

/-- The dimensions of an extended slice: none is Python 2's `Ellipsis`. -/
def SafeDims : List Ast.Slice → Prop
  | [] => True
  | .ellipsis :: _ => False
  | d :: ds => SafeSlice d ∧ SafeDims ds

/-- The first generator of a comprehension, the only one translated. -/
def SafeGenerators : List Ast.Comprehension → Prop
  | [] => True
  | .mk target iter _ :: _ => SafeTarget target ∧ SafeExpr iter

/-- The targets whose translation takes a value as they do: names other than `True`, `False`
and `None`, tuples and lists of such targets, starred ones, and attributes and subscripts of
expressions `SafeExpr` accepts. -/
def SafeTarget : Ast.Expr → Prop
  | .name _ id => id ≠ "True" ∧ id ≠ "False" ∧ id ≠ "None"
  | .tuple _ elts | .list _ elts => SafeTargets elts
  | .starred _ value => SafeTarget value
  | .attribute _ value _ => SafeExpr value
  | .subscript _ value sl => SafeExpr value ∧ SafeSlice sl
  | _ => False

/-- `SafeTarget` of every target of a list. -/
def SafeTargets : List Ast.Expr → Prop
  | [] => True
  | t :: ts => SafeTarget t ∧ SafeTargets ts
end

/-- A tree view runs as the source expression means. -/
def RunsAs (e : Ast.Expr) (ir : TreeView.Expr) : Prop := ∀ s, S.run ir s = S.py A e s

/-- A tree-view target takes every value as the source target does, and is starred when the
source is. -/
def AssignsAs (t : Ast.Expr) (t' : TreeView.Expr) : Prop :=
  t'.isStarred = t.isStarred ∧ ∀ v s, S.assign t' v s = S.pyAssign A t v s

/-- The backend evaluates the translation of every leaf, a name or a literal, as `A` says. -/
def LeavesAgree (ctx : SourceContext) : Prop :=
  ∀ e ir, e.isLeaf = true → buildExpr ctx e = .ok ir → ∀ s, S.leaf ir s = A e s

/-- The indices a tree-view subscript runs to, against the key Python's runs to: the same state,
and the key alone or the key as the tuple of the indices. -/
def KeyAgrees (idxs : List V × σ) (key : V × σ) : Prop :=
  idxs.2 = key.2 ∧ (idxs.1 = [key.1] ∨ key.1 = S.tuple idxs.1)

/-! ### Keys and lists -/

section Keys
variable {S} (hT : S.TupleSubscripts) {idxs : List V} {key : V}
  (h : idxs = [key] ∨ key = S.tuple idxs)
include hT h

theorem index_of_key (b : V) (s : σ) : S.index b idxs s = S.index b [key] s := by
  obtain he | he := h
  · rw [he]
  · rw [he, hT.index]

theorem setitem_of_key (b v : V) (s : σ) : S.setitem b idxs v s = S.setitem b [key] v s := by
  obtain he | he := h
  · rw [he]
  · rw [he, hT.setitem]

theorem delitem_of_key (b : V) (s : σ) : S.delitem b idxs s = S.delitem b [key] s := by
  obtain he | he := h
  · rw [he]
  · rw [he, hT.delitem]

end Keys

variable {A}

theorem runList_forall₂ {es : List Ast.Expr} {irs : List TreeView.Expr}
    (h : List.Forall₂ (S.RunsAs A) es irs) : ∀ s, S.runList irs s = S.pyList A es s := by
  induction h with
  | nil => exact fun _ => rfl
  | cons he _ ih => intro s; simp only [runList_cons, pyList_cons, he s, ih]

theorem runEach_forall₂ {es : List Ast.Expr} {irs : List TreeView.Expr}
    (h : List.Forall₂ (S.RunsAs A) es irs) : S.runEach irs = S.pyEach A es := by
  induction h with
  | nil => rfl
  | cons he _ ih => simp only [runEach_cons, pyEach_cons, funext he, ih]

theorem runOpt_rel {o : Option Ast.Expr} {o' : Option TreeView.Expr}
    (h : Option.Rel (S.RunsAs A) o o') : ∀ s, S.runOpt o' s = S.pyOpt A o s := by
  cases h with
  | none => exact fun _ => rfl
  | some he => intro s; simp only [runOpt_some, pyOpt_some, he s]

theorem assignList_forall₂ {ts : List Ast.Expr} {ts' : List TreeView.Expr}
    (h : List.Forall₂ (S.AssignsAs A) ts ts') :
    ∀ vs s, S.assignList ts' vs s = S.pyAssignList A ts vs s := by
  induction h with
  | nil => exact fun _ _ => rfl
  | cons he _ ih =>
    rintro (_ | ⟨v, vs⟩) s
    · rfl
    · simp only [assignList_cons, pyAssignList_cons, he.2 v s, ih]

theorem isStarred_forall₂ {ts : List Ast.Expr} {ts' : List TreeView.Expr}
    (h : List.Forall₂ (S.AssignsAs A) ts ts') :
    ts'.map TreeView.Expr.isStarred = ts.map Ast.Expr.isStarred := by
  induction h with
  | nil => rfl
  | cons he _ ih => simp only [List.map_cons, he.1, ih]

/-- Operands that run as their sources mean give Python's boolean operation. -/
theorem boolOpFrom_forall₂ (op : Ast.BoolOp) {es : List Ast.Expr} {irs : List TreeView.Expr}
    (h : List.Forall₂ (S.RunsAs A) es irs) :
    ∀ r, S.boolOpFrom op r irs = S.pyBoolOpFrom A op r es := by
  induction h with
  | nil => intro r; rfl
  | cons he _ ih =>
    intro r
    simp only [boolOpFrom, pyBoolOpFrom, he _, ih]

/-- Comparators that run as their sources mean give Python's chain, from any operand on. -/
theorem chain_forall₂ {rest : List (Ast.CmpOp × Ast.Expr)} {cs : List (Ast.CmpOp × TreeView.Expr)}
    (h : List.Forall₂ (fun p q => p.1 = q.1 ∧ S.RunsAs A p.2 q.2) rest cs) :
    ∀ (v : V) (op : Ast.CmpOp) (m : Ast.Expr) (rhs : TreeView.Expr), S.RunsAs A m rhs →
      ∀ s, S.chain v op rhs cs s =
        S.pyChainFrom A (S.py A m s).1 (S.cmp op v (S.py A m s).1, (S.py A m s).2) rest := by
  induction h with
  | nil => intro v op m rhs hm s; simp only [chain, hm s, pyChainFrom]
  | @cons p q _ _ hpq _ ih =>
    intro v op m rhs hm s
    obtain ⟨op', m'⟩ := p
    obtain ⟨op'', rhs'⟩ := q
    obtain ⟨rfl, hm'⟩ := hpq
    simp only [chain, hm s, pyChainFrom, ih _ _ _ _ hm']

/-- Where Python's middle operands can run twice, so can their translations. -/
theorem idempotent_forall₂ {rest : List (Ast.CmpOp × Ast.Expr)}
    {cs : List (Ast.CmpOp × TreeView.Expr)}
    (h : List.Forall₂ (fun p q => p.1 = q.1 ∧ S.RunsAs A p.2 q.2) rest cs) :
    ∀ (m : Ast.Expr) (rhs : TreeView.Expr), S.RunsAs A m rhs →
      (∀ m' ∈ (m :: rest.map Prod.snd).dropLast, S.PyIdempotent A m') →
      ∀ e ∈ (rhs :: cs.map Prod.snd).dropLast, S.Idempotent e := by
  induction h with
  | nil => intro _ _ _ _ e he; simp at he
  | cons hpq _ ih =>
    intro m rhs hm hidem
    simp only [List.map_cons, List.dropLast_cons₂, List.mem_cons, forall_eq_or_imp] at hidem ⊢
    refine ⟨fun s => ?_, ih _ _ hpq.2 hidem.2⟩
    simp only [hm _, hidem.1 s]

end Semantics

/-! ## The builders' rewrites -/

section Rewrites
variable (ctx : SourceContext)

theorem buildBinOp_eq {op : Ast.Operator} {lhs rhs ir : TreeView.Expr}
    (h : buildBinOp ctx op lhs rhs = .ok ir) : ir = .binOp op.pyToken lhs rhs := by
  unfold buildBinOp at h
  split_ifs at h
  rw [binopMap_eq_pyToken] at h
  exact (Except.ok.inj h).symm

theorem buildUnaryOp_eq {pos : Pos} {op : Ast.UnaryOp} {e ir : TreeView.Expr}
    (h : buildUnaryOp ctx pos op e = .ok ir) : ∃ r, ir = .unaryOp r op.pyToken e := by
  unfold buildUnaryOp at h
  split at h
  · cases h
  · rename_i tok htok
    obtain ⟨r, -, h⟩ := except_bind_eq_ok.1 h
    cases h
    exact ⟨r, by rw [(unopMap_eq_pyToken htok).1]⟩

theorem buildAttribute_eq {base ir : TreeView.Expr} {attr : String}
    (h : buildAttribute ctx base attr = .ok ir) : ∃ r, ir = .select base ⟨r, attr⟩ := by
  unfold buildAttribute at h
  split at h
  · cases h
  · cases h
    exact ⟨_, rfl⟩

theorem buildKeyword_eq {arg : Option String} {kwExpr : TreeView.Expr}
    {kw : TreeView.Ident × TreeView.Expr} (h : buildKeyword arg kwExpr = .ok kw) :
    kw = (⟨kwExpr.range, arg.getD ""⟩, kwExpr) := by
  unfold buildKeyword at h
  split_ifs at h
  exact (Except.ok.inj h).symm

/-- A name other than the three constants translates to a variable of the same name. -/
theorem buildName_var {pos : Pos} {id : String} {ir : TreeView.Expr}
    (hid : id ≠ "True" ∧ id ≠ "False" ∧ id ≠ "None") (h : buildExpr ctx (.name pos id) = .ok ir) :
    ∃ r, ir = .var ⟨r, id⟩ := by
  obtain ⟨r, -, h⟩ := except_bind_eq_ok.1 h
  simp only [hid.1, hid.2.1, hid.2.2, if_false] at h
  split_ifs at h
  cases h
  exact ⟨r, rfl⟩

/-- The checks of `build_ListComp` pass only on one generator without `if` clauses. -/
theorem checkListComp_ok {r : Range} {target iter : Ast.Expr} {ifs : List Ast.Expr}
    {rest : List Ast.Comprehension} {u : Unit}
    (h : checkListComp r (.mk target iter ifs :: rest) = .ok u) : rest = [] ∧ ifs = [] := by
  unfold checkListComp at h
  by_cases hlen : (Ast.Comprehension.mk target iter ifs :: rest).length > 1
  · rw [if_pos hlen] at h
    cases h
  rw [if_neg hlen] at h
  dsimp only at h
  by_cases hifs : ifs.length ≠ 0
  · rw [if_pos hifs] at h
    cases h
  simp only [List.length_cons, gt_iff_lt, Nat.lt_add_left_iff_pos, Nat.pos_iff_ne_zero, not_not,
    List.length_eq_zero] at hlen hifs
  exact ⟨hlen, hifs⟩

/-- A leaf translates to a leaf of the tree view, which the backend evaluates. -/
theorem run_buildLeaf {V σ : Type} (S : Semantics V σ) {e : Ast.Expr} {ir : TreeView.Expr}
    (he : e.isLeaf = true) (h : buildExpr ctx e = .ok ir) (s : σ) : S.run ir s = S.leaf ir s := by
  match e, he with
  | .name .., _ =>
    obtain ⟨_, -, h⟩ := except_bind_eq_ok.1 h
    split_ifs at h <;> cases h <;> rfl
  | .nameConstant _ v, _ =>
    obtain ⟨_, -, h⟩ := except_bind_eq_ok.1 h
    cases v <;> cases h <;> rfl
  | .num .., _ | .str .., _ | .ellipsis _, _ =>
    obtain ⟨_, -, h⟩ := except_bind_eq_ok.1 h
    cases h
    rfl
  | .constant _ c, _ =>
    rcases c with v | (n | n | n) | str | repr | _ <;> obtain ⟨_, -, h⟩ := except_bind_eq_ok.1 h
    · cases v <;> cases h <;> rfl
    all_goals cases h
    all_goals rfl

end Rewrites

/-! ## One form at a time

Each lemma takes what the induction knows of a form's parts (that they run, or take a value, as
their sources do, whenever they translate) to the form itself: the step of
`buildExpr_runsAs` at one node. -/

section Forms
open Semantics
variable {ctx : SourceContext} {V σ : Type} {S : Semantics V σ} {A : Ast.Expr → σ → V × σ}
  {pos : Pos} {ir : TreeView.Expr}

theorem runsAs_binOp {left right : Ast.Expr} {op : Ast.Operator}
    (hl : ∀ {l}, buildExpr ctx left = .ok l → S.RunsAs A left l)
    (hr : ∀ {r}, buildExpr ctx right = .ok r → S.RunsAs A right r)
    (h : buildExpr ctx (.binOp pos left op right) = .ok ir) :
    S.RunsAs A (.binOp pos left op right) ir := by
  rw [buildExpr_binOp] at h
  obtain ⟨l, hl', h⟩ := except_bind_eq_ok.1 h
  obtain ⟨r, hr', h⟩ := except_bind_eq_ok.1 h
  cases buildBinOp_eq ctx h
  intro s
  have hand : op.pyToken ≠ "and" ∧ op.pyToken ≠ "or" := by cases op <;> decide
  rw [S.run_binary hand.1 hand.2, hl hl', hr hr']
  rfl

theorem runsAs_unaryOp {op : Ast.UnaryOp} {operand : Ast.Expr}
    (ih : ∀ {e}, buildExpr ctx operand = .ok e → S.RunsAs A operand e)
    (h : buildExpr ctx (.unaryOp pos op operand) = .ok ir) :
    S.RunsAs A (.unaryOp pos op operand) ir := by
  rw [buildExpr_unaryOp] at h
  obtain ⟨e, he, h⟩ := except_bind_eq_ok.1 h
  obtain ⟨r, rfl⟩ := buildUnaryOp_eq ctx h
  intro s
  have hnot : (op.pyToken = "not") = (op = .not) := by cases op <;> decide
  show (_, _) = (_, _)
  simp only [hnot, ih he s]

theorem runsAs_boolOp {op : Ast.BoolOp} {values : List Ast.Expr}
    (ih : ∀ {es}, buildExprs ctx values = .ok es → List.Forall₂ (S.RunsAs A) values es)
    (h : buildExpr ctx (.boolOp pos op values) = .ok ir) :
    S.RunsAs A (.boolOp pos op values) ir := by
  rw [buildExpr_boolOp] at h
  split at h
  · cases h
  · rename_i hlen
    obtain ⟨subExprs, hsub, h⟩ := except_bind_eq_ok.1 h
    cases ih hsub with
    | nil => exact absurd (by decide) hlen
    | cons hfirst hrest =>
      obtain ⟨tok, htok, hbuild⟩ := buildBoolOp_cons ctx op _ _
      rw [hbuild] at h
      cases h
      intro s
      rw [S.run_foldl_boolOp htok, S.boolOpFrom_forall₂ op hrest, hfirst s]
      rfl

theorem runsAs_ifExp {test body orelse : Ast.Expr}
    (ht : ∀ {e}, buildExpr ctx test = .ok e → S.RunsAs A test e)
    (hb : ∀ {e}, buildExpr ctx body = .ok e → S.RunsAs A body e)
    (ho : ∀ {e}, buildExpr ctx orelse = .ok e → S.RunsAs A orelse e)
    (h : buildExpr ctx (.ifExp pos test body orelse) = .ok ir) :
    S.RunsAs A (.ifExp pos test body orelse) ir := by
  rw [buildExpr_ifExp] at h
  obtain ⟨t, ht', h⟩ := except_bind_eq_ok.1 h
  obtain ⟨b, hb', h⟩ := except_bind_eq_ok.1 h
  obtain ⟨o, ho', h⟩ := except_bind_eq_ok.1 h
  cases h
  intro s
  show (if _ then _ else _) = (if _ then _ else _)
  rw [ht ht' s, hb hb', ho ho']

/-- A chain whose middle operands can run twice runs as Python's chain. -/
theorem runsAs_compare {left comparator : Ast.Expr} {op : Ast.CmpOp}
    {rest : List (Ast.CmpOp × Ast.Expr)}
    (hl : ∀ {e}, buildExpr ctx left = .ok e → S.RunsAs A left e)
    (hr : ∀ {e}, buildExpr ctx comparator = .ok e → S.RunsAs A comparator e)
    (hrest : ∀ {cs}, buildComparators ctx rest = .ok cs →
      List.Forall₂ (fun p q => p.1 = q.1 ∧ S.RunsAs A p.2 q.2) rest cs)
    (hidem : ∀ m ∈ (comparator :: rest.map Prod.snd).dropLast, S.PyIdempotent A m)
    (h : buildExpr ctx (.compare pos left (op, comparator) rest) = .ok ir) :
    S.RunsAs A (.compare pos left (op, comparator) rest) ir := by
  rw [buildExpr_compare] at h
  obtain ⟨l, hl', h⟩ := except_bind_eq_ok.1 h
  obtain ⟨r, hr', h⟩ := except_bind_eq_ok.1 h
  obtain ⟨cs, hcs, h⟩ := except_bind_eq_ok.1 h
  obtain ⟨c, hc, h⟩ := except_bind_eq_ok.1 h
  intro s
  have hidem' := S.idempotent_forall₂ (hrest hcs) comparator r (hr hr') hidem
  cases hrest hcs with
  | nil =>
    cases h
    simp only [run_compareStep ctx S hc, hl hl' s, hr hr' _]
    rfl
  | @cons p q rest' cs' hpq htail =>
    obtain ⟨op', m'⟩ := p
    obtain ⟨op'', rhs'⟩ := q
    obtain ⟨rfl, hm'⟩ := hpq
    simp only [List.map_cons, List.dropLast_cons₂, List.mem_cons, forall_eq_or_imp] at hidem hidem'
    simp only [run_compareLoop ctx S hidem'.2 h, run_compareStep ctx S hc, hl hl' s, hr hr' _,
      hidem.1 _, S.chain_forall₂ htail _ _ _ _ hm']
    rfl

/-- A call runs as Python's when its `*` argument and its keywords do not both occur. -/
theorem runsAs_call {func : Ast.Expr} {args : List Ast.Expr} {starargs : Option Ast.Expr}
    {keywords : List Ast.Keyword}
    (hf : ∀ {e}, buildExpr ctx func = .ok e → S.RunsAs A func e)
    (has : ∀ {es}, buildExprs ctx args = .ok es → List.Forall₂ (S.RunsAs A) args es)
    (hsa : ∀ {o}, buildOptional ctx starargs = .ok o → Option.Rel (S.RunsAs A) starargs o)
    (hkws : ∀ {kws}, buildKeywords ctx keywords = .ok kws →
      ∀ s, S.runAttributes kws s = S.pyKeywords A keywords s)
    (horder : starargs = none ∨ keywords = [])
    (h : buildExpr ctx (.call pos func args starargs keywords) = .ok ir) :
    S.RunsAs A (.call pos func args starargs keywords) ir := by
  rw [buildExpr_call] at h
  obtain ⟨f, hf', h⟩ := except_bind_eq_ok.1 h
  obtain ⟨as, has', h⟩ := except_bind_eq_ok.1 h
  obtain ⟨sa, hsa', h⟩ := except_bind_eq_ok.1 h
  obtain ⟨kws, hkws', h⟩ := except_bind_eq_ok.1 h
  have hargs := S.runList_forall₂ (has has')
  cases h
  intro s
  rcases hsa hsa' with hstar | _
  · obtain rfl : keywords = [] := horder.resolve_left (Option.some_ne_none _)
    cases hkws'
    simp [buildCall, S.runList_append, hf hf' s, hargs, hstar _]
  · simp [buildCall, hf hf' s, hargs, hkws hkws']

theorem runsAs_attribute {value : Ast.Expr} {attr : String}
    (ih : ∀ {e}, buildExpr ctx value = .ok e → S.RunsAs A value e)
    (h : buildExpr ctx (.attribute pos value attr) = .ok ir) :
    S.RunsAs A (.attribute pos value attr) ir := by
  rw [buildExpr_attribute] at h
  obtain ⟨base, hbase, h⟩ := except_bind_eq_ok.1 h
  obtain ⟨r, rfl⟩ := buildAttribute_eq ctx h
  intro s
  simp only [run_select, py_attribute, ih hbase s]

theorem runsAs_subscript (hT : S.TupleSubscripts) {value : Ast.Expr} {sl : Ast.Slice}
    (ih : ∀ {e}, buildExpr ctx value = .ok e → S.RunsAs A value e)
    (hkey : ∀ {base ir}, buildSubscript ctx base sl = .ok ir → ∃ idxs, ir = .subscript base idxs ∧
      ∀ s, S.KeyAgrees (S.runList idxs s) (S.pyKey A pos sl s))
    (h : buildExpr ctx (.subscript pos value sl) = .ok ir) :
    S.RunsAs A (.subscript pos value sl) ir := by
  rw [buildExpr_subscript] at h
  obtain ⟨base, hbase, h⟩ := except_bind_eq_ok.1 h
  obtain ⟨idxs, rfl, hk⟩ := hkey h
  intro s
  simp only [run_subscript, py_subscript, ih hbase s, (hk _).1, index_of_key hT (hk _).2]

theorem runsAs_list {elts : List Ast.Expr}
    (ih : ∀ {es}, buildExprs ctx elts = .ok es → List.Forall₂ (S.RunsAs A) elts es)
    (h : buildExpr ctx (.list pos elts) = .ok ir) : S.RunsAs A (.list pos elts) ir := by
  rw [buildExpr_list] at h
  obtain ⟨_, -, h⟩ := except_bind_eq_ok.1 h
  obtain ⟨es, hes, h⟩ := except_bind_eq_ok.1 h
  cases h
  intro s
  simp only [run_listLiteral, py_list, S.runList_forall₂ (ih hes)]

theorem runsAs_tuple {elts : List Ast.Expr}
    (ih : ∀ {es}, buildExprs ctx elts = .ok es → List.Forall₂ (S.RunsAs A) elts es)
    (h : buildExpr ctx (.tuple pos elts) = .ok ir) : S.RunsAs A (.tuple pos elts) ir := by
  rw [buildExpr_tuple] at h
  obtain ⟨_, -, h⟩ := except_bind_eq_ok.1 h
  obtain ⟨es, hes, h⟩ := except_bind_eq_ok.1 h
  cases h
  intro s
  simp only [run_tupleLiteral, py_tuple, S.runList_forall₂ (ih hes)]

theorem runsAs_dict {keys : List (Option Ast.Expr)} {values : List Ast.Expr}
    (hk : ∀ {ks}, buildDictKeys ctx keys = .ok ks → (S.runEach ks).map someKey = S.pyKeys A keys)
    (hv : ∀ {vs}, buildExprs ctx values = .ok vs → List.Forall₂ (S.RunsAs A) values vs)
    (h : buildExpr ctx (.dict pos keys values) = .ok ir) :
    S.RunsAs A (.dict pos keys values) ir := by
  rw [buildExpr_dict] at h
  obtain ⟨_, -, h⟩ := except_bind_eq_ok.1 h
  obtain ⟨ks, hks, h⟩ := except_bind_eq_ok.1 h
  obtain ⟨vs, hvs, h⟩ := except_bind_eq_ok.1 h
  cases h
  intro s
  simp only [run_dictLiteral, py_dict, hk hks, S.runEach_forall₂ (hv hvs)]

theorem runsAs_starred {value : Ast.Expr}
    (ih : ∀ {e}, buildExpr ctx value = .ok e → S.RunsAs A value e)
    (h : buildExpr ctx (.starred pos value) = .ok ir) : S.RunsAs A (.starred pos value) ir := by
  rw [buildExpr_starred] at h
  obtain ⟨_, -, h⟩ := except_bind_eq_ok.1 h
  obtain ⟨e, he, h⟩ := except_bind_eq_ok.1 h
  cases h
  intro s
  simp only [run_starred, py_starred, ih he s]

/-- A comprehension over its one generator, without `if` clauses, runs as Python's. -/
theorem runsAs_listComp {elt : Ast.Expr} {generators : List Ast.Comprehension}
    (he : ∀ {e}, buildExpr ctx elt = .ok e → S.RunsAs A elt e)
    (hgen : ∀ {target' iter'}, buildGenerator ctx generators = .ok (target', iter') →
      ∃ target iter ifs rest, generators = .mk target iter ifs :: rest ∧
        S.AssignsAs A target target' ∧ S.RunsAs A iter iter')
    (h : buildExpr ctx (.listComp pos elt generators) = .ok ir) :
    S.RunsAs A (.listComp pos elt generators) ir := by
  rw [buildExpr_listComp] at h
  obtain ⟨_, -, h⟩ := except_bind_eq_ok.1 h
  obtain ⟨_, hcheck, h⟩ := except_bind_eq_ok.1 h
  obtain ⟨eltExpr, helt, h⟩ := except_bind_eq_ok.1 h
  obtain ⟨⟨targetExpr, iterExpr⟩, hg, hir⟩ := except_bind_eq_ok.1 h
  obtain rfl := (Except.ok.inj hir).symm
  obtain ⟨target, iter, ifs, rest, rfl, ht, hi⟩ := hgen hg
  obtain ⟨rfl, rfl⟩ := checkListComp_ok hcheck
  intro s
  simp only [run_listComp, py_listComp, hi s, ht.2, funext (he helt)]

/-- A slice whose bounds run as theirs runs as Python's slice. -/
theorem run_sliceExpr_pyKey (p : Pos) {lower upper step : Option Ast.Expr}
    {lo up st : Option TreeView.Expr} (h1 : Option.Rel (S.RunsAs A) lower lo)
    (h2 : Option.Rel (S.RunsAs A) upper up) (h3 : Option.Rel (S.RunsAs A) step st) (r : Range)
    (s : σ) : S.run (.sliceExpr r lo up st) s = S.pyKey A p (.slice lower upper step) s := by
  simp only [run_sliceExpr, pyKey_slice, S.runOpt_rel h1, S.runOpt_rel h2, S.runOpt_rel h3]

theorem keyAgrees_index {v : Ast.Expr} {base : TreeView.Expr} (hv : v.isTuple = false)
    (ih : ∀ {e}, buildExpr ctx v = .ok e → S.RunsAs A v e)
    (h : buildSubscript ctx base (.index v) = .ok ir) :
    ∃ idxs, ir = .subscript base idxs ∧
      ∀ s, S.KeyAgrees (S.runList idxs s) (S.pyKey A pos (.index v) s) := by
  rw [buildSubscript_index ctx base hv] at h
  obtain ⟨e, he, h⟩ := except_bind_eq_ok.1 h
  cases h
  exact ⟨[e], rfl, fun s => by simp [KeyAgrees, ih he s]⟩

theorem keyAgrees_index_tuple {p : Pos} {elts : List Ast.Expr} {base : TreeView.Expr}
    (ih : ∀ {es}, buildExprs ctx elts = .ok es → List.Forall₂ (S.RunsAs A) elts es)
    (h : buildSubscript ctx base (.index (.tuple p elts)) = .ok ir) :
    ∃ idxs, ir = .subscript base idxs ∧
      ∀ s, S.KeyAgrees (S.runList idxs s) (S.pyKey A pos (.index (.tuple p elts)) s) := by
  rw [buildSubscript_index_tuple] at h
  obtain ⟨es, hes, h⟩ := except_bind_eq_ok.1 h
  cases h
  exact ⟨es, rfl, fun s => by simp [KeyAgrees, S.runList_forall₂ (ih hes)]⟩

theorem keyAgrees_slice {lower upper step : Option Ast.Expr} {base : TreeView.Expr}
    (h1 : ∀ {o}, buildOptional ctx lower = .ok o → Option.Rel (S.RunsAs A) lower o)
    (h2 : ∀ {o}, buildOptional ctx upper = .ok o → Option.Rel (S.RunsAs A) upper o)
    (h3 : ∀ {o}, buildOptional ctx step = .ok o → Option.Rel (S.RunsAs A) step o)
    (h : buildSubscript ctx base (.slice lower upper step) = .ok ir) :
    ∃ idxs, ir = .subscript base idxs ∧
      ∀ s, S.KeyAgrees (S.runList idxs s) (S.pyKey A pos (.slice lower upper step) s) := by
  rw [buildSubscript_slice] at h
  obtain ⟨lo, hlo, h⟩ := except_bind_eq_ok.1 h
  obtain ⟨up, hup, h⟩ := except_bind_eq_ok.1 h
  obtain ⟨st, hst, h⟩ := except_bind_eq_ok.1 h
  cases h
  refine ⟨_, rfl, fun s => ?_⟩
  simp [KeyAgrees, run_sliceExpr_pyKey pos (h1 hlo) (h2 hup) (h3 hst), -run_sliceExpr]

theorem keyAgrees_extSlice {dims : List Ast.Slice} {base : TreeView.Expr}
    (ih : ∀ {idxs}, buildDims ctx base dims = .ok idxs → ∀ s, S.runList idxs s = S.pyDims A pos dims s)
    (h : buildSubscript ctx base (.extSlice dims) = .ok ir) :
    ∃ idxs, ir = .subscript base idxs ∧
      ∀ s, S.KeyAgrees (S.runList idxs s) (S.pyKey A pos (.extSlice dims) s) := by
  rw [buildSubscript_extSlice] at h
  obtain ⟨es, hes, h⟩ := except_bind_eq_ok.1 h
  cases h
  exact ⟨es, rfl, fun s => by simp [KeyAgrees, ih hes]⟩

/-- Targets whose elements take values as theirs unpack a value as Python does. -/
theorem assignList_unpack {ts : List Ast.Expr} {ts' : List TreeView.Expr}
    (h : List.Forall₂ (S.AssignsAs A) ts ts') (v : V) (s : σ) :
    S.assignList ts' (S.unpack v (ts'.map TreeView.Expr.isStarred)) s =
      S.pyAssignList A ts (S.unpack v (ts.map Ast.Expr.isStarred)) s := by
  rw [S.isStarred_forall₂ h, S.assignList_forall₂ h]

theorem assignsAs_tuple {elts : List Ast.Expr} {t' : TreeView.Expr}
    (ih : ∀ {es}, buildExprs ctx elts = .ok es → List.Forall₂ (S.AssignsAs A) elts es)
    (h : buildExpr ctx (.tuple pos elts) = .ok t') : S.AssignsAs A (.tuple pos elts) t' := by
  rw [buildExpr_tuple] at h
  obtain ⟨_, -, h⟩ := except_bind_eq_ok.1 h
  obtain ⟨es, hes, h⟩ := except_bind_eq_ok.1 h
  cases h
  exact ⟨rfl, assignList_unpack (ih hes)⟩

theorem assignsAs_list {elts : List Ast.Expr} {t' : TreeView.Expr}
    (ih : ∀ {es}, buildExprs ctx elts = .ok es → List.Forall₂ (S.AssignsAs A) elts es)
    (h : buildExpr ctx (.list pos elts) = .ok t') : S.AssignsAs A (.list pos elts) t' := by
  rw [buildExpr_list] at h
  obtain ⟨_, -, h⟩ := except_bind_eq_ok.1 h
  obtain ⟨es, hes, h⟩ := except_bind_eq_ok.1 h
  cases h
  exact ⟨rfl, assignList_unpack (ih hes)⟩

theorem assignsAs_starred {value : Ast.Expr} {t' : TreeView.Expr}
    (ih : ∀ {e}, buildExpr ctx value = .ok e → S.AssignsAs A value e)
    (h : buildExpr ctx (.starred pos value) = .ok t') : S.AssignsAs A (.starred pos value) t' := by
  rw [buildExpr_starred] at h
  obtain ⟨_, -, h⟩ := except_bind_eq_ok.1 h
  obtain ⟨e, he, h⟩ := except_bind_eq_ok.1 h
  cases h
  exact ⟨rfl, (ih he).2⟩

theorem assignsAs_attribute {value : Ast.Expr} {attr : String} {t' : TreeView.Expr}
    (ih : ∀ {e}, buildExpr ctx value = .ok e → S.RunsAs A value e)
    (h : buildExpr ctx (.attribute pos value attr) = .ok t') :
    S.AssignsAs A (.attribute pos value attr) t' := by
  obtain ⟨base, hbase, h⟩ := except_bind_eq_ok.1 h
  obtain ⟨r, rfl⟩ := buildAttribute_eq ctx h
  exact ⟨rfl, fun v s => by simp only [assign_select, pyAssign_attribute, ih hbase s]⟩

theorem assignsAs_subscript (hT : S.TupleSubscripts) {value : Ast.Expr} {sl : Ast.Slice}
    {t' : TreeView.Expr} (ih : ∀ {e}, buildExpr ctx value = .ok e → S.RunsAs A value e)
    (hkey : ∀ {base ir}, buildSubscript ctx base sl = .ok ir → ∃ idxs, ir = .subscript base idxs ∧
      ∀ s, S.KeyAgrees (S.runList idxs s) (S.pyKey A pos sl s))
    (h : buildExpr ctx (.subscript pos value sl) = .ok t') :
    S.AssignsAs A (.subscript pos value sl) t' := by
  obtain ⟨base, hbase, h⟩ := except_bind_eq_ok.1 h
  obtain ⟨idxs, rfl, hk⟩ := hkey h
  refine ⟨rfl, fun v s => ?_⟩
  simp only [assign_subscript, pyAssign_subscript, ih hbase s, (hk _).1,
    setitem_of_key hT (hk _).2]

end Forms

/-! ## Every depth -/

section Depth
open Semantics

mutual
variable {ctx : SourceContext} {V σ : Type} {S : Semantics V σ} {A : Ast.Expr → σ → V × σ}

/-- An expression that translates runs as its source means: one case per form, from
`runsAs_<form>` and the translations of its parts, and the leaves from the backend's
agreement. -/
theorem buildExpr_runsAs (hA : S.LeavesAgree A ctx) (hT : S.TupleSubscripts) :
    ∀ (e : Ast.Expr) {ir : TreeView.Expr}, buildExpr ctx e = .ok ir → S.SafeExpr A e →
      S.RunsAs A e ir
  | .binOp _ left _ right, _, h, hs =>
    runsAs_binOp (buildExpr_runsAs hA hT left · hs.1) (buildExpr_runsAs hA hT right · hs.2) h
  | .unaryOp _ _ operand, _, h, hs => runsAs_unaryOp (buildExpr_runsAs hA hT operand · hs) h
  | .boolOp _ _ values, _, h, hs => runsAs_boolOp (buildExprs_runsAs hA hT values · hs) h
  | .ifExp _ test body orelse, _, h, hs =>
    runsAs_ifExp (buildExpr_runsAs hA hT test · hs.1) (buildExpr_runsAs hA hT body · hs.2.1)
      (buildExpr_runsAs hA hT orelse · hs.2.2) h
  | .compare _ left (_, comparator) rest, _, h, hs =>
    runsAs_compare (buildExpr_runsAs hA hT left · hs.1)
      (buildExpr_runsAs hA hT comparator · hs.2.1) (buildComparators_runsAs hA hT rest · hs.2.2.1)
      hs.2.2.2 h
  | .call _ func args starargs keywords, _, h, hs =>
    runsAs_call (buildExpr_runsAs hA hT func · hs.1) (buildExprs_runsAs hA hT args · hs.2.1)
      (buildOptional_runsAs hA hT starargs · hs.2.2.1)
      (buildKeywords_runsAs hA hT keywords · hs.2.2.2.1) hs.2.2.2.2 h
  | .attribute _ value _, _, h, hs => runsAs_attribute (buildExpr_runsAs hA hT value · hs) h
  | .subscript p value sl, _, h, hs =>
    runsAs_subscript hT (buildExpr_runsAs hA hT value · hs.1)
      (buildSubscript_runsAs hA hT p sl · hs.2) h
  | .list _ elts, _, h, hs => runsAs_list (buildExprs_runsAs hA hT elts · hs) h
  | .tuple _ elts, _, h, hs => runsAs_tuple (buildExprs_runsAs hA hT elts · hs) h
  | .dict _ keys values, _, h, hs =>
    runsAs_dict (buildDictKeys_runsAs hA hT keys · hs.1) (buildExprs_runsAs hA hT values · hs.2) h
  | .starred _ value, _, h, hs => runsAs_starred (buildExpr_runsAs hA hT value · hs) h
  | .listComp _ elt generators, _, h, hs =>
    runsAs_listComp (buildExpr_runsAs hA hT elt · hs.1)
      (buildGenerator_runsAs hA hT generators · hs.2) h
  | .name .., _, h, _ | .constant .., _, h, _ | .num .., _, h, _ | .str .., _, h, _
  | .nameConstant .., _, h, _ | .ellipsis .., _, h, _ =>
    fun s => (run_buildLeaf ctx S (by rfl) h s).trans (hA _ _ (by rfl) h s)
  | .joinedStr .., _, _, hs => False.elim hs
  | .formattedValue .., _, h, _ | .other .., _, h, _ => absurd h unsupportedNodeError_ne_ok

theorem buildExprs_runsAs (hA : S.LeavesAgree A ctx) (hT : S.TupleSubscripts) :
    ∀ (es : List Ast.Expr) {irs : List TreeView.Expr}, buildExprs ctx es = .ok irs →
      S.SafeExprs A es → List.Forall₂ (S.RunsAs A) es irs
  | [], irs, h, _ => by cases h; exact .nil
  | e :: es, irs, h, hs => by
    rw [buildExprs_cons] at h
    obtain ⟨ir, hir, h⟩ := except_bind_eq_ok.1 h
    obtain ⟨irs', hirs, h⟩ := except_bind_eq_ok.1 h
    cases h
    exact .cons (buildExpr_runsAs hA hT e hir hs.1) (buildExprs_runsAs hA hT es hirs hs.2)

theorem buildOptional_runsAs (hA : S.LeavesAgree A ctx) (hT : S.TupleSubscripts) :
    ∀ (o : Option Ast.Expr) {o' : Option TreeView.Expr}, buildOptional ctx o = .ok o' →
      S.SafeOpt A o → Option.Rel (S.RunsAs A) o o'
  | none, _, h, _ => by cases h; exact .none
  | some e, _, h, hs => by
    obtain ⟨e', he, h⟩ := except_bind_eq_ok.1 h
    have ih := buildExpr_runsAs hA hT e he hs
    cases h
    exact .some ih

theorem buildDictKeys_runsAs (hA : S.LeavesAgree A ctx) (hT : S.TupleSubscripts) :
    ∀ (keys : List (Option Ast.Expr)) {ks : List TreeView.Expr}, buildDictKeys ctx keys = .ok ks →
      S.SafeKeys A keys → (S.runEach ks).map someKey = S.pyKeys A keys
  | [], _, h, _ => by cases h; rfl
  | none :: _, _, h, _ => by cases h
  | some k :: keys, _, h, hs => by
    obtain ⟨k', hk, h⟩ := except_bind_eq_ok.1 h
    obtain ⟨ks, hks, h⟩ := except_bind_eq_ok.1 h
    have ih := buildExpr_runsAs hA hT k hk hs.1
    have ihs := buildDictKeys_runsAs hA hT keys hks hs.2
    cases h
    simp only [runEach_cons, List.map_cons, pyKeys_some, funext ih, ihs]

theorem buildKeywords_runsAs (hA : S.LeavesAgree A ctx) (hT : S.TupleSubscripts) :
    ∀ (kws : List Ast.Keyword) {kwargs : List (TreeView.Ident × TreeView.Expr)},
      buildKeywords ctx kws = .ok kwargs → S.SafeKeywords A kws →
      ∀ s, S.runAttributes kwargs s = S.pyKeywords A kws s
  | [], _, h, _ => by cases h; exact fun _ => rfl
  | .mk arg value :: kws, _, h, hs => by
    obtain ⟨e, he, h⟩ := except_bind_eq_ok.1 h
    obtain ⟨kw, hkw, h⟩ := except_bind_eq_ok.1 h
    obtain ⟨kwargs, hkwargs, h⟩ := except_bind_eq_ok.1 h
    have ih := buildExpr_runsAs hA hT value he hs.1
    have ihs := buildKeywords_runsAs hA hT kws hkwargs hs.2
    cases h
    cases buildKeyword_eq hkw
    intro s
    simp only [runAttributes_cons, pyKeywords_cons, ih s, ihs]

theorem buildComparators_runsAs (hA : S.LeavesAgree A ctx) (hT : S.TupleSubscripts) :
    ∀ (rest : List (Ast.CmpOp × Ast.Expr)) {cs : List (Ast.CmpOp × TreeView.Expr)},
      buildComparators ctx rest = .ok cs → S.SafeRest A rest →
      List.Forall₂ (fun p q => p.1 = q.1 ∧ S.RunsAs A p.2 q.2) rest cs
  | [], cs, h, _ => by cases h; exact .nil
  | (op, e) :: rest, cs, h, hs => by
    rw [buildComparators_cons] at h
    obtain ⟨ir, hir, h⟩ := except_bind_eq_ok.1 h
    obtain ⟨cs', hcs, h⟩ := except_bind_eq_ok.1 h
    cases h
    exact .cons ⟨rfl, buildExpr_runsAs hA hT e hir hs.1⟩
      (buildComparators_runsAs hA hT rest hcs hs.2)

/-- A subscript's indices run to Python's key: the index itself, or the tuple of the indices for
a tuple index and an extended slice. -/
theorem buildSubscript_runsAs (hA : S.LeavesAgree A ctx) (hT : S.TupleSubscripts) (p : Pos) :
    ∀ (sl : Ast.Slice) {base ir : TreeView.Expr}, buildSubscript ctx base sl = .ok ir →
      S.SafeSlice A sl →
      ∃ idxs, ir = .subscript base idxs ∧ ∀ s, S.KeyAgrees (S.runList idxs s) (S.pyKey A p sl s)
  | .index v, _, _, h, hs => by
    have ih : ∀ {e}, buildExpr ctx v = .ok e → S.RunsAs A v e := (buildExpr_runsAs hA hT v · hs)
    cases v
    case tuple q elts => exact keyAgrees_index_tuple (buildExprs_runsAs hA hT elts · hs) h
    all_goals exact keyAgrees_index (by rfl) ih h
  | .slice lower upper step, _, _, h, hs =>
    keyAgrees_slice (buildOptional_runsAs hA hT lower · hs.1)
      (buildOptional_runsAs hA hT upper · hs.2.1) (buildOptional_runsAs hA hT step · hs.2.2) h
  | .extSlice dims, _, _, h, hs => keyAgrees_extSlice (buildDims_runsAs hA hT p dims · hs) h
  | .ellipsis, _, _, h, _ => by cases h

/-- The dimensions of an extended slice run as Python's. -/
theorem buildDims_runsAs (hA : S.LeavesAgree A ctx) (hT : S.TupleSubscripts) (p : Pos) :
    ∀ (dims : List Ast.Slice) {base : TreeView.Expr} {idxs : List TreeView.Expr},
      buildDims ctx base dims = .ok idxs → S.SafeDims A dims →
      ∀ s, S.runList idxs s = S.pyDims A p dims s
  | [], _, _, h, _ => by cases h; exact fun _ => rfl
  | .index v :: ds, base, _, h, hs => by
    obtain ⟨e, he, h⟩ := except_bind_eq_ok.1 h
    obtain ⟨es, hes, h⟩ := except_bind_eq_ok.1 h
    rw [buildDim_index] at he
    split at he
    · cases he
    · have ih := buildExpr_runsAs hA hT v he hs.1
      have ihs := buildDims_runsAs hA hT p ds hes hs.2
      cases h
      intro s
      simp only [runList_cons, pyDims_cons, pyKey_index, ih s, ihs]
  | .slice lower upper step :: ds, base, _, h, hs => by
    obtain ⟨e, he, h⟩ := except_bind_eq_ok.1 h
    obtain ⟨es, hes, h⟩ := except_bind_eq_ok.1 h
    rw [buildDim_slice] at he
    obtain ⟨lo, hlo, he⟩ := except_bind_eq_ok.1 he
    obtain ⟨up, hup, he⟩ := except_bind_eq_ok.1 he
    obtain ⟨st, hst, he⟩ := except_bind_eq_ok.1 he
    have hkey := run_sliceExpr_pyKey p (buildOptional_runsAs hA hT lower hlo hs.1.1)
      (buildOptional_runsAs hA hT upper hup hs.1.2.1) (buildOptional_runsAs hA hT step hst hs.1.2.2)
    have ihs := buildDims_runsAs hA hT p ds hes hs.2
    cases he
    cases h
    intro s
    simp only [runList_cons, pyDims_cons, hkey, ihs]
  | .extSlice _ :: _, _, _, h, _ => by
    obtain ⟨_, he, _⟩ := except_bind_eq_ok.1 h
    cases he
  | .ellipsis :: _, _, _, _, hs => False.elim hs

/-- The first generator's target and iterable translate to a target and an expression that take
and run as theirs. -/
theorem buildGenerator_runsAs (hA : S.LeavesAgree A ctx) (hT : S.TupleSubscripts) :
    ∀ (generators : List Ast.Comprehension) {target' iter' : TreeView.Expr},
      buildGenerator ctx generators = .ok (target', iter') → S.SafeGenerators A generators →
      ∃ target iter ifs rest, generators = .mk target iter ifs :: rest ∧
        S.AssignsAs A target target' ∧ S.RunsAs A iter iter'
  | [], _, _, h, _ => by cases h
  | .mk target iter ifs :: rest, _, _, h, hs => by
    obtain ⟨t, ht, h⟩ := except_bind_eq_ok.1 h
    obtain ⟨i, hi, h⟩ := except_bind_eq_ok.1 h
    have ht' := buildExpr_assignsAs hA hT target ht hs.1
    have hi' := buildExpr_runsAs hA hT iter hi hs.2
    cases h
    exact ⟨target, iter, ifs, rest, rfl, ht', hi'⟩

/-- A target that translates takes every value as its source does. -/
theorem buildExpr_assignsAs (hA : S.LeavesAgree A ctx) (hT : S.TupleSubscripts) :
    ∀ (t : Ast.Expr) {t' : TreeView.Expr}, buildExpr ctx t = .ok t' → S.SafeTarget A t →
      S.AssignsAs A t t'
  | .name .., _, h, hs => by
    obtain ⟨r, rfl⟩ := buildName_var ctx hs h
    exact ⟨rfl, fun _ _ => rfl⟩
  | .tuple _ elts, _, h, hs => assignsAs_tuple (buildExprs_assignsAs hA hT elts · hs) h
  | .list _ elts, _, h, hs => assignsAs_list (buildExprs_assignsAs hA hT elts · hs) h
  | .starred _ value, _, h, hs => assignsAs_starred (buildExpr_assignsAs hA hT value · hs) h
  | .attribute _ value _, _, h, hs => assignsAs_attribute (buildExpr_runsAs hA hT value · hs) h
  | .subscript p value sl, _, h, hs =>
    assignsAs_subscript hT (buildExpr_runsAs hA hT value · hs.1)
      (buildSubscript_runsAs hA hT p sl · hs.2) h
  | .boolOp .., _, _, hs | .binOp .., _, _, hs | .unaryOp .., _, _, hs | .ifExp .., _, _, hs
  | .dict .., _, _, hs | .listComp .., _, _, hs | .compare .., _, _, hs | .call .., _, _, hs
  | .formattedValue .., _, _, hs | .joinedStr .., _, _, hs | .constant .., _, _, hs
  | .num .., _, _, hs | .str .., _, _, hs | .nameConstant .., _, _, hs | .ellipsis .., _, _, hs
  | .other .., _, _, hs => False.elim hs

theorem buildExprs_assignsAs (hA : S.LeavesAgree A ctx) (hT : S.TupleSubscripts) :
    ∀ (ts : List Ast.Expr) {ts' : List TreeView.Expr}, buildExprs ctx ts = .ok ts' →
      S.SafeTargets A ts → List.Forall₂ (S.AssignsAs A) ts ts'
  | [], _, h, _ => by cases h; exact .nil
  | t :: ts, _, h, hs => by
    obtain ⟨t', ht, h⟩ := except_bind_eq_ok.1 h
    obtain ⟨ts', hts, h⟩ := except_bind_eq_ok.1 h
    have ih := buildExpr_assignsAs hA hT t ht hs.1
    have ihs := buildExprs_assignsAs hA hT ts hts hs.2
    cases h
    exact .cons ih ihs
end

end Depth

section
variable {ctx : SourceContext} {V σ : Type} {S : Semantics V σ} {A : Ast.Expr → σ → V × σ}

/-- **`build_expr` keeps Python's meaning.**  In every backend that evaluates the translations of
names and literals as `A` says and subscripts with several indices as with their tuple, the tree
view of every expression that translates, and keeps to `SafeExpr`, runs from every state to the
value and final state of Python's evaluation.  Operators, calls, attributes, subscripts,
displays and comprehensions are proved at every depth from their parts. -/
theorem buildExpr_preserves_meaning (hA : S.LeavesAgree A ctx) (hT : S.TupleSubscripts) :
    ∀ (e : Ast.Expr) {ir : TreeView.Expr}, buildExpr ctx e = .ok ir → S.SafeExpr A e →
      S.RunsAs A e ir :=
  buildExpr_runsAs hA hT

end

namespace Semantics
variable {V σ : Type} (S : Semantics V σ)

/-- The meaning a backend gives the source's leaves through the translation: a leaf evaluates as
its tree view does. -/
def leavesOf (ctx : SourceContext) (e : Ast.Expr) (s : σ) : V × σ :=
  match buildExpr ctx e with
  | .ok ir => S.leaf ir s
  | .error _ => (S.ofBool false, s)

theorem leavesOf_agree (ctx : SourceContext) : S.LeavesAgree (S.leavesOf ctx) ctx :=
  fun _ _ _ h s => by rw [leavesOf, h]

end Semantics

/-- The counting backend subscripts with several indices as with their tuple: it ignores both. -/
theorem countingSemantics_tupleSubscripts : countingSemantics.TupleSubscripts :=
  ⟨fun _ _ _ => rfl, fun _ _ _ _ => rfl, fun _ _ _ => rfl⟩

/-- `f(x[x + 1]) or not x.y`: a call over a subscript over a sum, and a negated attribute, in
the counting backend, where the call has an effect. -/
theorem buildExpr_preserves_meaning_example :
    let ctx : SourceContext := ⟨"def g(x):\n    return f(x[x + 1]) or not x.y\n", 0, true⟩
    let e : Ast.Expr := .boolOp ⟨2, 11⟩ .or
      [.call ⟨2, 11⟩ (.name ⟨2, 11⟩ "f")
          [.subscript ⟨2, 13⟩ (.name ⟨2, 13⟩ "x")
            (.index (.binOp ⟨2, 15⟩ (.name ⟨2, 15⟩ "x") .add (.constant ⟨2, 19⟩ (.num (.int 1)))))]
          none [],
        .unaryOp ⟨2, 25⟩ .not (.attribute ⟨2, 29⟩ (.name ⟨2, 29⟩ "x") "y")]
    ∃ ir, buildExpr ctx e = .ok ir ∧
      countingSemantics.SafeExpr (countingSemantics.leavesOf ctx) e ∧
      countingSemantics.RunsAs (countingSemantics.leavesOf ctx) e ir := by
  intro ctx e
  have hs : countingSemantics.SafeExpr (countingSemantics.leavesOf ctx) e :=
    ⟨⟨trivial, ⟨⟨trivial, trivial, trivial⟩, trivial⟩, trivial, trivial, .inl rfl⟩,
      trivial, trivial⟩
  exact ⟨_, rfl, hs, buildExpr_preserves_meaning (countingSemantics.leavesOf_agree ctx)
    countingSemantics_tupleSubscripts e rfl hs⟩

end JitFrontend
