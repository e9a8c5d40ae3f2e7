import JitFrontend.Ast

/-! # Source contexts and ranges

Every tree-view node and every diagnostic carries a `SourceRange`: two byte offsets into the UTF-8
text of the unit being translated.  The builders make them in two ways: `ctx.make_range(lineno,
start_col, end_col)` from a node's position, and `ctx.make_raw_range(start, end)` from offsets they
computed themselves.  Both live in the C++ `SourceRangeFactory`, outside this file; they are
modelled here from the spec (§2: the context "maps (line, column) pairs and raw byte offsets to
`Range` values").  `make_range` looks the line up in the table of line starts of the text, and a
line past the last one makes it raise `IndexError`, which the builders do not catch: a decorated
`def` asks for line `lineno + len(decorator_list)` (line 234), which can lie past the end.

A translation that does not return a tree ends with an exception.  The file defines three
diagnostic classes — `FrontendError`, its subclass `NotSupportedError`, and that one's subclass
`UnsupportedNodeError` (lines 87–114) — and any other Python exception escaping a builder is kept
as `Error.python`, with its class.

Two builders also read the text directly.  `build_Attribute` scans the UTF-8 bytes forward over
whitespace (`skipWhitespace`), and `find_before` searches the text, as a sequence of code points,
backward for a substring (`rindex`).
-/
namespace JitFrontend

/-- A `SourceRange`: the byte offsets `[start, stop)` of the unit's UTF-8 text. -/
structure Range where
  start : Nat
  stop : Nat
deriving DecidableEq, Repr, Inhabited

/-- The classes of the Python exceptions a builder can raise besides its own diagnostics. -/
inductive PyException where
  | typeError | attributeError | valueError | indexError | assertionError | runtimeError
deriving DecidableEq, Repr

/-- How a translation ends when it does not return a tree. -/
inductive Error where
  | frontendError (range : Range) (msg : String)
  | notSupportedError (range : Range) (msg : String)
  | unsupportedNodeError (range : Range) (msg : String)
  | python (exc : PyException) (msg : String)
deriving DecidableEq, Repr

/-- A `SourceContext`, as `get_jit_def` builds it (line 202): the unit's text `source` before
`dedent`, the width of the indentation `dedent` removed, and whether `/` is true division.  The
file name and first line number are only displayed, and are left out. -/
structure SourceContext where
  source : String
  leadingWhitespaceLen : Nat
  usesTrueDivision : Bool

/-- The UTF-8 encoding of a sequence of code points, as byte values. -/
def utf8 (s : List Char) : List Nat :=
  s.flatMap fun c => (String.utf8EncodeChar c).map UInt8.toNat

namespace SourceContext
variable (ctx : SourceContext)

/-- `ctx.source.encode('utf-8')`. -/
def bytes : List Nat := utf8 ctx.source.toList

/-- The offsets, counted from `i`, just past each newline byte of `bs`. -/
def lineStartsFrom : Nat → List Nat → List Nat
  | _, [] => []
  | i, b :: bs => if b = 10 then (i + 1) :: lineStartsFrom (i + 1) bs else lineStartsFrom (i + 1) bs

/-- Modelled from the spec: the table of line starts of the C++ `Source`, the offset `0` of the
first line and the offset just past each newline. -/
def lineStarts : List Nat := 0 :: lineStartsFrom 0 ctx.bytes

/-- The message of the `std::out_of_range` that `std::vector::at` throws for index `n` of a vector
of `size` elements. -/
def outOfRangeMsg (n size : Nat) : String :=
  "vector::_M_range_check: __n (which is " ++ toString n ++ ") >= this->size() (which is " ++
    toString size ++ ")"

/-- Modelled from the spec: `offset_for_line(line)`, the byte offset at which 0-based line `line`
starts, read with `at`.  A line past the last one throws `std::out_of_range`, which pybind raises as
`IndexError`. -/
def offsetForLine (line : Nat) : Except Error Nat :=
  match ctx.lineStarts[line]? with
  | some offset => pure offset
  | none => throw (.python .indexError (outOfRangeMsg line ctx.lineStarts.length))

/-- The 0-based line `make_range` asks for: `lineno - 1`, computed on an `int` and passed as a
`size_t`, so that line `0` asks for the largest index. -/
def lineIndex (lineno : Nat) : Nat := if lineno = 0 then UInt64.size - 1 else lineno - 1

/-- Modelled from the spec: `ctx.make_range(lineno, start_col, end_col)`.  Columns are columns of
the dedented text, so the indentation `dedent` removed is added back. -/
def makeRange (lineno startCol endCol : Nat) : Except Error Range := do
  let offset ← ctx.offsetForLine (lineIndex lineno)
  let lineStart := offset + ctx.leadingWhitespaceLen
  pure ⟨lineStart + startCol, lineStart + endCol⟩

/-- Modelled from the spec: `ctx.make_raw_range(start, end)`, a range of raw byte offsets. -/
def makeRawRange (_ctx : SourceContext) (start stop : Nat) : Range := ⟨start, stop⟩

/-- Whether the text has the line `lineno`, so that `make_range` can make a range on it. -/
def hasLine (lineno : Nat) : Bool := lineIndex lineno < ctx.lineStarts.length

/-- `make_range` fails exactly on a line the text does not have. -/
@[simp] theorem makeRange_isOk (lineno startCol endCol : Nat) :
    (ctx.makeRange lineno startCol endCol).isOk = ctx.hasLine lineno := by
  simp only [makeRange, offsetForLine, hasLine]
  by_cases hl : lineIndex lineno < ctx.lineStarts.length
  · rw [List.getElem?_eq_getElem hl, decide_eq_true hl]; rfl
  · rw [List.getElem?_eq_none (Nat.le_of_not_lt hl), decide_eq_false hl]; rfl

theorem makeRange_of_hasLine {lineno : Nat} (h : ctx.hasLine lineno = true) (startCol endCol : Nat) :
    ∃ r, ctx.makeRange lineno startCol endCol = .ok r := by
  rw [← makeRange_isOk ctx lineno startCol endCol] at h
  cases hr : ctx.makeRange lineno startCol endCol with
  | ok r => exact ⟨r, rfl⟩
  | error e => simp [hr, Except.isOk, Except.toBool] at h

/-- A range `make_range` makes starts and ends at its columns, counted from one offset. -/
theorem makeRange_eq_ok {lineno startCol endCol : Nat} {r : Range}
    (h : ctx.makeRange lineno startCol endCol = .ok r) :
    ∃ lineStart, r = ⟨lineStart + startCol, lineStart + endCol⟩ := by
  simp only [makeRange, offsetForLine] at h
  split at h <;> cases h
  exact ⟨_, rfl⟩

@[simp] theorem makeRawRange_start (start stop : Nat) : (ctx.makeRawRange start stop).start = start :=
  rfl

@[simp] theorem makeRawRange_stop (start stop : Nat) : (ctx.makeRawRange start stop).stop = stop :=
  rfl

end SourceContext

/-- `string.whitespace`, as byte values: space, tab, newline, return, vertical tab, form feed. -/
def whitespace : List Nat := [32, 9, 10, 13, 11, 12]

/-- The loop `while get_char(start_pos) in string.whitespace: start_pos += 1` of `build_Attribute`
(lines 493–494), run on the bytes from index `i` on: the first index whose byte is not
whitespace, or `none` when the bytes end first (`source[index]` raises `IndexError`). -/
def skipWhitespaceFrom : List Nat → Nat → Option Nat
  | [], _ => none
  | b :: bs, i => if b ∈ whitespace then skipWhitespaceFrom bs (i + 1) else some i

/-- The whitespace scan of `build_Attribute` over the whole text, started at byte `i`. -/
def skipWhitespace (bytes : List Nat) (i : Nat) : Option Nat :=
  skipWhitespaceFrom (bytes.drop i) i

theorem skipWhitespaceFrom_append {ws : List Nat} (hws : ∀ b ∈ ws, b ∈ whitespace) {b : Nat}
    (hb : b ∉ whitespace) (bs : List Nat) (i : Nat) :
    skipWhitespaceFrom (ws ++ b :: bs) i = some (i + ws.length) := by
  induction ws generalizing i with
  | nil => simp [skipWhitespaceFrom, hb]
  | cons w ws ih =>
    simp only [List.mem_cons, forall_eq_or_imp] at hws
    rw [List.cons_append, skipWhitespaceFrom, if_pos hws.1, ih hws.2, List.length_cons]
    congr 1; omega

/-- A character a Python identifier spelled in ASCII may contain: a letter, a digit or `_`. -/
def isIdentChar (c : Char) : Bool := c.isAlphanum || c = '_'

/-- A Python identifier spelled in ASCII: a letter or `_`, then letters, digits and `_`. -/
def isAsciiIdentifier (name : String) : Bool :=
  match name.toList with
  | [] => false
  | c :: cs => (c.isAlpha || c = '_') && cs.all isIdentChar

theorem isIdentChar_bounds {c : Char} (h : isIdentChar c = true) : 48 ≤ c.toNat ∧ c.toNat < 128 := by
  simp only [isIdentChar, Char.isAlphanum, Char.isAlpha, Char.isUpper, Char.isLower,
    Char.isDigit, Bool.or_eq_true, Bool.and_eq_true, decide_eq_true_eq, UInt32.le_def,
    BitVec.le_def] at h
  show 48 ≤ c.val.toBitVec.toNat ∧ c.val.toBitVec.toNat < 128
  rcases h with ((⟨h1, h2⟩ | ⟨h1, h2⟩) | ⟨h1, h2⟩) | rfl
  all_goals first | (simp at h1 h2; omega) | decide

/-- An ASCII character is one UTF-8 byte, its code point. -/
theorem utf8EncodeChar_ascii {c : Char} (h : c.toNat < 128) :
    (String.utf8EncodeChar c).map UInt8.toNat = [c.toNat] := by
  have hv : c.val ≤ 0x7f := by
    rw [UInt32.le_def, BitVec.le_def]
    exact Nat.le_of_lt_succ h
  simp only [String.utf8EncodeChar, hv, if_true, List.map_cons, List.map_nil, List.cons.injEq,
    and_true]
  exact Nat.mod_eq_of_lt (Nat.lt_trans h (by decide))

theorem utf8_ascii {s : List Char} (h : ∀ c ∈ s, c.toNat < 128) : utf8 s = s.map Char.toNat := by
  induction s with
  | nil => rfl
  | cons c s ih =>
    simp only [List.mem_cons, forall_eq_or_imp] at h
    simp only [utf8, List.flatMap_cons, List.map_cons] at ih ⊢
    rw [utf8EncodeChar_ascii h.1, ih h.2, List.singleton_append]

theorem utf8_append (s t : List Char) : utf8 (s ++ t) = utf8 s ++ utf8 t :=
  List.flatMap_append _ _ _

/-- Over ASCII text, byte offsets and code-point offsets agree. -/
theorem utf8_length_ascii {s : List Char} (h : ∀ c ∈ s, c.toNat < 128) :
    (utf8 s).length = s.length := by
  rw [utf8_ascii h, List.length_map]

/-- The UTF-8 bytes of an ASCII identifier: one per character, none of them whitespace. -/
theorem utf8_asciiIdentifier {name : String} (h : isAsciiIdentifier name = true) :
    ∃ b bs, utf8 name.toList = b :: bs ∧ b ∉ whitespace ∧ bs.length + 1 = name.length := by
  unfold isAsciiIdentifier at h
  split at h
  · cases h
  · rename_i c cs hname
    simp only [Bool.and_eq_true, List.all_eq_true] at h
    have hc : isIdentChar c = true := by
      simp only [isIdentChar, Char.isAlphanum, Bool.or_eq_true] at h ⊢; tauto
    have hascii : ∀ d ∈ c :: cs, d.toNat < 128 := by
      simp only [List.mem_cons, forall_eq_or_imp]
      exact ⟨(isIdentChar_bounds hc).2, fun d hd => (isIdentChar_bounds (h.2 d hd)).2⟩
    refine ⟨c.toNat, cs.map Char.toNat, by rw [hname, utf8_ascii hascii, List.map_cons], ?_, ?_⟩
    · have := (isIdentChar_bounds hc).1
      simp only [whitespace, List.mem_cons, List.mem_singleton, List.not_mem_nil, or_false]
      omega
    · rw [List.length_map]
      show cs.length + 1 = name.toList.length
      rw [hname, List.length_cons]

/-- `s.rindex(sub)` on a sequence of code points: the greatest index at which `sub` occurs, or
`none` (Python raises `ValueError`). -/
def rindex (s sub : List Char) : Option Nat :=
  ((List.range (s.length + 1)).filter fun i => sub.isPrefixOf (s.drop i)).getLast?

/-- `rindex` finds the occurrence of a character that no later occurrence follows. -/
theorem rindex_last {c : Char} {gap : List Char} (hgap : c ∉ gap) (pre : List Char) :
    rindex (pre ++ c :: gap) [c] = some pre.length := by
  have hprefix : ∀ l : List Char, [c].isPrefixOf l = (l.head? == some c) := by
    intro l; cases l <;> simp [List.isPrefixOf, eq_comm]
  have hlen : (pre ++ c :: gap).length + 1 = (pre.length + 1) + (gap.length + 1) := by
    simp only [List.length_append, List.length_cons]; omega
  have hat : [c].isPrefixOf ((pre ++ c :: gap).drop pre.length) = true := by
    rw [List.drop_left, hprefix]; simp
  have hlater : ((List.range (gap.length + 1)).map (pre.length + 1 + ·)).filter
      (fun i => [c].isPrefixOf ((pre ++ c :: gap).drop i)) = [] := by
    refine List.filter_eq_nil_iff.2 ?_
    simp only [List.mem_map]
    rintro _ ⟨j, -, rfl⟩
    rw [Nat.add_assoc, List.drop_append, Nat.add_comm, List.drop_succ_cons, hprefix]
    cases h : (gap.drop j).head? with
    | none => simp
    | some d =>
      have : d ≠ c := fun hd => hgap (hd ▸ List.mem_of_mem_drop (List.mem_of_mem_head? h))
      simpa using this
  unfold rindex
  rw [hlen, List.range_add, List.filter_append, List.range_succ, List.filter_append, hlater,
    List.append_nil, List.filter_singleton, hat]
  exact List.getLast?_concat _

end JitFrontend
