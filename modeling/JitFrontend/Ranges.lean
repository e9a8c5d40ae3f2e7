import JitFrontend.StmtBuilder

/-! # The ranges the builders compute

Every node with a position is meant to get a range that starts at its first token and is not
empty (spec §8).  Three builders compute ranges in ways that break this.

`build_ListComp` makes its range with `make_range(lineno, col_offset, col_offset)` (line 738), so
every list comprehension is built with an empty range; the node's `.range()` is that range merged
with its children's.

`build_Attribute` has no position for the attribute's name, and scans the text for it
(lines 487–496): it starts one byte past the end of the base's range, skips whitespace, and takes
as many bytes as the name has code points.  That finds the name when the `.` is the byte right
after the base's range, only whitespace follows it, and the name is ASCII
(`buildExpr_attribute_ascii`); with whitespace before the `.` it lands on the `.` itself.

`build_AugAssign` has no position for an operator it rejects, and searches the text backward
from the right-hand side for the `=` (lines 381–384), counting code points where every range
counts bytes.
-/
namespace JitFrontend
open Ast (Pos)

variable {ctx : SourceContext}

/-- **A translated list comprehension is built with an empty range**: `build_ListComp` makes it
with `make_range(lineno, col_offset, col_offset)`. -/
theorem buildExpr_listComp_range_empty {pos : Pos} {elt : Ast.Expr}
    {generators : List Ast.Comprehension} {e : TreeView.Expr}
    (h : buildExpr ctx (.listComp pos elt generators) = .ok e) :
    ∃ r eltExpr targetExpr iterExpr, listCompRange ctx pos = .ok r ∧ r.start = r.stop ∧
      e = .listComp r eltExpr targetExpr iterExpr := by
  rw [buildExpr_listComp] at h
  obtain ⟨r, hr, h⟩ := except_bind_eq_ok.1 h
  obtain ⟨_, -, h⟩ := except_bind_eq_ok.1 h
  obtain ⟨eltExpr, -, h⟩ := except_bind_eq_ok.1 h
  obtain ⟨⟨targetExpr, iterExpr⟩, -, h⟩ := except_bind_eq_ok.1 h
  obtain ⟨lineStart, rfl⟩ := ctx.makeRange_eq_ok hr
  cases h
  exact ⟨_, _, _, _, hr, rfl, rfl⟩

/-- `[x for x in y]` in `def f(y): return [x for x in y]`: `build_ListComp` makes the range
`[21, 21)` with `make_range(2, 11, 11)`, and builds the comprehension with it. -/
theorem buildExpr_listComp_xy_range_empty :
    let ctx : SourceContext := ⟨"def f(y):\n    return [x for x in y]\n", 0, true⟩
    ctx.makeRange 2 11 11 = .ok ⟨21, 21⟩ ∧
      buildExpr ctx
          (.listComp ⟨2, 11⟩ (.name ⟨2, 12⟩ "x") [.mk (.name ⟨2, 18⟩ "x") (.name ⟨2, 23⟩ "y") []]) =
        .ok (.listComp ⟨21, 21⟩ (.var ⟨⟨22, 23⟩, "x"⟩) (.var ⟨⟨28, 29⟩, "x"⟩)
          (.var ⟨⟨33, 34⟩, "y"⟩)) :=
  ⟨rfl, rfl⟩

/-- The scan of `build_Attribute` finds the name when the base's range ends at the `.`, only
whitespace separates the `.` from the name, and the name is an ASCII identifier. -/
theorem buildAttribute_ascii {base : TreeView.Expr} {attr : String}
    (hattr : isAsciiIdentifier attr = true) (ws rest : List Nat) (hws : ∀ b ∈ ws, b ∈ whitespace)
    (hlayout : ctx.bytes.drop base.range.stop = 46 :: (ws ++ utf8 attr.toList ++ rest)) :
    buildAttribute ctx base attr = .ok (.select base
        ⟨⟨base.range.stop + 1 + ws.length, base.range.stop + 1 + ws.length + attr.length⟩, attr⟩) ∧
      ((ctx.bytes.drop (base.range.stop + 1 + ws.length)).take attr.length = utf8 attr.toList) := by
  obtain ⟨b, bs, hutf8, hb, hlen⟩ := utf8_asciiIdentifier hattr
  have hdrop : ctx.bytes.drop (base.range.stop + 1) = ws ++ utf8 attr.toList ++ rest := by
    rw [← List.drop_drop, hlayout, List.drop_one, List.tail_cons]
  constructor
  · simp only [buildAttribute, skipWhitespace, hdrop, hutf8, List.append_assoc, List.cons_append,
      skipWhitespaceFrom_append hws hb]
    rfl
  · rw [← List.drop_drop, hdrop, List.append_assoc, List.drop_left, hutf8, ← hlen]
    simp

/-- **The attribute name's range, where the scan is exact.**  For a base that translates, whose
range ends at the `.`, followed by whitespace and then an ASCII identifier, the name's range is
`[p, p + len(attr))` with `p` the first byte of the name, and those bytes are the name's. -/
theorem buildExpr_attribute_ascii {pos : Pos} {value : Ast.Expr} {attr : String}
    {base : TreeView.Expr} (hbase : buildExpr ctx value = .ok base)
    (hattr : isAsciiIdentifier attr = true) (ws rest : List Nat) (hws : ∀ b ∈ ws, b ∈ whitespace)
    (hlayout : ctx.bytes.drop base.range.stop = 46 :: (ws ++ utf8 attr.toList ++ rest)) :
    buildExpr ctx (.attribute pos value attr) = .ok (.select base
        ⟨⟨base.range.stop + 1 + ws.length, base.range.stop + 1 + ws.length + attr.length⟩, attr⟩) ∧
      ((ctx.bytes.drop (base.range.stop + 1 + ws.length)).take attr.length = utf8 attr.toList) := by
  rw [buildExpr_attribute, hbase]
  exact buildAttribute_ascii hattr ws rest hws hlayout

/-- `x.y.z` in `def f(x): return x.y.z`: the base `x.y` spans `[21, 24)`, from `x` to `y`, so the
scan starts past the second `.`, and the name's range is `[25, 26)`, the byte of `z`. -/
theorem buildExpr_attribute_ascii_example :
    buildExpr ⟨"def f(x):\n    return x.y.z\n", 0, true⟩
        (.attribute ⟨2, 11⟩ (.attribute ⟨2, 11⟩ (.name ⟨2, 11⟩ "x") "y") "z") =
      .ok (.select (.select (.var ⟨⟨21, 22⟩, "x"⟩) ⟨⟨23, 24⟩, "y"⟩) ⟨⟨25, 26⟩, "z"⟩) ∧
      (((⟨"def f(x):\n    return x.y.z\n", 0, true⟩ : SourceContext).bytes.drop 25).take 1 =
        utf8 "z".toList) := by
  refine buildExpr_attribute_ascii ?_ ?_ [] [10] ?_ ?_ <;> first | rfl | simp

/-- **The scan can land on the `.`.**  In `def f(): return 1 .real` the base `1` ends at byte 21,
the scan starts at byte 22, which is the `.`, and the name's range `[22, 26)` holds `.rea`. -/
theorem buildExpr_attribute_scan_misses_name :
    buildExpr ⟨"def f():\n    return 1 .real\n", 0, true⟩
        (.attribute ⟨2, 11⟩ (.num ⟨2, 11⟩ (.int 1)) "real") =
      .ok (.select (.const ⟨20, 21⟩ "1") ⟨⟨22, 26⟩, "real"⟩) ∧
      ((utf8 "def f():\n    return 1 .real\n".toList).drop 22).take 4 ≠ utf8 "real".toList :=
  ⟨rfl, by decide⟩

/-! ## The range of an unsupported augmented assignment

The operator of an augmented assignment has no position of its own.  For an operator that
`augassign_map` lacks, `build_AugAssign` (lines 381–384) looks for the range with
`find_before(ctx, rhs.range().start, '=', offsets=(-1, 0))`: the last `=` in `ctx.source[:pos]`,
widened one code point to the left.  `pos` is a byte offset, as every range is, while the slice
and `rindex` count code points.  The two agree while the text before the right-hand side is ASCII;
there, and when no `=` lies between the operator's and the right-hand side, the range is the
operator's last character and its `=` (`buildStmt_augAssign_range_ascii`).  Each multi-byte
character before the statement makes the slice one code point longer and leaves the code-point
index it returns, read as a byte offset, one byte short.
-/

theorem findBefore_eq {pos newPos : Nat}
    (h : rindex (ctx.source.toList.take pos) ['='] = some newPos) :
    findBefore ctx pos "=" (-1, 0) = .ok (ctx.makeRawRange (newPos - 1) (newPos + 1)) := by
  simp only [findBefore, show "=".toList = ['='] from rfl, h, String.length, List.length_singleton]
  congr 3; omega

/-- `build_AugAssign` on an operator `augassign_map` lacks, once both sides are built: the error is
raised at the range `find_before` finds. -/
theorem buildStmt_augAssign_unsupported {pos : Pos} {target value : Ast.Expr} {op : Ast.Operator}
    {lhs rhs : TreeView.Expr} (hop : augassignMap op = none)
    (hlhs : buildExpr ctx target = .ok lhs) (hrhs : buildExpr ctx value = .ok rhs) :
    buildStmt ctx (.augAssign pos target op value) =
      (findBefore ctx rhs.range.start "=" (-1, 0) >>= fun r =>
        throw (.notSupportedError r
          ("unsupported kind of augumented assignment: " ++ op.name))) := by
  simp only [buildStmt, hlhs, hrhs, hop, except_ok_bind]

/-- **Where `find_before` is exact.**  For an augmented assignment whose operator
`augassign_map` lacks, whose sides translate, whose text before the right-hand side is ASCII, and
with no `=` between the operator's `=` and the right-hand side, `build_AugAssign` raises
`NotSupportedError` at `[p, p + 2)`, where `p` is the byte of the operator's last character `c`:
the range's bytes are `c` and `=`. -/
theorem buildStmt_augAssign_range_ascii {pos : Pos} {target value : Ast.Expr} {op : Ast.Operator}
    {lhs rhs : TreeView.Expr} (hop : augassignMap op = none)
    (hlhs : buildExpr ctx target = .ok lhs) (hrhs : buildExpr ctx value = .ok rhs)
    (pre gap rest : List Char) (c : Char)
    (hsource : ctx.source.toList = pre ++ c :: '=' :: gap ++ rest)
    (hascii : ∀ d ∈ pre ++ c :: '=' :: gap, d.toNat < 128) (hgap : '=' ∉ gap)
    (hstart : rhs.range.start = (utf8 (pre ++ c :: '=' :: gap)).length) :
    buildStmt ctx (.augAssign pos target op value) =
        .error (.notSupportedError ⟨pre.length, pre.length + 2⟩
          ("unsupported kind of augumented assignment: " ++ op.name)) ∧
      (ctx.bytes.drop pre.length).take 2 = utf8 [c, '='] := by
  have hpre : ∀ d ∈ pre, d.toNat < 128 := fun d hd => hascii d (List.mem_append_left _ hd)
  have hop2 : ∀ d ∈ [c, '='], d.toNat < 128 := fun d hd =>
    hascii d (List.mem_append_right _ (by simp at hd ⊢; tauto))
  have htake : ctx.source.toList.take rhs.range.start = (pre ++ [c]) ++ '=' :: gap := by
    rw [hstart, utf8_length_ascii hascii, hsource, List.take_left]; simp
  have hfind := findBefore_eq (show rindex (ctx.source.toList.take rhs.range.start) ['='] =
      some (pre ++ [c]).length by rw [htake]; exact rindex_last hgap _)
  refine ⟨?_, ?_⟩
  · rw [buildStmt_augAssign_unsupported hop hlhs hrhs, hfind]
    simp only [List.length_append, List.length_singleton, except_ok_bind]
    rfl
  · have hbytes : ctx.bytes = utf8 pre ++ (utf8 [c, '='] ++ utf8 (gap ++ rest)) := by
      simp only [SourceContext.bytes, hsource, ← utf8_append]; simp
    have hlen : (utf8 [c, '=']).length = 2 := utf8_length_ascii hop2
    rw [hbytes, ← utf8_length_ascii hpre, List.drop_left, List.take_left' hlen]

/-- `x **= 2` in `def f(x):\n    x **= 2\n`: the range is `[17, 19)`, the bytes of `*=`. -/
theorem buildStmt_augAssign_range_ascii_example :
    buildStmt ⟨"def f(x):\n    x **= 2\n", 0, true⟩
        (.augAssign ⟨2, 4⟩ (.name ⟨2, 4⟩ "x") .pow (.num ⟨2, 10⟩ (.int 2))) =
        .error (.notSupportedError ⟨17, 19⟩
          "unsupported kind of augumented assignment: Pow") ∧
      ((⟨"def f(x):\n    x **= 2\n", 0, true⟩ : SourceContext).bytes.drop 17).take 2 =
        utf8 ['*', '='] :=
  buildStmt_augAssign_range_ascii (by exact rfl) (by exact rfl) (by exact rfl)
    "def f(x):\n    x *".toList [' '] "2\n".toList '*' (by exact rfl) (by decide) (by decide)
    (by exact rfl)

/-- **A non-ASCII character before the statement shifts the range.**  In
`def f(x):\n    s = "é"\n    x **= 2\n` the `é` takes two bytes.  The right-hand side `2` starts at
byte 33, the first 33 code points end with that `2`, their last `=` is code point 30, and the range
is `[29, 31)`, whose bytes are `**`; the operator's last character and its `=` are `[30, 32)`. -/
theorem buildStmt_augAssign_range_shifted :
    buildStmt ⟨"def f(x):\n    s = \"é\"\n    x **= 2\n", 0, true⟩
        (.augAssign ⟨3, 4⟩ (.name ⟨3, 4⟩ "x") .pow (.num ⟨3, 10⟩ (.int 2))) =
        .error (.notSupportedError ⟨29, 31⟩
          "unsupported kind of augumented assignment: Pow") ∧
      ((utf8 "def f(x):\n    s = \"é\"\n    x **= 2\n".toList).drop 29).take 2 =
        utf8 "**".toList ∧
      ((utf8 "def f(x):\n    s = \"é\"\n    x **= 2\n".toList).drop 30).take 2 =
        utf8 "*=".toList :=
  ⟨rfl, by decide, by decide⟩

end JitFrontend
