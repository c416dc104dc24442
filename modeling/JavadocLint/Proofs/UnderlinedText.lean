import JavadocLint.Proofs.PrintedColumns
import JavadocLint.Proofs.RenderedIssue
import JavadocLint.Proofs.SourceFindings

/- The underline of an issue on one line, held against the line as it is printed. The line is
   printed without its indent and its tabs are expanded after that; the columns of the underline are
   taken in the whole line and the width of the indent goes off at the end. The two ways agree as
   long as no tab follows an indent that ends between two tab stops. The last column of a reported
   line is that of its last byte, which is where its last character begins only if that is one
   byte. -/
namespace JavadocLint

section Parts

variable {line : Text}

theorem chunks_indent (line : Text) :
    line.indent.chunks = line.chunks.takeWhile fun c => isBlank c.rune :=
  chunks_cut (List.takeWhile_prefix _)

theorem chunks_indent_trimStart (line : Text) :
    line.chunks = line.indent.chunks ++ line.trimStart.chunks := by
  rw [chunks_indent, (chunks_trimStart line).2, List.takeWhile_append_dropWhile]

theorem chunks_behind_indent {body back : List Chunk}
    (rest : line.trimStart.chunks = body ++ back) :
    line.chunks = line.indent.chunks ++ body ++ back := by
  rw [chunks_indent_trimStart line, rest, List.append_assoc]

theorem indent_trimStart (line : Text) : line.indent ++ line.trimStart = line := by
  have whole := congrArg Text.ofChunks (chunks_indent_trimStart line)
  rw [ofChunks_append, ofChunks_chunks, ofChunks_chunks, ofChunks_chunks] at whole
  exact whole.symm

theorem solid_of_trimStart {cs : List Chunk} {c : Chunk} {back : List Chunk}
    (split : line.trimStart.chunks = cs ++ c :: back) : line.isBlankText = false := by
  rw [← Bool.not_eq_true, isBlankText_iff, ← (chunks_trimStart line).2, split]
  simp

theorem exists_last_solid {cs : List Chunk} (some : ∃ c ∈ cs, isBlank c.rune = false) :
    ∃ body last trail, cs = body ++ last :: trail ∧ isBlank last.rune = false ∧
      ∀ c ∈ trail, isBlank c.rune = true := by
  induction cs with
  | nil =>
    obtain ⟨c, member, -⟩ := some
    cases member
  | cons c cs ih =>
    by_cases later : ∃ d ∈ cs, isBlank d.rune = false
    · obtain ⟨body, last, trail, rfl, rest⟩ := ih later
      exact ⟨c :: body, last, trail, rfl, rest⟩
    · have blanks : ∀ d ∈ cs, isBlank d.rune = true := by
        intro d member
        by_contra solid
        exact later ⟨d, member, by simpa using solid⟩
      obtain ⟨d, member, solid⟩ := some
      rcases List.mem_cons.mp member with rfl | further
      · exact ⟨[], d, cs, rfl, solid, blanks⟩
      · exact absurd ⟨d, further, solid⟩ later

theorem trimEnd_split {t : Text} {body trail : List Chunk} {last : Chunk}
    (split : t.chunks = body ++ last :: trail) (solid : isBlank last.rune = false)
    (blanks : ∀ c ∈ trail, isBlank c.rune = true) : t.trimEnd = Text.ofChunks (body ++ [last]) := by
  have passed : ∀ c ∈ trail.reverse, isBlank c.rune = true :=
    fun c member => blanks c (List.mem_reverse.mp member)
  rw [Text.trimEnd, split, List.reverse_append, List.reverse_cons, List.append_assoc,
    List.dropWhile_append_of_pos passed, List.singleton_append,
    List.dropWhile_cons_of_neg (by simp [solid]), List.reverse_cons, List.reverse_reverse]

theorem solid_parts (solid : line.isBlankText = false) :
    ∃ (body : List Chunk) (last : Chunk) (trail : List Chunk),
      line.trimStart.chunks = body ++ last :: trail ∧ line.trim.chunks = body ++ [last] ∧
        line.trimEnd = Text.ofChunks (line.indent.chunks ++ (body ++ [last])) ∧
        isBlank last.rune = false := by
  have some : ∃ c ∈ line.trimStart.chunks, isBlank c.rune = false := by
    obtain ⟨c, member, solid⟩ := List.all_eq_false.mp solid
    refine ⟨c, ?_, by simpa using solid⟩
    rw [(chunks_trimStart line).2]
    exact mem_dropWhile_of_neg member solid
  obtain ⟨body, last, trail, rest, solidLast, blanks⟩ := exists_last_solid some
  have starts : body ++ [last] <+: line.trimStart.chunks :=
    ⟨trail, by rw [rest, List.append_assoc, List.singleton_append]⟩
  refine ⟨body, last, trail, rest, ?_, ?_, solidLast⟩
  · rw [Text.trim, trimEnd_split rest solidLast blanks, chunks_cut starts]
  · rw [trimEnd_split (chunks_behind_indent rest) solidLast blanks, List.append_assoc]

end Parts

/-- Tabs of a part of a line stop at the same places with and without the indent. -/
def KeepsStops (w : WidthTable) (indent part : Text) : Prop :=
  tabWidth ∣ (expandTabs w indent).width w ∨ byte '\t' ∉ part

variable {w : WidthTable}

theorem keepsStops_iff (indent part : Text) :
    KeepsStops w indent part ↔
      columnsFrom w (columnsFrom w 0 indent.chunks) part.chunks =
        columnsFrom w 0 indent.chunks + columnsFrom w 0 part.chunks := by
  rw [columnsFrom_shift_iff, KeepsStops, width_expandTabs, tab_mem_iff]
  simp only [not_exists, not_and, ne_eq]

namespace Issue

variable {i : Issue} {lines : List Text} {line : Text} {colors : Bool}

structure OnLine (i : Issue) (lines : List Text) (line : Text) : Prop where
  single : i.stop.line = i.start.line
  first : 1 ≤ i.start.line
  found : lines[(i.start.line - 1).toNat]? = some line

def printedLine (i : Issue) (colors : Bool) (text : Text) (column count : Nat) : Text :=
  i.opening colors
    ++ i.snippetText colors [Style.line.paint colors (alignedNumber i.numberWidth i.start.line
      ++ utf8 " | ") ++ text ++ utf8 "\n"]
    ++ i.underlineRow colors column count ++ i.closing colors

theorem OnLine.lastLine (on : i.OnLine lines line) : i.lastLine = i.start.line := by
  rw [Issue.lastLine, on.single, max_self]

theorem OnLine.inside (on : i.OnLine lines line) : i.hasLines lines = true := by
  have bound := (List.getElem?_eq_some_iff.mp on.found).1
  have first := on.first
  rw [hasLines_iff, on.lastLine]
  omega

theorem OnLine.getD (on : i.OnLine lines line) :
    lines.getD (i.start.line - 1).toNat [] = line := by
  rw [List.getD_eq_getElem?_getD, on.found, Option.getD_some]

theorem commonIndent_single (solid : line.isBlankText = false) :
    commonIndent [line] = line.indent := by
  have kept : [line].filter (fun line => !line.isBlankText) = [line] := by simp [solid]
  rw [commonIndent, kept]
  exact ofChunks_chunks line.indent

theorem OnLine.shownIndent (on : i.OnLine lines line) (solid : line.isBlankText = false) :
    i.shownIndent lines = line.indent := by
  have shown : i.shownLines lines = [line] := by
    obtain ⟨bound, there⟩ := List.getElem?_eq_some_iff.mp on.found
    rw [shownLines, on.lastLine, List.drop_eq_getElem_cons bound, there, Int.sub_self]
    rfl
  rw [Issue.shownIndent, shown, commonIndent_single solid]

theorem OnLine.shiftedColumn (on : i.OnLine lines line) (solid : line.isBlankText = false)
    (col : Int) :
    i.shiftedColumn w lines i.start.line col =
      visualColumn w line col - columnsFrom w 0 line.indent.chunks := by
  rw [Issue.shiftedColumn, on.getD, on.shownIndent solid, visualColumn_end]

theorem OnLine.render (on : i.OnLine lines line) (solid : line.isBlankText = false) :
    i.render ⟨w, colors⟩ lines = i.printedLine colors (expandTabs w line.trimStart)
      (i.underlineColumn w lines) (i.underlineLength w lines) := by
  have unindented : dropIndent line.indent line = line.trimStart := by
    have split := dropIndent_append line.indent line.trimStart
    rwa [indent_trimStart] at split
  have rows : i.rows ⟨w, colors⟩ lines = [Style.line.paint colors
      (alignedNumber i.numberWidth i.start.line ++ utf8 " | ") ++ expandTabs w line.trimStart
        ++ utf8 "\n"] := by
    rw [Issue.rows, on.lastLine, Int.sub_self, on.shownIndent solid]
    simp only [Int.zero_add, Int.toNat_one, List.range_one, List.map_cons, List.map_nil,
      Int.natCast_zero, Int.add_zero, on.getD, snippetRow, unindented]
  rw [Issue.render, layout_shown on.inside, rows, printedLine]

end Issue

section Start

variable {i : Issue} {lines : List Text} {line : Text} {front back : List Chunk} {c : Chunk}

theorem split_behind_indent (split : line.chunks = front ++ c :: back)
    (behind : line.indent.length ≤ (Text.ofChunks front).length) :
    ∃ before, front = line.indent.chunks ++ before ∧
      line.trimStart.chunks = before ++ c :: back := by
  rw [chunks_indent_trimStart] at split
  rcases List.append_eq_append_iff.mp split with ⟨before, shape, rest⟩ | ⟨beyond, shape, rest⟩
  · exact ⟨before, shape, rest⟩
  · cases beyond with
    | nil => exact ⟨[], by rw [shape, List.append_nil, List.append_nil], rest.symm⟩
    | cons d beyond =>
      -- the indent would go on where the character begins
      have longer := congrArg (fun cs => (Text.ofChunks cs).length) shape
      have some := bytes_pos shape
      simp only [ofChunks_append, ofChunks_chunks, List.length_append, ofChunks_length_cons]
        at longer
      omega

/-- The underline of an issue on one line begins below the character that the issue begins with
    exactly if the tabs before it stop where they would without the indent. -/
theorem underline_starts_below (on : i.OnLine lines line)
    (split : line.chunks = front ++ c :: back)
    (position : i.start.col = (Text.ofChunks front).length + 1)
    (behind : line.indent.length ≤ (Text.ofChunks front).length) (w : WidthTable) (colors : Bool) :
    ∃ (before : List Chunk) (column count : Nat),
      line.trimStart.chunks = before ++ c :: back ∧
      i.render ⟨w, colors⟩ lines =
        i.printedLine colors (printedPieces w line.trimStart).flatten column count ∧
      (column = Text.width w ((printedPieces w line.trimStart).take before.length).flatten ↔
        KeepsStops w line.indent (Text.ofChunks before)) := by
  obtain ⟨before, shape, rest⟩ := split_behind_indent split behind
  have solid := solid_of_trimStart rest
  refine ⟨before, i.underlineColumn w lines, i.underlineLength w lines, rest, ?_, ?_⟩
  · rw [on.render solid, expandTabs_pieces]
  · have starts : before <+: line.trimStart.chunks := by
      rw [rest]
      exact List.prefix_append ..
    have shifted := on.shiftedColumn (w := w) solid i.start.col
    rw [position, visualColumn_at split, shape, columnsFrom_append] at shifted
    have wider := le_columnsFrom (w := w) (columnsFrom w 0 line.indent.chunks) before
    rw [width_printedPieces, rest, List.take_left, keepsStops_iff, chunks_cut starts,
      Issue.underlineColumn, position, shape, shifted]
    omega

def characterIssue (col : Int) : Issue :=
  { rule := utf8 "r", category := [], file := utf8 "A.java", message := utf8 "m", suggestion := []
    note := [], start := ⟨[], 1, col⟩, stop := ⟨[], 1, col⟩, severity := .error }

def wideLine : Text := utf8 "\t語\tb"

theorem underline_starts_below_wide :
    (characterIssue 6).OnLine [wideLine] wideLine ∧
      ∃ column count, (characterIssue 6).render ⟨.narrow, true⟩ [wideLine] =
          (characterIssue 6).printedLine true (printedPieces .narrow wideLine.trimStart).flatten
            column count ∧
        column =
          Text.width .narrow ((printedPieces .narrow wideLine.trimStart).take 2).flatten := by
  have on : (characterIssue 6).OnLine [wideLine] wideLine := ⟨rfl, by decide, rfl⟩
  refine ⟨on, ?_⟩
  obtain ⟨before, column, count, rest, shown, below⟩ :=
    @underline_starts_below _ _ _ (wideLine.chunks.take 3) [] ⟨0x62, [0x62]⟩ on
      (by decide +kernel) (by decide +kernel) (by decide +kernel) .narrow true
  have two : before.length = 2 := by
    have total : wideLine.trimStart.chunks.length = 3 := by decide +kernel
    rw [rest, List.length_append, List.length_singleton] at total
    omega
  rw [two] at below
  exact ⟨column, count, shown, below.mpr (.inl (by decide +kernel))⟩

def spacedLine : Text := utf8 "  a\tb"

/-- Behind two spaces a tab ends at column 8 of the line, six columns behind the indent, and it is
    printed up to column 8 of what is left of the line. -/
theorem underline_starts_before :
    (characterIssue 5).OnLine [spacedLine] spacedLine ∧
      spacedLine.chunks = spacedLine.chunks.take 4 ++ [⟨0x62, [0x62]⟩] ∧
      (characterIssue 5).start.col = (Text.ofChunks (spacedLine.chunks.take 4)).length + 1 ∧
      spacedLine.indent.length ≤ (Text.ofChunks (spacedLine.chunks.take 4)).length ∧
      (characterIssue 5).render .plain [spacedLine] =
        (characterIssue 5).printedLine false (printedPieces .narrow spacedLine.trimStart).flatten 6
          1 ∧
      Text.width .narrow ((printedPieces .narrow spacedLine.trimStart).take 2).flatten = 8 :=
  ⟨⟨rfl, by decide, rfl⟩, by decide +kernel, by decide +kernel, by decide +kernel,
    by decide +kernel, by decide +kernel⟩

end Start

section Span

variable {i : Issue} {lines : List Text} {line : Text} {body trail : List Chunk} {last : Chunk}

def EndsNarrow (w : WidthTable) (t : Text) : Prop :=
  ∃ last ∈ t.chunks.getLast?, last.bytes.length = 1 ∧ w.columns last.rune = 1

instance (t : Text) : Decidable (EndsNarrow w t) :=
  inferInstanceAs (Decidable (∃ last ∈ t.chunks.getLast?, last.bytes.length = 1 ∧ _))

theorem endsNarrow_iff {t : Text} (shape : t.chunks = body ++ [last]) :
    EndsNarrow w t ↔ last.bytes.length = 1 ∧ w.columns last.rune = 1 := by
  rw [EndsNarrow, shape, List.getLast?_concat]
  simp

theorem columnsFrom_last (solid : isBlank last.rune = false) (col : Nat) :
    columnsFrom w col (body ++ [last]) = columnsFrom w col body + w.columns last.rune := by
  have noTab : last.rune ≠ 9 := by
    intro tab
    rw [tab] at solid
    cases solid
  rw [columnsFrom_append, columnsFrom_cons, columnAfter, if_neg noTab]
  rfl

theorem columnsFrom_trail (solid : isBlank last.rune = false) (col : Nat) (trail : List Chunk) :
    columnsFrom w col body + w.columns last.rune ≤ columnsFrom w col (body ++ last :: trail) := by
  have beyond := le_columnsFrom (w := w) (columnsFrom w col (body ++ [last])) trail
  rwa [← columnsFrom_append, List.append_assoc, columnsFrom_last solid] at beyond

/-- The part of a line before the last column of its underline. It stops at the last character if
    that is one byte and otherwise takes in the blanks at the end. -/
def underlinedPart (line : Text) : Text :=
  if line.trim.chunks.getLast?.any fun last => last.bytes.length = 1 then line.trimEnd.dropLast
  else line

theorem chunks_underlinedPart (rest : line.trimStart.chunks = body ++ last :: trail)
    (text : line.trim.chunks = body ++ [last])
    (ending : line.trimEnd = Text.ofChunks (line.indent.chunks ++ (body ++ [last]))) :
    (underlinedPart line).chunks = line.indent.chunks ++
      (if last.bytes.length = 1 then body else body ++ last :: trail) := by
  have split := chunks_behind_indent rest
  rw [underlinedPart, text, List.getLast?_concat, Option.any_some]
  by_cases single : last.bytes.length = 1
  · have starts : line.indent.chunks ++ body <+: line.chunks := by
      rw [split]
      exact List.prefix_append ..
    have cut : line.trimEnd.dropLast = Text.ofChunks (line.indent.chunks ++ body) := by
      obtain ⟨b, bytes⟩ := List.length_eq_one_iff.mp single
      have back : Text.ofChunks [last] = [b] := by simp [Text.ofChunks, bytes]
      rw [ending, ← List.append_assoc, ofChunks_append, back, List.dropLast_concat]
    rw [if_pos (decide_eq_true single), if_pos single, cut, chunks_cut starts]
  · rw [if_neg (by simpa using single), if_neg single, split, List.append_assoc]

theorem textColumns_parts (solid : line.isBlankText = false) :
    textColumns line = ((line.indent.length : Int) + 1, (line.trimEnd.length : Int)) := by
  obtain ⟨body, last, trail, rest, -, ending, -⟩ := solid_parts solid
  have whole := congrArg List.length (indent_trimStart line)
  have some := bytes_pos rest
  have longer : line.indent.length + 1 ≤ line.trimEnd.length := by
    rw [ending, ofChunks_append, ofChunks_append, ofChunks_chunks, List.length_append,
      List.length_append, ofChunks_length_cons]
    omega
  rw [List.length_append] at whole
  have first : (line.length : Int) - line.trimStart.length + 1 = line.indent.length + 1 := by omega
  rw [textColumns, first, max_eq_right (by omega)]

namespace Issue

theorem OnLine.underlineColumn_text (on : i.OnLine lines line)
    (rest : line.trimStart.chunks = body ++ last :: trail)
    (starts : i.start.col = line.indent.length + 1) : i.underlineColumn w lines = 0 := by
  have first : ∃ c back, line.chunks = line.indent.chunks ++ c :: back := by
    rw [chunks_indent_trimStart, rest]
    cases body with
    | nil => exact ⟨last, trail, rfl⟩
    | cons c body => exact ⟨c, body ++ last :: trail, rfl⟩
  obtain ⟨c, back, split⟩ := first
  have column := visualColumn_at (w := w) split
  rw [ofChunks_chunks] at column
  rw [underlineColumn, on.shiftedColumn (solid_of_trimStart rest), starts, column]
  omega

/-- The underline of a whole text stops at its last character if that is one byte, and otherwise
    behind the blanks that follow it. -/
theorem OnLine.underlineLength_text (on : i.OnLine lines line)
    (rest : line.trimStart.chunks = body ++ last :: trail)
    (starts : i.start.col = line.indent.length + 1)
    (ends : i.stop.col = (Text.ofChunks (line.indent.chunks ++ (body ++ [last]))).length) :
    columnsFrom w 0 line.indent.chunks + i.underlineLength w lines =
      columnsFrom w (columnsFrom w 0 line.indent.chunks)
        (if last.bytes.length = 1 then body else body ++ last :: trail) + 1 := by
  have split := chunks_behind_indent rest
  have some := bytes_pos rest
  have column : i.stop.col =
      (Text.ofChunks (line.indent.chunks ++ body)).length + last.bytes.length := by
    rw [ends, ← List.append_assoc, ofChunks_append, List.length_append]
    simp [Text.ofChunks]
  have shifted := on.shiftedColumn (w := w) (solid_of_trimStart rest) i.stop.col
  have wider := le_columnsFrom (w := w) (columnsFrom w 0 line.indent.chunks)
    (if last.bytes.length = 1 then body else body ++ last :: trail)
  have reached : visualColumn w line i.stop.col =
      columnsFrom w (columnsFrom w 0 line.indent.chunks)
        (if last.bytes.length = 1 then body else body ++ last :: trail) := by
    by_cases narrow : last.bytes.length = 1
    · rw [if_pos narrow, column, narrow, ← columnsFrom_append]
      exact visualColumn_at split
    · rw [if_neg narrow, visualColumn_inside split (by omega) (by omega), split,
        List.append_assoc, columnsFrom_append]
  rw [reached] at shifted
  rw [underlineLength, on.underlineColumn_text rest starts, on.lastLine, shifted]
  omega

theorem OnLine.underlineLength_part (on : i.OnLine lines line) (solid : line.isBlankText = false)
    (columns : (i.start.col, i.stop.col) = textColumns line) :
    i.underlineLength w lines + (expandTabs w line.indent).width w =
      (expandTabs w (underlinedPart line)).width w + 1 := by
  obtain ⟨body, last, trail, rest, text, ending, -⟩ := solid_parts solid
  rw [textColumns_parts solid, ending, Prod.mk.injEq] at columns
  rw [width_expandTabs, width_expandTabs, chunks_underlinedPart rest text ending,
    columnsFrom_append, ← on.underlineLength_text rest columns.1 columns.2, Nat.add_comm]

theorem OnLine.underline_text (on : i.OnLine lines line) (solid : line.isBlankText = false)
    (columns : (i.start.col, i.stop.col) = textColumns line) :
    i.underlineColumn w lines = 0 ∧
      (EndsNarrow w line.trim → (i.underlineLength w lines = (expandTabs w line.trim).width w ↔
        KeepsStops w line.indent line.trim)) ∧
      (KeepsStops w line.indent line.trim →
        (i.underlineLength w lines = (expandTabs w line.trim).width w ↔
          EndsNarrow w line.trim)) := by
  obtain ⟨body, last, trail, rest, text, ending, solidLast⟩ := solid_parts solid
  rw [textColumns_parts solid, ending, Prod.mk.injEq] at columns
  obtain ⟨starts, ends⟩ := columns
  refine ⟨on.underlineColumn_text rest starts, ?_⟩
  have length := on.underlineLength_text (w := w) rest starts ends
  rw [endsNarrow_iff text, keepsStops_iff, width_expandTabs, text, columnsFrom_last solidLast,
    columnsFrom_last solidLast]
  by_cases single : last.bytes.length = 1
  · rw [if_pos single] at length
    omega
  · -- the underline goes on behind the last character, so it is too long
    have beyond :=
      @columnsFrom_trail w body last solidLast (columnsFrom w 0 line.indent.chunks) trail
    rw [if_neg single] at length
    omega

end Issue

theorem lineAt_found {n : Int} (solid : (lineAt lines n).isBlankText = false) :
    1 ≤ n ∧ lines[(n - 1).toNat]? = some (lineAt lines n) := by
  by_cases positive : 1 ≤ n
  · refine ⟨positive, ?_⟩
    rw [lineAt, if_pos positive, List.getD_eq_getElem?_getD] at solid ⊢
    cases found : lines[(n - 1).toNat]? with
    | none =>
      rw [found] at solid
      cases solid
    | some line => rfl
  · rw [lineAt, if_neg positive] at solid
    cases solid

theorem openIssues_onLine {file : Text} {rules : TagRules} {severity : Severity}
    (member : i ∈ openIssues file lines rules severity)
    (solid : (lineAt lines i.start.line).isBlankText = false) :
    i.OnLine lines (lineAt lines i.start.line) ∧
      (i.start.col, i.stop.col) = textColumns (lineAt lines i.start.line) := by
  obtain ⟨f, -, rfl⟩ := List.mem_map.mp member
  obtain ⟨positive, found⟩ := lineAt_found solid
  exact ⟨⟨rfl, positive, found⟩, rfl⟩

theorem check_reported (e : Engine) (file : Text) (lines : List Text) :
    ∃ issues, e.check file lines = .ok issues ∧
      ∀ i ∈ issues, i ∈ openIssues file lines e.tags e.severity := by
  by_cases ignored : e.isIgnoredRule tagRuleName = true
  · exact ⟨[], by rw [Engine.check, if_pos ignored], by simp⟩
  · refine ⟨_, check_openIssues e file lines (by simpa using ignored), ?_⟩
    intro i member
    exact List.mem_mergeSort.mp member

/-- The underline of a reported line begins below its first character and is as long as the part of
    the line before its last column is wide, with the indent, and one column more. That is the
    width of the text exactly if the tabs stop where they would without the indent, given that the
    last character is one byte and one column, and the other way round. -/
theorem underline_spans_text (w : WidthTable) (colors : Bool) (e : Engine) (content : Text) :
    ∃ issues, e.runSource content = .ok issues ∧
      ∀ i ∈ issues, ∀ line, line = lineAt (sourceLines content) i.start.line →
        line.isBlankText = false →
          ∃ count : Nat,
            i.render ⟨w, colors⟩ (sourceLines content) =
              i.printedLine colors (expandTabs w line.trimStart) 0 count ∧
            count + (expandTabs w line.indent).width w =
              (expandTabs w (underlinedPart line)).width w + 1 ∧
            (EndsNarrow w line.trim →
              (count = (expandTabs w line.trim).width w ↔ KeepsStops w line.indent line.trim)) ∧
            (KeepsStops w line.indent line.trim →
              (count = (expandTabs w line.trim).width w ↔ EndsNarrow w line.trim)) := by
  obtain ⟨issues, checked, reported⟩ := check_reported e [] (sourceLines content)
  refine ⟨issues, checked, ?_⟩
  rintro i member line rfl solid
  obtain ⟨on, columns⟩ := openIssues_onLine (reported i member) solid
  obtain ⟨column, span⟩ := on.underline_text solid columns
  have reached := on.underlineLength_part (w := w) solid columns
  refine ⟨i.underlineLength w (sourceLines content), ?_, reached, span⟩
  rw [on.render solid, column]

def tagless : Engine := { root := [], tags := ⟨[]⟩ }

def bareClassIssue (first last : Int) : Issue :=
  { rule := tagRuleName, category := utf8 "style", file := []
    message := utf8 "Problem finding class/interface comment", suggestion := []
    note := utf8 "class A needs a /** ... */ comment directly above it"
    start := ⟨[], 1, first⟩, stop := ⟨[], 1, last⟩, severity := .error }

def tabbedClass : Text := utf8 "\tclass A {} // 語\tx  "

theorem underline_spans_text_tabbed :
    tagless.runSource tabbedClass = .ok [bareClassIssue 2 20] ∧
      ∃ count, (bareClassIssue 2 20).render .plain [tabbedClass] =
          (bareClassIssue 2 20).printedLine false (expandTabs .narrow tabbedClass.trimStart) 0
            count ∧
        count = (expandTabs .narrow tabbedClass.trim).width .narrow := by
  have found : tagless.runSource tabbedClass = .ok [bareClassIssue 2 20] := rfl
  refine ⟨found, ?_⟩
  obtain ⟨issues, ran, spans⟩ := underline_spans_text .narrow false tagless tabbedClass
  rw [found, Except.ok.injEq] at ran
  subst ran
  obtain ⟨count, shown, -, -, whole⟩ := spans _ (List.mem_singleton.mpr rfl) tabbedClass
    (by decide +kernel) (by decide +kernel)
  exact ⟨count, shown, (whole (.inl (by decide +kernel))).mpr (by decide +kernel)⟩

def accentedClass : Text := utf8 "class A {} // é"

theorem underline_beyond_text :
    tagless.runSource accentedClass = .ok [bareClassIssue 1 16] ∧
      (bareClassIssue 1 16).render .plain (sourceLines accentedClass) =
        (bareClassIssue 1 16).printedLine false (expandTabs .narrow accentedClass.trimStart) 0 16 ∧
      (expandTabs .narrow accentedClass.trim).width .narrow = 15 :=
  ⟨rfl, by decide +kernel, by decide +kernel⟩

end Span
end JavadocLint
