import Mathlib
import JavadocLint.Proofs.DecimalText
import JavadocLint.Proofs.TrimmedText
import JavadocLint.Report.Rendering

/- What an issue is printed as, whatever its positions are. No repetition and no access to the lines
   fails, because each of them is made behind the same test on the lines of the issue. Either these
   lines are all shown with their numbers and one underline, or there is nothing between the header
   and the message. -/
namespace JavadocLint

def spaces (n : Nat) : Text := Text.replicate n (byte ' ')

section Checked

theorem repeated_nonneg {count : Int} (nonneg : 0 ≤ count) (b : UInt8) :
    Text.repeated count b = .ok (Text.replicate count.toNat b) := by
  rw [Text.repeated, if_neg (by omega)]

theorem numberedLine_ok {lines : List Text} {n : Int} (first : 1 ≤ n) (last : n ≤ lines.length) :
    numberedLine lines n = .ok (lines.getD (n - 1).toNat []) := by
  have inside : (n - 1).toNat < lines.length := by omega
  rw [numberedLine, if_neg (by omega), List.getD_eq_getElem?_getD, List.getElem?_eq_getElem inside]
  rfl

theorem linesBetween_ok {lines : List Text} {start stop : Int} (first : 1 ≤ start)
    (ordered : start ≤ stop) (last : stop ≤ lines.length) :
    linesBetween lines start stop =
      .ok ((lines.drop (start - 1).toNat).take (stop - start + 1).toNat) := by
  have proper : ¬ (decide (start < 1) || decide (stop < start - 1)) = true := by
    simp only [Bool.or_eq_true, decide_eq_true_eq]
    omega
  rw [linesBetween, if_neg proper, if_neg (by omega)]

theorem mapM_ok {α β : Type} {f : α → Except Failure β} {g : α → β} {xs : List α}
    (each : ∀ x ∈ xs, f x = .ok (g x)) : xs.mapM f = .ok (xs.map g) := by
  induction xs with
  | nil => rfl
  | cons x rest ih =>
    rw [List.mapM_cons, each x (by simp), ih fun y member => each y (by simp [member])]
    rfl

end Checked

namespace Issue

variable (i : Issue) (colors : Bool) (term : Terminal) (w : WidthTable) (lines : List Text)

def padding : Text := spaces (i.numberWidth + 1)

def opening : Text := i.header colors (spaces i.numberWidth)

def closing : Text :=
  i.messageLine colors i.padding ++ i.suggestionText colors i.padding ++ i.noteText colors
    ++ utf8 "\n"

def snippetText (rows : List Text) : Text :=
  Style.line.paint colors (i.padding ++ utf8 "|") ++ utf8 "\n" ++ rows.flatten

def underlineRow (column count : Nat) : Text :=
  Style.line.paint colors (i.padding ++ utf8 "| ") ++ spaces column
    ++ Style.message.paint colors (Text.replicate count (byte '~')) ++ utf8 "\n"

def shownLines : List Text :=
  (lines.drop (i.start.line - 1).toNat).take (i.lastLine - i.start.line + 1).toNat

def shownIndent : Text := commonIndent (i.shownLines lines)

def rows : List Text :=
  (List.range (i.lastLine - i.start.line + 1).toNat).map fun (k : Nat) =>
    snippetRow term i.numberWidth (i.shownIndent lines)
      (lines.getD (i.start.line + k - 1).toNat []) (i.start.line + k)

def shiftedColumn (n col : Int) : Int :=
  visualColumn w (lines.getD (n - 1).toNat []) col
    - visualColumn w (i.shownIndent lines) ((i.shownIndent lines).length + 1)

def underlineColumn : Nat := (i.shiftedColumn w lines i.start.line i.start.col).toNat

def underlineLength : Nat :=
  (max 1 (i.shiftedColumn w lines i.lastLine i.stop.col - i.underlineColumn w lines + 1)).toNat

variable {i colors term w lines}

theorem hasLines_iff : i.hasLines lines = true ↔
    1 ≤ i.start.line ∧ i.start.line ≤ i.lastLine ∧ i.lastLine ≤ lines.length := by
  rw [hasLines, Bool.and_eq_true, decide_eq_true_eq, decide_eq_true_eq, lastLine]
  omega

theorem margin_ok : Text.repeated i.numberWidth (byte ' ') = .ok (spaces i.numberWidth) :=
  repeated_nonneg (by omega) _

theorem padding_ok : Text.repeated (i.numberWidth + 1) (byte ' ') = .ok i.padding :=
  repeated_nonneg (by omega) _

theorem indentShared_ok (inside : i.hasLines lines = true) :
    i.indentShared lines = .ok (i.shownIndent lines) := by
  obtain ⟨first, ordered, last⟩ := hasLines_iff.mp inside
  rw [indentShared, if_pos inside, linesBetween_ok first ordered last]
  rfl

theorem snippet_ok (inside : i.hasLines lines = true) :
    i.snippet term lines i.padding (i.shownIndent lines) =
      .ok (i.snippetText term.colors (i.rows term lines)) := by
  obtain ⟨first, ordered, last⟩ := hasLines_iff.mp inside
  rw [snippet, if_pos inside, mapM_ok (g := fun k : Nat =>
    snippetRow term i.numberWidth (i.shownIndent lines)
      (lines.getD (i.start.line + k - 1).toNat []) (i.start.line + k))]
  · rfl
  · intro k member
    rw [List.mem_range] at member
    rw [numberedLine_ok (by omega) (by omega)]
    rfl

theorem underline_ok (inside : i.hasLines lines = true) :
    i.underline w lines (i.shownIndent lines) =
      .ok ⟨i.underlineColumn w lines, i.underlineLength w lines⟩ := by
  obtain ⟨first, ordered, last⟩ := hasLines_iff.mp inside
  have column : (i.underlineColumn w lines : Int) =
      max 0 (i.shiftedColumn w lines i.start.line i.start.col) := by
    rw [underlineColumn]
    omega
  have length : (i.underlineLength w lines : Int) =
      max 1 (i.shiftedColumn w lines i.lastLine i.stop.col - i.underlineColumn w lines + 1) := by
    rw [underlineLength]
    omega
  rw [underline, numberedLine_ok first (by omega), numberedLine_ok (by omega) last, length, column]
  rfl

theorem underlineText_ok (inside : i.hasLines lines = true) :
    i.underlineText term lines i.padding (i.shownIndent lines) =
      .ok (i.underlineRow term.colors (i.underlineColumn term.widths lines)
        (i.underlineLength term.widths lines)) := by
  have blanks : Text.repeated (i.underlineColumn term.widths lines) (byte ' ') =
      .ok (spaces (i.underlineColumn term.widths lines)) := repeated_nonneg (by omega) _
  have tildes : Text.repeated (i.underlineLength term.widths lines) (byte '~') =
      .ok (Text.replicate (i.underlineLength term.widths lines) (byte '~')) :=
    repeated_nonneg (by omega) _
  simp only [underlineText, if_pos inside, underline_ok inside, blanks, tildes, bind, Except.bind,
    pure, Except.pure, underlineRow]

theorem layout_shown (inside : i.hasLines lines = true) :
    i.layout term lines = .ok (i.opening term.colors
      ++ i.snippetText term.colors (i.rows term lines)
      ++ i.underlineRow term.colors (i.underlineColumn term.widths lines)
        (i.underlineLength term.widths lines)
      ++ i.closing term.colors) := by
  simp only [layout, margin_ok, padding_ok, indentShared_ok inside, snippet_ok inside,
    underlineText_ok inside, bind, Except.bind, pure, Except.pure, opening, closing,
    List.append_assoc]

theorem layout_hidden (outside : i.hasLines lines = false) :
    i.layout term lines = .ok (i.opening term.colors ++ i.closing term.colors) := by
  have notInside : ¬ i.hasLines lines = true := by simp [outside]
  simp only [layout, indentShared, snippet, underlineText, margin_ok, padding_ok,
    if_neg notInside, bind, Except.bind, pure, Except.pure, opening, closing, List.append_assoc,
    List.nil_append]

end Issue

section Indent

theorem begins_commonStart_iff {α : Type} [DecidableEq α] {front s t : List α} :
    front <+: commonStart s t ↔ front <+: s ∧ front <+: t := by
  induction s generalizing front t with
  | nil => cases t <;> simp +contextual [commonStart]
  | cons a s ih =>
    cases t with
    | nil => simp +contextual [commonStart]
    | cons b t =>
      cases front with
      | nil => simp
      | cons c front =>
        rw [commonStart]
        split
        · rename_i same
          simp only [List.cons_prefix_cons, ih, same]
          tauto
        · rename_i differ
          simp only [List.prefix_nil, reduceCtorEq, List.cons_prefix_cons, false_iff]
          rintro ⟨⟨rfl, -⟩, rfl, -⟩
          exact differ rfl

theorem begins_foldl_commonStart_iff {α : Type} [DecidableEq α] {front first : List α}
    {rest : List (List α)} :
    front <+: rest.foldl commonStart first ↔ ∀ s ∈ first :: rest, front <+: s := by
  induction rest generalizing first with
  | nil => simp
  | cons t rest ih =>
    rw [List.foldl_cons, ih]
    simp only [List.forall_mem_cons, begins_commonStart_iff, and_assoc]

theorem ofChunks_begins {first second : List Chunk} (starts : first <+: second) :
    Text.ofChunks first <+: Text.ofChunks second := by
  obtain ⟨rest, rfl⟩ := starts
  exact ⟨Text.ofChunks rest, (ofChunks_append first rest).symm⟩

theorem indent_begins (line : Text) : line.indent <+: line := by
  have starts := ofChunks_begins (List.takeWhile_prefix (l := line.chunks) fun c => isBlank c.rune)
  rwa [ofChunks_chunks] at starts

theorem commonIndent_begins {lines : List Text} {line : Text} (member : line ∈ lines)
    (solid : line.isBlankText = false) : commonIndent lines <+: line := by
  have among : line.indent.chunks ∈
      (lines.filter fun line => !line.isBlankText).map fun line => line.indent.chunks :=
    List.mem_map.mpr ⟨line, List.mem_filter.mpr ⟨member, by simp [solid]⟩, rfl⟩
  unfold commonIndent
  split
  · exact List.nil_prefix
  · rename_i first rest split
    rw [split] at among
    have starts := ofChunks_begins (begins_foldl_commonStart_iff.mp List.prefix_rfl _ among)
    rw [ofChunks_chunks] at starts
    exact starts.trans (indent_begins line)

theorem dropIndent_append (common rest : Text) :
    Issue.dropIndent common (common ++ rest) = rest := by
  have starts : common.isPrefixOf (common ++ rest) = true :=
    List.isPrefixOf_iff_prefix.mpr (List.prefix_append _ _)
  rw [Issue.dropIndent, Text.dropStart?, if_pos starts, Option.getD_some, List.drop_left]

theorem dropIndent_other {common line : Text} (lacks : ¬ common <+: line) :
    Issue.dropIndent common line = line := by
  rw [Issue.dropIndent, Text.dropStart?,
    if_neg fun starts => lacks (List.isPrefixOf_iff_prefix.mp starts)]
  rfl

end Indent

theorem ofInt_natCast (n : Nat) : Text.ofInt n = Text.ofNat n := by
  rw [Text.ofInt, if_neg (by omega), Int.natAbs_natCast]

/-- A row of a snippet: the number of the line at the right end of its field, and the line without
    the common indent. Only a blank line can lack the indent; it is shown as it is. -/
def ShowsLine (term : Terminal) (width : Nat) (common line : Text) (n : Nat) (row : Text) : Prop :=
  ∃ (pad : Nat) (rest : Text), pad + (Text.ofNat n).length = width ∧
    (line = common ++ rest ∨ line.isBlankText = true ∧ ¬ common <+: line ∧ rest = line) ∧
    row = Style.line.paint term.colors (spaces pad ++ Text.ofNat n ++ utf8 " | ")
      ++ expandTabs term.widths rest ++ utf8 "\n"

theorem snippetRow_showsLine (term : Terminal) {width n : Nat} {common line : Text}
    (fits : (Text.ofNat n).length ≤ width) (indented : line.isBlankText = false → common <+: line) :
    ShowsLine term width common line n (Issue.snippetRow term width common line n) := by
  refine ⟨width - (Text.ofNat n).length, Issue.dropIndent common line, by omega, ?_, ?_⟩
  · by_cases starts : common <+: line
    · obtain ⟨rest, rfl⟩ := starts
      rw [dropIndent_append]
      exact Or.inl rfl
    · refine Or.inr ⟨?_, starts, dropIndent_other starts⟩
      by_contra solid
      exact starts (indented (Bool.eq_false_iff.mpr solid))
  · rw [Issue.snippetRow, Issue.alignedNumber, ofInt_natCast]
    rfl

namespace Issue

variable {i : Issue} {term : Terminal} {lines : List Text}

def RendersAs (i : Issue) (term : Terminal) (lines : List Text) (text : Text) : Prop :=
  if 1 ≤ i.start.line ∧ i.lastLine ≤ lines.length then
    ∃ (rows : List Text) (column count : Nat),
      rows.length = (i.lastLine - i.start.line + 1).toNat ∧
      (∀ (k : Nat) row, rows[k]? = some row → ∃ (n : Nat) (line : Text),
        i.start.line + k = n + 1 ∧ lines[n]? = some line ∧
        ShowsLine term i.numberWidth (i.shownIndent lines) line (n + 1) row) ∧
      1 ≤ count ∧
      text = i.opening term.colors ++ i.snippetText term.colors rows
        ++ i.underlineRow term.colors column count ++ i.closing term.colors
  else text = i.opening term.colors ++ i.closing term.colors

theorem rows_show (inside : i.hasLines lines = true) {k : Nat} {row : Text}
    (there : (i.rows term lines)[k]? = some row) :
    ∃ (n : Nat) (line : Text), i.start.line + k = n + 1 ∧ lines[n]? = some line ∧
      ShowsLine term i.numberWidth (i.shownIndent lines) line (n + 1) row := by
  obtain ⟨first, ordered, last⟩ := hasLines_iff.mp inside
  rw [rows, List.getElem?_map, Option.map_eq_some_iff] at there
  obtain ⟨k', found, rfl⟩ := there
  obtain ⟨bound, same⟩ := List.getElem?_eq_some_iff.mp found
  rw [List.getElem_range] at same
  rw [List.length_range] at bound
  subst same
  have number : i.start.line + k = (i.start.line + k - 1).toNat + 1 := by omega
  have exists_line : (i.start.line + k - 1).toNat < lines.length := by omega
  have line : lines[(i.start.line + k - 1).toNat]? =
      some (lines.getD (i.start.line + k - 1).toNat []) := by
    rw [List.getD_eq_getElem?_getD, List.getElem?_eq_getElem exists_line]
    rfl
  have fits : (Text.ofNat ((i.start.line + k - 1).toNat + 1)).length ≤ i.numberWidth := by
    have wide : i.lastLine = (i.lastLine.toNat : Int) := by omega
    rw [numberWidth, wide, ofInt_natCast]
    exact ofNat_length_mono (by omega)
  have shown : lines.getD (i.start.line + k - 1).toNat [] ∈ i.shownLines lines := by
    refine List.mem_of_getElem? (i := k) ?_
    rw [shownLines, List.getElem?_take, if_pos bound, List.getElem?_drop, ← line]
    congr 1
    omega
  refine ⟨(i.start.line + k - 1).toNat, _, number, line, ?_⟩
  have row := snippetRow_showsLine term fits (commonIndent_begins shown)
  rwa [Nat.cast_add, Nat.cast_one, ← number] at row

theorem render_eq {text : Text} (done : i.layout term lines = .ok text) :
    i.render term lines = text := by
  rw [render, done]

theorem layout_rendersAs : ∃ text, i.layout term lines = .ok text ∧
    i.RendersAs term lines text := by
  by_cases inside : i.hasLines lines = true
  · obtain ⟨first, ordered, last⟩ := hasLines_iff.mp inside
    refine ⟨_, layout_shown inside, ?_⟩
    rw [RendersAs, if_pos ⟨first, last⟩]
    refine ⟨_, _, _, ?_, fun k row there => rows_show inside there, ?_, rfl⟩
    · rw [rows, List.length_map, List.length_range]
    · rw [underlineLength]
      omega
  · refine ⟨_, layout_hidden (Bool.eq_false_iff.mpr inside), ?_⟩
    rw [RendersAs, if_neg]
    intro bounds
    have ordered : i.start.line ≤ i.lastLine := Int.le_max_left _ _
    exact inside (hasLines_iff.mpr ⟨bounds.1, ordered, bounds.2⟩)

end Issue

end JavadocLint
