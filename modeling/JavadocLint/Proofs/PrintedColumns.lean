import Mathlib
import JavadocLint.Proofs.CharacterBytes
import JavadocLint.Report.Layout

/- Columns on the screen against printed text. The column of a position is the one reached behind
   the characters before it, and that is the width of their printed forms. Where a line begins
   matters for the tabs in it alone: a start that is no tab stop shifts everything behind the first
   tab. -/
namespace JavadocLint

def columnsFrom (w : WidthTable) (col : Nat) (cs : List Chunk) : Nat :=
  cs.foldl (fun col c => columnAfter w col c.rune) col

variable {w : WidthTable}

theorem columnsFrom_cons (col : Nat) (c : Chunk) (cs : List Chunk) :
    columnsFrom w col (c :: cs) = columnsFrom w (columnAfter w col c.rune) cs := rfl

theorem columnsFrom_append (col : Nat) (first second : List Chunk) :
    columnsFrom w col (first ++ second) = columnsFrom w (columnsFrom w col first) second :=
  List.foldl_append

theorem le_columnsFrom (col : Nat) (cs : List Chunk) : col ≤ columnsFrom w col cs := by
  induction cs generalizing col with
  | nil => exact le_rfl
  | cons c cs ih =>
    have step : col ≤ columnAfter w col c.rune := by
      unfold columnAfter
      split <;> omega
    exact step.trans (ih _)

section Positions

variable {column : Int} {offset : Nat}

theorem ofChunks_length_cons (c : Chunk) (cs : List Chunk) :
    (Text.ofChunks (c :: cs)).length = c.bytes.length + (Text.ofChunks cs).length := by
  rw [Text.ofChunks, List.flatMap_cons, List.length_append, Text.ofChunks]

theorem visualColumnFrom_skip {front : List Chunk} (solid : ∀ c ∈ front, c.bytes ≠ [])
    (behind : offset + (Text.ofChunks front).length < column) (col : Nat) (back : List Chunk) :
    visualColumnFrom w column offset col (front ++ back) =
      visualColumnFrom w column (offset + (Text.ofChunks front).length) (columnsFrom w col front)
        back := by
  induction front generalizing offset col with
  | nil => rfl
  | cons c front ih =>
    have some : 0 < c.bytes.length := List.length_pos_iff.mpr (solid c (by simp))
    rw [ofChunks_length_cons] at behind ⊢
    rw [List.cons_append, visualColumnFrom, if_neg (by omega),
      ih (fun d member => solid d (by simp [member])) (by omega), columnsFrom_cons, Nat.add_assoc]

theorem visualColumnFrom_before (before : column ≤ offset) (col : Nat) (cs : List Chunk) :
    visualColumnFrom w column offset col cs = columnsFrom w col cs := by
  induction cs generalizing offset col with
  | nil => rfl
  | cons c cs ih =>
    rw [visualColumnFrom, if_neg (by omega), ih (by omega), columnsFrom_cons]

variable {line : Text} {front back : List Chunk} {c : Chunk}

theorem visualColumn_nonneg (line : Text) {column : Int} (nonneg : 0 ≤ column) :
    visualColumn w line column = visualColumnFrom w column 0 0 line.chunks := by
  rw [visualColumn, if_neg (by omega)]

theorem solid_front (split : line.chunks = front ++ back) : ∀ d ∈ front, d.bytes ≠ [] := by
  intro d member
  apply chunk_nonempty (t := line)
  rw [split]
  exact List.mem_append_left back member

theorem bytes_pos (split : line.chunks = front ++ c :: back) : 0 < c.bytes.length := by
  apply List.length_pos_iff.mpr
  apply chunk_nonempty (t := line)
  rw [split]
  simp

theorem visualColumn_at (split : line.chunks = front ++ c :: back) :
    visualColumn w line ((Text.ofChunks front).length + 1) = columnsFrom w 0 front := by
  rw [visualColumn_nonneg line (by omega), split,
    visualColumnFrom_skip (solid_front split) (by omega), visualColumnFrom, if_pos (by omega)]

theorem visualColumn_end (line : Text) :
    visualColumn w line (line.length + 1) = columnsFrom w 0 line.chunks := by
  have whole : (Text.ofChunks line.chunks).length = line.length := by rw [ofChunks_chunks]
  have all := @visualColumnFrom_skip w (line.length + 1) 0 line.chunks
    (fun d member => chunk_nonempty member) (by omega) 0 []
  rwa [List.append_nil, ← visualColumn_nonneg line (by omega)] at all

theorem visualColumn_inside {column : Int} (split : line.chunks = front ++ c :: back)
    (after : (Text.ofChunks front).length + 1 < column)
    (before : column ≤ (Text.ofChunks front).length + c.bytes.length) :
    visualColumn w line column = columnsFrom w 0 line.chunks := by
  rw [visualColumn_nonneg line (by omega), split,
    visualColumnFrom_skip (solid_front split) (by omega), visualColumnFrom, if_neg (by omega),
    visualColumnFrom_before (by omega), columnsFrom_append, columnsFrom_cons]

end Positions

section Tabs

variable {cs : List Chunk}

theorem columnsFrom_congr {a b : Nat} (same : a % tabWidth = b % tabWidth) (cs : List Chunk) :
    columnsFrom w a cs + b = columnsFrom w b cs + a := by
  induction cs generalizing a b with
  | nil => exact Nat.add_comm a b
  | cons c cs ih =>
    have step : columnAfter w a c.rune + b = columnAfter w b c.rune + a := by
      unfold columnAfter
      split <;> omega
    have aligned : columnAfter w a c.rune % tabWidth = columnAfter w b c.rune % tabWidth := by
      unfold tabWidth at same ⊢
      omega
    have later := ih aligned
    rw [columnsFrom_cons, columnsFrom_cons]
    omega

theorem columnsFrom_noTab (none : ∀ c ∈ cs, c.rune ≠ 9) (a : Nat) :
    columnsFrom w a cs = a + (cs.map fun c => w.columns c.rune).sum := by
  induction cs generalizing a with
  | nil => rfl
  | cons c cs ih =>
    rw [columnsFrom_cons, ih (fun d member => none d (by simp [member])), columnAfter,
      if_neg (none c (by simp)), List.map_cons, List.sum_cons, Nat.add_assoc]

theorem columnsFrom_tab (some : ∃ c ∈ cs, c.rune = 9) (a b : Nat) :
    columnsFrom w a cs % tabWidth = columnsFrom w b cs % tabWidth := by
  induction cs generalizing a b with
  | nil =>
    obtain ⟨c, member, -⟩ := some
    cases member
  | cons c cs ih =>
    rw [columnsFrom_cons, columnsFrom_cons]
    by_cases tab : c.rune = 9
    · have aligned : columnAfter w a c.rune % tabWidth = columnAfter w b c.rune % tabWidth := by
        simp only [columnAfter, if_pos tab, tabWidth]
        omega
      have later := columnsFrom_congr (w := w) aligned cs
      unfold tabWidth at aligned ⊢
      omega
    · obtain ⟨d, member, isTab⟩ := some
      rcases List.mem_cons.mp member with rfl | further
      · exact absurd isTab tab
      · exact ih ⟨d, further, isTab⟩ _ _

/-- A text takes the same columns from any start exactly if it holds no tab or the start is a
    tab stop. -/
theorem columnsFrom_shift_iff (start : Nat) (cs : List Chunk) :
    columnsFrom w start cs = start + columnsFrom w 0 cs ↔
      tabWidth ∣ start ∨ ∀ c ∈ cs, c.rune ≠ 9 := by
  constructor
  · intro same
    by_cases some : ∃ c ∈ cs, c.rune = 9
    · have aligned := columnsFrom_tab (w := w) some start 0
      left
      unfold tabWidth at aligned ⊢
      omega
    · right
      intro c member tab
      exact some ⟨c, member, tab⟩
  · rintro (stop | none)
    · have shifted := @columnsFrom_congr w start 0 (by rw [Nat.mod_eq_zero_of_dvd stop]; rfl) cs
      omega
    · rw [columnsFrom_noTab none, columnsFrom_noTab none 0]
      omega

theorem tab_mem_iff (t : Text) : byte '\t' ∈ t ↔ ∃ c ∈ t.chunks, c.rune = 9 := by
  constructor
  · intro member
    obtain ⟨c, among, inside⟩ := mem_chunk member
    exact ⟨c, among, rune_of_ascii (by decide) among inside⟩
  · rintro ⟨c, among, tab⟩
    rw [← ofChunks_chunks t]
    refine List.mem_flatMap.mpr ⟨c, among, ?_⟩
    rcases chunk_cases among with proper | ⟨stray, -⟩
    · rw [tab] at proper
      rw [← proper.written]
      decide
    · rw [tab] at stray
      cases stray

end Tabs

section Widths

theorem width_eq (t : Text) : t.width w = (t.chunks.map fun c => w.columns c.rune).sum := by
  have sums : ∀ (rs : List Nat) (n : Nat),
      rs.foldl (fun n r => n + w.columns r) n = n + (rs.map w.columns).sum := by
    intro rs
    induction rs with
    | nil => intro n; rfl
    | cons r rs ih =>
      intro n
      rw [List.foldl_cons, ih, List.map_cons, List.sum_cons, Nat.add_assoc]
  rw [Text.width, Text.runes, sums, List.map_map, Nat.zero_add]
  rfl

theorem width_encoded {bytes : Text} {rune : Nat} (encodes : Encodes bytes rune) (rest : Text) :
    Text.width w (bytes ++ rest) = w.columns rune + rest.width w := by
  rw [width_eq, width_eq, encodes.chunks_append, List.map_cons, List.sum_cons]

theorem width_blanks (n : Nat) (rest : Text) :
    Text.width w (Text.replicate n (byte ' ') ++ rest) = n + rest.width w := by
  induction n with
  | zero => rw [Nat.zero_add]; rfl
  | succ n ih =>
    have first := width_encoded (w := w) (.one (by decide : byte ' ' < 0x80))
      (Text.replicate n (byte ' ') ++ rest)
    have blank : w.columns (byte ' ').toNat = 1 := w.blank
    rw [blank, ih] at first
    rw [show n + 1 + rest.width w = 1 + (n + rest.width w) from by omega, ← first]
    rfl

theorem ofRune_encodes {t : Text} {c : Chunk} (member : c ∈ t.chunks) :
    Encodes (Text.ofRune c.rune) c.rune := by
  rcases chunk_cases member with proper | ⟨stray, -⟩
  · rw [proper.written]
    exact proper
  · rw [stray]
    exact @Encodes.three 0xEF 0xBF 0xBD (by decide) (by decide) (by decide) (by decide)

def piecesFrom (w : WidthTable) : Nat → List Chunk → List Text
  | _, [] => []
  | col, c :: rest =>
    (if c.rune = 9 then Text.replicate (tabWidth - col % tabWidth) (byte ' ')
      else Text.ofRune c.rune) :: piecesFrom w (columnAfter w col c.rune) rest

def printedPieces (w : WidthTable) (line : Text) : List Text :=
  if line.contains (byte '\t') then piecesFrom w 0 line.chunks else line.chunks.map Chunk.bytes

theorem expandTabsFrom_pieces (col : Nat) (cs : List Chunk) :
    expandTabsFrom w col cs = (piecesFrom w col cs).flatten := by
  induction cs generalizing col with
  | nil => rfl
  | cons c cs ih => rw [expandTabsFrom, piecesFrom, List.flatten_cons, ih]

theorem expandTabs_pieces (line : Text) : expandTabs w line = (printedPieces w line).flatten := by
  unfold expandTabs printedPieces
  split
  · exact expandTabsFrom_pieces 0 line.chunks
  · rw [← List.flatMap_def]
    exact (ofChunks_chunks line).symm

theorem length_piecesFrom (col : Nat) (cs : List Chunk) :
    (piecesFrom w col cs).length = cs.length := by
  induction cs generalizing col with
  | nil => rfl
  | cons c cs ih => rw [piecesFrom, List.length_cons, ih, List.length_cons]

theorem length_printedPieces (line : Text) :
    (printedPieces w line).length = line.chunks.length := by
  unfold printedPieces
  split
  · exact length_piecesFrom 0 line.chunks
  · exact List.length_map ..

theorem piecesFrom_take (col k : Nat) (cs : List Chunk) :
    (piecesFrom w col cs).take k = piecesFrom w col (cs.take k) := by
  induction cs generalizing col k with
  | nil => simp [piecesFrom]
  | cons c cs ih =>
    cases k with
    | zero => rfl
    | succ k => rw [piecesFrom, List.take_succ_cons, ih, List.take_succ_cons, piecesFrom]

theorem width_piecesFrom {t : Text} {cs : List Chunk} (among : ∀ c ∈ cs, c ∈ t.chunks)
    (col : Nat) : col + Text.width w (piecesFrom w col cs).flatten = columnsFrom w col cs := by
  induction cs generalizing col with
  | nil => rfl
  | cons c cs ih =>
    have later := ih (fun d member => among d (by simp [member])) (columnAfter w col c.rune)
    rw [piecesFrom, List.flatten_cons, columnsFrom_cons, ← later]
    by_cases tab : c.rune = 9
    · rw [if_pos tab, width_blanks, columnAfter, if_pos tab, Nat.add_assoc]
    · rw [if_neg tab, width_encoded (ofRune_encodes (among c (by simp))), columnAfter, if_neg tab,
        Nat.add_assoc]

theorem width_printedPieces (line : Text) (k : Nat) :
    Text.width w ((printedPieces w line).take k).flatten = columnsFrom w 0 (line.chunks.take k) := by
  unfold printedPieces
  split
  · have among : ∀ c ∈ line.chunks.take k, c ∈ line.chunks :=
      fun c member => List.mem_of_mem_take member
    rw [piecesFrom_take, ← width_piecesFrom among, Nat.zero_add]
  · rename_i without
    have none : ∀ c ∈ line.chunks.take k, c.rune ≠ 9 := by
      intro c member tab
      apply without
      rw [List.contains_iff_mem]
      exact (tab_mem_iff line).mpr ⟨c, List.mem_of_mem_take member, tab⟩
    have text : ((line.chunks.map Chunk.bytes).take k).flatten =
        Text.ofChunks (line.chunks.take k) := by
      rw [← List.map_take, ← List.flatMap_def]
      rfl
    rw [text, width_eq, chunks_cut (List.take_prefix k line.chunks), columnsFrom_noTab none,
      Nat.zero_add]

theorem width_expandTabs (line : Text) :
    (expandTabs w line).width w = columnsFrom w 0 line.chunks := by
  have all := width_printedPieces (w := w) line line.chunks.length
  rwa [List.take_length, ← length_printedPieces, List.take_length, ← expandTabs_pieces] at all

end Widths

section Boundaries

/-- The columns at which a character of the line begins, and the one behind its last character. -/
def ColumnOf (line : Text) (column : Int) : Prop :=
  ∃ front back, line.chunks = front ++ back ∧ column = (Text.ofChunks front).length + 1

variable {line : Text} {front back : List Chunk}

theorem take_ofChunks (split : line.chunks = front ++ back) :
    line.take (Text.ofChunks front).length = Text.ofChunks front := by
  have whole := congrArg Text.ofChunks split
  rw [ofChunks_chunks, ofChunks_append] at whole
  rw [whole, List.take_left]

theorem visualColumn_split (split : line.chunks = front ++ back) :
    visualColumn w line ((Text.ofChunks front).length + 1) = columnsFrom w 0 front := by
  cases back with
  | nil =>
    rw [List.append_nil] at split
    rw [← split, ofChunks_chunks, visualColumn_end]
  | cons c back => exact visualColumn_at split

theorem starts_nested {front' back' : List Chunk} (split : line.chunks = front ++ back)
    (split' : line.chunks = front' ++ back')
    (less : (Text.ofChunks front).length ≤ (Text.ofChunks front').length) : front <+: front' := by
  rcases List.append_eq_append_iff.mp (split.symm.trans split') with ⟨more, rfl, -⟩ | ⟨more, rfl, -⟩
  · exact List.prefix_append front more
  · cases more with
    | nil => rw [List.append_nil]
    | cons c more =>
      have some : 0 < c.bytes.length := by
        rw [List.append_assoc, List.cons_append] at split
        exact bytes_pos split
      rw [ofChunks_append, List.length_append, ofChunks_length_cons] at less
      omega

end Boundaries

/-- The column on the screen of a character, or of the end of a line, is the width of the line up to
    there as it is printed, and it does not decrease along the line. -/
theorem column_is_printed_width (w : WidthTable) (line : Text) :
    (∀ column, ColumnOf line column →
      visualColumn w line column = (expandTabs w (line.take (column - 1).toNat)).width w) ∧
    ∀ column later, ColumnOf line column → ColumnOf line later → column ≤ later →
      visualColumn w line column ≤ visualColumn w line later := by
  constructor
  · rintro column ⟨front, back, split, rfl⟩
    rw [visualColumn_split split, add_sub_cancel_right, Int.toNat_natCast, take_ofChunks split,
      width_expandTabs, chunks_cut ⟨back, split.symm⟩]
  · rintro column later ⟨front, back, split, rfl⟩ ⟨front', back', split', rfl⟩ less
    obtain ⟨more, rfl⟩ := starts_nested split split' (by omega)
    rw [visualColumn_split split, visualColumn_split split', columnsFrom_append]
    exact le_columnsFrom _ more

/-- A wide character, a tab, a letter with a mark over it, a stray byte, and another tab. -/
def unevenLine : Text := [0xE4, 0xB8, 0xAD, 9, 0x65, 0xCC, 0x81, 0xFF, 9, 0x78]

theorem column_is_printed_width_uneven :
    ColumnOf unevenLine 8 ∧ ColumnOf unevenLine 10 ∧
      visualColumn .narrow unevenLine 8 = 9 ∧ visualColumn .narrow unevenLine 10 = 16 ∧
      visualColumn .narrow unevenLine 10 = (expandTabs .narrow (unevenLine.take 9)).width .narrow ∧
      visualColumn .narrow unevenLine 8 ≤ visualColumn .narrow unevenLine 10 := by
  have stray : ColumnOf unevenLine 8 :=
    ⟨unevenLine.chunks.take 4, unevenLine.chunks.drop 4, by decide, by decide⟩
  have last : ColumnOf unevenLine 10 :=
    ⟨unevenLine.chunks.take 6, unevenLine.chunks.drop 6, by decide, by decide⟩
  obtain ⟨widths, ordered⟩ := column_is_printed_width .narrow unevenLine
  exact ⟨stray, last, by decide, by decide, widths 10 last, ordered 8 10 stray last (by decide)⟩

end JavadocLint
