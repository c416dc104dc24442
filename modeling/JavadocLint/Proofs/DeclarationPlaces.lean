import Mathlib
import JavadocLint.Proofs.DeclarationLines
import JavadocLint.Proofs.DeclarationSites
import JavadocLint.Proofs.PlacedTokens

/- Where the declarations of a file stand. Their lines only grow along the list, since each of them is
   the line of the current member or of the current token; and each comes from two words of the file,
   its keyword and its name, in this order. -/
namespace JavadocLint

namespace MemberState

def places (s : MemberState) : List (Int × Int) :=
  (s.pending.map fun o => ((o.line : Int), (o.keywordLine : Int))).toList ++
    s.found.map fun d => (d.line, d.keywordLine)

/-- No line number is past the line of the last token, and all of them have only grown. A member
    begins no earlier than any declaration so far. -/
structure Ordered (now : Nat) (s : MemberState) : Prop where
  member : ∀ line ∈ s.memberLine, line ≤ now
  sorted : s.places.Pairwise fun later earlier => earlier.1 ≤ later.1 ∧ earlier.2 ≤ later.2
  bounded : ∀ p ∈ s.places, p.1 ≤ p.2 ∧ p.2 ≤ now ∧ ∀ line ∈ s.memberLine, p.1 ≤ line

variable {now line : Nat} {s t : MemberState}

theorem Ordered.begun (ordered : s.Ordered now) (later : now ≤ line) :
    s.memberLine.getD line ≤ line ∧ ∀ p ∈ s.places, p.1 ≤ s.memberLine.getD line := by
  cases first : s.memberLine with
  | none =>
    refine ⟨Nat.le_refl line, fun p member => ?_⟩
    obtain ⟨lines, last, -⟩ := ordered.bounded p member
    simp only [Option.getD_none]
    omega
  | some l =>
    exact ⟨(ordered.member l first).trans later, fun p member =>
      (ordered.bounded p member).2.2 l first⟩

theorem Ordered.change (ordered : s.Ordered now) (later : now ≤ line)
    (places : t.places.Sublist s.places)
    (member : t.memberLine = none ∨ t.memberLine = s.memberLine ∨
      t.memberLine = some (s.memberLine.getD line)) : t.Ordered line := by
  obtain ⟨first, below⟩ := ordered.begun later
  refine ⟨?_, ordered.sorted.sublist places, ?_⟩
  · intro l eq
    rcases member with none | same | begun
    · simp [none] at eq
    · rw [same] at eq
      exact (ordered.member l eq).trans later
    · rw [begun, Option.mem_some_iff] at eq
      exact eq ▸ first
  · intro p among
    have old := places.subset among
    obtain ⟨lines, last, above⟩ := ordered.bounded p old
    refine ⟨lines, by omega, ?_⟩
    intro l eq
    rcases member with none | same | begun
    · simp [none] at eq
    · exact above l (same ▸ eq)
    · rw [begun, Option.mem_some_iff] at eq
      exact eq ▸ below p old

theorem Ordered.readWord (ordered : s.Ordered now) (later : now ≤ line) (w : Text) :
    (s.readWord w line).Ordered line := by
  cases waiting : s.pending with
  | some o =>
    -- the declaration that waited is now the last one found, on the same lines
    refine ordered.change later ?_ (.inr (.inr ?_))
    · simp [MemberState.readWord, places, waiting, begin, OpenDeclaration.close]
    · simp [MemberState.readWord, waiting, begin]
  | none =>
    have begun : (s.readWord w line).memberLine = some (s.memberLine.getD line) := by
      simp [MemberState.readWord, waiting, begin]
    cases opened : (s.readWord w line).pending with
    | none =>
      refine ordered.change later ?_ (.inr (.inr begun))
      simp [places, opened, waiting, readWord_found]
    | some o =>
      have lines : o.line = s.memberLine.getD line ∧ o.keywordLine = line := by
        simp only [MemberState.readWord, waiting] at opened
        split at opened
        · obtain ⟨kind, -, rfl⟩ := Option.map_eq_some_iff.mp opened
          exact ⟨rfl, rfl⟩
        · cases opened
      have all : (s.readWord w line).places =
          ((s.memberLine.getD line : Int), (line : Int)) :: s.places := by
        simp [places, opened, waiting, readWord_found, lines]
      obtain ⟨first, below⟩ := ordered.begun later
      refine ⟨?_, ?_, ?_⟩
      · intro l eq
        rw [begun, Option.mem_some_iff] at eq
        exact eq ▸ first
      · rw [all, List.pairwise_cons]
        refine ⟨fun p member => ⟨below p member, ?_⟩, ordered.sorted⟩
        have last := (ordered.bounded p member).2.1
        dsimp only
        omega
      · rw [all, begun]
        intro p member
        rcases List.mem_cons.mp member with rfl | old
        · exact ⟨Int.ofNat_le.mpr first, le_refl _, by simp⟩
        · obtain ⟨lines, last, -⟩ := ordered.bounded p old
          refine ⟨lines, by omega, ?_⟩
          intro l eq
          rw [Option.mem_some_iff] at eq
          exact eq ▸ below p old

theorem Ordered.read (ordered : s.Ordered now) (later : now ≤ line) (token : Token) :
    (s.read line token).Ordered line := by
  cases token with
  | word w => exact ordered.readWord later w
  | literal q => exact ordered.change later (List.Sublist.refl _) (.inr (.inr rfl))
  | punct b =>
    obtain ⟨-, pending, found⟩ := readPunct_rest s b line
    change (s.readPunct b line).Ordered line
    refine ordered.change later ?_ ?_
    · simp [places, pending, found]
    · rw [readPunct_memberLine]
      split_ifs <;> simp

theorem Ordered.readAll (ordered : s.Ordered now) (tokens : List LocatedToken)
    (after : ∀ u ∈ tokens, now ≤ u.2) (sorted : tokens.Pairwise fun u v => u.2 ≤ v.2) :
    ∃ last, (s.readAll tokens).Ordered last := by
  induction tokens generalizing s now with
  | nil => exact ⟨now, ordered⟩
  | cons u rest ih =>
    obtain ⟨first, later⟩ := List.pairwise_cons.mp sorted
    exact ih (ordered.read (after u List.mem_cons_self) u.1) first later

end MemberState

section Sources

/-- The word of a keyword; the at sign of an annotation type can stand apart from it. -/
def DeclarationKind.word (kind : DeclarationKind) : Text := kind.keyword.dropWhile (· = byte '@')

theorem keywordKind?_some {w : Text} {prev : Previous} {kind : DeclarationKind}
    (opens : keywordKind? w prev = some kind) :
    w = kind.word ∧ (kind = .annotationType → prev = .mark (byte '@')) := by
  unfold keywordKind? at opens
  split_ifs at opens with dot isClass isInterface sign isEnum isRecord
  · cases opens
    exact ⟨isClass, nofun⟩
  · cases opens
    exact ⟨isInterface, fun _ => sign⟩
  · cases opens
    exact ⟨isInterface, nofun⟩
  · cases opens
    exact ⟨isEnum, nofun⟩
  · cases opens
    rw [Bool.and_eq_true, decide_eq_true_eq] at isRecord
    exact ⟨isRecord.1, nofun⟩

def SignBefore (seen : List PlacedToken) (kind : DeclarationKind) (c : Cursor) : Prop :=
  kind = .annotationType → ∃ sign, [(.punct (byte '@'), sign), (.word kind.word, c)] <:+: seen

/-- A declaration comes from its keyword and its name, one that waits for its name from its
    keyword. -/
structure Sourced (seen : List PlacedToken) (s : MemberState) : Prop where
  sign : s.previous = .mark (byte '@') → ∃ c, [(.punct (byte '@'), c)] <:+ seen
  pending : ∀ o ∈ s.pending, ∃ c, o.keywordLine = c.row + 1 ∧ (.word o.kind.word, c) ∈ seen ∧
    SignBefore seen o.kind c
  found : ∀ d ∈ s.found, ∃ c c', d.keywordLine = c.row + 1 ∧
    [(.word d.kind.word, c), (.word d.name, c')].Sublist seen ∧ SignBefore seen d.kind c

variable {seen : List PlacedToken} {s : MemberState}

theorem SignBefore.more {kind : DeclarationKind} {c : Cursor} (before : SignBefore seen kind c)
    (t : PlacedToken) : SignBefore (seen ++ [t]) kind c := by
  intro isAnnotation
  obtain ⟨sign, place⟩ := before isAnnotation
  exact ⟨sign, place.trans (List.prefix_append seen [t]).isInfix⟩

theorem pair_sublist {t : PlacedToken} (member : t ∈ seen) (u : PlacedToken) :
    [t, u].Sublist (seen ++ [u]) :=
  (List.singleton_sublist.mpr member).append (List.Sublist.refl [u])

theorem Sourced.more (sourced : Sourced seen s) (t : PlacedToken) {s' : MemberState}
    (sign : s'.previous = .mark (byte '@') → ∃ c, [(.punct (byte '@'), c)] <:+ seen ++ [t])
    (pending : s'.pending = none ∨ s'.pending = s.pending) (found : s'.found = s.found) :
    Sourced (seen ++ [t]) s' where
  sign := sign
  pending := by
    intro o waits
    rcases pending with none | same
    · simp [none] at waits
    · obtain ⟨c, line, member, before⟩ := sourced.pending o (same ▸ waits)
      exact ⟨c, line, List.mem_append_left _ member, before.more t⟩
  found := by
    intro d member
    obtain ⟨c, c', line, words, before⟩ := sourced.found d (found ▸ member)
    exact ⟨c, c', line, words.trans (List.sublist_append_left seen [t]), before.more t⟩

theorem Sourced.word (sourced : Sourced seen s) (w : Text) (c : Cursor) :
    Sourced (seen ++ [(.word w, c)]) (s.readWord w (c.row + 1)) := by
  cases waiting : s.pending with
  | some o =>
    obtain ⟨k, line, member, before⟩ := sourced.pending o waiting
    have closed : Sourced (seen ++ [(.word w, c)]) { s with pending := none, previous := .word } :=
      sourced.more _ (by simp) (.inl rfl) rfl
    refine ⟨?_, ?_, ?_⟩
    · simp [MemberState.readWord, waiting]
    · simp [MemberState.readWord, waiting]
    · intro d among
      simp only [readWord_found, waiting, Option.map_some, Option.toList_some,
        List.cons_append, List.nil_append] at among
      rcases List.mem_cons.mp among with rfl | old
      · exact ⟨k, c, by simp [OpenDeclaration.close, line], pair_sublist member _, before.more _⟩
      · exact closed.found d old
  | none =>
    have kept : Sourced (seen ++ [(.word w, c)]) { s with previous := .word } :=
      sourced.more _ (by simp) (.inr rfl) rfl
    refine ⟨?_, ?_, ?_⟩
    · simp [MemberState.readWord, waiting]
    · intro o opened
      simp only [MemberState.readWord, waiting] at opened
      split at opened
      · obtain ⟨kind, keyword, rfl⟩ := Option.map_eq_some_iff.mp opened
        obtain ⟨rfl, atSign⟩ := keywordKind?_some keyword
        refine ⟨c, rfl, by simp, fun isAnnotation => ?_⟩
        obtain ⟨sign, earlier, rfl⟩ := sourced.sign (atSign isAnnotation)
        exact ⟨sign, earlier, [], by simp⟩
      · cases opened
    · intro d among
      simp only [readWord_found, waiting, Option.map_none, Option.toList_none,
        List.nil_append] at among
      exact kept.found d among

theorem Sourced.read (sourced : Sourced seen s) {t : PlacedToken}
    (proper : t.1 ≠ .literal (byte '@')) :
    Sourced (seen ++ [t]) (s.read (t.2.row + 1) t.1) := by
  obtain ⟨token, c⟩ := t
  cases token with
  | word w => exact sourced.word w c
  | literal q =>
    refine sourced.more _ ?_ (.inr rfl) rfl
    rintro ⟨⟩
    exact absurd rfl proper
  | punct b =>
    obtain ⟨previous, pending, found⟩ := readPunct_rest s b (c.row + 1)
    refine sourced.more _ ?_ (.inl pending) found
    change (s.readPunct b (c.row + 1)).previous = _ → _
    rw [previous]
    rintro ⟨⟩
    exact ⟨c, List.suffix_append seen _⟩

theorem Sourced.readAll (sourced : Sourced seen s) (tokens : List PlacedToken)
    (proper : ∀ t ∈ tokens, t.1 ≠ .literal (byte '@')) :
    Sourced (seen ++ tokens) (s.readAll (tokens.map fun t => (t.1, t.2.row + 1))) := by
  induction tokens generalizing seen s with
  | nil => rwa [List.append_nil]
  | cons t rest ih =>
    have tail := ih (sourced.read (proper t List.mem_cons_self))
      fun u member => proper u (List.mem_cons_of_mem _ member)
    rw [List.append_assoc] at tail
    exact tail

end Sources

section Places

variable {lines : List Text}

def StandsAt (lines : List Text) (row col : Nat) (w : Text) : Prop :=
  ∃ before after, lines[row]? = some (before ++ w ++ after) ∧ before.length = col ∧
    ∀ b ∈ after.head?, isWordPart b = false

theorem standsAt_placed {w : Text} {c : Cursor} (member : (.word w, c) ∈ placedTokens lines) :
    IsIdentifier w ∧ ∃ col, c = ⟨c.row, col + w.length⟩ ∧ StandsAt lines c.row col w := by
  obtain ⟨text, there, identifier, before, after, rfl, col, ends⟩ :=
    placedTokens_shows lines _ member
  refine ⟨identifier, before.length, ?_, before, after, there, rfl, ends⟩
  rw [← List.length_append, ← col]

/-- The lines and words of a declaration: it begins at or above the line of its keyword, and its name
    is an identifier that comes after the keyword, on the same line or below. -/
structure Declaration.WellPlaced (lines : List Text) (d : Declaration) : Prop where
  inside : 1 ≤ d.line ∧ d.line ≤ d.keywordLine ∧ d.keywordLine ≤ lines.length
  name : IsIdentifier d.name
  words : ∃ row col nameRow nameCol : Nat, d.keywordLine = row + 1 ∧
    StandsAt lines row col d.kind.word ∧ StandsAt lines nameRow nameCol d.name ∧
    (row < nameRow ∨ row = nameRow ∧ col + d.kind.word.length ≤ nameCol) ∧
    SignBefore (placedTokens lines) d.kind ⟨row, col + d.kind.word.length⟩

theorem declarations_sourced (lines : List Text) :
    Sourced (placedTokens lines) (MemberState.readAll {} (fileTokens lines)) := by
  have start : Sourced [] {} := ⟨nofun, nofun, nofun⟩
  rw [fileTokens_placedTokens]
  refine start.readAll (placedTokens lines) ?_
  intro t member sign
  obtain ⟨text, -, shows⟩ := placedTokens_shows lines t member
  obtain ⟨token, c⟩ := t
  cases sign
  have quote : byte '@' = byte '"' ∨ byte '@' = byte '\'' := shows
  exact absurd quote (by decide)

theorem declarations_ordered (lines : List Text) :
    ∃ last, (MemberState.readAll {} (fileTokens lines)).Ordered last := by
  have start : MemberState.Ordered 0 {} := ⟨nofun, .nil, nofun⟩
  refine start.readAll (fileTokens lines) (fun _ _ => Nat.zero_le _) ?_
  rw [fileTokens_placedTokens, List.pairwise_map]
  refine (placedTokens_pairwise lines).imp ?_
  rintro t u (below | ⟨same, -⟩)
  · exact Nat.succ_le_succ (Nat.le_of_lt below)
  · rw [same]

end Places

/-- Every declaration is well placed, and along the list neither the first lines nor the keyword
    lines ever go back. -/
theorem declarations_well_placed (lines : List Text) :
    (∀ d ∈ declarations lines, d.WellPlaced lines) ∧
      (declarations lines).Pairwise fun d e => d.line ≤ e.line ∧ d.keywordLine ≤ e.keywordLine := by
  obtain ⟨last, ordered⟩ := declarations_ordered lines
  obtain ⟨-, sorted, bounded⟩ := ordered
  constructor
  · intro d member
    obtain ⟨⟨first, -⟩, -, inside⟩ := declarations_lie_within lines d member
    rw [declarations_readAll, List.mem_reverse] at member
    obtain ⟨c, c', line, words, sign⟩ := (declarations_sourced lines).found d member
    have place : (d.line, d.keywordLine) ∈
        (MemberState.readAll {} (fileTokens lines)).places :=
      List.mem_append_right _ (List.mem_map_of_mem member)
    have order := (placedTokens_pairwise lines).sublist words
    obtain ⟨-, col, end', keyword⟩ := standsAt_placed (words.subset List.mem_cons_self)
    obtain ⟨identifier, nameCol, nameEnd, name⟩ :=
      standsAt_placed (words.subset (List.mem_cons_of_mem _ List.mem_cons_self))
    refine ⟨⟨first, (bounded _ place).1, inside⟩, identifier,
      c.row, col, c'.row, nameCol, line, keyword, name, ?_, end' ▸ sign⟩
    rw [end', nameEnd] at order
    rcases (List.pairwise_cons.mp order).1 _ List.mem_cons_self with below | ⟨same, after⟩
    · exact .inl below
    · refine .inr ⟨same, ?_⟩
      have start := after d.name rfl
      dsimp only at start
      omega
  · rw [declarations_readAll, List.pairwise_reverse]
    exact List.pairwise_map.mp (sorted.sublist (List.sublist_append_right _ _))

def scatteredLines : List Text :=
  [utf8 "final @ /* class X", utf8 "*/ interface// class Y", utf8 "\"Z\"A1(", utf8 ") \x7b enum E ;"]

theorem declarations_well_placed_scattered :
    declarations scatteredLines =
        [⟨.annotationType, utf8 "A1", 1, 2, false⟩, ⟨.enumType, utf8 "E", 4, 4, true⟩] ∧
      Declaration.WellPlaced scatteredLines ⟨.annotationType, utf8 "A1", 1, 2, false⟩ :=
  ⟨by decide +kernel, (declarations_well_placed scatteredLines).1 _ (by decide +kernel)⟩

end JavadocLint
