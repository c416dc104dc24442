import Mathlib
import JavadocLint.Proofs.BlankLine
import JavadocLint.Proofs.SuppressionReach

/- Suppression comments with a list of rules. Such a comment suppresses the rules of its list and no
   others, with one exception: a list that holds separators only names no rule, and its comment then
   acts like one without a list. A file obeys its lists exactly if every line that such a comment
   covers is also covered by a comment without a list. -/
namespace JavadocLint

/-- The rule is one of the items of a comma-separated list, without the blanks around it. Nothing
    between two commas is no item. -/
def Lists (list rule : Text) : Prop :=
  rule ≠ [] ∧ ∃ front piece back, list = front ++ piece ++ back ∧ byte ',' ∉ piece ∧
    piece.trim = rule ∧ (front = [] ∨ front.getLast? = some (byte ',')) ∧
    (back = [] ∨ back.head? = some (byte ','))

section Items

variable {sep : UInt8} {t piece : Text}

theorem splitOn_piece (member : piece ∈ Text.splitOn sep t) :
    ∃ front back, t = front ++ piece ++ back ∧ (front = [] ∨ front.getLast? = some sep) ∧
      (back = [] ∨ back.head? = some sep) := by
  induction size : t.length using Nat.strongRecOn generalizing t with
  | ind n ih =>
    by_cases separated : sep ∈ t
    · obtain ⟨first, rest, rfl, absent⟩ := List.eq_append_cons_of_mem separated
      rw [Text.splitOn_append, Text.splitOn_single absent, List.mem_append,
        List.mem_singleton] at member
      rcases member with rfl | later
      · exact ⟨[], sep :: rest, by simp, .inl rfl, .inr rfl⟩
      · have shorter : rest.length < n := by
          rw [← size, List.length_append, List.length_cons]
          omega
        obtain ⟨front, back, rfl, before, after⟩ := ih rest.length shorter later rfl
        refine ⟨first ++ sep :: front, back, by simp, .inr ?_, after⟩
        rcases before with rfl | last
        · simp
        · simp [List.getLast?_append, List.getLast?_cons, last]
    · rw [Text.splitOn_single separated, List.mem_singleton] at member
      subst member
      exact ⟨[], [], by simp, .inl rfl, .inl rfl⟩

theorem mem_splitOn_of_piece {front back : Text} (absent : sep ∉ piece)
    (before : front = [] ∨ front.getLast? = some sep)
    (after : back = [] ∨ back.head? = some sep) :
    piece ∈ Text.splitOn sep (front ++ piece ++ back) := by
  have tail : piece ∈ Text.splitOn sep (piece ++ back) := by
    rcases after with rfl | next
    · rw [List.append_nil, Text.splitOn_single absent]
      exact List.mem_singleton_self piece
    · obtain ⟨rest, rfl⟩ := List.head?_eq_some_iff.mp next
      rw [Text.splitOn_append, Text.splitOn_single absent]
      exact List.mem_cons_self
  rw [List.append_assoc]
  rcases before with rfl | last
  · exact tail
  · obtain ⟨start, rfl⟩ := List.getLast?_eq_some_iff.mp last
    rw [List.append_assoc, List.singleton_append, Text.splitOn_append]
    exact List.mem_append_right _ tail

theorem mem_listItems (list rule : Text) : rule ∈ list.listItems ↔ Lists list rule := by
  simp only [Text.listItems, List.mem_filter, List.mem_map, Bool.not_eq_true', List.isEmpty_eq_false_iff]
  constructor
  · rintro ⟨⟨piece, member, trimmed⟩, present⟩
    obtain ⟨front, back, whole, before, after⟩ := splitOn_piece member
    exact ⟨present, front, piece, back, whole, Text.sep_notMem_splitOn member, trimmed, before, after⟩
  · rintro ⟨present, front, piece, back, rfl, absent, trimmed, before, after⟩
    exact ⟨⟨piece, mem_splitOn_of_piece absent before after, trimmed⟩, present⟩

theorem Lists.length_le {list rule : Text} (listed : Lists list rule) :
    rule.length ≤ list.length := by
  obtain ⟨-, front, piece, back, rfl, -, rfl, -, -⟩ := listed
  have trimmed := (trim_inside piece).length_le
  simp only [List.length_append]
  omega

end Items

section Kinds

def IsBlanket (rest : Text) : Prop := rest.head? ≠ some (byte ':')

/-- A colon follows the mark, and the list after it names the rule. The list ends at a blank. -/
def NamesRule (rule rest : Text) : Prop :=
  ∃ list : Text, rest = byte ':' :: list ∧ Lists list.firstWord rule

def NamesNothing (rest : Text) : Prop :=
  ∃ list : Text, rest = byte ':' :: list ∧ ∀ rule, ¬ Lists list.firstWord rule

variable {rest rule : Text} {rules : List Text}

theorem suppressedRules?_blanket (read : suppressedRules? rest = some rules)
    (blanket : IsBlanket rest) : rules = [] := by
  cases rest with
  | nil =>
    cases read
    rfl
  | cons b more =>
    have noColon : b ≠ byte ':' := fun same => blanket (by rw [same]; rfl)
    simp only [suppressedRules?, noColon, if_false] at read
    split at read
    · cases read
      rfl
    · cases read

theorem suppressedRules?_list {list : Text}
    (read : suppressedRules? (byte ':' :: list) = some rules) :
    rules = ruleNames list.firstWord := by
  simp only [suppressedRules?, if_true] at read
  split at read
  · cases read
  · cases read
    rfl

theorem suppressedRules?_kinds (read : suppressedRules? rest = some rules) (rule : Text) :
    (rules = [] ∨ rule ∈ rules) ↔ IsBlanket rest ∨ NamesRule rule rest ∨ NamesNothing rest := by
  by_cases blanket : IsBlanket rest
  · simp [suppressedRules?_blanket read blanket, blanket]
  · obtain ⟨list, rfl⟩ : ∃ list : Text, rest = byte ':' :: list := by
      rw [IsBlanket, not_not] at blanket
      exact List.head?_eq_some_iff.mp blanket
    have same := suppressedRules?_list read
    have member : ∀ name, name ∈ rules ↔ Lists list.firstWord name := fun name => by
      rw [same, mem_ruleNames, mem_listItems]
    constructor
    · rintro (rfl | named)
      · refine .inr (.inr ⟨list, rfl, fun name listed => ?_⟩)
        cases (member name).mpr listed
      · exact .inr (.inl ⟨list, rfl, (member rule).mp named⟩)
    · rintro (never | ⟨other, eq, listed⟩ | ⟨other, eq, none⟩)
      · exact absurd never blanket
      · cases eq
        exact .inr ((member rule).mpr listed)
      · cases eq
        refine .inl (List.eq_nil_iff_forall_not_mem.mpr fun name named => ?_)
        exact none name ((member name).mp named)

theorem firstWord_inside (t : Text) : t.firstWord <:+: t := by
  obtain ⟨later, suffix, eq⟩ := chunks_dropWhile (fun c => isBlank c.rune) t
  obtain ⟨back, split⟩ :=
    List.takeWhile_prefix (l := Text.chunks later) fun c : Chunk => !isBlank c.rune
  have front : t.firstWord <+: later := by
    refine ⟨Text.ofChunks back, ?_⟩
    rw [Text.firstWord, eq, ← ofChunks_append, split, ofChunks_chunks]
  exact front.isInfix.trans suffix.isInfix

theorem NamesRule.length_le (named : NamesRule rule rest) : rule.length ≤ rest.length := by
  obtain ⟨list, rfl, listed⟩ := named
  have shorter := listed.length_le
  have inside := (firstWord_inside list).length_le
  rw [List.length_cons]
  omega

end Kinds

def CoveredBy (file : Text) (lines : List Text) (l : Int) (kind : Text → Prop) : Prop :=
  ∃ i line before rest s, lines[i]? = some line ∧
    Text.cut? suppressionMark line = some (before, rest) ∧
    suppressionAt? file lines i line = some s ∧ s.start.line ≤ l ∧ l ≤ s.stop.line ∧ kind rest

section Coverage

variable {file : Text} {lines : List Text} {l : Int} {rule : Text}

theorem suppressionAt?_rules {i : Nat} {line before rest : Text} {s : Suppression}
    (cut : Text.cut? suppressionMark line = some (before, rest))
    (found : suppressionAt? file lines i line = some s) : suppressedRules? rest = some s.rules := by
  have whole := suppressionAt?_reach file lines i line
  rw [found, cut, Option.map_some, Option.bind_some] at whole
  obtain ⟨rules, read, same⟩ := Option.map_eq_some_iff.mp whole.symm
  have equal : rules = s.rules := congrArg Prod.fst same
  rw [read, equal]

theorem cut?_of_suppressionAt? {i : Nat} {line : Text} {s : Suppression}
    (found : suppressionAt? file lines i line = some s) :
    ∃ before rest, Text.cut? suppressionMark line = some (before, rest) := by
  have whole := suppressionAt?_reach file lines i line
  cases cut : Text.cut? suppressionMark line with
  | some parts => exact ⟨parts.1, parts.2, rfl⟩
  | none =>
    rw [found, cut] at whole
    cases whole

theorem isSuppressed_kinds (file : Text) (lines : List Text) (l : Int) (rule : Text) :
    isSuppressed (suppressions file lines) l rule = true ↔
      CoveredBy file lines l IsBlanket ∨ CoveredBy file lines l (NamesRule rule) ∨
        CoveredBy file lines l NamesNothing := by
  simp only [isSuppressed, List.any_eq_true, mem_suppressions, Bool.and_eq_true, Bool.or_eq_true,
    decide_eq_true_eq, List.isEmpty_iff, List.contains_iff_mem]
  constructor
  · rintro ⟨s, ⟨i, line, there, found⟩, ⟨first, last⟩, named⟩
    obtain ⟨before, rest, cut⟩ := cut?_of_suppressionAt? found
    have covered : ∀ kind : Text → Prop, kind rest → CoveredBy file lines l kind :=
      fun kind holds => ⟨i, line, before, rest, s, there, cut, found, first, last, holds⟩
    rcases (suppressedRules?_kinds (suppressionAt?_rules cut found) rule).mp named with
      blanket | names | nothing
    · exact .inl (covered _ blanket)
    · exact .inr (.inl (covered _ names))
    · exact .inr (.inr (covered _ nothing))
  · have covers : ∀ kind : Text → Prop,
        (∀ rest, kind rest → IsBlanket rest ∨ NamesRule rule rest ∨ NamesNothing rest) →
        CoveredBy file lines l kind →
        ∃ s, (∃ i line, lines[i]? = some line ∧ suppressionAt? file lines i line = some s) ∧
          (s.start.line ≤ l ∧ l ≤ s.stop.line) ∧ (s.rules = [] ∨ rule ∈ s.rules) := by
      rintro kind among ⟨i, line, before, rest, s, there, cut, found, first, last, holds⟩
      exact ⟨s, ⟨i, line, there, found⟩, ⟨first, last⟩,
        (suppressedRules?_kinds (suppressionAt?_rules cut found) rule).mpr (among rest holds)⟩
    rintro (blanket | names | nothing)
    · exact covers _ (fun _ => .inl) blanket
    · exact covers _ (fun _ => .inr ∘ .inl) names
    · exact covers _ (fun _ => .inr ∘ .inr) nothing

theorem cut?_rest_length {needle line before rest : Text}
    (cut : Text.cut? needle line = some (before, rest)) : rest.length ≤ line.length := by
  obtain ⟨i, -, eq⟩ := Option.map_eq_some_iff.mp cut
  have dropped : line.drop (i + needle.length) = rest := congrArg Prod.snd eq
  rw [← dropped, List.length_drop]
  omega

theorem long_name_unlisted (long : lines.flatten.length < rule.length) :
    ¬ CoveredBy file lines l (NamesRule rule) := by
  rintro ⟨i, line, before, rest, s, there, cut, -, -, -, named⟩
  have short := named.length_le
  have part := cut?_rest_length cut
  have whole := (List.sublist_flatten_of_mem (List.mem_of_getElem? there)).length_le
  omega

end Coverage

/-- A line is suppressed for a rule by comments without a list, by comments whose list names the
    rule, and by those whose list names nothing. A file has only the first two reasons exactly if
    the last kind covers no line on its own; in particular if each of its comments has a list, and
    each list a name. -/
theorem listed_rules_only (file : Text) (lines : List Text) :
    (∀ l rule, isSuppressed (suppressions file lines) l rule = true ↔
      CoveredBy file lines l IsBlanket ∨ CoveredBy file lines l (NamesRule rule) ∨
        CoveredBy file lines l NamesNothing) ∧
    ((∀ l rule, isSuppressed (suppressions file lines) l rule = true →
        CoveredBy file lines l IsBlanket ∨ CoveredBy file lines l (NamesRule rule)) ↔
      ∀ l, CoveredBy file lines l NamesNothing → CoveredBy file lines l IsBlanket) ∧
    ((∀ line ∈ lines, ∀ before rest, Text.cut? suppressionMark line = some (before, rest) →
        ¬ IsBlanket rest ∧ ¬ NamesNothing rest) →
      ∀ l rule, isSuppressed (suppressions file lines) l rule = true →
        CoveredBy file lines l (NamesRule rule)) := by
  refine ⟨isSuppressed_kinds file lines, ⟨?_, ?_⟩, ?_⟩
  · intro obeys l nothing
    -- no list of the file holds a name as long as this one
    obtain ⟨rule, long⟩ : ∃ rule : Text, lines.flatten.length < rule.length :=
      ⟨Text.replicate (lines.flatten.length + 1) (byte 'a'), by simp [Text.replicate]⟩
    have suppressed := (isSuppressed_kinds file lines l rule).mpr (.inr (.inr nothing))
    rcases obeys l rule suppressed with blanket | named
    · exact blanket
    · exact absurd named (long_name_unlisted long)
  · intro elsewhere l rule suppressed
    rcases (isSuppressed_kinds file lines l rule).mp suppressed with blanket | named | nothing
    · exact .inl blanket
    · exact .inr named
    · exact .inl (elsewhere l nothing)
  · intro proper l rule suppressed
    rcases (isSuppressed_kinds file lines l rule).mp suppressed with
      ⟨i, line, before, rest, s, there, cut, -, -, -, blanket⟩ | named |
      ⟨i, line, before, rest, s, there, cut, -, -, -, nothing⟩
    · exact absurd blanket (proper line (List.mem_of_getElem? there) before rest cut).1
    · exact named
    · exact absurd nothing (proper line (List.mem_of_getElem? there) before rest cut).2

theorem namesNothing_iff (list : Text) :
    NamesNothing (byte ':' :: list) ↔ list.firstWord.listItems = [] := by
  constructor
  · rintro ⟨other, eq, none⟩
    cases eq
    exact List.eq_nil_iff_forall_not_mem.mpr fun rule member =>
      none rule ((mem_listItems _ rule).mp member)
  · intro empty
    refine ⟨list, rfl, fun rule listed => ?_⟩
    rw [← mem_listItems, empty] at listed
    cases listed

theorem listed_rules_only_two_names :
    let lines := [utf8 "//nolint:a,javadoc-tags b", utf8 "class A ;"]
    isSuppressed (suppressions [] lines) 2 (utf8 "javadoc-tags") = true ∧
      isSuppressed (suppressions [] lines) 2 (utf8 "b") = false ∧
      CoveredBy [] lines 2 (NamesRule (utf8 "javadoc-tags")) := by
  intro lines
  have suppressed : isSuppressed (suppressions [] lines) 2 (utf8 "javadoc-tags") = true := by
    decide +kernel
  refine ⟨suppressed, by decide +kernel, (listed_rules_only [] lines).2.2 ?_ 2 _ suppressed⟩
  intro line member before rest cut
  rcases List.mem_pair.mp member with rfl | rfl
  · have known : Text.cut? suppressionMark (utf8 "//nolint:a,javadoc-tags b") =
        some ([], utf8 ":a,javadoc-tags b") := by decide +kernel
    rw [known] at cut
    cases cut
    refine ⟨fun blanket => blanket (by decide), ?_⟩
    have colon : utf8 ":a,javadoc-tags b" = byte ':' :: utf8 "a,javadoc-tags b" := by decide
    rw [colon, namesNothing_iff]
    decide +kernel
  · have known : Text.cut? suppressionMark (utf8 "class A ;") = none := by decide +kernel
    rw [known] at cut
    cases cut

/-- A list of nothing but a comma suppresses every rule, although every comment of the file has a
    list and none names the rule. -/
theorem empty_list_suppresses_all :
    let lines := [utf8 "//nolint:,", utf8 "class A ;"]
    isSuppressed (suppressions [] lines) 2 (utf8 "javadoc-tags") = true ∧
      ¬ (CoveredBy [] lines 2 IsBlanket ∨
        CoveredBy [] lines 2 (NamesRule (utf8 "javadoc-tags"))) := by
  intro lines
  have only : ∀ kind, CoveredBy [] lines 2 kind → kind (byte ':' :: utf8 ",") := by
    rintro kind ⟨i, line, before, rest, s, there, cut, -, -, -, holds⟩
    rcases List.mem_pair.mp (List.mem_of_getElem? there) with rfl | rfl
    · have known : Text.cut? suppressionMark (utf8 "//nolint:,") =
          some ([], byte ':' :: utf8 ",") := by decide +kernel
      rw [known] at cut
      cases cut
      exact holds
    · have known : Text.cut? suppressionMark (utf8 "class A ;") = none := by decide +kernel
      rw [known] at cut
      cases cut
  refine ⟨by decide +kernel, ?_⟩
  rintro (blanket | named)
  · exact only _ blanket (by decide)
  · obtain ⟨list, eq, listed⟩ := only _ named
    cases eq
    have none : (Text.firstWord (utf8 ",")).listItems = [] := by decide +kernel
    rw [← mem_listItems, none] at listed
    cases listed

end JavadocLint
