import Mathlib
import JavadocLint.Engine.Basic

/- The settings of an engine as the text that its fingerprint is made of. The text always tells
   severities and ignored rules apart. Names and patterns of tags stand in it unquoted, so it tells
   tables of patterns apart only where no name holds a space and no pattern a line that begins like
   the line of a tag. Nothing is claimed about the digest of the text. -/
namespace JavadocLint

def Severity.IsLevel : Severity → Prop
  | .other _ => False
  | _ => True

def ruleLine (severity : Severity) (ignored : Bool) : Text :=
  utf8 "rule " ++ tagRuleName ++ utf8 " " ++ severity.name ++ utf8 " "
    ++ utf8 (if ignored then "true" else "false") ++ utf8 "\n"

def tagLine (name pattern : Text) : Text :=
  utf8 "tag " ++ name ++ utf8 " " ++ pattern ++ utf8 "\n"

def tagLines (patterns : List (Text × Text)) : Text := patterns.flatMap fun p => tagLine p.1 p.2

theorem settings_eq (e : Engine) :
    e.settings = ruleLine e.severity (e.isIgnoredRule tagRuleName) ++ tagLines e.tags.patterns := by
  simp only [Engine.settings, allRuleNames, List.flatMap_cons, List.flatMap_nil, List.append_nil]
  rfl

theorem separator_injective {sep : UInt8} {a b rest rest' : Text} (absentA : sep ∉ a)
    (absentB : sep ∉ b) (same : a ++ sep :: rest = b ++ sep :: rest') : a = b ∧ rest = rest' := by
  induction a generalizing b with
  | nil =>
    cases b with
    | nil => simpa using same
    | cons first more =>
      have eq : sep = first := (List.cons.inj same).1
      exact absurd (eq ▸ List.mem_cons_self) absentB
  | cons x xs ih =>
    cases b with
    | nil =>
      have eq : x = sep := (List.cons.inj same).1
      exact absurd (eq ▸ List.mem_cons_self) absentA
    | cons y ys =>
      obtain ⟨head, tail⟩ := List.cons.inj same
      have rests := ih (fun member => absentA (List.mem_cons_of_mem _ member))
        (fun member => absentB (List.mem_cons_of_mem _ member)) tail
      exact ⟨by rw [head, rests.1], rests.2⟩

section RuleLine

theorem space_notMem_name (severity : Severity) : byte ' ' ∉ severity.name := by
  cases severity with
  | other code => change byte ' ' ∉ utf8 "UNKNOWN"; decide
  | _ => decide

theorem name_injective {s s' : Severity} (level : s.IsLevel) (level' : s'.IsLevel)
    (same : s.name = s'.name) : s = s' := by
  revert same
  cases s with
  | other code => exact level.elim
  | _ =>
    cases s' with
    | other code => exact level'.elim
    | _ => decide

theorem flag_injective {a b : Bool}
    (same : utf8 (if a then "true" else "false") = utf8 (if b then "true" else "false")) :
    a = b := by
  revert a b
  decide

theorem feed_notMem_flag (flag : Bool) : byte '\n' ∉ utf8 (if flag then "true" else "false") := by
  revert flag
  decide

theorem ruleLine_injective {s s' : Severity} {ignored ignored' : Bool} {rest rest' : Text}
    (level : s.IsLevel) (level' : s'.IsLevel)
    (same : ruleLine s ignored ++ rest = ruleLine s' ignored' ++ rest') :
    s = s' ∧ ignored = ignored' ∧ rest = rest' := by
  have space : utf8 " " = [byte ' '] := by decide
  have feed : utf8 "\n" = [byte '\n'] := by decide
  simp only [ruleLine, space, feed, List.append_assoc, List.cons_append, List.nil_append,
    List.append_cancel_left_eq, List.cons.injEq, true_and] at same
  obtain ⟨names, others⟩ :=
    separator_injective (space_notMem_name s) (space_notMem_name s') same
  obtain ⟨flags, rests⟩ := separator_injective (feed_notMem_flag _) (feed_notMem_flag _) others
  exact ⟨name_injective level level' names, flag_injective flags, rests⟩

end RuleLine

section TagLines

/-- The name holds no space, and no line of the pattern begins like the line of a tag. -/
def Separable (p : Text × Text) : Prop := byte ' ' ∉ p.1 ∧ ¬ utf8 "\ntag " <:+: p.2

instance (p : Text × Text) : Decidable (Separable p) := inferInstanceAs (Decidable (_ ∧ _))

theorem tagLines_cons (p : Text × Text) (rest : List (Text × Text)) :
    tagLines (p :: rest) =
      utf8 "tag " ++ (p.1 ++ byte ' ' :: (p.2 ++ byte '\n' :: tagLines rest)) := by
  have space : utf8 " " = [byte ' '] := by decide
  have feed : utf8 "\n" = [byte '\n'] := by decide
  simp [tagLines, tagLine, space, feed]

theorem tagLines_start {patterns : List (Text × Text)} (present : tagLines patterns ≠ []) :
    utf8 "tag " <+: tagLines patterns := by
  cases patterns with
  | nil => exact absurd rfl present
  | cons p rest => exact ⟨_, (tagLines_cons p rest).symm⟩

theorem tag_before_feed {front back : Text} (begins : utf8 "tag " <+: front ++ byte '\n' :: back) :
    utf8 "tag " <+: front := by
  have length : (utf8 "tag ").length = 4 := by decide
  by_cases short : front.length < 4
  · have whole : front ++ [byte '\n'] <+: front ++ byte '\n' :: back := ⟨back, by simp⟩
    have cut : front ++ [byte '\n'] <+: utf8 "tag " := by
      refine List.prefix_of_prefix_length_le whole begins ?_
      simp only [List.length_append, List.length_singleton, length]
      omega
    have member : byte '\n' ∈ utf8 "tag " := cut.subset (by simp)
    exact absurd member (by decide)
  · exact List.prefix_of_prefix_length_le begins (List.prefix_append _ _) (by omega)

/-- A pattern that goes on where another one ends takes in the line of the next tag. -/
theorem longer_pattern {more : Text} {rest rest' : List (Text × Text)} (p : Text)
    (goesOn : byte '\n' :: tagLines rest = more ++ byte '\n' :: tagLines rest')
    (present : more ≠ []) : utf8 "\ntag " <:+: p ++ more := by
  obtain ⟨first, others, rfl⟩ := List.exists_cons_of_ne_nil present
  obtain ⟨head, tail⟩ := List.cons.inj goesOn
  have nonempty : tagLines rest ≠ [] := by rw [tail]; simp
  have begins := tag_before_feed (tail ▸ tagLines_start nonempty)
  obtain ⟨after, eq⟩ := begins
  have feed : utf8 "\ntag " = byte '\n' :: utf8 "tag " := by decide
  exact ⟨p, after, by rw [feed, ← eq, ← head]; simp⟩

theorem pattern_injective {p p' : Text} {rest rest' : List (Text × Text)}
    (plain : ¬ utf8 "\ntag " <:+: p) (plain' : ¬ utf8 "\ntag " <:+: p')
    (same : p ++ byte '\n' :: tagLines rest = p' ++ byte '\n' :: tagLines rest') :
    p = p' ∧ tagLines rest = tagLines rest' := by
  rcases List.append_eq_append_iff.mp same with ⟨more, rfl, goesOn⟩ | ⟨more, rfl, goesOn⟩
  · by_cases none : more = []
    · subst none
      exact ⟨(List.append_nil p).symm, (List.cons.inj goesOn).2⟩
    · exact absurd (longer_pattern p goesOn none) plain'
  · by_cases none : more = []
    · subst none
      exact ⟨List.append_nil p', (List.cons.inj goesOn).2.symm⟩
    · exact absurd (longer_pattern p' goesOn none) plain

theorem tagLines_injective {ps qs : List (Text × Text)} (plainP : ∀ p ∈ ps, Separable p)
    (plainQ : ∀ q ∈ qs, Separable q) (same : tagLines ps = tagLines qs) : ps = qs := by
  induction ps generalizing qs with
  | nil =>
    cases qs with
    | nil => rfl
    | cons q qs =>
      rw [tagLines_cons] at same
      exact absurd (congrArg List.length same) (by simp [tagLines])
  | cons p ps ih =>
    cases qs with
    | nil =>
      rw [tagLines_cons] at same
      exact absurd (congrArg List.length same) (by simp [tagLines])
    | cons q qs =>
      have inP := plainP p (by simp)
      have inQ := plainQ q (by simp)
      rw [tagLines_cons, tagLines_cons, List.append_cancel_left_eq] at same
      obtain ⟨names, lines⟩ := separator_injective inP.1 inQ.1 same
      obtain ⟨patterns, rests⟩ := pattern_injective inP.2 inQ.2 lines
      have tail := ih (fun r member => plainP r (by simp [member]))
        (fun r member => plainQ r (by simp [member])) rests
      rw [tail, Prod.ext names patterns]

end TagLines

section Compiled

def TagRules.Compiled (t : TagRules) : Prop :=
  ∀ r ∈ t.rules, TagRule.make r.name r.pattern = .ok r

theorem make_fields {name pattern : Text} {r : TagRule} (made : TagRule.make name pattern = .ok r) :
    r.name = name ∧ r.pattern = pattern := by
  unfold TagRule.make at made
  split at made
  · cases made
  · split at made
    · cases made
      exact ⟨rfl, rfl⟩
    · cases made

theorem mapM_make {ps : List (Text × Text)} {rules : List TagRule}
    (made : ps.mapM (fun p => TagRule.make p.1 p.2) = .ok rules) :
    ∀ r ∈ rules, TagRule.make r.name r.pattern = .ok r := by
  induction ps generalizing rules with
  | nil =>
    cases made
    simp
  | cons p ps ih =>
    rw [List.mapM_cons] at made
    cases first : TagRule.make p.1 p.2 with
    | error f =>
      rw [first] at made
      cases made
    | ok rule =>
      cases others : ps.mapM (fun p => TagRule.make p.1 p.2) with
      | error f =>
        rw [first, others] at made
        cases made
      | ok more =>
        rw [first, others] at made
        cases made
        intro r member
        rcases List.mem_cons.mp member with rfl | later
        · obtain ⟨name, pattern⟩ := make_fields first
          rw [name, pattern, first]
        · exact ih others r later

theorem ofPatterns_compiled {ps : List (Text × Text)} {t : TagRules}
    (accepted : TagRules.ofPatterns ps = .ok t) : t.Compiled := by
  unfold TagRules.ofPatterns at accepted
  cases made : (sorted (fun a b => Text.le a.1 b.1) ps).mapM
      (fun p => TagRule.make p.1 p.2) with
  | error f =>
    rw [made] at accepted
    cases accepted
  | ok rules =>
    rw [made] at accepted
    cases accepted
    exact mapM_make made

theorem compiled_injective {rs qs : List TagRule}
    (compiled : ∀ r ∈ rs, TagRule.make r.name r.pattern = .ok r)
    (compiled' : ∀ q ∈ qs, TagRule.make q.name q.pattern = .ok q)
    (same : rs.map (fun r => (r.name, r.pattern)) = qs.map fun q => (q.name, q.pattern)) :
    rs = qs := by
  induction rs generalizing qs with
  | nil => simpa using same
  | cons r rs ih =>
    cases qs with
    | nil => simp at same
    | cons q qs =>
      simp only [List.map_cons, List.cons.injEq, Prod.mk.injEq] at same
      obtain ⟨⟨names, patterns⟩, rests⟩ := same
      have made := compiled r (by simp)
      rw [names, patterns, compiled' q (by simp)] at made
      have tail := ih (fun x member => compiled x (by simp [member]))
        (fun x member => compiled' x (by simp [member])) rests
      rw [tail, Except.ok.inj made]

end Compiled

theorem runSource_congr {e e' : Engine} (severity : e.severity = e'.severity)
    (ignored : e.isIgnoredRule tagRuleName = e'.isIgnoredRule tagRuleName)
    (tags : e.tags = e'.tags) (content : Text) : e.runSource content = e'.runSource content := by
  simp only [Engine.runSource, Engine.check, severity, ignored, tags]

/-- Engines with one settings text have one severity and the same ignored rules. If moreover no tag
    name holds a space and no pattern a line that begins like the line of a tag, they have the same
    patterns and find the same issues in every source. -/
theorem settings_separate {e e' : Engine} {patterns patterns' : List (Text × Text)}
    (level : e.severity.IsLevel) (level' : e'.severity.IsLevel)
    (accepted : TagRules.ofPatterns patterns = .ok e.tags)
    (accepted' : TagRules.ofPatterns patterns' = .ok e'.tags)
    (same : e.settings = e'.settings) :
    e.severity = e'.severity ∧
      (∀ rule ∈ allRuleNames, e.isIgnoredRule rule = e'.isIgnoredRule rule) ∧
      ((∀ p ∈ e.tags.patterns, Separable p) → (∀ p ∈ e'.tags.patterns, Separable p) →
        e.tags.patterns = e'.tags.patterns ∧
          ∀ content, e.runSource content = e'.runSource content) := by
  rw [settings_eq, settings_eq] at same
  obtain ⟨severity, ignored, lines⟩ := ruleLine_injective level level' same
  refine ⟨severity, ?_, ?_⟩
  · intro rule known
    rw [List.mem_singleton.mp known]
    exact ignored
  · intro plain plain'
    have equal := tagLines_injective plain plain' lines
    have rules := compiled_injective (ofPatterns_compiled accepted)
      (ofPatterns_compiled accepted') equal
    have tags : e.tags = e'.tags := congrArg TagRules.mk rules
    exact ⟨equal, runSource_congr severity ignored tags⟩

def tableEngine (patterns : List (Text × Text)) : Engine :=
  { root := [], tags := (TagRules.ofPatterns patterns).toOption.getD ⟨[]⟩ }

theorem tableEngine_accepted (patterns : List (Text × Text))
    (accepted : (TagRules.ofPatterns patterns).toOption.isSome = true) :
    TagRules.ofPatterns patterns = .ok (tableEngine patterns).tags := by
  unfold tableEngine
  cases made : TagRules.ofPatterns patterns with
  | error f =>
    rw [made] at accepted
    cases accepted
  | ok t => rfl

def brokenLines : List (Text × Text) :=
  [(utf8 "since", utf8 "a b\nc"), (utf8 "author", utf8 "\ntag")]

def otherRoot : Engine :=
  { tableEngine brokenLines.reverse with root := utf8 "/r", ignoredRules := [utf8 "x"] }

theorem settings_separate_broken_lines :
    (∀ p ∈ (tableEngine brokenLines).tags.patterns, Separable p) ∧
      ∀ content, (tableEngine brokenLines).runSource content = otherRoot.runSource content := by
  have plain : ∀ p ∈ (tableEngine brokenLines).tags.patterns, Separable p := by decide +kernel
  have plain' : ∀ p ∈ otherRoot.tags.patterns, Separable p := by decide +kernel
  have accepted := tableEngine_accepted brokenLines (by decide +kernel)
  have accepted' := tableEngine_accepted brokenLines.reverse (by decide +kernel)
  have same : (tableEngine brokenLines).settings = otherRoot.settings := by decide +kernel
  have separate := @settings_separate (tableEngine brokenLines) otherRoot _ _ trivial trivial
    accepted accepted' same
  exact ⟨plain, (separate.2.2 plain plain').2⟩

/-- A space may belong to the name of a tag or to its pattern: two tables of patterns, both
    accepted, have one settings text and one fingerprint, and different issues. -/
theorem settings_ambiguous :
    let e := tableEngine [(utf8 "a", utf8 "b c")]
    let e' := tableEngine [(utf8 "a b", utf8 "c")]
    let source := utf8 "/**\n * text\n */\nclass A ;"
    TagRules.ofPatterns [(utf8 "a", utf8 "b c")] = .ok e.tags ∧
      TagRules.ofPatterns [(utf8 "a b", utf8 "c")] = .ok e'.tags ∧
      e.settings = e'.settings ∧ e.fingerprint = e'.fingerprint ∧
      e.tags.patterns ≠ e'.tags.patterns ∧ e.runSource source ≠ e'.runSource source := by
  refine ⟨tableEngine_accepted _ (by decide +kernel), tableEngine_accepted _ (by decide +kernel),
    by decide +kernel, by decide +kernel, by decide +kernel, fun same => ?_⟩
  exact absurd (congrArg Except.toOption same) (by decide +kernel)

end JavadocLint
