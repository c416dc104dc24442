import Mathlib
import JavadocLint.Engine.Batch
import JavadocLint.Proofs.WatchedPaths

/- How the path of a file is spelled. Patterns of ignored paths are matched against the cleaned path,
   its last element and the way to it from the root of the engine. Unless a path ends in an element
   that goes nowhere or up, each of these is the same for the cleaned path, so that a file is ignored
   under all spellings of its path or under none. -/
namespace JavadocLint

namespace Path

variable {p name : Text}

def EndsNamed (p : Text) : Prop :=
  ∀ last ∈ (elements p).getLast?, last ≠ utf8 "." ∧ last ≠ utf8 ".."

instance (p : Text) : Decidable (EndsNamed p) :=
  inferInstanceAs (Decidable (∀ last ∈ (elements p).getLast?, _))

theorem EndsNamed.fileName {front : List Text} {last : Text} (named : EndsNamed p)
    (parts : elements p = front ++ [last]) : FileName last := by
  have shape := mem_elements (p := p) (by rw [parts]; exact List.mem_concat_self)
  obtain ⟨notHere, notUp⟩ := named last (by rw [parts, List.getLast?_concat]; rfl)
  exact ⟨⟨shape.1, notHere, notUp⟩, shape.2⟩

theorem isRooted_of_elements (present : p ≠ []) (none : elements p = []) : isRooted p = true := by
  obtain ⟨b, rest, rfl⟩ := List.exists_cons_of_ne_nil present
  by_cases slashed : b = slash
  · simp [isRooted, slashed]
  · obtain ⟨piece, pieces, eq⟩ := List.exists_cons_of_ne_nil (Text.splitOn_ne_nil slash rest)
    simp [elements, Text.splitOn, slashed, eq] at none

theorem elements_clean (some : cleanElements p ≠ [] ∨ isRooted p = true) :
    elements (clean p) = cleanElements p := by
  have joined := elements_join (cleanElements p) fun e => mem_cleanElements
  rcases clean_cases p with ⟨-, eq⟩ | ⟨relative, none, -⟩ | ⟨-, -, eq⟩
  · rw [eq, elements_rooted, joined]
  · simp [relative, none] at some
  · rw [eq, joined]

theorem cleanElements_last {front : List Text} {last : Text} (file : FileName last)
    (parts : elements p = front ++ [last]) : ∃ above, cleanElements p = above ++ [last] := by
  refine ⟨(front.foldl (pushElement (isRooted p)) []).reverse, ?_⟩
  rw [cleanElements, parts, List.foldl_append, List.foldl_cons, List.foldl_nil,
    pushElement_name file, List.reverse_cons]

theorem cleanElements_straight (straight : utf8 ".." ∉ elements p) :
    cleanElements p = (elements p).filter fun name => name ≠ utf8 "." := by
  have pushed : ∀ (names stack : List Text), utf8 ".." ∉ names →
      names.foldl (pushElement (isRooted p)) stack =
        (names.filter fun name => name ≠ utf8 ".").reverse ++ stack := by
    intro names
    induction names with
    | nil => exact fun stack _ => rfl
    | cons name rest ih =>
      intro stack absent
      simp only [List.mem_cons, not_or] at absent
      rw [List.foldl_cons, ih _ absent.2, pushElement.eq_def, if_neg (Ne.symm absent.1)]
      by_cases here : name = utf8 "." <;> simp [here]
  rw [cleanElements, pushed _ [] straight]
  simp

theorem base_of_ne_nil (present : p ≠ []) : base p = ((elements p).getLast?).getD [slash] := by
  rw [base, if_neg (by simp [present])]

theorem base_clean (named : EndsNamed p) : base (clean p) = base p := by
  rcases List.eq_nil_or_concat' (elements p) with none | ⟨front, last, parts⟩
  · by_cases present : p = []
    · subst present
      decide
    · have rooted := isRooted_of_elements present none
      have empty : cleanElements p = [] := by rw [cleanElements, none]; rfl
      rw [base_of_ne_nil (clean_ne_nil p), elements_clean (.inr rooted), empty,
        base_of_ne_nil present, none]
  · have present : p ≠ [] := by
      rintro rfl
      simp [elements, Text.splitOn] at parts
    obtain ⟨above, cleaned⟩ := cleanElements_last (named.fileName parts) parts
    rw [base_of_ne_nil (clean_ne_nil p), elements_clean (.inl (by simp [cleaned])), cleaned,
      base_of_ne_nil present, parts, List.getLast?_concat, List.getLast?_concat]

theorem relative?_clean (root p : Text) : relative? root (clean p) = relative? root p := by
  simp only [relative?, clean_clean, isRooted_clean, cleanElements_clean]

theorem eq_append_name (p : Text) :
    slash ∉ p ∨ ∃ dir name, p = dir ++ slash :: name ∧ slash ∉ name := by
  by_cases slashed : slash ∈ p
  · obtain ⟨back, front, eq, plain⟩ := List.eq_append_cons_of_mem (List.mem_reverse.mpr slashed)
    refine .inr ⟨front.reverse, back.reverse, ?_, by simpa using plain⟩
    rw [← List.reverse_reverse p, eq]
    simp
  · exact .inl slashed

theorem isJava_of_endsIn (ends : EndsIn p name) : isJava p = isJava name := by
  obtain ⟨front, split⟩ := ends
  rcases eq_append_name p with plain | ⟨above, last, rfl, plain⟩
  · rw [Text.splitOn_single plain, ← List.nil_append [p]] at split
    rw [List.singleton_injective (List.append_inj' split rfl).2]
  · rw [Text.splitOn_append, Text.splitOn_single plain] at split
    rw [isJava_append above plain, List.singleton_injective (List.append_inj' split rfl).2]

theorem isJava_ordinary (java : isJava name = true) : OrdinaryName name := by
  refine ⟨?_, ?_, ?_⟩
  · rw [List.isEmpty_eq_false_iff]
    rintro rfl
    exact absurd java (by decide)
  · rintro rfl
    exact absurd java (by decide)
  · rintro rfl
    exact absurd java (by decide)

theorem isJava_endsNamed (java : isJava p = true) : EndsNamed p := by
  rcases eq_append_name p with plain | ⟨dir, name, rfl, plain⟩
  · have ordinary := isJava_ordinary java
    have single : elements p = [p] := by
      simp [elements, Text.splitOn_single plain, ordinary.notEmpty]
    rintro last member
    rw [single] at member
    cases member
    exact ⟨ordinary.notHere, ordinary.notUp⟩
  · rw [isJava_append dir plain] at java
    have ordinary := isJava_ordinary java
    rintro last member
    rw [elements_append dir ordinary plain, List.getLast?_concat] at member
    cases member
    exact ⟨ordinary.notHere, ordinary.notUp⟩

end Path

theorem collectFiles_java {t : FileTree} {path : Text} {files : List Text}
    (collected : collectFiles t path = .ok files) : ∀ file ∈ files, Path.isJava file = true := by
  unfold collectFiles at collected
  cases visited : t.visit path with
  | error f =>
    rw [visited] at collected
    cases collected
  | ok found =>
    rw [visited] at collected
    cases collected
    intro file member
    obtain ⟨⟨other, node⟩, -, kept⟩ := List.mem_filterMap.mp member
    dsimp only at kept
    split at kept
    · rename_i both
      cases kept
      exact (Bool.and_eq_true_iff.mp both).2
    · cases kept

namespace Engine

variable {e : Engine} {f : Text}

theorem candidates_clean (e : Engine) (named : Path.EndsNamed f) :
    e.candidates (Path.clean f) = e.candidates f := by
  simp only [candidates, Path.clean_clean, Path.base_clean named, Path.relative?_clean]

theorem isIgnoredPath_clean (e : Engine) (named : Path.EndsNamed f) :
    e.isIgnoredPath (Path.clean f) = e.isIgnoredPath f := by
  simp only [isIgnoredPath, candidates_clean e named]

theorem isIgnoredPath_congr (e : Engine) {g : Text} (named : Path.EndsNamed f)
    (other : Path.EndsNamed g) (same : Path.clean g = Path.clean f) :
    e.isIgnoredPath g = e.isIgnoredPath f := by
  rw [← isIgnoredPath_clean e other, same, isIgnoredPath_clean e named]

end Engine

/-- A path that ends in a name is ignored exactly if its cleaned form is. So it is ignored together
    with every other spelling of it, and with the path under which a walk finds the file. -/
theorem ignored_in_every_spelling (e : Engine) {f : Text} (named : Path.EndsNamed f) :
    e.isIgnoredPath f = e.isIgnoredPath (Path.clean f) ∧
      (∀ g, Path.EndsNamed g → Path.clean g = Path.clean f →
        e.isIgnoredPath g = e.isIgnoredPath f) ∧
      ∀ t dir files, collectFiles t dir = .ok files → ∀ file ∈ files,
        Path.clean file = Path.clean f → e.isIgnoredPath file = e.isIgnoredPath f := by
  refine ⟨(e.isIgnoredPath_clean named).symm, fun g other => e.isIgnoredPath_congr named other, ?_⟩
  intro t dir files collected file member
  have java := collectFiles_java collected file member
  exact e.isIgnoredPath_congr named (Path.isJava_endsNamed java)

/-- The pattern matches the way from the root, and no path as it is written. -/
def generatedEngine : Engine :=
  Engine.ignorePath { root := utf8 "src", tags := ⟨[]⟩ } (utf8 "gen/*")

def generatedTree : FileTree :=
  ((FileTree.empty.set [utf8 "src"] .directory).set [utf8 "src", utf8 "gen"] .directory).set
    [utf8 "src", utf8 "gen", utf8 "A.java"] (.file (utf8 "class A ;") 1)

theorem ignored_in_every_spelling_generated :
    Path.EndsNamed (utf8 "./src/x/..//gen/A.java") ∧
      generatedEngine.isIgnoredPath (utf8 "./src/x/..//gen/A.java") = true ∧
      generatedEngine.isIgnoredPath (utf8 "src/gen/A.java") = true ∧
      generatedEngine.isIgnoredPath (utf8 "src/./gen/A.java/") = true ∧
      generatedEngine.isIgnoredPath (utf8 "src/A.java") = false ∧
      collectFiles generatedTree (utf8 "src//") = .ok [utf8 "src/gen/A.java"] := by
  have named : Path.EndsNamed (utf8 "./src/x/..//gen/A.java") := by decide +kernel
  have collected : collectFiles generatedTree (utf8 "src//") = .ok [utf8 "src/gen/A.java"] := by
    rfl
  obtain ⟨cleaned, spelled, walked⟩ := ignored_in_every_spelling generatedEngine named
  have written : generatedEngine.isIgnoredPath (utf8 "./src/x/..//gen/A.java") = true := by
    decide +kernel
  refine ⟨named, written, ?_, ?_, by decide +kernel, collected⟩
  · rw [walked _ _ _ collected _ List.mem_cons_self (by decide +kernel)]
    exact written
  · rw [spelled _ (by decide +kernel) (by decide +kernel)]
    exact written

end JavadocLint
