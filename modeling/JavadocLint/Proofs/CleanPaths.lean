import Mathlib
import JavadocLint.Proofs.FileLookup

/- Cleaned paths. The elements of a cleaned path are kept when it is cleaned again, and names behind
   it are put to their end; a look-up of the path follows just these elements. -/
namespace JavadocLint

/-- A name that an entry of a directory can have. -/
structure FileName (name : Text) : Prop extends OrdinaryName name where
  plain : Path.slash ∉ name

theorem fileName_iff {name : Text} : name.isEmpty = false ∧ name ≠ utf8 "." ∧ name ≠ utf8 ".." ∧
    Path.slash ∉ name ↔ FileName name := by
  constructor
  · rintro ⟨notEmpty, notHere, notUp, plain⟩
    exact ⟨⟨notEmpty, notHere, notUp⟩, plain⟩
  · intro file
    exact ⟨file.notEmpty, file.notHere, file.notUp, file.plain⟩

instance (name : Text) : Decidable (FileName name) := decidable_of_iff _ fileName_iff

namespace Path

open Text (splitOn splitOn_append splitOn_join splitOn_single)

variable {p : Text} {rooted : Bool} {stack : List Text}

/-- The elements of a cleaned path, the last first: those that go up come before all others, and
    none goes up from the root. -/
inductive CleanStack (rooted : Bool) : List Text → Prop where
  | empty : CleanStack rooted []
  | name {e : Text} {below : List Text} : FileName e → CleanStack rooted below →
      CleanStack rooted (e :: below)
  | up {below : List Text} : rooted = false → (∀ e ∈ below, e = utf8 "..") →
      CleanStack rooted below → CleanStack rooted (utf8 ".." :: below)

theorem CleanStack.mem {e : Text} (clean : CleanStack rooted stack) (member : e ∈ stack) :
    e.isEmpty = false ∧ slash ∉ e := by
  induction clean with
  | empty => cases member
  | name file _ ih =>
    rcases List.mem_cons.mp member with rfl | below
    · exact ⟨file.notEmpty, file.plain⟩
    · exact ih below
  | up _ _ _ ih =>
    rcases List.mem_cons.mp member with rfl | below
    · decide
    · exact ih below

theorem pushElement_name {e : Text} (file : FileName e) (rooted : Bool) (stack : List Text) :
    pushElement rooted stack e = e :: stack := by
  rw [pushElement.eq_def, if_neg file.notHere, if_neg file.notUp]

theorem CleanStack.push {e : Text} (clean : CleanStack rooted stack) (some : e.isEmpty = false)
    (plain : slash ∉ e) : CleanStack rooted (pushElement rooted stack e) := by
  by_cases here : e = utf8 "."
  · rw [pushElement.eq_def, if_pos here]
    exact clean
  by_cases goesUp : e = utf8 ".."
  · subst goesUp
    rw [pushElement.eq_def, if_neg here, if_pos rfl]
    cases clean with
    | empty =>
      cases rooted with
      | true => exact .empty
      | false => exact .up rfl (by simp) .empty
    | name file below =>
      dsimp only
      rw [if_neg file.notUp]
      exact below
    | up free ups below =>
      dsimp only
      rw [if_pos rfl]
      refine .up free ?_ (.up free ups below)
      intro e member
      rcases List.mem_cons.mp member with same | more
      · exact same
      · exact ups e more
  · have file : FileName e := ⟨⟨some, here, goesUp⟩, plain⟩
    rw [pushElement_name file]
    exact .name file clean

theorem CleanStack.again (clean : CleanStack rooted stack) :
    stack.reverse.foldl (pushElement rooted) [] = stack := by
  induction clean with
  | empty => rfl
  | name file _ ih =>
    rw [List.reverse_cons, List.foldl_append, ih]
    exact pushElement_name file rooted _
  | @up below free ups _ ih =>
    rw [List.reverse_cons, List.foldl_append, ih, List.foldl_cons, List.foldl_nil,
      pushElement.eq_def, if_neg (by decide), if_pos rfl]
    cases below with
    | nil => simp [free]
    | cons top rest =>
      have same := ups top List.mem_cons_self
      simp [same]

theorem mem_elements {e : Text} (member : e ∈ elements p) : e.isEmpty = false ∧ slash ∉ e := by
  obtain ⟨piece, some⟩ := List.mem_filter.mp member
  exact ⟨by simpa using some, Text.sep_notMem_splitOn piece⟩

theorem elements_rooted (t : Text) : elements (slash :: t) = elements t := by
  simp [elements, splitOn]

theorem elements_join (es : List Text) (pieces : ∀ e ∈ es, e.isEmpty = false ∧ slash ∉ e) :
    elements (Text.join [slash] es) = es := by
  by_cases none : es = []
  · subst none
    rfl
  · rw [elements, splitOn_join none fun e member => (pieces e member).2, List.filter_eq_self]
    intro e member
    simp [(pieces e member).1]

theorem cleanStack_elements (p : Text) :
    CleanStack (isRooted p) ((elements p).foldl (pushElement (isRooted p)) []) := by
  have pushed : ∀ es stack : List Text, (∀ e ∈ es, e.isEmpty = false ∧ slash ∉ e) →
      CleanStack (isRooted p) stack →
      CleanStack (isRooted p) (es.foldl (pushElement (isRooted p)) stack) := by
    intro es
    induction es with
    | nil => exact fun stack _ clean => clean
    | cons e rest ih =>
      intro stack pieces clean
      have first := pieces e List.mem_cons_self
      exact ih _ (fun e member => pieces e (List.mem_cons_of_mem _ member))
        (clean.push first.1 first.2)
  exact pushed (elements p) [] (fun e => mem_elements) .empty

theorem mem_cleanElements {e : Text} (member : e ∈ cleanElements p) :
    e.isEmpty = false ∧ slash ∉ e :=
  (cleanStack_elements p).mem (List.mem_reverse.mp member)

theorem isRooted_append {q : Text} (present : q ≠ []) (more : Text) :
    isRooted (q ++ more) = isRooted q := by
  obtain ⟨b, rest, rfl⟩ := List.exists_cons_of_ne_nil present
  rfl

theorem isRooted_join {es : List Text} (pieces : ∀ e ∈ es, e.isEmpty = false ∧ slash ∉ e) :
    isRooted (Text.join [slash] es) = false := by
  cases es with
  | nil => rfl
  | cons e rest =>
    obtain ⟨some, plain⟩ := pieces e List.mem_cons_self
    obtain ⟨b, more, rfl⟩ := List.exists_cons_of_ne_nil (List.isEmpty_eq_false_iff.mp some)
    have other : b ≠ slash := by
      rintro rfl
      exact plain List.mem_cons_self
    cases rest <;> simp [Text.join, isRooted, other]

theorem clean_cases (p : Text) :
    isRooted p = true ∧ clean p = slash :: Text.join [slash] (cleanElements p) ∨
      isRooted p = false ∧ cleanElements p = [] ∧ clean p = utf8 "." ∨
      isRooted p = false ∧ cleanElements p ≠ [] ∧
        clean p = Text.join [slash] (cleanElements p) := by
  unfold clean
  by_cases rooted : isRooted p = true
  · exact .inl ⟨rooted, if_pos rooted⟩
  · have relative : isRooted p = false := by simpa using rooted
    rw [if_neg rooted]
    by_cases none : cleanElements p = []
    · exact .inr (.inl ⟨relative, none, by simp [none]⟩)
    · exact .inr (.inr ⟨relative, none, by simp [none]⟩)

theorem clean_ne_nil (p : Text) : clean p ≠ [] := by
  rcases clean_cases p with ⟨-, eq⟩ | ⟨-, -, eq⟩ | ⟨-, some, eq⟩
  · rw [eq]
    exact List.cons_ne_nil _ _
  · rw [eq]
    decide
  · intro empty
    have joined := elements_join (cleanElements p) fun e => mem_cleanElements
    rw [← eq, empty] at joined
    exact some joined.symm

theorem isRooted_clean (p : Text) : isRooted (clean p) = isRooted p := by
  rcases clean_cases p with ⟨rooted, eq⟩ | ⟨relative, -, eq⟩ | ⟨relative, -, eq⟩
  · rw [eq, rooted]
    rfl
  · rw [eq, relative]
    decide
  · rw [eq, relative]
    exact isRooted_join fun e => mem_cleanElements

theorem cleanElements_clean (p : Text) : cleanElements (clean p) = cleanElements p := by
  have again : ((cleanElements p).foldl (pushElement (isRooted p)) []).reverse =
      cleanElements p := by
    have whole := (cleanStack_elements p).again
    rw [cleanElements]
    exact congrArg List.reverse whole
  have joined := elements_join (cleanElements p) fun e => mem_cleanElements
  rcases clean_cases p with ⟨-, eq⟩ | ⟨relative, none, eq⟩ | ⟨-, -, eq⟩
  · rw [cleanElements, isRooted_clean, eq, elements_rooted, joined]
    exact again
  · rw [eq, none]
    decide
  · rw [cleanElements, isRooted_clean, eq, joined]
    exact again

theorem clean_congr {q : Text} (rooted : isRooted p = isRooted q)
    (same : cleanElements p = cleanElements q) : clean p = clean q := by
  rw [clean, rooted, same, clean]

theorem clean_clean (p : Text) : clean (clean p) = clean p :=
  clean_congr (isRooted_clean p) (cleanElements_clean p)

theorem cleanElements_below {q : Text} (present : q ≠ []) {names : List Text}
    (files : ∀ name ∈ names, FileName name) :
    cleanElements (q ++ slash :: Text.join [slash] names) = cleanElements q ++ names := by
  have pieces := elements_join names fun name member =>
    ⟨(files name member).notEmpty, (files name member).plain⟩
  have parts : elements (q ++ slash :: Text.join [slash] names) = elements q ++ names := by
    rw [elements, splitOn_append, List.filter_append]
    exact congrArg (elements q ++ ·) pieces
  have pushed : ∀ stack, names.foldl (pushElement (isRooted q)) stack = names.reverse ++ stack := by
    clear pieces parts
    induction names with
    | nil => exact fun stack => rfl
    | cons name rest ih =>
      intro stack
      rw [List.foldl_cons, pushElement_name (files name List.mem_cons_self),
        ih fun other member => files other (List.mem_cons_of_mem _ member)]
      simp
  rw [cleanElements, isRooted_append present, parts, List.foldl_append, pushed,
    List.reverse_append, List.reverse_reverse, cleanElements]

end Path

namespace FileTree

variable {t : FileTree}

def origin (t : FileTree) (path : Text) : Place := if Path.isRooted path then [] else t.current

theorem locateFrom_skip (ending : Ending) (links : Nat) (here : Place) {first : Text}
    (rest : List Text) (skipped : (first.isEmpty || first = utf8 ".") = true) :
    t.locateFrom ending links here (first :: rest) = t.locateFrom ending links here rest := by
  rw [locateFrom_eq, locateFrom_eq, advance_skip t ending here first rest skipped]

theorem locate_eq (ending : Ending) {path : Text} (present : path ≠ []) :
    t.locate ending path =
      t.locateFrom ending maxLinks (t.origin path) (Text.splitOn Path.slash path) := by
  rw [locate, if_neg (by simp [present])]
  rfl

theorem locate_clean (ending : Ending) (p : Text) :
    t.locate ending (Path.clean p) =
      t.locateFrom ending maxLinks (t.origin p) (Path.cleanElements p) := by
  have start : t.origin (Path.clean p) = t.origin p := by
    rw [origin, Path.isRooted_clean, origin]
  have plain : ∀ e ∈ Path.cleanElements p, Path.slash ∉ e :=
    fun e member => (Path.mem_cleanElements member).2
  rw [locate_eq ending (Path.clean_ne_nil p), start]
  rcases Path.clean_cases p with ⟨-, eq⟩ | ⟨-, none, eq⟩ | ⟨-, some, eq⟩
  · have split : Text.splitOn Path.slash (Path.clean p) =
        [] :: Text.splitOn Path.slash (Text.join [Path.slash] (Path.cleanElements p)) := by
      rw [eq, Text.splitOn, if_pos rfl]
    rw [split, locateFrom_skip _ _ _ _ rfl]
    by_cases none : Path.cleanElements p = []
    · rw [none]
      exact locateFrom_skip _ _ _ [] rfl
    · rw [Text.splitOn_join none plain]
  · rw [eq, none]
    exact locateFrom_skip _ _ _ [] rfl
  · rw [eq, Text.splitOn_join some plain]

end FileTree
end JavadocLint
