import JavadocLint.Proofs.SetClosing

/- The first token of a pattern with the closing of the anchored group behind it. A token is read to
   the same end. Where none could be read there is none, or a backslash or the beginning of flags
   now takes part of the closing. A quotation that is not ended takes in all of it. -/
namespace JavadocLint.PatternToken

section Loops

theorem takeWhile_closing {p : UInt8 → Bool} (stop : p 0x29 = false) (t : Text) :
    (t ++ closing).takeWhile p = t.takeWhile p := by
  induction t with
  | nil => simp [closing_eq, stop]
  | cons b t ih => rw [List.cons_append, List.takeWhile_cons, List.takeWhile_cons, ih]

theorem count?_closing (t : Text) :
    count? (t ++ closing) = (count? t).map fun pair => (pair.1, pair.2 ++ closing) := by
  have digits := takeWhile_closing (p := Text.isDigit) (by decide) t
  have inside : (t.takeWhile Text.isDigit).length ≤ t.length :=
    (List.takeWhile_prefix Text.isDigit).length_le
  rw [count?, count?, digits]
  split
  · rfl
  · rw [List.drop_append_of_le_length inside]
    rfl

theorem count?_suffix {t rest : Text} {n : Nat} (found : count? t = some (n, rest)) :
    rest <:+ t := by
  rw [count?] at found
  split at found
  · cases found
  · cases found
    exact List.drop_suffix _ _

theorem lazyRest_closing (t : Text) : lazyRest (t ++ closing) = lazyRest t ++ closing := by
  cases t with
  | nil => decide
  | cons b t =>
    rw [lazyRest, lazyRest, List.cons_append, List.head?_cons, List.head?_cons]
    split <;> rfl

theorem lazyRest_suffix (t : Text) : lazyRest t <:+ t := by
  rw [lazyRest]
  split
  · exact List.drop_suffix 1 t
  · exact List.suffix_rfl

def withClosing (found : Nat × Option Nat × Text) : Nat × Option Nat × Text :=
  (found.1, found.2.1, found.2.2 ++ closing)

theorem closeCount_closing (least : Nat) (most : Option Nat) (t : Text) :
    (if (t ++ closing).head? = some (byte '\x7d') then some (least, most, (t ++ closing).drop 1)
      else none) =
    (if t.head? = some (byte '\x7d') then some (least, most, t.drop 1)
      else none).map withClosing := by
  cases t with
  | nil => rfl
  | cons b t =>
    rw [List.cons_append, List.head?_cons, List.head?_cons]
    split <;> rfl

theorem counts?_closing (b : UInt8) (t : Text) :
    counts? (b :: t ++ closing) = (counts? (b :: t)).map withClosing := by
  rw [counts?, counts?, show List.drop 1 (b :: t ++ closing) = t ++ closing from rfl,
    show List.drop 1 (b :: t) = t from rfl, count?_closing]
  cases count? t with
  | none => rfl
  | some pair =>
    obtain ⟨least, rest⟩ := pair
    dsimp only [Option.map_some, bind, Option.bind]
    rcases rest with _ | ⟨c, rest⟩
    · rfl
    · rw [List.cons_append, List.head?_cons, List.head?_cons]
      by_cases comma : some c = some (byte ',')
      · rw [if_pos comma, if_pos comma,
          show List.drop 1 (c :: (rest ++ closing)) = rest ++ closing from rfl,
          show List.drop 1 (c :: rest) = rest from rfl]
        rcases rest with _ | ⟨d, rest⟩
        · rfl
        · rw [List.cons_append, List.head?_cons, List.head?_cons]
          by_cases brace : some d = some (byte '\x7d')
          · rw [if_pos brace, if_pos brace]
            rfl
          · rw [if_neg brace, if_neg brace, ← List.cons_append, count?_closing]
            cases count? (d :: rest) with
            | none => rfl
            | some most => exact closeCount_closing least (some most.1) most.2
      · rw [if_neg comma, if_neg comma]
        exact closeCount_closing least (some least) (c :: rest)

theorem counts?_suffix {b : UInt8} {t rest : Text} {least : Nat} {most : Option Nat}
    (found : counts? (b :: t) = some (least, most, rest)) : rest <:+ t := by
  rw [counts?, show List.drop 1 (b :: t) = t from rfl] at found
  obtain ⟨⟨n, after⟩, counted, found⟩ := Option.bind_eq_some_iff.mp found
  have left := count?_suffix counted
  dsimp only at found
  split at found
  · split at found
    · cases found
      exact (List.drop_suffix 2 after).trans left
    · obtain ⟨⟨m, last⟩, bounded, found⟩ := Option.bind_eq_some_iff.mp found
      dsimp only at found
      split at found
      · cases found
        exact (((List.drop_suffix 1 last).trans (count?_suffix bounded)).trans
          (List.drop_suffix 1 after)).trans left
      · cases found
  · split at found
    · cases found
      exact (List.drop_suffix 1 after).trans left
    · cases found

theorem countedLoop_kept (b : UInt8) (t : Text) :
    Kept t (countedLoop (b :: t)) (countedLoop (b :: t ++ closing)) := by
  rw [countedLoop, countedLoop, counts?_closing]
  cases found : counts? (b :: t) with
  | none => exact .read _ List.suffix_rfl
  | some counted =>
    obtain ⟨least, most, rest⟩ := counted
    have left := counts?_suffix found
    have lazy : lazyRest rest <:+ t := (lazyRest_suffix rest).trans left
    dsimp only [Option.map_some, withClosing]
    refine .ite (fun _ => .refused _ _) fun _ => ?_
    rw [lazyRest_closing, taken_closing (lazy.trans (List.suffix_cons b t))]
    exact .read _ lazy

end Loops

section Groups

/-- Flags that are not ended in the pattern can be ended by the closing. -/
theorem flagRun_taken (whole t : Text) (e : PatternError) (n : Nat) (change : FlagChange)
    (sign seen : Bool) :
    Continued t (.error e) (flagRun whole n change sign seen closing) := by
  cases n with
  | zero => exact .kept (.refused _ _)
  | succ n =>
    rw [flagRun, if_neg (by decide), nextRune_closing]
    match sign, seen with
    | true, _ => exact .taken e _ List.suffix_rfl
    | false, true => exact .taken e _ List.suffix_rfl
    | false, false => exact .kept (.refused _ _)

theorem flagRun_continued (whole whole' : Text) {n : Nat} (change : FlagChange) (sign seen : Bool)
    {t : Text} (fuel : t.length ≤ n) :
    Continued t (flagRun whole n change sign seen t)
      (flagRun whole' (n + 2) change sign seen (t ++ closing)) := by
  induction n generalizing change sign seen t with
  | zero =>
    obtain rfl : t = [] := List.length_eq_zero_iff.mp (Nat.le_zero.mp fuel)
    exact flagRun_taken _ _ _ _ _ _ _
  | succ n ih =>
    cases t with
    | nil => exact flagRun_taken _ _ _ _ _ _ _
    | cons b t =>
      rw [Nat.add_right_comm, flagRun, flagRun, if_neg (by simp), if_neg (by simp)]
      refine (nextRune_kept b t).bindContinued ?_
      intro r rest left
      have inside : rest <:+ b :: t := left.trans (List.suffix_cons b t)
      have shorter : rest.length ≤ n := by
        have := left.length_le
        rw [List.length_cons] at fuel
        omega
      dsimp only
      iterate 5 refine .ite (fun _ => (ih _ _ _ shorter).weaken inside) fun _ => ?_
      exact .kept (.ite (fun _ => .read _ inside) fun _ => .refused _ _)

def namedGroup (whole : Text) (start : Nat) : Except PatternError (PatternToken × Text) :=
  match Text.cut? (utf8 ">") whole with
  | none => do
    requireValid whole
    fail .badNamedGroup whole
  | some (before, rest) => do
    let name := before.drop start
    requireValid name
    if isGroupName name then return (.openGroup, rest)
    else fail .badNamedGroup (taken whole rest)

theorem specialGroup_eq (whole : Text) : specialGroup whole =
    if (utf8 "(?P<").isPrefixOf whole && 4 < whole.length then namedGroup whole 4
    else if (utf8 "(?<").isPrefixOf whole && 3 < whole.length then namedGroup whole 3
    else flagRun whole whole.length {} true false (whole.drop 2) := by
  rw [specialGroup]
  by_cases long : ((utf8 "(?P<").isPrefixOf whole && 4 < whole.length) = true
  · rw [if_pos long, if_pos long]
    rfl
  · rw [if_neg long, if_neg long]
    by_cases short : ((utf8 "(?<").isPrefixOf whole && 3 < whole.length) = true
    · rw [if_pos short, if_pos short]
      rfl
    · rw [if_neg short, if_neg short]

theorem namedGroup_kept (b : UInt8) (t : Text) (start : Nat) :
    Kept t (namedGroup (b :: t) start) (namedGroup (b :: t ++ closing) start) := by
  have mark : utf8 ">" = [] ++ [0x3E] := by decide
  rw [namedGroup, namedGroup, mark, cut?_closing (by decide)]
  cases found : Text.cut? ([] ++ [0x3E]) (b :: t) with
  | none =>
    dsimp only [Option.map_none]
    cases requireValid (b :: t) <;> cases requireValid (b :: t ++ closing) <;> exact .refused _ _
  | some parts =>
    obtain ⟨before, rest⟩ := parts
    dsimp only [Option.map_some]
    cases requireValid (before.drop start) with
    | error e => exact .refused _ _
    | ok _ => exact .ite (fun _ => .read _ (cut?_suffix found)) fun _ => .refused _ _

/-- The closing does not bring a beginning of a name over the length it needs, unless the pattern
    ends with the beginning itself. -/
theorem nameStart_closing {front t : Text} (n : Nat) (size : (front ++ [0x3C]).length = n)
    (other : t ≠ front ++ [0x3C]) :
    ((front ++ [0x3C]).isPrefixOf (t ++ closing) && decide (n < (t ++ closing).length)) =
      ((front ++ [0x3C]).isPrefixOf t && decide (n < t.length)) := by
  rw [isPrefixOf_closing (by decide)]
  cases start : (front ++ [0x3C]).isPrefixOf t with
  | false => rfl
  | true =>
    obtain ⟨u, rfl⟩ := List.isPrefixOf_iff_prefix.mp start
    cases u with
    | nil => simp at other
    | cons c u =>
      simp only [List.length_append, List.length_cons, Bool.true_and, decide_eq_decide] at size ⊢
      omega

theorem specialGroup_continued (b c : UInt8) (t : Text) :
    Continued (c :: t) (specialGroup (b :: c :: t)) (specialGroup (b :: c :: t ++ closing)) := by
  have long : utf8 "(?P<" = utf8 "(?P" ++ [0x3C] := by decide
  have short : utf8 "(?<" = utf8 "(?" ++ [0x3C] := by decide
  by_cases bareLong : b :: c :: t = utf8 "(?P<"
  · have own : specialGroup (utf8 "(?P<") = fail .badGroupSyntax (utf8 "(?P") := by decide +kernel
    have other : specialGroup (utf8 "(?P<" ++ closing) =
        fail .badNamedGroup (utf8 "(?P<" ++ closing) := by decide +kernel
    rw [bareLong, own, other]
    exact .kept (.refused _ _)
  by_cases bareShort : b :: c :: t = utf8 "(?<"
  · have own : specialGroup (utf8 "(?<") = fail .badGroupSyntax (utf8 "(?<") := by decide +kernel
    have other : specialGroup (utf8 "(?<" ++ closing) =
        fail .badNamedGroup (utf8 "(?<" ++ closing) := by decide +kernel
    rw [bareShort, own, other]
    exact .kept (.refused _ _)
  rw [specialGroup_eq, specialGroup_eq, long, short,
    nameStart_closing 4 (by decide) (long ▸ bareLong),
    nameStart_closing 3 (by decide) (short ▸ bareShort)]
  refine .ite (fun _ => .kept (namedGroup_kept b (c :: t) 4)) fun _ => ?_
  refine .ite (fun _ => .kept (namedGroup_kept b (c :: t) 3)) fun _ => ?_
  rw [List.length_append]
  exact (flagRun_continued _ _ {} true false (List.drop_suffix 2 _).length_le).weaken
    (List.suffix_cons c t)

end Groups

section Quotations

theorem quotedRunes_closing {n : Nat} {t : Text} (fuel : t.length ≤ n) :
    (∃ rs, quotedRunes n t = .ok rs ∧
      quotedRunes (n + 2) (t ++ closing) = .ok (rs ++ [0x29, 0x24])) ∨
    ∃ e e', quotedRunes n t = .error e ∧ quotedRunes (n + 2) (t ++ closing) = .error e' := by
  have last : ∀ n, quotedRunes (n + 2) closing = .ok [0x29, 0x24] := by
    intro n
    rw [closing_eq]
    cases n <;> rfl
  induction n generalizing t with
  | zero =>
    obtain rfl : t = [] := List.length_eq_zero_iff.mp (Nat.le_zero.mp fuel)
    exact .inl ⟨[], rfl, last 0⟩
  | succ n ih =>
    cases t with
    | nil => exact .inl ⟨[], rfl, last (n + 1)⟩
    | cons b t =>
      rw [Nat.add_right_comm, quotedRunes, quotedRunes, if_neg (by simp), if_neg (by simp)]
      have first := nextRune_kept b t
      generalize nextRune (b :: t) = x, nextRune (b :: t ++ closing) = x' at first
      cases first with
      | refused e e' => exact .inr ⟨e, e', rfl, rfl⟩
      | @read r rest left =>
        have shorter : rest.length ≤ n := by
          have := left.length_le
          rw [List.length_cons] at fuel
          omega
        dsimp only [bind, Except.bind]
        rcases ih shorter with ⟨rs, own, other⟩ | ⟨e, e', own, other⟩
        · rw [own, other]
          exact .inl ⟨r :: rs, rfl, rfl⟩
        · rw [own, other]
          exact .inr ⟨e, e', rfl, rfl⟩

def OpensQuote (u : Text) : Prop :=
  ∃ t, u = byte '\\' :: byte 'Q' :: t ∧ Text.cut? (utf8 "\\E") t = none

theorem quoted_kept {t : Text} (ended : Text.cut? (utf8 "\\E") t ≠ none) :
    Kept t (quoted t) (quoted (t ++ closing)) := by
  have mark : utf8 "\\E" = [0x5C] ++ [0x45] := by decide
  rw [mark] at ended
  rw [quoted, quoted, mark, cut?_closing (by decide)]
  cases found : Text.cut? ([0x5C] ++ [0x45]) t with
  | none => exact absurd found ended
  | some parts =>
    obtain ⟨inside, rest⟩ := parts
    dsimp only [Option.map_some, Option.getD_some]
    cases quotedRunes inside.length inside with
    | error e => exact .refused _ _
    | ok rs => exact .read _ ((cut?_suffix found).trans (List.drop_suffix _ _))

theorem quoted_open {t : Text} (unended : Text.cut? (utf8 "\\E") t = none) :
    (∃ rs, quoted t = .ok (.runes rs, []) ∧
      quoted (t ++ closing) = .ok (.runes (rs ++ [0x29, 0x24]), [])) ∨
    ∃ e e', quoted t = .error e ∧ quoted (t ++ closing) = .error e' := by
  have mark : utf8 "\\E" = [0x5C] ++ [0x45] := by decide
  rw [mark] at unended
  rw [quoted, quoted, mark, cut?_closing (by decide), unended]
  dsimp only [Option.map_none, Option.getD_none]
  rw [List.length_append]
  rcases quotedRunes_closing (Nat.le_refl t.length) with ⟨rs, own, other⟩ | ⟨e, e', own, other⟩
  · rw [own]
    exact .inl ⟨rs, rfl, congrArg (· >>= _) other⟩
  · rw [own]
    exact .inr ⟨e, e', rfl, congrArg (· >>= _) other⟩

end Quotations

section Tokens

def escapedItem (t : Text) : Except PatternError (PatternToken × Text) := do
  match ← propertyItem? t with
  | some (item, rest) => return (.set false [item], rest)
  | none =>
    match shorthandItem? t with
    | some item => return (.set false [item], t.drop 2)
    | none =>
      let (r, rest) ← escape t
      return (.runes [r], rest)

theorem backslash_eq (t : Text) : backslash t =
    if (t.drop 1).head? = some (byte 'A') then .ok (.assert .textStart, t.drop 2)
    else if (t.drop 1).head? = some (byte 'b') then .ok (.assert .wordEdge, t.drop 2)
    else if (t.drop 1).head? = some (byte 'B') then .ok (.assert .noWordEdge, t.drop 2)
    else if (t.drop 1).head? = some (byte 'C') then fail .badEscape (t.take 2)
    else if (t.drop 1).head? = some (byte 'Q') then quoted (t.drop 2)
    else if (t.drop 1).head? = some (byte 'z') then .ok (.assert .textEnd, t.drop 2)
    else escapedItem t := rfl

theorem escapedItem_continued (b : UInt8) (t : Text) :
    Continued t (escapedItem (b :: t)) (escapedItem (b :: t ++ closing)) := by
  rw [escapedItem, escapedItem, shorthandItem?_closing]
  have property := propertyItem?_kept (b :: t)
  have character := escape_continued b t
  generalize propertyItem? (b :: t) = x, propertyItem? (b :: t ++ closing) = x' at property
  cases property with
  | refused e e' => exact .kept (.refused _ _)
  | read item left => exact .kept (.read _ left)
  | absent =>
    dsimp only [bind, Except.bind]
    cases short : shorthandItem? (b :: t) with
    | some item =>
      obtain ⟨a, c, u, same⟩ := shorthandItem?_two short
      cases same
      exact .kept (.read _ (List.suffix_cons c u))
    | none =>
      dsimp only
      generalize escape (b :: t) = y, escape (b :: t ++ closing) = y' at character
      cases character with
      | taken e r left => exact .taken _ _ left
      | kept same =>
        cases same with
        | refused e e' => exact .kept (.refused _ _)
        | read r left => exact .kept (.read _ left)

theorem backslash_continued (t : Text) (closed : ¬ OpensQuote (byte '\\' :: t)) :
    Continued t (backslash (byte '\\' :: t)) (backslash (byte '\\' :: t ++ closing)) := by
  rw [backslash_eq, backslash_eq]
  cases t with
  | nil => exact escapedItem_continued _ []
  | cons c t =>
    have left : t <:+ c :: t := List.suffix_cons c t
    refine .ite (fun _ => .kept (.read _ left)) fun _ => ?_
    refine .ite (fun _ => .kept (.read _ left)) fun _ => ?_
    refine .ite (fun _ => .kept (.read _ left)) fun _ => ?_
    refine .ite (fun _ => .kept (.refused _ _)) fun _ => ?_
    refine .ite (fun quote => ?_) fun _ => ?_
    · refine .kept ((quoted_kept ?_).weaken left)
      intro unended
      exact closed ⟨t, by rw [Option.some.inj quote], unended⟩
    refine .ite (fun _ => .kept (.read _ left)) fun _ => ?_
    exact escapedItem_continued _ (c :: t)

theorem read_continued (b : UInt8) (t : Text) (closed : ¬ OpensQuote (b :: t)) :
    Continued t (read b t) (read b (t ++ closing)) := by
  have loop : ∀ least most, Continued t
      (Except.ok (PatternToken.loop least most (taken (b :: t) (lazyRest t)), lazyRest t))
      (.ok (.loop least most (taken (b :: (t ++ closing)) (lazyRest (t ++ closing))),
        lazyRest (t ++ closing))) := by
    intro least most
    rw [lazyRest_closing, ← List.cons_append,
      taken_closing ((lazyRest_suffix t).trans (List.suffix_cons b t))]
    exact .kept (.read _ (lazyRest_suffix t))
  rw [read, read]
  refine .ite (fun _ => ?_) fun _ => ?_
  · cases t with
    | nil => exact .kept (.read _ List.suffix_rfl)
    | cons c t =>
      exact .ite (fun _ => specialGroup_continued b c t) fun _ => .kept (.read _ List.suffix_rfl)
  iterate 5 refine .ite (fun _ => .kept (.read _ List.suffix_rfl)) fun _ => ?_
  refine .ite (fun _ => .kept (bracketedSet_kept b t)) fun _ => ?_
  iterate 3 refine .ite (fun _ => loop _ _) fun _ => ?_
  refine .ite (fun _ => .kept (countedLoop_kept b t)) fun _ => ?_
  refine .ite (fun slash => ?_) fun _ => ?_
  · subst slash
    exact backslash_continued t closed
  · exact .kept ((nextRune_kept b t).bind fun r rest left => .read _ left)

/-- A quotation that is not ended is the last token, and takes in the closing. -/
theorem read_open {b : UInt8} {t : Text} (opens : OpensQuote (b :: t)) :
    (∃ rs, read b t = .ok (.runes rs, []) ∧
      read b (t ++ closing) = .ok (.runes (rs ++ [0x29, 0x24]), [])) ∨
    ∃ e e', read b t = .error e ∧ read b (t ++ closing) = .error e' := by
  obtain ⟨u, same, unended⟩ := opens
  cases same
  exact quoted_open unended

end Tokens

end JavadocLint.PatternToken
