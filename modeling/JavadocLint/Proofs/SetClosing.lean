import JavadocLint.Proofs.PatternClosing

/- Bracketed sets and the classes in them, with the closing of the anchored group behind the
   pattern. A set ends with a bracket, and the closing holds none; so a set is read to the same end
   or not at all, although a range that lacks its upper end would take one from the closing. -/
namespace JavadocLint.PatternToken

theorem shorthandItem?_closing (t : Text) : shorthandItem? (t ++ closing) = shorthandItem? t := by
  rw [closing_eq]
  rcases t with _ | ⟨b, _ | ⟨c, t⟩⟩
  · rfl
  · by_cases slash : b = byte '\\'
    · rw [slash]
      rfl
    · simp [shorthandItem?, slash]
  · rfl

theorem namedItem?_kept (t : Text) :
    KeptItem (t.drop 1) (namedItem? t) (namedItem? (t ++ closing)) := by
  have begins : utf8 "[:" = [0x5B] ++ [0x3A] := by decide
  have ends : utf8 ":]" = [0x3A] ++ [0x5D] := by decide
  have start := @isPrefixOf_closing [0x5B] 0x3A (by decide) t
  rw [← begins] at start
  rw [namedItem?, namedItem?, start]
  by_cases named : (utf8 "[:").isPrefixOf t = true
  · obtain ⟨u, rfl⟩ := List.isPrefixOf_iff_prefix.mp named
    have dropped : (utf8 "[:" ++ u).drop 2 = u := rfl
    have dropped' : (utf8 "[:" ++ u ++ closing).drop 2 = u ++ closing := rfl
    have long : decide (2 < (utf8 "[:" ++ u ++ closing).length) = true := by
      simp [begins, closing_eq]
    rw [named, dropped, dropped', long, Bool.true_and, Bool.true_and, if_pos rfl, ends,
      cut?_closing (by decide)]
    cases u with
    | nil => exact .absent
    | cons c u =>
      rw [if_pos (by simp [begins])]
      cases found : Text.cut? ([0x3A] ++ [0x5D]) (c :: u) with
      | none => exact .absent
      | some parts =>
        obtain ⟨inside, rest⟩ := parts
        dsimp only [Option.map_some]
        split
        · exact .read _ (((cut?_suffix found).trans (List.drop_suffix _ _)).trans ⟨[0x3A], rfl⟩)
        · exact .refused _ _
  · rw [Bool.eq_false_iff.mpr named]
    exact .absent

def propertyName (whole t : Text) : Except PatternError (Text × Text) := do
  let (r, afterRune) ← nextRune t
  if r = 123 then
    match Text.cut? (utf8 "\x7d") whole with
    | none => do
      requireValid whole
      fail .badRange whole
    | some (before, rest) => do
      requireValid (before.drop 3)
      return (before.drop 3, rest)
  else return (taken t afterRune, afterRune)

def propertyNamed (whole : Text) (negated : Bool) (name : Text × Text) :
    Except PatternError (Option (SetItem × Text)) :=
  let inverted := name.1.head? = some (byte '^')
  match propertyRanges? (if inverted then name.1.drop 1 else name.1) with
  | some ranges => .ok (some (⟨negated != inverted, ranges⟩, name.2))
  | none => fail .badRange (taken whole name.2)

theorem propertyItem?_eq (a b : UInt8) (t : Text) :
    propertyItem? (a :: b :: t) =
      if (decide (a = byte '\\') && (decide (b = byte 'p') || decide (b = byte 'P'))) = true then
        propertyName (a :: b :: t) t >>= propertyNamed (a :: b :: t) (b = byte 'P')
      else .ok none := by
  rw [propertyItem?]
  refine if_congr Iff.rfl ?_ rfl
  rw [propertyName]
  cases nextRune t with
  | error e => rfl
  | ok pair =>
    obtain ⟨r, afterRune⟩ := pair
    dsimp only [bind, Except.bind]
    by_cases braced : r = 123
    · rw [if_pos braced, if_pos braced]
      cases Text.cut? (utf8 "\x7d") (a :: b :: t) with
      | none => cases requireValid (a :: b :: t) <;> rfl
      | some parts =>
        obtain ⟨before, rest⟩ := parts
        dsimp only
        cases requireValid (before.drop 3) <;> rfl
    · rw [if_neg braced, if_neg braced]
      rfl

theorem propertyName_kept (a b c : UInt8) (t : Text) :
    Kept (b :: c :: t) (propertyName (a :: b :: c :: t) (c :: t))
      (propertyName (a :: b :: c :: t ++ closing) (c :: t ++ closing)) := by
  have brace : utf8 "\x7d" = [] ++ [0x7D] := by decide
  rw [propertyName, propertyName]
  refine (nextRune_kept c t).bind ?_
  intro r rest left
  dsimp only
  refine .ite (fun braced => ?_) fun _ => ?_
  · rw [brace, cut?_closing (by decide)]
    cases found : Text.cut? ([] ++ [0x7D]) (a :: b :: c :: t) with
    | none =>
      dsimp only [Option.map_none]
      cases requireValid (a :: b :: c :: t) <;> cases requireValid (a :: b :: c :: t ++ closing) <;>
        exact .refused _ _
    | some parts =>
      obtain ⟨before, after⟩ := parts
      dsimp only [Option.map_some]
      cases requireValid (before.drop 3) with
      | error e => exact .refused _ _
      | ok _ => exact .read _ (cut?_suffix found)
  · rw [taken_closing (left.trans (List.suffix_cons c t))]
    exact .read _ (left.trans ((List.suffix_cons c t).trans (List.suffix_cons b _)))

theorem propertyNamed_kept {u whole whole' name rest : Text} (negated : Bool) (left : rest <:+ u) :
    KeptItem u (propertyNamed whole negated (name, rest))
      (propertyNamed whole' negated (name, rest ++ closing)) := by
  rw [propertyNamed, propertyNamed]
  dsimp only
  cases propertyRanges? (if name.head? = some (byte '^') then name.drop 1 else name) with
  | some ranges => exact .read _ left
  | none => exact .refused _ _

theorem propertyNamed_refused (whole : Text) (negated : Bool) {name : Text} (rest : Text)
    (plain : ¬ name.head? = some (byte '^')) (unknown : propertyRanges? name = none) :
    ∃ e, propertyNamed whole negated (name, rest) = .error e := by
  rw [propertyNamed]
  dsimp only
  rw [if_neg plain, unknown]
  exact ⟨_, rfl⟩

theorem propertyItem?_kept (t : Text) :
    KeptItem (t.drop 1) (propertyItem? t) (propertyItem? (t ++ closing)) := by
  rcases t with _ | ⟨a, _ | ⟨b, t⟩⟩
  · exact .absent
  · rw [closing_eq, List.cons_append, List.nil_append, propertyItem?_eq,
      if_neg (by rw [Bool.and_eq_true]; exact fun both => absurd both.2 (by decide))]
    exact .absent
  rw [List.cons_append, List.cons_append, propertyItem?_eq, propertyItem?_eq]
  by_cases letter :
      (decide (a = byte '\\') && (decide (b = byte 'p') || decide (b = byte 'P'))) = true
  · rw [if_pos letter, if_pos letter]
    cases t with
    | nil =>
      -- neither nothing nor the closing is the name of a property
      obtain ⟨e, refused⟩ := @propertyNamed_refused [a, b] (b = byte 'P') [] [] (by decide)
        (by decide +kernel)
      obtain ⟨e', refused'⟩ :=
        @propertyNamed_refused (a :: b :: closing) (b = byte 'P') [0x29] [0x24]
        (by decide) (by decide +kernel)
      have name : propertyName [a, b] [] = .ok ([], []) := rfl
      have name' : propertyName (a :: b :: closing) closing = .ok ([0x29], [0x24]) := by
        rw [propertyName, nextRune_closing]
        rfl
      have own : propertyName [a, b] [] >>= propertyNamed [a, b] (b = byte 'P') = .error e := by
        rw [name]
        exact refused
      have other : propertyName (a :: b :: closing) closing >>=
          propertyNamed (a :: b :: closing) (b = byte 'P') = .error e' := by
        rw [name']
        exact refused'
      rw [List.nil_append, own, other]
      exact .refused _ _
    | cons c t =>
      have named := propertyName_kept a b c t
      revert named
      rw [List.cons_append, List.cons_append, List.cons_append]
      generalize propertyName (a :: b :: c :: t) (c :: t) = x,
        propertyName (a :: b :: c :: (t ++ closing)) (c :: (t ++ closing)) = x'
      rintro (⟨name, left⟩ | ⟨e, e'⟩)
      · exact propertyNamed_kept _ left
      · exact .refused _ _
  · rw [if_neg letter, if_neg letter]
    exact .absent

theorem setRune_continued (whole whole' t : Text) :
    Continued (t.drop 1) (setRune whole t) (setRune whole' (t ++ closing)) := by
  cases t with
  | nil =>
    have read : setRune whole' ([] ++ closing) = .ok (0x29, [0x24]) := by
      rw [List.nil_append]
      exact nextRune_closing
    rw [read]
    exact .taken _ _ List.suffix_rfl
  | cons b t =>
    rw [List.cons_append, setRune, setRune]
    exact .ite (fun _ => escape_continued b t) fun _ => .kept (nextRune_kept b t)

def setRange (whole t : Text) (first : Nat × Text) : Except PatternError (SetItem × Text) :=
  match first.2 with
  | b :: c :: _ =>
    if b = byte '-' && c ≠ byte ']' then do
      let (hi, rest) ← setRune whole (first.2.drop 1)
      if hi < first.1 then fail .badRange (taken t rest)
      else return (⟨false, [first.1, hi, 1]⟩, rest)
    else return (⟨false, [first.1, first.1, 1]⟩, first.2)
  | _ => return (⟨false, [first.1, first.1, 1]⟩, first.2)

theorem setItem_eq (whole t : Text) : setItem whole t = (do
    match ← namedItem? t with
    | some found => return found
    | none =>
      match ← propertyItem? t with
      | some found => return found
      | none =>
        match shorthandItem? t with
        | some item => return (item, t.drop 2)
        | none => setRune whole t >>= setRange whole t) := rfl

def Exhausts {α : Type} (x : Except PatternError (α × Text)) : Prop :=
  ∀ a rest, x = .ok (a, rest) → rest <:+ [0x24]

theorem setRange_short (whole t : Text) (lo : Nat) {rest : Text} (left : rest <:+ [0x24]) :
    setRange whole t (lo, rest) = .ok (⟨false, [lo, lo, 1]⟩, rest) := by
  rcases List.suffix_cons_iff.mp left with rfl | none
  · rfl
  · rw [List.suffix_nil.mp none]
    rfl

/-- A minus at the end of the pattern makes a range with the closing, and no set at all. -/
theorem setRange_continued (whole whole' t t' : Text) (lo : Nat) {u rest : Text}
    (left : rest <:+ u) :
    Continued u (setRange whole t (lo, rest)) (setRange whole' t' (lo, rest ++ closing)) ∨
      (setRange whole t (lo, rest) = .ok (⟨false, [lo, lo, 1]⟩, [byte '-']) ∧
        Exhausts (setRange whole' t' (lo, rest ++ closing))) := by
  rcases rest with _ | ⟨b, _ | ⟨c, rest⟩⟩
  · left
    rw [closing_eq]
    exact .kept (.read _ left)
  · by_cases minus : b = byte '-'
    · right
      subst minus
      have range : setRange whole' t' (lo, [byte '-'] ++ closing) =
          if 0x29 < lo then fail .badRange (taken t' [0x24])
          else .ok (⟨false, [lo, 0x29, 1]⟩, [0x24]) := by
        rw [closing_eq, setRange]
        exact congrArg (· >>= _) nextRune_closing
      refine ⟨rfl, ?_⟩
      rw [range]
      intro a rest found
      split at found
      · cases found
      · cases found
        exact List.suffix_rfl
    · left
      have single : setRange whole' t' (lo, [b] ++ closing) =
          .ok (⟨false, [lo, lo, 1]⟩, [b] ++ closing) := by
        rw [closing_eq, setRange]
        exact if_neg (by simp [minus])
      rw [single]
      exact .kept (.read _ left)
  · left
    rw [setRange, setRange]
    refine .ite (fun range => ?_) fun _ => .kept (.read _ left)
    have last := setRune_continued whole whole' (c :: rest)
    have shorter : rest <:+ u := ((List.suffix_cons c rest).trans (List.suffix_cons b _)).trans left
    change Continued u (setRune whole (c :: rest) >>= _)
      (setRune whole' (c :: rest ++ closing) >>= _)
    revert last
    generalize setRune whole (c :: rest) = x, setRune whole' (c :: rest ++ closing) = x'
    intro last
    cases last with
    | kept same =>
      refine .kept (same.bind ?_)
      intro hi after below
      exact .ite (fun _ => .refused _ _) fun _ => .read _ (below.trans shorter)
    | taken e hi below =>
      change Continued u (.error e) (if hi < lo then _ else _)
      split
      · exact .kept (.refused _ _)
      · exact .taken _ _ below

theorem shorthandItem?_two {t : Text} {item : SetItem} (found : shorthandItem? t = some item) :
    ∃ a b u, t = a :: b :: u := by
  rcases t with _ | ⟨a, _ | ⟨b, u⟩⟩
  · cases found
  · cases found
  · exact ⟨a, b, u, rfl⟩

theorem setItem_continued (whole whole' t : Text) :
    Continued (t.drop 1) (setItem whole t) (setItem whole' (t ++ closing)) ∨
      ((∃ item, setItem whole t = .ok (item, [byte '-'])) ∧
        Exhausts (setItem whole' (t ++ closing))) := by
  rw [setItem_eq, setItem_eq, shorthandItem?_closing]
  have named := namedItem?_kept t
  have property := propertyItem?_kept t
  have first := setRune_continued whole whole' t
  revert named property first
  generalize namedItem? t = x, namedItem? (t ++ closing) = x', propertyItem? t = y,
    propertyItem? (t ++ closing) = y', setRune whole t = z, setRune whole' (t ++ closing) = z'
  intro named property first
  cases named with
  | refused e e' => exact .inl (.kept (.refused e e'))
  | read item left => exact .inl (.kept (.read item left))
  | absent =>
    cases property with
    | refused e e' => exact .inl (.kept (.refused e e'))
    | read item left => exact .inl (.kept (.read item left))
    | absent =>
      dsimp only [bind, Except.bind]
      cases short : shorthandItem? t with
      | some item =>
        obtain ⟨a, b, u, rfl⟩ := shorthandItem?_two short
        exact .inl (.kept (.read item (List.suffix_cons b u)))
      | none =>
        cases first with
        | taken e lo left =>
          dsimp only
          rw [setRange_short _ _ _ left]
          exact .inl (.taken _ _ left)
        | kept same =>
          cases same with
          | refused e e' => exact .inl (.kept (.refused e e'))
          | read lo left =>
            rcases setRange_continued whole whole' t (t ++ closing) lo left with next | ⟨own, other⟩
            · exact .inl next
            · exact .inr ⟨⟨_, own⟩, other⟩

theorem setItem_left {whole t rest : Text} {item : SetItem}
    (found : setItem whole t = .ok (item, rest)) : rest <:+ t.drop 1 ∨ rest = [byte '-'] := by
  rcases setItem_continued whole whole t with next | ⟨⟨other, own⟩, -⟩
  · rw [found] at next
    generalize setItem whole (t ++ closing) = x' at next
    cases next with
    | kept same =>
      cases same with
      | read _ left => exact .inl left
  · rw [own] at found
    cases found
    exact .inr rfl

theorem setItems_more {whole t : Text} {n : Nat} {first : Bool}
    (more : ¬ (!first && t.head? = some (byte ']')) = true) :
    setItems whole (n + 1) first t = (do
      let (item, rest) ← setItem whole t
      let (items, rest) ← setItems whole n false rest
      return (item :: items, rest)) := by
  rw [setItems, if_neg more]

theorem setItems_bracket {whole t rest : Text} {n : Nat} {first : Bool} {items : List SetItem}
    (found : setItems whole n first t = .ok (items, rest)) : byte ']' ∈ t := by
  induction n generalizing first t rest items with
  | zero => cases found
  | succ n ih =>
    by_cases bracket : (!first && t.head? = some (byte ']')) = true
    · rw [Bool.and_eq_true, decide_eq_true_eq] at bracket
      exact List.mem_of_mem_head? (Option.mem_def.mpr bracket.2)
    · rw [setItems_more bracket] at found
      cases head : setItem whole t with
      | error e =>
        rw [head] at found
        cases found
      | ok pair =>
        obtain ⟨item, after⟩ := pair
        rw [head] at found
        dsimp only [bind, Except.bind] at found
        cases tail : setItems whole n false after with
        | error e =>
          rw [tail] at found
          cases found
        | ok others =>
          have inside := ih tail
          rcases setItem_left head with left | rfl
          · exact List.mem_of_mem_drop (left.subset inside)
          · exact absurd inside (by decide)

theorem setItems_refused (whole : Text) (n : Nat) (first : Bool) {t : Text}
    (absent : byte ']' ∉ t) :
    ∃ e, setItems whole n first t = .error e := by
  cases outcome : setItems whole n first t with
  | error e => exact ⟨e, rfl⟩
  | ok pair => exact absurd (setItems_bracket outcome) absent

theorem setItems_exhausted {whole t : Text} (n : Nat) {first : Bool}
    (more : ¬ (!first && t.head? = some (byte ']')) = true)
    (exhausts : Exhausts (setItem whole t)) : ∃ e, setItems whole (n + 1) first t = .error e := by
  rw [setItems_more more]
  cases outcome : setItem whole t with
  | error e => exact ⟨e, rfl⟩
  | ok pair =>
    obtain ⟨item, rest⟩ := pair
    have absent : byte ']' ∉ rest := by
      intro inside
      exact absurd ((exhausts item rest outcome).subset inside) (by decide)
    obtain ⟨e, refused⟩ := setItems_refused whole n false absent
    dsimp only [bind, Except.bind]
    rw [refused]
    exact ⟨e, rfl⟩

theorem setItems_kept (whole whole' : Text) {n : Nat} (first : Bool) {t : Text}
    (fuel : t.length < n) :
    Kept t (setItems whole n first t) (setItems whole' (n + 2) first (t ++ closing)) := by
  have noBracket : byte ']' ∉ closing := by decide
  induction n generalizing first t with
  | zero => exact absurd fuel (Nat.not_lt_zero _)
  | succ n ih =>
    rw [Nat.add_right_comm]
    have head := @head?_closing (byte ']') (by decide) t
    by_cases bracket : (!first && t.head? = some (byte ']')) = true
    · have bracket' : (!first && (t ++ closing).head? = some (byte ']')) = true := by
        simpa only [head] using bracket
      rw [setItems, setItems, if_pos bracket, if_pos bracket']
      cases t with
      | nil => simp at bracket
      | cons b t => exact .read [] (List.suffix_cons b t)
    have more : ¬ (!first && (t ++ closing).head? = some (byte ']')) = true := by
      simpa only [head] using bracket
    rcases setItem_continued whole whole' t with next | ⟨⟨item, own⟩, exhausts⟩
    · generalize own : setItem whole t = x, other : setItem whole' (t ++ closing) = x' at next
      cases next with
      | taken e item left =>
        have exhausts : Exhausts (setItem whole' (t ++ closing)) := by
          rw [other]
          intro a rest same
          cases same
          exact left
        obtain ⟨e', refused⟩ := setItems_exhausted (n + 2) more exhausts
        rw [setItems_more bracket, own, refused]
        exact .refused _ _
      | kept same =>
        rw [setItems_more bracket, setItems_more more, own, other]
        cases same with
        | refused e e' => exact .refused _ _
        | @read item rest left =>
          dsimp only [bind, Except.bind]
          by_cases inside : byte ']' ∈ rest
          · have shorter : rest.length < n := by
              have bound := left.length_le
              have some := List.length_pos_of_mem inside
              rw [List.length_drop] at bound
              omega
            have tail := ih false shorter
            generalize setItems whole n false rest = y,
              setItems whole' (n + 2) false (rest ++ closing) = y' at tail
            cases tail with
            | refused e e' => exact .refused _ _
            | read items after => exact .read _ ((after.trans left).trans (List.drop_suffix 1 t))
          · obtain ⟨e, refused⟩ := setItems_refused whole n false inside
            obtain ⟨e', refused'⟩ := setItems_refused whole' (n + 2) false
              (show byte ']' ∉ rest ++ closing by simp [inside, noBracket])
            rw [refused, refused']
            exact .refused _ _
    · obtain ⟨e, refused⟩ := setItems_refused whole n false (show byte ']' ∉ [byte '-'] by decide)
      obtain ⟨e', refused'⟩ := setItems_exhausted (n + 2) more exhausts
      rw [setItems_more bracket, own, refused']
      dsimp only [bind, Except.bind]
      rw [refused]
      exact .refused _ _

theorem bracketedSet_kept (b : UInt8) (t : Text) :
    Kept t (bracketedSet (b :: t)) (bracketedSet (b :: t ++ closing)) := by
  have head := @head?_closing (byte '^') (by decide) t
  have body : (if (t ++ closing).head? = some (byte '^') then (t ++ closing).drop 1
      else t ++ closing) = (if t.head? = some (byte '^') then t.drop 1 else t) ++ closing := by
    simp only [head]
    split
    · cases t with
      | nil => contradiction
      | cons c t => rfl
    · rfl
  rw [bracketedSet, bracketedSet]
  dsimp only
  rw [show List.drop 1 (b :: t) = t from rfl,
    show List.drop 1 (b :: t ++ closing) = t ++ closing from rfl,
    body, decide_eq_decide.mpr head, List.length_append, Nat.add_right_comm]
  refine (setItems_kept _ _ true (Nat.lt_succ_self _)).bind ?_
  intro items rest left
  refine .read _ (left.trans ?_)
  split
  · exact List.drop_suffix 1 t
  · exact List.suffix_rfl

end JavadocLint.PatternToken
