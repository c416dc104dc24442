import JavadocLint.Proofs.TokenClosing

/- All tokens of a pattern with the closing of the anchored group behind it. When the pattern can be
   read to its end and leaves no quotation open, two tokens more are read, the end of the group and
   the anchor. Otherwise no end of a group is read behind the place where the two readings part. -/
namespace JavadocLint.PatternToken

variable {b : UInt8} {t rest p : Text} {token : PatternToken}

theorem read_suffix (reads : read b t = .ok (token, rest)) : rest <:+ t := by
  by_cases opens : OpensQuote (b :: t)
  · rcases read_open opens with ⟨rs, own, -⟩ | ⟨e, e', own, -⟩
    · rw [own] at reads
      cases reads
      exact List.nil_suffix
    · rw [own] at reads
      cases reads
  · have next := read_continued b t opens
    rw [reads] at next
    generalize read b (t ++ closing) = x' at next
    cases next with
    | kept same =>
      cases same with
      | read _ left => exact left

theorem readFrom_drop (skip : Nat) (t : Text) : readFrom skip t = readFrom 0 (t.drop skip) := by
  induction t generalizing skip with
  | nil => simp [readFrom]
  | cons b t ih =>
    cases skip with
    | zero => rfl
    | succ n => rw [readFrom, ih, List.drop_succ_cons]

theorem readFrom_read (reads : read b t = .ok (token, rest)) :
    readFrom 0 (b :: t) = (token :: (readFrom 0 rest).1, (readFrom 0 rest).2) := by
  obtain ⟨front, rfl⟩ := read_suffix reads
  rw [readFrom, reads]
  dsimp only
  rw [readFrom_drop, List.length_append, Nat.add_sub_cancel, List.drop_left]

theorem readFrom_refused {e : PatternError} (refused : read b t = .error e) :
    readFrom 0 (b :: t) = ([], some e) := by
  rw [readFrom, refused]

theorem token_induction {motive : Text → Prop} (empty : motive [])
    (refused : ∀ b t e, read b t = .error e → motive (b :: t))
    (more : ∀ b t token rest, read b t = .ok (token, rest) → motive rest → motive (b :: t))
    (p : Text) : motive p := by
  induction size : p.length using Nat.strongRecOn generalizing p with
  | ind n ih =>
    cases p with
    | nil => exact empty
    | cons b t =>
      cases outcome : read b t with
      | error e => exact refused b t e outcome
      | ok pair =>
        obtain ⟨token, rest⟩ := pair
        have shorter : rest.length < n := by
          have := (read_suffix outcome).length_le
          rw [List.length_cons] at size
          omega
        exact more b t token rest outcome (ih _ shorter rest rfl)

/-- Where a token should begin, a quotation is begun that is not ended. -/
inductive LeavesQuoteOpen : Text → Prop where
  | here {t : Text} (opens : OpensQuote t) : LeavesQuoteOpen t
  | later {b : UInt8} {t rest : Text} {token : PatternToken} (reads : read b t = .ok (token, rest))
      (quote : LeavesQuoteOpen rest) : LeavesQuoteOpen (b :: t)

theorem leavesQuoteOpen_rest (closed : ¬ OpensQuote (b :: t)) (reads : read b t = .ok (token, rest))
    (quote : LeavesQuoteOpen (b :: t)) : LeavesQuoteOpen rest := by
  cases quote with
  | here opens => exact absurd opens closed
  | later again quote =>
    rw [reads] at again
    cases again
    exact quote

theorem not_leavesQuoteOpen (plain : ¬ utf8 "\\Q" <:+: p) : ¬ LeavesQuoteOpen p := by
  intro quote
  induction quote with
  | here opens =>
    obtain ⟨t, rfl, -⟩ := opens
    exact plain ⟨[], t, rfl⟩
  | later reads _ ih =>
    exact ih fun inside => plain
      (inside.trans ((read_suffix reads).isInfix.trans (List.suffix_cons _ _).isInfix))

theorem readFrom_closing : readFrom 0 closing = ([.closeGroup, .dollar], none) := by decide +kernel

theorem readFrom_closed (closed : ¬ LeavesQuoteOpen p) (complete : (readFrom 0 p).2 = none) :
    readFrom 0 (p ++ closing) = ((readFrom 0 p).1 ++ [.closeGroup, .dollar], none) := by
  induction p using token_induction with
  | empty => exact readFrom_closing
  | refused b t e refused =>
    rw [readFrom_refused refused] at complete
    cases complete
  | more b t token rest reads ih =>
    have next := read_continued b t fun opens => closed (.here opens)
    rw [reads] at next
    rw [readFrom_read reads] at complete ⊢
    cases outcome : read b (t ++ closing) with
    | error e =>
      rw [outcome] at next
      cases next with
      | kept same => cases same
    | ok pair =>
      rw [outcome] at next
      cases next with
      | kept same =>
        cases same with
        | read _ left =>
          rw [List.cons_append, readFrom_read outcome,
            ih (fun quote => closed (.later reads quote)) complete]
          rfl

def EndsNone (x : Except PatternError (PatternToken × Text)) : Prop :=
  ∀ rest, x ≠ .ok (.closeGroup, rest)

theorem EndsNone.other (other : token ≠ .closeGroup) : EndsNone (.ok (token, rest)) := by
  intro rest same
  exact other (Prod.mk.inj (Except.ok.inj same)).1

theorem EndsNone.refused (e : PatternError) : EndsNone (.error e) := by
  intro rest same
  cases same

theorem EndsNone.ite {c : Prop} [Decidable c] {x y : Except PatternError (PatternToken × Text)}
    (holds : c → EndsNone x) (fails : ¬ c → EndsNone y) : EndsNone (if c then x else y) := by
  split
  · exact holds ‹c›
  · exact fails ‹¬ c›

theorem EndsNone.bind {α : Type} {x : Except PatternError α}
    {f : α → Except PatternError (PatternToken × Text)} (next : ∀ a, EndsNone (f a)) :
    EndsNone (x >>= f) := by
  cases x with
  | error e => exact .refused e
  | ok a => exact next a

theorem flagRun_endsNone (whole : Text) (n : Nat) (change : FlagChange) (sign seen : Bool)
    (t : Text) : EndsNone (flagRun whole n change sign seen t) := by
  induction n generalizing change sign seen t with
  | zero => exact .refused _
  | succ n ih =>
    rw [flagRun]
    refine .ite (fun _ => .refused _) fun _ => .bind ?_
    rintro ⟨r, rest⟩
    iterate 5 refine .ite (fun _ => ih _ _ _ _) fun _ => ?_
    exact .ite (fun _ => .other (by simp)) fun _ => .refused _

theorem namedGroup_endsNone (whole : Text) (start : Nat) : EndsNone (namedGroup whole start) := by
  rw [namedGroup]
  split
  · exact .bind fun _ => .refused _
  · exact .bind fun _ => .ite (fun _ => .other (by simp)) fun _ => .refused _

theorem specialGroup_endsNone (whole : Text) : EndsNone (specialGroup whole) := by
  rw [specialGroup_eq]
  refine .ite (fun _ => namedGroup_endsNone whole 4) fun _ => ?_
  exact .ite (fun _ => namedGroup_endsNone whole 3) fun _ => flagRun_endsNone _ _ _ _ _ _

theorem escapedItem_endsNone (t : Text) : EndsNone (escapedItem t) := by
  refine .bind fun found => ?_
  split
  · exact .other (by simp)
  · split
    · exact .other (by simp)
    · exact .bind fun _ => .other (by simp)

theorem backslash_endsNone (t : Text) : EndsNone (backslash t) := by
  rw [backslash_eq]
  iterate 3 refine .ite (fun _ => .other (by simp)) fun _ => ?_
  refine .ite (fun _ => .refused _) fun _ => ?_
  refine .ite (fun _ => .bind fun _ => .other (by simp)) fun _ => ?_
  exact .ite (fun _ => .other (by simp)) fun _ => escapedItem_endsNone t

theorem countedLoop_endsNone (t : Text) : EndsNone (countedLoop t) := by
  rw [countedLoop]
  split
  · exact .other (by simp)
  · exact .ite (fun _ => .refused _) fun _ => .other (by simp)

theorem read_endsNone (other : b ≠ byte ')') : EndsNone (read b t) := by
  rw [read]
  refine .ite (fun _ => ?_) fun _ => ?_
  · exact .ite (fun _ => specialGroup_endsNone _) fun _ => .other (by simp)
  refine .ite (fun _ => .other (by simp)) fun _ => ?_
  refine .ite (fun close => absurd close other) fun _ => ?_
  iterate 3 refine .ite (fun _ => .other (by simp)) fun _ => ?_
  refine .ite (fun _ => .bind fun _ => .other (by simp)) fun _ => ?_
  iterate 3 refine .ite (fun _ => .other (by simp)) fun _ => ?_
  refine .ite (fun _ => countedLoop_endsNone _) fun _ => ?_
  refine .ite (fun _ => backslash_endsNone _) fun _ => ?_
  exact .bind fun _ => .other (by simp)

theorem read_closeGroup (reads : read b t = .ok (.closeGroup, rest)) : rest = t := by
  by_cases close : b = byte ')'
  · subst close
    cases reads
    rfl
  · exact absurd reads (read_endsNone close rest)

/-- The same tokens are read up to some place, and no end of a group behind it. -/
def Astray (tokens : List PatternToken) (other : List PatternToken × Option PatternError) : Prop :=
  other.2 = none → ∃ common tail more, tokens = common ++ tail ∧ other.1 = common ++ more ∧
    .closeGroup ∉ more

theorem Astray.cons {tokens : List PatternToken} {other : List PatternToken × Option PatternError}
    (astray : Astray tokens other) (token : PatternToken) :
    Astray (token :: tokens) (token :: other.1, other.2) := by
  intro complete
  obtain ⟨common, tail, more, own, others, none⟩ := astray complete
  exact ⟨token :: common, tail, more, congrArg _ own, congrArg _ others, none⟩

theorem astray_taken (reads : read b (t ++ closing) = .ok (token, rest)) (left : rest <:+ [0x24]) :
    Astray [] (readFrom 0 (b :: t ++ closing)) := by
  intro _
  refine ⟨[], [], _, rfl, rfl, ?_⟩
  rw [List.cons_append, readFrom_read reads]
  have other : token ≠ .closeGroup := by
    rintro rfl
    have short := left.length_le
    rw [read_closeGroup reads, List.length_append, closing_eq] at short
    simp at short
  have after : PatternToken.closeGroup ∉ (readFrom 0 rest).1 := by
    rcases List.suffix_cons_iff.mp left with whole | none
    · rw [whole]
      decide
    · rw [List.suffix_nil.mp none]
      decide
  simp [other.symm, after]

/-- When a quotation is left open or the pattern cannot be read to its end, the end of the group
    is missed. -/
theorem readFrom_astray (fault : LeavesQuoteOpen p ∨ (readFrom 0 p).2 ≠ none) :
    Astray (readFrom 0 p).1 (readFrom 0 (p ++ closing)) := by
  induction p using token_induction with
  | empty =>
    rcases fault with ⟨⟨_, opens, _⟩⟩ | unread
    · cases opens
    · exact absurd rfl unread
  | refused b t e refused =>
    rw [readFrom_refused refused]
    by_cases opens : OpensQuote (b :: t)
    · rcases read_open opens with ⟨rs, own, -⟩ | ⟨e, e', -, other⟩
      · rw [own] at refused
        cases refused
      · intro complete
        rw [List.cons_append, readFrom_refused other] at complete
        cases complete
    · have next := read_continued b t opens
      rw [refused] at next
      cases outcome : read b (t ++ closing) with
      | error e' =>
        intro complete
        rw [List.cons_append, readFrom_refused outcome] at complete
        cases complete
      | ok pair =>
        rw [outcome] at next
        cases next with
        | kept same => cases same
        | taken _ _ left => exact astray_taken outcome left
  | more b t token rest reads ih =>
    by_cases opens : OpensQuote (b :: t)
    · rcases read_open opens with ⟨rs, own, other⟩ | ⟨e, e', own, -⟩
      · intro _
        refine ⟨[], _, _, rfl, rfl, ?_⟩
        rw [List.cons_append, readFrom_read other]
        simp [readFrom]
      · rw [own] at reads
        cases reads
    · have next := read_continued b t opens
      rw [reads] at next
      rw [readFrom_read reads] at fault ⊢
      cases outcome : read b (t ++ closing) with
      | error e =>
        rw [outcome] at next
        cases next with
        | kept same => cases same
      | ok pair =>
        rw [outcome] at next
        cases next with
        | kept same =>
          cases same with
          | read _ left =>
            rw [List.cons_append, readFrom_read outcome]
            exact (ih (fault.imp_left (leavesQuoteOpen_rest opens reads))).cons token

end JavadocLint.PatternToken
