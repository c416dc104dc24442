import JavadocLint.Regex.Parse
import Mathlib.Data.List.Infix

/- Reading the tokens of a pattern inside a group. The group around them is not looked at before its
   end is read, so each token has the effect that it has without the group, and a token that is
   refused there is refused here. The end of a group that was never opened is the exception: inside
   the group it ends that one. Which tokens that happens at is a matter of counting the groups. -/
namespace JavadocLint.PatternBuilder

section Limits

def Fits (p : Piece) : Prop := p.size ≤ Piece.sizeLimit ∧ p.height ≤ Piece.heightLimit

theorem checked_fits {p : Piece} (fits : Fits p) (b : PatternBuilder) : b.checked p = .ok p := by
  rw [checked, if_neg (Nat.not_lt.mpr fits.1), if_neg (Nat.not_lt.mpr fits.2)]

theorem checked_exceeds {p : Piece} (exceeds : ¬ Fits p) (b : PatternBuilder) :
    ∃ e, b.checked p = .error e ∧ (e.fault = .tooDeep ∨ e.fault = .tooLarge) := by
  rw [checked]
  by_cases large : p.size > Piece.sizeLimit
  · rw [if_pos large]
    exact ⟨_, rfl, .inr rfl⟩
  · have deep : p.height > Piece.heightLimit := by
      by_contra shallow
      exact exceeds ⟨Nat.not_lt.mp large, Nat.not_lt.mp shallow⟩
    rw [if_neg large, if_pos deep]
    exact ⟨_, rfl, .inl rfl⟩

theorem push_fits {p : Piece} (fits : Fits p) (b : PatternBuilder) :
    b.push p = .ok { b with current.pieces := p :: b.current.pieces } := by
  rw [push, checked_fits fits]
  rfl

theorem finish_exceeds {b : PatternBuilder} (exceeds : ¬ Fits b.current.close) :
    ∃ e, b.finish = .error e ∧ (e.fault = .tooDeep ∨ e.fault = .tooLarge) := by
  obtain ⟨e, refused, limit⟩ := checked_exceeds exceeds b
  rw [finish, refused]
  exact ⟨e, rfl, limit⟩

theorem finish_ok {b : PatternBuilder} {regex : Regex} (done : b.finish = .ok regex) :
    b.outer = [] ∧ Fits b.current.close ∧ b.current.close.regex = regex := by
  by_cases fits : Fits b.current.close
  · rw [finish, checked_fits fits] at done
    dsimp only [bind, Except.bind] at done
    split at done
    · rename_i empty
      exact ⟨List.isEmpty_iff.mp empty, fits, Except.ok.inj done⟩
    · cases done
  · obtain ⟨e, refused, -⟩ := finish_exceeds fits
    rw [refused] at done
    cases done

theorem finish_fits {b : PatternBuilder} (closed : b.outer = []) (fits : Fits b.current.close) :
    b.finish = .ok b.current.close.regex := by
  rw [finish, checked_fits fits, closed]
  rfl

end Limits

section Group

def within (b : PatternBuilder) (whole : Text) (group : GroupStart × Frame) : PatternBuilder :=
  { b with whole := whole, outer := b.outer ++ [group] }

/-- Inside the group the outcome is the same, unless a group is ended that was not opened. -/
inductive Mirrored (whole : Text) (group : GroupStart × Frame) :
    Except PatternError PatternBuilder → Except PatternError PatternBuilder → Prop where
  | read (b : PatternBuilder) : Mirrored whole group (.ok b) (.ok (b.within whole group))
  | refused (e e' : PatternError) : Mirrored whole group (.error e) (.error e')
  | stray (e : PatternError) (x' : Except PatternError PatternBuilder)
      (fault : e.fault = .unexpectedClose) : Mirrored whole group (.error e) x'

variable {whole : Text} {group : GroupStart × Frame}

theorem Mirrored.bind {x x' : Except PatternError PatternBuilder}
    {f f' : PatternBuilder → Except PatternError PatternBuilder}
    (first : Mirrored whole group x x')
    (next : ∀ b, Mirrored whole group (f b) (f' (b.within whole group))) :
    Mirrored whole group (x >>= f) (x' >>= f') := by
  cases first with
  | read b => exact next b
  | refused e e' => exact .refused e e'
  | stray e x' fault => exact .stray e _ fault

theorem Mirrored.checked {b b' : PatternBuilder} {p : Piece}
    {f f' : Piece → Except PatternError PatternBuilder} (next : Mirrored whole group (f p) (f' p)) :
    Mirrored whole group (b.checked p >>= f) (b'.checked p >>= f') := by
  by_cases fits : Fits p
  · rw [checked_fits fits, checked_fits fits]
    exact next
  · obtain ⟨e, refused, -⟩ := checked_exceeds fits b
    obtain ⟨e', refused', -⟩ := checked_exceeds fits b'
    rw [refused, refused']
    exact .refused e e'

variable (b : PatternBuilder)

theorem push_within (p : Piece) :
    Mirrored whole group (b.push p) ((b.within whole group).push p) :=
  .checked (.read _)

theorem pushAll_within (ps : List Piece) :
    Mirrored whole group (b.pushAll ps) ((b.within whole group).pushAll ps) := by
  induction ps generalizing b with
  | nil => exact .read b
  | cons p ps ih => exact (push_within b p).bind ih

theorem repeatLast_within (least : Nat) (most : Option Nat) (written : Text) :
    Mirrored whole group (b.repeatLast least most written)
      ((b.within whole group).repeatLast least most written) := by
  obtain ⟨own, flags, ⟨done, pieces⟩, outer, operator⟩ := b
  cases operator with
  | some before => exact .refused _ _
  | none =>
    cases pieces with
    | nil => exact .refused _ _
    | cons p pieces =>
      refine .checked ?_
      dsimp only [within]
      split
      · exact .refused _ _
      · exact .read _

theorem closeGroup_within :
    Mirrored whole group b.closeGroup (b.within whole group).closeGroup := by
  obtain ⟨own, flags, current, outer, operator⟩ := b
  refine .checked ?_
  cases outer with
  | nil => exact .stray _ _ rfl
  | cons first outer => exact push_within ⟨own, first.1.flags, first.2, outer, operator⟩ _

theorem nextAlternative_within :
    Mirrored whole group b.nextAlternative (b.within whole group).nextAlternative :=
  .checked (.read _)

theorem read_within (token : PatternToken) :
    Mirrored whole group (b.read token) ((b.within whole group).read token) := by
  cases token with
  | runes rs => exact pushAll_within { b with operator := none } _
  | openGroup => exact .read _
  | flags change opensGroup =>
    cases opensGroup with
    | true => exact .read _
    | false => exact .read _
  | closeGroup => exact closeGroup_within { b with operator := none }
  | bar => exact nextAlternative_within { b with operator := none }
  | caret => exact push_within { b with operator := none } _
  | dollar => exact push_within { b with operator := none } _
  | dot => exact push_within { b with operator := none } _
  | set negated items => exact push_within { b with operator := none } _
  | assert a => exact push_within { b with operator := none } _
  | loop least most written => exact repeatLast_within b least most written

theorem readAll_within (tokens : List PatternToken) :
    Mirrored whole group (b.readAll tokens) ((b.within whole group).readAll tokens) := by
  induction tokens generalizing b with
  | nil => exact .read b
  | cons token tokens ih => exact (read_within b token).bind ih

end Group

section Depth

def depthAfter (depth : Nat) : PatternToken → Option Nat
  | .openGroup => some (depth + 1)
  | .flags _ opensGroup => some (if opensGroup then depth + 1 else depth)
  | .closeGroup => if depth = 0 then none else some (depth - 1)
  | _ => some depth

/-- How many groups are open behind tokens, unless one of them ends a group that is not open. -/
def groupDepth (depth : Nat) (tokens : List PatternToken) : Option Nat :=
  tokens.foldlM depthAfter depth

theorem groupDepth_cons (depth : Nat) (token : PatternToken) (tokens : List PatternToken) :
    groupDepth depth (token :: tokens) =
      depthAfter depth token >>= fun depth => groupDepth depth tokens :=
  List.foldlM_cons

theorem le_groupDepth {tokens : List PatternToken} {depth depth' : Nat}
    (none : .closeGroup ∉ tokens) (behind : groupDepth depth tokens = some depth') :
    depth ≤ depth' := by
  induction tokens generalizing depth with
  | nil => exact Nat.le_of_eq (Option.some.inj behind)
  | cons token tokens ih =>
    rw [List.mem_cons, not_or] at none
    rw [groupDepth_cons] at behind
    cases token with
    | openGroup => exact Nat.le_of_succ_le (ih none.2 behind)
    | flags change opensGroup =>
      cases opensGroup with
      | true => exact Nat.le_of_succ_le (ih none.2 behind)
      | false => exact ih none.2 behind
    | closeGroup => exact absurd rfl none.1
    | _ => exact ih none.2 behind

/-- The groups that are open are as many as their count says. Reading stops with an unexpected end
    of a group only where the count does, and never because a group is left open. -/
def Counts (depth : Option Nat) : Except PatternError PatternBuilder → Prop
  | .ok c => depth = some c.outer.length
  | .error e => e.fault ≠ .unclosedGroup ∧ (e.fault = .unexpectedClose → depth = none)

theorem Counts.bind {x : Except PatternError PatternBuilder}
    {f : PatternBuilder → Except PatternError PatternBuilder} {depth : Option Nat}
    {g : Nat → Option Nat} (first : Counts depth x)
    (rest : ∀ c, Counts (g c.outer.length) (f c)) : Counts (depth >>= g) (x >>= f) := by
  cases x with
  | error e =>
    refine ⟨first.1, fun stray => ?_⟩
    rw [first.2 stray]
    rfl
  | ok c =>
    rw [show depth = some c.outer.length from first]
    exact rest c

theorem Counts.checked {f : Piece → Except PatternError PatternBuilder} {depth : Option Nat}
    (b : PatternBuilder) (p : Piece) (rest : Counts depth (f p)) :
    Counts depth (b.checked p >>= f) := by
  by_cases fits : Fits p
  · rw [checked_fits fits]
    exact rest
  · obtain ⟨e, refused, limit⟩ := checked_exceeds fits b
    rw [refused]
    rcases limit with deep | large
    · exact ⟨by simp [deep], by simp [deep]⟩
    · exact ⟨by simp [large], by simp [large]⟩

variable (b : PatternBuilder)

theorem push_counts (p : Piece) : Counts (some b.outer.length) (b.push p) := .checked b p rfl

theorem pushAll_counts (ps : List Piece) : Counts (some b.outer.length) (b.pushAll ps) := by
  induction ps generalizing b with
  | nil => rfl
  | cons p ps ih => exact (push_counts b p).bind (g := some) ih

theorem repeatLast_counts (least : Nat) (most : Option Nat) (written : Text) :
    Counts (some b.outer.length) (b.repeatLast least most written) := by
  rw [repeatLast]
  dsimp only
  split
  · exact ⟨by simp, by simp⟩
  · split
    · exact ⟨by simp, by simp⟩
    · refine .checked b _ ?_
      split
      · exact ⟨by simp, by simp⟩
      · rfl

theorem closeGroup_counts :
    Counts (depthAfter b.outer.length .closeGroup) b.closeGroup := by
  refine .checked b _ ?_
  cases outer : b.outer with
  | nil => exact ⟨by simp, fun _ => rfl⟩
  | cons group rest =>
    exact push_counts { b with flags := group.1.flags, current := group.2, outer := rest } _

theorem read_counts (token : PatternToken) :
    Counts (depthAfter b.outer.length token) (b.read token) := by
  cases token with
  | runes rs => exact pushAll_counts { b with operator := none } _
  | openGroup => rfl
  | flags change opensGroup => cases opensGroup <;> rfl
  | closeGroup => exact closeGroup_counts { b with operator := none }
  | bar => exact .checked _ _ rfl
  | caret => exact push_counts { b with operator := none } _
  | dollar => exact push_counts { b with operator := none } _
  | dot => exact push_counts { b with operator := none } _
  | set negated items => exact push_counts { b with operator := none } _
  | assert a => exact push_counts { b with operator := none } _
  | loop least most written => exact repeatLast_counts b least most written

theorem readAll_counts (tokens : List PatternToken) :
    Counts (groupDepth b.outer.length tokens) (b.readAll tokens) := by
  induction tokens generalizing b with
  | nil => rfl
  | cons token tokens ih =>
    rw [groupDepth_cons]
    exact (read_counts b token).bind ih

theorem readAll_depth {tokens : List PatternToken} {c : PatternBuilder}
    (run : b.readAll tokens = .ok c) :
    groupDepth b.outer.length tokens = some c.outer.length := by
  have counts := readAll_counts b tokens
  rwa [run] at counts

theorem closeGroup_fits {b c : PatternBuilder} (ended : b.closeGroup = .ok c) :
    Fits b.current.close := by
  by_contra exceeds
  obtain ⟨e, refused, -⟩ := checked_exceeds exceeds b
  rw [closeGroup, refused] at ended
  cases ended

theorem readAll_cons_ok {c : PatternBuilder} {token : PatternToken} {tokens : List PatternToken}
    (run : b.readAll (token :: tokens) = .ok c) :
    ∃ d, b.read token = .ok d ∧ d.readAll tokens = .ok c := by
  rw [readAll] at run
  cases first : b.read token with
  | error e =>
    rw [first] at run
    cases run
  | ok d =>
    rw [first] at run
    exact ⟨d, rfl, run⟩

theorem readAll_append (tokens others : List PatternToken) :
    b.readAll (tokens ++ others) = b.readAll tokens >>= fun c => c.readAll others := by
  induction tokens generalizing b with
  | nil => rfl
  | cons token tokens ih =>
    rw [List.cons_append, readAll, readAll]
    cases b.read token with
    | error e => rfl
    | ok c => exact ih c

end Depth

end JavadocLint.PatternBuilder
