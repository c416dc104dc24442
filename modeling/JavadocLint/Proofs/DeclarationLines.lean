import Mathlib
import JavadocLint.Proofs.LocatedTokens

/- Every declaration that a scan reports lies inside the file. The scan keeps three kinds of line
   numbers (of the current member, of a keyword that waits for its name, of declarations found) and
   all of them are lines of tokens already read. -/
namespace JavadocLint

def OpenDeclaration.LiesWithin (last : Nat) (o : OpenDeclaration) : Prop :=
  (1 ≤ o.line ∧ o.line ≤ last) ∧ 1 ≤ o.keywordLine ∧ o.keywordLine ≤ last

def Declaration.LiesWithin (last : Nat) (d : Declaration) : Prop :=
  (1 ≤ d.line ∧ d.line ≤ last) ∧ 1 ≤ d.keywordLine ∧ d.keywordLine ≤ last

namespace MemberState

structure LiesWithin (last : Nat) (s : MemberState) : Prop where
  member : ∀ line ∈ s.memberLine, 1 ≤ line ∧ line ≤ last
  pending : ∀ o ∈ s.pending, o.LiesWithin last
  found : ∀ d ∈ s.found, d.LiesWithin last

variable {last : Nat} {s : MemberState} {line : Nat}

theorem liesWithin_begun (within : s.LiesWithin last) (bounds : 1 ≤ line ∧ line ≤ last) :
    1 ≤ s.memberLine.getD line ∧ s.memberLine.getD line ≤ last := by
  cases begun : s.memberLine with
  | none => simpa using bounds
  | some first => exact within.member first begun

theorem liesWithin_begin (within : s.LiesWithin last) (bounds : 1 ≤ line ∧ line ≤ last) :
    (s.begin line).LiesWithin last where
  member := by
    intro first eq
    simp only [MemberState.begin, Option.mem_some_iff] at eq
    subst first
    exact liesWithin_begun within bounds
  pending := within.pending
  found := within.found

theorem liesWithin_change (within : s.LiesWithin last) {t : MemberState}
    (member : t.memberLine = none ∨ t.memberLine = s.memberLine)
    (pending : t.pending = none ∨ t.pending = s.pending) (found : t.found = s.found) :
    t.LiesWithin last where
  member := by
    rcases member with eq | eq
    · simp [eq]
    · simpa [eq] using within.member
  pending := by
    rcases pending with eq | eq
    · simp [eq]
    · simpa [eq] using within.pending
  found := by simpa [found] using within.found

theorem liesWithin_readWord (within : s.LiesWithin last) (bounds : 1 ≤ line ∧ line ≤ last)
    (w : Text) : (s.readWord w line).LiesWithin last := by
  have begun := liesWithin_begin within bounds
  unfold readWord
  cases waiting : s.pending with
  | some o =>
    have opened := within.pending o waiting
    refine ⟨begun.member, by simp, ?_⟩
    intro d member
    rcases List.mem_cons.mp member with eq | old
    · subst d
      obtain ⟨first, keyword⟩ := opened
      simp only [Declaration.LiesWithin, OpenDeclaration.close]
      omega
    · exact within.found d old
  | none =>
    refine ⟨begun.member, ?_, within.found⟩
    intro o member
    by_cases outside : s.parens = 0
    · simp only [outside, if_true, Option.mem_def, Option.map_eq_some_iff] at member
      obtain ⟨kind, _, rfl⟩ := member
      exact ⟨liesWithin_begun within bounds, bounds⟩
    · simp [outside] at member

theorem liesWithin_readPunct (within : s.LiesWithin last) (bounds : 1 ≤ line ∧ line ≤ last)
    (b : UInt8) : (s.readPunct b line).LiesWithin last := by
  have kept : { s with pending := none, previous := .mark b : MemberState }.LiesWithin last :=
    liesWithin_change within (.inr rfl) (.inl rfl) rfl
  have begun := liesWithin_begin kept bounds
  unfold readPunct
  split
  · split
    · exact liesWithin_change kept (.inl rfl) (.inr rfl) rfl
    · exact kept
  split
  · split
    · exact liesWithin_change kept (.inl rfl) (.inr rfl) rfl
    · exact kept
  split
  · split
    · exact liesWithin_change kept (.inl rfl) (.inr rfl) rfl
    · exact kept
  split
  · exact liesWithin_change begun (.inr rfl) (.inr rfl) rfl
  split
  · exact liesWithin_change kept (.inr rfl) (.inr rfl) rfl
  · exact begun

theorem liesWithin_read (within : s.LiesWithin last) (bounds : 1 ≤ line ∧ line ≤ last)
    (t : Token) : (s.read line t).LiesWithin last := by
  cases t with
  | word w => exact liesWithin_readWord within bounds w
  | literal q =>
    exact liesWithin_change (liesWithin_begin within bounds) (.inr rfl) (.inr rfl) rfl
  | punct b => exact liesWithin_readPunct within bounds b

theorem liesWithin_readAll (tokens : List LocatedToken) (within : s.LiesWithin last)
    (bounds : ∀ t ∈ tokens, 1 ≤ t.2 ∧ t.2 ≤ last) : (s.readAll tokens).LiesWithin last := by
  induction tokens generalizing s with
  | nil => exact within
  | cons t rest ih =>
    have first := liesWithin_read within (bounds t (by simp)) t.1
    exact ih first fun u member => bounds u (by simp [member])

theorem liesWithin_initial : ({} : MemberState).LiesWithin last := ⟨by simp, by simp, by simp⟩

end MemberState

theorem declarations_lie_within (lines : List Text) (d : Declaration)
    (member : d ∈ declarations lines) : d.LiesWithin lines.length := by
  rw [declarations_readAll, List.mem_reverse] at member
  have within := MemberState.liesWithin_readAll (fileTokens lines)
    MemberState.liesWithin_initial (fileTokens_line lines)
  exact within.found d member

end JavadocLint
