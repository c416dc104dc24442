import JavadocLint.Unicode.Fold
import JavadocLint.Unicode.RuneSet

/- Regular expressions over characters, and the positions that a match can reach. Matching follows
   sets of positions, so its cost does not depend on how a match could be divided among nested
   repetitions. -/
namespace JavadocLint

/-- One part of a bracketed set: the listed ranges, or everything but them. -/
structure SetItem where
  negated : Bool
  ranges : List Nat
  deriving DecidableEq, Repr

/-- A set of characters. When `fold` is set, a character is in a part if one that differs from it
    only in case is. -/
structure RuneSet where
  negated : Bool
  fold : Bool
  items : List SetItem
  deriving DecidableEq, Repr

def SetItem.holds (i : SetItem) (fold : Bool) (r : Nat) : Bool :=
  i.negated != (if fold then (Unicode.caseVariants r).any (Unicode.inRanges · i.ranges)
    else Unicode.inRanges r i.ranges)

def RuneSet.holds (s : RuneSet) (r : Nat) : Bool :=
  s.negated != s.items.any fun i => i.holds s.fold r

inductive Assertion where
  | textStart
  | textEnd
  | lineStart
  | lineEnd
  | wordEdge
  | noWordEdge
  deriving DecidableEq, Repr

def isWordRune (r : Nat) : Bool :=
  (48 ≤ r && r ≤ 57) || (65 ≤ r && r ≤ 90) || (97 ≤ r && r ≤ 122) || r == 95

def atWordEdge (text : Array Nat) (i : Nat) : Bool :=
  (if i = 0 then false else (text[i - 1]?.map isWordRune).getD false)
    != (text[i]?.map isWordRune).getD false

def Assertion.holds (text : Array Nat) (i : Nat) : Assertion → Bool
  | .textStart => i == 0
  | .textEnd => i == text.size
  | .lineStart => i == 0 || text[i - 1]? == some 10
  | .lineEnd => i == text.size || text[i]? == some 10
  | .wordEdge => atWordEdge text i
  | .noWordEdge => !atWordEdge text i

inductive Regex where
  | empty
  | rune (r : Nat) (fold : Bool)
  | set (s : RuneSet)
  | assert (a : Assertion)
  | seq (first second : Regex)
  | alt (left right : Regex)
  /-- At least `least` times; at most `most` times when there is a bound. -/
  | loop (body : Regex) (least : Nat) (most : Option Nat)
  deriving DecidableEq, Repr

namespace Regex

/-- Lists without repetitions stand for sets of positions. -/
def union (xs ys : List Nat) : List Nat := xs ++ ys.filter fun y => !xs.contains y

def after (p : Nat → Bool) (text : Array Nat) (starts : List Nat) : List Nat :=
  starts.filterMap fun i => text[i]?.bind fun r => if p r then some (i + 1) else none

def iterate (f : List Nat → List Nat) : Nat → List Nat → List Nat
  | 0, s => s
  | n + 1, s => iterate f n (f s)

/-- Everything reached by at most `rounds` uses of `f`; only what is new is followed further. -/
def closure (f : List Nat → List Nat) : Nat → List Nat → List Nat → List Nat
  | 0, seen, _ => seen
  | rounds + 1, seen, fresh =>
    match (f fresh).filter fun i => !seen.contains i with
    | [] => seen
    | reached => closure f rounds (union seen reached) reached

def ends (text : Array Nat) : Regex → List Nat → List Nat
  | .empty, starts => starts
  | .rune r fold, starts =>
    if fold then after (fun c => Unicode.fold c == Unicode.fold r) text starts
    else after (· == r) text starts
  | .set s, starts => after s.holds text starts
  | .assert a, starts => starts.filter fun i => a.holds text i
  | .seq first second, starts => ends text second (ends text first starts)
  | .alt left right, starts => union (ends text left starts) (ends text right starts)
  | .loop body least most, starts =>
    let first := iterate (ends text body) least starts
    closure (ends text body) (match most with | some m => m - least | none => text.size + 1)
      first first

def search (r : Regex) (text : Array Nat) : Bool :=
  !(ends text r (List.range (text.size + 1))).isEmpty

end Regex
end JavadocLint
