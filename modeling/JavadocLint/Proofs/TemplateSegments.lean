import Mathlib
import JavadocLint.Javadoc.Diagnostic
import JavadocLint.Proofs.DecimalText
import JavadocLint.Proofs.TrimmedText

/- Message templates as sequences of literal texts and numbered arguments. Rendering takes one
   segment at a time, whatever stands behind it: the quotes of a literal come in pairs, and the first
   closing brace behind an opening one ends the number. Arguments are never looked into. -/
namespace JavadocLint

inductive Segment where
  | literal (text : Text) (plain : byte '\x7b' ∉ text)
  | argument (n : Nat)

def doubledQuotes (t : Text) : Text :=
  t.flatMap fun b => if b = byte '\'' then [b, b] else [b]

def bracedNumber (n : Nat) : Text := byte '\x7b' :: Text.ofNat n ++ [byte '\x7d']

namespace Segment

def written : Segment → Text
  | .literal text _ => doubledQuotes text
  | .argument n => bracedNumber n

def shown (args : List Text) : Segment → Text
  | .literal text _ => text
  | .argument n => if inside : n < args.length then args[n] else bracedNumber n

end Segment

theorem placeholder?_ofNat (n : Nat) : placeholder? (Text.ofNat n) = some n := by
  cases digits : Text.ofNat n with
  | nil =>
    have last := ofNat_eq n
    rw [digits] at last
    simp at last
  | cons b rest =>
    -- a sign is no digit, so the number is read from its first byte on
    have first : b ∈ Text.ofNat n := by rw [digits]; exact List.mem_cons_self
    have plus : b ≠ byte '+' := by
      intro sign
      exact notMem_ofNat (by decide) n (sign ▸ first)
    have minus : b ≠ byte '-' := by
      intro sign
      exact notMem_ofNat (by decide) n (sign ▸ first)
    have all := ofNat_digits n
    have value := ofNat_value n
    rw [digits] at all value
    simp only [placeholder?, if_neg plus, if_neg minus, all, value, List.isEmpty_cons]
    rfl

section Rendering

variable (args : List Text)

theorem renderFrom_skip (front rest : Text) :
    renderFrom args front.length (front ++ rest) = renderFrom args 0 rest := by
  induction front with
  | nil => rfl
  | cons b front ih => exact ih

theorem renderFrom_literal {text : Text} (plain : byte '\x7b' ∉ text) (rest : Text) :
    renderFrom args 0 (doubledQuotes text ++ rest) = text ++ renderFrom args 0 rest := by
  induction text with
  | nil => rfl
  | cons b text ih =>
    simp only [List.mem_cons, not_or] at plain
    have later := ih plain.2
    by_cases quote : b = byte '\''
    · have pair : doubledQuotes (b :: text) ++ rest = b :: b :: (doubledQuotes text ++ rest) := by
        simp [doubledQuotes, quote]
      rw [pair, renderFrom, if_pos (by simp [quote]), renderFrom, later, List.cons_append]
    · have single : doubledQuotes (b :: text) ++ rest = b :: (doubledQuotes text ++ rest) := by
        simp [doubledQuotes, quote]
      rw [single, renderFrom, if_neg (by simp [quote]), if_neg (Ne.symm plain.1), later,
        List.cons_append]

theorem substitute_number (n : Nat) :
    substitute args (Text.ofNat n) = (Segment.argument n).shown args := by
  simp only [substitute, placeholder?_ofNat, Option.bind_some, Segment.shown]
  by_cases inside : n < args.length
  · rw [dif_pos inside, List.getElem?_eq_getElem inside]
  · rw [dif_neg inside, List.getElem?_eq_none (by omega)]
    rfl

theorem renderFrom_argument (n : Nat) (rest : Text) :
    renderFrom args 0 (bracedNumber n ++ rest) =
      (Segment.argument n).shown args ++ renderFrom args 0 rest := by
  have closing : byte '\x7d' ∉ Text.ofNat n := notMem_ofNat (by decide) n
  have ended : Text.cut? [byte '\x7d'] (Text.ofNat n ++ byte '\x7d' :: rest) =
      some (Text.ofNat n, rest) := @cut?_skip _ [] _ closing rest
  have passed : renderFrom args ((Text.ofNat n).length + 1)
      (Text.ofNat n ++ byte '\x7d' :: rest) = renderFrom args 0 rest := by
    have skipped := renderFrom_skip args (Text.ofNat n ++ [byte '\x7d']) rest
    rwa [List.length_append, List.append_assoc] at skipped
  have split : bracedNumber n ++ rest =
      byte '\x7b' :: (Text.ofNat n ++ byte '\x7d' :: rest) := by
    simp [bracedNumber]
  rw [split, renderFrom, if_neg (by simp [show byte '\x7b' ≠ byte '\'' from by decide]),
    if_pos rfl, ended]
  simp only [substitute_number, passed]

theorem renderFrom_segment (s : Segment) (rest : Text) :
    renderFrom args 0 (s.written ++ rest) = s.shown args ++ renderFrom args 0 rest := by
  cases s with
  | literal text plain => exact renderFrom_literal args plain rest
  | argument n => exact renderFrom_argument args n rest

theorem renderTemplate_segments (segments : List Segment) :
    renderTemplate (segments.flatMap Segment.written) args =
      segments.flatMap (Segment.shown args) := by
  unfold renderTemplate
  induction segments with
  | nil => rfl
  | cons s rest ih =>
    rw [List.flatMap_cons, renderFrom_segment, ih, List.flatMap_cons]

end Rendering

namespace Problem

def words : Problem → Text
  | .commentNotFound => utf8 "Problem finding class/interface comment"
  | .malformedTag tag =>
    utf8 "Line with '@" ++ tag ++ utf8 "' does not start with a '" ++ tagStart tag ++ utf8 "'"
  | .missingTag tag => utf8 "Missing '@" ++ tag ++ utf8 "' tag in class/interface comment"
  | .patternMismatch text pattern =>
    utf8 "Tag text '" ++ text ++ utf8 "' does not match the pattern '" ++ pattern ++ utf8 "'"

def segments : Problem → List Segment
  | .commentNotFound => [.literal (utf8 "Problem finding class/interface comment") (by decide)]
  | .malformedTag _ =>
    [.literal (utf8 "Line with '@") (by decide), .argument 0,
      .literal (utf8 "' does not start with a '") (by decide), .argument 1,
      .literal (utf8 "'") (by decide)]
  | .missingTag _ =>
    [.literal (utf8 "Missing '@") (by decide), .argument 0,
      .literal (utf8 "' tag in class/interface comment") (by decide)]
  | .patternMismatch _ _ =>
    [.literal (utf8 "Tag text '") (by decide), .argument 0,
      .literal (utf8 "' does not match the pattern '") (by decide), .argument 1,
      .literal (utf8 "'") (by decide)]

theorem template_segments (p : Problem) : p.template = p.segments.flatMap Segment.written := by
  -- neither side looks at the texts of the problem, so empty ones will do
  cases p with
  | commentNotFound => decide
  | malformedTag tag =>
    change template (.malformedTag []) = (segments (.malformedTag [])).flatMap Segment.written
    decide
  | missingTag tag =>
    change template (.missingTag []) = (segments (.missingTag [])).flatMap Segment.written
    decide
  | patternMismatch text pattern =>
    change template (.patternMismatch [] []) =
      (segments (.patternMismatch [] [])).flatMap Segment.written
    decide

theorem message_words (p : Problem) : p.message = p.words := by
  rw [message, template_segments, renderTemplate_segments]
  cases p <;> simp [segments, Segment.shown, args, words]

end Problem

/-- A template renders to its segments, one after the other, with each argument put in as it is. So
    every message shows its tag, text or pattern byte for byte, braces and quotes included. -/
theorem template_substitutes_literally :
    (∀ (segments : List Segment) (args : List Text),
      renderTemplate (segments.flatMap Segment.written) args =
        segments.flatMap (Segment.shown args)) ∧
    ∀ p : Problem, p.message = p.words :=
  ⟨fun segments args => renderTemplate_segments args segments, Problem.message_words⟩

end JavadocLint
