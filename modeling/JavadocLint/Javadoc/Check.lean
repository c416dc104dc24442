import JavadocLint.Javadoc.Comment
import JavadocLint.Javadoc.Diagnostic
import JavadocLint.Javadoc.Rule

/- Checking the documentation comment above one declaration against the tag rules. -/
namespace JavadocLint

inductive TagPlace where
  | absent
  /-- The first line that mentions the tag does not begin as it should. -/
  | malformed
  | line (offset : Nat)
  deriving DecidableEq, Repr

/-- Only the first line that mentions the tag counts. -/
def placeTag (tag : Text) : List Text → TagPlace
  | [] => .absent
  | line :: rest =>
    if Text.containsText (utf8 "@" ++ tag ++ utf8 " ") line then
      if (tagStart tag).isPrefixOf line then .line 0 else .malformed
    else match placeTag tag rest with
      | .line offset => .line (offset + 1)
      | place => place

def tagText (line : Text) : Text :=
  match Text.cut? (utf8 "@") line with
  | none => []
  | some (_, t) =>
    match Text.cut? (utf8 " ") t with
    | none => []
    | some (_, text) => text

/-- The lines from `start` to `stop`, both included; an index without a line is a fault unless the
    tag is found above it. -/
def findTagLine (lines : List Text) (start stop : Int) (tag : Text) :
    Except Failure (Option Int × List Diagnostic) :=
  if stop < start then .ok (none, [])
  else if start < 0 then .error (.outside start lines.length)
  else match placeTag tag ((lines.drop start.toNat).take (stop - start + 1).toNat) with
    | .line offset => .ok (some (start + offset), [])
    | .malformed => .ok (none, [⟨start + 1, .malformedTag tag⟩])
    | .absent =>
      if stop < lines.length then .ok (none, [])
      else .error (.outside (max start lines.length) lines.length)

def checkTag (rule : TagRule) (start : Nat) (comment : List Text) : List Diagnostic :=
  match placeTag rule.name comment with
  | .absent => [⟨start + 1, .missingTag rule.name⟩]
  | .malformed => [⟨start + 1, .malformedTag rule.name⟩, ⟨start + 1, .missingTag rule.name⟩]
  | .line offset =>
    let text := tagText (comment.getD offset [])
    if rule.accepts text then []
    else [⟨start + offset + 1, .patternMismatch text rule.pattern⟩]

def validateTag (lines : List Text) (start stop : Int) (rule : TagRule) :
    Except Failure (List Diagnostic) := do
  match ← findTagLine lines start stop rule.name with
  | (some index, _) =>
    let text := tagText (lines.getD index.toNat [])
    return if rule.accepts text then []
      else [⟨index + 1, .patternMismatch text rule.pattern⟩]
  | (none, diags) => return diags ++ [⟨start + 1, .missingTag rule.name⟩]

def checkComment (lines : List Text) (declLine : Int) (rules : TagRules) : List Diagnostic :=
  let r := locateComment lines (declLine - 1)
  match r.start, r.stop with
  | some start, some stop =>
    if stop < start + 2 then [⟨declLine, .commentNotFound⟩]
    else
      let comment := (lines.drop start).take (stop - start + 1)
      rules.rules.flatMap fun rule => checkTag rule start comment
  | _, _ => [⟨declLine, .commentNotFound⟩]

end JavadocLint
