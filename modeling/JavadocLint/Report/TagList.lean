import JavadocLint.Javadoc.Rule

/- The required tags as a list for the screen. -/
namespace JavadocLint

def padRight (width : Nat) (t : Text) : Text :=
  t ++ Text.replicate (width - t.chunks.length) (byte ' ')

def renderTags (tags : TagRules) : Text :=
  tags.patterns.flatMap fun (name, pattern) =>
    utf8 "@" ++ padRight 10 name ++ utf8 " " ++ pattern ++ utf8 "\n"

end JavadocLint
