import JavadocLint.Regex.SyntaxError

/- Why an operation failed. A failure is a cause, perhaps with the steps around it in which it
   arose; its wording is given once, by `message`. -/
namespace JavadocLint

inductive FileOperation where
  | open
  | read
  | stat
  | linkStat
  | makeDirectory
  deriving DecidableEq, Repr

inductive FileReason where
  | notFound
  | notDirectory
  | isDirectory
  | tooManyLinks
  | alreadyExists
  deriving DecidableEq, Repr

def FileOperation.text : FileOperation → Text
  | .open => utf8 "open"
  | .read => utf8 "read"
  | .stat => utf8 "stat"
  | .linkStat => utf8 "lstat"
  | .makeDirectory => utf8 "mkdir"

def FileReason.text : FileReason → Text
  | .notFound => utf8 "no such file or directory"
  | .notDirectory => utf8 "not a directory"
  | .isDirectory => utf8 "is a directory"
  | .tooManyLinks => utf8 "too many levels of symbolic links"
  | .alreadyExists => utf8 "file exists"

inductive Failure where
  /-- A fault that is fully told by its words. -/
  | plain (words : Text)
  | pattern (e : PatternError)
  | file (operation : FileOperation) (path : Text) (reason : FileReason)
  | rename (source target : Text) (reason : FileReason)
  | canceled
  /-- A YAML document whose values have the wrong types, one line for each. -/
  | yamlTypes (problems : List Text)
  | yamlMalformed
  | tomlMalformed
  /-- An index outside a list of the given length. -/
  | outside (index : Int) (length : Nat)
  /-- A cache was used before one was opened. -/
  | noCache
  | within (context : Text) (inner : Failure)
  | all (failures : List Failure)
  deriving Repr

namespace Failure

mutual
def message : Failure → Text
  | .plain words => words
  | .pattern e => e.message
  | .file operation path reason =>
    operation.text ++ utf8 " " ++ path ++ utf8 ": " ++ reason.text
  | .rename source target reason =>
    utf8 "rename " ++ source ++ utf8 " " ++ target ++ utf8 ": " ++ reason.text
  | .canceled => utf8 "context canceled"
  | .yamlTypes problems =>
    utf8 "yaml: unmarshal errors:" ++ problems.flatMap fun p => utf8 "\n  " ++ p
  | .yamlMalformed => utf8 "yaml: malformed document"
  | .tomlMalformed => utf8 "toml: malformed document"
  | .outside index length =>
    utf8 "runtime error: index out of range [" ++ Text.ofInt index ++ utf8 "]"
      ++ (if index < 0 then [] else utf8 " with length " ++ Text.ofNat length)
  | .noCache => utf8 "runtime error: invalid memory address or nil pointer dereference"
  | .within context inner => context ++ utf8 ": " ++ inner.message
  | .all failures => messages failures

def messages : List Failure → Text
  | [] => []
  | [f] => f.message
  | f :: rest => f.message ++ utf8 "\n" ++ messages rest
end

end Failure
end JavadocLint
