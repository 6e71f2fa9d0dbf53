import Reflow.Analysis

/-!
# Paths of source files

A path is shown without empty parts and parts that stand for the same directory. The ending of the
last part tells the dialect.
-/

namespace Reflow

/-- A path: the slashes it starts with, and its parts. -/
structure SourcePath where
  root : String
  parts : List String
deriving DecidableEq, Repr

namespace SourcePath

/-- The path that a text writes. Two slashes in front are kept, any other number becomes one. -/
def ofText (text : String) : SourcePath :=
  let slashes := (text.toList.takeWhile (· == '/')).length
  { root := if slashes = 2 then "//" else if slashes = 0 then "" else "/"
    parts := ((Text.splitAt '/' text.toList).map String.ofList).filter
      fun part => part ≠ "" ∧ part ≠ "." }

/-- The path as it is shown. -/
def shown (p : SourcePath) : String :=
  let text := p.root ++ "/".intercalate p.parts
  if text.isEmpty then "." else text

/-- The last part. -/
def name (p : SourcePath) : String := p.parts.getLast?.getD ""

/-- What follows the last point of a name, unless the point is its first or last character. -/
def ending (p : SourcePath) : List Char :=
  let reversed := p.name.toList.reverse
  let tail := (reversed.takeWhile (· != '.')).reverse
  let stem := (reversed.dropWhile (· != '.')).drop 1
  if stem.isEmpty then [] else tail

/-- The dialect that the ending names, plain stylesheets if it names none. -/
def language (p : SourcePath) : Language :=
  (Language.ofName? (String.ofList (Text.lower p.ending))).getD .css

end SourcePath

end Reflow
