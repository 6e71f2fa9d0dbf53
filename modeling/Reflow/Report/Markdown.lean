import Reflow.Diagram.Palette
import Reflow.Finding
import Reflow.Length

/-!
# Findings in Markdown

A finding is shown in four sections. Lengths and units in its texts are set as code.
-/

namespace Reflow

namespace Markdown

/-- The mark around code. -/
def codeMark : Char := '\x60'

/-- A piece of text, set as code if it is a length or a unit. -/
def markedPiece : Text.Pattern.Piece → List Char
  | .plain c => [c]
  | .hit text => codeMark :: text ++ [codeMark]

/-- The text with every length and unit set as code. -/
def highlight (text : String) : String :=
  String.ofList ((Length.unitWord.pieces text.toList).flatMap markedPiece)

/-- A titled section of highlighted text. -/
def headed (title text : String) : String := "**" ++ title ++ "**\n" ++ highlight text

/-- The line between two sections. -/
def separator : String := "\n\n---\n\n"

end Markdown

open Markdown

/-- The finding in Markdown. -/
def Finding.markdown (f : Finding) : String :=
  separator.intercalate [
    String.ofList [f.severity.mark] ++ " **" ++ f.severity.label ++ "** " ++ f.kind.label,
    headed "Explanation" f.wording.explanation,
    headed "Viewport Impact" f.wording.impact,
    headed "Suggestion" f.wording.suggestion]

end Reflow
