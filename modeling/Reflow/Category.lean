import Reflow.Text.Search

/-!
# Categories

Reports group findings by a word in the label of their kind, and diagrams by a word in the name of
their subject.
-/

namespace Reflow

/-- A coarse group of layout risks. -/
inductive Category where
  | flex
  | grid
  | overflow
  | other
deriving DecidableEq, Repr

namespace Category

/-- The categories in the order of a report. -/
def all : List Category := [.flex, .grid, .overflow, .other]

/-- The name of a category. -/
def name : Category → String
  | flex => "flex"
  | grid => "grid"
  | overflow => "overflow"
  | other => "other"

/-- The category of that name. -/
def ofName? (name : String) : Option Category := all.find? (·.name = name)

/-- The category of a subject's name. -/
def ofSubject (name : String) : Category :=
  let mentions word := Text.mentions word name.toList
  if mentions "flex" then .flex
  else if mentions "grid" then .grid
  else if mentions "overflow" then .overflow
  else .other

/-- The category of a kind's label, up to letter case. -/
def ofLabel (label : String) : Category :=
  let mentions word := Text.mentions word (Text.lower label.toList)
  if mentions "flex" || mentions "basis" then .flex
  else if mentions "grid" then .grid
  else if mentions "overflow" || mentions "viewport" || mentions "100vw" then .overflow
  else .other

end Category

end Reflow
