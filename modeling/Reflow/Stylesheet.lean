/-!
# Stylesheets

A stylesheet is a list of rules: the rules outside every media block in their order, then the rules
of each media block. Selectors may repeat.

* `Declarations`: property names with their values, in the order of their first declaration.
* `Rule`, `AtRule`, `Stylesheet` and the views `baseRules`, `mediaRules`, `mediaConditions`.
-/

namespace Reflow

/-- Property names with their values, each name once, in the order of the first declarations. -/
abbrev Declarations := List (String × String)

namespace Declarations

/-- Declares a property. A name declared before keeps its place and takes the new value. -/
def declare : Declarations → String → String → Declarations
  | [], name, value => [(name, value)]
  | (n, v) :: rest, name, value =>
    if n = name then (n, value) :: rest else (n, v) :: declare rest name value

/-- The declarations of the pairs, made one after the other. -/
def ofPairs (pairs : List (String × String)) : Declarations :=
  pairs.foldl (fun d p => d.declare p.1 p.2) []

/-- The value of a property. -/
def value? (d : Declarations) (name : String) : Option String := d.lookup name

end Declarations

/-- The at-rule around a rule. -/
structure AtRule where
  name : String
  condition : String
deriving DecidableEq, Repr

/-- A selector with its declarations, and the at-rule around it. -/
structure Rule where
  selector : String
  declarations : Declarations
  atRule : Option AtRule
deriving DecidableEq, Repr

namespace Rule

/-- The media condition of a rule in a media block. -/
def mediaCondition? (r : Rule) : Option String :=
  match r.atRule with
  | some a => if a.name = "media" then some a.condition else none
  | none => none

/-- Whether the rule stands in a media block. -/
def inMedia (r : Rule) : Bool := r.mediaCondition?.isSome

/-- The value of a property. -/
def value? (r : Rule) (property : String) : Option String := r.declarations.value? property

/-- The value of a property that has one and is not left empty. -/
def given? (r : Rule) (property : String) : Option String :=
  (r.value? property).filter (!·.isEmpty)

end Rule

/-- The rules of a stylesheet. -/
structure Stylesheet where
  rules : List Rule
deriving DecidableEq, Repr

namespace Stylesheet

/-- The rules outside every media block. -/
def baseRules (s : Stylesheet) : List Rule := s.rules.filter (!·.inMedia)

/-- The rules in media blocks. -/
def mediaRules (s : Stylesheet) : List Rule := s.rules.filter (·.inMedia)

/-- The media conditions, each once, in the order of their first rules. -/
def mediaConditions (s : Stylesheet) : List String :=
  (s.rules.filterMap (·.mediaCondition?)).foldl
    (fun seen c => if seen.contains c then seen else seen ++ [c]) []

end Stylesheet

end Reflow
