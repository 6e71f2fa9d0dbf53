import Reflow.Proofs.Check.Failures
import Reflow.Proofs.Stylesheet.Reading

/-!
# When an analysis fails

Reading a stylesheet, placing findings and scanning lines always give a result. So an analysis in a
known dialect fails only where one of its checks does.

* `analyze_eq_error_iff`: all failures of an analysis, with their causes.
* `analyze_endlessSheet`: a width of 310 digits makes an analysis fail.
-/

namespace Reflow

open Text

variable {s : Settings} {checks : List Check}

/-! ## Names of dialects -/

namespace Language

theorem mem_all (d : Language) : d ∈ all := by cases d <;> decide

theorem name_of_ofName? {name : String} {d : Language} (h : ofName? name = some d) :
    d.name = name := by
  simpa using List.find?_some h

theorem ofName?_eq_none_iff {name : String} :
    ofName? name = none ↔ name ∉ all.map Language.name := by
  rw [ofName?, List.find?_eq_none, List.mem_map, not_exists]
  simp

/-- The name of a dialect that a text gives: in lower case, without the blanks around it. -/
def givenName (text : String) : String := String.ofList (lower (trim text.toList))

/-- The dialects that are read as rules are the two that keep to the syntax of stylesheets. -/
theorem isStructural_iff {d : Language} : d.isStructural ↔ d.name = "css" ∨ d.name = "scss" := by
  cases d <;> decide

end Language

/-! ## Analyses -/

namespace Analysis

variable {source language : String} {dialect : Language} {e : Error}

theorem findAll_eq_error_iff :
    findAll source dialect s checks = .error e ↔
      dialect.isStructural ∧ ∃ cause,
        FirstFails (Check.FailsWith s (Stylesheet.parse source)) checks cause ∧
          e = .pixels cause := by
  simp only [← detect_eq_error_iff]
  unfold findAll
  by_cases hs : dialect.isStructural
  · rw [if_pos hs, and_iff_right hs]
    dsimp only
    cases detect s (Stylesheet.parse source) checks with
    | ok found => simp
    | error cause => simp [eq_comm]
  · rw [if_neg hs]
    simp [hs]

/-- In a known dialect an analysis fails as finding does. -/
theorem analyze_eq_error_iff_findAll (hp : Language.parse? language = some dialect) :
    analyze source language s checks = .error e ↔ findAll source dialect s checks = .error e := by
  unfold analyze
  rw [hp]
  dsimp only
  cases findAll source dialect s checks with
  | ok all =>
    constructor
    · intro h
      cases h
    · intro h
      cases h
  | error cause => exact Iff.rfl

/-- An analysis fails if the text names no dialect, and if the stylesheet is read as rules and one
of the checks fails. The first check that fails gives the cause. -/
theorem analyze_eq_error_iff :
    analyze source language s checks = .error e ↔
      Language.givenName language ∉ Language.all.map Language.name ∧
          e = .unsupportedLanguage language ∨
        (Language.givenName language = "css" ∨ Language.givenName language = "scss") ∧
          ∃ cause, FirstFails (Check.FailsWith s (Stylesheet.parse source)) checks cause ∧
            e = .pixels cause := by
  set given := Language.givenName language
  cases hp : Language.parse? language with
  | none =>
    have hnone : given ∉ Language.all.map Language.name := Language.ofName?_eq_none_iff.1 hp
    have hneither : ¬ (given = "css" ∨ given = "scss") := by
      rintro (h | h) <;> exact hnone (by rw [h]; decide)
    unfold analyze
    rw [hp]
    constructor
    · intro h
      exact .inl ⟨hnone, (Except.error.inj h).symm⟩
    · rintro (⟨-, rfl⟩ | ⟨h, -⟩)
      · rfl
      · exact absurd h hneither
  | some dialect =>
    have hname : dialect.name = given := Language.name_of_ofName? hp
    have hmem : given ∈ Language.all.map Language.name :=
      List.mem_map.2 ⟨dialect, dialect.mem_all, hname⟩
    have hstructural : dialect.isStructural ↔ given = "css" ∨ given = "scss" :=
      hname ▸ Language.isStructural_iff
    rw [analyze_eq_error_iff_findAll hp, findAll_eq_error_iff, hstructural]
    simp only [hmem, not_true_eq_false, false_and, false_or]

/-! ## A width past the doubles -/

/-- A width of 310 digits. -/
def endlessWidth : List Char := '1' :: (List.replicate 309 '0' ++ ['p', 'x'])

/-- A rule of that width in a media block. -/
def endlessRule : Rule :=
  ⟨".a", [("width", String.ofList endlessWidth)], some ⟨"media", "(max-width: 9px)"⟩⟩

/-- A stylesheet with that rule. -/
def endlessSheet : List Char :=
  "@media (max-width: 9px) \x7b .a \x7b width: ".toList ++ (endlessWidth ++ " \x7d \x7d".toList)

theorem rules_endlessSheet :
    (Stylesheet.parse (String.ofList endlessSheet)).rules = [endlessRule] := by
  have hsplit : Stylesheet.MediaSplit.of (Stylesheet.stripComments endlessSheet) =
      ⟨[⟨[], " (max-width: 9px) ".toList,
        " .a ".toList ++ '\x7b' :: (" width: ".toList ++ endlessWidth ++ " \x7d ".toList),
        true⟩], []⟩ := by
    decide +kernel
  have hrules : Stylesheet.flatRules
      (" .a ".toList ++ '\x7b' :: (" width: ".toList ++ endlessWidth ++ " \x7d ".toList)) =
      [(" .a ".toList, " width".toList ++ ':' :: ' ' :: (endlessWidth ++ [' ']))] := by
    decide +kernel
  have hbody : ';' ∉ " width".toList ++ ':' :: ' ' :: (endlessWidth ++ [' ']) := by decide +kernel
  have htrim : trim (' ' :: (endlessWidth ++ [' '])) = endlessWidth := by decide +kernel
  have hdeclared : Stylesheet.declarations
      (" width".toList ++ ':' :: ' ' :: (endlessWidth ++ [' '])) =
      [("width", String.ofList endlessWidth)] := by
    rw [Stylesheet.declarations, splitAt_of_not_mem hbody,
      List.filterMap_cons_some (Stylesheet.declaration?_append (by decide) _), htrim]
    rfl
  rw [Stylesheet.parse, String.toList_ofList, hsplit]
  show Stylesheet.rulesOf none [] ++ (Stylesheet.rulesOf _ _ ++ []) = _
  rw [Stylesheet.rulesOf, Stylesheet.rulesOf, Stylesheet.flatRules_nil, hrules, List.map_singleton,
    List.map_nil]
  dsimp only
  rw [hdeclared]
  rfl

theorem pixels?_endlessWidth :
    Length.pixels? (String.ofList endlessWidth) = some (.infinite false) := by
  have hfirst : Length.pixelNumber.first? endlessWidth = some ⟨0, 312⟩ := by decide +kernel
  have hnumber : (Numeral.read? (Extent.cut ⟨0, 312⟩ endlessWidth)).map (·.1.toBinary64) =
      some (.infinite false) := by
    decide +kernel
  rw [Length.pixels?, String.toList_ofList, hfirst]
  obtain ⟨read, hread, hpixels⟩ := Option.map_eq_some_iff.1 hnumber
  exact Option.bind_eq_some_iff.2
    ⟨_, rfl, Option.bind_eq_some_iff.2 ⟨read, hread, congrArg some hpixels⟩⟩

/-- A width of 310 digits in a media block makes an analysis fail. -/
theorem analyze_endlessSheet :
    analyze (String.ofList endlessSheet) "css" .standard Check.all =
      .error (.pixels .infiniteWidth) := by
  have hcss : Language.parse? "css" = some .css := by decide
  have hchecks : Check.all = Check.all.take 6 ++ .breakpointFixedWidth :: Check.all.drop 7 := rfl
  rw [analyze_eq_error_iff_findAll hcss, findAll_eq_error_iff]
  refine ⟨rfl, .infiniteWidth, ⟨_, _, _, hchecks, ?_, ?_⟩, rfl⟩
  · intro check hcheck cause hfails
    cases hfails with
    | breakpoint => exact absurd hcheck (by decide)
    | mediaWidth => exact absurd hcheck (by decide)
  · refine .breakpoint ⟨[], endlessRule, [], ?_, List.forall_mem_nil _, .width ?_⟩
    · rw [Check.activeRules, rules_endlessSheet]
      rfl
    · refine ⟨_, 9, _, rfl, ?_, rfl, pixels?_endlessWidth⟩
      exact Length.wholePixels?_eq_some_iff.2 ⟨['9'], by decide +kernel⟩

end Analysis

end Reflow
