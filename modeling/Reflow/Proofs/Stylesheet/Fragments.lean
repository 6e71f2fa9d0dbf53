import Reflow.Proofs.Lists
import Reflow.Proofs.Stylesheet.Declarations
import Reflow.Proofs.Text.Occurrence
import Reflow.Stylesheet.Reader

/-!
# Fragments of a block

The semicolons of a block part it into fragments. A fragment with a colon declares, and the others
do nothing.

* `DeclaresAs`: the name and the value that a fragment declares, around its first colon
  (`declaration?_eq_some_iff`). A fragment declares exactly if it has a colon
  (`exists_declaresAs_iff`).
* `Gathers`: what is declared by fragments together. Every name comes once, at the place of the
  first fragment that declares it, with the value of the last one (`gathers_filterMap`).
* `declarations_exact`: a block that follows another one updates its declarations, and the
  declarations of a block are what its fragments declare together.
-/

namespace Reflow.Stylesheet

open Text

variable {fragment : List Char} {fragments : List (List Char)} {name value n m : String}

/-! ## One fragment -/

/-- The fragment declares the name, in small letters, to have the value: what stands in front of
its first colon and what stands behind it, without the white space at the ends. -/
def DeclaresAs (fragment : List Char) (name value : String) : Prop :=
  ∃ left right, fragment = left ++ ':' :: right ∧ ':' ∉ left ∧
    name = String.ofList (lower (trim left)) ∧ value = String.ofList (trim right)

theorem declaration?_eq_some_iff :
    declaration? fragment = some (name, value) ↔ DeclaresAs fragment name value := by
  rw [declaration?, Option.map_eq_some_iff]
  constructor
  · rintro ⟨⟨left, right⟩, hbreak, hpair⟩
    obtain ⟨rfl, hleft⟩ := breakAt?_singleton_eq_some_iff.1 hbreak
    obtain ⟨rfl, rfl⟩ := Prod.ext_iff.1 hpair
    exact ⟨left, right, rfl, hleft, rfl, rfl⟩
  · rintro ⟨left, right, rfl, hleft, rfl, rfl⟩
    exact ⟨(left, right), breakAt?_singleton hleft right, rfl⟩

theorem declaration?_eq_none_iff : declaration? fragment = none ↔ ':' ∉ fragment := by
  rw [declaration?, Option.map_eq_none_iff, breakAt?_singleton_eq_none_iff]

/-- A fragment declares exactly if it has a colon. -/
theorem exists_declaresAs_iff :
    (∃ name value, DeclaresAs fragment name value) ↔ ':' ∈ fragment := by
  rw [← Decidable.not_not (p := ':' ∈ fragment), ← declaration?_eq_none_iff]
  constructor
  · rintro ⟨name, value, h⟩ hnone
    rw [declaration?_eq_some_iff.2 h] at hnone
    cases hnone
  · intro hsome
    obtain ⟨⟨name, value⟩, h⟩ := Option.ne_none_iff_exists'.1 hsome
    exact ⟨name, value, declaration?_eq_some_iff.1 h⟩

/-- The name that a fragment declares. -/
def declaredName? (fragment : List Char) : Option String := (declaration? fragment).map (·.1)

theorem declaredName?_eq_some_iff :
    declaredName? fragment = some name ↔ ∃ value, DeclaresAs fragment name value := by
  simp only [declaredName?, Option.map_eq_some_iff, Prod.exists, declaration?_eq_some_iff]
  constructor
  · rintro ⟨name, value, h, rfl⟩
    exact ⟨value, h⟩
  · rintro ⟨value, h⟩
    exact ⟨name, value, h, rfl⟩

/-! ## Fragments together -/

/-- A fragment that declares `n` comes in front of all that declare `m`. -/
def DeclaredBefore (fragments : List (List Char)) (n m : String) : Prop :=
  ∃ before f after, fragments = before ++ f :: after ∧ (∃ value, DeclaresAs f n value) ∧
    ∀ g ∈ before ++ [f], ∀ value, ¬ DeclaresAs g m value

/-- The last fragment that declares the name gives it the value. -/
def DeclaredLast (fragments : List (List Char)) (name value : String) : Prop :=
  ∃ before f after, fragments = before ++ f :: after ∧ DeclaresAs f name value ∧
    ∀ g ∈ after, ∀ value', ¬ DeclaresAs g name value'

/-- The declarations are those that the fragments make together. -/
structure Gathers (fragments : List (List Char)) (d : Declarations) : Prop where
  once : (d.map (·.1)).Nodup
  first : (d.map (·.1)).Pairwise (DeclaredBefore fragments)
  last : ∀ name value, (name, value) ∈ d ↔ DeclaredLast fragments name value

theorem declaredBefore_of_findIdx
    (h : fragments.findIdx (declaredName? · = some n) <
      fragments.findIdx (declaredName? · = some m)) :
    DeclaredBefore fragments n m := by
  obtain ⟨before, f, after, hfragments, hf, hbefore⟩ := exists_of_findIdx_lt_findIdx h
  refine ⟨before, f, after, hfragments, declaredName?_eq_some_iff.1 (of_decide_eq_true hf), ?_⟩
  intro g hg value hdeclares
  exact of_decide_eq_false (hbefore g hg) (declaredName?_eq_some_iff.2 ⟨value, hdeclares⟩)

/-- The last of the pairs with a name is made by the last fragment that declares it. -/
theorem lastOf_filterMap_eq_some_iff :
    Declarations.lastOf (fragments.filterMap declaration?) name = some (name, value) ↔
      DeclaredLast fragments name value := by
  have hsome {f : List Char} :
      ((declaration? f).filter (·.1 = name)) = some (name, value) ↔ DeclaresAs f name value := by
    rw [Option.filter_eq_some_iff, declaration?_eq_some_iff, decide_eq_true rfl, eq_self, and_true]
  have hnone {f : List Char} :
      ((declaration? f).filter (·.1 = name)) = none ↔ ∀ value', ¬ DeclaresAs f name value' := by
    rw [Option.filter_eq_none_iff]
    constructor
    · intro h value' hdeclares
      exact h _ (declaration?_eq_some_iff.2 hdeclares) (decide_eq_true rfl)
    · rintro h ⟨n, value'⟩ hdeclares hn
      obtain rfl : n = name := of_decide_eq_true hn
      exact h value' (declaration?_eq_some_iff.1 hdeclares)
  rw [Declarations.lastOf, List.filter_filterMap, getLast?_filterMap_eq_some_iff]
  simp only [hsome, hnone, DeclaredLast]

theorem gathers_filterMap (fragments : List (List Char)) :
    Gathers fragments (.ofPairs (fragments.filterMap declaration?)) := by
  refine ⟨Declarations.nodup_map_fst_ofPairs _, ?_, fun name value => ?_⟩
  · rw [Declarations.map_fst_ofPairs, List.map_filterMap]
    exact (pairwise_findIdx_eraseDups_filterMap declaredName? fragments).imp
      declaredBefore_of_findIdx
  · exact Declarations.mem_ofPairs_iff.trans lastOf_filterMap_eq_some_iff

/-! ## Blocks -/

theorem declarations_append (a b : List Char) :
    declarations (a ++ ';' :: b) = (declarations a).updated (declarations b) := by
  rw [declarations, splitAt_append_cons, List.filterMap_append, Declarations.ofPairs_append]
  rfl

/-- The semicolons part the block into the fragments. -/
structure IsPartedInto (block : List Char) (fragments : List (List Char)) : Prop where
  whole : List.intercalate [';'] fragments = block
  ne_nil : fragments ≠ []
  apart : ∀ f ∈ fragments, ';' ∉ f

/-- A block behind another one updates its declarations: a name keeps its place, takes the value it
has in the later block, and comes at the end if it is only there. The declarations of any block are
those that its fragments make together, and the fragments that make one are those with a colon. -/
theorem declarations_exact :
    (∀ a b, declarations (a ++ ';' :: b) = (declarations a).updated (declarations b)) ∧
    (∀ block, ∃ fragments, IsPartedInto block fragments ∧ Gathers fragments (declarations block)) ∧
    ∀ fragment, (∃ name value, DeclaresAs fragment name value) ↔ ':' ∈ fragment := by
  refine ⟨declarations_append, fun block => ?_, fun _ => exists_declaresAs_iff⟩
  refine ⟨splitAt ';' block, ⟨intercalate_splitAt ';' block, splitAt_ne_nil ';' block, ?_⟩, ?_⟩
  · exact fun f hf => not_mem_of_mem_splitAt hf
  · exact gathers_filterMap (splitAt ';' block)

example : declarations "width: 1px; Color:red; x; width: 2px".toList =
    [("width", "2px"), ("color", "red")] := by
  decide +kernel

end Reflow.Stylesheet
