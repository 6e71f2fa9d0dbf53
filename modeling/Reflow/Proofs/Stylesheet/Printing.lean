import Reflow.Proofs.Stylesheet.Declarations
import Reflow.Proofs.Stylesheet.Reading

/-!
# Reading what was printed

A flat stylesheet is a row of items: base rules and media blocks of rules, in any order. It is
printed without any space between its parts, and reading gives its rules back.

* `Item.text`, `printed`: the text of an item and of a stylesheet.
* `Item.Readable`: no part of an item has a character or word that ends it early.
* `flatRules_texts`, `blockBody_texts`: printed rules are read one by one, and a media block ends
  where its rules do.
* `split_printed`: cutting a printed stylesheet parts its base rules from its media blocks.
* `parse_printed`: the rules of a printed stylesheet, base rules first.
-/

namespace Reflow.Stylesheet

open Text

/-! ## Printed stylesheets -/

/-- A rule to be printed: a selector, and names with their values. -/
structure PlainRule where
  selector : String
  pairs : List (String × String)
deriving DecidableEq, Repr

/-- An item of a flat stylesheet. -/
inductive Item where
  | base (rule : PlainRule)
  | media (condition : String) (rules : List PlainRule)
deriving DecidableEq, Repr

/-- A declaration as printed. -/
def pairText (p : String × String) : List Char := p.1.toList ++ ':' :: (p.2.toList ++ [';'])

namespace PlainRule

/-- The declarations of the rule as printed. -/
def body (r : PlainRule) : List Char := r.pairs.flatMap pairText

/-- The rule as printed. -/
def text (r : PlainRule) : List Char := r.selector.toList ++ '{' :: (r.body ++ ['}'])

/-- The rule as it is read: blanks go, names are in lower case, and a name that comes again keeps
its first place and takes its last value. -/
def reading (r : PlainRule) (atRule : Option AtRule) : Rule where
  selector := String.ofList (trim r.selector.toList)
  declarations := .lastValues <| r.pairs.map fun p =>
    (String.ofList (lower (trim p.1.toList)), String.ofList (trim p.2.toList))
  atRule := atRule

end PlainRule

/-- Rules as printed, one after the other. -/
def texts (rules : List PlainRule) : List Char := rules.flatMap PlainRule.text

namespace Item

/-- The item as printed. -/
def text : Item → List Char
  | base rule => rule.text
  | media condition rules => mediaWord ++ (condition.toList ++ '{' :: (texts rules ++ ['}']))

/-- The rule of an item outside a media block. -/
def baseRule? : Item → Option PlainRule
  | base rule => some rule
  | media _ _ => none

/-- The rules of an item in a media block, as they are read. -/
def mediaReadings : Item → List Rule
  | base _ => []
  | media condition rules =>
    rules.map (·.reading (some ⟨"media", String.ofList (trim condition.toList)⟩))

end Item

/-- A flat stylesheet as printed. -/
def printed (items : List Item) : List Char := items.flatMap Item.text

/-! ## Parts that keep to themselves -/

/-- A text without braces and without the word that starts a media block. -/
structure IsPlain (s : String) : Prop where
  noOpen : '{' ∉ s.toList
  noClose : '}' ∉ s.toList
  noMedia : ¬ mediaWord <:+: s.toList

/-- A rule whose parts keep to themselves when it is printed. -/
structure PlainRule.Readable (r : PlainRule) : Prop where
  selector_ne : r.selector ≠ ""
  selector : IsPlain r.selector
  name : ∀ p ∈ r.pairs, IsPlain p.1
  value : ∀ p ∈ r.pairs, IsPlain p.2
  name_noColon : ∀ p ∈ r.pairs, ':' ∉ p.1.toList
  name_noSemicolon : ∀ p ∈ r.pairs, ';' ∉ p.1.toList
  value_noSemicolon : ∀ p ∈ r.pairs, ';' ∉ p.2.toList

/-- An item whose parts keep to themselves when it is printed. -/
def Item.Readable : Item → Prop
  | base rule => rule.Readable
  | media condition rules => IsPlain condition ∧ ∀ r ∈ rules, r.Readable

instance (s : String) : Decidable (IsPlain s) :=
  decidable_of_iff ('{' ∉ s.toList ∧ '}' ∉ s.toList ∧ contains mediaWord s.toList = false)
    ⟨fun ⟨h₁, h₂, h₃⟩ => ⟨h₁, h₂, contains_eq_false_iff.1 h₃⟩,
      fun ⟨h₁, h₂, h₃⟩ => ⟨h₁, h₂, contains_eq_false_iff.2 h₃⟩⟩

instance (r : PlainRule) : Decidable r.Readable :=
  decidable_of_iff (r.selector ≠ "" ∧ IsPlain r.selector ∧ ∀ p ∈ r.pairs, IsPlain p.1 ∧
      IsPlain p.2 ∧ ':' ∉ p.1.toList ∧ ';' ∉ p.1.toList ∧ ';' ∉ p.2.toList)
    ⟨fun ⟨h₁, h₂, h⟩ => ⟨h₁, h₂, fun p hp => (h p hp).1, fun p hp => (h p hp).2.1,
      fun p hp => (h p hp).2.2.1, fun p hp => (h p hp).2.2.2.1, fun p hp => (h p hp).2.2.2.2⟩,
    fun ⟨h₁, h₂, h₃, h₄, h₅, h₆, h₇⟩ => ⟨h₁, h₂, fun p hp =>
      ⟨h₃ p hp, h₄ p hp, h₅ p hp, h₆ p hp, h₇ p hp⟩⟩⟩

instance (i : Item) : Decidable i.Readable :=
  match i with
  | .base r => inferInstanceAs (Decidable r.Readable)
  | .media c rules => inferInstanceAs (Decidable (IsPlain c ∧ ∀ r ∈ rules, r.Readable))

/-! ## Declarations -/

theorem splitAt_pairText {p : String × String} (hn : ';' ∉ p.1.toList) (hv : ';' ∉ p.2.toList)
    (s : List Char) :
    splitAt ';' (pairText p ++ s) = (p.1.toList ++ ':' :: p.2.toList) :: splitAt ';' s := by
  have h : ';' ∉ p.1.toList ++ ':' :: p.2.toList := by simp [hn, hv]
  rw [← List.singleton_append, ← splitAt_of_not_mem h, ← splitAt_append_cons]
  simp [pairText]

/-- Printed pairs are read one by one. The empty piece behind the last semicolon is no
declaration. -/
theorem filterMap_declaration?_pairs {pairs : List (String × String)}
    (hc : ∀ p ∈ pairs, ':' ∉ p.1.toList) (hn : ∀ p ∈ pairs, ';' ∉ p.1.toList)
    (hv : ∀ p ∈ pairs, ';' ∉ p.2.toList) :
    (splitAt ';' (pairs.flatMap pairText)).filterMap declaration? = pairs.map fun p =>
      (String.ofList (lower (trim p.1.toList)), String.ofList (trim p.2.toList)) := by
  induction pairs with
  | nil => rfl
  | cons p pairs ih =>
    rw [List.forall_mem_cons] at hc hn hv
    rw [List.flatMap_cons, splitAt_pairText hn.1 hv.1,
      List.filterMap_cons_some (declaration?_append hc.1 _), ih hc.2 hn.2 hv.2, List.map_cons]

theorem declarations_body {r : PlainRule} (h : r.Readable) (atRule : Option AtRule) :
    declarations r.body = (r.reading atRule).declarations := by
  rw [declarations, PlainRule.body,
    filterMap_declaration?_pairs h.name_noColon h.name_noSemicolon h.value_noSemicolon,
    Declarations.ofPairs_eq_lastValues]
  rfl

theorem noMedia_pairs {pairs : List (String × String)} (hn : ∀ p ∈ pairs, IsPlain p.1)
    (hv : ∀ p ∈ pairs, IsPlain p.2) : ¬ mediaWord <:+: pairs.flatMap pairText := by
  induction pairs with
  | nil => decide
  | cons p pairs ih =>
    rw [List.forall_mem_cons] at hn hv
    rw [List.flatMap_cons, pairText, List.append_assoc, List.cons_append, List.append_assoc]
    exact not_infix_append_cons (by decide) hn.1.noMedia
      (not_infix_append_cons (by decide) hv.1.noMedia (ih hn.2 hv.2))

/-! ## Rules -/

namespace PlainRule.Readable

variable {r : PlainRule} (h : r.Readable)
include h

theorem selector_ne_nil : r.selector.toList ≠ [] := fun hs =>
  h.selector_ne (String.toList_inj.1 (hs.trans String.toList_empty.symm))

theorem noOpen_body : '{' ∉ r.body := by
  intro hc
  obtain ⟨p, hp, hc⟩ := List.mem_flatMap.1 hc
  simp [pairText, (h.name p hp).noOpen, (h.value p hp).noOpen] at hc

theorem noClose_body : '}' ∉ r.body := by
  intro hc
  obtain ⟨p, hp, hc⟩ := List.mem_flatMap.1 hc
  simp [pairText, (h.name p hp).noClose, (h.value p hp).noClose] at hc

theorem noMedia_body : ¬ mediaWord <:+: r.body := noMedia_pairs h.name h.value

end PlainRule.Readable

variable {rules : List PlainRule}

theorem texts_cons (r : PlainRule) (rules : List PlainRule) :
    texts (r :: rules) = r.selector.toList ++ '{' :: (r.body ++ '}' :: texts rules) := by
  simp [texts, PlainRule.text]

theorem texts_append (rules rules' : List PlainRule) :
    texts (rules ++ rules') = texts rules ++ texts rules' :=
  List.flatMap_append

/-- Printed rules are read one by one. -/
theorem flatRules_texts (h : ∀ r ∈ rules, r.Readable) :
    flatRules (texts rules) = rules.map fun r => (r.selector.toList, r.body) := by
  induction rules with
  | nil => exact flatRules_nil
  | cons r rules ih =>
    obtain ⟨hr, hrules⟩ := List.forall_mem_cons.1 h
    rw [texts_cons, flatRules_append hr.selector_ne_nil hr.selector.noOpen hr.noClose_body,
      ih hrules, List.map_cons]

theorem rulesOf_texts (h : ∀ r ∈ rules, r.Readable) (atRule : Option AtRule) :
    rulesOf atRule (texts rules) = rules.map (·.reading atRule) := by
  rw [rulesOf, flatRules_texts h, List.map_map]
  refine List.map_congr_left fun r hr => ?_
  show (⟨_, declarations r.body, atRule⟩ : Rule) = r.reading atRule
  rw [declarations_body (h r hr) atRule]
  rfl

/-- The braces of printed rules match, so a block goes on behind them. -/
theorem blockBody_texts (h : ∀ r ∈ rules, r.Readable) (depth : Nat) (s : List Char) :
    blockBody depth (texts rules ++ s) =
      (texts rules ++ (blockBody depth s).1, (blockBody depth s).2) := by
  induction rules with
  | nil => rfl
  | cons r rules ih =>
    obtain ⟨hr, hrules⟩ := List.forall_mem_cons.1 h
    simp only [texts_cons, List.append_assoc, List.cons_append,
      blockBody_append hr.selector.noOpen hr.selector.noClose,
      blockBody_append hr.noOpen_body hr.noClose_body, blockBody_open, blockBody_close, ih hrules]

theorem noMedia_texts (h : ∀ r ∈ rules, r.Readable) : ¬ mediaWord <:+: texts rules := by
  induction rules with
  | nil => decide
  | cons r rules ih =>
    obtain ⟨hr, hrules⟩ := List.forall_mem_cons.1 h
    rw [texts_cons]
    exact not_infix_append_cons (by decide) hr.selector.noMedia
      (not_infix_append_cons (by decide) hr.noMedia_body (ih hrules))

/-! ## Items -/

variable {items : List Item}

/-- The cut at a printed media block. -/
theorem split_media {condition : String} (hg : ∀ r ∈ rules, r.Readable) (hc : IsPlain condition)
    {inside : List PlainRule} (hi : ∀ r ∈ inside, r.Readable) (s : List Char) :
    MediaSplit.of (texts rules ++ ((Item.media condition inside).text ++ s)) =
      ⟨⟨texts rules, condition.toList, texts inside, true⟩ :: (MediaSplit.of s).blocks,
        (MediaSplit.of s).tail⟩ := by
  have hb : blockBody 0 (texts inside ++ '}' :: s) = (texts inside, some s) := by
    rw [blockBody_texts hi, blockBody_end, List.append_nil]
  rw [← MediaSplit.of_block (noMedia_texts hg) hc.noOpen hb]
  simp [Item.text]

/-- Cutting parts the base rules from the media blocks. The induction is on the items, for any
base rules that stand before them since the last media block. -/
theorem split_printed (rules : List PlainRule) (hr : ∀ r ∈ rules, r.Readable)
    (hi : ∀ i ∈ items, i.Readable) :
    (MediaSplit.of (texts rules ++ printed items)).base =
        texts (rules ++ items.filterMap Item.baseRule?) ∧
      ((MediaSplit.of (texts rules ++ printed items)).blocks.flatMap fun b =>
        rulesOf (some ⟨"media", b.condition⟩) b.body) = items.flatMap Item.mediaReadings := by
  induction items generalizing rules with
  | nil =>
    rw [printed, List.flatMap_nil, List.append_nil, MediaSplit.of_not_infix (noMedia_texts hr)]
    exact ⟨by simp [MediaSplit.base], rfl⟩
  | cons i items ih =>
    obtain ⟨hi, his⟩ := List.forall_mem_cons.1 hi
    cases i with
    | base r =>
      have hr' : ∀ r' ∈ rules ++ [r], r'.Readable := by
        intro r' h
        rcases List.mem_append.1 h with h | h
        · exact hr r' h
        · rw [List.mem_singleton.1 h]
          exact hi
      have := ih _ hr' his
      simpa [texts_append, printed, texts, Item.text, Item.mediaReadings, Item.baseRule?] using this
    | media condition inside =>
      obtain ⟨hc, hin⟩ := hi
      obtain ⟨hbase, hblocks⟩ := ih [] (by simp) his
      rw [texts, List.flatMap_nil, List.nil_append] at hbase hblocks
      rw [printed, List.flatMap_cons, split_media hr hc hin]
      constructor
      · rw [texts_append, List.filterMap_cons_none rfl, ← List.nil_append (items.filterMap _),
          ← hbase]
        simp [MediaSplit.base, printed]
      · rw [List.flatMap_cons, List.flatMap_cons, ← hblocks, rulesOf_texts hin]
        rfl

/-- The rules of a printed stylesheet are its base rules in the order of the items and then the
rules of its media blocks, block by block. -/
theorem parse_printed (items : List Item) (hi : ∀ i ∈ items, i.Readable)
    (hc : ¬ ['/', '*'] <:+: printed items) :
    parse (String.ofList (printed items)) =
      ⟨(items.filterMap Item.baseRule?).map (·.reading none)
        ++ items.flatMap Item.mediaReadings⟩ := by
  have hbase : ∀ r ∈ items.filterMap Item.baseRule?, r.Readable := by
    intro r hr
    obtain ⟨i, h, hb⟩ := List.mem_filterMap.1 hr
    cases i with
    | base r' => cases hb; exact hi _ h
    | media condition inside => cases hb
  obtain ⟨hb, hm⟩ := split_printed [] (by simp) hi
  rw [texts, List.flatMap_nil, List.nil_append] at hb hm
  rw [List.nil_append] at hb
  rw [parse, String.toList_ofList, stripComments_of_not_infix hc]
  simp only [hb, hm, rulesOf_texts hbase]

/-- A media block in front of a base rule, a name that comes again, and a block without rules. -/
theorem parse_printed_interleaved :
    let items := [
      Item.media " (max-width: 9px) " [⟨".a ", [("Width", " 5px"), ("x", ""), ("width", "a:b")]⟩],
      .base ⟨" .b", []⟩, .media "print" []]
    (∀ i ∈ items, i.Readable) ∧ ¬ ['/', '*'] <:+: printed items ∧
      (parse (String.ofList (printed items))).rules = [
        ⟨".b", [], none⟩,
        ⟨".a", [("width", "a:b"), ("x", "")], some ⟨"media", "(max-width: 9px)"⟩⟩] := by
  intro items
  have hi : ∀ i ∈ items, i.Readable := by decide
  have hc : ¬ ['/', '*'] <:+: printed items := contains_eq_false_iff.1 (by decide)
  exact ⟨hi, hc, (congrArg Stylesheet.rules (parse_printed items hi hc)).trans (by decide)⟩

end Reflow.Stylesheet
