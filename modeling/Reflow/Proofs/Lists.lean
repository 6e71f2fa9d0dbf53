import Mathlib.Data.List.Forall2
import Mathlib.Data.List.TakeWhile

/-!
# Lists that are tables

* The recipes of a roster and the entries of a cache are lists of names with values. Both replace an
  entry by taking the old one out and putting the new one at the end (`lookup_replace`). Where
  keys come once, a key picks out one item at most (`filter_key_of_nodup`).
* A run of items of a kind ends where one of another kind comes (`takeWhile_run`, `dropWhile_run`).
* What an index gives, with a fallback behind the end (`getD_of_forall_mem`,
  `getElem?_eq_of_getD_eq`).
* Findings are filtered by a key that they share with what they are made from
  (`filter_flatMap_of_key`), and their keys come in the order of first occurrences
  (`pairwise_findIdx_eraseDups`).
* A list is cut at its first item of a kind (`exists_first_cons_iff`).
-/

namespace Reflow

section Table

variable {κ α : Type} [DecidableEq κ] {table : List (κ × α)} {name other : κ} {value : α}

theorem mem_of_lookup (h : table.lookup name = some value) : (name, value) ∈ table := by
  obtain ⟨l₁, l₂, rfl, -⟩ := List.lookup_eq_some_iff.1 h
  exact List.mem_append_right _ List.mem_cons_self

theorem lookup_eq_none_iff_not_mem : table.lookup name = none ↔ name ∉ table.map (·.1) := by
  rw [List.lookup_eq_none_iff, List.mem_map, not_exists]
  constructor
  · rintro h e ⟨he, rfl⟩
    simpa using h e he
  · intro h e he
    have hne : name ≠ e.1 := fun hk => h e ⟨he, hk.symm⟩
    simpa using hne

/-- Where names come once, every entry is the one that is found. -/
theorem lookup_of_mem_of_nodup (hnames : (table.map (·.1)).Nodup) {entry : κ × α}
    (h : entry ∈ table) : table.lookup entry.1 = some entry.2 := by
  induction table with
  | nil => cases h
  | cons e table ih =>
    obtain ⟨hnotin, hnames⟩ := List.nodup_cons.1 hnames
    rw [List.lookup_cons]
    rcases List.mem_cons.1 h with rfl | h
    · rw [beq_self_eq_true]
    · have hne : entry.1 ≠ e.1 := fun he => hnotin (List.mem_map.2 ⟨entry, h, he⟩)
      rw [beq_eq_false_iff_ne.2 hne]
      exact ih hnames h

/-- Other values under the same names. -/
theorem lookup_map_values {β : Type} (f : α → β) (table : List (κ × α)) (name : κ) :
    (table.map fun e => (e.1, f e.2)).lookup name = (table.lookup name).map f := by
  induction table with
  | nil => rfl
  | cons e table ih =>
    rw [List.map_cons, List.lookup_cons, List.lookup_cons]
    cases name == e.1 with
    | false => exact ih
    | true => rfl

theorem lookup_filter_self (table : List (κ × α)) (name : κ) :
    (table.filter (·.1 ≠ name)).lookup name = none := by
  rw [List.lookup_eq_none_iff]
  intro e he
  have hne : e.1 ≠ name := of_decide_eq_true (List.mem_filter.1 he).2
  simpa using hne.symm

theorem lookup_filter_of_ne (h : other ≠ name) (table : List (κ × α)) :
    (table.filter (·.1 ≠ name)).lookup other = table.lookup other := by
  induction table with
  | nil => rfl
  | cons e table ih =>
    rw [List.filter_cons, List.lookup_cons]
    split
    · rw [List.lookup_cons, ih]
    · next he =>
      have he : e.1 = name := by simpa using he
      have : (other == e.1) = false := by simpa [he] using h
      rw [ih, this]

/-- An entry that is replaced is the only one that changes. -/
theorem lookup_replace (table : List (κ × α)) (name other : κ) (value : α) :
    (table.filter (·.1 ≠ name) ++ [(name, value)]).lookup other =
      if other = name then some value else table.lookup other := by
  rw [List.lookup_append]
  split
  · next h => subst h; rw [lookup_filter_self]; simp
  · next h =>
    have : (other == name) = false := by simpa using h
    rw [lookup_filter_of_ne h, List.lookup_cons, this]
    simp

/-- Where keys come once, at most one item has a given key. -/
theorem filter_key_of_nodup {items : List α} {key : α → κ} (h : (items.map key).Nodup) (k : κ) :
    items.filter (key · = k) = [] ∨ ∃ a, items.filter (key · = k) = [a] := by
  have hone := List.nodup_iff_count.1 h k
  rw [List.count, List.countP_map, List.countP_eq_length_filter] at hone
  rcases Nat.le_one_iff_eq_zero_or_eq_one.1 hone with hzero | hone
  · exact .inl (List.length_eq_zero_iff.1 hzero)
  · exact .inr (List.length_eq_one_iff.1 hone)

end Table

section Runs

variable {α : Type} {p : α → Bool} {a b : List α}

/-- A run of items of a kind ends where one of another kind comes. -/
theorem takeWhile_run (ha : ∀ c ∈ a, p c) (hb : ∀ c ∈ b.head?, p c = false) :
    (a ++ b).takeWhile p = a := by
  rw [List.takeWhile_append_of_pos ha]
  cases b with
  | nil => simp
  | cons c b => simp [hb c rfl]

theorem dropWhile_run (ha : ∀ c ∈ a, p c) (hb : ∀ c ∈ b.head?, p c = false) :
    (a ++ b).dropWhile p = b := by
  rw [List.dropWhile_append_of_pos ha]
  cases b with
  | nil => simp
  | cons c b => simp [hb c rfl]

end Runs

section Filters

variable {α β κ : Type} {p : α → Bool} {q : β → Bool} {l : List α}

/-- Items that are passed over make nothing, or what they make is taken out. -/
theorem filter_flatMap_of_key {f : α → List β} (h : ∀ a ∈ l, ∀ b ∈ f a, q b = p a) :
    (l.flatMap f).filter q = (l.filter p).flatMap f := by
  induction l with
  | nil => rfl
  | cons a l ih =>
    obtain ⟨ha, hl⟩ := List.forall_mem_cons.1 h
    rw [List.flatMap_cons, List.filter_append, ih hl, List.filter_cons]
    by_cases hp : p a
    · rw [if_pos hp, List.flatMap_cons, List.filter_eq_self.2 fun b hb => (ha b hb).trans hp]
    · rw [if_neg hp, List.filter_eq_nil_iff.2 fun b hb => ha b hb ▸ hp, List.nil_append]

theorem filter_filterMap_of_key {f : α → Option β} (h : ∀ a ∈ l, ∀ b, f a = some b → q b = p a) :
    (l.filterMap f).filter q = (l.filter p).filterMap f := by
  rw [List.filterMap_eq_flatMap_toList, List.filterMap_eq_flatMap_toList]
  exact filter_flatMap_of_key fun a ha b hb => h a ha b (Option.mem_toList.1 hb)

/-- What is found under a key that is gone through once is what there is for it. -/
theorem filter_filterMap_of_nodup [DecidableEq κ] {f : κ → Option β} {key : β → κ} {keys : List κ}
    {k : κ} (hkeys : keys.Nodup) (hkey : ∀ j ∈ keys, ∀ b, f j = some b → key b = j)
    (hk : k ∉ keys → f k = none) :
    (keys.filterMap f).filter (key · = k) = (f k).toList := by
  have hfilter : (keys.filterMap f).filter (key · = k) =
      (keys.filter (fun j => decide (j = k))).filterMap f :=
    filter_filterMap_of_key fun j hj b hb => by rw [hkey j hj b hb]
  rw [hfilter, List.filter_eq, hkeys.count]
  by_cases hmem : k ∈ keys
  · rw [if_pos hmem]
    cases hf : f k <;> simp [hf]
  · rw [if_neg hmem, hk hmem]
    rfl

end Filters

section Occurrences

variable {α β κ : Type} {l : List α} {b : β}

/-- First occurrences among some of the items are those of all items that are among them. -/
theorem eraseDups_filter [DecidableEq α] (p : α → Bool) (l : List α) :
    (l.filter p).eraseDups = l.eraseDups.filter p := by
  match l with
  | [] => rfl
  | a :: l =>
    have ih := eraseDups_filter p (l.filter fun b => !b == a)
    rw [List.eraseDups_cons, List.filter_cons, List.filter_cons, ← ih]
    by_cases hp : p a
    · rw [if_pos hp, if_pos hp, List.eraseDups_cons, List.filter_filter, List.filter_filter]
      simp only [Bool.and_comm]
    · rw [if_neg hp, if_neg hp, List.filter_filter]
      congr 1
      refine List.filter_congr fun b _ => ?_
      by_cases hb : b = a
      · simp [hb, hp]
      · simp [hb]
termination_by l.length
decreasing_by
  have := List.length_filter_le (fun b => !b == a) l
  simp only [List.length_cons]
  omega

theorem find?_eraseDups [DecidableEq α] (p : α → Bool) (l : List α) :
    l.eraseDups.find? p = l.find? p := by
  induction l with
  | nil => rfl
  | cons a l ih =>
    rw [List.eraseDups_cons, eraseDups_filter, List.find?_cons, List.find?_cons]
    by_cases ha : p a
    · simp only [ha]
    · have hother : (fun b => decide ((!b == a) = true ∧ p b = true)) = p := by
        funext b
        by_cases hb : b = a
        · simp [hb, ha]
        · simp [hb]
      simp only [ha, List.find?_filter, hother, ih]

/-- What is read off the items, each once, comes in the order of the first items it is read off. -/
theorem pairwise_findIdx_eraseDups_filterMap [DecidableEq κ] (f : α → Option κ) (l : List α) :
    (l.filterMap f).eraseDups.Pairwise fun j k =>
      l.findIdx (f · = some j) < l.findIdx (f · = some k) := by
  induction l with
  | nil => simp
  | cons a l ih =>
    cases hf : f a with
    | none =>
      rw [List.filterMap_cons_none hf]
      refine ih.imp fun hlt => ?_
      simpa [List.findIdx_cons, hf] using hlt
    | some b =>
      have hnext {k : κ} (hk : k ≠ b) :
          (a :: l).findIdx (f · = some k) = l.findIdx (f · = some k) + 1 := by
        simp [List.findIdx_cons, hf, hk.symm]
      have hne {k : κ} (hk : k ∈ (l.filterMap f).eraseDups.filter fun k => !k == b) : k ≠ b := by
        simpa using (List.mem_filter.1 hk).2
      rw [List.filterMap_cons_some hf, List.eraseDups_cons, eraseDups_filter, List.pairwise_cons]
      constructor
      · intro k hk
        rw [hnext (hne hk)]
        simp [List.findIdx_cons, hf]
      · refine (ih.filter _).imp_of_mem fun hj hk hlt => ?_
        rw [hnext (hne hj), hnext (hne hk)]
        omega

/-- The keys of the items of a kind, each once, come in the order of their first items. -/
theorem pairwise_findIdx_eraseDups [DecidableEq κ] (key : α → κ) (p : α → Bool) (l : List α) :
    ((l.filter p).map key).eraseDups.Pairwise fun j k =>
      l.findIdx (fun a => p a && key a = j) < l.findIdx (fun a => p a && key a = k) := by
  have hkeys : (l.filter p).map key = l.filterMap fun a => if p a then some (key a) else none := by
    rw [← List.filterMap_eq_filter, List.map_filterMap]
    refine List.filterMap_congr fun a _ => ?_
    by_cases hp : p a <;> simp [Option.guard, hp]
  have hkind (k : κ) : (fun a => decide ((if p a then some (key a) else none) = some k)) =
      fun a => p a && decide (key a = k) := by
    funext a
    by_cases hp : p a <;> simp [hp]
  have hpair := pairwise_findIdx_eraseDups_filterMap (fun a => if p a then some (key a) else none) l
  rw [← hkeys] at hpair
  simpa only [hkind] using hpair

/-- An item of one kind comes in front of all those of another. -/
theorem exists_of_findIdx_lt_findIdx {p q : α → Bool} (h : l.findIdx p < l.findIdx q) :
    ∃ before a after, l = before ++ a :: after ∧ p a ∧ ∀ c ∈ before ++ [a], q c = false := by
  have hlt : l.findIdx p < l.length := h.trans_le List.findIdx_le_length
  refine ⟨l.take (l.findIdx p), l[l.findIdx p], l.drop (l.findIdx p + 1), ?_, ?_, ?_⟩
  · rw [← List.drop_eq_getElem_cons, List.take_append_drop]
  · exact List.findIdx_getElem
  · intro c hc
    rw [List.take_append_getElem] at hc
    obtain ⟨i, hi, rfl⟩ := List.mem_take_iff_getElem.1 hc
    have hi' : i < l.findIdx q := by omega
    simpa using List.not_of_lt_findIdx hi'

/-- The last of what is read off the items. -/
theorem getLast?_filterMap_eq_some_iff {f : α → Option β} :
    (l.filterMap f).getLast? = some b ↔
      ∃ before a after, l = before ++ a :: after ∧ f a = some b ∧ ∀ c ∈ after, f c = none := by
  rw [List.getLast?_filterMap, List.findSome?_eq_some_iff]
  constructor
  · rintro ⟨after, a, before, hl, ha, hafter⟩
    refine ⟨before.reverse, a, after.reverse, ?_, ha, by simpa using hafter⟩
    simpa using congrArg List.reverse hl
  · rintro ⟨before, a, after, rfl, ha, hafter⟩
    exact ⟨after.reverse, a, before.reverse, by simp, ha, by simpa using hafter⟩

end Occurrences

/-- What holds of all items and of the fallback holds of whichever of them an index gives. -/
theorem getD_of_forall_mem {α : Type} {P : α → Prop} {l : List α} {fallback : α}
    (h : ∀ a ∈ l, P a) (hfallback : P fallback) (i : Nat) : P (l.getD i fallback) := by
  rw [List.getD_eq_getElem?_getD]
  cases hi : l[i]? with
  | none => exact hfallback
  | some a => exact h a (List.mem_of_getElem? hi)

/-- Lists without the fallback have the same item at an index if they give the same there. -/
theorem getElem?_eq_of_getD_eq {α : Type} {l l' : List α} {fallback : α} {i : Nat}
    (hl : fallback ∉ l) (hl' : fallback ∉ l') (h : l.getD i fallback = l'.getD i fallback) :
    l[i]? = l'[i]? := by
  rw [List.getD_eq_getElem?_getD, List.getD_eq_getElem?_getD] at h
  cases hi : l[i]? with
  | none =>
    cases hi' : l'[i]? with
    | none => rfl
    | some a =>
      rw [hi, hi'] at h
      obtain rfl : fallback = a := h
      exact absurd (List.mem_of_getElem? hi') hl'
  | some a =>
    cases hi' : l'[i]? with
    | none =>
      rw [hi, hi'] at h
      obtain rfl : a = fallback := h
      exact absurd (List.mem_of_getElem? hi) hl
    | some b =>
      rw [hi, hi'] at h
      exact congrArg some h

theorem guard_bind_eq_some_iff {α : Type} {a : α} {p : Prop} [Decidable p] {next : Option α} :
    ((guard p : Option Unit).bind fun _ => next) = some a ↔ p ∧ next = some a := by
  by_cases hp : p
  · have hguard : (guard p : Option Unit) = some () := if_pos hp
    rw [hguard, and_iff_right hp]
    exact Iff.rfl
  · have hguard : (guard p : Option Unit) = none := if_neg hp
    rw [hguard]
    constructor
    · intro h
      cases h
    · exact fun h => absurd h.1 hp

theorem not_exists_first_nil {α : Type} {P Q : α → Prop} :
    ¬ ∃ before b after, [] = before ++ b :: after ∧ (∀ c ∈ before, P c) ∧ Q b := by
  rintro ⟨before, b, after, h, -⟩
  exact List.append_ne_nil_of_right_ne_nil _ (List.cons_ne_nil _ _) h.symm

/-- The first item of a kind comes first or later. The items before it are of another kind. -/
theorem exists_first_cons_iff {α : Type} {P Q : α → Prop} {a : α} {items : List α} :
    (∃ before b after, a :: items = before ++ b :: after ∧ (∀ c ∈ before, P c) ∧ Q b) ↔
      Q a ∨ P a ∧ ∃ before b after, items = before ++ b :: after ∧ (∀ c ∈ before, P c) ∧ Q b := by
  constructor
  · rintro ⟨_ | ⟨c, before⟩, b, after, hitems, hbefore, hb⟩
    · cases hitems
      exact .inl hb
    · obtain ⟨rfl, hrest⟩ := List.cons.inj hitems
      obtain ⟨ha, hbefore⟩ := List.forall_mem_cons.1 hbefore
      exact .inr ⟨ha, before, b, after, hrest, hbefore, hb⟩
  · rintro (ha | ⟨ha, before, b, after, rfl, hbefore, hb⟩)
    · exact ⟨[], a, items, rfl, List.forall_mem_nil _, ha⟩
    · exact ⟨a :: before, b, after, rfl, List.forall_mem_cons.2 ⟨ha, hbefore⟩, hb⟩

/-- The first of a kind among what is read off the items. -/
theorem exists_first_filterMap_iff {α β : Type} {f : α → Option β} {P Q : β → Prop}
    {items : List α} :
    (∃ before b after, items.filterMap f = before ++ b :: after ∧ (∀ c ∈ before, P c) ∧ Q b) ↔
      ∃ before a after, items = before ++ a :: after ∧ (∀ c ∈ before, ∀ d, f c = some d → P d) ∧
        ∃ b, f a = some b ∧ Q b := by
  induction items with
  | nil => exact iff_of_false not_exists_first_nil not_exists_first_nil
  | cons a items ih =>
    rw [exists_first_cons_iff, ← ih]
    cases ha : f a with
    | none => simp [List.filterMap_cons_none ha]
    | some b =>
      rw [List.filterMap_cons_some ha, exists_first_cons_iff]
      simp

end Reflow
