import Reflow.Proofs.Text.Columns

/-!
# Texts made of certain characters

Joining, filling up and shortening put in nothing but spaces, ellipses and what they are told to. So
texts whose characters are all of a kind stay that way, if the kind has these two.

* `MadeOf`: a text whose characters are all of a kind.
* `MadeOf.append`, `MadeOf.fill`, `MadeOf.truncate`, `MadeOf.pad`, `MadeOf.intercalate`: what is made
  of such texts.
-/

namespace Reflow.Text

/-- A text whose characters are all of a kind. -/
def MadeOf (p : Char → Bool) (s : String) : Prop := ∀ c ∈ s.toList, p c

instance (p : Char → Bool) (s : String) : Decidable (MadeOf p s) :=
  decidable_of_iff (s.toList.all p) List.all_eq_true

variable {p q : Char → Bool} {s t : String} {c : Char} {cs : List Char} {rows : List String}

theorem MadeOf.imp (hpq : ∀ c, p c → q c) (h : MadeOf p s) : MadeOf q s :=
  fun c hc => hpq c (h c hc)

theorem madeOf_ofList : MadeOf p (String.ofList cs) ↔ ∀ c ∈ cs, p c := by
  rw [MadeOf, String.toList_ofList]

theorem MadeOf.ofList (h : cs.all p) : MadeOf p (String.ofList cs) :=
  madeOf_ofList.2 (List.all_eq_true.1 h)

theorem MadeOf.append (hs : MadeOf p s) (ht : MadeOf p t) : MadeOf p (s ++ t) := by
  intro c hc
  rw [String.toList_append] at hc
  exact (List.mem_append.1 hc).elim (hs c) (ht c)

/-- Texts put together with a text between them. -/
theorem MadeOf.intercalate {sep : String} (hsep : MadeOf p sep) (h : ∀ row ∈ rows, MadeOf p row) :
    MadeOf p (sep.intercalate rows) := by
  induction rows with
  | nil => exact (MadeOf.ofList rfl : MadeOf p (String.ofList []))
  | cons row rows ih =>
    obtain ⟨hrow, hrows⟩ := List.forall_mem_cons.1 h
    cases rows with
    | nil => rwa [String.intercalate_singleton]
    | cons next rows =>
      rw [String.intercalate_cons_cons]
      exact (hrow.append hsep).append (ih hrows)

theorem MadeOf.fill (h : p c) (n : Nat) : MadeOf p (fill n c) := by
  intro d hd
  rwa [mem_fill hd]

theorem MadeOf.truncate (h : MadeOf p s) (hellipsis : p ellipsis) (limit : Int) :
    MadeOf p (truncate s limit) := by
  intro c hc
  rcases mem_truncate hc with hc | rfl
  · exact h c hc
  · exact hellipsis

theorem MadeOf.pad (h : MadeOf p s) (hspace : p ' ') (hellipsis : p ellipsis) (align : Align)
    (width : Int) : MadeOf p (pad align s width) := by
  obtain ⟨m, n, -, hp⟩ := pad_eq align s width
  rw [hp]
  exact ((MadeOf.fill hspace m).append (h.truncate hellipsis width)).append (.fill hspace n)

/-! ## Numbers -/

theorem madeOf_toString_nat (h : ∀ c, c.isDigit → p c) (n : Nat) : MadeOf p (toString n) := by
  have hr : toString n = String.ofList (Nat.toDigits 10 n) := rfl
  rw [hr]
  exact madeOf_ofList.2 fun c hc => h c (isDigit_of_mem_toDigits hc)

theorem madeOf_toString_int (h : ∀ c, c.isDigit → p c) (hminus : p '-') (n : Int) :
    MadeOf p (toString n) := by
  cases n with
  | ofNat n => exact madeOf_toString_nat h n
  | negSucc n =>
    have hsign : MadeOf p "-" := madeOf_ofList.2 (List.forall_mem_singleton.2 hminus)
    exact hsign.append (madeOf_toString_nat h _)

end Reflow.Text
