import Reflow.Binary64.Decimal
import Reflow.Text.Integer
import Reflow.Text.Quoted

/-!
# Loosely typed values

A diagram may be requested with fields of any shape. A `Datum` is such a value: nothing, a truth
value, an integer, a double, a text, a list or named fields in their order.

* `isVoid`: the values that count as not given.
* `shown`: the value as a message shows it, with texts in quotes. A value with an integer in it that
  cannot be written is not shown.
* `plainText`: the value as text, where a text stands for itself.
-/

namespace Reflow

/-- A value of any shape. -/
inductive Datum where
  | null
  | bool (value : Bool)
  | int (value : Int)
  | number (value : Binary64)
  | text (value : String)
  | list (items : List Datum)
  | fields (entries : List (String × Datum))
deriving Repr, Inhabited

namespace Datum

/-- The name of the shape of a value. -/
def shapeName : Datum → String
  | null => "NoneType"
  | bool _ => "bool"
  | int _ => "int"
  | number _ => "float"
  | text _ => "str"
  | list _ => "list"
  | fields _ => "dict"

/-- Whether the value counts as not given: nothing, false, zero or empty. -/
def isVoid : Datum → Bool
  | null => true
  | bool value => !value
  | int value => value == 0
  | number value => value.isZero
  | text value => value.isEmpty
  | list items => items.isEmpty
  | fields entries => entries.isEmpty

mutual

/-- The value as a message shows it. -/
def shown : Datum → Except Text.DigitError String
  | null => .ok "None"
  | bool true => .ok "True"
  | bool false => .ok "False"
  | int value => Text.writeInteger value
  | number value => .ok value.toText
  | text value => .ok (Text.quoted value)
  | list items => return "[" ++ ", ".intercalate (← shownItems items) ++ "]"
  | fields entries => return "\x7b" ++ ", ".intercalate (← shownFields entries) ++ "\x7d"

/-- The items of a list as a message shows them. -/
def shownItems : List Datum → Except Text.DigitError (List String)
  | [] => .ok []
  | item :: items => return (← shown item) :: (← shownItems items)

/-- The named fields as a message shows them. -/
def shownFields : List (String × Datum) → Except Text.DigitError (List String)
  | [] => .ok []
  | (name, value) :: entries =>
    return (Text.quoted name ++ ": " ++ (← shown value)) :: (← shownFields entries)

end

/-- The value as text. -/
def plainText : Datum → Except Text.DigitError String
  | text value => .ok value
  | other => shown other

/-- The integer in a number: an integer itself, or a finite double without its fraction. -/
def integer? : Datum → Option Int
  | int value => some value
  | number value => value.truncate?
  | _ => none

/-- The field of that name, nothing if there is none. -/
def field (entries : List (String × Datum)) (name : String) : Datum :=
  (entries.lookup name).getD null

end Datum

end Reflow
