import FaultInject.Python.Dict

namespace FaultInject.Python

/-- A scalar JSON value. -/
inductive Scalar where
  | null
  | bool (value : Bool)
  | int (value : Int)
  | str (value : String)
  deriving DecidableEq, Repr

/-- A JSON value. An object keeps its entries in order. -/
inductive Value where
  | scalar (value : Scalar)
  | list (items : List Value)
  | object (entries : List (String × Value))
  deriving Repr

namespace Value

/-- This is `None`. -/
def none : Value := .scalar .null

def bool (value : Bool) : Value := .scalar (.bool value)

def str (value : String) : Value := .scalar (.str value)

/-- This is `None` for a missing text. -/
def optionStr (value : Option String) : Value := .scalar (value.elim .null .str)

/-- This is `value is True`. -/
def isTrue : Value → Bool
  | .scalar (.bool value) => value
  | _ => false

/-- This is `value == text` for a text. -/
def isText (text : String) : Value → Bool
  | .scalar (.str value) => value == text
  | _ => false

/-- This is `bool(value)`. -/
def truthy : Value → Bool
  | .scalar .null => false
  | .scalar (.bool value) => value
  | .scalar (.int value) => value != 0
  | .scalar (.str value) => value != ""
  | .list items => !items.isEmpty
  | .object entries => !entries.isEmpty

theorem isText_eq_true {value : Value} {text : String} :
    value.isText text = true ↔ value = .str text := by
  cases value with
  | scalar value => cases value <;> simp [isText, str]
  | list items => simp [isText, str]
  | object entries => simp [isText, str]

/-- This is a value that has to be a text. -/
def text : Value → Result String
  | .scalar (.str value) => .ok value
  | _ => .error (.typeError "expected a text")

/-- This is a value that has to be a list of texts. -/
def texts : Value → Result (List String)
  | .list items => items.mapM text
  | _ => .error (.typeError "expected a list of texts")

theorem texts_eq_ok {value : Value} {parts : List String} :
    value.texts = .ok parts ↔ value = .list (parts.map .str) := by
  have item (value : Value) (part : String) : value.text = .ok part ↔ value = .str part := by
    cases value with
    | scalar value => cases value <;> simp [text, str]
    | list items => simp [text, str]
    | object entries => simp [text, str]
  cases value with
  | list items =>
      rw [texts, mapM_eq_ok, Value.list.injEq]
      simp only [item]
      rw [← List.forall₂_map_right_iff (R := fun value other => value = other), List.forall₂_eq_eq_eq]
  | scalar value => simp [texts]
  | object entries => simp [texts]

/-- A value is a dictionary key only if it is a scalar. A Boolean key is the
integer key of the same value. -/
def toKey : Value → Result Scalar
  | .scalar (.bool value) => .ok (.int value.toNat)
  | .scalar value => .ok value
  | .list _ => .error (.typeError "unhashable type: 'list'")
  | .object _ => .error (.typeError "unhashable type: 'dict'")

/-- Only the text itself has the key of the text. -/
theorem toKey_eq_str {value : Value} {text : String} :
    value.toKey = .ok (.str text) ↔ value = .str text := by
  cases value with
  | scalar value => cases value <;> simp [toKey, str]
  | list items => simp [toKey, str]
  | object entries => simp [toKey, str]

end Value

end FaultInject.Python
