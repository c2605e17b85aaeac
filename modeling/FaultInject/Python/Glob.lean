import FaultInject.Python.Text
import Mathlib.Data.List.Infix

namespace FaultInject.Python.Glob
open Python

/-- An item of a pattern matches some characters of a name. -/
inductive Item where
  | any
  | one
  | set (negated : Bool) (members : List Char)
  | literal (character : Char)
  deriving DecidableEq, Repr

/-- These are the text inside a bracket and the text behind it. -/
def bracket (text : List Char) : Option (List Char × List Char) :=
  let sign := if text.head? = some '!' then 1 else 0
  let lead := if (text.drop sign).head? = some ']' then sign + 1 else sign
  let inside := (text.drop lead).takeWhile (· ≠ ']')
  if text.length = lead + inside.length then none
  else some (text.take (lead + inside.length), text.drop (lead + inside.length + 1))

/-- A bracket without its end is the character itself. -/
def items : Nat → List Char → List Item
  | 0, _ => []
  | _, [] => []
  | fuel + 1, character :: text =>
      if character = '*' then .any :: items fuel text
      else if character = '?' then .one :: items fuel text
      else if character = '[' then
        match bracket text with
        | some ('!' :: members, rest) => .set true members :: items fuel rest
        | some (members, rest) => .set false members :: items fuel rest
        | none => .literal '[' :: items fuel text
      else .literal character :: items fuel text

/-- A set lists characters and ranges. -/
def inSet (character : Char) : List Char → Bool
  | low :: '-' :: high :: members =>
      decide (low ≤ character ∧ character ≤ high) || inSet character members
  | member :: members => character == member || inSet character members
  | [] => false

def matchItems : List Item → List Char → Bool
  | [], name => name.isEmpty
  | .any :: pattern, name => name.tails.any (matchItems pattern)
  | .one :: pattern, _ :: name => matchItems pattern name
  | .set negated members :: pattern, character :: name =>
      (inSet character members != negated) && matchItems pattern name
  | .literal expected :: pattern, character :: name =>
      character == expected && matchItems pattern name
  | _ :: _, [] => false

/-- This is `fnmatch.fnmatchcase(name, pattern)`. -/
def fnmatch (pattern name : String) : Bool :=
  matchItems (items pattern.length pattern.toList) name.toList

/-- A path matches a pattern component by component. -/
def globMatch (pattern name : String) : Bool :=
  let patterns := split pattern '/'
  let names := split name '/'
  patterns.length == names.length && (patterns.zip names).all fun pair => fnmatch pair.1 pair.2

/-- This character stands for itself in a pattern. -/
def Plain (character : Char) : Prop :=
  character ≠ '*' ∧ character ≠ '?' ∧ character ≠ '['

instance (character : Char) : Decidable (Plain character) := instDecidableAnd

theorem items_plain {text : List Char} (plain : ∀ character ∈ text, Plain character)
    (fuel : Nat) (rest : List Char) :
    items (text.length + fuel) (text ++ rest) = text.map .literal ++ items fuel rest := by
  induction text with
  | nil => rw [List.length_nil, Nat.zero_add, List.nil_append, List.map_nil, List.nil_append]
  | cons character text ih =>
      obtain ⟨star, one, set⟩ := plain character List.mem_cons_self
      rw [List.length_cons, Nat.add_right_comm, List.cons_append, items, if_neg star, if_neg one,
        if_neg set, ih fun other member => plain other (List.mem_cons_of_mem _ member)]
      rfl

theorem matchItems_literal (text : List Char) (pattern : List Item) (rest : List Char) :
    matchItems (text.map .literal ++ pattern) (text ++ rest) = matchItems pattern rest := by
  induction text with
  | nil => rfl
  | cons character text ih =>
      rw [List.map_cons, List.cons_append, List.cons_append, matchItems, ih, beq_self_eq_true,
        Bool.true_and]

/-- A star between plain texts matches every text. -/
theorem fnmatch_star {first last : List Char} (plain : ∀ character ∈ first, Plain character)
    (clean : ∀ character ∈ last, Plain character) (middle : List Char) :
    fnmatch (String.ofList (first ++ '*' :: last)) (String.ofList (first ++ (middle ++ last))) =
      true := by
  rw [fnmatch, String.toList_ofList, String.toList_ofList, String.length_ofList,
    List.length_append, List.length_cons, items_plain plain, items, if_pos rfl,
    matchItems_literal, matchItems, List.any_eq_true]
  apply Exists.intro last
  constructor
  · rw [List.mem_tails]
    exact List.suffix_append middle last
  · have literals := items_plain clean 0 []
    rw [Nat.add_zero, List.append_nil] at literals
    have whole := matchItems_literal last [] []
    rw [List.append_nil, List.append_nil] at whole
    rw [literals, items, List.append_nil, whole]
    rfl

/-- A star between plain texts matches every name of one component with these ends. -/
theorem globMatch_star {first last middle : List Char}
    (plain : ∀ character ∈ first, Plain character) (clean : ∀ character ∈ last, Plain character)
    (pattern : '/' ∉ first ++ '*' :: last) (name : '/' ∉ first ++ (middle ++ last)) :
    globMatch (String.ofList (first ++ '*' :: last)) (String.ofList (first ++ (middle ++ last))) =
      true := by
  rw [globMatch, split_singleton (by rwa [String.toList_ofList]),
    split_singleton (by rwa [String.toList_ofList])]
  simpa using fnmatch_star plain clean middle

end FaultInject.Python.Glob
