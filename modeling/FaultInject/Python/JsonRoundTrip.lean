import FaultInject.Python.JsonScan

/-
This file proves that the JSON decoder inverts the encoder.
-/

namespace FaultInject.Python.Json
open Python

section Strings

theorem hexDigit_digitChar : ∀ digit < 16, hexDigit? digit.digitChar = some digit := by decide

/-- A control character is escaped with four digits. -/
theorem scanCode_control : ∀ code < 32, ∀ rest : List Char,
    scanCode ((formatHex 4 code).toList ++ rest) = .ok (code, rest) := by
  intro code small rest
  have digits : ∀ code < 32, (formatHex 4 code).toList =
      ['0', '0', (code / 16).digitChar, (code % 16).digitChar] := by decide
  rw [digits code small, scanCode]
  have read : (List.take 4 (['0', '0', (code / 16).digitChar, (code % 16).digitChar] ++ rest)).mapM
      hexDigit? = some [0, 0, code / 16, code % 16] := by
    simp [hexDigit_digitChar (code / 16) (by omega), hexDigit_digitChar (code % 16) (by omega),
      show hexDigit? '0' = some 0 by decide]
  rw [read]
  simp
  omega

/-- A short escape sequence is read as the character that it stands for. -/
theorem scanString_short {mark value : Char} (other : mark ≠ 'u')
    (known : escapes.lookup mark = some value) (fuel : Nat) (rest : List Char) :
    scanString (fuel + 1) ('\\' :: mark :: rest) = (do
      let string ← scanString fuel rest
      return (value :: string.1, string.2)) := by
  have escaped : scanEscape (mark :: rest) = .ok (value, rest) := by
    rw [scanEscape, if_neg other, known]
  rw [scanString, if_neg (by decide), if_pos rfl, escaped]
  rfl

/-- The scanner gives back an escaped character. -/
theorem scanString_escape (character : Char) (fuel : Nat) (rest : List Char) :
    scanString (fuel + 1) ((escape character).toList ++ rest) = (do
      let string ← scanString fuel rest
      return (character :: string.1, string.2)) := by
  have same {code : Nat} (equal : character.toNat = code) : character = Char.ofNat code := by
    rw [← equal, Char.ofNat_toNat]
  rw [escape]
  by_cases quote : character = '"'
  · subst quote
    exact scanString_short (by decide) rfl fuel rest
  rw [if_neg quote]
  by_cases backslash : character = '\\'
  · subst backslash
    exact scanString_short (by decide) rfl fuel rest
  rw [if_neg backslash]
  by_cases newline : character = '\n'
  · subst newline
    exact scanString_short (by decide) rfl fuel rest
  rw [if_neg newline]
  by_cases carriage : character = '\r'
  · subst carriage
    exact scanString_short (by decide) rfl fuel rest
  rw [if_neg carriage]
  by_cases tab : character = '\t'
  · subst tab
    exact scanString_short (by decide) rfl fuel rest
  rw [if_neg tab]
  by_cases backspace : character.toNat = 8
  · rw [if_pos backspace, same backspace]
    exact scanString_short (by decide) rfl fuel rest
  rw [if_neg backspace]
  by_cases formFeed : character.toNat = 12
  · rw [if_pos formFeed, same formFeed]
    exact scanString_short (by decide) rfl fuel rest
  rw [if_neg formFeed]
  by_cases control : character.toNat < 32
  · have code := scanCode_control character.toNat control rest
    have escaped : scanEscape ('u' :: ((formatHex 4 character.toNat).toList ++ rest)) =
        .ok (character, rest) := by
      rw [scanEscape, if_pos rfl, scanUnicode, code]
      simp only [ok_bind]
      rw [if_neg (by omega), if_neg (by omega), Char.ofNat_toNat]
      rfl
    have shape : ("\\u" ++ formatHex 4 character.toNat).toList ++ rest =
        '\\' :: 'u' :: ((formatHex 4 character.toNat).toList ++ rest) := by
      rw [String.toList_append]
      rfl
    rw [if_pos control, shape, scanString, if_neg (by decide), if_pos rfl, escaped]
    rfl
  · have shape : character.toString.toList ++ rest = character :: rest := by
      rw [Char.toString, String.toList_singleton]
      rfl
    rw [if_neg control, shape, scanString, if_neg quote, if_neg backslash, if_neg control]

/-- The scanner reads a quoted text up to its right quote. -/
theorem scanString_quoted (text rest : List Char) {fuel : Nat} (enough : text.length < fuel) :
    scanString fuel (text.flatMap (fun character => (escape character).toList) ++ '"' :: rest) =
      .ok (text, rest) := by
  induction text generalizing fuel with
  | nil =>
      cases fuel with
      | zero => cases enough
      | succ fuel => rw [List.flatMap_nil, List.nil_append, scanString, if_pos rfl]
  | cons character text ih =>
      cases fuel with
      | zero => cases enough
      | succ fuel =>
          rw [List.flatMap_cons, List.append_assoc, scanString_escape,
            ih (Nat.lt_of_succ_lt_succ enough)]
          rfl

/-- Every character has an escaped text. -/
theorem length_le_flatMap_escape (text : List Char) :
    text.length ≤ (text.flatMap fun character => (escape character).toList).length := by
  induction text with
  | nil => exact Nat.le_refl _
  | cons character text ih =>
      have positive : 0 < (escape character).toList.length := by
        rw [List.length_pos_iff, Ne, String.toList_eq_nil_iff, escape]
        split_ifs <;> simp
      rw [List.flatMap_cons, List.length_append, List.length_cons]
      omega

/-- A quoted text is its escaped characters between two quotes. -/
theorem toList_quoted (text : String) :
    (quoted text).toList =
      '"' :: (text.toList.flatMap (fun character => (escape character).toList) ++ ['"']) := by
  rw [quoted, String.toList_append, String.toList_append, String.toList_join, List.flatMap_map]
  rfl

end Strings

section Scalars

/-- A value ends before a comma, a line end or the end of the text. -/
def Ends (rest : List Char) : Prop := rest = [] ∨ rest.head? = some ',' ∨ rest.head? = some '\n'

variable {rest : List Char}

theorem Ends.head (ends : Ends rest) :
    ∀ character ∈ rest.head?, character = ',' ∨ character = '\n' := by
  intro character first
  rcases ends with rfl | comma | newline
  · cases first
  · rw [comma, Option.mem_some_iff] at first
    exact .inl first.symm
  · rw [newline, Option.mem_some_iff] at first
    exact .inr first.symm

theorem Ends.not_startsFloat (ends : Ends rest) : startsFloat rest = false := by
  cases rest with
  | nil => rfl
  | cons character rest =>
      rcases ends.head character rfl with rfl | rfl <;> cases rest with
      | nil => rfl
      | cons second rest => cases rest <;> rfl

/-- A positive number has no leading zero. -/
theorem head_toDigits {number : Nat} (positive : 0 < number) :
    ∃ digit digits, Nat.toDigits 10 number = digit :: digits ∧ digit ≠ '0' := by
  induction number using Nat.strongRecOn with
  | ind number ih =>
      by_cases single : number < 10
      · have digit : ∀ number < 10, 0 < number → number.digitChar ≠ '0' := by decide
        exact ⟨_, [], Nat.toDigits_of_lt_base single, digit number single positive⟩
      · obtain ⟨digit, digits, shape, other⟩ := ih (number / 10) (by omega) (by omega)
        refine ⟨digit, digits ++ [(number % 10).digitChar], ?_, other⟩
        rw [Nat.toDigits_of_base_le (by decide) (by omega), shape, List.cons_append]

/-- The scanner gives back the digits of a number. -/
theorem scanNatural_toDigits (number : Nat) (ends : Ends rest) :
    scanNatural (Nat.toDigits 10 number ++ rest) = .ok (number, rest) := by
  by_cases zero : number = 0
  · subst zero
    show scanNatural ('0' :: rest) = _
    rw [scanNatural, if_pos rfl]
  have digits : ∀ digit ∈ Nat.toDigits 10 number, digit.isDigit := fun digit member =>
    Nat.isDigit_of_mem_toDigits (by decide) (by decide) member
  have stop : rest.takeWhile Char.isDigit = [] ∧ rest.dropWhile Char.isDigit = rest := by
    cases rest with
    | nil => exact ⟨rfl, rfl⟩
    | cons character rest =>
        have plain : ¬character.isDigit := by
          rcases ends.head character rfl with rfl | rfl <;> decide
        exact ⟨List.takeWhile_cons_of_neg plain, List.dropWhile_cons_of_neg plain⟩
  have taken : (Nat.toDigits 10 number ++ rest).takeWhile Char.isDigit = Nat.toDigits 10 number := by
    rw [List.takeWhile_append_of_pos digits, stop.1, List.append_nil]
  have dropped : (Nat.toDigits 10 number ++ rest).dropWhile Char.isDigit = rest := by
    rw [List.dropWhile_append_of_pos digits, stop.2]
  obtain ⟨digit, others, shape, other⟩ := head_toDigits (Nat.pos_of_ne_zero zero)
  have first : digit.isDigit := digits digit (by rw [shape]; exact List.mem_cons_self)
  have read : scanNatural (Nat.toDigits 10 number ++ rest) =
      .ok (Nat.ofDigitChars 10 ((Nat.toDigits 10 number ++ rest).takeWhile Char.isDigit) 0,
        (Nat.toDigits 10 number ++ rest).dropWhile Char.isDigit) := by
    rw [shape, List.cons_append, scanNatural, if_neg other, if_pos first]
  rw [read, taken, dropped, Nat.ofDigitChars_ten_toDigits]

theorem head_digit (number : Nat) :
    ∃ digit digits, Nat.toDigits 10 number = digit :: digits ∧ digit.isDigit := by
  cases shape : Nat.toDigits 10 number with
  | nil => exact absurd shape Nat.toDigits_ne_nil
  | cons digit digits =>
      have inside : digit ∈ Nat.toDigits 10 number := by rw [shape]; exact List.mem_cons_self
      exact ⟨digit, digits, rfl, Nat.isDigit_of_mem_toDigits (by decide) (by decide) inside⟩

theorem toString_ofNat (number : Nat) :
    (toString (Int.ofNat number)).toList = Nat.toDigits 10 number := Nat.toList_repr

theorem toString_negSucc (number : Nat) :
    (toString (Int.negSucc number)).toList = '-' :: Nat.toDigits 10 (number + 1) := by
  show ("-" ++ (number + 1).repr).toList = _
  rw [String.toList_append, Nat.toList_repr]
  rfl

/-- The first character of a number is a digit or the sign. -/
theorem head_toString (value : Int) :
    ∃ character characters, (toString value).toList = character :: characters ∧
      (character = '-' ∨ character.isDigit) := by
  cases value with
  | ofNat number =>
      obtain ⟨digit, digits, shape, first⟩ := head_digit number
      exact ⟨digit, digits, (toString_ofNat number).trans shape, .inr first⟩
  | negSucc number => exact ⟨'-', _, toString_negSucc number, .inl rfl⟩

/-- The scanner gives back an integer. -/
theorem scanInteger_toString (value : Int) (ends : Ends rest) :
    scanInteger ((toString value).toList ++ rest) = .ok (value, rest) := by
  cases value with
  | ofNat number =>
      obtain ⟨digit, digits, shape, first⟩ := head_digit number
      have unsigned : (Nat.toDigits 10 number ++ rest).head? ≠ some '-' := by
        rw [shape, List.cons_append, List.head?_cons]
        intro sign
        rw [Option.some.inj sign] at first
        exact absurd first (by decide)
      rw [toString_ofNat, scanInteger, if_neg unsigned, scanNatural_toDigits number ends]
      simp only [ok_bind, pure_eq_ok, ends.not_startsFloat]
      rfl
  | negSucc number =>
      rw [toString_negSucc, List.cons_append, scanInteger, if_pos List.head?_cons, List.tail_cons,
        scanNatural_toDigits (number + 1) ends]
      simp only [ok_bind, pure_eq_ok, ends.not_startsFloat]
      rfl

/-- A number starts no constant. -/
theorem scanConstant_toString (value : Int) (ends : Ends rest) :
    scanConstant ((toString value).toList ++ rest) = .ok (.int value, rest) := by
  have read := scanInteger_toString value ends
  obtain ⟨character, characters, shape, first⟩ := head_toString value
  have other (constant : String) (head : Char) (tail : List Char)
      (letters : constant.toList = head :: tail) (sign : head ≠ '-') (digit : ¬head.isDigit) :
      ¬constant.toList.isPrefixOf (character :: (characters ++ rest)) := by
    rw [letters, List.isPrefixOf_iff_prefix, List.cons_prefix_cons]
    intro same
    rcases first with minus | number
    · exact sign (same.1.trans minus)
    · exact digit (by rw [same.1]; exact number)
  rw [shape, List.cons_append] at read ⊢
  rw [scanConstant, if_neg (other "null" 'n' _ rfl (by decide) (by decide)),
    if_neg (other "true" 't' _ rfl (by decide) (by decide)),
    if_neg (other "false" 'f' _ rfl (by decide) (by decide)), read]
  rfl

end Scalars


section Values

theorem skipBlanks_of_plain {character : Char} (plain : isBlank character = false)
    (text : List Char) : skipBlanks (character :: text) = character :: text := by
  rw [skipBlanks, List.dropWhile_cons_of_neg (by simp [plain])]

/-- A line end and an indent are blank. -/
theorem skipBlanks_newline (indent : Nat) (text : List Char) :
    skipBlanks ((newline indent).toList ++ text) = skipBlanks text := by
  have blanks : ∀ character ∈ (newline indent).toList, isBlank character := by
    intro character member
    rw [newline, String.toList_append, String.toList_ofList, String.toList_ofList,
      List.mem_append] at member
    rcases member with line | spaces
    · rw [List.mem_singleton.mp line]
      rfl
    · rw [List.eq_of_mem_replicate spaces]
      rfl
  rw [skipBlanks, List.dropWhile_append_of_pos blanks, skipBlanks]

/-- This is the text behind the first item of a list or an object. -/
def itemsTail (right : Char) (indent : Nat) : List String → List Char
  | [] => (newline indent).toList ++ [right]
  | item :: items =>
      ',' :: ((newline (indent + 2)).toList ++ (item.toList ++ itemsTail right indent items))

section Brackets
variable {left right : String} (first last : Char)

/-- This is the text behind the left bracket and the first line end. -/
def itemsText (right : Char) (indent : Nat) : List String → List Char
  | [] => []
  | item :: items => item.toList ++ itemsTail right indent items

theorem itemsTail_cons (right : Char) (indent : Nat) (item : String) (items : List String) :
    itemsTail right indent (item :: items) =
      ',' :: ((newline (indent + 2)).toList ++ itemsText right indent (item :: items)) := rfl

/-- The items of a list or an object stand on their own lines. -/
theorem toList_bracketed (opens : left.toList = [first]) (closes : right.toList = [last])
    (indent : Nat) (item : String) (items : List String) :
    (bracketed left right indent (item :: items)).toList =
      first :: ((newline (indent + 2)).toList ++ itemsText last indent (item :: items)) := by
  have joined (item : String) : (",".intercalate ((item :: items).map fun item =>
      newline (indent + 2) ++ item)).toList ++ ((newline indent).toList ++ [last]) =
      (newline (indent + 2)).toList ++ itemsText last indent (item :: items) := by
    induction items generalizing item with
    | nil =>
        rw [List.map_singleton, String.intercalate_singleton, String.toList_append,
          List.append_assoc, itemsText, itemsTail]
    | cons next items ih =>
        rw [List.map_cons, List.map_cons, String.intercalate_cons_cons, ← List.map_cons,
          String.toList_append, List.append_assoc, ih next, String.toList_append,
          String.toList_append, List.append_assoc, List.append_assoc]
        rfl
  rw [bracketed, if_neg (List.cons_ne_nil item items), String.toList_append, String.toList_append,
    String.toList_append, List.append_assoc, List.append_assoc, opens, closes, joined]
  rfl

theorem toList_bracketed_nil (opens : left.toList = [first]) (closes : right.toList = [last])
    (indent : Nat) : (bracketed left right indent []).toList = [first, last] := by
  rw [bracketed, if_pos rfl, String.toList_append, opens, closes]
  rfl

end Brackets

/-- A value before the tail of its items ends there. -/
theorem ends_itemsTail (right : Char) (indent : Nat) (items : List String) (rest : List Char) :
    Ends (itemsTail right indent items ++ rest) := by
  cases items with
  | nil =>
      apply Or.inr (Or.inr _)
      rw [itemsTail, newline, String.toList_append]
      rfl
  | cons item items => exact .inr (.inl rfl)

/-- These characters start no value. -/
def NoStart (character : Char) : Prop :=
  isBlank character ∨ character = ']' ∨ character = Char.ofNat 0xFEFF

instance (character : Char) : Decidable (NoStart character) := by
  unfold NoStart
  infer_instance

/-- The text of a value starts with a character that can start a value. -/
theorem head_dumps (indent : Nat) (value : Value) :
    ∃ character characters, (dumps indent value).toList = character :: characters ∧
      ¬NoStart character := by
  cases value with
  | scalar value =>
      rw [dumps]
      cases value with
      | null => exact ⟨'n', ['u', 'l', 'l'], rfl, by decide⟩
      | bool value =>
          cases value with
          | false => exact ⟨'f', ['a', 'l', 's', 'e'], rfl, by decide⟩
          | true => exact ⟨'t', ['r', 'u', 'e'], rfl, by decide⟩
      | str value => exact ⟨'"', _, toList_quoted value, by decide⟩
      | int value =>
          obtain ⟨character, characters, shape, first⟩ := head_toString value
          refine ⟨character, characters, shape, ?_⟩
          rcases first with rfl | digit
          · decide
          · have plain (other : Char) (letter : ¬other.isDigit) : character ≠ other := by
              rintro rfl
              exact letter digit
            simp [NoStart, isBlank, plain ' ' (by decide), plain '\t' (by decide),
              plain '\n' (by decide), plain '\r' (by decide), plain ']' (by decide),
              plain (Char.ofNat 0xFEFF) (by decide)]
  | list items =>
      rw [dumps]
      cases items with
      | nil => exact ⟨'[', _, toList_bracketed_nil '[' ']' rfl rfl indent, by decide⟩
      | cons item items =>
          exact ⟨'[', _, toList_bracketed '[' ']' rfl rfl indent _ _, by decide⟩
  | object entries =>
      rw [dumps]
      cases entries with
      | nil => exact ⟨'\x7b', _, toList_bracketed_nil '\x7b' '\x7d' rfl rfl indent, by decide⟩
      | cons entry entries =>
          rw [dumpsEntries]
          exact ⟨'\x7b', _, toList_bracketed '\x7b' '\x7d' rfl rfl indent _ _, by decide⟩

/-- The text of a value has no blanks in front. -/
theorem skipBlanks_dumps (indent : Nat) (value : Value) (text : List Char) :
    skipBlanks ((dumps indent value).toList ++ text) = (dumps indent value).toList ++ text := by
  obtain ⟨character, characters, shape, starts⟩ := head_dumps indent value
  rw [shape, List.cons_append, skipBlanks_of_plain]
  rw [NoStart, not_or, Bool.not_eq_true] at starts
  exact starts.1

/-- The scanner inverts the encoder on the value, whatever text follows it. -/
def ScansValue (indent : Nat) (value : Value) : Prop :=
  ∀ fuel rest, Ends rest → 2 * ((dumps indent value).toList ++ rest).length < fuel →
    scanValue fuel ((dumps indent value).toList ++ rest) = .ok (value, rest)

/-- The scanner inverts the encoder on the items of a list. -/
def ScansItems (indent : Nat) (items : List Value) : Prop :=
  ∀ fuel rest,
    2 * (itemsText ']' indent (dumpsItems (indent + 2) items) ++ rest).length + 1 < fuel →
    scanItems fuel (itemsText ']' indent (dumpsItems (indent + 2) items) ++ rest) = .ok (items, rest)

/-- The scanner inverts the encoder on the entries of an object. -/
def ScansEntries (indent : Nat) (entries : List (String × Value)) : Prop :=
  ∀ fuel rest,
    2 * (itemsText '\x7d' indent (dumpsEntries (indent + 2) entries) ++ rest).length < fuel →
    scanMembers fuel (itemsText '\x7d' indent (dumpsEntries (indent + 2) entries) ++ rest) =
      .ok (entries, rest)

section Steps
variable {indent : Nat}

/-- The right bracket stands on its own line. -/
theorem skipBlanks_itemsTail_nil {right : Char} (plain : isBlank right = false) (rest : List Char) :
    skipBlanks (itemsTail right indent [] ++ rest) = right :: rest := by
  rw [itemsTail, List.append_assoc, skipBlanks_newline, List.singleton_append,
    skipBlanks_of_plain plain]

/-- A comma stands behind every item but the last one. -/
theorem skipBlanks_itemsTail_cons (right : Char) (item : String) (items : List String)
    (rest : List Char) :
    skipBlanks (itemsTail right indent (item :: items) ++ rest) =
      ',' :: ((newline (indent + 2)).toList ++ (itemsText right indent (item :: items) ++ rest)) := by
  rw [itemsTail_cons, List.cons_append, skipBlanks_of_plain rfl, List.append_assoc]

/-- The scanner reads one item and continues behind it. -/
theorem scansItems_cons {item : Value} {items : List Value} (scans : ScansValue (indent + 2) item)
    (others : items ≠ [] → ScansItems indent items) : ScansItems indent (item :: items) := by
  intro fuel rest enough
  cases fuel with
  | zero => cases enough
  | succ fuel =>
      rw [dumpsItems, itemsText, List.append_assoc] at enough ⊢
      have read := scans fuel _ (ends_itemsTail ']' indent (dumpsItems (indent + 2) items) rest)
        (Nat.lt_of_succ_lt_succ enough)
      rw [scanItems, read]
      simp only [ok_bind]
      cases items with
      | nil =>
          rw [dumpsItems, skipBlanks_itemsTail_nil rfl]
          rfl
      | cons next items =>
          have behind := others (List.cons_ne_nil next items) fuel rest
          rw [dumpsItems] at behind enough ⊢
          rw [skipBlanks_itemsTail_cons]
          simp only [skipBlanks_newline]
          rw [itemsText, List.append_assoc, skipBlanks_dumps]
          rw [itemsText, List.append_assoc] at behind
          rw [behind]
          · rfl
          · rw [itemsTail_cons, itemsText] at enough
            simp only [List.length_append, List.length_cons] at enough ⊢
            omega

/-- The scanner reads one entry and continues behind it. -/
theorem scansEntries_cons {key : String} {value : Value} {entries : List (String × Value)}
    (scans : ScansValue (indent + 2) value)
    (others : entries ≠ [] → ScansEntries indent entries) :
    ScansEntries indent ((key, value) :: entries) := by
  intro fuel rest enough
  cases fuel with
  | zero => cases enough
  | succ fuel =>
      let tail := itemsTail '\x7d' indent (dumpsEntries (indent + 2) entries) ++ rest
      have shape : itemsText '\x7d' indent (dumpsEntries (indent + 2) ((key, value) :: entries)) ++
          rest = '"' :: (key.toList.flatMap (fun character => (escape character).toList) ++
            '"' :: ':' :: ' ' :: ((dumps (indent + 2) value).toList ++ tail)) := by
        rw [dumpsEntries, itemsText, String.toList_append, String.toList_append, toList_quoted]
        simp [tail]
      rw [shape] at enough ⊢
      have keyLength := length_le_flatMap_escape key.toList
      simp only [List.length_cons, List.length_append] at enough
      have string := scanString_quoted key.toList
        (':' :: ' ' :: ((dumps (indent + 2) value).toList ++ tail))
        (show key.toList.length < fuel by omega)
      have read := scans fuel tail
        (ends_itemsTail '\x7d' indent (dumpsEntries (indent + 2) entries) rest)
        (by rw [List.length_append]; omega)
      have blank : skipBlanks (' ' :: ((dumps (indent + 2) value).toList ++ tail)) =
          (dumps (indent + 2) value).toList ++ tail := by
        conv => rhs; rw [← skipBlanks_dumps _ value tail]
        rfl
      rw [scanMembers, if_pos rfl, string]
      simp only [ok_bind, skipBlanks_of_plain (show isBlank ':' = false from rfl), blank, read,
        String.ofList_toList]
      cases entries with
      | nil =>
          simp only [tail]
          rw [dumpsEntries, skipBlanks_itemsTail_nil rfl]
          rfl
      | cons entry entries =>
          have behind := others (List.cons_ne_nil entry entries) fuel rest
          simp only [tail] at enough ⊢
          rw [dumpsEntries] at behind enough ⊢
          rw [skipBlanks_itemsTail_cons]
          rw [itemsTail_cons] at enough
          simp only [List.length_append, List.length_cons] at enough behind
          simp only [skipBlanks_newline]
          have quote : skipBlanks (itemsText '\x7d' indent ((quoted entry.1 ++ ": " ++
              dumps (indent + 2) entry.2) :: dumpsEntries (indent + 2) entries) ++ rest) =
              itemsText '\x7d' indent ((quoted entry.1 ++ ": " ++
                dumps (indent + 2) entry.2) :: dumpsEntries (indent + 2) entries) ++ rest := by
            rw [itemsText, String.toList_append, String.toList_append, toList_quoted]
            rfl
          rw [quote, behind (by omega)]
          rfl

end Steps

mutual

/-- Every object in the value has distinct keys. -/
def Distinct : Value → Prop
  | .scalar _ => True
  | .list items => DistinctItems items
  | .object entries => (entries.map Prod.fst).Nodup ∧ DistinctEntries entries

def DistinctItems : List Value → Prop
  | [] => True
  | item :: items => Distinct item ∧ DistinctItems items

def DistinctEntries : List (String × Value) → Prop
  | [] => True
  | (_, value) :: entries => Distinct value ∧ DistinctEntries entries

end

/-- The text of a value that is a scalar is read back. -/
theorem scansValue_scalar (indent : Nat) (value : Scalar) : ScansValue indent (.scalar value) := by
  intro fuel rest ends enough
  cases fuel with
  | zero => cases enough
  | succ fuel =>
      rw [dumps] at enough ⊢
      cases value with
      | null => rfl
      | bool value => cases value <;> rfl
      | int value =>
          have read := scanConstant_toString value ends
          obtain ⟨character, characters, shape, first⟩ := head_toString value
          rw [dumpsScalar, shape, List.cons_append] at enough ⊢
          rw [shape, List.cons_append] at read
          have plain (other : Char) (letter : other ≠ '-' ∧ ¬other.isDigit) : character ≠ other := by
            rintro rfl
            exact first.elim letter.1 letter.2
          rw [scanValue, if_neg (plain '"' (by decide)), if_neg (plain '[' (by decide)),
            if_neg (plain '\x7b' (by decide)), read]
          rfl
      | str value =>
          rw [dumpsScalar, toList_quoted, List.cons_append, List.append_assoc] at enough ⊢
          have characters := length_le_flatMap_escape value.toList
          rw [scanValue, if_pos rfl, List.singleton_append, scanString_quoted value.toList rest]
          · simp [Value.str]
          · simp only [List.length_cons, List.length_append] at enough
            omega

section Containers
variable {indent : Nat}

/-- The text of a list is read back when its items are. -/
theorem scansValue_list {items : List Value} (scans : items ≠ [] → ScansItems indent items) :
    ScansValue indent (.list items) := by
  intro fuel rest _ enough
  cases fuel with
  | zero => cases enough
  | succ fuel =>
      rw [dumps] at enough ⊢
      cases items with
      | nil =>
          rw [dumpsItems, toList_bracketed_nil '[' ']' rfl rfl]
          rfl
      | cons item items =>
          have read := scans (List.cons_ne_nil item items) fuel rest
          rw [dumpsItems] at enough read ⊢
          rw [toList_bracketed '[' ']' rfl rfl, List.cons_append, List.append_assoc] at enough ⊢
          obtain ⟨character, characters, shape, starts⟩ := head_dumps (indent + 2) item
          have start : skipBlanks (itemsText ']' indent (dumps (indent + 2) item ::
              dumpsItems (indent + 2) items) ++ rest) = itemsText ']' indent
                (dumps (indent + 2) item :: dumpsItems (indent + 2) items) ++ rest := by
            rw [itemsText, List.append_assoc, skipBlanks_dumps]
          have unclosed : (itemsText ']' indent (dumps (indent + 2) item ::
              dumpsItems (indent + 2) items) ++ rest).head? ≠ some ']' := by
            rw [itemsText, shape, List.cons_append, List.cons_append, List.head?_cons]
            exact fun same => starts (.inr (.inl (Option.some.inj same)))
          simp only [List.length_cons, List.length_append] at enough read
          rw [scanValue, if_neg (by decide), if_pos rfl, skipBlanks_newline, start, if_neg unclosed,
            read (by omega)]
          rfl

/-- The text of an object is read back when its entries are. -/
theorem scansValue_object {entries : List (String × Value)}
    (distinct : (entries.map Prod.fst).Nodup)
    (scans : entries ≠ [] → ScansEntries indent entries) :
    ScansValue indent (.object entries) := by
  intro fuel rest _ enough
  cases fuel with
  | zero => cases enough
  | succ fuel =>
      rw [dumps] at enough ⊢
      cases entries with
      | nil =>
          rw [dumpsEntries, toList_bracketed_nil '\x7b' '\x7d' rfl rfl]
          rfl
      | cons entry entries =>
          obtain ⟨key, value⟩ := entry
          have read := scans (List.cons_ne_nil (key, value) entries) fuel rest
          rw [dumpsEntries] at enough read ⊢
          rw [toList_bracketed '\x7b' '\x7d' rfl rfl, List.cons_append, List.append_assoc] at enough ⊢
          obtain ⟨characters, shape⟩ : ∃ characters, itemsText '\x7d' indent ((quoted key ++ ": " ++
              dumps (indent + 2) value) :: dumpsEntries (indent + 2) entries) ++ rest =
              '"' :: characters := by
            rw [itemsText, String.toList_append, String.toList_append, toList_quoted]
            exact ⟨_, rfl⟩
          have start := skipBlanks_of_plain (show isBlank '"' = false from rfl) characters
          rw [shape] at enough read ⊢
          simp only [List.length_cons, List.length_append] at enough read
          rw [scanValue, if_neg (by decide), if_neg (by decide), if_pos rfl, skipBlanks_newline, start,
            if_neg (by rw [List.head?_cons]; decide), read (by omega)]
          simp only [ok_bind, Dict.entries_ofEntries distinct]
          rfl

end Containers

mutual

/-- The scanner inverts the encoder on every value whose objects have distinct keys. -/
theorem scansValue (indent : Nat) (value : Value) (distinct : Distinct value) :
    ScansValue indent value := by
  cases value with
  | scalar value => exact scansValue_scalar indent value
  | list items =>
      rw [Distinct] at distinct
      exact scansValue_list (scansItems indent items distinct)
  | object entries =>
      rw [Distinct] at distinct
      exact scansValue_object distinct.1 (scansEntries indent entries distinct.2)

theorem scansItems (indent : Nat) (items : List Value) (distinct : DistinctItems items)
    (nonempty : items ≠ []) : ScansItems indent items := by
  cases items with
  | nil => exact absurd rfl nonempty
  | cons item items =>
      rw [DistinctItems] at distinct
      exact scansItems_cons (scansValue (indent + 2) item distinct.1)
        (scansItems indent items distinct.2)

theorem scansEntries (indent : Nat) (entries : List (String × Value))
    (distinct : DistinctEntries entries) (nonempty : entries ≠ []) :
    ScansEntries indent entries := by
  cases entries with
  | nil => exact absurd rfl nonempty
  | cons entry entries =>
      obtain ⟨key, value⟩ := entry
      rw [DistinctEntries] at distinct
      exact scansEntries_cons (scansValue (indent + 2) value distinct.1)
        (scansEntries indent entries distinct.2)

end

end Values

/-- Reading the JSON form of a value gives the value. -/
theorem loads_dumps {value : Value} (distinct : Distinct value) :
    loads (dumps 0 value) = .ok value := by
  obtain ⟨character, characters, shape, starts⟩ := head_dumps 0 value
  have start := skipBlanks_dumps 0 value []
  have read := scansValue 0 value distinct (2 * (dumps 0 value).toList.length + 1) [] (.inl rfl)
    (by rw [List.append_nil]; omega)
  rw [List.append_nil] at start read
  rw [loads, if_neg, start, read]
  · rfl
  · rw [shape, List.head?_cons]
    exact fun same => starts (.inr (.inr (Option.some.inj same)))

section Lines

theorem return_not_mem_escape (character : Char) : '\r' ∉ (escape character).toList := by
  rw [escape]
  split_ifs with _ _ _ carriage
  all_goals first | decide | skip
  · rw [String.toList_append, List.mem_append, not_or]
    exact ⟨by decide, fun member => absurd (mem_formatHex member) (by decide)⟩
  · rw [Char.toString, String.toList_singleton, List.mem_singleton]
    exact fun same => carriage same.symm

theorem return_not_mem_quoted (text : String) : '\r' ∉ (quoted text).toList := by
  rw [toList_quoted]
  simp only [List.mem_cons, List.mem_append, List.mem_flatMap, not_or]
  refine ⟨by decide, ?_, by decide⟩
  intro inside
  obtain ⟨character, _, escaped⟩ := inside
  exact return_not_mem_escape character escaped

theorem return_not_mem_newline (indent : Nat) : '\r' ∉ (newline indent).toList := by
  rw [newline, String.toList_append, String.toList_ofList, String.toList_ofList, List.mem_append,
    List.mem_replicate]
  exact fun member => member.elim (by decide) fun spaces => absurd spaces.2 (by decide)

theorem return_not_mem_dumpsScalar (value : Scalar) : '\r' ∉ (dumpsScalar value).toList := by
  cases value with
  | null => decide
  | bool value => cases value <;> decide
  | str value => exact return_not_mem_quoted value
  | int value =>
      have digits {number : Nat} (member : '\r' ∈ Nat.toDigits 10 number) : False :=
        absurd (Nat.isDigit_of_mem_toDigits (by decide) (by decide) member) (by decide)
      cases value with
      | ofNat number =>
          rw [dumpsScalar, toString_ofNat]
          exact digits
      | negSucc number =>
          rw [dumpsScalar, toString_negSucc, List.mem_cons]
          exact fun member => member.elim (by decide) digits

/-- Brackets add no carriage return to their items. -/
theorem return_not_mem_bracketed {left right : String} {first last : Char} {items : List String}
    (opens : left.toList = [first]) (closes : right.toList = [last])
    (plain : '\r' ∉ [first, last]) (indent : Nat) (clean : ∀ item ∈ items, '\r' ∉ item.toList) :
    '\r' ∉ (bracketed left right indent items).toList := by
  rw [List.mem_cons, List.mem_singleton, not_or] at plain
  have tail (items : List String) (clean : ∀ item ∈ items, '\r' ∉ item.toList) :
      '\r' ∉ itemsTail last indent items := by
    induction items with
    | nil =>
        rw [itemsTail, List.mem_append, List.mem_singleton, not_or]
        exact ⟨return_not_mem_newline indent, plain.2⟩
    | cons item items ih =>
        rw [itemsTail, List.mem_cons, List.mem_append, List.mem_append, not_or, not_or, not_or]
        exact ⟨by decide, return_not_mem_newline _, clean item List.mem_cons_self,
          ih fun other member => clean other (List.mem_cons_of_mem _ member)⟩
  cases items with
  | nil =>
      rw [toList_bracketed_nil first last opens closes, List.mem_cons, List.mem_singleton, not_or]
      exact plain
  | cons item items =>
      rw [toList_bracketed first last opens closes, itemsText, List.mem_cons, List.mem_append,
        List.mem_append, not_or, not_or, not_or]
      exact ⟨plain.1, return_not_mem_newline _, clean item List.mem_cons_self,
        tail items fun other member => clean other (List.mem_cons_of_mem _ member)⟩

mutual

/-- The encoder writes no carriage return, so a text file keeps its text. -/
theorem return_not_mem_dumps (indent : Nat) (value : Value) :
    '\r' ∉ (dumps indent value).toList := by
  cases value with
  | scalar value =>
      rw [dumps]
      exact return_not_mem_dumpsScalar value
  | list items =>
      rw [dumps]
      have opens : "[".toList = ['['] := rfl
      exact return_not_mem_bracketed opens rfl (by decide) indent
        (return_not_mem_dumpsItems (indent + 2) items)
  | object entries =>
      rw [dumps]
      exact return_not_mem_bracketed rfl rfl (by decide) indent
        (return_not_mem_dumpsEntries (indent + 2) entries)

theorem return_not_mem_dumpsItems (indent : Nat) (items : List Value) :
    ∀ item ∈ dumpsItems indent items, '\r' ∉ item.toList := by
  cases items with
  | nil =>
      intro item member
      cases member
  | cons value items =>
      intro item member
      rw [dumpsItems] at member
      rcases List.mem_cons.mp member with rfl | behind
      · exact return_not_mem_dumps indent value
      · exact return_not_mem_dumpsItems indent items item behind

theorem return_not_mem_dumpsEntries (indent : Nat) (entries : List (String × Value)) :
    ∀ item ∈ dumpsEntries indent entries, '\r' ∉ item.toList := by
  cases entries with
  | nil =>
      intro item member
      cases member
  | cons entry entries =>
      obtain ⟨key, value⟩ := entry
      intro item member
      rw [dumpsEntries] at member
      rcases List.mem_cons.mp member with rfl | behind
      · rw [String.toList_append, String.toList_append, List.mem_append, List.mem_append, not_or,
          not_or]
        exact ⟨⟨return_not_mem_quoted key, by decide⟩, return_not_mem_dumps indent value⟩
      · exact return_not_mem_dumpsEntries indent entries item behind

end

end Lines

end FaultInject.Python.Json
