import FaultInject.Python.Bytes

namespace FaultInject.Python

/-- This is `range(start, stop, step)` with a positive step. -/
def range (start stop step : Nat) : List Nat :=
  List.range' start ((stop - start + step - 1) / step) step

/-- A range with room starts at its first bound. -/
theorem range_of_lt {start stop step : Nat} (room : start < stop) (positive : 0 < step) :
    range start stop step = start :: range (start + step) stop step := by
  have count : (stop - start + step - 1) / step = (stop - (start + step) + step - 1) / step + 1 := by
    by_cases last : stop - start ≤ step
    · rw [show stop - (start + step) = 0 by omega, Nat.zero_add,
        Nat.div_eq_of_lt (by omega : step - 1 < step)]
      have bounds : step ≤ stop - start + step - 1 ∧ stop - start + step - 1 < step * 2 := by omega
      exact Nat.div_eq_of_lt_le (by omega) (by omega)
    · rw [show stop - start + step - 1 = (stop - (start + step) + step - 1) + step by omega,
        Nat.add_div_right _ positive]
  rw [range, count, List.range'_succ]
  rfl

/-- A range without room is empty. -/
theorem range_of_le {start stop step : Nat} (full : stop ≤ start) (positive : 0 < step) :
    range start stop step = [] := by
  rw [range, show stop - start = 0 by omega, Nat.zero_add,
    Nat.div_eq_of_lt (by omega : step - 1 < step)]
  rfl

theorem range_one (start width : Nat) : range start (start + width) 1 = List.range' start width := by
  rw [range, Nat.add_sub_cancel_left, Nat.add_sub_cancel, Nat.div_one]

/-- A member of a range with step one lies between its bounds. -/
theorem mem_range_one {start stop index : Nat} :
    index ∈ range start stop 1 ↔ start ≤ index ∧ index < stop := by
  rw [range, List.mem_range'_1, Nat.add_sub_cancel, Nat.div_one]
  omega

/-- This is the format `{value:0{width}d}`. The sign counts as a digit. -/
def formatDecimal (width : Nat) : Int → String
  | .ofNat value => String.ofList ((Nat.toDigits 10 value).leftpad width '0')
  | .negSucc value => "-" ++ String.ofList ((Nat.toDigits 10 (value + 1)).leftpad (width - 1) '0')

/-- Padding with zeros does not change the number. -/
theorem leftpad_toDigits_inj {width first second : Nat}
    (same : (Nat.toDigits 10 first).leftpad width '0' = (Nat.toDigits 10 second).leftpad width '0') :
    first = second := by
  have value (number : Nat) :
      Nat.ofDigitChars 10 ((Nat.toDigits 10 number).leftpad width '0') 0 = number := by
    rw [List.leftpad, Nat.ofDigitChars_append, Nat.ofDigitChars_replicate_zero, Nat.mul_zero,
      Nat.ofDigitChars_ten_toDigits]
  rw [← value first, same, value second]

/-- A padded number consists of digits. -/
theorem isDigit_of_mem_leftpad {width number : Nat} {character : Char}
    (member : character ∈ (Nat.toDigits 10 number).leftpad width '0') : character.isDigit := by
  rw [List.leftpad, List.mem_append, List.mem_replicate] at member
  rcases member with ⟨_, rfl⟩ | inside
  · rfl
  · exact Nat.isDigit_of_mem_toDigits (by decide) (by decide) inside

/-- A formatted number has only digits and the sign. -/
theorem mem_formatDecimal {width : Nat} {value : Int} {character : Char}
    (member : character ∈ (formatDecimal width value).toList) :
    character = '-' ∨ character.isDigit := by
  cases value with
  | ofNat number =>
      rw [formatDecimal, String.toList_ofList] at member
      exact .inr (isDigit_of_mem_leftpad member)
  | negSucc number =>
      rw [formatDecimal, String.toList_append, String.toList_ofList, List.mem_append] at member
      rcases member with sign | inside
      · exact .inl (by simpa using sign)
      · rw [String.toList_ofList] at inside
        exact .inr (isDigit_of_mem_leftpad inside)

/-- Different numbers have different formats, of any width. -/
theorem formatDecimal_inj {width : Nat} {first second : Int}
    (same : formatDecimal width first = formatDecimal width second) : first = second := by
  have signed {number other : Nat} (equal : (Nat.toDigits 10 number).leftpad width '0' =
      '-' :: (Nat.toDigits 10 other).leftpad (width - 1) '0') : False := by
    have digit : ('-' : Char).isDigit :=
      isDigit_of_mem_leftpad (by rw [equal]; exact List.mem_cons_self)
    exact absurd digit (by decide)
  have texts := congrArg String.toList same
  cases first with
  | ofNat first =>
      cases second with
      | ofNat second =>
          simp only [formatDecimal, String.toList_ofList] at texts
          rw [leftpad_toDigits_inj texts]
      | negSucc second =>
          simp only [formatDecimal, String.toList_append, String.toList_ofList] at texts
          exact (signed texts).elim
  | negSucc first =>
      cases second with
      | ofNat second =>
          simp only [formatDecimal, String.toList_append, String.toList_ofList] at texts
          exact (signed texts.symm).elim
      | negSucc second =>
          simp only [formatDecimal, String.toList_append, String.toList_ofList] at texts
          have numbers := leftpad_toDigits_inj (List.append_cancel_left texts)
          rw [Nat.succ.inj numbers]

/-- This is the format `{value:0{width}x}` of a nonnegative number. -/
def formatHex (width value : Nat) : String :=
  String.ofList ((Nat.toDigits 16 value).leftpad width '0')

/-- This is `text.split(separator)` for a separator of one character. -/
def split (text : String) (separator : Char) : List String :=
  (text.toList.splitOn separator).map String.ofList

/-- This is `separator.join(parts)` for a separator of one character. -/
def join (separator : Char) (parts : List String) : String :=
  String.ofList ([separator].intercalate (parts.map String.toList))

/-- These are the texts before and behind the first occurrence of the separator. -/
def splitFirst (separator : List Char) : List Char → Option (List Char × List Char)
  | [] => if separator = [] then some ([], []) else none
  | character :: text =>
      if separator.isPrefixOf (character :: text) then
        some ([], (character :: text).drop separator.length)
      else (splitFirst separator text).map fun parts => (character :: parts.1, parts.2)

/-- A text without the first character of the separator stands before its first occurrence. -/
theorem splitFirst_append {first : Char} {separator text : List Char} (rest : List Char)
    (clean : first ∉ text) :
    splitFirst (first :: separator) (text ++ (first :: separator ++ rest)) = some (text, rest) := by
  induction text with
  | nil =>
      rw [List.nil_append, List.cons_append, splitFirst, if_pos]
      · rw [← List.cons_append, List.drop_left]
      · rw [← List.cons_append, List.isPrefixOf_iff_prefix]
        exact List.prefix_append _ _
  | cons character text ih =>
      rw [List.mem_cons, not_or] at clean
      rw [List.cons_append, splitFirst, if_neg, ih clean.2]
      · rfl
      · rw [List.isPrefixOf_iff_prefix, List.cons_prefix_cons]
        exact fun same => clean.1 same.1

/-- A separator that the first texts do not have determines both parts. -/
theorem append_cons_inj {A : Type} {separator : A} {first second rest other : List A}
    (clean : separator ∉ first) (plain : separator ∉ second)
    (same : first ++ separator :: rest = second ++ separator :: other) :
    first = second ∧ rest = other := by
  induction first generalizing second with
  | nil =>
      cases second with
      | nil => exact ⟨rfl, List.cons.inj same |>.2⟩
      | cons character second =>
          rw [(List.cons.inj same).1] at plain
          exact absurd List.mem_cons_self plain
  | cons character first ih =>
      cases second with
      | nil =>
          rw [← (List.cons.inj same).1] at clean
          exact absurd List.mem_cons_self clean
      | cons next second =>
          obtain ⟨head, tail⟩ := List.cons.inj same
          rw [List.mem_cons, not_or] at clean plain
          obtain ⟨texts, rests⟩ := ih clean.2 plain.2 tail
          exact ⟨by rw [head, texts], rests⟩

/-- Splitting gives back the joined parts. -/
theorem split_join {separator : Char} {parts : List String} (nonempty : parts ≠ [])
    (free : ∀ part ∈ parts, separator ∉ part.toList) :
    split (join separator parts) separator = parts := by
  rw [split, join, String.toList_ofList, List.splitOn_intercalate, List.map_map]
  · exact List.map_id'' (fun part => String.ofList_toList) parts
  · intro characters member
    obtain ⟨part, inside, rfl⟩ := List.mem_map.mp member
    exact free part inside
  · simpa using nonempty

/-- Lists of nonempty parts without the separator with one joined text are equal. -/
theorem join_inj {separator : Char} {first second : List String}
    (firstParts : ∀ part ∈ first, part ≠ "" ∧ separator ∉ part.toList)
    (secondParts : ∀ part ∈ second, part ≠ "" ∧ separator ∉ part.toList)
    (same : join separator first = join separator second) : first = second := by
  -- A nonempty list splits into its parts, and its text is not the empty one.
  have filled {parts : List String} (clean : ∀ part ∈ parts, part ≠ "" ∧ separator ∉ part.toList)
      (empty : join separator parts = join separator []) : parts = [] := by
    by_contra nonempty
    have back := split_join nonempty fun part member => (clean part member).2
    rw [empty] at back
    have single : split (join separator []) separator = [""] := rfl
    rw [single] at back
    exact (clean "" (by rw [← back]; exact List.mem_cons_self)).1 rfl
  by_cases none : first = []
  · rw [none] at same
    rw [none, filled secondParts same.symm]
  · have some : second ≠ [] := by
      rintro rfl
      exact none (filled firstParts same)
    rw [← split_join none fun part member => (firstParts part member).2, same,
      split_join some fun part member => (secondParts part member).2]

/-- Joining gives back the split text. -/
theorem join_split (text : String) (separator : Char) :
    join separator (split text separator) = text := by
  rw [split, join, List.map_map]
  have same : (String.toList ∘ String.ofList) = id := funext fun _ => String.toList_ofList
  rw [same, List.map_id, List.intercalate_splitOn, String.ofList_toList]

/-- A text without the separator is its only part. -/
theorem split_singleton {text : String} {separator : Char} (clean : separator ∉ text.toList) :
    split text separator = [text] := by
  have whole : text.toList.splitOnP (· == separator) = [text.toList] :=
    List.splitOnP_eq_singleton fun character member =>
      beq_eq_false_iff_ne.mpr fun same => clean (same ▸ member)
  rw [split, List.splitOn]
  exact (congrArg (List.map String.ofList) whole).trans (by rw [List.map_singleton, String.ofList_toList])

/-- A last part without the separator is split off as it is. -/
theorem split_append {separator : Char} (first : String) {last : String}
    (clean : separator ∉ last.toList) :
    split (first ++ String.ofList [separator] ++ last) separator = split first separator ++ [last] := by
  rw [split, String.toList_append, String.toList_append, String.toList_ofList, List.append_assoc,
    List.singleton_append, List.splitOn,
    @List.splitOnP_append_cons _ (· == separator) _ _ separator (beq_self_eq_true separator),
    List.map_append]
  exact congrArg (split first separator ++ ·) (split_singleton clean)

/-- No part of a split text has the separator. -/
theorem notMem_of_mem_split {text part : String} {separator : Char}
    (among : part ∈ split text separator) : separator ∉ part.toList := by
  obtain ⟨characters, inside, rfl⟩ := List.mem_map.mp among
  rw [String.toList_ofList]
  clear among
  generalize text.toList = remaining at inside
  induction remaining generalizing characters with
  | nil =>
      rw [List.splitOn_nil, List.mem_singleton] at inside
      rw [inside]
      exact List.not_mem_nil
  | cons first remaining ih =>
      rw [List.splitOn_cons_eq_if_modifyHead] at inside
      split at inside
      · rcases List.mem_cons.mp inside with rfl | behind
        · exact List.not_mem_nil
        · exact ih _ behind
      · rename_i differs
        cases parts : remaining.splitOn separator with
        | nil => exact absurd parts (List.splitOn_ne_nil separator remaining)
        | cons head others =>
            rw [parts, List.modifyHead_cons] at inside
            rcases List.mem_cons.mp inside with rfl | behind
            · have free := ih head (by rw [parts]; exact List.mem_cons_self)
              have other : separator ≠ first := by
                rintro rfl
                exact differs (by rw [beq_self_eq_true])
              simpa [other] using free
            · exact ih _ (by rw [parts]; exact List.mem_cons_of_mem _ behind)

/-- A character of the joined text is the separator or stands in a part. -/
theorem mem_join {separator character : Char} {parts : List String}
    (member : character ∈ (join separator parts).toList) :
    character = separator ∨ ∃ part ∈ parts, character ∈ part.toList := by
  rw [join, String.toList_ofList] at member
  induction parts with
  | nil => cases member
  | cons part parts ih =>
      rw [List.map_cons] at member
      by_cases last : parts.map String.toList = []
      · rw [last, List.intercalate_singleton] at member
        exact .inr ⟨part, List.mem_cons_self, member⟩
      · rw [List.intercalate_cons_of_ne_nil last, List.mem_append, List.mem_append,
          List.mem_singleton] at member
        rcases member with (inside | same) | behind
        · exact .inr ⟨part, List.mem_cons_self, inside⟩
        · exact .inl same
        · rcases ih behind with same | ⟨other, among, inside⟩
          · exact .inl same
          · exact .inr ⟨other, List.mem_cons_of_mem part among, inside⟩

/-- Every character of a part stands in the joined text. -/
theorem mem_join_of_mem {separator character : Char} {parts : List String} {part : String}
    (among : part ∈ parts) (inside : character ∈ part.toList) :
    character ∈ (join separator parts).toList := by
  rw [join, String.toList_ofList]
  induction parts with
  | nil => cases among
  | cons first parts ih =>
      rw [List.map_cons]
      by_cases last : parts.map String.toList = []
      · have empty := List.map_eq_nil_iff.mp last
        subst empty
        rw [List.mem_singleton.mp among] at inside
        rwa [last, List.intercalate_singleton]
      · rw [List.intercalate_cons_of_ne_nil last, List.mem_append, List.mem_append]
        rcases List.mem_cons.mp among with rfl | behind
        · exact .inl (.inl inside)
        · exact .inr (ih behind)

/-- Joining fewer parts gives no longer text. -/
theorem length_join_le {separator : Char} {first second : List String}
    (sublist : first.Sublist second) :
    (join separator first).toList.length ≤ (join separator second).toList.length := by
  simp only [join, String.toList_ofList]
  induction sublist with
  | slnil => exact Nat.le_refl _
  | @cons first second part _ ih =>
      rw [List.map_cons]
      by_cases last : second.map String.toList = []
      · rw [last] at ih ⊢
        exact Nat.le_trans ih (Nat.zero_le _)
      · rw [List.intercalate_cons_of_ne_nil last, List.length_append]
        omega
  | @cons_cons first second part inner ih =>
      rw [List.map_cons, List.map_cons]
      by_cases empty : first.map String.toList = []
      · rw [empty, List.intercalate_singleton]
        by_cases last : second.map String.toList = []
        · simp only [last, List.intercalate_singleton, Nat.le_refl]
        · rw [List.intercalate_cons_of_ne_nil last, List.length_append, List.length_append]
          omega
      · have more : second.map String.toList ≠ [] := by
          intro none
          have gone := List.map_eq_nil_iff.mp none
          subst gone
          exact empty (by rw [List.sublist_nil.mp inner, List.map_nil])
        rw [List.intercalate_cons_of_ne_nil empty, List.intercalate_cons_of_ne_nil more]
        simp only [List.length_append]
        omega

/-- Every character of the text has a code below 128. -/
def IsAscii (text : String) : Prop := ∀ character ∈ text.toList, character.toNat < 128

theorem isAscii_join {separator : Char} {parts : List String} (small : separator.toNat < 128)
    (each : ∀ part ∈ parts, IsAscii part) : IsAscii (join separator parts) := by
  intro character member
  rcases mem_join member with rfl | ⟨part, among, inside⟩
  · exact small
  · exact each part among character inside

theorem isAscii_of_mem_split {text part : String} {separator : Char} (ascii : IsAscii text)
    (among : part ∈ split text separator) : IsAscii part := by
  intro character inside
  have member : character ∈ (join separator (split text separator)).toList :=
    mem_join_of_mem among inside
  rw [join_split] at member
  exact ascii character member

/-- These are the codes of the characters. -/
def asciiBytes (text : String) : Bytes :=
  text.toList.map fun character => UInt8.ofNat character.toNat

/-- This is `text.encode("ascii")`. -/
def encodeAscii (text : String) : Result Bytes :=
  if text.toList.all fun character => character.toNat < 128 then .ok (asciiBytes text)
  else .error (.unicodeError "ordinal not in range(128)")

/-- This is `data.decode("ascii")`. -/
def decodeAscii (data : Bytes) : Result String :=
  if data.all fun byte => byte.toNat < 128 then
    .ok (String.ofList (data.map fun byte => Char.ofNat byte.toNat))
  else .error (.unicodeError "ordinal not in range(128)")

@[simp] theorem length_asciiBytes (text : String) :
    (asciiBytes text).length = text.toList.length := List.length_map _

theorem encodeAscii_of_isAscii {text : String} (ascii : IsAscii text) :
    encodeAscii text = .ok (asciiBytes text) := by
  exact if_pos (List.all_eq_true.mpr fun character member =>
    decide_eq_true (ascii character member))

/-- Decoding gives back the encoded text. -/
theorem decodeAscii_asciiBytes {text : String} (ascii : IsAscii text) :
    decodeAscii (asciiBytes text) = .ok text := by
  have code (character : Char) (member : character ∈ text.toList) :
      (UInt8.ofNat character.toNat).toNat = character.toNat :=
    UInt8.toNat_ofNat_of_lt' (Nat.lt_trans (ascii character member) (by decide))
  rw [decodeAscii, if_pos]
  · rw [asciiBytes, List.map_map]
    have same : text.toList.map ((fun byte : UInt8 => Char.ofNat byte.toNat) ∘
        fun character => UInt8.ofNat character.toNat) = text.toList := by
      conv => rhs; rw [← List.map_id text.toList]
      apply List.map_congr_left
      intro character member
      simp only [Function.comp_apply, code character member, Char.ofNat_toNat, id]
    rw [same, String.ofList_toList]
  · rw [asciiBytes, List.all_map, List.all_eq_true]
    intro character member
    simpa [code character member] using ascii character member

/-- A decoded text encodes to the data that it was decoded from. -/
theorem decodeAscii_eq_ok {data : Bytes} {text : String} (decoded : decodeAscii data = .ok text) :
    IsAscii text ∧ asciiBytes text = data := by
  unfold decodeAscii at decoded
  split at decoded
  · rename_i small
    cases decoded
    rw [List.all_eq_true] at small
    have code (byte : UInt8) (member : byte ∈ data) :
        (Char.ofNat byte.toNat).toNat = byte.toNat := by
      have bound : byte.toNat < 128 := by simpa using small byte member
      have valid : byte.toNat.isValidChar := Or.inl (by omega)
      rw [Char.ofNat, dif_pos valid]
      rfl
    constructor
    · intro character member
      rw [String.toList_ofList] at member
      obtain ⟨byte, inside, rfl⟩ := List.mem_map.mp member
      rw [code byte inside]
      simpa using small byte inside
    · rw [asciiBytes, String.toList_ofList, List.map_map]
      conv => rhs; rw [← List.map_id data]
      apply List.map_congr_left
      intro byte member
      simp only [Function.comp_apply, code byte member, UInt8.ofNat_toNat, id]
  · cases decoded

end FaultInject.Python
