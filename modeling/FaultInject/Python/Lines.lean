import FaultInject.Python.Text

namespace FaultInject.Python

/-- Reading a text file gives one newline for each line end. -/
def universalNewlines : List Char → List Char
  | '\r' :: '\n' :: rest => '\n' :: universalNewlines rest
  | '\r' :: rest => '\n' :: universalNewlines rest
  | character :: rest => character :: universalNewlines rest
  | [] => []

/-- This is the text that a text file with the content gives. -/
def translate (content : String) : String := String.ofList (universalNewlines content.toList)

/-- These characters end a line for `str.splitlines`. -/
def isLineBoundary (character : Char) : Bool :=
  character.toNat ∈ [0x0a, 0x0b, 0x0c, 0x0d, 0x1c, 0x1d, 0x1e, 0x85, 0x2028, 0x2029]

/-- This is `text.splitlines()`. Nothing follows the last line end. -/
def splitlines (text : String) : List String :=
  let pieces := (universalNewlines text.toList).splitOnP isLineBoundary
  (if pieces.getLast? = some [] then pieces.dropLast else pieces).map String.ofList

/-- This is `str.isspace` for one character. -/
def isSpace (character : Char) : Bool :=
  let code := character.toNat
  (0x09 ≤ code ∧ code ≤ 0x0d) ∨ (0x1c ≤ code ∧ code ≤ 0x20) ∨ (0x2000 ≤ code ∧ code ≤ 0x200a) ∨
    code ∈ [0x85, 0xa0, 0x1680, 0x2028, 0x2029, 0x202f, 0x205f, 0x3000]

/-- This is `text.split()`. -/
def splitWords (text : String) : List String :=
  ((text.toList.splitOnP isSpace).filter fun word => word != []).map String.ofList

/-- This is `text.strip()`. -/
def stripSpaces (text : String) : String :=
  String.ofList (((text.toList.dropWhile isSpace).reverse.dropWhile isSpace).reverse)

/-- This is `text.split(separator, 1)` for a text with the separator. -/
def splitOnce (text : String) (separator : Char) : String × String :=
  let characters := text.toList
  (String.ofList (characters.takeWhile (· != separator)),
    String.ofList (characters.dropWhile (· != separator)).tail)

section Newlines

theorem universalNewlines_cons {character : Char} (plain : character ≠ '\r') (rest : List Char) :
    universalNewlines (character :: rest) = character :: universalNewlines rest := by
  rw [universalNewlines]
  · rintro _ rfl
    exact absurd rfl plain
  · exact plain

/-- A text without carriage returns is read as it is. -/
theorem universalNewlines_of_plain {text : List Char} (plain : '\r' ∉ text) :
    universalNewlines text = text := by
  induction text with
  | nil => rfl
  | cons character rest ih =>
      rw [List.mem_cons, not_or] at plain
      rw [universalNewlines_cons (Ne.symm plain.1), ih plain.2]

theorem universalNewlines_return {rest : List Char} (apart : rest.head? ≠ some '\n') :
    universalNewlines ('\r' :: rest) = '\n' :: universalNewlines rest := by
  rw [universalNewlines]
  rintro _ rfl
  exact absurd rfl apart

/-- A text that follows does not change what is read unless it starts inside a line end. -/
theorem universalNewlines_append (first : List Char) {second : List Char}
    (apart : second.head? ≠ some '\n') :
    universalNewlines (first ++ second) = universalNewlines first ++ universalNewlines second := by
  induction first using universalNewlines.induct with
  | case1 rest ih =>
      rw [List.cons_append, List.cons_append, universalNewlines, universalNewlines, ih,
        List.cons_append]
  | case2 rest single ih =>
      have before : rest.head? ≠ some '\n' := by
        cases rest with
        | nil => simp
        | cons head tail =>
            rintro same
            exact single tail (by rw [Option.some.inj same])
      have after : (rest ++ second).head? ≠ some '\n' := by
        cases rest with
        | nil => exact apart
        | cons head tail => exact before
      rw [List.cons_append, universalNewlines_return after, universalNewlines_return before, ih,
        List.cons_append]
  | case3 character rest _ notReturn ih =>
      rw [List.cons_append, universalNewlines_cons notReturn, universalNewlines_cons notReturn, ih,
        List.cons_append]
  | case4 => rfl

/-- A text that ends with a newline is read so. -/
theorem universalNewlines_newline (text : List Char) :
    ∃ read, universalNewlines (text ++ ['\n']) = read ++ ['\n'] := by
  induction text using universalNewlines.induct with
  | case1 rest ih =>
      obtain ⟨read, same⟩ := ih
      exact ⟨'\n' :: read, by rw [List.cons_append, List.cons_append, universalNewlines, same]; rfl⟩
  | case2 rest single ih =>
      obtain ⟨read, same⟩ := ih
      cases rest with
      | nil => exact ⟨[], rfl⟩
      | cons head tail =>
          have apart : (head :: tail ++ ['\n']).head? ≠ some '\n' := fun newline =>
            single tail (by rw [Option.some.inj newline])
          exact ⟨'\n' :: read, by rw [List.cons_append, universalNewlines_return apart, same]; rfl⟩
  | case3 character rest _ notReturn ih =>
      obtain ⟨read, same⟩ := ih
      exact ⟨character :: read, by
        rw [List.cons_append, universalNewlines_cons notReturn, same]; rfl⟩
  | case4 => exact ⟨[], rfl⟩

theorem return_not_mem_universalNewlines (text : List Char) : '\r' ∉ universalNewlines text := by
  induction text using universalNewlines.induct with
  | case1 rest ih =>
      rw [universalNewlines, List.mem_cons, not_or]
      exact ⟨by decide, ih⟩
  | case2 rest single ih =>
      rw [universalNewlines, List.mem_cons, not_or]
      · exact ⟨by decide, ih⟩
      · exact single
  | case3 character rest _ notReturn ih =>
      rw [universalNewlines_cons notReturn, List.mem_cons, not_or]
      exact ⟨Ne.symm notReturn, ih⟩
  | case4 => exact List.not_mem_nil

end Newlines

/-- The text has only whole lines. -/
def WholeLines (text : String) : Prop := text = "" ∨ text.toList.getLast? = some '\n'

/-- The text is one line without its end. -/
def OneLine (line : String) : Prop := line ≠ "" ∧ ∀ character ∈ line.toList, ¬isLineBoundary character

section Splitlines
variable {text line : String}

@[simp] theorem splitlines_empty : splitlines "" = [] := by
  rw [splitlines, String.toList_empty, universalNewlines, List.splitOnP_nil]
  rfl

/-- Reading a text does not change its lines. -/
@[simp] theorem splitlines_translate (content : String) :
    splitlines (translate content) = splitlines content := by
  rw [splitlines, translate, String.toList_ofList,
    universalNewlines_of_plain (return_not_mem_universalNewlines _), splitlines]

/-- The last newline of a text starts no line. -/
theorem splitlines_of_newline {read : List Char}
    (same : universalNewlines text.toList = read ++ ['\n']) :
    splitlines text = (read.splitOnP isLineBoundary).map String.ofList := by
  rw [splitlines, same, List.splitOnP_append_cons read [] (by decide), List.splitOnP_nil]
  rw [List.getLast?_concat, if_pos rfl, List.dropLast_concat]

/-- A line that follows whole lines is read as one more line. -/
theorem splitlines_append (whole : WholeLines text) (single : OneLine line) :
    splitlines (text ++ line ++ "\n") = splitlines text ++ [line] := by
  obtain ⟨nonempty, inside⟩ := single
  have one : line.toList.splitOnP isLineBoundary = [line.toList] :=
    List.splitOnP_eq_singleton fun character member => by simpa using inside character member
  have plain : '\r' ∉ line.toList ++ ['\n'] := by
    rw [List.mem_append, not_or]
    exact ⟨fun member => inside _ member (by decide), by decide⟩
  have apart : (line.toList ++ ['\n']).head? ≠ some '\n' := by
    cases characters : line.toList with
    | nil => exact absurd (String.toList_eq_nil_iff.mp characters) nonempty
    | cons head tail =>
        rintro same
        refine inside head (by rw [characters]; exact List.mem_cons_self) ?_
        rw [Option.some.inj same]
        decide
  have read : universalNewlines (text ++ line ++ "\n").toList =
      universalNewlines text.toList ++ (line.toList ++ ['\n']) := by
    rw [String.toList_append, String.toList_append, List.append_assoc]
    exact (universalNewlines_append _ apart).trans
      (congrArg _ (universalNewlines_of_plain plain))
  rcases whole with rfl | newline
  · rw [String.toList_empty, universalNewlines, List.nil_append] at read
    rw [splitlines_empty, splitlines_of_newline read, one, List.map_singleton,
      String.ofList_toList, List.nil_append]
  · obtain ⟨before, same⟩ := List.getLast?_eq_some_iff.mp newline
    obtain ⟨lines, known⟩ := universalNewlines_newline before
    rw [← same] at known
    rw [known] at read
    rw [splitlines_of_newline known, splitlines_of_newline (by rw [read, ← List.append_assoc]),
      List.append_assoc, List.singleton_append, List.splitOnP_append_cons _ _ (by decide), one,
      List.map_append, List.map_singleton, String.ofList_toList]

end Splitlines

/-- The text is one word. -/
def OneWord (word : String) : Prop := word ≠ "" ∧ ∀ character ∈ word.toList, ¬isSpace character

section Words
variable {word : String}

theorem OneWord.splitOnP_eq (single : OneWord word) :
    word.toList.splitOnP isSpace = [word.toList] :=
  List.splitOnP_eq_singleton fun character member => by simpa using single.2 character member

theorem splitWords_of_oneWord (single : OneWord word) : splitWords word = [word] := by
  rw [splitWords, single.splitOnP_eq, List.filter_cons_of_pos (by simpa using single.1),
    List.filter_nil, List.map_singleton, String.ofList_toList]

/-- A blank ends a word. -/
theorem splitWords_append (single : OneWord word) (rest : String) :
    splitWords (word ++ " " ++ rest) = word :: splitWords rest := by
  have shape : (word ++ " " ++ rest).toList = word.toList ++ ' ' :: rest.toList := by
    rw [String.toList_append, String.toList_append, List.append_assoc]
    rfl
  rw [splitWords, shape, List.splitOnP_append_cons _ _ (by decide), single.splitOnP_eq,
    List.singleton_append, List.filter_cons_of_pos (by simpa using single.1), List.map_cons,
    String.ofList_toList, splitWords]

/-- The first separator splits the text. -/
theorem splitOnce_append {key : String} {separator : Char} (free : separator ∉ key.toList)
    (value : String) :
    splitOnce (String.ofList (key.toList ++ separator :: value.toList)) separator = (key, value) := by
  have plain : ∀ character ∈ key.toList, (character != separator) = true := by
    intro character member
    rw [bne_iff_ne]
    rintro rfl
    exact free member
  rw [splitOnce, String.toList_ofList, List.takeWhile_append_of_pos plain,
    List.dropWhile_append_of_pos plain, List.takeWhile_cons_of_neg (by simp),
    List.dropWhile_cons_of_neg (by simp), List.append_nil, List.tail_cons, String.ofList_toList,
    String.ofList_toList]

end Words

end FaultInject.Python
