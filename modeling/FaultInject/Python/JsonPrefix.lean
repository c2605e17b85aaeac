import FaultInject.Python.JsonRoundTrip

/-
This file proves that the JSON decoder reads a value whose end is marked in the same way when more
text follows. So a text that was cut off inside its last bracket is no JSON text.
-/

namespace FaultInject.Python.Json
open Python

section Strings
variable {text more : List Char}

theorem length_of_mapM {A B : Type} {read : A → Option B} {values : List A} {results : List B}
    (found : values.mapM read = some results) : results.length = values.length := by
  induction values generalizing results with
  | nil =>
      cases found
      rfl
  | cons value values ih =>
      simp only [List.mapM_cons, Option.bind_eq_bind, Option.bind_eq_some_iff,
        Option.pure_def, Option.some.injEq] at found
      obtain ⟨_, _, rest, others, rfl⟩ := found
      rw [List.length_cons, List.length_cons, ih others]

theorem scanCode_append {result : Nat × List Char} (scanned : scanCode text = .ok result) :
    scanCode (text ++ more) = .ok (result.1, result.2 ++ more) := by
  unfold scanCode at scanned
  split at scanned
  · rename_i first second third fourth digits
    have width := length_of_mapM digits
    rw [List.length_take] at width
    have four : 4 ≤ text.length := by
      simp only [List.length_cons, List.length_nil] at width
      omega
    cases scanned
    rw [scanCode, List.take_append_of_le_length four, List.drop_append_of_le_length four, digits]
  · cases scanned

/-- A returned character is no surrogate alone, so what follows does not change it. -/
theorem scanUnicode_append {result : Char × List Char} (scanned : scanUnicode text = .ok result) :
    scanUnicode (text ++ more) = .ok (result.1, result.2 ++ more) := by
  obtain ⟨high, first, scanned⟩ := bind_eq_ok.mp scanned
  rw [scanUnicode, scanCode_append first, ok_bind]
  by_cases pair : 0xD800 ≤ high.1 ∧ high.1 ≤ 0xDBFF ∧ high.2.take 2 = ['\\', 'u']
  · rw [if_pos pair] at scanned
    obtain ⟨low, second, scanned⟩ := bind_eq_ok.mp scanned
    have two : 2 ≤ high.2.length := by
      have width := congrArg List.length pair.2.2
      rw [List.length_take, List.length_cons, List.length_cons, List.length_nil] at width
      omega
    dsimp only
    rw [List.take_append_of_le_length two, List.drop_append_of_le_length two, if_pos pair,
      scanCode_append second, ok_bind]
    by_cases surrogate : 0xDC00 ≤ low.1 ∧ low.1 ≤ 0xDFFF
    · rw [if_pos surrogate] at scanned ⊢
      rw [pure_eq_ok, Except.ok.injEq] at scanned
      rw [← scanned, pure_eq_ok]
    · rw [if_neg surrogate] at scanned
      cases scanned
  · rw [if_neg pair] at scanned
    by_cases surrogate : 0xD800 ≤ high.1 ∧ high.1 ≤ 0xDFFF
    · rw [if_pos surrogate] at scanned
      cases scanned
    · rw [if_neg surrogate] at scanned
      cases scanned
      dsimp only
      rw [if_neg fun pair => surrogate ⟨pair.1, by omega⟩, if_neg surrogate]
      rfl

theorem scanEscape_append {result : Char × List Char} (scanned : scanEscape text = .ok result) :
    scanEscape (text ++ more) = .ok (result.1, result.2 ++ more) := by
  cases text with
  | nil => cases scanned
  | cons character text =>
      rw [List.cons_append]
      rw [scanEscape] at scanned ⊢
      by_cases unicode : character = 'u'
      · rw [if_pos unicode] at scanned ⊢
        exact scanUnicode_append scanned
      · rw [if_neg unicode] at scanned ⊢
        cases known : escapes.lookup character with
        | none =>
            rw [known] at scanned
            cases scanned
        | some value =>
            rw [known] at scanned
            cases scanned
            rfl

/-- A string is read up to its right quote. -/
theorem scanString_append {fuel room : Nat} {result : List Char × List Char} (enough : fuel ≤ room)
    (scanned : scanString fuel text = .ok result) :
    scanString room (text ++ more) = .ok (result.1, result.2 ++ more) := by
  induction fuel generalizing room text result with
  | zero => cases scanned
  | succ fuel ih =>
      obtain ⟨room, rfl⟩ : ∃ less, room = less + 1 := ⟨room - 1, by omega⟩
      cases text with
      | nil => cases scanned
      | cons character text =>
          rw [List.cons_append]
          rw [scanString] at scanned ⊢
          split at scanned
          · rename_i quote
            cases scanned
            exact if_pos quote
          · rename_i open_
            rw [if_neg open_]
            split at scanned
            · rename_i backslash
              obtain ⟨escaped, first, scanned⟩ := bind_eq_ok.mp scanned
              obtain ⟨string, others, same⟩ := bind_eq_ok.mp scanned
              cases same
              rw [if_pos backslash, scanEscape_append first, ok_bind, ih (by omega) others]
              rfl
            · rename_i plain
              rw [if_neg plain]
              split at scanned
              · cases scanned
              · rename_i visible
                obtain ⟨string, others, same⟩ := bind_eq_ok.mp scanned
                cases same
                rw [if_neg visible, ih (by omega) others]
                rfl

end Strings

section Tokens
variable {text more : List Char}

/-- A text that does not consist of blanks starts in the same place when more text follows. -/
theorem skipBlanks_append (visible : skipBlanks text ≠ []) :
    skipBlanks (text ++ more) = skipBlanks text ++ more := by
  rw [skipBlanks] at visible
  rw [skipBlanks, skipBlanks, List.dropWhile_append, if_neg]
  rwa [List.isEmpty_iff]

theorem skipBlanks_append_of_cons {first : Char} {rest : List Char}
    (starts : skipBlanks text = first :: rest) :
    skipBlanks (text ++ more) = first :: (rest ++ more) := by
  rw [skipBlanks_append (by rw [starts]; exact List.cons_ne_nil _ _), starts, List.cons_append]

/-- The text starts with a character that does not continue a number. -/
def Delimited (text : List Char) : Prop :=
  ∃ first rest, text = first :: rest ∧ first ∉ ['.', 'e', 'E']

/-- A token in front of blanks and a delimiter has ended. -/
theorem delimited_of_skipBlanks {first : Char} {rest : List Char}
    (starts : skipBlanks text = first :: rest) (mark : first ∉ ['.', 'e', 'E']) :
    Delimited text := by
  cases text with
  | nil => cases starts
  | cons character text =>
      cases blank : isBlank character with
      | true =>
          have other : ∀ mark ∈ ['.', 'e', 'E'], isBlank mark = false :=
            List.all_iff_forall_prop.mp (by decide)
          exact ⟨character, text, rfl,
            fun member => Bool.false_ne_true ((other character member).symm.trans blank)⟩
      | false =>
          rw [skipBlanks, List.dropWhile_cons_of_neg (by rw [blank]; exact Bool.false_ne_true),
            List.cons.injEq] at starts
          exact ⟨character, text, rfl, starts.1 ▸ mark⟩

theorem Delimited.not_startsFloat (ended : Delimited text) : startsFloat text = false := by
  obtain ⟨first, rest, rfl, other⟩ := ended
  simp only [List.mem_cons, List.not_mem_nil, or_false, not_or] at other
  cases rest with
  | nil => simp [startsFloat]
  | cons second rest => cases rest <;> simp [startsFloat, other]

theorem Delimited.append (ended : Delimited text) : Delimited (text ++ more) := by
  obtain ⟨first, rest, rfl, other⟩ := ended
  exact ⟨first, rest ++ more, rfl, other⟩

theorem scanNatural_append {result : Nat × List Char} (scanned : scanNatural text = .ok result)
    (ended : Delimited result.2) :
    scanNatural (text ++ more) = .ok (result.1, result.2 ++ more) := by
  cases text with
  | nil => cases scanned
  | cons digit text =>
      rw [scanNatural] at scanned
      rw [List.cons_append, scanNatural]
      by_cases zero : digit = '0'
      · rw [if_pos zero] at scanned ⊢
        cases scanned
        rfl
      · rw [if_neg zero] at scanned ⊢
        by_cases number : digit.isDigit
        · rw [if_pos number] at scanned ⊢
          cases scanned
          obtain ⟨first, rest, shape, _⟩ := ended
          have stops : (digit :: text).dropWhile Char.isDigit = first :: rest := shape
          have digits : (digit :: text).takeWhile Char.isDigit ++ first :: rest = digit :: text := by
            rw [← stops, List.takeWhile_append_dropWhile]
          have shorter : ((digit :: text).takeWhile Char.isDigit).length ≠ (digit :: text).length := by
            have whole := congrArg List.length digits
            rw [List.length_append, List.length_cons] at whole
            omega
          rw [← List.cons_append, List.dropWhile_append, List.takeWhile_append, if_neg shorter,
            stops]
          rfl
        · rw [if_neg number] at scanned
          cases scanned

/-- No constant and no number without a digit is an integer. -/
theorem head_of_scanNatural {result : Nat × List Char} (scanned : scanNatural text = .ok result) :
    ∃ digit rest, text = digit :: rest ∧ digit.isDigit = true := by
  cases text with
  | nil => cases scanned
  | cons digit text =>
      refine ⟨digit, text, rfl, ?_⟩
      by_contra other
      rw [scanNatural, if_neg (by rintro rfl; exact other rfl), if_neg other] at scanned
      cases scanned

theorem scanInteger_append {result : Int × List Char} (scanned : scanInteger text = .ok result)
    (ended : Delimited result.2) :
    scanInteger (text ++ more) = .ok (result.1, result.2 ++ more) := by
  rw [scanInteger] at scanned ⊢
  by_cases minus : text.head? = some '-'
  · rw [if_pos minus] at scanned
    obtain ⟨digits, natural, scanned⟩ := bind_eq_ok.mp scanned
    simp only [pure_eq_ok, ok_bind] at scanned
    split at scanned
    · cases scanned
    cases scanned
    have nonempty : text ≠ [] := by
      rintro rfl
      cases minus
    rw [List.head?_append_of_ne_nil _ nonempty, if_pos minus,
      List.tail_append_of_ne_nil nonempty, scanNatural_append natural ended]
    simp only [ok_bind, pure_eq_ok]
    rw [ended.append.not_startsFloat]
    rfl
  · rw [if_neg minus] at scanned
    obtain ⟨digits, natural, scanned⟩ := bind_eq_ok.mp scanned
    simp only [pure_eq_ok, ok_bind] at scanned
    split at scanned
    · cases scanned
    cases scanned
    obtain ⟨digit, rest, rfl, _⟩ := head_of_scanNatural natural
    rw [List.head?_append_of_ne_nil _ (List.cons_ne_nil digit rest), if_neg minus,
      scanNatural_append natural ended]
    simp only [ok_bind, pure_eq_ok]
    rw [ended.append.not_startsFloat]
    rfl

/-- An integer starts with its sign or a digit. -/
theorem head_of_scanInteger {result : Int × List Char} (scanned : scanInteger text = .ok result) :
    ∃ first rest, text = first :: rest ∧ (first = '-' ∨ first.isDigit = true) := by
  by_cases minus : text.head? = some '-'
  · obtain ⟨rest, shape⟩ := List.head?_eq_some_iff.mp minus
    exact ⟨'-', rest, shape, .inl rfl⟩
  · rw [scanInteger, if_neg minus] at scanned
    obtain ⟨digits, natural, _⟩ := bind_eq_ok.mp scanned
    obtain ⟨first, rest, shape, digit⟩ := head_of_scanNatural natural
    exact ⟨first, rest, shape, .inr digit⟩

/-- A text with another first letter starts with another constant. -/
theorem not_constant_append {constant : String} {letter first : Char} {letters rest : List Char}
    (spelled : constant.toList = letter :: letters) (starts : text = first :: rest)
    (other : letter ≠ first) : ¬constant.toList.isPrefixOf (text ++ more) := by
  rw [spelled, starts, List.cons_append, List.isPrefixOf_iff_prefix, List.cons_prefix_cons]
  exact fun same => other same.1

/-- A text that starts with a constant does so when more text follows. -/
theorem constant_append (more : List Char) {constant : String} {letter : Char} {letters : List Char}
    (spelled : constant.toList = letter :: letters) (starts : constant.toList.isPrefixOf text) :
    (∃ rest, text = letter :: rest) ∧ constant.toList.isPrefixOf (text ++ more) ∧
      (text ++ more).drop constant.toList.length = text.drop constant.toList.length ++ more := by
  rw [List.isPrefixOf_iff_prefix] at starts
  refine ⟨?_, ?_, List.drop_append_of_le_length starts.length_le⟩
  · obtain ⟨rest, shape⟩ := starts
    exact ⟨letters ++ rest, by rw [← shape, spelled, List.cons_append]⟩
  · rw [List.isPrefixOf_iff_prefix]
    exact starts.trans (List.prefix_append text more)

theorem scanConstant_append {result : Scalar × List Char} (scanned : scanConstant text = .ok result)
    (ended : Delimited result.2) :
    scanConstant (text ++ more) = .ok (result.1, result.2 ++ more) := by
  rw [scanConstant] at scanned ⊢
  by_cases null : "null".toList.isPrefixOf text
  · obtain ⟨_, starts, behind⟩ := constant_append more rfl null
    rw [if_pos null] at scanned
    cases scanned
    rw [if_pos starts]
    exact congrArg (fun rest => Except.ok (Scalar.null, rest)) behind
  rw [if_neg null] at scanned
  by_cases yes : "true".toList.isPrefixOf text
  · obtain ⟨⟨rest, first⟩, starts, behind⟩ := constant_append more rfl yes
    rw [if_pos yes] at scanned
    cases scanned
    rw [if_neg (not_constant_append rfl first (by decide)), if_pos starts]
    exact congrArg (fun rest => Except.ok (Scalar.bool true, rest)) behind
  rw [if_neg yes] at scanned
  by_cases no : "false".toList.isPrefixOf text
  · obtain ⟨⟨rest, first⟩, starts, behind⟩ := constant_append more rfl no
    rw [if_pos no] at scanned
    cases scanned
    rw [if_neg (not_constant_append rfl first (by decide)),
      if_neg (not_constant_append rfl first (by decide)), if_pos starts]
    exact congrArg (fun rest => Except.ok (Scalar.bool false, rest)) behind
  rw [if_neg no] at scanned
  obtain ⟨number, integer, same⟩ := bind_eq_ok.mp scanned
  cases same
  obtain ⟨first, rest, shape, number⟩ := head_of_scanInteger integer
  have other {letter : Char} (sign : letter ≠ '-') (digit : ¬letter.isDigit) : letter ≠ first := by
    rintro rfl
    exact number.elim sign digit
  rw [if_neg (not_constant_append rfl shape (other (by decide) (by decide))),
    if_neg (not_constant_append rfl shape (other (by decide) (by decide))),
    if_neg (not_constant_append rfl shape (other (by decide) (by decide))),
    scanInteger_append integer ended]
  rfl

end Tokens

section Values

/-- With more text behind, every scan gives the same value and the same text in front of the
additional one. A value at the end of the text could still go on, so its end must be marked. -/
structure Appends (fuel : Nat) : Prop where
  value : ∀ {text more : List Char} {room : Nat} {result : Value × List Char}, fuel ≤ room →
    scanValue fuel text = .ok result →
    Delimited result.2 ∨ text.head? = some '[' ∨ text.head? = some '\x7b' →
    scanValue room (text ++ more) = .ok (result.1, result.2 ++ more)
  items : ∀ {text more : List Char} {room : Nat} {result : List Value × List Char}, fuel ≤ room →
    scanItems fuel text = .ok result →
    scanItems room (text ++ more) = .ok (result.1, result.2 ++ more)
  members : ∀ {text more : List Char} {room : Nat} {result : List (String × Value) × List Char},
    fuel ≤ room → scanMembers fuel text = .ok result →
    scanMembers room (text ++ more) = .ok (result.1, result.2 ++ more)

variable {fuel : Nat} {text more : List Char}

theorem head?_skipBlanks_append (more : List Char) {mark : Char}
    (starts : (skipBlanks text).head? = some mark) :
    (skipBlanks (text ++ more)).head? = some mark ∧
      (skipBlanks (text ++ more)).tail = (skipBlanks text).tail ++ more := by
  obtain ⟨rest, shape⟩ := List.head?_eq_some_iff.mp starts
  rw [skipBlanks_append_of_cons shape, shape]
  exact ⟨rfl, rfl⟩

theorem nonempty_of_scanValue {result : Value × List Char}
    (scanned : scanValue fuel text = .ok result) : text ≠ [] := by
  rintro rfl
  cases fuel <;> cases scanned

theorem nonempty_of_scanItems {result : List Value × List Char}
    (scanned : scanItems fuel text = .ok result) : text ≠ [] := by
  cases fuel with
  | zero => cases scanned
  | succ fuel =>
      rw [scanItems] at scanned
      obtain ⟨_, first, _⟩ := bind_eq_ok.mp scanned
      exact nonempty_of_scanValue first

theorem nonempty_of_scanMembers {result : List (String × Value) × List Char}
    (scanned : scanMembers fuel text = .ok result) : text ≠ [] := by
  rintro rfl
  cases fuel <;> cases scanned

/-- Brackets that are not empty are so when more text follows. -/
theorem open_append {mark : Char} (visible : skipBlanks text ≠ [])
    (inside : (skipBlanks text).head? ≠ some mark) :
    (skipBlanks (text ++ more)).head? ≠ some mark := by
  rwa [skipBlanks_append visible, List.head?_append_of_ne_nil _ visible]

theorem Appends.value_succ (appends : Appends fuel) {room : Nat} {result : Value × List Char}
    (enough : fuel ≤ room) (scanned : scanValue (fuel + 1) text = .ok result)
    (ended : Delimited result.2 ∨ text.head? = some '[' ∨ text.head? = some '\x7b') :
    scanValue (room + 1) (text ++ more) = .ok (result.1, result.2 ++ more) := by
  cases text with
  | nil => cases scanned
  | cons character text =>
      rw [List.cons_append]
      rw [scanValue] at scanned ⊢
      by_cases quote : character = '"'
      · rw [if_pos quote] at scanned ⊢
        obtain ⟨string, first, same⟩ := bind_eq_ok.mp scanned
        cases same
        rw [scanString_append enough first]
        rfl
      rw [if_neg quote] at scanned ⊢
      by_cases bracket : character = '['
      · rw [if_pos bracket] at scanned ⊢
        by_cases empty : (skipBlanks text).head? = some ']'
        · obtain ⟨starts, behind⟩ := head?_skipBlanks_append more empty
          rw [if_pos empty] at scanned
          rw [if_pos starts, behind]
          cases scanned
          rfl
        rw [if_neg empty] at scanned
        obtain ⟨items, first, same⟩ := bind_eq_ok.mp scanned
        cases same
        have visible := nonempty_of_scanItems first
        rw [if_neg (open_append visible empty), skipBlanks_append visible,
          appends.items enough first]
        rfl
      rw [if_neg bracket] at scanned ⊢
      by_cases brace : character = '\x7b'
      · rw [if_pos brace] at scanned ⊢
        by_cases empty : (skipBlanks text).head? = some '\x7d'
        · obtain ⟨starts, behind⟩ := head?_skipBlanks_append more empty
          rw [if_pos empty] at scanned
          rw [if_pos starts, behind]
          cases scanned
          rfl
        rw [if_neg empty] at scanned
        obtain ⟨members, first, same⟩ := bind_eq_ok.mp scanned
        cases same
        have visible := nonempty_of_scanMembers first
        rw [if_neg (open_append visible empty), skipBlanks_append visible,
          appends.members enough first]
        rfl
      rw [if_neg brace] at scanned ⊢
      obtain ⟨scalar, first, same⟩ := bind_eq_ok.mp scanned
      cases same
      have ended : Delimited scalar.2 := by
        rcases ended with ended | other | other
        · exact ended
        · exact absurd (Option.some.inj other) bracket
        · exact absurd (Option.some.inj other) brace
      rw [← List.cons_append, scanConstant_append first ended]
      rfl

theorem Appends.items_succ (appends : Appends fuel) {room : Nat}
    {result : List Value × List Char} (enough : fuel ≤ room)
    (scanned : scanItems (fuel + 1) text = .ok result) :
    scanItems (room + 1) (text ++ more) = .ok (result.1, result.2 ++ more) := by
  rw [scanItems] at scanned ⊢
  obtain ⟨item, first, scanned⟩ := bind_eq_ok.mp scanned
  split at scanned
  · rename_i rest bracket
    cases scanned
    rw [appends.value enough first (.inl (delimited_of_skipBlanks bracket (by decide))), ok_bind,
      skipBlanks_append_of_cons bracket]
    rfl
  · rename_i rest comma
    obtain ⟨items, others, same⟩ := bind_eq_ok.mp scanned
    cases same
    rw [appends.value enough first (.inl (delimited_of_skipBlanks comma (by decide))), ok_bind,
      skipBlanks_append_of_cons comma]
    change (scanItems room (skipBlanks (rest ++ more)) >>= _) = _
    rw [skipBlanks_append (nonempty_of_scanItems others), appends.items enough others]
    rfl
  · cases scanned

theorem Appends.members_succ (appends : Appends fuel) {room : Nat}
    {result : List (String × Value) × List Char} (enough : fuel ≤ room)
    (scanned : scanMembers (fuel + 1) text = .ok result) :
    scanMembers (room + 1) (text ++ more) = .ok (result.1, result.2 ++ more) := by
  cases text with
  | nil => cases scanned
  | cons quote text =>
      rw [List.cons_append]
      rw [scanMembers] at scanned ⊢
      by_cases opens : quote = '"'
      swap
      · rw [if_neg opens] at scanned
        cases scanned
      rw [if_pos opens] at scanned ⊢
      obtain ⟨key, string, scanned⟩ := bind_eq_ok.mp scanned
      rw [scanString_append enough string, ok_bind]
      split at scanned
      swap
      · cases scanned
      rename_i behind colon
      obtain ⟨value, first, scanned⟩ := bind_eq_ok.mp scanned
      rw [skipBlanks_append_of_cons colon]
      change (scanValue room (skipBlanks (behind ++ more)) >>= _) = _
      rw [skipBlanks_append (nonempty_of_scanValue first)]
      split at scanned
      · rename_i rest brace
        cases scanned
        rw [appends.value enough first (.inl (delimited_of_skipBlanks brace (by decide))), ok_bind,
          skipBlanks_append_of_cons brace]
        rfl
      · rename_i rest comma
        obtain ⟨members, others, same⟩ := bind_eq_ok.mp scanned
        cases same
        rw [appends.value enough first (.inl (delimited_of_skipBlanks comma (by decide))), ok_bind,
          skipBlanks_append_of_cons comma]
        change (scanMembers room (skipBlanks (rest ++ more)) >>= _) = _
        rw [skipBlanks_append (nonempty_of_scanMembers others), appends.members enough others]
        rfl
      · cases scanned

/-- The proof is by induction on the fuel. Every scan calls the others with less. -/
theorem appends (fuel : Nat) : Appends fuel := by
  induction fuel with
  | zero =>
      constructor
      · intro text more room result _ scanned
        cases scanned
      · intro text more room result _ scanned
        cases scanned
      · intro text more room result _ scanned
        cases scanned
  | succ fuel ih =>
      have less {room : Nat} (enough : fuel + 1 ≤ room) : ∃ other, room = other + 1 ∧ fuel ≤ other :=
        ⟨room - 1, by omega, by omega⟩
      constructor
      · intro text more room result enough scanned ended
        obtain ⟨room, rfl, others⟩ := less enough
        exact ih.value_succ others scanned ended
      · intro text more room result enough scanned
        obtain ⟨room, rfl, others⟩ := less enough
        exact ih.items_succ others scanned
      · intro text more room result enough scanned
        obtain ⟨room, rfl, others⟩ := less enough
        exact ih.members_succ others scanned

end Values

/-- A beginning of the text of an object is no JSON text unless it is the whole text. -/
theorem eq_of_loads_prefix {entries : List (String × Value)} {value : Value} {start : String}
    (distinct : Distinct (.object entries))
    (torn : start.toList <+: (dumps 0 (.object entries)).toList)
    (read : loads start = .ok value) : start = dumps 0 (.object entries) := by
  obtain ⟨behind, whole⟩ := torn
  obtain ⟨inside, braced⟩ : ∃ inside, (dumps 0 (.object entries)).toList = '\x7b' :: inside := by
    rw [← List.head?_eq_some_iff, dumps, bracketed]
    split <;> simp
  rw [loads] at read
  split at read
  · cases read
  obtain ⟨found, scanned, _⟩ := bind_eq_ok.mp read
  have opens : skipBlanks start.toList = start.toList ∧ start.toList.head? = some '\x7b' := by
    have visible := nonempty_of_scanValue scanned
    cases shape : start.toList with
    | nil =>
        rw [shape] at visible
        exact absurd rfl visible
    | cons first rest =>
        rw [shape, List.cons_append, braced, List.cons.injEq] at whole
        rw [whole.1]
        exact ⟨skipBlanks_of_plain rfl rest, rfl⟩
  rw [opens.1] at scanned
  let room := 2 * (dumps 0 (.object entries)).toList.length + 1
  have shorter : 2 * start.toList.length + 1 ≤ room := by
    have width := congrArg List.length whole
    rw [List.length_append] at width
    omega
  have again : scanValue room (start.toList ++ behind) = .ok (found.1, found.2 ++ behind) :=
    (appends _).value shorter scanned (.inr (.inr opens.2))
  have full := scansValue 0 _ distinct room [] (.inl rfl) (by rw [List.append_nil]; omega)
  rw [List.append_nil, ← whole, again, Except.ok.injEq, Prod.mk.injEq] at full
  rw [(List.append_eq_nil_iff.mp full.2).2, List.append_nil] at whole
  exact String.toList_inj.mp whole

end FaultInject.Python.Json
