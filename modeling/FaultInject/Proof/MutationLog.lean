import FaultInject.Construction.Run

namespace FaultInject.MutationLog
open Python FaultBinding VerifyApplied Run

/-- A field of a log line joins its key and its value. -/
def field (key value : String) : String := String.ofList (key.toList ++ '=' :: value.toList)

/-- A value of a log line has no blanks and no line ends. -/
structure Plain (value : String) : Prop where
  blank : ∀ character ∈ value.toList, ¬isSpace character
  boundary : ∀ character ∈ value.toList, ¬isLineBoundary character

/-- A field with a plain key and a plain value is plain. -/
theorem Plain.field {key value : String} (first : Plain key) (second : Plain value) :
    Plain (field key value) := by
  have each (character : Char) (member : character ∈ (MutationLog.field key value).toList) :
      character ∈ key.toList ∨ character = '=' ∨ character ∈ value.toList := by
    simpa [MutationLog.field] using member
  constructor
  · intro character member
    rcases each character member with inside | rfl | inside
    · exact first.blank character inside
    · decide
    · exact second.blank character inside
  · intro character member
    rcases each character member with inside | rfl | inside
    · exact first.boundary character inside
    · decide
    · exact second.boundary character inside

theorem field_ne_empty (key value : String) : field key value ≠ "" := by
  intro empty
  have none := congrArg String.toList empty
  simp [field] at none

/-- A field of plain texts is one word. -/
theorem oneWord_field {key value : String} (first : Plain key) (second : Plain value) :
    OneWord (field key value) :=
  ⟨field_ne_empty key value, (first.field second).blank⟩

/-- One pass over the text decides whether it is plain. -/
theorem plain_of_all {value : String}
    (checked : value.toList.all (fun character => !isSpace character &&
      !isLineBoundary character) = true) : Plain value := by
  have each (character : Char) (member : character ∈ value.toList) :
      isSpace character = false ∧ isLineBoundary character = false := by
    simpa using List.all_eq_true.mp checked character member
  exact ⟨fun character member => Bool.eq_false_iff.mp (each character member).1,
    fun character member => Bool.eq_false_iff.mp (each character member).2⟩

theorem plain_hexDigits : Plain "0123456789abcdef" := plain_of_all rfl

theorem plain_hexdigest (data : Bytes) : Plain (Sha256.hexdigest data) :=
  ⟨fun character member => plain_hexDigits.blank character (Sha256.mem_hexdigest member),
    fun character member => plain_hexDigits.boundary character (Sha256.mem_hexdigest member)⟩

theorem plain_event : Plain "event" := plain_of_all rfl

theorem plain_groupId : Plain "group_id" := plain_of_all rfl

theorem plain_before : Plain "before_sha256" := plain_of_all rfl

theorem plain_after : Plain "after_sha256" := plain_of_all rfl

theorem plain_bindingMutation : Plain "binding_mutation" := plain_of_all rfl

theorem plain_stripMutation : Plain "strip_mutation" := plain_of_all rfl

section Line
variable {event groupId : String} (data forged : Bytes)

/-- A log line has four fields. -/
theorem mutationLine_eq : mutationLine event groupId data forged =
    field "event" event ++ " " ++ (field "group_id" groupId ++ " " ++
      (field "before_sha256" (Sha256.hexdigest data) ++ " " ++
        field "after_sha256" (Sha256.hexdigest forged))) := by
  apply String.toList_injective
  show ("event=" ++ event ++ " group_id=" ++ groupId ++ " before_sha256=" ++
    Sha256.hexdigest data ++ " " ++ ("after_sha256=" ++ Sha256.hexdigest forged)).toList = _
  simp [field]

/-- The words of a log line are its fields. -/
theorem splitWords_mutationLine (plainEvent : Plain event) (plainGroup : Plain groupId) :
    splitWords (mutationLine event groupId data forged) =
      [field "event" event, field "group_id" groupId,
        field "before_sha256" (Sha256.hexdigest data),
        field "after_sha256" (Sha256.hexdigest forged)] := by
  rw [mutationLine_eq,
    splitWords_append (oneWord_field plain_event plainEvent),
    splitWords_append (oneWord_field plain_groupId plainGroup),
    splitWords_append (oneWord_field plain_before (plain_hexdigest data)),
    splitWords_of_oneWord (oneWord_field plain_after (plain_hexdigest forged))]

theorem separator_mem_field (key value : String) : '=' ∈ (field key value).toList := by
  simp [field]

theorem lineFields_mutationLine (plainEvent : Plain event) (plainGroup : Plain groupId) :
    lineFields (mutationLine event groupId data forged) =
      (((Dict.empty.set "event" event).set "group_id" groupId).set
        "before_sha256" (Sha256.hexdigest data)).set "after_sha256" (Sha256.hexdigest forged) := by
  rw [lineFields, splitWords_mutationLine data forged plainEvent plainGroup]
  rw [List.filter_eq_self.mpr]
  · simp only [List.foldl_cons, List.foldl_nil, field]
    rw [splitOnce_append (by decide), splitOnce_append (by decide), splitOnce_append (by decide),
      splitOnce_append (by decide)]
  · simp [separator_mem_field]

/-- The line of a binding mutation counts exactly when its digests differ. -/
theorem isBindingMutation_mutationLine (plainGroup : Plain groupId) :
    isBindingMutation (mutationLine "binding_mutation" groupId data forged) =
      (Sha256.hexdigest data != Sha256.hexdigest forged) := by
  rw [isBindingMutation, lineFields_mutationLine data forged plain_bindingMutation plainGroup]
  have before : (Sha256.hexdigest data != "") = true :=
    bne_iff_ne.mpr (Sha256.hexdigest_ne_empty data)
  have after : (Sha256.hexdigest forged != "") = true :=
    bne_iff_ne.mpr (Sha256.hexdigest_ne_empty forged)
  simp only [Dict.get?_set, String.reduceEq, if_true, if_false, Option.any_some, before, after,
    beq_self_eq_true, Bool.true_and]
  rfl

/-- The line of a strip mutation counts exactly when its digests differ. -/
theorem isStripMutation_mutationLine (plainGroup : Plain groupId) :
    isStripMutation (mutationLine "strip_mutation" groupId data forged) =
      (Sha256.hexdigest data != Sha256.hexdigest forged) := by
  rw [isStripMutation, lineFields_mutationLine data forged plain_stripMutation plainGroup]
  simp only [Dict.get?_set, String.reduceEq, if_true, if_false, beq_self_eq_true, Bool.true_and]
  rfl

/-- A log line is one line. -/
theorem oneLine_mutationLine (plainEvent : Plain event) (plainGroup : Plain groupId) :
    OneLine (mutationLine event groupId data forged) := by
  have blank : ∀ character ∈ " ".toList, ¬isLineBoundary character := by
    intro character member
    rw [List.mem_singleton.mp member]
    decide
  constructor
  · intro empty
    have none := congrArg String.toList empty
    simp [mutationLine_eq, field] at none
  · rw [mutationLine_eq]
    simp only [String.toList_append, List.forall_mem_append]
    exact ⟨⟨(plain_event.field plainEvent).boundary, blank⟩,
      ⟨(plain_groupId.field plainGroup).boundary, blank⟩,
      ⟨(plain_before.field (plain_hexdigest data)).boundary, blank⟩,
      (plain_after.field (plain_hexdigest forged)).boundary⟩

end Line

end FaultInject.MutationLog
