import PriorArt.Proofs.Text.Blank
import PriorArt.Text.Fence

/-!
# Texts between fences

`unfence` gives what stands between the lines of a fence, whatever that is (`unfence_fenced`). Of a
text that does not begin with a mark it takes the blank space around it alone (`unfence_bare`).
-/

namespace PriorArt.Text

/-- A text between the two lines of a fence. After the opening mark stands a note, such as the name
of a language. -/
def fencedList (note body : List Char) : List Char :=
  fenceMark ++ note ++ '\n' :: (body ++ '\n' :: fenceMark)

theorem isBlank_getLast?_append_fenceMark (cs : List Char) :
    ∀ c ∈ (cs ++ fenceMark).getLast?, isBlank c = false := by
  intro c last
  rw [List.getLast?_append] at last
  cases last
  decide

section Fenced

variable {note body : List Char}

theorem trimList_fencedList (note body : List Char) :
    trimList (fencedList note body) = fencedList note body := by
  refine trimList_eq_self ?_ ?_
  · intro c first
    cases first
    decide
  · have ending : fencedList note body =
        (fenceMark ++ note ++ '\n' :: (body ++ ['\n'])) ++ fenceMark := by
      simp [fencedList]
    rw [ending]
    exact isBlank_getLast?_append_fenceMark _

theorem afterOpening_fencedList (oneLine : '\n' ∉ note) (body : List Char) :
    afterOpening (fencedList note body) = body ++ '\n' :: fenceMark := by
  have noBreak : ∀ c ∈ fenceMark ++ note, decide (c ≠ '\n') = true := by
    intro c member
    rcases List.mem_append.1 member with mark | inNote
    · have notBreak : '\n' ∉ fenceMark := by decide
      exact decide_eq_true fun same => notBreak (same ▸ mark)
    · exact decide_eq_true fun same => oneLine (same ▸ inNote)
  have rest : (fencedList note body).dropWhile (fun c => decide (c ≠ '\n')) =
      '\n' :: (body ++ '\n' :: fenceMark) := by
    rw [fencedList, List.dropWhile_append_of_pos noBreak, List.dropWhile_cons_of_neg]
    decide
  rw [afterOpening, rest]

/-- Of the marks at the end only the closing one is taken: before it stands a line break. -/
theorem dropEndMarks_closing (cs : List Char) :
    dropEndMarks (cs ++ '\n' :: fenceMark) = cs ++ ['\n'] := by
  rw [dropEndMarks, List.reverse_append]
  simp [fenceMark, dropMarks]

theorem trimList_dropEndMarks (trimmed : trimList body = body) :
    trimList (dropEndMarks (trimList (body ++ '\n' :: fenceMark))) = body := by
  have lineBreak : ∀ c ∈ ['\n'], isBlank c = true := by
    intro c member
    rw [List.mem_singleton.1 member]
    decide
  cases body with
  | nil => decide
  | cons first rest =>
    have kept : trimList (first :: rest ++ '\n' :: fenceMark) =
        first :: rest ++ '\n' :: fenceMark := by
      refine trimList_eq_self ?_ ?_
      · intro c head
        have headOfTrimmed : c ∈ (trimList (first :: rest)).head? := by
          rw [trimmed]
          exact head
        exact isBlank_head?_trimList c headOfTrimmed
      · have ending : first :: rest ++ '\n' :: fenceMark =
            (first :: rest ++ ['\n']) ++ fenceMark := by simp
        rw [ending]
        exact isBlank_getLast?_append_fenceMark _
    have atEnd : trimList ([] ++ (first :: rest) ++ ['\n']) = trimList (first :: rest) :=
      trimList_between (by simp) lineBreak (first :: rest)
    rw [kept, dropEndMarks_closing]
    rwa [trimmed] at atEnd

theorem unfenceList_fencedList (trimmed : trimList body = body) (oneLine : '\n' ∉ note)
    {before after : List Char} (blankBefore : ∀ c ∈ before, isBlank c = true)
    (blankAfter : ∀ c ∈ after, isBlank c = true) :
    unfenceList (before ++ fencedList note body ++ after) = body := by
  have opens : fenceMark.isPrefixOf (fencedList note body) = true := by
    rw [List.isPrefixOf_iff_prefix, fencedList, List.append_assoc]
    exact List.prefix_append ..
  rw [unfenceList, trimList_between blankBefore blankAfter, trimList_fencedList, if_pos opens,
    afterOpening_fencedList oneLine, trimList_dropEndMarks trimmed]

/-- Of a text that does not begin with a mark the blank space around it is taken away, and nothing
else. -/
theorem unfenceList_bare (trimmed : trimList body = body) (plain : ¬ fenceMark <+: body)
    {before after : List Char} (blankBefore : ∀ c ∈ before, isBlank c = true)
    (blankAfter : ∀ c ∈ after, isBlank c = true) :
    unfenceList (before ++ body ++ after) = body := by
  rw [unfenceList, trimList_between blankBefore blankAfter, trimmed,
    if_neg (mt List.isPrefixOf_iff_prefix.1 plain)]

end Fenced

/-- A text between the two lines of a fence. -/
def fenced (note body : String) : String :=
  String.ofList (fencedList note.toList body.toList)

section Strings

variable {note body before after : String}

theorem unfence_fenced (trimmed : trim body = body) (oneLine : '\n' ∉ note.toList)
    (blankBefore : isBlankText before = true) (blankAfter : isBlankText after = true) :
    unfence (before ++ fenced note body ++ after) = body := by
  have chars : trimList body.toList = body.toList := by
    rw [← toList_trim, trimmed]
  have form : (before ++ fenced note body ++ after).toList =
      before.toList ++ fencedList note.toList body.toList ++ after.toList := by
    simp [fenced]
  rw [unfence, form, unfenceList_fencedList chars oneLine (List.all_eq_true.1 blankBefore)
    (List.all_eq_true.1 blankAfter), String.ofList_toList]

theorem unfence_bare (trimmed : trim body = body) (plain : ¬ fenceMark <+: body.toList)
    (blankBefore : isBlankText before = true) (blankAfter : isBlankText after = true) :
    unfence (before ++ body ++ after) = body := by
  have chars : trimList body.toList = body.toList := by
    rw [← toList_trim, trimmed]
  rw [unfence, String.toList_append, String.toList_append, unfenceList_bare chars plain
    (List.all_eq_true.1 blankBefore) (List.all_eq_true.1 blankAfter), String.ofList_toList]

end Strings

end PriorArt.Text
