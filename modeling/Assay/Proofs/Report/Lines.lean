import Assay.Proofs.Report.Verdict

/-! The lines of any report, also of one that no run has made. Its suites may be
repeated or left out, and its messages may hold line breaks or look like lines of a
report. The last line still tells the verdict, and a report without failures shows
success messages only. -/
namespace Assay

namespace Report

variable {report : Report}

theorem countText_injective : Function.Injective countText := by
  intro first second same
  have digits := congrArg String.toList same
  simp only [countText, String.toList_append, List.append_cancel_right_eq] at digits
  exact Nat.repr_inj.mp (String.toList_injective digits)

theorem not_mem_countText {mark : Char} (count : Nat) (digit : mark.isDigit = false)
    (other : mark ∉ " check(s) failed".toList) : mark ∉ (countText count).toList := by
  intro member
  rw [countText, String.toList_append, List.mem_append] at member
  rcases member with number | words
  · have numeral : (toString count).toList = Nat.toDigits 10 count := String.toList_ofList
    rw [numeral] at number
    have decimal := Nat.isDigit_of_mem_toDigits (by decide) (by decide) number
    rw [digit] at decimal
    contradiction
  · exact other words

/-- The lines that a reader sees in a text that ends with a line break. -/
def shownLines (text : String) : List String :=
  (List.splitOn '\n' text.toList.dropLast).map String.ofList

/-- The lines that a line of a report takes up. There are several when its message
holds line breaks. -/
def pieces (line : String) : List String := (List.splitOn '\n' line.toList).map String.ofList

theorem pieces_of_unbroken {line : String} (unbroken : '\n' ∉ line.toList) :
    pieces line = [line] := by
  have single : List.splitOn '\n' line.toList = [line.toList] := by
    apply List.splitOnP_eq_singleton
    intro mark member
    rw [beq_eq_false_iff_ne]
    rintro rfl
    exact unbroken member
  simp [pieces, single]

theorem pieces_intercalate {lines : List String} (nonempty : lines ≠ []) :
    pieces ("\n".intercalate lines) = lines.flatMap pieces := by
  induction lines with
  | nil => contradiction
  | cons line rest ih =>
    by_cases last : rest = []
    · simp [last]
    · have joined : ("\n".intercalate (line :: rest)).toList =
          line.toList ++ '\n' :: ("\n".intercalate rest).toList := by
        rw [String.intercalate_cons_of_ne_nil last]
        simp
      rw [List.flatMap_cons, ← ih last, pieces, joined, List.splitOn,
        List.splitOnP_append_cons _ _ (by simp), List.map_append]
      rfl

theorem shownLines_intercalate {lines : List String} (nonempty : lines ≠ []) :
    shownLines ("\n".intercalate lines ++ "\n") = lines.flatMap pieces := by
  rw [← pieces_intercalate nonempty]
  simp [shownLines, pieces]

theorem shownLines_intercalate_of_unbroken {lines : List String} (nonempty : lines ≠ [])
    (unbroken : ∀ line ∈ lines, '\n' ∉ line.toList) :
    shownLines ("\n".intercalate lines ++ "\n") = lines := by
  rw [shownLines_intercalate nonempty,
    List.flatMap_congr fun line member => pieces_of_unbroken (unbroken line member)]
  exact List.flatMap_singleton' lines

/-- Line breaks in the lines before do not reach the last one. -/
theorem getLast?_shownLines (lines : List String) {last : String} (unbroken : '\n' ∉ last.toList) :
    (shownLines ("\n".intercalate (lines ++ [last]) ++ "\n")).getLast? = some last := by
  rw [shownLines_intercalate (by simp), List.flatMap_append, List.flatMap_singleton,
    pieces_of_unbroken unbroken, List.getLast?_concat]

theorem successMessage_unbroken (suite : Suite) : '\n' ∉ suite.successMessage.toList := by
  cases suite <;> decide

theorem successMessage_ne_countText (suite : Suite) (count : Nat) :
    suite.successMessage ≠ countText count := by
  intro same
  have mark : '!' ∈ (countText count).toList := by
    rw [← same]
    cases suite <;> decide
  exact not_mem_countText count (by decide) (by decide) mark

theorem getLast?_shownLines_of_failed (failed : report.passed = false) :
    (shownLines report.text).getLast? = some (countText report.failures.length) := by
  rw [text, lines, countLine_of_failed failed]
  exact getLast?_shownLines _ (not_mem_countText _ (by decide) (by decide))

theorem shownLines_of_passed (passed : report.passed = true) :
    (report.suites.filter report.suitePassed = [] ∧ report.text = "\n") ∨
      shownLines report.text =
        (report.suites.filter report.suitePassed).map Suite.successMessage := by
  rw [text, lines_of_passed passed]
  by_cases silent : report.suites.filter report.suitePassed = []
  · left
    rw [silent]
    exact ⟨rfl, rfl⟩
  · right
    apply shownLines_intercalate_of_unbroken (by simpa using silent)
    intro line member
    obtain ⟨suite, _, rfl⟩ := List.mem_map.mp member
    exact successMessage_unbroken suite

theorem getLast?_shownLines_ne_countText (passed : report.passed = true) (count : Nat) :
    (shownLines report.text).getLast? ≠ some (countText count) := by
  intro last
  rcases shownLines_of_passed passed with ⟨_, blank⟩ | shown
  · have empty : (shownLines report.text).getLast? = some "" := by
      rw [blank]
      rfl
    have mark : 'd' ∈ (countText count).toList := by
      simp [countText]
    rw [← Option.some.inj (empty.symm.trans last)] at mark
    simp at mark
  · rw [shown] at last
    obtain ⟨suite, _, same⟩ := List.mem_map.mp (List.mem_of_getLast? last)
    exact successMessage_ne_countText suite count same

/-- The text of a report ends with a line break. Its last line counts failures just
when the verdict is a failure, and then gives the number of failed checks, which is
positive. Otherwise the lines are the success messages of the listed suites that
pass, in order, or the text is a single line break. -/
theorem text_lastLine (report : Report) :
    report.text.toList.getLast? = some '\n' ∧
    ((∃ count, (shownLines report.text).getLast? = some (countText count)) ↔
      report.passed = false) ∧
    (∀ count, (shownLines report.text).getLast? = some (countText count) →
      0 < count ∧ count = report.failures.length) ∧
    (report.passed = true →
      (report.suites.filter report.suitePassed = [] ∧ report.text = "\n") ∨
        shownLines report.text =
          (report.suites.filter report.suitePassed).map Suite.successMessage) := by
  have failing {count : Nat} (last : (shownLines report.text).getLast? = some (countText count)) :
      report.passed = false := by
    rw [← Bool.not_eq_true]
    exact fun passed => getLast?_shownLines_ne_countText passed count last
  refine ⟨?_, ⟨?_, ?_⟩, ?_, shownLines_of_passed⟩
  · simp [text]
  · rintro ⟨count, last⟩
    exact failing last
  · intro failed
    exact ⟨_, getLast?_shownLines_of_failed failed⟩
  · intro count last
    have failed := failing last
    have counted := (getLast?_shownLines_of_failed failed).symm.trans last
    have same := countText_injective (Option.some.inj counted)
    rw [← same]
    exact ⟨List.length_pos_of_ne_nil (failures_ne_nil_iff.mpr failed), rfl⟩

/-- A report with a message that ends in a count of its own, and with a failure of a
suite that it does not list. -/
def misleading : Report :=
  ⟨[.records, .records],
    [⟨.records, "first", .failed "\n7 check(s) failed"⟩,
      ⟨.arithmetic, "second", .failed "All tests passed!"⟩]⟩

/-- A report without failures in which one of the suites is not complete. -/
def fragment : Report :=
  ⟨[.records, .statistics], [⟨.statistics, "first", .passed⟩, ⟨.statistics, "second", .passed⟩]⟩

theorem misleading_lastLine :
    misleading.passed = false ∧
      (shownLines misleading.text).getLast? = some "2 check(s) failed" ∧
      fragment.passed = true ∧
      shownLines fragment.text = ["All class method tests passed!"] := by
  have failed : misleading.passed = false := by decide
  have passed : fragment.passed = true := by decide
  obtain ⟨_, verdict, counts, _⟩ := text_lastLine misleading
  obtain ⟨_, _, _, successes⟩ := text_lastLine fragment
  obtain ⟨count, last⟩ := verdict.mpr failed
  obtain ⟨_, rfl⟩ := counts count last
  refine ⟨failed, last.trans rfl, passed, ?_⟩
  rcases successes passed with ⟨silent, _⟩ | shown
  · exact absurd silent (by decide)
  · exact shown.trans rfl

end Report

end Assay
