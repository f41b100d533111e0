import Mathlib.Data.List.Induction
import RuntimeContracts.Contract.Violation

/-!
# Citations of several assertions

Several assertions are cited one to a line. Each line is written with the line break that ends it,
and the white space at the end of the whole is cut off. Display names come from outside: one may end
in white space, or hold nothing else. The cut does not reach it, as every line has a quotation mark
between its name and its line break.

* `Violation.oneToALine`: the citation that is meant, where each line break stands before its line.
* `Violation.citationLines_concat`, `Violation.oneToALine_concat`: one more name, written and meant.
* `Violation.heading_append_citationLines`: after any number of names, what is written is what is
  meant and one line break.
* `Violation.trimEnd_heading_append_citationLines`: so what is meant is what the cut leaves.
* `Violation.citation_keeps_every_name`: the law for citations.
-/
namespace RuntimeContracts.Violation

/-! ## Lines -/

/-- Names in quotes behind the heading, each on a line of its own. Nothing follows the last one. -/
def oneToALine (names : List String) : String :=
  "assertions" ++ String.join (names.map fun name => "\n\t\"" ++ name ++ "\"")

theorem citationLines_concat (names : List String) (name : String) :
    citationLines (names ++ [name]) = citationLines names ++ ("\t\"" ++ name ++ "\"\n") := by
  simp [citationLines]

theorem oneToALine_concat (names : List String) (name : String) :
    oneToALine (names ++ [name]) = oneToALine names ++ "\n\t\"" ++ name ++ "\"" := by
  simp [oneToALine, String.append_assoc]

/-- After every name that is written, one line break is too much, and nothing else is. -/
theorem heading_append_citationLines (names : List String) :
    "assertions\n" ++ citationLines names = oneToALine names ++ "\n" := by
  -- Lines are written at the end, so the line break that was too much becomes that of the new line.
  induction names using List.reverseRecOn with
  | nil => rfl
  | append_singleton earlier last ih =>
    calc "assertions\n" ++ citationLines (earlier ++ [last])
      _ = ("assertions\n" ++ citationLines earlier) ++ ("\t\"" ++ last ++ "\"\n") := by
        rw [citationLines_concat, ← String.append_assoc]
      _ = (oneToALine earlier ++ "\n") ++ ("\t\"" ++ last ++ "\"\n") := by rw [ih]
      _ = (oneToALine earlier ++ "\n\t\"" ++ last ++ "\"") ++ "\n" := by
        rw [← String.toList_inj]
        simp
      _ = oneToALine (earlier ++ [last]) ++ "\n" := by rw [oneToALine_concat]

/-- The last line ends in its quotation mark, whatever its name ends in. -/
theorem isSpace_of_getLast?_oneToALine {names : List String} {c : Char}
    (hc : (oneToALine names).toList.getLast? = some c) : Text.isSpace c = false := by
  rcases List.eq_nil_or_concat names with rfl | ⟨earlier, last, rfl⟩
  · have hheading : (oneToALine []).toList.getLast? = some 's' := by decide
    cases hheading.symm.trans hc
    decide
  · have hquote : (oneToALine (earlier ++ [last])).toList.getLast? = some '"' := by
      rw [oneToALine_concat, String.toList_append]
      exact List.getLast?_concat
    rw [List.concat_eq_append] at hc
    cases hquote.symm.trans hc
    decide

theorem trimEnd_heading_append_citationLines (names : List String) :
    Text.trimEnd ("assertions\n" ++ citationLines names) = oneToALine names := by
  rw [Text.trimEnd_eq_iff]
  refine ⟨fun _ => isSpace_of_getLast?_oneToALine, "\n", ?_, heading_append_citationLines names⟩
  decide

/-! ## Citations -/

theorem citation_of_two_le {v : Violation} (h : 2 ≤ v.cited.length) :
    v.citation = Text.trimEnd ("assertions\n" ++ citationLines v.cited) := by
  obtain ⟨clause, index, value, cited⟩ := v
  match cited, h with
  | _ :: _ :: _, _ => rfl

theorem citation_eq_oneToALine {v : Violation} (h : 2 ≤ v.cited.length) :
    v.citation = oneToALine v.cited := by
  rw [citation_of_two_le h, trimEnd_heading_append_citationLines]

/-- **A citation keeps every name as it is.** Two names or more are cited in order, each in quotes
on a line of its own, whatever characters they hold. What is cut off from the text with all lines
is the line break behind the last one, and nothing else. -/
theorem citation_keeps_every_name (v : Violation) (h : 2 ≤ v.cited.length) :
    v.citation = "assertions" ++ String.join (v.cited.map fun name => "\n\t\"" ++ name ++ "\"") ∧
      v.citation = Text.trimEnd ("assertions\n" ++ citationLines v.cited) ∧
      "assertions\n" ++ citationLines v.cited = v.citation ++ "\n" := by
  have hcitation : v.citation = oneToALine v.cited := citation_eq_oneToALine h
  refine ⟨hcitation, citation_of_two_le h, ?_⟩
  rw [hcitation, heading_append_citationLines]

/-- Names that end in white space of several kinds, that hold nothing else, or nothing at all. -/
theorem citation_keeps_every_name_of_blank :
    let v : Violation := ⟨.either, 0, "x", ["end \u2003", "\"\n", "\t\r\n ", ""]⟩
    2 ≤ v.cited.length ∧
      v.citation = "assertions\n\t\"end \u2003\"\n\t\"\"\n\"\n\t\"\t\r\n \"\n\t\"\"" ∧
      "assertions\n" ++ citationLines v.cited = v.citation ++ "\n" := by
  intro v
  have h : 2 ≤ v.cited.length := by decide
  obtain ⟨hnames, -, hcut⟩ := citation_keeps_every_name v h
  exact ⟨h, hnames.trans (by decide), hcut⟩

end RuntimeContracts.Violation
