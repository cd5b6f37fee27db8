import Scriptwright.Proofs.Accounting
import Scriptwright.Proofs.Reading
/-!
# Scripts with nothing to convert

A script is rejected as empty by a look at its text: there is nothing in it but blanks.  Its lines are read from the text
without the marks in front.  A line end is blank, so the text without marks is blank exactly if all lines are
(`lines_blank_iff`); but a mark is not blank, and a text that begins with one is converted even if it has no line at all
(`mark_alone_is_converted`).
-/
namespace Scriptwright

open Text (mark dropMarks allBlank isBlank)

theorem Text.allBlank_iff_dropMarks {t : Text} :
    allBlank t = true ↔ allBlank (dropMarks t) = true ∧ t.head? ≠ some mark := by
  by_cases hmark : t.head? = some mark
  · obtain ⟨r, rfl⟩ := List.head?_eq_some_iff.1 hmark
    refine iff_of_false (fun h => ?_) fun h => h.2 rfl
    cases (Text.allBlank_cons.1 h).1
  · rw [Text.dropMarks_of_head? hmark]
    exact (and_iff_left hmark).symm

namespace Script

theorem LineEnd.allBlank_text (e : LineEnd) : allBlank e.text = true := by
  cases e <;> rfl

theorem Layout.allBlank_iff {ls : List Text} {t : Text} (h : Layout ls t) :
    allBlank t = true ↔ ∀ l ∈ ls, allBlank l = true := by
  induction h with
  | nothing => simp [allBlank]
  | unended hne hl => simp
  | ended e hl he h ih =>
    rw [Text.allBlank_append, Text.allBlank_append, ih, List.forall_mem_cons]
    simp [e.allBlank_text]

/-- **All lines of a script are blank exactly if its text is**, the marks in front apart. -/
theorem lines_blank_iff {t : Text} : (∀ l ∈ lines t, l.text = []) ↔ allBlank (dropMarks t) = true := by
  rw [(layout_physicalLines t).1.allBlank_iff, ← numberFrom_raw 1 (physicalLines t), List.forall_mem_map]
  exact forall₂_congr fun l _ => Text.trim_eq_nil_iff

end Script

namespace Workspace

/-- **A text is rejected as empty exactly if all its lines are blank and no mark stands in front of it**, and it is
converted in all other cases; whatever dialect and language are asked for by names that mean something. -/
theorem rejected_as_empty_iff (w : Workspace) {name : Value} {d : Dialect} (hname : Dialect.ofValue name = .ok d)
    (hint : Value) (label t : Text) :
    ∃ r, w.convertTextNamed name (Language.ofValue hint) label t = .ok ([], r) ∧
      (r.status = .emptyInput ↔ (∀ l ∈ Script.lines t, l.text = []) ∧ t.head? ≠ some mark) ∧
      (r.report?.isSome = true ↔ (∃ l ∈ Script.lines t, l.text ≠ []) ∨ t.head? = some mark) := by
  have hempty := Text.allBlank_iff_dropMarks (t := t)
  rw [← Script.lines_blank_iff] at hempty
  have hother : ¬ allBlank t = true ↔ (∃ l ∈ Script.lines t, l.text ≠ []) ∨ t.head? = some mark := by
    rw [hempty, not_and_or]
    simp
  rw [convertTextNamed, hname]
  simp only [convertText_eq]
  refine ⟨_, rfl, ?_⟩
  by_cases hblank : allBlank t = true
  · rw [if_pos hblank]
    exact ⟨iff_of_true rfl (hempty.1 hblank), iff_of_false Bool.false_ne_true fun h => hother.2 h hblank⟩
  · rw [if_neg hblank]
    refine ⟨iff_of_false (fun hstatus => ?_) fun h => hblank (hempty.2 h), iff_of_true rfl (hother.1 hblank)⟩
    have hrejected := Result.hasRejectionStatus_converted label ⟨convert w.settings d (Language.ofValue hint) t, none, .kept⟩
    rw [Result.hasRejectionStatus, hstatus] at hrejected
    cases hrejected

/-- Blanks of all kinds on three lines, and a name in another case with blanks around it. -/
theorem rejected_as_empty_of_mixed_blanks :
    let t := "\t\r\u2028\r\n\x1f\u3000".toList
    let w : Workspace := { root := [] }
    Dialect.ofValue (.ofString " PySpark\n") = .ok .dataProcessing ∧
    (Script.lines t).length = 3 ∧
    ∃ r, w.convertTextNamed (.ofString " PySpark\n") (Language.ofValue .null) "stdin".toList t = .ok ([], r) ∧
      r.status = .emptyInput ∧ r.report? = none := by
  intro t w
  have hkey : Dialect.key (.ofString " PySpark\n") = "pyspark".toList := by decide +kernel
  have hname : Dialect.ofValue (.ofString " PySpark\n") = .ok .dataProcessing := by
    rw [Dialect.ofValue, hkey]
    rfl
  have hlines : ∀ l ∈ Script.lines t, l.text = [] := by decide
  have hmark : t.head? ≠ some mark := by decide
  obtain ⟨r, hr, hempty, hreport⟩ := rejected_as_empty_iff w hname .null "stdin".toList t
  refine ⟨hname, by decide, r, hr, hempty.2 ⟨hlines, hmark⟩, ?_⟩
  refine Option.not_isSome_iff_eq_none.1 fun hsome => ?_
  rcases hreport.1 hsome with ⟨l, hl, hne⟩ | h
  · exact hne (hlines l hl)
  · exact hmark h

/-- **A mark alone is converted**, although there is no line to convert.  From a file the same bytes are rejected: reading the
file drops the mark before the look at its text. -/
theorem mark_alone_is_converted :
    let ws := "ws".toList
    let w : Workspace := { root := [ws] }
    let disk : Disk := { tree := ⟨[([ws], .directory), ([ws, "a.sh".toList], .file (Utf8.encode [mark]))]⟩ }
    Script.lines [mark] = [] ∧
    (∃ c : Conversion, w.convertText .general .auto "a.sh".toList [mark] = ([], .converted "a.sh".toList c) ∧
      (Result.converted "a.sh".toList c).success = true ∧ c.report.status = .converted) ∧
    w.convertFile .general .auto true disk "a.sh".toList =
      .ok ⟨disk, [], .rejected "a.sh".toList .blank⟩ := by
  intro ws w disk
  have hplace : disk.tree.resolve w.root (Path.ofText "a.sh".toList) = .ok [ws, "a.sh".toList] := by decide
  have hbytes : disk.read [ws, "a.sh".toList] = .ok (Utf8.encode [mark]) := by decide
  refine ⟨by decide, ⟨⟨convert {} .general .auto [mark], none, .kept⟩, ?_, rfl, by decide⟩, ?_⟩
  · rw [convertText_eq]
    rfl
  · rw [convertFile, reach_of_readScript hplace (readScript_of_read hbytes)]
    simp only [Except.map, convertAt_dry (readScript_of_read hbytes), convertText_eq]
    rfl

end Workspace
end Scriptwright
