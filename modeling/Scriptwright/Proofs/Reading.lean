import Scriptwright.Batch.Named
import Scriptwright.Proofs.Integrity
import Scriptwright.Proofs.Isolation
import Scriptwright.Proofs.Layout
import Scriptwright.Proofs.Utf8
/-!
# A script in a file and the same script as a text

Two layers tidy up a script.  Reading its file drops one mark in front and unifies the line ends; reading its lines drops
all marks in front and unifies the line ends once more.  The first leaves the second nothing else to do: the lines of the
text as the file gives it are the lines of the text (`lines_asRead`).  Conversion and its check depend on nothing else, so
a script with a line that is not blank is converted from its file as it is from its text (`file_agrees_with_text`).
-/
namespace Scriptwright

open Text (mark unifyNewlines dropMark dropMarks allBlank isBlank)

/-! ## Tidying up twice -/

namespace Text

theorem return_not_mem_unifyNewlines (t : Text) : '\r' ∉ unifyNewlines t := by
  fun_induction unifyNewlines t with
  | case1 => exact List.not_mem_nil
  | case2 rest ih => simpa using ih
  | case3 rest hne ih => simpa using ih
  | case4 c rest hboth hreturn ih =>
    exact List.not_mem_cons_of_ne_of_not_mem (fun hc => hreturn hc.symm) ih

theorem unifyNewlines_unifyNewlines (t : Text) : unifyNewlines (unifyNewlines t) = unifyNewlines t :=
  unifyNewlines_of_not_mem (return_not_mem_unifyNewlines t)

theorem dropMarks_cons_mark (t : Text) : dropMarks (mark :: t) = dropMarks t := List.dropWhile_cons_of_pos (by simp)

/-- Marks are no line ends. -/
theorem dropMarks_unifyNewlines (t : Text) : dropMarks (unifyNewlines t) = unifyNewlines (dropMarks t) := by
  have hfeed : ∀ x : Text, dropMarks ('\n' :: x) = '\n' :: x := fun x => dropMarks_of_head? (by simp; decide)
  have hreturn : ∀ x : Text, dropMarks ('\r' :: x) = '\r' :: x := fun x => dropMarks_of_head? (by simp; decide)
  fun_induction unifyNewlines t with
  | case1 => rfl
  | case2 rest ih => rw [hfeed, hreturn, unifyNewlines]
  | case3 rest hne ih => rw [hfeed, hreturn, unifyNewlines]; exact hne
  | case4 c rest hboth hother ih =>
    by_cases hc : c = mark
    · rw [hc, dropMarks_cons_mark, dropMarks_cons_mark, ih]
    · have hkeep : ∀ x : Text, dropMarks (c :: x) = c :: x := fun x => dropMarks_of_head? (by simpa using hc)
      rw [hkeep, hkeep, unifyNewlines_other rest hother]

theorem dropMarks_dropMark (t : Text) : dropMarks (dropMark t) = dropMarks t := by
  unfold dropMark
  split
  · rename_i h
    obtain ⟨t', rfl⟩ := List.head?_eq_some_iff.1 h
    exact (dropMarks_cons_mark t').symm
  · rfl

/-- What a file that holds the text is read as. -/
def asRead (t : Text) : Text := unifyNewlines (dropMark t)

end Text

namespace Script

open Text (asRead)

/-- **The lines of a text are the lines of what its file is read as.** -/
theorem lines_asRead (t : Text) : lines (asRead t) = lines t := by
  unfold lines physicalLines asRead
  rw [Text.dropMarks_unifyNewlines, Text.unifyNewlines_unifyNewlines, Text.dropMarks_dropMark]

/-! ## Lines that are not blank -/

theorem Layout.subset {ls : List Text} {t : Text} (h : Layout ls t) : ∀ l ∈ ls, l ⊆ t := by
  induction h with
  | nothing => simp
  | unended hne hl => simp
  | ended e hl he h ih =>
    refine List.forall_mem_cons.2 ⟨fun c hc => ?_, fun l hl c hc => ?_⟩
    · exact List.mem_append_left _ (List.mem_append_left _ hc)
    · exact List.mem_append_right _ (ih l hl hc)

theorem raw_subset {t : Text} {l : Line} (h : l ∈ lines t) : l.raw ⊆ t := by
  have hraw : l.raw ∈ physicalLines t := by
    rw [← numberFrom_raw 1 (physicalLines t)]
    exact List.mem_map_of_mem h
  exact List.Subset.trans ((layout_physicalLines t).1.subset _ hraw) (List.dropWhile_suffix _).subset

theorem text_of_blank {l : Line} (h : ∀ c ∈ l.raw, isBlank c = true) : l.text = [] :=
  Text.trim_eq_iff.2 ⟨⟨by simp, by simp⟩, l.raw, [], by simp, h, by simp⟩

/-- A script that has a line with something on it is not blank. -/
theorem not_allBlank_of_line {t : Text} (h : ∃ x ∈ lines t, x.text ≠ []) : allBlank t = false := by
  obtain ⟨l, hl, hne⟩ := h
  refine Bool.eq_false_iff.2 fun hblank => hne (text_of_blank fun c hc => ?_)
  exact List.all_eq_true.1 hblank c (raw_subset hl hc)

end Script

/-! ## Conversion -/

theorem convert_asRead (s : Settings) (d : Dialect) (language : Language) (t : Text) :
    convert s d language t.asRead = convert s d language t := by
  unfold convert
  rw [Script.lines_asRead]

namespace Workspace

variable {w : Workspace} {disk : Disk} {file t : Text} {l : Location}

theorem convertText_of_line (w : Workspace) (h : ∃ x ∈ Script.lines t, x.text ≠ []) (d : Dialect) (language : Language)
    (label : Text) :
    w.convertText d language label t = ([], .converted label ⟨convert w.settings d language t, none, .kept⟩) := by
  rw [convertText_eq, Script.not_allBlank_of_line h]
  rfl

theorem readScript_of_read (h : disk.read l = .ok (Utf8.encode t)) : readScript disk l = .ok t.asRead := by
  rw [readScript, h]
  simp only [Utf8.readMarkedText_encode]
  rfl

theorem convertFile_of_line (hplace : disk.tree.resolve w.root (Path.ofText file) = .ok l)
    (hbytes : disk.read l = .ok (Utf8.encode t)) (h : ∃ x ∈ Script.lines t, x.text ≠ []) (d : Dialect)
    (language : Language) :
    w.convertFile d language true disk file =
      .ok ⟨disk, [], .converted file ⟨convert w.settings d language t, none, .kept⟩⟩ := by
  have hread : ∃ x ∈ Script.lines t.asRead, x.text ≠ [] := by rwa [Script.lines_asRead]
  rw [convertFile, reach_of_readScript hplace (readScript_of_read hbytes)]
  simp only [Except.map, convertAt_dry (readScript_of_read hbytes), convertText_of_line w hread, convert_asRead]

/-- **A script is converted from its file as it is from its text**, if one of its lines is not blank.  The file holds the
bytes of the text, and nothing is written.  Both conversions have the same report and no fault and differ in their labels
alone; a dialect asked for by a name that means nothing is refused by both. -/
theorem file_agrees_with_text (hplace : disk.tree.resolve w.root (Path.ofText file) = .ok l)
    (hbytes : disk.read l = .ok (Utf8.encode t)) (hline : ∃ x ∈ Script.lines t, x.text ≠ []) (d : Dialect)
    (language : Language) :
    let c : Conversion := ⟨convert w.settings d language t, none, .kept⟩
    w.convertFile d language true disk file = .ok ⟨disk, [], .converted file c⟩ ∧
    (∀ label, w.convertText d language label t = ([], .converted label c)) ∧
    ∀ name : Value, w.convertFileNamed name language true disk file =
      .ok ((w.convertTextNamed name language file t).map fun p => ⟨disk, p.1, p.2⟩) := by
  intro c
  refine ⟨convertFile_of_line hplace hbytes hline d language, convertText_of_line w hline d language, fun name => ?_⟩
  rw [convertFileNamed, convertTextNamed]
  cases Dialect.ofValue name with
  | ok d' =>
    simp only [convertFile_of_line hplace hbytes hline, convertText_of_line w hline]
    rfl
  | error u =>
    simp only [convertFile_of_line hplace hbytes hline, convertText_of_line w hline]
    rfl

/-- Two marks, all three line ends and a blank line in front. -/
theorem file_agrees_with_text_mixed_ends :
    let ws := "ws".toList
    let w : Workspace := { root := [ws] }
    let t := mark :: mark :: "\r \r\nx=1\necho é".toList
    let disk : Disk := { tree := ⟨[([ws], .directory), ([ws, "a.sh".toList], .file (Utf8.encode t))]⟩ }
    disk.tree.resolve w.root (Path.ofText "a.sh".toList) = .ok [ws, "a.sh".toList] ∧
    disk.read [ws, "a.sh".toList] = .ok (Utf8.encode t) ∧ (∃ x ∈ Script.lines t, x.text ≠ []) ∧
    ∃ c : Conversion, w.convertFile .general .auto true disk "a.sh".toList = .ok ⟨disk, [], .converted "a.sh".toList c⟩ ∧
      w.convertText .general .auto "stdin".toList t = ([], .converted "stdin".toList c) := by
  intro ws w t disk
  have hplace : disk.tree.resolve w.root (Path.ofText "a.sh".toList) = .ok [ws, "a.sh".toList] := by decide
  have hbytes : disk.read [ws, "a.sh".toList] = .ok (Utf8.encode t) := by decide
  have hline : ∃ x ∈ Script.lines t, x.text ≠ [] := ⟨⟨3, "x=1".toList⟩, by decide, by decide⟩
  obtain ⟨hfile, htext, -⟩ := file_agrees_with_text hplace hbytes hline .general .auto
  exact ⟨hplace, hbytes, hline, _, hfile, htext "stdin".toList⟩

end Workspace
end Scriptwright
