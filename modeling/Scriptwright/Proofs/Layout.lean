import Mathlib.Data.List.Basic
import Mathlib.Data.List.TakeWhile
import Scriptwright.Proofs.Text
import Scriptwright.Script.Line
/-!
# Lines and their layouts

A list of lines can be laid out as a text in many ways: marks in front, one of three line ends behind each line, and none
behind the last line if there is anything in it.  `Layout` says which texts are layouts of which lines.  Reading the
lines of a text is the inverse of laying lines out: every layout is read back (`cutLines_of_layout`) and every text is
a layout of the lines that are read from it (`layout_cutLines`).

All of it rests on one equation.  Where two texts meet at a line end, the lines of both together are the lines of the
first followed by the lines of the second (`cutLines_append`).  Two meet there unless the one ends within a line, or the
carriage return at its end and the line feed after it are one line end.
-/
namespace Scriptwright
namespace Text

/-! ## Line ends made one -/

/-- The first text ends in a line end of its own. -/
def MeetAtLineEnd (a b : Text) : Prop :=
  a.getLast? = some '\n' ∨ (a.getLast? = some '\r' ∧ b.head? ≠ some '\n')

theorem unifyNewlines_return {t : Text} (h : t.head? ≠ some '\n') :
    unifyNewlines ('\r' :: t) = '\n' :: unifyNewlines t := by
  cases t with
  | nil => rfl
  | cons c cs =>
    have hc : c ≠ '\n' := fun hc => h (by rw [hc]; rfl)
    rw [unifyNewlines]
    rintro rest ⟨rfl, -⟩
    exact hc rfl

theorem unifyNewlines_other {c : Char} (t : Text) (hc : c ≠ '\r') :
    unifyNewlines (c :: t) = c :: unifyNewlines t := by
  rw [unifyNewlines]
  · rintro rest rfl
    exact absurd rfl hc
  · rintro rfl
    exact absurd rfl hc

theorem unifyNewlines_of_not_mem : ∀ {t : Text}, '\r' ∉ t → unifyNewlines t = t
  | [], _ => rfl
  | c :: t, h => by
    obtain ⟨hc, ht⟩ := List.ne_and_not_mem_of_not_mem_cons h
    rw [unifyNewlines_other t hc.symm, unifyNewlines_of_not_mem ht]

theorem getLast?_cons_of_some {c x : Char} {t : Text} (h : t.getLast? = some x) : (c :: t).getLast? = some x := by
  rw [List.getLast?_cons, h]
  rfl

/-- **Line ends of two texts are unified apart**, unless one line end is torn between them. -/
theorem unifyNewlines_append {a b : Text} (h : a.getLast? = some '\r' → b.head? ≠ some '\n') :
    unifyNewlines (a ++ b) = unifyNewlines a ++ unifyNewlines b := by
  fun_induction unifyNewlines a with
  | case1 => rfl
  | case2 rest ih =>
    have hrest := ih fun hr => h (getLast?_cons_of_some (getLast?_cons_of_some hr))
    rw [List.cons_append, List.cons_append, unifyNewlines, hrest, List.cons_append]
  | case3 rest hne ih =>
    have hrest := ih fun hr => h (getLast?_cons_of_some hr)
    -- only at the very end of `a` can the line feed that belongs to the carriage return stand in `b`
    have hhead : (rest ++ b).head? ≠ some '\n' := by
      cases rest with
      | nil => exact h rfl
      | cons c cs =>
        intro hc
        obtain rfl : c = '\n' := by simpa using hc
        exact hne cs rfl
    rw [List.cons_append, unifyNewlines_return hhead, hrest, List.cons_append]
  | case4 c rest hboth hreturn ih =>
    have hrest := ih fun hr => h (getLast?_cons_of_some hr)
    rw [List.cons_append, unifyNewlines_other _ hreturn, hrest, List.cons_append]

theorem getLast?_unifyNewlines (t : Text) :
    (unifyNewlines t).getLast? = t.getLast?.map fun c => if c = '\r' then '\n' else c := by
  fun_induction unifyNewlines t with
  | case1 => rfl
  | case2 rest ih =>
    rw [List.getLast?_cons, ih, List.getLast?_cons, List.getLast?_cons]
    cases rest.getLast? <;> simp
  | case3 rest hne ih =>
    rw [List.getLast?_cons, ih, List.getLast?_cons]
    cases rest.getLast? <;> simp
  | case4 c rest hboth hreturn ih =>
    have hc : ¬ c = '\r' := hreturn
    rw [List.getLast?_cons, ih, List.getLast?_cons]
    cases rest.getLast? <;> simp [hc]

/-! ## Marks -/

theorem dropMarks_of_head? {t : Text} (h : t.head? ≠ some mark) : dropMarks t = t := by
  cases t with
  | nil => rfl
  | cons c cs =>
    have hc : c ≠ mark := fun hc => h (by rw [hc]; rfl)
    simp [dropMarks, hc]

theorem dropMarks_replicate_append (n : Nat) {t : Text} (h : t.head? ≠ some mark) :
    dropMarks (List.replicate n mark ++ t) = t := by
  have hmarks : ∀ c ∈ List.replicate n mark, (c == mark) = true := fun c hc => by
    rw [List.eq_of_mem_replicate hc]
    exact beq_self_eq_true mark
  rw [dropMarks, List.dropWhile_append_of_pos hmarks]
  exact dropMarks_of_head? h

theorem head?_dropMarks (t : Text) : (dropMarks t).head? ≠ some mark := by
  intro h
  have := List.head?_dropWhile_not (· == mark) t
  rw [show (t.dropWhile (· == mark)).head? = some mark from h] at this
  simp at this

/-- A text that ends in something else than a mark has only marks of its own in front. -/
theorem dropMarks_append {a b : Text} {c : Char} (ha : a.getLast? = some c) (hc : c ≠ mark) :
    dropMarks (a ++ b) = dropMarks a ++ b ∧ (dropMarks a).getLast? = some c := by
  have hsuffix : dropMarks a <:+ a := List.dropWhile_suffix _
  have hne : dropMarks a ≠ [] := by
    intro hnil
    have hall := List.dropWhile_eq_nil_iff.1 hnil c (List.mem_of_getLast? ha)
    exact hc (by simpa using hall)
  constructor
  · unfold dropMarks at hne ⊢
    rw [List.dropWhile_append, if_neg (by simpa using hne)]
  · obtain ⟨front, hfront⟩ := hsuffix
    rw [← hfront, List.getLast?_append, Option.or_eq_some_iff] at ha
    rcases ha with ha | ⟨hnone, -⟩
    · exact ha
    · exact absurd (List.getLast?_eq_none_iff.1 hnone) hne

end Text

namespace Script

open Text (mark unifyNewlines dropMarks MeetAtLineEnd)

/-! ## The equation of lines -/

/-- The lines of a text without marks in front. -/
def cutLines (t : Text) : List Text := closedLines (unifyNewlines t)

theorem closedLines_append_newline (x y : Text) :
    closedLines (x ++ '\n' :: y) = Text.splitLines x ++ closedLines y := by
  have hsplit : Text.splitLines (x ++ '\n' :: y) = Text.splitLines x ++ Text.splitLines y := by
    simp only [Text.splitLines, Text.pieces_eq_splitOn, List.splitOn]
    exact List.splitOnP_append_cons x y (beq_self_eq_true '\n')
  have hne : Text.splitLines y ≠ [] := Text.pieces_ne_nil '\n' y
  unfold closedLines
  simp only [hsplit]
  rw [List.getLast?_append_of_ne_nil _ hne]
  split
  · rw [List.dropLast_append_of_ne_nil hne]
  · rfl

theorem closedLines_append {x : Text} (h : x.getLast? = some '\n') (y : Text) :
    closedLines (x ++ y) = closedLines x ++ closedLines y := by
  obtain ⟨front, rfl⟩ := List.getLast?_eq_some_iff.1 h
  rw [List.append_assoc, List.singleton_append, closedLines_append_newline, closedLines_append_newline front []]
  simp [closedLines, Text.splitLines, Text.pieces]

/-- **Texts that meet at a line end have their lines apart.** -/
theorem cutLines_append {a b : Text} (h : MeetAtLineEnd a b) : cutLines (a ++ b) = cutLines a ++ cutLines b := by
  have htorn : a.getLast? = some '\r' → b.head? ≠ some '\n' := by
    intro ha
    rcases h with h | ⟨-, hb⟩
    · rw [ha] at h
      cases h
    · exact hb
  have hend : (unifyNewlines a).getLast? = some '\n' := by
    rw [Text.getLast?_unifyNewlines]
    rcases h with h | ⟨h, -⟩
    · rw [h]; rfl
    · rw [h]; rfl
  unfold cutLines
  rw [Text.unifyNewlines_append htorn, closedLines_append hend]

theorem physicalLines_eq_cutLines {t : Text} (h : t.head? ≠ some mark) : physicalLines t = cutLines t := by
  unfold physicalLines cutLines
  rw [Text.dropMarks_of_head? h]

theorem physicalLines_append {a b : Text} (h : MeetAtLineEnd a b) (hb : b.head? ≠ some mark) :
    physicalLines (a ++ b) = physicalLines a ++ physicalLines b := by
  obtain ⟨c, hc, hmark⟩ : ∃ c, a.getLast? = some c ∧ c ≠ mark := by
    rcases h with h | ⟨h, -⟩
    · exact ⟨_, h, by decide⟩
    · exact ⟨_, h, by decide⟩
  obtain ⟨happend, hlast⟩ := Text.dropMarks_append (b := b) hc hmark
  -- `a` keeps its last character, which is no mark, so the seam stays what it is
  have hmeet : MeetAtLineEnd (dropMarks a) b := by
    unfold MeetAtLineEnd at h ⊢
    rw [hlast, ← hc]
    exact h
  rw [physicalLines_eq_cutLines hb]
  show cutLines (dropMarks (a ++ b)) = cutLines (dropMarks a) ++ cutLines b
  rw [happend, cutLines_append hmeet]

/-! ## Layouts -/

/-- The ends a line may have. -/
inductive LineEnd where
  | feed
  | returnFeed
  | carriageReturn
  deriving DecidableEq, Repr

def LineEnd.text : LineEnd → Text
  | .feed => ['\n']
  | .returnFeed => ['\r', '\n']
  | .carriageReturn => ['\r']

/-- Nothing in the text ends a line. -/
def OnOneLine (l : Text) : Prop := '\r' ∉ l ∧ '\n' ∉ l

/-- The text is a layout of the lines.  The last line may go without an end if there is anything in it; a carriage
return ends a line only where no line feed follows it. -/
inductive Layout : List Text → Text → Prop
  | nothing : Layout [] []
  | unended {l : Text} (hne : l ≠ []) (hl : OnOneLine l) : Layout [l] l
  | ended {l : Text} (e : LineEnd) {ls : List Text} {t : Text} (hl : OnOneLine l)
      (he : e = .carriageReturn → t.head? ≠ some '\n') (h : Layout ls t) : Layout (l :: ls) (l ++ e.text ++ t)

theorem OnOneLine.cons {c : Char} {l : Text} (hr : c ≠ '\r') (hn : c ≠ '\n') (hl : OnOneLine l) :
    OnOneLine (c :: l) := by
  constructor
  · exact List.not_mem_cons_of_ne_of_not_mem hr.symm hl.1
  · exact List.not_mem_cons_of_ne_of_not_mem hn.symm hl.2

theorem onOneLine_nil : OnOneLine [] := ⟨List.not_mem_nil, List.not_mem_nil⟩

theorem OnOneLine.splitLines {l : Text} (hl : OnOneLine l) : Text.splitLines l = [l] := by
  rw [Text.splitLines, Text.pieces_eq_splitOn]
  exact List.splitOn_eq_singleton hl.2

theorem cutLines_of_unended {l : Text} (hl : OnOneLine l) (hne : l ≠ []) : cutLines l = [l] := by
  simp [cutLines, closedLines, Text.unifyNewlines_of_not_mem hl.1, hl.splitLines, hne]

theorem unifyNewlines_end (e : LineEnd) : unifyNewlines e.text = ['\n'] := by
  cases e <;> rfl

theorem cutLines_of_ended {l : Text} (e : LineEnd) (hl : OnOneLine l) : cutLines (l ++ e.text) = [l] := by
  have htorn : l.getLast? = some '\r' → e.text.head? ≠ some '\n' := fun h => absurd (List.mem_of_getLast? h) hl.1
  unfold cutLines
  rw [Text.unifyNewlines_append htorn, Text.unifyNewlines_of_not_mem hl.1, unifyNewlines_end,
    closedLines_append_newline, hl.splitLines]
  rfl

theorem meetAtLineEnd_of_ended {l t : Text} {e : LineEnd} (he : e = .carriageReturn → t.head? ≠ some '\n') :
    MeetAtLineEnd (l ++ e.text) t := by
  unfold MeetAtLineEnd
  rw [List.getLast?_append]
  cases e with
  | feed | returnFeed => exact .inl rfl
  | carriageReturn => exact .inr ⟨rfl, he rfl⟩

/-- **Lines come back from every layout of them.** -/
theorem cutLines_of_layout {ls : List Text} {t : Text} (h : Layout ls t) : cutLines t = ls := by
  induction h with
  | nothing => rfl
  | unended hne hl => exact cutLines_of_unended hl hne
  | ended e hl he h ih => rw [cutLines_append (meetAtLineEnd_of_ended he), cutLines_of_ended e hl, ih]; rfl

/-! ## Every text is a layout -/

/-- A character in front of a layout goes in front of its first line. -/
theorem Layout.cons {c : Char} {ls : List Text} {t : Text} (hr : c ≠ '\r') (hn : c ≠ '\n') (h : Layout ls t) :
    ∃ ls', Layout ls' (c :: t) := by
  cases h with
  | nothing => exact ⟨[[c]], .unended (List.cons_ne_nil c []) (onOneLine_nil.cons hr hn)⟩
  | unended hne hl => exact ⟨[c :: t], .unended (List.cons_ne_nil c t) (hl.cons hr hn)⟩
  | @ended l e ls t hl he h => exact ⟨(c :: l) :: ls, .ended e (hl.cons hr hn) he h⟩

theorem exists_layout (t : Text) : ∃ ls, Layout ls t := by
  -- along the reading of line ends: each of them ends an empty line in front of the rest
  fun_induction unifyNewlines t with
  | case1 => exact ⟨[], .nothing⟩
  | case2 rest ih =>
    obtain ⟨ls, h⟩ := ih
    exact ⟨[] :: ls, .ended .returnFeed onOneLine_nil (fun he => by cases he) h⟩
  | case3 rest hne ih =>
    obtain ⟨ls, h⟩ := ih
    refine ⟨[] :: ls, .ended .carriageReturn onOneLine_nil (fun _ hhead => ?_) h⟩
    obtain ⟨cs, rfl⟩ := List.head?_eq_some_iff.1 hhead
    exact hne cs rfl
  | case4 c rest hboth hreturn ih =>
    obtain ⟨ls, h⟩ := ih
    by_cases hc : c = '\n'
    · subst hc
      exact ⟨[] :: ls, .ended .feed onOneLine_nil (fun he => by cases he) h⟩
    · exact h.cons hreturn hc

/-- **Every text is a layout of its lines.** -/
theorem layout_cutLines (t : Text) : Layout (cutLines t) t := by
  obtain ⟨ls, h⟩ := exists_layout t
  rw [cutLines_of_layout h]
  exact h

theorem layout_iff {ls : List Text} {t : Text} : Layout ls t ↔ cutLines t = ls :=
  ⟨cutLines_of_layout, fun h => h ▸ layout_cutLines t⟩

instance (ls : List Text) (t : Text) : Decidable (Layout ls t) := decidable_of_iff _ layout_iff.symm

theorem Layout.onOneLine {ls : List Text} {t : Text} (h : Layout ls t) : ∀ l ∈ ls, OnOneLine l := by
  induction h with
  | nothing => simp
  | unended hne hl => simpa using hl
  | ended e hl he h ih => simpa using ⟨hl, ih⟩

/-- Marks in front of a layout are marks in front of its first line. -/
theorem Layout.head?_ne_mark_iff {ls : List Text} {t : Text} (h : Layout ls t) :
    t.head? ≠ some mark ↔ ∀ l, ls.head? = some l → l.head? ≠ some mark := by
  cases h with
  | nothing => simp
  | unended hne hl => simp
  | @ended l e ls t hl he h =>
    cases l with
    | nil => cases e <;> simp [LineEnd.text] <;> decide
    | cons c cs => simp

/-- The lines, each ended by a line feed. -/
theorem layout_flatMap : ∀ {ls : List Text}, (∀ l ∈ ls, OnOneLine l) → Layout ls (ls.flatMap (· ++ ['\n']))
  | [], _ => .nothing
  | l :: ls, h => by
    have hls := layout_flatMap fun x hx => h x (List.mem_cons_of_mem l hx)
    exact .ended .feed (h l List.mem_cons_self) (fun he => by cases he) hls

/-! ## Numbered lines -/

theorem numberFrom_eq_mapIdx : ∀ (ls : List Text) (n : Int), numberFrom n ls = ls.mapIdx fun i l => ⟨i + n, l⟩
  | [], _ => rfl
  | l :: ls, n => by
    rw [numberFrom, numberFrom_eq_mapIdx ls (n + 1), List.mapIdx_cons]
    simp [Int.add_comm, Int.add_left_comm]

theorem physicalLines_of_layout (marks : Nat) {ls : List Text} {t : Text} (h : Layout ls t)
    (hmark : ∀ l, ls.head? = some l → l.head? ≠ some mark) :
    physicalLines (List.replicate marks mark ++ t) = ls := by
  show cutLines (dropMarks (List.replicate marks mark ++ t)) = ls
  rw [Text.dropMarks_replicate_append marks (h.head?_ne_mark_iff.2 hmark), cutLines_of_layout h]

/-- Every text is a layout of its lines behind marks. -/
theorem layout_physicalLines (t : Text) :
    Layout (physicalLines t) (dropMarks t) ∧ ∀ l, (physicalLines t).head? = some l → l.head? ≠ some mark := by
  have h : Layout (physicalLines t) (dropMarks t) := layout_cutLines (dropMarks t)
  exact ⟨h, h.head?_ne_mark_iff.1 (Text.head?_dropMarks t)⟩

/-- **Reading undoes laying out.**  From marks and any layout of lines, the first of which begins with no mark, the lines
come back, numbered from 1.  Conversely the lines of a text hold no line end, and laid out again, each ended by a line
feed, they are read as the same lines with the same numbers. -/
theorem lines_undo_layout :
    (∀ (marks : Nat) (ls : List Text) (t : Text), Layout ls t →
      (∀ l, ls.head? = some l → l.head? ≠ some mark) →
      lines (List.replicate marks mark ++ t) = ls.mapIdx fun i l => ⟨i + 1, l⟩) ∧
    ∀ t : Text, (∀ l ∈ lines t, '\r' ∉ l.raw ∧ '\n' ∉ l.raw) ∧
      lines ((lines t).flatMap fun l => l.raw ++ ['\n']) = lines t := by
  refine ⟨fun marks ls t h hmark => ?_, fun t => ?_⟩
  · unfold lines
    rw [physicalLines_of_layout marks h hmark, numberFrom_eq_mapIdx]
  · obtain ⟨h, hmark⟩ := layout_physicalLines t
    have hraws : (lines t).map (·.raw) = physicalLines t := numberFrom_raw 1 _
    refine ⟨fun l hl => h.onOneLine l.raw ?_, ?_⟩
    · rw [← hraws]
      exact List.mem_map_of_mem hl
    · have hagain := physicalLines_of_layout 0 (layout_flatMap h.onOneLine) hmark
      rw [List.replicate_zero, List.nil_append, ← hraws, List.flatMap_map, hraws] at hagain
      exact congrArg (numberFrom 1) hagain

/-- All three line ends, a carriage return before a carriage return and a line feed, and no end behind the last line. -/
theorem lines_undo_layout_mixed_ends :
    Layout ["a".toList, [], "b".toList, [], "c".toList] "a\r\r\nb\n\rc".toList ∧
    lines (mark :: mark :: "a\r\r\nb\n\rc".toList) =
      [⟨1, "a".toList⟩, ⟨2, []⟩, ⟨3, "b".toList⟩, ⟨4, []⟩, ⟨5, "c".toList⟩] ∧
    lines "a\n\nb\n\nc\n".toList = lines (mark :: mark :: "a\r\r\nb\n\rc".toList) := by
  have hlayout : Layout ["a".toList, [], "b".toList, [], "c".toList] "a\r\r\nb\n\rc".toList := by decide
  obtain ⟨hread, hagain⟩ := lines_undo_layout
  have hlines := hread 2 _ _ hlayout (by decide)
  refine ⟨hlayout, hlines, ?_⟩
  have := (hagain (mark :: mark :: "a\r\r\nb\n\rc".toList)).2
  rwa [show lines (mark :: mark :: "a\r\r\nb\n\rc".toList) = _ from hlines] at this ⊢

end Script
end Scriptwright
