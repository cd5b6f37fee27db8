import Scriptwright.Proofs.Diagnostics
/-!
# One script in two dialects

File reads and filters are known to the data processing dialect only.  Every other kind has the same form in both
dialects, so a line that is neither of the two has the same first fit, and with the kind the same parts and the same
outcome (`ofText_general`).  A file read or a filter fits no kind above its own; in the general dialect it is left to
the kinds below, which are reported (`kind_general_of_isDataOnly`).  Over a whole script the general dialect reports
what the data processing dialect reports, and the file reads and filters besides.
-/
namespace Scriptwright

open scoped List

variable {s : Settings} {d : Dialect} {t : Text}

/-! ## Kinds of one dialect -/

namespace Kind

/-- The kind is known to the data processing dialect only. -/
def isDataOnly : Kind → Bool
  | .fileRead | .filterCommand => true
  | _ => false

theorem isDataOnly_iff (k : Kind) : k.isDataOnly = true ↔ k = .fileRead ∨ k = .filterCommand := by
  cases k <;> simp [isDataOnly]

theorem isDataOnly_of_fits_general {k : Kind} (h : Fits s .general t k) : k.isDataOnly = false := by
  cases k with
  | fileRead | filterCommand => cases h.1
  | _ => rfl

theorem fits_general_iff {k : Kind} (hk : k.isDataOnly = false) : Fits s .general t k ↔ Fits s d t k := by
  cases k with
  | fileRead | filterCommand => cases hk
  | _ => exact Iff.rfl

/-- What is left to a line when a kind of the one dialect falls away. -/
theorem eq_of_not_precedes {a b : Kind} (hb : b.isDataOnly = true) (ha : a.isDataOnly = false) (h : ¬ Precedes a b) :
    a = .unsupportedCommand ∨ a = .unclassified := by
  revert h ha hb
  cases b <;> cases a <;> decide

end Kind

/-! ## One line -/

namespace Construct

/-- **A line that is no file read and no filter is the same construct in the general dialect.** -/
theorem ofText_general (h : (ofText s d t).kind.isDataOnly = false) : ofText s .general t = ofText s d t := by
  obtain ⟨hfit, hbefore⟩ := isFirstFit_ofText s d t
  have hfirst : Kind.IsFirstFit s .general t (ofText s d t).kind := by
    refine ⟨(Kind.fits_general_iff h).2 hfit, fun k hk hg => hbefore k hk ?_⟩
    exact (Kind.fits_general_iff (Kind.isDataOnly_of_fits_general hg)).1 hg
  -- the search for the parts knows no dialect
  exact ofText_of_isFirstFit hfirst (reread?_ofText s d t)

/-- **In the general dialect a file read or a filter is left to the last two kinds.** -/
theorem kind_general_of_isDataOnly (h : (ofText s d t).kind.isDataOnly = true) :
    (ofText s .general t).kind = .unsupportedCommand ∨ (ofText s .general t).kind = .unclassified := by
  obtain ⟨hfit, -⟩ := isFirstFit_ofText s .general t
  obtain ⟨-, hbefore⟩ := isFirstFit_ofText s d t
  have hk := Kind.isDataOnly_of_fits_general hfit
  exact Kind.eq_of_not_precedes h hk fun hp => hbefore _ hp ((Kind.fits_general_iff hk).1 hfit)

end Construct

namespace Outcome

theorem ofLine_general {l : Line} (h : (l.kind s d).isDataOnly = false) : ofLine s .general l = ofLine s d l := by
  unfold ofLine
  rw [Construct.ofText_general h]

theorem diagnostic_of_isDataOnly {l : Line} (h : (l.kind s d).isDataOnly = true) :
    (ofLine s d l).diagnostic = none ∧ (ofLine s .general l).diagnostic.isSome = true := by
  have hg : l.kind s .general = .unsupportedCommand ∨ l.kind s .general = .unclassified :=
    Construct.kind_general_of_isDataOnly h
  refine ⟨Option.not_isSome_iff_eq_none.1 ?_, ?_⟩
  · rw [diagnostic_isSome_iff]
    rcases (Kind.isDataOnly_iff _).1 h with hk | hk
    · simp [hk]
    · simp [hk]
  · rw [diagnostic_isSome_iff]
    rcases hg with hk | hk
    · exact .inl hk
    · exact .inr (.inl hk)

/-- The general dialect reports what the data processing dialect reports, and the lines that only that one converts. -/
theorem diagnostic_general_isSome_iff (l : Line) :
    ((ofLine s .general l).diagnostic.isSome && !(ofLine s .dataProcessing l).diagnostic.isSome) =
      (l.kind s .dataProcessing).isDataOnly := by
  cases hk : (l.kind s .dataProcessing).isDataOnly with
  | false => rw [ofLine_general hk, Bool.and_not_self]
  | true =>
    obtain ⟨hnone, hsome⟩ := diagnostic_of_isDataOnly hk
    rw [hnone, hsome]
    rfl

end Outcome

/-! ## Scripts -/

theorem notes_sublist (s : Settings) : ∀ ls : List Line, notes s .dataProcessing ls <+ notes s .general ls
  | [] => .refl _
  | l :: ls => by
    rw [notes_cons, notes_cons]
    refine List.Sublist.append ?_ (notes_sublist s ls)
    cases hk : (l.kind s .dataProcessing).isDataOnly with
    | false => rw [Outcome.ofLine_general hk]
    | true =>
      rw [(Outcome.diagnostic_of_isDataOnly hk).1]
      exact List.nil_sublist _

theorem notes_lines (s : Settings) (d : Dialect) : ∀ ls : List Line,
    (notes s d ls).map (·.line) = (ls.filter fun l => (Outcome.ofLine s d l).diagnostic.isSome).map (·.number)
  | [] => rfl
  | l :: ls => by
    rw [notes_cons, List.map_append, notes_lines s d ls, List.filter_cons]
    cases hx : (Outcome.ofLine s d l).diagnostic with
    | none => simp
    | some x => simp [(Outcome.noteOn_of_diagnostic hx).line]

theorem number_mem_map_filter_iff {ls : List Line} (hls : ls.Pairwise fun a b => a.number < b.number) {p : Line → Bool}
    {l : Line} (hl : l ∈ ls) : l.number ∈ (ls.filter p).map (·.number) ↔ p l = true := by
  have hnodup : (ls.map (·.number)).Nodup := List.pairwise_map.2 (hls.imp Int.ne_of_lt)
  constructor
  · intro h
    obtain ⟨l', hl', he⟩ := List.mem_map.1 h
    obtain ⟨hmem, hp⟩ := List.mem_filter.1 hl'
    rwa [← List.inj_on_of_nodup_map hnodup hmem hl he]
  · intro hp
    exact List.mem_map_of_mem (List.mem_filter.2 ⟨hl, hp⟩)

/-- The lines that only the general dialect reports. -/
theorem lines_only_in_general {ls : List Line} (hls : ls.Pairwise fun a b => a.number < b.number) :
    ((notes s .general ls).map (·.line)).filter (fun n => n ∉ (notes s .dataProcessing ls).map (·.line)) =
      (ls.filter fun l => (l.kind s .dataProcessing).isDataOnly).map (·.number) := by
  rw [notes_lines, notes_lines, List.filter_map, List.filter_filter]
  congr 1
  refine List.filter_congr fun l hl => ?_
  rw [← Outcome.diagnostic_general_isSome_iff, Bool.and_comm]
  congr 1
  simp only [Function.comp_def, number_mem_map_filter_iff hls hl]
  cases (Outcome.ofLine s .dataProcessing l).diagnostic <;> rfl

/-- **The dialects differ at file reads and filters only.**  Any other line has one kind and one outcome in both.  A file
read or a filter is converted without a diagnostic in the one dialect, and in the other it is reported as an
unsupported command or an unclassified line.  So the one dialect reports a part of what the other reports, and the rest
are the lines of the two kinds. -/
theorem dialects_differ_at_data_commands (s : Settings) (language : Language) (t : Text) :
    let data := convert s .dataProcessing language t
    let general := convert s .general language t
    (∀ l : Line,
      (l.kind s .dataProcessing = l.kind s .general ∧ Outcome.ofLine s .dataProcessing l = Outcome.ofLine s .general l) ∨
      ((l.kind s .dataProcessing = .fileRead ∨ l.kind s .dataProcessing = .filterCommand) ∧
        (Outcome.ofLine s .dataProcessing l).diagnostic = none ∧
        (l.kind s .general = .unsupportedCommand ∨ l.kind s .general = .unclassified) ∧
        (Outcome.ofLine s .general l).diagnostic.isSome = true)) ∧
    data.warnings <+ general.warnings ∧
    data.unsupported <+ general.unsupported ∧
    (general.diagnostics.map (·.line)).filter (fun n => n ∉ data.diagnostics.map (·.line)) =
      ((Script.lines t).filter fun l =>
        l.kind s .dataProcessing = .fileRead ∨ l.kind s .dataProcessing = .filterCommand).map (·.number) := by
  intro data general
  have hnotes := notes_sublist s (Script.lines t)
  refine ⟨fun l => ?_, ?_, ?_, ?_⟩
  · cases hk : (l.kind s .dataProcessing).isDataOnly with
    | false =>
      have h := Outcome.ofLine_general hk
      exact .inl ⟨by rw [← Outcome.ofLine_kind, ← Outcome.ofLine_kind, h], h.symm⟩
    | true =>
      obtain ⟨hnone, hsome⟩ := Outcome.diagnostic_of_isDataOnly hk
      exact .inr ⟨(Kind.isDataOnly_iff _).1 hk, hnone, Construct.kind_general_of_isDataOnly hk, hsome⟩
  · show (convert s .dataProcessing language t).warnings <+ (convert s .general language t).warnings
    rw [convert_warnings, convert_warnings]
    exact hnotes.filter _
  · show (convert s .dataProcessing language t).unsupported <+ (convert s .general language t).unsupported
    rw [convert_unsupported, convert_unsupported]
    exact hnotes.filter _
  · have hdata : data.diagnostics = notes s .dataProcessing (Script.lines t) := convert_diagnostics ..
    have hgeneral : general.diagnostics = notes s .general (Script.lines t) := convert_diagnostics ..
    simp only [hdata, hgeneral, lines_only_in_general (Script.pairwise_lines t), ← Kind.isDataOnly_iff,
      Bool.decide_eq_true]

end Scriptwright
