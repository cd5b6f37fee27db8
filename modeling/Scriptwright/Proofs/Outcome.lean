import Scriptwright.Proofs.Recognition
import Scriptwright.Conversion.Outcome
/-!
# What becomes of one line

A line's kind decides the shape of its outcome: two lines for an unsupported command and one for anything else, a
diagnostic for an unsupported command, an unclassified line and a loop without ` in `, and none for anything else
(`ofLine_follows_kind`).  A diagnostic is a note on the line it came from: it has the number of the line, it ends with
the text of the line, and the line is code (`noteOn_of_diagnostic`).
-/
namespace Scriptwright

/-! ## Kinds and code -/

namespace Line

theorem isCode_iff_text (l : Line) : l.isCode = true ↔ l.text ≠ [] ∧ ¬ ['#'] <+: l.text := by
  unfold isCode
  cases l.text with
  | nil => simp
  | cons c cs => simp [List.cons_prefix_cons, eq_comm (a := '#')]

/-- **Code is what is neither a blank line nor a comment for the rules**, in every dialect. -/
theorem isCode_iff_kind (s : Settings) (d : Dialect) (l : Line) :
    l.isCode = true ↔ l.kind s d ≠ .blank ∧ l.kind s d ≠ .comment := by
  obtain ⟨hfit, hbefore⟩ := Construct.isFirstFit_ofText s d l.text
  rw [isCode_iff_text]
  unfold kind
  constructor
  · rintro ⟨hne, hhash⟩
    refine ⟨fun hk => ?_, fun hk => ?_⟩
    · rw [hk] at hfit
      exact hne hfit
    · rw [hk] at hfit
      exact hhash hfit
  · rintro ⟨hb, hc⟩
    -- blank lines and comments are tried before all other kinds
    refine ⟨hbefore .blank ?_, hbefore .comment ?_⟩
    · revert hb
      cases (Construct.ofText s d l.text).kind <;> decide
    · revert hb hc
      cases (Construct.ofText s d l.text).kind <;> decide

end Line

/-! ## Loops with and without ` in ` -/

namespace Construct

theorem loopParts_eq_forCounting_iff {t : Text} : loopParts t = .forCounting ↔ ¬ " in ".toList <:+: t := by
  rw [← Text.cut?_eq_none_iff]
  unfold loopParts
  cases Text.cut? " in ".toList t <;> simp

theorem ofText_eq_loopParts {s : Settings} {d : Dialect} {t : Text} (h : (ofText s d t).kind = .forLoop) :
    ofText s d t = loopParts t := by
  have hread := reread?_ofText s d t
  rw [h] at hread
  exact (Option.some.inj hread).symm

/-- The severity with which a construct is reported. -/
def severity? : Construct → Option Severity
  | .unsupported _ => some .unsupported
  | .forCounting | .unclassified => some .warning
  | _ => none

theorem severity?_eq_unsupported_iff (c : Construct) :
    c.severity? = some .unsupported ↔ c.kind = .unsupportedCommand := by
  cases c <;> simp [severity?, kind]

theorem severity?_eq_warning_iff (c : Construct) :
    c.severity? = some .warning ↔ c.kind = .unclassified ∨ c = .forCounting := by
  cases c <;> simp [severity?, kind]

theorem kind_of_severity? {c : Construct} {v : Severity} (h : c.severity? = some v) :
    c.kind ≠ .blank ∧ c.kind ≠ .comment := by
  cases c <;> simp_all [severity?, kind]

end Construct

namespace Outcome

/-! ## The shape of an outcome -/

theorem ofLine_kind (s : Settings) (d : Dialect) (l : Line) : (ofLine s d l).kind = l.kind s d :=
  ofConstruct_kind s l _

theorem ofConstruct_lines_length (s : Settings) (l : Line) (c : Construct) :
    (ofConstruct s l c).lines.length = if c.kind = .unsupportedCommand then 2 else 1 := by
  cases c <;> rfl

theorem ofConstruct_severity (s : Settings) (l : Line) (c : Construct) :
    (ofConstruct s l c).diagnostic.map (·.severity) = c.severity? := by
  cases c <;> rfl

theorem ofLine_lines_length (s : Settings) (d : Dialect) (l : Line) :
    (ofLine s d l).lines.length = if l.kind s d = .unsupportedCommand then 2 else 1 :=
  ofConstruct_lines_length s l _

theorem severity_eq_unsupported_iff (s : Settings) (d : Dialect) (l : Line) :
    (ofLine s d l).diagnostic.map (·.severity) = some .unsupported ↔ l.kind s d = .unsupportedCommand := by
  unfold ofLine
  rw [ofConstruct_severity]
  exact Construct.severity?_eq_unsupported_iff _

theorem severity_eq_warning_iff (s : Settings) (d : Dialect) (l : Line) :
    (ofLine s d l).diagnostic.map (·.severity) = some .warning ↔
      l.kind s d = .unclassified ∨ (l.kind s d = .forLoop ∧ ¬ " in ".toList <:+: l.text) := by
  unfold ofLine
  rw [ofConstruct_severity, Construct.severity?_eq_warning_iff, ← Construct.loopParts_eq_forCounting_iff]
  refine or_congr Iff.rfl ⟨fun h => ?_, fun ⟨hk, h⟩ => ?_⟩
  · have hk : l.kind s d = .forLoop := by unfold Line.kind; rw [h]; rfl
    exact ⟨hk, by rw [← Construct.ofText_eq_loopParts hk, h]⟩
  · rw [Construct.ofText_eq_loopParts hk, h]

theorem diagnostic_isSome_iff (s : Settings) (d : Dialect) (l : Line) :
    (ofLine s d l).diagnostic.isSome = true ↔
      l.kind s d = .unsupportedCommand ∨ l.kind s d = .unclassified ∨
        (l.kind s d = .forLoop ∧ ¬ " in ".toList <:+: l.text) := by
  rw [← severity_eq_unsupported_iff, ← severity_eq_warning_iff]
  cases (ofLine s d l).diagnostic with
  | none => simp
  | some x => cases hx : x.severity <;> simp [hx]

/-- **A line is converted as its kind asks.**  The kind is the first whose form the line has; knowing only it, the parts
of the line are found again and give the outcome; the outcome has the kind, one line or two, and a diagnostic or
none. -/
theorem ofLine_follows_kind (s : Settings) (d : Dialect) (l : Line) :
    Kind.IsFirstFit s d l.text (l.kind s d) ∧
    (Construct.reread? s l.text (l.kind s d)).map (ofConstruct s l) = some (ofLine s d l) ∧
    (ofLine s d l).kind = l.kind s d ∧
    (ofLine s d l).lines.length = (if l.kind s d = .unsupportedCommand then 2 else 1) ∧
    ((ofLine s d l).diagnostic.map (·.severity) = some .unsupported ↔ l.kind s d = .unsupportedCommand) ∧
    ((ofLine s d l).diagnostic.map (·.severity) = some .warning ↔
      l.kind s d = .unclassified ∨ (l.kind s d = .forLoop ∧ ¬ " in ".toList <:+: l.text)) := by
  refine ⟨Construct.isFirstFit_ofText s d l.text, ?_, ofLine_kind s d l, ofLine_lines_length s d l,
    severity_eq_unsupported_iff s d l, severity_eq_warning_iff s d l⟩
  unfold Line.kind
  rw [Construct.reread?_ofText]
  rfl

/-! ## Diagnostics as notes on their lines -/

/-- The diagnostic is about the line: it has its number and ends with its text, and the line is code. -/
structure NoteOn (l : Line) (x : Diagnostic) : Prop where
  line : x.line = l.number
  code : l.isCode = true
  message : l.text <:+ x.message

theorem ofConstruct_diagnostic {s : Settings} {l : Line} {c : Construct} {x : Diagnostic}
    (h : (ofConstruct s l c).diagnostic = some x) : x.line = l.number ∧ l.text <:+ x.message := by
  cases c with
  | forCounting | unclassified | unsupported command =>
    obtain rfl := Option.some.inj h
    exact ⟨rfl, List.suffix_append _ _⟩
  | _ => cases h

/-- **A diagnostic is a note on the line it came from.** -/
theorem noteOn_of_diagnostic {s : Settings} {d : Dialect} {l : Line} {x : Diagnostic}
    (h : (ofLine s d l).diagnostic = some x) : NoteOn l x := by
  obtain ⟨hline, hmessage⟩ := ofConstruct_diagnostic h
  refine ⟨hline, ?_, hmessage⟩
  rw [Line.isCode_iff_kind s d]
  refine Construct.kind_of_severity? (v := x.severity) ?_
  rw [← ofConstruct_severity s l]
  exact congrArg (Option.map (·.severity)) h

end Outcome
end Scriptwright
