import Scriptwright.Proofs.Diagnostics
import Scriptwright.Proofs.Openers
/-!
# The converted program line by line

A converted program is its lines joined by line feeds.  Cutting it at its line feeds gives the lines back as long as no
line holds one.  A physical line of a script holds none; what is cut out of it holds none either; and what a conversion
adds is fixed text, symbols and escapes without one, and names from the settings.  So only the names can break a line
(`splitLines_convert`).
-/
namespace Scriptwright

theorem Text.newline_not_mem_of_isInfix {p t : Text} (h : p <:+: t) (ht : '\n' ∉ t) : '\n' ∉ p :=
  fun hp => ht (h.subset hp)

/-! ## Conditions and literals -/

namespace Condition

theorem comparison?_subset {a b : Char} {op : Text} (h : comparison? a b = some op) : op ⊆ ['=', '!', '<', '>'] := by
  unfold comparison? at h
  split at h <;> cases h <;> simp

/-- Writing symbols adds no characters but theirs. -/
theorem mem_symbolsFrom {b : Bool} {t : Text} {x : Char} (h : x ∈ symbolsFrom b t) :
    x ∈ t ∨ x ∈ ['=', '!', '<', '>'] := by
  fun_induction symbolsFrom b t with
  | case1 => cases h
  | case2 a b rest op hop htok ih =>
    rcases List.mem_cons.1 h with rfl | h
    · simp
    · exact (ih h).imp_left (List.mem_cons_of_mem _)
  | case3 a b rest op hop htok ih =>
    rcases List.mem_append.1 h with h | h
    · exact .inr (comparison?_subset hop h)
    · exact (ih h).imp_left fun hx => by simp [hx]
  | case4 a b rest hop ih =>
    rcases List.mem_cons.1 h with rfl | h
    · simp
    · exact (ih h).imp_left (List.mem_cons_of_mem _)
  | case5 b c rest hne ih =>
    rcases List.mem_cons.1 h with rfl | h
    · simp
    · exact (ih h).imp_left (List.mem_cons_of_mem _)

theorem dropOpener_isInfix (t : Text) : dropOpener t <:+: t := by
  obtain ⟨o, -, ht⟩ := exists_opener t
  have hbefore : beforeOpener t <+: t := ⟨o, ht.symm⟩
  exact (Text.trimLeft_suffix _).isInfix.trans hbefore.isInfix

theorem infix_ite {p : Prop} [Decidable p] {a b t : Text} (ha : a <:+: t) (hb : b <:+: t) :
    (if p then a else b) <:+: t := by
  split
  · exact ha
  · exact hb

theorem dropBrackets_isInfix (t : Text) : dropBrackets t <:+: t := by
  have hc := Text.trim_isInfix t
  have hinner : ∀ m n, Text.trim (((Text.trim t).take m).drop n) <:+: t := fun m n =>
    (Text.trim_isInfix _).trans (((List.drop_suffix n _).isInfix.trans ( List.take_prefix m _).isInfix).trans hc)
  exact infix_ite (infix_ite hc (hinner _ _)) hc

theorem newline_not_mem_normalize {t : Text} (h : '\n' ∉ t) : '\n' ∉ normalize t := by
  intro hx
  rcases mem_symbolsFrom hx with hx | hx
  · exact h (((dropBrackets_isInfix _).trans (dropOpener_isInfix t)).subset hx)
  · revert hx
    decide

end Condition

namespace Literal

theorem dropQuotes_isInfix (t : Text) : dropQuotes t <:+: t := by
  unfold dropQuotes
  split
  · rename_i q rest
    split
    · have hinit := List.dropLast_prefix rest
      exact hinit.isInfix.trans (List.suffix_cons q rest).isInfix
    · exact List.infix_rfl
  · exact List.infix_rfl

theorem unquote_isInfix (t : Text) : unquote t <:+: t := by
  refine (dropQuotes_isInfix _).trans ?_
  unfold dropSeparators
  rw [← List.reverse_infix, List.reverse_reverse]
  exact (List.dropWhile_suffix _).isInfix

theorem payload_isInfix (t : Text) : payload t <:+: t := by
  unfold payload
  simp only
  split
  · exact ((Text.trimRight_isPrefix _).isInfix.trans ( List.dropLast_prefix _).isInfix).trans (Text.trim_isInfix t)
  · exact Text.trim_isInfix t

theorem newline_not_mem_write {t : Text} (h : '\n' ∉ t) : '\n' ∉ write t := by
  unfold write
  simp only [List.cons_append, List.mem_cons, List.mem_append, List.mem_flatMap, List.not_mem_nil, or_false]
  rintro (hx | ⟨c, hc, hx⟩ | hx)
  · revert hx
    decide
  · split at hx
    · rcases List.mem_cons.1 hx with hx | hx
      · revert hx
        decide
      · exact h (List.mem_singleton.1 hx ▸ hc)
    · exact h (List.mem_singleton.1 hx ▸ hc)
  · revert hx
    decide

end Literal

/-! ## Outcomes -/

theorem Line.newline_not_mem_text {l : Line} (hraw : '\n' ∉ l.raw) : '\n' ∉ l.text :=
  Text.newline_not_mem_of_isInfix (Text.trim_isInfix _) hraw

namespace Outcome

/-- **A construct is written without line feeds** if its line, its parts and the names in the settings hold none. -/
theorem newline_not_mem_ofConstruct {s : Settings} {l : Line} {c : Construct} (hsession : '\n' ∉ s.sessionName)
    (hframe : '\n' ∉ s.frameName) (hraw : '\n' ∉ l.raw) (hparts : ∀ p ∈ c.parts, '\n' ∉ p) :
    ∀ o ∈ (ofConstruct s l c).lines, '\n' ∉ o := by
  have htext := Line.newline_not_mem_text hraw
  have hliteral : ∀ {p : Text}, '\n' ∉ p → '\n' ∉ Literal.write (Literal.unquote p) := fun hp =>
    Literal.newline_not_mem_write (Text.newline_not_mem_of_isInfix (Literal.unquote_isInfix _) hp)
  have hbool : '\n' ∉ boolWord s.csvHeader := by cases s.csvHeader <;> decide
  cases c with
  | blank | comment => simpa [ofConstruct] using hraw
  | assignment target value =>
    have ht := hparts target (by simp [Construct.parts])
    have hv := hparts value (by simp [Construct.parts])
    simp [ofConstruct, ht, hv]
  | printLike payload =>
    have hp := hparts payload (by simp [Construct.parts])
    simp [ofConstruct, Text.newline_not_mem_of_isInfix (Literal.payload_isInfix _) hp]
  | conditional word condition =>
    have hc := hparts condition (by simp [Construct.parts])
    have hw : '\n' ∉ word.target := by cases word <;> decide
    simp [ofConstruct, hw, Condition.newline_not_mem_normalize hc]
  | forEach names items =>
    have hn := hparts names (by simp [Construct.parts])
    have hi := hparts items (by simp [Construct.parts])
    simp [ofConstruct, hn, Text.newline_not_mem_of_isInfix (Condition.dropOpener_isInfix _) hi]
  | forCounting => simp [ofConstruct, htext]
  | whileLoop condition =>
    have hc := hparts condition (by simp [Construct.parts])
    simp [ofConstruct, Condition.newline_not_mem_normalize hc]
  | fileRead argument =>
    have ha := hparts argument (by simp [Construct.parts])
    simp [ofConstruct, readStatement, hsession, hframe, hliteral ha, hbool]
  | filterCommand argument =>
    have ha := hparts argument (by simp [Construct.parts])
    simp [ofConstruct, filterStatement, hframe, hliteral ha]
  | unsupported command =>
    have hc := hparts command (by simp [Construct.parts])
    simp [ofConstruct, htext, hc]
  | unclassified => simp [ofConstruct, htext]

theorem newline_not_mem_ofLine {s : Settings} {d : Dialect} {l : Line} (hsession : '\n' ∉ s.sessionName)
    (hframe : '\n' ∉ s.frameName) (hraw : '\n' ∉ l.raw) : ∀ o ∈ (ofLine s d l).lines, '\n' ∉ o := by
  refine newline_not_mem_ofConstruct hsession hframe hraw fun p hp => ?_
  exact Text.newline_not_mem_of_isInfix (Construct.parts_isInfix s d l.text p hp) (Line.newline_not_mem_text hraw)

end Outcome

/-! ## Scripts -/

namespace Script

theorem newline_not_mem_physicalLines {t r : Text} (h : r ∈ physicalLines t) : '\n' ∉ r := by
  unfold physicalLines closedLines at h
  simp only at h
  split at h
  · exact Text.not_mem_of_mem_pieces (List.dropLast_subset _ h)
  · exact Text.not_mem_of_mem_pieces h

theorem newline_not_mem_raw {t : Text} {l : Line} (h : l ∈ lines t) : '\n' ∉ l.raw := by
  refine newline_not_mem_physicalLines (t := t) ?_
  rw [← numberFrom_raw 1 (physicalLines t)]
  exact List.mem_map_of_mem h

end Script

theorem newline_not_mem_preamble {s : Settings} {d : Dialect} (happ : '\n' ∉ s.appName)
    (hsession : '\n' ∉ s.sessionName) : ∀ o ∈ preamble s d, '\n' ∉ o := by
  cases d <;> simp [preamble, happ, hsession]

theorem preamble_ne_nil (s : Settings) (d : Dialect) : preamble s d ≠ [] := by
  cases d <;> simp [preamble]

/-- The lines of the target that some lines become. -/
def segments (s : Settings) (d : Dialect) (ls : List Line) : List Text :=
  ls.flatMap fun l => (Outcome.ofLine s d l).lines

theorem convert_code (s : Settings) (d : Dialect) (language : Language) (t : Text) :
    (convert s d language t).code = Text.joinLines (preamble s d ++ segments s d (Script.lines t)) := by
  rw [convert_eq]
  show Text.joinLines (preamble s d ++ ((Script.lines t).map (Outcome.ofLine s d)).flatMap (·.lines)) = _
  rw [List.flatMap_map]
  rfl

theorem newline_not_mem_segments {s : Settings} {d : Dialect} {t o : Text} (hsession : '\n' ∉ s.sessionName)
    (hframe : '\n' ∉ s.frameName) (h : o ∈ segments s d (Script.lines t)) : '\n' ∉ o := by
  obtain ⟨l, hl, ho⟩ := List.mem_flatMap.1 h
  exact Outcome.newline_not_mem_ofLine hsession hframe (Script.newline_not_mem_raw hl) o ho

/-- **One line of the target for each line, and one more for each unsupported construct.** -/
theorem length_segments (s : Settings) (d : Dialect) (ls : List Line) :
    (segments s d ls).length = ls.length + ((notes s d ls).filter (·.severity == .unsupported)).length := by
  have hnotes := congrArg List.length (unsupported_notes_lines (s := s) (d := d) ls)
  rw [List.length_map, List.length_map] at hnotes
  rw [hnotes]
  -- by induction on the lines: each gives one line, and a second one if it counts on the right
  clear hnotes
  unfold segments
  induction ls with
  | nil => rfl
  | cons l ls ih =>
    rw [List.flatMap_cons, List.length_append, ih, Outcome.ofLine_lines_length, List.filter_cons]
    by_cases hk : l.kind s d = .unsupportedCommand
    · simp [hk]
      omega
    · simp [hk]
      omega

/-- **The converted program cut at its line feeds**: the preamble, and the lines that the lines of the script become,
one after the other.  It holds for all settings whose names stand on one line. -/
theorem splitLines_convert (s : Settings) (d : Dialect) (language : Language) (t : Text) (happ : '\n' ∉ s.appName)
    (hsession : '\n' ∉ s.sessionName) (hframe : '\n' ∉ s.frameName) :
    Text.splitLines (convert s d language t).code =
      preamble s d ++ (Script.lines t).flatMap (fun l => (Outcome.ofLine s d l).lines) ∧
    (Text.splitLines (convert s d language t).code).length =
      (preamble s d).length + (Script.lines t).length + (convert s d language t).unsupported.length := by
  have hsplit : Text.splitLines (convert s d language t).code = preamble s d ++ segments s d (Script.lines t) := by
    rw [convert_code]
    refine Text.splitLines_joinLines (List.append_ne_nil_of_left_ne_nil (preamble_ne_nil s d) _) fun o ho => ?_
    rcases List.mem_append.1 ho with ho | ho
    · exact newline_not_mem_preamble happ hsession o ho
    · exact newline_not_mem_segments hsession hframe ho
  refine ⟨hsplit, ?_⟩
  rw [hsplit, List.length_append, length_segments, convert_unsupported, Nat.add_assoc]

/-- A file read and an unsupported command, with line ends of two kinds. -/
theorem splitLines_convert_two_lines :
    ('\n' ∉ ({} : Settings).appName ∧ '\n' ∉ ({} : Settings).sessionName ∧ '\n' ∉ ({} : Settings).frameName) ∧
    Text.splitLines (convert {} .dataProcessing .auto "cat 'a b'\r\nawk 1\n".toList).code =
      preamble {} .dataProcessing ++
        ["df = spark.read.csv(\"'a\", header=True)".toList, "# Unsupported construct: awk 1".toList,
         "# Log: \"Unsupported construct: awk\"".toList] ∧
    (Text.splitLines (convert {} .dataProcessing .auto "cat 'a b'\r\nawk 1\n".toList).code).length =
      (preamble {} .dataProcessing).length + 2 + 1 := by
  obtain ⟨hsplit, hlength⟩ := splitLines_convert {} .dataProcessing .auto "cat 'a b'\r\nawk 1\n".toList
    (by decide) (by decide) (by decide)
  refine ⟨⟨by decide, by decide, by decide⟩, ?_, ?_⟩
  · rw [hsplit]
    decide
  · rw [hlength]
    decide

end Scriptwright
