import Mathlib.Algebra.Group.Nat.Defs
import Mathlib.Data.List.Nodup
import Scriptwright.Proofs.Numeral
import Scriptwright.Proofs.Text
import Scriptwright.Settings.Load
/-!
# Settings by their entries

A settings file is taken entry by entry, and a value that does not fit its setting ends the loading.  Entries that fit
can be gone through one after the other (`readEntries_append`), so what comes of a file is decided by its first entry
that does not fit.  If there is none, each setting has the value of its entry or the default, and neither the order of
the entries nor those that name no setting matter; if there is one, it is named, and what was passed over before it has
been logged (`loaded_by_entries`).  All this but for numbers that are too long to be shown: where one has to be reported,
the loading stops with neither settings nor a refusal (`number_too_long_to_report`).
-/
namespace Scriptwright

theorem Value.isText_iff {v : Value} {t : Text} : v.isText t = true ↔ v = .text t := by
  cases v <;> simp [Value.isText]

theorem Value.isShowable_int_iff {n : Int} : (Value.int n).isShowable = true ↔ n.natAbs < 10 ^ maxDigits := by
  rw [isShowable, fitsDigits_iff]
  exact or_iff_right (by decide)

theorem Value.isShowable_of_pow_le {n digits : Nat} (hdigits : maxDigits ≤ digits) (h : 10 ^ digits ≤ n) :
    (Value.ofNat n).isShowable = false := by
  rw [Bool.eq_false_iff, ne_eq, ofNat, isShowable_int_iff, Int.natAbs_natCast, Nat.not_lt]
  calc 10 ^ maxDigits ≤ 10 ^ digits := Nat.pow_le_pow_right (by decide) hdigits
    _ ≤ n := h

namespace Settings

open Text (isBlank allBlank trim Tight)

variable {entries : List (Value × Value)} {k : Key} {v : Value} {s s' base : Settings}

/-! ## Values of settings -/

/-- What a value has to be for its setting. -/
def Key.Fits : Key → Value → Prop
  | .csvHeader, v => ∃ b, v = .bool b
  | .unsupportedCommands, v =>
    v = .null ∨ (∃ t, v = .text t) ∨ ∃ ts : List Text, v = .list (ts.map .text)
  | _, v => ∃ t, v = .text t ∧ ∃ c ∈ t, isBlank c = false

/-- The commands that a value names, as they are written. -/
def commandsIn : Value → List Text
  | .text t => [t]
  | .list items => items.filterMap Value.asText?
  | _ => []

/-- What a setting keeps of a value: all of it, but of commands no blanks around them and none that are blank. -/
def Key.kept : Key → Value → Value
  | .unsupportedCommands, v => .list ((((commandsIn v).map trim).filter (!·.isEmpty)).map .text)
  | _, v => v

/-- The value of a setting. -/
def valueOf (s : Settings) : Key → Value
  | .appName => .text s.appName
  | .sessionName => .text s.sessionName
  | .frameName => .text s.frameName
  | .csvHeader => .bool s.csvHeader
  | .unsupportedCommands => .list (s.unsupportedCommands.map .text)

theorem map_text_inj {ts us : List Text} (h : ts.map Value.text = us.map Value.text) : ts = us :=
  List.map_injective_iff.2 (fun _ _ => Value.text.inj) h

theorem eq_of_valueOf (h : ∀ k, s.valueOf k = s'.valueOf k) : s = s' := by
  obtain ⟨app, session, frame, header, commands⟩ := s
  obtain ⟨app', session', frame', header', commands'⟩ := s'
  obtain rfl : app = app' := Value.text.inj (h .appName)
  obtain rfl : session = session' := Value.text.inj (h .sessionName)
  obtain rfl : frame = frame' := Value.text.inj (h .frameName)
  obtain rfl : header = header' := Value.bool.inj (h .csvHeader)
  obtain rfl : commands = commands' := map_text_inj (Value.list.inj (h .unsupportedCommands))
  rfl

theorem name?_eq_some_iff {t : Text} : name? v = some t ↔ v = .text t ∧ ∃ c ∈ t, isBlank c = false := by
  cases v with
  | text u =>
    have hblank : allBlank u = false ↔ ∃ c ∈ u, isBlank c = false := by simp [allBlank]
    rw [name?, Value.text.injEq]
    cases hu : allBlank u with
    | true =>
      refine iff_of_false (by simp) ?_
      rintro ⟨rfl, hc⟩
      rw [hblank.2 hc] at hu
      cases hu
    | false =>
      have hc := hblank.1 hu
      constructor
      · intro h
        obtain rfl : u = t := Option.some.inj h
        exact ⟨rfl, hc⟩
      · rintro ⟨rfl, -⟩
        rfl
  | _ => simp [name?]

theorem flag?_eq_some_iff {b : Bool} : flag? v = some b ↔ v = .bool b := by
  cases v <;> simp [flag?]

theorem mapM_asText?_eq_some_iff {items : List Value} {ts : List Text} :
    items.mapM Value.asText? = some ts ↔ items = ts.map .text := by
  have hitem : ∀ (x : Value) (t : Text), x.asText? = some t ↔ x = .text t := by
    intro x t
    cases x <;> simp [Value.asText?]
  induction items generalizing ts with
  | nil => cases ts <;> simp
  | cons x items ih =>
    rw [List.mapM_cons]
    constructor
    · intro h
      obtain ⟨t, ht, h⟩ := Option.bind_eq_some_iff.1 h
      obtain ⟨us, hus, h⟩ := Option.bind_eq_some_iff.1 h
      obtain rfl : t :: us = ts := Option.some.inj h
      rw [(hitem x t).1 ht, ih.1 hus, List.map_cons]
    · intro h
      cases ts with
      | nil => cases h
      | cons t ts =>
        obtain ⟨hx, hitems⟩ := List.cons.inj h
        rw [(hitem x t).2 hx, ih.2 hitems]
        rfl

theorem commandsIn_list (ts : List Text) : commandsIn (.list (ts.map .text)) = ts := by
  rw [commandsIn, List.filterMap_map]
  exact List.filterMap_some

theorem commands?_eq_some_iff {cs : List Text} :
    commands? v = some cs ↔ Key.unsupportedCommands.Fits v ∧ ((commandsIn v).map trim).filter (!·.isEmpty) = cs := by
  constructor
  · intro h
    cases v with
    | null => exact ⟨.inl rfl, Option.some.inj h⟩
    | text t => exact ⟨.inr (.inl ⟨t, rfl⟩), Option.some.inj h⟩
    | list items =>
      obtain ⟨ts, hts, hcs⟩ := Option.map_eq_some_iff.1 h
      obtain rfl := mapM_asText?_eq_some_iff.1 hts
      exact ⟨.inr (.inr ⟨ts, rfl⟩), by rw [commandsIn_list, hcs]⟩
    | _ => cases h
  · rintro ⟨rfl | ⟨t, rfl⟩ | ⟨ts, rfl⟩, rfl⟩
    · rfl
    · rfl
    · rw [commands?, mapM_asText?_eq_some_iff.2 rfl, commandsIn_list]
      rfl

/-- **A setting takes a value that fits it, and no other setting changes.** -/
theorem set?_of_fits (h : k.Fits v) (s : Settings) :
    ∃ s', s.set? k v = some s' ∧ s'.valueOf = Function.update s.valueOf k (k.kept v) := by
  cases k with
  | csvHeader =>
    obtain ⟨b, rfl⟩ := h
    refine ⟨_, rfl, funext fun k' => ?_⟩
    cases k' <;> rfl
  | unsupportedCommands =>
    rw [set?, commands?_eq_some_iff.2 ⟨h, rfl⟩]
    refine ⟨_, rfl, funext fun k' => ?_⟩
    cases k' <;> rfl
  | _ =>
    obtain ⟨t, rfl, hc⟩ := h
    rw [set?, name?_eq_some_iff.2 ⟨rfl, hc⟩]
    refine ⟨_, rfl, funext fun k' => ?_⟩
    cases k' <;> rfl

theorem fits_of_set? (h : s.set? k v = some s') : k.Fits v := by
  cases k with
  | csvHeader =>
    obtain ⟨b, hb, -⟩ := Option.map_eq_some_iff.1 h
    exact ⟨b, flag?_eq_some_iff.1 hb⟩
  | unsupportedCommands =>
    obtain ⟨cs, hcs, -⟩ := Option.map_eq_some_iff.1 h
    exact (commands?_eq_some_iff.1 hcs).1
  | _ =>
    obtain ⟨t, ht, -⟩ := Option.map_eq_some_iff.1 h
    exact ⟨t, name?_eq_some_iff.1 ht⟩

/-! ## Entries -/

theorem Key.mem_all (k : Key) : k ∈ Key.all := by cases k <;> simp [Key.all]

theorem Key.name_inj {k k' : Key} (h : k.name = k'.name) : k = k' := by
  have hall : ∀ a ∈ Key.all, ∀ b ∈ Key.all, a.name = b.name → a = b := by decide
  exact hall k k.mem_all k' k'.mem_all h

theorem Key.ofValue?_name (k : Key) : Key.ofValue? (.text k.name) = some k := by
  cases k <;> rfl

theorem Key.eq_of_ofValue? (h : Key.ofValue? v = some k) : v = .text k.name := by
  have hname := List.find?_some (p := fun k : Key => v.isText k.name) h
  exact Value.isText_iff.1 hname

/-- The entry names a setting. -/
def isSetting (e : Value × Value) : Bool := (Key.ofValue? e.1).isSome

theorem isSetting_iff {e : Value × Value} : isSetting e = true ↔ ∃ k : Key, e.1 = .text k.name := by
  constructor
  · intro h
    obtain ⟨k, hk⟩ := Option.isSome_iff_exists.1 h
    exact ⟨k, Key.eq_of_ofValue? hk⟩
  · rintro ⟨k, hk⟩
    rw [isSetting, hk, Key.ofValue?_name]
    rfl

/-- The keys that name no setting, in order. -/
def ignoredIn (entries : List (Value × Value)) : List Value := (entries.filter (!isSetting ·)).map (·.1)

theorem ignoredIn_setting {e : Value × Value} (h : isSetting e = true) : ignoredIn (e :: entries) = ignoredIn entries := by
  rw [ignoredIn, List.filter_cons_of_neg (by simp [h]), ignoredIn]

theorem ignoredIn_other {e : Value × Value} (h : isSetting e = false) :
    ignoredIn (e :: entries) = e.1 :: ignoredIn entries := by
  rw [ignoredIn, List.filter_cons_of_pos (by simp [h]), List.map_cons, ignoredIn]

/-- Every value fits its setting. -/
def AllFit (entries : List (Value × Value)) : Prop := ∀ (k : Key) (v : Value), (.text k.name, v) ∈ entries → k.Fits v

/-- Every key that names no setting can be shown. -/
def AllShown (entries : List (Value × Value)) : Prop := ∀ key ∈ ignoredIn entries, key.isShowable = true

/-- There is something to report about the entry, and it cannot be shown: the value if it does not fit its setting, the
key if it names none. -/
def Unreportable (e : Value × Value) : Prop :=
  (∃ k : Key, e.1 = .text k.name ∧ ¬ k.Fits e.2 ∧ e.2.isShowable = false) ∨ (isSetting e = false ∧ e.1.isShowable = false)

/-- How the loading ends at the entry `e` behind the entries `before`: it is refused because of a value that does not fit,
and the setting is named, or what there is to report cannot be shown, and that is no refusal. -/
def EndsAt (file : Path) (before : List (Value × Value)) (e : Value × Value) (log : Log) (failure : LoadFailure) : Prop :=
  (∃ k : Key, e.1 = .text k.name ∧ ¬ k.Fits e.2 ∧ e.2.isShowable = true ∧
    log = (ignoredIn before).map (ignoredNote file) ++ [misfitNote file ⟨k, e.2⟩] ∧
    failure = .misfit ⟨k, e.2⟩ ∧ failure.isRefusal = true ∧
    "Failed to load settings: '".toList ++ k.name <+: failure.message) ∨
  (Unreportable e ∧ log = (ignoredIn before).map (ignoredNote file) ∧ failure = .unshown ∧ failure.isRefusal = false)

/-- Each setting has what it keeps of the value of its entry, or the value it has in `base` if there is no entry for it. -/
def Follows (base : Settings) (entries : List (Value × Value)) (s : Settings) : Prop :=
  ∀ k : Key, (∀ v, (.text k.name, v) ∈ entries → s.valueOf k = k.kept v) ∧
    ((∀ v, (.text k.name, v) ∉ entries) → s.valueOf k = base.valueOf k)

/-- No setting has two entries. -/
def Distinct (entries : List (Value × Value)) : Prop := ((entries.filter isSetting).map (·.1)).Nodup

namespace Follows

theorem congr {entries' : List (Value × Value)} (h : Follows base entries s)
    (hmem : ∀ (k : Key) (v : Value), (.text k.name, v) ∈ entries' ↔ (.text k.name, v) ∈ entries) :
    Follows base entries' s := by
  intro k
  simp only [hmem]
  exact h k

theorem unique (h : Follows base entries s) (h' : Follows base entries s') : s = s' := by
  refine eq_of_valueOf fun k => ?_
  by_cases hentry : ∃ v, (.text k.name, v) ∈ entries
  · obtain ⟨v, hv⟩ := hentry
    rw [(h k).1 v hv, (h' k).1 v hv]
  · rw [not_exists] at hentry
    rw [(h k).2 hentry, (h' k).2 hentry]

/-- What was set first stays if there is no other entry for it. -/
theorem cons {first : Settings} (hfirst : first.valueOf = Function.update base.valueOf k (k.kept v))
    (hnone : ∀ v', (.text k.name, v') ∉ entries) (h : Follows first entries s) :
    Follows base ((.text k.name, v) :: entries) s := by
  intro k'
  by_cases hk : k' = k
  · subst hk
    refine ⟨fun v' hmem => ?_, fun hno => absurd List.mem_cons_self (hno v)⟩
    have hv : v' = v := by
      rcases List.mem_cons.1 hmem with heq | hmem
      · exact (Prod.mk.inj heq).2
      · exact absurd hmem (hnone v')
    rw [(h k').2 hnone, hfirst, Function.update_self, hv]
  · have hmem : ∀ v', (.text k'.name, v') ∈ (.text k.name, v) :: entries ↔ (.text k'.name, v') ∈ entries := by
      intro v'
      refine List.mem_cons.trans (or_iff_right fun heq => hk ?_)
      exact Key.name_inj (Value.text.inj (Prod.mk.inj heq).1)
    have hsame : first.valueOf k' = base.valueOf k' := by rw [hfirst, Function.update_of_ne hk]
    simp only [hmem, ← hsame]
    exact h k'

end Follows

/-! ## Going through the entries -/

theorem readEntries_ignored {e : Value × Value} (h : isSetting e = false) (hshown : e.1.isShowable = true) (s : Settings)
    (rest : List (Value × Value)) :
    readEntries s (e :: rest) = ⟨e.1 :: (readEntries s rest).ignored, (readEntries s rest).outcome⟩ := by
  rw [readEntries, Option.not_isSome_iff_eq_none.1 (Bool.eq_false_iff.1 h)]
  exact if_pos hshown

theorem readEntries_taken (h : s.set? k v = some s') (rest : List (Value × Value)) :
    readEntries s ((.text k.name, v) :: rest) = readEntries s' rest := by
  rw [readEntries, Key.ofValue?_name]
  simp only [h]

theorem readEntries_misfit (h : ¬ k.Fits v) (s : Settings) (rest : List (Value × Value)) :
    readEntries s ((.text k.name, v) :: rest) =
      ⟨[], .error (if v.isShowable then .misfit ⟨k, v⟩ else .unshown)⟩ := by
  have hnone : s.set? k v = none := Option.eq_none_iff_forall_ne_some.2 fun s' hs => h (fits_of_set? hs)
  rw [readEntries, Key.ofValue?_name]
  simp only [hnone]

theorem readEntries_unreportable {e : Value × Value} (h : Unreportable e) (s : Settings) (rest : List (Value × Value)) :
    readEntries s (e :: rest) = ⟨[], .error .unshown⟩ := by
  obtain ⟨key, v⟩ := e
  rcases h with ⟨k, rfl, hv, hhidden⟩ | ⟨hother, hhidden⟩
  · rw [readEntries_misfit hv, if_neg (Bool.eq_false_iff.1 hhidden)]
  · rw [readEntries, Option.not_isSome_iff_eq_none.1 (Bool.eq_false_iff.1 hother)]
    exact if_neg (Bool.eq_false_iff.1 hhidden)

/-- **Entries that fit are gone through one after the other.** -/
theorem readEntries_append (hfit : AllFit entries) (hshown : AllShown entries) (hkeys : Distinct entries) (s : Settings) :
    ∃ s', Follows s entries s' ∧ ∀ rest, readEntries s (entries ++ rest) =
      ⟨ignoredIn entries ++ (readEntries s' rest).ignored, (readEntries s' rest).outcome⟩ := by
  induction entries generalizing s with
  | nil => exact ⟨s, fun k => ⟨by simp, fun _ => rfl⟩, fun rest => rfl⟩
  | cons e entries ih =>
    have hrest : AllFit entries := fun k v hmem => hfit k v (List.mem_cons_of_mem e hmem)
    by_cases hset : isSetting e = true
    · obtain ⟨key, v⟩ := e
      obtain ⟨k, rfl⟩ : ∃ k : Key, key = .text k.name := isSetting_iff.1 hset
      rw [AllShown, ignoredIn_setting hset] at hshown
      rw [Distinct, List.filter_cons_of_pos hset, List.map_cons, List.nodup_cons] at hkeys
      have hnone : ∀ v', (.text k.name, v') ∉ entries := fun v' hmem =>
        hkeys.1 (List.mem_map.2 ⟨_, List.mem_filter.2 ⟨hmem, isSetting_iff.2 ⟨k, rfl⟩⟩, rfl⟩)
      obtain ⟨first, hfirst, hvalue⟩ := set?_of_fits (hfit k v List.mem_cons_self) s
      obtain ⟨s', hfollows, hread⟩ := ih hrest hshown hkeys.2 first
      refine ⟨s', hfollows.cons hvalue hnone, fun rest => ?_⟩
      rw [List.cons_append, readEntries_taken hfirst, hread, ignoredIn_setting hset]
    · have hother := Bool.eq_false_iff.2 hset
      rw [AllShown, ignoredIn_other hother, List.forall_mem_cons] at hshown
      rw [Distinct, List.filter_cons_of_neg hset] at hkeys
      obtain ⟨s', hfollows, hread⟩ := ih hrest hshown.2 hkeys s
      refine ⟨s', hfollows.congr fun k v => ?_, fun rest => ?_⟩
      · refine List.mem_cons.trans (or_iff_right fun heq => hset ?_)
        exact isSetting_iff.2 ⟨k, by rw [← heq]⟩
      · rw [List.cons_append, readEntries_ignored hother hshown.1, hread, ignoredIn_other hother]
        rfl

/-- The entry does not end the loading. -/
def Passes (e : Value × Value) : Prop :=
  (∀ k : Key, e.1 = .text k.name → k.Fits e.2) ∧ (isSetting e = false → e.1.isShowable = true)

theorem forall_passes_iff : (∀ e ∈ entries, Passes e) ↔ AllFit entries ∧ AllShown entries := by
  constructor
  · intro h
    refine ⟨fun k v hmem => (h _ hmem).1 k rfl, fun key hkey => ?_⟩
    obtain ⟨e, he, rfl⟩ := List.mem_map.1 hkey
    obtain ⟨hmem, hother⟩ := List.mem_filter.1 he
    exact (h e hmem).2 (by simpa using hother)
  · rintro ⟨hfit, hshown⟩ ⟨key, v⟩ hmem
    refine ⟨fun k hk => hfit k v (by rwa [← hk]), fun hother => hshown key ?_⟩
    exact List.mem_map.2 ⟨(key, v), List.mem_filter.2 ⟨hmem, by simp [hother]⟩, rfl⟩

theorem exists_first_obstacle (h : ¬ (AllFit entries ∧ AllShown entries)) : ∃ before e after,
    entries = before ++ e :: after ∧ (AllFit before ∧ AllShown before) ∧
    ((∃ k : Key, e.1 = .text k.name ∧ ¬ k.Fits e.2 ∧ e.2.isShowable = true) ∨ Unreportable e) := by
  classical
  cases hfind : entries.find? (fun e => decide (¬ Passes e)) with
  | none => exact absurd (forall_passes_iff.1 fun e he => by simpa using List.find?_eq_none.1 hfind e he) h
  | some e =>
    obtain ⟨hstops, before, after, heq, hbefore⟩ := List.find?_eq_some_iff_append.1 hfind
    refine ⟨before, e, after, heq, forall_passes_iff.1 fun x hx => by simpa using hbefore x hx, ?_⟩
    have hnot : ¬ Passes e := by simpa using hstops
    rcases not_and_or.1 hnot with hmisfit | hother
    · simp only [not_forall] at hmisfit
      obtain ⟨k, hk, hv⟩ := hmisfit
      cases hshow : e.2.isShowable with
      | true => exact .inl ⟨k, hk, hv, rfl⟩
      | false => exact .inr (.inl ⟨k, hk, hv, hshow⟩)
    · obtain ⟨hkey, hhidden⟩ := Classical.not_imp.1 hother
      exact .inr (.inr ⟨hkey, Bool.eq_false_iff.2 hhidden⟩)

/-! ## Loading -/

theorem ofValue_of_allFit (file : Path) (hfit : AllFit entries) (hshown : AllShown entries) (hkeys : Distinct entries) :
    ∃ s, Follows {} entries s ∧ ofValue file (.map entries) = ((ignoredIn entries).map (ignoredNote file), .ok s) := by
  obtain ⟨s, hfollows, hread⟩ := readEntries_append hfit hshown hkeys {}
  have hend := hread []
  rw [List.append_nil] at hend
  refine ⟨s, hfollows, ?_⟩
  rw [ofValue, hend]
  simp [readEntries]

theorem ofValue_of_unreportable (file : Path) (after : List (Value × Value)) (hfit : AllFit entries)
    (hshown : AllShown entries) (hkeys : Distinct entries) {e : Value × Value} (he : Unreportable e) :
    ofValue file (.map (entries ++ e :: after)) = ((ignoredIn entries).map (ignoredNote file), .error .unshown) := by
  obtain ⟨s, -, hread⟩ := readEntries_append hfit hshown hkeys {}
  rw [ofValue, hread, readEntries_unreportable he]
  simp

theorem message_misfit (k : Key) (v : Value) :
    "Failed to load settings: '".toList ++ k.name <+: (LoadFailure.misfit ⟨k, v⟩).message := by
  unfold LoadFailure.message
  dsimp only
  rw [List.append_assoc, List.append_assoc, List.append_assoc]
  exact List.prefix_append _ _

/-- **The first entry that is in the way decides how the loading ends.** -/
theorem ofValue_of_obstacle (file : Path) (after : List (Value × Value)) (hfit : AllFit entries) (hshown : AllShown entries)
    (hkeys : Distinct entries) {e : Value × Value}
    (he : (∃ k : Key, e.1 = .text k.name ∧ ¬ k.Fits e.2 ∧ e.2.isShowable = true) ∨ Unreportable e) :
    ∃ log failure, ofValue file (.map (entries ++ e :: after)) = (log, .error failure) ∧
      EndsAt file entries e log failure := by
  rcases he with ⟨k, hk, hv, hshow⟩ | hhidden
  · obtain ⟨s, -, hread⟩ := readEntries_append hfit hshown hkeys {}
    have hstop : (readEntries s (e :: after)) = ⟨[], .error (.misfit ⟨k, e.2⟩)⟩ := by
      obtain ⟨key, v⟩ := e
      obtain rfl : key = .text k.name := hk
      rw [readEntries_misfit hv, if_pos hshow]
    refine ⟨_, _, ?_, .inl ⟨k, hk, hv, hshow, rfl, rfl, rfl, message_misfit k e.2⟩⟩
    rw [ofValue, hread, hstop]
    simp
  · exact ⟨_, _, ofValue_of_unreportable file after hfit hshown hkeys hhidden, .inr ⟨hhidden, rfl, rfl, rfl⟩⟩

theorem Follows.commands (h : Follows {} entries s) : ∀ c ∈ s.unsupportedCommands, c ≠ [] ∧ Tight c := by
  intro c hc
  by_cases hentry : ∃ v, (.text Key.unsupportedCommands.name, v) ∈ entries
  · obtain ⟨v, hv⟩ := hentry
    have hkept := map_text_inj (Value.list.inj ((h .unsupportedCommands).1 v hv))
    rw [hkept] at hc
    obtain ⟨hmem, hne⟩ := List.mem_filter.1 hc
    obtain ⟨t, -, rfl⟩ := List.mem_map.1 hmem
    exact ⟨by simpa using hne, Text.tight_trim t⟩
  · rw [not_exists] at hentry
    have hdefault := map_text_inj (Value.list.inj ((h .unsupportedCommands).2 hentry))
    rw [hdefault] at hc
    obtain rfl := List.mem_singleton.1 hc
    exact ⟨by decide, Text.tight_trim "awk".toList⟩

theorem distinct_of_nodup (h : (entries.map (·.1)).Nodup) : Distinct entries := h.sublist (List.filter_sublist.map _)

theorem Distinct.left {rest : List (Value × Value)} (h : Distinct (entries ++ rest)) : Distinct entries := by
  rw [Distinct, List.filter_append, List.map_append] at h
  exact (List.nodup_append.1 h).1

theorem mem_filter_isSetting : (.text k.name, v) ∈ entries.filter isSetting ↔ (.text k.name, v) ∈ entries := by
  rw [List.mem_filter]
  exact and_iff_left (isSetting_iff.2 ⟨k, rfl⟩)

/-- **Entries that name no setting and the order of the others make no difference to what is loaded.** -/
theorem ofValue_of_perm (file : Path) {entries' : List (Value × Value)} (hfit : AllFit entries) (hkeys : Distinct entries)
    (hfollows : Follows {} entries s) (hperm : (entries'.filter isSetting).Perm (entries.filter isSetting))
    (hshown : AllShown entries') : (ofValue file (.map entries')).2 = .ok s := by
  have hmem : ∀ (k : Key) (v : Value), (.text k.name, v) ∈ entries' ↔ (.text k.name, v) ∈ entries := fun k v => by
    rw [← mem_filter_isSetting, hperm.mem_iff, mem_filter_isSetting]
  have hfit' : AllFit entries' := fun k v h => hfit k v ((hmem k v).1 h)
  have hkeys' : Distinct entries' := (hperm.map _).nodup_iff.2 hkeys
  obtain ⟨s', hfollows', hload⟩ := ofValue_of_allFit file hfit' hshown hkeys'
  rw [hload, hfollows'.unique (hfollows.congr hmem)]

theorem load_of_document (file : Path) {d : Disk} {l : Location} {bytes : List UInt8} {t : Text} (hread : d.read l = .ok bytes)
    (htext : Utf8.readText bytes = .ok t) (hdocument : Yaml.load t = .ok v) : load d l file = ofValue file v := by
  rw [load, hread]
  simp only [ofBytes, htext, hdocument]

/-- **What is loaded from a mapping.**  It is loaded exactly if every value fits its setting and every key that names none
can be shown.  Then each setting has what it keeps of its value or the default, commands are neither empty nor surrounded
by blanks, and the same is loaded from these entries in any order, with any others that name no setting and can be shown.
Otherwise the first entry that is in the way decides how the loading ends.  In all cases what names no setting is logged,
as far as the entries were gone through, and a file whose document is the mapping is loaded so. -/
theorem loaded_by_entries (file : Path) (hkeys : (entries.map (·.1)).Nodup) :
    ((∃ s, (ofValue file (.map entries)).2 = .ok s) ↔ AllFit entries ∧ AllShown entries) ∧
    (∀ log s, ofValue file (.map entries) = (log, .ok s) →
      log = (ignoredIn entries).map (ignoredNote file) ∧ Follows {} entries s ∧
      (∀ c ∈ s.unsupportedCommands, c ≠ [] ∧ Tight c) ∧
      ∀ entries' : List (Value × Value), (entries'.filter isSetting).Perm (entries.filter isSetting) →
        AllShown entries' → (ofValue file (.map entries')).2 = .ok s) ∧
    (∀ log failure, ofValue file (.map entries) = (log, .error failure) →
      ∃ before e after, entries = before ++ e :: after ∧ AllFit before ∧ AllShown before ∧
        EndsAt file before e log failure) ∧
    ∀ (d : Disk) (l : Location) (bytes : List UInt8) (t : Text), d.read l = .ok bytes → Utf8.readText bytes = .ok t →
      Yaml.load t = .ok (.map entries) → load d l file = ofValue file (.map entries) := by
  have hdistinct := distinct_of_nodup hkeys
  by_cases hall : AllFit entries ∧ AllShown entries
  · obtain ⟨hfit, hshown⟩ := hall
    obtain ⟨s, hfollows, hload⟩ := ofValue_of_allFit file hfit hshown hdistinct
    refine ⟨iff_of_true ⟨s, by rw [hload]⟩ ⟨hfit, hshown⟩, fun log s' h => ?_, fun log failure h => ?_,
      fun d l bytes t => load_of_document file⟩
    · obtain ⟨hlog, hs⟩ := Prod.mk.inj (hload.symm.trans h)
      obtain rfl : s = s' := Except.ok.inj hs
      exact ⟨hlog.symm, hfollows, hfollows.commands, fun entries' => ofValue_of_perm file hfit hdistinct hfollows⟩
    · cases (Prod.mk.inj (hload.symm.trans h)).2
  · obtain ⟨before, e, after, rfl, ⟨hfit, hshown⟩, hstop⟩ := exists_first_obstacle hall
    obtain ⟨log, failure, hload, hend⟩ := ofValue_of_obstacle file after hfit hshown hdistinct.left hstop
    refine ⟨iff_of_false ?_ hall, fun log' s h => ?_, fun log' failure' h => ?_, fun d l bytes t => load_of_document file⟩
    · rintro ⟨s, hs⟩
      rw [hload] at hs
      cases hs
    · cases (Prod.mk.inj (hload.symm.trans h)).2
    · obtain ⟨rfl, hfailure⟩ := Prod.mk.inj (hload.symm.trans h)
      obtain rfl : failure = failure' := Except.error.inj hfailure
      exact ⟨before, e, after, rfl, hfit, hshown, hend⟩

/-- Keys of several kinds that name no setting, blanks around a command and a blank one; then a blank name in front of
another value that does not fit. -/
theorem loaded_by_entries_with_others :
    let file : Path := Path.ofText "config.yaml".toList
    let taken : List (Value × Value) :=
      [(.ofString "colour", .ofString "blue"),
       (.ofString "unsupported_commands", .list [.ofString " sed\t", .ofString " ", .ofString "awk"]),
       (.int 1, .null), (.ofString "csv_header", .bool false)]
    let refused : List (Value × Value) :=
      [(.null, .null), (.ofString "csv_header", .bool true), (.ofString "session_name", .ofString " "),
       (.ofString "colour", .null), (.ofString "dataframe_name", .int 3)]
    let s : Settings := { csvHeader := false, unsupportedCommands := ["sed".toList, "awk".toList] }
    ((taken.map (·.1)).Nodup ∧
      ofValue file (.map taken) = ([.ofString "colour", .int 1].map (ignoredNote file), .ok s) ∧
      (ofValue file (.map taken.reverse)).2 = .ok s) ∧
    ((refused.map (·.1)).Nodup ∧ (∃ log, ofValue file (.map refused) =
        ([.null].map (ignoredNote file) ++ log, .error (.misfit ⟨.sessionName, .ofString " "⟩))) ∧
      AllShown refused ∧ ¬ AllFit refused) := by
  intro file taken refused s
  have htaken : (taken.map (·.1)).Nodup := by simp [taken, Value.ofString]
  have hrefused : (refused.map (·.1)).Nodup := by simp [refused, Value.ofString]
  have hload : ofValue file (.map taken) = ([.ofString "colour", .int 1].map (ignoredNote file), .ok s) := rfl
  have hrefusal : ofValue file (.map refused) =
      ([.null].map (ignoredNote file) ++ [misfitNote file ⟨.sessionName, .ofString " "⟩],
        .error (.misfit ⟨.sessionName, .ofString " "⟩)) := rfl
  have hshown : AllShown taken.reverse := by unfold AllShown; decide
  have hshown' : AllShown refused := by unfold AllShown; decide
  refine ⟨⟨htaken, hload, ?_⟩, hrefused, ⟨_, hrefusal⟩, hshown', fun hfit => ?_⟩
  · exact ((loaded_by_entries file htaken).2.1 _ _ hload).2.2.2 _ ((List.reverse_perm taken).filter isSetting) hshown
  · obtain ⟨s', hs'⟩ := (loaded_by_entries file hrefused).1.2 ⟨hfit, hshown'⟩
    rw [hrefusal] at hs'
    cases hs'

/-- **A number may be too long to be reported**: as the value of a setting that it does not fit it is not refused, and as a
key that names no setting it is not passed over. -/
theorem number_too_long_to_report :
    let file : Path := Path.ofText "config.yaml".toList
    let n : Value := .ofNat (16 ^ 3600)
    (¬ Key.csvHeader.Fits n ∧ ofValue file (.map [(.text Key.csvHeader.name, n)]) = ([], .error .unshown)) ∧
    (AllFit [(n, .null)] ∧ ofValue file (.map [(n, .null)]) = ([], .error .unshown)) ∧
    LoadFailure.unshown.isRefusal = false := by
  intro file
  have hpow : ∀ k, 10 ^ (43 * k) ≤ 16 ^ (36 * k) := fun k => by
    rw [pow_mul, pow_mul]
    exact Nat.pow_le_pow_left (by decide) k
  have hhidden := Value.isShowable_of_pow_le (by decide : Value.maxDigits ≤ 43 * 100) (hpow 100)
  -- how long the number is does not matter any more
  generalize 16 ^ (36 * 100) = i at hhidden ⊢
  intro n
  have hvalue : ¬ Key.csvHeader.Fits n := by
    rintro ⟨b, hb : Value.ofNat i = .bool b⟩
    cases hb
  have hfit : AllFit [(n, .null)] := by
    intro k v hmem
    have hkey : Value.text k.name = .ofNat i := (Prod.mk.inj (List.mem_singleton.1 hmem)).1
    cases hkey
  have hempty : AllFit [] ∧ AllShown [] := forall_passes_iff.1 fun e he => absurd he List.not_mem_nil
  refine ⟨⟨hvalue, ?_⟩, ⟨hfit, ?_⟩, rfl⟩
  · exact ofValue_of_unreportable file [] hempty.1 hempty.2 List.nodup_nil (.inl ⟨.csvHeader, rfl, hvalue, hhidden⟩)
  · exact ofValue_of_unreportable file [] hempty.1 hempty.2 List.nodup_nil (.inr ⟨rfl, hhidden⟩)

end Settings
end Scriptwright
