import DriftPatch.Proofs.Steps
import DriftPatch.Settings.OfValue
import Mathlib.Data.List.Basic

/-!
# What is asked of settings

What is asked of each setting is a `Requirement`: a name, the values that suit, and
what is reported of any other. The requirements are gone through in a fixed order,
and the first that a section breaks is reported, wherever in the section the value
stands (`Settings.ofSection_eq_refused_iff`).

A section that breaks none need not give settings. Its languages are written out, and
a number of too many digits cannot be; that is looked at last, and is no matter of the
requirements (`Settings.exists_ofSection_eq_ok_iff`). Where there are settings they are
those given, and the defaults where none are (`Settings.isReadFrom_of_ofSection`).
-/

namespace DriftPatch.Settings

/-! ## What is asked -/

/-- **What is asked of a setting.** -/
structure Requirement where
  /-- The name of the setting. -/
  name : Text
  /-- The values that suit. -/
  Suits : Value → Prop
  /-- What is reported of any other value. -/
  report : Value → Error

namespace Requirement

/-- A setting that counts something: a whole number from zero on. -/
def count (name : Text) : Requirement where
  name
  Suits v := ∃ n : Nat, v = .int n
  report := .notCount name

/-- The switch of the reporting of edits: a truth value. -/
def switch : Requirement where
  name := telemetryName
  Suits v := ∃ b, v = .bool b
  report := .notSwitch

/-- The languages: a mapping, or nothing. -/
def tagging : Requirement where
  name := languagesName
  Suits v := v = .null ∨ ∃ entries, v = .mapping entries
  report _ := .languagesNotMapping

/-- **All that is asked of a section**, in order. -/
def all : List Requirement :=
  [count contextLinesName, count previewLinesName, count previewWidthName, switch, tagging]

/-- **A section breaks a requirement**: it has a value under the name, and one that does
not suit. A section is given by what it has under each name. -/
def IsBroken (r : Requirement) (found : Text → Option Value) : Prop :=
  ∃ v, found r.name = some v ∧ ¬r.Suits v

/-- **What is reported of a section**: the first requirement that it breaks, and the value
that breaks it. -/
def Reports (rs : List Requirement) (found : Text → Option Value) (e : Error) : Prop :=
  ∃ before r after v, rs = before ++ r :: after ∧ (∀ q ∈ before, ¬q.IsBroken found)
    ∧ found r.name = some v ∧ ¬r.Suits v ∧ e = r.report v

end Requirement

variable {found : Text → Option Value} {name : Text} {e : Error} {v : Value}
  {r : Requirement} {rs : List Requirement}

namespace Requirement

theorem not_reports_nil : ¬Reports [] found e := by
  rintro ⟨before, r, after, v, h, -⟩
  exact absurd h.symm (List.append_ne_nil_of_right_ne_nil _ (List.cons_ne_nil _ _))

/-- The first requirement is reported if it is broken, and is passed over if not. -/
theorem reports_cons_iff :
    Reports (r :: rs) found e
      ↔ (∃ v, found r.name = some v ∧ ¬r.Suits v ∧ e = r.report v)
        ∨ (¬r.IsBroken found ∧ Reports rs found e) := by
  constructor
  · rintro ⟨before, q, after, v, hsplit, hbefore, hv, hnot, he⟩
    cases before with
    | nil =>
      obtain ⟨rfl, rfl⟩ := List.cons.inj hsplit
      exact Or.inl ⟨v, hv, hnot, he⟩
    | cons p before =>
      obtain ⟨rfl, rfl⟩ := List.cons.inj hsplit
      rw [List.forall_mem_cons] at hbefore
      exact Or.inr ⟨hbefore.1, before, q, after, v, rfl, hbefore.2, hv, hnot, he⟩
  · rintro (⟨v, hv, hnot, he⟩ | ⟨hmet, before, q, after, v, rfl, hbefore, hv, hnot, he⟩)
    · exact ⟨[], r, rs, v, rfl, nofun, hv, hnot, he⟩
    · exact ⟨r :: before, q, after, v, rfl, List.forall_mem_cons.2 ⟨hmet, hbefore⟩, hv, hnot, he⟩

/-- **Something is reported exactly if a requirement is broken.** -/
theorem exists_reports_iff : (∃ e, Reports rs found e) ↔ ∃ r ∈ rs, r.IsBroken found := by
  induction rs with
  | nil =>
    refine ⟨fun ⟨e, he⟩ => absurd he not_reports_nil, ?_⟩
    rintro ⟨r, hr, -⟩
    exact absurd hr List.not_mem_nil
  | cons r rs ih =>
    rw [List.exists_mem_cons_iff, ← ih]
    constructor
    · rintro ⟨e, he⟩
      rcases reports_cons_iff.1 he with ⟨v, hv, hnot, -⟩ | ⟨-, he⟩
      · exact Or.inl ⟨v, hv, hnot⟩
      · exact Or.inr ⟨e, he⟩
    · rintro h
      by_cases hbroken : r.IsBroken found
      · obtain ⟨v, hv, hnot⟩ := hbroken
        exact ⟨_, reports_cons_iff.2 (Or.inl ⟨v, hv, hnot, rfl⟩)⟩
      · obtain ⟨e, he⟩ := h.resolve_left hbroken
        exact ⟨e, reports_cons_iff.2 (Or.inr ⟨hbroken, he⟩)⟩

end Requirement

/-! ## Reading one setting -/

/-- **A setting is read as it is asked for**: where it is absent or suits there is a
result, and any other value is reported. -/
structure Requirement.IsKeptBy {α : Type} (r : Requirement) (found : Text → Option Value)
    (x : Except Error α) : Prop where
  /-- There is a result without a value. -/
  absent : found r.name = none → ∃ a, x = .ok a
  /-- There is one of a value that suits. -/
  suited : ∀ v, found r.name = some v → r.Suits v → ∃ a, x = .ok a
  /-- Any other value is reported. -/
  broken : ∀ v, found r.name = some v → ¬r.Suits v → x = .error (r.report v)

namespace Requirement

variable {α : Type} {x : Except Error α}

theorem IsKeptBy.exists_eq_ok_iff (hx : r.IsKeptBy found x) :
    (∃ a, x = .ok a) ↔ ¬r.IsBroken found := by
  constructor
  · rintro ⟨a, rfl⟩ ⟨v, hv, hnot⟩
    exact absurd (hx.broken v hv hnot) (by simp)
  · intro hmet
    cases hv : found r.name with
    | none => exact hx.absent hv
    | some v => exact hx.suited v hv (by_contra fun hnot => hmet ⟨v, hv, hnot⟩)

theorem IsKeptBy.eq_error_iff (hx : r.IsKeptBy found x) :
    x = .error e ↔ ∃ v, found r.name = some v ∧ ¬r.Suits v ∧ e = r.report v := by
  constructor
  · rintro rfl
    have hbroken : r.IsBroken found := by
      by_contra hmet
      obtain ⟨a, ha⟩ := hx.exists_eq_ok_iff.2 hmet
      cases ha
    obtain ⟨v, hv, hnot⟩ := hbroken
    exact ⟨v, hv, hnot, Except.error.inj (hx.broken v hv hnot)⟩
  · rintro ⟨v, hv, hnot, rfl⟩
    exact hx.broken v hv hnot

theorem isKeptBy_readCount (found : Text → Option Value) (name : Text) (fallback : Int) :
    (count name).IsKeptBy found (readCount found name fallback) where
  absent (hv : found name = none) := ⟨fallback, by rw [readCount, hv]⟩
  suited v (hv : found name = some v) hsuits := by
    obtain ⟨n, rfl⟩ := hsuits
    refine ⟨n, ?_⟩
    rw [readCount, hv]
    exact if_neg (Int.not_lt.2 (Int.natCast_nonneg n))
  broken v (hv : found name = some v) hnot := by
    rw [readCount, hv]
    cases v with
    | int n =>
      refine if_pos (Int.not_le.1 fun hpos => hnot ⟨n.toNat, ?_⟩)
      rw [Int.toNat_of_nonneg hpos]
    | _ => rfl

theorem isKeptBy_readSwitch (found : Text → Option Value) (fallback : Bool) :
    switch.IsKeptBy found (readSwitch found telemetryName fallback) where
  absent (hv : found telemetryName = none) := ⟨fallback, by rw [readSwitch, hv]⟩
  suited v (hv : found telemetryName = some v) hsuits := by
    obtain ⟨b, rfl⟩ := hsuits
    exact ⟨b, by rw [readSwitch, hv]⟩
  broken v (hv : found telemetryName = some v) hnot := by
    rw [readSwitch, hv]
    cases v with
    | bool b => exact absurd ⟨b, rfl⟩ hnot
    | _ => rfl

theorem isKeptBy_languageEntries (found : Text → Option Value) :
    tagging.IsKeptBy found (languageEntries found) where
  absent (hv : found languagesName = none) := ⟨[], by rw [languageEntries, hv]⟩
  suited v (hv : found languagesName = some v) hsuits := by
    rcases hsuits with rfl | ⟨entries, rfl⟩
    · exact ⟨[], by rw [languageEntries, hv]⟩
    · exact ⟨entries, by rw [languageEntries, hv]⟩
  broken v (hv : found languagesName = some v) hnot := by
    rw [languageEntries, hv]
    cases v with
    | null => exact absurd (Or.inl rfl) hnot
    | mapping entries => exact absurd (Or.inr ⟨entries, rfl⟩) hnot
    | _ => rfl

end Requirement

open Requirement

/-! ## Reading a section -/

/-- **One setting after another**: what breaks the first requirement is reported, and
what is reported behind it only if nothing does. -/
theorem orRefuse_bind_eq_refused_iff {α β : Type} {x : Except Error α} {f : α → Except Fault β}
    (hx : r.IsKeptBy found x) (hf : ∀ a, f a = .error (.refused e) ↔ Reports rs found e) :
    ofSection.orRefuse x >>= f = .error (.refused e) ↔ Reports (r :: rs) found e := by
  rw [reports_cons_iff, ← hx.eq_error_iff, ← hx.exists_eq_ok_iff]
  cases x with
  | error e' =>
    show Except.error (Fault.refused e') = _ ↔ _
    simp
  | ok a =>
    show f a = _ ↔ _
    rw [hf a]
    simp

theorem ofSection_eq_refused_iff :
    ofSection found = .error (.refused e) ↔ Reports all found e := by
  unfold ofSection
  refine orRefuse_bind_eq_refused_iff (isKeptBy_readCount ..) fun _ =>
    orRefuse_bind_eq_refused_iff (isKeptBy_readCount ..) fun _ =>
    orRefuse_bind_eq_refused_iff (isKeptBy_readCount ..) fun _ =>
    orRefuse_bind_eq_refused_iff (isKeptBy_readSwitch ..) fun _ =>
    orRefuse_bind_eq_refused_iff (isKeptBy_languageEntries ..) fun entries => ?_
  -- whatever comes of writing the languages is no matter of the requirements
  refine iff_of_false ?_ not_reports_nil
  split
  · exact nofun
  · exact nofun

/-- **Steps that may refuse succeed** if the first one does and the others after it. -/
theorem orRefuse_bind_eq_ok_iff {α β : Type} {x : Except Error α} {f : α → Except Fault β} {b : β} :
    ofSection.orRefuse x >>= f = .ok b ↔ ∃ a, x = .ok a ∧ f a = .ok b := by
  rw [bind_eq_ok_iff]
  refine exists_congr fun a => and_congr_left fun _ => ?_
  cases x <;> simp [ofSection.orRefuse, Except.mapError]

variable {s : Settings}

/-- **When a section gives settings**, and which. -/
theorem ofSection_eq_ok_iff :
    ofSection found = .ok s
      ↔ ∃ contextLines, readCount found contextLinesName standard.contextLines = .ok contextLines
        ∧ ∃ previewLines, readCount found previewLinesName standard.previewLines = .ok previewLines
        ∧ ∃ previewWidth, readCount found previewWidthName standard.previewWidth = .ok previewWidth
        ∧ ∃ telemetry, readSwitch found telemetryName standard.telemetry = .ok telemetry
        ∧ ∃ entries, languageEntries found = .ok entries
        ∧ ∃ languages, readLanguages entries = .ok languages
        ∧ s = withContext { standard with previewLines, previewWidth, telemetry, languages }
          contextLines := by
  unfold ofSection
  simp only [orRefuse_bind_eq_ok_iff]
  iterate 5 refine exists_congr fun _ => and_congr_right fun _ => ?_
  split
  · next languages h =>
    simp [h, pure, Except.pure, eq_comm]
  · next h => simp [h]

/-! ## What is read -/

/-- **A value is the given one**, or the default where none is given. -/
def IsGiven {α : Type} (found : Text → Option Value) (name : Text) (shape : α → Value)
    (fallback a : α) : Prop :=
  (found name = none ∧ a = fallback) ∨ found name = some (shape a)

/-- The languages that a section chooses, as they stand there. -/
def chosenIn (found : Text → Option Value) : List (Value × Value) :=
  match found languagesName with
  | some (.mapping entries) => entries
  | _ => []

/-- **Settings are those of a section.** -/
structure IsReadFrom (s : Settings) (found : Text → Option Value) : Prop where
  /-- The lines of context are those asked for, up to the limit. -/
  contextLines : ∃ asked : Int, IsGiven found contextLinesName .int 3 asked
    ∧ (s.contextLines : Int) = min asked 10
  /-- The lines of an excerpt are as given. -/
  previewLines : IsGiven found previewLinesName .int 3 s.previewLines
  /-- Its width is. -/
  previewWidth : IsGiven found previewWidthName .int 120 s.previewWidth
  /-- So is whether edits are reported. -/
  telemetry : IsGiven found telemetryName .bool true s.telemetry
  /-- The languages are those chosen. -/
  languages : readLanguages (chosenIn found) = .ok s.languages

/-- Entries of which each key and each value can be written. -/
def AreDisplayed (entries : List (Value × Value)) : Prop :=
  ∀ entry ∈ entries, (∃ t, entry.1.display = .ok t) ∧ ∃ t, entry.2.display = .ok t

/-- A count that is read is the given one, and none is negative. -/
theorem isGiven_of_readCount {fallback n : Int} (h : readCount found name fallback = .ok n) :
    IsGiven found name .int fallback n ∧ (0 ≤ fallback → 0 ≤ n) := by
  unfold readCount at h
  split at h
  · next hnone =>
    cases h
    exact ⟨Or.inl ⟨hnone, rfl⟩, id⟩
  · next m hsome =>
    split at h
    · cases h
    · next hneg =>
      cases h
      exact ⟨Or.inr hsome, fun _ => Int.not_lt.1 hneg⟩
  · cases h

theorem isGiven_of_readSwitch {fallback b : Bool}
    (h : readSwitch found telemetryName fallback = .ok b) :
    IsGiven found telemetryName .bool fallback b := by
  unfold readSwitch at h
  split at h
  · next hnone =>
    cases h
    exact Or.inl ⟨hnone, rfl⟩
  · next b hsome =>
    cases h
    exact Or.inr hsome
  · cases h

theorem eq_chosenIn_of_languageEntries {entries : List (Value × Value)}
    (h : languageEntries found = .ok entries) : entries = chosenIn found := by
  unfold languageEntries at h
  unfold chosenIn
  split at h
  · next hnone => rw [hnone]; cases h; rfl
  · next hnull => rw [hnull]; cases h; rfl
  · next hmapping => rw [hmapping]; cases h; rfl
  · cases h

/-- **What is read from a section** is what stands in it. -/
theorem isReadFrom_of_ofSection (h : ofSection found = .ok s) : s.IsReadFrom found := by
  obtain ⟨contextLines, hcontext, previewLines, hlines, previewWidth, hwidth, telemetry, hswitch,
    entries, hentries, languages, hlanguages, rfl⟩ := ofSection_eq_ok_iff.1 h
  have hasked : 0 ≤ contextLines := (isGiven_of_readCount hcontext).2 (by decide)
  have hclamp : ((clampContext contextLines : Nat) : Int) = min contextLines 10 := by
    show ((min 10 contextLines.toNat : Nat) : Int) = _
    omega
  rw [eq_chosenIn_of_languageEntries hentries] at hlanguages
  exact
    { contextLines := ⟨contextLines, (isGiven_of_readCount hcontext).1, hclamp⟩
      previewLines := (isGiven_of_readCount hlines).1
      previewWidth := (isGiven_of_readCount hwidth).1
      telemetry := isGiven_of_readSwitch hswitch
      languages := hlanguages }

/-- An extension can be looked up if it can be written. -/
theorem exists_normalExtension_eq_ok_iff :
    (∃ t, normalExtension v = .ok t) ↔ ∃ t, v.display = .ok t := by
  unfold normalExtension
  split
  · next codes =>
    exact iff_of_true ⟨_, rfl⟩ ⟨_, rfl⟩
  · constructor
    · rintro ⟨t, h⟩
      obtain ⟨shown, hshown, -⟩ := bind_eq_ok_iff.1 h
      exact ⟨shown, hshown⟩
    · rintro ⟨shown, hshown⟩
      exact ⟨_, bind_eq_ok_iff.2 ⟨shown, hshown, rfl⟩⟩

/-- An entry of the languages as it is looked up. -/
def entryRead (entry : Value × Value) : Except Numeral.Error (Text × Text) := do
  return (← normalExtension entry.1, ← entry.2.display)

/-- **Languages are read entry by entry**, and put into a table in their order. -/
theorem readLanguages_eq_ok_iff {entries : List (Value × Value)} {languages : Table Text Text} :
    readLanguages entries = .ok languages
      ↔ ∃ read, entries.mapM entryRead = .ok read ∧ Table.ofEntries read = languages := by
  show (entries.mapM entryRead >>= fun read => .ok (Table.ofEntries read)) = _ ↔ _
  simp only [bind_eq_ok_iff, Except.ok.injEq]

/-- **Languages can be read exactly if they can be written.** -/
theorem exists_readLanguages_eq_ok_iff {entries : List (Value × Value)} :
    (∃ languages, readLanguages entries = .ok languages) ↔ AreDisplayed entries := by
  have hread : (∃ languages, readLanguages entries = .ok languages)
      ↔ ∃ read, entries.mapM entryRead = .ok read := by
    simp only [readLanguages_eq_ok_iff]
    exact ⟨fun ⟨_, read, h, _⟩ => ⟨read, h⟩, fun ⟨read, h⟩ => ⟨_, read, h, rfl⟩⟩
  rw [hread, exists_mapM_eq_ok_iff]
  refine forall₂_congr fun entry _ => ?_
  rw [← exists_normalExtension_eq_ok_iff]
  constructor
  · rintro ⟨read, h⟩
    obtain ⟨extension, hextension, h⟩ := bind_eq_ok_iff.1 h
    obtain ⟨tag, htag, -⟩ := bind_eq_ok_iff.1 h
    exact ⟨⟨extension, hextension⟩, tag, htag⟩
  · rintro ⟨⟨extension, hextension⟩, tag, htag⟩
    exact ⟨_, bind_eq_ok_iff.2 ⟨extension, hextension, bind_eq_ok_iff.2 ⟨tag, htag, rfl⟩⟩⟩

/-- **A section gives settings exactly if it breaks no requirement** and its languages can be
written. -/
theorem exists_ofSection_eq_ok_iff :
    (∃ s, ofSection found = .ok s)
      ↔ (∀ r ∈ all, ¬r.IsBroken found) ∧ AreDisplayed (chosenIn found) := by
  rw [← exists_readLanguages_eq_ok_iff]
  constructor
  · rintro ⟨s, hs⟩
    refine ⟨fun r hr hbroken => ?_, _, (isReadFrom_of_ofSection hs).languages⟩
    obtain ⟨e, he⟩ := exists_reports_iff.2 ⟨r, hr, hbroken⟩
    rw [← ofSection_eq_refused_iff, hs] at he
    cases he
  · rintro ⟨hmet, languages, hlanguages⟩
    unfold all at hmet
    rw [List.forall_mem_cons, List.forall_mem_cons, List.forall_mem_cons, List.forall_mem_cons,
      List.forall_mem_singleton,
      ← (isKeptBy_readCount found _ standard.contextLines).exists_eq_ok_iff,
      ← (isKeptBy_readCount found _ standard.previewLines).exists_eq_ok_iff,
      ← (isKeptBy_readCount found _ standard.previewWidth).exists_eq_ok_iff,
      ← (isKeptBy_readSwitch found standard.telemetry).exists_eq_ok_iff,
      ← (isKeptBy_languageEntries found).exists_eq_ok_iff] at hmet
    obtain ⟨⟨contextLines, hcontext⟩, ⟨previewLines, hlines⟩, ⟨previewWidth, hwidth⟩,
      ⟨telemetry, hswitch⟩, entries, hentries⟩ := hmet
    rw [← eq_chosenIn_of_languageEntries hentries] at hlanguages
    exact ⟨_, ofSection_eq_ok_iff.2 ⟨contextLines, hcontext, previewLines, hlines, previewWidth,
      hwidth, telemetry, hswitch, entries, hentries, languages, hlanguages, rfl⟩⟩

end DriftPatch.Settings
