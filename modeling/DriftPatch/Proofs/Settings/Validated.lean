import DriftPatch.Proofs.Settings.Requirement

/-!
# Settings are validated

What the settings are read from is the section of a document, or the document itself
where it has no section (`Settings.sectionOf`). A section that says nothing means the
defaults, and any other has to be a mapping that breaks no requirement.

So an answer is told from the section alone, and of that only from what stands under
the five names of settings: other entries have no say, and neither has the order in
which they stand (`Settings.validates`).
-/

namespace DriftPatch.Settings

open Requirement

variable {v : Value}

/-! ## Which section is read -/

/-- **The section of a document**: what stands under the name of the settings, if
anything does, and the document itself otherwise. -/
def sectionOf (document : List (Value × Value)) : Value :=
  (Value.member? document sectionName).getD (.mapping document)

variable {document entries : List (Value × Value)}

theorem ofEntries_of_null (h : sectionOf document = .null) : ofEntries document = .ok standard := by
  unfold sectionOf at h
  unfold ofEntries
  cases hmember : Value.member? document sectionName with
  | none => rw [hmember] at h; cases h
  | some v =>
    rw [hmember, Option.getD_some] at h
    rw [h]

theorem ofEntries_of_mapping (h : sectionOf document = .mapping entries) :
    ofEntries document = ofSection (Value.member? entries) := by
  unfold sectionOf at h
  unfold ofEntries
  cases hmember : Value.member? document sectionName with
  | none =>
    rw [hmember, Option.getD_none] at h
    rw [Value.mapping.inj h]
  | some v =>
    rw [hmember, Option.getD_some] at h
    rw [h]

theorem ofEntries_of_other (hnull : sectionOf document ≠ .null)
    (hmapping : ∀ entries, sectionOf document ≠ .mapping entries) :
    ofEntries document = .error (.refused .sectionNotMapping) := by
  unfold sectionOf at hnull hmapping
  unfold ofEntries
  cases hmember : Value.member? document sectionName with
  | none =>
    rw [hmember] at hmapping
    exact absurd rfl (hmapping document)
  | some v =>
    rw [hmember, Option.getD_some] at hnull hmapping
    cases v with
    | null => exact absurd rfl hnull
    | mapping entries => exact absurd rfl (hmapping entries)
    | _ => rfl

/-! ## Where entries stand -/

/-- **No text is the key of two entries.** -/
def HasOwnKeys (entries : List (Value × Value)) : Prop :=
  entries.Pairwise fun a b => ∀ t, a.1 = .text t → b.1 ≠ .text t

/-- A text is the same key as itself and nothing else is. -/
theorem text_beq_iff {t : Text} : (Value.text t == v) = true ↔ v = .text t := by
  show Value.sameKey (.text t) v = true ↔ _
  cases v with
  | text u => exact beq_iff_eq.trans ⟨fun e => e ▸ rfl, fun e => (Value.text.inj e).symm⟩
  | _ => simp [Value.sameKey, Value.number?]

/-- Where each key is one of a single entry, a value is found under it wherever the
entry stands. -/
theorem member?_eq_some_iff {key : Text} (h : HasOwnKeys entries) :
    Value.member? entries key = some v ↔ (.text key, v) ∈ entries := by
  unfold Value.member?
  induction entries with
  | nil => simp [Table.get?]
  | cons entry entries ih =>
    obtain ⟨k, w⟩ := entry
    obtain ⟨hother, hrest⟩ := List.pairwise_cons.1 h
    rw [Table.get?_cons, List.mem_cons, Prod.mk.injEq]
    by_cases hk : k = .text key
    · have hnone : (Value.text key, v) ∉ entries := fun hmem => hother _ hmem key hk rfl
      rw [if_pos (text_beq_iff.2 hk), Option.some.injEq, or_iff_left hnone]
      exact ⟨fun e => ⟨hk.symm, e.symm⟩, fun e => e.2.symm⟩
    · rw [if_neg (mt text_beq_iff.1 hk), ih hrest, or_iff_right]
      exact fun e => hk e.1.symm

/-- **The order of entries does not matter** to what is found. -/
theorem member?_eq_of_perm {entries' : List (Value × Value)} (h : HasOwnKeys entries)
    (hperm : entries.Perm entries') (key : Text) :
    Value.member? entries' key = Value.member? entries key := by
  have h' : HasOwnKeys entries' :=
    (hperm.pairwise_iff fun hab t hb ha => hab t ha hb).1 h
  refine Option.ext fun v => ?_
  rw [member?_eq_some_iff h, member?_eq_some_iff h', hperm.mem_iff]

/-! ## The answer -/

/-- Nothing but the settings is looked at. -/
theorem ofSection_congr {found found' : Text → Option Value}
    (h : ∀ name ∈ names, found' name = found name) : ofSection found' = ofSection found := by
  unfold names at h
  rw [List.forall_mem_cons, List.forall_mem_cons, List.forall_mem_cons, List.forall_mem_cons,
    List.forall_mem_singleton] at h
  obtain ⟨hcontext, hlines, hwidth, hswitch, hlanguages⟩ := h
  unfold ofSection readCount readSwitch languageEntries
  rw [hcontext, hlines, hwidth, hswitch, hlanguages]

/-- **An answer to a document is one of the rules.** -/
structure Validates (document : List (Value × Value)) (answer : Except Fault Settings) : Prop where
  /-- A section that says nothing means the defaults. -/
  null : sectionOf document = .null → answer = .ok standard
  /-- Any other section is refused if it is no mapping or breaks a requirement, and
  only then. -/
  refused_iff : sectionOf document ≠ .null → ((∃ e, answer = .error (.refused e))
    ↔ (¬∃ entries, sectionOf document = .mapping entries)
      ∨ ∃ entries, sectionOf document = .mapping entries
        ∧ ∃ r ∈ all, r.IsBroken (Value.member? entries))
  /-- That it is no mapping is reported as such. -/
  notMapping : sectionOf document ≠ .null → (¬∃ entries, sectionOf document = .mapping entries) →
    answer = .error (.refused .sectionNotMapping)
  /-- Of a mapping the first requirement is reported that it breaks. -/
  reported_iff : ∀ entries, sectionOf document = .mapping entries →
    ∀ e, answer = .error (.refused e) ↔ Reports all (Value.member? entries) e
  /-- A mapping that breaks none gives settings, if its languages can be written. -/
  accepted_iff : ∀ entries, sectionOf document = .mapping entries → ((∃ s, answer = .ok s)
    ↔ (∀ r ∈ all, ¬r.IsBroken (Value.member? entries))
      ∧ AreDisplayed (chosenIn (Value.member? entries)))
  /-- The settings are those given, or the defaults where none are. -/
  read : ∀ entries s, sectionOf document = .mapping entries → answer = .ok s →
    s.IsReadFrom (Value.member? entries)
  /-- The answer is the same to every document that has the same under the names of
  the settings. -/
  others : ∀ document' entries entries', sectionOf document = .mapping entries →
    sectionOf document' = .mapping entries' →
    (∀ name ∈ names, Value.member? entries' name = Value.member? entries name) →
    ofEntries document' = answer
  /-- It is the same to every document that has the entries in another order. -/
  order : ∀ document' entries entries', sectionOf document = .mapping entries →
    sectionOf document' = .mapping entries' → HasOwnKeys entries → entries.Perm entries' →
    ofEntries document' = answer

/-- **Settings are validated by these rules**, whatever the document. -/
theorem validates (document : List (Value × Value)) :
    Validates document (ofEntries document) where
  null := ofEntries_of_null
  refused_iff hnull := by
    by_cases hmapping : ∃ entries, sectionOf document = .mapping entries
    · obtain ⟨entries, hentries⟩ := hmapping
      rw [ofEntries_of_mapping hentries]
      simp only [ofSection_eq_refused_iff, exists_reports_iff]
      constructor
      · exact fun hbroken => Or.inr ⟨entries, hentries, hbroken⟩
      · rintro (hother | ⟨entries', hentries', hbroken⟩)
        · exact absurd ⟨entries, hentries⟩ hother
        · obtain rfl := Value.mapping.inj (hentries.symm.trans hentries')
          exact hbroken
    · exact iff_of_true ⟨_, ofEntries_of_other hnull (not_exists.1 hmapping)⟩ (Or.inl hmapping)
  notMapping hnull hmapping := ofEntries_of_other hnull (not_exists.1 hmapping)
  reported_iff entries hentries e := by
    rw [ofEntries_of_mapping hentries, ofSection_eq_refused_iff]
  accepted_iff entries hentries := by
    rw [ofEntries_of_mapping hentries, exists_ofSection_eq_ok_iff]
  read entries s hentries hs := by
    rw [ofEntries_of_mapping hentries] at hs
    exact isReadFrom_of_ofSection hs
  others document' entries entries' hentries hentries' hsame := by
    rw [ofEntries_of_mapping hentries, ofEntries_of_mapping hentries', ofSection_congr hsame]
  order document' entries entries' hentries hentries' hkeys hperm := by
    rw [ofEntries_of_mapping hentries, ofEntries_of_mapping hentries',
      ofSection_congr fun name _ => member?_eq_of_perm hkeys hperm name]

/-- Two settings are wrong, and the one that is checked first is reported, though it
stands behind the other one. -/
example : ofEntries [(.text telemetryName, .null), (.text ['x'], .float 0),
    (.text previewLinesName, .bool true)]
      = .error (.refused (.notCount previewLinesName (.bool true))) := rfl

end DriftPatch.Settings
