import DriftPatch.Proofs.Settings.Requirement
import DriftPatch.Proofs.Value.Display
import DriftPatch.Proofs.Yaml.Loader
import DriftPatch.Settings.Load

/-!
# What comes of a configuration file

A file gives settings, which are within their bounds, or it is refused, or an error that
tells the user nothing of the configuration escapes. This is so whatever loader reads the
file, if only it reads a text to its end; what escapes, and when, is listed in
`Settings.Escapes`, and there is nothing else (`Settings.loads_of_isThorough`).

A file is read in stages, and the first stage that goes wrong has the say. Its bytes are
decoded as far as the loader asks for them, the loader makes a document of the text, and
the languages in the section of the document are written. Of the errors of the loader one
is told, and those of the other two stages are not.
-/

namespace DriftPatch.Settings

open Requirement Yaml

variable {found : Text → Option Value} {s : Settings} {e : Error} {f : Yaml.Fault}

/-! ## Sections -/

/-- What one setting has wrong is refused, whatever it is. -/
theorem endsIn_orRefuse {α : Type} {Q : Fault → Prop} (hQ : ∀ e, Q (.refused e))
    (x : Except Error α) : EndsIn (fun _ => True) Q (ofSection.orRefuse x) := by
  cases x with
  | ok a => trivial
  | error e => exact hQ e

/-- What is unreadable in a section is a number that is too long to be written. -/
theorem eq_badValue_of_ofSection (h : ofSection found = .error (.unreadable f)) :
    f = .badValue := by
  have hrefused (e : Error) : ∀ f, Fault.refused e = .unreadable f → f = .badValue := nofun
  have hends : EndsIn (fun _ => True) (fun fault => ∀ f, fault = .unreadable f → f = .badValue)
      (ofSection found) := by
    refine (endsIn_orRefuse hrefused _).bind fun contextLines _ => ?_
    refine (endsIn_orRefuse hrefused _).bind fun previewLines _ => ?_
    refine (endsIn_orRefuse hrefused _).bind fun previewWidth _ => ?_
    refine (endsIn_orRefuse hrefused _).bind fun telemetry _ => ?_
    refine (endsIn_orRefuse hrefused _).bind fun entries _ => ?_
    -- only writing the languages is left
    split
    · trivial
    · exact fun f h => (Fault.unreadable.inj h).symm
  exact hends.of_error h f rfl

/-- **A section is unreadable exactly if it breaks no requirement** and its languages cannot
be written. -/
theorem ofSection_eq_unreadable_iff :
    ofSection found = .error (.unreadable f)
      ↔ f = .badValue ∧ (∀ r ∈ all, ¬r.IsBroken found) ∧ ¬AreDisplayed (chosenIn found) := by
  constructor
  · intro h
    have hmet : ∀ r ∈ all, ¬r.IsBroken found := by
      intro r hr hbroken
      obtain ⟨e, he⟩ := exists_reports_iff.2 ⟨r, hr, hbroken⟩
      rw [← ofSection_eq_refused_iff, h] at he
      cases he
    refine ⟨eq_badValue_of_ofSection h, hmet, fun hdisplayed => ?_⟩
    obtain ⟨s, hs⟩ := exists_ofSection_eq_ok_iff.2 ⟨hmet, hdisplayed⟩
    cases hs.symm.trans h
  · rintro ⟨rfl, hmet, hdisplayed⟩
    cases h : ofSection found with
    | ok s => exact absurd (exists_ofSection_eq_ok_iff.1 ⟨s, h⟩).2 hdisplayed
    | error e =>
      cases e with
      | refused e =>
        obtain ⟨r, hr, hbroken⟩ := exists_reports_iff.1 ⟨e, ofSection_eq_refused_iff.1 h⟩
        exact absurd hbroken (hmet r hr)
      | unreadable f => rw [eq_badValue_of_ofSection h]

/-- The languages of a mapping cannot be written if a number in them cannot. -/
theorem not_areDisplayed_iff {entries : List (Value × Value)} :
    ¬AreDisplayed entries
      ↔ ∃ entry ∈ entries, ¬(entry.1.IsWritable ∧ entry.2.IsWritable) := by
  unfold AreDisplayed
  simp only [Value.exists_display_eq_ok_iff, not_forall, exists_prop]

/-! ## Documents -/

variable {d : Document} {entries chosen : Table Yaml.Atom Ref}

/-- **The section of a document**: the entries that stand under the name of the settings, or
those of the document itself where nothing stands there. -/
inductive IsSectionOf (d : Document) (chosen : Table Yaml.Atom Ref) : Prop where
  /-- It stands under the name. -/
  | named {entries : Table Yaml.Atom Ref} {r : Ref} (root : d.entries? d.root = some entries)
    (member : member? entries sectionName = some r) (under : d.entries? r = some chosen)
  /-- It is the document. -/
  | whole (root : d.entries? d.root = some chosen) (absent : member? chosen sectionName = none)

/-- **A document says nothing of settings**: it says nothing, or nothing stands under their
name. -/
inductive IsSilent (d : Document) : Prop where
  /-- It says nothing. -/
  | void (void : d.isVoid d.root = true)
  /-- The section is nothing. -/
  | null {entries : Table Yaml.Atom Ref} {source : Option Nat}
    (root : d.entries? d.root = some entries)
    (member : member? entries sectionName = some (.atom { value := .null, source }))

/-- **A document is not of the form of settings.** -/
inductive IsMisshapen (d : Document) : Error → Prop where
  /-- It is no mapping. -/
  | whole (full : d.isVoid d.root = false) (other : d.entries? d.root = none) :
    IsMisshapen d .notMapping
  /-- What stands under the name of the settings is none. -/
  | named {entries : Table Yaml.Atom Ref} {r : Ref} (root : d.entries? d.root = some entries)
    (member : member? entries sectionName = some r) (other : d.entries? r = none)
    (full : ∀ source, r ≠ .atom { value := .null, source }) : IsMisshapen d .sectionNotMapping

/-- A mapping that says nothing has no entries. -/
theorem eq_nil_of_isVoid (hroot : d.entries? d.root = some entries)
    (hvoid : d.isVoid d.root = true) : entries = [] := by
  cases hr : d.root with
  | atom a =>
    rw [hr] at hroot
    cases hroot
  | part n =>
    rw [hr] at hroot hvoid
    unfold Document.entries? at hroot
    dsimp only at hroot
    split at hroot
    · next hpart =>
      cases hroot
      simpa [Document.isVoid, hpart, Yaml.Part.isEmpty] using hvoid
    · cases hroot

/-- A mapping in which something stands says something. -/
theorem isVoid_eq_false_of_member? {r : Ref} (hroot : d.entries? d.root = some entries)
    (hmember : member? entries sectionName = some r) : d.isVoid d.root = false := by
  refine Bool.eq_false_iff.2 fun hvoid => ?_
  rw [eq_nil_of_isVoid hroot hvoid] at hmember
  cases hmember

theorem ofDocument_of_entries? (hroot : d.entries? d.root = some entries)
    (hfull : d.isVoid d.root = false) : ofDocument d = ofMembers d entries := by
  unfold ofDocument
  rw [hroot, hfull]
  rfl

/-- **Of a document that says nothing the settings are the defaults.** -/
theorem ofDocument_of_isSilent (h : IsSilent d) : ofDocument d = .ok standard := by
  cases h with
  | void void =>
    unfold ofDocument
    exact if_pos void
  | null root member =>
    rw [ofDocument_of_entries? root (isVoid_eq_false_of_member? root member), ofMembers, member]

/-- **A document of another form is refused.** -/
theorem ofDocument_of_isMisshapen (h : IsMisshapen d e) :
    ofDocument d = .error (.refused e) := by
  cases h with
  | whole full other =>
    unfold ofDocument
    rw [full, other]
    rfl
  | @named entries r root member other full =>
    rw [ofDocument_of_entries? root (isVoid_eq_false_of_member? root member), ofMembers, member]
    split
    · next h => cases h
    · next source h => exact absurd (Option.some.inj h) (full source)
    · next r' h =>
      obtain rfl := Option.some.inj h
      rw [other]

/-- **Settings are read from the section of a document.** -/
theorem ofDocument_of_isSectionOf (h : IsSectionOf d chosen) :
    ofDocument d = ofSection (settingIn? d chosen) := by
  cases h with
  | @named entries r root member under =>
    rw [ofDocument_of_entries? root (isVoid_eq_false_of_member? root member), ofMembers, member]
    cases r with
    | atom a => cases under
    | part n =>
      dsimp only
      rw [under]
  | whole root absent =>
    by_cases hvoid : d.isVoid d.root = true
    · rw [eq_nil_of_isVoid root hvoid, ofDocument_of_isSilent (.void hvoid)]
      rfl
    · rw [ofDocument_of_entries? root (Bool.eq_false_iff.2 hvoid), ofMembers, absent]

/-- **Every document** says nothing of settings, or is of another form, or has a section. -/
theorem isSilent_or_isMisshapen_or_isSectionOf (d : Document) :
    IsSilent d ∨ (∃ e, IsMisshapen d e) ∨ ∃ chosen, IsSectionOf d chosen := by
  by_cases hvoid : d.isVoid d.root = true
  · exact Or.inl (.void hvoid)
  cases hroot : d.entries? d.root with
  | none => exact Or.inr (Or.inl ⟨_, .whole (Bool.eq_false_iff.2 hvoid) hroot⟩)
  | some entries =>
    cases hmember : member? entries sectionName with
    | none => exact Or.inr (Or.inr ⟨entries, .whole hroot hmember⟩)
    | some r =>
      cases hunder : d.entries? r with
      | some chosen => exact Or.inr (Or.inr ⟨chosen, .named hroot hmember hunder⟩)
      | none =>
        by_cases hnull : ∃ source, r = .atom { value := .null, source }
        · obtain ⟨source, rfl⟩ := hnull
          exact Or.inl (.null hroot hmember)
        · exact Or.inr (Or.inl ⟨_, .named hroot hmember hunder (not_exists.1 hnull)⟩)

/-- **A document is unreadable exactly if its section is.** -/
theorem ofDocument_eq_unreadable_iff :
    ofDocument d = .error (.unreadable f)
      ↔ f = .badValue ∧ ∃ chosen, IsSectionOf d chosen
        ∧ (∀ r ∈ all, ¬r.IsBroken (settingIn? d chosen))
        ∧ ¬AreDisplayed (chosenIn (settingIn? d chosen)) := by
  constructor
  · intro h
    rcases isSilent_or_isMisshapen_or_isSectionOf d with hsilent | ⟨e, he⟩ | ⟨chosen, hchosen⟩
    · rw [ofDocument_of_isSilent hsilent] at h
      cases h
    · rw [ofDocument_of_isMisshapen he] at h
      cases h
    · rw [ofDocument_of_isSectionOf hchosen, ofSection_eq_unreadable_iff] at h
      exact ⟨h.1, chosen, hchosen, h.2⟩
  · rintro ⟨hf, chosen, hchosen, h⟩
    rw [ofDocument_of_isSectionOf hchosen, ofSection_eq_unreadable_iff]
    exact ⟨hf, h⟩

/-! ## Files -/

section Files

variable {ε : Type} {loader : Loader ε} {bytes : ByteArray} {x : Fault ⊕ ε}

/-- **What escapes where a file is read**, and when. -/
inductive Escapes (loader : Loader ε) (bytes : ByteArray) : Fault ⊕ ε → Prop where
  /-- The bytes are no UTF-8, and the loader asks for more than can be read of them. -/
  | notText (invalid : ¬bytes.IsValidUTF8)
    (asks : loader.ofFront (Text.frontOf loader.blockSize bytes) = none) :
    Escapes loader bytes (.inl (.unreadable .undecodable))
  /-- The loader raises an error that does not say that the document is malformed. -/
  | raised {e : ε} (raises : loader.load bytes = .error (.raised e))
    (other : loader.isMalformed e = false) : Escapes loader bytes (.inr e)
  /-- A number among the languages is too long to be written, in a section that breaks no
  requirement. -/
  | language {d : Document} {chosen : Table Yaml.Atom Ref} {entry : Value × Value}
    (document : loader.load bytes = .ok d) (within : IsSectionOf d chosen)
    (unbroken : ∀ r ∈ all, ¬r.IsBroken (settingIn? d chosen))
    (mem : entry ∈ chosenIn (settingIn? d chosen))
    (unwritable : ¬(entry.1.IsWritable ∧ entry.2.IsWritable)) :
    Escapes loader bytes (.inl (.unreadable .badValue))

theorem load_of_document (h : loader.load bytes = .ok d) :
    load loader (some bytes) = (ofDocument d).mapError .inl := by
  unfold load
  dsimp only
  rw [h]

theorem load_of_undecodable (h : loader.load bytes = .error .undecodable) :
    load loader (some bytes) = .error (.inl (.unreadable .undecodable)) := by
  unfold load
  dsimp only
  rw [h]

theorem load_of_raised {e : ε} (h : loader.load bytes = .error (.raised e)) :
    load loader (some bytes)
      = if loader.isMalformed e then .error (.inl (.refused .malformed)) else .error (.inr e) := by
  unfold load
  dsimp only
  rw [h]

/-- **An error of a file** is that of its document, or it is made of what stops the loader. -/
theorem load_eq_error_iff :
    load loader (some bytes) = .error x
      ↔ (∃ d, loader.load bytes = .ok d ∧ ∃ fault, ofDocument d = .error fault ∧ .inl fault = x)
        ∨ (loader.load bytes = .error .undecodable ∧ .inl (.unreadable .undecodable) = x)
        ∨ ∃ e, loader.load bytes = .error (.raised e)
          ∧ (if loader.isMalformed e then .inl (.refused .malformed) else .inr e) = x := by
  cases hload : loader.load bytes with
  | ok d => simp [load_of_document hload, mapError_eq_error_iff]
  | error stop =>
    cases stop with
    | undecodable => simp [load_of_undecodable hload]
    | raised e =>
      rw [load_of_raised hload]
      cases he : loader.isMalformed e <;> simp [he]

/-- **What escapes is no refusal**, and every error that is no refusal escapes. -/
theorem escapes_iff :
    (load loader (some bytes) = .error x ∧ ∀ e, x ≠ .inl (.refused e))
      ↔ Escapes loader bytes x := by
  rw [load_eq_error_iff]
  constructor
  · rintro ⟨⟨d, hdocument, fault, hd, rfl⟩ | ⟨hstop, rfl⟩ | ⟨e, hraises, rfl⟩, hother⟩
    · cases fault with
      | refused e => exact absurd rfl (hother e)
      | unreadable f =>
        obtain ⟨rfl, chosen, hchosen, hmet, hdisplayed⟩ := ofDocument_eq_unreadable_iff.1 hd
        obtain ⟨entry, hmem, hunwritable⟩ := not_areDisplayed_iff.1 hdisplayed
        exact .language hdocument hchosen hmet hmem hunwritable
    · obtain ⟨hinvalid, hasks⟩ := Loader.load_eq_undecodable_iff.1 hstop
      exact .notText hinvalid hasks
    · cases he : loader.isMalformed e with
      | true =>
        rw [he] at hother
        exact absurd rfl (hother .malformed)
      | false => exact .raised hraises he
  · intro h
    cases h with
    | notText invalid asks =>
      exact ⟨Or.inr (Or.inl ⟨Loader.load_eq_undecodable_iff.2 ⟨invalid, asks⟩, rfl⟩), nofun⟩
    | @raised e raises other =>
      refine ⟨Or.inr (Or.inr ⟨e, raises, ?_⟩), nofun⟩
      rw [other]
      rfl
    | @language d chosen entry document within unbroken mem unwritable =>
      have hunwritable := not_areDisplayed_iff.2 ⟨entry, mem, unwritable⟩
      refine ⟨Or.inl ⟨d, document, _, ?_, rfl⟩, nofun⟩
      exact ofDocument_eq_unreadable_iff.2 ⟨rfl, chosen, within, unbroken, hunwritable⟩

end Files

/-! ## The loader of the library -/

section Library

variable {bytes : ByteArray} {t : Text}

/-- **Nothing but the bytes is looked at** in a file that is no UTF-8 and no larger than the
two blocks that the loader looks at before it answers. -/
theorem ofFile_of_small (h : ¬bytes.IsValidUTF8) (hsmall : bytes.size ≤ Text.pieceSize) :
    ofFile (some bytes) = .error (.unreadable .undecodable) := by
  unfold ofFile
  rw [load_of_undecodable (Document.load_of_small h hsmall)]
  rfl

/-- **What is unreadable in a text** is wrong with its characters or with the nodes that are read
of it, or is a number among the languages that is too long to be written. -/
theorem mayRaise_of_ofFile (ht : Text.ofFile? bytes = some t)
    (h : ofFile (some bytes) = .error (.unreadable f)) :
    (Source.ofText t none).MayRaise f
      ∨ (∃ ns root, Nodes.ofCursor (Source.ofText t none) = .ok (ns, some root) ∧ ns.MayRaise f)
      ∨ f = .badValue ∧ ∃ d chosen, Document.loader.ofText t = .ok d ∧ IsSectionOf d chosen
        ∧ ∃ entry ∈ chosenIn (settingIn? d chosen), ¬(entry.1.IsWritable ∧ entry.2.IsWritable) := by
  have hload := Loader.load_of_text Document.loader ht
  obtain ⟨x, hx, hfault⟩ := mapError_eq_error_iff.1 h
  have hother (e : Error) : x ≠ .inl (.refused e) := by
    rintro rfl
    cases hfault
  cases escapes_iff.1 ⟨hx, hother⟩ with
  | notText invalid asks =>
    rw [Text.ofFile?_eq_none invalid] at ht
    cases ht
  | raised raises other =>
    cases hfault
    rw [hload, mapError_eq_error_iff] at raises
    obtain ⟨f', hf', hraised⟩ := raises
    cases hraised
    exact (Document.mayRaise_of_ofText hf').elim Or.inl fun hnodes => Or.inr (Or.inl hnodes)
  | @language d chosen entry document within unbroken mem unwritable =>
    cases hfault
    rw [hload, mapError_eq_ok_iff] at document
    exact Or.inr (Or.inr ⟨rfl, d, chosen, document, within, entry, mem, unwritable⟩)

end Library

end DriftPatch.Settings
