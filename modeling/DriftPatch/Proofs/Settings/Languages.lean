import DriftPatch.Diff.Generate
import DriftPatch.Proofs.Settings.Validated
import Mathlib.Data.List.TakeWhile

/-!
# Languages that are chosen

The language of a file is looked up under the extension of its name, in the languages
that a document chooses and then among the built-in ones. The document is written by
hand: an extension may stand there with dots in front or in capitals, and the same one
may stand there again. Both it and the extension of a name are put into one normal form
before they are compared, the one when settings are read and the other when a diff is
made. That these agree, and that of several entries for an extension the last one
counts, is the main statement (`Settings.language_generate_iff`).

It is said of the document as it stands, without a table and without a search:
`Language.IsTold` says which language a name has under some languages, and there is
just one.
-/

namespace DriftPatch

/-- **Where there is one with a property there is a last one.** -/
theorem exists_last_split {α : Type} {p : α → Prop} {as : List α} (h : ∃ a ∈ as, p a) :
    ∃ front a back, as = front ++ a :: back ∧ p a ∧ ∀ b ∈ back, ¬p b := by
  induction as with
  | nil =>
    obtain ⟨a, ha, -⟩ := h
    exact absurd ha List.not_mem_nil
  | cons a as ih =>
    by_cases hrest : ∃ a ∈ as, p a
    · obtain ⟨front, last, back, rfl, hlast, hback⟩ := ih hrest
      exact ⟨a :: front, last, back, rfl, hlast, hback⟩
    · obtain ⟨b, hb, hp⟩ := h
      rcases List.mem_cons.1 hb with rfl | hb
      · exact ⟨[], b, as, rfl, hp, fun c hc hpc => hrest ⟨c, hc, hpc⟩⟩
      · exact absurd ⟨b, hb, hp⟩ hrest

namespace Text

variable {c : Char} {t front rest : Text}

/-! ## Behind the last of a character -/

theorem forall_mem_reverse_bne (h : c ∉ t) : ∀ d ∈ t.reverse, (d != c) = true := by
  intro d hd
  refine bne_iff_ne.2 ?_
  rintro rfl
  exact h (List.mem_reverse.1 hd)

theorem afterLast_of_notMem (h : c ∉ t) : t.afterLast c = t := by
  rw [afterLast, List.takeWhile_eq_self_iff.2 (forall_mem_reverse_bne h), List.reverse_reverse]

theorem afterLast_append_cons (h : c ∉ rest) : (front ++ c :: rest).afterLast c = rest := by
  rw [afterLast, List.reverse_append, List.reverse_cons, List.append_assoc,
    List.takeWhile_append_of_pos (forall_mem_reverse_bne h), List.singleton_append,
    List.takeWhile_cons_of_neg (by simp), List.append_nil, List.reverse_reverse]

theorem exists_eq_append_cons (h : c ∈ t) : ∃ front rest, t = front ++ c :: rest ∧ c ∉ rest := by
  obtain ⟨front, d, rest, hsplit, rfl, hrest⟩ := exists_last_split ⟨c, h, rfl⟩
  exact ⟨front, rest, hsplit, fun hmem => hrest _ hmem rfl⟩

end Text

namespace Language

/-! ## Which language is told -/

/-- **The name of a file**: what stands behind the last slash of its path, or the path
itself. -/
def IsNameOf (name path : Text) : Prop :=
  '/' ∉ name ∧ (path = name ∨ ∃ folder, path = folder ++ '/' :: name)

/-- **The extension of a name**: what stands behind its last dot. -/
def IsExtensionOf (extension name : Text) : Prop :=
  '.' ∉ extension ∧ ∃ stem, name = stem ++ '.' :: extension

/-- **An entry is one for an extension**: its key is the extension, dots in front and
case aside. -/
def IsEntryFor (extension : Text) (entry : Value × Value) : Prop :=
  ∃ key, entry.1 = .text key
    ∧ Text.lower (key.dropWhile (· == '.')) = Text.lower extension

/-- **The language of a file** under languages that are chosen. -/
inductive IsTold (chosen : List (Value × Value)) (path : Text) : Text → Prop where
  /-- A name without a dot has none, whatever is chosen. -/
  | plain {name : Text} (isName : IsNameOf name path) (noDot : '.' ∉ name) :
    IsTold chosen path plainText
  /-- Of the entries for its extension the last one tells it. -/
  | chosen {name extension language : Text} {front back : List (Value × Value)}
    {entry : Value × Value} (isName : IsNameOf name path)
    (isExtension : IsExtensionOf extension name) (split : chosen = front ++ entry :: back)
    (here : IsEntryFor extension entry) (last : ∀ other ∈ back, ¬IsEntryFor extension other)
    (shown : entry.2.display = .ok language) : IsTold chosen path language
  /-- Without one it is the built-in one, if there is any. -/
  | builtIn {name extension : Text} (isName : IsNameOf name path)
    (isExtension : IsExtensionOf extension name)
    (none : ∀ entry ∈ chosen, ¬IsEntryFor extension entry) :
    IsTold chosen path ((byExtension.lookup (Text.lower extension)).getD plainText)

variable {name extension path : Text}

theorem afterLast_of_isNameOf (h : IsNameOf name path) : path.afterLast '/' = name := by
  obtain ⟨hslash, rfl | ⟨folder, rfl⟩⟩ := h
  · exact Text.afterLast_of_notMem hslash
  · exact Text.afterLast_append_cons hslash

theorem exists_isNameOf (path : Text) : ∃ name, IsNameOf name path := by
  by_cases hslash : '/' ∈ path
  · obtain ⟨folder, name, hsplit, hname⟩ := Text.exists_eq_append_cons hslash
    exact ⟨name, hname, Or.inr ⟨folder, hsplit⟩⟩
  · exact ⟨path, hslash, Or.inl rfl⟩

theorem extension?_of_isExtensionOf (hname : IsNameOf name path)
    (hextension : IsExtensionOf extension name) :
    extension? path = some (Text.lower extension) := by
  obtain ⟨hdot, stem, rfl⟩ := hextension
  unfold extension?
  rw [afterLast_of_isNameOf hname]
  dsimp only
  rw [if_pos (by simp), Text.afterLast_append_cons hdot]

variable {chosen : Table Text Text}

theorem detect_of_notMem (hname : IsNameOf name path) (hdot : '.' ∉ name) :
    detect chosen path = plainText := by
  have hnone : extension? path = none := by
    unfold extension?
    rw [afterLast_of_isNameOf hname]
    exact if_neg hdot
  rw [detect, hnone]

theorem detect_of_isExtensionOf (hname : IsNameOf name path)
    (hextension : IsExtensionOf extension name) :
    detect chosen path = ((chosen.get? (Text.lower extension)).or
      (byExtension.lookup (Text.lower extension))).getD plainText := by
  rw [detect, extension?_of_isExtensionOf hname hextension]
  rfl

end Language

open DriftPatch.Language

namespace Settings

/-- The languages that a document chooses, as they stand there. -/
def chosenLanguages (document : List (Value × Value)) : List (Value × Value) :=
  match sectionOf document with
  | .mapping entries => chosenIn (Value.member? entries)
  | _ => []

variable {document entries front back : List (Value × Value)} {entry : Value × Value}
  {s : Settings} {languages : Table Text Text} {read : Text × Text} {extension language : Text}

/-! ## Looking up what was read -/

/-- **Settings have the languages that are chosen.** -/
theorem readLanguages_chosenLanguages (h : ofEntries document = .ok s) :
    readLanguages (chosenLanguages document) = .ok s.languages := by
  unfold chosenLanguages
  split
  · next entries hentries =>
    rw [ofEntries_of_mapping hentries] at h
    exact (isReadFrom_of_ofSection h).languages
  · next hother =>
    by_cases hnull : sectionOf document = .null
    · rw [ofEntries_of_null hnull] at h
      cases h
      rfl
    · rw [ofEntries_of_other hnull hother] at h
      cases h

/-- An entry with a text for its key is read as one for an extension exactly if it is
one. -/
theorem isEntryFor_iff_of_entryRead (htext : ∃ t, entry.1 = .text t)
    (hread : entryRead entry = .ok read) :
    (IsEntryFor extension entry ↔ read.1 = Text.lower extension)
      ∧ entry.2.display = .ok read.2 := by
  obtain ⟨key, hkey⟩ := htext
  obtain ⟨normal, hnormal, hread⟩ := bind_eq_ok_iff.1 hread
  obtain ⟨tag, htag, hread⟩ := bind_eq_ok_iff.1 hread
  cases hread
  rw [hkey] at hnormal
  cases hnormal
  refine ⟨⟨?_, fun h => ⟨key, hkey, h⟩⟩, htag⟩
  rintro ⟨key', hkey', h⟩
  rw [hkey] at hkey'
  rwa [Value.text.inj hkey']

/-- What is read of entries for other extensions holds nothing under the extension. -/
theorem lookup_reverse_eq_none {reads : List (Text × Text)}
    (htexts : ∀ entry ∈ entries, ∃ t, entry.1 = .text t)
    (hread : entries.mapM entryRead = .ok reads)
    (hnone : ∀ entry ∈ entries, ¬IsEntryFor extension entry) :
    reads.reverse.lookup (Text.lower extension) = none := by
  have hother : ∀ read ∈ reads, read.1 ≠ Text.lower extension :=
    forall_mem_of_mapM (fun entry hentry read hread h =>
      hnone entry hentry ((isEntryFor_iff_of_entryRead (htexts entry hentry) hread).1.2 h)) hread
  rw [List.lookup_eq_none_iff]
  intro read hmem
  exact bne_iff_ne.2 (hother read (List.mem_reverse.1 hmem)).symm

theorem get?_eq_none_of_readLanguages (htexts : ∀ entry ∈ entries, ∃ t, entry.1 = .text t)
    (hlanguages : readLanguages entries = .ok languages)
    (hnone : ∀ entry ∈ entries, ¬IsEntryFor extension entry) :
    languages.get? (Text.lower extension) = none := by
  obtain ⟨reads, hreads, rfl⟩ := readLanguages_eq_ok_iff.1 hlanguages
  rw [Table.get?_ofEntries]
  exact lookup_reverse_eq_none htexts hreads hnone

/-- **Of the entries for an extension the last one is found.** -/
theorem get?_eq_some_of_readLanguages
    (htexts : ∀ other ∈ front ++ entry :: back, ∃ t, other.1 = .text t)
    (hlanguages : readLanguages (front ++ entry :: back) = .ok languages)
    (hhere : IsEntryFor extension entry) (hlast : ∀ other ∈ back, ¬IsEntryFor extension other)
    (hshown : entry.2.display = .ok language) :
    languages.get? (Text.lower extension) = some language := by
  obtain ⟨reads, hreads, rfl⟩ := readLanguages_eq_ok_iff.1 hlanguages
  rw [List.mapM_append] at hreads
  obtain ⟨readsFront, -, hreads⟩ := bind_eq_ok_iff.1 hreads
  obtain ⟨readsRest, hrest, hreads⟩ := bind_eq_ok_iff.1 hreads
  rw [List.mapM_cons] at hrest
  obtain ⟨⟨normal, tag⟩, hread, hrest⟩ := bind_eq_ok_iff.1 hrest
  obtain ⟨readsBack, hback, hrest⟩ := bind_eq_ok_iff.1 hrest
  cases hrest
  cases hreads
  have hentry := htexts entry (List.mem_append_right _ List.mem_cons_self)
  have hbacktexts : ∀ other ∈ back, ∃ t, other.1 = .text t := fun other hother =>
    htexts other (List.mem_append_right _ (List.mem_cons_of_mem _ hother))
  obtain ⟨hkey, htag⟩ := isEntryFor_iff_of_entryRead hentry hread
  obtain rfl : normal = Text.lower extension := hkey.1 hhere
  obtain rfl : tag = language := Except.ok.inj (htag.symm.trans hshown)
  -- from the back, the entries behind come first, and nothing is found among them
  rw [Table.get?_ofEntries, Table.get?, List.reverse_append, List.reverse_cons, List.append_assoc,
    List.lookup_append, lookup_reverse_eq_none hbacktexts hback hlast]
  exact List.lookup_cons_self

/-! ## The language of a diff -/

variable {path : Text}

/-- **What is told is what is detected.** -/
theorem detect_eq_of_isTold (hdocument : ofEntries document = .ok s)
    (htexts : ∀ entry ∈ chosenLanguages document, ∃ t, entry.1 = .text t)
    (h : IsTold (chosenLanguages document) path language) :
    detect s.languages path = language := by
  have hlanguages := readLanguages_chosenLanguages hdocument
  cases h with
  | plain hname hdot => exact detect_of_notMem hname hdot
  | chosen hname hextension hsplit hhere hlast hshown =>
    rw [hsplit] at htexts hlanguages
    rw [detect_of_isExtensionOf hname hextension,
      get?_eq_some_of_readLanguages htexts hlanguages hhere hlast hshown]
    rfl
  | builtIn hname hextension hnone =>
    rw [detect_of_isExtensionOf hname hextension,
      get?_eq_none_of_readLanguages htexts hlanguages hnone]
    rfl

/-- **Every path has a language that is told.** -/
theorem exists_isTold (hdocument : ofEntries document = .ok s) (path : Text) :
    ∃ language, IsTold (chosenLanguages document) path language := by
  obtain ⟨name, hname⟩ := exists_isNameOf path
  by_cases hdot : '.' ∈ name
  · obtain ⟨stem, extension, hsplit, hextension⟩ := Text.exists_eq_append_cons hdot
    have hextension : IsExtensionOf extension name := ⟨hextension, stem, hsplit⟩
    by_cases hhere : ∃ entry ∈ chosenLanguages document, IsEntryFor extension entry
    · obtain ⟨front, entry, back, hsplit, hhere, hlast⟩ := exists_last_split hhere
      -- a document with a tag that cannot be written is not accepted
      have hdisplayed : AreDisplayed (chosenLanguages document) :=
        exists_readLanguages_eq_ok_iff.1 ⟨_, readLanguages_chosenLanguages hdocument⟩
      obtain ⟨-, language, hshown⟩ := hdisplayed entry (by simp [hsplit])
      exact ⟨language, .chosen hname hextension hsplit hhere hlast hshown⟩
    · exact ⟨_, .builtIn hname hextension fun entry hentry h => hhere ⟨entry, hentry, h⟩⟩
  · exact ⟨_, .plain hname hdot⟩

/-- **The language of a diff is the one told** by the document that the settings come from, and
by the path; the texts have no part in it. -/
theorem language_generate_iff (hdocument : ofEntries document = .ok s)
    (htexts : ∀ entry ∈ chosenLanguages document, ∃ t, entry.1 = .text t)
    (old new path language : Text) :
    (Diff.generate s old new path).language = language
      ↔ IsTold (chosenLanguages document) path language := by
  show detect s.languages path = language ↔ _
  refine ⟨?_, detect_eq_of_isTold hdocument htexts⟩
  rintro rfl
  obtain ⟨language, htold⟩ := exists_isTold hdocument path
  rwa [detect_eq_of_isTold hdocument htexts htold]

/-- A document with two languages for one extension. -/
def tomlTwice : List (Value × Value) :=
  [(.text sectionName, .mapping [(.text languagesName, .mapping
    [(.text ".TOML".toList, .text "ini".toList), (.text "toml".toList, .bool true)])])]

/-- The second of them is told, and the dot of the folder counts for nothing. -/
theorem language_generate_iff_tomlTwice :
    ∃ s, ofEntries tomlTwice = .ok s
      ∧ (Diff.generate s ['a'] ['b'] "a.d/x.tar.Toml".toList).language = "True".toList := by
  have hdocument : ofEntries tomlTwice
      = .ok { standard with languages := [("toml".toList, "True".toList)] } := rfl
  have htexts : ∀ entry ∈ chosenLanguages tomlTwice, ∃ t, entry.1 = .text t :=
    List.forall_mem_cons.2 ⟨⟨_, rfl⟩, List.forall_mem_singleton.2 ⟨_, rfl⟩⟩
  have hname : IsNameOf "x.tar.Toml".toList "a.d/x.tar.Toml".toList :=
    ⟨by decide, Or.inr ⟨"a.d".toList, by decide⟩⟩
  have hextension : IsExtensionOf "Toml".toList "x.tar.Toml".toList :=
    ⟨by decide, "x.tar".toList, by decide⟩
  have hsplit : chosenLanguages tomlTwice = [(.text ".TOML".toList, .text "ini".toList)]
      ++ (.text "toml".toList, .bool true) :: [] := rfl
  have hhere : IsEntryFor "Toml".toList (.text "toml".toList, .bool true) :=
    ⟨"toml".toList, rfl, by decide⟩
  exact ⟨_, hdocument, (language_generate_iff hdocument htexts _ _ _ _).2
    (.chosen hname hextension hsplit hhere nofun rfl)⟩

end Settings

end DriftPatch
