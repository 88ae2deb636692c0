import MakeLens.Proofs.Rescan
import MakeLens.Proofs.SessionRuns

/-! # Unsaved edits

    The text of an open document is kept twice: as it is, by the URI, and as an index,
    by the path. An edit puts both in step, whatever is on the disk. From then on the
    index goes without the disk for this file, until a document of the same file is
    changed again or saved. What happens to other documents, also to those that include
    the file, leaves the entry alone.
-/

namespace MakeLens

/-! ## Section 1: The buffer -/

namespace Documents

variable {documents : Documents} {uri : Uri}

/-- The text of the last change of the whole text, or else the text as it was. -/
theorem applyChanges_eq (text : List Char) (changes : List Change) :
    applyChanges text changes =
      ((changes.filter fun c => !c.ranged).getLast?.map Change.text).getD text := by
  unfold applyChanges
  induction changes generalizing text with
  | nil => rfl
  | cons change rest ih =>
    rw [List.foldl_cons, ih]
    cases hranged : change.ranged with
    | true => simp [hranged]
    | false =>
      -- a later change of the whole text still wins
      rw [List.filter_cons_of_pos (by simp [hranged]), List.getLast?_cons]
      cases (rest.filter fun c => !c.ranged).getLast? with
      | none => rfl
      | some last => rfl

theorem get?_opened (documents : Documents) (uri : Uri) (language : String) (text : List Char)
    (version : Int) :
    (documents.opened uri language text version).get? uri =
      some ⟨uri.text, language, text, version⟩ := by
  simp [get?, opened]

theorem update_of_get? {document : Document} (h : documents.get? uri = some document)
    (changes : List Change) (version : Int) :
    documents.update uri changes version =
      (documents.opened uri document.language (applyChanges document.text changes) version,
        some (applyChanges document.text changes)) := by
  unfold update
  rw [h]

end Documents

/-! ## Section 2: The event of an edit -/

namespace Service

variable {uri : Uri} {path : FilePath}

theorem reindex_of_filePath? (h : uri.filePath? = some path) (index : Index) (disk : Disk)
    (text : List Char) :
    (reindex index disk uri text).1 = (index.takeText disk path.normalize text).1 := by
  unfold reindex onFile Uri.file
  rw [h, ← Uri.absolute_of_filePath? h disk]
  rfl

theorem symbols_of_filePath? (h : uri.filePath? = some path) (disk : Disk) (text : List Char) :
    symbols disk uri text = .ok (FileIndex.ofText path.normalize text).entities := by
  unfold symbols Uri.file
  rw [h, ← Uri.absolute_of_filePath? h disk]
  rfl

end Service

namespace Session

section edit

variable {s : Session} {uri : Uri} {document : Document} {path : FilePath}

/-- An edit of an open build document, with edits scanned: the buffer and the entry are
    taken from the same text, and nothing else is new. -/
theorem onChanged_of_open (hopen : s.documents.get? uri = some document)
    (hpath : uri.filePath? = some path)
    (hbuild : s.isBuildDocument uri (some document.language) = true)
    (hscanned : s.settings.current.index.reindexOnChange = true)
    (disk : Disk) (version : Int) (changes : List Change) :
    let text := Documents.applyChanges document.text changes
    (s.onChanged disk uri version changes).1 =
      { s with
        documents := s.documents.opened uri document.language text version
        index := (s.index.takeText disk path.normalize text).1 } := by
  intro text
  let next : Session :=
    { s with documents := s.documents.opened uri document.language text version }
  have hlanguage : next.language? uri = some document.language := by
    show (Documents.get? _ uri).map Document.language = _
    rw [Documents.get?_opened]
    rfl
  -- the edit does not change whether the document is a build file
  have hnext : next.isBuildDocument uri (next.language? uri) = true := by
    rw [hlanguage]
    exact hbuild
  unfold onChanged
  rw [Documents.update_of_get? hopen, ← Service.reindex_of_filePath? hpath]
  simp only
  rw [if_pos hnext, if_pos hscanned]
  rfl

/-- The outline of an open document shows the definitions of its buffer. -/
theorem outline_of_open (hopen : s.documents.get? uri = some document)
    (hpath : uri.filePath? = some path)
    (hfeature : s.settings.current.features.documentSymbols = true) (disk : Disk) :
    s.outline disk uri = some
      (((FileIndex.ofText path.normalize document.text).entities.filter Entity.isDefinition).map
        fun e => ⟨e.name, e.kind, ⟨uri.text, e.location.range⟩⟩) := by
  have htext : s.documentText? disk uri = some document.text := by
    unfold documentText?
    rw [hopen]
  unfold outline
  rw [if_pos hfeature, htext]
  show ((Service.symbols disk uri document.text).toOption.bind _) = _
  rw [Service.symbols_of_filePath? hpath]
  rfl

end edit

/-- After any run, an open build document with edits scanned is changed, whatever is on the
    disk. Then
    1. the buffer has the last text that the changes give as a whole, or else the text that
       it had;
    2. the entry of the document's file is the index of this text;
    3. the outline of the document, where it is answered, shows the definitions of this
       entry in order;
    4. the entry is the same after every further run in which no document of the same
       file is changed or saved. -/
theorem changed_in_index (before : List (Disk × Event)) (disk : Disk) {uri : Uri}
    {document : Document} {path : FilePath}
    (hopen : (fresh.run before).documents.get? uri = some document)
    (hpath : uri.filePath? = some path)
    (hbuild : (fresh.run before).isBuildDocument uri (some document.language) = true)
    (hscanned : (fresh.run before).settings.current.index.reindexOnChange = true)
    (version : Int) (changes : List Change) :
    let edited := ((fresh.run before).step disk (.changed uri version changes)).1
    let text := ((changes.filter fun c => !c.ranged).getLast?.map Change.text).getD document.text
    let entry := FileIndex.ofText path.normalize text
    edited.documents.get? uri = some ⟨uri.text, document.language, text, version⟩ ∧
    edited.index.cache.get? path.normalize = some entry ∧
    (edited.settings.current.features.documentSymbols = true → ∀ later : Disk,
      (edited.step later (.symbols uri)).2.answer =
        .symbols (some ((entry.entities.filter Entity.isDefinition).map fun e =>
          ⟨e.name, e.kind, ⟨uri.text, e.location.range⟩⟩))) ∧
    ∀ after : List (Disk × Event),
      (∀ step ∈ after, step.2.rescanned? ≠ some path.normalize) →
      (edited.run after).index.cache.get? path.normalize = some entry := by
  intro edited text entry
  have hedited : edited =
      { fresh.run before with
        documents := (fresh.run before).documents.opened uri document.language text version
        index := ((fresh.run before).index.takeText disk path.normalize text).1 } := by
    have h := onChanged_of_open hopen hpath hbuild hscanned disk version changes
    simp only [Documents.applyChanges_eq] at h
    exact h
  have hbuffer : edited.documents.get? uri =
      some ⟨uri.text, document.language, text, version⟩ := by
    rw [hedited]
    exact Documents.get?_opened _ _ _ _ _
  have hentry : edited.index.cache.get? path.normalize = some entry := by
    rw [hedited]
    exact Index.get?_takeText_self _ disk text (FilePath.normalize_normalize path)
  refine ⟨hbuffer, hentry, ?_, ?_⟩
  · intro hfeature later
    show Answer.symbols (edited.outline later uri) = _
    rw [outline_of_open hbuffer hpath hfeature]
  · intro after hother
    exact run_keeps hother hentry

end Session

/-! ### An edit of a file that another document includes -/

/-- A build file with a given content and a file that includes it. -/
def includedDisk (content : String) : Disk where
  nodes := [([Utf8.encode "w"], .directory),
    ([Utf8.encode "w", Utf8.encode "Makefile"], .file (Utf8.encode content)),
    ([Utf8.encode "w", Utf8.encode "b.mk"], .file (Utf8.encode "include Makefile\nB := $(A)"))]
  workingPlace := [Utf8.encode "w"]

/-- The URI of a file of this disk. -/
def includedUri (name : String) : Uri :=
  ⟨"file", some ⟨"", "", none⟩, .steps ["w", name], none, none⟩

/-- The build file is opened. -/
def editOpening : List (Disk × Event) :=
  [(includedDisk "A = 1", .started [] none none),
   (includedDisk "A = 1", .opened (includedUri "Makefile") "makefile" 1 "A = 1".toList)]

/-- The file changes on disk, the one that includes it is opened, asked about and saved, and
    the document of the build file is closed. -/
def editClosing : List (Disk × Event) :=
  [(includedDisk "A = 3",
      .opened (includedUri "b.mk") "plaintext" 1 "include Makefile\nB := $(A)".toList),
   (includedDisk "A = 3", .hover (includedUri "b.mk") 1 0),
   (includedDisk "A = 3", .saved (includedUri "b.mk")),
   (includedDisk "", .closed (includedUri "Makefile"))]

/-- The edit is nowhere on disk and in no open document any more, but still in the index. -/
theorem changed_in_index_included :
    let opened := Session.fresh.run editOpening
    let uri := includedUri "Makefile"
    let document : Document := ⟨uri.text, "makefile", "A = 1".toList, 1⟩
    let path := FilePath.ofString "/w/Makefile"
    let changes : List Change := [⟨"A = 2\nall: b".toList, false⟩, ⟨"A".toList, true⟩]
    let edited := (opened.step (includedDisk "A = 1") (.changed uri 2 changes)).1
    let final := edited.run editClosing
    opened.documents.get? uri = some document ∧ uri.filePath? = some path ∧
    opened.isBuildDocument uri (some document.language) = true ∧
    opened.settings.current.index.reindexOnChange = true ∧
    edited.settings.current.features.documentSymbols = true ∧
    (∀ step ∈ editClosing, step.2.rescanned? ≠ some path.normalize) ∧
    (edited.step (includedDisk "") (.symbols uri)).2.answer =
      .symbols (some [⟨"A", .assignment, ⟨uri.text, ⟨0, 0, 0, 1⟩⟩⟩,
        ⟨"all", .target, ⟨uri.text, ⟨1, 0, 1, 3⟩⟩⟩]) ∧
    final.index.cache.get? path.normalize =
      some (.ofText path.normalize "A = 2\nall: b".toList) := by
  intro opened uri document path changes edited final
  have hopen : opened.documents.get? uri = some document := by decide +kernel
  have hpath : uri.filePath? = some path := by decide +kernel
  have hbuild : opened.isBuildDocument uri (some document.language) = true := by decide +kernel
  have hscanned : opened.settings.current.index.reindexOnChange = true := by decide +kernel
  have hfeature : edited.settings.current.features.documentSymbols = true := by decide +kernel
  have hother : ∀ step ∈ editClosing, step.2.rescanned? ≠ some path.normalize := by
    decide +kernel
  -- the ranged change at the end does not count
  have htext : ((changes.filter fun c => !c.ranged).getLast?.map Change.text).getD
      document.text = "A = 2\nall: b".toList := by
    decide +kernel
  obtain ⟨-, -, houtline, hstays⟩ := Session.changed_in_index editOpening (includedDisk "A = 1")
    hopen hpath hbuild hscanned 2 changes
  rw [htext] at houtline hstays
  refine ⟨hopen, hpath, hbuild, hscanned, hfeature, hother, ?_, ?_⟩
  · rw [houtline hfeature]
    decide +kernel
  · -- spelt out on both sides, so that the run need not be evaluated to compare them
    dsimp only [final, edited, opened]
    exact hstays editClosing hother

end MakeLens
