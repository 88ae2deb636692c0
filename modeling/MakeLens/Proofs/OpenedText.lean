import MakeLens.Proofs.AbsoluteEntries
import MakeLens.Proofs.UnsavedEdits

/-! # The text of an opened document

    The outline of an open document is made from the text in the editor. The places and
    the values of its names come from the index, and there an opened document only fills
    a gap: where its file has an entry already, this entry stays. So the answers follow
    the text of the document if the file was new to the index, and otherwise what the
    index knew before, be it from an include, from a question or from an earlier document
    of the same file. A document that is closed leaves its entry behind.

    * `onOpened_of_build`: what the event does;
    * `answersFrom_of_get?`: the answers about an open document, by the entry of its file.

    The last section puts both together, after any run.
-/

namespace MakeLens

/-! ## Section 1: The event -/

namespace Service

variable {index : Index} {uri : Uri} {path : FilePath}

theorem ensure_of_filePath? (h : uri.filePath? = some path) (index : Index) (disk : Disk)
    (text : Option (List Char)) :
    (ensure index disk uri text).1 = (index.provide disk path.normalize text).1 := by
  unfold ensure onFile Uri.file
  rw [h, ← Uri.absolute_of_filePath? h disk]
  rfl

/-- With an entry there is nothing to read before the places of a name are known. -/
theorem definitions_of_contains (h : uri.filePath? = some path)
    (hcached : index.cache.contains path.normalize = true) (disk : Disk) (name : String) :
    definitions index disk uri name =
      (index, .ok (Index.locations index.cache path.normalize name)) := by
  have habsolute := Uri.absolute_of_filePath? h disk
  rw [← habsolute] at hcached ⊢
  unfold definitions onFile Uri.file
  rw [h]
  show Prod.map _ _ (index.definitions disk path name) = _
  rw [Index.definitions_of_contains hcached]
  rfl

theorem hoverValue_of_contains (h : uri.filePath? = some path)
    (hcached : index.cache.contains path.normalize = true) (disk : Disk) (name : String)
    (line : UInt32) :
    hoverValue index disk uri name line =
      (index, .ok (index.cache.expand index.depth name path.normalize line)) := by
  have habsolute := Uri.absolute_of_filePath? h disk
  rw [← habsolute] at hcached ⊢
  unfold hoverValue onFile Uri.file
  rw [h]
  show Prod.map _ _ (index.hoverValue disk path name line) = _
  rw [Index.hoverValue_of_contains hcached]
  rfl

end Service

/-- What makes sure of an entry leaves the one that is there, or else makes one of the
    text. -/
theorem Index.get?_provide_text (index : Index) (disk : Disk) {path : FilePath}
    (hnormal : path.IsNormal) (text : List Char) :
    (index.provide disk path (some text)).1.cache.get? path =
      some ((index.cache.get? path).getD (.ofText path text)) := by
  cases hget : index.cache.get? path with
  | some entry => exact provide_keeps (some text) hnormal hget
  | none =>
    have hnew : ¬ index.cache.contains path = true := by
      unfold Cache.contains
      simp [hget]
    unfold provide
    rw [if_neg hnew]
    exact get?_takeText_self index disk text hnormal

namespace Session

variable {s : Session} {uri : Uri} {path : FilePath}

/-- An opened build document: its text is kept, its file has an entry, and nothing else is
    new. -/
theorem onOpened_of_build {language : String} (hpath : uri.filePath? = some path)
    (hbuild : s.isBuildDocument uri (some language) = true) (disk : Disk) (version : Int)
    (text : List Char) :
    (s.onOpened disk uri language version text).1 =
      { s with
        documents := s.documents.opened uri language text version
        index := (s.index.provide disk path.normalize (some text)).1 } := by
  unfold onOpened
  rw [if_pos hbuild, ← Service.ensure_of_filePath? hpath]
  rfl

end Session

/-! ## Section 2: Which entry the answers follow -/

/-- The link that leads to a place. -/
def Location.link? (l : Location) : Option Link :=
  (Uri.ofFilePath? l.file).map fun uri => ⟨uri, l.range⟩

namespace Cache

variable {cache : Cache} {file : FilePath} {entry : FileIndex}

/-- The links to the entities with a name in the files that a file includes. -/
def includedLinks (cache : Cache) (file : FilePath) (name : String) : List Link :=
  ((cache.includeClosure file).flatMap fun included =>
    (((cache.get? included).map fun index => index.lookup name).getD []).map
      Entity.location).filterMap Location.link?

/-- A file's own definition comes before those of the included files. -/
theorem definition?_of_get? (h : cache.get? file = some entry) (name : String) (line : UInt32) :
    cache.definition? name file line =
      (entry.nearestDefinition? name line).or (cache.includedDefinition? name file) := by
  unfold definition?
  rw [h]
  cases hnearest : entry.nearestDefinition? name line with
  | none => simp [hnearest]
  | some e => simp [hnearest]

/-- The links to a name: those to the entities with the name in the file's own entry, in
    line order, and then those to the included files. -/
theorem links_of_get? (htexts : cache.FromTexts) (h : cache.get? file = some entry)
    {own : String} (hown : Uri.ofFilePath? file = some own) (name : String) :
    (Index.locations cache file name).filterMap Location.link? =
      ((entry.entities.filter fun e => e.name == name).map fun e =>
        ⟨own, e.location.range⟩) ++ cache.includedLinks file name := by
  obtain ⟨text, rfl⟩ := htexts file entry h
  have hlookup : (FileIndex.ofText file text).lookup name =
      (FileIndex.ofText file text).entities.filter fun e => e.name == name :=
    FileIndex.lookup_make _ _ _ name
  -- the entities of an entry stand in the file of the entry
  have hlink : ∀ e ∈ (FileIndex.ofText file text).entities.filter fun e => e.name == name,
      (Location.link? ∘ Entity.location) e = some ⟨own, e.location.range⟩ := by
    intro e he
    obtain ⟨_, kind, value, line, column, rfl⟩ :=
      mem_entities_scan (List.mem_of_mem_filter he)
    show (Uri.ofFilePath? file).map _ = _
    rw [hown]
    rfl
  have hfirst : (((FileIndex.ofText file text).lookup name).map Entity.location).filterMap
        Location.link? =
      ((FileIndex.ofText file text).entities.filter fun e => e.name == name).map fun e =>
        ⟨own, e.location.range⟩ := by
    rw [hlookup, List.filterMap_map, List.filterMap_congr hlink]
    exact congrFun List.filterMap_eq_map _
  unfold Index.locations
  rw [List.flatMap_cons, List.filterMap_append, h, ← hfirst]
  rfl

end Cache

namespace Session

/-- The answers about an open document with a text, on a disk, follow `entry` as the entry
    of its file, and for the rest the files that are included:
    * the places of the word at a position are those of all entities with this name;
    * its value is that of the last definition at or above the line, with the references
      in it expanded. -/
structure AnswersFrom (s : Session) (disk : Disk) (uri : Uri) (text : List Char)
    (file : FilePath) (entry : FileIndex) : Prop where
  places : s.settings.current.features.definition = true →
    ∀ (line column : UInt32) (touched : FoundWord),
      wordAt? text line.toNat column.toNat = some touched →
      ∃ own, Uri.ofFilePath? file = some own ∧
        let links := ((entry.entities.filter fun e => e.name == touched.word).map fun e =>
          ⟨own, e.location.range⟩) ++ s.index.cache.includedLinks file touched.word
        (s.step disk (.definition uri line column)).2.answer =
          .definition (if links.isEmpty then none else some links)
  values : s.settings.current.features.hover = true →
    ∀ (line column : UInt32) (touched : FoundWord),
      wordAt? text line.toNat column.toNat = some touched →
      (s.step disk (.hover uri line column)).2.answer =
        .hover (((entry.nearestDefinition? touched.word line).or
          (s.index.cache.includedDefinition? touched.word file)).map fun e =>
            ⟨hoverMarkdown touched.word (String.ofList (replaceReferences
              (fun inner => s.index.cache.expandInside (s.index.depth - 1)
                [⟨touched.word, e.file, e.line⟩] inner e.file e.line) e.value.toList)),
              ⟨line, touched.start, line, touched.stop⟩⟩)

section answers

variable {s : Session} {uri : Uri} {path : FilePath} {document : Document} {entry : FileIndex}

theorem wordAtPosition?_of_open (hopen : s.documents.get? uri = some document) (disk : Disk)
    (line column : UInt32) :
    s.wordAtPosition? disk uri line column =
      wordAt? document.text line.toNat column.toNat := by
  unfold wordAtPosition? documentText?
  rw [hopen]
  rfl

theorem answersFrom_of_get? (hopen : s.documents.get? uri = some document)
    (hpath : uri.filePath? = some path) (htexts : s.index.cache.FromTexts)
    (hentry : s.index.cache.get? path.normalize = some entry) (disk : Disk) :
    s.AnswersFrom disk uri document.text path.normalize entry := by
  have hcached : s.index.cache.contains path.normalize = true :=
    Cache.contains_of_get? hentry
  have habsolute : path.normalize.isAbsolute = true :=
    FilePath.isAbsolute_normalize (Uri.isAbsolute_of_filePath? hpath)
  obtain ⟨own, hown⟩ := Uri.exists_ofFilePath? habsolute
  constructor
  · intro hfeature line column touched hword
    refine ⟨own, hown, ?_⟩
    intro links
    have hlinks : (Index.locations s.index.cache path.normalize touched.word).filterMap
        Location.link? = links := Cache.links_of_get? htexts hentry hown touched.word
    show Answer.definition (s.findDefinition disk uri line column).2 = _
    unfold findDefinition
    simp only [if_pos hfeature, wordAtPosition?_of_open hopen, hword]
    rw [Service.definitions_of_contains hpath hcached, ← hlinks]
    rfl
  · intro hfeature line column touched hword
    show Answer.hover (s.findHover disk uri line column).2 = _
    unfold findHover
    simp only [if_pos hfeature, wordAtPosition?_of_open hopen, hword]
    rw [Service.hoverValue_of_contains hpath hcached, Cache.expand_of_pos s.index.depth_pos,
      Cache.definition?_of_get? hentry]
    show Answer.hover (Option.map _ (Option.map _ _)) = _
    rw [Option.map_map]
    rfl

end answers

/-! ## Section 3: After any run -/

theorem run_fromTexts (steps : List (Disk × Event)) :
    (fresh.run steps).index.cache.FromTexts := by
  obtain ⟨operations, hindex, -⟩ := fresh.run_index steps
  rw [hindex]
  exact Index.run_fromTexts operations

theorem run_concat (s : Session) (steps : List (Disk × Event)) (disk : Disk) (event : Event) :
    s.run (steps ++ [(disk, event)]) = ((s.run steps).step disk event).1 := by
  unfold run
  rw [List.foldl_append]
  rfl

/-- After any run a build document is opened, whatever is on the disk. Then
    1. the buffer has the text of the document;
    2. the outline of the document, where it is answered, shows the definitions of this
       text;
    3. the entry of the document's file is the one that it had before or, where it had
       none, the index of the text; in the first case the index is the same as before;
    4. the places and the values of the names in the document follow this entry. -/
theorem opened_in_index (before : List (Disk × Event)) (disk : Disk) {uri : Uri}
    {path : FilePath} {language : String} (hpath : uri.filePath? = some path)
    (hbuild : (fresh.run before).isBuildDocument uri (some language) = true) (version : Int)
    (text : List Char) :
    let opened := ((fresh.run before).step disk (.opened uri language version text)).1
    let known := (fresh.run before).index.cache.get? path.normalize
    let own := FileIndex.ofText path.normalize text
    opened.documents.get? uri = some ⟨uri.text, language, text, version⟩ ∧
    (opened.settings.current.features.documentSymbols = true → ∀ later : Disk,
      (opened.step later (.symbols uri)).2.answer =
        .symbols (some ((own.entities.filter Entity.isDefinition).map fun e =>
          ⟨e.name, e.kind, ⟨uri.text, e.location.range⟩⟩))) ∧
    opened.index.cache.get? path.normalize = some (known.getD own) ∧
    (known.isSome = true → opened.index = (fresh.run before).index) ∧
    ∀ later : Disk, opened.AnswersFrom later uri text path.normalize (known.getD own) := by
  intro opened known own
  have hopened : opened =
      { fresh.run before with
        documents := (fresh.run before).documents.opened uri language text version
        index := ((fresh.run before).index.provide disk path.normalize (some text)).1 } :=
    onOpened_of_build hpath hbuild disk version text
  have hbuffer : opened.documents.get? uri = some ⟨uri.text, language, text, version⟩ := by
    rw [hopened]
    exact Documents.get?_opened _ _ _ _ _
  have hentry : opened.index.cache.get? path.normalize = some (known.getD own) := by
    rw [hopened]
    exact Index.get?_provide_text _ disk (FilePath.normalize_normalize path) text
  have htexts : opened.index.cache.FromTexts := by
    have h := run_fromTexts (before ++ [(disk, .opened uri language version text)])
    rw [run_concat] at h
    exact h
  refine ⟨hbuffer, ?_, hentry, ?_, ?_⟩
  · intro hfeature later
    show Answer.symbols (opened.outline later uri) = _
    rw [outline_of_open hbuffer hpath hfeature]
  · intro hknown
    rw [hopened]
    show (Index.provide _ disk path.normalize (some text)).1 = _
    rw [Index.provide_of_contains disk (some text) hknown]
  · intro later
    exact answersFrom_of_get? hbuffer hpath htexts hentry later

end Session

/-! ### The first and the second time a file is opened -/

/-- A file without includes has no links to other files. -/
theorem Cache.includedLinks_eq_nil {cache : Cache} {file : FilePath}
    (h : cache.includesOf file = []) (name : String) : cache.includedLinks file name = [] := by
  unfold includedLinks
  rw [includeClosure_eq_nil h]
  rfl

/-- Without includes all the places of a name are in the document itself. -/
theorem Session.AnswersFrom.places_alone {s : Session} {disk : Disk} {uri : Uri}
    {text : List Char} {file : FilePath} {entry : FileIndex}
    (h : s.AnswersFrom disk uri text file entry)
    (hfeature : s.settings.current.features.definition = true)
    (hincludes : s.index.cache.includesOf file = []) {own : String}
    (hown : Uri.ofFilePath? file = some own) {line column : UInt32} {touched : FoundWord}
    (hword : wordAt? text line.toNat column.toNat = some touched) :
    let links := (entry.entities.filter fun e => e.name == touched.word).map fun e =>
      Link.mk own e.location.range
    (s.step disk (.definition uri line column)).2.answer =
      .definition (if links.isEmpty then none else some links) := by
  obtain ⟨own', hown', hplaces⟩ := h.places hfeature line column touched hword
  obtain rfl : own' = own := Option.some.inj (hown'.symm.trans hown)
  rw [Cache.includedLinks_eq_nil hincludes, List.append_nil] at hplaces
  exact hplaces

/-- The build file is opened for the first time, with another text than on disk: the
    outline, the places and the value of a name all show the text in the editor. -/
theorem opened_in_index_first :
    let before := [(includedDisk "A = 3", Event.started [] none none)]
    let uri := includedUri "Makefile"
    let path := FilePath.ofString "/w/Makefile"
    let text := "\nA = 1\nuse $(A) now".toList
    let opened := ((Session.fresh.run before).step (includedDisk "A = 3")
      (.opened uri "makefile" 1 text)).1
    uri.filePath? = some path ∧
    (Session.fresh.run before).isBuildDocument uri (some "makefile") = true ∧
    opened.index.cache.get? path.normalize = some (.ofText path.normalize text) ∧
    (opened.step (includedDisk "") (.symbols uri)).2.answer =
      .symbols (some [⟨"A", .assignment, ⟨uri.text, ⟨1, 0, 1, 1⟩⟩⟩]) ∧
    (opened.step (includedDisk "") (.definition uri 1 0)).2.answer =
      .definition (some [⟨uri.text, ⟨1, 0, 1, 1⟩⟩, ⟨uri.text, ⟨2, 6, 2, 7⟩⟩]) ∧
    (opened.step (includedDisk "") (.hover uri 1 0)).2.answer =
      .hover (some ⟨Session.hoverMarkdown "A" "1", ⟨1, 0, 1, 1⟩⟩) := by
  intro before uri path text opened
  have hpath : uri.filePath? = some path := by decide +kernel
  have hbuild : (Session.fresh.run before).isBuildDocument uri (some "makefile") = true := by
    decide +kernel
  have hnew : (Session.fresh.run before).index.cache.get? path.normalize = none := by
    decide +kernel
  have hword : wordAt? text (1 : UInt32).toNat (0 : UInt32).toNat = some ⟨"A", 0, 1⟩ := by
    decide +kernel
  have hincludes : opened.index.cache.includesOf path.normalize = [] := by decide +kernel
  have hown : Uri.ofFilePath? path.normalize = some uri.text := by decide +kernel
  obtain ⟨-, houtline, hentry, -, hanswers⟩ :=
    Session.opened_in_index before (includedDisk "A = 3") hpath hbuild 1 text
  rw [hnew] at hentry hanswers
  refine ⟨hpath, hbuild, hentry, ?_, ?_, ?_⟩
  · rw [houtline (by decide +kernel)]
    decide +kernel
  · rw [(hanswers (includedDisk "")).places_alone (by decide +kernel) hincludes hown hword]
    decide +kernel
  · rw [(hanswers (includedDisk "")).values (by decide +kernel) 1 0 _ hword]
    decide +kernel

/-- The build file is opened, closed again, and opened with another text. -/
def reopening : List (Disk × Event) :=
  [(includedDisk "A = 2", .started [] none none),
   (includedDisk "A = 2", .opened (includedUri "Makefile") "makefile" 1 "A = 1".toList),
   (includedDisk "A = 2", .closed (includedUri "Makefile"))]

/-- The second time the outline has the new text, and the index still the old one: it gives
    the old value, in a line in which the name does not stand any more. -/
theorem reopened_shows_old :
    let uri := includedUri "Makefile"
    let path := FilePath.ofString "/w/Makefile"
    let text := "\nA = 2".toList
    let closed := Session.fresh.run reopening
    let opened := (closed.step (includedDisk "A = 2") (.opened uri "makefile" 2 text)).1
    uri.filePath? = some path ∧ closed.isBuildDocument uri (some "makefile") = true ∧
    opened.index.cache.get? path.normalize = some (.ofText path.normalize "A = 1".toList) ∧
    opened.index.cache.get? path.normalize ≠ some (.ofText path.normalize text) ∧
    (opened.step (includedDisk "A = 2") (.symbols uri)).2.answer =
      .symbols (some [⟨"A", .assignment, ⟨uri.text, ⟨1, 0, 1, 1⟩⟩⟩]) ∧
    (opened.step (includedDisk "A = 2") (.definition uri 1 0)).2.answer =
      .definition (some [⟨uri.text, ⟨0, 0, 0, 1⟩⟩]) ∧
    (opened.step (includedDisk "A = 2") (.hover uri 1 0)).2.answer =
      .hover (some ⟨Session.hoverMarkdown "A" "1", ⟨1, 0, 1, 1⟩⟩) := by
  intro uri path text closed opened
  have hpath : uri.filePath? = some path := by decide +kernel
  have hentry : opened.index.cache.get? path.normalize =
      some (.ofText path.normalize "A = 1".toList) := by
    decide +kernel
  have hbuffer : opened.documents.get? uri = some ⟨uri.text, "makefile", text, 2⟩ := by
    decide +kernel
  have hword : wordAt? text (1 : UInt32).toNat (0 : UInt32).toNat = some ⟨"A", 0, 1⟩ := by
    decide +kernel
  have hincludes : opened.index.cache.includesOf path.normalize = [] := by decide +kernel
  have hown : Uri.ofFilePath? path.normalize = some uri.text := by decide +kernel
  have htexts : opened.index.cache.FromTexts := by
    have h := Session.run_fromTexts
      (reopening ++ [(includedDisk "A = 2", .opened uri "makefile" 2 text)])
    rw [Session.run_concat] at h
    exact h
  have hanswers : opened.AnswersFrom (includedDisk "A = 2") uri text path.normalize
      (.ofText path.normalize "A = 1".toList) :=
    Session.answersFrom_of_get? hbuffer hpath htexts hentry (includedDisk "A = 2")
  refine ⟨hpath, by decide +kernel, hentry, ?_, by decide +kernel, ?_, ?_⟩
  · rw [hentry]
    decide +kernel
  · rw [hanswers.places_alone (by decide +kernel) hincludes hown hword]
    decide +kernel
  · rw [hanswers.values (by decide +kernel) 1 0 _ hword]
    decide +kernel

end MakeLens
