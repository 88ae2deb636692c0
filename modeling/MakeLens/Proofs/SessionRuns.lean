import MakeLens.Session
import MakeLens.Proofs.AbsolutePath
import MakeLens.Proofs.Frame

/-! # Runs of a session

    A run is a sequence of events, each with the disk as it is at the moment.

    Whatever the event, the index does at most one operation, and the event says which
    ones come into question (`Event.Asks`). So the index of a session has taken a run of
    operations of its own, and what holds along every run of an index holds along every
    run of a session.

    * `step_leads`: one event, at most one operation;
    * `run_index`: the operations behind a run of events;
    * `run_keeps`: entries that stay, in terms of events.
-/

namespace MakeLens

/-! ## Section 1: The file of a URI -/

namespace Uri

theorem head?_closeDrive (bytes : List UInt8) : (closeDrive bytes).head? = bytes.head? := by
  cases bytes with
  | nil => rfl
  | cons b rest =>
    -- a slash at the end leaves the first byte where it is
    unfold closeDrive
    split
    · split
      · rfl
      · rfl
    · rfl

/-- A URI names files from the root only. -/
theorem isAbsolute_of_filePath? {uri : Uri} {path : FilePath} (h : uri.filePath? = some path) :
    path.isAbsolute = true := by
  unfold filePath? at h
  split at h
  · simp only at h
    split at h
    · cases h
      unfold FilePath.isAbsolute
      rw [head?_closeDrive]
      rfl
    · cases h
  · cases h

/-- So the working directory has no part in the form under which the index knows the
    file. -/
theorem absolute_of_filePath? {uri : Uri} {path : FilePath} (h : uri.filePath? = some path)
    (disk : Disk) : disk.absolute path = path.normalize := by
  unfold Disk.absolute FilePath.absolute
  rw [if_pos (isAbsolute_of_filePath? h)]

theorem map_normalize_filePath? {uri : Uri} {path : FilePath} (h : uri.filePath? = some path)
    (disk : Disk) : uri.filePath?.map FilePath.normalize = some (disk.absolute path) := by
  rw [h, absolute_of_filePath? h disk]
  rfl

end Uri

/-! ## Section 2: What an event asks of the index -/

namespace Event

/-- The operations that an event can ask of the index. -/
inductive Asks : Event → Operation → Prop
  | ready {rejection : Option String} {depth : Nat} : Asks (.ready rejection) (.setDepth depth)
  | settings {uris : List Uri} {depth : Nat} :
      Asks (.watchedFilesChanged uris) (.setDepth depth)
  | opened {uri : Uri} {path : FilePath} {language : String} {version : Int} {text : List Char} :
      uri.filePath? = some path →
      Asks (.opened uri language version text) (.ensure path (some text))
  | changed {uri : Uri} {path : FilePath} {version : Int} {changes : List Change}
      {text : List Char} : uri.filePath? = some path →
      Asks (.changed uri version changes) (.reindex path text)
  /-- Where edits are not scanned, the first one may still find the file without an
      entry. -/
  | changedUnscanned {uri : Uri} {path : FilePath} {version : Int} {changes : List Change}
      {text : List Char} : uri.filePath? = some path →
      Asks (.changed uri version changes) (.ensure path (some text))
  | saved {uri : Uri} {path : FilePath} : uri.filePath? = some path →
      Asks (.saved uri) (.invalidate path)
  | definition {uri : Uri} {path : FilePath} {line column : UInt32} {name : String} :
      uri.filePath? = some path → Asks (.definition uri line column) (.definitions path name)
  | hover {uri : Uri} {path : FilePath} {line column : UInt32} {name : String} :
      uri.filePath? = some path → Asks (.hover uri line column) (.hoverValue path name line)

/-- The file whose entry an event may put another in the place of: that of a changed or a
    saved document. -/
def rescanned? : Event → Option FilePath
  | .changed uri _ _ => uri.filePath?.map FilePath.normalize
  | .saved uri => uri.filePath?.map FilePath.normalize
  | _ => none

/-- An operation scans the file again that its event is about. -/
theorem Asks.rescanned?_eq {event : Event} {operation : Operation} {disk : Disk}
    {file : FilePath} (hasks : event.Asks operation)
    (h : operation.rescanned? disk = some file) : event.rescanned? = some file := by
  cases hasks with
  | ready => cases h
  | settings => cases h
  | opened _ => cases h
  | changed hpath => exact (Uri.map_normalize_filePath? hpath disk).trans h
  | changedUnscanned _ => cases h
  | saved hpath => exact (Uri.map_normalize_filePath? hpath disk).trans h
  | definition _ => cases h
  | hover _ => cases h

end Event

/-! ## Section 3: Steps -/

namespace Event

/-- `after` is `before`, or what one of the operations that the event can ask for makes
    of it. -/
def Leads (event : Event) (disk : Disk) (before after : Index) : Prop :=
  after = before ∨ ∃ operation, event.Asks operation ∧ after = operation.perform disk before

theorem Leads.refl (event : Event) (disk : Disk) (index : Index) :
    event.Leads disk index index :=
  Or.inl rfl

theorem Asks.leads {event : Event} {operation : Operation} (hasks : event.Asks operation)
    (disk : Disk) (index : Index) : event.Leads disk index (operation.perform disk index) :=
  Or.inr ⟨operation, hasks, rfl⟩

/-- On a URI that names no file there is no operation. -/
theorem leads_onFile {α : Type} {event : Event} {disk : Disk} {index : Index} {uri : Uri}
    {action : FilePath → Index × Except ServiceError α} (operation : FilePath → Operation)
    (hperform : ∀ path, (action path).1 = (operation path).perform disk index)
    (hasks : ∀ path, uri.filePath? = some path → event.Asks (operation path)) :
    event.Leads disk index (Service.onFile index uri action).1 := by
  unfold Service.onFile Uri.file
  cases hpath : uri.filePath? with
  | none => exact .refl event disk index
  | some path =>
    show event.Leads disk index (action path).1
    rw [hperform path]
    exact (hasks path hpath).leads disk index

end Event

namespace Session

section handlers

variable (s : Session) (disk : Disk) (uri : Uri)

theorem reload_leads {event : Event} (hasks : ∀ depth, event.Asks (.setDepth depth)) :
    event.Leads disk s.index (s.reload disk).1.index := by
  unfold reload
  split
  · exact .refl event disk s.index
  · split
    · exact (hasks _).leads disk s.index
    · exact .refl event disk s.index

theorem onOpened_leads (language : String) (version : Int) (text : List Char) :
    (Event.opened uri language version text).Leads disk s.index
      (s.onOpened disk uri language version text).1.index := by
  unfold onOpened
  simp only
  split
  · exact Event.leads_onFile (.ensure · (some text)) (fun _ => rfl) fun _ => .opened
  · exact .refl _ disk s.index

theorem onChanged_leads (version : Int) (changes : List Change) :
    (Event.changed uri version changes).Leads disk s.index
      (s.onChanged disk uri version changes).1.index := by
  unfold onChanged
  split
  · exact .refl _ disk s.index
  · next documents text _ =>
    simp only
    split
    · split
      · exact Event.leads_onFile (.reindex · text) (fun _ => rfl) fun _ => .changed
      · exact Event.leads_onFile (.ensure · (some text)) (fun _ => rfl)
          fun _ => .changedUnscanned
    · exact .refl _ disk s.index

theorem onSaved_leads :
    (Event.saved uri).Leads disk s.index (s.onSaved disk uri).1.index := by
  unfold onSaved
  split
  · exact Event.leads_onFile .invalidate (fun _ => rfl) fun _ => .saved
  · exact .refl _ disk s.index

theorem findDefinition_leads (line column : UInt32) :
    (Event.definition uri line column).Leads disk s.index
      (s.findDefinition disk uri line column).1.index := by
  unfold findDefinition
  split
  · exact .refl _ disk s.index
  · next span _ =>
    exact Event.leads_onFile (.definitions · span.word) (fun _ => rfl) fun _ => .definition

theorem findHover_leads (line column : UInt32) :
    (Event.hover uri line column).Leads disk s.index
      (s.findHover disk uri line column).1.index := by
  unfold findHover
  split
  · exact .refl _ disk s.index
  · next span _ =>
    exact Event.leads_onFile (.hoverValue · span.word line) (fun _ => rfl) fun _ => .hover

end handlers

/-- One event: the index is as it was, or does one operation that the event asks for. -/
theorem step_leads (s : Session) (disk : Disk) (event : Event) :
    event.Leads disk s.index (s.step disk event).1.index := by
  cases event with
  | started folders root options => exact .refl _ disk s.index
  | ready rejection => exact s.reload_leads disk fun _ => .ready
  | shutdown => exact .refl _ disk s.index
  | opened uri language version text => exact s.onOpened_leads disk uri language version text
  | changed uri version changes => exact s.onChanged_leads disk uri version changes
  | saved uri => exact s.onSaved_leads disk uri
  | closed uri => exact .refl _ disk s.index
  | watchedFilesChanged uris =>
    simp only [step]
    split
    · exact s.reload_leads disk fun _ => .settings
    · exact .refl _ disk s.index
  | symbols uri => exact .refl _ disk s.index
  | definition uri line column => exact s.findDefinition_leads disk uri line column
  | hover uri line column => exact s.findHover_leads disk uri line column

/-! ## Section 4: Runs -/

/-- The state after a sequence of events, each on the disk of its moment. -/
def run (s : Session) (steps : List (Disk × Event)) : Session :=
  steps.foldl (fun s step => (s.step step.1 step.2).1) s

/-- Behind a run of events is a run of the index: its operations are those that the events
    ask for, each on the disk of its event. -/
theorem run_index (s : Session) (steps : List (Disk × Event)) :
    ∃ operations : List (Disk × Operation),
      (s.run steps).index = s.index.run operations ∧
      ∀ o ∈ operations, ∃ step ∈ steps, o.1 = step.1 ∧ step.2.Asks o.2 := by
  induction steps generalizing s with
  | nil => exact ⟨[], rfl, fun _ h => nomatch h⟩
  | cons step rest ih =>
    obtain ⟨operations, hindex, hasked⟩ := ih (s.step step.1 step.2).1
    have hlater : ∀ o ∈ operations, ∃ t ∈ step :: rest, o.1 = t.1 ∧ t.2.Asks o.2 := by
      intro o ho
      obtain ⟨t, ht, hasks⟩ := hasked o ho
      exact ⟨t, List.mem_cons_of_mem _ ht, hasks⟩
    have hrun : (s.run (step :: rest)).index =
        (s.step step.1 step.2).1.index.run operations := hindex
    rcases s.step_leads step.1 step.2 with h | ⟨operation, hasks, h⟩
    · refine ⟨operations, ?_, hlater⟩
      rw [hrun, h]
    · refine ⟨(step.1, operation) :: operations, ?_, ?_⟩
      · rw [hrun, h]
        rfl
      · intro o ho
        rcases List.mem_cons.1 ho with rfl | ho
        · exact ⟨step, List.mem_cons_self, rfl, hasks⟩
        · exact hlater o ho

/-- An entry stays as it is while no document of its file is changed or saved. -/
theorem run_keeps {s : Session} {steps : List (Disk × Event)} {file : FilePath}
    {entry : FileIndex} (hother : ∀ step ∈ steps, step.2.rescanned? ≠ some file)
    (h : s.index.cache.get? file = some entry) :
    (s.run steps).index.cache.get? file = some entry := by
  obtain ⟨operations, hindex, hasked⟩ := s.run_index steps
  rw [hindex]
  refine Index.run_keeps ?_ h
  intro o ho hrescanned
  obtain ⟨step, hstep, -, hasks⟩ := hasked o ho
  exact hother step hstep (hasks.rescanned?_eq hrescanned)

end Session

end MakeLens
