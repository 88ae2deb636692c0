import MakeLens.Proofs.SessionRuns
import MakeLens.Proofs.SettingsDecoding

/-! # Settings along a run

    Settings are loaded when the editor is ready and when a settings file has changed, and
    only once the workspace is known. A load can fail at four places: the file cannot be
    read, it is no text, it is no TOML, or the layers together are no settings. Wherever it
    fails, the session is afterwards what it was before.

    The depth of expansion is kept twice, in the settings and in the index. Every event
    leaves the two in step.

    * `step_current`, `step_depth`: what one event does to the settings and to the depth,
      by the end of the load that it makes;
    * `run_current`: the settings after a run are those of its last load that succeeded;
    * `run_depthInStep`: the depth in effect after a run.
-/

namespace MakeLens

/-! ## Section 1: The depth of an index -/

namespace Operation

/-- The depth that an operation sets. -/
def depth? : Operation → Option Nat
  | .setDepth depth => some depth
  | _ => none

end Operation

namespace Index

variable (index : Index) (disk : Disk)

theorem depth_takeFile (path : FilePath) : (index.takeFile disk path).1.depth = index.depth := by
  unfold takeFile
  split
  · rfl
  · rfl

theorem depth_provide (path : FilePath) (text : Option (List Char)) :
    (index.provide disk path text).1.depth = index.depth := by
  unfold provide
  split
  · rfl
  · cases text with
    | none => exact index.depth_takeFile disk path
    | some text => rfl

theorem depth_invalidate (path : FilePath) :
    (index.invalidate disk path).1.depth = index.depth := by
  have htaken := index.depth_takeFile disk (disk.absolute path)
  rcases index.invalidate_eq_or disk path with heq | heq
  · rw [heq]
    exact htaken
  · rw [heq]
    exact htaken

/-- No other operation touches the depth. -/
theorem depth_perform {operation : Operation} (h : operation.depth? = none) :
    (operation.perform disk index).depth = index.depth := by
  cases operation with
  | symbols path text => rfl
  | ensure path text => exact index.depth_provide disk _ text
  | reindex path text => rfl
  | invalidate path => exact index.depth_invalidate disk path
  | definitions path name => exact index.depth_provide disk _ none
  | hoverValue path name line => exact index.depth_provide disk _ none
  | includeSet path => rfl
  | setDepth depth => cases h

end Index

/-! ## Section 2: Loads -/

/-- Whether an event asks for the settings to be loaded. -/
def Event.reloads : Event → Bool
  | .ready _ => true
  | .watchedFilesChanged uris => uris.any Session.isSettingsFile
  | _ => false

namespace Session

/-- How the load ends that an event makes; without a workspace there is none. -/
def loaded? (s : Session) (disk : Disk) (event : Event) : Option (Except LoadError Settings) :=
  if event.reloads then s.root.map fun root => (s.settings.load disk root).2 else none

/-- The settings that an event loads. -/
def newSettings? (s : Session) (disk : Disk) (event : Event) : Option Settings :=
  (s.loaded? disk event).bind Except.toOption

section reloading

variable {s : Session} {disk : Disk} {event : Event}

/-- An event that reloads does nothing else to the state. -/
theorem step_of_reloads (h : event.reloads = true) :
    (s.step disk event).1 = (s.reload disk).1 ∧
      (s.reload disk).2 ⊆ (s.step disk event).2.notices := by
  cases event with
  | ready rejection =>
    refine ⟨rfl, ?_⟩
    intro notice hmem
    exact List.mem_append_left _ (List.mem_cons_of_mem _ hmem)
  | watchedFilesChanged uris =>
    have huris : uris.any isSettingsFile = true := h
    simp only [step, if_pos huris]
    exact ⟨trivial, List.subset_cons_self _ _⟩
  | _ => cases h

theorem reload_of_no_root (h : s.root = none) : (s.reload disk).1 = s := by
  unfold reload
  rw [h]

theorem reload_of_ok {root : FilePath} {settings : Settings} (hroot : s.root = some root)
    (h : (s.settings.load disk root).2 = .ok settings) :
    (s.reload disk).1 =
      { s with
        settings := { s.settings with current := settings }
        index := s.index.setDepth settings.index.maxExpansionDepth } := by
  unfold reload
  rw [hroot]
  simp only [SettingsStore.load_of_ok h]

theorem reload_of_error {root : FilePath} {cause : LoadError} (hroot : s.root = some root)
    (h : (s.settings.load disk root).2 = .error cause) :
    s.reload disk = (s, [.alert .warning ("makefile-lsp: " ++ cause.message)]) := by
  unfold reload
  simp only [hroot, SettingsStore.load_of_error h]
  rw [← hroot]

theorem loaded?_eq_some {outcome : Except LoadError Settings}
    (h : s.loaded? disk event = some outcome) :
    event.reloads = true ∧
      ∃ root, s.root = some root ∧ (s.settings.load disk root).2 = outcome := by
  unfold loaded? at h
  split at h
  · next hreloads =>
    obtain ⟨root, hroot, houtcome⟩ := Option.map_eq_some_iff.1 h
    exact ⟨hreloads, root, hroot, houtcome⟩
  · cases h

/-- A failed load leaves the whole session as it was, and the user hears of it. -/
theorem step_of_failed {cause : LoadError} (h : s.loaded? disk event = some (.error cause)) :
    (s.step disk event).1 = s ∧
      .alert .warning ("makefile-lsp: " ++ cause.message) ∈ (s.step disk event).2.notices := by
  obtain ⟨hreloads, root, hroot, hload⟩ := loaded?_eq_some h
  obtain ⟨hstate, hnotices⟩ : (s.step disk event).1 = (s.reload disk).1 ∧ _ :=
    step_of_reloads hreloads
  rw [reload_of_error hroot hload] at hstate hnotices
  exact ⟨hstate, hnotices (List.mem_singleton.2 rfl)⟩

theorem step_of_loaded {settings : Settings} (h : s.loaded? disk event = some (.ok settings)) :
    (s.step disk event).1 =
      { s with
        settings := { s.settings with current := settings }
        index := s.index.setDepth settings.index.maxExpansionDepth } := by
  obtain ⟨hreloads, root, hroot, hload⟩ := loaded?_eq_some h
  rw [(step_of_reloads hreloads).1, reload_of_ok hroot hload]

end reloading

/-! ## Section 3: Events that load nothing -/

section quiet

variable (s : Session) (disk : Disk) (uri : Uri)

theorem settings_onOpened (language : String) (version : Int) (text : List Char) :
    (s.onOpened disk uri language version text).1.settings = s.settings := by
  unfold onOpened
  simp only
  split
  · rfl
  · rfl

theorem settings_onChanged (version : Int) (changes : List Change) :
    (s.onChanged disk uri version changes).1.settings = s.settings := by
  unfold onChanged
  split
  · rfl
  · simp only
    split
    · split
      · rfl
      · rfl
    · rfl

theorem settings_onSaved : (s.onSaved disk uri).1.settings = s.settings := by
  unfold onSaved
  split
  · rfl
  · rfl

theorem settings_findDefinition (line column : UInt32) :
    (s.findDefinition disk uri line column).1.settings = s.settings := by
  unfold findDefinition
  split
  · rfl
  · rfl

theorem settings_findHover (line column : UInt32) :
    (s.findHover disk uri line column).1.settings = s.settings := by
  unfold findHover
  split
  · rfl
  · rfl

end quiet

variable {s : Session} {disk : Disk} {event : Event}

/-- An event that could load settings and does not changes nothing. -/
theorem step_of_idle (depth : Nat) (hasks : event.Asks (.setDepth depth))
    (h : s.loaded? disk event = none) : (s.step disk event).1 = s := by
  by_cases hreloads : event.reloads = true
  · -- the workspace is not known yet
    have hroot : s.root = none := by simpa [loaded?, hreloads] using h
    rw [(step_of_reloads hreloads).1, reload_of_no_root hroot]
  · cases hasks with
    | ready => exact absurd rfl hreloads
    | @settings uris depth =>
      have huris : ¬ uris.any isSettingsFile = true := hreloads
      simp only [step, if_neg huris]

/-- Without a load the settings in effect stay. What the editor sends when it starts is only
    put aside for the next load. -/
theorem current_of_not_loaded (h : s.loaded? disk event = none) :
    (s.step disk event).1.settings.current = s.settings.current := by
  cases event with
  | started folders root options => rfl
  | ready rejection => rw [step_of_idle 0 .ready h]
  | shutdown => rfl
  | opened uri language version text =>
    exact congrArg SettingsStore.current (s.settings_onOpened disk uri language version text)
  | changed uri version changes =>
    exact congrArg SettingsStore.current (s.settings_onChanged disk uri version changes)
  | saved uri => exact congrArg SettingsStore.current (s.settings_onSaved disk uri)
  | closed uri => rfl
  | watchedFilesChanged uris => rw [step_of_idle 0 .settings h]
  | symbols uri => rfl
  | definition uri line column =>
    exact congrArg SettingsStore.current (s.settings_findDefinition disk uri line column)
  | hover uri line column =>
    exact congrArg SettingsStore.current (s.settings_findHover disk uri line column)

/-- The index never sets the depth for a document or a query. -/
theorem depth_of_not_loaded (h : s.loaded? disk event = none) :
    (s.step disk event).1.index.depth = s.index.depth := by
  rcases s.step_leads disk event with hsame | ⟨operation, hasks, hperform⟩
  · rw [hsame]
  · cases hdepth : operation.depth? with
    | none => rw [hperform, s.index.depth_perform disk hdepth]
    | some depth =>
      obtain rfl : operation = .setDepth depth := by
        cases operation <;> simp_all [Operation.depth?]
      rw [step_of_idle depth hasks h]

/-! ## Section 4: One event -/

theorem step_current (s : Session) (disk : Disk) (event : Event) :
    (s.step disk event).1.settings.current =
      (s.newSettings? disk event).getD s.settings.current := by
  unfold newSettings?
  cases hload : s.loaded? disk event with
  | none => exact current_of_not_loaded hload
  | some outcome =>
    cases outcome with
    | error cause => rw [(step_of_failed hload).1]; rfl
    | ok settings => rw [step_of_loaded hload]; rfl

theorem step_depth (s : Session) (disk : Disk) (event : Event) :
    (s.step disk event).1.index.depth =
      ((s.newSettings? disk event).map fun settings =>
        max 1 settings.index.maxExpansionDepth).getD s.index.depth := by
  unfold newSettings?
  cases hload : s.loaded? disk event with
  | none => exact depth_of_not_loaded hload
  | some outcome =>
    cases outcome with
    | error cause => rw [(step_of_failed hload).1]; rfl
    | ok settings =>
      rw [step_of_loaded hload]
      exact Nat.max_comm _ _

/-! ## Section 5: Runs -/

/-- How the loads of a run end, first to last. -/
def loads (s : Session) : List (Disk × Event) → List (Except LoadError Settings)
  | [] => []
  | step :: rest =>
    (s.loaded? step.1 step.2).toList ++ (s.step step.1 step.2).1.loads rest

/-- The settings after a run are those of the last load that succeeded; those that failed do
    not count. -/
theorem run_current (s : Session) (steps : List (Disk × Event)) :
    (s.run steps).settings.current =
      ((s.loads steps).filterMap Except.toOption).getLast?.getD s.settings.current := by
  induction steps generalizing s with
  | nil => rfl
  | cons step rest ih =>
    have hrun : s.run (step :: rest) = (s.step step.1 step.2).1.run rest := rfl
    have hfirst : (s.loaded? step.1 step.2).toList.filterMap Except.toOption =
        (s.newSettings? step.1 step.2).toList := by
      unfold newSettings?
      rcases s.loaded? step.1 step.2 with _ | (_ | _) <;> rfl
    rw [hrun, ih, step_current, loads, List.filterMap_append, hfirst, List.getLast?_append]
    -- a later load that succeeds wins over the one of this event
    cases (((s.step step.1 step.2).1.loads rest).filterMap Except.toOption).getLast? with
    | some last => rfl
    | none => cases s.newSettings? step.1 step.2 <;> rfl

/-- The depth in effect follows the settings in effect. -/
def DepthInStep (s : Session) : Prop :=
  s.index.depth = max 1 s.settings.current.index.maxExpansionDepth

theorem step_depthInStep (h : s.DepthInStep) : (s.step disk event).1.DepthInStep := by
  unfold DepthInStep
  rw [step_depth, step_current]
  cases s.newSettings? disk event with
  | none => exact h
  | some settings => rfl

theorem run_depthInStep (h : s.DepthInStep) (steps : List (Disk × Event)) :
    (s.run steps).DepthInStep := by
  induction steps generalizing s with
  | nil => exact h
  | cons step rest ih => exact ih (step_depthInStep h)

/-- After any run of a session, whatever the settings file was at its moments:
    1. the settings in effect are those of the last load of the run that succeeded, or else
       the defaults;
    2. the depth of expansion in effect is the one of these settings, and at least one;
    3. an event whose load fails leaves the whole session as it is, and the user hears
       of the cause;
    4. where an event changes the settings in effect, they are what it loaded, and the
       depth follows. -/
theorem run_settings_atomic (steps : List (Disk × Event)) :
    let s := fresh.run steps
    s.settings.current =
      ((fresh.loads steps).filterMap Except.toOption).getLast?.getD .default ∧
    s.index.depth = max 1 s.settings.current.index.maxExpansionDepth ∧
    ∀ (disk : Disk) (event : Event), let next := s.step disk event
      (∀ cause, s.loaded? disk event = some (.error cause) →
        next.1 = s ∧
        .alert .warning ("makefile-lsp: " ++ cause.message) ∈ next.2.notices) ∧
      (next.1.settings.current ≠ s.settings.current → ∃ settings,
        s.loaded? disk event = some (.ok settings) ∧
        next.1.settings = { s.settings with current := settings } ∧
        next.1.index.depth = max 1 settings.index.maxExpansionDepth) := by
  intro s
  have hfresh : fresh.DepthInStep := rfl
  refine ⟨fresh.run_current steps, run_depthInStep hfresh steps, ?_⟩
  intro disk event next
  refine ⟨fun cause hfailed => step_of_failed hfailed, ?_⟩
  intro hchanged
  cases hload : s.loaded? disk event with
  | none => exact absurd (current_of_not_loaded hload) hchanged
  | some outcome =>
    cases outcome with
    | error cause =>
      have hsame : next.1 = s := (step_of_failed hload).1
      exact absurd (by rw [hsame]) hchanged
    | ok settings =>
      refine ⟨settings, rfl, ?_, ?_⟩
      · exact congrArg Session.settings (step_of_loaded hload)
      · have hdepth := s.step_depth disk event
        unfold newSettings? at hdepth
        rw [hload] at hdepth
        exact hdepth

end Session

/-- A settings file that is broken after it was loaded leaves what it had set. -/
example :
    let file : Uri := ⟨"file", some ⟨"", "", none⟩, .steps ["w", "makefile-lsp.toml"], none, none⟩
    let s := Session.fresh.run [
      (settingsDisk "[index]\nmax_expansion_depth = 5", .started [] none none),
      (settingsDisk "[index]\nmax_expansion_depth = 5", .ready none),
      (settingsDisk "[index]\nmax_expansion_depth =", .watchedFilesChanged [file])]
    s.settings.current.index.maxExpansionDepth = 5 ∧ s.index.depth = 5 := by
  decide +kernel

end MakeLens
