import MakeLens.Proofs.SettingsDecoding
import MakeLens.Proofs.TomlTables

/-! # Which layer a setting comes from

    Settings are loaded by laying two values over the defaults and reading the result.
    Both values are trees, and what is laid over what is decided on the way down, with
    `null` passed over, missing members put in and anything but an object replaced as a
    whole. For each field this comes to a plain rule (`SettingsKey.chosen`): the value of
    the settings file if it has one, else the value that the editor sent, else the
    default.

    * `Json.layered_obj`: what one layer does to the groups below it;
    * `member?_mergedGroup`: what both layers make of one field;
    * `resolve_eq_ok_iff`: all fields together.
-/

namespace MakeLens

/-! ## Section 1: Fields and layers -/

namespace Json

/-- Whether a value can be a group of a layer: an object, or `null`. -/
def isGroup : Json → Bool
  | .null => true
  | .obj _ => true
  | _ => false

/-- Whether a value can be a layer: `null`, or an object with groups that are groups. Other
    members can be anything. -/
def isLayer : Json → Bool
  | .null => true
  | .obj members =>
    ["features", "index", "workspace"].all fun name => (member? name members).all isGroup
  | _ => false

/-- The members of a value; none where it is no object. -/
def membersOf : Option Json → List (String × Json)
  | some (.obj members) => members
  | _ => []

@[simp] theorem membersOf_obj (members : List (String × Json)) :
    membersOf (some (.obj members)) = members :=
  rfl

/-- The members of a group of a layer. -/
def groupOf (layer : Option Json) (name : String) : List (String × Json) :=
  membersOf (layer.bind (get? name))

end Json

/-- The fields of the settings. -/
inductive SettingsKey where
  | hover
  | definition
  | documentSymbols
  | maxExpansionDepth
  | reindexOnChange
  | filePatterns
  deriving DecidableEq, Repr

namespace SettingsKey

/-- The group of a field. -/
def group : SettingsKey → String
  | .hover | .definition | .documentSymbols => "features"
  | .maxExpansionDepth | .reindexOnChange => "index"
  | .filePatterns => "workspace"

/-- The key of a field in its group. -/
def key : SettingsKey → String
  | .hover => "hover"
  | .definition => "definition"
  | .documentSymbols => "document_symbols"
  | .maxExpansionDepth => "max_expansion_depth"
  | .reindexOnChange => "reindex_on_change"
  | .filePatterns => "file_patterns"

/-- What settings have for a field. -/
def valueIn (settings : Settings) : SettingsKey → Json
  | .hover => .bool settings.features.hover
  | .definition => .bool settings.features.definition
  | .documentSymbols => .bool settings.features.documentSymbols
  | .maxExpansionDepth => .int settings.index.maxExpansionDepth
  | .reindexOnChange => .bool settings.index.reindexOnChange
  | .filePatterns => .arr (settings.workspace.filePatterns.map .str)

/-- A value has the type of a field: a truth value, a count of 64 bits or a list of
    texts. -/
def HasType (value : Json) : SettingsKey → Prop
  | .hover | .definition | .documentSymbols | .reindexOnChange => ∃ b, value = .bool b
  | .maxExpansionDepth => ∃ n : Nat, n < 2 ^ 64 ∧ value = .int n
  | .filePatterns => ∃ texts : List String, value = .arr (texts.map .str)

/-- What a layer gives for a field, unless it is missing or `null` there. -/
def given? (layer : Option Json) (field : SettingsKey) : Option Json :=
  Json.said? field.key (Json.groupOf layer field.group)

/-- The value for a field: that of the settings file, else that of the editor, else the
    default. -/
def chosen (initial file : Option Json) (field : SettingsKey) : Json :=
  (field.given? file).getD ((field.given? initial).getD (field.valueIn .default))

theorem forall_iff {P : SettingsKey → Prop} : (∀ field, P field) ↔
    (P .hover ∧ P .definition ∧ P .documentSymbols) ∧
    (P .maxExpansionDepth ∧ P .reindexOnChange) ∧ P .filePatterns := by
  constructor
  · intro h
    exact ⟨⟨h _, h _, h _⟩, ⟨h _, h _⟩, h _⟩
  · rintro ⟨⟨hhover, hdefinition, hsymbols⟩, ⟨hdepth, hreindex⟩, hpatterns⟩ field
    cases field with
    | hover => exact hhover
    | definition => exact hdefinition
    | documentSymbols => exact hsymbols
    | maxExpansionDepth => exact hdepth
    | reindexOnChange => exact hreindex
    | filePatterns => exact hpatterns

/-- Settings as JSON have the value of each field in its place. -/
theorem member?_toJson (settings : Settings) (field : SettingsKey) :
    Json.member? field.key (Json.groupOf (some settings.toJson) field.group) =
      some (field.valueIn settings) := by
  cases field <;>
    simp [Json.groupOf, Json.get?, Settings.toJson, Settings.featuresJson, Json.ofMembers,
      Json.member?_putMember, group, key, valueIn]

end SettingsKey

/-! ## Section 2: One layer over another -/

namespace Json

variable {layer : Option Json}

theorem wellFormed_groupOf (h : ∀ top ∈ layer, top.WellFormed) (name : String) :
    WellFormed (.obj (groupOf layer name)) := by
  unfold groupOf membersOf
  split
  · next members hget =>
    obtain ⟨top, htop, hmember⟩ := Option.bind_eq_some_iff.1 hget
    have hwell := h top htop
    cases top with
    | obj outer => exact hwell.member hmember
    | _ => cases hmember
  · exact .obj List.Pairwise.nil fun _ hm => nomatch hm

/-- A group over a group, where there is one. -/
theorem laidOver_group {given : Option Json} (h : given.all isGroup = true)
    (inner : List (String × Json)) :
    laidOver (some (.obj inner)) (given.filter fun value => !value.isNull) =
      some (.obj (overlayMembers inner (membersOf given))) := by
  have hnothing : some (obj inner) = some (obj (overlayMembers inner [])) := by
    rw [overlayMembers_nil]
  cases given with
  | none => exact hnothing
  | some value =>
    cases value with
    | null => exact hnothing
    | obj members =>
      show some (overlay (obj inner) (obj members)) = _
      rw [overlay]
      rfl
    | _ => cases h

/-- A layer over an object: what was a group stays one, with the group of the layer over
    it. -/
theorem layered_obj (hwell : ∀ top ∈ layer, top.WellFormed) (hlayer : layer.all isLayer = true)
    (members : List (String × Json)) :
    ∃ merged, SettingsStore.layered (.obj members) layer = .obj merged ∧
      (Ascending members → Ascending merged) ∧
      ∀ name ∈ ["features", "index", "workspace"], ∀ inner,
        member? name members = some (.obj inner) →
        member? name merged = some (.obj (overlayMembers inner (groupOf layer name))) := by
  -- without a layer, or with `null` for one, everything stays as it is
  have hnothing : ∀ inner : List (String × Json), some (obj inner) =
      some (obj (overlayMembers inner [])) := by
    intro inner
    rw [overlayMembers_nil]
  cases layer with
  | none =>
    refine ⟨members, rfl, id, ?_⟩
    intro name _ inner hinner
    exact hinner.trans (hnothing inner)
  | some top =>
    cases top with
    | null =>
      refine ⟨members, by simp [SettingsStore.layered, overlay], id, ?_⟩
      intro name _ inner hinner
      exact hinner.trans (hnothing inner)
    | obj added =>
      refine ⟨overlayMembers members added, by simp [SettingsStore.layered, overlay],
        fun h => h.overlayMembers added, ?_⟩
      intro name hname inner hinner
      have hgroup : (member? name added).all isGroup = true :=
        List.all_eq_true.1 hlayer name hname
      rw [member?_overlayMembers (hwell _ rfl).ascending, hinner]
      exact laidOver_group hgroup inner
    | _ => cases hlayer

/-- Two values are the same, or both are objects. -/
def Agrees (value other : Json) : Prop :=
  value = other ∨ (∃ members, value = .obj members) ∧ ∃ members, other = .obj members

/-- Then they are equal to the same values that are no objects. -/
theorem Agrees.eq_iff {value other plain : Json} (h : Agrees value other)
    (hplain : ∀ members, plain ≠ .obj members) : value = plain ↔ other = plain := by
  rcases h with rfl | ⟨⟨members, rfl⟩, others, rfl⟩
  · rfl
  · exact ⟨fun heq => absurd heq.symm (hplain _), fun heq => absurd heq.symm (hplain _)⟩

/-- What is laid over a value stands in its place, except that an object over an object
    makes another object. -/
theorem agrees_overlay (below : Json) {top : Json} (htop : top.isNull = false) :
    Agrees (below.overlay top) top := by
  cases top with
  | null => cases htop
  | obj added =>
    cases below with
    | obj members =>
      right
      exact ⟨⟨overlayMembers members added, by simp [overlay]⟩, added, rfl⟩
    | _ => exact Or.inl (by simp [overlay])
  | _ => exact Or.inl (by cases below <;> simp [overlay])

/-- A value in the place of the expected one stays so, whatever is laid over it. -/
theorem exists_laidOver {below expected : Json} (h : Agrees below expected) (key : String)
    (members : List (String × Json)) :
    ∃ value, laidOver (some below) (said? key members) = some value ∧
      Agrees value ((said? key members).getD expected) := by
  cases hsaid : said? key members with
  | none => exact ⟨below, rfl, h⟩
  | some top => exact ⟨below.overlay top, rfl, agrees_overlay below (not_isNull_of_said? hsaid)⟩

end Json

/-! ## Section 3: All layers together -/

theorem Settings.wellFormed_toJson {settings : Settings}
    (h : settings.index.maxExpansionDepth < 2 ^ 64) : settings.toJson.WellFormed := by
  have hdepth : Json.WellFormed (.int settings.index.maxExpansionDepth) :=
    .int (by omega) (by omega)
  have htexts : Json.WellFormed (.arr (settings.workspace.filePatterns.map .str)) := by
    refine .arr ?_
    intro item hitem
    obtain ⟨text, -, rfl⟩ := List.mem_map.1 hitem
    exact .str text
  apply Json.wellFormed_ofMembers
  simp only [List.mem_cons, List.not_mem_nil, or_false, forall_eq_or_imp, forall_eq]
  refine ⟨?_, ?_, ?_⟩
  · apply Json.wellFormed_ofMembers
    simp [Json.WellFormed.bool]
  · apply Json.wellFormed_ofMembers
    simp [hdepth, Json.WellFormed.bool]
  · apply Json.wellFormed_ofMembers
    simpa using htexts

namespace SettingsStore

/-- A group after both layers. -/
def mergedGroup (initial file : Option Json) (name : String) : List (String × Json) :=
  Json.overlayMembers (Json.overlayMembers (Json.groupOf (some Settings.default.toJson) name)
    (Json.groupOf initial name)) (Json.groupOf file name)

/-- The value of a key in a group after both layers. -/
def mergedValue (initial file : Option Json) (name key : String) : Json :=
  (Json.member? key (mergedGroup initial file name)).getD .null

theorem ascending_mergedGroup (initial file : Option Json) (name : String) :
    Json.Ascending (mergedGroup initial file name) := by
  have hdefault : Json.WellFormed
      (.obj (Json.groupOf (some Settings.default.toJson) name)) := by
    apply Json.wellFormed_groupOf
    rintro top ⟨⟩
    exact Settings.wellFormed_toJson (by decide)
  exact (hdefault.ascending.overlayMembers _).overlayMembers _

section layers

variable {initial file : Option Json} (hinitial : ∀ top ∈ initial, top.WellFormed)
  (hfile : ∀ top ∈ file, top.WellFormed)

include hinitial hfile

/-- The value of a field after both layers is the chosen one, or both are objects. -/
theorem member?_mergedGroup (field : SettingsKey) :
    Json.member? field.key (mergedGroup initial file field.group) =
      some (mergedValue initial file field.group field.key) ∧
    Json.Agrees (mergedValue initial file field.group field.key) (field.chosen initial file) := by
  -- first what the editor sent over the default, then the file over that
  obtain ⟨below, hbelow, hagrees⟩ := Json.exists_laidOver (Or.inl rfl : Json.Agrees
    (field.valueIn .default) (field.valueIn .default)) field.key
    (Json.groupOf initial field.group)
  obtain ⟨value, hvalue, hchosen⟩ := Json.exists_laidOver hagrees field.key
    (Json.groupOf file field.group)
  have hmember : Json.member? field.key (mergedGroup initial file field.group) = some value := by
    unfold mergedGroup
    rw [Json.member?_overlayMembers (Json.wellFormed_groupOf hfile _).ascending,
      Json.member?_overlayMembers (Json.wellFormed_groupOf hinitial _).ascending,
      SettingsKey.member?_toJson, hbelow, hvalue]
  have heq : mergedValue initial file field.group field.key = value := by
    unfold mergedValue
    rw [hmember]
    rfl
  rw [heq]
  exact ⟨hmember, hchosen⟩

variable (hinitialLayer : initial.all Json.isLayer = true)
  (hfileLayer : file.all Json.isLayer = true)

include hinitialLayer hfileLayer

/-- Both layers over the defaults. -/
theorem layered_layered :
    ∃ merged, layered (layered Settings.default.toJson initial) file = .obj merged ∧
      Json.Ascending merged ∧
      ∀ name ∈ ["features", "index", "workspace"],
        Json.member? name merged = some (.obj (mergedGroup initial file name)) := by
  obtain ⟨members, hmembers⟩ : ∃ members, Settings.default.toJson = .obj members := ⟨_, rfl⟩
  have hdefault : ∀ name ∈ ["features", "index", "workspace"], Json.member? name members =
      some (.obj (Json.groupOf (some Settings.default.toJson) name)) := by
    cases hmembers
    simp [Json.groupOf, Json.get?, Settings.toJson, Settings.featuresJson, Json.ofMembers,
      Json.member?_putMember]
  have hascending : Json.Ascending members :=
    (hmembers ▸ Settings.wellFormed_toJson (by decide) : Json.WellFormed (.obj members)).ascending
  obtain ⟨below, hbelow, hkeepsBelow, hgroupsBelow⟩ :=
    Json.layered_obj hinitial hinitialLayer members
  obtain ⟨merged, hmerged, hkeeps, hgroups⟩ := Json.layered_obj hfile hfileLayer below
  refine ⟨merged, ?_, hkeeps (hkeepsBelow hascending), ?_⟩
  · rw [hmembers, hbelow, hmerged]
  · intro name hname
    exact hgroups name hname _ (hgroupsBelow name hname _ (hdefault name hname))

/-- Reading the layers gives the settings that have the chosen values. -/
theorem decode_layers_eq_ok_iff {settings : Settings} :
    Settings.decode (layered (layered Settings.default.toJson initial) file) = .ok settings ↔
      ∀ field : SettingsKey, field.chosen initial file = field.valueIn settings := by
  obtain ⟨merged, hmerged, hascending, hgroups⟩ :=
    layered_layered hinitial hfile hinitialLayer hfileLayer
  have hmember : ∀ field : SettingsKey,
      Json.member? field.key (mergedGroup initial file field.group) =
        some (mergedValue initial file field.group field.key) :=
    fun field => (member?_mergedGroup hinitial hfile field).1
  -- the settings have no object for a field, so that the value is the chosen one
  have hvalue : ∀ field : SettingsKey,
      mergedValue initial file field.group field.key = field.valueIn settings ↔
        field.chosen initial file = field.valueIn settings := by
    intro field
    refine (member?_mergedGroup hinitial hfile field).2.eq_iff ?_
    intro members
    cases field <;> simp [SettingsKey.valueIn]
  have hfeatures : ∀ key ∈ ["definition", "document_symbols", "hover"],
      Json.member? key (mergedGroup initial file "features") =
        some (mergedValue initial file "features" key) := by
    simp only [List.mem_cons, List.not_mem_nil, or_false, forall_eq_or_imp, forall_eq]
    exact ⟨hmember .definition, hmember .documentSymbols, hmember .hover⟩
  have hindex : ∀ key ∈ ["max_expansion_depth", "reindex_on_change"],
      Json.member? key (mergedGroup initial file "index") =
        some (mergedValue initial file "index" key) := by
    simp only [List.mem_cons, List.not_mem_nil, or_false, forall_eq_or_imp, forall_eq]
    exact ⟨hmember .maxExpansionDepth, hmember .reindexOnChange⟩
  have hworkspace : ∀ key ∈ ["file_patterns"],
      Json.member? key (mergedGroup initial file "workspace") =
        some (mergedValue initial file "workspace" key) := by
    simp only [List.mem_cons, List.not_mem_nil, or_false, forall_eq]
    exact hmember .filePatterns
  rw [hmerged, Settings.decode_eq_ok_iff hascending hgroups,
    Settings.decodeFeatures_eq_ok_iff (ascending_mergedGroup initial file _) hfeatures,
    Settings.decodeIndex_eq_ok_iff (ascending_mergedGroup initial file _) hindex,
    Settings.decodeWorkspace_eq_ok_iff (ascending_mergedGroup initial file _) hworkspace,
    SettingsKey.forall_iff]
  exact and_congr
    (and_congr (hvalue .hover) (and_congr (hvalue .definition) (hvalue .documentSymbols)))
    (and_congr (and_congr (hvalue .maxExpansionDepth) (hvalue .reindexOnChange))
      (hvalue .filePatterns))

end layers

/-! ## Section 4: Loading -/

/-- The value for a field is well-formed if the layers are. -/
theorem wellFormed_chosen {initial file : Option Json}
    (hinitial : ∀ top ∈ initial, top.WellFormed) (hfile : ∀ top ∈ file, top.WellFormed)
    (field : SettingsKey) : (field.chosen initial file).WellFormed := by
  have hgiven : ∀ layer : Option Json, (∀ top ∈ layer, top.WellFormed) → ∀ value,
      field.given? layer = some value → value.WellFormed := by
    intro layer hlayer value hvalue
    exact (Json.wellFormed_groupOf hlayer field.group).member
      (Option.filter_eq_some_iff.1 hvalue).1
  have hdefault : (field.valueIn .default).WellFormed := by
    refine (Json.wellFormed_groupOf ?_ field.group).member (field.member?_toJson .default)
    rintro top ⟨⟩
    exact Settings.wellFormed_toJson (by decide)
  unfold SettingsKey.chosen
  cases hfrom : field.given? file with
  | some value => exact hgiven file hfile value hfrom
  | none =>
    cases hsent : field.given? initial with
    | some value => exact hgiven initial hinitial value hsent
    | none => exact hdefault

/-- Values of the right types are those of settings. -/
theorem exists_settings_iff {value : SettingsKey → Json} (hwell : ∀ field, (value field).WellFormed) :
    (∀ field : SettingsKey, field.HasType (value field)) ↔
      ∃ settings, ∀ field : SettingsKey, value field = field.valueIn settings := by
  constructor
  · intro h
    obtain ⟨hover, hhover⟩ := h .hover
    obtain ⟨definition, hdefinition⟩ := h .definition
    obtain ⟨symbols, hsymbols⟩ := h .documentSymbols
    obtain ⟨depth, -, hdepth⟩ := h .maxExpansionDepth
    obtain ⟨reindex, hreindex⟩ := h .reindexOnChange
    obtain ⟨patterns, hpatterns⟩ := h .filePatterns
    refine ⟨⟨⟨hover, definition, symbols⟩, ⟨depth, reindex⟩, ⟨patterns⟩⟩, ?_⟩
    rw [SettingsKey.forall_iff]
    exact ⟨⟨hhover, hdefinition, hsymbols⟩, ⟨hdepth, hreindex⟩, hpatterns⟩
  · rintro ⟨settings, h⟩ field
    have hvalue := h field
    have hwell := hwell field
    rw [hvalue] at hwell ⊢
    cases field with
    | maxExpansionDepth =>
      -- the only type with a bound, which well-formed values keep
      cases hwell with
      | int _ hhigh => exact ⟨_, by omega, rfl⟩
    | _ => exact ⟨_, rfl⟩

theorem resolve_eq_ok_iff {store : SettingsStore} {disk : Disk} {root : FilePath}
    {file : Option Json} (hfile : fileLayer disk root = .ok file)
    (hinitial : ∀ top ∈ store.initial, top.WellFormed)
    (hinitialLayer : store.initial.all Json.isLayer = true)
    (hfileLayer : file.all Json.isLayer = true) {settings : Settings} :
    store.resolve disk root = .ok settings ↔
      ∀ field : SettingsKey, field.chosen store.initial file = field.valueIn settings := by
  have hwell : ∀ top ∈ file, top.WellFormed := by
    rintro top ⟨⟩
    exact wellFormed_fileLayer hfile
  rw [← decode_layers_eq_ok_iff hinitial hwell hinitialLayer hfileLayer]
  unfold resolve
  rw [hfile]
  cases hdecoded : Settings.decode (layered (layered Settings.default.toJson store.initial) file) with
  | ok found => simp only [bind, Except.bind, hdecoded, Except.ok.injEq]
  | error cause => simp [bind, Except.bind, hdecoded]

/-- Settings are loaded over what the editor sent, which is a layer or nothing, from a
    workspace whose settings file is read as a layer or is not there. Then
    1. the load succeeds exactly if the chosen value of every field has the field's type;
    2. the settings that it gives are kept as the current ones, and have the chosen value
       for every field;
    3. another load, with the same values given for all fields, gives the same settings or
       fails as well: nothing else in the layers matters. -/
theorem load_fieldwise (store : SettingsStore) (disk : Disk) (root : FilePath)
    {file : Option Json} (hfile : fileLayer disk root = .ok file)
    (hinitial : ∀ top ∈ store.initial, top.WellFormed)
    (hinitialLayer : store.initial.all Json.isLayer = true)
    (hfileLayer : file.all Json.isLayer = true) :
    let loaded := store.load disk root
    ((∃ settings, loaded.2 = .ok settings) ↔
      ∀ field : SettingsKey, field.HasType (field.chosen store.initial file)) ∧
    (∀ settings, loaded.2 = .ok settings →
      loaded.1 = { store with current := settings } ∧
      ∀ field : SettingsKey, field.valueIn settings = field.chosen store.initial file) ∧
    ∀ (other : SettingsStore) (disk' : Disk) (root' : FilePath) (file' : Option Json),
      fileLayer disk' root' = .ok file' → (∀ top ∈ other.initial, top.WellFormed) →
      other.initial.all Json.isLayer = true → file'.all Json.isLayer = true →
      (∀ field : SettingsKey, field.given? other.initial = field.given? store.initial ∧
        field.given? file' = field.given? file) →
      (other.load disk' root').2.toOption = loaded.2.toOption := by
  intro loaded
  have hresult : ∀ settings, loaded.2 = .ok settings ↔
      ∀ field : SettingsKey, field.chosen store.initial file = field.valueIn settings := by
    intro settings
    rw [← resolve_eq_ok_iff hfile hinitial hinitialLayer hfileLayer, ← load_snd]
  have hwell : ∀ top ∈ file, top.WellFormed := by
    rintro top ⟨⟩
    exact wellFormed_fileLayer hfile
  refine ⟨?_, ?_, ?_⟩
  · rw [exists_settings_iff (wellFormed_chosen hinitial hwell)]
    exact exists_congr hresult
  · intro settings hloaded
    refine ⟨congrArg Prod.fst (load_of_ok hloaded), ?_⟩
    intro field
    exact ((hresult settings).1 hloaded field).symm
  · intro other disk' root' file' hfile' hinitial' hinitialLayer' hfileLayer' hsame
    have hchosen : ∀ field : SettingsKey,
        field.chosen other.initial file' = field.chosen store.initial file := by
      intro field
      unfold SettingsKey.chosen
      rw [(hsame field).1, (hsame field).2]
    have hboth : ∀ settings, (other.load disk' root').2 = .ok settings ↔
        loaded.2 = .ok settings := by
      intro settings
      rw [hresult, load_snd, resolve_eq_ok_iff hfile' hinitial' hinitialLayer' hfileLayer']
      simp only [hchosen]
    apply Option.ext
    intro settings
    rw [Except.toOption_eq_some_iff, Except.toOption_eq_some_iff]
    exact hboth settings

end SettingsStore

/-! ### Three layers -/

/-- A workspace with settings in which one value is no number and one key means nothing. -/
def layeredDisk : Disk :=
  settingsDisk "[features]\nhover = nan\ncolour = 'red'\n[index]\nmax_expansion_depth = 5"

/-- What an editor sends along, with a `null` and another key that means nothing. -/
def sentSettings : Json :=
  .ofMembers [
    ("features", .ofMembers [("definition", .null), ("hover", .bool false)]),
    ("index", .ofMembers [("max_expansion_depth", .int 9)]),
    ("trace", .str "off")]

theorem wellFormed_sentSettings : sentSettings.WellFormed := by
  have hfeatures : Json.WellFormed
      (.ofMembers [("definition", .null), ("hover", .bool false)]) := by
    apply Json.wellFormed_ofMembers
    simp [Json.WellFormed.null, Json.WellFormed.bool]
  have hindex : Json.WellFormed (.ofMembers [("max_expansion_depth", .int 9)]) := by
    apply Json.wellFormed_ofMembers
    simp [Json.WellFormed.int]
  apply Json.wellFormed_ofMembers
  simp [hfeatures, hindex, Json.WellFormed.str]

/-- What is no number in the file leaves the value that the editor sent, a `null` that the
    editor sent leaves the default, and the depth of the file wins. -/
theorem load_fieldwise_layeredDisk :
    let store : SettingsStore := ⟨.default, some sentSettings⟩
    let root := FilePath.ofString "/w"
    let expected : Settings := ⟨⟨false, true, true⟩, ⟨5, true⟩, ⟨Settings.defaultPatterns⟩⟩
    ∃ file, SettingsStore.fileLayer layeredDisk root = .ok file ∧
      (∀ top ∈ store.initial, top.WellFormed) ∧ store.initial.all Json.isLayer = true ∧
      file.all Json.isLayer = true ∧
      store.load layeredDisk root = ({ store with current := expected }, .ok expected) ∧
      ∀ field : SettingsKey, field.valueIn expected = field.chosen store.initial file := by
  intro store root expected
  have hwell : ∀ top ∈ store.initial, top.WellFormed := by
    rintro top ⟨⟩
    exact wellFormed_sentSettings
  obtain ⟨file, hfile, hlayer⟩ : ∃ file, SettingsStore.fileLayer layeredDisk root = .ok file ∧
      file.all Json.isLayer = true := by
    have hread : (SettingsStore.fileLayer layeredDisk root).toOption.any
        (fun file => file.all Json.isLayer) = true := by
      decide +kernel
    obtain ⟨file, hsome, hlayer⟩ := (Option.any_eq_true _ _).1 hread
    exact ⟨file, Except.toOption_eq_some_iff.1 hsome, hlayer⟩
  have hinitialLayer : store.initial.all Json.isLayer = true := by decide +kernel
  have hloaded : (store.load layeredDisk root).2 = .ok expected := by
    apply Except.toOption_eq_some_iff.1
    decide +kernel
  obtain ⟨-, hresult, -⟩ :=
    SettingsStore.load_fieldwise store layeredDisk root hfile hwell hinitialLayer hlayer
  obtain ⟨hstored, hvalues⟩ := hresult expected hloaded
  refine ⟨file, hfile, hwell, hinitialLayer, hlayer, ?_, hvalues⟩
  exact Prod.ext hstored hloaded

end MakeLens
