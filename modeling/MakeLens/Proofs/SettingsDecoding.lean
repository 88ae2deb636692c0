import MakeLens.Settings.Load
import MakeLens.Proofs.JsonMembers

/-! # Reading settings

    When is a value read as certain settings? A field has just one value that is read as
    it should be (`decodeBool_eq_ok_iff` and the like). A group is an object whose members
    are looked at one after the other. Members that mean nothing are passed over, and the
    others stand in the order of their keys, so that a group in which no field is missing
    is read field by field. A load takes over what was read if that succeeds, and
    nothing otherwise.
-/

namespace MakeLens

/-! ## Section 1: Fields -/

/-- A computation that begins with another one succeeds with it. -/
theorem Except.bind_eq_ok_iff {ε α β : Type} {first : Except ε α} {next : α → Except ε β} {b : β} :
    first >>= next = .ok b ↔ ∃ a, first = .ok a ∧ next a = .ok b := by
  cases first with
  | error e => simp [bind, Except.bind]
  | ok a => simp [bind, Except.bind]

theorem Except.toOption_eq_some_iff {ε α : Type} {outcome : Except ε α} {a : α} :
    outcome.toOption = some a ↔ outcome = .ok a := by
  cases outcome with
  | error e => simp [Except.toOption]
  | ok found => simp [Except.toOption]

namespace Settings

variable {value : Json}

theorem decodeBool_eq_ok_iff {b : Bool} : decodeBool value = .ok b ↔ value = .bool b := by
  cases value <;> simp [decodeBool]

theorem decodeCount_eq_ok_iff {n : Nat} : decodeCount value = .ok n ↔ value = .int n := by
  cases value with
  | int m =>
    show (if 0 ≤ m then Except.ok m.toNat else .error (DecodeError.negative m)) = _ ↔ _
    by_cases hsign : 0 ≤ m
    · rw [if_pos hsign, Except.ok.injEq, Json.int.injEq]
      omega
    · rw [if_neg hsign, Json.int.injEq]
      constructor
      · intro h
        cases h
      · intro h
        omega
  | _ => simp [decodeCount]

theorem decodeText_eq_ok_iff {text : String} : decodeText value = .ok text ↔ value = .str text := by
  cases value <;> simp [decodeText]

theorem mapM_decodeText_eq_ok_iff {items : List Json} {texts : List String} :
    items.mapM decodeText = .ok texts ↔ items = texts.map .str := by
  induction items generalizing texts with
  | nil => cases texts <;> simp [pure, Except.pure]
  | cons first rest ih =>
    rw [List.mapM_cons, Except.bind_eq_ok_iff]
    simp only [Except.bind_eq_ok_iff, decodeText_eq_ok_iff, ih]
    cases texts with
    | nil => simp [pure, Except.pure]
    | cons text texts => simp [pure, Except.pure]

theorem decodeTexts_eq_ok_iff {texts : List String} :
    decodeTexts value = .ok texts ↔ value = .arr (texts.map .str) := by
  cases value with
  | arr items =>
    rw [Json.arr.injEq]
    exact mapM_decodeText_eq_ok_iff
  | _ => simp [decodeTexts]

/-! ## Section 2: Groups -/

/-- Whether a key is that of a field. -/
def hasKey {α : Type} (fields : List (Field α)) (key : String) : Bool :=
  fields.any fun field => field.key == key

/-- The members of a group that mean something. -/
def known {α : Type} (fields : List (Field α)) (members : List (String × Json)) :
    List (String × Json) :=
  members.filter fun m => hasKey fields m.1

/-- Keys that mean nothing are passed over. -/
theorem decodeGroup_known {α : Type} (name : String) (fields : List (Field α)) (initial : α)
    (members : List (String × Json)) :
    decodeGroup name fields initial (.obj members) =
      decodeGroup name fields initial (.obj (known fields members)) := by
  unfold decodeGroup
  simp only
  induction members generalizing initial with
  | nil => rfl
  | cons first rest ih =>
    cases hknown : hasKey fields first.1 with
    | true =>
      have hkept : known fields (first :: rest) = first :: known fields rest :=
        List.filter_cons_of_pos hknown
      rw [hkept, List.foldlM_cons, List.foldlM_cons]
      congr 1
      funext group
      exact ih group
    | false =>
      -- no field is found, and the group goes on as it is
      have hdropped : known fields (first :: rest) = known fields rest :=
        List.filter_cons_of_neg (by simp [hknown])
      have hnone : fields.find? (fun field => field.key == first.1) = none := by
        rw [List.find?_eq_none]
        intro field hfield hkey
        have hany : hasKey fields first.1 = true := List.any_eq_true.2 ⟨field, hfield, hkey⟩
        rw [hknown] at hany
        cases hany
      rw [hdropped, List.foldlM_cons]
      simp only [hnone]
      exact ih initial

/-- The members that mean something, where each field has one: they stand in the order of
    the keys. -/
theorem known_eq {α : Type} {fields : List (Field α)} {keys : List String}
    (hkeys : keys.Pairwise (· < ·)) (hfields : (fields.map Field.key).Perm keys)
    {members : List (String × Json)} (hmembers : Json.Ascending members) {value : String → Json}
    (hvalues : ∀ key ∈ keys, Json.member? key members = some (value key)) :
    known fields members = keys.map fun key => (key, value key) := by
  have hknown : ∀ key, hasKey fields key = true ↔ key ∈ keys := by
    intro key
    rw [← hfields.mem_iff]
    simp [hasKey]
  have hlisted : Json.Ascending (keys.map fun key => (key, value key)) := List.pairwise_map.2 hkeys
  apply Json.Ascending.ext (List.Pairwise.filter _ hmembers) hlisted
  intro key
  rw [Json.member?_filter (hasKey fields)]
  split
  · next hfield =>
    have hkey : key ∈ keys := (hknown key).1 hfield
    rw [hvalues key hkey]
    exact (hlisted.member?_of_mem (List.mem_map_of_mem hkey)).symm
  · next hunknown =>
    rw [Json.member?_eq_none_of_forall_ne]
    intro m hm heq
    obtain ⟨key', hkey', rfl⟩ := List.mem_map.1 hm
    exact hunknown ((hknown key).2 (heq ▸ hkey'))

/-- A group in whose members no field is missing is read field by field. -/
theorem decodeGroup_eq {α : Type} {fields : List (Field α)} {keys : List String}
    (hkeys : keys.Pairwise (· < ·)) (hfields : (fields.map Field.key).Perm keys)
    {members : List (String × Json)} (hmembers : Json.Ascending members) {value : String → Json}
    (hvalues : ∀ key ∈ keys, Json.member? key members = some (value key)) (name : String)
    (initial : α) :
    decodeGroup name fields initial (.obj members) = keys.foldlM (fun group key =>
      match fields.find? fun field => field.key == key with
      | some field => field.set group (value key)
      | none => .ok group) initial := by
  rw [decodeGroup_known, known_eq hkeys hfields hmembers hvalues]
  exact List.foldlM_map

section groups

variable {members : List (String × Json)} {value : String → Json}

theorem decodeFeatures_eq_ok_iff (h : Json.Ascending members)
    (hvalues : ∀ key ∈ ["definition", "document_symbols", "hover"],
      Json.member? key members = some (value key)) {group : FeatureSettings} :
    decodeFeatures (.obj members) = .ok group ↔ value "hover" = .bool group.hover ∧
      value "definition" = .bool group.definition ∧
      value "document_symbols" = .bool group.documentSymbols := by
  unfold decodeFeatures
  rw [decodeGroup_eq (by decide +kernel) (by decide +kernel) h hvalues]
  simp only [List.foldlM_cons, List.foldlM_nil, List.find?, String.reduceBEq,
    Except.bind_eq_ok_iff, decodeBool_eq_ok_iff, pure, Except.pure, Except.ok.injEq]
  constructor
  · rintro ⟨_, ⟨_, hdefinition, rfl⟩, _, ⟨_, hsymbols, rfl⟩, _, ⟨_, hhover, rfl⟩, rfl⟩
    exact ⟨hhover, hdefinition, hsymbols⟩
  · rintro ⟨hhover, hdefinition, hsymbols⟩
    exact ⟨_, ⟨_, hdefinition, rfl⟩, _, ⟨_, hsymbols, rfl⟩, _, ⟨_, hhover, rfl⟩, rfl⟩

theorem decodeIndex_eq_ok_iff (h : Json.Ascending members)
    (hvalues : ∀ key ∈ ["max_expansion_depth", "reindex_on_change"],
      Json.member? key members = some (value key)) {group : IndexSettings} :
    decodeIndex (.obj members) = .ok group ↔
      value "max_expansion_depth" = .int group.maxExpansionDepth ∧
      value "reindex_on_change" = .bool group.reindexOnChange := by
  unfold decodeIndex
  rw [decodeGroup_eq (by decide +kernel) (by decide +kernel) h hvalues]
  simp only [List.foldlM_cons, List.foldlM_nil, List.find?, String.reduceBEq,
    Except.bind_eq_ok_iff, decodeBool_eq_ok_iff, decodeCount_eq_ok_iff, pure, Except.pure,
    Except.ok.injEq]
  constructor
  · rintro ⟨_, ⟨_, hdepth, rfl⟩, _, ⟨_, hreindex, rfl⟩, rfl⟩
    exact ⟨hdepth, hreindex⟩
  · rintro ⟨hdepth, hreindex⟩
    exact ⟨_, ⟨_, hdepth, rfl⟩, _, ⟨_, hreindex, rfl⟩, rfl⟩

theorem decodeWorkspace_eq_ok_iff (h : Json.Ascending members)
    (hvalues : ∀ key ∈ ["file_patterns"], Json.member? key members = some (value key))
    {group : WorkspaceSettings} :
    decodeWorkspace (.obj members) = .ok group ↔
      value "file_patterns" = .arr (group.filePatterns.map .str) := by
  unfold decodeWorkspace
  rw [decodeGroup_eq (by decide +kernel) (by decide +kernel) h hvalues]
  simp only [List.foldlM_cons, List.foldlM_nil, List.find?, String.reduceBEq,
    Except.bind_eq_ok_iff, decodeTexts_eq_ok_iff, pure, Except.pure, Except.ok.injEq]
  constructor
  · rintro ⟨_, ⟨_, hpatterns, rfl⟩, rfl⟩
    exact hpatterns
  · intro hpatterns
    exact ⟨_, ⟨_, hpatterns, rfl⟩, rfl⟩

theorem decode_eq_ok_iff (h : Json.Ascending members)
    (hvalues : ∀ key ∈ ["features", "index", "workspace"],
      Json.member? key members = some (value key)) {settings : Settings} :
    decode (.obj members) = .ok settings ↔
      decodeFeatures (value "features") = .ok settings.features ∧
      decodeIndex (value "index") = .ok settings.index ∧
      decodeWorkspace (value "workspace") = .ok settings.workspace := by
  unfold decode
  rw [decodeGroup_eq (by decide +kernel) (by decide +kernel) h hvalues]
  simp only [List.foldlM_cons, List.foldlM_nil, List.find?, String.reduceBEq,
    Except.bind_eq_ok_iff, pure, Except.pure, Except.ok.injEq]
  constructor
  · rintro ⟨_, ⟨_, hfeatures, rfl⟩, _, ⟨_, hindex, rfl⟩, _, ⟨_, hworkspace, rfl⟩, rfl⟩
    exact ⟨hfeatures, hindex, hworkspace⟩
  · rintro ⟨hfeatures, hindex, hworkspace⟩
    exact ⟨_, ⟨_, hfeatures, rfl⟩, _, ⟨_, hindex, rfl⟩, _, ⟨_, hworkspace, rfl⟩, rfl⟩

end groups

end Settings

/-! ## Section 3: Loads -/

namespace SettingsStore

variable {store : SettingsStore} {disk : Disk} {root : FilePath}

theorem load_snd (store : SettingsStore) (disk : Disk) (root : FilePath) :
    (store.load disk root).2 = store.resolve disk root := by
  unfold load
  split
  · next heq => exact heq.symm
  · next heq => exact heq.symm

/-- A load that succeeds changes the current settings. -/
theorem load_of_ok {settings : Settings} (h : (store.load disk root).2 = .ok settings) :
    store.load disk root = ({ store with current := settings }, .ok settings) := by
  rw [load_snd] at h
  unfold load
  rw [h]

/-- A load that fails changes nothing. -/
theorem load_of_error {cause : LoadError} (h : (store.load disk root).2 = .error cause) :
    store.load disk root = (store, .error cause) := by
  rw [load_snd] at h
  unfold load
  rw [h]

end SettingsStore

/-- A workspace whose settings file has a given content. -/
def settingsDisk (content : String) : Disk where
  nodes := [([Utf8.encode "w"], .directory),
    ([Utf8.encode "w", Utf8.encode Settings.fileName], .file (Utf8.encode content))]
  workingPlace := [Utf8.encode "w"]

end MakeLens
