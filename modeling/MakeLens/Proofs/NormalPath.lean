import MakeLens.Path
import MakeLens.Disk

/-! # Normal paths

    A path is normal when it is what `normalize` would make of it. Normal paths
    are spelled in one way only: an optional root, then proper names with one
    separator between them. From this follow

    * `normalize_normalize`: normalising twice is normalising once;
    * every path under which the index looks a file up (`absolute`,
      `resolveInclude`) is normal.
-/

namespace MakeLens

/-! ## Section 1: Pieces and spelling -/

theorem pieces_ne_nil {α : Type} [DecidableEq α] (separator : α) (text : List α) :
    pieces separator text ≠ [] := by
  cases text with
  | nil => simp [pieces]
  | cons a rest =>
    unfold pieces
    split
    · simp
    · split <;> simp

/-- Text without the separator goes to the front of the first piece. -/
theorem pieces_append {α : Type} [DecidableEq α] {separator : α} {front : List α}
    (h : separator ∉ front) {rest first : List α} {others : List (List α)}
    (hrest : pieces separator rest = first :: others) :
    pieces separator (front ++ rest) = (front ++ first) :: others := by
  induction front with
  | nil => exact hrest
  | cons a front ih =>
    have hne : a ≠ separator := fun ha => h (ha ▸ List.mem_cons_self)
    have hfront : separator ∉ front := fun hm => h (List.mem_cons_of_mem _ hm)
    rw [List.cons_append, pieces, if_neg hne, ih hfront, List.cons_append]

theorem separator_not_mem_of_mem_pieces {α : Type} [DecidableEq α] {separator : α}
    {text piece : List α} (h : piece ∈ pieces separator text) : separator ∉ piece := by
  induction text generalizing piece with
  | nil =>
    have hnil : piece = [] := by simpa [pieces] using h
    rw [hnil]
    exact List.not_mem_nil
  | cons a rest ih =>
    unfold pieces at h
    split at h
    · rcases List.mem_cons.1 h with rfl | h
      · exact List.not_mem_nil
      · exact ih h
    · next hne =>
      split at h
      · have hsingle : piece = [a] := by simpa using h
        rw [hsingle]
        exact fun hm => hne (List.mem_singleton.1 hm).symm
      · next first others heq =>
        rw [heq] at ih
        rcases List.mem_cons.1 h with rfl | h
        · intro hm
          rcases List.mem_cons.1 hm with hm | hm
          · exact hne hm.symm
          · exact ih (List.mem_cons_self) hm
        · exact ih (List.mem_cons_of_mem _ h)

namespace FilePath

/-- Cutting what was spelled gives the pieces back. -/
theorem pieces_spell {names : List (List UInt8)} (hne : names ≠ [])
    (hsep : ∀ n ∈ names, slash ∉ n) : pieces slash (spell names) = names := by
  induction names with
  | nil => exact absurd rfl hne
  | cons name rest ih =>
    have hname : slash ∉ name := hsep name List.mem_cons_self
    cases rest with
    | nil =>
      have hcut : pieces slash ([] : List UInt8) = [[]] := rfl
      have hspell : pieces slash (name ++ []) = [name ++ []] := pieces_append hname hcut
      rw [List.append_nil] at hspell
      exact hspell
    | cons next rest =>
      have hrest : pieces slash (spell (next :: rest)) = next :: rest :=
        ih (by simp) fun n hn => hsep n (List.mem_cons_of_mem _ hn)
      have hcut : pieces slash (slash :: spell (next :: rest)) = [] :: next :: rest := by
        rw [pieces, if_pos rfl, hrest]
      rw [spell, pieces_append hname hcut, List.append_nil]
      simp

/-! ## Section 2: Proper names and normal component lists -/

/-- A piece between separators that counts as a component. -/
structure IsPiece (bytes : List UInt8) : Prop where
  ne_nil : bytes ≠ []
  ne_current : bytes ≠ [dot]
  slash_not_mem : slash ∉ bytes

/-- A name that can stand between separators and mean itself. -/
structure IsName (bytes : List UInt8) : Prop where
  ne_nil : bytes ≠ []
  ne_current : bytes ≠ [dot]
  ne_parent : bytes ≠ [dot, dot]
  slash_not_mem : slash ∉ bytes

theorem IsName.isPiece {bytes : List UInt8} (h : IsName bytes) : IsPiece bytes :=
  ⟨h.ne_nil, h.ne_current, h.slash_not_mem⟩

theorem innerComponent?_of_isName {bytes : List UInt8} (h : IsName bytes) :
    innerComponent? bytes = some (.name bytes) := by
  unfold innerComponent?
  rw [if_neg (not_or.2 ⟨h.ne_nil, h.ne_current⟩), if_neg h.ne_parent]

theorem filterMap_innerComponent? {names : List (List UInt8)} (h : ∀ n ∈ names, IsName n) :
    names.filterMap innerComponent? = names.map Component.name := by
  induction names with
  | nil => rfl
  | cons name rest ih =>
    rw [List.filterMap_cons, innerComponent?_of_isName (h name List.mem_cons_self), List.map_cons,
      ih fun n hn => h n (List.mem_cons_of_mem _ hn)]

/-- The components of a normal path: names, after the root or without it. -/
def NormalComponents (components : List Component) : Prop :=
  ∃ names : List (List UInt8), (∀ n ∈ names, IsName n) ∧
    (components = names.map .name ∨ components = .root :: names.map .name)

theorem map_bytes_name (names : List (List UInt8)) :
    (names.map Component.name).map Component.bytes = names := by
  rw [List.map_map]
  exact List.map_id names

theorem ofComponents_names (names : List (List UInt8)) :
    ofComponents (names.map .name) = ⟨spell names⟩ := by
  cases names with
  | nil => rfl
  | cons name rest =>
    show FilePath.mk (spell (((name :: rest).map Component.name).map Component.bytes)) = _
    rw [map_bytes_name]

theorem ofComponents_root_names (names : List (List UInt8)) :
    ofComponents (.root :: names.map .name) = ⟨slash :: spell names⟩ := by
  show FilePath.mk (slash :: spell ((names.map Component.name).map Component.bytes)) = _
  rw [map_bytes_name]

/-- A spelling that begins with a piece does not start at the root. -/
theorem isAbsolute_spell_cons {piece : List UInt8} (hne : piece ≠ []) (hslash : slash ∉ piece)
    (rest : List (List UInt8)) : (FilePath.mk (spell (piece :: rest))).isAbsolute = false := by
  -- the first byte is one of the first piece
  obtain ⟨b, bs, rfl⟩ := List.exists_cons_of_ne_nil hne
  have hb : b ≠ slash := fun hb => hslash (hb ▸ List.mem_cons_self)
  have hhead : (spell ((b :: bs) :: rest)).head? = some b := by
    cases rest <;> rfl
  unfold isAbsolute
  rw [hhead]
  simpa using hb

/-- A spelling of names alone does not start at the root. -/
theorem isAbsolute_spell {names : List (List UInt8)} (h : ∀ n ∈ names, IsName n) :
    (FilePath.mk (spell names)).isAbsolute = false := by
  cases names with
  | nil => rfl
  | cons name rest =>
    have hname := h name List.mem_cons_self
    exact isAbsolute_spell_cons hname.ne_nil hname.slash_not_mem rest

/-- The components that pieces spell out. -/
theorem components_spell_pieces {found : List (List UInt8)} (h : ∀ p ∈ found, IsPiece p) :
    (FilePath.mk (spell found)).components = found.filterMap innerComponent? := by
  cases found with
  | nil => rfl
  | cons piece rest =>
    have hpiece := h piece List.mem_cons_self
    unfold components
    rw [isAbsolute_spell_cons hpiece.ne_nil hpiece.slash_not_mem,
      pieces_spell (by simp) fun p hp => (h p hp).slash_not_mem]
    simp [hpiece.ne_current]

theorem components_slash_spell_pieces {found : List (List UInt8)} (h : ∀ p ∈ found, IsPiece p) :
    (FilePath.mk (slash :: spell found)).components =
      .root :: found.filterMap innerComponent? := by
  have habs : (FilePath.mk (slash :: spell found)).isAbsolute = true := rfl
  have hcut : pieces slash (slash :: spell found) = [] :: pieces slash (spell found) := by
    rw [pieces, if_pos rfl]
  have hinner : (pieces slash (spell found)).filterMap innerComponent? =
      found.filterMap innerComponent? := by
    cases found with
    | nil => rfl
    | cons piece rest => rw [pieces_spell (by simp) fun p hp => (h p hp).slash_not_mem]
  have hempty : innerComponent? [] = none := rfl
  unfold components
  rw [habs, hcut]
  simp [hempty, hinner]

theorem components_spell {names : List (List UInt8)} (h : ∀ n ∈ names, IsName n) :
    (FilePath.mk (spell names)).components = names.map .name := by
  rw [components_spell_pieces fun n hn => (h n hn).isPiece, filterMap_innerComponent? h]

theorem components_slash_spell {names : List (List UInt8)} (h : ∀ n ∈ names, IsName n) :
    (FilePath.mk (slash :: spell names)).components = .root :: names.map .name := by
  rw [components_slash_spell_pieces fun n hn => (h n hn).isPiece, filterMap_innerComponent? h]

/-- Normal components survive being spelled out and read again. -/
theorem components_ofComponents {cs : List Component} (h : NormalComponents cs) :
    (ofComponents cs).components = cs := by
  obtain ⟨names, hnames, rfl | rfl⟩ := h
  · rw [ofComponents_names, components_spell hnames]
  · rw [ofComponents_root_names, components_slash_spell hnames]

/-! ## Section 3: Resolving keeps the stack normal

    The stack is the reversed normal form of what was read so far. Past the start
    of a path only names and `..` follow, so one step either puts a proper name on
    the stack or takes one away. -/

/-- What a component past the start of a path can be. -/
def InnerComponent (c : Component) : Prop :=
  c = .parent ∨ ∃ bytes, IsName bytes ∧ c = .name bytes

theorem innerComponent_of_mem_pieces {text piece : List UInt8} {c : Component}
    (hpiece : piece ∈ pieces slash text) (hc : innerComponent? piece = some c) :
    InnerComponent c := by
  unfold innerComponent? at hc
  split at hc
  · simp at hc
  · next hempty =>
    split at hc
    · left
      exact (Option.some.inj hc).symm
    · next hparent =>
      right
      refine ⟨piece, ⟨?_, ?_, hparent, separator_not_mem_of_mem_pieces hpiece⟩,
        (Option.some.inj hc).symm⟩
      · exact fun hnil => hempty (Or.inl hnil)
      · exact fun hdot => hempty (Or.inr hdot)

/-- Every path is a start followed by inner components. -/
theorem components_eq (path : FilePath) :
    ∃ start inner, path.components = start ++ inner ∧
      (start = [] ∨ start = [.root] ∨ start = [.current]) ∧ ∀ c ∈ inner, InnerComponent c := by
  unfold components
  cases hcut : pieces slash path.bytes with
  | nil => exact absurd hcut (pieces_ne_nil _ _)
  | cons first rest =>
    refine ⟨_, _, rfl, ?_, ?_⟩
    · split
      · exact Or.inr (Or.inl rfl)
      · split
        · exact Or.inr (Or.inr rfl)
        · exact Or.inl rfl
    · intro c hc
      obtain ⟨piece, hpiece, hinner⟩ := List.mem_filterMap.1 hc
      exact innerComponent_of_mem_pieces (hcut ▸ hpiece) hinner

/-- A stack of proper names, above the root or without it. -/
def NormalStack (stack : List Component) : Prop :=
  ∃ names : List (List UInt8), (∀ n ∈ names, IsName n) ∧
    (stack = names.map .name ∨ stack = names.map .name ++ [.root])

theorem resolveStep_normal {stack : List Component} {c : Component} (h : NormalStack stack)
    (hc : InnerComponent c) : NormalStack (resolveStep stack c) := by
  obtain ⟨names, hnames, hstack⟩ := h
  rcases hc with rfl | ⟨bytes, hbytes, rfl⟩
  · cases names with
    | nil =>
      -- no name to take away: the stack is empty or holds the root alone
      rcases hstack with rfl | rfl
      · exact ⟨[], hnames, Or.inl rfl⟩
      · exact ⟨[], hnames, Or.inr rfl⟩
    | cons name names =>
      have hbelow : ∀ n ∈ names, IsName n := fun n hn => hnames n (List.mem_cons_of_mem _ hn)
      rcases hstack with rfl | rfl
      · exact ⟨names, hbelow, Or.inl rfl⟩
      · exact ⟨names, hbelow, Or.inr rfl⟩
  · -- a name goes on top of the others
    have hall : ∀ n ∈ bytes :: names, IsName n := by
      intro n hn
      rcases List.mem_cons.1 hn with rfl | hn
      · exact hbytes
      · exact hnames n hn
    rcases hstack with rfl | rfl
    · exact ⟨bytes :: names, hall, Or.inl rfl⟩
    · exact ⟨bytes :: names, hall, Or.inr rfl⟩

theorem foldl_resolveStep_normal {inner stack : List Component} (h : NormalStack stack)
    (hinner : ∀ c ∈ inner, InnerComponent c) : NormalStack (inner.foldl resolveStep stack) := by
  induction inner generalizing stack with
  | nil => exact h
  | cons c rest ih =>
    rw [List.foldl_cons]
    apply ih
    · exact resolveStep_normal h (hinner c List.mem_cons_self)
    · exact fun d hd => hinner d (List.mem_cons_of_mem _ hd)

theorem NormalStack.reverse {stack : List Component} (h : NormalStack stack) :
    NormalComponents stack.reverse := by
  obtain ⟨names, hnames, hstack⟩ := h
  refine ⟨names.reverse, fun n hn => hnames n (List.mem_reverse.1 hn), ?_⟩
  rcases hstack with rfl | rfl
  · left
    rw [List.map_reverse]
  · right
    rw [List.reverse_append, List.map_reverse]
    rfl

/-- The stack that a path leaves is normal. -/
theorem normalComponents_resolved (path : FilePath) :
    NormalComponents (path.components.foldl resolveStep []).reverse := by
  obtain ⟨start, inner, hsplit, hstart, hinner⟩ := path.components_eq
  -- the root stays on the stack, a leading `.` leaves it empty
  have hfirst : NormalStack (start.foldl resolveStep []) := by
    rcases hstart with rfl | rfl | rfl
    · exact ⟨[], by simp, Or.inl rfl⟩
    · exact ⟨[], by simp, Or.inr rfl⟩
    · exact ⟨[], by simp, Or.inl rfl⟩
  rw [hsplit, List.foldl_append]
  exact (foldl_resolveStep_normal hfirst hinner).reverse

/-- What `normalize` spells out is normal. -/
theorem exists_normalComponents (path : FilePath) :
    ∃ cs, NormalComponents cs ∧ path.normalize = ofComponents cs :=
  ⟨_, path.normalComponents_resolved, rfl⟩

/-- Names pile up on the stack. -/
theorem foldl_resolveStep_names (names : List (List UInt8)) (stack : List Component) :
    (names.map Component.name).foldl resolveStep stack =
      (names.map Component.name).reverse ++ stack := by
  induction names generalizing stack with
  | nil => rfl
  | cons name rest ih =>
    rw [List.map_cons, List.foldl_cons, ih, List.reverse_cons, List.append_assoc]
    rfl

/-- Normal components pass through the stack unchanged. -/
theorem foldl_resolveStep_of_normal {cs : List Component} (h : NormalComponents cs) :
    cs.foldl resolveStep [] = cs.reverse := by
  obtain ⟨names, -, rfl | rfl⟩ := h
  · rw [foldl_resolveStep_names, List.append_nil]
  · rw [List.foldl_cons, foldl_resolveStep_names, List.reverse_cons]
    rfl

theorem normalize_ofComponents {cs : List Component} (h : NormalComponents cs) :
    (ofComponents cs).normalize = ofComponents cs := by
  unfold normalize
  rw [components_ofComponents h, foldl_resolveStep_of_normal h, List.reverse_reverse]

/-! ## Section 4: Normal paths -/

/-- A path in the form under which the index stores it. -/
def IsNormal (path : FilePath) : Prop :=
  path.normalize = path

/-- Normalising twice is normalising once. -/
theorem normalize_normalize (path : FilePath) : path.normalize.normalize = path.normalize := by
  obtain ⟨cs, hcs, heq⟩ := path.exists_normalComponents
  rw [heq]
  exact normalize_ofComponents hcs

theorem isNormal_absolute (workingDirectory? : Option FilePath) (path : FilePath) :
    (absolute workingDirectory? path).IsNormal := by
  unfold absolute
  split
  · exact normalize_normalize _
  · split
    · exact normalize_normalize _
    · exact normalize_normalize _

theorem isNormal_resolveInclude (including : FilePath) (target : String) :
    (including.resolveInclude target).IsNormal := by
  unfold resolveInclude
  simp only
  split
  · exact normalize_normalize _
  · exact normalize_normalize _

/-- A normal path is spelled from proper names, with or without the root. -/
theorem IsNormal.exists_names {path : FilePath} (h : path.IsNormal) :
    ∃ names : List (List UInt8), (∀ n ∈ names, IsName n) ∧
      (path = ⟨spell names⟩ ∨ path = ⟨slash :: spell names⟩) := by
  obtain ⟨cs, ⟨names, hnames, hcs⟩, heq⟩ := path.exists_normalComponents
  refine ⟨names, hnames, ?_⟩
  rw [← h, heq]
  rcases hcs with rfl | rfl
  · left
    exact ofComponents_names names
  · right
    exact ofComponents_root_names names

end FilePath

theorem Disk.isNormal_absolute (disk : Disk) (path : FilePath) : (disk.absolute path).IsNormal :=
  FilePath.isNormal_absolute _ _

end MakeLens
