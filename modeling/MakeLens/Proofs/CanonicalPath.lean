import Mathlib.Data.List.Induction
import Mathlib.Logic.Relation
import MakeLens.Proofs.AbsolutePath
import MakeLens.Proofs.PhysicalLines

/-! # The normal form as a canonical form

    Reading a path is a walk with a stack: a name goes on top, a `..` takes away the name on
    top, and where there is none it is lost. To walk over two paths joined together is to walk
    over the first and then over the second, and a path leaves the same stack as its normal
    form. So a path can be made normal before another one is joined to it, or after.

    Pieces of a path are idle when they leave every stack as it is: an empty piece, a `.`, and
    a name that a `..` takes back. Up to idle pieces every path is a number of `..`, followed
    by names, and its normal form keeps the names.
-/

namespace MakeLens

/-! ## Section 1: The bytes of a text -/

theorem Utf8.toList_loop (bytes : ByteArray) (i : Nat) (before : List UInt8) :
    ByteArray.toList.loop bytes i before = before.reverse ++ bytes.data.toList.drop i := by
  fun_induction ByteArray.toList.loop bytes i before with
  | case1 i before hlt ih =>
    have hi : i < bytes.data.size := hlt
    have hdrop : bytes.data.toList.drop i = bytes.get! i :: bytes.data.toList.drop (i + 1) := by
      rw [List.drop_eq_getElem_cons (by simpa using hi), Array.getElem_toList]
      exact congrArg (· :: _) (getElem!_pos bytes.data i hi).symm
    rw [ih, hdrop, List.reverse_cons, List.append_assoc]
    rfl
  | case2 i before hge =>
    have hend : bytes.data.toList.length ≤ i := by simpa using hge
    rw [List.drop_eq_nil_of_le hend, List.append_nil]

theorem Utf8.encode_append (front rest : String) :
    encode (front ++ rest) = encode front ++ encode rest := by
  have hdata : ∀ text : String, encode text = text.toUTF8.data.toList := by
    intro text
    unfold encode ByteArray.toList
    rw [Utf8.toList_loop]
    rfl
  rw [hdata, hdata, hdata]
  simp

namespace FilePath

theorem ofString_slash (front rest : String) :
    (ofString (front ++ "/" ++ rest)).bytes =
      (ofString front).bytes ++ slash :: (ofString rest).bytes := by
  show Utf8.encode (front ++ "/" ++ rest) = Utf8.encode front ++ slash :: Utf8.encode rest
  have hslash : Utf8.encode "/" = [slash] := by decide +kernel
  rw [Utf8.encode_append, Utf8.encode_append, hslash, List.append_assoc]
  rfl

/-! ## Section 2: Walking over pieces -/

/-- The stack after some pieces of a path. -/
def walk (stack : List Component) (found : List (List UInt8)) : List Component :=
  (found.filterMap innerComponent?).foldl resolveStep stack

/-- The stack before the first piece: the root alone, or nothing. -/
def base (path : FilePath) : List Component :=
  if path.isAbsolute then [.root] else []

/-- The stack that a path leaves. -/
def stack (path : FilePath) : List Component :=
  path.components.foldl resolveStep []

theorem base_eq (path : FilePath) : path.base = [.root] ∨ path.base = [] := by
  unfold base
  split
  · exact Or.inl rfl
  · exact Or.inr rfl

theorem walk_append (stack : List Component) (front rest : List (List UInt8)) :
    walk stack (front ++ rest) = walk (walk stack front) rest := by
  unfold walk
  rw [List.filterMap_append, List.foldl_append]

theorem walk_names {names : List (List UInt8)} (h : ∀ n ∈ names, IsName n)
    (stack : List Component) :
    walk stack names = (names.map Component.name).reverse ++ stack := by
  unfold walk
  rw [filterMap_innerComponent? h, foldl_resolveStep_names]

theorem walk_name {name : List UInt8} (h : IsName name) (stack : List Component) :
    walk stack [name] = .name name :: stack :=
  walk_names (by simpa using h) stack

/-- A `..` below all names is lost. -/
theorem walk_climbs (path : FilePath) (climbs : Nat) :
    walk path.base (List.replicate climbs [dot, dot]) = path.base := by
  have hone : walk path.base [[dot, dot]] = path.base := by
    rcases path.base_eq with hbase | hbase
    · rw [hbase]
      rfl
    · rw [hbase]
      rfl
  induction climbs with
  | zero => rfl
  | succ climbs ih =>
    rw [List.replicate_succ, ← List.singleton_append, walk_append, hone, ih]

theorem stack_eq_walk (path : FilePath) :
    path.stack = walk path.base (pieces slash path.bytes) := by
  unfold stack components base
  cases hcut : pieces slash path.bytes with
  | nil => exact absurd hcut (pieces_ne_nil _ _)
  | cons first rest =>
    show List.foldl resolveStep [] (_ ++ _) = List.foldl resolveStep _ _
    rw [List.foldl_append]
    congr 1
    -- the root goes on the stack, a leading `.` leaves it empty
    split
    · rfl
    · split
      · rfl
      · rfl

/-! ## Section 3: Idle pieces -/

/-- Pieces that lead back to where they start. -/
inductive Idle : List (List UInt8) → Prop where
  | empty : Idle [[]]
  | current : Idle [[dot]]
  | detour {name : List UInt8} : IsName name → Idle [name, [dot, dot]]

/-- The second list has the pieces of the first without some idle ones. -/
inductive Skips : List (List UInt8) → List (List UInt8) → Prop where
  | idle (front : List (List UInt8)) {middle : List (List UInt8)} (rest : List (List UInt8)) :
      Idle middle → Skips (front ++ middle ++ rest) (front ++ rest)

/-- Pieces that differ by idle ones, wherever and however many. -/
def SameWay : List (List UInt8) → List (List UInt8) → Prop :=
  Relation.EqvGen Skips

theorem walk_idle {found : List (List UInt8)} (h : Idle found) (stack : List Component) :
    walk stack found = stack := by
  cases h with
  | empty => rfl
  | current => rfl
  | detour hname =>
    rw [← List.singleton_append, walk_append, walk_name hname]
    rfl

/-- Pieces that differ by idle ones do the same to every stack. -/
theorem SameWay.walk_eq {found found' : List (List UInt8)} (h : SameWay found found')
    (stack : List Component) : walk stack found = walk stack found' := by
  induction h with
  | rel _ _ hskips =>
    obtain ⟨front, rest, hidle⟩ := hskips
    rw [walk_append, walk_append, walk_idle hidle, walk_append]
  | refl => rfl
  | symm _ _ _ ih => exact ih.symm
  | trans _ _ _ _ _ ih ih' => exact ih.trans ih'

theorem SameWay.trans {found found' found'' : List (List UInt8)} (h : SameWay found found')
    (h' : SameWay found' found'') : SameWay found found'' :=
  Relation.EqvGen.trans _ _ _ h h'

theorem SameWay.of_idle (front : List (List UInt8)) {middle : List (List UInt8)}
    (h : Idle middle) : SameWay (front ++ middle) front := by
  have hskips := Skips.idle front [] h
  rw [List.append_nil, List.append_nil] at hskips
  exact .rel _ _ hskips

theorem SameWay.append_right {found found' : List (List UInt8)} (h : SameWay found found')
    (rest : List (List UInt8)) : SameWay (found ++ rest) (found' ++ rest) := by
  induction h with
  | rel _ _ hskips =>
    obtain ⟨front, behind, hidle⟩ := hskips
    have hskips := Skips.idle front (behind ++ rest) hidle
    rw [← List.append_assoc, ← List.append_assoc] at hskips
    exact .rel _ _ hskips
  | refl => exact .refl _
  | symm _ _ _ ih => exact .symm _ _ ih
  | trans _ _ _ _ _ ih ih' => exact ih.trans ih'

/-- Up to idle pieces there is first a number of `..`, then names alone. -/
theorem exists_sameWay {found : List (List UInt8)} (h : ∀ piece ∈ found, slash ∉ piece) :
    ∃ climbs names, (∀ n ∈ names, IsName n) ∧
      SameWay found (List.replicate climbs [dot, dot] ++ names) := by
  -- piece by piece from the left: what was read so far has this form already
  induction found using List.reverseRecOn with
  | nil => exact ⟨0, [], by simp, .refl _⟩
  | append_singleton front piece ih =>
    obtain ⟨climbs, names, hnames, hfront⟩ := ih fun p hp => h p (List.mem_append_left _ hp)
    have hpiece : slash ∉ piece := h piece (by simp)
    have hall := hfront.append_right [piece]
    by_cases hidle : Idle [piece]
    · exact ⟨climbs, names, hnames, hall.trans (SameWay.of_idle _ hidle)⟩
    · by_cases hparent : piece = [dot, dot]
      · subst hparent
        rcases List.eq_nil_or_concat names with rfl | ⟨others, last, rfl⟩
        · -- nothing to take back: one more `..` in front
          refine ⟨climbs + 1, [], hnames, ?_⟩
          rw [List.append_nil] at hall ⊢
          rw [List.replicate_succ']
          exact hall
        · -- the last name is taken back
          have hlast : IsName last := hnames last (by simp)
          have hback := SameWay.of_idle (List.replicate climbs [dot, dot] ++ others)
            (Idle.detour hlast)
          refine ⟨climbs, others, fun n hn => hnames n (by simp [hn]), hall.trans ?_⟩
          simpa using hback
      · -- one more name
        have hname : IsName piece := by
          refine ⟨?_, ?_, hparent, hpiece⟩
          · rintro rfl
            exact hidle .empty
          · rintro rfl
            exact hidle .current
        refine ⟨climbs, names ++ [piece], ?_, ?_⟩
        · intro n hn
          rcases List.mem_append.1 hn with hn | hn
          · exact hnames n hn
          · rw [List.mem_singleton.1 hn]
            exact hname
        · rw [← List.append_assoc]
          exact hall

/-! ## Section 4: The stack of a path -/

/-- The stack holds the names that the path has up to idle pieces and `..` in front. -/
theorem stack_eq_names (path : FilePath) :
    ∃ climbs names, (∀ n ∈ names, IsName n) ∧
      SameWay (pieces slash path.bytes) (List.replicate climbs [dot, dot] ++ names) ∧
      path.stack = (names.map Component.name).reverse ++ path.base := by
  have hsep : ∀ piece ∈ pieces slash path.bytes, slash ∉ piece :=
    fun _ hpiece => separator_not_mem_of_mem_pieces hpiece
  obtain ⟨climbs, names, hnames, hsame⟩ := exists_sameWay hsep
  refine ⟨climbs, names, hnames, hsame, ?_⟩
  rw [stack_eq_walk, hsame.walk_eq, walk_append, walk_climbs, walk_names hnames]

theorem normalize_eq (path : FilePath) : path.normalize = ofComponents path.stack.reverse := rfl

theorem components_normalize (path : FilePath) : path.normalize.components = path.stack.reverse :=
  components_ofComponents path.normalComponents_resolved

/-- A path and its normal form leave the same stack. -/
theorem stack_normalize (path : FilePath) : path.normalize.stack = path.stack := by
  unfold stack
  rw [components_normalize, stack, foldl_resolveStep_of_normal path.normalComponents_resolved,
    List.reverse_reverse]

theorem isAbsolute_normalize_eq (path : FilePath) :
    path.normalize.isAbsolute = path.isAbsolute := by
  by_cases h : path.isAbsolute = true
  · rw [isAbsolute_normalize h, h]
  · -- nothing but names is spelled out
    obtain ⟨-, names, hnames, -, hstack⟩ := path.stack_eq_names
    have hbase : path.base = [] := if_neg h
    rw [normalize_eq, hstack, hbase, List.append_nil, List.reverse_reverse, ofComponents_names,
      isAbsolute_spell hnames]
    simpa using h

/-! ## Section 5: Joining -/

section joining

variable {path : FilePath} (hpath : path.isAbsolute = false)
include hpath

theorem base_join (front : FilePath) : (front.join path).base = front.base := by
  have habsolute : (front.join path).isAbsolute = front.isAbsolute := by
    obtain ⟨bytes⟩ := front
    unfold join
    rw [hpath]
    cases bytes with
    | nil => exact hpath
    | cons b rest =>
      -- the first byte stays where it is
      simp only [Bool.false_or, List.isEmpty_cons, Bool.false_eq_true, if_false]
      split
      · rfl
      · rfl
  unfold base
  rw [habsolute]

/-- To walk over two paths joined together is to walk over one after the other. -/
theorem walk_join (stack : List Component) (front : FilePath) :
    walk stack (pieces slash (front.join path).bytes) =
      walk (walk stack (pieces slash front.bytes)) (pieces slash path.bytes) := by
  unfold join
  by_cases hempty : front.bytes = []
  · -- the empty path has one empty piece
    rw [if_pos (by simp [hempty]), hempty]
    rfl
  · rw [if_neg (by simpa [hpath] using hempty)]
    split
    · next hslash =>
      -- the separator at the end of the first path is the one between the two
      obtain ⟨bytes, hbytes⟩ : ∃ bytes, front.bytes = bytes ++ [slash] :=
        List.getLast?_eq_some_iff.1 (by simpa using hslash)
      have hidle : walk (walk stack (pieces slash bytes)) [[]] = walk stack (pieces slash bytes) :=
        walk_idle .empty _
      rw [hbytes, List.append_assoc, List.singleton_append, pieces_append_separator, walk_append,
        pieces_append_separator, walk_append]
      exact congrArg (walk · _) hidle.symm
    · rw [pieces_append_separator, walk_append]

theorem stack_join (front : FilePath) :
    (front.join path).stack = walk front.stack (pieces slash path.bytes) := by
  rw [stack_eq_walk, base_join hpath, walk_join hpath, ← stack_eq_walk]

end joining

/-! ## Section 6: Include targets -/

/-- Where an include target starts from. -/
def includeBase (including : FilePath) (target : String) : List Component :=
  if (ofString target).isAbsolute then [.root] else (including.parent?.getD ⟨[]⟩).stack

theorem stack_resolveInclude (including : FilePath) (target : String) :
    (including.resolveInclude target).stack =
      walk (including.includeBase target) (pieces slash (ofString target).bytes) := by
  unfold resolveInclude includeBase
  by_cases h : (ofString target).isAbsolute = true
  · have hbase : (ofString target).base = [.root] := if_pos h
    simp only [if_pos h]
    rw [stack_normalize, stack_eq_walk, hbase]
  · simp only [if_neg h]
    rw [stack_normalize, stack_join (by simpa using h)]

theorem IsNormal.eq_of_stack {path path' : FilePath} (h : path.IsNormal) (h' : path'.IsNormal)
    (hstack : path.stack = path'.stack) : path = path' := by
  rw [← h, ← h', normalize_eq, normalize_eq, hstack]

/-- A normal path that ends with a name lies in the directory of what is below the name. -/
theorem IsNormal.parent?_of_stack {path directory : FilePath} {name : List UInt8}
    (h : path.IsNormal) (hdirectory : directory.IsNormal)
    (hstack : path.stack = .name name :: directory.stack) : path.parent? = some directory := by
  have hcomponents : path.components = directory.stack.reverse ++ [.name name] := by
    rw [← h, components_normalize, hstack, List.reverse_cons]
  unfold parent?
  rw [hcomponents, List.getLast?_concat, List.dropLast_concat]
  exact congrArg some hdirectory

section split

variable {front rest : String} (h : (ofString (front ++ "/" ++ rest)).isAbsolute = false)
include h

/-- Whether a target is absolute is seen before its first separator. -/
theorem isAbsolute_slash (other : String) :
    (ofString (front ++ "/" ++ other)).isAbsolute = false ∧
      (ofString front).isAbsolute = false := by
  unfold isAbsolute at h ⊢
  rw [ofString_slash] at h ⊢
  cases hbytes : (ofString front).bytes with
  | nil =>
    -- the separator would be the first byte
    rw [hbytes] at h
    cases h
  | cons b bytes =>
    rw [hbytes] at h
    exact ⟨h, h⟩

/-- To resolve a target is to resolve its front, and to go on from there. -/
theorem stack_resolveInclude_slash (including : FilePath) :
    (including.resolveInclude (front ++ "/" ++ rest)).stack =
      walk (including.resolveInclude front).stack (pieces slash (ofString rest).bytes) := by
  have hbase : including.includeBase (front ++ "/" ++ rest) = including.includeBase front := by
    unfold includeBase
    rw [h, (isAbsolute_slash h rest).2]
  rw [stack_resolveInclude, stack_resolveInclude, hbase, ofString_slash, pieces_append_separator,
    walk_append]

theorem parent?_resolveInclude (including : FilePath) (hname : IsName (ofString rest).bytes) :
    (including.resolveInclude (front ++ "/" ++ rest)).parent? =
      some (including.resolveInclude front) := by
  have hpiece : pieces slash (ofString rest).bytes = [(ofString rest).bytes] :=
    @pieces_spell [_] (by simp) (by simpa using hname.slash_not_mem)
  have hstack := stack_resolveInclude_slash h including
  rw [hpiece, walk_name hname] at hstack
  exact (isNormal_resolveInclude _ _).parent?_of_stack (isNormal_resolveInclude _ _) hstack

theorem resolveInclude_slash (including : FilePath) {file : FilePath}
    (hfile : file.parent? = some (including.resolveInclude front))
    (hrest : (ofString rest).isAbsolute = false) :
    file.resolveInclude rest = including.resolveInclude (front ++ "/" ++ rest) := by
  have hbase : file.includeBase rest = (including.resolveInclude front).stack := by
    unfold includeBase
    rw [hrest, hfile]
    rfl
  refine (isNormal_resolveInclude _ _).eq_of_stack (isNormal_resolveInclude _ _) ?_
  rw [stack_resolveInclude, hbase, stack_resolveInclude_slash h]

end split

/-- Spellings of a target that differ by idle pieces mean one file. -/
theorem resolveInclude_congr (including : FilePath) {target target' : String}
    (habsolute : (ofString target).isAbsolute = (ofString target').isAbsolute)
    (h : SameWay (pieces slash (ofString target).bytes) (pieces slash (ofString target').bytes)) :
    including.resolveInclude target = including.resolveInclude target' := by
  have hbase : including.includeBase target = including.includeBase target' := by
    unfold includeBase
    rw [habsolute]
  refine (isNormal_resolveInclude _ _).eq_of_stack (isNormal_resolveInclude _ _) ?_
  rw [stack_resolveInclude, stack_resolveInclude, hbase, h.walk_eq]

/-! ## Section 7: The canonical form -/

/-- The normal form of a path.
    1. It has no `.` and no `..`, is absolute where the path is, and is its own normal form. Its
       names are those that the path has, up to idle pieces, behind a number of `..`.
    2. A relative path can be joined to a path or to its normal form.
    3. To resolve a relative target `front/rest` is to resolve `rest`, where it is relative
       itself, from any file of the directory that `front` resolves to. There are such files.
    4. Targets that differ by idle pieces resolve to one path. -/
theorem normalize_canonical (path including : FilePath) :
    ((Component.current ∉ path.normalize.components ∧ .parent ∉ path.normalize.components) ∧
      path.normalize.isAbsolute = path.isAbsolute ∧ path.normalize.normalize = path.normalize ∧
      ∃ climbs names, (∀ n ∈ names, IsName n) ∧
        SameWay (pieces slash path.bytes) (List.replicate climbs [dot, dot] ++ names) ∧
        path.normalize.components = path.base ++ names.map .name) ∧
    (∀ other : FilePath, other.isAbsolute = false →
      (path.join other).normalize = (path.normalize.join other).normalize) ∧
    (∀ front rest, (ofString (front ++ "/" ++ rest)).isAbsolute = false →
      (∀ name, IsName (ofString name).bytes →
        (including.resolveInclude (front ++ "/" ++ name)).parent? =
          some (including.resolveInclude front)) ∧
      ((ofString rest).isAbsolute = false →
        ∀ file : FilePath, file.parent? = some (including.resolveInclude front) →
          file.resolveInclude rest = including.resolveInclude (front ++ "/" ++ rest))) ∧
    ∀ target target', (ofString target).isAbsolute = (ofString target').isAbsolute →
      SameWay (pieces slash (ofString target).bytes) (pieces slash (ofString target').bytes) →
      including.resolveInclude target = including.resolveInclude target' := by
  obtain ⟨climbs, names, hnames, hsame, hstack⟩ := path.stack_eq_names
  have hcomponents : path.normalize.components = path.base ++ names.map .name := by
    rw [components_normalize, hstack, List.reverse_append, List.reverse_reverse]
    rcases path.base_eq with hbase | hbase
    · rw [hbase]
      rfl
    · rw [hbase]
      rfl
  refine ⟨⟨?_, path.isAbsolute_normalize_eq, path.normalize_normalize, climbs, names, hnames,
    hsame, hcomponents⟩, ?_, ?_, ?_⟩
  · rw [hcomponents]
    rcases path.base_eq with hbase | hbase
    · simp [hbase]
    · simp [hbase]
  · -- both walk on from the stack of the path
    intro other hother
    rw [normalize_eq, normalize_eq, stack_join hother, stack_join hother, stack_normalize]
  · intro front rest hrelative
    refine ⟨?_, ?_⟩
    · intro name hname
      exact parent?_resolveInclude (isAbsolute_slash hrelative name).1 including hname
    · intro hrest file hfile
      exact resolveInclude_slash hrelative including hfile hrest
  · intro target target' habsolute h
    exact including.resolveInclude_congr habsolute h

/-- One file by three spellings. -/
theorem vars_canonical :
    let including := ofString "/w/Makefile"
    let file := ofString "/w/lib/rules.mk"
    (ofString ("sub/../lib" ++ "/" ++ "vars.mk")).isAbsolute = false ∧
    file.parent? = some (including.resolveInclude "sub/../lib") ∧
    file.resolveInclude "vars.mk" = including.resolveInclude ("sub/../lib" ++ "/" ++ "vars.mk") ∧
    including.resolveInclude "./lib//vars.mk" = including.resolveInclude "lib/vars.mk" ∧
    including.resolveInclude "lib/vars.mk" = ofString "/w/lib/vars.mk" := by
  intro including file
  have hrelative : (ofString ("sub/../lib" ++ "/" ++ "vars.mk")).isAbsolute = false := by
    decide +kernel
  have hparent : file.parent? = some (including.resolveInclude "sub/../lib") := by decide +kernel
  have hsame : SameWay (pieces slash (ofString "./lib//vars.mk").bytes)
      (pieces slash (ofString "lib/vars.mk").bytes) := by
    have hlong : pieces slash (ofString "./lib//vars.mk").bytes =
        [] ++ [[dot]] ++ [Utf8.encode "lib", [], Utf8.encode "vars.mk"] := by decide +kernel
    have hshort : pieces slash (ofString "lib/vars.mk").bytes =
        [Utf8.encode "lib"] ++ [Utf8.encode "vars.mk"] := by decide +kernel
    rw [hlong, hshort]
    -- first the `.` in front is left out, then the empty piece
    exact Relation.EqvGen.trans _ _ _ (.rel _ _ (.idle [] _ .current))
      (.rel _ _ (.idle [Utf8.encode "lib"] [Utf8.encode "vars.mk"] .empty))
  obtain ⟨-, -, hsplit, hspelling⟩ := normalize_canonical including including
  exact ⟨hrelative, hparent, (hsplit _ _ hrelative).2 (by decide +kernel) file hparent,
    hspelling _ _ (by decide +kernel) hsame, by decide +kernel⟩

end FilePath

end MakeLens
