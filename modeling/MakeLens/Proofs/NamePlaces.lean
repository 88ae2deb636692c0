import Mathlib.Data.List.Nodup
import MakeLens.Proofs.CallSites
import MakeLens.Proofs.IncludeClosure
import MakeLens.Proofs.NamePositions
import MakeLens.Proofs.QueryAgreement

/-! # The places of a name

    Asking where a name occurs gives the places of the entities with the name, those of
    the file first and then those of each included file. No place is given twice, for three
    reasons that have nothing to do with each other:

    * the include closure holds each file once, and not the file itself;
    * an entity carries the path that its entry stands under;
    * no two entities of a text have the same position. The passes over a line know
      nothing of each other, but the last character before a name, blanks apart, tells
      which pass has found it: none at all before a target or an assignment, a bracket
      before a reference, the `e` of `define` before a function and the `l` of `call` before
      a called one.
-/

namespace MakeLens

/-! ## Section 1: What stands before a name -/

/-- The last character before a column that is not blank. -/
def markBefore? (line : List Char) (column : Nat) : Option Char :=
  (trimEnd (line.take column)).getLast?

theorem trimEnd_append_blanks {front gap : List Char} {c : Char} (hc : isBlank c = false)
    (hgap : ∀ c ∈ gap, isBlank c = true) : trimEnd (front ++ c :: gap) = front ++ [c] := by
  have hblanks : ∀ c ∈ gap.reverse, isBlank c = true := by
    intro d hd
    exact hgap d (List.mem_reverse.1 hd)
  unfold trimEnd
  rw [List.reverse_append, List.reverse_cons, List.append_assoc,
    List.dropWhile_append_of_pos hblanks]
  simp [hc]

theorem markBefore?_append (front : List Char) {gap : List Char} {c : Char}
    (hc : isBlank c = false) (hgap : ∀ c ∈ gap, isBlank c = true) (rest : List Char) :
    markBefore? ((front ++ c :: gap) ++ rest) (front ++ c :: gap).length = some c := by
  unfold markBefore?
  rw [List.take_left, trimEnd_append_blanks hc hgap, List.getLast?_concat]

section marks

variable {line name : List Char} {column : Nat}

theorem markBefore?_reference (h : reference? line = some (name, column)) :
    markBefore? line column = some '(' ∨ markBefore? line column = some '{' := by
  obtain ⟨word, gap, opening, closing, text, rfl, -, -, -, -, hopening, -, -, -, -, -, rfl⟩ :=
    reference?_eq_some h
  have hblank : isBlank opening = false := by
    rcases hopening with rfl | rfl
    · decide
    · decide
  have hnone : ∀ c ∈ ([] : List Char), isBlank c = true := by simp
  have hmark := markBefore?_append (word ++ (gap ++ ['$'])) hblank hnone (name ++ (closing ++ text))
  have hbefore : word ++ (gap ++ ['$']) ++ [opening] = word ++ (gap ++ ['$', opening]) := by
    simp
  have hlength : (word ++ (gap ++ ['$', opening])).length = word.length + gap.length + 2 := by
    simp only [List.length_append, List.length_cons, List.length_nil]
    omega
  rw [hbefore, hlength] at hmark
  rw [hmark]
  rcases hopening with rfl | rfl
  · exact Or.inl rfl
  · exact Or.inr rfl

theorem markBefore?_function (h : functionName? line = some (name, column)) :
    markBefore? line column = some 'e' := by
  obtain ⟨gap, rest, rfl, -, hblanks, -, -, -, -, rfl⟩ := functionName?_eq_some h
  have hletter : isBlank 'e' = false := by decide
  have hmark := markBefore?_append ['d', 'e', 'f', 'i', 'n'] hletter hblanks (name ++ rest)
  have hlength : (['d', 'e', 'f', 'i', 'n'] ++ 'e' :: gap).length = 6 + gap.length := by
    simp only [List.length_append, List.length_cons, List.length_nil]
    omega
  rw [hlength] at hmark
  simpa using hmark

theorem markBefore?_call (h : (name, column) ∈ callsFrom 0 line) :
    markBefore? line column = some 'l' := by
  obtain ⟨front, text, place, rfl, hcall, rfl⟩ := mem_callsFrom h
  obtain ⟨gap, rest, rfl, -, hblanks, -, -, -, rfl⟩ := callName?_eq_some hcall
  have hletter : isBlank 'l' = false := by decide
  have hmark := markBefore?_append (front ++ ['$', '(', 'c', 'a', 'l']) hletter hblanks
    (name ++ rest)
  have hlength : (front ++ ['$', '(', 'c', 'a', 'l'] ++ 'l' :: gap).length =
      0 + front.length + (6 + gap.length) := by
    simp only [List.length_append, List.length_cons, List.length_nil]
    omega
  rw [hlength] at hmark
  simpa using hmark

end marks

/-! ## Section 2: The columns of a line -/

/-- The columns at which a line can have a name: its start, where a target or an assignment
    has it, and the columns that the other passes find. -/
def nameColumns (line : List Char) : List Nat :=
  0 :: ((reference? line).toList.map Prod.snd ++
    ((functionName? line).toList.map Prod.snd ++ (callsFrom 0 line).map Prod.snd))

section columns

variable {line : List Char} {column : Nat}

/-- A column belongs to the pass that its mark tells. -/
theorem mem_nameColumns (h : column ∈ nameColumns line) :
    column = 0 ∨ (∃ name, reference? line = some (name, column)) ∨
      (∃ name, functionName? line = some (name, column)) ∨
      ∃ name, (name, column) ∈ callsFrom 0 line := by
  simpa [nameColumns] using h

theorem le_length_of_mem_nameColumns (h : column ∈ nameColumns line) : column ≤ line.length := by
  have hdelimited : ∀ {kind : EntityKind} {before name after : List Char},
      Delimited kind line before name after → before.length ≤ line.length := by
    intro kind before name after hstands
    rw [hstands.line_eq, List.length_append]
    omega
  rcases mem_nameColumns h with rfl | ⟨name, hname⟩ | ⟨name, hname⟩ | ⟨name, hname⟩
  · exact Nat.zero_le _
  · obtain ⟨before, after, hstands, rfl⟩ := delimited_reference hname
    exact hdelimited hstands
  · obtain ⟨before, after, hstands, rfl⟩ := delimited_function hname
    exact hdelimited hstands
  · obtain ⟨before, after, hstands, rfl⟩ := delimited_call hname
    exact hdelimited hstands

/-- No two passes find a name at the same column, and no pass finds two there. -/
theorem nodup_nameColumns (line : List Char) : (nameColumns line).Nodup := by
  have hstart : markBefore? line 0 = none := rfl
  have hreference : ∀ column ∈ (reference? line).toList.map Prod.snd,
      markBefore? line column = some '(' ∨ markBefore? line column = some '{' := by
    intro column hmem
    obtain ⟨⟨name, _⟩, hname, rfl⟩ := List.mem_map.1 hmem
    exact markBefore?_reference (Option.mem_toList.1 hname)
  have hfunction : ∀ column ∈ (functionName? line).toList.map Prod.snd,
      markBefore? line column = some 'e' := by
    intro column hmem
    obtain ⟨⟨name, _⟩, hname, rfl⟩ := List.mem_map.1 hmem
    exact markBefore?_function (Option.mem_toList.1 hname)
  have hcall : ∀ column ∈ (callsFrom 0 line).map Prod.snd, markBefore? line column = some 'l' := by
    intro column hmem
    obtain ⟨⟨name, _⟩, hname, rfl⟩ := List.mem_map.1 hmem
    exact markBefore?_call hname
  have hone : ∀ found : Option (List Char × Nat), (found.toList.map Prod.snd).Nodup := by
    intro found
    cases found with
    | none => simp
    | some x => simp
  have hcalls : ((callsFrom 0 line).map Prod.snd).Nodup := by
    rw [List.Nodup, List.pairwise_map]
    exact (pairwise_callsFrom line).imp fun hlt => Nat.ne_of_lt hlt
  unfold nameColumns
  rw [List.nodup_cons, List.nodup_append, List.nodup_append]
  refine ⟨?_, hone _, ⟨hone _, hcalls, ?_⟩, ?_⟩
  · -- nothing stands before the start of the line
    intro hmem
    rcases List.mem_append.1 hmem with hmem | hmem
    · have := hreference 0 hmem
      simp [hstart] at this
    · rcases List.mem_append.1 hmem with hmem | hmem
      · have := hfunction 0 hmem
        simp [hstart] at this
      · have := hcall 0 hmem
        simp [hstart] at this
  · intro a ha b hb heq
    have hmark := hfunction a ha
    rw [heq, hcall b hb] at hmark
    exact absurd hmark (by decide)
  · intro a ha b hb heq
    have hmark : markBefore? line b = some 'e' ∨ markBefore? line b = some 'l' :=
      (List.mem_append.1 hb).imp (hfunction b) (hcall b)
    have hbracket := hreference a ha
    rw [heq] at hbracket
    rcases hmark with hmark | hmark
    · simp [hmark] at hbracket
    · simp [hmark] at hbracket

end columns

/-- The column of a fact that an entity comes from. -/
def Fact.column? : Fact → Option UInt32
  | .target _ column => some column
  | .assignment _ column _ => some column
  | .reference _ column => some column
  | .function _ column => some column
  | .call _ column => some column
  | .specialTarget _ => none
  | .inclusion _ => none

theorem Entity.column?_of_ofFact? {file : FilePath} {number : UInt32} {fact : Fact} {e : Entity}
    (h : Entity.ofFact? file number fact = some e) : fact.column? = some e.column := by
  cases fact with
  | specialTarget name => cases h
  | inclusion paths => cases h
  | _ => cases h; rfl

/-- The columns of the facts are among those of the passes, in the same order. -/
theorem columns_classify_sublist (line : List Char) :
    ((classify line).filterMap Fact.column?).Sublist ((nameColumns line).map UInt32.ofNat) := by
  have hprimary : ((primaryFact? line).toList.filterMap Fact.column?).Sublist [0] := by
    unfold primaryFact?
    split
    · next name _ =>
      unfold Fact.ofTarget
      simp only
      split
      · simp [Fact.column?]
      · simp [Fact.column?]
    · cases assignment? line with
      | none => simp
      | some x => simp [Fact.column?]
  have hreference : (((reference? line).map fun x =>
        Fact.reference (String.ofList x.1) (UInt32.ofNat x.2)).toList.filterMap Fact.column?) =
      ((reference? line).toList.map Prod.snd).map UInt32.ofNat := by
    cases reference? line with
    | none => rfl
    | some x => rfl
  have hinclusion : (((inclusion? line).map fun paths =>
      Fact.inclusion (paths.map String.ofList)).toList.filterMap Fact.column?) = [] := by
    cases inclusion? line with
    | none => rfl
    | some paths => rfl
  have hfunction : (((functionName? line).map fun x =>
        Fact.function (String.ofList x.1) (UInt32.ofNat x.2)).toList.filterMap Fact.column?) =
      ((functionName? line).toList.map Prod.snd).map UInt32.ofNat := by
    cases functionName? line with
    | none => rfl
    | some x => rfl
  have hcalls : (((callsFrom 0 line).map fun x =>
        Fact.call (String.ofList x.1) (UInt32.ofNat x.2)).filterMap Fact.column?) =
      ((callsFrom 0 line).map Prod.snd).map UInt32.ofNat := by
    rw [List.filterMap_map, List.map_map, ← List.filterMap_eq_map]
    rfl
  have hsplit : (classify line).filterMap Fact.column? =
      (primaryFact? line).toList.filterMap Fact.column? ++
        (((reference? line).toList.map Prod.snd).map UInt32.ofNat ++
          (((functionName? line).toList.map Prod.snd).map UInt32.ofNat ++
            ((callsFrom 0 line).map Prod.snd).map UInt32.ofNat)) := by
    unfold classify
    simp only [List.filterMap_append, hreference, hinclusion, hfunction, hcalls,
      List.nil_append, List.append_assoc]
  rw [hsplit]
  unfold nameColumns
  rw [List.map_cons, List.map_append, List.map_append]
  exact hprimary.append (List.Sublist.refl _)

/-- The facts of a line that 32 bits can number the columns of have different columns. -/
theorem nodup_columns_classify {line : List Char} (hshort : line.length < UInt32.size) :
    ((classify line).filterMap Fact.column?).Nodup := by
  apply List.Nodup.sublist (columns_classify_sublist line)
  apply List.Nodup.map_on _ (nodup_nameColumns line)
  intro a ha b hb heq
  have hfit : ∀ column ∈ nameColumns line, column < UInt32.size := by
    intro column hmem
    exact Nat.lt_of_le_of_lt (le_length_of_mem_nameColumns hmem) hshort
  have hnat := congrArg UInt32.toNat heq
  rwa [UInt32.toNat_ofNat_of_lt' (hfit a ha), UInt32.toNat_ofNat_of_lt' (hfit b hb)] at hnat

/-! ## Section 3: The positions of a text -/

/-- Facts of a text with a column each differ in their line or in their column. -/
theorem pairwise_columns_numberedFacts {text : List Char} (hshort : text.length < UInt32.size) :
    (numberedFacts text).Pairwise fun a b =>
      a.1 = b.1 → ∀ c, a.2.column? = some c → ∀ d, b.2.column? = some d → c ≠ d := by
  unfold numberedFacts
  rw [List.pairwise_flatMap]
  constructor
  · -- on one line the columns differ
    intro ⟨line, number⟩ hmem
    have hline : line ∈ logicalLines text := List.fst_mem_of_mem_zipIdx hmem
    have hlength : line.length < UInt32.size :=
      Nat.lt_of_le_of_lt (length_le_of_mem_logicalLines hline) hshort
    have hcolumns := List.pairwise_filterMap.1 (nodup_columns_classify hlength)
    simp only
    split
    · exact List.Pairwise.nil
    · rw [List.pairwise_map]
      refine hcolumns.imp ?_
      intro a b hdiffer _
      exact hdiffer
  · -- two lines have different numbers, which 32 bits can tell apart
    refine (pairwise_zipIdx (logicalLines text)).imp_of_mem ?_
    intro ⟨line, number⟩ ⟨line', number'⟩ _ hmem' hlt x hx y hy heq
    have hbound : number' < UInt32.size := by
      have hindex := List.snd_lt_of_mem_zipIdx hmem'
      have hcount := length_physicalLines_le text
      rw [length_logicalLines] at hindex
      omega
    simp only at hlt
    rw [number_of_mem_line hx, number_of_mem_line hy] at heq
    have hnat := congrArg UInt32.toNat heq
    rw [UInt32.toNat_ofNat_of_lt' hbound, UInt32.toNat_ofNat_of_lt' (by omega)] at hnat
    omega

/-- No two entities of a text with fewer than 2 ^ 32 characters have the same position. -/
theorem pairwise_positions_scan {text : List Char} (hshort : text.length < UInt32.size)
    (file : FilePath) :
    (scan text file).entities.Pairwise fun a b => a.line = b.line → a.column ≠ b.column := by
  refine (pairwise_columns_numberedFacts hshort).filterMap _ ?_
  intro ⟨line, fact⟩ ⟨line', fact'⟩ hcolumns e he e' he' heq
  have hcolumn := Entity.column?_of_ofFact? he
  have hcolumn' := Entity.column?_of_ofFact? he'
  obtain ⟨name, kind, value, column, rfl⟩ := Entity.ofFact?_eq_make he
  obtain ⟨name', kind', value', column', rfl⟩ := Entity.ofFact?_eq_make he'
  exact hcolumns heq column hcolumn column' hcolumn'

/-! ## Section 4: The places that a file sees -/

namespace Cache

variable {cache : Cache} {file : FilePath} {name : String}

/-- The text that the entry of `file` was made from has fewer than 2 ^ 32 characters. -/
def ShortAt (cache : Cache) (file : FilePath) : Prop :=
  ∀ entry, cache.get? file = some entry →
    ∃ text, text.length < UInt32.size ∧ entry = .ofText file text

/-- The entities called `name` in the entry of a file, in line order. -/
def occurrences (cache : Cache) (file : FilePath) (name : String) : List Entity :=
  (cache.entitiesOf file).filter fun e => e.name = name

/-- Looking a name up in an entry finds what going through all its entities finds. -/
theorem lookup_eq_occurrences (h : cache.FromTexts) (file : FilePath) (name : String) :
    ((cache.get? file).map fun entry => entry.lookup name).getD [] =
      cache.occurrences file name := by
  unfold occurrences entitiesOf
  cases hget : cache.get? file with
  | none => rfl
  | some entry =>
    obtain ⟨text, rfl⟩ := h file entry hget
    rw [Option.map_some, Option.map_some, Option.getD_some, Option.getD_some, FileIndex.ofText,
      FileIndex.lookup_make]
    rfl

theorem ShortAt.mem_occurrences {e : Entity} (hshort : cache.ShortAt file)
    (h : e ∈ cache.occurrences file name) : e.file = file := by
  unfold occurrences entitiesOf at h
  cases hget : cache.get? file with
  | none =>
    rw [hget] at h
    cases h
  | some entry =>
    obtain ⟨text, -, rfl⟩ := hshort entry hget
    rw [hget] at h
    have hmem : e ∈ (scan text file).entities := List.mem_of_mem_filter h
    obtain ⟨name, kind, value, line, column, rfl⟩ := mem_entities_scan hmem
    rfl

/-- In one file the places of a name differ. -/
theorem ShortAt.nodup_places (hshort : cache.ShortAt file) (name : String) :
    ((cache.occurrences file name).map Entity.location).Nodup := by
  unfold occurrences entitiesOf
  cases hget : cache.get? file with
  | none => exact List.nodup_nil
  | some entry =>
    obtain ⟨text, hlength, rfl⟩ := hshort entry hget
    rw [List.Nodup, List.pairwise_map]
    have hpositions : (scan text file).entities.Pairwise fun a b => a.location ≠ b.location := by
      refine (pairwise_positions_scan hlength file).imp ?_
      intro a b hdiffer heq
      have hline : a.line = b.line := congrArg Location.startLine heq
      have hcolumn : a.column = b.column := congrArg Location.startColumn heq
      exact hdiffer hline hcolumn
    exact hpositions.filter _

/-- In all files that a file sees the places of a name differ: each file is seen once, and
    a place tells its file. -/
theorem nodup_places_seen (hshort : ∀ file, cache.ShortAt file) (file : FilePath) (name : String) :
    ((file :: cache.includeClosure file).flatMap fun seen =>
      (cache.occurrences seen name).map Entity.location).Nodup := by
  have hseen : (file :: cache.includeClosure file).Nodup := by
    rw [List.nodup_cons]
    refine ⟨?_, nodup_explore cache [file] _⟩
    intro hmem
    exact not_mem_seen_of_mem_explore cache [file] _ hmem List.mem_cons_self
  have hfile : ∀ seen, ∀ place ∈ (cache.occurrences seen name).map Entity.location,
      place.file = seen := by
    intro seen place hplace
    obtain ⟨e, he, rfl⟩ := List.mem_map.1 hplace
    exact (hshort seen).mem_occurrences he
  rw [List.Nodup, List.pairwise_flatMap]
  constructor
  · intro seen _
    exact (hshort seen).nodup_places name
  · refine hseen.imp ?_
    intro seen other hne place hplace place' hplace' heq
    apply hne
    rw [← hfile seen place hplace, heq, hfile other place' hplace']

end Cache

namespace Index

/-- A run on short texts, given or on the disk, leaves entries of short texts. -/
theorem run_shortAt (steps : List (Disk × Operation))
    (hgiven : ∀ step ∈ steps, ∀ file text,
      step.2.given? step.1 = some (file, text) → text.length < UInt32.size)
    (hdisk : ∀ step ∈ steps, ∀ file text,
      step.1.text? file = some text → text.length < UInt32.size) (file : FilePath) :
    (Index.empty.run steps).cache.ShortAt file := by
  have hstart : ∀ file entry, Index.empty.cache.get? file = some entry →
      ∃ text, text.length < UInt32.size ∧ entry = FileIndex.ofText file text := by
    intro file entry h
    cases h
  intro entry h
  refine Index.run_invariant steps ?_ Index.empty hstart h
  intro step hstep file built ⟨_, content, hbuilt, hsource⟩
  rcases hsource with hsource | hsource
  · exact ⟨content, hgiven step hstep file content hsource, hbuilt⟩
  · exact ⟨content, hdisk step hstep file content hsource, hbuilt⟩

/-- Asking where a name occurs, after any run, with every entry made from a text of fewer
    than 2 ^ 32 characters. The answer is
    1. the places of the entities with the name, of whatever kind, in the entry that the
       file has once it is made sure of, in line order, and then those of each file of its
       include closure that has an entry, in discovery order;
    2. without repetition. -/
theorem definitions_exact (steps : List (Disk × Operation)) (disk : Disk) (path : FilePath)
    (name : String)
    (hshort : ∀ file,
      ((Index.empty.run steps).definitions disk path name).1.cache.ShortAt file) :
    let asked := (Index.empty.run steps).definitions disk path name
    let cache := ((Index.empty.run steps).ensure disk path none).1.cache
    let file := disk.absolute path
    asked.1.cache = cache ∧
    asked.2 = (cache.occurrences file name).map Entity.location ++
      (cache.includeClosure file).flatMap (fun included =>
        (cache.occurrences included name).map Entity.location) ∧
    asked.2.Nodup := by
  intro asked cache file
  -- the question itself is the last step of a run
  have htexts : cache.FromTexts := by
    have hrun := run_fromTexts (steps ++ [(disk, .ensure path none)])
    rw [run_append] at hrun
    exact hrun
  have hplaces : asked.2 = (file :: cache.includeClosure file).flatMap fun seen =>
      (cache.occurrences seen name).map Entity.location := by
    show locations cache file name = _
    unfold locations
    simp only [Cache.lookup_eq_occurrences htexts]
  refine ⟨rfl, hplaces, ?_⟩
  rw [hplaces]
  exact Cache.nodup_places_seen hshort file name

end Index

/-! ### A name of every kind, in two files that include each other -/

/-- The file that is included assigns the name and includes the first file back. -/
def placesDisk : Disk := oneFileDisk "include Makefile\nX = 2"

/-- A text that assigns, calls, uses and defines the name, and has a rule for it. -/
def placesText : List Char :=
  "include a.mk\nX := $(call X,1) $(call X,2)\nrun $(X) now\ndefine X\nX: y".toList

/-- The text is given for the first file. -/
def placesRun : List (Disk × Operation) :=
  [(placesDisk, .reindex (.ofString "Makefile") placesText)]

theorem includeClosure_placesRun :
    (Index.empty.run placesRun).cache.includeClosure (.ofString "/w/Makefile") =
      [.ofString "/w/a.mk"] := by
  apply Cache.includeClosure_eq_singleton
  · decide +kernel
  · decide +kernel
  · -- the way back to the first file
    decide +kernel

theorem shortAt_placesRun (file : FilePath) : (Index.empty.run placesRun).cache.ShortAt file := by
  apply Index.run_shortAt
  · intro step hstep file text hgiven
    obtain rfl := List.mem_singleton.1 hstep
    cases hgiven
    decide +kernel
  · intro step hstep file text htext
    obtain rfl := List.mem_singleton.1 hstep
    rw [text_of_oneFileDisk htext]
    decide +kernel

/-- Seven places, six of them in the first file, and none of them twice. -/
theorem definitions_placesRun :
    let asked := (Index.empty.run placesRun).definitions placesDisk (.ofString "Makefile") "X"
    let main := FilePath.ofString "/w/Makefile"
    (∀ file, asked.1.cache.ShortAt file) ∧
    asked.2 = [⟨main, 1, 0, 1, 1⟩, ⟨main, 1, 12, 1, 13⟩, ⟨main, 1, 24, 1, 25⟩, ⟨main, 2, 6, 2, 7⟩,
      ⟨main, 3, 7, 3, 8⟩, ⟨main, 4, 0, 4, 1⟩, ⟨.ofString "/w/a.mk", 1, 0, 1, 1⟩] ∧
    asked.2.Nodup := by
  intro asked main
  have habsolute : placesDisk.absolute (.ofString "Makefile") = main := by decide +kernel
  have hcached : (Index.empty.run placesRun).cache.contains
      (placesDisk.absolute (.ofString "Makefile")) = true := by
    decide +kernel
  have hasked : asked.1 = Index.empty.run placesRun :=
    congrArg Prod.fst (Index.definitions_of_contains hcached)
  have hshort : ∀ file, asked.1.cache.ShortAt file := by
    intro file
    rw [hasked]
    exact shortAt_placesRun file
  obtain ⟨hcache, hplaces, hnodup⟩ := Index.definitions_exact placesRun placesDisk
    (.ofString "Makefile") "X" hshort
  refine ⟨hshort, ?_, hnodup⟩
  rw [← hcache, hasked, habsolute, includeClosure_placesRun] at hplaces
  rw [hplaces]
  decide +kernel

end MakeLens
