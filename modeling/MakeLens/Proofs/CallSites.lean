import MakeLens.Proofs.LineForms

/-! # The calls of a line

    A call is `$(call`, blanks and a name, anywhere on a line, also among the arguments of
    another call. Every call is found, and each one once:

    * a call starts with a `$`, and from there to the end of its name there is no other `$`,
      so no call starts inside another one (`CallSite.Stands.behind`);
    * therefore it makes no difference whether a call is looked for at every character or the
      search goes on behind the name of the last call (`resumedCalls_eq`).

    The column of a call is a number of 32 bits. On a line that such numbers cannot measure a
    later call can have a lower column (`callsFrom_farCalls`).
-/

namespace MakeLens

/-! ## Section 1: Where calls stand -/

/-- A call on a line: where its `$` is, its name, and where the name is. -/
structure CallSite where
  offset : Nat
  name : List Char
  column : Nat

/-- The line has this call: at the offset it goes on with `$(call`, blanks and the name, and
    the name ends where no character of its class follows. -/
def CallSite.Stands (line : List Char) (site : CallSite) : Prop :=
  ∃ gap rest,
    line.drop site.offset = ['$', '(', 'c', 'a', 'l', 'l'] ++ (gap ++ (site.name ++ rest)) ∧
    IsRun isBlank gap ∧ IsRun isCallChar site.name ∧ StartsOutside isCallChar rest ∧
    site.column = site.offset + (6 + gap.length)

/-- The fact that a call is reported by. -/
def CallSite.fact (site : CallSite) : Fact :=
  .call (String.ofList site.name) (UInt32.ofNat site.column)

section sites

variable {line text name : List Char} {a b : CallSite}

theorem isBlank_of_isCallChar {c : Char} (h : isCallChar c = true) : isBlank c = false := by
  by_cases hblank : isBlank c = true
  · simp [isCallChar, hblank] at h
  · simpa using hblank

theorem callName?_eq_some_iff {place : Nat} :
    callName? text = some (name, place) ↔
      ∃ gap rest, text = ['$', '(', 'c', 'a', 'l', 'l'] ++ (gap ++ (name ++ rest)) ∧
        IsRun isBlank gap ∧ IsRun isCallChar name ∧ StartsOutside isCallChar rest ∧
        place = 6 + gap.length := by
  constructor
  · intro h
    obtain ⟨gap, rest, htext, hgap, hgaps, hname, hnames, hrest, hplace⟩ := callName?_eq_some h
    exact ⟨gap, rest, htext, ⟨hgap, hgaps⟩, ⟨hname, hnames⟩, hrest, hplace⟩
  · rintro ⟨gap, rest, rfl, hgap, hname, hrest, rfl⟩
    have hbody : StartsOutside isBlank (name ++ rest) :=
      hname.startsOutside (fun _ => isBlank_of_isCallChar) rest
    have hafter : afterKeyword? ['$', '(', 'c', 'a', 'l', 'l']
        (['$', '(', 'c', 'a', 'l', 'l'] ++ (gap ++ (name ++ rest))) =
          some (gap ++ (name ++ rest)) :=
      afterKeyword?_append _ _
    unfold callName?
    rw [hafter]
    show (if _ then _ else _) = _
    rw [takeWhile_run hgap.mem hbody, dropWhile_run hgap.mem hbody, takeWhile_run hname.mem hrest]
    exact if_pos ⟨hgap.ne_nil, hname.ne_nil⟩

theorem stands_iff_callName? :
    a.Stands line ↔ ∃ place, callName? (line.drop a.offset) = some (a.name, place) ∧
      a.column = a.offset + place := by
  constructor
  · rintro ⟨gap, rest, hdrop, hgap, hname, hrest, hcolumn⟩
    exact ⟨6 + gap.length, callName?_eq_some_iff.2 ⟨gap, rest, hdrop, hgap, hname, hrest, rfl⟩,
      hcolumn⟩
  · rintro ⟨place, hcall, hcolumn⟩
    obtain ⟨gap, rest, hdrop, hgap, hname, hrest, rfl⟩ := callName?_eq_some_iff.1 hcall
    exact ⟨gap, rest, hdrop, hgap, hname, hrest, hcolumn⟩

/-- No two calls start at the same character. -/
theorem CallSite.Stands.unique (ha : a.Stands line) (hb : b.Stands line)
    (h : a.offset = b.offset) : a = b := by
  obtain ⟨place, hcall, hcolumn⟩ := stands_iff_callName?.1 ha
  obtain ⟨place', hcall', hcolumn'⟩ := stands_iff_callName?.1 hb
  rw [h, hcall'] at hcall
  obtain ⟨hname, rfl⟩ := Prod.mk.inj (Option.some.inj hcall)
  cases a
  cases b
  simp_all

/-- Where the line goes on with `$(call`, blanks and a character of a name, there is a
    call. -/
theorem exists_stands {offset : Nat} {gap rest : List Char} {c : Char}
    (hdrop : line.drop offset = ['$', '(', 'c', 'a', 'l', 'l'] ++ (gap ++ c :: rest))
    (hgap : IsRun isBlank gap) (hc : isCallChar c = true) :
    ∃ site : CallSite, site.Stands line ∧ site.offset = offset := by
  refine ⟨⟨offset, (c :: rest).takeWhile isCallChar, offset + (6 + gap.length)⟩,
    ⟨gap, (c :: rest).dropWhile isCallChar, ?_, hgap, ⟨by simp [hc], fun _ => of_mem_takeWhile⟩,
      startsOutside_dropWhile _ _, rfl⟩, rfl⟩
  rw [List.takeWhile_append_dropWhile]
  exact hdrop

/-- From behind the `$` of a call to the end of its name there is no other `$`. -/
theorem dollar_not_mem {gap : List Char} (hgap : IsRun isBlank gap)
    (hname : IsRun isCallChar name) : '$' ∉ ['(', 'c', 'a', 'l', 'l'] ++ (gap ++ name) := by
  intro hmem
  rcases List.mem_append.1 hmem with hmem | hmem
  · exact absurd hmem (by decide)
  · rcases List.mem_append.1 hmem with hmem | hmem
    · exact absurd (hgap.mem '$' hmem) (by decide)
    · exact absurd (hname.mem '$' hmem) (by decide)

/-- A call that starts behind the start of another one starts behind the end of its name. -/
theorem CallSite.Stands.behind (ha : a.Stands line) (hb : b.Stands line)
    (h : a.offset < b.offset) : a.column + a.name.length ≤ b.offset := by
  obtain ⟨gap, rest, hdrop, hgap, hname, -, hcolumn⟩ := ha
  obtain ⟨gap', rest', hdrop', -, -, -, -⟩ := hb
  have htail : line.drop (a.offset + 1) =
      (['(', 'c', 'a', 'l', 'l'] ++ (gap ++ a.name)) ++ rest := by
    rw [← List.drop_drop, hdrop]
    simp
  have hdollar : (line.drop (a.offset + 1)).drop (b.offset - (a.offset + 1)) =
      '$' :: (['(', 'c', 'a', 'l', 'l'] ++ (gap' ++ (b.name ++ rest'))) := by
    rw [List.drop_drop, show a.offset + 1 + (b.offset - (a.offset + 1)) = b.offset by omega]
    exact hdrop'
  have hsplit := List.take_append_drop (b.offset - (a.offset + 1)) (line.drop (a.offset + 1))
  rw [hdollar, htail] at hsplit
  -- the `$` of the later call cannot be in the part of the earlier one that has none
  have hfar := length_le_of_not_mem hsplit (dollar_not_mem hgap hname)
  have hkeyword : ['(', 'c', 'a', 'l', 'l'].length = 5 := rfl
  rw [List.length_take, List.length_append, List.length_append, hkeyword] at hfar
  omega

theorem CallSite.Stands.column_le (ha : a.Stands line) :
    a.column + a.name.length ≤ line.length := by
  obtain ⟨gap, rest, hdrop, -, -, -, hcolumn⟩ := ha
  have hlength := congrArg List.length hdrop
  have hkeyword : ['$', '(', 'c', 'a', 'l', 'l'].length = 6 := rfl
  simp only [List.length_drop, List.length_append, hkeyword] at hlength
  omega

theorem CallSite.Stands.offset_lt_column (ha : a.Stands line) : a.offset < a.column := by
  obtain ⟨gap, rest, -, -, -, -, hcolumn⟩ := ha
  omega

end sites

/-! ## Section 2: The calls in their order -/

/-- The call that starts at a character of a line. -/
def callSiteAt? (line : List Char) (offset : Nat) : Option CallSite :=
  (callName? (line.drop offset)).map fun (name, place) => ⟨offset, name, offset + place⟩

/-- The calls of a line, by their starts. -/
def callSites (line : List Char) : List CallSite :=
  (List.range line.length).filterMap (callSiteAt? line)

section order

variable {line : List Char} {site : CallSite}

theorem callSiteAt?_eq_some_iff {offset : Nat} :
    callSiteAt? line offset = some site ↔ site.Stands line ∧ site.offset = offset := by
  unfold callSiteAt?
  rw [Option.map_eq_some_iff, stands_iff_callName?]
  constructor
  · rintro ⟨⟨name, place⟩, hcall, rfl⟩
    exact ⟨⟨place, hcall, rfl⟩, rfl⟩
  · rintro ⟨⟨place, hcall, hcolumn⟩, rfl⟩
    exact ⟨(site.name, place), hcall, by simp only [← hcolumn]⟩

theorem mem_callSites : site ∈ callSites line ↔ site.Stands line := by
  unfold callSites
  simp only [List.mem_filterMap, List.mem_range, callSiteAt?_eq_some_iff]
  constructor
  · rintro ⟨offset, -, hstands, -⟩
    exact hstands
  · intro hstands
    have hoffset := hstands.offset_lt_column
    have hcolumn := hstands.column_le
    exact ⟨site.offset, by omega, hstands, rfl⟩

/-- The calls come one behind the other. -/
theorem pairwise_callSites (line : List Char) :
    (callSites line).Pairwise fun a b => a.column + a.name.length ≤ b.offset := by
  unfold callSites
  rw [List.pairwise_filterMap]
  refine List.pairwise_lt_range.imp ?_
  intro i j hlt a ha b hb
  obtain ⟨hstands, rfl⟩ := callSiteAt?_eq_some_iff.1 ha
  obtain ⟨hstands', rfl⟩ := callSiteAt?_eq_some_iff.1 hb
  exact hstands.behind hstands' hlt

/-- Looking for a call at every character finds the calls in the order of their starts. -/
theorem callsFrom_eq_filterMap (offset : Nat) (text : List Char) :
    callsFrom offset text = (List.range text.length).filterMap fun i =>
      (callName? (text.drop i)).map fun (name, place) => (name, offset + i + place) := by
  induction text generalizing offset with
  | nil => rfl
  | cons c text ih =>
    -- behind the first character every place is counted from one further on
    have hmoved : (List.range text.length).filterMap (fun i =>
        (callName? (text.drop i)).map fun (name, place) => (name, offset + 1 + i + place)) =
        ((List.range text.length).map Nat.succ).filterMap fun i =>
          (callName? ((c :: text).drop i)).map fun (name, place) => (name, offset + i + place) := by
      rw [List.filterMap_map]
      congr 1
      funext i
      have hplace : offset + 1 + i = offset + i.succ := by omega
      simp only [Function.comp, List.drop_succ_cons, hplace]
    rw [List.length_cons, List.range_succ_eq_map, List.filterMap_cons, ← hmoved, ← ih, callsFrom,
      List.drop_zero]
    cases callName? (c :: text) with
    | none => rfl
    | some found => rfl

theorem callsFrom_eq_callSites (line : List Char) :
    callsFrom 0 line = (callSites line).map fun site => (site.name, site.column) := by
  unfold callSites
  rw [callsFrom_eq_filterMap, List.map_filterMap]
  congr 1
  funext i
  unfold callSiteAt?
  rw [Option.map_map]
  simp [Function.comp_def]

/-- So their columns ascend. -/
theorem pairwise_callsFrom (line : List Char) :
    (callsFrom 0 line).Pairwise fun a b => a.2 < b.2 := by
  rw [callsFrom_eq_callSites, List.pairwise_map]
  refine (pairwise_callSites line).imp_of_mem ?_
  intro a b _ hb hbehind
  have hstart := (mem_callSites.1 hb).offset_lt_column
  show a.column < b.column
  omega

end order

/-! ## Section 3: Going on behind the last call -/

/-- The calls of a text that starts at `offset`, where the search goes on behind the name of
    the last call found. Of this call `skip` characters are still to be passed over. -/
def resumedCalls (offset : Nat) : (skip : Nat) → List Char → List (List Char × Nat)
  | _, [] => []
  | skip + 1, _ :: rest => resumedCalls (offset + 1) skip rest
  | 0, c :: rest =>
    match callName? (c :: rest) with
    | some (name, place) =>
      (name, offset + place) :: resumedCalls (offset + 1) (place + name.length - 1) rest
    | none => resumedCalls (offset + 1) 0 rest

theorem callName?_cons_of_ne {c : Char} (hc : c ≠ '$') (rest : List Char) :
    callName? (c :: rest) = none := by
  have hnone : afterKeyword? ['$', '(', 'c', 'a', 'l', 'l'] (c :: rest) = none := by
    simp [afterKeyword?, Ne.symm hc]
  unfold callName?
  rw [hnone]
  rfl

/-- The part of a call that is passed over, from behind its `$` to the end of its name, holds
    no `$`. -/
theorem dollar_not_mem_take {c : Char} {rest name : List Char} {place : Nat}
    (h : callName? (c :: rest) = some (name, place)) :
    '$' ∉ rest.take (place + name.length - 1) := by
  obtain ⟨gap, tail, htext, hgap, hname, -, rfl⟩ := callName?_eq_some_iff.1 h
  have hrest : rest = (['(', 'c', 'a', 'l', 'l'] ++ (gap ++ name)) ++ tail := by
    rw [(List.cons.inj htext).2]
    simp
  have hlength : 6 + gap.length + name.length - 1 =
      (['(', 'c', 'a', 'l', 'l'] ++ (gap ++ name)).length := by
    simp only [List.length_append, List.length_cons, List.length_nil]
    omega
  rw [hrest, hlength, List.take_left]
  exact dollar_not_mem hgap hname

/-- What is passed over holds no `$`, so nothing is missed in it. -/
theorem resumedCalls_eq (offset skip : Nat) (text : List Char) (h : '$' ∉ text.take skip) :
    resumedCalls offset skip text = callsFrom offset text := by
  induction text generalizing offset skip with
  | nil => cases skip <;> rfl
  | cons c rest ih =>
    cases skip with
    | succ skip =>
      -- a character that is passed over is no `$`, so no call starts at it
      rw [List.take_succ_cons, List.mem_cons, not_or] at h
      rw [resumedCalls, callsFrom, callName?_cons_of_ne (Ne.symm h.1)]
      exact ih (offset + 1) skip h.2
    | zero =>
      have hnext := ih (offset + 1) 0 (by simp)
      cases hcall : callName? (c :: rest) with
      | none => rw [resumedCalls, callsFrom, hcall, hnext]
      | some found =>
        obtain ⟨name, place⟩ := found
        rw [resumedCalls, callsFrom, hcall]
        show (name, offset + place) :: _ = (name, offset + place) :: _
        rw [ih (offset + 1) _ (dollar_not_mem_take hcall)]

/-! ## Section 4: The calls among the facts of a line -/

theorem ofNat_lt_ofNat {m n : Nat} (h : m < n) (hn : n < UInt32.size) :
    UInt32.ofNat m < UInt32.ofNat n := by
  rw [UInt32.lt_iff_toNat_lt, UInt32.toNat_ofNat_of_lt' hn,
    UInt32.toNat_ofNat_of_lt' (Nat.lt_trans h hn)]
  exact h

theorem facts_callsFrom (line : List Char) :
    ((classify line).filter fun fact => fact.pass = .call) =
      (callsFrom 0 line).map fun call =>
        Fact.call (String.ofList call.1) (UInt32.ofNat call.2) := by
  rw [filter_classify]
  rfl

theorem facts_call (line : List Char) :
    ((classify line).filter fun fact => fact.pass = .call) =
      (callSites line).map CallSite.fact := by
  rw [facts_callsFrom, callsFrom_eq_callSites, List.map_map]
  rfl

/-- The calls of a line.
    1. Where the line goes on with `$(call`, blanks and a character of a name, a call starts,
       and only one.
    2. The calls reported are these, each once, with the name as far as it goes and its offset
       modulo 2 ^ 32 as column. They come one behind the other: none starts before the name of
       the last one has ended, also if it is among its arguments. So the offsets ascend, and on
       a line of fewer than 2 ^ 32 characters the columns are the offsets and ascend as well.
    3. They are the calls that are found one after the other, when the search goes on behind
       the name of the last one. -/
theorem classify_calls (line : List Char) :
    (∀ offset gap c rest, line.drop offset = ['$', '(', 'c', 'a', 'l', 'l'] ++ (gap ++ c :: rest) →
      IsRun isBlank gap → isCallChar c = true →
      ∃ site : CallSite, (site.Stands line ∧ site.offset = offset) ∧
        ∀ other : CallSite, other.Stands line → other.offset = offset → other = site) ∧
    (∃ sites : List CallSite, (∀ site, site ∈ sites ↔ site.Stands line) ∧
      ((classify line).filter fun fact => fact.pass = .call) = sites.map CallSite.fact ∧
      (sites.Pairwise fun a b => a.offset < b.offset ∧ a.column < b.column ∧
        a.column + a.name.length ≤ b.offset) ∧
      (line.length < UInt32.size →
        (∀ site ∈ sites, (UInt32.ofNat site.column).toNat = site.column) ∧
        sites.Pairwise fun a b => UInt32.ofNat a.column < UInt32.ofNat b.column)) ∧
    ((classify line).filter fun fact => fact.pass = .call) =
      (resumedCalls 0 0 line).map fun call =>
        Fact.call (String.ofList call.1) (UInt32.ofNat call.2) := by
  have hordered : (callSites line).Pairwise fun a b => a.offset < b.offset ∧
      a.column < b.column ∧ a.column + a.name.length ≤ b.offset := by
    refine (pairwise_callSites line).imp_of_mem ?_
    intro a b ha hb hbehind
    have hstart := (mem_callSites.1 ha).offset_lt_column
    have hstart' := (mem_callSites.1 hb).offset_lt_column
    exact ⟨by omega, by omega, hbehind⟩
  refine ⟨?_, ⟨callSites line, fun _ => mem_callSites, facts_call line, hordered, ?_⟩, ?_⟩
  · intro offset gap c rest hdrop hgap hc
    obtain ⟨site, hstands, hoffset⟩ := exists_stands hdrop hgap hc
    refine ⟨site, ⟨hstands, hoffset⟩, ?_⟩
    intro other hother hsame
    exact hother.unique hstands (hsame.trans hoffset.symm)
  · intro hshort
    have hcolumns : ∀ site ∈ callSites line, site.column < UInt32.size := by
      intro site hsite
      have hcolumn := (mem_callSites.1 hsite).column_le
      omega
    refine ⟨fun site hsite => UInt32.toNat_ofNat_of_lt' (hcolumns site hsite), ?_⟩
    refine hordered.imp_of_mem ?_
    intro a b _ hb hab
    exact ofNat_lt_ofNat hab.2.1 (hcolumns b hb)
  · have hresumed : resumedCalls 0 0 line = callsFrom 0 line := resumedCalls_eq 0 0 line (by simp)
    rw [hresumed]
    exact facts_callsFrom line

-- three calls inside each other, and one that does not end
example : classify "$(call f,$(call g,$(call  é,1)))$(call h".toList =
    [.call "f" 7, .call "g" 16, .call "é" 26, .call "h" 39] := by
  decide +kernel

/-! ### A line of 2 ^ 32 characters and one more -/

/-- Two calls with blanks between them. -/
def farCalls (blanks : Nat) : List Char :=
  ['$', '(', 'c', 'a', 'l', 'l', ' ', 'f'] ++
    (List.replicate blanks ' ' ++ ['$', '(', 'c', 'a', 'l', 'l', ' ', 'g'])

/-- Characters other than `$` are passed over. -/
theorem callsFrom_append {front : List Char} (h : '$' ∉ front) (offset : Nat) (text : List Char) :
    callsFrom offset (front ++ text) = callsFrom (offset + front.length) text := by
  induction front generalizing offset with
  | nil => rfl
  | cons c front ih =>
    rw [List.mem_cons, not_or] at h
    rw [List.cons_append, callsFrom, callName?_cons_of_ne (Ne.symm h.1)]
    show callsFrom (offset + 1) (front ++ text) = _
    rw [ih h.2, List.length_cons, Nat.add_assoc, Nat.add_comm 1]

theorem callsFrom_farCalls (blanks : Nat) :
    callsFrom 0 (farCalls blanks) = [(['f'], 7), (['g'], blanks + 15)] := by
  have hfirst : callName? (farCalls blanks) = some (['f'], 7) := by
    have hblank : ∀ c ∈ [' '], isBlank c = true := fun c hc => by
      rw [List.mem_singleton.1 hc]
      decide
    have hname : ∀ c ∈ ['f'], isCallChar c = true := fun c hc => by
      rw [List.mem_singleton.1 hc]
      decide
    refine callName?_eq_some_iff.2 ⟨[' '], _, rfl, ⟨by simp, hblank⟩, ⟨by simp, hname⟩, ?_, rfl⟩
    -- behind the name stands a blank, or the dollar sign of the second call
    cases blanks with
    | zero => exact startsOutside_cons (by decide)
    | succ blanks => exact startsOutside_cons (by decide)
  have hfront : '$' ∉ ['(', 'c', 'a', 'l', 'l', ' ', 'f'] ++ List.replicate blanks ' ' := by
    simp
  have hlast : ∀ offset, callsFrom offset ['$', '(', 'c', 'a', 'l', 'l', ' ', 'g'] =
      [(['g'], offset + 7)] := fun offset => rfl
  have hrest := callsFrom_append hfront 1 ['$', '(', 'c', 'a', 'l', 'l', ' ', 'g']
  rw [hlast, List.length_append, List.length_replicate, List.append_assoc] at hrest
  unfold farCalls at hfirst ⊢
  rw [List.cons_append, callsFrom, ← List.cons_append, hfirst]
  show (['f'], 7) :: callsFrom 1 _ = _
  rw [hrest]
  simp only [List.length_cons, List.length_nil]
  congr 3
  omega

/-- The second name stands 2 ^ 32 characters behind the start of the line, so its column is
    lower than that of the first one. -/
theorem classify_farCalls_wraps :
    ((classify (farCalls (UInt32.size - 15))).filter fun fact => fact.pass = .call) =
      [.call "f" 7, .call "g" 0] ∧ ¬(7 : UInt32) < 0 := by
  have hfacts : ∀ blanks, ((classify (farCalls blanks)).filter fun fact => fact.pass = .call) =
      [.call "f" 7, .call "g" (UInt32.ofNat (blanks + 15))] := by
    intro blanks
    rw [facts_callsFrom, callsFrom_farCalls]
    rfl
  have hwrap : UInt32.ofNat (UInt32.size - 15 + 15) = 0 := by decide
  rw [hfacts, hwrap]
  exact ⟨rfl, by decide⟩

end MakeLens
