import Mathlib.Logic.Relation
import MakeLens.Proofs.LineForms
import MakeLens.Proofs.Substitution

/-! # Rewriting a value round by round

    The references of a value are replaced inside the text, in a loop with a cursor that
    counts bytes. Each round looks for the next reference at or behind the cursor, puts the
    expansion of its name in its place and moves the cursor behind it, or behind the
    reference where the name has no expansion. The text grows and shrinks meanwhile, and
    what was put in may end with the first characters of a new reference.

    One fact carries everything (`Underway`): what stands before the cursor is the
    beginning of the value with its references replaced, and what stands behind it is
    the rest of the value as it was. So

    * the bytes that a round replaces are those of the next reference of the value, and
      start and end between two characters;
    * every round takes one part of the value, and the loop ends;
    * at its end the text is the value with all references replaced in one pass.
-/

namespace MakeLens

/-! ## Section 1: The references of a value -/

/-- How a reference is written: `$`, an opening bracket, one word character or more, and a
    closing bracket, which need not match the opening one. -/
def IsReference (written name : List Char) : Prop :=
  ∃ opening closing, written = '$' :: opening :: (name ++ [closing]) ∧
    (opening = '(' ∨ opening = '\x7b') ∧ (closing = ')' ∨ closing = '\x7d') ∧
    name ≠ [] ∧ ∀ c ∈ name, isWordChar c = true

/-- A reference stands at the start of the text. -/
def StartsReference (text : List Char) : Prop :=
  ∃ written name rest, text = written ++ rest ∧ IsReference written name

theorem referencedName?_of_isReference {written name : List Char} (h : IsReference written name)
    (rest : List Char) : referencedName? (written ++ rest) = some name := by
  obtain ⟨opening, closing, rfl, hopening, hclosing, hne, hword⟩ := h
  have hclosed : isWordChar closing = false := by
    rcases hclosing with rfl | rfl
    · decide
    · decide
  have houtside : StartsOutside isWordChar (closing :: rest) := startsOutside_cons hclosed
  have htake : (name ++ closing :: rest).takeWhile isWordChar = name :=
    takeWhile_run hword houtside
  have hdrop : (name ++ closing :: rest).dropWhile isWordChar = closing :: rest := by
    rw [List.dropWhile_append_of_pos hword]
    simp [hclosed]
  have htext : '$' :: opening :: (name ++ [closing]) ++ rest =
      '$' :: opening :: (name ++ closing :: rest) := by
    simp
  rw [htext, referencedName?, htake, hdrop]
  simp [hopening, hclosing, hne]

theorem isReference_of_referencedName? {text name : List Char}
    (h : referencedName? text = some name) :
    IsReference (text.take (name.length + 3)) name := by
  unfold referencedName? at h
  split at h
  · next opening rest =>
    simp only at h
    split at h
    · next closing after hafter =>
      split at h
      · next hparts =>
        cases h
        obtain ⟨hopening, hne, hclosing⟩ := hparts
        have hrest : rest = rest.takeWhile isWordChar ++ closing :: after := by
          rw [← hafter, List.takeWhile_append_dropWhile]
        refine ⟨opening, closing, ?_, hopening, hclosing, hne, fun _ => of_mem_takeWhile⟩
        -- the name and the three characters around it
        have htake : ∀ name, rest = name ++ closing :: after →
            rest.take (name.length + 1) = name ++ [closing] := by
          intro name hname
          have hlength : name.length + 1 = (name ++ [closing]).length := by simp
          rw [hname, List.append_cons, hlength, List.take_left]
        simp [htake _ hrest]
      · cases h
    · cases h
  · cases h

theorem referencedName?_eq_none_iff {text : List Char} :
    referencedName? text = none ↔ ¬ StartsReference text := by
  constructor
  · intro hnone ⟨written, name, rest, htext, hreference⟩
    rw [htext, referencedName?_of_isReference hreference] at hnone
    cases hnone
  · intro hnot
    rw [Option.eq_none_iff_forall_ne_some]
    intro name hname
    exact hnot ⟨_, name, _, (List.take_append_drop _ _).symm, isReference_of_referencedName? hname⟩

/-- A part of a value as it is written. -/
def Segment.original : Segment → List Char
  | .plain c => [c]
  | .reference written _ => written

/-- What a part of a value says of the text that starts with it. -/
def Segment.Stands (text : List Char) : Segment → Prop
  | .plain _ => ¬ StartsReference text
  | .reference written name => IsReference written name.toList

/-- The parts of a value are the whole value. -/
theorem flatMap_original_segments (text : List Char) :
    (segments text).flatMap Segment.original = text := by
  fun_induction segments text with
  | case1 => rfl
  | case2 c rest name _ ih =>
    rw [List.flatMap_cons, ih]
    exact List.take_append_drop _ _
  | case3 c rest _ ih =>
    rw [List.flatMap_cons, ih]
    rfl

/-- What follows a part is parted in the same way when it stands alone. -/
theorem segments_flatMap_original {text : List Char} {front back : List Segment}
    (h : segments text = front ++ back) : segments (back.flatMap Segment.original) = back := by
  induction front generalizing text with
  | nil =>
    have hback : segments text = back := h
    rw [← hback, flatMap_original_segments]
  | cons s front ih =>
    cases text with
    | nil =>
      rw [segments] at h
      cases h
    | cons c rest =>
      rw [segments] at h
      split at h
      · exact ih (List.cons.inj h).2
      · exact ih (List.cons.inj h).2

/-- The first part of a text is a reference wherever one starts. -/
theorem stands_of_segments_eq_cons {text : List Char} {s : Segment} {back : List Segment}
    (h : segments text = s :: back) : s.Stands text := by
  cases text with
  | nil =>
    rw [segments] at h
    cases h
  | cons c rest =>
    rw [segments] at h
    split at h
    · next name hname =>
      cases h
      show IsReference _ (String.ofList name).toList
      rw [String.toList_ofList]
      exact isReference_of_referencedName? hname
    · next hnone =>
      cases h
      exact referencedName?_eq_none_iff.1 hnone

/-- The parts of a value are its leftmost references that do not overlap, and the plain
    characters between them. -/
theorem stands_of_segments {text : List Char} {front back : List Segment} {s : Segment}
    (h : segments text = front ++ s :: back) :
    s.Stands ((s :: back).flatMap Segment.original) :=
  stands_of_segments_eq_cons (segments_flatMap_original h)

/-! ## Section 2: Bytes -/

/-- How many bytes a text takes in UTF-8. -/
def byteLength (text : List Char) : Nat :=
  (String.ofList text).utf8ByteSize

@[simp] theorem byteLength_append (text rest : List Char) :
    byteLength (text ++ rest) = byteLength text + byteLength rest := by
  unfold byteLength
  rw [String.ofList_append, String.utf8ByteSize_append]

@[simp] theorem byteLength_cons (c : Char) (rest : List Char) :
    byteLength (c :: rest) = c.utf8Size + byteLength rest := by
  have hone : byteLength [c] = c.utf8Size := by
    show (String.singleton c).utf8ByteSize = _
    exact String.utf8ByteSize_singleton
  have hsplit := byteLength_append [c] rest
  rw [hone] at hsplit
  exact hsplit

/-- The byte `offset` of a text starts a character, or is the end of the text. -/
def IsBoundary (text : List Char) (offset : Nat) : Prop :=
  String.Pos.Raw.IsValid (String.ofList text) ⟨offset⟩

theorem isBoundary_append (front back : List Char) :
    IsBoundary (front ++ back) (byteLength front) := by
  refine String.Pos.Raw.isValid_iff_exists_append.2
    ⟨String.ofList front, String.ofList back, String.ofList_append, rfl⟩

/-- Parts a text at a byte offset, which has to be a boundary. -/
def splitAtByte? : (text : List Char) → (offset : Nat) → Option (List Char × List Char)
  | [], offset => if offset = 0 then some ([], []) else none
  | c :: rest, offset =>
    if offset = 0 then some ([], c :: rest)
    else if c.utf8Size ≤ offset then
      (splitAtByte? rest (offset - c.utf8Size)).map fun parts => (c :: parts.1, parts.2)
    else none

/-- Puts a text in the place of the bytes from `start` to `stop`, which have to be
    boundaries. -/
def replaceBytes? (text : List Char) (start stop : Nat) (replacement : List Char) :
    Option (List Char) := do
  let (front, _) ← splitAtByte? text start
  let (_, back) ← splitAtByte? text stop
  if start ≤ stop then some (front ++ (replacement ++ back)) else none

theorem splitAtByte?_append (front back : List Char) :
    splitAtByte? (front ++ back) (byteLength front) = some (front, back) := by
  induction front with
  | nil => cases back <;> rfl
  | cons c front ih =>
    have hpos : c.utf8Size + byteLength front ≠ 0 := by
      have := c.utf8Size_pos
      omega
    rw [List.cons_append, splitAtByte?, byteLength_cons, if_neg hpos, if_pos (Nat.le_add_right _ _),
      Nat.add_sub_cancel_left, ih]
    rfl

theorem replaceBytes?_append (front written back replacement : List Char) :
    replaceBytes? (front ++ (written ++ back)) (byteLength front) (byteLength (front ++ written))
      replacement = some (front ++ (replacement ++ back)) := by
  have hstart := splitAtByte?_append front (written ++ back)
  have hstop := splitAtByte?_append (front ++ written) back
  rw [List.append_assoc] at hstop
  unfold replaceBytes?
  rw [hstart, hstop]
  simp

/-! ## Section 3: The rounds -/

/-- The bytes that a reference takes in a text, and its name. -/
structure ByteMatch where
  start : Nat
  stop : Nat
  name : String
  deriving DecidableEq, Repr

/-- The first reference at or behind the byte `cursor`, in a text that starts at the byte
    `offset`. -/
def firstMatch? (cursor offset : Nat) : List Char → Option ByteMatch
  | [] => none
  | c :: rest =>
    if offset < cursor then firstMatch? cursor (offset + c.utf8Size) rest
    else match referencedName? (c :: rest) with
      | some name =>
        some ⟨offset, offset + byteLength ((c :: rest).take (name.length + 3)), String.ofList name⟩
      | none => firstMatch? cursor (offset + c.utf8Size) rest

/-- A text that is being rewritten, and the byte from which on it is still to be looked
    at. -/
structure Rewriting where
  text : List Char
  cursor : Nat
  deriving DecidableEq, Repr

/-- The reference that the next round is about. -/
def Rewriting.next? (r : Rewriting) : Option ByteMatch :=
  firstMatch? r.cursor 0 r.text

/-- One round of the loop. There is none where no reference is left, nor where a range that
    is to be replaced does not lie on boundaries. -/
inductive Round (resolve : String → Option (List Char)) : Rewriting → Rewriting → Prop where
  | replaced {r : Rewriting} {m : ByteMatch} {replacement text : List Char} :
      r.next? = some m → resolve m.name = some replacement →
      replaceBytes? r.text m.start m.stop replacement = some text →
      Round resolve r ⟨text, m.start + byteLength replacement⟩
  | kept {r : Rewriting} {m : ByteMatch} :
      r.next? = some m → resolve m.name = none → Round resolve r ⟨r.text, m.stop⟩

/-- Nothing before the cursor is looked at. -/
theorem firstMatch?_skip (offset : Nat) (done text : List Char) :
    firstMatch? (offset + byteLength done) offset (done ++ text) =
      firstMatch? (offset + byteLength done) (offset + byteLength done) text := by
  induction done generalizing offset with
  | nil => rfl
  | cons c done ih =>
    have hpos := c.utf8Size_pos
    have hbefore : offset < offset + byteLength (c :: done) := by
      rw [byteLength_cons]
      omega
    have hsum : offset + byteLength (c :: done) = offset + c.utf8Size + byteLength done := by
      rw [byteLength_cons]
      omega
    rw [List.cons_append, firstMatch?, if_pos hbefore, hsum]
    exact ih (offset + c.utf8Size)

/-- How a text goes on: either it has no reference, or there is a first one, with plain
    characters before it. Both the search by bytes and the parts of the text know it. -/
theorem firstMatch?_cases {cursor offset : Nat} (text : List Char) (hcursor : cursor ≤ offset) :
    (firstMatch? cursor offset text = none ∧ segments text = text.map Segment.plain) ∨
    ∃ front written name tail, text = front ++ (written ++ tail) ∧
      segments text = front.map Segment.plain ++ .reference written name :: segments tail ∧
      firstMatch? cursor offset text =
        some ⟨offset + byteLength front, offset + byteLength (front ++ written), name⟩ := by
  induction text generalizing offset with
  | nil => exact Or.inl ⟨rfl, by rw [segments]; rfl⟩
  | cons c rest ih =>
    cases hname : referencedName? (c :: rest) with
    | some name =>
      right
      refine ⟨[], (c :: rest).take (name.length + 3), String.ofList name,
        (c :: rest).drop (name.length + 3), ?_, ?_, ?_⟩
      · rw [List.nil_append, List.take_append_drop]
      · rw [segments, hname]
        rfl
      · rw [firstMatch?, if_neg (by omega), hname]
        rfl
    | none =>
      have hsearch : firstMatch? cursor offset (c :: rest) =
          firstMatch? cursor (offset + c.utf8Size) rest := by
        rw [firstMatch?, if_neg (by omega), hname]
      have hparts : segments (c :: rest) = .plain c :: segments rest := by
        rw [segments, hname]
      rw [hsearch, hparts]
      have hfurther : cursor ≤ offset + c.utf8Size := by omega
      rcases ih hfurther with
        ⟨hnone, hplain⟩ | ⟨front, written, name, tail, rfl, hsegments, hfound⟩
      · exact Or.inl ⟨hnone, by rw [hplain]; rfl⟩
      · right
        refine ⟨c :: front, written, name, tail, rfl, by rw [hsegments]; rfl, ?_⟩
        rw [hfound]
        simp only [List.cons_append, byteLength_cons, byteLength_append, Option.some.injEq,
          ByteMatch.mk.injEq, and_true]
        omega

/-- A round is determined by the reference it is about. -/
theorem round_iff {resolve : String → Option (List Char)} {r next : Rewriting} {m : ByteMatch}
    {put : List Char → List Char} (hnext : r.next? = some m)
    (hrange : ∀ replacement, replaceBytes? r.text m.start m.stop replacement =
      some (put replacement)) :
    Round resolve r next ↔
      next = match resolve m.name with
        | some replacement => ⟨put replacement, m.start + byteLength replacement⟩
        | none => ⟨r.text, m.stop⟩ := by
  constructor
  · intro hround
    cases hround with
    | replaced hfound hresolve htext =>
      rw [hnext] at hfound
      cases hfound
      rw [hrange] at htext
      cases htext
      simp only [hresolve]
    | kept hfound hresolve =>
      rw [hnext] at hfound
      cases hfound
      simp only [hresolve]
  · intro heq
    rw [heq]
    cases hresolve : resolve m.name with
    | some replacement => exact Round.replaced hnext hresolve (hrange replacement)
    | none => exact Round.kept hnext hresolve

/-- Without a reference there is no round. -/
theorem not_round_of_next?_none {resolve : String → Option (List Char)} {r next : Rewriting}
    (hnone : r.next? = none) : ¬ Round resolve r next := by
  intro hround
  cases hround with
  | replaced hfound _ _ =>
    rw [hnone] at hfound
    cases hfound
  | kept hfound _ =>
    rw [hnone] at hfound
    cases hfound

/-! ## Section 4: What every round keeps -/

/-- A text with the cursor between `done` and `rest`. -/
def Rewriting.between (done rest : List Char) : Rewriting where
  text := done ++ rest
  cursor := byteLength done

section rounds

variable {resolve : String → Option (List Char)}

/-- The next reference is the first one of what stands behind the cursor. -/
theorem next?_between (done rest : List Char) :
    ((Rewriting.between done rest).next? = none ∧ segments rest = rest.map Segment.plain) ∨
    ∃ plain written name tail, rest = plain ++ (written ++ tail) ∧
      segments rest = plain.map Segment.plain ++ .reference written name :: segments tail ∧
      (Rewriting.between done rest).next? =
        some ⟨byteLength (done ++ plain), byteLength (done ++ (plain ++ written)), name⟩ := by
  have hskip := firstMatch?_skip 0 done rest
  rw [Nat.zero_add] at hskip
  have hnext : (Rewriting.between done rest).next? =
      firstMatch? (byteLength done) (byteLength done) rest := hskip
  have hcases := firstMatch?_cases rest (Nat.le_refl (byteLength done))
  simp only [← byteLength_append] at hcases
  rw [hnext]
  exact hcases

/-- A round moves the cursor behind the reference, which then has been replaced. -/
theorem round_between {done plain written tail : List Char} {name : String}
    (hnext : (Rewriting.between done (plain ++ (written ++ tail))).next? =
      some ⟨byteLength (done ++ plain), byteLength (done ++ (plain ++ written)), name⟩)
    {next : Rewriting} :
    Round resolve (.between done (plain ++ (written ++ tail))) next ↔
      next = .between (done ++ (plain ++ (resolve name).getD written)) tail := by
  have hrange : ∀ replacement,
      replaceBytes? (done ++ (plain ++ (written ++ tail))) (byteLength (done ++ plain))
        (byteLength (done ++ (plain ++ written))) replacement =
      some (done ++ plain ++ (replacement ++ tail)) := by
    intro replacement
    have hbytes := replaceBytes?_append (done ++ plain) written tail replacement
    simp only [List.append_assoc] at hbytes ⊢
    exact hbytes
  rw [round_iff hnext hrange]
  cases hresolve : resolve name with
  | some replacement => simp [Rewriting.between, Nat.add_assoc]
  | none => simp [Rewriting.between]

theorem flatMap_render_plain (plain : List Char) :
    (plain.map Segment.plain).flatMap (Segment.render resolve) = plain := by
  induction plain with
  | nil => rfl
  | cons c plain ih =>
    rw [List.map_cons, List.flatMap_cons, ih]
    rfl

/-- The parts that a round adds to what is done. -/
theorem flatMap_render_round (front : List Segment) (plain written : List Char) (name : String) :
    (front ++ (plain.map Segment.plain ++ [Segment.reference written name])).flatMap
        (Segment.render resolve) =
      front.flatMap (Segment.render resolve) ++ (plain ++ (resolve name).getD written) := by
  rw [List.flatMap_append, List.flatMap_append, flatMap_render_plain, List.flatMap_singleton]
  rfl

/-- The loop ends: each round leaves fewer parts behind the cursor. -/
theorem acc_between (done rest : List Char) :
    Acc (fun next r => Round resolve r next) (.between done rest) := by
  induction hcount : (segments rest).length using Nat.strongRecOn generalizing done rest with
  | _ n ih =>
    constructor
    intro next hround
    rcases next?_between done rest with
      ⟨hnone, -⟩ | ⟨plain, written, name, tail, rfl, hsegments, hnext⟩
    · exact absurd hround (not_round_of_next?_none hnone)
    · rw [(round_between hnext).1 hround]
      apply ih (segments tail).length _ _ _ rfl
      rw [hsegments] at hcount
      simp only [List.length_append, List.length_map, List.length_cons] at hcount
      omega

/-- A moment of the loop over `value`: the parts in `front` are done, and `rest` is left as
    it was. -/
structure Underway (resolve : String → Option (List Char)) (value : List Char)
    (front : List Segment) (rest : List Char) (r : Rewriting) : Prop where
  segments_eq : segments value = front ++ segments rest
  value_eq : value = front.flatMap Segment.original ++ rest
  text_eq : r.text = front.flatMap (Segment.render resolve) ++ rest
  cursor_eq : r.cursor = byteLength (front.flatMap (Segment.render resolve))

theorem Underway.eq_between {value rest : List Char} {front : List Segment} {r : Rewriting}
    (h : Underway resolve value front rest r) :
    r = .between (front.flatMap (Segment.render resolve)) rest := by
  obtain ⟨text, cursor⟩ := r
  have htext := h.text_eq
  have hcursor := h.cursor_eq
  simp only at htext hcursor
  rw [htext, hcursor]
  rfl

/-- One round. -/
theorem Underway.step {value rest : List Char} {front : List Segment} {r next : Rewriting}
    (h : Underway resolve value front rest r) (hround : Round resolve r next) :
    ∃ front' rest', Underway resolve value front' rest' next := by
  rw [h.eq_between] at hround
  rcases next?_between (front.flatMap (Segment.render resolve)) rest with
    ⟨hnone, -⟩ | ⟨plain, written, name, tail, rfl, hsegments, hnext⟩
  · exact absurd hround (not_round_of_next?_none hnone)
  · have heq := (round_between hnext).1 hround
    rw [← flatMap_render_round] at heq
    have hvalue := h.segments_eq
    rw [hsegments] at hvalue
    refine ⟨front ++ (plain.map Segment.plain ++ [.reference written name]), tail, ?_, ?_, ?_, ?_⟩
    · rw [hvalue]
      simp only [List.append_assoc, List.singleton_append]
    · -- both sides spell out all the parts of the value
      rw [← flatMap_original_segments value, hvalue]
      simp only [List.flatMap_append, List.flatMap_cons, flatMap_original_segments,
        List.append_assoc, List.flatMap_nil, List.append_nil]
    · rw [heq]
      rfl
    · rw [heq]
      rfl

/-- All rounds. -/
theorem exists_underway {value : List Char} {r : Rewriting}
    (h : Relation.ReflTransGen (Round resolve) ⟨value, 0⟩ r) :
    ∃ front rest, Underway resolve value front rest r := by
  induction h with
  | refl => exact ⟨[], value, rfl, rfl, rfl, rfl⟩
  | tail _ hround ih =>
    obtain ⟨front, rest, hunderway⟩ := ih
    exact hunderway.step hround

/-- At the end nothing but plain characters is left. -/
theorem Underway.text_of_next?_none {value rest : List Char} {front : List Segment}
    {r : Rewriting} (h : Underway resolve value front rest r) (hnone : r.next? = none) :
    r.text = replaceReferences resolve value := by
  rw [h.eq_between] at hnone
  rcases next?_between (front.flatMap (Segment.render resolve)) rest with
    ⟨-, hplain⟩ | ⟨plain, written, name, tail, -, -, hsome⟩
  · have hvalue := h.segments_eq
    rw [hplain] at hvalue
    unfold replaceReferences
    rw [h.text_eq, hvalue, List.flatMap_append, flatMap_render_plain]
  · rw [hsome] at hnone
    cases hnone

end rounds

/-! ## Section 5: The value of a definition -/

/-- Replacing the references of a definition's value, inside an expansion with any definitions
    on its stack and any depth. Each name is expanded where the definition stands.
    1. The parts of the value are the leftmost references that do not overlap, and the plain
       characters between them.
    2. The result is the value with each of these references replaced, or kept where its
       name has no expansion.
    3. The loop over the bytes of the text ends.
    4. At every moment of it, what stands before the cursor is the beginning of the value
       with its references replaced, and behind the cursor stands the rest of the value as it
       was. If no reference is left, the text is the result. If there is one, it is the next
       one of the value; its bytes start and end at boundaries of the text, and there is
       a next round. -/
theorem Cache.substitute_rounds (cache : Cache) (depth : Nat) (stack : List Site) (e : Entity) :
    let resolve := fun inner =>
      cache.expandInside (depth - stack.length) stack inner e.file e.line
    let value := e.value.toList
    ((segments value).flatMap Segment.original = value ∧
      ∀ front s back, segments value = front ++ s :: back →
        s.Stands ((s :: back).flatMap Segment.original)) ∧
    substitute resolve value = (segments value).flatMap (Segment.render resolve) ∧
    Acc (fun next r => Round resolve r next) ⟨value, 0⟩ ∧
    ∀ r, Relation.ReflTransGen (Round resolve) ⟨value, 0⟩ r →
      ∃ front rest, Underway resolve value front rest r ∧
        (r.next? = none → r.text = substitute resolve value) ∧
        ∀ m, r.next? = some m →
          (∃ plain written tail, rest = plain ++ (written ++ tail) ∧
            segments rest = plain.map Segment.plain ++ .reference written m.name :: segments tail ∧
            m.start = r.cursor + byteLength plain ∧ m.stop = m.start + byteLength written) ∧
          IsBoundary r.text m.start ∧ IsBoundary r.text m.stop ∧ ∃ next, Round resolve r next := by
  intro resolve value
  refine ⟨⟨flatMap_original_segments value, fun _ _ _ => stands_of_segments⟩,
    substitute_eq_replaceReferences resolve value, acc_between [] value, ?_⟩
  intro r hreached
  obtain ⟨front, rest, hunderway⟩ := exists_underway hreached
  refine ⟨front, rest, hunderway, ?_, ?_⟩
  · intro hnone
    rw [substitute_eq_replaceReferences]
    exact hunderway.text_of_next?_none hnone
  · intro m hsome
    have hr := hunderway.eq_between
    rw [hr] at hsome ⊢
    rcases next?_between (front.flatMap (Segment.render resolve)) rest with
      ⟨hnone, -⟩ | ⟨plain, written, name, tail, rfl, hsegments, hnext⟩
    · rw [hnone] at hsome
      cases hsome
    · rw [hnext] at hsome
      cases hsome
      refine ⟨⟨plain, written, tail, rfl, hsegments, byteLength_append _ _, ?_⟩, ?_, ?_,
        _, (round_between hnext).2 rfl⟩
      · simp only [byteLength_append, Nat.add_assoc]
      · have hboundary := isBoundary_append (front.flatMap (Segment.render resolve) ++ plain)
          (written ++ tail)
        rw [List.append_assoc] at hboundary
        exact hboundary
      · have hboundary := isBoundary_append
          (front.flatMap (Segment.render resolve) ++ (plain ++ written)) tail
        simp only [List.append_assoc] at hboundary
        exact hboundary

-- what was put in and what follows it look like a reference together, and are not taken as one
example : substitute (fun name => if name = "A" then some "x$(".toList else some "!".toList)
    "é$(A)B)".toList = "éx$(B)".toList := by
  decide +kernel

end MakeLens
