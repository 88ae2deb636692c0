import Mathlib.Data.List.Forall2
import MakeLens.Line.Logical
import MakeLens.Proofs.NormalPath

/-! # Physical lines

    What the lines of a text are before any of them are joined. The text is cut at its line
    feeds; of each part, one carriage return at its end is dropped, and then everything from
    the first `#` on that no backslash precedes.

    * `lineFrom_physicalLines` says this of all lines at once, without the functions that
      compute them;
    * `physicalLines_append`: a line feed parts the lines of what stands before it from the
      lines of what stands behind it.
-/

namespace MakeLens

/-! ## Section 1: Cutting at line feeds -/

section pieces

variable {α : Type} [DecidableEq α] (separator : α)

theorem pieces_eq_splitOn (text : List α) : pieces separator text = text.splitOn separator := by
  induction text with
  | nil => rfl
  | cons a rest ih =>
    obtain ⟨first, others, hcut⟩ := List.exists_cons_of_ne_nil (pieces_ne_nil separator rest)
    rw [List.splitOn_cons_eq_if_modifyHead, ← ih, pieces, hcut]
    by_cases h : a = separator <;> simp [h]

theorem length_pieces (text : List α) :
    (pieces separator text).length = text.count separator + 1 := by
  induction text with
  | nil => rfl
  | cons a rest ih =>
    rw [pieces_eq_splitOn] at ih ⊢
    rw [List.splitOn_cons_eq_if_modifyHead]
    by_cases h : a = separator <;> simp [h, ih]

/-- The pieces, with the separator between them, are the text. -/
theorem intercalate_pieces (text : List α) :
    [separator].intercalate (pieces separator text) = text := by
  rw [pieces_eq_splitOn]
  exact List.intercalate_splitOn separator

theorem pieces_append_separator (front rest : List α) :
    pieces separator (front ++ separator :: rest) =
      pieces separator front ++ pieces separator rest := by
  simp only [pieces_eq_splitOn]
  exact List.splitOn_append_cons_self front rest

end pieces

theorem length_physicalLines (text : List Char) :
    (physicalLines text).length = text.count '\n' + 1 := by
  unfold physicalLines
  rw [List.length_map, length_pieces]

theorem physicalLines_append (above below : List Char) :
    physicalLines (above ++ '\n' :: below) = physicalLines above ++ physicalLines below := by
  unfold physicalLines
  rw [pieces_append_separator, List.map_append]

/-! ## Section 2: What is cut off a line -/

/-- A comment begins at a place of a line with the characters `chars`: there is a `#` that no
    backslash precedes. -/
def CommentAt (chars : List Char) (place : Nat) : Prop :=
  chars[place]? = some '#' ∧ (0 < place → chars[place - 1]? ≠ some '\\')

/-- `cut` is what stands before the first place of `line` where a comment begins, and all of
    `line` if there is none. -/
structure CutAtComment (line cut : List Char) : Prop where
  isPrefix : cut <+: line
  not_before : ∀ place, place < cut.length → ¬ CommentAt line place
  at_end : cut ≠ line → CommentAt line cut.length

/-- `line` is what is read of `raw`, a part of a text between two line feeds: one carriage
    return at its end is dropped, and then its comment. -/
def LineFrom (raw line : List Char) : Prop :=
  ∃ physical, (raw = physical ++ ['\r'] ∨ raw = physical ∧ raw.getLast? ≠ some '\r') ∧
    CutAtComment physical line

section comments

variable {c d : Char} {rest : List Char} {place : Nat}

theorem commentAt_zero : CommentAt (c :: rest) 0 ↔ c = '#' := by
  simp [CommentAt]

theorem commentAt_one : CommentAt (c :: d :: rest) 1 ↔ d = '#' ∧ c ≠ '\\' := by
  simp [CommentAt]

/-- Only the character before a place counts. -/
theorem commentAt_add_two : CommentAt (c :: rest) (place + 2) ↔ CommentAt rest (place + 1) := by
  simp [CommentAt]

/-- Cutting goes on behind a character `c`. The places are those of the line that begins
    with `c`. -/
theorem beforeComment_cut (c : Char) (rest : List Char) :
    beforeComment (c == '\\') rest <+: rest ∧
    (∀ place, place < (beforeComment (c == '\\') rest).length →
      ¬ CommentAt (c :: rest) (place + 1)) ∧
    (beforeComment (c == '\\') rest ≠ rest →
      CommentAt (c :: rest) ((beforeComment (c == '\\') rest).length + 1)) := by
  induction rest generalizing c with
  | nil => exact ⟨List.prefix_refl _, by simp [beforeComment], by simp [beforeComment]⟩
  | cons d rest ih =>
    rw [beforeComment]
    split
    · next hmark =>
      have hcomment : CommentAt (c :: d :: rest) 1 := commentAt_one.2 (by simpa using hmark)
      exact ⟨List.nil_prefix, by simp, fun _ => hcomment⟩
    · next hplain =>
      have hfirst : ¬ CommentAt (c :: d :: rest) 1 := by
        rw [commentAt_one]
        simpa using hplain
      obtain ⟨hpre, hbefore, hend⟩ := ih d
      refine ⟨(List.prefix_cons_inj d).2 hpre, ?_, ?_⟩
      · intro place hplace
        cases place with
        | zero => exact hfirst
        | succ place =>
          -- from here on `d` takes the part of `c`
          rw [commentAt_add_two]
          exact hbefore place (Nat.lt_of_succ_lt_succ hplace)
      · intro hne
        rw [List.length_cons, commentAt_add_two]
        exact hend fun heq => hne (congrArg (d :: ·) heq)

end comments

theorem cutAtComment_stripComment (line : List Char) :
    CutAtComment line (stripComment line) := by
  unfold stripComment
  cases line with
  | nil => exact ⟨List.prefix_refl _, by simp [beforeComment], by simp [beforeComment]⟩
  | cons c rest =>
    rw [beforeComment]
    split
    · next hmark => exact ⟨List.nil_prefix, by simp, fun _ => commentAt_zero.2 hmark.1⟩
    · next hplain =>
      obtain ⟨hpre, hbefore, hend⟩ := beforeComment_cut c rest
      refine ⟨(List.prefix_cons_inj c).2 hpre, ?_, ?_⟩
      · intro place hplace
        cases place with
        | zero =>
          rw [commentAt_zero]
          simpa using hplain
        | succ place => exact hbefore place (Nat.lt_of_succ_lt_succ hplace)
      · intro hne
        exact hend fun heq => hne (congrArg (c :: ·) heq)

theorem lineFrom_stripComment_dropReturn (raw : List Char) :
    LineFrom raw (stripComment (dropReturn raw)) := by
  refine ⟨dropReturn raw, ?_, cutAtComment_stripComment _⟩
  unfold dropReturn
  split
  · next hreturn =>
    obtain ⟨front, rfl⟩ := List.getLast?_eq_some_iff.1 hreturn
    left
    rw [List.dropLast_concat]
  · next hplain => exact Or.inr ⟨rfl, hplain⟩

/-- All lines of a text. -/
theorem lineFrom_physicalLines (text : List Char) :
    List.Forall₂ LineFrom (pieces '\n' text) ((physicalLines text).map stripComment) := by
  unfold physicalLines
  rw [List.map_map, List.forall₂_map_right_iff, List.forall₂_same]
  intro raw _
  exact lineFrom_stripComment_dropReturn raw

end MakeLens
