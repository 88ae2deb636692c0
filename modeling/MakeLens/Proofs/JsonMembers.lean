import Mathlib.Data.String.Basic
import MakeLens.Settings.Overlay

/-! # Members of objects

    The members of an object stand in ascending order of their keys, so that each key is
    there once. Putting a member in and laying members over others keep the order, and
    both are known by what they do to the member of each key: a member that is laid over
    replaces the one below, `null` replaces nothing, and where both are objects they are
    laid over each other in turn.
-/

namespace MakeLens.Json

/-! ## Section 1: One member -/

section members

variable {α : Type} {key other : String} {value : α} {members : List (String × α)}

/-- The keys of members ascend. -/
def Ascending (members : List (String × α)) : Prop :=
  members.Pairwise fun a b => a.1 < b.1

/-- The values have no part in the order. -/
theorem ascending_iff_keys :
    Ascending members ↔ (members.map Prod.fst).Pairwise (· < ·) :=
  List.pairwise_map.symm

@[simp] theorem member?_nil : member? key ([] : List (String × α)) = none :=
  rfl

theorem member?_cons (first : String × α) :
    member? key (first :: members) = if first.1 = key then some first.2 else member? key members := by
  unfold member?
  by_cases h : first.1 = key
  · rw [List.find?_cons_of_pos (by simpa using h), if_pos h]
    rfl
  · rw [List.find?_cons_of_neg (by simpa using h), if_neg h]

/-- A member that is put in is found, and hides no other one. The order of the members
    does not matter. -/
theorem member?_putMember :
    member? other (putMember key value members) =
      if key = other then some value else member? other members := by
  induction members with
  | nil => exact member?_cons (key, value)
  | cons first rest ih =>
    obtain ⟨k, v⟩ := first
    unfold putMember
    by_cases hbefore : key < k
    · rw [if_pos hbefore, member?_cons]
    · rw [if_neg hbefore]
      by_cases hsame : key = k
      · subst hsame
        rw [if_pos rfl, member?_cons, member?_cons]
        by_cases hother : key = other <;> simp [hother]
      · rw [if_neg hsame, member?_cons, member?_cons, ih]
        by_cases hother : key = other
        · subst hother
          simp [Ne.symm hsame]
        · simp [hother]

theorem mem_of_mem_putMember {m : String × α} (h : m ∈ putMember key value members) :
    m = (key, value) ∨ m ∈ members := by
  induction members with
  | nil => exact Or.inl (List.mem_singleton.1 h)
  | cons first rest ih =>
    obtain ⟨k, v⟩ := first
    unfold putMember at h
    split at h
    · exact List.mem_cons.1 h
    · split at h
      · rcases List.mem_cons.1 h with hnew | hold
        · exact Or.inl hnew
        · exact Or.inr (List.mem_cons_of_mem _ hold)
      · rcases List.mem_cons.1 h with hfirst | hrest
        · exact Or.inr (hfirst ▸ List.mem_cons_self)
        · rcases ih hrest with hnew | hold
          · exact Or.inl hnew
          · exact Or.inr (List.mem_cons_of_mem _ hold)

theorem Ascending.putMember (h : Ascending members) : Ascending (putMember key value members) := by
  induction members with
  | nil => exact List.pairwise_singleton _ _
  | cons first rest ih =>
    obtain ⟨k, v⟩ := first
    obtain ⟨hfirst, hrest⟩ := List.pairwise_cons.1 h
    unfold Json.putMember
    by_cases hbefore : key < k
    · rw [if_pos hbefore]
      refine List.pairwise_cons.2 ⟨?_, h⟩
      intro m hm
      rcases List.mem_cons.1 hm with rfl | hm
      · exact hbefore
      · exact String.lt_trans hbefore (hfirst m hm)
    · rw [if_neg hbefore]
      by_cases hsame : key = k
      · -- the key stays, only its value is another one
        subst hsame
        rw [if_pos rfl]
        exact List.pairwise_cons.2 ⟨hfirst, hrest⟩
      · rw [if_neg hsame]
        have hafter : k < key := lt_of_le_of_ne (not_lt.1 hbefore) (Ne.symm hsame)
        refine List.pairwise_cons.2 ⟨?_, ih hrest⟩
        intro m hm
        rcases mem_of_mem_putMember hm with rfl | hm
        · exact hafter
        · exact hfirst m hm

theorem member?_eq_none_of_forall_ne (h : ∀ m ∈ members, m.1 ≠ key) :
    member? key members = none := by
  induction members with
  | nil => rfl
  | cons first rest ih =>
    rw [member?_cons, if_neg (h first List.mem_cons_self)]
    exact ih fun m hm => h m (List.mem_cons_of_mem _ hm)

/-- Behind the first member its key does not stand again. -/
theorem Ascending.member?_tail {first : String × α} (h : Ascending (first :: members)) :
    member? first.1 members = none := by
  apply member?_eq_none_of_forall_ne
  intro m hm
  exact (ne_of_lt ((List.pairwise_cons.1 h).1 m hm)).symm

/-- In ascending members every member is found by its key. -/
theorem Ascending.member?_of_mem (h : Ascending members) {m : String × α} (hm : m ∈ members) :
    member? m.1 members = some m.2 := by
  induction members with
  | nil => cases hm
  | cons first rest ih =>
    obtain ⟨hfirst, hrest⟩ := List.pairwise_cons.1 h
    rw [member?_cons]
    rcases List.mem_cons.1 hm with rfl | hm
    · exact if_pos rfl
    · rw [if_neg (ne_of_lt (hfirst m hm))]
      exact ih hrest hm

theorem mem_of_member? (h : member? key members = some value) : (key, value) ∈ members := by
  induction members with
  | nil => cases h
  | cons first rest ih =>
    rw [member?_cons] at h
    split at h
    · next heq =>
      cases h
      exact heq ▸ List.mem_cons_self
    · exact List.mem_cons_of_mem _ (ih h)

/-- No key stands before the first one. -/
theorem Ascending.first_le {first : String × α} (h : Ascending (first :: members))
    (hmember : member? key (first :: members) = some value) : first.1 ≤ key := by
  rcases List.mem_cons.1 (mem_of_member? hmember) with heq | hmem
  · exact le_of_eq (congrArg Prod.fst heq).symm
  · exact le_of_lt ((List.pairwise_cons.1 h).1 _ hmem)

/-- Ascending members are known by the value of every key. -/
theorem Ascending.ext {others : List (String × α)} (h : Ascending members)
    (hothers : Ascending others) (hsame : ∀ key, member? key members = member? key others) :
    members = others := by
  have hfirst : ∀ (first : String × α) (rest : List (String × α)),
      member? first.1 (first :: rest) = some first.2 := by
    intro first rest
    rw [member?_cons, if_pos rfl]
  induction members generalizing others with
  | nil =>
    cases others with
    | nil => rfl
    | cons first rest => cases (hsame first.1).trans (hfirst first rest)
  | cons first rest ih =>
    cases others with
    | nil => cases (hsame first.1).symm.trans (hfirst first rest)
    | cons first' rest' =>
      -- each first key stands on the other side too, so neither is the greater one
      have hle := hothers.first_le ((hsame first.1).symm.trans (hfirst first rest))
      have hge := h.first_le ((hsame first'.1).trans (hfirst first' rest'))
      have hkey : first.1 = first'.1 := le_antisymm hge hle
      have hvalue : first.2 = first'.2 := by
        have hboth := hsame first.1
        rw [hfirst, hkey, hfirst] at hboth
        exact Option.some.inj hboth
      have hrests : ∀ key, member? key rest = member? key rest' := by
        intro key
        by_cases hother : first.1 = key
        · subst hother
          rw [h.member?_tail, hkey, hothers.member?_tail]
        · have hboth := hsame key
          rw [member?_cons, member?_cons, if_neg hother, if_neg (hkey ▸ hother)] at hboth
          exact hboth
      rw [ih (List.pairwise_cons.1 h).2 (List.pairwise_cons.1 hothers).2 hrests,
        Prod.ext hkey hvalue]

/-- Leaving out members by their keys leaves the others to be found. -/
theorem member?_filter (keep : String → Bool) :
    member? key (members.filter fun m => keep m.1) =
      if keep key then member? key members else none := by
  induction members with
  | nil => simp
  | cons first rest ih =>
    cases hkeep : keep first.1 with
    | true =>
      rw [List.filter_cons_of_pos (by simpa using hkeep), member?_cons, member?_cons, ih]
      by_cases hkey : first.1 = key
      · subst hkey
        simp [hkeep]
      · simp [hkey]
    | false =>
      rw [List.filter_cons_of_neg (by simp [hkeep]), member?_cons, ih]
      by_cases hkey : first.1 = key
      · subst hkey
        simp [hkeep]
      · simp [hkey]

end members

/-! ## Section 2: Well-formed values -/

/-- Whole numbers have 64 bits, with or without a sign, and the members of every object
    ascend. -/
inductive WellFormed : Json → Prop
  | null : WellFormed .null
  | bool (b : Bool) : WellFormed (.bool b)
  | int {n : Int} : -0x8000000000000000 ≤ n → n < 0x10000000000000000 → WellFormed (.int n)
  | real (bits : UInt64) : WellFormed (.real bits)
  | str (s : String) : WellFormed (.str s)
  | arr {items : List Json} : (∀ item ∈ items, WellFormed item) → WellFormed (.arr items)
  | obj {members : List (String × Json)} : Ascending members →
      (∀ m ∈ members, WellFormed m.2) → WellFormed (.obj members)

theorem WellFormed.ascending {members : List (String × Json)} (h : WellFormed (.obj members)) :
    Ascending members := by
  cases h with
  | obj hkeys _ => exact hkeys

theorem WellFormed.member {members : List (String × Json)} (h : WellFormed (.obj members))
    {key : String} {value : Json} (hmember : member? key members = some value) :
    WellFormed value := by
  cases h with
  | obj _ hvalues => exact hvalues _ (mem_of_member? hmember)

theorem WellFormed.putMember {members : List (String × Json)} {key : String} {value : Json}
    (h : WellFormed (.obj members)) (hvalue : WellFormed value) :
    WellFormed (.obj (Json.putMember key value members)) := by
  cases h with
  | obj hkeys hvalues =>
    refine .obj hkeys.putMember ?_
    intro m hm
    rcases mem_of_mem_putMember hm with rfl | hm
    · exact hvalue
    · exact hvalues m hm

theorem wellFormed_ofMembers {members : List (String × Json)}
    (h : ∀ m ∈ members, WellFormed m.2) : WellFormed (ofMembers members) := by
  have hfold : ∀ done : List (String × Json), WellFormed (.obj done) →
      WellFormed (.obj (members.foldl (fun done m => Json.putMember m.1 m.2 done) done)) := by
    induction members with
    | nil => exact fun _ hdone => hdone
    | cons first rest ih =>
      intro done hdone
      exact ih (fun m hm => h m (List.mem_cons_of_mem _ hm)) _
        (hdone.putMember (h first List.mem_cons_self))
  exact hfold [] (.obj List.Pairwise.nil fun _ hm => nomatch hm)

/-! ## Section 3: Members over members -/

/-- What a member has to say that is laid over others: nothing where there is none, and
    nothing where it is `null`. -/
def said? (key : String) (members : List (String × Json)) : Option Json :=
  (member? key members).filter fun value => !value.isNull

theorem said?_cons_of_ne {key : String} {first : String × Json} {rest : List (String × Json)}
    (h : first.1 ≠ key) : said? key (first :: rest) = said? key rest := by
  unfold said?
  rw [member?_cons, if_neg h]

theorem not_isNull_of_said? {key : String} {members : List (String × Json)} {value : Json}
    (h : said? key members = some value) : value.isNull = false := by
  have hvalue := (Option.filter_eq_some_iff.1 h).2
  simpa using hvalue

/-- A value with another one over it, where there is one. -/
def laidOver (below : Option Json) (top : Option Json) : Option Json :=
  match below, top with
  | below, none => below
  | none, some top => some top
  | some below, some top => some (below.overlay top)

theorem overlayMembers_nil (members : List (String × Json)) :
    overlayMembers members [] = members := by
  rw [overlayMembers]

/-- One member laid over members. -/
theorem overlayMembers_cons (members rest : List (String × Json)) (key : String) (value : Json) :
    overlayMembers members ((key, value) :: rest) = overlayMembers
      (if value.isNull then members
        else putMember key (((member? key members).map (overlay · value)).getD value) members)
      rest := by
  rw [overlayMembers]
  split
  · rfl
  · cases member? key members with
    | none => rfl
    | some below => rfl

theorem Ascending.overlayMembers {members : List (String × Json)} (h : Ascending members)
    (added : List (String × Json)) : Ascending (overlayMembers members added) := by
  induction added generalizing members with
  | nil =>
    rw [overlayMembers_nil]
    exact h
  | cons first rest ih =>
    rw [overlayMembers_cons]
    apply ih
    split
    · exact h
    · exact h.putMember

/-- Laying members over others, key by key. -/
theorem member?_overlayMembers {added : List (String × Json)} (hadded : Ascending added)
    (members : List (String × Json)) (key : String) :
    member? key (overlayMembers members added) =
      laidOver (member? key members) (said? key added) := by
  induction added generalizing members with
  | nil =>
    rw [overlayMembers_nil]
    cases member? key members <;> rfl
  | cons first rest ih =>
    obtain ⟨k, value⟩ := first
    have hrest : Ascending rest := (List.pairwise_cons.1 hadded).2
    rw [overlayMembers_cons, ih hrest]
    by_cases hkey : k = key
    · -- this is the only member of the key, so that the rest has nothing to add
      subst hkey
      have hlast : said? k rest = none := by
        unfold said?
        rw [hadded.member?_tail]
        rfl
      have hsaid : said? k ((k, value) :: rest) = if value.isNull then none else some value := by
        unfold said?
        rw [member?_cons, if_pos rfl]
        cases hnull : value.isNull <;> simp [hnull]
      rw [hlast, hsaid]
      split
      · rfl
      · rw [member?_putMember, if_pos rfl]
        cases member? k members <;> rfl
    · rw [said?_cons_of_ne hkey]
      split
      · rfl
      · rw [member?_putMember, if_neg hkey]

end MakeLens.Json
