import Mathlib.Logic.Relation
import MakeLens.Proofs.Substitution

/-! # The meaning of an expansion

    An expansion follows references from definition to definition. It remembers the
    definitions it is inside of and how many more it may enter, and both can cut it
    short. Along chains of references that never come back to a definition and are
    no longer than the depth allows, neither has any influence: the expansion of a
    name is the value of its definition with each reference replaced by the
    expansion of its name, taken afresh.
-/

namespace MakeLens

/-! ## Section 1: Chains of references -/

/-- A name together with the definition it means. -/
structure Resolved where
  name : String
  definition : Entity
  deriving DecidableEq, Repr

/-- The site that an expansion remembers while it is inside the definition. -/
def Resolved.site (r : Resolved) : Site :=
  ⟨r.name, r.definition.file, r.definition.line⟩

namespace Cache

/-- The value of `outer` refers to the name of `inner`, and where `outer` stands the
    name means the definition of `inner`. -/
def RefersTo (cache : Cache) (outer inner : Resolved) : Prop :=
  inner.name ∈ references outer.definition.value.toList ∧
    cache.definition? inner.name outer.definition.file outer.definition.line =
      some inner.definition

/-- What a definition refers to, from left to right. -/
def referred (cache : Cache) (r : Resolved) : List Resolved :=
  (references r.definition.value.toList).filterMap fun name =>
    (cache.definition? name r.definition.file r.definition.line).map (Resolved.mk name)

theorem mem_referred_iff {cache : Cache} {outer inner : Resolved} :
    inner ∈ cache.referred outer ↔ cache.RefersTo outer inner := by
  unfold referred RefersTo
  rw [List.mem_filterMap]
  constructor
  · rintro ⟨name, hname, hmap⟩
    obtain ⟨e, hdef, rfl⟩ := Option.map_eq_some_iff.1 hmap
    exact ⟨hname, hdef⟩
  · rintro ⟨hname, hdef⟩
    exact ⟨inner.name, hname, Option.map_eq_some_iff.2 ⟨inner.definition, hdef, rfl⟩⟩

/-- The sites along a chain of references that starts with a definition. -/
inductive Chain (cache : Cache) : Resolved → List Site → Prop where
  | last (r : Resolved) : cache.Chain r [r.site]
  | link {outer inner : Resolved} {sites : List Site} : cache.RefersTo outer inner →
      cache.Chain inner sites → cache.Chain outer (outer.site :: sites)

/-- Every chain from `r` meets each site once, none of `opened`, and at most `room`
    in all. -/
def Unhindered (cache : Cache) (room : Nat) (opened : List Site) (r : Resolved) : Prop :=
  ∀ sites, cache.Chain r sites →
    sites.Nodup ∧ sites.length ≤ room ∧ ∀ site ∈ sites, site ∉ opened

/-- A definition that refers to nothing is the end of its chain. -/
theorem Chain.eq_of_referred_eq_nil {cache : Cache} {r : Resolved} {sites : List Site}
    (h : cache.Chain r sites) (hnone : cache.referred r = []) : sites = [r.site] := by
  cases h with
  | last => rfl
  | link hrefers _ =>
    rw [← mem_referred_iff, hnone] at hrefers
    cases hrefers

section unhindered

variable {cache : Cache} {room : Nat} {opened : List Site} {r inner : Resolved}

theorem Unhindered.room_pos (h : cache.Unhindered room opened r) : 0 < room := by
  obtain ⟨-, hlength, -⟩ := h _ (.last r)
  exact hlength

theorem Unhindered.site_not_mem (h : cache.Unhindered room opened r) : r.site ∉ opened := by
  obtain ⟨-, -, hopened⟩ := h _ (.last r)
  exact hopened r.site List.mem_cons_self

/-- One reference further there is one site more to keep away from, and room for one
    less. -/
theorem Unhindered.step (h : cache.Unhindered (room + 1) opened r)
    (hrefers : cache.RefersTo r inner) : cache.Unhindered room (r.site :: opened) inner := by
  intro sites hchain
  obtain ⟨hnodup, hlength, hopened⟩ := h _ (.link hrefers hchain)
  obtain ⟨hsite, hnodup⟩ := List.nodup_cons.1 hnodup
  refine ⟨hnodup, Nat.le_of_succ_le_succ hlength, ?_⟩
  intro site hmem hin
  rcases List.mem_cons.1 hin with rfl | hin
  · -- the chain would come back to where it started
    exact hsite hmem
  · exact hopened site (List.mem_cons_of_mem _ hmem) hin

theorem Unhindered.mono {room' : Nat} {opened' : List Site} (h : cache.Unhindered room opened r)
    (hroom : room ≤ room') (hopened : ∀ site ∈ opened', site ∈ opened) :
    cache.Unhindered room' opened' r := by
  intro sites hchain
  obtain ⟨hnodup, hlength, hfree⟩ := h sites hchain
  exact ⟨hnodup, Nat.le_trans hlength hroom, fun site hmem hin => hfree site hmem (hopened site hin)⟩

/-- Starting afresh at an inner reference is not hindered either. -/
theorem Unhindered.afresh (h : cache.Unhindered room [] r) (hrefers : cache.RefersTo r inner) :
    cache.Unhindered room [] inner := by
  obtain ⟨less, rfl⟩ := Nat.exists_eq_add_one.2 h.room_pos
  exact (h.step hrefers).mono (Nat.le_succ less) (by simp)

end unhindered

/-! ## Section 2: What the expansion remembers has no influence -/

theorem expandInside_of_definition?_none {cache : Cache} {name : String} {file : FilePath}
    {line : UInt32} (h : cache.definition? name file line = none) (room : Nat)
    (opened : List Site) : cache.expandInside room opened name file line = none := by
  cases room with
  | zero => rfl
  | succ room =>
    unfold expandInside
    rw [h]

/-- One level of an expansion that is allowed to enter the definition. -/
theorem expandInside_succ {cache : Cache} {room : Nat} {opened : List Site} {name : String}
    {file : FilePath} {line : UInt32} {e : Entity} (h : cache.definition? name file line = some e)
    (hsite : Resolved.site ⟨name, e⟩ ∉ opened) :
    cache.expandInside (room + 1) opened name file line =
      some (replaceReferences
        (fun inner => cache.expandInside room (Resolved.site ⟨name, e⟩ :: opened)
          inner e.file e.line) e.value.toList) := by
  have hclosed : (⟨name, e.file, e.line⟩ : Site) ∉ opened := hsite
  rw [expandInside, h]
  simp only
  rw [if_neg hclosed, substitute_eq_replaceReferences]
  rfl

/-- Two expansions of a name that nothing hinders agree, whatever each of them
    remembers. The induction is on the room of the first one; it ends with the
    chains, since one more reference takes one more of the room. -/
theorem expandInside_eq_of_unhindered {cache : Cache} {room room' : Nat}
    {opened opened' : List Site} {name : String} {file : FilePath} {line : UInt32} {e : Entity}
    (hdef : cache.definition? name file line = some e)
    (h : cache.Unhindered room opened ⟨name, e⟩) (h' : cache.Unhindered room' opened' ⟨name, e⟩) :
    cache.expandInside room opened name file line =
      cache.expandInside room' opened' name file line := by
  induction room generalizing room' opened opened' name file line e with
  | zero => exact absurd h.room_pos (Nat.lt_irrefl 0)
  | succ room ih =>
    obtain ⟨less, rfl⟩ := Nat.exists_eq_add_one.2 h'.room_pos
    rw [expandInside_succ hdef h.site_not_mem, expandInside_succ hdef h'.site_not_mem]
    congr 1
    apply replaceReferences_congr
    intro inner hinner
    cases hdef' : cache.definition? inner e.file e.line with
    | none =>
      -- without a definition the reference stays in both
      rw [expandInside_of_definition?_none hdef', expandInside_of_definition?_none hdef']
    | some e' =>
      have hrefers : cache.RefersTo ⟨name, e⟩ ⟨inner, e'⟩ := ⟨hinner, hdef'⟩
      exact ih hdef' (h.step hrefers) (h'.step hrefers)

/-- An expansion that nothing hinders is the value with fresh expansions in it. -/
theorem expand_of_unhindered {cache : Cache} {depth : Nat} {name : String} {file : FilePath}
    {line : UInt32} {e : Entity} (hdef : cache.definition? name file line = some e)
    (h : cache.Unhindered depth [] ⟨name, e⟩) :
    cache.expand depth name file line =
      some (replaceReferences (fun inner => cache.expand depth inner e.file e.line)
        e.value.toList) := by
  obtain ⟨less, rfl⟩ := Nat.exists_eq_add_one.2 h.room_pos
  show cache.expandInside (less + 1) [] name file line = _
  rw [expandInside_succ hdef h.site_not_mem]
  congr 1
  apply replaceReferences_congr
  intro inner hinner
  show _ = cache.expandInside (less + 1) [] inner e.file e.line
  cases hdef' : cache.definition? inner e.file e.line with
  | none => rw [expandInside_of_definition?_none hdef', expandInside_of_definition?_none hdef']
  | some e' =>
    have hrefers : cache.RefersTo ⟨name, e⟩ ⟨inner, e'⟩ := ⟨hinner, hdef'⟩
    exact expandInside_eq_of_unhindered hdef' (h.step hrefers) (h.afresh hrefers)

/-! ## Section 3: The expansion of a name -/

theorem unhindered_of_reached {cache : Cache} {depth : Nat} {r inner : Resolved}
    (h : cache.Unhindered depth [] r) (hreached : Relation.ReflTransGen cache.RefersTo r inner) :
    cache.Unhindered depth [] inner := by
  induction hreached with
  | refl => exact h
  | tail _ hrefers ih => exact ih.afresh hrefers

/-- Where no chain of references from a definition meets a site twice or more than
    `depth` sites, the expansion of its name is its value with each reference
    replaced by the expansion of the referenced name at the definition's place, and
    kept where this has none. The same holds of every definition reached on the way,
    from wherever it is asked for, so one that is reached twice is expanded in full
    both times. -/
theorem expand_compositional (cache : Cache) (depth : Nat) (name : String) (file : FilePath)
    (line : UInt32) (e : Entity) (hdef : cache.definition? name file line = some e)
    (hchains : ∀ sites, cache.Chain ⟨name, e⟩ sites → sites.Nodup ∧ sites.length ≤ depth) :
    cache.expand depth name file line =
      some (replaceReferences (fun inner => cache.expand depth inner e.file e.line)
        e.value.toList) ∧
    ∀ inner, Relation.ReflTransGen cache.RefersTo ⟨name, e⟩ inner →
      ∀ file' line', cache.definition? inner.name file' line' = some inner.definition →
        cache.expand depth inner.name file' line' =
          some (replaceReferences
            (fun x => cache.expand depth x inner.definition.file inner.definition.line)
            inner.definition.value.toList) := by
  have h : cache.Unhindered depth [] ⟨name, e⟩ := by
    intro sites hchain
    obtain ⟨hnodup, hlength⟩ := hchains sites hchain
    exact ⟨hnodup, hlength, fun _ _ => List.not_mem_nil⟩
  refine ⟨expand_of_unhindered hdef h, ?_⟩
  intro inner hreached file' line' hdef'
  exact expand_of_unhindered hdef' (unhindered_of_reached h hreached)

/-! ### A definition reached twice

    `C` refers to `B` and to `A`, and `B` refers to `A`. -/

/-- The file of the three definitions. -/
def sharedFile : FilePath := .ofString "/w/Makefile"

/-- The definition of one of the three names. -/
def sharedDefinition (name value : String) (line : UInt32) : Resolved :=
  ⟨name, .make name .assignment value sharedFile line 0⟩

/-- A cache that holds the file alone. -/
def sharedCache : Cache :=
  Cache.empty.insert (.ofText sharedFile "A := a\nB := $\x7bA\x7d-b\nC := $(B)-c $(A)".toList)

theorem expand_shared :
    sharedCache.definition? "C" sharedFile 9 =
      some (sharedDefinition "C" "$(B)-c $(A)" 2).definition ∧
    (∀ sites, sharedCache.Chain (sharedDefinition "C" "$(B)-c $(A)" 2) sites →
      sites.Nodup ∧ sites.length ≤ 3) ∧
    sharedCache.expand 3 "C" sharedFile 9 =
      some (replaceReferences (fun inner => sharedCache.expand 3 inner sharedFile 2)
        "$(B)-c $(A)".toList) ∧
    sharedCache.expand 3 "C" sharedFile 9 = some "a-b-c a".toList := by
  have hdef : sharedCache.definition? "C" sharedFile 9 =
      some (sharedDefinition "C" "$(B)-c $(A)" 2).definition := by
    decide +kernel
  have hA : sharedCache.referred (sharedDefinition "A" "a" 0) = [] := by
    decide +kernel
  have hB : sharedCache.referred (sharedDefinition "B" "$\x7bA\x7d-b" 1) =
      [sharedDefinition "A" "a" 0] := by
    decide +kernel
  have hC : sharedCache.referred (sharedDefinition "C" "$(B)-c $(A)" 2) =
      [sharedDefinition "B" "$\x7bA\x7d-b" 1, sharedDefinition "A" "a" 0] := by
    decide +kernel
  have hchains : ∀ sites, sharedCache.Chain (sharedDefinition "C" "$(B)-c $(A)" 2) sites →
      sites.Nodup ∧ sites.length ≤ 3 := by
    intro sites hchain
    cases hchain with
    | last => decide +kernel
    | link hrefers hrest =>
      rw [← mem_referred_iff, hC] at hrefers
      rcases List.mem_cons.1 hrefers with rfl | hrefers
      · cases hrest with
        | last => decide +kernel
        | link hrefers hrest =>
          rw [← mem_referred_iff, hB] at hrefers
          obtain rfl := List.mem_singleton.1 hrefers
          rw [hrest.eq_of_referred_eq_nil hA]
          decide +kernel
      · obtain rfl := List.mem_singleton.1 hrefers
        rw [hrest.eq_of_referred_eq_nil hA]
        decide +kernel
  refine ⟨hdef, hchains, ?_, by decide +kernel⟩
  exact (expand_compositional sharedCache 3 "C" sharedFile 9 _ hdef hchains).1

end Cache

end MakeLens
