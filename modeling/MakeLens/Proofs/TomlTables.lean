import MakeLens.Settings.Load
import MakeLens.Proofs.JsonMembers

/-! # Tables of a document

    Whatever a TOML document says, its tables have ascending keys and its whole numbers
    have 64 bits. The lines of a document change its top table by putting members into
    tables that paths lead to, and the values that they put there are read in the same
    way; each of these steps keeps what holds of all values. As JSON the values are
    well-formed, and so is the layer that a settings file gives.

    * `sound_update`: one change of a table, wherever it is;
    * `wellFormed_value`, `sound_lines`: reading;
    * `SettingsStore.wellFormed_fileLayer`: the settings file.
-/

namespace MakeLens.Toml

/-! ## Section 1: Well-formed values -/

/-- Whole numbers have 64 bits with sign, and the members of every table ascend. -/
inductive Value.WellFormed : Value → Prop
  | str (s : String) : WellFormed (.str s)
  | int {n : Int} : -0x8000000000000000 ≤ n → n < 0x8000000000000000 → WellFormed (.int n)
  | real (bits : UInt64) : WellFormed (.real bits)
  | bool (b : Bool) : WellFormed (.bool b)
  | dateTime (s : String) : WellFormed (.dateTime s)
  | arr {ofTables : Bool} {items : List Value} :
      (∀ item ∈ items, WellFormed item) → WellFormed (.arr ofTables items)
  | table {form : Form} {members : Members} : Json.Ascending members →
      (∀ m ∈ members, WellFormed m.2) → WellFormed (.table form members)

/-- The members of a well-formed table. -/
structure Sound (members : Members) : Prop where
  ascending : Json.Ascending members
  values : ∀ m ∈ members, m.2.WellFormed

theorem Sound.nil : Sound [] :=
  ⟨List.Pairwise.nil, fun _ hm => nomatch hm⟩

theorem Sound.table {form : Form} {members : Members} (h : Sound members) :
    (Value.table form members).WellFormed :=
  .table h.ascending h.values

theorem Value.WellFormed.sound {form : Form} {members : Members}
    (h : (Value.table form members).WellFormed) : Sound members := by
  cases h with
  | table hkeys hvalues => exact ⟨hkeys, hvalues⟩

theorem Value.WellFormed.items {ofTables : Bool} {items : List Value}
    (h : (Value.arr ofTables items).WellFormed) : ∀ item ∈ items, item.WellFormed := by
  cases h with
  | arr hitems => exact hitems

theorem Sound.member {members : Members} (h : Sound members) {key : String} {value : Value}
    (hmember : Json.member? key members = some value) : value.WellFormed :=
  h.values _ (Json.mem_of_member? hmember)

theorem Sound.putMember {members : Members} (h : Sound members) (key : String) {value : Value}
    (hvalue : value.WellFormed) : Sound (Json.putMember key value members) := by
  refine ⟨h.ascending.putMember, ?_⟩
  intro m hm
  rcases Json.mem_of_mem_putMember hm with rfl | hm
  · exact hvalue
  · exact h.values m hm

/-! ## Section 2: Changes of a table -/

/-- A change that leaves sound members sound. -/
def Preserves (change : Form → Members → Option (Form × Members)) : Prop :=
  ∀ form members form' members', Sound members →
    change form members = some (form', members') → Sound members'

theorem sound_update {byDots : Bool} {change : Form → Members → Option (Form × Members)}
    (hchange : Preserves change) (path : List String) :
    Preserves (update byDots path change) := by
  induction path with
  | nil => exact hchange
  | cons key rest ih =>
    intro form members form' members' hmembers h
    -- one step further, into a table
    have henter : ∀ f ms entered, Sound ms → update byDots rest change f ms = some entered →
        (Value.table entered.1 entered.2).WellFormed := by
      intro f ms entered hms hupdate
      exact (ih f ms entered.1 entered.2 hms hupdate).table
    unfold update at h
    simp only at h
    split at h
    · -- the step is not there yet and begins as an empty table
      obtain ⟨value, hvalue, heq⟩ := Option.bind_eq_some_iff.1 h
      cases heq
      obtain ⟨entered, hentered, rfl⟩ := Option.map_eq_some_iff.1 hvalue
      exact hmembers.putMember key (henter _ _ _ Sound.nil hentered)
    · next f ms hmember =>
      -- a table that is there, unless it is closed to this path
      split at h
      · cases h
      · obtain ⟨value, hvalue, heq⟩ := Option.bind_eq_some_iff.1 h
        cases heq
        obtain ⟨entered, hentered, rfl⟩ := Option.map_eq_some_iff.1 hvalue
        exact hmembers.putMember key (henter _ _ _ (hmembers.member hmember).sound hentered)
    · next items hmember =>
      -- an array of tables, of which the last one is changed
      have hitems := (hmembers.member hmember).items
      split at h
      · next f ms hlast =>
        obtain ⟨value, hvalue, heq⟩ := Option.bind_eq_some_iff.1 h
        cases heq
        obtain ⟨last, hlast', rfl⟩ := Option.map_eq_some_iff.1 hvalue
        obtain ⟨entered, hentered, rfl⟩ := Option.map_eq_some_iff.1 hlast'
        have hwell := henter _ _ _ (hitems _ (List.mem_of_getLast? hlast)).sound hentered
        refine hmembers.putMember key (.arr ?_)
        intro item hitem
        rcases List.mem_append.1 hitem with hbefore | hitem
        · exact hitems item (List.dropLast_subset items hbefore)
        · exact List.mem_singleton.1 hitem ▸ hwell
      · cases h
    · cases h

theorem sound_assign (path : List String) (key : String) {value : Value}
    (hvalue : value.WellFormed) : Preserves (assign path key value) := by
  apply sound_update
  intro form members form' members' hmembers h
  simp only at h
  split at h
  · cases h
  · split at h
    · cases h
    · cases h
      exact hmembers.putMember key hvalue

namespace Document

theorem sound_openTable {doc doc' : Document} {path : List String} {key : String}
    (hdoc : Sound doc.top) (h : doc.openTable path key = some doc') : Sound doc'.top := by
  obtain ⟨⟨form, top⟩, hupdate, heq⟩ := Option.bind_eq_some_iff.1 h
  cases heq
  refine sound_update ?_ path _ _ _ _ hdoc hupdate
  intro form members form' members' hmembers hopened
  simp only at hopened
  split at hopened
  · cases hopened
    exact hmembers.putMember key Sound.nil.table
  · next inner hmember =>
    cases hopened
    exact hmembers.putMember key (hmembers.member hmember).sound.table
  · cases hopened

theorem sound_openElement {doc doc' : Document} {path : List String} {key : String}
    (hdoc : Sound doc.top) (h : doc.openElement path key = some doc') : Sound doc'.top := by
  obtain ⟨⟨form, top⟩, hupdate, heq⟩ := Option.bind_eq_some_iff.1 h
  cases heq
  refine sound_update ?_ path _ _ _ _ hdoc hupdate
  intro form members form' members' hmembers hopened
  simp only at hopened
  split at hopened
  · cases hopened
    apply hmembers.putMember key
    exact .arr fun item hitem => List.mem_singleton.1 hitem ▸ Sound.nil.table
  · next items hmember =>
    cases hopened
    apply hmembers.putMember key
    refine .arr ?_
    intro item hitem
    rcases List.mem_append.1 hitem with hbefore | hitem
    · exact (hmembers.member hmember).items item hbefore
    · exact List.mem_singleton.1 hitem ▸ Sound.nil.table
  · cases hopened

theorem sound_assign {doc doc' : Document} {path : List String} {key : String} {value : Value}
    (hdoc : Sound doc.top) (hvalue : value.WellFormed)
    (h : doc.assign path key value = some doc') : Sound doc'.top := by
  obtain ⟨⟨form, top⟩, hupdate, heq⟩ := Option.bind_eq_some_iff.1 h
  cases heq
  exact sound_update (Toml.sound_assign path key hvalue) doc.current _ _ _ _ hdoc hupdate

end Document

/-! ## Section 3: Reading -/

theorem wellFormed_int64 {n : Int} {value : Value} (h : int64? n = some value) :
    value.WellFormed := by
  unfold int64? at h
  split at h
  · next hrange =>
    cases h
    exact .int hrange.1 hrange.2
  · cases h

theorem wellFormed_real {negative : Bool} {digits : List Char} {exponent : Int} {value : Value}
    (h : real? negative digits exponent = some value) : value.WellFormed := by
  unfold real? at h
  simp only at h
  split at h
  · cases h
    exact .real _
  · cases h

theorem wellFormed_based {base : Nat} {digits : List Char} {value : Value}
    (h : based? base digits = some value) : value.WellFormed := by
  obtain ⟨plain, -, hint⟩ := Option.bind_eq_some_iff.1 h
  exact wellFormed_int64 hint

theorem wellFormed_decimal {negative : Bool} {body : List Char} {value : Value}
    (h : decimal? negative body = some value) : value.WellFormed := by
  unfold decimal? at h
  simp only at h
  -- digits alone make a whole number; with a fraction or an exponent it is a double
  split at h
  · obtain ⟨whole, -, hint⟩ := Option.bind_eq_some_iff.1 h
    exact wellFormed_int64 hint
  · obtain ⟨whole, -, h⟩ := Option.bind_eq_some_iff.1 h
    obtain ⟨fraction, -, h⟩ := Option.bind_eq_some_iff.1 h
    split at h
    · exact wellFormed_real h
    · split at h
      · obtain ⟨exponent, -, hreal⟩ := Option.bind_eq_some_iff.1 h
        exact wellFormed_real hreal
      · cases h
  · obtain ⟨whole, -, h⟩ := Option.bind_eq_some_iff.1 h
    split at h
    · obtain ⟨exponent, -, hreal⟩ := Option.bind_eq_some_iff.1 h
      exact wellFormed_real hreal
    · cases h

theorem wellFormed_number {word : List Char} {value : Value} (h : number? word = some value) :
    value.WellFormed := by
  unfold number? at h
  split at h
  · exact wellFormed_based h
  · exact wellFormed_based h
  · exact wellFormed_based h
  · simp only at h
    split at h
    · cases h
      exact .real _
    · split at h
      · cases h
        exact .real _
      · exact wellFormed_decimal h

theorem wellFormed_dateTime {word : List Char} {value : Value} (h : dateTime? word = some value) :
    value.WellFormed := by
  unfold dateTime? at h
  split at h
  · cases h
    exact .dateTime _
  · split at h
    · obtain ⟨⟨time, rest⟩, -, h⟩ := Option.bind_eq_some_iff.1 h
      obtain ⟨offset, -, h⟩ := Option.bind_eq_some_iff.1 h
      cases h
      exact .dateTime _
    · cases h
  · split at h
    · cases h
      exact .dateTime _
    · cases h

theorem wellFormed_scalar {word : List Char} {value : Value} (h : scalar? word = some value) :
    value.WellFormed := by
  unfold scalar? at h
  split at h
  · cases h
    exact .bool true
  · split at h
    · cases h
      exact .bool false
    · split at h
      · exact wellFormed_dateTime h
      · exact wellFormed_number h

/-- A text between quotes, of whatever kind. -/
theorem wellFormed_text {found : Option (List Char × List Char)} {value : Value}
    {rest : List Char}
    (h : found.map (fun (s, rest) => (Value.str (String.ofList s), rest)) = some (value, rest)) :
    value.WellFormed := by
  obtain ⟨⟨s, _⟩, -, heq⟩ := Option.map_eq_some_iff.1 h
  cases heq
  exact .str _

/-- Values, the items of arrays and the members of inline tables, all with the same
    room. -/
theorem wellFormed_reading (room : Nat) :
    (∀ levels text value rest, value? room levels text = some (value, rest) →
      value.WellFormed) ∧
    (∀ levels text items rest, items? room levels text = some (items, rest) →
      ∀ item ∈ items, item.WellFormed) ∧
    ∀ levels members text members' rest, Sound members →
      members? room levels members text = some (members', rest) → Sound members' := by
  induction room with
  | zero =>
    refine ⟨?_, ?_, ?_⟩
    · intro levels text value rest h
      cases h
    · intro levels text items rest h
      cases h
    · intro levels members text members' rest _ h
      cases h
  | succ room ih =>
    -- each reader calls the others with less room only
    obtain ⟨hvalue, hitems, hmembers⟩ := ih
    refine ⟨?_, ?_, ?_⟩
    · intro levels text value rest h
      unfold value? at h
      -- four kinds of quotes, arrays, inline tables and words
      split at h
      · exact wellFormed_text h
      · exact wellFormed_text h
      · exact wellFormed_text h
      · exact wellFormed_text h
      · split at h
        · cases h
        · obtain ⟨⟨items, _⟩, hread, heq⟩ := Option.map_eq_some_iff.1 h
          cases heq
          exact .arr (hitems _ _ _ _ hread)
      · split at h
        · cases h
        · obtain ⟨⟨members, _⟩, hread, heq⟩ := Option.map_eq_some_iff.1 h
          cases heq
          exact (hmembers _ _ _ _ _ Sound.nil hread).table
      · obtain ⟨scalar, hread, heq⟩ := Option.map_eq_some_iff.1 h
        cases heq
        exact wellFormed_scalar hread
    · intro levels text items rest h
      unfold items? at h
      obtain ⟨text', -, h⟩ := Option.bind_eq_some_iff.1 h
      split at h
      · cases h
        exact fun _ hitem => nomatch hitem
      · obtain ⟨⟨first, rest'⟩, hfirst, h⟩ := Option.bind_eq_some_iff.1 h
        obtain ⟨rest'', -, h⟩ := Option.bind_eq_some_iff.1 h
        have hwell := hvalue _ _ _ _ hfirst
        split at h
        · obtain ⟨⟨others, _⟩, hothers, heq⟩ := Option.bind_eq_some_iff.1 h
          cases heq
          intro item hitem
          rcases List.mem_cons.1 hitem with rfl | hitem
          · exact hwell
          · exact hitems _ _ _ _ hothers item hitem
        · cases h
          intro item hitem
          exact List.mem_singleton.1 hitem ▸ hwell
        · cases h
    · intro levels members text members' rest hsound h
      unfold members? at h
      obtain ⟨text', -, h⟩ := Option.bind_eq_some_iff.1 h
      split at h
      · cases h
        exact hsound
      · obtain ⟨⟨⟨path, key⟩, rest'⟩, -, h⟩ := Option.bind_eq_some_iff.1 h
        simp only at h
        split at h
        · obtain ⟨⟨value, _⟩, hread, h⟩ := Option.bind_eq_some_iff.1 h
          obtain ⟨⟨form, added⟩, hassign, h⟩ := Option.bind_eq_some_iff.1 h
          obtain ⟨rest'', -, h⟩ := Option.bind_eq_some_iff.1 h
          have hadded : Sound added :=
            sound_assign path key (hvalue _ _ _ _ hread) _ _ _ _ hsound hassign
          split at h
          · exact hmembers _ _ _ _ _ hadded h
          · cases h
            exact hadded
          · cases h
        · cases h

theorem wellFormed_value {room levels : Nat} {text rest : List Char} {value : Value}
    (h : value? room levels text = some (value, rest)) : value.WellFormed :=
  (wellFormed_reading room).1 levels text value rest h

theorem sound_line {doc doc' : Document} {text rest : List Char} (hdoc : Sound doc.top)
    (h : line? doc text = some (doc', rest)) : Sound doc'.top := by
  unfold line? at h
  split at h
  · obtain ⟨⟨⟨path, key⟩, _⟩, -, h⟩ := Option.bind_eq_some_iff.1 h
    obtain ⟨_, -, h⟩ := Option.bind_eq_some_iff.1 h
    obtain ⟨opened, hopened, h⟩ := Option.bind_eq_some_iff.1 h
    obtain ⟨_, -, heq⟩ := Option.bind_eq_some_iff.1 h
    cases heq
    exact Document.sound_openElement hdoc hopened
  · obtain ⟨⟨⟨path, key⟩, _⟩, -, h⟩ := Option.bind_eq_some_iff.1 h
    obtain ⟨opened, hopened, h⟩ := Option.bind_eq_some_iff.1 h
    obtain ⟨_, -, heq⟩ := Option.bind_eq_some_iff.1 h
    cases heq
    exact Document.sound_openTable hdoc hopened
  · obtain ⟨⟨⟨path, key⟩, _⟩, -, h⟩ := Option.bind_eq_some_iff.1 h
    obtain ⟨_, -, h⟩ := Option.bind_eq_some_iff.1 h
    obtain ⟨⟨value, _⟩, hread, h⟩ := Option.bind_eq_some_iff.1 h
    obtain ⟨assigned, hassigned, h⟩ := Option.bind_eq_some_iff.1 h
    obtain ⟨_, -, heq⟩ := Option.bind_eq_some_iff.1 h
    cases heq
    exact Document.sound_assign hdoc (wellFormed_value hread) hassigned

theorem sound_lines {room : Nat} {doc doc' : Document} {text : List Char} (hdoc : Sound doc.top)
    (h : lines? room doc text = some doc') : Sound doc'.top := by
  induction room generalizing doc text with
  | zero => cases h
  | succ room ih =>
    unfold lines? at h
    obtain ⟨text', -, h⟩ := Option.bind_eq_some_iff.1 h
    split at h
    · cases h
      exact hdoc
    · obtain ⟨⟨next, rest⟩, hline, h⟩ := Option.bind_eq_some_iff.1 h
      exact ih (sound_line hdoc hline) h

theorem sound_read {text : List Char} {members : Members} (h : read? text = some members) :
    Sound members := by
  obtain ⟨doc, hlines, rfl⟩ := Option.map_eq_some_iff.1 h
  exact sound_lines Sound.nil hlines

/-! ## Section 4: As JSON -/

/-- The keys of a table stay as they are. -/
theorem map_fst_membersToJson {members : Members} {json : List (String × Json)}
    (h : membersToJson? members = some json) : json.map Prod.fst = members.map Prod.fst := by
  induction members generalizing json with
  | nil =>
    cases h
    rfl
  | cons first rest ih =>
    unfold membersToJson? at h
    obtain ⟨value, -, h⟩ := Option.bind_eq_some_iff.1 h
    obtain ⟨others, hothers, heq⟩ := Option.bind_eq_some_iff.1 h
    cases heq
    rw [List.map_cons, List.map_cons, ih hothers]

theorem mem_itemsToJson {items : List Value} {json : List Json}
    (h : itemsToJson? items = some json) {j : Json} (hj : j ∈ json) :
    ∃ item ∈ items, item.toJson? = some j := by
  induction items generalizing json with
  | nil =>
    cases h
    cases hj
  | cons first rest ih =>
    unfold itemsToJson? at h
    obtain ⟨value, hvalue, h⟩ := Option.bind_eq_some_iff.1 h
    obtain ⟨others, hothers, heq⟩ := Option.bind_eq_some_iff.1 h
    cases heq
    rcases List.mem_cons.1 hj with rfl | hj
    · exact ⟨first, List.mem_cons_self, hvalue⟩
    · obtain ⟨item, hitem, hjson⟩ := ih hothers hj
      exact ⟨item, List.mem_cons_of_mem _ hitem, hjson⟩

theorem mem_membersToJson {members : Members} {json : List (String × Json)}
    (h : membersToJson? members = some json) {j : String × Json} (hj : j ∈ json) :
    ∃ m ∈ members, m.2.toJson? = some j.2 := by
  induction members generalizing json with
  | nil =>
    cases h
    cases hj
  | cons first rest ih =>
    unfold membersToJson? at h
    obtain ⟨value, hvalue, h⟩ := Option.bind_eq_some_iff.1 h
    obtain ⟨others, hothers, heq⟩ := Option.bind_eq_some_iff.1 h
    cases heq
    rcases List.mem_cons.1 hj with rfl | hj
    · exact ⟨first, List.mem_cons_self, hvalue⟩
    · obtain ⟨m, hm, hjson⟩ := ih hothers hj
      exact ⟨m, List.mem_cons_of_mem _ hm, hjson⟩

theorem Value.WellFormed.toJson {value : Value} (h : value.WellFormed) {json : Json}
    (hjson : value.toJson? = some json) : json.WellFormed := by
  induction h generalizing json with
  | str s =>
    cases hjson
    exact .str s
  | int hlow hhigh =>
    cases hjson
    exact .int hlow (by omega)
  | real bits =>
    unfold toJson? at hjson
    cases hjson
    split
    · exact .null
    · exact .real bits
  | bool b =>
    cases hjson
    exact .bool b
  | dateTime s =>
    cases hjson
    exact .str s
  | arr _ ih =>
    unfold toJson? at hjson
    obtain ⟨items, hitems, rfl⟩ := Option.map_eq_some_iff.1 hjson
    refine .arr ?_
    intro j hj
    obtain ⟨item, hitem, heq⟩ := mem_itemsToJson hitems hj
    exact ih item hitem heq
  | table hkeys _ ih =>
    unfold toJson? at hjson
    split at hjson
    · -- the table stands for a date
      obtain ⟨date, -, rfl⟩ := Option.map_eq_some_iff.1 hjson
      exact .str date
    · obtain ⟨members, hmembers, rfl⟩ := Option.map_eq_some_iff.1 hjson
      refine .obj ?_ ?_
      · rw [Json.ascending_iff_keys, map_fst_membersToJson hmembers]
        exact Json.ascending_iff_keys.1 hkeys
      · intro j hj
        obtain ⟨m, hm, heq⟩ := mem_membersToJson hmembers hj
        exact ih m hm heq

end MakeLens.Toml

namespace MakeLens.SettingsStore

/-- The layer of a settings file is well-formed, whatever the file says. -/
theorem wellFormed_fileLayer {disk : Disk} {root : FilePath} {layer : Json}
    (h : fileLayer disk root = .ok (some layer)) : layer.WellFormed := by
  unfold fileLayer at h
  simp only at h
  split at h
  · split at h
    · split at h
      · cases h
      · split at h
        · cases h
        · next json hjson =>
          cases h
          obtain ⟨members, hread, hconverted⟩ := Option.bind_eq_some_iff.1 hjson
          exact (Toml.sound_read hread).table.toJson hconverted
    · cases h
    · cases h
  · cases h

end MakeLens.SettingsStore
