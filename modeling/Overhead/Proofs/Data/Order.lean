import Overhead.Proofs.Data.Columns

/-!
# The order of keys

Data may be written in another order: in any table, at any depth, the entries change places. While no
table has a key twice, a codec that reads data reads it in any order, and to the same value.
-/

namespace Overhead

/-- Entries under keys of their own, each with a fine value. -/
structure Keyed {α : Type} (Fine : α → Prop) (entries : List (String × α)) : Prop where
  distinct : (entries.map Prod.fst).Nodup
  fine : ∀ entry ∈ entries, Fine entry.2

namespace Keyed

variable {α : Type} {Fine : α → Prop} {entries others : List (String × α)}

theorem nil : Keyed Fine [] :=
  ⟨List.nodup_nil, fun _ h => by cases h⟩

theorem cons (h : Keyed Fine entries) {key : String} (hnew : key ∉ entries.map Prod.fst)
    {value : α} (hvalue : Fine value) : Keyed Fine ((key, value) :: entries) :=
  ⟨List.nodup_cons.mpr ⟨hnew, h.distinct⟩, List.forall_mem_cons.mpr ⟨hvalue, h.fine⟩⟩

theorem perm (h : Keyed Fine entries) (hperm : entries.Perm others) : Keyed Fine others :=
  ⟨(hperm.map Prod.fst).nodup_iff.mp h.distinct, fun entry hentry =>
    h.fine entry (hperm.mem_iff.mpr hentry)⟩

theorem sublist (h : Keyed Fine entries) (hsublist : others.Sublist entries) :
    Keyed Fine others :=
  ⟨h.distinct.sublist (hsublist.map Prod.fst), fun entry hentry =>
    h.fine entry (hsublist.subset hentry)⟩

theorem concat (h : Keyed Fine entries) {key : String} (hnew : key ∉ entries.map Prod.fst)
    {value : α} (hvalue : Fine value) : Keyed Fine (entries ++ [(key, value)]) :=
  (h.cons hnew hvalue).perm (List.perm_append_singleton _ _).symm

/-- Another fine value under one key. -/
theorem replace {before after : List (String × α)} {key : String} {old value : α}
    (h : Keyed Fine (before ++ (key, old) :: after)) (hvalue : Fine value) :
    Keyed Fine (before ++ (key, value) :: after) := by
  refine ⟨by simpa using h.distinct, ?_⟩
  have hfine := h.fine
  simp only [List.forall_mem_append, List.forall_mem_cons] at hfine ⊢
  exact ⟨hfine.1, hvalue, hfine.2.2⟩

end Keyed

namespace Data

/-- No table has a key twice, at any depth. -/
inductive Tidy : Data → Prop where
  | table {entries : Entries} (hdistinct : entries.keys.Nodup)
      (hfine : ∀ entry ∈ entries, entry.2.Tidy) : Tidy (.table entries)
  | list {items : List Data} (hitems : ∀ item ∈ items, item.Tidy) : Tidy (.list items)
  | sections {items : List Data} (hitems : ∀ item ∈ items, item.Tidy) : Tidy (.sections items)
  | null : Tidy .null
  | bool (value : Bool) : Tidy (.bool value)
  | int (value : Int) : Tidy (.int value)
  | float (value : Float) : Tidy (.float value)
  | text (value : String) : Tidy (.text value)
  | date : Tidy .date

/-- The entries of one table change places. -/
inductive Reordered : Data → Data → Prop where
  | table {entries others : Entries} (h : entries.Perm others) :
      Reordered (.table entries) (.table others)
  | entry {data data' : Data} (h : Reordered data data') (before after : Entries) (key : String) :
      Reordered (.table (before ++ (key, data) :: after)) (.table (before ++ (key, data') :: after))
  | item {data data' : Data} (h : Reordered data data') (before after : List Data) :
      Reordered (.list (before ++ data :: after)) (.list (before ++ data' :: after))
  | sectionItem {data data' : Data} (h : Reordered data data') (before after : List Data) :
      Reordered (.sections (before ++ data :: after)) (.sections (before ++ data' :: after))

theorem tidy_table_iff {entries : Entries} : (Data.table entries).Tidy ↔ Keyed Tidy entries := by
  refine ⟨fun h => ?_, fun h => .table h.distinct h.fine⟩
  cases h with
  | table hdistinct hfine => exact ⟨hdistinct, hfine⟩

theorem Tidy.nodup {entries : Entries} (h : (Data.table entries).Tidy) : entries.keys.Nodup :=
  (tidy_table_iff.mp h).distinct

theorem Tidy.of_mem {entries : Entries} (h : (Data.table entries).Tidy) {key : String} {data : Data}
    (hmem : (key, data) ∈ entries) : data.Tidy :=
  (tidy_table_iff.mp h).fine _ hmem

/-- A new key with a tidy value. -/
theorem Tidy.cons {entries : Entries} (h : (Data.table entries).Tidy) {key : String}
    (hnew : key ∉ entries.keys) {data : Data} (hdata : data.Tidy) :
    (Data.table ((key, data) :: entries)).Tidy :=
  tidy_table_iff.mpr ((tidy_table_iff.mp h).cons hnew hdata)

/-- Another tidy value under one key. -/
theorem Tidy.replace {before after : Entries} {key : String} {data data' : Data}
    (h : (Data.table (before ++ (key, data) :: after)).Tidy) (hdata : data'.Tidy) :
    (Data.table (before ++ (key, data') :: after)).Tidy :=
  tidy_table_iff.mpr ((tidy_table_iff.mp h).replace hdata)

theorem tidy_of_mem_replaced {before after : List Data} {data data' : Data}
    (h : ∀ item ∈ before ++ data :: after, item.Tidy) (hdata : data'.Tidy) :
    ∀ item ∈ before ++ data' :: after, item.Tidy := by
  simp only [List.forall_mem_append, List.forall_mem_cons] at h ⊢
  exact ⟨h.1, hdata, h.2.2⟩

/-- A table without entries has one order. -/
theorem Reordered.eq_of_empty {data : Data} (h : (Data.table []).Reordered data) :
    data = .table [] := by
  generalize hempty : Data.table [] = empty at h
  cases h with
  | table hperm =>
      obtain rfl := Data.table.inj hempty
      rw [List.nil_perm.mp hperm]
  | entry h before after key => simp at hempty
  | item h before after => cases hempty
  | sectionItem h before after => cases hempty

theorem Reordered.tidy {data data' : Data} (h : Reordered data data') (htidy : data.Tidy) :
    data'.Tidy := by
  induction h with
  | table hperm => exact tidy_table_iff.mpr ((tidy_table_iff.mp htidy).perm hperm)
  | entry h before after key ih => exact htidy.replace (ih (htidy.of_mem List.mem_append_cons_self))
  | item h before after ih =>
      cases htidy with
      | list hitems =>
          have hitem := ih (hitems _ List.mem_append_cons_self)
          exact .list (tidy_of_mem_replaced hitems hitem)
  | sectionItem h before after ih =>
      cases htidy with
      | sections hitems =>
          have hitem := ih (hitems _ List.mem_append_cons_self)
          exact .sections (tidy_of_mem_replaced hitems hitem)

end Data

/-- Another item of a list stands under the same key, or under none. -/
theorem Entries.zip_replace (names : List String) (before after : List Data) (data data' : Data) :
    names.zip (before ++ data :: after) = names.zip (before ++ data' :: after) ∨
      ∃ first last name, names.zip (before ++ data :: after) = first ++ (name, data) :: last ∧
        names.zip (before ++ data' :: after) = first ++ (name, data') :: last := by
  induction names generalizing before with
  | nil => exact .inl rfl
  | cons name names ih =>
      cases before with
      | nil => exact .inr ⟨[], names.zip after, name, rfl, rfl⟩
      | cons item before =>
          rcases ih before with hequal | ⟨first, last, other, hold, hnew⟩
          · exact .inl (congrArg ((name, item) :: ·) hequal)
          · exact .inr ⟨(name, item) :: first, last, other, congrArg ((name, item) :: ·) hold,
              congrArg ((name, item) :: ·) hnew⟩

/-! ## Codecs -/

namespace Codec

variable {α β : Type}

/-- What the codec reads, it reads in any order. -/
structure Steady (codec : Codec α) : Prop where
  decode_reordered : ∀ {data data' : Data}, data.Reordered data' → data.Tidy →
    ∀ {value}, codec.decode data = .ok value → codec.decode data' = .ok value

/-- Whole numbers, texts and the like have no keys. -/
theorem steady_of_scalar {codec : Codec α}
    (h : ∀ {data data' : Data}, data.Reordered data' → ∀ {value}, codec.decode data ≠ .ok value) :
    codec.Steady :=
  ⟨fun hreordered _ _ hdecode => (h hreordered hdecode).elim⟩

theorem steady_bool : bool.Steady := by
  refine steady_of_scalar fun hreordered value hdecode => ?_
  cases hreordered <;> cases hdecode

theorem steady_text : text.Steady := by
  refine steady_of_scalar fun hreordered value hdecode => ?_
  cases hreordered <;> cases hdecode

theorem steady_natural (bound : Nat) (name : String) : (natural bound name).Steady := by
  refine steady_of_scalar fun hreordered value hdecode => ?_
  cases hreordered <;> cases hdecode

theorem Steady.of_map {codec : Codec α} (h : codec.Steady) {other : Codec β} {forth : α → β}
    (hother : ∀ {data data' : Data}, data.Reordered data' →
      other.decode data = (codec.decode data).map forth ∧
        other.decode data' = (codec.decode data').map forth) : other.Steady := by
  refine ⟨fun {data data'} hreordered htidy value hdecode => ?_⟩
  obtain ⟨hold, hnew⟩ := hother hreordered
  rw [hold] at hdecode
  cases hread : codec.decode data with
  | error reason =>
      rw [hread] at hdecode
      cases hdecode
  | ok inner =>
      rw [hnew, h.decode_reordered hreordered htidy hread, ← hread]
      exact hdecode

theorem Steady.map {codec : Codec α} (h : codec.Steady) (forth : α → β) (back : β → α) :
    (codec.map forth back).Steady :=
  h.of_map fun _ => ⟨rfl, rfl⟩

theorem Steady.optional {codec : Codec α} (h : codec.Steady) : codec.optional.Steady := by
  have hsome : ∀ {data data' : Data}, data.Reordered data' →
      codec.optional.decode data = (codec.decode data).map some ∧
        codec.optional.decode data' = (codec.decode data').map some := by
    intro data data' hreordered
    cases hreordered <;> exact ⟨rfl, rfl⟩
  exact h.of_map hsome

theorem steady_word : word.Steady :=
  (steady_natural _ _).map _ _

theorem eq_empty_of_choice [DecidableEq α] {options : List (String × α)} {name : String}
    {contents : Data} {value : α}
    (h : (choice options).decode (.table [(name, contents)]) = .ok value) :
    contents = .table [] := by
  cases hchosen : chosen options name with
  | error reason => simp [choice, hchosen, bind, Except.bind] at h
  | ok chosen =>
      cases hempty : requireEmpty contents with
      | error reason => simp [choice, hchosen, hempty, bind, Except.bind] at h
      | ok =>
          unfold requireEmpty at hempty
          split at hempty
          · rfl
          · cases hempty
          · cases hempty

/-- A choice has one entry at most, and nothing in it. -/
theorem steady_choice [DecidableEq α] (options : List (String × α)) : (choice options).Steady := by
  refine ⟨fun {data data'} hreordered _ value hdecode => ?_⟩
  cases hreordered with
  | @table entries others hperm =>
      rcases entries with _ | ⟨entry, _ | ⟨other, rest⟩⟩
      · cases hdecode
      · rwa [← List.singleton_perm.mp hperm]
      · cases hdecode
  | @entry old new h before after key =>
      rcases before with _ | ⟨first, before⟩
      · rcases after with _ | ⟨next, after⟩
        · obtain rfl := eq_empty_of_choice hdecode
          rwa [h.eq_of_empty]
        · cases hdecode
      · rcases before with _ | ⟨second, before⟩ <;> cases hdecode
  | item h before after => cases hdecode
  | sectionItem h before after => cases hdecode

end Codec

/-! ## Records -/

namespace Describes

variable {ρ : Type} {columns : List (Column ρ)} {schema : Schema ρ}

theorem decode_reordered_table (h : Describes columns schema)
    (hcolumns : ∀ column ∈ columns, column.codec.Steady) {entries others : Entries}
    (hreordered : (Data.table entries).Reordered (.table others))
    (htidy : (Data.table entries).Tidy) {record : ρ}
    (hdecode : schema.decode (.table entries) = .ok record) :
    schema.decode (.table others) = .ok record := by
  cases hreordered with
  | table hperm => exact h.decode_beside htidy.nodup (.reordered hperm) hdecode
  | @entry data data' hvalue before after key =>
      have hmem : (key, data) ∈ before ++ (key, data) :: after := List.mem_append_cons_self
      by_cases hknown : key ∈ columns.map (·.key)
      · obtain ⟨column, hcolumn, rfl⟩ := List.mem_map.mp hknown
        have hold := ((h.decode_table_eq_ok_iff htidy.nodup).mp hdecode column hcolumn).present
          data hmem
        have hnew := (hcolumns column hcolumn).decode_reordered hvalue (htidy.of_mem hmem) hold
        rw [h.decode_replace hcolumn htidy.nodup hdecode hnew, h.set_get hcolumn]
      · exact h.decode_beside htidy.nodup (.changed hknown data data') hdecode

/-- A list is read like a table. -/
theorem decode_list (h : Describes columns schema) (items : List Data) :
    schema.decode (.list items) =
      schema.decode (.table ((columns.map (·.key)).zip items)) :=
  h.foldlM_readItem items schema.default

theorem decode_reordered_list (h : Describes columns schema)
    (hcolumns : ∀ column ∈ columns, column.codec.Steady) {data data' : Data}
    (hreordered : data.Reordered data') {before after : List Data}
    (htidy : ∀ item ∈ before ++ data :: after, item.Tidy) {record : ρ}
    (hdecode : schema.decode (.list (before ++ data :: after)) = .ok record) :
    schema.decode (.list (before ++ data' :: after)) = .ok record := by
  rw [h.decode_list] at hdecode ⊢
  have htable : (Data.table ((columns.map (·.key)).zip (before ++ data :: after))).Tidy := by
    refine .table (h.distinct.sublist (Entries.keys_zip_sublist _ _)) fun entry hentry => ?_
    exact htidy _ (List.of_mem_zip hentry).2
  rcases Entries.zip_replace (columns.map (·.key)) before after data data' with
    hequal | ⟨first, last, key, hold, hnew⟩
  · rwa [← hequal]
  · rw [hold] at hdecode htable
    rw [hnew]
    exact h.decode_reordered_table hcolumns (.entry hreordered first last key) htable hdecode

/-- A record is read in any order of keys, if its values are. -/
theorem steady (h : Describes columns schema)
    (hcolumns : ∀ column ∈ columns, column.codec.Steady) : schema.codec.Steady := by
  refine ⟨fun {data data'} hreordered htidy record hdecode => ?_⟩
  have hread := hreordered
  cases hreordered with
  | table hperm => exact h.decode_reordered_table hcolumns hread htidy hdecode
  | entry hvalue before after key => exact h.decode_reordered_table hcolumns hread htidy hdecode
  | item hitem before after =>
      cases htidy with
      | list hitems => exact h.decode_reordered_list hcolumns hitem hitems hdecode
  | sectionItem hitem before after =>
      cases htidy with
      | sections hitems => exact h.decode_reordered_list hcolumns hitem hitems hdecode

end Describes
end Overhead
