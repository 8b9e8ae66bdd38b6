import Mathlib.Data.List.Nodup
import Mathlib.Data.List.Perm.Basic
import Overhead.Data.Codec

/-!
# Records, column by column

A column says under which key one part of a record is kept, what its default is and how it is read.
If columns describe a record, what is read from a table is known at every column: it is the decoded
value of the entry with that key, or the default if there is none. So the other entries and the order
of all of them make no difference, and without its entry a column falls back to its default, alone.
-/

namespace Overhead

abbrev Entries := List (String × Data)

namespace Entries

def keys (entries : Entries) : List String :=
  entries.map Prod.fst

theorem mem_keys {entries : Entries} {key : String} :
    key ∈ entries.keys ↔ ∃ data, (key, data) ∈ entries := by
  simp [keys]

theorem not_mem_keys_of_cons {key : String} {data : Data} {rest : Entries}
    (h : Entries.keys ((key, data) :: rest) |>.Nodup) : key ∉ rest.keys :=
  (List.nodup_cons.mp h).1

/-- With distinct keys an entry is told by its key. -/
theorem eq_of_mem {entries : Entries} (hdistinct : entries.keys.Nodup) {key : String}
    {data data' : Data} (h : (key, data) ∈ entries) (h' : (key, data') ∈ entries) :
    data = data' := by
  have heq := List.inj_on_of_nodup_map hdistinct h h' rfl
  exact (Prod.mk.inj heq).2

/-! ## Edits that nobody notices -/

/-- Entries may change places, and entries under other keys than the given ones may be added, or have
any value. -/
inductive Beside (known : List String) : Entries → Entries → Prop where
  | reordered {entries others : Entries} (h : entries.Perm others) : Beside known entries others
  | added {entries : Entries} {key : String} (hunknown : key ∉ known) (hnew : key ∉ entries.keys)
      (data : Data) : Beside known entries ((key, data) :: entries)
  | changed {before after : Entries} {key : String} (hunknown : key ∉ known) (data data' : Data) :
      Beside known (before ++ (key, data) :: after) (before ++ (key, data') :: after)

section

variable {known : List String} {entries others : Entries}

theorem Beside.nodup (h : Beside known entries others) (hdistinct : entries.keys.Nodup) :
    others.keys.Nodup := by
  cases h with
  | reordered hperm => exact (hperm.map Prod.fst).nodup_iff.mp hdistinct
  | added hunknown hnew data => exact List.nodup_cons.mpr ⟨hnew, hdistinct⟩
  | changed hunknown data data' => simpa [keys] using hdistinct

theorem Beside.mem_iff (h : Beside known entries others) {key : String} (hkey : key ∈ known)
    (data : Data) : (key, data) ∈ others ↔ (key, data) ∈ entries := by
  cases h with
  | reordered hperm => exact hperm.mem_iff.symm
  | @added _ other hunknown hnew data' =>
      have hne : key ≠ other := fun heq => hunknown (heq ▸ hkey)
      simp [hne]
  | @changed before after other hunknown old new =>
      have hne : key ≠ other := fun heq => hunknown (heq ▸ hkey)
      simp [hne]

end

/-- Another value under one key. -/
theorem keys_replace (before after : Entries) (key : String) (data data' : Data) :
    Entries.keys (before ++ (key, data') :: after) =
      Entries.keys (before ++ (key, data) :: after) := by
  simp [keys]

end Entries

/-- What data says about a record with the given keys; a list says it in the order of the keys. -/
def Data.entriesFor (keys : List String) : Data → Entries
  | .table entries => entries
  | .list items | .sections items => keys.zip items
  | .null | .bool _ | .int _ | .float _ | .text _ | .date => []

/-- A list that is too short names only the first keys. -/
theorem Entries.keys_zip_sublist (names : List String) (items : List Data) :
    (Entries.keys (names.zip items)).Sublist names := by
  induction names generalizing items with
  | nil => exact .slnil
  | cons name names ih =>
      cases items with
      | nil => exact List.nil_sublist _
      | cons data items => exact (ih items).cons_cons name

/-! ## Columns -/

structure Column (ρ : Type) where
  {Value : Type}
  codec : Codec Value
  key : String
  get : ρ → Value
  set : Value → ρ → ρ
  default : Value

namespace Column

variable {ρ : Type}

def field (column : Column ρ) : Field ρ :=
  column.codec.field column.key column.get column.set

/-- At this column the record has what the entries say, or else the fallback. -/
structure Reads (column : Column ρ) (fallback : column.Value) (entries : Entries) (record : ρ) :
    Prop where
  present : ∀ data, (column.key, data) ∈ entries →
    column.codec.decode data = .ok (column.get record)
  absent : column.key ∉ entries.keys → column.get record = fallback

theorem reads_nil {column : Column ρ} {fallback : column.Value} {record : ρ} :
    column.Reads fallback [] record ↔ column.get record = fallback := by
  refine ⟨fun h => h.absent List.not_mem_nil, fun h => ⟨fun data hdata => ?_, fun _ => h⟩⟩
  cases hdata

theorem reads_of_mem {column : Column ρ} {fallback : column.Value} {entries : Entries}
    (hdistinct : entries.keys.Nodup) {data : Data} (hmem : (column.key, data) ∈ entries)
    {record : ρ} (hdecode : column.codec.decode data = .ok (column.get record)) :
    column.Reads fallback entries record := by
  refine ⟨fun found hfound => ?_, fun habsent => (habsent (List.mem_map_of_mem hmem)).elim⟩
  rw [Entries.eq_of_mem hdistinct hfound hmem]
  exact hdecode

theorem reads_cons_self {column : Column ρ} {fallback : column.Value} {data : Data}
    {rest : Entries} (hdistinct : Entries.keys ((column.key, data) :: rest) |>.Nodup) {record : ρ} :
    column.Reads fallback ((column.key, data) :: rest) record ↔
      column.codec.decode data = .ok (column.get record) :=
  ⟨fun h => h.present data List.mem_cons_self, reads_of_mem hdistinct List.mem_cons_self⟩

theorem reads_cons_of_ne {column : Column ρ} {fallback : column.Value} {key : String} {data : Data}
    {rest : Entries} (hne : column.key ≠ key) {record : ρ} :
    column.Reads fallback ((key, data) :: rest) record ↔ column.Reads fallback rest record := by
  have hmem : ∀ other, (column.key, other) ∈ (key, data) :: rest ↔ (column.key, other) ∈ rest := by
    simp [hne]
  have hkeys : column.key ∈ Entries.keys ((key, data) :: rest) ↔ column.key ∈ rest.keys := by
    simp [Entries.keys, hne]
  exact ⟨fun h => ⟨fun other hother => h.present other ((hmem other).mpr hother),
      fun habsent => h.absent (mt hkeys.mp habsent)⟩,
    fun h => ⟨fun other hother => h.present other ((hmem other).mp hother),
      fun habsent => h.absent (mt hkeys.mpr habsent)⟩⟩

/-- What is read at this column depends on the entries under its key alone. -/
theorem Reads.congr {column : Column ρ} {fallback : column.Value} {entries others : Entries}
    {record record' : ρ} (h : column.Reads fallback entries record)
    (hmem : ∀ data, (column.key, data) ∈ others ↔ (column.key, data) ∈ entries)
    (hget : column.get record' = column.get record) : column.Reads fallback others record' := by
  refine ⟨fun data hdata => ?_, fun habsent => ?_⟩
  · rw [hget]
    exact h.present data ((hmem data).mp hdata)
  · rw [hget]
    refine h.absent ?_
    rw [Entries.mem_keys] at habsent ⊢
    rwa [← exists_congr hmem]

end Column

/-- The columns of a record, complete and independent of each other. -/
structure Describes {ρ : Type} (columns : List (Column ρ)) (schema : Schema ρ) : Prop where
  fields : schema.fields = columns.map Column.field
  distinct : (columns.map (·.key)).Nodup
  get_set : ∀ column ∈ columns, ∀ value record, column.get (column.set value record) = value
  get_set_other : ∀ column ∈ columns, ∀ other ∈ columns, other.key ≠ column.key →
    ∀ value record, other.get (column.set value record) = other.get record
  get_default : ∀ column ∈ columns, column.get schema.default = column.default
  ext : ∀ record record', (∀ column ∈ columns, column.get record = column.get record') →
    record = record'

namespace Describes

variable {ρ : Type} {columns : List (Column ρ)} {schema : Schema ρ} {column : Column ρ}

theorem eq_of_key_eq (h : Describes columns schema) {other : Column ρ} (hcolumn : column ∈ columns)
    (hother : other ∈ columns) (hkey : other.key = column.key) : other = column :=
  List.inj_on_of_nodup_map h.distinct hother hcolumn hkey

/-- To set a column to what it is changes nothing. -/
theorem set_get (h : Describes columns schema) (hcolumn : column ∈ columns) (record : ρ) :
    column.set (column.get record) record = record := by
  refine h.ext _ _ fun other hother => ?_
  by_cases hkey : other.key = column.key
  · obtain rfl := h.eq_of_key_eq hcolumn hother hkey
    exact h.get_set other hother _ _
  · exact h.get_set_other column hcolumn other hother hkey _ _

theorem find?_fields (h : Describes columns schema) (hcolumn : column ∈ columns) :
    schema.fields.find? (·.key == column.key) = some column.field := by
  rw [h.fields, List.find?_map, Option.map_eq_some_iff]
  refine ⟨column, ?_, rfl⟩
  cases hfound : columns.find? ((fun field : Field ρ => field.key == column.key) ∘ Column.field) with
  | none =>
      have hall := List.find?_eq_none.mp hfound column hcolumn
      simp [Column.field, Codec.field] at hall
  | some other =>
      have hkey := List.find?_some hfound
      have hother := List.mem_of_find?_eq_some hfound
      rw [h.eq_of_key_eq hcolumn hother (by simpa [Column.field, Codec.field] using hkey)]

theorem readEntry_of_mem (h : Describes columns schema) (hcolumn : column ∈ columns)
    (record : ρ) (data : Data) :
    schema.readEntry record (column.key, data) =
      (column.codec.decode data).map fun value => column.set value record := by
  rw [Schema.readEntry, h.find?_fields hcolumn]
  rfl

theorem readEntry_of_unknown (h : Describes columns schema) {key : String}
    (hkey : key ∉ columns.map (·.key)) (record : ρ) (data : Data) :
    schema.readEntry record (key, data) = .ok record := by
  have hfound : schema.fields.find? (·.key == key) = none := by
    rw [h.fields, List.find?_eq_none]
    intro field hfield
    obtain ⟨column, hcolumn, rfl⟩ := List.mem_map.mp hfield
    have hne : column.key ≠ key := fun heq => hkey (List.mem_map.mpr ⟨column, hcolumn, heq⟩)
    simpa [Column.field, Codec.field] using hne
  rw [Schema.readEntry, hfound]

/-- Entries with distinct keys are read one by one, each into its column. -/
theorem foldlM_readEntry_eq_ok_iff (h : Describes columns schema) {entries : Entries}
    (hdistinct : entries.keys.Nodup) (start record : ρ) :
    entries.foldlM schema.readEntry start = .ok record ↔
      ∀ column ∈ columns, column.Reads (column.get start) entries record := by
  induction entries generalizing start with
  | nil =>
      have hnil : ([] : Entries).foldlM schema.readEntry start = .ok start := rfl
      simp only [hnil, Except.ok.injEq, Column.reads_nil]
      refine ⟨fun heq column _ => by rw [heq], fun hget => ?_⟩
      exact h.ext _ _ fun column hcolumn => (hget column hcolumn).symm
  | cons entry rest ih =>
      obtain ⟨key, data⟩ := entry
      have hrest := ih (List.nodup_cons.mp hdistinct).2
      have hfresh := Entries.not_mem_keys_of_cons hdistinct
      by_cases hknown : key ∈ columns.map (·.key)
      · obtain ⟨column, hcolumn, rfl⟩ := List.mem_map.mp hknown
        rw [List.foldlM_cons, h.readEntry_of_mem hcolumn]
        cases hdecode : column.codec.decode data with
        | error reason =>
            constructor
            · intro heq
              cases heq
            · intro hreads
              have hpresent := (hreads column hcolumn).present data List.mem_cons_self
              rw [hdecode] at hpresent
              cases hpresent
        | ok value =>
            refine (hrest (column.set value start)).trans (forall₂_congr fun other hother => ?_)
            by_cases hkey : other.key = column.key
            · -- The rest says nothing about this column any more.
              obtain rfl := h.eq_of_key_eq hcolumn hother hkey
              rw [Column.reads_cons_self hdistinct, hdecode, h.get_set other hother]
              refine ⟨fun hreads => by rw [hreads.absent hfresh], fun heq => ?_⟩
              refine ⟨fun data' hdata' => ?_, fun _ => (Except.ok.inj heq).symm⟩
              exact (hfresh (Entries.mem_keys.mpr ⟨data', hdata'⟩)).elim
            · rw [Column.reads_cons_of_ne hkey, h.get_set_other column hcolumn other hother hkey]
      · rw [List.foldlM_cons, h.readEntry_of_unknown hknown]
        refine (hrest start).trans (forall₂_congr fun column hcolumn => ?_)
        have hne : column.key ≠ key := fun heq =>
          hknown (List.mem_map.mpr ⟨column, hcolumn, heq⟩)
        rw [Column.reads_cons_of_ne hne]

/-! ## Tables -/

section

variable {entries others : Entries} {record : ρ}

/-- A table fits a record if every column finds its value, or has its default and finds none. -/
theorem decode_table_eq_ok_iff (h : Describes columns schema) (hdistinct : entries.keys.Nodup) :
    schema.decode (.table entries) = .ok record ↔
      ∀ column ∈ columns, column.Reads column.default entries record := by
  refine (h.foldlM_readEntry_eq_ok_iff hdistinct schema.default record).trans ?_
  refine forall₂_congr fun column hcolumn => ?_
  rw [h.get_default column hcolumn]

theorem eq_default_iff (h : Describes columns schema) :
    record = schema.default ↔ ∀ column ∈ columns, column.Reads column.default [] record := by
  have hnil : schema.decode (.table []) = .ok schema.default := rfl
  have hdistinct : Entries.keys [] |>.Nodup := List.nodup_nil
  rw [← h.decode_table_eq_ok_iff hdistinct, hnil, Except.ok.injEq]
  exact eq_comm

/-- What stands beside the known keys, and in which order, makes no difference. -/
theorem decode_beside (h : Describes columns schema) (hdistinct : entries.keys.Nodup)
    (hbeside : Entries.Beside (columns.map (·.key)) entries others)
    (hdecode : schema.decode (.table entries) = .ok record) :
    schema.decode (.table others) = .ok record := by
  rw [h.decode_table_eq_ok_iff (hbeside.nodup hdistinct)]
  rw [h.decode_table_eq_ok_iff hdistinct] at hdecode
  intro column hcolumn
  exact (hdecode column hcolumn).congr (hbeside.mem_iff (List.mem_map_of_mem hcolumn)) rfl

/-- Another value under one key sets this column and no other. -/
theorem decode_replace (h : Describes columns schema) (hcolumn : column ∈ columns)
    {before after : Entries} {data data' : Data} {value : column.Value}
    (hdistinct : (Entries.keys (before ++ (column.key, data) :: after)).Nodup)
    (hdecode : schema.decode (.table (before ++ (column.key, data) :: after)) = .ok record)
    (hvalue : column.codec.decode data' = .ok value) :
    schema.decode (.table (before ++ (column.key, data') :: after)) =
      .ok (column.set value record) := by
  have hkeys := Entries.keys_replace before after column.key data data'
  rw [h.decode_table_eq_ok_iff (hkeys ▸ hdistinct)]
  rw [h.decode_table_eq_ok_iff hdistinct] at hdecode
  intro other hother
  by_cases hkey : other.key = column.key
  · obtain rfl := h.eq_of_key_eq hcolumn hother hkey
    have hmem : (other.key, data') ∈ before ++ (other.key, data') :: after := by simp
    refine Column.reads_of_mem (hkeys ▸ hdistinct) hmem ?_
    rw [hvalue, h.get_set other hother]
  · have hmem : ∀ found, (other.key, found) ∈ before ++ (column.key, data') :: after ↔
        (other.key, found) ∈ before ++ (column.key, data) :: after := by
      simp [hkey]
    exact (hdecode other hother).congr hmem
      (h.get_set_other column hcolumn other hother hkey value record)

/-- Without its entry a column has its default, and the other columns are what they were. -/
theorem decode_erase (h : Describes columns schema) (hcolumn : column ∈ columns)
    (hdistinct : entries.keys.Nodup) (hdecode : schema.decode (.table entries) = .ok record) :
    schema.decode (.table (entries.filter (·.1 != column.key))) =
      .ok (column.set column.default record) := by
  have hdistinct' : Entries.keys (entries.filter (·.1 != column.key)) |>.Nodup :=
    hdistinct.sublist (List.filter_sublist.map Prod.fst)
  rw [h.decode_table_eq_ok_iff hdistinct']
  rw [h.decode_table_eq_ok_iff hdistinct] at hdecode
  intro other hother
  by_cases hkey : other.key = column.key
  · obtain rfl := h.eq_of_key_eq hcolumn hother hkey
    refine ⟨fun found hfound => ?_, fun _ => h.get_set other hother _ _⟩
    simp at hfound
  · have hmem : ∀ found, (other.key, found) ∈ entries.filter (·.1 != column.key) ↔
        (other.key, found) ∈ entries := by
      simp [hkey]
    exact (hdecode other hother).congr hmem
      (h.get_set_other column hcolumn other hother hkey _ record)

/-- A record is read back as it was written. -/
theorem decode_encode (h : Describes columns schema)
    (hvalues : ∀ column ∈ columns,
      column.codec.decode (column.codec.encode (column.get record)) = .ok (column.get record)) :
    schema.decode (schema.encode record) = .ok record := by
  let written : Entries :=
    columns.map fun column => (column.key, column.codec.encode (column.get record))
  have hwritten : schema.encode record = .table written := by
    rw [Schema.encode, h.fields, List.map_map]
    rfl
  have hkeys : written.keys = columns.map (·.key) := by
    simp [written, Entries.keys]
  have hdistinct : written.keys.Nodup := hkeys ▸ h.distinct
  rw [hwritten, h.decode_table_eq_ok_iff hdistinct]
  intro column hcolumn
  have hmem : (column.key, column.codec.encode (column.get record)) ∈ written :=
    List.mem_map.mpr ⟨column, hcolumn, rfl⟩
  exact Column.reads_of_mem hdistinct hmem (hvalues column hcolumn)

/-- A list is read like a table that names the columns in their order. -/
theorem foldlM_readItem (h : Describes columns schema) (items : List Data) (start : ρ) :
    (schema.fields.zip items).foldlM Schema.readItem start =
      ((columns.map (·.key)).zip items).foldlM schema.readEntry start := by
  have hread : ∀ column ∈ columns, ∀ (record : ρ) (data : Data),
      Schema.readItem record (column.field, data) =
        schema.readEntry record (column.key, data) := by
    intro column hcolumn record data
    exact (h.readEntry_of_mem hcolumn record data).symm
  rw [h.fields]
  clear h
  induction columns generalizing items start with
  | nil => rfl
  | cons column columns ih =>
      cases items with
      | nil => rfl
      | cons data items =>
          simp only [List.map_cons, List.zip_cons_cons, List.foldlM_cons,
            hread column List.mem_cons_self]
          congr 1
          funext record
          exact ih items record fun other hother => hread other (List.mem_cons_of_mem _ hother)

/-- Whatever form the data has, every column that it says something about has just that. -/
theorem reads_of_decode (h : Describes columns schema) {data : Data}
    (hdistinct : ∀ entries : Entries, data = .table entries → entries.keys.Nodup)
    (hdecode : schema.decode data = .ok record) :
    ∀ column ∈ columns,
      column.Reads column.default (data.entriesFor (columns.map (·.key))) record := by
  have hlist : ∀ items,
      (schema.fields.zip items).foldlM Schema.readItem schema.default = .ok record →
      ∀ column ∈ columns,
        column.Reads column.default ((columns.map (·.key)).zip items) record := by
    intro items hitems
    rw [h.foldlM_readItem] at hitems
    have hkeys : (Entries.keys ((columns.map (·.key)).zip items)).Nodup :=
      h.distinct.sublist (Entries.keys_zip_sublist _ items)
    exact (h.decode_table_eq_ok_iff hkeys).mp hitems
  cases data with
  | table entries => exact (h.decode_table_eq_ok_iff (hdistinct entries rfl)).mp hdecode
  | list items => exact hlist items hdecode
  | sections items => exact hlist items hdecode
  | date => exact h.eq_default_iff.mp (Except.ok.inj hdecode).symm
  | null | bool | int | float | text => cases hdecode

end

end Describes
end Overhead
