import Mathlib.Logic.Relation
import Overhead.Config.Load
import Overhead.Proofs.Config.Mode
import Overhead.Proofs.Settings.Columns
import Overhead.Proofs.Toml.Tidy

/-!
# The sections of the configuration

A configuration is a record of five records, and every setting is found by the key of its section and
its own. What a document says about a setting is therefore all that the setting depends on: the order
of the entries and entries that nobody reads make no difference, and a setting that is left out has
its default, whatever the others are.
-/

namespace Overhead

namespace Graphics

def columns : List (Column Graphics) :=
  [ ⟨GraphicsMode.codec, "mode", (·.mode), fun v r => { r with mode := v }, .window 1280 720⟩,
    ⟨.bool, "disable_vsync", (·.disableVsync), fun v r => { r with disableVsync := v }, false⟩,
    ⟨Codec.text.optional, "name_plate_sprites", (·.spriteDirectory),
      fun v r => { r with spriteDirectory := v }, none⟩ ]

theorem describes : Describes columns schema where
  fields := rfl
  distinct := by decide
  get_set := by simp [columns]
  get_set_other := by simp [columns]
  get_default := by simp [columns, schema]
  ext := by
    intro record record' h
    cases record
    cases record'
    simpa [columns] using h

theorem steady_columns : ∀ column ∈ columns, column.codec.Steady := by
  simp [columns, GraphicsMode.steady_codec, Codec.steady_bool, Codec.steady_text,
    Codec.Steady.optional]

end Graphics

/-! ## Sections -/

/-- A part of the configuration that is a record of its own. -/
structure Section where
  {Record : Type}
  key : String
  schema : Schema Record
  columns : List (Column Record)
  get : Config → Record
  set : Record → Config → Config

namespace Section

def graphics : Section :=
  ⟨"graphics", Graphics.schema, Graphics.columns, (·.graphics), fun v r => { r with graphics := v }⟩

def plates : Section :=
  ⟨"name_plates", PlateSettings.schema, PlateSettings.columns, (·.plates),
    fun v r => { r with plates := v }⟩

def profile : Section :=
  ⟨"player", Profile.schema, Profile.columns, (·.profile), fun v r => { r with profile := v }⟩

def rainbow : Section :=
  ⟨"rainbow", RainbowSettings.schema, RainbowSettings.columns, (·.rainbow),
    fun v r => { r with rainbow := v }⟩

def demo : Section :=
  ⟨"demo", DemoConfig.schema, DemoConfig.columns, (·.demo), fun v r => { r with demo := v }⟩

def all : List Section :=
  [graphics, plates, profile, rainbow, demo]

def keys (part : Section) : List String :=
  part.columns.map (·.key)

def column (part : Section) : Column Config :=
  ⟨part.schema.codec, part.key, part.get, part.set, part.schema.default⟩

theorem describes {part : Section} (h : part ∈ all) : Describes part.columns part.schema := by
  simp only [all, List.mem_cons, List.not_mem_nil, or_false] at h
  rcases h with rfl | rfl | rfl | rfl | rfl
  · exact Graphics.describes
  · exact PlateSettings.describes
  · exact Profile.describes
  · exact RainbowSettings.describes
  · exact DemoConfig.describes

theorem steady {part : Section} (h : part ∈ all) : part.schema.codec.Steady := by
  simp only [all, List.mem_cons, List.not_mem_nil, or_false] at h
  rcases h with rfl | rfl | rfl | rfl | rfl
  · exact Graphics.describes.steady Graphics.steady_columns
  · exact PlateSettings.describes.steady PlateSettings.steady_columns
  · exact Profile.describes.steady Profile.steady_columns
  · exact RainbowSettings.describes.steady RainbowSettings.steady_columns
  · exact DemoConfig.describes.steady DemoConfig.steady_columns

theorem describes_all : Describes (all.map column) Config.schema where
  fields := rfl
  distinct := by decide
  get_set := by simp [all, column, graphics, plates, profile, rainbow, demo]
  get_set_other := by simp [all, column, graphics, plates, profile, rainbow, demo]
  get_default := by
    simp only [all, column, List.map_cons, List.forall_mem_cons]
    exact ⟨rfl, rfl, rfl, rfl, rfl, by simp⟩
  ext := by
    intro record record' h
    cases record
    cases record'
    simpa [all, column, graphics, plates, profile, rainbow, demo] using h

theorem steady_all : Config.schema.codec.Steady := by
  refine describes_all.steady fun column hcolumn => ?_
  obtain ⟨part, hpart, rfl⟩ := List.mem_map.mp hcolumn
  exact steady hpart

/-- A section that is there was read, and one that is not has its default. -/
theorem decode_eq_ok {part : Section} (h : part ∈ all) {entries : Entries}
    (hdistinct : entries.keys.Nodup) {config : Config}
    (hdecode : Config.schema.decode (.table entries) = .ok config) :
    (∀ data, (part.key, data) ∈ entries → part.schema.decode data = .ok (part.get config)) ∧
      (part.key ∉ entries.keys → part.get config = part.schema.default) := by
  have hreads := (describes_all.decode_table_eq_ok_iff hdistinct).mp hdecode part.column
    (List.mem_map_of_mem h)
  exact ⟨hreads.present, hreads.absent⟩

/-- A section may be written in another way. -/
theorem decode_replace {part : Section} (h : part ∈ all) {before after : Entries}
    {data data' : Data} (hdistinct : (Entries.keys (before ++ (part.key, data) :: after)).Nodup)
    {config : Config}
    (hdecode : Config.schema.decode (.table (before ++ (part.key, data) :: after)) = .ok config)
    {record : part.Record} (hrecord : part.schema.decode data' = .ok record) :
    Config.schema.decode (.table (before ++ (part.key, data') :: after)) =
      .ok (part.set record config) :=
  describes_all.decode_replace (List.mem_map_of_mem h : part.column ∈ all.map column) hdistinct
    hdecode hrecord

theorem set_get {part : Section} (h : part ∈ all) (config : Config) :
    part.set (part.get config) config = config :=
  describes_all.set_get (List.mem_map_of_mem h : part.column ∈ all.map column) config

end Section

namespace Config

/-! ## Edits that change nothing -/

/-- Entries may change places in every table, entries that nobody reads may be added to the sections
or beside them, and a section may be there without entries. -/
inductive Harmless : Entries → Entries → Prop where
  | reordered {entries others : Entries} (h : (Data.table entries).Reordered (.table others)) :
      Harmless entries others
  | added {entries : Entries} {key : String} (hunknown : key ∉ Section.all.map (·.key))
      (hnew : key ∉ entries.keys) {data : Data} (hdata : data.Tidy) :
      Harmless entries ((key, data) :: entries)
  | addedInside {part : Section} (hpart : part ∈ Section.all) {inner : Entries} {key : String}
      (hunknown : key ∉ part.keys) (hnew : key ∉ inner.keys) {data : Data} (hdata : data.Tidy)
      (before after : Entries) :
      Harmless (before ++ (part.key, .table inner) :: after)
        (before ++ (part.key, .table ((key, data) :: inner)) :: after)
  | opened {part : Section} (hpart : part ∈ Section.all) {entries : Entries}
      (hnew : part.key ∉ entries.keys) : Harmless entries ((part.key, .table []) :: entries)

section

variable {entries others before after : Entries} {config : Config}

theorem decode_added_inside {part : Section} (hpart : part ∈ Section.all) {inner : Entries}
    {key : String} (hunknown : key ∉ part.keys) (hnew : key ∉ inner.keys) (data : Data)
    (htidy : (Data.table (before ++ (part.key, .table inner) :: after)).Tidy)
    (hdecode : schema.decode (.table (before ++ (part.key, .table inner) :: after)) = .ok config) :
    schema.decode (.table (before ++ (part.key, .table ((key, data) :: inner)) :: after)) =
      .ok config := by
  have hmem : (part.key, .table inner) ∈ before ++ (part.key, .table inner) :: after :=
    List.mem_append_cons_self
  have hread := (Section.decode_eq_ok hpart htidy.nodup hdecode).1 _ hmem
  have hadded := (Section.describes hpart).decode_beside (htidy.of_mem hmem).nodup
    (.added hunknown hnew data) hread
  rw [Section.decode_replace hpart htidy.nodup hdecode hadded, Section.set_get hpart]

/-- A section without entries is read like one that is not there. -/
theorem decode_opened {part : Section} (hpart : part ∈ Section.all) (hnew : part.key ∉ entries.keys)
    (hdistinct : entries.keys.Nodup) (hdecode : schema.decode (.table entries) = .ok config) :
    schema.decode (.table ((part.key, .table []) :: entries)) = .ok config := by
  have hdistinct' : Entries.keys ((part.key, .table []) :: entries) |>.Nodup :=
    List.nodup_cons.mpr ⟨hnew, hdistinct⟩
  have hdefault := (Section.decode_eq_ok hpart hdistinct hdecode).2 hnew
  rw [Section.describes_all.decode_table_eq_ok_iff hdistinct']
  rw [Section.describes_all.decode_table_eq_ok_iff hdistinct] at hdecode
  intro column hcolumn
  by_cases hkey : column.key = part.key
  · obtain rfl := Section.describes_all.eq_of_key_eq
      (List.mem_map_of_mem hpart : part.column ∈ _) hcolumn hkey
    refine Column.reads_of_mem hdistinct' List.mem_cons_self ?_
    show part.schema.decode (.table []) = .ok (part.get config)
    rw [hdefault]
    rfl
  · rw [Column.reads_cons_of_ne hkey]
    exact hdecode column hcolumn

/-- A harmless edit keeps tables tidy, and the configuration what it is. -/
theorem Harmless.keeps (h : Harmless entries others) (htidy : (Data.table entries).Tidy)
    (hdecode : schema.decode (.table entries) = .ok config) :
    (Data.table others).Tidy ∧ schema.decode (.table others) = .ok config := by
  cases h with
  | reordered h => exact ⟨h.tidy htidy, Section.steady_all.decode_reordered h htidy hdecode⟩
  | added hunknown hnew hdata =>
      exact ⟨htidy.cons hnew hdata,
        Section.describes_all.decode_beside htidy.nodup (.added hunknown hnew _) hdecode⟩
  | addedInside hpart hunknown hnew hdata before after =>
      have hinner := htidy.of_mem List.mem_append_cons_self
      exact ⟨htidy.replace (hinner.cons hnew hdata),
        decode_added_inside hpart hunknown hnew _ htidy hdecode⟩
  | opened hpart hnew =>
      have hempty : (Data.table []).Tidy := .table List.nodup_nil fun entry hentry => by cases hentry
      exact ⟨htidy.cons hnew hempty, decode_opened hpart hnew htidy.nodup hdecode⟩

theorem decode_of_harmless (h : Relation.ReflTransGen Harmless entries others)
    (htidy : (Data.table entries).Tidy) (hdecode : schema.decode (.table entries) = .ok config) :
    (Data.table others).Tidy ∧ schema.decode (.table others) = .ok config := by
  induction h with
  | refl => exact ⟨htidy, hdecode⟩
  | tail _ hstep ih => exact hstep.keeps ih.1 ih.2

/-! ## Settings that are left out -/

/-- Without its entry a setting has its default, and all others are what they were. -/
theorem decode_erase {part : Section} (hpart : part ∈ Section.all) {column : Column part.Record}
    (hcolumn : column ∈ part.columns) {inner : Entries}
    (htidy : (Data.table (before ++ (part.key, .table inner) :: after)).Tidy)
    (hdecode : schema.decode (.table (before ++ (part.key, .table inner) :: after)) = .ok config) :
    schema.decode
        (.table (before ++ (part.key, .table (inner.filter (·.1 != column.key))) :: after)) =
      .ok (part.set (column.set column.default (part.get config)) config) := by
  have hmem : (part.key, .table inner) ∈ before ++ (part.key, .table inner) :: after :=
    List.mem_append_cons_self
  have hread := (Section.decode_eq_ok hpart htidy.nodup hdecode).1 _ hmem
  have herased := (Section.describes hpart).decode_erase hcolumn (htidy.of_mem hmem).nodup hread
  exact Section.decode_replace hpart htidy.nodup hdecode herased

/-- What a document says about a section, its settings have; without the section all have their
defaults. -/
theorem reads_section {part : Section} (hpart : part ∈ Section.all)
    (htidy : (Data.table entries).Tidy)
    (hdecode : schema.decode (.table entries) = .ok config) {column : Column part.Record}
    (hcolumn : column ∈ part.columns) :
    (∀ data, (part.key, data) ∈ entries →
      column.Reads column.default (data.entriesFor part.keys) (part.get config)) ∧
      (part.key ∉ entries.keys → column.get (part.get config) = column.default) := by
  obtain ⟨hpresent, habsent⟩ := Section.decode_eq_ok hpart htidy.nodup hdecode
  have hdescribes := Section.describes hpart
  refine ⟨fun data hdata => ?_, fun hkey => ?_⟩
  · refine hdescribes.reads_of_decode (fun inner hinner => ?_) (hpresent data hdata) column hcolumn
    exact (htidy.of_mem (hinner ▸ hdata)).nodup
  · rw [habsent hkey]
    exact hdescribes.get_default column hcolumn

end

/-- A document is a table. -/
theorem exists_table_of_read? {text : String} {data : Data} (h : Toml.read? text = some data) :
    ∃ entries, data = .table entries := by
  obtain ⟨document, -, rfl⟩ := Option.map_eq_some_iff.mp h
  exact ⟨_, rfl⟩

/-- A file is accepted if it holds a document whose table fits. -/
theorem load_eq_ok_iff (path : String) (contents : Option ByteArray) (config : Config) :
    load path contents = .ok config ↔
      ∃ text entries, Config.text contents = .ok text ∧ Toml.read? text = some (.table entries) ∧
        schema.decode (.table entries) = .ok config := by
  cases htext : Config.text contents with
  | error reason => simp [load, htext, Except.mapError, bind, Except.bind]
  | ok text =>
      cases hread : Toml.read? text with
      | none => simp [load, htext, hread, Except.mapError, bind, Except.bind]
      | some data =>
          obtain ⟨entries, rfl⟩ := exists_table_of_read? hread
          cases hdecode : schema.decode (.table entries) <;>
            simp [load, htext, hread, hdecode, Except.mapError, bind, Except.bind]

/-- A configuration is read field by field. A document is a table without a key twice, at any depth.
A setting has the value that is found for it there, and its default if there is none or the section
is not there; a list in the place of a section gives the values of its settings in their order.
Entries in another order and entries that nobody reads make no difference, and without its entry a
setting has its default and no other setting changes. Settings that were written are read back. -/
theorem sections_are_read_field_by_field :
    (∀ (path : String) (contents : Option ByteArray) (config : Config),
      load path contents = .ok config ↔
        ∃ text entries, Config.text contents = .ok text ∧
          Toml.read? text = some (.table entries) ∧
            schema.decode (.table entries) = .ok config) ∧
    (∀ (text : String) (data : Data), Toml.read? text = some data → data.Tidy) ∧
    (∀ (entries : Entries) (config : Config), (Data.table entries).Tidy →
      schema.decode (.table entries) = .ok config →
        (∀ part ∈ Section.all, ∀ column ∈ part.columns,
          (∀ data, (part.key, data) ∈ entries →
            column.Reads column.default (data.entriesFor part.keys) (part.get config)) ∧
          (part.key ∉ entries.keys → column.get (part.get config) = column.default)) ∧
        (∀ others, Relation.ReflTransGen Harmless entries others →
          schema.decode (.table others) = .ok config) ∧
        ∀ part ∈ Section.all, ∀ column ∈ part.columns, ∀ before inner after,
          entries = before ++ (part.key, .table inner) :: after →
            schema.decode
                (.table (before ++ (part.key, .table (inner.filter (·.1 != column.key))) ::
                  after)) =
              .ok (part.set (column.set column.default (part.get config)) config)) ∧
    (∀ settings : PlateSettings,
      PlateSettings.schema.decode (PlateSettings.schema.encode settings) = .ok settings) ∧
    (∀ settings : RainbowSettings,
      RainbowSettings.schema.decode (RainbowSettings.schema.encode settings) = .ok settings) ∧
    ∀ profile : Profile, profile.activeDummy < Nat.pow 2 64 →
      Profile.schema.decode (Profile.schema.encode profile) = .ok profile := by
  refine ⟨load_eq_ok_iff, fun _ _ => Toml.tidy_of_read?,
    fun entries config htidy hdecode => ⟨?_, ?_, ?_⟩,
    PlateSettings.decode_encode, RainbowSettings.decode_encode, fun profile h =>
      Profile.decode_encode h⟩
  · intro part hpart column hcolumn
    exact reads_section hpart htidy hdecode hcolumn
  · intro others hothers
    exact (decode_of_harmless hothers htidy hdecode).2
  · rintro part hpart column hcolumn before inner after rfl
    exact decode_erase hpart hcolumn htidy hdecode

/-- A list gives plates a size without naming it: the size is not the default, though no table has an
entry for it. -/
theorem list_gives_size_without_key :
    let entries : Entries := [("name_plates", .list [.bool true, .bool false, .int 3])]
    (∀ inner, ("name_plates", .table inner) ∉ entries) ∧
      ∃ config, schema.decode (.table entries) = .ok config ∧ config.plates.size = 3 ∧
        ({} : PlateSettings).size = 50 := by
  refine ⟨by simp, { plates := { size := 3 } }, rfl, rfl, rfl⟩

/-- A fast effect over few players, and an entry that nobody reads. -/
def lively : Entries :=
  [ ("rainbow", .table [("mode", .text "pulse"), ("speed", .int 300)]),
    ("demo", .table [("players", .int 4), ("pace", .int 9)]) ]

theorem sections_are_read_field_by_field_of_lively :
    let config : Config := { rainbow := { mode := .pulse, speed := 300 }, demo := { players := 4 } }
    Toml.read? "[demo]" = some (.table [("demo", .table [])]) ∧
      (Data.table [("demo", .table [])]).Tidy ∧ (Data.table lively).Tidy ∧
      schema.decode (.table lively) = .ok config ∧
      schema.decode
          (.table
            [ ("title", .text "lively"),
              ("demo", .table [("players", .int 4), ("pace", .int 9)]),
              ("rainbow", .table [("mode", .text "pulse"), ("speed", .int 300)]) ]) =
        .ok config ∧
      schema.decode
          (.table
            [ ("rainbow", .table [("mode", .text "pulse")]),
              ("demo", .table [("players", .int 4), ("pace", .int 9)]) ]) =
        .ok { rainbow := { mode := .pulse, speed := 100 }, demo := { players := 4 } } ∧
      Profile.schema.decode (Profile.schema.encode { activeDummy := 1 }) =
        .ok { activeDummy := 1 } := by
  have hlively : (Data.table lively).Tidy := by
    refine .table (by decide) ?_
    simp only [lively, List.forall_mem_cons, List.not_mem_nil, false_imp_iff, implies_true,
      and_true]
    refine ⟨.table (by decide) ?_, .table (by decide) ?_⟩
    · simp only [List.forall_mem_cons]
      exact ⟨.text _, .int _, by simp⟩
    · simp only [List.forall_mem_cons]
      exact ⟨.int _, .int _, by simp⟩
  obtain ⟨-, htidy, hread, -, -, hprofile⟩ := sections_are_read_field_by_field
  have hdecode : schema.decode (.table lively) =
      .ok { rainbow := { mode := .pulse, speed := 300 }, demo := { players := 4 } } := rfl
  obtain ⟨-, hedits, herase⟩ := hread lively _ hlively hdecode
  refine ⟨rfl, htidy "[demo]" _ rfl, hlively, hdecode, hedits _ ?_, ?_, hprofile _ (by decide)⟩
  · refine .tail (.single (.reordered (.table (.swap _ _ _)))) (.added ?_ ?_ (.text _))
    · decide
    · decide
  · exact herase Section.rainbow (by simp [Section.all]) RainbowSettings.columns[1]
      (List.getElem_mem _) [] _ _ rfl

end Config
end Overhead
