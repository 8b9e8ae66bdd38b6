import Overhead.Config.Basic
import Overhead.Proofs.Data.Order

/-!
# The graphics mode

The mode is the one entry that must be complete. It is told by the entries under three keys, wherever
they stand: its type and, for a window, the width and the height.
-/

namespace Overhead
namespace GraphicsMode

/-! ## The sides of a window -/

/-- A side that is there, or not yet. -/
def sideCodec : Codec (Option Float32) where
  encode
    | none => .null
    | some length => .float length.toFloat
  decode data := (side data).map some

namespace Sides

def columns : List (Column Sides) :=
  [ ⟨sideCodec, "width", (·.width), fun v r => { r with width := v }, none⟩,
    ⟨sideCodec, "height", (·.height), fun v r => { r with height := v }, none⟩ ]

/-- The sides of a window are a record like any other. -/
def schema : Schema Sides where
  name := windowName
  default := {}
  fields := columns.map Column.field

theorem describes : Describes columns schema where
  fields := rfl
  distinct := by decide
  get_set := by simp [columns]
  get_set_other := by simp [columns]
  get_default := by simp [columns, schema]
  ext := by
    intro record record' h
    cases record
    cases record'
    simpa [columns] using h

theorem readSide_eq : readSide = schema.readEntry := by
  funext sides entry
  obtain ⟨key, data⟩ := entry
  by_cases hwidth : key = "width"
  · subst hwidth
    cases hside : side data <;>
      simp [readSide, Schema.readEntry, schema, columns, Column.field, Codec.field, sideCodec,
        hside, Except.map]
  · by_cases hheight : key = "height"
    · subst hheight
      cases hside : side data <;>
        simp [readSide, Schema.readEntry, schema, columns, Column.field, Codec.field, sideCodec,
          hside, Except.map]
    · have hunknown : key ∉ columns.map (·.key) := by
        simp [columns, hwidth, hheight]
      rw [describes.readEntry_of_unknown hunknown, readSide, if_neg hwidth, if_neg hheight]

theorem decode_side_eq_ok_iff {data : Data} {length : Float32} :
    sideCodec.decode data = .ok (some length) ↔ side data = .ok length := by
  cases hside : side data <;> simp [sideCodec, hside, Except.map]

end Sides

/-- The entries tell both sides of the window. -/
def WindowOf (entries : Entries) (mode : GraphicsMode) : Prop :=
  ∃ width height widthData heightData, ("width", widthData) ∈ entries ∧
    side widthData = .ok width ∧ ("height", heightData) ∈ entries ∧
    side heightData = .ok height ∧ mode = .window width height

/-- A side that was read stands among the entries. -/
theorem exists_side {key : String} {get : Sides → Option Float32}
    {set : Option Float32 → Sides → Sides} {entries : Entries} {sides : Sides} {length : Float32}
    (h : (Column.mk sideCodec key get set none).Reads none entries sides)
    (hget : get sides = some length) : ∃ data, (key, data) ∈ entries ∧ side data = .ok length := by
  by_cases hkey : key ∈ entries.keys
  · obtain ⟨data, hdata⟩ := Entries.mem_keys.mp hkey
    have hdecode : sideCodec.decode data = .ok (get sides) := h.present data hdata
    rw [hget, Sides.decode_side_eq_ok_iff] at hdecode
    exact ⟨data, hdata, hdecode⟩
  · have habsent : get sides = none := h.absent hkey
    rw [hget] at habsent
    cases habsent

theorem windowOfEntries_eq_ok_iff {entries : Entries} (hdistinct : entries.keys.Nodup)
    {mode : GraphicsMode} : windowOfEntries entries = .ok mode ↔ WindowOf entries mode := by
  have hreads : ∀ sides : Sides, entries.foldlM readSide {} = .ok sides ↔
      ∀ column ∈ Sides.columns, column.Reads column.default entries sides := by
    intro sides
    rw [Sides.readSide_eq]
    exact Sides.describes.decode_table_eq_ok_iff hdistinct
  constructor
  · intro hmode
    cases hsides : entries.foldlM readSide {} with
    | error reason => simp [windowOfEntries, hsides, bind, Except.bind] at hmode
    | ok sides =>
        have hcolumns := (hreads sides).mp hsides
        simp only [Sides.columns, List.forall_mem_cons] at hcolumns
        obtain ⟨hwidth, hheight, -⟩ := hcolumns
        obtain ⟨_ | width, _ | height⟩ := sides
        · simp [windowOfEntries, hsides, bind, Except.bind] at hmode
        · simp [windowOfEntries, hsides, bind, Except.bind] at hmode
        · simp [windowOfEntries, hsides, bind, Except.bind] at hmode
        · obtain ⟨widthData, hwidthData, hwidthSide⟩ := exists_side hwidth rfl
          obtain ⟨heightData, hheightData, hheightSide⟩ := exists_side hheight rfl
          simp only [windowOfEntries, hsides, bind, Except.bind, Except.ok.injEq] at hmode
          exact ⟨width, height, widthData, heightData, hwidthData, hwidthSide, hheightData,
            hheightSide, hmode.symm⟩
  · rintro ⟨width, height, widthData, heightData, hwidthData, hwidth, hheightData, hheight, rfl⟩
    have hsides : entries.foldlM readSide {} = .ok { width := some width, height := some height } := by
      rw [hreads]
      simp only [Sides.columns, List.forall_mem_cons]
      refine ⟨?_, ?_, by simp⟩
      · exact Column.reads_of_mem hdistinct hwidthData (Sides.decode_side_eq_ok_iff.mpr hwidth)
      · exact Column.reads_of_mem hdistinct hheightData (Sides.decode_side_eq_ok_iff.mpr hheight)
    simp [windowOfEntries, hsides, bind, Except.bind]

/-! ## The type -/

theorem splitKind_of_not_mem {entries : Entries} (h : "type" ∉ entries.keys) :
    splitKind entries = .ok (none, entries) := by
  induction entries with
  | nil => rfl
  | cons entry rest ih =>
      obtain ⟨key, data⟩ := entry
      have hne : key ≠ "type" := fun heq => h (by simp [Entries.keys, heq])
      have hrest : "type" ∉ Entries.keys rest := fun hmem => h (List.mem_cons_of_mem _ hmem)
      rw [splitKind, if_neg hne, ih hrest]
      rfl

/-- With distinct keys the type is read from its one entry, and the others are left. -/
theorem splitKind_of_mem {entries : Entries} (hdistinct : entries.keys.Nodup) {data : Data}
    (h : ("type", data) ∈ entries) :
    splitKind entries =
      (kind data).map fun found => (some found, entries.filter (·.1 != "type")) := by
  induction entries with
  | nil => cases h
  | cons entry rest ih =>
      obtain ⟨key, value⟩ := entry
      have hfresh := Entries.not_mem_keys_of_cons hdistinct
      by_cases hkey : key = "type"
      · subst hkey
        obtain rfl := Entries.eq_of_mem hdistinct List.mem_cons_self h
        have hothers : rest.filter (·.1 != "type") = rest := by
          refine List.filter_eq_self.mpr fun other hother => ?_
          have hne : other.1 ≠ "type" := fun heq => hfresh (heq ▸ List.mem_map_of_mem hother)
          simpa using hne
        rw [splitKind, if_pos rfl, splitKind_of_not_mem hfresh]
        cases hkind : kind value <;>
          simp [hothers, bind, Except.bind, pure, Except.pure, Except.map]
      · have hmem : ("type", data) ∈ rest := by
          simpa [Ne.symm hkey] using h
        rw [splitKind, if_neg hkey, ih (List.nodup_cons.mp hdistinct).2 hmem]
        cases hkind : kind data <;>
          simp [hkey, bind, Except.bind, pure, Except.pure, Except.map]

theorem windowOf_filter {entries : Entries} {mode : GraphicsMode} :
    WindowOf (entries.filter (·.1 != "type")) mode ↔ WindowOf entries mode := by
  simp [WindowOf]

/-- A table tells a mode by its type, and by both sides if that is a window. -/
theorem decode_table_eq_ok_iff {entries : Entries} (hdistinct : entries.keys.Nodup)
    {mode : GraphicsMode} :
    decode (.table entries) = .ok mode ↔
      ∃ data, ("type", data) ∈ entries ∧
        (kind data = .ok .fullscreen ∧ mode = .fullscreen ∨
          kind data = .ok .window ∧ WindowOf entries mode) := by
  by_cases htype : "type" ∈ entries.keys
  · obtain ⟨data, hdata⟩ := Entries.mem_keys.mp htype
    have hothers : Entries.keys (entries.filter (·.1 != "type")) |>.Nodup :=
      hdistinct.sublist (List.filter_sublist.map Prod.fst)
    have hdecode : decode (.table entries) = .ok mode ↔
        kind data = .ok .fullscreen ∧ mode = .fullscreen ∨
          kind data = .ok .window ∧ WindowOf entries mode := by
      have hsplit := splitKind_of_mem hdistinct hdata
      rw [← windowOf_filter, ← windowOfEntries_eq_ok_iff hothers]
      rcases hkind : kind data with reason | _ | _ <;>
        simp [decode, hsplit, hkind, bind, Except.bind, Except.map, eq_comm]
    rw [hdecode]
    refine ⟨fun h => ⟨data, hdata, h⟩, fun ⟨data', hdata', h⟩ => ?_⟩
    rwa [Entries.eq_of_mem hdistinct hdata hdata']
  · have hdecode : decode (.table entries) = .error (.missingField "type") := by
      simp [decode, splitKind_of_not_mem htype, bind, Except.bind]
    rw [hdecode]
    constructor
    · intro h
      cases h
    · rintro ⟨data, hdata, -⟩
      exact (htype (Entries.mem_keys.mpr ⟨data, hdata⟩)).elim

/-! ## The order of entries -/

theorem not_reordered_of_kind {data data' : Data} {found : Kind} (h : kind data = .ok found) :
    ¬ data.Reordered data' := by
  intro hreordered
  cases hreordered <;> cases h

theorem not_reordered_of_side {data data' : Data} {length : Float32} (h : side data = .ok length) :
    ¬ data.Reordered data' := by
  intro hreordered
  cases hreordered <;> cases h

theorem eq_nil_of_refuseRest {read : Nat} {rest : List Data} (h : refuseRest read rest = .ok ()) :
    rest = [] := by
  unfold refuseRest at h
  split at h
  · next hrest => exact List.isEmpty_iff.mp hrest
  · cases h

theorem sides_of_windowOfItems {items : List Data} {mode : GraphicsMode}
    (h : windowOfItems items = .ok mode) :
    ∃ first second width height, items = [first, second] ∧ side first = .ok width ∧
      side second = .ok height := by
  rcases items with _ | ⟨first, _ | ⟨second, rest⟩⟩
  · cases h
  · cases hfirst : side first <;> simp [windowOfItems, hfirst, bind, Except.bind] at h
  · cases hfirst : side first with
    | error reason => simp [windowOfItems, hfirst, bind, Except.bind] at h
    | ok width =>
        cases hsecond : side second with
        | error reason => simp [windowOfItems, hfirst, hsecond, bind, Except.bind] at h
        | ok height =>
            cases hrest : refuseRest 2 rest with
            | error reason =>
                simp [windowOfItems, hfirst, hsecond, hrest, bind, Except.bind] at h
            | ok =>
                rw [eq_nil_of_refuseRest hrest]
                exact ⟨first, second, width, height, rfl, hfirst, hsecond⟩

/-- In a list that tells a mode no item has keys. -/
theorem not_reordered_of_ofItems {items : List Data} {mode : GraphicsMode}
    (h : ofItems items = .ok mode) : ∀ item ∈ items, ∀ data', ¬ item.Reordered data' := by
  cases items with
  | nil => cases h
  | cons first rest =>
      cases hkind : kind first with
      | error reason => simp [ofItems, hkind, bind, Except.bind] at h
      | ok found =>
          have hrest : ∀ item ∈ rest, ∀ data', ¬ item.Reordered data' := by
            cases found with
            | window =>
                have hwindow : windowOfItems rest = .ok mode := by
                  simpa [ofItems, hkind, bind, Except.bind] using h
                obtain ⟨first, second, width, height, rfl, hfirst, hsecond⟩ :=
                  sides_of_windowOfItems hwindow
                simp only [List.forall_mem_cons]
                exact ⟨fun _ => not_reordered_of_side hfirst,
                  fun _ => not_reordered_of_side hsecond, by simp⟩
            | fullscreen =>
                cases hempty : refuseRest 0 rest with
                | error reason => simp [ofItems, hkind, hempty, bind, Except.bind] at h
                | ok =>
                    rw [eq_nil_of_refuseRest hempty]
                    simp
          simp only [List.forall_mem_cons]
          exact ⟨fun _ => not_reordered_of_kind hkind, hrest⟩

/-- A value without keys stays where it is. -/
theorem mem_replaced {before after : Entries} {key name : String} {data data' found : Data}
    (hreordered : data.Reordered data') (hfound : ¬ found.Reordered data')
    (h : (name, found) ∈ before ++ (key, data) :: after) :
    (name, found) ∈ before ++ (key, data') :: after := by
  simp only [List.mem_append, List.mem_cons, Prod.mk.injEq] at h ⊢
  rcases h with hbefore | ⟨-, rfl⟩ | hafter
  · exact .inl hbefore
  · exact (hfound hreordered).elim
  · exact .inr (.inr hafter)

theorem decode_reordered_table {entries others : Entries}
    (hreordered : (Data.table entries).Reordered (.table others))
    (htidy : (Data.table entries).Tidy) {mode : GraphicsMode}
    (hdecode : decode (.table entries) = .ok mode) : decode (.table others) = .ok mode := by
  have hothers := (hreordered.tidy htidy).nodup
  have hkept : ∀ {name : String} {found : Data}, (∀ data', ¬ found.Reordered data') →
      (name, found) ∈ entries → (name, found) ∈ others := by
    cases hreordered with
    | table hperm => exact fun _ => hperm.mem_iff.mp
    | entry hvalue before after key => exact fun hfound => mem_replaced hvalue (hfound _)
  obtain ⟨data, hdata, hmode⟩ := (decode_table_eq_ok_iff htidy.nodup).mp hdecode
  rw [decode_table_eq_ok_iff hothers]
  rcases hmode with ⟨hkind, rfl⟩ | ⟨hkind, hwindow⟩
  · exact ⟨data, hkept (fun _ => not_reordered_of_kind hkind) hdata, .inl ⟨hkind, rfl⟩⟩
  · obtain ⟨width, height, widthData, heightData, hwidthData, hwidth, hheightData, hheight, rfl⟩ :=
      hwindow
    have hwindow' : WindowOf others (.window width height) :=
      ⟨width, height, widthData, heightData,
        hkept (fun _ => not_reordered_of_side hwidth) hwidthData, hwidth,
        hkept (fun _ => not_reordered_of_side hheight) hheightData, hheight, rfl⟩
    exact ⟨data, hkept (fun _ => not_reordered_of_kind hkind) hdata, .inr ⟨hkind, hwindow'⟩⟩

/-- A mode is read in any order of keys. -/
theorem steady_codec : codec.Steady := by
  refine ⟨fun {data data'} hreordered htidy mode hdecode => ?_⟩
  have hread := hreordered
  cases hreordered with
  | table hperm => exact decode_reordered_table hread htidy hdecode
  | entry hvalue before after key => exact decode_reordered_table hread htidy hdecode
  | item hitem before after =>
      exact (not_reordered_of_ofItems hdecode _ List.mem_append_cons_self _ hitem).elim
  | sectionItem hitem before after =>
      exact (not_reordered_of_ofItems hdecode _ List.mem_append_cons_self _ hitem).elim

end GraphicsMode
end Overhead
