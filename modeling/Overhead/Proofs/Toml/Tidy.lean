import Overhead.Proofs.Data.Order
import Overhead.Toml.Document

/-!
# Documents have no key twice

A key is looked up before anything is put under it: what is there is changed where it stands, or the
document is refused. So the tables under construction keep their keys apart, and so do all tables of
a document that was read.
-/

namespace Overhead

/-- An update gives a key that is there another value, or adds the key behind all others. -/
theorem Toml.update?_eq_some {α : Type} {key : String} {change : Option α → Option α}
    {entries others : List (String × α)} (h : Toml.update? key change entries = some others) :
    (∃ before old after value, entries = before ++ (key, old) :: after ∧
      change (some old) = some value ∧ others = before ++ (key, value) :: after) ∨
    ∃ value, key ∉ entries.map Prod.fst ∧ change none = some value ∧
      others = entries ++ [(key, value)] := by
  induction entries generalizing others with
  | nil =>
      obtain ⟨value, hvalue, rfl⟩ := Option.map_eq_some_iff.mp h
      exact .inr ⟨value, by simp, hvalue, rfl⟩
  | cons entry rest ih =>
      obtain ⟨k, old⟩ := entry
      rw [Toml.update?] at h
      split at h
      · next hkey =>
          subst hkey
          obtain ⟨value, hvalue, rfl⟩ := Option.map_eq_some_iff.mp h
          exact .inl ⟨[], old, rest, value, rfl, hvalue, rfl⟩
      · next hkey =>
          obtain ⟨others, hothers, rfl⟩ := Option.map_eq_some_iff.mp h
          rcases ih hothers with ⟨before, found, after, value, rfl, hvalue, rfl⟩ |
            ⟨value, hnew, hvalue, rfl⟩
          · exact .inl ⟨(k, old) :: before, found, after, value, rfl, hvalue, rfl⟩
          · refine .inr ⟨value, ?_, hvalue, rfl⟩
            simpa [Ne.symm hkey] using hnew

theorem Keyed.update {α : Type} {Fine : α → Prop} {key : String} {change : Option α → Option α}
    {entries others : List (String × α)} (h : Keyed Fine entries)
    (hnew : ∀ {value}, change none = some value → Fine value)
    (hold : ∀ {old value}, Fine old → change (some old) = some value → Fine value)
    (hupdate : Toml.update? key change entries = some others) : Keyed Fine others := by
  rcases Toml.update?_eq_some hupdate with ⟨before, old, after, value, rfl, hvalue, rfl⟩ |
    ⟨value, hkey, hvalue, rfl⟩
  · exact h.replace (hold (h.fine (key, old) List.mem_append_cons_self) hvalue)
  · exact h.concat hkey (hnew hvalue)

namespace Toml

/-! ## Values -/

def Neat (value? : Input → Option (Data × Input)) : Prop :=
  ∀ {input data rest}, value? input = some (data, rest) → data.Tidy

theorem tidy_of_extend? {data : Data} (hdata : data.Tidy) {path : List String}
    {entries others : List (String × Data)} (h : Keyed Data.Tidy entries)
    (hextend : extend? data path entries = some others) : Keyed Data.Tidy others := by
  induction path generalizing entries others with
  | nil => cases hextend
  | cons key path ih =>
      cases path with
      | nil =>
          refine h.update (fun hvalue => ?_) (fun _ hvalue => by simp at hvalue) hextend
          obtain rfl := Option.some.inj hvalue
          exact hdata
      | cons next path =>
          refine h.update (fun hvalue => ?_) (fun {old value} hold hvalue => ?_) hextend
          · obtain ⟨inner, hinner, rfl⟩ := Option.map_eq_some_iff.mp hvalue
            exact Data.tidy_table_iff.mpr (ih .nil hinner)
          · cases old with
            | table found =>
                obtain ⟨inner, hinner, rfl⟩ := Option.map_eq_some_iff.mp hvalue
                exact Data.tidy_table_iff.mpr (ih (Data.tidy_table_iff.mp hold) hinner)
            | null | bool | int | float | text | date | list | sections => cases hvalue

section

variable {value? : Input → Option (Data × Input)}

theorem tidy_of_pair? (hvalue : Neat value?) {input rest : Input} {path : List String} {data : Data}
    (h : pair? value? input = some ((path, data), rest)) : data.Tidy := by
  obtain ⟨⟨found, behind⟩, -, h⟩ := Option.bind_eq_some_iff.mp h
  obtain ⟨behind', -, h⟩ := Option.bind_eq_some_iff.mp h
  obtain ⟨⟨data', rest'⟩, hread, h⟩ := Option.bind_eq_some_iff.mp h
  cases h
  exact hvalue hread

theorem tidy_of_pairs? (hvalue : Neat value?) {fuel : Nat} {input rest : Input}
    {entries others : List (String × Data)} (h : Keyed Data.Tidy entries)
    (hpairs : pairs? value? fuel entries input = some (others, rest)) : Keyed Data.Tidy others := by
  induction fuel generalizing entries input with
  | zero => cases hpairs
  | succ fuel ih =>
      obtain ⟨⟨⟨path, data⟩, behind⟩, hpair, hpairs⟩ := Option.bind_eq_some_iff.mp hpairs
      obtain ⟨extended, hextend, hpairs⟩ := Option.bind_eq_some_iff.mp hpairs
      have hextended := tidy_of_extend? (tidy_of_pair? hvalue hpair) h hextend
      split at hpairs
      · exact ih hextended hpairs
      · cases hpairs
        exact hextended
      · cases hpairs

theorem tidy_of_items? (hvalue : Neat value?) {fuel : Nat} {input rest : Input} {items : List Data}
    (h : items? value? fuel input = some (items, rest)) : ∀ item ∈ items, item.Tidy := by
  induction fuel generalizing input items with
  | zero => cases h
  | succ fuel ih =>
      rw [items?] at h
      split at h
      · cases h
        simp
      · obtain ⟨⟨item, behind⟩, hitem, h⟩ := Option.bind_eq_some_iff.mp h
        dsimp only at h
        split at h
        · obtain ⟨⟨later, behind'⟩, hlater, h⟩ := Option.bind_eq_some_iff.mp h
          cases h
          exact List.forall_mem_cons.mpr ⟨hvalue hitem, ih hlater⟩
        · cases h
          simpa using hvalue hitem
        · cases h

theorem tidy_of_inline? (hvalue : Neat value?) : Neat (inline? value?) := by
  intro input data rest h
  rw [inline?] at h
  split at h
  · cases h
    exact Data.tidy_table_iff.mpr .nil
  · obtain ⟨⟨entries, behind⟩, hpairs, h⟩ := Option.map_eq_some_iff.mp h
    cases h
    exact Data.tidy_table_iff.mpr (tidy_of_pairs? hvalue .nil hpairs)

end

theorem tidy_of_bare? {word : List Char} {data : Data} (h : bare? word = some data) :
    data.Tidy := by
  unfold bare? at h
  split at h
  · cases h
    exact .bool true
  split at h
  · cases h
    exact .bool false
  split at h
  · cases h
    exact .date
  split at h
  · cases h
    exact .int _
  · obtain ⟨x, -, rfl⟩ := Option.map_eq_some_iff.mp h
    exact .float x

theorem neat_bareValue? : Neat bareValue? := by
  intro input data rest h
  obtain ⟨value, hbare, h⟩ := Option.bind_eq_some_iff.mp h
  have htidy := tidy_of_bare? hbare
  split at h
  · split at h
    · cases h
      exact htidy
    · cases h
      exact htidy
  · cases h
    exact htidy

theorem neat_quoted : Neat value?.quoted := by
  intro input data rest h
  obtain ⟨⟨text, behind⟩, -, h⟩ := Option.map_eq_some_iff.mp h
  cases h
  exact .text text

theorem neat_value? (depth : Nat) : Neat (value? depth) := by
  induction depth with
  | zero =>
      intro input data rest h
      unfold value? at h
      split at h
      · exact neat_quoted h
      · exact neat_quoted h
      · cases h
      · cases h
      · next heq => cases heq
      · next heq => cases heq
      · exact neat_bareValue? h
  | succ depth ih =>
      intro input data rest h
      unfold value? at h
      split at h
      · exact neat_quoted h
      · exact neat_quoted h
      · next heq => cases heq
      · next heq => cases heq
      · next heq =>
          cases heq
          obtain ⟨⟨items, behind⟩, hitems, h⟩ := Option.map_eq_some_iff.mp h
          cases h
          exact .list (tidy_of_items? ih hitems)
      · next heq =>
          cases heq
          exact tidy_of_inline? ih h
      · exact neat_bareValue? h

/-! ## Tables under construction -/

/-- No table has a key twice, the open ones included. -/
inductive Node.Tidy : Node → Prop where
  | value {data : Data} (h : data.Tidy) : Tidy (.value data)
  | table {origin : Origin} {entries : List (String × Node)}
      (hdistinct : (entries.map Prod.fst).Nodup) (hfine : ∀ entry ∈ entries, entry.2.Tidy) :
      Tidy (.table origin entries)
  | tables {earlier : List Data} {last : List (String × Node)}
      (hearlier : ∀ data ∈ earlier, data.Tidy) (hdistinct : (last.map Prod.fst).Nodup)
      (hfine : ∀ entry ∈ last, entry.2.Tidy) : Tidy (.tables earlier last)

namespace Entries

theorem toData_eq_map (entries : Entries) :
    toData entries = entries.map fun entry => (entry.1, entry.2.toData) := by
  induction entries with
  | nil => rfl
  | cons entry rest ih =>
      rw [toData, ih]
      rfl

theorem keyed_toData {entries : Entries} (hdistinct : (entries.map Prod.fst).Nodup)
    (hfine : ∀ entry ∈ entries, entry.2.toData.Tidy) : Keyed Data.Tidy (toData entries) := by
  rw [toData_eq_map]
  refine ⟨by simpa [Function.comp_def] using hdistinct, ?_⟩
  simpa only [List.forall_mem_map] using hfine

end Entries

theorem Node.Tidy.toData {node : Node} (h : node.Tidy) : node.toData.Tidy := by
  induction h with
  | value h => exact h
  | table hdistinct hfine ih => exact Data.tidy_table_iff.mpr (Entries.keyed_toData hdistinct ih)
  | tables hearlier hdistinct hfine ih =>
      refine .sections ?_
      simp only [List.forall_mem_append, List.forall_mem_singleton]
      exact ⟨hearlier, Data.tidy_table_iff.mpr (Entries.keyed_toData hdistinct ih)⟩

namespace Entries

/-- All that is in the tables so far is tidy. -/
abbrev Tidy (entries : Entries) : Prop :=
  Keyed Node.Tidy entries

theorem Tidy.toData {entries : Entries} (h : entries.Tidy) :
    (Data.table (Entries.toData entries)).Tidy :=
  Data.tidy_table_iff.mpr (keyed_toData h.distinct fun entry hentry => (h.fine entry hentry).toData)

theorem Tidy.table {entries : Entries} (h : entries.Tidy) (origin : Origin) :
    (Node.table origin entries).Tidy :=
  .table h.distinct h.fine

theorem tidy_of_table {entries : Entries} {origin : Origin} (h : (Node.table origin entries).Tidy) :
    entries.Tidy := by
  cases h with
  | table hdistinct hfine => exact ⟨hdistinct, hfine⟩

variable {entries others : Entries}

theorem Tidy.within {making : Origin} {change : Origin → Entries → Option Entries}
    (hchange : ∀ {origin inner inner'}, Entries.Tidy inner → change origin inner = some inner' →
      Entries.Tidy inner')
    {path : List String} {origin : Origin} (h : entries.Tidy)
    (hwithin : within? making change path origin entries = some others) : others.Tidy := by
  induction path generalizing origin entries others with
  | nil => exact hchange h hwithin
  | cons key path ih =>
      refine h.update (fun hvalue => ?_) (fun {old value} hold hvalue => ?_) hwithin
      · obtain ⟨inner, hinner, rfl⟩ := Option.map_eq_some_iff.mp hvalue
        exact (ih .nil hinner).table making
      · cases old with
        | value data => cases hvalue
        | table found inner =>
            dsimp only at hvalue
            split at hvalue
            · cases hvalue
            · obtain ⟨inner', hinner, rfl⟩ := Option.map_eq_some_iff.mp hvalue
              exact (ih (tidy_of_table hold) hinner).table found
        | tables earlier last =>
            obtain ⟨last', hlast, rfl⟩ := Option.map_eq_some_iff.mp hvalue
            cases hold with
            | tables hearlier hdistinct hfine =>
                have hlast' := ih ⟨hdistinct, hfine⟩ hlast
                exact .tables hearlier hlast'.distinct hlast'.fine

theorem Tidy.add {key : String} {data : Data} (hdata : data.Tidy) (h : entries.Tidy)
    (hadd : entries.add? key data = some others) : others.Tidy := by
  refine h.update (fun hvalue => ?_) (fun _ hvalue => by simp at hvalue) hadd
  obtain rfl := Option.some.inj hvalue
  exact .value hdata

theorem Tidy.assign {path : List String} {data : Data} (hdata : data.Tidy) (h : entries.Tidy)
    (hassign : entries.assign? path data = some others) : others.Tidy := by
  unfold assign? at hassign
  split at hassign
  · cases hassign
  · refine h.within (fun {origin inner inner'} hinner hadd => ?_) hassign
    split at hadd
    · cases hadd
    · exact hinner.add hdata hadd

theorem Tidy.openTable {key : String} (h : entries.Tidy)
    (hopen : openTable? key entries = some others) : others.Tidy := by
  unfold openTable? at hopen
  split at hopen
  · next hlookup =>
      cases hopen
      refine h.concat (fun hkey => ?_) (.table List.nodup_nil fun _ hentry => by cases hentry)
      obtain ⟨entry, hentry, rfl⟩ := List.mem_map.mp hkey
      have hne := List.lookup_eq_none_iff.mp hlookup entry hentry
      simp at hne
  · next inner hlookup =>
      cases hopen
      have hmem : (key, Node.table .implied inner) ∈ entries := by
        obtain ⟨first, last, rfl, -⟩ := List.lookup_eq_some_iff.mp hlookup
        simp
      refine (h.sublist List.filter_sublist).concat (by simp) ?_
      exact (tidy_of_table (h.fine _ hmem)).table .header
  · cases hopen

theorem Tidy.openNext {key : String} (h : entries.Tidy)
    (hopen : openNext? key entries = some others) : others.Tidy := by
  refine h.update (fun hvalue => ?_) (fun {old value} hold hvalue => ?_) hopen
  · cases hvalue
    exact .tables (by simp) List.nodup_nil (by simp)
  · cases hold with
    | value | table => cases hvalue
    | tables hearlier hdistinct hfine =>
        cases hvalue
        refine .tables ?_ List.nodup_nil (by simp)
        simp only [List.forall_mem_append, List.forall_mem_singleton]
        exact ⟨hearlier, Tidy.toData ⟨hdistinct, hfine⟩⟩

theorem Tidy.openAt {opening : String → Entries → Option Entries}
    (hopening : ∀ {key inner inner'}, Entries.Tidy inner → opening key inner = some inner' →
      Entries.Tidy inner')
    {path : List String} (h : entries.Tidy) (hopen : openAt? opening path entries = some others) :
    others.Tidy := by
  unfold openAt? at hopen
  split at hopen
  · cases hopen
  · exact h.within (fun hinner => hopening hinner) hopen

end Entries

/-! ## Documents -/

namespace Document

variable {document document' : Document} {path : List String}

theorem tidy_assign (h : document.entries.Tidy) {data : Data} (hdata : data.Tidy)
    (hassign : document.assign? path data = some document') : document'.entries.Tidy := by
  obtain ⟨entries, hentries, hassign⟩ := Option.bind_eq_some_iff.mp hassign
  cases hassign
  exact h.within (fun hinner hadd => hinner.assign hdata hadd) hentries

theorem tidy_openTable (h : document.entries.Tidy)
    (hopen : document.openTable? path = some document') : document'.entries.Tidy := by
  obtain ⟨entries, hentries, hopen⟩ := Option.bind_eq_some_iff.mp hopen
  cases hopen
  exact h.openAt Entries.Tidy.openTable hentries

theorem tidy_openNext (h : document.entries.Tidy)
    (hopen : document.openNext? path = some document') : document'.entries.Tidy := by
  obtain ⟨entries, hentries, hopen⟩ := Option.bind_eq_some_iff.mp hopen
  cases hopen
  exact h.openAt Entries.Tidy.openNext hentries

end Document

theorem tidy_of_statement? {document document' : Document} (h : document.entries.Tidy)
    {input rest : Input} (hstatement : statement? document input = some (document', rest)) :
    document'.entries.Tidy := by
  unfold statement? at hstatement
  split at hstatement
  · obtain ⟨⟨path, behind⟩, -, hstatement⟩ := Option.bind_eq_some_iff.mp hstatement
    obtain ⟨behind', -, hstatement⟩ := Option.bind_eq_some_iff.mp hstatement
    obtain ⟨behind'', -, hstatement⟩ := Option.bind_eq_some_iff.mp hstatement
    obtain ⟨opened, hopened, hstatement⟩ := Option.bind_eq_some_iff.mp hstatement
    cases hstatement
    exact Document.tidy_openNext h hopened
  · obtain ⟨⟨path, behind⟩, -, hstatement⟩ := Option.bind_eq_some_iff.mp hstatement
    obtain ⟨opened, hopened, hstatement⟩ := Option.bind_eq_some_iff.mp hstatement
    obtain ⟨behind', -, hstatement⟩ := Option.bind_eq_some_iff.mp hstatement
    cases hstatement
    exact Document.tidy_openTable h hopened
  · obtain ⟨⟨⟨path, data⟩, behind⟩, hpair, hstatement⟩ := Option.bind_eq_some_iff.mp hstatement
    obtain ⟨assigned, hassigned, hstatement⟩ := Option.bind_eq_some_iff.mp hstatement
    cases hstatement
    exact Document.tidy_assign h (tidy_of_pair? (neat_value? depthLimit) hpair) hassigned

theorem tidy_of_lines? {fuel : Nat} {document document' : Document} (h : document.entries.Tidy)
    {input : Input} (hlines : lines? fuel document input = some document') :
    document'.entries.Tidy := by
  induction fuel generalizing document input with
  | zero => cases hlines
  | succ fuel ih =>
      rw [lines?] at hlines
      split at hlines
      · cases hlines
        exact h
      · exact ih h hlines
      · obtain ⟨⟨later, behind⟩, hstatement, hlines⟩ := Option.bind_eq_some_iff.mp hlines
        obtain ⟨behind', -, hlines⟩ := Option.bind_eq_some_iff.mp hlines
        exact ih (tidy_of_statement? h hstatement) hlines

/-- No table of a document has a key twice. -/
theorem tidy_of_read? {text : String} {data : Data} (h : read? text = some data) : data.Tidy := by
  obtain ⟨document, hlines, rfl⟩ := Option.map_eq_some_iff.mp h
  exact (tidy_of_lines? .nil hlines).toData

end Toml
end Overhead
