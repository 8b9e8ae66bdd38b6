import Overhead.Proofs.Data.Order
import Overhead.Settings.Basic

/-!
# The columns of the settings

Every setting with its key, its form and its default. The tables are complete: together they describe
the records, so each setting is read from its own key and written back to it.
-/

namespace Overhead

/-! ## Values that are read back -/

namespace Codec

/-- What the codec writes it reads back. -/
def Exact {α : Type} (codec : Codec α) : Prop :=
  ∀ value, codec.decode (codec.encode value) = .ok value

theorem exact_bool : bool.Exact := fun _ => rfl

theorem exact_text : text.Exact := fun _ => rfl

theorem decode_encode_natural {bound value : Nat} (h : value < bound) (name : String) :
    (natural bound name).decode ((natural bound name).encode value) = .ok value := by
  have hrange : (0 : Int) ≤ value ∧ (value : Int) < bound := by omega
  exact if_pos hrange

theorem decode_encode_map {α β : Type} {codec : Codec α} {forth : α → β} {back : β → α} {value : β}
    (h : codec.decode (codec.encode (back value)) = .ok (back value))
    (hback : forth (back value) = value) :
    (codec.map forth back).decode ((codec.map forth back).encode value) = .ok value := by
  show (codec.decode (codec.encode (back value))).map forth = .ok value
  rw [h]
  exact congrArg Except.ok hback

theorem exact_word : word.Exact := fun value =>
  decode_encode_map (decode_encode_natural value.toNat_lt "u32") UInt32.ofNat_toNat

end Codec

theorem ShowDirection.exact_codec : ShowDirection.codec.Exact := by
  intro mode
  cases mode <;> rfl

theorem HookMode.exact_codec : HookMode.codec.Exact := by
  intro mode
  cases mode <;> rfl

theorem RainbowMode.exact_codec : RainbowMode.codec.Exact := by
  intro mode
  cases mode <;> rfl

/-! ## Plates -/

namespace PlateSettings

def columns : List (Column PlateSettings) :=
  [ ⟨.bool, "show", (·.show), fun v r => { r with «show» := v }, true⟩,
    ⟨.bool, "show_own", (·.showOwn), fun v r => { r with showOwn := v }, false⟩,
    ⟨.word, "size", (·.size), fun v r => { r with size := v }, 50⟩,
    ⟨.bool, "show_clan", (·.showClan), fun v r => { r with showClan := v }, false⟩,
    ⟨.word, "clan_size", (·.clanSize), fun v r => { r with clanSize := v }, 30⟩,
    ⟨.bool, "show_ids", (·.showIds), fun v r => { r with showIds := v }, false⟩,
    ⟨.bool, "ids_new_line", (·.idsNewLine), fun v r => { r with idsNewLine := v }, false⟩,
    ⟨.word, "ids_size", (·.idsSize), fun v r => { r with idsSize := v }, 50⟩,
    ⟨.bool, "team_colors", (·.teamColors), fun v r => { r with teamColors := v }, true⟩,
    ⟨.bool, "friend_mark", (·.friendMark), fun v r => { r with friendMark := v }, false⟩,
    ⟨HookMode.codec, "hook_strong_weak", (·.hook), fun v r => { r with hook := v }, .off⟩,
    ⟨.word, "hook_strong_weak_size", (·.hookSize), fun v r => { r with hookSize := v }, 30⟩,
    ⟨.bool, "always_show", (·.alwaysShow), fun v r => { r with alwaysShow := v }, true⟩,
    ⟨.word, "show_others_alpha", (·.othersAlpha), fun v r => { r with othersAlpha := v }, 40⟩,
    ⟨ShowDirection.codec, "show_direction", (·.direction), fun v r => { r with direction := v },
      .others⟩,
    ⟨.word, "direction_size", (·.directionSize), fun v r => { r with directionSize := v }, 50⟩,
    ⟨.bool, "show_spec_char_name_plates", (·.showSpectatorBodies),
      fun v r => { r with showSpectatorBodies := v }, true⟩,
    ⟨.bool, "debug", (·.debug), fun v r => { r with debug := v }, false⟩ ]

theorem describes : Describes columns schema where
  fields := rfl
  distinct := by decide
  get_set := by simp [columns]
  get_set_other := by simp [columns]
  get_default := by simp [columns, schema]
  ext := by
    intro record record' h
    cases record
    cases record'
    simpa [columns] using h

theorem steady_columns : ∀ column ∈ columns, column.codec.Steady := by
  simp [columns, Codec.steady_bool, Codec.steady_word, HookMode.codec, ShowDirection.codec,
    Codec.steady_choice]

theorem decode_encode (settings : PlateSettings) :
    schema.decode (schema.encode settings) = .ok settings := by
  refine describes.decode_encode ?_
  simp only [columns, List.forall_mem_cons, Codec.exact_bool _, Codec.exact_word _,
    HookMode.exact_codec _, ShowDirection.exact_codec _]
  simp

end PlateSettings

/-! ## Names outside of a game -/

namespace Profile

def columns : List (Column Profile) :=
  [ ⟨.text, "player_name", (·.playerName), fun v r => { r with playerName := v }, ""⟩,
    ⟨.text, "player_clan", (·.playerClan), fun v r => { r with playerClan := v }, ""⟩,
    ⟨.text, "dummy_name", (·.dummyName), fun v r => { r with dummyName := v }, ""⟩,
    ⟨.text, "dummy_clan", (·.dummyClan), fun v r => { r with dummyClan := v }, ""⟩,
    ⟨.size, "active_dummy", (·.activeDummy), fun v r => { r with activeDummy := v }, 0⟩ ]

theorem describes : Describes columns schema where
  fields := rfl
  distinct := by decide
  get_set := by simp [columns]
  get_set_other := by simp [columns]
  get_default := by simp [columns, schema]
  ext := by
    intro record record' h
    cases record
    cases record'
    simpa [columns] using h

theorem steady_columns : ∀ column ∈ columns, column.codec.Steady := by
  simp [columns, Codec.steady_text, Codec.size, Codec.steady_natural]

theorem decode_encode {profile : Profile} (h : profile.activeDummy < Nat.pow 2 64) :
    schema.decode (schema.encode profile) = .ok profile := by
  have hdummy : Codec.size.decode (Codec.size.encode profile.activeDummy) =
      .ok profile.activeDummy := Codec.decode_encode_natural h "usize"
  refine describes.decode_encode ?_
  simp only [columns, List.forall_mem_cons, Codec.exact_text _, hdummy]
  simp

end Profile

/-! ## The color effect -/

namespace RainbowSettings

def columns : List (Column RainbowSettings) :=
  [ ⟨RainbowMode.codec, "mode", (·.mode), fun v r => { r with mode := v }, .off⟩,
    ⟨.word, "speed", (·.speed), fun v r => { r with speed := v }, 100⟩,
    ⟨.bool, "local", (·.self), fun v r => { r with self := v }, false⟩,
    ⟨.bool, "others", (·.others), fun v r => { r with others := v }, false⟩ ]

theorem describes : Describes columns schema where
  fields := rfl
  distinct := by decide
  get_set := by simp [columns]
  get_set_other := by simp [columns]
  get_default := by simp [columns, schema]
  ext := by
    intro record record' h
    cases record
    cases record'
    simpa [columns] using h

theorem steady_columns : ∀ column ∈ columns, column.codec.Steady := by
  simp [columns, Codec.steady_bool, Codec.steady_word, RainbowMode.codec, Codec.steady_choice]

theorem decode_encode (settings : RainbowSettings) :
    schema.decode (schema.encode settings) = .ok settings := by
  refine describes.decode_encode ?_
  simp only [columns, List.forall_mem_cons, Codec.exact_bool _, Codec.exact_word _,
    RainbowMode.exact_codec _]
  simp

end RainbowSettings

/-! ## The simulated game -/

namespace DemoConfig

def columns : List (Column DemoConfig) :=
  [ ⟨.size, "players", (·.players), fun v r => { r with players := v }, 12⟩,
    ⟨Codec.longWord.optional, "seed", (·.seed), fun v r => { r with seed := v }, none⟩,
    ⟨.bool, "demo_playback", (·.playback), fun v r => { r with playback := v }, false⟩ ]

theorem describes : Describes columns schema where
  fields := rfl
  distinct := by decide
  get_set := by simp [columns]
  get_set_other := by simp [columns]
  get_default := by simp [columns, schema]
  ext := by
    intro record record' h
    cases record
    cases record'
    simpa [columns] using h

theorem steady_columns : ∀ column ∈ columns, column.codec.Steady := by
  simp [columns, Codec.steady_bool, Codec.size, Codec.longWord, Codec.steady_natural,
    Codec.Steady.optional]

end DemoConfig
end Overhead
