import Overhead.Canvas
import Overhead.Paint.Shape

/-!
# Icons

Icons come from textures, or are put together from plain shapes where there is no texture.
-/

namespace Overhead

structure Texture where
  id : Nat
  path : String
  uv : Area Float32
deriving DecidableEq

/-- The textures that icons have. -/
abbrev SpriteTable := Sprite → Option Texture

namespace SpriteTable

def empty : SpriteTable :=
  fun _ => none

/-- Removes slashes from the end of a path. -/
def trimSlashes (path : String) : String :=
  String.ofList (path.toList.reverse.dropWhile (· == '/')).reverse

/-- The textures in a directory, numbered in the order of the sprites. -/
def ofDirectory (directory : String) : SpriteTable := fun sprite =>
  some
    { id := Sprite.all.idxOf sprite
      path := trimSlashes directory ++ "/" ++ sprite.name ++ ".png"
      uv := ⟨0, 0, 1, 1⟩ }

def load : Option String → SpriteTable
  | some directory => ofDirectory directory
  | none => empty

end SpriteTable

namespace Icon

def plain (sprite : Sprite) (center size : Point) (rotation : Float32) (color : Pixel) :
    List Shape :=
  let radius := Single.smaller size.x size.y / 2
  match sprite with
  | .arrow =>
      let corner (p : Point) : Point := center + p.turn rotation
      [ .polygon
          [ corner ⟨radius, 0⟩,
            corner ⟨-radius * 0.6, -radius * 0.8⟩,
            corner ⟨-radius * 0.6, radius * 0.8⟩ ]
          color ]
  | .friendHeart =>
      let lobe := radius * 0.5
      [ .disc (center + ⟨-lobe, -lobe * 0.6⟩) lobe color,
        .disc (center + ⟨lobe, -lobe * 0.6⟩) lobe color,
        .polygon
          [ center + ⟨-radius, -lobe * 0.3⟩,
            center + ⟨radius, -lobe * 0.3⟩,
            center + ⟨0, radius⟩ ]
          color ]
  | .hookIcon => [.ring center (radius * 0.7) (radius * 0.25) color]
  | .hookStrong => [.disc center (radius * 0.8) color]
  | .hookWeak => [.ring center (radius * 0.7) (radius * 0.12) color]

/-- An icon with a texture: a rectangle of two triangles. -/
def textured (texture : Texture) (center size : Point) (rotation : Float32) (color : Pixel) :
    Shape :=
  let low := center - size.scale 0.5
  let high := center + size.scale 0.5
  let turned (p : Point) : Point :=
    if rotation == 0 then p else center + (p - center).turn rotation
  let corner (x y u v : Float32) : Vertex :=
    { position := turned ⟨x, y⟩, uv := ⟨u, v⟩, color := color }
  let uv := texture.uv
  .mesh texture.id [0, 1, 2, 2, 1, 3]
    [ corner low.x low.y uv.left uv.top,
      corner high.x low.y uv.right uv.top,
      corner low.x high.y uv.left uv.bottom,
      corner high.x high.y uv.right uv.bottom ]

def shapes (sprites : SpriteTable) (sprite : Sprite) (center size : Point) (rotation : Float32)
    (color : Pixel) : List Shape :=
  match sprites sprite with
  | some texture => [textured texture center size rotation color]
  | none => plain sprite center size rotation color

end Icon
end Overhead
