import Overhead.Canvas

/-!
# The text store

Shaped texts are kept in slots, and a slot that was given back is used again before a new one is
made, so a long session needs no more slots than it ever had texts at once.
-/

namespace Overhead

/-- A text with the extent it was laid out in. -/
structure ShapedText where
  text : String
  fontSize : Float32
  /-- The extent in points of the window. -/
  extent : Point
  /-- Points for a unit of the world when the text was laid out. -/
  scale : Float32
deriving DecidableEq

structure TextStore where
  slots : Array (Option ShapedText) := #[]
  /-- Slots that were given back, the last one first. -/
  free : List Nat := []
deriving DecidableEq

namespace TextStore

def find (handle : TextHandle) (store : TextStore) : Option ShapedText :=
  handle.bind fun index => (store.slots[index]?).bind id

def live (store : TextStore) : Nat :=
  store.slots.countP (·.isSome)

/-- Keeps a text in a slot of its own. -/
def add (text : ShapedText) (store : TextStore) : TextHandle × TextStore :=
  match store.free with
  | index :: rest =>
      (some index, { slots := store.slots.setIfInBounds index (some text), free := rest })
  | [] => (some store.slots.size, { store with slots := store.slots.push (some text) })

/-- Keeps a text in the slot of a handle, or in a slot of its own if that is no slot. -/
def keep (handle : TextHandle) (text : ShapedText) (store : TextStore) : TextHandle × TextStore :=
  match handle with
  | some index =>
      if index < store.slots.size then
        (handle, { store with slots := store.slots.setIfInBounds index (some text) })
      else store.add text
  | none => store.add text

/-- Gives a text back. A slot without a text stays as it is. -/
def release (handle : TextHandle) (store : TextStore) : TextStore :=
  match handle with
  | none => store
  | some index =>
      match store.find handle with
      | some _ =>
          { slots := store.slots.setIfInBounds index none, free := index :: store.free }
      | none => store

end TextStore
end Overhead
