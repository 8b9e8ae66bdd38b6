/-!
# The window of the settings menu

A key opens and closes the window. One that was seen before fades away for some frames after it is
closed, and one that is opened is there at once. What it holds is first seen in its second frame,
because the first one is needed to find its size.
-/

namespace Overhead

structure MenuWindow where
  isOpen : Bool := true
  /-- Whether the window was open in an earlier frame. -/
  wasShown : Bool := false
  /-- For how many frames the closed window is still seen, this one included. -/
  fading : Nat := 0
deriving DecidableEq

namespace MenuWindow

/-- How many frames the window takes to fade away. -/
def fadeFrames : Nat :=
  4

/-- The fading of a window that is closed in this frame. -/
def fadingAfter (window : MenuWindow) : Nat :=
  if !window.isOpen then window.fading - 1
  else if window.wasShown then fadeFrames
  else 0

def next (window : MenuWindow) (keyPressed : Bool) : MenuWindow :=
  let isOpen := window.isOpen != keyPressed
  { isOpen := isOpen
    wasShown := window.wasShown || isOpen
    fading := if isOpen then 0 else window.fadingAfter }

def isPainted (window : MenuWindow) : Bool :=
  window.isOpen || 0 < window.fading

end MenuWindow
end Overhead
