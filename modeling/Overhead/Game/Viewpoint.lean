import Overhead.Game.Basic

/-!
# The viewpoint

Through whose eyes the game is seen: hooks are compared with the hook of that player, and players it
does not meet are drawn fainter.
-/

namespace Overhead
namespace Game

/-- The player that the camera follows. Nobody is followed while several are in view. -/
def followedId (game : Game) : Option Nat :=
  if game.spectating.active && !game.multiView then game.spectating.id else none

def referenceId (game : Game) : Option Nat :=
  game.followedId.or game.localId

/-- The player that is spectated, in any view. -/
def watchedId (game : Game) : Option Nat :=
  if game.spectating.active then game.spectating.id else none

/-- Whether a player is on another team than the one that is watched. -/
def isOtherTeamOfWatched (game : Game) (watched id : Nat) : Except MissingSlot Bool := do
  let drawn := (← game.slot id).client
  if drawn.isSuper then return false
  else
    let seen := (← game.slot watched).client
    return !seen.isSuper && seen.team != drawn.team

/-- Whether the local player does not meet another one because one of the two plays solo. The other
one is only looked up if that decides it. -/
def partedBySolo (game : Game) (own : Client) (ownId id : Nat) : Except MissingSlot Bool := do
  if own.solo then return id != ownId
  else
    let other := (← game.slot id).client
    return other.solo && id != ownId

/-- Whether a player is on another team than the local player. -/
def isOtherTeamOfLocal (game : Game) (own : Client) (ownId id : Nat) :
    Except MissingSlot Bool := do
  if ← game.partedBySolo own ownId id then return true
  else
    let drawn := (← game.slot id).client
    return !drawn.isSuper && !own.isSuper && own.team != drawn.team

/-- Whether a player does not meet the one through whose eyes the game is seen. Somebody who
spectates freely sees no other team. -/
def isOtherTeam (game : Game) (id : Nat) : Except MissingSlot Bool :=
  match game.localId with
  | none => return false
  | some ownId => do
      let own := (← game.slot ownId).client
      if own.side = .spectators ∧ game.spectating.id = none then return false
      else
        match game.watchedId with
        | some watched => game.isOtherTeamOfWatched watched id
        | none => game.isOtherTeamOfLocal own ownId id

end Game
end Overhead
