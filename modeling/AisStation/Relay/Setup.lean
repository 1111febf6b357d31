import AisStation.Config.Resolution
import AisStation.Relay.Basic

/-!
Components from a tree of configuration.

The sections of a component may be texts that stand for them, and their settings may hold
references; a component takes its settings with all references resolved. A section that is still to
be given counts as absent.
-/

namespace AisStation

open Config

/-- Why a part of a tree describes no component. -/
inductive SetupError
  /-- A reference has no value. -/
  | unresolved (why : ResolutionError)
  | component (why : ComponentError)
deriving DecidableEq, Repr

/-- A section with all references in it resolved; one that is absent holds nothing. -/
def sectionOf (tree : Json) (found? : Option Found) : Except SetupError Json :=
  match found? with
  | some found => (Tree.resolveFound tree found).mapError .unresolved
  | none => .ok .null

/-- The gateway that a section of a tree describes. -/
def Gateway.ofTree (tree : Json) (codec? : Option Found) : Except SetupError Gateway := do
  let value ← sectionOf tree codec?
  (Gateway.ofConfig value).mapError (.component ∘ .shape)

/-- The settings of a relay in a section of a tree. -/
def RelayConfig.ofTree (tree : Json) (relay? : Option Found) : Except SetupError RelayConfig := do
  let value ← sectionOf tree relay?
  (RelayConfig.ofConfig value).mapError .component

/-- The relay that the sections in an object of a tree describe, unless they disable it. An object
without a relay section is the relay section itself. -/
def Relay.ofTree? (tree : Json) (station : Found) : Except SetupError (Option Relay) := do
  let relay? ← (Tree.given? tree station RelayConfig.sectionName).mapError .unresolved
  let codec? ←
    if relay?.isSome then (Tree.given? tree station "codec").mapError .unresolved else pure none
  let config ← RelayConfig.ofTree tree (some (relay?.getD station))
  if config.enabled then
    let gateway ← Gateway.ofTree tree codec?
    return some { config, gateway }
  else
    return none

end AisStation
