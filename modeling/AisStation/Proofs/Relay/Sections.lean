import AisStation.Proofs.Alphabet
import AisStation.Relay.Setup

/-!
# The sections of a station

A station is described by an object with the sections `system`, `codec` and `relay`, each of which
may be absent. Its relay is meant to have the settings of the relay section and the gateway of the
codec section. The setup takes an object without a relay section for the relay section itself, so
if a station has none, its codec section is not read: the relay has a gateway with all defaults,
which is the gateway of the station only if the codec section describes the defaults as well.
-/

namespace AisStation

open Config

/-! ## Results -/

/-- A traversal keeps what each of its steps keeps. -/
theorem map_of_mapM {ε α β : Type} {f : α → Except ε α} {name : α → β} {xs ys : List α}
    (hstep : ∀ x y, f x = .ok y → name y = name x) (h : xs.mapM f = .ok ys) :
    ys.map name = xs.map name := by
  induction xs generalizing ys with
  | nil =>
    obtain rfl := Except.ok.inj h
    rfl
  | cons x xs ih =>
    rw [List.mapM_cons] at h
    obtain ⟨y, hy, h⟩ := bind_eq_ok_iff.mp h
    obtain ⟨rest, hrest, h⟩ := bind_eq_ok_iff.mp h
    obtain rfl := Except.ok.inj h
    rw [List.map_cons, List.map_cons, hstep x y hy, ih hrest]

/-! ## Sections -/

/-- The names of the sections of a station. -/
def stationSections : List String := ["system", "codec", RelayConfig.sectionName]

/-- Does the object hold nothing but sections of a station? -/
def IsStation (members : List (String × Json)) : Prop :=
  ∀ m ∈ members, m.1 ∈ stationSections

instance (members : List (String × Json)) : Decidable (IsStation members) :=
  inferInstanceAs (Decidable (∀ m ∈ members, m.1 ∈ stationSections))

/-- The section of a name; one that is absent holds nothing. -/
def memberSection (members : List (String × Json)) (name : String) : Json :=
  (members.lookup name).getD .null

namespace Relay

/-- The relay with the given settings and gateway, unless the settings disable it. -/
def ofParts {ε : Type} (config : Except ε RelayConfig) (gateway : Except ε Gateway) :
    Except ε (Option Relay) := do
  let config ← config
  if config.enabled then
    let gateway ← gateway
    return some { config, gateway }
  else
    return none

/-- The relay that the relay section and the codec section of a station describe. -/
def ofSections (members : List (String × Json)) : Except ComponentError (Option Relay) :=
  ofParts (RelayConfig.ofConfig (memberSection members RelayConfig.sectionName))
    ((Gateway.ofConfig (memberSection members "codec")).mapError .shape)

/-- The relay that the relay section and the codec section in a tree describe. -/
def ofSectionsIn (tree : Json) (relay? codec? : Option Found) :
    Except SetupError (Option Relay) :=
  ofParts (RelayConfig.ofTree tree relay?) (Gateway.ofTree tree codec?)

/-- With the settings at their defaults the relay is the default one only if its gateway is. -/
theorem ofParts_default_iff {ε : Type} {gateway : Except ε Gateway} :
    ofParts (.ok {}) gateway = .ok (some {}) ↔ gateway = .ok {} := by
  cases gateway with
  | error why => exact iff_of_false (fun h => nomatch h) (fun h => nomatch h)
  | ok g =>
    constructor
    · intro h
      have hrelay : ({ gateway := g } : Relay) = {} := Option.some.inj (Except.ok.inj h)
      rw [(Relay.mk.inj hrelay).2.1]
    · intro h
      rw [Except.ok.inj h]
      rfl

end Relay

/-! ## Stations without a relay section -/

/-- Settings of a relay that are not in the section have their defaults. -/
theorem RelayConfig.ofConfig_default {members : List (String × Json)}
    (h : ∀ name ∈ ["enabled", "host", "port", "max_clients", "max_line_bytes"],
      members.lookup name = none) :
    RelayConfig.ofConfig (.object members) = .ok {} := by
  simp only [List.forall_mem_cons] at h
  obtain ⟨henabled, hhost, hport, hclients, hline, -⟩ := h
  simp only [RelayConfig.ofConfig, Section.ofJson, Except.mapError, ComponentError.integer,
    Section.integer, Section.flag, Section.text, bind, Except.bind, henabled, hhost, hport,
    hclients, hline]
  rfl

/-- No section of a station has the name of a setting of a relay. -/
theorem RelayConfig.ofConfig_station {members : List (String × Json)} (h : IsStation members) :
    RelayConfig.ofConfig (.object members) = .ok {} := by
  apply RelayConfig.ofConfig_default
  intro name hname
  have hother : name ∉ stationSections := by
    revert name
    decide
  rw [List.lookup_eq_none_iff]
  intro m hm
  rw [bne_iff_ne]
  rintro rfl
  exact hother (h m hm)

/-- Resolving the references in an object keeps the names of its members. -/
theorem Config.Tree.resolveFound_object {tree value : Json} {station : Found}
    {members : List (String × Json)} (hstation : station.value tree = .object members)
    (h : resolveFound tree station = .ok value) :
    ∃ members', value = .object members' ∧ members'.map (·.1) = members.map (·.1) := by
  cases station with
  | made content =>
    have hcontent : content = .object members := hstation
    rw [resolveFound, depthBound, contents] at h
    exact ⟨members, by rw [← Except.ok.inj h, hcontent], rfl⟩
  | inTree place =>
    have hplace : at? place tree = some (.object members) := by
      rw [Found.value] at hstation
      cases hat : at? place tree with
      | none => simp [hat] at hstation
      | some content => rw [← hstation, hat, Option.getD_some]
    rw [resolveFound, depthBound, contents] at h
    simp only [List.contains_nil, Bool.false_eq_true, if_false, hplace] at h
    obtain ⟨members', hmembers, h⟩ := bind_eq_ok_iff.mp h
    refine ⟨members', (Except.ok.inj h).symm, map_of_mapM ?_ hmembers⟩
    intro m m' hm
    obtain ⟨content, -, hm⟩ := bind_eq_ok_iff.mp hm
    rw [← Except.ok.inj hm]

theorem IsStation.of_names {members members' : List (String × Json)} (h : IsStation members)
    (hnames : members'.map (·.1) = members.map (·.1)) : IsStation members' := by
  intro m hm
  have hname : m.1 ∈ members.map (·.1) := hnames ▸ List.mem_map_of_mem hm
  obtain ⟨m', hm', heq⟩ := List.mem_map.mp hname
  exact heq ▸ h m' hm'

/-- Resolved settings of a station taken for those of its relay are the defaults. -/
theorem RelayConfig.ofTree_station {tree : Json} {station : Found}
    {members : List (String × Json)} (hstation : station.value tree = .object members)
    (h : IsStation members) :
    RelayConfig.ofTree tree (some station) =
      ((Tree.resolveFound tree station).mapError .unresolved).map fun _ => {} := by
  rw [RelayConfig.ofTree, sectionOf]
  cases hresolved : Tree.resolveFound tree station with
  | error why => rfl
  | ok value =>
    obtain ⟨members', rfl, hnames⟩ := Tree.resolveFound_object hstation hresolved
    have hconfig := RelayConfig.ofConfig_station (h.of_names hnames)
    simp only [Except.mapError, bind, Except.bind, hconfig]
    rfl

/-! ## Relays of a station -/

namespace Relay

variable {members : List (String × Json)}

theorem ofConfig?_of_relay (h : (members.lookup RelayConfig.sectionName).isSome) :
    ofConfig? (.object members) = ofSections members := by
  obtain ⟨relay, hrelay⟩ := Option.isSome_iff_exists.mp h
  rw [ofConfig?, ofSections, RelayConfig.sections, memberSection, memberSection, hrelay]
  rfl

theorem ofConfig?_of_no_relay (h : IsStation members)
    (hnone : members.lookup RelayConfig.sectionName = none) :
    ofConfig? (.object members) = .ok (some {}) := by
  rw [ofConfig?, RelayConfig.sections, hnone]
  simp only [bind, Except.bind, RelayConfig.ofConfig_station h]
  rfl

section Tree

variable {tree : Json} {station : Found} {relay? codec? : Option Found}

theorem ofTree?_of_relay {relay : Found}
    (hrelay : Tree.given? tree station RelayConfig.sectionName = .ok (some relay))
    (hcodec : Tree.given? tree station "codec" = .ok codec?) :
    ofTree? tree station = ofSectionsIn tree (some relay) codec? := by
  rw [ofTree?, hrelay, hcodec]
  rfl

theorem ofTree?_of_no_relay (h : IsStation members) (hstation : station.value tree = .object members)
    (hrelay : Tree.given? tree station RelayConfig.sectionName = .ok none) :
    ofTree? tree station =
      ((Tree.resolveFound tree station).mapError .unresolved).map fun _ => some {} := by
  have hconfig := RelayConfig.ofTree_station hstation h
  rw [ofTree?, hrelay]
  simp only [Except.mapError, bind, Except.bind, Option.isSome_none, Bool.false_eq_true, if_false,
    pure, Except.pure, Option.getD_none, hconfig]
  cases Tree.resolveFound tree station with
  | error why => rfl
  | ok value => rfl

end Tree

/-- A station with a relay section has the relay of its two sections. One without has the default
relay, whatever its codec section says, as long as the references in it have values; that is the
relay of its two sections only if the codec section describes the defaults. This holds of a station
in plain objects and of one in a tree. -/
theorem of_station (h : IsStation members) :
    (((members.lookup RelayConfig.sectionName).isSome →
        ofConfig? (.object members) = ofSections members) ∧
      (members.lookup RelayConfig.sectionName = none →
        ofConfig? (.object members) = .ok (some {}) ∧
          (ofSections members = .ok (some {}) ↔
            Gateway.ofConfig (memberSection members "codec") = .ok {}))) ∧
    ∀ (tree : Json) (station : Found) (relay? codec? : Option Found),
      station.value tree = .object members →
      Tree.given? tree station RelayConfig.sectionName = .ok relay? →
      Tree.given? tree station "codec" = .ok codec? →
        (relay?.isSome → ofTree? tree station = ofSectionsIn tree relay? codec?) ∧
        (relay? = none →
          ofTree? tree station =
              ((Tree.resolveFound tree station).mapError .unresolved).map (fun _ => some {}) ∧
            (ofSectionsIn tree relay? codec? = .ok (some {}) ↔
              Gateway.ofTree tree codec? = .ok {})) := by
  constructor
  · refine ⟨ofConfig?_of_relay, fun hnone => ⟨ofConfig?_of_no_relay h hnone, ?_⟩⟩
    have hconfig : RelayConfig.ofConfig (memberSection members RelayConfig.sectionName) =
        .ok {} := by
      rw [memberSection, hnone]
      rfl
    rw [ofSections, hconfig, ofParts_default_iff, mapError_eq_ok_iff]
  · intro tree station relay? codec? hstation hrelay hcodec
    constructor
    · intro hsome
      obtain ⟨relay, rfl⟩ := Option.isSome_iff_exists.mp hsome
      exact ofTree?_of_relay hrelay hcodec
    · rintro rfl
      exact ⟨ofTree?_of_no_relay h hstation hrelay, ofParts_default_iff⟩

/-- A station with both sections has the relay of both. -/
theorem of_station_both :
    let members := [("codec", Json.object [("talker", .text "BS")]),
      ("relay", Json.object [("port", .int 9000)])]
    let tree := Json.object [("aislink", .object members)]
    let relay : Relay := { config := { port := 9000 }, gateway := { config := { talker := "BS" } } }
    ofConfig? (.object members) = .ok (some relay) ∧
      ofTree? tree (.inTree [.member "aislink"]) = .ok (some relay) := by
  intro members tree relay
  have hnames : IsStation members := by decide
  obtain ⟨⟨hplain, -⟩, htree⟩ := of_station hnames
  exact ⟨hplain rfl, (htree tree (.inTree [.member "aislink"]) _ _ rfl rfl rfl).1 rfl⟩

/-- Without a relay section a station that turns the checks of its gateway off has a relay that
checks. -/
theorem codec_section_ignored :
    let codec := Json.object [("validate_inbound", .bool false)]
    let tree := Json.object [("aislink", .object [("codec", codec)])]
    let unchecked : Gateway := { config := { validateInbound := false } }
    Gateway.ofConfig codec = .ok unchecked ∧
      ofSections [("codec", codec)] = .ok (some { gateway := unchecked }) ∧
      ofConfig? (.object [("codec", codec)]) = .ok (some {}) ∧
      ofTree? tree (.inTree [.member "aislink"]) = .ok (some {}) ∧
      ofConfig? (.object [("codec", codec)]) ≠ ofSections [("codec", codec)] := by
  intro codec tree unchecked
  refine ⟨rfl, rfl, rfl, rfl, ?_⟩
  intro h
  have hrelay : ({} : Relay) = { gateway := unchecked } := Option.some.inj (Except.ok.inj h)
  exact absurd hrelay (by decide)

end Relay

end AisStation
