import AisStation.Config.Component
import AisStation.Config.Schema
import AisStation.Proofs.Config.Numerals

/-!
# The validated configuration and the one that runs

The schema reads every setting and gives a validated configuration; the components read the same
settings again, in their own way. Texts and numbers mean the same to both. A switch given in words
does not: to a component every text that is not empty is true, so it turns on what a word for false
turns off. An integer given as a text may be one that only the schema reads. Apart from these, the
components run with what was validated.
-/

namespace AisStation

namespace Config

/-! ## Single settings -/

/-- Is the value a word for false? -/
def isDenial : Json → Bool
  | .text s => Reading.falseWords.contains (String.ofList (s.toList.map Char.toLower))
  | _ => false

/-- Is the value a text in which the components find no integer? -/
def isUnread : Json → Bool
  | .text s => (Text.integer? s).isNone
  | _ => false

variable {value : Json} {n : Int} {b : Bool}

/-- A number without a fraction has an integer part, which is zero only if the number is. -/
theorem truncate_of_dvd {negative : Bool} {significand : Nat} {exponent : Int}
    (h : 2 ^ (-exponent).toNat ∣ significand) :
    ∃ n, (Binary64.finite negative significand exponent).truncate = .ok n ∧
      ((Binary64.finite negative significand exponent).isZero = true ↔ n = 0) := by
  have hzero : significand * 2 ^ exponent.toNat / 2 ^ (-exponent).toNat = 0 ↔ significand = 0 := by
    obtain ⟨quotient, rfl⟩ := h
    have hpos (k : Nat) : 0 < 2 ^ k := Nat.two_pow_pos k
    rw [Nat.mul_assoc, Nat.mul_div_cancel_left _ (hpos _)]
    simp only [Nat.mul_eq_zero, (hpos _).ne', or_false, false_or]
  refine ⟨_, rfl, ?_⟩
  rw [Binary64.isZero, beq_iff_eq, ← hzero]
  cases negative
  · simp only [Bool.false_eq_true, if_false]
    omega
  · simp only [if_true]
    omega

theorem Reading.whole_eq_ok {x : Binary64} (h : whole x = .ok n) :
    x.truncate = .ok n ∧ (x.isZero = true ↔ n = 0) := by
  cases x with
  | nan => contradiction
  | infinite negative => contradiction
  | finite negative significand exponent =>
    rw [whole] at h
    split at h
    · cases h
    · rename_i hwhole
      obtain ⟨m, hm, hzero⟩ := truncate_of_dvd (Nat.dvd_of_mod_eq_zero (not_not.mp hwhole))
      rw [hm] at h
      simp only at h
      split at h
      · obtain rfl := Except.ok.inj h
        exact ⟨hm, hzero⟩
      · cases h

/-- A number that the schema takes for a flag is zero exactly if the flag is false. -/
theorem Reading.flagNumber_eq_ok (h : flagNumber n = .ok b) : (n != 0) = b := by
  rw [flagNumber] at h
  split at h
  · rename_i hn
    obtain rfl := Except.ok.inj h
    rw [hn]
    rfl
  · split at h
    · rename_i hn
      obtain rfl := Except.ok.inj h
      rw [hn]
      rfl
    · contradiction

theorem isTruthy_of_flag (h : Reading.flag value = .ok b) :
    value.isTruthy = (b || isDenial value) ∧ (isDenial value = true → b = false) := by
  cases value with
  | bool b' =>
    obtain rfl := Except.ok.inj h
    exact ⟨(Bool.or_false b').symm, fun hdenial => absurd hdenial Bool.false_ne_true⟩
  | int m =>
    rw [Reading.flag] at h
    split at h
    · refine ⟨?_, fun hdenial => absurd hdenial Bool.false_ne_true⟩
      exact (Reading.flagNumber_eq_ok h).trans (Bool.or_false b).symm
    · contradiction
  | real x =>
    rw [Reading.flag] at h
    split at h
    · rename_i n hn
      refine ⟨?_, fun hdenial => absurd hdenial Bool.false_ne_true⟩
      have hzero := (Reading.whole_eq_ok hn).2
      have htruthy : (!x.isZero) = b := by
        rw [← Reading.flagNumber_eq_ok h, Bool.eq_iff_iff, Bool.not_eq_true', bne_iff_ne,
          ← Bool.not_eq_true, hzero]
      exact htruthy.trans (Bool.or_false b).symm
    · contradiction
  | text s =>
    have hne : (!s.isEmpty) = true := by
      rw [Bool.not_eq_true', ← Bool.not_eq_true, String.isEmpty_iff]
      rintro rfl
      have hempty : Reading.flagWord "" = .error .boolParsing := by decide
      rw [Reading.flag, hempty] at h
      contradiction
    rw [Json.isTruthy, hne, isDenial]
    rw [Reading.flag, Reading.flagWord] at h
    split at h
    · rename_i hdenial
      obtain rfl := Except.ok.inj h
      exact ⟨hdenial.symm, fun _ => rfl⟩
    · rename_i hdenial
      split at h
      · obtain rfl := Except.ok.inj h
        exact ⟨rfl, fun h => absurd h hdenial⟩
      · contradiction
  | null => contradiction
  | list items => contradiction
  | object members => contradiction

theorem toInteger_of_integer (h : Reading.integer value = .ok n) :
    toInteger value = if isUnread value then .error .noNumeral else .ok n := by
  cases value with
  | bool b =>
    obtain rfl := Except.ok.inj h
    rfl
  | int m =>
    obtain rfl := Except.ok.inj h
    rfl
  | real x =>
    rw [toInteger, (Reading.whole_eq_ok h).1]
    rfl
  | text s =>
    rw [toInteger, isUnread]
    cases hs : Text.integer? s with
    | none => rfl
    | some k => rw [Reading.integer?_of_numeral h hs, Option.isNone_some, if_neg Bool.false_ne_true]
  | null => contradiction
  | list items => contradiction
  | object members => contradiction

/-! ## Settings of a section -/

/-- The setting of a name in a section, if there is one. -/
def settingOf? : Json → String → Option Json
  | .object members, name => members.lookup name
  | _, _ => none

/-- Is a switch of the section turned off in words? -/
def denies (raw : Json) (name : String) : Bool :=
  (settingOf? raw name).any isDenial

/-- Is an integer of the section one that the components do not find? -/
def leavesUnread (raw : Json) (name : String) : Bool :=
  (settingOf? raw name).any isUnread

namespace Checked

variable {α β : Type} {y : β}

theorem ofExcept_eq_valid {path : List String} {result : Except Fault β}
    (h : ofExcept path result = .valid y) : result = .ok y := by
  cases result with
  | ok a => rw [valid.inj h]
  | error fault => cases h

theorem map_eq_valid {f : α → β} {a : Checked α} (h : a.map f = .valid y) :
    ∃ x, a = .valid x ∧ f x = y := by
  cases a with
  | valid x => exact ⟨x, rfl, valid.inj h⟩
  | invalid violations => cases h

theorem ap_eq_valid {f : Checked (α → β)} {a : Checked α} (h : f.ap a = .valid y) :
    ∃ g x, f = .valid g ∧ a = .valid x ∧ g x = y := by
  cases f with
  | valid g =>
    cases a with
    | valid x => exact ⟨g, x, rfl, rfl, valid.inj h⟩
    | invalid violations => cases h
  | invalid violations => cases a <;> cases h

end Checked

section Settings

variable {path : List String} {members : List (String × Json)} {name : String}

theorem setting_eq_valid {α : Type} {default a : α} {read : Reading α}
    (h : Scope.setting ⟨path, members⟩ name default read = .valid a) :
    members.lookup name = none ∧ default = a ∨
      ∃ value, members.lookup name = some value ∧ read value = .ok a := by
  rw [Scope.setting] at h
  split at h
  · rename_i hnone
    exact .inl ⟨hnone, Checked.valid.inj h⟩
  · rename_i value hsome
    exact .inr ⟨value, hsome, Checked.ofExcept_eq_valid h⟩

/-- A switch is on if it was validated as such, or if it is turned off in words. -/
theorem flag_of_setting {default : Bool}
    (h : Scope.setting ⟨path, members⟩ name default Reading.flag = .valid b) :
    Section.flag members name default = (b || denies (.object members) name) ∧
      (denies (.object members) name = true → b = false) := by
  rw [Section.flag, denies, settingOf?]
  rcases setting_eq_valid h with ⟨hnone, rfl⟩ | ⟨value, hsome, hread⟩
  · rw [hnone]
    exact ⟨(Bool.or_false default).symm, fun hdenial => absurd hdenial Bool.false_ne_true⟩
  · rw [hsome]
    exact isTruthy_of_flag hread

theorem text_of_setting {default s : String} {read : Reading String}
    (hread : ∀ value, read value = .ok s → value = .text s)
    (h : Scope.setting ⟨path, members⟩ name default read = .valid s) :
    Section.text members name default = s := by
  rw [Section.text]
  rcases setting_eq_valid h with ⟨hnone, rfl⟩ | ⟨value, hsome, hvalue⟩
  · rw [hnone]
  · rw [hsome, hread value hvalue]
    rfl

theorem integer_of_setting {default : Int} {read : Reading Int}
    (hread : ∀ value, read value = .ok n → Reading.integer value = .ok n)
    (h : Scope.setting ⟨path, members⟩ name default read = .valid n) :
    Section.integer members name default =
      if leavesUnread (.object members) name then .error .noNumeral else .ok n := by
  rw [Section.integer, leavesUnread, settingOf?]
  rcases setting_eq_valid h with ⟨hnone, rfl⟩ | ⟨value, hsome, hvalue⟩
  · rw [hnone]
    rfl
  · rw [hsome]
    exact toInteger_of_integer (hread value hvalue)

end Settings

namespace Reading

theorem text_eq_ok {s : String} (h : text value = .ok s) : value = .text s := by
  cases value with
  | text t => rw [Except.ok.inj h]
  | _ => contradiction

theorem textOfLength_eq_ok {least most : Nat} {s : String}
    (h : textOfLength least most value = .ok s) : value = .text s := by
  obtain ⟨t, ht, hs⟩ := bind_eq_ok_iff.mp h
  split at hs
  · contradiction
  · split at hs
    · contradiction
    · rw [text_eq_ok ht, Except.ok.inj hs]

theorem integerWithin_eq_ok {least most : Int} (h : integerWithin least most value = .ok n) :
    integer value = .ok n := by
  obtain ⟨m, hm, hn⟩ := bind_eq_ok_iff.mp h
  split at hn
  · contradiction
  · split at hn
    · contradiction
    · rw [hm, Except.ok.inj hn]

theorem integerFrom_eq_ok {least : Int} (h : integerFrom least value = .ok n) :
    integer value = .ok n := by
  obtain ⟨m, hm, hn⟩ := bind_eq_ok_iff.mp h
  split at hn
  · contradiction
  · rw [hm, Except.ok.inj hn]

theorem integerAbove_eq_ok {bound : Int} (h : integerAbove bound value = .ok n) :
    integer value = .ok n := by
  obtain ⟨m, hm, hn⟩ := bind_eq_ok_iff.mp h
  split at hn
  · contradiction
  · rw [hm, Except.ok.inj hn]

end Reading

/-! ## Sections -/

/-- The switches of a gateway. -/
def codecSwitches : List String := ["validate_inbound", "validate_outbound", "accept_vdo"]

/-- The integers of a relay, in the order in which they are read. -/
def relayIntegers : List String := ["port", "max_clients", "max_line_bytes"]

section Sections

variable {path : List String} {members : List (String × Json)}

/-- The gateway that runs is the validated one, but for the switches that are turned off in words:
those are on. -/
theorem ofConfig_of_checkCodec {c : GatewayConfig} (h : checkCodec ⟨path, members⟩ = .valid c) :
    GatewayConfig.ofConfig (.object members) = .ok { c with
      validateInbound := c.validateInbound || denies (.object members) "validate_inbound"
      validateOutbound := c.validateOutbound || denies (.object members) "validate_outbound"
      acceptVdo := c.acceptVdo || denies (.object members) "accept_vdo" } ∧
    (denies (.object members) "validate_inbound" = true → c.validateInbound = false) ∧
    (denies (.object members) "validate_outbound" = true → c.validateOutbound = false) ∧
    (denies (.object members) "accept_vdo" = true → c.acceptVdo = false) := by
  obtain ⟨_, channel, hfour, hchannel, rfl⟩ := Checked.ap_eq_valid h
  obtain ⟨_, talker, hthree, htalker, rfl⟩ := Checked.ap_eq_valid hfour
  obtain ⟨_, acceptVdo, htwo, haccept, rfl⟩ := Checked.ap_eq_valid hthree
  obtain ⟨_, outbound, hone, houtbound, rfl⟩ := Checked.ap_eq_valid htwo
  obtain ⟨inbound, hinbound, rfl⟩ := Checked.map_eq_valid hone
  have hofConfig : GatewayConfig.ofConfig (.object members) = .ok {
      validateInbound := Section.flag members "validate_inbound" true
      validateOutbound := Section.flag members "validate_outbound" true
      acceptVdo := Section.flag members "accept_vdo" true
      talker := Section.text members "talker" "AI"
      channel := Section.text members "channel" "A" } := rfl
  obtain ⟨hin, hinDenied⟩ := flag_of_setting hinbound
  obtain ⟨hout, houtDenied⟩ := flag_of_setting houtbound
  obtain ⟨hvdo, hvdoDenied⟩ := flag_of_setting haccept
  refine ⟨?_, hinDenied, houtDenied, hvdoDenied⟩
  rw [hofConfig, hin, hout, hvdo, text_of_setting (fun _ => Reading.textOfLength_eq_ok) htalker,
    text_of_setting (fun _ => Reading.textOfLength_eq_ok) hchannel]

/-- The relay that runs is the validated one, but for a switch that is turned off in words, if its
integers are found. -/
theorem ofConfig_of_checkRelay {c : RelayConfig} (h : checkRelay ⟨path, members⟩ = .valid c) :
    (RelayConfig.ofConfig (.object members) =
      match relayIntegers.find? (leavesUnread (.object members)) with
      | some name => .error (.setting name .noNumeral)
      | none => .ok { c with enabled := c.enabled || denies (.object members) "enabled" }) ∧
    (denies (.object members) "enabled" = true → c.enabled = false) := by
  obtain ⟨_, maxLineBytes, hfour, hbytes, rfl⟩ := Checked.ap_eq_valid h
  obtain ⟨_, maxClients, hthree, hclients, rfl⟩ := Checked.ap_eq_valid hfour
  obtain ⟨_, port, htwo, hport, rfl⟩ := Checked.ap_eq_valid hthree
  obtain ⟨_, host, hone, hhost, rfl⟩ := Checked.ap_eq_valid htwo
  obtain ⟨enabled, henabled, rfl⟩ := Checked.map_eq_valid hone
  have hofConfig : RelayConfig.ofConfig (.object members) = (do
      let port ← ComponentError.integer members "port" 8090
      let maxClients ← ComponentError.integer members "max_clients" 1000
      let maxLineBytes ← ComponentError.integer members "max_line_bytes" 1024
      return {
        enabled := Section.flag members "enabled" true
        host := Section.text members "host" "0.0.0.0"
        port, maxClients, maxLineBytes }) := rfl
  obtain ⟨hon, honDenied⟩ := flag_of_setting henabled
  refine ⟨?_, honDenied⟩
  rw [hofConfig, hon, text_of_setting (fun _ => Reading.text_eq_ok) hhost,
    ComponentError.integer, ComponentError.integer, ComponentError.integer,
    integer_of_setting (fun _ => Reading.integerWithin_eq_ok) hport,
    integer_of_setting (fun _ => Reading.integerAbove_eq_ok) hclients,
    integer_of_setting (fun _ => Reading.integerFrom_eq_ok) hbytes]
  simp only [relayIntegers, List.find?_cons, List.find?_nil]
  cases leavesUnread (.object members) "port" with
  | true => rfl
  | false =>
    cases leavesUnread (.object members) "max_clients" with
    | true => rfl
    | false => cases leavesUnread (.object members) "max_line_bytes" <;> rfl

theorem or_eq_self_iff {denied : Bool} (h : denied = true → b = false) :
    (b || denied) = b ↔ denied = false := by
  cases denied with
  | false => exact iff_of_true (Bool.or_false b) rfl
  | true =>
    rw [h rfl]
    exact iff_of_false Bool.true_eq_false.mp Bool.true_eq_false.mp

theorem codec_agrees_iff {c : GatewayConfig} (h : checkCodec ⟨path, members⟩ = .valid c) :
    GatewayConfig.ofConfig (.object members) = .ok c ↔
      ∀ name ∈ codecSwitches, denies (.object members) name = false := by
  obtain ⟨heq, hinDenied, houtDenied, hvdoDenied⟩ := ofConfig_of_checkCodec h
  obtain ⟨inbound, outbound, acceptVdo, talker, channel⟩ := c
  rw [heq]
  simp only [Except.ok.injEq, GatewayConfig.mk.injEq, or_eq_self_iff hinDenied,
    or_eq_self_iff houtDenied, or_eq_self_iff hvdoDenied, and_true, codecSwitches,
    List.forall_mem_cons, List.not_mem_nil, false_implies, implies_true]

theorem relay_agrees_iff {c : RelayConfig} (h : checkRelay ⟨path, members⟩ = .valid c) :
    RelayConfig.ofConfig (.object members) = .ok c ↔
      denies (.object members) "enabled" = false ∧
        ∀ name ∈ relayIntegers, leavesUnread (.object members) name = false := by
  obtain ⟨heq, honDenied⟩ := ofConfig_of_checkRelay h
  obtain ⟨enabled, host, port, maxClients, maxLineBytes⟩ := c
  have hread : relayIntegers.find? (leavesUnread (.object members)) = none ↔
      ∀ name ∈ relayIntegers, leavesUnread (.object members) name = false := by
    rw [List.find?_eq_none]
    simp only [Bool.not_eq_true]
  rw [heq, ← hread]
  cases relayIntegers.find? (leavesUnread (.object members)) with
  | some name => simp only [reduceCtorEq, and_false]
  | none =>
    simp only [Except.ok.injEq, RelayConfig.mk.injEq, or_eq_self_iff honDenied, and_true]

end Sections

/-! ## Configurations -/

/-- A section of the station, as it stands in the configuration. -/
def stationSection (value : Json) (name : String) : Json :=
  (((settingOf? value stationName).bind fun station => settingOf? station name).getD .null)

theorem nested_eq_valid {α : Type} {path : List String} {members : List (String × Json)}
    {name : String} {default a : α} {check : Scope → Checked α}
    (h : Scope.nested ⟨path, members⟩ name default check = .valid a) :
    members.lookup name = none ∧ default = a ∨
      ∃ inner, members.lookup name = some (.object inner) ∧
        check ⟨path ++ [name], inner⟩ = .valid a := by
  rw [Scope.nested] at h
  split at h
  · rename_i hnone
    exact .inl ⟨hnone, Checked.valid.inj h⟩
  · rename_i value hsome
    cases value with
    | object inner => exact .inr ⟨inner, hsome, h⟩
    | _ => cases h

/-- The sections of a valid configuration are checked one by one. -/
theorem exists_of_check {m : StationConfig} (h : check value = .valid m) :
    ∃ path station, (∀ name, stationSection value name = (station.lookup name).getD .null) ∧
      Scope.nested ⟨path, station⟩ "codec" {} checkCodec = .valid m.codec ∧
      Scope.nested ⟨path, station⟩ "relay" {} checkRelay = .valid m.relay := by
  cases value with
  | object members =>
    simp only [check, checkObject] at h
    split at h
    · cases h
    · rename_i own hown
      cases own with
      | object station =>
        obtain ⟨_, relay, htwo, hrelay, rfl⟩ := Checked.ap_eq_valid h
        obtain ⟨_, codec, hone, hcodec, rfl⟩ := Checked.ap_eq_valid htwo
        obtain ⟨system, -, rfl⟩ := Checked.map_eq_valid hone
        refine ⟨_, station, ?_, hcodec, hrelay⟩
        intro name
        rw [stationSection, settingOf?, hown]
        rfl
      | _ => cases h
  | _ => cases h

/-- The components run with what was validated, unless a switch is turned off in words or an integer
is one that they do not find. -/
theorem ofConfig_iff_of_check {m : StationConfig} (h : check value = .valid m) :
    (GatewayConfig.ofConfig (stationSection value "codec") = .ok m.codec ↔
      ∀ name ∈ codecSwitches, denies (stationSection value "codec") name = false) ∧
    (RelayConfig.ofConfig (stationSection value "relay") = .ok m.relay ↔
      denies (stationSection value "relay") "enabled" = false ∧
        ∀ name ∈ relayIntegers, leavesUnread (stationSection value "relay") name = false) := by
  obtain ⟨path, station, hraw, hcodec, hrelay⟩ := exists_of_check h
  rw [hraw, hraw]
  constructor
  · rcases nested_eq_valid hcodec with ⟨hnone, hdefault⟩ | ⟨members, hsome, hchecked⟩
    · rw [hnone, ← hdefault]
      exact iff_of_true rfl fun name _ => rfl
    · rw [hsome]
      exact codec_agrees_iff hchecked
  · rcases nested_eq_valid hrelay with ⟨hnone, hdefault⟩ | ⟨members, hsome, hchecked⟩
    · rw [hnone, ← hdefault]
      exact iff_of_true rfl ⟨rfl, fun name _ => rfl⟩
    · rw [hsome]
      exact relay_agrees_iff hchecked

/-- Words for true and plain numerals mean the same to the components. -/
theorem ofConfig_of_check_words :
    let codec := Json.object [("validate_inbound", .text "Yes"), ("accept_vdo", .int 0)]
    let three := Binary64.finite false (3 * 2 ^ 51) (-51)
    let relay := Json.object [("port", .text " 10_110 "), ("max_clients", .real three)]
    GatewayConfig.ofConfig codec = .ok { acceptVdo := false } ∧
      RelayConfig.ofConfig relay = .ok { port := 10110, maxClients := 3 } := by
  intro codec three relay
  have h : check (.object [("aislink", .object [("codec", codec), ("relay", relay)])]) = .valid {
      codec := { acceptVdo := false }, relay := { port := 10110, maxClients := 3 } } := by rfl
  exact ⟨(ofConfig_iff_of_check h).1.mpr (by decide), (ofConfig_iff_of_check h).2.mpr (by decide)⟩

/-- A switch that is turned off in words is validated as off and is on in the gateway. -/
theorem denied_switch_is_on :
    let codec := Json.object [("validate_inbound", .text "false")]
    ∃ m, check (.object [("aislink", .object [("codec", codec)])]) = .valid m ∧
      m.codec.validateInbound = false ∧
      GatewayConfig.ofConfig codec = .ok { validateInbound := true } :=
  ⟨{ codec := { validateInbound := false } }, rfl, rfl, rfl⟩

/-- A port with a fraction is validated and is no integer to the relay. -/
example : let relay := Json.object [("port", .text "8090.0")]
    check (.object [("aislink", .object [("relay", relay)])]) = .valid {} ∧
      RelayConfig.ofConfig relay = .error (.setting "port" .noNumeral) :=
  ⟨rfl, rfl⟩

end Config

end AisStation
