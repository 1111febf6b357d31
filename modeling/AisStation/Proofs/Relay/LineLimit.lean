import AisStation.Proofs.Relay.Streams
import AisStation.Proofs.Sentence.Emission

/-!
# The line limit

A client that sends a line of more bytes than the limit loses its connection. How long a sentence is
depends on the channel and the number of bits that it carries, of which a message of type 26 has the
most. The least limit that lets through all sentences of a gateway follows from that; it is more
than twice the least limit that the schema accepts.
-/

namespace AisStation

/-! ## Lengths of sentences -/

theorem RecordKind.le_1064_of_accepts {kind : RecordKind} {n : Nat}
    (h : kind.lengths.accepts n = true) : n ≤ 1064 := by
  cases kind <;> simp [RecordKind.lengths, Lengths.accepts] at h <;> omega

namespace Sentence

variable {channel talker : String}

theorem fillBits_encode_lt (bs : Bits) : (Armor.encode bs).fillBits < 10 := by
  have hlt : (Armor.encode bs).fillBits < 6 := fillBits_lt (by decide) (bs.length : Int)
  omega

theorem isAscii_bodyOf (bs : Bits)
    (hascii : ∀ c ∈ talker.toList ++ channel.toList, c.toNat < 128) (kind : SentenceKind) :
    ∀ c ∈ bodyOf (Armor.encode bs) channel talker kind, c.toNat < 128 := by
  obtain ⟨htalker, hchannel⟩ := List.forall_mem_append.mp hascii
  have hfields := forall_mem_fieldsOf (fun _ hc => hc.1) htalker hchannel
    (fun _ => Armor.mem_alphabet_of_mem_encode) (fillBits_encode_lt bs) kind
  intro c hc
  rcases mem_bodyOf hc with rfl | ⟨field, hfield, hc⟩
  · decide
  · exact hfields field hfield c hc

theorem length_digit : ∀ n : Nat, n < 10 → (toString n).length = 1 := by decide

/-- Around payload, talker and channel a sentence has sixteen characters. -/
theorem length_build (bs : Bits)
    (hascii : ∀ c ∈ talker.toList ++ channel.toList, c.toNat < 128) (kind : SentenceKind) :
    (build (Armor.encode bs) channel talker kind).length =
      16 + talker.length + channel.length + (bs.length + 5) / 6 := by
  have hsum := (checksumText_spec _ (checksum_lt (isAscii_bodyOf bs hascii kind))).1
  have hpayload := (Armor.fillBits_encode bs).1
  have hdigit := length_digit _ (fillBits_encode_lt bs)
  have hkind : kind.text.length = 3 := by cases kind <;> rfl
  have hbetween : ",1,1,,".toList.length = 6 := by decide
  -- two marks, the kind, six and two characters between the fields, fill bits, and the checksum
  rw [← String.length_toList, build, toList_frame, List.length_cons, List.length_append,
    List.length_cons, hsum, bodyOf]
  simp only [List.length_append, List.length_cons, String.length_toList, hpayload, hdigit, hkind,
    hbetween]
  omega

end Sentence

/-! ## Lines of a stream -/

/-- The bytes of an ASCII text. -/
def asciiBytes (s : String) : List UInt8 :=
  s.toList.map fun c => .ofNat c.toNat

@[simp] theorem length_asciiBytes (s : String) : (asciiBytes s).length = s.length := by
  rw [asciiBytes, List.length_map, String.length_toList]

/-- Only the newline character gives the newline byte. -/
theorem newline_notMem_asciiBytes {s : String} (hascii : ∀ c ∈ s.toList, c.toNat < 128)
    (h : '\n' ∉ s.toList) : Relay.newline ∉ asciiBytes s := by
  intro hmem
  obtain ⟨c, hc, hbyte⟩ := List.mem_map.mp hmem
  have hlt := hascii c hc
  have hten : c.toNat % 256 = 10 := congrArg UInt8.toNat hbyte
  have hnewline : c = '\n' := Char.toNat_inj.mp (by
    show c.toNat = 10
    omega)
  exact h (hnewline ▸ hc)

theorem asciiBytes_append (s t : String) : asciiBytes (s ++ t) = asciiBytes s ++ asciiBytes t := by
  rw [asciiBytes, String.toList_append, List.map_append]
  rfl

namespace Relay

variable {limit : Int} {bytes rest : List UInt8}

/-- What precedes the newline of a line on the wire. -/
def lineBytes (text : String) : List UInt8 :=
  asciiBytes (text ++ "\r")

theorem length_lineBytes (text : String) : (lineBytes text).length = text.length + 1 := by
  rw [lineBytes, length_asciiBytes, String.length_append]
  rfl

theorem asciiBytes_wire (text : String) : asciiBytes (wire text) = lineBytes text ++ [newline] := by
  have hend : asciiBytes "\r\n" = asciiBytes "\r" ++ [newline] := by decide
  rw [wire, lineBytes, asciiBytes_append, asciiBytes_append, hend, List.append_assoc]

theorem newline_notMem_lineBytes {text : String} (hascii : ∀ c ∈ text.toList, c.toNat < 128)
    (h : '\n' ∉ text.toList) : newline ∉ lineBytes text := by
  rw [lineBytes, asciiBytes_append, List.mem_append, not_or]
  exact ⟨newline_notMem_asciiBytes hascii h, by decide⟩

theorem front_append_newline (limit : Int) (h : newline ∉ bytes) (rest : List UInt8) :
    front limit (bytes ++ newline :: rest) =
      if limit < bytes.length then .overlong else .line bytes rest := by
  have hbytes : ∀ byte ∈ bytes, decide (byte ≠ newline) = true := by
    intro byte hbyte
    rw [decide_eq_true_eq]
    rintro rfl
    exact h hbyte
  have htake : (bytes ++ newline :: rest).takeWhile (· ≠ newline) = bytes := by
    rw [List.takeWhile_append_of_pos hbytes, List.takeWhile_cons_of_neg (by decide),
      List.append_nil]
  have hdrop : (bytes ++ newline :: rest).dropWhile (· ≠ newline) = newline :: rest := by
    rw [List.dropWhile_append_of_pos hbytes, List.dropWhile_cons_of_neg (by decide)]
  rw [front, htake, hdrop]

theorem split_overlong (h : newline ∉ bytes) (hlong : limit < bytes.length) :
    split limit (bytes ++ newline :: rest) = ([], none) := by
  have hfront := front_append_newline limit h rest
  rw [if_pos hlong] at hfront
  rw [split, hfront]

theorem split_line (h : newline ∉ bytes) (hfits : bytes.length ≤ limit) :
    split limit (bytes ++ newline :: rest) =
      (bytes :: (split limit rest).1, (split limit rest).2) := by
  have hfront := front_append_newline limit h rest
  rw [if_neg (not_lt.mpr hfits)] at hfront
  rw [split, hfront]

theorem split_nil (h : 0 ≤ limit) : split limit [] = ([], some []) := by
  have hfront : front limit [] = .unfinished := if_neg (not_lt.mpr h)
  rw [split, hfront]

/-- Bytes within the limit all together leave nothing behind, however many lines they are. -/
theorem split_snd_eq_some (h : bytes.length ≤ limit) :
    (split limit (bytes ++ [newline])).2 = some [] := by
  -- on the number of bytes: fewer stand behind the first newline
  induction hn : bytes.length using Nat.strongRecOn generalizing bytes with
  | ind n ih =>
    by_cases hmem : newline ∈ bytes
    · obtain ⟨first, later, rfl, hfirst⟩ := List.eq_append_cons_of_mem hmem
      rw [List.length_append, List.length_cons] at h hn
      rw [List.append_assoc, List.cons_append, split_line hfirst (by omega)]
      exact ih later.length (by omega) (by omega) rfl
    · rw [split_line hmem h, split_nil (by omega)]

/-! ## Phases of a connection -/

variable {r : Relay} {client : Nat}

theorem phase_update (h : r.phase client ≠ .finished) (phase : Phase) :
    (r.update client ({ · with phase := phase })).phase client = phase := by
  obtain ⟨c, hc, -⟩ := exists_of_phase_ne h
  have hupdate := getElem?_update r client ({ · with phase := phase }) client
  rw [hc, Option.map_some, if_pos rfl] at hupdate
  exact phase_of_getElem? hupdate

theorem phase_step_leave (h : r.phase client = .reading) :
    (r.step (.leave client)).phase client = .finished := by
  obtain ⟨c, hc, -⟩ := exists_of_phase_ne (h.trans_ne Phase.noConfusion)
  have hupdate := getElem?_update r client Connection.finish client
  rw [hc, Option.map_some, if_pos rfl] at hupdate
  simp only [step, h]
  exact phase_of_getElem? hupdate

/-- Taking a line never ends the connection that it came from. -/
theorem phase_step_line (h : r.phase client = .reading) (bytes : List UInt8) :
    (r.step (.line client bytes)).phase client ≠ .finished := by
  have htransition := r.transition_step (.line client bytes)
  generalize r.step (.line client bytes) = r' at htransition ⊢
  cases htransition with
  | dropped hphase htext hline =>
    show r.phase client ≠ .finished
    exact h.trans_ne Phase.noConfusion
  | @forwarded _ _ text m hphase htext hline =>
    let written := r.updateAll (r.targets client) (·.write (wire text))
    have hwritten : written.phase client = .reading := by
      rw [phase_updateAll (Connection.phase_write (wire text)), h]
    have hne : written.phase client ≠ .finished := hwritten.trans_ne Phase.noConfusion
    exact (phase_update hne (.forwarding (r.targets client))).trans_ne Phase.noConfusion
  | ignored harrival htaking => exact h.trans_ne Phase.noConfusion

/-- Once its writes are through a connection is read again. -/
theorem phase_step_flushed (h : r.phase client ≠ .finished) (failed : List Nat) :
    (r.step (.flushed client failed)).phase client = .reading := by
  cases hphase : r.phase client with
  | finished => exact absurd hphase h
  | reading => simp only [step, hphase]
  | forwarding targets =>
    let dropped := r.updateAll (targets.filter (failed.contains ·)) Connection.drop
    have hdropped : dropped.phase client = .forwarding targets := by
      rw [phase_updateAll Connection.phase_drop, hphase]
    have hne : dropped.phase client ≠ .finished := hdropped.trans_ne Phase.noConfusion
    simp only [step, hphase]
    exact phase_update hne .reading

end Relay

namespace StreamRelay

open Relay

variable {s : StreamRelay} {client : Nat} {bytes : List UInt8}

theorem phase_deliver (h : s.relay.phase client = .reading) (bytes : List UInt8) :
    (s.deliver client bytes).relay.phase client = .reading :=
  phase_step_flushed (phase_step_line h bytes) s.broken

theorem phase_foldl_deliver (h : s.relay.phase client = .reading) (lines : List (List UInt8)) :
    (lines.foldl (fun s line => s.deliver client line) s).relay.phase client = .reading := by
  induction lines generalizing s with
  | nil => exact h
  | cons line lines ih => exact ih (phase_deliver h line)

/-- A client that is read and of which nothing is left over from before. -/
structure Awaits (s : StreamRelay) (client : Nat) : Prop where
  phase : s.relay.phase client = .reading
  buffer : s.buffer client = []

theorem Awaits.phase_receive (h : s.Awaits client)
    (hfits : bytes.length ≤ s.relay.config.maxLineBytes) :
    (s.receive client (bytes ++ [newline])).relay.phase client = .reading := by
  have hrest := split_snd_eq_some hfits
  cases hsplit : split s.relay.config.maxLineBytes (bytes ++ [newline]) with
  | mk lines rest? =>
    rw [hsplit] at hrest
    obtain rfl : rest? = some [] := hrest
    simp only [receive, h.phase, h.buffer, List.nil_append, hsplit]
    exact phase_foldl_deliver h.phase lines

theorem Awaits.phase_receive_overlong (h : s.Awaits client) (hline : newline ∉ bytes)
    (hlong : s.relay.config.maxLineBytes < bytes.length) :
    (s.receive client (bytes ++ [newline])).relay.phase client = .finished := by
  have hsplit : split s.relay.config.maxLineBytes (bytes ++ [newline]) = ([], none) :=
    split_overlong hline hlong
  simp only [receive, h.phase, h.buffer, List.nil_append, hsplit, List.foldl_nil]
  exact phase_step_leave h.phase

end StreamRelay

/-! ## Sections -/

namespace Config

variable {path : List String} {members : List (String × Json)}

theorem le_maxLineBytes_of_checkRelay {c : RelayConfig}
    (h : checkRelay ⟨path, members⟩ = .valid c) : 82 ≤ c.maxLineBytes := by
  obtain ⟨_, maxLineBytes, hfour, hbytes, rfl⟩ := Checked.ap_eq_valid h
  obtain ⟨_, maxClients, hthree, -, rfl⟩ := Checked.ap_eq_valid hfour
  obtain ⟨_, port, htwo, -, rfl⟩ := Checked.ap_eq_valid hthree
  obtain ⟨_, host, hone, -, rfl⟩ := Checked.ap_eq_valid htwo
  obtain ⟨enabled, -, rfl⟩ := Checked.map_eq_valid hone
  show 82 ≤ maxLineBytes
  rcases setting_eq_valid hbytes with ⟨-, rfl⟩ | ⟨value, -, hvalue⟩
  · decide
  · obtain ⟨n, -, hn⟩ := bind_eq_ok_iff.mp hvalue
    split at hn
    · contradiction
    · obtain rfl := Except.ok.inj hn
      show 82 ≤ n
      omega

theorem maxLineBytes_of_ofConfig {c config : RelayConfig}
    (h : checkRelay ⟨path, members⟩ = .valid c)
    (hconfig : RelayConfig.ofConfig (.object members) = .ok config) :
    config.maxLineBytes = c.maxLineBytes := by
  rw [(ofConfig_of_checkRelay h).1] at hconfig
  split at hconfig
  · contradiction
  · obtain rfl := Except.ok.inj hconfig
    rfl

end Config

/-! ## Sentences on the wire -/

/-- A message with the most bits that a message can have. -/
def Message.longest : Message :=
  .multipleSlotBinaryMessage { data := ⟨List.replicate 1004 false⟩ }

theorem Message.exists_encode_longest :
    ∃ bs, encode longest = .ok (Armor.encode bs) ∧ bs.length = 1064 := by
  have htype : longest.messageType ∈ longest.kind.types := by decide
  obtain ⟨bs, hbits⟩ := longest.bits_ok_iff.mpr (by decide)
  have hsent : longest.sentLength = 1064 := by
    rw [longest, sentLength_multipleSlotBinaryMessage, Blob.length, List.length_replicate]
    rfl
  have hlength : bs.length = 1064 := (length_bits hbits).trans hsent
  have haccepts : longest.kind.lengths.accepts bs.length = true := by
    rw [hlength]
    decide
  exact ⟨bs, encode_ok htype hbits haccepts, hlength⟩

theorem Message.isValid_longest : longest.isValid = true := by
  decide +kernel

namespace Gateway

variable {g : Gateway} {m : Message} {line : String}

theorem length_of_encodeLine (htalker : g.config.talker.length = 2)
    (hascii : ∀ c ∈ g.config.talker.toList ++ g.config.channel.toList, c.toNat < 128)
    (h : (g.encodeLine m none).1 = .ok (some line)) :
    (∀ c ∈ line.toList, c.toNat < 128) ∧
      ∃ n ≤ 1064, (Relay.lineBytes line).length = 19 + g.config.channel.length + (n + 5) / 6 := by
  obtain ⟨bs, -, haccepts, rfl⟩ := exists_of_encodeLine h
  have hbody := Sentence.isAscii_bodyOf bs hascii .vdm
  have hframe := List.all_eq_true.mp (Sentence.isAscii_frame hbody)
  refine ⟨fun c hc => of_decide_eq_true (hframe c hc), bs.length,
    RecordKind.le_1064_of_accepts haccepts, ?_⟩
  rw [Relay.length_lineBytes, Sentence.length_build bs hascii, htalker]
  omega

/-- Whatever its configuration, a gateway emits the longest message. -/
theorem exists_encodeLine_longest (htalker : g.config.talker.length = 2)
    (hascii : ∀ c ∈ g.config.talker.toList ++ g.config.channel.toList, c.toNat < 128) :
    ∃ line, (g.encodeLine .longest none).1 = .ok (some line) ∧
      (Relay.lineBytes line).length = 197 + g.config.channel.length := by
  obtain ⟨bs, hencode, hlength⟩ := Message.exists_encode_longest
  refine ⟨_, by rw [encodeLine, g.config.send_eq Message.isValid_longest hencode]; rfl, ?_⟩
  show (Relay.lineBytes (Sentence.build _ g.config.channel g.config.talker .vdm)).length = _
  rw [Relay.length_lineBytes, Sentence.length_build bs hascii, htalker, hlength]
  omega

end Gateway

/-- All sentences of a gateway are within the limit of a relay exactly if the limit is at least 197
bytes and the length of the channel; the schema is content with 82 bytes. A client that sends a
sentence within the limit is read on, one that sends a longer line is dropped. -/
theorem StreamRelay.within_limit_iff {path path' : List String}
    {relaySection codecSection : List (String × Json)} {rc : RelayConfig} {gc : GatewayConfig}
    (hrelay : Config.checkRelay ⟨path, relaySection⟩ = .valid rc)
    (hcodec : Config.checkCodec ⟨path', codecSection⟩ = .valid gc)
    (hascii : ∀ c ∈ gc.talker.toList ++ gc.channel.toList, c.toNat < 128) :
    82 ≤ rc.maxLineBytes ∧ ∃ g, Gateway.ofConfig (.object codecSection) = .ok g ∧
      ((∀ m line, (g.encodeLine m none).1 = .ok (some line) →
          ((Relay.lineBytes line).length : Int) ≤ rc.maxLineBytes) ↔
        197 + gc.channel.length ≤ rc.maxLineBytes) ∧
      ∀ m line, (g.encodeLine m none).1 = .ok (some line) →
        ∀ config, RelayConfig.ofConfig (.object relaySection) = .ok config →
          ∀ (s : StreamRelay) (client : Nat), s.relay.config = config → s.Awaits client →
            ((Relay.lineBytes line).length ≤ rc.maxLineBytes →
              (s.receive client (asciiBytes (Relay.wire line))).relay.phase client = .reading) ∧
            (rc.maxLineBytes < (Relay.lineBytes line).length → '\n' ∉ line.toList →
              (s.receive client (asciiBytes (Relay.wire line))).relay.phase client =
                .finished) := by
  obtain ⟨htalker, -⟩ := Config.length_of_checkCodec hcodec
  obtain ⟨g, hg, hgTalker, hgChannel⟩ := Config.exists_gateway hcodec
  rw [← hgTalker] at htalker hascii
  rw [← hgChannel] at hascii ⊢
  have hschema := Config.le_maxLineBytes_of_checkRelay hrelay
  refine ⟨hschema, g, hg, ⟨fun hall => ?_, fun hlimit => ?_⟩, ?_⟩
  · obtain ⟨line, hline, hlength⟩ := g.exists_encodeLine_longest htalker hascii
    have hle := hall .longest line hline
    rw [hlength] at hle
    exact_mod_cast hle
  · intro m line hline
    obtain ⟨-, n, hn, hlength⟩ := Gateway.length_of_encodeLine htalker hascii hline
    rw [hlength]
    omega
  · intro m line hline config hconfig s client hs hawaits
    obtain ⟨hlineAscii, -⟩ := Gateway.length_of_encodeLine htalker hascii hline
    rw [← Config.maxLineBytes_of_ofConfig hrelay hconfig, ← hs, Relay.asciiBytes_wire]
    refine ⟨fun hfits => hawaits.phase_receive hfits, fun hlong hnewline => ?_⟩
    exact hawaits.phase_receive_overlong (Relay.newline_notMem_lineBytes hlineAscii hnewline) hlong

/-- As they are by default, a relay takes whatever a gateway emits. -/
theorem StreamRelay.within_limit_default :
    Config.checkRelay ⟨[], []⟩ = .valid {} ∧ Config.checkCodec ⟨[], []⟩ = .valid {} ∧
      ∀ m line, (Gateway.encodeLine {} m none).1 = .ok (some line) →
        (Relay.lineBytes line).length ≤ 1024 := by
  have hrelay : Config.checkRelay ⟨[], []⟩ = .valid {} := by rfl
  have hcodec : Config.checkCodec ⟨[], []⟩ = .valid {} := by rfl
  obtain ⟨-, g, hg, hlimit, -⟩ := StreamRelay.within_limit_iff hrelay hcodec (by decide)
  have hdefault : Gateway.ofConfig (.object []) = .ok {} := by rfl
  obtain rfl := Except.ok.inj (hdefault.symm.trans hg)
  refine ⟨hrelay, hcodec, fun m line hline => ?_⟩
  have hfits : ((Relay.lineBytes line).length : Int) ≤ 1024 := hlimit.mpr (by decide) m line hline
  exact_mod_cast hfits

/-- The least limit that the schema accepts is too small for a report of a ship's static data. -/
theorem StreamRelay.not_within_limit_staticAndVoyageData :
    let members := [("max_line_bytes", Json.int 82)]
    let config : RelayConfig := { maxLineBytes := 82 }
    let line :=
      "!AIVDM,1,1,,A,50000000000000000000000000000000000000000000000Ht0000000000000000000000,2*2D"
    Config.checkRelay ⟨[], members⟩ = .valid config ∧
      RelayConfig.ofConfig (.object members) = .ok config ∧
        (Gateway.encodeLine {} (.staticAndVoyageData {}) none).1 = .ok (some line) ∧
          (Relay.lineBytes line).length = 91 ∧
            ((StreamRelay.connect { relay := { config } }).receive 0
              (asciiBytes (Relay.wire line))).relay.phase 0 = .finished := by
  intro members config line
  have hawaits : (StreamRelay.connect { relay := { config } }).Awaits 0 := ⟨by rfl, by rfl⟩
  refine ⟨by rfl, by rfl, by decide +kernel, by decide +kernel, ?_⟩
  rw [Relay.asciiBytes_wire]
  exact hawaits.phase_receive_overlong (by decide) (by decide)

end AisStation
