import AisStation.Proofs.Relay.Forwarding
import AisStation.Proofs.Relay.LineLimit

/-!
# The lines of a stream of bytes

A stream is cut at its newlines. Its bytes arrive in chunks that have nothing to do with lines, and
what of a chunk does not make up a line is kept for the next one; so cutting chunk by chunk has to
give the lines of the whole stream. The invariant is that what is kept holds no newline and is
within the limit. On the way back, lines that are put on the wire one behind the other are cut into
just these lines.
-/

namespace AisStation

namespace Relay

variable {limit : Int} {ended : Bool} {lines : List (List UInt8)} {bytes last : List UInt8}

/-! ## Cutting at newlines -/

/-- The lines with the newline that ends each of them. -/
def terminated (lines : List (List UInt8)) : List UInt8 :=
  lines.flatMap (· ++ [newline])

theorem terminated_cons_append (line : List UInt8) (lines : List (List UInt8))
    (rest : List UInt8) :
    terminated (line :: lines) ++ rest = line ++ newline :: (terminated lines ++ rest) := by
  rw [terminated, List.flatMap_cons, List.append_assoc, List.append_assoc]
  rfl

/-- Whatever bytes there are, they are lines and the beginning of one. -/
theorem exists_terminated (bytes : List UInt8) : ∃ lines last,
    bytes = terminated lines ++ last ∧ (∀ line ∈ lines, newline ∉ line) ∧ newline ∉ last := by
  induction bytes with
  | nil => exact ⟨[], [], rfl, by simp, by simp⟩
  | cons byte bytes ih =>
    obtain ⟨lines, last, rfl, hlines, hlast⟩ := ih
    by_cases hbyte : byte = newline
    · subst hbyte
      exact ⟨[] :: lines, last, rfl, List.forall_mem_cons.mpr ⟨by simp, hlines⟩, hlast⟩
    · have hcons {line : List UInt8} (h : newline ∉ line) : newline ∉ byte :: line := by
        rw [List.mem_cons, not_or]
        exact ⟨Ne.symm hbyte, h⟩
      cases lines with
      | nil => exact ⟨[], byte :: last, rfl, by simp, hcons hlast⟩
      | cons line lines =>
        obtain ⟨hline, hlines⟩ := List.forall_mem_cons.mp hlines
        exact ⟨(byte :: line) :: lines, last, rfl,
          List.forall_mem_cons.mpr ⟨hcons hline, hlines⟩, hlast⟩

theorem splitOn_terminated (hlines : ∀ line ∈ lines, newline ∉ line) (rest : List UInt8) :
    (terminated lines ++ rest).splitOn newline = lines ++ rest.splitOn newline := by
  induction lines with
  | nil => rfl
  | cons line lines ih =>
    obtain ⟨hline, hlines⟩ := List.forall_mem_cons.mp hlines
    rw [terminated_cons_append, List.splitOn_append_cons_self_of_not_mem hline, ih hlines]
    rfl

/-! ## Limits -/

/-- The line is within the limit. -/
def isWithin (limit : Int) (line : List UInt8) : Bool :=
  line.length ≤ limit

/-- The lines of a stream before the first one that is too long. What stands behind the last newline
is a line once the stream has ended. -/
def streamLines (limit : Int) (ended : Bool) (bytes : List UInt8) : List (List UInt8) :=
  let pieces := bytes.splitOn newline
  (if ended then pieces else pieces.dropLast).takeWhile (isWithin limit)

theorem split_last (hlast : newline ∉ last) :
    split limit last = ([], if isWithin limit last then some last else none) := by
  have htake : last.takeWhile (· ≠ newline) = last := by
    rw [List.takeWhile_eq_self_iff]
    intro byte hbyte
    rw [decide_eq_true_iff]
    rintro rfl
    exact hlast hbyte
  have hdrop : last.dropWhile (· ≠ newline) = [] := by
    have hsplit := List.takeWhile_append_dropWhile (p := (· ≠ newline)) (l := last)
    rw [htake] at hsplit
    exact List.append_right_eq_self.mp hsplit
  by_cases hlong : limit < last.length
  · have hfront : front limit last = .overlong := by
      rw [front, htake]
      exact if_pos hlong
    have hover : isWithin limit last = false := decide_eq_false (not_le.mpr hlong)
    rw [split, hfront, hover]
    rfl
  · have hfront : front limit last = .unfinished := by
      rw [front, htake, hdrop]
      exact if_neg hlong
    have hwithin : isWithin limit last = true := decide_eq_true (not_lt.mp hlong)
    rw [split, hfront, hwithin]
    rfl

/-- A buffer is taken apart into the lines before the first one that is too long. If there is none,
what stands behind the last newline is left. -/
theorem split_terminated (limit : Int) (hlines : ∀ line ∈ lines, newline ∉ line)
    (hlast : newline ∉ last) :
    split limit (terminated lines ++ last) = (lines.takeWhile (isWithin limit),
      if lines.all (isWithin limit) && isWithin limit last then some last else none) := by
  induction lines with
  | nil => exact split_last hlast
  | cons line lines ih =>
    obtain ⟨hline, hlines⟩ := List.forall_mem_cons.mp hlines
    rw [terminated_cons_append]
    by_cases hfits : (line.length : Int) ≤ limit
    · have hwithin : isWithin limit line = true := decide_eq_true hfits
      rw [split_line hline hfits, ih hlines, List.takeWhile_cons_of_pos hwithin, List.all_cons,
        hwithin, Bool.true_and]
    · have hover : isWithin limit line = false := decide_eq_false hfits
      rw [split_overlong hline (not_le.mp hfits), List.takeWhile_cons_of_neg (by simp [hover]),
        List.all_cons, hover, Bool.false_and, Bool.false_and, if_neg Bool.false_ne_true]

/-- What is taken off a buffer is cut at every newline. -/
theorem newline_notMem_split (limit : Int) (bytes : List UInt8) :
    (∀ line ∈ (split limit bytes).1, newline ∉ line) ∧
      ∀ rest, (split limit bytes).2 = some rest → newline ∉ rest := by
  obtain ⟨lines, last, rfl, hlines, hlast⟩ := exists_terminated bytes
  rw [split_terminated limit hlines hlast]
  constructor
  · intro line hline
    exact hlines line (List.takeWhile_subset _ hline)
  · intro rest hrest
    obtain ⟨-, hsome⟩ := Option.ite_none_right_eq_some.mp hrest
    obtain rfl := Option.some.inj hsome
    exact hlast

/-- The lines of a stream are those of its first part, and if all of these are within the limit
those of the other part. -/
theorem streamLines_terminated (hlines : ∀ line ∈ lines, newline ∉ line) (rest : List UInt8) :
    streamLines limit ended (terminated lines ++ rest) =
      if lines.all (isWithin limit) then lines ++ streamLines limit ended rest
      else lines.takeWhile (isWithin limit) := by
  have hne := List.splitOn_ne_nil newline rest
  have hpieces : (if ended then lines ++ rest.splitOn newline
      else (lines ++ rest.splitOn newline).dropLast) =
        lines ++ if ended then rest.splitOn newline else (rest.splitOn newline).dropLast := by
    cases ended with
    | true => rfl
    | false => exact List.dropLast_append_of_ne_nil hne
  simp only [streamLines, splitOn_terminated hlines, hpieces]
  cases hall : lines.all (isWithin limit) with
  | true =>
    rw [List.takeWhile_append_of_pos (List.all_eq_true.mp hall)]
    rfl
  | false =>
    have hshort : (lines.takeWhile (isWithin limit)).length ≠ lines.length := by
      intro hlength
      have hself : lines.takeWhile (isWithin limit) = lines :=
        (List.takeWhile_prefix _).eq_of_length hlength
      rw [List.takeWhile_eq_self_iff, ← List.all_eq_true, hall] at hself
      contradiction
    rw [List.takeWhile_append, if_neg hshort]
    rfl

theorem streamLines_false_last (hlast : newline ∉ last) : streamLines limit false last = [] := by
  rw [streamLines, List.splitOn_eq_singleton hlast]
  rfl

theorem streamLines_true_last (hlast : newline ∉ last) :
    streamLines limit true last = if isWithin limit last then [last] else [] := by
  rw [streamLines, List.splitOn_eq_singleton hlast]
  cases h : isWithin limit last <;> simp [h]

/-- Nothing counts behind a line that has grown too long. -/
theorem streamLines_overlong (hlast : newline ∉ last) (hlong : isWithin limit last = false)
    (rest : List UInt8) : streamLines limit ended (last ++ rest) = [] := by
  have hgrown (more : List UInt8) : isWithin limit (last ++ more) = false := by
    rw [isWithin, decide_eq_false_iff_not] at hlong ⊢
    rw [List.length_append]
    omega
  obtain ⟨lines, rest', rfl, hlines, hrest'⟩ := exists_terminated rest
  have hjoined {more : List UInt8} (h : newline ∉ more) : newline ∉ last ++ more := by
    rw [List.mem_append, not_or]
    exact ⟨hlast, h⟩
  cases lines with
  | nil =>
    show streamLines limit ended (last ++ rest') = []
    cases ended with
    | true => rw [streamLines_true_last (hjoined hrest'), hgrown, if_neg Bool.false_ne_true]
    | false => exact streamLines_false_last (hjoined hrest')
  | cons line lines =>
    obtain ⟨hline, hlines⟩ := List.forall_mem_cons.mp hlines
    have hfirst : last ++ (terminated (line :: lines) ++ rest') =
        terminated [last ++ line] ++ (terminated lines ++ rest') := by
      rw [terminated_cons_append, terminated_cons_append, List.append_assoc]
      rfl
    have hone : ∀ line' ∈ [last ++ line], newline ∉ line' := by
      intro line' hline'
      rw [List.mem_singleton.mp hline']
      exact hjoined hline
    rw [hfirst, streamLines_terminated hone, List.all_cons, hgrown, Bool.false_and,
      if_neg Bool.false_ne_true, List.takeWhile_cons_of_neg (by simp [hgrown])]

/-- The lines of a stream are those taken off its first chunk, and then those of what is left. -/
theorem streamLines_of_split_some (h : split limit bytes = (lines, some last))
    (rest : List UInt8) :
    streamLines limit ended (bytes ++ rest) = lines ++ streamLines limit ended (last ++ rest) ∧
      newline ∉ last ∧ isWithin limit last = true := by
  obtain ⟨whole, left, rfl, hwhole, hleft⟩ := exists_terminated bytes
  rw [split_terminated limit hwhole hleft] at h
  obtain ⟨hlines, hlast⟩ := Prod.mk.inj h
  obtain ⟨hwithin, hsome⟩ := Option.ite_none_right_eq_some.mp hlast
  obtain rfl := Option.some.inj hsome
  obtain ⟨hall, hlast⟩ := Bool.and_eq_true_iff.mp hwithin
  rw [List.takeWhile_eq_self_iff.mpr (List.all_eq_true.mp hall)] at hlines
  rw [List.append_assoc, streamLines_terminated hwhole, if_pos hall, hlines]
  exact ⟨rfl, hleft, hlast⟩

theorem streamLines_of_split_none (h : split limit bytes = (lines, none)) (rest : List UInt8) :
    streamLines limit ended (bytes ++ rest) = lines := by
  obtain ⟨whole, left, rfl, hwhole, hleft⟩ := exists_terminated bytes
  rw [split_terminated limit hwhole hleft] at h
  obtain ⟨rfl, hnone⟩ := Prod.mk.inj h
  rw [List.append_assoc, streamLines_terminated hwhole]
  cases hall : whole.all (isWithin limit) with
  | false => rw [if_neg Bool.false_ne_true]
  | true =>
    -- the line that is too long is the one that has not ended yet
    have hlong : isWithin limit left = false := by
      rw [hall, Bool.true_and] at hnone
      cases hwithin : isWithin limit left with
      | false => rfl
      | true =>
        rw [hwithin, if_pos rfl] at hnone
        contradiction
    rw [if_pos rfl, streamLines_overlong hleft hlong, List.append_nil,
      List.takeWhile_eq_self_iff.mpr (List.all_eq_true.mp hall)]

/-! ## Texts of lines -/

/-- The text of a line, a character for every byte, without the blanks around it. -/
def lineText (bytes : List UInt8) : String :=
  String.ofList (Text.trim (bytes.map byteChar))

/-- The texts of lines, those of blank lines left out. -/
def lineTexts (lines : List (List UInt8)) : List String :=
  (lines.map lineText).filter (· ≠ "")

theorem lineText?_eq (bytes : List UInt8) :
    lineText? bytes = if lineText bytes = "" then none else some (lineText bytes) := by
  rw [lineText?, lineText]
  cases Text.trim (bytes.map byteChar) with
  | nil => rfl
  | cons c cs =>
    have hne : String.ofList (c :: cs) ≠ "" := by
      intro h
      have hchars := congrArg String.toList h
      rw [String.toList_ofList] at hchars
      contradiction
    rw [if_neg hne]

theorem filterMap_lineText? (lines : List (List UInt8)) :
    lines.filterMap lineText? = lineTexts lines := by
  induction lines with
  | nil => rfl
  | cons line lines ih =>
    rw [lineTexts, List.map_cons, List.filterMap_cons, lineText?_eq]
    by_cases hblank : lineText line = ""
    · rw [if_pos hblank, List.filter_cons_of_neg (by simp [hblank])]
      exact ih
    · rw [if_neg hblank, List.filter_cons_of_pos (by simp [hblank])]
      exact congrArg _ ih

theorem lineTexts_append (lines lines' : List (List UInt8)) :
    lineTexts (lines ++ lines') = lineTexts lines ++ lineTexts lines' := by
  rw [lineTexts, List.map_append, List.filter_append]
  rfl

theorem mem_trim_of_not_isBlank {c : Char} {cs : List Char} (hc : c ∈ cs)
    (hblank : Text.isBlank c = false) : c ∈ Text.trim cs := by
  obtain ⟨before, after, hsplit, hbefore, hafter⟩ := Text.exists_trim cs
  rw [hsplit, List.mem_append, List.mem_append] at hc
  rcases hc with (hc | hc) | hc
  · rw [hbefore c hc] at hblank
    contradiction
  · exact hc
  · rw [hafter c hc] at hblank
    contradiction

theorem mem_of_mem_trim {c : Char} {cs : List Char} (hc : c ∈ Text.trim cs) : c ∈ cs := by
  obtain ⟨before, after, hsplit, -, -⟩ := Text.exists_trim cs
  rw [hsplit]
  exact List.mem_append_left _ (List.mem_append_right _ hc)

theorem byteChar_ne_newline {byte : UInt8} (h : byte ≠ newline) : byteChar byte ≠ '\n' := by
  have hall : ∀ n : Fin 256, n ≠ 10 → byteChar (.ofNat n.val) ≠ '\n' := by decide +kernel
  have hbyte : UInt8.ofNat byte.toNat = byte := UInt8.ofNat_toNat
  have hne : (⟨byte.toNat, byte.toNat_lt⟩ : Fin 256) ≠ 10 := by
    intro hten
    exact h (UInt8.toNat_inj.mp (congrArg Fin.val hten))
  have hchar := hall ⟨byte.toNat, byte.toNat_lt⟩ hne
  rwa [hbyte] at hchar

/-- The text of a line does not hold the end of another one. -/
theorem newline_notMem_lineText (h : newline ∉ bytes) : '\n' ∉ (lineText bytes).toList := by
  rw [lineText, String.toList_ofList]
  intro hmem
  obtain ⟨byte, hbyte, hchar⟩ := List.mem_map.mp (mem_of_mem_trim hmem)
  refine byteChar_ne_newline ?_ hchar
  rintro rfl
  exact h hbyte

/-- A byte beyond ASCII leaves a character beyond ASCII, and no blank one. -/
theorem isAscii_lineText_of_mem {byte : UInt8} (hmem : byte ∈ bytes) (hbyte : 128 ≤ byte) :
    Text.isAscii (lineText bytes).toList = false := by
  have hchar : byteChar byte = '\uFFFD' := if_neg (UInt8.not_lt.mpr hbyte)
  have hforeign : '\uFFFD' ∈ (lineText bytes).toList := by
    rw [lineText, String.toList_ofList]
    refine mem_trim_of_not_isBlank ?_ (by decide)
    rw [← hchar]
    exact List.mem_map_of_mem hmem
  rw [Text.isAscii, List.all_eq_false]
  exact ⟨'\uFFFD', hforeign, by decide⟩

/-! ## Texts on the wire -/

theorem byteChar_ofNat {c : Char} (hc : c.toNat < 128) : byteChar (.ofNat c.toNat) = c := by
  have hall : ∀ n : Fin 128, byteChar (.ofNat n.val) = Char.ofNat n.val := by decide +kernel
  rw [hall ⟨c.toNat, hc⟩, Char.ofNat_toNat]

theorem map_byteChar_asciiBytes {s : String} (hascii : ∀ c ∈ s.toList, c.toNat < 128) :
    (asciiBytes s).map byteChar = s.toList := by
  rw [asciiBytes, List.map_map]
  refine (List.map_congr_left fun c hc => ?_).trans (List.map_id s.toList)
  exact byteChar_ofNat (hascii c hc)

theorem trim_append_of_blank {cs after : List Char} (hafter : ∀ c ∈ after, Text.isBlank c = true) :
    Text.trim (cs ++ after) = Text.trim cs := by
  rw [Text.trim, Text.trim, List.dropWhile_append]
  cases hrest : cs.dropWhile Text.isBlank with
  | nil =>
    have hblank : after.dropWhile Text.isBlank = [] := List.dropWhile_eq_nil_iff.mpr hafter
    rw [hblank]
    rfl
  | cons c rest => exact Text.dropTailWhile_append_of_forall _ hafter

/-- A text that goes out as one line, and is read back from there. -/
structure IsLine (text : String) : Prop where
  ascii : ∀ c ∈ text.toList, c.toNat < 128
  trimmed : Text.trim text.toList = text.toList
  single : '\n' ∉ text.toList

variable {text : String} {texts : List String}

theorem IsLine.ascii_append (h : IsLine text) {after : String}
    (hafter : ∀ c ∈ after.toList, c.toNat < 128) : ∀ c ∈ (text ++ after).toList, c.toNat < 128 := by
  rw [String.toList_append, List.forall_mem_append]
  exact ⟨h.ascii, hafter⟩

theorem IsLine.newline_notMem (h : IsLine text) : newline ∉ lineBytes text :=
  newline_notMem_lineBytes h.ascii h.single

theorem IsLine.lineText_lineBytes (h : IsLine text) : lineText (lineBytes text) = text := by
  have hreturn : Text.trim (text.toList ++ ['\r']) = Text.trim text.toList :=
    trim_append_of_blank (by decide)
  rw [lineText, lineBytes, map_byteChar_asciiBytes (h.ascii_append (by decide)),
    String.toList_append]
  show String.ofList (Text.trim (text.toList ++ ['\r'])) = text
  rw [hreturn, h.trimmed, String.ofList_toList]

theorem flatten_map_wire (texts : List String) :
    ((texts.map wire).map asciiBytes).flatten = terminated (texts.map lineBytes) := by
  rw [terminated, List.map_map, List.flatMap_map, List.flatMap_def]
  exact congrArg List.flatten (List.map_congr_left fun text _ => asciiBytes_wire text)

/-- Whoever cuts what was put on the wire at the newlines reads the same texts there. -/
theorem map_lineText_splitOn_wire (h : ∀ text ∈ texts, IsLine text) :
    (((texts.map wire).map asciiBytes).flatten.splitOn newline).map lineText = texts ++ [""] := by
  have hlines : ∀ line ∈ texts.map lineBytes, newline ∉ line := by
    intro line hline
    obtain ⟨text, htext, rfl⟩ := List.mem_map.mp hline
    exact (h text htext).newline_notMem
  have hread : (texts.map lineBytes).map lineText = texts := by
    rw [List.map_map]
    refine (List.map_congr_left fun text htext => ?_).trans (List.map_id texts)
    exact (h text htext).lineText_lineBytes
  have hsplit := splitOn_terminated hlines []
  rw [List.append_nil] at hsplit
  rw [flatten_map_wire, hsplit, List.map_append, hread]
  rfl

end Relay

end AisStation
