import AisStation.Proofs.Bits.Fields

/-!
# Blobs as bytes and as numbers

A blob is made of bytes, of a number, or of the next bits of a reader. Its bytes are its bits
completed by zeros, and its number is that of its bytes shifted past this completion. So the three
ways agree: bits beyond the length leave no trace, and equal blobs have equal bytes and equal
numbers.
-/

namespace AisStation

namespace Bits

/-- The bits of some bytes, one byte behind the other. -/
def ofBytes (bytes : List UInt8) : Bits :=
  bytes.flatMap fun b => ofNat 8 b.toNat

theorem ofBytes_cons (b : UInt8) (bytes : List UInt8) :
    ofBytes (b :: bytes) = ofNat 8 b.toNat ++ ofBytes bytes := rfl

@[simp] theorem length_ofBytes (bytes : List UInt8) :
    (ofBytes bytes).length = 8 * bytes.length := by
  induction bytes with
  | nil => rfl
  | cons b bytes ih =>
    rw [ofBytes_cons, List.length_append, length_ofNat, ih, List.length_cons]
    ring

/-- The number of a bit string is that of its front, shifted past the rest, and that of the rest. -/
theorem toNat_append (as bs : Bits) : toNat (as ++ bs) = toNat as * 2 ^ bs.length + toNat bs := by
  rw [toNat, List.foldl_append, foldl_eq, ← toNat]

theorem toNat_append_zeros (bs : Bits) (n : Nat) : toNat (bs ++ zeros n) = toNat bs * 2 ^ n := by
  rw [toNat_append, toNat_zeros, length_zeros, Nat.add_zero]

end Bits

/-- The number that some bytes spell, the first byte being the most significant. -/
def bytesToNat (bytes : List UInt8) : Nat :=
  bytes.foldl (fun n b => 256 * n + b.toNat) 0

/-- Bytes spell the same number as their bits. -/
theorem bytesToNat_eq (bytes : List UInt8) : bytesToNat bytes = (Bits.ofBytes bytes).toNat := by
  -- The bytes are read from the left, so the induction is for any number that was read before.
  have hfrom (n : Nat) : bytes.foldl (fun n b => 256 * n + b.toNat) n =
      n * 2 ^ (8 * bytes.length) + (Bits.ofBytes bytes).toNat := by
    induction bytes generalizing n with
    | nil => simp [Bits.ofBytes]
    | cons b bytes ih =>
      have hbyte : (Bits.ofNat 8 b.toNat).toNat = b.toNat := by
        rw [Bits.toNat_ofNat, Nat.mod_eq_of_lt b.toNat_lt]
      rw [List.foldl_cons, ih, Bits.ofBytes_cons, Bits.toNat_append, hbyte, Bits.length_ofBytes,
        List.length_cons, Nat.mul_succ, pow_add]
      ring
  rw [bytesToNat, hfrom, Nat.zero_mul, Nat.zero_add]

/-- So many bytes hold the bits exactly if they have as many bits. -/
theorem byteCount_le_iff {length : Int} {n : Nat} : byteCount length ≤ n ↔ length ≤ 8 * n := by
  rw [byteCount]
  omega

namespace Blob

variable {d e : Blob} {bytes : List UInt8} {length : Int}

/-! ## Bytes of a blob -/

/-- The bytes of a blob are its bits, completed by zeros. -/
theorem ofBytes_bytes (d : Blob) :
    Bits.ofBytes d.bytes = d.bits ++ Bits.zeros (fillBits 8 d.length) := by
  -- A piece has eight bits, so nothing is lost when it becomes a byte.
  have hpiece : ∀ piece ∈ d.bits.chunks 8,
      Bits.ofNat 8 (UInt8.ofNat piece.toNat).toNat = piece := by
    intro piece hpiece
    have hlength := Bits.length_of_mem_chunks (by omega) hpiece
    have hlt := Bits.toNat_lt piece
    rw [hlength] at hlt
    rw [UInt8.toNat_ofNat_of_lt' hlt]
    exact hlength ▸ Bits.ofNat_toNat piece
  rw [length, ← Bits.flatten_chunks (by omega), bytes, Bits.ofBytes, List.flatMap_map,
    List.flatMap_def, List.map_congr_left hpiece, List.map_id']

theorem length_bytes (d : Blob) : (d.bytes.length : Int) = byteCount d.length := by
  have hbits := congrArg List.length (ofBytes_bytes d)
  rw [Bits.length_ofBytes, List.length_append, Bits.length_zeros, ← length] at hbits
  have hlt := fillBits_lt (by omega : 0 < 8) (d.length : Int)
  rw [byteCount]
  omega

/-- The bits that complete the bytes of a blob. -/
theorem fillBits_eq_sub (d : Blob) : fillBits 8 d.length = 8 * d.bytes.length - d.length := by
  have hbits := congrArg List.length (ofBytes_bytes d)
  rw [Bits.length_ofBytes, List.length_append, Bits.length_zeros, ← length] at hbits
  omega

theorem take_ofBytes_bytes (d : Blob) : (Bits.ofBytes d.bytes).take d.length = d.bits := by
  rw [ofBytes_bytes, length, List.take_left' rfl]

theorem bytesToNat_bytes (d : Blob) :
    bytesToNat d.bytes = d.toNat * 2 ^ (8 * d.bytes.length - d.length) := by
  rw [bytesToNat_eq, ofBytes_bytes, Bits.toNat_append_zeros, fillBits_eq_sub, toNat]

/-! ## Blobs of bytes -/

theorem ofBytes_eq_error_iff {why : BlobError} :
    ofBytes bytes length = .error why ↔
      length < 0 ∧ why = .negativeLength ∨
        0 ≤ length ∧ (bytes.length : Int) < byteCount length ∧
          why = .tooFewBytes length bytes.length := by
  rw [ofBytes]
  split
  · rename_i hneg
    rw [Except.error.injEq]
    constructor
    · rintro rfl
      exact .inl ⟨hneg, rfl⟩
    · rintro (⟨-, rfl⟩ | ⟨h0, -⟩)
      · rfl
      · omega
  · rename_i h0
    split
    · rename_i hlt
      rw [Except.error.injEq]
      constructor
      · rintro rfl
        exact .inr ⟨by omega, hlt, rfl⟩
      · rintro (⟨hneg, -⟩ | ⟨-, -, rfl⟩)
        · omega
        · rfl
    · exact iff_of_false (fun h => nomatch h) (by omega)

/-- Bytes that hold the bits asked for make a blob of these bits. -/
theorem ofBytes_ok (h0 : 0 ≤ length) (hle : byteCount length ≤ bytes.length) :
    ∃ d, ofBytes bytes length = .ok d ∧ (d.length : Int) = length ∧
      d.bits = (Bits.ofBytes bytes).take d.length := by
  have hbits : length ≤ 8 * bytes.length := byteCount_le_iff.mp hle
  have hlength : ((Bits.ofBytes bytes).take length.toNat).length = length.toNat := by
    rw [List.length_take, Bits.length_ofBytes]
    omega
  refine ⟨⟨(Bits.ofBytes bytes).take length.toNat⟩, ?_, ?_, ?_⟩
  · rw [ofBytes, if_neg (by omega), if_neg (by omega)]
    rfl
  · rw [Blob.length, hlength, Int.toNat_of_nonneg h0]
  · rw [Blob.length, hlength]

/-- A blob is made again from its own bytes. -/
theorem ofBytes_bytes_self (d : Blob) : ofBytes d.bytes d.length = .ok d := by
  obtain ⟨e, he, hlength, hbits⟩ := ofBytes_ok (Int.natCast_nonneg _) (length_bytes d).ge
  rw [Int.natCast_inj.mp hlength, take_ofBytes_bytes] at hbits
  rw [he]
  exact congrArg (fun bits => Except.ok (mk bits)) hbits

/-! ## Blobs of numbers -/

theorem eq_iff_toNat_eq : d = e ↔ d.length = e.length ∧ d.toNat = e.toNat := by
  constructor
  · rintro rfl
    exact ⟨rfl, rfl⟩
  · rintro ⟨hlength, hnat⟩
    cases d
    cases e
    exact congrArg mk (Bits.eq_of_toNat_eq hlength hnat)

theorem eq_iff_bytes_eq : d = e ↔ d.bytes = e.bytes ∧ d.length = e.length := by
  constructor
  · rintro rfl
    exact ⟨rfl, rfl⟩
  · rintro ⟨hbytes, hlength⟩
    have hd := ofBytes_bytes_self d
    rw [hbytes, hlength, ofBytes_bytes_self e] at hd
    exact (Except.ok.inj hd).symm

theorem ofInt_ok (value : Int) (n : Nat) : ofInt value n = .ok ⟨Bits.ofInt n value⟩ := by
  rw [ofInt, if_neg (by omega), Int.toNat_natCast]

theorem ofInt_toNat_self (d : Blob) : ofInt d.toNat d.length = .ok d := by
  rw [ofInt_ok, toNat, length, Bits.ofInt_toNat d.bits rfl]

/-! ## Blobs of a reader -/

/-- A reader gives the blob and the number of the same bits, or neither. -/
theorem read_blob_uint (r : Reader) {n : Int} (h : 1 ≤ n) :
    (n ≤ r.remaining → ∃ d, Access.blob n r = .ok d (r.skip n.toNat) ∧ (d.length : Int) = n ∧
      Access.uint n r = .ok (d.toNat : Int) (r.skip n.toNat)) ∧
    (r.remaining < n → ∃ why, Access.blob n r = .error why r ∧ Access.uint n r = .error why r) := by
  have hblob : (BitField.blob n).Possible := by
    show 0 ≤ n
    omega
  have huint : (BitField.uint n).Possible := h
  constructor
  · intro hle
    have hsize : n.toNat ≤ r.remaining := by omega
    refine ⟨_, BitField.read_complete hblob hsize, ?_, BitField.read_complete huint hsize⟩
    show (((r.rest.take n.toNat).length : Nat) : Int) = n
    rw [List.length_take, Reader.length_rest, min_eq_left hsize]
    omega
  · intro hlt
    have hsize : r.remaining < n.toNat := by omega
    exact ⟨_, BitField.read_exhausted (f := .blob n) trivial hblob hsize,
      BitField.read_exhausted (f := .uint n) trivial huint hsize⟩

/-! ## The laws of blobs -/

/-- Blobs of bytes, of numbers and of the bits of a reader: when there is one, what it holds, and
which of them are equal. -/
theorem canonical :
    (∀ (bytes : List UInt8) (length : Int),
      (∀ why, ofBytes bytes length = .error why ↔
        length < 0 ∧ why = .negativeLength ∨
          0 ≤ length ∧ (bytes.length : Int) < byteCount length ∧
            why = .tooFewBytes length bytes.length) ∧
      (0 ≤ length → byteCount length ≤ bytes.length →
        ∃ d, ofBytes bytes length = .ok d ∧ (d.length : Int) = length ∧
          (d.bytes.length : Int) = byteCount length ∧
          Bits.ofBytes d.bytes = (Bits.ofBytes bytes).take d.length ++
            Bits.zeros (8 * d.bytes.length - d.length) ∧
          ofBytes d.bytes d.length = .ok d)) ∧
    (∀ d e : Blob, (d = e ↔ d.length = e.length ∧ d.toNat = e.toNat) ∧
      (d = e ↔ d.bytes = e.bytes ∧ d.length = e.length)) ∧
    (∀ (value : Int) (n : Nat), ∃ d, ofInt value n = .ok d ∧ d.length = n ∧
      (d.toNat : Int) = value % 2 ^ n ∧
      (bytesToNat d.bytes : Int) = value % 2 ^ n * 2 ^ (8 * d.bytes.length - n)) ∧
    (∀ d : Blob, ofInt d.toNat d.length = .ok d ∧
      d.toNat = bytesToNat d.bytes / 2 ^ (8 * d.bytes.length - d.length)) ∧
    ∀ (r : Reader) (n : Int), 1 ≤ n →
      (n ≤ r.remaining → ∃ d, Access.blob n r = .ok d (r.skip n.toNat) ∧ (d.length : Int) = n ∧
        Access.uint n r = .ok (d.toNat : Int) (r.skip n.toNat)) ∧
      (r.remaining < n → ∃ why, Access.blob n r = .error why r ∧
        Access.uint n r = .error why r) := by
  refine ⟨fun bytes length => ⟨fun why => ofBytes_eq_error_iff, fun h0 hle => ?_⟩,
    fun d e => ⟨eq_iff_toNat_eq, eq_iff_bytes_eq⟩, fun value n => ?_,
    fun d => ⟨ofInt_toNat_self d, ?_⟩, fun r n h => read_blob_uint r h⟩
  · obtain ⟨d, hd, hlength, hbits⟩ := ofBytes_ok h0 hle
    refine ⟨d, hd, hlength, ?_, ?_, ofBytes_bytes_self d⟩
    · rw [length_bytes, hlength]
    · rw [← hbits, ← fillBits_eq_sub, ofBytes_bytes]
  · have hlength : (Blob.mk (Bits.ofInt n value)).length = n := Bits.length_ofInt n value
    have hnat : ((Blob.mk (Bits.ofInt n value)).toNat : Int) = value % 2 ^ n :=
      Bits.toNat_ofInt n value
    refine ⟨_, ofInt_ok value n, hlength, hnat, ?_⟩
    rw [bytesToNat_bytes, hlength, Nat.cast_mul, hnat]
    norm_cast
  · rw [bytesToNat_bytes, Nat.mul_div_cancel _ (Nat.two_pow_pos _)]

/-- Eleven bits of three bytes are those of a number and those that a reader takes behind the first
character of an armor text. -/
theorem canonical_eleven_bits :
    let d : Blob := ⟨[true, true, true, true, true, true, true, true, true, false, true]⟩
    let r : Reader := ⟨Bits.zeros 6 ++ d.bits ++ [false], 18, 6, by decide, by decide⟩
    ofBytes [0xFF, 0xBF, 7] 11 = .ok d ∧ ofBytes d.bytes 11 = .ok d ∧ d.bytes.length = 2 ∧
      ofInt (-3) 11 = .ok d ∧ d.toNat = 2045 ∧
      ∃ r', Access.blob 11 r = .ok d r' ∧ Access.uint 11 r = .ok 2045 r' := by
  intro d r
  obtain ⟨hbytes, hequal, hint, -, hread⟩ := canonical
  obtain ⟨e, he, -, hcount, -, hagain⟩ := (hbytes [0xFF, 0xBF, 7] 11).2 (by decide) (by decide)
  obtain rfl : d = e := Except.ok.inj he
  obtain ⟨f, hf, hlength, hnat, -⟩ := hint (-3) 11
  obtain rfl : f = d := (hequal f d).1.mpr ⟨hlength, Int.natCast_inj.mp hnat⟩
  obtain ⟨g, hg, -, hgnat⟩ := (hread r 11 (by decide)).1 (by decide)
  obtain rfl : d = g := (EStateM.Result.ok.inj hg).1
  exact ⟨he, hagain, Int.natCast_inj.mp hcount, hf, rfl, _, hg, hgnat⟩

end Blob

end AisStation
