import AisStation.Message.View
import AisStation.Proofs.Gateway.Switches
import AisStation.Proofs.Number.Rounding
import AisStation.Proofs.Validated
import AisStation.Proofs.Validated.Decoded

/-!
# Courses, headings and seconds of accepted records

A gateway that validates its lines returns records whose views are physical: a course from 0 to
below 360 degrees, a heading from 0 to 359 degrees, a second from 0 to 59. One kind of record
escapes. The range of a course is that of tenths of a degree, and a long-range broadcast has its
course in whole degrees, so that its courses from 360 to 510 degrees pass.
-/

namespace AisStation

open Validation

/-- The rational that a measure is. -/
def Measure.value? : Measure → Option ℚ
  | whole n => some n
  | real x => x.value?

namespace Message

variable {m : Message}

/-- The course in degrees that the raw course of a report stands for. -/
def denotedCourse? : Message → Option ℚ
  | positionReport r => some ((r.cog : ℚ) / 10)
  | standardClassBPositionReport r => some ((r.cog : ℚ) / 10)
  | extendedClassBPositionReport r => some ((r.cog : ℚ) / 10)
  | sarAircraftPositionReport r => some ((r.cog : ℚ) / 10)
  | longRangeBroadcast r => some (r.cog : ℚ)
  | _ => none

/-- A long-range broadcast with a course beyond the circle. The course 511 stands for none. -/
def ExceedsCircle : Message → Prop
  | longRangeBroadcast r => 360 ≤ r.cog ∧ r.cog ≤ 510
  | _ => False

/-- A record with a course has it in tenths, or it is a long-range broadcast. -/
theorem course?_cases {x : Except NumberError (Option Measure)} (h : m.course? = some x) :
    (∃ raw : Int, x = inTenths (Quantity.courseDegrees raw) ∧
      m.denotedCourse? = some ((raw : ℚ) / 10) ∧
      m.wireFields.lookup "cog" = some (.number raw) ∧ ¬m.ExceedsCircle) ∨
    ∃ r, m = longRangeBroadcast r ∧ x = .ok ((Quantity.longRangeCourse? r.cog).map .whole) := by
  cases m with
  | positionReport r => exact .inl ⟨r.cog, (Option.some.inj h).symm, rfl, rfl, id⟩
  | standardClassBPositionReport r => exact .inl ⟨r.cog, (Option.some.inj h).symm, rfl, rfl, id⟩
  | extendedClassBPositionReport r => exact .inl ⟨r.cog, (Option.some.inj h).symm, rfl, rfl, id⟩
  | sarAircraftPositionReport r => exact .inl ⟨r.cog, (Option.some.inj h).symm, rfl, rfl, id⟩
  | longRangeBroadcast r => exact .inr ⟨r, rfl, (Option.some.inj h).symm⟩
  | _ => contradiction

theorem lookup_heading {x : Option Int} (h : m.trueHeading? = some x) :
    ∃ raw, m.wireFields.lookup "heading" = some (.number raw) ∧ x = Quantity.heading? raw := by
  cases m with
  | positionReport r => exact ⟨r.heading, rfl, (Option.some.inj h).symm⟩
  | standardClassBPositionReport r => exact ⟨r.heading, rfl, (Option.some.inj h).symm⟩
  | extendedClassBPositionReport r => exact ⟨r.heading, rfl, (Option.some.inj h).symm⟩
  | _ => contradiction

theorem lookup_second {raw : Int} (h : m.timeStamp? = some raw) :
    m.wireFields.lookup "second" = some (.number raw) := by
  cases m with
  | positionReport r => exact congrArg (some ∘ FieldValue.number) (Option.some.inj h)
  | sarAircraftPositionReport r => exact congrArg (some ∘ FieldValue.number) (Option.some.inj h)
  | standardClassBPositionReport r => exact congrArg (some ∘ FieldValue.number) (Option.some.inj h)
  | extendedClassBPositionReport r => exact congrArg (some ∘ FieldValue.number) (Option.some.inj h)
  | aidToNavigationReport r => exact congrArg (some ∘ FieldValue.number) (Option.some.inj h)
  | _ => contradiction

/-- A heading that was let through is below 360 degrees, or it is not available. -/
theorem heading_of_findings (hvalid : m.findings = []) {x : Option Int}
    (h : m.trueHeading? = some x) :
    ∃ raw, m.wireFields.lookup "heading" = some (.number raw) ∧ (x = none ↔ raw = 511) ∧
      ∀ n ∈ x, n = raw ∧ 0 ≤ n ∧ n ≤ 359 := by
  obtain ⟨raw, hlookup, rfl⟩ := lookup_heading h
  have hcheck : checkHeading raw = [] := by
    simp only [findings, List.append_eq_nil_iff] at hvalid
    obtain ⟨⟨⟨-, hnumber⟩, -⟩, -⟩ := hvalid
    rw [toFields_eq_append, checkNumber, List.lookup_append, hlookup, Option.some_or] at hnumber
    exact hnumber
  refine ⟨raw, hlookup, ?_, ?_⟩
  · simp [Quantity.heading?]
  · intro n hn
    unfold Quantity.heading? at hn
    unfold checkHeading at hcheck
    split_ifs at hn hcheck
    · contradiction
    · obtain rfl := Option.some.inj hn
      omega

/-- A second is available exactly if the status of the time stamp says so. -/
theorem second_of_findings (hvalid : m.findings = []) {second : Option Int}
    (h : m.utcSecond? = some second) :
    ∃ status, m.timeStampStatus? = some status ∧ (second = none ↔ status ≠ .valid) ∧
      ∀ n ∈ second, m.timeStamp? = some n ∧ 0 ≤ n ∧ n ≤ 59 := by
  obtain ⟨raw, hstamp, rfl⟩ := Option.map_eq_some_iff.mp h
  have hbounds := bounds_of_findings hvalid (rfl : bounds? "second" = some (0, 63))
    (lookup_second hstamp)
  refine ⟨Quantity.timeStampStatus raw, by rw [timeStampStatus?, hstamp]; rfl, ?_, ?_⟩
  · unfold Quantity.utcSecond? Quantity.timeStampStatus
    split_ifs <;> simp
  · intro n hn
    unfold Quantity.utcSecond? at hn
    split_ifs at hn with hvalid
    · obtain rfl := Option.some.inj hn
      exact ⟨hstamp, by omega⟩
    · contradiction

/-! ## Courses -/

/-- A course in tenths is missing at 3600, and below it is on the circle. -/
theorem courseDegrees_cases {raw : Int} (hlow : 0 ≤ raw) (hhigh : raw ≤ 3600) :
    raw = 3600 ∧ Quantity.courseDegrees raw = .ok none ∨
    raw ≤ 3599 ∧ ∃ x v, Quantity.courseDegrees raw = .ok (some x) ∧ x.value? = some v ∧
      |v - raw / 10| ≤ (raw : ℚ) / 10 / 2 ^ 53 ∧ 0 ≤ v ∧ v < 360 := by
  unfold Quantity.courseDegrees
  split_ifs with hnone
  · exact .inl ⟨by omega, rfl⟩
  · have hbits : raw.natAbs < 2 ^ 53 := by omega
    obtain ⟨x, v, htenths, hv, hnear⟩ := Quantity.tenths_eq hbits
    have hnonneg : (0 : ℚ) ≤ raw / 10 := by positivity
    have hle : (raw : ℚ) ≤ 3599 := by
      exact_mod_cast Int.lt_add_one_iff.mp (lt_of_not_ge hnone)
    rw [abs_of_nonneg hnonneg] at hnear
    obtain ⟨hbelow, habove⟩ := abs_le.mp hnear
    exact .inr ⟨by omega, x, v, by rw [htenths]; rfl, hv, hnear, by linarith, by linarith⟩

/-- The field of a long-range broadcast holds no course above 511. -/
theorem cog_of_fitsHead {r : LongRangeBroadcast} (hhead : (longRangeBroadcast r).FitsHead) :
    r.cog < 512 := by
  obtain ⟨-, -, -, -, -, -, -, -, hcog, -⟩ := hhead
  exact hcog.2

/-- A course that was let through is on the circle, unless a long-range broadcast has it. -/
theorem course_of_findings (hvalid : m.findings = []) (hhead : m.FitsHead)
    {x : Except NumberError (Option Measure)} (h : m.course? = some x) :
    ∃ view d, x = .ok view ∧ m.denotedCourse? = some d ∧ 0 ≤ d ∧
      (view = none ↔ 360 ≤ d ∧ ¬m.ExceedsCircle) ∧
      ∀ c ∈ view, ∃ v, c.value? = some v ∧ |v - d| ≤ d / 2 ^ 53 ∧ 0 ≤ v ∧
        (d < 360 ↔ ¬m.ExceedsCircle) ∧ (v < 360 ↔ ¬m.ExceedsCircle) := by
  have hbounds {raw : Int} (hlookup : m.wireFields.lookup "cog" = some (.number raw)) :
      0 ≤ raw ∧ raw ≤ 3600 :=
    bounds_of_findings hvalid (rfl : bounds? "cog" = some (0, 3600)) hlookup
  rcases course?_cases h with ⟨raw, rfl, hdenoted, hlookup, hcircle⟩ | ⟨r, rfl, rfl⟩
  · obtain ⟨hlow, hhigh⟩ := hbounds hlookup
    have hnonneg : (0 : ℚ) ≤ raw / 10 := by positivity
    rcases courseDegrees_cases hlow hhigh with
      ⟨rfl, hview⟩ | ⟨hle, number, v, hview, hv, hnear, hpos, hlt⟩
    · refine ⟨none, _, by rw [hview]; rfl, hdenoted, hnonneg, ?_, ?_⟩
      · exact iff_of_true rfl ⟨by norm_num, hcircle⟩
      · exact fun c hc => absurd hc (Option.not_mem_none c)
    · have hdlt : (raw : ℚ) / 10 < 360 := by
        have hle' : (raw : ℚ) ≤ 3599 := by
          exact_mod_cast hle
        linarith
      refine ⟨some (.real number), _, by rw [hview]; rfl, hdenoted, hnonneg, ?_, ?_⟩
      · exact iff_of_false (Option.some_ne_none _) fun hd => absurd hdlt (not_lt.mpr hd.1)
      · intro c hc
        obtain rfl := Option.some.inj hc
        exact ⟨v, hv, hnear, hpos, iff_of_true hdlt hcircle, iff_of_true hlt hcircle⟩
  · obtain ⟨hlow, -⟩ := hbounds (lookup_cog r).1
    have hhigh := cog_of_fitsHead hhead
    have hnonneg : (0 : ℚ) ≤ r.cog := by
      exact_mod_cast hlow
    unfold Quantity.longRangeCourse? ExceedsCircle
    split_ifs with hnone
    · refine ⟨none, r.cog, rfl, rfl, hnonneg, ?_, ?_⟩
      · exact iff_of_true rfl ⟨by rw [hnone]; norm_num, by omega⟩
      · exact fun c hc => absurd hc (Option.not_mem_none c)
    · have hcircle : (r.cog : ℚ) < 360 ↔ ¬(360 ≤ r.cog ∧ r.cog ≤ 510) := by
        norm_cast
        omega
      refine ⟨some (.whole r.cog), r.cog, rfl, rfl, hnonneg, ?_, ?_⟩
      · rw [← hcircle, ← not_lt]
        simp
      · intro c hc
        obtain rfl := Option.some.inj hc
        refine ⟨r.cog, rfl, ?_, hnonneg, hcircle, hcircle⟩
        rw [sub_self, abs_zero]
        positivity

end Message

/-- The views of a record that a validating gateway returns are physical. The course is the one that
the raw value denotes, in tenths of a degree or, for a long-range broadcast, in whole degrees, up to
one rounding; it is at least 0 degrees, and below 360 degrees except for the courses from 360 to 510
degrees of long-range broadcasts. The heading is one from 0 to 359 degrees, missing only at 511. A
second is missing exactly if the status of the time stamp is not that of a valid one. -/
theorem Gateway.physical_of_processLine {g : Gateway} {line : String} {m : Message}
    (hvalidate : g.config.validateInbound = true) (h : (g.processLine line).1 = some m) :
    (∀ x, m.course? = some x → ∃ view d, x = .ok view ∧ m.denotedCourse? = some d ∧ 0 ≤ d ∧
      (view = none ↔ 360 ≤ d ∧ ¬m.ExceedsCircle) ∧
      ∀ c ∈ view, ∃ v, c.value? = some v ∧ |v - d| ≤ d / 2 ^ 53 ∧ 0 ≤ v ∧
        (d < 360 ↔ ¬m.ExceedsCircle) ∧ (v < 360 ↔ ¬m.ExceedsCircle)) ∧
    (∀ x, m.trueHeading? = some x → ∃ raw,
      m.wireFields.lookup "heading" = some (.number raw) ∧ (x = none ↔ raw = 511) ∧
      ∀ n ∈ x, n = raw ∧ 0 ≤ n ∧ n ≤ 359) ∧
    (∀ second, m.utcSecond? = some second → ∃ status, m.timeStampStatus? = some status ∧
      (second = none ↔ status ≠ .valid) ∧
      ∀ n ∈ second, m.timeStamp? = some n ∧ 0 ≤ n ∧ n ≤ 59) := by
  have hstages := g.config.stages_receive line
  rw [processLine] at h
  generalize g.config.receive line = result at h hstages
  cases hstages with
  | decoded hparse hwhole htakes hdecode hadmits =>
    obtain rfl := Option.some.inj h
    obtain ⟨-, -, -, -, -, -, -, -, hcanonical⟩ :=
      exists_of_decode (decode_eq_ok_iff_result.mpr hdecode)
    have hvalid := hadmits.resolve_right (by rw [hvalidate]; decide)
    exact ⟨fun x hx => Message.course_of_findings hvalid hcanonical.head hx,
      fun x hx => Message.heading_of_findings hvalid hx,
      fun second hs => Message.second_of_findings hvalid hs⟩
  | _ => contradiction

/-- A moored ship with the course 51 degrees. -/
theorem Gateway.physical_of_processLine_moored :
    let g : Gateway := {}
    let line := "!AIVDM,1,1,,B,177KQJ5000G?tO`K>RA1wUbN0TKH,0*5C"
    let m : Message := .positionReport {
      mmsi := 477553000, navStatus := 5, rot := 0, sog := 0
      position := ⟨195027956, 28549700⟩, cog := 510, heading := 181, second := 15
      radio := 149208 }
    g.config.validateInbound = true ∧ (g.processLine line).1 = some m ∧
      (∃ c v, m.course? = some (.ok (some c)) ∧ c.value? = some v ∧ |v - 51| ≤ 51 / 2 ^ 53 ∧
        0 ≤ v ∧ v < 360) ∧
      m.trueHeading? = some (some 181) ∧ m.utcSecond? = some (some 15) ∧
      m.timeStampStatus? = some .valid := by
  intro g line m
  have h : (g.processLine line).1 = some m := by decide +kernel
  obtain ⟨hcourse, -, hsecond⟩ := physical_of_processLine (g := g) rfl h
  obtain ⟨view, d, hview, hdenoted, -, hmissing, hshown⟩ := hcourse _ rfl
  have hcog : m.denotedCourse? = some (51 : ℚ) := by decide +kernel
  obtain rfl := Option.some.inj (hcog.symm.trans hdenoted)
  obtain ⟨c, rfl⟩ : ∃ c, view = some c := by
    refine Option.ne_none_iff_exists'.mp fun hnone => ?_
    exact absurd (hmissing.mp hnone).1 (by norm_num)
  obtain ⟨v, hv, hnear, hnonneg, -, hlt⟩ := hshown c rfl
  obtain ⟨status, hstatus, hnone, -⟩ := hsecond (some 15) rfl
  have hvalid : status = .valid := by
    by_contra hne
    exact absurd (hnone.mpr hne) (by decide)
  exact ⟨rfl, h, ⟨c, v, congrArg some hview, hv, hnear, hnonneg, hlt.mpr id⟩, rfl, rfl,
    hvalid ▸ hstatus⟩

/-- A long-range broadcast with a course of 400 degrees passes validation, and so its view says. -/
theorem Gateway.not_physical_longRangeBroadcast :
    let g : Gateway := {}
    let m : Message := .longRangeBroadcast { mmsi := 235009802, sog := 12, cog := 400 }
    g.config.validateInbound = true ∧
      (g.processLine "!AIVDM,1,1,,A,K3P7o2Sn`>6bT6I0,0*48").1 = some m ∧
      m.course? = some (.ok (some (.whole 400))) := by
  decide +kernel

end AisStation
