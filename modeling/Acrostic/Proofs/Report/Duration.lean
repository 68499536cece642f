import Acrostic.Proofs.Report.Rounding
import Acrostic.Proofs.Text.Decimal
import Acrostic.Report.Duration

namespace Acrostic.Report

-- What a text shows of a duration
inductive Clock where
  | ofSeconds (whole tenths : Nat)
  | ofMinutes (minutes seconds : Nat)
  | ofHours (hours minutes : Nat)

namespace Clock

def text : Clock → List Char
  | ofSeconds whole tenths => Text.natural whole ++ '.' :: (Text.natural tenths ++ ['s'])
  | ofMinutes minutes seconds =>
    Text.natural minutes ++ 'm' :: ' ' :: (Text.natural seconds ++ ['s'])
  | ofHours hours minutes => Text.natural hours ++ 'h' :: ' ' :: (Text.natural minutes ++ ['m'])

-- The time that is shown, in seconds
def time : Clock → Rat
  | ofSeconds whole tenths => whole + tenths / 10
  | ofMinutes minutes seconds => 60 * minutes + seconds
  | ofHours hours minutes => 3600 * hours + 60 * minutes

-- One unit of the last place that is shown, in seconds
def lastPlace : Clock → Rat
  | ofSeconds _ _ => 1 / 10
  | ofMinutes _ _ => 1
  | ofHours _ _ => 60

-- No place shows as much as makes one unit of the place in front of it, which shows something
-- unless it is that of the seconds.
def InRange : Clock → Prop
  | ofSeconds whole tenths => whole < 60 ∧ tenths < 10
  | ofMinutes minutes seconds => 1 ≤ minutes ∧ minutes < 60 ∧ seconds < 60
  | ofHours hours minutes => 1 ≤ hours ∧ minutes < 60

-- A text shows one time only.
theorem text_injective {clock other : Clock} (h : clock.text = other.text) : clock = other := by
  cases clock with
  | ofSeconds whole tenths =>
    cases other with
    | ofSeconds =>
      obtain ⟨rfl, -, hrest⟩ := Text.natural_append_inj (by decide) (by decide) h
      rw [Text.natural_injective (List.append_cancel_right hrest)]
    | ofMinutes | ofHours =>
      exact absurd (Text.natural_append_inj (by decide) (by decide) h).2.1 (by decide)
  | ofMinutes minutes seconds =>
    cases other with
    | ofMinutes =>
      obtain ⟨rfl, -, hrest⟩ := Text.natural_append_inj (by decide) (by decide) h
      rw [Text.natural_injective (List.append_cancel_right (List.cons.inj hrest).2)]
    | ofSeconds | ofHours =>
      exact absurd (Text.natural_append_inj (by decide) (by decide) h).2.1 (by decide)
  | ofHours hours minutes =>
    cases other with
    | ofHours =>
      obtain ⟨rfl, -, hrest⟩ := Text.natural_append_inj (by decide) (by decide) h
      rw [Text.natural_injective (List.append_cancel_right (List.cons.inj hrest).2)]
    | ofSeconds | ofMinutes =>
      exact absurd (Text.natural_append_inj (by decide) (by decide) h).2.1 (by decide)

end Clock

namespace Duration

-- The duration itself, in seconds
def time (duration : Duration) : Rat :=
  duration.seconds + duration.nanoseconds / nanosecondsPerSecond

-- How many tenths of a second the measured time comes to
def tenths (duration : Duration) : Nat :=
  (roundEven (duration.measure * 10)).toNat

def clock (duration : Duration) : Clock :=
  if duration.seconds < 60 then .ofSeconds (duration.tenths / 10) (duration.tenths % 10)
  else if duration.seconds < 3600 then
    .ofMinutes (duration.seconds / 60) (duration.seconds % 60)
  else .ofHours (duration.seconds / 3600) (duration.seconds % 3600 / 60)

-- The last twentieth of a second before the minute
def RoundsToMinute (duration : Duration) : Prop :=
  duration.seconds = 59 ∧ 950_000_000 ≤ duration.nanoseconds

section Measure

variable (duration : Duration)

theorem time_bounds :
    (duration.seconds : Rat) ≤ duration.time ∧
      duration.time ≤ duration.seconds + 999_999_999 / 1_000_000_000 := by
  have hnonneg : (0 : Rat) ≤ duration.nanoseconds := Nat.cast_nonneg _
  have hlt : (duration.nanoseconds : Rat) ≤ 999_999_999 :=
    Nat.cast_le_ofNat.mpr (Nat.le_of_lt_succ duration.nanoseconds_lt)
  simp only [time, nanosecondsPerSecond]
  push_cast
  constructor <;> linarith

-- Three roundings make up the error of a measured time.
theorem abs_measure_sub_time_le :
    |duration.measure - duration.time| ≤ 3 * duration.time / 2 ^ precision := by
  have hseconds : (0 : Rat) ≤ duration.seconds := Nat.cast_nonneg _
  have hfraction : (0 : Rat) ≤ duration.nanoseconds / nanosecondsPerSecond := by positivity
  have hwhole := abs_le.mp (abs_toPrecision_sub_le hseconds)
  have hpart := abs_le.mp (abs_toPrecision_sub_le hfraction)
  simp only [measure, time, precision] at *
  generalize toPrecision duration.seconds = whole at *
  generalize toPrecision (duration.nanoseconds / nanosecondsPerSecond) = part at *
  have hsum : 0 ≤ whole + part := by linarith
  have hmeasure := abs_le.mp (abs_toPrecision_sub_le hsum)
  simp only [precision] at hmeasure
  rw [abs_le]
  constructor <;> linarith

end Measure

section Tenths

variable {duration : Duration}

-- Tenths are rounded, and the error of the measured time adds next to nothing.
theorem abs_tenths_sub_lt (h : duration.seconds < 60) :
    |(duration.tenths : Rat) - duration.time * 10| < 1 / 2 + 1 / 1_000_000_000 := by
  have hseconds : (duration.seconds : Rat) ≤ 59 := Nat.cast_le_ofNat.mpr (Nat.le_of_lt_succ h)
  have hnonneg : (0 : Rat) ≤ duration.seconds := Nat.cast_nonneg _
  obtain ⟨hlow, hhigh⟩ := duration.time_bounds
  have hmeasure := abs_le.mp duration.abs_measure_sub_time_le
  have hround := abs_le.mp (abs_roundEven_sub_le (duration.measure * 10))
  have hpos : 0 ≤ roundEven (duration.measure * 10) := by
    have hmore : (-1 : Rat) < roundEven (duration.measure * 10) := by
      simp only [precision] at hmeasure
      linarith
    have hint : -1 < roundEven (duration.measure * 10) := by exact_mod_cast hmore
    omega
  have hcast : (duration.tenths : Rat) = roundEven (duration.measure * 10) := by
    rw [tenths, ← Int.cast_natCast, Int.toNat_of_nonneg hpos]
  simp only [precision] at hmeasure
  rw [hcast, abs_lt]
  constructor <;> linarith

theorem tenths_le (h : duration.seconds < 60) : duration.tenths ≤ 600 := by
  have hseconds : (duration.seconds : Rat) ≤ 59 := Nat.cast_le_ofNat.mpr (Nat.le_of_lt_succ h)
  have htime := duration.time_bounds.2
  have htenths := (abs_lt.mp (abs_tenths_sub_lt h)).2
  have hlt : (duration.tenths : Rat) < 601 := by linarith
  exact Nat.le_of_lt_succ (Nat.cast_lt_ofNat.mp hlt)

theorem tenths_lt_of_not (h : duration.seconds < 60) (hnot : ¬ duration.RoundsToMinute) :
    duration.tenths < 600 := by
  have htime : duration.time ≤ 59 + 949_999_999 / 1_000_000_000 := by
    by_cases hlast : duration.seconds = 59
    · have hnanoseconds : (duration.nanoseconds : Rat) ≤ 949_999_999 := by
        have hlt : ¬ 950_000_000 ≤ duration.nanoseconds := fun hle => hnot ⟨hlast, hle⟩
        exact Nat.cast_le_ofNat.mpr (by omega)
      simp only [time, hlast, nanosecondsPerSecond]
      push_cast
      linarith
    · have hseconds : (duration.seconds : Rat) ≤ 58 := Nat.cast_le_ofNat.mpr (by omega)
      linarith [duration.time_bounds.2]
  have htenths := (abs_lt.mp (abs_tenths_sub_lt h)).2
  have hlt : (duration.tenths : Rat) < 600 := by linarith
  exact Nat.cast_lt_ofNat.mp hlt

-- Where the twentieth begins it takes the measured time itself, which is a little more.
theorem tenths_lastTwentieth : (ofParts 59 950_000_000).tenths = 600 := by
  decide +kernel

theorem tenths_of_roundsToMinute (h : duration.RoundsToMinute) : duration.tenths = 600 := by
  obtain ⟨hseconds, hnanoseconds⟩ := h
  by_cases hfirst : duration.nanoseconds = 950_000_000
  · obtain ⟨seconds, nanoseconds, hlt⟩ := duration
    obtain rfl : seconds = 59 := hseconds
    obtain rfl : nanoseconds = 950_000_000 := hfirst
    exact tenths_lastTwentieth
  · have hlt : duration.seconds < 60 := by omega
    have hmore : (950_000_001 : Rat) ≤ duration.nanoseconds := Nat.ofNat_le_cast.mpr (by omega)
    have htenths := (abs_lt.mp (abs_tenths_sub_lt hlt)).1
    simp only [time, hseconds, nanosecondsPerSecond] at htenths
    push_cast at htenths
    have hpast : (599 : Rat) < duration.tenths := by linarith
    exact Nat.le_antisymm (tenths_le hlt) (Nat.ofNat_lt_cast.mp hpast)

end Tenths

section Clock

variable (duration : Duration)

theorem fixed_one (value : Rat) :
    fixed 1 value =
      Text.natural ((roundEven (value * 10)).toNat / 10) ++
        '.' :: Text.natural ((roundEven (value * 10)).toNat % 10) := by
  have hpad (value : Nat) : padStart 1 (Text.natural value) = Text.natural value := by
    have hlength : 1 - (Text.natural value).length = 0 :=
      Nat.sub_eq_zero_of_le (List.length_pos_of_ne_nil (Text.natural_ne_nil value))
    rw [padStart, hlength, List.replicate_zero, List.nil_append]
  have hscale : ((Nat.pow 10 1 : Nat) : Rat) = 10 := by norm_num
  simp only [fixed, hscale, hpad]

theorem text_eq_clock : duration.text = duration.clock.text := by
  simp only [text, clock]
  split_ifs
  · rw [fixed_one]
    simp [Clock.text, tenths]
  · simp [Clock.text]
  · simp [Clock.text]

-- What the text of a duration shows is off by less than one unit of its last place.
theorem abs_time_clock_sub_lt :
    |duration.clock.time - duration.time| < duration.clock.lastPlace := by
  obtain ⟨hlow, hhigh⟩ := duration.time_bounds
  simp only [clock]
  split_ifs with hminute hhour
  · have htenths := abs_lt.mp (abs_tenths_sub_lt hminute)
    have hsplit : (duration.tenths : Rat) =
        10 * (duration.tenths / 10 : Nat) + (duration.tenths % 10 : Nat) := by
      exact_mod_cast (Nat.div_add_mod duration.tenths 10).symm
    simp only [Clock.time, Clock.lastPlace]
    rw [abs_lt]
    constructor <;> linarith
  · have hsplit : (duration.seconds : Rat) =
        60 * (duration.seconds / 60 : Nat) + (duration.seconds % 60 : Nat) := by
      exact_mod_cast (Nat.div_add_mod duration.seconds 60).symm
    simp only [Clock.time, Clock.lastPlace]
    rw [abs_lt]
    constructor <;> linarith
  · have hsplit : (duration.seconds : Rat) = 3600 * (duration.seconds / 3600 : Nat) +
        60 * (duration.seconds % 3600 / 60 : Nat) + (duration.seconds % 60 : Nat) := by
      exact_mod_cast show duration.seconds = 3600 * (duration.seconds / 3600) +
        60 * (duration.seconds % 3600 / 60) + duration.seconds % 60 by omega
    have hrest : ((duration.seconds % 60 : Nat) : Rat) ≤ 59 :=
      Nat.cast_le_ofNat.mpr (by omega)
    have hnonneg : (0 : Rat) ≤ (duration.seconds % 60 : Nat) := Nat.cast_nonneg _
    simp only [Clock.time, Clock.lastPlace]
    rw [abs_lt]
    constructor <;> linarith

theorem inRange_clock_iff : duration.clock.InRange ↔ ¬ duration.RoundsToMinute := by
  unfold clock
  split_ifs with hminute hhour
  · constructor
    · rintro ⟨hwhole, -⟩ hrounds
      rw [tenths_of_roundsToMinute hrounds] at hwhole
      omega
    · intro hnot
      have htenths := tenths_lt_of_not hminute hnot
      exact ⟨by omega, by omega⟩
  · refine iff_of_true ⟨?_, ?_, ?_⟩ fun hrounds => ?_
    · omega
    · omega
    · omega
    · exact hminute (by rw [hrounds.1]; decide)
  · refine iff_of_true ⟨?_, ?_⟩ fun hrounds => ?_
    · omega
    · omega
    · exact hminute (by rw [hrounds.1]; decide)

-- The text of a duration shows one time, which is off by less than one unit of the last place that
-- is shown. Its places are within their ranges, except that the last twentieth of a second before
-- the minute is shown as sixty seconds.
theorem exists_clock_text_eq :
    ∃ clock : Clock, (∀ other : Clock, other.text = duration.text ↔ other = clock) ∧
      |clock.time - duration.time| < clock.lastPlace ∧
      (clock.InRange ↔ ¬ duration.RoundsToMinute) ∧
      (duration.RoundsToMinute → clock = .ofSeconds 60 0) := by
  refine ⟨duration.clock, fun other => ?_, duration.abs_time_clock_sub_lt,
    duration.inRange_clock_iff, fun hrounds => ?_⟩
  · rw [text_eq_clock]
    exact ⟨Clock.text_injective, congrArg Clock.text⟩
  · have hminute : duration.seconds < 60 := by
      rw [hrounds.1]
      decide
    rw [clock, if_pos hminute, tenths_of_roundsToMinute hrounds]

-- No text with its places in range is shown for this duration.
theorem not_inRange_lastTwentieth :
    ¬ ∃ clock : Clock, clock.text = (ofParts 59 950_000_000).text ∧ clock.InRange := by
  rintro ⟨clock, htext, hrange⟩
  rw [text_eq_clock] at htext
  rw [Clock.text_injective htext, inRange_clock_iff] at hrange
  exact hrange ⟨rfl, by decide⟩

end Clock

end Duration

end Acrostic.Report
