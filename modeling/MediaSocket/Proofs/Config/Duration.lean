import MediaSocket.Proofs.Config.Validation
import Mathlib.Algebra.Order.Floor.Div

/-! Spans of time in the settings. They are kept in whole units, of which there are at most as many as 64
bits can count, and up to that many units a span never gets shorter. -/

namespace MediaSocket

/-- The longest span that can be set in a unit. -/
def Span.longest (unit : Span) : Span := 18446744073709551615 * unit

namespace Config

/-- A span becomes the least whole number of units that covers it, or the longest one there is. -/
structure RoundsUp (unit : Span) (rounded : Span → Span) : Prop where
  least : ∀ d, ∃ up, IsLeast {s | unit ∣ s ∧ d ≤ s} up ∧ rounded d = min up unit.longest
  covers : ∀ d ≤ unit.longest, d ≤ rounded d ∧ rounded d < d + unit ∧ (rounded d = d ↔ unit ∣ d)
  capped : ∀ d, unit.longest < d → rounded d = unit.longest
  mono : Monotone rounded
  eq_zero_iff : ∀ d, rounded d = 0 ↔ d = 0

section Rounding

variable {unit d : Nat}

theorem toNat_unitsFor (d unit : Nat) :
    (unitsFor d unit).toNat = min (d ⌈/⌉ unit) 18446744073709551615 := by
  have hlt : min (d ⌈/⌉ unit) 18446744073709551615 < 2 ^ 64 := by omega
  exact Nat.mod_eq_of_lt hlt

/-- What a span becomes that is set in whole units. -/
def rounded (unit d : Nat) : Nat := (unitsFor d unit).toNat * unit

theorem rounded_eq_min (unit d : Nat) :
    rounded unit d = min (d ⌈/⌉ unit * unit) (Span.longest unit) := by
  rw [rounded, toNat_unitsFor]
  exact (Nat.mul_min_mul_right ..).symm

theorem isLeast_ceilDiv (pos : 0 < unit) (d : Nat) :
    IsLeast {s : Nat | unit ∣ s ∧ d ≤ s} (d ⌈/⌉ unit * unit) := by
  constructor
  · refine ⟨Nat.dvd_mul_left .., ?_⟩
    rw [Nat.mul_comm]
    exact le_smul_ceilDiv pos
  · rintro s ⟨⟨k, rfl⟩, hk⟩
    have hle : d ⌈/⌉ unit ≤ k := (ceilDiv_le_iff_le_mul pos).2 hk
    rw [Nat.mul_comm unit]
    exact Nat.mul_le_mul_right unit hle

theorem ceilDiv_mul_lt (pos : 0 < unit) (d : Nat) : d ⌈/⌉ unit * unit < d + unit := by
  have := Nat.div_mul_le_self (d + unit - 1) unit
  rw [Nat.ceilDiv_eq_add_pred_div]
  omega

theorem rounded_of_le (pos : 0 < unit) (h : d ≤ Span.longest unit) :
    rounded unit d = d ⌈/⌉ unit * unit := by
  -- the longest span is one of those that cover `d`
  have hfits : d ⌈/⌉ unit * unit ≤ Span.longest unit :=
    (isLeast_ceilDiv pos d).2 ⟨Nat.dvd_mul_left .., h⟩
  rw [rounded_eq_min, Nat.min_eq_left hfits]

theorem rounded_of_gt (pos : 0 < unit) (h : Span.longest unit < d) :
    rounded unit d = Span.longest unit := by
  have hcovers := (isLeast_ceilDiv pos d).1.2
  rw [rounded_eq_min, Nat.min_eq_right (Nat.le_trans (Nat.le_of_lt h) hcovers)]

theorem rounded_eq_self_iff (pos : 0 < unit) (h : d ≤ Span.longest unit) :
    rounded unit d = d ↔ unit ∣ d := by
  rw [rounded_of_le pos h]
  constructor
  · intro heq
    exact heq ▸ Nat.dvd_mul_left ..
  · intro hdvd
    have hle := (isLeast_ceilDiv pos d).2 ⟨hdvd, Nat.le_refl d⟩
    exact Nat.le_antisymm hle (isLeast_ceilDiv pos d).1.2

theorem unitsFor_eq_zero_iff (pos : 0 < unit) (d : Nat) : unitsFor d unit = 0 ↔ d = 0 := by
  have hcount : d ⌈/⌉ unit ≤ 0 ↔ d ≤ unit * 0 := ceilDiv_le_iff_le_mul pos
  rw [← UInt64.toNat_inj, toNat_unitsFor]
  show _ = 0 ↔ _
  omega

theorem roundsUp_rounded (pos : 0 < unit) : RoundsUp unit (rounded unit) where
  least d := ⟨_, isLeast_ceilDiv pos d, rounded_eq_min unit d⟩
  covers d h := by
    refine ⟨?_, ?_, rounded_eq_self_iff pos h⟩
    · rw [rounded_of_le pos h]
      exact (isLeast_ceilDiv pos d).1.2
    · rw [rounded_of_le pos h]
      exact ceilDiv_mul_lt pos d
  capped d h := rounded_of_gt pos h
  mono d e h := by
    have hcount := (gc_mul_ceilDiv pos).monotone_l h
    rw [rounded_eq_min, rounded_eq_min]
    exact min_le_min_right _ (Nat.mul_le_mul_right unit hcount)
  eq_zero_iff d := by
    rw [← unitsFor_eq_zero_iff pos d, ← UInt64.toNat_inj]
    show (unitsFor d unit).toNat * unit = 0 ↔ _
    rw [Nat.mul_eq_zero]
    exact or_iff_left (Nat.ne_of_gt pos)

/-- What has been rounded is a whole number of units, and is counted as it is. -/
theorem unitsFor_rounded (pos : 0 < unit) (d : Nat) :
    unitsFor (rounded unit d) unit = unitsFor d unit := by
  have hwhole : rounded unit d ⌈/⌉ unit = (unitsFor d unit).toNat := by
    rw [rounded, Nat.mul_comm]
    exact smul_ceilDiv pos _
  have hlt := (unitsFor d unit).toNat_lt
  apply UInt64.toNat_inj.1
  rw [toNat_unitsFor, hwhole]
  omega

end Rounding

end Config

/-! ### Counting in 128 bits -/

/-- A span as 64 bits of seconds and less than a second of nanoseconds. -/
structure Duration where
  seconds : UInt64
  nanos : UInt32
  nanos_lt : nanos.toNat < 1000000000

namespace Duration

def span (d : Duration) : Span := .seconds d.seconds.toNat + d.nanos.toNat

/-- A number in 128 bits, unless it overflows them. -/
def word? (n : Nat) : Option (BitVec 128) := if n < 2 ^ 128 then some (.ofNat 128 n) else none

def nanoseconds? (d : Duration) : Option (BitVec 128) := do
  let whole ← word? (d.seconds.toNat * 1000000000)
  word? (whole.toNat + d.nanos.toNat)

/-- The quotient, and one more if something is left. -/
def ceilDiv? (n unit : BitVec 128) : Option (BitVec 128) :=
  if n % unit = 0 then some (n / unit) else word? ((n / unit).toNat + 1)

def saturated (n : BitVec 128) : UInt64 :=
  if n.toNat < 2 ^ 64 then .ofNat n.toNat else 18446744073709551615

/-- How many units cover a duration, counted with words of 128 bits. -/
def unitsFor? (d : Duration) (unit : BitVec 128) : Option UInt64 := do
  let nanos ← d.nanoseconds?
  let count ← ceilDiv? nanos unit
  return saturated count

theorem word?_of_lt {n : Nat} (h : n < 2 ^ 128) :
    ∃ word, word? n = some word ∧ word.toNat = n :=
  ⟨_, if_pos h, Nat.mod_eq_of_lt h⟩

theorem span_lt (d : Duration) : d.span < 18446744073709551616000000000 := by
  have hseconds := d.seconds.toNat_lt
  have hnanos := d.nanos_lt
  show d.seconds.toNat * 1000000000 + d.nanos.toNat < _
  omega

theorem nanoseconds?_eq_some (d : Duration) :
    ∃ nanos, d.nanoseconds? = some nanos ∧ nanos.toNat = d.span := by
  have hseconds := d.seconds.toNat_lt
  obtain ⟨whole, hwhole, hvalue⟩ := word?_of_lt (n := d.seconds.toNat * 1000000000) (by omega)
  have hspan : whole.toNat + d.nanos.toNat = d.span := by
    rw [hvalue]
    rfl
  obtain ⟨nanos, hnanos, hvalue⟩ := word?_of_lt (Nat.lt_trans d.span_lt (by decide))
  refine ⟨nanos, ?_, hvalue⟩
  rw [nanoseconds?, hwhole]
  show word? (whole.toNat + d.nanos.toNat) = some nanos
  rw [hspan, hnanos]

theorem ceilDiv_eq_ite {unit : Nat} (pos : 0 < unit) (n : Nat) :
    n ⌈/⌉ unit = if n % unit = 0 then n / unit else n / unit + 1 := by
  have hsplit := Nat.div_add_mod n unit
  have hrest := Nat.mod_lt n pos
  rw [Nat.ceilDiv_eq_add_pred_div]
  generalize n / unit = q at *
  generalize n % unit = r at *
  subst hsplit
  split
  · have hsum : unit * q + r + unit - 1 = unit * q + (unit - 1) := by omega
    rw [hsum, Nat.mul_add_div pos, Nat.div_eq_of_lt (by omega), Nat.add_zero]
  · have hsum : unit * q + r + unit - 1 = unit * (q + 1) + (r - 1) := by
      rw [Nat.mul_add]
      omega
    rw [hsum, Nat.mul_add_div pos, Nat.div_eq_of_lt (by omega), Nat.add_zero]

theorem ceilDiv?_eq_some {n unit : BitVec 128} (pos : 0 < unit.toNat)
    (room : n.toNat + 1 < 2 ^ 128) :
    ∃ count, ceilDiv? n unit = some count ∧ count.toNat = n.toNat ⌈/⌉ unit.toNat := by
  have hzero : n % unit = 0 ↔ n.toNat % unit.toNat = 0 := by
    simp [← BitVec.toNat_inj]
  rw [ceilDiv?, ceilDiv_eq_ite pos]
  by_cases h : n % unit = 0
  · rw [if_pos h, if_pos (hzero.1 h)]
    exact ⟨_, rfl, BitVec.toNat_udiv⟩
  · rw [if_neg h, if_neg (mt hzero.2 h), BitVec.toNat_udiv]
    have hle := Nat.div_le_self n.toNat unit.toNat
    have hroom : n.toNat / unit.toNat + 1 < 2 ^ 128 := by omega
    exact word?_of_lt hroom

theorem toNat_saturated (n : BitVec 128) :
    (saturated n).toNat = min n.toNat 18446744073709551615 := by
  rw [saturated]
  split
  · rw [UInt64.toNat_ofNat', Nat.mod_eq_of_lt ‹_›]
    omega
  · have hgreatest : (18446744073709551615 : UInt64).toNat = 18446744073709551615 := by decide
    rw [hgreatest]
    omega

/-- Nothing overflows: the words count what numbers of any size would. -/
theorem unitsFor?_eq_some {unit : BitVec 128} (pos : 0 < unit.toNat) (d : Duration) :
    d.unitsFor? unit = some (Config.unitsFor d.span unit.toNat) := by
  obtain ⟨nanos, hnanos, hspan⟩ := d.nanoseconds?_eq_some
  have hlt : nanos.toNat < 18446744073709551616000000000 := hspan ▸ d.span_lt
  obtain ⟨count, hcount, hvalue⟩ := ceilDiv?_eq_some pos (n := nanos) (by omega)
  have hunits : saturated count = Config.unitsFor d.span unit.toNat := by
    apply UInt64.toNat_inj.1
    rw [toNat_saturated, Config.toNat_unitsFor, hvalue, hspan]
  rw [unitsFor?, hnanos]
  show (ceilDiv? nanos unit).bind (fun count => some (saturated count)) = _
  rw [hcount, ← hunits]
  rfl

end Duration

namespace Config

/-! ### The settings -/

-- A count is set as a variable here. Where two spans are set, Lean would evaluate both counts to compare
-- them.
def withTickMs (c : Config) (ms : UInt64) : Config := { c with tickIntervalMs := ms }

def withIdleSecs (c : Config) (secs : UInt64) : Config := { c with idleTimeoutSecs := some secs }

variable (c : Config) (d : Span)

theorem withTickMs_withTickMs (x y : UInt64) : (c.withTickMs x).withTickMs y = c.withTickMs y := rfl

theorem withIdleSecs_withIdleSecs (x y : UInt64) :
    (c.withIdleSecs x).withIdleSecs y = c.withIdleSecs y := rfl

theorem withTickInterval_eq :
    c.withTickInterval d = c.withTickMs (unitsFor d (.milliseconds 1)) := rfl

theorem withIdleTimeout_eq : c.withIdleTimeout d = c.withIdleSecs (unitsFor d (.seconds 1)) := rfl

theorem tickInterval_withTickInterval :
    (c.withTickInterval d).tickInterval = rounded (Span.milliseconds 1) d := rfl

theorem idleTimeout_withIdleTimeout :
    (c.withIdleTimeout d).idleTimeout = some (rounded (Span.seconds 1) d) := rfl

theorem withTickInterval_again :
    (c.withTickInterval d).withTickInterval (rounded (Span.milliseconds 1) d) =
      c.withTickInterval d := by
  rw [withTickInterval_eq, withTickInterval_eq c d, withTickMs_withTickMs,
    unitsFor_rounded (by decide)]

theorem withIdleTimeout_again :
    (c.withIdleTimeout d).withIdleTimeout (rounded (Span.seconds 1) d) = c.withIdleTimeout d := by
  rw [withIdleTimeout_eq, withIdleTimeout_eq c d, withIdleSecs_withIdleSecs,
    unitsFor_rounded (by decide)]

/-- The time between rounds of maintenance is rounded up to milliseconds and the idle timeout to seconds,
unless there are more than 64 bits can count. What has been rounded stays as it is, only a span of no
length is taken for zero, and 128 bits are enough to count in. -/
theorem durations_never_shortened (c : Config) :
    RoundsUp (.milliseconds 1) (fun d => (c.withTickInterval d).tickInterval) ∧
    (∃ idle, RoundsUp (.seconds 1) idle ∧
      ∀ d, (c.withIdleTimeout d).idleTimeout = some (idle d)) ∧
    (∀ d, (c.withTickInterval d).withTickInterval (c.withTickInterval d).tickInterval =
      c.withTickInterval d) ∧
    (∀ d, ∀ r ∈ (c.withIdleTimeout d).idleTimeout,
      (c.withIdleTimeout d).withIdleTimeout r = c.withIdleTimeout d) ∧
    (∀ d, 0 < d → (c.withTickInterval d).fault? ≠ some .tickInterval ∧
      (c.withIdleTimeout d).fault? ≠ some .idleTimeout) ∧
    ∀ d : Duration,
      d.unitsFor? 1000000 = some (c.withTickInterval d.span).tickIntervalMs ∧
      d.unitsFor? 1000000000 = (c.withIdleTimeout d.span).idleTimeoutSecs := by
  have hms : 0 < Span.milliseconds 1 := by decide
  have hs : 0 < Span.seconds 1 := by decide
  refine ⟨roundsUp_rounded hms, ⟨_, roundsUp_rounded hs, c.idleTimeout_withIdleTimeout⟩, ?_, ?_, ?_,
    ?_⟩
  · intro d
    rw [tickInterval_withTickInterval, withTickInterval_again]
  · intro d r hr
    rw [idleTimeout_withIdleTimeout, Option.mem_some] at hr
    rw [← hr, withIdleTimeout_again]
  · intro d hd
    constructor
    · intro h
      have hzero : unitsFor d (.milliseconds 1) = 0 := holds_of_fault? h
      exact Nat.ne_of_gt hd ((unitsFor_eq_zero_iff hms d).1 hzero)
    · intro h
      have hzero : unitsFor d (.seconds 1) = 0 := Option.some.inj (holds_of_fault? h)
      exact Nat.ne_of_gt hd ((unitsFor_eq_zero_iff hs d).1 hzero)
  · intro d
    have hms' : (1000000 : BitVec 128).toNat = Span.milliseconds 1 := by decide
    have hs' : (1000000000 : BitVec 128).toNat = Span.seconds 1 := by decide
    rw [d.unitsFor?_eq_some (by decide), d.unitsFor?_eq_some (by decide), hms', hs']
    exact ⟨rfl, rfl⟩

/-- Spans that are a little longer than whole units, and the longest duration there is. -/
theorem durations_never_shortened_ends :
    let c : Config := {}
    let d : Duration := ⟨18446744073709551615, 999999999, by decide⟩
    (c.withTickInterval 1).tickInterval = .milliseconds 1 ∧
      (c.withTickInterval 1).fault? ≠ some .tickInterval ∧
      (c.withIdleTimeout 1000000001).idleTimeout = some (.seconds 2) ∧
      (c.withTickInterval d.span).tickInterval = .longest (.milliseconds 1) ∧
      (c.withIdleTimeout d.span).idleTimeout = some (.longest (.seconds 1)) := by
  intro c d
  obtain ⟨htick, ⟨idle, hrounds, hidle⟩, -, -, hvalid, -⟩ := durations_never_shortened c
  refine ⟨rfl, (hvalid 1 (by decide)).1, rfl, htick.capped d.span (by decide), ?_⟩
  rw [hidle, hrounds.capped d.span (by decide)]

end Config

end MediaSocket
