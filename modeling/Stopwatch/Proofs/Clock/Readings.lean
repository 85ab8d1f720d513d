import Stopwatch.Proofs.Clock.Milliseconds
import Stopwatch.Proofs.Host.Alike

/-!
# What clocks show

A clock shows the span from its origin to the present reading of its source. Later readings never
show less, on either source; a wall clock that has been set to before the origin shows zero.

- `Clock.read`, `Clock.shows`: a reading, and what the clock shows of it;
- `Clock.Started`: a clock that was made at some reading;
- `Clock.isAmount_shows`, `Clock.shows_mono`: what it shows.
-/

namespace Stopwatch

open Decimal

variable {σ : Type}

namespace Clock

/-- A reading of the source. -/
def read (gauges : Gauges (StateM σ)) (clock : Clock) : StateM σ Nat :=
  match clock.source with
  | .monotonic => gauges.monotonic
  | .wall => gauges.wall

/-- What a clock shows when its source has this reading. -/
def shows (clock : Clock) (t : Nat) : Float :=
  match clock.source with
  | .monotonic => milliseconds (t - clock.origin)
  | .wall =>
    let elapsed := milliseconds t - clock.wallOrigin
    if 0.0 < elapsed then elapsed else 0.0

theorem now_apply {gauges : Gauges (StateM σ)} {clock : Clock} {s s' : σ} {t : Nat}
    (h : clock.read gauges s = (t, s')) : clock.now gauges s = (clock.shows t, s') := by
  unfold read at h
  unfold now shows
  cases hsource : clock.source with
  | monotonic =>
    rw [hsource] at h
    exact run_bind_of_eq h _
  | wall =>
    rw [hsource] at h
    exact run_bind_of_eq h _

/-- The wall clock had some reading when the clock was made. -/
def Started (clock : Clock) : Prop := ∃ t < longest, clock.wallOrigin = milliseconds t

theorem started_start {gauges : Gauges (StateM σ)} (hwall : ∀ s, (gauges.wall s).1 < longest)
    (source : ClockSource) (s : σ) : (start gauges source s).1.Started :=
  ⟨_, hwall _, rfl⟩

theorem shows_monotonic {clock : Clock} (h : clock.source = .monotonic) (t : Nat) :
    clock.shows t = milliseconds (t - clock.origin) := by
  unfold shows
  rw [h]

/-- Before its origin a wall clock shows zero. -/
theorem shows_wall {clock : Clock} (h : clock.source = .wall) (t : Nat) :
    clock.shows t = if 0.0 < milliseconds t - clock.wallOrigin
      then milliseconds t - clock.wallOrigin else 0.0 := by
  unfold shows
  rw [h]

section
variable {clock : Clock} {t t' : Nat}

/-- The span from one amount of time to a later one is an amount. -/
theorem isAmount_span {origin now : Float} (horigin : IsAmount origin) (hnow : IsAmount now)
    (h : origin ≤ now) : IsAmount (now - origin) :=
  (hnow.sub horigin h).isAmount_of_le hnow (sub_le_self _ horigin.magnitude_nonneg)

/-- A span above zero tells that its end is not before its start. -/
theorem le_of_elapsed {origin now : Float} (horigin : IsAmount origin) (hnow : IsAmount now)
    (h : 0.0 < now - origin) : origin ≤ now := by
  refine (horigin.nonneg_sub_iff hnow).mp ?_
  rw [lt_iff] at h
  rw [le_iff, h]
  rfl

theorem isAmount_shows (hclock : clock.Started) (ht : t < longest) : IsAmount (clock.shows t) := by
  obtain ⟨w, hw, horigin⟩ := hclock
  cases hsource : clock.source with
  | monotonic =>
    rw [shows_monotonic hsource]
    exact isAmount_milliseconds ((Nat.sub_le _ _).trans_lt ht)
  | wall =>
    rw [shows_wall hsource, horigin]
    split
    · rename_i helapsed
      have hbefore := isAmount_milliseconds hw
      have hnow := isAmount_milliseconds ht
      exact isAmount_span hbefore hnow (le_of_elapsed hbefore hnow helapsed)
    · decide

/-- **A later reading never shows less.** -/
theorem shows_mono (hclock : clock.Started) (ht' : t' < longest) (h : t ≤ t') :
    clock.shows t ≤ clock.shows t' := by
  have ht : t < longest := h.trans_lt ht'
  have hnonneg := (isAmount_shows hclock ht').nonneg
  obtain ⟨w, hw, horigin⟩ := hclock
  cases hsource : clock.source with
  | monotonic =>
    rw [shows_monotonic hsource, shows_monotonic hsource]
    exact milliseconds_mono ((Nat.sub_le _ _).trans_lt ht') (Nat.sub_le_sub_right h _)
  | wall =>
    rw [shows_wall hsource t, horigin]
    split
    · rename_i helapsed
      have hbefore := isAmount_milliseconds hw
      have hnow := isAmount_milliseconds ht
      have hlater := isAmount_milliseconds ht'
      have hle := le_of_elapsed hbefore hnow helapsed
      have hmono := milliseconds_mono ht' h
      -- the later span counts too
      have hspan := isAmount_span hbefore hnow hle
      have hspan' := isAmount_span hbefore hlater (hbefore.le_trans hnow hlater hle hmono)
      have hspans := hnow.sub_mono hlater hbefore hle hmono
      have helapsed' := IsAmount.lt_of_lt_of_le (by decide) hspan hspan' helapsed hspans
      rwa [shows_wall hsource t', horigin, if_pos helapsed']
    · exact hnonneg

end

end Clock

end Stopwatch
