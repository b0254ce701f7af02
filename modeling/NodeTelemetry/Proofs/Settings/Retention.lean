/-
# The retention window

Settings ask for a window of minutes in which no snapshot is lost to a missing relay. The
minutes are turned into seconds in a 64-bit word, and no check keeps them from being too
many for it. Up to that bound an accepted window is kept for exactly as long as asked for,
and the backlog covers it; beyond it the settings are accepted all the same, and the program
ends as soon as it asks how long snapshots are kept.
-/

import NodeTelemetry.Proofs.Backlog.Sizing
import NodeTelemetry.Proofs.Settings.Loading

namespace NodeTelemetry.Settings

section

variable (settings : NodeTelemetry.Settings)

/-- Seconds in the window that was asked for. -/
def windowSeconds : Nat := 60 * settings.bufferRetention.toNat

/-- Nanoseconds in the window that was asked for. -/
def windowNanos : Nat := settings.windowSeconds * nanosPerSecond

/-- The seconds of the window fit in a 64-bit word. -/
def WindowFits : Prop := settings.windowSeconds < 0x10000000000000000

instance : Decidable settings.WindowFits := inferInstanceAs (Decidable (_ < _))

/-- Snapshots are kept for the window that was asked for, if its seconds fit. -/
theorem retention?_eq :
    settings.retention? =
      if settings.WindowFits then some (.ofSeconds settings.windowSeconds) else none := by
  have inWord : settings.bufferRetention.toNat * 60 ≤ Literal.mostUInt64 ↔
      settings.WindowFits := by
    unfold Literal.mostUInt64 WindowFits windowSeconds
    omega
  unfold retention? retentionSeconds?
  simp only [inWord]
  by_cases fits : settings.WindowFits
  · have seconds : (UInt64.ofNat (settings.bufferRetention.toNat * 60)).toNat =
        settings.windowSeconds := by
      rw [UInt64.toNat_ofNat', Nat.mul_comm]
      exact Nat.mod_eq_of_lt fits
    rw [if_pos fits, if_pos fits, Option.map_some, seconds]
  · rw [if_neg fits, if_neg fits, Option.map_none]

end

/-- A duration holds every number of seconds that fits in 64 bits. -/
theorem nanos_ofSeconds {seconds : Nat} (fits : seconds < 0x10000000000000000) :
    (Duration.ofSeconds seconds).nanos = seconds * nanosPerSecond := by
  change min (seconds * nanosPerSecond) mostNanos = seconds * nanosPerSecond
  unfold mostNanos nanosPerSecond
  omega

variable {settings : NodeTelemetry.Settings}

/-- An interval that was accepted is at least a second long. -/
theorem second_le_interval (timed : settings.mainLoopDuration ≠ 0) :
    nanosPerSecond ≤ settings.interval.nanos := by
  have positive : 0 < settings.mainLoopDuration.toNat :=
    Nat.pos_of_ne_zero fun zero => timed (UInt64.toNat_inj.mp zero)
  unfold interval
  rw [nanos_ofSeconds settings.mainLoopDuration.toNat_lt]
  exact Nat.le_mul_of_pos_left _ positive

/-- The slots for a window whose seconds fit are enough for all of it: no window takes more
slots than a size can say. -/
theorem window_le_capacityFor_mul (timed : settings.mainLoopDuration ≠ 0)
    (fits : settings.WindowFits) :
    settings.windowNanos ≤
      capacityFor (.ofSeconds settings.windowSeconds) settings.interval *
        settings.interval.nanos := by
  have second := second_le_interval timed
  have positive : 0 < settings.interval.nanos := Nat.lt_of_lt_of_le (by decide) second
  have nanos : (Duration.ofSeconds settings.windowSeconds).nanos = settings.windowNanos :=
    nanos_ofSeconds fits
  rw [← nanos]
  refine le_capacityFor_mul positive ((ceilDiv_le_iff positive).mpr ?_)
  rw [nanos]
  exact Nat.mul_le_mul (Nat.le_pred_of_lt fits) second

/-- What becomes of a window. -/
structure HonouredIff (settings : NodeTelemetry.Settings) : Prop where
  /-- Snapshots are kept for as long as was asked for if the seconds of that fit in 64 bits,
  and only then. -/
  kept : (∃ retention, settings.retention? = some retention ∧
      retention.nanos = settings.windowNanos) ↔ settings.WindowFits
  /-- The backlog has slots for the whole window if they do, and only then. -/
  covered : (∃ slots, settings.capacity? = some slots ∧
      settings.windowNanos ≤ slots * settings.interval.nanos) ↔ settings.WindowFits
  /-- Otherwise the program ends: there is no time for which snapshots are kept, and no number
  of slots. -/
  failed : ¬settings.WindowFits → settings.retention? = none ∧ settings.capacity? = none

section Loaded

variable {grammars : Grammars} {look : String → Option String} {environment : Environment}
  {arguments : List String}

/-- The window of loaded settings is honoured exactly if its seconds fit in 64 bits. -/
theorem window_honoured_iff (loaded : load grammars look environment arguments = .ok settings) :
    settings.HonouredIff := by
  have timed := (acceptable_of_load loaded).interval
  by_cases fits : settings.WindowFits
  · have kept : settings.retention? = some (.ofSeconds settings.windowSeconds) := by
      rw [retention?_eq, if_pos fits]
    have sized : settings.capacity? =
        some (capacityFor (.ofSeconds settings.windowSeconds) settings.interval) := by
      rw [capacity?, kept, Option.map_some]
    exact {
      kept := iff_of_true ⟨_, kept, nanos_ofSeconds fits⟩ fits
      covered := iff_of_true ⟨_, sized, window_le_capacityFor_mul timed fits⟩ fits
      failed := absurd fits }
  · have failed : settings.retention? = none := by
      rw [retention?_eq, if_neg fits]
    have unsized : settings.capacity? = none := by
      rw [capacity?, failed, Option.map_none]
    exact {
      kept := iff_of_false (by rw [failed]; nofun) fits
      covered := iff_of_false (by rw [unsized]; nofun) fits
      failed := fun _ => ⟨failed, unsized⟩ }

end Loaded

/-- Settings that ask for a window of so many minutes. -/
def asking (minutes : UInt64) : NodeTelemetry.Settings :=
  { nodeName := unknownNode, relayAddress := some "r:1", bufferRetention := minutes }

/-- The longest window that is honoured is asked for by this many minutes. -/
theorem window_honoured_iff_longest :
    load .standard (fun _ => none) []
        ["--relay-address", "r:1", "--buffer-retention=307445734561825860"] =
      .ok (asking 307445734561825860) ∧
    (asking 307445734561825860).HonouredIff ∧
    (asking 307445734561825860).retention? = some (.ofSeconds 18446744073709551600) ∧
    (asking 307445734561825860).capacity? = some 3689348814741910320 := by
  have loaded : load .standard (fun _ => none) []
        ["--relay-address", "r:1", "--buffer-retention=307445734561825860"] =
      .ok (asking 307445734561825860) :=
    eq_ok_of_toOption (by decide +kernel)
  exact ⟨loaded, window_honoured_iff loaded, by decide, by decide⟩

/-- One minute more is accepted as well, and then nothing says how long snapshots are kept. -/
theorem overlong_window_fails :
    load .standard (fun _ => none) []
        ["--relay-address", "r:1", "--buffer-retention=307445734561825861"] =
      .ok (asking 307445734561825861) ∧
    (asking 307445734561825861).retention? = none ∧
    (asking 307445734561825861).capacity? = none :=
  ⟨eq_ok_of_toOption (by decide +kernel), by decide, by decide⟩

end NodeTelemetry.Settings
