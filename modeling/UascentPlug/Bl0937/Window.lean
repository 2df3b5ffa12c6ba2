import UascentPlug.Bl0937
import UascentPlug.Lib.Rounding
import UascentPlug.Lib.Stream

/-!
# UascentPlug.Bl0937.Window

A run of `MeterPoll` seen from outside.  A `Poll` is the uptime of one call
and the pulse counts it takes; `windows` turns a list of polls into the
measurement windows that lie between them, with no reference to the driver's
state: the first poll closes no window, and neither does a poll in the same
millisecond as the one before.

`poll_of_window_none` and `poll_of_window_some` say what `MeterPoll` does in
terms of the window it closes; every later result about runs uses these two.
-/

namespace UascentPlug

/-- One call of `MeterPoll`: its uptime and what the two counters then hold. -/
structure Poll where
  nowMs : Int
  cf : UInt32
  cf1 : UInt32
  deriving DecidableEq

/-- The time between two polls and the pulses counted in it. -/
structure Window where
  windowMs : Nat
  cf : UInt32
  cf1 : UInt32
  /-- A window has a positive length. -/
  pos : 0 < windowMs

namespace Window

/-- CF pulses per second, rounded down. -/
def cfRate (w : Window) : Nat := w.cf.toNat * 1000 / w.windowMs

/-- CF1 pulses per second, rounded down. -/
def cf1Rate (w : Window) : Nat := w.cf1.toNat * 1000 / w.windowMs

/-- The `uint32_t` sample `CountsPerSec` makes of the window's CF pulses. -/
def cfSample (w : Window) : Nat := w.cfRate % 2 ^ 32

/-- The `uint32_t` sample `CountsPerSec` makes of the window's CF1 pulses. -/
def cf1Sample (w : Window) : Nat := w.cf1Rate % 2 ^ 32

end Window

/-- The window a poll closes, given the uptime of the poll before it. -/
def Poll.window (last : Option Int) (p : Poll) : Option Window :=
  match last with
  | none => none
  | some l =>
      if h : l < p.nowMs then
        some { windowMs := (p.nowMs - l).toNat, cf := p.cf, cf1 := p.cf1, pos := by omega }
      else
        none

/-- The uptime of the last poll, `last` if there is none in the list. -/
def stampAfter (last : Option Int) : List Poll → Option Int
  | [] => last
  | p :: ps => stampAfter (some p.nowMs) ps

/-- The windows a list of polls closes after a poll at `last`. -/
def windowsAfter (last : Option Int) : List Poll → List Window
  | [] => []
  | p :: ps => (p.window last).toList ++ windowsAfter (some p.nowMs) ps

def lastStamp (ps : List Poll) : Option Int := stampAfter none ps

/-- The windows of a run from boot. -/
def windows (ps : List Poll) : List Window := windowsAfter none ps

/-- What `sLastPollMs` says of the last poll: 0 stands for no poll yet. -/
def stampOf (sLastPollMs : Int) : Option Int :=
  if sLastPollMs = 0 then none else some sLastPollMs

/-- The windows the driver measures.  It takes the poll after one at uptime 0
for a first poll, so these are `windowsAfter` as long as no poll is. -/
def measuredAfter (last : Option Int) : List Poll → List Window
  | [] => []
  | p :: ps => (p.window last).toList ++ measuredAfter (stampOf p.nowMs) ps

/-! ## lists of polls -/

/-- The last poll of two lists is that of the second, if it has one. -/
theorem stampAfter_append (last : Option Int) (ps qs : List Poll) :
    stampAfter last (ps ++ qs) = stampAfter (stampAfter last ps) qs := by
  induction ps generalizing last with
  | nil => rfl
  | cons p ps ih => exact ih (some p.nowMs)

/-- The windows of two lists follow each other. -/
theorem windowsAfter_append (last : Option Int) (ps qs : List Poll) :
    windowsAfter last (ps ++ qs) =
      windowsAfter last ps ++ windowsAfter (stampAfter last ps) qs := by
  induction ps generalizing last with
  | nil => rfl
  | cons p ps ih =>
      simp only [List.cons_append, windowsAfter, stampAfter]
      rw [ih, List.append_assoc]

@[simp] theorem lastStamp_concat (ps : List Poll) (p : Poll) :
    lastStamp (ps ++ [p]) = some p.nowMs := by
  rw [lastStamp, stampAfter_append]
  rfl

/-- One more poll closes at most one more window. -/
theorem windows_concat (ps : List Poll) (p : Poll) :
    windows (ps ++ [p]) = windows ps ++ (p.window (lastStamp ps)).toList := by
  rw [windows, windowsAfter_append, windowsAfter, windowsAfter, List.append_nil]
  rfl

/-- A poll after uptime 0 is remembered. -/
theorem stampOf_of_pos {nowMs : Int} (h : 0 < nowMs) : stampOf nowMs = some nowMs :=
  if_neg (by omega)

/-- With all polls after uptime 0 the driver measures every window. -/
theorem measuredAfter_eq_windowsAfter (last : Option Int) {ps : List Poll}
    (h : ∀ p ∈ ps, 0 < p.nowMs) : measuredAfter last ps = windowsAfter last ps := by
  induction ps generalizing last with
  | nil => rfl
  | cons p ps ih =>
      rw [measuredAfter, windowsAfter, stampOf_of_pos (h p List.mem_cons_self),
        ih (some p.nowMs) fun q hq => h q (List.mem_cons_of_mem p hq)]

/-- A window lies between the poll and the one before, with what the poll took. -/
theorem window_eq_some {last : Option Int} {p : Poll} {w : Window} (h : p.window last = some w) :
    ∃ l, last = some l ∧ (w.windowMs : Int) = p.nowMs - l ∧ w.cf = p.cf ∧ w.cf1 = p.cf1 := by
  unfold Poll.window at h
  cases last with
  | none => contradiction
  | some l =>
      simp only at h
      split at h
      · next hlt =>
        obtain rfl := Option.some.inj h
        refine ⟨l, rfl, ?_, rfl, rfl⟩
        simp only
        omega
      · contradiction

/-! ## rates and readings -/

/-- A rate scaled to milli-units by a calibration divisor, rounded down. -/
def reading (milliCountsPerSec rate : Nat) : Int :=
  ((rate * 1000000 / milliCountsPerSec : Nat) : Int)

/-- Scaling a `uint32_t` rate is the reading of its value. -/
theorem scaled_eq_reading (rate : UInt32) (k : Nat) :
    scaled rate (k : Int) = reading k rate.toNat := by
  unfold scaled reading
  rw [Int.tdiv_eq_ediv_of_nonneg (by omega)]
  norm_cast

/-- `CountsPerSec` is the rounded rate, cut to 32 bits. -/
theorem countsPerSec_eq (pulses : UInt32) (windowMs : Nat) :
    Meter.countsPerSec pulses (windowMs : Int) =
      UInt32.ofNat (pulses.toNat * 1000 / windowMs) := by
  have hnat : ((pulses.toNat : Int) * 1000).tdiv (windowMs : Int) =
      ((pulses.toNat * 1000 / windowMs : Nat) : Int) := by
    rw [Int.tdiv_eq_ediv_of_nonneg (by omega)]
    norm_cast
  rw [Meter.countsPerSec, hnat, UInt32.ofInt]
  apply UInt32.toNat_inj.mp
  rw [UInt32.toNat_ofNat', UInt32.toNat_ofNat']
  omega

/-! ## runs of the driver -/

namespace Meter

/-- Pulses have brought the two counters to what the poll takes. -/
def load (p : Poll) (m : Meter) : Meter := { m with sCfPulses := p.cf, sCf1Pulses := p.cf1 }

/-- The driver after a successful `MeterInit`. -/
def booted : Meter := meterInit (fun _ => true) {}

/-- The poll stamp of a driver whose last poll was at `last`. -/
def StampIs (m : Meter) (last : Option Int) : Prop :=
  m.sLastPollMs = last.getD 0 ∧ last ≠ some 0

/-- The poll the driver remembers. -/
def stamp (m : Meter) : Option Int := stampOf m.sLastPollMs

/-- The driver's stamp is what `stamp` says. -/
theorem stampIs_stamp (m : Meter) : m.StampIs m.stamp := by
  rw [StampIs, stamp, stampOf]
  by_cases hzero : m.sLastPollMs = 0
  · simp [hzero]
  · simp [hzero]

/-- A positive stamp is that of a poll. -/
theorem stampIs_of_pos {m : Meter} {nowMs : Int} (h : m.sLastPollMs = nowMs) (hpos : 0 < nowMs) :
    m.StampIs (some nowMs) :=
  ⟨h, by rw [ne_eq, Option.some.injEq]; omega⟩

@[simp] theorem windowMs_load (p : Poll) (nowMs : Int) (m : Meter) :
    (m.load p).windowMs nowMs = m.windowMs nowMs := rfl

/-- Without a window, `windowMs` is not positive. -/
theorem windowMs_of_window_none {m : Meter} {last : Option Int} {p : Poll} (h : m.StampIs last)
    (hw : p.window last = none) : m.windowMs p.nowMs ≤ 0 := by
  rw [windowMs, h.1]
  cases last with
  | none => simp
  | some l =>
      simp only [Poll.window] at hw
      split at hw
      · contradiction
      · next hlt =>
        simp only [Option.getD_some]
        split <;> omega

/-- With one, `windowMs` is its length. -/
theorem windowMs_of_window_some {m : Meter} {last : Option Int} {p : Poll} {w : Window}
    (h : m.StampIs last) (hw : p.window last = some w) :
    m.windowMs p.nowMs = (w.windowMs : Int) := by
  obtain ⟨l, rfl, hms, -, -⟩ := window_eq_some hw
  have hl : m.sLastPollMs = l := h.1
  have hne : m.sLastPollMs ≠ 0 := by
    rw [hl]
    exact fun h0 => h.2 (congrArg some h0)
  rw [windowMs, if_pos hne, hms, hl]

/-- The CF sample is the rate of the window. -/
theorem countsPerSec_cf {last : Option Int} {p : Poll} {w : Window} (hw : p.window last = some w) :
    countsPerSec p.cf (w.windowMs : Int) = UInt32.ofNat w.cfRate := by
  obtain ⟨-, -, -, hcf, -⟩ := window_eq_some hw
  rw [countsPerSec_eq, Window.cfRate, hcf]

/-- So is the CF1 sample. -/
theorem countsPerSec_cf1 {last : Option Int} {p : Poll} {w : Window}
    (hw : p.window last = some w) :
    countsPerSec p.cf1 (w.windowMs : Int) = UInt32.ofNat w.cf1Rate := by
  obtain ⟨-, -, -, -, hcf1⟩ := window_eq_some hw
  rw [countsPerSec_eq, Window.cf1Rate, hcf1]

/-- **A poll that closes no window** only moves the stamp and empties the counters. -/
theorem poll_of_window_none {m : Meter} {last : Option Int} {p : Poll} (h : m.StampIs last)
    (hw : p.window last = none) (cfg : Option OverPowerConfig) (relayIsOn : Bool) :
    (m.load p).meterPoll cfg relayIsOn p.nowMs =
      ({ m with sLastPollMs := p.nowMs, sCfPulses := 0, sCf1Pulses := 0 }, []) := by
  rw [meterPoll, windowMs_load]
  exact if_pos (windowMs_of_window_none h hw)

/-- What a poll that closes window `w` does to the driver, before the call of
`PowerMeasurementUpdate`. -/
def measure (cfg : Option OverPowerConfig) (relayIsOn : Bool) (w : Window) (m : Meter) : Meter :=
  ((m.protect cfg relayIsOn (UInt32.ofNat w.cfRate)).1.pushCf
    (UInt32.ofNat w.cfRate)).pushCf1 (UInt32.ofNat w.cf1Rate)

/-- **A poll that closes window `w`** checks the limit, feeds both filters and
publishes once. -/
theorem poll_of_window_some {m : Meter} {last : Option Int} {p : Poll} {w : Window}
    (h : m.StampIs last) (hw : p.window last = some w) (cfg : Option OverPowerConfig)
    (relayIsOn : Bool) :
    (m.load p).meterPoll cfg relayIsOn p.nowMs =
      let idle := { m with sLastPollMs := p.nowMs, sCfPulses := 0, sCf1Pulses := 0 }
      let m' := idle.measure cfg relayIsOn w
      (m', (idle.protect cfg relayIsOn (UInt32.ofNat w.cfRate)).2 ++
        [.powerMeasurementUpdate m'.sLastActivePowerMw m'.sLastRmsVoltageMv
          m'.sLastRmsCurrentMa]) := by
  have hpos : ¬ (w.windowMs : Int) ≤ 0 := by
    have := w.pos
    omega
  rw [meterPoll, windowMs_load, windowMs_of_window_some h hw]
  refine (if_neg hpos).trans ?_
  simp only [load]
  rw [countsPerSec_cf hw, countsPerSec_cf1 hw]
  rfl

/-- The over-power step calls nothing, or it trips. -/
theorem protect_calls (cfg : Option OverPowerConfig) (relayIsOn : Bool) (rate : UInt32)
    (m : Meter) :
    (m.protect cfg relayIsOn rate).2 = [] ∨ (m.protect cfg relayIsOn rate).2 = tripCalls := by
  unfold protect
  cases cfg with
  | none => exact Or.inl rfl
  | some cfg =>
      simp only [checkOverPower]
      split
      · exact Or.inl rfl
      · split
        · exact Or.inl rfl
        · split
          · exact Or.inl rfl
          · exact Or.inr rfl

/-- The over-power step touches nothing but its own counter. -/
theorem protect_eq (cfg : Option OverPowerConfig) (relayIsOn : Bool) (rate : UInt32) (m : Meter) :
    (m.protect cfg relayIsOn rate).1 =
      { m with sOverPowerSamples := (m.protect cfg relayIsOn rate).1.sOverPowerSamples } := by
  unfold protect
  cases cfg with
  | none => rfl
  | some cfg =>
      simp only [checkOverPower]
      split
      · rfl
      · split
        · rfl
        · split <;> rfl

theorem pushCf_eq (rate : UInt32) (m : Meter) :
    m.pushCf rate =
      { m with
        sCfFilter := (m.sCfFilter.push rate).1
        sLastActivePowerMw := ((m.sCfFilter.push rate).2.map
          (scaled · kMilliCountsPerSecPerWatt)).getD m.sLastActivePowerMw } := by
  unfold pushCf
  rcases m.sCfFilter.push rate with ⟨f, _ | median⟩ <;> rfl

/-- Inside a CF1 window only the filter moves. -/
theorem pushCf1_of_none {rate : UInt32} {m : Meter} (h : (m.sCf1Filter.push rate).2 = none) :
    m.pushCf1 rate = { m with sCf1Filter := (m.sCf1Filter.push rate).1 } := by
  unfold pushCf1
  generalize hr : m.sCf1Filter.push rate = r at h ⊢
  obtain ⟨f, _ | median⟩ := r
  · rfl
  · contradiction

/-- A completed CF1 window goes to the quantity SEL named, and SEL is flipped. -/
theorem pushCf1_of_some {rate median : UInt32} {m : Meter}
    (h : (m.sCf1Filter.push rate).2 = some median) :
    m.pushCf1 rate =
      { m with
        sCf1Filter := (m.sCf1Filter.push rate).1
        sLastRmsVoltageMv :=
          if m.sSelIsVoltage then scaled median kMilliCountsPerSecPerVolt else m.sLastRmsVoltageMv
        sLastRmsCurrentMa :=
          if m.sSelIsVoltage then m.sLastRmsCurrentMa else scaled median kMilliCountsPerSecPerAmp
        sSelIsVoltage := !m.sSelIsVoltage
        selPin := !m.sSelIsVoltage } := by
  unfold pushCf1
  generalize hr : m.sCf1Filter.push rate = r at h ⊢
  obtain ⟨f, _ | m'⟩ := r
  · contradiction
  · obtain rfl := Option.some.inj h
    cases m.sSelIsVoltage <;> simp

/-- The CF1 half touches nothing but the CF1 filter, the two RMS readings and SEL. -/
theorem pushCf1_eq (rate : UInt32) (m : Meter) :
    ∃ f v c sel pin, m.pushCf1 rate =
      { m with
        sCf1Filter := f, sLastRmsVoltageMv := v, sLastRmsCurrentMa := c,
        sSelIsVoltage := sel, selPin := pin } := by
  cases hpush : (m.sCf1Filter.push rate).2 with
  | none => exact ⟨_, _, _, _, _, pushCf1_of_none hpush⟩
  | some median => exact ⟨_, _, _, _, _, pushCf1_of_some hpush⟩

/-- Measuring a window leaves the stamp alone. -/
theorem sLastPollMs_measure (cfg : Option OverPowerConfig) (relayIsOn : Bool) (w : Window)
    (m : Meter) : (m.measure cfg relayIsOn w).sLastPollMs = m.sLastPollMs := by
  unfold measure
  obtain ⟨f, v, c, sel, pin, heq⟩ := pushCf1_eq (UInt32.ofNat w.cf1Rate)
    ((m.protect cfg relayIsOn (UInt32.ofNat w.cfRate)).1.pushCf (UInt32.ofNat w.cfRate))
  rw [heq, pushCf_eq, protect_eq]

end Meter

end UascentPlug
