import UascentPlug.Bl0937.OverPower
import UascentPlug.Firmware.Start

/-!
# UascentPlug.Firmware.Protection

Over-power protection in the whole firmware, with relay writes that can fail.
`UascentPlug.Bl0937.OverPower` looks at the meter alone and at writes that
succeed; here polls wait in the app task's queue behind button events, the
Matter thread switches the relay in between, and power can go.

`trips_exactly` says when a poll tries to open the relay.  There is no latch
and no retry of its own, so a write that fails is tried again only when the
overload has lasted for another `APP_OVERPOWER_SAMPLES` windows
(`overload_is_answered`).
-/

namespace UascentPlug

open SampleStream

namespace Meter

/-- The stamp is the poll the driver remembers. -/
theorem stamp_eq {m : Meter} {last : Option Int} (h : m.StampIs last) : m.stamp = last := by
  rw [stamp, stampOf, h.1]
  cases last with
  | none => rfl
  | some l =>
      have hne : l ≠ 0 := fun heq => h.2 (congrArg some heq)
      exact if_neg hne

/-- The over-power step of a poll that closes `w`: it counts the streak, and
trips when that becomes a multiple of the number of samples. -/
theorem protect_eq_of_count {cfg : OverPowerConfig} (hN : 0 < cfg.samples.toNat) {m : Meter}
    {ws : List Window} (h : m.sOverPowerSamples.toNat = streak cfg.exceeds ws % cfg.samples.toNat)
    (relayIsOn : Bool) (w : Window) :
    (m.protect (some cfg) relayIsOn (UInt32.ofNat w.cfRate)).1.sOverPowerSamples.toNat =
        streak cfg.exceeds (ws ++ [w]) % cfg.samples.toNat ∧
      (m.protect (some cfg) relayIsOn (UInt32.ofNat w.cfRate)).2 =
        if relayIsOn = true ∧ 0 < streak cfg.exceeds (ws ++ [w]) ∧
          cfg.samples.toNat ∣ streak cfg.exceeds (ws ++ [w]) then tripCalls else [] := by
  have hpower : scaled (UInt32.ofNat w.cfRate) kMilliCountsPerSecPerWatt =
      reading 775 w.cfSample := by
    have hscaled := scaled_eq_reading (UInt32.ofNat w.cfRate) 775
    rwa [UInt32.toNat_ofNat'] at hscaled
  have hlt : m.sOverPowerSamples.toNat < cfg.samples.toNat := by
    rw [h]
    exact Nat.mod_lt _ hN
  obtain ⟨hcount, hcalls⟩ := checkOverPower_eq_debounce hlt relayIsOn (reading 775 w.cfSample)
  simp only [h] at hcount hcalls
  rw [show decide (cfg.thresholdMw < reading 775 w.cfSample) = cfg.exceeds w from rfl,
    debounce_streak hN cfg.exceeds ws w] at hcount hcalls
  simp only [protect, hpower]
  refine ⟨hcount, hcalls.trans (if_congr ?_ rfl rfl)⟩
  simp only [Bool.and_eq_true, decide_eq_true_eq]
  exact and_comm

end Meter

namespace Firmware

variable {cfg : OverPowerConfig} {f g : Firmware}

/-- The streak of over-threshold windows since power-on. -/
def overPowerStreak (cfg : OverPowerConfig) (f : Firmware) : Nat :=
  streak cfg.exceeds (windows f.polls)

/-- The meter counts the streak of its polls, and polls are never at uptime 0. -/
structure Guards (cfg : OverPowerConfig) (f : Firmware) : Prop where
  stamp : f.meter.StampIs (lastStamp f.polls)
  count : f.meter.sOverPowerSamples.toNat = f.overPowerStreak cfg % cfg.samples.toNat
  uptime : 0 ≤ f.uptimeMs
  posted : .meterPoll ∈ f.tasks → 0 < f.uptimeMs
  expiry : ∀ expiryMs, f.nextExpiryMs = some expiryMs → 0 < expiryMs

/-- When power comes on no window has been counted. -/
theorem guards_powerOn (answers : StartAnswers) (kvs : Option Int) (onOff : Bool) :
    Guards cfg (powerOn answers kvs onOff) where
  stamp := ⟨rfl, by simp [powerOn, lastStamp, stampAfter]⟩
  count := (Nat.zero_mod _).symm
  uptime := le_refl _
  posted := by simp [powerOn]
  expiry := by simp [powerOn]

namespace Guards

/-- The window a poll closes is the next of the run. -/
theorem windows_polls (h : Guards cfg f) :
    windows (f.polls ++ [f.poll]) = windows f.polls ++ f.window.toList := by
  rw [windows_concat, window, Meter.stamp_eq h.stamp]

/-- **A poll trips** exactly when it closes a window, the relay is on and the
streak becomes a multiple of the number of samples. -/
theorem trips_iff (h : Guards cfg f) (hN : 0 < cfg.samples.toNat) :
    f.Trips (some cfg) ↔ f.window.isSome = true ∧ f.plug.relayIsOn = true ∧
      0 < streak cfg.exceeds (windows (f.polls ++ [f.poll])) ∧
      cfg.samples.toNat ∣ streak cfg.exceeds (windows (f.polls ++ [f.poll])) := by
  rw [Trips, h.windows_polls]
  cases hw : f.window with
  | none => simp [meterCalls_of_window_none hw]
  | some w =>
      rw [meterCalls_of_window_some hw {},
        (Meter.protect_eq_of_count hN (m := f.takenMeter) h.count f.plug.relayIsOn w).2]
      simp only [Option.toList_some, Option.isSome_some, true_and]
      split
      · next htrip => simp [Meter.tripCalls, htrip]
      · next htrip => simpa using fun h₁ h₂ h₃ => htrip ⟨h₁, h₂, h₃⟩

/-- A poll keeps the count. -/
theorem meterPoll {tasks : List Task} (h : Guards cfg f) (hN : 0 < cfg.samples.toNat)
    (htasks : f.tasks = .meterPoll :: tasks) (a : TaskAnswers) :
    Guards cfg (Firmware.meterPoll (some cfg) a { f with tasks := tasks }) := by
  have hpos : 0 < f.uptimeMs := h.posted (htasks ▸ List.mem_cons_self)
  have hmeter : (f.meter.meterPoll (some cfg) f.plug.relayIsOn f.uptimeMs).1.sLastPollMs =
        f.uptimeMs ∧
      (f.meter.meterPoll (some cfg) f.plug.relayIsOn f.uptimeMs).1.sOverPowerSamples.toNat =
        streak cfg.exceeds (windows (f.polls ++ [f.poll])) % cfg.samples.toNat := by
    rw [h.windows_polls]
    cases hw : f.window with
    | none =>
        rw [meter_of_window_none hw]
        simpa using ⟨rfl, h.count⟩
    | some w =>
        rw [meter_of_window_some hw]
        refine ⟨Meter.sLastPollMs_measure _ _ w f.takenMeter, ?_⟩
        simp only [Meter.sOverPowerSamples_measure]
        exact (Meter.protect_eq_of_count hN (m := f.takenMeter) h.count f.plug.relayIsOn w).1
  constructor
  case stamp =>
    rw [show (Firmware.meterPoll (some cfg) a { f with tasks := tasks }).polls =
      f.polls ++ [f.poll] from rfl, lastStamp_concat]
    exact Meter.stampIs_of_pos hmeter.1 hpos
  case count => exact hmeter.2
  case uptime =>
    have huptime := h.uptime
    simp only [Firmware.meterPoll]
    omega
  case posted =>
    intro _
    simp only [Firmware.meterPoll]
    omega
  case expiry => exact h.expiry

/-- Everything but a poll leaves the meter's books alone. -/
theorem of_eq (h : Guards cfg f) (hstamp : g.meter.sLastPollMs = f.meter.sLastPollMs)
    (hcount : g.meter.sOverPowerSamples = f.meter.sOverPowerSamples) (hpolls : g.polls = f.polls)
    (huptime : f.uptimeMs ≤ g.uptimeMs) (hposted : .meterPoll ∈ g.tasks → 0 < g.uptimeMs)
    (hexpiry : ∀ expiryMs, g.nextExpiryMs = some expiryMs → 0 < expiryMs) : Guards cfg g where
  stamp := by
    rw [Meter.StampIs, hstamp, hpolls]
    exact h.stamp
  count := by
    rw [hcount, overPowerStreak, hpolls]
    exact h.count
  uptime := h.uptime.trans huptime
  posted := hposted
  expiry := hexpiry

/-- The common case: only what the meter does not look at has changed. -/
theorem of_same (h : Guards cfg f) (hmeter : g.meter = f.meter) (hpolls : g.polls = f.polls)
    (huptime : g.uptimeMs = f.uptimeMs) (htasks : .meterPoll ∈ g.tasks → .meterPoll ∈ f.tasks)
    (hexpiry : g.nextExpiryMs = f.nextExpiryMs) : Guards cfg g :=
  h.of_eq (by rw [hmeter]) (by rw [hmeter]) hpolls huptime.ge
    (fun hmem => huptime ▸ h.posted (htasks hmem)) (fun expiryMs hsome => h.expiry expiryMs
      (hexpiry ▸ hsome))

/-- Start-up counts none. -/
theorem initStep (h : Guards cfg f) (next : InitStep) : Guards cfg (f.initStep next) := by
  have hkeeps := f.initKeeps next
  have htasks : .meterPoll ∈ (f.initStep next).tasks → .meterPoll ∈ f.tasks := hkeeps.tasks ▸ id
  by_cases hnext : next = .meterInit
  · subst hnext
    have huptime := h.uptime
    refine h.of_eq ?_ ?_ rfl le_rfl (fun hmem => h.posted (htasks hmem)) ?_
    · simp only [Firmware.initStep, Meter.meterInit]
      split <;> rfl
    · simp only [Firmware.initStep, Meter.meterInit]
      split <;> rfl
    · intro expiryMs hsome
      simp only [Firmware.initStep, Option.some.injEq, kMeterPollIntervalMs] at hsome
      omega
  · obtain ⟨hmeter, hexpiry⟩ := f.initStep_unmetered hnext
    exact h.of_same hmeter hkeeps.polls hkeeps.uptimeMs htasks hexpiry

/-- **Step lemma**: every event keeps the count. -/
theorem step {e : FirmwareEvent} (h : Guards cfg f) (hN : 0 < cfg.samples.toNat)
    (hstep : FirmwareStep (some cfg) f e g) : Guards cfg g := by
  cases hstep with
  | init happ => exact h.initStep _
  | @dispatch a task tasks happ htasks =>
      cases task with
      | meterPoll => exact h.meterPoll hN htasks a
      | buttonEventHandler state hasChanged =>
          exact h.of_same rfl rfl rfl (fun hmem => htasks ▸ List.mem_cons_of_mem _ hmem) rfl
  | meterPollTimer hstarted hdue =>
      have hexpiry := h.expiry _ hstarted
      refine h.of_eq rfl rfl rfl le_rfl (fun _ => lt_of_lt_of_le hexpiry hdue) ?_
      intro expiryMs hsome
      simp only [Option.some.injEq, kMeterPollIntervalMs] at hsome
      omega
  | cfIsr henabled => exact h.of_eq rfl rfl rfl le_rfl h.posted h.expiry
  | cf1Isr henabled => exact h.of_eq rfl rfl rfl le_rfl h.posted h.expiry
  | button hready => exact h.of_same rfl rfl rfl (by simp) rfl
  | elapse =>
      refine h.of_eq rfl rfl rfl ?_ (fun hmem => ?_) h.expiry
      · simp only [le_add_iff_nonneg_right]
        exact Int.natCast_nonneg _
      · have hpos := h.posted hmem
        simp only
        omega
  | unchangedWrite hstarted hvalue => exact h
  | powerCut => exact guards_powerOn _ _ _
  | powerCutDuring happ htasks => exact guards_powerOn _ _ _
  | blinkTimer hruns => exact h.of_same rfl rfl rfl id rfl
  | deviceState hready => exact h.of_same rfl rfl rfl id rfl
  | postServerInit hstarted hhook => exact h.of_same rfl rfl rfl id rfl
  | onOffClusterInit hstarted hfirst => exact h.of_same rfl rfl rfl id rfl
  | controllerWrite hstarted => exact h.of_same rfl rfl rfl id rfl
  | lambda hstarted hpending => exact h.of_same rfl rfl rfl id rfl

end Guards

/-- **Run lemma**: the counter is the streak of the boot, modulo N. -/
theorem guards_of_run (hN : 0 < cfg.samples.toNat) {answers : StartAnswers} {kvs : Option Int}
    {onOff : Bool} {es : List FirmwareEvent}
    (hrun : (firmware (some cfg)).run (powerOn answers kvs onOff) es = some f) : Guards cfg f :=
  (firmware (some cfg)).run_invariant_of_step (P := Guards cfg)
    (fun _ _ _ h hstep => h.step hN (firmwareStep_of_step hstep)) (guards_powerOn _ _ _) hrun

/-! ## when a poll trips -/

/-- **A trip is exact**, in every run of the firmware and whatever waits in the
queue: a poll tries to open the relay exactly when it closes a window, the
relay is on and the streak of windows above the threshold since power-on is
then a positive multiple of the number of samples.  A try always reports, and
opens the relay exactly when the write succeeds; a poll that does not try
leaves relay and reports alone. -/
theorem trips_exactly (cfg : OverPowerConfig) (hN : 1 ≤ cfg.samples.toNat)
    (answers : StartAnswers) (kvs : Option Int) (onOff : Bool) (es : List FirmwareEvent)
    (f g : Firmware) (tasks : List Task) (a : TaskAnswers)
    (hrun : (firmware (some cfg)).run (powerOn answers kvs onOff) es = some f)
    (htasks : f.tasks = .meterPoll :: tasks)
    (hstep : (firmware (some cfg)).step f (.dispatch a) = some g) :
    let n := streak cfg.exceeds (windows g.polls)
    let trips := (f.poll.window (lastStamp f.polls)).isSome = true ∧ f.plug.relayIsOn = true ∧
      0 < n ∧ cfg.samples.toNat ∣ n
    (f.Trips (some cfg) ↔ trips) ∧
      (g.plug.relayIsOn = false ↔ f.plug.relayIsOn = false ∨ trips ∧ a.relayErr = 0) ∧
      (g.plug.lambdas = f.plug.lambdas + 1 ↔ trips) ∧
      (¬ trips → g.plug = f.plug) := by
  intro n trips
  have hguards := guards_of_run hN hrun
  cases firmwareStep_of_step hstep with
  | @dispatch _ task tasks' happ htasks' =>
      obtain ⟨rfl, rfl⟩ := List.cons.inj (htasks.symm.trans htasks')
      have hready := ((startUp_of_run hrun).outputsReady happ).relay
      have htrips : f.Trips (some cfg) ↔ trips := by
        rw [hguards.trips_iff hN, window, Meter.stamp_eq hguards.stamp]
        rfl
      have hplug := plug_meterPoll (some cfg) a { f with tasks := tasks }
      simp only [runTask, hplug, ← htrips]
      by_cases htrip : f.Trips (some cfg)
      · have hon : f.plug.relayIsOn = true := (hguards.trips_iff hN).mp htrip |>.2.1
        have htrip' : Firmware.Trips (some cfg) { f with tasks := tasks } := htrip
        simp only [htrip', htrip, if_true]
        refine ⟨trivial, ?_, ⟨fun _ => trivial, fun _ => rfl⟩, fun hnot => absurd trivial hnot⟩
        by_cases herr : a.relayErr = 0
        · rw [herr]
          exact iff_of_true (Plug.relayIsOn_relaySet hready false) (Or.inr ⟨trivial, rfl⟩)
        · rw [Plug.relaySet_of_ne_zero herr]
          simp [herr, Plug.updateClusterState, Plug.relayIsOn]
      · simp [show ¬ Firmware.Trips (some cfg) { f with tasks := tasks } from htrip, htrip]

/-- A second of uptime with one CF pulse, and its poll. -/
def pulsedSecond (a : TaskAnswers) : List FirmwareEvent :=
  [.cfIsr, .elapse 1000, .meterPollTimer, .dispatch a]

/-- A window with a pulse trips a limit of 0 mW and one sample; the relay write
fails. -/
theorem trips_exactly_at_first_window :
    let cfg : OverPowerConfig := { thresholdMw := 0, samples := 1 }
    let es := initEvents ++ [.onOffClusterInit true 0] ++ pulsedSecond {} ++
      [.cfIsr, .elapse 1000, .meterPollTimer]
    ∃ f g, (firmware (some cfg)).run (powerOn {} none true) es = some f ∧
      (firmware (some cfg)).step f (.dispatch { relayErr := -5 }) = some g ∧ f.Trips (some cfg) ∧
      g.plug.relayIsOn = true ∧ g.plug.lambdas = f.plug.lambdas + 1 :=
  let cfg : OverPowerConfig := { thresholdMw := 0, samples := 1 }
  let es := initEvents ++ [.onOffClusterInit true 0] ++ pulsedSecond {} ++
    [.cfIsr, .elapse 1000, .meterPollTimer]
  have h := trips_exactly cfg (by decide) {} none true es _ _ [] { relayErr := -5 } rfl rfl rfl
  ⟨_, _, rfl, rfl, h.1.mpr (by decide), by decide, h.2.2.1.mpr (by decide)⟩

/-! ## an overload is answered -/

/-- Someone else may switch the relay off: a release of the button comes up, a
controller writes `false` or `false` is restored, or power is cut. -/
def SwitchesOff (f : Firmware) : FirmwareEvent → Prop
  | .dispatch _ => ∃ task ∈ f.tasks.head?, task.releases = true
  | .controllerWrite value _ _ => value = false
  | .onOffClusterInit getOk _ => getOk = true ∧ f.plug.onOff = false
  | .powerCut _ _ => True
  | _ => False

instance (f : Firmware) : (e : FirmwareEvent) → Decidable (f.SwitchesOff e)
  | .dispatch _ => inferInstanceAs (Decidable (∃ task ∈ f.tasks.head?, task.releases = true))
  | .controllerWrite value _ _ => inferInstanceAs (Decidable (value = false))
  | .onOffClusterInit getOk _ =>
      inferInstanceAs (Decidable (getOk = true ∧ f.plug.onOff = false))
  | .powerCut _ _ => instDecidableTrue
  | .init | .meterPollTimer | .blinkTimer | .cfIsr | .cf1Isr | .button _ _ | .deviceState _
  | .postServerInit _ _ _ _ | .lambda _ | .elapse _ => instDecidableFalse

/-- The relay is commanded on, in the loop. -/
structure LoadOn (f : Firmware) : Prop where
  app : f.app = .dispatching
  ready : f.plug.RelayReady
  relay : f.plug.relayIsOn = true

end Firmware

/-- A load that is on stays on when told to be, even if the write fails. -/
theorem Plug.relayIsOn_applyOnOff_true {p : Plug} (hready : p.RelayReady)
    (h : p.relayIsOn = true) (err : Int) : (p.applyOnOff err true).relayIsOn = true := by
  by_cases herr : err = 0
  · rw [herr]
    exact Plug.relayIsOn_applyOnOff hready true
  · rw [Plug.applyOnOff, Plug.relaySet_of_ne_zero herr]
    exact h

namespace Firmware

/-- **Step lemma**: while nobody else switches it off, a relay that is on stays
on through every event but a poll that trips; and only a poll moves the polls. -/
theorem LoadOn.step {e : FirmwareEvent} (h : LoadOn f) (hothers : ¬ f.SwitchesOff e)
    (hstep : FirmwareStep (some cfg) f e g) :
    (LoadOn g ∧ g.polls = f.polls) ∨
      ∃ a tasks, e = .dispatch a ∧ f.tasks = .meterPoll :: tasks ∧
        g.polls = f.polls ++ [f.poll] ∧ (f.Trips (some cfg) ∨ LoadOn g) := by
  have hset : ∀ err, (f.plug.onOffSet err true).relayIsOn = true := by
    intro err
    rw [Plug.onOffSet, Plug.onOffChanged_eq]
    exact Plug.relayIsOn_applyOnOff_true (p := f.plug.storeOnOff true) h.ready h.relay err
  cases hstep with
  | init happ =>
      have hloop := h.app
      rw [happ] at hloop
      contradiction
  | @dispatch a task tasks happ htasks =>
      cases task with
      | meterPoll =>
          refine Or.inr ⟨a, tasks, rfl, htasks, rfl, ?_⟩
          have hplug := plug_meterPoll (some cfg) a { f with tasks := tasks }
          by_cases htrip : f.Trips (some cfg)
          · exact Or.inl htrip
          · have htrip' : ¬ Firmware.Trips (some cfg) { f with tasks := tasks } := htrip
            rw [if_neg htrip'] at hplug
            refine Or.inr ⟨happ, ?_, ?_⟩
            · rw [runTask, hplug]
              exact h.ready
            · rw [runTask, hplug]
              exact h.relay
      | buttonEventHandler state hasChanged =>
          have hnot : applicationButtonMask &&& hasChanged &&& ~~~state = 0 := by
            simpa [SwitchesOff, htasks, Task.releases] using hothers
          have hplug : f.plug.buttonEventHandler a.relayErr state hasChanged = f.plug := by
            rw [Plug.buttonEventHandler, hnot]
            rfl
          refine Or.inl ⟨⟨happ, ?_, ?_⟩, rfl⟩
          · rw [runTask, buttonEventHandler, hplug]
            exact h.ready
          · rw [runTask, buttonEventHandler, hplug]
            exact h.relay
  | @onOffClusterInit getOk relayErr hstarted hfirst =>
      refine Or.inl ⟨⟨h.app, ?_, ?_⟩, rfl⟩
      · cases getOk with
        | false => exact h.ready
        | true => exact (Plug.relayReady_applyOnOff _ _ _).mpr h.ready
      · cases getOk with
        | false => exact h.relay
        | true =>
            have hstored : f.plug.onOff = true := by simpa [SwitchesOff] using hothers
            simpa only [if_true, Plug.emberAfOnOffClusterInitCallback, hstored] using
              Plug.relayIsOn_applyOnOff_true h.ready h.relay relayErr
  | @controllerWrite value relayErr hstarted =>
      obtain rfl : value = true := by simpa [SwitchesOff] using hothers
      refine Or.inl ⟨⟨h.app, ?_, hset relayErr⟩, rfl⟩
      simpa [Plug.onOffSet] using h.ready
  | @lambda relayErr hstarted hpending =>
      refine Or.inl ⟨⟨h.app, ?_, ?_⟩, rfl⟩
      · rw [Plug.runLambda, Plug.onOffSet, Plug.onOffChanged_eq]
        exact (Plug.relayReady_applyOnOff _ _ _).mpr h.ready
      · have hsame := Plug.relayIsOn_applyOnOff_true
          (p := ({ f.plug with lambdas := f.plug.lambdas - 1 } : Plug).storeOnOff true)
          h.ready h.relay relayErr
        simpa only [Plug.runLambda, h.relay, Plug.onOffSet, Plug.onOffChanged_eq] using hsame
  | powerCut => exact absurd trivial hothers
  | powerCutDuring happ htasks => exact absurd trivial hothers
  | unchangedWrite hstarted hvalue => exact Or.inl ⟨h, rfl⟩
  | meterPollTimer hstarted hdue => exact Or.inl ⟨⟨h.app, h.ready, h.relay⟩, rfl⟩
  | blinkTimer hruns => exact Or.inl ⟨⟨h.app, h.ready, h.relay⟩, rfl⟩
  | cfIsr henabled => exact Or.inl ⟨⟨h.app, h.ready, h.relay⟩, rfl⟩
  | cf1Isr henabled => exact Or.inl ⟨⟨h.app, h.ready, h.relay⟩, rfl⟩
  | button hready => exact Or.inl ⟨⟨h.app, h.ready, h.relay⟩, rfl⟩
  | deviceState hready => exact Or.inl ⟨⟨h.app, h.ready, h.relay⟩, rfl⟩
  | postServerInit hstarted hhook => exact Or.inl ⟨⟨h.app, h.ready, h.relay⟩, rfl⟩
  | elapse => exact Or.inl ⟨⟨h.app, h.ready, h.relay⟩, rfl⟩

/-- Until power is cut, polls are only added. -/
theorem polls_prefix_of_step {e : FirmwareEvent} (hothers : ¬ f.SwitchesOff e)
    (hstep : FirmwareStep (some cfg) f e g) : f.polls <+: g.polls := by
  cases hstep with
  | init happ => exact (initKeeps _ f).polls ▸ List.prefix_rfl
  | @dispatch a task tasks happ htasks =>
      cases task with
      | meterPoll => exact List.prefix_append f.polls [f.poll]
      | buttonEventHandler state hasChanged => exact List.prefix_rfl
  | powerCut => exact absurd trivial hothers
  | powerCutDuring happ htasks => exact absurd trivial hothers
  | _ => exact List.prefix_rfl

/-- Without a power cut the windows of a boot only grow. -/
theorem windows_prefix_of_run {fs : List FirmwareEvent}
    (hothers : (firmware (some cfg)).Admits (fun f e => ¬ f.SwitchesOff e) f fs)
    (hrun : (firmware (some cfg)).run f fs = some g) : windows f.polls <+: windows g.polls := by
  have hpolls : f.polls <+: g.polls :=
    (firmware (some cfg)).run_invariant_of_admits (P := fun g => f.polls <+: g.polls)
      (fun _ _ _ h hok hstep => h.trans (polls_prefix_of_step hok (firmwareStep_of_step hstep)))
      List.prefix_rfl hothers hrun
  obtain ⟨ps, hps⟩ := hpolls
  rw [← hps, windows, windows, windowsAfter_append]
  exact List.prefix_append _ _

/-- Short of a multiple, the remainder grows with the number. -/
theorem succ_mod_of_not_dvd {c n : Nat} (hn : 0 < n) (h : ¬ n ∣ c + 1) :
    (c + 1) % n = c % n + 1 := by
  have hlt : c % n < n := Nat.mod_lt c hn
  have hsplit : c + 1 = c % n + 1 + n * (c / n) := by
    have hdiv := Nat.div_add_mod c n
    omega
  have hne : c % n + 1 ≠ n := by
    intro heq
    rw [heq] at hsplit
    exact h ⟨c / n + 1, by rw [hsplit]; ring⟩
  rw [hsplit, Nat.add_mul_mod_self_left, Nat.mod_eq_of_lt (by omega)]

/-- **Run lemma**: the windows that are missing to the next multiple of the
number of samples, all above the threshold, contain one whose poll trips. -/
theorem exists_trip (hN : 0 < cfg.samples.toNat) {fs : List FirmwareEvent} {ws : List Window}
    (hguards : Guards cfg f) (hload : LoadOn f)
    (hothers : (firmware (some cfg)).Admits (fun f e => ¬ f.SwitchesOff e) f fs)
    (hrun : (firmware (some cfg)).run f fs = some g)
    (hwindows : windows g.polls = windows f.polls ++ ws)
    (hover : ∀ w ∈ ws, cfg.exceeds w = true)
    (hlen : cfg.samples.toNat ≤ f.overPowerStreak cfg % cfg.samples.toNat + ws.length) :
    ∃ fs₁ a fs₂ h tasks, fs = fs₁ ++ .dispatch a :: fs₂ ∧
      (firmware (some cfg)).run f fs₁ = some h ∧ h.tasks = .meterPoll :: tasks ∧
      h.Trips (some cfg) ∧ LoadOn h := by
  induction fs generalizing f ws with
  | nil =>
      obtain rfl := Option.some.inj hrun
      have hnil : ws = [] := by simpa using hwindows
      have hlt := Nat.mod_lt (f.overPowerStreak cfg) hN
      rw [hnil, List.length_nil] at hlen
      omega
  | cons e fs ih =>
      obtain ⟨u, hu, hrun'⟩ := (firmware (some cfg)).run_cons_eq_some.mp hrun
      obtain ⟨hother, hothers'⟩ := hothers u hu
      have hstep := firmwareStep_of_step hu
      have hguards' := hguards.step hN hstep
      -- what is found in the rest of the run is found in the run
      have hlater : (∃ fs₁ a fs₂ h tasks, fs = fs₁ ++ .dispatch a :: fs₂ ∧
            (firmware (some cfg)).run u fs₁ = some h ∧ h.tasks = .meterPoll :: tasks ∧
            h.Trips (some cfg) ∧ LoadOn h) →
          ∃ fs₁ a fs₂ h tasks, e :: fs = fs₁ ++ .dispatch a :: fs₂ ∧
            (firmware (some cfg)).run f fs₁ = some h ∧ h.tasks = .meterPoll :: tasks ∧
            h.Trips (some cfg) ∧ LoadOn h := by
        rintro ⟨fs₁, a, fs₂, h, tasks, rfl, hrun₁, hrest⟩
        exact ⟨e :: fs₁, a, fs₂, h, tasks, rfl,
          (firmware (some cfg)).run_cons_eq_some.mpr ⟨u, hu, hrun₁⟩, hrest⟩
      obtain ⟨hload', hpolls⟩ | ⟨a, tasks, rfl, htasks, hpolls, htrip | hload'⟩ :=
        hload.step hother hstep
      · refine hlater (ih hguards' hload' hothers' hrun' (hpolls ▸ hwindows) hover ?_)
        rwa [overPowerStreak, hpolls]
      · exact ⟨[], a, fs, f, tasks, rfl, rfl, htasks, htrip, hload⟩
      · by_cases htrip : f.Trips (some cfg)
        · exact ⟨[], a, fs, f, tasks, rfl, rfl, htasks, htrip, hload⟩
        have hclosed : windows u.polls = windows f.polls ++ f.window.toList := by
          rw [hpolls, hguards.windows_polls]
        cases hw : f.window with
        | none =>
            rw [hw, Option.toList_none, List.append_nil] at hclosed
            refine hlater (ih hguards' hload' hothers' hrun' (hclosed ▸ hwindows) hover ?_)
            rwa [overPowerStreak, hclosed]
        | some w =>
            rw [hw, Option.toList_some] at hclosed
            have hprefix := windows_prefix_of_run hothers' hrun'
            rw [hclosed, hwindows, List.prefix_append_right_inj] at hprefix
            obtain ⟨ws', rfl⟩ := hprefix
            have hexceeds : cfg.exceeds w = true := hover w (by simp)
            have hstreak : u.overPowerStreak cfg = f.overPowerStreak cfg + 1 := by
              rw [overPowerStreak, hclosed, streak_concat, if_pos hexceeds]
              rfl
            have hmultiple : ¬ cfg.samples.toNat ∣ f.overPowerStreak cfg + 1 := by
              intro hdvd
              rw [← hstreak] at hdvd
              refine htrip ((hguards.trips_iff hN).mpr ⟨by rw [hw]; rfl, hload.relay, ?_⟩)
              rw [← hpolls]
              exact ⟨by rw [show streak _ _ = _ from hstreak]; omega, hdvd⟩
            have hrest : windows g.polls = windows u.polls ++ ws' := by
              rw [hwindows, hclosed, List.append_assoc]
            refine hlater (ih hguards' hload' hothers' hrun' hrest ?_ ?_)
            · exact fun v hv => hover v (by simp [hv])
            · rw [List.length_append, List.length_singleton] at hlen
              rw [hstreak, succ_mod_of_not_dvd hN hmultiple]
              omega

/-- **An overload is answered.**  From any state of any run in which the load is
on, and however button events, timers, the Matter thread and delayed polls
interleave: while nobody else switches the load off, windows above the
threshold, as many as a trip needs, contain one whose poll tries to open the
relay.  The load is off after it exactly when the relay write succeeds, and
controllers are told either way.  Where the write fails nothing is latched, so
the same holds again of the windows that follow. -/
theorem overload_is_answered (cfg : OverPowerConfig) (hN : 1 ≤ cfg.samples.toNat)
    (answers : StartAnswers) (kvs : Option Int) (onOff : Bool) (es fs : List FirmwareEvent)
    (f g : Firmware) (ws : List Window)
    (hrun : (firmware (some cfg)).run (powerOn answers kvs onOff) es = some f)
    (happ : f.app = .dispatching) (hon : f.plug.relayIsOn = true)
    (hothers : (firmware (some cfg)).Admits (fun f e => ¬ f.SwitchesOff e) f fs)
    (hrun' : (firmware (some cfg)).run f fs = some g)
    (hwindows : windows g.polls = windows f.polls ++ ws)
    (hover : ∀ w ∈ ws, cfg.exceeds w = true) (hlen : cfg.samples.toNat ≤ ws.length) :
    ∃ fs₁ a fs₂ h h', fs = fs₁ ++ .dispatch a :: fs₂ ∧
      (firmware (some cfg)).run f fs₁ = some h ∧ h.Trips (some cfg) ∧
      (firmware (some cfg)).step h (.dispatch a) = some h' ∧
      (h'.plug.relayIsOn = false ↔ a.relayErr = 0) ∧
      h'.plug.lambdas = h.plug.lambdas + 1 := by
  have hload : LoadOn f := ⟨happ, ((startUp_of_run hrun).outputsReady happ).relay, hon⟩
  obtain ⟨fs₁, a, fs₂, h, tasks, rfl, hrun₁, htasks, htrip, hload'⟩ :=
    exists_trip hN (guards_of_run hN hrun) hload hothers hrun' hwindows hover (by omega)
  have hstep : (firmware (some cfg)).step h (.dispatch a) =
      some (Firmware.meterPoll (some cfg) a { h with tasks := tasks }) := by
    simp only [firmware, nextTask_of_dispatching hload'.app htasks]
    rfl
  have hplug := plug_meterPoll (some cfg) a { h with tasks := tasks }
  rw [if_pos (show Firmware.Trips (some cfg) { h with tasks := tasks } from htrip)] at hplug
  refine ⟨fs₁, a, fs₂, h, _, rfl, hrun₁, htrip, hstep, ?_, by rw [hplug]; rfl⟩
  rw [hplug]
  by_cases herr : a.relayErr = 0
  · rw [herr]
    exact iff_of_true (Plug.relayIsOn_relaySet hload'.ready false) rfl
  · rw [Plug.relaySet_of_ne_zero herr]
    exact iff_of_false (Bool.eq_false_iff.mp · hload'.relay) herr

/-- The second of two windows with a pulse each trips, though its relay write
fails. -/
theorem overload_is_answered_by_second_window :
    let cfg : OverPowerConfig := { thresholdMw := 0, samples := 2 }
    let es := initEvents ++ [.onOffClusterInit true 0] ++ pulsedSecond {}
    let fs := pulsedSecond {} ++ [.controllerWrite true true 0] ++ pulsedSecond { relayErr := -5 }
    ∃ f, (firmware (some cfg)).run (powerOn {} none true) es = some f ∧
      ∃ fs₁ a fs₂ h h', fs = fs₁ ++ .dispatch a :: fs₂ ∧
        (firmware (some cfg)).run f fs₁ = some h ∧ h.Trips (some cfg) ∧
        (firmware (some cfg)).step h (.dispatch a) = some h' ∧
        (h'.plug.relayIsOn = false ↔ a.relayErr = 0) ∧ h'.plug.lambdas = h.plug.lambdas + 1 :=
  let w : Window := { windowMs := 1000, cf := 1, cf1 := 0, pos := by decide }
  ⟨_, rfl, overload_is_answered { thresholdMw := 0, samples := 2 } (by decide) {} none true
    (initEvents ++ [.onOffClusterInit true 0] ++ pulsedSecond {})
    (pulsedSecond {} ++ [.controllerWrite true true 0] ++ pulsedSecond { relayErr := -5 }) _ _
    [w, w] rfl rfl rfl (by decide) rfl rfl (by decide) (by decide)⟩

end Firmware

end UascentPlug
