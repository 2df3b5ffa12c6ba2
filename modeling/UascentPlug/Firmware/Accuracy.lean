import UascentPlug.Bl0937.Accuracy
import UascentPlug.Firmware.Int64
import UascentPlug.Firmware.Readings

/-!
# UascentPlug.Firmware.Accuracy

From pulses to energy in the whole firmware.  `UascentPlug.Bl0937.Accuracy` says
how far a published power can be from a steady load; here the powers go through
the integrator, with its two divisions at every call, and the total is
compared with the load itself (`steady_load_in_the_field`).  A load may be
switched on at any time in a boot: the filter holds on to the power before it
until a block lies in the new load's windows (`Settles`).
-/

namespace UascentPlug

open PowerMeasurement SampleStream

/-! ## the integrator between two bounds -/

/-- The energy of a call lies between that of the bounds on its powers, but for
less than 1 mWh that is rounded away. -/
theorem energyMwh_bounds {lo hi : ℚ} {last power elapsedMs : Int} (hlast : 0 ≤ last)
    (hpower : 0 ≤ power) (hlo : lo ≤ last ∧ lo ≤ power) (hhi : last ≤ hi ∧ power ≤ hi)
    (helapsed : 0 ≤ elapsedMs) :
    lo * elapsedMs / 3600000 - 1 ≤ energyMwh last power elapsedMs ∧
      (energyMwh last power elapsedMs : ℚ) ≤ hi * elapsedMs / 3600000 := by
  have hdiv : energyMwh last power elapsedMs = (last + power) / 2 * elapsedMs / 3600000 := by
    have hmean : (last + power).tdiv 2 = (last + power) / 2 :=
      Int.tdiv_eq_ediv_of_nonneg (by omega)
    rw [energyMwh, hmean]
    exact Int.tdiv_eq_ediv_of_nonneg (Int.mul_nonneg (by omega) helapsed)
  have hmean : lo ≤ ((last + power) / 2 : Int) ∧ (((last + power) / 2 : Int) : ℚ) ≤ hi := by
    have hmin : min last power ≤ (last + power) / 2 := by omega
    have hmax : (last + power) / 2 ≤ max last power := by omega
    constructor
    · exact (le_min hlo.1 hlo.2).trans (by exact_mod_cast hmin)
    · exact le_trans (by exact_mod_cast hmax) (max_le hhi.1 hhi.2)
  have helapsedQ : (0 : ℚ) ≤ elapsedMs := by exact_mod_cast helapsed
  generalize (last + power) / 2 = mean at hdiv hmean
  have hfloor : energyMwh last power elapsedMs * 3600000 ≤ mean * elapsedMs := by
    rw [hdiv]
    exact Int.ediv_mul_le _ (by decide)
  have hceil : mean * elapsedMs < (energyMwh last power elapsedMs + 1) * 3600000 := by
    rw [hdiv]
    exact Int.lt_ediv_add_one_mul_self _ (by decide)
  have hfloorQ : (energyMwh last power elapsedMs : ℚ) * 3600000 ≤ mean * elapsedMs := by
    exact_mod_cast hfloor
  have hceilQ : (mean : ℚ) * elapsedMs < (energyMwh last power elapsedMs + 1) * 3600000 := by
    exact_mod_cast hceil
  have hlow := mul_le_mul_of_nonneg_right hmean.1 helapsedQ
  have hhigh := mul_le_mul_of_nonneg_right hmean.2 helapsedQ
  constructor
  · rw [sub_le_iff_le_add, div_le_iff₀ (by norm_num)]
    linarith
  · rw [le_div_iff₀ (by norm_num)]
    linarith

/-! ## the windows since a poll -/

/-- The windows since poll `n` are the last ones of the boot. -/
theorem measured_drop_suffix (n : ℕ) (last : Option Int) (ps : List Poll) :
    measured (ps.drop n) <:+ measuredAfter last ps := by
  induction ps generalizing n last with
  | nil => simp [measured, measuredAfter]
  | cons p ps ih =>
      have hlater : measuredAfter (stampOf p.nowMs) ps <:+ measuredAfter last (p :: ps) :=
        List.suffix_append _ _
      cases n with
      | zero => exact hlater
      | succ n => exact (ih n (stampOf p.nowMs)).trans hlater

/-- A poll adds the same window to those of the boot and to those since poll `n`. -/
theorem measured_drop_concat {n : ℕ} {ps : List Poll} (hn : n < ps.length) (p : Poll) :
    measured ((ps ++ [p]).drop n) =
      measured (ps.drop n) ++ (p.window (measuredStamp ps)).toList := by
  rw [List.drop_append_of_le_length hn.le, measured_concat, measuredStamp, List.getLast?_drop,
    if_neg hn.not_ge, measuredStamp]

/-- The last complete block of three windows lies after poll `n`; from five
windows on it does. -/
def Settles (n : ℕ) (ps : List Poll) : Prop :=
  (measured ps).length % 3 + 3 ≤ (measured (ps.drop n)).length

instance (n : ℕ) (ps : List Poll) : Decidable (Settles n ps) := inferInstanceAs (Decidable (_ ≤ _))

/-- Five windows since poll `n` contain a complete block. -/
theorem settles_of_five_le {n : ℕ} {ps : List Poll} (h : 5 ≤ (measured (ps.drop n)).length) :
    Settles n ps := by
  rw [Settles]
  omega

namespace Settles

variable {n : ℕ} {ps : List Poll}

/-- Poll `n` has run. -/
theorem lt_length (h : Settles n ps) : n < ps.length := by
  by_contra hge
  rw [Settles, List.drop_of_length_le (not_lt.mp hge)] at h
  simp [measured, measuredAfter] at h

/-- Later blocks lie after poll `n` as well. -/
theorem concat (h : Settles n ps) (p : Poll) : Settles n (ps ++ [p]) := by
  have hn := h.lt_length
  rw [Settles] at h ⊢
  rw [measured_concat, measured_drop_concat hn, List.length_append, List.length_append]
  have hone := Option.length_toList_le (o := p.window (measuredStamp ps))
  omega

/-- The reading is that of a window since poll `n`. -/
theorem exists_lastMedian (h : Settles n ps) :
    ∃ w ∈ measured (ps.drop n),
      lastMedian (fun _ => true) ((measured ps).map Window.cfSample) = some w.cfSample := by
  obtain ⟨before, heq⟩ : measured (ps.drop n) <:+ measured ps := measured_drop_suffix n none ps
  have hblock : ((before ++ measured (ps.drop n)).map Window.cfSample).length % 3 + 3 ≤
      ((measured (ps.drop n)).map Window.cfSample).length := by
    rw [heq, List.length_map, List.length_map]
    exact h
  rw [List.map_append] at hblock
  obtain ⟨rate, hmem, hmedian⟩ := exists_lastMedian_append hblock
  obtain ⟨w, hw, rfl⟩ := List.mem_map.mp hmem
  rw [← List.map_append, heq] at hmedian
  exact ⟨w, hw, hmedian⟩

end Settles

/-! ## powers published over a steady load -/

/-- Below every power published over the load, once a block is complete. -/
def lowestMw (train : PulseTrain) (minMs : ℚ) : ℚ :=
  (train.perSec - 1000 / minMs - 1) * 10 ^ 6 / 775 - 1

/-- Above every power published over the load. -/
def highestMw (train : PulseTrain) (minMs : ℚ) : ℚ := (train.perSec + 1000 / minMs) * 10 ^ 6 / 775

namespace Firmware

variable {cfg : Option OverPowerConfig} {f g : Firmware} {train : PulseTrain} {minMs : ℚ}

/-- The power is never negative. -/
theorem Measures.power_nonneg (h : Measures f) : 0 ≤ f.meter.sLastActivePowerMw := by
  have hpower : f.meter.sLastActivePowerMw = _ := h.follows.activePower
  rw [hpower]
  exact blockReading_nonneg _ _ _

/-- Once a block lies after poll `n`, the power is that of the load since then. -/
theorem Measures.power_accurate {n : ℕ} (h : Measures f) (hmin : 1 ≤ minMs)
    (hrate : train.perSec < 2 ^ 31) (hsettled : Settles n f.polls)
    (hcarries : Carries train minMs (f.polls.drop n)) :
    lowestMw train minMs ≤ f.meter.sLastActivePowerMw ∧
      (f.meter.sLastActivePowerMw : ℚ) ≤ highestMw train minMs := by
  obtain ⟨w, hw, hmedian⟩ := hsettled.exists_lastMedian
  have hpower : f.meter.sLastActivePowerMw = _ := h.follows.activePower
  rw [hpower, Meter.blockReading_of_lastMedian hmedian]
  obtain ⟨hlower, hupper⟩ := (Meter.accurate_of_mem_measured hmin hrate hcarries hw).reading
  exact ⟨hlower.le, hupper.le⟩

/-! ## what a poll adds to the total -/

/-- The driver and the measurement module go together: once a call has been
made in a boot, the integrator goes on from the reading last published. -/
structure Synced (f : Firmware) : Prop where
  startUp : StartUp f
  order : InOrder f
  measures : Measures f
  uptime : 0 ≤ f.uptimeMs
  hook : f.pm.sDelegate.isSome = true → f.postServerInitClbk = false
  delegate : f.pm.sHaveLastSample = true → f.pm.sDelegate.isSome = true
  power : f.pm.sHaveLastSample = true → f.pm.sLastActivePowerMw = f.meter.sLastActivePowerMw
  clock : f.pm.sHaveLastSample = true → f.pm.sLastSampleMs ≤ f.uptimeMs

/-- When power comes on no call has been made. -/
theorem synced_powerOn (answers : StartAnswers) (kvs : Option Int) (onOff : Bool) :
    Synced (powerOn answers kvs onOff) where
  startUp := startUp_powerOn answers kvs onOff
  order := inOrder_powerOn answers kvs onOff
  measures := measures_powerOn answers kvs onOff
  uptime := le_refl _
  hook := by simp [powerOn]
  delegate := by simp [powerOn]
  power := by simp [powerOn]
  clock := by simp [powerOn]

/-- What an event does to the energy total of a boot, between the powers `last`
and `power`: nothing, or what one publication adds. -/
inductive Accrues (s s' : PowerMeasurement) (last power : Int) : List Publication → Prop where
  | unchanged (hpm : s'.sCumulativeEnergyMwh = s.sCumulativeEnergyMwh)
      (hclock : s'.sLastSampleMs = s.sLastSampleMs) : Accrues s s' last power []
  | published (p : Publication) (helapsed : s.sLastSampleMs ≤ s'.sLastSampleMs)
      (htotal : s'.sCumulativeEnergyMwh = s.sCumulativeEnergyMwh +
        energyMwh last power (s'.sLastSampleMs - s.sLastSampleMs)) : Accrues s s' last power [p]

namespace Synced

/-- Only what the integrator does not look at has changed. -/
theorem of_eq (h : Synced f) (hstart : StartUp g) (horder : InOrder g) (hmeasures : Measures g)
    (hpm : g.pm = f.pm) (hpower : g.meter.sLastActivePowerMw = f.meter.sLastActivePowerMw)
    (huptime : f.uptimeMs ≤ g.uptimeMs) (hhook : g.postServerInitClbk = f.postServerInitClbk) :
    Synced g where
  startUp := hstart
  order := horder
  measures := hmeasures
  uptime := h.uptime.trans huptime
  hook := by rw [hpm, hhook]; exact h.hook
  delegate := by rw [hpm]; exact h.delegate
  power := by rw [hpm, hpower]; exact h.power
  clock := by rw [hpm]; exact fun hprimed => (h.clock hprimed).trans huptime

/-- A poll that closes a window goes on from the power it publishes. -/
theorem meterPoll_of_window {w : Window} (h : Synced f) (hw : f.window = some w)
    {cfg : Option OverPowerConfig} {a : TaskAnswers} (hstart : StartUp (f.meterPoll cfg a))
    (horder : InOrder (f.meterPoll cfg a)) :
    Synced (f.meterPoll cfg a) ∧ (f.pm.sHaveLastSample = true →
      (f.meterPoll cfg a).pm.sHaveLastSample = true ∧
        Accrues f.pm (f.meterPoll cfg a).pm f.meter.sLastActivePowerMw
          (f.meterPoll cfg a).meter.sLastActivePowerMw (f.publications cfg a)) := by
  have hmeasures := h.measures.meterPoll cfg a
  have hpm : (f.meterPoll cfg a).pm = (f.pm.powerMeasurementUpdate (f.sample cfg a)).1 :=
    congrArg Prod.fst (publish_of_window_some hw a)
  have hlate : f.uptimeMs ≤ (f.meterPoll cfg a).uptimeMs := by simp [Firmware.meterPoll]
  cases hdelegate : f.pm.sDelegate with
  | none =>
      have hunprimed : f.pm.sHaveLastSample ≠ true := fun hprimed => by
        simpa [hdelegate] using h.delegate hprimed
      rw [powerMeasurementUpdate_of_none hdelegate] at hpm
      refine ⟨?_, fun hprimed => absurd hprimed hunprimed⟩
      constructor
      case startUp => exact hstart
      case order => exact horder
      case measures => exact hmeasures
      case uptime => exact h.uptime.trans hlate
      case hook => rw [hpm]; exact h.hook
      case delegate => rw [hpm]; exact h.delegate
      case power => rw [hpm]; exact fun hprimed => absurd hprimed hunprimed
      case clock => rw [hpm]; exact fun hprimed => absurd hprimed hunprimed
  | some delegate =>
      have hsome : f.pm.sDelegate.isSome = true := by rw [hdelegate]; rfl
      have hupdated := updated (f.sample cfg a) hsome
      rw [← hpm] at hupdated
      refine ⟨⟨hstart, horder, hmeasures, h.uptime.trans hlate, fun _ => h.hook hsome,
        fun _ => hupdated.delegate, fun _ => hupdated.power, fun _ => hupdated.clock.le⟩, ?_⟩
      intro hprimed
      refine ⟨hupdated.primed, ?_⟩
      rw [Firmware.publications, publish_of_window_some hw]
      refine .published _ ?_ ?_
      · rw [hupdated.clock]
        exact (h.clock hprimed).trans hlate
      · rw [hupdated.total, totalMwh, stepMwh, if_pos hprimed, h.power hprimed, hupdated.clock]
        rfl

/-- A poll keeps the two modules together, and adds what it publishes. -/
theorem meterPoll (h : Synced f) {cfg : Option OverPowerConfig} {a : TaskAnswers}
    (hstart : StartUp (f.meterPoll cfg a)) (horder : InOrder (f.meterPoll cfg a)) :
    Synced (f.meterPoll cfg a) ∧ (f.pm.sHaveLastSample = true →
      (f.meterPoll cfg a).pm.sHaveLastSample = true ∧
        Accrues f.pm (f.meterPoll cfg a).pm f.meter.sLastActivePowerMw
          (f.meterPoll cfg a).meter.sLastActivePowerMw (f.publications cfg a)) := by
  cases hw : f.window with
  | some w => exact h.meterPoll_of_window hw hstart horder
  | none =>
      have hpm : (f.meterPoll cfg a).pm = f.pm := congrArg Prod.fst (publish_of_window_none hw a)
      have hpower : (f.meterPoll cfg a).meter.sLastActivePowerMw = f.meter.sLastActivePowerMw := by
        rw [Firmware.meterPoll, meter_of_window_none hw]
        rfl
      refine ⟨h.of_eq hstart horder (h.measures.meterPoll cfg a) hpm hpower
        (by simp [Firmware.meterPoll]) rfl, fun hprimed => ⟨by rw [hpm]; exact hprimed, ?_⟩⟩
      rw [Firmware.publications, publish_of_window_none hw]
      exact .unchanged (by rw [hpm]) (by rw [hpm])

/-- A step of start-up calls neither module. -/
theorem initStep (h : Synced f) {next : InitStep} (happ : f.app = .init next) :
    Synced (f.initStep next) := by
  have hkeeps := f.initKeeps next
  obtain ⟨-, hhook⟩ := f.initStep_server next
  have hpower : (f.initStep next).meter.sLastActivePowerMw = f.meter.sLastActivePowerMw := by
    by_cases hnext : next = .meterInit
    · subst hnext
      simp only [Firmware.initStep, Meter.meterInit]
      split <;> rfl
    · rw [(f.initStep_unmetered hnext).1]
  have hstart := h.startUp.initStep happ
  have horder := h.order.initStep happ
  have hmeasures := h.measures.initStep h.startUp happ
  by_cases hnext : next = .prepareServer
  · -- the hook is handed over before anything is initialised
    subst hnext
    have hstopped : f.serverStarted = false := (h.order.server _ happ).trans (by decide)
    have hfresh := (h.startUp.unswitched hstopped).2.2.2
    constructor
    case startUp => exact hstart
    case order => exact horder
    case measures => exact hmeasures
    case uptime => rw [hkeeps.uptimeMs]; exact h.uptime
    case hook => simp [hkeeps.pm, hfresh]
    case delegate => simp [hkeeps.pm, hfresh]
    case power => simp [hkeeps.pm, hfresh]
    case clock => simp [hkeeps.pm, hfresh]
  · exact h.of_eq hstart horder hmeasures hkeeps.pm hpower hkeeps.uptimeMs.ge
      (by rw [hhook]; simp [hnext])

/-- The hook runs once, before the first call. -/
theorem postServerInit (h : Synced f) (hhook : f.postServerInitClbk = true)
    {instanceErr attrAccessErr accuracyErr readErr : ChipError}
    (hstart : StartUp (f.postServerInit instanceErr attrAccessErr accuracyErr readErr))
    (horder : InOrder (f.postServerInit instanceErr attrAccessErr accuracyErr readErr)) :
    Synced (f.postServerInit instanceErr attrAccessErr accuracyErr readErr) ∧
      f.pm.sHaveLastSample = false := by
  have hunprimed : f.pm.sHaveLastSample = false := by
    by_contra hprimed
    rw [Bool.not_eq_false] at hprimed
    have hhook' := h.hook (h.delegate hprimed)
    rw [hhook] at hhook'
    contradiction
  have hstill : (f.postServerInit instanceErr attrAccessErr accuracyErr
      readErr).pm.sHaveLastSample = false := by
    simp only [Firmware.postServerInit, powerMeasurementInit, loadCumulativeEnergy]
    split_ifs <;> exact hunprimed
  refine ⟨⟨hstart, horder, h.measures.of_eq rfl rfl, h.uptime, fun _ => rfl, ?_, ?_, ?_⟩,
    hunprimed⟩
  all_goals
    rw [hstill]
    exact fun hprimed => absurd hprimed (by simp)

/-- **Step lemma**: the two modules stay together, and after the first call of
a boot the total changes by what is published. -/
theorem step {e : FirmwareEvent} (h : Synced f) (hcut : e.cutsPower = false)
    (hstep : FirmwareStep cfg f e g) :
    Synced g ∧ (f.pm.sHaveLastSample = true →
      g.pm.sHaveLastSample = true ∧ Accrues f.pm g.pm f.meter.sLastActivePowerMw
        g.meter.sLastActivePowerMw (f.published cfg e)) := by
  have hstart := h.startUp.step hstep
  have horder := h.order.step hstep
  have hmeasures := (h.measures.step h.startUp hcut hstep).1
  cases hstep with
  | @init next happ =>
      have hpm := (f.initKeeps next).pm
      exact ⟨h.initStep happ, fun hprimed =>
        ⟨by rw [hpm]; exact hprimed, .unchanged (by rw [hpm]) (by rw [hpm])⟩⟩
  | @dispatch a task tasks happ htasks =>
      cases task with
      | meterPoll =>
          have h' : Synced { f with tasks := tasks } :=
            ⟨⟨h.startUp.stage, h.startUp.ready, h.startUp.started,
              fun hother => absurd happ hother, h.startUp.unswitched⟩, ⟨h.order.board,
              h.order.server, h.order.restored⟩, h.measures.of_eq rfl rfl, h.uptime, h.hook,
              h.delegate, h.power, h.clock⟩
          simp only [published, htasks, List.head?_cons]
          exact h'.meterPoll hstart horder
      | buttonEventHandler state hasChanged =>
          simp only [published, htasks, List.head?_cons]
          exact ⟨h.of_eq hstart horder hmeasures rfl rfl le_rfl rfl,
            fun hprimed => ⟨hprimed, .unchanged rfl rfl⟩⟩
  | postServerInit hstarted hhook =>
      obtain ⟨hsynced, hunprimed⟩ := h.postServerInit hhook hstart horder
      exact ⟨hsynced, fun hprimed => absurd hprimed (by simp [hunprimed])⟩
  | elapse =>
      exact ⟨h.of_eq hstart horder hmeasures rfl rfl (by simp) rfl,
        fun hprimed => ⟨hprimed, .unchanged rfl rfl⟩⟩
  | powerCut => contradiction
  | powerCutDuring happ htasks => contradiction
  | _ =>
      exact ⟨h.of_eq hstart horder hmeasures rfl rfl le_rfl rfl,
        fun hprimed => ⟨hprimed, .unchanged rfl rfl⟩⟩

end Synced

/-- **Run lemma**: the two modules stay together for the whole boot. -/
theorem synced_of_boot {answers : StartAnswers} {kvs : Option Int} {onOff : Bool}
    {es : List FirmwareEvent} (hboot : ∀ e ∈ es, e.cutsPower = false)
    (hrun : (firmware cfg).run (powerOn answers kvs onOff) es = some f) : Synced f :=
  (firmware cfg).run_invariant (Q := fun e => e.cutsPower = false)
    (fun _ _ _ h hcut hstep => (h.step hcut (firmwareStep_of_step hstep)).1)
    (synced_powerOn answers kvs onOff) hboot hrun

/-- In a boot, an event adds at most one poll. -/
theorem polls_step {e : FirmwareEvent} (hcut : e.cutsPower = false)
    (hstep : FirmwareStep cfg f e g) : g.polls = f.polls ∨ g.polls = f.polls ++ [f.poll] := by
  cases hstep with
  | @init next happ => exact Or.inl (f.initKeeps next).polls
  | @dispatch a task tasks happ htasks =>
      cases task with
      | meterPoll => exact Or.inr rfl
      | buttonEventHandler state hasChanged => exact Or.inl rfl
  | powerCut => contradiction
  | powerCutDuring happ htasks => contradiction
  | _ => exact Or.inl rfl

/-! ## the total over a steady load -/

/-- Between the two states, the total grew by what a power between `lo` and `hi`
delivers, but for less than 1 mWh a call. -/
structure Delivered (lo hi : ℚ) (f g : Firmware) (calls : ℕ) : Prop where
  ordered : f.pm.sLastSampleMs ≤ g.pm.sLastSampleMs
  lower : lo * (g.pm.sLastSampleMs - f.pm.sLastSampleMs : ℚ) / 3600000 - calls ≤
    g.pm.sCumulativeEnergyMwh - f.pm.sCumulativeEnergyMwh
  upper : (g.pm.sCumulativeEnergyMwh - f.pm.sCumulativeEnergyMwh : ℚ) ≤
    hi * (g.pm.sLastSampleMs - f.pm.sLastSampleMs : ℚ) / 3600000

namespace Delivered

variable {lo hi : ℚ} {m n : ℕ} {k : Firmware}

/-- Nothing is delivered in no time. -/
theorem refl (lo hi : ℚ) (f : Firmware) : Delivered lo hi f f 0 where
  ordered := le_refl _
  lower := by simp
  upper := by simp

/-- What is delivered in two stretches adds up. -/
theorem trans (h : Delivered lo hi f g m) (h' : Delivered lo hi g k n) :
    Delivered lo hi f k (m + n) := by
  have hsplit : ∀ p : ℚ, p * (k.pm.sLastSampleMs - f.pm.sLastSampleMs : ℚ) / 3600000 =
      p * (g.pm.sLastSampleMs - f.pm.sLastSampleMs : ℚ) / 3600000 +
        p * (k.pm.sLastSampleMs - g.pm.sLastSampleMs : ℚ) / 3600000 := by
    intro p
    ring
  have hlower := h.lower
  have hlower' := h'.lower
  have hupper := h.upper
  have hupper' := h'.upper
  constructor
  case ordered => exact h.ordered.trans h'.ordered
  case lower =>
      rw [hsplit lo]
      push_cast
      linarith
  case upper =>
      rw [hsplit hi]
      linarith

end Delivered

/-- What a publication adds, between bounds on the powers before and after. -/
theorem Accrues.delivered {ps : List Publication} {lo hi : ℚ}
    (h : Accrues f.pm g.pm f.meter.sLastActivePowerMw g.meter.sLastActivePowerMw ps)
    (hf : 0 ≤ f.meter.sLastActivePowerMw) (hg : 0 ≤ g.meter.sLastActivePowerMw)
    (hlo : lo ≤ f.meter.sLastActivePowerMw ∧ lo ≤ g.meter.sLastActivePowerMw)
    (hhi : f.meter.sLastActivePowerMw ≤ hi ∧ g.meter.sLastActivePowerMw ≤ hi) :
    Delivered lo hi f g ps.length := by
  cases h with
  | unchanged hpm hclock =>
      constructor
      case ordered => exact hclock.ge
      case lower => simp [hpm, hclock]
      case upper => simp [hpm, hclock]
  | published p helapsed htotal =>
      obtain ⟨hlower, hupper⟩ := energyMwh_bounds hf hg hlo hhi (Int.sub_nonneg.mpr helapsed)
      rw [Int.cast_sub] at hlower hupper
      constructor
      case ordered => exact helapsed
      case lower =>
          rw [htotal, List.length_singleton]
          push_cast
          linarith
      case upper =>
          rw [htotal]
          push_cast
          linarith

/-- A steady load is metered: once a block lies after poll `n` and a call was
made, the total grows by what the load delivers, a call to each window. -/
structure Metered (train : PulseTrain) (minMs : ℚ) (n : ℕ) (f g : Firmware) : Prop where
  synced : Synced g
  primed : g.pm.sHaveLastSample = true
  settled : Settles n g.polls
  grown : (measured f.polls).length ≤ (measured g.polls).length
  delivered : Carries train minMs (g.polls.drop n) →
    Delivered (lowestMw train minMs) (highestMw train minMs) f g
      ((measured g.polls).length - (measured f.polls).length)

/-- A window makes one publication. -/
theorem Measures.length_measured {e : FirmwareEvent} (h : Measures f) (hstart : StartUp f)
    (hcut : e.cutsPower = false) (hstep : FirmwareStep cfg f e g) :
    (measured g.polls).length = (measured f.polls).length + (f.published cfg e).length := by
  have htrace := congrArg List.length (h.step hstart hcut hstep).2
  simpa [readingsTrace] using htrace

/-- **Step lemma**: an event delivers what the load does. -/
theorem Metered.step {n : ℕ} {k : Firmware} {e : FirmwareEvent} (h : Metered train minMs n f g)
    (hmin : 1 ≤ minMs) (hrate : train.perSec < 2 ^ 31) (hcut : e.cutsPower = false)
    (hstep : FirmwareStep cfg g e k) : Metered train minMs n f k := by
  obtain ⟨hsynced, haccrues⟩ := h.synced.step hcut hstep
  obtain ⟨hprimed, haccrues⟩ := haccrues h.primed
  have hmore : Settles n k.polls ∧
      (Carries train minMs (k.polls.drop n) → Carries train minMs (g.polls.drop n)) := by
    obtain hsame | hpolled := polls_step hcut hstep
    · rw [hsame]
      exact ⟨h.settled, id⟩
    · rw [hpolled, List.drop_append_of_le_length h.settled.lt_length.le]
      exact ⟨h.settled.concat _, List.IsChain.left_of_append⟩
  have hlength := h.synced.measures.length_measured h.synced.startUp hcut hstep
  have hgrown := h.grown
  refine ⟨hsynced, hprimed, hmore.1, by omega, fun hcarries => ?_⟩
  have hbefore := h.synced.measures.power_accurate hmin hrate h.settled (hmore.2 hcarries)
  have hafter := hsynced.measures.power_accurate hmin hrate hmore.1 hcarries
  rw [hlength, Nat.sub_add_comm hgrown]
  exact (h.delivered (hmore.2 hcarries)).trans (haccrues.delivered h.synced.measures.power_nonneg
    hsynced.measures.power_nonneg ⟨hbefore.1, hafter.1⟩ ⟨hbefore.2, hafter.2⟩)

/-- **Run lemma**: so do the rest of a boot's events. -/
theorem metered_of_boot {answers : StartAnswers} {kvs : Option Int} {onOff : Bool}
    {es fs : List FirmwareEvent} {n : ℕ} (hmin : 1 ≤ minMs) (hrate : train.perSec < 2 ^ 31)
    (hboot : ∀ e ∈ es ++ fs, e.cutsPower = false)
    (hrun : (firmware cfg).run (powerOn answers kvs onOff) es = some f)
    (hrun' : (firmware cfg).run f fs = some g) (hprimed : f.pm.sHaveLastSample = true)
    (hsettled : Settles n f.polls) : Metered train minMs n f g := by
  have hsynced : Synced f :=
    synced_of_boot (fun e he => hboot e (List.mem_append_left _ he)) hrun
  have hstart : Metered train minMs n f f :=
    ⟨hsynced, hprimed, hsettled, le_refl _, fun _ => by
      rw [Nat.sub_self]
      exact Delivered.refl _ _ f⟩
  exact (firmware cfg).run_invariant (Q := fun e => e.cutsPower = false)
    (fun _ _ _ h hcut hstep => h.step hmin hrate hcut (firmwareStep_of_step hstep)) hstart
    (fun e he => hboot e (List.mem_append_right _ he)) hrun'

/-- **A steady load in the whole firmware.**  From any state of a boot in which
a call was made and a block of windows lies after poll `n`, for as long as CF has
carried the load's pulses and polls were at least `minMs` apart since that poll,
and no `int64_t` operation overflows: the total grows by the energy of the load
over the time between the calls, to within the precision of one window and 1 mWh
a call. -/
theorem steady_load_in_the_field (cfg : Option OverPowerConfig) (train : PulseTrain) {minMs : ℚ}
    (hmin : 1 ≤ minMs) (hrate : train.perSec < 2 ^ 31) (answers : StartAnswers)
    (kvs : Option Int) (onOff : Bool) (es fs : List FirmwareEvent)
    (hboot : ∀ e ∈ es ++ fs, e.cutsPower = false)
    (hexact : (firmware64 cfg).Admits (Exact cfg) (powerOn answers kvs onOff) (es ++ fs))
    (f g : Firmware) (hrun : (firmware64 cfg).run (powerOn answers kvs onOff) es = some f)
    (hrun' : (firmware64 cfg).run f fs = some g) (hprimed : f.pm.sHaveLastSample = true) (n : ℕ)
    (hsettled : Settles n f.polls) (hcarries : Carries train minMs (g.polls.drop n)) :
    let mwh : ℚ := g.pm.sCumulativeEnergyMwh - f.pm.sCumulativeEnergyMwh
    let ms : ℚ := g.pm.sLastSampleMs - f.pm.sLastSampleMs
    let calls := (measured g.polls).length - (measured f.polls).length
    ((train.perSec - 1000 / minMs - 1) * 10 ^ 6 / 775 - 1) * ms / 3600000 - calls ≤ mwh ∧
      mwh ≤ (train.perSec + 1000 / minMs) * 10 ^ 6 / 775 * ms / 3600000 := by
  obtain ⟨hexact₁, hexact₂⟩ := ((firmware64 cfg).admits_append_of_run hrun).mp hexact
  obtain ⟨hrun, -⟩ := (firmware cfg).run_congr firmware64_step hexact₁ hrun
  obtain ⟨hrun', -⟩ := (firmware cfg).run_congr firmware64_step hexact₂ hrun'
  have hdelivered :=
    (metered_of_boot hmin hrate hboot hrun hrun' hprimed hsettled).delivered hcarries
  exact ⟨hdelivered.lower, hdelivered.upper⟩

/-- Two pulses a second are a train. -/
theorem two_pos : (0 : ℚ) < 2 := by norm_num

/-- A second without a load. -/
def idleSecond : List FirmwareEvent := [.elapse 1000, .meterPollTimer, .dispatch {}]

/-- A boot that idles for a block of three windows and then meters two pulses a
second for another. -/
def meteredBoot : List FirmwareEvent :=
  initEvents ++ [.postServerInit .noError .noError .noError .noError] ++ idleSecond ++
    idleSecond ++ idleSecond ++ idleSecond ++ pulsingSecond ++ pulsingSecond ++ pulsingSecond

/-- The next poll comes a second late. -/
def lateSecond : List FirmwareEvent :=
  [.cfIsr, .cfIsr, .cfIsr, .cfIsr, .elapse 2000, .meterPollTimer, .dispatch {}]

set_option maxRecDepth 2000 in
/-- 2.58 W over two seconds add 1 mWh. -/
theorem late_second_is_metered :
    let two : PulseTrain := { perSec := 2, phaseMs := 0, pos := two_pos }
    ∃ f g, (firmware64 none).run (powerOn {} (some 5000) true) meteredBoot = some f ∧
      (firmware64 none).run f lateSecond = some g ∧
      g.pm.sCumulativeEnergyMwh - f.pm.sCumulativeEnergyMwh = 1 ∧
      ((two.perSec - 1000 / 1000 - 1) * 10 ^ 6 / 775 - 1) * (9000 - 7000) / 3600000 - 1 ≤
          (5001 - 5000 : ℚ) ∧
        (5001 - 5000 : ℚ) ≤
          (two.perSec + 1000 / 1000) * 10 ^ 6 / 775 * (9000 - 7000) / 3600000 := by
  intro two
  have hlast : ∀ b : Int, two.lastPulse b = b / 500 := by
    intro b
    have hhalf : ((b : ℚ) - 0) * 2 / 1000 = b / (500 : ℕ) := by
      push_cast
      ring
    rw [PulseTrain.lastPulse, hhalf]
    exact Rat.floor_intCast_div_natCast b 500
  have hexact : (firmware64 none).Admits (Exact none) (powerOn {} (some 5000) true)
      (meteredBoot ++ lateSecond) := by decide
  obtain ⟨f, hrun, hprimed, hsettled, g, hrun', hpolls, hmwh, hms, hmwh', hms', hcalls⟩ :
      ∃ f, (firmware64 none).run (powerOn {} (some 5000) true) meteredBoot = some f ∧
        f.pm.sHaveLastSample = true ∧ Settles 3 f.polls ∧
        ∃ g, (firmware64 none).run f lateSecond = some g ∧
          g.polls.drop 3 =
            [⟨4000, 0, 0⟩, ⟨5000, 2, 1⟩, ⟨6000, 2, 1⟩, ⟨7000, 2, 1⟩, ⟨9000, 4, 0⟩] ∧
          f.pm.sCumulativeEnergyMwh = 5000 ∧ f.pm.sLastSampleMs = 7000 ∧
          g.pm.sCumulativeEnergyMwh = 5001 ∧ g.pm.sLastSampleMs = 9000 ∧
          (measured g.polls).length - (measured f.polls).length = 1 :=
    ⟨_, rfl, rfl, by decide, _, rfl, by decide, by decide, by decide, by decide, by decide,
      by decide⟩
  have hcarries : Carries two 1000 (g.polls.drop 3) := by
    rw [hpolls]
    simp only [Carries, List.isChain_cons_cons, List.isChain_singleton, PulseTrain.count_eq, hlast]
    norm_num
    exact ⟨rfl, rfl⟩
  have h := steady_load_in_the_field none two (by norm_num) (by norm_num) {} (some 5000) true
    meteredBoot lateSecond (by decide) hexact f g hrun hrun' hprimed 3 hsettled hcarries
  simp only [hmwh, hms, hmwh', hms', hcalls] at h
  exact ⟨f, g, hrun, hrun', by rw [hmwh, hmwh']; rfl, by exact_mod_cast h⟩

end Firmware

end UascentPlug
