import UascentPlug.Firmware.Start
import UascentPlug.Lib.Simulation

/-!
# UascentPlug.Firmware.Isolation

Metering is independent of switching.  The meter shares the app task with the
button handler, asks the relay driver for its state and switches the relay
itself; the measurement module shares the Matter thread with the OnOff bridge.
Yet given the pulses, what is measured, published and stored depends on none
of it: the button, the network, blinking, controllers, lambdas, the restored
attribute, relay writes that fail and even over-power protection can be taken
out of a run (`metering_is_isolated`).

What relates the two runs is `SameMetering`; it looks away from the switching
state, from the queued button events and from the over-power count.
-/

namespace UascentPlug

/-! ## the meter without its over-power count -/

namespace Meter

/-- The CF filter does not look at the over-power counter. -/
theorem pushCf_overPower (rate count : UInt32) (m : Meter) :
    pushCf rate { m with sOverPowerSamples := count } =
      { m.pushCf rate with sOverPowerSamples := count } := by
  rw [pushCf_eq, pushCf_eq]

/-- Neither does the CF1 filter. -/
theorem pushCf1_overPower (rate count : UInt32) (m : Meter) :
    pushCf1 rate { m with sOverPowerSamples := count } =
      { m.pushCf1 rate with sOverPowerSamples := count } := by
  cases h : (m.sCf1Filter.push rate).2 with
  | none =>
      rw [pushCf1_of_none h,
        pushCf1_of_none (m := { m with sOverPowerSamples := count }) h]
  | some median =>
      rw [pushCf1_of_some h,
        pushCf1_of_some (m := { m with sOverPowerSamples := count }) h]

/-- Neither the relay nor over-power protection, built in or not, matters to
what is measured of a window. -/
theorem measure_overPower (cfg cfg' : Option OverPowerConfig) (relayIsOn relayIsOn' : Bool)
    (w : Window) (count : UInt32) (m : Meter) :
    ∃ count', measure cfg' relayIsOn' w { m with sOverPowerSamples := count } =
      { m.measure cfg relayIsOn w with sOverPowerSamples := count' } := by
  unfold measure
  rw [protect_eq cfg, protect_eq cfg']
  simp only [pushCf_overPower, pushCf1_overPower]
  exact ⟨_, rfl⟩

end Meter

/-! ## what an observer of the meter sees -/

namespace Firmware

/-- The events that meter, publish and store, without what they have to do with
switching. -/
def meteringView (f : Firmware) : FirmwareEvent → Option FirmwareEvent
  | .dispatch a =>
      match f.tasks.head? with
      | some (.buttonEventHandler _ _) => none
      | _ => some (.dispatch { a with relayErr := 0 })
  | .powerCut (some (a, done)) answers =>
      match f.tasks.head? with
      | some (.buttonEventHandler _ _) => some (.powerCut none answers)
      | _ => some (.powerCut (some ({ a with relayErr := 0 }, done)) answers)
  | .blinkTimer | .button _ _ | .deviceState _ => none
  | .onOffClusterInit _ _ | .controllerWrite _ _ _ | .lambda _ => none
  | e => some e

/-- What the event publishes, with what that stores and reports. -/
def published (cfg : Option OverPowerConfig) (f : Firmware) : FirmwareEvent → List Publication
  | .dispatch a =>
      match f.tasks.head? with
      | some .meterPoll => f.publications cfg a
      | _ => []
  | _ => []

/-- The second firmware looks like the first to an observer of the meter. -/
structure SameMetering (f g : Firmware) : Prop where
  answers : g.answers = f.answers
  meter : ∃ count, g.meter = { f.meter with sOverPowerSamples := count }
  pm : g.pm = f.pm
  kvs : g.kvs = f.kvs
  app : g.app = f.app
  tasks : g.tasks = f.tasks.filter (· = .meterPoll)
  serverStarted : g.serverStarted = f.serverStarted
  postServerInitClbk : g.postServerInitClbk = f.postServerInitClbk
  uptimeMs : g.uptimeMs = f.uptimeMs
  nextExpiryMs : g.nextExpiryMs = f.nextExpiryMs
  polls : g.polls = f.polls

/-- Whatever the attribute was, metering starts alike. -/
theorem sameMetering_powerOn (answers : StartAnswers) (kvs : Option Int) (onOff onOff' : Bool) :
    SameMetering (powerOn answers kvs onOff) (powerOn answers kvs onOff') := by
  constructor
  case meter => exact ⟨0, rfl⟩
  all_goals rfl

namespace SameMetering

variable {f g : Firmware} {cfg cfg' : Option OverPowerConfig}

/-- Only what the observer does not look at has changed. -/
theorem of_hidden {f' : Firmware} (h : SameMetering f g) (hanswers : f'.answers = f.answers)
    (hmeter : f'.meter = f.meter) (hpm : f'.pm = f.pm) (hkvs : f'.kvs = f.kvs)
    (happ : f'.app = f.app)
    (htasks : f'.tasks.filter (· = .meterPoll) = f.tasks.filter (· = .meterPoll))
    (hstarted : f'.serverStarted = f.serverStarted)
    (hhook : f'.postServerInitClbk = f.postServerInitClbk) (huptime : f'.uptimeMs = f.uptimeMs)
    (hexpiry : f'.nextExpiryMs = f.nextExpiryMs) (hpolls : f'.polls = f.polls) :
    SameMetering f' g := by
  obtain ⟨count, hcount⟩ := h.meter
  exact ⟨h.answers.trans hanswers.symm, ⟨count, hmeter ▸ hcount⟩, h.pm.trans hpm.symm,
    h.kvs.trans hkvs.symm, h.app.trans happ.symm, h.tasks.trans htasks.symm,
    h.serverStarted.trans hstarted.symm, h.postServerInitClbk.trans hhook.symm,
    h.uptimeMs.trans huptime.symm, h.nextExpiryMs.trans hexpiry.symm, h.polls.trans hpolls.symm⟩

/-- The next poll takes the same. -/
theorem poll_eq (h : SameMetering f g) : g.poll = f.poll := by
  obtain ⟨count, hcount⟩ := h.meter
  simp only [poll, hcount, h.uptimeMs]

/-- It closes the same window. -/
theorem window_eq (h : SameMetering f g) : g.window = f.window := by
  obtain ⟨count, hcount⟩ := h.meter
  simp only [window, h.poll_eq, Meter.stamp, hcount]

/-- A poll measures the same. -/
theorem meter_poll (h : SameMetering f g) (cfg cfg' : Option OverPowerConfig) :
    ∃ count, (g.meter.meterPoll cfg' g.plug.relayIsOn g.uptimeMs).1 =
      { (f.meter.meterPoll cfg f.plug.relayIsOn f.uptimeMs).1 with
        sOverPowerSamples := count } := by
  obtain ⟨count, hcount⟩ := h.meter
  have htaken : g.takenMeter = { f.takenMeter with sOverPowerSamples := count } := by
    simp only [takenMeter, hcount, h.uptimeMs]
  cases hw : f.window with
  | none =>
      rw [meter_of_window_none hw, meter_of_window_none (h.window_eq.trans hw), htaken]
      exact ⟨count, rfl⟩
  | some w =>
      rw [meter_of_window_some hw, meter_of_window_some (h.window_eq.trans hw), htaken]
      exact Meter.measure_overPower cfg cfg' _ _ w count f.takenMeter

/-- A poll publishes the same, to the same effect. -/
theorem publish_eq (h : SameMetering f g) (cfg cfg' : Option OverPowerConfig) (a : TaskAnswers) :
    publish (g.meteringPoll { a with relayErr := 0 }) g.pm (g.meterCalls cfg') =
      publish (f.meteringPoll a) f.pm (f.meterCalls cfg) := by
  cases hw : f.window with
  | none =>
      rw [publish_of_window_none hw, publish_of_window_none (h.window_eq.trans hw), h.pm]
  | some w =>
      have hsample : g.sample cfg' { a with relayErr := 0 } = f.sample cfg a := by
        obtain ⟨count, hcount⟩ := h.meter_poll cfg cfg'
        simp only [sample, hcount]
        simp only [meteringPoll, MeteringPoll.sample, h.uptimeMs]
      rw [publish_of_window_some hw, publish_of_window_some (h.window_eq.trans hw), hsample, h.pm]

/-- It publishes the same. -/
theorem publications_eq (h : SameMetering f g) (cfg cfg' : Option OverPowerConfig)
    (a : TaskAnswers) :
    g.publications cfg' { a with relayErr := 0 } = f.publications cfg a := by
  rw [publications, publications, h.publish_eq cfg cfg' a]

/-- It has the same effects. -/
theorem effects_eq (h : SameMetering f g) (cfg cfg' : Option OverPowerConfig) (a : TaskAnswers) :
    g.effects cfg' { a with relayErr := 0 } = f.effects cfg a := by
  rw [effects, effects, h.publications_eq cfg cfg' a]

/-- The next poll is the next that is seen. -/
theorem next {tasks : List Task} (h : SameMetering f g) (htasks : f.tasks = .meterPoll :: tasks) :
    g.tasks = .meterPoll :: tasks.filter (· = .meterPoll) ∧
      SameMetering { f with tasks := tasks } { g with tasks := tasks.filter (· = .meterPoll) } := by
  refine ⟨by rw [h.tasks, htasks, List.filter_cons_of_pos (by simp)], ?_⟩
  exact ⟨h.answers, h.meter, h.pm, h.kvs, h.app, rfl, h.serverStarted, h.postServerInitClbk,
    h.uptimeMs, h.nextExpiryMs, h.polls⟩

/-- So a poll keeps the metering alike. -/
theorem meterPoll (h : SameMetering f g) (cfg cfg' : Option OverPowerConfig) (a : TaskAnswers) :
    SameMetering (f.meterPoll cfg a) (g.meterPoll cfg' { a with relayErr := 0 }) where
  answers := h.answers
  meter := h.meter_poll cfg cfg'
  pm := congrArg Prod.fst (h.publish_eq cfg cfg' a)
  kvs := by simp only [Firmware.meterPoll, h.effects_eq cfg cfg' a, h.kvs]
  app := h.app
  tasks := h.tasks
  serverStarted := h.serverStarted
  postServerInitClbk := h.postServerInitClbk
  uptimeMs := by simp only [Firmware.meterPoll, h.uptimeMs]
  nextExpiryMs := h.nextExpiryMs
  polls := by simp only [Firmware.meterPoll, h.polls, h.poll_eq]

/-- So does a step of start-up. -/
theorem initStep (h : SameMetering f g) (next : InitStep) :
    SameMetering (f.initStep next) (g.initStep next) := by
  have hf := f.initKeeps next
  have hg := g.initKeeps next
  obtain ⟨hstarted, hhook⟩ := f.initStep_server next
  obtain ⟨hstarted', hhook'⟩ := g.initStep_server next
  have hmeter : (∃ count, (g.initStep next).meter =
        { (f.initStep next).meter with sOverPowerSamples := count }) ∧
      (g.initStep next).nextExpiryMs = (f.initStep next).nextExpiryMs := by
    obtain ⟨count, hcount⟩ := h.meter
    by_cases hnext : next = .meterInit
    · subst hnext
      simp only [Firmware.initStep, Meter.meterInit, hcount, h.answers, h.uptimeMs]
      split <;> exact ⟨⟨count, rfl⟩, trivial⟩
    · rw [(f.initStep_unmetered hnext).1, (g.initStep_unmetered hnext).1,
        (f.initStep_unmetered hnext).2, (g.initStep_unmetered hnext).2]
      exact ⟨⟨count, hcount⟩, h.nextExpiryMs⟩
  constructor
  case answers => rw [hf.answers, hg.answers, h.answers]
  case meter => exact hmeter.1
  case pm => rw [hf.pm, hg.pm, h.pm]
  case kvs => rw [hf.kvs, hg.kvs, h.kvs]
  case app => rw [app_initStep, app_initStep, h.answers]
  case tasks => rw [hf.tasks, hg.tasks, h.tasks]
  case serverStarted => rw [hstarted, hstarted', h.serverStarted]
  case postServerInitClbk => rw [hhook, hhook', h.postServerInitClbk, h.answers]
  case uptimeMs => rw [hf.uptimeMs, hg.uptimeMs, h.uptimeMs]
  case nextExpiryMs => exact hmeter.2
  case polls => rw [hf.polls, hg.polls, h.polls]

/-- **Hidden events** change nothing that is looked at, and publish nothing. -/
theorem hidden {e : FirmwareEvent} {f' : Firmware} (h : SameMetering f g)
    (hview : f.meteringView e = none) (hstep : FirmwareStep cfg f e f') :
    SameMetering f' g ∧ f.published cfg e = [] := by
  cases hstep with
  | @dispatch a task tasks happ htasks =>
      cases task with
      | meterPoll => simp [meteringView, htasks] at hview
      | buttonEventHandler state hasChanged =>
          refine ⟨h.of_hidden rfl rfl rfl rfl rfl ?_ rfl rfl rfl rfl rfl, by
            simp [published, htasks]⟩
          simp [htasks, runTask, buttonEventHandler]
  | powerCutDuring happ htasks =>
      simp only [meteringView] at hview
      split at hview <;> contradiction
  | button hready =>
      exact ⟨h.of_hidden rfl rfl rfl rfl rfl (by simp) rfl rfl rfl rfl rfl, rfl⟩
  | blinkTimer hruns =>
      exact ⟨h.of_hidden rfl rfl rfl rfl rfl rfl rfl rfl rfl rfl rfl, rfl⟩
  | deviceState hready =>
      exact ⟨h.of_hidden rfl rfl rfl rfl rfl rfl rfl rfl rfl rfl rfl, rfl⟩
  | onOffClusterInit hstarted hfirst =>
      exact ⟨h.of_hidden rfl rfl rfl rfl rfl rfl rfl rfl rfl rfl rfl, rfl⟩
  | controllerWrite hstarted =>
      exact ⟨h.of_hidden rfl rfl rfl rfl rfl rfl rfl rfl rfl rfl rfl, rfl⟩
  | unchangedWrite hstarted hvalue => exact ⟨h, rfl⟩
  | lambda hstarted hpending =>
      exact ⟨h.of_hidden rfl rfl rfl rfl rfl rfl rfl rfl rfl rfl rfl, rfl⟩
  | init happ => contradiction
  | meterPollTimer hrunning hdue => contradiction
  | cfIsr henabled => contradiction
  | cf1Isr henabled => contradiction
  | postServerInit hstarted hhook => contradiction
  | elapse => contradiction
  | powerCut => contradiction

/-- **Events that are seen** can be followed, and publish the same. -/
theorem seen {e e' : FirmwareEvent} {f' : Firmware} (h : SameMetering f g)
    (hview : f.meteringView e = some e') (hstep : FirmwareStep cfg f e f') :
    ∃ g', (firmware cfg').step g e' = some g' ∧ SameMetering f' g' ∧
      f.published cfg e = g.published cfg' e' := by
  obtain ⟨count, hcount⟩ := h.meter
  cases hstep with
  | init happ =>
      obtain rfl := Option.some.inj hview
      refine ⟨_, ?_, h.initStep _, rfl⟩
      simp only [firmware, h.app, happ]
  | @dispatch a task tasks happ htasks =>
      cases task with
      | meterPoll =>
          simp only [meteringView, htasks, List.head?_cons, Option.some.injEq] at hview
          obtain rfl := hview
          obtain ⟨hqueue, hrest⟩ := h.next htasks
          refine ⟨_, ?_, hrest.meterPoll cfg cfg' a, ?_⟩
          · simp only [firmware, nextTask_of_dispatching (h.app.trans happ) hqueue]
            rfl
          · simp only [published, htasks, hqueue, List.head?_cons]
            exact (h.publications_eq cfg cfg' a).symm
      | buttonEventHandler state hasChanged => simp [meteringView, htasks] at hview
  | @meterPollTimer expiryMs hrunning hdue =>
      obtain rfl := Option.some.inj hview
      have hrunning' := h.nextExpiryMs.trans hrunning
      have hdue' : expiryMs ≤ g.uptimeMs := h.uptimeMs ▸ hdue
      refine ⟨{ g with
        tasks := g.tasks ++ [.meterPoll]
        nextExpiryMs := some (expiryMs + kMeterPollIntervalMs) }, ?_, ?_, rfl⟩
      · simp only [firmware, hrunning']
        exact if_pos hdue'
      · exact ⟨h.answers, h.meter, h.pm, h.kvs, h.app, by simp [h.tasks], h.serverStarted,
          h.postServerInitClbk, h.uptimeMs, rfl, h.polls⟩
  | cfIsr henabled =>
      obtain rfl := Option.some.inj hview
      have henabled' : g.meter.interruptsEnabled = true := by rw [hcount]; exact henabled
      refine ⟨_, if_pos henabled', ?_, rfl⟩
      exact ⟨h.answers, ⟨count, by simp only [hcount, Meter.cfIsr]⟩, h.pm, h.kvs, h.app, h.tasks,
        h.serverStarted, h.postServerInitClbk, h.uptimeMs, h.nextExpiryMs, h.polls⟩
  | cf1Isr henabled =>
      obtain rfl := Option.some.inj hview
      have henabled' : g.meter.interruptsEnabled = true := by rw [hcount]; exact henabled
      refine ⟨_, if_pos henabled', ?_, rfl⟩
      exact ⟨h.answers, ⟨count, by simp only [hcount, Meter.cf1Isr]⟩, h.pm, h.kvs, h.app, h.tasks,
        h.serverStarted, h.postServerInitClbk, h.uptimeMs, h.nextExpiryMs, h.polls⟩
  | postServerInit hstarted hhook =>
      obtain rfl := Option.some.inj hview
      have henabled := And.intro (h.serverStarted.trans hstarted) (h.postServerInitClbk.trans hhook)
      refine ⟨_, if_pos henabled, ?_, rfl⟩
      exact ⟨h.answers, h.meter, by simp only [Firmware.postServerInit, h.pm, h.kvs], h.kvs, h.app,
        h.tasks, h.serverStarted, rfl, h.uptimeMs, h.nextExpiryMs, h.polls⟩
  | @elapse ms =>
      obtain rfl := Option.some.inj hview
      exact ⟨_, rfl, ⟨h.answers, h.meter, h.pm, h.kvs, h.app, h.tasks, h.serverStarted,
        h.postServerInitClbk, by simp only [h.uptimeMs], h.nextExpiryMs, h.polls⟩, rfl⟩
  | @powerCut answers =>
      obtain rfl := Option.some.inj hview
      refine ⟨_, rfl, ?_, rfl⟩
      rw [h.kvs]
      exact sameMetering_powerOn answers f.kvs _ _
  | @powerCutDuring a done answers task tasks happ htasks =>
      cases task with
      | buttonEventHandler state hasChanged =>
          -- a button task stores nothing, so when it is cut does not matter
          simp only [meteringView, htasks, List.head?_cons, Option.some.injEq] at hview
          obtain rfl := hview
          refine ⟨_, rfl, ?_, rfl⟩
          rw [h.kvs]
          simp only [taskEffects, List.take_nil, List.foldl_nil]
          exact sameMetering_powerOn answers f.kvs _ _
      | meterPoll =>
          simp only [meteringView, htasks, List.head?_cons, Option.some.injEq] at hview
          obtain rfl := hview
          obtain ⟨hqueue, hrest⟩ := h.next htasks
          refine ⟨.powerOn answers (((Firmware.effects cfg a { f with tasks := tasks }).take
            done).foldl store f.kvs) g.plug.onOff, ?_, sameMetering_powerOn answers _ _ _, rfl⟩
          simp only [firmware, nextTask_of_dispatching (h.app.trans happ) hqueue, Option.map_some,
            taskEffects]
          rw [hrest.effects_eq cfg cfg' a, h.kvs]
  | blinkTimer hruns => contradiction
  | button hready => contradiction
  | deviceState hready => contradiction
  | onOffClusterInit hstarted hfirst => contradiction
  | controllerWrite hstarted => contradiction
  | unchangedWrite hstarted hvalue => contradiction
  | lambda hstarted hpending => contradiction

end SameMetering

/-! ## switching can be taken out of a run -/

/-- **Metering is isolated.**  Take any run of the firmware, through any number
of power cuts, and leave out everything that switches or indicates: button
events, network states, blinking, the restored attribute, controllers' writes,
lambdas and failures of relay writes.  What is left is a run of the firmware
built with or without over-power protection, in which every poll is the same
and publishes the same, and the same total is stored and the same reported. -/
theorem metering_is_isolated (cfg cfg' : Option OverPowerConfig) (answers : StartAnswers)
    (kvs : Option Int) (onOff onOff' : Bool) (es : List FirmwareEvent) (f : Firmware)
    (hrun : (firmware cfg).run (powerOn answers kvs onOff) es = some f) :
    let es' := (firmware cfg).purge meteringView (powerOn answers kvs onOff) es
    ∃ g, (firmware cfg').run (powerOn answers kvs onOff') es' = some g ∧
      (firmware cfg).feed (published cfg) (powerOn answers kvs onOff) es =
        (firmware cfg').feed (published cfg') (powerOn answers kvs onOff') es' ∧
      g.polls = f.polls ∧ g.pm = f.pm ∧ g.kvs = f.kvs := by
  obtain ⟨g, hrun', h, hfeed⟩ := (firmware cfg).run_purge (M := firmware cfg')
    (fun _ _ _ _ _ h hview hstep => h.seen hview (firmwareStep_of_step hstep))
    (fun _ _ _ _ h hview hstep => h.hidden hview (firmwareStep_of_step hstep))
    (sameMetering_powerOn answers kvs onOff onOff') hrun
  exact ⟨g, hrun', hfeed, h.polls, h.pm, h.kvs⟩

/-- A boot with a press, a controller and a failing relay between two seconds of
metering: without them, and without protection, the same is published. -/
theorem isolated_second_is_published :
    let es := initEvents ++ [.postServerInit .noError .noError .noError .noError,
      .onOffClusterInit true 0, .elapse 1000, .meterPollTimer, .button 0 1, .dispatch {}, .cfIsr,
      .dispatch { relayErr := -5 }, .controllerWrite true true 0, .elapse 1000, .meterPollTimer,
      .deviceState .deviceProvisioned, .dispatch {}]
    ∃ f g, (firmware (some {})).run (powerOn {} none true) es = some f ∧
      (firmware none).run (powerOn {} none false)
        ((firmware (some {})).purge meteringView (powerOn {} none true) es) = some g ∧
      g.polls = f.polls ∧ g.polls.length = 2 :=
  let es := initEvents ++ [.postServerInit .noError .noError .noError .noError,
    .onOffClusterInit true 0, .elapse 1000, .meterPollTimer, .button 0 1, .dispatch {}, .cfIsr,
    .dispatch { relayErr := -5 }, .controllerWrite true true 0, .elapse 1000, .meterPollTimer,
    .deviceState .deviceProvisioned, .dispatch {}]
  have ⟨g, hrun, _, hpolls, _⟩ := metering_is_isolated (some {}) none {} none true false es _ rfl
  ⟨_, g, rfl, hrun, hpolls, hpolls ▸ rfl⟩

end Firmware

end UascentPlug
