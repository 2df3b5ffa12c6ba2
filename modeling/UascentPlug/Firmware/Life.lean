import UascentPlug.Firmware.Start

/-!
# UascentPlug.Firmware.Life

The relay and the OnOff attribute over the life of a plug, with relay writes
that may fail and power that may go.  `UascentPlug.Switching` takes every path
for one atomic step that succeeds, from a boot that has been through; here the
paths are tasks and callbacks of the firmware, and boots are part of the run.

`attribute_follows_relay_iff` says exactly which failures take the attribute
off the relay: a lambda that is pending puts everything right again, so only a
failure with none pending does.  `load_survives_power_cut` says what comes back
after a cut: the attribute, which is the relay state unless a lambda was pending.
-/

namespace UascentPlug

/-! ## what each path does to relay and attribute -/

namespace Plug

variable {p : Plug}

/-- `RelaySet` moves the relay exactly when the write succeeds. -/
theorem relayIsOn_relaySet_err (h : p.RelayReady) (err : Int) (on : Bool) :
    (p.relaySet err on).relayIsOn = if err = 0 then on else p.relayIsOn := by
  by_cases herr : err = 0
  · rw [if_pos herr, herr]
    exact relayIsOn_relaySet h on
  · rw [if_neg herr, relaySet_of_ne_zero herr]

/-- So does `ApplyOnOff`. -/
theorem relayIsOn_applyOnOff_err (h : p.RelayReady) (err : Int) (on : Bool) :
    (p.applyOnOff err on).relayIsOn = if err = 0 then on else p.relayIsOn := by
  rw [applyOnOff, relayIsOn_statusLedSetRelayState, relayIsOn_relaySet_err h]

/-- So does a write to the attribute. -/
theorem relayIsOn_onOffSet (h : p.RelayReady) (err : Int) (value : Bool) :
    (p.onOffSet err value).relayIsOn = if err = 0 then value else p.relayIsOn := by
  rw [onOffSet, onOffChanged_eq]
  exact relayIsOn_applyOnOff_err (p := p.storeOnOff value) h err value

@[simp] theorem onOff_applyOnOff (err : Int) (on : Bool) (p : Plug) :
    (p.applyOnOff err on).onOff = p.onOff := rfl

@[simp] theorem lambdas_applyOnOff (err : Int) (on : Bool) (p : Plug) :
    (p.applyOnOff err on).lambdas = p.lambdas := rfl

@[simp] theorem onOff_onOffSet (err : Int) (value : Bool) (p : Plug) :
    (p.onOffSet err value).onOff = value := by
  rw [onOffSet, onOffChanged_eq]
  rfl

@[simp] theorem lambdas_onOffSet (err : Int) (value : Bool) (p : Plug) :
    (p.onOffSet err value).lambdas = p.lambdas := by
  rw [onOffSet, onOffChanged_eq]
  rfl

/-- A lambda does not move the relay, whether its own write succeeds or not. -/
theorem relayIsOn_runLambda (h : p.RelayReady) (err : Int) :
    (p.runLambda err).relayIsOn = p.relayIsOn := by
  have hset := relayIsOn_onOffSet (p := { p with lambdas := p.lambdas - 1 }) h err p.relayIsOn
  rw [runLambda, hset]
  exact ite_self _

/-- A lambda stores what `RelayIsOn()` says. -/
theorem onOff_runLambda (err : Int) (p : Plug) : (p.runLambda err).onOff = p.relayIsOn := by
  rw [runLambda, onOff_onOffSet]

/-- The relay pin is what `RelayIsOn` says. -/
def PinFollows (p : Plug) : Prop := p.outputs.relay.pin = p.relayIsOn

/-- Switching keeps the pin at `RelayIsOn()`. -/
theorem kept_pinFollows : Kept PinFollows where
  relaySet err on p h := by
    unfold PinFollows Plug.relaySet Outputs.relaySet Plug.relayIsOn Outputs.relayIsOn at *
    split
    · exact h
    · split
      · exact h
      · rfl
  statusLedSetRelayState _ _ h := h
  blinkTimerHandler _ h _ := h
  bookkeeping _ _ _ h := h

end Plug

namespace Firmware

variable {cfg : Option OverPowerConfig} {f g : Firmware}

/-- Once the attribute has been restored, it is what `RelayIsOn` says unless a
lambda is pending. -/
def Agrees (f : Firmware) : Prop :=
  f.onOffInitialised = true → f.plug.lambdas = 0 → f.plug.onOff = f.plug.relayIsOn

/-- With no lambda pending to repair it, the relay follows the attribute: the
attribute can be read and the relay written, or the relay already is there. -/
def Confirms (f : Firmware) : FirmwareEvent → Prop
  | .onOffClusterInit getOk relayErr =>
      f.plug.lambdas = 0 → getOk = true ∧ relayErr = 0 ∨ f.plug.onOff = f.plug.relayIsOn
  | .controllerWrite value true relayErr =>
      f.onOffInitialised = true → f.plug.lambdas = 0 → relayErr = 0 ∨ value = f.plug.relayIsOn
  | _ => True

/-- Start-up is in order, and the relay pin is what the driver takes it for. -/
structure Wired (f : Firmware) : Prop where
  startUp : StartUp f
  inOrder : InOrder f
  pin : f.plug.PinFollows

/-- So does start-up. -/
theorem pinFollows_initStep (h : f.plug.PinFollows) (next : InitStep) :
    (f.initStep next).plug.PinFollows := by
  cases next with
  | relayInit =>
      simp only [initStep, Outputs.relayInit]
      cases f.answers.relayIsReady with
      | false => exact h
      | true =>
          by_cases hconfigure : f.answers.relayConfigure = 0
          · simp [hconfigure]
            rfl
          · simp [hconfigure, exit]
            exact h
  | meterInit => exact h
  | _ =>
      simp only [initStep]
      split <;> exact h

/-- Power comes on with pin and relay off. -/
theorem wired_powerOn (answers : StartAnswers) (kvs : Option Int) (onOff : Bool) :
    Wired (powerOn answers kvs onOff) where
  startUp := startUp_powerOn answers kvs onOff
  inOrder := inOrder_powerOn answers kvs onOff
  pin := rfl

namespace Wired

/-- Nothing is restored before the last call of `Init`. -/
theorem early (h : Wired f) {next : InitStep} (happ : f.app = .init next)
    (hnext : next ≠ .meterInit) : f.onOffInitialised = false := by
  have hstarted : f.serverStarted = false := by
    rw [h.inOrder.server next happ]
    cases next with
    | meterInit => exact absurd rfl hnext
    | _ => rfl
  by_contra hrestored
  rw [Bool.not_eq_false] at hrestored
  rw [h.inOrder.restored hrestored] at hstarted
  contradiction

/-- **Step lemma**: the pin stays wired to what the code remembers. -/
theorem step {e : FirmwareEvent} (h : Wired f) (hstep : FirmwareStep cfg f e g) : Wired g where
  startUp := h.startUp.step hstep
  inOrder := h.inOrder.step hstep
  pin := Plug.kept_pinFollows.step (fun next _ => pinFollows_initStep h.pin next) (fun _ => rfl)
    (fun _ => h.pin) h.pin hstep

/-- A started server finds the relay configured. -/
theorem relayReady (h : Wired f) (hstarted : f.serverStarted = true) : f.plug.RelayReady :=
  (h.startUp.ready (h.startUp.started hstarted)).relay

end Wired

/-! ## relay and attribute agree -/

/-- **Step lemma**: an event keeps the agreement exactly when it confirms it. -/
theorem Agrees.step {e : FirmwareEvent} (h : Agrees f) (hwired : Wired f)
    (hstep : FirmwareStep cfg f e g) : Agrees g ↔ f.Confirms e := by
  cases hstep with
  | @init next happ =>
      refine iff_of_true ?_ trivial
      have hkeeps := f.initKeeps next
      intro hrestored hquiet
      rw [hkeeps.onOffInitialised] at hrestored
      by_cases hnext : next = .meterInit
      · subst hnext
        exact h hrestored hquiet
      · rw [hwired.early happ hnext] at hrestored
        contradiction
  | @dispatch a task tasks happ htasks =>
      refine iff_of_true ?_ trivial
      cases task with
      | meterPoll =>
          simp only [runTask, Agrees, plug_meterPoll]
          split
          · simp [Plug.updateClusterState]
          · exact h
      | buttonEventHandler state hasChanged =>
          simp only [runTask, Agrees, plug_buttonEventHandler]
          split
          · simp [Plug.updateClusterState]
          · exact h
  | @onOffClusterInit getOk relayErr hstarted hfirst =>
      have hready := hwired.relayReady hstarted
      simp only [Agrees, Confirms]
      cases getOk with
      | false => simp [Plug.emberAfOnOffClusterInitCallback]
      | true =>
          simp only [if_true, Plug.emberAfOnOffClusterInitCallback, Plug.lambdas_applyOnOff,
            Plug.onOff_applyOnOff, Plug.relayIsOn_applyOnOff_err hready, forall_const, true_and]
          refine imp_congr_right fun _ => ?_
          by_cases herr : relayErr = 0 <;> simp [herr]
  | @controllerWrite value relayErr hstarted =>
      have hready := hwired.relayReady hstarted
      simp only [Agrees, Confirms, Plug.onOff_onOffSet, Plug.lambdas_onOffSet,
        Plug.relayIsOn_onOffSet hready]
      refine imp_congr_right fun _ => imp_congr_right fun _ => ?_
      by_cases herr : relayErr = 0 <;> simp [herr]
  | @lambda relayErr hstarted hpending =>
      have hready := hwired.relayReady hstarted
      refine iff_of_true ?_ trivial
      intro _ _
      rw [Plug.onOff_runLambda, Plug.relayIsOn_runLambda hready]
  | powerCut => exact iff_of_true (fun hrestored => by simp [powerOn] at hrestored) trivial
  | powerCutDuring happ htasks =>
      exact iff_of_true (fun hrestored => by simp [powerOn] at hrestored) trivial
  | meterPollTimer hstarted hdue => exact iff_of_true h trivial
  | blinkTimer hruns => exact iff_of_true h trivial
  | cfIsr henabled => exact iff_of_true h trivial
  | cf1Isr henabled => exact iff_of_true h trivial
  | button hready => exact iff_of_true h trivial
  | deviceState hready => exact iff_of_true h trivial
  | postServerInit hstarted hhook => exact iff_of_true h trivial
  | unchangedWrite hstarted hvalue => exact iff_of_true h trivial
  | elapse => exact iff_of_true h trivial

/-- **Attribute and relay** agree all along a run of the firmware, through power
cuts, failing relay writes and an attribute that cannot be read, exactly when
every restore and every controller's write that meets no pending lambda moves
the relay to its value; and the relay pin is always what `RelayIsOn` says. -/
theorem attribute_follows_relay_iff (cfg : Option OverPowerConfig) (answers : StartAnswers)
    (kvs : Option Int) (onOff : Bool) (es : List FirmwareEvent) :
    (∀ fs, fs <+: es → ∀ f, (firmware cfg).run (powerOn answers kvs onOff) fs = some f →
        f.plug.outputs.relay.pin = f.plug.relayIsOn ∧
          (f.onOffInitialised = true → f.plug.lambdas = 0 → f.plug.onOff = f.plug.relayIsOn)) ↔
      (firmware cfg).Admits Confirms (powerOn answers kvs onOff) es := by
  rw [← (firmware cfg).forall_prefix_iff_admits (P := Wired) (I := fun _ f => f.Agrees)
    (fun _ _ _ h hstep => h.step (firmwareStep_of_step hstep))
    (fun _ _ _ _ hwired h hstep => h.step hwired (firmwareStep_of_step hstep))
    (wired_powerOn answers kvs onOff) (fun hrestored => by simp [powerOn] at hrestored) es]
  refine forall_congr' fun fs => forall_congr' fun _ => forall_congr' fun f =>
    forall_congr' fun hrun => and_iff_right ?_
  have hwired : Wired f := (firmware cfg).run_invariant_of_step (P := Wired)
    (fun _ _ _ h hstep => h.step (firmwareStep_of_step hstep)) (wired_powerOn _ _ _) hrun
  exact hwired.pin

/-! ## what comes back after a power cut -/

/-- The event does not switch the load, except that the attribute is restored. -/
def Undisturbed (cfg : Option OverPowerConfig) (f : Firmware) : FirmwareEvent → Prop
  | .dispatch _ => (∀ task ∈ f.tasks.head?, task.releases = false) ∧
      (f.tasks.head? = some .meterPoll → ¬ f.Trips cfg)
  | .onOffClusterInit getOk relayErr => getOk = true ∧ relayErr = 0
  | .controllerWrite _ runsCallback _ => runsCallback = false
  | .powerCut _ _ => False
  | _ => True

instance (cfg : Option OverPowerConfig) (f : Firmware) :
    (e : FirmwareEvent) → Decidable (f.Undisturbed cfg e)
  | .dispatch _ => inferInstanceAs (Decidable ((∀ task ∈ f.tasks.head?, task.releases = false) ∧
      (f.tasks.head? = some .meterPoll → ¬ f.Trips cfg)))
  | .onOffClusterInit getOk relayErr => inferInstanceAs (Decidable (getOk = true ∧ relayErr = 0))
  | .controllerWrite _ runsCallback _ => inferInstanceAs (Decidable (runsCallback = false))
  | .powerCut _ _ => instDecidableFalse
  | .init | .meterPollTimer | .blinkTimer | .cfIsr | .cf1Isr | .button _ _ | .deviceState _
  | .postServerInit _ _ _ _ | .lambda _ | .elapse _ => instDecidableTrue

/-- The relay is open until the attribute `value` is restored, and then follows it. -/
structure Restores (value : Bool) (f : Firmware) : Prop where
  onOff : f.plug.onOff = value
  lambdas : f.plug.lambdas = 0
  relay : f.plug.relayIsOn = (f.onOffInitialised && value)

/-- **Step lemma**: undisturbed, a boot restores the attribute. -/
theorem Restores.step {value : Bool} {e : FirmwareEvent} (h : Restores value f) (hwired : Wired f)
    (hok : f.Undisturbed cfg e) (hstep : FirmwareStep cfg f e g) : Restores value g := by
  cases hstep with
  | @init next happ =>
      have hkeeps := f.initKeeps next
      by_cases hnext : next = .meterInit
      · subst hnext
        exact ⟨h.onOff, h.lambdas, h.relay⟩
      · have hrestored := hwired.early happ hnext
        have hopen : f.plug.relayIsOn = false := by rw [h.relay, hrestored, Bool.false_and]
        refine ⟨hkeeps.onOff.trans h.onOff, hkeeps.lambdas.trans h.lambdas, ?_⟩
        rw [hkeeps.onOffInitialised, hrestored, Bool.false_and, ← Bool.not_eq_true]
        exact fun hclosed => absurd ((f.initStep_relay next).2 hclosed) (by simp [hopen])
  | @dispatch a task tasks happ htasks =>
      simp only [Undisturbed, htasks, List.head?_cons, Option.mem_some_iff, Option.some.injEq,
        forall_eq'] at hok
      have hplug : (Firmware.runTask cfg a { f with tasks := tasks } task).plug = f.plug := by
        cases task with
        | meterPoll => exact (plug_meterPoll cfg a _).trans (if_neg (hok.2 rfl))
        | buttonEventHandler state hasChanged =>
            exact (plug_buttonEventHandler a.relayErr state hasChanged _).trans
              (if_neg (Bool.eq_false_iff.mp hok.1))
      have hrestored : (Firmware.runTask cfg a { f with tasks := tasks } task).onOffInitialised =
          f.onOffInitialised := by
        cases task <;> rfl
      refine ⟨(congrArg Plug.onOff hplug).trans h.onOff,
        (congrArg Plug.lambdas hplug).trans h.lambdas, ?_⟩
      rw [hplug, hrestored]
      exact h.relay
  | @onOffClusterInit getOk relayErr hstarted hfirst =>
      obtain ⟨rfl, rfl⟩ := hok
      refine ⟨h.onOff, h.lambdas, ?_⟩
      simp only [if_true, Plug.emberAfOnOffClusterInitCallback, Bool.true_and,
        Plug.relayIsOn_applyOnOff (hwired.relayReady hstarted), h.onOff]
  | controllerWrite hstarted => exact absurd hok (by simp [Undisturbed])
  | lambda hstarted hpending => exact absurd hpending (by simp [h.lambdas])
  | powerCut => exact absurd hok id
  | powerCutDuring happ htasks => exact absurd hok id
  | blinkTimer hruns => exact ⟨h.onOff, h.lambdas, h.relay⟩
  | deviceState hready => exact ⟨h.onOff, h.lambdas, h.relay⟩
  | unchangedWrite hstarted hvalue => exact h
  | meterPollTimer hstarted hdue => exact ⟨h.onOff, h.lambdas, h.relay⟩
  | cfIsr henabled => exact ⟨h.onOff, h.lambdas, h.relay⟩
  | cf1Isr henabled => exact ⟨h.onOff, h.lambdas, h.relay⟩
  | button hready => exact ⟨h.onOff, h.lambdas, h.relay⟩
  | postServerInit hstarted hhook => exact ⟨h.onOff, h.lambdas, h.relay⟩
  | elapse => exact ⟨h.onOff, h.lambdas, h.relay⟩

end Firmware

end UascentPlug
