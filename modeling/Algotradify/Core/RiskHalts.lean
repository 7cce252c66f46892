/-
The hard halt of a day over runs of risk updates and approvals: what one update does to
it, and the runs in which it is kept until the first update of a later day.
-/

import Algotradify.Core.RiskState
import Algotradify.Transition.Run

namespace Algotradify.Core.Risk

open Py Transition

namespace RiskState

/-- The metrics breach a hard limit, under the caps they are evaluated with. -/
def Breaches (config : RiskConfig) (measured : RiskState) : Prop :=
  (measured.refreshHaltCaps config).breachesHardLimit config = true

/-- The metrics have a reason for a soft halt, under the caps they are evaluated with. -/
def Nears (config : RiskConfig) (measured : RiskState) : Prop :=
  ((measured.refreshHaltCaps config).softHaltReason config).isSome = true

section Modes

variable {config : RiskConfig} {state : RiskState}

@[simp] theorem setMode_mode (mode : Mode) (reason : String) :
    (state.setMode mode reason).mode = mode := rfl

@[simp] theorem refreshHaltCaps_mode : (state.refreshHaltCaps config).mode = state.mode := rfl

@[simp] theorem updateDrawdown_mode : state.updateDrawdown.mode = state.mode := rfl

@[simp] theorem computeCvar_mode : (state.computeCvar config).mode = state.mode := by
  unfold computeCvar
  split <;> rfl

@[simp] theorem quarantineStrategy_mode (strategy : String) :
    (state.quarantineStrategy strategy).mode = state.mode := by
  unfold quarantineStrategy
  split <;> rfl

theorem measurePortfolio_mode (portfolio : PyDict) :
    (state.measurePortfolio portfolio).1.mode = state.mode := by
  unfold measurePortfolio
  split <;> rfl

theorem measureUnrealized_mode (unrealizedPnl : PyValue) :
    (state.measureUnrealized unrealizedPnl).1.mode = state.mode := by
  unfold measureUnrealized
  split <;> rfl

theorem measureMarket_mode (flipTime now : ℚ) (symbol : String) (marketData : PyDict) :
    (state.measureMarket config flipTime now symbol marketData).1.mode = state.mode := by
  unfold measureMarket
  dsimp only
  split
  · rfl
  split
  · rfl
  split <;> rfl

theorem measureRealizedPnl_mode (strategy : Option String) (pnl : PyValue) :
    (state.measureRealizedPnl config strategy pnl).1.mode = state.mode := by
  unfold measureRealizedPnl
  split
  · rfl
  · dsimp only
    rw [computeCvar_mode]
    split
    · rfl
    split
    · rw [quarantineStrategy_mode]
    · rfl

theorem resetDailyIfNeeded_mode (today : ℤ) (halted : state.mode = .hardHalt) :
    (state.resetDailyIfNeeded today).mode =
      if today = state.currentDay then .hardHalt else .recoveryMode := by
  unfold resetDailyIfNeeded
  by_cases same : today = state.currentDay
  · rw [if_neg (not_not.mpr same), if_pos same, halted]
  · rw [if_pos same, if_neg same]
    dsimp only
    rw [if_pos halted]

theorem evaluateHalts_mode_of_breaches (breaches : Breaches config state) :
    (state.evaluateHalts config).mode = .hardHalt := by
  have breached : (state.refreshHaltCaps config).breachesHardLimit config = true := breaches
  unfold evaluateHalts
  dsimp only
  rw [if_pos breached, setMode_mode]

theorem evaluateHalts_mode_of_nears (within : ¬Breaches config state)
    (nears : Nears config state) : (state.evaluateHalts config).mode = .softHalt := by
  have unbreached : ¬(state.refreshHaltCaps config).breachesHardLimit config = true := within
  unfold evaluateHalts
  dsimp only
  rw [if_neg unbreached]
  obtain ⟨reason, found⟩ := Option.isSome_iff_exists.mp nears
  rw [found]
  rfl

/-- Metrics that are far from every limit leave the mode, unless it is a soft halt. -/
theorem evaluateHalts_mode_of_far (within : ¬Breaches config state)
    (far : ¬Nears config state) (firm : state.mode ≠ .softHalt) :
    (state.evaluateHalts config).mode = state.mode := by
  have unbreached : ¬(state.refreshHaltCaps config).breachesHardLimit config = true := within
  have none : (state.refreshHaltCaps config).softHaltReason config = none :=
    Option.not_isSome_iff_eq_none.mp far
  unfold evaluateHalts
  dsimp only
  rw [if_neg unbreached, none]
  dsimp only
  rw [refreshHaltCaps_mode, if_neg firm, refreshHaltCaps_mode]

theorem evaluated_hardHalt_iff {measured : RiskState × Option PyError}
    (halted : measured.1.mode = .hardHalt) :
    (evaluated config measured).1.mode = .hardHalt ↔
      (measured.2 = none → Breaches config measured.1 ∨ ¬Nears config measured.1) := by
  obtain ⟨measured, _ | raised⟩ := measured
  · change (measured.evaluateHalts config).mode = .hardHalt ↔ _
    by_cases breaches : Breaches config measured
    · rw [evaluateHalts_mode_of_breaches breaches]
      exact iff_of_true rfl (fun _ => Or.inl breaches)
    by_cases nears : Nears config measured
    · rw [evaluateHalts_mode_of_nears breaches nears]
      refine iff_of_false Mode.noConfusion (fun holds => ?_)
      rcases holds rfl with breached | far
      · exact breaches breached
      · exact far nears
    · rw [evaluateHalts_mode_of_far breaches nears (by rw [halted]; exact Mode.noConfusion)]
      exact iff_of_true halted (fun _ => Or.inr nears)
  · exact iff_of_true halted (fun clear => nomatch clear)

theorem evaluated_recovery {measured : RiskState × Option PyError}
    (recovering : measured.1.mode = .recoveryMode) :
    ((evaluated config measured).1.mode = .hardHalt ↔
        measured.2 = none ∧ Breaches config measured.1) ∧
      ((evaluated config measured).1.mode = .recoveryMode ↔
        (measured.2 = none → ¬Breaches config measured.1 ∧ ¬Nears config measured.1)) := by
  obtain ⟨measured, _ | raised⟩ := measured
  · change ((measured.evaluateHalts config).mode = .hardHalt ↔ _) ∧
      ((measured.evaluateHalts config).mode = .recoveryMode ↔ _)
    by_cases breaches : Breaches config measured
    · rw [evaluateHalts_mode_of_breaches breaches]
      exact ⟨iff_of_true rfl ⟨rfl, breaches⟩,
        iff_of_false Mode.noConfusion (fun holds => (holds rfl).1 breaches)⟩
    by_cases nears : Nears config measured
    · rw [evaluateHalts_mode_of_nears breaches nears]
      exact ⟨iff_of_false Mode.noConfusion (fun holds => breaches holds.2),
        iff_of_false Mode.noConfusion (fun holds => (holds rfl).2 nears)⟩
    · rw [evaluateHalts_mode_of_far breaches nears (by rw [recovering]; exact Mode.noConfusion)]
      refine ⟨iff_of_false ?_ (fun holds => breaches holds.2),
        iff_of_true recovering (fun _ => ⟨breaches, nears⟩)⟩
      rw [recovering]
      exact Mode.noConfusion
  · refine ⟨iff_of_false ?_ (fun holds => nomatch holds.1),
      iff_of_true recovering (fun clear => nomatch clear)⟩
    change measured.mode ≠ .hardHalt
    rw [recovering]
    exact Mode.noConfusion

end Modes

end RiskState

/-! ### Updates -/

inductive Update where
  | portfolio (data : PyDict)
  | unrealized (unrealizedPnl : PyValue)
  | market (flipTime now : ℚ) (symbol : String) (marketData : PyDict)
  | fill (filled : Bool)
  | realizedPnl (strategy : Option String) (pnl : PyValue)
  | modelDrift (metrics : Option PyDict)

namespace Update

variable (config : RiskConfig) (today : ℤ) (state : RiskState)

def perform : Update → RiskState × Option PyError
  | .portfolio data => state.updatePortfolio config today data
  | .unrealized unrealizedPnl => state.updateUnrealized config today unrealizedPnl
  | .market flipTime now symbol marketData =>
      state.updateMarket config flipTime now symbol marketData
  | .fill filled => (state.recordFill config filled, none)
  | .realizedPnl strategy pnl => state.recordRealizedPnl config strategy pnl
  | .modelDrift metrics => state.updateModelDrift config metrics

def looksAtDay : Update → Bool
  | .portfolio _ => true
  | .unrealized _ => true
  | _ => false

/-- What an update has measured when the halts are evaluated; a drift evaluates none. -/
def measured : Update → Option (RiskState × Option PyError)
  | .portfolio data => some ((state.resetDailyIfNeeded today).measurePortfolio data)
  | .unrealized unrealizedPnl =>
      some ((state.resetDailyIfNeeded today).measureUnrealized unrealizedPnl)
  | .market flipTime now symbol marketData =>
      some (state.measureMarket config flipTime now symbol marketData)
  | .fill filled => some (state.measureFill config filled, none)
  | .realizedPnl strategy pnl => some (state.measureRealizedPnl config strategy pnl)
  | .modelDrift _ => none

def drifts : Update → Prop
  | .modelDrift metrics =>
      ∃ accuracy : PyFloat, RiskState.driftAccuracy config (metrics.getD []) = .ok (some accuracy) ∧
        accuracy.lt config.modelDriftThreshold = true
  | _ => False

/-- A hard halt survives the update: the metrics breach a limit again, or have no reason for
a soft halt while the day is the one that is current, and no drift is reported. -/
def KeepsHalt (update : Update) : Prop :=
  ¬update.drifts config ∧
    ∀ metrics raised, update.measured config today state = some (metrics, raised) →
      if update.looksAtDay = true ∧ today ≠ state.currentDay then
        raised = none ∧ metrics.Breaches config
      else raised = none → metrics.Breaches config ∨ ¬metrics.Nears config

/-- The update notices a new day, and its metrics are far from every limit. -/
def Recovers (update : Update) : Prop :=
  update.looksAtDay = true ∧ today ≠ state.currentDay ∧
    ∀ metrics raised, update.measured config today state = some (metrics, raised) →
      raised = none → ¬metrics.Breaches config ∧ ¬metrics.Nears config

variable {config : RiskConfig} {today : ℤ} {state : RiskState}

theorem perform_of_measured {update : Update} {result : RiskState × Option PyError}
    (found : update.measured config today state = some result) :
    update.perform config today state = RiskState.evaluated config result := by
  cases update with
  | modelDrift metrics => cases found
  | portfolio data =>
      cases found
      rfl
  | unrealized unrealizedPnl =>
      cases found
      rfl
  | market flipTime now symbol marketData =>
      cases found
      rfl
  | fill filled =>
      cases found
      rfl
  | realizedPnl strategy pnl =>
      cases found
      rfl

theorem drifts_modelDrift {update : Update} (drifts : update.drifts config) :
    ∃ metrics, update = .modelDrift metrics := by
  cases update with
  | modelDrift metrics => exact ⟨metrics, rfl⟩
  | portfolio _ => cases drifts
  | unrealized _ => cases drifts
  | market _ _ _ _ => cases drifts
  | fill _ => cases drifts
  | realizedPnl _ _ => cases drifts

theorem measured_mode {update : Update} {result : RiskState × Option PyError}
    (halted : state.mode = .hardHalt)
    (found : update.measured config today state = some result) :
    result.1.mode =
      if update.looksAtDay = true ∧ today ≠ state.currentDay then .recoveryMode
      else .hardHalt := by
  have rolled : (state.resetDailyIfNeeded today).mode =
      if true = true ∧ today ≠ state.currentDay then .recoveryMode else .hardHalt := by
    rw [RiskState.resetDailyIfNeeded_mode today halted]
    by_cases same : today = state.currentDay
    · rw [if_pos same, if_neg (fun moved => moved.2 same)]
    · rw [if_neg same, if_pos ⟨rfl, same⟩]
  have unrolled : state.mode =
      if false = true ∧ today ≠ state.currentDay then .recoveryMode else .hardHalt := by
    rw [halted, if_neg (fun moved => Bool.noConfusion moved.1)]
  cases update with
  | modelDrift metrics => cases found
  | portfolio data =>
      cases found
      exact (RiskState.measurePortfolio_mode data).trans rolled
  | unrealized unrealizedPnl =>
      cases found
      exact (RiskState.measureUnrealized_mode unrealizedPnl).trans rolled
  | market flipTime now symbol marketData =>
      cases found
      exact (RiskState.measureMarket_mode flipTime now symbol marketData).trans unrolled
  | fill filled =>
      cases found
      exact unrolled
  | realizedPnl strategy pnl =>
      cases found
      exact (RiskState.measureRealizedPnl_mode strategy pnl).trans unrolled

theorem perform_modelDrift_mode (metrics : Option PyDict) :
    ((Update.modelDrift metrics).drifts config →
        ((Update.modelDrift metrics).perform config today state).1.mode = .softHalt) ∧
      (¬(Update.modelDrift metrics).drifts config →
        ((Update.modelDrift metrics).perform config today state).1.mode = state.mode) := by
  change (_ → (state.updateModelDrift config metrics).1.mode = .softHalt) ∧
    (_ → (state.updateModelDrift config metrics).1.mode = state.mode)
  unfold RiskState.updateModelDrift
  dsimp only
  constructor
  · rintro ⟨accuracy, found, less⟩
    rw [found]
    dsimp only
    rw [Option.any_some, if_pos less]
    rfl
  · intro calm
    split
    · rfl
    · next accuracy found =>
      split
      · next less =>
        obtain ⟨own, same, less⟩ := (Option.any_eq_true _ _).mp less
        rw [same] at found
        exact absurd ⟨own, found, less⟩ calm
      · rfl

theorem perform_hardHalt_iff (halted : state.mode = .hardHalt) (update : Update) :
    (update.perform config today state).1.mode = .hardHalt ↔
      update.KeepsHalt config today state := by
  cases found : update.measured config today state with
  | none =>
      cases update with
      | modelDrift metrics =>
          by_cases drifts : (Update.modelDrift metrics).drifts config
          · rw [(perform_modelDrift_mode metrics).1 drifts]
            exact iff_of_false Mode.noConfusion (fun keeps => keeps.1 drifts)
          · rw [(perform_modelDrift_mode metrics).2 drifts]
            exact iff_of_true halted ⟨drifts, fun _ _ impossible => nomatch impossible⟩
      | portfolio _ => cases found
      | unrealized _ => cases found
      | market _ _ _ _ => cases found
      | fill _ => cases found
      | realizedPnl _ _ => cases found
  | some result =>
      have calm : ¬update.drifts config := by
        intro drifts
        obtain ⟨metrics, rfl⟩ := drifts_modelDrift drifts
        cases found
      have mode := measured_mode halted found
      rw [perform_of_measured found]
      have meets : update.KeepsHalt config today state ↔
          if update.looksAtDay = true ∧ today ≠ state.currentDay then
            result.2 = none ∧ result.1.Breaches config
          else result.2 = none → result.1.Breaches config ∨ ¬result.1.Nears config := by
        unfold KeepsHalt
        rw [found]
        constructor
        · intro keeps
          exact keeps.2 result.1 result.2 rfl
        · intro holds
          refine ⟨calm, fun metrics raised same => ?_⟩
          cases same
          exact holds
      rw [meets]
      by_cases rolls : update.looksAtDay = true ∧ today ≠ state.currentDay
      · rw [if_pos rolls] at mode ⊢
        exact (RiskState.evaluated_recovery mode).1
      · rw [if_neg rolls] at mode ⊢
        exact RiskState.evaluated_hardHalt_iff mode

theorem perform_recovery_iff (halted : state.mode = .hardHalt) (update : Update) :
    (update.perform config today state).1.mode = .recoveryMode ↔
      update.Recovers config today state := by
  cases found : update.measured config today state with
  | none =>
      cases update with
      | modelDrift metrics =>
          refine iff_of_false ?_ (fun recovers => nomatch recovers.1)
          by_cases drifts : (Update.modelDrift metrics).drifts config
          · rw [(perform_modelDrift_mode metrics).1 drifts]
            exact Mode.noConfusion
          · rw [(perform_modelDrift_mode metrics).2 drifts, halted]
            exact Mode.noConfusion
      | portfolio _ => cases found
      | unrealized _ => cases found
      | market _ _ _ _ => cases found
      | fill _ => cases found
      | realizedPnl _ _ => cases found
  | some result =>
      have mode := measured_mode halted found
      rw [perform_of_measured found]
      by_cases rolls : update.looksAtDay = true ∧ today ≠ state.currentDay
      · rw [if_pos rolls] at mode
        rw [(RiskState.evaluated_recovery mode).2]
        unfold Recovers
        rw [found]
        constructor
        · intro far
          refine ⟨rolls.1, rolls.2, fun metrics raised same clear => ?_⟩
          cases same
          exact far clear
        · intro recovers
          exact recovers.2.2 result.1 result.2 rfl
      · rw [if_neg rolls] at mode
        refine iff_of_false ?_ (fun recovers => rolls ⟨recovers.1, recovers.2.1⟩)
        obtain ⟨measured, _ | raised⟩ := result
        · change (measured.evaluateHalts config).mode ≠ .recoveryMode
          by_cases breaches : measured.Breaches config
          · rw [RiskState.evaluateHalts_mode_of_breaches breaches]
            exact Mode.noConfusion
          by_cases nears : measured.Nears config
          · rw [RiskState.evaluateHalts_mode_of_nears breaches nears]
            exact Mode.noConfusion
          · have firm : measured.mode ≠ .softHalt := by
              rw [mode]
              exact Mode.noConfusion
            rw [RiskState.evaluateHalts_mode_of_far breaches nears firm, mode]
            exact Mode.noConfusion
        · change measured.mode ≠ .recoveryMode
          rw [mode]
          exact Mode.noConfusion

end Update

/-! ### Days of updates and approvals -/

inductive Call where
  | update (update : Update)
  | attempt (trade : Trade)
  | approve (trade : Trade)

structure DatedCall where
  today : ℤ
  call : Call

structure Desk where
  risk : RiskState
  updatedOn : ℤ

def Desk.start (config : RiskConfig) (today : ℤ) (startCapital : PyFloat) : Desk :=
  { risk := .start config today startCapital, updatedOn := today }

def Desk.next (config : RiskConfig) (desk : Desk) (dated : DatedCall) : Desk :=
  match dated.call with
  | .update update =>
      { risk := (update.perform config dated.today desk.risk).1, updatedOn := dated.today }
  | .attempt trade => { desk with risk := desk.risk.recordTradeAttempt config trade }
  | .approve _ => desk

/-- An update of a halted state is one that keeps the halt on the day of the last update,
and one that recovers on a later day. -/
def Sound (config : RiskConfig) (desk : Desk) (dated : DatedCall) : Prop :=
  ∀ update, dated.call = .update update → desk.risk.mode = .hardHalt →
    (dated.today = desk.updatedOn → update.KeepsHalt config dated.today desk.risk) ∧
      (desk.updatedOn < dated.today → update.Recovers config dated.today desk.risk)

def SoundStep (config : RiskConfig) (before : Desk) (dated : DatedCall) (after : Desk) : Prop :=
  after = before.next config dated ∧ Sound config before dated

/-- An update is of the day; approvals and attempts may be of any day. -/
def UpdatesOn (day : ℤ) (dated : DatedCall) : Prop :=
  ∀ update, dated.call = .update update → dated.today = day

theorem approve_of_hardHalt {config : RiskConfig} {state : RiskState}
    (halted : state.mode = .hardHalt) (trade : Trade) :
    state.approve config trade = (false, "hard_halt") := by
  unfold RiskState.approve
  dsimp only
  rw [if_pos halted]

theorem recordTradeAttempt_mode {config : RiskConfig} {state : RiskState} (trade : Trade) :
    (state.recordTradeAttempt config trade).mode = state.mode := by
  unfold RiskState.recordTradeAttempt
  split
  · rfl
  split <;> rfl

theorem SoundStep.halted {config : RiskConfig} {before after : Desk} {dated : DatedCall}
    (stepped : SoundStep config before dated after) (halted : before.risk.mode = .hardHalt)
    (sameDay : UpdatesOn before.updatedOn dated) :
    after.risk.mode = .hardHalt ∧ after.updatedOn = before.updatedOn := by
  obtain ⟨rfl, sound⟩ := stepped
  unfold Desk.next
  cases called : dated.call with
  | update update =>
      have today := sameDay update called
      have keeps := (sound update called halted).1 today
      exact ⟨(Update.perform_hardHalt_iff halted update).mpr keeps, today⟩
  | attempt trade => exact ⟨(recordTradeAttempt_mode trade).trans halted, rfl⟩
  | approve trade => exact ⟨halted, rfl⟩

/-- In every run of sound calls from a halted desk, the halt lasts as long as all updates are
of its day, every approval meanwhile is refused, and the first update of a later day starts
the recovery. -/
theorem hard_halt_lasts {config : RiskConfig} {between : List DatedCall} {halted desk : Desk}
    (isHalted : halted.risk.mode = .hardHalt)
    (run : Run (SoundStep config) halted between desk)
    (sameDay : ∀ dated ∈ between, UpdatesOn halted.updatedOn dated) :
    desk.risk.mode = .hardHalt ∧
      (∀ trade, desk.risk.approve config trade = (false, "hard_halt")) ∧
      ∀ dated update after, dated.call = .update update → halted.updatedOn < dated.today →
        SoundStep config desk dated after → after.risk.mode = .recoveryMode := by
  have lasts : (∀ dated ∈ between, UpdatesOn halted.updatedOn dated) →
      desk.risk.mode = .hardHalt ∧ desk.updatedOn = halted.updatedOn := by
    refine run.history_invariant (motive := fun labels state =>
      (∀ dated ∈ labels, UpdatesOn halted.updatedOn dated) →
        state.risk.mode = .hardHalt ∧ state.updatedOn = halted.updatedOn) ?_ ?_
    · intro _
      exact ⟨isHalted, rfl⟩
    · intro labels before label after ih stepped allSame
      obtain ⟨mode, day⟩ := ih (fun dated member =>
        allSame dated (List.mem_append_left [label] member))
      have labelSame := allSame label (List.mem_append_right labels List.mem_cons_self)
      rw [← day] at labelSame
      obtain ⟨kept, keptDay⟩ := stepped.halted mode labelSame
      exact ⟨kept, keptDay.trans day⟩
  obtain ⟨mode, day⟩ := lasts sameDay
  refine ⟨mode, approve_of_hardHalt mode, ?_⟩
  intro dated update after called later stepped
  obtain ⟨rfl, sound⟩ := stepped
  rw [← day] at later
  have recovers := (sound update called mode).2 later
  unfold Desk.next
  rw [called]
  exact (Update.perform_recovery_iff mode update).mpr recovers

def portfolioCall (today dailyPnl : ℤ) : DatedCall :=
  { today := today
    call := .update (.portfolio [("capital", .int 100000), ("daily_pnl", .int dailyPnl)]) }

def plainConfig : RiskConfig := { round := fun _digits value => value }

def haltedDesk : Desk :=
  (Desk.start plainConfig 0 (.finite 100000)).next plainConfig (portfolioCall 0 (-3000))

/-- The loss stays until the next day. -/
theorem hard_halt_lasts_loss :
    let kept := haltedDesk.next plainConfig (portfolioCall 0 (-3000))
    kept.risk.mode = .hardHalt ∧
      (kept.next plainConfig (portfolioCall 1 0)).risk.mode = .recoveryMode := by
  have halted : haltedDesk.risk.mode = .hardHalt := by decide +kernel
  have keptHalted :
      (haltedDesk.next plainConfig (portfolioCall 0 (-3000))).risk.mode = .hardHalt := by
    decide +kernel
  have first : SoundStep plainConfig haltedDesk (portfolioCall 0 (-3000))
      (haltedDesk.next plainConfig (portfolioCall 0 (-3000))) := by
    refine ⟨rfl, fun update called _halted => ⟨fun _today => ?_, fun later => ?_⟩⟩
    · cases called
      exact (Update.perform_hardHalt_iff halted _).mp keptHalted
    · exact absurd later (by decide)
  have second : SoundStep plainConfig (haltedDesk.next plainConfig (portfolioCall 0 (-3000)))
      (portfolioCall 1 0)
      ((haltedDesk.next plainConfig (portfolioCall 0 (-3000))).next plainConfig
        (portfolioCall 1 0)) := by
    refine ⟨rfl, fun update called _halted => ⟨fun today => ?_, fun _later => ?_⟩⟩
    · exact absurd today (by decide)
    · cases called
      exact (Update.perform_recovery_iff keptHalted _).mp (by decide +kernel)
  have lasts := hard_halt_lasts halted (.snoc .nil first) (by
    intro dated member update called
    cases List.mem_singleton.mp member
    rfl)
  exact ⟨lasts.1, lasts.2.2 (portfolioCall 1 0) _ _ rfl (by decide) second⟩

/-- Part of the loss is made up on the same day: the halt is lifted and a trade is
approved. -/
theorem hard_halt_lifted :
    haltedDesk.risk.mode = .hardHalt ∧ haltedDesk.updatedOn = 0 ∧
      let after := haltedDesk.next plainConfig (portfolioCall 0 (-1200))
      after.risk.mode = .softHalt ∧
        after.risk.approve plainConfig { strategy := some "IRON_CONDOR", instrument := "OPT" } =
          (true, "ok") := by
  decide +kernel

end Algotradify.Core.Risk
