import BotKeeper.Instance.Effects
import BotKeeper.Proofs.LaunchTexts

/-! The delay of a scheduled restart. It is an interval with some of the jitter added, and the sum
may be longer than a duration can be, in which case no restart is scheduled at all. An interval that
is read from a text may already be the longest there is. Main statement: the limits that the check of
a config puts on the two keep their sum in range, so an enabled schedule is armed whatever is drawn. -/

namespace BotKeeper.Proofs

variable {schedule : AutoRestartSchedule}

private theorem drawn_le (schedule : AutoRestartSchedule) (draw : Nat) :
    draw % (schedule.jitterSecs.toNat + 1) ≤ schedule.jitterSecs.toNat :=
  Nat.le_of_lt_succ (Nat.mod_lt draw (Nat.succ_pos _))

/-- As long as the longest delay is in range, so is each. -/
theorem nextDelay?_of_bounded (enabled : schedule.enable = true)
    (bounded : schedule.interval.seconds + schedule.jitterSecs.toNat < secondLimit) (draw : Nat) :
    schedule.nextDelay? draw =
      some (schedule.interval.seconds + draw % (schedule.jitterSecs.toNat + 1)) := by
  have less := Nat.lt_of_le_of_lt (Nat.add_le_add_left (drawn_le schedule draw) _) bounded
  simp only [AutoRestartSchedule.nextDelay?, enabled, if_true, if_pos less]

/-- A text can ask for an interval to which nothing can be added. But the interval and the jitter of
a config that passes the check are at most a year and an hour. So each draw gives a delay, each
delay between the bounds is drawn, and an instance with the config is always armed. -/
theorem checked_schedule_is_armed :
    (∃ text interval draw, Interval.parse text = .ok interval ∧ interval.seconds = UInt64.size - 1 ∧
      AutoRestartSchedule.nextDelay? { enable := true, interval, jitterSecs := 1 } draw = none) ∧
    ∀ config : InstanceConfig, config.validate = .ok () → config.autoRestart.enable = true →
      let least := config.autoRestart.interval.seconds
      let most := least + config.autoRestart.jitterSecs.toNat
      most ≤ 365 * 86400 + 3600 ∧
      (∀ draw, ∃ delay, config.autoRestart.nextDelay? draw = some delay ∧
        least ≤ delay ∧ delay ≤ most) ∧
      (∀ delay, least ≤ delay → delay ≤ most →
        ∃ draw, config.autoRestart.nextDelay? draw = some delay) ∧
      ∀ (around : Surroundings) (state : Instance), state.config = config →
        ∃ delay, (state.armSchedule around).restartAt = some (around.now + delay * 1000) ∧
          least ≤ delay ∧ delay ≤ most := by
  refine ⟨⟨"9999999999999999d", { seconds := UInt64.size - 1 }, 1, by decide +kernel, rfl, by decide⟩, ?_⟩
  intro config valid enabled least most
  obtain ⟨_, jitter, interval⟩ := checked_parts valid
  have limited : most ≤ 365 * 86400 + 3600 := Nat.add_le_add interval jitter
  have bounded : most < secondLimit := Nat.lt_of_le_of_lt limited (by decide)
  have delay := nextDelay?_of_bounded enabled bounded
  have between (draw : Nat) : least ≤ least + draw % (config.autoRestart.jitterSecs.toNat + 1) ∧
      least + draw % (config.autoRestart.jitterSecs.toNat + 1) ≤ most :=
    ⟨Nat.le_add_right _ _, Nat.add_le_add_left (drawn_le _ draw) _⟩
  refine ⟨limited, fun draw => ⟨_, delay draw, between draw⟩, fun seconds above below => ?_,
    fun around state same => ⟨_, ?_, between (around.jitter state.id state.lastPid)⟩⟩
  · refine ⟨seconds - least, ?_⟩
    rw [delay, Nat.mod_eq_of_lt (by omega), Option.some.injEq]
    exact Nat.add_sub_cancel' above
  · rw [Instance.armSchedule, same, delay]
    rfl

/-- The schedule has the longest interval and the largest jitter that pass the check. -/
theorem yearly_schedule_is_armed :
    let config : InstanceConfig :=
      { accountId := 100001, executable := "/opt/bot", workingDir := "/opt",
        autoRestart := { enable := true, interval := { seconds := 31536000 }, jitterSecs := 3600 } }
    config.validate = .ok () ∧ config.autoRestart.enable = true ∧
      ∃ draw, config.autoRestart.nextDelay? draw = some 31539600 := by
  intro config
  have valid : config.validate = .ok () := by decide +kernel
  obtain ⟨_, _, drawn, _⟩ := checked_schedule_is_armed.2 config valid rfl
  exact ⟨valid, rfl, drawn 31539600 (by decide) (by decide)⟩

end BotKeeper.Proofs
