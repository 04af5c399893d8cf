import CpsKitchen.RobotAgent.LoadAccounting

/-!
# The countdown of an action

`pass_time` takes one unit off the clock of the action and one off the load,
and looks for a zero afterwards. An action that takes time is over when its
units are. One that takes none, which `recipe_parser` accepts, starts with its
clock at zero, and the first tick runs it below.
-/

namespace CpsKitchen.RobotAgent

open CpsKitchen.Reactive CpsKitchen.Recipes

set_option autoImplicit false

variable {config : Config} {r after : Robot} {event : Event} {outputs : List Output}

def Ticks (r : Robot) : Event → Prop
  | .runHandler _ => r.posted.head? = some (.timerCompleted .passTime)
  | _ => False

instance (r : Robot) : (event : Event) → Decidable (Ticks r event)
  | .runHandler _ => inferInstanceAs (Decidable (_ = _))
  | .receiveTask _ _ | .handoverFinishedOrder | .switchPosition _ _ | .commitNewPosition
  | .reconfigure _ _ | .cookNextOrder | .notifyConveyor _ | .timerExpires | .conveyorLost
  | .conveyorConnected _ => isFalse id

/-- The ticks since the last action was performed, and what they took off the
load. -/
structure Countdown where
  ticks : Nat
  spent : Int

def Countdown.tick (count : Countdown) (r : Robot) : Countdown where
  ticks := count.ticks + 1
  spent := count.spent +
    ((r.attributes.overallTime : Int) - (countDown r).attributes.overallTime)

def countTicks (config : Config) (r : Robot) (event : Event) (count : Countdown) : Countdown :=
  if Ticks r event then
    match step config r event with
    | some (_, []) => count.tick r
    | _ => ⟨0, 0⟩
  else count

/-- The action that is counted down takes time, and the load that is taken off
was not cut off to zero. -/
def CountsExactly (r : Robot) (event : Event) : Prop :=
  Ticks r event → (∀ action ∈ r.actionQueueInProcess.head?, action.duration ≠ 0) ∧
    ¬ 2 ^ 32 ∣ (work r).remainingTime

instance (r : Robot) (event : Event) : Decidable (CountsExactly r event) :=
  inferInstanceAs (Decidable (_ → _ ∧ _))

section Clock

/-- The clock and the action it belongs to stand still. -/
structure SameClock (r after : Robot) : Prop where
  duration : after.currentActionDuration = r.currentActionDuration
  queue : after.actionQueueInProcess = r.actionQueueInProcess

theorem handleSwitchPosition_sameClock (r : Robot) :
    SameClock r (handleSwitchPosition config r) := by
  unfold handleSwitchPosition
  split <;> exact ⟨rfl, rfl⟩

theorem handleReconfiguration_sameClock (r : Robot) : SameClock r (handleReconfiguration r) := by
  unfold handleReconfiguration
  split <;> exact ⟨rfl, rfl⟩

theorem OneDriver.plain_of_next (one : OneDriver r) (performing : TimerOutstanding r .passTime)
    {handler : Handler} {posted : List Handler} (next : r.posted = handler :: posted)
    (other : handler ≠ .timerCompleted .passTime) : handler.drives = false := by
  by_contra drives
  exact other (one.timer_of_next next (Bool.not_eq_false _ ▸ drives) performing)

/-- While an action is performed, only `pass_time` touches its clock. -/
theorem step_sameClock (one : OneDriver r) (performing : TimerOutstanding r .passTime)
    (other : ¬ Ticks r event) (step : Step config r event after outputs) :
    SameClock r after := by
  cases step with
  | refused | renotifyFailed => exact ⟨rfl, rfl⟩
  | taskAccepted | handedOver | switchAccepted | commitAccepted | reconfigureAccepted
  | notifyFailed | notified | expired | conveyorLost | conveyorConnected | renotified =>
      exact ⟨rfl, rfl⟩
  | locked waiting =>
      exact absurd (one.entering waiting).1 (one.cooking (.inr (.inl performing)))
  | handled capability handler posted idle next ran =>
      have plain : handler.drives = false := by
        refine one.plain_of_next performing next ?_
        rintro rfl
        exact other (by simp [Ticks, next])
      cases ran with
      | taskForgotten | taskQueued | targeted | postponed | committed | aborted => exact ⟨rfl, rfl⟩
      | rearranges newPosition =>
          have same : SameClock (target (takeHandler r posted) newPosition)
              (handleSwitchPosition config (target (takeHandler r posted) newPosition)) :=
            handleSwitchPosition_sameClock _
          exact ⟨same.duration, same.queue⟩
      | reconfigures =>
          have same := handleReconfiguration_sameClock (takeHandler r posted)
          exact ⟨same.duration, same.queue⟩
      | entered | retooled | ticked | performed | moved | completed => contradiction

end Clock

section Steps

theorem Work.next_timeLeft {w : Work} {left : Nat} (running : w.next.timeLeft = some left) :
    ∃ action rest, w.actionQueueInProcess = action :: rest ∧ left = action.duration := by
  cases queue : w.actionQueueInProcess with
  | nil => simp [next, queue] at running
  | cons action rest =>
      simp only [next, queue] at running
      split at running
      · cases running
        exact ⟨action, rest, rfl, rfl⟩
      · contradiction

theorem Work.Step.starts {state : RobotState} {w w' : Work}
    (step : Work.Step config state w w' outputs) (time : w.timeLeft = none) {left : Nat}
    (running : w'.timeLeft = some left) :
    ∃ action rest, w'.actionQueueInProcess = action :: rest ∧ left = action.duration := by
  cases step with
  | same | accepted | queued | rested | handedOver =>
      exact absurd (time.symm.trans running) (by simp)
  | started | retooled => exact next_timeLeft running
  | ticked _ _ _ _ _ _ _ still | performed _ _ _ _ _ _ _ still =>
      rw [time] at still
      contradiction
  | reconfigured =>
      rw [Work.requeue_timeLeft] at running
      exact absurd (time.symm.trans running) (by simp)

/-- A clock that stands still is not taken away from the robot. -/
theorem Work.Step.goesOn {state : RobotState} {w w' : Work}
    (step : Work.Step config state w w' outputs) (resting : w.recipeId = 0 → w.timeLeft = none)
    {left : Nat} (running : w.timeLeft = some left)
    (queue : w'.actionQueueInProcess = w.actionQueueInProcess) :
    ∃ still, w'.timeLeft = some still := by
  have cooking : w.recipeId ≠ 0 := by
    intro none
    rw [resting none] at running
    contradiction
  cases step with
  | same | accepted | queued | rested => exact ⟨left, running⟩
  | started _ _ _ _ none | reconfigured _ _ _ _ _ _ _ none => exact absurd none cooking
  | retooled _ _ _ _ _ _ time | handedOver _ _ time =>
      rw [time] at running
      contradiction
  | ticked => exact ⟨_, rfl⟩
  | performed action rest _ front =>
      have popped : rest = w.actionQueueInProcess := queue
      rw [front] at popped
      exact absurd popped.symm (List.cons_ne_self action rest)

theorem timeLeft_eq_some {left : Nat} : timeLeft r = some left ↔
    TimerOutstanding r .passTime ∧ r.currentActionDuration = left := by
  unfold timeLeft
  split
  next performing => simp [performing]
  next idle => simp [idle]

end Steps

section Counting

variable {count : Countdown}

/-- The clock shows what is left of the action after the ticks that were
counted, and each of them took one unit off the load. -/
structure Counting (r : Robot) (count : Countdown) : Prop where
  spent : count.spent = count.ticks
  running : ∀ left, timeLeft r = some left → ∃ action rest,
    r.actionQueueInProcess = action :: rest ∧ left + count.ticks = action.duration ∧
      (0 < count.ticks → 0 < left)
  idle : timeLeft r = none → count.ticks = 0

theorem counting_zero (running : ∀ left, timeLeft r = some left → ∃ action rest,
    r.actionQueueInProcess = action :: rest ∧ left = action.duration) :
    Counting r ⟨0, 0⟩ where
  spent := rfl
  running := by
    intro left time
    obtain ⟨action, rest, front, same⟩ := running left time
    exact ⟨action, rest, front, same, fun positive => absurd positive (Nat.lt_irrefl 0)⟩
  idle := fun _ => rfl

theorem performing_of_ticks (tick : Ticks r event) : TimerOutstanding r .passTime := by
  cases event with
  | runHandler capability => exact .inr (List.mem_of_head? tick)
  | _ => exact absurd tick id

theorem Counting.tick_counts (counting : Counting r count) (balanced : (work r).Balanced)
    (tick : Ticks r event) (exact_ : CountsExactly r event) :
    1 ≤ r.currentActionDuration ∧ 1 ≤ r.attributes.overallTime := by
  obtain ⟨lasting, notCutOff⟩ := exact_ tick
  obtain ⟨action, rest, front, sum, positive⟩ :=
    counting.running _ (timeLeft_eq_some.mpr ⟨performing_of_ticks tick, rfl⟩)
  have takesTime : action.duration ≠ 0 := lasting action (by simp [front])
  have published : r.attributes.overallTime = (work r).remainingTime % 2 ^ 32 :=
    balanced.overallTime
  constructor
  · by_cases first : count.ticks = 0
    · rw [first, Nat.add_zero] at sum
      rw [sum]
      exact Nat.pos_of_ne_zero takesTime
    · exact positive (Nat.pos_of_ne_zero first)
  · omega

theorem Counting.tick_spends (counting : Counting r count)
    (loaded : 1 ≤ r.attributes.overallTime) :
    (count.tick r).spent = (count.tick r).ticks := by
  have decrement : (countDown r).attributes.overallTime = r.attributes.overallTime - 1 :=
    if_pos loaded
  simp only [Countdown.tick, counting.spent, decrement]
  omega

theorem last_tick {left ticks duration : Nat} (sum : left + ticks = duration)
    (positive : 1 ≤ left) :
    (left - 1 = 0 → duration = ticks + 1) ∧
      (left - 1 ≠ 0 → ticks + 1 < duration ∧ left - 1 + (ticks + 1) = duration) := by
  omega

/-- The tick that takes the last unit performs the action, and no other. -/
theorem Counting.tick_performs (counting : Counting r count) (one : OneDriver r)
    (handwork : Handwork r) (tick : Ticks r event) (positive : 1 ≤ r.currentActionDuration)
    (step : Step config r event after outputs) :
    ∃ action rest, r.actionQueueInProcess = action :: rest ∧
      (action.duration = count.ticks + 1 ∧
          outputs = [.actionPerformed r.dishInProcess action true] ∧
          (∀ left, timeLeft after = some left → ∃ next others,
            after.actionQueueInProcess = next :: others ∧ left = next.duration) ∨
        count.ticks + 1 < action.duration ∧ outputs = [] ∧ TimerOutstanding after .passTime ∧
          after.actionQueueInProcess = action :: rest ∧
          after.currentActionDuration + (count.ticks + 1) = action.duration) := by
  have performing := performing_of_ticks tick
  obtain ⟨action, rest, front, sum, _⟩ :=
    counting.running _ (timeLeft_eq_some.mpr ⟨performing, rfl⟩)
  obtain ⟨_, _, front', capable, _⟩ := handwork.performing performing
  rw [front] at front'
  obtain ⟨rfl, rfl⟩ := List.cons.inj front'
  refine ⟨action, rest, front, ?_⟩
  cases step with
  | handled capability handler posted idle next ran =>
      have same : handler = .timerCompleted .passTime := by
        have first : r.posted.head? = some (.timerCompleted .passTime) := tick
        rw [next] at first
        exact Option.some.inj first
      subst same
      have counted : subWord 64 r.currentActionDuration timeUnitUpdateRate =
          r.currentActionDuration - 1 := if_pos positive
      cases ran with
      | ticked left =>
          have left : subWord 64 r.currentActionDuration timeUnitUpdateRate ≠ 0 := left
          rw [counted] at left
          obtain ⟨early, sumAfter⟩ := (last_tick sum positive).2 left
          rw [← counted] at sumAfter
          exact .inr ⟨early, rfl, .inl rfl, front, sumAfter⟩
      | performed performed others elapsed queue =>
          have elapsed : subWord 64 r.currentActionDuration timeUnitUpdateRate = 0 := elapsed
          rw [counted] at elapsed
          have queue : r.actionQueueInProcess = performed :: others := queue
          rw [front] at queue
          obtain ⟨rfl, rfl⟩ := List.cons.inj queue
          have able : decide (isCapableTo (takeHandler r posted) action) = true :=
            decide_eq_true capable
          rw [able]
          refine .inl ⟨(last_tick sum positive).1 elapsed, rfl, ?_⟩
          intro left running
          have quiet : Quiet (countStep (countDown (takeHandler r posted)) rest) :=
            have taken := one.quiet_after_take next rfl
            ⟨taken.steadyTimer, taken.posted, taken.worker, taken.pickup, taken.commit⟩
          have worked := work_determineNextAction quiet
          have clock : (work (determineNextAction
              (countStep (countDown (takeHandler r posted)) rest))).timeLeft = some left := running
          have queued : (determineNextAction
              (countStep (countDown (takeHandler r posted)) rest)).actionQueueInProcess = rest :=
            congrArg Work.actionQueueInProcess worked
          rw [worked] at clock
          rw [queued]
          exact Work.next_timeLeft clock
  | refused refusal => cases refusal <;> exact absurd tick id
  | _ => exact absurd tick id

end Counting

section Runs

variable {count : Countdown}

structure Punctual (config : Config) (r : Robot) (count : Countdown) : Prop where
  sound : Sound config r
  balanced : (work r).Balanced
  counting : Counting r count

theorem initial_punctual (started : Started config r) : Punctual config r ⟨0, 0⟩ where
  sound := initial_sound started
  balanced := (initial_accounted started).balanced
  counting := by
    refine counting_zero ?_
    intro left running
    obtain ⟨position, _, capabilities, _, action, _, _, _, rfl⟩ := started
    simp [timeLeft, initial, TimerOutstanding] at running

theorem Punctual.keeps_performing (punctual : Punctual config r count)
    (performing : TimerOutstanding r .passTime) (other : ¬ Ticks r event)
    (permitted : CommitsOnce r event) (taken : step config r event = some (after, outputs)) :
    SameClock r after ∧ TimerOutstanding after .passTime := by
  have same := step_sameClock punctual.sound.one performing other (step_cases taken).2
  have worked := (step_sound punctual.sound permitted taken).2
  have clock : (work r).timeLeft = some r.currentActionDuration :=
    timeLeft_eq_some.mpr ⟨performing, rfl⟩
  obtain ⟨still, running⟩ := worked.goesOn punctual.balanced.resting clock same.queue
  exact ⟨same, (timeLeft_eq_some.mp running).1⟩

theorem Punctual.counting_step (punctual : Punctual config r count)
    (permitted : CommitsOnce r event) (exact_ : CountsExactly r event)
    (taken : step config r event = some (after, outputs)) :
    Counting after (countTicks config r event count) := by
  have reaction := (step_cases taken).2
  have worked := (step_sound punctual.sound permitted taken).2
  unfold countTicks
  by_cases tick : Ticks r event
  · rw [if_pos tick, taken]
    obtain ⟨positive, loaded⟩ := punctual.counting.tick_counts punctual.balanced tick exact_
    obtain ⟨action, rest, _, elapsed | goesOn⟩ :=
      punctual.counting.tick_performs punctual.sound.one punctual.sound.handwork tick positive
        reaction
    · obtain ⟨_, rfl, running⟩ := elapsed
      exact counting_zero running
    · obtain ⟨early, rfl, performing, front, sum⟩ := goesOn
      refine ⟨punctual.counting.tick_spends loaded, ?_, ?_⟩
      · intro left running
        obtain ⟨_, clock⟩ := timeLeft_eq_some.mp running
        rw [clock] at sum
        exact ⟨action, rest, front, sum, fun _ => Nat.pos_of_ne_zero (by
          rintro rfl
          rw [Nat.zero_add] at sum
          exact absurd sum early.ne)⟩
      · intro idle
        exact absurd (timeLeft_eq_some.mpr ⟨performing, rfl⟩) (by simp [idle])
  · rw [if_neg tick]
    by_cases performing : TimerOutstanding r .passTime
    · obtain ⟨same, still⟩ := punctual.keeps_performing performing tick permitted taken
      refine ⟨punctual.counting.spent, ?_, ?_⟩
      · intro left running
        rw [← (timeLeft_eq_some.mp running).2, same.duration, same.queue]
        exact punctual.counting.running _ (timeLeft_eq_some.mpr ⟨performing, rfl⟩)
      · intro idle
        exact absurd (timeLeft_eq_some.mpr ⟨still, rfl⟩) (by simp [idle])
    · have idle : timeLeft r = none := if_neg performing
      have none : count.ticks = 0 := punctual.counting.idle idle
      refine ⟨punctual.counting.spent, ?_, fun _ => none⟩
      intro left running
      obtain ⟨action, rest, front, same⟩ := worked.starts idle running
      rw [none]
      exact ⟨action, rest, front, same, fun positive => absurd positive (Nat.lt_irrefl 0)⟩

theorem step_punctual (punctual : Punctual config r count) (permitted : CommitsOnce r event)
    (exact_ : CountsExactly r event) (taken : step config r event = some (after, outputs)) :
    Punctual config after (countTicks config r event count) := by
  obtain ⟨sound, worked⟩ := step_sound punctual.sound permitted taken
  refine ⟨sound, ?_, punctual.counting_step permitted exact_ taken⟩
  refine worked.balanced punctual.sound.readable punctual.balanced ?_
  intro left running moved
  obtain ⟨performing, clock⟩ := timeLeft_eq_some.mp running
  by_cases tick : Ticks r event
  · rw [← clock]
    exact (punctual.counting.tick_counts punctual.balanced tick exact_).1
  · obtain ⟨same, still⟩ := punctual.keeps_performing performing tick permitted taken
    have standing : (work after).timeLeft = (work r).timeLeft := by
      change timeLeft after = timeLeft r
      rw [timeLeft, timeLeft, if_pos still, if_pos performing, same.duration]
    exact absurd same.queue (moved standing)

theorem reaches_punctual {history : History Event Output}
    (reached : ((machine config).observed ⟨0, 0⟩ (countTicks config)).Reaches
      (fun s event => CommitsOnce s.1 event ∧ CountsExactly s.1 event) history (r, count)) :
    Punctual config r count := by
  have all : ∀ s : Robot × Countdown, ∀ history,
      ((machine config).observed ⟨0, 0⟩ (countTicks config)).Reaches
        (fun s event => CommitsOnce s.1 event ∧ CountsExactly s.1 event) history s →
      Punctual config s.1 s.2 := by
    intro s history reached
    induction reached with
    | start first =>
        obtain ⟨started, empty⟩ := first
        rw [empty]
        exact initial_punctual started
    | step _ permitted taken punctual =>
        obtain ⟨taken, counted⟩ := Machine.observed_step taken
        rw [counted]
        exact step_punctual punctual permitted.1 permitted.2 taken
  exact all (r, count) history reached

/-- In a run that commits once and counts exactly, an action that was started is
performed by the tick of its last unit and by no other step, and by then the
load is smaller by its duration. A tick counts exactly if and only if neither
counter is at zero. -/
theorem actions_end_on_time (config : Config) (history : History Event Output) (r : Robot)
    (count : Countdown)
    (reached : ((machine config).observed ⟨0, 0⟩ (countTicks config)).Reaches
      (fun s event => CommitsOnce s.1 event ∧ CountsExactly s.1 event) history (r, count))
    (performing : TimerOutstanding r .passTime) :
    ∃ action rest, r.actionQueueInProcess = action :: rest ∧
      r.currentActionDuration + count.ticks = action.duration ∧ count.spent = count.ticks ∧
      ∀ event after outputs, CommitsOnce r event → step config r event = some (after, outputs) →
        (¬ Ticks r event → TimerOutstanding after .passTime ∧ SameClock r after) ∧
        (Ticks r event →
          (CountsExactly r event ↔ timeUnitUpdateRate ≤ r.currentActionDuration ∧
            timeUnitUpdateRate ≤ r.attributes.overallTime) ∧
          (CountsExactly r event → (count.tick r).spent = (count.tick r).ticks ∧
            if (count.tick r).ticks = action.duration then
              outputs = [.actionPerformed r.dishInProcess action true]
            else outputs = [] ∧ (count.tick r).ticks < action.duration ∧
              TimerOutstanding after .passTime)) := by
  have punctual := reaches_punctual reached
  have counting := punctual.counting
  obtain ⟨action, rest, front, sum, positive⟩ :=
    counting.running _ (timeLeft_eq_some.mpr ⟨performing, rfl⟩)
  refine ⟨action, rest, front, sum, counting.spent, ?_⟩
  intro event after outputs permitted taken
  constructor
  · intro other
    obtain ⟨same, still⟩ := punctual.keeps_performing performing other permitted taken
    exact ⟨still, same⟩
  · intro tick
    have counts := counting.tick_counts punctual.balanced tick
    refine ⟨⟨counts, ?_⟩, ?_⟩
    · rintro ⟨left, loaded⟩ -
      have published : r.attributes.overallTime = (work r).remainingTime % 2 ^ 32 :=
        punctual.balanced.overallTime
      constructor
      · intro first member takesNone
        rw [front, List.head?_cons, Option.mem_def, Option.some.injEq] at member
        rw [member, takesNone, Nat.add_eq_zero_iff] at sum
        rw [sum.1] at left
        contradiction
      · intro cutOff
        rw [Nat.mod_eq_zero_of_dvd cutOff] at published
        rw [published] at loaded
        contradiction
    · intro exact_
      obtain ⟨left, loaded⟩ := counts exact_
      refine ⟨counting.tick_spends loaded, ?_⟩
      obtain ⟨_, _, front', outcome⟩ := counting.tick_performs punctual.sound.one
        punctual.sound.handwork tick left (step_cases taken).2
      rw [front] at front'
      obtain ⟨rfl, rfl⟩ := List.cons.inj front'
      have ticks : (count.tick r).ticks = count.ticks + 1 := rfl
      rw [ticks]
      rcases outcome with ⟨last, performed, _⟩ | ⟨early, silent, still, _⟩
      · rw [if_pos last.symm]
        exact performed
      · rw [if_neg (Nat.ne_of_lt early)]
        exact ⟨silent, early, still⟩

/-- The mixing robot has whipped for two of three units. -/
theorem whipping_ends_on_time :
    ∃ history r count action, ((machine deployment).observed ⟨0, 0⟩ (countTicks deployment)).Reaches
        (fun s event => CommitsOnce s.1 event ∧ CountsExactly s.1 event) history (r, count) ∧
      r.actionQueueInProcess.head? = some action ∧ action.duration = 3 ∧ count.ticks = 2 ∧
      count.spent = 2 ∧ ∀ after outputs,
        step deployment r (.runHandler "whip") = some (after, outputs) →
        outputs = [.actionPerformed r.dishInProcess action true] := by
  have started : ((machine deployment).observed ⟨0, 0⟩ (countTicks deployment)).start
      (mixingRobot, ⟨0, 0⟩) := ⟨mixingRobot_started, rfl⟩
  obtain ⟨history, ⟨r, count⟩, reached, shown⟩ := Machine.exists_reaches_of_replay
    ((machine deployment).observed ⟨0, 0⟩ (countTicks deployment))
    (fun s event => CommitsOnce s.1 event ∧ CountsExactly s.1 event) started
    [.receiveTask ⟨3, 0, 1⟩ 3, .runHandler "whip", .cookNextOrder, .timerExpires,
     .runHandler "whip", .timerExpires, .runHandler "whip", .timerExpires]
    (fun _ s => decide (Ticks s.1 (.runHandler "whip") ∧ CountsExactly s.1 (.runHandler "whip") ∧
      s.2.ticks = 2 ∧ s.1.actionQueueInProcess.head?.map RobotAction.duration = some 3)) (by decide)
  obtain ⟨tick, exact_, ticks, three⟩ := of_decide_eq_true shown
  obtain ⟨action, rest, front, sum, spent, ends⟩ := actions_end_on_time deployment history r count
    reached (performing_of_ticks tick)
  have whips : action.duration = 3 := by
    rw [front] at three
    exact Option.some.inj three
  refine ⟨history, r, count, action, reached, by simp [front], whips, ticks, ?_, ?_⟩
  · rw [spent, ticks]
    rfl
  · intro after outputs taken
    have performed := (((ends _ _ _ (by simp [CommitsOnce]) taken).2 tick).2 exact_).2
    have last : (count.tick r).ticks = action.duration := by
      rw [whips]
      exact congrArg (· + 1) ticks
    rw [if_pos last] at performed
    exact performed

/-- A kitchen with one recipe, of one action that takes no time. -/
def blanching : Config where
  recipeParser := .ofRecipes
    (List.reduceOption [readRecipe "blanched potatoes" [("boil", "potato", some 0)]]) (by decide)
  capabilityParser := deployment.capabilityParser
  serverEndpoint := deployment.serverEndpoint
  conveyorSize := deployment.conveyorSize
  conveyorSizePositive := deployment.conveyorSizePositive

def boilingRobot : Robot := initial 2 {"boil", "braise", "fry"} .pot

theorem boilingRobot_started : Started blanching boilingRobot :=
  ⟨2, "r2.json", {"boil", "braise", "fry"}, "boil", .recipeTimed .pot, by decide, by decide,
    by decide, rfl⟩

/-- The first tick does not perform the action, and takes both counters below
zero. -/
theorem boiling_for_no_time_does_not_end :
    ∃ history r after, (machine blanching).Reaches CommitsOnce history r ∧
      r.actionQueueInProcess.map RobotAction.duration = [0] ∧ Ticks r (.runHandler "boil") ∧
      step blanching r (.runHandler "boil") = some (after, []) ∧
      after.currentActionDuration = 2 ^ 64 - 1 ∧ r.attributes.overallTime = 0 ∧
      after.attributes.overallTime = 2 ^ 32 - 1 := by
  obtain ⟨history, r, reached, shown⟩ := Machine.exists_reaches_of_replay
    (machine blanching) CommitsOnce boilingRobot_started
    [.receiveTask ⟨1, 0, 1⟩ 2, .runHandler "boil", .cookNextOrder, .timerExpires]
    (fun _ r => match step blanching r (.runHandler "boil") with
      | some (after, []) => decide (r.actionQueueInProcess.map RobotAction.duration = [0] ∧
          Ticks r (.runHandler "boil") ∧ after.currentActionDuration = 2 ^ 64 - 1 ∧
          r.attributes.overallTime = 0 ∧ after.attributes.overallTime = 2 ^ 32 - 1)
      | _ => false) (by decide)
  split at shown
  next after taken =>
    obtain ⟨instant, tick, clock, idle, load⟩ := of_decide_eq_true shown
    exact ⟨history, r, after, reached, instant, tick, taken, clock, idle, load⟩
  · contradiction

end Runs

end CpsKitchen.RobotAgent
