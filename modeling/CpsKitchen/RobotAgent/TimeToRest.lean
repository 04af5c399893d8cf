import CpsKitchen.RobotAgent.LoadAccounting
import CpsKitchen.RobotAgent.TaskOrder
import CpsKitchen.RobotAgent.Commits

/-!
# The time that a robot has announced

A robot that gets no new task and no new adaptation works off what it has. Every
unit of time that it spends is one it had announced.
-/

namespace CpsKitchen.RobotAgent

open CpsKitchen.Reactive CpsKitchen.Recipes

set_option autoImplicit false

variable {config : Config} {r after : Robot} {event : Event} {outputs : List Output}

section Time

def Work.tasksPlan (config : Config) (w : Work) : List RobotAction :=
  w.tasks.flatMap fun task =>
    match config.recipeParser.getRecipe task.recipeId with
    | none => []
    | some recipe =>
        processable w.capabilities (recipe.actionQueue.drop task.overallProcessedSteps)

/-- The time still to be spent on everything the robot has accepted. -/
def Work.timeToRest (config : Config) (w : Work) : Nat :=
  w.remainingTime + cookingTime w.toolAtEnd (w.tasksPlan config)

variable {w w' : Work}

theorem Work.timeToRest_le (remaining : w'.remainingTime ≤ w.remainingTime)
    (tool : w'.toolAtEnd = w.toolAtEnd) (tasks : w'.tasks = w.tasks)
    (capabilities : w'.capabilities = w.capabilities) :
    w'.timeToRest config ≤ w.timeToRest config := by
  have plan : w'.tasksPlan config = w.tasksPlan config := by
    rw [tasksPlan, tasksPlan, tasks, capabilities]
  rw [timeToRest, timeToRest, tool, plan]
  exact Nat.add_le_add_right remaining _

theorem Work.queueOrder_timeToRest {task : Task} {tasks : List Task} {recipe : Recipe}
    (front : w.tasks = task :: tasks)
    (known : config.recipeParser.getRecipe task.recipeId = some recipe) :
    ({ w with tasks := tasks }.queueOrder task recipe).timeToRest config =
      w.timeToRest config := by
  have plan : ({ w with tasks := tasks }.queueOrder task recipe).plan = w.plan ++
      processable w.capabilities (recipe.actionQueue.drop task.overallProcessedSteps) := by
    simp only [Work.plan, queueOrder, List.flatMap_append, List.flatMap_cons, List.flatMap_nil,
      List.append_nil, List.append_assoc]
    rfl
  have waiting : w.tasksPlan config =
      processable w.capabilities (recipe.actionQueue.drop task.overallProcessedSteps) ++
        ({ w with tasks := tasks }.queueOrder task recipe).tasksPlan config := by
    rw [tasksPlan, front, List.flatMap_cons, known]
    rfl
  rw [timeToRest, timeToRest, remainingTime, toolAtEnd, plan, waiting, cookingTime_append,
    cookingTime_append, toolAfter_append, remainingTime, toolAtEnd]
  simp only [queueOrder]
  omega

theorem Work.countDown_remaining {left : Nat} (time : w.timeLeft = some left)
    (positive : 1 ≤ left) :
    (w.countDown left).plan = w.plan ∧
      (w.countDown left).remainingTime + 1 = w.remainingTime := by
  have counted : subWord 64 left timeUnitUpdateRate = left - 1 := if_pos positive
  have plan : (w.countDown left).plan = w.plan := by
    simp only [Work.plan, leftInProcess, countDown, time, Option.isSome_some]
  refine ⟨plan, ?_⟩
  rw [remainingTime, remainingTime, plan, time]
  simp only [countDown, counted, Option.getD_some]
  omega

theorem Work.Step.timeToRest_le {state : RobotState} (readable : Readable config w)
    (accounted : w.Accounted) (step : Work.Step config state w w' outputs)
    (settled : state ≠ .reconfiguring)
    (untasked : outputs.filterMap Output.accepted? = []) :
    w'.timeToRest config ≤ w.timeToRest config := by
  cases step with
  | same => exact le_rfl
  | accepted => cases untasked
  | reconfigured reconfiguring => exact absurd reconfiguring settled
  | queued task tasks recipe front known => exact (w.queueOrder_timeToRest front known).le
  | rested => exact Work.timeToRest_le le_rfl rfl rfl rfl
  | started available nextOrder rest front resting =>
      obtain ⟨recipe, known, _⟩ := readable.orders nextOrder (by simp [front])
      have cooking := config.recipeParser.id_ne_zero known
      have time := accounted.resting resting
      have plan : (w.startOrder nextOrder rest).plan = w.plan := by
        simp [Work.plan, leftInProcess, startOrder, resting, cooking, time, front]
      obtain ⟨remaining, tool⟩ := next_remaining (w.startOrder nextOrder rest) cooking time
      refine Work.timeToRest_le ?_ ?_ rfl rfl
      · rw [remaining, remainingTime, remainingTime, plan]
        exact le_rfl
      · rw [tool, toolAtEnd, plan]
        rfl
  | retooled action rest cooking front capable otherTool time =>
      have left := leftInProcess_front cooking front capable
      rw [time, Option.isSome_none, if_neg Bool.false_ne_true] at left
      have plan : w.plan = action :: (processable w.capabilities rest ++
          w.orderQueue.flatMap fun order => processable w.capabilities order.actionQueue) := by
        rw [Work.plan, left, List.cons_append]
      have same : (w.equip action.requiredTool).plan = w.plan := rfl
      obtain ⟨remaining, tool⟩ := next_remaining (w.equip action.requiredTool) cooking time
      refine Work.timeToRest_le ?_ ?_ rfl rfl
      · rw [remaining, remainingTime, remainingTime, same, plan]
        simp only [cookingTime, equip, ne_eq, not_true_eq_false, if_false]
        omega
      · rw [tool, toolAtEnd, toolAtEnd, same, plan]
        rfl
  | ticked action rest cooking front capable equipped left time =>
      obtain ⟨plan, remaining⟩ := countDown_remaining time (accounted.ticking left time)
      refine Work.timeToRest_le (by omega) ?_ rfl rfl
      rw [toolAtEnd, toolAtEnd, plan]
      rfl
  | performed action rest cooking front capable equipped left time elapsed =>
      have positive := accounted.ticking left time
      have queue := leftInProcess_front cooking front capable
      rw [time, Option.isSome_some, if_pos rfl] at queue
      -- the clock stands at 0, `next` sets it anew
      have stopped : ((w.countDown left).countStep rest).next =
          { (w.countDown left).countStep rest with timeLeft := none }.next := rfl
      have plan : { (w.countDown left).countStep rest with timeLeft := none }.plan = w.plan := by
        rw [Work.plan, Work.plan, queue]
        simp [leftInProcess, countStep, countDown, cooking]
      obtain ⟨remaining, tool⟩ :=
        next_remaining { (w.countDown left).countStep rest with timeLeft := none } cooking rfl
      rw [stopped]
      refine Work.timeToRest_le ?_ ?_ rfl rfl
      · rw [remaining, remainingTime, remainingTime, plan]
        simp only [countStep, countDown, Option.getD_none]
        omega
      · rw [tool, toolAtEnd, toolAtEnd, plan]
        rfl
  | handedOver reply cooking time recipeId steps finished stuck =>
      have empty : w.leftInProcess = [] := by
        rw [leftInProcess, if_neg cooking, time]
        cases queue : w.actionQueueInProcess with
        | nil => rfl
        | cons action rest => simp [processable, stuck action rest queue]
      have plan : w.releaseDish.plan = w.plan := by
        rw [Work.plan, Work.plan, empty]
        simp [leftInProcess, releaseDish]
      refine Work.timeToRest_le ?_ ?_ rfl rfl
      · rw [remainingTime, remainingTime, plan]
        exact le_rfl
      · rw [toolAtEnd, toolAtEnd, plan]
        rfl

end Time

section Travel

/-- A rearranging robot is on its way, or something will send it there. -/
def TravelsOn (r : Robot) : Prop :=
  r.robotState = .rearranging →
    r.alreadyRearranging = true ∨ (∃ handler ∈ r.posted, IsSwitch handler) ∨
      r.preparingDish = true

theorem TravelsOn.carry (travels : TravelsOn r)
    (state : after.robotState = .rearranging → r.robotState = .rearranging)
    (flag : r.alreadyRearranging = true → after.alreadyRearranging = true)
    (switches : ∀ handler ∈ r.posted, IsSwitch handler → handler ∈ after.posted)
    (preparing : r.preparingDish = true → after.preparingDish = true) : TravelsOn after := by
  intro rearranging
  rcases travels (state rearranging) with already | ⟨handler, member, switch⟩ | cooking
  · exact .inl (flag already)
  · exact .inr (.inl ⟨handler, switches handler member switch, switch⟩)
  · exact .inr (.inr (preparing cooking))

theorem travelsOn_of_available (available : after.robotState = .available) :
    TravelsOn after := by
  intro rearranging
  rw [available] at rearranging
  contradiction

theorem TravelsOn.post (travels : TravelsOn r) (handler : Handler) :
    TravelsOn (RobotAgent.post r handler) :=
  travels.carry id id (fun _ member _ => List.mem_append_left _ member) id

theorem TravelsOn.take (travels : TravelsOn r) {handler : Handler} {posted : List Handler}
    (next : r.posted = handler :: posted) (other : ¬ IsSwitch handler) :
    TravelsOn (takeHandler r posted) := by
  refine travels.carry id id ?_ id
  intro switch member isSwitch
  rw [next] at member
  rcases List.mem_cons.mp member with rfl | later
  · exact absurd isSwitch other
  · exact later

theorem armTimer_travelsOn (travels : TravelsOn r) (task : TimerTask) (delay : Nat) :
    TravelsOn (armTimer r task delay) := by
  refine travels.carry id id ?_ id
  intro handler member _
  unfold armTimer
  split
  · exact List.mem_append_left _ member
  · exact member

theorem determineNextAction_travelsOn (travels : TravelsOn r) :
    TravelsOn (determineNextAction r) := by
  have outcome := determineNextAction_cases r
  generalize determineNextAction r = after at outcome
  cases outcome with
  | finished | incapable => exact travels.carry id id (fun _ member _ => member) id
  | retool => exact armTimer_travelsOn travels _ _
  | perform =>
      apply armTimer_travelsOn
      exact travels.carry id id (fun _ member _ => member) id

theorem handleSwitchPosition_travelsOn (r : Robot) :
    TravelsOn (handleSwitchPosition config r) := by
  intro _
  unfold handleSwitchPosition
  split
  next already => exact .inl already
  next => exact .inl rfl

theorem handleReconfiguration_travelsOn (travels : TravelsOn r) :
    TravelsOn (handleReconfiguration r) := by
  unfold handleReconfiguration
  split
  · exact travels
  · apply armTimer_travelsOn
    exact travels.carry id id (fun _ member _ => member) id

theorem handles_travelsOn (travels : TravelsOn r) {capability : String} {handler : Handler}
    {posted : List Handler} (next : r.posted = handler :: posted)
    (ran : Handles config (takeHandler r posted) capability handler after outputs) :
    TravelsOn after := by
  cases ran with
  | taskForgotten => exact travels.take next (by simp [IsSwitch])
  | taskQueued =>
      have taken := travels.take next (by simp [IsSwitch])
      exact taken.carry id id (fun _ member _ => member) id
  | entered | moved | aborted =>
      have taken := travels.take next (by simp [IsSwitch])
      exact taken.carry id id (fun _ member _ => member) id
  | ticked =>
      have taken := travels.take next (by simp [IsSwitch])
      apply armTimer_travelsOn
      exact taken.carry id id (fun _ member _ => member) id
  | targeted newPosition preparing => exact fun _ => .inr (.inr preparing)
  | rearranges => exact handleSwitchPosition_travelsOn _
  | postponed => exact travels.take next (by simp [IsSwitch])
  | reconfigures => exact handleReconfiguration_travelsOn (travels.take next (by simp [IsSwitch]))
  | committed => exact travelsOn_of_available rfl
  | retooled | performed =>
      have taken := travels.take next (by simp [IsSwitch])
      apply determineNextAction_travelsOn
      exact taken.carry id id (fun _ member _ => member) id
  | completed ran =>
      have taken := travels.take next (by simp [IsSwitch])
      obtain ⟨_, _, requeued, _, _, _, loop, rfl⟩ := completeReconfiguration_cases ran
      obtain ⟨_, _, _, _, _, rfl, _⟩ := recalculateOrderQueue_refills _ loop
      split
      · exact taken.carry id id (fun _ member _ => member) id
      · exact travelsOn_of_available rfl

theorem step_travelsOn (travels : TravelsOn r) (step : Step config r event after outputs) :
    TravelsOn after := by
  cases step with
  | refused | renotifyFailed => exact travels
  | taskAccepted | commitAccepted => exact travels.post _
  | handedOver =>
      apply TravelsOn.post
      exact travels.carry id id (fun _ member _ => member) id
  | switchAccepted newPosition =>
      intro _
      exact .inr (.inl ⟨.switchPosition newPosition, List.mem_append_right _ (by simp),
        newPosition, rfl⟩)
  | reconfigureAccepted =>
      intro rearranging
      simp [post, startAdaptation] at rearranging
  | handled capability handler posted idle next ran => exact handles_travelsOn travels next ran
  | locked waiting unlocked ran =>
      cases ran with
      | rearranges => exact handleSwitchPosition_travelsOn _
      | reconfigures =>
          apply handleReconfiguration_travelsOn
          exact travels.carry id id (fun _ member _ => member) id
      | rests available => exact travelsOn_of_available available
      | starts available =>
          exact travelsOn_of_available ((determineNextAction_robotState _).trans available)
  | expired =>
      apply TravelsOn.post
      exact travels.carry id id (fun _ member _ => member) id
  | notifyFailed | notified | conveyorLost | conveyorConnected | renotified =>
      exact travels.carry id id (fun _ member _ => member) id

theorem reaches_travelsOn {allowed : Robot → Event → Prop} {history : History Event Output}
    (reached : (machine config).Reaches allowed history r) : TravelsOn r :=
  reached.invariant (fun _ started => travelsOn_of_available (started_available started))
    (fun _ _ _ _ travels _ taken => step_travelsOn travels (step_cases taken).2)

end Travel

section LeftAlone

/-- Nothing new is asked of the robot. Its dish is picked up, its move is
committed once, and the conveyor can be reached and takes the notification. -/
def LeftAlone (r : Robot) : Event → Prop
  | .runHandler _ | .cookNextOrder | .timerExpires => True
  | .notifyConveyor reply | .conveyorConnected reply => reply = some true
  | .handoverFinishedOrder => r.pendingPickup = true
  | .commitNewPosition =>
      r.robotState = .rearranging ∧ r.attributes.newPositionCommitIsPending = true ∧
        .handleNewPositionCommit ∉ r.posted
  | .receiveTask _ _ | .switchPosition _ _ | .reconfigure _ _ | .conveyorLost => False

instance (r : Robot) : (event : Event) → Decidable (LeftAlone r event)
  | .runHandler _ | .cookNextOrder | .timerExpires => isTrue trivial
  | .notifyConveyor reply | .conveyorConnected reply =>
      inferInstanceAs (Decidable (reply = some true))
  | .handoverFinishedOrder => inferInstanceAs (Decidable (r.pendingPickup = true))
  | .commitNewPosition =>
      inferInstanceAs (Decidable (r.robotState = .rearranging ∧
        r.attributes.newPositionCommitIsPending = true ∧ .handleNewPositionCommit ∉ r.posted))
  | .receiveTask _ _ | .switchPosition _ _ | .reconfigure _ _ | .conveyorLost => isFalse id

theorem LeftAlone.commitsOnce (alone : LeftAlone r event) : CommitsOnce r event := by
  rintro rfl
  exact alone.2.2

theorem LeftAlone.accepts_nothing (alone : LeftAlone r event)
    (step : Step config r event after outputs) :
    outputs.filterMap Output.accepted? = [] := by
  cases step with
  | refused refusal =>
      cases refusal with
      | task => exact alone.elim
      | switchPosition | reconfigure => exact alone.elim
      | handover | commit => rfl
  | taskAccepted => exact alone.elim
  | handled capability handler posted idle next ran => cases ran <;> rfl
  | _ => rfl

/-- No reconfiguration is asked for, and the conveyor takes the notifications
that reach it. -/
def Event.isCalm : Event → Bool
  | .reconfigure _ _ | .notifyConveyor (some false) | .conveyorConnected (some false) => false
  | _ => true

theorem LeftAlone.isCalm (alone : LeftAlone r event) : event.isCalm = true := by
  cases event with
  | reconfigure => exact alone.elim
  | notifyConveyor | conveyorConnected =>
      cases alone
      rfl
  | receiveTask | handoverFinishedOrder | switchPosition | commitNewPosition | runHandler
  | cookNextOrder | timerExpires | conveyorLost => rfl

/-- A running robot that nobody reconfigures. -/
structure Steady (config : Config) (r : Robot) : Prop extends Sound config r where
  running : r.running = true
  state : r.robotState ≠ .reconfiguring
  travels : TravelsOn r

theorem Steady.notReconfiguring (steady : Steady config r) : r.alreadyReconfiguring = false :=
  steady.one.not_reconfiguring steady.state

theorem Steady.unlocked (steady : Steady config r) : r.stateMutexHeld = false := by
  cases held : r.stateMutexHeld with
  | false => rfl
  | true =>
      have reconfiguring := (steady.one.held held).2
      rw [steady.notReconfiguring] at reconfiguring
      contradiction

theorem Steady.no_completion (steady : Steady config r) :
    .timerCompleted .completeReconfiguration ∉ r.posted := by
  intro member
  have reconfiguring := steady.one.equipping (.inr member)
  rw [steady.notReconfiguring] at reconfiguring
  contradiction

/-- A steady robot whose load can be published. -/
structure Settled (config : Config) (r : Robot) : Prop extends Steady config r where
  accounted : (work r).Accounted
  fits : (work r).timeToRest config < 2 ^ 32

end LeftAlone

section Units

def Handler.spendsUnit : Handler → Bool
  | .timerCompleted .retool | .timerCompleted .passTime => true
  | _ => false

def spendsUnit (r : Robot) : Event → Bool
  | .runHandler _ => r.posted.head?.any Handler.spendsUnit
  | _ => false

/-- Some units of the load are spent, and the rest of the load stands. -/
structure Spends (units : Nat) (r after : Robot) : Prop where
  overallTime : after.attributes.overallTime + units = r.attributes.overallTime
  lastEquippedTool : after.attributes.lastEquippedTool = r.attributes.lastEquippedTool
  tasks : postedTasks after = postedTasks r
  capabilities : after.capabilities = r.capabilities

theorem Spends.refl (r : Robot) : Spends 0 r r := ⟨rfl, rfl, rfl, rfl⟩

theorem Spends.trans {units : Nat} {middle : Robot} (first : Spends units r middle)
    (second : Spends 0 middle after) : Spends units r after where
  overallTime := by rw [← first.overallTime, ← second.overallTime, Nat.add_zero]
  lastEquippedTool := second.lastEquippedTool.trans first.lastEquippedTool
  tasks := second.tasks.trans first.tasks
  capabilities := second.capabilities.trans first.capabilities

theorem take_spends {handler : Handler} {posted : List Handler}
    (next : r.posted = handler :: posted) (other : handler.task? = none) :
    Spends 0 r (takeHandler r posted) :=
  ⟨rfl, rfl, postedTasks_take next other, rfl⟩

theorem post_spends (r : Robot) {handler : Handler} (other : handler.task? = none) :
    Spends 0 r (post r handler) :=
  ⟨rfl, rfl, postedTasks_post other, rfl⟩

theorem Spends.armTimer {units : Nat} {middle : Robot} (spends : Spends units r middle)
    (task : TimerTask) (delay : Nat) : Spends units r (RobotAgent.armTimer middle task delay) :=
  spends.trans ⟨rfl, rfl, postedTasks_armTimer middle task delay, rfl⟩

theorem determineNextAction_spends (r : Robot) : Spends 0 r (determineNextAction r) := by
  have outcome := determineNextAction_cases r
  generalize determineNextAction r = after at outcome
  cases outcome with
  | finished | incapable => exact ⟨rfl, rfl, rfl, rfl⟩
  | retool => exact (Spends.refl r).armTimer _ _
  | perform =>
      apply Spends.armTimer
      exact ⟨rfl, rfl, rfl, rfl⟩

theorem handleSwitchPosition_spends (r : Robot) :
    Spends 0 r (handleSwitchPosition config r) := by
  unfold handleSwitchPosition
  split
  · exact .refl r
  · apply Spends.armTimer
    exact ⟨rfl, rfl, rfl, rfl⟩

/-- The load as it is published, and what the waiting tasks will add to it. -/
theorem published_timeToRest (accounted : (work r).Accounted)
    (fits : (work r).timeToRest config < 2 ^ 32) :
    (work r).timeToRest config = r.attributes.overallTime +
      cookingTime r.attributes.lastEquippedTool ((work r).tasksPlan config) := by
  have within : (work r).remainingTime < 2 ^ 32 := by
    unfold Work.timeToRest at fits
    omega
  have counted : r.attributes.overallTime = (work r).remainingTime := by
    have counted := accounted.overallTime
    rw [Nat.mod_eq_of_lt within] at counted
    exact counted
  have tool : r.attributes.lastEquippedTool = (work r).toolAtEnd := accounted.lastEquippedTool
  rw [Work.timeToRest, counted, tool]

theorem Spends.timeToRest {units : Nat} (spends : Spends units r after)
    (before : (work r).Accounted) (fits : (work r).timeToRest config < 2 ^ 32)
    (accounted : (work after).Accounted) (fitsAfter : (work after).timeToRest config < 2 ^ 32) :
    (work after).timeToRest config + units = (work r).timeToRest config := by
  have plan : (work after).tasksPlan config = (work r).tasksPlan config := by
    rw [Work.tasksPlan, Work.tasksPlan]
    simp only [work, spends.tasks, spends.capabilities]
  rw [published_timeToRest accounted fitsAfter, published_timeToRest before fits, plan,
    spends.lastEquippedTool, ← spends.overallTime]
  omega

theorem equip_spends (r : Robot) (tool : RobotTool)
    (load : retoolingTime ≤ r.attributes.overallTime) : Spends 1 r (equip r tool) where
  overallTime := by
    have counted : (equip r tool).attributes.overallTime =
        r.attributes.overallTime - retoolingTime := if_pos load
    rw [counted]
    exact Nat.sub_add_cancel load
  lastEquippedTool := rfl
  tasks := rfl
  capabilities := rfl

theorem countDown_spends (r : Robot) (load : timeUnitUpdateRate ≤ r.attributes.overallTime) :
    Spends 1 r (countDown r) where
  overallTime := by
    have counted : (countDown r).attributes.overallTime =
        r.attributes.overallTime - timeUnitUpdateRate := if_pos load
    rw [counted]
    exact Nat.sub_add_cancel load
  lastEquippedTool := rfl
  tasks := rfl
  capabilities := rfl

theorem Settled.published (settled : Settled config r) :
    r.attributes.overallTime = (work r).remainingTime := by
  have within : (work r).remainingTime < 2 ^ 32 := by
    have fits := settled.fits
    unfold Work.timeToRest at fits
    omega
  have counted := settled.accounted.overallTime
  rw [Nat.mod_eq_of_lt within] at counted
  exact counted

theorem Settled.load_of_retool (settled : Settled config r)
    (due : TimerOutstanding r .retool) : retoolingTime ≤ r.attributes.overallTime := by
  rw [settled.published]
  exact settled.toSound.retooling_counts due

theorem Settled.load_of_passTime (settled : Settled config r)
    (due : TimerOutstanding r .passTime) : timeUnitUpdateRate ≤ r.attributes.overallTime := by
  rw [settled.published]
  exact (settled.accounted.tick_counts due).2

theorem handles_spends (settled : Settled config r) {capability : String} {handler : Handler}
    {posted : List Handler} (next : r.posted = handler :: posted) (other : handler.task? = none)
    (ran : Handles config (takeHandler r posted) capability handler after outputs) :
    Spends handler.spendsUnit.toNat r after := by
  have taken := take_spends next other
  cases ran with
  | taskForgotten | taskQueued => simp [Handler.task?] at other
  | entered | targeted | postponed | committed | moved | aborted =>
      exact taken.trans ⟨rfl, rfl, rfl, rfl⟩
  | rearranges newPosition =>
      have aimed : Spends 0 r (target (takeHandler r posted) newPosition) :=
        taken.trans ⟨rfl, rfl, rfl, rfl⟩
      exact aimed.trans (handleSwitchPosition_spends _)
  | reconfigures =>
      have reconfiguring := settled.one.reconfigure (by simp [next])
      exact absurd reconfiguring settled.state
  | retooled action =>
      have load := settled.load_of_retool (.inr (by simp [next]))
      have equipped := equip_spends (takeHandler r posted) action.requiredTool load
      have spent : Spends 1 r (equip (takeHandler r posted) action.requiredTool) :=
        ⟨equipped.overallTime, rfl, taken.tasks, rfl⟩
      exact spent.trans (determineNextAction_spends _)
  | ticked =>
      have load := settled.load_of_passTime (.inr (by simp [next]))
      have counted := countDown_spends (takeHandler r posted) load
      have spent : Spends 1 r (countDown (takeHandler r posted)) :=
        ⟨counted.overallTime, rfl, taken.tasks, rfl⟩
      exact spent.armTimer _ _
  | performed action rest =>
      have load := settled.load_of_passTime (.inr (by simp [next]))
      have counted := countDown_spends (takeHandler r posted) load
      have spent : Spends 1 r (countStep (countDown (takeHandler r posted)) rest) :=
        ⟨counted.overallTime, rfl, taken.tasks, rfl⟩
      exact spent.trans (determineNextAction_spends _)
  | completed => exact absurd (by simp [next]) settled.no_completion

theorem Settled.task_queued (settled : Settled config r) {capability : String} {task : Task}
    {posted : List Handler} (next : r.posted = .handleReceiveTask task :: posted)
    (ran : Handles config (takeHandler r posted) capability (.handleReceiveTask task) after
      outputs) :
    ∃ recipe, config.recipeParser.getRecipe task.recipeId = some recipe ∧
      after = queueOrder (takeHandler r posted) task recipe := by
  cases ran with
  | taskForgotten _ unknown =>
      have front : task ∈ (work r).tasks := by simp [work, postedTasks, next, Handler.task?]
      obtain ⟨recipe, known, _⟩ := settled.readable.tasks task front
      rw [unknown] at known
      contradiction
  | taskQueued _ recipe known => exact ⟨recipe, known, rfl⟩

theorem timeToRest_queued {task : Task} {posted : List Handler} {recipe : Recipe}
    (next : r.posted = .handleReceiveTask task :: posted)
    (known : config.recipeParser.getRecipe task.recipeId = some recipe) :
    (work (queueOrder (takeHandler r posted) task recipe)).timeToRest config =
      (work r).timeToRest config := by
  have front : (work r).tasks = task :: postedTasks (takeHandler r posted) := by
    simp [work, postedTasks, takeHandler, next, Handler.task?]
  have taken : work (takeHandler r posted) =
      { work r with tasks := postedTasks (takeHandler r posted) } :=
    work_eq rfl (timeLeft_congr (timerOutstanding_take next rfl _) rfl) rfl
  rw [work_queueOrder, taken]
  exact (work r).queueOrder_timeToRest front known

theorem step_spends (settled : Settled config r) (alone : LeftAlone r event)
    (step : Step config r event after outputs)
    (noTask : ∀ task posted, r.posted = .handleReceiveTask task :: posted → ∀ capability,
      event ≠ .runHandler capability) :
    Spends (spendsUnit r event).toNat r after := by
  cases step with
  | refused refusal =>
      cases refusal with
      | task | switchPosition | reconfigure => exact alone.elim
      | handover | commit => exact .refl r
  | taskAccepted | switchAccepted | reconfigureAccepted | conveyorLost => exact alone.elim
  | handedOver =>
      have released : Spends 0 r (releaseDish r) := ⟨rfl, rfl, rfl, rfl⟩
      exact released.trans (post_spends (releaseDish r) rfl)
  | commitAccepted => exact post_spends r rfl
  | handled capability handler posted idle next ran =>
      have units : spendsUnit r (.runHandler capability) = handler.spendsUnit := by
        simp [spendsUnit, next]
      have other : handler.task? = none := by
        cases handler with
        | handleReceiveTask task => exact absurd rfl (noTask task posted next capability)
        | _ => rfl
      rw [units]
      exact handles_spends settled next other ran
  | locked waiting unlocked ran =>
      cases ran with
      | rearranges =>
          have passed : Spends 0 r (passLock r) := ⟨rfl, rfl, rfl, rfl⟩
          exact passed.trans (handleSwitchPosition_spends _)
      | reconfigures reconfiguring => exact absurd reconfiguring settled.state
      | rests => exact ⟨rfl, rfl, rfl, rfl⟩
      | starts available nextOrder rest recipe =>
          have started : Spends 0 r (startOrder (passLock r) nextOrder rest recipe) :=
            ⟨rfl, rfl, rfl, rfl⟩
          exact started.trans (determineNextAction_spends _)
  | expired wait =>
      have waited : Spends 0 r { r with steadyTimer := none } := ⟨rfl, rfl, rfl, rfl⟩
      exact waited.trans (post_spends { r with steadyTimer := none } rfl)
  | notifyFailed | notified | conveyorConnected | renotifyFailed | renotified =>
      exact ⟨rfl, rfl, rfl, rfl⟩

/-- What a step spends is gone from the time to rest, and nothing else is. -/
theorem step_timeToRest (settled : Settled config r) (alone : LeftAlone r event)
    (step : Step config r event after outputs) (accounted : (work after).Accounted)
    (fits : (work after).timeToRest config < 2 ^ 32) :
    (work after).timeToRest config + (spendsUnit r event).toNat =
      (work r).timeToRest config := by
  by_cases noTask : ∀ task posted, r.posted = .handleReceiveTask task :: posted →
      ∀ capability, event ≠ .runHandler capability
  · have spends := step_spends settled alone step noTask
    exact spends.timeToRest settled.accounted settled.fits accounted fits
  · push Not at noTask
    obtain ⟨task, posted, next, capability, rfl⟩ := noTask
    cases step with
    | refused refusal => cases refusal
    | handled _ handler others idle same ran =>
        rw [next] at same
        cases same
        obtain ⟨recipe, known, rfl⟩ := settled.task_queued next ran
        have free : spendsUnit r (.runHandler capability) = false := by
          simp [spendsUnit, next, Handler.spendsUnit]
        rw [free, timeToRest_queued next known]
        rfl

end Units

end CpsKitchen.RobotAgent
