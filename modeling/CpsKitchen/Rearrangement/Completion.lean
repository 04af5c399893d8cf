import Mathlib.Algebra.BigOperators.Group.Finset.Piecewise
import Mathlib.Algebra.Order.BigOperators.Group.Finset
import CpsKitchen.Rearrangement.Homecoming

/-!
# The recovery comes to an end

What goes on by itself after the controller was replaced makes a weight
smaller: the workload of the robots, the registrations that are still to come
and what the worker has left to do. So the robots are back after a bounded
number of steps, in whatever order these come.
-/

namespace CpsKitchen.Rearrangement.Recovery

open CpsKitchen.Reactive CpsKitchen.Recipes
open CpsKitchen.RobotAgent (Robot ActionsLast LeftAlone Settled workload work)
open CpsKitchen.ControllerAgent (Controller RemoteRobot Place Output Handler Worker Handles
  setWorker takeHandler updateAt)
open Joining (Kitchen subscribed)

set_option autoImplicit false

variable {config : Config} {goal : String → Position} {k later : Kitchen} {p after : Plant}
  {event : Joining.Event} {outputs : List Output} {endpoint : String}

section Weight

/-- What is left of a robot, and the notice that its subscription starts with. -/
def robotWeight (config : Config) (p : Plant) (endpoint : String) : Nat :=
  2 * workload (config.robotAt endpoint) (p.robots endpoint) +
    (!(p.notices endpoint).isEmpty).toNat

def handlerWeight : Handler → Nat
  | .handleRobotRegistration _ _ _ => 7
  | .handleNextRobotRequest _ => 4
  | .positionSwapped _ _ | .capabilitiesReconfigured _ => 1

def workerWeight : Worker → Nat
  | .initializingRobot _ _ => 5
  | .readingPendingCommit _ => 4
  | .resolvingMissedCommit _ | .initializingReceiver _ => 3
  | .choosing _ => 2
  | .answering _ _ _ => 1
  | _ => 0

def controllerWeight (c : Controller) : Nat :=
  (c.posted.map handlerWeight).sum + workerWeight c.worker

def weight (config : Config) (k : Kitchen) : Nat :=
  config.endpoints.sum (robotWeight config k.plant) +
    8 * (config.endpoints \ k.announced).card + controllerWeight k.plant.controller

/-- The loads of the robots can be published. -/
def Fits (config : Config) (k : Kitchen) : Prop :=
  ∀ endpoint ∈ config.endpoints,
    (work (k.plant.robots endpoint)).timeToRest (config.robotAt endpoint) < 2 ^ 32

theorem robots_lt (member : endpoint ∈ config.endpoints)
    (others : ∀ other ∈ config.endpoints, other ≠ endpoint →
      robotWeight config after other = robotWeight config p other)
    (less : robotWeight config after endpoint < robotWeight config p endpoint) :
    config.endpoints.sum (robotWeight config after) <
      config.endpoints.sum (robotWeight config p) := by
  refine Finset.sum_lt_sum ?_ ⟨endpoint, member, less⟩
  intro other otherMember
  by_cases same : other = endpoint
  · rw [same]
    exact less.le
  · exact (others other otherMember same).le

theorem robots_le_subscribed (config : Config) (p : Plant) (endpoint : String)
    (values : List Position) :
    config.endpoints.sum (robotWeight config
      { p with notices := Function.update p.notices endpoint values }) ≤
        config.endpoints.sum (robotWeight config p) + 1 := by
  have each : ∀ other ∈ config.endpoints,
      robotWeight config { p with notices := Function.update p.notices endpoint values } other ≤
        robotWeight config p other + if other = endpoint then 1 else 0 := by
    intro other _
    by_cases same : other = endpoint
    · rw [if_pos same]
      have bit := Bool.toNat_le (!(Function.update p.notices endpoint values other).isEmpty)
      simp only [robotWeight]
      omega
    · rw [if_neg same]
      simp only [robotWeight, Function.update_of_ne same]
      exact le_rfl
  calc
    _ ≤ config.endpoints.sum fun other =>
        robotWeight config p other + if other = endpoint then 1 else 0 := Finset.sum_le_sum each
    _ ≤ _ := by
      rw [Finset.sum_add_distrib, Finset.sum_ite_eq']
      apply Nat.add_le_add_left
      split
      · exact le_rfl
      · exact Nat.zero_le 1

end Weight

section Steps

theorem Goes.leftAlone {robotConfig : RobotAgent.Config} {goal : Position} {r robot : Robot}
    {event : RobotAgent.Event} {sent : List RobotAgent.Output} (last : ActionsLast robotConfig)
    (goes : Goes robotConfig goal r) (fits : (work r).timeToRest robotConfig < 2 ^ 32)
    (alone : LeftAlone r event)
    (taken : RobotAgent.step robotConfig r event = some (robot, sent)) :
    (work robot).timeToRest robotConfig < 2 ^ 32 ∧
      workload robotConfig robot < workload robotConfig r := by
  obtain ⟨history, reached⟩ := goes.reached
  have settled : Settled robotConfig r :=
    { goes.steady with
      accounted := RobotAgent.reaches_accounted last reached
      fits := fits }
  have settledAfter := RobotAgent.step_settled last settled alone taken
  exact ⟨settledAfter.fits, (RobotAgent.step_workload settled settledAfter alone taken).2⟩

theorem Proceeds.unadapting (proceeds : Proceeds k event) : Unadapting config k event := by
  cases event with
  | plant event =>
      cases event with
      | robot endpoint event => exact LeftAlone.isCalm proceeds
      | controller event =>
          cases event with
          | runHandler | receiverInitialized | nextRobotChosen | nextRobotReceived => trivial
          | _ => exact proceeds.elim
      | notifyPosition | call => trivial
  | registerRobot | robotInitialized | resolveMissedCommit => exact proceeds

section One

variable {event : RobotAgent.Event} {robot : Robot} {sent : List RobotAgent.Output}

theorem one_less (last : ActionsLast config.robot) (recovers : Recovers config goal k)
    (fits : Fits config k) (member : endpoint ∈ config.endpoints)
    (alone : LeftAlone (k.plant.robots endpoint) event)
    (ran : RobotAgent.step (config.robotAt endpoint) (k.plant.robots endpoint) event =
      some (robot, sent)) {notices : String → List Position}
    (others : ∀ other, other ≠ endpoint → notices other = k.plant.notices other) :
    config.endpoints.sum (robotWeight config { k.plant with
      robots := Function.update k.plant.robots endpoint robot, notices := notices }) <
        config.endpoints.sum (robotWeight config k.plant) := by
  have lasts : ActionsLast (config.robotAt endpoint) := last
  have less := ((recovers.goes endpoint member).leftAlone lasts (fits endpoint member) alone ran).2
  apply robots_lt member
  · intro other _ elsewhere
    simp only [robotWeight, Function.update_of_ne elsewhere, others other elsewhere]
  · have bit := Bool.toNat_le (!(notices endpoint).isEmpty)
    simp only [robotWeight, Function.update_self]
    omega

theorem one_fits (last : ActionsLast config.robot) (recovers : Recovers config goal k)
    (fits : Fits config k) (member : endpoint ∈ config.endpoints)
    (alone : LeftAlone (k.plant.robots endpoint) event)
    (ran : RobotAgent.step (config.robotAt endpoint) (k.plant.robots endpoint) event =
      some (robot, sent)) (same : after.robots = Function.update k.plant.robots endpoint robot) :
    Fits config { k with plant := after } := by
  have lasts : ActionsLast (config.robotAt endpoint) := last
  intro other otherMember
  simp only [same]
  by_cases here : other = endpoint
  · rw [here, Function.update_self]
    exact ((recovers.goes endpoint member).leftAlone lasts (fits endpoint member) alone ran).1
  · rw [Function.update_of_ne here]
    exact fits other otherMember

theorem robot_winds (last : ActionsLast config.robot) (recovers : Recovers config goal k)
    (fits : Fits config k) (member : endpoint ∈ config.endpoints)
    (alone : LeftAlone (k.plant.robots endpoint) event)
    (acts : robotActs config k.plant endpoint event = some after) :
    Fits config { k with plant := after } ∧
      weight config { k with plant := after } < weight config k := by
  unfold robotActs at acts
  split at acts
  · contradiction
  next robot sent ran =>
    cases acts
    refine ⟨one_fits last recovers fits member alone ran rfl, ?_⟩
    apply Nat.add_lt_add_right
    apply Nat.add_lt_add_right
    apply one_less last recovers fits member alone ran
    intro other elsewhere
    split
    · exact Function.update_of_ne elsewhere _ _
    · rfl

end One

theorem controller_winds {c : Controller} {notices : String → List Position}
    (sums : config.endpoints.sum (robotWeight config { k.plant with notices := notices }) +
      controllerWeight c <
        config.endpoints.sum (robotWeight config k.plant) + controllerWeight k.plant.controller) :
    weight config { k with plant := { k.plant with controller := c, notices := notices } } <
      weight config k := by
  change config.endpoints.sum (robotWeight config { k.plant with notices := notices }) +
    8 * (config.endpoints \ k.announced).card + controllerWeight c < weight config k
  unfold weight
  omega

theorem controller_less {c : Controller}
    (less : controllerWeight c < controllerWeight k.plant.controller) :
    weight config { k with plant := { k.plant with controller := c } } < weight config k :=
  controller_winds (Nat.add_lt_add_left less _)

theorem subscribed_of {c : Controller}
    (worker : ∀ robot position, c.worker ≠ .initializingRobot robot position) (event : Event) :
    subscribed { p with controller := c } event = { p with controller := c } := by
  unfold subscribed
  cases event with
  | controller event =>
      cases event with
      | runHandler =>
          cases busy : c.worker with
          | initializingRobot robot position => exact absurd busy (worker robot position)
          | _ => rfl
      | _ => rfl
  | _ => rfl

theorem handler_winds (recovers : Recovers config goal k)
    (idle : k.plant.controller.worker = .betweenHandlers) {handler : Handler}
    {posted : List Handler} (next : k.plant.controller.posted = handler :: posted)
    {c : Controller}
    (ran : Handles (takeHandler k.plant.controller posted) handler c) :
    weight config ⟨subscribed { k.plant with controller := c } (.controller .runHandler),
      k.announced⟩ < weight config k := by
  have before : controllerWeight k.plant.controller =
      handlerWeight handler + (posted.map handlerWeight).sum := by
    rw [controllerWeight, idle, next, List.map_cons, List.sum_cons]
    rfl
  have turns : ∀ {c : Controller} (worker : Worker), c.posted = posted → c.worker = worker →
      (∀ robot position, worker ≠ .initializingRobot robot position) →
      workerWeight worker < handlerWeight handler →
      weight config ⟨subscribed { k.plant with controller := c } (.controller .runHandler),
        k.announced⟩ < weight config k := by
    rintro c worker same rfl elsewhere less
    rw [subscribed_of elsewhere]
    apply controller_less
    rw [before, controllerWeight, same]
    omega
  have due := recovers.posted handler (by rw [next]; exact List.mem_cons_self)
  cases ran with
  | registrationRefused =>
      exact turns .betweenHandlers rfl idle (by simp) (by simp [workerWeight, handlerWeight])
  | registrationStarts endpoint position capabilities =>
      have sums := robots_le_subscribed config k.plant endpoint
        [(k.plant.robots endpoint).attributes.position]
      have after : controllerWeight (setWorker
          (ControllerAgent.cleanUp (takeHandler k.plant.controller posted))
          (.initializingRobot (ControllerAgent.newRemoteRobot endpoint position capabilities)
            position)) = (posted.map handlerWeight).sum + 5 := rfl
      have handled : handlerWeight (.handleRobotRegistration endpoint position capabilities) = 7 :=
        rfl
      apply controller_winds
      rw [before, after, handled]
      refine lt_of_le_of_lt (Nat.add_le_add_right sums _) ?_
      omega
  | receiverUnknown request =>
      exact turns (.initializingReceiver request) rfl rfl (by simp)
        (by simp [workerWeight, handlerWeight])
  | chooses request =>
      exact turns (.choosing request) rfl rfl (by simp) (by simp [workerWeight, handlerWeight])
  | reconfigured =>
      exact turns .betweenHandlers rfl idle (by simp) (by simp [workerWeight, handlerWeight])
  | swapUnknown | acknowledged | completes => exact due.elim

theorem internal_winds (recovers : Recovers config goal k) {event : ControllerAgent.Event}
    (proceeds : Proceeds k (.plant (.controller event)))
    (acts : controllerActs config k.plant event = some (after, outputs)) :
    weight config ⟨subscribed after (.controller event), k.announced⟩ < weight config k := by
  unfold controllerActs at acts
  split at acts
  · contradiction
  next later told ran =>
    cases acts
    cases event with
    | runHandler =>
        simp only [ControllerAgent.step] at ran
        split at ran
        next handler posted _ idle next =>
          obtain ⟨controller, handled, same⟩ := Option.map_eq_some_iff.mp ran
          cases same
          exact handler_winds recovers idle next (ControllerAgent.handle_cases handled)
        · contradiction
    | receiverInitialized | nextRobotChosen | nextRobotReceived =>
        obtain ⟨_, receivers, worker, serves, rfl⟩ := recovers.serves_cases rfl ran
        apply controller_less
        apply Nat.add_lt_add_left
        change workerWeight worker < _
        generalize k.plant.controller.worker = before at serves ⊢
        cases serves <;> simp [workerWeight]
    | _ => exact proceeds.elim

theorem internal_fits (fits : Fits config k) {event : ControllerAgent.Event}
    (acts : controllerActs config k.plant event = some (after, outputs)) :
    Fits config ⟨subscribed after (.controller event), k.announced⟩ := by
  unfold controllerActs at acts
  split at acts
  · contradiction
  next later told ran =>
    cases acts
    have same : (subscribed { k.plant with controller := later } (.controller event)).robots =
        k.plant.robots := by
      unfold subscribed
      split
      · split <;> rfl
      · rfl
    intro endpoint member
    simp only [same]
    exact fits endpoint member

theorem workerWeight_updateAt (c : Controller) (change : RemoteRobot → RemoteRobot)
    (place : Place) : workerWeight (updateAt c change place).worker = workerWeight c.worker := by
  cases place with
  | registered position => rfl
  | held =>
      unfold updateAt
      cases busy : c.worker with
      | initializingRobot | committingFirst => rfl
      | _ => simp only [busy]

theorem notify_winds (recovers : Recovers config goal k) {place : Place}
    (acts : notify config k.plant endpoint place = some (after, outputs)) :
    weight config { k with plant := after } < weight config k := by
  obtain ⟨robot, found, rfl, travels, _, rfl⟩ := recovers.notify_cases acts
  have member := recovers.served (recovers.known place robot found).served
  have same : controllerWeight (updateAt k.plant.controller (noticed robot.position) place) =
      controllerWeight k.plant.controller := by
    rw [controllerWeight, ControllerAgent.posted_updateAt, workerWeight_updateAt, controllerWeight]
  apply controller_winds
  rw [same]
  apply Nat.add_lt_add_right
  apply robots_lt member
  · intro other _ elsewhere
    simp only [robotWeight, Function.update_of_ne elsewhere]
  · simp [robotWeight, travels]

theorem register_winds (recovers : Recovers config goal k) (member : endpoint ∈ config.endpoints)
    (new : endpoint ∉ k.announced) {position : Position} {capabilities : Finset String}
    (acts : controllerActs config k.plant (.registerRobot endpoint position capabilities) =
      some (after, outputs)) :
    weight config ⟨after, insert endpoint k.announced⟩ < weight config k := by
  unfold controllerActs at acts
  simp only [ControllerAgent.step, recovers.running, if_true] at acts
  cases acts
  have left : (config.endpoints \ insert endpoint k.announced).card + 1 =
      (config.endpoints \ k.announced).card := by
    rw [Finset.sdiff_insert]
    exact Finset.card_erase_add_one (Finset.mem_sdiff.mpr ⟨member, new⟩)
  have posted : controllerWeight (ControllerAgent.post k.plant.controller
      (.handleRobotRegistration endpoint position capabilities)) =
        controllerWeight k.plant.controller + 7 := by
    simp only [controllerWeight, ControllerAgent.post, List.map_append, List.sum_append,
      List.map_singleton, List.sum_singleton, handlerWeight]
    omega
  change config.endpoints.sum (robotWeight config k.plant) +
    8 * (config.endpoints \ insert endpoint k.announced).card + controllerWeight _ <
      weight config k
  rw [posted, weight]
  omega

theorem enter_winds
    (acts : controllerActs config k.plant (.robotInitialized true) = some (after, outputs)) :
    weight config { k with plant := after } < weight config k := by
  obtain ⟨robot, position, initializing, _, rfl⟩ := Joining.initialized_cases acts
  apply controller_less
  have entered : (Joining.robotEntered k.plant.controller robot position).posted =
      k.plant.controller.posted := rfl
  rw [controllerWeight, controllerWeight, (Joining.resolveMissed_frame _ _).1, entered,
    initializing]
  apply Nat.add_lt_add_left
  rcases Joining.resolveMissed_cases (Joining.robotEntered k.plant.controller robot position)
    position with same | same
  · rw [same]
    exact Nat.zero_lt_succ 4
  · rw [same]
    exact Nat.lt_succ_self 4

theorem resolve_winds (last : ActionsLast config.robot) (recovers : Recovers config goal k)
    (fits : Fits config k)
    (acts : Joining.resolveMissedCommit config k.plant = some (after, outputs)) :
    Fits config { k with plant := after } ∧
      weight config { k with plant := after } < weight config k := by
  obtain ⟨position, remote, found, attends, resolves⟩ := recovers.resolve_cases acts
  cases resolves with
  | missed reading =>
      refine ⟨fits, controller_less (Nat.add_lt_add_left ?_ _)⟩
      simp [reading, setWorker, workerWeight]
  | notMissed reading =>
      refine ⟨fits, controller_less (Nat.add_lt_add_left ?_ _)⟩
      simp [reading, setWorker, workerWeight]
  | committed robot resolving arrived ran =>
      have member := recovers.served (recovers.known (.registered position) remote found).served
      have alone : LeftAlone (k.plant.robots remote.endpoint) .commitNewPosition := arrived
      have less := one_less last recovers fits member alone ran fun _ _ => rfl
      refine ⟨one_fits last recovers fits member alone ran rfl, ?_⟩
      have idle : controllerWeight (setWorker k.plant.controller .betweenHandlers) ≤
          controllerWeight k.plant.controller := Nat.add_le_add_left (Nat.zero_le _) _
      exact Nat.add_lt_add_of_lt_of_le (Nat.add_lt_add_right less _) idle

theorem recovery_descends (last : ActionsLast config.robot) (goal : String → Position)
    (p : Plant) :
    (machine config p).Descends Proceeds (fun k => Recovers config goal k ∧ Fits config k)
      (weight config) := by
  rintro k event later outputs ⟨recovers, fits⟩ proceeds taken
  have taken : step config k event = some (later, outputs) := taken
  have next := (step_recovers recovers proceeds.unadapting taken).2
  suffices winds : Fits config later ∧ weight config later < weight config k from
    ⟨⟨next, winds.1⟩, winds.2⟩
  cases event with
  | plant event =>
      obtain ⟨⟨after, told⟩, acted, same⟩ := Option.map_eq_some_iff.mp taken
      cases same
      cases event with
      | robot endpoint event =>
          simp only [Rearrangement.step] at acted
          split at acted
          next own =>
            obtain ⟨_, acts, same⟩ := Option.map_eq_some_iff.mp acted
            cases same
            exact robot_winds last recovers fits own.1 proceeds acts
          · contradiction
      | controller event =>
          simp only [Rearrangement.step] at acted
          split at acted
          next internal =>
            exact ⟨internal_fits fits acted, internal_winds recovers proceeds acted⟩
          · contradiction
      | notifyPosition endpoint place =>
          have winds := notify_winds recovers acted
          obtain ⟨robot, _, rfl, _, _, rfl⟩ := recovers.notify_cases acted
          exact ⟨fits, winds⟩
      | call =>
          have nothing := recovers.no_call
          simp only [Rearrangement.step] at acted
          rw [nothing] at acted
          contradiction
  | registerRobot endpoint =>
      simp only [step, Joining.step] at taken
      split at taken
      · split at taken
        next new =>
          obtain ⟨⟨after, told⟩, acts, same⟩ := Option.map_eq_some_iff.mp taken
          cases same
          have winds := register_winds recovers new.1 new.2 acts
          refine ⟨?_, winds⟩
          unfold controllerActs at acts
          split at acts
          · contradiction
          · cases acts
            exact fits
        · contradiction
      · contradiction
  | robotInitialized =>
      obtain ⟨⟨after, told⟩, acts, same⟩ := Option.map_eq_some_iff.mp taken
      cases same
      have winds : weight config { k with plant := after } < weight config k := enter_winds acts
      obtain ⟨_, _, _, _, rfl⟩ := Joining.initialized_cases acts
      exact ⟨fits, winds⟩
  | resolveMissedCommit =>
      obtain ⟨⟨after, told⟩, acts, same⟩ := Option.map_eq_some_iff.mp taken
      cases same
      exact resolve_winds last recovers fits acts

end Steps

section Ending

/-- The recovery of a controller that was replaced while robots were on their
way ends, from any moment on at which nothing new is asked for, after a number
of steps that is bounded by what is left to do. Then all robots rest in the map
where they were bound for, unless the old controller was between the two calls
of a swap. -/
theorem recovery_ends (config : Config) (history : History Event Output) (p : Plant)
    (reached : (Rearrangement.machine config).Reaches (TargetsOnBelt config) history p)
    (undamaged : Undamaged config p) (earlier : History Joining.Event Output) (k : Kitchen)
    (followed : (machine config p).Reaches (Unadapting config) earlier k)
    (last : ActionsLast config.robot) (fits : Fits config k) :
    (∃ later final, ((machine config p).resume k).Reaches Proceeds later final ∧
      Stands config final) ∧
    ∀ later final, ((machine config p).resume k).Reaches Proceeds later final →
      later.length ≤ weight config k ∧
      (Stands config final →
        ((∀ endpoint ∈ config.endpoints, HasReturned p final endpoint) ↔
          isBetweenCalls p.controller.worker = false)) := by
  have recovers := (reaches_recovers (restarted_recovers reached undamaged) followed).2
  have descends := recovery_descends last (fun endpoint => destination (p.robots endpoint)) p
  refine ⟨descends.exists_stuck ⟨recovers, fits⟩, ?_⟩
  intro later final followed
  obtain ⟨⟨recovered, _⟩, bound⟩ := descends.good_and_length ⟨recovers, fits⟩ followed
  refine ⟨by omega, ?_⟩
  exact fun stands => stands_returned reached recovered stands

theorem interrupted_swap_ends :
    ∃ p, Undamaged twoRobots p ∧ (p.robots "mixing").robotState = .rearranging ∧
      (p.robots "boiling").robotState = .rearranging ∧
      (∃ later final,
        ((machine twoRobots p).resume (restarted p)).Reaches Proceeds later final ∧
          Stands twoRobots final) ∧
      ∀ later final,
        ((machine twoRobots p).resume (restarted p)).Reaches Proceeds later final →
        later.length ≤ weight twoRobots (restarted p) ∧
        (Stands twoRobots final →
          ((∀ endpoint ∈ twoRobots.endpoints, HasReturned p final endpoint) ↔
            isBetweenCalls p.controller.worker = false)) := by
  obtain ⟨history, p, reached, undamaged, _, robots, _⟩ := swap_is_interrupted
  have last : ActionsLast twoRobots.robot := RobotAgent.deployment_actionsLast
  have ends := recovery_ends twoRobots history p reached undamaged [] (restarted p) (.start rfl)
    last fun endpoint member => (robots endpoint member).2.2
  exact ⟨p, undamaged, (robots "mixing" (by decide)).1, (robots "boiling" (by decide)).1, ends⟩

end Ending

end CpsKitchen.Rearrangement.Recovery
