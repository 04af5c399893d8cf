import CpsKitchen.Rearrangement.Swapping

/-!
# Robots on the move

A robot's own step takes it to a stage that the controller cannot tell from
the one before. The controller learns of the new position from the notice, and
posts the acknowledgement of the robot.
-/

namespace CpsKitchen.Rearrangement

open CpsKitchen.Reactive CpsKitchen.Recipes
open CpsKitchen.RobotAgent (Robot InPhase OneDriver Travels writesPosition)
open CpsKitchen.ControllerAgent

set_option autoImplicit false

variable {config : Config} {p after : Plant} {stage : String → Stage} {endpoint : String}

section Robots

/-- The controller does not see the stages differ. -/
structure Alike (before later : Stage) : Prop where
  place : later.place = before.place
  leaving : later.leaving = before.leaving
  waiting : later.waiting = before.waiting
  ack : later.ack = before.ack
  returning : later.returning = before.returning
  outside : later.outside = before.outside

theorem alike_refl (before : Stage) : Alike before before := ⟨rfl, rfl, rfl, rfl, rfl, rfl⟩

theorem Stage.asked_of_heading {stage : Stage} {newPosition : Position}
    (heading : stage.phase = .heading newPosition) :
    ∃ fromPosition, stage = .asked fromPosition newPosition := by
  cases stage with
  | asked fromPosition toPosition =>
      cases heading
      exact ⟨fromPosition, rfl⟩
  | free | moved | noticed | acknowledged | held | rekeyed | committed => contradiction

theorem Stage.committed_of_committing {stage : Stage} (committing : stage.phase = .committing) :
    ∃ fromPosition toPosition, stage = .committed fromPosition toPosition := by
  cases stage with
  | committed fromPosition toPosition => exact ⟨fromPosition, toPosition, rfl⟩
  | free | asked | moved | noticed | acknowledged | held | rekeyed => contradiction

theorem Stage.free_of_settled {stage : Stage} (settled : stage.phase = .settled) :
    ∃ position, stage = .free position := by
  cases stage with
  | free position => exact ⟨position, rfl⟩
  | asked | moved | noticed | acknowledged | held | rekeyed | committed => contradiction

/-- A robot's own step takes it on in its switch. -/
theorem Follows.goes_on {r robot : Robot} {notices : List Position} {remote : RemoteRobot}
    {lastSwitch : Option (Position × Position)} {before : Stage}
    {event : RobotAgent.Event} {next : RobotAgent.Phase}
    (follows : Follows r notices remote lastSwitch before)
    (travels : Travels r event robot before.phase next) (inPhase : InPhase robot next) :
    ∃ later, Alike before later ∧ (∀ position, before = .free position → later = before) ∧
      Follows robot
        (if writesPosition r event then notices ++ [robot.attributes.position] else notices)
        remote lastSwitch later := by
  generalize same : before.phase = phase at travels
  cases travels with
  | stays _ position available silent =>
      refine ⟨before, alike_refl before, fun _ _ => rfl, ?_⟩
      rw [silent]
      exact
        { position := position.trans follows.position
          phase := by
            rw [same]
            exact inPhase
          remotePosition := follows.remotePosition
          running := follows.running
          notices := follows.notices
          subscribed := follows.subscribed
          last := follows.last
          reset := follows.reset
          done := by
            intro place free switch last
            obtain ⟨there, wasAvailable, flag⟩ := follows.done place free switch last
            exact ⟨there, available wasAvailable, flag⟩ }
  | moves newPosition position published writes =>
      obtain ⟨fromPosition, rfl⟩ := Stage.asked_of_heading same
      refine ⟨.moved fromPosition newPosition, ⟨rfl, rfl, rfl, rfl, rfl, rfl⟩, by simp, ?_⟩
      rw [writes, published]
      exact
        { position := position
          phase := inPhase
          remotePosition := follows.remotePosition
          running := follows.running
          notices := by
            rw [follows.notices]
            simp [Stage.notices]
          subscribed := follows.subscribed
          last := follows.last
          reset := follows.reset
          done := by simp }
  | settles position available silent =>
      obtain ⟨fromPosition, toPosition, rfl⟩ := Stage.committed_of_committing same
      refine ⟨.free toPosition, ⟨rfl, rfl, rfl, rfl, rfl, rfl⟩, by simp, ?_⟩
      rw [silent]
      exact
        { position := position.trans follows.position
          phase := inPhase
          remotePosition := follows.remotePosition
          running := follows.running
          notices := follows.notices
          subscribed := by simp [Stage.isNoticed]
          last := by simp [Stage.switch]
          reset := by simp [Stage.isReset]
          done := by
            rintro _ ⟨⟩ switch last
            have known := follows.last (fromPosition, toPosition) rfl
            cases last.symm.trans known
            exact ⟨rfl, available, follows.reset rfl⟩ }

theorem Coherent.replace (coherent : Coherent config p stage) {next : Stage}
    (agrees : Agrees config after.controller (Function.update stage endpoint next))
    (unfinished : Unfinished after.controller) (one : OneDriver (after.robots endpoint))
    (follows : ∀ remote, robotAt after.controller next.place = some remote →
      Follows (after.robots endpoint) (after.notices endpoint) remote
        (after.lastSwitch endpoint) next)
    (others : ∀ other, other ≠ endpoint → after.robots other = p.robots other ∧
      after.notices other = p.notices other ∧ after.lastSwitch other = p.lastSwitch other)
    (views : ∀ other ∈ config.endpoints, other ≠ endpoint →
      robotAt after.controller (stage other).place = robotAt p.controller (stage other).place)
    (ready : ∀ position ∈ readied after.controller.worker, ∀ other ∈ config.endpoints,
      (Function.update stage endpoint next other).place = .registered position →
        Function.update stage endpoint next other = .free position ∧
          (after.robots other).robotState = .available) :
    Coherent config after (Function.update stage endpoint next) where
  agrees := agrees
  unfinished := unfinished
  oneDriver := by
    intro other inside
    by_cases here : other = endpoint
    · rw [here]
      exact one
    · rw [(others other here).1]
      exact coherent.oneDriver other inside
  follows := by
    intro other inside remote found
    by_cases here : other = endpoint
    · subst here
      rw [Function.update_self] at found ⊢
      exact follows remote found
    · rw [Function.update_of_ne here] at found ⊢
      obtain ⟨robot, notices, last⟩ := others other here
      rw [views other inside here] at found
      rw [robot, notices, last]
      exact coherent.follows other inside remote found
  ready := ready

theorem robot_coherent (coherent : Coherent config p stage) (member : endpoint ∈ config.endpoints)
    {event : RobotAgent.Event} (own : event.isAdaptation = false)
    (acts : robotActs config p endpoint event = some after) :
    ∃ later, Coherent config after later := by
  unfold robotActs at acts
  split at acts
  · contradiction
  next robot outputs taken =>
    cases acts
    have step := (RobotAgent.step_cases taken).2
    have one := coherent.oneDriver endpoint member
    obtain ⟨remote, found, _⟩ := coherent.agrees.keeps member
    have follows := coherent.follows endpoint member remote found
    obtain ⟨phase, inPhase, travels⟩ := RobotAgent.step_travels one follows.phase own step
    obtain ⟨next, alike, stays, followed⟩ := follows.goes_on travels inPhase
    have once : RobotAgent.CommitsOnce (p.robots endpoint) event := by
      rintro rfl
      contradiction
    have notices : (if writesPosition (p.robots endpoint) event then
          Function.update p.notices endpoint
            (p.notices endpoint ++ [robot.attributes.position])
        else p.notices) endpoint =
        if writesPosition (p.robots endpoint) event then
          p.notices endpoint ++ [robot.attributes.position]
        else p.notices endpoint := by
      split
      · exact Function.update_self _ _ _
      · rfl
    refine ⟨Function.update stage endpoint next, coherent.replace ?_ coherent.unfinished ?_ ?_ ?_
      (fun _ _ _ => rfl) ?_⟩
    · exact coherent.agrees.restage_one alike.place alike.leaving alike.waiting alike.ack
        alike.returning alike.outside
    · simp only [Function.update_self]
      exact RobotAgent.step_oneDriver one once step
    · intro view there
      rw [alike.place] at there
      cases there.symm.trans found
      simp only [Function.update_self, notices]
      exact followed
    · intro other different
      refine ⟨Function.update_of_ne different _ _, ?_, rfl⟩
      simp only
      split
      · exact Function.update_of_ne different _ _
      · rfl
    · intro position readied other inside place
      rw [view_update stage endpoint next Stage.place alike.place] at place
      obtain ⟨free, available⟩ := coherent.ready position readied other inside place
      by_cases here : other = endpoint
      · subst here
        simp only [Function.update_self]
        exact ⟨(stays position free).trans free,
          RobotAgent.step_available one available own step⟩
      · simp only [Function.update_of_ne here]
        exact ⟨free, available⟩

end Robots

section Notices

def noticed (position : Position) (robot : RemoteRobot) : RemoteRobot :=
  { robot with position := position, initialPositionSubscription := false }

theorem positionChanged_eq {c : Controller} {place : Place} {remote : RemoteRobot}
    (found : robotAt c place = some remote) (position : Position) :
    positionChanged c place position = some
      (if remote.initialPositionSubscription then updateAt c (noticed position) place
        else post (updateAt c (noticed position) place)
          (.positionSwapped remote.position position)) := by
  simp only [positionChanged, found]
  split <;> rfl

theorem robotAt_post (c : Controller) (handler : Handler) (place : Place) :
    robotAt (post c handler) place = robotAt c place := by
  cases place with
  | registered position => rfl
  | held => rfl

theorem readied_updateAt (c : Controller) (change : RemoteRobot → RemoteRobot) (place : Place) :
    readied (updateAt c change place).worker = readied c.worker := by
  cases place with
  | registered position => rfl
  | held =>
      unfold updateAt
      cases busy : c.worker with
      | initializingRobot | committingFirst => rfl
      | _ => simp [busy]

theorem Unfinished.updated {c : Controller} (unfinished : Unfinished c)
    (change : RemoteRobot → RemoteRobot) (place : Place) :
    Unfinished (updateAt c change place) := by
  intro entry member both
  rw [pendingSwaps_updateAt] at member
  exact (completing_updateAt change place entry.1).mpr (unfinished entry member both)

theorem Stage.moved_of_notices {stage : Stage} {position : Position} {notices : List Position}
    (travels : position :: notices = stage.notices) :
    ∃ fromPosition, stage = .moved fromPosition position ∧ notices = [] := by
  cases stage with
  | moved fromPosition toPosition =>
      cases travels
      exact ⟨fromPosition, rfl, rfl⟩
  | free | asked | noticed | acknowledged | held | rekeyed | committed => contradiction

theorem Follows.subscribes {r : Robot} {position : Position} {notices : List Position}
    {remote : RemoteRobot} {lastSwitch : Option (Position × Position)} {before : Stage}
    (follows : Follows r (position :: notices) remote lastSwitch before)
    (initial : remote.initialPositionSubscription = true) :
    Follows r notices (noticed position remote) lastSwitch before := by
  have travelling := follows.notices
  rw [initialNotice, if_pos initial, List.singleton_append, List.cons.injEq] at travelling
  exact
    { position := follows.position
      phase := follows.phase
      remotePosition := travelling.1.trans follows.remotePosition
      running := follows.running
      notices := travelling.2
      subscribed := fun _ => rfl
      last := follows.last
      reset := follows.reset
      done := follows.done }

theorem Follows.receives {r : Robot} {position : Position} {notices : List Position}
    {remote : RemoteRobot} {lastSwitch : Option (Position × Position)} {before : Stage}
    (follows : Follows r (position :: notices) remote lastSwitch before)
    (subscribed : remote.initialPositionSubscription = false) :
    before = .moved remote.position position ∧
      Follows r notices (noticed position remote) lastSwitch
        (.noticed remote.position position) := by
  have travelling := follows.notices
  rw [initialNotice, if_neg (by simp [subscribed]), List.nil_append] at travelling
  obtain ⟨fromPosition, rfl, rfl⟩ := Stage.moved_of_notices travelling
  have left : remote.position = fromPosition := follows.remotePosition
  rw [left]
  exact
    ⟨rfl,
      { position := follows.position
        phase := follows.phase
        remotePosition := rfl
        running := follows.running
        notices := rfl
        subscribed := fun _ => rfl
        last := follows.last
        reset := by simp [Stage.isReset]
        done := by simp }⟩

theorem notify_coherent {place : Place} {outputs : List Output}
    (coherent : Coherent config p stage)
    (acts : notify config p endpoint place = some (after, outputs)) :
    outputs = [] ∧ ∃ later, Coherent config after later := by
  unfold notify at acts
  split at acts
  next position notices served travelling here =>
    split at acts
    next same =>
      subst same
      obtain ⟨member, there⟩ := (coherent.agrees.served place served).mp here
      obtain ⟨remote, found, isHere⟩ := Option.map_eq_some_iff.mp here
      have follows := coherent.follows served member remote (by rw [there]; exact found)
      rw [travelling] at follows
      have taken : ∃ controller, positionChanged p.controller place position = some controller ∧
          after = { p with
            notices := Function.update p.notices served notices
            controller := controller } ∧ outputs = [] := by
        unfold controllerActs at acts
        split at acts
        · contradiction
        next controller told ran =>
          cases acts
          obtain ⟨_, changed, same⟩ := Option.map_eq_some_iff.mp ran
          cases same
          exact ⟨controller, changed, rfl, rfl⟩
      obtain ⟨controller, changed, rfl, rfl⟩ := taken
      refine ⟨rfl, ?_⟩
      have updated := coherent.agrees.updated (noticed position) (fun _ => rfl) place
      have unfinished := coherent.unfinished.updated (noticed position) place
      have view : ∀ other, robotAt (updateAt p.controller (noticed position) place) other =
          if other = place then some (noticed position remote) else robotAt p.controller other := by
        intro other
        rw [robotAt_updateAt, found]
        rfl
      have elsewhere : ∀ other ∈ config.endpoints, other ≠ served →
          robotAt (updateAt p.controller (noticed position) place) (stage other).place =
            robotAt p.controller (stage other).place := by
        intro other inside different
        rw [view, if_neg]
        intro samePlace
        exact different (coherent.agrees.unique inside member (samePlace.trans there.symm))
      have others : ∀ other, other ≠ served → p.robots other = p.robots other ∧
          Function.update p.notices served notices other = p.notices other ∧
            p.lastSwitch other = p.lastSwitch other :=
        fun other different => ⟨rfl, Function.update_of_ne different _ _, rfl⟩
      rw [positionChanged_eq found] at changed
      cases changed
      split
      next initial =>
        refine ⟨Function.update stage served (stage served), coherent.replace ?_ unfinished
          (coherent.oneDriver served member) ?_ others elsewhere ?_⟩
        · rw [Function.update_eq_self]
          exact updated
        · intro seen there'
          rw [view, if_pos there] at there'
          cases there'
          simp only [Function.update_self]
          exact follows.subscribes initial
        · intro other readied inside robot place
          rw [readied_updateAt] at readied
          rw [Function.update_eq_self] at place ⊢
          exact coherent.ready other readied inside robot place
      next subscribed =>
        obtain ⟨moved, followed⟩ := follows.receives (Bool.eq_false_iff.mpr subscribed)
        refine ⟨Function.update stage served (.noticed remote.position position),
          coherent.replace (updated.notice member moved) unfinished
            (coherent.oneDriver served member) ?_ others ?_ ?_⟩
        · intro seen there'
          rw [robotAt_post, view, if_pos (by rw [← there, moved]; rfl)] at there'
          cases there'
          simp only [Function.update_self]
          exact followed
        · intro other inside different
          rw [robotAt_post]
          exact elsewhere other inside different
        · intro other readied robot inside place
          have readied : other ∈ CpsKitchen.Rearrangement.readied p.controller.worker := by
            rw [← readied_updateAt]
            exact readied
          rw [view_update stage served (.noticed remote.position position) Stage.place
            (by rw [moved]; rfl)] at place
          obtain ⟨free, available⟩ := coherent.ready other readied robot inside place
          have different : robot ≠ served := by
            rintro rfl
            rw [moved] at free
            contradiction
          rw [Function.update_of_ne different]
          exact ⟨free, available⟩
    · contradiction
  · contradiction

end Notices

end CpsKitchen.Rearrangement
