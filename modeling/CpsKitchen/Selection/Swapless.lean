import CpsKitchen.Selection.Model
import CpsKitchen.ControllerAgent.Swaps

/-!
# Adaptations that are asked for

The MAPE implementation never asks for a swap, so no swap is pending. A robot
that was told to reconfigure is awaited under its flag until it reports.
-/

namespace CpsKitchen.Selection

open CpsKitchen.Reactive CpsKitchen.Recipes CpsKitchen.KitchenMape
open CpsKitchen.ControllerAgent

set_option autoImplicit false

section Swapless

variable {config : ControllerAgent.Config} {c after : Controller}
  {event : ControllerAgent.Event} {outputs : List Output}

def isSwapping : Worker → Bool
  | .checkingFirst _ _ _ | .checkingSecond _ _ _ | .switchingFirst _ _ _ | .switchingSecond _ _ _
  | .committingFirst _ _ _ | .committingSecond _ _ => true
  | _ => false

/-- The robot that the worker is about to reconfigure. -/
def addressed : Worker → Option Position
  | .checkingReconfiguration _ position _ | .reconfiguring _ position _ => some position
  | _ => none

/-- No swap is pending or under way, a robot is reconfigured while it is in the
map, and initialized while it is not. -/
structure Swapless (c : Controller) : Prop where
  noSwaps : c.pendingSwaps = []
  notSwapping : isSwapping c.worker = false
  present : ∀ position, addressed c.worker = some position → isRegistered c position
  absent : ∀ robot position, c.worker = .initializingRobot robot position →
    findRobot c position = none

theorem initial_swapless : Swapless ControllerAgent.initial where
  noSwaps := rfl
  notSwapping := rfl
  present := by simp [ControllerAgent.initial, addressed]
  absent := by simp [ControllerAgent.initial]

def isPlain : Worker → Bool
  | .betweenHandlers | .readingPendingCommit _ | .resolvingMissedCommit _
  | .initializingReceiver _ | .choosing _ | .answering _ _ _ => true
  | _ => false

theorem swapless_of_plain (noSwaps : c.pendingSwaps = []) (plain : isPlain c.worker = true) :
    Swapless c := by
  cases worker : c.worker with
  | betweenHandlers | readingPendingCommit | resolvingMissedCommit | initializingReceiver
  | choosing | answering =>
      exact ⟨noSwaps, by rw [worker]; rfl, by simp [worker, addressed], by simp [worker]⟩
  | initializingRobot | checkingFirst | checkingSecond | switchingFirst | switchingSecond
  | checkingReconfiguration | reconfiguring | committingFirst | committingSecond =>
      rw [worker] at plain
      cases plain

theorem Swapless.post (swapless : Swapless c) (handler : Handler) : Swapless (post c handler) :=
  ⟨swapless.noSwaps, swapless.notSwapping, swapless.present, swapless.absent⟩

theorem cleanUp_noSwaps (noSwaps : c.pendingSwaps = []) : (cleanUp c).pendingSwaps = [] := by
  simp [cleanUp, eraseStalePendingSwapEntries, removeStoppedRobots, noSwaps]

theorem Swapless.updateAt (swapless : Swapless c) (change : RemoteRobot → RemoteRobot)
    (place : Place) : Swapless (updateAt c change place) := by
  cases place with
  | registered position =>
      refine ⟨swapless.noSwaps, swapless.notSwapping, ?_, ?_⟩
      · intro other address
        exact isRegistered_updateRobot.mpr (swapless.present other address)
      · intro robot other initializing
        have none := swapless.absent robot other initializing
        rw [ControllerAgent.updateAt, findRobot_updateRobot, none]
        split
        next same => rw [← same, none, Option.map_none]
        · rfl
  | held =>
      cases worker : c.worker with
      | initializingRobot robot position =>
          simp only [ControllerAgent.updateAt, worker]
          refine ⟨swapless.noSwaps, rfl, by simp [setWorker, addressed], ?_⟩
          intro other place initializing
          cases initializing
          exact swapless.absent robot position worker
      | committingFirst key second position =>
          have notSwapping := swapless.notSwapping
          rw [worker] at notSwapping
          contradiction
      | _ =>
          simp only [ControllerAgent.updateAt, worker]
          exact swapless

theorem handles_swapless (swapless : Swapless c) (idle : c.worker = .betweenHandlers)
    {handler : Handler} (ran : Handles c handler after) : Swapless after := by
  have noSwaps := cleanUp_noSwaps swapless.noSwaps
  have unknown : ∀ {oldPosition newPosition swap},
      (cleanUp c).pendingSwaps.lookup (swapKey oldPosition newPosition) ≠ some swap := by
    intro oldPosition newPosition swap found
    rw [noSwaps] at found
    contradiction
  have plain : isPlain (cleanUp c).worker = true := by
    have same : (cleanUp c).worker = c.worker := rfl
    rw [same, idle]
    rfl
  cases ran with
  | registrationRefused | swapUnknown => exact swapless_of_plain noSwaps plain
  | registrationStarts endpoint position capabilities settled free =>
      refine ⟨noSwaps, rfl, by simp [setWorker, addressed], ?_⟩
      intro robot other initializing
      cases initializing
      exact Option.not_isSome_iff_eq_none.mp free
  | receiverUnknown | chooses => exact swapless_of_plain noSwaps rfl
  | acknowledged oldPosition newPosition swap found => exact absurd found unknown
  | completes oldPosition newPosition swap found => exact absurd found unknown
  | reconfigured robotPosition =>
      refine swapless_of_plain ?_ ?_
      · simp [updateRobot, removeStoppedRobots, swapless.noSwaps]
      · exact plain

theorem resolveMissedNewPositionCommit_worker (c : Controller) (position : Position) :
    isPlain (resolveMissedNewPositionCommit c position).worker = true := by
  unfold resolveMissedNewPositionCommit
  split
  · rfl
  · split <;> rfl

theorem resolveMissedNewPositionCommit_frame (c : Controller) (position : Position) :
    (resolveMissedNewPositionCommit c position).positionRemoteRobotMap =
        c.positionRemoteRobotMap ∧
      (resolveMissedNewPositionCommit c position).pendingSwaps = c.pendingSwaps := by
  unfold resolveMissedNewPositionCommit
  split
  · exact ⟨rfl, rfl⟩
  · split <;> exact ⟨rfl, rfl⟩

theorem step_swapless (swapless : Swapless c)
    (unasked : ∀ fromPosition toPosition, event ≠ .swapRobotPositions fromPosition toPosition)
    (step : ControllerAgent.Step config c event after outputs) : Swapless after := by
  have excluded : ∀ {worker : Worker}, c.worker = worker → isSwapping worker = false := by
    intro worker here
    rw [← here]
    exact swapless.notSwapping
  cases step with
  | registrationReceived | requestReceived => exact swapless.post _
  | receiverStopped =>
      exact ⟨swapless.noSwaps, swapless.notSwapping, swapless.present, swapless.absent⟩
  | positionNoticed place | capabilitiesNoticed place | robotStopped place =>
      exact swapless.updateAt _ place
  | positionChanged place | capabilitiesChanged place => exact (swapless.updateAt _ place).post _
  | handled handler posted idle next ran =>
      have taken : Swapless (takeHandler c posted) :=
        ⟨swapless.noSwaps, swapless.notSwapping, swapless.present, swapless.absent⟩
      exact handles_swapless taken idle ran
  | robotRegistered robot position initializing =>
      refine swapless_of_plain ?_ (resolveMissedNewPositionCommit_worker _ position)
      rw [(resolveMissedNewPositionCommit_frame _ position).2]
      exact swapless.noSwaps
  | robotDropped | commitMissed | noCommitMissed | missedCommitted | notAvailable
  | reconfigurationInstructed | notAnswered | answers =>
      exact swapless_of_plain swapless.noSwaps rfl
  | receiverInitialized request succeeded =>
      refine swapless_of_plain ?_ rfl
      cases succeeded <;> exact swapless.noSwaps
  | answered request robotPosition robotEndpoint reply =>
      refine swapless_of_plain ?_ rfl
      by_cases failed : reply = none
      · rw [if_pos failed]
        exact swapless.noSwaps
      · rw [if_neg failed]
        exact swapless.noSwaps
  | adaptationRefused => exact swapless
  | swapChecked request fromPosition toPosition => exact absurd rfl (unasked _ _)
  | reconfigurationChecked request robotPosition profile choosing adapts =>
      refine ⟨swapless.noSwaps, rfl, ?_, by simp [setWorker]⟩
      intro position address
      cases address
      exact Option.isSome_of_any adapts
  | robotAvailable request robotPosition profile checking =>
      refine ⟨swapless.noSwaps, rfl, ?_, by simp [setWorker]⟩
      intro position address
      cases address
      exact swapless.present robotPosition (by rw [checking]; rfl)
  | firstCommitted key second position reply here | secondCommitted key position reply here
  | firstAvailable request fromPosition toPosition here
  | secondAvailable request fromPosition toPosition here
  | firstFailed request fromPosition toPosition here
  | firstRefused request fromPosition toPosition here
  | firstSwitches request fromPosition toPosition here
  | onlySwitches request fromPosition toPosition here
  | secondRefused request fromPosition toPosition here
  | secondSwitches request fromPosition toPosition reply here =>
      exact absurd (excluded here) (by simp [isSwapping])

end Swapless

section Awaits

variable {config : ControllerAgent.Config} {c after : Controller}
  {event : ControllerAgent.Event} {outputs : List Output} {awaited : Finset Position}

/-- The robots in the map that accepted a reconfiguration and whose callback has
not run since. -/
def awaitedAfter (c : Controller) (event : ControllerAgent.Event) (awaited : Finset Position) :
    Finset Position :=
  match event, c.worker, c.posted with
  | .capabilitiesInstructed (some true), .reconfiguring _ position _, _ => insert position awaited
  | .runHandler, _, .capabilitiesReconfigured position :: _ =>
      (awaited.erase position).filter fun other => ¬ isStopped c other
  | .runHandler, _, _ => awaited.filter fun other => ¬ isStopped c other
  | _, _, _ => awaited

def Awaits (awaited : Finset Position) (c : Controller) : Prop :=
  ∀ position ∈ awaited, ∃ robot, findRobot c position = some robot ∧
    robot.adaptivityIsPending = true

def KeepsFlags (c after : Controller) : Prop :=
  ∀ position robot, findRobot c position = some robot → robot.adaptivityIsPending = true →
    ∃ kept, findRobot after position = some kept ∧ kept.adaptivityIsPending = true

theorem KeepsFlags.of_same (map : after.positionRemoteRobotMap = c.positionRemoteRobotMap) :
    KeepsFlags c after := by
  intro position robot found pending
  refine ⟨robot, ?_, pending⟩
  rw [findRobot, map]
  exact found

theorem Awaits.keeps (awaits : Awaits awaited c) (keeps : KeepsFlags c after) :
    Awaits awaited after := by
  intro position member
  obtain ⟨robot, found, pending⟩ := awaits position member
  exact keeps position robot found pending

theorem Awaits.post (awaits : Awaits awaited c) (handler : Handler) :
    Awaits awaited (post c handler) :=
  awaits.keeps (.of_same rfl)

theorem Awaits.subset {fewer : Finset Position} (awaits : Awaits awaited c)
    (subset : fewer ⊆ awaited) : Awaits fewer c :=
  fun position member => awaits position (subset member)

theorem updateRobot_keepsFlags (c : Controller) (position : Position)
    {change : RemoteRobot → RemoteRobot}
    (keeps : ∀ robot, robot.adaptivityIsPending = true →
      (change robot).adaptivityIsPending = true) :
    KeepsFlags c (updateRobot c position change) := by
  intro other robot found pending
  by_cases same : other = position
  · refine ⟨change robot, ?_, keeps robot pending⟩
    rw [findRobot_updateRobot, if_pos same, ← same, found, Option.map_some]
  · refine ⟨robot, ?_, pending⟩
    rw [findRobot_updateRobot, if_neg same]
    exact found

theorem updateAt_keepsFlags (c : Controller) (place : Place) {change : RemoteRobot → RemoteRobot}
    (keeps : ∀ robot, robot.adaptivityIsPending = true →
      (change robot).adaptivityIsPending = true) :
    KeepsFlags c (updateAt c change place) := by
  cases place with
  | registered position => exact updateRobot_keepsFlags c position keeps
  | held =>
      apply KeepsFlags.of_same
      simp only [updateAt]
      split <;> rfl

theorem afterCall_keeps (reply : Option Bool) (robot : RemoteRobot)
    (pending : robot.adaptivityIsPending = true) :
    (afterCall reply robot).adaptivityIsPending = true := by
  unfold afterCall
  split
  · exact pending
  · exact pending

theorem Awaits.removeStopped (awaits : Awaits awaited c) :
    Awaits (awaited.filter fun other => ¬ isStopped c other) (removeStoppedRobots c) := by
  intro position member
  obtain ⟨before, goesOn⟩ := Finset.mem_filter.mp member
  obtain ⟨robot, found, pending⟩ := awaits position before
  refine ⟨robot, ?_, pending⟩
  have running : robot.running = true := by
    rw [isStopped, found] at goesOn
    simpa using goesOn
  rw [findRobot_removeStoppedRobots, found, Option.filter_some, if_pos running]

theorem awaitedAfter_quiet (quiet : event ≠ .runHandler)
    (uninstructed : event ≠ .capabilitiesInstructed (some true)) :
    awaitedAfter c event awaited = awaited := by
  unfold awaitedAfter
  split
  · exact absurd rfl uninstructed
  · exact absurd rfl quiet
  · exact absurd rfl quiet
  · rfl

theorem awaitedAfter_subset (uninstructed : ∀ request position profile,
    c.worker ≠ .reconfiguring request position profile) :
    awaitedAfter c event awaited ⊆ awaited := by
  unfold awaitedAfter
  split
  next reconfiguring => exact absurd reconfiguring (uninstructed _ _ _)
  · exact (Finset.filter_subset _ _).trans (Finset.erase_subset _ _)
  · exact Finset.filter_subset _ _
  · exact subset_rfl

theorem instructed_awaits (awaits : Awaits awaited c) (swapless : Swapless c) {request : Request}
    {robotPosition : Position} {profile : String} (reply : Option Bool)
    (instructing : c.worker = .reconfiguring request robotPosition profile) :
    Awaits (awaitedAfter c (.capabilitiesInstructed reply) awaited)
      (setWorker
        (updateRobot c robotPosition
          (if reply = some true then setAdaptivityFlag else afterCall reply))
        (.choosing request)) := by
  by_cases accepted : reply = some true
  · have present : isRegistered c robotPosition :=
      swapless.present robotPosition (by rw [instructing]; rfl)
    obtain ⟨robot, registered⟩ := Option.isSome_iff_exists.mp present
    have marked : KeepsFlags c (updateRobot c robotPosition setAdaptivityFlag) :=
      updateRobot_keepsFlags c robotPosition (fun _ _ => rfl)
    have added : awaitedAfter c (.capabilitiesInstructed reply) awaited =
        insert robotPosition awaited := by simp only [accepted, awaitedAfter, instructing]
    rw [added, if_pos accepted]
    intro position member
    rcases Finset.mem_insert.mp member with same | before
    · refine ⟨setAdaptivityFlag robot, ?_, rfl⟩
      have here := findRobot_updateRobot c robotPosition setAdaptivityFlag position
      rw [if_pos same, registered, Option.map_some] at here
      exact here
    · exact awaits.keeps marked position before
  · rw [if_neg accepted, awaitedAfter_quiet (by simp) (by simpa using accepted)]
    have kept : KeepsFlags c (updateRobot c robotPosition (afterCall reply)) :=
      updateRobot_keepsFlags c robotPosition (afterCall_keeps reply)
    exact (awaits.keeps kept).keeps (.of_same rfl)

theorem handles_awaits (awaits : Awaits awaited c) (swapless : Swapless c) {handler : Handler}
    {posted : List Handler} (ran : Handles (takeHandler c posted) handler after)
    (next : c.posted = handler :: posted) :
    Awaits (awaitedAfter c .runHandler awaited) after := by
  have removed : Awaits (awaited.filter fun other => ¬ isStopped c other)
      (removeStoppedRobots (takeHandler c posted)) := by
    have taken : Awaits awaited (takeHandler c posted) := awaits.keeps (.of_same rfl)
    exact taken.removeStopped
  have cleaned : ∀ worker, Awaits (awaited.filter fun other => ¬ isStopped c other)
      (setWorker (cleanUp (takeHandler c posted)) worker) := fun _ => removed.keeps (.of_same rfl)
  have unknown : ∀ {oldPosition newPosition swap},
      (cleanUp (takeHandler c posted)).pendingSwaps.lookup (swapKey oldPosition newPosition) ≠
        some swap := by
    intro oldPosition newPosition swap found
    have none : (cleanUp (takeHandler c posted)).pendingSwaps = [] :=
      cleanUp_noSwaps swapless.noSwaps
    rw [none] at found
    contradiction
  unfold awaitedAfter
  cases ran with
  | registrationRefused | swapUnknown =>
      simp only [next]
      exact removed.keeps (.of_same rfl)
  | registrationStarts | receiverUnknown | chooses =>
      simp only [next]
      exact cleaned _
  | acknowledged oldPosition newPosition swap found => exact absurd found unknown
  | completes oldPosition newPosition swap found => exact absurd found unknown
  | reconfigured robotPosition =>
      simp only [next]
      intro position member
      obtain ⟨before, goesOn⟩ := Finset.mem_filter.mp member
      obtain ⟨other, waiting⟩ := Finset.mem_erase.mp before
      obtain ⟨robot, found, pending⟩ := removed position (Finset.mem_filter.mpr ⟨waiting, goesOn⟩)
      refine ⟨robot, ?_, pending⟩
      rw [findRobot_updateRobot, if_neg other]
      exact found

theorem step_awaits (awaits : Awaits awaited c) (swapless : Swapless c)
    (step : ControllerAgent.Step config c event after outputs) :
    Awaits (awaitedAfter c event awaited) after := by
  have excluded : ∀ {worker : Worker}, c.worker = worker → isSwapping worker = false := by
    intro worker here
    rw [← here]
    exact swapless.notSwapping
  cases step with
  | handled handler posted idle next ran => exact handles_awaits awaits swapless ran next
  | reconfigurationInstructed request robotPosition profile reply instructing =>
      exact instructed_awaits awaits swapless reply instructing
  | registrationReceived | requestReceived | receiverStopped | robotDropped | commitMissed
  | reconfigurationChecked | robotAvailable | notAnswered | answers | swapChecked =>
      rw [awaitedAfter_quiet (by simp) (by simp)]
      exact awaits.keeps (.of_same rfl)
  | adaptationRefused _ request choosing =>
      refine awaits.subset (awaitedAfter_subset ?_)
      intro _ _ _ reconfiguring
      rw [choosing] at reconfiguring
      contradiction
  | positionNoticed place | capabilitiesNoticed place | robotStopped place =>
      rw [awaitedAfter_quiet (by simp) (by simp)]
      exact awaits.keeps (updateAt_keepsFlags c place (fun _ pending => pending))
  | positionChanged place | capabilitiesChanged place =>
      rw [awaitedAfter_quiet (by simp) (by simp)]
      refine Awaits.post (awaits.keeps ?_) _
      exact updateAt_keepsFlags c place (fun _ pending => pending)
  | robotRegistered robot position initializing =>
      rw [awaitedAfter_quiet (by simp) (by simp)]
      have absent := swapless.absent robot position initializing
      intro other member
      obtain ⟨kept, found, pending⟩ := awaits other member
      refine ⟨kept, ?_, pending⟩
      have elsewhere : other ≠ position := by
        intro same
        rw [same, absent] at found
        contradiction
      rw [findRobot, (resolveMissedNewPositionCommit_frame _ position).1]
      have inserted := findRobot_insertRobot c position robot other
      rw [if_neg elsewhere] at inserted
      exact inserted.trans found
  | noCommitMissed position answer | missedCommitted position answer =>
      rw [awaitedAfter_quiet (by simp) (by simp)]
      exact (awaits.keeps (updateRobot_keepsFlags c position (afterCall_keeps answer))).keeps
        (.of_same rfl)
  | notAvailable request position answer =>
      rw [awaitedAfter_quiet (by simp) (by simp)]
      exact (awaits.keeps (updateRobot_keepsFlags c position (afterCall_keeps answer))).keeps
        (.of_same rfl)
  | receiverInitialized request succeeded =>
      rw [awaitedAfter_quiet (by simp) (by simp)]
      cases succeeded <;> exact awaits.keeps (.of_same rfl)
  | answered request robotPosition robotEndpoint reply =>
      rw [awaitedAfter_quiet (by simp) (by simp)]
      refine awaits.keeps (.of_same ?_)
      by_cases failed : reply = none
      · rw [if_pos failed]
        rfl
      · rw [if_neg failed]
        rfl
  | firstCommitted key second position reply here | secondCommitted key position reply here
  | firstAvailable request fromPosition toPosition here
  | secondAvailable request fromPosition toPosition here
  | firstFailed request fromPosition toPosition here
  | firstRefused request fromPosition toPosition here
  | firstSwitches request fromPosition toPosition here
  | onlySwitches request fromPosition toPosition here
  | secondRefused request fromPosition toPosition here
  | secondSwitches request fromPosition toPosition reply here =>
      exact absurd (excluded here) (by simp [isSwapping])

end Awaits

end CpsKitchen.Selection
