import CpsKitchen.Rearrangement.Moves

/-!
# The handlers of the controller

What the controller does without a robot keeps the plant coherent. A handler
that acknowledges the last robot of a swap takes both robots out of the map
and returns the first one.
-/

namespace CpsKitchen.Rearrangement

open CpsKitchen.Reactive CpsKitchen.Recipes
open CpsKitchen.RobotAgent (Robot)
open CpsKitchen.ControllerAgent

set_option autoImplicit false

variable {config : Config} {p after : Plant} {c : Controller} {stage : String → Stage}

section Quiet

def isQuiet : Worker → Bool
  | .initializingRobot _ _ | .switchingSecond _ _ _ | .committingFirst _ _ _
  | .committingSecond _ _ => false
  | _ => true

variable {worker : Worker}

theorem not_completing_of_quiet (quiet : isQuiet worker = true) (key : SwapKey) :
    ¬ Completing worker key := by
  cases worker with
  | initializingRobot | switchingSecond | committingFirst | committingSecond => contradiction
  | _ => exact id

theorem not_commits_of_quiet (quiet : isQuiet worker = true) (switch : Position × Position) :
    ¬ CommitsTo worker switch := by
  cases worker with
  | initializingRobot | switchingSecond | committingFirst | committingSecond => contradiction
  | _ => exact id

theorem not_opening_of_quiet (quiet : isQuiet worker = true) (switch : Position × Position) :
    ¬ Opening worker switch := by
  cases worker with
  | initializingRobot | switchingSecond | committingFirst | committingSecond => contradiction
  | _ => exact id

theorem held_of_quiet (quiet : isQuiet c.worker = true) : robotAt c .held = none := by
  unfold robotAt
  cases worker : c.worker with
  | initializingRobot | committingFirst =>
      rw [worker] at quiet
      contradiction
  | _ => rfl

theorem Agrees.turns (agrees : Agrees config c stage) (quiet : isQuiet c.worker = true)
    (next : isQuiet worker = true) (table : SwapTable (setWorker c worker))
    (relies : WorkerAgrees config (setWorker c worker) stage worker) :
    Agrees config (setWorker c worker) stage := by
  refine agrees.transport table ?_ rfl rfl agrees.registered ?_ ?_ ?_ relies
  · intro place
    cases place with
    | registered position => rfl
    | held =>
        have later : isQuiet (setWorker c worker).worker = true := next
        rw [servedAt, servedAt, held_of_quiet quiet, held_of_quiet later]
  · exact fun key =>
      iff_of_false (not_completing_of_quiet next key) (not_completing_of_quiet quiet key)
  · exact fun switch commits => absurd commits (not_commits_of_quiet quiet switch)
  · exact fun switch opens => absurd opens (not_opening_of_quiet quiet switch)

theorem Agrees.posts (agrees : Agrees config c stage) {handler : Handler}
    (notAck : ack? handler = none) (notRegistration : isRegistration handler = false) :
    Agrees config (post c handler) stage := by
  refine agrees.transport (agrees.toSwapTable.transport rfl (.inl rfl))
    (fun place => congrArg (Option.map RemoteRobot.endpoint) (robotAt_post c handler place))
    rfl ?_ ?_
    (fun _ => Iff.rfl) (fun _ => id) (fun _ => id) agrees.worker
  · simp [postedAcks, post, notAck]
  · intro posted member
    rcases List.mem_append.mp member with before | new
    · exact agrees.registered posted before
    · rw [List.mem_singleton.mp new]
      exact notRegistration

theorem Agrees.takes (agrees : Agrees config c stage) {handler : Handler} {posted : List Handler}
    (next : c.posted = handler :: posted) (notAck : ack? handler = none) :
    Agrees config (takeHandler c posted) stage := by
  refine agrees.transport (agrees.toSwapTable.transport rfl (.inl rfl)) (fun _ => rfl) rfl ?_ ?_
    (fun _ => Iff.rfl) (fun _ => id) (fun _ => id) agrees.worker
  · simp [postedAcks, takeHandler, next, notAck]
  · intro later member
    refine agrees.registered later ?_
    rw [next]
    exact List.mem_cons_of_mem _ member

theorem Agrees.receivers (agrees : Agrees config c stage)
    (nextRobotReceivers : Finmap fun _ : String × String => NextRobotReceiver) :
    Agrees config { c with nextRobotReceivers := nextRobotReceivers } stage :=
  agrees.transport (agrees.toSwapTable.transport rfl (.inl rfl)) (fun _ => rfl) rfl rfl
    agrees.registered (fun _ => Iff.rfl) (fun _ => id) (fun _ => id) agrees.worker

end Quiet

section Views

/-- What the stages say of one view of a robot holds of the other too. -/
structure Seen (before remote : RemoteRobot) : Prop where
  position : remote.position = before.position
  running : remote.running = before.running
  subscription : remote.initialPositionSubscription = before.initialPositionSubscription
  flag : before.adaptivityIsPending = false → remote.adaptivityIsPending = false

theorem Follows.seen {r : Robot} {notices : List Position} {before remote : RemoteRobot}
    {lastSwitch : Option (Position × Position)} {stage : Stage}
    (follows : Follows r notices before lastSwitch stage) (seen : Seen before remote) :
    Follows r notices remote lastSwitch stage where
  position := follows.position
  phase := follows.phase
  remotePosition := seen.position.trans follows.remotePosition
  running := seen.running.trans follows.running
  notices := by
    rw [initialNotice, seen.subscription, seen.position]
    exact follows.notices
  subscribed := by
    rw [seen.subscription]
    exact follows.subscribed
  last := follows.last
  reset := fun reset => seen.flag (follows.reset reset)
  done := by
    intro position free switch last
    obtain ⟨there, available, flag⟩ := follows.done position free switch last
    exact ⟨there, available, seen.flag flag⟩

theorem Coherent.sees (coherent : Coherent config p stage) (agrees : Agrees config c stage)
    (unfinished : Unfinished c)
    (views : ∀ place remote, robotAt c place = some remote →
      ∃ before, robotAt p.controller place = some before ∧ Seen before remote)
    (ready : ∀ position ∈ readied c.worker, ∀ endpoint ∈ config.endpoints,
      (stage endpoint).place = .registered position →
        stage endpoint = .free position ∧ (p.robots endpoint).robotState = .available) :
    Coherent config { p with controller := c } stage where
  agrees := agrees
  unfinished := unfinished
  oneDriver := coherent.oneDriver
  follows := by
    intro endpoint member remote found
    obtain ⟨before, there, seen⟩ := views _ remote found
    exact (coherent.follows endpoint member before there).seen seen
  ready := ready

theorem seen_refl (remote : RemoteRobot) : Seen remote remote := ⟨rfl, rfl, rfl, id⟩

theorem Coherent.updates (coherent : Coherent config p stage) (change : RemoteRobot → RemoteRobot)
    (endpoint : ∀ robot, (change robot).endpoint = robot.endpoint)
    (seen : ∀ robot, Seen robot (change robot)) (place : Place) :
    Coherent config { p with controller := updateAt p.controller change place } stage := by
  refine coherent.sees (coherent.agrees.updated change endpoint place)
    (coherent.unfinished.updated change place) ?_ ?_
  · intro other remote found
    rw [robotAt_updateAt] at found
    split at found
    next here =>
      obtain ⟨before, there, rfl⟩ := Option.map_eq_some_iff.mp found
      exact ⟨before, by rw [here]; exact there, seen before⟩
    · exact ⟨remote, found, seen_refl remote⟩
  · intro position readied
    rw [readied_updateAt] at readied
    exact coherent.ready position readied

theorem Coherent.none_stopped (coherent : Coherent config p stage) (position : Position) :
    ¬ isStopped p.controller position := by
  intro stopped
  unfold isStopped at stopped
  cases found : findRobot p.controller position with
  | none => simp [found] at stopped
  | some remote =>
      have served : servedAt p.controller (.registered position) = some remote.endpoint := by
        rw [servedAt, robotAt, found]
        rfl
      obtain ⟨member, place⟩ := (coherent.agrees.served _ _).mp served
      have runs := (coherent.follows remote.endpoint member remote
        (by rw [place]; exact found)).running
      rw [found] at stopped
      simp [runs] at stopped

theorem Coherent.turns (coherent : Coherent config p stage) {worker : Worker}
    (quiet : isQuiet p.controller.worker = true) (next : isQuiet worker = true)
    (table : SwapTable (setWorker p.controller worker))
    (relies : WorkerAgrees config (setWorker p.controller worker) stage worker)
    (ready : ∀ position ∈ readied worker, ∀ endpoint ∈ config.endpoints,
      (stage endpoint).place = .registered position →
        stage endpoint = .free position ∧ (p.robots endpoint).robotState = .available) :
    Coherent config { p with controller := setWorker p.controller worker } stage := by
  refine coherent.sees (coherent.agrees.turns quiet next table relies) ?_ ?_ ready
  · intro entry member both
    exact absurd (coherent.unfinished entry member both) (not_completing_of_quiet quiet entry.1)
  · intro place remote found
    refine ⟨remote, ?_, seen_refl remote⟩
    cases place with
    | registered position => exact found
    | held =>
        have later : isQuiet (setWorker p.controller worker).worker = true := next
        rw [held_of_quiet later] at found
        contradiction

theorem Coherent.receivers (coherent : Coherent config p stage)
    (nextRobotReceivers : Finmap fun _ : String × String => NextRobotReceiver) :
    Coherent config
      { p with
        controller := { p.controller with nextRobotReceivers := nextRobotReceivers } } stage :=
  coherent.sees (coherent.agrees.receivers nextRobotReceivers) coherent.unfinished
    (fun _ remote found => ⟨remote, found, seen_refl remote⟩) coherent.ready

theorem Coherent.posts (coherent : Coherent config p stage) {handler : Handler}
    (notAck : ack? handler = none) (notRegistration : isRegistration handler = false) :
    Coherent config { p with controller := post p.controller handler } stage :=
  coherent.sees (coherent.agrees.posts notAck notRegistration) coherent.unfinished
    (fun place remote found => ⟨remote, by rwa [robotAt_post] at found, seen_refl remote⟩)
    coherent.ready

theorem Coherent.takes (coherent : Coherent config p stage) {handler : Handler}
    {posted : List Handler} (next : p.controller.posted = handler :: posted)
    (notAck : ack? handler = none) :
    Coherent config { p with controller := takeHandler p.controller posted } stage :=
  coherent.sees (coherent.agrees.takes next notAck) coherent.unfinished
    (fun _ remote found => ⟨remote, found, seen_refl remote⟩) coherent.ready

end Views

section Acknowledgements

variable {fromPosition toPosition : Position}

theorem Follows.acknowledges {r : Robot} {notices : List Position} {remote : RemoteRobot}
    {lastSwitch : Option (Position × Position)}
    (follows : Follows r notices remote lastSwitch (.noticed fromPosition toPosition)) :
    Follows r notices remote lastSwitch (.acknowledged fromPosition toPosition) where
  position := follows.position
  phase := follows.phase
  remotePosition := follows.remotePosition
  running := follows.running
  notices := follows.notices
  subscribed := follows.subscribed
  last := follows.last
  reset := follows.reset
  done := by simp

theorem Follows.leaves_map {r : Robot} {notices : List Position} {remote : RemoteRobot}
    {lastSwitch : Option (Position × Position)}
    (follows : Follows r notices remote lastSwitch (.acknowledged fromPosition toPosition)) :
    Follows r notices remote lastSwitch (.held fromPosition toPosition) where
  position := follows.position
  phase := follows.phase
  remotePosition := follows.remotePosition
  running := follows.running
  notices := follows.notices
  subscribed := follows.subscribed
  last := follows.last
  reset := follows.reset
  done := by simp

theorem Follows.returns {r : Robot} {notices : List Position} {remote : RemoteRobot}
    {lastSwitch : Option (Position × Position)}
    (follows : Follows r notices remote lastSwitch (.held fromPosition toPosition)) :
    Follows r notices (resetAdaptivityFlag remote) lastSwitch
      (.rekeyed fromPosition toPosition) where
  position := follows.position
  phase := follows.phase
  remotePosition := follows.remotePosition
  running := follows.running
  notices := follows.notices
  subscribed := follows.subscribed
  last := follows.last
  reset := fun _ => rfl
  done := by simp

theorem Stage.acknowledged_of_leaving {stage : Stage}
    (leaves : stage.leaving = some (fromPosition, toPosition)) (settled : stage.waiting = none) :
    stage = .acknowledged fromPosition toPosition := by
  cases stage with
  | acknowledged => cases leaves; rfl
  | asked | moved | noticed => contradiction
  | free | held | rekeyed | committed => contradiction

theorem acknowledged_of_leaving {endpoint : String} (member : endpoint ∈ config.endpoints)
    (leaves : (stage endpoint).leaving = some (fromPosition, toPosition))
    (acked : ¬ Waiting config stage (fromPosition, toPosition)) :
    stage endpoint = .acknowledged fromPosition toPosition := by
  refine Stage.acknowledged_of_leaving leaves ?_
  by_contra waiting
  obtain ⟨switch, waits⟩ := Option.ne_none_iff_exists'.mp waiting
  have same := Stage.leaving_of_waiting waits
  rw [leaves] at same
  cases same
  exact acked ⟨endpoint, member, waits⟩

def AllFollow (config : Config) (p : Plant) (c : Controller) (stage : String → Stage) : Prop :=
  ∀ endpoint ∈ config.endpoints, ∀ remote, robotAt c (stage endpoint).place = some remote →
    Follows (p.robots endpoint) (p.notices endpoint) remote (p.lastSwitch endpoint)
      (stage endpoint)

theorem Agrees.begun_elsewhere (agrees : Agrees config c stage)
    (idle : c.worker = .betweenHandlers) (key : swapKey fromPosition toPosition ∈ swapKeys c)
    {first : RemoteRobot} {later : Controller}
    (begun : Begun c later fromPosition toPosition first) {other : String}
    (inside : other ∈ config.endpoints)
    (notFirst : (stage other).leaving ≠ some (fromPosition, toPosition))
    (notSecond : (stage other).leaving ≠ some (toPosition, fromPosition)) :
    robotAt later (stage other).place = robotAt c (stage other).place := by
  have served := (agrees.served _ other).mpr ⟨inside, rfl⟩
  cases place : (stage other).place with
  | held =>
      rw [place, servedAt, robotAt, idle] at served
      contradiction
  | registered position =>
      have notInvolved : ¬ involves position (swapKey fromPosition toPosition) := by
        intro involved
        obtain ⟨switch, leaves, _, rfl | rfl⟩ :=
          agrees.leaving_of_place idle key inside place involved
        · exact notFirst leaves
        · exact notSecond leaves
      have notTo : position ≠ toPosition := by
        rintro rfl
        exact notInvolved (involves_swapKey.mpr (.inr rfl))
      rw [robotAt, begun.robots, if_neg notTo, if_neg notInvolved]
      rfl

theorem begins (agrees : Agrees config c stage) (follow : AllFollow config p c stage)
    (oneDriver : ∀ endpoint ∈ config.endpoints, RobotAgent.OneDriver (p.robots endpoint))
    (idle : c.worker = .betweenHandlers) (key : swapKey fromPosition toPosition ∈ swapKeys c)
    {endpoint : String} (member : endpoint ∈ config.endpoints)
    (leaves : (stage endpoint).leaving = some (fromPosition, toPosition))
    (firstAcked : ¬ Waiting config stage (fromPosition, toPosition))
    (secondAcked : ¬ Waiting config stage (toPosition, fromPosition)) {first : RemoteRobot}
    (found : findRobot c fromPosition = some first) {later : Controller}
    (begun : Begun c later fromPosition toPosition first)
    (open_ : ∀ entry ∈ c.pendingSwaps, entry.2.isAcknowledged = true →
      swapKey fromPosition toPosition = entry.1) :
    Coherent config { p with controller := later }
      (completedStage stage fromPosition toPosition) where
  agrees := agrees.begun idle key member leaves firstAcked secondAcked found begun
  unfinished := by
    intro entry inside both
    have inside : entry ∈ later.pendingSwaps := inside
    rw [begun.swaps] at inside
    exact (begun.completing entry.1).mpr (open_ entry inside both)
  oneDriver := oneDriver
  follows := by
    intro other inside remote there
    have there : robotAt later (completedStage stage fromPosition toPosition other).place =
      some remote := there
    unfold completedStage at there ⊢
    split at there
    next leavesToo =>
      rw [if_pos leavesToo]
      have acknowledged := acknowledged_of_leaving inside leavesToo firstAcked
      have view := follow other inside first (by rw [acknowledged]; exact found)
      rw [acknowledged] at view
      have here : findRobot later toPosition = some remote := there
      rw [begun.robots, if_pos rfl] at here
      cases here
      exact view.leaves_map.returns
    next notFirst =>
      rw [if_neg notFirst]
      split at there
      next leavesToo =>
        rw [if_pos leavesToo]
        have acknowledged := acknowledged_of_leaving inside leavesToo secondAcked
        have here : robotAt later .held = some remote := there
        rw [begun.outside] at here
        have view := follow other inside remote (by rw [acknowledged]; exact here)
        rw [acknowledged] at view
        exact view.leaves_map
      next notSecond =>
        rw [if_neg notSecond]
        refine follow other inside remote ?_
        rw [← agrees.begun_elsewhere idle key begun inside notFirst notSecond]
        exact there
  ready := by
    intro position readied
    have readied : position ∈ CpsKitchen.Rearrangement.readied later.worker := readied
    rcases begun.worker with worker | ⟨_, worker⟩ <;> rw [worker] at readied <;>
      exact absurd readied List.not_mem_nil

theorem findRobot_erased (c : Controller) (key : SwapKey) (position : Position) :
    findRobot (eraseRobot (eraseRobot c key.1) key.2) position =
      if involves position key then none else findRobot c position := by
  rw [findRobot_eraseRobot, findRobot_eraseRobot]
  by_cases second : position = key.2
  · have involved : involves position key := .inr second.symm
    rw [if_pos second, if_pos involved]
  · rw [if_neg second]
    by_cases first : position = key.1
    · have involved : involves position key := .inl first.symm
      rw [if_pos first, if_pos involved]
    · have notInvolved : ¬ involves position key := by
        rintro (same | same)
        · exact first same.symm
        · exact second same.symm
      rw [if_neg first, if_neg notInvolved]

theorem completeSwap_begun {key : SwapKey} (ordered : key.1 < key.2) (table : SwapTable c)
    {first : RemoteRobot} (found : findRobot c key.1 = some first)
    (arrived : first.position = key.2) : Begun c (completeSwap c key) key.1 key.2 first := by
  have completed : completeSwap c key =
      setWorker (insertRobot (eraseRobot (eraseRobot c key.1) key.2) key.2
        (resetAdaptivityFlag first)) (.committingFirst key (findRobot c key.2) key.2) := by
    simp [completeSwap, found, arrived]
  rw [completed]
  exact
    { table := table.transport rfl (.inr rfl)
      robots := by
        intro position
        rw [swapKey_of_ordered ordered, ← findRobot_erased]
        exact findRobot_insertRobot _ _ _ _
      outside := rfl
      swaps := rfl
      posted := rfl
      worker := .inl (by rw [swapKey_of_ordered ordered]; rfl) }

theorem completeSwap_begun_alone {key : SwapKey} (ordered : key.1 < key.2) (table : SwapTable c)
    (nobody : findRobot c key.1 = none) {second : RemoteRobot}
    (found : findRobot c key.2 = some second) (arrived : second.position = key.1) :
    Begun c (completeSwap c key) key.2 key.1 second := by
  have completed : completeSwap c key =
      setWorker (insertRobot (eraseRobot (eraseRobot c key.1) key.2) key.1
        (resetAdaptivityFlag second)) (.committingSecond key key.1) := by
    simp [completeSwap, commitSecond, nobody, found, arrived]
  rw [completed]
  exact
    { table := table.transport rfl (.inr rfl)
      robots := by
        intro position
        rw [swapKey_swap_of_ordered ordered, ← findRobot_erased]
        exact findRobot_insertRobot _ _ _ _
      outside := nobody.symm
      swaps := rfl
      posted := rfl
      worker := .inr ⟨nobody, by rw [swapKey_swap_of_ordered ordered]; rfl⟩ }

end Acknowledgements

section Handlers

variable {oldPosition newPosition : Position} {posted : List Handler} {later : Controller}

/-- After an acknowledgement no other swap is acknowledged by both robots. -/
theorem Coherent.acknowledged_entry (coherent : Coherent config p stage)
    (idle : p.controller.worker = .betweenHandlers) {key : SwapKey} {swap : SwapState}
    (found : p.controller.pendingSwaps.lookup key = some swap) {entry : SwapKey × SwapState}
    (member : entry ∈ (acknowledgeSwap (takeHandler p.controller posted) key
      oldPosition).pendingSwaps) (both : entry.2.isAcknowledged = true) :
    entry = (key, swap.acknowledge key oldPosition) := by
  rcases mem_acknowledgeSwap member with ⟨before, _⟩ | ⟨before, inside, here, rfl⟩
  · have completing := coherent.unfinished entry before both
    rw [idle] at completing
    exact absurd completing id
  · have same := coherent.agrees.toSwapTable.unique inside (mem_of_lookup found) here
    rw [same]

/-- Only the robot whose acknowledgement runs changes its stage. -/
theorem Coherent.acknowledged_follow (coherent : Coherent config p stage) {endpoint : String}
    (noticed : stage endpoint = .noticed oldPosition newPosition) :
    AllFollow config p p.controller
      (Function.update stage endpoint (.acknowledged oldPosition newPosition)) := by
  intro other inside remote found
  by_cases here : other = endpoint
  · subst here
    rw [Function.update_self] at found ⊢
    have follows := coherent.follows other inside remote (by rw [noticed]; exact found)
    rw [noticed] at follows
    exact follows.acknowledges
  · rw [Function.update_of_ne here] at found ⊢
    exact coherent.follows other inside remote found

theorem Coherent.acknowledges (coherent : Coherent config p stage)
    (idle : p.controller.worker = .betweenHandlers)
    (next : p.controller.posted = .positionSwapped oldPosition newPosition :: posted)
    {swap : SwapState}
    (found : p.controller.pendingSwaps.lookup (swapKey oldPosition newPosition) = some swap)
    (open_ : (swap.acknowledge (swapKey oldPosition newPosition) oldPosition).isAcknowledged =
      false) :
    ∃ stage, Coherent config
      { p with
        controller := acknowledgeSwap (takeHandler p.controller posted)
          (swapKey oldPosition newPosition) oldPosition } stage := by
  obtain ⟨endpoint, member, noticed, table⟩ := coherent.agrees.next_ack idle next
  refine ⟨Function.update stage endpoint (.acknowledged oldPosition newPosition),
    coherent.agrees.acknowledge idle member noticed table next, ?_, coherent.oneDriver,
    coherent.acknowledged_follow noticed, ?_⟩
  · intro entry inside both
    rw [coherent.acknowledged_entry idle found inside both, open_] at both
    contradiction
  · intro position readied
    have readied : position ∈ CpsKitchen.Rearrangement.readied p.controller.worker := readied
    rw [idle] at readied
    exact absurd readied List.not_mem_nil

theorem arrived_at_other (agrees : Agrees config c stage) (follow : AllFollow config p c stage)
    (idle : c.worker = .betweenHandlers) {fromPosition toPosition : Position}
    (table : swapKey fromPosition toPosition ∈ swapKeys c)
    (acked : ¬ Waiting config stage (fromPosition, toPosition)) {remote : RemoteRobot}
    (found : findRobot c fromPosition = some remote) :
    remote.position = toPosition ∧ ∃ endpoint ∈ config.endpoints,
      (stage endpoint).leaving = some (fromPosition, toPosition) := by
  have different := different_of_ordered (agrees.ordered _ table)
  have served : servedAt c (.registered fromPosition) = some remote.endpoint := by
    rw [servedAt, robotAt, found]
    rfl
  obtain ⟨member, place⟩ := (agrees.served _ _).mp served
  obtain ⟨switch, leaves, here, rfl | rfl⟩ := agrees.leaving_of_place idle table member place
    (involves_swapKey.mpr (.inl rfl))
  · have acknowledged := acknowledged_of_leaving member leaves acked
    have follows := follow remote.endpoint member remote (by rw [place]; exact found)
    rw [acknowledged] at follows
    exact ⟨follows.remotePosition, remote.endpoint, member, leaves⟩
  · exact absurd here.symm different

theorem completes_coherent (agrees : Agrees config c stage) (follow : AllFollow config p c stage)
    (oneDriver : ∀ endpoint ∈ config.endpoints, RobotAgent.OneDriver (p.robots endpoint))
    (idle : c.worker = .betweenHandlers) {key : SwapKey} (table : key ∈ swapKeys c)
    (someone : isRegistered c key.1 ∨ isRegistered c key.2)
    (acked : ¬ Waiting config stage (key.1, key.2) ∧ ¬ Waiting config stage (key.2, key.1))
    (open_ : ∀ entry ∈ c.pendingSwaps, entry.2.isAcknowledged = true → key = entry.1) :
    ∃ stage, Coherent config { p with controller := completeSwap c key } stage := by
  have ordered := agrees.ordered key table
  have forth := swapKey_of_ordered ordered
  have back := swapKey_swap_of_ordered ordered
  cases first : findRobot c key.1 with
  | some remote =>
      have here : swapKey key.1 key.2 ∈ swapKeys c := by rw [forth]; exact table
      obtain ⟨arrived, endpoint, member, leaves⟩ :=
        arrived_at_other agrees follow idle here acked.1 first
      exact ⟨completedStage stage key.1 key.2, begins agrees follow oneDriver idle here member
        leaves acked.1 acked.2 first (completeSwap_begun ordered agrees.toSwapTable first arrived)
        (by rw [forth]; exact open_)⟩
  | none =>
      obtain ⟨remote, second⟩ : ∃ remote, findRobot c key.2 = some remote := by
        rcases someone with gone | there
        · simp [isRegistered, first] at gone
        · exact Option.isSome_iff_exists.mp there
      have here : swapKey key.2 key.1 ∈ swapKeys c := by rw [back]; exact table
      obtain ⟨arrived, endpoint, member, leaves⟩ :=
        arrived_at_other agrees follow idle here acked.2 second
      exact ⟨completedStage stage key.2 key.1, begins agrees follow oneDriver idle here member
        leaves acked.2 acked.1 second
        (completeSwap_begun_alone ordered agrees.toSwapTable first second arrived)
        (by rw [back]; exact open_)⟩

theorem Coherent.completes (coherent : Coherent config p stage)
    (idle : p.controller.worker = .betweenHandlers)
    (next : p.controller.posted = .positionSwapped oldPosition newPosition :: posted)
    {swap : SwapState}
    (found : p.controller.pendingSwaps.lookup (swapKey oldPosition newPosition) = some swap)
    (both : (swap.acknowledge (swapKey oldPosition newPosition) oldPosition).isAcknowledged =
      true) :
    ∃ stage, Coherent config
      { p with
        controller := completeSwap
          (acknowledgeSwap (takeHandler p.controller posted) (swapKey oldPosition newPosition)
            oldPosition) (swapKey oldPosition newPosition) } stage := by
  obtain ⟨endpoint, member, noticed, table⟩ := coherent.agrees.next_ack idle next
  have agrees := coherent.agrees.acknowledge idle member noticed table next
  have entry : (swapKey oldPosition newPosition,
      swap.acknowledge (swapKey oldPosition newPosition) oldPosition) ∈
      (acknowledgeSwap (takeHandler p.controller posted) (swapKey oldPosition newPosition)
        oldPosition).pendingSwaps :=
    List.mem_map.mpr ⟨(_, swap), mem_of_lookup found, if_pos rfl⟩
  have ordered := coherent.agrees.ordered _ table
  have acked := agrees.acked _ entry
  have acknowledged : (ackFrom (swapKey oldPosition newPosition,
        swap.acknowledge (swapKey oldPosition newPosition) oldPosition)
          (swapKey oldPosition newPosition).1 &&
      ackFrom (swapKey oldPosition newPosition,
        swap.acknowledge (swapKey oldPosition newPosition) oldPosition)
          (swapKey oldPosition newPosition).2) = true :=
    (isAcknowledged_eq ordered).symm.trans both
  rw [Bool.and_eq_true] at acknowledged
  refine completes_coherent agrees (coherent.acknowledged_follow noticed) coherent.oneDriver idle
    ?_ ?_ ⟨?_, ?_⟩ ?_
  · rw [acknowledgeSwap_keys]
    exact table
  · have here : isRegistered (acknowledgeSwap (takeHandler p.controller posted)
        (swapKey oldPosition newPosition) oldPosition) oldPosition := by
      refine agrees.isRegistered_iff.mpr ⟨endpoint, member, ?_⟩
      rw [Function.update_self]
      rfl
    rcases swapKey_cases oldPosition newPosition with ⟨pair, _⟩ | ⟨pair, _⟩ <;> rw [pair]
    · exact .inl here
    · exact .inr here
  · exact (acked _ _ (swapKey_of_ordered ordered)).mp acknowledged.1
  · exact (acked _ _ (swapKey_swap_of_ordered ordered)).mp acknowledged.2
  · intro other inside acknowledged
    rw [coherent.acknowledged_entry idle found inside acknowledged]

theorem Coherent.cleanUp_eq (coherent : Coherent config p stage)
    (idle : p.controller.worker = .betweenHandlers) (posted : List Handler) :
    cleanUp (takeHandler p.controller posted) = takeHandler p.controller posted := by
  have clean : cleanUp p.controller = p.controller :=
    coherent.agrees.cleanUp_eq coherent.unfinished idle coherent.none_stopped
  have same : cleanUp (takeHandler p.controller posted) =
      takeHandler (cleanUp p.controller) posted := rfl
  rw [same, clean]

theorem Coherent.handles (coherent : Coherent config p stage)
    (idle : p.controller.worker = .betweenHandlers) {handler : Handler}
    (next : p.controller.posted = handler :: posted)
    (ran : Handles (takeHandler p.controller posted) handler later) :
    ∃ stage, Coherent config { p with controller := later } stage := by
  have clean := coherent.cleanUp_eq idle posted
  have quiet : isQuiet p.controller.worker = true := by rw [idle]; rfl
  cases ran with
  | registrationRefused | registrationStarts =>
      have registered := coherent.agrees.registered _ (by rw [next]; exact List.mem_cons_self)
      contradiction
  | receiverUnknown | chooses =>
      rw [clean]
      have taken := coherent.takes next rfl
      exact ⟨stage, taken.turns quiet rfl (taken.agrees.toSwapTable.transport rfl (.inr rfl))
        trivial (fun position readied => absurd readied List.not_mem_nil)⟩
  | swapUnknown _ _ unknown =>
      rw [clean] at unknown
      obtain ⟨_, _, _, table⟩ := coherent.agrees.next_ack idle next
      obtain ⟨entry, member, key⟩ := List.mem_map.mp table
      have different := List.lookup_eq_none_iff.mp unknown entry member
      simp [key] at different
  | acknowledged _ _ swap found open_ =>
      rw [clean] at found ⊢
      exact coherent.acknowledges idle next found open_
  | completes _ _ swap found both =>
      rw [clean] at found ⊢
      exact coherent.completes idle next found both
  | reconfigured robotPosition =>
      have running : removeStoppedRobots (takeHandler p.controller posted) =
          takeHandler p.controller posted :=
        removeStoppedRobots_eq coherent.none_stopped
      rw [running]
      have taken := coherent.takes next rfl
      exact ⟨stage, taken.updates resetAdaptivityFlag (fun _ => rfl)
        (fun _ => ⟨rfl, rfl, rfl, fun _ => rfl⟩) (.registered robotPosition)⟩

end Handlers

section Internal

variable {later : Controller}

theorem mayAdapt_registered {position : Position} (adapts : mayAdapt c position) :
    isRegistered c position := by
  unfold mayAdapt at adapts
  cases found : findRobot c position with
  | none => simp [found] at adapts
  | some robot => simp [isRegistered, found]

theorem internal_coherent (coherent : Coherent config p stage) {event : ControllerAgent.Event}
    (internal : isInternal event = true)
    (onBelt : TargetsOnBelt config p (.controller event)) {outputs : List Output}
    (step : ControllerAgent.Step config.controller p.controller event later outputs) :
    ∃ stage, Coherent config { p with controller := later } stage := by
  have table := step_table coherent.agrees.toSwapTable step
  have nobody : ∀ position ∈ ([] : List Position), ∀ endpoint ∈ config.endpoints,
      (stage endpoint).place = .registered position →
        stage endpoint = .free position ∧ (p.robots endpoint).robotState = .available :=
    fun position none => absurd none List.not_mem_nil
  have seen := fun capabilities => coherent.updates
    (fun robot : RemoteRobot =>
      { robot with capabilities := capabilities, initialCapabilitiesSubscription := false })
    (fun _ => rfl) (fun _ => ⟨rfl, rfl, rfl, id⟩)
  cases step with
  | registrationReceived | positionNoticed | positionChanged | robotStopped | robotRegistered
  | robotDropped | commitMissed | noCommitMissed | missedCommitted | firstCommitted
  | secondCommitted | notAvailable | firstAvailable | secondAvailable | robotAvailable
  | firstFailed | firstRefused | firstSwitches | onlySwitches | secondRefused | secondSwitches
  | reconfigurationInstructed => contradiction
  | requestReceived request => exact ⟨stage, coherent.posts rfl rfl⟩
  | capabilitiesNoticed place capabilities => exact ⟨stage, seen capabilities place⟩
  | capabilitiesChanged place capabilities =>
      exact ⟨stage, (seen capabilities place).posts rfl rfl⟩
  | receiverStopped receiver => exact ⟨stage, coherent.receivers _⟩
  | handled handler posted idle next ran => exact coherent.handles idle next ran
  | adaptationRefused => exact ⟨stage, coherent⟩
  | receiverInitialized request succeeded initializing =>
      have quiet : isQuiet p.controller.worker = true := by rw [initializing]; rfl
      cases succeeded with
      | true => exact ⟨stage, (coherent.receivers _).turns quiet rfl table trivial nobody⟩
      | false => exact ⟨stage, coherent.turns quiet rfl table trivial nobody⟩
  | swapChecked request fromPosition toPosition choosing different fromSettled toSettled adapts =>
      have quiet : isQuiet p.controller.worker = true := by rw [choosing]; rfl
      exact ⟨stage, coherent.turns quiet rfl table ⟨mayAdapt_registered adapts, onBelt⟩ nobody⟩
  | reconfigurationChecked request robotPosition profile choosing adapts =>
      have quiet : isQuiet p.controller.worker = true := by rw [choosing]; rfl
      exact ⟨stage, coherent.turns quiet rfl table (mayAdapt_registered adapts) nobody⟩
  | notAnswered position request choosing | answers position request choosing =>
      have quiet : isQuiet p.controller.worker = true := by rw [choosing]; rfl
      exact ⟨stage, coherent.turns quiet rfl table trivial nobody⟩
  | answered request robotPosition robotEndpoint reply answering =>
      have quiet : isQuiet p.controller.worker = true := by rw [answering]; rfl
      by_cases failed : reply = none
      · rw [if_pos failed] at table ⊢
        exact ⟨stage, (coherent.receivers _).turns quiet rfl table trivial nobody⟩
      · rw [if_neg failed] at table ⊢
        exact ⟨stage, coherent.turns quiet rfl table trivial nobody⟩

end Internal

end CpsKitchen.Rearrangement
