import CpsKitchen.ControllerAgent.Transitions

/-!
# The table of pending swaps

The pairs of positions in `pending_swaps_` are disjoint, and the positions the
worker is about to swap or to register a robot at are in none of them.
-/

namespace CpsKitchen.ControllerAgent

open CpsKitchen.Reactive CpsKitchen.Recipes

set_option autoImplicit false

variable {config : Config} {c after : Controller} {event : Event} {outputs : List Output}

section Robots

theorem findRobot_updateRobot (c : Controller) (position : Position)
    (change : RemoteRobot → RemoteRobot) (other : Position) :
    findRobot (updateRobot c position change) other =
      if other = position then (findRobot c position).map change else findRobot c other :=
  FiniteMap.lookup_modify position change c.positionRemoteRobotMap other

theorem findRobot_insertRobot (c : Controller) (position : Position) (robot : RemoteRobot)
    (other : Position) :
    findRobot (insertRobot c position robot) other =
      if other = position then some robot else findRobot c other :=
  FiniteMap.lookup_insert_eq c.positionRemoteRobotMap position other robot

theorem findRobot_eraseRobot (c : Controller) (position other : Position) :
    findRobot (eraseRobot c position) other =
      if other = position then none else findRobot c other :=
  FiniteMap.lookup_erase_eq c.positionRemoteRobotMap position other

theorem findRobot_removeStoppedRobots (c : Controller) (position : Position) :
    findRobot (removeStoppedRobots c) position =
      (findRobot c position).filter RemoteRobot.running :=
  FiniteMap.lookup_retain RemoteRobot.running c.positionRemoteRobotMap position

theorem findRobot_cleanUp {position : Position} {robot : RemoteRobot} :
    findRobot (cleanUp c) position = some robot ↔
      findRobot c position = some robot ∧ robot.running = true :=
  FiniteMap.lookup_retain_eq_some

theorem isRegistered_updateRobot {position other : Position}
    {change : RemoteRobot → RemoteRobot} :
    isRegistered (updateRobot c position change) other ↔ isRegistered c other := by
  unfold isRegistered
  rw [findRobot_updateRobot]
  split
  next same => rw [same, Option.isSome_map]
  · rfl

theorem isRegistered_updateAt {place : Place} {change : RemoteRobot → RemoteRobot}
    {other : Position} : isRegistered (updateAt c change place) other ↔ isRegistered c other := by
  cases place with
  | registered position => exact isRegistered_updateRobot
  | held =>
      unfold updateAt
      simp only
      split <;> rfl

theorem isRegistered_removeStoppedRobots {position : Position} :
    isRegistered (removeStoppedRobots c) position ↔
      isRegistered c position ∧ ¬ isStopped c position := by
  unfold isRegistered isStopped
  rw [findRobot_removeStoppedRobots]
  cases findRobot c position with
  | none => simp
  | some robot => cases running : robot.running <;> simp [running, Option.filter]

end Robots

section Keys

def swapKeys (c : Controller) : List SwapKey := c.pendingSwaps.map Prod.fst

theorem involves_swapKey {position first second : Position} :
    involves position (swapKey first second) ↔ position = first ∨ position = second := by
  unfold swapKey involves
  split
  · exact or_congr eq_comm eq_comm
  · rw [or_comm]
    exact or_congr eq_comm eq_comm

theorem swapKey_ordered {first second : Position} (different : first ≠ second) :
    (swapKey first second).1 < (swapKey first second).2 := by
  unfold swapKey
  split
  next below => exact below
  next notBelow => exact Nat.lt_of_le_of_ne (Nat.le_of_not_lt notBelow) different.symm

theorem isRobotPositionSwapping_iff {position : Position} :
    isRobotPositionSwapping c position ↔ ∃ key ∈ swapKeys c, involves position key := by
  simp only [isRobotPositionSwapping, swappingKey, List.find?_isSome, decide_eq_true_eq, swapKeys]

/-- The positions that the worker found not to be swapping. -/
def opens : Worker → List Position
  | .initializingRobot _ position => [position]
  | .checkingFirst _ fromPosition toPosition | .checkingSecond _ fromPosition toPosition
  | .switchingFirst _ fromPosition toPosition | .switchingSecond _ fromPosition toPosition =>
      [fromPosition, toPosition]
  | _ => []

def Completing : Worker → SwapKey → Prop
  | .committingFirst key _ _, other | .committingSecond key _, other => key = other
  | _, _ => False

theorem completing_unique {worker : Worker} {key other : SwapKey}
    (completing : Completing worker key) (also : Completing worker other) : key = other := by
  cases worker with
  | committingFirst | committingSecond => exact completing.symm.trans also
  | betweenHandlers | initializingRobot | readingPendingCommit | resolvingMissedCommit
  | initializingReceiver | choosing | checkingFirst | checkingSecond | switchingFirst
  | switchingSecond | checkingReconfiguration | reconfiguring | answering =>
      exact absurd completing id

structure SwapTable (c : Controller) : Prop where
  ordered : ∀ key ∈ swapKeys c, key.1 < key.2
  disjoint : (swapKeys c).Pairwise fun first second =>
    ∀ position, involves position first → ¬ involves position second
  opening : ∀ position ∈ opens c.worker, ∀ key ∈ swapKeys c, ¬ involves position key
  different : (opens c.worker).Nodup

/-- Entries may go, and the worker may give up what it was about to do. -/
theorem SwapTable.mono (table : SwapTable c) (keys : (swapKeys after).Sublist (swapKeys c))
    (worker : opens after.worker = opens c.worker ∨ opens after.worker = []) :
    SwapTable after where
  ordered := fun key member => table.ordered key (keys.subset member)
  disjoint := table.disjoint.sublist keys
  opening := by
    intro position opening key member
    rcases worker with same | none
    · rw [same] at opening
      exact table.opening position opening key (keys.subset member)
    · rw [none] at opening
      exact absurd opening List.not_mem_nil
  different := by
    rcases worker with same | none
    · rw [same]
      exact table.different
    · rw [none]
      exact List.nodup_nil

theorem SwapTable.transport (table : SwapTable c) (swaps : after.pendingSwaps = c.pendingSwaps)
    (worker : opens after.worker = opens c.worker ∨ opens after.worker = []) :
    SwapTable after := by
  have keys : swapKeys after = swapKeys c := congrArg (List.map Prod.fst) swaps
  exact table.mono (keys ▸ List.Sublist.refl _) worker

theorem SwapTable.opens_positions (table : SwapTable c) (positions : List Position)
    (settled : ∀ position ∈ positions, ¬ isRobotPositionSwapping c position)
    (different : positions.Nodup) (keys : swapKeys after = swapKeys c)
    (worker : opens after.worker = positions) : SwapTable after where
  ordered := by rw [keys]; exact table.ordered
  disjoint := by rw [keys]; exact table.disjoint
  opening := by
    intro position opening key member involved
    rw [worker] at opening
    rw [keys] at member
    exact settled position opening (isRobotPositionSwapping_iff.mpr ⟨key, member, involved⟩)
  different := by rw [worker]; exact different

theorem SwapTable.add (table : SwapTable c) (fromPosition toPosition : Position)
    (opening : opens c.worker = [fromPosition, toPosition])
    (keys : swapKeys after = swapKeys c ++ [swapKey fromPosition toPosition])
    (worker : opens after.worker = []) : SwapTable after where
  ordered := by
    intro key member
    rw [keys] at member
    rcases List.mem_append.mp member with before | new
    · exact table.ordered key before
    · rw [List.mem_singleton.mp new]
      have different := table.different
      rw [opening] at different
      exact swapKey_ordered (by simpa using different)
  disjoint := by
    rw [keys, List.pairwise_append]
    refine ⟨table.disjoint, List.pairwise_singleton _ _, ?_⟩
    intro key member new added position involved swapped
    rw [List.mem_singleton.mp added, involves_swapKey] at swapped
    refine table.opening position ?_ key member involved
    rw [opening]
    rcases swapped with rfl | rfl <;> simp
  opening := by
    rw [worker]
    exact fun position none => absurd none List.not_mem_nil
  different := by rw [worker]; exact List.nodup_nil

theorem SwapTable.unique (table : SwapTable c) {first second : SwapKey × SwapState}
    (firstMember : first ∈ c.pendingSwaps) (secondMember : second ∈ c.pendingSwaps)
    (same : first.1 = second.1) : first = second := by
  have nodup : (c.pendingSwaps.map Prod.fst).Nodup := by
    refine table.disjoint.imp ?_
    intro key other disjoint equal
    rw [equal] at disjoint
    exact disjoint other.1 (.inl rfl) (.inl rfl)
  exact List.inj_on_of_nodup_map nodup firstMember secondMember same

/-- No two swaps share a position. -/
theorem SwapTable.eq_of_involves (table : SwapTable c) {first second : SwapKey}
    (firstMember : first ∈ swapKeys c) (secondMember : second ∈ swapKeys c)
    {position : Position} (firstInvolved : involves position first)
    (secondInvolved : involves position second) : first = second := by
  by_contra different
  have symmetric : Std.Symm fun first second : SwapKey =>
      ∀ position, involves position first → ¬ involves position second :=
    ⟨fun _ _ apart position inside also => apart position also inside⟩
  exact table.disjoint.forall firstMember secondMember different position firstInvolved
    secondInvolved

theorem removeStoppedRobots_keys (c : Controller) :
    swapKeys (removeStoppedRobots c) = swapKeys c := by
  simp [swapKeys, removeStoppedRobots, acknowledgeStopped, Function.comp_def]

theorem cleanUp_keys (c : Controller) : (swapKeys (cleanUp c)).Sublist (swapKeys c) := by
  rw [← removeStoppedRobots_keys c]
  exact List.Sublist.map _ List.filter_sublist

theorem acknowledgeSwap_keys (c : Controller) (key : SwapKey) (oldPosition : Position) :
    swapKeys (acknowledgeSwap c key oldPosition) = swapKeys c := by
  simp only [swapKeys, acknowledgeSwap, List.map_map]
  refine List.map_congr_left ?_
  intro entry _
  simp only [Function.comp]
  split
  next same => exact same.symm
  · rfl

theorem mem_of_lookup {swaps : List (SwapKey × SwapState)} {key : SwapKey} {swap : SwapState}
    (found : swaps.lookup key = some swap) : (key, swap) ∈ swaps := by
  obtain ⟨before, rest, split, _⟩ := List.lookup_eq_some_iff.mp found
  rw [split]
  exact List.mem_append_right before List.mem_cons_self

theorem mem_acknowledgeSwap {key : SwapKey} {oldPosition : Position}
    {entry : SwapKey × SwapState}
    (member : entry ∈ (acknowledgeSwap c key oldPosition).pendingSwaps) :
    entry ∈ c.pendingSwaps ∧ entry.1 ≠ key ∨
      ∃ before ∈ c.pendingSwaps, before.1 = key ∧
        entry = (key, before.2.acknowledge key oldPosition) := by
  obtain ⟨before, earlier, same⟩ := List.mem_map.mp member
  split at same
  next here => exact .inr ⟨before, earlier, here, same.symm⟩
  next elsewhere =>
    rw [← same]
    exact .inl ⟨earlier, elsewhere⟩

theorem newSwap_open (fromPosition toPosition : Position) (acknowledged : Bool) :
    (newSwap fromPosition toPosition acknowledged).isAcknowledged = false := by
  rw [Bool.eq_false_iff]
  intro both
  simp only [newSwap, SwapState.isAcknowledged, Bool.and_eq_true, decide_eq_true_eq] at both
  exact Nat.lt_asymm both.1.2 both.2.2

theorem eraseSwap_keys (c : Controller) (key : SwapKey) :
    (swapKeys (eraseSwap c key)).Sublist (swapKeys c) :=
  List.Sublist.map _ List.filter_sublist

theorem opens_updateAt (change : RemoteRobot → RemoteRobot) (place : Place) :
    opens (updateAt c change place).worker = opens c.worker := by
  cases place with
  | registered position => rfl
  | held =>
      unfold updateAt
      simp only
      split
      next robot position initializing => rw [initializing]; rfl
      next key second position committing => rw [committing]; rfl
      · rfl

theorem completing_updateAt (change : RemoteRobot → RemoteRobot) (place : Place) (key : SwapKey) :
    Completing (updateAt c change place).worker key ↔ Completing c.worker key := by
  cases place with
  | registered position => rfl
  | held =>
      unfold updateAt
      simp only
      split
      next robot position initializing => rw [initializing]; rfl
      next key second position committing => rw [committing]; rfl
      · rfl

theorem pendingSwaps_updateAt (change : RemoteRobot → RemoteRobot) (place : Place) :
    (updateAt c change place).pendingSwaps = c.pendingSwaps := by
  cases place with
  | registered position => rfl
  | held =>
      unfold updateAt
      simp only
      split <;> rfl

theorem posted_updateAt (change : RemoteRobot → RemoteRobot) (place : Place) :
    (updateAt c change place).posted = c.posted := by
  cases place with
  | registered position => rfl
  | held =>
      unfold updateAt
      simp only
      split <;> rfl

theorem running_updateAt (change : RemoteRobot → RemoteRobot) (place : Place) :
    (updateAt c change place).running = c.running := by
  cases place with
  | registered position => rfl
  | held =>
      unfold updateAt
      simp only
      split <;> rfl

theorem completeSwap_same (c : Controller) (key : SwapKey) :
    (completeSwap c key).posted = c.posted ∧ (completeSwap c key).running = c.running := by
  unfold completeSwap commitSecond
  simp only
  split
  · split <;> exact ⟨rfl, rfl⟩
  · exact ⟨rfl, rfl⟩

theorem handles_same {handler : Handler} (ran : Handles c handler after) :
    after.posted = c.posted ∧ after.running = c.running := by
  cases ran with
  | completes => exact completeSwap_same _ _
  | registrationRefused | registrationStarts | receiverUnknown | chooses | swapUnknown
  | acknowledged | reconfigured => exact ⟨rfl, rfl⟩

theorem commitSecond_keys (c : Controller) (key : SwapKey) (second : Option RemoteRobot) :
    (swapKeys (commitSecond c key second)).Sublist (swapKeys c) ∧
      opens (commitSecond c key second).worker = [] := by
  cases second with
  | none => exact ⟨eraseSwap_keys c key, rfl⟩
  | some second => exact ⟨List.Sublist.refl _, rfl⟩

theorem completeSwap_keys (c : Controller) (key : SwapKey) :
    (swapKeys (completeSwap c key)).Sublist (swapKeys c) ∧
      opens (completeSwap c key).worker = [] := by
  unfold completeSwap
  simp only
  split
  · exact commitSecond_keys (eraseRobot (eraseRobot c key.1) key.2) key _
  · exact ⟨List.Sublist.refl _, rfl⟩

theorem handles_table (table : SwapTable c) {handler : Handler} (ran : Handles c handler after) :
    SwapTable after := by
  have cleaned : SwapTable (cleanUp c) := table.mono (cleanUp_keys c) (.inl rfl)
  cases ran with
  | registrationRefused | swapUnknown => exact cleaned
  | registrationStarts endpoint position capabilities settled =>
      refine cleaned.opens_positions [position] ?_ (List.nodup_singleton position)
        rfl rfl
      intro other member
      rw [List.mem_singleton.mp member]
      exact settled
  | receiverUnknown | chooses => exact cleaned.transport rfl (.inr rfl)
  | acknowledged =>
      refine cleaned.mono ?_ (.inl rfl)
      rw [acknowledgeSwap_keys]
  | completes oldPosition newPosition =>
      obtain ⟨keys, worker⟩ := completeSwap_keys
        (acknowledgeSwap (cleanUp c) (swapKey oldPosition newPosition) oldPosition)
        (swapKey oldPosition newPosition)
      rw [acknowledgeSwap_keys] at keys
      exact cleaned.mono keys (.inr worker)
  | reconfigured robotPosition =>
      refine table.mono ?_ (.inl rfl)
      have same : swapKeys (updateRobot (removeStoppedRobots c) robotPosition
          resetAdaptivityFlag) = swapKeys (removeStoppedRobots c) := rfl
      rw [same, removeStoppedRobots_keys]

theorem checkSecond_table (table : SwapTable c) {request : Request}
    {fromPosition toPosition : Position}
    (checking : c.worker = .checkingFirst request fromPosition toPosition) :
    SwapTable (checkSecond c request fromPosition toPosition) := by
  have opening : opens c.worker = [fromPosition, toPosition] := by rw [checking]; rfl
  unfold checkSecond
  split
  · exact table.transport rfl (.inl opening.symm)
  · split
    · exact table.transport rfl (.inl opening.symm)
    · exact table.transport rfl (.inr rfl)

theorem step_table (table : SwapTable c) (step : Step config c event after outputs) :
    SwapTable after := by
  cases step with
  | registrationReceived | requestReceived | receiverStopped | adaptationRefused =>
      exact table.transport rfl (.inl rfl)
  | positionNoticed place | positionChanged place | capabilitiesNoticed place
  | capabilitiesChanged place | robotStopped place =>
      exact table.transport (pendingSwaps_updateAt _ place) (.inl (opens_updateAt _ place))
  | handled handler posted idle next ran =>
      have taken : SwapTable (takeHandler c posted) :=
        table.transport rfl (.inl rfl)
      exact handles_table taken ran
  | robotRegistered robot position initializing =>
      refine table.transport ?_ (.inr ?_)
      · unfold resolveMissedNewPositionCommit
        split
        · rfl
        · split <;> rfl
      · unfold resolveMissedNewPositionCommit
        split
        · rfl
        · split <;> rfl
  | robotDropped | commitMissed | noCommitMissed | missedCommitted | reconfigurationChecked
  | notAvailable | robotAvailable | firstFailed | firstRefused | secondRefused
  | reconfigurationInstructed | notAnswered | answers =>
      exact table.transport rfl (.inr rfl)
  | receiverInitialized request succeeded =>
      refine table.transport ?_ (.inr rfl)
      cases succeeded <;> rfl
  | answered request robotPosition robotEndpoint reply =>
      refine table.transport ?_ (.inr rfl)
      cases reply <;> rfl
  | firstCommitted key second position reply =>
      obtain ⟨keys, worker⟩ := commitSecond_keys (updateRobot c position (afterCall reply)) key
        second
      exact table.mono keys (.inr worker)
  | secondCommitted key position reply =>
      exact table.mono (eraseSwap_keys (updateRobot c position (afterCall reply)) key) (.inr rfl)
  | swapChecked request fromPosition toPosition choosing different fromSettled toSettled =>
      refine table.opens_positions [fromPosition, toPosition] ?_
        (by simpa using different) rfl rfl
      intro position member
      rcases List.mem_cons.mp member with rfl | second
      · exact fromSettled
      · rw [List.mem_singleton.mp second]
        exact toSettled
  | firstAvailable request fromPosition toPosition checking =>
      exact checkSecond_table table checking
  | secondAvailable request fromPosition toPosition checking =>
      exact table.transport rfl (.inl (by rw [checking]; rfl))
  | firstSwitches request fromPosition toPosition switching =>
      exact table.transport rfl (.inl (by rw [switching]; rfl))
  | onlySwitches request fromPosition toPosition switching =>
      refine table.add fromPosition toPosition
        (by rw [switching]; rfl) ?_ rfl
      exact List.map_append
  | secondSwitches request fromPosition toPosition reply switching =>
      refine table.add fromPosition toPosition
        (by rw [switching]; rfl) ?_ rfl
      exact List.map_append

theorem initial_table : SwapTable initial := by
  constructor <;> simp [initial, swapKeys, opens]

end Keys

end CpsKitchen.ControllerAgent
