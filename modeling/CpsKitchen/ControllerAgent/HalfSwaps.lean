import CpsKitchen.Reactive.Pipeline
import CpsKitchen.ControllerAgent.Swaps

/-!
# No half finished swap

A swap is complete when both positions are acknowledged. The robots that are
left return under their new positions, are told to commit and the entry goes
away, all in the handler of the last acknowledgement. But a robot that stops
acknowledges too, and no handler completes the swap then.
-/

namespace CpsKitchen.ControllerAgent

open CpsKitchen.Reactive CpsKitchen.Recipes

set_option autoImplicit false

variable {config : Config} {c after : Controller} {event : Event} {outputs : List Output}

def isRunning (c : Controller) (position : Position) : Prop :=
  isRegistered c position ∧ ¬ isStopped c position

instance (c : Controller) (position : Position) : Decidable (isRunning c position) :=
  inferInstanceAs (Decidable (_ ∧ _))

/-- One robot of the swap is acknowledged and running, the other one has
stopped since. -/
def EndangersSwap (c : Controller) (entry : SwapKey × SwapState) : Prop :=
  isRunning c entry.1.1 ∧ isStopped c entry.1.2 ∧ entry.2.ackFromLowerPosition = true ∨
    isRunning c entry.1.2 ∧ isStopped c entry.1.1 ∧ entry.2.ackFromGreaterPosition = true

instance (c : Controller) (entry : SwapKey × SwapState) : Decidable (EndangersSwap c entry) :=
  inferInstanceAs (Decidable (_ ∨ _))

def Handler.acknowledges (key : SwapKey) : Handler → Prop
  | .positionSwapped oldPosition newPosition => swapKey oldPosition newPosition = key
  | _ => False

instance (key : SwapKey) : (handler : Handler) → Decidable (handler.acknowledges key)
  | .positionSwapped oldPosition newPosition =>
      inferInstanceAs (Decidable (swapKey oldPosition newPosition = key))
  | .handleRobotRegistration _ _ _ | .handleNextRobotRequest _ | .capabilitiesReconfigured _ =>
      isFalse id

/-- No handler starts while a swap waits for a robot that has stopped and
whose partner is acknowledged, unless it is itself an acknowledgement of that
swap. -/
def NoLateDeath (c : Controller) (event : Event) : Prop :=
  event = .runHandler → ∀ entry ∈ c.pendingSwaps, EndangersSwap c entry →
    ∃ handler ∈ c.posted.head?, handler.acknowledges entry.1

instance (c : Controller) (event : Event) : Decidable (NoLateDeath c event) :=
  inferInstanceAs (Decidable (_ → _))

structure NoHalfSwap (c : Controller) : Prop extends SwapTable c where
  settled : (∀ key, ¬ Completing c.worker key) → ∀ entry ∈ c.pendingSwaps,
    entry.2.isAcknowledged = true → ∀ position, involves position entry.1 →
      ¬ isRegistered c position
  completing : ∀ key, Completing c.worker key → ∀ entry ∈ c.pendingSwaps,
    entry.2.isAcknowledged = true → entry.1 = key

theorem NoHalfSwap.transport (half : NoHalfSwap c) (table : SwapTable after)
    (swaps : after.pendingSwaps = c.pendingSwaps)
    (registered : ∀ position, isRegistered after position → isRegistered c position)
    (worker : ∀ key, Completing after.worker key ↔ Completing c.worker key) :
    NoHalfSwap after where
  toSwapTable := table
  settled := by
    intro idle entry member both position involved here
    rw [swaps] at member
    refine half.settled ?_ entry member both position involved (registered position here)
    intro key completing
    exact idle key ((worker key).mpr completing)
  completing := by
    intro key completing entry member both
    rw [swaps] at member
    exact half.completing key ((worker key).mp completing) entry member both

theorem noHalfSwap_of_open (table : SwapTable c)
    (open_ : ∀ entry ∈ c.pendingSwaps, entry.2.isAcknowledged = false) : NoHalfSwap c where
  toSwapTable := table
  settled := by
    intro _ entry member both
    rw [open_ entry member] at both
    contradiction
  completing := by
    intro _ _ entry member both
    rw [open_ entry member] at both
    contradiction

/-- The worker completes the only swap that is acknowledged twice. -/
theorem noHalfSwap_of_completing (table : SwapTable c) (key : SwapKey)
    (completing : Completing c.worker key)
    (only : ∀ entry ∈ c.pendingSwaps, entry.2.isAcknowledged = true → entry.1 = key) :
    NoHalfSwap c where
  toSwapTable := table
  settled := fun idle => absurd completing (idle key)
  completing := by
    intro other also entry member both
    rw [only entry member both]
    exact completing_unique completing also

theorem acknowledgeStopped_endangers (half : NoHalfSwap c) (idle : c.worker = .betweenHandlers)
    {entry : SwapKey × SwapState} (member : entry ∈ c.pendingSwaps)
    (both : (acknowledgeStopped c entry).2.isAcknowledged = true) :
    (∀ position, involves position entry.1 → ¬ isRegistered (removeStoppedRobots c) position) ∨
      EndangersSwap c entry := by
  have gone : ∀ position, isStopped c position →
      ¬ isRegistered (removeStoppedRobots c) position := by
    intro position stopped registered
    exact (isRegistered_removeStoppedRobots.mp registered).2 stopped
  simp only [acknowledgeStopped, SwapState.isAcknowledged, Bool.and_eq_true, Bool.or_eq_true,
    decide_eq_true_eq] at both
  obtain ⟨lower, greater⟩ := both
  have unregistered : ¬ isRegistered (removeStoppedRobots c) entry.1.1 →
      ¬ isRegistered (removeStoppedRobots c) entry.1.2 →
      ∀ position, involves position entry.1 →
        ¬ isRegistered (removeStoppedRobots c) position := by
    intro first second position involved
    rcases involved with rfl | rfl
    · exact first
    · exact second
  rcases lower with lower | ⟨stoppedLower, _⟩
  · rcases greater with greater | ⟨stoppedGreater, _⟩
    · left
      have notCompleting : ∀ key, ¬ Completing c.worker key := by
        intro key
        rw [idle]
        exact id
      intro position involved registered
      have acknowledged : entry.2.isAcknowledged = true := by
        rw [SwapState.isAcknowledged, lower, greater]
        rfl
      exact half.settled notCompleting entry member acknowledged position involved
        (isRegistered_removeStoppedRobots.mp registered).1
    · by_cases registered : isRegistered (removeStoppedRobots c) entry.1.1
      · exact .inr (.inl ⟨isRegistered_removeStoppedRobots.mp registered, stoppedGreater, lower⟩)
      · exact .inl (unregistered registered (gone _ stoppedGreater))
  · rcases greater with greater | ⟨stoppedGreater, _⟩
    · by_cases registered : isRegistered (removeStoppedRobots c) entry.1.2
      · exact .inr (.inr ⟨isRegistered_removeStoppedRobots.mp registered, stoppedLower, greater⟩)
      · exact .inl (unregistered (gone _ stoppedLower) registered)
    · exact .inl (unregistered (gone _ stoppedLower) (gone _ stoppedGreater))

/-- After the cleaning up only an entry in danger is acknowledged twice. -/
theorem cleanUp_endangers (half : NoHalfSwap c) (idle : c.worker = .betweenHandlers)
    {entry : SwapKey × SwapState} (member : entry ∈ (cleanUp c).pendingSwaps)
    (both : entry.2.isAcknowledged = true) :
    ∃ before ∈ c.pendingSwaps, before.1 = entry.1 ∧ EndangersSwap c before := by
  obtain ⟨removed, registered⟩ := List.mem_filter.mp member
  obtain ⟨before, earlier, rfl⟩ := List.mem_map.mp removed
  have registered : isRegistered (removeStoppedRobots c) before.1.1 ∨
      isRegistered (removeStoppedRobots c) before.1.2 := of_decide_eq_true registered
  rcases acknowledgeStopped_endangers half idle earlier both with unregistered | endangers
  · rcases registered with lower | greater
    · exact absurd lower (unregistered _ (.inl rfl))
    · exact absurd greater (unregistered _ (.inr rfl))
  · exact ⟨before, earlier, rfl, endangers⟩

theorem cleanUp_acknowledged (half : NoHalfSwap c) (idle : c.worker = .betweenHandlers)
    {handler : Handler}
    (safe : ∀ entry ∈ c.pendingSwaps, EndangersSwap c entry → handler.acknowledges entry.1)
    {entry : SwapKey × SwapState} (member : entry ∈ (cleanUp c).pendingSwaps)
    (both : entry.2.isAcknowledged = true) : handler.acknowledges entry.1 := by
  obtain ⟨before, earlier, same, endangers⟩ := cleanUp_endangers half idle member both
  rw [← same]
  exact safe before earlier endangers

theorem eraseSwap_open {key : SwapKey}
    (only : ∀ entry ∈ c.pendingSwaps, entry.2.isAcknowledged = true → entry.1 = key) :
    ∀ entry ∈ (eraseSwap c key).pendingSwaps, entry.2.isAcknowledged = false := by
  intro entry member
  obtain ⟨earlier, different⟩ := List.mem_filter.mp member
  cases both : entry.2.isAcknowledged with
  | false => rfl
  | true => exact absurd (only entry earlier both) (of_decide_eq_true different)

theorem commitSecond_half {key : SwapKey} {second : Option RemoteRobot}
    (table : SwapTable (commitSecond c key second))
    (only : ∀ entry ∈ c.pendingSwaps, entry.2.isAcknowledged = true → entry.1 = key) :
    NoHalfSwap (commitSecond c key second) := by
  cases second with
  | none => exact noHalfSwap_of_open table (eraseSwap_open only)
  | some second => exact noHalfSwap_of_completing table key rfl only

theorem completeSwap_half (table : SwapTable c) {key : SwapKey}
    (only : ∀ entry ∈ c.pendingSwaps, entry.2.isAcknowledged = true → entry.1 = key) :
    NoHalfSwap (completeSwap c key) := by
  obtain ⟨keys, worker⟩ := completeSwap_keys c key
  have shrunk : SwapTable (completeSwap c key) := table.mono keys (.inr worker)
  unfold completeSwap at shrunk ⊢
  simp only at shrunk ⊢
  split at shrunk
  · exact commitSecond_half shrunk only
  · exact noHalfSwap_of_completing shrunk key rfl only

theorem handles_half (half : NoHalfSwap c) (idle : c.worker = .betweenHandlers)
    {handler : Handler}
    (safe : ∀ entry ∈ c.pendingSwaps, EndangersSwap c entry → handler.acknowledges entry.1)
    (ran : Handles c handler after) : NoHalfSwap after := by
  have table := handles_table half.toSwapTable ran
  have cleaned := half.toSwapTable.mono (cleanUp_keys c) (.inl rfl)
  have acknowledged : ∀ entry ∈ (cleanUp c).pendingSwaps, entry.2.isAcknowledged = true →
      handler.acknowledges entry.1 :=
    fun _ member both => cleanUp_acknowledged half idle safe member both
  cases ran with
  | registrationRefused | registrationStarts | receiverUnknown | chooses =>
      refine noHalfSwap_of_open table ?_
      intro entry member
      cases both : entry.2.isAcknowledged with
      | false => rfl
      | true => exact absurd (acknowledged entry member both) id
  | swapUnknown oldPosition newPosition unknown =>
      refine noHalfSwap_of_open table ?_
      intro entry member
      cases both : entry.2.isAcknowledged with
      | false => rfl
      | true =>
          have same : swapKey oldPosition newPosition = entry.1 := acknowledged entry member both
          rw [same] at unknown
          have different := List.lookup_eq_none_iff.mp unknown entry member
          simp at different
  | acknowledged oldPosition newPosition swap found open_ =>
      obtain ⟨_, _, split, _⟩ := List.lookup_eq_some_iff.mp found
      have here : (swapKey oldPosition newPosition, swap) ∈ (cleanUp c).pendingSwaps := by
        rw [split]
        simp
      refine noHalfSwap_of_open table ?_
      intro entry member
      rcases mem_acknowledgeSwap member with ⟨earlier, different⟩ | ⟨before, earlier, same, new⟩
      · cases both : entry.2.isAcknowledged with
        | false => rfl
        | true => exact absurd (acknowledged entry earlier both).symm different
      · have unique := cleaned.unique earlier here same
        rw [new, unique]
        exact open_
  | completes oldPosition newPosition swap found both =>
      have marked : SwapTable (acknowledgeSwap (cleanUp c) (swapKey oldPosition newPosition)
          oldPosition) := cleaned.mono (by rw [acknowledgeSwap_keys]) (.inl rfl)
      refine completeSwap_half marked ?_
      intro entry member both
      rcases mem_acknowledgeSwap member with ⟨earlier, _⟩ | ⟨before, _, _, new⟩
      · exact (acknowledged entry earlier both).symm
      · rw [new]
  | reconfigured robotPosition =>
      have notCompleting : ∀ key, ¬ Completing (updateRobot (removeStoppedRobots c) robotPosition
          resetAdaptivityFlag).worker key := by
        intro key completing
        have same : (updateRobot (removeStoppedRobots c) robotPosition
          resetAdaptivityFlag).worker = c.worker := rfl
        rw [same, idle] at completing
        exact completing
      refine ⟨table, ?_, fun key completing => absurd completing (notCompleting key)⟩
      intro _ entry member both position involved registered
      obtain ⟨before, earlier, rfl⟩ := List.mem_map.mp member
      have registered := isRegistered_updateRobot.mp registered
      rcases acknowledgeStopped_endangers half idle earlier both with unregistered | endangers
      · exact unregistered position involved registered
      · exact safe before earlier endangers

theorem NoHalfSwap.elsewhere (half : NoHalfSwap c) (table : SwapTable after)
    (swaps : after.pendingSwaps = c.pendingSwaps)
    (registered : ∀ position, isRegistered after position → isRegistered c position)
    (before : ∀ key, ¬ Completing c.worker key) (later : ∀ key, ¬ Completing after.worker key) :
    NoHalfSwap after :=
  half.transport table swaps registered
    (fun key => ⟨fun completing => absurd completing (later key),
      fun completing => absurd completing (before key)⟩)

theorem registered_half (half : NoHalfSwap c) (table : SwapTable after) {robot : RemoteRobot}
    {position : Position} (initializing : c.worker = .initializingRobot robot position)
    (swaps : after.pendingSwaps = c.pendingSwaps)
    (robots : ∀ other, findRobot after other =
      if other = position then some robot else findRobot c other)
    (later : ∀ key, ¬ Completing after.worker key) : NoHalfSwap after where
  toSwapTable := table
  settled := by
    intro _ entry member both other involved registered
    rw [swaps] at member
    have notHere : other ≠ position := by
      intro here
      refine half.opening other ?_ entry.1 (List.mem_map_of_mem member) involved
      rw [initializing, here]
      exact List.mem_singleton_self position
    rw [isRegistered, robots, if_neg notHere] at registered
    refine half.settled ?_ entry member both other involved registered
    intro key
    rw [initializing]
    exact id
  completing := fun key completing => absurd completing (later key)

theorem added_half (half : NoHalfSwap c) (table : SwapTable after)
    {fromPosition toPosition : Position} {acknowledged : Bool}
    (swaps : after.pendingSwaps = c.pendingSwaps ++
      [(swapKey fromPosition toPosition, newSwap fromPosition toPosition acknowledged)])
    (registered : ∀ position, isRegistered after position → isRegistered c position)
    (before : ∀ key, ¬ Completing c.worker key) (later : ∀ key, ¬ Completing after.worker key) :
    NoHalfSwap after where
  toSwapTable := table
  settled := by
    intro _ entry member both position involved here
    rw [swaps] at member
    rcases List.mem_append.mp member with earlier | new
    · exact half.settled before entry earlier both position involved (registered position here)
    · rw [List.mem_singleton.mp new, newSwap_open] at both
      contradiction
  completing := fun key completing => absurd completing (later key)

theorem step_half (half : NoHalfSwap c) (permitted : NoLateDeath c event)
    (step : Step config c event after outputs) : NoHalfSwap after := by
  have table := step_table half.toSwapTable step
  cases step with
  | registrationReceived | requestReceived | receiverStopped =>
      exact half.transport table rfl (fun _ => id) (fun _ => Iff.rfl)
  | adaptationRefused => exact half
  | positionNoticed place | positionChanged place | capabilitiesNoticed place
  | capabilitiesChanged place | robotStopped place =>
      exact half.transport table (pendingSwaps_updateAt _ place)
        (fun _ => isRegistered_updateAt.mp) (completing_updateAt _ place)
  | handled handler posted idle next ran =>
      have taken : NoHalfSwap (takeHandler c posted) :=
        half.transport (half.toSwapTable.transport rfl (.inl rfl)) rfl (fun _ => id)
          (fun _ => Iff.rfl)
      refine handles_half taken idle ?_ ran
      intro entry member endangers
      obtain ⟨first, front, acknowledges⟩ := permitted rfl entry member endangers
      rw [next, List.head?_cons, Option.mem_some_iff] at front
      rw [front]
      exact acknowledges
  | robotRegistered robot position initializing =>
      refine registered_half half table initializing ?_ ?_ ?_
      · unfold resolveMissedNewPositionCommit
        split
        · rfl
        · split <;> rfl
      · intro other
        rw [← findRobot_insertRobot]
        unfold resolveMissedNewPositionCommit
        split
        · rfl
        · split <;> rfl
      · intro key
        unfold resolveMissedNewPositionCommit
        split
        · exact id
        · split <;> exact id
  | robotDropped _ _ working | commitMissed _ working =>
      exact half.elsewhere table rfl (fun _ => id) (by rw [working]; exact fun _ => id)
        (fun _ => id)
  | noCommitMissed _ _ working | missedCommitted _ _ working =>
      exact half.elsewhere table rfl (fun _ => isRegistered_updateRobot.mp)
        (by rw [working]; exact fun _ => id) (fun _ => id)
  | firstCommitted key second position reply committing =>
      refine commitSecond_half table (half.completing key ?_)
      rw [committing]
      rfl
  | secondCommitted key position reply committing =>
      refine noHalfSwap_of_open table (eraseSwap_open (half.completing key ?_))
      rw [committing]
      rfl
  | receiverInitialized request succeeded initializing =>
      refine half.elsewhere table ?_ ?_ (by rw [initializing]; exact fun _ => id) (fun _ => id)
      · cases succeeded <;> rfl
      · cases succeeded <;> exact fun _ => id
  | notAvailable request position answer checking =>
      refine half.elsewhere table rfl (fun _ => isRegistered_updateRobot.mp) ?_ (fun _ => id)
      intro key
      generalize c.worker = worker at checking
      cases checking <;> exact id
  | firstAvailable request fromPosition toPosition checking =>
      have later : ∀ key, ¬ Completing (checkSecond c request fromPosition toPosition).worker
          key := by
        intro key
        unfold checkSecond
        split
        · exact id
        · split <;> exact id
      refine half.elsewhere table ?_ ?_ (by rw [checking]; exact fun _ => id) later
      · unfold checkSecond
        split
        · rfl
        · split <;> rfl
      · intro position
        unfold checkSecond
        split
        · exact id
        · split <;> exact id
  | swapChecked _ _ _ working | reconfigurationChecked _ _ _ working
  | secondAvailable _ _ _ working | robotAvailable _ _ _ working | firstRefused _ _ _ working
  | secondRefused _ _ _ working | notAnswered _ _ working | answers _ _ working =>
      exact half.elsewhere table rfl (fun _ => id) (by rw [working]; exact fun _ => id)
        (fun _ => id)
  | firstFailed _ _ _ working | firstSwitches _ _ _ working
  | reconfigurationInstructed _ _ _ _ working =>
      exact half.elsewhere table rfl (fun _ => isRegistered_updateRobot.mp)
        (by rw [working]; exact fun _ => id) (fun _ => id)
  | onlySwitches _ _ _ working | secondSwitches _ _ _ _ working =>
      exact added_half half table rfl (fun _ => isRegistered_updateRobot.mp)
        (by rw [working]; exact fun _ => id) (fun _ => id)
  | answered request robotPosition robotEndpoint reply answering =>
      refine half.elsewhere table ?_ ?_ (by rw [answering]; exact fun _ => id) (fun _ => id)
      · cases reply <;> rfl
      · cases reply <;> exact fun _ => id

theorem initial_half : NoHalfSwap initial :=
  noHalfSwap_of_open initial_table (by simp [initial])

theorem reaches_half {history : History Event Output}
    (reached : (machine config).Reaches NoLateDeath history c) : NoHalfSwap c :=
  reached.invariant (fun _ started => by cases started; exact initial_half)
    (fun _ _ _ _ half permitted taken => step_half half permitted (step_cases taken))

section Completion

theorem eraseSwap_erased (c : Controller) (key : SwapKey) : key ∉ swapKeys (eraseSwap c key) := by
  intro member
  obtain ⟨entry, here, same⟩ := List.mem_map.mp member
  exact absurd same (of_decide_eq_true (List.mem_filter.mp here).2)

/-- The completion of a swap goes on until its entry is erased. -/
theorem step_completing {key : SwapKey} (completing : Completing c.worker key)
    (step : Step config c event after outputs) :
    Completing after.worker key ∨ after.worker = .betweenHandlers ∧ key ∉ swapKeys after := by
  cases step with
  | registrationReceived | requestReceived | receiverStopped | adaptationRefused =>
      exact .inl completing
  | positionNoticed place | positionChanged place | capabilitiesNoticed place
  | capabilitiesChanged place | robotStopped place =>
      exact .inl ((completing_updateAt _ place key).mpr completing)
  | firstCommitted other second position reply committing =>
      rw [committing] at completing
      cases completing
      cases second with
      | none => exact .inr ⟨rfl, eraseSwap_erased _ key⟩
      | some second => exact .inl rfl
  | secondCommitted other position reply committing =>
      rw [committing] at completing
      cases completing
      exact .inr ⟨rfl, eraseSwap_erased _ _⟩
  | handled _ _ working | robotRegistered _ _ working | robotDropped _ _ working
  | commitMissed _ working | noCommitMissed _ _ working | missedCommitted _ _ working
  | receiverInitialized _ _ working | swapChecked _ _ _ working
  | reconfigurationChecked _ _ _ working | firstAvailable _ _ _ working
  | secondAvailable _ _ _ working | robotAvailable _ _ _ working | firstFailed _ _ _ working
  | firstRefused _ _ _ working | firstSwitches _ _ _ working | onlySwitches _ _ _ working
  | secondRefused _ _ _ working | secondSwitches _ _ _ _ working
  | reconfigurationInstructed _ _ _ _ working | notAnswered _ _ working | answers _ _ working
  | answered _ _ _ _ working =>
      rw [working] at completing
      exact absurd completing id
  | notAvailable request position answer checking =>
      generalize c.worker = worker at checking completing
      cases checking <;> exact absurd completing id

def survivors (c : Controller) (key : SwapKey) : List RemoteRobot :=
  [findRobot c key.1, findRobot c key.2].reduceOption

/-- What a completed swap leaves: its entry is gone, every robot that is left
was told to commit and stands under its new position with its flag reset, and
nothing else moved. -/
structure SwapCompleted (c : Controller) (key : SwapKey) (replies : List (Option Bool))
    (outputs : List Output) (final : Controller) : Prop where
  worker : final.worker = .betweenHandlers
  erased : key ∉ swapKeys final
  told : outputs = ((survivors c key).zip replies).map fun commit =>
    .commitInstructed commit.1.endpoint commit.1.position commit.2
  returned : ((survivors c key).map RemoteRobot.position).Nodup →
    ∀ commit ∈ (survivors c key).zip replies, findRobot final commit.1.position =
      some (afterCall commit.2 (resetAdaptivityFlag commit.1))
  others : ∀ position, position ∉ (survivors c key).map RemoteRobot.position →
    findRobot final position = if involves position key then none else findRobot c position

theorem erased_findRobot (c : Controller) (key : SwapKey) (position : Position) :
    findRobot (eraseRobot (eraseRobot c key.1) key.2) position =
      if involves position key then none else findRobot c position := by
  rw [findRobot_eraseRobot, findRobot_eraseRobot]
  by_cases involved : involves position key
  · rw [if_pos involved]
    rcases involved with rfl | rfl
    · simp
    · simp
  · have lower : position ≠ key.1 := fun same => involved (.inl same.symm)
    have greater : position ≠ key.2 := fun same => involved (.inr same.symm)
    rw [if_neg greater, if_neg lower, if_neg involved]

theorem told_findRobot (c : Controller) (position : Position) (robot : RemoteRobot)
    (reply : Option Bool) (other : Position) :
    findRobot (updateRobot (insertRobot c position robot) position (afterCall reply)) other =
      if other = position then some (afterCall reply robot) else findRobot c other := by
  rw [findRobot_updateRobot, findRobot_insertRobot, findRobot_insertRobot, if_pos rfl]
  split
  · rfl
  · rfl

theorem endpointAt_insertRobot (c : Controller) (position : Position) (robot : RemoteRobot) :
    endpointAt (insertRobot c position robot) position = robot.endpoint := by
  rw [endpointAt, findRobot_insertRobot, if_pos rfl]
  rfl

theorem second_committed (config : Config) (c : Controller) (key : SwapKey)
    (second : RemoteRobot) (reply : Option Bool) :
    step config (commitSecond c key (some second)) (.newPositionCommitted reply) =
      some
        (setWorker
          (eraseSwap
            (updateRobot
              (setWorker (insertRobot c second.position (resetAdaptivityFlag second))
                (.committingSecond key second.position))
              second.position (afterCall reply)) key) .betweenHandlers,
          [.commitInstructed second.endpoint second.position reply]) := by
  have endpoint := endpointAt_insertRobot c second.position (resetAdaptivityFlag second)
  have same : endpointAt (setWorker (insertRobot c second.position (resetAdaptivityFlag second))
      (.committingSecond key second.position)) second.position = second.endpoint := endpoint
  simp only [step, newPositionCommitted, commitSecond, setWorker] at same ⊢
  rw [same]

theorem first_committed (config : Config) (c : Controller) (key : SwapKey) (first : RemoteRobot)
    (second : Option RemoteRobot) (reply : Option Bool) :
    step config
        (setWorker (insertRobot c first.position (resetAdaptivityFlag first))
          (.committingFirst key second first.position)) (.newPositionCommitted reply) =
      some
        (commitSecond
          (updateRobot
            (setWorker (insertRobot c first.position (resetAdaptivityFlag first))
              (.committingFirst key second first.position))
            first.position (afterCall reply)) key second,
          [.commitInstructed first.endpoint first.position reply]) := by
  have endpoint := endpointAt_insertRobot c first.position (resetAdaptivityFlag first)
  have same : endpointAt (setWorker (insertRobot c first.position (resetAdaptivityFlag first))
      (.committingFirst key second first.position)) first.position = first.endpoint := endpoint
  simp only [step, newPositionCommitted, setWorker] at same ⊢
  rw [same]

theorem completed_of_one {final : Controller} {key : SwapKey} {robot : RemoteRobot}
    {reply : Option Bool} (one : survivors c key = [robot])
    (worker : final.worker = .betweenHandlers) (erased : key ∉ swapKeys final)
    (robots : ∀ position, findRobot final position =
      if position = robot.position then some (afterCall reply (resetAdaptivityFlag robot))
      else findRobot (eraseRobot (eraseRobot c key.1) key.2) position) :
    SwapCompleted c key [reply] [.commitInstructed robot.endpoint robot.position reply] final where
  worker := worker
  erased := erased
  told := by rw [one]; rfl
  returned := by
    intro _ commit member
    rw [one] at member
    cases List.mem_singleton.mp member
    rw [robots, if_pos rfl]
  others := by
    intro position other
    rw [one] at other
    rw [robots, if_neg (by simpa using other), erased_findRobot]

theorem completed_of_two {final : Controller} {key : SwapKey} {first second : RemoteRobot}
    {reply secondReply : Option Bool} (two : survivors c key = [first, second])
    (worker : final.worker = .betweenHandlers) (erased : key ∉ swapKeys final)
    (robots : ∀ position, findRobot final position =
      if position = second.position then
        some (afterCall secondReply (resetAdaptivityFlag second))
      else if position = first.position then some (afterCall reply (resetAdaptivityFlag first))
      else findRobot (eraseRobot (eraseRobot c key.1) key.2) position) :
    SwapCompleted c key [reply, secondReply]
      [.commitInstructed first.endpoint first.position reply,
        .commitInstructed second.endpoint second.position secondReply] final where
  worker := worker
  erased := erased
  told := by rw [two]; rfl
  returned := by
    intro distinct commit member
    rw [two] at distinct member
    have different : first.position ≠ second.position := by simpa using distinct
    rcases List.mem_cons.mp member with rfl | last
    · rw [robots, if_neg different, if_pos rfl]
    · rw [List.mem_singleton.mp last, robots, if_pos rfl]
  others := by
    intro position other
    rw [two] at other
    simp only [List.map_cons, List.map_nil, List.mem_cons, List.not_mem_nil, or_false,
      not_or] at other
    rw [robots, if_neg other.2, if_neg other.1, erased_findRobot]

/-- The calls that complete a swap, whatever they return. -/
theorem completeSwap_completed (config : Config) (c : Controller) (key : SwapKey)
    (replies : List (Option Bool)) (called : replies.length = (survivors c key).length) :
    ∃ history final,
      (machine config).replay (fun _ _ => True) [] (completeSwap c key)
        (replies.map .newPositionCommitted) = some (history, final) ∧
      SwapCompleted c key replies (outputsOf history) final := by
  cases first : findRobot c key.1 with
  | none =>
      have begun : completeSwap c key =
          commitSecond (eraseRobot (eraseRobot c key.1) key.2) key (findRobot c key.2) := by
        rw [completeSwap, first]
      cases second : findRobot c key.2 with
      | none =>
          have none : survivors c key = [] := by
            rw [survivors, first, second]
            rfl
          rw [none] at called
          cases List.length_eq_zero_iff.mp called
          refine ⟨[], _, rfl, ?_⟩
          rw [begun, second]
          refine ⟨rfl, eraseSwap_erased _ key, by rw [none]; rfl, ?_, ?_⟩
          · rw [none]
            simp
          · exact fun position _ => erased_findRobot c key position
      | some robot =>
          have one : survivors c key = [robot] := by
            rw [survivors, first, second]
            rfl
          rw [one] at called
          obtain ⟨reply, rfl⟩ := List.length_eq_one_iff.mp called
          rw [second] at begun
          have ran := second_committed config (eraseRobot (eraseRobot c key.1) key.2) key robot
            reply
          rw [begun]
          have robots := told_findRobot (eraseRobot (eraseRobot c key.1) key.2) robot.position
            (resetAdaptivityFlag robot) reply
          refine ⟨_, _, Machine.replay_cons trivial ran [], ?_⟩
          exact completed_of_one one rfl (eraseSwap_erased _ key) robots
  | some firstRobot =>
      have begun : completeSwap c key =
          setWorker (insertRobot (eraseRobot (eraseRobot c key.1) key.2) firstRobot.position
            (resetAdaptivityFlag firstRobot))
            (.committingFirst key (findRobot c key.2) firstRobot.position) := by
        rw [completeSwap, first]
      cases second : findRobot c key.2 with
      | none =>
          have one : survivors c key = [firstRobot] := by
            rw [survivors, first, second]
            rfl
          rw [one] at called
          obtain ⟨reply, rfl⟩ := List.length_eq_one_iff.mp called
          rw [second] at begun
          have ran := first_committed config (eraseRobot (eraseRobot c key.1) key.2) key firstRobot
            none reply
          rw [begun]
          have robots := told_findRobot (eraseRobot (eraseRobot c key.1) key.2) firstRobot.position
            (resetAdaptivityFlag firstRobot) reply
          refine ⟨_, _, Machine.replay_cons trivial ran [], ?_⟩
          exact completed_of_one one rfl (eraseSwap_erased _ key) robots
      | some secondRobot =>
          have two : survivors c key = [firstRobot, secondRobot] := by
            rw [survivors, first, second]
            rfl
          rw [two] at called
          obtain ⟨reply, secondReply, rfl⟩ := List.length_eq_two.mp called
          rw [second] at begun
          have ran := first_committed config (eraseRobot (eraseRobot c key.1) key.2) key firstRobot
            (some secondRobot) reply
          rw [begun]
          have ranSecond := fun between =>
            second_committed config between key secondRobot secondReply
          have robots := fun position =>
            (told_findRobot _ secondRobot.position (resetAdaptivityFlag secondRobot) secondReply
              position).trans
              (if_congr Iff.rfl rfl (told_findRobot (eraseRobot (eraseRobot c key.1) key.2)
                firstRobot.position (resetAdaptivityFlag firstRobot) reply position))
          refine ⟨_, _, (Machine.replay_cons trivial ran _).trans
            (Machine.replay_cons trivial (ranSecond _) []), ?_⟩
          exact completed_of_two two rfl (eraseSwap_erased _ key) robots

theorem last_acknowledgement (config : Config) {oldPosition newPosition : Position}
    {posted : List Handler}
    {swap : SwapState} (running : c.running = true) (idle : c.worker = .betweenHandlers)
    (next : c.posted = .positionSwapped oldPosition newPosition :: posted)
    (found : (cleanUp (takeHandler c posted)).pendingSwaps.lookup
      (swapKey oldPosition newPosition) = some swap)
    (both : (swap.acknowledge (swapKey oldPosition newPosition) oldPosition).isAcknowledged =
      true) :
    (machine config).step c .runHandler =
      some
        (completeSwap
          (acknowledgeSwap (cleanUp (takeHandler c posted)) (swapKey oldPosition newPosition)
            oldPosition) (swapKey oldPosition newPosition), []) := by
  unfold cleanUp at found ⊢
  simp only [machine, step, running, idle, next, handle, positionSwapped, found, both, if_true,
    Option.map_some]

end Completion

/-- As long as no robot stops between the acknowledgement of its partner and
its own, a swap that is acknowledged twice is about to be completed, and once
it is begun its completion goes on to the end. -/
theorem no_half_finished_swap (config : Config) (history : History Event Output) (c : Controller)
    (reached : (machine config).Reaches NoLateDeath history c) :
    (c.worker = .betweenHandlers → ∀ entry ∈ c.pendingSwaps, entry.2.isAcknowledged = true →
      ∀ position, involves position entry.1 → ¬ isRegistered c position) ∧
    (∀ entry ∈ c.pendingSwaps, entry.2.isAcknowledged = true →
      ∀ position, involves position entry.1 → isRegistered c position →
        Completing c.worker entry.1) ∧
    (∀ key event after outputs, Completing c.worker key →
      step config c event = some (after, outputs) →
        Completing after.worker key ∨ after.worker = .betweenHandlers ∧ key ∉ swapKeys after) ∧
    ∀ oldPosition newPosition posted swap, c.running = true → c.worker = .betweenHandlers →
      c.posted = .positionSwapped oldPosition newPosition :: posted →
      (cleanUp (takeHandler c posted)).pendingSwaps.lookup (swapKey oldPosition newPosition) =
        some swap →
      (swap.acknowledge (swapKey oldPosition newPosition) oldPosition).isAcknowledged = true →
      ∀ replies : List (Option Bool), replies.length =
          (survivors (cleanUp (takeHandler c posted)) (swapKey oldPosition newPosition)).length →
        ∃ ran final,
          (machine config).replay (fun _ _ => True) [] c
            (.runHandler :: replies.map .newPositionCommitted) = some (ran, final) ∧
          SwapCompleted (cleanUp (takeHandler c posted)) (swapKey oldPosition newPosition) replies
            (outputsOf ran) final := by
  have half := reaches_half reached
  have begun : ∀ entry ∈ c.pendingSwaps, entry.2.isAcknowledged = true →
      ∀ position, involves position entry.1 → isRegistered c position →
        Completing c.worker entry.1 := by
    intro entry member both position involved registered
    by_cases completing : ∃ key, Completing c.worker key
    · obtain ⟨key, completing⟩ := completing
      rw [half.completing key completing entry member both]
      exact completing
    · exact absurd registered
        (half.settled (not_exists.mp completing) entry member both position involved)
  refine ⟨?_, begun, ?_, ?_⟩
  · intro idle entry member both position involved registered
    have completing := begun entry member both position involved registered
    rw [idle] at completing
    exact completing
  · intro key event after outputs completing taken
    exact step_completing completing (step_cases taken)
  · intro oldPosition newPosition posted swap running idle next found both replies called
    have first := last_acknowledgement config running idle next found both
    obtain ⟨calls, final, replayed, completed⟩ := completeSwap_completed config
      (acknowledgeSwap (cleanUp (takeHandler c posted)) (swapKey oldPosition newPosition)
        oldPosition) (swapKey oldPosition newPosition) replies called
    refine ⟨_, final, (Machine.replay_cons trivial first _).trans
      (Machine.replay_after replayed _), ?_⟩
    exact ⟨completed.worker, completed.erased, completed.told, completed.returned,
      completed.others⟩

/-- Two robots register, and each is told to go to the position of the other. -/
def twoRobotsSwitch : List Event :=
  [.registerRobot "opc.tcp://robot:1" 1 {"cut"}, .runHandler, .robotInitialized true,
   .pendingCommitRead (some false), .positionChanged (.registered 1) 1,
   .registerRobot "opc.tcp://robot:2" 2 {"whisk"}, .runHandler, .robotInitialized true,
   .pendingCommitRead (some false), .positionChanged (.registered 2) 2,
   .chooseNextRobot ⟨3, 0, "opc.tcp://kitchen", "KITCHEN"⟩, .runHandler,
   .receiverInitialized true, .swapRobotPositions 1 2, .availabilityRead (some true),
   .availabilityRead (some true), .positionSwitched (some true), .positionSwitched (some true),
   .nextRobotChosen none, .nextRobotReceived (some true)]

/-- Two robots exchange their positions and both acknowledge it. -/
theorem swapped_robots_are_told :
    ∃ history c, (machine deployment).Reaches NoLateDeath history c ∧
      c.worker = .betweenHandlers ∧ c.pendingSwaps.length = 1 ∧
      ∃ ran final,
        (machine deployment).replay (fun _ _ => True) [] c
          [.runHandler, .newPositionCommitted (some true), .newPositionCommitted (some true)] =
            some (ran, final) ∧
        SwapCompleted (cleanUp (takeHandler c [])) (1, 2) [some true, some true]
          (outputsOf ran) final := by
  obtain ⟨history, c, reached, shown⟩ := Machine.exists_reaches_of_replay
    (machine deployment) NoLateDeath (show (machine deployment).start initial from rfl)
    (twoRobotsSwitch ++
      [.positionChanged (.registered 2) 1, .runHandler, .positionChanged (.registered 1) 2])
    (fun _ c => decide (c.running = true ∧ c.worker = .betweenHandlers ∧
      c.posted = [.positionSwapped 1 2] ∧ c.pendingSwaps.length = 1 ∧
      (cleanUp (takeHandler c [])).pendingSwaps.lookup (1, 2) = some ⟨false, true⟩ ∧
      (survivors (cleanUp (takeHandler c [])) (1, 2)).length = 2)) (by decide)
  obtain ⟨running, idle, posted, one, found, both⟩ := of_decide_eq_true shown
  have completes := (no_half_finished_swap deployment history c reached).2.2.2 1 2 [] ⟨false, true⟩
    running idle posted found rfl [some true, some true] both.symm
  exact ⟨history, c, reached, idle, one, completes⟩

/-- The robot at position 2 stops after the one at position 1 has switched. The
clean up of the next handler acknowledges for it and nobody is told. -/
theorem swap_half_finished_after_stop :
    ∃ history c, (machine deployment).Reaches (fun _ _ => True) history c ∧
      c.worker = .betweenHandlers ∧
      ∃ entry ∈ c.pendingSwaps, entry.2.isAcknowledged = true ∧
        ∃ position, involves position entry.1 ∧ isRegistered c position := by
  obtain ⟨history, c, reached, shown⟩ := Machine.exists_reaches_of_replay
    (machine deployment) (fun _ _ => True) (show (machine deployment).start initial from rfl)
    (twoRobotsSwitch ++
      [.positionChanged (.registered 1) 2, .runHandler, .robotStopped (.registered 2),
       .registerRobot "opc.tcp://robot:3" 3 {"bake"}, .runHandler, .robotInitialized true,
       .pendingCommitRead (some false)])
    (fun _ c => decide (c.worker = .betweenHandlers ∧ c.pendingSwaps = [((1, 2), ⟨true, true⟩)] ∧
      isRegistered c 1)) (by decide)
  obtain ⟨idle, swaps, registered⟩ := of_decide_eq_true shown
  refine ⟨history, c, reached, idle, ((1, 2), ⟨true, true⟩), ?_, rfl, 1, .inl rfl, registered⟩
  rw [swaps]
  exact List.mem_singleton_self _

end CpsKitchen.ControllerAgent
