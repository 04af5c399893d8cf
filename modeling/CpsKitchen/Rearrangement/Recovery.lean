import CpsKitchen.Rearrangement.Restart

/-!
# The robots come back

Every step of a kitchen whose controller is new keeps what was bound for a
position bound for it, and lets a robot into the map only where it stands. A
commit that the old controller owed a robot is made up for once.
-/

namespace CpsKitchen.Rearrangement.Recovery

open CpsKitchen.Reactive CpsKitchen.Recipes
open CpsKitchen.RobotAgent (Robot InPhase)
open CpsKitchen.ControllerAgent (Controller RemoteRobot Place Output Handler Worker Request robotAt
  findRobot isRegistered isRobotPositionSwapping isStopped endpointAt updateAt updateRobot setWorker
  post takeHandler cleanUp removeStoppedRobots resetAdaptivityFlag newRemoteRobot afterCall)
open Joining (Kitchen joining connecting registration? subscribed robotEntered)

set_option autoImplicit false

variable {config : Config} {goal : String → Position} {k later : Kitchen} {c : Controller}
  {event : Joining.Event} {outputs : List Output}

section Registrations

theorem Recovers.removeStopped_eq (recovers : Recovers config goal k) (posted : List Handler) :
    removeStoppedRobots (takeHandler k.plant.controller posted) =
      takeHandler k.plant.controller posted := by
  apply removeStoppedRobots_eq
  intro position stopped
  obtain ⟨remote, found, halted⟩ := (Option.any_eq_true _ _).mp stopped
  have running := (recovers.known (.registered position) remote found).running
  simp [running] at halted

theorem Recovers.cleanUp_eq (recovers : Recovers config goal k) (posted : List Handler) :
    cleanUp (takeHandler k.plant.controller posted) = takeHandler k.plant.controller posted := by
  rw [cleanUp, recovers.removeStopped_eq, ControllerAgent.eraseStalePendingSwapEntries]
  simp [takeHandler, recovers.swaps]

theorem not_swapping (swaps : c.pendingSwaps = []) (position : Position) :
    ¬ isRobotPositionSwapping c position := by
  simp [isRobotPositionSwapping, ControllerAgent.swappingKey, swaps]

theorem Recovers.takes (recovers : Recovers config goal k)
    (idle : k.plant.controller.worker = .betweenHandlers) {handler : Handler}
    {posted : List Handler} (next : k.plant.controller.posted = handler :: posted)
    (worker : Worker)
    (held : ∀ remote, robotAt (setWorker (takeHandler k.plant.controller posted) worker) .held =
      some remote → Known k remote)
    (relies : WorkerRecovers config { k with plant := { k.plant with
      controller := setWorker (takeHandler k.plant.controller posted) worker } } worker)
    (attends : attended worker = none)
    (registered : ∀ entry, registration? handler = some entry →
      isRegistered k.plant.controller entry.2) :
    Recovers config goal { k with plant := { k.plant with
      controller := setWorker (takeHandler k.plant.controller posted) worker } } := by
  refine recovers.turns rfl rfl rfl held ?_ relies ?_ ?_
  · intro other member
    apply recovers.posted
    rw [next]
    exact List.mem_cons_of_mem _ member
  · rw [idle]
    exact attends
  · intro entry joins
    rw [joining, idle, next] at joins
    obtain ⟨other, member, isIt⟩ := List.mem_filterMap.mp joins
    rcases List.mem_cons.mp member with rfl | later
    · exact .inr (registered entry isIt)
    · left
      apply List.mem_append_right
      exact List.mem_filterMap.mpr ⟨other, later, isIt⟩

theorem findSuitableRobot_eq {request : Request} (answerable : Answerable config request) :
    ControllerAgent.findSuitableRobot config.controller c request =
      some (setWorker c (.choosing request)) := by
  obtain ⟨recipe, known, fits⟩ := (Option.any_eq_true _ _).mp answerable
  have fits : request.processedSteps ≤ recipe.actionQueue.length := of_decide_eq_true fits
  simp [ControllerAgent.findSuitableRobot, known, Nat.not_lt.mpr fits]

theorem Recovers.connects (recovers : Recovers config goal k)
    (idle : k.plant.controller.worker = .betweenHandlers) {endpoint : String}
    {position : Position} {capabilities : Finset String} {posted : List Handler}
    (next : k.plant.controller.posted =
      .handleRobotRegistration endpoint position capabilities :: posted)
    (free : ¬ isRegistered k.plant.controller position) :
    Recovers config goal { k with plant := { k.plant with
      controller := setWorker (takeHandler k.plant.controller posted)
        (.initializingRobot (newRemoteRobot endpoint position capabilities) position)
      notices := Function.update k.plant.notices endpoint
        [(k.plant.robots endpoint).attributes.position] } } := by
  obtain ⟨announced, here⟩ := recovers.posted _ (by rw [next]; exact List.mem_cons_self)
  refine recovers.controls recovers.running recovers.swaps (fun _ => rfl) recovers.keyed ?_ ?_
    ⟨rfl, free⟩ ?_ ?_
  · intro place remote found
    cases place with
    | registered key =>
        have found : findRobot k.plant.controller key = some remote := found
        have known := recovers.known (.registered key) remote found
        have keyed := recovers.keyed key remote found
        have other : remote.endpoint ≠ endpoint := by
          intro same
          apply free
          rw [← here, ← same, known.stands, keyed, isRegistered, found]
          rfl
        refine known.carry rfl rfl rfl rfl (Finset.Subset.refl _) rfl ?_
        exact (Function.update_of_ne other _ _).trans known.notices
    | held =>
        cases found
        have published := (recovers.goes endpoint (recovers.served announced)).published
        refine ⟨announced, here, rfl, rfl, ?_⟩
        refine (Function.update_self endpoint _ _).trans ?_
        rw [published, here]
        rfl
  · intro other member
    apply recovers.posted
    rw [next]
    exact List.mem_cons_of_mem _ member
  · rw [idle]
    rfl
  · intro entry joins
    left
    rw [joining, idle, next] at joins
    exact joins

theorem Recovers.registration_eq (recovers : Recovers config goal k) (endpoint : String)
    (position : Position) (capabilities : Finset String) (posted : List Handler) :
    ControllerAgent.handleRobotRegistration (takeHandler k.plant.controller posted) endpoint
      position capabilities =
        if isRegistered k.plant.controller position then takeHandler k.plant.controller posted
        else setWorker (takeHandler k.plant.controller posted)
          (.initializingRobot (newRemoteRobot endpoint position capabilities) position) := by
  have clean : ControllerAgent.eraseStalePendingSwapEntries
      (removeStoppedRobots (takeHandler k.plant.controller posted)) =
        takeHandler k.plant.controller posted := recovers.cleanUp_eq posted
  have settled : ¬ isRobotPositionSwapping (takeHandler k.plant.controller posted) position :=
    not_swapping recovers.swaps position
  simp only [ControllerAgent.handleRobotRegistration, clean]
  rw [if_neg settled]
  rfl

theorem Recovers.passes (recovers : Recovers config goal k)
    (idle : k.plant.controller.worker = .betweenHandlers) {handler : Handler}
    {posted : List Handler} (next : k.plant.controller.posted = handler :: posted)
    (registered : ∀ entry, registration? handler = some entry →
      isRegistered k.plant.controller entry.2) :
    Recovers config goal { k with plant := { k.plant with
      controller := takeHandler k.plant.controller posted } } := by
  have taken := recovers.takes idle next .betweenHandlers (by simp [robotAt, setWorker]) trivial rfl
    registered
  have same : setWorker (takeHandler k.plant.controller posted) .betweenHandlers =
      takeHandler k.plant.controller posted := by
    rw [← idle]
    rfl
  rw [same] at taken
  exact taken

theorem Recovers.handles (recovers : Recovers config goal k)
    (idle : k.plant.controller.worker = .betweenHandlers) {handler : Handler}
    {posted : List Handler} (next : k.plant.controller.posted = handler :: posted)
    {after : Controller}
    (ran : ControllerAgent.handle config.controller (takeHandler k.plant.controller posted)
      handler = some after) :
    Recovers config goal
      ⟨subscribed { k.plant with controller := after } (.controller .runHandler),
        k.announced⟩ := by
  have due := recovers.posted handler (by rw [next]; exact List.mem_cons_self)
  have stays : (takeHandler k.plant.controller posted).worker = .betweenHandlers := idle
  cases handler with
  | handleRobotRegistration endpoint position capabilities =>
      simp only [ControllerAgent.handle, recovers.registration_eq, Option.some.injEq] at ran
      split at ran
      next registered =>
        rw [← ran]
        simp only [subscribed, stays]
        apply recovers.passes idle next
        intro entry isIt
        cases isIt
        exact registered
      next free =>
        rw [← ran]
        exact recovers.connects idle next free
  | handleNextRobotRequest request =>
      have clean : ControllerAgent.eraseStalePendingSwapEntries
          (removeStoppedRobots (takeHandler k.plant.controller posted)) =
            takeHandler k.plant.controller posted := recovers.cleanUp_eq posted
      simp only [ControllerAgent.handle, ControllerAgent.handleNextRobotRequest, clean] at ran
      split at ran
      · cases ran
        exact recovers.takes idle next _ (by simp [robotAt, setWorker]) due rfl (by
          intro entry isIt
          contradiction)
      · rw [findSuitableRobot_eq due] at ran
        cases ran
        exact recovers.takes idle next _ (by simp [robotAt, setWorker]) trivial rfl (by
          intro entry isIt
          contradiction)
  | positionSwapped => exact due.elim
  | capabilitiesReconfigured robotPosition =>
      have taken := recovers.passes idle next (by
        intro entry isIt
        contradiction)
      simp only [ControllerAgent.handle, ControllerAgent.capabilitiesReconfigured,
        recovers.removeStopped_eq, Option.some.injEq] at ran
      rw [← ran]
      have idle : (updateRobot (takeHandler k.plant.controller posted) robotPosition
          resetAdaptivityFlag).worker = .betweenHandlers := idle
      simp only [subscribed, idle]
      refine taken.updates (.registered robotPosition) resetAdaptivityFlag ?_ ?_ ?_ ?_
      · exact fun _ => rfl
      · exact fun _ _ => rfl
      · intro robot found
        have known := taken.known _ robot found
        exact known.carry rfl rfl rfl known.settled.symm (Finset.Subset.refl _) rfl known.notices
      · intro other robot _ found
        have known := taken.known other robot found
        exact known.carry rfl rfl rfl rfl (Finset.Subset.refl _) rfl known.notices

end Registrations

section Steps

theorem joining_posted {entry : String × Position} (joins : entry ∈ joining c)
    {handler : Handler} : entry ∈ joining (post c handler) := by
  rcases List.mem_append.mp joins with connects | posted
  · exact List.mem_append_left _ connects
  · apply List.mem_append_right
    obtain ⟨other, member, isIt⟩ := List.mem_filterMap.mp posted
    exact List.mem_filterMap.mpr ⟨other, List.mem_append_left _ member, isIt⟩

theorem Recovers.posts (recovers : Recovers config goal k) {handler : Handler}
    (due : Due config k handler) :
    Recovers config goal { k with plant := { k.plant with
      controller := post k.plant.controller handler } } := by
  refine recovers.turns rfl rfl rfl ?_ ?_ ?_ rfl ?_
  · intro remote found
    exact recovers.known .held remote found
  · intro other member
    rcases List.mem_append.mp member with before | last
    · exact recovers.posted other before
    · rw [List.mem_singleton.mp last]
      exact due
  · exact recovers.worker.congr rfl
  · exact fun entry joins => .inl (joining_posted joins)

/-- A value of `CAPABILITIES` says nothing about where the robot is. -/
theorem Recovers.hears (recovers : Recovers config goal k) (place : Place)
    (capabilities : Finset String) :
    Recovers config goal { k with plant := { k.plant with
      controller := updateAt k.plant.controller (fun robot : RemoteRobot =>
        { robot with
          capabilities := capabilities
          initialCapabilitiesSubscription := false }) place } } := by
  refine recovers.updates place _ (fun _ => rfl) (fun _ _ => rfl) ?_ ?_
  · intro robot found
    have known := recovers.known place robot found
    exact known.carry rfl rfl rfl rfl (Finset.Subset.refl _) rfl known.notices
  · intro other robot _ found
    have known := recovers.known other robot found
    exact known.carry rfl rfl rfl rfl (Finset.Subset.refl _) rfl known.notices

/-- How the worker goes on with a request of the conveyor or the kitchen. -/
inductive Serves : Worker → Worker → Prop
  | found (request : Request) : Serves (.initializingReceiver request) (.choosing request)
  | unanswered (request : Request) : Serves (.choosing request) .betweenHandlers
  | chosen (request : Request) (position : Position) (endpoint : String) :
      Serves (.choosing request) (.answering request position endpoint)
  | answered (request : Request) (position : Position) (endpoint : String) :
      Serves (.answering request position endpoint) .betweenHandlers

def isServing : ControllerAgent.Event → Bool
  | .receiverInitialized _ | .nextRobotChosen _ | .nextRobotReceived _ => true
  | _ => false

theorem Recovers.serves_cases (recovers : Recovers config goal k) {event : ControllerAgent.Event}
    {after : Controller} (serving : isServing event = true)
    (ran : ControllerAgent.step config.controller k.plant.controller event =
      some (after, outputs)) :
    (∀ output ∈ outputs, ¬ Refused output) ∧
      ∃ receivers worker, Serves k.plant.controller.worker worker ∧
        after = setWorker { k.plant.controller with nextRobotReceivers := receivers } worker := by
  cases event with
  | receiverInitialized succeeded =>
      obtain ⟨controller, initialized, same⟩ := Option.map_eq_some_iff.mp ran
      cases same
      unfold ControllerAgent.receiverInitialized at initialized
      have relies := recovers.worker
      split at initialized
      next request worker =>
        rw [worker] at relies ⊢
        rw [findSuitableRobot_eq relies] at initialized
        cases initialized
        cases succeeded with
        | true => exact ⟨by simp, _, _, .found request, rfl⟩
        | false => exact ⟨by simp, _, _, .found request, rfl⟩
      · contradiction
  | nextRobotChosen position =>
      simp only [ControllerAgent.step] at ran
      split at ran
      next request worker =>
        cases ran
        rw [worker]
        unfold ControllerAgent.nextRobotChosen
        simp only
        split
        · exact ⟨by simp, _, _, .unanswered request, rfl⟩
        · exact ⟨by simp, _, _, .chosen request _ _, rfl⟩
      · contradiction
  | nextRobotReceived reply =>
      simp only [ControllerAgent.step, ControllerAgent.nextRobotReceived] at ran
      split at ran
      next request robotPosition robotEndpoint worker =>
        cases ran
        rw [worker]
        cases reply with
        | none => exact ⟨by simp [Refused], _, _, .answered request _ _, rfl⟩
        | some reply => exact ⟨by simp [Refused], _, _, .answered request _ _, rfl⟩
      · contradiction
  | _ => contradiction

theorem Recovers.serves (recovers : Recovers config goal k) {worker : Worker}
    (serves : Serves k.plant.controller.worker worker)
    (receivers : Finmap fun _ : String × String => ControllerAgent.NextRobotReceiver) :
    Recovers config goal { k with plant := { k.plant with
      controller := setWorker { k.plant.controller with nextRobotReceivers := receivers }
        worker } } := by
  have before : attended k.plant.controller.worker = none ∧
      connecting k.plant.controller.worker = [] := by
    generalize k.plant.controller.worker = before at serves ⊢
    cases serves <;> exact ⟨rfl, rfl⟩
  have next : attended worker = none ∧ WorkerRecovers config k worker ∧
      ∀ c : Controller, robotAt (setWorker c worker) .held = none := by
    generalize k.plant.controller.worker = before at serves
    cases serves <;> exact ⟨rfl, trivial, fun _ => rfl⟩
  refine recovers.turns rfl rfl rfl ?_ recovers.posted (next.2.1.congr rfl)
    (next.1.trans before.1.symm) ?_
  · intro remote held
    rw [next.2.2] at held
    contradiction
  · intro entry joins
    left
    rw [joining, before.2] at joins
    exact List.mem_append_right _ joins

theorem Recovers.internal (recovers : Recovers config goal k) {event : ControllerAgent.Event}
    {after : Plant} (internal : isInternal event = true)
    (permitted : Unadapting config k (.plant (.controller event)))
    (acts : controllerActs config k.plant event = some (after, outputs)) :
    (∀ output ∈ outputs, ¬ Refused output) ∧
      Recovers config goal ⟨subscribed after (.controller event), k.announced⟩ := by
  unfold controllerActs at acts
  split at acts
  · contradiction
  next later told ran =>
    cases acts
    cases event with
    | registerRobot | positionChanged | robotStopped | robotInitialized | pendingCommitRead
    | newPositionCommitted | availabilityRead | positionSwitched | capabilitiesInstructed =>
        contradiction
    | swapRobotPositions | reconfigureRobotCapability => exact permitted.elim
    | runHandler =>
        simp only [ControllerAgent.step] at ran
        split at ran
        next handler posted _ idle next =>
          obtain ⟨controller, handled, same⟩ := Option.map_eq_some_iff.mp ran
          cases same
          exact ⟨by simp, recovers.handles idle next handled⟩
        · contradiction
    | chooseNextRobot request =>
        simp only [ControllerAgent.step, recovers.running, if_true] at ran
        cases ran
        exact ⟨by simp [Refused], recovers.posts permitted⟩
    | capabilitiesChanged place capabilities =>
        have step := ControllerAgent.step_cases ran
        cases step with
        | capabilitiesNoticed => exact ⟨by simp, recovers.hears place capabilities⟩
        | capabilitiesChanged =>
            exact ⟨by simp, (recovers.hears place capabilities).posts trivial⟩
        | adaptationRefused => exact ⟨by simp, recovers⟩
    | receiverStopped receiver =>
        simp only [ControllerAgent.step] at ran
        split at ran
        · contradiction
        · cases ran
          refine ⟨by simp, recovers.turns rfl rfl rfl ?_ recovers.posted (recovers.worker.congr rfl)
            rfl fun _ joins => .inl joins⟩
          exact fun remote found => recovers.known .held remote found
    | receiverInitialized | nextRobotChosen | nextRobotReceived =>
        obtain ⟨accepted, receivers, worker, serves, rfl⟩ := recovers.serves_cases rfl ran
        exact ⟨accepted, recovers.serves serves receivers⟩

/-- Nothing comes but the value that a subscription starts with. -/
theorem Recovers.notify_cases (recovers : Recovers config goal k) {endpoint : String}
    {place : Place} {after : Plant}
    (acts : notify config k.plant endpoint place = some (after, outputs)) :
    ∃ robot, robotAt k.plant.controller place = some robot ∧ robot.endpoint = endpoint ∧
      k.plant.notices endpoint = [robot.position] ∧ outputs = [] ∧
      after = { k.plant with
        controller := updateAt k.plant.controller (noticed robot.position) place
        notices := Function.update k.plant.notices endpoint [] } := by
  unfold notify at acts
  split at acts
  next position rest served travels here =>
    split at acts
    next same =>
      subst same
      obtain ⟨robot, found, isIt⟩ := Option.map_eq_some_iff.mp here
      have notices := (recovers.known place robot found).notices
      rw [isIt, travels, initialNotice] at notices
      split at notices
      next initial =>
        obtain ⟨rfl, rfl⟩ := List.cons.inj notices
        unfold controllerActs at acts
        simp only [ControllerAgent.step, ControllerAgent.positionChanged, found, initial, if_true,
          Option.map_some] at acts
        cases acts
        exact ⟨robot, found, isIt, travels, rfl, rfl⟩
      · contradiction
    · contradiction
  · contradiction

theorem Recovers.notified (recovers : Recovers config goal k) {place : Place} {robot : RemoteRobot}
    (found : robotAt k.plant.controller place = some robot) :
    Recovers config goal { k with plant := { k.plant with
      controller := updateAt k.plant.controller (noticed robot.position) place
      notices := Function.update k.plant.notices robot.endpoint [] } } := by
  have known := recovers.known place robot found
  refine recovers.updates place (noticed robot.position) (fun _ => rfl) ?_ ?_ ?_
  · intro other there
    rw [found] at there
    cases there
    rfl
  · intro other there
    rw [found] at there
    cases there
    refine known.carry rfl rfl rfl rfl (Finset.Subset.refl _) rfl ?_
    exact Function.update_self _ _ _
  · intro other remote elsewhere there
    have apart : remote.endpoint ≠ robot.endpoint :=
      fun same => elsewhere (recovers.place_unique there found same)
    have alsoKnown := recovers.known other remote there
    refine alsoKnown.carry rfl rfl rfl rfl (Finset.Subset.refl _) rfl ?_
    exact (Function.update_of_ne apart _ _).trans alsoKnown.notices

/-- No swap is under way, so the worker waits for no call. -/
theorem Recovers.no_call (recovers : Recovers config goal k) : callRobot config k.plant = none := by
  have relies := recovers.worker
  unfold callRobot pendingCall
  cases worker : k.plant.controller.worker with
  | betweenHandlers | initializingRobot | readingPendingCommit | resolvingMissedCommit
  | initializingReceiver | choosing | answering => rfl
  | _ => rw [worker] at relies; exact relies.elim

theorem Recovers.registers (recovers : Recovers config goal k) {endpoint : String}
    {capabilities : Finset String} {after : Plant} (member : endpoint ∈ config.endpoints)
    (new : endpoint ∉ k.announced) (may : mayRegister (k.plant.robots endpoint))
    (uncommitted : .handleNewPositionCommit ∉ (k.plant.robots endpoint).posted)
    (acts : controllerActs config k.plant
      (.registerRobot endpoint (k.plant.robots endpoint).position capabilities) =
        some (after, outputs)) :
    outputs = [] ∧ Recovers config goal ⟨after, insert endpoint k.announced⟩ := by
  unfold controllerActs at acts
  simp only [ControllerAgent.step, recovers.running, if_true] at acts
  cases acts
  have grows : k.announced ⊆ insert endpoint k.announced := Finset.subset_insert _ _
  refine ⟨rfl,
    { running := recovers.running
      swaps := recovers.swaps
      goes := recovers.goes
      served := Finset.insert_subset member recovers.served
      returned := ?_
      keyed := recovers.keyed
      known := ?_
      posted := ?_
      worker := ?_
      coming := ?_
      told := ?_
      missed := ?_ }⟩
  · intro other announced
    rcases Finset.mem_insert.mp announced with rfl | before
    · exact may
    · exact recovers.returned other before
  · intro place remote found
    rw [robotAt_post] at found
    have known := recovers.known place remote found
    exact known.carry rfl rfl rfl rfl grows rfl known.notices
  · intro handler posted
    rcases List.mem_append.mp posted with before | last
    · exact (recovers.posted handler before).congr grows fun _ _ => rfl
    · rw [List.mem_singleton.mp last]
      exact ⟨Finset.mem_insert_self _ _, rfl⟩
  · have relies := recovers.worker
    change WorkerRecovers config _ k.plant.controller.worker
    cases worker : k.plant.controller.worker with
    | _ => rw [worker] at relies; exact relies
  · intro other announced
    rcases Finset.mem_insert.mp announced with rfl | before
    · right
      apply List.mem_append_right
      exact List.mem_filterMap.mpr ⟨_, List.mem_append_right _ (List.mem_singleton_self _), rfl⟩
    · rcases recovers.coming other before with registered | joins
      · exact .inl registered
      · exact .inr (joining_posted joins)
  · intro other announced committing
    rcases Finset.mem_insert.mp announced with rfl | before
    · exact absurd committing.2.2 uncommitted
    · exact recovers.told other before committing
  · intro other announced arrived back
    rcases Finset.mem_insert.mp announced with rfl | before
    · obtain ⟨remote, found, isIt⟩ := Option.map_eq_some_iff.mp back
      rw [robotAt_post] at found
      exact absurd (isIt ▸ (recovers.known _ remote found).served) new
    · exact recovers.missed other before arrived back

theorem Recovers.enters (recovers : Recovers config goal k) {after : Plant}
    (acts : controllerActs config k.plant (.robotInitialized true) = some (after, outputs)) :
    outputs = [] ∧ Recovers config goal { k with plant := after } := by
  obtain ⟨robot, position, initializing, rfl, rfl⟩ := Joining.initialized_cases acts
  have relies := recovers.worker
  rw [initializing] at relies
  obtain ⟨isThere, free⟩ := relies
  have known : Known k robot := recovers.known .held robot (by rw [robotAt, initializing])
  have found : ∀ other, findRobot (robotEntered k.plant.controller robot position) other =
      if other = position then some robot else findRobot k.plant.controller other :=
    ControllerAgent.findRobot_insertRobot _ _ _
  have reads : ControllerAgent.resolveMissedNewPositionCommit
      (robotEntered k.plant.controller robot position) position =
        setWorker (robotEntered k.plant.controller robot position)
          (.readingPendingCommit position) := by
    have settled : ¬ isRobotPositionSwapping (robotEntered k.plant.controller robot position)
        position := not_swapping recovers.swaps position
    rw [ControllerAgent.resolveMissedNewPositionCommit, found, if_pos rfl]
    exact if_pos ⟨by simp [known.settled], settled⟩
  have keeps : ∀ {other}, isRegistered k.plant.controller other →
      findRobot (robotEntered k.plant.controller robot position) other =
        findRobot k.plant.controller other := by
    intro other registered
    rw [found, if_neg]
    rintro rfl
    exact free registered
  have served : ∀ {other endpoint},
      servedAt k.plant.controller (.registered other) = some endpoint →
        servedAt (robotEntered k.plant.controller robot position) (.registered other) =
          some endpoint ∧ other ≠ position := by
    intro other endpoint back
    obtain ⟨remote, here, isIt⟩ := Option.map_eq_some_iff.mp back
    have registered : isRegistered k.plant.controller other :=
      Option.isSome_iff_exists.mpr ⟨_, here⟩
    refine ⟨?_, fun same => free (same ▸ registered)⟩
    rw [servedAt, robotAt, keeps registered]
    exact back
  have nobody : attended k.plant.controller.worker = none := by
    rw [initializing]
    rfl
  rw [reads]
  refine ⟨rfl,
    { running := recovers.running
      swaps := recovers.swaps
      goes := recovers.goes
      served := recovers.served
      returned := recovers.returned
      keyed := ?_
      known := ?_
      posted := ?_
      worker := ?_
      coming := ?_
      told := ?_
      missed := ?_ }⟩
  · intro other remote here
    have here := (found other).symm.trans here
    split at here
    next same =>
      cases here
      rw [same]
      exact isThere
    · exact recovers.keyed other remote here
  · intro place remote here
    cases place with
    | registered other =>
        have here := (found other).symm.trans here
        split at here
        · cases here
          exact known.carry rfl rfl rfl rfl (Finset.Subset.refl _) rfl known.notices
        · have known := recovers.known (.registered other) remote here
          exact known.carry rfl rfl rfl rfl (Finset.Subset.refl _) rfl known.notices
    | held => contradiction
  · exact fun handler member =>
      (recovers.posted handler member).congr (Finset.Subset.refl _) fun _ _ => rfl
  · change isRegistered (robotEntered k.plant.controller robot position) position
    rw [isRegistered, found, if_pos rfl]
    rfl
  · intro endpoint announced
    rcases recovers.coming endpoint announced with registered | joins
    · left
      change isRegistered (robotEntered k.plant.controller robot position) _
      rw [isRegistered, keeps registered]
      exact registered
    · rw [joining, initializing] at joins
      rcases List.mem_append.mp joins with connects | posted
      · left
        change isRegistered (robotEntered k.plant.controller robot position) _
        rw [isRegistered, found, if_pos (Prod.mk.inj (List.mem_singleton.mp connects)).2]
        rfl
      · exact .inr (List.mem_append_right _ posted)
  · intro endpoint announced committing
    obtain ⟨back, apart⟩ := served (recovers.told endpoint announced committing).1
    refine ⟨back, ?_⟩
    intro same
    exact apart (Option.some.inj same).symm
  · intro endpoint announced arrived back
    by_cases here : (k.plant.robots endpoint).position = position
    · exact congrArg some here.symm
    · have back : servedAt (robotEntered k.plant.controller robot position)
        (.registered (k.plant.robots endpoint).position) = some endpoint := back
      rw [servedAt, robotAt, found, if_neg here] at back
      have reads := recovers.missed endpoint announced arrived back
      rw [nobody] at reads
      contradiction

theorem endpointAt_of_found {position : Position} {remote : RemoteRobot}
    (found : findRobot c position = some remote) : endpointAt c position = remote.endpoint := by
  rw [endpointAt, found]
  rfl

/-- How the worker makes up for the commit of the robot under a position. -/
inductive Resolves (config : Config) (k : Kitchen) (position : Position) (remote : RemoteRobot) :
    Plant → List Output → Prop where
  | missed (reading : k.plant.controller.worker = .readingPendingCommit position)
      (arrived : InPhase (k.plant.robots remote.endpoint) .arrived) :
      Resolves config k position remote
        { k.plant with
          controller := setWorker k.plant.controller (.resolvingMissedCommit position) } []
  | notMissed (reading : k.plant.controller.worker = .readingPendingCommit position)
      (notArrived : ¬ InPhase (k.plant.robots remote.endpoint) .arrived) :
      Resolves config k position remote
        { k.plant with controller := setWorker k.plant.controller .betweenHandlers } []
  | committed (robot : Robot)
      (resolving : k.plant.controller.worker = .resolvingMissedCommit position)
      (arrived : InPhase (k.plant.robots remote.endpoint) .arrived)
      (ran : RobotAgent.step (config.robotAt remote.endpoint)
        (k.plant.robots remote.endpoint) .commitNewPosition = some (robot, [.result true])) :
      Resolves config k position remote
        { k.plant with
          robots := Function.update k.plant.robots remote.endpoint robot
          controller := setWorker k.plant.controller .betweenHandlers }
        [.commitInstructed remote.endpoint position (some true)]

theorem Recovers.arrived_of_pending (recovers : Recovers config goal k) {position : Position}
    {remote : RemoteRobot} (attends : attended k.plant.controller.worker = some position)
    (found : findRobot k.plant.controller position = some remote)
    (pending : (k.plant.robots remote.endpoint).attributes.newPositionCommitIsPending = true) :
    InPhase (k.plant.robots remote.endpoint) .arrived := by
  have known := recovers.known (.registered position) remote found
  have one := (recovers.goes remote.endpoint (recovers.served known.served)).steady.one
  have rearranging := (one.rearranging (one.moving (.inr pending))).1
  refine ⟨rearranging, pending, ?_⟩
  intro posted
  have told := recovers.told remote.endpoint known.served ⟨rearranging, pending, posted⟩
  apply told.2
  rw [attends, known.stands, recovers.keyed position remote found]

theorem Recovers.resolve_cases (recovers : Recovers config goal k) {after : Plant}
    (acts : Joining.resolveMissedCommit config k.plant = some (after, outputs)) :
    ∃ position remote, findRobot k.plant.controller position = some remote ∧
      attended k.plant.controller.worker = some position ∧
      Resolves config k position remote after outputs := by
  have relies := recovers.worker
  unfold Joining.resolveMissedCommit at acts
  split at acts
  next position reading =>
    rw [reading] at relies
    obtain ⟨remote, found⟩ := Option.isSome_iff_exists.mp relies
    have attends : attended k.plant.controller.worker = some position := by
      rw [reading]
      rfl
    refine ⟨position, remote, found, attends, ?_⟩
    simp only [endpointAt_of_found found] at acts
    split at acts
    · unfold controllerActs at acts
      simp only [ControllerAgent.step, ControllerAgent.pendingCommitRead, reading] at acts
      cases pending : (k.plant.robots remote.endpoint).attributes.newPositionCommitIsPending with
      | true =>
          rw [pending] at acts
          cases acts
          exact .missed reading (recovers.arrived_of_pending attends found pending)
      | false =>
          rw [pending] at acts
          simp only [Option.some.injEq, Bool.false_eq_true, if_false, afterCall_replied,
            Joining.updateRobot_id, Option.map_some] at acts
          cases acts
          exact .notMissed reading fun arrived =>
            absurd (pending.symm.trans arrived.2.1) (by decide)
    · contradiction
  next position resolving =>
    rw [resolving] at relies
    obtain ⟨registered, arrived⟩ := relies
    obtain ⟨remote, found⟩ := Option.isSome_iff_exists.mp registered
    have known := recovers.known (.registered position) remote found
    have goes := recovers.goes remote.endpoint (recovers.served known.served)
    simp only [endpointAt_of_found found] at acts arrived
    refine ⟨position, remote, found, by rw [resolving]; rfl, ?_⟩
    split at acts
    · contradiction
    next robot reply answered =>
      have ran : RobotAgent.step (config.robotAt remote.endpoint)
          (k.plant.robots remote.endpoint) .commitNewPosition = some (robot, [.result reply]) :=
        answer_some rfl answered
      obtain ⟨accepted, _⟩ := goes.commits arrived ran
      cases accepted
      unfold controllerActs at acts
      simp only [ControllerAgent.step, ControllerAgent.newPositionCommitted, resolving,
        endpointAt_of_found found, afterCall_replied, Joining.updateRobot_id] at acts
      cases acts
      exact .committed robot resolving arrived ran
  · contradiction

theorem Recovers.resolves (recovers : Recovers config goal k) {position : Position}
    {remote : RemoteRobot} {after : Plant}
    (found : findRobot k.plant.controller position = some remote)
    (attends : attended k.plant.controller.worker = some position)
    (resolves : Resolves config k position remote after outputs) :
    (∀ output ∈ outputs, ¬ Refused output) ∧ Recovers config goal { k with plant := after } := by
  have known := recovers.known (.registered position) remote found
  have goes := recovers.goes remote.endpoint (recovers.served known.served)
  have returned := recovers.returned remote.endpoint known.served
  cases resolves with
  | missed reading arrived =>
      have relies : isRegistered k.plant.controller position :=
        Option.isSome_iff_exists.mpr ⟨remote, found⟩
      refine ⟨by simp, recovers.turns rfl rfl rfl ?_ recovers.posted ⟨relies, ?_⟩ attends.symm ?_⟩
      · intro other held
        contradiction
      · change InPhase (k.plant.robots (endpointAt k.plant.controller position)) .arrived
        rw [endpointAt_of_found found]
        exact arrived
      · intro entry joins
        left
        rw [joining, reading] at joins
        exact joins
  | notMissed reading notArrived =>
      have done := recovers.done attends found goes rfl returned notArrived
      rw [Function.update_eq_self] at done
      exact ⟨by simp, done⟩
  | committed robot resolving arrived ran =>
      obtain ⟨_, goesOn, stays, committing⟩ := goes.commits arrived ran
      have done := recovers.done attends found goesOn stays (.inr committing.2.1)
        fun arrived => arrived.2.2 committing.2.2
      exact ⟨by simp [Refused], done⟩

theorem step_recovers (recovers : Recovers config goal k) (permitted : Unadapting config k event)
    (taken : step config k event = some (later, outputs)) :
    (∀ output ∈ outputs, ¬ Refused output) ∧ Recovers config goal later := by
  cases event with
  | plant event =>
      obtain ⟨⟨after, told⟩, acted, same⟩ := Option.map_eq_some_iff.mp taken
      cases same
      cases event with
      | robot endpoint event =>
          simp only [Rearrangement.step] at acted
          split at acted
          next own =>
            obtain ⟨_, acts, same⟩ := Option.map_eq_some_iff.mp acted
            cases same
            exact ⟨by simp, recovers.robot own.1 own.2 permitted acts⟩
          · contradiction
      | controller event =>
          simp only [Rearrangement.step] at acted
          split at acted
          next internal => exact recovers.internal internal permitted acted
          · contradiction
      | notifyPosition endpoint place =>
          obtain ⟨robot, found, rfl, _, rfl, rfl⟩ := recovers.notify_cases acted
          exact ⟨by simp, recovers.notified found⟩
      | call =>
          have nothing := recovers.no_call
          simp only [Rearrangement.step] at acted
          rw [nothing] at acted
          contradiction
  | registerRobot endpoint =>
      simp only [step, Joining.step] at taken
      split at taken
      next gate =>
        split at taken
        next new =>
          obtain ⟨⟨after, told⟩, acts, same⟩ := Option.map_eq_some_iff.mp taken
          cases same
          obtain ⟨silent, next⟩ := recovers.registers new.1 new.2 gate.2 permitted acts
          simp only [silent]
          exact ⟨by simp, next⟩
        · contradiction
      · contradiction
  | robotInitialized =>
      obtain ⟨⟨after, told⟩, acts, same⟩ := Option.map_eq_some_iff.mp taken
      cases same
      obtain ⟨silent, next⟩ := recovers.enters acts
      simp only [silent]
      exact ⟨by simp, next⟩
  | resolveMissedCommit =>
      obtain ⟨⟨after, told⟩, acts, same⟩ := Option.map_eq_some_iff.mp taken
      cases same
      obtain ⟨position, remote, found, attends, resolves⟩ := recovers.resolve_cases acts
      exact recovers.resolves found attends resolves

end Steps

section Runs

/-- What is asked of the plant whose controller is replaced. -/
structure Undamaged (config : Config) (p : Plant) : Prop where
  running : ∀ endpoint ∈ config.endpoints, (p.robots endpoint).running = true
  notReconfiguring : ∀ endpoint ∈ config.endpoints,
    (p.robots endpoint).robotState ≠ .reconfiguring

theorem restarted_recovers {history : History Event Output} {p : Plant}
    (reached : (Rearrangement.machine config).Reaches (TargetsOnBelt config) history p)
    (undamaged : Undamaged config p) :
    Recovers config (fun endpoint => destination (p.robots endpoint)) (restarted p) where
  running := rfl
  swaps := rfl
  goes := by
    intro endpoint member
    obtain ⟨_, stage, coherent⟩ := reaches_coherent reached
    obtain ⟨remote, found, _⟩ := coherent.agrees.keeps member
    have inPhase := (coherent.follows endpoint member remote found).phase
    have robot := reaches_robot reached member
    exact ⟨robot, undamaged.running endpoint member,
      undamaged.notReconfiguring endpoint member, rfl, _, inPhase⟩
  served := Finset.empty_subset _
  returned := fun endpoint announced => absurd announced (Finset.notMem_empty _)
  keyed := by
    intro position remote found
    simp [restarted, findRobot, ControllerAgent.initial] at found
  known := by
    intro place remote found
    cases place with
    | registered position => simp [restarted, robotAt, findRobot, ControllerAgent.initial] at found
    | held => contradiction
  posted := fun handler member => absurd member List.not_mem_nil
  worker := trivial
  coming := fun endpoint announced => absurd announced (Finset.notMem_empty _)
  told := fun endpoint announced => absurd announced (Finset.notMem_empty _)
  missed := fun endpoint announced => absurd announced (Finset.notMem_empty _)

theorem reaches_recovers {p : Plant} (initially : Recovers config goal (restarted p))
    {history : History Joining.Event Output}
    (followed : (machine config p).Reaches (Unadapting config) history k) :
    (∀ output ∈ outputsOf history, ¬ Refused output) ∧ Recovers config goal k := by
  induction followed with
  | start initial =>
      cases initial
      exact ⟨by simp, initially⟩
  | step _ permitted taken earlier =>
      obtain ⟨accepted, recovers⟩ := earlier
      obtain ⟨nowAccepted, next⟩ := step_recovers recovers permitted taken
      refine ⟨?_, next⟩
      intro output member
      rw [outputsOf_append, outputsOf_singleton, List.mem_append] at member
      exact member.elim (accepted output) (nowAccepted output)

end Runs

end CpsKitchen.Rearrangement.Recovery
