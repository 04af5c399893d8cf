import CpsKitchen.Rearrangement.Arrivals

/-!
# Calls while robots register

What the worker does with a reply does not depend on the registrations that
wait. So the robots in the map see a call as if nobody else came.
-/

namespace CpsKitchen.Rearrangement.Joining

open CpsKitchen.Reactive CpsKitchen.Recipes
open CpsKitchen.RobotAgent (Robot)
open CpsKitchen.ControllerAgent (Controller RemoteRobot Output Worker isRegistered endpointAt
  setWorker commitSecond Request SwapKey)

set_option autoImplicit false

variable {config : Config} {k : Kitchen} {p after : Plant} {c later : Controller}
  {registered : Finset String} {stage : String → Stage} {outputs : List Output}

section Calls

variable {position : Position} {call : Call} {reply : Bool}

/-- The worker after the reply to a call. It checks the same swap on, or none. -/
structure Replied (c later : Controller) (outputs : List Output) : Prop where
  plain : isRegistering later.worker = false
  posted : later.posted = c.posted
  running : later.running = c.running ∨ ∃ output ∈ outputs, Refused output
  checked : ∀ entry, checkedSwap later.worker = some entry → checkedSwap c.worker = some entry
  present : ∀ position, checkedSwap later.worker ≠ none →
    (isRegistered later position ↔ isRegistered c position)

theorem replied_of_done {worker : Worker} (plain : isRegistering worker = false)
    (done : checkedSwap worker = none) (posted : later.posted = c.posted)
    (running : later.running = c.running ∨ ∃ output ∈ outputs, Refused output) :
    Replied c (setWorker later worker) outputs where
  plain := plain
  posted := posted
  running := running
  checked := by
    intro entry checked
    have checked : checkedSwap worker = some entry := checked
    rw [done] at checked
    contradiction
  present := fun _ busy => absurd done busy

theorem replied_of_checks {worker : Worker} (plain : isRegistering worker = false)
    (checks : checkedSwap worker = checkedSwap c.worker) : Replied c (setWorker c worker) [] where
  plain := plain
  posted := rfl
  running := .inl rfl
  checked := by
    intro entry checked
    rw [← checks]
    exact checked
  present := fun _ _ => Iff.rfl

theorem commitSecond_replied (key : SwapKey) (second : Option RemoteRobot)
    (posted : later.posted = c.posted) (running : later.running = c.running) :
    Replied c (commitSecond later key second) outputs := by
  cases second with
  | none => exact replied_of_done rfl rfl posted (.inl running)
  | some second => exact replied_of_done rfl rfl posted (.inl running)

theorem call_replied (pending : pendingCall c = some (position, call))
    (step : ControllerAgent.Step config.controller c (call.returned reply) later outputs) :
    Replied c later outputs := by
  have busy : ∀ request, c.worker ≠ .choosing request := by
    intro request choosing
    rw [pendingCall, choosing] at pending
    contradiction
  cases call with
  | readAvailability =>
      simp only [Call.returned] at step
      generalize some reply = answer at step
      cases step with
      | adaptationRefused _ request choosing => exact absurd choosing (busy request)
      | notAvailable request checked _ checking => exact replied_of_done rfl rfl rfl (.inl rfl)
      | firstAvailable request fromPosition toPosition checking =>
          have checks : checkedSwap c.worker = some (request, fromPosition, toPosition) := by
            rw [checking]
            rfl
          unfold ControllerAgent.checkSecond
          split
          · exact replied_of_checks rfl checks.symm
          · split
            · exact replied_of_checks rfl checks.symm
            · exact replied_of_done rfl rfl rfl (.inl rfl)
      | secondAvailable request fromPosition toPosition checking =>
          refine replied_of_checks rfl ?_
          rw [checking]
          rfl
      | robotAvailable => exact replied_of_done rfl rfl rfl (.inl rfl)
  | switchPosition newPosition =>
      simp only [Call.returned] at step
      cases step with
      | adaptationRefused _ request choosing => exact absurd choosing (busy request)
      | firstRefused | secondRefused =>
          refine replied_of_done rfl rfl rfl (.inr ⟨_, List.mem_singleton_self _, ?_⟩)
          simp [Refused]
      | firstSwitches | onlySwitches | secondSwitches =>
          exact replied_of_done rfl rfl rfl (.inl rfl)
  | reconfigure profile =>
      simp only [Call.returned] at step
      cases step with
      | adaptationRefused _ request choosing => exact absurd choosing (busy request)
      | reconfigurationInstructed => exact replied_of_done rfl rfl rfl (.inl rfl)
  | commitNewPosition =>
      simp only [Call.returned] at step
      cases step with
      | adaptationRefused _ request choosing => exact absurd choosing (busy request)
      | missedCommitted | secondCommitted => exact replied_of_done rfl rfl rfl (.inl rfl)
      | firstCommitted key second position reply => exact commitSecond_replied key second rfl rfl

theorem checkSecond_withoutRegistrations (request : Request)
    (fromPosition toPosition : Position) :
    ControllerAgent.checkSecond (withoutRegistrations c) request fromPosition toPosition =
      withoutRegistrations
        (ControllerAgent.checkSecond c request fromPosition toPosition) := by
  unfold ControllerAgent.checkSecond
  by_cases alone : ¬ isRegistered c toPosition
  · rw [if_pos alone]
    exact if_pos alone
  · rw [if_neg alone]
    refine (if_neg alone).trans ?_
    by_cases adapts : ControllerAgent.mayAdapt c toPosition
    · rw [if_pos adapts]
      exact if_pos adapts
    · rw [if_neg adapts]
      exact if_neg adapts

theorem switchSecond_withoutRegistrations (request : Request)
    (fromPosition toPosition : Position) :
    ControllerAgent.switchSecond (withoutRegistrations c) request fromPosition toPosition =
      (withoutRegistrations
        (ControllerAgent.switchSecond c request fromPosition toPosition).1,
        (ControllerAgent.switchSecond c request fromPosition toPosition).2) := by
  unfold ControllerAgent.switchSecond
  by_cases other : isRegistered c toPosition
  · rw [if_pos other]
    exact if_pos other
  · rw [if_neg other]
    exact if_neg other

/-- What the robots in the map have to do with a call does not depend on the
registrations. -/
theorem returned_withoutRegistrations
    (ran : ControllerAgent.step config.controller c (call.returned reply) = some (later, outputs)) :
    ControllerAgent.step config.controller (withoutRegistrations c) (call.returned reply) =
      some (withoutRegistrations later, outputs) := by
  have same : (withoutRegistrations c).worker = c.worker := rfl
  cases call with
  | readAvailability =>
      obtain ⟨next, read, isLater⟩ := Option.map_eq_some_iff.mp ran
      cases isLater
      refine Option.map_eq_some_iff.mpr ⟨withoutRegistrations later, ?_, rfl⟩
      unfold ControllerAgent.availabilityRead at read ⊢
      rw [same]
      cases worker : c.worker with
      | checkingFirst request fromPosition toPosition =>
          simp only [worker] at read ⊢
          split at read
          next positive =>
            cases read
            rw [if_pos positive, checkSecond_withoutRegistrations]
          next negative =>
            cases read
            rw [if_neg negative]
            rfl
      | checkingSecond | checkingReconfiguration =>
          simp only [worker] at read ⊢
          split at read
          next positive =>
            cases read
            rw [if_pos positive]
            rfl
          next negative =>
            cases read
            rw [if_neg negative]
            rfl
      | _ =>
          rw [worker] at read
          contradiction
  | switchPosition newPosition =>
      simp only [Call.returned, ControllerAgent.step, ControllerAgent.positionSwitched, same]
        at ran ⊢
      cases worker : c.worker with
      | switchingFirst request fromPosition toPosition =>
          simp only [worker] at ran ⊢
          cases reply with
          | false =>
              cases ran
              rfl
          | true =>
              cases ran
              have marked : ControllerAgent.updateRobot (withoutRegistrations c) fromPosition
                  ControllerAgent.setAdaptivityFlag = withoutRegistrations
                    (ControllerAgent.updateRobot c fromPosition
                      ControllerAgent.setAdaptivityFlag) := rfl
              simp only [marked, switchSecond_withoutRegistrations]
              rfl
      | switchingSecond request fromPosition toPosition =>
          simp only [worker] at ran ⊢
          split at ran
          next refused =>
            cases ran
            rw [if_pos refused]
            rfl
          next agreed =>
            cases ran
            rw [if_neg agreed]
            rfl
      | _ =>
          rw [worker] at ran
          contradiction
  | reconfigure profile =>
      simp only [Call.returned, ControllerAgent.step, ControllerAgent.capabilitiesInstructed, same]
        at ran ⊢
      cases worker : c.worker with
      | reconfiguring request robotPosition profile =>
          simp only [worker] at ran ⊢
          cases ran
          rfl
      | _ =>
          rw [worker] at ran
          contradiction
  | commitNewPosition =>
      simp only [Call.returned, ControllerAgent.step, ControllerAgent.newPositionCommitted, same]
        at ran ⊢
      cases worker : c.worker with
      | committingFirst key second position =>
          simp only [worker] at ran ⊢
          cases ran
          cases second with
          | none => rfl
          | some second => rfl
      | committingSecond | resolvingMissedCommit =>
          simp only [worker] at ran ⊢
          cases ran
          rfl
      | _ =>
          rw [worker] at ran
          contradiction

theorem pendingCall_plain (pending : pendingCall c = some (position, call)) :
    isRegistering c.worker = false := by
  unfold pendingCall at pending
  cases worker : c.worker with
  | initializingRobot | readingPendingCommit | resolvingMissedCommit =>
      rw [worker] at pending
      contradiction
  | _ => rfl

def called (p : Plant) (later : Controller) (position : Position) (call : Call) (robot : Robot)
    (reply : Bool) : Plant :=
  { p with
    controller := later
    robots := Function.update p.robots (endpointAt p.controller position) robot
    lastSwitch :=
      if reply then
        Function.update p.lastSwitch (endpointAt p.controller position)
          (call.switched position (p.lastSwitch (endpointAt p.controller position)))
      else p.lastSwitch }

theorem callRobot_viewed {robot : Robot} (registered : Finset String)
    (seen : view config p.controller = withoutRegistrations p.controller)
    (seenLater : view config later = withoutRegistrations later)
    (pending : pendingCall p.controller = some (position, call))
    (answered : answer (config.robotAt (endpointAt p.controller position))
      (p.robots (endpointAt p.controller position)) call = some (robot, reply))
    (ran : ControllerAgent.step config.controller p.controller (call.returned reply) =
      some (later, outputs)) :
    callRobot (among config registered) (viewed config p) = some
      (viewed config (called p later position call robot reply), outputs) := by
  have asks : pendingCall (viewed config p).controller = some (position, call) := by
    have same : (viewed config p).controller = withoutRegistrations p.controller := seen
    rw [same]
    exact pending
  have answers : answer
      ((among config registered).robotAt (endpointAt (viewed config p).controller position))
      ((viewed config p).robots (endpointAt (viewed config p).controller position)) call =
        some (robot, reply) := answered
  have goesOn : ControllerAgent.step (among config registered).controller
      (view config p.controller) (call.returned reply) = some (view config later, outputs) := by
    rw [seen, seenLater]
    exact returned_withoutRegistrations ran
  unfold callRobot
  rw [asks]
  simp only
  rw [answers]
  simp only
  exact controllerActs_of goesOn

theorem calls_inside (coherent : Coherent config p stage)
    (pending : pendingCall p.controller = some (position, call))
    (method : call ≠ .readAvailability) :
    endpointAt p.controller position ∈ config.endpoints := by
  have relies := coherent.agrees.worker
  cases call with
  | readAvailability => exact absurd rfl method
  | switchPosition newPosition =>
      obtain ⟨request, worker | worker⟩ := pendingCall_switch pending
      · rw [worker] at relies
        exact (coherent.agrees.registered_robot relies.1).1
      · rw [worker] at relies
        exact (coherent.agrees.registered_robot relies.1).1
  | reconfigure profile =>
      obtain ⟨request, worker⟩ := pendingCall_reconfigure pending
      rw [worker] at relies
      exact (coherent.agrees.registered_robot relies).1
  | commitNewPosition =>
      rcases pendingCall_commit pending with ⟨key, second, worker⟩ | ⟨key, worker⟩
      · rw [worker] at relies
        obtain ⟨_, _, endpoint, member, _, returns, _⟩ := relies
        rw [coherent.agrees.endpointAt_eq member (Stage.place_of_returning returns)]
        exact member
      · rw [worker] at relies
        obtain ⟨_, endpoint, member, _, returns, _⟩ := relies
        rw [coherent.agrees.endpointAt_eq member (Stage.place_of_returning returns)]
        exact member

theorem called_read {robot : Robot}
    (answered : answer (config.robotAt (endpointAt p.controller position))
      (p.robots (endpointAt p.controller position)) .readAvailability = some (robot, reply)) :
    called p later position .readAvailability robot reply = { p with controller := later } := by
  obtain ⟨rfl, _⟩ := answer_read answered
  simp only [called, Call.switched, Function.update_eq_self, ite_self]

theorem Arrivals.called {robot : Robot} (arrivals : Arrivals config registered k)
    (plain : isRegistering k.plant.controller.worker = false)
    (replied : Replied k.plant.controller later outputs)
    (inside : endpointAt k.plant.controller position ∈ registered) :
    Arrivals config registered
      { k with plant := Joining.called k.plant later position call robot reply } := by
  have apart : ∀ other ∉ registered, other ≠ endpointAt k.plant.controller position := by
    rintro other outside rfl
    exact outside inside
  have joins : joining later = joining k.plant.controller := by
    rw [joining, joining, connecting_of_plain plain, connecting_of_plain replied.plain,
      replied.posted]
  refine
    { served := arrivals.served
      known := arrivals.known
      outside := ?_
      untold := ?_
      once := ?_
      coming := ?_
      worker := workerJoins_of_plain replied.plain }
  · intro other member outside
    simp only [Joining.called, Function.update_of_ne (apart other outside)]
    exact arrivals.outside other member outside
  · intro other outside
    simp only [Joining.called]
    split
    · rw [Function.update_of_ne (apart other outside)]
      exact arrivals.untold other outside
    · exact arrivals.untold other outside
  · simp only [Joining.called, joins]
    exact arrivals.once
  · intro entry coming
    simp only [Joining.called, joins] at coming
    obtain ⟨announced, member, outside, position⟩ := arrivals.coming entry coming
    refine ⟨announced, member, outside, ?_⟩
    simp only [Joining.called, Function.update_of_ne (apart _ outside)]
    exact position

theorem updateRobot_id (c : Controller) (position : Position) :
    ControllerAgent.updateRobot c position id = c := by
  have robots : FiniteMap.modify position id c.positionRemoteRobotMap =
      c.positionRemoteRobotMap := by
    refine Finmap.ext_lookup fun other => ?_
    rw [FiniteMap.lookup_modify]
    split
    next here => rw [← here, Option.map_id_fun, id]
    · rfl
  rw [ControllerAgent.updateRobot, robots]

theorem view_checks {request : Request} {fromPosition toPosition : Position}
    (checking : checkedSwap c.worker = some (request, fromPosition, toPosition))
    (vain : ¬ Targets config c fromPosition toPosition)
    (notFirst : c.worker ≠ .switchingFirst request fromPosition toPosition)
    (read : ControllerAgent.availabilityRead c (some reply) = some later) :
    view config later = view config c := by
  have before := settledWorker_checking checking vain
  have checks : ∀ worker, checkedSwap worker = some (request, fromPosition, toPosition) →
      view config (setWorker c worker) = view config c := by
    intro worker checks
    refine view_setWorker ?_
    rw [before]
    exact settledWorker_checking checks vain
  have gives : view config (setWorker c (.choosing request)) = view config c :=
    view_setWorker before.symm
  unfold ControllerAgent.availabilityRead at read
  cases worker : c.worker with
  | checkingFirst =>
      rw [worker] at checking
      cases checking
      simp only [worker] at read
      split at read
      · cases read
        unfold ControllerAgent.checkSecond
        split
        · exact checks _ rfl
        · split
          · exact checks _ rfl
          · exact gives
      · cases read
        rw [ControllerAgent.unavailable, afterCall_replied, updateRobot_id]
        exact gives
  | checkingSecond =>
      rw [worker] at checking
      cases checking
      simp only [worker] at read
      split at read
      · cases read
        exact checks _ rfl
      · cases read
        rw [ControllerAgent.unavailable, afterCall_replied, updateRobot_id]
        exact gives
  | switchingFirst =>
      rw [worker] at checking notFirst
      cases checking
      exact absurd rfl notFirst
  | _ =>
      rw [worker] at checking
      contradiction

theorem call_joined (joined : Joined config registered k stage)
    (onBelt : SwitchesOnBelt config k (.plant .call))
    (acts : callRobot config k.plant = some (after, outputs)) :
    (∀ output ∈ outputs, ¬ Refused output) ∧
      ∃ stage, Joined config registered { k with plant := after } stage := by
  obtain ⟨position, call, robot, reply, later, pending, answered, ran, rfl⟩ := callRobot_cases acts
  have replied := call_replied pending (ControllerAgent.step_cases ran)
  have plain := pendingCall_plain pending
  by_cases settled : settledWorker config k.plant.controller = k.plant.controller.worker
  · have seen : view config k.plant.controller = withoutRegistrations k.plant.controller := by
      rw [view, settled]
      rfl
    have seenLater : view config later = withoutRegistrations later := by
      rw [view, settledWorker_eq replied.plain]
      · rfl
      · intro request fromPosition toPosition checking
        have before := replied.checked _ checking
        rw [targets_congr fun position => replied.present position (by simp [checking])]
        by_contra vain
        rw [settledWorker_checking before vain] at settled
        rw [← settled] at before
        contradiction
    have viewedCall := callRobot_viewed registered seen seenLater pending answered ran
    obtain ⟨accepted, next, coherent⟩ := call_coherent joined.coherent viewedCall
    refine ⟨accepted, next, coherent, ?_, ?_⟩
    · by_cases method : call = .readAvailability
      · subst method
        have reads : called k.plant later position .readAvailability robot reply =
            { k.plant with controller := later } := called_read answered
        have arrived : Arrivals config registered
            { k with plant := { k.plant with controller := later } } :=
          joined.arrivals.turns plain rfl rfl replied.plain replied.posted
        rw [← reads] at arrived
        exact arrived
      · have asks : pendingCall (viewed config k.plant).controller = some (position, call) := by
          have same : (viewed config k.plant).controller =
              withoutRegistrations k.plant.controller := seen
          rw [same]
          exact pending
        exact joined.arrivals.called plain replied (calls_inside joined.coherent asks method)
    · rcases replied.running with same | ⟨output, member, refused⟩
      · exact same.trans joined.running
      · exact absurd refused (accepted output member)
  · obtain ⟨request, fromPosition, toPosition, checking, vain⟩ := checked_of_unsettled plain settled
    have notFirst : k.plant.controller.worker ≠
        .switchingFirst request fromPosition toPosition := by
      intro worker
      unfold SwitchesOnBelt at onBelt
      simp only [worker] at onBelt
      exact vain onBelt
    have reads : call = .readAvailability := by
      unfold pendingCall at pending
      cases worker : k.plant.controller.worker with
      | checkingFirst | checkingSecond =>
          rw [worker] at pending
          cases pending
          rfl
      | switchingFirst =>
          rw [worker] at checking notFirst
          cases checking
          exact absurd rfl notFirst
      | _ =>
          rw [worker] at checking
          contradiction
    subst reads
    obtain ⟨next, read, same⟩ := Option.map_eq_some_iff.mp ran
    cases same
    have unseen := view_checks checking vain notFirst read
    have running : later.running = true := by
      rcases replied.running with same | ⟨output, member, _⟩
      · exact same.trans joined.running
      · contradiction
    have reads : called k.plant later position .readAvailability robot reply =
        { k.plant with controller := later } := called_read answered
    refine ⟨by simp, stage, ?_⟩
    have next : Joined config registered
        { k with plant := { k.plant with controller := later } } stage := by
      refine ⟨?_, joined.arrivals.turns plain rfl rfl replied.plain replied.posted, running⟩
      unfold viewed
      simp only [unseen]
      exact joined.coherent
    rw [← reads] at next
    exact next

end Calls

end CpsKitchen.Rearrangement.Joining
