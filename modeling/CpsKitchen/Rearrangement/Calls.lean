import CpsKitchen.Rearrangement.Handlers

/-!
# The calls of the controller

A robot that the controller found available stays so until it is told to
switch, so it accepts the switch. A robot that has arrived accepts its commit.
-/

namespace CpsKitchen.Rearrangement

open CpsKitchen.Reactive CpsKitchen.Recipes
open CpsKitchen.RobotAgent (Robot InPhase OneDriver)
open CpsKitchen.ControllerAgent

set_option autoImplicit false

variable {config : Config} {p after : Plant} {c later : Controller} {stage : String → Stage}
  {endpoint : String} {position : Position} {outputs : List Output}

theorem Agrees.endpointAt_eq (agrees : Agrees config c stage) (member : endpoint ∈ config.endpoints)
    (place : (stage endpoint).place = .registered position) : endpointAt c position = endpoint := by
  have served := (agrees.served _ endpoint).mpr ⟨member, place⟩
  rw [servedAt, robotAt] at served
  rw [endpointAt, served]
  rfl

theorem Agrees.registered_robot (agrees : Agrees config c stage)
    (registered : isRegistered c position) :
    endpointAt c position ∈ config.endpoints ∧
      (stage (endpointAt c position)).place = .registered position := by
  obtain ⟨endpoint, member, place⟩ := agrees.isRegistered_iff.mp registered
  rw [agrees.endpointAt_eq member place]
  exact ⟨member, place⟩

theorem Coherent.free_of_available (coherent : Coherent config p stage)
    (member : endpoint ∈ config.endpoints)
    (available : (p.robots endpoint).robotState = .available) :
    ∃ position, stage endpoint = .free position := by
  obtain ⟨remote, found, _⟩ := coherent.agrees.keeps member
  have inPhase := (coherent.follows endpoint member remote found).phase
  apply Stage.free_of_settled
  cases phase : (stage endpoint).phase with
  | settled => rfl
  | heading | arrived | committing =>
      rw [phase] at inPhase
      have rearranging := inPhase.1
      rw [available] at rearranging
      contradiction

theorem Coherent.free_at (coherent : Coherent config p stage)
    (member : endpoint ∈ config.endpoints)
    (available : (p.robots endpoint).robotState = .available)
    (place : (stage endpoint).place = .registered position) : stage endpoint = .free position := by
  obtain ⟨there, free⟩ := coherent.free_of_available member available
  rw [free] at place ⊢
  rw [Place.registered.inj place]

section Reads

theorem isQuiet_of_checks {worker : Worker} {request : Request}
    (checking : Checks worker request position) : isQuiet worker = true := by
  cases checking <;> rfl

theorem read_coherent (coherent : Coherent config p stage) {reply : Bool}
    (pending : pendingCall p.controller = some (position, .readAvailability))
    (reads : reply = true →
      (p.robots (endpointAt p.controller position)).robotState = .available)
    (ran : availabilityRead p.controller (some reply) = some later) :
    Coherent config { p with controller := later } stage := by
  have step : ControllerAgent.Step config.controller p.controller (.availabilityRead (some reply))
      later [] := availabilityRead_cases ran
  have table := step_table coherent.agrees.toSwapTable step
  have relies := coherent.agrees.worker
  have nobody : ∀ position ∈ ([] : List Position), ∀ endpoint ∈ config.endpoints,
      (stage endpoint).place = .registered position →
        stage endpoint = .free position ∧ (p.robots endpoint).robotState = .available :=
    fun position none => absurd none List.not_mem_nil
  have found : reply = true → ∀ endpoint ∈ config.endpoints,
      (stage endpoint).place = .registered position →
        stage endpoint = .free position ∧ (p.robots endpoint).robotState = .available := by
    intro positive endpoint member place
    have available := reads positive
    rw [coherent.agrees.endpointAt_eq member place] at available
    exact ⟨coherent.free_at member available place, available⟩
  generalize positive : some reply = answer at step
  cases step with
  | adaptationRefused => exact coherent
  | notAvailable request checked _ checking =>
      have seen := coherent.updates (afterCall answer)
        (fun robot => by simp [afterCall, ← positive])
        (fun robot => by simp [afterCall, ← positive, seen_refl]) (.registered checked)
      exact seen.turns (isQuiet_of_checks checking) rfl table trivial nobody
  | firstAvailable request fromPosition toPosition checking =>
      have quiet : isQuiet p.controller.worker = true := by rw [checking]; rfl
      rw [pendingCall, checking] at pending
      cases pending
      rw [checking] at relies
      obtain ⟨registered, targets⟩ := relies
      have first := found (Option.some.inj positive)
      unfold checkSecond at table ⊢
      by_cases other : isRegistered p.controller toPosition
      · rw [if_neg (not_not.mpr other)] at table ⊢
        by_cases adapts : mayAdapt p.controller toPosition
        · rw [if_pos adapts] at table ⊢
          refine coherent.turns quiet rfl table ⟨registered, other, targets⟩ ?_
          intro position readied
          rw [List.mem_singleton.mp readied]
          exact first
        · rw [if_neg adapts] at table ⊢
          exact coherent.turns quiet rfl table trivial nobody
      · rw [if_pos other] at table ⊢
        refine coherent.turns quiet rfl table ⟨registered, targets⟩ ?_
        intro position readied endpoint member place
        rcases List.mem_cons.mp readied with rfl | second
        · exact first endpoint member place
        · rw [List.mem_singleton.mp second] at place
          exact absurd (coherent.agrees.isRegistered_iff.mpr ⟨endpoint, member, place⟩) other
  | secondAvailable request fromPosition toPosition checking =>
      have quiet : isQuiet p.controller.worker = true := by rw [checking]; rfl
      have ready := coherent.ready fromPosition
      rw [checking] at ready
      rw [pendingCall, checking] at pending
      cases pending
      rw [checking] at relies
      refine coherent.turns quiet rfl table ⟨relies.1, relies.2.2⟩ ?_
      intro position readied
      rcases List.mem_cons.mp readied with rfl | second
      · exact ready List.mem_cons_self
      · rw [List.mem_singleton.mp second]
        exact found (Option.some.inj positive)
  | robotAvailable request robotPosition profile checking =>
      rw [checking] at relies
      exact coherent.turns (by rw [checking]; rfl) rfl table relies nobody

end Reads

section Methods

theorem answer_some {robotConfig : RobotAgent.Config} {r robot : Robot} {call : Call}
    {method : RobotAgent.Event} {reply : Bool} (calls : call.method = some method)
    (answered : answer robotConfig r call = some (robot, reply)) :
    RobotAgent.step robotConfig r method = some (robot, [.result reply]) := by
  unfold answer at answered
  rw [calls] at answered
  simp only at answered
  split at answered
  next taken =>
    cases answered
    exact taken
  · contradiction

variable {r robot : Robot} {notices : List Position} {remote : RemoteRobot}
  {lastSwitch : Option (Position × Position)} {fromPosition toPosition : Position}

theorem Follows.reconfigured (follows : Follows r notices remote lastSwitch (.free position))
    (same : robot.position = r.position) (settled : InPhase robot .settled) :
    Follows robot notices (setAdaptivityFlag remote) none (.free position) where
  position := same.trans follows.position
  phase := settled
  remotePosition := follows.remotePosition
  running := follows.running
  notices := follows.notices
  subscribed := by simp [Stage.isNoticed]
  last := by simp [Stage.switch]
  reset := by simp [Stage.isReset]
  done := by simp

theorem Follows.switches (follows : Follows r notices remote lastSwitch (.free fromPosition))
    (same : robot.position = r.position) (heading : InPhase robot (.heading toPosition)) :
    Follows robot notices (setAdaptivityFlag remote) (some (fromPosition, toPosition))
      (.asked fromPosition toPosition) where
  position := same.trans follows.position
  phase := heading
  remotePosition := follows.remotePosition
  running := follows.running
  notices := follows.notices
  subscribed := by simp [Stage.isNoticed]
  last := by simp [Stage.switch]
  reset := by simp [Stage.isReset]
  done := by simp

theorem Follows.commits (follows : Follows r notices remote lastSwitch
      (.rekeyed fromPosition toPosition))
    (same : robot.position = r.position) (committing : InPhase robot .committing) :
    Follows robot notices remote lastSwitch (.committed fromPosition toPosition) where
  position := same.trans follows.position
  phase := committing
  remotePosition := follows.remotePosition
  running := follows.running
  notices := follows.notices
  subscribed := follows.subscribed
  last := follows.last
  reset := follows.reset
  done := by simp

/-- A robot has accepted to adapt, and the controller flags it. -/
theorem Coherent.flags (coherent : Coherent config p stage) (member : endpoint ∈ config.endpoints)
    (place : (stage endpoint).place = .registered position) {next : Stage}
    (there : next.place = .registered position)
    (agrees : Agrees config later (Function.update stage endpoint next))
    (unfinished : Unfinished later)
    (flagged : ∀ other, robotAt later other =
      if other = .registered position then
        (findRobot p.controller position).map setAdaptivityFlag
      else robotAt p.controller other)
    (one : OneDriver robot)
    (follows : ∀ remote, Follows (p.robots endpoint) (p.notices endpoint) remote
      (p.lastSwitch endpoint) (stage endpoint) →
        Follows robot (p.notices endpoint) (setAdaptivityFlag remote) lastSwitch next)
    (ready : ∀ position ∈ readied later.worker, ∀ other ∈ config.endpoints,
      (Function.update stage endpoint next other).place = .registered position →
        Function.update stage endpoint next other = .free position ∧
          (Function.update p.robots endpoint robot other).robotState = .available) :
    Coherent config
      { p with
        controller := later
        robots := Function.update p.robots endpoint robot
        lastSwitch := Function.update p.lastSwitch endpoint lastSwitch }
      (Function.update stage endpoint next) := by
  refine coherent.replace agrees unfinished ?_ ?_ ?_ ?_ ready
  · simp only [Function.update_self]
    exact one
  · intro remote found
    simp only [Function.update_self]
    have found : robotAt later next.place = some remote := found
    rw [flagged, if_pos there] at found
    obtain ⟨before, here, rfl⟩ := Option.map_eq_some_iff.mp found
    exact follows before (coherent.follows endpoint member before (by rw [place]; exact here))
  · intro other different
    exact ⟨Function.update_of_ne different _ _, rfl, Function.update_of_ne different _ _⟩
  · intro other inside different
    refine (flagged _).trans (if_neg ?_)
    intro here
    exact different (coherent.agrees.unique inside member (here.trans place.symm))

theorem robotAt_updateRobot {later : Controller}
    (robots : later.positionRemoteRobotMap =
      (updateRobot c position setAdaptivityFlag).positionRemoteRobotMap)
    (held : robotAt c .held = none) (noHeld : robotAt later .held = none) (other : Place) :
    robotAt later other =
      if other = .registered position then (findRobot c position).map setAdaptivityFlag
      else robotAt c other := by
  cases other with
  | registered there =>
      have same : robotAt later (.registered there) =
          robotAt (updateRobot c position setAdaptivityFlag) (.registered there) := by
        simp only [robotAt, findRobot, robots]
      rw [same]
      exact robotAt_updateAt c setAdaptivityFlag (.registered position) (.registered there)
  | held =>
      rw [if_neg (by simp), held]
      exact noHeld

theorem reconfigure_coherent (coherent : Coherent config p stage) {request : Request}
    {profile : String} {reply : Bool}
    (worker : p.controller.worker = .reconfiguring request position profile)
    (member : endpoint ∈ config.endpoints)
    (place : (stage endpoint).place = .registered position)
    (answered : answer (config.robotAt endpoint) (p.robots endpoint) (.reconfigure profile) =
      some (robot, reply)) :
    Coherent config
      { p with
        controller := setWorker (updateRobot p.controller position
          (if some reply = some true then setAdaptivityFlag else afterCall (some reply)))
          (.choosing request)
        robots := Function.update p.robots endpoint robot
        lastSwitch :=
          if reply then Function.update p.lastSwitch endpoint none else p.lastSwitch } stage := by
  have quiet : isQuiet p.controller.worker = true := by rw [worker]; rfl
  have taken := answer_some rfl answered
  have step := (RobotAgent.step_cases taken).2
  cases reply with
  | false =>
      rcases RobotAgent.reconfigure_settled step with ⟨_, rfl⟩ | ⟨accepted, _⟩
      · rw [Function.update_eq_self]
        have seen := coherent.updates (afterCall (some false)) (fun _ => rfl)
          (fun robot => seen_refl robot) (.registered position)
        exact seen.turns quiet rfl (coherent.agrees.toSwapTable.transport rfl (.inr rfl)) trivial
          (fun position none => absurd none List.not_mem_nil)
      · simp at accepted
  | true =>
      rcases RobotAgent.reconfigure_settled step with ⟨refused, _⟩ | ⟨_, available, same, settled⟩
      · simp at refused
      · have free := coherent.free_at member available place
        have unchanged : Function.update stage endpoint (.free position) = stage := by
          rw [← free, Function.update_eq_self]
        have next : isQuiet (.choosing request) = true := rfl
        have flagged := coherent.agrees.updated setAdaptivityFlag (fun _ => rfl)
          (.registered position)
        have agrees := flagged.turns quiet next
          (flagged.toSwapTable.transport rfl (.inr rfl)) trivial
        have one := RobotAgent.step_oneDriver (coherent.oneDriver endpoint member)
          (fun commit => by contradiction) step
        rw [← unchanged]
        refine coherent.flags member place rfl (by rw [unchanged]; exact agrees) ?_
          (robotAt_updateRobot rfl (held_of_quiet quiet) rfl) one ?_
          (fun position none => absurd none List.not_mem_nil)
        · intro entry inside both
          exact absurd (coherent.unfinished entry inside both)
            (not_completing_of_quiet quiet entry.1)
        · intro remote follows
          rw [free] at follows
          exact follows.reconfigured same settled

end Methods

section Switches

variable {robot : Robot} {fromPosition toPosition : Position} {request : Request} {reply : Bool}

theorem Coherent.switch_answered (coherent : Coherent config p stage)
    (member : endpoint ∈ config.endpoints) (free : stage endpoint = .free fromPosition)
    (available : (p.robots endpoint).robotState = .available) (target : onBelt config toPosition)
    (different : fromPosition ≠ toPosition)
    (answered : answer (config.robotAt endpoint) (p.robots endpoint) (.switchPosition toPosition) =
      some (robot, reply)) :
    reply = true ∧ OneDriver robot ∧ ∀ remote,
      Follows (p.robots endpoint) (p.notices endpoint) remote (p.lastSwitch endpoint)
          (stage endpoint) →
        Follows robot (p.notices endpoint) (setAdaptivityFlag remote)
          (some (fromPosition, toPosition)) (.asked fromPosition toPosition) := by
  have one := coherent.oneDriver endpoint member
  have taken := answer_some rfl answered
  have elsewhere : toPosition ≠ (p.robots endpoint).position := by
    obtain ⟨remote, found, _⟩ := coherent.agrees.keeps member
    have here := (coherent.follows endpoint member remote found).position
    rw [free] at here
    intro same
    exact different (here.symm.trans same.symm)
  obtain ⟨accepted, same, heading⟩ :=
    RobotAgent.switch_accepted one available target.1 target.2 elsewhere taken
  refine ⟨by simpa using accepted, ?_, ?_⟩
  · exact RobotAgent.step_oneDriver one (fun commit => by contradiction)
      (RobotAgent.step_cases taken).2
  · intro remote follows
    rw [free] at follows
    exact follows.switches same heading

theorem Agrees.different_opens (agrees : Agrees config c stage)
    (opens : ControllerAgent.opens c.worker = [fromPosition, toPosition]) :
    fromPosition ≠ toPosition := by
  have different := agrees.different
  rw [opens] at different
  simpa using different

theorem switchFirst_coherent (coherent : Coherent config p stage)
    (worker : p.controller.worker = .switchingFirst request fromPosition toPosition)
    (member : endpoint ∈ config.endpoints)
    (place : (stage endpoint).place = .registered fromPosition)
    (answered : answer (config.robotAt endpoint) (p.robots endpoint) (.switchPosition toPosition) =
      some (robot, reply)) :
    reply = true ∧
      (isRegistered p.controller toPosition →
        Coherent config
          { p with
            controller := setWorker (updateRobot p.controller fromPosition setAdaptivityFlag)
              (.switchingSecond request fromPosition toPosition)
            robots := Function.update p.robots endpoint robot
            lastSwitch :=
              Function.update p.lastSwitch endpoint (some (fromPosition, toPosition)) }
          (Function.update stage endpoint (.asked fromPosition toPosition))) ∧
      (¬ isRegistered p.controller toPosition →
        Coherent config
          { p with
            controller := setWorker
              (addSwap (updateRobot p.controller fromPosition setAdaptivityFlag) fromPosition
                toPosition true) (.choosing request)
            robots := Function.update p.robots endpoint robot
            lastSwitch :=
              Function.update p.lastSwitch endpoint (some (fromPosition, toPosition)) }
          (Function.update stage endpoint (.asked fromPosition toPosition))) := by
  have quiet : isQuiet p.controller.worker = true := by rw [worker]; rfl
  have ready := coherent.ready
  rw [worker] at ready
  obtain ⟨free, available⟩ := ready fromPosition List.mem_cons_self endpoint member place
  have relies := coherent.agrees.worker
  rw [worker] at relies
  obtain ⟨_, target, _⟩ := relies
  have different := coherent.agrees.different_opens (by rw [worker]; rfl)
  obtain ⟨accepted, one, follows⟩ :=
    coherent.switch_answered member free available target different answered
  have flagged := coherent.agrees.updated setAdaptivityFlag (fun _ => rfl)
    (.registered fromPosition)
  have unfinished : ∀ entry ∈ p.controller.pendingSwaps, entry.2.isAcknowledged ≠ true :=
    fun entry inside both =>
      not_completing_of_quiet quiet entry.1 (coherent.unfinished entry inside both)
  refine ⟨accepted, fun registered => ?_, fun alone => ?_⟩
  · refine coherent.flags member place rfl
      (flagged.switches_first worker member free (isRegistered_updateAt.mpr registered)) ?_
      (robotAt_updateRobot rfl (held_of_quiet quiet) rfl) one follows ?_
    · exact fun entry inside both => absurd both (unfinished entry inside)
    · intro position readied other inside there
      rw [List.mem_singleton.mp readied] at there ⊢
      have apart : other ≠ endpoint := by
        rintro rfl
        rw [Function.update_self] at there
        exact different (Place.registered.inj there)
      rw [Function.update_of_ne apart] at there ⊢
      rw [Function.update_of_ne apart]
      exact ready toPosition (List.mem_cons_of_mem _ List.mem_cons_self) other inside there
  · refine coherent.flags member place rfl
      (flagged.switches_only worker member free
        (fun registered => alone (isRegistered_updateAt.mp registered))) ?_
      (robotAt_updateRobot rfl (held_of_quiet quiet) rfl) one follows
      (fun position none => absurd none List.not_mem_nil)
    intro entry inside both
    rcases List.mem_append.mp inside with before | added
    · exact absurd both (unfinished entry before)
    · rw [List.mem_singleton.mp added, newSwap_open] at both
      contradiction

theorem switchSecond_coherent (coherent : Coherent config p stage)
    (worker : p.controller.worker = .switchingSecond request fromPosition toPosition)
    (member : endpoint ∈ config.endpoints)
    (place : (stage endpoint).place = .registered toPosition)
    (answered : answer (config.robotAt endpoint) (p.robots endpoint)
      (.switchPosition fromPosition) = some (robot, reply)) :
    reply = true ∧
      Coherent config
        { p with
          controller := setWorker
            (addSwap (updateRobot p.controller toPosition setAdaptivityFlag) fromPosition
              toPosition false) (.choosing request)
          robots := Function.update p.robots endpoint robot
          lastSwitch := Function.update p.lastSwitch endpoint (some (toPosition, fromPosition)) }
        (Function.update stage endpoint (.asked toPosition fromPosition)) := by
  have ready := coherent.ready
  rw [worker] at ready
  obtain ⟨free, available⟩ := ready toPosition List.mem_cons_self endpoint member place
  have relies := coherent.agrees.worker
  rw [worker] at relies
  obtain ⟨_, target, _⟩ := relies
  have different := coherent.agrees.different_opens (by rw [worker]; rfl)
  obtain ⟨accepted, one, follows⟩ :=
    coherent.switch_answered member free available target different.symm answered
  have flagged := coherent.agrees.updated setAdaptivityFlag (fun _ => rfl)
    (.registered toPosition)
  refine ⟨accepted, coherent.flags member place rfl (flagged.switches_second worker member free)
    ?_ (robotAt_updateRobot rfl (by rw [robotAt, worker]) rfl) one follows
    (fun position none => absurd none List.not_mem_nil)⟩
  intro entry inside both
  rcases List.mem_append.mp inside with before | added
  · have completing := coherent.unfinished entry before both
    rw [worker] at completing
    exact absurd completing id
  · rw [List.mem_singleton.mp added, newSwap_open] at both
    contradiction

end Switches

section Commits

variable {robot : Robot} {fromPosition toPosition : Position} {key : SwapKey} {reply : Bool}

/-- A robot that is back in the map has arrived and accepts the commit. -/
theorem Coherent.commit_answered (coherent : Coherent config p stage)
    (member : endpoint ∈ config.endpoints)
    (returns : (stage endpoint).returning = some (fromPosition, toPosition))
    (answered : answer (config.robotAt endpoint) (p.robots endpoint) .commitNewPosition =
      some (robot, reply)) :
    reply = true ∧ OneDriver robot ∧ ∀ remote,
      Follows (p.robots endpoint) (p.notices endpoint) remote (p.lastSwitch endpoint)
          (stage endpoint) →
        Follows robot (p.notices endpoint) remote (p.lastSwitch endpoint)
          (.committed fromPosition toPosition) := by
  have one := coherent.oneDriver endpoint member
  have taken := answer_some rfl answered
  have rekeyed := Stage.rekeyed_of_returning returns
  have arrived : InPhase (p.robots endpoint) .arrived := by
    obtain ⟨remote, found, _⟩ := coherent.agrees.keeps member
    have inPhase := (coherent.follows endpoint member remote found).phase
    rw [rekeyed] at inPhase
    exact inPhase
  obtain ⟨accepted, same, committing⟩ := RobotAgent.commit_accepted arrived taken
  refine ⟨by simpa using accepted, ?_, ?_⟩
  · exact RobotAgent.step_oneDriver one (fun _ => arrived.2.2) (RobotAgent.step_cases taken).2
  · intro remote follows
    rw [rekeyed] at follows
    exact follows.commits same committing

theorem commitLast_coherent (coherent : Coherent config p stage)
    (worker : p.controller.worker = .committingFirst key none toPosition ∨
      p.controller.worker = .committingSecond key toPosition)
    (left : Left config stage key) (member : endpoint ∈ config.endpoints)
    (returns : (stage endpoint).returning = some (fromPosition, toPosition))
    (answered : answer (config.robotAt endpoint) (p.robots endpoint) .commitNewPosition =
      some (robot, reply)) :
    reply = true ∧
      Coherent config
        { p with
          controller := setWorker (eraseSwap p.controller key) .betweenHandlers
          robots := Function.update p.robots endpoint robot }
        (Function.update stage endpoint (.committed fromPosition toPosition)) := by
  obtain ⟨accepted, one, follows⟩ := coherent.commit_answered member returns answered
  have rekeyed := Stage.rekeyed_of_returning returns
  have noHeld : robotAt p.controller .held = none := by
    rcases worker with worker | worker <;> rw [robotAt, worker]
  have views : ∀ place, robotAt (setWorker (eraseSwap p.controller key) .betweenHandlers) place =
      robotAt p.controller place := by
    intro place
    cases place with
    | registered position => rfl
    | held => exact noHeld.symm
  refine ⟨accepted, coherent.replace (coherent.agrees.commits_last worker left member returns)
    ?_ ?_ ?_ ?_ (fun other _ _ => views _) (fun position none => absurd none List.not_mem_nil)⟩
  · intro entry inside both
    obtain ⟨before, notErased⟩ := List.mem_filter.mp inside
    have completing := coherent.unfinished entry before both
    have same : key = entry.1 := by
      rcases worker with worker | worker <;> rw [worker] at completing <;> exact completing
    simp [same] at notErased
  · simp only [Function.update_self]
    exact one
  · intro remote found
    simp only [Function.update_self]
    rw [views] at found
    refine follows remote (coherent.follows endpoint member remote ?_)
    rw [rekeyed]
    exact found
  · exact fun other different => ⟨Function.update_of_ne different _ _, rfl, rfl⟩

theorem commitFirst_coherent (coherent : Coherent config p stage) {second : RemoteRobot}
    (worker : p.controller.worker = .committingFirst key (some second) toPosition)
    (table : key ∈ swapKeys p.controller) (left : Left config stage key)
    (member : endpoint ∈ config.endpoints)
    (returns : (stage endpoint).returning = some (fromPosition, toPosition))
    (same : swapKey fromPosition toPosition = key)
    (unregistered : ¬ isRegistered p.controller fromPosition)
    (outside : ∀ other ∈ config.endpoints, ∀ switch, (stage other).outside = some switch →
      switch = (toPosition, fromPosition))
    (answered : answer (config.robotAt endpoint) (p.robots endpoint) .commitNewPosition =
      some (robot, reply)) :
    reply = true ∧
      Coherent config
        { p with
          controller := commitSecond p.controller key (some second)
          robots := Function.update p.robots endpoint robot }
        (Function.update
          (Function.update stage endpoint (.committed fromPosition toPosition))
          second.endpoint (.rekeyed toPosition fromPosition)) := by
  obtain ⟨accepted, one, follows⟩ := coherent.commit_answered member returns answered
  have rekeyed := Stage.rekeyed_of_returning returns
  have different := different_of_ordered (same ▸ coherent.agrees.ordered _ table)
  have kept : robotAt p.controller .held = some second := by rw [robotAt, worker]
  have served : servedAt p.controller .held = some second.endpoint := by
    rw [servedAt, kept]
    rfl
  obtain ⟨secondMember, secondPlace⟩ := (coherent.agrees.served _ _).mp served
  have held : stage second.endpoint = .held toPosition fromPosition := by
    obtain ⟨switch, leaves⟩ := Stage.place_eq_held.mp secondPlace
    rw [outside _ secondMember switch leaves] at leaves
    exact Stage.held_of_outside leaves
  have followed := coherent.follows second.endpoint secondMember second
    (by rw [secondPlace]; exact kept)
  rw [held] at followed
  have arrived : second.position = fromPosition := followed.remotePosition
  have apart : endpoint ≠ second.endpoint := by
    rintro rfl
    rw [rekeyed] at held
    contradiction
  refine ⟨accepted, ?_⟩
  rw [commitSecond, arrived]
  have views : ∀ position,
      robotAt (setWorker (insertRobot p.controller fromPosition (resetAdaptivityFlag second))
        (.committingSecond key fromPosition)) (.registered position) =
      if position = fromPosition then some (resetAdaptivityFlag second)
      else findRobot p.controller position := fun position => findRobot_insertRobot _ _ _ _
  refine
    { agrees := coherent.agrees.commits_first worker table left member returns same unregistered
        held
      unfinished := ?_
      oneDriver := ?_
      follows := ?_
      ready := fun position none => absurd none List.not_mem_nil }
  · intro entry inside both
    have completing := coherent.unfinished entry inside both
    rw [worker] at completing
    exact completing
  · intro other inside
    by_cases here : other = endpoint
    · subst here
      simp only [Function.update_self]
      exact one
    · simp only [Function.update_of_ne here]
      exact coherent.oneDriver other inside
  · intro other inside remote found
    by_cases isSecond : other = second.endpoint
    · subst isSecond
      rw [Function.update_self] at found ⊢
      rw [Stage.place, views, if_pos rfl] at found
      cases found
      simp only [Function.update_of_ne apart.symm]
      exact followed.returns
    · rw [Function.update_of_ne isSecond] at found ⊢
      by_cases here : other = endpoint
      · subst here
        rw [Function.update_self] at found ⊢
        rw [Stage.place, views, if_neg different.symm] at found
        simp only [Function.update_self]
        refine follows remote (coherent.follows other inside remote ?_)
        rw [rekeyed]
        exact found
      · rw [Function.update_of_ne here] at found ⊢
        simp only [Function.update_of_ne here]
        refine coherent.follows other inside remote ?_
        cases place : (stage other).place with
        | held => exact absurd (coherent.agrees.unique inside secondMember
            (place.trans secondPlace.symm)) isSecond
        | registered position =>
            rw [place, views, if_neg] at found
            · exact found
            · rintro rfl
              exact unregistered (coherent.agrees.isRegistered_iff.mpr ⟨other, inside, place⟩)

end Commits

section Replies

theorem pendingCall_switch {newPosition : Position}
    (pending : pendingCall c = some (position, .switchPosition newPosition)) :
    ∃ request, c.worker = .switchingFirst request position newPosition ∨
      c.worker = .switchingSecond request newPosition position := by
  unfold pendingCall at pending
  split at pending
  case h_4 request _ _ worker =>
    cases pending
    exact ⟨request, .inl worker⟩
  case h_5 request _ _ worker =>
    cases pending
    exact ⟨request, .inr worker⟩
  all_goals simp at pending

theorem pendingCall_reconfigure {profile : String}
    (pending : pendingCall c = some (position, .reconfigure profile)) :
    ∃ request, c.worker = .reconfiguring request position profile := by
  unfold pendingCall at pending
  split at pending
  case h_6 request _ _ worker =>
    cases pending
    exact ⟨request, worker⟩
  all_goals simp at pending

theorem pendingCall_commit (pending : pendingCall c = some (position, .commitNewPosition)) :
    (∃ key second, c.worker = .committingFirst key second position) ∨
      ∃ key, c.worker = .committingSecond key position := by
  unfold pendingCall at pending
  split at pending
  case h_7 key second _ worker =>
    cases pending
    exact .inl ⟨key, second, worker⟩
  case h_8 key _ worker =>
    cases pending
    exact .inr ⟨key, worker⟩
  all_goals simp at pending

theorem callRobot_cases (acts : callRobot config p = some (after, outputs)) :
    ∃ position call robot reply later, pendingCall p.controller = some (position, call) ∧
      answer (config.robotAt (endpointAt p.controller position))
        (p.robots (endpointAt p.controller position)) call = some (robot, reply) ∧
      ControllerAgent.step config.controller p.controller (call.returned reply) =
        some (later, outputs) ∧
      after =
        { p with
          controller := later
          robots := Function.update p.robots (endpointAt p.controller position) robot
          lastSwitch :=
            if reply then
              Function.update p.lastSwitch (endpointAt p.controller position)
                (call.switched position
                  (p.lastSwitch (endpointAt p.controller position)))
            else p.lastSwitch } := by
  unfold callRobot at acts
  split at acts
  · contradiction
  next position call pending =>
    simp only at acts
    split at acts
    · contradiction
    next robot reply answered =>
      unfold controllerActs at acts
      split at acts
      · contradiction
      next later told ran =>
        cases acts
        exact ⟨position, call, robot, reply, later, pending, answered, ran, rfl⟩

theorem answer_read {robotConfig : RobotAgent.Config} {r robot : Robot} {reply : Bool}
    (answered : answer robotConfig r .readAvailability = some (robot, reply)) :
    robot = r ∧ reply = r.attributes.availability := by
  simp only [answer, Call.method] at answered
  split at answered
  · cases answered
    exact ⟨rfl, rfl⟩
  · contradiction

theorem afterCall_replied (reply : Bool) : afterCall (some reply) = id := by
  funext robot
  rfl

/-- No call is refused, so none leaves a swap half done. -/
def Refused : Output → Prop
  | .commitInstructed _ _ reply | .switchInstructed _ _ reply => reply ≠ some true
  | _ => False

variable {fromPosition toPosition : Position} {request : Request} {robot : Robot} {reply : Bool}

theorem switch_coherent (coherent : Coherent config p stage) {newPosition : Position}
    (pending : pendingCall p.controller = some (position, .switchPosition newPosition))
    (answered : answer (config.robotAt (endpointAt p.controller position))
      (p.robots (endpointAt p.controller position)) (.switchPosition newPosition) =
      some (robot, reply))
    (ran : positionSwitched p.controller (some reply) = some (later, outputs)) :
    reply = true ∧ (∀ output ∈ outputs, ¬ Refused output) ∧ ∃ stage, Coherent config
      { p with
        controller := later
        robots := Function.update p.robots (endpointAt p.controller position) robot
        lastSwitch :=
          Function.update p.lastSwitch (endpointAt p.controller position)
            (some (position, newPosition)) } stage := by
  obtain ⟨request, worker | worker⟩ := pendingCall_switch pending
  · have relies := coherent.agrees.worker
    rw [worker] at relies
    obtain ⟨member, place⟩ := coherent.agrees.registered_robot relies.1
    obtain ⟨accepted, other, alone⟩ :=
      switchFirst_coherent coherent worker member place answered
    subst accepted
    refine ⟨rfl, ?_⟩
    have marked : isRegistered
        (updateAt p.controller setAdaptivityFlag (.registered position)) newPosition ↔
        isRegistered p.controller newPosition := isRegistered_updateAt
    simp only [positionSwitched, worker, switchSecond] at ran
    split at ran
    next registered =>
      cases ran
      exact ⟨by simp [Refused], _, other (marked.mp registered)⟩
    next unregistered =>
      cases ran
      exact ⟨by simp [Refused], _,
        alone (fun registered => unregistered (marked.mpr registered))⟩
  · have relies := coherent.agrees.worker
    rw [worker] at relies
    obtain ⟨member, place⟩ := coherent.agrees.registered_robot relies.1
    obtain ⟨accepted, switched⟩ := switchSecond_coherent coherent worker member place answered
    subst accepted
    refine ⟨rfl, ?_⟩
    simp only [positionSwitched, worker, afterCall_replied] at ran
    cases ran
    exact ⟨by simp [Refused], _, switched⟩

theorem commit_coherent (coherent : Coherent config p stage)
    (pending : pendingCall p.controller = some (position, .commitNewPosition))
    (answered : answer (config.robotAt (endpointAt p.controller position))
      (p.robots (endpointAt p.controller position)) .commitNewPosition = some (robot, reply))
    (ran : newPositionCommitted p.controller (some reply) = some (later, outputs)) :
    reply = true ∧ (∀ output ∈ outputs, ¬ Refused output) ∧ ∃ stage, Coherent config
      { p with
        controller := later
        robots := Function.update p.robots (endpointAt p.controller position) robot } stage := by
  have seen := coherent.updates (afterCall (some reply)) (fun _ => rfl)
    (fun robot => seen_refl robot) (.registered position)
  have relies := seen.agrees.worker
  rcases pendingCall_commit pending with ⟨key, second, worker⟩ | ⟨key, worker⟩
  · have later : (updateAt p.controller (afterCall (some reply)) (.registered position)).worker =
        .committingFirst key second position := worker
    rw [later] at relies
    obtain ⟨table, left, endpoint, member, fromPosition, returns, same, free, outside⟩ := relies
    have isHere := coherent.agrees.endpointAt_eq member (Stage.place_of_returning returns)
    simp only [newPositionCommitted, worker] at ran
    rw [isHere] at answered ran ⊢
    cases second with
    | none =>
        obtain ⟨accepted, committed⟩ :=
          commitLast_coherent seen (.inl later) left member returns answered
        cases ran
        exact ⟨accepted, by simp [Refused, accepted], _, committed⟩
    | some second =>
        obtain ⟨accepted, committed⟩ :=
          commitFirst_coherent seen later table left member returns same (free rfl) outside
            answered
        cases ran
        exact ⟨accepted, by simp [Refused, accepted], _, committed⟩
  · have later : (updateAt p.controller (afterCall (some reply)) (.registered position)).worker =
        .committingSecond key position := worker
    rw [later] at relies
    obtain ⟨left, endpoint, member, fromPosition, returns, same⟩ := relies
    have isHere := coherent.agrees.endpointAt_eq member (Stage.place_of_returning returns)
    simp only [newPositionCommitted, worker] at ran
    rw [isHere] at answered ran ⊢
    obtain ⟨accepted, committed⟩ :=
      commitLast_coherent seen (.inr later) left member returns answered
    cases ran
    exact ⟨accepted, by simp [Refused, accepted], _, committed⟩

/-- A call keeps the plant coherent, and no robot refuses it. -/
theorem call_coherent (coherent : Coherent config p stage)
    (acts : callRobot config p = some (after, outputs)) :
    (∀ output ∈ outputs, ¬ Refused output) ∧ ∃ stage, Coherent config after stage := by
  obtain ⟨position, call, robot, reply, later, pending, answered, ran, rfl⟩ := callRobot_cases acts
  cases call with
  | readAvailability =>
      obtain ⟨_, read, same⟩ := Option.map_eq_some_iff.mp ran
      cases same
      obtain ⟨rfl, rfl⟩ := answer_read answered
      refine ⟨by simp, stage, ?_⟩
      simp only [Call.switched, Function.update_eq_self, ite_self]
      refine read_coherent coherent pending (fun positive => ?_) read
      have registered : isRegistered p.controller position := by
        have relies := coherent.agrees.worker
        unfold pendingCall at pending
        split at pending <;> cases pending
        case h_1 worker => rw [worker] at relies; exact relies.1
        case h_2 worker => rw [worker] at relies; exact relies.2.1
        case h_3 worker => rw [worker] at relies; exact relies
      obtain ⟨member, _⟩ := coherent.agrees.registered_robot registered
      exact (coherent.oneDriver _ member).availability.mp positive
  | switchPosition newPosition =>
      obtain ⟨rfl, accepted, switched⟩ := switch_coherent coherent pending answered ran
      exact ⟨accepted, switched⟩
  | reconfigure profile =>
      obtain ⟨request, worker⟩ := pendingCall_reconfigure pending
      have relies := coherent.agrees.worker
      rw [worker] at relies
      obtain ⟨member, place⟩ := coherent.agrees.registered_robot relies
      simp only [ControllerAgent.step, Call.returned, capabilitiesInstructed, worker] at ran
      cases ran
      exact ⟨by simp [Refused], stage, reconfigure_coherent coherent worker member place answered⟩
  | commitNewPosition =>
      obtain ⟨rfl, accepted, committed⟩ := commit_coherent coherent pending answered ran
      refine ⟨accepted, ?_⟩
      simp only [if_true, Call.switched, Function.update_eq_self]
      exact committed

end Replies

end CpsKitchen.Rearrangement
