import CpsKitchen.Rearrangement.JoiningCalls

/-!
# A robot enters the map

The robot that the worker puts into the map is free there. With that every run
from a kitchen without a registered robot keeps the robots coherent.
-/

namespace CpsKitchen.Rearrangement.Joining

open CpsKitchen.Reactive CpsKitchen.Recipes
open CpsKitchen.RobotAgent (InPhase OneDriver)
open CpsKitchen.ControllerAgent (Controller RemoteRobot Place Output robotAt findRobot isRegistered
  isRobotPositionSwapping endpointAt swapKeys setWorker post)

set_option autoImplicit false

variable {config : Config} {k : Kitchen} {p after : Plant} {c later : Controller}
  {registered : Finset String} {stage : String → Stage} {outputs : List Output}

section Newcomers

variable {robot : RemoteRobot} {position : Position}

/-- A robot that was on its way is in the map now. -/
structure Entered (c after : Controller) (robot : RemoteRobot) (position : Position) : Prop where
  before : c.worker = .betweenHandlers
  worker : after.worker = .betweenHandlers
  swaps : after.pendingSwaps = c.pendingSwaps
  posted : after.posted = c.posted
  found : ∀ other, findRobot after other =
    if other = position then some robot else findRobot c other
  absent : ¬ isRegistered c position
  settled : ¬ isRobotPositionSwapping c position

theorem agrees_enters (agrees : Agrees (among config registered) c stage)
    (new : robot.endpoint ∉ registered) (entered : Entered c later robot position) :
    Agrees (among config (insert robot.endpoint registered)) later
      (Function.update stage robot.endpoint (.free position)) := by
  have keys : swapKeys later = swapKeys c := by
    rw [swapKeys, swapKeys, entered.swaps]
  have acks : postedAcks later = postedAcks c := by
    rw [postedAcks, postedAcks, entered.posted]
  have old : ∀ {endpoint}, endpoint ∈ registered →
      Function.update stage robot.endpoint (.free position) endpoint = stage endpoint := by
    intro endpoint member
    refine Function.update_of_ne ?_ _ _
    rintro rfl
    exact new member
  have view : ∀ {View : Type} (read : Stage → Option View), read (.free position) = none →
      ∀ value, (∃ endpoint ∈ insert robot.endpoint registered,
        read (Function.update stage robot.endpoint (.free position) endpoint) = some value) ↔
          ∃ endpoint ∈ registered, read (stage endpoint) = some value := by
    intro View read free value
    constructor
    · rintro ⟨endpoint, member, here⟩
      rcases Finset.mem_insert.mp member with rfl | member
      · rw [Function.update_self, free] at here
        contradiction
      · rw [old member] at here
        exact ⟨endpoint, member, here⟩
    · rintro ⟨endpoint, member, here⟩
      refine ⟨endpoint, Finset.mem_insert_of_mem member, ?_⟩
      rw [old member]
      exact here
  have waiting : ∀ switch, Waiting (among config (insert robot.endpoint registered))
      (Function.update stage robot.endpoint (.free position)) switch ↔
        Waiting (among config registered) stage switch :=
      fun switch => view Stage.waiting rfl switch
  refine
    { ordered := by rw [keys]; exact agrees.ordered
      disjoint := by rw [keys]; exact agrees.disjoint
      opening := by rw [entered.worker]; simp [ControllerAgent.opens]
      different := by rw [entered.worker]; simp [ControllerAgent.opens]
      served := ?_
      acks := by
        rw [acks]
        exact fun switch => (agrees.acks switch).trans (view Stage.ack rfl switch).symm
      once := by rw [acks]; exact agrees.once
      registered := by rw [entered.posted]; exact agrees.registered
      acked := ?_
      swapping := ?_
      occupied := ?_
      rekeyed := ?_
      worker := by rw [entered.worker]; trivial }
  · intro place endpoint
    have placed : endpoint ∈ registered →
        (Function.update stage robot.endpoint (.free position) endpoint).place =
          (stage endpoint).place := fun member => by rw [old member]
    have here : (Function.update stage robot.endpoint (.free position) robot.endpoint).place =
        .registered position := by
      rw [Function.update_self]
      rfl
    rw [among, Finset.mem_insert]
    cases place with
    | held =>
        have nobody : servedAt later .held = none := by
          rw [servedAt, robotAt, entered.worker]
          rfl
        rw [nobody]
        refine iff_of_false (by simp) ?_
        rintro ⟨rfl | member, there⟩
        · rw [here] at there
          contradiction
        · rw [placed member] at there
          have served := (agrees.served .held endpoint).mpr ⟨member, there⟩
          rw [servedAt, robotAt, entered.before] at served
          contradiction
    | registered other =>
        have served : servedAt later (.registered other) =
            if other = position then some robot.endpoint else servedAt c (.registered other) := by
          rw [servedAt, robotAt, entered.found]
          split
          · rfl
          · rfl
        rw [served]
        by_cases same : other = position
        · rw [if_pos same, same]
          constructor
          · intro isIt
            rw [← Option.some.inj isIt]
            exact ⟨.inl rfl, here⟩
          · rintro ⟨rfl | member, there⟩
            · rfl
            · rw [placed member] at there
              exact absurd (agrees.isRegistered_iff.mpr ⟨endpoint, member, there⟩) entered.absent
        · rw [if_neg same, agrees.served]
          constructor
          · rintro ⟨member, there⟩
            exact ⟨.inr member, (placed member).trans there⟩
          · rintro ⟨rfl | member, there⟩
            · rw [here] at there
              exact absurd (Place.registered.inj there).symm same
            · exact ⟨member, (placed member).symm.trans there⟩
  · rw [entered.swaps]
    intro entry member first second same
    rw [waiting]
    exact agrees.acked entry member first second same
  · intro endpoint member switch leaves
    rw [keys]
    rcases Finset.mem_insert.mp member with rfl | member
    · rw [Function.update_self] at leaves
      contradiction
    · rw [old member] at leaves
      rcases agrees.swapping endpoint member switch leaves with table | opening
      · exact .inl table
      · rw [entered.before] at opening
        exact absurd opening id
  · intro key table notCompleting endpoint member other there involved
    rw [keys] at table
    rcases Finset.mem_insert.mp member with rfl | member
    · rw [Function.update_self] at there
      cases there
      exact absurd (ControllerAgent.isRobotPositionSwapping_iff.mpr ⟨key, table, involved⟩)
        entered.settled
    · rw [old member] at there ⊢
      refine agrees.occupied key table ?_ endpoint member other there involved
      rw [entered.before]
      exact id
  · intro endpoint member switch returns
    rcases Finset.mem_insert.mp member with rfl | member
    · rw [Function.update_self] at returns
      contradiction
    · rw [old member] at returns
      have commits := agrees.rekeyed endpoint member switch returns
      rw [entered.before] at commits
      exact absurd commits id

theorem coherent_enters (coherent : Coherent (among config registered) p stage)
    (new : robot.endpoint ∉ registered) (entered : Entered p.controller later robot position)
    (one : OneDriver (p.robots robot.endpoint))
    (follows : Follows (p.robots robot.endpoint) (p.notices robot.endpoint) robot
      (p.lastSwitch robot.endpoint) (.free position)) :
    Coherent (among config (insert robot.endpoint registered)) { p with controller := later }
      (Function.update stage robot.endpoint (.free position)) where
  agrees := agrees_enters coherent.agrees new entered
  unfinished := by
    intro entry member both
    rw [entered.swaps] at member
    have completing := coherent.unfinished entry member both
    rw [entered.before] at completing
    exact absurd completing id
  oneDriver := by
    intro endpoint member
    rcases Finset.mem_insert.mp member with rfl | member
    · exact one
    · exact coherent.oneDriver endpoint member
  follows := by
    intro endpoint member remote found
    rcases Finset.mem_insert.mp member with rfl | member
    · rw [Function.update_self] at found ⊢
      have found : findRobot later position = some remote := found
      rw [entered.found, if_pos rfl] at found
      cases found
      exact follows
    · have apart : endpoint ≠ robot.endpoint := by
        rintro rfl
        exact new member
      rw [Function.update_of_ne apart] at found ⊢
      refine coherent.follows endpoint member remote ?_
      cases place : (stage endpoint).place with
      | held =>
          rw [place, robotAt, entered.worker] at found
          contradiction
      | registered other =>
          rw [place] at found
          have found : findRobot later other = some remote := found
          have elsewhere : other ≠ position := by
            rintro rfl
            exact entered.absent
              (coherent.agrees.isRegistered_iff.mpr ⟨endpoint, member, place⟩)
          rw [entered.found, if_neg elsewhere] at found
          exact found
  ready := by
    intro other readied
    rw [entered.worker] at readied
    exact absurd readied List.not_mem_nil

def robotEntered (c : Controller) (robot : RemoteRobot) (position : Position) : Controller :=
  { ControllerAgent.insertRobot c position robot with
    registeredRobots := (c.registeredRobots + 1) % 2 ^ 32 }

theorem resolveMissed_cases (c : Controller) (position : Position) :
    ControllerAgent.resolveMissedNewPositionCommit c position = setWorker c .betweenHandlers ∨
      ControllerAgent.resolveMissedNewPositionCommit c position =
        setWorker c (.readingPendingCommit position) := by
  unfold ControllerAgent.resolveMissedNewPositionCommit
  split
  · exact .inl rfl
  · split
    · exact .inr rfl
    · exact .inl rfl

theorem resolveMissed_frame (c : Controller) (position : Position) :
    (ControllerAgent.resolveMissedNewPositionCommit c position).posted = c.posted ∧
      (ControllerAgent.resolveMissedNewPositionCommit c position).positionRemoteRobotMap =
        c.positionRemoteRobotMap ∧
      (ControllerAgent.resolveMissedNewPositionCommit c position).running = c.running := by
  rcases resolveMissed_cases c position with same | same
  · rw [same]
    exact ⟨rfl, rfl, rfl⟩
  · rw [same]
    exact ⟨rfl, rfl, rfl⟩

theorem resolveMissed_viewed (position : Position)
    (idle : settledWorker config c = .betweenHandlers) :
    view config (ControllerAgent.resolveMissedNewPositionCommit c position) = view config c := by
  rcases resolveMissed_cases c position with same | same
  · rw [same]
    exact view_setWorker idle.symm
  · rw [same]
    exact view_setWorker idle.symm

theorem view_entered (config : Config) (initializing : c.worker = .initializingRobot robot position)
    (absent : ¬ isRegistered c position) (settled : ¬ isRobotPositionSwapping c position) :
    Entered (view config c) (view config (robotEntered c robot position)) robot position where
  before := by
    rw [view_worker, settledWorker, initializing]
  worker := by
    rw [view_worker]
    simp only [settledWorker, robotEntered, ControllerAgent.insertRobot, initializing]
  swaps := rfl
  posted := rfl
  found := ControllerAgent.findRobot_insertRobot c position robot
  absent := absent
  settled := settled

theorem initialized_cases
    (acts : controllerActs config p (.robotInitialized true) = some (after, outputs)) :
    ∃ robot position, p.controller.worker = .initializingRobot robot position ∧ outputs = [] ∧
      after = { p with
        controller := ControllerAgent.resolveMissedNewPositionCommit
          (robotEntered p.controller robot position) position } := by
  unfold controllerActs at acts
  split at acts
  · contradiction
  next later told ran =>
    cases acts
    obtain ⟨next, initialized, same⟩ := Option.map_eq_some_iff.mp ran
    cases same
    unfold ControllerAgent.robotInitialized at initialized
    split at initialized
    next robot position initializing =>
      cases initialized
      exact ⟨robot, position, initializing, rfl, rfl⟩
    · contradiction

theorem Arrivals.enters (arrivals : Arrivals config registered k)
    (initializing : k.plant.controller.worker = .initializingRobot robot position) :
    Arrivals config (insert robot.endpoint registered)
      { k with
        plant := { k.plant with
          controller := ControllerAgent.resolveMissedNewPositionCommit
            (robotEntered k.plant.controller robot position) position } } := by
  have before : joining k.plant.controller = (robot.endpoint, position) ::
      k.plant.controller.posted.filterMap registration? := by
    rw [joining, initializing]
    rfl
  obtain ⟨posted, robots, _⟩ :=
    resolveMissed_frame (robotEntered k.plant.controller robot position) position
  have connects : connecting (ControllerAgent.resolveMissedNewPositionCommit
      (robotEntered k.plant.controller robot position) position).worker = [] := by
    rcases resolveMissed_cases (robotEntered k.plant.controller robot position) position with
      same | same
    · rw [same]
      rfl
    · rw [same]
      rfl
  have joins : joining (ControllerAgent.resolveMissedNewPositionCommit
      (robotEntered k.plant.controller robot position) position) =
        k.plant.controller.posted.filterMap registration? := by
    rw [joining, connects, posted]
    rfl
  obtain ⟨announced, inside, outside, _⟩ := arrivals.connects initializing
  have once := arrivals.once
  rw [before, List.map_cons, List.nodup_cons] at once
  have others : ∀ {endpoint}, endpoint ∉ insert robot.endpoint registered →
      endpoint ∉ registered := fun outside member => outside (Finset.mem_insert_of_mem member)
  refine
    { served := Finset.insert_subset inside arrivals.served
      known := Finset.insert_subset announced arrivals.known
      outside := fun endpoint member outside => arrivals.outside endpoint member (others outside)
      untold := fun endpoint outside => arrivals.untold endpoint (others outside)
      once := ?_
      coming := ?_
      worker := ?_ }
  · simp only [joins]
    exact once.2
  · intro entry coming
    simp only [joins] at coming
    obtain ⟨announced, inside, outside, here⟩ := arrivals.coming entry (by
      rw [before]
      exact List.mem_cons_of_mem _ coming)
    refine ⟨announced, inside, ?_, here⟩
    intro member
    rcases Finset.mem_insert.mp member with same | member
    · have again : entry.1 ∈ (k.plant.controller.posted.filterMap registration?).map Prod.fst :=
        List.mem_map_of_mem coming
      rw [same] at again
      exact once.1 again
    · exact outside member
  · have served : endpointAt (ControllerAgent.resolveMissedNewPositionCommit
        (robotEntered k.plant.controller robot position) position) position = robot.endpoint := by
      have found := ControllerAgent.findRobot_insertRobot k.plant.controller position robot position
      rw [if_pos rfl] at found
      rw [endpointAt, findRobot, robots]
      exact congrArg (fun found : Option RemoteRobot => (found.map RemoteRobot.endpoint).getD "")
        found
    rcases resolveMissed_cases (robotEntered k.plant.controller robot position) position with
      same | same
    · simp only [same]
      trivial
    · rw [same] at served
      simp only [same]
      have available := (arrivals.outside robot.endpoint inside outside).1.available
      refine ⟨?_, ?_⟩
      · rw [served]
        exact Finset.mem_insert_self _ _
      · simp only [served]
        exact available

theorem initialized_joined (joined : Joined config registered k stage)
    (acts : controllerActs config k.plant (.robotInitialized true) = some (after, outputs)) :
    outputs = [] ∧ ∃ registered stage,
      Joined config registered { k with plant := after } stage := by
  obtain ⟨robot, position, initializing, rfl, rfl⟩ := initialized_cases acts
  have arrivals := joined.arrivals
  have joins := arrivals.worker
  rw [initializing] at joins
  obtain ⟨isThere, runs, noticed, absent, settled⟩ := joins
  obtain ⟨_, inside, outside, here⟩ := arrivals.connects initializing
  obtain ⟨unadapted, _⟩ := arrivals.outside robot.endpoint inside outside
  have untold := arrivals.untold robot.endpoint outside
  have entered := view_entered config initializing absent settled
  have follows : Follows (k.plant.robots robot.endpoint) (k.plant.notices robot.endpoint) robot
      (k.plant.lastSwitch robot.endpoint) (.free position) :=
    { position := here.symm
      phase := by simp [Stage.phase, InPhase, unadapted.available]
      remotePosition := isThere
      running := runs
      notices := by rw [noticed]; simp [Stage.notices]
      subscribed := by simp [Stage.isNoticed]
      last := by simp [Stage.switch]
      reset := by simp [Stage.isReset]
      done := by simp [untold] }
  have coherent := coherent_enters joined.coherent outside entered unadapted.toOneDriver follows
  have idle : settledWorker config (robotEntered k.plant.controller robot position) =
      .betweenHandlers := by
    simp only [settledWorker, robotEntered, ControllerAgent.insertRobot, initializing]
  have later := resolveMissed_viewed position idle
  refine ⟨rfl, insert robot.endpoint registered,
    Function.update stage robot.endpoint (.free position), ?_, ?_, ?_⟩
  · unfold viewed
    simp only [later]
    exact coherent
  · exact arrivals.enters initializing
  · exact (resolveMissed_frame _ _).2.2.trans joined.running

theorem registers_joined (joined : Joined config registered k stage) {endpoint : String}
    {capabilities : Finset String} (member : endpoint ∈ config.endpoints)
    (new : endpoint ∉ k.announced)
    (acts : controllerActs config k.plant
      (.registerRobot endpoint (k.plant.robots endpoint).position capabilities) =
        some (after, outputs)) :
    outputs = [] ∧ Joined config registered ⟨after, insert endpoint k.announced⟩ stage := by
  unfold controllerActs at acts
  split at acts
  · contradiction
  next later told ran =>
    cases acts
    simp only [ControllerAgent.step, joined.running, if_true] at ran
    cases ran
    have arrivals := joined.arrivals
    have unseen : view config (post k.plant.controller (.handleRobotRegistration endpoint
        (k.plant.robots endpoint).position capabilities)) = view config k.plant.controller := by
      have settled : settledWorker config (post k.plant.controller (.handleRobotRegistration
          endpoint (k.plant.robots endpoint).position capabilities)) =
            settledWorker config k.plant.controller := settledWorker_congr rfl fun _ => Iff.rfl
      rw [view, view, settled]
      simp [withoutRegistrations, post, setWorker, isRegistration]
    have joins : joining (post k.plant.controller (.handleRobotRegistration endpoint
        (k.plant.robots endpoint).position capabilities)) =
          joining k.plant.controller ++ [(endpoint, (k.plant.robots endpoint).position)] := by
      simp [joining, post, registration?]
    refine ⟨rfl, ?_, ?_, joined.running⟩
    · unfold viewed
      simp only [unseen]
      exact joined.coherent
    · refine
        { served := arrivals.served
          known := arrivals.known.trans (Finset.subset_insert _ _)
          outside := arrivals.outside
          untold := arrivals.untold
          once := ?_
          coming := ?_
          worker := arrivals.worker }
      · simp only [joins, List.map_append, List.map_singleton]
        refine List.nodup_append.mpr ⟨arrivals.once, List.nodup_singleton _, ?_⟩
        rintro _ earlier _ last rfl
        obtain ⟨entry, coming, isHere⟩ := List.mem_map.mp earlier
        rw [List.mem_singleton.mp last] at isHere
        rw [← isHere] at new
        exact new (arrivals.coming entry coming).1
      · intro entry coming
        simp only [joins] at coming
        rcases List.mem_append.mp coming with earlier | last
        · obtain ⟨announced, inside, outside, here⟩ := arrivals.coming entry earlier
          exact ⟨Finset.mem_insert_of_mem announced, inside, outside, here⟩
        · rw [List.mem_singleton.mp last]
          exact ⟨Finset.mem_insert_self _ _, member,
            fun registered => new (arrivals.known registered), rfl⟩

/-- A robot that has just registered has no commit to make up for. -/
theorem resolve_cases (joined : Joined config registered k stage)
    (acts : resolveMissedCommit config k.plant = some (after, outputs)) :
    (∃ position, k.plant.controller.worker = .readingPendingCommit position) ∧ outputs = [] ∧
      after = { k.plant with controller := setWorker k.plant.controller .betweenHandlers } := by
  have joins := joined.arrivals.worker
  unfold resolveMissedCommit at acts
  split at acts
  next position reading =>
    rw [reading] at joins
    obtain ⟨inside, available⟩ := joins
    have one := joined.coherent.oneDriver _ inside
    have notPending :
        (k.plant.robots
          (endpointAt k.plant.controller position)).attributes.newPositionCommitIsPending
          = false := by
      by_contra pending
      have moves := one.rearranging (one.moving (.inr (Bool.of_not_eq_false pending)))
      exact absurd (available.symm.trans moves.1) (by decide)
    simp only at acts
    split at acts
    · rw [notPending] at acts
      unfold controllerActs at acts
      simp only [ControllerAgent.step, ControllerAgent.pendingCommitRead, reading,
        afterCall_replied, updateRobot_id] at acts
      cases acts
      exact ⟨⟨position, reading⟩, rfl, rfl⟩
    · contradiction
  next position resolving =>
    rw [resolving] at joins
    exact absurd joins id
  · contradiction

theorem resolve_joined (joined : Joined config registered k stage)
    (acts : resolveMissedCommit config k.plant = some (after, outputs)) :
    outputs = [] ∧ Joined config registered { k with plant := after } stage := by
  obtain ⟨⟨position, reading⟩, rfl, rfl⟩ := resolve_cases joined acts
  have unseen : view config (setWorker k.plant.controller .betweenHandlers) =
      view config k.plant.controller := by
    refine view_setWorker ?_
    simp only [settledWorker, setWorker, reading]
  refine ⟨rfl, ?_, ?_, joined.running⟩
  · unfold viewed
    simp only [unseen]
    exact joined.coherent
  · refine joined.arrivals.frame rfl rfl ?_ trivial
    have joins : joining (setWorker k.plant.controller .betweenHandlers) =
        joining k.plant.controller := by
      rw [joining, joining, reading]
      rfl
    rw [joins]

end Newcomers

section Runs

variable {event : Event} {later : Kitchen}

theorem unregistered_registered (unregistered : Unregistered config k) :
    Registered (among config ∅) (viewed config k.plant) := by
  have seen : (viewed config k.plant).controller = ControllerAgent.initial := by
    unfold viewed
    rw [unregistered.controller]
    rfl
  refine
    { unadapted := fun endpoint member => absurd member (Finset.notMem_empty _)
      distinct := fun endpoint member => absurd member (Finset.notMem_empty _)
      registered := fun endpoint member => absurd member (Finset.notMem_empty _)
      others := ?_
      swaps := by rw [seen]; rfl
      idle := by rw [seen]; rfl
      posted := ?_
      lastSwitch := unregistered.lastSwitch }
  · intro position remote found
    rw [seen] at found
    simp [findRobot, ControllerAgent.initial] at found
  · intro handler member
    rw [seen] at member
    exact absurd member List.not_mem_nil

theorem unregistered_joined (unregistered : Unregistered config k) :
    ∃ stage, Joined config ∅ k stage := by
  have initial := unregistered.controller
  refine ⟨_, registered_coherent (unregistered_registered unregistered), ?_, ?_⟩
  · refine
      { served := Finset.empty_subset _
        known := Finset.empty_subset _
        outside := ?_
        untold := fun endpoint _ => unregistered.lastSwitch endpoint
        once := ?_
        coming := ?_
        worker := ?_ }
    · intro endpoint member _
      have started := unregistered.robots endpoint member
      exact ⟨RobotAgent.started_unadapted started, RobotAgent.started_published started⟩
    · rw [initial]
      exact List.nodup_nil
    · intro entry coming
      rw [initial] at coming
      exact absurd coming List.not_mem_nil
    · rw [initial]
      trivial
  · rw [initial]
    rfl

theorem step_joined (joined : Joined config registered k stage)
    (onBelt : SwitchesOnBelt config k event)
    (taken : step config k event = some (later, outputs)) :
    (∀ output ∈ outputs, ¬ Refused output) ∧
      ∃ registered stage, Joined config registered later stage := by
  cases event with
  | plant event =>
      obtain ⟨⟨after, outputs⟩, acted, same⟩ := Option.map_eq_some_iff.mp taken
      cases same
      cases event with
      | robot endpoint event =>
          simp only [Rearrangement.step] at acted
          split at acted
          next own =>
            obtain ⟨_, acts, same⟩ := Option.map_eq_some_iff.mp acted
            cases same
            exact ⟨by simp, registered, robot_joined joined own.1 own.2 acts⟩
          · contradiction
      | controller event =>
          simp only [Rearrangement.step] at acted
          split at acted
          next internal =>
            unfold controllerActs at acted
            split at acted
            · contradiction
            next later told ran =>
              cases acted
              have step := ControllerAgent.step_cases ran
              exact ⟨internal_accepted internal step, registered,
                internal_joined joined internal step⟩
          · contradiction
      | notifyPosition endpoint place =>
          obtain ⟨silent, next⟩ := notify_joined joined acted
          rw [silent]
          exact ⟨by simp, registered, next⟩
      | call =>
          obtain ⟨accepted, next⟩ := call_joined joined onBelt acted
          exact ⟨accepted, registered, next⟩
  | registerRobot endpoint =>
      simp only [step] at taken
      split at taken
      next new =>
        obtain ⟨⟨after, outputs⟩, acts, same⟩ := Option.map_eq_some_iff.mp taken
        cases same
        obtain ⟨silent, next⟩ := registers_joined joined new.1 new.2 acts
        simp only [silent]
        exact ⟨by simp, registered, stage, next⟩
      · contradiction
  | robotInitialized =>
      obtain ⟨⟨after, outputs⟩, acts, same⟩ := Option.map_eq_some_iff.mp taken
      cases same
      obtain ⟨silent, next⟩ := initialized_joined joined acts
      simp only [silent]
      exact ⟨by simp, next⟩
  | resolveMissedCommit =>
      obtain ⟨⟨after, outputs⟩, acts, same⟩ := Option.map_eq_some_iff.mp taken
      cases same
      obtain ⟨silent, next⟩ := resolve_joined joined acts
      simp only [silent]
      exact ⟨by simp, registered, stage, next⟩

/-- As long as the first robots are told to switch on the belt, no robot
refuses. -/
theorem reaches_joined {history : History Event Output}
    (reached : (machine config).Reaches (SwitchesOnBelt config) history k) :
    (∀ output ∈ outputsOf history, ¬ Refused output) ∧
      ∃ registered stage, Joined config registered k stage := by
  induction reached with
  | start unregistered => exact ⟨by simp, ∅, unregistered_joined unregistered⟩
  | step _ permitted taken earlier =>
      obtain ⟨accepted, registered, stage, joined⟩ := earlier
      obtain ⟨nowAccepted, next⟩ := step_joined joined permitted taken
      refine ⟨?_, next⟩
      intro output member
      rw [outputsOf_append, outputsOf_singleton, List.mem_append] at member
      exact member.elim (accepted output) (nowAccepted output)

end Runs

end CpsKitchen.Rearrangement.Joining
