import CpsKitchen.Reactive.Pipeline
import CpsKitchen.Rearrangement.Calls

/-!
# The swap protocol

Every run of the robots and their controller is coherent. So no two available
robots stand at one position, no commit is refused, and a swap without a
message in flight has exchanged the positions of its robots.
-/

namespace CpsKitchen.Rearrangement

open CpsKitchen.Reactive CpsKitchen.Recipes
open CpsKitchen.RobotAgent (Robot InPhase OneDriver)
open CpsKitchen.ControllerAgent (Controller RemoteRobot Place Output Worker SwapKey robotAt
  findRobot isRegistered swapKey swapKeys involves Completing SwapTable)

set_option autoImplicit false

variable {config : Config} {p after : Plant} {stage : String → Stage} {event : Event}
  {outputs : List Output} {endpoint : String} {fromPosition toPosition : Position}

section Runs

theorem registered_coherent (started : Registered config p) :
    Coherent config p fun endpoint => .free (p.robots endpoint).position := by
  have idle := started.idle
  have noKeys : swapKeys p.controller = [] := congrArg (List.map Prod.fst) started.swaps
  have served : ∀ place endpoint, servedAt p.controller place = some endpoint ↔
      endpoint ∈ config.endpoints ∧
        Stage.place (.free (p.robots endpoint).position) = place := by
    intro place endpoint
    cases place with
    | held => simp [servedAt, robotAt, idle, Stage.place]
    | registered position =>
        constructor
        · intro found
          obtain ⟨remote, here, rfl⟩ := Option.map_eq_some_iff.mp found
          obtain ⟨member, there⟩ := started.others position remote here
          exact ⟨member, congrArg Place.registered there⟩
        · rintro ⟨member, there⟩
          obtain ⟨remote, found, same, _⟩ := started.registered endpoint member
          rw [Place.registered.inj there] at found
          exact Option.map_eq_some_iff.mpr ⟨remote, found, same⟩
  have posted : ∀ handler ∈ p.controller.posted, ack? handler = none ∧
      isRegistration handler = false := by
    intro handler member
    obtain ⟨request, rfl⟩ := started.posted handler member
    exact ⟨rfl, rfl⟩
  have noAcks : postedAcks p.controller = [] :=
    List.filterMap_eq_nil_iff.mpr fun handler member => (posted handler member).1
  have agrees : Agrees config p.controller fun endpoint =>
      .free (p.robots endpoint).position :=
    { ordered := by simp [noKeys]
      disjoint := by simp [noKeys]
      opening := by simp [noKeys]
      different := by simp [idle, ControllerAgent.opens]
      served := served
      acks := by simp [noAcks, Stage.ack]
      once := by simp [noAcks]
      registered := fun handler member => (posted handler member).2
      acked := by simp [started.swaps]
      swapping := by simp [Stage.leaving]
      occupied := by simp [noKeys]
      rekeyed := by simp [Stage.returning]
      worker := by
        rw [idle]
        trivial }
  refine
    { agrees := agrees
      unfinished := by simp [Unfinished, started.swaps]
      oneDriver := ?_
      follows := ?_
      ready := by simp [idle, readied] }
  · intro endpoint member
    obtain ⟨history, reached⟩ := started.unadapted endpoint member
    exact (RobotAgent.reaches_unadapted reached).toOneDriver
  · intro endpoint member remote found
    obtain ⟨history, reached⟩ := started.unadapted endpoint member
    have available := (RobotAgent.reaches_unadapted reached).available
    obtain ⟨known, here, _, position, running, notices⟩ := started.registered endpoint member
    have same : remote = known := Option.some.inj (found.symm.trans here)
    subst same
    exact
      { position := rfl
        phase := by simp [Stage.phase, InPhase, available]
        remotePosition := position
        running := running
        notices := by rw [notices]; simp [Stage.notices]
        subscribed := by simp [Stage.isNoticed]
        last := by simp [Stage.switch]
        reset := by simp [Stage.isReset]
        done := by simp [started.lastSwitch] }

theorem internal_accepted {event : ControllerAgent.Event} {c later : Controller}
    (internal : isInternal event = true)
    (step : ControllerAgent.Step config.controller c event later outputs) :
    ∀ output ∈ outputs, ¬ Refused output := by
  cases step <;> first | contradiction | simp [Refused]

/-- Every step of the plant is coherent, and no robot refuses a call. -/
theorem step_coherent (coherent : Coherent config p stage) (onBelt : TargetsOnBelt config p event)
    (taken : step config p event = some (after, outputs)) :
    (∀ output ∈ outputs, ¬ Refused output) ∧ ∃ stage, Coherent config after stage := by
  cases event with
  | robot endpoint event =>
      simp only [step] at taken
      split at taken
      next own =>
        obtain ⟨_, acts, same⟩ := Option.map_eq_some_iff.mp taken
        cases same
        exact ⟨by simp, robot_coherent coherent own.1 own.2 acts⟩
      · contradiction
  | controller event =>
      simp only [step] at taken
      split at taken
      next internal =>
        unfold controllerActs at taken
        split at taken
        · contradiction
        next later told ran =>
          cases taken
          have step := ControllerAgent.step_cases ran
          exact ⟨internal_accepted internal step,
            internal_coherent coherent internal onBelt step⟩
      · contradiction
  | notifyPosition endpoint place =>
      obtain ⟨silent, later⟩ := notify_coherent coherent taken
      rw [silent]
      exact ⟨by simp, later⟩
  | call => exact call_coherent coherent taken

theorem reaches_coherent {history : History Event Output}
    (reached : (machine config).Reaches (TargetsOnBelt config) history p) :
    (∀ output ∈ outputsOf history, ¬ Refused output) ∧ ∃ stage, Coherent config p stage := by
  induction reached with
  | start started => exact ⟨by simp, _, registered_coherent started⟩
  | step _ permitted taken earlier =>
      obtain ⟨accepted, stage, coherent⟩ := earlier
      obtain ⟨nowAccepted, later⟩ := step_coherent coherent permitted taken
      refine ⟨?_, later⟩
      intro output member
      rw [outputsOf_append, outputsOf_singleton, List.mem_append] at member
      exact member.elim (accepted output) (nowAccepted output)

end Runs

section Protocol

/-- The robot has yet to move, or what it wrote or was told is on its way. -/
def Travelling (p : Plant) (endpoint : String) : Prop :=
  ((p.robots endpoint).robotState = .rearranging ∧
      (p.robots endpoint).attributes.newPositionCommitIsPending = false) ∨
    p.notices endpoint ≠ [] ∨ .handleNewPositionCommit ∈ (p.robots endpoint).posted

instance (p : Plant) (endpoint : String) : Decidable (Travelling p endpoint) :=
  inferInstanceAs (Decidable (_ ∨ _ ∨ _))

def Calling (worker : Worker) (first second : Position) : Prop :=
  match worker with
  | .switchingSecond _ fromPosition toPosition =>
      (fromPosition, toPosition) = (first, second) ∨ (fromPosition, toPosition) = (second, first)
  | .committingFirst key _ _ | .committingSecond key _ => key = swapKey first second
  | _ => False

instance (worker : Worker) (first second : Position) : Decidable (Calling worker first second) :=
  match worker with
  | .switchingSecond _ fromPosition toPosition =>
      inferInstanceAs (Decidable ((fromPosition, toPosition) = (first, second) ∨
        (fromPosition, toPosition) = (second, first)))
  | .committingFirst key _ _ | .committingSecond key _ =>
      inferInstanceAs (Decidable (key = swapKey first second))
  | .betweenHandlers | .initializingRobot _ _ | .readingPendingCommit _
  | .resolvingMissedCommit _ | .initializingReceiver _ | .choosing _ | .checkingFirst _ _ _
  | .checkingSecond _ _ _ | .switchingFirst _ _ _ | .checkingReconfiguration _ _ _
  | .reconfiguring _ _ _ | .answering _ _ _ => .isFalse id

/-- Some message of the swap of these positions is not processed. -/
def InFlight (config : Config) (p : Plant) (first second : Position) : Prop :=
  (∃ endpoint ∈ config.endpoints, (p.lastSwitch endpoint = some (first, second) ∨
      p.lastSwitch endpoint = some (second, first)) ∧ Travelling p endpoint) ∨
    .positionSwapped first second ∈ p.controller.posted ∨
    .positionSwapped second first ∈ p.controller.posted ∨
    Calling p.controller.worker first second

instance (config : Config) (p : Plant) (first second : Position) :
    Decidable (InFlight config p first second) :=
  inferInstanceAs (Decidable (_ ∨ _ ∨ _ ∨ _))

theorem calling_of_completing {worker : Worker}
    (completing : Completing worker (swapKey fromPosition toPosition)) :
    Calling worker fromPosition toPosition := by
  cases worker with
  | committingFirst | committingSecond => exact completing
  | _ => exact absurd completing id

theorem mem_postedAcks {c : Controller} {switch : Position × Position}
    (acked : switch ∈ postedAcks c) :
    ControllerAgent.Handler.positionSwapped switch.1 switch.2 ∈ c.posted := by
  obtain ⟨handler, member, isAck⟩ := List.mem_filterMap.mp acked
  cases handler with
  | positionSwapped oldPosition newPosition =>
      cases isAck
      exact member
  | _ => simp [ack?] at isAck

/-- A robot whose switch is not acknowledged has a message on its way. -/
theorem Coherent.waiting_inFlight (coherent : Coherent config p stage)
    (member : endpoint ∈ config.endpoints) {switch : Position × Position}
    (waits : (stage endpoint).waiting = some switch) :
    p.lastSwitch endpoint = some switch ∧ (Travelling p endpoint ∨
      .positionSwapped switch.1 switch.2 ∈ p.controller.posted) := by
  obtain ⟨remote, found, _⟩ := coherent.agrees.keeps member
  have follows := coherent.follows endpoint member remote found
  cases here : stage endpoint with
  | asked first second =>
      rw [here] at follows waits
      cases waits
      exact ⟨follows.last _ rfl, .inl (.inl ⟨follows.phase.1, follows.phase.2.1⟩)⟩
  | moved first second =>
      rw [here] at follows waits
      cases waits
      refine ⟨follows.last _ rfl, .inl (.inr (.inl ?_))⟩
      rw [follows.notices]
      simp [Stage.notices]
  | noticed first second =>
      rw [here] at follows waits
      cases waits
      refine ⟨follows.last _ rfl, .inr ?_⟩
      exact mem_postedAcks ((coherent.agrees.acks _).mpr ⟨endpoint, member, by rw [here]; rfl⟩)
  | free | acknowledged | held | rekeyed | committed =>
      rw [here] at waits
      contradiction

theorem Coherent.entry_inFlight (coherent : Coherent config p stage)
    (table : swapKey fromPosition toPosition ∈ swapKeys p.controller) :
    InFlight config p fromPosition toPosition := by
  by_cases completing : Completing p.controller.worker (swapKey fromPosition toPosition)
  · exact .inr (.inr (.inr (calling_of_completing completing)))
  · obtain ⟨entry, member, key⟩ := List.mem_map.mp table
    have either : Waiting config stage (fromPosition, toPosition) ∨
        Waiting config stage (toPosition, fromPosition) := by
      have waits := coherent.agrees.waits coherent.unfinished member (by rw [key]; exact completing)
      rw [key] at waits
      rcases swapKey_cases fromPosition toPosition with ⟨pair, _⟩ | ⟨pair, _⟩ <;> rw [pair] at waits
      · exact waits
      · exact waits.symm
    rcases either with ⟨endpoint, inside, waits⟩ | ⟨endpoint, inside, waits⟩
    · obtain ⟨last, travelling | posted⟩ := coherent.waiting_inFlight inside waits
      · exact .inl ⟨endpoint, inside, .inl last, travelling⟩
      · exact .inr (.inl posted)
    · obtain ⟨last, travelling | posted⟩ := coherent.waiting_inFlight inside waits
      · exact .inl ⟨endpoint, inside, .inr last, travelling⟩
      · exact .inr (.inr (.inl posted))

theorem calling_of_opening {worker : Worker}
    (opening : Opening worker (fromPosition, toPosition)) :
    Calling worker fromPosition toPosition := by
  cases worker with
  | switchingSecond => exact .inl opening
  | _ => exact absurd opening id

theorem calling_of_commitsTo {worker : Worker}
    (commits : CommitsTo worker (fromPosition, toPosition)) :
    Calling worker fromPosition toPosition := by
  cases worker with
  | committingFirst | committingSecond => exact commits.2
  | _ => exact absurd commits id

/-- A robot is out of the map while the other one of its swap is told to
commit. -/
theorem Coherent.held_calling (coherent : Coherent config p stage)
    (member : endpoint ∈ config.endpoints)
    (outside : (stage endpoint).outside = some (fromPosition, toPosition)) :
    Calling p.controller.worker fromPosition toPosition := by
  obtain ⟨remote, found, _⟩ := coherent.agrees.keeps member
  rw [Stage.place_eq_held.mpr ⟨_, outside⟩] at found
  have relies := coherent.agrees.worker
  cases worker : p.controller.worker with
  | committingFirst key second position =>
      rw [worker] at relies
      obtain ⟨table, _, _, _, first, _, same, _, held⟩ := relies
      cases held endpoint member _ outside
      have different := different_of_ordered (same ▸ coherent.agrees.ordered _ table)
      exact same.symm.trans (swapKey_comm different)
  | initializingRobot =>
      rw [worker] at relies
      exact absurd relies id
  | _ =>
      rw [robotAt, worker] at found
      contradiction

theorem Coherent.switch_inFlight (coherent : Coherent config p stage)
    (member : endpoint ∈ config.endpoints)
    (switching : (stage endpoint).switch = some (fromPosition, toPosition)) :
    InFlight config p fromPosition toPosition := by
  obtain ⟨remote, found, _⟩ := coherent.agrees.keeps member
  have follows := coherent.follows endpoint member remote found
  have last := follows.last _ switching
  cases here : stage endpoint with
  | free => simp [here, Stage.switch] at switching
  | asked | moved | noticed =>
      have waits : (stage endpoint).waiting = some (fromPosition, toPosition) := by
        rw [here] at switching ⊢
        exact switching
      obtain ⟨_, travelling | posted⟩ := coherent.waiting_inFlight member waits
      · exact .inl ⟨endpoint, member, .inl last, travelling⟩
      · exact .inr (.inl posted)
  | acknowledged =>
      have leaves : (stage endpoint).leaving = some (fromPosition, toPosition) := by
        rw [here] at switching ⊢
        exact switching
      rcases coherent.agrees.swapping endpoint member _ leaves with table | opening
      · exact coherent.entry_inFlight table
      · exact .inr (.inr (.inr (calling_of_opening opening)))
  | held =>
      have outside : (stage endpoint).outside = some (fromPosition, toPosition) := by
        rw [here] at switching ⊢
        exact switching
      exact .inr (.inr (.inr (coherent.held_calling member outside)))
  | rekeyed =>
      have returns : (stage endpoint).returning = some (fromPosition, toPosition) := by
        rw [here] at switching ⊢
        exact switching
      have commits := coherent.agrees.rekeyed endpoint member _ returns
      exact .inr (.inr (.inr (calling_of_commitsTo commits)))
  | committed =>
      rw [here] at follows
      exact .inl ⟨endpoint, member, .inl last, .inr (.inr follows.phase.2.2)⟩

/-- A robot that rearranges is in a swap of the controller, or was told to
commit. -/
theorem Coherent.rearranging_swaps (coherent : Coherent config p stage)
    (member : endpoint ∈ config.endpoints)
    (rearranging : (p.robots endpoint).robotState = .rearranging) :
    ∃ fromPosition toPosition, p.lastSwitch endpoint = some (fromPosition, toPosition) ∧
      (swapKey fromPosition toPosition ∈ swapKeys p.controller ∨
        Calling p.controller.worker fromPosition toPosition ∨
        .handleNewPositionCommit ∈ (p.robots endpoint).posted) := by
  obtain ⟨remote, found, _⟩ := coherent.agrees.keeps member
  have follows := coherent.follows endpoint member remote found
  cases here : stage endpoint with
  | free =>
      rw [here] at follows
      exact absurd rearranging follows.phase
  | asked fromPosition toPosition | moved fromPosition toPosition
  | noticed fromPosition toPosition | acknowledged fromPosition toPosition =>
      have leaves : (stage endpoint).leaving = some (fromPosition, toPosition) := by
        rw [here]
        rfl
      have last := follows.last _ (Stage.switch_of_leaving leaves)
      refine ⟨fromPosition, toPosition, last, ?_⟩
      rcases coherent.agrees.swapping endpoint member _ leaves with table | opening
      · exact .inl table
      · exact .inr (.inl (calling_of_opening opening))
  | held fromPosition toPosition =>
      have outside : (stage endpoint).outside = some (fromPosition, toPosition) := by
        rw [here]
        rfl
      rw [here] at follows
      exact ⟨fromPosition, toPosition, follows.last _ rfl,
        .inr (.inl (coherent.held_calling member outside))⟩
  | rekeyed fromPosition toPosition =>
      have returns : (stage endpoint).returning = some (fromPosition, toPosition) := by
        rw [here]
        rfl
      have commits := coherent.agrees.rekeyed endpoint member _ returns
      rw [here] at follows
      exact ⟨fromPosition, toPosition, follows.last _ rfl,
        .inr (.inl (calling_of_commitsTo commits))⟩
  | committed fromPosition toPosition =>
      rw [here] at follows
      exact ⟨fromPosition, toPosition, follows.last _ rfl, .inr (.inr follows.phase.2.2)⟩

/-- No two available robots stand at one position, no commit is refused, a
pending swap is one its robots were told, and a swap without a message in
flight has exchanged its robots. -/
theorem swap_protocol (config : Config) (history : History Event Output) (p : Plant)
    (reached : (machine config).Reaches (TargetsOnBelt config) history p) :
    (∀ first ∈ config.endpoints, ∀ second ∈ config.endpoints,
      (p.robots first).robotState = .available → (p.robots second).robotState = .available →
      (p.robots first).position = (p.robots second).position → first = second) ∧
    (∀ endpoint position, .commitInstructed endpoint position (some false) ∉ outputsOf history) ∧
    (∀ fromPosition toPosition, swapKey fromPosition toPosition ∈ swapKeys p.controller →
      ¬ Calling p.controller.worker fromPosition toPosition →
      ∀ remote, findRobot p.controller fromPosition = some remote →
        remote.endpoint ∈ config.endpoints ∧
          p.lastSwitch remote.endpoint = some (fromPosition, toPosition)) ∧
    ∀ endpoint ∈ config.endpoints, ∀ fromPosition toPosition,
      p.lastSwitch endpoint = some (fromPosition, toPosition) →
      ¬ InFlight config p fromPosition toPosition →
        (p.robots endpoint).position = toPosition ∧
        (p.robots endpoint).robotState = .available ∧
        (∃ remote, findRobot p.controller toPosition = some remote ∧
          remote.endpoint = endpoint ∧ remote.adaptivityIsPending = false) ∧
        swapKey fromPosition toPosition ∉ swapKeys p.controller := by
  obtain ⟨accepted, stage, coherent⟩ := reaches_coherent reached
  have agrees := coherent.agrees
  refine ⟨?_, ?_, ?_, ?_⟩
  · intro first firstMember second secondMember firstAvailable secondAvailable same
    obtain ⟨firstPosition, firstFree⟩ := coherent.free_of_available firstMember firstAvailable
    obtain ⟨secondPosition, secondFree⟩ := coherent.free_of_available secondMember secondAvailable
    obtain ⟨_, firstFound, _⟩ := agrees.keeps firstMember
    obtain ⟨_, secondFound, _⟩ := agrees.keeps secondMember
    have firstHere := (coherent.follows first firstMember _ firstFound).position
    have secondHere := (coherent.follows second secondMember _ secondFound).position
    refine agrees.unique firstMember secondMember ?_
    rw [firstFree] at firstHere ⊢
    rw [secondFree] at secondHere ⊢
    exact congrArg Place.registered (firstHere.symm.trans (same.trans secondHere))
  · intro endpoint position refused
    exact accepted _ refused (by simp [Refused])
  · intro fromPosition toPosition table notCalling remote found
    have served : servedAt p.controller (.registered fromPosition) = some remote.endpoint := by
      rw [servedAt, robotAt, found]
      rfl
    obtain ⟨member, place⟩ := (agrees.served _ _).mp served
    obtain ⟨switch, leaves, same⟩ := agrees.occupied _ table
      (fun completing => notCalling (calling_of_completing completing)) remote.endpoint member
      fromPosition place (ControllerAgent.involves_swapKey.mpr (.inl rfl))
    have different := different_of_ordered (agrees.ordered _ table)
    have here : fromPosition = switch.1 := by
      rw [Stage.place_of_leaving leaves] at place
      exact (Place.registered.inj place).symm
    have forth : switch = (fromPosition, toPosition) := by
      rcases eq_or_reverse_of_swapKey same with forth | back
      · exact forth
      · rw [back] at here
        exact absurd here different
    rw [forth] at leaves
    refine ⟨member, ?_⟩
    have follows := coherent.follows remote.endpoint member remote (by rw [place]; exact found)
    exact follows.last _ (Stage.switch_of_leaving leaves)
  · intro endpoint member fromPosition toPosition last done
    obtain ⟨remote, found, same⟩ := agrees.keeps member
    have follows := coherent.follows endpoint member remote found
    have free : ∃ position, stage endpoint = .free position := by
      cases switching : (stage endpoint).switch with
      | none => exact Stage.free_of_no_switch switching
      | some switch =>
          have told := follows.last switch switching
          rw [last] at told
          cases told
          exact absurd (coherent.switch_inFlight member switching) done
    obtain ⟨position, free⟩ := free
    obtain ⟨arrived, available, flag⟩ := follows.done position free _ last
    have arrived : toPosition = position := arrived
    subst arrived
    rw [free] at found follows
    exact ⟨follows.position, available, ⟨remote, found, same, flag⟩,
      fun table => done (coherent.entry_inFlight table)⟩

end Protocol

section Exchange

def boilingRobot : Robot := RobotAgent.initial 2 {"boil", "braise", "fry"} .pot

def twoRobots : Config where
  robot := RobotAgent.deployment
  controller := ControllerAgent.deployment
  endpoints := {"boiling", "mixing"}

def registeredRobots : Plant where
  controller :=
    ControllerAgent.insertRobot
      (ControllerAgent.insertRobot ControllerAgent.initial 2
        (ControllerAgent.newRemoteRobot "boiling" 2 {"boil", "braise", "fry"}))
      3 (ControllerAgent.newRemoteRobot "mixing" 3 {"mash", "whip", "crush", "stir", "mix"})
  robots endpoint := if endpoint = "boiling" then boilingRobot else RobotAgent.mixingRobot
  notices endpoint := if endpoint = "boiling" then [2] else [3]
  lastSwitch _ := none

theorem registeredRobots_started : ∀ endpoint ∈ twoRobots.endpoints,
    RobotAgent.Started (twoRobots.robotAt endpoint) (registeredRobots.robots endpoint) := by
  intro endpoint member
  rcases Finset.mem_insert.mp member with rfl | mixing
  · exact ⟨2, "r2.json", {"boil", "braise", "fry"}, "boil", .recipeTimed .pot,
      by decide, by decide, by decide, rfl⟩
  · rw [Finset.mem_singleton.mp mixing]
    exact ⟨3, "r3.json", {"mash", "whip", "crush", "stir", "mix"}, "whip",
      .autonomous .whisk 3, by decide, by decide, by decide, rfl⟩

theorem registeredRobots_registered : Registered twoRobots registeredRobots where
  unadapted := by
    intro endpoint member
    exact ⟨[], .start (registeredRobots_started endpoint member)⟩
  distinct := by decide
  registered := by
    intro endpoint member
    rcases Finset.mem_insert.mp member with rfl | mixing
    · exact ⟨ControllerAgent.newRemoteRobot "boiling" 2 {"boil", "braise", "fry"},
        by decide, rfl, rfl, rfl, rfl⟩
    · rw [Finset.mem_singleton.mp mixing]
      exact ⟨ControllerAgent.newRemoteRobot "mixing" 3 {"mash", "whip", "crush", "stir", "mix"},
        by decide, rfl, rfl, rfl, rfl⟩
  others := by
    intro position remote found
    simp only [registeredRobots, ControllerAgent.findRobot_insertRobot] at found
    split at found
    next third =>
      cases found
      exact ⟨by decide, by rw [third]; rfl⟩
    · split at found
      next second =>
        cases found
        exact ⟨by decide, by rw [second]; rfl⟩
      · simp [ControllerAgent.findRobot, ControllerAgent.initial] at found
  swaps := rfl
  idle := rfl
  posted := by
    intro handler member
    exact absurd member List.not_mem_nil
  lastSwitch _ := rfl

/-- The two robots exchange their positions. -/
theorem two_robots_swap :
    ∃ history p, (machine twoRobots).Reaches (TargetsOnBelt twoRobots) history p ∧
      .swapAdded (2, 3) ∈ outputsOf history ∧
      (p.robots "mixing").position = 2 ∧ (p.robots "mixing").robotState = .available ∧
      (p.robots "boiling").position = 3 ∧ (p.robots "boiling").robotState = .available ∧
      swapKey 3 2 ∉ swapKeys p.controller := by
  obtain ⟨history, p, reached, shown⟩ := Machine.exists_reaches_of_replay
    (machine twoRobots) (TargetsOnBelt twoRobots) registeredRobots_registered
    [.controller (.chooseNextRobot ⟨3, 0, "conveyor", "conveyor"⟩), .controller .runHandler,
     .controller (.receiverInitialized true), .controller (.swapRobotPositions 3 2),
     .call, .call, .call, .call, .controller (.nextRobotChosen none),
     .controller (.nextRobotReceived (some true)),
     .robot "mixing" (.runHandler "whip"), .robot "mixing" .timerExpires,
     .robot "boiling" (.runHandler "boil"), .robot "boiling" .timerExpires,
     .robot "mixing" (.runHandler "whip"), .robot "boiling" (.runHandler "boil"),
     .notifyPosition "mixing" (.registered 3), .notifyPosition "mixing" (.registered 3),
     .notifyPosition "boiling" (.registered 2), .notifyPosition "boiling" (.registered 2),
     .controller .runHandler, .controller .runHandler, .call, .call,
     .robot "mixing" (.runHandler "whip"), .robot "boiling" (.runHandler "boil")]
    (fun history p => decide (.swapAdded (2, 3) ∈ outputsOf history ∧
      p.lastSwitch "mixing" = some (3, 2) ∧ p.lastSwitch "boiling" = some (2, 3) ∧
      ¬ InFlight twoRobots p 3 2 ∧ ¬ InFlight twoRobots p 2 3)) (by decide +kernel)
  obtain ⟨added, mixing, boiling, done, alsoDone⟩ := of_decide_eq_true shown
  obtain ⟨_, _, _, exchanged⟩ := swap_protocol twoRobots history p reached
  obtain ⟨mixingAt, mixingAvailable, _, erased⟩ :=
    exchanged "mixing" (by decide) 3 2 mixing done
  obtain ⟨boilingAt, boilingAvailable, _⟩ :=
    exchanged "boiling" (by decide) 2 3 boiling alsoDone
  exact ⟨history, p, reached, added, mixingAt, mixingAvailable, boilingAt, boilingAvailable,
    erased⟩

end Exchange

end CpsKitchen.Rearrangement
