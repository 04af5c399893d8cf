import CpsKitchen.Selection.Handling

/-!
# What the MAPE implementation has seen

While it calls back, robots may be told to adapt, even the one it is about to
return, and robots may announce other capabilities. So the flag is read again
after the callbacks, and what was seen of the capabilities is true as long as
the robot announces none.
-/

namespace CpsKitchen.Selection

open CpsKitchen.Reactive CpsKitchen.Recipes CpsKitchen.KitchenMape
open CpsKitchen.ControllerAgent

set_option autoImplicit false

section Choosing

variable {config : Config} {s after : System} {event : Event} {outputs : List Output}
  {request : Request}

/-- What is noted beside the system: the robots as the MAPE implementation saw
them last, those that announced capabilities since, and those that accepted a
reconfiguration whose callback has not run. -/
structure Notes where
  seen : RobotMap
  announced : Finset Position
  awaited : Finset Position

def announcedAfter (event : ControllerAgent.Event) (announced : Finset Position) :
    Finset Position :=
  match event with
  | .capabilitiesChanged (.registered position) _ => insert position announced
  | _ => announced

def note (s : System) (event : Event) (notes : Notes) : Notes :=
  match event with
  | .onNewOrder => ⟨s.controller.positionRemoteRobotMap, ∅, notes.awaited⟩
  | .controller event =>
      { notes with
        announced := announcedAfter event notes.announced
        awaited := awaitedAfter s.controller event notes.awaited }
  | .reconfigureRobot | .returned => notes

def noted (config : Config) : Machine (System × Notes) Event Output :=
  (machine config).observed ⟨∅, ∅, ∅⟩ note

theorem not_announced {own : ControllerAgent.Event} {announced : Finset Position}
    {position : Position} (quiet : position ∉ announcedAfter own announced) :
    position ∉ announced ∧
      ∀ capabilities, own ≠ .capabilitiesChanged (.registered position) capabilities := by
  unfold announcedAfter at quiet
  split at quiet
  next other capabilities =>
    rw [Finset.mem_insert, not_or] at quiet
    refine ⟨quiet.2, ?_⟩
    intro _ same
    cases same
    exact quiet.1 rfl
  next unannounced => exact ⟨quiet, unannounced position⟩

/-- What the MAPE implementation holds while it calls back. -/
structure Chooses (config : Config) (s : System) (notes : Notes) : Prop where
  unaddressed : s.mape = .idle → addressed s.controller.worker = none
  chosen : ∀ suitableRobot calls, s.mape = .callingBack suitableRobot calls →
    ∃ request actions, handlingRequest s.controller.worker = some request ∧
      remainingActions config request = some actions ∧
      suitableRobot =
        (onNewOrder notes.seen config.profiles actions).suitableRobot.map Prod.fst
  pointers : ∀ suitableRobot calls, s.mape = .callingBack suitableRobot calls →
    calls.length ≤ 2 ∧ ∀ call ∈ calls, isRegistered s.controller call.1
  known : s.mape ≠ .idle → ∀ position robot, findRobot s.controller position = some robot →
    ∃ looked, notes.seen.lookup position = some looked ∧
      (position ∉ notes.announced → looked.capabilities = robot.capabilities)

theorem initial_chooses (config : Config) : Chooses config initial ⟨∅, ∅, ∅⟩ where
  unaddressed := fun _ => rfl
  chosen := by simp [initial]
  pointers := by simp [initial]
  known := by simp [initial]

/-- At most two robots are called back for, and both are in the map. -/
theorem onNewOrder_calls (robots : RobotMap) (profiles : Profiles) (actions : List RobotAction) :
    (onNewOrder robots profiles actions).reconfigurations.length ≤ 2 ∧
      ∀ call ∈ (onNewOrder robots profiles actions).reconfigurations,
        (robots.lookup call.1.1).isSome = true := by
  rw [onNewOrder, simpleReconfiguration]
  cases actions with
  | nil => simp [chooseRobots]
  | cons first rest =>
      by_cases adapts : ∃ suitable afterNext suitableAfterNext,
          Adapts robots (first :: rest) first suitable afterNext suitableAfterNext
      · obtain ⟨suitable, afterNext, suitableAfterNext, adapts⟩ := adapts
        rw [chooseRobots_adapts adapts]
        refine ⟨le_refl 2, ?_⟩
        intro call member
        simp only [List.mem_cons, List.not_mem_nil, or_false] at member
        rcases member with rfl | rfl
        · simp only [adapts.chosen.found, Option.isSome_some]
        · simp only [adapts.chosenAfterNext.found, Option.isSome_some]
      · push Not at adapts
        rw [chooseRobots_rests adapts]
        simp

theorem Chooses.handling {notes later : Notes} {own : ControllerAgent.Event} {next : Controller}
    {suitableRobot : Option Position} {calls left : List (Position × String)}
    (chooses : Chooses config s notes) (calling : s.mape = .callingBack suitableRobot calls)
    (fewer : left.Sublist calls)
    (unasked : ∀ fromPosition toPosition, own ≠ .swapRobotPositions fromPosition toPosition)
    (unchosen : ∀ position, own ≠ .nextRobotChosen position)
    (ran : ControllerAgent.Step config.controller s.controller own next outputs)
    (seen : later.seen = notes.seen)
    (announced : ∀ position ∉ later.announced, position ∉ notes.announced ∧
      ∀ capabilities, own ≠ .capabilitiesChanged (.registered position) capabilities) :
    Chooses config ⟨next, .callingBack suitableRobot left⟩ later := by
  obtain ⟨request, actions, handling, remaining, suitable⟩ := chooses.chosen _ _ calling
  obtain ⟨goesOn, keeps⟩ := handling_step handling unasked unchosen ran
  obtain ⟨short, present⟩ := chooses.pointers _ _ calling
  have busy : s.mape ≠ .idle := by
    rw [calling]
    simp
  refine ⟨by simp, ?_, ?_, ?_⟩
  · intro _ _ same
    cases same
    rw [seen]
    exact ⟨request, actions, goesOn, remaining, suitable⟩
  · intro _ _ same
    cases same
    refine ⟨fewer.length_le.trans short, ?_⟩
    intro call member
    exact keeps.stays call.1 (present call (fewer.subset member))
  · intro _ position robot found
    obtain ⟨before, foundBefore, unchanged⟩ := keeps.known position robot found
    obtain ⟨looked, foundLooked, same⟩ := chooses.known busy position before foundBefore
    rw [seen]
    refine ⟨looked, foundLooked, ?_⟩
    intro quiet
    obtain ⟨quietBefore, quietNow⟩ := announced position quiet
    exact (same quietBefore).trans (unchanged quietNow)

theorem chooses_of_idle {next : Controller} {notes : Notes}
    (unaddressed : addressed next.worker = none) : Chooses config ⟨next, .idle⟩ notes :=
  ⟨fun _ => unaddressed, by simp, by simp, by simp⟩

theorem nextRobotChosen_frame (c : Controller) (request : Request) (position : Option Position) :
    ∃ worker, isPlain worker = true ∧
      nextRobotChosen c request position = setWorker c worker := by
  unfold nextRobotChosen
  simp only
  split
  · exact ⟨_, rfl, rfl⟩
  · exact ⟨_, rfl, rfl⟩

theorem step_chooses {notes : Notes} (chooses : Chooses config s notes)
    (step : Step config s event after outputs) : Chooses config after (note s event notes) := by
  cases step with
  | @controller next outputs event own ran =>
      cases mape : s.mape with
      | idle =>
          exact chooses_of_idle (step_unaddressed (chooses.unaddressed mape) own ran)
      | callingBack suitableRobot calls =>
          refine chooses.handling mape (List.Sublist.refl calls) ?_ ?_ ran rfl ?_
          · intro _ _ same
            rw [same] at own
            contradiction
          · intro _ same
            rw [same] at own
            contradiction
          · exact fun position quiet => not_announced quiet
  | onNewOrder request actions choosing idle remaining =>
      refine ⟨by simp [beginCalls], ?_, ?_, ?_⟩
      · intro _ _ same
        cases same
        exact ⟨request, actions, by rw [choosing]; rfl, remaining, rfl⟩
      · intro _ _ same
        cases same
        have calls := onNewOrder_calls s.controller.positionRemoteRobotMap config.profiles actions
        refine ⟨by rw [List.length_map]; exact calls.1, ?_⟩
        intro call member
        obtain ⟨made, memberMade, rfl⟩ := List.mem_map.mp member
        exact calls.2 made memberMade
      · intro _ position robot found
        exact ⟨robot, found, fun _ => rfl⟩
  | reconfigureRobot suitableRobot key profile calls robot calling found ran =>
      exact chooses.handling calling (List.sublist_cons_self _ _) (by simp) (by simp) ran rfl
        (fun position quiet => ⟨quiet, by simp⟩)
  | returned suitableRobot request calling choosing same nothing =>
      obtain ⟨worker, plain, chosen⟩ := nextRobotChosen_frame s.controller request suitableRobot
      rw [same, chosen]
      exact chooses_of_idle (addressed_of_plain plain)

/-- Everything that is kept along a run. -/
structure Kept (config : Config) (s : System) (notes : Notes) : Prop where
  swapless : Swapless s.controller
  awaits : Awaits notes.awaited s.controller
  chooses : Chooses config s notes

theorem step_kept {notes : Notes} (kept : Kept config s notes)
    (step : Step config s event after outputs) : Kept config after (note s event notes) := by
  have chooses := step_chooses kept.chooses step
  cases step with
  | controller own unasked ran =>
      have noSwap : ∀ fromPosition toPosition,
          own ≠ .swapRobotPositions fromPosition toPosition := by
        intro _ _ same
        rw [same] at unasked
        contradiction
      exact ⟨step_swapless kept.swapless noSwap ran, step_awaits kept.awaits kept.swapless ran,
        chooses⟩
  | onNewOrder => exact ⟨kept.swapless, kept.awaits, chooses⟩
  | reconfigureRobot suitableRobot key profile calls robot calling found ran =>
      have awaits := step_awaits kept.awaits kept.swapless ran
      rw [awaitedAfter_quiet (by simp) (by simp)] at awaits
      exact ⟨step_swapless kept.swapless (by simp) ran, awaits, chooses⟩
  | returned suitableRobot request calling choosing same nothing =>
      obtain ⟨worker, plain, chosen⟩ := nextRobotChosen_frame s.controller request suitableRobot
      rw [chosen] at same
      rw [same] at chooses ⊢
      exact ⟨swapless_of_plain kept.swapless.noSwaps plain, kept.awaits.keeps (.of_same rfl),
        chooses⟩

theorem reaches_kept {history : History Event Output} {state : System × Notes}
    (reached : (noted config).Reaches (fun _ _ => True) history state) :
    Kept config state.1 state.2 := by
  induction reached with
  | @start state started =>
      obtain ⟨started, nothing⟩ := started
      have started : state.1 = initial := started
      rw [started, nothing]
      exact ⟨initial_swapless, by simp [Awaits], initial_chooses config⟩
  | step earlier permitted taken kept =>
      obtain ⟨taken, recorded⟩ := Machine.observed_step taken
      rw [recorded]
      exact step_kept kept (step_cases taken)

end Choosing

section Soundness

variable {config : Config} {s after : System} {event : Event} {outputs : List Output}
  {notes : Notes} {request : Request}

/-- One registered robot, with its position and its endpoint. It could do the
next action when the MAPE implementation looked at it, and still can if it
announced nothing else since. It does not adapt. -/
structure NamesRobot (config : Config) (s : System) (notes : Notes) (request : Request)
    (robotPosition : Position) (robotEndpoint : String) (key : Position)
    (robot looked : RemoteRobot) (recipe : Recipe) (action : RobotAction) : Prop where
  registered : findRobot s.controller key = some robot
  position : robotPosition = robot.position
  endpoint : robotEndpoint = robot.endpoint
  known : config.controller.recipeParser.getRecipe request.recipeId = some recipe
  next : recipe.actionQueue[request.processedSteps]? = some action
  lookedAt : notes.seen.lookup key = some looked
  capable : action.name ∈ looked.capabilities
  stillCapable : key ∉ notes.announced → action.name ∈ robot.capabilities
  notPending : robot.adaptivityIsPending = false
  notAwaited : key ∉ notes.awaited
  notSwapping : ∀ position, ¬ isRobotPositionSwapping s.controller position

def SoundAnswer (config : Config) (s : System) (notes : Notes) (request : Request)
    (robotPosition : Position) (robotEndpoint : String) : Prop :=
  robotPosition = 0 ∧ robotEndpoint = "" ∨
    ∃ key robot looked recipe action,
      NamesRobot config s notes request robotPosition robotEndpoint key robot looked recipe action

theorem remainingActions_next {actions : List RobotAction} {next : RobotAction}
    {rest : List RobotAction} (remaining : remainingActions config request = some actions)
    (front : actions = next :: rest) :
    ∃ recipe, config.controller.recipeParser.getRecipe request.recipeId = some recipe ∧
      recipe.actionQueue[request.processedSteps]? = some next := by
  unfold remainingActions at remaining
  split at remaining
  · contradiction
  next recipe known =>
    split at remaining
    · contradiction
    · refine ⟨recipe, known, ?_⟩
      have dropped := Option.some.inj remaining
      rw [front] at dropped
      have head : (recipe.actionQueue.drop request.processedSteps)[0]? = some next := by
        rw [dropped]
        rfl
      rw [List.getElem?_drop, Nat.add_zero] at head
      exact head

theorem onNewOrder_capable {robots : RobotMap} {profiles : Profiles} {actions : List RobotAction}
    {key : Position}
    (found : (onNewOrder robots profiles actions).suitableRobot.map Prod.fst = some key) :
    ∃ next rest looked, actions = next :: rest ∧ robots.lookup key = some looked ∧
      next.name ∈ looked.capabilities := by
  obtain ⟨entry, suitable, rfl⟩ := Option.map_eq_some_iff.mp found
  rw [onNewOrder, simpleReconfiguration] at suitable
  cases actions with
  | nil => cases suitable
  | cons next rest =>
      rw [chooseRobots_suitableRobot rest (fun _ _ _ => rfl)] at suitable
      have chosen := findSuitable_eq_some_iff.mp suitable
      exact ⟨next, rest, entry.2, rfl, chosen.found, of_decide_eq_true chosen.isCapableTo⟩

theorem chosenRobot_eq_some {c : Controller} {position : Option Position} {robot : RemoteRobot}
    (chosen : chosenRobot c position = some robot) :
    ∃ key, position = some key ∧ findRobot c key = some robot ∧
      robot.adaptivityIsPending = false := by
  rw [chosenRobot, Option.filter_eq_some_iff, Option.bind_eq_some_iff] at chosen
  obtain ⟨⟨key, here, found⟩, settled⟩ := chosen
  exact ⟨key, here, found, by simpa using settled⟩

theorem returned_sound {suitableRobot : Option Position} {other : Request}
    {robotPosition : Position} {robotEndpoint : String} (kept : Kept config s notes)
    (calling : s.mape = .callingBack suitableRobot [])
    (choosing : s.controller.worker = .choosing other)
    (answering : (nextRobotChosen s.controller other suitableRobot).worker =
      .answering request robotPosition robotEndpoint) :
    SoundAnswer config s notes request robotPosition robotEndpoint := by
  unfold nextRobotChosen at answering
  simp only at answering
  split at answering
  · cases answering
  · cases answering
    cases chosen : chosenRobot s.controller suitableRobot with
    | none => exact .inl ⟨rfl, rfl⟩
    | some robot =>
        right
        obtain ⟨key, rfl, registered, notPending⟩ := chosenRobot_eq_some chosen
        obtain ⟨asked, actions, handling, remaining, suitable⟩ :=
          kept.chooses.chosen _ _ calling
        rw [choosing] at handling
        cases handling
        obtain ⟨next, rest, looked, front, lookedAt, capable⟩ :=
          onNewOrder_capable suitable.symm
        obtain ⟨recipe, known, nextAction⟩ := remainingActions_next remaining front
        obtain ⟨sameLooked, lookedHere, unchanged⟩ := kept.chooses.known (by simp [calling]) key
          robot registered
        rw [lookedAt] at lookedHere
        cases lookedHere
        refine ⟨key, robot, looked, recipe, next, ?_⟩
        exact
          { registered := registered
            position := rfl
            endpoint := rfl
            known := known
            next := nextAction
            lookedAt := lookedAt
            capable := capable
            stillCapable := fun quiet => unchanged quiet ▸ capable
            notPending := notPending
            notAwaited := by
              intro member
              obtain ⟨same, found, pending⟩ := kept.awaits key member
              rw [registered] at found
              cases found
              rw [notPending] at pending
              contradiction
            notSwapping := by
              intro position
              simp [isRobotPositionSwapping, swappingKey, kept.swapless.noSwaps] }

end Soundness

end CpsKitchen.Selection
