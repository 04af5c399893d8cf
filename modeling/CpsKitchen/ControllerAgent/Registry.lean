import CpsKitchen.ControllerAgent.Reports

/-!
# The registry of the controller

The map of remote robots, the table of swaps, the published counter and the
flags of the robots agree whenever the worker is between two handlers, as long
as the handlers a robot posted are run for that robot. Here is what has to agree,
and what keeps it beside the worker.
-/

namespace CpsKitchen.ControllerAgent

open CpsKitchen.Reactive CpsKitchen.Recipes

set_option autoImplicit false

section Invariant

def Destination (c : Controller) (position target : Position) : Prop :=
  swapKey position target ∈ swapKeys c ∧ ¬ Completing c.worker (swapKey position target) ∨
    c.worker.told position target

/-- The key belongs to a swap that is not being completed, or will so. -/
def Marked (c : Controller) (position : Position) : Prop :=
  (∃ key ∈ swapKeys c, involves position key ∧ ¬ Completing c.worker key) ∨
    ∃ target, c.worker.told position target

def SwapState.acknowledgedFrom (swap : SwapState) (key : SwapKey) (position : Position) : Bool :=
  if position = key.2 then swap.ackFromGreaterPosition else swap.ackFromLowerPosition

def Worker.held : Worker → Nat
  | .committingFirst _ (some _) _ => 1
  | _ => 0

def Unflagged (c : Controller) (position : Position) : Prop :=
  ∀ robot, findRobot c position = some robot → robot.adaptivityIsPending = false

def Working (c : Controller) : Worker → Prop
  | .initializingRobot robot position =>
      ¬ isRegistered c position ∧ robot.position = position ∧ robot.adaptivityIsPending = false
  | .checkingFirst _ fromPosition _ => Unflagged c fromPosition
  | .checkingSecond _ fromPosition toPosition | .switchingFirst _ fromPosition toPosition =>
      Unflagged c fromPosition ∧ Unflagged c toPosition
  | .switchingSecond _ _ toPosition => Unflagged c toPosition
  | .checkingReconfiguration _ robotPosition _ | .reconfiguring _ robotPosition _ =>
      Unflagged c robotPosition
  | .committingFirst key (some second) _ =>
      key ∈ swapKeys c ∧ involves second.position key ∧ ¬ isRegistered c second.position
  | _ => True

structure Registry (c : Controller) (reports : Reports) : Prop where
  table : SwapTable c
  counted : c.registeredRobots = c.positionRemoteRobotMap.keys.card + c.worker.held
  few : c.positionRemoteRobotMap.keys.card + c.worker.held < 2 ^ 32
  placed : ∀ position robot, findRobot c position = some robot →
    robot.position = position ∨ Destination c position robot.position ∨
      c.worker.tells position robot.position
  flagged : ∀ position robot, findRobot c position = some robot →
    (robot.adaptivityIsPending = true ↔
      Marked c position ∨ reports.change position ≠ none ∧ ¬ c.worker.reconfigures position)
  exclusive : ∀ position, reports.change position ≠ none →
    (∀ key ∈ swapKeys c, ¬ involves position key) ∧ ∀ target, ¬ c.worker.told position target
  targeted : ∀ position target, reports.target position = some target →
    Destination c position target ∧
      ∀ robot, findRobot c position = some robot → robot.position = position
  unregistered : ∀ position, ¬ isRegistered c position →
    reports.target position = none ∧ reports.change position = none
  acknowledged : ∀ entry ∈ c.pendingSwaps, ¬ Completing c.worker entry.1 →
    ∀ position target, swapKey position target = entry.1 →
      entry.2.acknowledgedFrom entry.1 position = true →
        ∀ robot, findRobot c position = some robot → robot.running = true →
          robot.position = target
  working : Working c c.worker

variable {config : Config} {c after : Controller} {event : Event} {outputs : List Output}
  {reports : Reports}

theorem initial_registry : Registry initial noReports where
  table := initial_table
  counted := rfl
  few := by decide
  placed := fun _ _ found => by cases found
  flagged := fun _ _ found => by cases found
  exclusive := fun _ changed => absurd rfl changed
  targeted := fun _ _ told => by cases told
  unregistered := fun _ _ => ⟨rfl, rfl⟩
  acknowledged := fun _ member => absurd member List.not_mem_nil
  working := trivial

end Invariant

section Keep

variable {config : Config} {c after : Controller} {event : Event} {outputs : List Output}
  {reports : Reports}

/-- The same entries, with robots at the same positions and with the same flags.
Some may have stopped. -/
structure SameRegistry (c after : Controller) : Prop where
  keys : after.positionRemoteRobotMap.keys = c.positionRemoteRobotMap.keys
  robots : ∀ position robot, findRobot after position = some robot →
    ∃ before, findRobot c position = some before ∧ before.position = robot.position ∧
      before.adaptivityIsPending = robot.adaptivityIsPending ∧
      (robot.running = true → before.running = true)
  swaps : after.pendingSwaps = c.pendingSwaps
  counter : after.registeredRobots = c.registeredRobots

/-- A change of a robot that leaves its position and its flag. -/
def IsHarmless (change : RemoteRobot → RemoteRobot) (robot : RemoteRobot) : Prop :=
  (change robot).position = robot.position ∧
    (change robot).adaptivityIsPending = robot.adaptivityIsPending ∧
    ((change robot).running = true → robot.running = true)

theorem SameRegistry.of_eq (robots : after.positionRemoteRobotMap = c.positionRemoteRobotMap)
    (swaps : after.pendingSwaps = c.pendingSwaps)
    (counter : after.registeredRobots = c.registeredRobots) : SameRegistry c after where
  keys := by rw [robots]
  robots := by
    intro position robot found
    rw [findRobot, robots] at found
    exact ⟨robot, found, rfl, rfl, id⟩
  swaps := swaps
  counter := counter

theorem SameRegistry.trans {last : Controller} (first : SameRegistry c after)
    (second : SameRegistry after last) : SameRegistry c last where
  keys := second.keys.trans first.keys
  robots := by
    intro position robot found
    obtain ⟨between, here, samePosition, sameFlag, running⟩ := second.robots position robot found
    obtain ⟨before, there, position_, flag, ran⟩ := first.robots position between here
    exact ⟨before, there, position_.trans samePosition, flag.trans sameFlag, ran ∘ running⟩
  swaps := second.swaps.trans first.swaps
  counter := second.counter.trans first.counter

theorem SameRegistry.update (c : Controller) (position : Position)
    {change : RemoteRobot → RemoteRobot}
    (harmless : ∀ robot, findRobot c position = some robot → IsHarmless change robot) :
    SameRegistry c (updateRobot c position change) where
  keys := FiniteMap.keys_modify position change c.positionRemoteRobotMap
  robots := by
    intro other robot found
    rw [findRobot_updateRobot] at found
    split at found
    next same =>
      obtain ⟨before, there, rfl⟩ := Option.map_eq_some_iff.mp found
      obtain ⟨position_, flag, running⟩ := harmless before there
      rw [same]
      exact ⟨before, there, position_.symm, flag.symm, running⟩
    next => exact ⟨robot, found, rfl, rfl, id⟩
  swaps := rfl
  counter := rfl

theorem isRegistered_iff_mem_keys {position : Position} :
    isRegistered c position ↔ position ∈ c.positionRemoteRobotMap.keys := by
  rw [isRegistered, findRobot, Finmap.lookup_isSome, Finmap.mem_keys]

theorem SameRegistry.isRegistered_iff (same : SameRegistry c after) {position : Position} :
    isRegistered after position ↔ isRegistered c position := by
  rw [isRegistered_iff_mem_keys, isRegistered_iff_mem_keys, same.keys]

theorem SameRegistry.swapKeys_eq (same : SameRegistry c after) : swapKeys after = swapKeys c := by
  rw [swapKeys, same.swaps, swapKeys]

theorem SameRegistry.unflagged (same : SameRegistry c after) {position : Position}
    (unflagged : Unflagged c position) : Unflagged after position := by
  intro robot found
  obtain ⟨before, there, _, flag, _⟩ := same.robots position robot found
  rw [← flag]
  exact unflagged before there

theorem SameRegistry.working (same : SameRegistry c after) {worker : Worker}
    (working : Working c worker) : Working after worker := by
  cases worker with
  | initializingRobot robot position => exact ⟨same.isRegistered_iff.not.mpr working.1, working.2⟩
  | checkingFirst | checkingReconfiguration | reconfiguring | switchingSecond =>
      exact same.unflagged working
  | checkingSecond | switchingFirst =>
      exact ⟨same.unflagged working.1, same.unflagged working.2⟩
  | committingFirst key second position =>
      cases second with
      | none => trivial
      | some second =>
          refine ⟨?_, working.2.1, same.isRegistered_iff.not.mpr working.2.2⟩
          rw [same.swapKeys_eq]
          exact working.1
  | _ => trivial

/-- The worker goes on without a change of what it holds or tells. A call may
begin, and one may end whose robot has not moved. -/
structure SameCourse (c after : Controller) (reports : Reports) : Prop where
  completing : ∀ key, Completing after.worker key ↔ Completing c.worker key
  told : ∀ position target, after.worker.told position target ↔ c.worker.told position target
  tells : ∀ position robot, findRobot c position = some robot →
    c.worker.tells position robot.position →
      robot.position = position ∨ after.worker.tells position robot.position
  reconfigures : ∀ position, reports.change position ≠ none →
    (after.worker.reconfigures position ↔ c.worker.reconfigures position)
  held : after.worker.held = c.worker.held

theorem SameCourse.of_eq (worker : after.worker = c.worker) : SameCourse c after reports where
  completing := by rw [worker]; exact fun _ => Iff.rfl
  told := by rw [worker]; exact fun _ _ => Iff.rfl
  tells := by rw [worker]; exact fun _ _ _ tells => .inr tells
  reconfigures := by rw [worker]; exact fun _ _ => Iff.rfl
  held := by rw [worker]

/-- The worker neither tells a robot anything nor completes a swap. -/
def Worker.isPlain : Worker → Bool
  | .switchingFirst _ _ _ | .switchingSecond _ _ _ | .reconfiguring _ _ _
  | .committingFirst _ _ _ | .committingSecond _ _ => false
  | _ => true

theorem Worker.isPlain.nothing {worker : Worker} (plain : worker.isPlain = true) :
    (∀ key, ¬ Completing worker key) ∧ (∀ position target, ¬ worker.told position target) ∧
      (∀ position target, ¬ worker.tells position target) ∧
      (∀ position, ¬ worker.reconfigures position) ∧ worker.held = 0 := by
  cases worker with
  | switchingFirst | switchingSecond | reconfiguring | committingFirst | committingSecond =>
      cases plain
  | _ => exact ⟨fun _ => id, fun _ _ => id, fun _ _ => id, fun _ => id, rfl⟩

theorem SameCourse.of_plain (before : c.worker.isPlain = true)
    (plain : after.worker.isPlain = true) :
    SameCourse c after reports := by
  obtain ⟨completing, told, tells, reconfigures, held⟩ := Worker.isPlain.nothing before
  obtain ⟨completing', told', _, reconfigures', held'⟩ := Worker.isPlain.nothing plain
  exact
    { completing := fun key => iff_of_false (completing' key) (completing key)
      told := fun position target => iff_of_false (told' position target) (told position target)
      tells := fun position robot _ told => absurd told (tells position robot.position)
      reconfigures := fun position _ =>
        iff_of_false (reconfigures' position) (reconfigures position)
      held := held'.trans held.symm }

theorem Registry.keep (registry : Registry c reports) (same : SameRegistry c after)
    (course : SameCourse c after reports) (table : SwapTable after)
    (working : Working after after.worker) : Registry after reports := by
  have keys := same.swapKeys_eq
  have destination : ∀ position target,
      Destination after position target ↔ Destination c position target := by
    intro position target
    rw [Destination, keys, course.completing, course.told, Destination]
  have marked : ∀ position, Marked after position ↔ Marked c position := by
    intro position
    simp only [Marked, keys, course.completing, course.told]
  constructor
  · exact table
  · rw [same.counter, same.keys, course.held]
    exact registry.counted
  · rw [same.keys, course.held]
    exact registry.few
  · intro position robot found
    obtain ⟨before, there, samePosition, _⟩ := same.robots position robot found
    rw [← samePosition]
    rcases registry.placed position before there with here | moving | telling
    · exact .inl here
    · exact .inr (.inl ((destination position before.position).mpr moving))
    · rcases course.tells position before there telling with here | still
      · exact .inl here
      · exact .inr (.inr still)
  · intro position robot found
    obtain ⟨before, there, _, flag, _⟩ := same.robots position robot found
    rw [← flag, registry.flagged position before there, marked]
    refine or_congr Iff.rfl ?_
    constructor
    · rintro ⟨changed, not⟩
      exact ⟨changed, (course.reconfigures position changed).not.mpr not⟩
    · rintro ⟨changed, not⟩
      exact ⟨changed, (course.reconfigures position changed).not.mp not⟩
  · intro position changed
    rw [keys]
    obtain ⟨apart, untold⟩ := registry.exclusive position changed
    exact ⟨apart, fun target => (course.told position target).not.mpr (untold target)⟩
  · intro position target told
    obtain ⟨heading, unmoved⟩ := registry.targeted position target told
    refine ⟨(destination position target).mpr heading, ?_⟩
    intro robot found
    obtain ⟨before, there, samePosition, _⟩ := same.robots position robot found
    rw [← samePosition]
    exact unmoved before there
  · intro position absent
    exact registry.unregistered position (same.isRegistered_iff.not.mp absent)
  · intro entry member open_ position target isKey acknowledged robot found running
    rw [same.swaps] at member
    obtain ⟨before, there, samePosition, _, ran⟩ := same.robots position robot found
    rw [← samePosition]
    exact registry.acknowledged entry member ((course.completing entry.1).not.mp open_) position
      target isKey acknowledged before there (ran running)
  · exact working

end Keep

section Robots

variable {config : Config} {c after : Controller} {event : Event} {outputs : List Output}
  {reports : Reports} {change : RemoteRobot → RemoteRobot}

theorem Registry.post (registry : Registry c reports) (handler : Handler) :
    Registry (post c handler) reports :=
  registry.keep (.of_eq rfl rfl rfl) (.of_eq rfl) (registry.table.transport rfl (.inl rfl))
    registry.working

theorem Registry.touch (registry : Registry c reports) (place : Place)
    (harmless : ∀ robot, robotAt c place = some robot → IsHarmless change robot) :
    Registry (updateAt c change place) reports := by
  have table : SwapTable (updateAt c change place) :=
    registry.table.transport (pendingSwaps_updateAt _ place) (.inl (opens_updateAt _ place))
  cases place with
  | registered position =>
      have same : SameRegistry c (updateRobot c position change) := .update c position harmless
      exact registry.keep same (.of_eq rfl) table (same.working registry.working)
  | held =>
      have working := registry.working
      unfold robotAt at harmless
      unfold updateAt at table ⊢
      cases worker : c.worker with
      | initializingRobot robot position =>
          rw [worker] at working
          simp only [worker] at table harmless ⊢
          obtain ⟨samePosition, flag, _⟩ := harmless robot rfl
          refine registry.keep (.of_eq rfl rfl rfl) (.of_plain (by rw [worker]; rfl) rfl) table ?_
          exact ⟨working.1, samePosition.trans working.2.1, flag.trans working.2.2⟩
      | committingFirst key second position =>
          rw [worker] at working
          simp only [worker] at table harmless ⊢
          have same : SameRegistry c (setWorker c
              (.committingFirst key (second.map change) position)) := .of_eq rfl rfl rfl
          cases second with
          | none =>
              refine registry.keep same ?_ table trivial
              exact .of_eq worker.symm
          | some second =>
              obtain ⟨samePosition, _, _⟩ := harmless second rfl
              refine registry.keep same ⟨?_, ?_, ?_, ?_, ?_⟩ table ?_
              · rw [worker]
                exact fun _ => Iff.rfl
              · rw [worker]
                exact fun _ _ => Iff.rfl
              · rw [worker]
                exact fun _ _ _ tells => .inr tells
              · rw [worker]
                exact fun _ _ => Iff.rfl
              · rw [worker]
                rfl
              · have held : key ∈ swapKeys c ∧ involves (change second).position key ∧
                    ¬ isRegistered c (change second).position := by
                  rw [samePosition]
                  exact working
                exact held
      | _ =>
          simp only [worker] at table ⊢
          exact registry

theorem swapKey_other {position first second : Position}
    (same : swapKey position first = swapKey position second) : first = second := by
  have atFirst : involves first (swapKey position second) := by
    rw [← same, involves_swapKey]
    exact .inr rfl
  have atSecond : involves second (swapKey position first) := by
    rw [same, involves_swapKey]
    exact .inr rfl
  rw [involves_swapKey] at atFirst atSecond
  rcases atFirst with isPosition | equal
  · rcases atSecond with also | equal
    · exact isPosition.trans also.symm
    · exact equal.symm
  · exact equal

theorem opens_of_told {worker : Worker} {position target : Position}
    (told : worker.told position target) : position ∈ opens worker := by
  cases worker with
  | switchingSecond request fromPosition toPosition =>
      rw [told.1]
      exact List.mem_cons_self
  | _ => exact absurd told id

theorem opens_of_tells {worker : Worker} {position target : Position}
    (tells : worker.tells position target) : position ∈ opens worker := by
  cases worker with
  | switchingFirst request fromPosition toPosition =>
      rw [tells.1]
      exact List.mem_cons_self
  | switchingSecond request fromPosition toPosition =>
      rw [tells.1]
      exact List.mem_cons_of_mem _ List.mem_cons_self
  | _ => exact absurd tells id

theorem Registry.untold (registry : Registry c reports) {position target : Position}
    (tells : c.worker.tells position target) : reports.target position = none := by
  cases told : reports.target position with
  | none => rfl
  | some other =>
      rcases (registry.targeted position other told).1 with ⟨member, _⟩ | first
      · have involved : involves position (swapKey position other) := by
          rw [involves_swapKey]
          exact .inl rfl
        exact absurd involved (registry.table.opening position (opens_of_tells tells) _ member)
      · have different := registry.table.different
        cases worker : c.worker with
        | switchingSecond request fromPosition toPosition =>
            rw [worker] at tells first different
            have same : fromPosition = toPosition := first.1.symm.trans tells.1
            simp [opens, same] at different
        | _ =>
            rw [worker] at first
            exact absurd first id

theorem Registry.elsewhere (registry : Registry c reports) {position target : Position}
    (destination : Destination c position target) : target ≠ position := by
  rintro rfl
  rcases destination with ⟨member, _⟩ | told
  · have ordered := registry.table.ordered _ member
    simp [swapKey] at ordered
  · have different := registry.table.different
    cases worker : c.worker with
    | switchingSecond request fromPosition toPosition =>
        rw [worker] at told different
        have same : fromPosition = toPosition := told.1.symm.trans told.2
        simp [opens, same] at different
    | _ =>
        rw [worker] at told
        exact absurd told id

theorem Registry.moved (registry : Registry c reports) {position target : Position}
    {robot : RemoteRobot} (found : findRobot c position = some robot)
    (heading : Destination c position target ∨ c.worker.tells position target)
    (change : RemoteRobot → RemoteRobot)
    (moves : ∀ robot, (change robot).position = target ∧
      (change robot).adaptivityIsPending = robot.adaptivityIsPending ∧
      (change robot).running = robot.running)
    {later : Reports} (sameChange : later.change = reports.change)
    (reported : ∀ other told, later.target other = some told →
      other ≠ position ∧ reports.target other = some told) :
    Registry (updateRobot c position change) later := by
  have here : findRobot (updateRobot c position change) position = some (change robot) := by
    rw [findRobot_updateRobot, if_pos rfl, found, Option.map_some]
  have elsewhere : ∀ other, other ≠ position →
      findRobot (updateRobot c position change) other = findRobot c other := by
    intro other different
    rw [findRobot_updateRobot, if_neg different]
  have flags : ∀ {other : Position}, Unflagged c other →
      Unflagged (updateRobot c position change) other := by
    intro other unflagged updated present
    by_cases same : other = position
    · rw [same, here, Option.some.injEq] at present
      rw [← present, (moves robot).2.1]
      rw [same] at unflagged
      exact unflagged robot found
    · rw [elsewhere other same] at present
      exact unflagged updated present
  constructor
  · exact registry.table.transport rfl (.inl rfl)
  · have keys : (updateRobot c position change).positionRemoteRobotMap.keys =
        c.positionRemoteRobotMap.keys := FiniteMap.keys_modify _ _ _
    rw [keys]
    exact registry.counted
  · have keys : (updateRobot c position change).positionRemoteRobotMap.keys =
        c.positionRemoteRobotMap.keys := FiniteMap.keys_modify _ _ _
    rw [keys]
    exact registry.few
  · intro other updated present
    by_cases same : other = position
    · rw [same, here, Option.some.injEq] at present
      rw [← present, (moves robot).1, same]
      exact .inr heading
    · rw [elsewhere other same] at present
      exact registry.placed other updated present
  · intro other updated present
    rw [sameChange]
    by_cases same : other = position
    · rw [same, here, Option.some.injEq] at present
      rw [← present, (moves robot).2.1, same]
      exact registry.flagged position robot found
    · rw [elsewhere other same] at present
      exact registry.flagged other updated present
  · rw [sameChange]
    exact registry.exclusive
  · intro other told isTold
    obtain ⟨different, before⟩ := reported other told isTold
    obtain ⟨destination, unmoved⟩ := registry.targeted other told before
    refine ⟨destination, ?_⟩
    intro updated present
    rw [elsewhere other different] at present
    exact unmoved updated present
  · intro other absent
    rw [isRegistered_updateRobot] at absent
    obtain ⟨untold, unchanged⟩ := registry.unregistered other absent
    rw [sameChange]
    refine ⟨?_, unchanged⟩
    cases told : later.target other with
    | none => rfl
    | some target =>
        rw [(reported other target told).2] at untold
        cases untold
  · intro entry member open_ other partner isKey acknowledged updated present running
    by_cases same : other = position
    · rw [same, here, Option.some.injEq] at present
      rw [← present, (moves robot).1]
      rw [same] at isKey
      have involved : involves position entry.1 := by
        rw [← isKey, involves_swapKey]
        exact .inl rfl
      have apart : ∀ worked, position ∈ opens worked → worked = c.worker → False := by
        rintro worked opening rfl
        exact registry.table.opening position opening entry.1 (List.mem_map_of_mem member) involved
      rcases heading with (⟨key, _⟩ | told) | tells
      · have sameKey := registry.table.eq_of_involves key (List.mem_map_of_mem member)
          (by rw [involves_swapKey]; exact .inl rfl) involved
        exact swapKey_other (sameKey.trans isKey.symm)
      · exact absurd rfl (apart c.worker (opens_of_told told))
      · exact absurd rfl (apart c.worker (opens_of_tells tells))
    · rw [elsewhere other same] at present
      exact registry.acknowledged entry member open_ other partner isKey acknowledged updated
        present running
  · have working := registry.working
    have sameWorker : (updateRobot c position change).worker = c.worker := rfl
    rw [sameWorker]
    cases worker : c.worker with
    | initializingRobot held place =>
        rw [worker] at working
        exact ⟨isRegistered_updateRobot.not.mpr working.1, working.2⟩
    | checkingFirst | checkingReconfiguration | reconfiguring | switchingSecond =>
        rw [worker] at working
        exact flags working
    | checkingSecond | switchingFirst =>
        rw [worker] at working
        exact ⟨flags working.1, flags working.2⟩
    | committingFirst key second place =>
        rw [worker] at working
        cases second with
        | none => trivial
        | some second =>
            exact ⟨working.1, working.2.1, isRegistered_updateRobot.not.mpr working.2.2⟩
    | _ => trivial

theorem Registry.changed (registry : Registry c reports) {position : Position}
    (present : isRegistered c position)
    (due : reports.change position = some .instructed ∨
      c.worker.reconfigures position ∧ reports.change position = none) :
    Registry c
      { reports with change := Function.update reports.change position (some .reported) } := by
  obtain ⟨robot, found⟩ := Option.isSome_iff_exists.mp present
  have atPosition : Function.update reports.change position (some Change.reported) position ≠
      none := by simp
  constructor
  · exact registry.table
  · exact registry.counted
  · exact registry.few
  · exact registry.placed
  · intro other updated there
    by_cases same : other = position
    · have before := registry.flagged other updated there
      rw [same] at before ⊢
      rw [before]
      refine or_congr Iff.rfl ?_
      rcases due with instructed | ⟨reconfigures, _⟩
      · simp [instructed]
      · simp [reconfigures]
    · simp only [ne_eq, Function.update_of_ne same]
      exact registry.flagged other updated there
  · intro other nonempty
    by_cases same : other = position
    · rw [same]
      rcases due with instructed | ⟨reconfigures, none_⟩
      · exact registry.exclusive position (by rw [instructed]; simp)
      · have working := registry.working
        cases worker : c.worker with
        | reconfiguring request robotPosition profile =>
            rw [worker] at reconfigures working
            have unflagged : robot.adaptivityIsPending = false := by
              rw [← (show robotPosition = position from reconfigures)] at found
              exact working robot found
            have unmarked : ¬ Marked c position := by
              intro marked
              rw [(registry.flagged position robot found).mpr (.inl marked)] at unflagged
              cases unflagged
            constructor
            · intro key member involved
              refine unmarked (.inl ⟨key, member, involved, ?_⟩)
              rw [worker]
              exact id
            · exact fun _ => id
        | _ =>
            rw [worker] at reconfigures
            exact absurd reconfigures id
    · simp only [ne_eq, Function.update_of_ne same] at nonempty
      exact registry.exclusive other nonempty
  · exact registry.targeted
  · intro other absent
    have different : other ≠ position := by
      rintro rfl
      exact absent present
    simp only [Function.update_of_ne different]
    exact registry.unregistered other absent
  · exact registry.acknowledged
  · exact registry.working

end Robots

end CpsKitchen.ControllerAgent
