import CpsKitchen.ControllerAgent.RegistryCompletion

/-!
# The handlers keep the registry

A reconfiguration that is processed takes the flag from its robot, a robot that
registers gets a key that nobody has. So every handler keeps the registry.
-/

namespace CpsKitchen.ControllerAgent

open CpsKitchen.Reactive CpsKitchen.Recipes

set_option autoImplicit false

section Handlers

variable {config : Config} {c after : Controller} {event : Event} {outputs : List Output}
  {reports : Reports}

theorem Registry.process (registry : Registry c reports) (idle : c.worker = .betweenHandlers)
    {position : Position}
    (due : ∀ robot, findRobot c position = some robot → robot.adaptivityIsPending = true →
      reports.change position ≠ none) :
    Registry (updateRobot c position resetAdaptivityFlag)
      { reports with change := Function.update reports.change position none } := by
  have robots : ∀ other robot, findRobot (updateRobot c position resetAdaptivityFlag) other =
      some robot → ∃ before, findRobot c other = some before ∧ before.position = robot.position ∧
        before.running = robot.running ∧
        (robot.adaptivityIsPending = true ↔
          before.adaptivityIsPending = true ∧ other ≠ position) := by
    intro other robot found
    rw [findRobot_updateRobot] at found
    split at found
    next same =>
      obtain ⟨before, there, rfl⟩ := Option.map_eq_some_iff.mp found
      rw [same]
      exact ⟨before, there, rfl, rfl, by simp [resetAdaptivityFlag]⟩
    next different => exact ⟨robot, found, rfl, rfl, by simp [different]⟩
  have changes : ∀ other, Function.update reports.change position none other ≠ none ↔
      reports.change other ≠ none ∧ other ≠ position := by
    intro other
    by_cases same : other = position
    · simp [same]
    · simp [same]
  have keys : (updateRobot c position resetAdaptivityFlag).positionRemoteRobotMap.keys =
      c.positionRemoteRobotMap.keys := FiniteMap.keys_modify _ _ _
  constructor
  · exact registry.table.transport rfl (.inl rfl)
  · rw [keys]
    exact registry.counted
  · rw [keys]
    exact registry.few
  · intro other robot found
    obtain ⟨before, there, samePosition, _⟩ := robots other robot found
    rw [← samePosition]
    exact registry.placed other before there
  · intro other robot found
    obtain ⟨before, there, _, _, flag⟩ := robots other robot found
    rw [flag, registry.flagged other before there, changes]
    have sameMarked : Marked (updateRobot c position resetAdaptivityFlag) other ↔ Marked c other :=
      Iff.rfl
    rw [sameMarked]
    constructor
    · rintro ⟨marked | ⟨changed, free⟩, different⟩
      · exact .inl marked
      · exact .inr ⟨⟨changed, different⟩, free⟩
    · rintro (marked | ⟨⟨changed, different⟩, free⟩)
      · refine ⟨.inl marked, ?_⟩
        rintro rfl
        have changed := due before there ((registry.flagged other before there).mpr (.inl marked))
        obtain ⟨apart, untold⟩ := registry.exclusive other changed
        rcases marked with ⟨key, member, involved, _⟩ | ⟨target, told⟩
        · exact apart key member involved
        · exact untold target told
      · exact ⟨.inr ⟨changed, free⟩, different⟩
  · intro other changed
    exact registry.exclusive other ((changes other).mp changed).1
  · intro other target told
    obtain ⟨heading, unmoved⟩ := registry.targeted other target told
    refine ⟨heading, ?_⟩
    intro robot found
    obtain ⟨before, there, samePosition, _⟩ := robots other robot found
    rw [← samePosition]
    exact unmoved before there
  · intro other absent
    rw [isRegistered_updateRobot] at absent
    obtain ⟨untold, unchanged⟩ := registry.unregistered other absent
    refine ⟨untold, ?_⟩
    by_contra changed
    exact ((changes other).mp changed).1 unchanged
  · intro entry member open_ other target isKey acknowledged robot found running
    obtain ⟨before, there, samePosition, sameRunning, _⟩ := robots other robot found
    rw [← samePosition]
    exact registry.acknowledged entry member open_ other target isKey acknowledged before there
      (sameRunning.trans running)
  · have worker : (updateRobot c position resetAdaptivityFlag).worker = .betweenHandlers := idle
    rw [worker]
    trivial

theorem Registry.register (registry : Registry c reports) {robot : RemoteRobot}
    {position : Position} (initializing : c.worker = .initializingRobot robot position)
    (few : c.positionRemoteRobotMap.keys.card + 1 < 2 ^ 32) {worker : Worker}
    (plain : worker.isPlain = true) (opening : opens worker = [])
    (working : ∀ after, Working after worker) :
    Registry (setWorker
      { insertRobot c position robot with
        registeredRobots := (c.registeredRobots + 1) % 2 ^ 32 } worker) reports := by
  have before := registry.working
  rw [initializing] at before
  obtain ⟨absent, stands, unflagged⟩ := before
  have outside : ∀ key ∈ swapKeys c, ¬ involves position key := by
    refine registry.table.opening position ?_
    rw [initializing]
    exact List.mem_singleton_self position
  obtain ⟨completing, told, tells, reconfigures, held⟩ := Worker.isPlain.nothing plain
  have idle : c.worker.isPlain = true := by rw [initializing]; rfl
  obtain ⟨completing', told', tells', reconfigures', held'⟩ := Worker.isPlain.nothing idle
  have found : ∀ other, findRobot (setWorker { insertRobot c position robot with
      registeredRobots := (c.registeredRobots + 1) % 2 ^ 32 } worker) other =
        if other = position then some robot else findRobot c other := by
    intro other
    rw [← findRobot_insertRobot]
    rfl
  have keys : (setWorker { insertRobot c position robot with
      registeredRobots := (c.registeredRobots + 1) % 2 ^ 32 } worker).positionRemoteRobotMap.keys =
        insert position c.positionRemoteRobotMap.keys := FiniteMap.keys_insert _ _ _
  have card : (insert position c.positionRemoteRobotMap.keys).card =
      c.positionRemoteRobotMap.keys.card + 1 := by
    rw [isRegistered_iff_mem_keys] at absent
    exact Finset.card_insert_of_notMem absent
  have counted := registry.counted
  rw [held'] at counted
  have newWorker : (setWorker { insertRobot c position robot with
      registeredRobots := (c.registeredRobots + 1) % 2 ^ 32 } worker).worker = worker := rfl
  constructor
  · exact registry.table.mono (List.Sublist.refl _) (.inr opening)
  · rw [keys, card, newWorker, held]
    have counter : (setWorker { insertRobot c position robot with
      registeredRobots := (c.registeredRobots + 1) % 2 ^ 32 } worker).registeredRobots =
        (c.registeredRobots + 1) % 2 ^ 32 := rfl
    rw [counter, counted]
    omega
  · rw [keys, card, newWorker, held]
    exact few
  · intro other present there
    rw [found] at there
    split at there
    next same =>
      rw [Option.some.injEq] at there
      rw [← there, same]
      exact .inl stands
    · rcases registry.placed other present there with here | moving | telling
      · exact .inl here
      · rcases moving with ⟨member, _⟩ | first
        · exact .inr (.inl (.inl ⟨member, completing _⟩))
        · exact absurd first (told' other _)
      · exact absurd telling (tells' other _)
  · intro other present there
    rw [found] at there
    have marked : Marked (setWorker { insertRobot c position robot with
        registeredRobots := (c.registeredRobots + 1) % 2 ^ 32 } worker) other ↔ Marked c other := by
      refine or_congr ?_ ?_
      · constructor
        · rintro ⟨key, member, involved, _⟩
          exact ⟨key, member, involved, completing' key⟩
        · rintro ⟨key, member, involved, _⟩
          exact ⟨key, member, involved, completing key⟩
      · exact iff_of_false (fun ⟨target, first⟩ => told other target first)
          (fun ⟨target, first⟩ => told' other target first)
    rw [marked]
    split at there
    next same =>
      rw [Option.some.injEq] at there
      rw [← there, unflagged, same, (registry.unregistered position absent).2]
      refine iff_of_false Bool.false_ne_true ?_
      rintro ((⟨key, member, involved, _⟩ | ⟨target, first⟩) | ⟨changed, _⟩)
      · exact outside key member involved
      · exact told' position target first
      · exact changed rfl
    · rw [registry.flagged other present there]
      exact or_congr Iff.rfl (and_congr Iff.rfl
        (iff_of_true (reconfigures' other) (reconfigures other)))
  · intro other changed
    exact ⟨(registry.exclusive other changed).1, told other⟩
  · intro other target due
    obtain ⟨heading, unmoved⟩ := registry.targeted other target due
    have different : other ≠ position := by
      rintro rfl
      rw [(registry.unregistered other absent).1] at due
      cases due
    constructor
    · rcases heading with ⟨member, _⟩ | first
      · exact .inl ⟨member, completing _⟩
      · exact absurd first (told' other target)
    · intro present there
      rw [found, if_neg different] at there
      exact unmoved present there
  · intro other notThere
    rw [isRegistered, found] at notThere
    split at notThere
    · exact absurd rfl notThere
    · exact registry.unregistered other notThere
  · intro entry member _ other target isKey acknowledged present there running
    have different : other ≠ position := by
      rintro rfl
      refine outside entry.1 (List.mem_map_of_mem member) ?_
      rw [← isKey, involves_swapKey]
      exact .inl rfl
    rw [found, if_neg different] at there
    exact registry.acknowledged entry member (completing' _) other target isKey acknowledged present
      there running
  · exact working _

theorem Registry.handled (registry : Registry c reports) (fresh : NotStale c reports .runHandler)
    (idle : c.worker = .betweenHandlers) {handler : Handler} {posted : List Handler}
    (next : c.posted = handler :: posted) (ran : Handles (takeHandler c posted) handler after)
    (table : SwapTable after) : Registry after (keepReports c .runHandler reports) := by
  have kept : keepReports c .runHandler reports =
      (reports.forgetStopped c).process (some handler) := by
    rw [keepReports, next]
    rfl
  have due := fresh rfl
  rw [next] at due
  have taken : Registry (takeHandler c posted) reports :=
    registry.keep (.of_eq rfl rfl rfl) (.of_eq rfl) (registry.table.transport rfl (.inl rfl))
      registry.working
  have cleaned : Registry (cleanUp (takeHandler c posted)) (reports.forgetStopped c) :=
    taken.cleanedUp idle
  have plain : (cleanUp (takeHandler c posted)).worker.isPlain = true := by
    rw [show (cleanUp (takeHandler c posted)).worker = c.worker from rfl, idle]
    rfl
  rw [kept]
  cases ran with
  | registrationRefused => exact cleaned
  | registrationStarts endpoint position capabilities settled free =>
      refine cleaned.keep (.of_eq rfl rfl rfl) (.of_plain plain rfl) table ?_
      exact ⟨free, rfl, rfl⟩
  | receiverUnknown | chooses =>
      exact cleaned.keep (.of_eq rfl rfl rfl) (.of_plain plain rfl) table trivial
  | swapUnknown => exact cleaned
  | acknowledged oldPosition newPosition swap found =>
      have member : swapKey oldPosition newPosition ∈ swapKeys c :=
        (cleanUp_keys (takeHandler c posted)).subset
          (List.mem_map_of_mem (mem_of_lookup found))
      refine cleaned.acknowledge idle ?_
      intro robot there running
      exact due member robot (findRobot_cleanUp.mp there).1 running
  | completes oldPosition newPosition swap found both =>
      have entry := mem_of_lookup found
      have inKeys : swapKey oldPosition newPosition ∈ swapKeys (cleanUp (takeHandler c posted)) :=
        List.mem_map_of_mem entry
      have member : swapKey oldPosition newPosition ∈ swapKeys c :=
        (cleanUp_keys (takeHandler c posted)).subset inKeys
      have acknowledged : Registry (acknowledgeSwap (cleanUp (takeHandler c posted))
          (swapKey oldPosition newPosition) oldPosition) (reports.forgetStopped c) := by
        refine cleaned.acknowledge idle ?_
        intro robot there running
        exact due member robot (findRobot_cleanUp.mp there).1 running
      have now : (swapKey oldPosition newPosition,
          swap.acknowledge (swapKey oldPosition newPosition) oldPosition) ∈
            (acknowledgeSwap (cleanUp (takeHandler c posted)) (swapKey oldPosition newPosition)
              oldPosition).pendingSwaps :=
        List.mem_map.mpr ⟨_, entry, if_pos rfl⟩
      refine acknowledged.completeSwap idle ?_ ?_ ?_
      · rw [acknowledgeSwap_keys]
        exact inKeys
      · intro position target isKey robot there
        obtain ⟨_, running⟩ := findRobot_cleanUp.mp there
        refine acknowledged.acknowledged _ now ?_ position target isKey ?_ robot there running
        · rw [show (acknowledgeSwap (cleanUp (takeHandler c posted))
            (swapKey oldPosition newPosition) oldPosition).worker = c.worker from rfl, idle]
          exact id
        · rw [SwapState.isAcknowledged, Bool.and_eq_true] at both
          unfold SwapState.acknowledgedFrom
          split
          · exact both.2
          · exact both.1
      · have kept_ := (List.mem_filter.mp entry).2
        rw [decide_eq_true_eq] at kept_
        exact kept_
  | reconfigured robotPosition =>
      have removed : Registry (removeStoppedRobots (takeHandler c posted))
          (reports.forgetStopped c) := taken.removeStopped idle
      refine removed.process idle ?_
      intro robot there flag
      rw [findRobot_removeStoppedRobots, Option.filter_eq_some_iff] at there
      have notStopped : ¬ isStopped c robotPosition := by
        have found : findRobot c robotPosition = some robot := there.1
        rw [isStopped, found]
        simp [there.2]
      have change : (reports.forgetStopped c).change robotPosition = some .reported := by
        rw [Reports.forgetStopped]
        simp only [if_neg notStopped]
        exact (due robot there.1 there.2 flag).1
      rw [change]
      simp

end Handlers

end CpsKitchen.ControllerAgent
