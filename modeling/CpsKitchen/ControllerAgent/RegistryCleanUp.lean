import CpsKitchen.ControllerAgent.Registry

/-!
# Entries that open and go away

A robot that accepts a switch opens an entry of the table of swaps. The robots
that stopped leave the map at the begin of a handler, and with them the entries
nobody is left for.
-/

namespace CpsKitchen.ControllerAgent

open CpsKitchen.Reactive CpsKitchen.Recipes
open CpsKitchen.RobotAgent (subWord)

set_option autoImplicit false

section Switches

variable {config : Config} {c after : Controller} {event : Event} {outputs : List Output}
  {reports : Reports}

theorem Registry.unmarked (registry : Registry c reports) {position : Position}
    (unflagged : Unflagged c position) (present : isRegistered c position) :
    ¬ Marked c position := by
  intro marked
  obtain ⟨robot, found⟩ := Option.isSome_iff_exists.mp present
  have flag := (registry.flagged position robot found).mpr (.inl marked)
  rw [unflagged robot found] at flag
  cases flag

theorem Registry.unchanged (registry : Registry c reports) {position : Position}
    (unflagged : Unflagged c position) (idle : ¬ c.worker.reconfigures position) :
    reports.change position = none := by
  by_contra changed
  cases found : findRobot c position with
  | none =>
      have absent : ¬ isRegistered c position := by rw [isRegistered, found]; simp
      exact changed (registry.unregistered position absent).2
  | some robot =>
      have flag := (registry.flagged position robot found).mpr (.inr ⟨changed, idle⟩)
      rw [unflagged robot found] at flag
      cases flag

/-- The robot at `newly` has accepted to go to `target`. It is flagged, and the
entry of its swap is there or will be. -/
theorem Registry.switch (registry : Registry c reports) {newly target : Position}
    (telling : ∀ position goal, c.worker.tells position goal ↔ position = newly ∧ goal = target)
    (unflagged : Unflagged c newly) (table : SwapTable after)
    (keys : after.positionRemoteRobotMap.keys = c.positionRemoteRobotMap.keys)
    (robots : ∀ position robot, findRobot after position = some robot →
      ∃ before, findRobot c position = some before ∧ before.position = robot.position ∧
        robot.adaptivityIsPending = (decide (position = newly) || before.adaptivityIsPending) ∧
        (robot.running = true → before.running = true))
    (counter : after.registeredRobots = c.registeredRobots)
    (held : after.worker.held = c.worker.held)
    (idle : ∀ position, ¬ c.worker.reconfigures position ∧ ¬ after.worker.reconfigures position)
    (destination : ∀ position goal, Destination c position goal → Destination after position goal)
    (reaches : Destination after newly target)
    (marked : ∀ position, isRegistered c position →
      (Marked after position ↔ Marked c position ∨ position = newly))
    (involved : ∀ position, isRegistered c position →
      (∃ key ∈ swapKeys after, involves position key) ∨
        (∃ goal, after.worker.told position goal) →
      (∃ key ∈ swapKeys c, involves position key) ∨ (∃ goal, c.worker.told position goal) ∨
        position = newly)
    (acknowledged : ∀ entry ∈ after.pendingSwaps,
      entry ∈ c.pendingSwaps ∧ ¬ Completing c.worker entry.1 ∨
        ∀ position goal, swapKey position goal = entry.1 →
          entry.2.acknowledgedFrom entry.1 position = true →
            ∀ robot, findRobot after position = some robot → robot.running = true →
              robot.position = goal)
    (working : Working after after.worker) {later : Reports}
    (sameChange : later.change = reports.change)
    (told : ∀ position goal, later.target position = some goal →
      reports.target position = some goal ∨
        position = newly ∧ goal = target ∧ isRegistered c newly ∧
          ∀ robot, findRobot c newly = some robot → robot.position ≠ target) :
    Registry after later := by
  have sameRegistered : ∀ position, isRegistered after position ↔ isRegistered c position := by
    intro position
    rw [isRegistered_iff_mem_keys, isRegistered_iff_mem_keys, keys]
  have registered : ∀ {position : Position} {robot : RemoteRobot},
      findRobot c position = some robot → isRegistered c position := by
    intro position robot found
    rw [isRegistered, found]
    rfl
  have inKeys : ∀ key ∈ swapKeys c, ¬ involves newly key :=
    registry.table.opening newly (opens_of_tells ((telling newly target).mpr ⟨rfl, rfl⟩))
  constructor
  · exact table
  · rw [counter, keys, held]
    exact registry.counted
  · rw [keys, held]
    exact registry.few
  · intro position robot found
    obtain ⟨before, there, samePosition, _⟩ := robots position robot found
    rw [← samePosition]
    rcases registry.placed position before there with here | moving | tells
    · exact .inl here
    · exact .inr (.inl (destination position before.position moving))
    · obtain ⟨rfl, atTarget⟩ := (telling position before.position).mp tells
      rw [atTarget]
      exact .inr (.inl reaches)
  · intro position robot found
    obtain ⟨before, there, _, flag, _⟩ := robots position robot found
    have here := registered there
    rw [flag, sameChange, Bool.or_eq_true, decide_eq_true_eq, marked position here,
      registry.flagged position before there]
    simp only [idle position, not_false_eq_true, and_true]
    tauto
  · intro position changed
    rw [sameChange] at changed
    obtain ⟨apart, untold⟩ := registry.exclusive position changed
    have here : isRegistered c position := by
      by_contra absent
      exact changed (registry.unregistered position absent).2
    have notNewly : position ≠ newly := by
      rintro rfl
      exact changed (registry.unchanged unflagged (idle position).1)
    have free : ¬ ((∃ key ∈ swapKeys after, involves position key) ∨
        ∃ goal, after.worker.told position goal) := by
      intro some_
      rcases involved position here some_ with ⟨key, member, inside⟩ | ⟨goal, isTold⟩ | same
      · exact apart key member inside
      · exact untold goal isTold
      · exact notNewly same
    exact ⟨fun key member inside => free (.inl ⟨key, member, inside⟩),
      fun goal isTold => free (.inr ⟨goal, isTold⟩)⟩
  · intro position goal isTold
    rcases told position goal isTold with before | ⟨rfl, rfl, _, notThere⟩
    · obtain ⟨heading, unmoved⟩ := registry.targeted position goal before
      refine ⟨destination position goal heading, ?_⟩
      intro robot found
      obtain ⟨earlier, there, samePosition, _⟩ := robots position robot found
      rw [← samePosition]
      exact unmoved earlier there
    · refine ⟨reaches, ?_⟩
      intro robot found
      obtain ⟨earlier, there, samePosition, _⟩ := robots position robot found
      rw [← samePosition]
      rcases registry.placed position earlier there with here | moving | tells
      · exact here
      · rcases moving with ⟨member, _⟩ | first
        · exact absurd (involves_swapKey.mpr (.inl rfl)) (inKeys _ member)
        · have none_ := registry.unmarked unflagged (registered there)
          exact absurd (.inr ⟨_, first⟩) none_
      · exact absurd ((telling position earlier.position).mp tells).2 (notThere earlier there)
  · intro position absent
    rw [sameRegistered] at absent
    obtain ⟨untold, unchanged⟩ := registry.unregistered position absent
    rw [sameChange]
    refine ⟨?_, unchanged⟩
    cases isTold : later.target position with
    | none => rfl
    | some goal =>
        rcases told position goal isTold with before | ⟨rfl, _, present, _⟩
        · rw [untold] at before
          cases before
        · exact absurd present absent
  · intro entry member _ position goal isKey isAcknowledged robot found running
    rcases acknowledged entry member with ⟨before, open_⟩ | new
    · obtain ⟨earlier, there, samePosition, _, ran⟩ := robots position robot found
      rw [← samePosition]
      exact registry.acknowledged entry before open_ position goal isKey isAcknowledged earlier
        there (ran running)
    · exact new position goal isKey isAcknowledged robot found running
  · exact working

theorem acknowledgedFrom_first {fromPosition toPosition : Position}
    (different : fromPosition ≠ toPosition) (acknowledged : Bool) :
    (newSwap fromPosition toPosition acknowledged).acknowledgedFrom
      (swapKey fromPosition toPosition) fromPosition = false := by
  unfold newSwap SwapState.acknowledgedFrom swapKey
  rcases Nat.lt_or_gt_of_ne different with below | above
  · rw [if_pos below, if_neg different]
    simp [Nat.lt_asymm below]
  · rw [if_neg (Nat.lt_asymm above), if_pos rfl]
    simp [Nat.lt_asymm above]

theorem acknowledgedFrom_second {fromPosition toPosition : Position}
    (different : fromPosition ≠ toPosition) (acknowledged : Bool) :
    (newSwap fromPosition toPosition acknowledged).acknowledgedFrom
      (swapKey fromPosition toPosition) toPosition = acknowledged := by
  unfold newSwap SwapState.acknowledgedFrom swapKey
  rcases Nat.lt_or_gt_of_ne different with below | above
  · rw [if_pos below, if_pos rfl]
    simp [below]
  · rw [if_neg (Nat.lt_asymm above), if_neg different.symm]
    simp [above]

theorem Reports.tell_target {position target : Position} (other goal : Position)
    (told : (reports.tell c position target).target other = some goal) :
    reports.target other = some goal ∨
      other = position ∧ goal = target ∧ isRegistered c position ∧
        ∀ robot, findRobot c position = some robot → robot.position ≠ target := by
  unfold Reports.tell at told
  split at told
  next unmoved =>
    by_cases same : other = position
    · rw [same] at told ⊢
      simp only [Function.update_self, Option.some.injEq] at told
      rw [Option.any_eq_true] at unmoved
      obtain ⟨robot, found, notThere⟩ := unmoved
      refine .inr ⟨rfl, told.symm, ?_, ?_⟩
      · rw [isRegistered, found]
        rfl
      · intro also present
        rw [found, Option.some.injEq] at present
        rw [← present]
        exact of_decide_eq_true notThere
    · simp only [Function.update_of_ne same] at told
      exact .inl told
  · exact .inl told

theorem Reports.tell_change {position target : Position} :
    (reports.tell c position target).change = reports.change := by
  unfold Reports.tell
  split <;> rfl

end Switches

section CleanUp

variable {config : Config} {c after : Controller} {event : Event} {outputs : List Output}
  {reports : Reports}

theorem card_removeStoppedRobots (c : Controller) :
    (removeStoppedRobots c).positionRemoteRobotMap.keys.card +
        (c.positionRemoteRobotMap.keys.filter fun position => isStopped c position).card =
      c.positionRemoteRobotMap.keys.card := by
  have running : (removeStoppedRobots c).positionRemoteRobotMap.keys =
      c.positionRemoteRobotMap.keys.filter fun position => ¬ isStopped c position := by
    ext position
    rw [← isRegistered_iff_mem_keys, isRegistered_removeStoppedRobots, Finset.mem_filter,
      isRegistered_iff_mem_keys]
  rw [running, Nat.add_comm]
  exact Finset.card_filter_add_card_filter_not _

theorem acknowledgedFrom_acknowledgeStopped {position : Position} {entry : SwapKey × SwapState}
    (running : ¬ isStopped c position) (involved : involves position entry.1) :
    (acknowledgeStopped c entry).2.acknowledgedFrom entry.1 position =
      entry.2.acknowledgedFrom entry.1 position := by
  unfold SwapState.acknowledgedFrom
  by_cases isGreater : position = entry.1.2
  · rw [if_pos isGreater, if_pos isGreater]
    rw [isGreater] at running
    simp [acknowledgeStopped, running]
  · rw [if_neg isGreater, if_neg isGreater]
    have isLower : entry.1.1 = position := involved.resolve_right fun same => isGreater same.symm
    rw [← isLower] at running
    simp [acknowledgeStopped, running]

theorem Registry.removeStopped (registry : Registry c reports)
    (idle : c.worker = .betweenHandlers) :
    Registry (removeStoppedRobots c) (reports.forgetStopped c) := by
  have keys : swapKeys (removeStoppedRobots c) = swapKeys c := removeStoppedRobots_keys c
  have from_ : ∀ {position : Position} {robot : RemoteRobot},
      findRobot (removeStoppedRobots c) position = some robot →
        findRobot c position = some robot ∧ ¬ isStopped c position := by
    intro position robot found
    rw [findRobot_removeStoppedRobots, Option.filter_eq_some_iff] at found
    refine ⟨found.1, ?_⟩
    rw [isStopped, found.1]
    simp [found.2]
  constructor
  · exact registry.table.mono (by rw [keys]) (.inl rfl)
  · have before := registry.counted
    have card := card_removeStoppedRobots c
    have counter : (removeStoppedRobots c).registeredRobots = subWord 32 c.registeredRobots
        (c.positionRemoteRobotMap.keys.filter fun position => isStopped c position).card := rfl
    have worker : (removeStoppedRobots c).worker = .betweenHandlers := idle
    rw [idle] at before
    rw [counter, before, worker, subWord, if_pos (by simp only [Worker.held]; omega)]
    simp only [Worker.held]
    omega
  · have before := registry.few
    have card := card_removeStoppedRobots c
    have worker : (removeStoppedRobots c).worker = c.worker := rfl
    rw [worker]
    omega
  · intro position robot found
    obtain ⟨there, _⟩ := from_ found
    have placed := registry.placed position robot there
    unfold Destination at placed ⊢
    rw [keys]
    exact placed
  · intro position robot found
    obtain ⟨there, running⟩ := from_ found
    have flagged := registry.flagged position robot there
    have kept : (reports.forgetStopped c).change position = reports.change position :=
      if_neg running
    unfold Marked at flagged ⊢
    rw [keys, kept]
    exact flagged
  · intro position changed
    rw [keys]
    refine registry.exclusive position ?_
    intro none_
    refine changed ?_
    rw [Reports.forgetStopped]
    simp only [none_, ite_self]
  · intro position target told
    rw [Reports.forgetStopped] at told
    simp only [Option.ite_none_left_eq_some] at told
    obtain ⟨destination, unmoved⟩ := registry.targeted position target told.2
    constructor
    · unfold Destination at destination ⊢
      rw [keys]
      exact destination
    · exact fun robot found => unmoved robot (from_ found).1
  · intro position absent
    rw [isRegistered_removeStoppedRobots, not_and_not_right] at absent
    rw [Reports.forgetStopped]
    by_cases stopped : isStopped c position
    · simp only [if_pos stopped, and_self]
    · simp only [if_neg stopped]
      exact registry.unregistered position fun present => stopped (absent present)
  · intro entry member open_ position target isKey acknowledged robot found running
    obtain ⟨there, notStopped⟩ := from_ found
    obtain ⟨before, earlier, rfl⟩ := List.mem_map.mp member
    refine registry.acknowledged before earlier open_ position target isKey ?_ robot there running
    have involved : involves position before.1 := by
      rw [← (show swapKey position target = before.1 from isKey), involves_swapKey]
      exact .inl rfl
    rw [← acknowledgedFrom_acknowledgeStopped notStopped involved]
    exact acknowledged
  · have worker : (removeStoppedRobots c).worker = .betweenHandlers := idle
    rw [worker]
    trivial

theorem Registry.eraseStale (registry : Registry c reports) (idle : c.worker = .betweenHandlers) :
    Registry (eraseStalePendingSwapEntries c) reports := by
  have subset : ∀ entry ∈ (eraseStalePendingSwapEntries c).pendingSwaps, entry ∈ c.pendingSwaps :=
    fun entry member => (List.mem_filter.mp member).1
  have keysSubset : ∀ key ∈ swapKeys (eraseStalePendingSwapEntries c), key ∈ swapKeys c := by
    intro key member
    obtain ⟨entry, inside, rfl⟩ := List.mem_map.mp member
    exact List.mem_map_of_mem (subset entry inside)
  have kept : ∀ {position : Position} {key : SwapKey}, isRegistered c position → key ∈ swapKeys c →
      involves position key → key ∈ swapKeys (eraseStalePendingSwapEntries c) := by
    intro position key present member involved
    obtain ⟨entry, inside, rfl⟩ := List.mem_map.mp member
    refine List.mem_map_of_mem (List.mem_filter.mpr ⟨inside, ?_⟩)
    rw [decide_eq_true_eq]
    rcases involved with lower | greater
    · rw [lower]
      exact .inl present
    · rw [greater]
      exact .inr present
  have registered : ∀ {position : Position} {robot : RemoteRobot},
      findRobot c position = some robot → isRegistered c position := by
    intro position robot found
    rw [isRegistered, found]
    rfl
  have destination : ∀ {position target : Position}, isRegistered c position →
      Destination c position target →
        Destination (eraseStalePendingSwapEntries c) position target := by
    rintro position target present (⟨member, open_⟩ | told)
    · exact .inl ⟨kept present member (involves_swapKey.mpr (.inl rfl)), open_⟩
    · exact .inr told
  constructor
  · exact registry.table.mono (List.Sublist.map _ List.filter_sublist) (.inl rfl)
  · exact registry.counted
  · exact registry.few
  · intro position robot found
    rcases registry.placed position robot found with here | moving | tells
    · exact .inl here
    · exact .inr (.inl (destination (registered found) moving))
    · exact .inr (.inr tells)
  · intro position robot found
    refine (registry.flagged position robot found).trans (or_congr ?_ Iff.rfl)
    refine or_congr ?_ Iff.rfl
    constructor
    · rintro ⟨key, member, involved, open_⟩
      exact ⟨key, kept (registered found) member involved, involved, open_⟩
    · rintro ⟨key, member, involved, open_⟩
      exact ⟨key, keysSubset key member, involved, open_⟩
  · intro position changed
    obtain ⟨apart, untold⟩ := registry.exclusive position changed
    exact ⟨fun key member => apart key (keysSubset key member), untold⟩
  · intro position target told
    obtain ⟨heading, unmoved⟩ := registry.targeted position target told
    refine ⟨?_, unmoved⟩
    by_cases present : isRegistered c position
    · exact destination present heading
    · rw [(registry.unregistered position present).1] at told
      cases told
  · exact registry.unregistered
  · exact fun entry member => registry.acknowledged entry (subset entry member)
  · have worker : (eraseStalePendingSwapEntries c).worker = .betweenHandlers := idle
    rw [worker]
    trivial

theorem Registry.cleanedUp (registry : Registry c reports) (idle : c.worker = .betweenHandlers) :
    Registry (cleanUp c) (reports.forgetStopped c) :=
  (registry.removeStopped idle).eraseStale idle

end CleanUp

end CpsKitchen.ControllerAgent
