import CpsKitchen.ControllerAgent.RegistryCleanUp

/-!
# Swaps that are completed

The handler of a report acknowledges a swap. The second acknowledgement takes
both robots out of the map and lets them return under their new keys.
-/

namespace CpsKitchen.ControllerAgent

open CpsKitchen.Reactive CpsKitchen.Recipes

set_option autoImplicit false

section Completion

variable {config : Config} {c after : Controller} {event : Event} {outputs : List Output}
  {reports : Reports} {key : SwapKey}

theorem Registry.acknowledge (registry : Registry c reports) (idle : c.worker = .betweenHandlers)
    {oldPosition newPosition : Position}
    (arrived : ∀ robot, findRobot c oldPosition = some robot → robot.running = true →
      robot.position = newPosition) :
    Registry (acknowledgeSwap c (swapKey oldPosition newPosition) oldPosition) reports := by
  have keys := acknowledgeSwap_keys c (swapKey oldPosition newPosition) oldPosition
  constructor
  · exact registry.table.mono (by rw [keys]) (.inl rfl)
  · exact registry.counted
  · exact registry.few
  · intro position robot found
    have placed := registry.placed position robot found
    unfold Destination at placed ⊢
    rw [keys]
    exact placed
  · intro position robot found
    have flagged := registry.flagged position robot found
    unfold Marked at flagged ⊢
    rw [keys]
    exact flagged
  · rw [keys]
    exact registry.exclusive
  · intro position target told
    obtain ⟨destination, unmoved⟩ := registry.targeted position target told
    refine ⟨?_, unmoved⟩
    unfold Destination at destination ⊢
    rw [keys]
    exact destination
  · exact registry.unregistered
  · intro entry member open_ position target isKey acknowledged robot found running
    rcases mem_acknowledgeSwap member with ⟨before, _⟩ | ⟨before, earlier, same, rfl⟩
    · exact registry.acknowledged entry before open_ position target isKey acknowledged robot
        found running
    · by_cases isOld : position = oldPosition
      · rw [isOld] at found isKey
        rw [arrived robot found running]
        exact swapKey_other isKey.symm
      · have isNew : position = newPosition := by
          have involved : involves position (swapKey oldPosition newPosition) := by
            rw [← (show swapKey position target = swapKey oldPosition newPosition from isKey),
              involves_swapKey]
            exact .inl rfl
          exact (involves_swapKey.mp involved).resolve_left isOld
        refine registry.acknowledged before earlier (by rw [same]; exact open_) position target
          (by rw [same]; exact isKey) ?_ robot found running
        have different : newPosition ≠ oldPosition := fun equal => isOld (isNew.trans equal)
        have untouched : (before.2.acknowledge (swapKey oldPosition newPosition)
            oldPosition).acknowledgedFrom (swapKey oldPosition newPosition) newPosition =
              before.2.acknowledgedFrom (swapKey oldPosition newPosition) newPosition := by
          unfold SwapState.acknowledge SwapState.acknowledgedFrom swapKey
          rcases Nat.lt_or_gt_of_ne different with below | above
          · simp [Nat.lt_asymm below, different]
          · simp [above, different.symm]
        rw [same, isNew, ← untouched]
        rw [isNew] at acknowledged
        exact acknowledged
  · have worker : (acknowledgeSwap c (swapKey oldPosition newPosition) oldPosition).worker =
        .betweenHandlers := idle
    rw [worker]
    trivial

/-- Both robots of a swap stand where they were told to go: nothing is due. -/
theorem Registry.clear (registry : Registry c reports) (member : key ∈ swapKeys c)
    (arrived : Completing c.worker key ∨ ∀ position target, swapKey position target = key →
      ∀ robot, findRobot c position = some robot → robot.position = target)
    {position : Position} (involved : involves position key) :
    reports.target position = none ∧ reports.change position = none := by
  have change : reports.change position = none := by
    by_contra changed
    exact (registry.exclusive position changed).1 key member involved
  refine ⟨?_, change⟩
  cases told : reports.target position with
  | none => rfl
  | some target =>
      obtain ⟨destination, unmoved⟩ := registry.targeted position target told
      have away := registry.elsewhere destination
      rcases destination with ⟨other, open_⟩ | first
      · have same := registry.table.eq_of_involves other member
          (involves_swapKey.mpr (.inl rfl)) involved
        rcases arrived with completing | arrived
        · rw [same] at open_
          exact absurd completing open_
        · cases found : findRobot c position with
          | none =>
              have absent : ¬ isRegistered c position := by rw [isRegistered, found]; simp
              rw [(registry.unregistered position absent).1] at told
              cases told
          | some robot =>
              exact absurd ((arrived position target same robot found).symm.trans
                (unmoved robot found)) away
      · exact absurd involved (registry.table.opening position (opens_of_told first) key member)

/-- The robots of a completed swap are under the positions where they stand. -/
theorem Registry.complete (registry : Registry c reports) (member : key ∈ swapKeys c)
    (clear : ∀ position, involves position key →
      reports.target position = none ∧ reports.change position = none)
    (others : ∀ other, Completing c.worker other → other = key)
    (idle : ∀ position target, ¬ c.worker.told position target ∧
      ¬ c.worker.tells position target ∧ ¬ c.worker.reconfigures position)
    (table : SwapTable after) (swaps : after.pendingSwaps = c.pendingSwaps)
    (completing : Completing after.worker key)
    (outside : ∀ position, ¬ involves position key →
      findRobot after position = findRobot c position)
    (inside : ∀ position robot, involves position key → findRobot after position = some robot →
      robot.position = position ∧ robot.adaptivityIsPending = false)
    (counted : after.registeredRobots =
      after.positionRemoteRobotMap.keys.card + after.worker.held)
    (same : after.registeredRobots = c.registeredRobots)
    (working : Working after after.worker) : Registry after reports := by
  have keys : swapKeys after = swapKeys c := by rw [swapKeys, swaps, swapKeys]
  have nothing : ∀ position target, ¬ after.worker.told position target ∧
      ¬ after.worker.reconfigures position := by
    intro position target
    cases worker : after.worker with
    | committingFirst | committingSecond => exact ⟨id, id⟩
    | _ =>
        rw [worker] at completing
        exact absurd completing id
  have apart : ∀ {other : SwapKey} {position : Position}, other ∈ swapKeys c →
      involves position other → ¬ involves position key → other ≠ key := by
    rintro other position _ involved notKey rfl
    exact notKey involved
  have destination : ∀ {position target : Position}, ¬ involves position key →
      Destination c position target → Destination after position target := by
    rintro position target notKey (⟨inKeys, _⟩ | told)
    · refine .inl ⟨by rw [keys]; exact inKeys, ?_⟩
      intro also
      exact apart inKeys (involves_swapKey.mpr (.inl rfl)) notKey
        (completing_unique also completing)
    · exact absurd told (idle position target).1
  constructor
  · exact table
  · exact counted
  · have before := registry.few
    rw [← registry.counted] at before
    rw [← counted, same]
    exact before
  · intro position robot found
    by_cases involved : involves position key
    · exact .inl (inside position robot involved found).1
    · rw [outside position involved] at found
      rcases registry.placed position robot found with here | moving | tells
      · exact .inl here
      · exact .inr (.inl (destination involved moving))
      · exact absurd tells (idle position robot.position).2.1
  · intro position robot found
    by_cases involved : involves position key
    · rw [(inside position robot involved found).2, (clear position involved).2]
      refine iff_of_false Bool.false_ne_true ?_
      rintro ((⟨other, inKeys, also, open_⟩ | ⟨target, told⟩) | ⟨changed, _⟩)
      · rw [keys] at inKeys
        rw [registry.table.eq_of_involves inKeys member also involved] at open_
        exact open_ completing
      · exact (nothing position target).1 told
      · exact changed rfl
    · rw [outside position involved] at found
      rw [registry.flagged position robot found]
      refine or_congr ?_ (and_congr Iff.rfl ?_)
      · unfold Marked
        rw [keys]
        refine or_congr ?_ ?_
        · constructor
          · rintro ⟨other, inKeys, also, _⟩
            refine ⟨other, inKeys, also, ?_⟩
            intro isKey
            exact apart inKeys also involved (completing_unique isKey completing)
          · rintro ⟨other, inKeys, also, _⟩
            refine ⟨other, inKeys, also, ?_⟩
            intro isKey
            exact apart inKeys also involved (others other isKey)
        · constructor
          · rintro ⟨target, told⟩
            exact absurd told (idle position target).1
          · rintro ⟨target, told⟩
            exact absurd told (nothing position target).1
      · exact iff_of_true (idle position position).2.2 (nothing position position).2
  · intro position changed
    rw [keys]
    exact ⟨(registry.exclusive position changed).1, fun target => (nothing position target).1⟩
  · intro position target told
    obtain ⟨heading, unmoved⟩ := registry.targeted position target told
    have notKey : ¬ involves position key := by
      intro involved
      rw [(clear position involved).1] at told
      cases told
    refine ⟨destination notKey heading, ?_⟩
    intro robot found
    rw [outside position notKey] at found
    exact unmoved robot found
  · intro position absent
    by_cases involved : involves position key
    · exact clear position involved
    · rw [isRegistered, outside position involved] at absent
      exact registry.unregistered position absent
  · intro entry inSwaps open_ position target isKey acknowledged robot found running
    rw [swaps] at inSwaps
    have different : entry.1 ≠ key := by
      intro equal
      rw [equal] at open_
      exact open_ completing
    have inEntry : involves position entry.1 := by
      rw [← isKey, involves_swapKey]
      exact .inl rfl
    have notKey : ¬ involves position key := fun involved =>
      different (registry.table.eq_of_involves (List.mem_map_of_mem inSwaps) member inEntry
        involved)
    rw [outside position notKey] at found
    exact registry.acknowledged entry inSwaps (fun also => different (others entry.1 also)) position
      target isKey acknowledged robot found running
  · exact working

theorem Registry.finish (registry : Registry c reports) (completing : Completing c.worker key)
    (held : c.worker.held = 0) :
    Registry (setWorker (eraseSwap c key) .betweenHandlers) reports := by
  have keys : ∀ other, other ∈ swapKeys (setWorker (eraseSwap c key) .betweenHandlers) ↔
      other ∈ swapKeys c ∧ other ≠ key := by
    intro other
    constructor
    · intro member
      obtain ⟨entry, inside, rfl⟩ := List.mem_map.mp member
      obtain ⟨before, kept⟩ := List.mem_filter.mp inside
      exact ⟨List.mem_map_of_mem before, of_decide_eq_true kept⟩
    · rintro ⟨member, different⟩
      obtain ⟨entry, inside, rfl⟩ := List.mem_map.mp member
      exact List.mem_map_of_mem (List.mem_filter.mpr ⟨inside, decide_eq_true different⟩)
  have open_iff : ∀ other, other ≠ key ↔ ¬ Completing c.worker other := by
    intro other
    constructor
    · exact fun different also => different (completing_unique also completing)
    · rintro notCompleting rfl
      exact notCompleting completing
  have idle : ∀ position target, ¬ c.worker.told position target ∧
      ¬ c.worker.tells position target ∧ ¬ c.worker.reconfigures position := by
    intro position target
    cases worker : c.worker with
    | committingFirst | committingSecond => exact ⟨id, id, id⟩
    | _ =>
        rw [worker] at completing
        exact absurd completing id
  have destination : ∀ {position target : Position}, Destination c position target →
      Destination (setWorker (eraseSwap c key) .betweenHandlers) position target := by
    rintro position target (⟨member, open_⟩ | told)
    · exact .inl ⟨(keys _).mpr ⟨member, (open_iff _).mpr open_⟩, id⟩
    · exact absurd told (idle position target).1
  constructor
  · exact registry.table.mono (eraseSwap_keys c key) (.inr rfl)
  · have counted := registry.counted
    rw [held] at counted
    exact counted
  · have few := registry.few
    rw [held] at few
    exact few
  · intro position robot found
    rcases registry.placed position robot found with here | moving | tells
    · exact .inl here
    · exact .inr (.inl (destination moving))
    · exact absurd tells (idle position robot.position).2.1
  · intro position robot found
    rw [registry.flagged position robot found]
    refine or_congr (or_congr ?_ ?_) (and_congr Iff.rfl ?_)
    · constructor
      · rintro ⟨other, member, involved, open_⟩
        exact ⟨other, (keys other).mpr ⟨member, (open_iff other).mpr open_⟩, involved, id⟩
      · rintro ⟨other, member, involved, _⟩
        obtain ⟨before, different⟩ := (keys other).mp member
        exact ⟨other, before, involved, (open_iff other).mp different⟩
    · constructor
      · rintro ⟨target, told⟩
        exact absurd told (idle position target).1
      · rintro ⟨target, told⟩
        exact absurd told id
    · exact iff_of_true (idle position position).2.2 id
  · intro position changed
    refine ⟨?_, fun _ => id⟩
    intro other member
    exact (registry.exclusive position changed).1 other ((keys other).mp member).1
  · intro position target told
    obtain ⟨heading, unmoved⟩ := registry.targeted position target told
    exact ⟨destination heading, unmoved⟩
  · exact registry.unregistered
  · intro entry member _
    obtain ⟨before, kept⟩ := List.mem_filter.mp member
    exact registry.acknowledged entry before ((open_iff entry.1).mp (of_decide_eq_true kept))
  · trivial

theorem swapKey_of_ordered (ordered : key.1 < key.2) :
    swapKey key.1 key.2 = key ∧ swapKey key.2 key.1 = key := by
  unfold swapKey
  rw [if_pos ordered, if_neg (Nat.lt_asymm ordered)]
  exact ⟨rfl, rfl⟩

/-- Both robots leave the map, and the first one returns. -/
theorem Registry.completeSwap (registry : Registry c reports) (idle : c.worker = .betweenHandlers)
    (member : key ∈ swapKeys c)
    (arrived : ∀ position target, swapKey position target = key →
      ∀ robot, findRobot c position = some robot → robot.position = target)
    (left : isRegistered c key.1 ∨ isRegistered c key.2) :
    Registry (completeSwap c key) reports := by
  have ordered := registry.table.ordered key member
  have different : key.1 ≠ key.2 := Nat.ne_of_lt ordered
  obtain ⟨lowerKey, greaterKey⟩ := swapKey_of_ordered ordered
  have table : SwapTable (ControllerAgent.completeSwap c key) :=
    registry.table.mono (completeSwap_keys c key).1 (.inr (completeSwap_keys c key).2)
  have clear : ∀ position, involves position key →
      reports.target position = none ∧ reports.change position = none :=
    fun position involved => registry.clear member (.inr arrived) involved
  have nobody : ∀ other, Completing c.worker other → other = key := by
    rw [idle]
    exact fun other completing => absurd completing id
  have quiet : ∀ position target, ¬ c.worker.told position target ∧
      ¬ c.worker.tells position target ∧ ¬ c.worker.reconfigures position := by
    rw [idle]
    exact fun _ _ => ⟨id, id, id⟩
  have counted := registry.counted
  rw [idle] at counted
  have lowerMember : ∀ {robot}, findRobot c key.1 = some robot →
      key.1 ∈ c.positionRemoteRobotMap.keys := by
    intro robot found
    rw [← isRegistered_iff_mem_keys, isRegistered, found]
    rfl
  have greaterMember : ∀ {robot}, findRobot c key.2 = some robot →
      key.2 ∈ c.positionRemoteRobotMap.keys := by
    intro robot found
    rw [← isRegistered_iff_mem_keys, isRegistered, found]
    rfl
  have erased : ∀ position, findRobot c position = none →
      position ∉ c.positionRemoteRobotMap.keys := by
    intro position none_
    rw [← isRegistered_iff_mem_keys, isRegistered, none_]
    simp
  -- the robot that returns first, under the key it moved to
  have returns : ∀ (robot : RemoteRobot) (worker : Worker) (place : Position),
      involves place key → robot.position = place → Completing worker key →
      c.registeredRobots = (insert place ((c.positionRemoteRobotMap.keys.erase key.1).erase
        key.2)).card + worker.held →
      SwapTable (setWorker (insertRobot (eraseRobot (eraseRobot c key.1) key.2) place
        (resetAdaptivityFlag robot)) worker) →
      Working (setWorker (insertRobot (eraseRobot (eraseRobot c key.1) key.2) place
        (resetAdaptivityFlag robot)) worker) worker →
      Registry (setWorker (insertRobot (eraseRobot (eraseRobot c key.1) key.2) place
        (resetAdaptivityFlag robot)) worker) reports := by
    intro robot worker place inKey stands completing card table working
    have found : ∀ position, findRobot (setWorker (insertRobot
        (eraseRobot (eraseRobot c key.1) key.2) place (resetAdaptivityFlag robot)) worker)
          position =
          if position = place then some (resetAdaptivityFlag robot)
          else if involves position key then none else findRobot c position := by
      intro position
      rw [← erased_findRobot, ← findRobot_insertRobot]
      rfl
    refine registry.complete member clear nobody quiet table rfl completing ?_ ?_ ?_ rfl working
    · intro position outside
      have notPlace : position ≠ place := by
        rintro rfl
        exact outside inKey
      rw [found, if_neg notPlace, if_neg outside]
    · intro position other involved there
      rw [found] at there
      split at there
      next same =>
        rw [Option.some.injEq] at there
        rw [← there, same]
        exact ⟨stands, rfl⟩
      next notPlace => cases there
    · have keys : (setWorker (insertRobot (eraseRobot (eraseRobot c key.1) key.2) place
          (resetAdaptivityFlag robot)) worker).positionRemoteRobotMap.keys =
            insert place ((c.positionRemoteRobotMap.keys.erase key.1).erase key.2) := by
        rw [← FiniteMap.keys_erase, ← FiniteMap.keys_erase]
        exact FiniteMap.keys_insert _ _ _
      rw [keys]
      exact card
  have gone : key.2 ∉ (c.positionRemoteRobotMap.keys.erase key.1).erase key.2 :=
    Finset.notMem_erase _ _
  have alsoGone : key.1 ∉ (c.positionRemoteRobotMap.keys.erase key.1).erase key.2 := by
    rw [Finset.erase_right_comm]
    exact Finset.notMem_erase _ _
  unfold ControllerAgent.completeSwap at table ⊢
  cases first : findRobot c key.1 with
  | some lower =>
      have stands := arrived key.1 key.2 lowerKey lower first
      have inLower := lowerMember first
      simp only [first, stands] at table ⊢
      cases second : findRobot c key.2 with
      | some greater =>
          have standsGreater := arrived key.2 key.1 greaterKey greater second
          have inGreater := greaterMember second
          rw [second] at table
          refine returns lower _ key.2 (.inr rfl) stands rfl ?_ table ?_
          · rw [Finset.card_insert_of_notMem gone, Finset.card_erase_of_mem
              (Finset.mem_erase.mpr ⟨different.symm, inGreater⟩), Finset.card_erase_of_mem inLower,
              counted]
            have two : 1 < c.positionRemoteRobotMap.keys.card :=
              Finset.one_lt_card.mpr ⟨key.1, inLower, key.2, inGreater, different⟩
            simp only [Worker.held]
            omega
          · refine ⟨member, ?_, ?_⟩
            · rw [standsGreater]
              exact .inl rfl
            · rw [standsGreater, isRegistered_iff_mem_keys]
              have keys : (setWorker (insertRobot (eraseRobot (eraseRobot c key.1) key.2) key.2
                  (resetAdaptivityFlag lower)) (.committingFirst key (some greater)
                    key.2)).positionRemoteRobotMap.keys =
                    insert key.2 ((c.positionRemoteRobotMap.keys.erase key.1).erase key.2) := by
                rw [← FiniteMap.keys_erase, ← FiniteMap.keys_erase]
                exact FiniteMap.keys_insert _ _ _
              rw [keys, Finset.mem_insert, not_or]
              exact ⟨different, alsoGone⟩
      | none =>
          rw [second] at table
          refine returns lower _ key.2 (.inr rfl) stands rfl ?_ table trivial
          have one : 0 < c.positionRemoteRobotMap.keys.card := Finset.card_pos.mpr ⟨key.1, inLower⟩
          have absent : key.2 ∉ c.positionRemoteRobotMap.keys.erase key.1 := fun inside =>
            erased key.2 second (Finset.mem_of_mem_erase inside)
          rw [Finset.card_insert_of_notMem gone, Finset.erase_eq_of_notMem absent,
            Finset.card_erase_of_mem inLower, counted]
          simp only [Worker.held]
          omega
  | none =>
      simp only [first] at table ⊢
      cases second : findRobot c key.2 with
      | some greater =>
          have standsGreater := arrived key.2 key.1 greaterKey greater second
          have inGreater := greaterMember second
          rw [second] at table
          unfold commitSecond at table ⊢
          simp only [standsGreater] at table ⊢
          refine returns greater _ key.1 (.inl rfl) standsGreater rfl ?_ table trivial
          have one : 0 < c.positionRemoteRobotMap.keys.card :=
            Finset.card_pos.mpr ⟨key.2, inGreater⟩
          rw [Finset.card_insert_of_notMem alsoGone, Finset.erase_eq_of_notMem (erased key.1 first),
            Finset.card_erase_of_mem inGreater, counted]
          simp only [Worker.held]
          omega
      | none =>
          rw [isRegistered, isRegistered, first, second] at left
          simp at left

theorem Registry.commitSecond (registry : Registry c reports) {second : Option RemoteRobot}
    {place : Position} (committing : c.worker = .committingFirst key second place) :
    Registry (commitSecond c key second) reports := by
  have completing : Completing c.worker key := by rw [committing]; rfl
  cases second with
  | none => exact registry.finish completing (by rw [committing]; rfl)
  | some second =>
      have working := registry.working
      rw [committing] at working
      obtain ⟨member, involved, absent⟩ := working
      have found : ∀ position,
          findRobot (ControllerAgent.commitSecond c key (some second)) position =
          if position = second.position then some (resetAdaptivityFlag second)
          else findRobot c position := by
        intro position
        rw [← findRobot_insertRobot]
        rfl
      refine registry.complete member
        (fun position inside => registry.clear member (.inl completing) inside)
        (fun other also => completing_unique also completing) ?_ ?_ rfl rfl ?_ ?_ ?_ rfl trivial
      · rw [committing]
        exact fun _ _ => ⟨id, id, id⟩
      · obtain ⟨keys, worker⟩ := commitSecond_keys c key (some second)
        exact registry.table.mono keys (.inr worker)
      · intro position outside
        rw [found, if_neg]
        rintro rfl
        exact outside involved
      · intro position robot inside there
        rw [found] at there
        split at there
        next same =>
          rw [Option.some.injEq] at there
          rw [← there, same]
          exact ⟨rfl, rfl⟩
        · rcases registry.placed position robot there with here | moving | tells
          · refine ⟨here, ?_⟩
            rw [Bool.eq_false_iff]
            intro flag
            rcases (registry.flagged position robot there).mp flag with marked | ⟨changed, _⟩
            · rcases marked with ⟨other, inKeys, also, open_⟩ | ⟨target, told⟩
              · rw [registry.table.eq_of_involves inKeys member also inside] at open_
                exact open_ completing
              · rw [committing] at told
                exact told
            · exact changed (registry.clear member (.inl completing) inside).2
          · rcases moving with ⟨inKeys, open_⟩ | told
            · rw [registry.table.eq_of_involves inKeys member (involves_swapKey.mpr (.inl rfl))
                inside] at open_
              exact absurd completing open_
            · rw [committing] at told
              exact absurd told id
          · rw [committing] at tells
            exact absurd tells id
      · have keys : (ControllerAgent.commitSecond c key (some second)).positionRemoteRobotMap.keys =
            insert second.position c.positionRemoteRobotMap.keys := FiniteMap.keys_insert _ _ _
        have counted := registry.counted
        rw [committing] at counted
        rw [isRegistered_iff_mem_keys] at absent
        rw [keys, Finset.card_insert_of_notMem absent]
        exact counted

end Completion

end CpsKitchen.ControllerAgent
