import CpsKitchen.ControllerAgent.RegistryHandlers

/-!
# Every step keeps the registry

The robots' reports, the calls of a handler and the replies to them.
-/

namespace CpsKitchen.ControllerAgent

open CpsKitchen.Reactive CpsKitchen.Recipes

set_option autoImplicit false

section Steps

variable {config : Config} {c after : Controller} {event : Event} {outputs : List Output}
  {reports : Reports}

theorem Registry.positionReported (registry : Registry c reports) {place : Place}
    {newPosition : Position} (lawful : Lawful c reports (.positionChanged place newPosition)) :
    Registry
      (updateAt c (fun robot =>
        { robot with position := newPosition, initialPositionSubscription := false }) place)
      (keepReports c (.positionChanged place newPosition) reports) := by
  obtain ⟨robot, found, _, moves⟩ := lawful
  cases place with
  | held =>
      refine registry.touch .held ?_
      intro other there
      rw [Option.mem_def.mp found, Option.some.injEq] at there
      rw [← there]
      exact ⟨moves.2, rfl, id⟩
  | registered position =>
      have here : findRobot c position = some robot := found
      by_cases due : reports.target position = some newPosition
      · rw [keepReports, if_pos due]
        refine registry.moved here (.inl (registry.targeted position newPosition due).1)
          (fun robot =>
            { robot with position := newPosition, initialPositionSubscription := false })
          (fun _ => ⟨rfl, rfl, rfl⟩) rfl ?_
        intro other target told
        by_cases same : other = position
        · simp [same] at told
        · simp only [Function.update_of_ne same] at told
          exact ⟨same, told⟩
      · rw [keepReports, if_neg due]
        rcases moves with ⟨_, unmoved⟩ | told | ⟨tells, _⟩
        · refine registry.touch (.registered position) ?_
          intro other there
          rw [show robotAt c (.registered position) = findRobot c position from rfl, here,
            Option.some.injEq] at there
          rw [← there]
          exact ⟨unmoved, rfl, id⟩
        · exact absurd told due
        · refine registry.moved here (.inr tells)
            (fun robot =>
              { robot with position := newPosition, initialPositionSubscription := false })
            (fun _ => ⟨rfl, rfl, rfl⟩) rfl ?_
          intro other target told
          refine ⟨?_, told⟩
          rintro rfl
          rw [registry.untold tells] at told
          cases told

theorem Registry.changeReported (registry : Registry c reports) {place : Place}
    {capabilities : Finset String}
    (lawful : Lawful c reports (.capabilitiesChanged place capabilities)) :
    Registry
      (updateAt c (fun robot =>
        { robot with
          capabilities := capabilities
          initialCapabilitiesSubscription := false }) place)
      (keepReports c (.capabilitiesChanged place capabilities) reports) := by
  obtain ⟨robot, found, _, changes⟩ := lawful
  have touch : ∀ {reports : Reports}, Registry c reports → Registry
      (updateAt c (fun robot =>
        { robot with
          capabilities := capabilities
          initialCapabilitiesSubscription := false }) place) reports :=
    fun registry => registry.touch place fun _ _ => ⟨rfl, rfl, id⟩
  cases place with
  | held => exact touch registry
  | registered position =>
      have here : findRobot c position = some robot := found
      rw [keepReports, here]
      split
      · exact touch registry
      next subscribed =>
        have due := changes.resolve_left subscribed
        refine touch (registry.changed ?_ due)
        rw [isRegistered, here]
        rfl

theorem findRobot_flagged {position : Position} {change : RemoteRobot → RemoteRobot}
    (flags : ∀ robot, (change robot).position = robot.position ∧
      (change robot).adaptivityIsPending = true ∧
      ((change robot).running = true → robot.running = true))
    (other : Position) (robot : RemoteRobot)
    (found : findRobot (updateRobot c position change) other = some robot) :
    ∃ before, findRobot c other = some before ∧ before.position = robot.position ∧
      robot.adaptivityIsPending = (decide (other = position) || before.adaptivityIsPending) ∧
      (robot.running = true → before.running = true) := by
  rw [findRobot_updateRobot] at found
  split at found
  next same =>
    obtain ⟨before, there, rfl⟩ := Option.map_eq_some_iff.mp found
    obtain ⟨samePosition, flag, running⟩ := flags before
    rw [same]
    exact ⟨before, there, samePosition.symm, by simp [flag], running⟩
  next different => exact ⟨robot, found, rfl, by simp [different], id⟩

theorem Registry.firstSwitches (registry : Registry c reports) {request : Request}
    {fromPosition toPosition : Position}
    (switching : c.worker = .switchingFirst request fromPosition toPosition)
    (table : SwapTable (setWorker (updateRobot c fromPosition setAdaptivityFlag)
      (.switchingSecond request fromPosition toPosition))) :
    Registry (setWorker (updateRobot c fromPosition setAdaptivityFlag)
      (.switchingSecond request fromPosition toPosition))
      (reports.tell c fromPosition toPosition) := by
  have working := registry.working
  have different := registry.table.different
  rw [switching] at working different
  have apart : toPosition ≠ fromPosition := by
    rintro rfl
    simp [opens] at different
  have telling : ∀ position goal, c.worker.tells position goal ↔
      position = fromPosition ∧ goal = toPosition := by
    rw [switching]
    exact fun _ _ => Iff.rfl
  refine registry.switch telling working.1 table (FiniteMap.keys_modify _ _ _)
    (findRobot_flagged fun _ => ⟨rfl, rfl, id⟩) rfl ?_ ?_ ?_ ?_ ?_ ?_ ?_ ?_ Reports.tell_change
    Reports.tell_target
  · rw [switching]
    rfl
  · rw [switching]
    exact fun _ => ⟨id, id⟩
  · rintro position goal (⟨member, _⟩ | told)
    · exact .inl ⟨member, id⟩
    · rw [switching] at told
      exact absurd told id
  · exact .inr ⟨rfl, rfl⟩
  · intro position _
    unfold Marked
    rw [switching]
    constructor
    · rintro (⟨key, member, involved, _⟩ | ⟨goal, told⟩)
      · exact .inl (.inl ⟨key, member, involved, id⟩)
      · exact .inr told.1
    · rintro ((⟨key, member, involved, _⟩ | ⟨goal, told⟩) | same)
      · exact .inl ⟨key, member, involved, id⟩
      · exact absurd told id
      · exact .inr ⟨toPosition, same, rfl⟩
  · rintro position _ (inKeys | ⟨goal, told⟩)
    · exact .inl inKeys
    · exact .inr (.inr told.1)
  · intro entry member
    refine .inl ⟨member, ?_⟩
    rw [switching]
    exact id
  · intro robot found
    have there : findRobot (updateRobot c fromPosition setAdaptivityFlag) toPosition =
        some robot := found
    rw [findRobot_updateRobot, if_neg apart] at there
    exact working.2 robot there

/-- The entry of a swap is made once its last robot was told. -/
theorem Registry.adds (registry : Registry c reports) {request : Request}
    {fromPosition toPosition newly target : Position} {acknowledged : Bool}
    {change : RemoteRobot → RemoteRobot}
    (opening : opens c.worker = [fromPosition, toPosition])
    (telling : ∀ position goal, c.worker.tells position goal ↔ position = newly ∧ goal = target)
    (first : ∀ position goal, c.worker.told position goal ↔
      newly = toPosition ∧ position = fromPosition ∧ goal = toPosition)
    (pair : newly = fromPosition ∧ target = toPosition ∧ ¬ isRegistered c toPosition ∨
      newly = toPosition ∧ target = fromPosition)
    (idle : ∀ position, ¬ c.worker.reconfigures position) (open_ : ∀ key, ¬ Completing c.worker key)
    (held : c.worker.held = 0) (unflagged : Unflagged c newly)
    (flags : ∀ robot, (change robot).position = robot.position ∧
      (change robot).adaptivityIsPending = true ∧
      ((change robot).running = true → robot.running = true))
    (stopped : acknowledged = true → ∀ robot, (change robot).running = true →
      newly ≠ toPosition)
    (table : SwapTable (setWorker (addSwap (updateRobot c newly change) fromPosition toPosition
      acknowledged) (.choosing request)))
    {later : Reports} (sameChange : later.change = reports.change)
    (told : ∀ position goal, later.target position = some goal →
      reports.target position = some goal ∨
        position = newly ∧ goal = target ∧ isRegistered c newly ∧
          ∀ robot, findRobot c newly = some robot → robot.position ≠ target) :
    Registry (setWorker (addSwap (updateRobot c newly change) fromPosition toPosition
      acknowledged) (.choosing request)) later := by
  have different := registry.table.different
  rw [opening] at different
  have apart : fromPosition ≠ toPosition := by
    rintro rfl
    simp at different
  have keys : ∀ key, key ∈ swapKeys (setWorker (addSwap (updateRobot c newly change) fromPosition
      toPosition acknowledged) (.choosing request)) ↔
        key ∈ swapKeys c ∨ key = swapKey fromPosition toPosition := by
    intro key
    rw [swapKeys, setWorker, addSwap, List.map_append, List.mem_append, List.map_singleton,
      List.mem_singleton]
    rfl
  have sameKey : swapKey newly target = swapKey fromPosition toPosition := by
    rcases pair with ⟨rfl, rfl, _⟩ | ⟨rfl, rfl⟩
    · rfl
    · unfold swapKey
      rcases Nat.lt_or_gt_of_ne apart with below | above
      · rw [if_pos below, if_neg (Nat.lt_asymm below)]
      · rw [if_neg (Nat.lt_asymm above), if_pos above]
  refine registry.switch telling unflagged table (FiniteMap.keys_modify _ _ _)
    (findRobot_flagged flags) rfl held.symm (fun position => ⟨idle position, id⟩) ?_ ?_ ?_ ?_ ?_
    trivial sameChange told
  · rintro position goal (⟨member, _⟩ | isTold)
    · exact .inl ⟨(keys _).mpr (.inl member), id⟩
    · obtain ⟨_, rfl, rfl⟩ := (first position goal).mp isTold
      exact .inl ⟨(keys _).mpr (.inr rfl), id⟩
  · exact .inl ⟨(keys _).mpr (.inr sameKey), id⟩
  · intro position present
    constructor
    · rintro (⟨key, member, involved, _⟩ | ⟨goal, isTold⟩)
      · rcases (keys key).mp member with before | rfl
        · exact .inl (.inl ⟨key, before, involved, open_ key⟩)
        · rcases pair with ⟨isFirst, _, alone⟩ | ⟨isSecond, _⟩
          · rcases involves_swapKey.mp involved with same | same
            · exact .inr (same.trans isFirst.symm)
            · rw [same] at present
              exact absurd present alone
          · rcases involves_swapKey.mp involved with same | same
            · exact .inl (.inr ⟨toPosition, (first _ _).mpr ⟨isSecond, same, rfl⟩⟩)
            · exact .inr (same.trans isSecond.symm)
      · exact absurd isTold id
    · rintro ((⟨key, member, involved, _⟩ | ⟨goal, isTold⟩) | rfl)
      · exact .inl ⟨key, (keys key).mpr (.inl member), involved, id⟩
      · obtain ⟨_, rfl, _⟩ := (first position goal).mp isTold
        exact .inl ⟨_, (keys _).mpr (.inr rfl), involves_swapKey.mpr (.inl rfl), id⟩
      · exact .inl ⟨_, (keys _).mpr (.inr sameKey), involves_swapKey.mpr (.inl rfl), id⟩
  · rintro position present (⟨key, member, involved⟩ | ⟨goal, isTold⟩)
    · rcases (keys key).mp member with before | rfl
      · exact .inl ⟨key, before, involved⟩
      · rcases pair with ⟨isFirst, _, alone⟩ | ⟨isSecond, _⟩
        · rcases involves_swapKey.mp involved with same | same
          · exact .inr (.inr (same.trans isFirst.symm))
          · rw [same] at present
            exact absurd present alone
        · rcases involves_swapKey.mp involved with same | same
          · exact .inr (.inl ⟨toPosition, (first _ _).mpr ⟨isSecond, same, rfl⟩⟩)
          · exact .inr (.inr (same.trans isSecond.symm))
    · exact absurd isTold id
  · intro entry member
    rcases List.mem_append.mp member with before | new
    · exact .inl ⟨before, open_ entry.1⟩
    · refine .inr ?_
      rw [List.mem_singleton.mp new]
      intro position goal isKey isAcknowledged robot found running
      have involved : involves position (swapKey fromPosition toPosition) := by
        rw [← (show swapKey position goal = swapKey fromPosition toPosition from isKey),
          involves_swapKey]
        exact .inl rfl
      rcases involves_swapKey.mp involved with rfl | rfl
      · rw [acknowledgedFrom_first apart] at isAcknowledged
        cases isAcknowledged
      · rw [acknowledgedFrom_second apart] at isAcknowledged
        have there : findRobot (updateRobot c newly change) position = some robot := found
        rw [findRobot_updateRobot] at there
        split at there
        next same =>
          obtain ⟨before, _, rfl⟩ := Option.map_eq_some_iff.mp there
          exact absurd same.symm (stopped isAcknowledged before running)
        next other =>
          rcases pair with ⟨_, _, alone⟩ | ⟨isSecond, _⟩
          · rw [isRegistered, there] at alone
            simp at alone
          · exact absurd isSecond.symm other

theorem isHarmless_afterCall (reply : Option Bool) (robot : RemoteRobot) :
    IsHarmless (afterCall reply) robot := by
  unfold afterCall
  by_cases failed : reply = none
  · rw [IsHarmless, if_pos failed]
    exact ⟨rfl, rfl, fun stopped => by cases stopped⟩
  · rw [IsHarmless, if_neg failed]
    exact ⟨rfl, rfl, id⟩

theorem Registry.calls (registry : Registry c reports) (plain : c.worker.isPlain = true)
    (table : SwapTable after) (same : SameRegistry c after)
    (completing : ∀ key, ¬ Completing after.worker key)
    (told : ∀ position target, ¬ after.worker.told position target)
    (reconfigures : ∀ position, after.worker.reconfigures position → Unflagged c position)
    (held : after.worker.held = 0) (working : Working after after.worker) :
    Registry after reports := by
  obtain ⟨completing', told', tells', reconfigures', held'⟩ := Worker.isPlain.nothing plain
  refine registry.keep same ?_ table working
  exact
    { completing := fun key => iff_of_false (completing key) (completing' key)
      told := fun position target => iff_of_false (told position target) (told' position target)
      tells := fun position robot _ telling => absurd telling (tells' position robot.position)
      reconfigures := fun position changed => iff_of_false
        (fun also => changed (registry.unchanged (reconfigures position also)
          (reconfigures' position)))
        (reconfigures' position)
      held := held.trans held'.symm }

theorem Registry.reconfigured (registry : Registry c reports) {request : Request}
    {position : Position} {profile : String}
    (instructing : c.worker = .reconfiguring request position profile)
    (table : SwapTable (setWorker (updateRobot c position setAdaptivityFlag) (.choosing request))) :
    Registry (setWorker (updateRobot c position setAdaptivityFlag) (.choosing request))
      (reports.instruct c position) := by
  have unflagged := registry.working
  rw [instructing] at unflagged
  have robots : ∀ other robot, findRobot (setWorker (updateRobot c position setAdaptivityFlag)
      (.choosing request)) other = some robot → ∃ before, findRobot c other = some before ∧
        before.position = robot.position ∧
        robot.adaptivityIsPending = (decide (other = position) || before.adaptivityIsPending) ∧
        (robot.running = true → before.running = true) :=
    findRobot_flagged fun _ => ⟨rfl, rfl, id⟩
  have registered : ∀ {other : Position} {robot : RemoteRobot},
      findRobot c other = some robot → isRegistered c other := by
    intro other robot found
    rw [isRegistered, found]
    rfl
  have same : ∀ other, isRegistered (setWorker (updateRobot c position setAdaptivityFlag)
      (.choosing request)) other ↔ isRegistered c other := fun other => isRegistered_updateRobot
  have reconfigures : ∀ other, c.worker.reconfigures other ↔ position = other := by
    rw [instructing]
    exact fun _ => Iff.rfl
  have changes : ∀ other, (reports.instruct c position).change other ≠ none ↔
      reports.change other ≠ none ∨ other = position ∧ isRegistered c position := by
    intro other
    unfold Reports.instruct
    by_cases due : isRegistered c position ∧ reports.change position = none
    · rw [if_pos due]
      by_cases here : other = position
      · simp [here, due.1]
      · simp [here]
    · rw [if_neg due]
      constructor
      · exact .inl
      · rintro (changed | ⟨rfl, present⟩)
        · exact changed
        · exact fun none_ => due ⟨present, none_⟩
  have marked : ∀ other, Marked (setWorker (updateRobot c position setAdaptivityFlag)
      (.choosing request)) other ↔ Marked c other := by
    intro other
    unfold Marked
    rw [instructing]
    exact Iff.rfl
  constructor
  · exact table
  · have keys : (setWorker (updateRobot c position setAdaptivityFlag)
        (.choosing request)).positionRemoteRobotMap.keys = c.positionRemoteRobotMap.keys :=
      FiniteMap.keys_modify _ _ _
    have counted := registry.counted
    rw [instructing] at counted
    rw [keys]
    exact counted
  · have keys : (setWorker (updateRobot c position setAdaptivityFlag)
        (.choosing request)).positionRemoteRobotMap.keys = c.positionRemoteRobotMap.keys :=
      FiniteMap.keys_modify _ _ _
    have few := registry.few
    rw [instructing] at few
    rw [keys]
    exact few
  · intro other robot found
    obtain ⟨before, there, samePosition, _⟩ := robots other robot found
    have placed := registry.placed other before there
    unfold Destination at placed
    rw [instructing] at placed
    rw [← samePosition]
    exact placed
  · intro other robot found
    obtain ⟨before, there, _, flag, _⟩ := robots other robot found
    rw [flag, Bool.or_eq_true, decide_eq_true_eq, registry.flagged other before there, marked,
      changes, reconfigures]
    constructor
    · rintro (rfl | marks | ⟨changed, _⟩)
      · exact .inr ⟨.inr ⟨rfl, registered there⟩, id⟩
      · exact .inl marks
      · exact .inr ⟨.inl changed, id⟩
    · rintro (marks | ⟨changed | ⟨rfl, _⟩, _⟩)
      · exact .inr (.inl marks)
      · by_cases here : position = other
        · exact .inl here.symm
        · exact .inr (.inr ⟨changed, here⟩)
      · exact .inl rfl
  · intro other changed
    rcases (changes other).mp changed with before | ⟨rfl, present⟩
    · exact ⟨(registry.exclusive other before).1, fun _ => id⟩
    · refine ⟨?_, fun _ => id⟩
      intro key member involved
      refine registry.unmarked unflagged present (.inl ⟨key, member, involved, ?_⟩)
      rw [instructing]
      exact id
  · intro other target told
    have sameTarget : (reports.instruct c position).target = reports.target := by
      unfold Reports.instruct
      split <;> rfl
    rw [sameTarget] at told
    obtain ⟨heading, unmoved⟩ := registry.targeted other target told
    unfold Destination at heading
    rw [instructing] at heading
    refine ⟨heading, ?_⟩
    intro robot found
    obtain ⟨before, there, samePosition, _⟩ := robots other robot found
    rw [← samePosition]
    exact unmoved before there
  · intro other absent
    rw [same] at absent
    obtain ⟨untold, unchanged⟩ := registry.unregistered other absent
    constructor
    · unfold Reports.instruct
      split <;> exact untold
    · by_contra changed
      rcases (changes other).mp changed with before | ⟨rfl, present⟩
      · exact before unchanged
      · exact absent present
  · intro entry member _ other target isKey acknowledged robot found running
    obtain ⟨before, there, samePosition, _, ran⟩ := robots other robot found
    rw [← samePosition]
    refine registry.acknowledged entry member ?_ other target isKey acknowledged before there
      (ran running)
    rw [instructing]
    exact id
  · trivial

theorem unflagged_of_mayAdapt {position : Position} (adapts : mayAdapt c position) :
    Unflagged c position := by
  intro robot found
  rw [mayAdapt, found] at adapts
  simpa using adapts

theorem Registry.goesOn (registry : Registry c reports) {worker : Worker}
    (plain : c.worker.isPlain = true) (table : SwapTable after) (same : SameRegistry c after)
    (isWorker : after.worker = worker) (stays : worker.isPlain = true)
    (working : Working after worker) : Registry after reports := by
  refine registry.keep same (.of_plain plain (by rw [isWorker]; exact stays)) table ?_
  rw [isWorker]
  exact working

theorem afterCall_sameRegistry (c : Controller) (worker : Worker) (position : Position)
    (reply : Option Bool) :
    SameRegistry c (setWorker (updateRobot c position (afterCall reply)) worker) :=
  (SameRegistry.update c position fun robot _ => isHarmless_afterCall reply robot).trans
    (.of_eq rfl rfl rfl)

theorem Registry.checksSecond (registry : Registry c reports) {request : Request}
    {fromPosition toPosition : Position}
    (checking : c.worker = .checkingFirst request fromPosition toPosition)
    (table : SwapTable (checkSecond c request fromPosition toPosition)) :
    Registry (checkSecond c request fromPosition toPosition) reports := by
  have working := registry.working
  rw [checking] at working
  have plain : c.worker.isPlain = true := by rw [checking]; rfl
  unfold checkSecond at table ⊢
  split at table
  next alone =>
    rw [if_pos alone]
    refine registry.calls plain table (.of_eq rfl rfl rfl) (fun _ => id) (fun _ _ => id)
      (fun _ impossible => absurd impossible id) rfl ⟨working, ?_⟩
    intro robot found
    refine absurd ?_ alone
    rw [isRegistered, (show findRobot c toPosition = some robot from found)]
    rfl
  next present =>
    rw [if_neg present]
    split at table
    next adapts =>
      rw [if_pos adapts]
      exact registry.goesOn plain table (.of_eq rfl rfl rfl) rfl rfl
        ⟨working, unflagged_of_mayAdapt adapts⟩
    next busy =>
      rw [if_neg busy]
      exact registry.goesOn plain table (.of_eq rfl rfl rfl) rfl rfl trivial

theorem Registry.firstFailed (registry : Registry c reports) {request : Request}
    {fromPosition toPosition : Position}
    (switching : c.worker = .switchingFirst request fromPosition toPosition)
    (unmoved : ∀ robot ∈ findRobot c fromPosition, robot.position = fromPosition)
    (table : SwapTable (setWorker (updateRobot c fromPosition stopRobot) (.choosing request))) :
    Registry (setWorker (updateRobot c fromPosition stopRobot) (.choosing request)) reports := by
  have stops : ∀ robot, findRobot c fromPosition = some robot → IsHarmless stopRobot robot :=
    fun _ _ => ⟨rfl, rfl, fun running => by cases running⟩
  have same : SameRegistry c (setWorker (updateRobot c fromPosition stopRobot)
      (.choosing request)) :=
    (SameRegistry.update c fromPosition stops).trans (.of_eq rfl rfl rfl)
  refine registry.keep same ⟨?_, ?_, ?_, ?_, ?_⟩ table trivial
  · rw [switching]
    exact fun _ => Iff.rfl
  · rw [switching]
    exact fun _ _ => Iff.rfl
  · intro position robot found tells
    rw [switching] at tells
    obtain ⟨rfl, _⟩ := tells
    exact .inl (unmoved robot found)
  · rw [switching]
    exact fun _ _ => Iff.rfl
  · rw [switching]
    rfl

theorem Registry.onlySwitches (registry : Registry c reports) {request : Request}
    {fromPosition toPosition : Position}
    (switching : c.worker = .switchingFirst request fromPosition toPosition)
    (alone : ¬ isRegistered c toPosition)
    (table : SwapTable (setWorker (addSwap (updateRobot c fromPosition setAdaptivityFlag)
      fromPosition toPosition true) (.choosing request))) :
    Registry (setWorker (addSwap (updateRobot c fromPosition setAdaptivityFlag)
      fromPosition toPosition true) (.choosing request))
      (reports.tell c fromPosition toPosition) := by
  have working := registry.working
  have different := registry.table.different
  rw [switching] at working different
  have apart : fromPosition ≠ toPosition := by
    rintro rfl
    simp [opens] at different
  have telling : ∀ position goal, c.worker.tells position goal ↔
      position = fromPosition ∧ goal = toPosition := by
    rw [switching]
    exact fun _ _ => Iff.rfl
  have flags : ∀ robot, (setAdaptivityFlag robot).position = robot.position ∧
      (setAdaptivityFlag robot).adaptivityIsPending = true ∧
      ((setAdaptivityFlag robot).running = true → robot.running = true) :=
    fun _ => ⟨rfl, rfl, id⟩
  refine registry.adds (by rw [switching]; rfl) telling ?_ (.inl ⟨rfl, rfl, alone⟩) ?_ ?_ ?_
    working.1 flags (fun _ _ _ => apart) table Reports.tell_change Reports.tell_target
  · rw [switching]
    exact fun _ _ => iff_of_false id fun impossible => apart impossible.1
  · rw [switching]
    exact fun _ => id
  · rw [switching]
    exact fun _ => id
  · rw [switching]
    rfl

theorem Registry.secondSwitches (registry : Registry c reports) {request : Request}
    {fromPosition toPosition : Position} {reply : Option Bool} {later : Reports}
    (switching : c.worker = .switchingSecond request fromPosition toPosition)
    (sameChange : later.change = reports.change)
    (told : ∀ position goal, later.target position = some goal →
      reports.target position = some goal ∨
        position = toPosition ∧ goal = fromPosition ∧ isRegistered c toPosition ∧
          ∀ robot, findRobot c toPosition = some robot → robot.position ≠ fromPosition)
    (table : SwapTable (setWorker
      (addSwap (updateRobot c toPosition fun robot => setAdaptivityFlag (afterCall reply robot))
        fromPosition toPosition (reply = none)) (.choosing request))) :
    Registry (setWorker
      (addSwap (updateRobot c toPosition fun robot => setAdaptivityFlag (afterCall reply robot))
        fromPosition toPosition (reply = none)) (.choosing request)) later := by
  have working := registry.working
  rw [switching] at working
  have telling : ∀ position goal, c.worker.tells position goal ↔
      position = toPosition ∧ goal = fromPosition := by
    rw [switching]
    exact fun _ _ => Iff.rfl
  refine registry.adds (by rw [switching]; rfl) telling ?_ (.inr ⟨rfl, rfl⟩) ?_ ?_ ?_
    working ?_ ?_ table sameChange told
  · rw [switching]
    exact fun _ _ => ⟨fun first => ⟨rfl, first⟩, fun first => first.2⟩
  · rw [switching]
    exact fun _ => id
  · rw [switching]
    exact fun _ => id
  · rw [switching]
    rfl
  · intro robot
    obtain ⟨samePosition, _, running⟩ := isHarmless_afterCall reply robot
    exact ⟨samePosition, rfl, running⟩
  · intro failed robot running
    rw [decide_eq_true_eq] at failed
    rw [failed] at running
    cases running

theorem Registry.declined (registry : Registry c reports) {request : Request}
    {position : Position} {profile : String} {reply : Option Bool}
    (instructing : c.worker = .reconfiguring request position profile)
    (unchanged : reports.change position = none)
    (table : SwapTable (setWorker (updateRobot c position (afterCall reply))
      (.choosing request))) :
    Registry (setWorker (updateRobot c position (afterCall reply)) (.choosing request))
      reports := by
  refine registry.keep (afterCall_sameRegistry c _ position reply) ⟨?_, ?_, ?_, ?_, ?_⟩ table
    trivial
  · rw [instructing]
    exact fun _ => Iff.rfl
  · rw [instructing]
    exact fun _ _ => Iff.rfl
  · rw [instructing]
    exact fun _ _ _ impossible => absurd impossible id
  · rw [instructing]
    refine fun other changed => iff_of_false id ?_
    rintro rfl
    exact changed unchanged
  · rw [instructing]
    rfl

/-- A reply is no report when the worker has called no robot, or when the robot
has declined. -/
theorem keepReports_reply {reply : Option Bool} (isReply : event = .positionSwitched reply ∨
      event = .capabilitiesInstructed reply)
    (unheard : reply ≠ some true ∨ ∃ request, c.worker = .choosing request) :
    keepReports c event reports = reports := by
  by_cases accepted : reply = some true
  · subst accepted
    obtain ⟨request, choosing⟩ := unheard.resolve_left (fun declined => declined rfl)
    cases isReply with
    | inl switched =>
        subst switched
        simp only [keepReports, choosing]
    | inr instructed =>
        subst instructed
        simp only [keepReports, choosing]
  · cases isReply with
    | inl switched =>
        subst switched
        cases reply with
        | none => rfl
        | some moved =>
            cases moved with
            | false => rfl
            | true => exact absurd rfl accepted
    | inr instructed =>
        subst instructed
        cases reply with
        | none => rfl
        | some reconfigured =>
            cases reconfigured with
            | false => rfl
            | true => exact absurd rfl accepted

theorem Registry.step (registry : Registry c reports) (lawful : Lawful c reports event)
    (fresh : NotStale c reports event) (taken : step config c event = some (after, outputs)) :
    Registry after (keepReports c event reports) := by
  have step := step_cases taken
  have table := step_table registry.table step
  cases event with
  | positionChanged place newPosition =>
      obtain ⟨controller, ran, same⟩ := Option.map_eq_some_iff.mp taken
      cases same
      have reported := registry.positionReported lawful
      unfold positionChanged at ran
      split at ran
      · contradiction
      · simp only at ran
        split at ran
        · cases ran
          exact reported
        · cases ran
          exact reported.post _
  | capabilitiesChanged place capabilities =>
      obtain ⟨controller, ran, same⟩ := Option.map_eq_some_iff.mp taken
      cases same
      have reported := registry.changeReported lawful
      unfold capabilitiesChanged at ran
      split at ran
      · contradiction
      · simp only at ran
        split at ran
        · cases ran
          exact reported
        · cases ran
          exact reported.post _
  | runHandler =>
      cases step with
      | handled handler posted idle next ran => exact registry.handled fresh idle next ran table
      | adaptationRefused _ request choosing =>
          simp [ControllerAgent.step, choosing] at taken
  | registerRobot endpoint position capabilities =>
      cases step with
      | registrationReceived => exact registry.post _
      | adaptationRefused => exact registry
  | chooseNextRobot request =>
      cases step with
      | requestReceived => exact registry.post _
      | adaptationRefused => exact registry
  | robotStopped place =>
      cases step with
      | robotStopped =>
          exact registry.touch place fun _ _ => ⟨rfl, rfl, fun stopped => by cases stopped⟩
      | adaptationRefused => exact registry
  | receiverStopped receiver =>
      cases step with
      | receiverStopped =>
          exact registry.keep (.of_eq rfl rfl rfl) (.of_eq rfl) table registry.working
      | adaptationRefused => exact registry
  | robotInitialized succeeded =>
      cases step with
      | robotRegistered robot position initializing =>
          have registered : ∀ {worker : Worker}, worker.isPlain = true → opens worker = [] →
              (∀ after, Working after worker) → Registry (setWorker
                { insertRobot c position robot with
                  registeredRobots := (c.registeredRobots + 1) % 2 ^ 32 } worker) reports :=
            fun plain opening working =>
              registry.register initializing lawful plain opening working
          unfold resolveMissedNewPositionCommit
          split
          · exact registered rfl rfl fun _ => trivial
          · split
            · exact registered rfl rfl fun _ => trivial
            · exact registered rfl rfl fun _ => trivial
      | robotDropped robot position initializing =>
          exact registry.goesOn (by rw [initializing]; rfl) table (.of_eq rfl rfl rfl) rfl rfl
            trivial
      | adaptationRefused => exact registry
  | pendingCommitRead answer =>
      cases step with
      | commitMissed position reading =>
          exact registry.goesOn (by rw [reading]; rfl) table (.of_eq rfl rfl rfl) rfl rfl trivial
      | noCommitMissed position _ reading =>
          exact registry.goesOn (by rw [reading]; rfl) table
            (afterCall_sameRegistry c _ position answer) rfl rfl trivial
      | adaptationRefused => exact registry
  | newPositionCommitted reply =>
      cases step with
      | missedCommitted position _ resolving =>
          exact registry.goesOn (by rw [resolving]; rfl) table
            (afterCall_sameRegistry c _ position reply) rfl rfl trivial
      | firstCommitted key second position _ committing =>
          have after : Registry (updateRobot c position (afterCall reply)) reports :=
            registry.touch (.registered position) fun robot _ => isHarmless_afterCall reply robot
          exact after.commitSecond committing
      | secondCommitted key position _ committing =>
          have after : Registry (updateRobot c position (afterCall reply)) reports :=
            registry.touch (.registered position) fun robot _ => isHarmless_afterCall reply robot
          have worker : (updateRobot c position (afterCall reply)).worker =
              .committingSecond key position := committing
          exact after.finish (by rw [worker]; rfl) (by rw [worker]; rfl)
      | adaptationRefused => exact registry
  | receiverInitialized succeeded =>
      cases step with
      | receiverInitialized request _ initializing =>
          refine registry.goesOn (by rw [initializing]; rfl) table ?_ rfl rfl trivial
          cases succeeded <;> exact .of_eq rfl rfl rfl
      | adaptationRefused => exact registry
  | swapRobotPositions fromPosition toPosition =>
      cases step with
      | swapChecked request _ _ choosing _ _ _ adapts =>
          exact registry.goesOn (by rw [choosing]; rfl) table (.of_eq rfl rfl rfl) rfl rfl
            (unflagged_of_mayAdapt adapts)
      | adaptationRefused => exact registry
  | reconfigureRobotCapability robotPosition profile =>
      cases step with
      | reconfigurationChecked request _ _ choosing adapts =>
          exact registry.goesOn (by rw [choosing]; rfl) table (.of_eq rfl rfl rfl) rfl rfl
            (unflagged_of_mayAdapt adapts)
      | adaptationRefused => exact registry
  | availabilityRead answer =>
      cases step with
      | notAvailable request position _ checking =>
          refine registry.goesOn ?_ table (afterCall_sameRegistry c _ position answer) rfl rfl
            trivial
          generalize c.worker = worker at checking
          cases checking <;> rfl
      | firstAvailable request fromPosition toPosition checking =>
          exact registry.checksSecond checking table
      | secondAvailable request fromPosition toPosition checking =>
          have working := registry.working
          rw [checking] at working
          exact registry.calls (by rw [checking]; rfl) table (.of_eq rfl rfl rfl) (fun _ => id)
            (fun _ _ => id) (fun _ impossible => absurd impossible id) rfl working
      | robotAvailable request robotPosition profile checking =>
          have working := registry.working
          rw [checking] at working
          refine registry.calls (by rw [checking]; rfl) table (.of_eq rfl rfl rfl) (fun _ => id)
            (fun _ _ => id) ?_ rfl working
          intro position same
          rw [← (show robotPosition = position from same)]
          exact working
      | adaptationRefused => exact registry
  | positionSwitched reply =>
      cases step with
      | firstFailed request fromPosition toPosition switching =>
          have unmoved := lawful.2 rfl
          rw [switching] at unmoved
          exact registry.firstFailed switching unmoved table
      | firstRefused => exact absurd rfl lawful.1
      | secondRefused => exact absurd rfl lawful.1
      | firstSwitches request fromPosition toPosition switching =>
          simp only [keepReports, switching]
          exact registry.firstSwitches switching table
      | onlySwitches request fromPosition toPosition switching alone =>
          simp only [keepReports, switching]
          exact registry.onlySwitches switching alone table
      | secondSwitches request fromPosition toPosition _ switching agreed =>
          cases reply with
          | none => exact registry.secondSwitches switching rfl (fun _ _ told => .inl told) table
          | some accepted =>
              cases accepted with
              | false => exact absurd rfl agreed
              | true =>
                  simp only [keepReports, switching]
                  exact registry.secondSwitches switching Reports.tell_change Reports.tell_target
                    table
      | adaptationRefused _ request choosing =>
          rw [keepReports_reply (.inl rfl) (.inr ⟨request, choosing⟩)]
          exact registry
  | capabilitiesInstructed reply =>
      cases step with
      | reconfigurationInstructed request robotPosition profile _ instructing =>
          by_cases accepted : reply = some true
          · rw [accepted] at table ⊢
            simp only [keepReports, instructing]
            exact registry.reconfigured instructing table
          · have unchanged := lawful accepted
            rw [instructing] at unchanged
            rw [keepReports_reply (.inr rfl) (.inl accepted), if_neg accepted]
            rw [if_neg accepted] at table
            exact registry.declined instructing unchanged table
      | adaptationRefused _ request choosing =>
          rw [keepReports_reply (.inr rfl) (.inr ⟨request, choosing⟩)]
          exact registry
  | nextRobotChosen position =>
      cases step with
      | notAnswered _ request choosing =>
          exact registry.goesOn (by rw [choosing]; rfl) table (.of_eq rfl rfl rfl) rfl rfl trivial
      | answers _ request choosing =>
          exact registry.goesOn (by rw [choosing]; rfl) table (.of_eq rfl rfl rfl) rfl rfl trivial
      | adaptationRefused => exact registry
  | nextRobotReceived reply =>
      cases step with
      | answered request robotPosition robotEndpoint _ answering =>
          refine registry.goesOn (by rw [answering]; rfl) table ?_ rfl rfl trivial
          cases reply <;> exact .of_eq rfl rfl rfl
      | adaptationRefused => exact registry

end Steps

end CpsKitchen.ControllerAgent
