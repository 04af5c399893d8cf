import CpsKitchen.Rearrangement.Stages

/-!
# The controller and the stages

What each handler and each reply does to the agreement between the controller
and the stages of the robots.
-/

namespace CpsKitchen.Rearrangement

open CpsKitchen.Reactive CpsKitchen.Recipes
open CpsKitchen.ControllerAgent

set_option autoImplicit false

variable {config : Config} {c after : Controller} {stage : String → Stage}

section Keys

theorem swapKey_of_ordered {key : SwapKey} (ordered : key.1 < key.2) :
    swapKey key.1 key.2 = key := if_pos ordered

theorem swapKey_swap_of_ordered {key : SwapKey} (ordered : key.1 < key.2) :
    swapKey key.2 key.1 = key := if_neg (Nat.lt_asymm ordered)

theorem swapKey_comm {first second : Position} (different : first ≠ second) :
    swapKey first second = swapKey second first := by
  unfold swapKey
  rcases Nat.lt_or_gt_of_ne different with below | above
  · rw [if_pos below, if_neg (Nat.lt_asymm below)]
  · rw [if_neg (Nat.lt_asymm above), if_pos above]

theorem swapKey_cases (first second : Position) :
    swapKey first second = (first, second) ∧ first < second ∨
      swapKey first second = (second, first) ∧ ¬ first < second := by
  unfold swapKey
  split
  next below => exact .inl ⟨rfl, below⟩
  next notBelow => exact .inr ⟨rfl, notBelow⟩

theorem eq_of_swapKey {key : SwapKey} {first second : Position}
    (same : swapKey first second = key) :
    (first, second) = (key.1, key.2) ∨ (first, second) = (key.2, key.1) := by
  rcases swapKey_cases first second with ⟨pair, _⟩ | ⟨pair, _⟩
  · exact .inl (by rw [← same, pair])
  · exact .inr (by rw [← same, pair])

theorem different_of_ordered {first second : Position}
    (ordered : (swapKey first second).1 < (swapKey first second).2) : first ≠ second := by
  rintro rfl
  simp [swapKey] at ordered

theorem swapKey_cancel {first second other : Position}
    (same : swapKey first second = swapKey first other) : second = other := by
  rcases swapKey_cases first second with ⟨pair, below⟩ | ⟨pair, notBelow⟩
  · rcases swapKey_cases first other with ⟨otherPair, _⟩ | ⟨otherPair, notBelowOther⟩
    · rw [pair, otherPair] at same
      exact congrArg Prod.snd same
    · rw [pair, otherPair] at same
      exact (congrArg Prod.snd same).trans (congrArg Prod.fst same)
  · rcases swapKey_cases first other with ⟨otherPair, belowOther⟩ | ⟨otherPair, _⟩
    · rw [pair, otherPair] at same
      exact (congrArg Prod.fst same).trans (congrArg Prod.snd same)
    · rw [pair, otherPair] at same
      exact congrArg Prod.fst same

theorem eq_or_reverse_of_swapKey {switch : Position × Position} {first second : Position}
    (same : swapKey switch.1 switch.2 = swapKey first second) :
    switch = (first, second) ∨ switch = (second, first) := by
  obtain ⟨fromPosition, toPosition⟩ := switch
  rcases swapKey_cases first second with ⟨pair, _⟩ | ⟨pair, _⟩
  · rw [pair] at same
    exact eq_of_swapKey same
  · rw [pair] at same
    exact (eq_of_swapKey same).symm

theorem isAcknowledged_eq {entry : SwapKey × SwapState} (ordered : entry.1.1 < entry.1.2) :
    entry.2.isAcknowledged = (ackFrom entry entry.1.1 && ackFrom entry entry.1.2) := by
  rw [SwapState.isAcknowledged, ackFrom, ackFrom, if_pos rfl, if_neg (Nat.ne_of_lt ordered)]

theorem ackFrom_acknowledge {key : SwapKey} (ordered : key.1 < key.2) (swap : SwapState)
    {oldPosition position : Position} (old : involves oldPosition key)
    (involved : involves position key) :
    ackFrom (key, swap.acknowledge key oldPosition) position =
      (decide (position = oldPosition) || ackFrom (key, swap) position) := by
  have different := Nat.ne_of_lt ordered
  unfold ackFrom SwapState.acknowledge
  rcases old with rfl | rfl
  · rcases involved with rfl | rfl <;> simp [different, different.symm]
  · rcases involved with rfl | rfl <;> simp [different]

theorem ackFrom_newSwap {fromPosition toPosition : Position} (acknowledged : Bool)
    (different : fromPosition ≠ toPosition) :
    ackFrom (swapKey fromPosition toPosition, newSwap fromPosition toPosition acknowledged)
        fromPosition = false ∧
      ackFrom (swapKey fromPosition toPosition, newSwap fromPosition toPosition acknowledged)
        toPosition = acknowledged := by
  unfold ackFrom newSwap
  rcases Nat.lt_or_gt_of_ne different with below | above
  · simp [swapKey, below, different, Nat.lt_asymm below]
  · simp [swapKey, above, different.symm, Nat.lt_asymm above]

end Keys

section CleanUp

theorem Agrees.waits (agrees : Agrees config c stage) (unfinished : Unfinished c)
    {entry : SwapKey × SwapState} (member : entry ∈ c.pendingSwaps)
    (notCompleting : ¬ Completing c.worker entry.1) :
    Waiting config stage (entry.1.1, entry.1.2) ∨ Waiting config stage (entry.1.2, entry.1.1) := by
  have ordered := agrees.ordered _ (List.mem_map_of_mem member)
  have notBoth : entry.2.isAcknowledged ≠ true :=
    fun both => notCompleting (unfinished entry member both)
  rw [isAcknowledged_eq ordered, Ne, Bool.and_eq_true, not_and_or] at notBoth
  rcases notBoth with lower | greater
  · left
    by_contra settled
    exact lower ((agrees.acked entry member _ _ (swapKey_of_ordered ordered)).mpr settled)
  · right
    by_contra settled
    exact greater ((agrees.acked entry member _ _ (swapKey_swap_of_ordered ordered)).mpr settled)

theorem Agrees.registered_of_waiting (agrees : Agrees config c stage)
    {switch : Position × Position} (waiting : Waiting config stage switch) :
    isRegistered c switch.1 := by
  obtain ⟨endpoint, member, waits⟩ := waiting
  exact agrees.isRegistered_iff.mpr
    ⟨endpoint, member, Stage.place_of_leaving (Stage.leaving_of_waiting waits)⟩

theorem removeStoppedRobots_eq (running : ∀ position, ¬ isStopped c position) :
    removeStoppedRobots c = c := by
  have robots : FiniteMap.retain RemoteRobot.running c.positionRemoteRobotMap =
      c.positionRemoteRobotMap := by
    refine Finmap.ext_lookup fun position => ?_
    have notStopped := running position
    rw [FiniteMap.lookup_retain]
    unfold isStopped findRobot at notStopped
    cases found : c.positionRemoteRobotMap.lookup position with
    | none => rfl
    | some robot =>
        rw [found] at notStopped
        have runs : robot.running = true := by simpa using notStopped
        simp [Option.filter, runs]
  have stopped : (c.positionRemoteRobotMap.keys.filter fun position => isStopped c position) = ∅ :=
    Finset.filter_eq_empty_iff.mpr fun position _ => running position
  have entries : c.pendingSwaps.map (acknowledgeStopped c) = c.pendingSwaps := by
    have same : acknowledgeStopped c = id := by
      funext entry
      simp [acknowledgeStopped, running]
    rw [same, List.map_id]
  unfold removeStoppedRobots
  simp only [robots, stopped, entries, Finset.card_empty, RobotAgent.subWord, Nat.zero_le, if_true,
    Nat.sub_zero]

/-- Without failures there is nothing to clean up. -/
theorem Agrees.cleanUp_eq (agrees : Agrees config c stage) (unfinished : Unfinished c)
    (idle : c.worker = .betweenHandlers) (running : ∀ position, ¬ isStopped c position) :
    cleanUp c = c := by
  rw [cleanUp, removeStoppedRobots_eq running, eraseStalePendingSwapEntries]
  have kept : (c.pendingSwaps.filter fun entry =>
      isRegistered c entry.1.1 ∨ isRegistered c entry.1.2) = c.pendingSwaps := by
    rw [List.filter_eq_self]
    intro entry member
    rw [decide_eq_true_eq]
    have notCompleting : ¬ Completing c.worker entry.1 := by
      rw [idle]
      exact id
    rcases agrees.waits unfinished member notCompleting with waiting | waiting
    · exact .inl (agrees.registered_of_waiting waiting)
    · exact .inr (agrees.registered_of_waiting waiting)
  rw [kept]

end CleanUp

section Notices

theorem Agrees.updated (agrees : Agrees config c stage) (change : RemoteRobot → RemoteRobot)
    (endpoint : ∀ robot, (change robot).endpoint = robot.endpoint) (place : Place) :
    Agrees config (updateAt c change place) stage := by
  have served := fun other => servedAt_updateAt (c := c) endpoint place other
  have registered : ∀ position, isRegistered (updateAt c change place) position ↔
      isRegistered c position := fun position => isRegistered_updateAt
  have keys : swapKeys (updateAt c change place) = swapKeys c :=
    congrArg (List.map Prod.fst) (pendingSwaps_updateAt change place)
  have posted : (updateAt c change place).posted = c.posted := by
    unfold updateAt
    split
    · rfl
    · split <;> rfl
  have same : ∀ agreed, WorkerAgrees config (updateAt c change place) stage agreed ↔
      WorkerAgrees config c stage agreed := fun agreed =>
    ⟨fun holds => holds.transport keys.symm (fun position => (registered position).symm)
        (fun _ => rfl) (fun _ => rfl) (fun _ => rfl) (fun _ => rfl),
      fun holds => holds.transport keys registered (fun _ => rfl) (fun _ => rfl) (fun _ => rfl)
        (fun _ => rfl)⟩
  have worker := (same c.worker).mpr agrees.worker
  refine agrees.transport
    (agrees.toSwapTable.transport (pendingSwaps_updateAt change place)
      (.inl (opens_updateAt change place)))
    served (pendingSwaps_updateAt change place) (by rw [postedAcks, posted, postedAcks])
    (by rw [posted]; exact agrees.registered) (completing_updateAt change place) ?_ ?_ ?_
  all_goals
    cases place with
    | registered position => first | exact worker | exact fun _ => id
    | held =>
        unfold updateAt at worker ⊢
        cases busy : c.worker with
        | initializingRobot =>
            rw [busy] at worker
            exact absurd worker id
        | committingFirst =>
            rw [busy] at worker
            first | exact fun _ => id | simpa [setWorker, WorkerAgrees] using worker
        | _ =>
            rw [busy] at worker
            simp only [busy]
            first | exact fun _ => id | exact worker

/-- The notice of a robot that has moved makes the controller post its
acknowledgement. -/
theorem Agrees.notice (agrees : Agrees config c stage) {endpoint : String}
    (member : endpoint ∈ config.endpoints) {fromPosition toPosition : Position}
    (moved : stage endpoint = .moved fromPosition toPosition) :
    Agrees config (post c (.positionSwapped fromPosition toPosition))
      (Function.update stage endpoint (.noticed fromPosition toPosition)) := by
  have place := view_update stage endpoint (.noticed fromPosition toPosition) Stage.place
    (by rw [moved]; rfl)
  have leaving := view_update stage endpoint (.noticed fromPosition toPosition) Stage.leaving
    (by rw [moved]; rfl)
  have waiting := view_update stage endpoint (.noticed fromPosition toPosition) Stage.waiting
    (by rw [moved]; rfl)
  have returning := view_update stage endpoint (.noticed fromPosition toPosition) Stage.returning
    (by rw [moved]; rfl)
  have outside := view_update stage endpoint (.noticed fromPosition toPosition) Stage.outside
    (by rw [moved]; rfl)
  have acks : postedAcks (post c (.positionSwapped fromPosition toPosition)) =
      postedAcks c ++ [(fromPosition, toPosition)] := by
    simp [postedAcks, post, ack?]
  have ack : ∀ other,
      (Function.update stage endpoint (.noticed fromPosition toPosition) other).ack =
      if other = endpoint then some (fromPosition, toPosition) else (stage other).ack := by
    intro other
    split
    next here => rw [here, Function.update_self]; rfl
    next elsewhere => rw [Function.update_of_ne elsewhere]
  have fresh : (fromPosition, toPosition) ∉ postedAcks c := by
    rw [agrees.acks]
    rintro ⟨other, otherMember, acks⟩
    have here : other = endpoint := by
      refine agrees.unique otherMember member ?_
      rw [Stage.place_of_leaving (Stage.leaving_of_waiting (Stage.waiting_of_ack acks)), moved]
      rfl
    rw [here, moved] at acks
    contradiction
  exact {
    toSwapTable := agrees.toSwapTable.transport rfl (.inl rfl)
    served := by simp only [place]; exact agrees.served
    acks := by
      intro switch
      rw [acks, List.mem_append, List.mem_singleton, agrees.acks]
      constructor
      · rintro (⟨other, otherMember, acked⟩ | rfl)
        · refine ⟨other, otherMember, ?_⟩
          have elsewhere : other ≠ endpoint := by
            rintro rfl
            rw [moved] at acked
            contradiction
          rw [ack, if_neg elsewhere]
          exact acked
        · exact ⟨endpoint, member, by rw [ack, if_pos rfl]⟩
      · rintro ⟨other, otherMember, acked⟩
        rw [ack] at acked
        split at acked
        · exact .inr (Option.some.inj acked).symm
        · exact .inl ⟨other, otherMember, acked⟩
    once := by
      rw [acks, List.nodup_append_comm]
      exact List.nodup_cons.mpr ⟨fresh, agrees.once⟩
    registered := by
      intro handler posted
      rcases List.mem_append.mp posted with earlier | new
      · exact agrees.registered handler earlier
      · rw [List.mem_singleton.mp new]
        rfl
    acked := by simp only [Waiting, waiting]; exact agrees.acked
    swapping := by simp only [leaving]; exact agrees.swapping
    occupied := by simp only [place, leaving]; exact agrees.occupied
    rekeyed := by simp only [returning]; exact agrees.rekeyed
    worker := agrees.worker.transport rfl (fun _ => Iff.rfl) leaving waiting returning outside }

end Notices

section Acknowledgements

theorem Stage.noticed_of_ack {stage : Stage} {fromPosition toPosition : Position}
    (acks : stage.ack = some (fromPosition, toPosition)) :
    stage = .noticed fromPosition toPosition := by
  cases stage with
  | noticed => cases acks; rfl
  | free | asked | moved | acknowledged | held | rekeyed | committed => contradiction

/-- The next acknowledgement is that of a robot whose swap is in the table. -/
theorem Agrees.next_ack (agrees : Agrees config c stage) (idle : c.worker = .betweenHandlers)
    {fromPosition toPosition : Position} {posted : List Handler}
    (next : c.posted = .positionSwapped fromPosition toPosition :: posted) :
    ∃ endpoint ∈ config.endpoints, stage endpoint = .noticed fromPosition toPosition ∧
      swapKey fromPosition toPosition ∈ swapKeys c := by
  have acks : (fromPosition, toPosition) ∈ postedAcks c := by
    simp [postedAcks, next, ack?]
  obtain ⟨endpoint, member, ack⟩ := (agrees.acks _).mp acks
  have noticed := Stage.noticed_of_ack ack
  refine ⟨endpoint, member, noticed, ?_⟩
  rcases agrees.swapping endpoint member (fromPosition, toPosition) (by rw [noticed]; rfl) with
    key | opening
  · exact key
  · rw [idle] at opening
    exact absurd opening id

theorem Agrees.only_waiting (agrees : Agrees config c stage) {endpoint other : String}
    (member : endpoint ∈ config.endpoints) (otherMember : other ∈ config.endpoints)
    {switch : Position × Position} (leaves : (stage endpoint).leaving = some switch)
    (waits : (stage other).waiting = some switch) : other = endpoint := by
  refine agrees.unique otherMember member ?_
  rw [Stage.place_of_leaving leaves, Stage.place_of_leaving (Stage.leaving_of_waiting waits)]

theorem Agrees.waiting_acknowledged (agrees : Agrees config c stage) {endpoint : String}
    (member : endpoint ∈ config.endpoints) {fromPosition toPosition : Position}
    (noticed : stage endpoint = .noticed fromPosition toPosition)
    (switch : Position × Position) :
    Waiting config (Function.update stage endpoint (.acknowledged fromPosition toPosition))
        switch ↔
      switch ≠ (fromPosition, toPosition) ∧ Waiting config stage switch := by
  have leaves : (stage endpoint).leaving = some (fromPosition, toPosition) := by
    rw [noticed]
    rfl
  constructor
  · rintro ⟨other, otherMember, waits⟩
    by_cases here : other = endpoint
    · rw [here, Function.update_self] at waits
      contradiction
    · rw [Function.update_of_ne here] at waits
      refine ⟨?_, other, otherMember, waits⟩
      rintro rfl
      exact here (agrees.only_waiting member otherMember leaves waits)
  · rintro ⟨different, other, otherMember, waits⟩
    refine ⟨other, otherMember, ?_⟩
    rw [Function.update_of_ne]
    · exact waits
    · rintro rfl
      rw [noticed] at waits
      exact different (Option.some.inj waits).symm

theorem Agrees.acknowledge (agrees : Agrees config c stage) (idle : c.worker = .betweenHandlers)
    {endpoint : String} (member : endpoint ∈ config.endpoints)
    {fromPosition toPosition : Position}
    (noticed : stage endpoint = .noticed fromPosition toPosition)
    (table : swapKey fromPosition toPosition ∈ swapKeys c) {posted : List Handler}
    (next : c.posted = .positionSwapped fromPosition toPosition :: posted) :
    Agrees config
      (acknowledgeSwap (takeHandler c posted) (swapKey fromPosition toPosition) fromPosition)
      (Function.update stage endpoint (.acknowledged fromPosition toPosition)) := by
  have place := view_update stage endpoint (.acknowledged fromPosition toPosition) Stage.place
    (by rw [noticed]; rfl)
  have leaving := view_update stage endpoint (.acknowledged fromPosition toPosition) Stage.leaving
    (by rw [noticed]; rfl)
  have returning := view_update stage endpoint (.acknowledged fromPosition toPosition)
    Stage.returning
    (by rw [noticed]; rfl)
  have waiting := agrees.waiting_acknowledged member noticed
  have acks : postedAcks c = (fromPosition, toPosition) :: posted.filterMap ack? := by
    rw [postedAcks, next]
    rfl
  have once := agrees.once
  rw [acks, List.nodup_cons] at once
  have ordered := agrees.ordered _ table
  have keys : swapKeys (acknowledgeSwap (takeHandler c posted)
      (swapKey fromPosition toPosition) fromPosition) = swapKeys c :=
    acknowledgeSwap_keys (takeHandler c posted) _ _
  exact {
    toSwapTable := agrees.toSwapTable.mono (by rw [keys]) (.inl rfl)
    served := by simp only [place]; exact agrees.served
    acks := by
      intro switch
      have before := agrees.acks switch
      rw [acks, List.mem_cons] at before
      constructor
      · intro later
        obtain ⟨other, otherMember, ack⟩ := before.mp (.inr later)
        refine ⟨other, otherMember, ?_⟩
        rw [Function.update_of_ne]
        · exact ack
        · rintro rfl
          rw [noticed] at ack
          cases ack
          exact once.1 later
      · rintro ⟨other, otherMember, ack⟩
        by_cases here : other = endpoint
        · rw [here, Function.update_self] at ack
          contradiction
        · rw [Function.update_of_ne here] at ack
          rcases before.mpr ⟨other, otherMember, ack⟩ with rfl | later
          · exact absurd (agrees.only_waiting member otherMember (by rw [noticed]; rfl)
              (Stage.waiting_of_ack ack)) here
          · exact later
    once := once.2
    registered := by
      intro handler later
      refine agrees.registered handler ?_
      rw [next]
      exact List.mem_cons_of_mem _ later
    acked := by
      intro entry inside first second same
      rw [waiting]
      rcases mem_acknowledgeSwap inside with ⟨earlier, otherKey⟩ | ⟨before, earlier, here, rfl⟩
      · rw [agrees.acked entry earlier first second same]
        have different : (first, second) ≠ (fromPosition, toPosition) := by
          intro equal
          cases equal
          exact otherKey same.symm
        simp [different]
      · have same : swapKey first second = swapKey fromPosition toPosition := same
        have old : involves fromPosition (swapKey fromPosition toPosition) :=
          involves_swapKey.mpr (.inl rfl)
        have involved : involves first (swapKey fromPosition toPosition) := by
          rw [← same]
          exact involves_swapKey.mpr (.inl rfl)
        have acked := agrees.acked before earlier first second (same.trans here.symm)
        have sameEntry : before = (swapKey fromPosition toPosition, before.2) := by rw [← here]
        rw [sameEntry] at acked
        rw [ackFrom_acknowledge ordered before.2 old involved, Bool.or_eq_true, acked,
          decide_eq_true_eq]
        by_cases fromHere : first = fromPosition
        · have equal : second = toPosition := by
            rw [fromHere] at same
            exact swapKey_cancel same
          simp [fromHere, equal]
        · simp [fromHere]
    swapping := by
      simp only [leaving, keys]
      exact agrees.swapping
    occupied := by
      simp only [place, leaving, keys]
      exact agrees.occupied
    rekeyed := by simp only [returning]; exact agrees.rekeyed
    worker := by
      have worker : (acknowledgeSwap (takeHandler c posted) (swapKey fromPosition toPosition)
          fromPosition).worker = .betweenHandlers := idle
      rw [worker]
      trivial }

end Acknowledgements

section Completion

def completedStage (stage : String → Stage) (fromPosition toPosition : Position)
    (endpoint : String) : Stage :=
  if (stage endpoint).leaving = some (fromPosition, toPosition) then
    .rekeyed fromPosition toPosition
  else if (stage endpoint).leaving = some (toPosition, fromPosition) then
    .held toPosition fromPosition
  else stage endpoint

variable {fromPosition toPosition : Position} {endpoint : String} {first : RemoteRobot}

theorem completedStage_view {View : Type} (view : Stage → Option View)
    (waits : ∀ stage : Stage, stage.waiting = none → view stage = none)
    (rekeyed : view (.rekeyed fromPosition toPosition) = none)
    (held : view (.held toPosition fromPosition) = none)
    (firstAcked : ¬ Waiting config stage (fromPosition, toPosition))
    (secondAcked : ¬ Waiting config stage (toPosition, fromPosition)) {other : String}
    (member : other ∈ config.endpoints) :
    view (completedStage stage fromPosition toPosition other) = view (stage other) := by
  have settled : ∀ switch, ¬ Waiting config stage switch →
      (stage other).leaving = some switch → (stage other).waiting = none := by
    intro switch acked leaves
    by_contra waiting
    obtain ⟨waited, waits⟩ := Option.ne_none_iff_exists'.mp waiting
    have same := Stage.leaving_of_waiting waits
    rw [leaves] at same
    cases same
    exact acked ⟨other, member, waits⟩
  unfold completedStage
  split
  next leaves => rw [rekeyed, waits _ (settled _ firstAcked leaves)]
  · split
    next leaves => rw [held, waits _ (settled _ secondAcked leaves)]
    · rfl

theorem Stage.ack_of_not_waiting {stage : Stage} (waits : stage.waiting = none) :
    stage.ack = none := by
  cases stage with
  | asked | moved | noticed => contradiction
  | free | acknowledged | held | rekeyed | committed => rfl

theorem completedStage_other {other : String}
    (notFrom : (stage other).leaving ≠ some (fromPosition, toPosition))
    (notTo : (stage other).leaving ≠ some (toPosition, fromPosition)) :
    completedStage stage fromPosition toPosition other = stage other := by
  rw [completedStage, if_neg notFrom, if_neg notTo]

theorem completedStage_leaving {other : String} {switch : Position × Position}
    (leaves : (completedStage stage fromPosition toPosition other).leaving = some switch) :
    (stage other).leaving = some switch ∧ switch ≠ (fromPosition, toPosition) ∧
      switch ≠ (toPosition, fromPosition) := by
  unfold completedStage at leaves
  split at leaves
  · contradiction
  next notFrom =>
    split at leaves
    · contradiction
    next notTo =>
      refine ⟨leaves, ?_, ?_⟩
      · rintro rfl
        exact notFrom leaves
      · rintro rfl
        exact notTo leaves

/-- What the controller is like when a swap begins to be completed: one robot
is back under its new key, the other one, if there is one, is held. -/
structure Begun (c after : Controller) (fromPosition toPosition : Position)
    (first : RemoteRobot) : Prop where
  table : SwapTable after
  robots : ∀ position, findRobot after position =
    if position = toPosition then some (resetAdaptivityFlag first)
    else if involves position (swapKey fromPosition toPosition) then none
    else findRobot c position
  outside : robotAt after .held = findRobot c toPosition
  swaps : after.pendingSwaps = c.pendingSwaps
  posted : after.posted = c.posted
  worker : after.worker = .committingFirst (swapKey fromPosition toPosition)
      (findRobot c toPosition) toPosition ∨
    findRobot c toPosition = none ∧
      after.worker = .committingSecond (swapKey fromPosition toPosition) toPosition

theorem Begun.completing (begun : Begun c after fromPosition toPosition first) (key : SwapKey) :
    Completing after.worker key ↔ swapKey fromPosition toPosition = key := by
  rcases begun.worker with worker | ⟨_, worker⟩ <;> rw [worker] <;> exact Iff.rfl

theorem Agrees.leaving_of_place (agrees : Agrees config c stage)
    (idle : c.worker = .betweenHandlers) (key : swapKey fromPosition toPosition ∈ swapKeys c)
    {other : String} (member : other ∈ config.endpoints) {position : Position}
    (place : (stage other).place = .registered position)
    (involved : involves position (swapKey fromPosition toPosition)) :
    ∃ switch, (stage other).leaving = some switch ∧ switch.1 = position ∧
      (switch = (fromPosition, toPosition) ∨ switch = (toPosition, fromPosition)) := by
  have notCompleting : ¬ Completing c.worker (swapKey fromPosition toPosition) := by
    rw [idle]
    exact id
  obtain ⟨switch, leaves, same⟩ := agrees.occupied _ key notCompleting other member position place
    involved
  refine ⟨switch, leaves, ?_, eq_or_reverse_of_swapKey same⟩
  rw [Stage.place_of_leaving leaves] at place
  exact Place.registered.inj place

theorem Agrees.served_begun (agrees : Agrees config c stage) (idle : c.worker = .betweenHandlers)
    (key : swapKey fromPosition toPosition ∈ swapKeys c)
    (member : endpoint ∈ config.endpoints)
    (leaves : (stage endpoint).leaving = some (fromPosition, toPosition))
    (found : findRobot c fromPosition = some first)
    (begun : Begun c after fromPosition toPosition first) (place : Place) (other : String) :
    servedAt after place = some other ↔ other ∈ config.endpoints ∧
      (completedStage stage fromPosition toPosition other).place = place := by
  have different := different_of_ordered (agrees.ordered _ key)
  have fromInvolved : involves fromPosition (swapKey fromPosition toPosition) :=
    involves_swapKey.mpr (.inl rfl)
  have toInvolved : involves toPosition (swapKey fromPosition toPosition) :=
    involves_swapKey.mpr (.inr rfl)
  have reverse : (toPosition, fromPosition) ≠ (fromPosition, toPosition) := by
    intro same
    exact different (congrArg Prod.snd same)
  have firstEndpoint : first.endpoint = endpoint := by
    have served := (agrees.served _ endpoint).mpr ⟨member, Stage.place_of_leaving leaves⟩
    rw [servedAt, robotAt, found] at served
    exact Option.some.inj served
  have outside : ∀ position, position ≠ toPosition →
      ¬ involves position (swapKey fromPosition toPosition) →
      servedAt after (.registered position) = servedAt c (.registered position) := by
    intro position notTo notInvolved
    rw [servedAt, servedAt, robotAt, robotAt, begun.robots, if_neg notTo, if_neg notInvolved]
  constructor
  · intro served
    cases place with
    | registered position =>
        by_cases isTo : position = toPosition
        · rw [servedAt, robotAt, begun.robots, if_pos isTo] at served
          have same : endpoint = other := firstEndpoint.symm.trans (Option.some.inj served)
          rw [← same, completedStage, if_pos leaves, isTo]
          exact ⟨member, rfl⟩
        · by_cases involved : involves position (swapKey fromPosition toPosition)
          · rw [servedAt, robotAt, begun.robots, if_neg isTo, if_pos involved] at served
            contradiction
          · rw [outside position isTo involved, agrees.served] at served
            refine ⟨served.1, ?_⟩
            rw [completedStage_other]
            · exact served.2
            · intro leavesToo
              have place := served.2
              rw [Stage.place_of_leaving leavesToo] at place
              exact involved (Place.registered.inj place ▸ fromInvolved)
            · intro leavesToo
              have place := served.2
              rw [Stage.place_of_leaving leavesToo] at place
              exact involved (Place.registered.inj place ▸ toInvolved)
    | held =>
        have at_ : servedAt c (.registered toPosition) = some other := by
          rw [servedAt, begun.outside] at served
          exact served
        rw [agrees.served] at at_
        obtain ⟨switch, leavesToo, isTo, cases⟩ :=
          agrees.leaving_of_place idle key at_.1 at_.2 toInvolved
        rcases cases with rfl | rfl
        · exact absurd isTo different
        · refine ⟨at_.1, ?_⟩
          rw [completedStage, leavesToo, if_neg (by simp [different.symm]), if_pos rfl]
          rfl
  · rintro ⟨otherMember, rfl⟩
    unfold completedStage
    split
    next leavesToo =>
      have same : other = endpoint := agrees.unique otherMember member (by
        rw [Stage.place_of_leaving leavesToo, Stage.place_of_leaving leaves])
      change servedAt after (.registered toPosition) = some other
      rw [servedAt, robotAt, begun.robots, if_pos rfl, same, ← firstEndpoint]
      rfl
    next notFrom =>
      split
      next leavesToo =>
        change servedAt after .held = some other
        rw [servedAt, begun.outside]
        exact (agrees.served _ other).mpr ⟨otherMember, Stage.place_of_leaving leavesToo⟩
      next notTo =>
        have served := (agrees.served _ other).mpr ⟨otherMember, rfl⟩
        cases place : (stage other).place with
        | held =>
            rw [place, servedAt, robotAt, idle] at served
            contradiction
        | registered position =>
            have notInvolved : ¬ involves position (swapKey fromPosition toPosition) := by
              intro involved
              obtain ⟨switch, leavesToo, _, cases⟩ :=
                agrees.leaving_of_place idle key otherMember place involved
              rcases cases with rfl | rfl
              · exact notFrom leavesToo
              · exact notTo leavesToo
            have notTo : position ≠ toPosition := by
              rintro rfl
              exact notInvolved toInvolved
            rw [outside position notTo notInvolved, ← place]
            exact served

theorem Agrees.begun (agrees : Agrees config c stage) (idle : c.worker = .betweenHandlers)
    (key : swapKey fromPosition toPosition ∈ swapKeys c)
    (member : endpoint ∈ config.endpoints)
    (leaves : (stage endpoint).leaving = some (fromPosition, toPosition))
    (firstAcked : ¬ Waiting config stage (fromPosition, toPosition))
    (secondAcked : ¬ Waiting config stage (toPosition, fromPosition))
    (found : findRobot c fromPosition = some first)
    (begun : Begun c after fromPosition toPosition first) :
    Agrees config after (completedStage stage fromPosition toPosition) := by
  have different := different_of_ordered (agrees.ordered _ key)
  have keys : swapKeys after = swapKeys c := congrArg (List.map Prod.fst) begun.swaps
  have toInvolved : involves toPosition (swapKey fromPosition toPosition) :=
    involves_swapKey.mpr (.inr rfl)
  have ack := fun other (otherMember : other ∈ config.endpoints) =>
    completedStage_view Stage.ack
      (fun _ => Stage.ack_of_not_waiting) rfl rfl firstAcked secondAcked otherMember
  have waits := fun other (otherMember : other ∈ config.endpoints) =>
    completedStage_view Stage.waiting (fun _ => id) rfl rfl firstAcked secondAcked otherMember
  have returned : completedStage stage fromPosition toPosition endpoint =
      .rekeyed fromPosition toPosition := if_pos leaves
  exact {
    toSwapTable := begun.table
    served := agrees.served_begun idle key member leaves found begun
    acks := by
      intro switch
      rw [postedAcks, begun.posted]
      refine (agrees.acks switch).trans (exists_congr fun other => and_congr_right fun inside => ?_)
      rw [ack other inside]
    once := by rw [postedAcks, begun.posted]; exact agrees.once
    registered := by rw [begun.posted]; exact agrees.registered
    acked := by
      intro entry inside first second same
      rw [begun.swaps] at inside
      rw [agrees.acked entry inside first second same]
      refine not_congr (exists_congr fun other => and_congr_right fun inside => ?_)
      rw [waits other inside]
    swapping := by
      intro other inside switch leavesToo
      rw [keys]
      rcases agrees.swapping other inside switch (completedStage_leaving leavesToo).1 with
        table | opening
      · exact .inl table
      · rw [idle] at opening
        exact absurd opening id
    occupied := by
      intro other table notCompleting robot inside position place involved
      rw [keys] at table
      rw [begun.completing] at notCompleting
      have notBefore : ¬ Completing c.worker other := by
        rw [idle]
        exact id
      unfold completedStage at place ⊢
      split at place
      · have same : toPosition = position := Place.registered.inj place
        rw [← same] at involved
        exact absurd (agrees.eq_of_involves key table toInvolved involved) notCompleting
      · split at place
        · contradiction
        next notFrom notTo =>
          rw [if_neg notFrom, if_neg notTo]
          exact agrees.occupied other table notBefore robot inside position place involved
    rekeyed := by
      intro other inside switch returns
      unfold completedStage at returns
      split at returns
      · cases returns
        rcases begun.worker with worker | ⟨_, worker⟩ <;> rw [worker] <;> exact ⟨rfl, rfl⟩
      · split at returns
        · contradiction
        · have before := agrees.rekeyed other inside switch returns
          rw [idle] at before
          exact absurd before id
    worker := by
      have left : Left config (completedStage stage fromPosition toPosition)
          (swapKey fromPosition toPosition) := by
        intro other inside switch leavesToo same
        obtain ⟨_, notFrom, notTo⟩ := completedStage_leaving leavesToo
        rcases eq_or_reverse_of_swapKey same with rfl | rfl
        · exact notFrom rfl
        · exact notTo rfl
      have fromGone : ¬ isRegistered after fromPosition := by
        rw [isRegistered, begun.robots, if_neg different,
          if_pos (involves_swapKey.mpr (.inl rfl))]
        simp
      rcases begun.worker with worker | ⟨_, worker⟩
      · rw [worker]
        refine ⟨keys ▸ key, left, endpoint, member, fromPosition, by rw [returned]; rfl, rfl,
          fun _ => fromGone, ?_⟩
        intro other inside switch out
        unfold completedStage at out
        split at out
        · contradiction
        · split at out
          · exact (Option.some.inj out).symm
          · have served := (agrees.served _ other).mpr ⟨inside, rfl⟩
            rw [Stage.place_eq_held.mpr ⟨switch, out⟩, servedAt, robotAt, idle] at served
            contradiction
      · rw [worker]
        exact ⟨left, endpoint, member, fromPosition, by rw [returned]; rfl, rfl⟩ }

end Completion

section Commits

variable {fromPosition toPosition : Position} {endpoint : String} {key : SwapKey}

theorem Stage.rekeyed_of_returning {stage : Stage}
    (returns : stage.returning = some (fromPosition, toPosition)) :
    stage = .rekeyed fromPosition toPosition := by
  cases stage with
  | rekeyed => cases returns; rfl
  | free | asked | moved | noticed | acknowledged | held | committed => contradiction

theorem Stage.held_of_outside {stage : Stage}
    (out : stage.outside = some (fromPosition, toPosition)) :
    stage = .held fromPosition toPosition := by
  cases stage with
  | held => cases out; rfl
  | free | asked | moved | noticed | acknowledged | rekeyed | committed => contradiction

theorem mem_swapKeys_eraseSwap {other : SwapKey} :
    other ∈ swapKeys (eraseSwap c key) ↔ other ∈ swapKeys c ∧ other ≠ key := by
  simp only [swapKeys, eraseSwap, List.mem_map, List.mem_filter, decide_eq_true_eq]
  constructor
  · rintro ⟨entry, ⟨member, different⟩, rfl⟩
    exact ⟨⟨entry, member, rfl⟩, different⟩
  · rintro ⟨⟨entry, member, rfl⟩, different⟩
    exact ⟨entry, ⟨member, different⟩, rfl⟩

/-- Only one robot at a time is about to be told to commit. -/
theorem Agrees.only_returning (agrees : Agrees config c stage)
    (member : endpoint ∈ config.endpoints)
    (returns : (stage endpoint).returning = some (fromPosition, toPosition)) {other : String}
    (otherMember : other ∈ config.endpoints) {switch : Position × Position}
    (returnsToo : (stage other).returning = some switch) : other = endpoint := by
  refine agrees.unique otherMember member ?_
  rw [Stage.place_of_returning returns, Stage.place_of_returning returnsToo]
  have first := agrees.rekeyed endpoint member _ returns
  have second := agrees.rekeyed other otherMember _ returnsToo
  cases worker : c.worker with
  | committingFirst | committingSecond =>
      rw [worker] at first second
      rw [← first.1, ← second.1]
  | _ =>
      rw [worker] at first
      exact absurd first id

theorem Agrees.commits_last (agrees : Agrees config c stage)
    (worker : c.worker = .committingFirst key none toPosition ∨
      c.worker = .committingSecond key toPosition) (left : Left config stage key)
    (member : endpoint ∈ config.endpoints)
    (returns : (stage endpoint).returning = some (fromPosition, toPosition)) :
    Agrees config (setWorker (eraseSwap c key) .betweenHandlers)
      (Function.update stage endpoint (.committed fromPosition toPosition)) := by
  have rekeyed := Stage.rekeyed_of_returning returns
  have place := view_update stage endpoint (.committed fromPosition toPosition) Stage.place
    (by rw [rekeyed]; rfl)
  have leaving := view_update stage endpoint (.committed fromPosition toPosition) Stage.leaving
    (by rw [rekeyed]; rfl)
  have waiting := view_update stage endpoint (.committed fromPosition toPosition) Stage.waiting
    (by rw [rekeyed]; rfl)
  have ack := view_update stage endpoint (.committed fromPosition toPosition) Stage.ack
    (by rw [rekeyed]; rfl)
  have served : ∀ place, servedAt (setWorker (eraseSwap c key) .betweenHandlers) place =
      servedAt c place := by
    intro place
    cases place with
    | registered position => rfl
    | held => rcases worker with worker | worker <;> simp [servedAt, robotAt, setWorker, worker]
  have notOpening : ∀ switch, ¬ Opening c.worker switch := by
    intro switch
    rcases worker with worker | worker <;> rw [worker] <;> exact id
  have completing : ∀ other, Completing c.worker other ↔ key = other := by
    intro other
    rcases worker with worker | worker <;> rw [worker] <;> exact Iff.rfl
  exact {
    toSwapTable := agrees.toSwapTable.mono (eraseSwap_keys c key) (.inr rfl)
    served := by simp only [place, served]; exact agrees.served
    acks := by simp only [ack]; exact agrees.acks
    once := agrees.once
    registered := agrees.registered
    acked := by
      simp only [Waiting, waiting]
      exact fun entry inside => agrees.acked entry (List.mem_filter.mp inside).1
    swapping := by
      intro other inside switch leaves
      rw [leaving] at leaves
      rcases agrees.swapping other inside switch leaves with table | opening
      · exact .inl (mem_swapKeys_eraseSwap.mpr ⟨table, left other inside switch leaves⟩)
      · exact absurd opening (notOpening switch)
    occupied := by
      intro other table _
      obtain ⟨before, different⟩ := mem_swapKeys_eraseSwap.mp table
      simp only [place, leaving]
      exact agrees.occupied other before fun completes =>
        different ((completing other).mp completes).symm
    rekeyed := by
      intro other inside switch returnsToo
      by_cases here : other = endpoint
      · rw [here, Function.update_self] at returnsToo
        contradiction
      · rw [Function.update_of_ne here] at returnsToo
        exact absurd (agrees.only_returning member returns inside returnsToo) here
    worker := trivial }

theorem Agrees.commits_first (agrees : Agrees config c stage) {second : RemoteRobot}
    (worker : c.worker = .committingFirst key (some second) toPosition)
    (table : key ∈ swapKeys c) (left : Left config stage key)
    (member : endpoint ∈ config.endpoints)
    (returns : (stage endpoint).returning = some (fromPosition, toPosition))
    (same : swapKey fromPosition toPosition = key) (free : ¬ isRegistered c fromPosition)
    (held : stage second.endpoint = .held toPosition fromPosition) :
    Agrees config
      (setWorker (insertRobot c fromPosition (resetAdaptivityFlag second))
        (.committingSecond key fromPosition))
      (Function.update (Function.update stage endpoint (.committed fromPosition toPosition))
        second.endpoint (.rekeyed toPosition fromPosition)) := by
  have rekeyed := Stage.rekeyed_of_returning returns
  have different := different_of_ordered (same ▸ agrees.ordered _ table)
  have secondMember : second.endpoint ∈ config.endpoints := by
    have served : servedAt c .held = some second.endpoint := by
      rw [servedAt, robotAt, worker]
      rfl
    exact ((agrees.served _ _).mp served).1
  have apart : endpoint ≠ second.endpoint := by
    rintro rfl
    rw [rekeyed] at held
    contradiction
  -- The stages as one function, so that each view has one equation.
  have later : ∀ other,
      Function.update (Function.update stage endpoint (.committed fromPosition toPosition))
        second.endpoint (.rekeyed toPosition fromPosition) other =
      if other = second.endpoint then .rekeyed toPosition fromPosition
      else if other = endpoint then .committed fromPosition toPosition else stage other := by
    intro other
    simp only [Function.update_apply]
  generalize Function.update (Function.update stage endpoint (.committed fromPosition toPosition))
    second.endpoint (.rekeyed toPosition fromPosition) = next at later
  have view : ∀ {View : Type} (view : Stage → Option View),
      view (.rekeyed toPosition fromPosition) = view (.held toPosition fromPosition) →
      view (.committed fromPosition toPosition) = view (.rekeyed fromPosition toPosition) →
      ∀ other, view (next other) = view (stage other) := by
    intro View view atSecond atFirst other
    rw [later]
    split
    next here => rw [here, held, atSecond]
    · split
      next here => rw [here, rekeyed, atFirst]
      · rfl
  have leaving := view Stage.leaving rfl rfl
  have waiting := view Stage.waiting rfl rfl
  have ack := view Stage.ack rfl rfl
  have served : ∀ position other,
      servedAt (setWorker (insertRobot c fromPosition (resetAdaptivityFlag second))
        (.committingSecond key fromPosition)) (.registered position) = some other ↔
      if position = fromPosition then second.endpoint = other
      else servedAt c (.registered position) = some other := by
    intro position other
    have found := findRobot_insertRobot c fromPosition (resetAdaptivityFlag second) position
    change (findRobot (insertRobot c fromPosition (resetAdaptivityFlag second)) position).map
      RemoteRobot.endpoint = some other ↔ _
    rw [found]
    split
    · exact Option.some_inj
    · rfl
  exact {
    toSwapTable := agrees.toSwapTable.transport rfl (.inr rfl)
    served := by
      intro place other
      rw [later]
      cases place with
      | registered position =>
          rw [served]
          by_cases here : other = second.endpoint
          · rw [if_pos here, here]
            constructor
            · intro registered
              split at registered
              next isFrom => exact ⟨secondMember, by rw [isFrom]; rfl⟩
              · have stays := ((agrees.served _ _).mp registered).2
                rw [held] at stays
                contradiction
            · rintro ⟨_, place⟩
              rw [if_pos (Place.registered.inj place).symm]
          · rw [if_neg here]
            have samePlace : (if other = endpoint then Stage.committed fromPosition toPosition
                else stage other).place = (stage other).place := by
              split
              next first => rw [first, rekeyed]; rfl
              · rfl
            rw [samePlace, ← agrees.served]
            split
            next isFrom =>
              constructor
              · intro same
                exact absurd same.symm here
              · intro registered
                rw [isFrom] at registered
                exact absurd (isRegistered_iff_served.mpr (by rw [registered]; rfl)) free
            · rfl
      | held =>
          constructor
          · intro none
            contradiction
          · rintro ⟨inside, place⟩
            split at place
            · contradiction
            next notSecond =>
              split at place
              · contradiction
              · have stays := (agrees.served _ _).mpr ⟨inside, place⟩
                rw [servedAt, robotAt, worker] at stays
                exact absurd (Option.some.inj stays).symm notSecond
    acks := by simp only [ack]; exact agrees.acks
    once := agrees.once
    registered := agrees.registered
    acked := by simp only [Waiting, waiting]; exact agrees.acked
    swapping := by
      intro other inside switch leaves
      rw [leaving] at leaves
      rcases agrees.swapping other inside switch leaves with before | opening
      · exact .inl before
      · rw [worker] at opening
        exact absurd opening id
    occupied := by
      intro other inside notCompleting robot robotMember position place involved
      have notBefore : ¬ Completing c.worker other := by
        rw [worker]
        exact notCompleting
      rw [leaving]
      rw [later] at place
      split at place
      · have isFrom : fromPosition = position := Place.registered.inj place
        rw [← isFrom] at involved
        have fromInvolved : involves fromPosition key := by
          rw [← same]
          exact involves_swapKey.mpr (.inl rfl)
        exact absurd (agrees.eq_of_involves table inside fromInvolved involved) notCompleting
      · split at place
        next first =>
          refine agrees.occupied other inside notBefore robot robotMember position ?_ involved
          rw [first, rekeyed]
          exact place
        · exact agrees.occupied other inside notBefore robot robotMember position place involved
    rekeyed := by
      intro other inside switch returnsToo
      rw [later] at returnsToo
      split at returnsToo
      · cases returnsToo
        exact ⟨rfl, same.symm.trans (swapKey_comm different)⟩
      · split at returnsToo
        · contradiction
        next notFirst =>
          exact absurd (agrees.only_returning member returns inside returnsToo) notFirst
    worker := by
      refine ⟨?_, second.endpoint, secondMember, toPosition, ?_,
        (swapKey_comm different).symm.trans same⟩
      · intro other inside switch leaves
        rw [leaving] at leaves
        exact left other inside switch leaves
      · rw [later, if_pos rfl]
        rfl }

end Commits

section Requests

variable {fromPosition toPosition : Position} {endpoint : String} {request : Request}

theorem waiting_asked (member : endpoint ∈ config.endpoints)
    (free : stage endpoint = .free fromPosition) (switch : Position × Position) :
    Waiting config (Function.update stage endpoint (.asked fromPosition toPosition)) switch ↔
      switch = (fromPosition, toPosition) ∨ Waiting config stage switch := by
  constructor
  · rintro ⟨other, inside, waits⟩
    by_cases here : other = endpoint
    · rw [here, Function.update_self] at waits
      exact .inl (Option.some.inj waits).symm
    · rw [Function.update_of_ne here] at waits
      exact .inr ⟨other, inside, waits⟩
  · rintro (rfl | ⟨other, inside, waits⟩)
    · exact ⟨endpoint, member, by rw [Function.update_self]; rfl⟩
    · refine ⟨other, inside, ?_⟩
      rw [Function.update_of_ne]
      · exact waits
      · rintro rfl
        rw [free] at waits
        contradiction

theorem leaving_asked (stage : String → Stage) (endpoint : String)
    (fromPosition toPosition : Position) (other : String) :
    (Function.update stage endpoint (.asked fromPosition toPosition) other).leaving =
      if other = endpoint then some (fromPosition, toPosition) else (stage other).leaving := by
  rw [Function.update_apply]
  split <;> rfl

/-- A swap that does not involve `fromPosition` waits for whom it waited. -/
theorem Agrees.acked_asked (agrees : Agrees config c stage) (member : endpoint ∈ config.endpoints)
    (free : stage endpoint = .free fromPosition)
    (opening : ∀ key ∈ swapKeys c, ¬ involves fromPosition key)
    {entry : SwapKey × SwapState} (inside : entry ∈ c.pendingSwaps) {first second : Position}
    (same : swapKey first second = entry.1) :
    ackFrom entry first = true ↔
      ¬ Waiting config (Function.update stage endpoint (.asked fromPosition toPosition))
        (first, second) := by
  rw [waiting_asked member free, agrees.acked entry inside first second same]
  have other : (first, second) ≠ (fromPosition, toPosition) := by
    intro equal
    cases equal
    refine opening entry.1 (List.mem_map_of_mem inside) ?_
    rw [← same]
    exact involves_swapKey.mpr (.inl rfl)
  simp [other]

theorem Agrees.switches_first (agrees : Agrees config c stage)
    (worker : c.worker = .switchingFirst request fromPosition toPosition)
    (member : endpoint ∈ config.endpoints) (free : stage endpoint = .free fromPosition)
    (registered : isRegistered c toPosition) :
    Agrees config (setWorker c (.switchingSecond request fromPosition toPosition))
      (Function.update stage endpoint (.asked fromPosition toPosition)) := by
  have opening : ∀ key ∈ swapKeys c, ¬ involves fromPosition key := by
    refine agrees.opening fromPosition ?_
    rw [worker]
    exact List.mem_cons_self
  have targets := agrees.worker
  rw [worker] at targets
  have place := view_update stage endpoint (.asked fromPosition toPosition) Stage.place
    (by rw [free]; rfl)
  have ack := view_update stage endpoint (.asked fromPosition toPosition) Stage.ack
    (by rw [free]; rfl)
  have returning := view_update stage endpoint (.asked fromPosition toPosition) Stage.returning
    (by rw [free]; rfl)
  exact {
    toSwapTable := agrees.toSwapTable.transport rfl (.inl (by rw [worker]; rfl))
    served := by
      intro served other
      rw [place, ← agrees.served]
      cases served with
      | registered position => rfl
      | held => simp [servedAt, robotAt, setWorker, worker]
    acks := by simp only [ack]; exact agrees.acks
    once := agrees.once
    registered := agrees.registered
    acked := fun entry inside first second same =>
      agrees.acked_asked member free opening inside same
    swapping := by
      intro other inside switch leaves
      rw [leaving_asked] at leaves
      split at leaves
      · exact .inr (Option.some.inj leaves)
      · rcases agrees.swapping other inside switch leaves with before | opened
        · exact .inl before
        · rw [worker] at opened
          exact absurd opened id
    occupied := by
      intro key inside _ other otherMember position there involved
      rw [place] at there
      rw [leaving_asked]
      split
      next here =>
        rw [here, free] at there
        have same : fromPosition = position := Place.registered.inj there
        exact absurd (same ▸ involved) (opening key inside)
      · refine agrees.occupied key inside ?_ other otherMember position there involved
        rw [worker]
        exact id
    rekeyed := by
      intro other inside switch returns
      rw [returning] at returns
      have before := agrees.rekeyed other inside switch returns
      rw [worker] at before
      exact absurd before id
    worker := ⟨registered, targets.2.2 registered, (waiting_asked member free _).mpr (.inl rfl)⟩ }

theorem Agrees.adds (agrees : Agrees config c stage) {first second : Position}
    {acknowledged : Bool} (member : endpoint ∈ config.endpoints)
    (free : stage endpoint = .free fromPosition)
    (opens_ : opens c.worker = [first, second])
    (same : (fromPosition, toPosition) = (first, second) ∨
      (fromPosition, toPosition) = (second, first))
    (waits : Waiting config (Function.update stage endpoint (.asked fromPosition toPosition))
      (first, second))
    (acks : acknowledged = true ↔ ¬ Waiting config
      (Function.update stage endpoint (.asked fromPosition toPosition)) (second, first))
    (others : ∀ other ∈ config.endpoints, other ≠ endpoint → ∀ position,
      position = first ∨ position = second → (stage other).place = .registered position →
        ∃ switch, (stage other).leaving = some switch ∧
          swapKey switch.1 switch.2 = swapKey first second)
    (opened : ∀ switch, Opening c.worker switch → switch = (first, second))
    (notCompleting : ∀ key, ¬ Completing c.worker key)
    (notCommitting : ∀ switch, ¬ CommitsTo c.worker switch)
    (notHeld : robotAt c .held = none) :
    Agrees config (setWorker (addSwap c first second acknowledged) (.choosing request))
      (Function.update stage endpoint (.asked fromPosition toPosition)) := by
  have distinct : first ≠ second := by
    have different := agrees.different
    rw [opens_] at different
    simpa using different
  have opening : ∀ key ∈ swapKeys c, ¬ involves fromPosition key := by
    refine agrees.opening fromPosition ?_
    rw [opens_]
    rcases same with same | same <;> cases same <;> simp
  have keys : swapKeys (setWorker (addSwap c first second acknowledged) (.choosing request)) =
      swapKeys c ++ [swapKey first second] := List.map_append
  have key : swapKey fromPosition toPosition = swapKey first second := by
    rcases same with same | same <;> cases same
    · rfl
    · exact swapKey_comm distinct.symm
  have place := view_update stage endpoint (.asked fromPosition toPosition) Stage.place
    (by rw [free]; rfl)
  have ack := view_update stage endpoint (.asked fromPosition toPosition) Stage.ack
    (by rw [free]; rfl)
  have returning := view_update stage endpoint (.asked fromPosition toPosition) Stage.returning
    (by rw [free]; rfl)
  exact {
    toSwapTable := agrees.toSwapTable.add first second opens_ keys rfl
    served := by
      intro served other
      rw [place, ← agrees.served]
      cases served with
      | registered position => rfl
      | held =>
          rw [servedAt, servedAt, notHeld]
          rfl
    acks := by simp only [ack]; exact agrees.acks
    once := agrees.once
    registered := agrees.registered
    acked := by
      intro entry inside left right under
      rcases List.mem_append.mp inside with before | new
      · exact agrees.acked_asked member free opening before under
      · have added := List.mem_singleton.mp new
        rw [added] at under ⊢
        obtain ⟨atFirst, atSecond⟩ := ackFrom_newSwap acknowledged distinct
        have sameKey : swapKey (left, right).1 (left, right).2 = _ := under
        rcases eq_or_reverse_of_swapKey sameKey with equal | equal
        · cases equal
          simp [atFirst, waits]
        · cases equal
          rw [atSecond]
          exact acks
    swapping := by
      intro other inside switch leaves
      rw [keys]
      rw [leaving_asked] at leaves
      split at leaves
      · cases leaves
        exact .inl (List.mem_append_right _ (by rw [key]; exact List.mem_singleton_self _))
      · rcases agrees.swapping other inside switch leaves with before | opened'
        · exact .inl (List.mem_append_left _ before)
        · rw [opened switch opened']
          exact .inl (List.mem_append_right _ (List.mem_singleton_self _))
    occupied := by
      intro other inside _ robot robotMember position there involved
      rw [keys] at inside
      rw [place] at there
      rw [leaving_asked]
      rcases List.mem_append.mp inside with before | new
      · split
        next here =>
          rw [here, free] at there
          have equal : fromPosition = position := Place.registered.inj there
          exact absurd (equal ▸ involved) (opening other before)
        · exact agrees.occupied other before (notCompleting other) robot robotMember position there
            involved
      · rw [List.mem_singleton.mp new] at involved ⊢
        split
        · exact ⟨_, rfl, key⟩
        next elsewhere =>
          exact others robot robotMember elsewhere position (involves_swapKey.mp involved) there
    rekeyed := by
      intro other inside switch returns
      rw [returning] at returns
      exact absurd (agrees.rekeyed other inside switch returns) (notCommitting switch)
    worker := trivial }

theorem Agrees.switches_only (agrees : Agrees config c stage)
    (worker : c.worker = .switchingFirst request fromPosition toPosition)
    (member : endpoint ∈ config.endpoints) (free : stage endpoint = .free fromPosition)
    (alone : ¬ isRegistered c toPosition) :
    Agrees config (setWorker (addSwap c fromPosition toPosition true) (.choosing request))
      (Function.update stage endpoint (.asked fromPosition toPosition)) := by
  have nobody : ∀ other ∈ config.endpoints, (stage other).place ≠ .registered toPosition :=
    fun other inside there => alone (agrees.isRegistered_iff.mpr ⟨other, inside, there⟩)
  have distinct : fromPosition ≠ toPosition := by
    have different := agrees.different
    rw [worker] at different
    simpa [opens] using different
  refine agrees.adds member free (by rw [worker]; rfl) (.inl rfl)
    ((waiting_asked member free _).mpr (.inl rfl)) ?_ ?_ ?_ ?_ ?_ ?_
  · rw [waiting_asked member free]
    refine iff_of_true rfl ?_
    rintro (same | ⟨other, inside, waits⟩)
    · exact distinct (congrArg Prod.snd same)
    · exact nobody other inside (Stage.place_of_leaving (Stage.leaving_of_waiting waits))
  · rintro other inside elsewhere position (rfl | rfl) there
    · refine absurd (agrees.unique inside member ?_) elsewhere
      rw [there, free]
      rfl
    · exact absurd there (nobody other inside)
  · rw [worker]
    exact fun _ => False.elim
  · rw [worker]
    exact fun _ => id
  · rw [worker]
    exact fun _ => id
  · simp [robotAt, worker]

theorem Agrees.switches_second (agrees : Agrees config c stage)
    (worker : c.worker = .switchingSecond request fromPosition toPosition)
    (member : endpoint ∈ config.endpoints) (free : stage endpoint = .free toPosition) :
    Agrees config (setWorker (addSwap c fromPosition toPosition false) (.choosing request))
      (Function.update stage endpoint (.asked toPosition fromPosition)) := by
  have agreed := agrees.worker
  rw [worker] at agreed
  obtain ⟨_, _, first, firstMember, waits⟩ := agreed
  refine agrees.adds member free (by rw [worker]; rfl) (.inr rfl)
    ((waiting_asked member free _).mpr (.inr ⟨first, firstMember, waits⟩)) ?_ ?_ ?_ ?_ ?_ ?_
  · rw [waiting_asked member free]
    simp
  · rintro other inside elsewhere position (rfl | rfl) there
    · have same : other = first := agrees.unique inside firstMember (by
        rw [there, Stage.place_of_leaving (Stage.leaving_of_waiting waits)])
      exact ⟨_, same ▸ Stage.leaving_of_waiting waits, rfl⟩
    · refine absurd (agrees.unique inside member ?_) elsewhere
      rw [there, free]
      rfl
  · intro switch opened
    rw [worker] at opened
    exact opened.symm
  · rw [worker]
    exact fun _ => id
  · rw [worker]
    exact fun _ => id
  · simp [robotAt, worker]

end Requests

end CpsKitchen.Rearrangement
