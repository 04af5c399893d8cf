import CpsKitchen.RobotAgent.TravelTime

/-!
# One commit for one rearrangement

`commit_new_position` is answered with what the server thread reads, the handler
it posts changes that only later. Every call that comes in between is accepted
too. Where there is none, the handler ends the rearrangement it was posted for.
-/

namespace CpsKitchen.RobotAgent

open CpsKitchen.Reactive CpsKitchen.Recipes

set_option autoImplicit false

variable {config : Config} {r after : Robot} {event : Event} {outputs : List Output}

/-- The methods of an adaptation that were answered with true. -/
inductive Adaptation
  | switched
  | committed
  | reconfigured
  deriving DecidableEq

def adaptation? : Event × List Output → Option Adaptation
  | (.switchPosition _ _, [.result true]) => some .switched
  | (.commitNewPosition, [.result true]) => some .committed
  | (.reconfigure _ _, [.result true]) => some .reconfigured
  | _ => none

def acceptedAdaptations (history : History Event Output) : List Adaptation :=
  history.filterMap adaptation?

theorem acceptedAdaptations_step (history : History Event Output) (event : Event)
    (outputs : List Output) :
    acceptedAdaptations (history ++ [(event, outputs)]) =
      acceptedAdaptations history ++ (adaptation? (event, outputs)).toList := by
  rw [acceptedAdaptations, List.filterMap_append]
  cases accepted : adaptation? (event, outputs) with
  | none => rw [List.filterMap_cons_none accepted]; rfl
  | some adaptation => rw [List.filterMap_cons_some accepted]; rfl

/-- What a step does to the adaptation the robot is in. -/
inductive Adapts (r : Robot) (event : Event) (outputs : List Output) (after : Robot) : Prop where
  | switches (accepted : adaptation? (event, outputs) = some .switched)
      (available : r.robotState = .available)
      (uncommitted : .handleNewPositionCommit ∈ after.posted → .handleNewPositionCommit ∈ r.posted)
  | commits (called : event = .commitNewPosition)
      (accepted : adaptation? (event, outputs) = some .committed)
      (rearranging : r.robotState = .rearranging)
      (posted : .handleNewPositionCommit ∈ after.posted)
  | reconfigures (accepted : adaptation? (event, outputs) = some .reconfigured)
      (available : r.robotState = .available) (reconfiguring : after.robotState = .reconfiguring)
      (uncommitted : .handleNewPositionCommit ∈ after.posted → .handleNewPositionCommit ∈ r.posted)
  | ends (silent : adaptation? (event, outputs) = none)
      (posted : .handleNewPositionCommit ∈ r.posted)
      (available : after.robotState = .available)
      (uncommitted : .handleNewPositionCommit ∈ after.posted → .handleNewPositionCommit ∈ r.posted)
  | goesOn (silent : adaptation? (event, outputs) = none)
      (robotState : after.robotState = .rearranging → r.robotState = .rearranging)
      (uncommitted : .handleNewPositionCommit ∈ after.posted ↔
        .handleNewPositionCommit ∈ r.posted)

theorem SameTravel.adapts (same : SameTravel r after)
    (silent : adaptation? (event, outputs) = none) : Adapts r event outputs after :=
  .goesOn silent (fun rearranging => same.robotState.symm.trans rearranging) same.committing

theorem handles_adapts {capability : String} {handler : Handler} {posted : List Handler}
    (next : r.posted = handler :: posted)
    (ran : Handles config (takeHandler r posted) capability handler after outputs) :
    Adapts r (.runHandler capability) outputs after := by
  have silent : adaptation? (.runHandler capability, outputs) = none := rfl
  have taken : SameTravel (takeHandler r posted) after → handler ≠ .handleNewPositionCommit →
      Adapts r (.runHandler capability) outputs after := by
    intro same notCommit
    refine .goesOn silent (fun rearranging => same.robotState.symm.trans rearranging) ?_
    rw [same.committing, next]
    simp [takeHandler, notCommit.symm]
  cases ran with
  | taskForgotten | postponed => exact taken (sameTravel_refl _) (by simp)
  | taskQueued | entered | aborted =>
      exact taken (sameTravel_of_posted rfl rfl rfl rfl rfl) (by simp)
  | targeted newPosition =>
      refine .goesOn silent (fun rearranging => rearranging) ?_
      simp [next, target, takeHandler]
  | rearranges newPosition =>
      have same : SameTravel (target (takeHandler r posted) newPosition)
          (handleSwitchPosition config (target (takeHandler r posted) newPosition)) :=
        handleSwitchPosition_sameTravel _
      refine .goesOn silent (fun rearranging => same.robotState.symm.trans rearranging) ?_
      rw [same.committing]
      simp [next, target, takeHandler]
  | reconfigures => exact taken (handleReconfiguration_sameTravel _) (by simp)
  | committed =>
      refine .ends silent (by simp [next]) rfl ?_
      intro member
      rw [next]
      exact List.mem_cons_of_mem _ member
  | retooled =>
      exact taken ((determineNextAction_sameTravel _).from_same rfl rfl rfl rfl rfl) (by simp)
  | ticked => exact taken ((armTimer_sameTravel _ _ _).from_same rfl rfl rfl rfl rfl) (by simp)
  | performed =>
      exact taken ((determineNextAction_sameTravel _).from_same rfl rfl rfl rfl rfl) (by simp)
  | moved =>
      refine .goesOn silent (fun rearranging => rearranging) ?_
      simp [next, moveToNewPosition, takeHandler]
  | completed completion =>
      obtain ⟨capabilities, action, requeued, _, _, _, loop, rfl⟩ :=
        completeReconfiguration_cases completion
      obtain ⟨_, _, _, _, _, rfl, _⟩ := recalculateOrderQueue_refills _ loop
      have posted : .handleNewPositionCommit ∈ posted ↔ .handleNewPositionCommit ∈ r.posted := by
        simp [next]
      split
      · exact .goesOn silent (fun rearranging => rearranging) posted
      · exact .goesOn silent (by simp [finishReconfiguration]) posted

theorem step_adapts (step : Step config r event after outputs) :
    Adapts r event outputs after := by
  cases step with
  | refused refusal => cases refusal <;> exact (sameTravel_refl r).adapts rfl
  | taskAccepted => exact (post_sameTravel rfl (by simp)).adapts rfl
  | handedOver =>
      have posted : SameTravel (releaseDish r) (post (releaseDish r) .cookNextOrder) :=
        post_sameTravel rfl (by simp)
      refine SameTravel.adapts ?_ rfl
      exact posted.from_same rfl rfl rfl rfl rfl
  | switchAccepted newPosition unlocked positive onBelt elsewhere available =>
      exact .switches rfl available (by simp [post, startAdaptation])
  | commitAccepted unlocked rearranging => exact .commits rfl rfl rearranging (by simp [post])
  | reconfigureAccepted profile capabilities unlocked parsed different available =>
      exact .reconfigures rfl available rfl (by simp [post, startAdaptation])
  | handled capability handler posted idle next ran => exact handles_adapts next ran
  | locked waiting unlocked ran => exact (cooks_sameTravel ran).adapts rfl
  | notifyFailed | notified | conveyorLost | conveyorConnected | renotifyFailed | renotified =>
      refine SameTravel.adapts ?_ rfl
      exact sameTravel_of_posted rfl rfl rfl rfl rfl
  | expired wait armed =>
      have posted : SameTravel { r with steadyTimer := none }
          (post { r with steadyTimer := none } (.timerCompleted wait.task)) :=
        post_sameTravel rfl (by simp)
      refine SameTravel.adapts ?_ rfl
      exact posted.from_same rfl rfl rfl rfl rfl

/-- Every commit directly follows the switch it is for. -/
def CommitsFollowSwitches (adaptations : List Adaptation) : Prop :=
  ∀ earlier later, adaptations = earlier ++ .committed :: later → earlier.getLast? = some .switched

theorem CommitsFollowSwitches.append {adaptations : List Adaptation} {adaptation : Adaptation}
    (follow : CommitsFollowSwitches adaptations)
    (last : adaptation = .committed → adaptations.getLast? = some .switched) :
    CommitsFollowSwitches (adaptations ++ [adaptation]) := by
  intro earlier later split
  rcases List.eq_nil_or_concat later with rfl | ⟨front, final, rfl⟩
  · obtain ⟨same, called⟩ := List.append_inj' split rfl
    rw [← same]
    exact last (List.singleton_inj.mp called)
  · have regrouped : adaptations ++ [adaptation] = (earlier ++ .committed :: front) ++ [final] := by
      rw [split]
      simp
    exact follow earlier front (List.append_inj' regrouped rfl).1

/-- The accepted calls tell which adaptation the robot is in. -/
structure Committed (adaptations : List Adaptation) (r : Robot) : Prop where
  follow : CommitsFollowSwitches adaptations
  rearranging : r.robotState = .rearranging → .handleNewPositionCommit ∉ r.posted →
    adaptations.getLast? = some .switched
  committing : .handleNewPositionCommit ∈ r.posted → adaptations.getLast? = some .committed

theorem initial_committed (started : Started config r) : Committed [] r := by
  obtain ⟨position, _, capabilities, _, action, _, _, _, rfl⟩ := started
  constructor
  · intro earlier later split
    simp at split
  · simp [initial]
  · simp [initial]

theorem OneDriver.rearranging_of_commit (one : OneDriver r)
    (posted : .handleNewPositionCommit ∈ r.posted) :
    r.robotState = .rearranging ∧ r.attributes.newPositionCommitIsPending = true := by
  have pending := one.committing posted
  exact ⟨(one.rearranging (one.moving (.inr pending))).1, pending⟩

theorem Adapts.committed {adaptations : List Adaptation} (committed : Committed adaptations r)
    (one : OneDriver r) (permitted : CommitsOnce r event)
    (adapts : Adapts r event outputs after) :
    Committed (adaptations ++ (adaptation? (event, outputs)).toList) after := by
  have notCommitting : r.robotState = .available → .handleNewPositionCommit ∉ r.posted := by
    intro available posted
    have rearranging := (one.rearranging_of_commit posted).1
    rw [available] at rearranging
    contradiction
  cases adapts with
  | switches accepted available uncommitted =>
      rw [accepted]
      refine ⟨committed.follow.append (by simp), fun _ _ => List.getLast?_concat, ?_⟩
      intro posted
      exact absurd (uncommitted posted) (notCommitting available)
  | commits called accepted rearranging posted =>
      rw [accepted]
      have first := committed.rearranging rearranging (permitted called)
      exact ⟨committed.follow.append (fun _ => first), fun _ notPosted => absurd posted notPosted,
        fun _ => List.getLast?_concat⟩
  | reconfigures accepted available reconfiguring uncommitted =>
      rw [accepted]
      refine ⟨committed.follow.append (by simp), ?_, ?_⟩
      · intro rearranging
        rw [reconfiguring] at rearranging
        contradiction
      · intro posted
        exact absurd (uncommitted posted) (notCommitting available)
  | ends silent posted available uncommitted =>
      rw [silent, Option.toList_none, List.append_nil]
      refine ⟨committed.follow, ?_, fun still => committed.committing (uncommitted still)⟩
      intro rearranging
      rw [available] at rearranging
      contradiction
  | goesOn silent robotState uncommitted =>
      rw [silent, Option.toList_none, List.append_nil]
      refine ⟨committed.follow, ?_, fun still => committed.committing (uncommitted.mp still)⟩
      intro rearranging notPosted
      exact committed.rearranging (robotState rearranging) (mt uncommitted.mpr notPosted)

theorem reaches_committed {history : History Event Output}
    (reached : (machine config).Reaches CommitsOnce history r) :
    Committed (acceptedAdaptations history) r := by
  induction reached with
  | start started => exact initial_committed started
  | step earlier permitted taken committed =>
      rw [acceptedAdaptations_step]
      exact (step_adapts (step_cases taken).2).committed committed (reaches_oneDriver earlier)
        permitted

/-- No dish is worked on and none waits to be picked up. -/
def EmptyHanded (r : Robot) : Prop := ¬ Cooking r ∧ r.attributes.recipeId = 0

theorem OneDriver.emptyHanded (one : OneDriver r) (resting : r.attributes.recipeId = 0) :
    EmptyHanded r := ⟨fun cooking => one.cooking cooking resting, resting⟩

/-- A pending commit is the only thing the robot waits for. -/
theorem OneDriver.emptyHanded_of_commit (one : OneDriver r)
    (pending : r.attributes.newPositionCommitIsPending = true) : EmptyHanded r := by
  refine one.emptyHanded ?_
  by_contra cooking
  have alone := one.single
  rw [outstanding, pending, Bool.toNat_true] at alone
  have quiet : ∀ task, ¬ TimerOutstanding r task := by
    rintro task (armed | due)
    · cases wait : r.steadyTimer with
      | none => simp [wait] at armed
      | some wait' =>
          rw [wait, Option.isSome_some, Bool.toNat_true] at alone
          omega
    · have driving : 0 < r.posted.countP Handler.drives := List.countP_pos_iff.mpr ⟨_, due, rfl⟩
      omega
  obtain ⟨_, retooling | performing | notifying | waiting⟩ := one.inProcess cooking
  · exact quiet _ retooling
  · exact quiet _ performing
  · simp only [isNotifying, notifying, decide_true, Bool.toNat_true] at alone
    omega
  · rw [waiting, Bool.toNat_true] at alone
    omega

/-- As long as no commit is called while the handler of an accepted one waits,
one commit is accepted for one switch. Its handler then runs empty-handed and
ends the rearrangement that was asked for last, and an order is taken only with
no other in process. -/
theorem rearrangement_committed_once (config : Config) (history : History Event Output)
    (r : Robot) (reached : (machine config).Reaches CommitsOnce history r) :
    CommitsFollowSwitches (acceptedAdaptations history) ∧
    (.handleNewPositionCommit ∈ r.posted →
      (acceptedAdaptations history).getLast? = some .committed ∧ r.robotState = .rearranging ∧
        r.attributes.newPositionCommitIsPending = true ∧ EmptyHanded r) ∧
    (r.worker = .cookNextOrder → EmptyHanded r) ∧
    ∀ after, step config r .commitNewPosition = some (after, [.result true]) →
      (CommitsFollowSwitches
          (acceptedAdaptations (history ++ [(.commitNewPosition, [.result true])])) ↔
        CommitsOnce r .commitNewPosition) := by
  have one := reaches_oneDriver reached
  have committed := reaches_committed reached
  refine ⟨committed.follow, ?_, fun entered => one.emptyHanded (one.entering entered).1, ?_⟩
  · intro posted
    obtain ⟨rearranging, pending⟩ := one.rearranging_of_commit posted
    exact ⟨committed.committing posted, rearranging, pending, one.emptyHanded_of_commit pending⟩
  · intro after taken
    rw [acceptedAdaptations_step]
    constructor
    · intro follow _ posted
      have last := follow _ [] rfl
      rw [committed.committing posted] at last
      contradiction
    · intro once
      refine committed.follow.append (fun _ => ?_)
      have rearranging : r.robotState = .rearranging := by
        cases step_adapts (step_cases taken).2 with
        | commits called accepted rearranging => exact rearranging
        | switches accepted | reconfigures accepted => contradiction
        | ends silent | goesOn silent => contradiction
      exact committed.rearranging rearranging (once rfl)

/-- The mixing robot moves to position 2 and is told to commit. -/
theorem mixing_robot_committed_once :
    ∃ history r, (machine deployment).Reaches CommitsOnce history r ∧
      acceptedAdaptations history = [.switched, .committed] ∧
      .handleNewPositionCommit ∈ r.posted ∧
      CommitsFollowSwitches (acceptedAdaptations history) ∧ EmptyHanded r := by
  obtain ⟨history, r, reached, shown⟩ := Machine.exists_reaches_of_replay
    (machine deployment) CommitsOnce mixingRobot_started
    [.switchPosition 2 true, .runHandler "whip", .timerExpires, .runHandler "whip",
     .commitNewPosition]
    (fun history r => decide (acceptedAdaptations history = [.switched, .committed] ∧
      .handleNewPositionCommit ∈ r.posted)) (by decide)
  obtain ⟨adaptations, posted⟩ := of_decide_eq_true shown
  obtain ⟨follow, ends, _⟩ := rearrangement_committed_once deployment history r reached
  exact ⟨history, r, reached, adaptations, posted, follow, (ends posted).2.2.2⟩

/-- Two calls are answered with true for one switch. The handler of the second
one runs when the first order is in process, and the second order replaces it. -/
theorem second_commit_replaces_dish :
    ∃ history r after, (machine deployment).Reaches (fun _ _ => True) history r ∧
      ¬ CommitsFollowSwitches (acceptedAdaptations history) ∧
      r.worker = .cookNextOrder ∧ ¬ EmptyHanded r ∧ r.dishInProcess = 1 ∧
      step deployment r .cookNextOrder = some (after, []) ∧ after.dishInProcess = 2 := by
  obtain ⟨history, r, after, outputs, reached, taken, shown⟩ := Machine.exists_step_of_replay
    (machine deployment) (fun _ _ => True) mixingRobot_started
    [.receiveTask ⟨3, 0, 1⟩ 3, .receiveTask ⟨3, 0, 2⟩ 3, .switchPosition 2 true,
     .runHandler "whip", .cookNextOrder, .runHandler "whip", .cookNextOrder, .runHandler "whip",
     .timerExpires, .runHandler "whip", .commitNewPosition, .commitNewPosition,
     .runHandler "whip", .cookNextOrder, .runHandler "whip"] .cookNextOrder
    (fun history r after outputs => decide (outputs = [] ∧
      acceptedAdaptations history = [.switched, .committed, .committed] ∧
      r.worker = .cookNextOrder ∧ r.attributes.recipeId ≠ 0 ∧ r.dishInProcess = 1 ∧
      after.dishInProcess = 2)) (by decide)
  obtain ⟨rfl, adaptations, entered, cooking, first, second⟩ := of_decide_eq_true shown
  refine ⟨history, r, after, reached, ?_, entered, fun empty => cooking empty.2, first, taken,
    second⟩
  intro follow
  have last := follow [.switched, .committed] [] adaptations
  contradiction

end CpsKitchen.RobotAgent
