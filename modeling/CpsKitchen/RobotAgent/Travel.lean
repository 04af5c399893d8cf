import CpsKitchen.RobotAgent.OneDriver

/-!
# The phases of a rearrangement

A robot that was told to switch its position heads for the new one, arrives
there and publishes it, and stays unavailable until its commit was handled.
Its own steps take it from one phase to the next and never back.
-/

namespace CpsKitchen.RobotAgent

open CpsKitchen.Reactive CpsKitchen.Recipes

set_option autoImplicit false

variable {config : Config} {r after : Robot} {event : Event} {outputs : List Output}

inductive Phase
  | settled
  | heading (newPosition : Position)
  | arrived
  | committing

def Handler.target? : Handler → Option Position
  | .switchPosition newPosition => some newPosition
  | _ => none

def postedTargets (r : Robot) : List Position := r.posted.filterMap Handler.target?

/-- A robot that heads for a position has it in a posted handler or, once that
has run, in `new_target_position_`. -/
def InPhase (r : Robot) : Phase → Prop
  | .settled => r.robotState ≠ .rearranging
  | .heading newPosition =>
      r.robotState = .rearranging ∧ r.attributes.newPositionCommitIsPending = false ∧
        (postedTargets r = [newPosition] ∨
          postedTargets r = [] ∧ r.newTargetPosition = newPosition)
  | .arrived =>
      r.robotState = .rearranging ∧ r.attributes.newPositionCommitIsPending = true ∧
        .handleNewPositionCommit ∉ r.posted
  | .committing =>
      r.robotState = .rearranging ∧ r.attributes.newPositionCommitIsPending = true ∧
        .handleNewPositionCommit ∈ r.posted

def writesPosition (r : Robot) : Event → Bool
  | .runHandler _ => r.posted.head? = some (.timerCompleted .moveToNewPosition)
  | _ => false

def Event.isAdaptation : Event → Bool
  | .switchPosition _ _ | .commitNewPosition | .reconfigure _ _ => true
  | _ => false

section SameTravel

/-- Nothing of the rearrangement differs. -/
structure SameTravel (r after : Robot) : Prop where
  position : after.position = r.position
  robotState : after.robotState = r.robotState
  commit : after.attributes.newPositionCommitIsPending = r.attributes.newPositionCommitIsPending
  target : after.newTargetPosition = r.newTargetPosition
  targets : postedTargets after = postedTargets r
  committing : .handleNewPositionCommit ∈ after.posted ↔ .handleNewPositionCommit ∈ r.posted

theorem SameTravel.inPhase (same : SameTravel r after) {phase : Phase} (inPhase : InPhase r phase) :
    InPhase after phase := by
  cases phase with
  | settled =>
      rw [InPhase, same.robotState]
      exact inPhase
  | heading newPosition =>
      rw [InPhase, same.robotState, same.commit, same.targets, same.target]
      exact inPhase
  | arrived | committing =>
      rw [InPhase, same.robotState, same.commit, same.committing]
      exact inPhase

theorem SameTravel.trans {middle : Robot} (first : SameTravel r middle)
    (second : SameTravel middle after) : SameTravel r after where
  position := second.position.trans first.position
  robotState := second.robotState.trans first.robotState
  commit := second.commit.trans first.commit
  target := second.target.trans first.target
  targets := second.targets.trans first.targets
  committing := second.committing.trans first.committing

theorem sameTravel_of_posted (position : after.position = r.position)
    (robotState : after.robotState = r.robotState)
    (commit : after.attributes.newPositionCommitIsPending =
      r.attributes.newPositionCommitIsPending)
    (target : after.newTargetPosition = r.newTargetPosition)
    (posted : after.posted = r.posted) : SameTravel r after where
  position := position
  robotState := robotState
  commit := commit
  target := target
  targets := by rw [postedTargets, posted, postedTargets]
  committing := by rw [posted]

theorem SameTravel.from_same {middle : Robot} (same : SameTravel middle after)
    (position : middle.position = r.position) (robotState : middle.robotState = r.robotState)
    (commit : middle.attributes.newPositionCommitIsPending =
      r.attributes.newPositionCommitIsPending)
    (target : middle.newTargetPosition = r.newTargetPosition)
    (posted : middle.posted = r.posted) : SameTravel r after :=
  (sameTravel_of_posted position robotState commit target posted).trans same

theorem sameTravel_refl (r : Robot) : SameTravel r r := sameTravel_of_posted rfl rfl rfl rfl rfl

theorem post_sameTravel {handler : Handler} (untargeted : handler.target? = none)
    (notCommit : handler ≠ .handleNewPositionCommit) : SameTravel r (post r handler) where
  position := rfl
  robotState := rfl
  commit := rfl
  target := rfl
  targets := by simp [postedTargets, post, untargeted]
  committing := by simp [post, notCommit.symm]

theorem take_sameTravel {handler : Handler} {posted : List Handler}
    (next : r.posted = handler :: posted) (untargeted : handler.target? = none)
    (notCommit : handler ≠ .handleNewPositionCommit) :
    SameTravel r (takeHandler r posted) where
  position := rfl
  robotState := rfl
  commit := rfl
  target := rfl
  targets := by simp [postedTargets, takeHandler, next, untargeted]
  committing := by simp [takeHandler, next, notCommit.symm]

theorem armTimer_sameTravel (r : Robot) (task : TimerTask) (delay : Nat) :
    SameTravel r (armTimer r task delay) where
  position := rfl
  robotState := rfl
  commit := rfl
  target := rfl
  targets := by
    unfold postedTargets armTimer
    split
    · simp [Handler.target?]
    · rfl
  committing := by
    unfold armTimer
    split
    · simp
    · rfl

theorem determineNextAction_sameTravel (r : Robot) : SameTravel r (determineNextAction r) := by
  have outcome := determineNextAction_cases r
  generalize determineNextAction r = after at outcome
  cases outcome with
  | finished | incapable => exact sameTravel_of_posted rfl rfl rfl rfl rfl
  | retool => exact armTimer_sameTravel r _ _
  | perform =>
      exact (armTimer_sameTravel _ _ _).from_same rfl rfl rfl rfl rfl

theorem handleSwitchPosition_sameTravel (r : Robot) :
    SameTravel r (handleSwitchPosition config r) := by
  unfold handleSwitchPosition
  split
  · exact sameTravel_refl r
  · exact (armTimer_sameTravel _ _ _).from_same rfl rfl rfl rfl rfl

theorem handleReconfiguration_sameTravel (r : Robot) : SameTravel r (handleReconfiguration r) := by
  unfold handleReconfiguration
  split
  · exact sameTravel_refl r
  · exact (armTimer_sameTravel _ _ _).from_same rfl rfl rfl rfl rfl

theorem cooks_sameTravel (cooked : Cooks config r after) : SameTravel r after := by
  have passed : SameTravel r (passLock r) := sameTravel_of_posted rfl rfl rfl rfl rfl
  cases cooked with
  | rearranges => exact passed.trans (handleSwitchPosition_sameTravel _)
  | reconfigures => exact passed.trans (handleReconfiguration_sameTravel _)
  | rests => exact sameTravel_of_posted rfl rfl rfl rfl rfl
  | starts _ nextOrder rest recipe =>
      exact (determineNextAction_sameTravel _).from_same rfl rfl rfl rfl rfl

end SameTravel

section Phases

/-- How a step of its own takes the robot from phase to phase. -/
inductive Travels (r : Robot) (event : Event) (after : Robot) : Phase → Phase → Prop where
  | stays (phase : Phase) (position : after.position = r.position)
      (available : r.robotState = .available → after.robotState = .available)
      (silent : writesPosition r event = false) : Travels r event after phase phase
  | moves (newPosition : Position) (position : after.position = newPosition)
      (published : after.attributes.position = newPosition)
      (writes : writesPosition r event = true) :
      Travels r event after (.heading newPosition) .arrived
  | settles (position : after.position = r.position)
      (available : after.robotState = .available) (silent : writesPosition r event = false) :
      Travels r event after .committing .settled

theorem SameTravel.travels (same : SameTravel r after) {phase : Phase} (inPhase : InPhase r phase)
    (silent : writesPosition r event = false) :
    ∃ next, InPhase after next ∧ Travels r event after phase next :=
  ⟨phase, same.inPhase inPhase,
    .stays phase same.position (fun available => same.robotState.trans available) silent⟩

theorem OneDriver.heading_of_target (one : OneDriver r) {phase : Phase} (inPhase : InPhase r phase)
    {newPosition : Position} {posted : List Handler}
    (next : r.posted = .switchPosition newPosition :: posted) :
    phase = .heading newPosition ∧ posted.filterMap Handler.target? = [] := by
  obtain ⟨rearranging, uncommitted⟩ := one.switching (.switchPosition newPosition)
    (by simp [next]) ⟨newPosition, rfl⟩
  have targets : postedTargets r = newPosition :: posted.filterMap Handler.target? := by
    rw [postedTargets, next]
    rfl
  cases phase with
  | settled => exact absurd rearranging inPhase
  | heading other =>
      rcases inPhase.2.2 with only | ⟨none, _⟩
      · rw [targets, List.cons.injEq] at only
        exact ⟨by rw [only.1], only.2⟩
      · rw [targets] at none
        contradiction
  | arrived | committing =>
      have pending := inPhase.2.1
      rw [uncommitted] at pending
      contradiction

theorem target_travels (one : OneDriver r) {phase : Phase} (inPhase : InPhase r phase)
    {newPosition : Position} {posted : List Handler} {capability : String}
    (next : r.posted = .switchPosition newPosition :: posted)
    (same : SameTravel (target (takeHandler r posted) newPosition) after) :
    ∃ later, InPhase after later ∧ Travels r (.runHandler capability) after phase later := by
  obtain ⟨rfl, rest⟩ := one.heading_of_target inPhase next
  have heading : InPhase (target (takeHandler r posted) newPosition) (.heading newPosition) :=
    ⟨inPhase.1, inPhase.2.1, .inr ⟨rest, rfl⟩⟩
  refine ⟨.heading newPosition, same.inPhase heading, .stays _ same.position ?_ ?_⟩
  · exact fun available => same.robotState.trans available
  · simp [writesPosition, next]

theorem commit_travels (one : OneDriver r) {phase : Phase} (inPhase : InPhase r phase)
    {posted : List Handler} {capability : String}
    (next : r.posted = .handleNewPositionCommit :: posted) :
    ∃ later, InPhase (handleNewPositionCommit (takeHandler r posted)) later ∧
      Travels r (.runHandler capability) (handleNewPositionCommit (takeHandler r posted)) phase
        later := by
  have member : .handleNewPositionCommit ∈ r.posted := by simp [next]
  have pending := one.committing member
  have rearranging := (one.rearranging (one.moving (.inr pending))).1
  cases phase with
  | settled => exact absurd rearranging inPhase
  | heading newPosition =>
      have uncommitted := inPhase.2.1
      rw [pending] at uncommitted
      contradiction
  | arrived => exact absurd member inPhase.2.2
  | committing =>
      refine ⟨.settled, ?_, .settles rfl rfl ?_⟩
      · simp [InPhase, handleNewPositionCommit]
      · simp [writesPosition, next]

theorem move_travels (one : OneDriver r) {phase : Phase} (inPhase : InPhase r phase)
    {posted : List Handler} {capability : String}
    (next : r.posted = .timerCompleted .moveToNewPosition :: posted) :
    ∃ later, InPhase (moveToNewPosition (takeHandler r posted)) later ∧
      Travels r (.runHandler capability) (moveToNewPosition (takeHandler r posted)) phase
        later := by
  have due : TimerOutstanding r .moveToNewPosition := .inr (by simp [next])
  have rearranging := (one.rearranging (one.moving (.inl due))).1
  have uncommitted : r.attributes.newPositionCommitIsPending = false :=
    (one.quiet_after_take next rfl).commit
  have notCommitting : .handleNewPositionCommit ∉ r.posted := by
    intro member
    rw [one.committing member] at uncommitted
    contradiction
  have untargeted : postedTargets r = [] := by
    have order := one.switchFirst
    rw [next, List.pairwise_cons] at order
    simp only [postedTargets, next, List.filterMap_eq_nil_iff, List.mem_cons]
    rintro handler (rfl | later)
    · rfl
    · have notSwitch := order.1 handler later rfl
      cases handler with
      | switchPosition newPosition => exact absurd ⟨newPosition, rfl⟩ notSwitch
      | _ => rfl
  cases phase with
  | settled => exact absurd rearranging inPhase
  | heading newPosition =>
      have targeted : r.newTargetPosition = newPosition := by
        rcases inPhase.2.2 with only | ⟨_, targeted⟩
        · rw [untargeted] at only
          contradiction
        · exact targeted
      refine ⟨.arrived, ⟨rearranging, rfl, ?_⟩, .moves newPosition targeted targeted ?_⟩
      · intro member
        refine notCommitting ?_
        rw [next]
        exact List.mem_cons_of_mem _ member
      · simp [writesPosition, next]
  | arrived | committing =>
      have pending := inPhase.2.1
      rw [uncommitted] at pending
      contradiction

theorem completeReconfiguration_travels (one : OneDriver r) {phase : Phase}
    (inPhase : InPhase r phase) {posted : List Handler} {capability : String}
    (next : r.posted = .timerCompleted .completeReconfiguration :: posted)
    (ran : completeReconfiguration config (takeHandler r posted) capability = some after) :
    ∃ later, InPhase after later ∧ Travels r (.runHandler capability) after phase later := by
  have due : TimerOutstanding r .completeReconfiguration := .inr (by simp [next])
  have reconfiguring := (one.reconfiguring (one.equipping due)).1
  have notAvailable : r.robotState ≠ .available := by simp [reconfiguring]
  have settled : phase = .settled := by
    cases phase with
    | settled => rfl
    | heading | arrived | committing =>
        have rearranging := inPhase.1
        rw [reconfiguring] at rearranging
        contradiction
  have silent : writesPosition r (.runHandler capability) = false := by
    simp [writesPosition, next]
  obtain ⟨capabilities, action, requeued, _, _, _, loop, rfl⟩ := completeReconfiguration_cases ran
  obtain ⟨_, _, _, _, _, rfl, _⟩ := recalculateOrderQueue_refills _ loop
  rw [settled]
  split
  · refine ⟨.settled, ?_, .stays _ rfl (fun available => absurd available notAvailable) silent⟩
    exact fun rearranging => absurd (reconfiguring.symm.trans rearranging) (by simp)
  · refine ⟨.settled, ?_, .stays _ rfl (fun available => absurd available notAvailable) silent⟩
    simp [InPhase, finishReconfiguration]

theorem handles_travels (one : OneDriver r) {phase : Phase} (inPhase : InPhase r phase)
    {capability : String} {handler : Handler} {posted : List Handler}
    (next : r.posted = handler :: posted)
    (ran : Handles config (takeHandler r posted) capability handler after outputs) :
    ∃ later, InPhase after later ∧ Travels r (.runHandler capability) after phase later := by
  have silent : handler ≠ .timerCompleted .moveToNewPosition →
      writesPosition r (.runHandler capability) = false := by
    intro other
    simp [writesPosition, next, other]
  cases ran with
  | taskForgotten | postponed =>
      have taken : SameTravel r (takeHandler r posted) := take_sameTravel next rfl (by simp)
      exact taken.travels inPhase (silent (by simp))
  | entered | aborted =>
      have taken : SameTravel r (takeHandler r posted) := take_sameTravel next rfl (by simp)
      refine SameTravel.travels (taken.trans ?_) inPhase (silent (by simp))
      exact sameTravel_of_posted rfl rfl rfl rfl rfl
  | taskQueued task recipe =>
      have taken : SameTravel r (takeHandler r posted) := take_sameTravel next rfl (by simp)
      have queued : SameTravel (takeHandler r posted)
          (queueOrder (takeHandler r posted) task recipe) :=
        sameTravel_of_posted rfl rfl rfl rfl rfl
      exact (taken.trans queued).travels inPhase (silent (by simp))
  | targeted newPosition => exact target_travels one inPhase next (sameTravel_refl _)
  | rearranges newPosition =>
      exact target_travels one inPhase next (handleSwitchPosition_sameTravel _)
  | reconfigures =>
      have taken : SameTravel r (takeHandler r posted) := take_sameTravel next rfl (by simp)
      exact (taken.trans (handleReconfiguration_sameTravel _)).travels inPhase (silent (by simp))
  | committed => exact commit_travels one inPhase next
  | retooled action =>
      have taken : SameTravel r (equip (takeHandler r posted) action.requiredTool) :=
        (take_sameTravel next rfl (by simp)).trans (sameTravel_of_posted rfl rfl rfl rfl rfl)
      exact (taken.trans (determineNextAction_sameTravel _)).travels inPhase (silent (by simp))
  | ticked =>
      have taken : SameTravel r (countDown (takeHandler r posted)) :=
        (take_sameTravel next rfl (by simp)).trans (sameTravel_of_posted rfl rfl rfl rfl rfl)
      exact (taken.trans (armTimer_sameTravel _ _ _)).travels inPhase (silent (by simp))
  | performed action rest =>
      have taken : SameTravel r (countStep (countDown (takeHandler r posted)) rest) :=
        (take_sameTravel next rfl (by simp)).trans (sameTravel_of_posted rfl rfl rfl rfl rfl)
      exact (taken.trans (determineNextAction_sameTravel _)).travels inPhase (silent (by simp))
  | moved => exact move_travels one inPhase next
  | completed ran => exact completeReconfiguration_travels one inPhase next ran

/-- A step of the robot's own moves it at most one phase on. -/
theorem step_travels (one : OneDriver r) {phase : Phase} (inPhase : InPhase r phase)
    (own : event.isAdaptation = false) (step : Step config r event after outputs) :
    ∃ next, InPhase after next ∧ Travels r event after phase next := by
  cases step with
  | refused refusal =>
      have silent : writesPosition r event = false := by
        cases refusal <;> rfl
      exact (sameTravel_refl r).travels inPhase silent
  | taskAccepted => exact (post_sameTravel rfl (by simp)).travels inPhase rfl
  | handedOver =>
      have released : SameTravel r (releaseDish r) := sameTravel_of_posted rfl rfl rfl rfl rfl
      exact (released.trans (post_sameTravel rfl (by simp))).travels inPhase rfl
  | switchAccepted | commitAccepted | reconfigureAccepted => contradiction
  | handled capability handler posted idle next ran => exact handles_travels one inPhase next ran
  | locked waiting unlocked ran => exact (cooks_sameTravel ran).travels inPhase rfl
  | expired wait armed =>
      have unarmed : SameTravel r { r with steadyTimer := none } :=
        sameTravel_of_posted rfl rfl rfl rfl rfl
      exact (unarmed.trans (post_sameTravel rfl (by simp))).travels inPhase rfl
  | notifyFailed | notified | conveyorLost | conveyorConnected | renotified =>
      refine SameTravel.travels ?_ inPhase rfl
      exact sameTravel_of_posted rfl rfl rfl rfl rfl
  | renotifyFailed => exact (sameTravel_refl r).travels inPhase rfl

end Phases

section Published

def Published (r : Robot) : Prop := r.attributes.position = r.position

theorem started_published (started : Started config r) : Published r := by
  obtain ⟨position, _, capabilities, _, action, _, _, _, rfl⟩ := started
  rfl

theorem determineNextAction_published (published : Published r) :
    Published (determineNextAction r) := by
  have outcome := determineNextAction_cases r
  generalize determineNextAction r = after at outcome
  cases outcome with
  | finished | retool | perform | incapable => exact published

theorem handleSwitchPosition_published (published : Published r) :
    Published (handleSwitchPosition config r) := by
  unfold handleSwitchPosition
  split
  · exact published
  · exact published

theorem handleReconfiguration_published (published : Published r) :
    Published (handleReconfiguration r) := by
  unfold handleReconfiguration
  split
  · exact published
  · exact published

theorem handles_published {capability : String} {handler : Handler} (published : Published r)
    (ran : Handles config r capability handler after outputs) : Published after := by
  cases ran with
  | taskForgotten | taskQueued | entered | targeted | postponed | committed | ticked | aborted =>
      exact published
  | rearranges => exact handleSwitchPosition_published published
  | reconfigures => exact handleReconfiguration_published published
  | retooled => exact determineNextAction_published published
  | performed => exact determineNextAction_published published
  | moved => rfl
  | completed ran =>
      obtain ⟨_, _, _, _, _, _, loop, rfl⟩ := completeReconfiguration_cases ran
      obtain ⟨_, _, _, _, _, rfl, _⟩ := recalculateOrderQueue_refills _ loop
      split
      · exact published
      · exact published

theorem step_published (published : Published r) (step : Step config r event after outputs) :
    Published after := by
  cases step with
  | refused | taskAccepted | handedOver | switchAccepted | commitAccepted | reconfigureAccepted
  | expired | notifyFailed | notified | conveyorLost | conveyorConnected | renotified
  | renotifyFailed => exact published
  | handled capability handler posted idle next ran =>
      have taken : Published (takeHandler r posted) := published
      exact handles_published taken ran
  | locked waiting unlocked ran =>
      cases ran with
      | rearranges => exact handleSwitchPosition_published published
      | reconfigures => exact handleReconfiguration_published published
      | rests => exact published
      | starts => exact determineNextAction_published published

end Published

section Adaptations

theorem switch_accepted {newPosition : Position} (one : OneDriver r)
    (available : r.robotState = .available) (positive : 0 < newPosition)
    (onBelt : newPosition ≤ config.conveyorSize - 1) (elsewhere : newPosition ≠ r.position)
    (taken : step config r (.switchPosition newPosition true) = some (after, outputs)) :
    outputs = [.result true] ∧ after.position = r.position ∧
      InPhase after (.heading newPosition) := by
  unfold step at taken
  split at taken
  · simp only [switchPosition] at taken
    rw [if_neg (by push Not; exact ⟨positive, onBelt, elsewhere⟩)] at taken
    split at taken
    · contradiction
    · rw [if_pos ⟨available, trivial⟩] at taken
      cases taken
      refine ⟨rfl, rfl, rfl, ?_, .inl ?_⟩
      · by_contra pending
        have rearranging := (one.rearranging (one.moving (.inr (Bool.not_eq_false _ ▸ pending)))).1
        rw [available] at rearranging
        contradiction
      · have untargeted : r.posted.filterMap Handler.target? = [] := by
          rw [List.filterMap_eq_nil_iff]
          intro handler member
          cases handler with
          | switchPosition other =>
              have rearranging := (one.switching _ member ⟨other, rfl⟩).1
              rw [available] at rearranging
              contradiction
          | _ => rfl
        simp only [postedTargets, post, startAdaptation, List.filterMap_append, untargeted]
        rfl
  · contradiction

theorem commit_accepted (arrived : InPhase r .arrived)
    (taken : step config r .commitNewPosition = some (after, outputs)) :
    outputs = [.result true] ∧ after.position = r.position ∧ InPhase after .committing := by
  obtain ⟨rearranging, pending, _⟩ := arrived
  unfold step at taken
  split at taken
  · simp only [commitNewPosition] at taken
    split at taken
    · contradiction
    · rw [if_neg (by simp [rearranging, pending])] at taken
      cases taken
      exact ⟨rfl, rfl, rearranging, pending, List.mem_append_right _ (List.mem_singleton_self _)⟩
  · contradiction

/-- A robot that reconfigures was available, and does not travel. -/
theorem reconfigure_settled {profile : String} {availabilityWritten : Bool}
    (step : Step config r (.reconfigure profile availabilityWritten) after outputs) :
    outputs = [.result false] ∧ after = r ∨
      outputs = [.result true] ∧ r.robotState = .available ∧ after.position = r.position ∧
        InPhase after .settled := by
  cases step with
  | refused refusal =>
      cases refusal
      exact .inl ⟨rfl, rfl⟩
  | reconfigureAccepted _ _ _ _ _ available =>
      refine .inr ⟨rfl, available, rfl, ?_⟩
      simp [InPhase, post, startAdaptation]

theorem started_available (started : Started config r) : r.robotState = .available := by
  obtain ⟨_, _, _, _, _, _, _, _, rfl⟩ := started
  rfl

theorem step_available (one : OneDriver r) (available : r.robotState = .available)
    (own : event.isAdaptation = false) (step : Step config r event after outputs) :
    after.robotState = .available := by
  have settled : InPhase r .settled := by simp [InPhase, available]
  obtain ⟨next, _, travels⟩ := step_travels one settled own step
  cases travels with
  | stays _ _ stays => exact stays available

/-- A robot that nobody adapted. -/
structure Unadapted (r : Robot) : Prop extends OneDriver r where
  available : r.robotState = .available

theorem started_unadapted (started : Started config r) : Unadapted r where
  toOneDriver := initial_oneDriver started
  available := started_available started

theorem step_unadapted (unadapted : Unadapted r) (own : event.isAdaptation = false)
    (step : Step config r event after outputs) : Unadapted after where
  toOneDriver := by
    refine step_oneDriver unadapted.toOneDriver ?_ step
    rintro rfl
    contradiction
  available := step_available unadapted.toOneDriver unadapted.available own step

theorem reaches_unadapted {history : History Event Output}
    (reached : (machine config).Reaches (fun _ event => event.isAdaptation = false) history r) :
    Unadapted r :=
  reached.invariant (fun _ started => started_unadapted started)
    (fun _ _ _ _ unadapted own taken => step_unadapted unadapted own (step_cases taken).2)

end Adaptations

end CpsKitchen.RobotAgent
