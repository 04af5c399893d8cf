import Mathlib.Data.Finset.Sort
import Mathlib.Data.String.Basic
import CpsKitchen.RobotAgent.OneDriver

/-!
# The tool of a reconfigured robot

A reconfigured robot takes the tool of a capability it draws from its new
profile. A profile that cannot be read leaves no capability to draw from: the
largest index wraps, and no index below it finds one. `reconfigure` accepts
such a profile, for its set differs from the robot's own.
-/

namespace CpsKitchen.RobotAgent

open CpsKitchen.Reactive CpsKitchen.Recipes

set_option autoImplicit false

variable {config : Config} {r after : Robot} {event : Event} {outputs : List Output}

section Choice

/-- The upper parameter of `uniform_int_distribution_`, a 32-bit number. -/
def largestIndex (capabilities : Finset String) : Nat :=
  subWord 64 capabilities.card 1 % 2 ^ 32

/-- The capability the iterator of the ordered set comes to. -/
def capabilityAt (capabilities : Finset String) (index : Nat) : Option String :=
  (capabilities.sort (· ≤ ·))[index]?

theorem capabilityAt_of_lt {capabilities : Finset String} {index : Nat}
    (inside : index < capabilities.card) :
    ∃ capability ∈ capabilities, capabilityAt capabilities index = some capability := by
  have reachable : index < (capabilities.sort (· ≤ ·)).length := by
    rw [Finset.length_sort]
    exact inside
  refine ⟨(capabilities.sort (· ≤ ·))[index], ?_, List.getElem?_eq_getElem reachable⟩
  rw [← Finset.mem_sort (· ≤ ·)]
  exact List.getElem_mem reachable

theorem mem_names_of_hasAction {name : String} (known : hasAction name) :
    name ∈ (actionMap.map Prod.fst).toFinset := by
  rw [hasAction, getRobotAction] at known
  obtain ⟨action, found⟩ := Option.isSome_iff_exists.mp known
  obtain ⟨_, _, split, _⟩ := List.lookup_eq_some_iff.mp found
  rw [List.mem_toFinset, split]
  simp

theorem card_le_of_registered {capabilities : Finset String}
    (registered : ∀ name ∈ capabilities, hasAction name) :
    capabilities.card ≤ actionMap.length := by
  have subset : capabilities ⊆ (actionMap.map Prod.fst).toFinset := by
    intro name member
    exact mem_names_of_hasAction (registered name member)
  calc capabilities.card ≤ (actionMap.map Prod.fst).toFinset.card := Finset.card_le_card subset
    _ ≤ (actionMap.map Prod.fst).length := List.toFinset_card_le _
    _ = actionMap.length := List.length_map _

/-- Every index that can be drawn is inside the set unless that is empty. -/
theorem largestIndex_lt_iff {capabilities : Finset String}
    (registered : ∀ name ∈ capabilities, hasAction name) :
    largestIndex capabilities < capabilities.card ↔ capabilities.Nonempty := by
  have few : capabilities.card ≤ 14 := card_le_of_registered registered
  rw [← Finset.card_pos, largestIndex, subWord]
  split
  next positive => omega
  next none =>
    have empty : capabilities.card = 0 := by omega
    rw [empty]
    decide

/-- Whatever `set_current_and_last_equipped_tool` draws, there is a capability
under the index and the robot has its tool afterwards. -/
structure ValidToolChoice (r : Robot) : Prop where
  capable : r.capabilities.Nonempty
  inside : largestIndex r.capabilities < r.capabilities.card
  equips : ∀ index ≤ largestIndex r.capabilities, ∃ capability ∈ r.capabilities,
    ∃ action equipped, capabilityAt r.capabilities index = some capability ∧
      getRobotAction capability = some action ∧
      setCurrentAndLastEquippedTool r capability = some equipped ∧
      equipped.currentTool = action.requiredTool ∧
      equipped.attributes.lastEquippedTool = equipped.currentTool

theorem validToolChoice_iff (registered : ∀ name ∈ r.capabilities, hasAction name) :
    ValidToolChoice r ↔ r.capabilities.Nonempty := by
  constructor
  · exact ValidToolChoice.capable
  · intro capable
    have inside := (largestIndex_lt_iff registered).mpr capable
    refine ⟨capable, inside, ?_⟩
    intro index drawn
    obtain ⟨capability, member, found⟩ := capabilityAt_of_lt (Nat.lt_of_le_of_lt drawn inside)
    obtain ⟨action, known⟩ := Option.isSome_iff_exists.mp (registered capability member)
    have equips : ∃ equipped, setCurrentAndLastEquippedTool r capability = some equipped ∧
        equipped.currentTool = action.requiredTool ∧
        equipped.attributes.lastEquippedTool = equipped.currentTool := by
      rw [setCurrentAndLastEquippedTool, if_pos member, known]
      exact ⟨_, rfl, rfl, rfl⟩
    exact ⟨capability, member, action, equips.choose, found, known, equips.choose_spec⟩

end Choice

section Profiles

/-- What a step does to the profile that is still to be read and to the
capabilities. -/
inductive Equips (config : Config) (r : Robot) (event : Event) (after : Robot) : Prop where
  | accepted (profile : String) (called : event = .reconfigure profile true)
      (available : r.robotState = .available) (written : after.newCapabilitiesProfile = profile)
      (capabilities : after.capabilities = r.capabilities)
  | completed (installed : after.capabilities.Nonempty) (taken : after.newCapabilitiesProfile = "")
      (locked : after.robotState = .reconfiguring → after.stateMutexHeld = true)
  | kept (profile : after.newCapabilitiesProfile = r.newCapabilitiesProfile)
      (capabilities : after.capabilities = r.capabilities)
      (robotState : after.robotState = .reconfiguring → r.robotState = .reconfiguring)
      (mutex : after.stateMutexHeld = r.stateMutexHeld)

/-- Only the worker's own business differs. -/
structure SameProfile (r after : Robot) : Prop where
  profile : after.newCapabilitiesProfile = r.newCapabilitiesProfile
  capabilities : after.capabilities = r.capabilities
  robotState : after.robotState = r.robotState
  mutex : after.stateMutexHeld = r.stateMutexHeld

theorem SameProfile.equips (same : SameProfile r after) : Equips config r event after :=
  .kept same.profile same.capabilities
    (fun reconfiguring => same.robotState.symm.trans reconfiguring) same.mutex

theorem SameProfile.trans {middle : Robot} (first : SameProfile r middle)
    (second : SameProfile middle after) : SameProfile r after where
  profile := second.profile.trans first.profile
  capabilities := second.capabilities.trans first.capabilities
  robotState := second.robotState.trans first.robotState
  mutex := second.mutex.trans first.mutex

theorem determineNextAction_sameProfile (r : Robot) : SameProfile r (determineNextAction r) := by
  have outcome := determineNextAction_cases r
  generalize determineNextAction r = after at outcome
  cases outcome <;> exact ⟨rfl, rfl, rfl, rfl⟩

theorem handleSwitchPosition_sameProfile (r : Robot) :
    SameProfile r (handleSwitchPosition config r) := by
  unfold handleSwitchPosition
  split <;> exact ⟨rfl, rfl, rfl, rfl⟩

theorem handleReconfiguration_sameProfile (r : Robot) :
    SameProfile r (handleReconfiguration r) := by
  unfold handleReconfiguration
  split <;> exact ⟨rfl, rfl, rfl, rfl⟩

theorem completeReconfiguration_equips {capability : String}
    (ran : completeReconfiguration config r capability = some after) :
    after.capabilities.Nonempty ∧ after.newCapabilitiesProfile = "" ∧
      (after.robotState = .reconfiguring → after.stateMutexHeld = true) := by
  obtain ⟨capabilities, action, requeued, _, member, _, loop, rfl⟩ :=
    completeReconfiguration_cases ran
  obtain ⟨_, _, _, _, _, rfl, _⟩ := recalculateOrderQueue_refills _ loop
  split
  · exact ⟨⟨capability, member⟩, rfl, fun _ => rfl⟩
  · exact ⟨⟨capability, member⟩, rfl, by simp [finishReconfiguration]⟩

theorem handles_equips {capability : String} {handler : Handler} {posted : List Handler}
    (ran : Handles config (takeHandler r posted) capability handler after outputs) :
    Equips config r event after := by
  have taken : SameProfile r (takeHandler r posted) := ⟨rfl, rfl, rfl, rfl⟩
  cases ran with
  | taskForgotten | postponed => exact taken.equips
  | taskQueued | entered | targeted | ticked | moved | aborted =>
      refine SameProfile.equips ?_
      exact ⟨rfl, rfl, rfl, rfl⟩
  | rearranges newPosition =>
      have targeted : SameProfile r (target (takeHandler r posted) newPosition) :=
        ⟨rfl, rfl, rfl, rfl⟩
      exact (targeted.trans (handleSwitchPosition_sameProfile _)).equips
  | reconfigures => exact (taken.trans (handleReconfiguration_sameProfile _)).equips
  | committed => exact .kept rfl rfl (by simp [handleNewPositionCommit]) rfl
  | retooled action =>
      have equipped : SameProfile r (equip (takeHandler r posted) action.requiredTool) :=
        ⟨rfl, rfl, rfl, rfl⟩
      exact (equipped.trans (determineNextAction_sameProfile _)).equips
  | performed action rest =>
      have counted : SameProfile r (countStep (countDown (takeHandler r posted)) rest) :=
        ⟨rfl, rfl, rfl, rfl⟩
      exact (counted.trans (determineNextAction_sameProfile _)).equips
  | completed completion =>
      obtain ⟨installed, emptied, locked⟩ := completeReconfiguration_equips completion
      exact .completed installed emptied locked

theorem cooks_sameProfile (cooked : Cooks config r after) : SameProfile r after := by
  have passed : SameProfile r (passLock r) := ⟨rfl, rfl, rfl, rfl⟩
  cases cooked with
  | rearranges => exact passed.trans (handleSwitchPosition_sameProfile _)
  | reconfigures => exact passed.trans (handleReconfiguration_sameProfile _)
  | rests => exact ⟨rfl, rfl, rfl, rfl⟩
  | starts _ nextOrder rest recipe =>
      have begun : SameProfile r (startOrder (passLock r) nextOrder rest recipe) :=
        ⟨rfl, rfl, rfl, rfl⟩
      exact begun.trans (determineNextAction_sameProfile _)

theorem step_equips (step : Step config r event after outputs) : Equips config r event after := by
  cases step with
  | refused | renotifyFailed => exact SameProfile.equips ⟨rfl, rfl, rfl, rfl⟩
  | taskAccepted | handedOver | commitAccepted | notifyFailed | notified | expired
  | conveyorLost | conveyorConnected | renotified => exact SameProfile.equips ⟨rfl, rfl, rfl, rfl⟩
  | switchAccepted => exact .kept rfl rfl (by simp [post, startAdaptation]) rfl
  | reconfigureAccepted profile capabilities unlocked parsed different available =>
      exact .accepted profile rfl available rfl rfl
  | handled capability handler posted idle next ran => exact handles_equips ran
  | locked waiting unlocked ran => exact (cooks_sameProfile ran).equips

end Profiles

section Reconfigured

def AcceptsCapabilities (config : Config) (r : Robot) : Event → Prop
  | .reconfigure profile availabilityWritten => r.robotState = .available →
      availabilityWritten = true → config.capabilityParser.getCapabilities profile ≠ some ∅
  | _ => True

/-- `complete_reconfiguration` does not read the empty file name that it leaves
in `new_capabilities_profile_`, or that names a profile too. -/
def ReadsProfile (config : Config) (r : Robot) : Event → Prop
  | .runHandler _ => r.posted.head? = some (.timerCompleted .completeReconfiguration) →
      r.newCapabilitiesProfile = "" → config.capabilityParser.getCapabilities "" ≠ some ∅
  | _ => True

instance (config : Config) (r : Robot) : (event : Event) →
    Decidable (AcceptsCapabilities config r event)
  | .reconfigure _ _ => inferInstanceAs (Decidable (_ → _ → _))
  | .receiveTask _ _ | .handoverFinishedOrder | .switchPosition _ _ | .commitNewPosition
  | .runHandler _ | .cookNextOrder | .notifyConveyor _ | .timerExpires | .conveyorLost
  | .conveyorConnected _ => isTrue trivial

/-- What is left to be read, and what was installed, has a capability. -/
structure Capable (config : Config) (r : Robot) : Prop where
  installed : r.capabilities.Nonempty
  named : r.newCapabilitiesProfile ≠ "" →
    config.capabilityParser.getCapabilities r.newCapabilitiesProfile ≠ some ∅

theorem initial_capable (started : Started config r) : Capable config r := by
  obtain ⟨_, _, capabilities, name, _, _, member, _, rfl⟩ := started
  exact ⟨⟨name, member⟩, fun named => absurd rfl named⟩

theorem Equips.capable (capable : Capable config r) (accepts : AcceptsCapabilities config r event)
    (equips : Equips config r event after) : Capable config after := by
  cases equips with
  | accepted profile called available written capabilities =>
      refine ⟨by rw [capabilities]; exact capable.installed, ?_⟩
      rw [called] at accepts
      rw [written]
      exact fun _ => accepts available rfl
  | completed installed taken => exact ⟨installed, fun named => absurd taken named⟩
  | kept profile capabilities =>
      refine ⟨by rw [capabilities]; exact capable.installed, ?_⟩
      rw [profile]
      exact capable.named

/-- In a run in which every accepted profile has a capability, the robot has one
in every state. The capabilities it is about to install let it choose a tool if
and only if the profile was not taken before. -/
theorem reconfigured_robot_has_tool (config : Config) (history : History Event Output)
    (r : Robot)
    (reached : (machine config).Reaches (AcceptsCapabilities config) history r) :
    r.capabilities.Nonempty ∧
    ∀ capability capabilities posted,
      r.posted = .timerCompleted .completeReconfiguration :: posted →
      config.capabilityParser.getCapabilities r.newCapabilitiesProfile = some capabilities →
      (ValidToolChoice (applyProfile (takeHandler r posted) capabilities) ↔
        ReadsProfile config r (.runHandler capability)) := by
  have capable : Capable config r :=
    reached.invariant (fun _ started => initial_capable started)
      (fun _ _ _ _ before accepts taken =>
        (step_equips (step_cases taken).2).capable before accepts)
  refine ⟨capable.installed, ?_⟩
  intro capability capabilities posted next parsed
  rw [validToolChoice_iff (r := applyProfile (takeHandler r posted) capabilities)
    (config.capabilityParser.registered _ _ parsed)]
  change capabilities.Nonempty ↔ _
  rw [Finset.nonempty_iff_ne_empty, ReadsProfile, next]
  by_cases emptied : r.newCapabilitiesProfile = ""
  · rw [emptied] at parsed
    simp [emptied, parsed]
  · have named := capable.named emptied
    rw [parsed] at named
    simp only [emptied, List.head?_cons, false_implies, implies_true, iff_true]
    rintro rfl
    exact named rfl

theorem reaches_accepted {history : History Event Output}
    (reached : (machine config).Reaches (AcceptsCapabilities config) history r) :
    r.robotState = .reconfiguring → r.stateMutexHeld = false →
      config.capabilityParser.getCapabilities r.newCapabilitiesProfile ≠ some ∅ := by
  induction reached with
  | start started =>
      obtain ⟨_, _, _, _, _, _, _, _, rfl⟩ := started
      simp [initial]
  | step _ accepts taken ih =>
      intro reconfiguring unlocked
      cases step_equips (step_cases taken).2 with
      | accepted profile called available written =>
          rw [called] at accepts
          rw [written]
          exact accepts available rfl
      | completed _ _ locked =>
          rw [locked reconfiguring] at unlocked
          contradiction
      | kept profile _ robotState mutex =>
          rw [profile]
          exact ih (robotState reconfiguring) (mutex.symm.trans unlocked)

/-- A robot that commits once takes a profile once. -/
theorem profile_read_of_commitsOnce {history : History Event Output} (capability : String)
    (reached : (machine config).Reaches
      (fun r event => CommitsOnce r event ∧ AcceptsCapabilities config r event) history r) :
    r.worker = .betweenHandlers → ReadsProfile config r (.runHandler capability) := by
  have one : OneDriver r := reaches_oneDriver (reached.mono fun _ _ both => both.1)
  have accepted := reaches_accepted (reached.mono fun _ _ both => both.2)
  intro idle due emptied
  have outstanding : TimerOutstanding r .completeReconfiguration :=
    .inr (List.mem_of_head? due)
  have reconfiguring := (one.reconfiguring (one.equipping outstanding)).1
  have unlocked := one.unlocked (by simp [idle])
  have named := accepted reconfiguring unlocked
  rw [emptied] at named
  exact named

/-- The mixing robot is reconfigured to peel and cut. -/
theorem peeling_robot_has_tool :
    ∃ history r posted, (machine deployment).Reaches (AcceptsCapabilities deployment) history r ∧
      r.posted = .timerCompleted .completeReconfiguration :: posted ∧
      ValidToolChoice (applyProfile (takeHandler r posted) {"peel", "cut"}) := by
  obtain ⟨history, r, reached, shown⟩ := Machine.exists_reaches_of_replay
    (machine deployment) (AcceptsCapabilities deployment) mixingRobot_started
    [.reconfigure "r1.json" true, .runHandler "whip", .timerExpires]
    (fun _ r => decide (r.posted = [.timerCompleted .completeReconfiguration] ∧
      r.newCapabilitiesProfile = "r1.json")) (by decide)
  obtain ⟨next, profile⟩ := of_decide_eq_true shown
  have parsed : deployment.capabilityParser.getCapabilities r.newCapabilitiesProfile =
      some {"peel", "cut"} := by
    rw [profile]
    decide
  obtain ⟨_, chooses⟩ := reconfigured_robot_has_tool deployment history r reached
  refine ⟨history, r, [], reached, next, (chooses "peel" _ _ next parsed).mpr ?_⟩
  intro _ emptied
  rw [profile] at emptied
  contradiction

/-- There is no profile of that name. The call is answered with true, and
`set_current_and_last_equipped_tool` has nothing to draw. -/
theorem unreadable_profile_leaves_no_tool :
    ∃ history r posted, (machine deployment).Reaches (fun _ _ => True) history r ∧
      history.head? = some (.reconfigure "r5.json" true, [.result true]) ∧
      r.posted = .timerCompleted .completeReconfiguration :: posted ∧
      deployment.capabilityParser.getCapabilities r.newCapabilitiesProfile = some ∅ ∧
      ¬ ValidToolChoice (applyProfile (takeHandler r posted) ∅) ∧
      largestIndex ∅ = 2 ^ 32 - 1 ∧
      ∀ capability,
        completeReconfiguration deployment (takeHandler r posted) capability = none := by
  obtain ⟨history, r, reached, shown⟩ := Machine.exists_reaches_of_replay
    (machine deployment) (fun _ _ => True) mixingRobot_started
    [.reconfigure "r5.json" true, .runHandler "whip", .timerExpires]
    (fun history r => decide (
      history.head? = some (.reconfigure "r5.json" true, [.result true]) ∧
      r.posted = [.timerCompleted .completeReconfiguration] ∧
      r.newCapabilitiesProfile = "r5.json")) (by decide)
  obtain ⟨accepted, next, profile⟩ := of_decide_eq_true shown
  have parsed : deployment.capabilityParser.getCapabilities r.newCapabilitiesProfile = some ∅ := by
    rw [profile]
    decide
  refine ⟨history, r, [], reached, accepted, next, parsed, ?_, by decide, ?_⟩
  · intro valid
    exact Finset.not_nonempty_empty valid.capable
  · intro capability
    cases ran : completeReconfiguration deployment (takeHandler r []) capability with
    | none => rfl
    | some after =>
        obtain ⟨capabilities, _, _, installed, member, _⟩ := completeReconfiguration_cases ran
        change deployment.capabilityParser.getCapabilities r.newCapabilitiesProfile = _ at installed
        rw [parsed, Option.some.injEq] at installed
        rw [← installed] at member
        exact absurd member (Finset.notMem_empty capability)

/-- Both profiles exist. The second commit makes the robot available while it
reconfigures, and the handler of the second call starts over with no profile. -/
theorem second_commit_takes_profile_twice :
    ∃ history r posted, (machine deployment).Reaches (AcceptsCapabilities deployment) history r ∧
      r.posted = .timerCompleted .completeReconfiguration :: posted ∧
      r.newCapabilitiesProfile = "" ∧
      ¬ ValidToolChoice (applyProfile (takeHandler r posted) ∅) := by
  obtain ⟨history, r, reached, shown⟩ := Machine.exists_reaches_of_replay
    (machine deployment) (AcceptsCapabilities deployment) mixingRobot_started
    [.switchPosition 2 true, .runHandler "whip", .timerExpires, .runHandler "whip",
     .commitNewPosition, .commitNewPosition, .runHandler "whip", .cookNextOrder,
     .reconfigure "r1.json" true, .runHandler "whip", .cookNextOrder, .runHandler "whip",
     .timerExpires, .reconfigure "r2.json" true, .runHandler "boil", .cookNextOrder,
     .runHandler "whip", .timerExpires]
    (fun _ r => decide (r.posted = [.timerCompleted .completeReconfiguration] ∧
      r.newCapabilitiesProfile = "")) (by decide)
  obtain ⟨next, emptied⟩ := of_decide_eq_true shown
  refine ⟨history, r, [], reached, next, emptied, ?_⟩
  intro valid
  exact Finset.not_nonempty_empty valid.capable

end Reconfigured

end CpsKitchen.RobotAgent
