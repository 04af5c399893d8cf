import CpsKitchen.RobotAgent.SelfLock

/-!
# What makes the robot go on

One timer serves retooling, cooking, moving and reconfiguring, and a finished
dish or an uncommitted move keeps the robot waiting without one. What makes
the worker go on is called its driver here: a wait of the timer, a posted
`cook_next_order`, the notification loop, a pending pickup or a pending
commit.
-/

namespace CpsKitchen.RobotAgent

open CpsKitchen.Reactive CpsKitchen.Recipes

set_option autoImplicit false

variable {config : Config} {r after : Robot} {event : Event} {outputs : List Output}

/-- `commit_new_position` is called at most once for a rearrangement: not
again while the handler of an accepted call is still posted. -/
def CommitsOnce (r : Robot) (event : Event) : Prop :=
  event = .commitNewPosition → .handleNewPositionCommit ∉ r.posted

instance (r : Robot) (event : Event) : Decidable (CommitsOnce r event) :=
  inferInstanceAs (Decidable (_ → _))

def Handler.drives : Handler → Bool
  | .cookNextOrder | .timerCompleted _ => true
  | _ => false

def isNotifying (r : Robot) : Bool := r.worker = .notifyingConveyor

def outstanding (r : Robot) : Nat :=
  r.steadyTimer.isSome.toNat + r.posted.countP Handler.drives + (isNotifying r).toNat +
    r.pendingPickup.toNat + r.attributes.newPositionCommitIsPending.toNat

structure Quiet (r : Robot) : Prop where
  steadyTimer : r.steadyTimer = none
  posted : ∀ handler ∈ r.posted, handler.drives = false
  worker : r.worker ≠ .notifyingConveyor
  pickup : r.pendingPickup = false
  commit : r.attributes.newPositionCommitIsPending = false

theorem outstanding_eq_zero : outstanding r = 0 ↔ Quiet r := by
  have bit : ∀ flag : Bool, flag.toNat = 0 ↔ flag = false := by decide
  simp only [outstanding, Nat.add_eq_zero_iff, bit, List.countP_eq_zero, isNotifying,
    decide_eq_false_iff_not, Option.isSome_eq_false_iff, Option.isNone_iff_eq_none,
    Bool.not_eq_true]
  constructor
  · rintro ⟨⟨⟨⟨timer, posted⟩, worker⟩, pickup⟩, commit⟩
    exact ⟨timer, posted, worker, pickup, commit⟩
  · rintro ⟨timer, posted, worker, pickup, commit⟩
    exact ⟨⟨⟨⟨timer, posted⟩, worker⟩, pickup⟩, commit⟩

theorem Quiet.no_timer (quiet : Quiet r) (task : TimerTask) : ¬ TimerOutstanding r task := by
  rintro (timer | timer)
  · simp [quiet.steadyTimer] at timer
  · have drives := quiet.posted _ timer
    simp [Handler.drives] at drives

theorem Quiet.no_cook (quiet : Quiet r) : .cookNextOrder ∉ r.posted := by
  intro member
  have drives := quiet.posted _ member
  simp [Handler.drives] at drives

def IsSwitch (handler : Handler) : Prop := ∃ newPosition, handler = .switchPosition newPosition

/-- What holds whether or not the worker is inside a handler: handlers of an
adaptation come before the wait they lead to, and a commit is posted once. -/
structure Orderly (r : Robot) : Prop where
  notAborted : .timerAborted ∉ r.posted
  availability : r.attributes.availability = true ↔ r.robotState = .available
  switching : ∀ handler ∈ r.posted, IsSwitch handler →
    r.robotState = .rearranging ∧ r.attributes.newPositionCommitIsPending = false
  switchFirst : r.posted.Pairwise fun earlier later =>
    earlier = .timerCompleted .moveToNewPosition → ¬ IsSwitch later
  reconfigure : .reconfigure ∈ r.posted → r.robotState = .reconfiguring
  reconfigureFirst : r.posted.Pairwise fun earlier later =>
    earlier = .timerCompleted .completeReconfiguration → later ≠ .reconfigure
  committing : .handleNewPositionCommit ∈ r.posted →
    r.attributes.newPositionCommitIsPending = true
  committedOnce : r.posted.count .handleNewPositionCommit ≤ 1

/-- A dish occupies the robot: it is worked on or waits to be picked up. -/
def Cooking (r : Robot) : Prop :=
  TimerOutstanding r .retool ∨ TimerOutstanding r .passTime ∨
    r.worker = .notifyingConveyor ∨ r.pendingPickup = true

theorem Cooking.before (cooking : Cooking after)
    (timer : ∀ task, task = .retool ∨ task = .passTime → TimerOutstanding after task →
      TimerOutstanding r task)
    (worker : after.worker = .notifyingConveyor → r.worker = .notifyingConveyor)
    (pickup : after.pendingPickup = true → r.pendingPickup = true) : Cooking r := by
  rcases cooking with retooling | ticking | notifying | pending
  · exact .inl (timer .retool (.inl rfl) retooling)
  · exact .inr (.inl (timer .passTime (.inr rfl) ticking))
  · exact .inr (.inr (.inl (worker notifying)))
  · exact .inr (.inr (.inr (pickup pending)))

theorem Quiet.not_cooking (quiet : Quiet r) : ¬ Cooking r := by
  rintro (timer | timer | notifying | pickup)
  · exact quiet.no_timer _ timer
  · exact quiet.no_timer _ timer
  · exact quiet.worker notifying
  · rw [quiet.pickup] at pickup
    contradiction

def Moving (r : Robot) : Prop :=
  TimerOutstanding r .moveToNewPosition ∨ r.attributes.newPositionCommitIsPending = true

structure OneDriver (r : Robot) : Prop extends Orderly r where
  single : outstanding r ≤ 1
  moving : Moving r → r.alreadyRearranging = true
  rearranging : r.alreadyRearranging = true → r.robotState = .rearranging ∧ Moving r
  equipping : TimerOutstanding r .completeReconfiguration → r.alreadyReconfiguring = true
  reconfiguring : r.alreadyReconfiguring = true → r.robotState = .reconfiguring ∧
    (TimerOutstanding r .completeReconfiguration ∨ r.stateMutexHeld = true)
  cooking : Cooking r → r.attributes.recipeId ≠ 0
  inProcess : r.attributes.recipeId ≠ 0 → r.preparingDish = true ∧ Cooking r
  pickedUp : .cookNextOrder ∈ r.posted → r.preparingDish = true ∧ r.attributes.recipeId = 0
  entering : r.worker = .cookNextOrder →
    r.attributes.recipeId = 0 ∧ .cookNextOrder ∉ r.posted
  held : r.stateMutexHeld = true → r.worker = .cookNextOrder ∧ r.alreadyReconfiguring = true
  busy : r.preparingDish = true ∨ r.orderQueue ≠ [] →
    r.attributes.recipeId ≠ 0 ∨ .cookNextOrder ∈ r.posted ∨ r.worker = .cookNextOrder ∨
      r.alreadyRearranging = true ∨ r.alreadyReconfiguring = true

theorem initial_oneDriver (started : Started config r) : OneDriver r := by
  obtain ⟨position, _, capabilities, _, action, _, _, _, rfl⟩ := started
  constructor <;>
    simp [initial, outstanding, isNotifying, Moving, Cooking, TimerOutstanding]
  constructor <;> simp

theorem Orderly.congr (orderly : Orderly r) (posted : after.posted = r.posted)
    (robotState : after.robotState = r.robotState)
    (availability : after.attributes.availability = r.attributes.availability)
    (commit : after.attributes.newPositionCommitIsPending =
      r.attributes.newPositionCommitIsPending) : Orderly after where
  notAborted := by rw [posted]; exact orderly.notAborted
  availability := by rw [availability, robotState]; exact orderly.availability
  switching := by rw [posted, robotState, commit]; exact orderly.switching
  switchFirst := by rw [posted]; exact orderly.switchFirst
  reconfigure := by rw [posted, robotState]; exact orderly.reconfigure
  reconfigureFirst := by rw [posted]; exact orderly.reconfigureFirst
  committing := by rw [posted, commit]; exact orderly.committing
  committedOnce := by rw [posted]; exact orderly.committedOnce

theorem Orderly.take (orderly : Orderly r) {handler : Handler} {posted : List Handler}
    (next : r.posted = handler :: posted) : Orderly (takeHandler r posted) where
  notAborted := fun member => orderly.notAborted (by rw [next]; exact List.mem_cons_of_mem _ member)
  availability := orderly.availability
  switching := fun later member =>
    orderly.switching later (by rw [next]; exact List.mem_cons_of_mem _ member)
  switchFirst := (List.pairwise_cons.mp (next ▸ orderly.switchFirst)).2
  reconfigure := fun member =>
    orderly.reconfigure (by rw [next]; exact List.mem_cons_of_mem _ member)
  reconfigureFirst := (List.pairwise_cons.mp (next ▸ orderly.reconfigureFirst)).2
  committing := fun member =>
    orderly.committing (by rw [next]; exact List.mem_cons_of_mem _ member)
  committedOnce := by
    have once := orderly.committedOnce
    rw [next] at once
    exact (List.count_le_count_cons).trans once

theorem OneDriver.quiet_after_take (one : OneDriver r) {handler : Handler}
    {posted : List Handler} (next : r.posted = handler :: posted)
    (drives : handler.drives = true) : Quiet (takeHandler r posted) := by
  rw [← outstanding_eq_zero]
  have single := one.single
  simp only [outstanding, next, List.countP_cons_of_pos drives] at single
  change r.steadyTimer.isSome.toNat + posted.countP Handler.drives + (isNotifying r).toNat +
    r.pendingPickup.toNat + r.attributes.newPositionCommitIsPending.toNat = 0
  omega

theorem armTimer_of_quiet (quiet : Quiet r) (task : TimerTask) (delay : Nat) :
    armTimer r task delay = { r with steadyTimer := some ⟨task, delay⟩ } := by
  simp [armTimer, quiet.steadyTimer]

theorem Quiet.timer_armed (quiet : Quiet r) (task armed : TimerTask) (delay : Nat) :
    TimerOutstanding (armTimer r armed delay) task ↔ armed = task := by
  rw [armTimer_of_quiet quiet]
  constructor
  · rintro (timer | timer)
    · simpa using timer
    · exact absurd (.inr timer) (quiet.no_timer task)
  · intro same
    exact .inl (by simp [same])

theorem Quiet.outstanding_armed (quiet : Quiet r) (task : TimerTask) (delay : Nat) :
    outstanding (armTimer r task delay) = 1 := by
  have none := outstanding_eq_zero.mpr quiet
  rw [armTimer_of_quiet quiet]
  simp only [outstanding, isNotifying, Option.isSome_some, Bool.toNat_true] at none ⊢
  omega

theorem Orderly.armed (orderly : Orderly r) (quiet : Quiet r) (task : TimerTask)
    (delay : Nat) : Orderly (armTimer r task delay) := by
  rw [armTimer_of_quiet quiet]
  exact ⟨orderly.notAborted, orderly.availability, orderly.switching, orderly.switchFirst,
    orderly.reconfigure, orderly.reconfigureFirst, orderly.committing, orderly.committedOnce⟩

/-- The worker is inside a handler and nothing drives the robot but it. -/
structure Deciding (r : Robot) : Prop extends Orderly r, Quiet r where
  idle : r.worker = .betweenHandlers
  unlocked : r.stateMutexHeld = false
  notRearranging : r.alreadyRearranging = false
  notReconfiguring : r.alreadyReconfiguring = false

theorem Deciding.congr (deciding : Deciding r) (posted : after.posted = r.posted)
    (steadyTimer : after.steadyTimer = r.steadyTimer) (worker : after.worker = r.worker)
    (pickup : after.pendingPickup = r.pendingPickup)
    (robotState : after.robotState = r.robotState)
    (availability : after.attributes.availability = r.attributes.availability)
    (commit : after.attributes.newPositionCommitIsPending =
      r.attributes.newPositionCommitIsPending)
    (held : after.stateMutexHeld = r.stateMutexHeld)
    (rearranging : after.alreadyRearranging = r.alreadyRearranging)
    (reconfiguring : after.alreadyReconfiguring = r.alreadyReconfiguring) : Deciding after where
  toOrderly := deciding.toOrderly.congr posted robotState availability commit
  steadyTimer := steadyTimer.trans deciding.steadyTimer
  posted := by rw [posted]; exact deciding.posted
  worker := by rw [worker]; exact deciding.worker
  pickup := pickup.trans deciding.pickup
  commit := commit.trans deciding.commit
  idle := worker.trans deciding.idle
  unlocked := held.trans deciding.unlocked
  notRearranging := rearranging.trans deciding.notRearranging
  notReconfiguring := reconfiguring.trans deciding.notReconfiguring

theorem Deciding.armed_cooking (deciding : Deciding r) (task : TimerTask) (delay : Nat)
    (kind : task = .retool ∨ task = .passTime)
    (cooking : r.attributes.recipeId ≠ 0) (preparing : r.preparingDish = true) :
    OneDriver (armTimer r task delay) where
  toOrderly := deciding.toOrderly.armed deciding.toQuiet task delay
  single := (deciding.toQuiet.outstanding_armed _ _).le
  moving := by
    rintro (timer | commit)
    · rw [deciding.toQuiet.timer_armed] at timer
      rcases kind with rfl | rfl <;> contradiction
    · exact absurd commit (by simp [armTimer, deciding.commit])
  rearranging := by simp [armTimer, deciding.notRearranging]
  equipping := by
    rw [deciding.toQuiet.timer_armed]
    rcases kind with rfl | rfl <;> simp
  reconfiguring := by simp [armTimer, deciding.notReconfiguring]
  cooking := fun _ => cooking
  inProcess := by
    intro _
    refine ⟨preparing, ?_⟩
    rw [Cooking, deciding.toQuiet.timer_armed, deciding.toQuiet.timer_armed]
    rcases kind with rfl | rfl <;> simp
  pickedUp := by
    rw [armTimer_of_quiet deciding.toQuiet]
    exact fun member => absurd member deciding.toQuiet.no_cook
  entering := by simp [armTimer, deciding.idle]
  held := by simp [armTimer, deciding.unlocked]
  busy := fun _ => .inl cooking

theorem Deciding.finished_cooking (deciding : Deciding r) (finished : Bool)
    (cooking : r.attributes.recipeId ≠ 0) (preparing : r.preparingDish = true) :
    OneDriver (finishOrder r finished) where
  notAborted := deciding.notAborted
  availability := deciding.availability
  switching := deciding.switching
  switchFirst := deciding.switchFirst
  reconfigure := deciding.reconfigure
  reconfigureFirst := deciding.reconfigureFirst
  committing := deciding.committing
  committedOnce := deciding.committedOnce
  single := by
    have none := outstanding_eq_zero.mpr deciding.toQuiet
    simp only [outstanding, finishOrder, resetInProcessFields, isNotifying] at none ⊢
    simp only [decide_true, Bool.toNat_true]
    omega
  moving := by
    rintro (timer | commit)
    · exact absurd timer (deciding.toQuiet.no_timer _)
    · exact absurd commit (by simp [finishOrder, resetInProcessFields, deciding.commit])
  rearranging := by simp [finishOrder, resetInProcessFields, deciding.notRearranging]
  equipping := fun timer => absurd timer (deciding.toQuiet.no_timer _)
  reconfiguring := by simp [finishOrder, resetInProcessFields, deciding.notReconfiguring]
  cooking := fun _ => cooking
  inProcess := fun _ => ⟨preparing, .inr (.inr (.inl rfl))⟩
  pickedUp := fun member => absurd member deciding.toQuiet.no_cook
  entering := by simp [finishOrder]
  held := by simp [finishOrder, resetInProcessFields, deciding.unlocked]
  busy := fun _ => .inl cooking

theorem determineNextAction_oneDriver (deciding : Deciding r)
    (cooking : r.attributes.recipeId ≠ 0) (preparing : r.preparingDish = true) :
    OneDriver (determineNextAction r) := by
  have outcome := determineNextAction_cases r
  generalize determineNextAction r = after at outcome
  cases outcome with
  | finished | incapable => exact deciding.finished_cooking _ cooking preparing
  | retool => exact deciding.armed_cooking _ _ (.inl rfl) cooking preparing
  | perform action =>
      refine Deciding.armed_cooking ?_ _ _ (.inr rfl) cooking preparing
      exact deciding.congr rfl rfl rfl rfl rfl rfl rfl rfl rfl rfl

theorem Deciding.rests (deciding : Deciding r) (resting : r.attributes.recipeId = 0)
    (notPreparing : r.preparingDish = false) (empty : r.orderQueue = []) : OneDriver r where
  toOrderly := deciding.toOrderly
  single := (outstanding_eq_zero.mpr deciding.toQuiet).le.trans (Nat.zero_le 1)
  moving := by simp [Moving, deciding.toQuiet.no_timer, deciding.commit]
  rearranging := by simp [deciding.notRearranging]
  equipping := fun timer => absurd timer (deciding.toQuiet.no_timer _)
  reconfiguring := by simp [deciding.notReconfiguring]
  cooking := by simp [Cooking, deciding.toQuiet.no_timer, deciding.worker, deciding.pickup]
  inProcess := fun cooking => absurd resting cooking
  pickedUp := fun member => absurd member deciding.toQuiet.no_cook
  entering := by simp [deciding.idle]
  held := by simp [deciding.unlocked]
  busy := by simp [notPreparing, empty]

theorem armed_oneDriver {task : TimerTask} {delay : Nat} (orderly : Orderly r) (quiet : Quiet r)
    (idle : r.worker = .betweenHandlers) (unlocked : r.stateMutexHeld = false)
    (resting : r.attributes.recipeId = 0) (notRetooling : task ≠ .retool)
    (notTicking : task ≠ .passTime)
    (moving : task = .moveToNewPosition → r.alreadyRearranging = true)
    (rearranging : r.alreadyRearranging = true →
      r.robotState = .rearranging ∧ task = .moveToNewPosition)
    (equipping : task = .completeReconfiguration → r.alreadyReconfiguring = true)
    (reconfiguring : r.alreadyReconfiguring = true →
      r.robotState = .reconfiguring ∧ task = .completeReconfiguration)
    (adapting : r.alreadyRearranging = true ∨ r.alreadyReconfiguring = true) :
    OneDriver (armTimer r task delay) where
  toOrderly := orderly.armed quiet task delay
  single := (quiet.outstanding_armed task delay).le
  moving := by
    rintro (timer | commit)
    · exact moving ((quiet.timer_armed _ _ _).mp timer)
    · exact absurd (quiet.commit.symm.trans commit) (by simp)
  rearranging := by
    intro flag
    obtain ⟨state, same⟩ := rearranging flag
    exact ⟨state, .inl ((quiet.timer_armed _ _ _).mpr same)⟩
  equipping := fun timer => equipping ((quiet.timer_armed _ _ _).mp timer)
  reconfiguring := by
    intro flag
    obtain ⟨state, same⟩ := reconfiguring flag
    exact ⟨state, .inl ((quiet.timer_armed _ _ _).mpr same)⟩
  cooking := by
    rw [Cooking, quiet.timer_armed, quiet.timer_armed]
    simp [armTimer, notRetooling, notTicking, idle, quiet.pickup]
  inProcess := fun cooking => absurd resting cooking
  pickedUp := by
    rw [armTimer_of_quiet quiet]
    exact fun member => absurd member quiet.no_cook
  entering := by simp [armTimer, idle]
  held := by simp [armTimer, unlocked]
  busy := fun _ => .inr (.inr (.inr adapting))

theorem handleSwitchPosition_oneDriver (deciding : Deciding r)
    (rearranging : r.robotState = .rearranging) (resting : r.attributes.recipeId = 0) :
    OneDriver (handleSwitchPosition config r) := by
  unfold handleSwitchPosition
  rw [if_neg (by simp [deciding.notRearranging])]
  set flagged : Robot := { r with alreadyRearranging := true } with sameFlag
  have quiet : Quiet flagged :=
    ⟨deciding.steadyTimer, deciding.posted, deciding.worker, deciding.pickup, deciding.commit⟩
  have orderly : Orderly flagged := deciding.toOrderly.congr rfl rfl rfl rfl
  have notReconfiguring : flagged.alreadyReconfiguring = false := deciding.notReconfiguring
  apply armed_oneDriver orderly quiet deciding.idle deciding.unlocked resting
  · decide
  · decide
  · exact fun _ => rfl
  · exact fun _ => ⟨rearranging, rfl⟩
  · simp
  · simp [notReconfiguring]
  · exact .inl rfl

theorem handleReconfiguration_oneDriver (deciding : Deciding r)
    (reconfiguring : r.robotState = .reconfiguring) (resting : r.attributes.recipeId = 0) :
    OneDriver (handleReconfiguration r) := by
  unfold handleReconfiguration
  rw [if_neg (by simp [deciding.notReconfiguring])]
  set flagged : Robot := { r with alreadyReconfiguring := true } with sameFlag
  have quiet : Quiet flagged :=
    ⟨deciding.steadyTimer, deciding.posted, deciding.worker, deciding.pickup, deciding.commit⟩
  have orderly : Orderly flagged := deciding.toOrderly.congr rfl rfl rfl rfl
  have notRearranging : flagged.alreadyRearranging = false := deciding.notRearranging
  apply armed_oneDriver orderly quiet deciding.idle deciding.unlocked resting
  · decide
  · decide
  · simp
  · simp [notRearranging]
  · exact fun _ => rfl
  · exact fun _ => ⟨reconfiguring, rfl⟩
  · exact .inr rfl

end CpsKitchen.RobotAgent
