import CpsKitchen.RobotAgent.TaskOrder
import CpsKitchen.Plant.Orders

/-!
# A full belt and postponed adaptations

A robot accepts an adaptation while it prepares a dish and starts it only when
the dish is picked up. From then on it takes no task. When the other robots
have filled the belt with dishes for it, nothing moves any more: no plate comes
free for its dish, and nobody else can take a dish from the belt. The plant
gets there only by an adaptation that was accepted over a dish.
-/

namespace CpsKitchen.Plant

open CpsKitchen.Reactive CpsKitchen.Recipes
open CpsKitchen.RobotAgent (Robot OneDriver Cooking isCapableTo heldDishes)
open CpsKitchen.ConveyorAgent (placedDishes)

set_option autoImplicit false

section Robots

variable {config : RobotAgent.Config} {r after : Robot} {event : RobotAgent.Event}
  {outputs : List RobotAgent.Output}

def isAdaptation : RobotAgent.Event → Bool
  | .switchPosition _ _ | .reconfigure _ _ => true
  | _ => false

instance (r : Robot) : Decidable (Cooking r) :=
  inferInstanceAs (Decidable (_ ∨ _ ∨ _ ∨ _))

theorem cooking_before (cooking : Cooking after)
    (timer : ∀ task, RobotAgent.TimerOutstanding after task →
      RobotAgent.TimerOutstanding r task ∨ task = .moveToNewPosition ∨
        task = .completeReconfiguration)
    (worker : after.worker = .notifyingConveyor → r.worker = .notifyingConveyor)
    (pickup : after.pendingPickup = true → r.pendingPickup = true) : Cooking r := by
  refine cooking.before ?_ worker pickup
  intro task cooks outstanding
  rcases timer task outstanding with before | rfl | rfl
  · exact before
  · cases cooks <;> contradiction
  · cases cooks <;> contradiction

theorem armTimer_timers {task armed : RobotAgent.TimerTask} {delay : Nat}
    (timer : RobotAgent.TimerOutstanding (RobotAgent.armTimer r armed delay) task) :
    RobotAgent.TimerOutstanding r task ∨ task = armed := by
  rcases timer with pending | completed
  · right
    have same : some armed = some task := pending
    exact (Option.some.inj same).symm
  · left
    right
    unfold RobotAgent.armTimer at completed
    simp only at completed
    split at completed
    · simpa using completed
    · exact completed

theorem handleSwitchPosition_cooking
    (cooking : Cooking (RobotAgent.handleSwitchPosition config r)) : Cooking r := by
  unfold RobotAgent.handleSwitchPosition at cooking
  split at cooking
  · exact cooking
  · refine cooking_before cooking ?_ id id
    intro task timer
    rcases armTimer_timers timer with before | same
    · exact .inl before
    · exact .inr (.inl same)

theorem handleReconfiguration_cooking
    (cooking : Cooking (RobotAgent.handleReconfiguration r)) : Cooking r := by
  unfold RobotAgent.handleReconfiguration at cooking
  split at cooking
  · exact cooking
  · refine cooking_before cooking ?_ id id
    intro task timer
    rcases armTimer_timers timer with before | same
    · exact .inl before
    · exact .inr (.inr same)

theorem timerOutstanding_of_take {task : RobotAgent.TimerTask}
    {handler : RobotAgent.Handler} {posted : List RobotAgent.Handler}
    (next : r.posted = handler :: posted)
    (timer : RobotAgent.TimerOutstanding (RobotAgent.takeHandler r posted) task) :
    RobotAgent.TimerOutstanding r task := by
  rcases timer with pending | completed
  · exact .inl pending
  · right
    rw [next]
    exact List.mem_cons_of_mem _ completed

/-- A robot out of service starts no dish. -/
theorem handled_cooking {capability : String} {handler : RobotAgent.Handler}
    {posted : List RobotAgent.Handler} (idle : r.worker = .betweenHandlers)
    (next : r.posted = handler :: posted)
    (ran : RobotAgent.Handles config (RobotAgent.takeHandler r posted) capability handler after
      outputs)
    (adapting : after.robotState ≠ .available) (cooking : Cooking after) :
    Cooking r ∧ r.robotState ≠ .available := by
  have before : Cooking (RobotAgent.takeHandler r posted) → Cooking r := fun cooking =>
    cooking_before cooking (fun task timer => .inl (timerOutstanding_of_take next timer)) id id
  have completes : ∀ task, handler = .timerCompleted task →
      RobotAgent.TimerOutstanding r task := by
    rintro task rfl
    exact .inr (by rw [next]; exact List.mem_cons_self)
  have state : r.robotState ≠ .available := by
    rcases RobotAgent.handles_robotState ran with same | same
    · intro available
      exact adapting (same.trans available)
    · exact absurd same adapting
  refine ⟨?_, state⟩
  cases ran with
  | taskForgotten | targeted | postponed | moved | aborted => exact before cooking
  | taskQueued task recipe =>
      refine before (cooking_before cooking (fun _ timer => .inl timer) ?_ id)
      intro notifying
      have notifying : (if r.preparingDish then r.worker else .cookNextOrder) =
          RobotAgent.Worker.notifyingConveyor := notifying
      rw [idle] at notifying
      split at notifying <;> contradiction
  | entered =>
      refine before (cooking_before cooking (fun _ timer => .inl timer) ?_ id)
      intro notifying
      contradiction
  | rearranges newPosition =>
      have targeted : Cooking (RobotAgent.target (RobotAgent.takeHandler r posted) newPosition) :=
        handleSwitchPosition_cooking cooking
      exact before targeted
  | reconfigures => exact before (handleReconfiguration_cooking cooking)
  | committed => exact absurd rfl adapting
  | retooled => exact .inl (completes _ rfl)
  | ticked | performed => exact .inr (.inl (completes _ rfl))
  | completed completion =>
      obtain ⟨_, _, _, _, _, _, loop, rfl⟩ := RobotAgent.completeReconfiguration_cases completion
      obtain ⟨_, _, _, _, _, rfl, _⟩ := RobotAgent.recalculateOrderQueue_refills _ loop
      split at adapting
      next locked =>
        rw [if_pos locked] at cooking
        refine before (cooking_before cooking (fun _ timer => .inl timer) ?_ id)
        intro notifying
        rw [locked] at notifying
        contradiction
      · exact absurd rfl adapting

/-- A robot that cooks and is out of service was cooking before, and it was out
of service or has just accepted an adaptation. -/
theorem step_cooking (step : RobotAgent.Step config r event after outputs)
    (adapting : after.robotState ≠ .available) (cooking : Cooking after) :
    Cooking r ∧ (r.robotState ≠ .available ∨ isAdaptation event = true ∧
      outputs = [.result true]) := by
  have posted : ∀ {before : Robot} {handler : RobotAgent.Handler}, handler.drives = false →
      Cooking (RobotAgent.post before handler) → Cooking before := by
    intro before handler plain cooking
    exact cooking_before cooking
      (fun task timer => .inl ((RobotAgent.timerOutstanding_post plain task).mp timer)) id id
  cases step with
  | refused => exact ⟨cooking, .inl adapting⟩
  | taskAccepted => exact ⟨posted rfl cooking, .inl adapting⟩
  | handedOver pending =>
      refine ⟨.inr (.inr (.inr pending)), .inl adapting⟩
  | switchAccepted => exact ⟨posted rfl cooking, .inr ⟨rfl, rfl⟩⟩
  | commitAccepted => exact ⟨posted rfl cooking, .inl adapting⟩
  | reconfigureAccepted => exact ⟨posted rfl cooking, .inr ⟨rfl, rfl⟩⟩
  | handled capability handler posted idle next ran =>
      obtain ⟨before, state⟩ := handled_cooking idle next ran adapting cooking
      exact ⟨before, .inl state⟩
  | locked waiting unlocked ran =>
      have passed : Cooking (RobotAgent.passLock r) → Cooking r := fun cooking =>
        cooking_before cooking (fun _ timer => .inl timer) (by intro; contradiction) id
      cases ran with
      | rearranges rearranging =>
          exact ⟨passed (handleSwitchPosition_cooking cooking), .inl (by rw [rearranging]; simp)⟩
      | reconfigures reconfiguring =>
          exact ⟨passed (handleReconfiguration_cooking cooking),
            .inl (by rw [reconfiguring]; simp)⟩
      | rests available => exact absurd available adapting
      | starts available nextOrder rest recipe =>
          rw [RobotAgent.determineNextAction_robotState] at adapting
          exact absurd available adapting
  | notified received looping => exact ⟨.inr (.inr (.inl looping)), .inl adapting⟩
  | expired wait armed =>
      refine ⟨cooking_before cooking ?_ id id, .inl adapting⟩
      intro task timer
      left
      rcases timer with pending | completed
      · contradiction
      · rcases List.mem_append.mp completed with earlier | now
        · exact .inr earlier
        · left
          simp only [List.mem_singleton, RobotAgent.Handler.timerCompleted.injEq] at now
          rw [armed, Option.map_some, now]
  | notifyFailed | conveyorLost | conveyorConnected | renotifyFailed | renotified =>
      exact ⟨cooking, .inl adapting⟩

end Robots

section Plant

variable {RobotId : Type} {config : Config RobotId} {p after : State RobotId}

def isCapableOfNext (config : Config RobotId) (p : State RobotId) (id : RobotId)
    (plateId : ConveyorAgent.PlateId) : Prop :=
  let plate := p.conveyor.plates plateId
  ∃ action ∈ (config.recipeParser.getRecipe plate.placedRecipeId).bind
      (fun recipe => recipe.actionQueue[plate.processedSteps]?),
    isCapableTo (p.robots id) action

instance (p : State RobotId) (id : RobotId) (plateId : ConveyorAgent.PlateId) :
    Decidable (isCapableOfNext config p id plateId) :=
  inferInstanceAs (Decidable (∃ action ∈ Option.bind _ _, _))

def isFull (config : Config RobotId) (p : State RobotId) : Prop :=
  ∀ plateId < config.conveyor.plateCount, (p.conveyor.plates plateId).occupied = true ∧
    (p.conveyor.plates plateId).isDishFinished = false

instance (p : State RobotId) : Decidable (isFull config p) :=
  inferInstanceAs (Decidable (∀ plateId < config.conveyor.plateCount,
    (p.conveyor.plates plateId).occupied = true ∧
      (p.conveyor.plates plateId).isDishFinished = false))

/-- The belt is full, nobody in service can take a dish from it, and those who
could wait to put their own dish onto it. -/
structure IsDeadlocked (config : Config RobotId) (p : State RobotId) : Prop where
  full : isFull config p
  someoneCapable : ∀ plateId < config.conveyor.plateCount, ∃ id,
    isCapableOfNext config p id plateId
  noneAvailable : ∀ plateId < config.conveyor.plateCount, ∀ id,
    (p.robots id).robotState = .available → ¬ isCapableOfNext config p id plateId
  waiting : ∀ id, (p.robots id).robotState ≠ .available → (p.robots id).pendingPickup = true

theorem isDeadlocked_iff : IsDeadlocked config p ↔ isFull config p ∧
    (∀ plateId < config.conveyor.plateCount, ∃ id, isCapableOfNext config p id plateId) ∧
    (∀ plateId < config.conveyor.plateCount, ∀ id,
      (p.robots id).robotState = .available → ¬ isCapableOfNext config p id plateId) ∧
    ∀ id, (p.robots id).robotState ≠ .available → (p.robots id).pendingPickup = true := by
  constructor
  · intro deadlocked
    exact ⟨deadlocked.full, deadlocked.someoneCapable, deadlocked.noneAvailable,
      deadlocked.waiting⟩
  · rintro ⟨full, someoneCapable, noneAvailable, waiting⟩
    exact ⟨full, someoneCapable, noneAvailable, waiting⟩

instance [Fintype RobotId] (p : State RobotId) : Decidable (IsDeadlocked config p) :=
  decidable_of_iff' _ isDeadlocked_iff

/-- Someone who could take a dish is out of service. -/
theorem IsDeadlocked.adapting (deadlocked : IsDeadlocked config p) :
    ∃ id, (p.robots id).robotState ≠ .available := by
  obtain ⟨id, capable⟩ :=
    deadlocked.someoneCapable 0 config.conveyor.plateCountPositive
  refine ⟨id, ?_⟩
  intro available
  exact deadlocked.noneAvailable 0 config.conveyor.plateCountPositive id available capable

variable [DecidableEq RobotId] {event : Event RobotId} {outputs : List (Output RobotId)}
  {late : Finset RobotId}

def acceptsAdaptation (config : Config RobotId) (p : State RobotId) (id : RobotId)
    (own : RobotAgent.Event) : Prop :=
  isAdaptation own = true ∧ (robotStep config p id own).map Prod.snd = some [.result true]

instance (p : State RobotId) (id : RobotId) (own : RobotAgent.Event) :
    Decidable (acceptsAdaptation config p id own) := inferInstanceAs (Decidable (_ ∧ _))

/-- Keeps the robots that were cooking when they last accepted an adaptation. -/
def noteAdaptation (config : Config RobotId) (p : State RobotId) :
    Event RobotId → Finset RobotId → Finset RobotId
  | .robot id own, late =>
      if acceptsAdaptation config p id own then
        if Cooking (p.robots id) then insert id late else late.erase id
      else late
  | _, late => late

def adapting (config : Config RobotId) :
    Machine (State RobotId × Finset RobotId) (Event RobotId) (Output RobotId) :=
  (machine config).observed ∅ (noteAdaptation config)

theorem noteAdaptation_keeps {id : RobotId} (member : id ∈ late)
    (cooking : Cooking (p.robots id)) : id ∈ noteAdaptation config p event late := by
  cases event with
  | robot other own =>
      rw [noteAdaptation]
      by_cases same : id = other
      · subst same
        split
        · exact Finset.mem_insert_self id late
        · exact member
      · split
        · split
          · exact Finset.mem_insert_of_mem member
          · exact Finset.mem_erase.mpr ⟨same, member⟩
        · exact member
  | conveyor | kitchen | placeOrder | requestNextRobot | answer | notify | renotify | handover
  | deliverTask | deliverOrder | instruct => exact member

/-- A robot out of service that still cooks accepted the adaptation over its
dish. -/
def AdaptsLate (p : State RobotId) (late : Finset RobotId) : Prop :=
  ∀ id, (p.robots id).robotState ≠ .available → Cooking (p.robots id) → id ∈ late

theorem step_adaptsLate (adaptsLate : AdaptsLate p late)
    (step : Step config p event after outputs) :
    AdaptsLate after (noteAdaptation config p event late) := by
  intro id adapting cooking
  rcases step.robot_cases id with same | ⟨own, sent, taken, asked⟩
  · rw [same] at adapting cooking
    exact noteAdaptation_keeps (adaptsLate id adapting cooking) cooking
  · obtain ⟨before, state⟩ := step_cooking (RobotAgent.step_cases taken).2 adapting cooking
    rcases state with already | ⟨adaptation, accepted⟩
    · exact noteAdaptation_keeps (adaptsLate id already before) before
    · rcases asked with rfl | plain
      · have accepts : acceptsAdaptation config p id own := by
          refine ⟨adaptation, ?_⟩
          rw [robotStep, taken, Option.map_some, accepted]
        rw [noteAdaptation, if_pos accepts, if_pos before]
        exact Finset.mem_insert_self id late
      · cases own <;> contradiction

theorem reaches_adaptsLate {allowed : State RobotId × Finset RobotId → Event RobotId → Prop}
    {history : History (Event RobotId) (Output RobotId)} {s : State RobotId × Finset RobotId}
    (reached : (adapting config).Reaches allowed history s) : AdaptsLate s.1 s.2 := by
  induction reached with
  | start initial =>
      intro id adapting _
      obtain ⟨_, _, _, _, _, _, _, _, same⟩ := initial.1.1 id
      rw [same] at adapting
      exact absurd rfl adapting
  | step _ _ taken ih =>
      obtain ⟨taken, recorded⟩ := Machine.observed_step taken
      rw [recorded]
      exact step_adaptsLate ih (step_cases taken)

section Counting

variable [Fintype RobotId]

/-- Beside the dishes on the belt there is the one that waits for its pickup. -/
theorem IsDeadlocked.dishes (deadlocked : IsDeadlocked config p)
    (belt : ConveyorAgent.Belt config.conveyor p.conveyor)
    (one : ∀ id, OneDriver (p.robots id)) :
    config.conveyor.plateCount < (underWay p).card := by
  obtain ⟨id, adapting⟩ := deadlocked.adapting
  have inHand : 1 ≤ (heldDishes (p.robots id)).card := by
    have cooking : (p.robots id).attributes.recipeId ≠ 0 :=
      (one id).cooking (.inr (.inr (.inr (deadlocked.waiting id adapting))))
    rw [heldDishes, RobotAgent.dishInHand, if_neg cooking, Multiset.card_add,
      Multiset.card_singleton]
    omega
  have held : heldDishes (p.robots id) ≤ holdings heldDishes p.robots := by
    rw [holdings_split heldDishes p.robots id]
    exact le_self_add
  have placed : config.conveyor.plateCount ≤ (placedDishes p.conveyor).card := by
    have occupied : Finset.range config.conveyor.plateCount ⊆ p.conveyor.occupiedPlates := by
      intro plateId inside
      exact (belt.occupied plateId).mpr
        (deadlocked.full plateId (Finset.mem_range.mp inside)).1
    have count := Finset.card_le_card occupied
    rw [Finset.card_range] at count
    rw [placedDishes, Multiset.card_map]
    exact count
  have more := Multiset.card_le_card held
  rw [underWay, Multiset.card_add, Multiset.card_add]
  omega

/-- The plant is deadlocked only where each robot out of service accepted its
adaptation over a dish, and, where a rearrangement is committed once, only
while more dishes are under way than there are plates. -/
theorem deadlock_needs_late_adaptation (config : Config RobotId)
    (allowed : State RobotId × Finset RobotId → Event RobotId → Prop)
    (history : History (Event RobotId) (Output RobotId)) (p : State RobotId)
    (late : Finset RobotId) (reached : (adapting config).Reaches allowed history (p, late))
    (deadlocked : IsDeadlocked config p) :
    (∃ id, (p.robots id).robotState ≠ .available) ∧
    (∀ id, (p.robots id).robotState ≠ .available → id ∈ late) ∧
    ((machine config).Reaches EachCommitsOnce history p →
      config.conveyor.plateCount + (completedOrders history).card <
        (acceptedOrders history).card) := by
  refine ⟨deadlocked.adapting, ?_, ?_⟩
  · intro id adapting
    have cooking : Cooking (p.robots id) :=
      .inr (.inr (.inr (deadlocked.waiting id adapting)))
    exact reaches_adaptsLate reached id adapting cooking
  · intro once
    obtain ⟨answered, answering⟩ := once.observe (0 : Multiset DishId)
      (fun p event answered => answered + startedAnswer p event)
    have flow : underWay p + completedOrders history ≤ acceptedOrders history :=
      (reaches_accounted answering).flow
    have cards := Multiset.card_le_card flow
    have dishes := deadlocked.dishes (reaches_belt once) (reaches_oneDriver once)
    rw [Multiset.card_add] at cards
    omega

end Counting

end Plant

section Bakery

/-- Cookies need both robots, toast only the baker. -/
def bakeryMenu : List Recipe :=
  List.reduceOption
    [readRecipe "cookies" [("crush", "nuts", none), ("bake", "dough", some 1)],
     readRecipe "toast" [("bake", "bread", some 1)]]

def bakery : Config (Fin 2) where
  recipeParser := .ofRecipes bakeryMenu (by decide)
  capabilityParser := RobotAgent.deployment.capabilityParser
  endpoint id := if id = 0 then "opc.tcp://crusher:4850" else "opc.tcp://baker:4851"
  conveyor := ⟨3, by decide⟩
  kitchen := ⟨2⟩

def crusher : Robot :=
  RobotAgent.initial 1 {"mash", "whip", "crush", "stir", "mix"} .crusher

def baker : Robot := RobotAgent.initial 2 {"sprinkle", "layer", "pour", "bake"} .oven

def idleBakery : State (Fin 2) where
  robots id := if id = 0 then crusher else baker
  conveyor := ConveyorAgent.initial bakery.conveyor
  kitchen := KitchenAgent.initial
  requests := []
  nextOrder := 0

theorem idleBakery_starts : (adapting bakery).start (idleBakery, ∅) := by
  refine ⟨⟨?_, rfl, rfl, rfl, rfl⟩, rfl⟩
  intro id
  by_cases first : id = 0
  · subst first
    exact ⟨1, "r3.json", {"mash", "whip", "crush", "stir", "mix"}, "crush",
      .autonomous .crusher 2, by decide, by decide, by decide, rfl⟩
  · have second : id = 1 := by omega
    subst second
    exact ⟨2, "r4.json", {"sprinkle", "layer", "pour", "bake"}, "bake", .recipeTimed .oven,
      by decide, by decide, by decide, rfl⟩

def drawsRecipe (recipeId : RecipeId) : KitchenAgent.Environment := ⟨recipeId, true, none, none⟩

def assignsOrder (id : Fin 2) (order : DishId) (recipeId : RecipeId) : List (Event (Fin 2)) :=
  [.placeOrder, .kitchen (.runHandler (drawsRecipe recipeId)), .requestNextRobot,
   .answer ⟨if id = 0 then 1 else 2, bakery.endpoint id, recipeId, order⟩,
   .kitchen (.runHandler (drawsRecipe recipeId)), .instruct id, .kitchen .countOrder,
   .kitchen .timerExpires, .kitchen (.runHandler (drawsRecipe recipeId))]

def crushes : List (Event (Fin 2)) :=
  List.map (.robot 0)
    [.timerExpires, .runHandler "crush", .timerExpires, .runHandler "crush"] ++ [.notify 0]

def crushesNext : List (Event (Fin 2)) :=
  [.handover 0 1] ++ List.map (.robot 0) [.runHandler "crush", .cookNextOrder] ++ crushes

/-- The baker bakes the toast and is told meanwhile to become another robot. -/
def bakesToast : List (Event (Fin 2)) :=
  List.map (.robot 1)
    [.runHandler "bake", .cookNextOrder, .reconfigure "r1.json" true, .runHandler "bake",
     .timerExpires, .runHandler "bake"] ++ [.notify 1]

def connects : ConveyorAgent.Environment := ⟨true, none, none⟩

def noRobot (plateId : ConveyorAgent.PlateId) : ConveyorAgent.NextRobot :=
  ⟨0, "", 1, ⟨plateId, 1, 1⟩⟩

/-- The conveyor asks for the robots that the dishes need next, hears that there
is none, and moves. It gets the notifications made meanwhile. -/
def movesOn (plateIds : List ConveyorAgent.PlateId) (notified : Nat) : List (Event (Fin 2)) :=
  List.map .conveyor
    ([.retrieved] ++ plateIds.map (fun plateId => .requestNextRobot plateId (some true)) ++
      [.requested] ++ List.replicate notified (.runHandler connects) ++
      plateIds.flatMap (fun plateId =>
        [.receiveNextRobot (noRobot plateId), .runHandler connects]) ++
      [.timerExpires, .runHandler connects] ++
      plateIds.map (fun plateId => .deliver plateId none ⟨none, none, none⟩) ++ [.delivered])

def bakerWaits : List (Event (Fin 2)) := [.conveyor (.retrieve 2 none)]

/-- The crusher fills the belt with cookies for the baker. The baker waits to
put its toast there. -/
def fillsBelt : List (Event (Fin 2)) :=
  assignsOrder 0 0 1 ++ assignsOrder 0 1 1 ++ assignsOrder 0 2 1 ++ assignsOrder 1 3 2 ++
  List.map (.robot 0) [.runHandler "crush", .cookNextOrder, .runHandler "crush",
    .runHandler "crush"] ++ crushes ++
  List.map .conveyor [.runHandler connects, .timerExpires, .runHandler connects] ++
  crushesNext ++ bakesToast ++ movesOn [1] 2 ++ crushesNext ++ bakerWaits ++
  movesOn [0, 1] 1 ++ [.handover 0 1] ++ bakerWaits

theorem bakery_fills :
    ∃ history p late, (adapting bakery).Reaches (fun s => EachCommitsOnce s.1) history (p, late) ∧
      IsDeadlocked bakery p := by
  obtain ⟨history, s, reached, shown⟩ := Machine.exists_reaches_of_replay (adapting bakery)
    (fun s => EachCommitsOnce s.1) idleBakery_starts fillsBelt
    (fun _ s => decide (IsDeadlocked bakery s.1)) (by decide +kernel)
  exact ⟨history, s.1, s.2, reached, of_decide_eq_true shown⟩

/-- The two robots of the bakery wait for each other through the belt. -/
theorem bakery_deadlocks :
    ∃ history p, (machine bakery).Reaches EachCommitsOnce history p ∧ IsDeadlocked bakery p := by
  obtain ⟨history, p, late, reached, deadlocked⟩ := bakery_fills
  exact ⟨history, p, reached.unobserved (fun _ _ once => once), deadlocked⟩

theorem bakery_adapts_late :
    ∃ history p late, (adapting bakery).Reaches (fun s => EachCommitsOnce s.1) history (p, late) ∧
      IsDeadlocked bakery p ∧ (∃ id, (p.robots id).robotState ≠ .available ∧ id ∈ late) ∧
      3 + (completedOrders history).card < (acceptedOrders history).card := by
  obtain ⟨history, p, late, reached, deadlocked⟩ := bakery_fills
  obtain ⟨⟨id, adapting⟩, allLate, more⟩ :=
    deadlock_needs_late_adaptation bakery _ history p late reached deadlocked
  exact ⟨history, p, late, reached, deadlocked, ⟨id, adapting, allLate id adapting⟩,
    more (reached.unobserved (fun _ _ once => once))⟩

end Bakery

end CpsKitchen.Plant
