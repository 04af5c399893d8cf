import CpsKitchen.KitchenAgent.Orders

/-!
# The placing gate

Orders are placed at a limited rate. There is one token: it is at the open
gate, at the worker that places an order, or at the wait of `placing_timer_`.
The timer completes once for every order that was placed, so a stretch of a run
in which it does not expire has at most one placement.
-/

namespace CpsKitchen.KitchenAgent

open CpsKitchen.Reactive CpsKitchen.Recipes CpsKitchen.RobotMap

set_option autoImplicit false

variable {config : Config} {k after : Kitchen} {event : Event} {outputs : List Output}
  {history : History Event Output}

section Token

/-- A wait of `placing_timer_` is pending until its completion handler runs. -/
def WaitPending (k : Kitchen) : Prop :=
  k.placingTimer = true ∨ .placingTimerCompleted ∈ k.posted

def waits (k : Kitchen) : Nat := k.placingTimer.toNat + k.posted.count .placingTimerCompleted

def Worker.placing : Worker → Nat
  | .choosingNextRobot _ _ => 1
  | _ => 0

def tokens (k : Kitchen) : Nat := k.placingGateOpen.toNat + waits k + k.worker.placing

/-- The gate as every step leaves it. -/
structure Gated (k : Kitchen) : Prop where
  token : tokens k = 1
  empty : k.placingGateOpen = true → k.placingQueue = []
  undisturbed : .placingTimerAborted ∉ k.posted

theorem waitPending_iff (k : Kitchen) : WaitPending k ↔ 0 < waits k := by
  have posted : .placingTimerCompleted ∈ k.posted ↔
      0 < k.posted.count .placingTimerCompleted := List.count_pos_iff.symm
  rw [WaitPending, posted, waits]
  cases k.placingTimer with
  | true => simp
  | false => simp

theorem initial_gated : Gated initial where
  token := rfl
  empty _ := rfl
  undisturbed := List.not_mem_nil

theorem Gated.post (gated : Gated k) {handler : Handler}
    (notCompleted : handler ≠ .placingTimerCompleted)
    (notAborted : handler ≠ .placingTimerAborted) :
    Gated (post k handler) where
  token := by
    have token := gated.token
    rw [tokens, waits] at token ⊢
    rw [← token]
    simp [KitchenAgent.post, notCompleted]
  empty := gated.empty
  undisturbed := by
    simp [KitchenAgent.post, gated.undisturbed, notAborted.symm]

theorem Gated.goesOn (gated : Gated k) (gate : after.placingGateOpen = k.placingGateOpen)
    (queue : after.placingQueue = k.placingQueue) (timer : after.placingTimer = k.placingTimer)
    (posted : after.posted = k.posted) (worker : after.worker.placing = k.worker.placing) :
    Gated after where
  token := by
    rw [tokens, waits, gate, timer, posted, worker]
    exact gated.token
  empty := by
    rw [gate, queue]
    exact gated.empty
  undisturbed := by
    rw [posted]
    exact gated.undisturbed

theorem Gated.take (gated : Gated k) {handler : Handler} {posted : List Handler}
    (next : k.posted = handler :: posted) (notCompleted : handler ≠ .placingTimerCompleted) :
    Gated (takeHandler k posted) where
  token := by
    have token := gated.token
    rw [tokens, waits, next, List.count_cons_of_ne notCompleted] at token
    exact token
  empty := gated.empty
  undisturbed := by
    have undisturbed := gated.undisturbed
    rw [next] at undisturbed
    exact List.not_mem_of_not_mem_cons undisturbed

/-- When the completion handler runs, its wait was the only one. -/
theorem Gated.completes (gated : Gated k) {posted : List Handler} (idle : k.worker.placing = 0)
    (next : k.posted = .placingTimerCompleted :: posted) :
    k.placingGateOpen = false ∧ waits (takeHandler k posted) = 0 := by
  have token := gated.token
  have taken : waits (takeHandler k posted) =
      k.placingTimer.toNat + posted.count .placingTimerCompleted := rfl
  rw [tokens, waits, next, List.count_cons_self, idle] at token
  constructor
  · cases gate : k.placingGateOpen with
    | false => rfl
    | true =>
        rw [gate, Bool.toNat_true] at token
        omega
  · omega

theorem Handles.gated {handler : Handler} {posted : List Handler} (gated : Gated k)
    (idle : k.worker = .betweenHandlers) (next : k.posted = handler :: posted)
    (ran : Handles config (takeHandler k posted) handler after outputs) : Gated after := by
  have resting : k.worker.placing = 0 := by
    rw [idle]
    rfl
  cases ran with
  | queued order map closed =>
      have taken := gated.take next Handler.noConfusion
      refine ⟨taken.token, ?_, taken.undisturbed⟩
      intro opened
      have opened : (takeHandler k posted).placingGateOpen = true := opened
      rw [closed] at opened
      cases opened
  | placedAtOnce order recipeId map known opened =>
      have taken := gated.take next Handler.noConfusion
      refine ⟨?_, ?_, taken.undisturbed⟩
      · have token := taken.token
        have resting : (takeHandler k posted).worker.placing = 0 := resting
        rw [tokens, opened, resting, Bool.toNat_true] at token
        have waitless : waits (takeHandler k posted) = 0 := by omega
        exact congrArg (fun waits => 0 + waits + 1) waitless
      · intro opened
        cases opened
  | answerDropped | completed | swapped =>
      have taken := gated.take next Handler.noConfusion
      exact taken.goesOn rfl rfl rfl rfl rfl
  | answerTaken =>
      have taken := gated.take next Handler.noConfusion
      exact taken.goesOn rfl rfl rfl rfl resting.symm
  | gateOpened empty =>
      obtain ⟨_, waitless⟩ := gated.completes resting next
      refine ⟨?_, fun _ => empty, ?_⟩
      · have resting : (takeHandler k posted).worker.placing = 0 := resting
        have token : tokens { takeHandler k posted with placingGateOpen := true } =
            1 + waits (takeHandler k posted) + (takeHandler k posted).worker.placing := rfl
        rw [token, waitless, resting]
      · have undisturbed := gated.undisturbed
        rw [next] at undisturbed
        exact List.not_mem_of_not_mem_cons undisturbed
  | placedNext order rest recipeId front known =>
      obtain ⟨closed, waitless⟩ := gated.completes resting next
      refine ⟨?_, ?_, ?_⟩
      · have gate : (takeHandler k posted).placingGateOpen = false := closed
        have token : tokens (setWorker (receiveOrder
            { takeHandler k posted with placingQueue := rest })
            (.choosingNextRobot order recipeId)) =
            (takeHandler k posted).placingGateOpen.toNat + waits (takeHandler k posted) + 1 := rfl
        rw [token, waitless, gate]
        rfl
      · intro opened
        have opened : k.placingGateOpen = true := opened
        rw [closed] at opened
        cases opened
      · have undisturbed := gated.undisturbed
        rw [next] at undisturbed
        exact List.not_mem_of_not_mem_cons undisturbed
  | aborted =>
      have undisturbed := gated.undisturbed
      rw [next] at undisturbed
      exact absurd List.mem_cons_self undisturbed

/-- While an order is placed there is no wait. -/
theorem Gated.placing (gated : Gated k) (placing : k.worker.placing = 1) :
    k.placingGateOpen = false ∧ waits k = 0 := by
  have token := gated.token
  rw [tokens, placing] at token
  constructor
  · cases gate : k.placingGateOpen with
    | false => rfl
    | true =>
        rw [gate, Bool.toNat_true] at token
        omega
  · omega

theorem Gated.timer_idle (waitless : waits k = 0) : k.placingTimer = false := by
  cases timer : k.placingTimer with
  | false => rfl
  | true =>
      rw [waits, timer, Bool.toNat_true] at waitless
      omega

theorem Step.gated (gated : Gated k) (step : Step config k event after outputs) : Gated after := by
  cases step with
  | requestReceived | answerReceived | completionReceived | positionChanged =>
      exact gated.post Handler.noConfusion Handler.noConfusion
  | robotStopped | controllerLost | controllerConnected | requestFailed =>
      exact gated.goesOn rfl rfl rfl rfl rfl
  | expired armed =>
      have token := gated.token
      rw [tokens, waits, armed, Bool.toNat_true] at token
      refine ⟨?_, gated.empty, ?_⟩
      · rw [← token]
        simp only [tokens, waits, KitchenAgent.post, List.count_append, List.count_singleton_self,
          Bool.toNat_false]
        omega
      · simp [KitchenAgent.post, gated.undisturbed]
  | handled environment handler posted idle next ran => exact ran.gated gated idle next
  | requested order recipeId accepted choosing =>
      obtain ⟨closed, waitless⟩ := gated.placing (by rw [choosing, Worker.placing])
      have idle := Gated.timer_idle waitless
      have posted : (armPlacingGate (setWorker k .betweenHandlers)).posted = k.posted := by
        simp [armPlacingGate, setWorker, idle]
      refine ⟨?_, ?_, ?_⟩
      · rw [waits, idle, Bool.toNat_false, Nat.zero_add] at waitless
        rw [tokens, waits, posted, waitless]
        simp [armPlacingGate, setWorker, closed, Worker.placing]
      · intro opened
        have opened : k.placingGateOpen = true := opened
        rw [closed] at opened
        cases opened
      · rw [posted]
        exact gated.undisturbed
  | instructionDropped answer robot map instructing =>
      exact gated.goesOn rfl rfl rfl rfl (by rw [instructing]; rfl)
  | instructed answer robot position accepted instructing =>
      exact gated.goesOn rfl rfl rfl rfl (by rw [instructing]; rfl)
  | assigned answer instructed | refused answer instructed =>
      exact gated.goesOn rfl rfl rfl rfl (by rw [instructed]; rfl)

theorem reaches_gated {allowed : Kitchen → Event → Prop}
    (reached : (machine config).Reaches allowed history k) : Gated k :=
  reached.invariant (fun _ started => by cases started; exact initial_gated)
    (fun _ _ _ _ gated _ taken => (step_cases taken).2.gated gated)

end Token

section Rate

def Event.request? : Event → Option DishId
  | .placeRandomOrder order => some order
  | _ => none

def Output.placement? : Output → Option DishId
  | .orderPlaced order _ => some order
  | _ => none

def requestsOf (history : History Event Output) : List DishId :=
  history.filterMap fun entry => entry.1.request?

def placementsOf (history : History Event Output) : List DishId :=
  (outputsOf history).filterMap Output.placement?

def expiriesOf (history : History Event Output) : Nat :=
  history.countP fun entry => entry.1 = .timerExpires

def waitingInLine (k : Kitchen) : List DishId :=
  k.placingQueue ++ k.posted.filterMap Handler.requested?

def cooling (k : Kitchen) : Nat := k.placingTimer.toNat + k.worker.placing

theorem requestsOf_step (history : History Event Output) (event : Event) (outputs : List Output) :
    requestsOf (history ++ [(event, outputs)]) = requestsOf history ++ event.request?.toList := by
  rw [requestsOf, List.filterMap_append]
  cases found : event.request? with
  | none => simp [requestsOf, found]
  | some order => simp [requestsOf, found]

theorem placementsOf_append (first second : History Event Output) :
    placementsOf (first ++ second) = placementsOf first ++ placementsOf second := by
  rw [placementsOf, outputsOf_append, List.filterMap_append, placementsOf, placementsOf]

theorem expiriesOf_step (history : History Event Output) (event : Event) (outputs : List Output) :
    expiriesOf (history ++ [(event, outputs)]) =
      expiriesOf history + if event = .timerExpires then 1 else 0 := by
  rw [expiriesOf, List.countP_append, List.countP_singleton, expiriesOf]
  simp only [decide_eq_true_eq]

theorem waitingInLine_post (k : Kitchen) (handler : Handler) :
    waitingInLine (post k handler) = waitingInLine k ++ handler.requested?.toList := by
  rw [waitingInLine, post, List.filterMap_append, waitingInLine, List.append_assoc]
  cases found : handler.requested? with
  | none => simp [found]
  | some order => simp [found]

theorem waitingInLine_take {handler : Handler} {posted : List Handler}
    (next : k.posted = handler :: posted) :
    waitingInLine k =
      k.placingQueue ++ (handler.requested?.toList ++ posted.filterMap Handler.requested?) := by
  rw [waitingInLine, next]
  cases found : handler.requested? with
  | none => simp [found]
  | some order => simp [found]

theorem Handles.order {handler : Handler} {posted : List Handler} (gated : Gated k)
    (next : k.posted = handler :: posted)
    (ran : Handles config (takeHandler k posted) handler after outputs) :
    waitingInLine k = outputs.filterMap Output.placement? ++ waitingInLine after := by
  rw [waitingInLine_take next]
  cases ran with
  | queued order map closed => exact (List.append_assoc k.placingQueue [order] _).symm
  | placedAtOnce order recipeId map known opened =>
      have empty : k.placingQueue = [] := gated.empty opened
      have placed : waitingInLine (setWorker (receiveOrder
          { withRobots (takeHandler k posted) map with placingGateOpen := false })
          (.choosingNextRobot order recipeId)) =
          k.placingQueue ++ posted.filterMap Handler.requested? := rfl
      rw [placed, empty]
      rfl
  | placedNext order rest recipeId front known =>
      have front : k.placingQueue = order :: rest := front
      rw [front]
      rfl
  | answerDropped | answerTaken | completed | swapped | gateOpened | aborted => rfl

/-- Orders wait in line: a new one stands at the end, the first one is placed. -/
theorem Step.order (gated : Gated k) (step : Step config k event after outputs) :
    waitingInLine k ++ event.request?.toList =
      outputs.filterMap Output.placement? ++ waitingInLine after := by
  cases step with
  | requestReceived | answerReceived | completionReceived | positionChanged =>
      rw [waitingInLine_post]
      rfl
  | expired armed =>
      have line := waitingInLine_post { k with placingTimer := false } .placingTimerCompleted
      rw [line]
      rfl
  | handled environment handler posted idle next ran =>
      have ordered := ran.order gated next
      rw [← ordered]
      exact List.append_nil _
  | requested order recipeId accepted choosing =>
      obtain ⟨_, waitless⟩ := gated.placing (by rw [choosing, Worker.placing])
      have idle := Gated.timer_idle waitless
      have line : waitingInLine (armPlacingGate (setWorker k .betweenHandlers)) =
          waitingInLine k := by simp [waitingInLine, armPlacingGate, setWorker, idle]
      rw [line]
      exact List.append_nil _
  | robotStopped | controllerLost | controllerConnected | requestFailed | instructionDropped
  | instructed | assigned | refused => exact List.append_nil _

theorem Handles.rate {handler : Handler} {posted : List Handler}
    (idle : k.worker = .betweenHandlers)
    (ran : Handles config (takeHandler k posted) handler after outputs) :
    cooling after = (outputs.filterMap Output.placement?).length + cooling k := by
  have resting : k.worker.placing = 0 := by
    rw [idle]
    rfl
  have cooled : cooling k = k.placingTimer.toNat := by rw [cooling, resting, Nat.add_zero]
  rw [cooled]
  cases ran with
  | placedAtOnce | placedNext => exact Nat.add_comm _ 1
  | answerTaken => exact (Nat.zero_add _).symm
  | queued | answerDropped | completed | swapped | gateOpened | aborted =>
      rw [← cooled]
      exact (Nat.zero_add _).symm

/-- The timer expires once for every order that was placed. -/
theorem Step.rate (gated : Gated k) (step : Step config k event after outputs) :
    (if event = .timerExpires then 1 else 0) + cooling after =
      (outputs.filterMap Output.placement?).length + cooling k := by
  cases step with
  | expired armed =>
      rw [if_pos rfl]
      simp [post, cooling, armed]
  | handled environment handler posted idle next ran =>
      rw [if_neg Event.noConfusion, Nat.zero_add]
      exact ran.rate idle
  | requested order recipeId accepted choosing =>
      have placing : k.worker.placing = 1 := by
        rw [choosing]
        rfl
      have idle := Gated.timer_idle (gated.placing placing).2
      rw [if_neg Event.noConfusion, cooling, cooling, idle, placing]
      rfl
  | instructionDropped answer robot map instructing =>
      rw [if_neg Event.noConfusion, cooling, cooling, instructing]
      rfl
  | instructed answer robot position accepted instructing =>
      rw [if_neg Event.noConfusion, cooling, cooling, instructing]
      rfl
  | assigned answer instructed | refused answer instructed =>
      rw [if_neg Event.noConfusion, cooling, cooling, instructed]
      rfl
  | requestReceived | answerReceived | completionReceived | positionChanged | robotStopped
  | controllerLost | controllerConnected | requestFailed => rw [if_neg Event.noConfusion]; rfl

/-- What a run does, from a gated kitchen on. -/
structure Paces (first : Kitchen) (history : History Event Output) (k : Kitchen) : Prop where
  gated : Gated k
  order : waitingInLine first ++ requestsOf history = placementsOf history ++ waitingInLine k
  rate : expiriesOf history + cooling k = (placementsOf history).length + cooling first

theorem Paces.step {first : Kitchen} (paces : Paces first history k)
    (step : Step config k event after outputs) :
    Paces first (history ++ [(event, outputs)]) after where
  gated := step.gated paces.gated
  order := by
    have placed : placementsOf (history ++ [(event, outputs)]) =
        placementsOf history ++ outputs.filterMap Output.placement? := by
      rw [placementsOf_append]
      simp [placementsOf]
    rw [requestsOf_step, ← List.append_assoc, paces.order, List.append_assoc,
      step.order paces.gated, placed, List.append_assoc]
  rate := by
    have rate := step.rate paces.gated
    have before := paces.rate
    rw [expiriesOf_step, placementsOf_append, List.length_append]
    simp only [placementsOf, outputsOf_singleton] at *
    omega

theorem reaches_paces {allowed : Kitchen → Event → Prop} {first : Kitchen} (gated : Gated first)
    (reached : ((machine config).resume first).Reaches allowed history k) :
    Paces first history k := by
  apply reached.history_invariant
  · intro state started
    have started : state = first := started
    rw [started]
    exact ⟨gated, List.append_nil _, rfl⟩
  · intro history before event after outputs _ paces _ taken
    exact paces.step (step_cases taken).2

theorem Gated.cooling_le (gated : Gated k) : cooling k ≤ 1 := by
  have token := gated.token
  rw [tokens, waits] at token
  rw [cooling]
  omega

end Rate

end CpsKitchen.KitchenAgent
