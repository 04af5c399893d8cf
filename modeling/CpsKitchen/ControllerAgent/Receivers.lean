import CpsKitchen.ControllerAgent.Swaps
import CpsKitchen.Reactive.Pipeline

/-!
# Answers to next-robot requests

The controller keeps one client for each requester and makes it when it handles
the first request. While a request is handled no other handler runs, so what the
requester receives is decided by the client that the handler found: a client
that has failed once is kept, and the answer is sent through it.
-/

namespace CpsKitchen.ControllerAgent

open CpsKitchen.Reactive CpsKitchen.Recipes

set_option autoImplicit false

variable {config : Config} {c after : Controller} {event : Event} {outputs : List Output}

section Serving

/-- How far the handler of a request is. -/
inductive Phase
  | connecting
  | deciding
  | answering
  deriving DecidableEq

def Worker.serving : Worker → Option (Request × Phase)
  | .initializingReceiver request => some (request, .connecting)
  | .choosing request | .checkingFirst request _ _ | .checkingSecond request _ _
  | .switchingFirst request _ _ | .switchingSecond request _ _
  | .checkingReconfiguration request _ _ | .reconfiguring request _ _ => some (request, .deciding)
  | .answering request _ _ => some (request, .answering)
  | .betweenHandlers | .initializingRobot _ _ | .readingPendingCommit _
  | .resolvingMissedCommit _ | .committingFirst _ _ _ | .committingSecond _ _ => none

def servingClient (c : Controller) : Option NextRobotReceiver :=
  c.worker.serving.bind fun serving => c.nextRobotReceivers.lookup serving.1.receiver

/-- A call through a client that has failed before fails. -/
def DeadStaysDead (c : Controller) : Event → Prop
  | .nextRobotReceived reply => servingClient c = some ⟨false⟩ → reply = none
  | _ => True

instance (c : Controller) (event : Event) : Decidable (DeadStaysDead c event) := by
  unfold DeadStaysDead
  split <;> infer_instance

/-- The requester runs and can be reached while its request is handled: a
connection to it comes up, and a client that runs goes on running and has its
call answered. -/
def ReachableRequester (request : Request) (c : Controller) (event : Event) : Prop :=
  DeadStaysDead c event ∧
    match event with
    | .runHandler => False
    | .receiverInitialized succeeded => succeeded = true
    | .receiverStopped receiver => receiver ≠ request.receiver
    | .nextRobotReceived reply => servingClient c = some ⟨true⟩ → reply ≠ none
    | _ => True

instance (request : Request) (c : Controller) (event : Event) :
    Decidable (ReachableRequester request c event) := by
  unfold ReachableRequester
  refine @instDecidableAnd _ _ _ ?_
  split <;> infer_instance

def isReceivedFor (request : Request) : Output → Bool
  | .nextRobotSent sent _ _ reply => decide (sent = request) && reply.isSome
  | _ => false

def receivedCalls (request : Request) (history : History Event Output) : Nat :=
  (outputsOf history).countP (isReceivedFor request)

theorem receivedCalls_append (request : Request) (history : History Event Output) (event : Event)
    (outputs : List Output) :
    receivedCalls request (history ++ [(event, outputs)]) =
      receivedCalls request history + outputs.countP (isReceivedFor request) := by
  rw [receivedCalls, outputsOf_append, outputsOf_singleton, List.countP_append]
  rfl

end Serving

section Quiet

theorem serving_updateAt (change : RemoteRobot → RemoteRobot) (place : Place) :
    (updateAt c change place).worker.serving = c.worker.serving := by
  cases place with
  | registered position => rfl
  | held =>
      unfold updateAt
      cases shown : c.worker <;> simp only [shown] <;> rfl

theorem nextRobotReceivers_updateAt (change : RemoteRobot → RemoteRobot) (place : Place) :
    (updateAt c change place).nextRobotReceivers = c.nextRobotReceivers := by
  cases place with
  | registered position => rfl
  | held =>
      unfold updateAt
      cases shown : c.worker <;> rfl

/-- Only five events concern the client of a requester or the place of the
worker in the handler of a request. -/
def isQuiet : Event → Bool
  | .runHandler | .receiverInitialized _ | .receiverStopped _ | .nextRobotChosen _
  | .nextRobotReceived _ => false
  | _ => true

theorem quiet_step (quiet : isQuiet event = true) (step : Step config c event after outputs) :
    after.worker.serving = c.worker.serving ∧ after.nextRobotReceivers = c.nextRobotReceivers ∧
      ∀ request, outputs.countP (isReceivedFor request) = 0 := by
  cases step with
  | registrationReceived => exact ⟨rfl, rfl, fun _ => rfl⟩
  | requestReceived => exact ⟨rfl, rfl, fun _ => rfl⟩
  | positionNoticed place =>
      exact ⟨serving_updateAt _ place, nextRobotReceivers_updateAt _ place, fun _ => rfl⟩
  | positionChanged place =>
      exact ⟨serving_updateAt _ place, nextRobotReceivers_updateAt _ place, fun _ => rfl⟩
  | capabilitiesNoticed place =>
      exact ⟨serving_updateAt _ place, nextRobotReceivers_updateAt _ place, fun _ => rfl⟩
  | capabilitiesChanged place =>
      exact ⟨serving_updateAt _ place, nextRobotReceivers_updateAt _ place, fun _ => rfl⟩
  | robotStopped place =>
      exact ⟨serving_updateAt _ place, nextRobotReceivers_updateAt _ place, fun _ => rfl⟩
  | robotRegistered robot position initializing =>
      rw [initializing]
      unfold resolveMissedNewPositionCommit
      split
      · exact ⟨rfl, rfl, fun _ => rfl⟩
      · split <;> exact ⟨rfl, rfl, fun _ => rfl⟩
  | robotDropped robot position initializing =>
      rw [initializing]
      exact ⟨rfl, rfl, fun _ => rfl⟩
  | commitMissed position reading =>
      rw [reading]
      exact ⟨rfl, rfl, fun _ => rfl⟩
  | noCommitMissed position answer reading =>
      rw [reading]
      exact ⟨rfl, rfl, fun _ => rfl⟩
  | missedCommitted position reply resolving =>
      rw [resolving]
      exact ⟨rfl, rfl, fun _ => rfl⟩
  | firstCommitted key second position reply committing =>
      rw [committing]
      cases second <;> exact ⟨rfl, rfl, fun _ => rfl⟩
  | secondCommitted key position reply committing =>
      rw [committing]
      exact ⟨rfl, rfl, fun _ => rfl⟩
  | adaptationRefused event request choosing => exact ⟨rfl, rfl, fun _ => rfl⟩
  | swapChecked request fromPosition toPosition choosing =>
      rw [choosing]
      exact ⟨rfl, rfl, fun _ => rfl⟩
  | reconfigurationChecked request robotPosition profile choosing =>
      rw [choosing]
      exact ⟨rfl, rfl, fun _ => rfl⟩
  | notAvailable request position answer checking =>
      refine ⟨?_, rfl, fun _ => rfl⟩
      generalize c.worker = worker at checking
      cases checking <;> rfl
  | firstAvailable request fromPosition toPosition checking =>
      rw [checking]
      unfold checkSecond
      split
      · exact ⟨rfl, rfl, fun _ => rfl⟩
      · split <;> exact ⟨rfl, rfl, fun _ => rfl⟩
  | secondAvailable request fromPosition toPosition checking =>
      rw [checking]
      exact ⟨rfl, rfl, fun _ => rfl⟩
  | robotAvailable request robotPosition profile checking =>
      rw [checking]
      exact ⟨rfl, rfl, fun _ => rfl⟩
  | firstFailed request fromPosition toPosition switching =>
      rw [switching]
      exact ⟨rfl, rfl, fun _ => rfl⟩
  | firstRefused request fromPosition toPosition switching =>
      rw [switching]
      exact ⟨rfl, rfl, fun _ => rfl⟩
  | firstSwitches request fromPosition toPosition switching =>
      rw [switching]
      exact ⟨rfl, rfl, fun _ => rfl⟩
  | onlySwitches request fromPosition toPosition switching =>
      rw [switching]
      exact ⟨rfl, rfl, fun _ => rfl⟩
  | secondRefused request fromPosition toPosition switching =>
      rw [switching]
      exact ⟨rfl, rfl, fun _ => rfl⟩
  | secondSwitches request fromPosition toPosition reply switching =>
      rw [switching]
      exact ⟨rfl, rfl, fun _ => rfl⟩
  | reconfigurationInstructed request robotPosition profile reply instructing =>
      rw [instructing]
      exact ⟨rfl, rfl, fun _ => rfl⟩
  | _ => cases quiet

end Quiet

section Fragment

/-- The handler of a request runs. `alive` says whether the client that it will
answer through runs, which is so if it makes one itself. -/
structure Serving (request : Request) (alive : Bool) (phase : Phase)
    (fragment : History Event Output) (c : Controller) : Prop where
  serving : c.worker.serving = some (request, phase)
  connecting : phase = .connecting → alive = true
  client : phase ≠ .connecting → c.nextRobotReceivers.lookup request.receiver = some ⟨alive⟩
  unanswered : receivedCalls request fragment = 0

/-- The handler of a request has come to its end. -/
structure Served (request : Request) (alive : Bool) (fragment : History Event Output)
    (c : Controller) : Prop where
  free : c.worker = .betweenHandlers
  answered : receivedCalls request fragment = if alive then 1 else 0

variable {request : Request} {alive : Bool} {phase : Phase} {fragment : History Event Output}

/-- Between two handlers nothing is sent, and only the worker begins another. -/
theorem idle_step (request : Request) (idle : c.worker = .betweenHandlers)
    (begun : event ≠ .runHandler) (step : Step config c event after outputs) :
    after.worker = .betweenHandlers ∧ outputs.countP (isReceivedFor request) = 0 := by
  have unchanged : ∀ change place, (updateAt c change place).worker = .betweenHandlers := by
    intro change place
    cases place with
    | registered position => exact idle
    | held =>
        unfold updateAt
        rw [idle]
        exact idle
  cases step with
  | handled => exact absurd rfl begun
  | registrationReceived | requestReceived | receiverStopped => exact ⟨idle, rfl⟩
  | positionNoticed place | positionChanged place | capabilitiesNoticed place
  | capabilitiesChanged place | robotStopped place => exact ⟨unchanged _ place, rfl⟩
  | notAvailable request position answer checking =>
      rw [idle] at checking
      cases checking
  | robotRegistered _ _ waiting | robotDropped _ _ waiting | commitMissed _ waiting
  | noCommitMissed _ _ waiting | missedCommitted _ _ waiting | firstCommitted _ _ _ _ waiting
  | secondCommitted _ _ _ waiting | receiverInitialized _ _ waiting
  | adaptationRefused _ _ waiting | swapChecked _ _ _ waiting
  | reconfigurationChecked _ _ _ waiting | firstAvailable _ _ _ waiting
  | secondAvailable _ _ _ waiting | robotAvailable _ _ _ waiting | firstFailed _ _ _ waiting
  | firstRefused _ _ _ waiting | firstSwitches _ _ _ waiting | onlySwitches _ _ _ waiting
  | secondRefused _ _ _ waiting | secondSwitches _ _ _ _ waiting
  | reconfigurationInstructed _ _ _ _ waiting | notAnswered _ _ waiting | answers _ _ waiting
  | answered _ _ _ _ waiting =>
      rw [idle] at waiting
      cases waiting

theorem Served.step (served : Served request alive fragment c)
    (reachable : ReachableRequester request c event)
    (taken : ControllerAgent.step config c event = some (after, outputs)) :
    Served request alive (fragment ++ [(event, outputs)]) after := by
  have begun : event ≠ .runHandler := by
    rintro rfl
    exact reachable.2
  obtain ⟨free, silent⟩ := idle_step request served.free begun (step_cases taken)
  refine ⟨free, ?_⟩
  rw [receivedCalls_append, silent, served.answered, Nat.add_zero]

theorem Serving.step (serving : Serving request alive phase fragment c)
    (reachable : ReachableRequester request c event)
    (taken : ControllerAgent.step config c event = some (after, outputs)) :
    (∃ phase, Serving request alive phase (fragment ++ [(event, outputs)]) after) ∨
      Served request alive (fragment ++ [(event, outputs)]) after := by
  have kept : ∀ {outputs : List Output}, outputs.countP (isReceivedFor request) = 0 →
      receivedCalls request (fragment ++ [(event, outputs)]) = 0 := by
    intro outputs none_
    rw [receivedCalls_append, none_, serving.unanswered]
  by_cases quiet : isQuiet event = true
  · obtain ⟨same, receivers, none_⟩ := quiet_step quiet (step_cases taken)
    refine .inl ⟨phase, same.trans serving.serving, serving.connecting, ?_, kept (none_ request)⟩
    rw [receivers]
    exact serving.client
  · have here := serving.serving
    cases event with
    | runHandler => exact absurd reachable.2 id
    | receiverStopped receiver =>
        simp only [ControllerAgent.step] at taken
        split at taken
        · contradiction
        · cases taken
          refine .inl ⟨phase, here, serving.connecting, ?_, kept rfl⟩
          intro later
          have other : request.receiver ≠ receiver := fun same => reachable.2 same.symm
          rw [setReceiver, Finmap.lookup_insert_of_ne _ other]
          exact serving.client later
    | receiverInitialized succeeded =>
        obtain rfl : succeeded = true := reachable.2
        cases step_cases taken with
        | receiverInitialized other _ initializing =>
            rw [initializing] at here
            cases here
            refine .inl ⟨.deciding, rfl, fun impossible => (by cases impossible), ?_, kept rfl⟩
            intro _
            rw [serving.connecting rfl]
            exact Finmap.lookup_insert _
        | adaptationRefused _ other choosing =>
            exact .inl ⟨phase, here, serving.connecting, serving.client, kept rfl⟩
    | nextRobotChosen position =>
        simp only [ControllerAgent.step] at taken
        split at taken
        next other choosing =>
          rw [choosing] at here
          cases here
          have found := serving.client (by decide)
          cases taken
          refine .inl ⟨.answering, ?_, fun impossible => (by cases impossible), ?_, kept rfl⟩
          · simp only [nextRobotChosen, found, reduceCtorEq, if_false]
            rfl
          · intro _
            simp only [nextRobotChosen, found, reduceCtorEq, if_false]
            exact found
        · contradiction
    | nextRobotReceived reply =>
        cases step_cases taken with
        | adaptationRefused _ other choosing =>
            exact .inl ⟨phase, here, serving.connecting, serving.client, kept rfl⟩
        | answered other robotPosition robotEndpoint _ answering =>
            rw [answering] at here
            cases here
            have client : servingClient c = some ⟨alive⟩ := by
              rw [servingClient, serving.serving]
              exact serving.client (by decide)
            refine .inr ⟨rfl, ?_⟩
            rw [receivedCalls_append, serving.unanswered]
            cases alive with
            | true =>
                have through : reply ≠ none := reachable.2 client
                simp [isReceivedFor, Option.isSome_iff_ne_none.mpr through]
            | false =>
                have failed : reply = none := reachable.1 client
                simp [isReceivedFor, failed]
    | _ => exact absurd rfl quiet

theorem reaches_serving {began : Controller}
    (initially : ∃ phase, Serving request alive phase [] began)
    (reached : ((machine config).resume began).Reaches (ReachableRequester request) fragment c) :
    (∃ phase, Serving request alive phase fragment c) ∨ Served request alive fragment c := by
  induction reached with
  | start initial =>
      rw [initial]
      exact .inl initially
  | step _ reachable taken ih =>
      rcases ih with ⟨phase, serving⟩ | served
      · exact serving.step reachable taken
      · exact .inr (served.step reachable taken)

end Fragment

section Accepted

def accepted : Output → Option Request
  | .requestAccepted request => some request
  | _ => none

def Handler.request : Handler → Option Request
  | .handleNextRobotRequest request => some request
  | _ => none

def pendingRequests (c : Controller) : List Request := c.posted.filterMap Handler.request

theorem pendingRequests_post (c : Controller) (handler : Handler) :
    pendingRequests (post c handler) = pendingRequests c ++ handler.request.toList := by
  rw [pendingRequests, post, List.filterMap_append]
  cases handler <;> rfl

theorem pendingRequests_updateAt (change : RemoteRobot → RemoteRobot) (place : Place) :
    pendingRequests (updateAt c change place) = pendingRequests c := by
  rw [pendingRequests, posted_updateAt, pendingRequests]

/-- Handlers begin in the order in which their requests were accepted. -/
theorem step_pendingRequests (step : Step config c event after outputs) :
    pendingRequests after <:+ pendingRequests c ++ outputs.filterMap accepted := by
  have kept : after.posted = c.posted → outputs.filterMap accepted = [] →
      pendingRequests after <:+ pendingRequests c ++ outputs.filterMap accepted := by
    intro posted none_
    rw [none_, List.append_nil, pendingRequests, posted]
    exact List.suffix_refl _
  have added : ∀ {before : Controller} {handler : Handler},
      pendingRequests before = pendingRequests c →
      pendingRequests (post before handler) <:+ pendingRequests c ++ handler.request.toList := by
    intro before handler same
    rw [pendingRequests_post, same]
  cases step with
  | registrationReceived => exact added rfl
  | requestReceived => exact added rfl
  | positionNoticed place => exact kept (posted_updateAt _ place) rfl
  | positionChanged place => exact added (pendingRequests_updateAt _ place)
  | capabilitiesNoticed place => exact kept (posted_updateAt _ place) rfl
  | capabilitiesChanged place => exact added (pendingRequests_updateAt _ place)
  | robotStopped place => exact kept (posted_updateAt _ place) rfl
  | handled handler posted idle next ran =>
      have begun : pendingRequests after = posted.filterMap Handler.request := by
        rw [pendingRequests, (handles_same ran).1]
        rfl
      have before : pendingRequests c = handler.request.toList ++ pendingRequests after := by
        rw [begun, pendingRequests, next]
        cases handler <;> rfl
      rw [before]
      exact (List.suffix_append _ _).trans (by rw [List.filterMap_nil, List.append_nil])
  | robotRegistered robot position =>
      refine kept ?_ rfl
      unfold resolveMissedNewPositionCommit
      split
      · rfl
      · split <;> rfl
  | firstCommitted key second =>
      refine kept ?_ rfl
      cases second <;> rfl
  | receiverInitialized request succeeded => cases succeeded <;> exact kept rfl rfl
  | firstAvailable request fromPosition toPosition =>
      refine kept ?_ rfl
      unfold checkSecond
      split
      · rfl
      · split <;> rfl
  | answered request robotPosition robotEndpoint reply => cases reply <;> exact kept rfl rfl
  | _ => exact kept rfl rfl

theorem reaches_pendingRequests {allowed : Controller → Event → Prop}
    {history : History Event Output} (reached : (machine config).Reaches allowed history c) :
    pendingRequests c <:+ (outputsOf history).filterMap accepted := by
  induction reached with
  | start initial =>
      rw [initial]
      exact List.suffix_refl _
  | step _ _ taken ih =>
      obtain ⟨earlier, before⟩ := ih
      rw [outputsOf_append, outputsOf_singleton, List.filterMap_append, ← before, List.append_assoc]
      exact (step_pendingRequests (step_cases taken)).trans (List.suffix_append _ _)

end Accepted

end CpsKitchen.ControllerAgent
