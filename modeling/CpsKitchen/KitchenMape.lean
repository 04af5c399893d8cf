import CpsKitchen.OrderedMap
import CpsKitchen.ControllerAgent.Model

/-!
# The MAPE implementation

The three strategies of `kitchen_mape.cpp` as functions of the robot map, the
profiles and the actions left to do. What they return is the robot and the
callbacks they make on the way, in this order.
-/

namespace CpsKitchen.KitchenMape

open CpsKitchen.Recipes CpsKitchen.FiniteMap
open CpsKitchen.ControllerAgent (RemoteRobot RobotMap newRemoteRobot)

set_option autoImplicit false

/-- A pointer into the robot map: the key and the robot. -/
abbrev Entry := Position × RemoteRobot

/-- What `get_capabilites` returns. The order stands for the one of the
unordered map, its copies are read alike. -/
structure Profiles where
  entries : List (String × Finset String)
  distinct : (entries.map Prod.fst).Nodup

/-- The robot that a strategy returns, and its callbacks. A callback gets the
positions that the robots have when it is made. -/
structure Choice where
  suitableRobot : Option Entry
  swaps : List (Entry × Entry)
  reconfigurations : List (Entry × String)

section Strategies

/-- The robot has no pending adaptivity and is capable of the action. -/
def isSuitable (action : String) (robot : RemoteRobot) : Bool :=
  !robot.adaptivityIsPending && decide (action ∈ robot.capabilities)

/-- The loop over the robots, from the highest position down. -/
def findSuitable (robots : RobotMap) (action : String) : Option Entry :=
  findHighest (isSuitable action) robots

def isCapableTo (robot : RemoteRobot) (action : RobotAction) : Bool :=
  decide (action.name ∈ robot.capabilities)

/-- The loop that filters out what the robot can do. It pops the first action
untested. -/
def popCapable (robot : RemoteRobot) : List RobotAction → List RobotAction
  | [] => []
  | _ :: rest => rest.dropWhile (isCapableTo robot)

/-- The name of the first profile with the action, or no name. -/
def findProfile (profiles : Profiles) (action : String) : String :=
  ((profiles.entries.find? fun entry => decide (action ∈ entry.2)).map Prod.fst).getD ""

/-- The front of an empty queue is undefined. -/
def simpleCapabilityCheck (robots : RobotMap) (actionQueue : List RobotAction) : Option Choice :=
  match actionQueue with
  | [] => none
  | next :: _ => some ⟨findSuitable robots next.name, [], []⟩

/-- The searches that `simple_rearranging` and `simple_reconfiguration` share.
They adapt where the robot after next stands before the suitable one. -/
def chooseRobots (adapt : RobotAction → Entry → RobotAction → Entry → Choice)
    (robots : RobotMap) (actionQueue : List RobotAction) : Choice :=
  match actionQueue with
  | [] => ⟨none, [], []⟩
  | first :: _ =>
      match findSuitable robots first.name with
      | none => ⟨none, [], []⟩
      | some suitable =>
          match popCapable suitable.2 actionQueue with
          | [] => ⟨some suitable, [], []⟩
          | afterNext :: _ =>
              match findSuitable robots afterNext.name with
              | none => ⟨some suitable, [], []⟩
              | some suitableAfterNext =>
                  if suitable.2.position > suitableAfterNext.2.position then
                    adapt first suitable afterNext suitableAfterNext
                  else ⟨some suitable, [], []⟩

def simpleRearranging (robots : RobotMap) (actionQueue : List RobotAction) : Choice :=
  chooseRobots (fun _ suitable _ suitableAfterNext =>
    ⟨some suitable, [(suitable, suitableAfterNext)], []⟩) robots actionQueue

/-- The `if` over the profiles guards no more than the log line behind it. -/
def simpleReconfiguration (robots : RobotMap) (profiles : Profiles)
    (actionQueue : List RobotAction) : Choice :=
  chooseRobots (fun first suitable afterNext suitableAfterNext =>
    ⟨some suitable, [],
      [(suitable, findProfile profiles afterNext.name),
       (suitableAfterNext, findProfile profiles first.name)]⟩) robots actionQueue

def onNewOrder (robots : RobotMap) (profiles : Profiles) (actionQueue : List RobotAction) :
    Choice :=
  simpleReconfiguration robots profiles actionQueue

end Strategies

variable {robots : RobotMap} {profiles : Profiles} {actionQueue : List RobotAction}
  {suitable suitableAfterNext : Entry} {action : String}

section Choices

def IsSuitableRobot (robots : RobotMap) (action : String) (entry : Entry) : Prop :=
  IsHighest (isSuitable action) robots entry

theorem findSuitable_eq_some_iff {entry : Entry} :
    findSuitable robots action = some entry ↔ IsSuitableRobot robots action entry :=
  findHighest_eq_some_iff

def afterNextAction (robot : RemoteRobot) (actionQueue : List RobotAction) : Option RobotAction :=
  actionQueue[(actionQueue.takeWhile (isCapableTo robot)).length]?

theorem IsSuitableRobot.isCapableTo {next : RobotAction} {entry : Entry}
    (chosen : IsSuitableRobot robots next.name entry) : isCapableTo entry.2 next = true := by
  have holds := chosen.holds
  rw [isSuitable, Bool.and_eq_true] at holds
  exact holds.2

theorem getElem?_length_takeWhile (property : RobotAction → Bool) (actions : List RobotAction) :
    actions[(actions.takeWhile property).length]? = (actions.dropWhile property).head? := by
  induction actions with
  | nil => rfl
  | cons action rest ih =>
      cases holds : property action with
      | true => simpa [holds] using ih
      | false => simp [holds]

/-- The action popped untested is one that the suitable robot can do. -/
theorem popCapable_head? {next : RobotAction} {rest : List RobotAction}
    (chosen : IsSuitableRobot robots next.name suitable) :
    (popCapable suitable.2 (next :: rest)).head? = afterNextAction suitable.2 (next :: rest) := by
  rw [afterNextAction, getElem?_length_takeWhile, popCapable,
    List.dropWhile_cons_of_pos chosen.isCapableTo]

/-- The robot after next stands before the suitable robot. -/
structure Adapts (robots : RobotMap) (actionQueue : List RobotAction)
    (first : RobotAction) (suitable : Entry) (afterNext : RobotAction)
    (suitableAfterNext : Entry) : Prop where
  front : actionQueue.head? = some first
  chosen : IsSuitableRobot robots first.name suitable
  next : afterNextAction suitable.2 actionQueue = some afterNext
  chosenAfterNext : IsSuitableRobot robots afterNext.name suitableAfterNext
  before : suitableAfterNext.2.position < suitable.2.position

variable {adapt : RobotAction → Entry → RobotAction → Entry → Choice}
  {first afterNext : RobotAction}

theorem chooseRobots_adapts
    (adapts : Adapts robots actionQueue first suitable afterNext suitableAfterNext) :
    chooseRobots adapt robots actionQueue = adapt first suitable afterNext suitableAfterNext := by
  obtain ⟨rest, rfl⟩ : ∃ rest, actionQueue = first :: rest := by
    cases actionQueue with
    | nil => exact absurd adapts.front (by simp)
    | cons action rest =>
        cases adapts.front
        exact ⟨rest, rfl⟩
  have popped : (popCapable suitable.2 (first :: rest)).head? =
      afterNextAction suitable.2 (first :: rest) := popCapable_head? adapts.chosen
  rw [adapts.next] at popped
  obtain ⟨behind, popped⟩ := List.head?_eq_some_iff.mp popped
  simp only [chooseRobots, findSuitable_eq_some_iff.mpr adapts.chosen, popped,
    findSuitable_eq_some_iff.mpr adapts.chosenAfterNext]
  exact if_pos adapts.before

/-- Where no robot after next stands before the suitable robot, this one is
returned and nothing else happens. -/
theorem chooseRobots_rests {rest : List RobotAction}
    (rests : ∀ suitable afterNext suitableAfterNext,
      ¬ Adapts robots (first :: rest) first suitable afterNext suitableAfterNext) :
    chooseRobots adapt robots (first :: rest) = ⟨findSuitable robots first.name, [], []⟩ := by
  simp only [chooseRobots]
  split
  next none => rw [none]
  next suitable found =>
    have chosen := findSuitable_eq_some_iff.mp found
    rw [found]
    split
    · rfl
    next afterNext behind popped =>
      split
      · rfl
      next suitableAfterNext foundAfterNext =>
        refine if_neg fun before => rests suitable afterNext suitableAfterNext ?_
        exact
          { front := rfl
            chosen := chosen
            next := by
              rw [← popCapable_head? chosen, popped]
              rfl
            chosenAfterNext := findSuitable_eq_some_iff.mp foundAfterNext
            before := before }

theorem chooseRobots_suitableRobot (rest : List RobotAction)
    (keeps : ∀ suitable afterNext suitableAfterNext,
      (adapt first suitable afterNext suitableAfterNext).suitableRobot = some suitable) :
    (chooseRobots adapt robots (first :: rest)).suitableRobot = findSuitable robots first.name := by
  by_cases adapts : ∃ suitable afterNext suitableAfterNext,
      Adapts robots (first :: rest) first suitable afterNext suitableAfterNext
  · obtain ⟨suitable, afterNext, suitableAfterNext, adapts⟩ := adapts
    rw [chooseRobots_adapts adapts, keeps, findSuitable_eq_some_iff.mpr adapts.chosen]
  · push Not at adapts
    rw [chooseRobots_rests adapts]

end Choices

section Selection

/-- What a strategy has to return: the suitable robot under the highest
position, or null if no robot is suitable. -/
def IsChosen (robots : RobotMap) (action : String) (chosen : Option Entry) : Prop :=
  match chosen with
  | some entry => robots.lookup entry.1 = some entry.2 ∧ isSuitable action entry.2 = true ∧
      ∀ position robot, robots.lookup position = some robot → isSuitable action robot = true →
        robot.position ≤ entry.2.position
  | none => ∀ position robot, robots.lookup position = some robot →
      isSuitable action robot = false

def Choice.swapPositions (choice : Choice) : List (Position × Position) :=
  choice.swaps.map fun swap => (swap.1.2.position, swap.2.2.position)

def KeyedByPosition (robots : RobotMap) : Prop :=
  ∀ position robot, robots.lookup position = some robot → robot.position = position

theorem isChosen_some_iff (keyed : KeyedByPosition robots) {entry : Entry} :
    IsChosen robots action (some entry) ↔ IsSuitableRobot robots action entry := by
  constructor
  · intro chosen
    obtain ⟨found, suits, highest⟩ := chosen
    refine ⟨found, suits, ?_⟩
    intro position robot other suitsToo
    rw [← keyed position robot other, ← keyed entry.1 entry.2 found]
    exact highest position robot other suitsToo
  · intro chosen
    refine ⟨chosen.found, chosen.holds, ?_⟩
    intro position robot other suits
    rw [keyed position robot other, keyed entry.1 entry.2 chosen.found]
    exact chosen.highest position robot other suits

theorem findSuitable_isChosen (keyed : KeyedByPosition robots) (action : String) :
    IsChosen robots action (findSuitable robots action) := by
  cases found : findSuitable robots action with
  | none => exact findHighest_eq_none_iff.mp found
  | some entry => exact (isChosen_some_iff keyed).mpr (findSuitable_eq_some_iff.mp found)

/-- All strategies return the suitable robot under the highest position. The
rearranging one asks for one swap if the robot after next stands before it,
and for none otherwise. -/
theorem robots_chosen (robots : RobotMap) (profiles : Profiles) (keyed : KeyedByPosition robots)
    (next : RobotAction) (rest : List RobotAction) :
    ∃ chosen, IsChosen robots next.name chosen ∧
      (simpleCapabilityCheck robots (next :: rest)).map Choice.suitableRobot = some chosen ∧
      (simpleRearranging robots (next :: rest)).suitableRobot = chosen ∧
      (simpleReconfiguration robots profiles (next :: rest)).suitableRobot = chosen ∧
      (chosen = none → (simpleRearranging robots (next :: rest)).swapPositions = []) ∧
      ∀ suitable, chosen = some suitable →
        (∀ afterNext suitableAfterNext,
          afterNextAction suitable.2 (next :: rest) = some afterNext →
          IsChosen robots afterNext.name (some suitableAfterNext) →
          suitableAfterNext.2.position < suitable.2.position →
            (simpleRearranging robots (next :: rest)).swapPositions =
              [(suitable.2.position, suitableAfterNext.2.position)] ∧
            suitable ≠ suitableAfterNext ∧
            Equiv.swap suitable.2.position suitableAfterNext.2.position suitable.2.position <
              Equiv.swap suitable.2.position suitableAfterNext.2.position
                suitableAfterNext.2.position) ∧
        ((∀ afterNext suitableAfterNext,
          afterNextAction suitable.2 (next :: rest) = some afterNext →
          IsChosen robots afterNext.name (some suitableAfterNext) →
          ¬ suitableAfterNext.2.position < suitable.2.position) →
            (simpleRearranging robots (next :: rest)).swapPositions = []) := by
  have rests : (∀ suitable afterNext suitableAfterNext,
      ¬ Adapts robots (next :: rest) next suitable afterNext suitableAfterNext) →
      (simpleRearranging robots (next :: rest)).swapPositions = [] := by
    intro rests
    rw [simpleRearranging, chooseRobots_rests rests]
    rfl
  refine ⟨findSuitable robots next.name, findSuitable_isChosen keyed next.name, rfl,
    chooseRobots_suitableRobot rest (fun _ _ _ => rfl),
    chooseRobots_suitableRobot rest (fun _ _ _ => rfl), ?_, ?_⟩
  · intro none
    refine rests fun suitable afterNext suitableAfterNext adapts => ?_
    rw [findSuitable_eq_some_iff.mpr adapts.chosen] at none
    contradiction
  · intro suitable found
    have chosen := findSuitable_eq_some_iff.mp found
    constructor
    · intro afterNext suitableAfterNext action chosenAfterNext before
      have adapts : Adapts robots (next :: rest) next suitable afterNext suitableAfterNext :=
        ⟨rfl, chosen, action, (isChosen_some_iff keyed).mp chosenAfterNext, before⟩
      refine ⟨?_, ?_, ?_⟩
      · rw [simpleRearranging, chooseRobots_adapts adapts]
        rfl
      · intro same
        rw [same] at before
        exact lt_irrefl _ before
      · rw [Equiv.swap_apply_left, Equiv.swap_apply_right]
        exact before
    · intro behind
      refine rests fun other afterNext suitableAfterNext adapts => ?_
      have same : other = suitable := adapts.chosen.unique chosen
      subst same
      exact behind afterNext suitableAfterNext adapts.next
        ((isChosen_some_iff keyed).mpr adapts.chosenAfterNext) adapts.before

end Selection

section Profiles

def Provides (profiles : Profiles) (profile action : String) : Prop :=
  ∃ capabilities, (profile, capabilities) ∈ profiles.entries ∧ action ∈ capabilities

def Choice.profileCalls (choice : Choice) : List (Position × String) :=
  choice.reconfigurations.map fun call => (call.1.2.position, call.2)

/-- No callback is made, or both are, each with a profile for the action it was
looked up for. -/
def ReconfiguresUsably (robots : RobotMap) (profiles : Profiles)
    (actionQueue : List RobotAction) : Prop :=
  (simpleReconfiguration robots profiles actionQueue).profileCalls = [] ∨
    ∃ first suitable afterNext suitableAfterNext profile otherProfile,
      actionQueue.head? = some first ∧ IsSuitableRobot robots first.name suitable ∧
      afterNextAction suitable.2 actionQueue = some afterNext ∧
      IsSuitableRobot robots afterNext.name suitableAfterNext ∧
      (simpleReconfiguration robots profiles actionQueue).profileCalls =
        [(suitable.2.position, profile), (suitableAfterNext.2.position, otherProfile)] ∧
      Provides profiles profile afterNext.name ∧ Provides profiles otherProfile first.name

theorem findProfile_provides_iff :
    Provides profiles (findProfile profiles action) action ↔
      ∃ profile, Provides profiles profile action := by
  constructor
  · intro provides
    exact ⟨_, provides⟩
  · intro provided
    obtain ⟨profile, capabilities, member, contains⟩ := provided
    cases found : profiles.entries.find? fun entry => decide (action ∈ entry.2) with
    | none =>
        have none := List.find?_eq_none.mp found _ member
        exact absurd contains (by simpa using none)
    | some entry =>
        have holds := List.find?_some found
        refine ⟨entry.2, ?_, of_decide_eq_true holds⟩
        rw [findProfile, found]
        exact List.mem_of_find?_eq_some found

theorem Adapts.unique {first afterNext otherFirst otherAfterNext : RobotAction}
    {other : Entry}
    (adapts : Adapts robots actionQueue first suitable afterNext suitableAfterNext)
    (front : actionQueue.head? = some otherFirst)
    (chosen : IsSuitableRobot robots otherFirst.name other)
    (next : afterNextAction other.2 actionQueue = some otherAfterNext) :
    otherFirst = first ∧ otherAfterNext = afterNext := by
  have sameFirst : otherFirst = first := Option.some.inj (front.symm.trans adapts.front)
  rw [sameFirst] at chosen
  rw [chosen.unique adapts.chosen, adapts.next] at next
  exact ⟨sameFirst, (Option.some.inj next).symm⟩

/-- The strategy reconfigures with usable profiles exactly if, where the robot
after next stands before the suitable one, there is a profile for both of the
actions. -/
theorem reconfigures_usably_iff (robots : RobotMap) (profiles : Profiles)
    (actionQueue : List RobotAction) :
    ReconfiguresUsably robots profiles actionQueue ↔
      ∀ first suitable afterNext suitableAfterNext,
        Adapts robots actionQueue first suitable afterNext suitableAfterNext →
          (∃ profile, Provides profiles profile afterNext.name) ∧
          ∃ profile, Provides profiles profile first.name := by
  constructor
  · intro usable first suitable afterNext suitableAfterNext adapts
    have calls : (simpleReconfiguration robots profiles actionQueue).profileCalls =
        [(suitable.2.position, findProfile profiles afterNext.name),
         (suitableAfterNext.2.position, findProfile profiles first.name)] := by
      rw [simpleReconfiguration, chooseRobots_adapts adapts]
      rfl
    rcases usable with none | usable
    · rw [calls] at none
      contradiction
    · obtain ⟨otherFirst, other, otherAfterNext, otherSecond, profile, otherProfile, front, chosen,
        next, _, _, provides, providesFirst⟩ := usable
      obtain ⟨sameFirst, sameNext⟩ := adapts.unique front chosen next
      rw [sameNext] at provides
      rw [sameFirst] at providesFirst
      exact ⟨⟨profile, provides⟩, otherProfile, providesFirst⟩
  · intro provided
    cases actionQueue with
    | nil => exact .inl rfl
    | cons first rest =>
        by_cases adapts : ∃ suitable afterNext suitableAfterNext,
            Adapts robots (first :: rest) first suitable afterNext suitableAfterNext
        · obtain ⟨suitable, afterNext, suitableAfterNext, adapts⟩ := adapts
          obtain ⟨forNext, forFirst⟩ := provided first suitable afterNext suitableAfterNext adapts
          refine .inr ⟨first, suitable, afterNext, suitableAfterNext, _, _, adapts.front,
            adapts.chosen, adapts.next, adapts.chosenAfterNext, ?_,
            findProfile_provides_iff.mpr forNext, findProfile_provides_iff.mpr forFirst⟩
          rw [simpleReconfiguration, chooseRobots_adapts adapts]
          rfl
        · push Not at adapts
          refine .inl ?_
          rw [simpleReconfiguration, chooseRobots_rests adapts]
          rfl

end Profiles

section Examples

def boilingRobot : RemoteRobot := newRemoteRobot "boiling" 3 {"boil", "braise", "fry"}

def cuttingRobot : RemoteRobot := newRemoteRobot "cutting" 1 {"peel", "cut"}

def twoRobots : RobotMap := Finmap.insert 1 cuttingRobot (Finmap.singleton 3 boilingRobot)

theorem lookup_twoRobots (position : Position) :
    twoRobots.lookup position =
      if position = 1 then some cuttingRobot
      else if position = 3 then some boilingRobot else none := by
  rw [twoRobots, lookup_insert_eq]
  split
  · rfl
  · split
    next third =>
      rw [third]
      exact Finmap.lookup_singleton_eq
    next other =>
      exact Finmap.lookup_eq_none.mpr (by simpa [Finmap.mem_singleton] using other)

theorem twoRobots_keyed : KeyedByPosition twoRobots := by
  intro position robot found
  rw [lookup_twoRobots] at found
  split at found
  next first =>
    cases found
    exact first.symm
  · split at found
    next third =>
      cases found
      exact third.symm
    · contradiction

theorem fry_chosen : IsChosen twoRobots "fry" (some (3, boilingRobot)) := by
  refine ⟨lookup_twoRobots 3, by decide, ?_⟩
  intro position robot found _
  rw [lookup_twoRobots] at found
  split at found
  · cases found
    decide
  · split at found
    · cases found
      decide
    · contradiction

theorem cut_chosen : IsChosen twoRobots "cut" (some (1, cuttingRobot)) := by
  refine ⟨lookup_twoRobots 1, by decide, ?_⟩
  intro position robot found suits
  rw [lookup_twoRobots] at found
  split at found
  · cases found
    exact le_refl _
  · split at found
    · cases found
      exact absurd suits (by decide)
    · contradiction

def fryAndCut : List RobotAction := [⟨"fry", .fryer, "onion", 3⟩, ⟨"cut", .cutter, "onion", 3⟩]

/-- The robots are asked to swap, since the cutting robot stands before the
boiling one. -/
theorem cutting_robot_swapped :
    (simpleRearranging twoRobots fryAndCut).suitableRobot = some (3, boilingRobot) ∧
    (simpleRearranging twoRobots fryAndCut).swapPositions = [(3, 1)] := by
  obtain ⟨chosen, isChosen, _, rearranging, _, _, swaps⟩ :=
    robots_chosen twoRobots ⟨[], by decide⟩ twoRobots_keyed ⟨"fry", .fryer, "onion", 3⟩
      [⟨"cut", .cutter, "onion", 3⟩]
  have found : findSuitable twoRobots "fry" = some (3, boilingRobot) :=
    findSuitable_eq_some_iff.mpr ((isChosen_some_iff twoRobots_keyed).mp fry_chosen)
  have same : chosen = some (3, boilingRobot) :=
    rearranging.symm.trans ((chooseRobots_suitableRobot _ (fun _ _ _ => rfl)).trans found)
  obtain ⟨swapped, _⟩ := (swaps _ same).1 ⟨"cut", .cutter, "onion", 3⟩ (1, cuttingRobot)
    (by decide) cut_chosen (by decide)
  exact ⟨rearranging.trans same, swapped⟩

theorem twoRobots_adapts :
    Adapts twoRobots fryAndCut ⟨"fry", .fryer, "onion", 3⟩ (3, boilingRobot)
      ⟨"cut", .cutter, "onion", 3⟩ (1, cuttingRobot) where
  front := rfl
  chosen := (isChosen_some_iff twoRobots_keyed).mp fry_chosen
  next := by decide
  chosenAfterNext := (isChosen_some_iff twoRobots_keyed).mp cut_chosen
  before := by decide

/-- No profile contains the action `cut`, and the boiling robot is reconfigured
with no profile at all. -/
theorem boiling_robot_gets_no_profile :
    (simpleReconfiguration twoRobots ⟨[("r2.json", {"boil", "braise", "fry"})], by decide⟩
      fryAndCut).profileCalls = [(3, ""), (1, "r2.json")] ∧
    ¬ ReconfiguresUsably twoRobots ⟨[("r2.json", {"boil", "braise", "fry"})], by decide⟩
      fryAndCut := by
  have calls : (simpleReconfiguration twoRobots
      ⟨[("r2.json", {"boil", "braise", "fry"})], by decide⟩ fryAndCut).profileCalls =
        [(3, ""), (1, "r2.json")] := by
    rw [simpleReconfiguration, chooseRobots_adapts twoRobots_adapts]
    decide
  refine ⟨calls, ?_⟩
  rintro (none | ⟨_, _, _, _, profile, _, _, _, _, _, made, provides, _⟩)
  · rw [calls] at none
    contradiction
  · rw [calls] at made
    obtain ⟨capabilities, member, _⟩ := provides
    simp only [List.cons.injEq, Prod.mk.injEq] at made
    rw [← made.1.2] at member
    simp at member

end Examples

end CpsKitchen.KitchenMape
