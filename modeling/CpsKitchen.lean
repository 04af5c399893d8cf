import CpsKitchen.Reactive.Machine
import CpsKitchen.Reactive.Visits
import CpsKitchen.Reactive.Pipeline
import CpsKitchen.Reactive.Matching
import CpsKitchen.Reactive.Ledger
import CpsKitchen.Reactive.Refinement
import CpsKitchen.Reactive.Termination
import CpsKitchen.FiniteMap
import CpsKitchen.OrderedMap
import CpsKitchen.Ring
import CpsKitchen.Exchange
import CpsKitchen.Recipes
import CpsKitchen.RobotMap
import CpsKitchen.RobotMapEdits
import CpsKitchen.Json
import CpsKitchen.RobotAgent.Model
import CpsKitchen.RobotAgent.Transitions
import CpsKitchen.RobotAgent.SelfLock
import CpsKitchen.RobotAgent.Drivers
import CpsKitchen.RobotAgent.DriverHandlers
import CpsKitchen.RobotAgent.OneDriver
import CpsKitchen.RobotAgent.Work
import CpsKitchen.RobotAgent.Simulation
import CpsKitchen.RobotAgent.Dishes
import CpsKitchen.RobotAgent.Progress
import CpsKitchen.RobotAgent.TaskOrder
import CpsKitchen.RobotAgent.LoadAccounting
import CpsKitchen.RobotAgent.Countdown
import CpsKitchen.RobotAgent.Execution
import CpsKitchen.RecipeFile
import CpsKitchen.AcceptedRecipes
import CpsKitchen.RobotAgent.RecipeLoad
import CpsKitchen.RobotAgent.Travel
import CpsKitchen.RobotAgent.TravelTime
import CpsKitchen.RobotAgent.Commits
import CpsKitchen.RobotAgent.TimeToRest
import CpsKitchen.RobotAgent.Chores
import CpsKitchen.RobotAgent.Rest
import CpsKitchen.RobotAgent.Effort
import CpsKitchen.RobotAgent.Arrival
import CpsKitchen.RobotAgent.Tools
import CpsKitchen.ConveyorAgent.Model
import CpsKitchen.ConveyorAgent.Transitions
import CpsKitchen.ConveyorAgent.RemoteRobots
import CpsKitchen.ConveyorAgent.RequestQueue
import CpsKitchen.ConveyorAgent.Belt
import CpsKitchen.ConveyorAgent.Loops
import CpsKitchen.ConveyorAgent.Turns
import CpsKitchen.ConveyorAgent.HashOrder
import CpsKitchen.ConveyorAgent.Driver
import CpsKitchen.ConveyorAgent.Dishes
import CpsKitchen.ConveyorAgent.Contents
import CpsKitchen.ConveyorAgent.Answers
import CpsKitchen.ConveyorAgent.Plates
import CpsKitchen.ConveyorAgent.Offers
import CpsKitchen.ConveyorAgent.Trips
import CpsKitchen.ConveyorAgent.Rounds
import CpsKitchen.KitchenAgent.Model
import CpsKitchen.KitchenAgent.Transitions
import CpsKitchen.KitchenAgent.RemoteRobots
import CpsKitchen.KitchenAgent.Orders
import CpsKitchen.KitchenAgent.PlacingGate
import CpsKitchen.KitchenAgent.Backlog
import CpsKitchen.KitchenAgent.Drawn
import CpsKitchen.ControllerAgent.Model
import CpsKitchen.ControllerAgent.Transitions
import CpsKitchen.ControllerAgent.Swaps
import CpsKitchen.ControllerAgent.HalfSwaps
import CpsKitchen.ControllerAgent.Reports
import CpsKitchen.ControllerAgent.Registry
import CpsKitchen.ControllerAgent.RegistryCleanUp
import CpsKitchen.ControllerAgent.RegistryCompletion
import CpsKitchen.ControllerAgent.RegistryHandlers
import CpsKitchen.ControllerAgent.RegistrySteps
import CpsKitchen.ControllerAgent.Consistency
import CpsKitchen.ControllerAgent.Receivers
import CpsKitchen.ControllerAgent.Answering
import CpsKitchen.KitchenMape
import CpsKitchen.Selection.Model
import CpsKitchen.Selection.Swapless
import CpsKitchen.Selection.Handling
import CpsKitchen.Selection.Choosing
import CpsKitchen.Selection.Answers
import CpsKitchen.Rearrangement.Model
import CpsKitchen.Rearrangement.Stages
import CpsKitchen.Rearrangement.Swapping
import CpsKitchen.Rearrangement.Moves
import CpsKitchen.Rearrangement.Handlers
import CpsKitchen.Rearrangement.Calls
import CpsKitchen.Rearrangement.Protocol
import CpsKitchen.Rearrangement.Joining
import CpsKitchen.Rearrangement.Arrivals
import CpsKitchen.Rearrangement.JoiningCalls
import CpsKitchen.Rearrangement.Newcomers
import CpsKitchen.RobotMapOrder
import CpsKitchen.Plant.Pickup
import CpsKitchen.Plant.Model
import CpsKitchen.Plant.Transitions
import CpsKitchen.Plant.Dishes
import CpsKitchen.Plant.Orders
import CpsKitchen.Plant.Delivery
import CpsKitchen.Plant.Deadlock
import CpsKitchen.Plant.Progress
import CpsKitchen.Plant.OrderBook
import CpsKitchen.Plant.LifeCycle
import CpsKitchen.Plant.Undisturbed
import CpsKitchen.Plant.Standstill
import CpsKitchen.Plant.Quiescence
import CpsKitchen.Rearrangement.Acceptance
import CpsKitchen.Rearrangement.Destinations
import CpsKitchen.Rearrangement.Restart
import CpsKitchen.Rearrangement.Recovery
import CpsKitchen.Rearrangement.Homecoming
import CpsKitchen.Rearrangement.Completion
