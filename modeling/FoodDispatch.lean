import FoodDispatch.Library.Program
import FoodDispatch.Library.Monitor
import FoodDispatch.Library.Execution
import FoodDispatch.Library.Interleaving
import FoodDispatch.Library.Rounding
import FoodDispatch.Library.Table
import FoodDispatch.PrepEstimator
import FoodDispatch.Json
import FoodDispatch.MapsModels
import FoodDispatch.MapsClient
import FoodDispatch.MapsReplies
import FoodDispatch.Models
import FoodDispatch.Database
import FoodDispatch.Calls
import FoodDispatch.Deployment
import FoodDispatch.Walk
import FoodDispatch.Effects
import FoodDispatch.Ledger
import FoodDispatch.SingleDriver
import FoodDispatch.DriverOnce
import FoodDispatch.LoopEdges
import FoodDispatch.Agreement
import FoodDispatch.Window
import FoodDispatch.Deletion
import FoodDispatch.Surroundings
import FoodDispatch.Candidates
import FoodDispatch.Tick
import FoodDispatch.Library.Exchanges
import FoodDispatch.RealTime
import FoodDispatch.Routes
import FoodDispatch.Reading
import FoodDispatch.Failures
import FoodDispatch.Isolation
import FoodDispatch.OrderRoute
import FoodDispatch.Library.Ranking
import FoodDispatch.Nearest
import FoodDispatch.Fixpoint
import FoodDispatch.ExtraDriver
import FoodDispatch.Library.Locking
import FoodDispatch.Locks
import FoodDispatch.Lifecycle
import FoodDispatch.Freshness
import FoodDispatch.Library.Balance
import FoodDispatch.Accounting
import FoodDispatch.Library.Matching
import FoodDispatch.Refinement
import FoodDispatch.Throughput
import FoodDispatch.Floats
import FoodDispatch.MockDrivers
import FoodDispatch.Fleet
import FoodDispatch.Library.Bounce
import FoodDispatch.Headings
import FoodDispatch.Library.Diary
import FoodDispatch.Evaluations
import FoodDispatch.Provenance
import FoodDispatch.Outages
import FoodDispatch.Library.Playing
import FoodDispatch.Records
import FoodDispatch.Simulators
import FoodDispatch.Seeding
import FoodDispatch.Library.Sequential
import FoodDispatch.Library.Footprint
import FoodDispatch.Footprints
import FoodDispatch.Uninterrupted
