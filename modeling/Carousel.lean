import Carousel.Ring
import Carousel.Lock
import Carousel.Clock.Divider
import Carousel.Clock.Tree
import Carousel.Timer.Service
import Carousel.Board.Debugger
import Carousel.Script.Simulation
import Carousel.Demo.Run
import Carousel.Proofs.Scheduler.Pass
import Carousel.Proofs.Scheduler.Run
import Carousel.Proofs.Scheduler.Handover
import Carousel.Proofs.Timer.Calls
import Carousel.Proofs.Timer.Period
import Carousel.Proofs.Memory
import Carousel.Proofs.Stack.Arena
import Carousel.Proofs.Stack.Account
import Carousel.Proofs.Scheduler.Stacks
import Carousel.Proofs.Board.Context
import Carousel.Proofs.Board.Saved
import Carousel.Proofs.Board.Launch
import Carousel.Proofs.Board.Run
import Carousel.Proofs.Scheduler.Sleep
import Carousel.Proofs.Scheduler.Instant
import Carousel.Proofs.Scheduler.Isolation
import Carousel.Proofs.Scheduler.Blind
import Carousel.Proofs.Timer.Run
import Carousel.Proofs.Timer.Schedule
import Carousel.Proofs.Timer.Recheck
import Carousel.Proofs.Ring
import Carousel.Proofs.Bus.Program
import Carousel.Proofs.Clock.Divider
import Carousel.Proofs.Clock.Start
import Carousel.Proofs.Task.Name
import Carousel.Proofs.Scheduler.Turn
import Carousel.Proofs.Scheduler.LifeCycle
import Carousel.Proofs.Scheduler.Spawn
import Carousel.Proofs.Scheduler.Scan
import Carousel.Proofs.Scheduler.Depth
import Carousel.Proofs.Scheduler.Repeat
import Carousel.Proofs.Lock
import Carousel.Proofs.Board.First
import Carousel.Proofs.Board.Untouched
import Carousel.Proofs.Board.Loads
import Carousel.Proofs.Board.Ports
import Carousel.Proofs.Word
import Carousel.Proofs.Board.Entry
import Carousel.Proofs.Demo.Boot
import Carousel.Proofs.Demo.Counter
import Carousel.Proofs.Demo.Life
import Carousel.Proofs.Board.Books
import Carousel.Proofs.Board.Threads
import Carousel.Proofs.Board.Life
