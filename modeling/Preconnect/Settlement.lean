import Preconnect.Crew

/-!
What becomes of the connections once no worker is left. They are either all accepted by the pool or
all closed, in the order of arrival, and only a panic can stop that halfway.
-/
namespace Preconnect

structure Summary where
  established : UInt32
  failed : UInt32
  firstFailure : Option Failure
  deriving DecidableEq

def Summary.isComplete (summary : Summary) : Bool := summary.failed == 0

inductive Conclusion
  | succeeded (summary : Summary)
  | failed (error : Error)
  | panicked (payload : Payload)
  /-- It was given up while it ran. -/
  | cancelled
  deriving DecidableEq

structure Books where
  log : Log
  pool : Pool

namespace Books

def emit (observer : Observer) (books : Books) (notice : Notice) : Books × Option Payload :=
  ({ books with log := observer.emit books.log notice }, observer.panic? notice)

def call (books : Books) (call : PoolCall) : Books × Option Payload :=
  let (pool, reply) := books.pool.call call
  let log := books.log.add (.called call)
  (⟨if reply.drops then log.drop [call.connection] else log, pool⟩, reply.panic?)

/-- The connections that the pool was not given yet end here. -/
def drop (books : Books) (connections : List Established) : Books :=
  { books with log := books.log.drop (connections.map (·.connection)) }

def acceptAll (books : Books) : List Established → Books × Option Payload
  | [] => (books, none)
  | established :: rest =>
    match books.call (.accept established.connection) with
    | (books, some payload) => (books.drop rest, some payload)
    | (books, none) => books.acceptAll rest

def closeAll (observer : Observer) (books : Books) : List Established → Books × Option Payload
  | [] => (books, none)
  | established :: rest =>
    match books.call (.close established.connection) with
    | (books, some payload) => (books.drop rest, some payload)
    | (books, none) =>
      match books.emit observer (.closed established.attempt) with
      | (books, some payload) => (books.drop rest, some payload)
      | (books, none) => books.closeAll observer rest

/-- Ends with a notice, after which the warm-up concludes unless something has panicked. -/
def conclude (observer : Observer) (notice : Notice) (conclusion : Conclusion) :
    Books × Option Payload → Books × Conclusion
  | (books, some payload) => (books, .panicked payload)
  | (books, none) =>
    match books.emit observer notice with
    | (books, some payload) => (books, .panicked payload)
    | (books, none) => (books, conclusion)

end Books

namespace Crew

def mishaps (crew : Crew) : List (Nat × Mishap) :=
  crew.stages.toList.zipIdx.filterMap fun (stage, worker) => stage.mishap?.map (worker, ·)

def reportMishaps (observer : Observer) (crew : Crew) : Crew :=
  { crew with
    log := crew.mishaps.foldl (fun log (worker, mishap) =>
      observer.trace log (.workerTerminated worker mishap)) crew.log }

def recordNeverRun (crew : Crew) : Crew :=
  let (attempts, queue) := crew.queue.drain
  attempts.foldl (fun crew attempt =>
    { crew with log := crew.log.add (.neverRun attempt) }.record attempt (.error .neverRun))
    { crew with queue }

/-- The connections go to the pool or are closed, as the request wants it. -/
def settle (request : Request) (observer : Observer) (crew : Crew) (pool : Pool) :
    Crew × Pool × Conclusion :=
  let crew := (crew.reportMishaps observer).recordNeverRun
  let (connections, arrivals) := crew.arrivals.drain
  let established := UInt32.ofNat connections.length
  let books : Books := ⟨crew.log, pool⟩
  let (books, conclusion) :=
    match request.failFast, crew.firstFailure.kept with
    | true, some failure =>
      Books.conclude observer (.failed failure established) (.failed ⟨.warmupFailed failure⟩)
        (books.closeAll observer connections)
    | _, firstFailure =>
      let failed := request.target - established
      Books.conclude observer (.succeeded established failed)
        (.succeeded ⟨established, failed, firstFailure⟩) (books.acceptAll connections)
  ({ crew with arrivals, log := books.log }, books.pool, conclusion)

end Crew

end Preconnect
