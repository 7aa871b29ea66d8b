import ComputeHandles.Bundle.Basic

/-!
# A registry of contexts and queues

A program that works with contexts and queues of the host directly keeps them in the
order it got them. Every request has a ticket of its own, so copies of a context or
queue are the same one and separate creations never are. A request that fails adds
nothing.
-/

namespace ComputeHandles

/-- The contexts and queues a program holds. -/
structure Registry where
  /-- The contexts, in order. -/
  contexts : List Context
  /-- The queues, in order. -/
  queues : List Queue
  /-- The ticket of the next request. -/
  ticket : Nat
  deriving DecidableEq, Repr

/-- Nothing is held yet. -/
def Registry.empty : Registry := ⟨[], [], 0⟩

/-- What a program can ask for. Contexts and queues are named by their positions. -/
inductive Request where
  /-- A new context. -/
  | newContext
  /-- A copy of a context. -/
  | copyContext (context : Nat)
  /-- The context of a queue. -/
  | contextOf (queue : Nat)
  /-- A new queue in a context. -/
  | newQueue (context : Nat) (bits : UInt32) (hasHandler : Bool)
  /-- A new queue in a new context. -/
  | queueForDevice (bits : UInt32) (hasHandler : Bool)
  /-- A copy of a queue. -/
  | copyQueue (queue : Nat)
  /-- The end of the work of a queue. -/
  | wait (queue : Nat)
  /-- A bundle built from source. -/
  | buildSource (context : Nat) (source options : String)
  /-- A bundle built from a SPIR-V binary. -/
  | buildSpirv (context : Nat) (binary : List UInt8) (options : String)
  deriving DecidableEq, Repr

/-- What a program gets. -/
inductive Product where
  /-- A context. -/
  | context (context : Context)
  /-- A queue. -/
  | queue (queue : Queue)
  /-- A bundle. -/
  | bundle (bundle : KernelBundle)
  /-- The work of a queue has ended. -/
  | waited
  deriving DecidableEq, Repr

/-- Why a program gets nothing. -/
inductive RequestFault where
  /-- No context has this position. -/
  | noContext (context : Nat)
  /-- No queue has this position. -/
  | noQueue (queue : Nat)
  /-- A number is no set of queue properties. -/
  | invalidProperties (error : InvalidQueueProperties)
  /-- An error turned up while waiting. -/
  | async (error : AsyncError)
  /-- A bundle was not built. -/
  | build (fault : BuildFault)
  deriving DecidableEq, Repr

namespace Registry

/-- The context at a position. -/
def context (r : Registry) (position : Nat) : Except RequestFault Context :=
  match r.contexts[position]? with
  | some c => .ok c
  | none => .error (.noContext position)

/-- The queue at a position. -/
def queue (r : Registry) (position : Nat) : Except RequestFault Queue :=
  match r.queues[position]? with
  | some q => .ok q
  | none => .error (.noQueue position)

/-- What a request gives, without its effect on the registry. -/
def answer (r : Registry) : Request → Attempt RequestFault Product
  | .newContext => return .context (← Context.create r.ticket .host)
  | .copyContext position => return .context (← r.context position)
  | .contextOf position => return .context (← r.queue position).context
  | .newQueue position bits hasHandler => do
    let properties ← Attempt.ofExceptWith .invalidProperties (QueueProperties.ofBits bits)
    let context ← r.context position
    return .queue (← Queue.create r.ticket context .host hasHandler properties)
  | .queueForDevice bits hasHandler => do
    let properties ← Attempt.ofExceptWith .invalidProperties (QueueProperties.ofBits bits)
    return .queue (← Queue.forDevice r.ticket .host hasHandler properties)
  | .copyQueue position => return .queue (← r.queue position)
  | .wait position => do
    let queue ← r.queue position
    Attempt.ofExceptWith .async queue.wait
    return .waited
  | .buildSource position source options => do
    let context ← r.context position
    return .bundle (← (KernelBundle.ofSource context .host source options).mapError .build)
  | .buildSpirv position binary options => do
    let context ← r.context position
    return .bundle (← (KernelBundle.ofSpirv context .host binary options).mapError .build)

/-- The registry with what a request gave. -/
def add (r : Registry) : Except RequestFault Product → Registry
  | .ok (.context c) => { r with contexts := r.contexts ++ [c] }
  | .ok (.queue q) => { r with queues := r.queues ++ [q] }
  | .ok (.bundle _) | .ok .waited | .error _ => r

/-- The registry after a request; its ticket is used up. -/
def after (r : Registry) (request : Request) : Registry :=
  { r.add (r.answer request).result with ticket := r.ticket + 1 }

/-- The registry after several requests, first to last. -/
def run (r : Registry) (requests : List Request) : Registry := requests.foldl after r

/-- A request that fails adds nothing. -/
theorem add_error (r : Registry) (fault : RequestFault) : r.add (.error fault) = r := rfl

end Registry

end ComputeHandles
