import ComputeHandles.Handle.Perform

/-!
# Sessions

A session is a run of steps by one caller. Most steps are calls; a caller can also take
over a bundle or a kernel made elsewhere, look at the object of a handle, and run an
outcome of its own through the boundary. A thread runs its steps with the same slots and
the same devices of the process, and with a last error of its own, which starts out empty
and is gone when the thread ends.
-/

namespace ComputeHandles

open Text

/-- What a session works on. -/
structure World where
  /-- The slots that hold handles. -/
  slots : Slots
  /-- The message of the last failure on this thread, if any. -/
  lastError : Option String
  /-- The ticket of the next creation. -/
  ticket : Nat
  /-- The devices of the process. -/
  inventory : Inventory

/-- A process begins: all slots are empty and nothing has failed. -/
def World.begin (inventory : Inventory) : World := ⟨Slots.empty, none, 0, inventory⟩

/-- The beginning where nothing restricts the devices and they were listed before. -/
def World.initial : World := World.begin .unrestricted

/-- A call of an exported function. -/
inductive Call where
  /-- A function that can fail, and the slot for the handle it returns, if any. -/
  | guarded {sort : ResultSort} (function : ExportedFunction sort) (out : String)
  /-- A selector by type, or by preference without one. -/
  | fixedSelector (type : Option DeviceType) (out : String)
  /-- Gives a handle up. -/
  | delete (kind : HandleKind) (slot : HandleArgument)
  /-- Asks for the last error. -/
  | lastMessage
  /-- Forgets the last error. -/
  | clearError
  /-- Gives a text up. -/
  | deleteText

/-- What a step returns. -/
inductive Reply where
  /-- A handle, or the null handle. -/
  | handle (live : Bool)
  /-- A text, or null. -/
  | text (content : Option CText)
  /-- A number. -/
  | number (value : Int)
  /-- A truth value. -/
  | flag (value : Bool)
  /-- Something was given up. -/
  | deleted
  /-- The last error was forgotten. -/
  | cleared
  /-- The object of a handle, if the handle is not null. -/
  | target (kind : HandleKind) (object : Option kind.Target)

/-- What a function returns for a value, or for none. -/
def ResultSort.reply : (sort : ResultSort) → Option sort.Value → Reply
  | .handle _, value => .handle value.isSome
  | .text, value => .text value
  | .number, value => .number (value.getD (-1))
  | .flag, value => .flag (value.getD false)

/-- The slots after a function; a returned handle, live or null, goes to its slot. -/
def ResultSort.store (slots : Slots) (out : String) :
    (sort : ResultSort) → Option sort.Value → Slots
  | .handle kind, value => slots.put kind out value
  | .text, _ | .number, _ | .flag, _ => slots

/-- The selector of a type, or the one by preference. -/
def Selector.fixed : Option DeviceType → Selector
  | none => .preferred
  | some type => .ofType type

/-- What one step leaves behind. -/
structure Effect where
  /-- What it returned. -/
  reply : Reply
  /-- The records it wrote, oldest first. -/
  log : List Record
  /-- What the session works on from then on. -/
  world : World

/-- The world one ticket later. -/
def World.next (w : World) (slots : Slots) : World := { w with slots, ticket := w.ticket + 1 }

/-- The world after an operation that asked for the devices or did not. -/
def World.afterAsking (w : World) (asked : Bool) : World :=
  { w with inventory := w.inventory.after asked }

/-- Makes a call. -/
def Call.perform (w : World) : Call → Effect
  | @Call.guarded sort function out =>
    let inside := function.perform w.slots w.inventory w.ticket
    let returned := boundary function.name inside
    { reply := sort.reply returned.value
      log := returned.log
      world :=
        { (w.afterAsking inside.asked).next (sort.store w.slots out returned.value) with
          lastError := returned.lastError w.lastError } }
  | .fixedSelector type out =>
    ⟨.handle true, [], w.next (w.slots.put .selector out (some (.fixed type)))⟩
  | .delete kind slot => ⟨.deleted, [], w.next (w.slots.erase kind slot)⟩
  | .lastMessage => ⟨.text (messageText w.lastError), [], w⟩
  | .clearError => ⟨.cleared, [], { w with lastError := none }⟩
  | .deleteText => ⟨.deleted, [], w⟩

/-- A step of a session. -/
inductive Step where
  /-- A call. -/
  | call (call : Call)
  /-- Takes over a bundle with these kernels, built for the host. -/
  | adoptBundle (names : List String) (out : String)
  /-- Takes over a kernel of a bundle. -/
  | adoptKernel (bundle : HandleArgument) (name : String) (arguments : UInt32) (out : String)
  /-- Looks at the object of a handle. -/
  | inspect (kind : HandleKind) (slot : HandleArgument)
  /-- Runs an outcome through the boundary. -/
  | guard (function : String) (failure : Int) (outcome : Except Fault Int)
  /-- Runs steps on a thread of their own. -/
  | thread (steps : List Step)

/-- What a session answers to a step. -/
inductive Answer where
  /-- The reply, the last error after the step and the records of the step. -/
  | step (reply : Reply) (lastMessage : Option CText) (log : List Record)
  /-- The answers to the steps of a thread. -/
  | thread (answers : List Answer)

/-- The answer to a step with an effect, and the world after it. -/
def Effect.answer (e : Effect) : Answer × World :=
  (.step e.reply (messageText e.world.lastError) e.log, e.world)

/-- Takes over a bundle with these kernels in a context of its own. -/
def World.adoptBundle (w : World) (names : List String) (out : String) : Effect :=
  let bundle : KernelBundle := ⟨⟨.host, w.ticket⟩, .host, names⟩
  ⟨.handle true, [], w.next (w.slots.put .bundle out (some bundle))⟩

/-- Takes over a kernel of a bundle; of the null handle there is none. -/
def World.adoptKernel (w : World) (bundle : HandleArgument) (name : String)
    (arguments : UInt32) (out : String) : Effect :=
  let kernel := (w.slots.find .bundle bundle).map fun b => (⟨b, name, arguments⟩ : Kernel)
  ⟨.handle kernel.isSome, [], w.next (w.slots.put .kernel out kernel)⟩

/-- Runs an outcome through the boundary. -/
def World.guard (w : World) (function : String) (failure : Int) (outcome : Except Fault Int) :
    Effect :=
  let returned := boundary function (Attempt.ofExcept outcome)
  ⟨.number (returned.valueOr failure), returned.log,
    { w with lastError := returned.lastError w.lastError }⟩

mutual

/-- Takes a step. -/
def Step.run (w : World) : Step → Answer × World
  | .call made => (made.perform w).answer
  | .adoptBundle names out => (w.adoptBundle names out).answer
  | .adoptKernel bundle name arguments out => (w.adoptKernel bundle name arguments out).answer
  | .inspect kind slot => (⟨.target kind (w.slots.find kind slot), [], w⟩ : Effect).answer
  | .guard function failure outcome => (w.guard function failure outcome).answer
  | .thread steps =>
    let (answers, after) := Step.runAll { w with lastError := none } steps
    (.thread answers, { after with lastError := w.lastError })

/-- Takes steps one after the other. -/
def Step.runAll (w : World) : List Step → List Answer × World
  | [] => ([], w)
  | step :: rest =>
    let (answer, next) := step.run w
    let (answers, after) := Step.runAll next rest
    (answer :: answers, after)

end

/-- The answers of a session that starts with nothing. -/
def runSession (steps : List Step) : List Answer := (Step.runAll World.initial steps).1

end ComputeHandles
