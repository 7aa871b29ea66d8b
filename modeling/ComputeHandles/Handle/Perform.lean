import ComputeHandles.Handle.Argument

/-!
# What the exported functions do

Inside the boundary a function reads its arguments from the slots, does its work and
yields a value or a fault. It sees the slots but changes none, it asks for the devices
of the process only to select or score one, and what it creates has the ticket of the
call.
-/

namespace ComputeHandles

open Text

/-- The work of a function on the slots and the devices, under the ticket of the call. -/
def ExportedFunction.perform (slots : Slots) (inventory : Inventory) (ticket : Nat)
    {sort : ResultSort} : ExportedFunction sort → Attempt Fault sort.Value
  | .createFilterSelector filter => do
    let text ← readText "filter" filter
    Attempt.ofExceptWith Fault.ofFilter (Selector.parse text)
  | .scoreDevice selector device => do
    let selector ← slots.require .selector "selector" selector
    let device ← slots.require .device "device" device
    inventory.score selector device
  | .createDevice selector => do
    let selector ← slots.require .selector "selector" selector
    (inventory.select selector).mapError Fault.ofNotFound
  | .copyDevice device => slots.require .device "device" device
  | .deviceName device => do
    let device ← slots.require .device "device" device
    writeText device.info.name
  | .deviceVendor device => do
    let device ← slots.require .device "device" device
    writeText device.info.vendor
  | .deviceBackend device => do
    let device ← slots.require .device "device" device
    return device.kind.backend.code
  | .deviceType device => do
    let device ← slots.require .device "device" device
    return device.kind.deviceType.code
  | .deviceIsHost device => do
    let device ← slots.require .device "device" device
    return device.isHost
  | .devicesEqual a b => do
    let a ← slots.require .device "a" a
    let b ← slots.require .device "b" b
    return a == b
  | .createContext device => do
    let device ← slots.require .device "device" device
    Context.create ticket device
  | .copyContext context => slots.require .context "context" context
  | .contextDevice context => do
    let context ← slots.require .context "context" context
    return context.device
  | .contextDeviceCount context => do
    let context ← slots.require .context "context" context
    return (context.deviceCount : Int)
  | .contextsEqual a b => do
    let a ← slots.require .context "a" a
    let b ← slots.require .context "b" b
    return a.same b
  | .createQueueForDevice device hasHandler properties => do
    let device ← slots.require .device "device" device
    let properties ← readProperties properties
    Queue.forDevice ticket device hasHandler properties
  | .createQueue context device hasHandler properties => do
    let context ← slots.require .context "context" context
    let device ← slots.require .device "device" device
    let properties ← readProperties properties
    Queue.create ticket context device hasHandler properties
  | .queueContext queue => do
    let queue ← slots.require .queue "queue" queue
    return queue.context
  | .queueDevice queue => do
    let queue ← slots.require .queue "queue" queue
    return queue.device
  | .queueInOrder queue => do
    let queue ← slots.require .queue "queue" queue
    return queue.properties.inOrder
  | .queueProfiling queue => do
    let queue ← slots.require .queue "queue" queue
    return queue.properties.profiling
  | .waitForQueue queue => do
    let queue ← slots.require .queue "queue" queue
    Attempt.ofExceptWith Fault.ofAsync queue.wait
    return true
  | .queuesEqual a b => do
    let a ← slots.require .queue "a" a
    let b ← slots.require .queue "b" b
    return a.same b
  | .buildSource context device source options => do
    let context ← slots.require .context "context" context
    let device ← slots.require .device "device" device
    let source ← readText "source" source
    let options ← readOptions options
    (KernelBundle.ofSource context device source options).mapError Fault.ofBuild
  | .buildSpirv context device binary options => do
    let context ← slots.require .context "context" context
    let device ← slots.require .device "device" device
    let binary ← readBinary "il" binary
    let options ← readOptions options
    (KernelBundle.ofSpirv context device binary options).mapError Fault.ofBuild
  | .bundleHasKernel bundle name => do
    let bundle ← slots.require .bundle "bundle" bundle
    let name ← readText "name" name
    return bundle.has name
  | .bundleKernel bundle name => do
    let bundle ← slots.require .bundle "bundle" bundle
    let name ← readText "name" name
    Attempt.ofExceptWith Fault.ofKernel (bundle.kernel name)
  | .bundleKernelCount bundle => do
    let bundle ← slots.require .bundle "bundle" bundle
    return (bundle.kernelNames.length : Int)
  | .bundleKernelName bundle index => do
    let bundle ← slots.require .bundle "bundle" bundle
    match bundle.kernelNames[index.toNat]? with
    | some name => writeText name
    | none => Attempt.fail (.ofIndex index bundle.kernelNames.length)
  | .kernelArgumentCount kernel => do
    let kernel ← slots.require .kernel "kernel" kernel
    return (kernel.arguments.toNat : Int)
  | .kernelName kernel => do
    let kernel ← slots.require .kernel "kernel" kernel
    writeText kernel.name
  | .copyKernel kernel => slots.require .kernel "kernel" kernel

end ComputeHandles
