import ComputeHandles.Proofs.Handle.Frame
import ComputeHandles.Proofs.Handle.Selection
import ComputeHandles.Proofs.Queue.Properties
import ComputeHandles.Proofs.Registry.Lineage

/-!
# Queues that are created for a number

A queue has the properties of the number it was created for. Across the boundary no queue is
handed out for a number with an unknown bit. For any other there is one, and it tells the bits
of the number however long it is kept. A copy of a queue tells the bits of the number that the
queue it descends from was created for.
-/

namespace ComputeHandles

open QueueProperties (HasUnknownBit)

/-- The number that a request creates a queue for. -/
def Request.propertyBits? : Request → Option UInt32
  | .newQueue _ bits _ | .queueForDevice bits _ => some bits
  | .newContext | .copyContext _ | .contextOf _ | .copyQueue _ | .wait _ | .buildSource _ _ _
  | .buildSpirv _ _ _ => none

/-- A function creates a queue for a number, and the handles it is given are live. -/
inductive CreatesQueue (w : World) (bits : UInt32) : ExportedFunction (.handle .queue) → Prop where
  /-- In a context of its own. -/
  | forDevice {slot : HandleArgument} {device : Device} {hasHandler : Bool}
      (live : w.slots.find .device slot = some device) :
    CreatesQueue w bits (.createQueueForDevice slot hasHandler bits)
  /-- In a given context. -/
  | inContext {contextSlot deviceSlot : HandleArgument} {context : Context} {device : Device}
      {hasHandler : Bool} (liveContext : w.slots.find .context contextSlot = some context)
      (liveDevice : w.slots.find .device deviceSlot = some device) :
    CreatesQueue w bits (.createQueue contextSlot deviceSlot hasHandler bits)

/-- The queue of a slot tells the bits of a number: asked for the order, the third, and asked
for profiling, the second. -/
def World.TellsBits (w : World) (slot : HandleArgument) (bits : UInt32) : Prop :=
  ∀ out, Call.Gives w (.queueInOrder slot) out (bits.toNat.testBit 2) ∧
    Call.Gives w (.queueProfiling slot) out (bits.toNat.testBit 1)

variable {w : World} {bits : UInt32} {function : ExportedFunction (.handle .queue)}

/-- A queue whose properties have the bits of a number tells them. -/
theorem World.tellsBits_of_live {slot : HandleArgument} {q : Queue}
    (live : w.slots.find .queue slot = some q) (same : q.properties.bits = bits) :
    w.TellsBits slot bits := by
  intro out
  rw [← QueueProperties.inOrder_of_bits same, ← QueueProperties.profiling_of_bits same]
  constructor
  · apply Call.gives_of_eq_done
    rw [ExportedFunction.perform, Slots.require_eq_ok live]
    rfl
  · apply Call.gives_of_eq_done
    rw [ExportedFunction.perform, Slots.require_eq_ok live]
    rfl

namespace CreatesQueue

/-- A number with an unknown bit is all that is complained about. -/
theorem perform_of_unknown (h : CreatesQueue w bits function) (unknown : HasUnknownBit bits) :
    function.perform w.slots w.inventory w.ticket =
      Attempt.fail (.ofMessage (InvalidQueueProperties.mk bits).message) := by
  have refused : readProperties bits =
      .error (.ofMessage (InvalidQueueProperties.mk bits).message) := by
    rw [readProperties, QueueProperties.ofBits_eq_error_iff.mpr ⟨unknown, rfl⟩]
    rfl
  cases h with
  | forDevice live =>
    rw [ExportedFunction.perform, Slots.require_eq_ok live, refused]
    rfl
  | inContext liveContext liveDevice =>
    rw [ExportedFunction.perform, Slots.require_eq_ok liveContext, Slots.require_eq_ok liveDevice,
      refused]
    rfl

/-- Of any other number comes a queue with its bits. -/
theorem exists_queue (h : CreatesQueue w bits function) (known : ¬ HasUnknownBit bits) :
    ∃ q, (function.perform w.slots w.inventory w.ticket).result = .ok q ∧
      q.properties.bits = bits := by
  obtain ⟨p, read⟩ := QueueProperties.exists_ofBits_iff.mpr known
  have same : p.bits = bits := QueueProperties.bits_of_ofBits read
  have given : readProperties bits = .ok p := by
    rw [readProperties, read]
    rfl
  cases h with
  | forDevice live =>
    rw [ExportedFunction.perform, Slots.require_eq_ok live, given]
    exact ⟨_, rfl, same⟩
  | inContext liveContext liveDevice =>
    rw [ExportedFunction.perform, Slots.require_eq_ok liveContext, Slots.require_eq_ok liveDevice,
      given]
    exact ⟨_, rfl, same⟩

/-- No queue is handed out for a number with an unknown bit. -/
theorem fails (h : CreatesQueue w bits function) (unknown : HasUnknownBit bits) (out : String) :
    Call.Fails w function out []
      (function.name ++ ": " ++ (InvalidQueueProperties.mk bits).message) :=
  Call.fails_of_message (h.perform_of_unknown unknown) out

/-- A queue is handed out for any other number, and it has the bits of that. -/
theorem exists_held (h : CreatesQueue w bits function) (known : ¬ HasUnknownBit bits)
    (out : String) :
    let made := (Call.guarded function out).perform w
    made.reply = .handle true ∧
      ∃ q, made.world.slots.get .queue out = some q ∧ q.properties.bits = bits := by
  intro made
  obtain ⟨q, created, same⟩ := h.exists_queue known
  have left : made = _ := Call.perform_guarded_of_ok created out
  rw [left]
  exact ⟨rfl, q, Slots.get_put_self w.slots .queue out (some q), same⟩

end CreatesQueue

/-- A queue has the bits of the number that the one it descends from was created for. -/
theorem Registry.QueueFrom.exists_bits {requests : List Request} {queue creation : Nat}
    (h : QueueFrom requests queue creation) :
    ∃ bits q, requests[creation]?.bind Request.propertyBits? = some bits ∧
      (ofRequests requests).queues[queue]? = some q ∧ q.properties.bits = bits := by
  -- The request of the creation stays where it is when others come behind it.
  have stays {requests : List Request} {creation : Nat} {bits : UInt32}
      (made : requests[creation]?.bind Request.propertyBits? = some bits) (request : Request) :
      (requests ++ [request])[creation]?.bind Request.propertyBits? = some bits := by
    obtain ⟨old, found, number⟩ := Option.bind_eq_some_iff.mp made
    rw [List.getElem?_append_left (List.getElem?_eq_some_iff.mp found).1, found]
    exact number
  induction h with
  | @created requests context bits hasHandler known there =>
    obtain ⟨p, known⟩ := exists_ofBits_of_knownBits known
    have found := List.getElem?_eq_getElem there
    rw [ofRequests_append, List.getElem?_concat_length]
    exact ⟨bits, _, rfl, (Adds.newQueue known found).getElem?_newQueue,
      QueueProperties.bits_of_ofBits known⟩
  | @createdForDevice requests bits hasHandler known =>
    obtain ⟨p, known⟩ := exists_ofBits_of_knownBits known
    rw [ofRequests_append, List.getElem?_concat_length]
    exact ⟨bits, _, rfl, (Adds.queueForDevice known).getElem?_newQueue,
      QueueProperties.bits_of_ofBits known⟩
  | copied source ih =>
    obtain ⟨bits, q, made, found, same⟩ := ih
    rw [ofRequests_append]
    exact ⟨bits, q, stays made _, (Adds.copyQueue found).getElem?_newQueue, same⟩
  | @kept requests queue creation request source ih =>
    obtain ⟨bits, q, made, found, same⟩ := ih
    rw [ofRequests_append]
    exact ⟨bits, q, stays made request, getElem?_queues_after found request, same⟩

/-- A number is refused, as that number, exactly when it has an unknown bit, and is otherwise
read as the properties that it is the number of. With live handles the null handle is handed out
for it exactly in the first case, with the refusal as the last error. In the second the queue
tells the third bit when it is asked for the order and the second when it is asked for profiling,
as long as nothing is done to its slot. Every copy of a queue has the bits of the number that the
queue it descends from was created for. Properties that are changed one at a time have what each
was given last, and are read back from their number. -/
theorem queue_keeps_propertyBits :
    (∀ bits,
      (∀ e, QueueProperties.ofBits bits = .error e ↔ HasUnknownBit bits ∧ e = ⟨bits⟩) ∧
      (∀ p, QueueProperties.ofBits bits = .ok p ↔ p.bits = bits) ∧
      ((∃ p, QueueProperties.ofBits bits = .ok p) ↔ ¬ HasUnknownBit bits)) ∧
    (∀ (w : World) bits function out, CreatesQueue w bits function →
      let made := (Call.guarded function out).perform w
      (made.reply = .handle false ↔ HasUnknownBit bits) ∧
      (HasUnknownBit bits → Call.Fails w function out []
        (function.name ++ ": " ++ (InvalidQueueProperties.mk bits).message)) ∧
      (¬ HasUnknownBit bits → ∀ steps, (HandleKind.queue, out) ∉ Step.allWritten steps →
        (Step.runAll made.world steps).2.TellsBits (some out) bits)) ∧
    (∀ requests queue creation, Registry.QueueFrom requests queue creation → ∃ bits q,
      requests[creation]?.bind Request.propertyBits? = some bits ∧
        (Registry.ofRequests requests).queues[queue]? = some q ∧
        q.properties.inOrder = bits.toNat.testBit 2 ∧
        q.properties.profiling = bits.toNat.testBit 1) ∧
    ∀ updates : List QueueProperties.Update, let p := QueueProperties.ofUpdates updates
      p.inOrder = (updates.filterMap QueueProperties.Update.inOrder?).getLast?.getD false ∧
        p.profiling = (updates.filterMap QueueProperties.Update.profiling?).getLast?.getD false ∧
        QueueProperties.ofBits p.bits = .ok p := by
  refine ⟨fun bits => ⟨fun e => QueueProperties.ofBits_eq_error_iff,
    fun p => QueueProperties.ofBits_eq_ok_iff, QueueProperties.exists_ofBits_iff⟩, ?_, ?_, ?_⟩
  · intro w bits function out creates made
    refine ⟨?_, fun unknown => creates.fails unknown out, ?_⟩
    · by_cases unknown : HasUnknownBit bits
      · exact iff_of_true (creates.fails unknown out).reply unknown
      · have handedOut : made.reply = .handle true := (creates.exists_held unknown out).1
        simp [handedOut, unknown]
    · intro known steps alone
      obtain ⟨-, q, held, same⟩ := creates.exists_held known out
      have kept := Step.get_runAll steps made.world alone
      exact World.tellsBits_of_live (kept.trans held) same
  · intro requests queue creation descends
    obtain ⟨bits, q, created, held, same⟩ := descends.exists_bits
    exact ⟨bits, q, created, held, QueueProperties.inOrder_of_bits same,
      QueueProperties.profiling_of_bits same⟩
  · intro updates p
    have given : p = _ := QueueProperties.ofUpdates_eq updates
    exact ⟨by rw [given], by rw [given], QueueProperties.ofBits_bits p⟩

/-- A queue for the second and the third bit still tells both when its device is given up, and
for the first bit there is none. -/
theorem queue_keeps_propertyBits_six :
    let w := (Step.runAll World.initial [.call (.fixedSelector none "s"),
      .call (.guarded (.createDevice (some "s")) "d")]).2
    let create bits := ExportedFunction.createQueueForDevice (some "d") false bits
    (CreatesQueue w 6 (create 6) ∧ ¬ HasUnknownBit 6 ∧
      CreatesQueue w 1 (create 1) ∧ HasUnknownBit 1) ∧
      (Step.runAll ((Call.guarded (create 6) "q").perform w).world
        [.call (.delete .device (some "d"))]).2.TellsBits (some "q") 6 ∧
      ((Call.guarded (create 1) "q").perform w).reply = .handle false := by
  intro w create
  obtain ⟨numbers, created, -, -⟩ := queue_keeps_propertyBits
  have known : ¬ HasUnknownBit 6 := (numbers 6).2.2.mp ⟨⟨true, true⟩, by rfl⟩
  have unknown : HasUnknownBit 1 := (((numbers 1).1 ⟨1⟩).mp (by rfl)).1
  have six : CreatesQueue w 6 (create 6) := .forDevice (by rfl)
  have one : CreatesQueue w 1 (create 1) := .forDevice (by rfl)
  refine ⟨⟨six, known, one, unknown⟩, ?_, (created w 1 (create 1) "q" one).1.mpr unknown⟩
  exact (created w 6 (create 6) "q" six).2.2 known _ (by decide)

end ComputeHandles
