import Mathlib.Data.List.Induction
import ComputeHandles.Proofs.Listing
import ComputeHandles.Registry

/-!
# Lineage of contexts and queues

Where a context or a queue of a program comes from can be told from the requests alone:
it was created by one of them, or it was copied or taken out of something that is there
already. Two of them are the same exactly when they come from one creation, however many
copies and queues lie in between, and requests that fail have no part in it.
-/

namespace ComputeHandles

open Listing

namespace Registry

/-- What a program holds that started with nothing and made these requests. -/
def ofRequests (requests : List Request) : Registry := Registry.empty.run requests

/-- Where a program holds a context. -/
inductive ContextPlace where
  /-- Among the contexts, at a position. -/
  | alone (position : Nat)
  /-- In the queue at a position. -/
  | inQueue (position : Nat)

/-- The context at a place. -/
def contextAt? (r : Registry) : ContextPlace → Option Context
  | .alone position => r.contexts[position]?
  | .inQueue position => r.queues[position]?.map Queue.context

/-- A number has no bit but those of properties. -/
def KnownBits (bits : UInt32) : Prop :=
  bits &&& ~~~(QueueProperties.profilingBit ||| QueueProperties.inOrderBit) = 0

instance (bits : UInt32) : Decidable (KnownBits bits) :=
  inferInstanceAs (Decidable (_ = (0 : UInt32)))

/-- The context at a place comes from the one that the request of a number created, each
request counted from zero. -/
inductive ContextFrom : List Request → ContextPlace → Nat → Prop where
  /-- It was created by itself. -/
  | created {requests : List Request} :
    ContextFrom (requests ++ [.newContext]) (.alone (ofRequests requests).contexts.length)
      requests.length
  /-- It was created with its queue. -/
  | createdInQueue {requests : List Request} {bits : UInt32} {hasHandler : Bool}
      (known : KnownBits bits) :
    ContextFrom (requests ++ [.queueForDevice bits hasHandler])
      (.inQueue (ofRequests requests).queues.length) requests.length
  /-- It was copied. -/
  | copied {requests : List Request} {position creation : Nat}
      (source : ContextFrom requests (.alone position) creation) :
    ContextFrom (requests ++ [.copyContext position])
      (.alone (ofRequests requests).contexts.length) creation
  /-- It was taken from a queue. -/
  | taken {requests : List Request} {queue creation : Nat}
      (source : ContextFrom requests (.inQueue queue) creation) :
    ContextFrom (requests ++ [.contextOf queue])
      (.alone (ofRequests requests).contexts.length) creation
  /-- A queue was created in it. -/
  | given {requests : List Request} {position creation : Nat} {bits : UInt32} {hasHandler : Bool}
      (known : KnownBits bits) (source : ContextFrom requests (.alone position) creation) :
    ContextFrom (requests ++ [.newQueue position bits hasHandler])
      (.inQueue (ofRequests requests).queues.length) creation
  /-- Its queue was copied. -/
  | copiedInQueue {requests : List Request} {queue creation : Nat}
      (source : ContextFrom requests (.inQueue queue) creation) :
    ContextFrom (requests ++ [.copyQueue queue])
      (.inQueue (ofRequests requests).queues.length) creation
  /-- It was there before the last request. -/
  | kept {requests : List Request} {place : ContextPlace} {creation : Nat} {request : Request}
      (source : ContextFrom requests place creation) :
    ContextFrom (requests ++ [request]) place creation

/-- The queue at a position comes by copying from the one that the request of a number
created. -/
inductive QueueFrom : List Request → Nat → Nat → Prop where
  /-- It was created in a context that was there. -/
  | created {requests : List Request} {context : Nat} {bits : UInt32} {hasHandler : Bool}
      (known : KnownBits bits) (there : context < (ofRequests requests).contexts.length) :
    QueueFrom (requests ++ [.newQueue context bits hasHandler])
      (ofRequests requests).queues.length requests.length
  /-- It was created with its context. -/
  | createdForDevice {requests : List Request} {bits : UInt32} {hasHandler : Bool}
      (known : KnownBits bits) :
    QueueFrom (requests ++ [.queueForDevice bits hasHandler])
      (ofRequests requests).queues.length requests.length
  /-- It was copied. -/
  | copied {requests : List Request} {queue creation : Nat}
      (source : QueueFrom requests queue creation) :
    QueueFrom (requests ++ [.copyQueue queue]) (ofRequests requests).queues.length creation
  /-- It was there before the last request. -/
  | kept {requests : List Request} {queue creation : Nat} {request : Request}
      (source : QueueFrom requests queue creation) :
    QueueFrom (requests ++ [request]) queue creation

/-- The queue at a position comes by copying from one that was created in the context at a
position. -/
inductive CreatedIn : List Request → Nat → Nat → Prop where
  /-- It was created there. -/
  | created {requests : List Request} {context : Nat} {bits : UInt32} {hasHandler : Bool}
      (known : KnownBits bits) (there : context < (ofRequests requests).contexts.length) :
    CreatedIn (requests ++ [.newQueue context bits hasHandler])
      (ofRequests requests).queues.length context
  /-- It was copied. -/
  | copied {requests : List Request} {queue context : Nat}
      (source : CreatedIn requests queue context) :
    CreatedIn (requests ++ [.copyQueue queue]) (ofRequests requests).queues.length context
  /-- It was there before the last request. -/
  | kept {requests : List Request} {queue context : Nat} {request : Request}
      (source : CreatedIn requests queue context) :
    CreatedIn (requests ++ [request]) queue context

/-- What a request adds to the contexts and to the queues. -/
inductive Adds (r : Registry) : Request → List Context → List Queue → Prop where
  /-- A context under the ticket of the request. -/
  | newContext : Adds r .newContext [⟨.host, r.ticket⟩] []
  /-- The copied context. -/
  | copyContext {position : Nat} {c : Context} (there : r.contexts[position]? = some c) :
    Adds r (.copyContext position) [c] []
  /-- The context of the queue. -/
  | contextOf {queue : Nat} {q : Queue} (there : r.queues[queue]? = some q) :
    Adds r (.contextOf queue) [q.context] []
  /-- A queue in the context, under the ticket of the request. -/
  | newQueue {position : Nat} {c : Context} {bits : UInt32} {hasHandler : Bool}
      {p : QueueProperties} (known : QueueProperties.ofBits bits = .ok p)
      (there : r.contexts[position]? = some c) :
    Adds r (.newQueue position bits hasHandler) [] [⟨c, .host, p, hasHandler, r.ticket⟩]
  /-- A queue in a context of its own, both under the ticket of the request. -/
  | queueForDevice {bits : UInt32} {hasHandler : Bool} {p : QueueProperties}
      (known : QueueProperties.ofBits bits = .ok p) :
    Adds r (.queueForDevice bits hasHandler) []
      [⟨⟨.host, r.ticket⟩, .host, p, hasHandler, r.ticket⟩]
  /-- The copied queue. -/
  | copyQueue {queue : Nat} {q : Queue} (there : r.queues[queue]? = some q) :
    Adds r (.copyQueue queue) [] [q]
  /-- Nothing, where there is neither a context nor a queue to give. -/
  | nothing {request : Request} (unchanged : r.add (r.answer request).result = r) :
    Adds r request [] []

/-- Known bits are those of some properties. -/
theorem exists_ofBits_of_knownBits {bits : UInt32} (known : KnownBits bits) :
    ∃ p, QueueProperties.ofBits bits = .ok p :=
  ⟨_, if_neg (fun unknown => unknown known)⟩

/-- Unknown bits are refused. -/
theorem ofBits_of_not_knownBits {bits : UInt32} (unknown : ¬ KnownBits bits) :
    QueueProperties.ofBits bits = .error ⟨bits⟩ :=
  if_pos unknown

/-- Bits of properties are known. -/
theorem knownBits_of_ofBits {bits : UInt32} {p : QueueProperties}
    (h : QueueProperties.ofBits bits = .ok p) : KnownBits bits := by
  by_cases known : KnownBits bits
  · exact known
  · rw [ofBits_of_not_knownBits known] at h
    cases h

/-- A context is given at its position. -/
theorem context_eq_ok_iff {r : Registry} {position : Nat} {c : Context} :
    r.context position = .ok c ↔ r.contexts[position]? = some c := by
  rw [context]
  cases r.contexts[position]? with
  | none => simp
  | some found => simp

/-- A queue is given at its position. -/
theorem queue_eq_ok_iff {r : Registry} {position : Nat} {q : Queue} :
    r.queue position = .ok q ↔ r.queues[position]? = some q := by
  rw [queue]
  cases r.queues[position]? with
  | none => simp
  | some found => simp

/-- A request leaves the registry with what it adds, and its ticket is used up. -/
theorem Adds.after_eq {r : Registry} {request : Request} {contexts : List Context}
    {queues : List Queue} (h : r.Adds request contexts queues) :
    r.after request = ⟨r.contexts ++ contexts, r.queues ++ queues, r.ticket + 1⟩ := by
  cases h with
  | newContext =>
    simp [after, answer, Attempt.result_bind, Context.result_create, add]
  | copyContext there => simp [after, answer, context_eq_ok_iff.mpr there, add]
  | contextOf there => simp [after, answer, queue_eq_ok_iff.mpr there, add]
  | newQueue known there =>
    simp [after, answer, known, context_eq_ok_iff.mpr there, Attempt.result_bind,
      Queue.result_create, add]
  | queueForDevice known =>
    simp [after, answer, known, Attempt.result_bind, Queue.result_forDevice, add]
  | copyQueue there => simp [after, answer, queue_eq_ok_iff.mpr there, add]
  | nothing unchanged => simp [after, unchanged]

/-- A bundle is never built from source. -/
theorem answer_buildSource_ne_ok (r : Registry) (position : Nat) (source options : String)
    (product : Product) :
    (r.answer (.buildSource position source options)).result ≠ .ok product := by
  intro h
  obtain ⟨c, -, h⟩ := Attempt.result_bind_eq_ok_iff.mp h
  obtain ⟨b, built, -⟩ := Attempt.result_bind_eq_ok_iff.mp h
  rw [Attempt.result_mapError, KernelBundle.result_ofSource] at built
  cases built

/-- A bundle is never built from a binary. -/
theorem answer_buildSpirv_ne_ok (r : Registry) (position : Nat) (binary : List UInt8)
    (options : String) (product : Product) :
    (r.answer (.buildSpirv position binary options)).result ≠ .ok product := by
  intro h
  obtain ⟨c, -, h⟩ := Attempt.result_bind_eq_ok_iff.mp h
  obtain ⟨b, built, -⟩ := Attempt.result_bind_eq_ok_iff.mp h
  rw [Attempt.result_mapError, KernelBundle.result_ofSpirv] at built
  cases parsed : Spirv.KernelModule.parse binary with
  | ok m => rw [parsed] at built; cases built
  | error fault => rw [parsed] at built; cases built

/-- Where nothing is given, nothing is added. -/
theorem Adds.of_error {r : Registry} {request : Request} {fault : RequestFault}
    (h : (r.answer request).result = .error fault) : r.Adds request [] [] :=
  .nothing (by rw [h, add_error])

/-- Every request adds something or nothing. -/
theorem exists_adds (r : Registry) (request : Request) :
    ∃ contexts queues, r.Adds request contexts queues := by
  cases answer : (r.answer request).result with
  | error fault => exact ⟨[], [], .of_error answer⟩
  | ok product =>
    cases request with
    | newContext => exact ⟨_, _, .newContext⟩
    | copyContext position =>
      obtain ⟨c, there, -⟩ := Attempt.result_bind_eq_ok_iff.mp answer
      exact ⟨_, _, .copyContext (context_eq_ok_iff.mp there)⟩
    | contextOf queue =>
      obtain ⟨q, there, -⟩ := Attempt.result_bind_eq_ok_iff.mp answer
      exact ⟨_, _, .contextOf (queue_eq_ok_iff.mp there)⟩
    | newQueue position bits hasHandler =>
      obtain ⟨p, known, rest⟩ := Attempt.result_bind_eq_ok_iff.mp answer
      obtain ⟨c, there, -⟩ := Attempt.result_bind_eq_ok_iff.mp rest
      exact ⟨_, _, .newQueue (mapError_eq_ok_iff.mp known) (context_eq_ok_iff.mp there)⟩
    | queueForDevice bits hasHandler =>
      obtain ⟨p, known, -⟩ := Attempt.result_bind_eq_ok_iff.mp answer
      exact ⟨_, _, .queueForDevice (mapError_eq_ok_iff.mp known)⟩
    | copyQueue queue =>
      obtain ⟨q, there, -⟩ := Attempt.result_bind_eq_ok_iff.mp answer
      exact ⟨_, _, .copyQueue (queue_eq_ok_iff.mp there)⟩
    | wait queue =>
      obtain ⟨q, -, rest⟩ := Attempt.result_bind_eq_ok_iff.mp answer
      obtain ⟨-, -, waited⟩ := Attempt.result_bind_eq_ok_iff.mp rest
      cases waited
      exact ⟨_, _, .nothing (by rw [answer]; rfl)⟩
    | buildSource position source options =>
      exact absurd answer (answer_buildSource_ne_ok r position source options product)
    | buildSpirv position binary options =>
      exact absurd answer (answer_buildSpirv_ne_ok r position binary options product)

/-- One more request is made of what the others left. -/
theorem ofRequests_append (requests : List Request) (request : Request) :
    ofRequests (requests ++ [request]) = (ofRequests requests).after request := by
  simp [ofRequests, run]

/-- The ticket of a request is its number. -/
theorem ticket_ofRequests (requests : List Request) :
    (ofRequests requests).ticket = requests.length := by
  induction requests using List.reverseRecOn with
  | nil => rfl
  | append_singleton requests request ih =>
    rw [ofRequests_append, List.length_append, after, ih]
    rfl

/-- A context more: the contexts at their places, and the new one at the end. -/
theorem contextAt?_withContext {r : Registry} {new c : Context} {ticket : Nat}
    {place : ContextPlace} :
    contextAt? ⟨r.contexts ++ [new], r.queues ++ [], ticket⟩ place = some c ↔
      r.contextAt? place = some c ∨ place = .alone r.contexts.length ∧ new = c := by
  cases place with
  | alone position => simp [contextAt?, getElem?_concat_eq_some_iff]
  | inQueue position => simp [contextAt?]

/-- A queue more: the contexts at their places, and that of the new queue at the end. -/
theorem contextAt?_withQueue {r : Registry} {new : Queue} {c : Context} {ticket : Nat}
    {place : ContextPlace} :
    contextAt? ⟨r.contexts ++ [], r.queues ++ [new], ticket⟩ place = some c ↔
      r.contextAt? place = some c ∨ place = .inQueue r.queues.length ∧ new.context = c := by
  cases place with
  | alone position => simp [contextAt?]
  | inQueue position =>
    simp only [contextAt?, Option.map_eq_some_iff, getElem?_concat_eq_some_iff,
      ContextPlace.inQueue.injEq]
    constructor
    · rintro ⟨q, old | ⟨last, rfl⟩, rfl⟩
      · exact .inl ⟨q, old, rfl⟩
      · exact .inr ⟨last, rfl⟩
    · rintro (⟨q, old, rfl⟩ | ⟨last, rfl⟩)
      · exact ⟨q, .inl old, rfl⟩
      · exact ⟨new, .inr ⟨last, rfl⟩, rfl⟩

/-- A queue of a registry has its context there. -/
theorem exists_queue_of_contextAt? {r : Registry} {queue : Nat} {c : Context}
    (there : r.contextAt? (.inQueue queue) = some c) :
    ∃ q, r.queues[queue]? = some q ∧ q.context = c :=
  Option.map_eq_some_iff.mp there

/-- A context that a request adds comes behind the others. -/
theorem Adds.contextAt?_newContext {r : Registry} {request : Request} {c : Context}
    (h : r.Adds request [c] []) :
    (r.after request).contextAt? (.alone r.contexts.length) = some c := by
  rw [h.after_eq]
  exact contextAt?_withContext.mpr (.inr ⟨rfl, rfl⟩)

/-- A queue that a request adds comes behind the others. -/
theorem Adds.getElem?_newQueue {r : Registry} {request : Request} {q : Queue}
    (h : r.Adds request [] [q]) : (r.after request).queues[r.queues.length]? = some q := by
  rw [h.after_eq]
  exact List.getElem?_concat_length

/-- The context of a queue that a request adds is there with it. -/
theorem Adds.contextAt?_newQueue {r : Registry} {request : Request} {q : Queue}
    (h : r.Adds request [] [q]) :
    (r.after request).contextAt? (.inQueue r.queues.length) = some q.context :=
  Option.map_eq_some_iff.mpr ⟨q, h.getElem?_newQueue, rfl⟩

/-- Queues stay at their positions whatever a request adds. -/
theorem getElem?_queues_after {r : Registry} {position : Nat} {q : Queue}
    (there : r.queues[position]? = some q) (request : Request) :
    (r.after request).queues[position]? = some q := by
  obtain ⟨contexts, queues, adds⟩ := exists_adds r request
  rw [adds.after_eq, List.getElem?_append_left (List.getElem?_eq_some_iff.mp there).1, there]

/-- Contexts stay at their places whatever a request adds. -/
theorem contextAt?_after {r : Registry} {place : ContextPlace} {c : Context}
    (there : r.contextAt? place = some c) (request : Request) :
    (r.after request).contextAt? place = some c := by
  cases place with
  | alone position =>
    obtain ⟨contexts, queues, adds⟩ := exists_adds r request
    rw [contextAt?] at there ⊢
    rw [adds.after_eq, List.getElem?_append_left (List.getElem?_eq_some_iff.mp there).1, there]
  | inQueue position =>
    obtain ⟨q, found, rfl⟩ := exists_queue_of_contextAt? there
    exact Option.map_eq_some_iff.mpr ⟨q, getElem?_queues_after found request, rfl⟩

/-- The context at a place was created under the number of the creation that it comes from. -/
theorem ContextFrom.exists_contextAt? {requests : List Request} {place : ContextPlace}
    {creation : Nat} (h : ContextFrom requests place creation) :
    ∃ c, (ofRequests requests).contextAt? place = some c ∧ c.ticket = creation := by
  induction h with
  | @created requests =>
    rw [ofRequests_append]
    exact ⟨_, Adds.newContext.contextAt?_newContext, ticket_ofRequests requests⟩
  | @createdInQueue requests bits hasHandler known =>
    obtain ⟨p, known⟩ := exists_ofBits_of_knownBits known
    rw [ofRequests_append]
    exact ⟨_, (Adds.queueForDevice known).contextAt?_newQueue, ticket_ofRequests requests⟩
  | copied source ih =>
    obtain ⟨c, there, ticket⟩ := ih
    rw [ofRequests_append]
    exact ⟨c, (Adds.copyContext there).contextAt?_newContext, ticket⟩
  | taken source ih =>
    obtain ⟨c, there, ticket⟩ := ih
    obtain ⟨q, found, rfl⟩ := exists_queue_of_contextAt? there
    rw [ofRequests_append]
    exact ⟨q.context, (Adds.contextOf found).contextAt?_newContext, ticket⟩
  | given known source ih =>
    obtain ⟨c, there, ticket⟩ := ih
    obtain ⟨p, known⟩ := exists_ofBits_of_knownBits known
    rw [ofRequests_append]
    exact ⟨c, (Adds.newQueue known there).contextAt?_newQueue, ticket⟩
  | copiedInQueue source ih =>
    obtain ⟨c, there, ticket⟩ := ih
    obtain ⟨q, found, rfl⟩ := exists_queue_of_contextAt? there
    rw [ofRequests_append]
    exact ⟨q.context, (Adds.copyQueue found).contextAt?_newQueue, ticket⟩
  | @kept requests place creation request source ih =>
    obtain ⟨c, there, ticket⟩ := ih
    rw [ofRequests_append]
    exact ⟨c, contextAt?_after there request, ticket⟩

/-- Every context comes from the creation whose number it was created under. -/
theorem contextFrom_ticket {requests : List Request} {place : ContextPlace} {c : Context}
    (there : (ofRequests requests).contextAt? place = some c) :
    ContextFrom requests place c.ticket := by
  -- The ticket of a request is its number, so a creation is under one of its own.
  induction requests using List.reverseRecOn generalizing place c with
  | nil => cases place <;> simp [ofRequests, run, empty, contextAt?] at there
  | append_singleton requests request ih =>
    obtain ⟨contexts, queues, adds⟩ := exists_adds (ofRequests requests) request
    rw [ofRequests_append, adds.after_eq] at there
    cases adds with
    | newContext =>
      rcases contextAt?_withContext.mp there with old | ⟨rfl, rfl⟩
      · exact .kept (ih old)
      · rw [ticket_ofRequests]
        exact .created
    | copyContext source =>
      rcases contextAt?_withContext.mp there with old | ⟨rfl, rfl⟩
      · exact .kept (ih old)
      · exact .copied (ih source)
    | contextOf source =>
      rcases contextAt?_withContext.mp there with old | ⟨rfl, rfl⟩
      · exact .kept (ih old)
      · exact .taken (ih (Option.map_eq_some_iff.mpr ⟨_, source, rfl⟩))
    | newQueue known source =>
      rcases contextAt?_withQueue.mp there with old | ⟨rfl, rfl⟩
      · exact .kept (ih old)
      · exact .given (knownBits_of_ofBits known) (ih source)
    | queueForDevice known =>
      rcases contextAt?_withQueue.mp there with old | ⟨rfl, rfl⟩
      · exact .kept (ih old)
      · dsimp only
        rw [ticket_ofRequests]
        exact .createdInQueue (knownBits_of_ofBits known)
    | copyQueue source =>
      rcases contextAt?_withQueue.mp there with old | ⟨rfl, rfl⟩
      · exact .kept (ih old)
      · exact .copiedInQueue (ih (Option.map_eq_some_iff.mpr ⟨_, source, rfl⟩))
    | nothing unchanged =>
      rw [List.append_nil, List.append_nil] at there
      exact .kept (ih there)

/-- The queue at a position was created under the number of the creation that it comes from. -/
theorem QueueFrom.exists_queue {requests : List Request} {queue creation : Nat}
    (h : QueueFrom requests queue creation) :
    ∃ q, (ofRequests requests).queues[queue]? = some q ∧ q.ticket = creation := by
  induction h with
  | @created requests context bits hasHandler known there =>
    obtain ⟨p, known⟩ := exists_ofBits_of_knownBits known
    have found := List.getElem?_eq_getElem there
    rw [ofRequests_append]
    exact ⟨_, (Adds.newQueue known found).getElem?_newQueue, ticket_ofRequests requests⟩
  | @createdForDevice requests bits hasHandler known =>
    obtain ⟨p, known⟩ := exists_ofBits_of_knownBits known
    rw [ofRequests_append]
    exact ⟨_, (Adds.queueForDevice known).getElem?_newQueue, ticket_ofRequests requests⟩
  | copied source ih =>
    obtain ⟨q, found, ticket⟩ := ih
    rw [ofRequests_append]
    exact ⟨q, (Adds.copyQueue found).getElem?_newQueue, ticket⟩
  | @kept requests queue creation request source ih =>
    obtain ⟨q, found, ticket⟩ := ih
    rw [ofRequests_append]
    exact ⟨q, getElem?_queues_after found request, ticket⟩

/-- Every queue comes from the creation whose number it was created under. -/
theorem queueFrom_ticket {requests : List Request} {queue : Nat} {q : Queue}
    (there : (ofRequests requests).queues[queue]? = some q) :
    QueueFrom requests queue q.ticket := by
  induction requests using List.reverseRecOn generalizing queue q with
  | nil => simp [ofRequests, run, empty] at there
  | append_singleton requests request ih =>
    obtain ⟨contexts, queues, adds⟩ := exists_adds (ofRequests requests) request
    rw [ofRequests_append, adds.after_eq] at there
    cases adds with
    | newQueue known source =>
      rcases getElem?_concat_eq_some_iff.mp there with old | ⟨rfl, rfl⟩
      · exact .kept (ih old)
      · dsimp only
        rw [ticket_ofRequests]
        exact .created (knownBits_of_ofBits known) (List.getElem?_eq_some_iff.mp source).1
    | queueForDevice known =>
      rcases getElem?_concat_eq_some_iff.mp there with old | ⟨rfl, rfl⟩
      · exact .kept (ih old)
      · dsimp only
        rw [ticket_ofRequests]
        exact .createdForDevice (knownBits_of_ofBits known)
    | copyQueue source =>
      rcases getElem?_concat_eq_some_iff.mp there with old | ⟨rfl, rfl⟩
      · exact .kept (ih old)
      · exact .copied (ih source)
    | newContext | copyContext | contextOf | nothing =>
      dsimp only at there
      rw [List.append_nil] at there
      exact .kept (ih there)

/-- A context is held exactly where one comes from a creation. -/
theorem exists_contextAt?_iff {requests : List Request} {place : ContextPlace} :
    (∃ c, (ofRequests requests).contextAt? place = some c) ↔
      ∃ creation, ContextFrom requests place creation := by
  constructor
  · rintro ⟨c, there⟩
    exact ⟨c.ticket, contextFrom_ticket there⟩
  · rintro ⟨creation, source⟩
    obtain ⟨c, there, -⟩ := source.exists_contextAt?
    exact ⟨c, there⟩

/-- A queue is held exactly where one comes from a creation. -/
theorem exists_queue_iff {requests : List Request} {queue : Nat} :
    (∃ q, (ofRequests requests).queues[queue]? = some q) ↔
      ∃ creation, QueueFrom requests queue creation := by
  constructor
  · rintro ⟨q, there⟩
    exact ⟨q.ticket, queueFrom_ticket there⟩
  · rintro ⟨creation, source⟩
    obtain ⟨q, there, -⟩ := source.exists_queue
    exact ⟨q, there⟩

/-- A queue works in the context that it was created in. -/
theorem CreatedIn.exists_context {requests : List Request} {queue context : Nat}
    (h : CreatedIn requests queue context) :
    ∃ c, (ofRequests requests).contextAt? (.inQueue queue) = some c ∧
      (ofRequests requests).contextAt? (.alone context) = some c := by
  induction h with
  | @created requests context bits hasHandler known there =>
    obtain ⟨p, known⟩ := exists_ofBits_of_knownBits known
    have found := List.getElem?_eq_getElem there
    have held : (ofRequests requests).contextAt? (.alone context) = some _ := found
    rw [ofRequests_append]
    exact ⟨_, (Adds.newQueue known found).contextAt?_newQueue, contextAt?_after held _⟩
  | copied source ih =>
    obtain ⟨c, working, there⟩ := ih
    obtain ⟨q, found, rfl⟩ := exists_queue_of_contextAt? working
    rw [ofRequests_append]
    exact ⟨_, (Adds.copyQueue found).contextAt?_newQueue, contextAt?_after there _⟩
  | @kept requests queue context request source ih =>
    obtain ⟨c, working, there⟩ := ih
    rw [ofRequests_append]
    exact ⟨c, contextAt?_after working request, contextAt?_after there request⟩

/-- Two contexts are the same exactly when they come from one creation. -/
theorem same_context_iff {requests : List Request} {place other : ContextPlace} {a b : Context}
    (ha : (ofRequests requests).contextAt? place = some a)
    (hb : (ofRequests requests).contextAt? other = some b) :
    a.same b = true ↔
      ∃ creation, ContextFrom requests place creation ∧ ContextFrom requests other creation := by
  rw [Context.same, beq_iff_eq]
  constructor
  · intro same
    exact ⟨a.ticket, contextFrom_ticket ha, same ▸ contextFrom_ticket hb⟩
  · rintro ⟨creation, fromA, fromB⟩
    obtain ⟨c, hc, rfl⟩ := fromA.exists_contextAt?
    obtain ⟨d, hd, ticket⟩ := fromB.exists_contextAt?
    rw [Option.some.inj (ha.symm.trans hc), Option.some.inj (hb.symm.trans hd), ticket]

/-- Two queues are the same exactly when they come from one creation. -/
theorem same_queue_iff {requests : List Request} {queue other : Nat} {a b : Queue}
    (ha : (ofRequests requests).queues[queue]? = some a)
    (hb : (ofRequests requests).queues[other]? = some b) :
    a.same b = true ↔
      ∃ creation, QueueFrom requests queue creation ∧ QueueFrom requests other creation := by
  rw [Queue.same, beq_iff_eq]
  constructor
  · intro same
    exact ⟨a.ticket, queueFrom_ticket ha, same ▸ queueFrom_ticket hb⟩
  · rintro ⟨creation, fromA, fromB⟩
    obtain ⟨c, hc, rfl⟩ := fromA.exists_queue
    obtain ⟨d, hd, ticket⟩ := fromB.exists_queue
    rw [Option.some.inj (ha.symm.trans hc), Option.some.inj (hb.symm.trans hd), ticket]

/-- A request that gives nothing has a fault. -/
theorem exists_fault {r : Registry} {request : Request}
    (h : ∀ product, (r.answer request).result ≠ .ok product) :
    ∃ fault, (r.answer request).result = .error fault := by
  cases answer : (r.answer request).result with
  | ok product => exact absurd answer (h product)
  | error fault => exact ⟨fault, rfl⟩

/-- No queue is given for unknown bits. -/
theorem exists_fault_of_not_knownBits (r : Registry) (context : Nat) {bits : UInt32}
    (hasHandler : Bool) (unknown : ¬ KnownBits bits) :
    (∃ fault, (r.answer (.newQueue context bits hasHandler)).result = .error fault) ∧
      ∃ fault, (r.answer (.queueForDevice bits hasHandler)).result = .error fault := by
  have refused := ofBits_of_not_knownBits unknown
  constructor
  · exact ⟨.invalidProperties ⟨bits⟩, by simp [answer, refused]⟩
  · exact ⟨.invalidProperties ⟨bits⟩, by simp [answer, refused]⟩

/-- After any requests a context or a queue is held exactly where one comes from a creation. Two
contexts, held alone or in queues, are the same exactly when they come from one creation, and two
queues exactly when they do. A queue works in the context that it was created in. A request that
fails adds neither context nor queue, and those for a queue with unknown bits and for a bundle
fail. -/
theorem same_iff_common_creation (requests : List Request) :
    let r := ofRequests requests
    (∀ place, (∃ c, r.contextAt? place = some c) ↔
        ∃ creation, ContextFrom requests place creation) ∧
      (∀ queue, (∃ q, r.queues[queue]? = some q) ↔
        ∃ creation, QueueFrom requests queue creation) ∧
      (∀ place other a b, r.contextAt? place = some a → r.contextAt? other = some b →
        (a.same b = true ↔
          ∃ creation, ContextFrom requests place creation ∧ ContextFrom requests other creation)) ∧
      (∀ queue other a b, r.queues[queue]? = some a → r.queues[other]? = some b →
        (a.same b = true ↔
          ∃ creation, QueueFrom requests queue creation ∧ QueueFrom requests other creation)) ∧
      (∀ queue context, CreatedIn requests queue context →
        ∃ a b, r.contextAt? (.inQueue queue) = some a ∧ r.contextAt? (.alone context) = some b ∧
          a.same b = true) ∧
      (∀ request fault, (r.answer request).result = .error fault →
        (r.after request).contexts = r.contexts ∧ (r.after request).queues = r.queues) ∧
      (∀ context bits hasHandler, ¬ KnownBits bits →
        (∃ fault, (r.answer (.newQueue context bits hasHandler)).result = .error fault) ∧
          ∃ fault, (r.answer (.queueForDevice bits hasHandler)).result = .error fault) ∧
      (∀ context source options,
        ∃ fault, (r.answer (.buildSource context source options)).result = .error fault) ∧
      ∀ context binary options,
        ∃ fault, (r.answer (.buildSpirv context binary options)).result = .error fault := by
  intro r
  refine ⟨fun _ => exists_contextAt?_iff, fun _ => exists_queue_iff,
    fun _ _ _ _ => same_context_iff, fun _ _ _ _ => same_queue_iff, ?_, ?_, ?_, ?_, ?_⟩
  · intro queue context h
    obtain ⟨c, working, there⟩ := h.exists_context
    exact ⟨c, c, working, there, beq_self_eq_true c.ticket⟩
  · intro request fault h
    have left := (Adds.of_error h).after_eq
    rw [left, List.append_nil, List.append_nil]
    exact ⟨rfl, rfl⟩
  · intro context bits hasHandler unknown
    exact exists_fault_of_not_knownBits r context hasHandler unknown
  · intro context source options
    exact exists_fault (answer_buildSource_ne_ok r context source options)
  · intro context binary options
    exact exists_fault (answer_buildSpirv_ne_ok r context binary options)

/-- The context of a queue, taken from it, is that of its copy, though a queue was refused for its
bits in between. A queue with a context of its own shares neither. -/
theorem same_iff_common_creation_copiedQueue :
    let requests := [.newContext, .newQueue 0 6 false, .newQueue 0 1 false, .contextOf 0,
      .queueForDevice 0 true, .copyQueue 0]
    let r := ofRequests requests
    (∃ a b, r.contextAt? (.alone 1) = some a ∧ r.contextAt? (.inQueue 2) = some b ∧
        a.same b = true) ∧
      (∃ a b, r.queues[0]? = some a ∧ r.queues[2]? = some b ∧ a.same b = true) ∧
      (¬ ∃ creation, ContextFrom requests (.alone 0) creation ∧
        ContextFrom requests (.inQueue 1) creation) ∧
      ¬ ∃ creation, QueueFrom requests 0 creation ∧ QueueFrom requests 1 creation := by
  intro requests r
  obtain ⟨heldContexts, heldQueues, contexts, queues, -⟩ := same_iff_common_creation requests
  let two : List Request := [.newContext, .newQueue 0 6 false]
  let four := two ++ [.newQueue 0 1 false] ++ [.contextOf 0]
  have context : ContextFrom (two ++ [.newQueue 0 1 false]) (.inQueue 0) 0 :=
    .kept (ContextFrom.given (by decide) (@ContextFrom.created []))
  have queue : QueueFrom (four ++ [.queueForDevice 0 true]) 0 1 :=
    .kept (.kept (.kept (@QueueFrom.created [.newContext] 0 6 false (by decide) (by decide))))
  have taken : ContextFrom requests (.alone 1) 0 := .kept (.kept (ContextFrom.taken context))
  have copied : ContextFrom requests (.inQueue 2) 0 :=
    ContextFrom.copiedInQueue (.kept (.kept context))
  have copy : QueueFrom requests 2 1 := QueueFrom.copied queue
  refine ⟨?_, ?_, ?_, ?_⟩
  · obtain ⟨a, atA⟩ := (heldContexts (.alone 1)).mpr ⟨0, taken⟩
    obtain ⟨b, atB⟩ := (heldContexts (.inQueue 2)).mpr ⟨0, copied⟩
    exact ⟨a, b, atA, atB, (contexts _ _ a b atA atB).mpr ⟨0, taken, copied⟩⟩
  · obtain ⟨a, atA⟩ := (heldQueues 0).mpr ⟨1, .kept queue⟩
    obtain ⟨b, atB⟩ := (heldQueues 2).mpr ⟨1, copy⟩
    exact ⟨a, b, atA, atB, (queues _ _ a b atA atB).mpr ⟨1, .kept queue, copy⟩⟩
  · intro common
    have same := (contexts (.alone 0) (.inQueue 1) _ _ rfl rfl).mpr common
    exact absurd same (by decide)
  · intro common
    have same := (queues 0 1 _ _ rfl rfl).mpr common
    exact absurd same (by decide)

end Registry

end ComputeHandles
