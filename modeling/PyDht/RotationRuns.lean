import PyDht.JsonlRotation
import PyDht.JsonlWriterRuns

set_option autoImplicit false

namespace PyDht

variable {Record : Type}

/-- The records that the items of a queue carry to the event file. -/
def JsonlItem.events (items : List (JsonlItem Record)) : List Record :=
  items.filterMap fun item =>
    match item with
    | .event record => some record
    | .snapshot _ _ | .flush _ | .stop => none

/-- The item that the thread works on. -/
def JsonlThread.items : JsonlThread Record → List (JsonlItem Record)
  | .executing item => [item]
  | .idle | .flushing | .draining | .leaving | .ended => []

/-- The writer with its files. Kept beside them are the records that `emit` accepted, those that
the thread took from the queue and those that it wrote, the event files that were rotated away, and
for each future how many records had been accepted when it was made. -/
structure JsonlStore (Record : Type) where
  writer : JsonlWriter Record
  directory : JsonlDirectory Record := []
  accepted : List Record := []
  dequeued : List Record := []
  written : List Record := []
  rotated : List (List Record) := []
  calledAt : List Nat := []

namespace JsonlStore

/-- A started writer in an empty directory. -/
def new (capacity : Int) : JsonlStore Record := { writer := .new capacity }

/-- The event file as the write of the record made it, if it is there no more when the write is
done. -/
def rotatedBy (limits : RotationLimits Record) (record : Record)
    (directory : JsonlDirectory Record) : List (List Record) :=
  match Dict.get? JsonlFile.events (JsonlDirectory.writeEvent limits record directory) with
  | some _ => []
  | none => [(Dict.get? JsonlFile.events directory).getD [] ++ [record]]

/-- What the thread does with the files when it is done with an item. -/
def execute (limits : RotationLimits Record) (store : JsonlStore Record) : JsonlStore Record :=
  match store.writer.thread with
  | .executing (.event record) =>
      { store with
        directory := JsonlDirectory.writeEvent limits record store.directory
        written := store.written ++ [record]
        rotated := store.rotated ++ rotatedBy limits record store.directory }
  | .executing (.snapshot records _) =>
      { store with directory := JsonlDirectory.writeSnapshot records store.directory }
  | _ => store

/-- What happens besides the step of the writer itself. -/
def effect (limits : RotationLimits Record) (store : JsonlStore Record) :
    JsonlEvent Record → JsonlStore Record
  | .emit record =>
      if (store.writer.emit record).1 then { store with accepted := store.accepted ++ [record] }
      else store
  | .get =>
      { store with dequeued := store.dequeued ++ JsonlItem.events store.writer.queue.items.head?.toList }
  | .complete => store.execute limits
  | .snapshot _ | .flush | .close | .put _ | .cancel _ | .deliver | .resumeClose _ | .putStop
  | .cancelStop | .timeout | .fail | .drain | .finish => store

def step (limits : RotationLimits Record) (store : JsonlStore Record) (event : JsonlEvent Record) :
    Option (JsonlStore Record) :=
  (store.writer.step event).map fun next =>
    { store.effect limits event with
      writer := next
      calledAt :=
        if store.writer.futures < next.futures then store.calledAt ++ [store.accepted.length]
        else store.calledAt }

/-- The future was made when this many records, or fewer, had been accepted. -/
def Covered (calledAt : List Nat) (count future : Nat) : Prop :=
  ∃ number, calledAt[future]? = some number ∧ number ≤ count

/-- With `count` records taken before it, each waiter in the queue has the records of its call in
front of it. -/
def Lined (calledAt : List Nat) : Nat → List (JsonlItem Record) → Prop
  | _, [] => True
  | count, item :: items =>
      (∀ future, item.future = some future → Covered calledAt count future) ∧
        Lined calledAt (count + (JsonlItem.events [item]).length) items

/-- Records and waiters pass the queue in the order of their calls. -/
structure Ordered (store : JsonlStore Record) : Prop where
  working : store.writer.thread ≠ .draining
  accepted : store.accepted = store.dequeued ++ JsonlItem.events store.writer.queue.items
  dequeued : store.dequeued = store.written ++ JsonlItem.events store.writer.thread.items
  calls : store.calledAt.length = store.writer.futures
  putting : ∀ entry ∈ store.writer.putting, entry.2.future = some entry.1 ∧
    Covered store.calledAt store.accepted.length entry.1
  lined : Lined store.calledAt store.dequeued.length store.writer.queue.items
  running : ∀ item ∈ store.writer.thread.items, ∀ future, item.future = some future →
    Covered store.calledAt store.written.length future
  done : ∀ future, (future, true) ∈ store.writer.scheduled ∨
    (future, true) ∈ store.writer.outcomes → Covered store.calledAt store.written.length future

theorem Covered.mono {calledAt : List Nat} {count more future : Nat}
    (covered : Covered calledAt count future) (grows : count ≤ more) :
    Covered calledAt more future := by
  obtain ⟨number, made, below⟩ := covered
  exact ⟨number, made, Nat.le_trans below grows⟩

theorem Covered.append {calledAt : List Nat} {count future : Nat}
    (covered : Covered calledAt count future) (later : List Nat) :
    Covered (calledAt ++ later) count future := by
  obtain ⟨number, made, below⟩ := covered
  obtain ⟨inside, -⟩ := List.getElem?_eq_some_iff.mp made
  exact ⟨number, by rw [List.getElem?_append_left inside, made], below⟩

theorem Lined.append {calledAt : List Nat} {count : Nat} {items : List (JsonlItem Record)}
    (lined : Lined calledAt count items) (later : List Nat) :
    Lined (calledAt ++ later) count items := by
  induction items generalizing count with
  | nil => trivial
  | cons item items ih =>
      exact ⟨fun future own => (lined.1 future own).append later, ih lined.2⟩

theorem events_append (front back : List (JsonlItem Record)) :
    JsonlItem.events (front ++ back) = JsonlItem.events front ++ JsonlItem.events back :=
  List.filterMap_append

/-- An item that carries a future carries no record. -/
theorem events_of_future {item : JsonlItem Record} {future : Nat}
    (own : item.future = some future) : JsonlItem.events [item] = [] := by
  cases item with
  | event record => cases own
  | _ => rfl

/-- A new item stands behind the others. -/
theorem Lined.concat {calledAt : List Nat} {count : Nat} {items : List (JsonlItem Record)}
    (lined : Lined calledAt count items) {item : JsonlItem Record}
    (behind : ∀ future, item.future = some future →
      Covered calledAt (count + (JsonlItem.events items).length) future) :
    Lined calledAt count (items ++ [item]) := by
  induction items generalizing count with
  | nil => exact ⟨behind, trivial⟩
  | cons first items ih =>
      refine ⟨lined.1, ih lined.2 fun future own => ?_⟩
      have counted := behind future own
      rw [← List.singleton_append, events_append, List.length_append, ← Nat.add_assoc] at counted
      exact counted

section ordered

variable {store : JsonlStore Record}

/-- Callers give up, or get to know what was handed over. -/
theorem Ordered.congr (ordered : Ordered store) {next : JsonlWriter Record}
    (thread : next.thread.items = store.writer.thread.items) (working : next.thread ≠ .draining)
    (queue : next.queue.items = store.writer.queue.items)
    (futures : next.futures = store.writer.futures)
    (putting : ∀ entry ∈ next.putting, entry ∈ store.writer.putting)
    (done : ∀ future, (future, true) ∈ next.scheduled ∨ (future, true) ∈ next.outcomes →
      (future, true) ∈ store.writer.scheduled ∨ (future, true) ∈ store.writer.outcomes) :
    Ordered { store with writer := next } where
  working := working
  accepted := by
    rw [queue]
    exact ordered.accepted
  dequeued := by
    rw [thread]
    exact ordered.dequeued
  calls := by
    rw [futures]
    exact ordered.calls
  putting entry member := ordered.putting entry (putting entry member)
  lined := by
    rw [queue]
    exact ordered.lined
  running := by
    rw [thread]
    exact ordered.running
  done future finished := ordered.done future (done future finished)

/-- `snapshot`, `flush` and `close` make a future. -/
theorem Ordered.request (ordered : Ordered store) {item : Nat → JsonlItem Record}
    (own : ∀ future, (item future).future = some future) {next : JsonlWriter Record}
    (asked : store.writer.request item = some next) (closing : List Nat) :
    Ordered { store with
      writer := { next with closing }, calledAt := store.calledAt ++ [store.accepted.length] } := by
  unfold JsonlWriter.request at asked
  split at asked <;> cases asked
  constructor
  · exact ordered.working
  · exact ordered.accepted
  · exact ordered.dequeued
  · rw [List.length_append, ordered.calls]
    rfl
  · intro entry member
    obtain older | newcomer := List.mem_append.mp member
    · obtain ⟨carries, covered⟩ := ordered.putting entry older
      exact ⟨carries, covered.append _⟩
    · rw [List.mem_singleton.mp newcomer]
      refine ⟨own _, store.accepted.length, ?_, Nat.le_refl _⟩
      rw [← ordered.calls]
      exact List.getElem?_concat_length
  · exact ordered.lined.append _
  · exact fun item member future own => (ordered.running item member future own).append _
  · exact fun future finished => (ordered.done future finished).append _

/-- `emit` puts a record into the queue, or drops it. -/
theorem Ordered.emit (ordered : Ordered store) (record : Record) :
    Ordered { store with
      writer := (store.writer.emit record).2
      accepted := if (store.writer.emit record).1 then store.accepted ++ [record]
        else store.accepted } := by
  unfold JsonlWriter.emit
  split
  · exact ordered
  · split
    · rename_i queue put
      obtain ⟨-, rfl⟩ := BoundedQueue.putNowait_eq_some put
      refine ⟨ordered.working, ?_, ordered.dequeued, ordered.calls, ?_, ?_, ordered.running,
        ordered.done⟩
      · have appended : JsonlItem.events (store.writer.queue.items ++ [.event record]) =
            JsonlItem.events store.writer.queue.items ++ [record] := events_append _ _
        show store.accepted ++ [record] =
          store.dequeued ++ JsonlItem.events (store.writer.queue.items ++ [.event record])
        rw [appended, ordered.accepted, List.append_assoc]
      · intro entry member
        obtain ⟨carries, covered⟩ := ordered.putting entry member
        exact ⟨carries, covered.mono (by simp)⟩
      · exact ordered.lined.concat fun future own => by cases own
    · exact ordered.congr rfl ordered.working rfl rfl (fun _ => id) (fun _ => id)

/-- A waiter gets through to the queue, or `close` puts `stop` there. -/
theorem Ordered.put (ordered : Ordered store) {item : JsonlItem Record}
    {queue : BoundedQueue (JsonlItem Record)} (put : store.writer.queue.putNowait item = some queue)
    (carries : JsonlItem.events [item] = [])
    (covered : ∀ future, item.future = some future →
      Covered store.calledAt store.accepted.length future) :
    Ordered { store with writer := { store.writer with queue } } := by
  obtain ⟨-, rfl⟩ := BoundedQueue.putNowait_eq_some put
  refine ⟨ordered.working, ?_, ordered.dequeued, ordered.calls, ordered.putting, ?_,
    ordered.running, ordered.done⟩
  · rw [ordered.accepted]
    dsimp only
    rw [events_append, carries, List.append_nil]
  · apply ordered.lined.concat
    intro future own
    have counted := covered future own
    rw [ordered.accepted, List.length_append] at counted
    exact counted

/-- The thread takes the first item of the queue. -/
theorem Ordered.get (ordered : Ordered store) (idle : store.writer.thread.items = [])
    {item : JsonlItem Record} {queue : BoundedQueue (JsonlItem Record)}
    (taken : store.writer.queue.get = some (item, queue)) {thread : JsonlThread Record}
    (works : thread.items = [item] ∨ thread.items = [] ∧ JsonlItem.events [item] = [])
    (working : thread ≠ .draining) :
    Ordered { store with
      writer := { store.writer with queue, thread }
      dequeued := store.dequeued ++ JsonlItem.events [item] } := by
  obtain ⟨items, -⟩ := BoundedQueue.get_eq_some taken
  have settled : store.dequeued = store.written := by
    rw [ordered.dequeued, idle]
    exact List.append_nil _
  have lined := ordered.lined
  rw [items] at lined
  refine ⟨working, ?_, ?_, ordered.calls, ordered.putting, ?_, ?_, ordered.done⟩
  · show store.accepted =
      store.dequeued ++ JsonlItem.events [item] ++ JsonlItem.events queue.items
    rw [ordered.accepted, items, List.append_assoc, ← events_append, List.singleton_append]
  · show store.dequeued ++ JsonlItem.events [item] =
      store.written ++ JsonlItem.events thread.items
    obtain busy | ⟨free, empty⟩ := works
    · rw [busy, settled]
    · rw [free, empty, settled]
      rfl
  · show Lined store.calledAt (store.dequeued ++ JsonlItem.events [item]).length queue.items
    rw [List.length_append]
    exact lined.2
  · intro other member future own
    obtain busy | ⟨free, -⟩ := works
    · rw [busy] at member
      rw [List.mem_singleton.mp member] at own
      show Covered store.calledAt store.written.length future
      rw [← settled]
      exact lined.1 future own
    · rw [free] at member
      cases member

/-- The thread is done with an item. -/
theorem Ordered.complete (ordered : Ordered store) {item : JsonlItem Record}
    (executes : store.writer.thread = .executing item) (directory : JsonlDirectory Record)
    (rotated : List (List Record)) :
    Ordered { store with
      writer := { store.writer.handOver item true with thread := .idle }
      directory
      rotated
      written := store.written ++ JsonlItem.events [item] } := by
  have items : store.writer.thread.items = [item] := by
    rw [executes]
    rfl
  have unchanged : (store.writer.handOver item true).queue = store.writer.queue ∧
      (store.writer.handOver item true).futures = store.writer.futures ∧
      (store.writer.handOver item true).putting = store.writer.putting ∧
      (store.writer.handOver item true).outcomes = store.writer.outcomes := by
    unfold JsonlWriter.handOver
    split <;> exact ⟨rfl, rfl, rfl, rfl⟩
  obtain ⟨queue, futures, putting, outcomes⟩ := unchanged
  have grows : store.written.length ≤ (store.written ++ JsonlItem.events [item]).length := by simp
  refine ⟨by simp, ?_, ?_, ?_, ?_, ?_, fun other member => ?_, fun future finished => ?_⟩
  · show store.accepted = store.dequeued ++ JsonlItem.events (store.writer.handOver item true).queue.items
    rw [queue]
    exact ordered.accepted
  · show store.dequeued = store.written ++ JsonlItem.events [item] ++ []
    rw [List.append_nil, ordered.dequeued, items]
  · show store.calledAt.length = (store.writer.handOver item true).futures
    rw [futures]
    exact ordered.calls
  · show ∀ entry ∈ (store.writer.handOver item true).putting, _
    rw [putting]
    exact ordered.putting
  · show Lined store.calledAt store.dequeued.length (store.writer.handOver item true).queue.items
    rw [queue]
    exact ordered.lined
  · cases member
  · obtain handed | known := finished
    · have mine : (future, true) ∈ store.writer.scheduled ∨ item.future = some future := by
        have handed : (future, true) ∈ (store.writer.handOver item true).scheduled := handed
        unfold JsonlWriter.handOver at handed
        split at handed
        · exact .inl handed
        · rename_i target own
          obtain before | new := List.mem_append.mp handed
          · exact .inl before
          · have same := List.mem_singleton.mp new
            cases same
            exact .inr own
      obtain before | own := mine
      · exact (ordered.done future (.inl before)).mono grows
      · exact (ordered.running item (by rw [items]; exact List.mem_singleton_self item) future
          own).mono grows
    · have known : (future, true) ∈ (store.writer.handOver item true).outcomes := known
      rw [outcomes] at known
      exact (ordered.done future (.inr known)).mono grows

/-- The store after a step of the writer that had this effect. -/
def moved (store changed : JsonlStore Record) (next : JsonlWriter Record) : JsonlStore Record :=
  { changed with
    writer := next
    calledAt :=
      if store.writer.futures < next.futures then store.calledAt ++ [store.accepted.length]
      else store.calledAt }

/-- No future is made. -/
theorem Ordered.quiet {changed : JsonlStore Record} {next : JsonlWriter Record}
    (result : Ordered { changed with writer := next }) (calledAt : changed.calledAt = store.calledAt)
    (futures : next.futures = store.writer.futures) : Ordered (moved store changed next) := by
  unfold moved
  rw [if_neg (by omega), ← calledAt]
  exact result

theorem moved_request {item : Nat → JsonlItem Record} {next : JsonlWriter Record}
    (asked : store.writer.request item = some next) (closing : List Nat) :
    moved store store { next with closing } =
      { store with
        writer := { next with closing }, calledAt := store.calledAt ++ [store.accepted.length] } := by
  unfold JsonlWriter.request at asked
  split at asked <;> cases asked
  unfold moved
  rw [if_pos (Nat.lt_succ_self _)]

theorem mem_settle {future other : Nat} {outcome : Bool} {outcomes : List (Nat × Bool)}
    (member : (other, true) ∈ JsonlWriter.settle future outcome outcomes) :
    (other, true) ∈ outcomes ∨ (other = future ∧ outcome = true) := by
  unfold JsonlWriter.settle at member
  split at member
  · exact .inl member
  · obtain before | new := List.mem_append.mp member
    · exact .inl before
    · have same := List.mem_singleton.mp new
      cases same
      exact .inr ⟨rfl, rfl⟩

/-- What happens on the event loop keeps the order. -/
theorem Ordered.loopStep (ordered : Ordered store) (limits : RotationLimits Record)
    {event : JsonlEvent Record} {next : JsonlWriter Record}
    (taken : store.writer.loopStep event = some next) :
    Ordered (moved store (store.effect limits event) next) := by
  have working := ordered.working
  cases event with
  | emit record =>
      cases taken
      have result := ordered.emit record
      have futures : (store.writer.emit record).2.futures = store.writer.futures := by
        unfold JsonlWriter.emit
        split
        · rfl
        · split <;> rfl
      unfold effect
      dsimp only
      split
      · rename_i accepted
        rw [if_pos accepted] at result
        exact result.quiet rfl futures
      · rename_i dropped
        rw [if_neg dropped] at result
        exact result.quiet rfl futures
  | snapshot records =>
      have result := ordered.request (fun _ => rfl) taken next.closing
      rw [← moved_request taken next.closing] at result
      exact result
  | flush =>
      have result := ordered.request (fun _ => rfl) taken next.closing
      rw [← moved_request taken next.closing] at result
      exact result
  | close =>
      simp only [JsonlWriter.loopStep] at taken
      split at taken
      · cases taken
      · split at taken
        · cases taken
          refine Ordered.quiet ?_ rfl rfl
          exact ordered.congr rfl working rfl rfl (fun _ => id) (fun _ => id)
        · obtain ⟨asked, requested, rfl⟩ := Option.map_eq_some_iff.mp taken
          have result := ordered.request (fun _ => rfl) requested
            (store.writer.futures :: asked.closing)
          rw [← moved_request requested] at result
          exact result
  | put future =>
      simp only [JsonlWriter.loopStep] at taken
      split at taken
      · cases taken
      · rename_i item entry
        obtain ⟨own, covered⟩ := ordered.putting _ (Dict.mem_of_get? entry)
        split at taken
        · cases taken
          exact ordered.quiet rfl rfl
        · rename_i queue put
          cases taken
          have entered := ordered.put put (events_of_future own) fun other same => by
            rw [own] at same
            cases same
            exact covered
          refine Ordered.quiet ?_ rfl rfl
          exact entered.congr rfl working rfl rfl (fun _ => Dict.mem_of_mem_pop) (fun _ => id)
  | cancel future =>
      simp only [JsonlWriter.loopStep] at taken
      split at taken
      · cases taken
        refine Ordered.quiet ?_ rfl rfl
        exact ordered.congr rfl working rfl rfl (fun _ => Dict.mem_of_mem_pop) (fun _ => id)
      · split at taken <;> cases taken
        refine Ordered.quiet ?_ rfl rfl
        refine ordered.congr rfl working rfl rfl (fun _ => id) fun other finished => ?_
        refine finished.imp_right fun member => ?_
        obtain before | ⟨-, failed⟩ := mem_settle member
        · exact before
        · cases failed
  | deliver =>
      simp only [JsonlWriter.loopStep] at taken
      split at taken
      · cases taken
      · rename_i future outcome scheduled shape
        cases taken
        refine Ordered.quiet ?_ rfl rfl
        refine ordered.congr rfl working rfl rfl (fun _ => id) fun other finished => ?_
        rw [shape]
        obtain waits | member := finished
        · exact .inl (List.mem_cons_of_mem _ waits)
        · obtain before | ⟨rfl, rfl⟩ := mem_settle member
          · exact .inr before
          · exact .inl List.mem_cons_self
  | resumeClose future =>
      simp only [JsonlWriter.loopStep] at taken
      split at taken
      · split at taken
        · cases taken
        · cases taken
          refine Ordered.quiet ?_ rfl rfl
          exact ordered.congr rfl working rfl rfl (fun _ => id) (fun _ => id)
        · cases taken
          refine Ordered.quiet ?_ rfl rfl
          exact ordered.congr rfl working rfl rfl (fun _ => id) (fun _ => id)
      · cases taken
  | putStop =>
      simp only [JsonlWriter.loopStep] at taken
      split at taken
      · split at taken
        · cases taken
          exact ordered.quiet rfl rfl
        · rename_i queue put
          cases taken
          have entered := ordered.put put rfl fun other own => by cases own
          refine Ordered.quiet ?_ rfl rfl
          exact entered.congr rfl working rfl rfl (fun _ => id) (fun _ => id)
      · cases taken
  | cancelStop =>
      simp only [JsonlWriter.loopStep] at taken
      split at taken <;> cases taken
      refine Ordered.quiet ?_ rfl rfl
      exact ordered.congr rfl working rfl rfl (fun _ => id) (fun _ => id)
  | timeout => cases taken
  | get => cases taken
  | complete => cases taken
  | fail => cases taken
  | drain => cases taken
  | finish => cases taken

/-- What the thread does keeps the order, if the files do what they are told. -/
theorem Ordered.threadStep (ordered : Ordered store) (limits : RotationLimits Record)
    {event : JsonlEvent Record} (succeeds : event ≠ .fail) {next : JsonlWriter Record}
    (taken : store.writer.threadStep event = some next) :
    Ordered (moved store (store.effect limits event) next) := by
  cases event with
  | timeout =>
      simp only [JsonlWriter.threadStep] at taken
      split at taken
      · rename_i idle
        split at taken <;> cases taken
        refine Ordered.quiet ?_ rfl rfl
        exact ordered.congr (by rw [idle]; rfl) (by simp) rfl rfl (fun _ => id) (fun _ => id)
      · cases taken
  | get =>
      simp only [JsonlWriter.threadStep] at taken
      split at taken
      · rename_i idle
        obtain ⟨⟨item, queue⟩, found, rfl⟩ := Option.map_eq_some_iff.mp taken
        obtain ⟨items, -⟩ := BoundedQueue.get_eq_some found
        have free : store.writer.thread.items = [] := by
          rw [idle]
          rfl
        have effect_eq : store.effect limits .get =
            { store with dequeued := store.dequeued ++ JsonlItem.events [item] } := by
          unfold effect
          rw [items]
          rfl
        rw [effect_eq]
        cases item with
        | stop => exact (ordered.get free found (.inr ⟨rfl, rfl⟩) (by simp)).quiet rfl rfl
        | event record => exact (ordered.get free found (.inl rfl) (by simp)).quiet rfl rfl
        | snapshot records future =>
            exact (ordered.get free found (.inl rfl) (by simp)).quiet rfl rfl
        | flush future => exact (ordered.get free found (.inl rfl) (by simp)).quiet rfl rfl
      · cases taken
  | complete =>
      simp only [JsonlWriter.threadStep] at taken
      split at taken
      · rename_i flushing
        cases taken
        have effect_eq : store.effect limits .complete = store := by
          unfold effect execute
          rw [flushing]
        rw [effect_eq]
        refine Ordered.quiet ?_ rfl rfl
        exact ordered.congr (by rw [flushing]; rfl) (by simp) rfl rfl (fun _ => id) (fun _ => id)
      · rename_i item executes
        cases taken
        have effect_eq : store.effect limits .complete =
            { store with
              directory := (store.execute limits).directory
              rotated := (store.execute limits).rotated
              written := store.written ++ JsonlItem.events [item] } := by
          unfold effect execute
          rw [executes]
          cases item with
          | event record => rfl
          | snapshot records future => simp [JsonlItem.events]
          | flush future => simp [JsonlItem.events]
          | stop => simp [JsonlItem.events]
        have futures : (store.writer.handOver item true).futures = store.writer.futures := by
          unfold JsonlWriter.handOver
          split <;> rfl
        rw [effect_eq]
        exact (ordered.complete executes _ _).quiet rfl futures
      · cases taken
  | fail => exact absurd rfl succeeds
  | drain =>
      simp only [JsonlWriter.threadStep] at taken
      split at taken
      · rename_i draining
        exact absurd draining ordered.working
      · cases taken
  | finish =>
      simp only [JsonlWriter.threadStep] at taken
      split at taken
      · rename_i leaving
        cases taken
        refine Ordered.quiet ?_ rfl rfl
        exact ordered.congr (by rw [leaving]; rfl) (by simp) rfl rfl (fun _ => id) (fun _ => id)
      · cases taken
  | emit record => cases taken
  | snapshot records => cases taken
  | flush => cases taken
  | close => cases taken
  | put future => cases taken
  | cancel future => cases taken
  | deliver => cases taken
  | resumeClose future => cases taken
  | putStop => cases taken
  | cancelStop => cases taken

/-- Every step keeps the order. -/
theorem Ordered.step (ordered : Ordered store) {limits : RotationLimits Record}
    {event : JsonlEvent Record} (succeeds : event ≠ .fail) {next : JsonlStore Record}
    (taken : store.step limits event = some next) : Ordered next := by
  obtain ⟨writer, stepped, rfl⟩ := Option.map_eq_some_iff.mp taken
  obtain thread | loop := JsonlWriter.step_cases stepped
  · exact ordered.threadStep limits succeeds thread
  · exact ordered.loopStep limits loop

theorem new_ordered (capacity : Int) : Ordered (new capacity : JsonlStore Record) where
  working := by simp [new, JsonlWriter.new]
  accepted := rfl
  dequeued := rfl
  calls := rfl
  putting entry member := absurd member List.not_mem_nil
  lined := trivial
  running item member := absurd member List.not_mem_nil
  done future finished := finished.elim (fun member => absurd member List.not_mem_nil)
    (fun member => absurd member List.not_mem_nil)

end ordered

/-- The files hold the written records, in files that were rotated away when they had reached the
limit. -/
structure Filed (limits : RotationLimits Record) (store : JsonlStore Record)
    (current : List Record) : Prop where
  files : Rotated limits store.rotated current store.directory
  written : store.written = store.rotated.flatten ++ current
  small : limits.size current < limits.maxBytes
  whole : ∀ file ∈ store.rotated, ∃ front last, file = front ++ [last] ∧
    limits.size front < limits.maxBytes ∧ limits.maxBytes ≤ limits.size file

section filed

variable {limits : RotationLimits Record} {store : JsonlStore Record} {rotated : List (List Record)}
  {current : List Record} {directory : JsonlDirectory Record}

theorem events_of_rotated (files : Rotated limits rotated current directory) :
    (Dict.get? JsonlFile.events directory).getD [] = current := by
  rw [files.events]
  cases current with
  | nil => rfl
  | cons record records => rfl

/-- A write that leaves no event file has rotated it away. -/
theorem rotatedBy_of_rotated (files : Rotated limits rotated current directory) (record : Record)
    {after : List (List Record)} {rest : List Record}
    (written : Rotated limits after rest (JsonlDirectory.writeEvent limits record directory)) :
    rotatedBy limits record directory = if rest = [] then [current ++ [record]] else [] := by
  unfold rotatedBy
  rw [written.events, events_of_rotated files]
  cases rest with
  | nil => rfl
  | cons record records => rfl

/-- Whatever the thread has executed, the written records are in the files. -/
theorem Filed.execute (some_backup : 1 ≤ limits.backupCount) (some_room : 0 < limits.maxBytes)
    (filed : Filed limits store current) : ∃ current, Filed limits (store.execute limits) current := by
  unfold JsonlStore.execute
  split
  · rename_i record _
    have next := filed.files.writeEvent some_backup record
    split at next
    · rename_i large
      have away := rotatedBy_of_rotated filed.files record next
      rw [if_pos rfl] at away
      rw [away]
      refine ⟨_, next, ?_, by simpa [RotationLimits.size] using some_room, ?_⟩
      · simp [filed.written]
      · intro file member
        obtain older | newest := List.mem_append.mp member
        · exact filed.whole file older
        · rw [List.mem_singleton.mp newest]
          exact ⟨current, record, rfl, filed.small, large⟩
    · rename_i small
      have away := rotatedBy_of_rotated filed.files record next
      rw [if_neg (by simp)] at away
      rw [away, List.append_nil]
      refine ⟨_, next, ?_, by omega, filed.whole⟩
      simp [filed.written]
  · rename_i records _ _
    exact ⟨current, filed.files.writeSnapshot records, filed.written, filed.small, filed.whole⟩
  · exact ⟨current, filed⟩

theorem Filed.step (some_backup : 1 ≤ limits.backupCount) (some_room : 0 < limits.maxBytes)
    (filed : Filed limits store current) {event : JsonlEvent Record} {next : JsonlStore Record}
    (taken : store.step limits event = some next) : ∃ current, Filed limits next current := by
  obtain ⟨writer, -, rfl⟩ := Option.map_eq_some_iff.mp taken
  have changed : ∃ current, Filed limits (store.effect limits event) current := by
    cases event with
    | complete => exact filed.execute some_backup some_room
    | emit record =>
        unfold effect
        dsimp only
        split
        · exact ⟨current, filed.files, filed.written, filed.small, filed.whole⟩
        · exact ⟨current, filed⟩
    | _ => exact ⟨current, filed.files, filed.written, filed.small, filed.whole⟩
  obtain ⟨current, filed⟩ := changed
  exact ⟨current, filed.files, filed.written, filed.small, filed.whole⟩

theorem new_filed (some_room : 0 < limits.maxBytes) (capacity : Int) :
    Filed limits (new capacity) [] where
  files := by
    constructor
    · rfl
    · rfl
    · intro index
      simp [new, Dict.get?]
  written := rfl
  small := by simpa [RotationLimits.size] using some_room
  whole file member := absurd member List.not_mem_nil

end filed

/-- Nothing that was accepted gets lost but with whole files beyond the last backups. -/
structure Kept (limits : RotationLimits Record) (store : JsonlStore Record) : Prop where
  /-- The files hold the last of the records that the thread took, all but the one that it has in
  hand, and what is missing are the oldest of the files that were rotated away. -/
  suffix : store.dequeued =
    (store.rotated.take (store.rotated.length - limits.backupCount)).flatten ++
      JsonlDirectory.evidence limits.backupCount store.directory ++
        JsonlItem.events store.writer.thread.items
  /-- The backups are the last files that were rotated away, the newest first. -/
  backups : ∀ index < limits.backupCount,
    Dict.get? (JsonlFile.backup (index + 1)) store.directory = store.rotated.reverse[index]?
  /-- A file is rotated away with the record that made it reach the limit. -/
  whole : ∀ file ∈ store.rotated, ∃ front last, file = front ++ [last] ∧
    limits.size front < limits.maxBytes ∧ limits.maxBytes ≤ limits.size file
  /-- Each written record is in one file that was rotated away, or in the event file. -/
  filed : store.written =
    store.rotated.flatten ++ (Dict.get? JsonlFile.events store.directory).getD []
  /-- They were taken in the order in which they were accepted. -/
  order : store.accepted = store.dequeued ++ JsonlItem.events store.writer.queue.items
  bounded : ∀ index, limits.backupCount < index →
    Dict.get? (JsonlFile.backup index) store.directory = none
  sizes : ∀ file records, file = .events ∨ (∃ index, file = .backup index) →
    Dict.get? file store.directory = some records →
      ∃ front last, records = front ++ [last] ∧
        limits.size records < limits.maxBytes + limits.lineBytes last
  /-- When a call of `flush` or `snapshot` has completed, the records that had been accepted before
  it are written. -/
  flushed : ∀ future number, (future, true) ∈ store.writer.outcomes →
    store.calledAt[future]? = some number → store.accepted.take number <+: store.written
  written : store.dequeued = store.written ++ JsonlItem.events store.writer.thread.items

theorem size_concat (limits : RotationLimits Record) (front : List Record) (last : Record) :
    limits.size (front ++ [last]) = limits.size front + limits.lineBytes last := by
  simp [RotationLimits.size]

/-- An invariant of both kinds is what a reader of the files can rely on. -/
theorem kept_of_filed {limits : RotationLimits Record} (some_backup : 1 ≤ limits.backupCount)
    {store : JsonlStore Record} (ordered : Ordered store) {current : List Record}
    (filed : Filed limits store current) : Kept limits store where
  suffix := by
    rw [ordered.dequeued, filed.written, filed.files.evidence, ← List.append_assoc,
      ← List.flatten_append, List.take_append_drop]
  backups index low := by rw [filed.files.backups, if_pos low]
  whole := filed.whole
  filed := by
    rw [events_of_rotated filed.files]
    exact filed.written
  order := ordered.accepted
  bounded index beyond := by
    cases index with
    | zero => omega
    | succ index => rw [filed.files.backups, if_neg (by omega)]
  sizes file records kind found := by
    have short : ∀ front last, records = front ++ [last] → limits.size front < limits.maxBytes →
        ∃ front last, records = front ++ [last] ∧
          limits.size records < limits.maxBytes + limits.lineBytes last := by
      intro front last shape small
      refine ⟨front, last, shape, ?_⟩
      rw [shape, size_concat]
      omega
    obtain rfl | ⟨index, rfl⟩ := kind
    · rw [filed.files.events] at found
      split at found
      · cases found
      · rename_i filled
        cases found
        obtain ⟨front, last, shape⟩ : ∃ front last, current = front ++ [last] :=
          ⟨current.dropLast, current.getLast (by simpa using filled),
            (List.dropLast_append_getLast _).symm⟩
        apply short front last shape
        have small := filed.small
        rw [shape, size_concat] at small
        omega
    · cases index with
      | zero =>
          rw [filed.files.first] at found
          cases found
      | succ index =>
          rw [filed.files.backups] at found
          split at found
          · have member := List.mem_reverse.mp (List.mem_of_getElem? found)
            obtain ⟨front, last, shape, small, -⟩ := filed.whole records member
            exact short front last shape small
          · cases found
  flushed future number finished made := by
    obtain ⟨number', made', below⟩ := ordered.done future (.inr finished)
    rw [made] at made'
    cases made'
    rw [ordered.accepted, ordered.dequeued, List.append_assoc, List.take_append_of_le_length below]
    exact List.take_prefix _ _
  written := ordered.dequeued

/-- In every run of the callers and of the thread, as long as the files do what they are told,
nothing gets lost. -/
theorem run_kept (limits : RotationLimits Record) (some_backup : 1 ≤ limits.backupCount)
    (some_room : 0 < limits.maxBytes) (capacity : Int) (events : List (JsonlEvent Record))
    (succeed : ∀ event ∈ events, event ≠ .fail) (final : JsonlStore Record)
    (ran : Transition.run (step limits) (new capacity) events = some final) :
    Kept limits final := by
  have ordered : Ordered final :=
    Transition.invariant_along Ordered
      (fun state event next holds succeeds taken => holds.step succeeds taken)
      (Transition.along_of_mem (fun event member _ => succeed event member) _) ran
      (new_ordered capacity)
  have filed : ∃ current, Filed limits final current := by
    refine Transition.invariant_run (fun store => ∃ current, Filed limits store current) ?_ ran
      ⟨[], new_filed some_room capacity⟩
    intro state event next holds taken
    obtain ⟨current, filed⟩ := holds
    exact filed.step some_backup some_room taken
  obtain ⟨current, filed⟩ := filed
  exact kept_of_filed some_backup ordered filed

def sampleLimits : RotationLimits Nat := { backupCount := 1, maxBytes := 3, lineBytes := id }

/-- Two records fill the event file, one more fills it again, and the first file is given up. -/
theorem run_kept_sample :
    ∃ final, Transition.run (step sampleLimits) (new 3)
        [.emit 1, .emit 2, .flush, .get, .complete, .get, .complete, .emit 4, .put 0, .get,
          .complete, .get, .complete, .deliver, .emit 1, .get, .complete] = some final ∧
      final.rotated = [[1, 2], [4]] ∧ JsonlDirectory.evidence 1 final.directory = [4, 1] ∧
      Kept sampleLimits final :=
  ⟨_, rfl, by decide, by decide, run_kept sampleLimits (by decide) (by decide) 3
    [.emit 1, .emit 2, .flush, .get, .complete, .get, .complete, .emit 4, .put 0, .get,
      .complete, .get, .complete, .deliver, .emit 1, .get, .complete] (by decide) _ rfl⟩

end JsonlStore

end PyDht
