import DistributedFramework.Actor.Registry

/-! `remote`: the `streamRouter`, the `streamWriter`s it spawns, and the
registry, run against each other.

The router handles its inbox in order: a `streamDeliver` for an address goes
to the writer its `streams` map memoises, and when there is none the router
spawns one with `SpawnProc`, memoises its PID and sends to it; a
`RemoteUnreachableEvent` drops the memoised PID. `SpawnProc` runs
`Registry.add`, which starts the writer at once, in the router's step: `Start`
starts the writer's inbox and runs `init`, whose dial, `SetDeadline` and
stream open each may fail. A failed dial or stream open calls `Shutdown`;
a failed `SetDeadline` only returns. `Shutdown` first sends
`RemoteUnreachableEvent` to the router, then stops the inbox, then leaves the
registry; when the writer's connection closes, these run on another goroutine,
so the router's steps interleave with them. A writer is named by its position
among the writers spawned so far; the registry holds nothing but writers.

Proved here:

* `run_routed`: along every run in which every writer connects and no
  connection closes, every memoised PID is registered to a writer for its
  address whose inbox runs and whose stream is open;
* `memoised_route_breaks`: a failed `SetDeadline` memoises a writer that has
  no stream, with no `RemoteUnreachableEvent` in flight; and a writer
  respawned while the old one shuts down is refused by the registry, so once
  the old one leaves it, the memoised route leads nowhere and every later
  message to the address is a dead letter. -/

namespace Remote
open Go

/-- How `init` of a writer ends. -/
inductive Outcome where
  /-- the dial, `SetDeadline` and `client.Receive` succeed -/
  | connected
  /-- three dials fail -/
  | dialFailed
  /-- `SetDeadline` on the new connection fails -/
  | deadlineFailed
  /-- `client.Receive` fails -/
  | streamFailed
  deriving DecidableEq, Repr

/-- How far `Shutdown` has gone: not called, `RemoteUnreachableEvent` sent to
the router, inbox stopped, registry entry removed. -/
inductive Shutdown where
  | none
  | notified
  | stopped
  | removed
  deriving DecidableEq, Repr

/-- A `streamWriter`: the address it writes to, whether `Registry.add` started
it, whether its inbox is stopped, whether `s.stream` is set, how far its
`Shutdown` has gone, and the messages pushed into its inbox. -/
structure Writer where
  addr : String
  started : Bool
  inboxStopped : Bool
  stream : Bool
  shutdown : Shutdown
  inbox : List Nat
  deriving DecidableEq, Repr

/-- What the router's inbox holds. -/
inductive RouterMsg where
  /-- `*streamDeliver` of a message to a pid at `addr` -/
  | deliver (addr : String) (m : Nat)
  /-- `RemoteUnreachableEvent{ListenAddr}` -/
  | unreachable (addr : String)
  deriving DecidableEq, Repr

/-- The engine's address, the router's `streams` and inbox, the registry,
every writer spawned, and the messages a send found no processer for. -/
structure World where
  address : String
  streams : Map String Actor.PID
  routerInbox : List RouterMsg
  registry : Actor.Registry
  writers : List Writer
  deadLetters : List Nat

inductive Step where
  /-- a `streamDeliver` for a pid at `addr` reaches the router's inbox -/
  | deliver (addr : String) (m : Nat)
  /-- the router handles the oldest message of its inbox; a writer it spawns
  ends `init` with `outcome` -/
  | route (outcome : Outcome)
  /-- the connection of writer `j` closes, and its `Shutdown` notifies the router -/
  | close (j : Nat)
  /-- the `Shutdown` of writer `j` takes its next step -/
  | shutdown (j : Nat)

/-- What the invariant reads of a writer. -/
def Writer.shape (wr : Writer) : String × Bool × Bool := (wr.addr, wr.inboxStopped, wr.stream)

namespace World

/-- The PID `newStreamWriter` gives the writer for `addr`. -/
def writerPID (w : World) (addr : String) : Actor.PID := ⟨w.address, "stream" ++ "/" ++ addr⟩

/-- `engine.Send(pid, m)`: the writer the registry maps `pid.ID` to gets `m` in its
inbox, stopped or not. -/
def send (w : World) (pid : Actor.PID) (m : Nat) : World :=
  match w.registry.get? pid.id with
  | none => { w with deadLetters := w.deadLetters ++ [m] }
  | some j =>
    match w.writers[j]? with
    | some wr => { w with writers := w.writers.set j { wr with inbox := wr.inbox ++ [m] } }
    | none => w

/-- `Start` of a new writer: its inbox starts, then `init` ends with `outcome`.
A failed dial or stream open runs the whole `Shutdown` in the router's step. -/
def start (w : World) (addr : String) : Outcome → World
  | .connected => { w with writers := w.writers ++ [⟨addr, true, false, true, .none, []⟩] }
  | .deadlineFailed => { w with writers := w.writers ++ [⟨addr, true, false, false, .none, []⟩] }
  | .dialFailed | .streamFailed =>
    { w with
      routerInbox := w.routerInbox ++ [.unreachable addr]
      registry := w.registry.remove (w.writerPID addr)
      writers := w.writers ++ [⟨addr, true, true, false, .removed, []⟩] }

/-- `SpawnProc(newStreamWriter(...))`: `Registry.add` starts the writer when
its ID is free, and refuses it otherwise. -/
def spawn (w : World) (addr : String) (outcome : Outcome) : World :=
  let pid := w.writerPID addr
  let (r, started) := w.registry.add pid.id w.writers.length
  if started then { w with registry := r }.start addr outcome
  else { w with writers := w.writers ++ [⟨addr, false, false, false, .none, []⟩] }

/-- `deliverStream`: the memoised writer, or a new one memoised first. -/
def deliverStream (w : World) (addr : String) (m : Nat) (outcome : Outcome) : World :=
  match w.streams.get? addr with
  | some pid => w.send pid m
  | none =>
    let w := w.spawn addr outcome
    { w with streams := w.streams.insert addr (w.writerPID addr) }.send (w.writerPID addr) m

def step (w : World) : Step → Option World
  | .deliver addr m => some { w with routerInbox := w.routerInbox ++ [.deliver addr m] }
  | .route outcome =>
    match w.routerInbox with
    | [] => none
    | .deliver addr m :: rest => some ({ w with routerInbox := rest }.deliverStream addr m outcome)
    | .unreachable addr :: rest => some { w with routerInbox := rest, streams := w.streams.erase addr }
  | .close j =>
    match w.writers[j]? with
    | some wr =>
      if wr.started ∧ wr.stream ∧ wr.shutdown = .none then
        some { w with
          routerInbox := w.routerInbox ++ [.unreachable wr.addr]
          writers := w.writers.set j { wr with shutdown := .notified } }
      else none
    | none => none
  | .shutdown j =>
    match w.writers[j]? with
    | some wr =>
      match wr.shutdown with
      | .notified => some { w with writers := w.writers.set j { wr with shutdown := .stopped, inboxStopped := true } }
      | .stopped =>
        some { w with
          registry := w.registry.remove (w.writerPID wr.addr)
          writers := w.writers.set j { wr with shutdown := .removed } }
      | _ => none
    | none => none

def run (w : World) : List Step → Option World
  | [] => some w
  | st :: sts => (w.step st).bind (·.run sts)

/-- Every memoised PID is the PID of its address's writer, registered to a
writer for that address whose inbox runs and whose stream is open; every
registered ID is that of a writer whose address has a route; and no
`RemoteUnreachableEvent` is in flight. -/
structure Routed (w : World) : Prop where
  memo : ∀ a pid, w.streams.get? a = some pid → pid = w.writerPID a ∧
    ∃ j wr, w.registry.get? pid.id = some j ∧ w.writers[j]? = some wr ∧ wr.addr = a ∧
      wr.inboxStopped = false ∧ wr.stream = true
  reg : ∀ id j, w.registry.get? id = some j →
    ∃ wr, w.writers[j]? = some wr ∧ id = (w.writerPID wr.addr).id ∧ (w.streams.get? wr.addr).isSome
  quiet : ∀ a, .unreachable a ∉ w.routerInbox

/-- The steps of a run in which every writer connects and no connection closes. -/
def Calm : Step → Prop
  | .deliver _ _ | .route .connected => True
  | _ => False

theorem writerPID_id_inj {w : World} {a b : String} (h : (w.writerPID a).id = (w.writerPID b).id) :
    a = b := by
  simp only [writerPID, String.ext_iff, String.data_append] at h
  exact String.ext (List.append_cancel_left h)

section
variable {w : World}

theorem Routed.frame (h : w.Routed) {w' : World} (ha : w'.address = w.address)
    (hs : w'.streams = w.streams) (hr : w'.registry = w.registry)
    (hq : ∀ a, .unreachable a ∉ w'.routerInbox)
    (hw : ∀ j : Nat, (w'.writers[j]?).map Writer.shape = (w.writers[j]?).map Writer.shape) :
    w'.Routed := by
  have hpid : w'.writerPID = w.writerPID := by funext a; simp [writerPID, ha]
  have bwd : ∀ (j : Nat) (wr : Writer), w.writers[j]? = some wr →
      ∃ wr' : Writer, w'.writers[j]? = some wr' ∧ wr.shape = wr'.shape := by
    intro j wr hj
    obtain ⟨wr', hwr', he⟩ := Option.map_eq_some'.mp ((hw j).trans (by rw [hj]; rfl))
    exact ⟨wr', hwr', he.symm⟩
  refine ⟨fun a pid hp => ?_, fun id j hj => ?_, hq⟩
  · rw [hs] at hp
    obtain ⟨hpa, j, wr, hj, hwr, haddr, hst, hstr⟩ := h.memo a pid hp
    obtain ⟨wr', hwr', he⟩ := bwd j wr hwr
    simp only [Writer.shape, Prod.mk.injEq] at he
    exact ⟨hpid ▸ hpa, j, wr', hr ▸ hj, hwr', he.1 ▸ haddr, he.2.1 ▸ hst, he.2.2 ▸ hstr⟩
  · rw [hr] at hj
    obtain ⟨wr, hwr, hid, hsome⟩ := h.reg id j hj
    obtain ⟨wr', hwr', he⟩ := bwd j wr hwr
    simp only [Writer.shape, Prod.mk.injEq] at he
    exact ⟨wr', hwr', he.1 ▸ hpid ▸ hid, hs ▸ he.1 ▸ hsome⟩

theorem send_frame (pid : Actor.PID) (m : Nat) :
    (w.send pid m).address = w.address ∧ (w.send pid m).streams = w.streams ∧
      (w.send pid m).registry = w.registry ∧ (w.send pid m).routerInbox = w.routerInbox ∧
      ∀ j : Nat, ((w.send pid m).writers[j]?).map Writer.shape = (w.writers[j]?).map Writer.shape := by
  unfold send
  split
  · exact ⟨rfl, rfl, rfl, rfl, fun _ => rfl⟩
  · rename_i j _
    split
    · rename_i wr hwr
      refine ⟨rfl, rfl, rfl, rfl, fun k => ?_⟩
      by_cases hjk : j = k
      · subst hjk
        simp [List.getElem?_set, hwr, (List.getElem?_eq_some_iff.mp hwr).1, Writer.shape]
      · simp only [List.getElem?_set_ne hjk]
    · exact ⟨rfl, rfl, rfl, rfl, fun _ => rfl⟩

theorem Routed.send (h : w.Routed) (pid : Actor.PID) (m : Nat) : (w.send pid m).Routed :=
  have ⟨ha, hs, hr, hi, hw⟩ := send_frame (w := w) pid m
  h.frame ha hs hr (hi ▸ h.quiet) hw

/-- A message for an address with no route: the registry holds no writer for
the address, so the new writer is registered, connects, is memoised and gets
the message. -/
theorem Routed.deliverStream_of_none (h : w.Routed) {a : String} (hmiss : w.streams.get? a = none)
    (m : Nat) : (w.deliverStream a m .connected).Routed := by
  have hfree : w.registry.get? (w.writerPID a).id = none := by
    cases hj : w.registry.get? (w.writerPID a).id with
    | none => rfl
    | some j =>
      obtain ⟨wr, -, hid, hsome⟩ := h.reg _ j hj
      rw [← writerPID_id_inj hid, hmiss] at hsome
      cases hsome
  let new : Writer := ⟨a, true, false, true, .none, []⟩
  let w₂ : World := { w with
    registry := ⟨w.registry.lookup.insert (w.writerPID a).id w.writers.length⟩
    writers := w.writers ++ [new]
    streams := w.streams.insert a (w.writerPID a) }
  have heq : w.deliverStream a m .connected = w₂.send (w.writerPID a) m := by
    simp only [deliverStream, hmiss, spawn, Actor.Registry.add_of_get?_eq_none hfree]; rfl
  have hold : ∀ (j : Nat) (wr : Writer), w.writers[j]? = some wr → w₂.writers[j]? = some wr :=
    fun j wr hj => (List.getElem?_append_left (List.getElem?_eq_some_iff.mp hj).1).trans hj
  have hnew : w₂.writers[w.writers.length]? = some new := List.getElem?_concat_length _ _
  have hreg : ∀ id, w₂.registry.get? id =
      if id = (w.writerPID a).id then some w.writers.length else w.registry.get? id := by
    intro id
    split_ifs with hid
    · subst hid; exact Map.get?_insert_self _ _ _
    · exact Map.get?_insert_ne _ _ _ hid
  rw [heq]
  refine Routed.send (w := w₂) ⟨fun a' pid hp => ?_, fun id j hj => ?_, h.quiet⟩ _ _
  · by_cases ha : a' = a
    · subst ha
      rw [show w₂.streams.get? a' = some (w.writerPID a') from Map.get?_insert_self _ _ _] at hp
      cases hp
      exact ⟨rfl, _, new, by rw [hreg, if_pos rfl], hnew, rfl, rfl, rfl⟩
    · rw [show w₂.streams.get? a' = w.streams.get? a' from Map.get?_insert_ne _ _ _ ha] at hp
      obtain ⟨rfl, j, wr, hj, hwr, hwa, hst, hstr⟩ := h.memo a' pid hp
      have hne : (w.writerPID a').id ≠ (w.writerPID a).id := fun he => ha (writerPID_id_inj he)
      exact ⟨rfl, j, wr, by rw [hreg, if_neg hne]; exact hj, hold j wr hwr, hwa, hst, hstr⟩
  · rw [hreg] at hj
    split_ifs at hj with hid
    · cases hj
      exact ⟨new, hnew, hid, by simp [w₂, new, Map.get?_insert_self]⟩
    · obtain ⟨wr, hwr, hid', hsome⟩ := h.reg id j hj
      refine ⟨wr, hold j wr hwr, hid', ?_⟩
      by_cases ha : wr.addr = a
      · rw [ha]; simp [w₂, Map.get?_insert_self]
      · simpa [w₂, Map.get?_insert_ne _ _ _ ha] using hsome

theorem step_routed (h : w.Routed) {st : Step} (hc : Calm st) {w' : World} (hs : w.step st = some w') :
    w'.Routed := by
  cases st with
  | deliver a m =>
    cases hs
    refine h.frame rfl rfl rfl (fun a' ha' => ?_) fun _ => rfl
    rcases List.mem_append.mp ha' with ha' | ha'
    · exact h.quiet a' ha'
    · simp at ha'
  | route o =>
    cases o <;> simp only [Calm] at hc
    simp only [step] at hs
    split at hs
    · cases hs
    · rename_i a m rest hin
      cases hs
      have h₀ : ({ w with routerInbox := rest } : World).Routed :=
        h.frame rfl rfl rfl (fun a' ha' => h.quiet a' (by rw [hin]; exact List.mem_cons_of_mem _ ha'))
          fun _ => rfl
      cases hget : w.streams.get? a with
      | none => exact h₀.deliverStream_of_none hget m
      | some pid =>
        have : ({ w with routerInbox := rest } : World).deliverStream a m .connected =
            ({ w with routerInbox := rest } : World).send pid m := by
          simp only [deliverStream]; rw [hget]
        rw [this]; exact h₀.send pid m
    · rename_i a rest hin
      exact absurd (hin ▸ List.mem_cons_self _ _) (h.quiet a)
  | close j => exact absurd hc id
  | shutdown j => exact absurd hc id

/-- Along every run in which every writer connects and no connection closes,
every memoised PID is registered to a writer for its address whose inbox runs
and whose stream is open. -/
theorem run_routed (h : w.Routed) {steps : List Step} (hc : ∀ st ∈ steps, Calm st) {w' : World}
    (hr : w.run steps = some w') : w'.Routed := by
  induction steps generalizing w with
  | nil => cases hr; exact h
  | cons st sts ih =>
    simp only [run, Option.bind_eq_some] at hr
    obtain ⟨t, hst, hr⟩ := hr
    exact ih (step_routed h (hc st (List.mem_cons_self _ _)) hst)
      (fun st' h' => hc st' (List.mem_cons_of_mem _ h')) hr

end

/-- An engine at `10.0.0.1:4000` that has spawned no writer. -/
def unconnected : World := ⟨"10.0.0.1:4000", Map.empty, [], ⟨Map.empty⟩, [], []⟩

/-- A writer whose `SetDeadline` fails is memoised, registered and running,
with no stream and no `RemoteUnreachableEvent` in flight. A writer whose
connection closes notifies the router, which drops the route; a message for
the address then makes the router spawn a new writer, which the registry
refuses because the old one still holds the ID; the router memoises the PID
and pushes the message into the old writer's stopped inbox; the old writer
leaves the registry, and the next message for the address is a dead letter,
with the route still memoised and nothing in flight to drop it. -/
theorem memoised_route_breaks :
    (∃ w, unconnected.run [.deliver "b" 1, .route .deadlineFailed] = some w ∧
      w.streams.get? "b" = some (unconnected.writerPID "b") ∧ w.routerInbox = [] ∧
      w.registry.get? (unconnected.writerPID "b").id = some 0 ∧
      w.writers = [⟨"b", true, false, false, .none, [1]⟩]) ∧
    ∃ w, unconnected.run [.deliver "b" 1, .route .connected, .close 0, .route .connected,
        .shutdown 0, .deliver "b" 2, .route .connected, .shutdown 0,
        .deliver "b" 3, .route .connected] = some w ∧
      w.streams.get? "b" = some (unconnected.writerPID "b") ∧ w.routerInbox = [] ∧
      w.registry.get? (unconnected.writerPID "b").id = none ∧
      w.writers = [⟨"b", true, true, true, .removed, [1, 2]⟩, ⟨"b", false, false, false, .none, []⟩] ∧
      w.deadLetters = [3] :=
  ⟨⟨_, rfl, rfl, rfl, rfl, rfl⟩, _, rfl, rfl, rfl, rfl, rfl, rfl⟩

end World

end Remote
