import DistributedFramework.Remote.Router

/-! What the `streamRouter` does with the messages it is sent (`part_004`,
`deliverStream`), along the runs in which every writer connects and no
connection closes (`Calm`). Router.lean shows how a route breaks when a
writer fails or its connection closes; on calm runs nothing is lost.

The router handles its inbox in order, and each message for an address goes
to the one writer of that address, spawned by the first message for it. So
for every address, what its writer holds followed by what still waits in the
router's inbox is every message sent to the address, in the order it was
sent: no message is lost, duplicated or reordered, and none becomes a dead
letter (`calm_run_delivers`).

The invariant `Delivered` says this of a world and the messages sent so far;
each of the two calm steps keeps it (`Delivered.deliver`, `Delivered.route`),
and so does every calm run (`Delivered.run`). -/

namespace Remote
namespace World
open Go

/-- The messages for `a` in the router's inbox, oldest first. -/
def pendingFor (a : String) (inbox : List RouterMsg) : List Nat :=
  inbox.filterMap fun
    | .deliver b m => if b = a then some m else none
    | .unreachable _ => none

/-- The messages the steps of a run send to a pid at `a`, in order. -/
def sentFor (a : String) (steps : List Step) : List Nat :=
  steps.filterMap fun
    | .deliver b m => if b = a then some m else none
    | _ => none

/-- What the writers for `a` hold, writer after writer. -/
def heldFor (ws : List Writer) (a : String) : List Nat :=
  (ws.filter (·.addr = a)).flatMap (·.inbox)

section
variable (a b : String) (m : Nat)

theorem pendingFor_append (inbox : List RouterMsg) :
    pendingFor a (inbox ++ [.deliver b m]) = pendingFor a inbox ++ if b = a then [m] else [] := by
  by_cases h : b = a <;> simp [pendingFor, h]

theorem pendingFor_cons (rest : List RouterMsg) :
    pendingFor a (.deliver b m :: rest) = (if b = a then [m] else []) ++ pendingFor a rest := by
  by_cases h : b = a <;> simp [pendingFor, h]

theorem sentFor_deliver (steps : List Step) :
    sentFor a (.deliver b m :: steps) = (if b = a then [m] else []) ++ sentFor a steps := by
  by_cases h : b = a <;> simp [sentFor, h]

theorem sentFor_route (o : Outcome) (steps : List Step) :
    sentFor a (.route o :: steps) = sentFor a steps := rfl

theorem heldFor_append (ws ws' : List Writer) : heldFor (ws ++ ws') a = heldFor ws a ++ heldFor ws' a := by
  simp [heldFor, List.filter_append, List.flatMap_append]

theorem heldFor_cons (wr : Writer) (ws : List Writer) :
    heldFor (wr :: ws) a = (if wr.addr = a then wr.inbox else []) ++ heldFor ws a := by
  by_cases h : wr.addr = a <;> simp [heldFor, List.filter_cons, h]

theorem heldFor_eq_nil {ws : List Writer} (h : ∀ wr ∈ ws, wr.addr ≠ a) : heldFor ws a = [] := by
  have hf : ws.filter (·.addr = a) = [] :=
    List.filter_eq_nil_iff.mpr fun wr hw => by simpa using h wr hw
  simp [heldFor, hf]

end

section
variable {ws : List Writer} {j : Nat} {x : Writer}

theorem map_addr_set (hj : j < ws.length) (hx : x.addr = ws[j].addr) :
    (ws.set j x).map Writer.addr = ws.map Writer.addr := by
  refine List.ext_getElem? fun k => ?_
  simp only [List.getElem?_map, List.getElem?_set]
  split_ifs with h
  · subst h; simp [List.getElem?_eq_getElem hj, hx]
  · rfl

/-- One more message in the inbox of the writer at `j`, whose address no other
writer has. -/
theorem heldFor_set (hnd : (ws.map Writer.addr).Nodup) (hj : j < ws.length)
    (hx : x.addr = ws[j].addr) (m : Nat) (hm : x.inbox = ws[j].inbox ++ [m]) (a : String) :
    heldFor (ws.set j x) a = heldFor ws a ++ if ws[j].addr = a then [m] else [] := by
  have hsplit := List.take_append_drop j ws
  rw [List.drop_eq_getElem_cons hj] at hsplit
  rw [← hsplit, List.map_append, List.map_cons, List.nodup_middle, List.nodup_cons,
    ← List.map_append] at hnd
  have hother : ∀ y ∈ ws.take j ++ ws.drop (j + 1), y.addr ≠ ws[j].addr := fun y hy he =>
    hnd.1 (he ▸ List.mem_map_of_mem _ hy)
  have e : heldFor ws a = heldFor (ws.take j ++ ws[j] :: ws.drop (j + 1)) a := by rw [hsplit]
  rw [e, List.set_eq_take_append_cons_drop, if_pos hj, heldFor_append, heldFor_cons, heldFor_append,
    heldFor_cons, hx, hm]
  by_cases ha : ws[j].addr = a
  · have hpre := heldFor_eq_nil a fun y hy => ha ▸ hother y (List.mem_append_left _ hy)
    have hpost := heldFor_eq_nil a fun y hy => ha ▸ hother y (List.mem_append_right _ hy)
    simp [ha, hpre, hpost]
  · simp [ha]

end

/-- Along a calm run, with `sent a` every message sent so far to `a`: the
route for every address leads to a running writer with an open stream; the
writers have distinct addresses, each with a route; what the writers for an
address hold, followed by what waits for it in the router's inbox, is what
was sent to it; and no message became a dead letter. -/
structure Delivered (w : World) (sent : String → List Nat) : Prop where
  routed : w.Routed
  nodup : (w.writers.map Writer.addr).Nodup
  memoised : ∀ wr ∈ w.writers, (w.streams.get? wr.addr).isSome
  conserved : ∀ a, heldFor w.writers a ++ pendingFor a w.routerInbox = sent a
  noDeadLetters : w.deadLetters = []

section
variable {w : World} {sent : String → List Nat}

/-- A message for a pid at `b` reaches the router's inbox. -/
theorem Delivered.deliver (h : w.Delivered sent) (b : String) (m : Nat) :
    ({ w with routerInbox := w.routerInbox ++ [.deliver b m] } : World).Delivered
      fun a => sent a ++ if b = a then [m] else [] :=
  ⟨step_routed h.routed (show Calm (.deliver b m) from trivial) rfl, h.nodup, h.memoised,
    fun a => by rw [pendingFor_append, ← List.append_assoc, h.conserved], h.noDeadLetters⟩

theorem send_of_registered {pid : Actor.PID} {j : Nat} {x : Writer}
    (hj : w.registry.get? pid.id = some j) (hx : w.writers[j]? = some x) (m : Nat) :
    w.send pid m = { w with writers := w.writers.set j { x with inbox := x.inbox ++ [m] } } := by
  simp only [send, hj, hx]

/-- The memoised writer of `b` gets the message. -/
theorem deliverStream_of_some {rest : List RouterMsg} {b : String} {m : Nat} {j : Nat} {wr : Writer}
    (hget : w.streams.get? b = some (w.writerPID b))
    (hj : w.registry.get? (w.writerPID b).id = some j) (hwr : w.writers[j]? = some wr) :
    ({ w with routerInbox := rest } : World).deliverStream b m .connected =
      { w with
        routerInbox := rest
        writers := w.writers.set j { wr with inbox := wr.inbox ++ [m] } } := by
  simp only [deliverStream, hget]
  exact send_of_registered (w := { w with routerInbox := rest }) hj hwr m

/-- With no route for `b`, the registry holds no writer for `b`: a new writer
is registered, connects, is memoised and gets the message. -/
theorem deliverStream_of_none (hR : w.Routed) (rest : List RouterMsg) {b : String} (m : Nat)
    (hmiss : w.streams.get? b = none) :
    ∃ r, ({ w with routerInbox := rest } : World).deliverStream b m .connected =
      { w with
        routerInbox := rest
        registry := r
        streams := w.streams.insert b (w.writerPID b)
        writers := w.writers ++ [⟨b, true, false, true, .none, [m]⟩] } := by
  have hfree : w.registry.get? (w.writerPID b).id = none := by
    cases hj : w.registry.get? (w.writerPID b).id with
    | none => rfl
    | some j =>
      obtain ⟨wr, -, hid, hsome⟩ := hR.reg _ j hj
      rw [← writerPID_id_inj hid, hmiss] at hsome
      cases hsome
  have hadd := Actor.Registry.add_of_get?_eq_none
    (show w.registry.get? ("stream" ++ "/" ++ b) = none from hfree) w.writers.length
  refine ⟨⟨w.registry.lookup.insert ("stream" ++ "/" ++ b) w.writers.length⟩, ?_⟩
  simp only [deliverStream, hmiss, spawn, writerPID, hadd, if_true, start, send, Actor.Registry.get?,
    Map.get?_insert_self, List.getElem?_concat_length]
  simp [List.set_append_right]

/-- The router handles the oldest message of its inbox, and a writer it spawns
connects. -/
theorem Delivered.route (h : w.Delivered sent) {w' : World} (hs : w.step (.route .connected) = some w') :
    w'.Delivered sent := by
  have hR' := step_routed h.routed (show Calm (.route .connected) from trivial) hs
  simp only [step] at hs
  split at hs
  · cases hs
  · rename_i b m rest hin
    have hc : ∀ a, heldFor w.writers a ++ ((if b = a then [m] else []) ++ pendingFor a rest) = sent a :=
      fun a => by rw [← pendingFor_cons, ← hin]; exact h.conserved a
    cases hget : w.streams.get? b with
    | some pid =>
      obtain ⟨rfl, j, wr, hj, hwr, hwa, -, -⟩ := h.routed.memo b pid hget
      rw [deliverStream_of_some hget hj hwr] at hs
      cases hs
      obtain ⟨hjl, rfl⟩ := List.getElem?_eq_some_iff.mp hwr
      have hmap := map_addr_set (x := { w.writers[j] with inbox := w.writers[j].inbox ++ [m] }) hjl rfl
      refine ⟨hR', hmap ▸ h.nodup, fun wr hw => ?_, fun a => ?_, h.noDeadLetters⟩
      · obtain ⟨y, hy, he⟩ := List.mem_map.mp (hmap ▸ List.mem_map_of_mem Writer.addr hw)
        exact he ▸ h.memoised y hy
      · rw [heldFor_set (x := { w.writers[j] with inbox := w.writers[j].inbox ++ [m] }) h.nodup hjl rfl m
          rfl, hwa, List.append_assoc]
        exact hc a
    | none =>
      obtain ⟨r, hd⟩ := deliverStream_of_none h.routed rest m hget
      rw [hd] at hs
      cases hs
      have hnew : ∀ wr ∈ w.writers, wr.addr ≠ b := fun wr hw he => by
        simpa [he, hget] using h.memoised wr hw
      refine ⟨hR', ?_, fun wr hw => ?_, fun a => ?_, h.noDeadLetters⟩
      · rw [List.map_append, List.nodup_append]
        exact ⟨h.nodup, List.nodup_singleton _, List.disjoint_singleton.mpr fun hb => by
          obtain ⟨wr, hw, he⟩ := List.mem_map.mp hb
          exact hnew wr hw he⟩
      · rcases List.mem_append.mp hw with hw | hw
        · by_cases hb : wr.addr = b
          · simp [hb, Map.get?_insert_self]
          · simpa [Map.get?_insert_ne _ _ _ hb] using h.memoised wr hw
        · rw [List.mem_singleton.mp hw]; simp [Map.get?_insert_self]
      · rw [heldFor_append, heldFor_cons, List.append_assoc]
        simpa [heldFor] using hc a
  · rename_i a rest hin
    exact absurd (hin ▸ List.mem_cons_self _ _) (h.routed.quiet a)

/-- Every calm run keeps the invariant, with what it sends added. -/
theorem Delivered.run (h : w.Delivered sent) {steps : List Step} (hc : ∀ st ∈ steps, Calm st)
    {w' : World} (hr : w.run steps = some w') : w'.Delivered fun a => sent a ++ sentFor a steps := by
  induction steps generalizing w sent with
  | nil => cases hr; simpa [sentFor] using h
  | cons st sts ih =>
    simp only [World.run, Option.bind_eq_some] at hr
    obtain ⟨t, ht, hr⟩ := hr
    have hc' := fun st' h' => hc st' (List.mem_cons_of_mem _ h')
    have hst : Calm st := hc st (List.mem_cons_self _ _)
    cases st with
    | deliver b m =>
      cases ht
      simpa only [sentFor_deliver, List.append_assoc] using ih (h.deliver b m) hc' hr
    | route o =>
      cases o <;> simp only [Calm] at hst
      simpa only [sentFor_route] using ih (h.route ht) hc' hr
    | close j => exact absurd hst id
    | shutdown j => exact absurd hst id

end

/-- An engine at `address` whose router has no route and has spawned no writer. -/
def empty (address : String) : World := ⟨address, Map.empty, [], ⟨Map.empty⟩, [], []⟩

theorem delivered_empty (address : String) : (empty address).Delivered fun _ => [] :=
  ⟨⟨nofun, nofun, nofun⟩, List.nodup_nil, nofun, fun _ => rfl, rfl⟩

/-- Along every run from an engine that has spawned no writer, in which every
writer connects and no connection closes: for every address, the messages
sent to it are, in the order they were sent, those its writers hold followed
by those still waiting in the router's inbox; no two writers share an
address; and no message became a dead letter. -/
theorem calm_run_delivers (address : String) (steps : List Step) (hc : ∀ st ∈ steps, Calm st)
    {w : World} (hr : (empty address).run steps = some w) :
    w.deadLetters = [] ∧ (w.writers.map Writer.addr).Nodup ∧
      ∀ a, heldFor w.writers a ++ pendingFor a w.routerInbox = sentFor a steps :=
  have h := (delivered_empty address).run hc hr
  ⟨h.noDeadLetters, h.nodup, fun a => by simpa using h.conserved a⟩

/-- Messages for two addresses, sent and routed in turn. -/
def twoAddresses : List Step :=
  [.deliver "b" 1, .deliver "c" 2, .route .connected, .deliver "b" 3, .route .connected,
    .route .connected]

theorem calm_run_delivers_two_addresses :
    (∀ st ∈ twoAddresses, Calm st) ∧ ∃ w, (empty "10.0.0.1:4000").run twoAddresses = some w ∧
      w.deadLetters = [] ∧ (w.writers.map Writer.addr).Nodup ∧
      ∀ a, heldFor w.writers a ++ pendingFor a w.routerInbox = sentFor a twoAddresses :=
  have hc : ∀ st ∈ twoAddresses, Calm st := fun st hst => by
    simp only [twoAddresses, List.mem_cons, List.mem_nil_iff, or_false] at hst
    rcases hst with rfl | rfl | rfl | rfl | rfl | rfl <;> trivial
  ⟨hc, _, rfl, calm_run_delivers _ _ hc rfl⟩

end World

end Remote
