import DistributedFramework.Cluster.Membership

/-! What every message an agent handles does to its map of activated actors.

`receive_activated` gives the map after any message from the map before it:
an entry stays unless the message `drops` it (a `Deactivation` with its ID, or
a snapshot in which a member at its host leaves), and an ID gets an entry only
from a PID the message carries (an `Activation`, or an `ActorTopology`), and
only when it has none. From it, for every order in which the mailbox hands the
agent its messages:

* `receive_keyed`: the map sends every ID to a PID with that ID;
* `receive_get?_of_get?`: an entry stays through every message that does not
  drop it;
* `receive_get?_eq_of_get?`: the first PID an agent holds for an ID is never
  replaced by another.

`activate` itself never writes the map (`activate_activated`): an activation
enters it only when the agent handles the `Activation` that `bcast` sends to
every member, so the check of `activate` against the map does not see an
activation whose `Activation` is still in the mailbox, and it reads only this
agent's map. `Network.lean` runs both cases. -/

namespace Cluster
open Go

namespace Agent

/-- `activated` maps every ID to a PID with that ID, as `addActivated` stores it. -/
def Keyed (a : Agent) : Prop := ∀ k q, a.activated.get? k = some q → q.id = k

/-- Whether handling `msg` removes the activated PID `q`: a `Deactivation` with
`q`'s ID, or a snapshot that leaves a member at `q`'s host. -/
def drops (a : Agent) (q : Actor.PID) : Msg → Bool
  | .peer (.deactivation p) => p.id = q.id
  | .members ms => (a.members.except ms).any (·.host = q.address)
  | _ => false

/-- The PIDs a message hands to `addActivated`. -/
def carried : Msg → List Actor.PID
  | .peer (.activation (some p)) => [p]
  | .peer (.actorTopology ps) => ps
  | _ => []

section
variable (a : Agent)

@[simp] theorem emit_activated (o : Out) : (a.emit o).activated = a.activated := rfl

theorem foldl_emit_activated {β : Type} (f : β → Out) (l : List β) :
    (l.foldl (fun a x => a.emit (f x)) a).activated = a.activated := by
  induction l generalizing a with
  | nil => rfl
  | cons x l ih => exact ih _

@[simp] theorem bcast_activated (msg : PeerMsg) : (a.bcast msg).activated = a.activated :=
  foldl_emit_activated a _ _

theorem addActivated_get? (p : Actor.PID) (k : String) :
    (a.addActivated p).activated.get? k =
      (a.activated.get? k).or (if p.id = k then some p else none) := by
  unfold addActivated
  by_cases hpk : p.id = k
  · subst hpk; cases h : a.activated.get? p.id <;> simp [h]
  · split_ifs <;> simp [hpk, Map.get?_insert_ne _ _ _ (Ne.symm hpk)]

theorem removeActivated_get? (p : Actor.PID) (k : String) :
    (a.removeActivated p).activated.get? k = if p.id = k then none else a.activated.get? k := by
  split_ifs with h
  · subst h; exact Map.get?_erase_self _ _
  · exact Map.get?_erase_ne _ _ (Ne.symm h)

theorem handleActorTopology_get? (ps : List Actor.PID) (k : String) :
    (a.handleActorTopology ps).activated.get? k =
      (a.activated.get? k).or (ps.find? (·.id = k)) := by
  induction ps generalizing a with
  | nil => simp [handleActorTopology]
  | cons p ps ih =>
    rw [handleActorTopology, List.foldl_cons, ← handleActorTopology, ih, addActivated_get?]
    by_cases hpk : p.id = k <;> simp [hpk, Option.or_assoc]

theorem handleActivationRequest_activated (kind id : String) :
    (a.handleActivationRequest kind id).1.activated = a.activated := by
  unfold handleActivationRequest; split <;> rfl

/-- The last step of `activate`, broadcasting the activation the member
returned, leaves the map alone. -/
theorem activated_of_activation (p : Agent × Option ActivationResponse) :
    (match p with
      | (a, none) => (a, none)
      | (a, some r) => (a.bcast (.activation r.pid), r.pid)).1.activated = p.1.activated := by
  rcases p with ⟨b, _ | r⟩
  · rfl
  · exact bcast_activated b _

theorem activate_activated (kind : String) (config : ActivationConfig) (draw : Nat)
    (remote : Member → String → String → Option ActivationResponse) :
    (a.activate kind config draw remote).1.activated = a.activated := by
  unfold activate; dsimp only
  split_ifs
  · rfl
  · rfl
  split
  · rfl
  refine (activated_of_activation _).trans ?_
  split_ifs
  · exact handleActivationRequest_activated ..
  · split
    · rfl
    · split_ifs <;> rfl

theorem handleGetActive_activated (id kind : String) :
    (a.handleGetActive id kind).activated = a.activated := by
  unfold handleGetActive; dsimp only; split_ifs <;> rfl

theorem memberJoin_activated (m : Member) : (a.memberJoin m).activated = a.activated := by
  unfold memberJoin; dsimp only; split <;> rfl

/-- The loop of `memberLeave` over the activated actors empties exactly the IDs
of the actors at the leaving host. -/
theorem dropHost_get? (host k : String) (pids : List Actor.PID) :
    (pids.foldl (fun a pid => if pid.address = host then a.removeActivated pid else a) a).activated.get? k =
      if pids.any (fun p => p.address = host ∧ p.id = k) then none else a.activated.get? k := by
  induction pids generalizing a with
  | nil => rfl
  | cons p pids ih =>
    rw [List.foldl_cons, ih]
    by_cases hp : p.address = host <;> by_cases hk : p.id = k <;>
      simp [hp, hk, removeActivated_get?]

variable {a}

/-- In a keyed map, an actor at `host` has ID `k` exactly when `k` maps to an
actor at `host`. -/
theorem Keyed.exists_values_iff (hk : a.Keyed) (host k : String) :
    (∃ p ∈ a.activated.values, p.address = host ∧ p.id = k) ↔
      ∃ q, a.activated.get? k = some q ∧ q.address = host := by
  simp only [Map.values, List.mem_map]
  constructor
  · rintro ⟨_, ⟨e, he, rfl⟩, hh, rfl⟩
    have he' := (Map.get?_eq_some_iff _).mpr he
    exact ⟨e.2, hk _ _ he' ▸ he', hh⟩
  · rintro ⟨q, h, hh⟩
    exact ⟨q, ⟨(k, q), (Map.get?_eq_some_iff _).mp h, rfl⟩, hh, hk k q h⟩

theorem memberLeave_get? (hk : a.Keyed) (m : Member) (k : String) :
    (a.memberLeave m).activated.get? k = (a.activated.get? k).filter (·.address ≠ m.host) := by
  unfold memberLeave; dsimp only
  rw [emit_activated, dropHost_get?]
  simp only [rebuildKinds, List.any_eq_true, decide_eq_true_eq, hk.exists_values_iff]
  cases a.activated.get? k with
  | none => simp
  | some q => by_cases hh : q.address = m.host <;> simp [hh, Option.filter]

theorem Keyed.memberLeave (hk : a.Keyed) (m : Member) : (a.memberLeave m).Keyed := by
  intro k q h
  rw [memberLeave_get? hk] at h
  exact hk k q (Option.filter_eq_some.mp h).1

theorem foldl_memberLeave_get? (ms : List Member) (hk : a.Keyed) (k : String) :
    (ms.foldl memberLeave a).activated.get? k =
      (a.activated.get? k).filter fun q => !ms.any (·.host = q.address) := by
  induction ms generalizing a with
  | nil => simp only [List.foldl_nil, List.any_nil, Bool.not_false]; cases a.activated.get? k <;> rfl
  | cons m ms ih =>
    rw [List.foldl_cons, ih (hk.memberLeave m), memberLeave_get? hk]
    cases a.activated.get? k with
    | none => rfl
    | some q =>
      by_cases hq : m.host = q.address
      · simp [hq, Option.filter_some]
      · simp [hq, Ne.symm hq, Option.filter_some]

theorem foldl_memberJoin_activated (ms : List Member) (a : Agent) :
    (ms.foldl memberJoin a).activated = a.activated := by
  induction ms generalizing a with
  | nil => rfl
  | cons m ms ih => rw [List.foldl_cons, ih, memberJoin_activated]

/-- A snapshot drops the activated actors at the hosts of the members that
leave, and nothing else. -/
theorem handleMembers_get? (hk : a.Keyed) (ms : List Member) (k : String) :
    (a.handleMembers ms).activated.get? k =
      (a.activated.get? k).filter fun q => !(a.members.except ms).any (·.host = q.address) := by
  unfold handleMembers; dsimp only
  rw [foldl_memberLeave_get?, foldl_memberJoin_activated]
  exact fun k q h => hk k q (by rwa [foldl_memberJoin_activated] at h)

end

variable {a a' : Agent} {draw : Nat} {remote : Member → String → String → Option ActivationResponse}
  {msg : Msg}

theorem receive_activate (kind : String) (config : ActivationConfig) :
    a.receive draw remote (.activate kind config) =
      .ok ((a.activate kind config draw remote).1.emit
        (.respond (.pid (a.activate kind config draw remote).2))) := rfl

theorem receive_activationRequest (kind id : String) :
    a.receive draw remote (.activationRequest kind id) =
      .ok ((a.handleActivationRequest kind id).1.emit
        (.respond (.activationResponse (a.handleActivationRequest kind id).2))) := rfl

private theorem filter_true {α : Type} (o : Option α) : o.filter (fun _ => true) = o := by
  cases o <;> rfl

/-- The activated map after any message, from the one before: the entries the
message does not drop, then, for an ID left without one, the first PID with
that ID the message carries. -/
theorem receive_activated (hk : a.Keyed) (h : a.receive draw remote msg = .ok a') (k : String) :
    a'.activated.get? k =
      ((a.activated.get? k).filter fun q => !a.drops q msg).or ((carried msg).find? (·.id = k)) := by
  cases msg with
  | peer pm =>
    cases pm with
    | actorTopology ps => cases h; simp [drops, carried, handleActorTopology_get?, filter_true]
    | activation p =>
      cases p with
      | none => cases h
      | some p =>
        cases h
        by_cases hp : p.id = k <;> simp [drops, carried, handleActivation, addActivated_get?, filter_true, hp]
    | deactivation p =>
      cases h
      simp only [handleDeactivation, emit_activated, removeActivated_get?, drops, carried,
        List.find?_nil, Option.or_none]
      cases hq : a.activated.get? k with
      | none => simp
      | some q =>
        rw [← hk k q hq]
        by_cases hp : p.id = q.id <;> simp [hp, Option.filter_some]
  | members ms => cases h; simp [drops, carried, handleMembers_get? hk]
  | activate kind config => rw [receive_activate] at h; cases h; simp [drops, carried, activate_activated, filter_true]
  | activationRequest kind id =>
    rw [receive_activationRequest] at h; cases h
    simp [drops, carried, handleActivationRequest_activated, filter_true]
  | _ => cases h; simp [drops, carried, handleGetActive_activated, filter_true]

/-- The map keeps every ID with the PID that the ID names. -/
theorem receive_keyed (hk : a.Keyed) (h : a.receive draw remote msg = .ok a') : a'.Keyed := by
  intro k q hq
  rw [receive_activated hk h, Option.or_eq_some] at hq
  rcases hq with hq | ⟨-, hq⟩
  · exact hk k q (Option.filter_eq_some.mp hq).1
  · simpa using List.find?_some hq

/-- An entry the message does not drop stays as it was. -/
theorem receive_get?_of_get? {k : String} {q : Actor.PID} (hk : a.Keyed)
    (h : a.receive draw remote msg = .ok a') (hq : a.activated.get? k = some q)
    (hd : a.drops q msg = false) : a'.activated.get? k = some q := by
  simp [receive_activated hk h, hq, hd, Option.filter_some]

theorem carried_eq_nil_of_drops {q : Actor.PID} (hd : a.drops q msg = true) : carried msg = [] := by
  cases msg with
  | peer pm => cases pm <;> simp_all [drops, carried]
  | _ => simp_all [drops, carried]

/-- The first PID an agent holds for an ID is never replaced by another: a later
`Activation` or `ActorTopology` for the ID is ignored, and a message that drops
the entry carries no PID. -/
theorem receive_get?_eq_of_get? {k : String} {q q' : Actor.PID} (hk : a.Keyed)
    (h : a.receive draw remote msg = .ok a') (hq : a.activated.get? k = some q)
    (hq' : a'.activated.get? k = some q') : q' = q := by
  rw [receive_activated hk h, hq] at hq'
  cases hd : a.drops q msg
  · simpa [hd, Option.filter_some, eq_comm] using hq'
  · simp [hd, Option.filter_some, carried_eq_nil_of_drops hd] at hq'

end Agent

end Cluster
