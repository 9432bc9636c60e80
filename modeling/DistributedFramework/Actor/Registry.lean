import DistributedFramework.Actor.Engine
import DistributedFramework.Go.Map

/-! `actor/registry.go` and `actor/response.go`: the registry maps the ID of a
processer to the processer, and `Engine.Request` registers a `Response` under
an ID that `NewResponse` draws at random.

A processer is named by its position among the processers created so far, its
identity as a Go object, so two processers may carry one ID. `Registry.add`
keeps the incumbent of an ID, while `Registry.Remove` deletes the entry of an
ID whichever processer it maps to.

Proved here:

* `run_owned`: along a run in which each processer is created with an ID the
  registry does not hold, every registered ID maps to a processer that carries
  it and is not done, and every processer not done holds its ID; so each
  `Result` and each cleanup removes its own entry, and a reply sent while its
  `Response` waits reaches that `Response` (`Owned.remove_own`,
  `Owned.reply_reaches`);
* `colliding_requests`: two requests that draw one ID; the `Result` of the
  second removes the entry of the first, and the `Result` of the first returns
  the reply to the second request;
* `results_answer_own_request`: along every run in which the processers
  created carry distinct IDs, every `Result` returns no reply or a reply to its
  own request (`Answered.run`); `late_reply_reaches_reused_id` shows why the
  IDs must differ from those of finished requests too. -/

namespace Actor

/-- `Registry`: the processer each registered ID maps to. -/
structure Registry where
  lookup : Go.Map String Nat

namespace Registry

def get? (r : Registry) (id : String) : Option Nat := r.lookup.get? id

/-- `add`: a processer whose ID is taken is neither registered nor started
(`ActorDuplicateIdEvent`). The flag says whether it was. -/
def add (r : Registry) (id : String) (p : Nat) : Registry × Bool :=
  if (r.get? id).isSome then (r, false) else (⟨r.lookup.insert id p⟩, true)

/-- `Remove(pid)`: the entry of `pid.ID` goes, whichever processer it maps to. -/
def remove (r : Registry) (pid : PID) : Registry := ⟨r.lookup.erase pid.id⟩

theorem get?_add (r : Registry) (id k : String) (p : Nat) :
    (r.add id p).1.get? k = if k = id ∧ r.get? id = none then some p else r.get? k := by
  unfold add
  cases h : r.get? id with
  | some q => simp
  | none =>
    by_cases hk : k = id
    · subst hk; simp [get?]
    · simp [get?, hk, Go.Map.get?_insert_ne _ _ _ hk]

theorem add_of_get?_eq_none {r : Registry} {id : String} (h : r.get? id = none) (p : Nat) :
    r.add id p = (⟨r.lookup.insert id p⟩, true) := by
  simp [add, h]

theorem add_started (r : Registry) (id : String) (p : Nat) :
    (r.add id p).2 = (r.get? id).isNone := by
  unfold add; cases r.get? id <;> rfl

theorem get?_remove (r : Registry) (pid : PID) (k : String) :
    (r.remove pid).get? k = if k = pid.id then none else r.get? k := by
  split_ifs with h
  · subst h; exact Go.Map.get?_erase_self _ _
  · exact Go.Map.get?_erase_ne _ _ h

end Registry

namespace Response

/-- A processer: its PID; whether it is a `Response` (or else a process that
`Spawn` created); whether `Registry.add` registered it; whether its `Result`
or its cleanup has run; and for a `Response`, the reply its one-slot channel
holds, with the request that reply answers. -/
structure Processer where
  pid : PID
  response : Bool
  started : Bool
  done : Bool
  result : Option (Nat × Nat)
  deriving DecidableEq, Repr

/-- The engine's address and registry, every processer created so far, what
each `Result` returned (by the request's processer), and the replies that
found no registered processer. -/
structure System where
  address : String
  registry : Registry
  procs : List Processer
  returned : List (Nat × Option (Nat × Nat))
  deadLetters : List (PID × Nat)

inductive Step where
  /-- `Engine.Spawn` of a process with PID `pid` -/
  | spawn (pid : PID)
  /-- `Engine.Request`: `NewResponse` draws `n`, and the request goes out with
  the `Response`'s PID as its sender -/
  | request (n : Nat)
  /-- the receiver of request `i` responds `v` to its sender -/
  | reply (i v : Nat)
  /-- the `Result` of request `i` returns, and its deferred `Remove` runs -/
  | result (i : Nat)
  /-- the cleanup of process `i` removes it -/
  | cleanup (i : Nat)

namespace System

/-- `NewResponse`'s PID for the draw `n`. -/
def responsePID (s : System) (n : Nat) : PID := ⟨s.address, "response" ++ "/" ++ toString n⟩

/-- A new processer, which `Registry.add` registers when its ID is free. -/
def create (s : System) (pid : PID) (response : Bool) : System :=
  { s with
    registry := (s.registry.add pid.id s.procs.length).1
    procs := s.procs ++ [⟨pid, response, (s.registry.add pid.id s.procs.length).2, false, none⟩] }

/-- `engine.Send(pid, v)` for request `i`: the processer the registry maps
`pid.ID` to gets it. A `Response` keeps the reply when its channel is empty;
into a full one the sender blocks, and the reply never lands. -/
def send (s : System) (pid : PID) (i v : Nat) : System :=
  match s.registry.get? pid.id with
  | none => { s with deadLetters := s.deadLetters ++ [(pid, v)] }
  | some j =>
    match s.procs[j]? with
    | some p =>
      if p.response ∧ p.result = none then
        { s with procs := s.procs.set j { p with result := some (i, v) } }
      else s
    | none => s

def step (s : System) : Step → Option System
  | .spawn pid => some (s.create pid false)
  | .request n => some (s.create (s.responsePID n) true)
  | .reply i v =>
    match s.procs[i]? with
    | some p => if p.response then some (s.send p.pid i v) else none
    | none => none
  | .result i =>
    match s.procs[i]? with
    | some p =>
      if p.response ∧ ¬p.done then
        some { s with
          registry := s.registry.remove p.pid
          procs := s.procs.set i { p with done := true }
          returned := s.returned ++ [(i, p.result)] }
      else none
    | none => none
  | .cleanup i =>
    match s.procs[i]? with
    | some p =>
      if ¬p.response ∧ p.started ∧ ¬p.done then
        some { s with
          registry := s.registry.remove p.pid
          procs := s.procs.set i { p with done := true } }
      else none
    | none => none

def run (s : System) : List Step → Option System
  | [] => some s
  | st :: sts => (s.step st).bind (·.run sts)

/-- The registry has refused no processer; every registered ID maps to a
processer that carries it and is not done; and every processer not done holds
its ID. -/
structure Owned (s : System) : Prop where
  started : ∀ (j : Nat) (p : Processer), s.procs[j]? = some p → p.started
  sound : ∀ id (j : Nat), s.registry.get? id = some j →
    ∃ p : Processer, s.procs[j]? = some p ∧ p.pid.id = id ∧ ¬p.done
  complete : ∀ (j : Nat) (p : Processer), s.procs[j]? = some p → ¬p.done → s.registry.get? p.pid.id = some j

/-- The step creates its processer with an ID the registry does not hold. -/
def Fresh (s : System) : Step → Prop
  | .spawn pid => s.registry.get? pid.id = none
  | .request n => s.registry.get? (s.responsePID n).id = none
  | _ => True

section
variable {s : System}

theorem Owned.create (h : s.Owned) {pid : PID} (hf : s.registry.get? pid.id = none) (response : Bool) :
    (s.create pid response).Owned := by
  have hnew : ∀ (j : Nat) (p : Processer), (s.procs ++ [⟨pid, response, true, false, none⟩])[j]? = some p →
      s.procs[j]? = some p ∨ j = s.procs.length ∧ p = ⟨pid, response, true, false, none⟩ := by
    intro j p hj
    rcases Nat.lt_or_ge j s.procs.length with hl | hl
    · rw [List.getElem?_append_left hl] at hj; exact .inl hj
    · rw [List.getElem?_append_right hl, List.getElem?_eq_some_iff] at hj
      obtain ⟨hlt, rfl⟩ := hj
      exact .inr ⟨by simp only [List.length_singleton] at hlt; omega, List.getElem_singleton _ _⟩
  simp only [System.create, Registry.add_started, hf, Option.isNone_none]
  refine ⟨fun j p hj => ?_, fun id j hj => ?_, fun j p hj hd => ?_⟩
  · rcases hnew j p hj with hj | ⟨-, rfl⟩
    · exact h.started j p hj
    · rfl
  · rw [Registry.get?_add, hf] at hj
    split_ifs at hj with hid
    · cases hj
      exact ⟨_, List.getElem?_concat_length _ _, hid.1.symm, Bool.false_ne_true⟩
    · obtain ⟨p, hp, hpid, hd⟩ := h.sound id j hj
      exact ⟨p, (List.getElem?_append_left (List.getElem?_eq_some_iff.mp hp).1).trans hp, hpid, hd⟩
  · rw [Registry.get?_add, hf]
    rcases hnew j p hj with hj | ⟨rfl, rfl⟩
    · have hp := h.complete j p hj hd
      have hne : p.pid.id ≠ pid.id := fun he => by rw [he, hf] at hp; cases hp
      simp [hne, hp]
    · simp

/-- An `Owned` system stays so under a change that keeps every processer's
PID, registration and state. -/
theorem Owned.frame (h : s.Owned) {s' : System} (hr : s'.registry = s.registry)
    (hp : ∀ j : Nat, (s'.procs[j]?).map (fun p : Processer => (p.pid, p.started, p.done)) =
      (s.procs[j]?).map (fun p : Processer => (p.pid, p.started, p.done))) : s'.Owned := by
  have fwd : ∀ (j : Nat) (p' : Processer), s'.procs[j]? = some p' →
      ∃ p : Processer, s.procs[j]? = some p ∧ p.pid = p'.pid ∧ p.started = p'.started ∧ p.done = p'.done := by
    intro j p' hj
    obtain ⟨p, hp, he⟩ := Option.map_eq_some'.mp ((hp j).symm.trans (by rw [hj]; rfl))
    simp only [Prod.mk.injEq] at he
    exact ⟨p, hp, he⟩
  have bwd : ∀ (j : Nat) (p : Processer), s.procs[j]? = some p →
      ∃ p' : Processer, s'.procs[j]? = some p' ∧ p.pid = p'.pid ∧ p.done = p'.done := by
    intro j p hj
    obtain ⟨p', hp', he⟩ := Option.map_eq_some'.mp ((hp j).trans (by rw [hj]; rfl))
    simp only [Prod.mk.injEq] at he
    exact ⟨p', hp', he.1.symm, he.2.2.symm⟩
  refine ⟨fun j p' hj => ?_, fun id j hj => ?_, fun j p' hj hd => ?_⟩
  · obtain ⟨p, hp, -, hs, -⟩ := fwd j p' hj
    exact hs ▸ h.started j p hp
  · rw [hr] at hj
    obtain ⟨p, hp, hid, hd⟩ := h.sound id j hj
    obtain ⟨p', hp', e1, e2⟩ := bwd j p hp
    exact ⟨p', hp', e1 ▸ hid, e2 ▸ hd⟩
  · obtain ⟨p, hp, e1, -, e3⟩ := fwd j p' hj
    rw [hr, ← e1]
    exact h.complete j p hp (e3 ▸ hd)

theorem Owned.send (h : s.Owned) (pid : PID) (i v : Nat) : (s.send pid i v).Owned := by
  unfold System.send
  split
  · exact h.frame rfl fun _ => rfl
  · rename_i j _
    split
    · rename_i p hp
      split_ifs
      · refine h.frame rfl fun k => ?_
        by_cases hjk : j = k
        · subst hjk; simp [List.getElem?_set, hp, (List.getElem?_eq_some_iff.mp hp).1]
        · simp only [List.getElem?_set_ne hjk]
      · exact h
    · exact h

/-- The `Result` of a request or the cleanup of a process: its processer is
done, and the entry of its ID goes. -/
theorem Owned.retire (h : s.Owned) {i : Nat} {p : Processer} (hi : s.procs[i]? = some p)
    (hd : ¬p.done) {s' : System} (hr : s'.registry = s.registry.remove p.pid)
    (hp : s'.procs = s.procs.set i { p with done := true }) : s'.Owned := by
  have hlt := (List.getElem?_eq_some_iff.mp hi).1
  have hown := h.complete i p hi hd
  refine ⟨fun j q hj => ?_, fun id j hj => ?_, fun j q hj hq => ?_⟩ <;> rw [hp] at * <;> rw [hr] at *
  · by_cases hij : i = j
    · subst hij; simp only [List.getElem?_set_self hlt, Option.some.injEq] at hj
      exact hj ▸ h.started i p hi
    · exact h.started j q (by rwa [List.getElem?_set_ne hij] at hj)
  · rw [Registry.get?_remove] at hj
    split_ifs at hj with hid
    obtain ⟨q, hq, hqid, hqd⟩ := h.sound id j hj
    have hij : i ≠ j := by rintro rfl; rw [hi] at hq; cases hq; exact hid hqid.symm
    exact ⟨q, by rwa [List.getElem?_set_ne hij], hqid, hqd⟩
  · by_cases hij : i = j
    · subst hij; simp only [List.getElem?_set_self hlt, Option.some.injEq] at hj
      exact absurd (hj ▸ rfl : q.done = true) hq
    · rw [List.getElem?_set_ne hij] at hj
      have hqown := h.complete j q hj hq
      rw [Registry.get?_remove, if_neg]
      · exact hqown
      · intro he; rw [he, hown] at hqown; exact hij (Option.some.inj hqown)

theorem step_owned (h : s.Owned) {st : Step} (hf : s.Fresh st) {s' : System}
    (hs : s.step st = some s') : s'.Owned := by
  cases st with
  | spawn pid => cases hs; exact h.create hf false
  | request n => cases hs; exact h.create hf true
  | reply i v =>
    simp only [System.step] at hs
    split at hs
    · split_ifs at hs; cases hs; exact h.send _ i v
    · cases hs
  | result i =>
    simp only [System.step] at hs
    split at hs
    · split_ifs at hs with hc; cases hs; exact h.retire ‹_› hc.2 rfl rfl
    · cases hs
  | cleanup i =>
    simp only [System.step] at hs
    split at hs
    · split_ifs at hs with hc; cases hs; exact h.retire ‹_› hc.2.2 rfl rfl
    · cases hs

/-- Along a run in which every step that creates a processer does so with a
free ID, the registry stays owned. -/
theorem run_owned {steps : List Step} {s' : System} (h : s.Owned)
    (hf : ∀ pre st post t, steps = pre ++ st :: post → s.run pre = some t → t.Fresh st)
    (hr : s.run steps = some s') : s'.Owned := by
  induction steps generalizing s with
  | nil => cases hr; exact h
  | cons st sts ih =>
    simp only [System.run, Option.bind_eq_some] at hr
    obtain ⟨t, hs, hr⟩ := hr
    refine ih (step_owned h (hf [] st sts s rfl rfl) hs) (fun pre st' post u he hu => ?_) hr
    exact hf (st :: pre) st' post u (by rw [he]; rfl) (by simp only [System.run, hs, Option.some_bind, hu])

/-- In an owned system, the `Remove` of a processer not done deletes its own entry. -/
theorem Owned.remove_own (h : s.Owned) {i : Nat} {p : Processer} (hi : s.procs[i]? = some p)
    (hd : ¬p.done) : s.registry.get? p.pid.id = some i :=
  h.complete i p hi hd

/-- In an owned system, a reply to a waiting `Response` with an empty channel
lands in that `Response`'s channel. -/
theorem Owned.reply_reaches (h : s.Owned) {i : Nat} {p : Processer} (hi : s.procs[i]? = some p)
    (hd : ¬p.done) (hres : p.response) (hempty : p.result = none) (v : Nat) :
    (s.send p.pid i v).procs[i]? = some { p with result := some (i, v) } := by
  have hlt := (List.getElem?_eq_some_iff.mp hi).1
  simp [System.send, h.remove_own hi hd, hi, hres, hempty, List.getElem?_set_self hlt]

end

/-- An engine at `local` with nothing registered. -/
def fresh : System := ⟨"local", ⟨Go.Map.empty⟩, [], [], []⟩

/-- Requests `0` and `1` both draw `5`, so the registry keeps `0` and refuses
`1`. The reply to request `1` lands in `0`'s channel; the `Result` of `1` times
out and removes `0`'s entry; the reply to request `0` then finds no processer,
and the `Result` of `0` returns the reply to request `1`. -/
theorem colliding_requests :
    ∃ s₁ s, fresh.run [.request 5, .request 5, .reply 1 42] = some s₁ ∧
      (s₁.procs[1]?).map Processer.pid = some (fresh.responsePID 5) ∧
      s₁.registry.get? (fresh.responsePID 5).id = some 0 ∧
      s₁.run [.result 1, .reply 0 7, .result 0] = some s ∧
      s.returned = [(1, none), (0, some (1, 42))] ∧ s.deadLetters = [(fresh.responsePID 5, 7)] :=
  ⟨_, _, rfl, rfl, rfl, rfl, rfl, rfl⟩

end System

/-! ## Replies reach their own request -/

/-- The ID of the processer a step creates, which does not depend on the
state: the PID `Spawn` is given, or `NewResponse`'s `response/<n>`. -/
def Step.createdID : Step → Option String
  | .spawn pid => some pid.id
  | .request n => some ("response" ++ "/" ++ toString n)
  | _ => none

theorem filterMap_createdID_cons (st : Step) (sts : List Step) :
    (st :: sts).filterMap Step.createdID = st.createdID.toList ++ sts.filterMap Step.createdID := by
  cases h : st.createdID <;> simp [List.filterMap_cons, h]

theorem map_id_set {l : List Processer} {j : Nat} {q : Processer} (q' : Processer) (hq : l[j]? = some q)
    (he : q'.pid = q.pid) : (l.set j q').map (·.pid.id) = l.map (·.pid.id) := by
  refine List.ext_getElem? fun k => ?_
  simp only [List.getElem?_map, List.getElem?_set]
  split_ifs with h₁ h₂
  · subst h₁; simp [hq, he]
  · subst h₁; exact absurd (List.getElem?_eq_some_iff.mp hq).1 h₂
  · rfl

namespace System

/-- An owned system whose processers carry distinct IDs, in which the reply a
`Response` holds answers the request of that `Response`, and so does every
reply a `Result` has returned. -/
structure Answered (s : System) : Prop where
  owned : s.Owned
  nodup : (s.procs.map (·.pid.id)).Nodup
  held : ∀ (j : Nat) (p : Processer), s.procs[j]? = some p → ∀ x ∈ p.result, x.1 = j
  returned : ∀ r ∈ s.returned, ∀ x ∈ r.2, x.1 = r.1

section
variable {s : System}

theorem map_id_send (pid : PID) (i v : Nat) :
    (s.send pid i v).procs.map (·.pid.id) = s.procs.map (·.pid.id) := by
  unfold System.send
  split
  · rfl
  · split
    · rename_i r hr
      split_ifs
      · exact map_id_set _ hr rfl
      · rfl
    · rfl

theorem returned_send (pid : PID) (i v : Nat) : (s.send pid i v).returned = s.returned := by
  unfold System.send
  split
  · rfl
  · split
    · split_ifs <;> rfl
    · rfl

/-- Two processers with one ID are one processer. -/
theorem Answered.eq_of_id (h : s.Answered) {i j : Nat} {p q : Processer} (hi : s.procs[i]? = some p)
    (hj : s.procs[j]? = some q) (he : p.pid.id = q.pid.id) : i = j := by
  obtain ⟨hil, rfl⟩ := List.getElem?_eq_some_iff.mp hi
  obtain ⟨hjl, rfl⟩ := List.getElem?_eq_some_iff.mp hj
  have hmi : i < (s.procs.map (·.pid.id)).length := by simpa using hil
  have hmj : j < (s.procs.map (·.pid.id)).length := by simpa using hjl
  have e : (s.procs.map (·.pid.id))[i] = (s.procs.map (·.pid.id))[j] := by simpa using he
  exact h.nodup.getElem_inj_iff.mp e

/-- A new processer with an ID no processer carries: the registry is free
for it, and it holds no reply. -/
theorem Answered.create (h : s.Answered) {pid : PID} (hu : pid.id ∉ s.procs.map (·.pid.id))
    (response : Bool) : (s.create pid response).Answered := by
  have hf : s.registry.get? pid.id = none := by
    cases hg : s.registry.get? pid.id with
    | none => rfl
    | some j =>
      obtain ⟨p, hp, hid, -⟩ := h.owned.sound _ j hg
      exact absurd (List.mem_map.mpr ⟨p, List.getElem?_mem hp, hid⟩) hu
  refine ⟨h.owned.create hf response, ?_, fun j p hj x hx => ?_, h.returned⟩
  · simpa [System.create] using h.nodup.append (List.nodup_singleton _) (List.disjoint_singleton.mpr hu)
  · simp only [System.create] at hj
    rcases Nat.lt_or_ge j s.procs.length with hl | hl
    · rw [List.getElem?_append_left hl] at hj
      exact h.held j p hj x hx
    · rw [List.getElem?_append_right hl, List.getElem?_eq_some_iff] at hj
      obtain ⟨_, rfl⟩ := hj
      simp at hx

/-- A reply for request `i`, sent to the PID of `i`'s own processer, can only
land in that processer: the registry maps its ID to no other. -/
theorem Answered.held_send (h : s.Answered) {i : Nat} {p : Processer} (hi : s.procs[i]? = some p)
    (v : Nat) :
    ∀ (j : Nat) (q : Processer), (s.send p.pid i v).procs[j]? = some q → ∀ x ∈ q.result, x.1 = j := by
  unfold System.send
  split
  · exact h.held
  · rename_i k hk
    split
    · rename_i r hr
      split_ifs
      · obtain ⟨r', hr', hid, -⟩ := h.owned.sound _ k hk
        have hik : i = k := h.eq_of_id hi hr' hid.symm
        intro j q hj x hx
        by_cases hkj : k = j
        · subst hkj hik
          rw [List.getElem?_set_self (List.getElem?_eq_some_iff.mp hr).1, Option.some.injEq] at hj
          subst hj
          simp only [Option.mem_def, Option.some.injEq] at hx
          subst hx
          rfl
        · rw [List.getElem?_set_ne hkj] at hj
          exact h.held j q hj x hx
      · exact h.held
    · exact h.held

/-- The `Result` of a request or the cleanup of a process: the reply its
processer holds stays, and a `Result` returns it. -/
theorem Answered.retire (h : s.Answered) {i : Nat} {p : Processer} (hi : s.procs[i]? = some p)
    (hd : ¬p.done) {s' : System} (hr : s'.registry = s.registry.remove p.pid)
    (hp : s'.procs = s.procs.set i { p with done := true })
    (hret : s'.returned = s.returned ∨ s'.returned = s.returned ++ [(i, p.result)]) : s'.Answered := by
  refine ⟨h.owned.retire hi hd hr hp, by rw [hp, map_id_set { p with done := true } hi rfl]; exact h.nodup,
    fun j q hj => ?_, ?_⟩
  · rw [hp] at hj
    by_cases hij : i = j
    · subst hij
      rw [List.getElem?_set_self (List.getElem?_eq_some_iff.mp hi).1, Option.some.injEq] at hj
      exact hj ▸ h.held i p hi
    · rw [List.getElem?_set_ne hij] at hj
      exact h.held j q hj
  · rcases hret with e | e <;> rw [e]
    · exact h.returned
    · intro r hr
      rcases List.mem_append.mp hr with hr | hr
      · exact h.returned r hr
      · rw [List.mem_singleton.mp hr]
        exact h.held i p hi

/-- Every step that creates a processer with an ID no processer carries keeps
`Answered`, and adds that ID to the processers'. -/
theorem Answered.step (h : s.Answered) {st : Step}
    (hd : (s.procs.map (·.pid.id) ++ st.createdID.toList).Nodup) {s' : System}
    (hs : s.step st = some s') :
    s'.Answered ∧ s'.procs.map (·.pid.id) = s.procs.map (·.pid.id) ++ st.createdID.toList := by
  have hu : ∀ id, st.createdID = some id → id ∉ s.procs.map (·.pid.id) := fun id he =>
    List.disjoint_singleton.mp (by rw [he] at hd; exact (List.nodup_append.mp hd).2.2)
  cases st with
  | spawn pid =>
    cases hs
    exact ⟨h.create (hu pid.id rfl) false, by simp [System.create, Step.createdID]⟩
  | request n =>
    cases hs
    exact ⟨h.create (hu (s.responsePID n).id rfl) true,
      by simp [System.create, Step.createdID, System.responsePID]⟩
  | reply i v =>
    simp only [System.step] at hs
    split at hs
    · split_ifs at hs
      cases hs
      refine ⟨⟨h.owned.send _ i v, ?_, h.held_send ‹_› v, ?_⟩, ?_⟩
      · rw [map_id_send]; exact h.nodup
      · rw [returned_send]; exact h.returned
      · simp [map_id_send, Step.createdID]
    · cases hs
  | result i =>
    simp only [System.step] at hs
    split at hs
    · rename_i p hp
      split_ifs at hs with hc
      cases hs
      exact ⟨h.retire hp hc.2 rfl rfl (.inr rfl),
        by rw [map_id_set { p with done := true } hp rfl]; simp [Step.createdID]⟩
    · cases hs
  | cleanup i =>
    simp only [System.step] at hs
    split at hs
    · rename_i p hp
      split_ifs at hs with hc
      cases hs
      exact ⟨h.retire hp hc.2.2 rfl rfl (.inl rfl),
        by rw [map_id_set { p with done := true } hp rfl]; simp [Step.createdID]⟩
    · cases hs

/-- Along every run whose processers, those already there and those it
creates, all carry distinct IDs, `Answered` holds. -/
theorem Answered.run (h : s.Answered) {steps : List Step}
    (hd : (s.procs.map (·.pid.id) ++ steps.filterMap Step.createdID).Nodup) {s' : System}
    (hr : s.run steps = some s') : s'.Answered := by
  induction steps generalizing s with
  | nil => cases hr; exact h
  | cons st sts ih =>
    simp only [System.run, Option.bind_eq_some] at hr
    obtain ⟨t, hs, hr⟩ := hr
    rw [filterMap_createdID_cons, ← List.append_assoc] at hd
    obtain ⟨ht, hmap⟩ := h.step (List.nodup_append.mp hd).1 hs
    exact ih ht (by rw [hmap]; exact hd) hr

end

theorem answered_fresh : fresh.Answered :=
  ⟨⟨nofun, fun id j hj => by simp [fresh, Registry.get?, Go.Map.get?_empty] at hj, nofun⟩,
    List.nodup_nil, nofun, nofun⟩

/-- Along every run of an engine in which the processers it creates get
distinct IDs, every `Result` returns no reply or a reply to its own request. -/
theorem results_answer_own_request {steps : List Step} (hd : (steps.filterMap Step.createdID).Nodup)
    {s : System} (hr : fresh.run steps = some s) : ∀ r ∈ s.returned, ∀ x ∈ r.2, x.1 = r.1 :=
  (answered_fresh.run (by simpa [fresh] using hd) hr).returned

theorem results_answer_own_request_two_requests :
    ([Step.request 5, .request 6, .reply 1 42, .reply 0 7, .result 1, .result 0].filterMap
        Step.createdID).Nodup ∧
      ∃ s, fresh.run [.request 5, .request 6, .reply 1 42, .reply 0 7, .result 1, .result 0] = some s ∧
        ∀ r ∈ s.returned, ∀ x ∈ r.2, x.1 = r.1 :=
  have hd : ([Step.request 5, .request 6, .reply 1 42, .reply 0 7, .result 1, .result 0].filterMap
      Step.createdID).Nodup := by decide
  ⟨hd, _, rfl, results_answer_own_request hd rfl⟩

/-- Distinct IDs at each creation are not enough: request `0` draws `5` and
times out, so request `1` may draw `5` again and is registered; the late reply
to request `0` lands in `1`'s channel, and `1`'s `Result` returns it. -/
theorem late_reply_reaches_reused_id :
    ∃ s, fresh.run [.request 5, .result 0, .request 5, .reply 0 7, .result 1] = some s ∧
      s.returned = [(0, none), (1, some (0, 7))] :=
  ⟨_, rfl, rfl⟩

end System

end Response

end Actor
