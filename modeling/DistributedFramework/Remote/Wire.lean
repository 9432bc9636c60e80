import DistributedFramework.Go
import DistributedFramework.Actor.Engine

/-! `remote`: the frame a `streamWriter` sends for a batch and the way a
`streamReader` resolves it.

`streamWriter.Invoke` interns the type names, senders and targets of a batch
in tables keyed by `TypeName` and by `PID.LookupKey`, and each `Message`
refers to its entries by index; `streamReader.Receive` reads the entries back
by index. Network I/O, deadlines and logging are left out; the serializer and
the 64-bit hash of `LookupKey` (xxh3 in the code) are parameters.

Proved here:

* `nil_sender_decoded_as_first_sender`: for every hash function, targets,
  senders and payloads, in a batch whose first message has a nil sender and
  whose second has a sender, the reader hands the first message the second's
  sender;
* `joined_keys_share_target`: two targets whose address and ID join to the
  same string are resolved to one of them, for every hash function;
* `invoke_slots`: for every serializer and batch, `Invoke` panics exactly when
  a `TypeName` call does, and otherwise sends one entry per message, nil where
  the payload fails to serialize; with `ProtoSerializer`, one payload of another
  type loses the whole batch (`unencodable_payload_breaks_batch`). -/

namespace Remote
open Go

/-- `PID.LookupKey`: the hash of the address's bytes followed by the ID's. -/
def lookupKey (hash : String → UInt64) (pid : Actor.PID) : UInt64 :=
  hash (pid.address ++ pid.id)

/-- `streamDeliver`, the message a `streamRouter` hands to a writer. -/
structure StreamDeliver (α : Type) where
  target : Actor.PID
  sender : Option Actor.PID
  msg : α

/-- The serializer of a writer and a reader (`ProtoSerializer` in the code):
`TypeName` may panic on a payload of the wrong type, `Serialize` and
`Deserialize` may fail. -/
structure Serializer (α : Type) where
  typeName : α → Except GoPanic String
  serialize : α → Except String (List UInt8)
  deserialize : List UInt8 → String → Except String α

/-- `Message` of the wire format. -/
structure Message where
  data : List UInt8
  typeNameIndex : Int
  senderIndex : Int
  targetIndex : Int
  deriving DecidableEq, Repr

/-- `Envelope` of the wire format; a nil entry of `Messages` is `none`. -/
structure Envelope where
  senders : List Actor.PID
  targets : List Actor.PID
  typeNames : List String
  messages : List (Option Message)
  deriving DecidableEq, Repr

/-! ## The writer -/

/-- `lookupPIDs(m, pid, pids)`: a nil pid is index 0 and interns nothing;
otherwise the index its key has in `m`, interning it at `len(m)` if new. -/
def lookupPIDs (hash : String → UInt64) (m : List (UInt64 × Int)) (pid : Option Actor.PID)
    (pids : List Actor.PID) : Int × List (UInt64 × Int) × List Actor.PID :=
  match pid with
  | none => (0, m, pids)
  | some pid =>
    let max : Int := m.length
    let key := lookupKey hash pid
    match m.lookup key with
    | some id => (id, m, pids)
    | none => (max, m ++ [(key, max)], pids ++ [pid])

/-- `lookupTypeName(m, name, types)`. -/
def lookupTypeName (m : List (String × Int)) (name : String) (types : List String) :
    Int × List (String × Int) × List String :=
  let max : Int := m.length
  match m.lookup name with
  | some id => (id, m, types)
  | none => (max, m ++ [(name, max)], types ++ [name])

/-- The tables `Invoke` builds for a batch. -/
structure Tables where
  typeLookup : List (String × Int)
  typeNames : List String
  senderLookup : List (UInt64 × Int)
  senders : List Actor.PID
  targetLookup : List (UInt64 × Int)
  targets : List Actor.PID
  deriving DecidableEq, Repr

section
variable {α : Type} (ser : Serializer α) (hash : String → UInt64)

/-- The loop of `streamWriter.Invoke` from message `i` on: intern the type
name, sender and target, then serialize; a message that fails to serialize
keeps its interned entries and leaves a nil `Message`. -/
def encodeLoop (t : Tables) :
    List (StreamDeliver α) → Except GoPanic (Tables × List (Option Message))
  | [] => pure (t, [])
  | stream :: rest => do
    let (typeID, typeLookup, typeNames) :=
      lookupTypeName t.typeLookup (← ser.typeName stream.msg) t.typeNames
    let (senderID, senderLookup, senders) := lookupPIDs hash t.senderLookup stream.sender t.senders
    let (targetID, targetLookup, targets) :=
      lookupPIDs hash t.targetLookup (some stream.target) t.targets
    let t' : Tables := ⟨typeLookup, typeNames, senderLookup, senders, targetLookup, targets⟩
    let (t'', messages) ← encodeLoop t' rest
    match ser.serialize stream.msg with
    | .error _ => pure (t'', none :: messages)
    | .ok b => pure (t'', some ⟨b, typeID, senderID, targetID⟩ :: messages)

/-- The `Envelope` that `streamWriter.Invoke` sends for `msgs`. -/
def invoke (msgs : List (StreamDeliver α)) : Except GoPanic Envelope := do
  let (t, messages) ← encodeLoop ser hash ⟨[], [], [], [], [], []⟩ msgs
  pure ⟨t.senders, t.targets, t.typeNames, messages⟩

theorem map_bind_pure {ε β γ δ : Type} (x : Except ε β) (k : β → γ) (f : γ → δ) :
    (x >>= fun d => pure (k d)).map f = x.map fun d => f (k d) := by
  cases x <;> rfl

theorem map_cons_of_map_eq {ε β γ : Type} {x : Except ε β} {y : Except ε γ}
    {f : β → List Bool} {g : γ → List Bool} (h : x.map f = y.map g) (b : Bool) :
    (x.map fun d => b :: f d) = y.map fun d => b :: g d := by
  cases x <;> cases y <;> simp_all [Except.map]

/-- Whatever the tables, the loop panics exactly when a `TypeName` call does,
with the first such panic; otherwise it writes one entry per message, in batch
order, nil exactly where the payload fails to serialize. -/
theorem encodeLoop_slots (t : Tables) (msgs : List (StreamDeliver α)) :
    (encodeLoop ser hash t msgs).map (fun r => r.2.map Option.isSome) =
      (msgs.mapM fun s => ser.typeName s.msg).map fun _ =>
        msgs.map fun s => (ser.serialize s.msg).toBool := by
  induction msgs generalizing t with
  | nil => rfl
  | cons s rest ih =>
    cases hn : ser.typeName s.msg with
    | error e => simp only [encodeLoop, hn, List.mapM_cons, error_bind]; rfl
    | ok name =>
      simp only [encodeLoop, hn, List.mapM_cons, ok_bind]
      split <;> rename_i heq <;>
        simp only [map_bind_pure, List.map_cons, heq, Except.toBool, Option.isSome] <;>
        exact map_cons_of_map_eq (ih _) _

theorem invoke_slots (msgs : List (StreamDeliver α)) :
    (invoke ser hash msgs).map (fun env => env.messages.map Option.isSome) =
      (msgs.mapM fun s => ser.typeName s.msg).map fun _ =>
        msgs.map fun s => (ser.serialize s.msg).toBool := by
  simp only [invoke, map_bind_pure]
  exact encodeLoop_slots ser hash _ msgs

end

/-! ## The reader -/

/-- How `streamReader.Receive` stops on a frame: a panic, or the error of
`Deserialize`, which it returns. -/
inductive Failure where
  | panic (p : GoPanic)
  | error (e : String)
  deriving DecidableEq, Repr

section
variable {α : Type} (ser : Serializer α)

/-- One iteration of the inner loop of `streamReader.Receive`: the arguments of
its `SendLocal(target, payload, sender)`. -/
def receiveMessage (env : Envelope) (msg : Option Message) :
    Except Failure (Actor.PID × α × Option Actor.PID) := do
  let some msg := msg | throw (.panic .nilDereference)
  let tname ← (indexInt env.typeNames msg.typeNameIndex : Except GoPanic _).mapError .panic
  let payload ← (ser.deserialize msg.data tname).mapError .error
  let target ← (indexInt env.targets msg.targetIndex : Except GoPanic _).mapError .panic
  let sender ← if env.senders.length > 0 then
      some <$> (indexInt env.senders msg.senderIndex : Except GoPanic _).mapError .panic
    else pure none
  pure (target, payload, sender)

/-- The inner loop of `streamReader.Receive` over a frame: the `SendLocal`
calls it makes, in order, and the failure that ends it, if any. -/
def receive (env : Envelope) :
    List (Option Message) → List (Actor.PID × α × Option Actor.PID) × Option Failure
  | [] => ([], none)
  | msg :: rest =>
    match receiveMessage ser env msg with
    | .ok call => let (calls, f) := receive env rest; (call :: calls, f)
    | .error f => ([], some f)

/-- A frame entry that the reader resolves without a panic: it is present, its
type name and target indices lie inside their tables, and so does its sender
index when the frame has senders. -/
def resolvable (env : Envelope) : Option Message → Bool
  | none => false
  | some m => decide (0 ≤ m.typeNameIndex ∧ m.typeNameIndex < env.typeNames.length ∧
      0 ≤ m.targetIndex ∧ m.targetIndex < env.targets.length ∧
      (0 < env.senders.length → 0 ≤ m.senderIndex ∧ m.senderIndex < env.senders.length))

theorem receiveMessage_ne_panic {env : Envelope} {msg : Option Message}
    (h : resolvable env msg = true) (v : GoPanic) :
    receiveMessage ser env msg ≠ .error (.panic v) := by
  cases msg with
  | none => cases h
  | some m =>
    simp only [resolvable, decide_eq_true_eq] at h
    obtain ⟨h1, h2, h3, h4, h5⟩ := h
    obtain ⟨tn, htn⟩ := indexInt_of_mem (m := Except GoPanic) h1 h2
    obtain ⟨tg, htg⟩ := indexInt_of_mem (m := Except GoPanic) h3 h4
    cases hd : ser.deserialize m.data tn with
    | error e => simp [receiveMessage, htn, htg, hd, except_pure_eq_ok, ok_bind, error_bind, mapError_ok,
      mapError_error]
    | ok payload =>
      by_cases hs : 0 < env.senders.length
      · obtain ⟨sd, hsd⟩ := indexInt_of_mem (m := Except GoPanic) (h5 hs).1 (h5 hs).2
        simp [receiveMessage, htn, htg, hd, hs, hsd, except_pure_eq_ok, ok_bind, mapError_ok, mapError_error]
      · simp [receiveMessage, htn, htg, hd, hs, except_pure_eq_ok, ok_bind, mapError_ok, mapError_error]

/-- A frame whose entries are all resolvable never makes the reader panic: it
delivers every message, or stops at a payload that fails to deserialize. -/
theorem receive_ne_panic {env : Envelope} {msgs : List (Option Message)}
    (h : ∀ msg ∈ msgs, resolvable env msg = true) (v : GoPanic) :
    (receive ser env msgs).2 ≠ some (.panic v) := by
  induction msgs with
  | nil => nofun
  | cons msg rest ih =>
    have hmsg := receiveMessage_ne_panic ser (h msg (List.mem_cons_self _ _)) v
    cases hr : receiveMessage ser env msg with
    | ok call => simpa [receive, hr] using ih fun m hm => h m (List.mem_cons_of_mem _ hm)
    | error f =>
      have hf : f ≠ .panic v := fun hf => hmsg (hf ▸ hr)
      simpa [receive, hr] using hf

end

/-! ## A nil sender in a mixed batch -/

/-- The serializer that sends a payload of bytes as it is. -/
def bytesSerializer : Serializer (List UInt8) :=
  ⟨fun _ => pure "bytes", .ok, fun b _ => .ok b⟩

/-- A nil sender is written as index 0, and the reader resolves index 0
whenever the frame has a sender at all: the first message, sent with a nil
sender, is delivered as if sent by the second message's sender. -/
theorem nil_sender_decoded_as_first_sender (hash : String → UInt64) (t s : Actor.PID)
    (a b : List UInt8) :
    ∃ env, invoke bytesSerializer hash [⟨t, none, a⟩, ⟨t, some s, b⟩] = .ok env ∧
      receive bytesSerializer env env.messages = ([(t, a, some s), (t, b, some s)], none) := by
  refine ⟨⟨[s], [t], ["bytes"], [some ⟨a, 0, 0, 0⟩, some ⟨b, 0, 0, 0⟩]⟩, ?_, rfl⟩
  simp [invoke, encodeLoop, lookupPIDs, lookupTypeName, bytesSerializer]
  rfl

/-- `LookupKey` hashes the address and the ID joined with no separator, so two
targets whose joined strings agree share one entry, whatever the hash: the
second message is delivered to the first one's target. -/
theorem joined_keys_share_target (hash : String → UInt64) (a b : List UInt8) :
    ∃ env, invoke bytesSerializer hash [⟨⟨"ab", "c"⟩, none, a⟩, ⟨⟨"a", "bc"⟩, none, b⟩] = .ok env ∧
      receive bytesSerializer env env.messages =
        ([(⟨"ab", "c"⟩, a, none), (⟨"ab", "c"⟩, b, none)], none) := by
  refine ⟨⟨[], [⟨"ab", "c"⟩], ["bytes"], [some ⟨a, 0, 0, 0⟩, some ⟨b, 0, 0, 0⟩]⟩, ?_, rfl⟩
  simp [invoke, encodeLoop, lookupPIDs, lookupTypeName, bytesSerializer, lookupKey]
  rfl

/-! ## Frames that make the reader panic -/

/-- A serializer whose `Serialize` fails, as `proto.Marshal` does on a message
it cannot encode. -/
def unmarshalable : Serializer (List UInt8) :=
  ⟨fun _ => pure "bytes", fun _ => .error "proto: invalid UTF-8", fun b _ => .ok b⟩

/-- The writer leaves a nil `Message` in the frame for a payload that fails to
serialize, and the reader dereferences it. A frame from any peer with an empty
type name table makes the reader index it out of range, whatever the index. -/
theorem reader_panics_on_frame (hash : String → UInt64) (t : Actor.PID) (a : List UInt8) :
    (∃ env, invoke unmarshalable hash [⟨t, none, a⟩] = .ok env ∧ env.messages = [none] ∧
      receive unmarshalable env env.messages = ([], some (.panic .nilDereference))) ∧
    ∀ {α : Type} (ser : Serializer α) (senders targets : List Actor.PID) (m : Message)
      (rest : List (Option Message)),
      receive ser ⟨senders, targets, [], some m :: rest⟩ (some m :: rest) =
        ([], some (.panic .indexOutOfRange)) := by
  refine ⟨⟨⟨[], [t], ["bytes"], [none]⟩, ?_, rfl, rfl⟩, fun ser senders targets m rest => ?_⟩
  · simp only [invoke, encodeLoop, unmarshalable, lookupTypeName, List.lookup_nil, List.length_nil,
      Int.Nat.cast_ofNat_Int, List.nil_append, lookupPIDs, bind_pure_comp, map_pure]
    rfl
  · by_cases hm : m.typeNameIndex < 0 <;> simp [receive, receiveMessage, indexInt, index, hm, except_throw_eq_error,
      error_bind, mapError_error]

/-! ## Payloads that `ProtoSerializer` cannot encode -/

/-- A payload as `ProtoSerializer` sees it: a protobuf message, with its full
name and the outcome of `proto.Marshal` on it, or a value of any other type. -/
inductive Payload where
  | proto (name : String) (marshal : Except String (List UInt8))
  | other

/-- `ProtoSerializer`, with the names the global registry knows. `TypeName`
and `Serialize` both assert `proto.Message`; `Invoke` calls `Serialize` on a
payload only after `TypeName` has returned for it, so the assertion panics in
`TypeName`, and `Serialize`'s value on another type is never read. -/
def protoSerializer (registry : String → Bool) : Serializer Payload where
  typeName
    | .proto name _ => pure name
    | .other => throw .typeAssertion
  serialize
    | .proto _ marshal => marshal
    | .other => .error "not a proto.Message"
  deserialize data tname :=
    if registry tname then .ok (.proto tname (.ok data)) else .error "proto: not found"

@[simp] theorem typeName_proto (registry : String → Bool) (name : String) (marshal) :
    (protoSerializer registry).typeName (.proto name marshal) = .ok name := rfl

@[simp] theorem typeName_other (registry : String → Bool) :
    (protoSerializer registry).typeName .other = .error .typeAssertion := rfl

theorem map_eq_error {ε β γ : Type} {x : Except ε β} {f : β → γ} {e : ε}
    (h : x.map f = .error e) : x = .error e := by
  cases x <;> simp_all [Except.map]

theorem map_eq_ok {ε β γ : Type} {x : Except ε β} {f : β → γ} {c : γ}
    (h : x.map f = .ok c) : ∃ b, x = .ok b ∧ f b = c := by
  cases x <;> simp_all [Except.map]

section
variable (registry : String → Bool)

theorem mapM_typeName_of_other :
    ∀ msgs : List (StreamDeliver Payload), (∃ s ∈ msgs, s.msg = .other) →
      msgs.mapM (fun s => (protoSerializer registry).typeName s.msg) = .error .typeAssertion
  | s :: rest, ⟨s', hs', hother⟩ => by
    rcases hmsg : s.msg with _ | _
    · rcases List.mem_cons.mp hs' with rfl | hs'
      · rw [hother] at hmsg; cases hmsg
      · simp only [List.mapM_cons, hmsg, typeName_proto, ok_bind,
          mapM_typeName_of_other rest ⟨s', hs', hother⟩, error_bind]
    · simp only [List.mapM_cons, hmsg, typeName_other, error_bind]

theorem mapM_typeName_of_proto :
    ∀ msgs : List (StreamDeliver Payload), (∀ s ∈ msgs, s.msg ≠ .other) →
      ∃ names, msgs.mapM (fun s => (protoSerializer registry).typeName s.msg) = .ok names
  | [], _ => ⟨[], rfl⟩
  | s :: rest, h => by
    obtain ⟨names, hn⟩ := mapM_typeName_of_proto rest fun s' hs' => h s' (List.mem_cons_of_mem _ hs')
    rcases hmsg : s.msg with _ | _
    · exact ⟨_, by simp only [List.mapM_cons, hmsg, typeName_proto, ok_bind, hn]; rfl⟩
    · exact absurd hmsg (h s (List.mem_cons_self _ _))

/-- One payload of a non-protobuf type anywhere in a batch makes `Invoke`
panic, so no envelope of the batch is sent; a batch of protobuf messages is
sent with a nil `Message` at every payload that `proto.Marshal` rejects. -/
theorem unencodable_payload_breaks_batch (hash : String → UInt64)
    (msgs : List (StreamDeliver Payload)) :
    ((∃ s ∈ msgs, s.msg = .other) →
        invoke (protoSerializer registry) hash msgs = .error .typeAssertion) ∧
      ((∀ s ∈ msgs, s.msg ≠ .other) → ∃ env, invoke (protoSerializer registry) hash msgs = .ok env ∧
        env.messages.map Option.isSome =
          msgs.map fun s => ((protoSerializer registry).serialize s.msg).toBool) := by
  have h := invoke_slots (protoSerializer registry) hash msgs
  refine ⟨fun hother => map_eq_error (h.trans ?_), fun hproto => ?_⟩
  · rw [mapM_typeName_of_other registry msgs hother]; rfl
  · obtain ⟨names, hn⟩ := mapM_typeName_of_proto registry msgs hproto
    rw [hn] at h
    exact map_eq_ok h

end

end Remote
