import DistributedFramework.Remote.Wire

/-! The frame a `streamWriter` sends, read back by a `streamReader`
(`streamWriter.Invoke`, `lookupPIDs`, `lookupTypeName` and the inner loop of
`streamReader.Receive`).

`Invoke` interns each type name, sender and target into a lookup map and a
slice, and the map gives the position of a key's entry in its slice
(`Interned`). The loop lemma `encodeLoop_written` says, for every batch, what
the writer leaves in the frame for each message, read against the slices it
finally sends.

Proved here:

* `written_frame_resolvable`: for every serializer, hash function and batch,
  nil senders, hash collisions and failed serializations included, every
  non-nil entry of the frame `Invoke` sends has its type name, target and
  sender indices inside the frame's slices, so the reader resolves it without
  a panic;
* `invoke_receive_round_trip`: when `LookupKey` separates the batch's targets
  and its senders, `Deserialize` inverts `Serialize` on its payloads, and the
  senders are all nil or all set, the reader hands back the batch: each
  payload, in order, with its target and its sender. -/

namespace Remote
open Go

/-! ## Interned slices -/

section
variable {κ β : Type}

/-- Entry `i` of `xs` has the key of `x`. -/
def KeyAt (key : β → κ) (xs : List β) (i : Int) (x : β) : Prop :=
  0 ≤ i ∧ ∃ y, xs[i.toNat]? = some y ∧ key y = key x

theorem KeyAt.mono {key : β → κ} {xs xs' : List β} {i : Int} {x : β} (h : KeyAt key xs i x)
    (hp : xs <+: xs') : KeyAt key xs' i x := by
  obtain ⟨hi, y, hy, hk⟩ := h
  obtain ⟨zs, rfl⟩ := hp
  exact ⟨hi, y, by rw [List.getElem?_append_left (List.getElem?_eq_some_iff.mp hy).1]; exact hy, hk⟩

theorem KeyAt.lt_length {key : β → κ} {xs : List β} {i : Int} {x : β} (h : KeyAt key xs i x) :
    0 ≤ i ∧ i < xs.length := by
  obtain ⟨hi, y, hy, -⟩ := h
  have := (List.getElem?_eq_some_iff.mp hy).1
  omega

end

section
variable {κ β : Type} [DecidableEq κ]

theorem lookup_singleton (a k : κ) (v : Int) :
    [(a, v)].lookup k = if k = a then some v else none := by
  by_cases h : k = a
  · subst h; simp
  · simp [List.lookup_cons, h, beq_eq_false_iff_ne.mpr h]

/-- A lookup map and the slice it indexes, as `lookupTypeName` and
`lookupPIDs` keep them: `m` has one pair per entry of `xs`, and maps `k` to
`i` exactly when entry `i` of `xs` has key `k`; so no two entries share a key. -/
structure Interned (key : β → κ) (m : List (κ × Int)) (xs : List β) : Prop where
  length_eq : m.length = xs.length
  lookup_iff : ∀ k i, m.lookup k = some i ↔ 0 ≤ i ∧ ∃ x, xs[i.toNat]? = some x ∧ key x = k

theorem interned_nil (key : β → κ) : Interned key [] [] :=
  ⟨rfl, fun _ _ => by simp⟩

/-- The step that interns a key not yet in the map: the pair `(key x, len(m))`
and the entry `x` go at the ends. -/
theorem Interned.push {key : β → κ} {m : List (κ × Int)} {xs : List β} (h : Interned key m xs)
    {x : β} (hx : m.lookup (key x) = none) :
    Interned key (m ++ [(key x, (m.length : Int))]) (xs ++ [x]) := by
  refine ⟨by simp [h.length_eq], fun k i => ?_⟩
  /- An index past `xs` is the new entry `x`. -/
  have hnew : ∀ z, xs.length ≤ i.toNat → (xs ++ [x])[i.toNat]? = some z → i.toNat = xs.length ∧ z = x :=
    fun z hi' hz => by
      have hlen := (List.getElem?_eq_some_iff.mp hz).1
      simp only [List.length_append, List.length_singleton] at hlen
      rw [List.getElem?_append_right hi', show i.toNat - xs.length = 0 by omega] at hz
      exact ⟨by omega, by simpa using hz.symm⟩
  rw [List.lookup_append, lookup_singleton]
  cases hk : m.lookup k with
  | some j =>
    obtain ⟨hj, y, hy, hky⟩ := (h.lookup_iff k j).mp hk
    have hlt : j.toNat < xs.length := (List.getElem?_eq_some_iff.mp hy).1
    simp only [Option.or_some, Option.some.injEq]
    constructor
    · rintro rfl; exact ⟨hj, y, by rw [List.getElem?_append_left hlt]; exact hy, hky⟩
    · rintro ⟨hi, z, hz, hkz⟩
      rcases Nat.lt_or_ge i.toNat xs.length with hi' | hi'
      · rw [List.getElem?_append_left hi'] at hz
        exact Option.some.inj (hk.symm.trans ((h.lookup_iff k i).mpr ⟨hi, z, hz, hkz⟩))
      · obtain ⟨-, rfl⟩ := hnew z hi' hz
        rw [hkz] at hx; rw [hx] at hk; cases hk
  | none =>
    simp only [Option.none_or]
    constructor
    · intro hs
      split_ifs at hs with hka
      obtain rfl := Option.some.inj hs
      refine ⟨by omega, x, ?_, hka.symm⟩
      rw [h.length_eq, Int.toNat_ofNat, List.getElem?_append_right le_rfl, Nat.sub_self]; rfl
    · rintro ⟨hi, z, hz, hkz⟩
      rcases Nat.lt_or_ge i.toNat xs.length with hi' | hi'
      · rw [List.getElem?_append_left hi'] at hz
        rw [(h.lookup_iff k i).mpr ⟨hi, z, hz, hkz⟩] at hk; cases hk
      · obtain ⟨hlen, rfl⟩ := hnew z hi' hz
        rw [if_pos hkz.symm, h.length_eq]
        congr 1; omega

/-- Interning `x` into `m` and `xs`: the position of its key when `m` has
it, and otherwise the pair `(key x, len(m))` and the entry `x` at the ends.
`lookupTypeName` is this with each name its own key, and `lookupPIDs` of a
non-nil PID with `LookupKey`. -/
def intern (key : β → κ) (m : List (κ × Int)) (x : β) (xs : List β) :
    Int × List (κ × Int) × List β :=
  let max : Int := m.length
  match m.lookup (key x) with
  | some id => (id, m, xs)
  | none => (max, m ++ [(key x, max)], xs ++ [x])

/-- What interning leaves: the map and slice still interned, the slice as it
was or with `x` added, and an index whose entry has the key of `x`. -/
theorem intern_spec {key : β → κ} {m : List (κ × Int)} {xs : List β} (h : Interned key m xs)
    (x : β) {i : Int} {m' : List (κ × Int)} {xs' : List β} (hr : intern key m x xs = (i, m', xs')) :
    Interned key m' xs' ∧ (xs' = xs ∨ xs' = xs ++ [x]) ∧ KeyAt key xs' i x := by
  unfold intern at hr
  cases hl : m.lookup (key x) with
  | some j =>
    simp only [hl, Prod.mk.injEq] at hr
    obtain ⟨rfl, rfl, rfl⟩ := hr
    exact ⟨h, .inl rfl, (h.lookup_iff _ _).mp hl⟩
  | none =>
    simp only [hl, Prod.mk.injEq] at hr
    obtain ⟨rfl, rfl, rfl⟩ := hr
    refine ⟨h.push hl, .inr rfl, by omega, x, ?_, rfl⟩
    rw [Int.toNat_ofNat, h.length_eq, List.getElem?_append_right le_rfl, Nat.sub_self]; rfl

theorem prefix_of_intern {β : Type} {xs xs' : List β} {x : β} (h : xs' = xs ∨ xs' = xs ++ [x]) :
    xs <+: xs' := by
  rcases h with rfl | rfl
  · exact List.prefix_refl _
  · exact List.prefix_append _ _

theorem mem_of_intern {β : Type} {xs xs' : List β} {x q : β} (h : xs' = xs ∨ xs' = xs ++ [x])
    (hq : q ∈ xs') : q ∈ xs ∨ q = x := by
  rcases h with rfl | rfl
  · exact .inl hq
  · simpa using hq

end

theorem lookupTypeName_eq_intern (m : List (String × Int)) (name : String) (types : List String) :
    lookupTypeName m name types = intern id m name types := rfl

theorem lookupPIDs_some (hash : String → UInt64) (m : List (UInt64 × Int)) (pid : Actor.PID)
    (pids : List Actor.PID) : lookupPIDs hash m (some pid) pids = intern (lookupKey hash) m pid pids :=
  rfl

/-! ## The writer's loop -/

/-- The tables of `Invoke` as `lookupTypeName` and `lookupPIDs` keep them. -/
structure Tables.Consistent (hash : String → UInt64) (t : Tables) : Prop where
  types : Interned id t.typeLookup t.typeNames
  senders : Interned (lookupKey hash) t.senderLookup t.senders
  targets : Interned (lookupKey hash) t.targetLookup t.targets

theorem consistent_empty (hash : String → UInt64) :
    Tables.Consistent hash ⟨[], [], [], [], [], []⟩ :=
  ⟨interned_nil _, interned_nil _, interned_nil _⟩

section
variable {α : Type} (ser : Serializer α) (hash : String → UInt64)

/-- How the slices grow over the messages `msgs`: each keeps its start, the
targets and senders added are those of `msgs`, and with no sender in `msgs`
the senders slice is left as it was. -/
structure Tables.Grown (t : Tables) (msgs : List (StreamDeliver α)) (t' : Tables) : Prop where
  typeNames : t.typeNames <+: t'.typeNames
  senders : t.senders <+: t'.senders
  targets : t.targets <+: t'.targets
  targets_from : ∀ q ∈ t'.targets, q ∈ t.targets ∨ ∃ s ∈ msgs, s.target = q
  senders_from : ∀ q ∈ t'.senders, q ∈ t.senders ∨ ∃ s ∈ msgs, s.sender = some q
  no_sender : (∀ s ∈ msgs, s.sender = none) → t'.senders = t.senders

theorem Tables.Grown.nil (t : Tables) : t.Grown ([] : List (StreamDeliver α)) t :=
  ⟨List.prefix_refl _, List.prefix_refl _, List.prefix_refl _, fun _ h => .inl h,
    fun _ h => .inl h, fun _ => rfl⟩

theorem Tables.Grown.cons {t t₁ t' : Tables} {s : StreamDeliver α} {rest : List (StreamDeliver α)}
    (h₁ : t.Grown [s] t₁) (h₂ : t₁.Grown rest t') : t.Grown (s :: rest) t' where
  typeNames := h₁.typeNames.trans h₂.typeNames
  senders := h₁.senders.trans h₂.senders
  targets := h₁.targets.trans h₂.targets
  targets_from q hq := (h₂.targets_from q hq).elim
    (fun hq => (h₁.targets_from q hq).imp_right fun ⟨s', hs', he⟩ =>
      ⟨s', List.mem_cons.mpr (.inl (List.mem_singleton.mp hs')), he⟩)
    fun ⟨s', hs', he⟩ => .inr ⟨s', List.mem_cons_of_mem _ hs', he⟩
  senders_from q hq := (h₂.senders_from q hq).elim
    (fun hq => (h₁.senders_from q hq).imp_right fun ⟨s', hs', he⟩ =>
      ⟨s', List.mem_cons.mpr (.inl (List.mem_singleton.mp hs')), he⟩)
    fun ⟨s', hs', he⟩ => .inr ⟨s', List.mem_cons_of_mem _ hs', he⟩
  no_sender h := (h₂.no_sender fun s' hs' => h s' (List.mem_cons_of_mem _ hs')).trans
    (h₁.no_sender fun s' hs' => h s' (List.mem_cons.mpr (.inl (List.mem_singleton.mp hs'))))

/-- The entry `Invoke` writes for `s`, read against slices `t`: nil exactly
when `Serialize` fails; otherwise the bytes, the index of the type name
`TypeName` gave, the index of an entry with the key of the target, and the
index of an entry with the key of the sender, or 0 for a nil sender. -/
def Written (t : Tables) (s : StreamDeliver α) : Option Message → Prop
  | none => ∃ e, ser.serialize s.msg = .error e
  | some m => ser.serialize s.msg = .ok m.data ∧
      (∃ name, ser.typeName s.msg = .ok name ∧ KeyAt id t.typeNames m.typeNameIndex name) ∧
      KeyAt (lookupKey hash) t.targets m.targetIndex s.target ∧
      match s.sender with
      | none => m.senderIndex = 0
      | some p => KeyAt (lookupKey hash) t.senders m.senderIndex p

theorem Written.mono {t t' : Tables} {s : StreamDeliver α} {m : Option Message}
    (h : Written ser hash t s m) (hn : t.typeNames <+: t'.typeNames) (hs : t.senders <+: t'.senders)
    (ht : t.targets <+: t'.targets) : Written ser hash t' s m := by
  cases m with
  | none => exact h
  | some m =>
    obtain ⟨hd, ⟨name, hname, hk⟩, htg, hsd⟩ := h
    refine ⟨hd, ⟨name, hname, hk.mono hn⟩, htg.mono ht, ?_⟩
    cases hp : s.sender with
    | none => rw [hp] at hsd; exact hsd
    | some p => rw [hp] at hsd; exact hsd.mono hs


/-- One message of the loop: the three lookups extend consistent tables by
the message's own type name, sender and target, and the indices they return
resolve to them. -/
theorem intern_message {t : Tables} (ht : t.Consistent hash) (s : StreamDeliver α) (name : String)
    {ti si gi : Int} {tl : List (String × Int)} {tn : List String} {sl gl : List (UInt64 × Int)}
    {sn gn : List Actor.PID}
    (h1 : lookupTypeName t.typeLookup name t.typeNames = (ti, tl, tn))
    (h2 : lookupPIDs hash t.senderLookup s.sender t.senders = (si, sl, sn))
    (h3 : lookupPIDs hash t.targetLookup (some s.target) t.targets = (gi, gl, gn)) :
    Tables.Consistent hash ⟨tl, tn, sl, sn, gl, gn⟩ ∧ t.Grown [s] ⟨tl, tn, sl, sn, gl, gn⟩ ∧
      KeyAt id tn ti name ∧ KeyAt (lookupKey hash) gn gi s.target ∧
      match s.sender with
      | none => si = 0
      | some p => KeyAt (lookupKey hash) sn si p := by
  obtain ⟨hty, htn, hti⟩ := intern_spec ht.types name h1
  obtain ⟨htg, hgn, hgi⟩ := intern_spec ht.targets s.target h3
  cases hp : s.sender with
  | none =>
    rw [hp] at h2
    obtain ⟨rfl, rfl, rfl⟩ : 0 = si ∧ t.senderLookup = sl ∧ t.senders = sn := by
      simpa [lookupPIDs] using h2
    refine ⟨⟨hty, ht.senders, htg⟩, ⟨prefix_of_intern htn, List.prefix_refl _, prefix_of_intern hgn,
      fun q hq => ?_, fun q hq => .inl hq, fun _ => rfl⟩, hti, hgi, rfl⟩
    exact (mem_of_intern hgn hq).imp_right fun he => ⟨s, List.mem_singleton_self _, he.symm⟩
  | some p =>
    rw [hp, lookupPIDs_some] at h2
    obtain ⟨hsd, hsn, hsi⟩ := intern_spec ht.senders p h2
    refine ⟨⟨hty, hsd, htg⟩, ⟨prefix_of_intern htn, prefix_of_intern hsn, prefix_of_intern hgn,
      fun q hq => ?_, fun q hq => ?_, fun h => ?_⟩, hti, hgi, hsi⟩
    · exact (mem_of_intern hgn hq).imp_right fun he => ⟨s, List.mem_singleton_self _, he.symm⟩
    · exact (mem_of_intern hsn hq).imp_right fun (he : q = p) => ⟨s, List.mem_singleton_self _, he ▸ hp⟩
    · rw [h s (List.mem_singleton_self _)] at hp; cases hp


/-- Whatever the batch, a normal return of the loop leaves consistent tables
grown by the batch's own entries, and one entry per message, written as
`Written` says against the slices the frame carries. -/
theorem encodeLoop_written : ∀ (t : Tables) (msgs : List (StreamDeliver α)) (t' : Tables)
    (ms : List (Option Message)), t.Consistent hash → encodeLoop ser hash t msgs = .ok (t', ms) →
      t'.Consistent hash ∧ t.Grown msgs t' ∧ List.Forall₂ (Written ser hash t') msgs ms
  | t, [], t', ms, ht, h => by
    obtain ⟨rfl, rfl⟩ : t = t' ∧ [] = ms := by simpa [encodeLoop, except_pure_eq_ok] using h
    exact ⟨ht, .nil t, .nil⟩
  | t, s :: rest, t', ms, ht, h => by
    cases hn : ser.typeName s.msg with
    | error e => simp [encodeLoop, hn, error_bind] at h
    | ok name =>
      rcases h1 : lookupTypeName t.typeLookup name t.typeNames with ⟨ti, tl, tn⟩
      rcases h2 : lookupPIDs hash t.senderLookup s.sender t.senders with ⟨si, sl, sn⟩
      rcases h3 : lookupPIDs hash t.targetLookup (some s.target) t.targets with ⟨gi, gl, gn⟩
      simp only [encodeLoop, hn, ok_bind, h1, h2, h3] at h
      obtain ⟨hc, hg, hti, hgi, hsi⟩ := intern_message hash ht s name h1 h2 h3
      cases hr : encodeLoop ser hash ⟨tl, tn, sl, sn, gl, gn⟩ rest with
      | error e => simp [hr, error_bind] at h
      | ok r =>
        obtain ⟨t'', ms'⟩ := r
        obtain ⟨hc', hg', hw⟩ := encodeLoop_written _ rest t'' ms' hc hr
        have hgrown := hg.cons hg'
        rw [hr, ok_bind] at h
        cases hd : ser.serialize s.msg with
        | error e =>
          obtain ⟨rfl, rfl⟩ : t'' = t' ∧ none :: ms' = ms := by simpa [hd, except_pure_eq_ok] using h
          exact ⟨hc', hgrown, .cons ⟨e, hd⟩ hw⟩
        | ok b =>
          obtain ⟨rfl, rfl⟩ : t'' = t' ∧ some ⟨b, ti, si, gi⟩ :: ms' = ms := by
            simpa [hd, except_pure_eq_ok] using h
          refine ⟨hc', hgrown, .cons ⟨hd, ⟨name, hn, hti.mono hg'.typeNames⟩, hgi.mono hg'.targets, ?_⟩ hw⟩
          cases hp : s.sender with
          | none => rw [hp] at hsi; exact hsi
          | some p => rw [hp] at hsi; exact hsi.mono hg'.senders


/-- A batch whose `TypeName` calls all return gets through the loop. -/
theorem encodeLoop_ok (t : Tables) (msgs : List (StreamDeliver α))
    (h : ∀ s ∈ msgs, ∃ name, ser.typeName s.msg = .ok name) :
    ∃ t' ms, encodeLoop ser hash t msgs = .ok (t', ms) := by
  obtain ⟨names, hnames⟩ : ∃ names, msgs.mapM (fun s => ser.typeName s.msg) = .ok names := by
    induction msgs with
    | nil => exact ⟨[], rfl⟩
    | cons s rest ih =>
      obtain ⟨name, hn⟩ := h s (List.mem_cons_self _ _)
      obtain ⟨names, hr⟩ := ih fun s' hs' => h s' (List.mem_cons_of_mem _ hs')
      exact ⟨name :: names, by rw [List.mapM_cons, hn, ok_bind, hr]; rfl⟩
  have hslots := encodeLoop_slots ser hash t msgs
  rw [hnames] at hslots
  obtain ⟨⟨t', ms⟩, hr, -⟩ := map_eq_ok hslots
  exact ⟨t', ms, hr⟩

theorem exists_of_forall₂ {β γ : Type} {R : β → γ → Prop} {l₁ : List β} {l₂ : List γ}
    (h : List.Forall₂ R l₁ l₂) {b : γ} (hb : b ∈ l₂) : ∃ a ∈ l₁, R a b := by
  induction h with
  | nil => cases hb
  | cons hab _ ih =>
    rcases List.mem_cons.mp hb with rfl | hb
    · exact ⟨_, List.mem_cons_self _ _, hab⟩
    · obtain ⟨a, ha, hr⟩ := ih hb
      exact ⟨a, List.mem_cons_of_mem _ ha, hr⟩

theorem forall₂_imp_of_mem {β γ : Type} {R S : β → γ → Prop} {l₁ : List β} {l₂ : List γ}
    (h : List.Forall₂ R l₁ l₂) (hs : ∀ a ∈ l₁, ∀ b, R a b → S a b) : List.Forall₂ S l₁ l₂ := by
  induction h with
  | nil => exact .nil
  | cons hab _ ih =>
    exact .cons (hs _ (List.mem_cons_self _ _) _ hab)
      (ih fun a ha => hs a (List.mem_cons_of_mem _ ha))

/-- An entry `Invoke` wrote resolves inside the slices it was written against. -/
theorem resolvable_of_written {t : Tables} {s : StreamDeliver α} {m : Message}
    (h : Written ser hash t s (some m)) (ms : List (Option Message)) :
    resolvable ⟨t.senders, t.targets, t.typeNames, ms⟩ (some m) = true := by
  obtain ⟨-, ⟨_, -, hn⟩, hg, hsd⟩ := h
  have hn := hn.lt_length; have hg := hg.lt_length
  simp only [resolvable, decide_eq_true_eq]
  refine ⟨hn.1, hn.2, hg.1, hg.2, fun hpos => ?_⟩
  cases hp : s.sender with
  | none => rw [hp] at hsd; rw [hsd]; omega
  | some p => rw [hp] at hsd; exact hsd.lt_length

/-- For every serializer, hash function and batch (nil senders, colliding
keys and failed serializations included), each entry of the frame `Invoke`
sends is nil or resolves inside the frame's own slices. -/
theorem written_frame_resolvable (msgs : List (StreamDeliver α)) {env : Envelope}
    (h : invoke ser hash msgs = .ok env) : ∀ m ∈ env.messages, m = none ∨ resolvable env m = true := by
  cases hr : encodeLoop ser hash ⟨[], [], [], [], [], []⟩ msgs with
  | error e => simp [invoke, hr, error_bind] at h
  | ok r =>
    obtain ⟨t', ms⟩ := r
    obtain rfl : ⟨t'.senders, t'.targets, t'.typeNames, ms⟩ = env := by
      simpa [invoke, hr, ok_bind, except_pure_eq_ok] using h
    obtain ⟨-, -, hw⟩ := encodeLoop_written ser hash _ msgs t' ms (consistent_empty hash) hr
    intro m hm
    obtain ⟨s, -, hsm⟩ := exists_of_forall₂ hw hm
    cases m with
    | none => exact .inl rfl
    | some m => exact .inr (resolvable_of_written ser hash hsm ms)

/-- A batch whose first message has a nil sender and whose second has one. -/
def nilThenSender : List (StreamDeliver (List UInt8)) :=
  [⟨⟨"n1", "a"⟩, none, [1]⟩, ⟨⟨"n2", "b"⟩, some ⟨"n3", "c"⟩, [2]⟩]

theorem written_frame_resolvable_nil_then_sender :
    ∃ env, invoke bytesSerializer (fun s => s.length.toUInt64) nilThenSender = .ok env ∧
      ∀ m ∈ env.messages, m = none ∨ resolvable env m = true :=
  ⟨_, rfl, written_frame_resolvable bytesSerializer (fun s => s.length.toUInt64) nilThenSender rfl⟩

/-! ## Reading the frame back -/

/-- The reader's call for an entry whose indices resolve, given what the
slices hold there: with senders in the frame, the sender at its index; with
none, a nil sender. -/
theorem receiveMessage_of_resolved {env : Envelope} {m : Message} {name : String}
    {target : Actor.PID} {payload : α} {sender : Option Actor.PID}
    (htn : KeyAt id env.typeNames m.typeNameIndex name) (hd : ser.deserialize m.data name = .ok payload)
    (htg : 0 ≤ m.targetIndex ∧ env.targets[m.targetIndex.toNat]? = some target)
    (hsd : env.senders = [] ∧ sender = none ∨
      ∃ p, sender = some p ∧ 0 ≤ m.senderIndex ∧ env.senders[m.senderIndex.toNat]? = some p) :
    receiveMessage ser env (some m) = .ok (target, payload, sender) := by
  obtain ⟨hti, y, hy, rfl⟩ := htn
  change ser.deserialize m.data y = .ok payload at hd
  have hty : (indexInt env.typeNames m.typeNameIndex : Except GoPanic String) = pure y := by
    simp only [indexInt, Int.not_lt.mpr hti, if_false, index, hy]
  have htarget : (indexInt env.targets m.targetIndex : Except GoPanic Actor.PID) = pure target := by
    simp only [indexInt, Int.not_lt.mpr htg.1, if_false, index, htg.2]
  rcases hsd with ⟨hnil, rfl⟩ | ⟨p, rfl, hsi, hp⟩
  · simp only [receiveMessage, hty, htarget, hd, hnil, List.length_nil, gt_iff_lt, Nat.lt_irrefl,
      if_false, except_pure_eq_ok, ok_bind, mapError_ok]
  · have hpos : env.senders.length > 0 := by
      have := (List.getElem?_eq_some_iff.mp hp).1; omega
    have hsender : (indexInt env.senders m.senderIndex : Except GoPanic Actor.PID) = pure p := by
      simp only [indexInt, Int.not_lt.mpr hsi, if_false, index, hp]
    simp only [receiveMessage, hty, htarget, hd, hpos, hsender, if_true, except_pure_eq_ok, ok_bind,
      mapError_ok]
    rfl

theorem receive_of_forall₂ {env : Envelope} : ∀ {l : List (StreamDeliver α)} {ms : List (Option Message)},
    List.Forall₂ (fun s m => receiveMessage ser env m = .ok (s.target, s.msg, s.sender)) l ms →
      receive ser env ms = (l.map fun s => (s.target, s.msg, s.sender), none)
  | _, _, .nil => rfl
  | _, _, .cons h hs => by simp only [receive, h, receive_of_forall₂ hs, List.map_cons]

/-- The writer and the reader agree on a batch when `LookupKey` tells its
targets apart and its senders apart, `Deserialize` inverts `Serialize` under
the name `TypeName` gives, and its senders are all set or all nil: the reader
makes one `SendLocal` per message, in order, with the message's target,
payload and sender. -/
theorem invoke_receive_round_trip (msgs : List (StreamDeliver α))
    (hcodec : ∀ s ∈ msgs, ∃ name b, ser.typeName s.msg = .ok name ∧ ser.serialize s.msg = .ok b ∧
      ser.deserialize b name = .ok s.msg)
    (htargets : ∀ s ∈ msgs, ∀ s' ∈ msgs,
      lookupKey hash s.target = lookupKey hash s'.target → s.target = s'.target)
    (hsenders : ∀ s ∈ msgs, ∀ s' ∈ msgs, ∀ p p', s.sender = some p → s'.sender = some p' →
      lookupKey hash p = lookupKey hash p' → p = p')
    (hnil : (∀ s ∈ msgs, s.sender ≠ none) ∨ ∀ s ∈ msgs, s.sender = none) :
    ∃ env, invoke ser hash msgs = .ok env ∧
      receive ser env env.messages = (msgs.map fun s => (s.target, s.msg, s.sender), none) := by
  obtain ⟨t', ms, hr⟩ := encodeLoop_ok ser hash ⟨[], [], [], [], [], []⟩ msgs fun s hs =>
    (hcodec s hs).imp fun _ ⟨_, h, _⟩ => h
  obtain ⟨-, hg, hw⟩ := encodeLoop_written ser hash _ msgs t' ms (consistent_empty hash) hr
  refine ⟨⟨t'.senders, t'.targets, t'.typeNames, ms⟩, by simp [invoke, hr, ok_bind],
    receive_of_forall₂ ser (forall₂_imp_of_mem hw fun s hs m hsm => ?_)⟩
  obtain ⟨name, b, hn, hb, hd⟩ := hcodec s hs
  cases m with
  | none => obtain ⟨e, he⟩ := hsm; rw [hb] at he; cases he
  | some m =>
    obtain ⟨hdata, ⟨name', hn', htn⟩, ⟨hgi, y, hy, hky⟩, hsd⟩ := hsm
    rw [hn] at hn'; cases hn'
    rw [hb] at hdata; cases hdata
    have hyt : y = s.target := by
      rcases hg.targets_from y (List.getElem?_mem hy) with hy' | ⟨s', hs', rfl⟩
      · cases hy'
      · exact htargets s' hs' s hs hky
    refine receiveMessage_of_resolved ser htn hd ⟨hgi, hyt ▸ hy⟩ ?_
    rcases hnil with hset | hnone
    · obtain ⟨p, hp⟩ := Option.ne_none_iff_exists'.mp (hset s hs)
      rw [hp] at hsd ⊢
      obtain ⟨hsi, z, hz, hkz⟩ := hsd
      obtain ⟨s', hs', hz'⟩ := (hg.senders_from z (List.getElem?_mem hz)).resolve_left nofun
      exact .inr ⟨p, rfl, hsi, hsenders s' hs' s hs z p hz' hp hkz ▸ hz⟩
    · exact .inl ⟨hg.no_sender hnone, hnone s hs⟩


end

/-- Two messages to targets that `lengthHash` tells apart, from one sender. -/
def twoTargets : List (StreamDeliver (List UInt8)) :=
  [⟨⟨"n1", "a"⟩, some ⟨"n3", "c"⟩, [1]⟩, ⟨⟨"n2", "bb"⟩, some ⟨"n3", "c"⟩, [2]⟩]

/-- A hash that only sees the length of the joined address and ID. -/
def lengthHash (s : String) : UInt64 := s.length.toUInt64

theorem invoke_receive_round_trip_two_targets :
    ((∀ s ∈ twoTargets, ∃ name b, bytesSerializer.typeName s.msg = .ok name ∧
        bytesSerializer.serialize s.msg = .ok b ∧ bytesSerializer.deserialize b name = .ok s.msg) ∧
      (∀ s ∈ twoTargets, ∀ s' ∈ twoTargets,
        lookupKey lengthHash s.target = lookupKey lengthHash s'.target → s.target = s'.target) ∧
      (∀ s ∈ twoTargets, ∀ s' ∈ twoTargets, ∀ p p', s.sender = some p → s'.sender = some p' →
        lookupKey lengthHash p = lookupKey lengthHash p' → p = p') ∧
      ((∀ s ∈ twoTargets, s.sender ≠ none) ∨ ∀ s ∈ twoTargets, s.sender = none)) ∧
    ∃ env, invoke bytesSerializer lengthHash twoTargets = .ok env ∧
      receive bytesSerializer env env.messages =
        (twoTargets.map fun s => (s.target, s.msg, s.sender), none) := by
  have hcodec : ∀ s ∈ twoTargets, ∃ name b, bytesSerializer.typeName s.msg = .ok name ∧
      bytesSerializer.serialize s.msg = .ok b ∧ bytesSerializer.deserialize b name = .ok s.msg :=
    fun s _ => ⟨"bytes", s.msg, rfl, rfl, rfl⟩
  have htargets : ∀ s ∈ twoTargets, ∀ s' ∈ twoTargets,
      lookupKey lengthHash s.target = lookupKey lengthHash s'.target → s.target = s'.target := by
    decide
  have hsenders : ∀ s ∈ twoTargets, ∀ s' ∈ twoTargets, ∀ p p', s.sender = some p →
      s'.sender = some p' → lookupKey lengthHash p = lookupKey lengthHash p' → p = p' := by
    simp [twoTargets]
  have hnil : (∀ s ∈ twoTargets, s.sender ≠ none) ∨ ∀ s ∈ twoTargets, s.sender = none :=
    .inl (by decide)
  exact ⟨⟨hcodec, htargets, hsenders, hnil⟩,
    invoke_receive_round_trip bytesSerializer lengthHash twoTargets hcodec htargets hsenders hnil⟩

end Remote
