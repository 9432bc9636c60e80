import DistributedFramework.Trading.Feed

/-! A ticker keeps every strategy it has taken in. `TickerActor` stores a
strategy in `subscribers` under `pid.String()`, the address, `/` and the ID,
so a later `RegisterStrategy` overwrites it only with a PID of the same
string; when the addresses hold no `/`, as `host:port` addresses do not, that
is the same PID. So a strategy a live ticker holds stays among the PIDs its
`Range` visits, and receives every update the ticker broadcasts, until the
ticker stops. With a `/` in an address the strings collide: the PIDs with
address `a/b` and ID `c`, and with address `a` and ID `b/c`, both have the
string `a/b/c`, and either evicts the other. A `StrategyPID` that is no PID
makes the ticker panic, and the receiver its restart brings up holds no
strategy; so the subscriptions here hold PIDs, and no ticker panics.

Proved here:

* `Actor.PID.string_inj`: `pid.String()` tells PIDs apart when their addresses
  hold no `/`;
* `Holds.step`, `Holds.run`: a ticker stores each strategy under its string,
  and every strategy it holds or is asked to take in is a PID that came from
  a `SubscribeWithStrategy`, so no ticker panics;
* `HoldsAt.step`, `HoldsAt.run`: every step but the ticker's own stop keeps a
  strategy among the ticker's subscribers;
* `subscribers_kept`: along every run from a new MarketData in which every
  strategy subscribing is a PID with an address without `/`, a strategy a
  live ticker holds is held by it at every later point until the ticker
  stops. -/

namespace Trading

/-- A list is cut at the first place `a` stands. -/
theorem eq_of_append_cons_eq_first {α : Type} {a : α} :
    ∀ {l₁ l₂ d₁ d₂ : List α}, l₁ ++ a :: d₁ = l₂ ++ a :: d₂ → a ∉ l₁ → a ∉ l₂ → l₁ = l₂ ∧ d₁ = d₂
  | [], [], _, _, h, _, _ => ⟨rfl, (List.cons.inj h).2⟩
  | [], _ :: _, _, _, h, _, h₂ => absurd (List.mem_cons.2 (.inl (List.cons.inj h).1)) h₂
  | _ :: _, [], _, _, h, h₁, _ => absurd (List.mem_cons.2 (.inl (List.cons.inj h).1.symm)) h₁
  | _ :: _, _ :: _, _, _, h, h₁, h₂ => by
    obtain ⟨rfl, ht⟩ := List.cons.inj h
    obtain ⟨rfl, rfl⟩ := eq_of_append_cons_eq_first ht (fun h' => h₁ (List.mem_cons_of_mem _ h'))
      (fun h' => h₂ (List.mem_cons_of_mem _ h'))
    exact ⟨rfl, rfl⟩

end Trading

/-- `pid.String()` is read back by cutting at the first `/`, when the address
holds none. -/
theorem Actor.PID.string_inj {p q : Actor.PID} (hp : '/' ∉ p.address.data) (hq : '/' ∉ q.address.data)
    (h : p.string = q.string) : p = q := by
  obtain ⟨a₁, i₁⟩ := p
  obtain ⟨a₂, i₂⟩ := q
  have h := congrArg String.data h
  simp only [Actor.PID.string, String.data_append, List.append_assoc] at h
  obtain ⟨ha, hi⟩ := Trading.eq_of_append_cons_eq_first h hp hq
  rw [String.ext ha, String.ext hi]

/-- With a `/` in an address, two PIDs can share their string. -/
example : Actor.PID.string ⟨"a/b", "c"⟩ = Actor.PID.string ⟨"a", "b/c"⟩ := by decide

namespace Trading
open Go

/-- A `StrategyPID` that is a PID satisfying `P`. -/
def Takes (P : Actor.PID → Prop) : AnyPID → Prop
  | .pid q => P q
  | .other => False

/-- What a message asks a ticker to take in, or MarketData to pass on to one,
is a PID satisfying `P`. -/
def Pending (P : Actor.PID → Prop) : FeedMsg → Prop
  | .registerStrategy p => Takes P p
  | .subscribeWithStrategy _ p => Takes P p
  | _ => True

/-- A ticker stores each strategy under its string, and every strategy it
holds or is asked to take in satisfies `P`. -/
structure Ticker.Holds (P : Actor.PID → Prop) (t : Ticker) : Prop where
  subscribers : ∀ k q, t.subscribers.get? k = some q → k = q.string ∧ P q
  inbox : ∀ m ∈ t.inbox, Pending P m

/-- A subscription from outside is a PID satisfying `P`. -/
def Brings (P : Actor.PID → Prop) : FeedStep → Prop
  | .arrive (.subscribeWithStrategy _ p) => Takes P p
  | _ => True

variable {P : Actor.PID → Prop}

/-- On a message that satisfies `P`, a ticker keeps its invariant and sends
only updates. -/
theorem Ticker.Holds.receive {t t' : Ticker} {m : FeedMsg} {sends} (h : t.Holds P) (hm : Pending P m)
    (hr : t.receive m = some (t', sends)) : t'.Holds P ∧ ∀ x ∈ sends, Pending P x.2 := by
  cases m with
  | registerStrategy q =>
    cases q with
    | pid q =>
      simp only [Ticker.receive, AnyPID.assert, Except.toOption] at hr
      obtain ⟨⟩ := hr
      refine ⟨{ h with subscribers := fun k q' hk => ?_ }, List.forall_mem_nil _⟩
      rw [Map.get?_insert] at hk
      split_ifs at hk with hkq
      · cases hk; exact ⟨hkq, hm⟩
      · exact h.subscribers k q' hk
    | other => exact hm.elim
  | market u =>
    obtain ⟨⟩ := hr
    refine ⟨h, fun x hx => ?_⟩
    obtain ⟨q, -, rfl⟩ := List.mem_map.1 hx
    trivial
  | _ => obtain ⟨⟩ := hr; exact ⟨h, List.forall_mem_nil _⟩

/-- A ticker does not panic on a message that satisfies `P`. -/
theorem Ticker.receive_ne_none {t : Ticker} {m : FeedMsg} (hm : Pending P m) : t.receive m ≠ none := by
  cases m with
  | registerStrategy p =>
    cases p with
    | pid q => exact Option.noConfusion
    | other => exact hm.elim
  | _ => exact Option.noConfusion

/-- On a message that satisfies `P`, a ticker whose PIDs satisfying `P` have
strings other than `q`'s unless they are `q` keeps `q`, and stays as live as
it was. -/
theorem Ticker.Holds.receive_keeps {t t' : Ticker} {m : FeedMsg} {sends} {q : Actor.PID}
    (hm : Pending P m) (hP : ∀ p, P p → p.string = q.string → p = q)
    (hr : t.receive m = some (t', sends)) (hq : t.subscribers.get? q.string = some q) :
    t'.alive = t.alive ∧ t'.subscribers.get? q.string = some q := by
  cases m with
  | registerStrategy p =>
    cases p with
    | pid p =>
      simp only [Ticker.receive, AnyPID.assert, Except.toOption] at hr
      obtain ⟨⟩ := hr
      refine ⟨rfl, ?_⟩
      rw [Map.get?_insert]
      split_ifs with hpq
      · rw [hP p hm hpq.symm]
      · exact hq
    | other => exact hm.elim
  | market u => obtain ⟨⟩ := hr; exact ⟨rfl, hq⟩
  | _ => obtain ⟨⟩ := hr; exact ⟨rfl, hq⟩

namespace Feed

theorem live_of_get? {f : Feed} {id : String} {t : Ticker} (ht : f.tickers.get? id = some t)
    (ha : t.alive) : f.live id = some t :=
  Option.filter_eq_some.2 ⟨ht, ha⟩

theorem registered_of_live {f : Feed} {id : String} {t : Ticker} (h : f.live id = some t) :
    f.registered id := by
  simp [Feed.registered, h]

/-- Every ticker stores each strategy under its string, and every strategy a
ticker holds, or is asked to take in, or MarketData is asked to subscribe,
satisfies `P`. -/
structure Holds (P : Actor.PID → Prop) (f : Feed) : Prop where
  tickers : ∀ id t, f.tickers.get? id = some t → t.Holds P
  marketInbox : ∀ s p, FeedMsg.subscribeWithStrategy s p ∈ f.marketInbox → Takes P p

variable {f : Feed}

theorem Holds.insert (h : f.Holds P) {id : String} {t : Ticker} (ht : t.Holds P) :
    { f with tickers := f.tickers.insert id t }.Holds P :=
  { h with
    tickers := fun k u hk => by
      rw [Map.get?_insert] at hk
      split_ifs at hk
      · cases hk; exact ht
      · exact h.tickers k u hk }

theorem Holds.live (h : f.Holds P) {id : String} {t : Ticker} (hl : f.live id = some t) : t.Holds P :=
  h.tickers id t (get?_of_live hl)

theorem Holds.deliver (h : f.Holds P) {s : Actor.PID × FeedMsg} (hs : Pending P s.2) :
    (f.deliver s).Holds P := by
  unfold Feed.deliver
  split
  · exact { h with }
  split
  · exact { h with
      marketInbox := fun sym q hq => (List.mem_append.1 hq).elim (h.marketInbox sym q)
        fun hq => by rw [← List.mem_singleton.1 hq] at hs; exact hs }
  split
  · rename_i t ht
    have ht := h.live ht
    exact h.insert ⟨ht.subscribers, List.forall_mem_append.2 ⟨ht.inbox, List.forall_mem_singleton.2 hs⟩⟩
  · split <;> exact { h with }

theorem Holds.deliverAll {sends : List (Actor.PID × FeedMsg)} (hs : ∀ x ∈ sends, Pending P x.2) :
    ∀ {f : Feed}, f.Holds P → (sends.foldl Feed.deliver f).Holds P := by
  induction sends with
  | nil => exact id
  | cons x xs ih =>
    exact fun h => ih (fun y hy => hs y (List.mem_cons_of_mem _ hy)) (h.deliver (hs x (List.mem_cons_self _ _)))

theorem Holds.spawn (h : f.Holds P) (pid : Actor.PID) (symbol : String) : (f.spawn pid symbol).Holds P := by
  unfold Feed.spawn
  split
  · exact { h with }
  · exact h.insert ⟨fun _ _ hk => Option.noConfusion hk, List.forall_mem_nil _⟩

theorem Holds.poison (h : f.Holds P) (pid : Actor.PID) : (f.poison pid).Holds P := by
  unfold Feed.poison
  split
  · rename_i t ht
    have ht := h.live ht
    exact h.insert ⟨ht.subscribers, ht.inbox⟩
  · exact { h with }

theorem Holds.subscribeTicker (h : f.Holds P) (n : Nat) (symbol : String) :
    (f.subscribeTicker n symbol).Holds P := by
  unfold Feed.subscribeTicker
  split
  · exact h
  · have hs := h.spawn ⟨f.address, tickerID symbol n⟩ symbol
    dsimp only
    split <;> exact { hs with }

theorem Holds.unsubscribeTicker (h : f.Holds P) (symbol : String) :
    (f.unsubscribeTicker symbol).Holds P := by
  unfold Feed.unsubscribeTicker
  split
  · exact { h.poison _ with }
  · exact h

theorem Holds.marketReceive (h : f.Holds P) {n : Nat} {m : FeedMsg} {f' : Feed}
    (hm : ∀ s p, m = .subscribeWithStrategy s p → Takes P p) (hr : f.marketReceive n m = some f') :
    f'.Holds P := by
  rcases marketReceive_eq_some hr with ⟨-, rfl⟩ | ⟨s, -, rfl⟩ | ⟨s, q, pid, rfl, -, rfl⟩ | ⟨s, q, -, rfl⟩ |
      ⟨s, -, rfl⟩ | ⟨s, p, pid, -, -, rfl⟩ | rfl
  · exact { h with }
  · exact h.subscribeTicker n s
  · exact (h.subscribeTicker n s).deliver (hm s q rfl)
  · exact h.subscribeTicker n s
  · exact h.unsubscribeTicker s
  · exact h.deliver trivial
  · exact h

/-- One step keeps the invariant, if what arrives satisfies `P`. -/
theorem Holds.step (h : f.Holds P) {st : FeedStep} {f' : Feed} (hq : Brings P st)
    (hs : f.step st = some f') : f'.Holds P := by
  rcases step_eq_some hs with ⟨m, rfl, rfl⟩ | ⟨n, m, rest, rfl, hin, hr⟩ |
      ⟨id, t, m, rest, t', sends, rfl, ht, hin, hr, rfl⟩ | ⟨id, t, m, rest, k, rfl, ht, hin, -, -, rfl⟩ |
      ⟨id, t, rfl, ht, -, rfl⟩ | ⟨g, d, pid, rfl, -, -, rfl⟩ | ⟨g, d, rfl, -, -, rfl⟩ | ⟨g, rfl, -, rfl⟩ |
      ⟨id, rfl, rfl⟩ | ⟨id, rfl, -, rfl⟩
  · exact { h with
      marketInbox := fun s q hsq => (List.mem_append.1 hsq).elim (h.marketInbox s q)
        fun hsq => by cases List.mem_singleton.1 hsq; exact hq }
  · have hm : ∀ x ∈ m :: rest, ∀ s q, x = .subscribeWithStrategy s q → Takes P q :=
      fun x hx s q he => h.marketInbox s q (hin ▸ he ▸ hx)
    exact Holds.marketReceive (f := { f with marketInbox := rest })
      { h with marketInbox := fun s q hsq => hm _ (List.mem_cons_of_mem _ hsq) s q rfl }
      (hm m (List.mem_cons_self _ _)) hr
  · have ht := h.live ht
    have hin : ∀ x ∈ m :: rest, x ∈ t.inbox := fun x hx => hin ▸ hx
    obtain ⟨ht', hsends⟩ := Ticker.Holds.receive (t := { t with inbox := rest })
      ⟨ht.subscribers, fun m' hm' => ht.inbox m' (hin m' (List.mem_cons_of_mem _ hm'))⟩
      (ht.inbox m (hin m (List.mem_cons_self _ _))) hr
    exact Holds.deliverAll hsends (h.insert ht')
  · have ht := h.live ht
    exact h.insert ⟨fun _ _ hk => Option.noConfusion hk,
      fun m' hm' => ht.inbox m' (hin ▸ List.mem_cons_of_mem _ hm')⟩
  · have ht := h.live ht
    exact h.insert ⟨ht.subscribers, ht.inbox⟩
  · exact Holds.deliver (f := { f with goroutines := f.goroutines.set g { d with i := d.i + 1 } }) { h with }
      trivial
  all_goals exact { h with }

theorem Holds.run {steps : List FeedStep} (hq : ∀ st ∈ steps, Brings P st) (h : f.Holds P) {f' : Feed}
    (hr : f.run steps = some f') : f'.Holds P :=
  run_invariant (Holds P) (Brings P) (fun h hq hs => h.step hq hs) hq h hr

theorem holds_new {address marketID : String} {testMode : Bool} :
    (Feed.new address marketID testMode).Holds P :=
  ⟨fun _ _ h => Option.noConfusion h, fun _ _ h => (List.not_mem_nil _ h).elim⟩

/-! ## A strategy stays subscribed -/

/-- The live ticker under `id` holds `q` under `q.string`. -/
def HoldsAt (f : Feed) (id : String) (q : Actor.PID) : Prop :=
  ∃ t, f.live id = some t ∧ t.subscribers.get? q.string = some q

variable {id : String} {q : Actor.PID}

theorem HoldsAt.insert (h : f.HoldsAt id q) {k : String} {u : Ticker}
    (hu : ∀ t, k = id → f.live id = some t → t.subscribers.get? q.string = some q →
      u.alive ∧ u.subscribers.get? q.string = some q) :
    { f with tickers := f.tickers.insert k u }.HoldsAt id q := by
  obtain ⟨t, ht, hq⟩ := h
  by_cases hk : id = k
  · subst hk
    obtain ⟨hua, huq⟩ := hu t rfl ht hq
    exact ⟨u, Option.filter_eq_some.2 ⟨Map.get?_insert_self .., hua⟩, huq⟩
  · refine ⟨t, ?_, hq⟩
    unfold Feed.live
    rw [Map.get?_insert_ne _ _ _ hk]
    exact ht

/-- Writing back the live ticker under `k` with its liveness and subscribers
unchanged keeps `q`. -/
theorem HoldsAt.insert_live (h : f.HoldsAt id q) {k : String} {t u : Ticker} (ht : f.live k = some t)
    (ha : u.alive = t.alive) (hs : u.subscribers = t.subscribers) :
    { f with tickers := f.tickers.insert k u }.HoldsAt id q :=
  h.insert fun _ hk ht' hq => by
    subst hk
    cases ht.symm.trans ht'
    exact ⟨ha.trans (Option.filter_eq_some.1 ht).2, hs ▸ hq⟩

theorem HoldsAt.deliver (h : f.HoldsAt id q) (s : Actor.PID × FeedMsg) : (f.deliver s).HoldsAt id q := by
  unfold Feed.deliver
  split
  · exact h
  split
  · exact h
  split
  · rename_i t ht
    exact h.insert_live ht rfl rfl
  · split <;> exact h

theorem HoldsAt.deliverAll (sends : List (Actor.PID × FeedMsg)) :
    ∀ {f : Feed}, f.HoldsAt id q → (sends.foldl Feed.deliver f).HoldsAt id q := by
  induction sends with
  | nil => exact fun h => h
  | cons x xs ih => exact fun h => ih (h.deliver x)

/-- `Registry.add` refuses the ID of a live ticker, so a spawn never replaces
it. -/
theorem HoldsAt.spawn (h : f.HoldsAt id q) (pid : Actor.PID) (symbol : String) :
    (f.spawn pid symbol).HoldsAt id q := by
  unfold Feed.spawn
  split
  · exact h
  · rename_i hreg
    exact h.insert fun _ hk ht _ => absurd (registered_of_live (hk ▸ ht)) hreg

theorem HoldsAt.poison (h : f.HoldsAt id q) (pid : Actor.PID) : (f.poison pid).HoldsAt id q := by
  unfold Feed.poison
  split
  · rename_i t ht
    exact h.insert_live ht rfl rfl
  · exact h

theorem HoldsAt.marketReceive (h : f.HoldsAt id q) {n : Nat} {m : FeedMsg} {f' : Feed}
    (hr : f.marketReceive n m = some f') : f'.HoldsAt id q := by
  have hsub : ∀ symbol, (f.subscribeTicker n symbol).HoldsAt id q := fun symbol => by
    unfold Feed.subscribeTicker
    split
    · exact h
    · dsimp only
      split <;> exact h.spawn _ _
  rcases marketReceive_eq_some hr with ⟨-, rfl⟩ | ⟨s, -, rfl⟩ | ⟨s, -, -, -, -, rfl⟩ | ⟨s, -, -, rfl⟩ |
      ⟨s, -, rfl⟩ | ⟨-, -, -, -, -, rfl⟩ | rfl
  · exact h
  · exact hsub s
  · exact (hsub s).deliver _
  · exact hsub s
  · unfold Feed.unsubscribeTicker
    split
    · exact h.poison _
    · exact h
  · exact h.deliver _
  · exact h

/-- Every step but the stop of the ticker under `id` keeps `q` among its
subscribers, when every strategy it may be asked to take in satisfies `P` and
no PID satisfying `P` other than `q` has `q`'s string. -/
theorem HoldsAt.step (hH : f.Holds P) (hP : ∀ p, P p → p.string = q.string → p = q)
    (h : f.HoldsAt id q) {st : FeedStep} {f' : Feed} (hst : st ≠ .stop id) (hs : f.step st = some f') :
    f'.HoldsAt id q := by
  rcases step_eq_some hs with ⟨m, rfl, rfl⟩ | ⟨n, m, rest, rfl, -, hr⟩ |
      ⟨k, t, m, rest, t', sends, rfl, ht, hin, hr, rfl⟩ | ⟨k, t, m, rest, j, rfl, ht, hin, hr, -, -⟩ |
      ⟨k, t, rfl, -, -, rfl⟩ | ⟨g, d, pid, rfl, -, -, rfl⟩ | ⟨g, d, rfl, -, -, rfl⟩ | ⟨g, rfl, -, rfl⟩ |
      ⟨k, rfl, rfl⟩ | ⟨k, rfl, -, rfl⟩
  · exact h
  · exact HoldsAt.marketReceive (f := { f with marketInbox := rest }) h hr
  · refine HoldsAt.deliverAll sends (h.insert fun t₀ hk ht₀ hq => ?_)
    subst hk
    cases ht.symm.trans ht₀
    obtain ⟨ha, hq'⟩ := Ticker.Holds.receive_keeps (t := { t with inbox := rest })
      ((hH.live ht).inbox m (hin ▸ List.mem_cons_self _ _)) hP hr hq
    exact ⟨ha.trans (Option.filter_eq_some.1 ht).2, hq'⟩
  · exact absurd hr (Ticker.receive_ne_none ((hH.live ht).inbox m (hin ▸ List.mem_cons_self _ _)))
  · exact h.insert fun _ hk _ _ => absurd (congrArg FeedStep.stop hk) hst
  · exact HoldsAt.deliver (f := { f with goroutines := f.goroutines.set g { d with i := d.i + 1 } }) h _
  all_goals exact h

/-- Along every run in which the ticker under `id` does not stop, it keeps
`q`. -/
theorem HoldsAt.run (hP : ∀ p, P p → p.string = q.string → p = q) {steps : List FeedStep}
    (hq : ∀ st ∈ steps, Brings P st ∧ st ≠ .stop id) (hH : f.Holds P) (h : f.HoldsAt id q) {f' : Feed}
    (hr : f.run steps = some f') : f'.HoldsAt id q :=
  (run_invariant (fun f => f.Holds P ∧ f.HoldsAt id q) (fun st => Brings P st ∧ st ≠ .stop id)
    (fun h hq hs => ⟨h.1.step hq.1 hs, h.2.step h.1 hP hq.2 hs⟩) hq ⟨hH, h⟩ hr).2

end Feed

/-- Along every run from a new MarketData in which every strategy subscribing
with `SubscribeWithStrategy` has an address without `/`: a strategy that the
live ticker under `id` holds at some point is still among the PIDs the ticker's
`Range` visits at every later point, as long as the ticker has not stopped. -/
theorem subscribers_kept (address marketID : String) (testMode : Bool) {steps₁ steps₂ : List FeedStep}
    (hs : ∀ s p, FeedStep.arrive (.subscribeWithStrategy s p) ∈ steps₁ ++ steps₂ →
      ∃ q, p = .pid q ∧ '/' ∉ q.address.data)
    {f f' : Feed} (hr : (Feed.new address marketID testMode).run steps₁ = some f)
    (hr' : f.run steps₂ = some f') {id : String} (hstop : FeedStep.stop id ∉ steps₂)
    {t : Ticker} {q : Actor.PID} (ht : f.live id = some t) (hq : q ∈ t.subscribers.values) :
    ∃ t', f'.live id = some t' ∧ q ∈ t'.subscribers.values := by
  have hb : ∀ st ∈ steps₁ ++ steps₂, Brings (fun q => '/' ∉ q.address.data) st := by
    rintro (⟨_ | _ | _ | ⟨s, p⟩ | _ | _ | _⟩ | _ | _ | _ | _ | _ | _ | _) hst
    all_goals try trivial
    obtain ⟨q, rfl, hq⟩ := hs s p hst
    exact hq
  have hH := Feed.Holds.run (fun st hst => hb st (List.mem_append_left _ hst)) Feed.holds_new hr
  obtain ⟨k, hk⟩ := Map.mem_values _ hq
  obtain ⟨rfl, hqP⟩ := (hH.live ht).subscribers k q hk
  obtain ⟨t', ht', hq'⟩ := Feed.HoldsAt.run (fun p hp he => Actor.PID.string_inj hp hqP he)
    (fun st hst => ⟨hb st (List.mem_append_right _ hst), fun he => hstop (he ▸ hst)⟩) hH ⟨t, ht, hk⟩ hr'
  exact ⟨t', ht', List.mem_map.2 ⟨_, (Map.get?_eq_some_iff _).1 hq', rfl⟩⟩

def btcStrategyMA : Actor.PID := ⟨"local", "strategy-ma/5"⟩

/-- A strategy subscribes to `BTC/USDT`, and the ticker takes it in. -/
def btcSubscribed : List FeedStep :=
  [.spawnOther btcStrategy.id, .arrive (.subscribeWithStrategy "BTC/USDT" (.pid btcStrategy)), .market 7,
    .ticker (tickerID "BTC/USDT" 7)]

/-- A second strategy subscribes to `BTC/USDT` and the first subscribes again;
an update is broadcast; the symbol is unsubscribed, and the poisoned ticker has
not stopped yet. -/
def btcResubscribed : List FeedStep :=
  [.spawnOther btcStrategyMA.id, .arrive (.subscribeWithStrategy "BTC/USDT" (.pid btcStrategyMA)),
    .arrive (.subscribeWithStrategy "BTC/USDT" (.pid btcStrategy)), .market 9, .market 10,
    .ticker (tickerID "BTC/USDT" 7), .ticker (tickerID "BTC/USDT" 7), .tick 0, .ticker (tickerID "BTC/USDT" 7),
    .arrive (.unsubscribeTicker "BTC/USDT"), .market 11]

theorem subscribers_kept_btcResubscribed :
    ∃ f f' t, (Feed.new "local" "market-data/2" true).run btcSubscribed = some f ∧
      f.run btcResubscribed = some f' ∧ f.live (tickerID "BTC/USDT" 7) = some t ∧
      btcStrategy ∈ t.subscribers.values ∧
      ∃ t', f'.live (tickerID "BTC/USDT" 7) = some t' ∧ btcStrategy ∈ t'.subscribers.values :=
  have hs : ∀ s p, FeedStep.arrive (.subscribeWithStrategy s p) ∈ btcSubscribed ++ btcResubscribed →
      ∃ q, p = .pid q ∧ '/' ∉ q.address.data := by
    intro s p hp
    simp only [btcSubscribed, btcResubscribed, List.cons_append, List.nil_append, List.mem_cons,
      FeedStep.arrive.injEq, FeedMsg.subscribeWithStrategy.injEq, reduceCtorEq,
      List.mem_nil_iff, or_false, false_or] at hp
    rcases hp with ⟨-, rfl⟩ | ⟨-, rfl⟩ | ⟨-, rfl⟩ <;> exact ⟨_, rfl, by decide⟩
  have hstop : FeedStep.stop (tickerID "BTC/USDT" 7) ∉ btcResubscribed := by
    simp [btcResubscribed]
  ⟨_, _, _, rfl, rfl, rfl, by decide,
    subscribers_kept "local" "market-data/2" true hs rfl rfl hstop rfl (by decide)⟩

end Trading
