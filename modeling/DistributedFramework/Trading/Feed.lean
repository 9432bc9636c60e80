import DistributedFramework.Trading.Orders

/-! `MarketDataActor` (`executor.go`), the `TickerActor`s it spawns
(`part_005`) and its test-data goroutines.

MarketData keeps, in `tickers`, the PID of one ticker actor per subscribed
symbol. `SubscribeTicker` spawns the ticker if the symbol has none and, in
test mode, starts a goroutine that every second sends the symbol's ticker a
`TickerUpdate`; `SubscribeWithStrategy` does the same and then sends the
ticker a `RegisterStrategy`; a `TickerUpdate` is forwarded to the ticker of
its symbol; `UnsubscribeTicker` poisons the ticker and forgets it, while the
goroutine keeps running until MarketData stops. A ticker stores each strategy
it is told of under `pid.String()` and sends every `TickerUpdate` and
`KlineUpdate` it gets to all of them.

A `Feed` is MarketData, every ticker spawned (stopped ones included), the IDs
the engine's other processes are registered under, the goroutines, and what
leaves the feed. A send to another address leaves through the remote layer; a
local one is looked up by ID, as `Registry.get` does, and joins the inbox of
MarketData or of a live ticker, goes to another process, or is a dead letter.
The ID `Spawn` draws with `rand.Intn` is an argument of MarketData's step;
`Registry.add` refuses an ID already held, and MarketData then keeps the PID
of the process holding it. A poisoned ticker handles some of its messages
before it stops, which ones depending on how its drain task batches them
(`Actor.Drain`), so a step of its own stops it. Only MarketData and the
goroutines send to a ticker.

A ticker panics on a `RegisterStrategy` whose `StrategyPID` is no PID, and is
restarted as `Invoke` restarts it: the message is dropped and, while the
process has restarts left, a new `TickerActor` for the symbol, with no
subscribers, handles what follows; past `MaxRestarts` the program ends.
MarketData panics only when it closes `stopCh` a second time, and then its
recover handler hands the old receiver `Stopped`, which closes it once more
outside any recover: the program ends there too. A run ends where the
program does.

`UnsubscribeTicker` leaves the symbol's goroutine running, so a later
subscription starts a second one, and both send to the new ticker.

Proved here:

* `step_eq_some`, `marketReceive_eq_some`: what one step can do, and what
  MarketData can do with one message; the invariants here and in
  `Trading.Subscribers` are derived from them;
* `tickerID_symbol`: two ticker IDs are equal only for the same symbol, as
  `strconv.Itoa` writes no `/`;
* `Ticker.Isolated.receive`, `Isolated.deliver` and one lemma per operation of
  MarketData, then `Isolated.step`, `Isolated.run`: every ticker is sent only
  updates for its own symbol and strategies subscribed to it, and the PID
  MarketData keeps for a symbol is a local one with the ID of a ticker for that
  symbol;
* `updates_reach_subscribers`: so along every run, restarts of tickers
  included, all that leaves the feed is market updates, each to a process that
  subscribed to its symbol with `SubscribeWithStrategy`. -/

/-- `PID.String()`. -/
def Actor.PID.string (pid : Actor.PID) : String := pid.address ++ "/" ++ pid.id

namespace Trading
open Go

/-- The messages of `MarketDataActor` and `TickerActor`: Go's `any`, each
actor handling the types it knows. -/
inductive FeedMsg where
  | started
  | stopped
  | subscribeTicker (symbol : String)
  | subscribeWithStrategy (symbol : String) (strategyPID : AnyPID)
  | unsubscribeTicker (symbol : String)
  | registerStrategy (strategyPID : AnyPID)
  | market (m : MarketMsg)

/-- A `TickerActor` process: its symbol, its `subscribers` keyed by
`pid.String()`, its inbox, whether `Poison` has reached it, whether it is
still registered, and the restarts it has left before `MaxRestarts`. Its
`lastTick` is written and never read. -/
structure Ticker where
  symbol : String
  subscribers : Map String Actor.PID
  inbox : List FeedMsg
  poisoned : Bool
  alive : Bool
  restartsLeft : Nat

/-- `MarketDataActor`: its `tickers`, its mode, and whether `stopCh` is
closed. -/
structure MarketData where
  tickers : Map String Actor.PID
  testMode : Bool
  stopped : Bool

/-- A `generateTestData` goroutine: its symbol and its counter `i`. -/
structure TestData where
  symbol : String
  i : Nat

/-- MarketData with its PID and inbox, every ticker spawned keyed by its ID,
the IDs other processes of the engine are registered under, the goroutines,
and what leaves the feed: to another process, or as a dead letter. -/
structure Feed where
  address : String
  marketPID : Actor.PID
  market : MarketData
  marketInbox : List FeedMsg
  tickers : Map String Ticker
  others : List String
  goroutines : List TestData
  elsewhere : List (Actor.PID × FeedMsg)
  deadLetters : List (Actor.PID × FeedMsg)

/-- The ID `Spawn(NewTickerActor(symbol), fmt.Sprintf("ticker-%s", symbol))`
gives the ticker when `rand.Intn` draws `n`: kind, `/`, `strconv.Itoa(n)`. -/
def tickerID (symbol : String) (n : Nat) : String :=
  "ticker-" ++ symbol ++ "/" ++ toString n

/-- The base price of `generateTestData`. -/
def basePrice (symbol : String) : ℚ :=
  if symbol = "ETH/USDT" then 3000 else if symbol = "SOL/USDT" then 100 else 50000

/-- The price of the `i`-th update `generateTestData` sends. -/
def testPrice (symbol : String) (i : Nat) : ℚ :=
  basePrice symbol + (((i % 20 : Nat) : ℚ) - 10) / 100 * basePrice symbol * (1 / 100)

/-- `TickerActor.Receive`: a strategy stored under `pid.String()`, or an
update sent to every strategy stored, in the order `Range` visits them;
`none` when the type assertion on `StrategyPID` panics. -/
def Ticker.receive (t : Ticker) : FeedMsg → Option (Ticker × List (Actor.PID × FeedMsg))
  | .registerStrategy strategyPID => do
    let pid ← strategyPID.assert.toOption
    pure ({ t with subscribers := t.subscribers.insert pid.string pid }, [])
  | .market m => pure (t, t.subscribers.values.map fun pid => (pid, .market m))
  | _ => pure (t, [])

namespace Feed

/-- The feed of a new `MarketDataActor`: no ticker, nothing sent. -/
def new (address marketID : String) (testMode : Bool) : Feed :=
  ⟨address, ⟨address, marketID⟩, ⟨Map.empty, testMode, false⟩, [], Map.empty, [], [], [], []⟩

/-- The ticker registered under `id`, if it has not stopped. -/
def live (f : Feed) (id : String) : Option Ticker :=
  (f.tickers.get? id).filter (·.alive)

/-- Whether `Registry.lookup` holds a process under `id`. -/
def registered (f : Feed) (id : String) : Bool :=
  id == f.marketPID.id || (f.live id).isSome || f.others.contains id

/-- `ctx.Send(pid, msg)`: a PID of another address leaves through the remote
layer; a local one is looked up by ID in the registry, and a message to an ID
nothing holds is a dead letter. -/
def deliver (f : Feed) (s : Actor.PID × FeedMsg) : Feed :=
  if s.1.address ≠ f.address then { f with elsewhere := f.elsewhere ++ [s] }
  else if s.1.id = f.marketPID.id then { f with marketInbox := f.marketInbox ++ [s.2] }
  else
    match f.live s.1.id with
    | some t => { f with tickers := f.tickers.insert s.1.id { t with inbox := t.inbox ++ [s.2] } }
    | none =>
      if s.1.id ∈ f.others then { f with elsewhere := f.elsewhere ++ [s] }
      else { f with deadLetters := f.deadLetters ++ [s] }

/-- `engine.Spawn` of a ticker for `symbol` under `pid`, with the
`MaxRestarts` of `DefaultOpts`: `Registry.add` registers it unless a process
is registered under its ID. -/
def spawn (f : Feed) (pid : Actor.PID) (symbol : String) : Feed :=
  { f with tickers :=
      if f.registered pid.id then f.tickers
      else f.tickers.insert pid.id ⟨symbol, Map.empty, [], false, true, 3⟩ }

/-- `Registry.add` of a process outside the feed under `id`. -/
def add (f : Feed) (id : String) : Feed :=
  { f with others := if f.registered id then f.others else f.others ++ [id] }

/-- `engine.Poison(pid)` of a ticker: the pill reaches it if it is
registered; otherwise a `DeadLetterEvent` is all that happens. -/
def poison (f : Feed) (pid : Actor.PID) : Feed :=
  { f with tickers :=
      match f.live pid.id with
      | some t => f.tickers.insert pid.id { t with poisoned := true }
      | none => f.tickers }

/-- `subscribeTicker(ctx, symbol)`, with the ID `Spawn` draws. -/
def subscribeTicker (f : Feed) (n : Nat) (symbol : String) : Feed :=
  match f.market.tickers.get? symbol with
  | some _ => f
  | none =>
    let pid : Actor.PID := ⟨f.address, tickerID symbol n⟩
    let f := { f.spawn pid symbol with market := { f.market with tickers := f.market.tickers.insert symbol pid } }
    if f.market.testMode then { f with goroutines := f.goroutines ++ [⟨symbol, 0⟩] } else f

/-- `unsubscribeTicker(symbol)`. -/
def unsubscribeTicker (f : Feed) (symbol : String) : Feed :=
  match f.market.tickers.get? symbol with
  | some pid => { f.poison pid with market := { f.market with tickers := f.market.tickers.erase symbol } }
  | none => f

/-- `MarketDataActor.Receive`, with the ID `Spawn` draws if it spawns a
ticker; closing `stopCh` a second time panics. -/
def marketReceive (f : Feed) (n : Nat) : FeedMsg → Option Feed
  | .stopped => if f.market.stopped then none else some { f with market := { f.market with stopped := true } }
  | .subscribeTicker symbol => some (f.subscribeTicker n symbol)
  | .subscribeWithStrategy symbol strategyPID =>
    let f := f.subscribeTicker n symbol
    match f.market.tickers.get? symbol with
    | some pid => some (f.deliver (pid, .registerStrategy strategyPID))
    | none => some f
  | .unsubscribeTicker symbol => some (f.unsubscribeTicker symbol)
  | .market (.ticker symbol price) =>
    match f.market.tickers.get? symbol with
    | some pid => some (f.deliver (pid, .market (.ticker symbol price)))
    | none => some f
  | _ => some f

end Feed

inductive FeedStep where
  /-- a message reaches MarketData's inbox -/
  | arrive (m : FeedMsg)
  /-- MarketData handles its oldest message; `n` is what `rand.Intn` draws if
  it spawns a ticker -/
  | market (n : Nat)
  /-- the live ticker under `id` handles its oldest message -/
  | ticker (id : String)
  /-- the poisoned ticker under `id` stops and leaves the registry -/
  | stop (id : String)
  /-- goroutine `g` takes its `ticker.C` case -/
  | tick (g : Nat)
  /-- goroutine `g` takes its `stopCh` case, once it is closed -/
  | quit (g : Nat)
  /-- a process outside the feed is spawned under `id` -/
  | spawnOther (id : String)
  /-- the process outside the feed under `id` stops -/
  | stopOther (id : String)

namespace Feed

def step (f : Feed) : FeedStep → Option Feed
  | .arrive m => some { f with marketInbox := f.marketInbox ++ [m] }
  | .market n =>
    match f.marketInbox with
    | [] => none
    | m :: rest => { f with marketInbox := rest }.marketReceive n m
  | .ticker id =>
    match f.live id with
    | some t =>
      match t.inbox with
      | [] => none
      | m :: rest =>
        match { t with inbox := rest }.receive m with
        | some (t', sends) => some (sends.foldl deliver { f with tickers := f.tickers.insert id t' })
        | none =>
          match t.restartsLeft with
          | 0 => none
          | k + 1 =>
            some { f with
              tickers := f.tickers.insert id { t with subscribers := Map.empty, inbox := rest, restartsLeft := k } }
    | none => none
  | .stop id =>
    match f.live id with
    | some t => if t.poisoned then some { f with tickers := f.tickers.insert id { t with alive := false } } else none
    | none => none
  | .tick g =>
    match f.goroutines[g]? with
    | some d =>
      let f := { f with goroutines := f.goroutines.set g { d with i := d.i + 1 } }
      match f.market.tickers.get? d.symbol with
      | some pid => some (f.deliver (pid, .market (.ticker d.symbol (testPrice d.symbol d.i))))
      | none => some f
    | none => none
  | .quit g =>
    match f.goroutines[g]? with
    | some _ => if f.market.stopped then some { f with goroutines := f.goroutines.eraseIdx g } else none
    | none => none
  | .spawnOther id => some (f.add id)
  | .stopOther id => if id ∈ f.others then some { f with others := f.others.erase id } else none

def run (f : Feed) : List FeedStep → Option Feed
  | [] => some f
  | st :: sts => (f.step st).bind (·.run sts)

/-- What one step can do. -/
theorem step_eq_some {f f' : Feed} {st : FeedStep} (hs : f.step st = some f') :
    (∃ m, st = .arrive m ∧ f' = { f with marketInbox := f.marketInbox ++ [m] }) ∨
    (∃ n m rest, st = .market n ∧ f.marketInbox = m :: rest ∧
      { f with marketInbox := rest }.marketReceive n m = some f') ∨
    (∃ id t m rest t' sends, st = .ticker id ∧ f.live id = some t ∧ t.inbox = m :: rest ∧
      { t with inbox := rest }.receive m = some (t', sends) ∧
      f' = sends.foldl deliver { f with tickers := f.tickers.insert id t' }) ∨
    (∃ id t m rest k, st = .ticker id ∧ f.live id = some t ∧ t.inbox = m :: rest ∧
      { t with inbox := rest }.receive m = none ∧ t.restartsLeft = k + 1 ∧
      f' = { f with
        tickers := f.tickers.insert id { t with subscribers := Map.empty, inbox := rest, restartsLeft := k } }) ∨
    (∃ id t, st = .stop id ∧ f.live id = some t ∧ t.poisoned ∧
      f' = { f with tickers := f.tickers.insert id { t with alive := false } }) ∨
    (∃ g d pid, st = .tick g ∧ f.goroutines[g]? = some d ∧ f.market.tickers.get? d.symbol = some pid ∧
      f' = { f with goroutines := f.goroutines.set g { d with i := d.i + 1 } }.deliver
        (pid, .market (.ticker d.symbol (testPrice d.symbol d.i)))) ∨
    (∃ g d, st = .tick g ∧ f.goroutines[g]? = some d ∧ f.market.tickers.get? d.symbol = none ∧
      f' = { f with goroutines := f.goroutines.set g { d with i := d.i + 1 } }) ∨
    (∃ g, st = .quit g ∧ f.market.stopped ∧ f' = { f with goroutines := f.goroutines.eraseIdx g }) ∨
    (∃ id, st = .spawnOther id ∧ f' = f.add id) ∨
    (∃ id, st = .stopOther id ∧ id ∈ f.others ∧ f' = { f with others := f.others.erase id }) := by
  cases st with
  | arrive m => exact .inl ⟨m, rfl, (Option.some.inj hs).symm⟩
  | market n =>
    simp only [step] at hs
    split at hs
    · cases hs
    · exact .inr <| .inl ⟨n, _, _, rfl, ‹_›, hs⟩
  | ticker id =>
    simp only [step] at hs
    split at hs
    · split at hs
      · cases hs
      · split at hs
        · cases hs
          exact .inr <| .inr <| .inl ⟨id, _, _, _, _, _, rfl, ‹_›, ‹_›, ‹_›, rfl⟩
        · split at hs
          · cases hs
          · cases hs
            exact .inr <| .inr <| .inr <| .inl ⟨id, _, _, _, _, rfl, ‹_›, ‹_›, ‹_›, ‹_›, rfl⟩
    · cases hs
  | stop id =>
    simp only [step] at hs
    split at hs
    · split_ifs at hs with hp
      cases hs
      exact .inr <| .inr <| .inr <| .inr <| .inl ⟨id, _, rfl, ‹_›, hp, rfl⟩
    · cases hs
  | tick g =>
    simp only [step] at hs
    split at hs
    · split at hs
      · cases hs
        exact .inr <| .inr <| .inr <| .inr <| .inr <| .inl ⟨g, _, _, rfl, ‹_›, ‹_›, rfl⟩
      · cases hs
        exact .inr <| .inr <| .inr <| .inr <| .inr <| .inr <| .inl ⟨g, _, rfl, ‹_›, ‹_›, rfl⟩
    · cases hs
  | quit g =>
    simp only [step] at hs
    split at hs
    · split_ifs at hs with hst
      cases hs
      exact .inr <| .inr <| .inr <| .inr <| .inr <| .inr <| .inr <| .inl ⟨g, rfl, hst, rfl⟩
    · cases hs
  | spawnOther id => exact .inr <| .inr <| .inr <| .inr <| .inr <| .inr <| .inr <| .inr <| .inl ⟨id, rfl, (Option.some.inj hs).symm⟩
  | stopOther id =>
    simp only [step] at hs
    split_ifs at hs with hid
    cases hs
    exact .inr <| .inr <| .inr <| .inr <| .inr <| .inr <| .inr <| .inr <| .inr ⟨id, rfl, hid, rfl⟩

/-- What MarketData can do with one message. -/
theorem marketReceive_eq_some {f f' : Feed} {n : Nat} {m : FeedMsg} (hr : f.marketReceive n m = some f') :
    (m = .stopped ∧ f' = { f with market := { f.market with stopped := true } }) ∨
    (∃ s, m = .subscribeTicker s ∧ f' = f.subscribeTicker n s) ∨
    (∃ s q pid, m = .subscribeWithStrategy s q ∧ (f.subscribeTicker n s).market.tickers.get? s = some pid ∧
      f' = (f.subscribeTicker n s).deliver (pid, .registerStrategy q)) ∨
    (∃ s q, m = .subscribeWithStrategy s q ∧ f' = f.subscribeTicker n s) ∨
    (∃ s, m = .unsubscribeTicker s ∧ f' = f.unsubscribeTicker s) ∨
    (∃ s p pid, m = .market (.ticker s p) ∧ f.market.tickers.get? s = some pid ∧
      f' = f.deliver (pid, .market (.ticker s p))) ∨
    f' = f := by
  cases m with
  | stopped =>
    simp only [marketReceive] at hr
    split_ifs at hr
    cases hr
    exact .inl ⟨rfl, rfl⟩
  | subscribeTicker s => cases hr; exact .inr <| .inl ⟨s, rfl, rfl⟩
  | subscribeWithStrategy s q =>
    simp only [marketReceive] at hr
    split at hr <;> cases hr
    · exact .inr <| .inr <| .inl ⟨s, q, _, rfl, ‹_›, rfl⟩
    · exact .inr <| .inr <| .inr <| .inl ⟨s, q, rfl, rfl⟩
  | unsubscribeTicker s => cases hr; exact .inr <| .inr <| .inr <| .inr <| .inl ⟨s, rfl, rfl⟩
  | market u =>
    cases u with
    | ticker s p =>
      simp only [marketReceive] at hr
      split at hr <;> cases hr
      · exact .inr <| .inr <| .inr <| .inr <| .inr <| .inl ⟨s, p, _, rfl, ‹_›, rfl⟩
      · exact .inr <| .inr <| .inr <| .inr <| .inr <| .inr rfl
    | kline => cases hr; exact .inr <| .inr <| .inr <| .inr <| .inr <| .inr rfl
  | started | registerStrategy _ => cases hr; exact .inr <| .inr <| .inr <| .inr <| .inr <| .inr rfl

/-- The induction over a run, for an invariant every step keeps when its step
is of a given kind. -/
theorem run_invariant (P : Feed → Prop) (Q : FeedStep → Prop)
    (hstep : ∀ {f st f'}, P f → Q st → f.step st = some f' → P f') :
    ∀ {steps : List FeedStep} {f f'}, (∀ st ∈ steps, Q st) → P f → f.run steps = some f' → P f'
  | [], _, _, _, h, hr => Option.some.inj hr ▸ h
  | st :: _, f, _, hq, h, hr => by
    obtain ⟨g, hs, hr⟩ := Option.bind_eq_some.1 hr
    exact run_invariant P Q hstep (fun st hst => hq st (List.mem_cons_of_mem _ hst))
      (hstep h (hq st (List.mem_cons_self _ _)) hs) hr

end Feed

/-! ## Ticker IDs -/

theorem digitChar_ne_slash : ∀ d < 10, Nat.digitChar d ≠ '/' := by decide

theorem slash_not_mem_toDigitsCore (fuel n : Nat) {acc : List Char} (h : '/' ∉ acc) :
    '/' ∉ Nat.toDigitsCore 10 fuel n acc := by
  induction fuel generalizing n acc with
  | zero => exact h
  | succ fuel ih =>
    have hd : '/' ∉ Nat.digitChar (n % 10) :: acc :=
      List.not_mem_cons_of_ne_of_not_mem (digitChar_ne_slash _ (Nat.mod_lt n (by decide))).symm h
    show '/' ∉ if n / 10 = 0 then _ else Nat.toDigitsCore 10 fuel (n / 10) (Nat.digitChar (n % 10) :: acc)
    split_ifs
    · exact hd
    · exact ih _ hd

/-- `strconv.Itoa` writes no `/`. -/
theorem slash_not_mem_toString (n : Nat) : '/' ∉ (toString n).data :=
  slash_not_mem_toDigitsCore (n + 1) n (List.not_mem_nil _)

/-- A list is cut at the last place `a` stands. -/
theorem eq_of_append_cons_eq {α : Type} {a : α} :
    ∀ {l₁ l₂ d₁ d₂ : List α}, l₁ ++ a :: d₁ = l₂ ++ a :: d₂ → a ∉ d₁ → a ∉ d₂ → l₁ = l₂
  | [], [], _, _, _, _, _ => rfl
  | [], _ :: _, _, _, h, h₁, _ => by
    simp only [List.nil_append, List.cons_append, List.cons.injEq] at h
    exact absurd (h.2 ▸ List.mem_append_right _ (List.mem_cons_self _ _)) h₁
  | _ :: _, [], _, _, h, _, h₂ => by
    simp only [List.nil_append, List.cons_append, List.cons.injEq] at h
    exact absurd (h.2.symm ▸ List.mem_append_right _ (List.mem_cons_self _ _)) h₂
  | _ :: _, _ :: _, _, _, h, h₁, h₂ => by
    simp only [List.cons_append, List.cons.injEq] at h
    rw [h.1, eq_of_append_cons_eq h.2 h₁ h₂]

/-- Two ticker IDs are equal only for the same symbol, whatever the symbols
hold: the last `/` ends the symbol. -/
theorem tickerID_symbol {s₁ s₂ : String} {n₁ n₂ : Nat} (h : tickerID s₁ n₁ = tickerID s₂ n₂) :
    s₁ = s₂ := by
  have h := congrArg String.data h
  simp only [tickerID, String.data_append, List.append_assoc, List.append_cancel_left_eq] at h
  exact String.ext (eq_of_append_cons_eq h (slash_not_mem_toString n₁) (slash_not_mem_toString n₂))

/-- A ticker ID starts with `t`. -/
theorem ne_tickerID {id : String} (h : id.data.head? ≠ some 't') (s : String) (n : Nat) :
    id ≠ tickerID s n := by
  rintro rfl
  exact h rfl

/-! ## Isolation -/

/-- What the ticker for `symbol` may be sent: updates for `symbol`, and
strategies that subscribed to it. -/
def ForSymbol (Sub : String → Actor.PID → Prop) (symbol : String) : FeedMsg → Prop
  | .market m => m.symbol = symbol
  | .registerStrategy (.pid q) => Sub symbol q
  | _ => True

variable {Sub : String → Actor.PID → Prop}

/-- A ticker under an ID for its own symbol, holding only strategies
subscribed to that symbol and sent only what is for it. -/
structure Ticker.Isolated (Sub : String → Actor.PID → Prop) (id : String) (t : Ticker) : Prop where
  named : ∃ n, id = tickerID t.symbol n
  subscribers : ∀ k q, t.subscribers.get? k = some q → Sub t.symbol q
  inbox : ∀ m ∈ t.inbox, ForSymbol Sub t.symbol m

/-- What a ticker does with a message meant for it: it keeps its invariant,
and sends only updates for its symbol, to its subscribers. -/
theorem Ticker.Isolated.receive {t t' : Ticker} {id : String} {m : FeedMsg} {sends}
    (h : t.Isolated Sub id) (hm : ForSymbol Sub t.symbol m) (hr : t.receive m = some (t', sends)) :
    t'.Isolated Sub id ∧ ∀ x ∈ sends, ∃ u, x.2 = .market u ∧ Sub u.symbol x.1 := by
  cases m with
  | registerStrategy q =>
    cases q with
    | pid q =>
      simp only [Ticker.receive, AnyPID.assert, Except.toOption] at hr
      obtain ⟨⟩ := hr
      refine ⟨{ h with subscribers := fun k q' hk => ?_ }, List.forall_mem_nil _⟩
      rw [Map.get?_insert] at hk
      split_ifs at hk
      · cases hk; exact hm
      · exact h.subscribers k q' hk
    | other => simp only [Ticker.receive, AnyPID.assert, Except.toOption] at hr; cases hr
  | market u =>
    obtain ⟨⟩ := hr
    refine ⟨h, fun x hx => ?_⟩
    obtain ⟨q, hq, rfl⟩ := List.mem_map.1 hx
    obtain ⟨k, hk⟩ := Map.mem_values _ hq
    exact ⟨u, rfl, (hm : u.symbol = t.symbol) ▸ h.subscribers k q hk⟩
  | _ => obtain ⟨⟩ := hr; exact ⟨h, List.forall_mem_nil _⟩

namespace Feed

/-- The feed's invariant: its tickers are isolated; MarketData keeps for each
symbol a local PID with a ticker's ID for that symbol; neither MarketData nor
another process holds a ticker's ID; and every subscription waiting at
MarketData, and everything that has left the feed, is for a subscriber. -/
structure Isolated (Sub : String → Actor.PID → Prop) (f : Feed) : Prop where
  tickers : ∀ id t, f.tickers.get? id = some t → t.Isolated Sub id
  market : ∀ s p, f.market.tickers.get? s = some p → p.address = f.address ∧ ∃ n, p.id = tickerID s n
  marketID : ∀ s n, f.marketPID.id ≠ tickerID s n
  others : ∀ id ∈ f.others, ∀ s n, id ≠ tickerID s n
  marketInbox : ∀ s q, FeedMsg.subscribeWithStrategy s (.pid q) ∈ f.marketInbox → Sub s q
  elsewhere : ∀ x ∈ f.elsewhere, ∃ m, x.2 = .market m ∧ Sub m.symbol x.1

variable {f : Feed}

theorem get?_of_live {id : String} {t : Ticker} (h : f.live id = some t) : f.tickers.get? id = some t :=
  (Option.filter_eq_some.1 h).1

theorem Isolated.live (h : f.Isolated Sub) {id t} (hl : f.live id = some t) : t.Isolated Sub id :=
  h.tickers id t (get?_of_live hl)

theorem Isolated.insert (h : f.Isolated Sub) {id t} (ht : t.Isolated Sub id) :
    { f with tickers := f.tickers.insert id t }.Isolated Sub :=
  { h with
    tickers := fun k u hk => by
      rw [Map.get?_insert] at hk
      split_ifs at hk with hki
      · cases hk; exact hki ▸ ht
      · exact h.tickers k u hk }

/-- What a send must be for the invariant to hold once `deliver` has put it
where it goes. -/
structure Lands (Sub : String → Actor.PID → Prop) (f : Feed) (s : Actor.PID × FeedMsg) : Prop where
  market : ∀ sym q, s.2 = .subscribeWithStrategy sym (.pid q) → s.1.id = f.marketPID.id → Sub sym q
  ticker : ∀ t, f.live s.1.id = some t → ForSymbol Sub t.symbol s.2
  elsewhere : s.1.address ≠ f.address ∨ s.1.id ∈ f.others → ∃ m, s.2 = .market m ∧ Sub m.symbol s.1

theorem Isolated.deliver (h : f.Isolated Sub) {s} (hl : Lands Sub f s) : (f.deliver s).Isolated Sub := by
  by_cases ha : s.1.address ≠ f.address
  · rw [Feed.deliver, if_pos ha]
    exact { h with elsewhere := List.forall_mem_append.2 ⟨h.elsewhere, List.forall_mem_singleton.2 (hl.elsewhere (.inl ha))⟩ }
  by_cases hm : s.1.id = f.marketPID.id
  · rw [Feed.deliver, if_neg ha, if_pos hm]
    exact { h with
      marketInbox := fun sym q hq => (List.mem_append.1 hq).elim (h.marketInbox sym q)
        fun hq => hl.market sym q (List.mem_singleton.1 hq).symm hm }
  rw [Feed.deliver, if_neg ha, if_neg hm]
  cases hl' : f.live s.1.id with
  | some t =>
    have ht := h.live hl'
    exact h.insert ⟨ht.named, ht.subscribers,
      List.forall_mem_append.2 ⟨ht.inbox, List.forall_mem_singleton.2 (hl.ticker t hl')⟩⟩
  | none =>
    dsimp only
    split_ifs with ho
    · exact { h with elsewhere := List.forall_mem_append.2 ⟨h.elsewhere, List.forall_mem_singleton.2 (hl.elsewhere (.inr ho))⟩ }
    · exact { h with }

/-- A send MarketData or a goroutine makes to the PID it keeps for a symbol
lands at the ticker for that symbol, if anywhere. -/
theorem Isolated.lands_ticker (h : f.Isolated Sub) {symbol p m}
    (hp : f.market.tickers.get? symbol = some p) (hm : ForSymbol Sub symbol m) : Lands Sub f (p, m) := by
  obtain ⟨ha, n, hn⟩ := h.market symbol p hp
  refine ⟨fun _ _ _ hmk => absurd (hmk.symm.trans hn) (h.marketID symbol n), fun t ht => ?_,
    fun ho => ho.elim (absurd ha) fun hmem => absurd hn (h.others p.id hmem symbol n)⟩
  obtain ⟨n', hn'⟩ := (h.live ht).named
  exact tickerID_symbol (hn.symm.trans hn') ▸ hm

/-- An update a ticker sends a subscriber of its symbol lands outside the feed
or at MarketData, if anywhere. -/
theorem Isolated.lands_subscriber (hSub : ∀ s q, Sub s q → ∀ sym n, q.id ≠ tickerID sym n)
    (h : f.Isolated Sub) {x : Actor.PID × FeedMsg} (hx : ∃ m, x.2 = .market m ∧ Sub m.symbol x.1) :
    Lands Sub f x := by
  obtain ⟨m, hm, hq⟩ := hx
  refine ⟨fun _ _ hmk => absurd (hm.symm.trans hmk) FeedMsg.noConfusion, fun t ht => ?_, fun _ => ⟨m, hm, hq⟩⟩
  obtain ⟨n, hn⟩ := (h.live ht).named
  exact absurd hn (hSub _ _ hq _ _)

theorem Isolated.deliverAll (hSub : ∀ s q, Sub s q → ∀ sym n, q.id ≠ tickerID sym n)
    {sends : List (Actor.PID × FeedMsg)} (hs : ∀ x ∈ sends, ∃ m, x.2 = .market m ∧ Sub m.symbol x.1) :
    ∀ {f : Feed}, f.Isolated Sub → (sends.foldl Feed.deliver f).Isolated Sub := by
  induction sends with
  | nil => exact id
  | cons x xs ih =>
    intro f h
    exact ih (fun y hy => hs y (List.mem_cons_of_mem _ hy))
      (h.deliver (h.lands_subscriber hSub (hs x (List.mem_cons_self _ _))))

theorem Isolated.spawn (h : f.Isolated Sub) (pid : Actor.PID) (symbol : String) {n : Nat}
    (hid : pid.id = tickerID symbol n) : (f.spawn pid symbol).Isolated Sub := by
  unfold Feed.spawn
  split
  · exact { h with }
  · exact h.insert ⟨⟨n, hid⟩, fun _ _ hk => Option.noConfusion hk, List.forall_mem_nil _⟩

theorem Isolated.add (h : f.Isolated Sub) {id : String} (hid : ∀ s n, id ≠ tickerID s n) :
    (f.add id).Isolated Sub := by
  unfold Feed.add
  split
  · exact { h with }
  · exact { h with others := List.forall_mem_append.2 ⟨h.others, List.forall_mem_singleton.2 hid⟩ }

theorem Isolated.poison (h : f.Isolated Sub) (pid : Actor.PID) : (f.poison pid).Isolated Sub := by
  unfold Feed.poison
  split
  · rename_i t ht
    have ht := h.live ht
    exact h.insert ⟨ht.named, ht.subscribers, ht.inbox⟩
  · exact { h with }

theorem Isolated.subscribeTicker (h : f.Isolated Sub) (n : Nat) (symbol : String) :
    (f.subscribeTicker n symbol).Isolated Sub := by
  unfold Feed.subscribeTicker
  split
  · exact h
  · have hs : Isolated Sub { f.spawn ⟨f.address, tickerID symbol n⟩ symbol with
        market := { f.market with tickers := f.market.tickers.insert symbol ⟨f.address, tickerID symbol n⟩ } } :=
      { h.spawn _ symbol rfl with
        market := fun s p hp => by
          rw [Map.get?_insert] at hp
          split_ifs at hp with hsy
          · cases hp; exact ⟨rfl, n, hsy ▸ rfl⟩
          · exact h.market s p hp }
    dsimp only
    split
    · exact { hs with }
    · exact hs

theorem Isolated.unsubscribeTicker (h : f.Isolated Sub) (symbol : String) :
    (f.unsubscribeTicker symbol).Isolated Sub := by
  unfold Feed.unsubscribeTicker
  split
  · rename_i pid _
    exact { h.poison pid with
      market := fun s p hp => h.market s p (by rw [Map.get?_erase] at hp; split_ifs at hp; exact hp) }
  · exact h

theorem Isolated.marketReceive (h : f.Isolated Sub) {n : Nat} {m : FeedMsg} {f' : Feed}
    (hm : ∀ s q, m = .subscribeWithStrategy s (.pid q) → Sub s q) (hr : f.marketReceive n m = some f') :
    f'.Isolated Sub := by
  rcases marketReceive_eq_some hr with ⟨-, rfl⟩ | ⟨s, -, rfl⟩ | ⟨s, q, pid, rfl, hp, rfl⟩ | ⟨s, q, -, rfl⟩ |
      ⟨s, -, rfl⟩ | ⟨s, p, pid, -, hp, rfl⟩ | rfl
  · exact { h with }
  · exact h.subscribeTicker n s
  · have hs := h.subscribeTicker n s
    refine hs.deliver (hs.lands_ticker hp ?_)
    cases q with
    | pid q => exact hm s q rfl
    | other => trivial
  · exact h.subscribeTicker n s
  · exact h.unsubscribeTicker s
  · exact h.deliver (h.lands_ticker hp rfl)
  · exact h

end Feed

/-- A step from outside the feed that keeps it isolated: a subscription only
for a subscriber, and no process spawned outside the feed under a ticker's
ID. -/
def Admits (Sub : String → Actor.PID → Prop) : FeedStep → Prop
  | .arrive (.subscribeWithStrategy s (.pid q)) => Sub s q
  | .spawnOther id => ∀ s n, id ≠ tickerID s n
  | _ => True

namespace Feed

variable {f : Feed}

/-- One step keeps the feed isolated, if no subscriber holds a ticker's ID. -/
theorem Isolated.step (hSub : ∀ s q, Sub s q → ∀ sym n, q.id ≠ tickerID sym n)
    (h : f.Isolated Sub) {st : FeedStep} {f' : Feed} (hq : Admits Sub st) (hs : f.step st = some f') :
    f'.Isolated Sub := by
  rcases step_eq_some hs with ⟨m, rfl, rfl⟩ | ⟨n, m, rest, rfl, hin, hr⟩ |
      ⟨id, t, m, rest, t', sends, rfl, ht, hin, hr, rfl⟩ | ⟨id, t, m, rest, k, rfl, ht, hin, -, -, rfl⟩ |
      ⟨id, t, rfl, ht, -, rfl⟩ | ⟨g, d, pid, rfl, -, hp, rfl⟩ | ⟨g, d, rfl, -, -, rfl⟩ | ⟨g, rfl, -, rfl⟩ |
      ⟨id, rfl, rfl⟩ | ⟨id, rfl, -, rfl⟩
  · exact { h with
      marketInbox := fun s q hsq => (List.mem_append.1 hsq).elim (h.marketInbox s q)
        fun hsq => by cases List.mem_singleton.1 hsq; exact hq }
  · have hm : ∀ x ∈ m :: rest, ∀ s q, x = .subscribeWithStrategy s (.pid q) → Sub s q :=
      fun x hx s q he => h.marketInbox s q (hin ▸ he ▸ hx)
    exact Isolated.marketReceive (f := { f with marketInbox := rest })
      { h with marketInbox := fun s q hsq => hm _ (List.mem_cons_of_mem _ hsq) s q rfl }
      (hm m (List.mem_cons_self _ _)) hr
  · have ht := h.live ht
    have hin : ∀ x ∈ m :: rest, x ∈ t.inbox := fun x hx => hin ▸ hx
    obtain ⟨ht', hsends⟩ := Ticker.Isolated.receive (t := { t with inbox := rest })
      ⟨ht.named, ht.subscribers, fun m' hm' => ht.inbox m' (hin m' (List.mem_cons_of_mem _ hm'))⟩
      (ht.inbox m (hin m (List.mem_cons_self _ _))) hr
    exact Isolated.deliverAll hSub hsends (h.insert ht')
  · have ht := h.live ht
    exact h.insert ⟨ht.named, fun _ _ hk => Option.noConfusion hk,
      fun m' hm' => ht.inbox m' (hin ▸ List.mem_cons_of_mem _ hm')⟩
  · have ht := h.live ht
    exact h.insert ⟨ht.named, ht.subscribers, ht.inbox⟩
  · have h' : Isolated Sub { f with goroutines := f.goroutines.set g { d with i := d.i + 1 } } := { h with }
    exact h'.deliver (h'.lands_ticker hp rfl)
  · exact { h with }
  · exact { h with }
  · exact h.add hq
  · exact { h with others := fun x hx => h.others x (List.mem_of_mem_erase hx) }

/-- Along every run of admitted steps the feed stays isolated. -/
theorem Isolated.run (hSub : ∀ s q, Sub s q → ∀ sym n, q.id ≠ tickerID sym n)
    {steps : List FeedStep} (hq : ∀ st ∈ steps, Admits Sub st) (h : f.Isolated Sub) {f' : Feed}
    (hr : f.run steps = some f') : f'.Isolated Sub :=
  run_invariant (Isolated Sub) (Admits Sub) (fun h hq hs => h.step hSub hq hs) hq h hr

theorem isolated_new {address marketID : String} {testMode : Bool} (hm : ∀ s n, marketID ≠ tickerID s n) :
    (Feed.new address marketID testMode).Isolated Sub :=
  ⟨fun _ _ h => Option.noConfusion h, fun _ _ h => Option.noConfusion h, hm, List.forall_mem_nil _,
    fun _ _ h => (List.not_mem_nil _ h).elim, List.forall_mem_nil _⟩

end Feed

/-- Along every run of MarketData, its tickers and goroutines, from a new
MarketData whose ID and every ID spawned outside the feed are no ticker's, in
which no strategy subscribing holds a ticker's ID, all that leaves the feed is
market updates, each to a strategy that subscribed to the update's symbol
with `SubscribeWithStrategy`: a ticker is never sent another symbol's updates
or strategies, even after an unsubscribe and a new subscription. -/
theorem updates_reach_subscribers (address marketID : String) (testMode : Bool)
    (hm : ∀ s n, marketID ≠ tickerID s n) {steps : List FeedStep}
    (hs : ∀ s q, FeedStep.arrive (.subscribeWithStrategy s (.pid q)) ∈ steps → ∀ sym n, q.id ≠ tickerID sym n)
    (ho : ∀ id, FeedStep.spawnOther id ∈ steps → ∀ s n, id ≠ tickerID s n)
    {f : Feed} (hr : (Feed.new address marketID testMode).run steps = some f) :
    ∀ x ∈ f.elsewhere, ∃ m, x.2 = FeedMsg.market m ∧
      FeedStep.arrive (.subscribeWithStrategy m.symbol (.pid x.1)) ∈ steps := by
  have hq : ∀ st ∈ steps, Admits (fun s q => FeedStep.arrive (.subscribeWithStrategy s (.pid q)) ∈ steps) st := by
    rintro (m | _ | _ | _ | _ | _ | id | _) hst
    · rcases m with (_ | _ | _ | ⟨s, _ | _⟩ | _ | _ | _) <;> trivial
    all_goals first | trivial | exact ho id hst
  exact (Feed.Isolated.run hs hq (Feed.isolated_new hm) hr).elsewhere

def btcStrategy : Actor.PID := ⟨"local", "strategy-rsi/3"⟩
def ethStrategy : Actor.PID := ⟨"local", "strategy-ma/4"⟩

/-- Two strategies are spawned and subscribe, to `BTC/USDT` and `ETH/USDT`;
MarketData spawns both tickers, which take in their strategies; each
goroutine ticks once, and each ticker passes its update on. -/
def twoStrategies : List FeedStep :=
  [.spawnOther btcStrategy.id, .spawnOther ethStrategy.id,
    .arrive (.subscribeWithStrategy "BTC/USDT" (.pid btcStrategy)),
    .arrive (.subscribeWithStrategy "ETH/USDT" (.pid ethStrategy)),
    .market 7, .market 8, .ticker (tickerID "BTC/USDT" 7), .ticker (tickerID "ETH/USDT" 8),
    .tick 0, .tick 1, .ticker (tickerID "BTC/USDT" 7), .ticker (tickerID "ETH/USDT" 8)]

theorem updates_reach_subscribers_twoStrategies :
    ∃ f, (Feed.new "local" "market-data/2" true).run twoStrategies = some f ∧ f.elsewhere.length = 2 ∧
      ∀ x ∈ f.elsewhere, ∃ m, x.2 = FeedMsg.market m ∧
        FeedStep.arrive (.subscribeWithStrategy m.symbol (.pid x.1)) ∈ twoStrategies :=
  have hm : ∀ s n, "market-data/2" ≠ tickerID s n := ne_tickerID (by decide)
  have hs : ∀ s q, FeedStep.arrive (.subscribeWithStrategy s (.pid q)) ∈ twoStrategies →
      ∀ sym n, q.id ≠ tickerID sym n := by
    intro s q hq
    simp only [twoStrategies, List.mem_cons, FeedStep.arrive.injEq, FeedMsg.subscribeWithStrategy.injEq,
      AnyPID.pid.injEq, reduceCtorEq, List.mem_nil_iff, or_false, false_or] at hq
    rcases hq with ⟨-, rfl⟩ | ⟨-, rfl⟩ <;> exact ne_tickerID (by decide)
  have ho : ∀ id, FeedStep.spawnOther id ∈ twoStrategies → ∀ s n, id ≠ tickerID s n := by
    intro id hid
    simp only [twoStrategies, List.mem_cons, FeedStep.spawnOther.injEq, reduceCtorEq, List.mem_nil_iff,
      or_false, false_or] at hid
    rcases hid with rfl | rfl <;> exact ne_tickerID (by decide)
  ⟨_, rfl, rfl, updates_reach_subscribers "local" "market-data/2" true hm hs ho rfl⟩

end Trading
