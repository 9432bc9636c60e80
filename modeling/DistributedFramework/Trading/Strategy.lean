import Mathlib.Algebra.Order.Field.Basic
import Mathlib.Algebra.Order.Field.Rat
import Mathlib.Algebra.Ring.Rat
import Mathlib.Data.List.Chain
import Mathlib.Tactic.NormNum

/-! `trading`: a strategy actor running `MACrossStrategy` or `RSIStrategy`, the
`RiskManagerActor` that checks each signal it emits, and the
`OrderManagerActor` that creates one order per approved signal.

The strategy sends each signal to the risk manager and does not wait for the
result; the risk manager forwards approved signals to the order manager in the
order it checks them. So the orders are the approved signals, in the order the
strategy emitted them; `now` is the clock of the risk manager at each check.
`float64` arithmetic is taken as exact in `ℚ`, with `x / 0 = 0` where Go gives
`NaN` or an infinity (a moving average over a period of `0`, a `TotalCapital`
of `0`); the alternation results below do not depend on the arithmetic, and
the run after them uses values `float64` represents exactly.

Proved here, for every tick sequence and every `RiskConfig`:

* `signals_alternate_orders_sublist`: both strategies emit, for each symbol,
  buy and sell in turn, beginning with buy, whatever their indicators say, and
  the orders are a sublist of the emitted signals;
* `rejected_buy_then_sell`: a buy the risk manager rejects leaves the strategy
  long, so the next signal is a sell, which it may approve: the first order
  for the symbol is a sell;
* `calcRSI_mem_Icc`: the RSI is in `[0, 100]` for every price list and
  period on which `float64` computes exactly. -/

namespace Trading

/-- `Signal.Side`, the strings `"buy"` and `"sell"`. -/
inductive Side where
  | buy
  | sell
  deriving DecidableEq, Repr

/-- The position a signal leaves the strategy in: `"long"` after a buy, `""`
after a sell. -/
def Side.position : Side → String
  | .buy => "long"
  | .sell => ""

/-- `Signal`, without its ID, strategy name, reason text and timestamp. -/
structure Signal where
  symbol : String
  side : Side
  price : ℚ
  quantity : ℚ
  deriving DecidableEq, Repr

/-- The end of `OnTick` in both strategies: a buy when the indicator says buy
and the symbol is not long, otherwise a sell when it says sell and the symbol
is long. -/
def signalOf (buy sell : Bool) (pos : String) : Option Side :=
  if buy ∧ pos ≠ "long" then some .buy
  else if sell ∧ pos = "long" then some .sell
  else none

/-- `MACrossStrategy`; `prices` and `positions` are its maps, read as `nil`
and `""` where unset. -/
structure MACross where
  shortPeriod : Int
  longPeriod : Int
  prices : String → List ℚ
  positions : String → String
  quantity : ℚ

/-- `RSIStrategy`. -/
structure RSI where
  period : Int
  overbought : ℚ
  oversold : ℚ
  prices : String → List ℚ
  positions : String → String
  quantity : ℚ

/-- `calcMA` on the prices of a symbol: the mean of the last `period`. -/
def calcMA (prices : List ℚ) (period : Int) : ℚ :=
  if (prices.length : Int) < period then 0
  else (prices.drop (prices.length - period).toNat).sum / period

/-- `calcRSI` on the prices of a symbol; a change that is not positive adds
its `math.Abs` to the losses. This is Go's value when `float64` computes each
step exactly. Otherwise Go can return `NaN`: for a `NaN` price, for changes
that overflow to infinities of both signs, or when `losses / period`
underflows to `0` while `gains / period` is `0`. -/
def calcRSI (prices : List ℚ) (period : Int) : ℚ :=
  if (prices.length : Int) < period + 1 then 50
  else
    let (gains, losses) := (List.range period.toNat).foldl (fun (acc : ℚ × ℚ) k =>
      let i := prices.length - period.toNat + k
      let change := prices.getD i 0 - prices.getD (i - 1) 0
      if change > 0 then (acc.1 + change, acc.2) else (acc.1, acc.2 - change)) (0, 0)
    if losses = 0 then 100
    else 100 - 100 / (1 + (gains / period) / (losses / period))

/-- A fold over `ℚ × ℚ` whose step keeps both components non-negative, from
`(0, 0)`, ends with both non-negative. -/
theorem nonneg_of_foldl_eq {f : ℚ × ℚ → Nat → ℚ × ℚ}
    (hf : ∀ acc k, 0 ≤ acc.1 → 0 ≤ acc.2 → 0 ≤ (f acc k).1 ∧ 0 ≤ (f acc k).2)
    {ks : List Nat} {g l : ℚ} (h : ks.foldl f (0, 0) = (g, l)) : 0 ≤ g ∧ 0 ≤ l := by
  suffices ∀ (ks : List Nat) acc, 0 ≤ acc.1 → 0 ≤ acc.2 →
      0 ≤ (ks.foldl f acc).1 ∧ 0 ≤ (ks.foldl f acc).2 by
    simpa only [h] using this ks (0, 0) le_rfl le_rfl
  intro ks
  induction ks with
  | nil => exact fun _ h1 h2 => ⟨h1, h2⟩
  | cons k ks ih => exact fun acc h1 h2 => ih _ (hf acc k h1 h2).1 (hf acc k h1 h2).2

/-- The value `calcRSI` computes from its gains and losses is in `[0, 100]`
when both are non-negative, whatever the sign of the period it divides by. -/
theorem rsi_of_nonneg_mem_Icc {g l p : ℚ} (hg : 0 ≤ g) (hl : 0 ≤ l) :
    0 ≤ (if l = 0 then 100 else 100 - 100 / (1 + g / p / (l / p))) ∧
      (if l = 0 then 100 else 100 - 100 / (1 + g / p / (l / p))) ≤ 100 := by
  split
  · exact ⟨Nat.ofNat_nonneg 100, le_rfl⟩
  · have hrs : 0 ≤ g / p / (l / p) := by
      rcases le_total 0 p with hp | hp
      · exact div_nonneg (div_nonneg hg hp) (div_nonneg hl hp)
      · exact div_nonneg_of_nonpos (div_nonpos_of_nonneg_of_nonpos hg hp)
          (div_nonpos_of_nonneg_of_nonpos hl hp)
    have hle : 100 / (1 + g / p / (l / p)) ≤ 100 :=
      div_le_self (Nat.ofNat_nonneg 100) (le_add_of_nonneg_right hrs)
    have hnn : 0 ≤ 100 / (1 + g / p / (l / p)) :=
      div_nonneg (Nat.ofNat_nonneg 100) (add_nonneg zero_le_one hrs)
    exact ⟨sub_nonneg.mpr hle, sub_le_self _ hnn⟩

/-- `calcRSI` computed exactly is in `[0, 100]` for every price list and
every period: the gains add positive changes and the losses subtract the
others, so both stay non-negative, and `100 - 100 / (1 + rs)` with `rs ≥ 0` is
in range. -/
theorem calcRSI_mem_Icc (prices : List ℚ) (period : Int) :
    0 ≤ calcRSI prices period ∧ calcRSI prices period ≤ 100 := by
  unfold calcRSI
  split
  · exact ⟨Nat.ofNat_nonneg 50, Nat.ofNat_le.mpr (by decide)⟩
  · split
    next g l heq =>
      have ⟨hg, hl⟩ := nonneg_of_foldl_eq (fun acc k h1 h2 => by
        dsimp only
        split
        · exact ⟨add_nonneg h1 (le_of_lt ‹_›), h2⟩
        · exact ⟨h1, sub_nonneg.mpr (le_trans (not_lt.mp ‹_›) h2)⟩) heq
      exact rsi_of_nonneg_mem_Icc hg hl

/-- `NewMACrossStrategy`. -/
def newMACrossStrategy (shortPeriod longPeriod : Int) (quantity : ℚ) : MACross :=
  ⟨shortPeriod, longPeriod, fun _ => [], fun _ => "", quantity⟩

/-- `NewRSIStrategy`. -/
def newRSIStrategy (period : Int) (overbought oversold quantity : ℚ) : RSI :=
  ⟨period, overbought, oversold, fun _ => [], fun _ => "", quantity⟩

/-- `MACrossStrategy.OnTick`. -/
def MACross.onTick (s : MACross) (symbol : String) (price : ℚ) : MACross × Option Signal :=
  let ps := s.prices symbol ++ [price]
  let ps := if (ps.length : Int) > s.longPeriod * 2 then ps.drop 1 else ps
  let s := { s with prices := Function.update s.prices symbol ps }
  if (ps.length : Int) < s.longPeriod then (s, none)
  else
    let shortMA := calcMA ps s.shortPeriod
    let longMA := calcMA ps s.longPeriod
    match signalOf (decide (shortMA > longMA)) (decide (shortMA < longMA)) (s.positions symbol) with
    | some side =>
      ({ s with positions := Function.update s.positions symbol side.position },
        some ⟨symbol, side, price, s.quantity⟩)
    | none => (s, none)

/-- `RSIStrategy.OnTick`. -/
def RSI.onTick (s : RSI) (symbol : String) (price : ℚ) : RSI × Option Signal :=
  let ps := s.prices symbol ++ [price]
  let ps := if (ps.length : Int) > s.period * 3 then ps.drop 1 else ps
  let s := { s with prices := Function.update s.prices symbol ps }
  if (ps.length : Int) < s.period + 1 then (s, none)
  else
    let rsi := calcRSI ps s.period
    match signalOf (decide (rsi < s.oversold)) (decide (rsi > s.overbought)) (s.positions symbol) with
    | some side =>
      ({ s with positions := Function.update s.positions symbol side.position },
        some ⟨symbol, side, price, s.quantity⟩)
    | none => (s, none)

/-- The strategy a `StrategyActor` runs. -/
inductive Strategy where
  | maCross (s : MACross)
  | rsi (s : RSI)

/-- What the strategy actor is sent: a `TickerUpdate`, or a `KlineUpdate`,
which both strategies read as a tick at its close. -/
inductive MarketMsg where
  | ticker (symbol : String) (price : ℚ)
  | kline (symbol : String) (close : ℚ)

def MarketMsg.symbol : MarketMsg → String
  | .ticker symbol _ | .kline symbol _ => symbol

def MarketMsg.price : MarketMsg → ℚ
  | .ticker _ price | .kline _ price => price

namespace Strategy

def positions : Strategy → String → String
  | .maCross s => s.positions
  | .rsi s => s.positions

/-- `StrategyActor.Receive` of a market message: `OnTick` (or `OnKline`). -/
def onMarket (st : Strategy) (msg : MarketMsg) : Strategy × Option Signal :=
  match st with
  | .maCross s => let r := s.onTick msg.symbol msg.price; (.maCross r.1, r.2)
  | .rsi s => let r := s.onTick msg.symbol msg.price; (.rsi r.1, r.2)

end Strategy

/-- `RiskConfig`. -/
structure RiskConfig where
  maxPositionPct : ℚ
  maxDailyLoss : ℚ
  maxOrdersPerMin : Int
  maxPositionValue : ℚ
  totalCapital : ℚ

/-- `DefaultRiskConfig`. -/
def defaultRiskConfig : RiskConfig := ⟨1 / 10, 1000, 10, 10000, 100000⟩

/-- `RiskManagerActor`: its config, `dailyPnL` (which no message updates) and
`orderTimes`, in nanoseconds. -/
structure RiskManager where
  config : RiskConfig
  dailyPnL : ℚ
  orderTimes : List Int

/-- `time.Minute` in nanoseconds. -/
def minute : Int := 60 * 1000000000

namespace RiskManager

/-- `cleanOldOrders(now)`: the order times after `now - time.Minute`. -/
def cleanOldOrders (r : RiskManager) (now : Int) : RiskManager :=
  { r with orderTimes := r.orderTimes.filter (· > now - minute) }

/-- `checkRisk(signal)` at time `now`, with `Approved` as its result. -/
def checkRisk (r : RiskManager) (signal : Signal) (now : Int) : RiskManager × Bool :=
  if r.dailyPnL ≤ -r.config.maxDailyLoss then (r, false)
  else
    let r := r.cleanOldOrders now
    if (r.orderTimes.length : Int) ≥ r.config.maxOrdersPerMin then (r, false)
    else
      let positionValue := signal.price * signal.quantity
      if positionValue > r.config.maxPositionValue then (r, false)
      else if positionValue / r.config.totalCapital > r.config.maxPositionPct then (r, false)
      else ({ r with orderTimes := r.orderTimes ++ [now] }, true)

end RiskManager

/-- The strategy, the risk manager, the signals the strategy emitted and the
orders the order manager created, oldest first. -/
structure Pipeline where
  strategy : Strategy
  risk : RiskManager
  emitted : List Signal
  orders : List Signal

/-- A market message for the strategy, and the risk manager's clock when it
checks the signal the message may cause. -/
structure Input where
  msg : MarketMsg
  now : Int

namespace Pipeline

/-- A strategy actor and a risk manager as their producers make them. -/
def new (st : Strategy) (config : RiskConfig) : Pipeline := ⟨st, ⟨config, 0, []⟩, [], []⟩

def step (p : Pipeline) (i : Input) : Pipeline :=
  match p.strategy.onMarket i.msg with
  | (s, none) => { p with strategy := s }
  | (s, some sig) =>
    let (r, approved) := p.risk.checkRisk sig i.now
    ⟨s, r, p.emitted ++ [sig], if approved then p.orders ++ [sig] else p.orders⟩

def run (p : Pipeline) (ins : List Input) : Pipeline := ins.foldl step p

end Pipeline

/-! ## Signals alternate; orders are some of them -/

/-- The side a strategy emits next for a symbol in position `pos`. -/
def expected (pos : String) : Side := if pos = "long" then .sell else .buy

theorem signalOf_eq_some {buy sell : Bool} {pos : String} {side : Side}
    (h : signalOf buy sell pos = some side) : side = expected pos := by
  unfold signalOf at h
  split_ifs at h with h₁ h₂ <;> cases h
  · simp [expected, h₁.2]
  · simp [expected, h₂.2]

/-- What `OnTick` of a strategy does to its positions: nothing, or it emits the
expected side for the symbol and moves the symbol to that side's position. -/
def OnTickSpec (positions positions' : String → String) (quantity : ℚ) (symbol : String)
    (price : ℚ) (sig : Option Signal) : Prop :=
  (sig = none ∧ positions' = positions) ∨
    ∃ side, side = expected (positions symbol) ∧ sig = some ⟨symbol, side, price, quantity⟩ ∧
      positions' = Function.update positions symbol side.position

theorem MACross.onTick_spec (s : MACross) (symbol : String) (price : ℚ) :
    OnTickSpec s.positions (s.onTick symbol price).1.positions s.quantity symbol price
      (s.onTick symbol price).2 := by
  unfold MACross.onTick; dsimp only
  split_ifs <;> try exact .inl ⟨rfl, rfl⟩
  all_goals split
  all_goals first
    | exact .inl ⟨rfl, rfl⟩
    | exact .inr ⟨_, signalOf_eq_some ‹_›, rfl, rfl⟩

theorem RSI.onTick_spec (s : RSI) (symbol : String) (price : ℚ) :
    OnTickSpec s.positions (s.onTick symbol price).1.positions s.quantity symbol price
      (s.onTick symbol price).2 := by
  unfold RSI.onTick; dsimp only
  split_ifs <;> try exact .inl ⟨rfl, rfl⟩
  all_goals split
  all_goals first
    | exact .inl ⟨rfl, rfl⟩
    | exact .inr ⟨_, signalOf_eq_some ‹_›, rfl, rfl⟩

def Strategy.quantity : Strategy → ℚ
  | .maCross s => s.quantity
  | .rsi s => s.quantity

theorem Strategy.onMarket_spec (st : Strategy) (msg : MarketMsg) :
    OnTickSpec st.positions (st.onMarket msg).1.positions st.quantity msg.symbol msg.price
      (st.onMarket msg).2 := by
  cases st with
  | maCross s => exact s.onTick_spec msg.symbol msg.price
  | rsi s => exact s.onTick_spec msg.symbol msg.price

/-- The sides of the signals for `sym`, oldest first. -/
def sidesFor (sym : String) (sigs : List Signal) : List Side :=
  (sigs.filter (·.symbol = sym)).map (·.side)

/-- Buy and sell in turn, beginning with buy. -/
def Alternating (l : List Side) : Prop := l.head? ≠ some .sell ∧ l.Chain' (· ≠ ·)

/-- The strategy is long in `sym` exactly when its last signal for `sym` is a
buy; its signals for `sym` alternate; the orders are some of its signals. -/
structure Tracks (sym : String) (p : Pipeline) : Prop where
  long : p.strategy.positions sym = "long" ↔ (sidesFor sym p.emitted).getLast? = some .buy
  alternating : Alternating (sidesFor sym p.emitted)
  orders : p.orders.Sublist p.emitted

theorem sidesFor_append_singleton (sym : String) (sigs : List Signal) (sig : Signal) :
    sidesFor sym (sigs ++ [sig]) = sidesFor sym sigs ++ if sig.symbol = sym then [sig.side] else [] := by
  by_cases h : sig.symbol = sym <;> simp [sidesFor, h]

/-- A signal of the expected side keeps the signals alternating and the
position in step with the last of them. -/
theorem Alternating.push {sides : List Side} {pos : String} (ha : Alternating sides)
    (hl : pos = "long" ↔ sides.getLast? = some .buy) :
    Alternating (sides ++ [expected pos]) ∧
      ((expected pos).position = "long" ↔ (sides ++ [expected pos]).getLast? = some .buy) := by
  obtain ⟨hh, hc⟩ := ha
  refine ⟨⟨?_, List.chain'_append.mpr ⟨hc, List.chain'_singleton _, ?_⟩⟩, ?_⟩
  · cases sides with
    | nil => simp_all [expected]
    | cons x xs => simpa using hh
  · intro x hx y hy
    simp only [List.head?_cons, Option.mem_def, Option.some.injEq] at hy
    subst hy
    cases x <;> simp_all [expected]
  · cases h : expected pos <;> simp [Side.position]

theorem Tracks.step {sym : String} {p : Pipeline} (h : Tracks sym p) (i : Input) :
    Tracks sym (p.step i) := by
  obtain ⟨hl, ha, ho⟩ := h
  rcases Strategy.onMarket_spec p.strategy i.msg with ⟨hn, hpos⟩ | ⟨side, hside, hsig, hpos⟩
  · have he : p.strategy.onMarket i.msg = ((p.strategy.onMarket i.msg).1, none) := Prod.ext rfl hn
    rw [Pipeline.step, he]
    exact ⟨by rw [hpos]; exact hl, ha, ho⟩
  · have he : p.strategy.onMarket i.msg = ((p.strategy.onMarket i.msg).1,
        some ⟨i.msg.symbol, side, i.msg.price, p.strategy.quantity⟩) := Prod.ext rfl hsig
    rw [Pipeline.step, he]
    dsimp only
    refine ⟨?_, ?_, ?_⟩
    · rw [hpos, sidesFor_append_singleton]
      by_cases hs : i.msg.symbol = sym
      · subst hs; subst hside
        simpa using (ha.push hl).2
      · simpa [Function.update_noteq (Ne.symm hs), hs] using hl
    · rw [sidesFor_append_singleton]
      by_cases hs : i.msg.symbol = sym
      · subst hs; subst hside
        simpa using (ha.push hl).1
      · simpa [hs] using ha
    · split
      · exact ho.append (List.Sublist.refl _)
      · exact ho.trans (List.sublist_append_left _ _)

theorem Tracks.run {sym : String} {p : Pipeline} (h : Tracks sym p) (ins : List Input) :
    Tracks sym (p.run ins) := by
  induction ins generalizing p with
  | nil => exact h
  | cons i ins ih => exact ih (h.step i)

/-- Three ticks of `BTC`, checked by the risk manager one nanosecond apart. -/
def btcTicks : List Input :=
  [⟨.ticker "BTC" 20000, 0⟩, ⟨.ticker "BTC" 30000, 1⟩, ⟨.ticker "BTC" 5000, 2⟩]

/-- For every strategy not long in `sym`, every risk configuration and every
sequence of market messages, the strategy's signals for `sym` alternate buy,
sell, … beginning with buy, and the orders are a sublist of its signals. -/
theorem signals_alternate_orders_sublist (st : Strategy) (config : RiskConfig) (sym : String)
    (hst : st.positions sym ≠ "long") (ins : List Input) :
    Alternating (sidesFor sym ((Pipeline.new st config).run ins).emitted) ∧
      ((Pipeline.new st config).run ins).orders.Sublist ((Pipeline.new st config).run ins).emitted :=
  have h₀ : Tracks sym (Pipeline.new st config) :=
    ⟨by simpa [Pipeline.new, sidesFor] using hst, by simp [Alternating, sidesFor, Pipeline.new],
      List.Sublist.refl _⟩
  ⟨(h₀.run ins).alternating, (h₀.run ins).orders⟩

theorem signals_alternate_on_btc_ticks :
    (Strategy.maCross (newMACrossStrategy 1 2 1)).positions "BTC" ≠ "long" ∧
      Alternating (sidesFor "BTC"
        ((Pipeline.new (.maCross (newMACrossStrategy 1 2 1)) defaultRiskConfig).run btcTicks).emitted) ∧
      ((Pipeline.new (.maCross (newMACrossStrategy 1 2 1)) defaultRiskConfig).run btcTicks).orders.Sublist
        ((Pipeline.new (.maCross (newMACrossStrategy 1 2 1)) defaultRiskConfig).run btcTicks).emitted :=
  have hst : (Strategy.maCross (newMACrossStrategy 1 2 1)).positions "BTC" ≠ "long" := by decide
  ⟨hst, signals_alternate_orders_sublist _ defaultRiskConfig "BTC" hst btcTicks⟩

/-- Under `DefaultRiskConfig`, `MACrossStrategy` with periods 1 and 2 and
quantity 1, on the ticks 20000, 30000, 5000: the buy at 30000 is worth more than
`MaxPositionValue` and is rejected, but the strategy is long from then on; the
sell at 5000 passes and is the first order for the symbol. -/
theorem rejected_buy_then_sell :
    ((Pipeline.new (.maCross (newMACrossStrategy 1 2 1)) defaultRiskConfig).run btcTicks).emitted =
        [⟨"BTC", .buy, 30000, 1⟩, ⟨"BTC", .sell, 5000, 1⟩] ∧
      ((Pipeline.new (.maCross (newMACrossStrategy 1 2 1)) defaultRiskConfig).run btcTicks).orders =
        [⟨"BTC", .sell, 5000, 1⟩] := by
  -- the short average crosses above the long one at 30000, and below it at 5000
  have hup : calcMA [20000, 30000] 2 < calcMA [20000, 30000] 1 := by simp [calcMA]; norm_num
  have hdown : calcMA [20000, 30000, 5000] 1 < calcMA [20000, 30000, 5000] 2 := by
    simp [calcMA]; norm_num
  -- no daily loss; the buy is over `MaxPositionValue`, the sell within both limits
  have hloss : ¬ (1000 : ℚ) ≤ 0 := by norm_num
  have hbig : (10000 : ℚ) < 30000 := by norm_num
  have hsmall : ¬ (10000 : ℚ) < 5000 ∧ ¬ (10⁻¹ : ℚ) < 5000 / 100000 := by norm_num
  simp [btcTicks, Pipeline.run, Pipeline.new, Pipeline.step, Strategy.onMarket, MACross.onTick,
    newMACrossStrategy, MarketMsg.symbol, MarketMsg.price, hup, hdown, hloss, hbig, hsmall, signalOf,
    RiskManager.checkRisk, RiskManager.cleanOldOrders, defaultRiskConfig, Side.position]

end Trading
