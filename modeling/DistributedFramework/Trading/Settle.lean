import DistributedFramework.Trading.Orders

/-! Quiet desks, where every order is filled.

With the executor for `binance` registered and in test mode, the order
manager sends every order it creates to it, and the goroutine the executor
starts reports the order `open` and then `filled`. Nothing reorders the two:
the goroutine sends them in turn, and the order manager's inbox is first in,
first out. So once the desk is quiet, with both inboxes empty and every
goroutine done, the order manager has written `filled` with the whole
quantity into every order it holds.

The hypotheses are what the argument needs: no `CancelOrder` (handled after
the fill, its `canceled` update overwrites the filled order); the `binance`
executor registered again only with its own PID; no strategy registered under
the order manager's PID (the order manager would forward each update to
itself and handle it twice); every registration holding a PID and every ID
`generateOrderID` draws at least 8 bytes long, as `UnixNano()` and `-` make
it. Under the last two neither actor panics: a registration of another value
makes the order manager panic, and the order manager its restart brings up
knows no executor, so an order it creates later stays pending.

Proved here:

* `fillsFor_set`: a goroutine sending its next update takes it off the front
  of the updates still to come for its order;
* `Settles.step`, `Settles.run`: for each ID, the updates the order manager
  has still to handle for it are a tail of the fill of the order stored under
  it, and none if it stores no order; no step restarts either actor;
* `quiet_desk_filled`: so along every run from a desk with the executor
  registered, in which no cancel arrives, registrations hold PIDs and
  `generateOrderID` draws distinct IDs of at least 8 bytes, a quiet desk holds
  only filled orders. -/

namespace Trading
open Go

/-! ## The updates still to come -/

/-- Two goroutines that hold no update for the same order. -/
def Apart (g h : List OrderUpdate) : Prop :=
  ∀ u ∈ g, ∀ v ∈ h, u.orderID ≠ v.orderID

/-- The updates for order `id` the goroutines have still to send. -/
def fillsFor (id : String) (fills : List (List OrderUpdate)) : List OrderUpdate :=
  fills.flatMap fun g => g.filter fun u => u.orderID = id

@[simp] theorem fillsFor_nil (id : String) : fillsFor id [] = [] := rfl

@[simp] theorem fillsFor_cons (id : String) (g : List OrderUpdate) (gs : List (List OrderUpdate)) :
    fillsFor id (g :: gs) = g.filter (fun u => u.orderID = id) ++ fillsFor id gs :=
  List.flatMap_cons _ _ _

@[simp] theorem fillsFor_append (id : String) (gs gs' : List (List OrderUpdate)) :
    fillsFor id (gs ++ gs') = fillsFor id gs ++ fillsFor id gs' :=
  List.flatMap_append _ _ _

theorem mem_fillsFor {id : String} {fills : List (List OrderUpdate)} {u : OrderUpdate} :
    u ∈ fillsFor id fills ↔ ∃ g ∈ fills, u ∈ g ∧ u.orderID = id := by
  simp [fillsFor]

@[simp] theorem filter_fillUpdates (o : Order) (id : String) :
    (Executor.fillUpdates o).filter (fun u => u.orderID = id) =
      if o.id = id then Executor.fillUpdates o else [] := by
  by_cases h : o.id = id <;> simp [Executor.fillUpdates, h]

/-- Goroutine `i` sending its next update `u` takes `u` off the front of the
updates still to come for `u`'s order, and leaves those of every other order
as they are. -/
theorem fillsFor_set {fills : List (List OrderUpdate)} (hp : fills.Pairwise Apart) {i : Nat}
    {u : OrderUpdate} {us : List OrderUpdate} (hi : fills[i]? = some (u :: us)) (id : String) :
    fillsFor id fills = (if u.orderID = id then [u] else []) ++ fillsFor id (fills.set i us) := by
  induction fills generalizing i with
  | nil => cases hi
  | cons g gs ih =>
    rw [List.pairwise_cons] at hp
    cases i with
    | zero =>
      simp only [List.getElem?_cons_zero, Option.some.injEq] at hi
      subst hi
      by_cases hu : u.orderID = id <;> simp [hu]
    | succ j =>
      rw [List.getElem?_cons_succ] at hi
      rw [List.set_cons_succ, fillsFor_cons, fillsFor_cons, ih hp.2 hi]
      by_cases hu : u.orderID = id
      · have hg : g.filter (fun v => v.orderID = id) = [] := List.filter_eq_nil_iff.mpr fun v hv hvu =>
          hp.1 _ (List.getElem?_mem hi) v hv u (List.mem_cons_self _ _) (by simpa [hu] using hvu)
        simp [hu, hg]
      · simp [hu]

/-- The goroutine that sends stays apart from the others. -/
theorem apart_set {fills : List (List OrderUpdate)} (hp : fills.Pairwise Apart) {i : Nat}
    {u : OrderUpdate} {us : List OrderUpdate} (hi : fills[i]? = some (u :: us)) :
    (fills.set i us).Pairwise Apart := by
  induction fills generalizing i with
  | nil => cases hi
  | cons g gs ih =>
    rw [List.pairwise_cons] at hp
    cases i with
    | zero =>
      simp only [List.getElem?_cons_zero, Option.some.injEq] at hi
      subst hi
      exact List.pairwise_cons.mpr ⟨fun h hh v hv => hp.1 h hh v (List.mem_cons_of_mem _ hv), hp.2⟩
    | succ j =>
      rw [List.getElem?_cons_succ] at hi
      refine List.pairwise_cons.mpr ⟨fun h hh => ?_, ih hp.2 hi⟩
      rcases List.mem_or_eq_of_mem_set hh with hh | rfl
      · exact hp.1 h hh
      · exact fun v hv w hw => hp.1 _ (List.getElem?_mem hi) v hv w (List.mem_cons_of_mem _ hw)

/-- The update `u`, if it is for order `id`. -/
def updateFor (id : String) : Msg → Option OrderUpdate
  | .orderUpdate u => if u.orderID = id then some u else none
  | _ => none

/-- The order `o`, if it is a copy of order `id`. -/
def orderFor (id : String) : Msg → Option Order
  | .order o => if o.id = id then some o else none
  | _ => none

@[simp] theorem updateFor_msg (id : String) (m : Outside) : updateFor id m.msg = none := by
  cases m <;> rfl

/-- The updates for order `id` the order manager has still to handle, in the
order it will handle them: those in its inbox, then those the goroutines have
still to send, then those of the goroutines the executor will start for the
copies of the order in its inbox. -/
def Desk.future (d : Desk) (id : String) : List OrderUpdate :=
  d.managerInbox.filterMap (updateFor id) ++ fillsFor id d.fills ++
    (d.executorInbox.filterMap (orderFor id)).flatMap Executor.fillUpdates

/-- The updates `us` still to come for order `o` are a tail of its fill, and
once none is left the order is filled with its whole quantity. -/
def OnTrack (o : Order) (us : List OrderUpdate) : Prop :=
  us <:+ Executor.fillUpdates o ∧ (us = [] → o.status = "filled" ∧ o.filledQty = o.quantity)

theorem onTrack_fillUpdates (o : Order) : OnTrack o (Executor.fillUpdates o) :=
  ⟨List.suffix_refl _, by simp [Executor.fillUpdates]⟩

/-- The order manager handling the next update of an order keeps it on
track: `open` leaves the `filled` update to come, and `filled` fills it. -/
theorem OnTrack.next {o : Order} {u : OrderUpdate} {us : List OrderUpdate} (h : OnTrack o (u :: us)) :
    OnTrack { o with status := u.status, filledQty := u.filledQty } us := by
  have hs := h.1
  simp only [Executor.fillUpdates, List.suffix_cons_iff, List.cons.injEq, List.suffix_nil,
    reduceCtorEq, or_false] at hs
  rcases hs with ⟨rfl, rfl⟩ | ⟨rfl, rfl⟩
  · exact ⟨List.suffix_cons _ _, fun h => (List.cons_ne_nil _ _ h).elim⟩
  · exact ⟨List.nil_suffix, fun _ => ⟨rfl, rfl⟩⟩

/-! ## A settling desk -/

/-- A message that keeps the desk settling: no cancel, registrations that
hold PIDs, the `binance` executor registered only with its own PID, and no
strategy under the order manager's PID. -/
def Settling (managerPID executorPID : Actor.PID) : Msg → Prop
  | .registerExecutor exchange pid => ∃ p, pid = .pid p ∧ (exchange = "binance" → p = executorPID)
  | .registerStrategy strategyPID _ => ∃ p, strategyPID = .pid p ∧ p ≠ managerPID
  | .cancelOrder _ => False
  | _ => True

/-- A map after `symbols` are inserted with value `pid` holds `pid` or what
it held. -/
theorem Map.get?_foldl_insert {symbols : List String} {pid q : Actor.PID} {k : String} :
    ∀ {m : Map String Actor.PID}, (symbols.foldl (fun m s => m.insert s pid) m).get? k = some q →
      q = pid ∨ m.get? k = some q := by
  induction symbols with
  | nil => exact .inr
  | cons s symbols ih =>
    intro m h
    rcases ih h with h | h
    · exact .inl h
    · rw [Go.Map.get?_insert] at h
      split_ifs at h
      · cases h; exact .inl rfl
      · exact .inr h

namespace Desk
variable {d d' : Desk}

/-- The desk settles: the executor stays the test-mode executor registered
for `binance` and reporting to the order manager; no strategy is the order
manager; every message the order manager has still to handle keeps this so;
the executor is never asked to cancel; no two goroutines fill the same order;
every order is on track, with nothing to come for an ID no order has; and
every order is stored under an ID of at least 8 bytes. -/
structure Settles (d : Desk) : Prop where
  pids : d.managerPID ≠ d.executorPID
  testMode : d.executor.testMode = true
  reports : d.executor.orderManager = d.managerPID
  registered : d.manager.executors.get? "binance" = some d.executorPID
  strategies : ∀ sym pid, d.manager.strategies.get? sym = some pid → pid ≠ d.managerPID
  managerInbox : ∀ m ∈ d.managerInbox, Settling d.managerPID d.executorPID m
  executorInbox : ∀ id, .cancelOrder id ∉ d.executorInbox
  apart : d.fills.Pairwise Apart
  unknown : ∀ id, d.manager.orders.get? id = none → d.future id = []
  known : ∀ id o, d.manager.orders.get? id = some o → OnTrack o (d.future id)
  long : ∀ id o, d.manager.orders.get? id = some o → 8 ≤ id.utf8ByteSize

/-- The order manager taking `m` off its inbox takes `m`, if it is an update
for `id`, off the front of the updates to come for `id`. -/
theorem future_managerPop {m : Msg} {rest : List Msg} (hin : d.managerInbox = m :: rest) (id : String) :
    d.future id = (updateFor id m).toList ++ (rest.filterMap (updateFor id) ++ fillsFor id d.fills ++
      (d.executorInbox.filterMap (orderFor id)).flatMap Executor.fillUpdates) := by
  cases hm : updateFor id m <;> simp [future, hin, hm]

theorem deliver_to_executor (h : d.managerPID ≠ d.executorPID) (m : Msg) :
    d.deliver (d.executorPID, m) = { d with executorInbox := d.executorInbox ++ [m] } := by
  simp [deliver, Ne.symm h]

/-- Delivering updates to PIDs other than the order manager's leaves the desk
settling. -/
theorem Settles.deliverUpdates (sends : List (Actor.PID × Msg)) :
    ∀ d : Desk, d.Settles → (∀ s ∈ sends, s.1 ≠ d.managerPID ∧ ∃ u, s.2 = .orderUpdate u) →
      (sends.foldl Desk.deliver d).Settles := by
  induction sends with
  | nil => exact fun _ h _ => h
  | cons s sends ih =>
    intro d h hs
    obtain ⟨hne, u, hu⟩ := hs s (List.mem_cons_self _ _)
    have hd : (d.deliver s).Settles := by
      unfold Desk.deliver
      rw [if_neg hne]
      split_ifs
      · have hfut : ({ d with executorInbox := d.executorInbox ++ [s.2] } : Desk).future = d.future :=
          funext fun id => by simp [future, hu, orderFor]
        exact { h with
          executorInbox := fun id hc => by
            rcases List.mem_append.mp hc with hc | hc
            · exact h.executorInbox id hc
            · rw [List.mem_singleton, hu] at hc; cases hc
          unknown := hfut ▸ h.unknown
          known := hfut ▸ h.known }
      · exact { h with }
    refine ih _ hd fun s' hs' => ?_
    rw [deliver_managerPID]
    exact hs s' (List.mem_cons_of_mem _ hs')

/-- The order manager handling a message that is no update, changes no order
and sends nothing keeps the desk settling, when its executors and strategies
still do. -/
theorem Settles.pop (h : d.Settles) {m : Msg} {rest : List Msg} (hin : d.managerInbox = m :: rest)
    (hm : ∀ id, updateFor id m = none) {om : OrderManager} (ho : om.orders = d.manager.orders)
    (hreg : om.executors.get? "binance" = some d.executorPID)
    (hstr : ∀ sym pid, om.strategies.get? sym = some pid → pid ≠ d.managerPID) :
    ({ d with manager := om, managerInbox := rest } : Desk).Settles := by
  have hfut : ({ d with manager := om, managerInbox := rest } : Desk).future = d.future :=
    funext fun id => by rw [future_managerPop hin, hm]; rfl
  exact { h with
    registered := hreg
    strategies := hstr
    managerInbox := fun m' hm' => h.managerInbox m' (hin ▸ List.mem_cons_of_mem _ hm')
    unknown := by rw [hfut, ho]; exact h.unknown
    known := by rw [hfut, ho]; exact h.known
    long := by rw [ho]; exact h.long }

/-- The order manager handling its oldest message keeps the desk settling,
when the ID it draws is no order's ID and has at least 8 bytes. -/
theorem Settles.manager (h : d.Settles) {id : String} {m : Msg} {rest : List Msg} {om : OrderManager}
    {sends : List (Actor.PID × Msg)} (hin : d.managerInbox = m :: rest)
    (hr : d.manager.receive id m = .ok (om, sends)) (hid : d.manager.orders.get? id = none)
    (hlong : 8 ≤ id.utf8ByteSize) :
    (sends.foldl deliver { d with manager := om, managerInbox := rest }).Settles := by
  have hm := h.managerInbox m (hin ▸ List.mem_cons_self _ _)
  have hrest : ∀ m' ∈ rest, Settling d.managerPID d.executorPID m' :=
    fun m' hm' => h.managerInbox m' (hin ▸ List.mem_cons_of_mem _ hm')
  have hpop := future_managerPop hin
  cases m with
  | registerExecutor exchange pid =>
    cases pid with
    | other => cases hr
    | pid p =>
      cases hr
      obtain ⟨_, ⟨⟩, hb⟩ := hm
      refine h.pop hin (fun _ => rfl) rfl ?_ h.strategies
      rw [Map.get?_insert]
      split_ifs with he
      · exact congrArg some (hb he.symm)
      · exact h.registered
  | registerStrategy pid symbols =>
    cases pid with
    | other => cases hr
    | pid p =>
      cases hr
      obtain ⟨_, ⟨⟩, hne⟩ := hm
      refine h.pop hin (fun _ => rfl) rfl h.registered fun sym q hq => ?_
      rcases Map.get?_foldl_insert hq with rfl | hq
      · exact hne
      · exact h.strategies sym q hq
  | signal s =>
    obtain ⟨rfl, rfl⟩ := OrderManager.receive_signal hr
    have hsend : d.manager.sendToExecutor (createOrder s id) = [(d.executorPID, .order (createOrder s id))] := by
      simp [OrderManager.sendToExecutor, createOrder, h.registered]
    rw [hsend, List.foldl_cons, List.foldl_nil,
      deliver_to_executor (d := { d with manager := _, managerInbox := rest }) h.pids]
    simp only [updateFor, Option.toList, List.nil_append] at hpop
    have hex : ∀ k, k ≠ id → (d.executorInbox ++ [Msg.order (createOrder s id)]).filterMap (orderFor k) =
        d.executorInbox.filterMap (orderFor k) := fun k hk => by
      simp [orderFor, createOrder, Ne.symm hk]
    refine { h with
      managerInbox := hrest
      executorInbox := fun k hc => by
        rcases List.mem_append.mp hc with hc | hc
        · exact h.executorInbox k hc
        · simp at hc
      unknown := fun k hk => ?_
      known := fun k o hk => ?_
      long := fun k o hk => ?_ }
    · rw [Map.get?_insert] at hk
      split_ifs at hk with hki
      have := h.unknown k hk
      rw [hpop] at this
      simpa only [future, hex k hki] using this
    · rw [Map.get?_insert] at hk
      split_ifs at hk with hki
      · cases hk
        subst hki
        have := h.unknown k hid
        rw [hpop] at this
        simp only [List.append_eq_nil] at this
        convert onTrack_fillUpdates (createOrder s k) using 1
        simp [future, orderFor, createOrder, this]
      · have := h.known k o hk
        rw [hpop] at this
        simpa only [future, hex k hki] using this
    · rw [Map.get?_insert] at hk
      split_ifs at hk with hki
      · exact hki ▸ hlong
      · exact h.long k o hk
  | orderUpdate u =>
    rcases OrderManager.receive_orderUpdate hr with ⟨hn, rfl, rfl⟩ | ⟨o, ho, rfl, hs⟩
    · have := h.unknown _ hn
      rw [hpop] at this
      simp [updateFor] at this
    · refine Settles.deliverUpdates sends _ ?_ fun s hs' => ⟨h.strategies _ _ (hs s hs').1, u, (hs s hs').2⟩
      refine { h with
        managerInbox := hrest
        unknown := fun k hk => ?_
        known := fun k o₁ hk => ?_
        long := fun k o₁ hk => ?_ }
      · rw [Map.get?_insert] at hk
        split_ifs at hk with hki
        have := h.unknown k hk
        rwa [hpop, show updateFor k (.orderUpdate u) = none from if_neg (Ne.symm hki)] at this
      · rw [Map.get?_insert] at hk
        split_ifs at hk with hki
        · cases hk
          subst hki
          have := h.known _ _ ho
          rw [hpop] at this
          simp only [updateFor, if_pos, Option.toList, List.singleton_append] at this
          exact this.next
        · have := h.known k o₁ hk
          rwa [hpop, show updateFor k (.orderUpdate u) = none from if_neg (Ne.symm hki)] at this
      · rw [Map.get?_insert] at hk
        split_ifs at hk with hki
        · exact hki ▸ h.long _ _ ho
        · exact h.long k o₁ hk
  | cancelOrder _ => exact hm.elim
  | started | stopped | order _ => cases hr; exact h.pop hin (fun _ => rfl) rfl h.registered h.strategies

/-- The executor handling its oldest message keeps the desk settling: the
goroutine it starts for a copy of an order holds the updates the order
manager expects next for it, and no other goroutine holds one for it. -/
theorem Settles.executor (h : d.Settles) {m : Msg} {rest : List Msg} {sends : List (Actor.PID × Msg)}
    {gs : List (List OrderUpdate)} (hin : d.executorInbox = m :: rest)
    (hr : d.executor.receive m = .ok (sends, gs)) :
    (sends.foldl deliver { d with executorInbox := rest, fills := d.fills ++ gs }).Settles := by
  have hrest : ∀ k, .cancelOrder k ∉ rest := fun k hc =>
    h.executorInbox k (hin ▸ List.mem_cons_of_mem _ hc)
  cases m with
  | order o =>
    obtain ⟨rfl, rfl⟩ := Executor.receive_order hr
    rw [if_pos h.testMode, List.foldl_nil]
    have hfut : ({ d with executorInbox := rest, fills := d.fills ++ [Executor.fillUpdates o] } : Desk).future =
        d.future :=
      funext fun k => by by_cases hk : o.id = k <;> simp [future, hin, orderFor, hk]
    have hnone : fillsFor o.id d.fills = [] := by
      have hlen : (d.future o.id).length ≤ 2 := by
        cases ho : d.manager.orders.get? o.id with
        | none => rw [h.unknown _ ho]; simp
        | some o₀ => simpa [Executor.fillUpdates] using (h.known _ _ ho).1.length_le
      simp [future, hin, orderFor, Executor.fillUpdates] at hlen
      exact List.length_eq_zero.mp (by omega)
    refine { h with
      executorInbox := hrest
      apart := List.pairwise_append.mpr ⟨h.apart, List.pairwise_singleton _ _, fun g hg b hb => ?_⟩
      unknown := hfut ▸ h.unknown
      known := hfut ▸ h.known }
    rw [List.mem_singleton.mp hb]
    intro v hv w hw hvw
    have hw : w.orderID = o.id := by
      simp only [Executor.fillUpdates, List.mem_cons, List.mem_singleton, List.not_mem_nil, or_false] at hw
      rcases hw with rfl | rfl <;> rfl
    exact List.not_mem_nil v (hnone ▸ mem_fillsFor.mpr ⟨g, hg, hv, hvw.trans hw⟩)
  | cancelOrder k => exact absurd (hin ▸ List.mem_cons_self _ _) (h.executorInbox k)
  | _ =>
    cases hr
    rw [List.foldl_nil]
    have hfut : ({ d with executorInbox := rest, fills := d.fills ++ [] } : Desk).future = d.future :=
      funext fun k => by simp [future, hin, orderFor]
    exact { h with
      executorInbox := hrest
      apart := by rw [List.append_nil]; exact h.apart
      unknown := hfut ▸ h.unknown
      known := hfut ▸ h.known }

/-- A goroutine sending its next update keeps the desk settling: the update
joins the order manager's inbox behind every update for its order before it. -/
theorem Settles.fill (h : d.Settles) {i : Nat} {u : OrderUpdate} {us : List OrderUpdate}
    (hg : d.fills[i]? = some (u :: us)) :
    (Desk.deliver { d with fills := d.fills.set i us } (d.executor.orderManager, .orderUpdate u)).Settles := by
  have hd : Desk.deliver { d with fills := d.fills.set i us } (d.executor.orderManager, .orderUpdate u) =
      { d with fills := d.fills.set i us, managerInbox := d.managerInbox ++ [.orderUpdate u] } := by
    simp [Desk.deliver, h.reports]
  have hfut : ({ d with fills := d.fills.set i us, managerInbox := d.managerInbox ++ [.orderUpdate u] } :
      Desk).future = d.future :=
    funext fun k => by by_cases hk : u.orderID = k <;> simp [future, updateFor, fillsFor_set h.apart hg k, hk]
  rw [hd]
  exact { h with
    managerInbox := List.forall_mem_append.mpr ⟨h.managerInbox, List.forall_mem_singleton.mpr trivial⟩
    apart := apart_set h.apart hg
    unknown := hfut ▸ h.unknown
    known := hfut ▸ h.known }

/-- A copy of an order waiting at the executor is of an order the order
manager holds: its fill is still to come. -/
theorem Settles.held_of_order (h : d.Settles) {o : Order} (ho : .order o ∈ d.executorInbox) :
    ∃ o₀, d.manager.orders.get? o.id = some o₀ := by
  cases hg : d.manager.orders.get? o.id with
  | some o₀ => exact ⟨o₀, rfl⟩
  | none =>
    have hnil := h.unknown _ hg
    simp only [future, List.append_eq_nil, List.flatMap_eq_nil_iff] at hnil
    have := hnil.2 o (List.mem_filterMap.mpr ⟨_, ho, by simp [orderFor]⟩)
    simp [Executor.fillUpdates] at this

/-- On a settling desk the order manager does not panic: every registration
holds a PID, the ID drawn has at least 8 bytes, and so has every ID it stores
an order under. -/
theorem Settles.manager_no_panic (h : d.Settles) {id : String} {m : Msg} {rest : List Msg}
    (hin : d.managerInbox = m :: rest) (hlong : 8 ≤ id.utf8ByteSize) {e : GoPanic}
    (hr : d.manager.receive id m = .error e) : False := by
  have hm := h.managerInbox m (hin ▸ List.mem_cons_self _ _)
  rcases OrderManager.receive_eq_error hr with ⟨_, rfl⟩ | ⟨_, rfl⟩ | ⟨-, hl⟩ | ⟨u, o, -, ho, hl⟩
  · obtain ⟨_, ⟨⟩, -⟩ := hm
  · obtain ⟨_, ⟨⟩, -⟩ := hm
  · omega
  · have := h.long _ _ ho
    omega

/-- Nor does the executor: it is asked for no cancel, and every copy of an
order it is sent is of an order stored under an ID of at least 8 bytes. -/
theorem Settles.executor_no_panic (h : d.Settles) {m : Msg} {rest : List Msg}
    (hin : d.executorInbox = m :: rest) {e : GoPanic} (hr : d.executor.receive m = .error e) : False := by
  have hmem : m ∈ d.executorInbox := hin ▸ List.mem_cons_self _ _
  rcases Executor.receive_eq_error hr with ⟨o, rfl, hl⟩ | ⟨k, rfl, -⟩
  · obtain ⟨o₀, ho⟩ := h.held_of_order hmem
    have := h.long _ _ ho
    omega
  · exact h.executorInbox k hmem

/-- Every step keeps the desk settling, when what arrives keeps it so and the
ID the step draws is no order's ID and has at least 8 bytes; no step restarts
either actor. -/
theorem Settles.step (h : d.Settles) {st : Step}
    (hq : ∀ m, st = .arrive m → Settling d.managerPID d.executorPID m.msg)
    (hl : ∀ k, st.drawn = some k → 8 ≤ k.utf8ByteSize)
    (hf : ∀ k, st.drawn = some k → d.manager.orders.get? k = none) (hs : d.step st = some d') :
    d'.Settles := by
  rcases step_eq_some hs with ⟨m, rfl, rfl⟩ | ⟨id, m, rest, om, sends, rfl, hin, hr, rfl⟩ |
    ⟨id, m, rest, e, k, rfl, hin, hr, -, -⟩ | ⟨m, rest, sends, gs, rfl, hin, hr, rfl⟩ |
    ⟨m, rest, e, k, rfl, hin, hr, -, -⟩ | ⟨i, u, us, rfl, hg, rfl⟩
  · have hfut : ({ d with managerInbox := d.managerInbox ++ [m.msg] } : Desk).future = d.future :=
      funext fun k => by simp [future]
    exact { h with
      managerInbox := List.forall_mem_append.mpr ⟨h.managerInbox, List.forall_mem_singleton.mpr (hq m rfl)⟩
      unknown := hfut ▸ h.unknown
      known := hfut ▸ h.known }
  · exact h.manager hin hr (hf id rfl) (hl id rfl)
  · exact (h.manager_no_panic hin (hl id rfl) hr).elim
  · exact h.executor hin hr
  · exact (h.executor_no_panic hin hr).elim
  · exact h.fill hg

/-- Along every run whose arrivals keep the desk settling and whose draws are
distinct, of at least 8 bytes and not in `ids`, which holds every ID an order
is stored under at its start, the desk keeps settling. -/
theorem Settles.run (h : d.Settles) {ids : List String} (hk : Keys ids d) {steps : List Step}
    (hq : ∀ m, Step.arrive m ∈ steps → Settling d.managerPID d.executorPID m.msg)
    (hl : ∀ k ∈ steps.filterMap Step.drawn, 8 ≤ k.utf8ByteSize)
    (hd : (ids ++ steps.filterMap Step.drawn).Nodup) (hr : d.run steps = some d') : d'.Settles :=
  (run_invariant
    (fun ids t => t.Settles ∧ Keys ids t ∧ t.managerPID = d.managerPID ∧ t.executorPID = d.executorPID)
    (fun st => (∀ m, st = .arrive m → Settling d.managerPID d.executorPID m.msg) ∧
      ∀ k, st.drawn = some k → 8 ≤ k.utf8ByteSize)
    (fun ⟨ht, hk, hm, he⟩ hst hf hs => ⟨ht.step (by rw [hm, he]; exact hst.1) hst.2
      (fun k h' => hk.get?_eq_none (hf k h')) hs, hk.step hs, (step_pids hs).1.trans hm,
      (step_pids hs).2.trans he⟩)
    (fun st hst => ⟨fun m e => hq m (e ▸ hst), fun k h' => hl k (List.mem_filterMap.mpr ⟨st, hst, h'⟩)⟩)
    hd ⟨h, hk, rfl, rfl⟩ hr).1

/-- Both inboxes empty and every goroutine done: no step but an arrival can
be taken. -/
def Quiet (d : Desk) : Prop :=
  d.managerInbox = [] ∧ d.executorInbox = [] ∧ ∀ g ∈ d.fills, g = []

theorem Quiet.future_nil (h : d.Quiet) (id : String) : d.future id = [] := by
  obtain ⟨h1, h2, h3⟩ := h
  simp only [future, h1, h2, List.filterMap_nil, List.flatMap_nil, List.nil_append, List.append_nil]
  exact List.flatMap_eq_nil_iff.mpr fun g hg => by rw [h3 g hg]; rfl

/-- The desk once `TradingEngine.AddExecutor("binance", ...)` has spawned a
test-mode executor reporting to the order manager, and the order manager has
handled the `RegisterExecutor` it sent. -/
def registered (managerPID executorPID : Actor.PID) : Desk :=
  { Desk.new managerPID executorPID ⟨"binance", managerPID, true⟩ with
    manager := { OrderManager.new with executors := Map.empty.insert "binance" executorPID } }

theorem settles_registered {managerPID executorPID : Actor.PID} (hne : managerPID ≠ executorPID) :
    (registered managerPID executorPID).Settles where
  pids := hne
  testMode := rfl
  reports := rfl
  registered := Map.get?_insert_self _ _ _
  strategies := fun _ _ h => (nomatch h)
  managerInbox := List.forall_mem_nil _
  executorInbox := fun _ => List.not_mem_nil _
  apart := List.Pairwise.nil
  unknown := fun _ _ => rfl
  known := fun _ _ h => (nomatch h)
  long := fun _ _ h => (nomatch h)

/-- The registered desk's order manager holds no order yet. -/
theorem keys_registered (managerPID executorPID : Actor.PID) : Keys [] (registered managerPID executorPID) :=
  fun _ h => by simp [registered, OrderManager.new] at h

end Desk

/-- Along every run from a desk with the `binance` executor registered, in
which no cancel arrives, every registration holds a PID, the executor is
registered again only with its own PID, no strategy registers under the order
manager's PID, and `generateOrderID` draws distinct IDs of at least 8 bytes,
a quiet desk holds only orders filled with their whole quantity. -/
theorem quiet_desk_filled (managerPID executorPID : Actor.PID) (hne : managerPID ≠ executorPID)
    {steps : List Step} (hq : ∀ m, Step.arrive m ∈ steps → Settling managerPID executorPID m.msg)
    (hl : ∀ k ∈ steps.filterMap Step.drawn, 8 ≤ k.utf8ByteSize)
    (hd : (steps.filterMap Step.drawn).Nodup) {d : Desk}
    (hr : (Desk.registered managerPID executorPID).run steps = some d) (hquiet : d.Quiet) :
    ∀ id o, d.manager.orders.get? id = some o → o.status = "filled" ∧ o.filledQty = o.quantity :=
  fun id o ho =>
    (((Desk.settles_registered hne).run (Desk.keys_registered _ _) hq hl (by simpa using hd) hr).known id o ho).2
      (hquiet.future_nil id)

def testStrategy : Actor.PID := ⟨"local", "strategy-rsi/1"⟩

/-- A strategy registers for `BTC/USDT`, a buy is approved, and the desk runs
until it is quiet; the order manager forwards both updates to the strategy. -/
def buySettles : List Step :=
  [.arrive (.registerStrategy (.pid testStrategy) ["BTC/USDT"]), .arrive (.signal ⟨"BTC/USDT", .buy, 50000, 1⟩),
    .manager "order-0001", .manager "order-0002", .executor, .fill 0, .fill 0,
    .manager "order-0003", .manager "order-0004"]

theorem quiet_desk_filled_buySettles :
    testManager ≠ testExecutor ∧
      (∀ m, Step.arrive m ∈ buySettles → Settling testManager testExecutor m.msg) ∧
      (∀ k ∈ buySettles.filterMap Step.drawn, 8 ≤ k.utf8ByteSize) ∧
      (buySettles.filterMap Step.drawn).Nodup ∧
      ∃ d, (Desk.registered testManager testExecutor).run buySettles = some d ∧ d.Quiet ∧
        ∀ id o, d.manager.orders.get? id = some o → o.status = "filled" ∧ o.filledQty = o.quantity :=
  have hne : testManager ≠ testExecutor := by decide
  have hq : ∀ m, Step.arrive m ∈ buySettles → Settling testManager testExecutor m.msg := by
    intro m hm
    simp only [buySettles, List.mem_cons, Step.arrive.injEq, reduceCtorEq, List.mem_nil_iff, or_false,
      false_or] at hm
    rcases hm with rfl | rfl
    · exact ⟨testStrategy, rfl, by decide⟩
    · trivial
  have hl : ∀ k ∈ buySettles.filterMap Step.drawn, 8 ≤ k.utf8ByteSize := by decide
  have hd : (buySettles.filterMap Step.drawn).Nodup := by decide
  have hquiet : Desk.Quiet _ := ⟨rfl, rfl, by decide⟩
  ⟨hne, hq, hl, hd, _, rfl, hquiet, quiet_desk_filled testManager testExecutor hne hq hl hd rfl hquiet⟩

end Trading
