import DistributedFramework.Go

/-! `ringbuffer/ringbuffer.go`: the growable ring buffer behind every mailbox.
The live elements sit in the slots `head + 1, …, head + len` (mod `mod`) and
`tail` is the slot of the last one. `Push` doubles the capacity when its next
slot would be `head`. The mutex and the atomics only make each operation one
step, so they are not modelled; `Len()` reads the field `len`. -/

namespace Ringbuffer
open Go

/-- The `buffer[T]` record: the slots and the three cursors. -/
structure Buffer (α : Type) where
  items : List α
  head : Nat
  tail : Nat
  mod : Nat
  deriving DecidableEq, Repr

/-- `RingBuffer[T]`: the element count and the current buffer. -/
structure RingBuffer (α : Type) where
  len : Nat
  content : Buffer α
  deriving DecidableEq, Repr

namespace RingBuffer
variable {α : Type} [Inhabited α]

/-- An operation on one ring buffer; a panic keeps the writes made before it. -/
abbrev Op (α : Type) := EStateM GoPanic (RingBuffer α)

/-- `New(size)`. -/
def new (size : Int) : Except GoPanic (RingBuffer α) := do
  let items ← makeSlice size
  pure { content := { items, head := 0, tail := 0, mod := size.toNat }, len := 0 }

/-- The copy loop of `Push`: `newBuff[i] = items[(tail + i) % mod]`. -/
def copyLive (c : Buffer α) (newBuff : List α) : List Nat → Except GoPanic (List α)
  | [] => pure newBuff
  | i :: is => do
    let idx ← goMod (c.tail + i) c.mod
    let newBuff ← store newBuff i (← index c.items idx)
    copyLive c newBuff is

/-- The growth branch of `Push`: twice the capacity, the old slots from `tail`
on copied to offsets `[0, mod)`. -/
def grow (c : Buffer α) : Except GoPanic (Buffer α) := do
  let size := c.mod * 2
  let newBuff ← makeSlice (size : Int)
  let newBuff ← copyLive c newBuff (List.range c.mod)
  pure { items := newBuff, head := 0, tail := c.mod, mod := size }

/-- `Push(item)`. -/
def push (item : α) : Op α Unit := do
  let rb ← get
  let tail ← goMod (rb.content.tail + 1) rb.content.mod
  set { rb with content := { rb.content with tail } }
  let c ← liftExcept <|
    if tail = rb.content.head then grow { rb.content with tail } else pure { rb.content with tail }
  set { rb with content := c, len := rb.len + 1 }
  let items ← store c.items c.tail item
  set { rb with content := { c with items }, len := rb.len + 1 }

/-- `Pop()`: the zero value and `false` on an empty buffer. -/
def pop : Op α (α × Bool) := do
  let rb ← get
  if rb.len = 0 then return (default, false)
  let head ← goMod (rb.content.head + 1) rb.content.mod
  set { rb with content := { rb.content with head } }
  let item ← index rb.content.items head
  let items ← store rb.content.items head default
  set { rb with content := { rb.content with head, items }, len := rb.len - 1 }
  return (item, true)

/-- The loop of `PopN`: `items[i] = content.items[pos]`, then the slot is
cleared, for `pos = (head + 1 + i) % mod`. -/
def popLoop (items : List α) : List Nat → Op α (List α)
  | [] => pure items
  | i :: is => do
    let rb ← get
    let pos ← goMod (rb.content.head + 1 + i) rb.content.mod
    let items ← store items i (← index rb.content.items pos)
    let cells ← store rb.content.items pos default
    set { rb with content := { rb.content with items := cells } }
    popLoop items is

/-- `PopN(n)`: at most `n` elements, `nil` and `false` on an empty buffer. The
count is lowered before `make` can panic on a negative `n`. -/
def popN (n : Int) : Op α (List α × Bool) := do
  let rb ← get
  if rb.len = 0 then return ([], false)
  let n := if n ≥ rb.len then (rb.len : Int) else n
  set { rb with len := (rb.len - n).toNat }
  let items ← makeSlice n
  let items ← popLoop items (List.range n.toNat)
  let rb ← get
  let head ← goMod (rb.content.head + n.toNat) rb.content.mod
  set { rb with content := { rb.content with head } }
  return (items, true)

end RingBuffer
end Ringbuffer
