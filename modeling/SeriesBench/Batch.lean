/-!
# Batches and their pool

A batch collects items for one worker. Batches are used again: a pool keeps a bounded
stack of emptied ones, with the room they have grown to. Every batch that a pool hands
out is empty.

Whatever room is made for in advance, that of a batch or of a pool, must fit into half of
the addresses that a word of 64 bits has.
-/

namespace SeriesBench

/-- The most bytes that can be set aside at once. -/
def Memory.limit : Nat := 0x7fffffffffffffff

/-- Whether so many things of so many bytes each can be set aside at once. -/
def Memory.holds (count bytes : Nat) : Bool :=
  count * bytes ≤ limit

/-- Items in arrival order, and the room that is set aside for them. -/
structure Batch (α : Type) where
  items : Array α
  room : Nat
deriving Repr

namespace Batch

variable {α : Type}

/-- An empty batch with the given room. -/
def withRoom (room : Nat) : Batch α :=
  ⟨#[], room⟩

/-- Whether a batch with the given room can be made of items of so many bytes each. -/
def canBeMade (itemBytes room : Nat) : Bool :=
  Memory.holds room itemBytes

/-- The bytes that a batch takes besides its items: where they are, how many there are, and
their room. -/
def headBytes : Nat := 24

/-- How many items there are. -/
def size (b : Batch α) : Nat :=
  b.items.size

/-- The least room of a batch that has to grow at all. -/
def leastRoom : Nat := 4

/-- The room of a batch that holds `size` items and takes one more: doubled when it is
used up, and never below `leastRoom` from then on. -/
def grownRoom (room size : Nat) : Nat :=
  if size < room then room else max leastRoom (max (2 * room) (size + 1))

/-- The batch with one more item. -/
def push (b : Batch α) (item : α) : Batch α :=
  ⟨b.items.push item, grownRoom b.room b.size⟩

/-- The batch without its items; the room stays. -/
def clear (b : Batch α) : Batch α :=
  { b with items := #[] }

/-- The items of a batch, in order, and the batch without them. -/
def drain (b : Batch α) : List α × Batch α :=
  (b.items.toList, b.clear)

/-- An item that is pushed counts one. -/
@[simp] theorem size_push (b : Batch α) (item : α) : (b.push item).size = b.size + 1 := by
  simp [push, size]

/-- A batch that is cleared is empty. -/
@[simp] theorem size_clear (b : Batch α) : b.clear.size = 0 := rfl

/-- A batch that is cleared keeps its room. -/
@[simp] theorem room_clear (b : Batch α) : b.clear.room = b.room := rfl

/-- A batch never has less room after a push. -/
theorem room_le_room_push (b : Batch α) (item : α) : b.room ≤ (b.push item).room := by
  simp only [push, grownRoom]
  split <;> omega

end Batch

/-- A stack of idle batches, of bounded height. -/
structure Pool (α : Type) where
  /-- The room of a batch that is made anew. -/
  freshRoom : Nat
  /-- How many idle batches are kept. -/
  maxIdle : Nat
  /-- The idle batches, the next one to be handed out first. -/
  idle : List (Batch α)
deriving Repr

namespace Pool

variable {α : Type}

/-- A pool without idle batches. -/
def make (freshRoom maxIdle : Nat) : Pool α :=
  ⟨freshRoom, maxIdle, []⟩

/-- Whether a pool can be made that keeps so many idle batches. -/
def canBeMade (maxIdle : Nat) : Bool :=
  Memory.holds maxIdle Batch.headBytes

/-- Whether the next batch can be had: one that is idle, or a new one if there is room. -/
def canAcquire (itemBytes : Nat) (pool : Pool α) : Bool :=
  !pool.idle.isEmpty || Batch.canBeMade itemBytes pool.freshRoom

/-- A batch from the top of the stack, or a new one if the stack is empty. -/
def acquire (pool : Pool α) : Batch α × Pool α :=
  match pool.idle with
  | batch :: rest => (batch, { pool with idle := rest })
  | [] => (.withRoom pool.freshRoom, pool)

/-- Takes a batch back. It is emptied, and kept if the stack is not full. -/
def release (pool : Pool α) (batch : Batch α) : Pool α :=
  if pool.idle.length < pool.maxIdle then { pool with idle := batch.clear :: pool.idle }
  else pool

end Pool

end SeriesBench
