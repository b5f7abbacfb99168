import SeriesBench.Batch
import SeriesBench.Item

/-!
# Batches that are used again

A pool and those who hold its batches, in any order of steps: batches are handed out, made
outside the pool, filled, emptied, given back and thrown away. Whatever happens, the idle batches
are empty and never more than the pool keeps.

What giving back a batch is good for depends on the pool. While it keeps fewer batches than it
may, the batch lies on top and is the next to be handed out, with all its room. A full pool throws
the batch away, and the next one to be handed out is the one that would have been without it,
which may have less room.
-/

namespace SeriesBench

namespace Pool

variable {α : Type}

section

variable {P : Batch α → Prop} {pool : Pool α}

/-- What holds of all idle batches and of a new one holds of the batch that is handed out and of
those that are left. -/
theorem acquire_forall (idle : ∀ batch ∈ pool.idle, P batch)
    (fresh : P (.withRoom pool.freshRoom)) :
    P pool.acquire.1 ∧ ∀ batch ∈ pool.acquire.2.idle, P batch := by
  unfold acquire
  split
  · rename_i batch rest stack
    rw [stack] at idle
    exact ⟨idle batch List.mem_cons_self, fun other member =>
      idle other (List.mem_cons_of_mem _ member)⟩
  · exact ⟨fresh, idle⟩

/-- What holds of all idle batches and of one that is given back, emptied, holds of all idle batches
afterwards. -/
theorem release_forall (idle : ∀ batch ∈ pool.idle, P batch) {given : Batch α}
    (back : P given.clear) : ∀ batch ∈ (pool.release given).idle, P batch := by
  unfold release
  split
  · intro batch member
    rcases List.mem_cons.mp member with rfl | member
    · exact back
    · exact idle batch member
  · exact idle

end

/-- A pool of empty batches hands out an empty one, and has only such left. -/
theorem acquire_idle {pool : Pool α} (idle : ∀ batch ∈ pool.idle, batch.size = 0) :
    pool.acquire.1.size = 0 ∧ ∀ batch ∈ pool.acquire.2.idle, batch.size = 0 :=
  acquire_forall idle rfl

/-- Whatever is given back to a pool of empty batches, it has only such. -/
theorem release_idle {pool : Pool α} (idle : ∀ batch ∈ pool.idle, batch.size = 0)
    (given : Batch α) : ∀ batch ∈ (pool.release given).idle, batch.size = 0 :=
  release_forall idle (Batch.size_clear given)

/-- A pool that is not full hands out the batch that was given back last, emptied, and is as
before. -/
theorem acquire_release_of_room {pool : Pool α} (room : pool.idle.length < pool.maxIdle)
    (given : Batch α) : (pool.release given).acquire = (given.clear, pool) := by
  simp only [release, room, if_true, acquire]

/-- A full pool does not take a batch back. -/
theorem release_of_full {pool : Pool α} (full : pool.maxIdle ≤ pool.idle.length)
    (given : Batch α) : pool.release given = pool := by
  simp only [release, Nat.not_lt.mpr full, if_false]

/-- A pool of the settings it was made with, of empty batches and not too many of them. -/
structure Sound (pool : Pool α) (freshRoom maxIdle : Nat) : Prop where
  fresh : pool.freshRoom = freshRoom
  height : pool.maxIdle = maxIdle
  empty : ∀ batch ∈ pool.idle, batch.size = 0
  bounded : pool.idle.length ≤ maxIdle

/-- A new pool is sound, for it is empty. -/
theorem sound_make (freshRoom maxIdle : Nat) :
    (make freshRoom maxIdle : Pool α).Sound freshRoom maxIdle :=
  ⟨rfl, rfl, by simp [make], by simp [make]⟩

section

variable {pool : Pool α} {freshRoom maxIdle : Nat} (sound : pool.Sound freshRoom maxIdle)

include sound

/-- A pool that gave a batch is sound. -/
theorem Sound.acquire : pool.acquire.2.Sound freshRoom maxIdle := by
  have empty := (acquire_idle sound.empty).2
  have bounded := sound.bounded
  unfold Pool.acquire at empty ⊢
  split
  · rename_i batch rest stack
    rw [stack] at empty bounded
    exact ⟨sound.fresh, sound.height, empty, Nat.le_of_succ_le bounded⟩
  · exact sound

/-- A pool that was given a batch is sound: it empties the batch, and keeps it only if there is a
place for it. -/
theorem Sound.release (given : Batch α) : (pool.release given).Sound freshRoom maxIdle := by
  have empty := release_idle sound.empty given
  unfold Pool.release at empty ⊢
  split
  · rename_i room
    rw [if_pos room] at empty
    exact ⟨sound.fresh, sound.height, empty, sound.height ▸ room⟩
  · exact sound

end

end Pool

/-- A step of somebody who holds batches. A batch is named by its place among all that are held. -/
inductive Handling (α : Type) where
  /-- A batch is asked of the pool. -/
  | acquire
  /-- A batch is made outside the pool. -/
  | make (room : Nat)
  | push (place : Nat) (item : α)
  | clear (place : Nat)
  | drain (place : Nat)
  /-- A batch is given to the pool. -/
  | release (place : Nat)
  /-- A batch is thrown away. -/
  | drop (place : Nat)

/-- A pool, and the batches that are held outside of it. -/
structure Circulation (α : Type) where
  pool : Pool α
  held : List (Batch α)

namespace Circulation

variable {α : Type}

/-- A pool at its beginning, when nobody holds a batch. -/
def start (freshRoom maxIdle : Nat) : Circulation α :=
  ⟨.make freshRoom maxIdle, []⟩

/-- The state after a step; there is none when the step names a place where no batch is. -/
def step (c : Circulation α) : Handling α → Option (Circulation α)
  | .acquire => some ⟨c.pool.acquire.2, c.held ++ [c.pool.acquire.1]⟩
  | .make room => some { c with held := c.held ++ [.withRoom room] }
  | .push place item =>
    c.held[place]?.map fun b => { c with held := c.held.set place (b.push item) }
  | .clear place => c.held[place]?.map fun b => { c with held := c.held.set place b.clear }
  | .drain place => c.held[place]?.map fun b => { c with held := c.held.set place b.drain.2 }
  | .release place => c.held[place]?.map fun b => ⟨c.pool.release b, c.held.eraseIdx place⟩
  | .drop place => c.held[place]?.map fun _ => { c with held := c.held.eraseIdx place }

/-- The state after some steps in turn. -/
def run (c : Circulation α) : List (Handling α) → Option (Circulation α)
  | [] => some c
  | handling :: rest => (c.step handling).bind fun c => c.run rest

/-- A step leaves the pool, or takes a batch from it, or gives one to it. -/
theorem pool_step {c next : Circulation α} {handling : Handling α}
    (stepped : c.step handling = some next) :
    next.pool = c.pool ∨ next.pool = c.pool.acquire.2 ∨ ∃ b, next.pool = c.pool.release b := by
  cases handling with
  | acquire =>
    obtain rfl := Option.some.inj stepped
    exact .inr (.inl rfl)
  | make room =>
    obtain rfl := Option.some.inj stepped
    exact .inl rfl
  | push | clear | drain | drop =>
    obtain ⟨b, -, rfl⟩ := Option.map_eq_some_iff.mp stepped
    exact .inl rfl
  | release place =>
    obtain ⟨b, -, rfl⟩ := Option.map_eq_some_iff.mp stepped
    exact .inr (.inr ⟨b, rfl⟩)

/-- A step of those who hold batches keeps the pool sound. -/
theorem sound_step {c next : Circulation α} {handling : Handling α} {freshRoom maxIdle : Nat}
    (sound : c.pool.Sound freshRoom maxIdle) (stepped : c.step handling = some next) :
    next.pool.Sound freshRoom maxIdle := by
  rcases pool_step stepped with same | taken | ⟨b, given⟩
  · rwa [same]
  · rw [taken]
    exact sound.acquire
  · rw [given]
    exact sound.release b

/-- A pool is sound after any steps of its holders. -/
theorem sound_run {c last : Circulation α} {handlings : List (Handling α)}
    {freshRoom maxIdle : Nat} (sound : c.pool.Sound freshRoom maxIdle)
    (ran : c.run handlings = some last) : last.pool.Sound freshRoom maxIdle := by
  induction handlings generalizing c with
  | nil =>
    obtain rfl := Option.some.inj ran
    exact sound
  | cons handling rest ih =>
    obtain ⟨next, stepped, ran⟩ := Option.bind_eq_some_iff.mp ran
    exact ih (sound_step sound stepped) ran

end Circulation

/-- A batch that is given back to a pool, and the next one handed out, whatever has happened
before. That one is empty. While the pool is not full it is the batch itself, and the pool is as it
was; a full pool hands out what it would have handed out anyway. So no room is lost exactly when
the pool is not full or that other batch has as much.

Proof: a pool is sound after any handlings: what is idle in it is empty, and at most as much as it
keeps. What is given back and taken is then told by cases, whether there was a place for it. -/
theorem Circulation.released_batch_comes_back {α : Type} {freshRoom maxIdle : Nat}
    {handlings : List (Handling α)} {c : Circulation α}
    (ran : (start freshRoom maxIdle).run handlings = some c) (b : Batch α) :
    (c.pool.release b).acquire.1.size = 0 ∧ c.pool.idle.length ≤ maxIdle ∧
      (c.pool.idle.length < maxIdle → (c.pool.release b).acquire = (b.clear, c.pool)) ∧
      (c.pool.idle.length = maxIdle → (c.pool.release b).acquire = c.pool.acquire) ∧
      (b.room ≤ (c.pool.release b).acquire.1.room ↔
        c.pool.idle.length < maxIdle ∨ b.room ≤ c.pool.acquire.1.room) := by
  have sound := sound_run (Pool.sound_make freshRoom maxIdle) ran
  have roomy (room : c.pool.idle.length < maxIdle) :
      (c.pool.release b).acquire = (b.clear, c.pool) :=
    Pool.acquire_release_of_room (sound.height ▸ room) b
  have full (full : c.pool.idle.length = maxIdle) :
      (c.pool.release b).acquire = c.pool.acquire := by
    rw [Pool.release_of_full (Nat.le_of_eq (sound.height.trans full.symm))]
  refine ⟨(Pool.acquire_idle (sound.release b).empty).1, sound.bounded, roomy, full, ?_⟩
  rcases Nat.lt_or_eq_of_le sound.bounded with room | isFull
  · simp [roomy room, room]
  · simp [full isFull, isFull]

/-- A batch for two that took three and is given back has room for four when it comes back. -/
theorem Circulation.grown_batch_comes_back :
    (start 2 1 : Circulation Nat).run [.acquire, .push 0 5, .push 0 6, .push 0 7] =
        some ⟨⟨2, 1, []⟩, [⟨#[5, 6, 7], 4⟩]⟩ ∧
      ((⟨2, 1, []⟩ : Pool Nat).release ⟨#[5, 6, 7], 4⟩).acquire = (⟨#[], 4⟩, ⟨2, 1, []⟩) :=
  have ran : (start 2 1 : Circulation Nat).run [.acquire, .push 0 5, .push 0 6, .push 0 7] =
      some ⟨⟨2, 1, []⟩, [⟨#[5, 6, 7], 4⟩]⟩ := by rfl
  ⟨ran, (released_batch_comes_back ran ⟨#[5, 6, 7], 4⟩).2.2.1 (by decide)⟩

/-- Room can be lost: a pool that keeps one batch, and has one without room, throws a batch with
room for eight away and hands out the other. -/
theorem Circulation.full_pool_loses_room :
    ¬ ∀ (freshRoom maxIdle : Nat) (handlings : List (Handling Nat)) (c : Circulation Nat),
      (start freshRoom maxIdle).run handlings = some c → ∀ b : Batch Nat,
        (c.pool.release b).acquire.1.size = 0 ∧ b.room ≤ (c.pool.release b).acquire.1.room := by
  intro kept
  have roomy := (kept 8 1 [.acquire, .make 0, .release 1]
    ⟨⟨8, 1, [.withRoom 0]⟩, [.withRoom 8]⟩ rfl (.withRoom 8)).2
  exact absurd roomy (by decide)

end SeriesBench
