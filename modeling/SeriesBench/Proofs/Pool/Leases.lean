import Mathlib.Data.List.Forall2
import SeriesBench.Proofs.Pool.Reuse

/-!
# Whose items are in a batch

Every batch that is held belongs to a lease: it begins when the batch is handed out or made, and
ends when it is given back or thrown away. What a lease put into its batch is told by the steps
alone, and no pool is needed for that.

The main statement is that the pool adds nothing to it. In any order of steps a batch that is held
has exactly the items that its own lease put in since it was last emptied, so an item never gets
from one lease to another, though the same batch may serve many of them. Whatever is given back,
full, grown or made elsewhere, the next batch to be handed out is empty; and it has the room that
the pool promises as long as nothing made elsewhere is given back.
-/

namespace SeriesBench

/-- The time for which a batch is held: where it came from, and the items that were put into it
since it was last emptied. -/
structure Lease (α : Type) where
  ofPool : Bool
  items : List α
deriving Repr, DecidableEq

namespace Lease

variable {α : Type}

/-- The lease of a batch that an item was put into. -/
def put (item : α) (lease : Lease α) : Lease α :=
  { lease with items := lease.items ++ [item] }

/-- The lease of a batch that was emptied. -/
def emptied (lease : Lease α) : Lease α :=
  { lease with items := [] }

/-- The leases after a step, in the order of the batches that are held. No batch is looked at. -/
def afterStep (leases : List (Lease α)) : Handling α → List (Lease α)
  | .acquire => leases ++ [⟨true, []⟩]
  | .make _ => leases ++ [⟨false, []⟩]
  | .push place item => leases.modify place (put item)
  | .clear place | .drain place => leases.modify place emptied
  | .release place | .drop place => leases.eraseIdx place

/-- The leases after some steps in turn. -/
def afterSteps (leases : List (Lease α)) (handlings : List (Handling α)) : List (Lease α) :=
  handlings.foldl afterStep leases

/-- Whether a step gives nothing to the pool but a batch that came from it. -/
def returnsOwn (leases : List (Lease α)) : Handling α → Bool
  | .release place => leases[place]?.all ofPool
  | _ => true

/-- Whether none of some steps gives a batch to the pool that was made elsewhere. -/
def onlyOwn (leases : List (Lease α)) : List (Handling α) → Bool
  | [] => true
  | handling :: rest =>
    returnsOwn leases handling && onlyOwn (afterStep leases handling) rest

end Lease

/-- How many batches are idle after a step if there were so many before. -/
def Handling.heightAfter {α : Type} (maxIdle height : Nat) : Handling α → Nat
  | .acquire => height - 1
  | .release _ => min (height + 1) maxIdle
  | _ => height

section

variable {α β : Type} {R : α → β → Prop} {xs : List α} {ys : List β}

/-- What is changed at the same place of two related lists in a related way leaves them related. -/
theorem forall₂_modify (related : List.Forall₂ R xs ys) {f : α → α} {g : β → β}
    (kept : ∀ x y, R x y → R (f x) (g y)) (place : Nat) :
    List.Forall₂ R (xs.modify place f) (ys.modify place g) := by
  induction related generalizing place with
  | nil => simp
  | cons first rest ih =>
    cases place with
    | zero => exact .cons (kept _ _ first) rest
    | succ place => exact .cons first (ih place)

/-- What is left out at the same place of two related lists leaves them related. -/
theorem forall₂_eraseIdx (related : List.Forall₂ R xs ys) (place : Nat) :
    List.Forall₂ R (xs.eraseIdx place) (ys.eraseIdx place) := by
  induction related generalizing place with
  | nil => simp
  | cons first rest ih =>
    cases place with
    | zero => exact rest
    | succ place => exact .cons first (ih place)

/-- Related elements may be added at the end of two related lists. -/
theorem forall₂_snoc (related : List.Forall₂ R xs ys) {x : α} {y : β} (last : R x y) :
    List.Forall₂ R (xs ++ [x]) (ys ++ [y]) :=
  List.rel_append related (.cons last .nil)

end

namespace Circulation

variable {α : Type}

/-- Whatever holds of a batch and its lease when the lease begins, and stays when an item is put in
and when the batch is emptied, is kept by every step. -/
theorem forall₂_step {R : Batch α → Lease α → Prop} {c next : Circulation α}
    {leases : List (Lease α)} {handling : Handling α}
    (acquired : R c.pool.acquire.1 ⟨true, []⟩)
    (made : ∀ room, R (.withRoom room) ⟨false, []⟩)
    (pushed : ∀ item b lease, R b lease → R (b.push item) (lease.put item))
    (emptied : ∀ b lease, R b lease → R b.clear lease.emptied)
    (related : List.Forall₂ R c.held leases) (stepped : c.step handling = some next) :
    List.Forall₂ R next.held (Lease.afterStep leases handling) := by
  cases handling with
  | acquire =>
    obtain rfl := Option.some.inj stepped
    exact forall₂_snoc related acquired
  | make room =>
    obtain rfl := Option.some.inj stepped
    exact forall₂_snoc related (made room)
  | push place item =>
    obtain ⟨b, found, rfl⟩ := Option.map_eq_some_iff.mp stepped
    have modified := forall₂_modify related (pushed item) place
    rwa [List.modify_eq_set_getElem?, found] at modified
  | clear place | drain place =>
    obtain ⟨b, found, rfl⟩ := Option.map_eq_some_iff.mp stepped
    have modified := forall₂_modify related emptied place
    rwa [List.modify_eq_set_getElem?, found] at modified
  | release place | drop place =>
    obtain ⟨b, -, rfl⟩ := Option.map_eq_some_iff.mp stepped
    exact forall₂_eraseIdx related place

/-- A batch has the items of its lease. -/
def Holds (b : Batch α) (lease : Lease α) : Prop :=
  b.items.toList = lease.items

/-- A batch that came from the pool has the room that it promises. -/
def Roomy (freshRoom : Nat) (b : Batch α) (lease : Lease α) : Prop :=
  lease.ofPool = true → freshRoom ≤ b.room

/-- A step keeps in every batch the items of its lease. An idle batch that is handed out is empty,
and so is a new lease. -/
theorem holds_step {c next : Circulation α} {leases : List (Lease α)} {handling : Handling α}
    (empty : ∀ batch ∈ c.pool.idle, batch.size = 0) (holds : List.Forall₂ Holds c.held leases)
    (stepped : c.step handling = some next) :
    List.Forall₂ Holds next.held (Lease.afterStep leases handling) := by
  refine forall₂_step ?_ (fun room => rfl) ?_ (fun b lease _ => rfl) holds stepped
  · have none := (Pool.acquire_idle empty).1
    simpa [Holds, Batch.size] using none
  · intro item b lease same
    simp only [Holds] at same
    simp [Holds, Batch.push, Lease.put, same]

/-- Every batch of a circulation, idle or held, has the room that the pool promises, those that were
made elsewhere excepted. -/
structure Spacious (c : Circulation α) (freshRoom : Nat) (leases : List (Lease α)) : Prop where
  idle : ∀ batch ∈ c.pool.idle, freshRoom ≤ batch.room
  held : List.Forall₂ (Roomy freshRoom) c.held leases

/-- A step keeps the room that the pool promises, if nothing made elsewhere is given back. -/
theorem spacious_step {c next : Circulation α} {freshRoom : Nat} {leases : List (Lease α)}
    {handling : Handling α} (promise : c.pool.freshRoom = freshRoom)
    (spacious : c.Spacious freshRoom leases) (own : Lease.returnsOwn leases handling = true)
    (stepped : c.step handling = some next) :
    next.Spacious freshRoom (Lease.afterStep leases handling) := by
  have acquired := Pool.acquire_forall spacious.idle (Nat.le_of_eq promise.symm)
  refine ⟨?_, forall₂_step (fun _ => acquired.1) (fun room => nofun) ?_ (fun b lease roomy => roomy)
    spacious.held stepped⟩
  · cases handling with
    | acquire =>
      obtain rfl := Option.some.inj stepped
      exact acquired.2
    | make room =>
      obtain rfl := Option.some.inj stepped
      exact spacious.idle
    | push | clear | drain | drop =>
      obtain ⟨b, -, rfl⟩ := Option.map_eq_some_iff.mp stepped
      exact spacious.idle
    | release place =>
      obtain ⟨b, found, rfl⟩ := Option.map_eq_some_iff.mp stepped
      refine Pool.release_forall spacious.idle ?_
      obtain ⟨inside, rfl⟩ := List.getElem?_eq_some_iff.mp found
      have leased : place < leases.length := spacious.held.length_eq ▸ inside
      refine spacious.held.get inside leased ?_
      simpa [Lease.returnsOwn, leased] using own
  · exact fun item b lease roomy ofPool =>
      Nat.le_trans (roomy ofPool) (b.room_le_room_push item)

/-- The number of idle batches is the height of a bounded stack. -/
theorem height_step {c next : Circulation α} {freshRoom maxIdle : Nat} {handling : Handling α}
    (sound : c.pool.Sound freshRoom maxIdle) (stepped : c.step handling = some next) :
    next.pool.idle.length = handling.heightAfter maxIdle c.pool.idle.length := by
  have bounded := sound.bounded
  cases handling with
  | acquire =>
    obtain rfl := Option.some.inj stepped
    simp only [Pool.acquire, Handling.heightAfter]
    split
    · rename_i stack
      simp [stack]
    · rename_i stack
      simp [stack]
  | make room =>
    obtain rfl := Option.some.inj stepped
    rfl
  | push | clear | drain | drop =>
    obtain ⟨b, -, rfl⟩ := Option.map_eq_some_iff.mp stepped
    rfl
  | release place =>
    obtain ⟨b, -, rfl⟩ := Option.map_eq_some_iff.mp stepped
    simp only [Pool.release, Handling.heightAfter, sound.height]
    split
    · rw [List.length_cons]
      omega
    · omega

/-- Steps keep in every batch the items of its lease, by induction on the steps. -/
theorem holds_run {c last : Circulation α} {freshRoom maxIdle : Nat} {leases : List (Lease α)}
    {handlings : List (Handling α)} (sound : c.pool.Sound freshRoom maxIdle)
    (holds : List.Forall₂ Holds c.held leases) (ran : c.run handlings = some last) :
    List.Forall₂ Holds last.held (Lease.afterSteps leases handlings) := by
  induction handlings generalizing c leases with
  | nil =>
    obtain rfl := Option.some.inj ran
    exact holds
  | cons handling rest ih =>
    obtain ⟨next, stepped, ran⟩ := Option.bind_eq_some_iff.mp ran
    exact ih (sound_step sound stepped) (holds_step sound.empty holds stepped) ran

/-- Steps keep the room that the pool promises, by induction on the steps, as long as nothing made
elsewhere is given back. -/
theorem spacious_run {c last : Circulation α} {freshRoom maxIdle : Nat} {leases : List (Lease α)}
    {handlings : List (Handling α)} (sound : c.pool.Sound freshRoom maxIdle)
    (spacious : c.Spacious freshRoom leases) (own : Lease.onlyOwn leases handlings = true)
    (ran : c.run handlings = some last) :
    last.Spacious freshRoom (Lease.afterSteps leases handlings) := by
  induction handlings generalizing c leases with
  | nil =>
    obtain rfl := Option.some.inj ran
    exact spacious
  | cons handling rest ih =>
    obtain ⟨next, stepped, ran⟩ := Option.bind_eq_some_iff.mp ran
    obtain ⟨first, others⟩ := Bool.and_eq_true_iff.mp own
    have kept := spacious_step sound.fresh spacious first stepped
    exact ih (sound_step sound stepped) kept others ran

/-- Whatever the holders of a pool's batches do, in any order:

* the next batch to be handed out is empty;
* every batch that is held has exactly the items that were put into it since it was handed out and
  last emptied, and none from before;
* no more batches are idle than the pool keeps, and each step changes their number as it does the
  height of a stack that is bounded by that;
* if nothing was given back but what came from the pool, the next batch to be handed out has the
  room that a new one would have.

Proof: three invariants of a step, each by the kind of the step: the pool is sound, every batch that
is held has the items of its lease, and as long as nothing made elsewhere is given back all batches
have their room. By induction they hold after all steps. -/
theorem nothing_is_passed_on {freshRoom maxIdle : Nat} {handlings : List (Handling α)}
    {c : Circulation α} (ran : (start freshRoom maxIdle).run handlings = some c) :
    c.pool.acquire.1.size = 0 ∧
      c.held.map (fun b => b.items.toList) = (Lease.afterSteps [] handlings).map Lease.items ∧
      c.pool.idle.length ≤ maxIdle ∧
      (∀ handling next, c.step handling = some next →
        next.pool.idle.length = handling.heightAfter maxIdle c.pool.idle.length) ∧
      (Lease.onlyOwn [] handlings = true → freshRoom ≤ c.pool.acquire.1.room) := by
  have first := Pool.sound_make (α := α) freshRoom maxIdle
  have sound := sound_run first ran
  have holds := holds_run first .nil ran
  refine ⟨(Pool.acquire_idle sound.empty).1, ?_, sound.bounded, fun _ _ => height_step sound,
    fun own => ?_⟩
  · rw [← List.forall₂_eq_eq_eq, List.forall₂_map_left_iff, List.forall₂_map_right_iff]
    exact holds
  · have spacious := spacious_run first ⟨by simp [start, Pool.make], .nil⟩ own ran
    exact (Pool.acquire_forall spacious.idle (Nat.le_of_eq sound.fresh.symm)).1

/-- A batch that was given back with two items in it serves again, and only the item that its second
lease put in is there. -/
theorem second_lease_starts_empty :
    let handlings : List (Handling Nat) :=
      [.acquire, .push 0 5, .push 0 6, .push 0 7, .release 0, .acquire, .push 0 8]
    let c : Circulation Nat := ⟨⟨2, 1, []⟩, [⟨#[8], 4⟩]⟩
    (start 2 1 : Circulation Nat).run handlings = some c ∧
      c.held.map (fun b => b.items.toList) = [[8]] ∧
      c.step (.release 0) = some ⟨⟨2, 1, [⟨#[], 4⟩]⟩, []⟩ ∧
      Lease.onlyOwn [] handlings = true ∧ 2 ≤ c.pool.acquire.1.room := by
  intro handlings c
  have ran : (start 2 1 : Circulation Nat).run handlings = some c := by rfl
  have own : Lease.onlyOwn [] handlings = true := by decide
  obtain ⟨_, items, _, _, roomy⟩ := nothing_is_passed_on ran
  exact ⟨ran, items.trans (by decide), rfl, own, roomy own⟩

end Circulation

end SeriesBench
