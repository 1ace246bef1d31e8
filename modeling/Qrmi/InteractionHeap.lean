import Mathlib
import Qrmi.InteractionPanic

/-!
# Blocks that are given back

Code on the two sides of a foreign interface hands blocks of memory to and fro.  Every
block is given back once, and to the deallocator of its kind.  This file gives methods a
heap of such blocks.  A method that gives back or follows what is not live panics, and
nothing handles it.

What a method does to the heap is described from the side of its caller: which blocks
are lent to it, which are given to it, and which it leaves behind.  All other blocks
are in the frame of the description and stay as they are.
-/

namespace Interaction

/-- A block at an address, and the deallocator that it belongs to. -/
structure Block (Kind : Type) where
  address : Nat
  kind : Kind
  deriving DecidableEq

/-- The live blocks.  No two of them share an address, and addresses from `next` on
have not been used. -/
structure Heap (Kind : Type) where
  next : Nat
  live : Multiset (Block Kind)
  below : ∀ block ∈ live, block.address < next
  distinct : (live.map Block.address).Nodup

namespace Heap

variable {Kind : Type}

def empty : Heap Kind where
  next := 0
  live := 0
  below := by simp
  distinct := by simp

/-- A new block, at an address that was never used. -/
def insert (kind : Kind) (heap : Heap Kind) : Heap Kind where
  next := heap.next + 1
  live := ⟨heap.next, kind⟩ ::ₘ heap.live
  below := by
    intro block member
    rcases Multiset.mem_cons.mp member with rfl | member
    · exact Nat.lt_succ_self _
    · exact Nat.lt_succ_of_lt (heap.below block member)
  distinct := by
    rw [Multiset.map_cons, Multiset.nodup_cons]
    refine ⟨fun used => ?_, heap.distinct⟩
    obtain ⟨block, member, same⟩ := Multiset.mem_map.mp used
    exact absurd same (Nat.ne_of_lt (heap.below block member))

/-- The heap without a block. -/
def erase [DecidableEq Kind] (block : Block Kind) (heap : Heap Kind) : Heap Kind where
  next := heap.next
  live := heap.live.erase block
  below := fun other member => heap.below other (Multiset.mem_of_mem_erase member)
  distinct := Multiset.nodup_of_le (Multiset.map_le_map (Multiset.erase_le _ _)) heap.distinct

/-- The next address is passed over. -/
def skip (heap : Heap Kind) : Heap Kind where
  next := heap.next + 1
  live := heap.live
  below := fun block member => Nat.lt_succ_of_lt (heap.below block member)
  distinct := heap.distinct

end Heap

/-- A heap beside the rest of a state. -/
structure Stored (Kind Rest : Type) where
  heap : Heap Kind
  rest : Rest

namespace Method

variable {Query : Type} {Answer : Query → Type}
variable {Kind Rest Part View Error α β : Type}

section Operations

/-- Take a new block. -/
def allocate (kind : Kind) :
    Method Query Answer (Stored Kind Rest) (Halt Error) (Block Kind) := do
  let state ← self
  modify fun state => { state with heap := state.heap.insert kind }
  return ⟨state.heap.next, kind⟩

/-- Take a new block from an allocator that may refuse. -/
def tryAllocate (refuses : Nat → Bool) (kind : Kind) :
    Method Query Answer (Stored Kind Rest) (Halt Error) (Option (Block Kind)) := do
  let state ← self
  if refuses state.heap.next then
    modify fun state => { state with heap := state.heap.skip }
    return none
  else
    let block ← allocate kind
    return some block

/-- Follow a pointer to a block. -/
def borrow [DecidableEq Kind] (block : Block Kind) :
    Method Query Answer (Stored Kind Rest) (Halt Error) Unit := do
  let state ← self
  if block ∈ state.heap.live then return () else throw .panic

/-- Give a block back. -/
def giveBack [DecidableEq Kind] (block : Block Kind) :
    Method Query Answer (Stored Kind Rest) (Halt Error) Unit := do
  borrow block
  modify fun state => { state with heap := state.heap.erase block }

/-- Run a method that does not know the heap. -/
def onRest (method : Method Query Answer Rest (Halt Error) α) :
    Method Query Answer (Stored Kind Rest) (Halt Error) α :=
  zoom Stored.rest (fun state rest => { state with rest := rest }) method

/-- Run a method on the heap and a part of the rest of the state. -/
def onPart (read : Rest → Part) (write : Part → Rest → Rest)
    (method : Method Query Answer (Stored Kind Part) (Halt Error) α) :
    Method Query Answer (Stored Kind Rest) (Halt Error) α :=
  zoom (fun state => ⟨state.heap, read state.rest⟩)
    (fun state part => ⟨part.heap, write part.rest state.rest⟩) method

end Operations

/-- A method that is done at once. -/
theorem executes_iff_of_done {State : Type} {method : Method Query Answer State Error α}
    {before after done : State} {trace : List (Event Answer)} {outcome result : Except Error α}
    (isDone : method before = .done (outcome, done)) :
    method.Executes before trace result after ↔
      trace = [] ∧ result = outcome ∧ after = done := by
  rw [Executes, isDone, Program.runs_done_iff, Prod.mk.injEq]

theorem bind_of_done {State : Type} {method : Method Query Answer State Error α}
    {next : α → Method Query Answer State Error β} {before middle : State} {value : α}
    (isDone : method before = .done (.ok value, middle)) :
    (method >>= next) before = next value middle := by
  change (method before).bind _ = _
  rw [isDone]
  rfl

theorem borrow_of_mem [DecidableEq Kind] {block : Block Kind} {state : Stored Kind Rest}
    (member : block ∈ state.heap.live) :
    (borrow block : Method Query Answer (Stored Kind Rest) (Halt Error) Unit) state =
      .done (.ok (), state) := by
  rw [borrow, bind_of_done (rfl : self state = .done (.ok state, state)), if_pos member]
  rfl

theorem giveBack_of_mem [DecidableEq Kind] {block : Block Kind} {state : Stored Kind Rest}
    (member : block ∈ state.heap.live) :
    (giveBack block : Method Query Answer (Stored Kind Rest) (Halt Error) Unit) state =
      .done (.ok (), { state with heap := state.heap.erase block }) := by
  rw [giveBack, bind_of_done (borrow_of_mem member)]
  rfl

section Emission

variable {allowed : Event Answer → Prop}

theorem emits_allocate (kind : Kind) :
    (allocate kind : Method Query Answer (Stored Kind Rest) (Halt Error) _).Emits allowed :=
  emits_self.bind fun _ => (emits_modify _).bind fun _ => emits_pure _

theorem emits_borrow [DecidableEq Kind] (block : Block Kind) :
    (borrow block : Method Query Answer (Stored Kind Rest) (Halt Error) _).Emits allowed := by
  refine emits_self.bind fun state => ?_
  split
  · exact emits_pure _
  · exact emits_throw _

theorem emits_giveBack [DecidableEq Kind] (block : Block Kind) :
    (giveBack block : Method Query Answer (Stored Kind Rest) (Halt Error) _).Emits allowed :=
  (emits_borrow block).bind fun _ => emits_modify _

end Emission

/-- From a state with the given view, with some blocks lent and some given to it, a
method does not panic while its events are relied on, and it leaves a view and blocks
behind as described. -/
def Transfers (rely : Event Answer → Prop) (view : Rest → View) (seen : View)
    (lent given : Multiset (Block Kind))
    (method : Method Query Answer (Stored Kind Rest) (Halt Error) α)
    (post : Except Error α → View → Multiset (Block Kind) → Prop) : Prop :=
  ∀ ⦃frame before trace result after⦄, view before.rest = seen → lent ≤ frame →
    before.heap.live = given + frame → method.Executes before trace result after →
    (∀ event ∈ trace, rely event) → ∃ outcome left, result = outcome.mapError Halt.failed ∧
      post outcome (view after.rest) left ∧ after.heap.live = left + frame

section Rules

variable {rely : Event Answer → Prop} {view : Rest → View} {seen : View}
variable {lent given : Multiset (Block Kind)}
variable {post : Except Error α → View → Multiset (Block Kind) → Prop}

theorem transfers_pure {value : α} (kept : post (.ok value) seen given) :
    Transfers rely view seen lent given
      (pure value : Method Query Answer (Stored Kind Rest) (Halt Error) α) post := by
  rintro frame before trace result after rfl _ live executes _
  obtain ⟨-, rfl, rfl⟩ := executes_pure_iff.mp executes
  exact ⟨.ok value, given, rfl, kept, live⟩

theorem transfers_failed {error : Error} (kept : post (.error error) seen given) :
    Transfers rely view seen lent given
      (throw (.failed error) : Method Query Answer (Stored Kind Rest) (Halt Error) α)
      post := by
  rintro frame before trace result after rfl _ live executes _
  obtain ⟨-, rfl, rfl⟩ := executes_throw_iff.mp executes
  exact ⟨.error error, given, rfl, kept, live⟩

/-- The second method is given what the first one leaves. -/
theorem Transfers.bind
    {method : Method Query Answer (Stored Kind Rest) (Halt Error) α}
    {next : α → Method Query Answer (Stored Kind Rest) (Halt Error) β}
    {last : Except Error β → View → Multiset (Block Kind) → Prop}
    (first : Transfers rely view seen lent given method post)
    (second : ∀ value sees left, post (.ok value) sees left →
      Transfers rely view sees lent left (next value) last)
    (fails : ∀ error sees left, post (.error error) sees left →
      last (.error error) sees left) :
    Transfers rely view seen lent given (method >>= next) last := by
  intro frame before trace result after sees within live executes relies
  rcases executes_bind_iff.mp executes with
    ⟨halt, rfl, failed⟩ | ⟨earlier, later, value, middle, rfl, ran, rest⟩
  · obtain ⟨outcome, left, equal, kept, lives⟩ := first sees within live failed relies
    cases outcome with
    | ok value => cases equal
    | error error =>
        cases equal
        exact ⟨.error error, left, rfl, fails _ _ _ kept, lives⟩
  · have reliesEarlier : ∀ event ∈ earlier, rely event := fun event member =>
      relies event (List.mem_append_left _ member)
    obtain ⟨outcome, left, equal, kept, lives⟩ := first sees within live ran reliesEarlier
    cases outcome with
    | ok _ =>
        cases equal
        exact second _ _ left kept rfl within lives rest fun event member =>
          relies event (List.mem_append_right _ member)
    | error error => cases equal

theorem Transfers.mono
    {method : Method Query Answer (Stored Kind Rest) (Halt Error) α}
    {weaker : Except Error α → View → Multiset (Block Kind) → Prop}
    (transfers : Transfers rely view seen lent given method post)
    (weakens : ∀ outcome sees left, post outcome sees left → weaker outcome sees left) :
    Transfers rely view seen lent given method weaker := by
  intro frame before trace result after sees within live executes relies
  obtain ⟨outcome, left, equal, kept, lives⟩ := transfers sees within live executes relies
  exact ⟨outcome, left, equal, weakens _ _ _ kept, lives⟩

/-- What the caller keeps may be lent to the method. -/
theorem Transfers.lend
    {method : Method Query Answer (Stored Kind Rest) (Halt Error) α}
    {kept : Multiset (Block Kind)}
    (transfers : Transfers rely view seen (lent + kept) given method post) :
    Transfers rely view seen lent (given + kept) method fun outcome sees left =>
      ∃ own, left = own + kept ∧ post outcome sees own := by
  intro frame before trace result after sees within live executes relies
  have lends : lent + kept ≤ kept + frame := by
    rw [add_comm lent kept]
    exact add_le_add_right within kept
  obtain ⟨outcome, own, equal, posted, lives⟩ :=
    transfers sees lends (live.trans (add_assoc _ _ _)) executes relies
  exact ⟨outcome, own + kept, equal, ⟨own, rfl, posted⟩,
    lives.trans (add_assoc _ _ _).symm⟩

theorem transfers_allocate (kind : Kind) :
    Transfers rely view seen lent given
      (allocate kind : Method Query Answer (Stored Kind Rest) (Halt Error) _)
      fun outcome sees left => sees = seen ∧ ∃ address, outcome = .ok ⟨address, kind⟩ ∧
        left = {⟨address, kind⟩} + given := by
  rintro frame before trace result after rfl _ live executes _
  obtain ⟨-, rfl, rfl⟩ := (executes_iff_of_done rfl).mp executes
  refine ⟨.ok _, _, rfl, ⟨rfl, _, rfl, rfl⟩, ?_⟩
  rw [add_assoc, ← live]
  exact (Multiset.singleton_add _ _).symm

theorem transfers_tryAllocate (refuses : Nat → Bool) (kind : Kind) :
    Transfers rely view seen lent given
      (tryAllocate refuses kind : Method Query Answer (Stored Kind Rest) (Halt Error) _)
      fun outcome sees left => sees = seen ∧
        (outcome = .ok none ∧ left = given ∨
          ∃ address, outcome = .ok (some ⟨address, kind⟩) ∧
            left = {⟨address, kind⟩} + given) := by
  intro frame before trace result after sees within live executes relies
  replace executes := executes_self_bind_iff.mp executes
  split at executes
  · have silent := executes_modify_bind_iff.mp executes
    obtain ⟨-, rfl, rfl⟩ := executes_pure_iff.mp silent
    exact ⟨.ok none, given, rfl, ⟨sees, .inl ⟨rfl, rfl⟩⟩, live⟩
  · have allocates : Transfers rely view seen lent given
        (allocate kind >>= fun block => pure (some block) :
          Method Query Answer (Stored Kind Rest) (Halt Error) _)
        fun outcome sees left => sees = seen ∧ ∃ address,
          outcome = .ok (some ⟨address, kind⟩) ∧ left = {⟨address, kind⟩} + given := by
      refine (transfers_allocate kind).bind ?_ ?_
      · rintro _ _ _ ⟨rfl, address, equal, rfl⟩
        cases equal
        exact transfers_pure ⟨rfl, address, rfl, rfl⟩
      · rintro _ _ _ ⟨-, _, equal, -⟩
        cases equal
    obtain ⟨outcome, left, equal, ⟨kept, allocated⟩, lives⟩ :=
      allocates sees within live executes relies
    exact ⟨outcome, left, equal, ⟨kept, .inr allocated⟩, lives⟩

section Blocks

variable [DecidableEq Kind]

theorem transfers_borrow {block : Block Kind} (member : block ∈ given ∨ block ∈ lent) :
    Transfers rely view seen lent given
      (borrow block : Method Query Answer (Stored Kind Rest) (Halt Error) _)
      fun outcome sees left => outcome = .ok () ∧ sees = seen ∧ left = given := by
  intro frame before trace result after sees within live executes _
  have isLive : block ∈ before.heap.live := by
    rw [live, Multiset.mem_add]
    exact member.imp_right fun inLent => Multiset.mem_of_le within inLent
  have returned := executes_self_bind_iff.mp executes
  rw [if_pos isLive] at returned
  obtain ⟨-, rfl, rfl⟩ := executes_pure_iff.mp returned
  exact ⟨.ok (), given, rfl, ⟨rfl, sees, rfl⟩, live⟩

theorem transfers_giveBack {block : Block Kind} :
    Transfers rely view seen lent ({block} + given)
      (giveBack block : Method Query Answer (Stored Kind Rest) (Halt Error) _)
      fun outcome sees left => outcome = .ok () ∧ sees = seen ∧ left = given := by
  have borrowed : Transfers rely view seen lent ({block} + given)
      (borrow block : Method Query Answer (Stored Kind Rest) (Halt Error) _) _ :=
    transfers_borrow (.inl (Multiset.mem_add.mpr (.inl (Multiset.mem_singleton_self _))))
  refine borrowed.bind ?_ ?_
  · rintro _ _ _ ⟨-, rfl, rfl⟩ frame before trace result after sees _ live executes _
    obtain ⟨-, rfl, rfl⟩ := executes_modify_iff.mp executes
    refine ⟨.ok (), given, rfl, ⟨rfl, sees, rfl⟩, ?_⟩
    change before.heap.live.erase block = _
    rw [live, add_assoc, Multiset.singleton_add, Multiset.erase_cons_head]
  · rintro _ _ _ ⟨equal, -⟩
    cases equal

end Blocks

/-- A method that does not know the heap leaves what it was given. -/
theorem transfers_onRest {method : Method Query Answer Rest (Halt Error) α}
    {plainly : Except Error α → View → Prop}
    (spec : ∀ ⦃before trace result after⦄, view before = seen →
      method.Executes before trace result after → (∀ event ∈ trace, rely event) →
      ∃ outcome, result = outcome.mapError Halt.failed ∧ plainly outcome (view after)) :
    Transfers rely view seen lent given (onRest method) fun outcome sees left =>
      plainly outcome sees ∧ left = given := by
  intro frame before trace result after sees _ live executes relies
  obtain ⟨rest, rfl, ran⟩ := executes_zoom_iff.mp executes
  obtain ⟨outcome, rfl, holds⟩ := spec sees ran relies
  exact ⟨outcome, given, rfl, ⟨holds, rfl⟩, live⟩

/-- A method of a part that the view does not show. -/
theorem Transfers.onPart {read : Rest → Part} {write : Part → Rest → Rest}
    {method : Method Query Answer (Stored Kind Part) (Halt Error) α}
    {postPart : Except Error α → Unit → Multiset (Block Kind) → Prop}
    (transfers : Transfers rely (fun _ => ()) () lent given method postPart)
    (hidden : ∀ part rest, view (write part rest) = view rest) :
    Transfers rely view seen lent given (onPart read write method) fun outcome sees left =>
      sees = seen ∧ postPart outcome () left := by
  intro frame before trace result after sees within live executes relies
  obtain ⟨part, rfl, ran⟩ := executes_zoom_iff.mp executes
  obtain ⟨outcome, left, equal, kept, lives⟩ := transfers rfl within live ran relies
  exact ⟨outcome, left, equal, ⟨(hidden _ _).trans sees, kept⟩, lives⟩

end Rules

/-- A method returns a value, and it leaves blocks behind as described. -/
def Yields (rely : Event Answer → Prop) (lent given : Multiset (Block Kind))
    (method : Method Query Answer (Stored Kind Rest) (Halt Error) α)
    (result : α → Multiset (Block Kind) → Prop) : Prop :=
  Transfers rely (fun _ => ()) () lent given method fun outcome _ left =>
    ∃ value, outcome = .ok value ∧ result value left

section Yields

variable {rely : Event Answer → Prop} {lent given : Multiset (Block Kind)}
variable {result : α → Multiset (Block Kind) → Prop}

theorem yields_pure {value : α} (kept : result value given) :
    Yields rely lent given (pure value : Method Query Answer (Stored Kind Rest) (Halt Error) α)
      result :=
  transfers_pure ⟨value, rfl, kept⟩

theorem Yields.bind {method : Method Query Answer (Stored Kind Rest) (Halt Error) α}
    {next : α → Method Query Answer (Stored Kind Rest) (Halt Error) β}
    {last : β → Multiset (Block Kind) → Prop}
    (first : Yields rely lent given method result)
    (second : ∀ value left, result value left → Yields rely lent left (next value) last) :
    Yields rely lent given (method >>= next) last := by
  refine Transfers.bind first ?_ ?_
  · rintro _ _ left ⟨value, equal, kept⟩
    cases equal
    exact second _ left kept
  · rintro _ _ _ ⟨_, equal, -⟩
    cases equal

theorem Yields.map {method : Method Query Answer (Stored Kind Rest) (Halt Error) α}
    {change : α → β} {last : β → Multiset (Block Kind) → Prop}
    (yields : Yields rely lent given method fun value left => last (change value) left) :
    Yields rely lent given (change <$> method) last :=
  Yields.bind yields fun _ _ kept => yields_pure kept

theorem Yields.mono {method : Method Query Answer (Stored Kind Rest) (Halt Error) α}
    {weaker : α → Multiset (Block Kind) → Prop} (yields : Yields rely lent given method result)
    (weakens : ∀ value left, result value left → weaker value left) :
    Yields rely lent given method weaker :=
  Transfers.mono yields fun _ _ left kept =>
    kept.imp fun value both => ⟨both.1, weakens value left both.2⟩

theorem yields_allocate (kind : Kind) :
    Yields rely lent given (allocate kind : Method Query Answer (Stored Kind Rest) (Halt Error) _)
      fun block left => block.kind = kind ∧ left = {block} + given := by
  refine (transfers_allocate kind).mono ?_
  rintro _ _ _ ⟨-, address, rfl, rfl⟩
  exact ⟨_, rfl, rfl, rfl⟩

variable [DecidableEq Kind]

theorem yields_borrow {block : Block Kind} (member : block ∈ given ∨ block ∈ lent) :
    Yields rely lent given (borrow block : Method Query Answer (Stored Kind Rest) (Halt Error) _)
      fun _ left => left = given :=
  (transfers_borrow member).mono fun _ _ _ kept => ⟨(), kept.1, kept.2.2⟩

theorem yields_giveBack {block : Block Kind} :
    Yields rely lent ({block} + given)
      (giveBack block : Method Query Answer (Stored Kind Rest) (Halt Error) _)
      fun _ left => left = given :=
  transfers_giveBack.mono fun _ _ _ kept => ⟨(), kept.1, kept.2.2⟩

end Yields

end Method

end Interaction
