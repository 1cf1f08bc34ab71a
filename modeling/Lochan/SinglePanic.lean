import Lochan.History

/-!
# Panics of one kind

The drop of a receiver runs the wakers of the parked senders, the destructors of the items
left, and the destructor of the receiver's own waker. It gets through all of them if only one
kind panics, and at most one item does.
-/

namespace Lochan

variable {χ α : Type}

/-- The destructor of a queued item panicked on the way. -/
def Struck (admits : Callback α → Panic → World χ (Op α) (Result α) α → Prop)
    (before after : World χ (Op α) (Result α) α) : Prop :=
  ∃ item payload left, admits (.dropQueued item) payload left ∧
    (drained before.log).length < (drained left.log).length ∧
    (drained left.log).length ≤ (drained after.log).length

/-- Panics of one kind only: of the wakers of parked senders, of the destructor of the
item drained as the `count`-th one, or of the destructors of wakers before the channel is
freed. -/
inductive SinglePanic (freed : World χ (Op α) (Result α) α → Prop)
    (admits : Callback α → Panic → World χ (Op α) (Result α) α → Prop) : Prop where
  | wakes (only : ∀ code payload after, admits code payload after →
      ∃ waker, code = .wake .senders waker)
  | item (count : Nat) (only : ∀ code payload after, admits code payload after →
      (∃ item, code = .dropQueued item) ∧ (drained after.log).length = count)
  | ownWaker (only : ∀ code payload after, admits code payload after →
      (∃ waker, code = .dropWaker waker) ∧ ¬ freed after)

section Single

variable {freed : World χ (Op α) (Result α) α → Prop}
  {admits : Callback α → Panic → World χ (Op α) (Result α) α → Prop}
  {first second third : World χ (Op α) (Result α) α}

/-- A callback that panics is of one kind. -/
theorem SinglePanic.kind (single : SinglePanic freed admits) {code : Callback α} {payload : Panic}
    (admitted : admits code payload first) : (∃ waker, code = .wake .senders waker) ∨
      (∃ item, code = .dropQueued item) ∨ ∃ waker, code = .dropWaker waker := by
  cases single with
  | wakes only => exact .inl (only _ _ _ admitted)
  | item count only => exact .inr (.inl (only _ _ _ admitted).1)
  | ownWaker only => exact .inr (.inr (only _ _ _ admitted).1)

/-- A single kind of panic has a payload that can be disposed of. -/
theorem SinglePanic.calm (single : SinglePanic freed admits) : Calm admits := by
  intro code payload world _ inner after admitted
  rcases single.kind admitted with ⟨_, same⟩ | ⟨_, same⟩ | ⟨_, same⟩ <;> cases same

/-- The destructors of two items do not both panic. -/
theorem SinglePanic.once (single : SinglePanic freed admits) (earlier : Struck admits first second)
    (later : Struck admits second third) : False := by
  obtain ⟨_, _, left, admitted, -, reached⟩ := earlier
  obtain ⟨_, _, left', admitted', beyond, -⟩ := later
  cases single with
  | wakes only =>
      obtain ⟨_, same⟩ := only _ _ _ admitted
      cases same
  | item count only =>
      obtain ⟨-, same⟩ := only _ _ _ admitted
      obtain ⟨-, same'⟩ := only _ _ _ admitted'
      omega
  | ownWaker only =>
      obtain ⟨⟨_, same⟩, -⟩ := only _ _ _ admitted
      cases same

/-- Panics of two kinds do not both occur. -/
theorem SinglePanic.apart (single : SinglePanic freed admits) {one other : Callback α}
    {payload payload' : Panic} (admitted : admits one payload first)
    (admitted' : admits other payload' second)
    (kinds : (∃ waker, one = .wake .senders waker) ∧ (∃ item, other = .dropQueued item) ∨
      (∃ waker, one = .wake .senders waker) ∧ (∃ waker, other = .dropWaker waker) ∨
      (∃ item, one = .dropQueued item) ∧ ∃ waker, other = .dropWaker waker) : False := by
  cases single with
  | wakes only =>
      obtain ⟨_, same⟩ := only _ _ _ admitted
      obtain ⟨_, same'⟩ := only _ _ _ admitted'
      rcases kinds with ⟨-, _, rfl⟩ | ⟨-, _, rfl⟩ | ⟨⟨_, rfl⟩, -⟩
      · cases same'
      · cases same'
      · cases same
  | item count only =>
      obtain ⟨⟨_, same⟩, -⟩ := only _ _ _ admitted
      obtain ⟨⟨_, same'⟩, -⟩ := only _ _ _ admitted'
      rcases kinds with ⟨⟨_, rfl⟩, -⟩ | ⟨⟨_, rfl⟩, -⟩ | ⟨-, _, rfl⟩
      · cases same
      · cases same
      · cases same'
  | ownWaker only =>
      obtain ⟨⟨_, same⟩, -⟩ := only _ _ _ admitted
      rcases kinds with ⟨⟨_, rfl⟩, -⟩ | ⟨⟨_, rfl⟩, -⟩ | ⟨⟨_, rfl⟩, -⟩ <;> cases same

/-- Later on, draining has dropped no fewer items. -/
theorem drained_mono (grows : first.log <:+ second.log) :
    (drained first.log).length ≤ (drained second.log).length :=
  (drained_grows grows).length_le

/-- A panic that struck later on has struck since an earlier moment. -/
theorem Struck.before (struck : Struck admits second third) (grows : first.log <:+ second.log) :
    Struck admits first third := by
  obtain ⟨item, payload, left, admitted, beyond, reached⟩ := struck
  exact ⟨item, payload, left, admitted, Nat.lt_of_le_of_lt (drained_mono grows) beyond, reached⟩

/-- A panic that struck has struck up to any later moment. -/
theorem Struck.until (struck : Struck admits first second) (grows : second.log <:+ third.log) :
    Struck admits first third := by
  obtain ⟨item, payload, left, admitted, beyond, reached⟩ := struck
  exact ⟨item, payload, left, admitted, beyond, Nat.le_trans reached (drained_mono grows)⟩

end Single

end Lochan
