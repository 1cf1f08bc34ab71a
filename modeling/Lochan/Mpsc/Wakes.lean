import Lochan.Mpsc.Steps

/-!
# Waking the receiver and the parked senders of an mpsc channel
-/

namespace Lochan.Mpsc

open Reentrant

variable {α : Type} {manners : Manners} {own : Option Owner} {base channel after : Channel α}

/-- What the functions rely on: user code keeps the invariant and the guarantee, and an abort
or the end of a budget is allowed for where it may happen. -/
structure Setting (manners : Manners) (contract : Prog.Contract (Channel α) (Callback α) Panic)
    (admits : Callback α → Panic → Channel α → Prop) : Prop where
  relies : Relies contract (Inv manners) (Guarantee manners none) admits
  orderly : manners.orderly → ∀ code payload channel, ¬ admits code payload channel
  aborts : Calm admits ∨ ∀ channel, contract.abort channel

/-- A callback has just panicked. -/
def Panicked (admits : Callback α → Panic → Channel α → Prop) (codes : Callback α → Prop)
    (payload : Panic) (after : Channel α) : Prop :=
  ∃ code left, codes code ∧ admits code payload left ∧ after = left.logged (.panicked code)

/-! ### The slot of the receiver's waker -/

/-- Setting the slot keeps the invariant. -/
theorem Inv.slotted (inv : Inv manners channel) (waker : Option Waker) :
    Inv manners (slotted channel waker) := by
  obtain ⟨held, books, handles, futures, registry⟩ := inv
  exact ⟨held, { books with }, { handles with }, { futures with }, { registry with }⟩

/-- The receiver has been told of what there is. -/
structure Told (manners : Manners) (channel after : Channel α) : Prop where
  evolves : Evolves manners none channel after
  tally : Tally channel after
  retained : manners.tidy → ¬ Retained after.state.chan
  exposed : manners.orderly → ∀ owner waker, Exposed after owner waker →
    Missing channel owner waker
  owed : ∀ future, .send future ∈ channel.state.uses →
    (∀ waker, owed future channel.log = some waker → channel.state.chan.recvWaker = some waker) →
    owed future after.log = none

/-- An operation that has told the receiver of what it did. -/
theorem Told.guarantee (told : Told manners channel after)
    (evolves : Evolves manners own base channel)
    (tally : Tally base channel) : Guarantee manners own base after where
  evolves := evolves.trans told.evolves.weaken
  tally := tally.trans told.tally told.evolves
  retained tidy retained := absurd retained (told.retained tidy)
  exposed orderly owner waker exposed :=
    .inr (evolves.missing orderly owner waker (told.exposed orderly owner waker exposed))

/-- Nobody is parked as the receiver. -/
theorem Told.vacant (vacant : channel.state.chan.recvWaker = none) :
    Told manners channel channel where
  evolves := .refl channel
  tally := .refl channel
  retained _ retained := retained.waker vacant
  exposed _ owner waker exposed := ⟨exposed.expects, exposed.awaits, by rw [vacant]; nofun⟩
  owed future _ registered := by
    refine Option.eq_none_iff_forall_ne_some.mpr fun waker owes => ?_
    exact nomatch vacant.symm.trans (registered waker owes)

/-- The channel in which the receiver is woken. -/
abbrev waking (channel : Channel α) (waker : Waker) : Channel α :=
  (slotted channel none).logged (.called (.wake .receivers waker))

/-- Waking the registered receiver tells it of what there is. -/
theorem Told.woken {waker : Waker} (registered : channel.state.chan.recvWaker = some waker)
    (urgent : channel.state.InUse → channel.state.chan.urgent)
    (guarantee : Guarantee manners none (waking channel waker) after) :
    Told manners channel after := by
  have silent := Silent.called channel (.wake .receivers waker)
  have missing : ∀ owner other, Missing (waking channel waker) owner other →
      Missing channel owner other := by
    rintro owner other ⟨expects, awaits, -⟩
    obtain ⟨expects, uninvoked⟩ := expecting_called.mp expects
    refine ⟨expects, awaits, fun same => uninvoked ?_⟩
    exact registered.symm.trans same
  have same : Evolves manners none channel channel := .refl channel
  have wakes : Evolves manners none channel (waking channel waker) :=
    { same with
      log := List.suffix_cons ..
      reserved := fun inUse _ =>
        ⟨silent.delivers, silent.receives, silent.expects, List.prefix_refl _,
          .inr ⟨rfl, urgent inUse⟩⟩
      committed := fun _ _ _ => id
      owed := fun future _ _ => silent.owes future
      missing := fun _ => missing }
  have tally : Tally channel (waking channel waker) :=
    ⟨rfl, (Tally.refl channel).emptied, fun _ rejecting _ member => ⟨rejecting, member⟩⟩
  exact
    { evolves := wakes.trans guarantee.evolves
      tally := tally.trans guarantee.tally guarantee.evolves
      retained := fun tidy retained => (guarantee.retained tidy retained).waker rfl
      exposed := by
        intro orderly owner other exposed
        rcases guarantee.exposed orderly owner other exposed with still | missed
        · exact missing owner other ⟨still.expects, still.awaits, nofun⟩
        · exact missing owner other missed
      owed := by
        intro future used owes
        refine Option.eq_none_iff_forall_ne_some.mpr fun other still => ?_
        have owed' := guarantee.evolves.owed future used nofun other still
        obtain ⟨before, uninvoked⟩ := owed_called.mp owed'
        exact uninvoked (registered.symm.trans (owes other before)) }

/-! ### The parked senders -/

/-- Dropping registrations keeps the invariant. -/
theorem Inv.queued (inv : Inv manners channel) {rest : List (UInt64 × Waker)}
    (fewer : rest.Subperm channel.state.chan.sendWakers) : Inv manners (queued channel rest) := by
  obtain ⟨held, books, handles, futures, registry⟩ := inv
  refine ⟨held, { books with }, { handles with }, { futures with }, registry.next, ?_, ?_⟩
  · exact fun fits => (registry.tickets fits).withdraw fewer
  · exact fun fits entry member => registry.owned fits entry (fewer.subset member)

/-- Dropping registrations is a step that an operation may make. -/
theorem Guarantee.queued {rest : List (UInt64 × Waker)}
    (fewer : rest ⊆ channel.state.chan.sendWakers) :
    Guarantee manners own channel (queued channel rest) := by
  have same : Guarantee manners own channel channel := .refl channel
  exact { same with
    evolves := { same.evolves with
      reserved := fun _ _ => { Reserved.refl channel with waker := .inl rfl }
      missing := fun _ _ _ missing => { missing with } }
    tally := { same.tally with stuck := fun _ rejecting _ member => ⟨rejecting, fewer member⟩ }
    retained := fun _ retained => { retained with }
    exposed := fun _ _ _ exposed => .inl { exposed with } }

/-- No parked sender is left behind in a channel that rejects them. -/
def Unstuck (channel : Channel α) : Prop :=
  Fits channel.log → channel.state.chan.rejecting = true → channel.state.chan.sendWakers = []

/-- A channel that is not stuck does not get stuck in an operation. -/
theorem Unstuck.later (unstuck : Unstuck channel) (tally : Tally channel after)
    (evolves : Evolves manners own channel after) : Unstuck after := by
  intro fits rejecting
  refine List.eq_nil_iff_forall_not_mem.mpr fun entry member => ?_
  obtain ⟨rejecting', member'⟩ := tally.stuck fits rejecting entry member
  rw [unstuck (fits.of_suffix evolves.log) rejecting'] at member'
  exact List.not_mem_nil member'

/-- The invariant but for a registration that nobody holds any more. -/
structure Giving (manners : Manners) (channel : Channel α) (id : Option UInt64) : Prop where
  held : channel.held = []
  books : Books manners channel
  handles : Handles channel
  futures : Futures manners channel
  next : channel.state.chan.nextSendId = UInt64.ofNat (registrations .senders channel.log)
  tickets : Fits channel.log → (ledger channel).Sound
  owned : Fits channel.log → ∀ entry ∈ channel.state.chan.sendWakers, id ≠ some entry.1 →
    ∃ future, channel.state.idOf future = some entry.1

/-- The parked senders that are left without the registration. -/
structure Without (channel : Channel α) (id : Option UInt64) (rest : List (UInt64 × Waker)) :
    Prop where
  fewer : rest ⊆ channel.state.chan.sendWakers
  others : Fits channel.log → ∀ entry ∈ rest, id ≠ some entry.1

section Giving

variable {id : Option UInt64}

/-- An id that is in no entry has been given up. -/
theorem Giving.inv (giving : Giving manners channel id)
    (unfiled : ∀ entry ∈ channel.state.chan.sendWakers, id ≠ some entry.1) : Inv manners channel :=
  ⟨giving.held, giving.books, giving.handles, giving.futures, giving.next, giving.tickets,
    fun fits entry member => giving.owned fits entry member (unfiled entry member)⟩

/-- An id that is in no entry is without each of them. -/
theorem Without.all (unfiled : ∀ entry ∈ channel.state.chan.sendWakers, id ≠ some entry.1) :
    Without channel id channel.state.chan.sendWakers :=
  ⟨List.Subset.refl _, fun _ => unfiled⟩

variable {held : UInt64} {waker : Waker} {rest : List (UInt64 × Waker)}

/-- Withdrawing the held entry leaves the others without its id. -/
theorem Giving.without (giving : Giving manners channel (some held))
    (perm : channel.state.chan.sendWakers.Perm ((held, waker) :: rest)) :
    Without channel (some held) rest where
  fewer entry member := perm.mem_iff.mpr (List.mem_cons_of_mem _ member)
  others fits entry member := by
    have nodup := (perm.map Prod.fst).nodup_iff.mp (giving.tickets fits).keys
    rintro ⟨⟩
    exact (List.nodup_cons.mp nodup).1 (List.mem_map.mpr ⟨entry, member, rfl⟩)

/-- Withdrawing the held entry gives its id up. -/
theorem Giving.removed (giving : Giving manners channel (some held))
    (perm : channel.state.chan.sendWakers.Perm ((held, waker) :: rest))
    (without : Without channel (some held) rest) : Inv manners (Mpsc.queued channel rest) := by
  obtain ⟨clear, books, handles, futures, next, tickets, owned⟩ := giving
  have fewer : rest.Subperm channel.state.chan.sendWakers :=
    (List.sublist_cons_self _ rest).subperm.trans perm.symm.subperm
  refine ⟨clear, { books with }, { handles with }, { futures with }, next, ?_, ?_⟩
  · exact fun fits => (tickets fits).withdraw fewer
  · exact fun fits entry member =>
      owned fits entry (fewer.subset member) (without.others fits entry member)

end Giving

section Functions

variable {contract : Prog.Contract (Channel α) (Callback α) Panic}
  {admits : Callback α → Panic → Channel α → Prop} (setting : Setting manners contract admits)
include setting

/-- Waking the receiver, if it is parked. -/
theorem wakeReceiver_spec (inv : Inv manners channel)
    (urgent : channel.state.InUse → channel.state.chan.urgent) :
    (wakeReceiver : M α Unit).wp contract
      (fun _ after => Inv manners after ∧ Told manners channel after)
      (fun payload after => Inv manners after ∧ Told manners channel after ∧
        Panicked admits (∃ waker, · = .wake .receivers waker) payload after) channel := by
  refine wp_wakeReceiver inv.held (fun vacant => ⟨inv, .vacant vacant⟩) ?_
  intro waker registered
  have entered : Inv manners (waking channel waker) := (inv.slotted none).idle trivial
  refine setting.relies.enters _ entered ?_ ?_
  · exact fun after kept guaranteed => ⟨kept, .woken registered urgent guaranteed⟩
  · intro payload after kept guaranteed admitted
    obtain ⟨kept', logs⟩ := carries.logged after (.panicked (.wake .receivers waker)) trivial kept
    exact ⟨kept', .woken registered urgent (guaranteed.trans logs),
      _, after, ⟨waker, rfl⟩, admitted, rfl⟩

/-- Clearing the slot of the receiver's waker. -/
theorem clearRecvWaker_spec (inv : Inv manners channel) :
    (clearRecvWaker : M α Unit).wp contract
      (fun _ after => Inv manners after ∧ Guarantee manners none (slotted channel none) after)
      (fun payload after => Inv manners after ∧
        Guarantee manners none (slotted channel none) after ∧
        Panicked admits (∃ waker, · = .dropWaker waker) payload after) channel := by
  refine wp_clearRecvWaker inv.held ?_ ?_
  · intro vacant
    rw [slotted_self vacant]
    exact ⟨inv, .refl channel⟩
  · intro waker _
    have entered : Inv manners ((slotted channel none).logged (.called (.dropWaker waker))) :=
      (inv.slotted none).idle trivial
    have calls : Guarantee manners none (slotted channel none)
        ((slotted channel none).logged (.called (.dropWaker waker))) := .logged (.called _ _)
    refine setting.relies.enters _ entered ?_ ?_
    · exact fun after kept guaranteed => ⟨kept, calls.trans guaranteed⟩
    · intro payload after kept guaranteed admitted
      obtain ⟨kept', logs⟩ := carries.logged after (.panicked (.dropWaker waker)) trivial kept
      exact ⟨kept', (calls.trans guaranteed).trans logs, _, after, ⟨waker, rfl⟩, admitted, rfl⟩

/-- Waking the parked senders leaves none of them behind. -/
theorem wakeSenders_spec (inv : Inv manners channel) :
    (wakeSenders : M α Unit).wp contract
      (fun _ after => Inv manners after ∧ Guarantee manners none channel after ∧ Unstuck after ∧
        Woken (Guarantee manners none) .senders channel.state.chan.sendWakers
          (queued channel []) after)
      (fun payload after => Inv manners after ∧ Guarantee manners none channel after ∧
        Unstuck after ∧ Interrupted (Guarantee manners none) admits
          (fun code => ∃ waker, code = .wake .senders waker) after ∧
        (Calm admits → Disposable admits payload ∧
          Woken (Guarantee manners none) .senders channel.state.chan.sendWakers
            (queued channel []) after)) channel := by
  have empties : Guarantee manners none channel (queued channel []) := .queued (List.nil_subset _)
  have unstuck : Unstuck (queued channel []) := fun _ _ => rfl
  refine wp_wakeSenders inv.held ?_ ?_
  · intro empty
    refine ⟨inv, .refl channel, fun _ _ => empty, ?_⟩
    rw [empty, queued_nil empty]
    exact .refl channel
  · have kept : Inv manners (queued channel []) := inv.queued List.nil_subperm
    refine Prog.wp_mono (setting.relies.wakeAll carries .senders _ setting.aborts kept) ?_ ?_
    · rintro _ after ⟨kept, guaranteed, woken⟩
      exact ⟨kept, empties.trans guaranteed,
        unstuck.later guaranteed.tally guaranteed.evolves, woken⟩
    · rintro payload after ⟨kept, guaranteed, ⟨code, thrown, left, ⟨entry, -, same⟩, rest⟩, calm⟩
      exact ⟨kept, empties.trans guaranteed, unstuck.later guaranteed.tally guaranteed.evolves,
        ⟨code, thrown, left, ⟨entry.2, same⟩, rest⟩, fun calmly => (calm calmly).symm⟩

/-- Removing a registration that nobody holds any more, and dropping its waker. -/
theorem removeSend_spec {id : Option UInt64} (giving : Giving manners channel id) :
    (removeSend id : M α Unit).wp contract
      (fun _ after => Inv manners after ∧ ∃ rest, Without channel id rest ∧
        Guarantee manners none (queued channel rest) after ∧
        (after = queued channel rest ∨
          ∃ waker before, contract.resume (.dropWaker waker) before (.ok ()) after))
      (fun payload after => Inv manners after ∧ ∃ rest, Without channel id rest ∧
        Guarantee manners none (queued channel rest) after ∧
        ∃ waker before left, after = left.logged (.panicked (.dropWaker waker)) ∧
          contract.resume (.dropWaker waker) before (.error payload) left) channel := by
  cases id with
  | none =>
      exact ⟨giving.inv nofun, _, .all nofun, .refl channel, .inl rfl⟩
  | some id =>
      refine wp_removeSendWaker giving.held ?_ ?_
      · intro absent
        have unfiled : ∀ entry ∈ channel.state.chan.sendWakers, some id ≠ some entry.1 := by
          rintro entry member ⟨⟩
          exact absent (List.mem_map_of_mem member)
        exact ⟨giving.inv unfiled, _, .all unfiled, .refl channel, .inl rfl⟩
      · intro waker rest perm
        have without := giving.without perm
        have kept := giving.removed perm without
        simp only [callback, Prog.wp_bind, wp_emit, Prog.wp_user]
        have entered : Inv manners ((queued channel rest).logged (.called (.dropWaker waker))) :=
          kept.idle trivial
        have calls : Guarantee manners none (queued channel rest)
            ((queued channel rest).logged (.called (.dropWaker waker))) :=
          .logged (.called _ _)
        refine ⟨setting.relies.enter _ _ entered, fun outcome after left => ?_⟩
        obtain ⟨kept', guaranteed⟩ := setting.relies.resume _ _ _ _ left
        cases outcome with
        | ok _ => exact ⟨kept', rest, without, calls.trans guaranteed, .inr ⟨waker, _, left⟩⟩
        | error payload =>
            obtain ⟨kept'', logs⟩ :=
              carries.logged after (.panicked (.dropWaker waker)) trivial kept'
            exact ⟨kept'', rest, without, (calls.trans guaranteed).trans logs, waker, _, after, rfl,
              left⟩

end Functions

end Lochan.Mpsc
