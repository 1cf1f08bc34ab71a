import Lochan.Mpmc.Steps

/-!
# Waking and removing the parked tasks of an mpmc channel
-/

namespace Lochan.Mpmc

open Reentrant

variable {α : Type} {manners : Manners} {own : Option Owner}
  {spare : Option (Side × UInt64)} {channel after : Channel α}

/-! ### Registrations that go -/

/-- The channel with other registrations on a side. -/
abbrev listed (channel : Channel α) (side : Side) (rest : List (UInt64 × Waker)) : Channel α :=
  channel.onState (·.onChan (·.setWakers side rest))

/-- Nobody is parked in an empty registry. -/
theorem not_parked {owner : Owner} {waker : Waker} (none : channel.state.wakers owner.side = []) :
    ¬ Parked channel owner waker := by
  rintro ⟨id, -, member⟩
  rw [none] at member
  exact List.not_mem_nil member

/-- Receivers are quiet where none is registered. -/
theorem RecvQuiet.of_nil (none : channel.state.chan.recvWakers = []) : RecvQuiet channel :=
  ⟨fun _ => none, fun _ _ _ receives _ _ _ parked =>
    absurd parked (not_parked (receives ▸ none))⟩

/-- Senders are quiet where none is registered. -/
theorem SendQuiet.of_nil (none : channel.state.chan.sendWakers = []) : SendQuiet channel :=
  fun _ _ _ sends _ _ _ parked => absurd parked (not_parked (sends ▸ none))

section Withdraw

variable {side : Side} {rest : List (UInt64 × Waker)}

/-- The registry is the list that it was replaced by. -/
theorem listed_wakers : (listed channel side rest).state.wakers side = rest := by
  cases side <;> rfl

/-- The other registry is left as it was. -/
theorem listed_wakers_other {other : Side} (different : other ≠ side) :
    (listed channel side rest).state.wakers other = channel.state.wakers other := by
  cases side <;> cases other <;> first | rfl | exact absurd rfl different

/-- Entries are only taken out of the registries. -/
theorem listed_subset (fewer : rest ⊆ channel.state.wakers side) (other : Side) :
    (listed channel side rest).state.wakers other ⊆ channel.state.wakers other := by
  by_cases same : other = side
  · subst same
    exact listed_wakers ▸ fewer
  · rw [listed_wakers_other same]
    exact fun _ => id

/-- Who is still parked was parked before. -/
theorem Parked.of_listed (fewer : rest ⊆ channel.state.wakers side) {owner : Owner}
    {waker : Waker} (parked : Parked (listed channel side rest) owner waker) :
    Parked channel owner waker := by
  obtain ⟨id, holds, member⟩ := parked
  refine ⟨id, ?_, listed_subset fewer _ member⟩
  cases side <;> exact holds

/-- Entries may be taken out of a registry. -/
theorem Core.withdraw (core : Core manners channel)
    (fewer : rest.Subperm (channel.state.wakers side)) :
    Core manners (listed channel side rest) := by
  obtain ⟨held, books, handles, futures, registries⟩ := core
  have tickets : Fits channel.log → ∀ other, (ledger (listed channel side rest) other).Sound := by
    intro fits other
    have sound := registries.tickets fits other
    by_cases same : other = side
    · subst same
      cases other <;> exact sound.withdraw fewer
    · cases side <;> cases other <;> first | exact absurd rfl same | exact sound
  cases side <;>
    exact ⟨held, { books with }, { handles with }, { futures with },
      ⟨fun | .receivers => registries.next .receivers | .senders => registries.next .senders,
        tickets⟩⟩

/-- Receivers stay quiet when entries are taken out. -/
theorem RecvQuiet.withdraw (quiet : RecvQuiet channel)
    (fewer : rest ⊆ channel.state.wakers side) : RecvQuiet (listed channel side rest) where
  disconnected disconnected := by
    cases side with
    | receivers => exact List.eq_nil_of_subset_nil (quiet.disconnected disconnected ▸ fewer)
    | senders => exact quiet.disconnected disconnected
  empty fits owner waker receives free waits unfinished parked := by
    have kept := quiet.empty fits owner waker receives (by cases side <;> exact free) waits
      (by cases side <;> cases owner <;> exact unfinished) (parked.of_listed fewer)
    cases side <;> exact kept

/-- Senders stay quiet when entries are taken out. -/
theorem SendQuiet.withdraw (quiet : SendQuiet channel)
    (fewer : rest ⊆ channel.state.wakers side) : SendQuiet (listed channel side rest) := by
  intro fits owner waker sends free waits unfinished parked
  have kept := quiet fits owner waker sends (by cases side <;> exact free) waits
    (by cases side <;> cases owner <;> exact unfinished) (parked.of_listed fewer)
  cases side <;> exact kept

/-- A registry with fewer entries follows on the one before. -/
theorem Follows.withdraw (fewer : rest ⊆ channel.state.wakers side) (other : Side) :
    (ledger channel other).Follows (ledger (listed channel side rest) other) where
  issued := Nat.le_refl _
  ids owner id holds := by cases side <;> exact .inl holds
  entries entry member := .inl (listed_subset fewer other member)

/-- What follows on registrations that go, where every task parked there is accounted for. -/
theorem Guarantee.of_listed (fewer : rest ⊆ channel.state.wakers side)
    (guarantee : Guarantee manners own spare (listed channel side rest) after)
    (missing : manners.calm → Fits after.log → ∀ owner waker, own ≠ some owner →
      Missing after owner waker → Missing channel owner waker) :
    Guarantee manners own spare channel after := by
  have tickets : Fits after.log → ∀ other, (ledger channel other).Follows (ledger after other) :=
    fun fits other => (Follows.withdraw fewer other).trans (guarantee.evolves.tickets fits other)
  have orphans : Fits after.log → ∀ other entry, spare ≠ some (other, entry.1) →
      (ledger after other).Orphan entry → (ledger channel other).Orphan entry := by
    intro fits other entry kept orphan
    obtain ⟨member, free⟩ := guarantee.orphans fits other entry kept orphan
    refine ⟨listed_subset fewer other member, ?_⟩
    cases side <;> exact free
  have stuck : Fits after.log → after.state.chan.rejecting = true →
      ∀ entry ∈ after.state.chan.sendWakers, spare ≠ some (.senders, entry.1) →
        channel.state.chan.rejecting = true ∧ entry ∈ channel.state.chan.sendWakers := by
    intro fits rejecting entry member kept
    obtain ⟨rejecting', member'⟩ := guarantee.stuck fits rejecting entry member kept
    have inside := listed_subset fewer .senders member'
    refine ⟨?_, inside⟩
    cases side <;> exact rejecting'
  obtain ⟨evolves, balance, emptied, occupied, -, -⟩ := guarantee
  cases side <;>
    exact ⟨{ evolves with tickets := tickets, missing := missing }, balance, emptied, occupied,
      orphans, stuck⟩

end Withdraw

/-- A list of parked tasks that is swapped out and woken is no change: every task that
waits for one of these wakers has heard of it. -/
theorem Guarantee.woken {side : Side}
    (guarantee : Guarantee manners none none (listed channel side []) after)
    (woken : manners.calm → Woken (Guarantee manners none none) side (channel.state.wakers side)
      (listed channel side []) after) : Guarantee manners none none channel after := by
  have subset : ([] : List (UInt64 × Waker)) ⊆ channel.state.wakers side := List.nil_subset _
  have missing : manners.calm → Fits after.log → ∀ owner waker, none ≠ some owner →
      Missing after owner waker → Missing channel owner waker := by
    intro calm fits owner waker _ missing
    obtain ⟨waits, unfinished, unparked⟩ :=
      guarantee.evolves.missing calm fits owner waker nofun missing
    have unfinished : channel.state.Unfinished owner := by
      cases side <;> cases owner <;> exact unfinished
    refine ⟨waits, unfinished, ?_⟩
    rintro ⟨id, holds, member⟩
    have holds : (listed channel side []).state.idOf owner.side owner = some id := by
      cases side <;> exact holds
    by_cases same : owner.side = side
    · -- The waker was in the list, so it has been invoked, and the task waits no longer.
      obtain ⟨mid, -, later⟩ := (woken calm).invoked (fun channel side waker =>
        Guarantee.called channel (.wake side waker)) carries (same ▸ member)
      have waits := (later.evolves.missing calm fits owner waker nofun missing).1
      exact (waiting_called.mp waits).2 rfl
    · exact unparked ⟨id, holds, (listed_wakers_other same).symm ▸ member⟩
  exact .of_listed subset guarantee missing

/-- A registration whose id nobody holds goes unnoticed. -/
theorem Guarantee.remove {side : Side} {id : UInt64} {waker : Waker}
    {rest : List (UInt64 × Waker)}
    (perm : (channel.state.wakers side).Perm ((id, waker) :: rest))
    (free : Fits channel.log → ∀ owner, channel.state.idOf side owner ≠ some id) :
    Guarantee manners own spare channel (listed channel side rest) := by
  have fewer : rest ⊆ channel.state.wakers side :=
    fun entry member => perm.mem_iff.mpr (List.mem_cons_of_mem _ member)
  refine .of_listed fewer (.refl _) ?_
  rintro - fits owner woken - ⟨waits, unfinished, unparked⟩
  refine ⟨waits, by cases side <;> cases owner <;> exact unfinished, ?_⟩
  rintro ⟨held, holds, member⟩
  refine unparked ⟨held, by cases side <;> exact holds, ?_⟩
  by_cases same : owner.side = side
  · subst same
    rw [listed_wakers]
    rcases List.mem_cons.mp (perm.mem_iff.mp member) with first | inside
    · obtain rfl : held = id := congrArg Prod.fst first
      exact absurd holds (free fits owner)
    · exact inside
  · exact (listed_wakers_other same).symm ▸ member

/-- An id that was issued and that nobody holds. -/
structure Unheld (channel : Channel α) (side : Side) (id : UInt64) : Prop where
  issued : Fits channel.log → id.toNat < registrations side channel.log
  free : Fits channel.log → ∀ owner, channel.state.idOf side owner ≠ some id

/-- Nothing is registered under the id. -/
def Unfiled (channel : Channel α) (side : Side) (id : UInt64) : Prop :=
  Fits channel.log → ∀ entry ∈ channel.state.wakers side, entry.1 ≠ id

/-- An id that nobody holds stays so whatever happens elsewhere. -/
theorem Unheld.later {side : Side} {id : UInt64} (unheld : Unheld channel side id)
    (evolves : Evolves manners own channel after) : Unheld after side id where
  issued fits := Nat.lt_of_lt_of_le (unheld.issued (fits.of_suffix evolves.log))
    (registrations_mono side evolves.log)
  free fits owner holds := by
    have earlier := fits.of_suffix evolves.log
    rcases (evolves.tickets fits side).ids owner id holds with kept | newer
    · exact unheld.free earlier owner kept
    · exact absurd (unheld.issued earlier) (Nat.not_lt.mpr newer)

/-- Nothing is registered later under an id that was issued before. -/
theorem Unfiled.later {side : Side} {id : UInt64} (unfiled : Unfiled channel side id)
    (evolves : Evolves manners own channel after)
    (issued : Fits channel.log → id.toNat < registrations side channel.log) :
    Unfiled after side id := by
  intro fits entry member
  have earlier := fits.of_suffix evolves.log
  rcases (evolves.tickets fits side).entries entry member with kept | newer
  · exact unfiled earlier entry kept
  · rintro rfl
    exact absurd (issued earlier) (Nat.not_lt.mpr newer)

/-! ### The functions -/

/-- What the functions rely on: user code keeps the invariant and the guarantee, and its
panics are calm where they have to be. -/
structure Setting (manners : Manners)
    (contract : Prog.Contract (Channel α) (Callback α) Panic)
    (admits : Callback α → Panic → Channel α → Prop) : Prop where
  relies : Relies contract (Inv manners) (Guarantee manners none none) admits
  calm : manners.calm → Calm admits
  quiet : manners.quiet → ¬ Raised admits fun code => ∃ waker, code = .wake .senders waker
  aborts : Calm admits ∨ ∀ channel, contract.abort channel
  hangs : ∀ count, contract.grants count → ∀ channel : Channel α,
    count ≤ (accepted channel.log).length → contract.hang channel

section Functions

variable {contract : Prog.Contract (Channel α) (Callback α) Panic}
  {admits : Callback α → Panic → Channel α → Prop} (setting : Setting manners contract admits)
include setting

/-- Waking the receivers restores the invariant, and empties their registry. -/
theorem wakeReceivers_spec (core : Core manners channel) (sendQuiet : SendQuiet channel) :
    (wakeReceivers : M α Unit).wp contract
      (fun _ after => Inv manners after ∧ Guarantee manners none none channel after)
      (fun payload after => Inv manners after ∧ Guarantee manners none none channel after ∧
        (Calm admits → Disposable admits payload)) channel := by
  refine wp_wakeReceivers core.held ?_ ?_
  · exact fun none => ⟨⟨core, .of_nil none, sendQuiet⟩, .refl channel⟩
  · have fewer : ([] : List (UInt64 × Waker)).Subperm (channel.state.wakers .receivers) :=
      List.nil_subperm
    have inv : Inv manners (listed channel .receivers []) :=
      ⟨core.withdraw fewer, .of_nil rfl, sendQuiet.withdraw fewer.subset⟩
    refine Prog.wp_mono (setting.relies.wakeAll carries .receivers _ setting.aborts inv) ?_ ?_
    · rintro _ after ⟨kept, guaranteed, woken⟩
      exact ⟨kept, guaranteed.woken fun _ => woken⟩
    · rintro payload after ⟨kept, guaranteed, -, calm⟩
      exact ⟨kept, guaranteed.woken fun calmly => (calm (setting.calm calmly)).1,
        fun calmly => (calm calmly).2⟩

/-- Waking the parked senders leaves none of them behind. -/
theorem wakeSenders_spec (core : Core manners channel) (recvQuiet : RecvQuiet channel) :
    (wakeSenders : M α Unit).wp contract
      (fun _ after => Inv manners after ∧ Guarantee manners none none channel after ∧
        (Fits after.log → after.state.chan.rejecting = true → after.state.chan.sendWakers = []) ∧
        Woken (Guarantee manners none none) .senders channel.state.chan.sendWakers
          (listed channel .senders []) after)
      (fun payload after => Inv manners after ∧ Guarantee manners none none channel after ∧
        (Fits after.log → after.state.chan.rejecting = true → after.state.chan.sendWakers = []) ∧
        (Raised admits fun code => ∃ waker, code = .wake .senders waker) ∧
        (Calm admits → Disposable admits payload ∧
          Woken (Guarantee manners none none) .senders channel.state.chan.sendWakers
            (listed channel .senders []) after)) channel := by
  have fewer : ([] : List (UInt64 × Waker)).Subperm (channel.state.wakers .senders) :=
    List.nil_subperm
  have unstuck : ∀ {after : Channel α},
      Guarantee manners none none (listed channel .senders []) after →
      Fits after.log → after.state.chan.rejecting = true → after.state.chan.sendWakers = [] := by
    intro after guaranteed fits rejecting
    refine List.eq_nil_iff_forall_not_mem.mpr fun entry member => ?_
    exact absurd (guaranteed.stuck fits rejecting entry member nofun).2 List.not_mem_nil
  refine wp_wakeSenders core.held ?_ ?_
  · intro none
    refine ⟨⟨core, recvQuiet, .of_nil none⟩, .refl channel, fun _ _ => none, ?_⟩
    rw [none]
    have same : listed channel .senders [] = channel := by
      obtain ⟨state, held, log⟩ := channel
      obtain ⟨chan, strong, senders, receivers, stream, recvs, sends, fresh, uses⟩ := state
      simp [listed, World.onState, State.onChan, Chan.setWakers, ← none]
    rw [same]
    exact .refl channel
  · have inv : Inv manners (listed channel .senders []) :=
      ⟨core.withdraw fewer, recvQuiet.withdraw fewer.subset, .of_nil rfl⟩
    refine Prog.wp_mono (setting.relies.wakeAll carries .senders _ setting.aborts inv) ?_ ?_
    · rintro _ after ⟨kept, guaranteed, woken⟩
      exact ⟨kept, guaranteed.woken fun _ => woken, unstuck guaranteed, woken⟩
    · rintro payload after
        ⟨kept, guaranteed, ⟨code, thrown, left, ⟨entry, -, same⟩, admitted, -⟩, calm⟩
      exact ⟨kept, guaranteed.woken fun calmly => (calm (setting.calm calmly)).1,
        unstuck guaranteed, ⟨code, thrown, left, ⟨entry.2, same⟩, admitted⟩,
        fun calmly => (calm calmly).symm⟩

/-- A registration whose id nobody holds is removed, and its waker is dropped. -/
theorem removed_spec {side : Side} {id : UInt64} {waker : Waker} {rest : List (UInt64 × Waker)}
    (inv : Inv manners channel) (unheld : Unheld channel side id)
    (perm : (channel.state.wakers side).Perm ((id, waker) :: rest)) :
    (callback (.dropWaker waker) : M α Unit).wp contract
      (fun _ after => Inv manners after ∧ Guarantee manners none none channel after ∧
        Unfiled after side id)
      (fun _ after => Inv manners after ∧ Guarantee manners none none channel after ∧
        Unfiled after side id ∧ Raised admits fun code => ∃ waker, code = .dropWaker waker)
      (listed channel side rest) := by
  have fewer : rest.Subperm (channel.state.wakers side) :=
    (List.sublist_cons_self _ rest).subperm.trans perm.symm.subperm
  have kept : Inv manners (listed channel side rest) :=
    ⟨inv.core.withdraw fewer, inv.recvQuiet.withdraw fewer.subset,
      inv.sendQuiet.withdraw fewer.subset⟩
  have removed : Guarantee manners none none channel (listed channel side rest) :=
    .remove perm unheld.free
  have unfiled : Unfiled (listed channel side rest) side id := by
    intro fits entry member
    rw [listed_wakers] at member
    have nodup := (perm.map Prod.fst).nodup_iff.mp (inv.core.registries.tickets fits side).keys
    rintro rfl
    exact (List.nodup_cons.mp nodup).1 (List.mem_map.mpr ⟨entry, member, rfl⟩)
  refine Prog.wp_mono (setting.relies.runs carries (.dropWaker waker) trivial kept) ?_ ?_
  · rintro _ after ⟨kept', guaranteed⟩
    exact ⟨kept', removed.trans guaranteed, unfiled.later guaranteed.evolves unheld.issued⟩
  · rintro payload after ⟨kept', guaranteed, left, -, -, admitted⟩
    exact ⟨kept', removed.trans guaranteed, unfiled.later guaranteed.evolves unheld.issued,
      _, payload, left, ⟨waker, rfl⟩, admitted⟩

/-- Removing a receiver's registration leaves nothing under its id. -/
theorem removeRecv_spec {id : Option UInt64} (inv : Inv manners channel)
    (unheld : ∀ held, id = some held → Unheld channel .receivers held) :
    (removeRecv id : M α Unit).wp contract
      (fun _ after => Inv manners after ∧ Guarantee manners none none channel after ∧
        ∀ held, id = some held → Unfiled after .receivers held)
      (fun _ after => Inv manners after ∧ Guarantee manners none none channel after ∧
        (∀ held, id = some held → Unfiled after .receivers held) ∧
        Raised admits fun code => ∃ waker, code = .dropWaker waker) channel := by
  cases id with
  | none => exact ⟨inv, .refl channel, nofun⟩
  | some id =>
      refine wp_removeRecvWaker inv.core.held ?_ ?_
      · refine fun absent => ⟨inv, .refl channel, ?_⟩
        rintro held ⟨⟩ fits entry member rfl
        exact absent (List.mem_map_of_mem member)
      · intro waker rest perm
        refine Prog.wp_mono (removed_spec setting inv (unheld id rfl) perm) ?_ ?_
        · rintro _ after ⟨kept, guaranteed, unfiled⟩
          exact ⟨kept, guaranteed, by rintro held ⟨⟩; exact unfiled⟩
        · rintro _ after ⟨kept, guaranteed, unfiled, raised⟩
          exact ⟨kept, guaranteed, by rintro held ⟨⟩; exact unfiled, raised⟩

/-- Removing a sender's registration leaves nothing under its id. -/
theorem removeSend_spec {id : Option UInt64} (inv : Inv manners channel)
    (unheld : ∀ held, id = some held → Unheld channel .senders held) :
    (removeSend id : M α Unit).wp contract
      (fun _ after => Inv manners after ∧ Guarantee manners none none channel after ∧
        ∀ held, id = some held → Unfiled after .senders held)
      (fun _ after => Inv manners after ∧ Guarantee manners none none channel after ∧
        ∀ held, id = some held → Unfiled after .senders held) channel := by
  cases id with
  | none => exact ⟨inv, .refl channel, nofun⟩
  | some id =>
      refine wp_removeSendWaker inv.core.held ?_ ?_
      · refine fun absent => ⟨inv, .refl channel, ?_⟩
        rintro held ⟨⟩ fits entry member rfl
        exact absent (List.mem_map_of_mem member)
      · intro waker rest perm
        refine Prog.wp_mono (removed_spec setting inv (unheld id rfl) perm) ?_ ?_
        · rintro _ after ⟨kept, guaranteed, unfiled⟩
          exact ⟨kept, guaranteed, by rintro held ⟨⟩; exact unfiled⟩
        · rintro _ after ⟨kept, guaranteed, unfiled, -⟩
          exact ⟨kept, guaranteed, by rintro held ⟨⟩; exact unfiled⟩

end Functions

end Lochan.Mpmc
