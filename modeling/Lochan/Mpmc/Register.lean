import Lochan.Mpmc.Take

/-!
# Registering the tasks of an mpmc channel
-/

namespace Lochan.Mpmc

open Reentrant Queue

variable {α : Type} {manners : Manners} {own : Option Owner}
  {spare : Option (Side × UInt64)} {base channel after : Channel α}

/-! ### The registration id of a task -/

namespace State

variable {state : State α} {owner other : Owner} {side : Side} {id : Option UInt64}

/-- A receive future was there before it was changed. -/
theorem updateRecv_some {future key : Nat} {update : Recv → Recv} {this : Recv}
    (found : (state.updateRecv future update).recvs key = some this) :
    ∃ before, state.recvs key = some before ∧
      (key = future ∧ this = update before ∨ key ≠ future ∧ this = before) := by
  by_cases same : key = future
  · subst same
    simp only [updateRecv, Function.update_self, Option.map_eq_some_iff] at found
    obtain ⟨before, present, rfl⟩ := found
    exact ⟨before, present, .inl ⟨rfl, rfl⟩⟩
  · simp only [updateRecv, Function.update_of_ne same] at found
    exact ⟨this, found, .inr ⟨same, rfl⟩⟩

/-- A send future was there before it was changed. -/
theorem updateSend_some {future key : Nat} {update : Send α → Send α} {this : Send α}
    (found : (state.updateSend future update).sends key = some this) :
    ∃ before, state.sends key = some before ∧
      (key = future ∧ this = update before ∨ key ≠ future ∧ this = before) := by
  by_cases same : key = future
  · subst same
    simp only [updateSend, Function.update_self, Option.map_eq_some_iff] at found
    obtain ⟨before, present, rfl⟩ := found
    exact ⟨before, present, .inl ⟨rfl, rfl⟩⟩
  · simp only [updateSend, Function.update_of_ne same] at found
    exact ⟨this, found, .inr ⟨same, rfl⟩⟩

/-- A task keeps its id on its own half of the channel. -/
theorem wakerId_eq : state.wakerId owner = state.idOf owner.side owner := by
  cases owner <;> rfl

/-- A task has an id on its own half only. -/
theorem side_of_idOf {held : UInt64} (holds : state.idOf side owner = some held) :
    owner.side = side := by
  cases side <;> cases owner <;> first | rfl | cases holds

/-- The other tasks keep their ids. -/
theorem idOf_setWakerId_other (different : other ≠ owner) :
    (state.setWakerId id owner).idOf side other = state.idOf side other := by
  cases side <;> cases owner <;> cases other <;>
    simp_all [setWakerId, idOf, updateRecv, updateSend]

/-- A live task has the id that it was assigned. -/
theorem idOf_setWakerId (holds : state.RefLive owner.ref) :
    (state.setWakerId id owner).idOf owner.side owner = id := by
  cases owner with
  | stream receiver => simp [setWakerId, idOf, Owner.side]
  | recv future =>
      obtain ⟨this, found⟩ := Option.isSome_iff_exists.mp holds
      simp [setWakerId, idOf, updateRecv, Owner.side, found]
  | send future =>
      obtain ⟨this, found⟩ := Option.isSome_iff_exists.mp holds
      simp [setWakerId, idOf, updateSend, Owner.side, found]

/-- An id that a task has after an assignment is the one that was assigned. -/
theorem idOf_setWakerId_some {held : UInt64}
    (holds : (state.setWakerId id owner).idOf side owner = some held) : id = some held := by
  cases owner with
  | stream receiver =>
      cases side with
      | receivers => simpa [setWakerId, idOf] using holds
      | senders => cases holds
  | recv future =>
      cases side with
      | receivers =>
          obtain ⟨this, found, same⟩ := Option.bind_eq_some_iff.mp holds
          obtain ⟨before, -, ⟨-, rfl⟩ | ⟨other, -⟩⟩ := updateRecv_some found
          · exact same
          · exact absurd rfl other
      | senders => cases holds
  | send future =>
      cases side with
      | receivers => cases holds
      | senders =>
          obtain ⟨this, found, same⟩ := Option.bind_eq_some_iff.mp holds
          obtain ⟨before, -, ⟨-, rfl⟩ | ⟨other, -⟩⟩ := updateSend_some found
          · exact same
          · exact absurd rfl other

/-- Who has an id after an assignment has had it before, or was assigned it. -/
theorem idOf_setWakerId_cases {held : UInt64}
    (holds : (state.setWakerId id owner).idOf side other = some held) :
    state.idOf side other = some held ∧ other ≠ owner ∨ other = owner ∧ id = some held := by
  by_cases same : other = owner
  · subst same
    exact .inr ⟨rfl, idOf_setWakerId_some holds⟩
  · exact .inl ⟨idOf_setWakerId_other same ▸ holds, same⟩

/-- A task whose id was taken has none. -/
theorem idOf_taken : (state.setWakerId none owner).idOf side owner = none := by
  cases held : (state.setWakerId none owner).idOf side owner with
  | none => rfl
  | some id => cases idOf_setWakerId_some held

/-- An id does not decide whether a task has completed. -/
theorem unfinished_setWakerId :
    (state.setWakerId id owner).Unfinished other ↔ state.Unfinished other := by
  cases owner with
  | stream receiver => cases other <;> rfl
  | recv future =>
      cases other with
      | recv key =>
          by_cases same : key = future
          · subst same
            simp [setWakerId, Unfinished, updateRecv]
          · simp [setWakerId, Unfinished, updateRecv, Function.update_of_ne same]
      | _ => rfl
  | send future =>
      cases other with
      | send key =>
          by_cases same : key = future
          · subst same
            simp [setWakerId, Unfinished, updateSend]
          · simp [setWakerId, Unfinished, updateSend, Function.update_of_ne same]
      | _ => rfl

/-- An id of another task does not change a send future. -/
theorem sends_setWakerId {future : Nat} (different : owner ≠ .send future) :
    (state.setWakerId id owner).sends future = state.sends future := by
  cases owner with
  | send key =>
      have apart : future ≠ key := by
        rintro rfl
        exact different rfl
      exact Function.update_of_ne apart ..
  | _ => rfl

/-- An id of another task does not change a receive future. -/
theorem recvs_setWakerId {future : Nat} (different : owner ≠ .recv future) :
    (state.setWakerId id owner).recvs future = state.recvs future := by
  cases owner with
  | recv key =>
      have apart : future ≠ key := by
        rintro rfl
        exact different rfl
      exact Function.update_of_ne apart ..
  | _ => rfl

/-- An id of another task does not change a stream. -/
theorem streams_setWakerId {receiver : Nat} (different : owner ≠ .stream receiver) :
    (state.setWakerId id owner).streamWakerId receiver = state.streamWakerId receiver := by
  cases owner with
  | stream key =>
      have apart : receiver ≠ key := by
        rintro rfl
        exact different rfl
      exact Function.update_of_ne apart ..
  | _ => rfl

/-- An id does not change the registries. -/
theorem wakers_setWakerId : (state.setWakerId id owner).wakers = state.wakers := by
  cases owner <;> rfl

/-- An id does not change what is alive. -/
theorem refLive_setWakerId {ref : Ref} :
    (state.setWakerId id owner).RefLive ref ↔ state.RefLive ref := by
  cases owner with
  | stream receiver => cases ref <;> rfl
  | recv future =>
      cases ref with
      | recv key =>
          by_cases same : key = future
          · subst same
            simp [setWakerId, RefLive, updateRecv]
          · simp [setWakerId, RefLive, updateRecv, Function.update_of_ne same]
      | _ => rfl
  | send future =>
      cases ref with
      | send key =>
          by_cases same : key = future
          · subst same
            simp [setWakerId, RefLive, updateSend]
          · simp [setWakerId, RefLive, updateSend, Function.update_of_ne same]
      | _ => rfl

end State

/-- The channel after the registration id of a task was replaced. -/
abbrev reassigned (channel : Channel α) (owner : Owner) (id : Option UInt64) : Channel α :=
  channel.onState (·.setWakerId id owner)

/-- What lets a task hold a registration id. -/
structure MayHold (channel : Channel α) (owner : Owner) (id : UInt64) : Prop where
  live : channel.state.RefLive owner.ref
  running : ∀ receiver, owner = .stream receiver → ¬ Terminal receiver channel.log
  unsent : ∀ future this, owner = .send future → channel.state.sends future = some this →
    this.done = false
  issued : Fits channel.log → id.toNat < registrations owner.side channel.log
  free : Fits channel.log → ∀ other, channel.state.idOf owner.side other ≠ some id

/-- A task may be assigned an id that nobody else has. -/
theorem Core.reassign {owner : Owner} {id : Option UInt64} (core : Core manners channel)
    (may : ∀ held, id = some held → MayHold channel owner held) :
    Core manners (reassigned channel owner id) := by
  obtain ⟨held, books, handles, futures, registries⟩ := core
  have uses : ∀ ref ∈ channel.state.uses, (channel.state.setWakerId id owner).RefLive ref :=
    fun ref used => State.refLive_setWakerId.mpr (handles.uses ref used)
  have tickets : Fits channel.log → ∀ side, (ledger (reassigned channel owner id) side).Sound := by
    intro fits side
    have sound := registries.tickets fits side
    show Ticket.Ledger.Sound ⟨(channel.state.setWakerId id owner).wakers side, _, _⟩
    rw [State.wakers_setWakerId]
    have update : ∀ other used, (channel.state.setWakerId id owner).idOf side other = some used →
        channel.state.idOf side other = some used ∨ other = owner ∧ id = some used :=
      fun other used holds => (State.idOf_setWakerId_cases holds).imp_left And.left
    by_cases given : ∃ used, id = some used ∧ owner.side = side
    · obtain ⟨used, rfl, rfl⟩ := given
      refine sound.hold ((may used rfl).issued fits) ((may used rfl).free fits) owner ?_
      exact fun other held holds => (update other held holds).imp_right fun ⟨same, held⟩ =>
        ⟨same, (Option.some.inj held).symm⟩
    · refine sound.release fun other used holds => ?_
      refine (update other used holds).resolve_right ?_
      rintro ⟨rfl, same⟩
      exact given ⟨used, same, State.side_of_idOf holds⟩
  cases owner with
  | stream receiver =>
      refine ⟨held, { books with terminal := ?_ },
        { handles with stream := ?_, uses := uses }, { futures with },
        { registries with tickets := tickets }⟩
      · intro other ended
        refine ⟨(books.terminal other ended).1, ?_⟩
        by_cases same : other = receiver
        · subst same
          cases id with
          | none => exact Function.update_self ..
          | some used => exact absurd ended ((may used rfl).running other rfl)
        · exact (Function.update_of_ne same ..).trans (books.terminal other ended).2
      · intro other used holds
        by_cases same : other = receiver
        · subst same
          have given : id = some used := by simpa [State.setWakerId] using holds
          exact (may used given).live
        · exact handles.stream other used (by simpa [State.setWakerId, same] using holds)
  | recv future =>
      refine ⟨held, { books with }, { handles with recv := ?_, uses := uses },
        { futures with polled := ?_, received := ?_ }, { registries with tickets := tickets }⟩
      · intro other this found
        obtain ⟨before, present, ⟨-, rfl⟩ | ⟨-, rfl⟩⟩ := State.updateRecv_some found <;>
          exact (handles.recv other _ present :)
      · intro other this found
        obtain ⟨before, present, ⟨-, rfl⟩ | ⟨-, rfl⟩⟩ := State.updateRecv_some found <;>
          exact (futures.polled other _ present :)
      · intro other this found
        obtain ⟨before, present, ⟨-, rfl⟩ | ⟨-, rfl⟩⟩ := State.updateRecv_some found <;>
          exact (futures.received other _ present :)
  | send future =>
      refine ⟨held, { books with }, { handles with send := ?_, uses := uses },
        { futures with unsent := ?_, sent := ?_, outcome := ?_, answered := ?_ },
        { registries with tickets := tickets }⟩
      · intro other this found
        obtain ⟨before, present, ⟨-, rfl⟩ | ⟨-, rfl⟩⟩ := State.updateSend_some found <;>
          exact (handles.send other _ present :)
      · intro other this found
        obtain ⟨before, present, ⟨-, rfl⟩ | ⟨-, rfl⟩⟩ := State.updateSend_some found <;>
          exact (futures.unsent other _ present :)
      · intro other this found done
        obtain ⟨before, present, ⟨rfl, rfl⟩ | ⟨-, rfl⟩⟩ := State.updateSend_some found
        · cases id with
          | none => exact ⟨rfl, (futures.sent other _ present done).2⟩
          | some used =>
              have running := (may used rfl).unsent other _ rfl present
              exact absurd (running.symm.trans done) (by decide)
        · exact futures.sent other _ present done
      · intro other this result found
        obtain ⟨before, present, ⟨-, rfl⟩ | ⟨-, rfl⟩⟩ := State.updateSend_some found <;>
          exact (futures.outcome other _ result present :)
      · intro other this found
        obtain ⟨before, present, ⟨-, rfl⟩ | ⟨-, rfl⟩⟩ := State.updateSend_some found <;>
          exact (futures.answered other _ present :)

section Reassign

variable {owner other : Owner} {id : Option UInt64} {waker : Waker}

/-- An assignment holds no reference. -/
theorem reassigned_uses : (reassigned channel owner id).state.uses = channel.state.uses := by
  cases owner <;> rfl

/-- An assignment does not change the shared core. -/
theorem reassigned_chan : (reassigned channel owner id).state.chan = channel.state.chan := by
  cases owner <;> rfl

/-- An assignment does not change the entries of the registries. -/
theorem ledger_reassigned {side : Side} {entry : UInt64 × Waker} :
    entry ∈ (ledger (reassigned channel owner id) side).entries ↔
      entry ∈ (ledger channel side).entries := by
  cases owner <;> rfl

/-- An assignment does not change who else is parked. -/
theorem parked_reassigned (different : other ≠ owner) :
    Parked (reassigned channel owner id) other waker ↔ Parked channel other waker := by
  simp only [Parked, World.onState_state, State.idOf_setWakerId_other different,
    State.wakers_setWakerId]

/-- An assignment does not change who else misses a wake-up. -/
theorem missing_reassigned (different : other ≠ owner) :
    Missing (reassigned channel owner id) other waker ↔ Missing channel other waker := by
  simp only [Missing, parked_reassigned different, World.onState_log, World.onState_state,
    State.unfinished_setWakerId]

/-- Receivers stay quiet when an id is taken, or assigned to a task that is in use. -/
theorem RecvQuiet.reassign (quiet : RecvQuiet channel)
    (exempt : id = none ∨ owner.ref ∈ channel.state.uses) :
    RecvQuiet (reassigned channel owner id) where
  disconnected := by
    rw [reassigned_chan]
    exact quiet.disconnected
  empty fits other waker receives free waits unfinished parked := by
    rw [reassigned_uses] at free
    rw [reassigned_chan]
    by_cases same : other = owner
    · subst same
      rcases exempt with rfl | used
      · obtain ⟨held, holds, -⟩ := parked
        exact absurd (State.idOf_taken.symm.trans holds) nofun
      · exact absurd used free
    · exact quiet.empty fits other waker receives free waits
        (State.unfinished_setWakerId.mp unfinished) ((parked_reassigned same).mp parked)

/-- Senders stay quiet when an id is taken, or assigned to a task that is in use. -/
theorem SendQuiet.reassign (quiet : SendQuiet channel)
    (exempt : id = none ∨ owner.ref ∈ channel.state.uses) :
    SendQuiet (reassigned channel owner id) := by
  intro fits other waker sends free waits unfinished parked
  rw [reassigned_uses] at free
  rw [reassigned_chan]
  by_cases same : other = owner
  · subst same
    rcases exempt with rfl | used
    · obtain ⟨held, holds, -⟩ := parked
      exact absurd (State.idOf_taken.symm.trans holds) nofun
    · exact absurd used free
  · exact quiet fits other waker sends free waits
      (State.unfinished_setWakerId.mp unfinished) ((parked_reassigned same).mp parked)

/-- A task that takes or gives up an id on the way changes nothing else. A registration under
the id it gives up is left behind. -/
theorem Guarantee.reassign (guarantee : Guarantee manners (some owner) spare base channel)
    (late : ∀ held, id = some held → Fits channel.log →
      registrations owner.side base.log ≤ held.toNat)
    (left : ∀ held, channel.state.idOf owner.side owner = some held →
      spare = some (owner.side, held)) :
    Guarantee manners (some owner) spare base (reassigned channel owner id) := by
  obtain ⟨evolves, balance, emptied, occupied, orphans, stuck⟩ := guarantee
  have tickets : Fits channel.log → ∀ side,
      (ledger base side).Follows (ledger (reassigned channel owner id) side) := by
    intro fits side
    obtain ⟨issued, ids, entries⟩ := evolves.tickets fits side
    refine ⟨issued, fun other used holds => ?_, fun entry member => ?_⟩
    · rcases State.idOf_setWakerId_cases holds with ⟨kept, -⟩ | ⟨rfl, given⟩
      · exact ids other used kept
      · exact .inr (State.side_of_idOf holds ▸ late used given fits)
    · exact entries entry (ledger_reassigned.mp member)
  have orphans : Fits channel.log → ∀ side entry, spare ≠ some (side, entry.1) →
      (ledger (reassigned channel owner id) side).Orphan entry →
        (ledger base side).Orphan entry := by
    rintro fits side entry kept ⟨member, free⟩
    refine orphans fits side entry kept ⟨ledger_reassigned.mp member, fun other holds => ?_⟩
    by_cases same : other = owner
    · subst same
      obtain rfl := State.side_of_idOf holds
      exact kept (left _ holds)
    · exact free other ((State.idOf_setWakerId_other same).trans holds)
  have sends : ∀ future, .send future ∈ base.state.uses → some owner ≠ some (.send future) →
      (channel.state.setWakerId id owner).sends future = base.state.sends future :=
    fun future used different =>
      (State.sends_setWakerId fun same => different (congrArg _ same)).trans
      (evolves.sends future used different)
  have recvs : ∀ future, .recv future ∈ base.state.uses → some owner ≠ some (.recv future) →
      (channel.state.setWakerId id owner).recvs future = base.state.recvs future :=
    fun future used different =>
      (State.recvs_setWakerId fun same => different (congrArg _ same)).trans
      (evolves.recvs future used different)
  have streams : ∀ receiver, .receiverMut receiver ∈ base.state.uses →
      some owner ≠ some (.stream receiver) →
      (channel.state.setWakerId id owner).streamWakerId receiver =
        base.state.streamWakerId receiver :=
    fun receiver used different =>
      (State.streams_setWakerId fun same => different (congrArg _ same)).trans
        (evolves.streams receiver used different)
  have missing : manners.calm → Fits channel.log → ∀ other waker, some owner ≠ some other →
      Missing (reassigned channel owner id) other waker → Missing base other waker := by
    intro calm fits other waker different missing
    have apart : other ≠ owner := fun same => different (congrArg some same.symm)
    exact evolves.missing calm fits other waker different ((missing_reassigned apart).mp missing)
  cases owner <;>
    exact ⟨{ evolves with tickets, missing, sends, recvs, streams }, balance, emptied, occupied,
      orphans, stuck⟩

end Reassign

/-! ### Issuing an id and registering under it -/

/-- The channel after an id was issued on a side. -/
abbrev issued (channel : Channel α) (side : Side) : Channel α :=
  (channel.onState (·.onChan (·.setNextId side (channel.state.nextId side + 1)))).logged
    (.registered side)

section Issue

variable {side : Side}

/-- Issuing an id counts on its own half. -/
theorem registrations_issued {other : Side} {log : Log α} :
    registrations other (.registered side :: log) =
      registrations other log + if side = other then 1 else 0 := rfl

/-- While no id was issued twice, an id counts the ones issued before. -/
theorem Registries.nextId_toNat (registries : Registries channel) (fits : Fits channel.log)
    (side : Side) :
    (channel.state.nextId side).toNat = registrations side channel.log := by
  rw [registries.next side, UInt64.toNat_ofNat']
  exact Nat.mod_eq_of_lt (fits side)

/-- An id may be issued to a receiver when there is nothing to receive. -/
theorem Core.issue (core : Core manners channel) (side : Side)
    (empty : side = .receivers → channel.state.chan.contents = []) :
    Core manners (issued channel side) := by
  obtain ⟨held, books, handles, futures, registries⟩ := core
  have emptied : side = .receivers → Emptied channel.log := by
    intro receives
    rw [Emptied, books.fifo, empty receives, List.append_nil]
  have next : ∀ other, (issued channel side).state.nextId other =
      UInt64.ofNat (registrations other (.registered side :: channel.log)) := by
    intro other
    have before := registries.next other
    by_cases same : side = other
    · subst same
      have bumped : (issued channel side).state.nextId side = channel.state.nextId side + 1 := by
        cases side <;> rfl
      rw [bumped, before, registrations_issued, if_pos rfl, UInt64.ofNat_add]
      rfl
    · have kept : (issued channel side).state.nextId other = channel.state.nextId other := by
        cases side <;> cases other <;> first | rfl | exact absurd rfl same
      rw [kept, before, registrations_issued, if_neg same, Nat.add_zero]
  have tickets : Fits (issued channel side).log → ∀ other,
      (ledger (issued channel side) other).Sound := by
    intro fits other
    have sound := registries.tickets (fits.of_suffix (List.suffix_cons ..)) other
    have later : registrations other channel.log ≤ registrations other (issued channel side).log :=
      registrations_mono other (List.suffix_cons ..)
    have issues := sound.issue later
    cases side <;> cases other <;> exact issues
  cases side with
  | receivers =>
      exact ⟨held, { books with lawful := ⟨emptied rfl, books.lawful⟩ }, { handles with },
        { futures with }, ⟨next, tickets⟩⟩
  | senders =>
      exact ⟨held, { books with }, { handles with }, { futures with }, ⟨next, tickets⟩⟩

/-- Receivers stay quiet when an id is issued. -/
theorem RecvQuiet.issue (quiet : RecvQuiet channel) (side : Side) :
    RecvQuiet (issued channel side) := by
  obtain ⟨disconnected, empty⟩ := quiet
  cases side <;>
    exact ⟨disconnected, fun fits => empty (fits.of_suffix (List.suffix_cons ..))⟩

/-- Senders stay quiet when an id is issued. -/
theorem SendQuiet.issue (quiet : SendQuiet channel) (side : Side) :
    SendQuiet (issued channel side) := by
  cases side <;> exact fun fits => quiet (fits.of_suffix (List.suffix_cons ..))

/-- Issuing an id keeps the invariant. -/
theorem Inv.issue (inv : Inv manners channel) (side : Side)
    (empty : side = .receivers → channel.state.chan.contents = []) :
    Inv manners (issued channel side) :=
  ⟨inv.core.issue side empty, inv.recvQuiet.issue side, inv.sendQuiet.issue side⟩

/-- Issuing an id changes nothing else. -/
theorem Guarantee.issue (channel : Channel α) (side : Side) :
    Guarantee manners own spare channel (issued channel side) := by
  have logged : Guarantee manners own spare channel (channel.logged (.registered side)) :=
    .logged channel (fun _ _ _ waits => waits) (fun _ last => last) (fun _ _ ended => ended)
      (fun _ _ resolved => resolved) (.inl rfl)
  obtain ⟨evolves, balance, emptied, occupied, orphans, stuck⟩ := logged
  cases side <;> exact ⟨{ evolves with }, balance, emptied, occupied, orphans, stuck⟩

/-- An id that was issued and is not in use. -/
structure Vacant (channel : Channel α) (side : Side) (id : UInt64) : Prop
    extends Unheld channel side id where
  unfiled : Unfiled channel side id

/-- An id that has just been issued is vacant. -/
theorem Core.vacant (core : Core manners channel) (side : Side) :
    Vacant (Mpmc.issued channel side) side (channel.state.nextId side) := by
  have number : Fits (Mpmc.issued channel side).log →
      (channel.state.nextId side).toNat = registrations side channel.log :=
    fun fits => core.registries.nextId_toNat (fits.of_suffix (List.suffix_cons ..)) side
  refine ⟨⟨fun fits => ?_, fun fits owner holds => ?_⟩, fun fits entry member same => ?_⟩
  · rw [number fits]
    show _ < registrations side (.registered side :: channel.log)
    rw [registrations_issued, if_pos rfl]
    exact Nat.lt_succ_self _
  · have earlier := fits.of_suffix (List.suffix_cons ..)
    have holds : channel.state.idOf side owner = some (channel.state.nextId side) := by
      cases side <;> exact holds
    have below := (core.registries.tickets earlier side).held owner _ holds
    exact absurd (number fits) (Nat.ne_of_lt below)
  · have earlier := fits.of_suffix (List.suffix_cons ..)
    have member : entry ∈ channel.state.wakers side := by cases side <;> exact member
    have below := (core.registries.tickets earlier side).filed entry member
    rw [same] at below
    exact absurd (number fits) (Nat.ne_of_lt below)

/-- A vacant id stays vacant whatever happens elsewhere. -/
theorem Vacant.later {id : UInt64} (vacant : Vacant channel side id)
    (evolves : Evolves manners own channel after) : Vacant after side id :=
  ⟨vacant.toUnheld.later evolves, vacant.unfiled.later evolves vacant.issued⟩

end Issue

/-! ### Registering a task that holds an id -/

/-- The channel after a waker was registered. -/
abbrev filed (channel : Channel α) (side : Side) (id : UInt64) (waker : Waker) : Channel α :=
  listed channel side (channel.state.wakers side ++ [(id, waker)])

section File

variable {owner : Owner} {id : UInt64} {waker : Waker}

/-- An id may be assigned before or after it is filed. -/
theorem reassigned_filed {side : Side} :
    reassigned (filed channel side id waker) owner (some id) =
      filed (reassigned channel owner (some id)) side id waker := by
  cases owner <;> cases side <;> rfl

/-- An id that was issued may be filed if it is not filed yet. -/
theorem Core.file {side : Side} (core : Core manners channel) (unfiled : Unfiled channel side id)
    (below : Fits channel.log → id.toNat < registrations side channel.log) (waker : Waker) :
    Core manners (filed channel side id waker) := by
  obtain ⟨held, books, handles, futures, registries⟩ := core
  have tickets : Fits channel.log → ∀ other,
      (ledger (filed channel side id waker) other).Sound := by
    intro fits other
    have sound := registries.tickets fits other
    by_cases same : other = side
    · subst same
      have files := sound.file (below fits) (unfiled fits) waker
      cases other <;> exact files
    · cases side <;> cases other <;> first | exact absurd rfl same | exact sound
  cases side <;>
    exact ⟨held, { books with }, { handles with }, { futures with },
      ⟨fun | .receivers => registries.next .receivers | .senders => registries.next .senders,
        tickets⟩⟩

/-- Registering a task that is being polled parks nobody else. -/
theorem Parked.of_filed {other : Owner} {woken : Waker}
    (sound : (ledger channel owner.side).Sound)
    (holds : channel.state.idOf owner.side owner = some id)
    (parked : Parked (filed channel owner.side id waker) other woken) :
    Parked channel other woken ∨ other = owner := by
  obtain ⟨held, holds', member⟩ := parked
  have holds' : channel.state.idOf other.side other = some held := by
    cases owner <;> exact holds'
  by_cases same : other.side = owner.side
  · rw [same, listed_wakers] at member
    rcases List.mem_append.mp member with inside | last
    · exact .inl ⟨held, holds', same ▸ inside⟩
    · obtain rfl : held = id := congrArg Prod.fst (List.mem_singleton.mp last)
      exact .inr (sound.sole other owner held (same ▸ holds') holds)
  · exact .inl ⟨held, holds', listed_wakers_other same ▸ member⟩

/-- Receivers stay quiet when the task in use is registered. -/
theorem RecvQuiet.file (quiet : RecvQuiet channel) (core : Core manners channel)
    (connected : owner.side = .receivers → channel.state.chan.disconnected = false)
    (used : owner.ref ∈ channel.state.uses)
    (holds : channel.state.idOf owner.side owner = some id) (waker : Waker) :
    RecvQuiet (filed channel owner.side id waker) where
  disconnected disconnected := by
    cases owner with
    | send future => exact quiet.disconnected disconnected
    | stream _ | recv _ => exact absurd ((connected rfl).symm.trans disconnected) (by decide)
  empty fits other woken receives free waits unfinished parked := by
    rcases parked.of_filed
      (core.registries.tickets (by cases owner <;> exact fits) _) holds with kept | rfl
    · have empty := quiet.empty fits other woken receives (by cases owner <;> exact free) waits
        (by cases owner <;> cases other <;> exact unfinished) kept
      cases owner <;> exact empty
    · exact absurd (by cases other <;> exact used) free

/-- Senders stay quiet when the task in use is registered. -/
theorem SendQuiet.file (quiet : SendQuiet channel) (core : Core manners channel)
    (used : owner.ref ∈ channel.state.uses)
    (holds : channel.state.idOf owner.side owner = some id) (waker : Waker) :
    SendQuiet (filed channel owner.side id waker) := by
  intro fits other woken sends free waits unfinished parked
  rcases parked.of_filed (core.registries.tickets fits _) holds with kept | rfl
  · have full := quiet fits other woken sends (by cases owner <;> exact free) waits
      (by cases owner <;> cases other <;> exact unfinished) kept
    cases owner <;> exact full
  · exact absurd (by cases other <;> exact used) free

/-- Registering a task changes nothing else. -/
theorem Guarantee.file (guarantee : Guarantee manners own spare base channel)
    (late : Fits channel.log → registrations owner.side base.log ≤ id.toNat)
    (holds : channel.state.idOf owner.side owner = some id) (waker : Waker)
    (stuck : owner.side = .senders → channel.state.chan.rejecting = true →
      spare = some (.senders, id)) :
    Guarantee manners own spare base (filed channel owner.side id waker) := by
  obtain ⟨evolves, balance, emptied, occupied, orphans, stuck'⟩ := guarantee
  have entries : ∀ side entry, entry ∈ (filed channel owner.side id waker).state.wakers side →
      entry ∈ channel.state.wakers side ∨ side = owner.side ∧ entry = (id, waker) := by
    intro side entry member
    by_cases same : side = owner.side
    · subst same
      rw [listed_wakers] at member
      exact (List.mem_append.mp member).imp_right fun last => ⟨rfl, List.mem_singleton.mp last⟩
    · exact .inl (listed_wakers_other same ▸ member)
  have grows : ∀ side entry, entry ∈ channel.state.wakers side →
      entry ∈ (filed channel owner.side id waker).state.wakers side := by
    intro side entry member
    by_cases same : side = owner.side
    · subst same
      rw [listed_wakers]
      exact List.mem_append_left _ member
    · exact (listed_wakers_other same).symm ▸ member
  have tickets : Fits channel.log → ∀ side,
      (ledger base side).Follows (ledger (filed channel owner.side id waker) side) := by
    intro fits side
    obtain ⟨issued, ids, kept⟩ := evolves.tickets fits side
    refine ⟨issued, fun other used holds => ids other used ?_, fun entry member => ?_⟩
    · cases owner <;> exact holds
    · rcases entries side entry member with inside | ⟨rfl, rfl⟩
      · exact kept entry inside
      · exact .inr (late fits)
  have orphans : Fits channel.log → ∀ side entry, spare ≠ some (side, entry.1) →
      (ledger (filed channel owner.side id waker) side).Orphan entry →
      (ledger base side).Orphan entry := by
    rintro fits side entry kept ⟨member, free⟩
    have free : ∀ other, channel.state.idOf side other ≠ some entry.1 := by
      cases owner <;> exact free
    rcases entries side entry member with inside | ⟨rfl, rfl⟩
    · exact orphans fits side entry kept ⟨inside, free⟩
    · exact absurd holds (free owner)
  have missing : manners.calm → Fits channel.log → ∀ other woken, own ≠ some other →
      Missing (filed channel owner.side id waker) other woken → Missing base other woken := by
    rintro calm fits other woken different ⟨waits, unfinished, unparked⟩
    refine evolves.missing calm fits other woken different
      ⟨waits, by cases owner <;> cases other <;> exact unfinished, ?_⟩
    rintro ⟨held, holds', member⟩
    exact unparked ⟨held, by cases owner <;> exact holds', grows _ _ member⟩
  have stuck : Fits channel.log →
      (filed channel owner.side id waker).state.chan.rejecting = true →
      ∀ entry ∈ (filed channel owner.side id waker).state.chan.sendWakers,
        spare ≠ some (.senders, entry.1) →
        base.state.chan.rejecting = true ∧ entry ∈ base.state.chan.sendWakers := by
    intro fits rejecting entry member kept
    have rejecting : channel.state.chan.rejecting = true := by cases owner <;> exact rejecting
    rcases entries .senders entry member with inside | ⟨same, rfl⟩
    · exact stuck' fits rejecting entry inside kept
    · exact absurd (stuck same.symm rejecting) kept
  cases owner <;>
    exact ⟨{ evolves with tickets, missing }, balance, emptied, occupied, orphans, stuck⟩

/-- A task that is being polled takes a vacant id and is registered under it. -/
theorem Inv.enroll (inv : Inv manners channel) (used : owner.ref ∈ channel.state.uses)
    (may : MayHold channel owner id) (vacant : Vacant channel owner.side id)
    (connected : owner.side = .receivers → channel.state.chan.disconnected = false)
    (waker : Waker) :
    Inv manners (filed (reassigned channel owner (some id)) owner.side id waker) := by
  have core : Core manners (reassigned channel owner (some id)) := inv.core.reassign (by
    rintro held ⟨⟩
    exact may)
  have holds : (reassigned channel owner (some id)).state.idOf owner.side owner = some id :=
    State.idOf_setWakerId may.live
  have still : owner.ref ∈ (reassigned channel owner (some id)).state.uses :=
    reassigned_uses.symm ▸ used
  have unfiled : Unfiled (reassigned channel owner (some id)) owner.side id :=
    fun fits entry member => vacant.unfiled fits entry (ledger_reassigned.mp member)
  have open_ : owner.side = .receivers →
      (reassigned channel owner (some id)).state.chan.disconnected = false := by
    rw [reassigned_chan]
    exact connected
  have recvQuiet : RecvQuiet (reassigned channel owner (some id)) :=
    inv.recvQuiet.reassign (.inr used)
  have sendQuiet : SendQuiet (reassigned channel owner (some id)) :=
    inv.sendQuiet.reassign (.inr used)
  exact ⟨core.file unfiled may.issued waker,
    recvQuiet.file core open_ still holds waker,
    sendQuiet.file core still holds waker⟩

/-- A task that was assigned an id, which was filed, is parked. -/
theorem Parked.enrolled (live : channel.state.RefLive owner.ref) (waker : Waker) :
    Parked (filed (reassigned channel owner (some id)) owner.side id waker) owner waker := by
  refine ⟨id, ?_, ?_⟩
  · have holds : (channel.state.setWakerId (some id) owner).idOf owner.side owner = some id :=
      State.idOf_setWakerId live
    generalize owner.side = side at holds ⊢
    cases side <;> exact holds
  · rw [listed_wakers]
    exact List.mem_append_right _ (List.mem_singleton_self _)

end File

/-! ### The functions -/

section Functions

variable {contract : Prog.Contract (Channel α) (Callback α) Panic}
  {exc : Panic → Channel α → Prop}

/-- Registering a receiver runs user code between the check and the registration, and checks
once more. -/
theorem wp_addRecvWaker {post : UInt64 → Channel α → Prop} {waker : Waker}
    (skips : (channel.state.chan.disconnected || channel.state.chan.receivers == 0) = true →
      post channel.state.chan.nextRecvId (issued channel .receivers))
    (clones : (callback (.clone waker)).wp contract (fun _ after => after.held = [] ∧
      if after.state.chan.disconnected || after.state.chan.receivers == 0 then
        (callback (.dropWaker waker)).wp contract
          (fun _ => post channel.state.chan.nextRecvId) exc after
      else post channel.state.chan.nextRecvId
        (filed after .receivers channel.state.chan.nextRecvId waker)) exc
      (issued channel .receivers)) :
    (addRecvWaker waker : M α UInt64).wp contract post exc channel := by
  by_cases terminal : (channel.state.chan.disconnected || channel.state.chan.receivers == 0) = true
  · have issues : (Chan.disconnected { channel.state.chan with
        nextRecvId := channel.state.chan.nextRecvId + 1 } ||
        channel.state.chan.receivers == 0) = true := terminal
    simp only [addRecvWaker, Prog.wp_bind, wp_getChan, wp_modifyChan, wp_emit, World.logged_state,
      World.onState_state, State.onChan_chan, issues, ↓reduceIte]
    exact skips terminal
  · have issues : ¬ (Chan.disconnected { channel.state.chan with
        nextRecvId := channel.state.chan.nextRecvId + 1 } ||
        channel.state.chan.receivers == 0) = true := terminal
    simp only [addRecvWaker, Prog.wp_bind, wp_getChan, wp_modifyChan, wp_emit, World.logged_state,
      World.onState_state, State.onChan_chan, issues, ↓reduceIte, Bool.false_eq_true]
    refine Prog.wp_mono clones ?_ (fun _ _ unwound => unwound)
    rintro _ ⟨state, held, log⟩ ⟨clear, goes⟩
    subst clear
    split at goes
    · rename_i ends
      simp only [ends, ↓reduceIte, Prog.wp_bind]
      exact goes
    · rename_i goesOn
      simp only [goesOn, Bool.false_eq_true, ↓reduceIte, Prog.wp_bind]
      simp
      exact goes

/-- Registering a sender runs user code first. -/
theorem wp_addSendWaker {post : UInt64 → Channel α → Prop} {waker : Waker}
    (clones : (callback (.clone waker)).wp contract (fun _ after => after.held = [] ∧
      post after.state.chan.nextSendId
        (filed (issued after .senders) .senders after.state.chan.nextSendId waker)) exc channel) :
    (addSendWaker waker : M α UInt64).wp contract post exc channel := by
  simp only [addSendWaker, Prog.wp_bind]
  refine Prog.wp_mono clones ?_ (fun _ _ unwound => unwound)
  rintro _ ⟨state, held, log⟩ ⟨clear, files⟩
  subst clear
  simp
  exact files

end Functions

end Lochan.Mpmc
