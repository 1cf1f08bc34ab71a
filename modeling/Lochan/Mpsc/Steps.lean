import Lochan.Mpsc.Invariant

/-!
# The invariant and the guarantee of an mpsc channel along a run

The guarantee composes, and the events of callbacks keep it and the invariant.
-/

namespace Lochan.Mpsc

open Reentrant

variable {α : Type} {manners : Manners} {own : Option Owner} {first second third : Channel α}

/-! ### The log -/

/-- The receiver expects a wake until code invokes the waker of its poll. -/
theorem expecting_called {polled : Owner × Waker} {code : Callback α} {log : Log α} :
    expecting (.called code :: log) = some polled ↔
      expecting log = some polled ∧ code.invokes ≠ some polled.2 := by
  simp [expecting, Option.filter_eq_some_iff]

/-- A send future owes a wake until code invokes that waker. -/
theorem owed_called {future : Nat} {waker : Waker} {code : Callback α} {log : Log α} :
    owed future (.called code :: log) = some waker ↔
      owed future log = some waker ∧ code.invokes ≠ some waker := by
  simp [owed, Option.filter_eq_some_iff]

/-- A callback puts nobody in debt. -/
theorem owed_called_none {future : Nat} {code : Callback α} {log : Log α}
    (paid : owed future log = none) : owed future (.called code :: log) = none := by
  simp [owed, paid]

/-! ### The state -/

/-- Disconnected is to have no sender left, or to be closed. -/
theorem Chan.disconnected_iff {chan : Chan α} :
    chan.disconnected = true ↔ chan.senders = 0 ∨ chan.closed = true := by
  simp [Chan.disconnected]

/-- To reject is to have lost the receiver, or to be closed. -/
theorem Chan.rejecting_iff {chan : Chan α} :
    chan.rejecting = true ↔ chan.receiverAlive = false ∨ chan.closed = true := by
  simp [Chan.rejecting]

/-- Terminal is to have lost either side, or to be closed. -/
theorem Chan.terminal_iff {chan : Chan α} :
    chan.terminal = true ↔ chan.receiverAlive = false ∨ chan.senders = 0 ∨ chan.closed = true := by
  simp [Chan.terminal, or_assoc]

/-- A receiver that is there is counted as alive. -/
theorem Handles.alive {channel : Channel α} (handles : Handles channel) {receiver : Nat}
    (alive : channel.state.receiver = some receiver) : channel.state.chan.receiverAlive = true := by
  rw [handles.receiver, alive]
  rfl

/-- While the receiver is in use it is alive. -/
theorem Handles.inUse {channel : Channel α} (handles : Handles channel)
    (inUse : channel.state.InUse) : channel.state.chan.receiverAlive = true := by
  obtain ⟨ref, used, uses⟩ := inUse
  have live := handles.uses ref used
  cases ref with
  | receiverMut receiver => exact handles.alive live
  | recv future =>
      obtain ⟨this, found⟩ := Option.isSome_iff_exists.mp live
      exact handles.alive (handles.recv future this found).1
  | _ => exact uses.elim

namespace Reserved

/-- A channel reserves what it reserves. -/
theorem refl (channel : Channel α) : Reserved channel channel :=
  ⟨rfl, rfl, fun _ => id, List.prefix_refl _, .inl rfl⟩

/-- Reservations add up, if the channel does not reconnect in between. -/
theorem trans (earlier : Reserved first second) (later : Reserved second third)
    (disconnected : second.state.chan.disconnected = true →
      third.state.chan.disconnected = true) : Reserved first third where
  delivered := later.delivered.trans earlier.delivered
  received := later.received.trans earlier.received
  expects polled expects := earlier.expects polled (later.expects polled expects)
  contents := earlier.contents.trans later.contents
  waker := by
    rcases later.waker with kept | heard
    · rcases earlier.waker with kept' | ⟨vacant, some | ended⟩
      · exact .inl (kept.trans kept')
      · refine .inr ⟨kept.trans vacant, .inl fun none => some ?_⟩
        exact List.prefix_nil.mp (none ▸ later.contents)
      · exact .inr ⟨kept.trans vacant, .inr (disconnected ended)⟩
    · exact .inr heard

end Reserved

namespace Evolves

/-- Nothing need happen. -/
theorem refl (channel : Channel α) : Evolves manners own channel channel where
  log := List.suffix_refl _
  uses := rfl
  fresh := Nat.le_refl _
  closed := id
  senders := id
  receiver := id
  empty _ := id
  sends _ _ _ := rfl
  recvs _ _ _ := rfl
  reserved _ _ := .refl channel
  resolved _ _ := id
  committed _ _ _ := id
  owed _ _ _ _ := id
  missing _ _ _ := id

/-- A terminal channel stays terminal. -/
theorem terminal (evolves : Evolves manners own first second)
    (terminal : first.state.chan.terminal = true) : second.state.chan.terminal = true := by
  rw [Chan.terminal_iff] at terminal ⊢
  exact terminal.imp evolves.receiver (Or.imp evolves.senders evolves.closed)

/-- A disconnected channel stays disconnected. -/
theorem disconnected (evolves : Evolves manners own first second)
    (disconnected : first.state.chan.disconnected = true) :
    second.state.chan.disconnected = true := by
  rw [Chan.disconnected_iff] at disconnected ⊢
  exact disconnected.imp evolves.senders evolves.closed

/-- A channel that rejects goes on rejecting. -/
theorem rejecting (evolves : Evolves manners own first second)
    (rejecting : first.state.chan.rejecting = true) : second.state.chan.rejecting = true := by
  rw [Chan.rejecting_iff] at rejecting ⊢
  exact rejecting.imp evolves.receiver evolves.closed

/-- A channel in use stays in use. -/
theorem inUse (evolves : Evolves manners own first second) (inUse : first.state.InUse) :
    second.state.InUse := by
  unfold State.InUse
  rw [evolves.uses]
  exact inUse

/-- What evolves may evolve further. -/
theorem trans (earlier : Evolves manners own first second)
    (later : Evolves manners own second third) : Evolves manners own first third where
  log := earlier.log.trans later.log
  uses := later.uses.trans earlier.uses
  fresh := Nat.le_trans earlier.fresh later.fresh
  closed closed := later.closed (earlier.closed closed)
  senders none := later.senders (earlier.senders none)
  receiver gone := later.receiver (earlier.receiver gone)
  empty sealed none := later.empty (earlier.terminal sealed) (earlier.empty sealed none)
  sends future used other := by
    rw [later.sends future (earlier.uses ▸ used) other, earlier.sends future used other]
  recvs future used other := by
    rw [later.recvs future (earlier.uses ▸ used) other, earlier.recvs future used other]
  reserved inUse other := (earlier.reserved inUse other).trans
    (later.reserved (earlier.inUse inUse) other) later.disconnected
  resolved owner used resolved :=
    earlier.resolved owner used (later.resolved owner (earlier.uses ▸ used) resolved)
  committed future used other committed :=
    earlier.committed future used other
      (later.committed future (earlier.uses ▸ used) other committed)
  owed future used other waker owes :=
    earlier.owed future used other waker (later.owed future (earlier.uses ▸ used) other waker owes)
  missing orderly owner waker missing :=
    earlier.missing orderly owner waker (later.missing orderly owner waker missing)

/-- An operation that polls nothing respects a polled task all the more. -/
theorem weaken (evolves : Evolves manners none first second) : Evolves manners own first second :=
  { evolves with
    sends := fun future used _ => evolves.sends future used nofun
    recvs := fun future used _ => evolves.recvs future used nofun
    reserved := fun inUse _ => evolves.reserved inUse nofun
    committed := fun future used _ => evolves.committed future used nofun
    owed := fun future used _ => evolves.owed future used nofun }

end Evolves

namespace Tally

/-- Nothing need be counted. -/
theorem refl (channel : Channel α) : Tally channel channel where
  balance := rfl
  emptied alive gone := absurd (alive.symm.trans gone) nofun
  stuck _ rejecting _ member := ⟨rejecting, member⟩

/-- Counts add up. -/
theorem trans (earlier : Tally first second) (later : Tally second third)
    (evolves : Evolves manners own second third) : Tally first third where
  balance := by
    have := earlier.balance
    have := later.balance
    omega
  emptied alive gone := by
    cases between : second.state.chan.receiverAlive with
    | true => exact later.emptied between gone
    | false =>
        exact evolves.empty (Chan.terminal_iff.mpr (.inl between)) (earlier.emptied alive between)
  stuck fits rejecting entry member := by
    obtain ⟨rejecting', member'⟩ := later.stuck fits rejecting entry member
    exact earlier.stuck (fits.of_suffix evolves.log) rejecting' entry member'

end Tally

namespace Guarantee

/-- A channel that does nothing keeps every promise. -/
theorem refl (channel : Channel α) : Guarantee manners own channel channel :=
  ⟨.refl channel, .refl channel, fun _ => id, fun _ _ _ => .inl⟩

/-- Promises kept twice are kept over both. -/
theorem trans (earlier : Guarantee manners own first second)
    (later : Guarantee manners own second third) : Guarantee manners own first third where
  evolves := earlier.evolves.trans later.evolves
  tally := earlier.tally.trans later.tally later.evolves
  retained tidy retained := earlier.retained tidy (later.retained tidy retained)
  exposed orderly owner waker exposed := by
    rcases later.exposed orderly owner waker exposed with still | missing
    · exact earlier.exposed orderly owner waker still
    · exact .inr (earlier.evolves.missing orderly owner waker missing)

/-- What holds for every operation holds for the poll of one. -/
theorem weaken (guarantee : Guarantee manners none first second) :
    Guarantee manners own first second :=
  { guarantee with evolves := guarantee.evolves.weaken }

end Guarantee

/-! ### Events -/

/-- An event that has no bearing on the tasks. -/
structure Silent (channel : Channel α) (event : Event (Op α) (Result α) α) : Prop where
  expects : ∀ polled, expecting (event :: channel.log) = some polled →
    expecting channel.log = some polled
  delivers : delivered (event :: channel.log) = delivered channel.log
  receives : received (event :: channel.log) = received channel.log
  resolves : ∀ owner, owner.ref ∈ channel.state.uses → Resolved owner (event :: channel.log) →
    Resolved owner channel.log
  commits : ∀ future, Committed future (event :: channel.log) → Committed future channel.log
  owes : ∀ future waker, owed future (event :: channel.log) = some waker →
    owed future channel.log = some waker

/-- A callback that is entered is silent. -/
theorem Silent.called (channel : Channel α) (code : Callback α) :
    Silent channel (.called code) where
  expects _ expects := (expecting_called.mp expects).1
  delivers := by simp [delivered, Event.took?]
  receives := by simp [received, Event.received?]
  resolves _ _ := id
  commits _ := id
  owes _ _ owes := (owed_called.mp owes).1

/-- A callback that panics is silent. -/
theorem Silent.panicked (channel : Channel α) (code : Callback α) :
    Silent channel (.panicked code) where
  expects _ := id
  delivers := by simp [delivered, Event.took?]
  receives := by simp [received, Event.received?]
  resolves _ _ := id
  commits _ := id
  owes _ _ := id

/-- An event that has no bearing on the tasks is no change. -/
theorem Guarantee.logged {channel : Channel α} {event : Event (Op α) (Result α) α}
    (silent : Silent channel event) : Guarantee manners own channel (channel.logged event) := by
  have same : Guarantee manners own channel channel := .refl channel
  exact { same with
    evolves := { same.evolves with
      log := List.suffix_cons ..
      reserved := fun _ _ =>
        ⟨silent.delivers, silent.receives, silent.expects, List.prefix_refl _, .inl rfl⟩
      resolved := silent.resolves
      committed := fun future _ _ => silent.commits future
      owed := fun future _ _ => silent.owes future
      missing := fun _ owner waker missing =>
        ⟨silent.expects (owner, waker) missing.expects, missing.awaits, missing.unparked⟩ }
    tally := { same.tally with stuck := fun _ rejecting _ member => ⟨rejecting, member⟩ }
    exposed := fun _ owner waker exposed =>
      .inl ⟨silent.expects (owner, waker) exposed.expects, exposed.awaits, exposed.urgent⟩ }

/-- An event between callbacks keeps the invariant. -/
theorem Inv.idle {channel : Channel α} (inv : Inv manners channel)
    {event : Event (Op α) (Result α) α} (idle : event.Idle) :
    Inv manners (channel.logged event) := by
  obtain ⟨held, books, handles, futures, registry⟩ := inv
  cases event with
  | called code =>
      have silent := Silent.called channel code
      have receives : manners.quiet → ¬ channel.state.InUse →
          received (.called code :: channel.log) = delivered (.called code :: channel.log) := by
        intro quiet free
        rw [silent.receives, silent.delivers]
        exact books.received quiet free
      have handles : Handles (channel.logged (.called code)) := { handles with
        expecting := fun owner waker expects =>
          handles.expecting owner waker (silent.expects _ expects) }
      have futures : Futures manners (channel.logged (.called code)) := { futures with
        notified := fun prompt future free =>
          owed_called_none (futures.notified prompt future free) }
      cases code <;> first
        | exact idle.elim
        | exact ⟨held, { books with received := receives }, handles, futures, { registry with }⟩
  | panicked code =>
      exact ⟨held, { books with }, { handles with }, { futures with }, { registry with }⟩
  | _ => exact idle.elim

/-- A callback keeps the invariant, given that each operation it starts does. -/
theorem carries : Carries (Inv (α := α) manners) (Guarantee manners none) where
  refl := .refl
  trans _ _ _ := .trans
  logged channel event idle inv := by
    refine ⟨inv.idle idle, ?_⟩
    cases event with
    | called code => exact .logged (.called channel code)
    | panicked code => exact .logged (.panicked channel code)
    | _ => exact idle.elim

end Lochan.Mpsc
