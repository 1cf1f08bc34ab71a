import Lochan.Mpsc.Operations

/-!
# New handles and futures of an mpsc channel
-/

namespace Lochan.Mpsc

open Reentrant Queue

variable {α : Type} {manners : Manners} {own : Option Owner} {channel : Channel α}

/-- Nothing belongs to an id that has not been allocated. -/
theorem Handles.unused (handles : Handles channel) :
    channel.state.sends channel.state.fresh = none ∧
      channel.state.recvs channel.state.fresh = none := by
  constructor
  · exact Option.eq_none_iff_forall_not_mem.mpr fun this found =>
      Nat.lt_irrefl _ (handles.send _ this found).2
  · exact Option.eq_none_iff_forall_not_mem.mpr fun this found =>
      Nat.lt_irrefl _ (handles.recv _ this found).2

/-! ### Senders -/

/-- The channel after a sender was cloned. -/
abbrev withSender (channel : Channel α) : Channel α :=
  channel.onState fun state =>
    { state with
      chan := { state.chan with senders := state.chan.senders + 1 }
      fresh := state.fresh + 1
      strong := state.strong + 1
      senders := state.fresh :: state.senders }

section Sender

variable {sender : Nat}

/-- Another sender does not reconnect a channel. -/
theorem withSender_disconnected (handles : Handles channel)
    (member : sender ∈ channel.state.senders) :
    (withSender channel).state.chan.disconnected = channel.state.chan.disconnected := by
  have some := handles.connected member
  show (channel.state.chan.senders + 1 == 0 || channel.state.chan.closed) =
    (channel.state.chan.senders == 0 || channel.state.chan.closed)
  rw [beq_false_of_ne some, beq_false_of_ne (Nat.succ_ne_zero _)]

/-- Another sender makes a channel no more and no less terminal. -/
theorem withSender_terminal (handles : Handles channel)
    (member : sender ∈ channel.state.senders) :
    (withSender channel).state.chan.terminal = channel.state.chan.terminal := by
  have some := handles.connected member
  show (!channel.state.chan.receiverAlive || channel.state.chan.senders + 1 == 0 ||
      channel.state.chan.closed) =
    (!channel.state.chan.receiverAlive || channel.state.chan.senders == 0 ||
      channel.state.chan.closed)
  rw [beq_false_of_ne some, beq_false_of_ne (Nat.succ_ne_zero _)]

/-- Cloning a sender keeps the invariant. -/
theorem Inv.addSender (inv : Inv manners channel) (member : sender ∈ channel.state.senders) :
    Inv manners (withSender channel) := by
  have disconnected := withSender_disconnected inv.handles member
  obtain ⟨held, books, handles, futures, registry⟩ := inv
  have later : ∀ {id : Nat}, id < channel.state.fresh → id < channel.state.fresh + 1 :=
    fun below => Nat.lt_succ_of_lt below
  refine ⟨held, ?_, ?_, ?_, { registry with }⟩
  · exact { books with
      observed := fun observed => disconnected.symm ▸ books.observed observed }
  · exact { handles with
      senders := congrArg (· + 1) handles.senders
      below := fun receiver alive => later (handles.below receiver alive)
      send := fun future this found => by
        obtain ⟨alive, below⟩ := handles.send future this found
        exact ⟨List.mem_cons_of_mem _ alive, later below⟩
      recv := fun future this found => by
        obtain ⟨alive, below⟩ := handles.recv future this found
        exact ⟨alive, later below⟩
      uses := fun ref used => by
        have live := handles.uses ref used
        cases ref with
        | sender other => exact List.mem_cons_of_mem _ live
        | _ => exact live
      strong := by
        have counts : channel.state.senders.length + channel.state.receiver.toList.length ≤
          channel.state.strong := handles.strong
        show channel.state.senders.length + 1 + channel.state.receiver.toList.length ≤
          channel.state.strong + 1
        omega
      settled := fun balance none => by
        have balance : channel.state.strong + 1 =
          channel.state.senders.length + 1 + channel.state.receiver.toList.length := balance
        refine handles.settled ?_ none
        show channel.state.strong =
          channel.state.senders.length + channel.state.receiver.toList.length
        omega
      expecting := fun owner waker expects => later (handles.expecting owner waker expects) }
  · exact { futures with
      created := fun future item created => later (futures.created future item created)
      committed := fun future committed => later (futures.committed future committed) }

/-- Cloning a sender is a step that an operation may make. -/
theorem Guarantee.addSender (handles : Handles channel) (member : sender ∈ channel.state.senders) :
    Guarantee manners own channel (withSender channel) := by
  have same : Guarantee manners own channel channel := .refl channel
  have some := handles.connected member
  have disconnected := withSender_disconnected handles member
  have terminal := withSender_terminal handles member
  exact
    { evolves := { same.evolves with
        fresh := Nat.le_succ _
        senders := fun none => absurd none some
        empty := fun sealed empty => empty
        reserved := fun _ _ => { Reserved.refl channel with waker := .inl rfl }
        missing := fun _ _ _ missing => { missing with } }
      tally := { same.tally with
        balance := by
          show channel.state.strong + 1 +
              (channel.state.senders.length + channel.state.receiver.toList.length) =
            channel.state.strong +
              (channel.state.senders.length + 1 + channel.state.receiver.toList.length)
          omega
        stuck := fun _ rejecting _ member => ⟨rejecting, member⟩ }
      retained := fun _ retained => ⟨retained.waker, terminal ▸ retained.terminal⟩
      exposed := fun _ _ _ exposed => .inl { exposed with
        urgent := exposed.urgent.imp_right fun isOver => disconnected ▸ isOver } }

end Sender

/-! ### Futures -/

/-- The channel after a send future was created. -/
abbrev withSend (channel : Channel α) (this : Send α) : Channel α :=
  channel.onState fun state =>
    { state with
      fresh := state.fresh + 1
      sends := Function.update state.sends state.fresh (some this) }

section Send

variable {sender : Nat} {item : α}

/-- A new send future holds no id. -/
theorem idOf_withSend (handles : Handles channel) :
    (withSend channel (Send.new sender item)).state.idOf = channel.state.idOf := by
  funext key
  by_cases same : key = channel.state.fresh
  · subst same
    simp [State.idOf, handles.unused.1, Send.new]
  · simp [State.idOf, Function.update_of_ne same]

/-- Making a send future keeps the invariant. -/
theorem Inv.addSend (inv : Inv manners channel) (member : sender ∈ channel.state.senders) :
    Inv manners (withSend channel (Send.new sender item)) := by
  have ids : (withSend channel (Send.new sender item)).state.idOf = channel.state.idOf :=
    idOf_withSend inv.handles
  have unused := inv.handles.unused.1
  obtain ⟨held, books, handles, futures, registry⟩ := inv
  have later : ∀ {id : Nat}, id < channel.state.fresh → id < channel.state.fresh + 1 :=
    fun below => Nat.lt_succ_of_lt below
  -- A future is the new one, or it was there before.
  have cases_ : ∀ key this, (withSend channel (Send.new sender item)).state.sends key = some this →
      key = channel.state.fresh ∧ this = Send.new sender item ∨
        channel.state.sends key = some this := by
    intro key this found
    have found : Function.update channel.state.sends channel.state.fresh
      (some (Send.new sender item)) key = some this := found
    by_cases same : key = channel.state.fresh
    · subst same
      rw [Function.update_self] at found
      exact .inl ⟨rfl, (Option.some.inj found).symm⟩
    · exact .inr ((Function.update_of_ne same ..).symm.trans found)
  refine ⟨held, { books with }, ?_, ?_, registry.next, fun fits => ?_, fun fits entry member => ?_⟩
  · exact { handles with
      below := fun receiver alive => later (handles.below receiver alive)
      send := fun key this found => by
        rcases cases_ key this found with ⟨rfl, rfl⟩ | found
        · exact ⟨member, Nat.lt_succ_self _⟩
        · obtain ⟨alive, below⟩ := handles.send key this found
          exact ⟨alive, later below⟩
      recv := fun future this found => by
        obtain ⟨alive, below⟩ := handles.recv future this found
        exact ⟨alive, later below⟩
      uses := fun ref used => by
        have live := handles.uses ref used
        cases ref with
        | send key =>
            have different : key ≠ channel.state.fresh := by
              rintro rfl
              exact absurd live (by simp [State.RefLive, unused])
            show (Function.update channel.state.sends channel.state.fresh
              (some (Send.new sender item)) key).isSome
            rw [Function.update_of_ne different]
            exact live
        | _ => exact live
      expecting := fun owner waker expects => later (handles.expecting owner waker expects) }
  · exact { futures with
      unsent := fun key this found running => by
        rcases cases_ key this found with ⟨rfl, rfl⟩ | found
        · refine ⟨rfl, rfl, fun committed => ?_, fun other created => ?_⟩
          · exact absurd (futures.committed _ committed) (Nat.lt_irrefl _)
          · exact absurd (futures.created _ _ created) (Nat.lt_irrefl _)
        · exact futures.unsent key this found running
      sent := fun key this found done => by
        rcases cases_ key this found with ⟨rfl, rfl⟩ | found
        · cases done
        · exact futures.sent key this found done
      outcome := fun key this result found recorded => by
        rcases cases_ key this found with ⟨rfl, rfl⟩ | found
        · cases recorded
        · exact futures.outcome key this result found recorded
      answered := fun key this found free done => by
        rcases cases_ key this found with ⟨rfl, rfl⟩ | found
        · cases done
        · exact futures.answered key this found free done
      created := fun future item created => later (futures.created future item created)
      committed := fun future committed => later (futures.committed future committed) }
  · have sound := registry.tickets fits
    show Ticket.Ledger.Sound ⟨_, (withSend channel (Send.new sender item)).state.idOf, _⟩
    rw [ids]
    exact sound
  · rw [ids]
    exact registry.owned fits entry member

/-- Making a send future is a step that an operation may make. -/
theorem Guarantee.addSend (handles : Handles channel) :
    Guarantee manners own channel (withSend channel (Send.new sender item)) := by
  have same : Guarantee manners own channel channel := .refl channel
  exact
    { evolves := { same.evolves with
        fresh := Nat.le_succ _
        sends := fun key used _ => by
          refine Function.update_of_ne ?_ ..
          rintro rfl
          exact absurd (handles.uses _ used) (by simp [State.RefLive, handles.unused.1])
        reserved := fun _ _ => { Reserved.refl channel with waker := .inl rfl }
        missing := fun _ _ _ missing => { missing with } }
      tally := { same.tally with
        stuck := fun _ rejecting _ member => ⟨rejecting, member⟩ }
      retained := fun _ retained => { retained with }
      exposed := fun _ _ _ exposed => .inl { exposed with } }

end Send

/-- The channel after a receive future was created. -/
abbrev withRecv (channel : Channel α) (receiver : Nat) : Channel α :=
  channel.onState fun state =>
    { state with
      fresh := state.fresh + 1
      recvs := Function.update state.recvs state.fresh (some ⟨receiver, false⟩) }

section Recv

variable {receiver : Nat}

/-- A receive future borrows the receiver: no operation and no other future uses it. -/
theorem Inv.addRecv (inv : Inv manners channel) (departing : Departing channel receiver) :
    Inv manners (withRecv channel receiver) := by
  have idle := departing.idle inv.handles
  obtain ⟨held, books, handles, futures, registry⟩ := inv
  have later : ∀ {id : Nat}, id < channel.state.fresh → id < channel.state.fresh + 1 :=
    fun below => Nat.lt_succ_of_lt below
  have only : ∀ key this, (withRecv channel receiver).state.recvs key = some this →
      key = channel.state.fresh ∧ this = ⟨receiver, false⟩ := by
    intro key this found
    have found : Function.update channel.state.recvs channel.state.fresh
      (some ⟨receiver, false⟩) key = some this := found
    by_cases same : key = channel.state.fresh
    · subst same
      rw [Function.update_self] at found
      exact ⟨rfl, (Option.some.inj found).symm⟩
    · rw [Function.update_of_ne same, departing.unborrowed key] at found
      cases found
  refine ⟨held, { books with }, ?_, ?_, { registry with }⟩
  · exact { handles with
      below := fun other alive => later (handles.below other alive)
      send := fun key this found => by
        obtain ⟨alive, below⟩ := handles.send key this found
        exact ⟨alive, later below⟩
      recv := fun key this found => by
        obtain ⟨rfl, rfl⟩ := only key this found
        exact ⟨departing.alive, Nat.lt_succ_self _⟩
      single := fun first second alive alive' => by
        obtain ⟨this, found⟩ := Option.isSome_iff_exists.mp alive
        obtain ⟨other, found'⟩ := Option.isSome_iff_exists.mp alive'
        exact (only first this found).1.trans (only second other found').1.symm
      unborrowed := fun other used => absurd ⟨_, used, trivial⟩ idle
      uses := fun ref used => by
        have live := handles.uses ref used
        cases ref with
        | recv key => exact absurd ⟨_, used, trivial⟩ idle
        | _ => exact live
      expecting := fun owner waker expects => later (handles.expecting owner waker expects) }
  · exact { futures with
      created := fun future item created => later (futures.created future item created)
      committed := fun future committed => later (futures.committed future committed) }

/-- Making a receive future is a step that an operation may make while nobody receives. -/
theorem Guarantee.addRecv (handles : Handles channel) (departing : Departing channel receiver) :
    Guarantee manners own channel (withRecv channel receiver) := by
  have same : Guarantee manners own channel channel := .refl channel
  have idle := departing.idle handles
  -- Nobody waits as the new future.
  have awaited : ∀ owner waker, expecting channel.log = some (owner, waker) →
      (withRecv channel receiver).state.Awaits owner → channel.state.Awaits owner := by
    intro owner waker expects awaits
    cases owner with
    | recv key =>
        have different : key ≠ channel.state.fresh :=
          Nat.ne_of_lt (handles.expecting _ waker expects)
        have awaits : (Function.update channel.state.recvs channel.state.fresh
          (some ⟨receiver, false⟩) key).isSome := awaits
        rwa [Function.update_of_ne different] at awaits
    | _ => exact awaits
  exact
    { evolves := { same.evolves with
        fresh := Nat.le_succ _
        recvs := fun key used _ => absurd ⟨_, used, trivial⟩ idle
        reserved := fun inUse => absurd inUse idle
        missing := fun _ owner waker missing =>
          ⟨missing.expects, awaited owner waker missing.expects missing.awaits, missing.unparked⟩ }
      tally := { same.tally with
        stuck := fun _ rejecting _ member => ⟨rejecting, member⟩ }
      retained := fun _ retained => { retained with }
      exposed := fun _ owner waker exposed =>
        .inl ⟨exposed.expects, awaited owner waker exposed.expects exposed.awaits, exposed.urgent⟩ }

end Recv

end Lochan.Mpsc
