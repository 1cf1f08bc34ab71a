import Lochan.Mpmc.Drops

/-!
# Handles and futures of an mpmc channel that come and go
-/

namespace Lochan.Mpmc

open Reentrant Queue

variable {α : Type} {manners : Manners} {own : Option Owner}
  {spare : Option (Side × UInt64)} {base channel after : Channel α}

/-! ### New handles -/

/-- Nothing belongs to an id that has not been allocated. -/
theorem Handles.unused (handles : Handles channel) :
    channel.state.fresh ∉ channel.state.receivers ∧
      channel.state.streamWakerId channel.state.fresh = none ∧
      channel.state.sends channel.state.fresh = none ∧
      channel.state.recvs channel.state.fresh = none := by
  have absent : channel.state.fresh ∉ channel.state.receivers :=
    fun member => Nat.lt_irrefl _ (handles.below _ member)
  refine ⟨absent, ?_, ?_, ?_⟩
  · exact Option.eq_none_iff_forall_not_mem.mpr fun id holds => absent (handles.stream _ id holds)
  · exact Option.eq_none_iff_forall_not_mem.mpr fun this found =>
      Nat.lt_irrefl _ (handles.send _ this found).2
  · exact Option.eq_none_iff_forall_not_mem.mpr fun this found =>
      Nat.lt_irrefl _ (handles.recv _ this found).2

/-- Nobody waits under an id that has not been allocated. -/
theorem Handles.silent (handles : Handles channel) (owner : Owner)
    (unused : owner.index = channel.state.fresh) (waker : Waker) :
    Lochan.waiting owner channel.log ≠ some waker := by
  intro waits
  exact Nat.lt_irrefl _ (unused ▸ handles.waiting owner waker waits)

/-- The channel after a sender was cloned. -/
abbrev withSender (channel : Channel α) : Channel α :=
  channel.onState fun state =>
    { state with
      chan := { state.chan with senders := state.chan.senders + 1 }
      fresh := state.fresh + 1
      strong := state.strong + 1
      senders := state.fresh :: state.senders }

section Sender

variable {sender : Nat}

/-- Another sender does not reconnect a channel. -/
theorem withSender_disconnected (handles : Handles channel)
    (member : sender ∈ channel.state.senders) :
    (withSender channel).state.chan.disconnected = channel.state.chan.disconnected := by
  have some : channel.state.chan.senders ≠ 0 := by
    rw [handles.senders]
    exact Nat.ne_of_gt (List.length_pos_of_mem member)
  show (channel.state.chan.senders + 1 == 0 || channel.state.chan.closed) =
    (channel.state.chan.senders == 0 || channel.state.chan.closed)
  rw [beq_false_of_ne some, beq_false_of_ne (Nat.succ_ne_zero _)]

/-- Cloning a sender keeps the invariant. -/
theorem Inv.addSender (inv : Inv manners channel) (member : sender ∈ channel.state.senders) :
    Inv manners (withSender channel) := by
  have disconnected := withSender_disconnected inv.core.handles member
  obtain ⟨⟨held, books, handles, futures, registries⟩, recvQuiet, sendQuiet⟩ := inv
  have later : ∀ {id : Nat}, id < channel.state.fresh → id < channel.state.fresh + 1 :=
    fun below => Nat.lt_succ_of_lt below
  refine ⟨⟨held, ?_, ?_, ?_, { registries with }⟩, ?_, sendQuiet⟩
  · exact { books with
      observed := fun observed => disconnected.symm ▸ books.observed observed }
  · exact { handles with
      senders := congrArg (· + 1) handles.senders
      below := fun receiver alive => later (handles.below receiver alive)
      send := fun future this found => by
        obtain ⟨alive, below⟩ := handles.send future this found
        exact ⟨List.mem_cons_of_mem _ alive, later below⟩
      recv := fun future this found => by
        obtain ⟨alive, below⟩ := handles.recv future this found
        exact ⟨alive, later below⟩
      uses := fun ref used => by
        have live := handles.uses ref used
        cases ref with
        | sender other => exact List.mem_cons_of_mem _ live
        | _ => exact live
      strong := by
        have counts := handles.strong
        show channel.state.senders.length + 1 + channel.state.receivers.length ≤
          channel.state.strong + 1
        have counts : channel.state.senders.length + channel.state.receivers.length ≤
          channel.state.strong := counts
        omega
      settled := fun balance none => by
        have balance : channel.state.strong + 1 =
          channel.state.senders.length + 1 + channel.state.receivers.length := balance
        refine handles.settled ?_ none
        show channel.state.strong = channel.state.senders.length + channel.state.receivers.length
        omega
      waiting := fun owner waker waits => later (handles.waiting owner waker waits) }
  · exact { futures with
      created := fun future item created => later (futures.created future item created)
      committed := fun future committed => later (futures.committed future committed)
      completed := fun future completed => later (futures.completed future completed) }
  · exact { recvQuiet with
      disconnected := fun none => recvQuiet.disconnected (disconnected ▸ none) }

/-- Cloning a sender is a step that an operation may make. -/
theorem Guarantee.addSender (handles : Handles channel) (member : sender ∈ channel.state.senders) :
    Guarantee manners own spare channel (withSender channel) := by
  have same : Guarantee manners own spare channel channel := .refl channel
  have some : channel.state.chan.senders ≠ 0 := by
    rw [handles.senders]
    exact Nat.ne_of_gt (List.length_pos_of_mem member)
  exact { same with
    evolves := { same.evolves with
      fresh := Nat.le_succ _
      senders := fun none => absurd none some
      missing := fun _ _ _ _ _ missing => missing }
    balance := by
      show channel.state.strong + 1 +
        (channel.state.senders.length + channel.state.receivers.length) =
        channel.state.strong + (channel.state.senders.length + 1 + channel.state.receivers.length)
      omega }

end Sender

/-- The channel after a receiver was cloned. -/
abbrev withReceiver (channel : Channel α) : Channel α :=
  channel.onState fun state =>
    { state with
      chan := { state.chan with receivers := state.chan.receivers + 1 }
      fresh := state.fresh + 1
      strong := state.strong + 1
      receivers := state.fresh :: state.receivers }

section Receiver

variable {receiver : Nat}

/-- Another receiver does not reopen a channel. -/
theorem withReceiver_rejecting (some : channel.state.chan.receivers ≠ 0) :
    (withReceiver channel).state.chan.rejecting = channel.state.chan.rejecting := by
  show (channel.state.chan.receivers + 1 == 0 || channel.state.chan.closed) =
    (channel.state.chan.receivers == 0 || channel.state.chan.closed)
  rw [beq_false_of_ne some, beq_false_of_ne (Nat.succ_ne_zero _)]

/-- A channel with a receiver counts one. -/
theorem Handles.alive (handles : Handles channel) (member : receiver ∈ channel.state.receivers) :
    channel.state.chan.receivers ≠ 0 := by
  rw [handles.receivers]
  exact Nat.ne_of_gt (List.length_pos_of_mem member)

/-- A task of a new receiver does not wait. -/
theorem unfinished_withReceiver {owner : Owner} (handles : Handles channel) {waker : Waker}
    (waits : waiting owner channel.log = some waker)
    (unfinished : (withReceiver channel).state.Unfinished owner) :
    channel.state.Unfinished owner := by
  cases owner with
  | stream other =>
      refine (List.mem_cons.mp unfinished).resolve_left ?_
      rintro rfl
      exact handles.silent (.stream _) rfl waker waits
  | _ => exact unfinished

/-- Cloning a receiver keeps the invariant. -/
theorem Inv.addReceiver (inv : Inv manners channel) (member : receiver ∈ channel.state.receivers) :
    Inv manners (withReceiver channel) := by
  have some := inv.core.handles.alive member
  have rejecting := withReceiver_rejecting some
  have unused := inv.core.handles.unused.1
  obtain ⟨⟨held, books, handles, futures, registries⟩, recvQuiet, sendQuiet⟩ := inv
  have later : ∀ {id : Nat}, id < channel.state.fresh → id < channel.state.fresh + 1 :=
    fun below => Nat.lt_succ_of_lt below
  refine ⟨⟨held, ?_, ?_, ?_, { registries with }⟩, ⟨recvQuiet.disconnected, ?_⟩, ?_⟩
  · exact { books with
      undrained := fun _ => books.undrained some
      shut := rejecting.symm ▸ books.shut
      last := fun other last => absurd (books.last other last) some }
  · exact { handles with
      receivers := congrArg (· + 1) handles.receivers
      nodup := List.nodup_cons.mpr ⟨unused, handles.nodup⟩
      below := fun other alive => by
        rcases List.mem_cons.mp alive with rfl | alive
        · exact Nat.lt_succ_self _
        · exact later (handles.below other alive)
      send := fun future this found => by
        obtain ⟨alive, below⟩ := handles.send future this found
        exact ⟨alive, later below⟩
      recv := fun future this found => by
        obtain ⟨alive, below⟩ := handles.recv future this found
        exact ⟨List.mem_cons_of_mem _ alive, later below⟩
      stream := fun other id holds => List.mem_cons_of_mem _ (handles.stream other id holds)
      uses := fun ref used => by
        have live := handles.uses ref used
        cases ref with
        | receiver other | receiverMut other => exact List.mem_cons_of_mem _ live
        | _ => exact live
      strong := Nat.succ_le_succ handles.strong
      settled := nofun
      waiting := fun owner waker waits => later (handles.waiting owner waker waits) }
  · exact { futures with
      created := fun future item created => later (futures.created future item created)
      committed := fun future committed => later (futures.committed future committed)
      completed := fun future completed => later (futures.completed future completed) }
  · intro fits owner waker receives free waits unfinished parked
    exact recvQuiet.empty fits owner waker receives free waits
      (unfinished_withReceiver handles waits unfinished) parked
  · intro fits owner waker sends free waits unfinished parked
    exact sendQuiet fits owner waker sends free waits
      (unfinished_withReceiver handles waits unfinished) parked

/-- Cloning a receiver is a step that an operation may make. -/
theorem Guarantee.addReceiver (handles : Handles channel)
    (member : receiver ∈ channel.state.receivers) :
    Guarantee manners own spare channel (withReceiver channel) := by
  have same : Guarantee manners own spare channel channel := .refl channel
  have some := handles.alive member
  have rejecting := withReceiver_rejecting some
  exact { same with
    evolves := { same.evolves with
      fresh := Nat.le_succ _
      receivers := fun none => absurd none some
      slot := fun none => absurd none some
      gone := fun other below absent => by
        refine ⟨fun alive => ?_, id⟩
        rcases List.mem_cons.mp alive with rfl | alive
        · exact Nat.lt_irrefl _ below
        · exact absent alive
      missing := fun _ _ owner waker _ missing =>
        ⟨missing.1, unfinished_withReceiver handles missing.1 missing.2.1, missing.2.2⟩ }
    balance := by
      show channel.state.strong + 1 +
        (channel.state.senders.length + channel.state.receivers.length) =
        channel.state.strong + (channel.state.senders.length + (channel.state.receivers.length + 1))
      omega
    emptied := fun _ none => absurd none (Nat.succ_ne_zero _)
    stuck := fun _ rejects _ member _ => ⟨rejecting ▸ rejects, member⟩ }

end Receiver

/-! ### New futures -/

/-- The channel after a send future was created. -/
abbrev withSend (channel : Channel α) (this : Send α) : Channel α :=
  channel.onState fun state =>
    { state with
      fresh := state.fresh + 1
      sends := Function.update state.sends state.fresh (some this) }

section Send

variable {sender : Nat} {item : α}

/-- A new send future holds no id. -/
theorem idOf_withSend (handles : Handles channel) :
    (withSend channel (Send.new sender item)).state.idOf = channel.state.idOf := by
  funext side owner
  cases side <;> cases owner <;> try rfl
  rename_i key
  by_cases same : key = channel.state.fresh
  · subst same
    simp [State.idOf, handles.unused.2.2.1, Send.new]
  · simp [State.idOf, Function.update_of_ne same]

/-- A new send future is not one of those that wait already. -/
theorem unfinished_withSend {owner : Owner} {this : Send α} (handles : Handles channel)
    {waker : Waker} (waits : waiting owner channel.log = some waker)
    (unfinished : (withSend channel this).state.Unfinished owner) :
    channel.state.Unfinished owner := by
  cases owner with
  | send key =>
      obtain ⟨other, found, running⟩ := unfinished
      have different : key ≠ channel.state.fresh := by
        rintro rfl
        exact handles.silent (.send _) rfl waker waits
      exact ⟨other, (Function.update_of_ne different ..).symm.trans found, running⟩
  | _ => exact unfinished

/-- A new send future parks nobody. -/
theorem parked_withSend {owner : Owner} {waker : Waker} (handles : Handles channel) :
    Parked (withSend channel (Send.new sender item)) owner waker ↔ Parked channel owner waker := by
  simp only [Parked, idOf_withSend handles]
  rfl

/-- Making a send future keeps the invariant. -/
theorem Inv.addSend (inv : Inv manners channel) (member : sender ∈ channel.state.senders) :
    Inv manners (withSend channel (Send.new sender item)) := by
  have ids : (withSend channel (Send.new sender item)).state.idOf = channel.state.idOf :=
    idOf_withSend inv.core.handles
  have unused := inv.core.handles.unused.2.2.1
  obtain ⟨⟨held, books, handles, futures, registries⟩, recvQuiet, sendQuiet⟩ := inv
  have later : ∀ {id : Nat}, id < channel.state.fresh → id < channel.state.fresh + 1 :=
    fun below => Nat.lt_succ_of_lt below
  -- A future is the new one, or it was there before.
  have cases_ : ∀ key this, (withSend channel (Send.new sender item)).state.sends key = some this →
      key = channel.state.fresh ∧ this = Send.new sender item ∨
        channel.state.sends key = some this := by
    intro key this found
    have found : Function.update channel.state.sends channel.state.fresh
      (some (Send.new sender item)) key = some this := found
    by_cases same : key = channel.state.fresh
    · subst same
      rw [Function.update_self] at found
      exact .inl ⟨rfl, (Option.some.inj found).symm⟩
    · exact .inr ((Function.update_of_ne same ..).symm.trans found)
  refine ⟨⟨held, { books with }, ?_, ?_, ⟨registries.next, fun fits side => ?_⟩⟩,
    ⟨recvQuiet.disconnected, ?_⟩, ?_⟩
  · exact { handles with
      below := fun receiver alive => later (handles.below receiver alive)
      send := fun key this found => by
        rcases cases_ key this found with ⟨rfl, rfl⟩ | found
        · exact ⟨member, Nat.lt_succ_self _⟩
        · obtain ⟨alive, below⟩ := handles.send key this found
          exact ⟨alive, later below⟩
      recv := fun future this found => by
        obtain ⟨alive, below⟩ := handles.recv future this found
        exact ⟨alive, later below⟩
      uses := fun ref used => by
        have live := handles.uses ref used
        cases ref with
        | send key =>
            have different : key ≠ channel.state.fresh := by
              rintro rfl
              exact absurd live (by simp [State.RefLive, unused])
            show (Function.update channel.state.sends channel.state.fresh
              (some (Send.new sender item)) key).isSome
            rw [Function.update_of_ne different]
            exact live
        | _ => exact live
      waiting := fun owner waker waits => later (handles.waiting owner waker waits) }
  · exact { futures with
      unsent := fun key this found running => by
        rcases cases_ key this found with ⟨rfl, rfl⟩ | found
        · refine ⟨rfl, rfl, fun committed => ?_, fun other created => ?_⟩
          · exact absurd (futures.committed _ committed) (Nat.lt_irrefl _)
          · exact absurd (futures.created _ _ created) (Nat.lt_irrefl _)
        · exact futures.unsent key this found running
      sent := fun key this found done => by
        rcases cases_ key this found with ⟨rfl, rfl⟩ | found
        · cases done
        · exact futures.sent key this found done
      outcome := fun key this result found recorded => by
        rcases cases_ key this found with ⟨rfl, rfl⟩ | found
        · cases recorded
        · exact futures.outcome key this result found recorded
      answered := fun key this found free done => by
        rcases cases_ key this found with ⟨rfl, rfl⟩ | found
        · cases done
        · exact futures.answered key this found free done
      created := fun future item created => later (futures.created future item created)
      committed := fun future committed => later (futures.committed future committed)
      completed := fun future completed => later (futures.completed future completed) }
  · have sound := registries.tickets fits side
    show Ticket.Ledger.Sound ⟨_, (withSend channel (Send.new sender item)).state.idOf side, _⟩
    rw [ids]
    exact sound
  · intro fits owner waker receives free waits unfinished parked
    exact recvQuiet.empty fits owner waker receives free waits
      (unfinished_withSend handles waits unfinished) ((parked_withSend handles).mp parked)
  · intro fits owner waker sends free waits unfinished parked
    exact sendQuiet fits owner waker sends free waits
      (unfinished_withSend handles waits unfinished) ((parked_withSend handles).mp parked)

/-- Making a send future is a step that an operation may make. -/
theorem Guarantee.addSend (handles : Handles channel) :
    Guarantee manners own spare channel (withSend channel (Send.new sender item)) := by
  have same : Guarantee manners own spare channel channel := .refl channel
  have ledgers : ∀ side, ledger (withSend channel (Send.new sender item)) side =
      ledger channel side := by
    intro side
    show Ticket.Ledger.mk _ ((withSend channel (Send.new sender item)).state.idOf side) _ = _
    rw [idOf_withSend handles]
    rfl
  exact { same with
    evolves := { same.evolves with
      fresh := Nat.le_succ _
      sends := fun key used _ => by
        refine Function.update_of_ne ?_ ..
        rintro rfl
        exact absurd (handles.uses _ used) (by simp [State.RefLive, handles.unused.2.2.1])
      tickets := fun _ side => ledgers side ▸ .refl _
      missing := fun _ _ owner waker _ missing =>
        ⟨missing.1, unfinished_withSend handles missing.1 missing.2.1,
          fun parked => missing.2.2 ((parked_withSend handles).mpr parked)⟩ }
    orphans := fun _ side entry _ orphan => ledgers side ▸ orphan }

end Send

/-- The channel after a receive future was created. -/
abbrev withRecv (channel : Channel α) (receiver : Nat) : Channel α :=
  channel.onState fun state =>
    { state with
      fresh := state.fresh + 1
      recvs := Function.update state.recvs state.fresh (some ⟨receiver, false, none⟩) }

section Recv

variable {receiver : Nat}

/-- A new receive future holds no id. -/
theorem idOf_withRecv (handles : Handles channel) :
    (withRecv channel receiver).state.idOf = channel.state.idOf := by
  funext side owner
  cases side <;> cases owner <;> try rfl
  rename_i key
  by_cases same : key = channel.state.fresh
  · subst same
    simp [State.idOf, handles.unused.2.2.2]
  · simp [State.idOf, Function.update_of_ne same]

/-- A new receive future is not one of those that wait already. -/
theorem unfinished_withRecv {owner : Owner} (handles : Handles channel)
    {waker : Waker} (waits : waiting owner channel.log = some waker)
    (unfinished : (withRecv channel receiver).state.Unfinished owner) :
    channel.state.Unfinished owner := by
  cases owner with
  | recv key =>
      obtain ⟨other, found, running⟩ := unfinished
      have different : key ≠ channel.state.fresh := by
        rintro rfl
        exact handles.silent (.recv _) rfl waker waits
      exact ⟨other, (Function.update_of_ne different ..).symm.trans found, running⟩
  | _ => exact unfinished

/-- A new receive future parks nobody. -/
theorem parked_withRecv {owner : Owner} {waker : Waker} (handles : Handles channel) :
    Parked (withRecv channel receiver) owner waker ↔ Parked channel owner waker := by
  simp only [Parked, idOf_withRecv handles]
  rfl

/-- Making a receive future keeps the invariant. -/
theorem Inv.addRecv (inv : Inv manners channel) (member : receiver ∈ channel.state.receivers) :
    Inv manners (withRecv channel receiver) := by
  have ids : (withRecv channel receiver).state.idOf = channel.state.idOf :=
    idOf_withRecv inv.core.handles
  have unused := inv.core.handles.unused.2.2.2
  obtain ⟨⟨held, books, handles, futures, registries⟩, recvQuiet, sendQuiet⟩ := inv
  have later : ∀ {id : Nat}, id < channel.state.fresh → id < channel.state.fresh + 1 :=
    fun below => Nat.lt_succ_of_lt below
  have cases_ : ∀ key this, (withRecv channel receiver).state.recvs key = some this →
      key = channel.state.fresh ∧ this = ⟨receiver, false, none⟩ ∨
        channel.state.recvs key = some this := by
    intro key this found
    have found : Function.update channel.state.recvs channel.state.fresh
      (some ⟨receiver, false, none⟩) key = some this := found
    by_cases same : key = channel.state.fresh
    · subst same
      rw [Function.update_self] at found
      exact .inl ⟨rfl, (Option.some.inj found).symm⟩
    · exact .inr ((Function.update_of_ne same ..).symm.trans found)
  refine ⟨⟨held, { books with }, ?_, ?_, ⟨registries.next, fun fits side => ?_⟩⟩,
    ⟨recvQuiet.disconnected, ?_⟩, ?_⟩
  · exact { handles with
      below := fun other alive => later (handles.below other alive)
      send := fun key this found => by
        obtain ⟨alive, below⟩ := handles.send key this found
        exact ⟨alive, later below⟩
      recv := fun key this found => by
        rcases cases_ key this found with ⟨rfl, rfl⟩ | found
        · exact ⟨member, Nat.lt_succ_self _⟩
        · obtain ⟨alive, below⟩ := handles.recv key this found
          exact ⟨alive, later below⟩
      uses := fun ref used => by
        have live := handles.uses ref used
        cases ref with
        | recv key =>
            have different : key ≠ channel.state.fresh := by
              rintro rfl
              exact absurd live (by simp [State.RefLive, unused])
            show (Function.update channel.state.recvs channel.state.fresh
              (some ⟨receiver, false, none⟩) key).isSome
            rw [Function.update_of_ne different]
            exact live
        | _ => exact live
      waiting := fun owner waker waits => later (handles.waiting owner waker waits) }
  · exact { futures with
      polled := fun key this found done => by
        rcases cases_ key this found with ⟨rfl, rfl⟩ | found
        · cases done
        · exact futures.polled key this found done
      received := fun key this found free => by
        rcases cases_ key this found with ⟨rfl, rfl⟩ | found
        · exact iff_of_false (by rintro ⟨⟩) fun completed =>
            absurd (futures.completed _ completed) (Nat.lt_irrefl _)
        · exact futures.received key this found free
      created := fun future item created => later (futures.created future item created)
      committed := fun future committed => later (futures.committed future committed)
      completed := fun future completed => later (futures.completed future completed) }
  · have sound := registries.tickets fits side
    show Ticket.Ledger.Sound ⟨_, (withRecv channel receiver).state.idOf side, _⟩
    rw [ids]
    exact sound
  · intro fits owner waker receives free waits unfinished parked
    exact recvQuiet.empty fits owner waker receives free waits
      (unfinished_withRecv handles waits unfinished) ((parked_withRecv handles).mp parked)
  · intro fits owner waker sends free waits unfinished parked
    exact sendQuiet fits owner waker sends free waits
      (unfinished_withRecv handles waits unfinished) ((parked_withRecv handles).mp parked)

/-- Making a receive future is a step that an operation may make. -/
theorem Guarantee.addRecv (handles : Handles channel) :
    Guarantee manners own spare channel (withRecv channel receiver) := by
  have same : Guarantee manners own spare channel channel := .refl channel
  have ledgers : ∀ side, ledger (withRecv channel receiver) side = ledger channel side := by
    intro side
    show Ticket.Ledger.mk _ ((withRecv channel receiver).state.idOf side) _ = _
    rw [idOf_withRecv handles]
    rfl
  exact { same with
    evolves := { same.evolves with
      fresh := Nat.le_succ _
      recvs := fun key used _ => by
        refine Function.update_of_ne ?_ ..
        rintro rfl
        exact absurd (handles.uses _ used) (by simp [State.RefLive, handles.unused.2.2.2])
      tickets := fun _ side => ledgers side ▸ .refl _
      missing := fun _ _ owner waker _ missing =>
        ⟨missing.1, unfinished_withRecv handles missing.1 missing.2.1,
          fun parked => missing.2.2 ((parked_withRecv handles).mpr parked)⟩ }
    orphans := fun _ side entry _ orphan => ledgers side ▸ orphan }

end Recv

/-! ### Futures that go -/

/-- The state without a future. -/
def State.without (state : State α) : Owner → State α
  | .send future => { state with sends := Function.update state.sends future none }
  | .recv future => { state with recvs := Function.update state.recvs future none }
  | .stream _ => state

/-- The channel without a future that its drop has released. -/
abbrev forgotten (channel : Channel α) (owner : Owner) : Channel α :=
  channel.onState (·.without owner)

section Without

variable {owner other : Owner} {side : Side} {key : Nat}

/-- A send future found after another went is one of those before. -/
theorem State.sends_without {state : State α} {this : Send α}
    (found : (state.without owner).sends key = some this) :
    state.sends key = some this ∧ owner ≠ .send key := by
  cases owner with
  | send future =>
      by_cases same : key = future
      · subst same
        simp [without] at found
      · refine ⟨by simpa [without, Function.update_of_ne same] using found, ?_⟩
        rintro ⟨⟩
        exact same rfl
  | _ => exact ⟨found, nofun⟩

/-- A receive future found after another went is one of those before. -/
theorem State.recvs_without {state : State α} {this : Recv}
    (found : (state.without owner).recvs key = some this) :
    state.recvs key = some this ∧ owner ≠ .recv key := by
  cases owner with
  | recv future =>
      by_cases same : key = future
      · subst same
        simp [without] at found
      · refine ⟨by simpa [without, Function.update_of_ne same] using found, ?_⟩
        rintro ⟨⟩
        exact same rfl
  | _ => exact ⟨found, nofun⟩

/-- The send futures beside the one that went stay. -/
theorem State.sends_without_other {state : State α} (different : owner ≠ .send key) :
    (state.without owner).sends key = state.sends key := by
  cases owner with
  | send future =>
      refine Function.update_of_ne ?_ ..
      rintro rfl
      exact different rfl
  | _ => rfl

/-- The receive futures beside the one that went stay. -/
theorem State.recvs_without_other {state : State α} (different : owner ≠ .recv key) :
    (state.without owner).recvs key = state.recvs key := by
  cases owner with
  | recv future =>
      refine Function.update_of_ne ?_ ..
      rintro rfl
      exact different rfl
  | _ => rfl

/-- The id of a future that goes makes no difference. -/
theorem State.without_setWakerId {state : State α} {id : Option UInt64}
    (future : ∀ receiver, owner ≠ .stream receiver) :
    (state.setWakerId id owner).without owner = state.without owner := by
  cases owner with
  | stream receiver => exact absurd rfl (future receiver)
  | send _ | recv _ => simp [without, setWakerId, updateSend, updateRecv]

/-- A future that goes without an id leaves the ids as they are. -/
theorem idOf_without (idle : channel.state.idOf owner.side owner = none) :
    (forgotten channel owner).state.idOf = channel.state.idOf := by
  funext side other
  cases owner with
  | stream _ => rfl
  | send future =>
      cases side <;> cases other <;> try rfl
      rename_i key
      by_cases same : key = future
      · subst same
        exact idle.symm ▸ by simp [State.idOf, State.without]
      · simp [State.idOf, State.without, Function.update_of_ne same]
  | recv future =>
      cases side <;> cases other <;> try rfl
      rename_i key
      by_cases same : key = future
      · subst same
        exact idle.symm ▸ by simp [State.idOf, State.without]
      · simp [State.idOf, State.without, Function.update_of_ne same]

/-- A task left unfinished after a future went was so before. -/
theorem unfinished_without (unfinished : (forgotten channel owner).state.Unfinished other) :
    channel.state.Unfinished other := by
  cases other with
  | send key =>
      obtain ⟨this, found, running⟩ := unfinished
      exact ⟨this, (State.sends_without found).1, running⟩
  | recv key =>
      obtain ⟨this, found, running⟩ := unfinished
      exact ⟨this, (State.recvs_without found).1, running⟩
  | stream receiver => cases owner <;> exact unfinished

/-- A future that goes without an id takes nobody from where it is parked. -/
theorem parked_without (idle : channel.state.idOf owner.side owner = none) {waker : Waker} :
    Parked (forgotten channel owner) other waker ↔ Parked channel other waker := by
  simp only [Parked, idOf_without idle]
  cases owner <;> rfl

/-- A future that no operation in progress uses, and that holds no id, may go. -/
theorem Inv.without (inv : Inv manners channel)
    (idle : channel.state.idOf owner.side owner = none) (free : owner.ref ∉ channel.state.uses) :
    Inv manners (forgotten channel owner) := by
  obtain ⟨⟨held, books, handles, futures, registries⟩, recvQuiet, sendQuiet⟩ := inv
  have books' : Books manners (forgotten channel owner) := by
    cases owner <;> exact { books with }
  have handles' : Handles (forgotten channel owner) := by
    have sends : ∀ key this, (channel.state.without owner).sends key = some this →
        this.sender ∈ channel.state.senders ∧ key < channel.state.fresh :=
      fun key this found => handles.send key this (State.sends_without found).1
    have recvs : ∀ key this, (channel.state.without owner).recvs key = some this →
        this.receiver ∈ channel.state.receivers ∧ key < channel.state.fresh :=
      fun key this found => handles.recv key this (State.recvs_without found).1
    have uses : ∀ ref ∈ channel.state.uses, (channel.state.without owner).RefLive ref := by
      intro ref used
      have live := handles.uses ref used
      cases ref with
      | send key =>
          have different : owner ≠ .send key := by
            rintro rfl
            exact free used
          simpa only [State.RefLive, State.sends_without_other different] using live
      | recv key =>
          have different : owner ≠ .recv key := by
            rintro rfl
            exact free used
          simpa only [State.RefLive, State.recvs_without_other different] using live
      | _ => cases owner <;> exact live
    cases owner <;> exact { handles with send := sends, recv := recvs, uses := uses }
  have futures' : Futures (forgotten channel owner) := by
    have unsent : ∀ key this, (channel.state.without owner).sends key = some this → _ :=
      fun key this found => futures.unsent key this (State.sends_without found).1
    have sent : ∀ key this, (channel.state.without owner).sends key = some this → _ :=
      fun key this found => futures.sent key this (State.sends_without found).1
    have polled : ∀ key this, (channel.state.without owner).recvs key = some this → _ :=
      fun key this found => futures.polled key this (State.recvs_without found).1
    have outcome : ∀ key this result, (channel.state.without owner).sends key = some this → _ :=
      fun key this result found => futures.outcome key this result (State.sends_without found).1
    have answered : ∀ key this, (channel.state.without owner).sends key = some this → _ :=
      fun key this found => futures.answered key this (State.sends_without found).1
    have received : ∀ key this, (channel.state.without owner).recvs key = some this → _ :=
      fun key this found => futures.received key this (State.recvs_without found).1
    cases owner <;> exact { futures with unsent, sent, polled, outcome, answered, received }
  have registries' : Registries (forgotten channel owner) := by
    refine ⟨by cases owner <;> exact registries.next, fun fits side => ?_⟩
    have sound := registries.tickets (by cases owner <;> exact fits) side
    show Ticket.Ledger.Sound ⟨_, (forgotten channel owner).state.idOf side, _⟩
    rw [idOf_without idle]
    cases owner <;> exact sound
  refine ⟨⟨by cases owner <;> exact held, books', handles', futures', registries'⟩,
    ⟨by cases owner <;> exact recvQuiet.disconnected, ?_⟩, ?_⟩
  · intro fits other waker receives free waits unfinished parked
    have empty := recvQuiet.empty (by cases owner <;> exact fits) other waker receives
      (by cases owner <;> exact free) (by cases owner <;> exact waits)
      (unfinished_without unfinished) ((parked_without idle).mp parked)
    cases owner <;> exact empty
  · intro fits other waker sends free waits unfinished parked
    have full := sendQuiet (by cases owner <;> exact fits) other waker sends
      (by cases owner <;> exact free) (by cases owner <;> exact waits)
      (unfinished_without unfinished) ((parked_without idle).mp parked)
    cases owner <;> exact full

/-- The end of a future without an id is a step that an operation may make. -/
theorem Guarantee.without (idle : channel.state.idOf owner.side owner = none)
    (free : owner.ref ∉ channel.state.uses) :
    Guarantee manners own spare channel (forgotten channel owner) := by
  have same : Guarantee manners own spare channel channel := .refl channel
  have ledgers : ∀ side, ledger (forgotten channel owner) side = ledger channel side := by
    intro side
    show Ticket.Ledger.mk _ ((forgotten channel owner).state.idOf side) _ = _
    rw [idOf_without idle]
    cases owner <;> rfl
  have sends : ∀ key, Ref.send key ∈ channel.state.uses → own ≠ some (.send key) →
      (channel.state.without owner).sends key = channel.state.sends key :=
    fun key used _ => State.sends_without_other (by rintro rfl; exact free used)
  have recvs : ∀ key, Ref.recv key ∈ channel.state.uses → own ≠ some (.recv key) →
      (channel.state.without owner).recvs key = channel.state.recvs key :=
    fun key used _ => State.recvs_without_other (by rintro rfl; exact free used)
  have tickets : Fits channel.log → ∀ side,
      (ledger channel side).Follows (ledger (forgotten channel owner) side) :=
    fun _ side => ledgers side ▸ .refl _
  have missing : manners.calm → Fits channel.log → ∀ other waker, own ≠ some other →
      Missing (forgotten channel owner) other waker → Missing channel other waker :=
    fun _ _ other waker _ missing => ⟨missing.1, unfinished_without missing.2.1,
      fun parked => missing.2.2 ((parked_without idle).mpr parked)⟩
  have orphans : Fits channel.log → ∀ side entry, spare ≠ some (side, entry.1) →
      (ledger (forgotten channel owner) side).Orphan entry →
        (ledger channel side).Orphan entry :=
    fun _ side entry _ orphan => ledgers side ▸ orphan
  obtain ⟨evolves, balance, emptied, occupied, -, stuck⟩ := same
  cases owner <;> exact ⟨{ evolves with sends, recvs, tickets, missing }, balance,
    emptied, occupied, orphans, stuck⟩

end Without

end Lochan.Mpmc
