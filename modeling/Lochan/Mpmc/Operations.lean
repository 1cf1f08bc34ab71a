import Lochan.Mpmc.Create

/-!
# The operations on an mpmc channel

Every operation, from its beginning to its end, keeps the invariant and the guarantee.
-/

namespace Lochan.Mpmc

open Reentrant Queue

variable {α β : Type} {manners : Manners} {own : Option Owner}
  {spare : Option (Side × UInt64)} {base channel after : Channel α}

/-! ### Holding a reference -/

/-- The channel while one more operation holds a reference. -/
abbrev inUse (channel : Channel α) (ref : Ref) : Channel α :=
  channel.onState fun state => { state with uses := ref :: state.uses }

/-- The channel after an operation gave up a reference. -/
abbrev released (channel : Channel α) (ref : Ref) : Channel α :=
  channel.onState fun state => { state with uses := state.uses.erase ref }

section Hold

variable {ref : Ref}

/-- An operation that holds a reference lets go of it, however it ends. -/
theorem wp_holding {contract : Prog.Contract (Channel α) (Callback α) Panic}
    {post : β → Channel α → Prop} {exc : Panic → Channel α → Prop} (act : M α β) :
    (holding ref act).wp contract post exc channel =
      act.wp contract (fun value after => post value (released after ref))
        (fun payload after => exc payload (released after ref)) (inUse channel ref) := by
  simp [holding]

/-- An operation may hold a reference to what is alive. -/
theorem Inv.hold (inv : Inv manners channel) (live : channel.state.RefLive ref) :
    Inv manners (inUse channel ref) := by
  obtain ⟨⟨held, books, handles, futures, registries⟩, recvQuiet, sendQuiet⟩ := inv
  have others : ∀ {other : Ref}, other ∉ ref :: channel.state.uses → other ∉ channel.state.uses :=
    fun free used => free (List.mem_cons_of_mem _ used)
  refine ⟨⟨held, { books with }, ?_, ?_, { registries with }⟩, ⟨recvQuiet.disconnected, ?_⟩, ?_⟩
  · exact { handles with
      uses := fun other used => by
        have live : channel.state.RefLive other := by
          rcases List.mem_cons.mp used with rfl | used
          · exact live
          · exact handles.uses other used
        cases other <;> exact live }
  · exact { futures with
      answered := fun future this found free => futures.answered future this found (others free)
      received := fun future this found free => futures.received future this found (others free) }
  · intro fits owner waker receives free waits unfinished parked
    exact recvQuiet.empty fits owner waker receives (others free) waits
      (by cases owner <;> exact unfinished) parked
  · intro fits owner waker sends free waits unfinished parked
    exact sendQuiet fits owner waker sends (others free) waits
      (by cases owner <;> exact unfinished) parked

/-- A reference to a task may be given up where the task is quiet, and has answered as the
log says. -/
theorem Inv.release (inv : Inv manners channel)
    (answered : ∀ future this, .send future = ref → channel.state.sends future = some this →
      this.done = true → (this.outcome = none ↔ Resolved (.send future) channel.log))
    (received : ∀ future this, .recv future = ref → channel.state.recvs future = some this →
      (this.done = true ↔ Resolved (.recv future) channel.log))
    (recvQuiet : ∀ owner waker, owner.ref = ref → owner.side = .receivers → Fits channel.log →
      waiting owner channel.log = some waker → channel.state.Unfinished owner →
      Parked channel owner waker → channel.state.chan.contents = [])
    (sendQuiet : ∀ owner waker, owner.ref = ref → owner.side = .senders → Fits channel.log →
      waiting owner channel.log = some waker → channel.state.Unfinished owner →
      Parked channel owner waker → channel.state.chan.flavor.isFull = true) :
    Inv manners (released channel ref) := by
  obtain ⟨⟨held, books, handles, futures, registries⟩, recv, send⟩ := inv
  have others : ∀ {other : Ref}, other ≠ ref → other ∉ channel.state.uses.erase ref →
      other ∉ channel.state.uses :=
    fun different free used => free ((List.mem_erase_of_ne different).mpr used)
  refine ⟨⟨held, { books with }, ?_, ?_, { registries with }⟩, ⟨recv.disconnected, ?_⟩, ?_⟩
  · exact { handles with
      uses := fun other used => by
        have live := handles.uses other (List.mem_of_mem_erase used)
        cases other <;> exact live }
  · exact { futures with
      answered := fun future this found free done => by
        by_cases same : .send future = ref
        · exact answered future this same found done
        · exact futures.answered future this found (others same free) done
      received := fun future this found free => by
        by_cases same : .recv future = ref
        · exact received future this same found
        · exact futures.received future this found (others same free) }
  · intro fits owner waker receives free waits unfinished parked
    have unfinished : channel.state.Unfinished owner := by cases owner <;> exact unfinished
    by_cases same : owner.ref = ref
    · exact recvQuiet owner waker same receives fits waits unfinished parked
    · exact recv.empty fits owner waker receives (others same free) waits unfinished parked
  · intro fits owner waker sends free waits unfinished parked
    have unfinished : channel.state.Unfinished owner := by cases owner <;> exact unfinished
    by_cases same : owner.ref = ref
    · exact sendQuiet owner waker same sends fits waits unfinished parked
    · exact send fits owner waker sends (others same free) waits unfinished parked

/-- A reference that no task is polled through may be given up anywhere. -/
theorem Inv.releasePlain (inv : Inv manners channel) (plain : ∀ owner : Owner, owner.ref ≠ ref) :
    Inv manners (released channel ref) :=
  inv.release (fun future _ same => absurd same (plain (.send future)))
    (fun future _ same => absurd same (plain (.recv future)))
    (fun owner _ same => absurd same (plain owner)) fun owner _ same => absurd same (plain owner)

/-- What was done while a reference was held is done when it is let go of. -/
theorem Guarantee.release (guarantee : Guarantee manners own spare (inUse channel ref) after) :
    Guarantee manners own spare channel (released after ref) := by
  obtain ⟨evolves, balance, emptied, occupied, orphans, stuck⟩ := guarantee
  have keeps : ∀ {other : Ref}, other ∈ channel.state.uses → other ∈ ref :: channel.state.uses :=
    fun used => List.mem_cons_of_mem _ used
  refine ⟨?_, balance, emptied, occupied, orphans, stuck⟩
  exact { evolves with
    uses := by
      show after.state.uses.erase ref = channel.state.uses
      rw [evolves.uses]
      exact List.erase_cons_head ..
    sends := fun future used => evolves.sends future (keeps used)
    recvs := fun future used => evolves.recvs future (keeps used)
    streams := fun receiver used => evolves.streams receiver (keeps used)
    waiting := fun owner used => evolves.waiting owner (keeps used)
    terminal := fun receiver used => evolves.terminal receiver (keeps used)
    resolved := fun owner used => evolves.resolved owner (keeps used)
    missing := fun calm fits owner waker other missing => by
      obtain ⟨waits, unfinished, unparked⟩ := evolves.missing calm fits owner waker other
        ⟨missing.1, by cases owner <;> exact missing.2.1, missing.2.2⟩
      exact ⟨waits, by cases owner <;> exact unfinished, unparked⟩ }

end Hold

section Functions

variable {contract : Prog.Contract (Channel α) (Callback α) Panic}
  {admits : Callback α → Panic → Channel α → Prop}

/-- An operation that holds a reference through which no task is polled. -/
theorem holding_spec {ref : Ref} {act : M α β} (inv : Inv manners channel)
    (plain : ∀ owner : Owner, owner.ref ≠ ref) (live : channel.state.RefLive ref)
    (answers : β → Channel α → Prop)
    (acts : Inv manners (inUse channel ref) → act.wp contract
      (fun value after => Inv manners after ∧
        Guarantee manners none none (inUse channel ref) after ∧ answers value (released after ref))
      (fun _ after => Inv manners after ∧
        Guarantee manners none none (inUse channel ref) after) (inUse channel ref)) :
    (holding ref act).wp contract
      (fun value after => Inv manners after ∧ Guarantee manners none none channel after ∧
        answers value after)
      (fun _ after => Inv manners after ∧ Guarantee manners none none channel after) channel := by
  rw [wp_holding]
  refine Prog.wp_mono (acts (inv.hold live)) ?_ ?_
  · rintro value after ⟨inv', evolves, answered⟩
    exact ⟨inv'.releasePlain plain, evolves.release, answered⟩
  · rintro _ after ⟨inv', evolves⟩
    exact ⟨inv'.releasePlain plain, evolves.release⟩

/-! ### Dropping a future -/

/-- A task that misses no wake-up needs no exception. -/
theorem Guarantee.disown {owner : Owner}
    (guarantee : Guarantee manners (some owner) spare channel after)
    (free : owner.ref ∉ channel.state.uses)
    (missing : manners.calm → Fits after.log → ∀ waker, ¬ Missing after owner waker) :
    Guarantee manners none spare channel after :=
  { guarantee with evolves := guarantee.evolves.disown free missing }

/-- A future that goes leaves at most one registration behind. -/
theorem Inv.forget (inv : Inv manners channel) (owner : Owner)
    (future : ∀ receiver, owner ≠ .stream receiver) (free : owner.ref ∉ channel.state.uses) :
    Inv manners (forgotten channel owner) ∧
      Guarantee manners none
        ((channel.state.idOf owner.side owner).map fun id => (owner.side, id)) channel
        (forgotten channel owner) ∧
      ∀ id, channel.state.idOf owner.side owner = some id →
        Unheld (forgotten channel owner) owner.side id := by
  have same : forgotten (reassigned channel owner none) owner = forgotten channel owner := by
    simp only [World.onState, State.without_setWakerId future]
  have idle : (reassigned channel owner none).state.idOf owner.side owner = none :=
    State.idOf_taken
  have free' : owner.ref ∉ (reassigned channel owner none).state.uses :=
    reassigned_uses.symm ▸ free
  have gone : ¬ (forgotten channel owner).state.Unfinished owner := by
    cases owner with
    | stream receiver => exact absurd rfl (future receiver)
    | send key =>
        rintro ⟨this, found, -⟩
        have found : (channel.state.without (.send key)).sends key = some this := found
        exact (State.sends_without found).2 rfl
    | recv key =>
        rintro ⟨this, found, -⟩
        have found : (channel.state.without (.recv key)).recvs key = some this := found
        exact (State.recvs_without found).2 rfl
  have goes : Guarantee manners (some owner) _ channel
      (forgotten (reassigned channel owner none) owner) :=
    (Guarantee.take owner channel).trans (.without idle free')
  rw [same] at goes
  refine ⟨same ▸ (inv.take owner).without idle free',
    goes.disown free fun _ _ _ missing => gone missing.2.1, fun id holds => ?_⟩
  obtain ⟨issued, free⟩ := inv.taken holds
  rw [← same]
  refine ⟨by cases owner <;> exact issued, fun fits other => ?_⟩
  rw [idOf_without idle]
  exact free (by cases owner <;> exact fits) other

variable (setting : Setting manners contract admits)
  (aborts : ∀ channel, contract.abort channel)
include setting aborts

/-- The fields of a send future are dropped, also when dropping its registration panics. -/
theorem dropSendFuture_spec {this : Send α} (inv : Inv manners channel)
    (unheld : ∀ held, this.wakerId = some held → Unheld channel .senders held) :
    (SendFuture.drop this).wp contract
      (fun _ after => Inv manners after ∧ Guarantee manners none none channel after ∧
        ∀ held, this.wakerId = some held → Unfiled after .senders held)
      (fun _ after => Inv manners after ∧ Guarantee manners none none channel after ∧
        ∀ held, this.wakerId = some held → Unfiled after .senders held) channel := by
  -- The fields that hold items follow.
  have fields : ∀ before, Inv manners before → Guarantee manners none none channel before →
      (∀ held, this.wakerId = some held → Unfiled before .senders held) →
      (dropGlue (dropItems this.item.toList) (dropItems this.unsent.toList) : M α Unit).leaves
        contract (fun after => Inv manners after ∧ Guarantee manners none none channel after ∧
          ∀ held, this.wakerId = some held → Unfiled after .senders held) before := by
    intro before inv removes unfiled
    have later : ∀ {after}, Guarantee manners none none before after →
        ∀ held, this.wakerId = some held → Unfiled after .senders held := by
      intro after drops held same
      exact (unfiled held same).later drops.evolves
        ((unheld held same).later removes.evolves).issued
    simp only [Prog.leaves, dropGlue, Prog.wp_ensuring]
    refine Prog.wp_mono (setting.relies.dropItems carries _ inv) ?_ ?_
    · rintro _ middle ⟨inv, drops⟩
      refine Prog.wp_mono (setting.relies.dropItems carries _ inv) ?_ ?_ <;>
        rintro _ after ⟨inv, drops'⟩ <;>
        exact ⟨inv, removes.trans (drops.trans drops'), later (drops.trans drops')⟩
    · rintro _ middle ⟨inv, drops⟩
      refine Prog.wp_mono (setting.relies.dropItems carries _ inv) ?_
        (fun _ after _ => aborts after)
      rintro _ after ⟨inv, drops'⟩
      exact ⟨inv, removes.trans (drops.trans drops'), later (drops.trans drops')⟩
  unfold SendFuture.drop dropGlue
  rw [Prog.wp_ensuring]
  refine Prog.wp_mono (removeSend_spec setting inv unheld) ?_ ?_
  · rintro _ removed ⟨inv', removes, unfiled⟩
    exact fields removed inv' removes unfiled
  · rintro _ removed ⟨inv', removes, unfiled⟩
    exact Prog.wp_mono (fields removed inv' removes unfiled) (fun _ _ kept => kept)
      fun _ after _ => aborts after

/-- Dropping a send future keeps the invariant. -/
theorem dropSend_spec {future : Nat} (inv : Inv manners channel)
    (owned : channel.state.SendOwned future) :
    (body (.dropSend future)).wp contract
      (fun result after => (Inv manners after ∧ Guarantee manners none none channel after) ∧
        result = .unit)
      (fun _ after => Inv manners after ∧ Guarantee manners none none channel after) channel := by
  obtain ⟨alive, free⟩ := owned
  obtain ⟨this, found⟩ := Option.isSome_iff_exists.mp alive
  obtain ⟨gone, goes, unheld⟩ := inv.forget (.send future) (by rintro _ ⟨⟩) free
  have holds : channel.state.idOf .senders (.send future) = this.wakerId := by
    simp [State.idOf, found]
  have live : (forgotten channel (.send future)).state.RefLive (.sender this.sender) :=
    (inv.core.handles.send future this found).1
  simp only [Owner.side, holds] at goes unheld
  simp only [body, Prog.wp_bind, wp_getState, found, wp_modifyState, Prog.wp_pure]
  rw [wp_holding]
  refine Prog.wp_mono (dropSendFuture_spec setting aborts (gone.hold live) fun held same =>
    ⟨(unheld held same).issued, (unheld held same).free⟩) ?_ ?_
  · rintro _ after ⟨inv', drops, unfiled⟩
    exact ⟨⟨inv'.releasePlain (by rintro (_ | _ | _) <;> rintro ⟨⟩),
      (goes.trans drops.release.raise).settleAll unfiled⟩, trivial⟩
  · rintro _ after ⟨inv', drops, unfiled⟩
    exact ⟨inv'.releasePlain (by rintro (_ | _ | _) <;> rintro ⟨⟩),
      (goes.trans drops.release.raise).settleAll unfiled⟩

omit aborts in
/-- Dropping a receive future keeps the invariant. -/
theorem dropRecv_spec {future : Nat} (inv : Inv manners channel)
    (owned : channel.state.RecvOwned future) :
    (body (.dropRecv future)).wp contract
      (fun result after => (Inv manners after ∧ Guarantee manners none none channel after) ∧
        result = .unit)
      (fun _ after => Inv manners after ∧ Guarantee manners none none channel after) channel := by
  obtain ⟨alive, free⟩ := owned
  obtain ⟨this, found⟩ := Option.isSome_iff_exists.mp alive
  obtain ⟨gone, goes, unheld⟩ := inv.forget (.recv future) (by rintro _ ⟨⟩) free
  have holds : channel.state.idOf .receivers (.recv future) = this.wakerId := by
    simp [State.idOf, found]
  have live : (forgotten channel (.recv future)).state.RefLive (.receiver this.receiver) :=
    (inv.core.handles.recv future this found).1
  simp only [Owner.side, holds] at goes unheld
  simp only [body, RecvFuture.drop, Prog.wp_bind, wp_getState, found, wp_modifyState,
    Prog.wp_pure]
  rw [wp_holding]
  refine Prog.wp_mono (removeRecv_spec setting (gone.hold live) fun held same =>
    ⟨(unheld held same).issued, (unheld held same).free⟩) ?_ ?_
  · rintro _ after ⟨inv', drops, unfiled⟩
    exact ⟨⟨inv'.releasePlain (by rintro (_ | _ | _) <;> rintro ⟨⟩),
      (goes.trans drops.release.raise).settleAll unfiled⟩, trivial⟩
  · rintro _ after ⟨inv', drops, unfiled, -⟩
    exact ⟨inv'.releasePlain (by rintro (_ | _ | _) <;> rintro ⟨⟩),
      (goes.trans drops.release.raise).settleAll unfiled⟩

end Functions

/-! ### The beginning and the end of an operation -/

/-- An operation does what its body does, and then is over. -/
theorem wp_perform {contract : Prog.Contract (Channel α) (Callback α) Panic}
    {post : Unit → Channel α → Prop} {exc : Panic → Channel α → Prop} (op : Op α) :
    (perform op).wp contract post exc channel = (body op).wp contract
      (fun result after => post () (after.logged (.returned channel.log.length op result)))
      (fun payload after => exc payload (after.logged (.unwound channel.log.length op)))
      (channel.logged (.began op)) := by
  simp only [perform, Prog.wp_bind, Prog.wp_read, wp_emit, Prog.wp_attempt, Prog.wp_unwind]

section Ends

variable {op : Op α} {owner : Owner} {waker : Waker}

/-- The beginning of an operation, where the task it polls, if any, is not registered. -/
theorem Core.began (core : Core manners channel)
    (below : ∀ owner waker, op.polls = some (owner, waker) → owner.index < channel.state.fresh) :
    Core manners (channel.logged (.began op)) := by
  obtain ⟨held, books, handles, futures, registries⟩ := core
  refine ⟨held, { books with }, ?_, ?_, { registries with }⟩
  · exact { handles with
      waiting := fun other woken waits => by
        by_cases polled : ∃ waker, op.polls = some (other, waker)
        · obtain ⟨waker, polls⟩ := polled
          exact below other waker polls
        · rw [World.logged_log, waiting_began_other fun waker polls =>
            polled ⟨waker, polls⟩] at waits
          exact handles.waiting other woken waits }
  · exact { futures with
      polled := fun future this found done =>
        (futures.polled future this found done).later (List.suffix_cons ..) }

/-- An operation that polls no task begins. -/
theorem Inv.began (inv : Inv manners channel) (plain : op.polls = none) :
    Inv manners (channel.logged (.began op)) := by
  have none : ∀ owner waker, op.polls ≠ some (owner, waker) := by simp [plain]
  have waits : ∀ owner, waiting owner (.began op :: channel.log) = waiting owner channel.log :=
    fun owner => waiting_began_other (none owner)
  obtain ⟨core, recvQuiet, sendQuiet⟩ := inv
  refine ⟨core.began fun owner waker polls => absurd polls (none owner waker),
    ⟨recvQuiet.disconnected, ?_⟩, ?_⟩
  · intro fits owner waker receives free waiting unfinished parked
    exact recvQuiet.empty fits owner waker receives free
      ((waits owner).symm.trans waiting) unfinished parked
  · intro fits owner waker sends free waiting unfinished parked
    exact sendQuiet fits owner waker sends free ((waits owner).symm.trans waiting) unfinished parked

/-- Beginning an operation that polls no task changes nothing. -/
theorem Guarantee.began (plain : op.polls = none) :
    Guarantee manners own spare channel (channel.logged (.began op)) := by
  refine .logged channel (fun owner waker _ waits => ?_) (fun _ last => last)
    (fun _ _ ended => ended) (fun _ _ resolved => resolved) (.inl rfl)
  have none : ∀ waker, op.polls ≠ some (owner, waker) := by simp [plain]
  rwa [waiting_began_other none] at waits

/-- An operation that polls a task begins, and uses the task. -/
theorem Inv.beganPoll (inv : Inv manners channel) (polls : op.polls = some (owner, waker))
    (live : channel.state.RefLive owner.ref) (below : owner.index < channel.state.fresh) :
    Inv manners (inUse (channel.logged (.began op)) owner.ref) := by
  have below : ∀ other waker, op.polls = some (other, waker) →
      other.index < channel.state.fresh := by
    intro other woken polls'
    obtain ⟨rfl, -⟩ := Prod.mk.inj (Option.some.inj (polls.symm.trans polls'))
    exact below
  have core := inv.core.began below
  have waits : ∀ {other woken}, other.ref ∉ owner.ref :: channel.state.uses →
      waiting other (.began op :: channel.log) = some woken →
      other.ref ∉ channel.state.uses ∧ waiting other channel.log = some woken := by
    intro other woken free waiting
    refine ⟨fun used => free (List.mem_cons_of_mem _ used), ?_⟩
    rwa [waiting_began_other] at waiting
    intro waker' polls'
    obtain ⟨rfl, -⟩ := Prod.mk.inj (Option.some.inj (polls.symm.trans polls'))
    exact free List.mem_cons_self
  obtain ⟨held, books, handles, futures, registries⟩ := core
  refine ⟨⟨held, { books with }, ?_, ?_, { registries with }⟩, ⟨inv.recvQuiet.disconnected, ?_⟩, ?_⟩
  · exact { handles with
      uses := fun other used => by
        have live : channel.state.RefLive other := by
          rcases List.mem_cons.mp used with rfl | used
          · exact live
          · exact handles.uses other used
        cases other <;> exact live }
  · exact { futures with
      answered := fun future this found free =>
        futures.answered future this found fun used => free (List.mem_cons_of_mem _ used)
      received := fun future this found free =>
        futures.received future this found fun used => free (List.mem_cons_of_mem _ used) }
  · intro fits other woken receives free waiting unfinished parked
    obtain ⟨free, waiting⟩ := waits free waiting
    exact inv.recvQuiet.empty fits other woken receives free waiting
      (by cases other <;> exact unfinished) parked
  · intro fits other woken sends free waiting unfinished parked
    obtain ⟨free, waiting⟩ := waits free waiting
    exact inv.sendQuiet fits other woken sends free waiting
      (by cases other <;> exact unfinished) parked

/-- A task that is polled is excepted until the poll is over. -/
theorem Guarantee.beganPoll (polls : op.polls = some (owner, waker))
    (free : owner.ref ∉ channel.state.uses) :
    Guarantee manners (some owner) spare channel (channel.logged (.began op)) := by
  refine .logged channel (fun other woken apart waits => ?_) (fun _ last => last)
    (fun _ _ ended => ended) (fun _ _ resolved => resolved) (.inl rfl)
  rwa [waiting_began_other] at waits
  intro waker' polls'
  obtain ⟨rfl, -⟩ := Prod.mk.inj (Option.some.inj (polls.symm.trans polls'))
  exact apart.elim (fun other => other rfl) free

/-- What an event at the end of an operation tells of the state. -/
structure Tells (channel : Channel α) (event : Event (Op α) (Result α) α) : Prop where
  observed : Observed (event :: channel.log) →
    channel.state.chan.disconnected = true ∧ channel.state.chan.contents = []
  terminal : ∀ receiver, Terminal receiver (event :: channel.log) →
    Observed (event :: channel.log) ∧ channel.state.streamWakerId receiver = none
  released : Released (event :: channel.log) → channel.state.chan.contents = []
  created : ∀ future item, Created future item (event :: channel.log) →
    Created future item channel.log ∨ future < channel.state.fresh ∧
      ∀ this, channel.state.sends future = some this →
        this.done = false ∧ this.outcome = none ∧ this.item = some item
  resolved : ∀ owner, Resolved owner (event :: channel.log) → Resolved owner channel.log ∨
    owner.ref ∈ channel.state.uses ∧ ∀ future, owner = .send future → Committed future channel.log
  lawful : Lawful SendOver (event :: channel.log)

/-- An operation may end when the books allow what it tells. -/
theorem Inv.ends {event : Event (Op α) (Result α) α} (inv : Inv manners channel)
    (ends : event.Ends) (tells : Tells channel event) : Inv manners (channel.logged event) := by
  obtain ⟨⟨held, books, handles, futures, registries⟩, recvQuiet, sendQuiet⟩ := inv
  have waits : ∀ {owner waker}, waiting owner (event :: channel.log) = some waker →
    waiting owner channel.log = some waker := waiting_ends ends
  have handles' : Handles (channel.logged event) :=
    { handles with waiting := fun owner waker waiting =>
      handles.waiting owner waker (waits waiting) }
  have recvQuiet' : Fits channel.log → ∀ owner waker, owner.side = .receivers →
      owner.ref ∉ channel.state.uses → waiting owner (event :: channel.log) = some waker →
      channel.state.Unfinished owner → Parked channel owner waker →
      channel.state.chan.contents = [] := fun fits owner waker receives free waiting =>
    recvQuiet.empty fits owner waker receives free (waits waiting)
  have sendQuiet' : Fits channel.log → ∀ owner waker, owner.side = .senders →
      owner.ref ∉ channel.state.uses → waiting owner (event :: channel.log) = some waker →
      channel.state.Unfinished owner → Parked channel owner waker →
      channel.state.chan.flavor.isFull = true := fun fits owner waker sends free waiting =>
    sendQuiet fits owner waker sends free (waits waiting)
  obtain ⟨observed, terminal, released, created, resolved, lawful⟩ := tells
  have suffix : channel.log <:+ event :: channel.log := List.suffix_cons ..
  have futures' : Futures (channel.logged event) := by
    have unmoved : ∀ {owner : Owner}, owner.ref ∉ channel.state.uses →
        (Resolved owner channel.log ↔ Resolved owner (event :: channel.log)) := fun free =>
      ⟨(·.later suffix), fun isOver => (resolved _ isOver).resolve_right fun used => free used.1⟩
    have committed : ∀ key, Committed key (event :: channel.log) ↔ Committed key channel.log := by
      intro key
      cases ends <;> exact .rfl
    have pushed : ∀ key, Pushed key (event :: channel.log) ↔ Pushed key channel.log := by
      intro key
      cases ends <;> exact .rfl
    constructor
    · intro key this found running
      obtain ⟨present, pending, uncommitted, before⟩ := futures.unsent key this found running
      refine ⟨present, pending, mt (committed key).mp uncommitted, fun item made => ?_⟩
      rcases created key item made with made | ⟨-, fresh⟩
      · exact before item made
      · exact (fresh this found).2.2
    · intro key this found done
      obtain ⟨idle, before⟩ := futures.sent key this found done
      exact ⟨idle, (committed key).mpr before⟩
    · intro key this result found recorded
      obtain ⟨accepts, unsent⟩ := futures.outcome key this result found recorded
      refine ⟨accepts.trans (pushed key).symm, fun error same item made => ?_⟩
      rcases created key item made with made | ⟨-, fresh⟩
      · exact unsent error same item made
      · exact absurd ((fresh this found).2.1.symm.trans recorded) nofun
    · exact fun key sent => (committed key).mpr (futures.pushed key ((pushed key).mp sent))
    · intro key isOver
      rcases resolved _ isOver with isOver | ⟨-, told⟩
      · exact (committed key).mpr (futures.resolved key isOver)
      · exact (committed key).mpr (told key rfl)
    · exact fun key this found free done => (futures.answered key this found free done).trans
        (unmoved free)
    · exact fun key this found done => (futures.polled key this found done).later suffix
    · exact fun key this found free => (futures.received key this found free).trans (unmoved free)
    · intro key item made
      rcases created key item made with made | ⟨below, -⟩
      · exact futures.created key item made
      · exact below
    · exact fun key before => futures.committed key ((committed key).mp before)
    · intro key isOver
      rcases resolved _ isOver with isOver | ⟨used, -⟩
      · exact futures.completed key isOver
      · obtain ⟨this, found⟩ := Option.isSome_iff_exists.mp (handles.uses _ used)
        exact (handles.recv key this found).2
  cases ends <;>
    exact ⟨⟨held, { books with observed, terminal, released, lawful }, handles', futures',
      { registries with }⟩, ⟨recvQuiet.disconnected, recvQuiet'⟩, sendQuiet'⟩

/-- The end of an operation changes nothing but what it tells of its own task. -/
theorem Guarantee.ends {event : Event (Op α) (Result α) α} (ends : event.Ends)
    (terminal : ∀ receiver, .receiverMut receiver ∈ channel.state.uses →
      Terminal receiver (event :: channel.log) → Terminal receiver channel.log)
    (resolved : ∀ owner, owner.ref ∈ channel.state.uses →
      Resolved owner (event :: channel.log) → Resolved owner channel.log)
    (receipt : receipts (event :: channel.log) = receipts channel.log ∨
      channel.state.chan.redelivery = none) :
    Guarantee manners own spare channel (channel.logged event) :=
  .logged channel (fun _ _ _ waits => waiting_ends ends waits)
    (fun _ last => by cases ends <;> exact last) terminal resolved receipt

end Ends

/-! ### Operations that poll no task -/

/-- What the end of an operation tells when its result says nothing new. -/
theorem Inv.tells (inv : Inv manners channel) {event : Event (Op α) (Result α) α}
    (observed : Observed (event :: channel.log) ↔ Observed channel.log)
    (terminal : ∀ receiver, Terminal receiver (event :: channel.log) →
      Terminal receiver channel.log)
    (released : Released (event :: channel.log) → Released channel.log)
    (created : ∀ future item, Created future item (event :: channel.log) →
      Created future item channel.log)
    (resolved : ∀ owner, Resolved owner (event :: channel.log) → Resolved owner channel.log)
    (lawful : Lawful SendOver channel.log → Lawful SendOver (event :: channel.log)) :
    Tells channel event where
  observed seen := inv.core.books.observed (observed.mp seen)
  terminal receiver ended := by
    obtain ⟨seen, idle⟩ := inv.core.books.terminal receiver (terminal receiver ended)
    exact ⟨observed.mpr seen, idle⟩
  released isOver := inv.core.books.released (released isOver)
  created future item made := .inl (created future item made)
  resolved owner isOver := .inl (resolved owner isOver)
  lawful := lawful inv.core.books.lawful

section Plain

variable {contract : Prog.Contract (Channel α) (Callback α) Panic}
  {admits : Callback α → Panic → Channel α → Prop} {op : Op α}

/-- An operation that unwinds tells nothing. -/
theorem Inv.unwound (inv : Inv manners channel) {start : Nat}
    (other : ∀ receiver, op ≠ .dropReceiver receiver) :
    Tells channel (.unwound start op) :=
  inv.tells Iff.rfl (fun _ => id) (.of_unwound other) (fun _ _ => id) (fun _ => id) id

/-- The end of an operation that polls no task resolves none. -/
theorem resolved_plain (plain : op.polls = none) {start : Nat} {result : Result α} {owner : Owner}
    {log : Log α} (resolved : Resolved owner (.returned start op result :: log)) :
    Resolved owner log := by
  rcases resolved with ⟨⟨waker, polls⟩, -⟩ | before
  · exact absurd (plain.symm.trans polls) nofun
  · exact before

/-- A receive that completes with an item leaves the redelivery slot vacant. -/
theorem receipts_returned {start : Nat} {result : Result α} {log : Log α}
    {redelivery : Option α} (handed : result.receives = true → redelivery = none) :
    receipts (.returned start op result :: log) = receipts log ∨ redelivery = none := by
  cases received : result.receives with
  | true => exact .inr (handed received)
  | false => exact .inl (by simp [receipts, received])

/-- An operation that polls no task, and what it tells. -/
theorem perform_plain (plain : op.polls = none) (inv : Inv manners channel)
    (does : Inv manners (channel.logged (.began op)) → (body op).wp contract
      (fun result after => Inv manners after ∧
        Guarantee manners none none (channel.logged (.began op)) after ∧
        Tells after (.returned channel.log.length op result) ∧
        (∀ receiver, .receiverMut receiver ∈ channel.state.uses →
          Terminal receiver (.returned channel.log.length op result :: after.log) →
          Terminal receiver after.log) ∧
        (result.receives = true → after.state.chan.redelivery = none))
      (fun _ after => Inv manners after ∧
        Guarantee manners none none (channel.logged (.began op)) after ∧
        Tells after (.unwound channel.log.length op)) (channel.logged (.began op))) :
    (perform op).leaves contract
      (fun after => Inv manners after ∧ Guarantee manners none none channel after) channel := by
  have begins : Guarantee manners none none channel (channel.logged (.began op)) := .began plain
  rw [Prog.leaves, wp_perform]
  refine Prog.wp_mono (does (inv.began plain)) ?_ ?_
  · rintro result after ⟨inv', evolves, tells, terminal, handed⟩
    have evolves := begins.trans evolves
    refine ⟨inv'.ends (.returned ..) tells, evolves.trans (.ends (.returned ..) ?_ ?_ ?_)⟩
    · exact fun receiver used => terminal receiver (evolves.evolves.uses ▸ used)
    · exact fun owner _ isOver => resolved_plain plain isOver
    · exact receipts_returned handed
  · rintro payload after ⟨inv', evolves, tells⟩
    exact ⟨inv'.ends (.unwound ..) tells, (begins.trans evolves).trans
      (.ends (.unwound ..) (fun _ _ ended => ended) (fun _ _ isOver => isOver) (.inl rfl))⟩

end Plain

end Lochan.Mpmc
