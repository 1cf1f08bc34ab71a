import Lochan.Mpsc.Drops

/-!
# The operations on an mpsc channel

What an operation adds around what it does: the reference it holds, its beginning and its end.
-/

namespace Lochan.Mpsc

open Reentrant Queue

variable {α β : Type} {manners : Manners} {own : Option Owner} {base channel after : Channel α}

/-! ### Holding a reference -/

/-- The channel while one more operation holds a reference. -/
abbrev inUse (channel : Channel α) (ref : Ref) : Channel α :=
  channel.onState fun state => { state with uses := ref :: state.uses }

/-- The channel after an operation gave up a reference. -/
abbrev released (channel : Channel α) (ref : Ref) : Channel α :=
  channel.onState fun state => { state with uses := state.uses.erase ref }

section Hold

variable {ref : Ref}

/-- A reference is held for as long as the program runs, however it ends. -/
theorem wp_holding {contract : Prog.Contract (Channel α) (Callback α) Panic}
    {post : β → Channel α → Prop} {exc : Panic → Channel α → Prop} (act : M α β) :
    (holding ref act).wp contract post exc channel =
      act.wp contract (fun value after => post value (released after ref))
        (fun payload after => exc payload (released after ref)) (inUse channel ref) := by
  simp [holding]

/-- References in use do not decide which are live. -/
theorem State.refLive_uses {state : State α} {uses : List Ref} {other : Ref} :
    ({ state with uses := uses } : State α).RefLive other ↔ state.RefLive other := by
  cases other <;> exact Iff.rfl

/-- Holding a live reference keeps the invariant, if an exclusive one is held alone. -/
theorem Inv.hold (inv : Inv manners channel) (live : channel.state.RefLive ref)
    (alone : ∀ receiver, ref = .receiverMut receiver → ∀ future,
      channel.state.recvs future = none) :
    Inv manners (inUse channel ref) := by
  obtain ⟨held, books, handles, futures, registry⟩ := inv
  have others : ∀ {other : Ref}, other ∉ ref :: channel.state.uses → other ∉ channel.state.uses :=
    fun free used => free (List.mem_cons_of_mem _ used)
  refine ⟨held, ?_, ?_, ?_, { registry with }⟩
  · exact { books with
      received := fun quiet free => by
        refine books.received quiet fun ⟨other, used, uses⟩ => free ?_
        exact ⟨other, List.mem_cons_of_mem _ used, uses⟩ }
  · exact { handles with
      unborrowed := fun receiver used => by
        rcases List.mem_cons.mp used with same | used
        · exact alone receiver same.symm
        · exact handles.unborrowed receiver used
      uses := fun other used => by
        refine State.refLive_uses.mpr ?_
        rcases List.mem_cons.mp used with rfl | used
        · exact live
        · exact handles.uses other used }
  · exact { futures with
      answered := fun future this found free => futures.answered future this found (others free)
      faithful := fun faithful future free => futures.faithful faithful future (others free)
      notified := fun prompt future free => futures.notified prompt future (others free) }

/-- A reference may be given up where the task it polls has answered as the log says. -/
theorem Inv.release (inv : Inv manners channel)
    (received : exclusive ref → manners.quiet → received channel.log = delivered channel.log)
    (answered : ∀ future this, .send future = ref → channel.state.sends future = some this →
      this.done = true → (this.outcome = none ↔ Resolved (.send future) channel.log))
    (faithful : manners.faithful → ∀ future, .send future = ref → Committed future channel.log →
      Resolved (.send future) channel.log)
    (notified : manners.prompt → ∀ future, .send future = ref → owed future channel.log = none) :
    Inv manners (released channel ref) := by
  obtain ⟨held, books, handles, futures, registry⟩ := inv
  have others : ∀ {other : Ref}, other ≠ ref → other ∉ channel.state.uses.erase ref →
      other ∉ channel.state.uses :=
    fun different free used => free ((List.mem_erase_of_ne different).mpr used)
  refine ⟨held, ?_, ?_, ?_, { registry with }⟩
  · exact { books with
      received := fun quiet free => by
        by_cases alone : exclusive ref
        · exact received alone quiet
        · refine books.received quiet fun ⟨other, used, uses⟩ => free ⟨other, ?_, uses⟩
          refine (List.mem_erase_of_ne ?_).mpr used
          rintro rfl
          exact alone uses }
  · exact { handles with
      unborrowed := fun receiver used => handles.unborrowed receiver (List.mem_of_mem_erase used)
      uses := fun other used =>
        State.refLive_uses.mpr (handles.uses other (List.mem_of_mem_erase used)) }
  · exact { futures with
      answered := fun future this found free done => by
        by_cases same : .send future = ref
        · exact answered future this same found done
        · exact futures.answered future this found (others same free) done
      faithful := fun loyal future free => by
        by_cases same : .send future = ref
        · exact faithful loyal future same
        · exact futures.faithful loyal future (others same free)
      notified := fun prompt future free => by
        by_cases same : .send future = ref
        · exact notified prompt future same
        · exact futures.notified prompt future (others same free) }

/-- A reference to a handle through which no task is polled. -/
structure Plain (ref : Ref) : Prop where
  shared : ¬ exclusive ref
  send : ∀ future, .send future ≠ ref

/-- A reference to a sender is plain. -/
theorem Plain.sender {sender : Nat} : Plain (.sender sender) := ⟨id, nofun⟩

/-- A shared reference to a receiver is plain. -/
theorem Plain.receiver {receiver : Nat} : Plain (.receiver receiver) := ⟨id, nofun⟩

/-- A reference through which no task is polled may be given up anywhere. -/
theorem Inv.releasePlain (inv : Inv manners channel) (plain : Plain ref) :
    Inv manners (released channel ref) :=
  inv.release (fun alone => absurd alone plain.shared)
    (fun future _ same => absurd same (plain.send future))
    (fun _ future same => absurd same (plain.send future))
    (fun _ future same => absurd same (plain.send future))

/-- What is kept while a reference is in use is kept once it is let go. -/
theorem Guarantee.release (guarantee : Guarantee manners own (inUse channel ref) after) :
    Guarantee manners own channel (released after ref) := by
  obtain ⟨evolves, tally, retained, exposed⟩ := guarantee
  have keeps : ∀ {other : Ref}, other ∈ channel.state.uses → other ∈ ref :: channel.state.uses :=
    fun used => List.mem_cons_of_mem _ used
  refine ⟨?_, { tally with }, retained, fun orderly owner waker missed => ?_⟩
  · exact { evolves with
      uses := by
        show after.state.uses.erase ref = channel.state.uses
        rw [evolves.uses]
        exact List.erase_cons_head ..
      sends := fun future used => evolves.sends future (keeps used)
      recvs := fun future used => evolves.recvs future (keeps used)
      reserved := fun ⟨other, used, uses⟩ owner =>
        { evolves.reserved ⟨other, keeps used, uses⟩ owner with }
      resolved := fun owner used => evolves.resolved owner (keeps used)
      committed := fun future used => evolves.committed future (keeps used)
      owed := fun future used => evolves.owed future (keeps used)
      missing := fun orderly owner waker missing =>
        { evolves.missing orderly owner waker
            ⟨missing.expects, by cases owner <;> exact missing.awaits, missing.unparked⟩ with
          awaits := by
            have awaits := (evolves.missing orderly owner waker
              ⟨missing.expects, by cases owner <;> exact missing.awaits, missing.unparked⟩).awaits
            cases owner <;> exact awaits } }
  · have missed : Exposed after owner waker :=
      ⟨missed.expects, by cases owner <;> exact missed.awaits, missed.urgent⟩
    refine (exposed orderly owner waker missed).imp ?_ ?_
    · exact fun still => ⟨still.expects, by cases owner <;> exact still.awaits, still.urgent⟩
    · exact fun missing =>
        ⟨missing.expects, by cases owner <;> exact missing.awaits, missing.unparked⟩

end Hold

/-- An operation that holds a reference through which no task is polled. -/
theorem holding_spec {contract : Prog.Contract (Channel α) (Callback α) Panic} {ref : Ref}
    {act : M α β} (inv : Inv manners channel) (plain : Plain ref) (live : channel.state.RefLive ref)
    (answers : β → Channel α → Prop)
    (acts : Inv manners (inUse channel ref) → act.wp contract
      (fun value after => Inv manners after ∧ Guarantee manners none (inUse channel ref) after ∧
        answers value (released after ref))
      (fun _ after => Inv manners after ∧ Guarantee manners none (inUse channel ref) after)
      (inUse channel ref)) :
    (holding ref act).wp contract
      (fun value after => Inv manners after ∧ Guarantee manners none channel after ∧
        answers value after)
      (fun _ after => Inv manners after ∧ Guarantee manners none channel after) channel := by
  have held : Inv manners (inUse channel ref) := by
    refine inv.hold live ?_
    rintro receiver rfl
    exact absurd trivial plain.shared
  rw [wp_holding]
  refine Prog.wp_mono (acts held) ?_ ?_
  · rintro value after ⟨inv', evolves, answered⟩
    exact ⟨inv'.releasePlain plain, evolves.release, answered⟩
  · rintro _ after ⟨inv', evolves⟩
    exact ⟨inv'.releasePlain plain, evolves.release⟩

/-! ### The beginning and the end of an operation -/

/-- An operation is its body, and records how it ended. -/
theorem wp_perform {contract : Prog.Contract (Channel α) (Callback α) Panic}
    {post : Unit → Channel α → Prop} {exc : Panic → Channel α → Prop} (op : Op α) :
    (perform op).wp contract post exc channel = (body op).wp contract
      (fun result after => post () (after.logged (.returned channel.log.length op result)))
      (fun payload after => exc payload (after.logged (.unwound channel.log.length op)))
      (channel.logged (.began op)) := by
  simp only [perform, Prog.wp_bind, Prog.wp_read, wp_emit, Prog.wp_attempt, Prog.wp_unwind]

section Ends

variable {op : Op α} {owner : Owner} {waker : Waker}

/-- The receiver expects nothing while it is polled, and nothing new when another operation
begins. -/
theorem expecting_began {log : Log α} {polled : Owner × Waker}
    (expects : expecting (.began op :: log) = some polled) :
    pollsReceiver op = none ∧ expecting log = some polled := by
  simp only [expecting] at expects
  split at expects
  · cases expects
  · rename_i other
    exact ⟨by simpa using other, expects⟩

/-- An operation that unwound leaves no receiver expecting a wake that did not before. -/
theorem expecting_unwound {log : Log α} {polled : Owner × Waker} {start : Nat}
    (expects : expecting (.unwound start op :: log) = some polled) :
    expecting log = some polled := by
  simp only [expecting] at expects
  split at expects
  · cases expects
  · exact expects

/-- The beginning of an operation is silent. -/
theorem Silent.began : Silent channel (.began op) where
  expects _ expects := (expecting_began expects).2
  delivers := by simp [delivered, Event.took?]
  receives := by simp [received, Event.received?]
  resolves _ _ := id
  commits _ := id
  owes _ _ := id

/-- The unwinding of an operation is silent. -/
theorem Silent.unwound {start : Nat} : Silent channel (.unwound start op) where
  expects _ := expecting_unwound
  delivers := by simp [delivered, Event.took?]
  receives := by simp [received, Event.received?]
  resolves _ _ := id
  commits _ := id
  owes _ _ := id

/-- The return of an operation that receives nothing. -/
theorem Silent.returned {start : Nat} {result : Result α} (other : pollsReceiver op = none)
    (nothing : item? result = none)
    (resolves : ∀ owner, owner.ref ∈ channel.state.uses →
      Resolved owner (.returned start op result :: channel.log) → Resolved owner channel.log) :
    Silent channel (.returned start op result) where
  expects polled expects := by simpa [expecting, other] using expects
  delivers := by simp [delivered, Event.took?]
  receives := by simp [received, Event.received?, nothing]
  resolves := resolves
  commits _ := id
  owes _ _ := id

/-- The beginning of an operation keeps the invariant. -/
theorem Inv.began (inv : Inv manners channel) : Inv manners (channel.logged (.began op)) := by
  have silent : Silent channel (.began op) := .began
  obtain ⟨held, books, handles, futures, registry⟩ := inv
  refine ⟨held, ?_, ?_, { futures with }, { registry with }⟩
  · exact { books with
      received := fun quiet free =>
        silent.receives.trans ((books.received quiet free).trans silent.delivers.symm) }
  · exact { handles with
      expecting := fun owner waker expects =>
        handles.expecting owner waker (silent.expects _ expects) }

/-- What an event at the end of an operation tells of the state. -/
structure Tells (manners : Manners) (channel : Channel α) (event : Event (Op α) (Result α) α) :
    Prop where
  observed : Observed (event :: channel.log) →
    channel.state.chan.disconnected = true ∧ channel.state.chan.contents = []
  terminal : ∀ receiver, Terminal receiver (event :: channel.log) →
    Observed (event :: channel.log)
  released : Released (event :: channel.log) → channel.state.chan.contents = []
  created : ∀ future item, Created future item (event :: channel.log) →
    Created future item channel.log ∨ future < channel.state.fresh ∧
      ∀ this, channel.state.sends future = some this →
        this.done = false ∧ this.outcome = none ∧ this.item = some item
  resolved : ∀ owner, Resolved owner (event :: channel.log) → Resolved owner channel.log ∨
    owner.ref ∈ channel.state.uses ∧ ∀ future, owner = .send future → Committed future channel.log
  lawful : Lawful (SendOver manners) (event :: channel.log)
  received : manners.quiet → ¬ channel.state.InUse →
    received (event :: channel.log) = delivered channel.log
  notified : manners.prompt → Notified (event :: channel.log)
  expects : ∀ owner waker, expecting (event :: channel.log) = some (owner, waker) →
    owner.index < channel.state.fresh

/-- The end of an operation keeps the invariant, if what it tells is true. -/
theorem Inv.ends {event : Event (Op α) (Result α) α} (inv : Inv manners channel)
    (ends : event.Ends) (tells : Tells manners channel event) :
    Inv manners (channel.logged event) := by
  obtain ⟨held, books, handles, futures, registry⟩ := inv
  obtain ⟨observed, terminal, released, created, resolved, lawful, receives, notified, expects⟩ :=
    tells
  have suffix : channel.log <:+ event :: channel.log := List.suffix_cons ..
  have handles' : Handles (channel.logged event) := { handles with expecting := expects }
  have futures' : Futures manners (channel.logged event) := by
    have unmoved : ∀ {owner : Owner}, owner.ref ∉ channel.state.uses →
        (Resolved owner channel.log ↔ Resolved owner (event :: channel.log)) := fun free =>
      ⟨(·.later suffix), fun isOver => (resolved _ isOver).resolve_right fun used => free used.1⟩
    have committed : ∀ key, Committed key (event :: channel.log) ↔ Committed key channel.log := by
      intro key
      cases ends <;> exact .rfl
    have pushed : ∀ key, Pushed key (event :: channel.log) ↔ Pushed key channel.log := by
      intro key
      cases ends <;> exact .rfl
    constructor
    · intro key this found running
      obtain ⟨present, pending, uncommitted, before⟩ := futures.unsent key this found running
      refine ⟨present, pending, mt (committed key).mp uncommitted, fun item made => ?_⟩
      rcases created key item made with made | ⟨-, fresh⟩
      · exact before item made
      · exact (fresh this found).2.2
    · intro key this found done
      obtain ⟨idle, before⟩ := futures.sent key this found done
      exact ⟨idle, (committed key).mpr before⟩
    · intro key this result found recorded
      obtain ⟨accepts, unsent⟩ := futures.outcome key this result found recorded
      refine ⟨accepts.trans (pushed key).symm, fun error same item made => ?_⟩
      rcases created key item made with made | ⟨-, fresh⟩
      · exact unsent error same item made
      · exact nomatch (fresh this found).2.1.symm.trans recorded
    · exact fun key sent => (committed key).mpr (futures.pushed key ((pushed key).mp sent))
    · intro key isOver
      rcases resolved _ isOver with isOver | ⟨-, told⟩
      · exact (committed key).mpr (futures.resolved key isOver)
      · exact (committed key).mpr (told key rfl)
    · exact fun key this found free done => (futures.answered key this found free done).trans
        (unmoved free)
    · intro key item made
      rcases created key item made with made | ⟨below, -⟩
      · exact futures.created key item made
      · exact below
    · exact fun key before => futures.committed key ((committed key).mp before)
    · intro faithful key free before
      exact (futures.faithful faithful key free ((committed key).mp before)).later suffix
    · intro prompt key free
      have paid := futures.notified prompt key free
      cases ends <;> exact paid
  have books' : Books manners (channel.logged event) := by
    have delivers : delivered (event :: channel.log) = delivered channel.log := by
      cases ends <;> simp [delivered, Event.took?]
    have receives' : manners.quiet → ¬ channel.state.InUse →
        Lochan.received (event :: channel.log) = delivered (event :: channel.log) :=
      fun quiet free => (receives quiet free).trans delivers.symm
    cases ends <;>
      exact { books with observed, terminal, released, lawful, notified, received := receives' }
  cases ends <;> exact ⟨held, books', handles', futures', { registry with }⟩

/-- What the end of an operation tells when its result says nothing new. -/
theorem Inv.tells (inv : Inv manners channel) {event : Event (Op α) (Result α) α}
    (silent : Silent channel event)
    (observed : Observed (event :: channel.log) ↔ Observed channel.log)
    (terminal : ∀ receiver, Terminal receiver (event :: channel.log) →
      Terminal receiver channel.log)
    (released : Released (event :: channel.log) → Released channel.log)
    (created : ∀ future item, Created future item (event :: channel.log) →
      Created future item channel.log)
    (resolved : ∀ owner, Resolved owner (event :: channel.log) → Resolved owner channel.log)
    (lawful : Lawful (SendOver manners) channel.log →
      Lawful (SendOver manners) (event :: channel.log))
    (notified : Notified channel.log → Notified (event :: channel.log)) :
    Tells manners channel event where
  observed seen := inv.books.observed (observed.mp seen)
  terminal receiver ended := observed.mpr (inv.books.terminal receiver (terminal receiver ended))
  released isOver := inv.books.released (released isOver)
  created future item made := .inl (created future item made)
  resolved owner isOver := .inl (resolved owner isOver)
  lawful := lawful inv.books.lawful
  received quiet free := silent.receives.trans (inv.books.received quiet free)
  notified prompt := notified (inv.books.notified prompt)
  expects owner waker expects := inv.handles.expecting owner waker (silent.expects _ expects)

/-- The end of an operation that polls no task resolves none. -/
theorem resolved_plain (plain : op.polls = none) {start : Nat} {result : Result α} {owner : Owner}
    {log : Log α} (resolved : Resolved owner (.returned start op result :: log)) :
    Resolved owner log := by
  rcases resolved with ⟨⟨waker, polls⟩, -⟩ | before
  · exact nomatch plain.symm.trans polls
  · exact before

/-- An operation that polls nothing does not poll the receiver. -/
theorem pollsReceiver_plain (plain : op.polls = none) : pollsReceiver op = none := by
  cases op <;> first | rfl | cases plain

/-- An operation that polls nothing leaves no wake of a send unpaid when it returns. -/
theorem notified_returned (plain : op.polls = none) {start : Nat} {result : Result α} {log : Log α}
    (notified : Notified log) : Notified (.returned start op result :: log) := by
  cases op <;> first | exact notified | cases plain

/-- An operation that polls nothing leaves no wake of a send unpaid when it unwinds. -/
theorem notified_unwound (plain : op.polls = none) {start : Nat} {log : Log α}
    (notified : Notified log) : Notified (.unwound start op :: log) := by
  cases op <;> first | exact notified | cases plain

/-- An operation that unwinds tells nothing. -/
theorem Inv.unwound (inv : Inv manners channel) (plain : op.polls = none) {start : Nat}
    (other : ∀ receiver, op ≠ .dropReceiver receiver) :
    Tells manners channel (.unwound start op) :=
  inv.tells .unwound Iff.rfl (fun _ => id) (.of_unwound other) (fun _ _ => id) (fun _ => id) id
    (notified_unwound plain)

/-- An operation kept the invariant and the guarantee. -/
abbrev Kept (manners : Manners) (channel after : Channel α) : Prop :=
  Inv manners after ∧ Guarantee manners none channel after

/-- An operation that polls no task and receives nothing, and what it tells. -/
theorem perform_plain {contract : Prog.Contract (Channel α) (Callback α) Panic}
    (plain : op.polls = none) (inv : Inv manners channel)
    (does : Inv manners (channel.logged (.began op)) → (body op).wp contract
      (fun result after => Kept manners (channel.logged (.began op)) after ∧
        item? result = none ∧ Tells manners after (.returned channel.log.length op result))
      (fun _ after => Kept manners (channel.logged (.began op)) after ∧
        Tells manners after (.unwound channel.log.length op)) (channel.logged (.began op))) :
    (perform op).leaves contract (Kept manners channel) channel := by
  have begins : Guarantee manners none channel (channel.logged (.began op)) := .logged .began
  rw [Prog.leaves, wp_perform]
  refine Prog.wp_mono (does inv.began) ?_ ?_
  · rintro result after ⟨⟨inv', evolves⟩, nothing, tells⟩
    exact ⟨inv'.ends (.returned ..) tells, (begins.trans evolves).trans (.logged
      (.returned (pollsReceiver_plain plain) nothing fun _ _ => resolved_plain plain))⟩
  · rintro payload after ⟨⟨inv', evolves⟩, tells⟩
    exact ⟨inv'.ends (.unwound ..) tells, (begins.trans evolves).trans (.logged .unwound)⟩

end Ends

/-! ### Dropping a future -/

/-- An operation that polls no task may write a send future that nobody uses. -/
theorem Evolves.disown {future : Nat} (evolves : Evolves manners (some (.send future)) base channel)
    (free : .send future ∉ base.state.uses) : Evolves manners none base channel := by
  have other : ∀ {key}, .send key ∈ base.state.uses →
      some (Owner.send future) ≠ some (.send key) := by
    rintro key used ⟨⟩
    exact free used
  exact { evolves with
    sends := fun key used _ => evolves.sends key used (other used)
    recvs := fun key used _ => evolves.recvs key used nofun
    reserved := fun inUse _ => evolves.reserved inUse (by rintro _ ⟨⟩; rfl)
    committed := fun key used _ => evolves.committed key used (other used)
    owed := fun key used _ => evolves.owed key used (other used) }

/-- The channel without a send future. -/
abbrev withoutSend (channel : Channel α) (future : Nat) : Channel α :=
  channel.onState fun state => { state with sends := Function.update state.sends future none }

/-- The channel without a receive future. -/
abbrev withoutRecv (channel : Channel α) (future : Nat) : Channel α :=
  channel.onState fun state => { state with recvs := Function.update state.recvs future none }

section Forget

variable {future : Nat}

/-- The registration of a send future that goes is left behind. -/
theorem Inv.withoutSend (inv : Inv manners channel) (free : .send future ∉ channel.state.uses) :
    Giving manners (withoutSend channel future) (channel.state.idOf future) := by
  obtain ⟨held, books, handles, futures, registry⟩ := inv
  have back : ∀ {key this}, (Mpsc.withoutSend channel future).state.sends key = some this →
      channel.state.sends key = some this := by
    intro key this present
    by_cases same : key = future
    · subst same
      simp at present
    · simpa [same] using present
  have ids : (Mpsc.withoutSend channel future).state.idOf =
      Function.update channel.state.idOf future none := by
    funext key
    by_cases same : key = future
    · subst same
      simp [State.idOf]
    · simp [State.idOf, same]
  refine registry.taken future rfl ids (fun _ => rfl) held { books with } ?_ ?_
  · exact { handles with
      send := fun key this present => handles.send key this (back present)
      uses := fun ref used => by
        have live := handles.uses ref used
        cases ref with
        | send key =>
            have other : key ≠ future := by
              rintro rfl
              exact free used
            simpa [State.RefLive, other] using live
        | _ => exact live }
  · exact { futures with
      unsent := fun key this present => futures.unsent key this (back present)
      sent := fun key this present => futures.sent key this (back present)
      outcome := fun key this result present => futures.outcome key this result (back present)
      answered := fun key this present => futures.answered key this (back present) }

/-- The end of a send future is a step of the one who drops it. -/
theorem Guarantee.withoutSend :
    Guarantee manners (some (.send future)) channel (withoutSend channel future) := by
  have same : Guarantee manners (some (.send future)) channel channel := .refl channel
  refine ⟨{ same.evolves with
      sends := fun key _ other => ?_
      reserved := fun _ _ => { Reserved.refl channel with waker := .inl rfl }
      missing := fun _ _ _ missing => { missing with } },
    ⟨rfl, same.tally.emptied, fun _ rejecting _ member => ⟨rejecting, member⟩⟩,
    fun _ retained => { retained with }, fun _ _ _ exposed => .inl { exposed with }⟩
  have different : key ≠ future := fun same => other (same ▸ rfl)
  simp [different]

end Forget

section Functions

variable {contract : Prog.Contract (Channel α) (Callback α) Panic}
  {admits : Callback α → Panic → Channel α → Prop} (setting : Setting manners contract admits)
  {future : Nat}
include setting

/-- The fields of a send future are dropped, also when dropping its registration panics. -/
theorem dropSendFuture_spec (aborts : ∀ channel, contract.abort channel) {this : Send α}
    (giving : Giving manners channel this.wakerId)
    (polling : Polling manners future this.wakerId base channel)
    (hushed : Hushed manners base channel) :
    (SendFuture.drop this).leaves contract (fun after => Inv manners after ∧
      Guarantee manners (some (.send future)) base after) channel := by
  -- The fields that hold items follow.
  have fields : ∀ before, Inv manners before →
      Guarantee manners (some (.send future)) base before →
      (dropGlue (dropItems this.item.toList) (dropItems this.unsent.toList) : M α Unit).leaves
        contract (fun after => Inv manners after ∧
          Guarantee manners (some (.send future)) base after) before := by
    intro before inv reached
    simp only [Prog.leaves, dropGlue, Prog.wp_ensuring]
    refine Prog.wp_mono (setting.relies.dropItems carries _ inv) ?_ ?_
    · rintro _ middle ⟨inv, drops⟩
      refine Prog.wp_mono (setting.relies.dropItems carries _ inv) ?_ ?_ <;>
        rintro _ after ⟨inv, drops'⟩ <;>
        exact ⟨inv, reached.trans (drops.trans drops').weaken⟩
    · rintro _ middle ⟨inv, drops⟩
      refine Prog.wp_mono (setting.relies.dropItems carries _ inv) ?_
        (fun _ after _ => aborts after)
      rintro _ after ⟨inv, drops'⟩
      exact ⟨inv, reached.trans (drops.trans drops').weaken⟩
  unfold SendFuture.drop dropGlue
  rw [Prog.leaves, Prog.wp_ensuring]
  have reached : ∀ {rest after}, Without channel this.wakerId rest →
      Guarantee manners none (queued channel rest) after →
      Guarantee manners (some (.send future)) base after := fun without removes =>
    ((polling.queued without).later removes).guarantee
      (hushed.queued.later (polling.queued without).evolves removes)
  refine Prog.wp_mono (removeSend_spec setting giving) ?_ ?_
  · rintro _ removed ⟨inv', rest, without, removes, -⟩
    exact fields removed inv' (reached without removes)
  · rintro _ removed ⟨inv', rest, without, removes, -⟩
    exact Prog.wp_mono (fields removed inv' (reached without removes)) (fun _ _ kept => kept)
      fun _ after _ => aborts after

/-- The drop of a send future keeps the invariant, also when one of its callbacks panics. -/
theorem dropSend_spec (aborts : ∀ channel, contract.abort channel) (inv : Inv manners channel)
    (owned : channel.state.SendOwned future) :
    (body (.dropSend future)).wp contract
      (fun result after => Kept manners channel after ∧ result = .unit)
      (fun _ after => Kept manners channel after) channel := by
  obtain ⟨alive, free⟩ := owned
  obtain ⟨this, found⟩ := Option.isSome_iff_exists.mp alive
  have live : channel.state.RefLive (.sender this.sender) := (inv.handles.send future this found).1
  have held := inv.hold live nofun
  have free' : .send future ∉ (inUse channel (.sender this.sender)).state.uses := by
    rintro (_ | used)
    exact free ‹_›
  have holds : (inUse channel (.sender this.sender)).state.idOf future = this.wakerId := by
    simp [State.idOf, found]
  have giving := held.withoutSend free'
  rw [holds] at giving
  have goes : Guarantee manners (some (.send future)) (inUse channel (.sender this.sender))
      (withoutSend (inUse channel (.sender this.sender)) future) := .withoutSend
  have total : ∀ {after}, Inv manners after → Guarantee manners (some (.send future))
      (inUse channel (.sender this.sender)) after →
      Kept manners channel (released after (.sender this.sender)) := by
    intro after inv' guarantee
    have guarantee : Guarantee manners none (inUse channel (.sender this.sender)) after :=
      { guarantee with evolves := guarantee.evolves.disown free' }
    exact ⟨inv'.releasePlain .sender, guarantee.release⟩
  simp only [body, Prog.wp_bind, wp_getState, found, wp_modifyState, Prog.wp_pure]
  rw [wp_holding]
  refine Prog.wp_mono
    (dropSendFuture_spec setting aborts giving (.of_guarantee goes) goes.exposed) ?_ ?_
  · rintro _ after ⟨inv', guarantee⟩
    exact ⟨total inv' guarantee, trivial⟩
  · rintro _ after ⟨inv', guarantee⟩
    exact total inv' guarantee

end Functions

/-- While a receive future lives, only its own polls use the receiver. -/
theorem Handles.idle (handles : Handles channel) {future : Nat}
    (owned : channel.state.RecvOwned future) :
    ¬ channel.state.InUse := by
  rintro ⟨ref, used, uses⟩
  have live := handles.uses ref used
  cases ref with
  | receiverMut receiver =>
      have alive := owned.1
      rw [handles.unborrowed receiver used future] at alive
      cases alive
  | recv other =>
      obtain rfl := handles.single other future live owned.1
      exact owned.2 used
  | _ => exact uses.elim

/-- The end of a receive future keeps the invariant, and leaves none. -/
theorem Inv.withoutRecv {future : Nat} (inv : Inv manners channel)
    (owned : channel.state.RecvOwned future) :
    Inv manners (withoutRecv channel future) ∧
      ∀ key, (withoutRecv channel future).state.recvs key = none := by
  have gone : ∀ key, (Mpsc.withoutRecv channel future).state.recvs key = none := by
    intro key
    by_cases same : key = future
    · simp [same]
    · cases found : channel.state.recvs key with
      | none => simp [same, found]
      | some this =>
          exact absurd (inv.handles.single key future (by simp [found]) owned.1) same
  refine ⟨?_, gone⟩
  obtain ⟨held, books, handles, futures, registry⟩ := inv
  refine ⟨held, { books with }, ?_, { futures with }, { registry with }⟩
  exact { handles with
    recv := fun key this found => nomatch (gone key).symm.trans found
    single := fun first _ present => by
      rw [gone first] at present
      cases present
    unborrowed := fun _ _ => gone
    uses := fun ref used => by
      have live := handles.uses ref used
      cases ref with
      | recv key =>
          obtain rfl := handles.single key future live owned.1
          exact absurd used owned.2
      | _ => exact live }

section Functions

variable {contract : Prog.Contract (Channel α) (Callback α) Panic}
  {admits : Callback α → Panic → Channel α → Prop} (setting : Setting manners contract admits)
  {future : Nat}
include setting

/-- A receive future that has not completed clears the slot of the receiver. -/
theorem dropRecv_spec (inv : Inv manners channel) (owned : channel.state.RecvOwned future)
    (orderly : manners.orderly → ∀ this, channel.state.recvs future = some this →
      this.done = false → ∀ receiver waker,
      expecting channel.log ≠ some (.stream receiver, waker)) :
    (body (.dropRecv future)).wp contract
      (fun result after => Kept manners channel after ∧ result = .unit)
      (fun _ after => Kept manners channel after) channel := by
  obtain ⟨this, found⟩ := Option.isSome_iff_exists.mp owned.1
  have idle := inv.handles.idle owned
  obtain ⟨gone, none⟩ := inv.withoutRecv owned
  have live : channel.state.receiver = some this.receiver := (inv.handles.recv future this found).1
  have held : Inv manners (inUse (withoutRecv channel future) (.receiverMut this.receiver)) :=
    gone.hold live fun _ _ => none
  have same : Guarantee manners .none channel channel := .refl channel
  have unused : .recv future ∉ channel.state.uses := owned.2
  have goes : Guarantee manners .none channel (withoutRecv channel future) := by
    refine ⟨{ same.evolves with
        recvs := fun key used _ => ?_
        reserved := fun inUse => absurd inUse idle
        missing := fun _ owner waker missing => ⟨missing.expects, ?_, missing.unparked⟩ },
      ⟨rfl, same.tally.emptied, fun _ rejecting _ member => ⟨rejecting, member⟩⟩,
      fun _ retained => { retained with },
      fun _ owner waker exposed => .inl ⟨exposed.expects, ?_, exposed.urgent⟩⟩
    · have different : key ≠ future := by
        rintro rfl
        exact unused used
      simp [different]
    · cases owner with
      | recv key =>
          have awaits : ((withoutRecv channel future).state.recvs key).isSome := missing.awaits
          rw [none key] at awaits
          cases awaits
      | _ => exact missing.awaits
    · cases owner with
      | recv key =>
          have awaits : ((withoutRecv channel future).state.recvs key).isSome := exposed.awaits
          rw [none key] at awaits
          cases awaits
      | _ => exact exposed.awaits
  have received : ∀ {after : Channel α}, Receives Option.none channel after → manners.quiet →
      Lochan.received after.log = delivered after.log := by
    intro after receives quiet
    rw [receives.received, receives.delivered, Option.toList_none, List.append_nil]
    exact inv.books.received quiet idle
  have total : ∀ {after : Channel α}, Inv manners after → Receives Option.none channel after →
      Guarantee manners .none channel (released after (.receiverMut this.receiver)) →
      Kept manners channel (released after (.receiverMut this.receiver)) := by
    intro after inv' receives guarantee
    exact ⟨inv'.release (fun _ => received receives) nofun nofun nofun, guarantee⟩
  simp only [body, Prog.wp_bind, wp_getState, found, wp_modifyState, Prog.wp_pure]
  rw [wp_holding]
  simp only [RecvFuture.drop, Prog.wp_ite]
  have start : Receives Option.none channel
      (inUse (withoutRecv channel future) (.receiverMut this.receiver)) :=
    ⟨(List.append_nil _).symm, rfl, fun _ => id⟩
  by_cases done : this.done = true
  · rw [if_pos done]
    have guarantee : Guarantee manners .none (withoutRecv channel future)
        (released (inUse (withoutRecv channel future) (.receiverMut this.receiver))
          (.receiverMut this.receiver)) := Guarantee.release (.refl _)
    exact ⟨total held start (goes.trans guarantee), trivial⟩
  · rw [if_neg done]
    have running : this.done = false := by simpa using done
    let slot := slotted (inUse (withoutRecv channel future)
      (.receiverMut this.receiver)) Option.none
    have inUse' : slot.state.InUse := ⟨_, List.mem_cons_self, trivial⟩
    have cleared : Receives Option.none channel slot := ⟨start.delivered, rfl, fun _ => id⟩
    -- Whoever waits as a stream would lose its registration.
    have waits : manners.orderly → ∀ owner waker, expecting channel.log = some (owner, waker) →
        slot.state.Awaits owner → False := by
      intro polite owner waker expects awaits
      cases owner with
      | stream receiver => exact orderly polite this found running receiver waker expects
      | recv key =>
          have awaits : ((withoutRecv channel future).state.recvs key).isSome := awaits
          rw [none key] at awaits
          cases awaits
      | send key => exact awaits
    have clears : Guarantee manners .none channel (released slot (.receiverMut this.receiver)) := by
      refine ⟨{ goes.evolves with
          uses := List.erase_cons_head ..
          reserved := fun inUse => absurd inUse idle
          missing := fun polite owner waker missing =>
            (waits polite owner waker missing.expects
              (by cases owner <;> exact missing.awaits)).elim },
        ⟨rfl, same.tally.emptied, fun _ rejecting _ member => ⟨rejecting, member⟩⟩,
        fun _ retained => absurd rfl retained.waker,
        fun polite owner waker exposed => (waits polite owner waker exposed.expects
          (by cases owner <;> exact exposed.awaits)).elim⟩
    have later : ∀ {after}, Guarantee manners .none slot after →
        Guarantee manners .none channel (released after (.receiverMut this.receiver)) := by
      intro after drops
      have drops : Guarantee manners .none
          (inUse (released slot (.receiverMut this.receiver))
            (.receiverMut this.receiver)) after := by
        have same : inUse (released slot (.receiverMut this.receiver))
            (.receiverMut this.receiver) =
            slot := by
          simp [slot, World.onState, State.onChan]
        rw [same]
        exact drops
      exact clears.trans drops.release
    refine Prog.wp_mono (clearRecvWaker_spec setting held) ?_ ?_
    · rintro _ after ⟨inv', drops⟩
      exact ⟨total inv' (cleared.later inUse' drops) (later drops), trivial⟩
    · rintro _ after ⟨inv', drops, -⟩
      exact total inv' (cleared.later inUse' drops) (later drops)

end Functions

end Lochan.Mpsc
