import Lochan.Mpsc.Create

/-!
# The operations on an mpsc channel that poll no task
-/

namespace Lochan.Mpsc

open Reentrant Queue

variable {α β : Type} {manners : Manners} {channel after : Channel α}

section Reads

variable {contract : Prog.Contract (Channel α) (Callback α) Panic} {op : Op α}

/-- An operation that only observes the channel changes nothing. -/
theorem body_observes (observes : op.Observes) (legal : channel.state.Legal op)
    (clear : channel.held = [])
    {post : Result α → Channel α → Prop} {exc : Panic → Channel α → Prop}
    (answers : ∀ result, result.Observation → post result channel) :
    (body op).wp contract post exc channel := by
  cases op with
  | senderCapacity sender =>
      simp only [body, Prog.wp_bind]
      rw [wp_cap clear]
      exact answers _ (.capacity _)
  | senderLen sender | receiverLen receiver =>
      simp only [body, Prog.wp_bind]
      rw [wp_len clear]
      exact answers _ (.size _)
  | senderIsEmpty sender | receiverIsEmpty receiver =>
      simp only [body, Prog.wp_bind]
      rw [wp_isEmpty clear]
      exact answers _ (.bool _)
  | senderIsFull sender =>
      simp only [body, Prog.wp_bind]
      rw [wp_isFull clear]
      exact answers _ (.bool _)
  | senderIsClosed sender => exact answers _ (.bool _)
  | receiverIsClosed receiver => exact answers _ (.bool _)
  | recvIsTerminated future =>
      obtain ⟨this, found⟩ := Option.isSome_iff_exists.mp legal.1
      simp only [body, RecvFuture.isTerminated, Prog.wp_bind, wp_getState, found]
      exact answers _ (.bool _)
  | _ => exact observes.elim

/-- An observation returns no item. -/
theorem item?_observation {result : Result α} (observation : result.Observation) :
    item? result = none := by
  cases observation <;> rfl

/-- An observation tells nothing new. -/
theorem Inv.tellsObservation (inv : Inv manners channel) (observes : op.Observes) {start : Nat}
    {result : Result α} (observation : result.Observation) :
    Tells manners channel (.returned start op result) := by
  have plain : op.polls = none := by cases op <;> first | rfl | exact observes.elim
  have silent : Silent channel (.returned start op result) :=
    .returned (pollsReceiver_plain plain) (item?_observation observation)
      fun _ _ => resolved_plain plain
  cases op <;> first
    | exact observes.elim
    | (cases observation with
       | capacity value | size value =>
           exact inv.tells silent Iff.rfl (fun _ => id) id (fun _ _ => id)
             (fun _ => resolved_plain plain) (.intro ⟨trivial, trivial⟩) id
       | bool value =>
           cases value <;>
             exact inv.tells silent Iff.rfl (fun _ => id) id (fun _ _ => id)
               (fun _ => resolved_plain plain) (.intro ⟨trivial, trivial⟩) id)

/-- An observation keeps what every operation keeps. -/
theorem observes_keeps (observes : op.Observes) (legal : channel.state.Legal op)
    (inv : Inv manners channel) :
    (perform op).leaves contract (Kept manners channel) channel := by
  have plain : op.polls = none := by cases op <;> first | rfl | exact observes.elim
  refine perform_plain plain inv fun begun => ?_
  have legal : (channel.logged (.began op)).state.Legal op := legal
  refine body_observes observes legal begun.held fun result observation => ?_
  exact ⟨⟨begun, .refl _⟩, item?_observation observation,
    begun.tellsObservation observes observation⟩

end Reads

section Operations

variable {contract : Prog.Contract (Channel α) (Callback α) Panic}
  {admits : Callback α → Panic → Channel α → Prop} (setting : Setting manners contract admits)
  {sender receiver future : Nat} {item : α} {op : Op α}

/-- What the return of an operation tells, by what it answers and reports. -/
theorem Inv.returns {result : Result α} (inv : Inv manners after) {start : Nat}
    {begun : Log α} (length : begun.length = start) (suffix : begun <:+ after.log)
    (plain : op.polls = none) (nothing : item? result = none)
    (observed : Observed (.returned start op result :: after.log) ↔ Observed after.log)
    (terminal : ∀ receiver, Terminal receiver (.returned start op result :: after.log) →
      Terminal receiver after.log)
    (released : Released (.returned start op result :: after.log) → Released after.log)
    (created : ∀ future item, Created future item (.returned start op result :: after.log) →
      Created future item after.log)
    (answers : Answers op result begun) (reports : Reports (SendOver manners) op result after.log) :
    Tells manners after (.returned start op result) := by
  subst length
  have silent : Silent after (.returned begun.length op result) :=
    .returned (pollsReceiver_plain plain) nothing fun _ _ => resolved_plain plain
  exact inv.tells silent observed terminal released created (fun _ => resolved_plain plain)
    (fun lawful => ⟨⟨(past_suffix suffix).symm ▸ answers, reports⟩, lawful⟩)
    (notified_returned plain)

include setting in
/-- `try_send` keeps what every operation keeps. -/
theorem trySend_keeps (inv : Inv manners channel) (legal : channel.state.SenderShared sender) :
    (perform (.trySend sender item)).leaves contract (Kept manners channel) channel := by
  refine perform_plain rfl inv fun begun => ?_
  have held := holding_spec begun .sender legal
    (fun result _ =>
      channel.state.chan.rejecting = true → result = Except.error (TrySendError.closed item))
    fun used => trySend_spec setting used legal
  simp only [body, Prog.wp_bind]
  refine Prog.wp_mono held ?_ ?_
  · rintro result after ⟨inv', evolves, rejected⟩
    have suffix : channel.log <:+ after.log := (List.suffix_cons ..).trans evolves.evolves.log
    refine ⟨⟨inv', evolves⟩, rfl, inv'.returns rfl suffix rfl rfl Iff.rfl (fun _ => id) id
      (fun _ _ => id) ?_ trivial⟩
    exact fun shut => congrArg Result.trySend (rejected (inv.books.shut.mp shut))
  · exact fun _ after kept => ⟨kept, kept.1.unwound rfl (by rintro _ ⟨⟩)⟩

include setting in
/-- Closing from a sender keeps what every operation keeps. -/
theorem closeSender_keeps (inv : Inv manners channel) (legal : channel.state.SenderShared sender) :
    (perform (.closeSender sender)).leaves contract (Kept manners channel) channel := by
  refine perform_plain rfl inv fun begun => ?_
  have held := holding_spec begun .sender legal (fun _ _ => True)
    fun used => Prog.wp_mono (closeSender_spec setting used legal)
      (fun _ _ kept => ⟨kept.1, kept.2, trivial⟩) fun _ _ kept => kept
  simp only [body, Prog.wp_bind]
  refine Prog.wp_mono held ?_ ?_
  · rintro closed after ⟨inv', evolves, -⟩
    have suffix : channel.log <:+ after.log := (List.suffix_cons ..).trans evolves.evolves.log
    cases closed <;>
      exact ⟨⟨inv', evolves⟩, rfl, inv'.returns rfl suffix rfl rfl Iff.rfl (fun _ => id) id
        (fun _ _ => id) trivial trivial⟩
  · exact fun _ after kept => ⟨kept, kept.1.unwound rfl (by rintro _ ⟨⟩)⟩

include setting in
/-- Closing from the receiver keeps what every operation keeps. -/
theorem closeReceiver_keeps (inv : Inv manners channel)
    (legal : channel.state.ReceiverShared receiver) :
    (perform (.closeReceiver receiver)).leaves contract (Kept manners channel) channel := by
  refine perform_plain rfl inv fun begun => ?_
  have held := holding_spec begun .receiver legal.1 (fun _ _ => True)
    fun used => Prog.wp_mono (closeReceiver_spec setting used (inv.handles.alive legal.1))
      (fun _ _ kept => ⟨kept.1, kept.2, trivial⟩) fun _ _ kept => kept
  simp only [body, Prog.wp_bind]
  refine Prog.wp_mono held ?_ ?_
  · rintro closed after ⟨inv', evolves, -⟩
    have suffix : channel.log <:+ after.log := (List.suffix_cons ..).trans evolves.evolves.log
    cases closed <;>
      exact ⟨⟨inv', evolves⟩, rfl, inv'.returns rfl suffix rfl rfl Iff.rfl (fun _ => id) id
        (fun _ _ => id) trivial trivial⟩
  · exact fun _ after kept => ⟨kept, kept.1.unwound rfl (by rintro _ ⟨⟩)⟩

/-- Cloning a sender keeps what every operation keeps. -/
theorem cloneSender_keeps (inv : Inv manners channel)
    (legal : channel.state.SenderShared sender) :
    (perform (.cloneSender sender)).leaves contract (Kept manners channel) channel := by
  refine perform_plain rfl inv fun begun => ?_
  have evolves : Guarantee manners none (channel.logged (.began (.cloneSender sender))) _ :=
    .addSender begun.handles legal
  have inv' := begun.addSender legal
  exact ⟨⟨inv', evolves⟩, rfl, inv'.returns rfl (List.suffix_cons ..) rfl rfl Iff.rfl
    (fun _ => id) id (fun _ _ => id) trivial trivial⟩

/-- Making a receive future keeps what every operation keeps. -/
theorem recv_keeps (inv : Inv manners channel)
    (legal : channel.state.ReceiverOwned receiver) :
    (perform (.recv receiver)).leaves contract (Kept manners channel) channel := by
  have departing : Departing (channel.logged (.began (.recv receiver))) receiver :=
    { legal.departing inv.handles with }
  refine perform_plain rfl inv fun begun => ?_
  have evolves : Guarantee manners none (channel.logged (.began (.recv receiver)))
      (withRecv (channel.logged (.began (.recv receiver))) receiver) :=
    .addRecv begun.handles departing
  have inv' := begun.addRecv departing
  exact ⟨⟨inv', evolves⟩, rfl, inv'.returns rfl (List.suffix_cons ..) rfl rfl Iff.rfl
    (fun _ => id) id (fun _ _ => id) trivial trivial⟩

/-- Making a send future keeps what every operation keeps. -/
theorem send_keeps (inv : Inv manners channel)
    (legal : channel.state.SenderShared sender) :
    (perform (.send sender item)).leaves contract (Kept manners channel) channel := by
  refine perform_plain rfl inv fun begun => ?_
  have evolves : Guarantee manners none (channel.logged (.began (.send sender item)))
      (withSend (channel.logged (.began (.send sender item))) (Send.new sender item)) :=
    .addSend begun.handles
  have inv' : Inv manners (withSend _ (Send.new sender item)) := begun.addSend legal
  have resolves : ∀ id, Resolved id (.returned channel.log.length (.send sender item)
      (.handle channel.state.fresh) :: .began (.send sender item) :: channel.log) →
      Resolved id (.began (.send sender item) :: channel.log) := fun _ => resolved_plain rfl
  have silent : Silent (withSend (channel.logged (.began (.send sender item)))
      (Send.new sender item)) (.returned channel.log.length (.send sender item)
      (.handle channel.state.fresh)) := .returned rfl rfl fun owner _ => resolves owner
  refine ⟨⟨inv', evolves⟩, rfl, ?_⟩
  exact
    { observed := inv'.books.observed
      terminal := inv'.books.terminal
      released := inv'.books.released
      created := by
        rintro future made (⟨rfl, rfl⟩ | before)
        · refine .inr ⟨Nat.lt_succ_self _, fun this found => ?_⟩
          obtain rfl : Send.new sender item = this := by simpa using found
          exact ⟨rfl, rfl, rfl⟩
        · exact .inl before
      resolved := fun owner isOver => .inl (resolves owner isOver)
      lawful := ⟨⟨trivial, trivial⟩, inv'.books.lawful⟩
      received := fun quiet free => silent.receives.trans (inv'.books.received quiet free)
      notified := inv'.books.notified
      expects := fun owner waker expects =>
        inv'.handles.expecting owner waker (silent.expects _ expects) }

/-- A report that a send has terminated comes after it has committed; where no poll unwinds after
that, its result has been returned. -/
theorem sendIsTerminated_keeps (inv : Inv manners channel)
    (legal : channel.state.SendOwned future) :
    (perform (.sendIsTerminated future)).leaves contract (Kept manners channel) channel := by
  refine perform_plain rfl inv fun begun => ?_
  obtain ⟨this, found⟩ := Option.isSome_iff_exists.mp legal.1
  simp only [body, SendFuture.isTerminated, Prog.wp_bind, wp_getState, World.logged_state, found]
  refine ⟨⟨begun, .refl _⟩, rfl, ?_⟩
  cases isOver : this.done with
  | false =>
      exact begun.returns rfl (List.suffix_cons ..) rfl rfl Iff.rfl (fun _ => id) id (fun _ _ => id)
        trivial trivial
  | true =>
      have committed := (inv.futures.sent future this found isOver).2
      exact begun.returns rfl (List.suffix_cons ..) rfl rfl Iff.rfl (fun _ => id) id (fun _ _ => id)
        trivial
        ⟨committed, fun faithful => inv.futures.faithful faithful future legal.2 committed⟩

/-- The stream's `is_terminated` keeps what every operation keeps. -/
theorem streamIsTerminated_keeps (inv : Inv manners channel) :
    (perform (.streamIsTerminated receiver)).leaves contract (Kept manners channel) channel := by
  refine perform_plain rfl inv fun begun => ?_
  -- Whoever has seen the end sees it again.
  have ended : Terminal receiver channel.log →
      channel.state.chan.disconnected = true ∧ channel.state.chan.contents = [] :=
    fun before => inv.books.observed (inv.books.terminal receiver before)
  simp only [body, Receiver.isTerminated, Prog.wp_bind, wp_getChan, World.logged_state,
    Prog.wp_ite]
  by_cases disconnected : channel.state.chan.disconnected = true
  · simp only [disconnected, ↓reduceIte]
    rw [wp_isEmpty begun.held, World.logged_state]
    cases empty : channel.state.chan.contents.isEmpty with
    | false =>
        have full : channel.state.chan.contents ≠ [] := by simpa using empty
        refine ⟨⟨begun, .refl _⟩, rfl, ?_⟩
        refine begun.returns rfl (List.suffix_cons ..) rfl rfl Iff.rfl (fun _ => id) id
          (fun _ _ => id) (fun before => ?_) trivial
        exact absurd (ended before).2 full
    | true =>
        have empty' : channel.state.chan.contents = [] := by simpa using empty
        have resolves : ∀ owner, Resolved owner (.returned channel.log.length
            (.streamIsTerminated receiver) (.bool true) :: .began (.streamIsTerminated receiver) ::
            channel.log) → Resolved owner (.began (.streamIsTerminated receiver) :: channel.log) :=
          fun owner => resolved_plain rfl
        have silent : Silent (channel.logged (.began (.streamIsTerminated receiver)))
            (.returned channel.log.length (.streamIsTerminated receiver) (.bool true)) :=
          .returned rfl rfl fun owner _ => resolves owner
        refine ⟨⟨begun, .refl _⟩, rfl, ?_⟩
        exact
          { observed := fun _ => ⟨disconnected, empty'⟩
            terminal := fun _ _ => trivial
            released := fun _ => empty'
            created := fun _ _ made => .inl made
            resolved := fun owner isOver => .inl (resolves owner isOver)
            lawful := ⟨⟨fun _ => rfl, trivial⟩, inv.books.lawful⟩
            received := fun quiet free => silent.receives.trans (begun.books.received quiet free)
            notified := inv.books.notified
            expects := fun owner waker expects =>
              begun.handles.expecting owner waker (silent.expects _ expects) }
  · simp only [disconnected, Bool.false_eq_true, ↓reduceIte]
    refine ⟨⟨begun, .refl _⟩, rfl, ?_⟩
    refine begun.returns rfl (List.suffix_cons ..) rfl rfl Iff.rfl (fun _ => id) id
      (fun _ _ => id) (fun before => ?_) trivial
    exact absurd (ended before).1 disconnected

/-- An operation that returns nothing of interest. -/
theorem unit_keeps (plain : op.polls = none)
    (other : ∀ receiver, op ≠ .dropReceiver receiver)
    (answers : Answers op .unit channel.log)
    (reports : ∀ log, Reports (SendOver manners) op .unit log) (inv : Inv manners channel)
    (does : Inv manners (channel.logged (.began op)) → (body op).wp contract
      (fun result after => Kept manners (channel.logged (.began op)) after ∧ result = .unit)
      (fun _ after => Kept manners (channel.logged (.began op)) after)
      (channel.logged (.began op))) :
    (perform op).leaves contract (Kept manners channel) channel := by
  refine perform_plain plain inv fun begun => ?_
  refine Prog.wp_mono (does begun) ?_ ?_
  · rintro result after ⟨⟨inv', evolves⟩, rfl⟩
    have suffix : channel.log <:+ after.log := (List.suffix_cons ..).trans evolves.evolves.log
    refine ⟨⟨inv', evolves⟩, rfl, inv'.returns rfl suffix plain rfl ?_ ?_ ?_ ?_ answers (reports _)⟩
    · cases op <;> exact Iff.rfl
    · cases op <;> exact fun _ => id
    · cases op <;> first | exact id | exact absurd rfl (other _)
    · cases op <;> exact fun _ _ => id
  · exact fun _ after kept => ⟨kept, kept.1.unwound plain other⟩

include setting in
/-- The drop of a send future keeps what every operation keeps. -/
theorem dropSend_keeps (aborts : ∀ channel, contract.abort channel) (inv : Inv manners channel)
    (legal : channel.state.SendOwned future) :
    (perform (.dropSend future)).leaves contract (Kept manners channel) channel :=
  unit_keeps rfl nofun trivial (fun _ => trivial) inv fun begun =>
    dropSend_spec setting aborts begun legal

include setting in
/-- The drop of a receive future keeps what every operation keeps, if no stream is left un-woken. -/
theorem dropRecv_keeps (inv : Inv manners channel) (legal : channel.state.RecvOwned future)
    (orderly : manners.orderly → ∀ this, channel.state.recvs future = some this →
      this.done = false → ∀ receiver waker,
      expecting channel.log ≠ some (.stream receiver, waker)) :
    (perform (.dropRecv future)).leaves contract (Kept manners channel) channel :=
  unit_keeps rfl nofun trivial (fun _ => trivial) inv fun begun =>
    dropRecv_spec setting begun legal orderly

end Operations

section Drops

variable {contract : Prog.Contract (Channel α) (Callback α) Panic}
  {admits : Callback α → Panic → Channel α → Prop} (setting : DropSetting manners contract admits)
  {sender receiver : Nat}
include setting

/-- The drop of a sender keeps what every operation keeps. -/
theorem dropSender_keeps (inv : Inv manners channel) (legal : channel.state.SenderOwned sender) :
    (perform (.dropSender sender)).leaves contract (Kept manners channel) channel := by
  refine unit_keeps rfl nofun trivial (fun _ => trivial) inv fun begun => ?_
  have drops := dropSender_spec setting begun legal
  simp only [Prog.wp_bind, wp_modifyState] at drops
  simp only [body, Prog.wp_bind, wp_modifyState]
  exact Prog.wp_mono drops (fun _ _ kept => ⟨kept, rfl⟩) fun _ _ kept => kept

/-- The drop of the receiver tells that the channel is empty. -/
theorem dropReceiver_keeps (calm : manners.calmDrop receiver → Calm admits)
    (tidy : manners.tidy → ∀ waker payload channel,
      admits (.wake .senders waker) payload channel → channel.state.chan.recvWaker = none)
    (inv : Inv manners channel) (legal : channel.state.ReceiverOwned receiver) :
    (perform (.dropReceiver receiver)).leaves contract (Kept manners channel) channel := by
  refine perform_plain rfl inv fun begun => ?_
  have drops := dropReceiver_spec setting calm tidy begun legal
  have alive := inv.handles.alive legal.1
  have emptied : ∀ {after}, Inv manners after →
      Guarantee manners none (channel.logged (.began (.dropReceiver receiver))) after →
      LastReceiver receiver after.log ∨ Released after.log → after.state.chan.contents = [] := by
    rintro after inv' evolves (last | isOver)
    · exact evolves.tally.emptied alive (inv'.books.last receiver last)
    · exact inv'.books.released isOver
  simp only [Prog.wp_bind, wp_modifyState] at drops
  simp only [body, Prog.wp_bind, wp_modifyState]
  refine Prog.wp_mono drops ?_ ?_
  · rintro _ after ⟨inv', evolves⟩
    have silent : Silent after (.returned channel.log.length (.dropReceiver receiver) .unit) :=
      .returned rfl rfl fun _ _ => resolved_plain rfl
    refine ⟨⟨inv', evolves⟩, rfl, ?_⟩
    exact
      { observed := inv'.books.observed
        terminal := inv'.books.terminal
        released := emptied inv' evolves
        created := fun _ _ made => .inl made
        resolved := fun owner isOver => .inl (resolved_plain rfl isOver)
        lawful := ⟨⟨trivial, trivial⟩, inv'.books.lawful⟩
        received := fun quiet free => silent.receives.trans (inv'.books.received quiet free)
        notified := inv'.books.notified
        expects := fun owner waker expects =>
          inv'.handles.expecting owner waker (silent.expects _ expects) }
  · rintro _ after ⟨inv', evolves⟩
    have silent : Silent after (.unwound channel.log.length (.dropReceiver receiver)) := .unwound
    refine ⟨⟨inv', evolves⟩, ?_⟩
    exact
      { observed := inv'.books.observed
        terminal := inv'.books.terminal
        released := emptied inv' evolves
        created := fun _ _ made => .inl made
        resolved := fun owner isOver => .inl isOver
        lawful := inv'.books.lawful
        received := fun quiet free => silent.receives.trans (inv'.books.received quiet free)
        notified := inv'.books.notified
        expects := fun owner waker expects =>
          inv'.handles.expecting owner waker (silent.expects _ expects) }

end Drops

end Lochan.Mpsc
