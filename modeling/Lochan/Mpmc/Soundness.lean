import Lochan.Mpmc.Operations

/-!
# Every operation on an mpmc channel keeps the invariant
-/

namespace Lochan.Mpmc

open Reentrant Queue

variable {α : Type} {manners : Manners} {channel after : Channel α}

/-- An operation kept the invariant and the guarantee. -/
abbrev Kept (manners : Manners) (channel after : Channel α) : Prop :=
  Inv manners after ∧ Guarantee manners none none channel after

section Reads

variable {contract : Prog.Contract (Channel α) (Callback α) Panic} {op : Op α}

/-- A query answers an observation, and changes nothing. -/
theorem body_observes (observes : op.Observes) (legal : channel.state.Legal op)
    (clear : channel.held = [])
    {post : Result α → Channel α → Prop} {exc : Panic → Channel α → Prop}
    (answers : ∀ result, result.Observation → post result channel) :
    (body op).wp contract post exc channel := by
  cases op with
  | senderCapacity sender =>
      simp only [body, Prog.wp_bind]
      rw [wp_cap clear]
      exact answers _ (.capacity _)
  | senderLen sender | receiverLen receiver =>
      simp only [body, Prog.wp_bind]
      rw [wp_len clear]
      exact answers _ (.size _)
  | senderIsEmpty sender | receiverIsEmpty receiver =>
      simp only [body, Prog.wp_bind]
      rw [wp_isEmpty clear]
      exact answers _ (.bool _)
  | senderIsFull sender =>
      simp only [body, Prog.wp_bind]
      rw [wp_isFull clear]
      exact answers _ (.bool _)
  | senderIsClosed sender => exact answers _ (.bool _)
  | receiverIsClosed receiver => exact answers _ (.bool _)
  | recvIsTerminated future =>
      obtain ⟨this, found⟩ := Option.isSome_iff_exists.mp legal.1
      simp only [body, RecvFuture.isTerminated, Prog.wp_bind, wp_getState, found]
      exact answers _ (.bool _)
  | _ => exact observes.elim

/-- An observation tells nothing new. -/
theorem Inv.tellsObservation (inv : Inv manners channel) (observes : op.Observes) {start : Nat}
    {result : Result α} (observation : result.Observation) :
    Tells channel (.returned start op result) ∧
      (∀ receiver, Terminal receiver (.returned start op result :: channel.log) →
        Terminal receiver channel.log) ∧ result.receives = false := by
  have plain : op.polls = none := by cases op <;> first | rfl | exact observes.elim
  cases op <;> first
    | exact observes.elim
    | (cases observation with
       | capacity value | size value =>
           exact ⟨inv.tells Iff.rfl (fun _ => id) id (fun _ _ => id)
             (fun _ => resolved_plain plain) (.intro ⟨trivial, trivial⟩), fun _ => id, rfl⟩
       | bool value =>
           cases value <;>
             exact ⟨inv.tells Iff.rfl (fun _ => id) id (fun _ _ => id)
               (fun _ => resolved_plain plain) (.intro ⟨trivial, trivial⟩), fun _ => id, rfl⟩)

/-- A query keeps the invariant. -/
theorem observes_keeps (observes : op.Observes) (legal : channel.state.Legal op)
    (inv : Inv manners channel) :
    (perform op).leaves contract (Kept manners channel) channel := by
  have plain : op.polls = none := by cases op <;> first | rfl | exact observes.elim
  refine perform_plain plain inv fun begun => ?_
  have legal : (channel.logged (.began op)).state.Legal op := legal
  refine body_observes observes legal begun.core.held fun result observation => ?_
  obtain ⟨told, terminal, quiet⟩ := begun.tellsObservation observes observation
  exact ⟨begun, .refl _, told, fun receiver _ => terminal receiver,
    fun receives => absurd (quiet.symm.trans receives) nofun⟩

end Reads

section Operations

variable {contract : Prog.Contract (Channel α) (Callback α) Panic}
  {admits : Callback α → Panic → Channel α → Prop} (setting : Setting manners contract admits)
  {sender receiver future : Nat} {item : α}

/-- No task is polled through a reference to a sender. -/
theorem plain_sender (owner : Owner) : owner.ref ≠ .sender sender := by cases owner <;> exact nofun

/-- No task is polled through a shared reference to a receiver. -/
theorem plain_receiver (owner : Owner) : owner.ref ≠ .receiver receiver := by
  cases owner <;> exact nofun

/-- What the return of an operation tells, by what it answers and reports. -/
theorem Inv.returns {op : Op α} {result : Result α} (inv : Inv manners after) {start : Nat}
    {begun : Log α} (length : begun.length = start) (suffix : begun <:+ after.log)
    (observed : Observed (.returned start op result :: after.log) ↔ Observed after.log)
    (terminal : ∀ receiver, Terminal receiver (.returned start op result :: after.log) →
      Terminal receiver after.log)
    (released : Released (.returned start op result :: after.log) → Released after.log)
    (created : ∀ future item, Created future item (.returned start op result :: after.log) →
      Created future item after.log)
    (plain : op.polls = none) (answers : Answers op result begun)
    (reports : Reports SendOver op result after.log) :
    Tells after (.returned start op result) := by
  subst length
  exact inv.tells observed terminal released created (fun _ => resolved_plain plain)
    fun lawful => ⟨⟨(past_suffix suffix).symm ▸ answers, reports⟩, lawful⟩

include setting in
/-- Sending without waiting keeps the invariant. -/
theorem trySend_keeps (inv : Inv manners channel) (legal : channel.state.SenderShared sender) :
    (perform (.trySend sender item)).leaves contract (Kept manners channel) channel := by
  refine perform_plain rfl inv fun begun => ?_
  have held := holding_spec begun plain_sender legal
    (fun result _ => channel.state.chan.rejecting = true → result =
      Except.error (TrySendError.closed item))
    fun used => trySend_spec setting used legal item
  simp only [body, Prog.wp_bind]
  refine Prog.wp_mono held ?_ ?_
  · rintro result after ⟨inv', evolves, rejected⟩
    have suffix : channel.log <:+ after.log := (List.suffix_cons ..).trans evolves.evolves.log
    refine ⟨inv', evolves, inv'.returns rfl suffix Iff.rfl (fun _ => id) id (fun _ _ => id) rfl
      ?_ trivial, fun _ _ => id, by rintro ⟨⟩⟩
    exact fun shut => congrArg Result.trySend (rejected (inv.core.books.shut.mp shut))
  · exact fun _ after kept => ⟨kept.1, kept.2, kept.1.unwound (by rintro _ ⟨⟩)⟩

include setting in
/-- Closing from a sender keeps the invariant. -/
theorem closeSender_keeps (inv : Inv manners channel) (legal : channel.state.SenderShared sender) :
    (perform (.closeSender sender)).leaves contract (Kept manners channel) channel := by
  refine perform_plain rfl inv fun begun => ?_
  have held := holding_spec begun plain_sender legal (fun _ _ => True)
    fun used => Prog.wp_mono (closeSender_spec setting used legal)
      (fun _ _ kept => ⟨kept.1, kept.2, trivial⟩) fun _ _ kept => kept
  simp only [body, Prog.wp_bind]
  refine Prog.wp_mono held ?_ ?_
  · rintro closed after ⟨inv', evolves, -⟩
    have suffix : channel.log <:+ after.log := (List.suffix_cons ..).trans evolves.evolves.log
    cases closed <;>
      exact ⟨inv', evolves, inv'.returns rfl suffix Iff.rfl (fun _ => id) id (fun _ _ => id) rfl
        trivial trivial, fun _ _ => id, by rintro ⟨⟩⟩
  · exact fun _ after kept => ⟨kept.1, kept.2, kept.1.unwound (by rintro _ ⟨⟩)⟩

include setting in
/-- Closing from a receiver keeps the invariant. -/
theorem closeReceiver_keeps (inv : Inv manners channel)
    (legal : channel.state.ReceiverShared receiver) :
    (perform (.closeReceiver receiver)).leaves contract (Kept manners channel) channel := by
  refine perform_plain rfl inv fun begun => ?_
  have held := holding_spec begun plain_receiver legal.1 (fun _ _ => True)
    fun used => Prog.wp_mono
      (closeReceiver_spec setting used ⟨.receiver receiver, List.mem_cons_self, trivial⟩)
      (fun _ _ kept => ⟨kept.1, kept.2, trivial⟩) fun _ _ kept => kept
  simp only [body, Prog.wp_bind]
  refine Prog.wp_mono held ?_ ?_
  · rintro closed after ⟨inv', evolves, -⟩
    have suffix : channel.log <:+ after.log := (List.suffix_cons ..).trans evolves.evolves.log
    cases closed <;>
      exact ⟨inv', evolves, inv'.returns rfl suffix Iff.rfl (fun _ => id) id (fun _ _ => id) rfl
        trivial trivial, fun _ _ => id, by rintro ⟨⟩⟩
  · exact fun _ after kept => ⟨kept.1, kept.2, kept.1.unwound (by rintro _ ⟨⟩)⟩

/-- Cloning a sender keeps the invariant. -/
theorem cloneSender_keeps (inv : Inv manners channel)
    (legal : channel.state.SenderShared sender) :
    (perform (.cloneSender sender)).leaves contract (Kept manners channel) channel := by
  refine perform_plain rfl inv fun begun => ?_
  have evolves : Guarantee manners none none (channel.logged (.began (.cloneSender sender))) _ :=
    .addSender begun.core.handles legal
  have inv' := begun.addSender legal
  exact ⟨inv', evolves, inv'.returns rfl (List.suffix_cons ..) Iff.rfl (fun _ => id) id
    (fun _ _ => id) rfl trivial trivial, fun _ _ => id, nofun⟩

/-- Cloning a receiver keeps the invariant. -/
theorem cloneReceiver_keeps (inv : Inv manners channel)
    (legal : channel.state.ReceiverShared receiver) :
    (perform (.cloneReceiver receiver)).leaves contract (Kept manners channel) channel := by
  refine perform_plain rfl inv fun begun => ?_
  have evolves : Guarantee manners none none
      (channel.logged (.began (.cloneReceiver receiver))) _ :=
    .addReceiver begun.core.handles legal.1
  have inv' := begun.addReceiver legal.1
  have idle : Function.update channel.state.streamWakerId channel.state.fresh none =
      channel.state.streamWakerId :=
    Function.update_eq_self_iff.mpr inv.core.handles.unused.2.1.symm
  simp only [body, Receiver.clone, freshId, Prog.wp_bind, wp_modifyChan, wp_getState,
    wp_modifyState, Prog.wp_pure, World.onState, State.onChan, World.logged_state, idle]
  exact ⟨inv', evolves, inv'.returns rfl (List.suffix_cons ..) Iff.rfl (fun _ => id) id
    (fun _ _ => id) rfl trivial trivial, fun _ _ => id, by rintro ⟨⟩⟩

/-- Creating a receive future keeps the invariant. -/
theorem recv_keeps (inv : Inv manners channel)
    (legal : channel.state.ReceiverShared receiver) :
    (perform (.recv receiver)).leaves contract (Kept manners channel) channel := by
  refine perform_plain rfl inv fun begun => ?_
  have evolves : Guarantee manners none none (channel.logged (.began (.recv receiver)))
      (withRecv (channel.logged (.began (.recv receiver))) receiver) :=
    .addRecv begun.core.handles
  have inv' := begun.addRecv legal.1
  exact ⟨inv', evolves, inv'.returns rfl (List.suffix_cons ..) Iff.rfl (fun _ => id) id
    (fun _ _ => id) rfl trivial trivial, fun _ _ => id, nofun⟩

/-- Creating a send future keeps the invariant. -/
theorem send_keeps (inv : Inv manners channel)
    (legal : channel.state.SenderShared sender) :
    (perform (.send sender item)).leaves contract (Kept manners channel) channel := by
  refine perform_plain rfl inv fun begun => ?_
  have evolves : Guarantee manners none none (channel.logged (.began (.send sender item)))
      (withSend (channel.logged (.began (.send sender item))) (Send.new sender item)) :=
    .addSend begun.core.handles
  have inv' : Inv manners (withSend _ (Send.new sender item)) := begun.addSend legal
  have idle : ∀ id, Resolved id (.returned channel.log.length (.send sender item)
      (.handle channel.state.fresh) :: .began (.send sender item) :: channel.log) →
      Resolved id (.began (.send sender item) :: channel.log) := fun _ => resolved_plain rfl
  have lawful := inv'.core.books.lawful
  refine ⟨inv', evolves, ?_, fun _ _ => id, nofun⟩
  exact
    { observed := inv'.core.books.observed
      terminal := inv'.core.books.terminal
      released := inv'.core.books.released
      created := by
        rintro future made (⟨rfl, rfl⟩ | before)
        · refine .inr ⟨Nat.lt_succ_self _, fun this found => ?_⟩
          obtain rfl : Send.new sender item = this := by simpa using found
          exact ⟨rfl, rfl, rfl⟩
        · exact .inl before
      resolved := fun owner isOver => .inl (idle owner isOver)
      lawful := ⟨⟨trivial, trivial⟩, lawful⟩ }

end Operations

section Futures

variable {contract : Prog.Contract (Channel α) (Callback α) Panic}
  {admits : Callback α → Panic → Channel α → Prop} (setting : Setting manners contract admits)
  {sender receiver future : Nat} {item : α}

/-- A report that a send has terminated comes after its result was returned. -/
theorem sendIsTerminated_keeps (inv : Inv manners channel)
    (legal : channel.state.SendOwned future) :
    (perform (.sendIsTerminated future)).leaves contract (Kept manners channel) channel := by
  refine perform_plain rfl inv fun begun => ?_
  obtain ⟨this, found⟩ := Option.isSome_iff_exists.mp legal.1
  simp only [body, SendFuture.isTerminated, Prog.wp_bind, wp_getState, World.logged_state, found]
  refine ⟨begun, .refl _, ?_, fun _ _ => ?_, by rintro ⟨⟩⟩
  · cases isOver : this.done && this.outcome.isNone with
    | false =>
        exact begun.returns rfl (List.suffix_cons ..) Iff.rfl (fun _ => id) id (fun _ _ => id) rfl
          trivial trivial
    | true =>
        obtain ⟨done, answered⟩ := Bool.and_eq_true_iff.mp isOver
        have resolved := (inv.core.futures.answered future this found legal.2 done).mp
          (Option.isNone_iff_eq_none.mp answered)
        exact begun.returns rfl (List.suffix_cons ..) Iff.rfl (fun _ => id) id (fun _ _ => id) rfl
          trivial resolved
  · cases this.done && this.outcome.isNone <;> exact id

/-- Asking whether a stream has terminated keeps the invariant. -/
theorem streamIsTerminated_keeps (inv : Inv manners channel)
    (legal : channel.state.ReceiverShared receiver) :
    (perform (.streamIsTerminated receiver)).leaves contract (Kept manners channel) channel := by
  refine perform_plain rfl inv fun begun => ?_
  have plain : ∀ owner value, Resolved owner (.returned channel.log.length
      (.streamIsTerminated receiver) (.bool value) :: .began (.streamIsTerminated receiver) ::
        channel.log) → Resolved owner (.began (.streamIsTerminated receiver) :: channel.log) :=
    fun owner value => resolved_plain rfl
  simp only [body, Receiver.isTerminated, Prog.wp_bind, wp_getState, Prog.wp_ite]
  split
  case isTrue isOver =>
    rw [wp_isEmpty begun.core.held]
    obtain ⟨idle, disconnected⟩ := Bool.and_eq_true_iff.mp isOver
    cases empty : channel.state.chan.contents.isEmpty with
    | false =>
        have full : channel.state.chan.contents ≠ [] := by simpa using empty
        refine ⟨begun, .refl _, ?_, fun _ _ => ?_, by rintro ⟨⟩⟩ <;>
          simp only [World.logged_state, empty]
        · refine begun.returns rfl (List.suffix_cons ..) Iff.rfl (fun _ => id) id
            (fun _ _ => id) rfl
            (fun ended => ?_) trivial
          exact absurd (inv.core.books.observed (inv.core.books.terminal receiver ended).1).2 full
        · exact id
    | true =>
        have empty' : channel.state.chan.contents = [] := by simpa using empty
        refine ⟨begun, .refl _, ?_, fun other used => ?_, by rintro ⟨⟩⟩ <;>
          simp only [World.logged_state, empty]
        · exact
            { observed := fun _ => ⟨disconnected, empty'⟩
              terminal := by
                rintro other (rfl | ended)
                · exact ⟨trivial, Option.isNone_iff_eq_none.mp idle⟩
                · exact ⟨trivial, (inv.core.books.terminal other ended).2⟩
              released := fun _ => empty'
              created := fun _ _ made => .inl made
              resolved := fun owner isOver => .inl (plain owner true isOver)
              lawful := ⟨⟨fun _ => rfl, trivial⟩, inv.core.books.lawful⟩ }
        · rintro (rfl | ended)
          · exact absurd used legal.2
          · exact ended
  case isFalse isOver =>
    refine ⟨begun, .refl _, ?_, fun _ _ => id, by rintro ⟨⟩⟩
    refine begun.returns rfl (List.suffix_cons ..) Iff.rfl (fun _ => id) id (fun _ _ => id) rfl
      (fun ended => ?_) trivial
    obtain ⟨seen, idle⟩ := inv.core.books.terminal receiver ended
    simp [idle, (inv.core.books.observed seen).1] at isOver

include setting in
/-- A receive that takes an item or finds that there is none. -/
theorem tryRecv_spec (inv : Inv manners channel) (receiving : channel.state.Receiving) :
    (Receiver.tryRecv : M α (Except TryRecvError α)).wp contract
      (fun result after => Inv manners after ∧ Guarantee manners none none channel after ∧
        (result.toBool = true → after.state.chan.redelivery = none) ∧
        (result.toBool = false → after.state.chan.contents = []) ∧
        (result = .error .disconnected → after.state.chan.disconnected = true) ∧
        (channel.state.chan.disconnected = true → channel.state.chan.contents = [] →
          result = .error .disconnected))
      (fun _ after => Inv manners after ∧ Guarantee manners none none channel after) channel := by
  simp only [Receiver.tryRecv, Prog.wp_bind]
  refine Prog.wp_mono (tryTake_spec setting inv receiving) ?_ (fun _ _ kept => kept)
  rintro taken after ⟨inv', evolves, none, some⟩
  cases taken with
  | some item =>
      obtain ⟨full, vacant⟩ := some nofun
      refine ⟨inv', evolves, fun _ => vacant, nofun, nofun, fun disconnected empty => ?_⟩
      refine absurd empty (full (Chan.sealed_iff.mpr ?_))
      exact (Chan.disconnected_iff.mp disconnected).elim (.inr ∘ .inl) .inl
  | none =>
      simp only [Prog.wp_bind, wp_getChan, Prog.wp_ite]
      cases isOver : after.state.chan.disconnected with
      | true => exact ⟨inv', evolves, nofun, fun _ => none rfl, fun _ => isOver, fun _ _ => rfl⟩
      | false =>
          refine ⟨inv', evolves, nofun, fun _ => none rfl, nofun, fun disconnected _ => ?_⟩
          exact absurd (isOver.symm.trans (evolves.evolves.disconnected disconnected)) nofun

include setting in
/-- The iterator takes an item or finds that there is none. -/
theorem tryIterNext_spec (inv : Inv manners channel) (receiving : channel.state.Receiving) :
    (Receiver.tryIterNext : M α (Option α)).wp contract
      (fun item after => Inv manners after ∧ Guarantee manners none none channel after ∧
        (item.isSome = true → after.state.chan.redelivery = none) ∧
        (item = none → after.state.chan.contents = []))
      (fun _ after => Inv manners after ∧ Guarantee manners none none channel after) channel := by
  simp only [Receiver.tryIterNext, Prog.wp_bind]
  refine Prog.wp_mono (tryRecv_spec setting inv receiving) ?_ (fun _ _ kept => kept)
  rintro (_ | item) after ⟨inv', evolves, vacant, none, -⟩
  · exact ⟨inv', evolves, nofun, fun _ => none rfl⟩
  · exact ⟨inv', evolves, fun _ => vacant rfl, nofun⟩

/-- What has been received leaves the channel empty where nothing was found. -/
theorem Books.emptied (books : Books manners channel) (empty : channel.state.chan.contents = []) :
    Emptied channel.log := by
  rw [Emptied, books.fifo, empty, List.append_nil]

include setting in
/-- Receiving without waiting keeps the invariant. -/
theorem tryRecv_keeps (inv : Inv manners channel) (legal : channel.state.ReceiverShared receiver) :
    (perform (.tryRecv receiver)).leaves contract (Kept manners channel) channel := by
  refine perform_plain rfl inv fun begun => ?_
  have held := holding_spec begun plain_receiver legal.1
    (fun result after => (result.toBool = true → after.state.chan.redelivery = none) ∧
      (result.toBool = false → after.state.chan.contents = []) ∧
      (result = Except.error .disconnected → after.state.chan.disconnected = true) ∧
      (channel.state.chan.disconnected = true → channel.state.chan.contents = [] →
        result = Except.error TryRecvError.disconnected))
    fun used => tryRecv_spec setting used ⟨.receiver receiver, List.mem_cons_self, trivial⟩
  simp only [body, Prog.wp_bind]
  refine Prog.wp_mono held ?_ ?_
  · rintro result after ⟨inv', evolves, vacant, none, ended, isOver⟩
    have suffix : channel.log <:+ after.log := (List.suffix_cons ..).trans evolves.evolves.log
    have answers : Observed channel.log → result = .error .disconnected := fun seen =>
      isOver (inv.core.books.observed seen).1 (inv.core.books.observed seen).2
    cases result with
    | ok item =>
        refine ⟨inv', evolves, inv'.returns rfl suffix Iff.rfl (fun _ => id) id (fun _ _ => id) rfl
          (fun seen => congrArg Result.tryRecv (answers seen)) trivial, fun _ _ => id,
          fun _ => vacant rfl⟩
    | error reason =>
        have emptied := inv'.core.books.emptied (none rfl)
        cases reason with
        | empty =>
            exact ⟨inv', evolves, inv'.returns rfl suffix Iff.rfl (fun _ => id) id (fun _ _ => id)
              rfl (fun seen => congrArg Result.tryRecv (answers seen)) emptied,
                fun _ _ => id, by rintro ⟨⟩⟩
        | disconnected =>
            refine ⟨inv', evolves, ?_, fun _ _ => id, by rintro ⟨⟩⟩
            exact
              { observed := fun _ => ⟨ended rfl, none rfl⟩
                terminal := fun other before =>
                  ⟨trivial, (inv'.core.books.terminal other before).2⟩
                released := fun _ => none rfl
                created := fun _ _ made => .inl made
                resolved := fun owner isOver => .inl (resolved_plain rfl isOver)
                lawful := ⟨⟨fun _ => rfl, emptied⟩, inv'.core.books.lawful⟩ }
  · exact fun _ after kept => ⟨kept.1, kept.2, kept.1.unwound (by rintro _ ⟨⟩)⟩

include setting in
/-- Taking an item through the iterator keeps the invariant. -/
theorem tryIterNext_keeps (inv : Inv manners channel)
    (legal : channel.state.ReceiverShared receiver) :
    (perform (.tryIterNext receiver)).leaves contract (Kept manners channel) channel := by
  refine perform_plain rfl inv fun begun => ?_
  have held := holding_spec begun plain_receiver legal.1
    (fun item after => (item.isSome = true → after.state.chan.redelivery = none) ∧
      (item = none → after.state.chan.contents = []))
    fun used => tryIterNext_spec setting used ⟨.receiver receiver, List.mem_cons_self, trivial⟩
  simp only [body, Prog.wp_bind]
  refine Prog.wp_mono held ?_ ?_
  · rintro (_ | item) after ⟨inv', evolves, vacant, none⟩
    · have suffix : channel.log <:+ after.log := (List.suffix_cons ..).trans evolves.evolves.log
      exact ⟨inv', evolves, inv'.returns rfl suffix Iff.rfl (fun _ => id) id (fun _ _ => id) rfl
        trivial (inv'.core.books.emptied (none rfl)), fun _ _ => id, by rintro ⟨⟩⟩
    · have suffix : channel.log <:+ after.log := (List.suffix_cons ..).trans evolves.evolves.log
      exact ⟨inv', evolves, inv'.returns rfl suffix Iff.rfl (fun _ => id) id (fun _ _ => id) rfl
        trivial trivial, fun _ _ => id, fun _ => vacant rfl⟩
  · exact fun _ after kept => ⟨kept.1, kept.2, kept.1.unwound (by rintro _ ⟨⟩)⟩

/-- An operation that returns nothing of interest. -/
theorem unit_keeps {op : Op α} (plain : op.polls = none)
    (other : ∀ receiver, op ≠ .dropReceiver receiver)
    (answers : Answers op .unit channel.log) (reports : ∀ log, Reports SendOver op .unit log)
    (inv : Inv manners channel)
    (does : Inv manners (channel.logged (.began op)) → (body op).wp contract
      (fun result after => Kept manners (channel.logged (.began op)) after ∧ result = .unit)
      (fun _ after => Kept manners (channel.logged (.began op)) after)
      (channel.logged (.began op))) :
    (perform op).leaves contract (Kept manners channel) channel := by
  refine perform_plain plain inv fun begun => ?_
  refine Prog.wp_mono (does begun) ?_ ?_
  · rintro result after ⟨⟨inv', evolves⟩, rfl⟩
    have suffix : channel.log <:+ after.log := (List.suffix_cons ..).trans evolves.evolves.log
    refine ⟨inv', evolves, inv'.returns rfl suffix ?_ ?_ ?_ ?_ plain answers (reports _), ?_, nofun⟩
    · cases op <;> exact Iff.rfl
    · cases op <;> exact fun _ => id
    · cases op <;> first | exact id | exact absurd rfl (other _)
    · cases op <;> exact fun _ _ => id
    · cases op <;> exact fun _ _ => id
  · exact fun _ after kept => ⟨kept.1, kept.2, kept.1.unwound other⟩

include setting in
/-- Dropping a send future keeps the invariant. -/
theorem dropSend_keeps (aborts : ∀ channel, contract.abort channel) (inv : Inv manners channel)
    (legal : channel.state.SendOwned future) :
    (perform (.dropSend future)).leaves contract (Kept manners channel) channel :=
  unit_keeps rfl nofun trivial (fun _ => trivial) inv fun begun =>
    dropSend_spec setting aborts begun legal

include setting in
/-- Dropping a receive future keeps the invariant. -/
theorem dropRecv_keeps (inv : Inv manners channel) (legal : channel.state.RecvOwned future) :
    (perform (.dropRecv future)).leaves contract (Kept manners channel) channel :=
  unit_keeps rfl nofun trivial (fun _ => trivial) inv fun begun => dropRecv_spec setting begun legal

include setting in
/-- Dropping a sender keeps the invariant. -/
theorem dropSender_keeps (aborts : ∀ channel, contract.abort channel) (inv : Inv manners channel)
    (legal : channel.state.SenderOwned sender) :
    (perform (.dropSender sender)).leaves contract (Kept manners channel) channel := by
  refine unit_keeps rfl nofun trivial (fun _ => trivial) inv fun begun => ?_
  have drops := dropSender_spec setting (.inr aborts) begun legal
  simp only [Prog.wp_bind, wp_modifyState] at drops
  simp only [body, Prog.wp_bind, wp_modifyState]
  exact Prog.wp_mono drops (fun _ _ kept => ⟨kept, rfl⟩) fun _ _ kept => kept

include setting in
/-- The drop of a receiver tells that the channel is empty, if it was the last. -/
theorem dropReceiver_keeps (aborts : SinglePanic Freed admits ∨ ∀ channel, contract.abort channel)
    (calm : manners.calmDrop receiver → Calm admits)
    (inv : Inv manners channel) (legal : channel.state.ReceiverOwned receiver) :
    (perform (.dropReceiver receiver)).leaves contract (Kept manners channel) channel := by
  refine perform_plain rfl inv fun begun => ?_
  have drops := dropReceiver_spec setting aborts calm begun legal
  have alive := inv.core.handles.alive legal.1
  have emptied : ∀ {after}, Inv manners after →
      Guarantee manners none none (channel.logged (.began (.dropReceiver receiver))) after →
      LastReceiver receiver after.log ∨ Released after.log → after.state.chan.contents = [] := by
    rintro after inv' evolves (last | isOver)
    · exact evolves.emptied alive (inv'.core.books.last receiver last)
    · exact inv'.core.books.released isOver
  simp only [Prog.wp_bind, wp_modifyState] at drops
  simp only [body, Prog.wp_bind, wp_modifyState]
  refine Prog.wp_mono drops ?_ ?_
  · rintro _ after ⟨inv', evolves⟩
    refine ⟨inv', evolves, ?_, fun _ _ => id, by rintro ⟨⟩⟩
    exact
      { observed := inv'.core.books.observed
        terminal := inv'.core.books.terminal
        released := emptied inv' evolves
        created := fun _ _ made => .inl made
        resolved := fun owner isOver => .inl (resolved_plain rfl isOver)
        lawful := ⟨⟨trivial, trivial⟩, inv'.core.books.lawful⟩ }
  · rintro _ after ⟨inv', evolves⟩
    refine ⟨inv', evolves, ?_⟩
    exact
      { observed := inv'.core.books.observed
        terminal := inv'.core.books.terminal
        released := emptied inv' evolves
        created := fun _ _ made => .inl made
        resolved := fun owner isOver => .inl isOver
        lawful := inv'.core.books.lawful }

end Futures

/-! ### Operations that poll a task -/

/-- What the end of a poll leaves behind. -/
structure Concludes (manners : Manners) (owner : Owner) (channel : Channel α)
    (event : Event (Op α) (Result α) α) : Prop where
  tells : Tells channel event
  answered : ∀ future this, owner = .send future → channel.state.sends future = some this →
    this.done = true → (this.outcome = none ↔ Resolved (.send future) (event :: channel.log))
  received : ∀ future this, owner = .recv future → channel.state.recvs future = some this →
    (this.done = true ↔ Resolved (.recv future) (event :: channel.log))
  quiet : ∀ waker, waiting owner (event :: channel.log) = some waker →
    channel.state.Unfinished owner →
    (owner.side = .receivers → channel.state.chan.contents = []) ∧
    (owner.side = .senders → channel.state.chan.flavor.isFull = true) ∧
    (manners.calm → Fits channel.log → ¬ Missing channel owner waker)
  terminal : ∀ receiver, Terminal receiver (event :: channel.log) →
    Terminal receiver channel.log ∨ owner = .stream receiver
  resolved : ∀ other, Resolved other (event :: channel.log) →
    Resolved other channel.log ∨ other = owner
  receipt : receipts (event :: channel.log) = receipts channel.log ∨
    channel.state.chan.redelivery = none

section Polls

variable {op : Op α} {owner : Owner} {waker : Waker} {event : Event (Op α) (Result α) α}

/-- A poll that concludes needs no exception any more. -/
theorem Concludes.kept (concludes : Concludes manners owner after event) (ends : event.Ends)
    (polls : op.polls = some (owner, waker)) (free : owner.ref ∉ channel.state.uses)
    (streams : ∀ receiver, owner = .stream receiver → .receiverMut receiver ∉ channel.state.uses)
    (inv : Inv manners after)
    (guarantee : Guarantee manners (some owner) none (inUse (channel.logged (.began op)) owner.ref)
      after) : Kept manners channel ((released after owner.ref).logged event) := by
  have fits : Fits (event :: after.log) → Fits after.log := (·.of_suffix (List.suffix_cons ..))
  have same : ∀ other : Owner, other.ref = owner.ref → other = owner :=
    fun _ => Owner.ref_injective
  refine ⟨?_, ?_⟩
  · refine (inv.ends ends concludes.tells).release ?_ ?_ ?_ ?_
    · intro future this ref
      exact concludes.answered future this (same (.send future) ref).symm
    · intro future this ref
      exact concludes.received future this (same (.recv future) ref).symm
    · rintro other woken ref receives - waits unfinished -
      obtain rfl := same other ref
      exact (concludes.quiet woken waits unfinished).1 receives
    · rintro other woken ref sends - waits unfinished -
      obtain rfl := same other ref
      exact (concludes.quiet woken waits unfinished).2.1 sends
  · have uses : (released after owner.ref).state.uses = channel.state.uses :=
      guarantee.release.evolves.uses
    have begins : Guarantee manners (some owner) none channel (channel.logged (.began op)) :=
      .beganPoll polls free
    have closes : Guarantee manners (some owner) none (released after owner.ref)
        ((released after owner.ref).logged event) := by
      refine .ends ends (fun receiver used ended => ?_)
        (fun other used isOver => ?_) concludes.receipt
      · exact (concludes.terminal receiver ended).resolve_right fun stream =>
          streams receiver stream (uses ▸ used)
      · refine (concludes.resolved other isOver).resolve_right fun resolved => ?_
        exact free (resolved ▸ uses ▸ used)
    refine ((begins.trans guarantee.release).trans closes).disown free fun calm fits' woken => ?_
    rintro ⟨waits, unfinished, unparked⟩
    have unfinished : after.state.Unfinished owner := by cases owner <;> exact unfinished
    have unparked : ¬ Parked after owner woken := unparked
    exact (concludes.quiet woken waits unfinished).2.2 calm (fits fits')
      ⟨waiting_ends ends waits, unfinished, unparked⟩

/-- A poll of a task, from its beginning to its end. -/
theorem poll_keeps {contract : Prog.Contract (Channel α) (Callback α) Panic} {β : Type}
    {act : M α β} {answer : β → Result α} (polls : op.polls = some (owner, waker))
    (inv : Inv manners channel) (free : owner.ref ∉ channel.state.uses)
    (streams : ∀ receiver, owner = .stream receiver → .receiverMut receiver ∉ channel.state.uses)
    (live : channel.state.RefLive owner.ref) (below : owner.index < channel.state.fresh)
    (does : body op = do return answer (← holding owner.ref act))
    (acts : Inv manners (inUse (channel.logged (.began op)) owner.ref) → act.wp contract
      (fun value after => Inv manners after ∧
        Guarantee manners (some owner) none (inUse (channel.logged (.began op)) owner.ref) after ∧
        Concludes manners owner after (.returned channel.log.length op (answer value)))
      (fun _ after => Inv manners after ∧
        Guarantee manners (some owner) none (inUse (channel.logged (.began op)) owner.ref) after ∧
        Concludes manners owner after (.unwound channel.log.length op))
      (inUse (channel.logged (.began op)) owner.ref)) :
    (perform op).leaves contract (Kept manners channel) channel := by
  rw [Prog.leaves, wp_perform, does]
  simp only [Prog.wp_bind, wp_holding]
  refine Prog.wp_mono (acts (inv.beganPoll polls live below)) ?_ ?_
  · rintro value after ⟨inv', guarantee, concludes⟩
    exact concludes.kept (.returned ..) polls free streams inv' guarantee
  · rintro _ after ⟨inv', guarantee, concludes⟩
    exact concludes.kept (.unwound ..) polls free streams inv' guarantee

end Polls

section Polls

variable {op : Op α} {owner : Owner} {waker : Waker}

/-- A task that is not told `Pending` waits no longer. -/
theorem waiting_answered (polls : op.polls = some (owner, waker)) {result : Result α}
    (answered : result.isPending = false) {start : Nat} {log : Log α} :
    waiting owner (.returned start op result :: log) = none := by
  simp [waiting, polls, answered]

/-- The unwinding of a poll, where the task is left as the log says. -/
theorem Inv.concludesUnwound (inv : Inv manners after) (polls : op.polls = some (owner, waker))
    {start : Nat}
    (answered : ∀ future this, owner = .send future → after.state.sends future = some this →
      this.done = true → (this.outcome = none ↔ Resolved (.send future) after.log))
    (received : ∀ future this, owner = .recv future → after.state.recvs future = some this →
      (this.done = true ↔ Resolved (.recv future) after.log)) :
    Concludes manners owner after (.unwound start op) where
  tells := inv.unwound fun receiver same => by
    subst same
    exact absurd polls nofun
  answered := answered
  received := received
  quiet woken waits := by simp [waiting, polls] at waits
  terminal _ ended := .inl ended
  resolved _ isOver := .inl isOver
  receipt := .inl rfl

/-- The return of a poll resolves no task but the one it polls. -/
theorem resolved_poll (polls : op.polls = some (owner, waker)) {start : Nat} {result : Result α}
    {other : Owner} {log : Log α} (resolved : Resolved other (.returned start op result :: log)) :
    Resolved other log ∨ other = owner ∧ result.isPending = false := by
  rcases resolved with ⟨⟨woken, polls'⟩, ready⟩ | before
  · exact .inr ⟨(Prod.mk.inj (Option.some.inj (polls'.symm.trans polls))).1, ready⟩
  · exact .inl before

variable {contract : Prog.Contract (Channel α) (Callback α) Panic}
  {admits : Callback α → Panic → Channel α → Prop} (setting : Setting manners contract admits)
  {receiver future : Nat}

/-- A poll of a task starts where the task waits for the waker of the poll. -/
theorem Guarantee.polledWith {before : Channel α} (polls : op.polls = some (owner, waker))
    (guarantee : Guarantee manners own none (inUse (before.logged (.began op)) owner.ref) after)
    {woken : Waker} (waits : waiting owner after.log = some woken) : woken = waker := by
  have began := guarantee.evolves.waiting owner List.mem_cons_self woken waits
  exact Option.some.inj (began.symm.trans (waiting_began polls))

/-- A poll in progress resolves nothing before it returns. -/
theorem Guarantee.unresolved {before : Channel α}
    (guarantee : Guarantee manners own none (inUse (before.logged (.began op)) owner.ref) after) :
    Resolved owner after.log ↔ Resolved owner before.log := by
  have suffix : before.log <:+ after.log := (List.suffix_cons ..).trans guarantee.evolves.log
  exact ⟨guarantee.evolves.resolved owner List.mem_cons_self, (·.later suffix)⟩

include setting in
/-- Polling a stream keeps the invariant. -/
theorem pollNext_keeps (inv : Inv manners channel)
    (legal : channel.state.ReceiverOwned receiver) :
    (perform (.pollNext receiver waker)).leaves contract (Kept manners channel) channel := by
  obtain ⟨member, -, free, -⟩ := legal
  have polls : (.pollNext receiver waker : Op α).polls = some (.stream receiver, waker) := rfl
  refine poll_keeps polls inv free (by rintro _ ⟨⟩; exact free) member
    (inv.core.handles.below _ member) rfl fun begun => ?_
  refine Prog.wp_mono (pollRecv_spec setting begun rfl List.mem_cons_self waker) ?_ ?_
  · rintro polled after ⟨inv', guarantee, answer⟩
    refine ⟨inv', guarantee, ?_⟩
    have books := inv'.core.books
    have suffix : channel.log <:+ after.log := (List.suffix_cons ..).trans guarantee.evolves.log
    have spent : Observed channel.log → polled = .ready none := fun seen =>
      answer.spent member (inv.core.books.observed seen).1 (inv.core.books.observed seen).2
    have answers : Answers (.pollNext receiver waker) (.recv polled)
        (past channel.log.length after.log) := by
      rw [past_suffix suffix]
      exact fun seen => congrArg Result.recv (spent seen)
    have resolves : ∀ other, Resolved other (.returned channel.log.length
        (.pollNext receiver waker) (.recv polled) :: after.log) → Resolved other after.log ∨
        other = .stream receiver := fun other isOver =>
          (resolved_poll polls isOver).imp_right And.left
    have resolved : ∀ other, Resolved other (.returned channel.log.length
        (.pollNext receiver waker) (.recv polled) :: after.log) → Resolved other after.log ∨
        other.ref ∈ after.state.uses ∧ ∀ future, other = .send future →
          Committed future after.log := by
      intro other isOver
      refine (resolves other isOver).imp_right ?_
      rintro rfl
      exact ⟨guarantee.evolves.uses ▸ List.mem_cons_self, nofun⟩
    rcases polled with (_ | item) | _
    · obtain ⟨disconnected, empty, idle⟩ := answer.ended rfl
      exact
        { tells :=
            { observed := fun _ => ⟨disconnected, empty⟩
              terminal := by
                rintro other (rfl | ended)
                · exact ⟨trivial, idle⟩
                · exact ⟨trivial, (books.terminal other ended).2⟩
              released := fun _ => empty
              created := fun _ _ made => .inl made
              resolved
              lawful := ⟨⟨answers, books.emptied empty⟩, books.lawful⟩ }
          answered := nofun
          received := nofun
          quiet := fun woken waits => by rw [waiting_answered polls rfl] at waits; cases waits
          terminal := fun other ended => ended.elim (fun same => .inr (congrArg _ same)) .inl
          resolved := resolves
          receipt := .inl rfl }
    · exact
        { tells :=
            { observed := books.observed
              terminal := books.terminal
              released := books.released
              created := fun _ _ made => .inl made
              resolved
              lawful := ⟨⟨answers, trivial⟩, books.lawful⟩ }
          answered := nofun
          received := nofun
          quiet := fun woken waits => by rw [waiting_answered polls rfl] at waits; cases waits
          terminal := fun _ => .inl
          resolved := resolves
          receipt := .inr (answer.handed item rfl) }
    · have unfinished : after.state.Unfinished (.stream receiver) := answer.still rfl member
      have pending := answer.pending rfl unfinished
      exact
        { tells :=
            { observed := books.observed
              terminal := books.terminal
              released := books.released
              created := fun _ _ made => .inl made
              resolved
              lawful := ⟨⟨answers, books.emptied pending.1⟩, books.lawful⟩ }
          answered := nofun
          received := nofun
          quiet := fun woken waits _ => by
            obtain rfl := guarantee.polledWith polls (waiting_ends (.returned ..) waits)
            exact ⟨fun _ => pending.1, nofun, pending.2⟩
          terminal := fun _ => .inl
          resolved := resolves
          receipt := .inl rfl }
  · rintro _ after ⟨inv', guarantee, -⟩
    exact ⟨inv', guarantee, inv'.concludesUnwound polls nofun nofun⟩

include setting in
/-- Polling a receive future keeps the invariant. -/
theorem pollRecv_keeps (inv : Inv manners channel) (legal : channel.state.RecvOwned future) :
    (perform (.pollRecv future waker)).leaves contract (Kept manners channel) channel := by
  obtain ⟨alive, free⟩ := legal
  obtain ⟨old, found⟩ := Option.isSome_iff_exists.mp alive
  have polls : (.pollRecv future waker : Op α).polls = some (.recv future, waker) := rfl
  have running : channel.state.Unfinished (.recv future) ↔ ¬ old.done = true := by
    rw [Bool.not_eq_true]
    refine ⟨fun ⟨this, found', running⟩ => ?_, fun running => ⟨old, found, running⟩⟩
    obtain rfl := Option.some.inj (found.symm.trans found')
    exact running
  have received := inv.core.futures.received future old found free
  refine poll_keeps polls inv free nofun alive (inv.core.handles.recv future old found).2 rfl
    fun begun => ?_
  refine Prog.wp_mono (pollRecvFuture_spec setting begun List.mem_cons_self (.inl rfl) waker) ?_ ?_
  · rintro polled after ⟨inv', guarantee, answer, unfinished⟩
    refine ⟨inv', guarantee, ?_⟩
    have books := inv'.core.books
    have suffix : channel.log <:+ after.log := (List.suffix_cons ..).trans guarantee.evolves.log
    have unfinished : after.state.Unfinished (.recv future) ↔
        ¬ Resolved (.recv future) channel.log ∧ polled = .pending := by
      rw [unfinished, ← received]
      exact and_congr_left' running
    have unresolved : Resolved (.recv future) after.log ↔ Resolved (.recv future) channel.log :=
      guarantee.unresolved
    have answers : Answers (.pollRecv future waker) (.recv polled)
        (past channel.log.length after.log) := by
      rw [past_suffix suffix]
      intro seen unpolled
      refine congrArg Result.recv (answer.spent (running.mpr fun done => ?_)
        (inv.core.books.observed seen).1 (inv.core.books.observed seen).2)
      exact unpolled (inv.core.futures.polled future old found done)
    have resolves : ∀ other, Resolved other (.returned channel.log.length
        (.pollRecv future waker) (.recv polled) :: after.log) → Resolved other after.log ∨
        other = .recv future := fun other isOver => (resolved_poll polls isOver).imp_right And.left
    have resolved : ∀ other, Resolved other (.returned channel.log.length
        (.pollRecv future waker) (.recv polled) :: after.log) → Resolved other after.log ∨
        other.ref ∈ after.state.uses ∧ ∀ future, other = .send future →
          Committed future after.log := by
      intro other isOver
      refine (resolves other isOver).imp_right ?_
      rintro rfl
      exact ⟨guarantee.evolves.uses ▸ List.mem_cons_self, nofun⟩
    have isOver : ∀ this, after.state.recvs future = some this →
        (this.done = true ↔ ¬ after.state.Unfinished (.recv future)) := by
      intro this found'
      refine ⟨fun done ⟨other, found'', running⟩ => ?_, fun isOver => ?_⟩
      · obtain rfl := Option.some.inj (found'.symm.trans found'')
        exact absurd (done.symm.trans running) nofun
      · exact eq_true_of_ne_false fun running => isOver ⟨this, found', running⟩
    have ready : polled ≠ .pending → Result.isPending (.recv polled) = false →
        ∀ other this, Owner.recv future = .recv other → after.state.recvs other = some this →
        (this.done = true ↔ Resolved (.recv other) (.returned channel.log.length
          (.pollRecv future waker) (.recv polled) :: after.log)) := by
      rintro done answered other this ⟨⟩ found'
      exact iff_of_true ((isOver this found').mpr fun running => done (unfinished.mp running).2)
        (.inl ⟨⟨waker, polls⟩, answered⟩)
    rcases polled with (_ | item) | _
    · obtain ⟨disconnected, empty, idle⟩ := answer.ended rfl
      exact
        { tells :=
            { observed := fun _ => ⟨disconnected, empty⟩
              terminal := fun other ended => ⟨trivial, (books.terminal other ended).2⟩
              released := fun _ => empty
              created := fun _ _ made => .inl made
              resolved
              lawful := ⟨⟨answers, books.emptied empty⟩, books.lawful⟩ }
          answered := nofun
          received := ready nofun rfl
          quiet := fun woken waits => by rw [waiting_answered polls rfl] at waits; cases waits
          terminal := fun _ => .inl
          resolved := resolves
          receipt := .inl rfl }
    · exact
        { tells :=
            { observed := books.observed
              terminal := books.terminal
              released := books.released
              created := fun _ _ made => .inl made
              resolved
              lawful := ⟨⟨answers, trivial⟩, books.lawful⟩ }
          answered := nofun
          received := ready nofun rfl
          quiet := fun woken waits => by rw [waiting_answered polls rfl] at waits; cases waits
          terminal := fun _ => .inl
          resolved := resolves
          receipt := .inr (answer.handed item rfl) }
    · have reports : Resolved (.recv future) after.log ∨ Emptied after.log := by
        by_cases before : Resolved (.recv future) channel.log
        · exact .inl (unresolved.mpr before)
        · exact .inr (books.emptied (answer.pending rfl (unfinished.mpr ⟨before, rfl⟩)).1)
      exact
        { tells :=
            { observed := books.observed
              terminal := books.terminal
              released := books.released
              created := fun _ _ made => .inl made
              resolved
              lawful := ⟨⟨answers, reports⟩, books.lawful⟩ }
          answered := nofun
          received := by
            rintro other this ⟨⟩ found'
            have pending : Resolved (.recv future) (.returned channel.log.length
                (.pollRecv future waker) (.recv .pending) :: after.log) ↔
                Resolved (.recv future) after.log :=
              ⟨fun isOver => (resolved_poll polls isOver).resolve_right fun ended =>
                absurd ended.2 nofun, .inr⟩
            rw [isOver this found', unfinished, pending, unresolved]
            simp
          quiet := fun woken waits running => by
            obtain rfl := guarantee.polledWith polls (waiting_ends (.returned ..) waits)
            have pending := answer.pending rfl running
            exact ⟨fun _ => pending.1, nofun, pending.2⟩
          terminal := fun _ => .inl
          resolved := resolves
          receipt := .inl rfl }
  · rintro _ after ⟨inv', guarantee, unfinished⟩
    refine ⟨inv', guarantee, inv'.concludesUnwound polls nofun ?_⟩
    rintro other this ⟨⟩ found'
    have unresolved : Resolved (.recv future) after.log ↔ Resolved (.recv future) channel.log :=
      guarantee.unresolved
    have unfinished : after.state.Unfinished (.recv future) ↔ ¬ old.done = true :=
      unfinished.trans running
    rw [unresolved, ← received]
    refine ⟨fun done => by_contra fun undone => ?_, fun done => by_contra fun undone => ?_⟩
    · obtain ⟨_, found'', running'⟩ := unfinished.mpr undone
      obtain rfl := Option.some.inj (found'.symm.trans found'')
      exact absurd (done.symm.trans running') nofun
    · exact unfinished.mp ⟨this, found', Bool.eq_false_iff.mpr undone⟩ done

include setting in
/-- Polling a send future keeps the invariant. -/
theorem pollSend_keeps (aborts : ∀ channel, contract.abort channel) (inv : Inv manners channel)
    (legal : channel.state.SendOwned future) :
    (perform (.pollSend future waker)).leaves contract (Kept manners channel) channel := by
  obtain ⟨alive, free⟩ := legal
  obtain ⟨old, found⟩ := Option.isSome_iff_exists.mp alive
  have futures := inv.core.futures
  have polls : (.pollSend future waker : Op α).polls = some (.send future, waker) := rfl
  -- What has been answered is no longer stored.
  have answered : Resolved (.send future) channel.log → old.done = true ∧ old.outcome = none := by
    intro isOver
    have done : old.done = true := by
      refine eq_true_of_ne_false fun running => ?_
      exact (futures.unsent future old found running).2.2.1 (futures.resolved future isOver)
    exact ⟨done, (futures.answered future old found free done).mpr isOver⟩
  refine poll_keeps polls inv free nofun alive (inv.core.handles.send future old found).2 rfl
    fun begun => ?_
  refine Prog.wp_mono (pollSend_spec setting aborts begun List.mem_cons_self waker) ?_ ?_
  · rintro polled after ⟨inv', guarantee, answer⟩
    refine ⟨inv', guarantee, ?_⟩
    have books := inv'.core.books
    have suffix : channel.log <:+ after.log := (List.suffix_cons ..).trans guarantee.evolves.log
    have unresolved : Resolved (.send future) after.log ↔ Resolved (.send future) channel.log :=
      guarantee.unresolved
    have answers : Answers (.pollSend future waker) (.send polled)
        (past channel.log.length after.log) := by
      rw [past_suffix suffix]
      refine ⟨fun shut uncommitted item made => ?_, fun committed unanswered => ?_⟩
      · have running : old.done = false := eq_false_of_ne_true fun done =>
          uncommitted (futures.sent future old found done).2
        obtain ⟨unsent, held, rfl⟩ :=
          answer.rejected (inv.core.books.shut.mp shut) old found running
        have held' := (futures.unsent future old found running).2.2.2 item made
        obtain rfl := Option.some.inj (held.symm.trans held')
        rfl
      · rcases polled with outcome | _
        · rfl
        · have done : old.done = true := eq_true_of_ne_false fun running =>
            (futures.unsent future old found running).2.2.1 committed
          exact absurd ((futures.answered future old found free done).mp
            (answer.replayed rfl old found)) unanswered
    have resolves : ∀ other, Resolved other (.returned channel.log.length
        (.pollSend future waker) (.send polled) :: after.log) → Resolved other after.log ∨
        other = .send future := fun other isOver => (resolved_poll polls isOver).imp_right And.left
    rcases polled with outcome | _
    · obtain ⟨told, stored⟩ := answer.told outcome rfl
      have fresh : ¬ Resolved (.send future) after.log := fun isOver => by
        obtain ⟨done, none⟩ := answered (unresolved.mp isOver)
        exact stored old found done none
      exact
        { tells :=
            { observed := books.observed
              terminal := books.terminal
              released := books.released
              created := fun _ _ made => .inl made
              resolved := by
                intro other isOver
                refine (resolves other isOver).imp_right ?_
                rintro rfl
                refine ⟨guarantee.evolves.uses ▸ List.mem_cons_self, ?_⟩
                rintro _ ⟨⟩
                exact told.committed
              lawful := ⟨⟨answers, told.committed, fresh, told.accounts⟩, books.lawful⟩ }
          answered := by
            rintro other this ⟨⟩ found' -
            exact iff_of_true (told.given this found').2 (.inl ⟨⟨waker, polls⟩, rfl⟩)
          received := nofun
          quiet := fun woken waits => by rw [waiting_answered polls rfl] at waits; cases waits
          terminal := fun _ => .inl
          resolved := resolves
          receipt := .inl rfl }
    · have pending : ∀ other, Resolved other (.returned channel.log.length
          (.pollSend future waker) (.send .pending) :: after.log) → Resolved other after.log :=
        fun other isOver => (resolved_poll polls isOver).resolve_right fun ended =>
          absurd ended.2 nofun
      exact
        { tells :=
            { observed := books.observed
              terminal := books.terminal
              released := books.released
              created := fun _ _ made => .inl made
              resolved := fun other isOver => .inl (pending other isOver)
              lawful := ⟨⟨answers, trivial⟩, books.lawful⟩ }
          answered := by
            rintro other this ⟨⟩ found' done
            obtain ⟨none, before, found'', done', none'⟩ := answer.still rfl this found' done
            obtain rfl := Option.some.inj (found.symm.trans found'')
            exact iff_of_true none
              (.inr (unresolved.mpr ((futures.answered future old found free done').mp none')))
          received := nofun
          quiet := fun woken waits running => by
            obtain rfl := guarantee.polledWith polls (waiting_ends (.returned ..) waits)
            have full := answer.pending rfl running
            exact ⟨nofun, fun _ => full.1, full.2⟩
          terminal := fun _ => .inl
          resolved := resolves
          receipt := .inl rfl }
  · rintro _ after ⟨inv', guarantee, left⟩
    refine ⟨inv', guarantee, inv'.concludesUnwound polls ?_ nofun⟩
    rintro other this ⟨⟩ found' done
    obtain ⟨stored, before, found'', running⟩ := left this found' done
    obtain rfl := Option.some.inj (found.symm.trans found'')
    refine iff_of_false stored fun isOver => ?_
    have unresolved : Resolved (.send future) after.log ↔ Resolved (.send future) channel.log :=
      guarantee.unresolved
    exact absurd ((answered (unresolved.mp isOver)).1.symm.trans running) nofun

end Polls

/-! ### Every operation -/

/-- The panics that a policy admits in the callbacks of an operation. -/
def Admits (policy : Policy (Channel α) (Callback α) Panic (Op α)) (op : Op α) :
    Callback α → Panic → Channel α → Prop :=
  fun code payload after => policy.resume after op code (.error payload)

/-- All operations may abort the process but the drop of a receiver with a single kind of
panic. An operation uses up the budget of a loop only where as many items have been accepted. -/
def exits (manners : Manners) (policy : Policy (Channel α) (Callback α) Panic (Op α)) :
    Exits (Channel α) (Op α) where
  abort op _ := ∀ receiver, op = .dropReceiver receiver → ¬ manners.calmDrop receiver
  hang _ channel := policy.patience ≤ (accepted channel.log).length

/-- A policy under which user code keeps its manners. -/
structure Polite (manners : Manners) (policy : Policy (Channel α) (Callback α) Panic (Op α)) :
    Prop where
  calm : manners.calm → ∀ op, Calm (Admits policy op)
  quiet : manners.quiet → ∀ op waker payload after,
    ¬ Admits policy op (.wake .senders waker) payload after
  single : ∀ receiver, manners.calmDrop receiver →
    SinglePanic Freed (Admits policy (.dropReceiver receiver))

section Run

variable {policy : Policy (Channel α) (Callback α) Panic (Op α)} {op : Op α}

/-- What an operation and user code promise each other under a policy. -/
abbrev Terms (manners : Manners) (policy : Policy (Channel α) (Callback α) Panic (Op α))
    (op : Op α) : Prog.Contract (Channel α) (Callback α) Panic :=
  System.contract policy (exits manners policy) (Inv manners) (Guarantee manners none none) op

/-- Under a policy user code keeps to what the operations rely on. -/
theorem Polite.setting (polite : Polite manners policy)
    (aborts : Calm (Admits policy op) ∨ ∀ channel, (Terms manners policy op).abort channel) :
    Setting manners (Terms manners policy op) (Admits policy op) where
  relies :=
    { enter := fun _ _ inv => inv
      resume := fun _ _ _ _ left => left.2
      panics := fun _ _ _ _ left => left.1 }
  calm calm := polite.calm calm op
  quiet quiet := by
    rintro ⟨_, payload, world, ⟨waker, rfl⟩, admitted⟩
    exact polite.quiet quiet op waker payload world admitted
  aborts := aborts
  hangs _ granted _ enough := Nat.le_trans granted enough

/-- Every operation that user code may start keeps the invariant and the guarantee. -/
theorem perform_keeps (polite : Polite manners policy) (legal : channel.state.Legal op)
    (inv : Inv manners channel) :
    System.Keeps policy (exits manners policy) (Inv manners)
      (Guarantee manners none none) op channel
      (perform op) channel := by
  show (perform op).leaves (Terms manners policy op) (Kept manners channel) channel
  have aborts : (∀ receiver, op ≠ .dropReceiver receiver) →
      ∀ channel, (Terms manners policy op).abort channel :=
    fun other _ receiver same => absurd same (other receiver)
  have setting : (∀ receiver, op ≠ .dropReceiver receiver) →
      Setting manners (Terms manners policy op) (Admits policy op) :=
    fun other => polite.setting (.inr (aborts other))
  cases op with
  | trySend sender item => exact trySend_keeps (setting nofun) inv legal
  | cloneSender sender => exact cloneSender_keeps inv legal
  | dropSender sender => exact dropSender_keeps (setting nofun) (aborts nofun) inv legal
  | closeSender sender => exact closeSender_keeps (setting nofun) inv legal
  | send sender item => exact send_keeps inv legal
  | pollSend future waker => exact pollSend_keeps (setting nofun) (aborts nofun) inv legal
  | sendIsTerminated future => exact sendIsTerminated_keeps inv legal
  | dropSend future => exact dropSend_keeps (setting nofun) (aborts nofun) inv legal
  | tryRecv receiver => exact tryRecv_keeps (setting nofun) inv legal
  | tryIterNext receiver => exact tryIterNext_keeps (setting nofun) inv legal
  | pollNext receiver waker => exact pollNext_keeps (setting nofun) inv legal
  | cloneReceiver receiver => exact cloneReceiver_keeps inv legal
  | dropReceiver receiver =>
      by_cases calm : manners.calmDrop receiver
      · have single := polite.single receiver calm
        exact dropReceiver_keeps (polite.setting (.inl single.calm)) (.inl single)
          (fun _ => single.calm) inv legal
      · have aborts : ∀ channel, (Terms manners policy (.dropReceiver receiver)).abort channel := by
          rintro _ _ ⟨⟩
          exact calm
        exact dropReceiver_keeps (polite.setting (.inr aborts)) (.inr aborts)
          (fun calm' => absurd calm' calm) inv legal
  | closeReceiver receiver => exact closeReceiver_keeps (setting nofun) inv legal
  | streamIsTerminated receiver => exact streamIsTerminated_keeps inv legal
  | recv receiver => exact recv_keeps inv legal
  | pollRecv future waker => exact pollRecv_keeps (setting nofun) inv legal
  | dropRecv future => exact dropRecv_keeps (setting nofun) inv legal
  | _ => exact observes_keeps trivial legal inv

/-- A new channel satisfies the invariant. -/
theorem Inv.initial {flavor : Flavor α} (empty : flavor.toList = []) :
    Inv manners (Mpmc.start flavor) := by
  have contents : (Mpmc.start flavor).state.chan.contents = [] := by
    simpa [Mpmc.start, Chan.new, Chan.contents] using empty
  refine ⟨⟨rfl, ?_, ?_, ?_, ?_⟩, ⟨by rintro ⟨⟩, fun _ _ _ _ _ _ _ _ => contents⟩, ?_⟩
  · exact
      { fifo := by rw [contents]; rfl
        undrained := fun _ => rfl
        shut := iff_of_false id (by rintro ⟨⟩)
        last := by rintro _ ⟨⟩
        sole := by rintro _ _ ⟨⟩
        released := by rintro ⟨⟩
        observed := by rintro ⟨⟩
        terminal := by rintro _ ⟨⟩
        lawful := trivial
        quiet := fun _ => id
        prompt := by rintro _ _ ⟨⟩ }
  · exact
      { senders := rfl
        receivers := rfl
        nodup := List.nodup_singleton 1
        below := by simp [Mpmc.start]
        send := by rintro _ _ ⟨⟩
        recv := by rintro _ _ ⟨⟩
        stream := by rintro _ _ ⟨⟩
        uses := by rintro _ ⟨⟩
        strong := Nat.le_refl 2
        settled := by rintro _ ⟨⟩
        waiting := by rintro _ _ ⟨⟩ }
  · exact
      { unsent := by rintro _ _ ⟨⟩
        sent := by rintro _ _ ⟨⟩
        outcome := by rintro _ _ _ ⟨⟩
        pushed := by rintro _ ⟨⟩
        resolved := by rintro _ ⟨⟩
        answered := by rintro _ _ ⟨⟩
        polled := by rintro _ _ ⟨⟩
        received := by rintro _ _ ⟨⟩
        created := by rintro _ _ ⟨⟩
        committed := by rintro _ ⟨⟩
        completed := by rintro _ ⟨⟩ }
  · refine ⟨fun side => by cases side <;> rfl, fun _ side => ?_⟩
    have empty : ledger (Mpmc.start flavor) side = ⟨[], fun owner => none, 0⟩ := by
      cases side
      · simp only [ledger, State.wakers, Mpmc.start, Chan.new, registrations]
        congr
        funext owner
        cases owner <;> rfl
      · simp only [ledger, State.wakers, Mpmc.start, Chan.new, registrations]
        congr
        funext owner
        cases owner <;> rfl
    exact empty ▸ .initial _ fun _ => rfl
  · intro _ owner waker _ _ waits
    exact absurd waits (by rintro ⟨⟩)

/-- A channel that was just created satisfies the invariant. -/
theorem New.inv {fresh : Channel α} (new : New fresh) : Inv manners fresh := by
  cases new with
  | bounded cap positive => exact .initial (Flavor.mkBounded_toList positive)
  | unbounded => exact .initial Flavor.mkUnbounded_toList

/-- The configurations of the runs of a channel under a policy. -/
abbrev Runs (policy : Policy (Channel α) (Callback α) Panic (Op α)) (fresh : Channel α) :
    Config (Channel α) (Callback α) Panic (Op α) → Prop :=
  System.Reachable (system α) policy fresh

/-- Every configuration of every run is sound. -/
theorem Runs.sound (polite : Polite manners policy) {fresh : Channel α} (new : New fresh)
    {config : Config (Channel α) (Callback α) Panic (Op α)} (runs : Runs policy fresh config) :
    System.ConfigSound policy (exits manners policy) (Inv manners) (Guarantee manners none none)
      fresh config := by
  have keeps : ∀ op channel, (system α).legal channel op → policy.call channel op →
      Inv manners channel → System.Keeps policy (exits manners policy) (Inv manners)
        (Guarantee manners none none) op channel ((system α).prog op) channel :=
    fun op channel legal _ inv => perform_keeps polite legal inv
  exact System.Reachable.sound Guarantee.refl (fun _ _ _ => Guarantee.trans) keeps new.inv runs

/-- User code that keeps no manners at all. -/
def Manners.none : Manners := ⟨False, False, fun _ => False⟩

/-- User code that panics, if at all, with payloads that can be disposed of. -/
def Manners.calmly : Manners := ⟨True, False, fun _ => False⟩

/-- Nothing is asked of user code. -/
theorem Polite.none : Polite .none policy := ⟨False.elim, False.elim, fun _ => False.elim⟩

/-- Only payloads that can be disposed of are asked for. -/
theorem Polite.calmly (calm : ∀ op, Calm (Admits policy op)) : Polite .calmly policy :=
  ⟨fun _ => calm, False.elim, fun _ => False.elim⟩

/-- Whenever user code is in control of a run, the invariant holds. -/
theorem Runs.inv (polite : Polite manners policy) {fresh channel : Channel α} (new : New fresh)
    {frames} (runs : Runs policy fresh (.user channel frames)) : Inv manners channel :=
  (runs.sound polite new).1

/-- Between operations nothing has happened since the start but what operations do. -/
theorem Runs.quiescent (polite : Polite manners policy) {fresh channel : Channel α}
    (new : New fresh) (runs : Runs policy fresh (.user channel [])) :
    Guarantee manners .none .none fresh channel :=
  (runs.sound polite new).quiescent

end Run

end Lochan.Mpmc
