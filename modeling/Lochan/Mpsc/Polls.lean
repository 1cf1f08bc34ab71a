import Lochan.Mpsc.Performs

/-!
# The operations on an mpsc channel that receive or poll a task
-/

namespace Lochan.Mpsc

open Reentrant

variable {α β : Type} {manners : Manners} {own : Option Owner} {base channel after : Channel α}

/-! ### The operations that use the receiver -/

/-- A poll of the receiver that returned decides whether a wake is expected. -/
theorem expecting_returned {op : Op α} {polled : Owner × Waker}
    (polls : pollsReceiver op = some polled) {start : Nat} {result : Result α} {log : Log α} :
    expecting (.returned start op result :: log) =
      if result.isPending then some polled else none := by
  simp only [expecting, polls]

/-- What was observed stays observed when an operation returns. -/
theorem observed_returned {op : Op α} {start : Nat} {result : Result α} {log : Log α}
    (observed : Observed log) : Observed (.returned start op result :: log) := by
  unfold Observed
  split
  · trivial
  · trivial
  · trivial
  · rename_i same
    cases same
    exact observed
  · rename_i same
    cases same

/-- The operation receives through the task of the receiver. -/
inductive Receiving : Op α → Owner → Prop where
  | tryRecv (receiver : Nat) : Receiving (.tryRecv receiver) (.stream receiver)
  | tryIterNext (receiver : Nat) : Receiving (.tryIterNext receiver) (.stream receiver)
  | pollNext (receiver : Nat) (waker : Waker) :
    Receiving (.pollNext receiver waker) (.stream receiver)
  | pollRecv (future : Nat) (waker : Waker) : Receiving (.pollRecv future waker) (.recv future)

section Receiving

variable {op : Op α} {owner : Owner} {result : Result α} {start : Nat} {log : Log α}

/-- What receives is on the side of the receivers. -/
theorem Receiving.side (receiving : Receiving op owner) : owner.side = .receivers := by
  cases receiving <;> rfl

/-- What receives holds its receiver exclusively. -/
theorem Receiving.exclusive (receiving : Receiving op owner) : exclusive owner.ref := by
  cases receiving <;> trivial

/-- What receives is no send future. -/
theorem Receiving.not_send (receiving : Receiving op owner) (future : Nat) :
    owner ≠ .send future := by
  rintro rfl
  cases receiving

/-- What receives holds no send future. -/
theorem Receiving.ref_ne (receiving : Receiving op owner) (future : Nat) :
    .send future ≠ owner.ref :=
  fun same => receiving.not_send future (Owner.ref_injective same.symm)

/-- Only a poll that returned `Pending` leaves something new to expect. -/
theorem Receiving.expects (receiving : Receiving op owner) {polled : Owner × Waker}
    (expects : expecting (.returned start op result :: log) = some polled) :
    expecting log = some polled ∨
      result.isPending = true ∧ pollsReceiver op = some (owner, polled.2) ∧ polled.1 = owner := by
  cases receiving with
  | tryRecv receiver => exact .inl expects
  | tryIterNext receiver => exact .inl expects
  | pollNext receiver waker =>
      by_cases pending : result.isPending = true
      · rw [expecting_returned rfl, if_pos pending] at expects
        cases expects
        exact .inr ⟨pending, rfl, rfl⟩
      · rw [expecting_returned rfl, if_neg pending] at expects
        cases expects
  | pollRecv future waker =>
      by_cases pending : result.isPending = true
      · rw [expecting_returned rfl, if_pos pending] at expects
        cases expects
        exact .inr ⟨pending, rfl, rfl⟩
      · rw [expecting_returned rfl, if_neg pending] at expects
        cases expects

/-- The return of an operation resolves no task but the one it polls. -/
theorem Receiving.resolves (receiving : Receiving op owner) {other : Owner}
    (resolved : Resolved other (.returned start op result :: log)) :
    Resolved other log ∨ other = owner := by
  rcases resolved with ⟨⟨waker, polls⟩, -⟩ | before
  · right
    cases receiving with
    | tryRecv receiver => cases polls
    | tryIterNext receiver => cases polls
    | pollNext receiver woken =>
        cases polls
        rfl
    | pollRecv future woken =>
        cases polls
        rfl
  · exact .inl before

/-- Only the end of a stream makes it terminal. -/
theorem Receiving.terminal (receiving : Receiving op owner)
    (before : ∀ receiver, Terminal receiver log → Observed log) (receiver : Nat)
    (terminal : Terminal receiver (.returned start op result :: log)) :
    Observed (.returned start op result :: log) := by
  cases receiving with
  | tryRecv other => exact observed_returned (before receiver terminal)
  | tryIterNext other => exact observed_returned (before receiver terminal)
  | pollRecv future waker => exact observed_returned (before receiver terminal)
  | pollNext other waker =>
      cases result with
      | recv polled =>
          rcases polled with (_ | item) | _
          · trivial
          · exact observed_returned (before receiver terminal)
          · exact observed_returned (before receiver terminal)
      | _ => exact observed_returned (before receiver terminal)

/-- A receive that returns releases nothing. -/
theorem Receiving.released (receiving : Receiving op owner)
    (released : Released (.returned start op result :: log)) : Released log := by
  cases receiving <;> exact released

/-- A receive that returns creates no send future. -/
theorem Receiving.created (receiving : Receiving op owner) {future : Nat} {item : α}
    (created : Created future item (.returned start op result :: log)) :
    Created future item log := by
  cases receiving <;> exact created

/-- A receive that returns leaves no wake of a send unpaid. -/
theorem Receiving.notified (receiving : Receiving op owner) (notified : Notified log) :
    Notified (.returned start op result :: log) := by
  cases receiving <;> exact notified

/-- A receive that unwinds leaves no wake of a send unpaid. -/
theorem Receiving.notified_unwound (receiving : Receiving op owner) (notified : Notified log) :
    Notified (.unwound start op :: log) := by
  cases receiving <;> exact notified

/-- What receives drops no receiver. -/
theorem Receiving.dropless (receiving : Receiving op owner) (receiver : Nat) :
    op ≠ .dropReceiver receiver := by
  rintro rfl
  cases receiving

end Receiving

/-! ### The end of a receive -/

/-- What the end of a receive tells, and what the receiver hears from then on. -/
structure Concludes (manners : Manners) (owner : Owner) (base channel : Channel α)
    (event : Event (Op α) (Result α) α) : Prop where
  tells : Tells manners channel event
  receives : manners.quiet → Receives (Event.received? event) base channel
  hears : ∀ polled, expecting (event :: channel.log) = some polled →
    expecting channel.log = some polled ∨
      channel.state.chan.recvWaker = some polled.2 ∧ ¬ channel.state.chan.urgent
  resolves : ∀ other, Resolved other (event :: channel.log) →
    Resolved other channel.log ∨ other = owner

section Conclude

variable {op : Op α} {owner : Owner} {result : Result α}

/-- The return of a receive, by what it answers and reports. -/
theorem Inv.concludes (inv : Inv manners after) (receiving : Receiving op owner)
    (guarantee : Guarantee manners own (inUse (channel.logged (.began op)) owner.ref) after)
    (below : owner.index < channel.state.fresh)
    (receives : Receives (item? result) (inUse (channel.logged (.began op)) owner.ref) after)
    (observed : Observed (.returned channel.log.length op result :: after.log) →
      after.state.chan.disconnected = true ∧ after.state.chan.contents = [])
    (pending : result.isPending = true → ∀ waker, pollsReceiver op = some (owner, waker) →
      after.state.chan.recvWaker = some waker ∧ ¬ after.state.chan.urgent)
    (answers : Answers op result channel.log)
    (reports : Reports (SendOver manners) op result after.log) :
    Concludes manners owner (inUse (channel.logged (.began op)) owner.ref) after
      (.returned channel.log.length op result) := by
  have suffix : channel.log <:+ after.log := (List.suffix_cons ..).trans guarantee.evolves.log
  have used : owner.ref ∈ after.state.uses := guarantee.evolves.uses ▸ List.mem_cons_self
  have resolves : ∀ other, Resolved other (.returned channel.log.length op result :: after.log) →
      Resolved other after.log ∨ other = owner := fun _ => receiving.resolves
  refine ⟨?_, fun _ => receives, ?_, resolves⟩
  · exact
      { observed
        terminal := receiving.terminal inv.books.terminal
        released := fun isOver => inv.books.released (receiving.released isOver)
        created := fun _ _ made => .inl (receiving.created made)
        resolved := fun other isOver => by
          refine (resolves other isOver).imp_right ?_
          rintro rfl
          exact ⟨used, fun future same => absurd same (receiving.not_send future)⟩
        lawful := ⟨⟨(past_suffix suffix).symm ▸ answers, reports⟩, inv.books.lawful⟩
        received := fun _ free => absurd ⟨_, used, receiving.exclusive⟩ free
        notified := fun prompt => receiving.notified (inv.books.notified prompt)
        expects := fun other waker expects => by
          rcases receiving.expects expects with before | ⟨-, -, same⟩
          · exact inv.handles.expecting other waker before
          · obtain rfl : other = owner := same
            exact Nat.lt_of_lt_of_le below guarantee.evolves.fresh }
  · rintro ⟨other, waker⟩ expects
    refine (receiving.expects expects).imp_right ?_
    rintro ⟨waits, polls, -⟩
    exact pending waits waker polls

/-- The unwinding of a receive tells nothing. -/
theorem Inv.concludesUnwound (inv : Inv manners after) (receiving : Receiving op owner)
    (receives : manners.quiet → Receives none base after) {start : Nat} :
    Concludes manners owner base after (.unwound start op) where
  tells := inv.tells .unwound Iff.rfl (fun _ => id) (.of_unwound receiving.dropless)
    (fun _ _ => id) (fun _ => id) id receiving.notified_unwound
  receives := receives
  hears _ expects := .inl (expecting_unwound expects)
  resolves _ isOver := .inl isOver

/-- The end of an operation that polled the receiver. -/
theorem Guarantee.hears {event : Event (Op α) (Result α) α} (ends : event.Ends)
    (side : owner.side = .receivers) (free : owner.ref ∉ channel.state.uses)
    (hears : ∀ polled, expecting (event :: channel.log) = some polled →
      expecting channel.log = some polled ∨
        channel.state.chan.recvWaker = some polled.2 ∧ ¬ channel.state.chan.urgent)
    (resolves : ∀ other, Resolved other (event :: channel.log) →
      Resolved other channel.log ∨ other = owner) :
    Guarantee manners (some owner) channel (channel.logged event) := by
  have same : Guarantee manners (some owner) channel channel := .refl channel
  refine ⟨{ same.evolves with
      log := List.suffix_cons ..
      reserved := fun _ other => ?_
      resolved := fun other used isOver => ?_
      committed := fun future _ _ => ?_
      owed := fun future _ _ waker => ?_
      missing := fun _ other waker missing => ?_ },
    ⟨rfl, same.tally.emptied, fun _ rejecting _ member => ⟨rejecting, member⟩⟩,
    fun _ retained => { retained with }, fun _ other waker exposed => ?_⟩
  · cases side.symm.trans (other owner rfl)
  · refine (resolves other isOver).resolve_right ?_
    rintro rfl
    exact free used
  · cases ends <;> exact id
  · cases ends <;> exact id
  · rcases hears _ missing.expects with before | ⟨parked, -⟩
    · exact { missing with expects := before }
    · exact absurd parked missing.unparked
  · rcases hears _ exposed.expects with before | ⟨-, idle⟩
    · exact .inl { exposed with expects := before }
    · exact absurd exposed.urgent idle

/-- A receive on a receiver that nobody uses is a step like any other. -/
theorem Evolves.disownReceiver (evolves : Evolves manners (some owner) base channel)
    (side : owner.side = .receivers) (idle : ¬ base.state.InUse) :
    Evolves manners none base channel := by
  have other : ∀ future, some owner ≠ some (.send future) := by
    rintro future ⟨⟩
    cases side
  exact { evolves with
    sends := fun future used _ => evolves.sends future used (other future)
    recvs := fun future used _ => (idle ⟨_, used, trivial⟩).elim
    reserved := fun inUse _ => (idle inUse).elim
    committed := fun future used _ => evolves.committed future used (other future)
    owed := fun future used _ => evolves.owed future used (other future) }

/-- A receive that has ended. -/
theorem Concludes.kept {event : Event (Op α) (Result α) α} (ends : event.Ends)
    (receiving : Receiving op owner) (inv : Inv manners channel) (idle : ¬ channel.state.InUse)
    (inv' : Inv manners after)
    (guarantee : Guarantee manners (some owner)
      (inUse (channel.logged (.began op)) owner.ref) after)
    (concludes : Concludes manners owner
      (inUse (channel.logged (.began op)) owner.ref) after event) :
    Kept manners channel ((released after owner.ref).logged event) := by
  have free : owner.ref ∉ channel.state.uses := fun used => idle ⟨_, used, receiving.exclusive⟩
  have begins : Guarantee manners (some owner) channel (channel.logged (.began op)) :=
    .logged .began
  have reached := begins.trans guarantee.release
  have hears : Guarantee manners (some owner) (released after owner.ref)
      ((released after owner.ref).logged event) := by
    refine .hears ends receiving.side ?_ concludes.hears concludes.resolves
    rw [reached.evolves.uses]
    exact free
  have total := reached.trans hears
  refine ⟨?_, { total with evolves := total.evolves.disownReceiver receiving.side idle }⟩
  refine (inv'.ends ends concludes.tells).release (fun _ quiet => ?_) ?_ ?_ ?_
  · have receives := concludes.receives quiet
    have silent : Silent channel (.began op) := .began
    have before : Lochan.received (.began op :: channel.log) =
        delivered (.began op :: channel.log) :=
      silent.receives.trans ((inv.books.received quiet idle).trans silent.delivers.symm)
    have delivers : delivered (event :: after.log) = delivered after.log := by
      cases ends <;> simp [delivered, Event.took?]
    show Lochan.received (event :: after.log) = delivered (event :: after.log)
    rw [delivers, receives.delivered, Lochan.received, collect_cons]
    exact congrArg (· ++ _) (receives.received.trans before)
  · exact fun future _ same => absurd same (receiving.ref_ne future)
  · exact fun _ future same => absurd same (receiving.ref_ne future)
  · exact fun _ future same => absurd same (receiving.ref_ne future)

variable {contract : Prog.Contract (Channel α) (Callback α) Panic}

/-- An operation that receives, and how it concludes. -/
theorem receive_keeps (receiving : Receiving op owner) {act : M α β} {answer : β → Result α}
    (does : body op = do return answer (← holding owner.ref act))
    (inv : Inv manners channel) (idle : ¬ channel.state.InUse)
    (live : channel.state.RefLive owner.ref)
    (alone : ∀ receiver, owner.ref = .receiverMut receiver →
      ∀ future, channel.state.recvs future = none)
    (acts : Inv manners (inUse (channel.logged (.began op)) owner.ref) → act.wp contract
      (fun value after => Inv manners after ∧
        Guarantee manners (some owner) (inUse (channel.logged (.began op)) owner.ref) after ∧
        Concludes manners owner (inUse (channel.logged (.began op)) owner.ref) after
          (.returned channel.log.length op (answer value)))
      (fun _ after => Inv manners after ∧
        Guarantee manners (some owner) (inUse (channel.logged (.began op)) owner.ref) after ∧
        Concludes manners owner (inUse (channel.logged (.began op)) owner.ref) after
          (.unwound channel.log.length op))
      (inUse (channel.logged (.began op)) owner.ref)) :
    (perform op).leaves contract (Kept manners channel) channel := by
  rw [Prog.leaves, wp_perform, does]
  simp only [Prog.wp_bind, wp_holding]
  refine Prog.wp_mono (acts (inv.began.hold live alone)) ?_ ?_
  · rintro value after ⟨inv', guarantee, concludes⟩
    exact concludes.kept (.returned ..) receiving inv idle inv' guarantee
  · rintro _ after ⟨inv', guarantee, concludes⟩
    exact concludes.kept (.unwound ..) receiving inv idle inv' guarantee

end Conclude

/-! ### The operations that receive -/

section Receives

/-- A receiver that found the queue empty found all items handed out. -/
theorem Books.emptied (books : Books manners channel) (empty : channel.state.chan.contents = []) :
    Emptied channel.log := by
  rw [Emptied, books.fifo, empty, List.append_nil]

variable {contract : Prog.Contract (Channel α) (Callback α) Panic}
  {admits : Callback α → Panic → Channel α → Prop} (setting : RecvSetting manners contract admits)
  {receiver future : Nat} {waker : Waker}
include setting

/-- `try_recv` keeps what every operation keeps. -/
theorem tryRecv_keeps (inv : Inv manners channel) (legal : channel.state.ReceiverOwned receiver) :
    (perform (.tryRecv receiver)).leaves contract (Kept manners channel) channel := by
  have departing := legal.departing inv.handles
  have below := inv.handles.below receiver legal.1
  have receiving : Receiving (.tryRecv receiver : Op α) (.stream receiver) := .tryRecv receiver
  refine receive_keeps receiving rfl inv (departing.idle inv.handles) legal.1
    (fun _ _ => departing.unborrowed) fun begun => ?_
  refine Prog.wp_mono
    (tryRecv_spec setting receiving.side begun ⟨_, List.mem_cons_self, receiving.exclusive⟩) ?_ ?_
  · rintro result after ⟨inv', guarantee, answer⟩
    refine ⟨inv', guarantee, ?_⟩
    have ended : Observed channel.log → result = .error .disconnected := fun seen =>
      answer.ended (inv.books.observed seen).2 (inv.books.observed seen).1
    have answers : Answers (.tryRecv receiver) (.tryRecv result) channel.log :=
      fun seen => congrArg Result.tryRecv (ended seen)
    rcases result with (_ | _) | item
    · exact inv'.concludes receiving guarantee below answer.receives inv'.books.observed
        (by rintro ⟨⟩) answers (inv'.books.emptied (answer.none _ rfl))
    · exact inv'.concludes receiving guarantee below answer.receives
        (fun _ => ⟨answer.disconnected rfl, answer.none _ rfl⟩)
        (by rintro ⟨⟩) answers (inv'.books.emptied (answer.none _ rfl))
    · exact inv'.concludes receiving guarantee below answer.receives inv'.books.observed
        (by rintro ⟨⟩) answers trivial
  · rintro _ after ⟨inv', guarantee, noisy⟩
    exact ⟨inv', guarantee, inv'.concludesUnwound receiving fun quiet => absurd quiet noisy⟩

/-- The iterator that does not wait keeps what every operation keeps. -/
theorem tryIterNext_keeps (inv : Inv manners channel)
    (legal : channel.state.ReceiverOwned receiver) :
    (perform (.tryIterNext receiver)).leaves contract (Kept manners channel) channel := by
  have departing := legal.departing inv.handles
  have below := inv.handles.below receiver legal.1
  have receiving : Receiving (.tryIterNext receiver : Op α) (.stream receiver) :=
    .tryIterNext receiver
  refine receive_keeps receiving rfl inv (departing.idle inv.handles) legal.1
    (fun _ _ => departing.unborrowed) fun begun => ?_
  refine Prog.wp_mono
    (tryIterNext_spec setting receiving.side begun ⟨_, List.mem_cons_self, receiving.exclusive⟩)
    ?_ ?_
  · rintro item after ⟨inv', guarantee, receives, none⟩
    refine ⟨inv', guarantee, ?_⟩
    cases item with
    | none =>
        exact inv'.concludes receiving guarantee below receives inv'.books.observed
          (by rintro ⟨⟩) trivial (inv'.books.emptied (none rfl))
    | some item =>
        exact inv'.concludes receiving guarantee below receives inv'.books.observed
          (by rintro ⟨⟩) trivial trivial
  · rintro _ after ⟨inv', guarantee, noisy⟩
    exact ⟨inv', guarantee, inv'.concludesUnwound receiving fun quiet => absurd quiet noisy⟩

/-- A poll of the stream keeps what every operation keeps. -/
theorem pollNext_keeps (inv : Inv manners channel)
    (legal : channel.state.ReceiverOwned receiver) :
    (perform (.pollNext receiver waker)).leaves contract (Kept manners channel) channel := by
  have departing := legal.departing inv.handles
  have below := inv.handles.below receiver legal.1
  have receiving : Receiving (.pollNext receiver waker : Op α) (.stream receiver) :=
    .pollNext receiver waker
  refine receive_keeps receiving rfl inv (departing.idle inv.handles) legal.1
    (fun _ _ => departing.unborrowed) fun begun => ?_
  have inUse : (inUse (channel.logged (.began (.pollNext receiver waker)))
      (.receiverMut receiver)).state.InUse := ⟨_, List.mem_cons_self, receiving.exclusive⟩
  refine Prog.wp_mono (pollRecv_spec setting receiving.side begun inUse rfl waker) ?_ ?_
  · rintro polled after ⟨inv', guarantee, answer⟩
    refine ⟨inv', guarantee, ?_⟩
    have ended : Observed channel.log → polled = .ready none := fun seen =>
      answer.drained (inv.books.observed seen).2 (inv.books.observed seen).1
    have answers : Answers (.pollNext receiver waker) (.recv polled) channel.log :=
      fun seen => congrArg Result.recv (ended seen)
    rcases polled with (_ | item) | _
    · obtain ⟨empty, disconnected⟩ := answer.ended rfl
      exact inv'.concludes receiving guarantee below answer.receives
        (fun _ => ⟨disconnected, empty⟩) (by rintro ⟨⟩) answers (inv'.books.emptied empty)
    · exact inv'.concludes receiving guarantee below answer.receives inv'.books.observed
        (by rintro ⟨⟩) answers trivial
    · obtain ⟨parked, idle⟩ := answer.pending rfl
      have empty : after.state.chan.contents = [] := not_not.mp fun some => idle (.inl some)
      refine inv'.concludes receiving guarantee below answer.receives inv'.books.observed ?_
        answers (inv'.books.emptied empty)
      rintro - _ ⟨⟩
      exact ⟨parked, idle⟩
  · rintro _ after ⟨inv', guarantee, receives⟩
    exact ⟨inv', guarantee, inv'.concludesUnwound receiving receives⟩

end Receives

/-! ### The receive future -/

/-- The channel after a receive future has completed. -/
abbrev completed (channel : Channel α) (future : Nat) : Channel α :=
  channel.onState (·.updateRecv future fun this => { this with done := true })

section Complete

variable {future : Nat}

/-- A receive future after the completion of one was there before. -/
theorem completed_found {key : Nat} {this : Recv}
    (found : (completed channel future).state.recvs key = some this) :
    ∃ old, channel.state.recvs key = some old ∧ this.receiver = old.receiver := by
  by_cases same : key = future
  · subst same
    simp only [World.onState_state, State.updateRecv, Function.update_self,
      Option.map_eq_some_iff] at found
    obtain ⟨old, found, rfl⟩ := found
    exact ⟨old, found, rfl⟩
  · simp only [World.onState_state, State.updateRecv, Function.update_of_ne same] at found
    exact ⟨this, found, rfl⟩

/-- Completing a receive future makes none appear or vanish. -/
theorem completed_isSome (key : Nat) :
    ((completed channel future).state.recvs key).isSome = (channel.state.recvs key).isSome := by
  by_cases same : key = future
  · subst same
    simp [State.updateRecv]
  · simp [State.updateRecv, same]

/-- Completing a receive future does not change who awaits. -/
theorem completed_awaits (owner : Owner) :
    (completed channel future).state.Awaits owner ↔ channel.state.Awaits owner := by
  cases owner with
  | recv key =>
      show ((completed channel future).state.recvs key).isSome = true ↔ _
      rw [completed_isSome]
      exact Iff.rfl
  | _ => exact Iff.rfl

/-- Completing a receive future keeps the invariant. -/
theorem Inv.complete (inv : Inv manners channel) : Inv manners (completed channel future) := by
  obtain ⟨held, books, handles, futures, registry⟩ := inv
  refine ⟨held, { books with }, ?_, { futures with }, { registry with }⟩
  exact { handles with
    recv := fun key this found => by
      obtain ⟨old, found, same⟩ := completed_found found
      rw [same]
      exact handles.recv key old found
    single := fun first second found found' => by
      rw [completed_isSome] at found found'
      exact handles.single first second found found'
    unborrowed := fun receiver used key => by
      have none := handles.unborrowed receiver used key
      rwa [← Option.not_isSome_iff_eq_none, completed_isSome, Option.not_isSome_iff_eq_none]
    uses := fun ref used => by
      have live := handles.uses ref used
      cases ref with
      | recv key => exact (completed_isSome key).trans live
      | _ => exact live }

/-- Completing a receive future is a step of its own poll. -/
theorem Guarantee.complete :
    Guarantee manners (some (.recv future)) channel (completed channel future) := by
  have same : Guarantee manners (some (.recv future)) channel channel := .refl channel
  refine ⟨{ same.evolves with
      recvs := fun key _ other => ?_
      reserved := fun _ senders => ?_
      missing := fun _ owner waker missing => ?_ },
    ⟨rfl, same.tally.emptied, fun _ rejecting _ member => ⟨rejecting, member⟩⟩,
    fun _ retained => { retained with }, fun _ owner waker exposed => .inl ?_⟩
  · have different : key ≠ future := fun same => other (same ▸ rfl)
    simp [State.updateRecv, different]
  · cases senders _ rfl
  · exact { missing with awaits := (completed_awaits owner).mp missing.awaits }
  · exact { exposed with awaits := (completed_awaits owner).mp exposed.awaits }

variable {contract : Prog.Contract (Channel α) (Callback α) Panic}
  {admits : Callback α → Panic → Channel α → Prop} (setting : RecvSetting manners contract admits)
include setting

/-- A poll of a receive future keeps the invariant, and reports what it received. -/
theorem pollRecvFuture_spec (inv : Inv manners channel) (used : .recv future ∈ channel.state.uses)
    (idle : expecting channel.log = none) (waker : Waker) :
    (RecvFuture.poll future waker).wp contract
      (fun polled after => Inv manners after ∧
        Guarantee manners (some (.recv future)) channel after ∧
          RecvAnswer waker channel after polled)
      (fun _ after => Inv manners after ∧
        Guarantee manners (some (.recv future)) channel after ∧
        (manners.quiet → Receives none channel after)) channel := by
  obtain ⟨this, found⟩ := Option.isSome_iff_exists.mp (inv.handles.uses _ used)
  have inUse : channel.state.InUse := ⟨_, used, trivial⟩
  simp only [RecvFuture.poll, Prog.wp_bind, wp_getState, found]
  have side : (Owner.recv future).side = .receivers := rfl
  refine Prog.wp_mono (pollRecv_spec setting side inv inUse idle waker) ?_
    fun _ _ unwound => unwound
  rintro polled after ⟨inv', guarantee, answer⟩
  cases polled with
  | ready item =>
      exact ⟨inv'.complete, guarantee.trans .complete,
        { answer with receives := { answer.receives with } }⟩
  | pending => exact ⟨inv', guarantee, answer⟩

/-- A poll of a receive future keeps what every operation keeps. -/
theorem pollRecv_keeps {waker : Waker} (inv : Inv manners channel)
    (legal : channel.state.RecvOwned future) :
    (perform (.pollRecv future waker)).leaves contract (Kept manners channel) channel := by
  obtain ⟨this, found⟩ := Option.isSome_iff_exists.mp legal.1
  have below := (inv.handles.recv future this found).2
  have receiving : Receiving (.pollRecv future waker : Op α) (.recv future) :=
    .pollRecv future waker
  refine receive_keeps receiving rfl inv (inv.handles.idle legal) legal.1 (by rintro _ ⟨⟩)
    fun begun => ?_
  refine Prog.wp_mono (pollRecvFuture_spec setting begun List.mem_cons_self rfl waker) ?_ ?_
  · rintro polled after ⟨inv', guarantee, answer⟩
    refine ⟨inv', guarantee, ?_⟩
    have ended : Observed channel.log → polled = .ready none := fun seen =>
      answer.drained (inv.books.observed seen).2 (inv.books.observed seen).1
    have answers : Answers (.pollRecv future waker) (.recv polled) channel.log :=
      fun seen _ => congrArg Result.recv (ended seen)
    rcases polled with (_ | item) | _
    · obtain ⟨empty, disconnected⟩ := answer.ended rfl
      exact inv'.concludes receiving guarantee below answer.receives
        (fun _ => ⟨disconnected, empty⟩) (by rintro ⟨⟩) answers (inv'.books.emptied empty)
    · exact inv'.concludes receiving guarantee below answer.receives inv'.books.observed
        (by rintro ⟨⟩) answers trivial
    · obtain ⟨parked, idle⟩ := answer.pending rfl
      have empty : after.state.chan.contents = [] := not_not.mp fun some => idle (.inl some)
      refine inv'.concludes receiving guarantee below answer.receives inv'.books.observed ?_
        answers (.inr (inv'.books.emptied empty))
      rintro - _ ⟨⟩
      exact ⟨parked, idle⟩
  · rintro _ after ⟨inv', guarantee, receives⟩
    exact ⟨inv', guarantee, inv'.concludesUnwound receiving receives⟩

end Complete

/-! ### The send future -/

section Send

variable {future : Nat} {waker : Waker} {event : Event (Op α) (Result α) α}

/-- What the end of a poll of a send future tells, and how it leaves the future. -/
structure Settles (manners : Manners) (future : Nat) (channel : Channel α)
    (event : Event (Op α) (Result α) α) : Prop where
  tells : Tells manners channel event
  silent : .send future ∉ (released channel (.send future)).state.uses →
    Silent (released channel (.send future)) event
  answered : ∀ this, channel.state.sends future = some this → this.done = true →
    (this.outcome = none ↔ Resolved (.send future) (event :: channel.log))
  faithful : manners.faithful → Committed future (event :: channel.log) →
    Resolved (.send future) (event :: channel.log)
  notified : manners.prompt → owed future (event :: channel.log) = none

/-- A poll of a send future that ends as told keeps what every operation keeps. -/
theorem Settles.kept (ends : event.Ends) (free : .send future ∉ channel.state.uses)
    (inv' : Inv manners after)
    (guarantee : Guarantee manners (some (.send future))
      (inUse (channel.logged (.began (.pollSend future waker))) (.send future)) after)
    (settles : Settles manners future after event) :
    Kept manners channel ((released after (.send future)).logged event) := by
  have begins : Guarantee manners (some (.send future)) channel
      (channel.logged (.began (.pollSend future waker))) := .logged .began
  have reached := begins.trans guarantee.release
  have released : .send future ∉ (released after (.send future)).state.uses := by
    rw [reached.evolves.uses]
    exact free
  have total := reached.trans (.logged (settles.silent released))
  refine ⟨?_, { total with evolves := total.evolves.disown free }⟩
  refine (inv'.ends ends settles.tells).release False.elim ?_ ?_ ?_
  · rintro _ this ⟨⟩
    exact settles.answered this
  · rintro faithful _ ⟨⟩
    exact settles.faithful faithful
  · rintro prompt _ ⟨⟩
    exact settles.notified prompt

/-- A poll of the send future is over. -/
inductive PollEnds (future : Nat) : Event (Op α) (Result α) α → Prop where
  | returned (start : Nat) (waker : Waker) (polled : Poll (Except (SendError α) Unit)) :
    PollEnds future (.returned start (.pollSend future waker) (.send polled))
  | unwound (start : Nat) (waker : Waker) : PollEnds future
    (.unwound start (.pollSend future waker))

/-- The end of a poll tells what it has to, if its future owes no wake. -/
theorem Inv.settles (inv : Inv manners channel) (ends : PollEnds future event)
    (paid : manners.prompt → owed future channel.log = none)
    (resolved : ∀ owner, Resolved owner (event :: channel.log) → Resolved owner channel.log ∨
      owner.ref ∈ channel.state.uses ∧ ∀ future, owner = .send future →
        Committed future channel.log)
    (lawful : Lawful (SendOver manners) (event :: channel.log)) : Tells manners channel event := by
  have books := inv.books
  have expects := inv.handles.expecting
  cases ends with
  | returned start waker polled =>
      exact
        { observed := books.observed
          terminal := books.terminal
          released := books.released
          created := fun _ _ made => .inl made
          resolved
          lawful
          received := books.received
          notified := fun prompt => ⟨paid prompt, books.notified prompt⟩
          expects }
  | unwound start waker =>
      exact
        { observed := books.observed
          terminal := books.terminal
          released := books.released
          created := fun _ _ made => .inl made
          resolved
          lawful
          received := books.received
          notified := fun prompt => ⟨paid prompt, books.notified prompt⟩
          expects }

/-- The return of a poll resolves no task but the one it polls. -/
theorem resolved_pollSend {result : Result α} {other : Owner} {start : Nat} {log : Log α}
    (resolved : Resolved other (.returned start (.pollSend future waker) result :: log)) :
    Resolved other log ∨ other = .send future ∧ result.isPending = false := by
  rcases resolved with ⟨⟨woken, polls⟩, ready⟩ | before
  · cases polls
    exact .inr ⟨rfl, ready⟩
  · exact .inl before

/-- A poll of a send future that returns no item is silent, once nobody uses the future. -/
theorem Silent.pollSend {result : Result α} {start : Nat} (nothing : item? result = none)
    (free : .send future ∉ channel.state.uses) :
    Silent channel (.returned start (.pollSend future waker) result) := by
  refine .returned rfl nothing fun other used resolved => ?_
  refine (resolved_pollSend resolved).resolve_right ?_
  rintro ⟨rfl, -⟩
  exact free used

/-- A poll in progress resolves nothing before it returns. -/
theorem Guarantee.unresolved {op : Op α} {owner : Owner}
    (guarantee : Guarantee manners own (inUse (channel.logged (.began op)) owner.ref) after) :
    Resolved owner after.log ↔ Resolved owner channel.log := by
  have suffix : channel.log <:+ after.log := (List.suffix_cons ..).trans guarantee.evolves.log
  exact ⟨guarantee.evolves.resolved owner List.mem_cons_self, (·.later suffix)⟩

variable {contract : Prog.Contract (Channel α) (Callback α) Panic}
  {admits : Callback α → Panic → Channel α → Prop}
  (setting : SendSetting manners contract admits future)
include setting

/-- A poll of a send future keeps what every operation keeps. -/
theorem pollSend_keeps (inv : Inv manners channel) (legal : channel.state.SendOwned future) :
    (perform (.pollSend future waker)).leaves contract (Kept manners channel) channel := by
  obtain ⟨alive, free⟩ := legal
  obtain ⟨old, found⟩ := Option.isSome_iff_exists.mp alive
  have futures := inv.futures
  -- What has been answered is no longer stored.
  have answered : Resolved (.send future) channel.log → old.done = true ∧ old.outcome = none := by
    intro isOver
    have done : old.done = true := by
      refine eq_true_of_ne_false fun running => ?_
      exact (futures.unsent future old found running).2.2.1 (futures.resolved future isOver)
    exact ⟨done, (futures.answered future old found free done).mpr isOver⟩
  have live : channel.state.RefLive (.send future) := alive
  have begun : Inv manners
      (inUse (channel.logged (.began (.pollSend future waker))) (.send future)) :=
    inv.began.hold live (by rintro _ ⟨⟩)
  have paid : manners.prompt →
      owed future (inUse (channel.logged (.began (.pollSend future waker))) (.send future)).log =
        none := fun prompt => futures.notified prompt future free
  rw [Prog.leaves, wp_perform, body]
  simp only [Prog.wp_bind, wp_holding]
  refine Prog.wp_mono (pollSend_spec setting begun List.mem_cons_self paid waker) ?_ ?_
  · rintro polled after ⟨inv', guarantee, answer, paid'⟩
    refine Settles.kept (.returned ..) free inv' guarantee ?_
    have suffix : channel.log <:+ after.log := (List.suffix_cons ..).trans guarantee.evolves.log
    have used : .send future ∈ after.state.uses := guarantee.evolves.uses ▸ List.mem_cons_self
    have unresolved : Resolved (.send future) after.log ↔ Resolved (.send future) channel.log :=
      guarantee.unresolved
    have answers : Answers (.pollSend future waker) (.send polled)
        (past channel.log.length after.log) := by
      rw [past_suffix suffix]
      refine ⟨fun shut uncommitted item made => ?_, fun committed unanswered => ?_⟩
      · have running : old.done = false := eq_false_of_ne_true fun done =>
          uncommitted (futures.sent future old found done).2
        obtain ⟨unsent, held, rfl⟩ := answer.rejected (inv.books.shut.mp shut) old found running
        have held' := (futures.unsent future old found running).2.2.2 item made
        obtain rfl := Option.some.inj (held.symm.trans held')
        rfl
      · rcases polled with outcome | _
        · rfl
        · have done : old.done = true := eq_true_of_ne_false fun running =>
            (futures.unsent future old found running).2.2.1 committed
          exact absurd ((futures.answered future old found free done).mp
            (answer.replayed rfl old found)) unanswered
    rcases polled with outcome | _
    · obtain ⟨given, stored⟩ := answer.given outcome rfl
      have fresh : ¬ Resolved (.send future) after.log := fun isOver => by
        obtain ⟨done, none⟩ := answered (unresolved.mp isOver)
        exact stored old found done none
      exact
        { tells := by
            refine inv'.settles (.returned ..) paid' (fun other isOver => ?_)
              ⟨⟨answers, given.committed, fresh, given.accounts⟩, inv'.books.lawful⟩
            refine (resolved_pollSend isOver).imp_right ?_
            rintro ⟨rfl, -⟩
            refine ⟨used, ?_⟩
            rintro _ ⟨⟩
            exact given.committed
          silent := .pollSend rfl
          answered := fun this found' _ =>
            iff_of_true (given.given this found').2 (.inl ⟨⟨waker, rfl⟩, rfl⟩)
          faithful := fun _ _ => .inl ⟨⟨waker, rfl⟩, rfl⟩
          notified := paid' }
    · have pending : ∀ other, Resolved other (.returned channel.log.length
          (.pollSend future waker) (.send .pending) :: after.log) → Resolved other after.log :=
        fun other isOver => (resolved_pollSend isOver).resolve_right fun ended => by cases ended.2
      have still : ∀ this, after.state.sends future = some this → this.done = true →
          this.outcome = none ∧ Resolved (.send future) after.log := by
        intro this found' done
        obtain ⟨none, before, found'', done', none'⟩ := answer.still rfl this found' done
        obtain rfl := Option.some.inj (found.symm.trans found'')
        exact ⟨none, unresolved.mpr ((futures.answered future old found free done').mp none')⟩
      exact
        { tells := inv'.settles (.returned ..) paid'
            (fun other isOver => .inl (pending other isOver))
            ⟨⟨answers, trivial⟩, inv'.books.lawful⟩
          silent := .pollSend rfl
          answered := fun this found' done =>
            iff_of_true (still this found' done).1 (.inr (still this found' done).2)
          faithful := by
            intro _ committed
            obtain ⟨this, found'⟩ := Option.isSome_iff_exists.mp (inv'.handles.uses _ used)
            have done : this.done = true := eq_true_of_ne_false fun running =>
              (inv'.futures.unsent future this found' running).2.2.1 committed
            exact .inr (still this found' done).2
          notified := paid' }
  · rintro _ after ⟨inv', guarantee, left, paid', uncommitted⟩
    refine Settles.kept (.unwound ..) free inv' guarantee ?_
    have unresolved : Resolved (.send future) after.log ↔ Resolved (.send future) channel.log :=
      guarantee.unresolved
    exact
      { tells := inv'.settles (.unwound ..) paid' (fun _ isOver => .inl isOver) inv'.books.lawful
        silent := fun _ => .unwound
        answered := by
          intro this found' done
          obtain ⟨stored, before, found'', running⟩ := left this found' done
          obtain rfl := Option.some.inj (found.symm.trans found'')
          refine iff_of_false stored fun isOver => ?_
          cases (answered (unresolved.mp isOver)).1.symm.trans running
        faithful := fun faithful committed => absurd committed (uncommitted faithful)
        notified := paid' }

end Send

end Lochan.Mpsc
