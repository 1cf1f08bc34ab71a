import Lochan.Oneshot.Steps

/-!
# Soundness of the oneshot channel

Every operation keeps the invariant and the guarantee, so that both hold in every run. An abort
takes two panics.
-/

namespace Lochan.Oneshot

open Reentrant

variable {α : Type} {channel after : Channel α}

/-! ### The beginning and the end of an operation -/

/-- An operation that moves no handle begins. -/
theorem Core.began (core : Core channel) {op : Op α} (keeps : op ≠ .dropSender ∧ op ≠ .dropReceiver)
    (sends : ∀ value, op ≠ .send value) : Core (channel.logged (.began op)) := by
  have member : ∀ {other : Op α}, op ≠ other →
      (.began other ∈ (channel.logged (.began op)).log ↔ .began other ∈ channel.log) := by
    intro other different
    refine List.mem_cons.trans (or_iff_right ?_)
    rintro ⟨⟩
    exact different rfl
  have same : sent (.began op :: channel.log) = sent channel.log := by
    cases op <;> first | exact absurd rfl (sends _) | simp [sent, Event.sent?]
  exact { core with
    single := same ▸ core.single
    books := same ▸ core.books
    unsent := fun alive => ⟨(core.unsent alive).1, same ▸ (core.unsent alive).2.1,
      fun abandoned => (core.unsent alive).2.2 ((member keeps.1).mp abandoned)⟩
    abandoned := fun abandoned => same ▸ core.abandoned ((member keeps.1).mp abandoned)
    closed := (member keeps.2).trans core.closed
    canceled := fun reported => same ▸ core.canceled reported }

/-- An operation returns that yields nothing. -/
theorem Core.returned (core : Core channel) {start : Nat} {op : Op α} {result : Result α}
    (silent : result.yields = none) (accepted : ∀ value, result ≠ .send (.error value))
    (answers : Answers op result (past start channel.log)) :
    Core (channel.logged (.returned start op result)) := by
  have member : ∀ other : Op α,
      (.began other ∈ (channel.logged (.returned start op result)).log ↔
        .began other ∈ channel.log) := fun other => List.mem_cons.trans (or_iff_right nofun)
  have yields : yielded (.returned start op result :: channel.log) = yielded channel.log := by
    simp [yielded, Event.yielded?, silent]
  have rejects : rejected (.returned start op result :: channel.log) = rejected channel.log := by
    cases result with
    | send outcome =>
        cases outcome with
        | error value => exact absurd rfl (accepted value)
        | ok _ => simp [rejected, Event.rejected?]
    | _ => simp [rejected, Event.rejected?]
  have receives : received (.returned start op result :: channel.log) = received channel.log := by
    simp only [received, yields]
  exact { core with
    books := by
      show sent channel.log = rejected (.returned start op result :: channel.log) ++
        received (.returned start op result :: channel.log) ++ drained channel.log ++ _
      rw [rejects, receives]
      exact core.books
    unsent := fun alive => ⟨(core.unsent alive).1, (core.unsent alive).2.1,
      fun abandoned => (core.unsent alive).2.2 ((member _).mp abandoned)⟩
    abandoned := fun abandoned => core.abandoned ((member _).mp abandoned)
    closed := (member _).trans core.closed
    alive := fun alive => ⟨rejects.trans (core.alive alive).1, (core.alive alive).2⟩
    done := yields ▸ core.done
    once := yields ▸ core.once
    canceled := fun reported =>
      core.canceled (show .error .mk ∈ yielded channel.log from yields ▸ reported)
    lawful := ⟨answers, core.lawful⟩ }

/-- An operation that unwinds yields nothing. -/
theorem Core.unwound (core : Core channel) {start : Nat} {op : Op α} :
    Core (channel.logged (.unwound start op)) := by
  have member : ∀ other : Op α,
      (.began other ∈ (channel.logged (.unwound start op)).log ↔
        .began other ∈ channel.log) := fun other => List.mem_cons.trans (or_iff_right nofun)
  exact { core with
    unsent := fun alive => ⟨(core.unsent alive).1, (core.unsent alive).2.1,
      fun abandoned => (core.unsent alive).2.2 ((member _).mp abandoned)⟩
    abandoned := fun abandoned => core.abandoned ((member _).mp abandoned)
    closed := (member _).trans core.closed }

/-- The channel when the receiver has taken what is in the slot, and has yielded. -/
abbrev yielding (channel : Channel α) (start : Nat) (op : Op α) (result : Result α) : Channel α :=
  (channel.onState fun state =>
    { state with
      inner := { state.inner with value := none, valuePresent := false }
      done := true
      polling := false }).logged (.returned start op result)

/-- What the receiver yields when it looks into the slot. -/
def Inner.Yields (inner : Inner α) : Except Canceled α → Prop
  | .ok value => inner.value = some value
  | .error _ => inner.value = none ∧ inner.senderDropped = true

/-- The receiver yields the value, or that the sender dropped without sending. -/
theorem Core.yields (core : Core channel) (alive : channel.state.receiver = true)
    (expecting : channel.state.done = false) {start : Nat} {op : Op α} {result : Result α}
    {outcome : Except Canceled α} (yields : result.yields = some outcome)
    (fits : channel.state.inner.Yields outcome)
    (answers : Answers op result (past start channel.log)) :
    Inv (yielding channel start op result) := by
  have member : ∀ other : Op α,
      (.began other ∈ (.returned start op result :: channel.log) ↔
        .began other ∈ channel.log) := fun other =>
          List.mem_cons.trans (or_iff_right (by rintro ⟨⟩))
  have before : yielded channel.log = [] := by
    by_contra some
    cases expecting.symm.trans (core.done.mpr some)
  have after : yielded (.returned start op result :: channel.log) = [outcome] := by
    show collect _ _ = _
    rw [collect_cons]
    show yielded channel.log ++ result.yields.toList = _
    rw [before, yields]
    rfl
  have rejects : rejected (.returned start op result :: channel.log) = rejected channel.log := by
    cases result with
    | send _ => cases yields
    | _ => simp [rejected, Event.rejected?]
  have received_before : received channel.log = [] := by simp [received, before]
  have received_after : received (.returned start op result :: channel.log) =
      outcome.toOption.toList := by
    cases outcome <;> simp [received, after, Except.toOption]
  obtain ⟨rejected_before, drained_before⟩ := core.alive alive
  have books := core.books
  rw [rejected_before, received_before, drained_before] at books
  have sender_gone : outcome = .error .mk → channel.state.sender = false := by
    rintro rfl
    cases sender : channel.state.sender with
    | false => rfl
    | true => cases (core.unsent sender).1.symm.trans fits.2
  refine ⟨{ core with
    present := rfl
    books := ?_
    unsent := fun alive => ⟨(core.unsent alive).1, (core.unsent alive).2.1,
      fun abandoned => (core.unsent alive).2.2 ((member _).mp abandoned)⟩
    abandoned := fun abandoned => core.abandoned ((member _).mp abandoned)
    closed := (member _).trans core.closed
    alive := fun _ => ⟨rejects.trans rejected_before, drained_before⟩
    polling := by rintro ⟨⟩
    done := by simp [after]
    once := by simp [after]
    canceled := ?_
    lawful := ⟨answers, core.lawful⟩ }, fun _ => rfl, ?_⟩
  · show sent channel.log = rejected (.returned start op result :: channel.log) ++
      received (.returned start op result :: channel.log) ++ drained channel.log ++ []
    rw [books, rejects, received_after, rejected_before, drained_before]
    cases outcome with
    | ok value => rw [fits]; rfl
    | error error => rw [fits.1]; rfl
  · intro reported
    have canceled : .error .mk ∈ yielded (.returned start op result :: channel.log) := reported
    rw [after] at canceled
    obtain rfl := (List.mem_singleton.mp canceled).symm
    refine ⟨?_, sender_gone rfl⟩
    show sent channel.log = []
    rw [books, fits.1]
    rfl
  · intro _ _ expecting
    cases expecting.2.2

/-! ### The operations of the receiver -/

/-- An operation that uses the receiver begins. -/
abbrev occupied (channel : Channel α) (op : Op α) : Channel α :=
  (channel.logged (.began op)).onState fun state => { state with polling := true }

/-- A receiver may be used once at a time. -/
theorem Inv.enters (inv : Inv channel) {op : Op α} (alive : channel.state.receiver = true)
    (keeps : op ≠ .dropSender ∧ op ≠ .dropReceiver) (sends : ∀ value, op ≠ .send value) :
    Inv (occupied channel op) :=
  ⟨{ inv.core.began keeps sends with polling := fun _ => alive }, inv.freed,
    fun _ _ expecting => (nomatch expecting.1)⟩

/-- The operation is over: the receiver is no longer in use. -/
abbrev released (channel : Channel α) (inner : Inner α) (done : Bool)
    (event : Event (Op α) (Result α) α) : Channel α :=
  (channel.onState fun state =>
    { state with inner := inner, done := done, polling := false }).logged event

/-- The receiver is let go of when its operation is over. -/
theorem Guarantee.Within.released {before : Channel α} {op : Op α}
    (within : Guarantee.Within (occupied channel op) before)
    (idle : channel.state.polling = false) {inner : Inner α} {done : Bool}
    {event : Event (Op α) (Result α) α}
    (same : inner.senderDropped = before.state.inner.senderDropped) :
    Guarantee channel (released before inner done event) where
  log := (List.suffix_cons _ _).trans (within.log.trans (List.suffix_cons _ _))
  polling := idle.symm
  done polling := nomatch idle.symm.trans polling
  sender := within.sender
  receiver := within.receiver
  senderDropped dropped := same.trans (within.senderDropped dropped)
  balance := within.balance
  value polling := nomatch idle.symm.trans polling
  waker polling := nomatch idle.symm.trans polling

/-- Whatever has happened before an operation has happened when it ends. -/
theorem Guarantee.Within.past {before : Channel α} {op : Op α}
    (within : Guarantee.Within (occupied channel op) before) :
    past channel.log.length before.log = channel.log :=
  past_suffix ((List.suffix_cons _ _).trans within.log)

/-- A sender that gave up has done so for good. -/
theorem Abandoned.mono {older newer : Log α} (suffix : older <:+ newer)
    (abandoned : Abandoned older) : Abandoned newer := suffix.subset abandoned

/-- The receiver yields only what the sender left. -/
theorem Core.answers_yielding (core : Core channel) {op : Op α} {before : Channel α}
    (core' : Core before) (within : Guarantee.Within (occupied channel op) before)
    (expecting : channel.state.done = false) {outcome : Except Canceled α}
    (fits : before.state.inner.Yields outcome) :
    yielded (past channel.log.length before.log) = [] ∧
      (Abandoned (past channel.log.length before.log) → outcome = .error .mk) := by
  rw [within.past]
  refine ⟨?_, fun abandoned => ?_⟩
  · by_contra some
    exact nomatch expecting.symm.trans (core.done.mpr some)
  · cases outcome with
    | error error => cases error; rfl
    | ok value =>
        have unsent := (core'.abandoned
          (abandoned.mono ((List.suffix_cons _ _).trans within.log))).2
        have books := core'.books
        rw [fits, unsent] at books
        simp at books

/-- The receiver has yielded before, and nothing but that. -/
theorem Core.reported (core : Core channel) (done : channel.state.done = true)
    (abandoned : Abandoned channel.log) : Reported channel.log := by
  obtain ⟨outcome, member⟩ := List.exists_mem_of_ne_nil _ (core.done.mp done)
  cases outcome with
  | error error => exact member
  | ok value =>
      have unsent := (core.abandoned abandoned).2
      have received : value ∈ received channel.log := mem_received.mpr member
      have books := core.books
      rw [unsent] at books
      simp_all

/-- Where the slot is empty, the receiver that yields leaves it as it is. -/
theorem released_vacant (core : Core channel)
    (none : channel.state.inner.value = none) {start : Nat} {op : Op α} {result : Result α} :
    yielding channel start op result =
      released channel channel.state.inner true (.returned start op result) := by
  have absent : channel.state.inner.valuePresent = false := by rw [core.present, none]; rfl
  obtain ⟨⟨⟨value, present, senderDropped, receiverDropped, waker⟩, strong, sender, receiver, done,
    polling⟩, held, log⟩ := channel
  obtain rfl : value = .none := none
  obtain rfl : present = false := absent
  rfl

section Operations

variable {contract : Prog.Contract (Channel α) (Callback α) Panic}
  {admits : Callback α → Panic → Channel α → Prop}

/-- An operation does what its body does, and then is over. -/
theorem wp_perform {op : Op α} {kept : Channel α → Prop} :
    (perform op).leaves contract kept channel ↔
      (body op).wp contract
        (fun result after => kept (after.logged (.returned channel.log.length op result)))
        (fun _ after => kept (after.logged (.unwound channel.log.length op)))
        (channel.logged (.began op)) := by
  simp [Prog.leaves, perform]

/-- An operation that holds the receiver lets go of it at the end. -/
theorem wp_holding {β : Type} {act : M α β} {post : β → Channel α → Prop}
    {exc : Panic → Channel α → Prop}
    (holds : act.wp contract
      (fun value after => post value (after.onState fun state => { state with polling := false }))
      (fun payload after =>
        exc payload (after.onState fun state => { state with polling := false }))
      (channel.onState fun state => { state with polling := true })) :
    (holding act).wp contract post exc channel := by
  simpa [holding] using holds

/-- The receiver looks into the slot. -/
theorem wp_receive {post : Option α → Channel α → Prop} {exc : Panic → Channel α → Prop}
    (core : Core channel)
    (some : ∀ value, channel.state.inner.value = some value → post (some value)
      (channel.onState fun state => { state with
        inner := { state.inner with value := none, valuePresent := false }
        done := true }))
    (none : channel.state.inner.value = none → post none channel) :
    (Receiver.receive : M α (Option α)).wp contract post exc channel := by
  obtain ⟨⟨⟨value, present, senderDropped, receiverDropped, waker⟩, strong, sender, receiver, done,
    polling⟩, held, log⟩ := channel
  obtain rfl : present = value.isSome := core.present
  cases value with
  | none => exact none rfl
  | some value => exact some value rfl

/-- The receiver yields the value, or that the sender dropped, or goes on. -/
theorem wp_check {parked : M α (Poll α)} {post : Poll α → Channel α → Prop}
    {exc : Panic → Channel α → Prop} (core : Core channel)
    (ready : ∀ outcome, channel.state.inner.Yields outcome →
      post (.ready outcome) (channel.onState fun state => { state with
        inner := { state.inner with value := none, valuePresent := false }
        done := true }))
    (waits : channel.state.inner.value = none → channel.state.inner.senderDropped = false →
      parked.wp contract post exc channel) :
    (Receiver.check parked).wp contract post exc channel := by
  simp only [Receiver.check, Prog.wp_bind]
  refine wp_receive core (fun value some => ready (.ok value) some) ?_
  intro none
  simp only [wp_getInner, Prog.wp_bind, Prog.wp_ite]
  by_cases dropped : channel.state.inner.senderDropped = true
  · rw [if_pos dropped]
    have yields := ready (.error .mk) ⟨none, dropped⟩
    have absent : channel.state.inner.valuePresent = false := by rw [core.present, none]; rfl
    obtain ⟨⟨⟨value, present, senderDropped, receiverDropped, waker⟩, strong, sender, receiver,
      done, polling⟩, held, log⟩ := channel
    obtain rfl : value = .none := none
    obtain rfl : present = false := absent
    exact yields
  · rw [if_neg dropped]
    exact waits none (eq_false_of_ne_true dropped)

/-- What an operation does when it is over. -/
abbrev Kept (channel after : Channel α) : Prop := Inv after ∧ Guarantee channel after

/-- An operation that uses the receiver yields. -/
theorem Inv.yields (inv : Inv channel) {op : Op α} {before : Channel α} {result : Result α}
    {outcome : Except Canceled α} (inv' : Inv before)
    (within : Guarantee.Within (occupied channel op) before)
    (legal : channel.state.receiver = true ∧ channel.state.polling = false)
    (expecting : channel.state.done = false) (yields : result.yields = some outcome)
    (fits : before.state.inner.Yields outcome)
    (answers : yielded (past channel.log.length before.log) = [] →
      (Abandoned (past channel.log.length before.log) → outcome = .error .mk) →
      Answers op result (past channel.log.length before.log)) :
    Kept channel (yielding before channel.log.length op result) := by
  have ⟨fresh, lawful⟩ := inv.core.answers_yielding inv'.core within expecting fits
  refine ⟨inv'.core.yields ?_ ?_ yields fits (answers fresh lawful), within.released legal.2 rfl⟩
  · exact inv'.core.polling within.polling
  · exact within.done.trans expecting

/-- An operation that uses the receiver returns without yielding. -/
theorem Inv.yieldsNot {op : Op α} {before : Channel α} {result : Result α}
    (inv : Inv before) (within : Guarantee.Within (occupied channel op) before)
    (legal : channel.state.receiver = true ∧ channel.state.polling = false)
    (silent : result.yields = none) (accepted : ∀ value, result ≠ .send (.error value))
    (answers : Answers op result channel.log)
    (parked : ∀ waker,
      waiting (.returned channel.log.length op result :: before.log) = some waker →
      before.state.done = false → before.state.inner.Parked waker) :
    Kept channel (released before before.state.inner before.state.done
      (.returned channel.log.length op result)) := by
  have lawful := inv.core.returned silent accepted (within.past.symm ▸ answers)
  exact ⟨⟨{ lawful with polling := nofun }, inv.freed,
    fun waker waits expecting => parked waker waits expecting.2.2⟩, within.released legal.2 rfl⟩

/-- An operation that uses the receiver unwinds. -/
theorem Inv.unwinds {op : Op α} {before : Channel α}
    (inv : Inv before) (within : Guarantee.Within (occupied channel op) before)
    (legal : channel.state.receiver = true ∧ channel.state.polling = false)
    (polls : ∃ waker, op = .poll waker) :
    Kept channel (released before before.state.inner before.state.done
      (.unwound channel.log.length op)) := by
  obtain ⟨waker, rfl⟩ := polls
  refine ⟨⟨{ inv.core.unwound with polling := nofun }, inv.freed, nofun⟩,
    within.released legal.2 rfl⟩

/-- A poll yields what is there, or leaves its waker registered. -/
theorem poll_keeps {waker : Waker} (relies : Relies contract (Inv (α := α)) Guarantee admits)
    (inv : Inv channel) (legal : channel.state.Legal (.poll waker)) :
    (perform (.poll waker)).leaves contract (Kept channel) channel := by
  have entered : Inv (occupied channel (.poll waker)) :=
    inv.enters legal.1 ⟨by rintro ⟨⟩, by rintro ⟨⟩⟩ (by rintro _ ⟨⟩)
  have same : Guarantee.Within (occupied channel (.poll waker)) (occupied channel (.poll waker)) :=
    .refl rfl
  rw [wp_perform]
  simp only [body, Prog.wp_bind, Prog.wp_pure]
  refine wp_holding ?_
  simp only [Receiver.poll, Prog.wp_bind, wp_getState, Prog.wp_ite]
  by_cases done : (occupied channel (.poll waker)).state.done = true
  · rw [if_pos done]
    refine entered.yieldsNot same legal rfl (by rintro _ ⟨⟩)
      ⟨fun abandoned unreported => ?_, fun _ => rfl⟩ ?_
    · exact absurd (inv.core.reported done abandoned) unreported
    · intro _ _ expecting
      cases done.symm.trans expecting
  · rw [if_neg done]
    have expecting := eq_false_of_ne_true done
    refine wp_check entered.core ?_ ?_
    · intro outcome fits
      refine inv.yields entered same legal expecting rfl fits fun fresh answers => ⟨?_, ?_⟩
      · intro abandoned _
        rw [answers abandoned]
      · exact fun some => absurd fresh some
    · intro none alive
      rw [Prog.wp_bind]
      refine Prog.wp_mono (registerRecvWaker_sound relies entered rfl) ?_ ?_
      · rintro _ after ⟨inv', within, registered⟩
        refine wp_check inv'.core ?_ ?_
        · intro outcome fits
          refine inv.yields inv' within legal expecting rfl fits fun fresh answers => ⟨?_, ?_⟩
          · intro abandoned _
            rw [answers abandoned]
          · exact fun some => absurd fresh some
        · intro none alive
          have parked : after.state.inner.Parked waker := by
            refine ⟨alive, none, registered.resolve_right ?_⟩
            rintro (dropped | some)
            · cases alive.symm.trans dropped
            · exact some none
          refine inv'.yieldsNot within legal rfl (by rintro _ ⟨⟩)
            ⟨fun abandoned _ => ?_, fun _ => rfl⟩ ?_
          · have abandoned := abandoned.mono ((List.suffix_cons _ _).trans within.log)
            cases alive.symm.trans (inv'.core.abandoned abandoned).1
          · rintro _ ⟨⟩ _
            exact parked
      · rintro _ after ⟨inv', within, -⟩
        exact inv'.unwinds within legal ⟨waker, rfl⟩

/-- A receive that does not wait leaves a parked waker in place. -/
theorem Inv.stillParked (inv : Inv channel) {op : Op α} {result : Result α}
    (legal : channel.state.receiver = true ∧ channel.state.polling = false)
    (silent : ¬ Polls (.began op : Event (Op α) (Result α) α))
    (silent' : ¬ Polls (.returned channel.log.length op result)) {waker : Waker}
    (waits : waiting (.returned channel.log.length op result :: (occupied channel op).log) =
      some waker)
    (expecting : channel.state.done = false) : channel.state.inner.Parked waker :=
  inv.parked waker (waiting_cons silent (waiting_cons silent' waits)) ⟨legal.2, legal.1, expecting⟩

/-- Receiving without waiting keeps the invariant. -/
theorem tryRecv_keeps (inv : Inv channel) (legal : channel.state.Legal (.tryRecv : Op α)) :
    (perform .tryRecv).leaves contract (Kept channel) channel := by
  have entered : Inv (occupied channel .tryRecv) :=
    inv.enters legal.1 ⟨by rintro ⟨⟩, by rintro ⟨⟩⟩ (by rintro _ ⟨⟩)
  have same : Guarantee.Within (occupied channel .tryRecv) (occupied channel .tryRecv) := .refl rfl
  rw [wp_perform]
  simp only [body, Prog.wp_bind, Prog.wp_pure]
  refine wp_holding ?_
  simp only [Receiver.tryRecv, Receiver.takeValue, Prog.wp_bind, wp_getState, Prog.wp_ite]
  by_cases done : (occupied channel .tryRecv).state.done = true
  · rw [if_pos done]
    simp only [Prog.wp_pure, Prog.wp_bind, wp_getState, wp_getInner, Prog.wp_ite]
    rw [if_neg (by simp only [done]; exact Bool.false_ne_true)]
    refine entered.yieldsNot same legal rfl (by rintro _ ⟨⟩) (fun abandoned unreported => ?_) ?_
    · exact absurd (inv.core.reported done abandoned) unreported
    · intro _ _ expecting
      cases done.symm.trans expecting
  · rw [if_neg done]
    have expecting := eq_false_of_ne_true done
    refine wp_receive entered.core ?_ ?_
    · intro value some
      refine inv.yields entered same legal expecting rfl some
        fun _ answers abandoned _ => ?_
      cases answers abandoned
    · intro none
      simp only [Prog.wp_bind, wp_getState, wp_getInner, Prog.wp_ite]
      by_cases dropped : (occupied channel .tryRecv).state.inner.senderDropped = true
      · rw [if_pos (by simp only [expecting, dropped]; rfl)]
        have kept : Kept channel (yielding (occupied channel .tryRecv) channel.log.length .tryRecv
            (.tryRecv (.error .mk))) :=
          inv.yields entered same legal expecting rfl ⟨none, dropped⟩ fun _ _ _ _ => rfl
        rw [released_vacant entered.core none] at kept
        exact kept
      · rw [if_neg (by simp only [dropped, Bool.and_false]; exact Bool.false_ne_true)]
        refine entered.yieldsNot same legal rfl (by rintro _ ⟨⟩) (fun abandoned _ => ?_) ?_
        · exact absurd (inv.core.abandoned abandoned).1 dropped
        · exact fun waker waits expecting => inv.stillParked legal id id waits expecting

/-- Taking the value through the iterator keeps the invariant. -/
theorem tryIterNext_keeps (inv : Inv channel) (legal : channel.state.Legal (.tryIterNext : Op α)) :
    (perform .tryIterNext).leaves contract (Kept channel) channel := by
  have entered : Inv (occupied channel .tryIterNext) :=
    inv.enters legal.1 ⟨by rintro ⟨⟩, by rintro ⟨⟩⟩ (by rintro _ ⟨⟩)
  have same : Guarantee.Within (occupied channel .tryIterNext) (occupied channel .tryIterNext) :=
    .refl rfl
  rw [wp_perform]
  simp only [body, Prog.wp_bind, Prog.wp_pure]
  refine wp_holding ?_
  simp only [Receiver.takeValue, Prog.wp_bind, wp_getState, Prog.wp_ite]
  by_cases done : (occupied channel .tryIterNext).state.done = true
  · rw [if_pos done]
    refine entered.yieldsNot same legal rfl (by rintro _ ⟨⟩) trivial ?_
    intro _ _ expecting
    cases done.symm.trans expecting
  · rw [if_neg done]
    refine wp_receive entered.core ?_ ?_
    · intro value some
      exact inv.yields entered same legal (eq_false_of_ne_true done) rfl some
        fun _ _ => trivial
    · intro none
      refine entered.yieldsNot same legal rfl (by rintro _ ⟨⟩) trivial ?_
      exact fun waker waits expecting => inv.stillParked legal id id waits expecting

/-! ### The operations that only look -/

/-- An operation that is no poll returns, and yields nothing. -/
theorem Inv.returned (inv : Inv channel) {start : Nat} {op : Op α} {result : Result α}
    (plain : ¬ Polls (.returned start op result)) (silent : result.yields = none)
    (accepted : ∀ value, result ≠ .send (.error value))
    (answers : Answers op result (past start channel.log)) :
    Inv (channel.logged (.returned start op result)) := by
  exact ⟨inv.core.returned silent accepted answers, inv.freed,
    fun waker waits => inv.parked waker (waiting_cons plain waits)⟩

/-- The invariant holds after an operation that unwinds and does not poll. -/
theorem Inv.unwound (inv : Inv channel) {start : Nat} {op : Op α}
    (plain : ¬ Polls (.unwound start op : Event (Op α) (Result α) α)) :
    Inv (channel.logged (.unwound start op)) :=
  ⟨inv.core.unwound, inv.freed, fun waker waits => inv.parked waker (waiting_cons plain waits)⟩

/-- An operation that only looks at the channel. -/
theorem observes_keeps (inv : Inv channel) {op : Op α} (value : State α → Bool)
    (looks : body op = (do return .bool (value (← getState)) : M α (Result α)))
    (plain : op ≠ .dropSender ∧ op ≠ .dropReceiver ∧ op ≠ .tryRecv)
    (sends : ∀ value, op ≠ .send value) (polls : ∀ waker, op ≠ .poll waker) :
    (perform op).leaves contract (Kept channel) channel := by
  have begins : ¬ Polls (.began op : Event (Op α) (Result α) α) := by
    cases op <;> first | exact id | exact fun _ => polls _ rfl
  have ends : ¬ Polls (.returned channel.log.length op (.bool (value channel.state))) := by
    cases op <;> first | exact id | exact fun _ => polls _ rfl
  have began : Inv (channel.logged (.began op)) :=
    ⟨inv.core.began ⟨plain.1, plain.2.1⟩ sends, inv.freed,
      fun waker waits => inv.parked waker (waiting_cons begins waits)⟩
  rw [wp_perform, looks]
  refine ⟨began.returned ends rfl nofun ?_, (Guarantee.logged channel _).trans (.logged _ _)⟩
  cases op <;> first
    | exact trivial
    | exact absurd rfl plain.2.2
    | exact absurd rfl (polls _)
    | exact absurd rfl (sends _)

/-! ### Dropping the handles -/

/-- What happens after a share was released goes on as before. -/
theorem Guarantee.unshare {first second : Channel α} (later : Guarantee first second)
    (share : first.state.handles < first.state.strong) :
    Guarantee (unshared first) (unshared second) :=
  { later with
    balance := by
      have balance := later.balance
      show second.state.strong - 1 + first.state.handles =
        first.state.strong - 1 + second.state.handles
      omega }

/-- A handle drops: its destructor runs, and then its share is released. -/
theorem dropHandle_sound (relies : Relies contract (Inv (α := α)) Guarantee admits)
    (aborts : ∀ channel : Channel α, 2 ≤ panics channel.log → contract.abort channel)
    {destructor : M α Unit} (share : channel.state.handles < channel.state.strong)
    (drops : Sound contract destructor channel) :
    (destructor.ensuring release).wp contract
      (fun _ after => Inv after ∧ Guarantee (unshared channel) after)
      (fun _ after => Inv after ∧ Guarantee (unshared channel) after ∧
        panics channel.log < panics after.log) channel := by
  rw [Prog.wp_ensuring]
  have shares : ∀ {after : Channel α}, Guarantee channel after →
      after.state.handles < after.state.strong := by
    intro after later
    have balance := later.balance
    omega
  refine Prog.wp_mono drops ?_ ?_
  · rintro _ after ⟨inv, later⟩
    refine Prog.wp_mono (release_sound relies inv (shares later)) ?_ ?_
    · rintro _ final ⟨inv', last⟩
      exact ⟨inv', (later.unshare share).trans last⟩
    · rintro _ final ⟨inv', last, panicked⟩
      exact ⟨inv', (later.unshare share).trans last,
        Nat.lt_of_le_of_lt (panics_mono later.log) panicked⟩
  · rintro _ after ⟨inv, later, panicked⟩
    refine Prog.wp_mono (release_sound relies inv (shares later)) ?_ ?_
    · rintro _ final ⟨inv', last⟩
      exact ⟨inv', (later.unshare share).trans last,
        Nat.lt_of_lt_of_le panicked (panics_mono last.log)⟩
    · rintro _ final ⟨-, -, panicked'⟩
      exact aborts final (by omega)

/-- Only the drop of the receiver closes the channel. -/
theorem closed_began (op : Op α) (other : op ≠ .dropReceiver) {log : Log α} :
    Closed (.began op :: log) ↔ Closed log := by
  refine List.mem_cons.trans (or_iff_right ?_)
  rintro ⟨⟩
  exact other rfl

/-- The sender is moved out of the hands of user code. -/
abbrev senderless (channel : Channel α) (op : Op α) : Channel α :=
  (channel.logged (.began op)).onState fun state => { state with sender := false }

/-- A sender that is given up leaves its share behind. -/
theorem Inv.senderless_share (inv : Inv channel) (alive : channel.state.sender = true) {op : Op α} :
    (senderless channel op).state.handles < (senderless channel op).state.strong := by
  have strong := inv.core.strong
  simp only [State.handles, alive] at strong
  show false.toNat + channel.state.receiver.toNat < channel.state.strong
  simp only [Bool.toNat_true, Bool.toNat_false] at strong ⊢
  omega

/-- The sender gives up its handle and its share. -/
theorem Guarantee.parts (inv : Inv channel) (alive : channel.state.sender = true) {op : Op α} :
    Guarantee channel (unshared (senderless channel op)) :=
  { Guarantee.refl channel with
    log := List.suffix_cons ..
    sender := fun _ => rfl
    balance := by
      have strong := inv.core.strong
      simp only [State.handles, alive] at strong
      show channel.state.strong - 1 + (channel.state.sender.toNat + channel.state.receiver.toNat) =
        channel.state.strong + (false.toNat + channel.state.receiver.toNat)
      simp only [alive, Bool.toNat_true, Bool.toNat_false] at strong ⊢
      omega }

/-- Dropping the sender keeps the invariant. -/
theorem dropSender_keeps (relies : Relies contract (Inv (α := α)) Guarantee admits)
    (aborts : ∀ channel : Channel α, 2 ≤ panics channel.log → contract.abort channel)
    (inv : Inv channel) (legal : channel.state.Legal (.dropSender : Op α)) :
    (perform .dropSender).leaves contract (Kept channel) channel := by
  have alive : channel.state.sender = true := legal
  have leaves : Guarantee channel (unshared (senderless channel .dropSender)) :=
    .parts inv alive
  obtain ⟨still, unsent, -⟩ := inv.core.unsent alive
  have dropped : Core ((senderless channel .dropSender).onState
      (·.onInner fun inner => { inner with senderDropped := true })) :=
    { inv.core with
      single := inv.core.single
      books := inv.core.books
      unsent := by rintro ⟨⟩
      abandoned := fun _ => ⟨rfl, unsent⟩
      closed := (closed_began .dropSender (by rintro ⟨⟩)).trans inv.core.closed
      canceled := fun reported => ⟨(inv.core.canceled reported).1, rfl⟩
      strong := Nat.le_of_lt (inv.senderless_share alive) }
  rw [wp_perform]
  simp only [body, Prog.wp_bind, Prog.wp_pure, wp_modifyState]
  refine Prog.wp_mono (dropHandle_sound relies aborts (inv.senderless_share alive)
    (senderDrop_sound relies dropped inv.freed ?_)) ?_ ?_
  · intro waker waits expecting
    have parked := inv.parked waker (waiting_cons id waits) expecting
    exact ⟨parked.value, parked.waker⟩
  · rintro _ after ⟨inv', later⟩
    exact ⟨inv'.returned id rfl (by rintro _ ⟨⟩) trivial,
      (leaves.trans later).trans (.logged after _)⟩
  · rintro _ after ⟨inv', later, -⟩
    exact ⟨inv'.unwound id, (leaves.trans later).trans (.logged after _)⟩

/-- The value that was sent is still there for the receiver. -/
theorem Core.expected (core : Core channel) (expecting : channel.state.Expecting)
    (some : sent channel.log ≠ []) : channel.state.inner.value ≠ none := by
  intro none
  have books := core.books
  have nothing : yielded channel.log = [] := by
    by_contra some
    exact nomatch expecting.2.2.symm.trans (core.done.mpr some)
  rw [none, (core.alive expecting.2.1).1, (core.alive expecting.2.1).2] at books
  refine some (books.trans ?_)
  simp [received, nothing]

/-- A value that was sent stays sent. -/
theorem sent_mono {older newer : Log α} (suffix : older <:+ newer) (some : sent older ≠ []) :
    sent newer ≠ [] := by
  obtain ⟨events, rfl⟩ := suffix
  rw [sent, collect_append]
  exact fun none => some (List.append_eq_nil_iff.mp none).1

/-- The channel with the value of `send` in its slot. -/
abbrev filled (channel : Channel α) (value : α) : Channel α :=
  (senderless channel (.send value)).onState (·.onInner fun inner =>
    { inner with value := some value, valuePresent := true })

/-- Until the sender sends there is no value anywhere. -/
theorem Core.sends (core : Core channel) (alive : channel.state.sender = true) (value : α) :
    sent (.began (.send value) :: channel.log) = [value] ∧
      rejected channel.log ++ received channel.log ++ drained channel.log = [] ∧
      channel.state.inner.value = none := by
  obtain ⟨-, unsent, -⟩ := core.unsent alive
  have books := core.books
  rw [unsent] at books
  obtain ⟨rest, none⟩ := List.append_eq_nil_iff.mp books.symm
  refine ⟨?_, rest, Option.toList_eq_nil_iff.mp none⟩
  rw [sent, collect_cons, ← sent, unsent]
  rfl

/-- The value goes into the slot, and a waiting receiver has yet to hear of it. -/
theorem Inv.fills (inv : Inv channel) {value : α} (alive : channel.state.sender = true) :
    Unheard (filled channel value) := by
  obtain ⟨-, -, unabandoned⟩ := inv.core.unsent alive
  obtain ⟨sends, rest, -⟩ := inv.core.sends alive value
  have abandoned : ¬ Abandoned (.began (.send value) :: channel.log) := by
    rintro (_ | ⟨_, member⟩)
    exact unabandoned member
  refine ⟨{ inv.core with
    present := rfl
    single := by
      show (sent (.began (.send value) :: channel.log)).length ≤ 1
      rw [sends]
      exact Nat.le_refl 1
    books := by
      show sent (.began (.send value) :: channel.log) =
        rejected channel.log ++ received channel.log ++ drained channel.log ++ [value]
      rw [sends, rest]
      rfl
    unsent := nofun
    abandoned := fun member => absurd member abandoned
    closed := (closed_began (.send value) nofun).trans inv.core.closed
    canceled := fun reported => (nomatch alive.symm.trans (inv.core.canceled reported).2)
    strong := Nat.le_of_lt (inv.senderless_share alive) }, ?_, ?_, .inr nofun⟩
  · intro freed
    have share : (senderless channel (.send value)).state.handles < channel.state.strong :=
      inv.senderless_share alive
    exact absurd (freed ▸ share) (Nat.not_lt_zero _)
  · exact fun waker waits expecting =>
      (inv.parked waker (waiting_cons id waits) expecting).waker

/-- The channel after `send` has returned its value. -/
abbrev refused (channel : Channel α) (value : α) : Channel α :=
  ((unshared (senderless channel (.send value))).onState
    (·.onInner fun inner => { inner with senderDropped := true })).logged
      (.returned channel.log.length (.send value) (.send (.error value)))

/-- The receiver had dropped, and the sender gets its value back. -/
theorem Inv.refuses (inv : Inv channel) {value : α} (alive : channel.state.sender = true)
    (closed : channel.state.inner.receiverDropped = true) :
    Kept channel (refused channel value) := by
  have leaves : Guarantee channel (unshared (senderless channel (.send value))) :=
    .parts inv alive
  obtain ⟨-, -, unabandoned⟩ := inv.core.unsent alive
  obtain ⟨sends, rest, none⟩ := inv.core.sends alive value
  have gone : channel.state.receiver = false := inv.core.receiver.trans (congrArg not closed)
  have abandoned : ¬ Abandoned (refused channel value).log := by
    rintro (_ | ⟨_, _ | ⟨_, member⟩⟩)
    exact unabandoned member
  obtain ⟨rest, drained_nil⟩ := List.append_eq_nil_iff.mp rest
  obtain ⟨rejected_nil, received_nil⟩ := List.append_eq_nil_iff.mp rest
  have sends' : sent (refused channel value).log = [value] := by
    rw [← sends]
    simp [sent, Event.sent?]
  have rejects : rejected (refused channel value).log = [value] := by
    show collect _ (.returned _ _ _ :: .began _ :: channel.log) = _
    rw [collect_cons, collect_cons, ← rejected, rejected_nil]
    rfl
  have core : Core (refused channel value) :=
    { inv.core with
      single := by
        rw [sends']
        exact Nat.le_refl 1
      books := by
        show sent (refused channel value).log = rejected (refused channel value).log ++
          received channel.log ++ drained channel.log ++ channel.state.inner.value.toList
        rw [sends', rejects, received_nil, drained_nil, none]
        rfl
      unsent := nofun
      abandoned := fun member => absurd member abandoned
      closed := iff_of_true (List.mem_cons_of_mem _ (List.mem_cons_of_mem _
        (inv.core.closed.mpr closed))) closed
      alive := fun alive => (nomatch gone.symm.trans alive)
      canceled := fun reported => (nomatch alive.symm.trans (inv.core.canceled reported).2)
      strong := Nat.le_sub_one_of_lt (inv.senderless_share alive)
      lawful := by
        refine ⟨?_, inv.core.lawful⟩
        rintro back ⟨⟩
        refine ⟨rfl, ?_⟩
        show Closed (past channel.log.length (.began (.send value) :: channel.log))
        rw [past_suffix (List.suffix_cons ..)]
        exact inv.core.closed.mpr closed }
  refine ⟨core.inv gone fun _ => none, ?_⟩
  exact
    { leaves with
      log := leaves.log.trans (List.suffix_cons ..)
      senderDropped := fun _ => rfl
      waker := fun polling => (nomatch gone.symm.trans (inv.core.polling polling)) }

/-- The share of a handle is released where nothing is left to drop. -/
theorem wp_release_idle {post : Unit → Channel α → Prop} {exc : Panic → Channel α → Prop}
    (waker : channel.state.inner.recvWaker = none)
    (absent : channel.state.inner.valuePresent = false) (drops : post () (unshared channel)) :
    (release : M α Unit).wp contract post exc channel := by
  simp only [release, Prog.wp_bind, wp_modifyState, wp_getState, Prog.wp_ite]
  by_cases last : (unshared channel).state.strong = 0
  · rw [if_pos last]
    obtain ⟨⟨⟨slot, present, senderDropped, receiverDropped, recvWaker⟩, strong, sender, receiver,
      done, polling⟩, held, log⟩ := channel
    obtain rfl : recvWaker = none := waker
    obtain rfl : present = false := absent
    exact drops
  · rw [if_neg last]
    exact drops

/-- The sender drops where nobody waits and nothing is left to drop. -/
theorem wp_drop_idle {post : Unit → Channel α → Prop} {exc : Panic → Channel α → Prop}
    (clear : channel.held = []) (waker : channel.state.inner.recvWaker = none)
    (absent : channel.state.inner.valuePresent = false)
    (drops : post () (unshared (channel.onState
      (·.onInner fun inner => { inner with senderDropped := true })))) :
    (Sender.drop.ensuring release).wp contract post exc channel := by
  simp only [Sender.drop, wakeReceiver, Prog.wp_ensuring, Prog.wp_bind, wp_modifyInner, wp_getInner,
    Prog.wp_ite]
  have clear' : (channel.onState
      (·.onInner fun inner => { inner with senderDropped := true })).held = [] := clear
  rw [if_pos (by simp [absent]), wp_takeRecvWaker clear']
  simp only [World.onState_state, State.onInner_inner, waker]
  refine wp_release_idle rfl absent ?_
  obtain ⟨⟨⟨slot, present, senderDropped, receiverDropped, recvWaker⟩, strong, sender, receiver,
    done, polling⟩, held, log⟩ := channel
  obtain rfl : recvWaker = none := waker
  exact drops

/-- Sending keeps the invariant. -/
theorem send_keeps {value : α} (relies : Relies contract (Inv (α := α)) Guarantee admits)
    (aborts : ∀ channel : Channel α, 2 ≤ panics channel.log → contract.abort channel)
    (inv : Inv channel) (legal : channel.state.Legal (.send value)) :
    (perform (.send value)).leaves contract (Kept channel) channel := by
  have alive : channel.state.sender = true := legal
  have leaves : Guarantee channel (unshared (senderless channel (.send value))) :=
    .parts inv alive
  rw [wp_perform]
  simp only [body, Prog.wp_bind, Prog.wp_pure, wp_modifyState]
  rw [Prog.wp_ensuring]
  by_cases closed : (senderless channel (.send value)).state.inner.receiverDropped = true
  · have kept : Kept channel (refused channel value) := inv.refuses alive closed
    have waker : channel.state.inner.recvWaker = none := inv.core.vacated closed
    have absent : channel.state.inner.valuePresent = false := by
      rw [inv.core.present, (inv.core.sends alive value).2.2]
      rfl
    simp only [Sender.send, Prog.wp_bind, wp_getInner, Prog.wp_ite]
    rw [if_pos closed]
    exact wp_drop_idle inv.core.held waker absent kept
  · have unheard : Unheard (filled channel value) := inv.fills alive
    have fills : Guarantee (senderless channel (.send value)) (filled channel value) :=
      { Guarantee.refl (senderless channel (.send value)) with
        value := fun _ some => absurd (inv.core.sends alive value).2.2 some
        waker := fun _ => .inl rfl }
    simp only [Sender.send, Prog.wp_bind, wp_getInner, Prog.wp_ite]
    rw [if_neg closed]
    simp only [wp_modifyInner, Prog.wp_pure]
    have drops : ∀ {after : Channel α}, Inv after → Guarantee (filled channel value) after →
        (Sender.drop.ensuring release).wp contract
          (fun _ final => Inv final ∧ Guarantee channel final)
          (fun _ final => Inv final ∧ Guarantee channel final ∧
            panics after.log < panics final.log) after := by
      intro after inv' later
      have gone : after.state.sender = false := later.sender rfl
      have some : sent after.log ≠ [] := by
        refine sent_mono later.log ?_
        show sent (.began (.send value) :: channel.log) ≠ []
        rw [(inv.core.sends alive value).1]
        exact List.cons_ne_nil _ _
      have dropped : Core (after.onState
          (·.onInner fun inner => { inner with senderDropped := true })) :=
        { inv'.core with
          unsent := fun alive => by cases gone.symm.trans alive
          abandoned := fun abandoned => ⟨rfl, (inv'.core.abandoned abandoned).2⟩ }
      have share : after.state.handles < after.state.strong := by
        have balance := (fills.trans later).balance
        have share : (senderless channel (.send value)).state.handles < channel.state.strong :=
          inv.senderless_share alive
        show after.state.handles < after.state.strong
        change after.state.strong + (senderless channel (.send value)).state.handles =
          channel.state.strong + after.state.handles at balance
        omega
      refine Prog.wp_mono (dropHandle_sound relies aborts share
        (senderDrop_sound relies dropped inv'.freed ?_)) ?_ ?_
      · intro waker waits expecting
        exact absurd (inv'.parked waker waits expecting).value (inv'.core.expected expecting some)
      · rintro _ final ⟨inv'', last⟩
        exact ⟨inv'', (leaves.trans ((fills.trans later).unshare
          (inv.senderless_share alive))).trans last⟩
      · rintro _ final ⟨inv'', last, panicked⟩
        exact ⟨inv'', (leaves.trans ((fills.trans later).unshare
          (inv.senderless_share alive))).trans last, panicked⟩
    refine Prog.wp_mono (wakeReceiver_sound relies unheard) ?_ ?_
    · rintro _ after ⟨inv', later⟩
      refine Prog.wp_mono (drops inv' later) ?_ ?_
      · rintro _ final ⟨inv'', kept⟩
        exact ⟨inv''.returned id rfl (by rintro _ ⟨⟩) (by rintro _ ⟨⟩),
          kept.trans (.logged final _)⟩
      · rintro _ final ⟨inv'', kept, -⟩
        exact ⟨inv''.unwound id, kept.trans (.logged final _)⟩
    · rintro _ after ⟨inv', later, panicked⟩
      refine Prog.wp_mono (drops inv' later) ?_ ?_
      · rintro _ final ⟨inv'', kept⟩
        exact ⟨inv''.unwound id, kept.trans (.logged final _)⟩
      · rintro _ final ⟨-, -, panicked'⟩
        exact aborts final (by omega)

/-- The receiver is moved out of the hands of user code, and its waker out of its cell. -/
abbrev receiverless (channel : Channel α) : Channel α :=
  (channel.logged (.began .dropReceiver)).onState fun state =>
    { state with
      receiver := false
      inner := { state.inner with receiverDropped := true, recvWaker := none } }

/-- What the destructor of the receiver does once it has taken its waker out. -/
theorem cleared_sound (relies : Relies contract (Inv (α := α)) Guarantee admits)
    (waker : Option Waker) (core : Core channel) (gone : channel.state.receiver = false)
    (freed : channel.state.strong = 0 → channel.state.inner.value = none) :
    Sound contract (do
      (match waker with
        | none => return
        | some waker => callback (.dropWaker waker) : M α Unit)
      dropValue) channel := by
  simp only [Sound, Prog.wp_bind]
  cases waker with
  | none => exact dropValue_sound relies core gone
  | some waker =>
      refine Prog.wp_mono
        (callback_sound relies (.dropWaker waker) ((core.inv gone freed).idle trivial)
          (.refl channel))
        ?_ (fun _ _ kept => kept)
      rintro _ dropped ⟨inv, earlier⟩
      refine Prog.wp_mono (dropValue_sound relies inv.core (earlier.receiver gone)) ?_ ?_
      · rintro _ after ⟨inv', later⟩
        exact ⟨inv', earlier.trans later⟩
      · rintro _ after ⟨inv', later, panicked⟩
        exact ⟨inv', earlier.trans later, Nat.lt_of_le_of_lt (panics_mono earlier.log) panicked⟩

/-- Dropping the receiver keeps the invariant. -/
theorem dropReceiver_keeps (relies : Relies contract (Inv (α := α)) Guarantee admits)
    (aborts : ∀ channel : Channel α, 2 ≤ panics channel.log → contract.abort channel)
    (inv : Inv channel) (legal : channel.state.Legal (.dropReceiver : Op α)) :
    (perform .dropReceiver).leaves contract (Kept channel) channel := by
  have strong := inv.core.strong
  simp only [State.handles, legal.1, Bool.toNat_true] at strong
  have share : (receiverless channel).state.handles < (receiverless channel).state.strong := by
    show channel.state.sender.toNat + 0 < channel.state.strong
    omega
  have core : Core (receiverless channel) :=
    { inv.core with
      unsent := fun alive => by
        obtain ⟨still, unsent, unabandoned⟩ := inv.core.unsent alive
        refine ⟨still, unsent, ?_⟩
        rintro (_ | ⟨_, member⟩)
        exact unabandoned member
      abandoned := by
        rintro (_ | ⟨_, member⟩)
        exact inv.core.abandoned member
      receiver := rfl
      closed := iff_of_true List.mem_cons_self rfl
      alive := by rintro ⟨⟩
      vacated := fun _ => rfl
      polling := fun polling => by cases legal.2.symm.trans polling
      strong := Nat.le_of_lt share }
  have freed : (receiverless channel).state.strong = 0 →
      (receiverless channel).state.inner.value = none := by
    intro freed
    exact absurd (freed ▸ share) (Nat.not_lt_zero _)
  have leaves : Guarantee channel (unshared (receiverless channel)) :=
    { Guarantee.refl channel with
      log := List.suffix_cons ..
      receiver := fun _ => rfl
      balance := by
        show channel.state.strong - 1 +
          (channel.state.sender.toNat + channel.state.receiver.toNat) =
          channel.state.strong + (channel.state.sender.toNat + 0)
        rw [legal.1, Bool.toNat_true]
        omega
      waker := fun polling => by cases legal.2.symm.trans polling }
  have drops := dropHandle_sound relies aborts share
    (cleared_sound relies channel.state.inner.recvWaker core rfl freed)
  have drops : (Receiver.drop.ensuring release).wp contract
      (fun _ after => Inv after ∧ Guarantee (unshared (receiverless channel)) after)
      (fun _ after => Inv after ∧ Guarantee (unshared (receiverless channel)) after ∧
        panics (receiverless channel).log < panics after.log)
      ((channel.logged (.began .dropReceiver)).onState fun state =>
        { state with receiver := false }) := by
    rw [Prog.wp_ensuring] at drops ⊢
    simp only [Receiver.drop, clearRecvWaker, Prog.wp_bind, wp_modifyInner] at drops ⊢
    refine (wp_takeRecvWaker ?_).mpr drops
    exact inv.core.held
  rw [wp_perform]
  simp only [body, Prog.wp_bind, Prog.wp_pure, wp_modifyState]
  refine Prog.wp_mono drops ?_ ?_
  · rintro _ after ⟨inv', later⟩
    exact ⟨inv'.returned id rfl (by rintro _ ⟨⟩) trivial,
      (leaves.trans later).trans (.logged after _)⟩
  · rintro _ after ⟨inv', later, -⟩
    exact ⟨inv'.unwound id, (leaves.trans later).trans (.logged after _)⟩

/-- Every operation that user code may start keeps the invariant and the guarantee. -/
theorem perform_keeps (relies : Relies contract (Inv (α := α)) Guarantee admits)
    (aborts : ∀ channel : Channel α, 2 ≤ panics channel.log → contract.abort channel) {op : Op α}
    (legal : channel.state.Legal op) (inv : Inv channel) :
    (perform op).leaves contract (Kept channel) channel := by
  cases op with
  | send value => exact send_keeps relies aborts inv legal
  | dropSender => exact dropSender_keeps relies aborts inv legal
  | senderIsClosed =>
      exact observes_keeps inv (fun state => state.inner.receiverDropped) rfl
        ⟨nofun, nofun, nofun⟩ nofun nofun
  | poll waker => exact poll_keeps relies inv legal
  | tryRecv => exact tryRecv_keeps inv legal
  | tryIterNext => exact tryIterNext_keeps inv legal
  | receiverIsClosed =>
      exact observes_keeps inv (fun state => state.inner.senderDropped) rfl
        ⟨nofun, nofun, nofun⟩ nofun nofun
  | isTerminated =>
      exact observes_keeps inv (fun state => state.done) rfl ⟨nofun, nofun, nofun⟩ nofun
        nofun
  | dropReceiver => exact dropReceiver_keeps relies aborts inv legal

end Operations

/-! ### Every run -/

/-- An abort takes two panics, and no operation hangs. -/
def exits (α : Type) : Exits (Channel α) (Op α) where
  abort _ channel := 2 ≤ panics channel.log
  hang _ _ := False

/-- The configurations of the runs of a oneshot channel. -/
abbrev Runs (config : Config (Channel α) (Callback α) Panic (Op α)) : Prop :=
  System.Reachable (system α) Policy.any Oneshot.channel config

/-- A new channel satisfies the invariant. -/
theorem Inv.initial : Inv (Oneshot.channel : Channel α) where
  core :=
    { held := rfl
      present := rfl
      single := Nat.zero_le 1
      books := rfl
      unsent := fun _ => ⟨rfl, rfl, nofun⟩
      abandoned := nofun
      receiver := rfl
      closed := iff_of_false nofun nofun
      alive := fun _ => ⟨rfl, rfl⟩
      vacated := nofun
      polling := nofun
      done := iff_of_false nofun fun some => some rfl
      once := Nat.zero_le 1
      canceled := nofun
      strong := Nat.le_refl 2
      lawful := trivial }
  freed := nofun
  parked := nofun

/-- Every configuration of every run is sound. -/
theorem Runs.sound {config : Config (Channel α) (Callback α) Panic (Op α)} (runs : Runs config) :
    System.ConfigSound .any (exits α) Inv Guarantee Oneshot.channel config := by
  have relies : ∀ op : Op α, Relies (System.contract .any (exits α) Inv Guarantee op)
      (Inv (α := α)) Guarantee (fun _ _ _ => True) := fun op =>
    { enter := fun _ _ inv => inv
      resume := fun _ _ _ _ left => left.2
      panics := fun _ _ _ _ _ => trivial }
  have keeps : ∀ (op : Op α) (channel : Channel α), (system α).legal channel op → True →
      Inv channel → System.Keeps .any (exits α) Inv Guarantee op channel ((system α).prog op)
        channel :=
    fun op channel legal _ inv => perform_keeps (relies op) (fun _ twice => twice) legal inv
  exact System.Reachable.sound .refl (fun _ _ _ => .trans) keeps .initial runs

/-- Whenever user code is in control of a run, the invariant holds. -/
theorem Runs.inv {frames} (runs : Runs (.user channel frames)) : Inv channel := runs.sound.1

/-- Between operations every share belongs to a handle. -/
theorem Runs.shares (runs : Runs (.user channel [])) :
    channel.state.strong = channel.state.handles := by
  have balance := runs.sound.quiescent.balance
  have initially : (Oneshot.channel : Channel α).state.handles = 2 := rfl
  change channel.state.strong + (Oneshot.channel : Channel α).state.handles =
    2 + channel.state.handles at balance
  omega

end Lochan.Oneshot
