import Lochan.Mpmc.Delivery
import Lochan.Mpsc.Delivery

/-!
# What becomes of the item of a send

A send future accounts for its item exactly once, on both channels. It reports that it has
terminated once its result has been returned; on the mpsc channel it does so where no poll
unwinds between committing the result and returning it.
-/

namespace Lochan

open Reentrant

variable {α : Type}

/-! ### What the log says -/

section Log

variable {isOver : Nat → Log α → Prop} {older newer : Log α}

/-- A send that has committed pushes nothing any more. -/
theorem Lawful.pushes_nothing (lawful : Lawful isOver newer) (suffix : older <:+ newer)
    {future : Nat} (committed : Committed future older) (pushed : Pushed future newer) :
    Pushed future older := by
  obtain ⟨events, rfl⟩ := suffix
  induction events with
  | nil => exact pushed
  | cons event rest ih =>
      have lawful' : Lawful isOver (rest ++ older) := lawful.of_suffix (List.suffix_cons ..)
      cases event with
      | pushed sent item =>
          cases sent with
          | none => exact ih lawful' pushed
          | some sent =>
              rcases pushed with rfl | pushed
              · exact absurd (committed.later (List.suffix_append ..)) (lawful.1.2 sent rfl).2.1
              · exact ih lawful' pushed
      | _ => exact ih lawful' pushed

/-- No `expect` fails in a lawful log. -/
theorem Lawful.expects (lawful : Lawful isOver newer) (text : String) :
    .expectFailed text ∉ newer := by
  intro member
  obtain ⟨older, rest, rfl⟩ := List.append_of_mem member
  exact lawful.of_suffix (List.suffix_append ..)

/-- What the log says of a send future: it pushes its own item, at most once, and its polls
return one result, which tells what became of the item. -/
structure AccountsOnce (log : Log α) : Prop where
  pushes : ∀ future item older, .pushed (some future) item :: older <:+ log →
    ¬ Pushed future older ∧ ∀ made, Created future made older → item = made
  returns : ∀ start future waker outcome older,
    .returned start (.pollSend future waker) (.send (.ready outcome)) :: older <:+ log →
      ¬ Resolved (.send future) older ∧ (outcome = .ok () ↔ Pushed future log) ∧
        ∀ error, outcome = .error error → ∀ made, Created future made older → error.item = made
  /-- A poll that finds the result of an earlier one committed, but not returned, returns. -/
  replays : ∀ start future waker result older,
    .returned start (.pollSend future waker) result :: older <:+ log →
      Committed future (past start older) → ¬ Resolved (.send future) (past start older) →
        result.isPending = false
  expects : ∀ text, .expectFailed text ∉ log

/-- A lawful log accounts for each send future once. -/
theorem Lawful.accountsOnce (lawful : Lawful isOver newer) : AccountsOnce newer where
  pushes := by
    intro future item older suffix
    obtain ⟨fresh, -, own⟩ := (lawful.of_suffix suffix).1.2 future rfl
    exact ⟨fresh, own⟩
  returns := by
    intro start future waker outcome older suffix
    obtain ⟨committed, first, accepts, unsent⟩ := (lawful.of_suffix suffix).1.2
    have before : older <:+ newer := (List.suffix_cons ..).trans suffix
    have same : Pushed future older ↔ Pushed future newer :=
      ⟨(·.later before), lawful.pushes_nothing before committed⟩
    refine ⟨first, ?_, unsent⟩
    rw [← same, ← accepts]
    cases outcome with
    | ok _ => exact iff_of_true rfl rfl
    | error error => exact iff_of_false (by rintro ⟨⟩) (by rintro ⟨⟩)
  replays := by
    intro start future waker result older suffix
    exact (lawful.of_suffix suffix).1.1.2
  expects := lawful.expects

/-- A send future is reported to have terminated once a poll of it has returned its result. -/
def ReportsInTime (log : Log α) : Prop :=
  ∀ start future older, .returned start (.sendIsTerminated future) (.bool true) :: older <:+ log →
    Resolved (.send future) older

end Log

/-! ### The futures -/

/-- What a live send future still holds. -/
structure Send.Keeps (send : Send α) (future : Nat) (log : Log α) : Prop where
  /-- A send that is not done holds its item. -/
  unsent : send.done = false → ∃ item, send.item = some item ∧
    ∀ made, Created future made log → item = made
  /-- A result that waits to be returned tells what became of the item. -/
  stored : ∀ outcome, send.outcome = some outcome → send.done = true ∧ Accounts future outcome log

/-- The channel in which a poll has returned the result that an earlier one had committed. -/
def Mpmc.replayed (channel : Mpmc.Channel α) (future : Nat) (waker : Waker)
    (outcome : Except (SendError α) Unit) : Mpmc.Channel α :=
  ((channel.logged (.began (.pollSend future waker))).onState
    (·.updateSend future fun this => { this with outcome := none })).logged
    (.returned channel.log.length (.pollSend future waker) (.send (.ready outcome)))

/-- An mpsc channel after the poll of a send future that still had to give out its outcome. -/
def Mpsc.replayed (channel : Mpsc.Channel α) (future : Nat) (waker : Waker)
    (outcome : Except (SendError α) Unit) : Mpsc.Channel α :=
  ((channel.logged (.began (.pollSend future waker))).onState
    (·.updateSend future fun this => { this with outcome := none })).logged
    (.returned channel.log.length (.pollSend future waker) (.send (.ready outcome)))

/-- A committed result is returned by the next poll, which runs no user code and pushes nothing. -/
theorem Mpmc.replays {channel : Mpmc.Channel α} {future : Nat} {this : Send α}
    {outcome : Except (SendError α) Unit} (found : channel.state.sends future = some this)
    (stored : this.outcome = some outcome) (waker : Waker) (count : Nat) :
    (Mpmc.perform (.pollSend future waker)).exec count channel =
      .returned () (Mpmc.replayed channel future waker outcome) := by
  apply Prog.exec_quiet
  have found' : (Mpmc.inUse (channel.logged (.began (.pollSend future waker)))
      (.send future)).state.sends
      future = some this := found
  rw [Mpmc.wp_perform, Mpmc.body]
  simp only [Prog.wp_bind, Mpmc.wp_holding, Mpmc.SendFuture.poll, wp_getState, found', stored]
  refine ⟨trivial, ?_⟩
  simp [Mpmc.replayed, World.onState, World.logged, Mpmc.State.updateSend]

/-- A poll of a send future that still has its outcome gives it out, and does no more. -/
theorem Mpsc.replays {channel : Mpsc.Channel α} {future : Nat} {this : Send α}
    {outcome : Except (SendError α) Unit} (found : channel.state.sends future = some this)
    (stored : this.outcome = some outcome) (waker : Waker) (count : Nat) :
    (Mpsc.perform (.pollSend future waker)).exec count channel =
      .returned () (Mpsc.replayed channel future waker outcome) := by
  apply Prog.exec_quiet
  have found' : (Mpsc.inUse (channel.logged (.began (.pollSend future waker)))
      (.send future)).state.sends
      future = some this := found
  rw [Mpsc.wp_perform, Mpsc.body]
  simp only [Prog.wp_bind, Mpsc.wp_holding, Mpsc.SendFuture.poll, wp_getState, found', stored]
  refine ⟨trivial, ?_⟩
  simp [Mpsc.replayed, World.onState, World.logged, Mpsc.State.updateSend]

/-- A live mpmc send future holds what the log says of it. -/
theorem Mpmc.Inv.keeps {manners : Mpmc.Manners} {channel : Mpmc.Channel α}
    (inv : Mpmc.Inv manners channel) {future : Nat} {this : Send α}
    (found : channel.state.sends future = some this) : this.Keeps future channel.log where
  unsent running := by
    obtain ⟨present, -, -, own⟩ := inv.core.futures.unsent future this found running
    obtain ⟨item, held⟩ := Option.isSome_iff_exists.mp present
    exact ⟨item, held, fun made created => Option.some.inj (held.symm.trans (own made created))⟩
  stored outcome stored := by
    refine ⟨eq_true_of_ne_false fun running => ?_,
      inv.core.futures.outcome future this outcome found stored⟩
    cases (inv.core.futures.unsent future this found running).2.1.symm.trans stored

/-- A live mpsc send future holds what the log says of it. -/
theorem Mpsc.Inv.keeps {manners : Mpsc.Manners} {channel : Mpsc.Channel α}
    (inv : Mpsc.Inv manners channel) {future : Nat} {this : Send α}
    (found : channel.state.sends future = some this) : this.Keeps future channel.log where
  unsent running := by
    obtain ⟨present, -, -, own⟩ := inv.futures.unsent future this found running
    obtain ⟨item, held⟩ := Option.isSome_iff_exists.mp present
    exact ⟨item, held, fun made created => Option.some.inj (held.symm.trans (own made created))⟩
  stored outcome stored := by
    refine ⟨eq_true_of_ne_false fun running => ?_,
      inv.futures.outcome future this outcome found stored⟩
    cases (inv.futures.unsent future this found running).2.1.symm.trans stored

/-- Between its polls a committed send has no result stored once that was returned. -/
theorem Mpmc.Inv.returned_iff {manners : Mpmc.Manners} {channel : Mpmc.Channel α}
    (inv : Mpmc.Inv manners channel) {future : Nat} {this : Send α}
    (found : channel.state.sends future = some this) (free : .send future ∉ channel.state.uses)
    (committed : Committed future channel.log) :
    this.outcome = none ↔ Resolved (.send future) channel.log := by
  refine inv.core.futures.answered future this found free (eq_true_of_ne_false fun running => ?_)
  exact (inv.core.futures.unsent future this found running).2.2.1 committed

/-- A committed mpsc send future has given out its outcome if and only if a poll returned it. -/
theorem Mpsc.Inv.returned_iff {manners : Mpsc.Manners} {channel : Mpsc.Channel α}
    (inv : Mpsc.Inv manners channel) {future : Nat} {this : Send α}
    (found : channel.state.sends future = some this) (free : .send future ∉ channel.state.uses)
    (committed : Committed future channel.log) :
    this.outcome = none ↔ Resolved (.send future) channel.log := by
  refine inv.futures.answered future this found free (eq_true_of_ne_false fun running => ?_)
  exact (inv.futures.unsent future this found running).2.2.1 committed

/-! ### Every run -/

/-- What holds of the sends of an mpmc channel. -/
structure Mpmc.Accountable (channel : Mpmc.Channel α) : Prop where
  log : AccountsOnce channel.log
  keeps : ∀ future this, channel.state.sends future = some this → this.Keeps future channel.log
  stores : ∀ future this, channel.state.sends future = some this →
    .send future ∉ channel.state.uses → Committed future channel.log →
      ¬ Resolved (.send future) channel.log → this.outcome ≠ none
  replays : ∀ future this outcome waker count, channel.state.sends future = some this →
    this.outcome = some outcome → (Mpmc.perform (.pollSend future waker)).exec count channel =
      .returned () (Mpmc.replayed channel future waker outcome)

/-- What holds of the sends of an mpsc channel. -/
structure Mpsc.Accountable (channel : Mpsc.Channel α) : Prop where
  log : AccountsOnce channel.log
  keeps : ∀ future this, channel.state.sends future = some this → this.Keeps future channel.log
  stores : ∀ future this, channel.state.sends future = some this →
    .send future ∉ channel.state.uses → Committed future channel.log →
      ¬ Resolved (.send future) channel.log → this.outcome ≠ none
  replays : ∀ future this outcome waker count, channel.state.sends future = some this →
    this.outcome = some outcome → (Mpsc.perform (.pollSend future waker)).exec count channel =
      .returned () (Mpsc.replayed channel future waker outcome)

/-- On both channels a send future accounts for its item exactly once, whatever the callbacks do:
it holds the item until it commits a result, pushes it at most once, returns one result that
tells whether it did, and returns a result it has committed with the next poll. -/
theorem sends_account_for_their_items :
    (∀ (fresh channel : Mpmc.Channel α) frames, Mpmc.New fresh →
      Mpmc.Runs .any fresh (.user channel frames) → Mpmc.Accountable channel) ∧
    ∀ (fresh channel : Mpsc.Channel α) frames, Mpsc.New fresh →
      Mpsc.Runs .any fresh (.user channel frames) → Mpsc.Accountable channel := by
  constructor
  · intro fresh channel frames new runs
    have inv := runs.inv .none new
    exact
      { log := inv.core.books.lawful.accountsOnce
        keeps := fun _ _ => inv.keeps
        stores := fun _ _ found free committed => mt (inv.returned_iff found free committed).mp
        replays := fun _ _ _ waker count found stored => Mpmc.replays found stored waker count }
  · intro fresh channel frames new runs
    have inv := runs.inv new
    exact
      { log := inv.books.lawful.accountsOnce
        keeps := fun _ _ => inv.keeps
        stores := fun _ _ found free committed => mt (inv.returned_iff found free committed).mp
        replays := fun _ _ _ waker count found stored => Mpsc.replays found stored waker count }

/-- On both channels a parked receiver panics when a send wakes it, and the next poll of the send
returns the result. -/
theorem sends_account_for_their_items_replayed :
    (∃ channel : Mpmc.Channel Nat, Mpmc.Runs .any Mpmc.unbounded (.user channel []) ∧
      Resolved (.send 2) channel.log ∧ panics channel.log = [.wake .receivers 5] ∧
      Mpmc.Accountable channel) ∧
    ∃ channel : Mpsc.Channel Nat, Mpsc.Runs .any Mpsc.unbounded (.user channel []) ∧
      Resolved (.send 2) channel.log ∧ panics channel.log = [.wake .receivers 5] ∧
      Mpsc.Accountable channel := by
  have mpmc : ∃ channel : Mpmc.Channel Nat, (Mpmc.system Nat).play 4
      [.call (.pollNext 1 5), .leave (.ok ()), .call (.send 0 7), .call (.pollSend 2 6),
        .leave (.error (.message "woken")), .call (.pollSend 2 6)]
      (.user Mpmc.unbounded []) = some (.user channel []) ∧
      Resolved (.send 2) channel.log ∧ panics channel.log = [.wake .receivers 5] :=
    ⟨_, rfl, .inl ⟨⟨_, rfl⟩, rfl⟩, rfl⟩
  have mpsc : ∃ channel : Mpsc.Channel Nat, (Mpsc.system Nat).play 4
      [.call (.pollNext 1 5), .leave (.ok ()), .call (.send 0 7), .call (.pollSend 2 6),
        .leave (.error (.message "woken")), .call (.pollSend 2 6)]
      (.user Mpsc.unbounded []) = some (.user channel []) ∧
      Resolved (.send 2) channel.log ∧ panics channel.log = [.wake .receivers 5] :=
    ⟨_, rfl, .inl ⟨⟨_, rfl⟩, rfl⟩, rfl⟩
  obtain ⟨channel, played, returned, panicked⟩ := mpmc
  obtain ⟨channel', played', returned', panicked'⟩ := mpsc
  have runs : Mpmc.Runs .any Mpmc.unbounded (.user channel []) := .played _ played
  have runs' : Mpsc.Runs .any Mpsc.unbounded (.user channel' []) := .played _ played'
  exact ⟨⟨channel, runs, returned, panicked,
      sends_account_for_their_items.1 _ _ _ .unbounded runs⟩,
    channel', runs', returned', panicked',
    sends_account_for_their_items.2 _ _ _ .unbounded runs'⟩

/-- The channel in which a send future was reported to have terminated, or not. -/
def Mpsc.reported (channel : Mpsc.Channel α) (future : Nat) (isOver : Bool) : Mpsc.Channel α :=
  (channel.logged (.began (.sendIsTerminated future))).logged
    (.returned channel.log.length (.sendIsTerminated future) (.bool isOver))

/-- An mpsc send future reports its flag. -/
theorem Mpsc.reports {channel : Mpsc.Channel α} {future : Nat} {this : Send α}
    (found : channel.state.sends future = some this) (count : Nat) :
    (Mpsc.perform (.sendIsTerminated future)).exec count channel =
      .returned () (Mpsc.reported channel future this.done) := by
  apply Prog.exec_quiet
  rw [Mpsc.wp_perform, Mpsc.body]
  simp only [Prog.wp_bind, Mpsc.SendFuture.isTerminated, wp_getState, World.logged_state, found]
  exact ⟨trivial, rfl⟩

/-- A send future is reported to have terminated only after a poll of it has returned its result:
on the mpmc channel whatever the callbacks do, on the mpsc channel if nothing panics in a poll
that has committed. The mpsc report, which tells whether a result was committed, is right about
a future exactly if it stores no result that is yet to be returned. -/
theorem termination_follows_the_result :
    (∀ (fresh channel : Mpmc.Channel α) frames, Mpmc.New fresh →
      Mpmc.Runs .any fresh (.user channel frames) → ReportsInTime channel.log) ∧
    (∀ policy (fresh channel : Mpsc.Channel α) frames, Mpsc.Faithful policy → Mpsc.New fresh →
      Mpsc.Runs policy fresh (.user channel frames) → ReportsInTime channel.log) ∧
    ∀ policy (fresh channel : Mpsc.Channel α) frames, Mpsc.New fresh →
      Mpsc.Runs policy fresh (.user channel frames) →
      ∀ future this, channel.state.sends future = some this → .send future ∉ channel.state.uses →
        (∀ count, (Mpsc.perform (.sendIsTerminated future)).exec count channel =
          .returned () (Mpsc.reported channel future this.done)) ∧
        ((this.done = true → Resolved (.send future) channel.log) ↔ this.outcome = none) := by
  refine ⟨?_, ?_, ?_⟩
  · intro fresh channel frames new runs start future older suffix
    exact ((runs.inv .none new).core.books.lawful.of_suffix suffix).1.2
  · intro policy fresh channel frames faithful new runs start future older suffix
    exact ((runs.inv new).books.lawful.of_suffix suffix).1.2.2 faithful
  · intro policy fresh channel frames new runs future this found free
    have futures := (runs.inv new).futures
    refine ⟨Mpsc.reports found, ?_⟩
    cases done : this.done with
    | false => exact iff_of_true (by rintro ⟨⟩) (futures.unsent future this found done).2.1
    | true =>
        rw [futures.answered future this found free done]
        exact ⟨fun told => told rfl, fun returned _ => returned⟩

/-- The waker of a parked receiver panics when an mpmc send has committed: the future has not
terminated until a second poll returns the result. An mpsc send wakes the receiver and returns. -/
theorem termination_follows_the_result_returned :
    (∃ channel : Mpmc.Channel Nat, Mpmc.Runs .any Mpmc.unbounded (.user channel []) ∧
      panics channel.log = [.wake .receivers 5] ∧
      (∃ start later, [.returned later (.sendIsTerminated 2) (.bool true),
        .returned start (.sendIsTerminated 2) (.bool false)].Sublist channel.log) ∧
      ReportsInTime channel.log) ∧
    ∃ channel : Mpsc.Channel Nat, Mpsc.Runs .panicFree Mpsc.unbounded (.user channel []) ∧
      (∃ start, .returned start (.sendIsTerminated 2) (.bool true) ∈ channel.log) ∧
      ReportsInTime channel.log := by
  have mpmc : ∃ channel : Mpmc.Channel Nat, (Mpmc.system Nat).play 4
      [.call (.pollNext 1 5), .leave (.ok ()), .call (.send 0 7), .call (.pollSend 2 6),
        .leave (.error (.message "woken")), .call (.sendIsTerminated 2), .call (.pollSend 2 6),
        .call (.sendIsTerminated 2)]
      (.user Mpmc.unbounded []) = some (.user channel []) ∧
      panics channel.log = [.wake .receivers 5] ∧
      ∃ start later, [.returned later (.sendIsTerminated 2) (.bool true),
        .returned start (.sendIsTerminated 2) (.bool false)].Sublist channel.log :=
    ⟨_, rfl, rfl, _, _,
      .cons_cons _ (.cons _ (.cons _ (.cons _ (.cons_cons _ (List.nil_sublist _)))))⟩
  have mpsc : ∃ channel : Mpsc.Channel Nat, (Mpsc.system Nat).play 4
      [.call (.pollNext 1 5), .leave (.ok ()), .call (.send 0 7), .call (.pollSend 2 6),
        .leave (.ok ()), .call (.sendIsTerminated 2)]
      (.user Mpsc.unbounded []) = some (.user channel []) ∧
      ∃ start, .returned start (.sendIsTerminated 2) (.bool true) ∈ channel.log :=
    ⟨_, rfl, _, List.mem_cons_self⟩
  obtain ⟨channel, played, panicked, reported⟩ := mpmc
  obtain ⟨channel', played', reported'⟩ := mpsc
  have runs : Mpmc.Runs .any Mpmc.unbounded (.user channel []) := .played _ played
  have runs' : Mpsc.Runs .panicFree Mpsc.unbounded (.user channel' []) :=
    .playedCalm played' (by simp)
  have faithful : Mpsc.Faithful (Policy.panicFree : Policy (Mpsc.Channel Nat) _ _ _) := by
    intro future waker code payload after admitted
    cases admitted
  exact ⟨⟨channel, runs, panicked, reported,
      termination_follows_the_result.1 _ _ _ .unbounded runs⟩,
    channel', runs', reported',
    termination_follows_the_result.2.1 _ _ _ _ faithful .unbounded runs'⟩

/-- A parked receiver panics when a send on an mpsc channel wakes it, and the future is reported to
have terminated, though it stores the result, which no poll has returned. -/
theorem terminates_before_the_result : ∃ channel : Mpsc.Channel Nat,
    Mpsc.Runs .any Mpsc.unbounded (.user channel []) ∧ panics channel.log = [.wake .receivers 5] ∧
      ((channel.state.sends 2).bind Send.outcome).isSome = true ∧ ¬ ReportsInTime channel.log := by
  have played : ∃ channel : Mpsc.Channel Nat, (Mpsc.system Nat).play 4
      [.call (.pollNext 1 5), .leave (.ok ()), .call (.send 0 7), .call (.pollSend 2 6),
        .leave (.error (.message "woken")), .call (.sendIsTerminated 2)]
      (.user Mpsc.unbounded []) = some (.user channel []) ∧
      panics channel.log = [.wake .receivers 5] ∧
      ((channel.state.sends 2).bind Send.outcome).isSome = true ∧
      ∃ start older, channel.log = .returned start (.sendIsTerminated 2) (.bool true) :: older ∧
        ¬ Resolved (.send 2) older :=
    ⟨_, rfl, rfl, rfl, _, _, rfl, by simp [Resolved, Op.polls, Mpsc.unbounded, Mpsc.start]⟩
  obtain ⟨channel, played, panicked, stored, start, older, reports, unresolved⟩ := played
  refine ⟨channel, .played _ played, panicked, stored, fun inTime => ?_⟩
  exact unresolved (inTime start 2 older (reports ▸ List.suffix_refl _))

end Lochan
