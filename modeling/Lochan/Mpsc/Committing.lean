import Lochan.Mpsc.Sending

/-!
# The send future of an mpsc channel

A poll pushes the message, fails, or parks the future. Its outcome is committed before
anything else runs; then the registration of the future is removed, and the receiver is told
of a push last.
-/

namespace Lochan.Mpsc

open Reentrant Queue

variable {α : Type} {manners : Manners} {own : Option Owner} {base channel after : Channel α}
  {future : Nat}

/-! ### Changes to a send future -/

namespace State

variable {state : State α} {change : Send α → Send α}

/-- Two changes of one future are one change. -/
theorem updateSend_updateSend {later : Send α → Send α} :
    (state.updateSend future change).updateSend future later =
      state.updateSend future (later ∘ change) := by
  simp [updateSend, Function.comp_def]

/-- A change that changes nothing leaves the state as it is. -/
theorem updateSend_self {this : Send α} (found : state.sends future = some this)
    (same : change this = this) : state.updateSend future change = state := by
  have sends : Function.update state.sends future ((state.sends future).map change) =
      state.sends := by
    rw [found, Option.map_some, same, ← found, Function.update_eq_self]
  unfold updateSend
  rw [sends]

/-- The changed future is the one that is found. -/
theorem sends_updateSend {this : Send α} (found : state.sends future = some this) :
    (state.updateSend future change).sends future = some (change this) := by
  simp [updateSend, found]

/-- The futures beside the changed one stay. -/
theorem sends_other {key : Nat} (other : key ≠ future) :
    (state.updateSend future change).sends key = state.sends key := by
  simp [updateSend, other]

/-- The ids beside the changed one stay. -/
theorem idOf_other {key : Nat} (other : key ≠ future) :
    (state.updateSend future change).idOf key = state.idOf key := by
  simp [idOf, sends_other other]

/-- A change of a future ends no reference. -/
theorem refLive_updateSend {ref : Ref} (live : state.RefLive ref) :
    (state.updateSend future change).RefLive ref := by
  cases ref with
  | send key =>
      by_cases same : key = future
      · subst same
        obtain ⟨this, found⟩ := Option.isSome_iff_exists.mp live
        simp [RefLive, sends_updateSend found]
      · simpa [RefLive, sends_other same] using live
  | _ => exact live

end State

/-- The channel with a change to a send future. -/
abbrev amended (channel : Channel α) (future : Nat) (change : Send α → Send α) : Channel α :=
  channel.onState (·.updateSend future change)

section Amend

variable {change : Send α → Send α}

/-- A change that keeps the sender of a future keeps the handles in order. -/
theorem Handles.amend (handles : Handles channel)
    (keeps : ∀ this, (change this).sender = this.sender) :
    Handles (amended channel future change) :=
  { handles with
    send := by
      intro key this present
      by_cases same : key = future
      · subst same
        cases found : channel.state.sends key with
        | none => simp [State.updateSend, found] at present
        | some that =>
            obtain rfl := Option.some.inj ((State.sends_updateSend found).symm.trans present)
            rw [keeps]
            exact handles.send key that found
      · exact handles.send key this ((State.sends_other same).symm.trans present)
    uses := fun ref used => State.refLive_updateSend (handles.uses ref used) }

/-- A change of a future is a step its own poll may make. -/
theorem Evolves.amend : Evolves manners (some (.send future)) channel
    (amended channel future change) := by
  have same : Evolves manners (some (.send future)) channel channel := .refl channel
  exact { same with
    sends := fun key _ other => State.sends_other fun same => other (same ▸ rfl)
    reserved := fun _ _ => { Reserved.refl channel with waker := .inl rfl }
    missing := fun _ _ _ missing => { missing with } }

/-- A change of a future keeps the promises of its own poll. -/
theorem Guarantee.amend : Guarantee manners (some (.send future)) channel
    (amended channel future change) where
  evolves := .amend
  tally := ⟨rfl, (Tally.refl channel).emptied, fun _ rejecting _ member => ⟨rejecting, member⟩⟩
  retained _ := id
  exposed _ _ _ exposed := .inl { exposed with }

/-- Giving out the outcome. -/
theorem Inv.replay (inv : Inv manners channel) (used : .send future ∈ channel.state.uses) :
    Inv manners (amended channel future fun this => { this with outcome := none }) := by
  obtain ⟨held, books, handles, futures, registry⟩ := inv
  have back : ∀ key this,
      (channel.state.updateSend future fun this => { this with outcome := none }).sends key =
        some this →
      ∃ that, channel.state.sends key = some that ∧ this.done = that.done ∧
        this.item = that.item ∧ this.wakerId = that.wakerId ∧
        (this.outcome = none ∨ this.outcome = that.outcome) := by
    intro key this present
    by_cases same : key = future
    · subst same
      cases found : channel.state.sends key with
      | none => simp [State.updateSend, found] at present
      | some that =>
          obtain rfl := Option.some.inj ((State.sends_updateSend found).symm.trans present)
          exact ⟨that, rfl, rfl, rfl, rfl, .inl rfl⟩
    · exact ⟨this, (State.sends_other same).symm.trans present, rfl, rfl, rfl, .inr rfl⟩
  have ids : (channel.state.updateSend future fun this => { this with outcome := none }).idOf =
      channel.state.idOf := by
    funext key
    by_cases same : key = future
    · subst same
      cases found : channel.state.sends key <;> simp [State.idOf, State.updateSend, found]
    · exact State.idOf_other same
  have books' : Books manners
      (amended channel future fun this => { this with outcome := none }) := { books with }
  refine ⟨held, books', handles.amend fun _ => rfl, ?_, registry.next, ?_, ?_⟩
  · exact { futures with
      unsent := by
        intro key this present running
        obtain ⟨that, found, done, item, -, none | outcome⟩ := back key this present
        · obtain ⟨some, -, fresh, made⟩ := futures.unsent key that found (done ▸ running)
          rw [item]
          exact ⟨some, none, fresh, made⟩
        · obtain ⟨some, none, fresh, made⟩ := futures.unsent key that found (done ▸ running)
          rw [item, outcome]
          exact ⟨some, none, fresh, made⟩
      sent := by
        intro key this present done
        obtain ⟨that, found, same, -, id, -⟩ := back key this present
        rw [id]
        exact futures.sent key that found (same ▸ done)
      outcome := by
        intro key this result present outcome
        obtain ⟨that, found, -, -, -, none | same⟩ := back key this present
        · exact nomatch none.symm.trans outcome
        · exact futures.outcome key that result found (same ▸ outcome)
      answered := by
        intro key this present free
        have other : key ≠ future := fun same => free (same ▸ used)
        exact futures.answered key this ((State.sends_other other).symm.trans present) free }
  · intro fits
    have sound := registry.tickets fits
    unfold ledger at sound ⊢
    rw [show (amended channel future _).state.idOf = _ from ids]
    exact sound
  · intro fits entry member
    rw [show (amended channel future _).state.idOf = _ from ids]
    exact registry.owned fits entry member

end Amend

/-! ### Taking a registration out of its future -/

/-- The id that was set is the one that is found. -/
theorem State.idOf_setWakerId {state : State α} {this : Send α} {id : Option UInt64}
    (found : state.sends future = some this) : (state.setWakerId id future).idOf future = id := by
  simp [idOf, setWakerId, updateSend, found]

/-- Whoever takes the registration of a send future still has to remove its entry. -/
theorem Registry.taken (registry : Registry channel) (future : Nat)
    (chan : after.state.chan = channel.state.chan)
    (ids : after.state.idOf = Function.update channel.state.idOf future none)
    (same : ∀ side, registrations side after.log = registrations side channel.log)
    (held : after.held = []) (books : Books manners after) (handles : Handles after)
    (futures : Futures manners after) : Giving manners after (channel.state.idOf future) := by
  have fits : Fits after.log → Fits channel.log := fun fits side => same side ▸ fits side
  refine ⟨held, books, handles, futures, ?_, ?_, ?_⟩
  · rw [chan, same]
    exact registry.next
  · intro fits'
    have sound := registry.tickets (fits fits')
    unfold ledger at sound ⊢
    rw [chan, same, ids]
    refine sound.release fun owner id holds => ?_
    by_cases here : owner = future
    · subst here
      simp at holds
    · simpa [here] using holds
  · intro fits' entry member other
    rw [chan] at member
    obtain ⟨owner, holds⟩ := registry.owned (fits fits') entry member
    have elsewhere : owner ≠ future := by
      rintro rfl
      exact other holds
    exact ⟨owner, by rw [ids]; simpa [elsewhere] using holds⟩

/-- The ids of a state in which a send future lost its registration. -/
theorem State.idOf_cleared {state : State α} {change : Send α → Send α}
    (clears : ∀ this, (change this).wakerId = none) :
    (state.updateSend future change).idOf = Function.update state.idOf future none := by
  funext key
  by_cases same : key = future
  · subst same
    cases found : state.sends key <;> simp [idOf, updateSend, found, clears]
  · simp [State.idOf_other same, same]

/-- Taking the id of a future leaves it to be given up. -/
theorem Inv.take (inv : Inv manners channel) (future : Nat) :
    Giving manners (channel.onState (·.setWakerId none future)) (channel.state.idOf future) := by
  obtain ⟨held, books, handles, futures, registry⟩ := inv
  have back : ∀ key this, (channel.state.setWakerId none future).sends key = some this →
      ∃ that, channel.state.sends key = some that ∧ this.done = that.done ∧
        this.item = that.item ∧ this.outcome = that.outcome ∧
        (this.wakerId = none ∨ this.wakerId = that.wakerId) := by
    intro key this present
    unfold State.setWakerId at present
    by_cases same : key = future
    · subst same
      cases found : channel.state.sends key with
      | none => simp [State.updateSend, found] at present
      | some that =>
          obtain rfl := Option.some.inj ((State.sends_updateSend found).symm.trans present)
          exact ⟨that, rfl, rfl, rfl, rfl, .inl rfl⟩
    · exact ⟨this, (State.sends_other same).symm.trans present, rfl, rfl, rfl, .inr rfl⟩
  refine registry.taken future rfl (State.idOf_cleared fun _ => rfl) (fun _ => rfl) held
    { books with } (handles.amend fun _ => rfl) ?_
  exact { futures with
    unsent := by
      intro key this present running
      obtain ⟨that, found, done, item, outcome, -⟩ := back key this present
      rw [item, outcome]
      exact futures.unsent key that found (done ▸ running)
    sent := by
      intro key this present done
      obtain ⟨that, found, same, -, -, cleared⟩ := back key this present
      obtain ⟨none, committed⟩ := futures.sent key that found (same ▸ done)
      exact ⟨cleared.elim id fun kept => kept.trans none, committed⟩
    outcome := by
      intro key this result present outcome
      obtain ⟨that, found, -, -, same, -⟩ := back key this present
      exact futures.outcome key that result found (same ▸ outcome)
    answered := by
      intro key this present free done
      obtain ⟨that, found, same, -, outcome, -⟩ := back key this present
      rw [outcome]
      exact futures.answered key that found free (same ▸ done) }

/-! ### Committing an outcome -/

/-- A send future that has committed an outcome. -/
def settle (result : Except (SendError α) Unit) (this : Send α) : Send α :=
  { this with item := none, done := true, wakerId := none, outcome := some result }

/-- The channel in which a send future has committed an outcome. -/
abbrev settled (channel : Channel α) (future : Nat) (result : Except (SendError α) Unit) :
    Channel α :=
  (amended channel future (settle result)).logged (.committed future result.toBool)

/-- What becomes of the message of a send future, before the outcome is committed. -/
structure Attempted (channel : Channel α) (future : Nat) (result : Except (SendError α) Unit)
    (after : Channel α) : Prop where
  sends : after.state.sends = channel.state.sends
  uses : after.state.uses = channel.state.uses
  fresh : after.state.fresh = channel.state.fresh
  pushed : ∀ key, Pushed key after.log ↔
    Pushed key channel.log ∨ key = future ∧ result.toBool = true
  committed : ∀ key, Committed key after.log ↔ Committed key channel.log
  created : ∀ key item, Created key item after.log ↔ Created key item channel.log
  resolved : ∀ owner, Resolved owner after.log ↔ Resolved owner channel.log
  owed : ∀ key, key ≠ future → owed key after.log = owed key channel.log

/-- A send that failed attempted no more than that. -/
theorem Attempted.failed (item : α) :
    Attempted channel future (.error ⟨item⟩) channel where
  sends := rfl
  uses := rfl
  fresh := rfl
  pushed _ := by simp [Except.toBool]
  committed _ := .rfl
  created _ _ := .rfl
  resolved _ := .rfl
  owed _ _ := rfl

/-- A send that pushed attempted the push. -/
theorem Attempted.pushes (flavor : Flavor α) (item : α) :
    Attempted channel future (.ok ()) (Mpsc.pushed channel flavor (some future) item) where
  sends := rfl
  uses := rfl
  fresh := rfl
  pushed key := by
    simp [Pushed, Except.toBool, eq_comm, or_comm]
  committed _ := .rfl
  created _ _ := .rfl
  resolved _ := .rfl
  owed key other := by simp [Mpsc.owed, Ne.symm other]

section Settle

variable {result : Except (SendError α) Unit} {this : Send α}

/-- Settling a future keeps the futures in order, if it says what was attempted. -/
theorem Futures.settle (futures : Futures manners channel)
    (attempted : Attempted channel future result after) (used : .send future ∈ channel.state.uses)
    (found : channel.state.sends future = some this) (running : this.done = false)
    (below : future < channel.state.fresh)
    (returned : ∀ error, result = .error error → this.item = some error.item) :
    Futures manners (settled after future result) := by
  obtain ⟨-, -, uncommitted, made⟩ := futures.unsent future this found running
  have unpushed : ¬ Pushed future channel.log := fun pushed =>
    uncommitted (futures.pushed future pushed)
  have here : (settled after future result).state.sends future = some (Mpsc.settle result this) :=
    State.sends_updateSend (attempted.sends ▸ found)
  have there : ∀ {key}, key ≠ future →
      (settled after future result).state.sends key = channel.state.sends key :=
    fun other => (State.sends_other other).trans (congrFun attempted.sends _)
  have fresh : (settled after future result).state.fresh = channel.state.fresh := attempted.fresh
  have uses : (settled after future result).state.uses = channel.state.uses := attempted.uses
  have commits : ∀ key, Committed key (settled after future result).log ↔
      future = key ∨ Committed key channel.log :=
    fun key => or_congr_right (attempted.committed key)
  refine ⟨?_, ?_, ?_, ?_, ?_, ?_, ?_, ?_, ?_, ?_⟩
  · intro key other present unfinished
    by_cases same : key = future
    · subst same
      obtain rfl := Option.some.inj (here.symm.trans present)
      cases unfinished
    · obtain ⟨some, none, fresh, made⟩ :=
        futures.unsent key other ((there same).symm.trans present) unfinished
      refine ⟨some, none, fun committed => ?_, fun item created => ?_⟩
      · exact ((commits key).mp committed).elim (fun mine => same mine.symm) fresh
      · exact made item ((attempted.created key item).mp created)
  · intro key other present done
    by_cases same : key = future
    · subst same
      obtain rfl := Option.some.inj (here.symm.trans present)
      exact ⟨rfl, .inl rfl⟩
    · obtain ⟨idle, committed⟩ := futures.sent key other ((there same).symm.trans present) done
      exact ⟨idle, (commits key).mpr (.inr committed)⟩
  · intro key other outcome present stored
    by_cases same : key = future
    · subst same
      obtain rfl := Option.some.inj (here.symm.trans present)
      obtain rfl : result = outcome := Option.some.inj stored
      refine ⟨?_, fun error fails item created => ?_⟩
      · refine Iff.trans ?_ (attempted.pushed key).symm
        simp [unpushed]
      · have held := returned error fails
        have same := made item ((attempted.created key item).mp created)
        exact Option.some.inj (held.symm.trans same)
    · obtain ⟨exactly, carries⟩ :=
        futures.outcome key other outcome ((there same).symm.trans present) stored
      refine ⟨exactly.trans ?_, fun error fails item created => ?_⟩
      · refine Iff.trans ?_ (attempted.pushed key).symm
        simp [same]
      · exact carries error fails item ((attempted.created key item).mp created)
  · intro key pushed
    rcases (attempted.pushed key).mp pushed with before | ⟨rfl, -⟩
    · exact (commits key).mpr (.inr (futures.pushed key before))
    · exact (commits key).mpr (.inl rfl)
  · intro key resolved
    exact (commits key).mpr (.inr (futures.resolved key ((attempted.resolved _).mp resolved)))
  · intro key other present free done
    rw [uses] at free
    have same : key ≠ future := fun same => free (same ▸ used)
    exact (futures.answered key other ((there same).symm.trans present) free done).trans
      (attempted.resolved _).symm
  · intro key item created
    rw [fresh]
    exact futures.created key item ((attempted.created key item).mp created)
  · intro key committed
    rw [fresh]
    rcases (commits key).mp committed with rfl | before
    · exact below
    · exact futures.committed key before
  · intro faithful key free committed
    rw [uses] at free
    rcases (commits key).mp committed with rfl | before
    · exact absurd used free
    · exact (attempted.resolved _).mpr (futures.faithful faithful key free before)
  · intro prompt key free
    rw [uses] at free
    have same : key ≠ future := fun same => free (same ▸ used)
    exact (attempted.owed key same).trans (futures.notified prompt key free)

/-- What goes out stays in step with what came in when a future settles. -/
theorem Books.settle (books : Books manners channel) (uncommitted : ¬ Committed future channel.log)
    (exactly : result.toBool = true ↔ Pushed future channel.log) :
    Books manners (settled channel future result) :=
  { books with lawful := ⟨⟨uncommitted, exactly⟩, books.lawful⟩ }

/-- Settling a future keeps the handles in order. -/
theorem Handles.settle (handles : Handles channel) :
    Handles (Mpsc.settled channel future result) := by
  have amends : Handles (amended channel future (Mpsc.settle result)) := handles.amend fun _ => rfl
  exact { amends with }

/-- Settling a future is a step its own poll may make. -/
theorem Evolves.settle : Evolves manners (some (.send future)) channel
    (settled channel future result) := by
  have same : Evolves manners (some (.send future)) channel
      (amended channel future (Mpsc.settle result)) := .amend
  exact { same with
    log := List.suffix_cons ..
    reserved := fun _ _ => { Reserved.refl channel with waker := .inl rfl }
    committed := fun key _ other committed =>
      committed.elim (fun mine => absurd (mine ▸ rfl) other) id
    missing := fun _ _ _ missing => { missing with } }

end Settle

/-! ### What a poll has done so far -/

/-- What a poll of a send future has done since it started, but for telling the receiver of
its push, and for a registration of its own that is still to be removed. -/
structure Polling (manners : Manners) (future : Nat) (spare : Option UInt64)
    (base channel : Channel α) : Prop where
  evolves : Evolves manners (some (.send future)) base channel
  balance : channel.state.strong + base.state.handles =
    base.state.strong + channel.state.handles
  emptied : base.state.chan.receiverAlive = true → channel.state.chan.receiverAlive = false →
    channel.state.chan.contents = []
  stuck : Fits channel.log → channel.state.chan.rejecting = true →
    ∀ entry ∈ channel.state.chan.sendWakers, spare ≠ some entry.1 →
      base.state.chan.rejecting = true ∧ entry ∈ base.state.chan.sendWakers
  retained : manners.tidy → Retained channel.state.chan → Retained base.state.chan

/-- Nothing has become urgent unheard. -/
def Hushed (manners : Manners) (base channel : Channel α) : Prop :=
  manners.orderly → ∀ owner waker, Exposed channel owner waker →
    Exposed base owner waker ∨ Missing base owner waker

namespace Polling

variable {spare : Option UInt64} {result : Except (SendError α) Unit}

/-- A poll has made the steps that an operation may make. -/
theorem of_guarantee (guarantee : Guarantee manners (some (.send future)) base channel) :
    Polling manners future spare base channel where
  evolves := guarantee.evolves
  balance := guarantee.tally.balance
  emptied := guarantee.tally.emptied
  stuck fits rejecting entry member _ := guarantee.tally.stuck fits rejecting entry member
  retained := guarantee.retained

/-- A poll goes on after whatever a callback does. -/
theorem later (polling : Polling manners future spare base channel)
    (guarantee : Guarantee manners none channel after) :
    Polling manners future spare base after where
  evolves := polling.evolves.trans guarantee.evolves.weaken
  balance := by
    have := polling.balance
    have := guarantee.tally.balance
    omega
  emptied alive gone := by
    cases between : channel.state.chan.receiverAlive with
    | true => exact guarantee.tally.emptied between gone
    | false =>
        have sealed : channel.state.chan.terminal = true := Chan.terminal_iff.mpr (.inl between)
        exact guarantee.evolves.empty sealed (polling.emptied alive between)
  stuck fits rejecting entry member other := by
    obtain ⟨rejecting', member'⟩ := guarantee.tally.stuck fits rejecting entry member
    exact polling.stuck (fits.of_suffix guarantee.evolves.log) rejecting' entry member' other
  retained tidy retained := polling.retained tidy (guarantee.retained tidy retained)

/-- A poll goes on after it settled its future. -/
theorem settle (polling : Polling manners future spare base channel) :
    Polling manners future spare base (settled channel future result) where
  evolves := polling.evolves.trans .settle
  balance := polling.balance
  emptied := polling.emptied
  stuck := polling.stuck
  retained := polling.retained

/-- A poll goes on after it pushed its item. -/
theorem push (polling : Polling manners future spare base channel)
    (isOpen : Open channel.state.chan) {flavor : Flavor α} {item : α}
    (contents : flavor.toList = channel.state.chan.flavor.toList ++ [item]) :
    Polling manners future spare base (pushed channel flavor (some future) item) where
  evolves := polling.evolves.trans (.push contents isOpen fun _ mine => Option.some.inj mine ▸ rfl)
  balance := polling.balance
  emptied _ gone :=
    nomatch (show channel.state.chan.receiverAlive = false from gone).symm.trans isOpen.alive
  stuck := polling.stuck
  retained _ retained := absurd retained.terminal isOpen.unsealed

/-- A poll that withdrew its entry has no id left to give up. -/
theorem queued (polling : Polling manners future spare base channel)
    {rest : List (UInt64 × Waker)} (without : Without channel spare rest) :
    Polling manners future none base (queued channel rest) where
  evolves := polling.evolves.trans (Guarantee.queued without.fewer).evolves
  balance := polling.balance
  emptied := polling.emptied
  stuck fits rejecting entry member _ :=
    polling.stuck fits rejecting entry (without.fewer member) (without.others fits entry member)
  retained tidy retained := polling.retained tidy { retained with }

/-- A poll with no id to give up keeps the count. -/
theorem tally (polling : Polling manners future none base channel) : Tally base channel where
  balance := polling.balance
  emptied := polling.emptied
  stuck fits rejecting entry member := polling.stuck fits rejecting entry member nofun

/-- A poll with no id to give up keeps the promises of an operation. -/
theorem guarantee (polling : Polling manners future none base channel)
    (hushed : Hushed manners base channel) :
    Guarantee manners (some (.send future)) base channel where
  evolves := polling.evolves
  tally := polling.tally
  retained := polling.retained
  exposed := hushed

end Polling

namespace Hushed

/-- A callback leaves nothing urgent unheard. -/
theorem later (hushed : Hushed manners base channel)
    (evolves : Evolves manners own base channel)
    (guarantee : Guarantee manners none channel after) : Hushed manners base after := by
  intro orderly owner waker exposed
  rcases guarantee.exposed orderly owner waker exposed with still | missing
  · exact hushed orderly owner waker still
  · exact .inr (evolves.missing orderly owner waker missing)

/-- Settling a future leaves nothing unheard. -/
theorem settle (hushed : Hushed manners base channel) {result : Except (SendError α) Unit} :
    Hushed manners base (settled channel future result) :=
  fun orderly owner waker exposed => hushed orderly owner waker { exposed with }

/-- Dropping registrations leaves nothing unheard. -/
theorem queued (hushed : Hushed manners base channel) {rest : List (UInt64 × Waker)} :
    Hushed manners base (queued channel rest) :=
  fun orderly owner waker exposed => hushed orderly owner waker { exposed with }

end Hushed

/-! ### Polling -/

/-- What the polls of a send future rely on besides. -/
structure SendSetting (manners : Manners)
    (contract : Prog.Contract (Channel α) (Callback α) Panic)
    (admits : Callback α → Panic → Channel α → Prop) (future : Nat) : Prop
    extends Setting manners contract admits where
  faithful : manners.faithful → ∀ code payload left, admits code payload left →
    ¬ Committed future left.log
  prompt : manners.prompt → ∀ waker before outcome left awaited,
    contract.resume (.dropWaker waker) before outcome left →
    owed future left.log = some awaited →
      outcome = .ok () ∧ left.state.chan.recvWaker = some awaited

/-- A send future has given out its outcome. -/
structure Given (future : Nat) (result : Except (SendError α) Unit)
    (channel : Channel α) : Prop where
  committed : Committed future channel.log
  accounts : Accounts future result channel.log
  given : ∀ this, channel.state.sends future = some this → this.done = true ∧ this.outcome = none

/-- A committed future whose outcome is taken gives what it was settled with. -/
theorem Inv.given {result : Except (SendError α) Unit} {this : Send α} (inv : Inv manners channel)
    (found : channel.state.sends future = some this) (done : this.done = true)
    (outcome : this.outcome = some result) :
    Given future result (amended channel future fun this => { this with outcome := none }) where
  committed := (inv.futures.sent future this found done).2
  accounts := inv.futures.outcome future this result found outcome
  given left present := by
    have given : (channel.state.updateSend future fun this =>
        { this with outcome := none }).sends future = some { this with outcome := none } :=
      State.sends_updateSend found
    obtain rfl := Option.some.inj (given.symm.trans present)
    exact ⟨done, rfl⟩

/-- What is owed to a receiver was pushed. -/
theorem Pushed.of_owed {waker : Waker} {log : Log α} (owes : owed future log = some waker) :
    Pushed future log := by
  induction log with
  | nil => cases owes
  | cons event log ih =>
      cases event with
      | pushed sent item =>
          cases sent with
          | none => exact ih owes
          | some sent =>
              by_cases same : sent = future
              · exact .inl same
              · exact .inr (ih (by simpa [owed, same] using owes))
      | called code => exact ih (owed_called.mp owes).1
      | lastReceiver receiver parked held => cases owes
      | _ => exact ih owes

section Rules

variable {contract : Prog.Contract (Channel α) (Callback α) Panic} {exc : Panic → Channel α → Prop}
  {post : Poll (Except (SendError α) Unit) → Channel α → Prop} {this : Send α}

/-- To commit is to settle the future and to run the effects of the outcome it keeps. -/
theorem wp_commit {result : Except (SendError α) Unit}
    (found : channel.state.sends future = some this)
    (next : (SendFuture.effects future result.toBool this.wakerId).wp contract post exc
      (settled channel future result)) :
    (SendFuture.commit future result).wp contract post exc
      (amended channel future fun this => { this with item := none }) := by
  have held : ((((channel.state.updateSend future fun this =>
      { this with item := none }).updateSend future fun this =>
        { this with done := true, outcome := some result }).sends future).bind Send.wakerId) =
      this.wakerId := by
    rw [State.sends_updateSend (State.sends_updateSend found)]
    rfl
  have same : (((channel.state.updateSend future fun this =>
      { this with item := none }).updateSend future fun this =>
        { this with done := true, outcome := some result }).setWakerId none future) =
      channel.state.updateSend future (settle result) := by
    rw [State.setWakerId, State.updateSend_updateSend, State.updateSend_updateSend]
    rfl
  simp only [SendFuture.commit, SendFuture.update, Prog.wp_bind, wp_modifyState, wp_emit,
    wp_takeWakerId]
  exact cast (congrArg₂ (fun id state =>
    (SendFuture.effects future result.toBool id).wp contract post exc
      ⟨state, channel.held, .committed future result.toBool :: channel.log⟩) held.symm same.symm)
    next

/-- An attempt commits an outcome, or finds the queue full and changes nothing. -/
theorem wp_attemptPush {item : α} {parked : M α (Poll (Except (SendError α) Unit))}
    (clear : channel.held = []) (found : channel.state.sends future = some this)
    (message : this.item = some item)
    (fails : channel.state.chan.rejecting = true →
      (SendFuture.effects future false this.wakerId).wp contract post exc
        (settled channel future (.error ⟨item⟩)))
    (pushes : ∀ flavor : Flavor α, channel.state.chan.rejecting = false →
      channel.state.chan.flavor.isFull = false →
      flavor.toList = channel.state.chan.flavor.toList ++ [item] →
      flavor.cap = channel.state.chan.flavor.cap →
      (SendFuture.effects future true this.wakerId).wp contract post exc
        (settled (pushed channel flavor (some future) item) future (.ok ())))
    (full : channel.state.chan.rejecting = false → channel.state.chan.flavor.isFull = true →
      parked.wp contract post exc channel) :
    (SendFuture.attemptPush future parked).wp contract post exc channel := by
  have taken : (channel.state.sends future).bind Send.item = some item := by
    simp [found, message]
  simp only [SendFuture.attemptPush, SendFuture.takeItem, Prog.wp_bind, wp_getChan, Prog.wp_ite]
  cases rejecting : channel.state.chan.rejecting with
  | true =>
      simp only [↓reduceIte, wp_getState, SendFuture.update, wp_modifyState, taken, wp_expect_some]
      exact wp_commit found (fails rejecting)
  | false =>
      simp only [Bool.false_eq_true, ↓reduceIte, wp_getState, SendFuture.update, wp_modifyState,
        taken, wp_expect_some]
      refine wp_tryPush (show (channel.onState _).held = [] from clear) (fun stays => ?_)
        fun flavor room contents capacity => ?_
      · have restored : ((channel.state.updateSend future fun this =>
            { this with item := none }).updateSend future fun this =>
              { this with item := some item }) = channel.state := by
          rw [State.updateSend_updateSend]
          refine State.updateSend_self found ?_
          obtain ⟨sender, message', done, wakerId, outcome⟩ := this
          obtain rfl : message' = some item := message
          rfl
        simp only [Prog.wp_bind, wp_modifyState]
        exact cast (congrArg (fun state => parked.wp contract post exc
          ⟨state, channel.held, channel.log⟩) restored.symm) (full rejecting stays)
      · have found' : (pushed channel flavor (some future) item).state.sends future = some this :=
          found
        exact wp_commit found' (pushes flavor rejecting room contents capacity)

end Rules

section Functions

variable {contract : Prog.Contract (Channel α) (Callback α) Panic}
  {admits : Callback α → Panic → Channel α → Prop}
  (setting : SendSetting manners contract admits future)
include setting

/-- The effects of a committed outcome: the registration of the future is removed, and the
receiver hears of a pushed item. -/
theorem effects_spec {this : Send α} {result : Except (SendError α) Unit} {id : Option UInt64}
    (giving : Giving manners channel id) (polling : Polling manners future id base channel)
    (hushed : result.toBool = false → Hushed manners base channel)
    (used : .send future ∈ channel.state.uses) (found : channel.state.sends future = some this)
    (done : this.done = true) (outcome : this.outcome = some result)
    (filled : result.toBool = true → channel.state.chan.contents ≠ [])
    (owing : ∀ waker, owed future channel.log = some waker →
      result.toBool = true ∧ channel.state.chan.recvWaker = some waker) :
    (SendFuture.effects future result.toBool id).wp contract
      (fun polled after => Inv manners after ∧
        Guarantee manners (some (.send future)) base after ∧ polled = .ready result ∧
        Given future result after ∧ (manners.prompt → owed future after.log = none))
      (fun _ after => Inv manners after ∧
        Guarantee manners (some (.send future)) base after ∧
        after.state.sends future = some this ∧
        (manners.prompt → owed future after.log = none) ∧ ¬ manners.faithful) channel := by
  have committed : Committed future channel.log := (giving.futures.sent future this found done).2
  -- Whatever panics does so after the commit.
  have loyal : ∀ {code payload left}, admits code payload left →
      channel.log <:+ (left.logged (.panicked code)).log → ¬ manners.faithful := by
    intro code payload left admitted older faithful
    have still : Committed future (left.logged (.panicked code)).log := committed.later older
    exact setting.faithful faithful code payload left admitted still
  have gives : ∀ {last : Channel α}, Inv manners last →
      Guarantee manners (some (.send future)) base last →
      last.state.sends future = some this → .send future ∈ last.state.uses →
      (manners.prompt → owed future last.log = none) →
      (do
        let outcome := ((← getState).sends future).bind Send.outcome
        SendFuture.update future fun this => { this with outcome := none }
        return .ready (← expect "committed outcome" outcome) :
          M α (Poll (Except (SendError α) Unit))).wp contract
        (fun polled after => Inv manners after ∧
          Guarantee manners (some (.send future)) base after ∧ polled = .ready result ∧
          Given future result after ∧ (manners.prompt → owed future after.log = none))
        (fun _ after => Inv manners after ∧
          Guarantee manners (some (.send future)) base after ∧
          after.state.sends future = some this ∧
          (manners.prompt → owed future after.log = none) ∧ ¬ manners.faithful) last := by
    intro last inv guarantee found used paid
    simp only [Prog.wp_bind, wp_getState, SendFuture.update, wp_modifyState, found,
      Option.bind_some, outcome, wp_expect_some, Prog.wp_pure]
    exact ⟨inv.replay used, guarantee.trans .amend, trivial, inv.given found done outcome, paid⟩
  simp only [SendFuture.effects]
  rw [Prog.wp_bind]
  refine Prog.wp_mono (removeSend_spec setting.toSetting giving) ?_ ?_
  · rintro _ removed ⟨inv, rest, without, removes, calls⟩
    have polling' := (polling.queued without).later removes
    have found' : removed.state.sends future = some this :=
      (removes.evolves.sends future used nofun).trans found
    have used' : .send future ∈ removed.state.uses := removes.evolves.uses.symm ▸ used
    rw [Prog.wp_ite]
    cases pushes : result.toBool with
    | false =>
        rw [if_neg Bool.false_ne_true]
        have paid : owed future removed.log = none := by
          refine Option.eq_none_iff_forall_ne_some.mpr fun waker owes => ?_
          have before := removes.evolves.owed future used nofun waker owes
          exact nomatch pushes.symm.trans (owing waker before).1
        have hushed' := (hushed pushes).queued.later (polling.queued without).evolves removes
        exact gives inv (polling'.guarantee hushed') found' used' fun _ => paid
    | true =>
        rw [if_pos rfl, Prog.wp_bind]
        have urgent : removed.state.InUse → removed.state.chan.urgent := by
          intro inUse
          have inUse' : (queued channel rest).state.InUse := by
            unfold State.InUse at inUse ⊢
            rwa [removes.evolves.uses] at inUse
          refine .inl fun none => filled pushes ?_
          exact List.prefix_nil.mp (none ▸ (removes.evolves.reserved inUse' nofun).contents)
        have registered : manners.prompt → ∀ waker, owed future removed.log = some waker →
            removed.state.chan.recvWaker = some waker := by
          intro prompt waker owes
          rcases calls with rfl | ⟨dropped, before, left⟩
          · exact (owing waker owes).2
          · exact (setting.prompt prompt dropped before _ _ waker left owes).2
        refine Prog.wp_mono (wakeReceiver_spec setting.toSetting inv urgent) ?_ ?_
        · rintro _ woken ⟨inv', told⟩
          have found'' := (told.evolves.sends future used' nofun).trans found'
          exact gives inv' (told.guarantee polling'.evolves polling'.tally) found''
            (told.evolves.uses.symm ▸ used')
            fun prompt => told.owed future used' (registered prompt)
        · rintro _ woken ⟨inv', told, code, left, -, admitted, rfl⟩
          refine ⟨inv', told.guarantee polling'.evolves polling'.tally,
            (told.evolves.sends future used' nofun).trans found',
            fun prompt => told.owed future used' (registered prompt),
            loyal admitted (removes.evolves.log.trans told.evolves.log)⟩
  · rintro payload _ ⟨inv, rest, without, removes, waker, before, left, rfl, resumes⟩
    have polling' := (polling.queued without).later removes
    have admitted := setting.relies.panics _ _ _ _ resumes
    have hushed' : Hushed manners base (left.logged (.panicked (.dropWaker waker))) :=
      fun orderly => absurd admitted (setting.orderly orderly _ _ _)
    refine ⟨inv, polling'.guarantee hushed', (removes.evolves.sends future used nofun).trans found,
      fun prompt => ?_, loyal admitted removes.evolves.log⟩
    refine Option.eq_none_iff_forall_ne_some.mpr fun awaited owes => ?_
    exact nomatch (setting.prompt prompt waker before _ left awaited resumes owes).1

/-- An attempt to push commits an outcome, or finds the queue full and changes nothing. -/
theorem attemptPush_spec {this : Send α} (inv : Inv manners channel)
    (used : .send future ∈ channel.state.uses) (found : channel.state.sends future = some this)
    (running : this.done = false) (polling : Polling manners future this.wakerId base channel)
    (hushed : Hushed manners base channel)
    {parked : M α (Poll (Except (SendError α) Unit))}
    {post : Poll (Except (SendError α) Unit) → Channel α → Prop} {exc : Panic → Channel α → Prop}
    (returns : ∀ result after, Inv manners after →
      Guarantee manners (some (.send future)) base after → Given future result after →
      (manners.prompt → owed future after.log = none) →
      (channel.state.chan.rejecting = true → ∃ item, this.item = some item ∧
        result = .error ⟨item⟩) → post (.ready result) after)
    (unwinds : ∀ payload after, Inv manners after →
      Guarantee manners (some (.send future)) base after →
      (∀ left, after.state.sends future = some left → left.outcome ≠ none) →
      (manners.prompt → owed future after.log = none) → ¬ manners.faithful → exc payload after)
    (full : channel.state.chan.rejecting = false → channel.state.chan.flavor.isFull = true →
      parked.wp contract post exc channel) :
    (SendFuture.attemptPush future parked).wp contract post exc channel := by
  obtain ⟨present, -, uncommitted, made⟩ := inv.futures.unsent future this found running
  obtain ⟨item, message⟩ := Option.isSome_iff_exists.mp present
  obtain ⟨member, below⟩ := inv.handles.send future this found
  have holds : channel.state.idOf future = this.wakerId := by simp [State.idOf, found]
  have unpushed : ¬ Pushed future channel.log := fun pushed =>
    uncommitted (inv.futures.pushed future pushed)
  have keeps : ∀ {result : Except (SendError α) Unit} {last : Channel α},
      last.state.sends future = some (settle result this) →
      ∀ left, last.state.sends future = some left → left.outcome ≠ none := by
    intro result last kept left present
    obtain rfl := Option.some.inj (kept.symm.trans present)
    exact Option.some_ne_none _
  refine wp_attemptPush inv.held found message ?_ ?_ full
  · intro rejects
    have attempted : Attempted channel future (.error ⟨item⟩) channel := .failed item
    have futures : Futures manners (settled channel future (.error ⟨item⟩)) := by
      refine inv.futures.settle attempted used found running below ?_
      rintro _ ⟨⟩
      exact message
    have books : Books manners (settled channel future (.error ⟨item⟩)) :=
      inv.books.settle uncommitted (by simp [Except.toBool, unpushed])
    have giving : Giving manners (settled channel future (.error ⟨item⟩))
        (channel.state.idOf future) :=
      inv.registry.taken future rfl (State.idOf_cleared fun _ => rfl) (fun _ => rfl) inv.held books
        inv.handles.settle futures
    rw [holds] at giving
    have owing : ∀ waker, owed future (settled channel future (.error ⟨item⟩)).log = some waker →
        Except.toBool (.error ⟨item⟩ : Except (SendError α) Unit) = true ∧
          (settled channel future (.error ⟨item⟩)).state.chan.recvWaker = some waker :=
      fun waker owes => absurd (Pushed.of_owed owes) unpushed
    refine Prog.wp_mono (effects_spec setting giving polling.settle (fun _ => hushed.settle) used
      (State.sends_updateSend found) rfl rfl (by rintro ⟨⟩) owing) ?_ ?_
    · rintro _ after ⟨inv', guarantee, rfl, given, paid⟩
      exact returns _ after inv' guarantee given paid fun _ => ⟨item, message, rfl⟩
    · rintro payload after ⟨inv', guarantee, found', paid, disloyal⟩
      exact unwinds payload after inv' guarantee (keeps found') paid disloyal
  · intro flavor accepts _ contents _
    have isOpen : Open channel.state.chan := ⟨accepts, inv.handles.connected member⟩
    have attempted : Attempted channel future (.ok ())
        (pushed channel flavor (some future) item) := .pushes flavor item
    have pushes : Pushed future (pushed channel flavor (some future) item).log := .inl rfl
    have futures : Futures manners
        (settled (pushed channel flavor (some future) item) future (.ok ())) :=
      inv.futures.settle attempted used found running below (by rintro _ ⟨⟩)
    have first : ∀ sent ∈ some future, ¬ Pushed sent channel.log ∧ ¬ Committed sent channel.log ∧
        ∀ other, Created sent other channel.log → item = other := by
      rintro _ ⟨⟩
      refine ⟨unpushed, uncommitted, fun other created => ?_⟩
      exact Option.some.inj (message.symm.trans (made other created))
    have books : Books manners
        (settled (pushed channel flavor (some future) item) future (.ok ())) :=
      (inv.books.push contents isOpen first).settle uncommitted (iff_of_true rfl pushes)
    have registry : Registry (pushed channel flavor (some future) item) := inv.registry.push
    have giving : Giving manners
        (settled (pushed channel flavor (some future) item) future (.ok ()))
        (channel.state.idOf future) :=
      registry.taken future rfl (State.idOf_cleared fun _ => rfl) (fun _ => rfl) inv.held
        books (inv.handles.push isOpen).settle futures
    rw [holds] at giving
    have filled : Except.toBool (.ok () : Except (SendError α) Unit) = true →
        (settled (pushed channel flavor (some future) item) future (.ok ())).state.chan.contents ≠
          [] := by
      intro _ empty
      have filled : (pushed channel flavor (some future) item).state.chan.contents = [] := empty
      rw [pushed_contents contents] at filled
      exact absurd filled (by simp)
    have owing : ∀ waker, owed future
          (settled (pushed channel flavor (some future) item) future (.ok ())).log = some waker →
        Except.toBool (.ok () : Except (SendError α) Unit) = true ∧
          channel.state.chan.recvWaker = some waker := by
      intro waker owes
      refine ⟨rfl, ?_⟩
      simpa [owed, watched] using owes
    have found' : (pushed channel flavor (some future) item).state.sends future = some this := found
    have polling' := polling.push isOpen contents
    have loud : Except.toBool (.ok () : Except (SendError α) Unit) = false → Hushed manners base
        (settled (pushed channel flavor (some future) item) future (.ok ())) :=
      fun failed => by cases failed
    refine Prog.wp_mono (effects_spec setting giving polling'.settle loud used
      (State.sends_updateSend found') rfl rfl filled owing) ?_ ?_
    · rintro _ after ⟨inv', guarantee, rfl, given, paid⟩
      exact returns _ after inv' guarantee given paid
        fun rejects => by cases accepts.symm.trans rejects
    · rintro payload after ⟨inv', guarantee, found', paid, disloyal⟩
      exact unwinds payload after inv' guarantee (keeps found') paid disloyal

end Functions

/-! ### Registering -/

/-- The channel after a send future was registered with a waker. -/
abbrev enrolled (channel : Channel α) (future : Nat) (waker : Waker) : Channel α :=
  ((channel.onState (·.onChan fun chan =>
      { chan with
        nextSendId := chan.nextSendId + 1
        sendWakers := chan.sendWakers ++ [(chan.nextSendId, waker)] })).logged
    (.registered .senders)).onState (·.setWakerId (some channel.state.chan.nextSendId) future)

/-- Registering runs the clone of the waker, and no user code after it. -/
theorem wp_register {contract : Prog.Contract (Channel α) (Callback α) Panic}
    {exc : Panic → Channel α → Prop} {post : Unit → Channel α → Prop} {waker : Waker}
    (clones : (callback (.clone waker)).wp contract
      (fun _ cloned => cloned.held = [] ∧ post () (enrolled cloned future waker)) exc channel) :
    (do let id ← addSendWaker waker; setWakerId future id : M α Unit).wp contract post exc
      channel := by
  simp only [addSendWaker, Prog.wp_bind]
  refine Prog.wp_mono clones ?_ (fun _ _ unwound => unwound)
  rintro _ ⟨state, held, log⟩ ⟨clear, registers⟩
  obtain rfl : held = [] := clear
  simp only [wp_getChan, wp_modifyChan, wp_emit]
  rw [wp_borrowing _ _ rfl]
  exact registers

section Enroll

variable {this : Send α} {waker : Waker}

/-- Below the wrap, the next id counts the registrations. -/
theorem Registry.nextSendId_toNat (registry : Registry channel) (fits : Fits channel.log) :
    channel.state.chan.nextSendId.toNat = registrations .senders channel.log := by
  rw [registry.next]
  exact UInt64.toNat_ofNat_of_lt' (fits .senders)

/-- Registering a future under the next id keeps the registry in order. -/
theorem Registry.enroll (registry : Registry channel)
    (found : channel.state.sends future = some this) (idle : this.wakerId = none) :
    Registry (enrolled channel future waker) := by
  have fits : Fits (enrolled channel future waker).log → Fits channel.log :=
    fun fits => fits.of_suffix (List.suffix_cons ..)
  have here : (enrolled channel future waker).state.idOf future =
      some channel.state.chan.nextSendId := by
    exact State.idOf_setWakerId found
  have there : ∀ {key}, key ≠ future →
      (enrolled channel future waker).state.idOf key = channel.state.idOf key :=
    fun other => State.idOf_other other
  have counts : registrations .senders (enrolled channel future waker).log =
      registrations .senders channel.log + 1 := by simp [registrations]
  refine ⟨?_, ?_, ?_⟩
  · show channel.state.chan.nextSendId + 1 = _
    rw [counts, registry.next, UInt64.ofNat_add]
    rfl
  · intro fits'
    have number := registry.nextSendId_toNat (fits fits')
    have sound := registry.tickets (fits fits')
    have below : channel.state.chan.nextSendId.toNat < registrations .senders channel.log + 1 := by
      omega
    have issued := sound.issue (Nat.le_succ (registrations .senders channel.log))
    have unheld : ∀ owner, channel.state.idOf owner ≠ some channel.state.chan.nextSendId := by
      intro owner holds
      have := sound.held owner _ holds
      exact absurd this (by simp only [ledger]; omega)
    have unfiled : ∀ entry ∈ channel.state.chan.sendWakers,
        entry.1 ≠ channel.state.chan.nextSendId := by
      intro entry member same
      have := sound.filed entry member
      rw [same] at this
      exact absurd this (by simp only [ledger]; omega)
    have filed := issued.file below unfiled waker
    unfold ledger
    rw [counts]
    refine filed.hold below unheld future fun other held holds => ?_
    by_cases same : other = future
    · subst same
      exact .inr ⟨rfl, (Option.some.inj (here.symm.trans holds)).symm⟩
    · exact .inl ((there same).symm.trans holds)
  · intro fits' entry member
    rcases List.mem_append.mp member with old | new
    · obtain ⟨owner, holds⟩ := registry.owned (fits fits') entry old
      have other : owner ≠ future := by
        rintro rfl
        have none : channel.state.idOf owner = none := by simp [State.idOf, found, idle]
        cases holds.symm.trans none
      exact ⟨owner, (there other).trans holds⟩
    · obtain rfl : entry = (channel.state.chan.nextSendId, waker) := by simpa using new
      exact ⟨future, here⟩

/-- Registering a running future keeps the invariant. -/
theorem Inv.enroll (inv : Inv manners channel) (found : channel.state.sends future = some this)
    (running : this.done = false) (idle : this.wakerId = none) :
    Inv manners (enrolled channel future waker) := by
  obtain ⟨held, books, handles, futures, registry⟩ := inv
  have here : (enrolled channel future waker).state.sends future =
      some { this with wakerId := some channel.state.chan.nextSendId } :=
    State.sends_updateSend found
  have there : ∀ {key}, key ≠ future →
      (enrolled channel future waker).state.sends key = channel.state.sends key :=
    fun other => State.sends_other other
  have files : Handles ((channel.onState (·.onChan fun chan =>
      { chan with
        nextSendId := chan.nextSendId + 1
        sendWakers := chan.sendWakers ++ [(chan.nextSendId, waker)] })).logged
          (.registered .senders)) := { handles with }
  refine ⟨held, { books with }, files.amend fun _ => rfl, ?_, registry.enroll found idle⟩
  exact { futures with
    unsent := by
      intro key other present unfinished
      by_cases same : key = future
      · subst same
        obtain rfl := Option.some.inj (here.symm.trans present)
        exact futures.unsent key this found running
      · exact futures.unsent key other ((there same).symm.trans present) unfinished
    sent := by
      intro key other present done
      by_cases same : key = future
      · subst same
        obtain rfl := Option.some.inj (here.symm.trans present)
        exact nomatch running.symm.trans done
      · exact futures.sent key other ((there same).symm.trans present) done
    outcome := by
      intro key other result present outcome
      by_cases same : key = future
      · subst same
        obtain rfl := Option.some.inj (here.symm.trans present)
        exact futures.outcome key this result found outcome
      · exact futures.outcome key other result ((there same).symm.trans present) outcome
    answered := by
      intro key other present free done
      by_cases same : key = future
      · subst same
        obtain rfl := Option.some.inj (here.symm.trans present)
        exact nomatch running.symm.trans done
      · exact futures.answered key other ((there same).symm.trans present) free done }

/-- A poll goes on after it registered its future. -/
theorem Polling.enroll (polling : Polling manners future none base channel) :
    Polling manners future (some channel.state.chan.nextSendId) base
      (enrolled channel future waker) where
  evolves := by
    have same : Evolves manners (some (.send future)) channel channel := .refl channel
    refine polling.evolves.trans { same with
      log := List.suffix_cons ..
      sends := fun key _ other => State.sends_other fun same => other (same ▸ rfl)
      reserved := fun _ _ => { Reserved.refl channel with waker := .inl rfl }
      committed := fun _ _ _ => id
      missing := fun _ _ _ missing => { missing with } }
  balance := polling.balance
  emptied := polling.emptied
  stuck fits rejecting entry member other := by
    have before : entry ∈ channel.state.chan.sendWakers := by
      rcases List.mem_append.mp member with old | new
      · exact old
      · obtain rfl : entry = (channel.state.chan.nextSendId, waker) := by simpa using new
        exact absurd rfl other
    exact polling.stuck (fits.of_suffix (List.suffix_cons ..)) rejecting entry before nofun
  retained tidy retained := polling.retained tidy { retained with }

/-- Registering a future leaves nothing unheard. -/
theorem Hushed.enroll (hushed : Hushed manners base channel) :
    Hushed manners base (enrolled channel future waker) :=
  fun orderly owner waker exposed => hushed orderly owner waker { exposed with }

/-- A registration is no exception where senders may be parked. -/
theorem Polling.keep {spare : Option UInt64} (polling : Polling manners future spare base channel)
    (accepts : channel.state.chan.rejecting = false) : Polling manners future none base channel :=
  { polling with stuck := fun _ rejecting => nomatch accepts.symm.trans rejecting }

end Enroll

/-! ### Polling -/

/-- What a poll of a send answers. -/
structure SendAnswer (future : Nat) (before after : Channel α)
    (polled : Poll (Except (SendError α) Unit)) : Prop where
  still : polled = .pending → ∀ this, after.state.sends future = some this → this.done = true →
    this.outcome = none ∧ ∃ old, before.state.sends future = some old ∧ old.done = true ∧
      old.outcome = none
  rejected : before.state.chan.rejecting = true → ∀ this, before.state.sends future = some this →
    this.done = false → ∃ item, this.item = some item ∧ polled = .ready (.error ⟨item⟩)
  replayed : polled = .pending → ∀ this, before.state.sends future = some this →
    this.outcome = none
  given : ∀ result, polled = .ready result → Given future result after ∧
    ∀ this, before.state.sends future = some this → this.done = true → this.outcome ≠ none

/-- What a poll of a send leaves behind when it unwinds. -/
def SendLeft (future : Nat) (before after : Channel α) : Prop :=
  ∀ this, after.state.sends future = some this → this.done = true → this.outcome ≠ none ∧
    ∃ old, before.state.sends future = some old ∧ old.done = false

section Functions

variable {contract : Prog.Contract (Channel α) (Callback α) Panic}
  {admits : Callback α → Panic → Channel α → Prop}
  (setting : SendSetting manners contract admits future)
include setting

/-- A send future that finds the queue full registers, and tries again. -/
theorem park_spec {this : Send α} (inv : Inv manners channel)
    (used : .send future ∈ channel.state.uses) (found : channel.state.sends future = some this)
    (running : this.done = false) (waker : Waker) :
    (do
      removeSend (← takeWakerId future)
      let id ← addSendWaker waker
      setWakerId future id : M α Unit).wp contract
      (fun _ after => Inv manners after ∧ ∃ id,
        Polling manners future (some id) channel after ∧ Hushed manners channel after ∧
        after.state.sends future = some { this with wakerId := some id })
      (fun _ after => Inv manners after ∧
        Guarantee manners (some (.send future)) channel after ∧
        after.state.sends future = some { this with wakerId := none }) channel := by
  have holds : channel.state.idOf future = this.wakerId := by simp [State.idOf, found]
  have giving := inv.take future
  have found₀ : (channel.onState (·.setWakerId none future)).state.sends future =
      some { this with wakerId := none } := State.sends_updateSend found
  have same : Guarantee manners (some (.send future)) channel
      (channel.onState (·.setWakerId none future)) := .amend
  have polling : Polling manners future (channel.state.idOf future) channel
      (channel.onState (·.setWakerId none future)) := .of_guarantee same
  have hushed : Hushed manners channel (channel.onState (·.setWakerId none future)) := same.exposed
  simp only [Prog.wp_bind, wp_takeWakerId]
  rw [show (channel.state.sends future).bind Send.wakerId = channel.state.idOf future from rfl]
  refine Prog.wp_mono (removeSend_spec setting.toSetting giving) ?_ ?_
  · rintro _ removed ⟨inv₁, rest, without, removes, -⟩
    have polling₁ := (polling.queued without).later removes
    have hushed₁ := hushed.queued.later (polling.queued without).evolves removes
    have found₁ : removed.state.sends future = some { this with wakerId := none } :=
      (removes.evolves.sends future used nofun).trans found₀
    have used₁ : .send future ∈ removed.state.uses := removes.evolves.uses.symm ▸ used
    rw [← Prog.wp_bind]
    refine wp_register (Prog.wp_mono
      (setting.relies.runs carries (.clone waker) trivial inv₁) ?_ ?_)
    · rintro _ cloned ⟨inv₂, clones⟩
      have found₂ := (clones.evolves.sends future used₁ nofun).trans found₁
      have found₃ : (enrolled cloned future waker).state.sends future =
          some { this with wakerId := some cloned.state.chan.nextSendId } :=
        (State.sends_updateSend found₂).trans rfl
      exact ⟨inv₂.held, inv₂.enroll found₂ running rfl, _, (polling₁.later clones).enroll,
        (hushed₁.later polling₁.evolves clones).enroll, found₃⟩
    · rintro _ cloned ⟨inv₂, clones, -⟩
      exact ⟨inv₂, (polling₁.later clones).guarantee (hushed₁.later polling₁.evolves clones),
        (clones.evolves.sends future used₁ nofun).trans found₁⟩
  · rintro _ _ ⟨inv₁, rest, without, removes, waker, before, left, rfl, -⟩
    have polling₁ := (polling.queued without).later removes
    have hushed₁ := hushed.queued.later (polling.queued without).evolves removes
    exact ⟨inv₁, polling₁.guarantee hushed₁,
      (removes.evolves.sends future used nofun).trans found₀⟩

/-- Polling a send pushes its message, fails it, or parks it while the queue is full. -/
theorem pollSend_spec (inv : Inv manners channel) (used : .send future ∈ channel.state.uses)
    (paid : manners.prompt → owed future channel.log = none) (waker : Waker) :
    (SendFuture.poll future waker).wp contract
      (fun polled after => Inv manners after ∧
        Guarantee manners (some (.send future)) channel after ∧
        SendAnswer future channel after polled ∧ (manners.prompt → owed future after.log = none))
      (fun _ after => Inv manners after ∧
        Guarantee manners (some (.send future)) channel after ∧
        SendLeft future channel after ∧ (manners.prompt → owed future after.log = none) ∧
        (manners.faithful → ¬ Committed future after.log)) channel := by
  obtain ⟨this, found⟩ := Option.isSome_iff_exists.mp (inv.handles.uses _ used)
  have only : ∀ {other}, channel.state.sends future = some other → this = other :=
    fun present => Option.some.inj (found.symm.trans present)
  simp only [SendFuture.poll, Prog.wp_bind, wp_getState, found]
  cases committed : this.outcome with
  | some outcome =>
      -- A committed outcome is replayed.
      have done : this.done = true := by
        cases running : this.done with
        | true => rfl
        | false =>
            have none := (inv.futures.unsent future this found running).2.1
            exact nomatch committed.symm.trans none
      refine ⟨inv.replay used, .amend, ⟨nofun, ?_, nofun, ?_⟩, paid⟩
      · intro _ other present running
        obtain rfl := only present
        exact nomatch running.symm.trans done
      · rintro _ ⟨⟩
        refine ⟨inv.given found done committed, fun other present _ none => ?_⟩
        obtain rfl := only present
        exact nomatch committed.symm.trans none
  | none =>
      simp only [Prog.wp_ite]
      by_cases done : this.done = true
      · simp only [done, ↓reduceIte]
        refine ⟨inv, .refl channel, ⟨?_, ?_, ?_, nofun⟩, paid⟩
        · intro _ other present done
          obtain rfl := only present
          exact ⟨committed, this, found, done, committed⟩
        · intro _ other present running
          obtain rfl := only present
          exact nomatch running.symm.trans done
        · intro _ other present
          obtain rfl := only present
          exact committed
      · have running : this.done = false := by simpa using done
        simp only [running, Bool.false_eq_true, ↓reduceIte]
        -- Whatever a future that is not done answers, it had not answered before.
        have fresh : ∀ other, channel.state.sends future = some other → other.done = true →
            other.outcome ≠ none := by
          intro other present done
          obtain rfl := only present
          exact nomatch running.symm.trans done
        have leaves : ∀ {after : Channel α},
            (∀ left, after.state.sends future = some left → left.outcome ≠ none) →
            SendLeft future channel after :=
          fun keeps left present _ => ⟨keeps left present, this, found, running⟩
        -- A future that is not done owes nothing.
        have clear : ∀ {after : Channel α} {other : Send α}, Inv manners after →
            after.state.sends future = some other → other.done = false →
            ¬ Committed future after.log ∧ owed future after.log = none := by
          intro after other inv present running
          have uncommitted := (inv.futures.unsent future other present running).2.2.1
          refine ⟨uncommitted, Option.eq_none_iff_forall_ne_some.mpr fun waker owes => ?_⟩
          exact uncommitted (inv.futures.pushed future (Pushed.of_owed owes))
        refine attemptPush_spec setting inv used found running (.of_guarantee (.refl channel))
          (fun _ _ _ => .inl) ?_ ?_ ?_
        · intro result after inv' guarantee given paid rejected
          refine ⟨inv', guarantee, ⟨nofun, fun rejecting other present _ => ?_, nofun, ?_⟩, paid⟩
          · obtain rfl := only present
            obtain ⟨item, message, rfl⟩ := rejected rejecting
            exact ⟨item, message, rfl⟩
          · rintro _ ⟨⟩
            exact ⟨given, fresh⟩
        · intro _ after inv' guarantee keeps paid disloyal
          exact ⟨inv', guarantee, leaves keeps, paid, fun faithful => absurd faithful disloyal⟩
        · intro accepts _
          have rejected : ∀ polled : Poll (Except (SendError α) Unit),
              channel.state.chan.rejecting = true →
              ∀ this, channel.state.sends future = some this →
              this.done = false → ∃ item, this.item = some item ∧ polled = .ready (.error ⟨item⟩) :=
            fun _ rejecting => nomatch accepts.symm.trans rejecting
          have unwinds : ∀ (_ : Panic) (left : Channel α), (Inv manners left ∧
              Guarantee manners (some (.send future)) channel left ∧
              left.state.sends future = some { this with wakerId := none }) →
              Inv manners left ∧ Guarantee manners (some (.send future)) channel left ∧
                SendLeft future channel left ∧ (manners.prompt → owed future left.log = none) ∧
                (manners.faithful → ¬ Committed future left.log) := by
            rintro _ left ⟨inv', guarantee, found'⟩
            obtain ⟨uncommitted, paid⟩ := clear inv' found' running
            refine ⟨inv', guarantee, fun other present done => ?_, fun _ => paid,
              fun _ => uncommitted⟩
            obtain rfl := Option.some.inj (found'.symm.trans present)
            exact nomatch running.symm.trans done
          have parks := park_spec setting inv used found running waker
          simp only [Prog.wp_bind] at parks ⊢
          refine Prog.wp_mono parks (fun _ _ removes => Prog.wp_mono removes
            (fun id _ adds => Prog.wp_mono adds ?_ unwinds) unwinds) unwinds
          rintro _ parked ⟨inv', id, polling, hushed, found'⟩
          have used' : .send future ∈ parked.state.uses := polling.evolves.uses.symm ▸ used
          refine attemptPush_spec setting inv' used' found' running polling hushed ?_ ?_ ?_
          · intro result after inv' guarantee given paid _
            refine ⟨inv', guarantee, ⟨nofun, rejected _, nofun, ?_⟩, paid⟩
            rintro _ ⟨⟩
            exact ⟨given, fresh⟩
          · intro _ after inv' guarantee keeps paid disloyal
            exact ⟨inv', guarantee, leaves keeps, paid, fun faithful => absurd faithful disloyal⟩
          · intro accepts _
            refine ⟨inv', (polling.keep accepts).guarantee hushed, ⟨?_, rejected _, ?_, nofun⟩,
              fun _ => (clear inv' found' running).2⟩
            · intro _ other present done
              obtain rfl := Option.some.inj (found'.symm.trans present)
              exact nomatch running.symm.trans done
            · intro _ other present
              obtain rfl := only present
              exact committed

end Functions

end Lochan.Mpsc
