import Mathlib.Algebra.Group.Nat.Defs
import Lochan.Api
import Lochan.Rules

/-!
# What the log of a channel says

The statements about runs of a channel speak of its log: which tasks wait, whether the
channel was closed, what a receiver has observed. The functions here read a log, newest
event first; an event that has no bearing on one of them is skipped by it.
-/

namespace Lochan

variable {α : Type}

/-- The log of a channel. -/
abbrev Log (α : Type) := List (Event (Op α) (Result α) α)

/-- The task that an operation polls, and the waker it is polled with. -/
def Op.polls : Op α → Option (Owner × Waker)
  | .pollSend future waker => some (.send future, waker)
  | .pollNext receiver waker => some (.stream receiver, waker)
  | .pollRecv future waker => some (.recv future, waker)
  | _ => none

/-- Whether a poll answered that it is to be repeated. -/
def Result.isPending : Result α → Bool
  | .recv .pending | .send .pending => true
  | _ => false

/-- Whether a receive handed out an item. -/
def Result.receives : Result α → Bool
  | .tryRecv (.ok _) | .next (some _) | .recv (.ready (some _)) => true
  | _ => false

/-- The half of the channel on which a task is parked. -/
def Owner.side : Owner → Side
  | .stream _ | .recv _ => .receivers
  | .send _ => .senders

/-- The reference that an operation polling the task holds. -/
def Owner.ref : Owner → Ref
  | .stream receiver => .receiverMut receiver
  | .recv future => .recv future
  | .send future => .send future

/-- The id of the handle or future that a task belongs to. -/
def Owner.index : Owner → Nat
  | .stream id | .recv id | .send id => id

/-- The tasks can be told apart by the references that polling them holds. -/
theorem Owner.ref_injective {first second : Owner} (same : first.ref = second.ref) :
    first = second := by
  cases first <;> cases second <;> cases same <;> rfl

/-- The waker that a task waits for: its last poll, if it has returned, returned
`Pending`, and the waker of that poll has not been invoked since the poll began. -/
def waiting (owner : Owner) : Log α → Option Waker
  | .began op :: log =>
    match op.polls with
    | some (polled, waker) => if polled = owner then some waker else waiting owner log
    | none => waiting owner log
  | .returned _ op result :: log =>
    match op.polls with
    | some (polled, _) =>
      if polled = owner ∧ result.isPending = false then none else waiting owner log
    | none => waiting owner log
  | .unwound _ op :: log =>
    match op.polls with
    | some (polled, _) => if polled = owner then none else waiting owner log
    | none => waiting owner log
  | .called code :: log => (waiting owner log).filter fun waker => code.invokes ≠ some waker
  | _ :: log => waiting owner log
  | [] => none

/-- The channel was closed, or its last receiver began to drop. -/
def Shut : Log α → Prop
  | .closed _ :: _ | .lastReceiver _ _ _ :: _ => True
  | _ :: log => Shut log
  | [] => False

/-- The receiver began to drop as the last one. -/
def LastReceiver (receiver : Nat) : Log α → Prop
  | .lastReceiver last _ _ :: log => last = receiver ∨ LastReceiver receiver log
  | _ :: log => LastReceiver receiver log
  | [] => False

/-- The drop of the last receiver is over. -/
def Released : Log α → Prop
  | .returned _ (.dropReceiver receiver) _ :: log | .unwound _ (.dropReceiver receiver) :: log =>
    LastReceiver receiver log ∨ Released log
  | _ :: log => Released log
  | [] => False

/-- A receiver has observed that the channel is disconnected. -/
def Observed : Log α → Prop
  | .returned _ _ (.tryRecv (.error .disconnected)) :: _
  | .returned _ _ (.recv (.ready none)) :: _
  | .returned _ (.streamIsTerminated _) (.bool true) :: _ => True
  | _ :: log => Observed log
  | [] => False

/-- The stream of the receiver was reported terminated, or has ended. -/
def Terminal (receiver : Nat) : Log α → Prop
  | .returned _ (.streamIsTerminated reported) (.bool true) :: log
  | .returned _ (.pollNext reported _) (.recv (.ready none)) :: log =>
    reported = receiver ∨ Terminal receiver log
  | _ :: log => Terminal receiver log
  | [] => False

/-- The send future was created with this item. -/
def Created (future : Nat) (item : α) : Log α → Prop
  | .returned _ (.send _ sent) (.handle created) :: log =>
    (created = future ∧ sent = item) ∨ Created future item log
  | _ :: log => Created future item log
  | [] => False

/-- The send future has committed its outcome. -/
def Committed (future : Nat) : Log α → Prop
  | .committed send _ :: log => send = future ∨ Committed future log
  | _ :: log => Committed future log
  | [] => False

/-- The send future has pushed its item. -/
def Pushed (future : Nat) : Log α → Prop
  | .pushed (some sent) _ :: log => sent = future ∨ Pushed future log
  | _ :: log => Pushed future log
  | [] => False

/-- A poll of the task has returned `Ready`. -/
def Resolved (owner : Owner) : Log α → Prop
  | .returned _ op result :: log =>
    ((∃ waker, op.polls = some (owner, waker)) ∧ result.isPending = false) ∨ Resolved owner log
  | _ :: log => Resolved owner log
  | [] => False

/-- The receive future has been polled. -/
def Polled (future : Nat) : Log α → Prop
  | .began (.pollRecv polled _) :: log => polled = future ∨ Polled future log
  | _ :: log => Polled future log
  | [] => False

/-- The number of receives that completed with an item. -/
def receipts : Log α → Nat
  | .returned _ _ result :: log => receipts log + if result.receives then 1 else 0
  | _ :: log => receipts log
  | [] => 0

/-- A receive unwound out of waking the parked senders, and none has completed with an item
since. -/
def Stranded : Log α → Prop
  | .stranded :: _ => True
  | .returned _ _ result :: log => result.receives = false ∧ Stranded log
  | _ :: log => Stranded log
  | [] => False

/-- Some receive unwound out of waking the parked senders. -/
def Deserted : Log α → Prop
  | .stranded :: _ => True
  | _ :: log => Deserted log
  | [] => False

/-- The item that a receive hands out. -/
def item? : Result α → Option α
  | .tryRecv (.ok item) | .next (some item) | .recv (.ready (some item)) => some item
  | _ => none

/-- The item that a receive returned. -/
def Event.received? : Event (Op α) (Result α) α → Option α
  | .returned _ _ result => item? result
  | _ => none

/-- The items that receives have returned, in the order of their returns. -/
def received (log : Log α) : List α := collect Event.received? log

/-- The number of items that were taken out of the channel. -/
def removals (log : Log α) : Nat := (delivered log).length + (drained log).length

/-- The callback that panicked with an event. -/
def Event.panicked? : Event (Op α) (Result α) α → Option (Callback α)
  | .panicked code => some code
  | _ => none

/-- The callbacks that panicked, in that order. -/
def panics (log : Log α) : List (Callback α) := collect Event.panicked? log

/-- The wakers of parked senders that were woken, in that order. -/
def Event.wokeSender? : Event (Op α) (Result α) α → Option Waker
  | .called (.wake .senders waker) => some waker
  | _ => none

/-- The wakers of parked senders that were invoked, in that order. -/
def wokeSenders (log : Log α) : List Waker := collect Event.wokeSender? log

/-- No registration id was issued twice. -/
def Fits (log : Log α) : Prop := ∀ side, registrations side log < 2 ^ 64

/-- The log when it had the given length. -/
def past (length : Nat) (log : Log α) : Log α := log.drop (log.length - length)

/-- What an operation answers, by what had happened when it began. -/
def Answers (op : Op α) (result : Result α) (past : Log α) : Prop :=
  match op with
  | .trySend _ item => Shut past → result = .trySend (.error (.closed item))
  | .pollSend future _ =>
    (Shut past → ¬ Committed future past →
      ∀ item, Created future item past → result = .send (.ready (.error ⟨item⟩))) ∧
    (Committed future past → ¬ Resolved (.send future) past → result.isPending = false)
  | .tryRecv _ => Observed past → result = .tryRecv (.error .disconnected)
  | .pollNext _ _ => Observed past → result = .recv (.ready none)
  | .pollRecv future _ => Observed past → ¬ Polled future past → result = .recv (.ready none)
  | .streamIsTerminated receiver => Terminal receiver past → result = .bool true
  | _ => True

/-- Every item that was accepted has left the channel. -/
def Emptied (log : Log α) : Prop := accepted log = delivered log ++ drained log

/-- The outcome of a send future tells what became of its item. -/
def Accounts (future : Nat) (outcome : Except (SendError α) Unit) (log : Log α) : Prop :=
  (outcome.toBool = true ↔ Pushed future log) ∧
    ∀ error, outcome = .error error → ∀ item, Created future item log → error.item = item

/-- What an operation reports, by what has happened when it returns. A report that a send
future has terminated says what `over` says. -/
def Reports (isOver : Nat → Log α → Prop) (op : Op α) (result : Result α) (log : Log α) : Prop :=
  match op, result with
  | .tryRecv _, .tryRecv (.error _) | .tryIterNext _, .next none
  | .pollNext _ _, .recv (.ready none) | .pollRecv _ _, .recv (.ready none)
  | .pollNext _ _, .recv .pending => Emptied log
  | .pollRecv future _, .recv .pending => Resolved (.recv future) log ∨ Emptied log
  | .pollSend future _, .send (.ready outcome) =>
    Committed future log ∧ ¬ Resolved (.send future) log ∧ Accounts future outcome log
  | .sendIsTerminated future, .bool true => isOver future log
  | _, _ => True

/-- What holds whenever one of these events happens. -/
def Lawful (isOver : Nat → Log α → Prop) : Log α → Prop
  | .pushed future item :: log =>
    (¬ Shut log ∧ ∀ sent ∈ future, ¬ Pushed sent log ∧ ¬ Committed sent log ∧
      ∀ made, Created sent made log → item = made) ∧ Lawful isOver log
  | .committed send accepted :: log =>
    (¬ Committed send log ∧ (accepted = true ↔ Pushed send log)) ∧ Lawful isOver log
  | .took item :: log =>
    ((∀ receiver, ¬ LastReceiver receiver log) ∧
      ∃ rest, accepted log = delivered log ++ item :: rest) ∧ Lawful isOver log
  | .missed held :: log => (held = [] ∧ Emptied log) ∧ Lawful isOver log
  | .registered .receivers :: log => Emptied log ∧ Lawful isOver log
  | .closed held :: log => accepted log = delivered log ++ drained log ++ held ∧ Lawful isOver log
  | .lastReceiver _ _ held :: log =>
    (accepted log = delivered log ++ held ∧ drained log = []) ∧ Lawful isOver log
  | .freed held :: log => held = [] ∧ Lawful isOver log
  | .expectFailed _ :: _ => False
  | .returned start op result :: log =>
    (Answers op result (past start log) ∧ Reports isOver op result log) ∧ Lawful isOver log
  | _ :: log => Lawful isOver log
  | [] => True

/-- Every task parked on the sender half when the last receiver began to drop was woken
since. -/
def Alerted (log : Log α) : Prop :=
  ∃ newer receiver parked held older,
    log = newer ++ .lastReceiver receiver parked held :: older ∧
      parked.Sublist (wokeSenders newer)

/-- No queued item is dropped before the parked senders are woken. -/
def Prompt : Log α → Prop
  | .called (.dropQueued _) :: log => Alerted log ∧ Prompt log
  | _ :: log => Prompt log
  | [] => True

/-- Where draining dropped nothing, nothing was dropped before its time. -/
theorem Prompt.of_undrained {log : Log α} (undrained : drained log = []) : Prompt log := by
  induction log with
  | nil => trivial
  | cons event log ih =>
      cases event with
      | called code =>
          cases code with
          | dropQueued item => simp [drained, Event.drained?] at undrained
          | _ => exact ih (by simpa [drained, Event.drained?] using undrained)
      | _ => exact ih (by simpa [drained, Event.drained?] using undrained)

/-- The operations that only observe the channel, and whose answers the log does not
constrain. -/
def Op.Observes : Op α → Prop
  | .senderCapacity _ | .senderLen _ | .senderIsEmpty _ | .senderIsFull _ | .senderIsClosed _
  | .receiverLen _ | .receiverIsEmpty _ | .receiverIsClosed _ | .recvIsTerminated _ => True
  | _ => False

/-- The results of the operations that only observe the channel. -/
inductive Result.Observation : Result α → Prop where
  | capacity (value : Option Nat) : Observation (.capacity value)
  | size (value : Nat) : Observation (.size value)
  | bool (value : Bool) : Observation (.bool value)

/-! ### The beginning and the end of an operation -/

section Ends

variable {op : Op α} {owner : Owner} {waker : Waker}

/-- A task does not begin to wait with an operation that does not poll it. -/
theorem waiting_began_other (other : ∀ waker, op.polls ≠ some (owner, waker)) {log : Log α} :
    waiting owner (.began op :: log) = waiting owner log := by
  cases polls : op.polls with
  | none => simp [waiting, polls]
  | some polled =>
      have different : polled.1 ≠ owner := by
        rintro rfl
        exact other polled.2 polls
      simp [waiting, polls, different]

/-- A task waits from the moment in which it is polled. -/
theorem waiting_began (polls : op.polls = some (owner, waker)) {log : Log α} :
    waiting owner (.began op :: log) = some waker := by
  simp [waiting, polls]

/-- An operation is over. -/
inductive Event.Ends : Event (Op α) (Result α) α → Prop where
  | returned (start : Nat) (op : Op α) (result : Result α) : Ends (.returned start op result)
  | unwound (start : Nat) (op : Op α) : Ends (.unwound start op)

/-- A task that waits after the end of an operation has waited before it. -/
theorem waiting_ends {event : Event (Op α) (Result α) α} (ends : event.Ends) {log : Log α}
    (waits : waiting owner (event :: log) = some waker) : waiting owner log = some waker := by
  cases ends with
  | returned start op result =>
      simp only [waiting] at waits
      split at waits
      · split at waits
        · cases waits
        · exact waits
      · exact waits
  | unwound start op =>
      simp only [waiting] at waits
      split at waits
      · split at waits
        · cases waits
        · exact waits
      · exact waits

end Ends

/-! ### Later logs -/

section Suffix

variable {older newer : Log α}

/-- The past of a later log at the length of an older one is the older one. -/
theorem past_suffix (suffix : older <:+ newer) : past older.length newer = older := by
  obtain ⟨events, rfl⟩ := suffix
  simp [past]

/-- Registration ids are issued, and never taken back. -/
theorem registrations_mono (side : Side) (suffix : older <:+ newer) :
    registrations side older ≤ registrations side newer := by
  obtain ⟨events, rfl⟩ := suffix
  induction events with
  | nil => exact Nat.le_refl _
  | cons event rest ih =>
      refine Nat.le_trans ih ?_
      cases event <;> simp [registrations]

/-- Both halves of the channel are counted. -/
theorem Fits.intro {log : Log α} (received : registrations .receivers log < 2 ^ 64)
    (sent : registrations .senders log < 2 ^ 64) : Fits log := by
  intro side
  cases side
  · exact sent
  · exact received

/-- What fits has fitted before. -/
theorem Fits.of_suffix (fits : Fits newer) (suffix : older <:+ newer) : Fits older :=
  fun side => Nat.lt_of_le_of_lt (registrations_mono side suffix) (fits side)

/-- A receiver that began to drop as the last one stays the last one. -/
theorem LastReceiver.later {receiver : Nat} (last : LastReceiver receiver older)
    (suffix : older <:+ newer) : LastReceiver receiver newer := by
  obtain ⟨events, rfl⟩ := suffix
  induction events with
  | nil => exact last
  | cons event rest ih => cases event <;> first | exact ih | exact .inr ih

/-- Senders that were woken stay woken. -/
theorem Alerted.later (alerted : Alerted older) (suffix : older <:+ newer) : Alerted newer := by
  obtain ⟨events, rfl⟩ := suffix
  obtain ⟨recent, receiver, parked, held, before, rfl, woken⟩ := alerted
  refine ⟨events ++ recent, receiver, parked, held, before, (List.append_assoc ..).symm, ?_⟩
  rw [wokeSenders, collect_append]
  exact woken.trans (List.sublist_append_left ..)

/-- A future that was polled stays polled. -/
theorem Polled.later {future : Nat} (polled : Polled future older) (suffix : older <:+ newer) :
    Polled future newer := by
  obtain ⟨events, rfl⟩ := suffix
  induction events with
  | nil => exact polled
  | cons event rest ih =>
      cases event with
      | began op => cases op <;> first | exact ih | exact .inr ih
      | _ => exact ih

/-- A future that pushed its item has pushed it for good. -/
theorem Pushed.later {future : Nat} (pushed : Pushed future older) (suffix : older <:+ newer) :
    Pushed future newer := by
  obtain ⟨events, rfl⟩ := suffix
  induction events with
  | nil => exact pushed
  | cons event rest ih =>
      cases event with
      | pushed sent item => cases sent <;> first | exact ih | exact .inr ih
      | _ => exact ih

/-- An outcome that was committed stays committed. -/
theorem Committed.later {future : Nat} (committed : Committed future older)
    (suffix : older <:+ newer) : Committed future newer := by
  obtain ⟨events, rfl⟩ := suffix
  induction events with
  | nil => exact committed
  | cons event rest ih => cases event <;> first | exact ih | exact .inr ih

/-- A task whose poll returned `Ready` has resolved for good. -/
theorem Resolved.later {owner : Owner} (resolved : Resolved owner older)
    (suffix : older <:+ newer) : Resolved owner newer := by
  obtain ⟨events, rfl⟩ := suffix
  induction events with
  | nil => exact resolved
  | cons event rest ih => cases event <;> first | exact ih | exact .inr ih

/-- What held of an event when it happened is not lost. -/
theorem Lawful.of_suffix {isOver : Nat → Log α → Prop} (lawful : Lawful isOver newer)
    (suffix : older <:+ newer) : Lawful isOver older := by
  obtain ⟨events, rfl⟩ := suffix
  induction events with
  | nil => exact lawful
  | cons event rest ih =>
      refine ih ?_
      cases event with
      | registered side => cases side <;> first | exact lawful | exact lawful.2
      | expectFailed text => exact lawful.elim
      | _ => first | exact lawful | exact lawful.2

/-- A receive that left its item behind stays the last one as long as none completes. -/
theorem Stranded.later (stranded : Stranded older) (suffix : older <:+ newer)
    (idle : receipts newer = receipts older) : Stranded newer := by
  obtain ⟨events, rfl⟩ := suffix
  have grows : ∀ events : Log α, receipts older ≤ receipts (events ++ older) := by
    intro events
    induction events with
    | nil => exact Nat.le_refl _
    | cons event rest ih =>
        refine Nat.le_trans ih ?_
        cases event <;> simp [receipts]
  induction events with
  | nil => exact stranded
  | cons event rest ih =>
      cases event with
      | returned start op result =>
          have bound := grows rest
          simp only [List.cons_append, receipts] at idle
          cases received : result.receives with
          | false => exact ⟨received, ih (by simpa [received] using idle)⟩
          | true =>
              simp only [received, ↓reduceIte] at idle
              omega
      | stranded => trivial
      | _ => exact ih idle

/-- What is released was released by a last receiver. -/
theorem Released.last {log : Log α} (released : Released log) :
    ∃ receiver, LastReceiver receiver log := by
  induction log with
  | nil => exact released.elim
  | cons event log ih =>
      have carry : ∀ receiver, LastReceiver receiver log →
          ∃ receiver, LastReceiver receiver (event :: log) :=
        fun receiver last => ⟨receiver, last.later (List.suffix_cons ..)⟩
      have older : Released log → ∃ receiver, LastReceiver receiver (event :: log) :=
        fun released => (ih released).elim carry
      cases event with
      | returned start op result => cases op <;> first
          | exact older released
          | exact released.elim (carry _) older
      | unwound start op => cases op <;> first
          | exact older released
          | exact released.elim (carry _) older
      | _ => exact older released

/-- Only the end of the drop of a receiver releases it. -/
theorem Released.of_unwound {start : Nat} {op : Op α} {log : Log α}
    (other : ∀ receiver, op ≠ .dropReceiver receiver)
    (released : Released (.unwound start op :: log)) :
    Released log := by
  cases op with
  | dropReceiver receiver => exact absurd rfl (other receiver)
  | _ => exact released

/-- Items that were handed out stay handed out, in their order. -/
theorem delivered_grows (suffix : older <:+ newer) : delivered older <+: delivered newer := by
  obtain ⟨events, rfl⟩ := suffix
  exact ⟨_, (collect_append _ events older).symm⟩

/-- Items that draining dropped stay dropped, in their order. -/
theorem drained_grows (suffix : older <:+ newer) : drained older <+: drained newer := by
  obtain ⟨events, rfl⟩ := suffix
  exact ⟨_, (collect_append _ events older).symm⟩

/-- Items that left the channel do not come back. -/
theorem removals_mono (suffix : older <:+ newer) : removals older ≤ removals newer :=
  Nat.add_le_add (delivered_grows suffix).length_le (drained_grows suffix).length_le

end Suffix

/-- A list of senders that is woken is woken in its order. -/
theorem Woken.wokeSenders {χ : Type}
    {guarantee : World χ (Op α) (Result α) α → World χ (Op α) (Result α) α → Prop}
    (grows : ∀ first second, guarantee first second → first.log <:+ second.log)
    {entries : List (UInt64 × Waker)} {before after : World χ (Op α) (Result α) α}
    (woken : Woken guarantee .senders entries before after) :
    ∃ newer, after.log = newer ++ before.log ∧
      (entries.map Prod.snd).Sublist (Lochan.wokeSenders newer) := by
  induction entries generalizing before with
  | nil =>
      obtain ⟨newer, same⟩ := grows _ _ woken
      exact ⟨newer, same.symm, List.nil_sublist _⟩
  | cons entry rest ih =>
      obtain ⟨world, reached, later⟩ := woken
      obtain ⟨events, same⟩ := grows _ _ reached
      obtain ⟨newer, logged, woke⟩ := ih later
      refine ⟨newer ++ .called (.wake .senders entry.2) :: events, by simp [logged, ← same], ?_⟩
      have split : Lochan.wokeSenders (newer ++ .called (.wake .senders entry.2) :: events) =
          Lochan.wokeSenders events ++ entry.2 :: Lochan.wokeSenders newer := by
        simp [Lochan.wokeSenders, collect_append, Event.wokeSender?]
      rw [split, List.map_cons]
      exact (woke.cons_cons entry.2).trans (List.sublist_append_right ..)

end Lochan
