import Lochan.Mpmc.Invariant

namespace Lochan.Mpmc

open Reentrant

variable {α : Type} {manners : Manners} {own : Option Owner} {first second third : Channel α}

/-- A task waits after a callback if it has waited before, and was not woken. -/
theorem waiting_called {owner : Owner} {waker : Waker} {code : Callback α} {log : Log α} :
    waiting owner (.called code :: log) = some waker ↔
      waiting owner log = some waker ∧ code.invokes ≠ some waker := by
  simp [waiting, Option.filter_eq_some_iff]

/-- No item enters a channel that is closed, or that has lost one of its halves. -/
theorem Chan.sealed_iff {chan : Chan α} :
    chan.sealed = true ↔ chan.closed = true ∨ chan.senders = 0 ∨ chan.receivers = 0 := by
  simp [Chan.sealed, or_assoc]

/-- Receivers observe disconnect when no sender is left, or the channel is closed. -/
theorem Chan.disconnected_iff {chan : Chan α} :
    chan.disconnected = true ↔ chan.senders = 0 ∨ chan.closed = true := by
  simp [Chan.disconnected]

/-- Sends fail when no receiver is left, or the channel is closed. -/
theorem Chan.rejecting_iff {chan : Chan α} :
    chan.rejecting = true ↔ chan.receivers = 0 ∨ chan.closed = true := by
  simp [Chan.rejecting]

namespace Evolves

/-- Nothing has changed yet. -/
theorem refl (channel : Channel α) : Evolves manners own channel channel where
  log := List.suffix_refl _
  uses := rfl
  fresh := Nat.le_refl _
  closed := id
  senders := id
  receivers := id
  empty _ empty := empty
  slot _ none := none
  cap := rfl
  parked _ := .inl
  gone _ _ gone := ⟨gone, id⟩
  sends _ _ _ := rfl
  recvs _ _ _ := rfl
  streams _ _ _ := rfl
  waiting _ _ _ := id
  terminal _ _ := id
  resolved _ _ := id
  tickets _ _ := .refl _
  missing _ _ _ _ _ := id

/-- What is sealed stays sealed. -/
theorem sealed (evolves : Evolves manners own first second)
    (is_sealed : first.state.chan.sealed = true) : second.state.chan.sealed = true := by
  rw [Chan.sealed_iff] at is_sealed ⊢
  rcases is_sealed with closed | senders | receivers
  · exact .inl (evolves.closed closed)
  · exact .inr (.inl (evolves.senders senders))
  · exact .inr (.inr (evolves.receivers receivers))

/-- What is disconnected stays disconnected. -/
theorem disconnected (evolves : Evolves manners own first second)
    (disconnected : first.state.chan.disconnected = true) :
    second.state.chan.disconnected = true := by
  rw [Chan.disconnected_iff] at disconnected ⊢
  exact disconnected.imp evolves.senders evolves.closed

/-- What changes later changes on top of what changed earlier. -/
theorem trans (earlier : Evolves manners own first second)
    (later : Evolves manners own second third) : Evolves manners own first third where
  log := earlier.log.trans later.log
  uses := later.uses.trans earlier.uses
  fresh := Nat.le_trans earlier.fresh later.fresh
  closed closed := later.closed (earlier.closed closed)
  senders none := later.senders (earlier.senders none)
  receivers none := later.receivers (earlier.receivers none)
  empty is_sealed empty := later.empty (earlier.sealed is_sealed) (earlier.empty is_sealed empty)
  slot none vacant := later.slot (earlier.receivers none) (earlier.slot none vacant)
  cap := later.cap.trans earlier.cap
  parked item held := by
    rcases earlier.parked item held with kept | fewer
    · exact (later.parked item kept).imp_right
        (Nat.lt_of_le_of_lt (removals_mono earlier.log))
    · exact .inr (Nat.lt_of_lt_of_le fewer (removals_mono later.log))
  gone receiver below gone := by
    obtain ⟨gone', last⟩ := earlier.gone receiver below gone
    obtain ⟨gone'', last'⟩ := later.gone receiver (Nat.lt_of_lt_of_le below earlier.fresh) gone'
    exact ⟨gone'', last ∘ last'⟩
  sends future used other := by
    rw [later.sends future (earlier.uses ▸ used) other, earlier.sends future used other]
  recvs future used other := by
    rw [later.recvs future (earlier.uses ▸ used) other, earlier.recvs future used other]
  streams receiver used other := by
    rw [later.streams receiver (earlier.uses ▸ used) other, earlier.streams receiver used other]
  waiting owner used waker waits :=
    earlier.waiting owner used waker (later.waiting owner (earlier.uses ▸ used) waker waits)
  terminal receiver used reported :=
    earlier.terminal receiver used (later.terminal receiver (earlier.uses ▸ used) reported)
  resolved owner used resolved :=
    earlier.resolved owner used (later.resolved owner (earlier.uses ▸ used) resolved)
  tickets fits side := (earlier.tickets (fits.of_suffix later.log) side).trans
    (later.tickets fits side)
  missing calm fits owner waker other missing :=
    earlier.missing calm (fits.of_suffix later.log) owner waker other
      (later.missing calm fits owner waker other missing)

/-- An operation that polls nothing respects a polled task all the more. -/
theorem weaken (evolves : Evolves manners none first second) : Evolves manners own first second :=
  { evolves with
    sends := fun future used _ => evolves.sends future used nofun
    recvs := fun future used _ => evolves.recvs future used nofun
    streams := fun receiver used _ => evolves.streams receiver used nofun
    missing := fun calm fits owner waker _ => evolves.missing calm fits owner waker nofun }

end Evolves

namespace Guarantee

variable {spare : Option (Side × UInt64)}

/-- Nothing has been done yet. -/
theorem refl (channel : Channel α) : Guarantee manners own spare channel channel where
  evolves := .refl channel
  balance := rfl
  emptied some none := absurd none some
  occupied parked := .inr ⟨parked, rfl⟩
  orphans _ _ _ _ orphan := orphan
  stuck _ rejecting _ member _ := ⟨rejecting, member⟩

/-- What is done later is done on top of what was done earlier. -/
theorem trans (earlier : Guarantee manners own spare first second)
    (later : Guarantee manners own spare second third) :
    Guarantee manners own spare first third where
  evolves := earlier.evolves.trans later.evolves
  balance := by
    have := earlier.balance
    have := later.balance
    omega
  emptied some none := by
    by_cases gone : second.state.chan.receivers = 0
    · exact later.evolves.empty (Chan.sealed_iff.mpr (.inr (.inr gone))) (earlier.emptied some gone)
    · exact later.emptied gone none
  occupied parked := by
    rcases later.occupied parked with stranded | ⟨parked', same⟩
    · exact .inl stranded
    · exact (earlier.occupied parked').imp (·.later later.evolves.log same)
        fun ⟨before, same'⟩ => ⟨before, same.trans same'⟩
  orphans fits side entry other orphan :=
    earlier.orphans (fits.of_suffix later.evolves.log) side entry other
      (later.orphans fits side entry other orphan)
  stuck fits rejecting entry member other := by
    obtain ⟨rejecting', member'⟩ := later.stuck fits rejecting entry member other
    exact earlier.stuck (fits.of_suffix later.evolves.log) rejecting' entry member' other

/-- What is promised without exceptions is promised with some. -/
theorem weaken (guarantee : Guarantee manners none none first second) :
    Guarantee manners own spare first second :=
  { guarantee with
    evolves := guarantee.evolves.weaken
    orphans := fun fits side entry _ => guarantee.orphans fits side entry nofun
    stuck := fun fits rejecting entry member _ =>
      guarantee.stuck fits rejecting entry member nofun }

/-- A registration that is gone is no exception. -/
theorem settle {side : Side} {id : UInt64}
    (guarantee : Guarantee manners own (some (side, id)) first second)
    (unfiled : Fits second.log → ∀ entry ∈ second.state.wakers side, entry.1 ≠ id) :
    Guarantee manners own none first second :=
  { guarantee with
    orphans := fun fits other entry _ orphan => by
      refine guarantee.orphans fits other entry ?_ orphan
      rintro ⟨⟩
      exact unfiled fits entry orphan.1 rfl
    stuck := fun fits rejecting entry member _ => by
      refine guarantee.stuck fits rejecting entry member ?_
      rintro ⟨⟩
      exact unfiled fits entry member rfl }

end Guarantee

/-! ### The events of callbacks -/

/-- The core does not concern itself with callbacks. -/
theorem Core.idle {channel : Channel α} (core : Core manners channel)
    {event : Event (Op α) (Result α) α} (idle : event.Idle) :
    Core manners (channel.logged event) := by
  obtain ⟨held, books, handles, futures, registries⟩ := core
  cases event with
  | called code =>
      have handles : Handles (channel.logged (.called code)) :=
        { handles with
          waiting := fun owner waker waits =>
            handles.waiting owner waker (waiting_called.mp waits).1 }
      cases code <;> first
        | exact idle.elim
        | exact ⟨held, { books with }, handles, { futures with }, { registries with }⟩
  | panicked code =>
      exact ⟨held, { books with }, { handles with }, { futures with }, { registries with }⟩
  | _ => exact idle.elim

/-- Receivers stay quiet while a callback is entered. -/
theorem RecvQuiet.idle {channel : Channel α} (quiet : RecvQuiet channel)
    {event : Event (Op α) (Result α) α} (idle : event.Idle) : RecvQuiet (channel.logged event) where
  disconnected := quiet.disconnected
  empty fits owner waker receives free waits := by
    cases event with
    | called code =>
        exact quiet.empty (fits.of_suffix (List.suffix_cons ..)) owner waker receives free
          (waiting_called.mp waits).1
    | panicked code =>
        exact quiet.empty (fits.of_suffix (List.suffix_cons ..)) owner waker receives free waits
    | _ => exact idle.elim

/-- Senders stay quiet while a callback is entered. -/
theorem SendQuiet.idle {channel : Channel α} (quiet : SendQuiet channel)
    {event : Event (Op α) (Result α) α} (idle : event.Idle) : SendQuiet (channel.logged event) := by
  intro fits owner waker sends free waits
  cases event with
  | called code =>
      exact quiet (fits.of_suffix (List.suffix_cons ..)) owner waker sends free
        (waiting_called.mp waits).1
  | panicked code =>
      exact quiet (fits.of_suffix (List.suffix_cons ..)) owner waker sends free waits
  | _ => exact idle.elim

/-- An event that no task waits by is no change. -/
theorem Guarantee.logged (channel : Channel α) {spare : Option (Side × UInt64)}
    {event : Event (Op α) (Result α) α}
    (waits : ∀ owner waker, own ≠ some owner ∨ owner.ref ∈ channel.state.uses →
      waiting owner (event :: channel.log) = some waker →
      waiting owner channel.log = some waker)
    (last : ∀ receiver, LastReceiver receiver (event :: channel.log) →
      LastReceiver receiver channel.log)
    (terminal : ∀ receiver, .receiverMut receiver ∈ channel.state.uses →
      Terminal receiver (event :: channel.log) → Terminal receiver channel.log)
    (resolved : ∀ owner, owner.ref ∈ channel.state.uses →
      Resolved owner (event :: channel.log) → Resolved owner channel.log)
    (receipt : receipts (event :: channel.log) = receipts channel.log ∨
      channel.state.chan.redelivery = none) :
    Guarantee manners own spare channel (channel.logged event) := by
  have same : Guarantee manners own spare channel channel := .refl channel
  have follows : ∀ side, (ledger channel side).Follows (ledger (channel.logged event) side) :=
    fun side => ⟨registrations_mono side (List.suffix_cons ..), fun _ _ => .inl, fun _ => .inl⟩
  exact { same with
    evolves := { same.evolves with
      log := List.suffix_cons ..
      parked := fun _ => .inl
      gone := fun receiver _ gone => ⟨gone, last receiver⟩
      waiting := fun owner used waker => waits owner waker (.inr used)
      terminal := terminal
      resolved := resolved
      tickets := fun _ => follows
      missing := fun _ _ owner waker other missing =>
        ⟨waits owner waker (.inl other) missing.1, missing.2⟩ }
    occupied := fun parked => .inr ⟨parked, receipt.resolve_right parked⟩
    orphans := fun _ _ _ _ orphan => orphan
    stuck := fun _ rejecting _ member _ => ⟨rejecting, member⟩ }

/-- An event that has no bearing on the tasks is no change. -/
theorem Guarantee.called (channel : Channel α) (code : Callback α)
    {spare : Option (Side × UInt64)} :
    Guarantee manners own spare channel (channel.logged (.called code)) :=
  .logged channel (fun _ _ _ waits => (waiting_called.mp waits).1) (fun _ => id) (fun _ _ => id)
    (fun _ _ => id) (.inl rfl)

/-- Callbacks carry the invariant and the guarantee on. -/
theorem carries : Carries (Inv (α := α) manners) (Guarantee manners none none) where
  refl := .refl
  trans _ _ _ := .trans
  logged channel event idle inv := by
    refine ⟨⟨inv.core.idle idle, inv.recvQuiet.idle idle, inv.sendQuiet.idle idle⟩, ?_⟩
    cases event with
    | called code => exact .called channel code
    | panicked code =>
        exact .logged channel (fun _ _ _ => id) (fun _ => id) (fun _ _ => id) (fun _ _ => id)
          (.inl rfl)
    | _ => exact idle.elim

end Lochan.Mpmc
