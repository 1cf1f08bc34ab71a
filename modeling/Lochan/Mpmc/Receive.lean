import Lochan.Mpmc.Register

/-!
# Receiving from an mpmc channel
-/

namespace Lochan.Mpmc

open Reentrant Queue

variable {α : Type} {manners : Manners} {own : Option Owner}
  {spare : Option (Side × UInt64)} {base channel after : Channel α} {owner : Owner}

/-- The registration id of a task in use changes only in the operation that uses it. -/
theorem Evolves.idOf_used (evolves : Evolves manners own channel after)
    (used : owner.ref ∈ channel.state.uses) (other : own ≠ some owner) (side : Side) :
    after.state.idOf side owner = channel.state.idOf side owner := by
  cases side <;> cases owner <;> try rfl
  · exact congrArg (Option.bind · Send.wakerId) (evolves.sends _ used other)
  · exact evolves.streams _ used other
  · exact congrArg (Option.bind · Recv.wakerId) (evolves.recvs _ used other)

/-- A task in use stays in use. -/
theorem Evolves.used (evolves : Evolves manners own channel after)
    (used : owner.ref ∈ channel.state.uses) : owner.ref ∈ after.state.uses :=
  evolves.uses.symm ▸ used

/-- A task in use completes only in the operation that uses it. -/
theorem Evolves.unfinished (evolves : Evolves manners own channel after) (handles : Handles after)
    (used : owner.ref ∈ channel.state.uses) (other : own ≠ some owner)
    (unfinished : channel.state.Unfinished owner) : after.state.Unfinished owner := by
  cases owner with
  | stream receiver => exact handles.uses _ (evolves.used used)
  | recv future =>
      obtain ⟨this, found, running⟩ := unfinished
      exact ⟨this, (evolves.recvs future used other).trans found, running⟩
  | send future =>
      obtain ⟨this, found, running⟩ := unfinished
      exact ⟨this, (evolves.sends future used other).trans found, running⟩

/-- A task in use that receives keeps a receiver alive. -/
theorem receiving_of_used (receives : owner.side = .receivers)
    (used : owner.ref ∈ channel.state.uses) : channel.state.Receiving := by
  refine ⟨owner.ref, used, ?_⟩
  cases owner with
  | stream _ | recv _ => trivial
  | send _ => cases receives

/-- Taking the id of a task keeps the invariant. -/
theorem Inv.take (inv : Inv manners channel) (owner : Owner) :
    Inv manners (reassigned channel owner none) :=
  ⟨inv.core.reassign nofun, inv.recvQuiet.reassign (.inl rfl), inv.sendQuiet.reassign (.inl rfl)⟩

/-- A task that gives up its id leaves at most one registration behind. -/
theorem Guarantee.take (owner : Owner) (channel : Channel α) :
    Guarantee manners (some owner)
      ((channel.state.idOf owner.side owner).map fun id => (owner.side, id)) channel
      (reassigned channel owner none) :=
  (Guarantee.refl channel).reassign nofun fun _ same => by rw [same]; rfl

/-- The id that a task gives up is held by nobody. -/
theorem Inv.taken (inv : Inv manners channel) {id : UInt64}
    (holds : channel.state.idOf owner.side owner = some id) :
    Unheld (reassigned channel owner none) owner.side id where
  issued fits := (inv.core.registries.tickets fits owner.side).held owner id holds
  free fits other holds' := by
    rcases State.idOf_setWakerId_cases holds' with ⟨kept, different⟩ | ⟨-, given⟩
    · exact different ((inv.core.registries.tickets fits owner.side).sole _ _ _ kept holds)
    · cases given

/-- Once nothing is registered under the id that a task gave up, it left nothing behind. -/
theorem Guarantee.settleAll {side : Side} {id : Option UInt64}
    (guarantee : Guarantee manners own (id.map fun id => (side, id)) channel after)
    (unfiled : ∀ held, id = some held → Unfiled after side held) :
    Guarantee manners own none channel after := by
  cases id with
  | none => exact guarantee
  | some id => exact guarantee.settle (unfiled id rfl)

/-- What a poll of a receiving task answers. -/
structure PollAnswer (manners : Manners) (owner : Owner) (waker : Waker)
    (before after : Channel α) (polled : Poll (Option α)) : Prop where
  pending : polled = .pending → after.state.Unfinished owner → after.state.chan.contents = [] ∧
    (manners.calm → Fits after.log → ¬ Missing after owner waker)
  still : polled = .pending → before.state.Unfinished owner → after.state.Unfinished owner
  handed : ∀ item, polled = .ready (some item) → after.state.chan.redelivery = none
  ended : polled = .ready none → after.state.chan.disconnected = true ∧
    after.state.chan.contents = [] ∧ after.state.idOf .receivers owner = none
  spent : before.state.Unfinished owner → before.state.chan.disconnected = true →
    before.state.chan.contents = [] → polled = .ready none

/-- No item enters a channel whose receivers observe disconnect. -/
theorem Chan.sealed_of_disconnected {chan : Chan α} (disconnected : chan.disconnected = true) :
    chan.sealed = true := by
  rw [Chan.disconnected_iff] at disconnected
  rw [Chan.sealed_iff]
  exact disconnected.elim (.inr ∘ .inl) .inl

/-- A channel that is disconnected and empty stays so. -/
theorem Evolves.spent (evolves : Evolves manners own channel after)
    (disconnected : channel.state.chan.disconnected = true)
    (empty : channel.state.chan.contents = []) :
    after.state.chan.disconnected = true ∧ after.state.chan.contents = [] :=
  ⟨evolves.disconnected disconnected,
    evolves.empty (Chan.sealed_of_disconnected disconnected) empty⟩

section Functions

variable {contract : Prog.Contract (Channel α) (Callback α) Panic}
  {admits : Callback α → Panic → Channel α → Prop} (setting : Setting manners contract admits)
include setting

/-- A task gives up its id, and its registration is removed. -/
theorem removeOwn_spec (inv : Inv manners channel) (receives : owner.side = .receivers) :
    (Receiver.removeOwn owner : M α Unit).wp contract
      (fun _ after => Inv manners after ∧ Guarantee manners (some owner) none channel after ∧
        (owner.ref ∈ channel.state.uses → after.state.idOf .receivers owner = none ∧
          (channel.state.Unfinished owner → after.state.Unfinished owner)))
      (fun _ after => Inv manners after ∧ Guarantee manners (some owner) none channel after ∧
        (owner.ref ∈ channel.state.uses →
          channel.state.Unfinished owner → after.state.Unfinished owner))
      channel := by
  have gone : ∀ {after}, Inv manners after →
      Guarantee manners none none (reassigned channel owner none) after →
      owner.ref ∈ channel.state.uses → after.state.idOf .receivers owner = none ∧
        (channel.state.Unfinished owner → after.state.Unfinished owner) := by
    intro after inv' guaranteed used
    have used : owner.ref ∈ (reassigned channel owner none).state.uses :=
      reassigned_uses.symm ▸ used
    refine ⟨?_, fun unfinished => guaranteed.evolves.unfinished inv'.core.handles used nofun
      (State.unfinished_setWakerId.mpr unfinished)⟩
    rw [guaranteed.evolves.idOf_used used nofun]
    exact State.idOf_taken
  have left : Guarantee manners (some owner) _ channel _ := .take owner channel
  have unheld : ∀ id, channel.state.idOf owner.side owner = some id →
      Unheld (reassigned channel owner none) owner.side id := fun _ holds => inv.taken holds
  rw [receives] at left unheld
  simp only [Receiver.removeOwn, Prog.wp_bind, wp_takeWakerId, State.wakerId_eq, receives]
  refine Prog.wp_mono (removeRecv_spec setting (inv.take owner) unheld) ?_ ?_
  · rintro _ after ⟨inv', guaranteed, unfiled⟩
    exact ⟨inv', (left.trans guaranteed.weaken).settleAll unfiled, gone inv' guaranteed⟩
  · rintro _ after ⟨inv', guaranteed, unfiled, -⟩
    exact ⟨inv', (left.trans guaranteed.weaken).settleAll unfiled,
      fun used => (gone inv' guaranteed used).2⟩

/-- Registering a task that is being polled: unless the channel is disconnected, it is
parked. -/
theorem addRecvWaker_spec (inv : Inv manners channel) (receives : owner.side = .receivers)
    (used : owner.ref ∈ channel.state.uses)
    (idle : channel.state.idOf .receivers owner = none) (empty : channel.state.chan.contents = [])
    (running : ∀ receiver, owner = .stream receiver → ¬ Terminal receiver channel.log)
    (waker : Waker) :
    (do let id ← addRecvWaker waker; setWakerId owner id : M α Unit).wp contract
      (fun _ after => Inv manners after ∧ Guarantee manners (some owner) none channel after ∧
        (after.state.chan.disconnected = true ∨ Parked after owner waker) ∧
        (channel.state.Unfinished owner → after.state.Unfinished owner))
      (fun _ after => Inv manners after ∧ Guarantee manners (some owner) none channel after ∧
        (channel.state.Unfinished owner → after.state.Unfinished owner)) channel := by
  have vacant := inv.core.vacant .receivers
  have kept := inv.issue .receivers fun _ => empty
  have issues : Guarantee manners (some owner) none channel (issued channel .receivers) := .issue ..
  have number : Fits channel.log →
      registrations owner.side channel.log ≤ channel.state.chan.nextRecvId.toNat := fun fits =>
    receives ▸ Nat.le_of_eq (inv.core.registries.nextId_toNat fits .receivers).symm
  have waits : ∀ {after}, Inv manners after →
      Guarantee manners none none (issued channel .receivers) after →
      channel.state.Unfinished owner → after.state.Unfinished owner := by
    intro after inv' evolves unfinished
    have unfinished : (issued channel .receivers).state.Unfinished owner := by
      cases owner <;> exact unfinished
    exact evolves.evolves.unfinished inv'.core.handles used nofun unfinished
  -- What holds wherever the task takes the id.
  have holds : ∀ {before}, Inv manners before →
      Guarantee manners none none (issued channel .receivers) before →
      MayHold before owner channel.state.chan.nextRecvId ∧
        Vacant before .receivers channel.state.chan.nextRecvId ∧
        owner.ref ∈ before.state.uses ∧
        Guarantee manners (some owner) none channel
          (reassigned before owner (some channel.state.chan.nextRecvId)) ∧
        (channel.state.Unfinished owner →
          (reassigned before owner
            (some channel.state.chan.nextRecvId)).state.Unfinished owner) := by
    intro before inv' evolves
    have vacant := vacant.later evolves.evolves
    have used' : owner.ref ∈ before.state.uses := evolves.evolves.used used
    have guaranteed := issues.trans evolves.weaken
    refine ⟨⟨inv'.core.handles.uses _ used', ?_, ?_, receives ▸ vacant.issued,
      receives ▸ vacant.free⟩, vacant, used', guaranteed.reassign ?_ ?_, fun unfinished => ?_⟩
    · rintro receiver rfl ended
      exact running receiver rfl (evolves.evolves.terminal receiver used ended)
    · rintro future this rfl
      cases receives
    · rintro held ⟨⟩ fits
      exact number (fits.of_suffix guaranteed.evolves.log)
    · intro held same
      have idle' : before.state.idOf .receivers owner = none :=
        (evolves.evolves.idOf_used used nofun .receivers).trans idle
      rw [receives, idle'] at same
      cases same
    · exact State.unfinished_setWakerId.mpr (waits inv' evolves unfinished)
  -- The id is recorded without a registration where the channel is disconnected.
  have skips : ∀ {before}, Inv manners before →
      Guarantee manners none none (issued channel .receivers) before →
      before.state.chan.disconnected = true →
      Inv manners (reassigned before owner (some channel.state.chan.nextRecvId)) ∧
        Guarantee manners (some owner) none channel
          (reassigned before owner (some channel.state.chan.nextRecvId)) ∧
        ((reassigned before owner (some channel.state.chan.nextRecvId)).state.chan.disconnected =
          true ∨ Parked (reassigned before owner (some channel.state.chan.nextRecvId)) owner
            waker) ∧
        (channel.state.Unfinished owner →
          (reassigned before owner
            (some channel.state.chan.nextRecvId)).state.Unfinished owner) := by
    intro before inv evolves disconnected
    obtain ⟨may, -, used, guaranteed, still⟩ := holds inv evolves
    refine ⟨⟨inv.core.reassign ?_, inv.recvQuiet.reassign (.inr used),
      inv.sendQuiet.reassign (.inr used)⟩, guaranteed, .inl (reassigned_chan.symm ▸ disconnected),
      still⟩
    rintro held ⟨⟩
    exact may
  have alive : ∀ {before : Channel α}, Inv manners before → owner.ref ∈ before.state.uses →
      (before.state.chan.disconnected || before.state.chan.receivers == 0) =
        before.state.chan.disconnected := by
    intro before inv used
    simp [inv.core.handles.receiving (receiving_of_used receives used)]
  rw [Prog.wp_bind]
  refine wp_addRecvWaker (fun ends => ?_) ?_
  · rw [alive inv used] at ends
    exact skips kept (.refl _) ends
  · refine Prog.wp_mono (setting.relies.runs carries (.clone waker) trivial kept) ?_ ?_
    · rintro _ cloned ⟨inv', guaranteed⟩
      refine ⟨inv'.core.held, ?_⟩
      obtain ⟨may, vacant', used', recorded, still⟩ := holds inv' guaranteed
      rw [alive inv' used']
      split
      · rename_i disconnected
        refine Prog.wp_mono (setting.relies.runs carries (.dropWaker waker) trivial inv') ?_ ?_
        · rintro _ after ⟨inv'', guaranteed'⟩
          exact skips inv'' (guaranteed.trans guaranteed')
            (guaranteed'.evolves.disconnected disconnected)
        · rintro _ after ⟨inv'', guaranteed', -⟩
          have guaranteed := guaranteed.trans guaranteed'
          exact ⟨inv'', issues.trans guaranteed.weaken, waits inv'' guaranteed⟩
      · rename_i connected
        have connected : cloned.state.chan.disconnected = false := by simpa using connected
        have same : (filed cloned .receivers channel.state.chan.nextRecvId waker).onState
            (·.setWakerId (some channel.state.chan.nextRecvId) owner) =
            filed (reassigned cloned owner (some channel.state.chan.nextRecvId)) owner.side
              channel.state.chan.nextRecvId waker := receives ▸ reassigned_filed
        simp only [wp_setWakerId]
        rw [same]
        refine ⟨inv'.enroll used' may (receives ▸ vacant') (fun _ => connected) waker, ?_,
          .inr (.enrolled may.live waker), fun unfinished => ?_⟩
        swap
        · have still := still unfinished
          cases owner <;> exact still
        exact recorded.file (fun fits => number (fits.of_suffix recorded.evolves.log))
          (State.idOf_setWakerId may.live) waker (by simp [receives])
    · rintro _ cloned ⟨inv', guaranteed, -⟩
      exact ⟨inv', issues.trans guaranteed.weaken, waits inv' guaranteed⟩

/-- A poll hands out the oldest item, observes the end, or leaves the task parked. -/
theorem pollRecv_spec (inv : Inv manners channel) (receives : owner.side = .receivers)
    (used : owner.ref ∈ channel.state.uses) (waker : Waker) :
    (Receiver.pollRecv waker owner : M α (Poll (Option α))).wp contract
      (fun polled after => Inv manners after ∧ Guarantee manners (some owner) none channel after ∧
        PollAnswer manners owner waker channel after polled)
      (fun _ after => Inv manners after ∧ Guarantee manners (some owner) none channel after ∧
        (channel.state.Unfinished owner → after.state.Unfinished owner)) channel := by
  simp only [Receiver.pollRecv, Prog.wp_bind]
  refine Prog.wp_mono (removeOwn_spec setting inv receives) ?_
    (fun _ _ unwound => ⟨unwound.1, unwound.2.1, unwound.2.2 used⟩)
  rintro _ removed ⟨inv₁, removes, idle⟩
  obtain ⟨idle, still₁⟩ := idle used
  have used₁ := removes.evolves.used used
  refine Prog.wp_mono (tryTake_spec setting inv₁ (receiving_of_used receives used₁)) ?_ ?_
  swap
  · rintro _ after ⟨inv₂, taking⟩
    exact ⟨inv₂, removes.trans taking.weaken, fun unfinished =>
      taking.evolves.unfinished inv₂.core.handles used₁ nofun (still₁ unfinished)⟩
  rintro taken tried ⟨inv₂, taking, empty, handed⟩
  have tries := removes.trans taking.weaken
  have idle₂ : tried.state.idOf .receivers owner = none :=
    (taking.evolves.idOf_used used₁ nofun .receivers).trans idle
  have still₂ : channel.state.Unfinished owner → tried.state.Unfinished owner := fun unfinished =>
    taking.evolves.unfinished inv₂.core.handles used₁ nofun (still₁ unfinished)
  cases taken with
  | some item =>
      obtain ⟨nonempty, vacated⟩ := handed nofun
      refine ⟨inv₂, tries, nofun, nofun, fun _ _ => vacated, nofun, fun _ disconnected none => ?_⟩
      obtain ⟨disconnected, none⟩ := removes.evolves.spent disconnected none
      exact absurd none (nonempty (Chan.sealed_of_disconnected disconnected))
  | none =>
      simp only [Prog.wp_bind, wp_getChan, Prog.wp_ite]
      by_cases disconnected : tried.state.chan.disconnected = true
      · simp only [disconnected, ↓reduceIte]
        exact ⟨inv₂, tries, nofun, nofun, nofun, fun _ => ⟨disconnected, empty rfl, idle₂⟩,
          fun _ _ _ => rfl⟩
      simp only [disconnected, Bool.false_eq_true, ↓reduceIte]
      have fresh : channel.state.chan.disconnected = true → channel.state.chan.contents = [] →
          ∀ answer : Poll (Option α), answer = .ready none := fun before none =>
        absurd (tries.evolves.spent before none).1 disconnected
      have running : ∀ receiver, owner = .stream receiver → ¬ Terminal receiver tried.log :=
        fun receiver _ ended => disconnected
          (inv₂.core.books.observed (inv₂.core.books.terminal receiver ended).1).1
      have used₂ := tries.evolves.used used
      have registers := addRecvWaker_spec setting inv₂ receives used₂ idle₂
          (empty rfl) running waker
      rw [Prog.wp_bind] at registers
      refine Prog.wp_mono registers (fun id _ sets => Prog.wp_mono sets ?_ ?_) ?_
      · rintro _ registered ⟨inv₃, registers, parked, still₃⟩
        have used₃ := registers.evolves.used used₂
        refine Prog.wp_mono (tryTake_spec setting inv₃ (receiving_of_used receives used₃)) ?_ ?_
        swap
        · rintro _ after ⟨inv₄, retaking⟩
          exact ⟨inv₄, tries.trans (registers.trans retaking.weaken), fun unfinished =>
            retaking.evolves.unfinished inv₄.core.handles used₃ nofun (still₃ (still₂ unfinished))⟩
        rintro taken retried ⟨inv₄, retaking, empty, handed⟩
        have retries := tries.trans (registers.trans retaking.weaken)
        have used₄ := retaking.evolves.used used₃
        have still₄ : channel.state.Unfinished owner → retried.state.Unfinished owner :=
          fun unfinished => retaking.evolves.unfinished inv₄.core.handles used₃ nofun
            (still₃ (still₂ unfinished))
        cases taken with
        | some item =>
            exact ⟨inv₄, retries, nofun, nofun, fun _ _ => (handed nofun).2, nofun,
              fun _ before none => fresh before none _⟩
        | none =>
            simp only [Prog.wp_bind, wp_getChan, Prog.wp_ite]
            by_cases ends : retried.state.chan.disconnected = true
            · simp only [ends, ↓reduceIte]
              refine Prog.wp_mono (removeOwn_spec setting inv₄ receives) ?_ ?_
              · rintro _ after ⟨inv₅, removes', idle'⟩
                obtain ⟨disconnected, none⟩ := removes'.evolves.spent ends (empty rfl)
                exact ⟨inv₅, retries.trans removes', nofun, nofun, nofun, fun _ =>
                  ⟨disconnected, none, (idle' used₄).1⟩, fun _ _ _ => rfl⟩
              · rintro _ after ⟨inv₅, removes', still'⟩
                exact ⟨inv₅, retries.trans removes', fun unfinished =>
                  still' used₄ (still₄ unfinished)⟩
            · simp only [ends, Bool.false_eq_true, ↓reduceIte]
              refine ⟨inv₄, retries, fun _ _ => ⟨empty rfl, fun calm fits missing => ?_⟩,
                fun _ => still₄, nofun, nofun, fun _ before none => fresh before none _⟩
              -- The task was parked, and what it missed since it would have missed then.
              rcases parked with isOver | parked
              · exact ends (retaking.evolves.disconnected isOver)
              · exact (retaking.evolves.missing calm fits owner waker nofun missing).2.2 parked
      · rintro _ after ⟨inv₃, registers, still₃⟩
        exact ⟨inv₃, tries.trans registers, fun unfinished => still₃ (still₂ unfinished)⟩
      · rintro _ after ⟨inv₃, registers, still₃⟩
        exact ⟨inv₃, tries.trans registers, fun unfinished => still₃ (still₂ unfinished)⟩

end Functions

/-! ### The receive future -/

section Complete

variable {future : Nat}

/-- The channel after a receive future completed. -/
abbrev completed (channel : Channel α) (future : Nat) : Channel α :=
  channel.onState (·.updateRecv future fun this => { this with done := true })

/-- Completing a future leaves the ids as they are. -/
theorem idOf_completed : (completed channel future).state.idOf = channel.state.idOf := by
  funext side owner
  cases side <;> cases owner <;> try rfl
  rename_i key
  by_cases same : key = future
  · subst same
    cases found : channel.state.recvs key <;> simp [State.idOf, State.updateRecv, found]
  · simp [State.idOf, State.updateRecv, Function.update_of_ne same]

/-- A future that completes is unfinished no more, and the others are as before. -/
theorem unfinished_completed (unfinished : (completed channel future).state.Unfinished owner) :
    channel.state.Unfinished owner ∧ owner ≠ .recv future := by
  cases owner with
  | recv key =>
      obtain ⟨this, found, running⟩ := unfinished
      obtain ⟨before, present, ⟨-, rfl⟩ | ⟨other, rfl⟩⟩ := State.updateRecv_some found
      · cases running
      · exact ⟨⟨_, present, running⟩, fun same => other (Owner.recv.inj same)⟩
  | stream _ | send _ => exact ⟨unfinished, nofun⟩

/-- Completing a future leaves the registries as they are. -/
theorem parked_completed {waker : Waker} :
    Parked (completed channel future) owner waker ↔ Parked channel owner waker := by
  simp only [Parked, idOf_completed]
  rfl

/-- A future in use may complete. -/
theorem Inv.complete (inv : Inv manners channel) (used : .recv future ∈ channel.state.uses)
    (polled : Polled future channel.log) : Inv manners (completed channel future) := by
  obtain ⟨⟨held, books, handles, futures, registries⟩, recvQuiet, sendQuiet⟩ := inv
  refine ⟨⟨held, { books with }, { handles with recv := ?_, uses := ?_ },
    { futures with polled := ?_, received := ?_ }, ⟨registries.next, fun fits side => ?_⟩⟩,
    ⟨recvQuiet.disconnected, ?_⟩, ?_⟩
  · intro key this found
    obtain ⟨before, present, ⟨-, rfl⟩ | ⟨-, rfl⟩⟩ := State.updateRecv_some found <;>
      exact (handles.recv key _ present :)
  · intro ref used
    have live := handles.uses ref used
    cases ref with
    | recv key =>
        by_cases same : key = future
        · subst same
          simpa [State.RefLive, State.updateRecv] using live
        · simpa [State.RefLive, State.updateRecv, Function.update_of_ne same] using live
    | _ => exact live
  · intro key this found done
    obtain ⟨before, present, ⟨rfl, rfl⟩ | ⟨-, rfl⟩⟩ := State.updateRecv_some found
    · exact polled
    · exact futures.polled key _ present done
  · intro key this found free
    obtain ⟨before, present, ⟨rfl, rfl⟩ | ⟨-, rfl⟩⟩ := State.updateRecv_some found
    · exact absurd used free
    · exact futures.received key _ present free
  · have sound := registries.tickets fits side
    show Ticket.Ledger.Sound ⟨_, (completed channel future).state.idOf side, _⟩
    rw [idOf_completed]
    exact sound
  · intro fits owner waker receives free waits unfinished parked
    exact recvQuiet.empty fits owner waker receives free waits (unfinished_completed unfinished).1
      (parked_completed.mp parked)
  · intro fits owner waker sends free waits unfinished parked
    exact sendQuiet fits owner waker sends free waits (unfinished_completed unfinished).1
      (parked_completed.mp parked)

/-- Completing a future changes nothing else. -/
theorem Guarantee.complete :
    Guarantee manners (some (.recv future)) spare channel (completed channel future) := by
  have same : Guarantee manners (some (.recv future)) spare channel channel := .refl channel
  have ledgers : ∀ side, ledger (completed channel future) side = ledger channel side := by
    intro side
    show Ticket.Ledger.mk _ ((completed channel future).state.idOf side) _ = _
    rw [idOf_completed]
    rfl
  exact { same with
    evolves := { same.evolves with
      recvs := fun key _ other => Function.update_of_ne (fun same => other (by rw [same])) ..
      tickets := fun _ side => ledgers side ▸ .refl _
      missing := fun _ _ owner waker _ missing => ⟨missing.1,
        (unfinished_completed missing.2.1).1,
        fun parked => missing.2.2 (parked_completed.mpr parked)⟩ }
    orphans := fun _ side entry _ orphan => ledgers side ▸ orphan }

end Complete

section Functions

variable {contract : Prog.Contract (Channel α) (Callback α) Panic}
  {admits : Callback α → Panic → Channel α → Prop} (setting : Setting manners contract admits)
include setting

/-- Polling a receive future keeps the invariant, and answers as the receiver does. -/
theorem pollRecvFuture_spec {future : Nat} (inv : Inv manners channel)
    (used : .recv future ∈ channel.state.uses) (polled : Polled future channel.log)
    (waker : Waker) :
    (RecvFuture.poll future waker : M α (Poll (Option α))).wp contract
      (fun polled after => Inv manners after ∧
        Guarantee manners (some (.recv future)) none channel after ∧
        PollAnswer manners (.recv future) waker channel after polled ∧
        (after.state.Unfinished (.recv future) ↔
          channel.state.Unfinished (.recv future) ∧ polled = .pending))
      (fun _ after => Inv manners after ∧
        Guarantee manners (some (.recv future)) none channel after ∧
        (after.state.Unfinished (.recv future) ↔ channel.state.Unfinished (.recv future)))
      channel := by
  obtain ⟨this, found⟩ := Option.isSome_iff_exists.mp (inv.core.handles.uses _ used)
  simp only [RecvFuture.poll, Prog.wp_bind, wp_getState, found, Prog.wp_ite]
  by_cases done : this.done = true
  · have isOver : ¬ channel.state.Unfinished (.recv future) := by
      rintro ⟨other, present, running⟩
      obtain rfl : this = other := Option.some.inj (found.symm.trans present)
      exact absurd (running.symm.trans done) (by decide)
    have left : Guarantee manners (some (.recv future)) _ channel _ := .take (.recv future) channel
    have unheld : ∀ id, channel.state.idOf .receivers (.recv future) = some id →
        Unheld (reassigned channel (.recv future) none) .receivers id := fun _ same =>
          inv.taken same
    have taken := inv.take (.recv future)
    have used' : .recv future ∈ (reassigned channel (.recv future) none).state.uses :=
      reassigned_uses.symm ▸ used
    -- A future that is done stays done.
    have over' : ∀ {after}, Guarantee manners none none (reassigned channel (.recv future) none)
        after → ¬ after.state.Unfinished (.recv future) := by
      rintro after evolves ⟨other, present, running⟩
      rw [evolves.evolves.recvs future used' (by rintro ⟨⟩)] at present
      have before : (channel.state.setWakerId none (.recv future)).Unfinished (.recv future) :=
        ⟨other, present, running⟩
      exact isOver (State.unfinished_setWakerId.mp before)
    have answers : ∀ {after}, Guarantee manners none none (reassigned channel (.recv future) none)
        after → PollAnswer manners (.recv future) waker channel after .pending ∧
          (after.state.Unfinished (.recv future) ↔
            channel.state.Unfinished (.recv future) ∧ (.pending : Poll (Option α)) = .pending) :=
      fun evolves => ⟨⟨fun _ unfinished => absurd unfinished (over' evolves),
        fun _ unfinished => absurd unfinished isOver, by simp, by simp,
        fun unfinished => absurd unfinished isOver⟩,
        ⟨fun unfinished => absurd unfinished (over' evolves),
          fun unfinished => absurd unfinished.1 isOver⟩⟩
    simp only [done, ↓reduceIte, wp_takeWakerId, State.wakerId_eq]
    cases holds : channel.state.idOf .receivers (.recv future) with
    | none =>
        simp only [Owner.side, holds, Option.map_none] at left ⊢
        exact ⟨taken, left, answers (.refl _)⟩
    | some id =>
        simp only [Owner.side, holds, Option.map_some, Prog.wp_bind] at left ⊢
        have removes := removeRecv_spec setting taken unheld
        rw [holds] at removes
        refine Prog.wp_mono removes ?_ ?_
        · rintro _ removed ⟨inv', removes, unfiled⟩
          have settled := (left.trans removes.weaken).settle (unfiled id rfl)
          refine Prog.wp_mono (setting.relies.runs carries (.wakeByRef waker) trivial inv') ?_ ?_
          · rintro _ after ⟨inv'', wakes⟩
            exact ⟨inv'', settled.trans wakes.weaken, answers (removes.trans wakes)⟩
          · rintro _ after ⟨inv'', wakes, -⟩
            exact ⟨inv'', settled.trans wakes.weaken,
              iff_of_false (over' (removes.trans wakes)) isOver⟩
        · rintro _ removed ⟨inv', removes, unfiled, -⟩
          exact ⟨inv', (left.trans removes.weaken).settle (unfiled id rfl),
            iff_of_false (over' removes) isOver⟩
  · simp only [done, Bool.false_eq_true, ↓reduceIte]
    have used : (Owner.recv future).ref ∈ channel.state.uses := used
    have unfinished : channel.state.Unfinished (.recv future) := ⟨this, found, by simpa using done⟩
    refine Prog.wp_mono (pollRecv_spec setting inv rfl used waker) ?_ ?_
    · rintro answer after ⟨inv', evolves, pending, still, handed, ended, spent⟩
      cases answer with
      | pending =>
          exact ⟨inv', evolves, ⟨pending, still, handed, ended, spent⟩,
            iff_of_true (still rfl unfinished) ⟨unfinished, rfl⟩⟩
      | ready item =>
          have later : Polled future after.log := polled.later evolves.evolves.log
          refine ⟨inv'.complete (evolves.evolves.used used) later, evolves.trans .complete,
            ⟨by rintro ⟨⟩, by rintro ⟨⟩, fun item same => handed item same,
              fun same => ?_, spent⟩, ?_⟩
          · obtain ⟨disconnected, empty, idle⟩ := ended same
            exact ⟨disconnected, empty, (congrFun₂ idOf_completed _ _).trans idle⟩
          · exact ⟨fun unfinished => absurd rfl (unfinished_completed unfinished).2,
              fun still => by cases still.2⟩
    · rintro _ after ⟨inv', evolves, still⟩
      exact ⟨inv', evolves, iff_of_true (still unfinished) unfinished⟩

end Functions

end Lochan.Mpmc
