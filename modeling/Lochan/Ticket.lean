import Mathlib.Data.List.Perm.Subperm
import Mathlib.Data.List.Nodup

/-!
# Ledgers of tickets

A counter issues 64-bit tickets. An owner may hold a ticket, and an entry may be
filed under one. As long as the counter has not wrapped around, a ticket has at most
one holder and one entry, and is never passed on.
-/

namespace Ticket

variable {ι β : Type}

/-- The entries filed, the ticket each owner holds, and the number issued. -/
structure Ledger (ι β : Type) where
  entries : List (UInt64 × β)
  ids : ι → Option UInt64
  issued : Nat

namespace Ledger

/-- Every ticket in use was issued, and has one holder and one entry at most. -/
structure Sound (ledger : Ledger ι β) : Prop where
  keys : (ledger.entries.map Prod.fst).Nodup
  filed : ∀ entry ∈ ledger.entries, entry.1.toNat < ledger.issued
  held : ∀ owner id, ledger.ids owner = some id → id.toNat < ledger.issued
  sole : ∀ owner other id, ledger.ids owner = some id → ledger.ids other = some id → owner = other

/-- An entry whose ticket nobody holds. -/
def Orphan (ledger : Ledger ι β) (entry : UInt64 × β) : Prop :=
  entry ∈ ledger.entries ∧ ∀ owner, ledger.ids owner ≠ some entry.1

/-- What never happens to a ledger: a ticket is passed on, or an entry is filed under
a ticket that was issued before. -/
structure Follows (before after : Ledger ι β) : Prop where
  issued : before.issued ≤ after.issued
  ids : ∀ owner id, after.ids owner = some id →
    before.ids owner = some id ∨ before.issued ≤ id.toNat
  entries : ∀ entry ∈ after.entries, entry ∈ before.entries ∨ before.issued ≤ entry.1.toNat

/-- An empty registry is sound if nobody holds a ticket. -/
theorem Sound.initial (ids : ι → Option UInt64) (none : ∀ owner, ids owner = none) :
    Sound (⟨[], ids, 0⟩ : Ledger ι β) :=
  ⟨List.nodup_nil, by simp, by simp [none], by simp [none]⟩

/-- A registry stays sound when tickets are issued to nobody. -/
theorem Sound.issue {entries : List (UInt64 × β)} {ids : ι → Option UInt64} {issued later : Nat}
    (sound : Sound ⟨entries, ids, issued⟩) (le : issued ≤ later) : Sound ⟨entries, ids, later⟩ where
  keys := sound.keys
  filed entry member := Nat.lt_of_lt_of_le (sound.filed entry member) le
  held owner id holds := Nat.lt_of_lt_of_le (sound.held owner id holds) le
  sole := sound.sole

/-- A registry stays sound when entries are withdrawn. -/
theorem Sound.withdraw {entries rest : List (UInt64 × β)} {ids : ι → Option UInt64} {issued : Nat}
    (sound : Sound ⟨entries, ids, issued⟩) (fewer : rest.Subperm entries) :
    Sound ⟨rest, ids, issued⟩ where
  keys := by
    obtain ⟨some, perm, sublist⟩ := fewer
    have nodup := sound.keys.sublist (sublist.map Prod.fst)
    exact (perm.map Prod.fst).nodup_iff.mp nodup
  filed entry member := sound.filed entry (fewer.subset member)
  held := sound.held
  sole := sound.sole

/-- A registry stays sound when owners let go of their tickets. -/
theorem Sound.release {entries : List (UInt64 × β)} {ids kept : ι → Option UInt64} {issued : Nat}
    (sound : Sound ⟨entries, ids, issued⟩)
    (fewer : ∀ owner id, kept owner = some id → ids owner = some id) :
    Sound ⟨entries, kept, issued⟩ where
  keys := sound.keys
  filed := sound.filed
  held owner id holds := sound.held owner id (fewer owner id holds)
  sole owner other id left right := sound.sole owner other id (fewer _ _ left) (fewer _ _ right)

/-- A registry stays sound when a ticket that was issued is filed. -/
theorem Sound.file {entries : List (UInt64 × β)} {ids : ι → Option UInt64} {issued : Nat}
    (sound : Sound ⟨entries, ids, issued⟩) {id : UInt64} (below : id.toNat < issued)
    (unfiled : ∀ entry ∈ entries, entry.1 ≠ id) (value : β) :
    Sound ⟨entries ++ [(id, value)], ids, issued⟩ where
  keys := by
    rw [List.map_append, List.nodup_append]
    refine ⟨sound.keys, List.nodup_singleton id, ?_⟩
    intro key member other single
    obtain ⟨entry, inside, rfl⟩ := List.mem_map.mp member
    obtain rfl : other = id := by simpa using single
    exact unfiled entry inside
  filed entry member := by
    rcases List.mem_append.mp member with inside | last
    · exact sound.filed entry inside
    · obtain rfl : entry = (id, value) := by simpa using last
      exact below
  held := sound.held
  sole := sound.sole

/-- A registry stays sound when one owner takes a ticket that nobody holds. -/
theorem Sound.hold {entries : List (UInt64 × β)} {ids later : ι → Option UInt64}
    {issued : Nat} (sound : Sound ⟨entries, ids, issued⟩) {id : UInt64} (below : id.toNat < issued)
    (free : ∀ owner, ids owner ≠ some id) (owner : ι)
    (update : ∀ other held, later other = some held →
      ids other = some held ∨ other = owner ∧ held = id) :
    Sound ⟨entries, later, issued⟩ where
  keys := sound.keys
  filed := sound.filed
  held other held holds := by
    rcases update other held holds with kept | ⟨-, rfl⟩
    · exact sound.held other held kept
    · exact below
  sole first second held left right := by
    rcases update first held left with kept | ⟨rfl, rfl⟩ <;>
      rcases update second held right with kept' | ⟨same, same'⟩
    · exact sound.sole first second held kept kept'
    · exact absurd (same' ▸ kept) (free first)
    · exact absurd kept' (free second)
    · exact same.symm

/-- A registry follows on itself. -/
theorem Follows.refl (ledger : Ledger ι β) : Follows ledger ledger :=
  ⟨Nat.le_refl _, fun _ _ => .inl, fun _ => .inl⟩

/-- What follows on a later registry follows on an earlier one. -/
theorem Follows.trans {first second third : Ledger ι β} (earlier : Follows first second)
    (later : Follows second third) : Follows first third where
  issued := Nat.le_trans earlier.issued later.issued
  ids owner id holds := by
    rcases later.ids owner id holds with kept | issued
    · exact earlier.ids owner id kept
    · exact .inr (Nat.le_trans earlier.issued issued)
  entries entry member := by
    rcases later.entries entry member with kept | issued
    · exact earlier.entries entry kept
    · exact .inr (Nat.le_trans earlier.issued issued)

end Ledger

end Ticket
