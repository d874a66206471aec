import IsaUser.Membership.Reconciliation

/-!
# What the Table of Memberships Takes

A row is written only if its numbers are in range and no other row of the user in the organization
is active or pending. So a statement that leaves user, organization and status of a row alone is
refused only for its numbers.

## Main results

* `admitted_handle`: every statement keeps the table as it takes it.
* `update_admitted`: an update that is not refused.
-/

open Option

namespace IsaUser.Memberships

open World

/-- What the table of memberships takes: numbers in range, and one membership that is active or
pending for a user in an organization. -/
structure World.Admitted (w : World) : Prop where
  inRange : ∀ id, ∀ row ∈ w.memberships id, row.InRange
  indexed : ∀ id, ∀ row ∈ w.memberships id, ∀ id', ∀ row' ∈ w.memberships id',
    row.status.Current → row'.status.Current → row.organizationId.isSome →
      row.userId = row'.userId → row.organizationId = row'.organizationId → id = id'

/-! ### What a statement keeps -/

def PointsPool.resume {ι : Type*} (w : World) (requests : ι → Request) : PointsPool ι :=
  Pool.start w fun i => (requests i).serve

section Keeps

variable {w : World} {row : MembershipRow} {row' : MembershipRow} {id : ℕ}

theorem admitted_empty (clock : Timestamp) : (empty clock).Admitted :=
  ⟨fun _ _ hrow => absurd hrow (not_mem_none _),
    fun _ _ hrow => absurd hrow (not_mem_none _)⟩

theorem mem_of_latest {userId : PyStr} {organizationId : Option PyStr} {activeOnly : Bool}
    (h : w.latest userId organizationId activeOnly = some (id, row)) :
    row ∈ w.memberships id ∧ row.BelongsTo userId organizationId activeOnly := by
  have hmem := (mem_orderBy _ _).mp (List.mem_of_mem_head? h)
  obtain ⟨hrows, hbelongs⟩ := List.mem_filter.mp hmem
  obtain ⟨id', -, heq⟩ := List.mem_filterMap.mp hrows
  obtain ⟨row', hrow', hpair⟩ := map_eq_some_iff.mp heq
  cases hpair
  exact ⟨hrow', of_decide_eq_true hbelongs⟩

theorem World.Admitted.not_conflicts (hw : w.Admitted) (hrow : row ∈ w.memberships id)
    (hstatus : row'.status.Current → row.status.Current) (huser : row'.userId = row.userId)
    (horganization : row'.organizationId = row.organizationId) : ¬w.Conflicts id row' := by
  rintro ⟨hcurrent, hsome, other, hother, hne, hcurrent', huser', horganization'⟩
  obtain ⟨id', hid', heq⟩ := List.mem_filterMap.mp hother
  obtain ⟨row'', hrow'', rfl⟩ := map_eq_some_iff.mp heq
  refine hne (hw.indexed id' row'' hrow'' id row hrow hcurrent' (hstatus hcurrent) ?_ ?_ ?_)
  · rwa [horganization']
  · exact huser'.trans huser
  · exact horganization'.trans horganization

theorem World.Admitted.put (hw : w.Admitted) (hvalid : w.Valid) (hrange : row.InRange)
    (hfree : ¬w.Conflicts id row) : (w.put id row).Admitted := by
  have hput : ∀ j, ∀ row' ∈ (w.put id row).memberships j,
      j = id ∧ row' = row ∨ j ≠ id ∧ row' ∈ w.memberships j := fun j row' hrow' => by
    by_cases hj : j = id
    · subst hj
      exact .inl ⟨rfl, by simpa [World.put, eq_comm] using hrow'⟩
    · exact .inr ⟨hj, by simpa [World.put, hj] using hrow'⟩
  have hother : ∀ j, ∀ row' ∈ w.memberships j, j ≠ id → row.status.Current →
      row'.status.Current → row.organizationId.isSome → row.userId = row'.userId →
        row.organizationId = row'.organizationId → False :=
    fun j row' hrow' hj hcurrent hcurrent' hsome huser horganization => by
      refine hfree ⟨hcurrent, hsome, (j, row'), ?_, hj, hcurrent', huser.symm, horganization.symm⟩
      refine List.mem_filterMap.mpr ⟨j, List.mem_range.mpr (hvalid.lt_issued hrow'), ?_⟩
      rw [mem_def.mp hrow', map_some]
  refine ⟨fun j row' hrow' => ?_, fun j row' hrow' j' row'' hrow'' hc hc' hsome huser horg => ?_⟩
  · rcases hput j row' hrow' with ⟨-, rfl⟩ | ⟨-, hrow'⟩
    · exact hrange
    · exact hw.inRange j row' hrow'
  · rcases hput j row' hrow' with ⟨rfl, rfl⟩ | ⟨hj, hold⟩ <;>
      rcases hput j' row'' hrow'' with ⟨rfl, rfl⟩ | ⟨hj', hold'⟩
    · rfl
    · exact (hother j' row'' hold' hj' hc hc' hsome huser horg).elim
    · exact (hother j row' hold hj hc' hc (horg ▸ hsome) huser.symm horg.symm).elim
    · exact hw.indexed j row' hold j' row'' hold' hc hc' hsome huser horg

theorem World.Admitted.write (hw : w.Admitted) (hvalid : w.Valid) (id : ℕ) (row : MembershipRow) :
    (w.write id row).2.Admitted := by
  rw [World.write]
  split
  · next hrange =>
      split
      · exact hw
      · next hfree => exact hw.put hvalid hrange hfree
  · exact hw

theorem World.Admitted.update (hw : w.Admitted) (hvalid : w.Valid) (id : ℕ)
    (change : MembershipRow → Option MembershipRow) : (w.update id change).2.Admitted := by
  rw [World.update]
  split
  · exact hw
  · exact hw.write hvalid id _

theorem admitted_handle (hw : w.Admitted) (hvalid : w.Valid) (c : Call) :
    (handle c w).2.Admitted := by
  cases c with
  | clock => exact hw
  | selectMembership id => exact hw
  | selectByUser userId organizationId activeOnly => exact hw
  | deductPoints id points =>
    rw [handle, World.deductPoints]
    split
    · exact hw.update hvalid id _
    · exact hw
  | addPoints id points tierPoints =>
    rw [handle, World.addPoints]
    split
    · exact hw.update hvalid id _
    · exact hw
  | updateTier id newTier => exact hw.update hvalid id _
  | updateStatus id status => exact hw.update hvalid id _
  | insertHistory row =>
    rw [handle]
    split
    · exact ⟨hw.inRange, hw.indexed⟩
    · exact hw
  | insertMembership row metadata =>
    have hdrawn : ({ w with issued := w.issued + 1 } : World).Admitted :=
      ⟨hw.inRange, hw.indexed⟩
    rw [handle, insertMembership]
    split
    · exact hdrawn.write (valid_drawn hvalid) w.issued row
    · exact hdrawn

theorem update_admitted (hw : w.Admitted) (hrow : row ∈ w.memberships id)
    {change : MembershipRow → Option MembershipRow} (hchange : change row = some row')
    (hrange : row'.InRange) (hstatus : row'.status.Current → row.status.Current)
    (huser : row'.userId = row.userId) (horganization : row'.organizationId = row.organizationId) :
    w.update id change = (.ok (some (id, row')), w.put id row') := by
  have hfree := hw.not_conflicts hrow hstatus huser horganization
  rw [World.update, mem_def.mp hrow, bind_some, hchange]
  simp only [World.write, if_pos hrange, if_neg hfree]

/-! ### One membership -/

def World.single (row : MembershipRow) : World :=
  (⟨fun _ => none, [], 1, 0⟩ : World).put 0 row

theorem mem_single (h : row' ∈ (single row).memberships id) : id = 0 ∧ row' = row := by
  by_cases hid : id = 0
  · subst hid
    exact ⟨rfl, by simpa [single, World.put, eq_comm] using h⟩
  · exact absurd h (by simp [single, World.put, hid])

theorem valid_single (hrow : row.Valid) : (single row).Valid :=
  (valid_drawn (valid_empty 0)).put Nat.zero_lt_one hrow

theorem admitted_single (hrow : row.InRange) : (single row).Admitted := by
  refine ⟨fun id row' h => ?_, fun id row' h id' row'' h' _ _ _ _ _ => ?_⟩
  · rwa [(mem_single h).2]
  · rw [(mem_single h).1, (mem_single h').1]

end Keeps

end IsaUser.Memberships
