import IsaUser.Membership.Constraints

/-!
# The Lifecycle of a Membership

Every method looks at a membership first and writes later, and what it writes does not depend on
what is stored by then. Two checks are missing altogether: `reactivate_membership` does not look
for another active membership of the user, and `earn_points` and `redeem_points` refuse only
suspended and expired memberships.
-/

open IsaUser.Prog List Option

namespace IsaUser.Memberships

open Pool Pool.Reach World

/-! ### The law -/

/-- A user has at most one membership that is active or pending, for an organization or outside
any. -/
def World.OneEach (w : World) : Prop :=
  ∀ id, ∀ row ∈ w.memberships id, ∀ id', ∀ row' ∈ w.memberships id',
    row.status.Current → row'.status.Current → row.userId = row'.userId →
      row.organizationId = row'.organizationId → id = id'

def World.StaysCanceled (w w' : World) : Prop :=
  ∀ id, ∀ row ∈ w.memberships id, row.status = .canceled →
    ∃ row' ∈ w'.memberships id, row'.status = .canceled

def OnActive : World × Call → Prop
  | (w, .addPoints id points tierPoints) => Wrote (w.addPoints id points tierPoints) →
      ∀ row ∈ w.memberships id, row.status = .active
  | (w, .deductPoints id points) => Wrote (w.deductPoints id points) →
      ∀ row ∈ w.memberships id, row.status = .active
  | _ => True

instance : DecidablePred OnActive
  | (w, .addPoints id _ _) => inferInstanceAs (Decidable (_ → ∀ row ∈ w.memberships id, _))
  | (w, .deductPoints id _) => inferInstanceAs (Decidable (_ → ∀ row ∈ w.memberships id, _))
  | (_, .clock) | (_, .insertMembership _ _) | (_, .selectMembership _)
  | (_, .selectByUser _ _ _) | (_, .updateTier _ _) | (_, .updateStatus _ _)
  | (_, .insertHistory _) => .isTrue trivial

/-! ### The condition -/

def Unclaimed (w : World) : World × Call → Prop
  | (w', .selectByUser userId organizationId true) =>
    w'.latest userId organizationId true = none → w.latest userId organizationId true = none
  | _ => True

def Uncanceled (w : World) (id : ℕ) : World × Call → Prop
  | (w', .selectMembership id') => id' = id → (∀ row ∈ w'.memberships id, row.status ≠ .canceled) →
      ∀ row ∈ w.memberships id, row.status ≠ .canceled
  | _ => True

def Steady (w : World) (id : ℕ) : World × Call → Prop
  | (w', .selectByUser userId organizationId activeOnly) =>
    ∀ e ∈ w'.latest userId organizationId activeOnly, e.1 = id →
      e.2.status ≠ .pending ∧ e.2.status ≠ .canceled ∧
        ∀ row ∈ w.memberships id, row.status = e.2.status
  | _ => True

/-- No other membership of the user outside any organization is active or pending. -/
def Lone (w : World) (id : ℕ) (row : MembershipRow) : Prop :=
  ∀ other ∈ w.rows, other.1 ≠ id → other.2.status.Current → other.2.userId = row.userId →
    other.2.organizationId ≠ none
  deriving Decidable

/-- A call acts on what it has found: nobody has enrolled the user outside any organization since
it found no membership there, nobody has canceled the membership since it found it, and where it
moves points, nobody has changed the status since it found the membership. What earns or redeems
has found the membership neither pending nor canceled; and outside any organization a membership
is reactivated only while the user has no other. -/
def Orderly (past : PointsPast) (w : World) : Call → Prop
  | .insertMembership row metadata => Wrote (w.insertMembership row metadata) →
      row.organizationId = none → ∀ e ∈ past, Unclaimed w e
  | .updateStatus id status => (status ≠ .canceled → ∀ e ∈ past, Uncanceled w id e) ∧
      (status = .active → ∀ row ∈ w.memberships id, row.organizationId = none → Lone w id row)
  | .addPoints id points tierPoints => Wrote (w.addPoints id points tierPoints) →
      ∀ e ∈ past, Steady w id e
  | .deductPoints id points => Wrote (w.deductPoints id points) → ∀ e ∈ past, Steady w id e
  | _ => True

section Decidable

variable (w : World) (id : ℕ)

instance : DecidablePred (Unclaimed w)
  | (_, .selectByUser _ _ true) => inferInstanceAs (Decidable (_ → _))
  | (_, .selectByUser _ _ false) | (_, .clock) | (_, .insertMembership _ _)
  | (_, .selectMembership _) | (_, .addPoints _ _ _) | (_, .deductPoints _ _)
  | (_, .updateTier _ _) | (_, .updateStatus _ _) | (_, .insertHistory _) => .isTrue trivial

instance : DecidablePred (Uncanceled w id)
  | (w', .selectMembership _) =>
    inferInstanceAs (Decidable (_ → (∀ row ∈ w'.memberships id, _) →
      ∀ row ∈ w.memberships id, _))
  | (_, .selectByUser _ _ _) | (_, .clock) | (_, .insertMembership _ _) | (_, .addPoints _ _ _)
  | (_, .deductPoints _ _) | (_, .updateTier _ _) | (_, .updateStatus _ _)
  | (_, .insertHistory _) => .isTrue trivial

instance : DecidablePred (Steady w id)
  | (w', .selectByUser userId organizationId activeOnly) =>
    inferInstanceAs (Decidable (∀ e ∈ w'.latest userId organizationId activeOnly, _ →
      _ ∧ _ ∧ ∀ row ∈ w.memberships id, _))
  | (_, .selectMembership _) | (_, .clock) | (_, .insertMembership _ _) | (_, .addPoints _ _ _)
  | (_, .deductPoints _ _) | (_, .updateTier _ _) | (_, .updateStatus _ _)
  | (_, .insertHistory _) => .isTrue trivial

instance (past : PointsPast) : DecidablePred (Orderly past w)
  | .insertMembership _ _ => inferInstanceAs (Decidable (_ → _ → ∀ e ∈ past, _))
  | .updateStatus id _ =>
    inferInstanceAs (Decidable ((_ → ∀ e ∈ past, _) ∧ (_ → ∀ row ∈ w.memberships id, _ → _)))
  | .addPoints _ _ _ => inferInstanceAs (Decidable (_ → ∀ e ∈ past, _))
  | .deductPoints _ _ => inferInstanceAs (Decidable (_ → ∀ e ∈ past, _))
  | .clock | .selectMembership _ | .selectByUser _ _ _ | .updateTier _ _
  | .insertHistory _ => .isTrue trivial

end Decidable

abbrev LifecycleRun {ι : Type*} [DecidableEq ι] : PointsPool ι → PointsPool ι → Prop :=
  Reach handle Ticks fun i past => Orderly (past i)

/-! ### Terms -/

/-- A user has at most one membership outside any organization that is active or pending. -/
def World.OneOutside (w : World) : Prop :=
  ∀ id, ∀ row ∈ w.memberships id, ∀ id', ∀ row' ∈ w.memberships id',
    row.status.Current → row'.status.Current → row.userId = row'.userId →
      row.organizationId = none → row'.organizationId = none → id = id'

structure World.Settled (w : World) : Prop extends w.Valid, w.Admitted where
  outside : w.OneOutside

theorem World.Settled.oneEach {w : World} (hw : w.Settled) : w.OneEach := by
  intro id row hrow id' row' hrow' hcurrent hcurrent' huser horganization
  cases hnone : row.organizationId with
  | none =>
    exact hw.outside id row hrow id' row' hrow' hcurrent hcurrent' huser hnone
      (horganization ▸ hnone)
  | some organizationId =>
    exact hw.indexed id row hrow id' row' hrow' hcurrent hcurrent' (by rw [hnone]; rfl) huser
      horganization

theorem World.StaysCanceled.refl (w : World) : w.StaysCanceled w :=
  fun _ row hrow h => ⟨row, hrow, h⟩

def lifecycleTerms : Terms World where
  inv := Settled
  rel := StaysCanceled
  rel_refl := StaysCanceled.refl
  rel_trans h h' id row hrow hcanceled := by
    obtain ⟨row', hrow', hcanceled'⟩ := h id row hrow hcanceled
    exact h' id row' hrow' hcanceled'

def LifecyclePromised (past : PointsPast) : Call → Prop
  | .insertMembership row metadata => Promised (.insertMembership row metadata) ∧
      (row.organizationId = none → ∃ w, (w, .selectByUser row.userId none true) ∈ past ∧
        w.latest row.userId none true = none)
  | .updateStatus id status => status ≠ .pending ∧ (status ≠ .canceled →
      ∃ w, (w, .selectMembership id) ∈ past ∧ ∀ row ∈ w.memberships id, row.status ≠ .canceled)
  | .addPoints id points tierPoints => Promised (.addPoints id points tierPoints) ∧
      ∃ w userId organizationId activeOnly row,
        (w, .selectByUser userId organizationId activeOnly) ∈ past ∧
        w.latest userId organizationId activeOnly = some (id, row) ∧ row.status.refusal = none
  | .deductPoints id _ => ∃ w userId organizationId activeOnly row,
      (w, .selectByUser userId organizationId activeOnly) ∈ past ∧
      w.latest userId organizationId activeOnly = some (id, row) ∧ row.status.refusal = none
  | _ => True

/-! ### What a statement keeps -/

section Keeps

variable {past : PointsPast} {w : World} {c : Call}

theorem promised_of_lifecyclePromised (hc : LifecyclePromised past c) : Promised c := by
  cases c with
  | insertMembership row metadata => exact hc.1
  | addPoints id points tierPoints => exact hc.1
  | _ => trivial

theorem oneOutside_put {id : ℕ} {row : MembershipRow} (hw : w.OneOutside)
    (hrow : row.status.Current → row.organizationId = none → ∀ id', ∀ other ∈ w.memberships id',
      other.status.Current → other.userId = row.userId → other.organizationId = none →
        id' = id) :
    (w.put id row).OneOutside := by
  have hput : ∀ j, ∀ row' ∈ (w.put id row).memberships j,
      j = id ∧ row' = row ∨ row' ∈ w.memberships j := fun j row' hrow' => by
    by_cases hj : j = id
    · subst hj
      exact .inl ⟨rfl, by simpa [put, eq_comm] using hrow'⟩
    · exact .inr (by simpa [put, hj] using hrow')
  intro j row₁ h₁ j' row₂ h₂ hcurrent hcurrent' huser hnone hnone'
  rcases hput j row₁ h₁ with ⟨rfl, rfl⟩ | hold <;> rcases hput j' row₂ h₂ with ⟨rfl, rfl⟩ | hold'
  · rfl
  · exact (hrow hcurrent hnone j' row₂ hold' hcurrent' huser.symm hnone').symm
  · exact hrow hcurrent' hnone' j row₁ hold hcurrent huser hnone
  · exact hw j row₁ hold j' row₂ hold' hcurrent hcurrent' huser hnone hnone'

theorem oneOutside_replace {id : ℕ} {row row' : MembershipRow} (hw : w.OneOutside)
    (hrow : row ∈ w.memberships id) (hstatus : row'.status.Current → row.status.Current)
    (huser : row'.userId = row.userId) (horganization : row'.organizationId = row.organizationId) :
    (w.put id row').OneOutside :=
  oneOutside_put hw fun hcurrent hnone id' other hother hcurrent' huser' hnone' =>
    hw id' other hother id row hrow hcurrent' (hstatus hcurrent) (huser'.trans huser) hnone'
      (horganization ▸ hnone)

theorem mem_rows (hvalid : w.Valid) {id : ℕ} {row : MembershipRow}
    (hrow : row ∈ w.memberships id) : (id, row) ∈ w.rows :=
  mem_filterMap.mpr ⟨id, mem_range.mpr (hvalid.lt_issued hrow),
    by rw [mem_def.mp hrow, map_some]⟩

theorem not_current_of_latest {userId : PyStr} (hvalid : w.Valid)
    (h : w.latest userId none true = none) {id : ℕ} {row : MembershipRow}
    (hrow : row ∈ w.memberships id) (huser : row.userId = userId)
    (horganization : row.organizationId = none) : ¬row.status.Current := by
  intro hcurrent
  have hempty : w.rows.filter (fun e => e.2.BelongsTo userId none true) = [] := by
    have hnil := head?_eq_none_iff.mp h
    exact eq_nil_iff_forall_not_mem.mpr fun e he => by
      have := (mem_orderBy (fun e : ℕ × MembershipRow => -e.2.createdAt) _).mpr he
      rw [hnil] at this
      exact not_mem_nil this
  exact filter_eq_nil_iff.mp hempty (id, row) (mem_rows hvalid hrow)
    (decide_eq_true ⟨huser, horganization, fun _ => hcurrent⟩)

theorem staysCanceled_put {id : ℕ} {row row' : MembershipRow} (hrow : row ∈ w.memberships id)
    (h : row.status = .canceled → row'.status = .canceled) : w.StaysCanceled (w.put id row') := by
  intro j old hold hcanceled
  by_cases hj : j = id
  · subst hj
    obtain rfl := mem_unique hrow hold
    exact ⟨row', by simp [put], h hcanceled⟩
  · exact ⟨old, by simpa [put, hj] using hold, hcanceled⟩

theorem staysCanceled_update {id : ℕ} {change : MembershipRow → Option MembershipRow}
    (hchange : ∀ row ∈ w.memberships id, ∀ row' ∈ change row,
      row.status = .canceled → row'.status = .canceled) :
    w.StaysCanceled (w.update id change).2 := by
  rcases update_cases w id change with h | ⟨row, hrow, row', hnew, -, h⟩
  · rw [h.snd]
    exact .refl w
  · rw [h]
    exact staysCanceled_put hrow (hchange row hrow row' hnew)

theorem updateStatus_keeps {id : ℕ} {status : MembershipStatus} (hw : w.Settled)
    (hc : LifecyclePromised past (.updateStatus id status))
    (horderly : Orderly past w (.updateStatus id status)) :
    (handle (.updateStatus id status) w).2.OneOutside ∧
      w.StaysCanceled (handle (.updateStatus id status) w).2 := by
  obtain ⟨hpending, hread⟩ := hc
  obtain ⟨hfresh, hlone⟩ := horderly
  constructor
  · rcases update_cases w id fun row => some { row with status } with
      h | ⟨row, hrow, row', hnew, -, h⟩
    · rw [handle, h.snd]
      exact hw.outside
    · obtain rfl := some.inj hnew
      rw [handle, h]
      refine oneOutside_put hw.outside fun hcurrent hnone id' other hother hcurrent' huser hnone' =>
        ?_
      have hactive : status = .active := hcurrent.resolve_right hpending
      by_contra hne
      exact hlone hactive row hrow hnone (id', other) (mem_rows hw.toValid hother) hne hcurrent'
        huser hnone'
  · refine staysCanceled_update fun row hrow row' hrow' h => ?_
    obtain rfl := some.inj hrow'
    by_contra hstatus
    obtain ⟨w', hpast, hbefore⟩ := hread hstatus
    exact hfresh hstatus _ hpast rfl hbefore row hrow h

theorem insertMembership_keeps {row : MembershipRow} {metadata : Bool} (hw : w.Settled)
    (hc : LifecyclePromised past (.insertMembership row metadata))
    (horderly : Orderly past w (.insertMembership row metadata)) :
    (handle (.insertMembership row metadata) w).2.OneOutside ∧
      w.StaysCanceled (handle (.insertMembership row metadata) w).2 := by
  obtain ⟨-, hread⟩ := hc
  rcases insertMembership_cases w row metadata with h | ⟨-, -, h⟩
  · rw [handle, h.snd]
    exact ⟨hw.outside, .refl w⟩
  · have hwrote : Wrote (w.insertMembership row metadata) := by rw [h]; rfl
    rw [handle, h]
    constructor
    · refine oneOutside_put (w := { w with issued := w.issued + 1 }) hw.outside
        fun hcurrent hnone id' other hother hcurrent' huser hnone' => ?_
      obtain ⟨w', hpast, hbefore⟩ := hread hnone
      have hnow := horderly hwrote hnone _ hpast hbefore
      exact absurd hcurrent' (not_current_of_latest hw.toValid hnow hother huser hnone')
    · intro j old hold hcanceled
      have hj : j ≠ w.issued := (hw.lt_issued hold).ne
      exact ⟨old, by simpa [put, hj] using hold, hcanceled⟩

theorem lifecycle_handle (hw : w.Settled) (hc : LifecyclePromised past c)
    (horderly : Orderly past w c) :
    (handle c w).2.OneOutside ∧ w.StaysCanceled (handle c w).2 := by
  cases c with
  | clock => exact ⟨hw.outside, .refl w⟩
  | selectMembership id => exact ⟨hw.outside, .refl w⟩
  | selectByUser userId organizationId activeOnly => exact ⟨hw.outside, .refl w⟩
  | insertHistory row =>
    rw [handle]
    split <;> exact ⟨hw.outside, .refl w⟩
  | insertMembership row metadata => exact insertMembership_keeps hw hc horderly
  | updateStatus id status => exact updateStatus_keeps hw hc horderly
  | updateTier id newTier =>
    rcases update_cases w id fun row => some { row with tierCode := newTier } with
      h | ⟨row, hrow, row', hnew, -, h⟩
    · rw [handle, h.snd]
      exact ⟨hw.outside, .refl w⟩
    · obtain rfl := some.inj hnew
      rw [handle, h]
      exact ⟨oneOutside_replace hw.outside hrow (fun h => h) rfl rfl,
        staysCanceled_put hrow fun h => h⟩
  | addPoints id points tierPoints =>
    rcases addPoints_cases w id points tierPoints with h | ⟨-, row, hrow, -, h⟩
    · rw [handle, h.snd]
      exact ⟨hw.outside, .refl w⟩
    · rw [handle, h]
      exact ⟨oneOutside_replace hw.outside hrow (fun h => h) rfl rfl,
        staysCanceled_put hrow fun h => h⟩
  | deductPoints id points =>
    rcases deductPoints_cases w id points with h | ⟨-, row, hrow, -, -, h⟩
    · rw [handle, h.snd]
      exact ⟨hw.outside, .refl w⟩
    · rw [handle, h]
      exact ⟨oneOutside_replace hw.outside hrow (fun h => h) rfl rfl,
        staysCanceled_put hrow fun h => h⟩

theorem settled_handle (hw : w.Settled) (hc : LifecyclePromised past c)
    (horderly : Orderly past w c) : (handle c w).2.Settled ∧ w.StaysCanceled (handle c w).2 := by
  obtain ⟨houtside, hcanceled⟩ := lifecycle_handle hw hc horderly
  exact ⟨⟨valid_handle hw.toValid (promised_of_lifecyclePromised hc),
    admitted_handle hw.toAdmitted hw.toValid c, houtside⟩, hcanceled⟩

theorem onActive_of_steady {id : ℕ}
    (hread : ∃ w' userId organizationId activeOnly row,
      (w', Call.selectByUser userId organizationId activeOnly) ∈ past ∧
      w'.latest userId organizationId activeOnly = some (id, row) ∧ row.status.refusal = none)
    (hsteady : ∀ e ∈ past, Steady w id e) : ∀ row ∈ w.memberships id, row.status = .active := by
  obtain ⟨w', userId, organizationId, activeOnly, row', hpast, hlatest, hrefusal⟩ := hread
  intro row hrow
  obtain ⟨hpending, hcanceled, hsame⟩ := hsteady _ hpast (id, row') hlatest rfl
  rw [hsame row hrow]
  revert hrefusal hpending hcanceled
  cases row'.status <;> simp [MembershipStatus.refusal]

theorem onActive_of_orderly (hc : LifecyclePromised past c) (horderly : Orderly past w c) :
    OnActive (w, c) := by
  cases c with
  | addPoints id points tierPoints =>
    exact fun hwrote => onActive_of_steady hc.2 (horderly hwrote)
  | deductPoints id points => exact fun hwrote => onActive_of_steady hc (horderly hwrote)
  | _ => trivial

end Keeps

/-! ### What the programs keep -/

section Programs

variable {past : PointsPast} {w : World} {α : Type} {p : MembershipM α}

/-- A program keeps its promises, and ends as `Q` says. -/
abbrev LifecycleSound (Q : Except MembershipError α → PointsPast → Prop) (p : MembershipM α) :
    PointsPast → World → Prop :=
  p.Sound lifecycleTerms handle Orderly (fun past _ c => LifecyclePromised past c)
    fun r past _ => Q r past

def Call.Plain : Call → Prop
  | insertMembership _ _ => False
  | updateStatus _ _ => False
  | addPoints _ _ _ => False
  | deductPoints _ _ => False
  | _ => True

theorem Call.Plain.promised {c : Call} (hc : c.Plain) : LifecyclePromised past c := by
  cases c with
  | insertMembership row metadata => exact hc.elim
  | updateStatus id status => exact hc.elim
  | addPoints id points tierPoints => exact hc.elim
  | deductPoints id points => exact hc.elim
  | _ => trivial

theorem plain_sound {K : PointsPast → Prop} (hp : p.Only Call.Plain) (hK : K past)
    (hmono : ∀ e past, K past → K (e :: past)) : LifecycleSound (fun _ past => K past) p past w :=
  hp.sound hK fun _ hc past _ h => ⟨hc.promised, hmono _ past h⟩

theorem plain_only (hp : p.Only Call.Plain) : LifecycleSound (fun _ _ => True) p past w :=
  plain_sound hp trivial fun _ _ _ => trivial

def Found (past : PointsPast) (id : ℕ) (status : MembershipStatus) : Prop :=
  ∃ w, (w, Call.selectMembership id) ∈ past ∧ ∃ row ∈ w.memberships id, row.status = status

def FoundLatest (past : PointsPast) (userId : PyStr) (organizationId : Option PyStr)
    (activeOnly : Bool) (e : Option (ℕ × MembershipRow)) : Prop :=
  ∃ w, (w, Call.selectByUser userId organizationId activeOnly) ∈ past ∧
    w.latest userId organizationId activeOnly = e

theorem getMembership_finds (id : ℕ) :
    LifecycleSound (fun r past => ∀ membership, r = .ok (some membership) →
      Found past id membership.status) (getMembership id) past w := by
  refine Sound.bind (Q := fun r past _ => ∀ e, r = .ok (some e) → Found past id e.2.status)
    ?_ (fun row past w h => ?_) fun _ _ _ _ _ h => by cases h
  · refine sound_query (I := MembershipApi) (c := Call.selectMembership id)
      fun w' _ _ => ⟨trivial, fun _ _ _ _ e he => ⟨w', mem_cons_self, ?_⟩⟩
    obtain ⟨row, hrow, rfl⟩ := map_eq_some_iff.mp (Except.ok.inj he)
    exact ⟨row, hrow, rfl⟩
  · rcases found_cases row with hraise | ⟨found, hret, hstored⟩
    · rw [hraise]
      exact fun _ _ _ _ h => by cases h
    · rw [hret]
      refine fun _ _ _ membership hfound => h membership.stored ?_
      rw [← hstored, Except.ok.inj hfound]
      rfl

theorem getMembershipByUser_finds (userId : PyStr) (organizationId : Option PyStr)
    (activeOnly : Bool) :
    LifecycleSound (fun r past => ∀ found, r = .ok found →
        FoundLatest past userId organizationId activeOnly (found.map Membership.stored))
      (getMembershipByUser userId organizationId activeOnly) past w := by
  refine Sound.bind (Q := fun r past _ => ∀ e, r = .ok e →
    FoundLatest past userId organizationId activeOnly e) ?_ (fun row past w h => ?_)
    fun _ _ _ _ _ h => by cases h
  · exact sound_query (I := MembershipApi)
      (c := Call.selectByUser userId organizationId activeOnly) fun w' _ _ =>
        ⟨trivial, fun _ _ _ _ e he => ⟨w', mem_cons_self, Except.ok.inj he⟩⟩
  · rcases found_cases row with hraise | ⟨found, hret, hstored⟩
    · rw [hraise]
      exact fun _ _ _ _ h => by cases h
    · rw [hret]
      rintro _ _ _ _ ⟨⟩
      rw [hstored]
      exact h row rfl

theorem ask_returned {c : Call} {f : c.Reply → MembershipM α} (hc : LifecyclePromised past c)
    (hf : ∀ r, (f r).Only Call.Plain) : LifecycleSound (fun _ _ => True) (ask c >>= f) past w :=
  Sound.bind (Q := fun _ _ _ => True)
    (sound_query (I := MembershipApi) fun _ _ _ => ⟨hc, fun _ _ _ _ => trivial⟩)
    (fun r _ _ _ => plain_only (hf r)) fun _ _ _ _ => trivial

theorem add_history {β : Type} {row : α → HistoryRow} {answer : α → β}
    (hp : LifecycleSound (fun _ _ => True) p past w) :
    LifecycleSound (fun _ _ => True) (do
      let updated ← p
      let _ ← addHistory (row updated)
      return answer updated) past w :=
  hp.bind (fun _ _ _ _ => plain_only ((addHistory_only (P := Call.Plain) trivial).bind
    fun _ => trivial)) fun _ _ _ _ => trivial

theorem responding_orderly {p : MembershipM (Except Refusal α)}
    (hp : LifecycleSound (fun _ _ => True) p past w) :
    LifecycleSound (fun _ _ => True) (responding p) past w :=
  hp.tryCatch (fun _ _ _ _ => trivial) fun _ _ _ _ => sound_ret fun _ _ _ => trivial

theorem enrollMembership_orderly (request : EnrollMembershipRequest) :
    LifecycleSound (fun _ _ => True) (enrollMembership request) past w := by
  refine responding_orderly ((getMembershipByUser_finds _ _ _).bind
    (fun existing past w hfound => ?_) fun _ _ _ _ => trivial)
  cases existing with
  | some membership => exact fun _ _ _ => trivial
  | none =>
    have hbonus := calculateEnrollmentBonus_nonneg request.promoCode
    refine add_history (Sound.bind (Q := fun _ past _ =>
      FoundLatest past request.userId request.organizationId true none) ?_
      (fun now past w hfound => ?_) fun _ _ _ _ => trivial)
    · refine plain_sound (ask_only (c := .clock) trivial) (hfound none rfl) fun e past h => ?_
      obtain ⟨w', hmem, hlatest⟩ := h
      exact ⟨w', mem_cons_of_mem _ hmem, hlatest⟩
    · refine ask_returned (c := .insertMembership _ _) ⟨⟨hbonus, le_rfl, hbonus⟩, fun hnone => ?_⟩
        fun row => returned_only _ row
      obtain ⟨w', hmem, hlatest⟩ := hfound
      have horganization : request.organizationId = none := hnone
      rw [horganization] at hmem hlatest
      exact ⟨w', hmem, hlatest⟩

theorem earnPoints_orderly (request : EarnPointsRequest) :
    LifecycleSound (fun _ _ => True) (earnPoints request) past w := by
  have hamount : 0 ≤ request.pointsAmount.1 := request.pointsAmount.2.le
  refine responding_orderly ((getMembershipByUser_finds _ _ _).bind
    (fun found past w hfound => ?_) fun _ _ _ _ => trivial)
  cases found with
  | none => exact fun _ _ _ => trivial
  | some membership =>
    dsimp only
    cases hrefusal : membership.status.refusal with
    | some refusal => exact fun _ _ _ => trivial
    | none =>
      have hpoints := finalPoints_nonneg membership.tierCode hamount
      obtain ⟨w', hmem, hlatest⟩ := hfound _ rfl
      refine Sound.bind (Q := fun _ _ _ => True)
        (ask_returned (c := .addPoints _ _ _) ⟨⟨hpoints, hamount⟩, w', _, _, _, _, hmem, hlatest,
          hrefusal⟩ fun row => returned_only _ row) (fun updated past w _ => plain_only ?_)
        fun _ _ _ _ => trivial
      refine (addHistory_only (P := Call.Plain) trivial).bind fun _ => ?_
      split
      · exact (upgradeTier_only trivial (fun _ _ => trivial) _).bind fun _ => trivial
      · trivial

theorem redeemPoints_orderly (request : RedeemPointsRequest) :
    LifecycleSound (fun _ _ => True) (redeemPoints request) past w := by
  refine responding_orderly ((getMembershipByUser_finds _ _ _).bind
    (fun found past w hfound => ?_) fun _ _ _ _ => trivial)
  cases found with
  | none => exact fun _ _ _ => trivial
  | some membership =>
    dsimp only
    cases hrefusal : membership.status.refusal with
    | some refusal => exact fun _ _ _ => trivial
    | none =>
      dsimp only
      split
      · exact fun _ _ _ => trivial
      · refine add_history (Sound.bind (Q := fun _ past _ =>
          FoundLatest past request.userId request.organizationId false
            (some membership.stored)) ?_ (fun read past w hfound => ?_) fun _ _ _ _ => trivial)
        · refine plain_sound (getMembership_only trivial) (hfound _ rfl) fun e past h => ?_
          obtain ⟨w', hmem, hlatest⟩ := h
          exact ⟨w', mem_cons_of_mem _ hmem, hlatest⟩
        · cases read with
          | none => exact fun _ _ _ => trivial
          | some read =>
            refine sound_require_bind (fun _ => ?_) fun _ _ _ _ => trivial
            obtain ⟨w', hmem, hlatest⟩ := hfound
            exact ask_returned (c := .deductPoints _ _)
              ⟨w', _, _, _, _, hmem, hlatest, hrefusal⟩ fun row => returned_only _ row

theorem updateStatus_orderly {id : ℕ} {status : MembershipStatus} (hpending : status ≠ .pending)
    (hfound : status ≠ .canceled → ∃ before, Found past id before ∧ before ≠ .canceled) :
    LifecycleSound (fun _ _ => True) (updateStatus id status) past w := by
  refine ask_returned (c := .updateStatus id status) ⟨hpending, fun hstatus => ?_⟩
    fun row => returned_only _ row
  obtain ⟨before, ⟨w', hmem, row, hrow, rfl⟩, hbefore⟩ := hfound hstatus
  refine ⟨w', hmem, fun row' hrow' => ?_⟩
  obtain rfl := mem_unique hrow hrow'
  exact hbefore

theorem cancelMembership_orderly (id : ℕ) (reason : Option PyStr) (forfeitPoints : Bool)
    (feedback : Option PyStr) :
    LifecycleSound (fun _ _ => True) (cancelMembership id reason forfeitPoints feedback)
      past w := by
  refine responding_orderly ((getMembership_finds id).bind (fun found past w _ => ?_)
    fun _ _ _ _ => trivial)
  cases found with
  | none => exact fun _ _ _ => trivial
  | some membership =>
    dsimp only
    split
    · exact fun _ _ _ => trivial
    · exact add_history (updateStatus_orderly (by decide) fun h => absurd rfl h)

theorem suspendMembership_orderly (id : ℕ) (reason : PyStr) :
    LifecycleSound (fun _ _ => True) (suspendMembership id reason) past w := by
  refine responding_orderly ((getMembership_finds id).bind (fun found past w hfound => ?_)
    fun _ _ _ _ => trivial)
  cases found with
  | none => exact fun _ _ _ => trivial
  | some membership =>
    dsimp only
    split
    · exact fun _ _ _ => trivial
    · next hactive =>
        refine add_history (updateStatus_orderly (by decide) fun _ =>
          ⟨_, hfound membership rfl, ?_⟩)
        rw [not_ne_iff.mp hactive]
        decide

theorem reactivateMembership_orderly (id : ℕ) :
    LifecycleSound (fun _ _ => True) (reactivateMembership id) past w := by
  refine responding_orderly ((getMembership_finds id).bind (fun found past w hfound => ?_)
    fun _ _ _ _ => trivial)
  cases found with
  | none => exact fun _ _ _ => trivial
  | some membership =>
    dsimp only
    split
    · exact fun _ _ _ => trivial
    · next hsuspended =>
        refine add_history (updateStatus_orderly (by decide) fun _ =>
          ⟨_, hfound membership rfl, ?_⟩)
        rw [not_ne_iff.mp hsuspended]
        decide

theorem serve_orderly (request : Request) :
    LifecycleSound (fun _ _ => True) request.serve past w := by
  cases request with
  | enroll request => exact sound_void (enrollMembership_orderly request)
  | earn request => exact sound_void (earnPoints_orderly request)
  | redeem request => exact sound_void (redeemPoints_orderly request)
  | suspend id reason => exact sound_void (suspendMembership_orderly id reason)
  | reactivate id => exact sound_void (reactivateMembership_orderly id)
  | cancel id reason forfeitPoints feedback =>
    exact sound_void (cancelMembership_orderly id reason forfeitPoints feedback)

end Programs

/-! ### Runs -/

section Runs

variable {ι : Type*} [DecidableEq ι] {w : World} {requests : ι → Request}
  {pool pool' : PointsPool ι}

/-- **The lifecycle of a membership is kept** as long as calls act on what they have found. Any
number of calls run at the same time, in any order of their statements, on tables where each user
has one current membership for an organization or outside any. -/
theorem lifecycle_of_orderly (hvalid : w.Valid) (hadmitted : w.Admitted) (hw : w.OneEach)
    (hpool : LifecycleRun (PointsPool.resume w requests) pool) (hpool' : LifecycleRun pool pool') :
    pool'.state.OneEach ∧ pool.state.StaysCanceled pool'.state ∧
      ∀ i, ∀ e ∈ pool'.past i, OnActive e := by
  have hall : AllSound lifecycleTerms handle (fun _ => Orderly)
      (fun _ past _ => LifecyclePromised past) (fun _ _ _ _ => True)
      (PointsPool.resume w requests) :=
    ⟨⟨hvalid, hadmitted, fun id row hrow id' row' hrow' hcurrent hcurrent' huser hnone hnone' =>
      hw id row hrow id' row' hrow' hcurrent hcurrent' huser (hnone.trans hnone'.symm)⟩,
      fun i => serve_orderly (requests i)⟩
  have hlocal : ∀ (i : ι) (past : ι → PointsPast) (w : World) (c : Call),
      Orderly (past i) w c → Orderly (past i) w c := fun _ _ _ _ h => h
  have hkeeps : ∀ (i : ι) (past : PointsPast) (w : World) (c : Call), w.Settled →
      Orderly past w c → LifecyclePromised past c →
        (handle c w).2.Settled ∧ w.StaysCanceled (handle c w).2 :=
    fun _ _ _ _ hw horderly hc => settled_handle hw hc horderly
  have henv : ∀ w w' : World, w.Settled → Ticks w w' → w'.Settled ∧ w.StaysCanceled w' := by
    rintro w _ hw ⟨clock, rfl⟩
    exact ⟨⟨⟨hw.rows, hw.issued⟩, ⟨hw.inRange, hw.indexed⟩, hw.outside⟩, .refl w⟩
  have hsound := hpool.sound hall hlocal hkeeps henv
  refine ⟨(hpool'.sound hsound hlocal hkeeps henv).1.oneEach,
    hpool'.later hsound hlocal hkeeps henv, ?_⟩
  refine (hpool.trans hpool').invariant hall hlocal hkeeps henv
    (fun _ past => ∀ i, ∀ e ∈ past i, OnActive e) (fun _ _ he => absurd he not_mem_nil)
    (fun _ _ _ _ h => h) fun i past w c _ horderly hc h j e he => ?_
  by_cases hji : j = i
  · subst hji
    rw [Function.update_self] at he
    rcases mem_cons.mp he with rfl | he
    · exact onActive_of_orderly hc horderly
    · exact h j e he
  · rw [Function.update_of_ne hji] at he
    exact h j e he

end Runs

/-! ### One call after the other -/

def enrolledTwice : Fin 4 → Request
  | 0 => .enroll { userId := ['u'] }
  | 1 => .suspend 0 []
  | 2 => .enroll { userId := ['u'] }
  | 3 => .reactivate 0

def reactivated : PointsPool (Fin 4) :=
  (PointsPool.start 0 enrolledTwice).schedule handle [0, 0, 0, 0, 1, 1, 1, 2, 2, 2, 2, 3, 3, 3]

def earnedAfter : Fin 3 → Request
  | 0 => .enroll { userId := ['u'] }
  | 1 => .cancel 0 none false none
  | 2 => .earn { userId := ['u'], pointsAmount := ⟨10, tenPoints_pos⟩, source := ['s'] }

def earned : PointsPool (Fin 3) :=
  (PointsPool.start 0 earnedAfter).schedule handle [0, 0, 0, 0, 1, 1, 1, 2, 2, 2]

def overtaken : Fin 3 → Request
  | 0 => .enroll { userId := ['u'] }
  | 1 => .suspend 0 []
  | 2 => .cancel 0 none false none

def canceledBetween : PointsPool (Fin 3) :=
  (PointsPool.start 0 overtaken).schedule handle [0, 0, 0, 0, 1, 2, 2, 2]

def suspendedAfter : PointsPool (Fin 3) := canceledBetween.schedule handle [1, 1]

/-- A user has two active memberships; points are earned on a canceled membership, even where one
call follows the other; and a canceled membership is suspended. -/
theorem not_lifecycle_inTurn :
    (Pool.Reach handle Ticks Pool.anyCall (PointsPool.start 0 enrolledTwice) reactivated ∧
      ¬reactivated.state.OneEach) ∧
    (Pool.Reach handle Ticks Pool.anyCall (PointsPool.start 0 earnedAfter) earned ∧
      ∃ e ∈ earned.past 2, ¬OnActive e) ∧
    (Pool.Reach handle Ticks Pool.anyCall (PointsPool.start 0 overtaken) canceledBetween ∧
      Pool.Reach handle Ticks Pool.anyCall canceledBetween suspendedAfter ∧
      ¬canceledBetween.state.StaysCanceled suspendedAfter.state) := by
  refine ⟨⟨start.schedule (permitted_anyCall _ _ _), fun h => ?_⟩,
    ⟨start.schedule (permitted_anyCall _ _ _), by decide +kernel⟩,
    start.schedule (permitted_anyCall _ _ _),
    start.schedule (permitted_anyCall _ _ _), fun h => ?_⟩
  · have htwo : ∃ row ∈ reactivated.state.memberships 0, ∃ row' ∈ reactivated.state.memberships 1,
        row.status.Current ∧ row'.status.Current ∧ row.userId = row'.userId ∧
          row.organizationId = row'.organizationId := by decide +kernel
    obtain ⟨row, hrow, row', hrow', hcurrent, hcurrent', huser, horganization⟩ := htwo
    exact absurd (h 0 row hrow 1 row' hrow' hcurrent hcurrent' huser horganization) (by decide)
  · have hcanceled : ∃ row ∈ canceledBetween.state.memberships 0, row.status = .canceled := by
      decide +kernel
    have hsuspended : ∃ row ∈ suspendedAfter.state.memberships 0, row.status = .suspended := by
      decide +kernel
    obtain ⟨row, hrow, hstatus⟩ := hcanceled
    obtain ⟨row', hrow', hstatus'⟩ := hsuspended
    obtain ⟨row'', hrow'', hstatus''⟩ := h 0 row hrow hstatus
    obtain rfl := mem_unique hrow' hrow''
    rw [hstatus'] at hstatus''
    cases hstatus''

theorem oneEach_empty (clock : Timestamp) : (empty clock).OneEach :=
  fun _ _ hrow => absurd hrow (not_mem_none _)

def orderlyCalls : Fin 5 → Request
  | 0 => .enroll { userId := ['u'] }
  | 1 => .suspend 0 []
  | 2 => .reactivate 0
  | 3 => .earn { userId := ['u'], pointsAmount := ⟨10, tenPoints_pos⟩, source := ['s'] }
  | 4 => .cancel 0 none false none

theorem lifecycle_orderlyCalls :
    ((PointsPool.resume (.empty 0) orderlyCalls).schedule handle
      [0, 0, 0, 0, 1, 1, 1, 2, 3, 2, 2, 3, 4, 3, 4, 4]).state.OneEach :=
  (lifecycle_of_orderly (valid_empty 0) (admitted_empty 0) (oneEach_empty 0) .start
    (start.schedule (by decide +kernel))).1

end IsaUser.Memberships
