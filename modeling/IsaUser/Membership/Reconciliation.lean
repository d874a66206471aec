import IsaUser.Membership.Service

/-!
# Points and Their History

Any number of calls of the membership service work on the tables at the same time, one statement
at a time. An update of a balance and the entry that says so are two statements, and what a call
has moved but not yet recorded is the difference between the two tables.
-/

namespace IsaUser.Memberships

open World Prog

/-! ### The law -/

def World.changes (w : World) (membershipId : ℕ) : List ℤ :=
  (w.history.filter fun row => row.membershipId = membershipId).map HistoryRow.pointsChange

structure World.Reconciled (w : World) : Prop where
  nonneg : ∀ id, ∀ row ∈ w.memberships id, 0 ≤ row.pointsBalance
  balance : ∀ id, ∀ row ∈ w.memberships id, row.pointsBalance = (w.changes id).sum
  lifetime : ∀ id, ∀ row ∈ w.memberships id,
    row.lifetimePoints = ((w.changes id).filter (0 < ·)).sum

/-! ### Concurrent calls -/

abbrev PointsPast := Past (MembershipApi.fallible DbError) World

abbrev PointsPool (ι : Type*) := Pool (MembershipApi.fallible DbError) MembershipError Unit ι World

def PointsPool.start {ι : Type*} (clock : Timestamp) (requests : ι → Request) : PointsPool ι :=
  Pool.start (empty clock) fun i => (requests i).serve

def PointsPool.Idle {ι : Type*} (pool : PointsPool ι) : Prop :=
  ∀ i, pool.past i = [] ∨ (pool.progs i).Ended

instance {ι : Type*} [Fintype ι] (pool : PointsPool ι) : Decidable pool.Idle :=
  inferInstanceAs (Decidable (∀ i, pool.past i = [] ∨ _))

def Ticks (w w' : World) : Prop := ∃ clock, w' = { w with clock }

/-! ### The condition -/

def Request.Fits : Request → Prop
  | earn request => request.details.Fits
  | redeem request => request.details.Fits
  | cancel _ reason _ feedback => (cancelDetails reason feedback).Fits
  | _ => True

instance : DecidablePred Request.Fits := fun request => by
  cases request <;> unfold Request.Fits <;> infer_instance

def Request.Forfeits : Request → Prop
  | cancel _ _ forfeitPoints _ => forfeitPoints = true
  | _ => False

instance : DecidablePred Request.Forfeits := fun request => by
  cases request <;> unfold Request.Forfeits <;> infer_instance

def Wrote (executed : Except DbError (Option (ℕ × MembershipRow)) × World) : Prop :=
  (executed.1.toOption.bind id).isSome
  deriving Decidable

/-- Points are written only if the history takes the entry; and where points are forfeited and the
history takes that entry, the membership that is found has none, or is canceled already. -/
def Applied (request : Request) (w : World) : Call → Prop
  | .addPoints id points tierPoints => Wrote (w.addPoints id points tierPoints) → request.Fits
  | .deductPoints id points => Wrote (w.deductPoints id points) → request.Fits
  | .selectMembership id => request.Forfeits → request.Fits →
      ∀ row ∈ w.memberships id, row.status ≠ .canceled → row.pointsBalance = 0
  | _ => True

instance (request : Request) (w : World) : DecidablePred (Applied request w)
  | .addPoints id points tierPoints =>
    inferInstanceAs (Decidable (Wrote (w.addPoints id points tierPoints) → _))
  | .deductPoints id points => inferInstanceAs (Decidable (Wrote (w.deductPoints id points) → _))
  | .selectMembership id =>
    inferInstanceAs (Decidable (_ → _ → ∀ row ∈ w.memberships id, _ → _))
  | .clock | .insertMembership _ _ | .selectByUser _ _ _ | .updateTier _ _ | .updateStatus _ _
  | .insertHistory _ => .isTrue trivial

abbrev PointsRun {ι : Type*} [DecidableEq ι] (requests : ι → Request) :
    PointsPool ι → PointsPool ι → Prop :=
  Pool.Reach handle Ticks fun i _ w c => Applied (requests i) w c

/-! ### What a statement moves -/

/-- What a membership has beyond its history: points, and points of its lifetime. -/
def World.gap (w : World) (id : ℕ) : ℤ × ℤ :=
  (w.memberships id).elim 0 (fun row => (row.pointsBalance, row.lifetimePoints)) -
    ((w.changes id).sum, ((w.changes id).filter (0 < ·)).sum)

def moved (e : World × Call) : ℕ → ℤ × ℤ := (handle e.2 e.1).2.gap - e.1.gap

section Moves

variable {w : World}

def Refused (executed : Except DbError (Option (ℕ × MembershipRow)) × World) (w : World) : Prop :=
  (∃ e, executed = (.error e, w)) ∨ executed = (.ok none, w)

theorem Refused.snd {executed : Except DbError (Option (ℕ × MembershipRow)) × World}
    (h : Refused executed w) : executed.2 = w := by
  rcases h with ⟨e, rfl⟩ | rfl <;> rfl

theorem update_cases (w : World) (id : ℕ) (change : MembershipRow → Option MembershipRow) :
    Refused (w.update id change) w ∨
      ∃ row ∈ w.memberships id, ∃ row' ∈ change row, row'.InRange ∧
        w.update id change = (.ok (some (id, row')), w.put id row') := by
  rw [update]
  cases hchange : (w.memberships id).bind change with
  | none => exact .inl (.inr rfl)
  | some row' =>
    obtain ⟨row, hrow, hnew⟩ := Option.bind_eq_some_iff.mp hchange
    simp only [write]
    split
    · next hrange =>
        split
        · exact .inl (.inl ⟨_, rfl⟩)
        · exact .inr ⟨row, hrow, row', hnew, hrange, rfl⟩
    · exact .inl (.inl ⟨_, rfl⟩)

theorem gap_put {row : MembershipRow} {id : ℕ} (hrow : row ∈ w.memberships id)
    (row' : MembershipRow) : (w.put id row').gap - w.gap =
      Pi.single id (row'.pointsBalance - row.pointsBalance,
        row'.lifetimePoints - row.lifetimePoints) := by
  funext j
  rw [Pi.sub_apply, gap, gap]
  by_cases hj : j = id
  · subst hj
    rw [Option.mem_def] at hrow
    simp [World.put, changes, hrow]
  · simp [World.put, changes, hj]

theorem gap_insert {id : ℕ} (hnew : w.memberships id = none) (row : MembershipRow) :
    (w.put id row).gap - w.gap = Pi.single id (row.pointsBalance, row.lifetimePoints) := by
  funext j
  rw [Pi.sub_apply, gap, gap]
  by_cases hj : j = id
  · subst hj
    simp [World.put, changes, hnew]
  · simp [World.put, changes, hj]

theorem gap_record (w : World) (row : HistoryRow) :
    ({ w with history := w.history ++ [row] } : World).gap - w.gap =
      -Pi.single row.membershipId (row.pointsChange, max row.pointsChange 0) := by
  funext j
  rw [Pi.sub_apply, gap, gap]
  by_cases hj : row.membershipId = j
  · subst hj
    by_cases hpos : 0 < row.pointsChange
    · simp [changes, hpos, hpos.le]
    · simp [changes, not_lt.mp hpos]
  · simp [changes, hj]

theorem insertMembership_cases (w : World) (row : MembershipRow) (metadata : Bool) :
    Refused (w.insertMembership row metadata) { w with issued := w.issued + 1 } ∨
      row.InRange ∧ row.TextsFit ∧ w.insertMembership row metadata =
        (.ok (some (w.issued, row)), { w with issued := w.issued + 1 }.put w.issued row) := by
  rw [insertMembership]
  split
  · next hfits =>
      rw [write]
      split
      · next hrange =>
          split
          · exact .inl (.inl ⟨_, rfl⟩)
          · exact .inr ⟨hrange, hfits.1, rfl⟩
      · exact .inl (.inl ⟨_, rfl⟩)
  · exact .inl (.inl ⟨_, rfl⟩)

theorem addPoints_cases (w : World) (id : ℕ) (points tierPoints : ℤ) :
    Refused (w.addPoints id points tierPoints) w ∨
      Bigint points ∧ ∃ row ∈ w.memberships id, (row.add points tierPoints).InRange ∧
        w.addPoints id points tierPoints = (.ok (some (id, row.add points tierPoints)),
          w.put id (row.add points tierPoints)) := by
  rw [World.addPoints]
  split
  · next hbig =>
      rcases update_cases w id fun row => some (row.add points tierPoints) with
        h | ⟨row, hrow, row', hnew, hrange, heq⟩
      · exact .inl h
      · obtain rfl := Option.some.inj hnew
        exact .inr ⟨hbig.1, row, hrow, hrange, heq⟩
  · exact .inl (.inl ⟨_, rfl⟩)

theorem deductPoints_cases (w : World) (id : ℕ) (points : ℤ) :
    Refused (w.deductPoints id points) w ∨
      Bigint points ∧ ∃ row ∈ w.memberships id, points ≤ row.pointsBalance ∧
        Bigint (row.pointsBalance - points) ∧
        w.deductPoints id points =
          (.ok (some (id, { row with pointsBalance := row.pointsBalance - points })),
            w.put id { row with pointsBalance := row.pointsBalance - points }) := by
  rw [World.deductPoints]
  split
  · next hbig =>
      rcases update_cases w id (MembershipRow.deduct points) with
        h | ⟨row, hrow, row', hnew, hrange, heq⟩
      · exact .inl h
      · rw [MembershipRow.deduct, Option.mem_def, Option.ite_none_right_eq_some] at hnew
        obtain ⟨hle, hnew⟩ := hnew
        obtain rfl := Option.some.inj hnew
        exact .inr ⟨hbig, row, hrow, hle, hrange.1, heq⟩
  · exact .inl (.inl ⟨_, rfl⟩)

def Call.Quiet : Call → Prop
  | insertMembership _ _ => False
  | addPoints _ _ _ => False
  | deductPoints _ _ => False
  | insertHistory row => row.pointsChange = 0
  | _ => True

theorem gap_update {id : ℕ} {change : MembershipRow → Option MembershipRow}
    (hchange : ∀ row, ∀ row' ∈ change row,
      row'.pointsBalance = row.pointsBalance ∧ row'.lifetimePoints = row.lifetimePoints) :
    (w.update id change).2.gap - w.gap = 0 := by
  rcases update_cases w id change with h | ⟨row, hrow, row', hnew, -, h⟩
  · rw [h.snd, sub_self]
  · obtain ⟨hbalance, hlifetime⟩ := hchange row row' hnew
    rw [h, gap_put hrow, hbalance, hlifetime, sub_self, sub_self]
    exact Pi.single_zero _

theorem moved_quiet {c : Call} (hc : c.Quiet) : moved (w, c) = 0 := by
  cases c with
  | clock => exact sub_self _
  | selectMembership id => exact sub_self _
  | selectByUser userId organizationId activeOnly => exact sub_self _
  | updateTier id newTier =>
    refine gap_update fun row row' hrow' => ?_
    obtain rfl := Option.some.inj hrow'
    exact ⟨rfl, rfl⟩
  | updateStatus id status =>
    refine gap_update fun row row' hrow' => ?_
    obtain rfl := Option.some.inj hrow'
    exact ⟨rfl, rfl⟩
  | insertHistory row =>
    have hzero : row.pointsChange = 0 := hc
    simp only [moved, handle]
    split
    · rw [gap_record, hzero]
      exact neg_eq_zero.mpr (Pi.single_zero _)
    · exact sub_self _
  | insertMembership row metadata => exact hc.elim
  | addPoints id points tierPoints => exact hc.elim
  | deductPoints id points => exact hc.elim

theorem moved_insertHistory {row : HistoryRow} (hrow : row.Fits) :
    moved (w, .insertHistory row) =
      -Pi.single row.membershipId (row.pointsChange, max row.pointsChange 0) := by
  simp only [moved, handle, if_pos hrow]
  exact gap_record w row

theorem moved_insertHistory_of_not {row : HistoryRow} (hrow : ¬row.Fits) :
    moved (w, .insertHistory row) = 0 := by
  simp only [moved, handle, if_neg hrow, sub_self]

end Moves

/-! ### Terms -/

def MembershipRow.Valid (row : MembershipRow) : Prop :=
  0 ≤ row.pointsBalance ∧ 0 ≤ row.tierPoints ∧ 0 ≤ row.lifetimePoints

structure World.Valid (w : World) : Prop where
  rows : ∀ id, ∀ row ∈ w.memberships id, row.Valid
  issued : ∀ id, w.issued ≤ id → w.memberships id = none

def pointsTerms : Terms World := .ofInv Valid

def Promised : Call → Prop
  | .insertMembership row _ => row.Valid
  | .addPoints _ points tierPoints => 0 ≤ points ∧ 0 ≤ tierPoints
  | _ => True

section Terms

variable {w : World}

theorem World.valid_empty (clock : Timestamp) : (empty clock).Valid :=
  ⟨fun _ _ hrow => absurd hrow (Option.not_mem_none _), fun _ _ => rfl⟩

theorem World.Valid.put (hw : w.Valid) {id : ℕ} {row : MembershipRow} (hid : id < w.issued)
    (hrow : row.Valid) : (w.put id row).Valid := by
  refine ⟨fun j row' hrow' => ?_, fun j hj => ?_⟩
  · by_cases hj : j = id
    · subst hj
      obtain rfl : row = row' := by simpa [World.put] using hrow'
      exact hrow
    · exact hw.rows j row' (by simpa [World.put, hj] using hrow')
  · have hne : j ≠ id := by
      have : w.issued ≤ j := hj
      omega
    simpa [World.put, hne] using hw.issued j hj

theorem World.Valid.lt_issued (hw : w.Valid) {id : ℕ} {row : MembershipRow}
    (hrow : row ∈ w.memberships id) : id < w.issued := by
  by_contra hid
  rw [hw.issued id (by omega)] at hrow
  cases hrow

theorem World.Valid.update (hw : w.Valid) {id : ℕ} {change : MembershipRow → Option MembershipRow}
    (hchange : ∀ row, row.Valid → ∀ row' ∈ change row, row'.Valid) :
    (w.update id change).2.Valid := by
  rcases update_cases w id change with h | ⟨row, hrow, row', hnew, -, h⟩
  · rwa [h.snd]
  · rw [h]
    exact hw.put (hw.lt_issued hrow) (hchange row (hw.rows id row hrow) row' hnew)

theorem valid_drawn (hw : w.Valid) : ({ w with issued := w.issued + 1 } : World).Valid := by
  refine ⟨hw.rows, fun id hid => hw.issued id ?_⟩
  have : w.issued + 1 ≤ id := hid
  omega

theorem valid_handle {c : Call} (hw : w.Valid) (hc : Promised c) : (handle c w).2.Valid := by
  cases c with
  | clock => exact hw
  | selectMembership id => exact hw
  | selectByUser userId organizationId activeOnly => exact hw
  | insertHistory row =>
    rw [handle]
    split
    · exact ⟨hw.rows, hw.issued⟩
    · exact hw
  | updateTier id newTier =>
    refine hw.update fun row hrow row' hrow' => ?_
    obtain rfl := Option.some.inj hrow'
    exact hrow
  | updateStatus id status =>
    refine hw.update fun row hrow row' hrow' => ?_
    obtain rfl := Option.some.inj hrow'
    exact hrow
  | addPoints id points tierPoints =>
    obtain ⟨hpoints, htier⟩ := hc
    rcases addPoints_cases w id points tierPoints with h | ⟨-, row, hrow, -, h⟩
    · rwa [handle, h.snd]
    · rw [handle, h]
      obtain ⟨hbalance, htierPoints, hlifetime⟩ := hw.rows id row hrow
      refine hw.put (hw.lt_issued hrow) ⟨?_, ?_, ?_⟩
      · exact add_nonneg hbalance hpoints
      · exact add_nonneg htierPoints htier
      · exact add_nonneg hlifetime hpoints
  | deductPoints id points =>
    rcases deductPoints_cases w id points with h | ⟨-, row, hrow, hle, -, h⟩
    · rwa [handle, h.snd]
    · rw [handle, h]
      obtain ⟨-, htierPoints, hlifetime⟩ := hw.rows id row hrow
      exact hw.put (hw.lt_issued hrow) ⟨sub_nonneg.mpr hle, htierPoints, hlifetime⟩
  | insertMembership row metadata =>
    rcases insertMembership_cases w row metadata with h | ⟨-, -, h⟩
    · rw [handle, h.snd]
      exact valid_drawn hw
    · rw [handle, h]
      exact (valid_drawn hw).put (Nat.lt_succ_self _) hc

end Terms

/-! ### What the calls of the repository move -/

section Repository

variable {request : Request} {past : PointsPast} {w : World} {α : Type} {a : ℕ → ℤ × ℤ}

/-- A program keeps its promises, and ends as `Q` says. -/
abbrev PointsSound (request : Request) (Q : Except MembershipError α → PointsPast → Prop)
    (p : MembershipM α) : PointsPast → World → Prop :=
  p.Sound pointsTerms handle (fun _ => Applied request) (fun _ _ => Promised)
    fun r past _ => Q r past

theorem ask_sound {c : Call} {Q : Except MembershipError c.Reply → PointsPast → Prop}
    (hc : Promised c) (h : ∀ w', w'.Valid → Applied request w' c →
      Q ((handle c w').1.mapError .database) ((w', c) :: past)) :
    PointsSound request Q (ask c) past w := by
  exact sound_query fun w' _ hw' => ⟨hc, fun happlied _ _ _ => h w' hw' happlied⟩

theorem promised_of_quiet {c : Call} (hc : c.Quiet) : Promised c := by
  cases c with
  | insertMembership row metadata => exact hc.elim
  | addPoints id points tierPoints => exact hc.elim
  | _ => trivial

theorem quiet_sound {p : MembershipM α} (hp : p.Only Call.Quiet) (hpast : tally moved past = a) :
    PointsSound request (fun _ past => tally moved past = a) p past w := by
  refine hp.sound (K := fun past => tally moved past = a) hpast fun c hc past w h => ?_
  refine ⟨promised_of_quiet hc, ?_⟩
  rw [tally_cons, moved_quiet hc, zero_add, h]

section Only

variable {P : Call → Prop}

theorem ask_only {c : Call} (hc : P c) : (ask c).Only P :=
  only_query (I := MembershipApi) hc

theorem converted_only (e : ℕ × MembershipRow) : (converted e).Only P := by
  rw [converted]
  split <;> trivial

theorem returned_only (missing : MembershipError) (row : Option (ℕ × MembershipRow)) :
    (returned missing row).Only P := by
  cases row with
  | none => trivial
  | some e => exact converted_only e

theorem found_only (row : Option (ℕ × MembershipRow)) : (found row).Only P := by
  cases row with
  | none => trivial
  | some e => exact (converted_only e).bind fun _ => trivial

theorem getMembership_only {id : ℕ} (hc : P (.selectMembership id)) : (getMembership id).Only P :=
  (ask_only (c := .selectMembership id) hc).bind fun row => found_only row

theorem getMembershipByUser_only {userId : PyStr} {organizationId : Option PyStr}
    {activeOnly : Bool} (hc : P (.selectByUser userId organizationId activeOnly)) :
    (getMembershipByUser userId organizationId activeOnly).Only P :=
  (ask_only (c := .selectByUser userId organizationId activeOnly) hc).bind
    fun row => found_only row

theorem updateTier_only {id : ℕ} {newTier : MembershipTier} (hc : P (.updateTier id newTier)) :
    (updateTier id newTier).Only P :=
  (ask_only (c := .updateTier id newTier) hc).bind fun row => returned_only _ row

theorem updateStatus_only {id : ℕ} {status : MembershipStatus} (hc : P (.updateStatus id status)) :
    (updateStatus id status).Only P :=
  (ask_only (c := .updateStatus id status) hc).bind fun row => returned_only _ row

theorem addHistory_only {row : HistoryRow} (hc : P (.insertHistory row)) :
    (addHistory row).Only P :=
  ask_only (c := .insertHistory row) hc

theorem responding_only {β : Type} {p : MembershipM (Except Refusal β)} (hp : p.Only P) :
    (responding p).Only P :=
  hp.tryCatch fun _ => trivial

variable {id : ℕ} (hselect : P (.selectMembership id))
  (hstatus : ∀ status, P (.updateStatus id status))
  (hhistory : ∀ row : HistoryRow, row.pointsChange = 0 → P (.insertHistory row))

include hselect hstatus hhistory

theorem suspendMembership_only (reason : PyStr) : (suspendMembership id reason).Only P := by
  refine responding_only ((getMembership_only hselect).bind fun found => ?_)
  cases found with
  | none => trivial
  | some membership =>
    dsimp only
    split
    · trivial
    · exact (updateStatus_only (hstatus _)).bind fun _ =>
        (addHistory_only (hhistory _ rfl)).bind fun _ => trivial

theorem reactivateMembership_only : (reactivateMembership id).Only P := by
  refine responding_only ((getMembership_only hselect).bind fun found => ?_)
  cases found with
  | none => trivial
  | some membership =>
    dsimp only
    split
    · trivial
    · exact (updateStatus_only (hstatus _)).bind fun _ =>
        (addHistory_only (hhistory _ rfl)).bind fun _ => trivial

end Only

def Membership.stored (membership : Membership) : ℕ × MembershipRow :=
  (membership.membershipId, membership.toMembershipRow)

theorem found_cases (row : Option (ℕ × MembershipRow)) :
    found row = .raise .validationError ∨
      ∃ membership, found row = .ret membership ∧ membership.map Membership.stored = row := by
  cases row with
  | none => exact .inr ⟨none, rfl, rfl⟩
  | some e =>
    obtain ⟨id, row⟩ := e
    rw [found, converted, MembershipRow.toMembership]
    by_cases hvalid : 0 ≤ row.pointsBalance ∧ 0 ≤ row.tierPoints ∧ 0 ≤ row.lifetimePoints
    · rw [if_pos hvalid]
      exact .inr ⟨some { row with membershipId := id }, rfl, rfl⟩
    · rw [if_neg hvalid]
      exact .inl rfl

theorem converted_eq {id : ℕ} {row : MembershipRow} (hrow : row.Valid) :
    converted (id, row) = .ret { row with membershipId := id } := by
  have hread : row.toMembership id = some { row with membershipId := id } := if_pos hrow
  simp only [converted, hread, pure_eq]

/-- The outcome of a statement that moves points of a row, if it writes one, which meets `P`. -/
def Written (points : ℤ × ℤ) (P : ℕ → MembershipRow → Prop) (past : PointsPast) :
    Except MembershipError (Option (ℕ × MembershipRow)) → Prop
  | .ok (some (id, row)) => tally moved past = Pi.single id points ∧ row.Valid ∧ P id row
  | _ => tally moved past = 0

def Moved (points : ℤ × ℤ) (P : ℕ → MembershipRow → Prop) :
    Except MembershipError Membership → PointsPast → Prop
  | .ok membership, past => tally moved past = Pi.single membership.membershipId points ∧
      P membership.membershipId membership.toMembershipRow
  | .error _, past => tally moved past = 0

variable {points : ℤ × ℤ} {P : ℕ → MembershipRow → Prop}

theorem written_of_refused {executed : Except DbError (Option (ℕ × MembershipRow)) × World}
    (h : Refused executed w) (hpast : tally moved past = 0) :
    Written points P past (executed.1.mapError .database) := by
  rcases h with ⟨e, rfl⟩ | rfl <;> exact hpast

theorem returned_sound {missing : MembershipError} {row : Option (ℕ × MembershipRow)}
    (hrow : Written points P past (.ok row)) :
    PointsSound request (Moved points P) (returned missing row) past w := by
  cases row with
  | none => exact fun _ _ _ => hrow
  | some e =>
    obtain ⟨htally, hvalid, hP⟩ := hrow
    rw [returned, converted_eq hvalid]
    exact fun _ _ _ => ⟨htally, hP⟩

theorem tally_moved {c : Call} (hpast : tally moved past = 0) :
    tally moved ((w, c) :: past) = (handle c w).2.gap - w.gap := by
  rw [tally_cons, hpast, add_zero, moved]

theorem addPoints_sound {id : ℕ} {points tierPoints : ℤ} (hpoints : 0 ≤ points)
    (htier : 0 ≤ tierPoints) (hpast : tally moved past = 0) :
    PointsSound request (Moved (points, points) fun id' row => id' = id ∧ request.Fits ∧
      Bigint points ∧ Bigint row.pointsBalance) (addPoints id points tierPoints) past w := by
  refine (ask_sound (c := .addPoints id points tierPoints) (Q := fun r past => Written _ _ past r)
    ⟨hpoints, htier⟩ fun w' hw' happlied => ?_).bind (fun row _ _ h => returned_sound h)
    fun _ _ _ h => h
  rw [handle]
  rcases addPoints_cases w' id points tierPoints with h | ⟨hbig, row, hrow, hrange, h⟩
  · refine written_of_refused h ?_
    rw [tally_moved hpast, handle, h.snd, sub_self]
  · have hvalid := hw'.rows id row hrow
    have hwrote : Wrote (w'.addPoints id points tierPoints) := by rw [h]; rfl
    rw [h]
    refine ⟨?_, ?_, rfl, happlied hwrote, hbig, hrange.1⟩
    · rw [tally_moved hpast, handle, h, gap_put hrow]
      simp [MembershipRow.add]
    · exact ⟨add_nonneg hvalid.1 hpoints, add_nonneg hvalid.2.1 htier, add_nonneg hvalid.2.2 hpoints⟩

theorem deductPoints_sound {id : ℕ} {points : ℤ} (hpast : tally moved past = 0) :
    PointsSound request (Moved (-points, 0) fun id' row => id' = id ∧ request.Fits ∧
      Bigint points ∧ Bigint row.pointsBalance) (deductPoints id points) past w := by
  refine (quiet_sound (getMembership_only trivial) hpast).bind (fun r past w hpast => ?_)
    fun _ _ _ h => h
  cases r with
  | none => exact fun _ _ _ => hpast
  | some membership =>
    refine sound_require_bind (fun _ => ?_) fun _ _ _ _ => hpast
    refine (ask_sound (c := .deductPoints id points) (Q := fun r past => Written _ _ past r)
      trivial fun w' hw' happlied => ?_).bind (fun row _ _ h => returned_sound h) fun _ _ _ h => h
    rw [handle]
    rcases deductPoints_cases w' id points with h | ⟨hbig, row, hrow, hle, hbalance, h⟩
    · refine written_of_refused h ?_
      rw [tally_moved hpast, handle, h.snd, sub_self]
    · have hvalid := hw'.rows id row hrow
      have hwrote : Wrote (w'.deductPoints id points) := by rw [h]; rfl
      rw [h]
      refine ⟨?_, ⟨sub_nonneg.mpr hle, hvalid.2⟩, rfl, happlied hwrote, hbig, hbalance⟩
      rw [tally_moved hpast, handle, h, gap_put hrow]
      simp

theorem createMembership_sound {userId : PyStr} {tierCode : MembershipTier} {bonus : ℤ}
    {organizationId enrollmentSource promoCode : Option PyStr} {metadata : Bool} (hbonus : 0 ≤ bonus)
    (hpast : tally moved past = 0) :
    PointsSound request (Moved (bonus, bonus) fun _ row => Bigint row.pointsBalance ∧
        row.pointsBalance = bonus ∧ (∀ s ∈ enrollmentSource, Varchar 50 s) ∧
        ∀ s ∈ promoCode, Varchar 50 s)
      (createMembership userId tierCode bonus organizationId enrollmentSource promoCode metadata)
      past w := by
  refine (quiet_sound (ask_only (c := .clock) trivial) hpast).bind (fun now past w hpast => ?_)
    fun _ _ _ h => h
  refine (ask_sound (c := .insertMembership _ metadata) (Q := fun r past => Written _ _ past r)
    ⟨hbonus, le_rfl, hbonus⟩ fun w' hw' happlied => ?_).bind (fun row _ _ h => returned_sound h)
    fun _ _ _ h => h
  rw [handle]
  rcases insertMembership_cases w' _ metadata with h | ⟨hrange, htexts, h⟩
  · refine written_of_refused h ?_
    rw [tally_moved hpast, handle, h.snd]
    exact sub_self _
  · rw [h]
    refine ⟨?_, ⟨hbonus, le_rfl, hbonus⟩, hrange.1, rfl, htexts.2.2.1, htexts.2.2.2⟩
    rw [tally_moved hpast, handle, h]
    exact gap_insert (hw'.issued w'.issued le_rfl) _

theorem addHistory_sound {row : HistoryRow} (hrow : row.Fits) (hpast : tally moved past =
    Pi.single row.membershipId (row.pointsChange, max row.pointsChange 0)) :
    PointsSound request (fun _ past => tally moved past = 0) (addHistory row) past w := by
  refine ask_sound (c := .insertHistory row) trivial fun w' _ _ => ?_
  rw [tally_cons, moved_insertHistory hrow, hpast, neg_add_cancel]

theorem addHistory_idle {row : HistoryRow} (hrow : row.Fits → row.pointsChange = 0)
    (hpast : tally moved past = 0) :
    PointsSound request (fun _ past => tally moved past = 0) (addHistory row) past w := by
  refine ask_sound (c := .insertHistory row) trivial fun w' _ _ => ?_
  rw [tally_cons, hpast, add_zero]
  by_cases hfits : row.Fits
  · exact moved_quiet (c := .insertHistory row) (hrow hfits)
  · exact moved_insertHistory_of_not hfits

end Repository

/-! ### What the requests move -/

section Requests

variable {past : PointsPast} {w : World} {α : Type}

def Recorded (_ : Except MembershipError α) (past : PointsPast) : Prop := tally moved past = 0

theorem responding_sound {request : Request} {p : MembershipM (Except Refusal α)}
    (hp : PointsSound request Recorded p past w) :
    PointsSound request Recorded (responding p) past w :=
  hp.tryCatch (fun _ _ _ h => h) fun _ _ _ h => sound_ret fun _ _ _ => h

theorem calculateEnrollmentBonus_nonneg (promoCode : Option PyStr) :
    0 ≤ calculateEnrollmentBonus promoCode := by
  rw [calculateEnrollmentBonus]
  cases hbonus : (given promoCode).bind fun code => promoBonuses.lookup (code.map upperChar) with
  | none => exact le_rfl
  | some bonus =>
    obtain ⟨code, -, hlookup⟩ := Option.bind_eq_some_iff.mp hbonus
    obtain ⟨before, after, hmem, -⟩ := List.lookup_eq_some_iff.mp hlookup
    have hall : ∀ entry ∈ promoBonuses, 0 ≤ entry.2 := by decide
    exact hall (code.map upperChar, bonus) (by rw [hmem]; simp)

theorem enrollMembership_sound {request : EnrollMembershipRequest} (hpast : tally moved past = 0) :
    PointsSound (.enroll request) Recorded (enrollMembership request) past w := by
  refine responding_sound ((quiet_sound (getMembershipByUser_only trivial) hpast).bind
    (fun existing past w hpast => ?_) fun _ _ _ h => h)
  cases existing with
  | some membership => exact fun _ _ _ => hpast
  | none =>
    refine (createMembership_sound (calculateEnrollmentBonus_nonneg _) hpast).bind
      (fun membership past w hmoved => ?_) fun _ _ _ h => h
    obtain ⟨htally, hbig, hbalance, hsource, hpromo⟩ := hmoved
    rw [hbalance] at hbig
    have hfits : request.details.Fits := by
      refine ⟨hsource, ?_, ?_, ?_, ?_⟩
      · exact fun _ h => absurd h (Option.not_mem_none _)
      · exact fun _ h => absurd h (Option.not_mem_none _)
      · exact fun _ h => absurd h (Option.not_mem_none _)
      · refine decide_eq_true fun code hcode => (hpromo code ?_).1
        exact (Option.mem_filter_iff.mp hcode).1
    refine (addHistory_sound ⟨hfits, hbig, ?_⟩ ?_).bind (fun _ _ _ h _ _ _ => h) fun _ _ _ h => h
    · rintro _ ⟨⟩
      exact hbig
    · rw [htally, max_eq_left (calculateEnrollmentBonus_nonneg _)]

theorem finalPoints_nonneg (tier : MembershipTier) {pointsAmount : ℤ} (h : 0 ≤ pointsAmount) :
    0 ≤ finalPoints tier pointsAmount := by
  refine Int.floor_nonneg.mpr (mul_nonneg (Int.cast_nonneg h) ?_)
  cases tier <;> norm_num [MembershipTier.multiplier]

theorem upgradeTier_only {P : Call → Prop} {membership : Membership} {newTier : MembershipTier}
    (htier : P (.updateTier membership.membershipId newTier))
    (hhistory : ∀ row : HistoryRow, row.pointsChange = 0 → P (.insertHistory row))
    (oldTier : MembershipTier) : (upgradeTier membership oldTier newTier).Only P :=
  (updateTier_only htier).bind fun _ => (addHistory_only (hhistory _ rfl)).bind fun _ => trivial

theorem earnPoints_sound {request : EarnPointsRequest} (hpast : tally moved past = 0) :
    PointsSound (.earn request) Recorded (earnPoints request) past w := by
  have hamount : 0 ≤ request.pointsAmount.1 := request.pointsAmount.2.le
  refine responding_sound ((quiet_sound (getMembershipByUser_only trivial) hpast).bind
    (fun found past w hpast => ?_) fun _ _ _ h => h)
  cases found with
  | none => exact fun _ _ _ => hpast
  | some membership =>
    dsimp only
    cases membership.status.refusal with
    | some refusal => exact fun _ _ _ => hpast
    | none =>
      have hpoints := finalPoints_nonneg membership.tierCode hamount
      refine (addPoints_sound hpoints hamount hpast).bind
        (fun updated past w hmoved => ?_) fun _ _ _ h => h
      obtain ⟨htally, hid, hfits, hbig, hbalance⟩ := hmoved
      have hdetails : request.details.Fits := hfits
      refine (addHistory_sound ⟨hdetails, hbig, ?_⟩ ?_).bind (fun _ past w hpast => ?_)
        fun _ _ _ h => h
      · rintro _ ⟨⟩
        exact hbalance
      · rw [htally, hid, max_eq_left hpoints]
      · split
        · exact (quiet_sound (upgradeTier_only trivial (fun _ h => h) _) hpast).bind
            (fun _ _ _ h _ _ _ => h) fun _ _ _ h => h
        · exact fun _ _ _ => hpast

theorem redeemPoints_sound {request : RedeemPointsRequest} (hpast : tally moved past = 0) :
    PointsSound (.redeem request) Recorded (redeemPoints request) past w := by
  refine responding_sound ((quiet_sound (getMembershipByUser_only trivial) hpast).bind
    (fun found past w hpast => ?_) fun _ _ _ h => h)
  cases found with
  | none => exact fun _ _ _ => hpast
  | some membership =>
    dsimp only
    cases membership.status.refusal with
    | some refusal => exact fun _ _ _ => hpast
    | none =>
      dsimp only
      split
      · exact fun _ _ _ => hpast
      · refine (deductPoints_sound hpast).bind (fun updated past w hmoved => ?_)
          fun _ _ _ h => h
        obtain ⟨htally, hid, hfits, hbig, hbalance⟩ := hmoved
        have hdetails : request.details.Fits := hfits
        have hamount : 0 < request.pointsAmount.1 := request.pointsAmount.2
        refine (addHistory_sound ⟨hdetails, ?_, ?_⟩ ?_).bind (fun _ _ _ h _ _ _ => h)
          fun _ _ _ h => h
        · rw [Bigint] at hbig ⊢
          dsimp only
          omega
        · rintro _ ⟨⟩
          exact hbalance
        · rw [htally, hid, max_eq_right (by dsimp only; omega)]

theorem getMembership_sound {request : Request} {id : ℕ} (hpast : tally moved past = 0) :
    PointsSound request (fun r past => tally moved past = 0 ∧
        ∀ membership, r = .ok (some membership) →
        request.Forfeits → request.Fits → membership.status ≠ .canceled →
          membership.pointsBalance = 0)
      (getMembership id) past w := by
  let Spared (row : MembershipRow) : Prop :=
    request.Forfeits → request.Fits → row.status ≠ .canceled → row.pointsBalance = 0
  refine (ask_sound (c := .selectMembership id) (Q := fun r past => tally moved past = 0 ∧
    ∀ e, r = .ok (some e) → Spared e.2) trivial fun w' _ happlied => ?_).bind
    (fun row past w h => ?_) fun _ _ _ h => ⟨h.1, fun _ h => by cases h⟩
  · refine ⟨?_, fun e he hforfeits hfits => ?_⟩
    · rw [tally_cons, moved_quiet (c := .selectMembership id) trivial, zero_add, hpast]
    · obtain ⟨row, hrow, rfl⟩ := Option.map_eq_some_iff.mp (Except.ok.inj he)
      exact happlied hforfeits hfits row hrow
  · rcases found_cases row with hraise | ⟨found, hret, hstored⟩
    · rw [hraise]
      exact fun _ _ _ => ⟨h.1, fun _ h => by cases h⟩
    · rw [hret]
      refine fun _ _ _ => ⟨h.1, fun membership hfound => h.2 membership.stored ?_⟩
      rw [← hstored, Except.ok.inj hfound]
      rfl

theorem cancelMembership_sound {id : ℕ} {reason : Option PyStr} {forfeitPoints : Bool}
    {feedback : Option PyStr} (hpast : tally moved past = 0) :
    PointsSound (.cancel id reason forfeitPoints feedback) Recorded
      (cancelMembership id reason forfeitPoints feedback) past w := by
  refine responding_sound ((getMembership_sound hpast).bind (fun found past w hfound => ?_)
    fun _ _ _ h => h.1)
  obtain ⟨hpast, hspared⟩ := hfound
  cases found with
  | none => exact fun _ _ _ => hpast
  | some membership =>
    dsimp only
    split
    · exact fun _ _ _ => hpast
    · next hcanceled =>
        refine (quiet_sound (updateStatus_only trivial) hpast).bind
          (fun updated past w hpast => ?_)
          fun _ _ _ h => h
        refine (addHistory_idle (fun hfits => ?_) hpast).bind (fun _ _ _ h _ _ _ => h)
          fun _ _ _ h => h
        split
        · next hforfeits =>
            rw [hspared membership rfl hforfeits hfits.1 hcanceled, neg_zero]
        · rfl

theorem serve_sound (request : Request) : PointsSound request Recorded request.serve [] w := by
  cases request with
  | enroll request => exact sound_void (enrollMembership_sound rfl)
  | earn request => exact sound_void (earnPoints_sound rfl)
  | redeem request => exact sound_void (redeemPoints_sound rfl)
  | cancel id reason forfeitPoints feedback => exact sound_void (cancelMembership_sound rfl)
  | suspend id reason => exact sound_void (quiet_sound
      (suspendMembership_only trivial (fun _ => trivial) (fun _ h => h) reason) rfl)
  | reactivate id => exact sound_void (quiet_sound
      (reactivateMembership_only trivial (fun _ => trivial) fun _ h => h) rfl)

end Requests

/-! ### Runs -/

section Runs

variable {ι : Type*} [Fintype ι] [DecidableEq ι] {clock : Timestamp} {requests : ι → Request}
  {pool : PointsPool ι}

theorem World.Valid.reconciled {w : World} (hw : w.Valid) (hgap : ∀ id, w.gap id = 0) :
    w.Reconciled := by
  have hagree : ∀ id, ∀ row ∈ w.memberships id, (row.pointsBalance, row.lifetimePoints) =
      ((w.changes id).sum, ((w.changes id).filter (0 < ·)).sum) := fun id row hrow => by
    have hid := hgap id
    rw [gap, Option.mem_def.mp hrow] at hid
    exact sub_eq_zero.mp hid
  exact ⟨fun id row hrow => (hw.rows id row hrow).1,
    fun id row hrow => congrArg Prod.fst (hagree id row hrow),
    fun id row hrow => congrArg Prod.snd (hagree id row hrow)⟩

/-- **The tables agree as long as what is written fits the history and nothing is forfeited.**
Any number of calls run at the same time, in any order of their statements. -/
theorem reconciled_of_applied (hpool : PointsRun requests (PointsPool.start clock requests) pool)
    (hidle : pool.Idle) : pool.state.Reconciled := by
  have hall : Pool.AllSound pointsTerms handle (fun i _ => Applied (requests i))
      (fun _ _ _ => Promised) (fun _ r past _ => Recorded r past)
      (PointsPool.start clock requests) :=
    ⟨valid_empty clock, fun i => serve_sound (requests i)⟩
  have hkeeps : ∀ (i : ι) (past : PointsPast) (w : World) (c : Call), w.Valid →
      Applied (requests i) w c → Promised c → (handle c w).2.Valid ∧ True :=
    fun _ _ _ _ hw _ hc => ⟨valid_handle hw hc, trivial⟩
  have henv : ∀ w w' : World, w.Valid → Ticks w w' → w'.Valid ∧ True := by
    rintro w _ hw ⟨clock, rfl⟩
    exact ⟨⟨hw.rows, hw.issued⟩, trivial⟩
  have hend := hpool.sound hall (fun _ _ _ _ h => h) hkeeps henv
  have hgap : pool.state.gap = (empty clock).gap + ∑ i, tally moved (pool.past i) := by
    refine hpool.measure_eq hall (fun _ _ _ _ h => h) hkeeps henv gap moved ?_ ?_
    · rintro w _ ⟨clock, rfl⟩
      rfl
    · exact fun _ _ w c _ _ _ => (add_sub_cancel _ _).symm
  have hrecorded : ∀ i, tally moved (pool.past i) = 0 := fun i => by
    rcases hidle i with hpast | hended
    · rw [hpast, tally_nil]
    · cases hprog : pool.progs i with
      | ret u => exact hend.of_ret hprog
      | raise e => exact hend.of_raise hprog
      | call c k =>
        rw [hprog] at hended
        exact hended.elim
  refine hend.1.reconciled fun id => ?_
  rw [hgap, Finset.sum_eq_zero fun i _ => hrecorded i]
  rfl

end Runs

/-! ### A bonus that is forfeited -/

def enrollment : EnrollMembershipRequest :=
  { userId := ['u'], promoCode := some "WELCOME100".toList }

def forfeiture : Fin 2 → Request
  | 0 => .enroll enrollment
  | 1 => .cancel 0 none true none

def forfeited : PointsPool (Fin 2) :=
  (PointsPool.start 0 forfeiture).schedule handle [0, 0, 0, 0, 1, 1, 1]

/-- The history takes 100 points away, and the balance still has them. -/
theorem not_reconciled_forfeited :
    Pool.Reach handle Ticks Pool.anyCall (PointsPool.start 0 forfeiture) forfeited ∧
      forfeited.Idle ∧ ¬forfeited.state.Reconciled := by
  refine ⟨Pool.Reach.start.schedule (Pool.permitted_anyCall _ _ _), by decide +kernel, fun h => ?_⟩
  have hbalance : ∃ row ∈ forfeited.state.memberships 0, row.pointsBalance = 100 := by
    decide +kernel
  obtain ⟨row, hrow, hrest⟩ := hbalance
  have hsum : (forfeited.state.changes 0).sum = 0 := by decide +kernel
  have := h.balance 0 row hrow
  omega

def traffic : Fin 3 → Request
  | 0 => .enroll enrollment
  | 1 => .earn { userId := ['u'], pointsAmount := ⟨10, tenPoints_pos⟩, source := ['s'] }
  | 2 => .redeem { userId := ['u'], pointsAmount := ⟨50, by decide⟩, rewardCode := ['r'] }

theorem reconciled_traffic :
    ((PointsPool.start 0 traffic).schedule handle
      [0, 0, 0, 0, 1, 2, 1, 2, 2, 2, 1]).state.Reconciled :=
  reconciled_of_applied (Pool.Reach.start.schedule (by decide +kernel)) (by decide +kernel)

end IsaUser.Memberships
