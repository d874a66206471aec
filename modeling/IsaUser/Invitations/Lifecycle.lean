import IsaUser.Invitations.Model
import IsaUser.Lib.Tenure

/-!
# The Life of an Invitation

Who marks an invitation as accepted asks the organization service to add a member, and marks the
invitation as pending again if that fails. The mark is a tenure: one holds it at a time. That a
member who has been added stays, that what is cancelled or expired stays so, and that an email has
one pending invitation, depends on the writes that look at no status.
-/

open IsaUser.Prog List

namespace IsaUser.Invitations

/-! ### The law -/

section Law

def IsAdd : Timed Call → Prop
  | .call (.addMember ..) => True
  | _ => False

instance : DecidablePred IsAdd
  | .now => .isFalse id
  | .call c => by cases c <;> first | exact .isTrue trivial | exact .isFalse id

def Added : Clocked InvitationStore × Timed Call → Prop
  | (m, .call (.addMember ..)) => m.link ≠ .down ∧ m.store.addStatus = 200
  | _ => False

def Joined (past : InvitationPast) : Prop := ∃ e ∈ past, Added e

def Invitation.Dead (row : Invitation) : Prop := row.status = .cancelled ∨ row.status = .expired

variable {ι : Type*} (requests : ι → Request) (pool : InvitationPool ι)

def Accepts (i : ι) (token : PyStr) : Prop := ∃ userId, requests i = .accept token userId

def OneAtATime : Prop :=
  ∀ token i j, Accepts requests i token → Accepts requests j token →
    (∃ c ∈ pool.next? i, IsAdd c) → (∃ c ∈ pool.next? j, IsAdd c) → i = j

def AddedOnce : Prop :=
  (∀ token i j, Accepts requests i token → Accepts requests j token → Joined (pool.past i) →
    Joined (pool.past j) → i = j) ∧
  ∀ i, (pool.past i).countP (fun e => IsAdd e.2) ≤ 1

def StaysAccepted : Prop :=
  ∀ token i, Accepts requests i token → Joined (pool.past i) →
    ∃ row ∈ pool.state.store.invitations.rows,
      row.invitationToken = token ∧ row.status = .accepted

def InvitationTable.OnePending (t : InvitationTable) : Prop :=
  ∀ row ∈ t.rows, ∀ row' ∈ t.rows, row.status = .pending → row'.status = .pending →
    row.email = row'.email → row.organizationId = row'.organizationId → row = row'

def StayDead (t t' : InvitationTable) : Prop :=
  ∀ row ∈ t.rows, row.Dead → ∃ row' ∈ t'.rows, row'.invitationId = row.invitationId ∧ row'.Dead

/-! ### The condition -/

/-- An insertion finds no pending invitation for its email; an update that cancels or expires
finds none that is accepted, and one that makes an invitation pending again finds no other that
is; and the answer about a member who has been added is not lost. -/
def Orderly (m : Clocked InvitationStore) : Timed Call → Prop
  | .call (.insertInvitation row) => m.link ≠ .down → ∀ r ∈ m.store.invitations.rows,
      r.status = .pending → ¬(r.email = row.email ∧ r.organizationId = row.organizationId)
  | .call (.updateInvitation id data) => m.link ≠ .down → ∀ row ∈ m.store.invitations.rows,
      row.invitationId = id →
        (data.status = some .cancelled ∨ data.status = some .expired → row.status ≠ .accepted) ∧
        (data.status = some .pending → ∀ r ∈ m.store.invitations.rows, r.status = .pending →
          r.email = row.email → r.organizationId = row.organizationId → r = row)
  | .call (.addMember ..) => ¬(m.link = .lost ∧ m.store.addStatus = 200)
  | _ => True

instance (m : Clocked InvitationStore) : DecidablePred (Orderly m)
  | .call (.insertInvitation row) => inferInstanceAs (Decidable (m.link ≠ .down →
      ∀ r ∈ m.store.invitations.rows, r.status = .pending →
        ¬(r.email = row.email ∧ r.organizationId = row.organizationId)))
  | .call (.updateInvitation id data) => inferInstanceAs (Decidable (m.link ≠ .down →
      ∀ row ∈ m.store.invitations.rows, row.invitationId = id →
        (data.status = some .cancelled ∨ data.status = some .expired → row.status ≠ .accepted) ∧
        (data.status = some .pending → ∀ r ∈ m.store.invitations.rows, r.status = .pending →
          r.email = row.email → r.organizationId = row.organizationId → r = row)))
  | .call (.addMember ..) =>
    inferInstanceAs (Decidable ¬(m.link = .lost ∧ m.store.addStatus = 200))
  | .now | .call (.getOrganization ..) | .call (.getMembers ..) | .call (.selectById _)
  | .call (.selectByToken _) | .call (.selectPending ..) | .call (.acceptInvitation ..)
  | .call (.expireOldInvitations _) | .call (.cancelOrganizationInvitations _)
  | .call (.cancelInvitationsByInviter _) => .isTrue trivial

end Law

/-! ### What a call changes -/

def Call.writes : Call → Option ((Invitation → Bool) × UpdateData)
  | updateInvitation invitationId data => some ((·.invitationId = invitationId), data)
  | acceptInvitation token now =>
    some (fun row => row.invitationToken = token ∧ row.status = .pending,
      { status := some .accepted, acceptedAt := some (some now) })
  | expireOldInvitations now =>
    some (fun row => row.status = .pending ∧ row.expiresAt < now, { status := some .expired })
  | cancelOrganizationInvitations organizationId =>
    some (fun row => row.organizationId = organizationId ∧ row.status = .pending,
      { status := some .cancelled })
  | cancelInvitationsByInviter userId =>
    some (fun row => row.invitedBy = userId ∧ row.status = .pending,
      { status := some .cancelled })
  | _ => none

section Calls

variable {t : InvitationTable} {row row' : Invitation} {m : Clocked InvitationStore}
  {p : Invitation → Bool}

instance : Std.Symm Invitation.Apart := ⟨fun _ _ h => ⟨h.1.symm, h.2.symm⟩⟩

theorem InvitationTable.eq_of_id (h : row ∈ t.rows) (h' : row' ∈ t.rows)
    (hid : row.invitationId = row'.invitationId) : row = row' := by
  by_contra hne
  exact (t.apart.forall h h' hne).1 hid

theorem InvitationTable.eq_of_token (h : row ∈ t.rows) (h' : row' ∈ t.rows)
    (htoken : row.invitationToken = row'.invitationToken) : row = row' := by
  by_contra hne
  exact (t.apart.forall h h' hne).2 htoken

theorem InvitationTable.mem_update {data : UpdateData} :
    row' ∈ (t.update p data).rows ↔
      ∃ row ∈ t.rows, (if p row = true then row.update data else row) = row' :=
  mem_map

theorem invitations_handle (c : Timed Call) (m : Clocked InvitationStore) :
    (handle c m).2.store.invitations = m.store.invitations ∨
    (∃ row h, c = .call (.insertInvitation row) ∧ m.link ≠ .down ∧
      (handle c m).2.store.invitations = m.store.invitations.insert row h) ∨
    ∃ c' p data, c = .call c' ∧ m.link ≠ .down ∧ c'.writes = some (p, data) ∧
      (handle c m).2.store.invitations = m.store.invitations.update p data := by
  cases c with
  | now => exact .inl rfl
  | call c =>
    rw [handle_store]
    split
    · exact .inl rfl
    · next hlink =>
        cases c with
        | insertInvitation row =>
          rw [execute]
          split
          · next h => exact .inr (.inl ⟨row, h, rfl, hlink, rfl⟩)
          · exact .inl rfl
        | updateInvitation | acceptInvitation | expireOldInvitations
        | cancelOrganizationInvitations | cancelInvitationsByInviter =>
          exact .inr (.inr ⟨_, _, _, rfl, hlink, rfl, rfl⟩)
        | _ => exact .inl rfl

theorem execute_writes {c : Call} {data : UpdateData} {s : InvitationStore}
    (h : c.writes = some (p, data)) :
    (execute c s).2.invitations = s.invitations.update p data := by
  cases c <;> cases h <;> rfl

def Invitation.fixed (row : Invitation) : Invitation :=
  { row with status := .pending, expiresAt := 0, acceptedAt := none }

theorem Invitation.fixed_update (row : Invitation) (data : UpdateData) :
    (row.update data).fixed = row.fixed := rfl

def RowsStay (t t' : InvitationTable) : Prop :=
  ∀ row ∈ t.rows, ∃ row' ∈ t'.rows, row'.fixed = row.fixed

theorem RowsStay.refl (t : InvitationTable) : RowsStay t t := fun row h => ⟨row, h, rfl⟩

theorem RowsStay.trans {t t' t'' : InvitationTable} (h : RowsStay t t') (h' : RowsStay t' t'') :
    RowsStay t t'' := by
  intro row hrow
  obtain ⟨row', hrow', hfixed⟩ := h row hrow
  obtain ⟨row'', hrow'', hfixed'⟩ := h' row' hrow'
  exact ⟨row'', hrow'', hfixed'.trans hfixed⟩

theorem rows_stay (c : Timed Call) :
    RowsStay m.store.invitations (handle c m).2.store.invitations := by
  obtain h | ⟨row, hnew, -, -, h⟩ | ⟨c', p, data, -, -, -, h⟩ := invitations_handle c m
  · rw [h]
    exact .refl _
  · intro r hr
    rw [h]
    exact ⟨r, mem_cons_of_mem _ hr, rfl⟩
  · intro r hr
    rw [h]
    refine ⟨_, InvitationTable.mem_update.mpr ⟨r, hr, rfl⟩, ?_⟩
    split
    · exact r.fixed_update data
    · rfl

def rowTerms : Terms (Clocked InvitationStore) where
  inv _ := True
  rel m m' := RowsStay m.store.invitations m'.store.invitations
  rel_refl _ := .refl _
  rel_trans := .trans

def Sets (status : InvitationStatus) : Clocked InvitationStore × Timed Call → PyStr → Prop
  | (_, .now), _ => False
  | (m, .call c), token => m.link ≠ .down ∧ ∃ w ∈ c.writes, w.2.status = some status ∧
      ∃ row ∈ m.store.invitations.rows, w.1 row = true ∧ row.invitationToken = token

abbrev HoldsMark (token : PyStr) (past : InvitationPast) : Prop :=
  Holds (Sets .accepted) (Sets .pending) token past

def HasRow (invitationId token : PyStr) (t : InvitationTable) : Prop :=
  ∃ row ∈ t.rows, row.invitationId = invitationId ∧ row.invitationToken = token

theorem HasRow.stays {t' : InvitationTable} {invitationId token : PyStr}
    (h : HasRow invitationId token t) (hstay : RowsStay t t') : HasRow invitationId token t' := by
  obtain ⟨row, hrow, hid, htoken⟩ := h
  obtain ⟨row', hrow', hfixed⟩ := hstay row hrow
  exact ⟨row', hrow', (congrArg Invitation.invitationId hfixed).trans hid,
    (congrArg Invitation.invitationToken hfixed).trans htoken⟩

/-- What a request promises of its calls: a member is added by the one who holds the mark, who
alone takes the mark back, under a condition only if nobody has been added; and no other update
marks or takes back. -/
def Promise (P : Prop) (request : Request) (past : InvitationPast) (m : Clocked InvitationStore) :
    Timed Call → Prop
  | .call (.addMember ..) => ∃ token userId, request = .accept token userId ∧ HoldsMark token past
  | .call (.updateInvitation id data) => data.status ≠ some .accepted ∧
      (data.status = some .pending → ∃ token userId, request = .accept token userId ∧
        HoldsMark token past ∧ (P → ¬Joined past) ∧ HasRow id token m.store.invitations)
  | _ => True

variable {P : Prop} {request : Request} {past : InvitationPast} {c : Timed Call} {token : PyStr}
  {c' : Call}

theorem pending_of_writes {data : UpdateData} (hc : c'.writes = some (p, data))
    (hpromise : Promise P request past m (.call c')) (hstatus : data.status = some .accepted)
    (hp : p row = true) : row.status = .pending := by
  cases c' with
  | updateInvitation id data' =>
    cases hc
    exact absurd hstatus hpromise.1
  | acceptInvitation token now =>
    cases hc
    exact (of_decide_eq_true hp).2
  | expireOldInvitations | cancelOrganizationInvitations | cancelInvitationsByInviter =>
    cases hc
    cases hstatus
  | _ => cases hc

theorem holds_of_writes {data : UpdateData} (hc : c'.writes = some (p, data))
    (hpromise : Promise P request past m (.call c')) (hstatus : data.status = some .pending)
    (hrow : row ∈ m.store.invitations.rows) (hp : p row = true) :
    ∃ userId, request = .accept row.invitationToken userId ∧
      HoldsMark row.invitationToken past ∧ (P → ¬Joined past) := by
  cases c' with
  | updateInvitation id data' =>
    cases hc
    obtain ⟨token, userId, hrequest, hholds, hjoined, row', hrow', hid, htoken⟩ :=
      hpromise.2 hstatus
    have hsame : row = row' :=
      InvitationTable.eq_of_id hrow hrow' ((of_decide_eq_true hp).trans hid.symm)
    rw [hsame, htoken]
    exact ⟨userId, hrequest, hholds, hjoined⟩
  | acceptInvitation | expireOldInvitations | cancelOrganizationInvitations
  | cancelInvitationsByInviter =>
    cases hc
    cases hstatus
  | _ => cases hc

theorem ne_accepted_of_writes {data : UpdateData} (hc : c'.writes = some (p, data))
    (horderly : Orderly m (.call c')) (hlink : m.link ≠ .down)
    (hstatus : data.status = some .cancelled ∨ data.status = some .expired)
    (hrow : row ∈ m.store.invitations.rows) (hp : p row = true) : row.status ≠ .accepted := by
  cases c' with
  | updateInvitation id data' =>
    cases hc
    exact (horderly hlink row hrow (of_decide_eq_true hp)).1 hstatus
  | acceptInvitation token now =>
    cases hc
    rcases hstatus with h | h <;> cases h
  | expireOldInvitations now =>
    cases hc
    rw [(of_decide_eq_true hp).1]
    decide
  | cancelOrganizationInvitations id | cancelInvitationsByInviter id =>
    cases hc
    rw [(of_decide_eq_true hp).2]
    decide
  | _ => cases hc

/-! ### Tenure of a mark -/

def OnlyIn (S : InvitationStatus → Prop) (m : Clocked InvitationStore) (token : PyStr) : Prop :=
  ∀ row ∈ m.store.invitations.rows, row.invitationToken = token → S row.status

theorem not_onlyIn {S : InvitationStatus → Prop} :
    ¬OnlyIn S m token ↔ ∃ row ∈ m.store.invitations.rows, row.invitationToken = token ∧
      ¬S row.status := by
  simp [OnlyIn]

theorem takes_mark (hpromise : Promise P request past m c) (h : Sets .accepted (m, c) token) :
    OnlyIn (· = .pending) m token ∧ ∃ row ∈ (handle c m).2.store.invitations.rows,
      row.invitationToken = token ∧ row.status = .accepted := by
  cases c with
  | now => exact h.elim
  | call c =>
    obtain ⟨hlink, ⟨p, data⟩, hc, hstatus, row, hrow, hp, rfl⟩ := h
    refine ⟨fun row' hrow' htoken => ?_, ?_⟩
    · rw [InvitationTable.eq_of_token hrow' hrow htoken]
      exact pending_of_writes hc hpromise hstatus hp
    · have hupdate : (handle (.call c) m).2.store.invitations =
          m.store.invitations.update p data := by
        rw [handle_store, if_neg hlink]
        exact execute_writes hc
      rw [hupdate]
      refine ⟨_, InvitationTable.mem_update.mpr ⟨row, hrow, if_pos hp⟩, rfl, ?_⟩
      change data.status.getD row.status = _
      rw [show data.status = some .accepted from hstatus]
      rfl

theorem gives_mark (hpromise : Promise P request past m c) (h : Sets .pending (m, c) token) :
    HoldsMark token past ∧ (P → ¬Joined past) := by
  cases c with
  | now => exact h.elim
  | call c =>
    obtain ⟨-, ⟨p, data⟩, hc, hstatus, row, hrow, hp, rfl⟩ := h
    obtain ⟨-, -, hholds, hjoined⟩ := holds_of_writes hc hpromise hstatus hrow hp
    exact ⟨hholds, hjoined⟩

theorem row_handle (c : Timed Call) (hrow : row ∈ m.store.invitations.rows) :
    row ∈ (handle c m).2.store.invitations.rows ∨ ∃ c' p data, c = .call c' ∧ m.link ≠ .down ∧
      c'.writes = some (p, data) ∧ p row = true ∧
        row.update data ∈ (handle c m).2.store.invitations.rows := by
  obtain h | ⟨new, hnew, -, -, h⟩ | ⟨c', p, data, hc, hlink, hwrites, h⟩ := invitations_handle c m
  · rw [h]
    exact .inl hrow
  · rw [h]
    exact .inl (mem_cons_of_mem _ hrow)
  · by_cases hp : p row = true
    · rw [h]
      exact .inr ⟨c', p, data, hc, hlink, hwrites, hp,
        InvitationTable.mem_update.mpr ⟨row, hrow, if_pos hp⟩⟩
    · rw [h]
      exact .inl (InvitationTable.mem_update.mpr ⟨row, hrow, if_neg hp⟩)

theorem not_pending_stays (h : ¬OnlyIn (· = .pending) m token)
    (hgives : ¬Sets .pending (m, c) token) :
    ¬OnlyIn (· = .pending) (handle c m).2 token := by
  obtain ⟨row, hrow, rfl, hstatus⟩ := not_onlyIn.mp h
  refine not_onlyIn.mpr ?_
  obtain hrow' | ⟨c', p, data, rfl, hlink, hwrites, hp, hrow'⟩ := row_handle c hrow
  · exact ⟨row, hrow', rfl, hstatus⟩
  · refine ⟨_, hrow', rfl, fun hpending => ?_⟩
    change data.status.getD row.status = .pending at hpending
    cases hdata : data.status with
    | none =>
      rw [hdata] at hpending
      exact hstatus hpending
    | some status =>
      rw [hdata] at hpending
      obtain rfl : status = .pending := hpending
      exact hgives ⟨hlink, ⟨p, data⟩, hwrites, hdata, row, hrow, hp, rfl⟩

theorem accepted_stays (horderly : Orderly m c) (h : ¬OnlyIn (· ≠ .accepted) m token)
    (hgives : ¬Sets .pending (m, c) token) :
    ¬OnlyIn (· ≠ .accepted) (handle c m).2 token := by
  obtain ⟨row, hrow, rfl, hstatus⟩ := not_onlyIn.mp h
  have haccepted : row.status = .accepted := not_not.mp hstatus
  refine not_onlyIn.mpr ?_
  obtain hrow' | ⟨c', p, data, rfl, hlink, hwrites, hp, hrow'⟩ := row_handle c hrow
  · exact ⟨row, hrow', rfl, hstatus⟩
  · refine ⟨_, hrow', rfl, not_not.mpr ?_⟩
    change data.status.getD row.status = .accepted
    cases hdata : data.status with
    | none => exact haccepted
    | some status =>
      cases status with
      | accepted => rfl
      | pending =>
        exact absurd ⟨hlink, ⟨p, data⟩, hwrites, hdata, row, hrow, hp, rfl⟩ hgives
      | cancelled =>
        exact absurd haccepted
          (ne_accepted_of_writes hwrites horderly hlink (.inl hdata) hrow hp)
      | expired =>
        exact absurd haccepted
          (ne_accepted_of_writes hwrites horderly hlink (.inr hdata) hrow hp)

/-! ### Other facts of one call -/

theorem dead_stays (hpromise : Promise P request past m c)
    (hheld : ∀ token, HoldsMark token past → ¬OnlyIn (· ≠ .accepted) m token) :
    StayDead m.store.invitations (handle c m).2.store.invitations := by
  intro row hrow hdead
  obtain hrow' | ⟨c', p, data, rfl, hlink, hwrites, hp, hrow'⟩ := row_handle c hrow
  · exact ⟨row, hrow', rfl, hdead⟩
  · refine ⟨_, hrow', rfl, ?_⟩
    change data.status.getD row.status = _ ∨ data.status.getD row.status = _
    cases hdata : data.status with
    | none => exact hdead
    | some status =>
      cases status with
      | cancelled => exact .inl rfl
      | expired => exact .inr rfl
      | accepted =>
        have hpending := pending_of_writes hwrites hpromise hdata hp
        rcases hdead with h | h <;> rw [hpending] at h <;> cases h
      | pending =>
        obtain ⟨-, -, hholds, -⟩ := holds_of_writes hwrites hpromise hdata hrow hp
        obtain ⟨row', hrow'', htoken, haccepted⟩ := not_onlyIn.mp (hheld _ hholds)
        rw [InvitationTable.eq_of_token hrow'' hrow htoken] at haccepted
        rcases hdead with h | h <;> exact absurd (by rw [h]; decide) haccepted

theorem InvitationTable.OnePending.update (h : t.OnePending) {data : UpdateData}
    (hdata : data.status ≠ some .pending) : (t.update p data).OnePending := by
  have horigin : ∀ row, (if p row = true then row.update data else row).status = .pending →
      row.status = .pending := by
    intro row hpending
    split at hpending
    · change data.status.getD row.status = .pending at hpending
      cases hstatus : data.status with
      | none => rwa [hstatus] at hpending
      | some status =>
        rw [hstatus] at hpending hdata
        exact absurd (congrArg some hpending) hdata
    · exact hpending
  have hkeeps : ∀ row, (if p row = true then row.update data else row).email = row.email ∧
      (if p row = true then row.update data else row).organizationId = row.organizationId := by
    intro row
    split <;> exact ⟨rfl, rfl⟩
  intro row hrow row' hrow' hpending hpending' hemail horganization
  obtain ⟨a, ha, rfl⟩ := mem_update.mp hrow
  obtain ⟨b, hb, rfl⟩ := mem_update.mp hrow'
  have hsame : a = b := by
    refine h a ha b hb (horigin a hpending) (horigin b hpending') ?_ ?_
    · exact (hkeeps a).1.symm.trans (hemail.trans (hkeeps b).1)
    · exact (hkeeps a).2.symm.trans (horganization.trans (hkeeps b).2)
  rw [hsame]

theorem InvitationTable.OnePending.reopen (h : t.OnePending) {id : PyStr} {data : UpdateData}
    (halone : ∀ row ∈ t.rows, row.invitationId = id → ∀ r ∈ t.rows, r.status = .pending →
      r.email = row.email → r.organizationId = row.organizationId → r = row) :
    (t.update (·.invitationId = id) data).OnePending := by
  intro row hrow row' hrow' hpending hpending' hemail horganization
  obtain ⟨a, ha, rfl⟩ := mem_update.mp hrow
  obtain ⟨b, hb, rfl⟩ := mem_update.mp hrow'
  by_cases hpa : a.invitationId = id <;> by_cases hpb : b.invitationId = id
  · rw [eq_of_id ha hb (hpa.trans hpb.symm)]
  · simp only [hpa, hpb]
      at hpending' hemail horganization
    exact absurd ((congrArg Invitation.invitationId
      (halone a ha hpa b hb hpending' hemail.symm horganization.symm)).trans hpa) hpb
  · simp only [hpa, hpb]
      at hpending hemail horganization
    exact absurd ((congrArg Invitation.invitationId
      (halone b hb hpb a ha hpending hemail horganization)).trans hpb) hpa
  · simp only [hpa, hpb]
      at hpending hpending' hemail horganization ⊢
    exact h a ha b hb hpending hpending' hemail horganization

theorem onePending_handle (h : m.store.invitations.OnePending) (horderly : Orderly m c) :
    (handle c m).2.store.invitations.OnePending := by
  obtain hsame | ⟨row, hnew, rfl, hlink, hinsert⟩ | ⟨c', p, data, rfl, hlink, hwrites, hupdate⟩ :=
    invitations_handle c m
  · rwa [hsame]
  · rw [hinsert]
    intro r hr r' hr' hpending hpending' hemail horganization
    rcases mem_cons.mp hr with rfl | hold
    · rcases mem_cons.mp hr' with rfl | hold'
      · rfl
      · exact absurd ⟨hemail.symm, horganization.symm⟩ (horderly hlink r' hold' hpending')
    · rcases mem_cons.mp hr' with rfl | hold'
      · exact absurd ⟨hemail, horganization⟩ (horderly hlink r hold hpending)
      · exact h r hold r' hold' hpending hpending' hemail horganization
  · rw [hupdate]
    by_cases hdata : data.status = some .pending
    · cases c' with
      | updateInvitation id data' =>
        cases hwrites
        exact h.reopen fun row hrow hid => (horderly hlink row hrow hid).2 hdata
      | acceptInvitation | expireOldInvitations | cancelOrganizationInvitations
      | cancelInvitationsByInviter =>
        cases hwrites
        cases hdata
      | _ => cases hwrites
    · exact h.update hdata

end Calls

/-! ### Programs -/

def Meek : Timed Call → Prop
  | .call (.addMember ..) => False
  | .call (.updateInvitation _ data) =>
    data.status ≠ some .accepted ∧ data.status ≠ some .pending
  | _ => True

section Meek

variable {service : InvitationService} {row : Invitation} {id : PyStr}

theorem verifyOrganizationExists_meek {organizationId userId : PyStr} :
    (verifyOrganizationExists organizationId userId).Only Meek :=
  Only.tryCatch (Only.bind (only_query (I := InvitationApi.timed) trivial)
    fun _ => trivial) fun _ => trivial

theorem verifyInviterPermissions_meek {organizationId userId : PyStr} :
    (verifyInviterPermissions service organizationId userId).Only Meek :=
  Only.tryCatch (Only.bind (only_query (I := InvitationApi.timed) trivial)
    fun _ => trivial) fun _ => trivial

theorem insertInvitation_meek {row : Timestamp → Timestamp → Invitation} :
    (insertInvitation row).Only Meek :=
  Only.tryCatch (Only.bind (only_query (I := InvitationApi.timed) trivial)
    fun _ => Only.bind (only_query (I := InvitationApi.timed) trivial)
      fun _ => Only.bind (only_query (I := InvitationApi.timed) trivial)
        fun _ => trivial) fun _ => trivial

theorem changes_meek {statement : InvitationM ℕ} (h : statement.Only Meek) :
    (changes statement).Only Meek :=
  Only.tryCatch (Only.bind h fun _ => trivial) fun _ => trivial

theorem updateInvitation_meek {data : UpdateData}
    (h : data.status ≠ some .accepted ∧ data.status ≠ some .pending) :
    (updateInvitation id data).Only Meek :=
  changes_meek (only_query (I := InvitationApi.timed)
    (c := .call (Call.updateInvitation id data)) h)

theorem createInvitation_meek {r : CreateRequest} : (createInvitation service r).Only Meek := by
  refine Only.bind verifyOrganizationExists_meek fun organizationExists => ?_
  cases organizationExists with
  | false => trivial
  | true =>
    refine Only.bind verifyInviterPermissions_meek fun permitted => ?_
    cases permitted with
    | false => trivial
    | true =>
      refine Only.bind (Only.tryCatch (only_query (I := InvitationApi.timed)
        trivial) fun _ => trivial) fun existing => ?_
      cases existing with
      | some _ => trivial
      | none =>
        refine Only.bind insertInvitation_meek fun invitation => ?_
        cases invitation <;> trivial

theorem withPermission_meek {userId : PyStr} {act : InvitationM Response} (h : act.Only Meek) :
    (withPermission service row userId act).Only Meek := by
  rw [withPermission]
  split
  · exact h
  · refine Only.bind verifyInviterPermissions_meek fun permitted => ?_
    cases permitted with
    | false => trivial
    | true => exact h

theorem cancelInvitation_meek {userId : PyStr} :
    (cancelInvitation service id userId).Only Meek := by
  refine Only.bind (Only.tryCatch (only_query (I := InvitationApi.timed) trivial)
    fun _ => trivial) fun row => ?_
  cases row with
  | none => trivial
  | some row =>
    refine withPermission_meek (Only.bind (updateInvitation_meek ⟨nofun, nofun⟩)
      fun success => ?_)
    cases success <;> trivial

theorem resendInvitation_meek {userId : PyStr} :
    (resendInvitation service id userId).Only Meek := by
  refine Only.bind (Only.tryCatch (only_query (I := InvitationApi.timed) trivial)
    fun _ => trivial) fun row => ?_
  cases row with
  | none => trivial
  | some row =>
    refine withPermission_meek ?_
    split
    · trivial
    · exact Only.bind (only_query (I := InvitationApi.timed) trivial) fun _ =>
        Only.bind (updateInvitation_meek ⟨nofun, nofun⟩) fun _ => trivial

theorem expireOldInvitations_meek : expireOldInvitations.Only Meek :=
  Only.bind (Only.tryCatch (Only.bind (only_query (I := InvitationApi.timed)
    trivial) fun _ => only_query (I := InvitationApi.timed) trivial) fun _ => trivial)
    fun _ => trivial

theorem handleOrganizationDeleted_meek : (handleOrganizationDeleted id).Only Meek := by
  rw [handleOrganizationDeleted]
  split
  · trivial
  · exact Only.bind (Only.tryCatch (only_query (I := InvitationApi.timed) trivial)
      fun _ => trivial) fun _ => trivial

theorem handleUserDeleted_meek {userId : PyStr} : (handleUserDeleted userId).Only Meek := by
  rw [handleUserDeleted]
  split
  · trivial
  · exact Only.bind (Only.tryCatch (only_query (I := InvitationApi.timed) trivial)
      fun _ => trivial) fun _ => trivial

def FoundAs (row : Invitation) (r : Except CallError (Except Refusal InvitationDetail)) : Prop :=
  ∀ detail, r = .ok (.ok detail) → detail.invitationId = row.invitationId

theorem detail_obeys : (row.detail service).Obeys Meek
    fun r => ∀ detail, r = .ok detail → detail.invitationId = row.invitationId := by
  rw [Invitation.detail]
  split
  · exact nofun
  · split
    · exact nofun
    · rintro detail ⟨⟩
      rfl

theorem checkExpiry_meek : (checkExpiry service row).Only Meek := by
  rw [checkExpiry]
  split
  · split
    · trivial
    · exact Only.bind (only_query (I := InvitationApi.timed) trivial) fun _ => trivial
  · trivial

theorem examineInvitation_obeys :
    (examineInvitation service (some row)).Obeys Meek (FoundAs row) := by
  rw [examineInvitation]
  split
  · exact nofun
  · refine Obeys.bind checkExpiry_meek.obeys (fun expired _ => ?_) fun _ _ _ => nofun
    split
    · exact Obeys.bind (updateInvitation_meek ⟨by decide, by decide⟩).obeys (fun _ _ _ => nofun)
        fun _ _ _ => nofun
    · refine Obeys.bind detail_obeys (fun detail hid => ?_) fun _ _ _ => nofun
      rintro detail' ⟨⟩
      exact hid detail rfl

theorem selectByToken_meek {token : PyStr} : (selectByToken token).Only Meek :=
  Only.tryCatch (only_query (I := InvitationApi.timed) trivial) fun _ => trivial

theorem getInvitationByToken_meek {token : PyStr} :
    (getInvitationByToken service token).Only Meek := by
  refine Only.tryCatch (Only.bind selectByToken_meek fun row => ?_) fun _ => trivial
  cases row with
  | none => trivial
  | some row => exact examineInvitation_obeys.only

theorem getInvitationByToken_of_datetimes (hfield : ∀ t, service.field t = .datetime t)
    {token : PyStr} : (getInvitationByToken service token).Obeys Meek
      fun r => ∀ detail, r ≠ .ok (.ok detail) := by
  refine Obeys.tryCatch (Q := fun r => ∀ detail, r ≠ .ok (.ok detail)) ?_ (fun _ h => h)
    fun _ _ => nofun
  refine Obeys.bind selectByToken_meek.obeys (fun row _ => ?_) fun _ _ => nofun
  cases row with
  | none => exact nofun
  | some row =>
    have hraise : checkExpiry service row = .raise .typeError := by
      rw [checkExpiry, hfield]
      rfl
    rw [examineInvitation, hraise]
    split <;> exact nofun

theorem acceptInvitation_of_datetimes (hfield : ∀ t, service.field t = .datetime t)
    {token userId : PyStr} : (acceptInvitation service token userId).Only Meek := by
  refine Obeys.only (Q := fun _ => True) ?_
  refine Obeys.bind (getInvitationByToken_of_datetimes hfield) (fun found hfound => ?_)
    fun _ _ => trivial
  cases found with
  | error refusal => trivial
  | ok detail => exact absurd rfl (hfound detail)

end Meek

section Programs

variable {service : InvitationService} {P : Prop} {request : Request} {past : InvitationPast}
  {m : Clocked InvitationStore} {token : PyStr} {c : Timed Call} {userId : PyStr}

/-- A program keeps its promises, with or without the condition on its calls. -/
abbrev InvitationSound {α : Type} (P : Prop) (request : Request)
    (Q : Except CallError α → InvitationPast → Clocked InvitationStore → Prop)
    (p : InvitationM α) (past : InvitationPast) (m : Clocked InvitationStore) : Prop :=
  p.Sound rowTerms handle (fun _ m c => P → Orderly m c) (Promise P request) Q past m

theorem promise_of_meek (hc : Meek c) : Promise P request past m c := by
  cases c with
  | now => trivial
  | call c =>
    cases c with
    | addMember => exact hc.elim
    | updateInvitation id data => exact ⟨hc.1, fun h => absurd h hc.2⟩
    | _ => trivial

theorem not_added_of_meek (hc : Meek c) : ¬Added (m, c) := by
  cases c with
  | now => exact id
  | call c =>
    cases c with
    | addMember => exact hc.elim
    | _ => exact id

theorem not_joined_cons (h : ¬Joined past) (hc : ¬Added (m, c)) : ¬Joined ((m, c) :: past) := by
  rintro ⟨e, he, hadded⟩
  rcases mem_cons.mp he with rfl | he
  · exact hc hadded
  · exact h ⟨e, he, hadded⟩

theorem meek_sound {α : Type}
    {p : InvitationM α} (hp : p.Only Meek) :
    InvitationSound P request (fun _ _ _ => True) p past m :=
  hp.sound (K := fun _ => True) trivial fun _ hc _ _ _ => ⟨promise_of_meek hc, trivial⟩

def rowAt (token : PyStr) (m : Clocked InvitationStore) : Option Invitation :=
  if m.link = .up then m.store.invitations.find? (·.invitationToken = token) else none

theorem hasRow_of_rowAt {row : Invitation} (h : row ∈ rowAt token m) :
    HasRow row.invitationId token m.store.invitations := by
  rw [rowAt] at h
  split at h
  · have htoken := find?_some (p := fun r : Invitation =>
      decide (r.invitationToken = token)) h
    exact ⟨row, mem_of_find?_eq_some h, rfl, of_decide_eq_true htoken⟩
  · cases h

theorem sound_selectByToken {α : Type}
    {Q : Except CallError α → InvitationPast → Clocked InvitationStore → Prop}
    {f : Option Invitation → InvitationM α}
    (hread : ∀ m', rowTerms.rel m m' → InvitationSound P request Q (f (rowAt token m'))
      ((m', .call (.selectByToken token)) :: past) m') :
    InvitationSound P request Q (selectByToken token >>= f) past m := by
  intro m' hm' _
  refine ⟨trivial, fun _ => ?_⟩
  have hf := hread m' hm'
  obtain ⟨store, clock, link⟩ := m'
  cases link <;> exact hf

theorem getInvitationByToken_sound
    (hjoined : ¬Joined past) :
    InvitationSound P request (fun r past m => ¬Joined past ∧ ∀ detail, r = .ok (.ok detail) →
      HasRow detail.invitationId token m.store.invitations)
      (getInvitationByToken service token) past m := by
  refine Sound.tryCatch (Q := fun r past m => ¬Joined past ∧ ∀ detail, r = .ok (.ok detail) →
    HasRow detail.invitationId token m.store.invitations) ?_ (fun _ _ _ h => h) ?_
  · refine sound_selectByToken fun m' hm' => ?_
    have hnow : ¬Joined ((m', .call (.selectByToken token)) :: past) :=
      not_joined_cons hjoined (not_added_of_meek trivial)
    cases hrow : rowAt token m' with
    | none => exact fun _ _ _ => ⟨hnow, nofun⟩
    | some row =>
      have hquiet : InvitationSound P request
          (fun _ past m => ¬Joined past ∧ HasRow row.invitationId token m.store.invitations)
          (examineInvitation service (some row)) ((m', .call (.selectByToken token)) :: past)
          m' := by
        refine Only.sound_state
          examineInvitation_obeys.only ⟨hnow, hasRow_of_rowAt hrow⟩
          (fun _ _ _ hrel h => ⟨h.1, h.2.stays hrel⟩) fun c hc past m _ h => ?_
        exact ⟨promise_of_meek hc, not_joined_cons h.1 (not_added_of_meek hc),
          h.2.stays (rows_stay c)⟩
      refine (hquiet.and (examineInvitation_obeys.sound fun c hc _ _ => promise_of_meek hc)).mono
        fun r past m h => ⟨h.1.1, fun detail hr => ?_⟩
      rw [h.2 detail hr]
      exact h.1.2
  · intro e past m h m' hm' _
    exact ⟨h.1, nofun⟩

theorem markAccepted_sound {id : PyStr}
    (hjoined : ¬Joined past) (hrow : HasRow id token m.store.invitations) :
    InvitationSound P request (fun r past m => ¬Joined past ∧
      HasRow id token m.store.invitations ∧ (r = .ok true → HoldsMark token past))
      (markAccepted token) past m := by
  intro m₁ hm₁ _
  refine ⟨trivial, fun _ m₂ hm₂ _ => ⟨trivial, fun _ => ?_⟩⟩
  have hnow : ¬Joined ((m₂, .call (.acceptInvitation token m₁.clock)) :: (m₁, .now) :: past) :=
    not_joined_cons (not_joined_cons hjoined (not_added_of_meek trivial))
      (not_added_of_meek trivial)
  have hstays := ((hrow.stays hm₁).stays hm₂).stays
    (rows_stay (m := m₂) (.call (.acceptInvitation token m₁.clock)))
  obtain ⟨store, clock, link⟩ := m₂
  cases link with
  | up =>
    intro m₃ hm₃ _
    refine ⟨hnow, hstays.stays hm₃, fun h => .inl ?_⟩
    obtain ⟨row, hmem, hp⟩ := countP_pos_iff.mp (of_decide_eq_true (Except.ok.inj h))
    exact ⟨nofun, _, rfl, rfl, row, hmem, hp, (of_decide_eq_true hp).1⟩
  | down => exact fun m₃ hm₃ _ => ⟨hnow, hstays.stays hm₃, nofun⟩
  | lost => exact fun m₃ hm₃ _ => ⟨hnow, hstays.stays hm₃, nofun⟩

theorem addUserToOrganization_sound {id organizationId inviterUserId : PyStr}
    {role : OrganizationRole} (hrequest : request = .accept token userId) (hjoined : ¬Joined past)
    (hrow : HasRow id token m.store.invitations) (hholds : HoldsMark token past) :
    InvitationSound P request (fun r past m => HasRow id token m.store.invitations ∧
      HoldsMark token past ∧ (r = .ok false → P → ¬Joined past))
      (addUserToOrganization organizationId userId role inviterUserId) past m := by
  intro m₁ hm₁ _
  refine ⟨⟨token, userId, hrequest, hholds⟩, fun horderly => ?_⟩
  have hheld : HoldsMark token
      ((m₁, .call (.addMember organizationId userId role inviterUserId)) :: past) :=
    hholds.cons (by rintro ⟨-, _, ⟨⟩, -⟩)
  have hstays := (hrow.stays hm₁).stays
    (rows_stay (m := m₁) (.call (.addMember organizationId userId role inviterUserId)))
  obtain ⟨store, clock, link⟩ := m₁
  cases link with
  | up =>
    intro m₂ hm₂ _
    refine ⟨hstays.stays hm₂, hheld, fun h _ => not_joined_cons hjoined fun hadded => ?_⟩
    exact of_decide_eq_false (Except.ok.inj h) hadded.2
  | down =>
    intro m₂ hm₂ _
    exact ⟨hstays.stays hm₂, hheld, fun _ _ => not_joined_cons hjoined fun h => h.1 rfl⟩
  | lost =>
    intro m₂ hm₂ _
    exact ⟨hstays.stays hm₂, hheld, fun _ hP => not_joined_cons hjoined fun h =>
      horderly hP ⟨rfl, h.2⟩⟩

theorem joinOrganization_sound {detail : InvitationDetail}
    (hrequest : request = .accept token userId) (hjoined : ¬Joined past)
    (hrow : HasRow detail.invitationId token m.store.invitations) (hholds : HoldsMark token past) :
    InvitationSound P request (fun _ _ _ => True) (joinOrganization token userId detail) past m := by
  refine sound_selectByToken fun m' hm' => ?_
  have hheld : HoldsMark token ((m', .call (.selectByToken token)) :: past) :=
    hholds.cons (by rintro ⟨-, _, ⟨⟩, -⟩)
  refine (addUserToOrganization_sound hrequest
    (not_joined_cons hjoined (not_added_of_meek (c := .call (.selectByToken token)) trivial))
    (hrow.stays hm') hheld).bind ?_
    fun _ _ _ _ => trivial
  rintro added past m ⟨hrow, hholds, hfree⟩
  cases added with
  | true => exact fun _ _ _ => trivial
  | false =>
    refine Sound.bind (Q := fun _ _ _ => True) (Sound.tryCatch (Q := fun _ _ _ => True)
      (Sound.bind (Q := fun _ _ _ => True) (sound_query (I := InvitationApi.timed)
        (c := .call (Call.updateInvitation _ _)) fun m' hm' _ => ⟨⟨nofun, fun _ =>
          ⟨token, userId, hrequest, hholds, hfree rfl, hrow.stays hm'⟩⟩,
          fun _ _ _ _ => trivial⟩)
        (fun _ _ _ _ _ _ _ => trivial) fun _ _ _ _ => trivial)
      (fun _ _ _ _ => trivial) fun _ _ _ _ _ _ _ => trivial)
      (fun _ _ _ _ _ _ _ => trivial) fun _ _ _ _ => trivial

theorem acceptInvitation_sound (hrequest : request = .accept token userId) :
    InvitationSound P request (fun _ _ _ => True) (acceptInvitation service token userId) [] m := by
  have hnobody : ¬Joined [] := fun ⟨_, he, _⟩ => absurd he not_mem_nil
  refine (getInvitationByToken_sound hnobody).bind ?_ fun _ _ _ _ => trivial
  rintro found past m ⟨hjoined, hfound⟩
  cases found with
  | error refusal => exact fun _ _ _ => trivial
  | ok detail =>
    refine (markAccepted_sound hjoined (hfound detail rfl)).bind ?_ fun _ _ _ _ => trivial
    rintro marked past m ⟨hjoined, hrow, hholds⟩
    cases marked with
    | false => exact fun _ _ _ => trivial
    | true => exact joinOrganization_sound hrequest hjoined hrow (hholds rfl)

theorem serve_sound :
    InvitationSound P request (fun _ _ _ => True) (request.serve service) [] m := by
  refine Sound.tryCatch (Q := fun _ _ _ => True) ?_ (fun _ _ _ h => h)
    fun _ _ _ _ _ _ _ => trivial
  cases request with
  | create r => exact meek_sound createInvitation_meek
  | get token =>
    refine meek_sound (Only.bind getInvitationByToken_meek fun found => ?_)
    cases found <;> trivial
  | accept token userId => exact acceptInvitation_sound rfl
  | cancel id userId => exact meek_sound cancelInvitation_meek
  | resend id userId => exact meek_sound resendInvitation_meek
  | expireOld => exact meek_sound expireOldInvitations_meek
  | organizationDeleted id => exact meek_sound handleOrganizationDeleted_meek
  | userDeleted userId => exact meek_sound handleUserDeleted_meek

/-! ### Requests to add a member -/

theorem Meek.not_isAdd (hc : Meek c) : ¬IsAdd c := by
  intro hadd
  cases c with
  | now => exact hadd
  | call c =>
    cases c with
    | addMember => exact hc
    | _ => exact hadd

theorem atMost_of_meek {α : Type} {p : InvitationM α} (hp : p.Only Meek) : p.AtMost IsAdd 0 :=
  atMost_zero (hp.mono fun _ => Meek.not_isAdd)

theorem addUserToOrganization_atMost {organizationId inviterUserId : PyStr}
    {role : OrganizationRole} :
    (addUserToOrganization organizationId userId role inviterUserId).AtMost IsAdd 1 := by
  refine ⟨Nat.one_pos, fun r => ?_⟩
  cases r <;> trivial

theorem acceptInvitation_atMost : (acceptInvitation service token userId).AtMost IsAdd 1 := by
  refine AtMost.bind (n := 0) (m := 1) (atMost_of_meek getInvitationByToken_meek)
    fun found => ?_
  cases found with
  | error refusal => trivial
  | ok detail =>
    have hmark : (markAccepted token).Only Meek :=
      changes_meek (Only.bind (only_query (I := InvitationApi.timed) trivial)
        fun _ => only_query (I := InvitationApi.timed) trivial)
    refine AtMost.bind (n := 0) (m := 1) (atMost_of_meek hmark) fun marked => ?_
    cases marked with
    | false => trivial
    | true =>
      refine AtMost.bind (n := 0) (m := 1) (atMost_of_meek selectByToken_meek)
        fun row => ?_
      refine AtMost.bind (n := 1) (m := 0) addUserToOrganization_atMost fun added => ?_
      cases added with
      | true => trivial
      | false =>
        refine atMost_zero (Only.bind (Only.tryCatch (Only.bind
          (only_query (I := InvitationApi.timed) id) fun _ => trivial) fun _ => trivial)
          fun _ => trivial)

theorem serve_atMost : (request.serve service).AtMost IsAdd 1 := by
  refine AtMost.tryCatch (n := 1) (m := 0) ?_ fun _ => trivial
  have hmeek : ∀ {p : InvitationM Response}, p.Only Meek → p.AtMost IsAdd 1 := fun hp =>
    (atMost_of_meek hp).mono Nat.one_pos.le
  cases request with
  | create r => exact hmeek createInvitation_meek
  | get token =>
    refine hmeek (Only.bind getInvitationByToken_meek fun found => ?_)
    cases found <;> trivial
  | accept token userId => exact acceptInvitation_atMost
  | cancel id userId => exact hmeek cancelInvitation_meek
  | resend id userId => exact hmeek resendInvitation_meek
  | expireOld => exact hmeek expireOldInvitations_meek
  | organizationDeleted id => exact hmeek handleOrganizationDeleted_meek
  | userDeleted userId => exact hmeek handleUserDeleted_meek

end Programs

/-! ### Runs -/

section Runs

variable {service : InvitationService} {ι : Type*} [DecidableEq ι] {requests : ι → Request}
  {P : Prop} {m : Clocked InvitationStore} {pool pool' : InvitationPool ι} {token : PyStr}

theorem rows_of_shifts (m m' : Clocked InvitationStore) (_ : rowTerms.inv m) (h : Shifts m m') :
    rowTerms.inv m' ∧ rowTerms.rel m m' := by
  refine ⟨trivial, ?_⟩
  change RowsStay m.store.invitations m'.store.invitations
  rw [h.1]
  exact .refl _

theorem onlyIn_of_shifts {S : InvitationStatus → Prop} {m m' : Clocked InvitationStore}
    (h : Shifts m m') : OnlyIn S m' token ↔ OnlyIn S m token := by
  rw [OnlyIn, OnlyIn, h.1]

abbrev AllKeep (P : Prop) (requests : ι → Request) (pool : InvitationPool ι) : Prop :=
  Pool.AllSound rowTerms handle (fun _ _ m c => P → Orderly m c)
    (fun i => Promise P (requests i)) (fun _ _ _ _ => True) pool

abbrev WatchedRun (P : Prop) : InvitationPool ι → InvitationPool ι → Prop :=
  InvitationRun fun m c => P → Orderly m c

omit [DecidableEq ι] in
theorem keep_start : AllKeep P requests (InvitationPool.start service requests m) :=
  ⟨trivial, fun _ => serve_sound⟩

theorem AllKeep.run (h : AllKeep P requests pool) (hrun : WatchedRun P pool pool') :
    AllKeep P requests pool' :=
  hrun.sound h (fun _ _ _ _ h => h) (fun _ _ _ c _ _ _ => ⟨trivial, rows_stay c⟩) rows_of_shifts

theorem tenured_pending (hpool : WatchedRun P (InvitationPool.start service requests m) pool) :
    Tenured (Sets .accepted) (Sets .pending) (OnlyIn (· = .pending)) pool.state pool.past :=
  hpool.tenure (keep_start : AllKeep P requests _) (fun _ _ _ _ h => h)
    (fun _ _ _ c _ _ _ => ⟨trivial, rows_stay c⟩) rows_of_shifts
    ⟨fun _ _ _ h => h.elim, fun _ _ h => h.elim⟩ (fun _ _ _ hs => (onlyIn_of_shifts hs).mp)
    (fun _ _ _ _ _ hG htakes => by
      obtain ⟨hpending, row, hrow, htoken, haccepted⟩ := takes_mark hG htakes
      exact ⟨hpending, not_onlyIn.mpr ⟨row, hrow, htoken, by rw [haccepted]; decide⟩⟩)
    (fun _ _ _ _ _ hG hgives => (gives_mark hG hgives).1)
    fun _ _ _ _ _ _ _ h hgives => not_pending_stays h hgives

theorem tenured_accepted (hP : P)
    (hpool : WatchedRun P (InvitationPool.start service requests m) pool) :
    Tenured (Sets .accepted) (Sets .pending) (OnlyIn (· ≠ .accepted)) pool.state pool.past :=
  hpool.tenure (keep_start : AllKeep P requests _) (fun _ _ _ _ h => h)
    (fun _ _ _ c _ _ _ => ⟨trivial, rows_stay c⟩) rows_of_shifts
    ⟨fun _ _ _ h => h.elim, fun _ _ h => h.elim⟩ (fun _ _ _ hs => (onlyIn_of_shifts hs).mp)
    (fun _ _ _ _ _ hG htakes => by
      obtain ⟨hpending, row, hrow, htoken, haccepted⟩ := takes_mark hG htakes
      refine ⟨fun row' hrow' htoken' => ?_, not_onlyIn.mpr ⟨row, hrow, htoken, fun h => h haccepted⟩⟩
      rw [hpending row' hrow' htoken']
      decide)
    (fun _ _ _ _ _ hG hgives => (gives_mark hG hgives).1)
    fun _ _ _ _ _ horderly _ h hgives => accepted_stays (horderly hP) h hgives

theorem holds_of_joined (hP : P)
    (hpool : WatchedRun P (InvitationPool.start service requests m) pool) :
    ∀ i, Accepts requests i token → Joined (pool.past i) → HoldsMark token (pool.past i) := by
  refine hpool.invariant (keep_start : AllKeep P requests _) (fun _ _ _ _ h => h)
    (fun _ _ _ c _ _ _ => ⟨trivial, rows_stay c⟩) rows_of_shifts
    (fun _ past => ∀ i, Accepts requests i token → Joined (past i) → HoldsMark token (past i))
    (fun _ _ ⟨_, he, _⟩ => absurd he not_mem_nil) (fun _ _ _ _ h => h) ?_
  intro i past s c _ _ hG hJ j haccepts hjoined
  rcases eq_or_ne j i with rfl | hne
  · rw [Function.update_self] at hjoined ⊢
    obtain ⟨e, he, hadded⟩ := hjoined
    rcases mem_cons.mp he with rfl | he
    · -- Whoever adds a member now holds the mark, which the call leaves.
      cases c with
      | now => exact hadded.elim
      | call c =>
        cases c with
        | addMember =>
          obtain ⟨token', userId, hrequest, hholds⟩ := hG
          obtain ⟨userId', hrequest'⟩ := haccepts
          cases hrequest.symm.trans hrequest'
          exact hholds.cons (by rintro ⟨-, _, ⟨⟩, -⟩)
        | _ => exact hadded.elim
    · refine (hJ j haccepts ⟨e, he, hadded⟩).cons fun hgives => ?_
      exact (gives_mark hG hgives).2 hP ⟨e, he, hadded⟩
  · rw [Function.update_of_ne hne] at hjoined ⊢
    exact hJ j haccepts hjoined

omit [DecidableEq ι] in
theorem AllKeep.holds_of_adding (h : AllKeep P requests pool) {i : ι}
    (haccepts : Accepts requests i token) (hadd : ∃ c ∈ pool.next? i, IsAdd c) :
    HoldsMark token (pool.past i) := by
  obtain ⟨c, hc, hadd⟩ := hadd
  have hG := h.of_mem_next? hc
  cases c with
  | now => exact hadd.elim
  | call c =>
    cases c with
    | addMember =>
      obtain ⟨token', userId, hrequest, hholds⟩ := hG
      obtain ⟨userId', hrequest'⟩ := haccepts
      cases hrequest.symm.trans hrequest'
      exact hholds
    | _ => exact hadd.elim

theorem oneAtATime_of_run (hpool : WatchedRun P (InvitationPool.start service requests m) pool) :
    OneAtATime requests pool := by
  intro token i j hi hj haddi haddj
  have hkeep := AllKeep.run (keep_start : AllKeep P requests _) hpool
  exact (tenured_pending hpool).1 token i j (hkeep.holds_of_adding hi haddi)
    (hkeep.holds_of_adding hj haddj)

theorem addedOnce_of_run (hP : P)
    (hpool : WatchedRun P (InvitationPool.start service requests m) pool) :
    AddedOnce requests pool := by
  refine ⟨fun token i j hi hj hjoini hjoinj => ?_, fun i => ?_⟩
  · exact (tenured_pending hpool).1 token i j (holds_of_joined hP hpool i hi hjoini)
      (holds_of_joined hP hpool j hj hjoinj)
  · exact hpool.countP_le (fun i => serve_atMost) i

theorem staysAccepted_of_run (hP : P)
    (hpool : WatchedRun P (InvitationPool.start service requests m) pool) :
    StaysAccepted requests pool := by
  intro token i hi hjoined
  obtain ⟨row, hrow, htoken, haccepted⟩ := not_onlyIn.mp
    ((tenured_accepted hP hpool).2 token i (holds_of_joined hP hpool i hi hjoined))
  exact ⟨row, hrow, htoken, not_not.mp haccepted⟩

theorem onePending_of_run (hP : P) (hstart : m.store.invitations.OnePending)
    (hpool : WatchedRun P (InvitationPool.start service requests m) pool) :
    pool.state.store.invitations.OnePending :=
  hpool.invariant (keep_start : AllKeep P requests _) (fun _ _ _ _ h => h)
    (fun _ _ _ c _ _ _ => ⟨trivial, rows_stay c⟩) rows_of_shifts
    (fun s _ => s.store.invitations.OnePending) hstart (fun s s' _ hs h => by rwa [hs.1])
    fun _ _ _ _ _ horderly _ h => onePending_handle h (horderly hP)

theorem stayDead_of_run (hP : P)
    (hpool : WatchedRun P (InvitationPool.start service requests m) pool)
    (hrun : WatchedRun P pool pool') :
    StayDead pool.state.store.invitations pool'.state.store.invitations := by
  induction hrun with
  | start => exact fun row hrow hdead => ⟨row, hrow, rfl, hdead⟩
  | env _ hs ih => rwa [← hs.1] at ih
  | @step pool' i hreach hA ih =>
    rw [Pool.advance]
    split
    · exact ih
    · exact ih
    · next c k hck =>
        have hnow := hpool.trans hreach
        have hkeep := AllKeep.run (keep_start : AllKeep P requests _) hnow
        have hstep := dead_stays (hkeep.of_call hck)
          fun token hholds => (tenured_accepted hP hnow).2 token i hholds
        intro row hrow hdead
        obtain ⟨row', hrow', hid', hdead'⟩ := ih row hrow hdead
        obtain ⟨row'', hrow'', hid'', hdead''⟩ := hstep row' hrow' hdead'
        exact ⟨row'', hrow'', hid''.trans hid', hdead''⟩

end Runs

/-- **Invitations live as they should**: members are added one at a time always; and where the
writes are orderly, once for an invitation, which stays accepted, while what is cancelled or
expired stays so, and an email has one pending invitation. -/
theorem invitations_kept (service : InvitationService) {ι : Type*} [DecidableEq ι]
    (requests : ι → Request) (m : Clocked InvitationStore)
    (hstart : m.store.invitations.OnePending) :
    (∀ pool, InvitationRun (fun _ _ => True) (InvitationPool.start service requests m) pool →
      OneAtATime requests pool) ∧
    ∀ pool, InvitationRun Orderly (InvitationPool.start service requests m) pool →
      StaysAccepted requests pool ∧ AddedOnce requests pool ∧
      pool.state.store.invitations.OnePending ∧
      ∀ pool', InvitationRun Orderly pool pool' →
        StayDead pool.state.store.invitations pool'.state.store.invitations := by
  refine ⟨fun pool hpool => ?_, fun pool hpool => ?_⟩
  · exact oneAtATime_of_run (P := False) (hpool.mono fun _ _ _ _ _ => False.elim)
  · have hwatched : ∀ {pool pool' : InvitationPool ι}, InvitationRun Orderly pool pool' →
        WatchedRun True pool pool' := fun hrun => hrun.mono fun _ _ _ _ h _ => h
    have hrun := hwatched hpool
    exact ⟨staysAccepted_of_run trivial hrun, addedOnce_of_run trivial hrun,
      onePending_of_run trivial hstart hrun, fun _ h => stayDead_of_run trivial hrun (hwatched h)⟩

/-! ### Two invitations -/

/-- A service whose times are kept as they are by `dict()`. -/
def datetimes : InvitationService where
  field := .datetime
  fromIsoFormat _ := none
  lower s := s

/-- A service whose times are texts after `dict()`, all of one instant. -/
def texts : InvitationService where
  field _ := .text ['t']
  fromIsoFormat _ := some 5
  lower s := s

/-- An organization whose owner is `u`, and which adds whom it is asked to add. -/
def noInvitations : Clocked InvitationStore where
  store :=
    { invitations := .empty
      organizationStatus := 200
      membersStatus := 200
      members := [⟨['u'], "owner".toList⟩]
      addStatus := 200 }
  clock := 0
  link := .up

def invite (id : PyStr) : Request :=
  .create { organizationId := ['o'], inviterUserId := ['u'], email := ['e'], role := .member
            invitationId := id, invitationToken := id }

def invitedTwice : Fin 2 → Request
  | 0 => invite ['i']
  | 1 => invite ['j']

def bothLook : InvitationPool (Fin 2) :=
  (InvitationPool.start datetimes invitedTwice noInvitations).schedule handle
    [0, 0, 0, 1, 1, 1, 0, 0, 0, 1, 1, 1]

/-- Two invitations are pending. -/
theorem not_invitations_kept :
    InvitationRun (fun _ _ => True) (InvitationPool.start datetimes invitedTwice noInvitations)
      bothLook ∧ ¬bothLook.state.store.invitations.OnePending := by
  refine ⟨Pool.Reach.start.schedule (Pool.permitted_anyCall _ _ _), fun h => ?_⟩
  have htwo : ∃ row ∈ bothLook.state.store.invitations.rows,
      ∃ row' ∈ bothLook.state.store.invitations.rows, row.status = .pending ∧
        row'.status = .pending ∧ row.email = row'.email ∧
          row.organizationId = row'.organizationId ∧ row ≠ row' := by decide +kernel
  obtain ⟨row, hrow, row', hrow', hpending, hpending', hemail, horganization, hne⟩ := htwo
  exact hne (h row hrow row' hrow' hpending hpending' hemail horganization)

def inviteAndAccept : Fin 3 → Request
  | 0 => invite ['i']
  | 1 => .accept ['i'] ['v']
  | 2 => .accept ['i'] ['w']

def oneJoins : InvitationPool (Fin 3) :=
  (InvitationPool.start texts inviteAndAccept noInvitations).schedule handle
    [0, 0, 0, 0, 0, 0, 1, 2, 1, 2, 1, 1, 2, 2, 1, 1]

theorem invitations_kept_oneJoins : StaysAccepted inviteAndAccept oneJoins ∧
    AddedOnce inviteAndAccept oneJoins ∧ oneJoins.state.store.invitations.OnePending := by
  have hnone : noInvitations.store.invitations.OnePending := fun _ h => absurd h not_mem_nil
  obtain ⟨hstays, honce, hpending, -⟩ :=
    (invitations_kept texts inviteAndAccept noInvitations hnone).2 oneJoins
      (Pool.Reach.start.schedule (by decide +kernel))
  exact ⟨hstays, honce, hpending⟩

end IsaUser.Invitations
