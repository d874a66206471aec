import IsaUser.Storage.Model

/-!
# Quotas

A file is recorded, and then its user's quota is charged; a file is marked as deleted, and then
the quota is credited. In between the two differ by what the calls in progress owe.
-/

open IsaUser.Prog Option Function

namespace IsaUser.Storage

open StorageStore

/-! ### The law -/

def StoredFile.counted (userId : PyStr) (file : StoredFile) : ℤ × ℤ :=
  if file.userId = userId ∧ file.status ≠ .deleted then (file.fileSize, 1) else 0

def StorageStore.stored (s : StorageStore) (userId : PyStr) : ℤ × ℤ :=
  s.files.sumBy (StoredFile.counted userId)

def StorageStore.used (s : StorageStore) (userId : PyStr) : ℤ × ℤ :=
  (s.quotas userId).elim 0 fun quota => (quota.usedBytes, quota.fileCount)

def StorageStore.balance (s : StorageStore) (userId : PyStr) : ℤ × ℤ :=
  s.used userId - s.stored userId

def StorageStore.Accounted (s : StorageStore) : Prop := ∀ userId, s.used userId = s.stored userId

def StorageStore.WithinLimits (s : StorageStore) : Prop :=
  ∀ userId, ∀ quota ∈ s.quotas userId, quota.usedBytes ≤ quota.totalQuotaBytes ∧
    ∀ n ∈ quota.maxFileCount, quota.fileCount ≤ n

section Law

variable {ι : Type*} (pool : StoragePool ι)

def Quiescent : Prop := ∀ i, pool.next? i = none

/-- The quotas count what is stored when no call is in progress, and always keep their limits. -/
structure QuotasKept : Prop where
  accounted : Quiescent pool → pool.state.store.Accounted
  limits : pool.state.store.WithinLimits

/-! ### The condition -/

def quotaBy (userId : PyStr) :
    Clocked StorageStore × Timed Call → Option (Option StorageQuota)
  | (m, .call (.selectQuota id)) => if id = userId then some (quotaAt userId m) else none
  | _ => none

def checked (userId : PyStr) (past : StoragePast) : Option StorageQuota :=
  ((past.filterMap (quotaBy userId)).getLast?).join

/-- A quota has room for an upload: no more is used than the check has found, or what the upload
brings fits if it has found no record; and there is room for one more file. -/
def Room (userId : PyStr) (bytes : ℤ) (past : StoragePast) (m : Clocked StorageStore) : Prop :=
  ∀ quota ∈ m.store.quotas userId, (∀ n ∈ quota.maxFileCount, quota.fileCount < n) ∧
    (∀ found ∈ checked userId past, quota.usedBytes ≤ found.usedBytes) ∧
      (checked userId past = none → quota.usedBytes + bytes ≤ quota.totalQuotaBytes)

instance (userId : PyStr) (bytes : ℤ) (past : StoragePast) (m : Clocked StorageStore) :
    Decidable (Room userId bytes past m) :=
  inferInstanceAs (Decidable (∀ quota ∈ m.store.quotas userId, _))

/-- The answer to a write of a file is not lost; a file is not deleted twice; a quota that is
created is not there, and its creation is answered; and a charge or credit is executed, a charge
where there is room for it. -/
def Charged (past : StoragePast) (m : Clocked StorageStore) : Timed Call → Prop
  | .call (.insertFile _ _) => m.link ≠ .lost
  | .call (.deleteFile fileId userId) => m.link ≠ .lost ∧ (m.link = .up →
      ∀ file ∈ m.store.files.get? fileId, file.userId = userId → file.status ≠ .deleted)
  | .call (.insertQuota userId _) => m.link = .up ∧ m.store.quotas userId = none
  | .call (.updateUsage userId bytes count) =>
    m.link ≠ .down ∧ (0 < count → Room userId bytes past m)
  | _ => True

instance (past : StoragePast) (m : Clocked StorageStore) : DecidablePred (Charged past m)
  | .call (.insertFile _ _) => inferInstanceAs (Decidable (m.link ≠ .lost))
  | .call (.deleteFile fileId userId) => inferInstanceAs (Decidable (m.link ≠ .lost ∧
      (m.link = .up → ∀ file ∈ m.store.files.get? fileId, file.userId = userId →
        file.status ≠ .deleted)))
  | .call (.insertQuota userId _) =>
    inferInstanceAs (Decidable (m.link = .up ∧ m.store.quotas userId = none))
  | .call (.updateUsage userId bytes count) =>
    inferInstanceAs (Decidable (m.link ≠ .down ∧ (0 < count → Room userId bytes past m)))
  | .now | .call .ensureBucket | .call (.uploadObject _) | .call (.getPresignedUrl _)
  | .call (.deleteObject _) | .call (.selectFile ..) | .call (.selectQuota _)
  | .call (.insertShare ..) | .call (.selectShare _) | .call (.incrementShareDownload _) =>
    .isTrue trivial

end Law

/-! ### What a call changes -/

section Calls

variable {past : StoragePast} {m m' : Clocked StorageStore} {userId fileId : PyStr}
  {bytes count : ℤ} {c : Timed Call}

def change (userId : PyStr) (e : Clocked StorageStore × Timed Call) : ℤ × ℤ :=
  (handle e.2 e.1).2.store.balance userId - e.1.store.balance userId

def owed (userId : PyStr) (amount : ℤ × ℤ) (user : PyStr) : ℤ × ℤ :=
  if user = userId then amount else 0

def Quiet : Timed Call → Prop
  | .call (.insertFile ..) => False
  | .call (.deleteFile ..) => False
  | .call (.insertQuota ..) => False
  | .call (.updateUsage ..) => False
  | _ => True

theorem quiet_handle (hc : Quiet c) : (handle c m).2.store.files = m.store.files ∧
    (handle c m).2.store.quotas = m.store.quotas := by
  cases c with
  | now => exact ⟨rfl, rfl⟩
  | call c =>
    rw [handle_store]
    split
    · exact ⟨rfl, rfl⟩
    · cases c with
      | insertFile fileId file => exact hc.elim
      | deleteFile fileId userId => exact hc.elim
      | insertQuota userId quota => exact hc.elim
      | updateUsage userId bytes count => exact hc.elim
      | insertShare shareId share =>
        rw [execute]
        split <;> exact ⟨rfl, rfl⟩
      | _ => exact ⟨rfl, rfl⟩

theorem balance_congr {s s' : StorageStore} (hfiles : s'.files = s.files)
    (hquotas : s'.quotas = s.quotas) (userId : PyStr) : s'.balance userId = s.balance userId := by
  rw [balance, used, stored, hfiles, hquotas]
  rfl

theorem change_quiet (hc : Quiet c) : change userId (m, c) = 0 := by
  obtain ⟨hfiles, hquotas⟩ := quiet_handle (m := m) hc
  exact sub_eq_zero.mpr (balance_congr hfiles hquotas userId)

theorem change_down {c : Call} (h : m.link = .down) : change userId (m, .call c) = 0 := by
  rw [change, handle_store, if_pos h, sub_self]

theorem change_insertFile {file : StoredFile} (hfile : file.status = .available)
    (hlink : m.link ≠ .down) (hnew : m.store.files.get? fileId = none) (user : PyStr) :
    change user (m, .call (.insertFile fileId file)) =
      owed file.userId (-(file.fileSize : ℤ), -1) user := by
  rw [change, handle_store, if_neg hlink, execute, if_neg (by rw [hnew]; exact Bool.false_ne_true)]
  have hstored : stored { m.store with files := m.store.files.insert fileId file }
      user = m.store.stored user + file.counted user := Keyed.sumBy_insert hnew file _
  rw [balance, balance, hstored, StoredFile.counted, owed, hfile]
  change m.store.used user - _ - _ = _
  rcases eq_or_ne file.userId user with rfl | hne
  · ext <;> simp
  · rw [if_neg fun h => hne h.1, if_neg hne.symm]
    ext <;> simp

theorem change_deleteFile {file : StoredFile} (hlink : m.link ≠ .down)
    (hfile : m.store.files.get? fileId = some file) (huser : file.userId = userId)
    (hstatus : file.status ≠ .deleted) (user : PyStr) :
    change user (m, .call (.deleteFile fileId userId)) =
      owed userId ((file.fileSize : ℤ), 1) user := by
  subst huser
  rw [change, handle_store, if_neg hlink]
  have hstored : (execute (.deleteFile fileId file.userId) m.store).2.stored user =
      m.store.stored user - file.counted user + (file.deletedBy file.userId).counted user :=
    Keyed.sumBy_modify hfile _ _
  have hdeleted : (file.deletedBy file.userId).counted user = 0 := by
    rw [StoredFile.deletedBy, if_pos rfl]
    exact if_neg fun h => h.2 rfl
  rw [balance, balance, hstored, hdeleted, StoredFile.counted, owed]
  change m.store.used user - _ - _ = _
  rcases eq_or_ne file.userId user with rfl | hne
  · rw [if_pos ⟨rfl, hstatus⟩]
    ext <;> simp
  · rw [if_neg fun h => hne h.1, if_neg hne.symm]
    ext <;> simp

theorem change_deleteFile_of_ne (h : ∀ file ∈ m.store.files.get? fileId, file.userId ≠ userId)
    (user : PyStr) : change user (m, .call (.deleteFile fileId userId)) = 0 := by
  rw [change, handle_store]
  split
  · exact sub_self _
  · have hstored : (execute (.deleteFile fileId userId) m.store).2.stored user =
        m.store.stored user := by
      cases hfile : m.store.files.get? fileId with
      | none => exact Keyed.sumBy_modify_of_none hfile _ _
      | some file =>
        have hsum : (execute (.deleteFile fileId userId) m.store).2.stored user =
            m.store.stored user - file.counted user + (file.deletedBy userId).counted user :=
          Keyed.sumBy_modify hfile _ _
        rw [hsum, StoredFile.deletedBy, if_neg (h file hfile), sub_add_cancel]
    rw [balance, hstored]
    exact sub_self _

theorem change_insertQuota {quota : StorageQuota} (hquota : quota.usedBytes = 0 ∧
    quota.fileCount = 0) (hnew : m.store.quotas userId = none) (user : PyStr) :
    change user (m, .call (.insertQuota userId quota)) = 0 := by
  rw [change, handle_store]
  split
  · exact sub_self _
  · rw [execute, if_neg (by rw [hnew]; exact Bool.false_ne_true)]
    have hused : (m.store.setQuota userId (some quota)).used user = m.store.used user := by
      rw [used, used, setQuota]
      dsimp only
      rcases eq_or_ne user userId with rfl | hne
      · rw [update_self, hnew, elim_some, hquota.1, hquota.2]
        rfl
      · rw [update_of_ne hne]
    exact sub_eq_zero.mpr (congrArg (· - m.store.stored user) hused)

theorem change_updateUsage {quota : StorageQuota} (bytes count : ℤ) (hlink : m.link ≠ .down)
    (hquota : m.store.quotas userId = some quota) (user : PyStr) :
    change user (m, .call (.updateUsage userId bytes count)) = owed userId (bytes, count) user := by
  rw [change, handle_store, if_neg hlink]
  have hused : (m.store.setQuota userId ((m.store.quotas userId).map
      (·.charge bytes count))).used user = m.store.used user + owed userId (bytes, count) user := by
    rw [used, used, setQuota, owed]
    dsimp only
    rcases eq_or_ne user userId with rfl | hne
    · rw [update_self, hquota, if_pos rfl]
      rfl
    · rw [update_of_ne hne, if_neg hne, add_zero]
  change (m.store.setQuota userId ((m.store.quotas userId).map (·.charge bytes count))).used user -
    m.store.stored user - (m.store.used user - m.store.stored user) = _
  rw [hused]
  abel

/-! ### The terms -/

/-- Quota records stay, with their totals, and files stay, with their users and sizes. -/
structure Stays (s s' : StorageStore) : Prop where
  quotas : ∀ userId, ∀ quota ∈ s.quotas userId, ∃ quota' ∈ s'.quotas userId,
    quota'.totalQuotaBytes = quota.totalQuotaBytes
  files : ∀ fileId, ∀ file ∈ s.files.get? fileId, ∃ file' ∈ s'.files.get? fileId,
    file'.userId = file.userId ∧ file'.fileSize = file.fileSize

theorem Stays.refl (s : StorageStore) : Stays s s :=
  ⟨fun _ quota h => ⟨quota, h, rfl⟩, fun _ file h => ⟨file, h, rfl, rfl⟩⟩

theorem Stays.trans {s₁ s₂ s₃ : StorageStore} (h : Stays s₁ s₂) (h' : Stays s₂ s₃) :
    Stays s₁ s₃ := by
  refine ⟨fun userId quota hquota => ?_, fun fileId file hfile => ?_⟩
  · obtain ⟨quota₂, hquota₂, htotal₂⟩ := h.quotas userId quota hquota
    obtain ⟨quota₃, hquota₃, htotal₃⟩ := h'.quotas userId quota₂ hquota₂
    exact ⟨quota₃, hquota₃, htotal₃.trans htotal₂⟩
  · obtain ⟨file₂, hfile₂, huser₂, hsize₂⟩ := h.files fileId file hfile
    obtain ⟨file₃, hfile₃, huser₃, hsize₃⟩ := h'.files fileId file₂ hfile₂
    exact ⟨file₃, hfile₃, huser₃.trans huser₂, hsize₃.trans hsize₂⟩

def terms : Terms (Clocked StorageStore) :=
  Clocked.terms {
    inv := WithinLimits
    rel := Stays
    rel_refl := .refl
    rel_trans := .trans }

/-- A look has been had at a quota, and what is charged fits by what was found; or it is a
credit. -/
def Ready (userId : PyStr) (bytes count : ℤ) (past : StoragePast) (m : Clocked StorageStore) :
    Prop :=
  (bytes ≤ 0 ∧ count ≤ 0) ∨ count = 1 ∧ past.filterMap (quotaBy userId) ≠ [] ∧
    ∀ found ∈ checked userId past, found.usedBytes + bytes ≤ found.totalQuotaBytes ∧
      ∃ quota ∈ m.store.quotas userId, quota.totalQuotaBytes = found.totalQuotaBytes

def Promise (past : StoragePast) (m : Clocked StorageStore) : Timed Call → Prop
  | .call (.insertQuota _ quota) => quota = defaultQuota
  | .call (.updateUsage userId bytes count) => Ready userId bytes count past m
  | _ => True

theorem Ready.later (h : Ready userId bytes count past m) (hm' : terms.rel m m') :
    Ready userId bytes count past m' := by
  refine h.imp_right ?_
  rintro ⟨hcount, hlooked, hfits⟩
  refine ⟨hcount, hlooked, fun found hfound => ?_⟩
  obtain ⟨hfit, quota, hquota, htotal⟩ := hfits found hfound
  obtain ⟨quota', hquota', htotal'⟩ := hm'.quotas userId quota hquota
  exact ⟨hfit, quota', hquota', htotal'.trans htotal⟩

theorem checked_cons (h : past.filterMap (quotaBy userId) ≠ [])
    (e : Clocked StorageStore × Timed Call) :
    (e :: past).filterMap (quotaBy userId) ≠ [] ∧
      checked userId (e :: past) = checked userId past := by
  rw [checked, checked, List.filterMap_cons]
  cases quotaBy userId e with
  | none => exact ⟨h, rfl⟩
  | some found =>
    refine ⟨List.cons_ne_nil _ _, ?_⟩
    obtain ⟨first, rest, hpast⟩ := List.exists_cons_of_ne_nil h
    rw [hpast, List.getLast?_cons_cons]

theorem Ready.cons (h : Ready userId bytes count past m)
    (e : Clocked StorageStore × Timed Call) : Ready userId bytes count (e :: past) m := by
  refine h.imp_right ?_
  rintro ⟨hcount, hlooked, hfits⟩
  obtain ⟨hlooked', hsame⟩ := checked_cons hlooked e
  exact ⟨hcount, hlooked', by rwa [hsame]⟩

theorem charge_within {quota : StorageQuota} (hquota : quota ∈ m.store.quotas userId)
    (hwithin : quota.usedBytes ≤ quota.totalQuotaBytes ∧ ∀ n ∈ quota.maxFileCount,
      quota.fileCount ≤ n) (hready : Ready userId bytes count past m)
    (hroom : 0 < count → Room userId bytes past m) :
    (quota.charge bytes count).usedBytes ≤ (quota.charge bytes count).totalQuotaBytes ∧
      ∀ n ∈ (quota.charge bytes count).maxFileCount, (quota.charge bytes count).fileCount ≤ n := by
  change quota.usedBytes + bytes ≤ quota.totalQuotaBytes ∧
    ∀ n ∈ quota.maxFileCount, quota.fileCount + count ≤ n
  rcases hready with ⟨hbytes, hcount⟩ | ⟨rfl, -, hfits⟩
  · refine ⟨by omega, fun n hn => ?_⟩
    have := hwithin.2 n hn
    omega
  · obtain ⟨hfiles, hfound, hnone⟩ := hroom one_pos quota hquota
    refine ⟨?_, fun n hn => ?_⟩
    · cases hchecked : checked userId past with
      | none => exact hnone hchecked
      | some found =>
        have hused := hfound found hchecked
        obtain ⟨hfit, quota', hquota', htotal⟩ := hfits found hchecked
        obtain rfl := mem_unique hquota hquota'
        omega
    · have := hfiles n hn
      omega

section Statements

variable {s : StorageStore}

theorem terms_setQuota {quota' : Option StorageQuota} (hi : s.WithinLimits)
    (hwithin : ∀ quota ∈ quota', quota.usedBytes ≤ quota.totalQuotaBytes ∧
      ∀ n ∈ quota.maxFileCount, quota.fileCount ≤ n)
    (hstays : ∀ quota ∈ s.quotas userId, ∃ quota₁ ∈ quota',
      quota₁.totalQuotaBytes = quota.totalQuotaBytes) :
    (s.setQuota userId quota').WithinLimits ∧ Stays s (s.setQuota userId quota') := by
  have hself : (s.setQuota userId quota').quotas userId = quota' := update_self ..
  have hothers : ∀ user, user ≠ userId → (s.setQuota userId quota').quotas user = s.quotas user :=
    fun user hne => update_of_ne hne ..
  refine ⟨fun user quota hquota => ?_, fun user quota hquota => ?_,
    fun fileId file hfile => ⟨file, hfile, rfl, rfl⟩⟩
  · rcases eq_or_ne user userId with rfl | hne
    · rw [hself] at hquota
      exact hwithin quota hquota
    · rw [hothers user hne] at hquota
      exact hi user quota hquota
  · rcases eq_or_ne user userId with rfl | hne
    · rw [hself]
      exact hstays quota hquota
    · rw [hothers user hne]
      exact ⟨quota, hquota, rfl⟩

theorem stays_insertFile (fileId : PyStr) (file : StoredFile) :
    Stays s (execute (.insertFile fileId file) s).2 := by
  rw [execute]
  split
  · exact .refl _
  · next hnew =>
      refine ⟨fun userId quota hquota => ⟨quota, hquota, rfl⟩,
        fun id file' hfile' => ⟨file', ?_, rfl, rfl⟩⟩
      have hne : id ≠ fileId := by
        rintro rfl
        exact hnew (by rw [hfile']; rfl)
      exact (Keyed.get?_insert_of_ne _ hne _).trans hfile'

theorem stays_deleteFile (fileId userId : PyStr) :
    Stays s (execute (.deleteFile fileId userId) s).2 := by
  refine ⟨fun user quota hquota => ⟨quota, hquota, rfl⟩, fun id file hfile => ?_⟩
  rcases eq_or_ne id fileId with rfl | hne
  · refine ⟨file.deletedBy userId, (Keyed.get?_modify_self ..).trans ?_, ?_⟩
    · rw [show s.files.get? id = some file from hfile]
      rfl
    · rw [StoredFile.deletedBy]
      split <;> exact ⟨rfl, rfl⟩
  · exact ⟨file, (Keyed.get?_modify_of_ne _ hne _).trans hfile, rfl, rfl⟩

end Statements

theorem rel_call {c : Call} (h : m.link ≠ .down → Stays m.store (execute c m.store).2) :
    terms.rel m (handle (.call c) m).2 := by
  change Stays m.store (handle (.call c) m).2.store
  rw [handle_store]
  split
  · exact .refl _
  · next hlink => exact h hlink

theorem terms_call {c : Call} (hi : terms.inv m) (h : m.link ≠ .down →
      (execute c m.store).2.WithinLimits ∧ Stays m.store (execute c m.store).2) :
    terms.inv (handle (.call c) m).2 ∧ terms.rel m (handle (.call c) m).2 := by
  refine ⟨?_, rel_call fun hlink => (h hlink).2⟩
  change WithinLimits (handle (.call c) m).2.store
  rw [handle_store]
  split
  · exact hi
  · next hlink => exact (h hlink).1

theorem handle_terms {c : Timed Call} (hi : terms.inv m) (hcharged : Charged past m c)
    (hc : Promise past m c) : terms.inv (handle c m).2 ∧ terms.rel m (handle c m).2 := by
  by_cases hquiet : Quiet c
  · obtain ⟨hfiles, hquotas⟩ := quiet_handle (m := m) hquiet
    refine ⟨fun userId quota hquota => hi userId quota ?_, fun userId quota hquota =>
      ⟨quota, ?_, rfl⟩, fun fileId file hfile => ⟨file, ?_, rfl, rfl⟩⟩
    · rwa [hquotas] at hquota
    · rwa [hquotas]
    · rwa [hfiles]
  cases c with
  | now => exact absurd trivial hquiet
  | call c =>
    refine terms_call hi fun _ => ?_
    cases c with
    | insertFile fileId file =>
      refine ⟨?_, stays_insertFile fileId file⟩
      rw [execute]
      split
      · exact hi
      · exact hi
    | deleteFile fileId userId => exact ⟨hi, stays_deleteFile fileId userId⟩
    | insertQuota userId quota =>
      obtain rfl : quota = defaultQuota := hc
      have hnew : m.store.quotas userId = none := hcharged.2
      rw [execute, if_neg (by rw [hnew]; exact Bool.false_ne_true)]
      refine terms_setQuota hi (fun quota hquota => ?_) fun quota hquota => ?_
      · obtain rfl := some.inj hquota
        decide
      · cases hnew.symm.trans hquota
    | updateUsage userId bytes count =>
      refine terms_setQuota hi (fun quota hquota => ?_) fun quota hquota => ?_
      · obtain ⟨quota₀, hquota₀, rfl⟩ := mem_map.mp hquota
        exact charge_within hquota₀ (hi userId quota₀ hquota₀) hc hcharged.2
      · exact ⟨quota.charge bytes count, mem_map.mpr ⟨quota, hquota, rfl⟩, rfl⟩
    | _ => exact absurd trivial hquiet

end Calls

/-! ### The programs -/

section Programs

variable {service : StorageService} {past : StoragePast} {m m' : Clocked StorageStore}
  {userId fileId : PyStr} {bytes count : ℤ} {v : PyStr → ℤ × ℤ} {α : Type} {c : Timed Call}
  {size : ℕ}

/-- A program under interference, which ends as `Q` says. -/
abbrev QuotaSound (Q : Except StorageError α → StoragePast → Clocked StorageStore → Prop)
    (p : StorageM α) : StoragePast → Clocked StorageStore → Prop :=
  p.Sound terms handle Charged Promise Q

def Owes (v : PyStr → ℤ × ℤ) (past : StoragePast) : Prop := ∀ user, tally (change user) past = v user

theorem Owes.cons_quiet (h : Owes v past) (hc : Quiet c) : Owes v ((m, c) :: past) := by
  intro user
  rw [tally_cons, change_quiet hc, zero_add, h user]

theorem Owes.cons {w : PyStr → ℤ × ℤ} (h : Owes v past) (hc : ∀ user, change user (m, c) = w user) :
    Owes (w + v) ((m, c) :: past) := by
  intro user
  rw [tally_cons, hc user, h user]
  rfl

theorem owed_add_neg (userId : PyStr) (bytes count : ℤ) :
    owed userId (bytes, count) + owed userId (-bytes, -count) = 0 := by
  funext user
  rw [Pi.add_apply, owed, owed]
  split
  · ext <;> simp
  · exact add_zero 0

theorem rel_quiet (hc : Quiet c) : terms.rel m (handle c m).2 := by
  obtain ⟨hfiles, hquotas⟩ := quiet_handle (m := m) hc
  refine ⟨fun userId quota hquota => ⟨quota, ?_, rfl⟩, fun fileId file hfile =>
    ⟨file, ?_, rfl, rfl⟩⟩
  · rwa [hquotas]
  · rwa [hfiles]

theorem promise_quiet (hc : Quiet c) : Promise past m c := by
  cases c with
  | now => trivial
  | call c => cases c with
    | insertFile fileId file => exact hc.elim
    | deleteFile fileId userId => exact hc.elim
    | insertQuota userId quota => exact hc.elim
    | updateUsage userId bytes count => exact hc.elim
    | _ => trivial

theorem quiet_sound {p : StorageM α} {J : StoragePast → Clocked StorageStore → Prop}
    (hp : p.Only Quiet) (howes : Owes v past) (hJ : J past m)
    (hlater : ∀ past m m', terms.rel m m' → J past m → J past m')
    (hcons : ∀ past m e, J past m → J (e :: past) m) :
    QuotaSound (fun _ past m => Owes v past ∧ J past m) p past m :=
  hp.sound_state (J := fun past m => Owes v past ∧ J past m) ⟨howes, hJ⟩
    (fun _ _ _ hm' h => ⟨h.1, hlater _ _ _ hm' h.2⟩) fun _ hc _ _ _ h =>
    ⟨promise_quiet hc, h.1.cons_quiet hc, hcons _ _ _ (hlater _ _ _ (rel_quiet hc) h.2)⟩

theorem owes_sound {p : StorageM α} (hp : p.Only Quiet) (howes : Owes v past) :
    QuotaSound (fun _ past _ => Owes v past) p past m :=
  (quiet_sound (J := fun _ _ => True) hp howes trivial (fun _ _ _ _ h => h)
    fun _ _ _ h => h).mono fun _ _ _ h => h.1

theorem getFileById_quiet {userId : Option PyStr} : (getFileById fileId userId).Only Quiet :=
  (only_query (I := StorageApi.timed) trivial).tryCatch fun _ => trivial

theorem getStorageQuota_quiet : (getStorageQuota userId).Only Quiet :=
  (only_query (I := StorageApi.timed) trivial).tryCatch fun _ => trivial

def HasQuota (userId : PyStr) (m : Clocked StorageStore) : Prop :=
  ∃ quota, m.store.quotas userId = some quota

theorem HasQuota.later (h : HasQuota userId m) (hm' : terms.rel m m') : HasQuota userId m' := by
  obtain ⟨quota, hquota⟩ := h
  obtain ⟨quota', hquota', -⟩ := hm'.quotas userId quota hquota
  exact ⟨quota', hquota'⟩

theorem insertQuota_sound (howes : Owes v past) (hready : Ready userId bytes count past m) :
    QuotaSound (fun r past m => Owes v past ∧ Ready userId bytes count past m ∧
      (∃ n : ℕ, r = .ok n) ∧ HasQuota userId m)
      (ask (.insertQuota userId defaultQuota)) past m := by
  refine sound_ask fun m₁ hm₁ _ => ⟨rfl, fun hcharged m₂ hm₂ _ => ?_⟩
  obtain ⟨hlink, hnew⟩ := hcharged
  have hrun : execute (.insertQuota userId defaultQuota) m₁.store =
      (.ok (1 : ℕ), m₁.store.setQuota userId (some defaultQuota)) := by
    rw [execute, if_neg (by rw [hnew]; exact Bool.false_ne_true)]
  have hexecuted : handle (.call (.insertQuota userId defaultQuota)) m₁ =
      (.ok (1 : ℕ), { m₁ with store := m₁.store.setQuota userId (some defaultQuota) }) := by
    change ((m₁.link.pass StorageError.unavailable (execute
      (.insertQuota userId defaultQuota) m₁.store) m₁.store).1, { m₁ with
        store := (m₁.link.pass StorageError.unavailable (execute
          (.insertQuota userId defaultQuota) m₁.store) m₁.store).2 }) = _
    rw [hlink, hrun]
    rfl
  have hrel : terms.rel m₁ (handle (.call (.insertQuota userId defaultQuota)) m₁).2 := by
    refine rel_call fun _ => ?_
    rw [hrun]
    refine ⟨fun user quota hquota => ⟨quota, ?_, rfl⟩,
      fun id file hfile => ⟨file, hfile, rfl, rfl⟩⟩
    have hne : user ≠ userId := by
      rintro rfl
      cases hnew.symm.trans hquota
    exact (update_of_ne hne ..).trans hquota
  have hafter : HasQuota userId (handle (.call (.insertQuota userId defaultQuota)) m₁).2 := by
    rw [hexecuted]
    exact ⟨defaultQuota, update_self ..⟩
  refine ⟨fun user => ?_, (((hready.later hm₁).later hrel).later hm₂).cons _,
    ⟨1, congrArg Prod.fst hexecuted⟩, hafter.later hm₂⟩
  rw [tally_cons, change_insertQuota ⟨rfl, rfl⟩ hnew, zero_add, howes user]

theorem createStorageQuota_sound (howes : Owes v past)
    (hready : Ready userId bytes count past m) :
    QuotaSound (fun r past m => Owes v past ∧ Ready userId bytes count past m ∧
      (∃ quota, r = .ok quota) ∧ HasQuota userId m)
      (createStorageQuota userId defaultQuota) past m := by
  refine Sound.bind (insertQuota_sound howes hready) ?_ ?_
  · rintro n past m ⟨howes, hready, -, hquota⟩
    have hJ : QuotaSound (fun _ past m => Owes v past ∧
        Ready userId bytes count past m ∧ HasQuota userId m)
        (if 0 < n then getStorageQuota userId else return none) past m := by
      refine quiet_sound (J := fun past m => Ready userId bytes count past m ∧
        HasQuota userId m) ?_ howes ⟨hready, hquota⟩
        (fun _ _ _ hm' h => ⟨h.1.later hm', h.2.later hm'⟩) fun _ _ e h => ⟨h.1.cons e, h.2⟩
      split
      · exact getStorageQuota_quiet
      · trivial
    have hcalm : QuotaSound (fun r _ _ => ∃ quota, r = .ok quota)
        (if 0 < n then getStorageQuota userId else return none) past m := by
      refine (Obeys.sound (P := Quiet) (Q := fun r => ∃ quota, r = .ok quota) ?_
        fun c hc _ _ => promise_quiet hc)
      split
      · exact Obeys.tryCatch (only_query (I := StorageApi.timed) trivial).obeys
          (fun quota _ => ⟨quota, rfl⟩) fun _ _ => ⟨none, rfl⟩
      · exact ⟨none, rfl⟩
    exact (hJ.and hcalm).mono fun _ _ _ h => ⟨h.1.1, h.1.2.1, h.2, h.1.2.2⟩
  · rintro e past m ⟨-, -, ⟨n, h⟩, -⟩
    cases h

theorem ensureQuota_sound {existing : Option StorageQuota} (howes : Owes v past)
    (hready : Ready userId bytes count past m)
    (hexisting : existing.isSome = true → HasQuota userId m) :
    QuotaSound (fun r past m => Owes v past ∧ Ready userId bytes count past m ∧
      r = .ok () ∧ HasQuota userId m) (ensureQuota userId existing) past m := by
  cases existing with
  | some quota =>
    exact fun m' hm' _ => ⟨howes, hready.later hm', rfl, (hexisting rfl).later hm'⟩
  | none =>
    refine Sound.bind (createStorageQuota_sound howes hready) ?_ ?_
    · rintro quota past m ⟨howes, hready, -, hquota⟩
      exact fun m' hm' _ => ⟨howes, hready.later hm', rfl, hquota.later hm'⟩
    · rintro e past m ⟨-, -, ⟨quota, h⟩, -⟩
      cases h

theorem updateStorageUsage_sound (howes : Owes (owed userId (-bytes, -count)) past)
    (hready : ∀ e, Ready userId bytes count (e :: past) m) :
    QuotaSound (fun _ past _ => Owes 0 past) (updateStorageUsage userId bytes count) past m := by
  refine sound_getStorageQuota fun m₁ hm₁ _ => ⟨trivial, fun _ => ?_⟩
  refine Sound.bind (ensureQuota_sound (v := owed userId (-bytes, -count))
    (howes.cons_quiet trivial) ((hready _).later hm₁) ?_) ?_ ?_
  · intro hexisting
    rw [quotaAt] at hexisting
    split at hexisting
    · cases hquota : m₁.store.quotas userId with
      | none =>
        rw [hquota] at hexisting
        cases hexisting
      | some quota => exact ⟨quota, hquota⟩
    · cases hexisting
  · rintro - past m ⟨howes, hready, -, hquota⟩
    refine Sound.bind (Q := fun _ past _ => Owes 0 past) ?_
      (fun _ _ _ h _ _ _ => h) fun _ _ _ h => h
    refine sound_ask fun m₂ hm₂ _ => ⟨hready.later hm₂, fun hcharged _ _ _ => ?_⟩
    obtain ⟨quota, hquota⟩ := hquota.later hm₂
    have h := howes.cons (change_updateUsage bytes count hcharged.1 hquota)
    rwa [owed_add_neg] at h
  · rintro e past m ⟨-, -, h, -⟩
    cases h

theorem insertFile_sound (file : StoredFile) (hfile : file.status = .available)
    (howes : Owes 0 past) (hready : Ready file.userId bytes count past m) :
    QuotaSound (fun r past m => (∀ n : ℕ, r = .ok n →
        Owes (owed file.userId (-(file.fileSize : ℤ), -1)) past ∧
          Ready file.userId bytes count past m) ∧
      ∀ e, r = .error e → Owes 0 past) (ask (.insertFile fileId file)) past m := by
  refine sound_ask fun m₁ hm₁ _ => ⟨trivial, fun hcharged m₂ hm₂ _ => ?_⟩
  have hrel : terms.rel m₁ (handle (.call (.insertFile fileId file)) m₁).2 :=
    rel_call fun _ => stays_insertFile fileId file
  have hexecuted : (handle (.call (.insertFile fileId file)) m₁).1 =
      (m₁.link.pass StorageError.unavailable (execute (.insertFile fileId file) m₁.store)
        m₁.store).1 := rfl
  cases hlink : m₁.link with
  | lost => exact absurd hlink hcharged
  | down =>
    rw [hexecuted, hlink]
    refine ⟨nofun, fun _ _ user => ?_⟩
    rw [tally_cons, change_down hlink, howes user]
    rfl
  | up =>
    rw [hexecuted, hlink]
    cases hnew : m₁.store.files.get? fileId with
    | some existing =>
      have hrun : execute (.insertFile fileId file) m₁.store =
          (.error .uniqueViolation, m₁.store) := by
        rw [execute, if_pos (by rw [hnew]; rfl)]
      rw [hrun]
      refine ⟨nofun, fun _ _ user => ?_⟩
      rw [tally_cons, change, handle_store, if_neg (by rw [hlink]; exact nofun), hrun,
        howes user]
      exact (add_zero _).trans (sub_self _)
    | none =>
      have hrun : (execute (.insertFile fileId file) m₁.store).1 = .ok (1 : ℕ) := by
        rw [execute, if_neg (by rw [hnew]; exact Bool.false_ne_true)]
      refine ⟨fun n _ => ⟨?_, (((hready.later hm₁).later hrel).later hm₂).cons _⟩,
        fun e he => ?_⟩
      · have h := howes.cons (change_insertFile hfile (by rw [hlink]; exact nofun) hnew)
        rwa [add_zero] at h
      · cases hrun.symm.trans he

theorem createFileRecord_sound (file : StoredFile) (hfile : file.status = .available)
    (howes : Owes 0 past) (hready : Ready file.userId bytes count past m) :
    QuotaSound (fun r past m => (∀ record, r = .ok record →
        Owes (owed file.userId (-(file.fileSize : ℤ), -1)) past ∧
          Ready file.userId bytes count past m) ∧
      ∀ e, r = .error e → Owes 0 past) (createFileRecord fileId file) past m := by
  refine Sound.bind (insertFile_sound file hfile howes hready) ?_
    fun e past m h => ⟨fun _ => nofun, fun e' h' => h.2 e rfl⟩
  intro n past m h
  obtain ⟨howes, hready⟩ := h.1 n rfl
  have hcalm : QuotaSound (fun r _ _ => ∀ e, r ≠ .error e)
      (if 0 < n then getFileById fileId (given (some file.userId)) else return none) past m := by
    refine Obeys.sound (P := Quiet) (Q := fun r => ∀ e, r ≠ .error e) ?_
      fun c hc _ _ => promise_quiet hc
    split
    · exact Obeys.tryCatch (only_query (I := StorageApi.timed) trivial).obeys
        (fun _ _ _ => nofun) fun _ _ _ => nofun
    · exact fun _ => nofun
  have hquiet : QuotaSound (fun _ past m =>
      Owes (owed file.userId (-(file.fileSize : ℤ), -1)) past ∧
        Ready file.userId bytes count past m)
      (if 0 < n then getFileById fileId (given (some file.userId)) else return none) past m := by
    refine quiet_sound (J := fun past m => Ready file.userId bytes count past m) ?_ howes hready
      (fun _ _ _ hm' h => h.later hm') fun _ _ e h => h.cons e
    split
    · exact getFileById_quiet
    · trivial
  exact (hquiet.and hcalm).mono fun r _ _ h => ⟨fun _ _ => h.1, fun e he => absurd he (h.2 e)⟩

theorem storeFile_sound {u : Upload} {contentType : PyStr} (howes : Owes 0 past)
    (hready : Ready u.userId u.size 1 past m) :
    QuotaSound (fun _ past _ => Owes 0 past) (storeFile u contentType) past m := by
  have hask : ∀ {past m} {c : Call}, Quiet (.call c) → Owes 0 past →
      Ready u.userId u.size 1 past m → QuotaSound (fun _ past m => Owes 0 past ∧
        Ready u.userId u.size 1 past m) (ask c) past m := fun hc howes hready =>
    quiet_sound (J := fun past m => Ready u.userId u.size 1 past m)
      (only_query (I := StorageApi.timed) hc) howes hready (fun _ _ _ hm' h => h.later hm')
      fun _ _ e h => h.cons e
  refine Sound.bind (hask trivial howes hready) ?_ fun _ _ _ h => h.1
  rintro - past m ⟨howes, hready⟩
  refine Sound.bind (hask trivial howes hready) ?_ fun _ _ _ h => h.1
  rintro downloadUrl past m ⟨howes, hready⟩
  refine Sound.bind (createFileRecord_sound (u.file contentType) rfl howes hready) ?_
    fun e _ _ h => h.2 e rfl
  intro record past m h
  obtain ⟨howes, hready⟩ := h.1 record rfl
  exact Sound.bind (updateStorageUsage_sound howes fun e => hready.cons e)
    (fun _ _ _ h _ _ _ => h) fun _ _ _ h => h

theorem checkQuota_sound (howes : Owes 0 past) (hnone : past.filterMap (quotaBy userId) = []) :
    QuotaSound (fun r past m => Owes 0 past ∧ (r = .ok true → Ready userId size 1 past m))
      (checkQuota userId size) past m := by
  refine sound_getStorageQuota fun m₁ _ _ => ⟨trivial, fun _ => ?_⟩
  have hevents : (((m₁, .call (.selectQuota userId)) :: past).filterMap (quotaBy userId)) =
      [quotaAt userId m₁] := by
    rw [List.filterMap_cons, quotaBy, if_pos rfl, hnone]
  have hchecked : checked userId ((m₁, .call (.selectQuota userId)) :: past) =
      quotaAt userId m₁ := by
    rw [checked, hevents]
    rfl
  cases hfound : quotaAt userId m₁ with
  | none =>
    refine fun _ _ _ => ⟨howes.cons_quiet trivial, fun _ => .inr ⟨rfl, ?_, ?_⟩⟩
    · rw [hevents]
      exact List.cons_ne_nil _ _
    · rw [hchecked, hfound]
      exact fun _ h => nomatch h
  | some quota =>
    intro m' hm' _
    refine ⟨howes.cons_quiet trivial, fun hok => .inr ⟨rfl, ?_, ?_⟩⟩
    · rw [hevents]
      exact List.cons_ne_nil _ _
    · rw [hchecked, hfound]
      rintro found ⟨⟩
      refine ⟨(of_decide_eq_true (Except.ok.inj hok)).1, ?_⟩
      have hquota : m₁.store.quotas userId = some quota := by
        rw [quotaAt] at hfound
        split at hfound
        · exact (filter_eq_some_iff.mp hfound).1
        · cases hfound
      exact hm'.quotas userId quota hquota

theorem uploadFile_sound {u : Upload} :
    QuotaSound (fun _ past _ => Owes 0 past) (uploadFile service u) [] m := by
  intro m₁ _ _
  refine ⟨trivial, fun _ => ?_⟩
  have howes : Owes 0 [(m₁, Timed.call Call.ensureBucket)] :=
    Owes.cons_quiet (fun _ => rfl) trivial
  cases (handle (.call .ensureBucket) m₁).1 with
  | error e => exact fun _ _ _ => howes
  | ok _ =>
    simp only [Prog.bind]
    split
    · exact fun _ _ _ => howes
    · split
      · exact fun _ _ _ => howes
      · split
        · exact fun _ _ _ => howes
        · refine Sound.bind (checkQuota_sound howes rfl) ?_ fun _ _ _ h => h.1
          rintro quotaOk past m ⟨howes, hready⟩
          split
          · next hok => exact storeFile_sound howes (hready (by rw [hok]))
          · exact fun _ _ _ => howes

def HasFile (fileId : PyStr) (size : ℕ) (m : Clocked StorageStore) : Prop :=
  ∃ file, m.store.files.get? fileId = some file ∧ file.fileSize = size

theorem HasFile.later (h : HasFile fileId size m) (hm' : terms.rel m m') :
    HasFile fileId size m' := by
  obtain ⟨file, hfile, hsize⟩ := h
  obtain ⟨file', hfile', -, hsize'⟩ := hm'.files fileId file hfile
  exact ⟨file', hfile', hsize'.trans hsize⟩

theorem deleteFileRecord_sound (howes : Owes 0 past) (hrow : HasFile fileId size m) :
    QuotaSound (fun r past _ => (r = .ok true →
        Owes (owed userId (-(-(size : ℤ)), -(-1))) past) ∧
      (r ≠ .ok true → Owes 0 past)) (deleteFileRecord fileId userId) past m := by
  refine Sound.bind (Q := fun r past _ => ∀ b, r.map (fun n : ℕ => decide (0 < n)) = b →
      (b = .ok true → Owes (owed userId (-(-(size : ℤ)), -(-1))) past) ∧
        (b ≠ .ok true → Owes 0 past)) ?_ (fun n _ _ h _ _ _ => h _ rfl) fun e _ _ h => h _ rfl
  refine sound_ask fun m₂ hm₂ _ => ⟨trivial, fun hcharged m₃ _ _ => ?_⟩
  rintro _ rfl
  obtain ⟨row, hrow, hsize⟩ := hrow.later hm₂
  have hexecuted : (handle (.call (.deleteFile fileId userId)) m₂).1 =
      (m₂.link.pass StorageError.unavailable (execute (.deleteFile fileId userId) m₂.store)
        m₂.store).1 := rfl
  cases hlink : m₂.link with
  | lost => exact absurd hlink hcharged.1
  | down =>
    rw [hexecuted, hlink]
    refine ⟨nofun, fun _ user => ?_⟩
    rw [tally_cons, change_down hlink, howes user]
    rfl
  | up =>
    rw [hexecuted, hlink]
    change (((execute (.deleteFile fileId userId) m₂.store).1.map _) = _ → _) ∧
      (((execute (.deleteFile fileId userId) m₂.store).1.map _) ≠ _ → _)
    rw [execute, hrow]
    by_cases huser : row.userId = userId
    · have howed : Owes (owed userId (-(-(size : ℤ)), -(-1)))
          ((m₂, .call (.deleteFile fileId userId)) :: past) := by
        have h := howes.cons (change_deleteFile (by rw [hlink]; exact nofun) hrow huser
          (hcharged.2 hlink row hrow huser))
        rw [add_zero, hsize] at h
        rwa [neg_neg, neg_neg]
      exact ⟨fun _ => howed, fun h => absurd (by simp [huser, Except.map]) h⟩
    · refine ⟨fun h => absurd h (by simp [huser, Except.map]), fun _ user => ?_⟩
      rw [tally_cons, change_deleteFile_of_ne, howes user]
      · rfl
      · rintro row' hrow'
        rw [mem_unique hrow' hrow]
        exact huser

theorem deleteFile_sound {permanent : Bool} (howes : Owes 0 past) :
    QuotaSound (fun _ past _ => Owes 0 past) (deleteFile fileId userId permanent) past m := by
  refine sound_getFileById fun m₁ _ _ => ⟨trivial, fun _ => ?_⟩
  cases hfound : fileAt fileId (given (some userId)) m₁ with
  | none => exact fun _ _ _ => howes.cons_quiet trivial
  | some file =>
    -- The row that is deleted later has the size that was read.
    have hrow : HasFile fileId file.fileSize m₁ := by
      rw [fileAt] at hfound
      split at hfound
      · exact ⟨file, (filter_eq_some_iff.mp hfound).1, rfl⟩
      · cases hfound
    refine Sound.bind (quiet_sound (v := 0)
      (J := fun _ m => HasFile fileId file.fileSize m) ?_ (howes.cons_quiet trivial) hrow
      (fun _ _ _ hm' h => h.later hm') fun _ _ _ h => h) ?_ fun _ _ _ h => h.1
    · cases permanent with
      | false => trivial
      | true => exact (only_query (I := StorageApi.timed) trivial).tryCatch fun _ => trivial
    · rintro - past m ⟨howes, hrow⟩
      refine Sound.bind (deleteFileRecord_sound howes hrow) ?_ fun e _ _ h => h.2 nofun
      rintro success past m ⟨hsuccess, hfailure⟩
      rw [credit]
      split
      · next h =>
          refine Sound.bind (updateStorageUsage_sound (hsuccess (by rw [h])) fun e => ?_)
            (fun _ _ _ h _ _ _ => h) fun _ _ _ h => h
          exact .inl ⟨by omega, by omega⟩
      · next h => exact fun _ _ _ => hfailure fun hok => h (Except.ok.inj hok)

theorem getFileShare_quiet {shareId : PyStr} : (getFileShare shareId).Only Quiet := by
  by_cases h : shareId = []
  · have hnone : getFileShare shareId = .ret none := if_pos h
    rw [hnone]
    trivial
  · have hask : getFileShare shareId = (ask (.selectShare shareId) :
        StorageM (Option FileShare)).tryCatch fun _ => return none := if_neg h
    rw [hask]
    exact (only_query (I := StorageApi.timed) trivial).tryCatch fun _ => trivial

theorem shareFile_quiet {r : ShareRequest} : (shareFile r).Only Quiet := by
  refine Only.bind getFileById_quiet fun file => ?_
  cases file with
  | none => trivial
  | some file =>
    refine Only.bind (only_query (I := StorageApi.timed) trivial) fun time => ?_
    refine Only.bind ?_ fun share => ?_
    · refine Only.bind (only_query (I := StorageApi.timed) trivial) fun n => ?_
      split
      · exact getFileShare_quiet
      · trivial
    · cases share <;> trivial

theorem getSharedFile_quiet {shareId : PyStr} {accessToken password : Option PyStr} :
    (getSharedFile shareId accessToken password).Only Quiet := by
  refine Only.bind getFileShare_quiet fun share => ?_
  cases share with
  | none => trivial
  | some share =>
    dsimp only
    split
    · trivial
    · split
      · trivial
      · refine Only.bind getFileById_quiet fun file => ?_
        cases file with
        | none => trivial
        | some file =>
          refine Only.bind ?_ fun _ => Only.bind ?_ fun _ => trivial
          · rw [countDownload]
            cases share.permitted.download with
            | false => trivial
            | true =>
              refine Only.bind (Only.tryCatch (Only.bind
                (only_query (I := StorageApi.timed) trivial) fun _ => trivial)
                fun _ => trivial) fun _ => trivial
          · rw [sharedUrl]
            split
            · exact Only.tryCatch (Only.bind
                (only_query (I := StorageApi.timed) trivial) fun _ => trivial)
                fun _ => trivial
            · trivial

theorem serve_sound {request : Request} :
    QuotaSound (fun _ past _ => Owes 0 past) (request.serve service) [] m := by
  have hempty : Owes 0 [] := fun _ => rfl
  refine Sound.tryCatch (Q := fun _ past _ => Owes 0 past) ?_ (fun _ _ _ h => h)
    fun _ _ _ h _ _ _ => h
  cases request with
  | upload u => exact uploadFile_sound
  | delete fileId userId permanent => exact deleteFile_sound hempty
  | share r => exact owes_sound shareFile_quiet hempty
  | getShared shareId accessToken password => exact owes_sound getSharedFile_quiet hempty

end Programs

/-! ### Runs -/

theorem terms_of_shifts (m m' : Clocked StorageStore) (hi : terms.inv m)
    (h : Clocked.Shifts m m') : terms.inv m' ∧ terms.rel m m' := by
  have hstore : m'.store = m.store := h.1
  change m'.store.WithinLimits ∧ Stays m.store m'.store
  rw [hstore]
  exact ⟨hi, .refl _⟩

section Runs

variable {service : StorageService} {ι : Type*} [DecidableEq ι] {requests : ι → Request}
  {m : Clocked StorageStore} {pool : StoragePool ι}

theorem allSound_of_run (hlimits : m.store.WithinLimits)
    (hpool : StorageRun (fun _ => Charged) (StoragePool.start service requests m) pool) :
    Pool.AllSound terms handle (fun _ => Charged) (fun _ => Promise)
      (fun _ _ past _ => Owes 0 past) pool :=
  hpool.sound ⟨hlimits, fun _ => serve_sound⟩ (fun _ _ _ _ h => h)
    (fun _ _ _ _ hi hA hG => handle_terms hi hA hG) terms_of_shifts

theorem accounted_of_run [Fintype ι] (haccounted : m.store.Accounted)
    (hlimits : m.store.WithinLimits)
    (hpool : StorageRun (fun _ => Charged) (StoragePool.start service requests m) pool)
    (hquiet : Quiescent pool) : pool.state.store.Accounted := by
  intro userId
  have hmeasure : pool.state.store.balance userId =
      m.store.balance userId + ∑ i, tally (change userId) (pool.past i) :=
    hpool.measure_eq (T := terms) (L := fun _ => Charged) (G := fun _ => Promise)
      (Q := fun _ _ past _ => Owes 0 past) ⟨hlimits, fun _ => serve_sound⟩ (fun _ _ _ _ h => h)
      (fun _ _ _ _ hi hA hG => handle_terms hi hA hG) terms_of_shifts
      (fun s => s.store.balance userId) (change userId)
      (fun s s' h => by rw [show s'.store = s.store from h.1])
      fun _ _ s c _ _ _ => (add_sub_cancel (s.store.balance userId) _).symm
  have hsum : ∑ i, tally (change userId) (pool.past i) = 0 := by
    refine Finset.sum_eq_zero fun i _ => ?_
    obtain ⟨r, howes⟩ := (allSound_of_run hlimits hpool).of_next? (hquiet i)
    exact howes userId
  have hstart : m.store.balance userId = 0 := sub_eq_zero.mpr (haccounted userId)
  rw [hsum, hstart] at hmeasure
  exact sub_eq_zero.mp hmeasure

end Runs

/-- **Quotas account for what is stored** once no call is in progress, and keep their limits, where
files are deleted once, writes are charged, and a charge finds what the check has found. -/
theorem quotas_accounted (service : StorageService) {ι : Type*} [Fintype ι] [DecidableEq ι]
    (requests : ι → Request) (m : Clocked StorageStore) (haccounted : m.store.Accounted)
    (hlimits : m.store.WithinLimits) (pool : StoragePool ι)
    (hpool : StorageRun (fun _ => Charged) (StoragePool.start service requests m) pool) :
    QuotasKept pool :=
  ⟨accounted_of_run haccounted hlimits hpool, (allSound_of_run hlimits hpool).1⟩

/-! ### Two deletions -/

def texts : StorageService where
  allowedTypes := ["text/plain".toList]
  guessType _ := some "text/plain".toList

def note : StoredFile :=
  { userId := ['u'], fileName := ['n'], fileSize := 5, contentType := "text/plain".toList
    objectName := ['o'] }

def oneFile : Clocked StorageStore where
  store :=
    { files := Keyed.empty.insert ['f'] note
      quotas := fun userId => if userId = ['u'] then
        some { defaultQuota with usedBytes := 5, fileCount := 1 } else none
      shares := fun _ => none }
  clock := 0
  link := .up

theorem accounted_oneFile : oneFile.store.Accounted := by
  intro userId
  have hstored : oneFile.store.stored userId = 0 + note.counted userId :=
    Keyed.sumBy_insert rfl note (StoredFile.counted userId)
  rw [hstored, StoredFile.counted]
  change (if userId = ['u'] then _ else none : Option StorageQuota).elim 0 _ = _
  by_cases h : userId = ['u']
  · rw [if_pos h, if_pos ⟨h.symm, nofun⟩]
    rfl
  · rw [if_neg h, if_neg fun hnote => h hnote.1.symm]
    rfl

theorem limits_oneFile : oneFile.store.WithinLimits := by
  intro userId quota hquota
  change quota ∈ (if userId = ['u'] then _ else none : Option StorageQuota) at hquota
  split at hquota
  · obtain rfl := some.inj hquota
    decide
  · cases hquota

def deletions (_ : Fin 2) : Request := .delete ['f'] ['u'] false

def deletedTwice : StoragePool (Fin 2) :=
  (StoragePool.start texts deletions oneFile).schedule handle [0, 1, 0, 0, 0, 1, 1, 1]

theorem quiescent_deletedTwice : Quiescent deletedTwice
  | 0 => rfl
  | 1 => rfl

/-- The quota is credited twice. -/
theorem not_quotas_accounted : StorageRun (fun _ _ _ _ => True)
    (StoragePool.start texts deletions oneFile) deletedTwice ∧ ¬QuotasKept deletedTwice := by
  refine ⟨Pool.Reach.start.schedule (Pool.permitted_anyCall _ _ _), fun h => ?_⟩
  have haccounted := h.accounted quiescent_deletedTwice ['u']
  exact absurd haccounted (by decide +kernel)

def exchange : Fin 2 → Request
  | 0 => .upload { userId := ['u'], fileName := ['n'], size := 7, contentType := none
                   fileId := ['g'], objectName := ['p'] }
  | 1 => .delete ['f'] ['u'] false

def exchanged : StoragePool (Fin 2) :=
  (StoragePool.start texts exchange oneFile).schedule handle
    [0, 0, 0, 0, 1, 1, 1, 1, 0, 0, 0, 0]

theorem quotas_accounted_exchanged : QuotasKept exchanged :=
  quotas_accounted texts exchange oneFile accounted_oneFile limits_oneFile exchanged
    (Pool.Reach.start.schedule (by decide +kernel))

end IsaUser.Storage
