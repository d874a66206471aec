import IsaUser.Storage.Quotas

/-!
# File Shares

A share has a token, a password, an expiry, permissions and a limit. What comes with a request is
compared with the password and the limit alone; a download is counted after the limit has been
checked.
-/

open IsaUser.Prog List Option Function

namespace IsaUser.Storage

open StorageStore

/-! ### The law -/

section Law

variable {ι : Type*} (requests : ι → Request) (pool : StoragePool ι)

def Shown (i : ι) (shareId : PyStr) (accessToken password url : Option PyStr) : Prop :=
  requests i = .getShared shareId accessToken password ∧
    ∃ fileId file, pool.progs i = .ret (.file fileId file url)

def Opened (shareId : PyStr) (P : FileShare → Timestamp → Prop) (past : StoragePast) : Prop :=
  ∃ e ∈ past, e.2 = .call (.selectShare shareId) ∧
    ∃ share, shareAt shareId e.1 = some share ∧ P share e.1.clock

def Passworded : Prop :=
  ∀ i shareId accessToken password url, Shown requests pool i shareId accessToken password url →
    Opened shareId (fun share _ => share.isActive = true ∧
      ∀ p ∈ given share.password, password = some p) (pool.past i)

def Tokened : Prop :=
  ∀ i shareId accessToken password url, Shown requests pool i shareId accessToken password url →
    Opened shareId (fun share time => accessToken = some share.accessToken ∧
      ∀ t ∈ share.expiresAt, time ≤ t) (pool.past i)

def Granted : Prop :=
  ∀ i shareId accessToken password url,
    Shown requests pool i shareId accessToken password (some url) →
      ∃ j r, requests j = .share r ∧ r.shareId = shareId ∧
        (r.permissions.view = true ∨ r.permissions.download = true)

def Limited : Prop :=
  ∀ shareId, ∀ share ∈ pool.state.store.shares shareId, ∀ n ∈ share.maxDownloads,
    ∀ s : Finset ι, (∀ i ∈ s, ∃ accessToken password url,
      Shown requests pool i shareId accessToken password (some url)) → (s.card : ℤ) ≤ max n 0

/-! ### The condition -/

def shareBy (shareId : PyStr) : Clocked StorageStore × Timed Call → Option FileShare
  | (m, .call (.selectShare id)) => if id = shareId then shareAt shareId m else none
  | _ => none

def lastShare (shareId : PyStr) (past : StoragePast) : Option FileShare :=
  past.findSome? (shareBy shareId)

def Request.Plain : Request → Prop
  | share r => (r.permissions.view = true ∨ r.permissions.download = true ∨
      r.permissions.delete = true) ∧
      ∀ n ∈ r.maxDownloads, r.permissions.view = true ∨ r.permissions.download = true →
        n ≠ 0 ∧ r.permissions.download = true
  | _ => True

instance : DecidablePred Request.Plain
  | .share r => inferInstanceAs (Decidable ((r.permissions.view = true ∨
      r.permissions.download = true ∨ r.permissions.delete = true) ∧
      ∀ n ∈ r.maxDownloads, r.permissions.view = true ∨ r.permissions.download = true →
        n ≠ 0 ∧ r.permissions.download = true))
  | .upload _ | .delete .. | .getShared .. => .isTrue trivial

def Honest (request : Request) (past : StoragePast) (m : Clocked StorageStore) :
    Timed Call → Prop
  | .call (.selectShare shareId) =>
    match request with
    | .getShared _ accessToken _ => ∀ share ∈ shareAt shareId m,
        accessToken = some share.accessToken ∧ ∀ t ∈ share.expiresAt, m.clock ≤ t
    | _ => True
  | .call (.incrementShareDownload shareId) => ∀ share ∈ m.store.shares shareId,
      share.maxDownloads.isSome = true → m.link ≠ .down ∧
        ∀ read ∈ lastShare shareId past, share.downloadCount = read.downloadCount
  | _ => True

instance (request : Request) (past : StoragePast) (m : Clocked StorageStore) :
    DecidablePred (Honest request past m)
  | .call (.selectShare shareId) => by
    cases request with
    | getShared id accessToken password =>
      exact inferInstanceAs (Decidable (∀ share ∈ shareAt shareId m,
        accessToken = some share.accessToken ∧ ∀ t ∈ share.expiresAt, m.clock ≤ t))
    | _ => exact .isTrue trivial
  | .call (.incrementShareDownload shareId) => inferInstanceAs (Decidable
      (∀ share ∈ m.store.shares shareId, share.maxDownloads.isSome = true → m.link ≠ .down ∧
        ∀ read ∈ lastShare shareId past, share.downloadCount = read.downloadCount))
  | .now | .call .ensureBucket | .call (.uploadObject _) | .call (.getPresignedUrl _)
  | .call (.deleteObject _) | .call (.insertFile ..) | .call (.selectFile ..)
  | .call (.deleteFile ..) | .call (.selectQuota _) | .call (.insertQuota ..)
  | .call (.updateUsage ..) | .call (.insertShare ..) => .isTrue trivial

end Law

/-! ### What a call changes -/

section Calls

variable {ι : Type*} {requests : ι → Request} {request : Request} {past : StoragePast}
  {m m' : Clocked StorageStore} {shareId : PyStr} {c : Timed Call}

def FileShare.settings (share : FileShare) : FileShare := { share with downloadCount := 0 }

def SharesStay (s s' : StorageStore) : Prop :=
  ∀ shareId, ∀ share ∈ s.shares shareId, ∃ share' ∈ s'.shares shareId,
    share'.settings = share.settings

theorem SharesStay.refl (s : StorageStore) : SharesStay s s := fun _ share h => ⟨share, h, rfl⟩

theorem SharesStay.trans {s₁ s₂ s₃ : StorageStore} (h : SharesStay s₁ s₂)
    (h' : SharesStay s₂ s₃) : SharesStay s₁ s₃ := by
  intro shareId share hshare
  obtain ⟨share₂, hshare₂, hsettings₂⟩ := h shareId share hshare
  obtain ⟨share₃, hshare₃, hsettings₃⟩ := h' shareId share₂ hshare₂
  exact ⟨share₃, hshare₃, hsettings₃.trans hsettings₂⟩

def shareTerms (P : StorageStore → Prop) : Terms (Clocked StorageStore) :=
  Clocked.terms { inv := P, rel := SharesStay, rel_refl := .refl, rel_trans := .trans }

def Unshared : Timed Call → Prop
  | .call (.insertShare ..) => False
  | .call (.incrementShareDownload _) => False
  | _ => True

theorem unshared_handle (hc : Unshared c) : (handle c m).2.store.shares = m.store.shares := by
  cases c with
  | now => rfl
  | call c =>
    rw [handle_store]
    split
    · rfl
    · cases c with
      | insertShare shareId share => exact hc.elim
      | incrementShareDownload shareId => exact hc.elim
      | insertFile fileId file =>
        rw [execute]
        split <;> rfl
      | insertQuota userId quota =>
        rw [execute]
        split <;> rfl
      | _ => rfl

theorem shares_stay (c : Timed Call) : SharesStay m.store (handle c m).2.store := by
  by_cases hc : Unshared c
  · intro shareId share hshare
    rw [unshared_handle hc]
    exact ⟨share, hshare, rfl⟩
  · cases c with
    | now => exact absurd trivial hc
    | call c =>
      rw [handle_store]
      split
      · exact .refl _
      · cases c with
        | insertShare id share =>
          rw [execute]
          split
          · exact .refl _
          · next hnew =>
              intro shareId share' hshare'
              have hne : shareId ≠ id := by
                rintro rfl
                exact hnew (by rw [hshare']; rfl)
              exact ⟨share', (update_of_ne hne ..).trans hshare', rfl⟩
        | incrementShareDownload id =>
          intro shareId share hshare
          rcases eq_or_ne shareId id with rfl | hne
          · refine ⟨share.count, (update_self ..).trans ?_, rfl⟩
            rw [show m.store.shares shareId = some share from hshare]
            rfl
          · exact ⟨share, (update_of_ne hne ..).trans hshare, rfl⟩
        | _ => exact absurd trivial hc

def CountsFor (request : Request) (past : StoragePast) (m : Clocked StorageStore) :
    Timed Call → Prop
  | .call (.insertShare shareId share) =>
    ∃ r time, request = .share r ∧ r.shareId = shareId ∧ share = r.share time
  | .call (.incrementShareDownload shareId) => ∃ read, lastShare shareId past = some read ∧
      ¬read.Exhausted ∧ read.permitted.download = true ∧
        ∃ share ∈ m.store.shares shareId, share.settings = read.settings
  | _ => True

def MadeBy (requests : ι → Request) (shareId : PyStr) (share : FileShare) : Prop :=
  ∃ i r time, requests i = .share r ∧ r.shareId = shareId ∧ share.settings = r.share time

def SharesKept (requests : ι → Request) (s : StorageStore) : Prop :=
  ∀ shareId, ∀ share ∈ s.shares shareId, MadeBy requests shareId share ∧
    0 ≤ share.downloadCount ∧ ∀ n ∈ share.maxDownloads, share.downloadCount ≤ max n 0

theorem permitted_download {share : FileShare} {r : ShareRequest} {time : Timestamp}
    (h : share.settings = r.share time) : share.permitted.download = r.permissions.download := by
  have hpermissions : share.permissions = r.permissions.array := congrArg FileShare.permissions h
  rw [FileShare.permitted, hpermissions]
  obtain ⟨view, download, delete⟩ := r.permissions
  cases view <;> cases download <;> cases delete <;> rfl

theorem permitted_view {share : FileShare} {r : ShareRequest} {time : Timestamp}
    (h : share.settings = r.share time) (hgranted : r.permissions.view = true ∨
      r.permissions.download = true ∨ r.permissions.delete = true) :
    share.permitted.view = r.permissions.view := by
  have hpermissions : share.permissions = r.permissions.array := congrArg FileShare.permissions h
  rw [FileShare.permitted, hpermissions]
  generalize r.permissions = granted at hgranted ⊢
  obtain ⟨view, download, delete⟩ := granted
  cases view <;> cases download <;> cases delete <;> first | rfl | simp at hgranted

theorem count_within {share read : FileShare} (hplain : ∀ i, (requests i).Plain)
    (hmade : MadeBy requests shareId share) (hsettings : share.settings = read.settings)
    (hdownload : read.permitted.download = true) (hroom : ¬read.Exhausted)
    (hcount : share.maxDownloads.isSome = true → share.downloadCount = read.downloadCount) :
    ∀ n ∈ share.maxDownloads, share.count.downloadCount ≤ max n 0 := by
  intro n hn
  obtain ⟨i, r, time, hi, -, hshare⟩ := hmade
  have hmax : share.maxDownloads = r.maxDownloads := congrArg FileShare.maxDownloads hshare
  have hread : read.maxDownloads = share.maxDownloads :=
    (congrArg FileShare.maxDownloads hsettings).symm
  have hgranted : r.permissions.download = true := by
    rw [← permitted_download (hsettings.symm.trans hshare)]
    exact hdownload
  have hrequest := hplain i
  rw [hi] at hrequest
  have hn' : n ∈ r.maxDownloads := by rwa [← hmax]
  obtain ⟨hzero, -⟩ := hrequest.2 n hn' (.inr hgranted)
  have hsame := hcount (by rw [show share.maxDownloads = some n from hn]; rfl)
  have hless : ¬n ≤ read.downloadCount := fun hle =>
    hroom ⟨n, by rwa [hread], hzero, hle⟩
  change share.downloadCount + 1 ≤ max n 0
  omega

theorem handle_kept {i : ι} (hplain : ∀ i, (requests i).Plain)
    (hi : SharesKept requests m.store) (hhonest : Honest (requests i) past m c)
    (hc : CountsFor (requests i) past m c) : SharesKept requests (handle c m).2.store := by
  by_cases hunshared : Unshared c
  · intro shareId share hshare
    rw [unshared_handle hunshared] at hshare
    exact hi shareId share hshare
  · cases c with
    | now => exact absurd trivial hunshared
    | call c =>
      rw [handle_store]
      split
      · exact hi
      · cases c with
        | insertShare id share =>
          obtain ⟨r, time, hrequest, hid, rfl⟩ := hc
          rw [execute]
          split
          · exact hi
          · intro shareId share' hshare'
            rcases eq_or_ne shareId id with rfl | hne
            · rw [m.store.shares_setShare] at hshare'
              obtain rfl := some.inj hshare'
              exact ⟨⟨i, r, time, hrequest, hid, rfl⟩, le_rfl, fun n _ => le_max_right n 0⟩
            · rw [m.store.shares_setShare_of_ne _ hne] at hshare'
              exact hi shareId share' hshare'
        | incrementShareDownload id =>
          obtain ⟨read, hread, hroom, hdownload, share, hshare, hsettings⟩ := hc
          intro shareId share' hshare'
          rw [execute] at hshare'
          rcases eq_or_ne shareId id with rfl | hne
          · rw [m.store.shares_setShare, show m.store.shares shareId = some share from hshare]
              at hshare'
            obtain rfl := some.inj hshare'
            obtain ⟨hmade, hcount, -⟩ := hi shareId share hshare
            refine ⟨hmade, ?_, count_within hplain hmade hsettings hdownload hroom
              fun hlimited => (hhonest share hshare hlimited).2 read hread⟩
            change 0 ≤ share.downloadCount + 1
            omega
          · rw [m.store.shares_setShare_of_ne _ hne] at hshare'
            exact hi shareId share' hshare'
        | _ => exact absurd trivial hunshared

/-! ### Counting -/

def StorageStore.downloads (s : StorageStore) (shareId : PyStr) : ℤ :=
  (s.shares shareId).elim 0 FileShare.downloadCount

def counted (shareId : PyStr) (e : Clocked StorageStore × Timed Call) : ℤ :=
  (handle e.2 e.1).2.store.downloads shareId - e.1.store.downloads shareId

theorem counted_increment {share : FileShare} (hlink : m.link ≠ .down)
    (hshare : share ∈ m.store.shares shareId) :
    counted shareId (m, .call (.incrementShareDownload shareId)) = 1 := by
  rw [counted, handle_store, if_neg hlink]
  have hafter : (execute (.incrementShareDownload shareId) m.store).2.shares shareId =
      some share.count := by
    refine (update_self ..).trans ?_
    rw [show m.store.shares shareId = some share from hshare]
    rfl
  rw [downloads, downloads, hafter,
    show m.store.shares shareId = some share from hshare]
  exact add_sub_cancel_left share.downloadCount 1

theorem counted_nonneg (hc : CountsFor request past m c) : 0 ≤ counted shareId (m, c) := by
  rw [counted]
  by_cases hunshared : Unshared c
  · rw [downloads, unshared_handle hunshared]
    exact (sub_self _).ge
  · cases c with
    | now => exact absurd trivial hunshared
    | call c =>
      rw [handle_store]
      split
      · exact (sub_self _).ge
      · cases c with
        | insertShare id share =>
          obtain ⟨r, time, -, -, rfl⟩ := hc
          rw [execute]
          split
          · exact (sub_self _).ge
          · next hnew =>
              rw [downloads, downloads, setShare]
              dsimp only
              rcases eq_or_ne shareId id with rfl | hne
              · rw [update_self, not_isSome_iff_eq_none.mp hnew]
                exact le_rfl
              · rw [update_of_ne hne]
                exact (sub_self _).ge
        | incrementShareDownload id =>
          rw [execute, downloads, downloads, setShare]
          dsimp only
          rcases eq_or_ne shareId id with rfl | hne
          · rw [update_self]
            cases m.store.shares shareId with
            | none => exact le_rfl
            | some share =>
              change 0 ≤ share.downloadCount + 1 - share.downloadCount
              omega
          · rw [update_of_ne hne]
            exact (sub_self _).ge
        | _ => exact absurd trivial hunshared

end Calls

/-! ### The programs -/

section Programs

variable {service : StorageService} {request : Request} {past : StoragePast}
  {m m' : Clocked StorageStore} {shareId : PyStr} {password : Option PyStr} {share : FileShare}
  {P : StorageStore → Prop} {A : StoragePast → Clocked StorageStore → Timed Call → Prop} {α : Type}
  {userId : PyStr}

/-- A program under interference, which ends as `Q` says. -/
abbrev ShareSound (P : StorageStore → Prop)
    (A : StoragePast → Clocked StorageStore → Timed Call → Prop) (request : Request)
    (Q : Except StorageError α → StoragePast → Clocked StorageStore → Prop) (p : StorageM α) :
    StoragePast → Clocked StorageStore → Prop :=
  p.Sound (shareTerms P) handle A (CountsFor request) Q

def Stands (shareId : PyStr) (share : FileShare) (m : Clocked StorageStore) : Prop :=
  ∃ share' ∈ m.store.shares shareId, share'.settings = share.settings

theorem Stands.later (h : Stands shareId share m) (hm' : SharesStay m.store m'.store) :
    Stands shareId share m' := by
  obtain ⟨share₁, hshare₁, hsettings₁⟩ := h
  obtain ⟨share₂, hshare₂, hsettings₂⟩ := hm' shareId share₁ hshare₁
  exact ⟨share₂, hshare₂, hsettings₂.trans hsettings₁⟩

def CountedUnder (A : StoragePast → Clocked StorageStore → Timed Call → Prop) (shareId : PyStr)
    (share : FileShare) (past : StoragePast) : Prop :=
  ∃ past' m', (m', .call (.incrementShareDownload shareId)) ∈ past ∧
    A past' m' (.call (.incrementShareDownload shareId)) ∧ Stands shareId share m'

structure Displayed (A : StoragePast → Clocked StorageStore → Timed Call → Prop)
    (shareId : PyStr) (password : Option PyStr) (share : FileShare) (past : StoragePast)
    (m : Clocked StorageStore) : Prop where
  read : ∃ past' m', (m', .call (.selectShare shareId)) ∈ past ∧
    A past' m' (.call (.selectShare shareId)) ∧ shareAt shareId m' = some share
  checked : ∀ p ∈ given share.password, password = some p
  stands : Stands shareId share m

def Served (A : StoragePast → Clocked StorageStore → Timed Call → Prop) (shareId : PyStr)
    (password : Option PyStr) (share : FileShare) (past : StoragePast) (m : Clocked StorageStore) :
    Prop :=
  Displayed A shareId password share past m ∧
    (share.permitted.download = true → CountedUnder A shareId share past)

theorem Displayed.later (h : Displayed A shareId password share past m)
    (hm' : SharesStay m.store m'.store) : Displayed A shareId password share past m' :=
  { h with stands := h.stands.later hm' }

theorem Displayed.cons (h : Displayed A shareId password share past m)
    (e : Clocked StorageStore × Timed Call) :
    Displayed A shareId password share (e :: past) m := by
  obtain ⟨past', m', hmem, hread⟩ := h.read
  exact { h with read := ⟨past', m', mem_cons_of_mem _ hmem, hread⟩ }

theorem Served.later (h : Served A shareId password share past m)
    (hm' : SharesStay m.store m'.store) : Served A shareId password share past m' :=
  ⟨h.1.later hm', h.2⟩

theorem Served.cons (h : Served A shareId password share past m)
    (e : Clocked StorageStore × Timed Call) : Served A shareId password share (e :: past) m := by
  refine ⟨h.1.cons e, fun hdownload => ?_⟩
  obtain ⟨past', m', hmem, hcount⟩ := h.2 hdownload
  exact ⟨past', m', mem_cons_of_mem _ hmem, hcount⟩

theorem countsFor_unshared {c : Timed Call} (hc : Unshared c) : CountsFor request past m c := by
  cases c with
  | now => trivial
  | call c => cases c with
    | insertShare id share => exact hc.elim
    | incrementShareDownload id => exact hc.elim
    | _ => trivial

theorem served_sound {p : StorageM α} (hp : p.Only Unshared)
    (h : Served A shareId password share past m) :
    ShareSound P A request (fun _ past m => Served A shareId password share past m) p past m :=
  hp.sound_state h (fun _ _ _ hm' h => h.later hm') fun c hc _ m _ h =>
    ⟨countsFor_unshared hc, (h.later (shares_stay c)).cons (m, c)⟩

theorem countDownload_sound (hlast : lastShare shareId past = some share)
    (hroom : ¬share.Exhausted) (h : Displayed A shareId password share past m) :
    ShareSound P A request (fun _ past m => Served A shareId password share past m)
      (countDownload shareId share.permitted) past m := by
  rw [countDownload]
  cases hdownload : share.permitted.download with
  | false =>
    refine fun m' hm' _ => ⟨h.later hm', fun htrue => ?_⟩
    cases hdownload.symm.trans htrue
  | true =>
    refine Sound.bind (Q := fun _ past m => Served A shareId password share past m) ?_
      (fun _ _ _ h m' hm' _ => h.later hm') fun _ _ _ h => h
    refine Sound.tryCatch (Q := fun _ past m => Served A shareId password share past m) ?_
      (fun _ _ _ h => h) fun _ _ _ h m' hm' _ => h.later hm'
    refine Sound.bind (Q := fun _ past m => Served A shareId password share past m) ?_
      (fun _ _ _ h m' hm' _ => h.later hm') fun _ _ _ h => h
    refine sound_ask fun m₁ hm₁ _ => ⟨⟨share, hlast, hroom, hdownload, h.stands.later hm₁⟩,
      fun hA m₂ hm₂ _ => ?_⟩
    have hlater := ((h.later hm₁).later (shares_stay _)).later hm₂
    exact ⟨hlater.cons _, fun _ => ⟨past, m₁, mem_cons_self, hA, h.stands.later hm₁⟩⟩

theorem display_sound {file : StoredFile} (hlast : lastShare shareId past = some share)
    (hroom : ¬share.Exhausted) (h : Displayed A shareId password share past m) :
    ShareSound P A request (fun r past m => ∀ fileId file url,
      r = .ok (Response.file fileId file url) → Served A shareId password share past m ∧
        (url ≠ none →
        share.permitted.view = true ∨ share.permitted.download = true))
      (do
        countDownload shareId share.permitted
        let url ← sharedUrl file share.permitted
        return Response.file share.fileId file url) past m := by
  refine Sound.bind (countDownload_sound hlast hroom h) ?_ fun _ _ _ _ _ _ _ h => by cases h
  intro _ past m h
  refine Sound.bind (Q := fun r past m => Served A shareId password share past m ∧
    ∀ url, r = .ok (some url) → share.permitted.view = true ∨ share.permitted.download = true) ?_
    ?_ fun _ _ _ _ _ _ _ h => by cases h
  · rw [sharedUrl]
    split
    · next hpermitted =>
        refine (served_sound ?_ h).mono fun _ _ _ h => ⟨h, fun _ _ => hpermitted⟩
        exact Only.tryCatch (Only.bind
          (only_query (I := StorageApi.timed) trivial) fun _ => trivial) fun _ => trivial
    · exact fun m' hm' _ => ⟨h.later hm', fun _ h => by cases h⟩
  · rintro url past m ⟨h, hurl⟩ m' hm' - _ _ _ ⟨⟩
    refine ⟨h.later hm', fun hne => ?_⟩
    obtain ⟨u, rfl⟩ := ne_none_iff_exists'.mp hne
    exact hurl u rfl

theorem getSharedFile_sound {accessToken : Option PyStr} :
    ShareSound P A request (fun r past m => ∀ fileId file url, r = .ok (.file fileId file url) →
      ∃ share, Served A shareId password share past m ∧ (url ≠ none →
        share.permitted.view = true ∨ share.permitted.download = true))
      (getSharedFile shareId accessToken password) past m := by
  refine sound_getFileShare (fun _ _ _ _ _ _ _ => nofun) fun m₁ _ _ => ⟨trivial, fun hA => ?_⟩
  cases hread : shareAt shareId m₁ with
  | none => exact fun _ _ _ _ _ _ => nofun
  | some share =>
    have hstands : Stands shareId share m₁ := by
      rw [shareAt] at hread
      split at hread
      · exact ⟨share, (filter_eq_some_iff.mp hread).1, rfl⟩
      · cases hread
    dsimp only
    split
    · exact fun _ _ _ _ _ _ => nofun
    · next hpassword =>
        have hchecked : ∀ p ∈ given share.password, password = some p := by
          intro p hp
          have hgiven : (given share.password).isSome = true := by
            rw [show given share.password = some p from hp]
            rfl
          have hsame := not_not.mp fun hne => hpassword ⟨hgiven, hne⟩
          rw [← hsame]
          exact (filter_eq_some_iff.mp hp).1
        split
        · exact fun _ _ _ _ _ _ => nofun
        · next hroom =>
            refine sound_getFileById fun m₂ hm₂ _ => ⟨trivial, fun _ => ?_⟩
            cases fileAt share.fileId none m₂ with
            | none => exact fun _ _ _ _ _ _ => nofun
            | some file =>
              have hlast : lastShare shareId ((m₂, .call (.selectFile share.fileId none)) ::
                  (m₁, .call (.selectShare shareId)) :: past) = some share := by
                have hfile : shareBy shareId (m₂, .call (.selectFile share.fileId none)) =
                  none := rfl
                rw [lastShare, findSome?_cons, hfile]
                rw [findSome?_cons, shareBy, if_pos rfl, hread]
              have hdisplayed : Displayed A shareId password share
                  ((m₂, .call (.selectFile share.fileId none)) ::
                    (m₁, .call (.selectShare shareId)) :: past) m₂ :=
                ⟨⟨past, m₁, mem_cons_of_mem _ mem_cons_self, hA, hread⟩, hchecked,
                  hstands.later hm₂⟩
              exact (display_sound hlast hroom hdisplayed).mono
                fun r past m h fileId file url hr => ⟨share, h fileId file url hr⟩

theorem getFileById_unshared {fileId : PyStr} {userId : Option PyStr} :
    (getFileById fileId userId).Only Unshared :=
  (only_query (I := StorageApi.timed) trivial).tryCatch fun _ => trivial

theorem getStorageQuota_unshared : (getStorageQuota userId).Only Unshared :=
  (only_query (I := StorageApi.timed) trivial).tryCatch fun _ => trivial

theorem updateStorageUsage_unshared {bytes count : ℤ} :
    (updateStorageUsage userId bytes count).Only Unshared := by
  refine Only.bind getStorageQuota_unshared fun existing => Only.bind ?_ fun _ =>
    Only.bind (only_query (I := StorageApi.timed) trivial) fun _ => trivial
  cases existing with
  | some quota => trivial
  | none =>
    refine Only.bind (Only.bind (only_query (I := StorageApi.timed) trivial)
      fun n => ?_) fun _ => trivial
    split
    · exact getStorageQuota_unshared
    · trivial

theorem storeFile_unshared {u : Upload} {contentType : PyStr} :
    (storeFile u contentType).Only Unshared := by
  refine Only.bind (only_query (I := StorageApi.timed) trivial) fun _ =>
    Only.bind (only_query (I := StorageApi.timed) trivial) fun _ =>
      Only.bind (Only.bind (only_query (I := StorageApi.timed) trivial) fun n => ?_)
        fun _ => Only.bind updateStorageUsage_unshared fun _ => trivial
  split
  · exact getFileById_unshared
  · trivial

theorem uploadFile_unshared {u : Upload} : (uploadFile service u).Only Unshared := by
  refine Only.bind (only_query (I := StorageApi.timed) trivial) fun _ => ?_
  split
  · trivial
  · split
    · trivial
    · split
      · trivial
      · refine Only.bind (Only.bind getStorageQuota_unshared fun quota => ?_)
          fun quotaOk => ?_
        · cases quota <;> trivial
        · split
          · exact storeFile_unshared
          · trivial

theorem deleteFile_unshared {fileId : PyStr} {permanent : Bool} :
    (deleteFile fileId userId permanent).Only Unshared := by
  refine Only.bind getFileById_unshared fun file => ?_
  cases file with
  | none => trivial
  | some file =>
    refine Only.bind ?_ fun _ => Only.bind (Only.bind
      (only_query (I := StorageApi.timed) trivial) fun _ => trivial) fun success => ?_
    · cases permanent with
      | false => trivial
      | true => exact (only_query (I := StorageApi.timed) trivial).tryCatch fun _ => trivial
    · rw [credit]
      split
      · exact Only.bind updateStorageUsage_unshared fun _ => trivial
      · trivial

theorem shareFile_only {r : ShareRequest} :
    (shareFile r).Only fun c => ∀ past m, CountsFor (.share r) past m c := by
  refine Only.bind (getFileById_unshared.mono fun _ h _ _ => countsFor_unshared h)
    fun file => ?_
  cases file with
  | none => trivial
  | some file =>
    refine Only.bind (only_query (I := StorageApi.timed) fun _ _ => trivial)
      fun time => ?_
    refine Only.bind (Only.bind (only_query (I := StorageApi.timed)
      fun _ _ => ⟨r, time, rfl, rfl, rfl⟩) fun n => ?_) fun share => ?_
    · split
      · by_cases h : r.shareId = []
        · have hnone : getFileShare r.shareId = .ret none := if_pos h
          rw [hnone]
          trivial
        · have hask : getFileShare r.shareId = (ask (.selectShare r.shareId) :
              StorageM (Option FileShare)).tryCatch fun _ => return none := if_neg h
          rw [hask]
          exact (only_query (I := StorageApi.timed) fun _ _ => trivial).tryCatch
            fun _ => trivial
      · trivial
    · cases share <;> trivial

def EndsServed (A : StoragePast → Clocked StorageStore → Timed Call → Prop) (request : Request)
    (r : Except StorageError Response) (past : StoragePast) (m : Clocked StorageStore) : Prop :=
  match request with
  | .getShared shareId _ password => ∀ fileId file url, r = .ok (.file fileId file url) →
      ∃ share, Served A shareId password share past m ∧ (url ≠ none →
        share.permitted.view = true ∨ share.permitted.download = true)
  | _ => True

theorem serve_shown :
    ShareSound P A request (EndsServed A request) (request.serve service) past m := by
  have hother : ∀ {p : StorageM Response}, (p.Only fun c => ∀ past m, CountsFor request past m c) →
      ShareSound P A request (fun _ _ _ => True) p past m := fun hp =>
    (hp.sound (K := fun _ => True) trivial fun c hc past s _ => ⟨hc past s, trivial⟩).mono
      fun _ _ _ _ => trivial
  refine Sound.tryCatch (Q := EndsServed A request) ?_ (fun _ _ _ h => h) ?_
  · cases request with
    | upload u =>
      exact (hother (uploadFile_unshared.mono fun _ h _ _ => countsFor_unshared h)).mono
        fun _ _ _ _ => trivial
    | delete fileId userId permanent =>
      exact (hother (deleteFile_unshared.mono fun _ h _ _ => countsFor_unshared h)).mono
        fun _ _ _ _ => trivial
    | share r => exact (hother shareFile_only).mono fun _ _ _ _ => trivial
    | getShared shareId accessToken password => exact getSharedFile_sound
  · intro e past m _ m' _ _
    cases request with
    | getShared shareId accessToken password => exact fun _ _ _ => nofun
    | _ => trivial

end Programs

/-! ### Runs -/

section Runs

variable {service : StorageService} {ι : Type*} [DecidableEq ι] {requests : ι → Request}
  {m : Clocked StorageStore} {pool : StoragePool ι}

theorem shareTerms_of_shifts {P : StorageStore → Prop} (m m' : Clocked StorageStore)
    (hi : (shareTerms P).inv m) (h : Clocked.Shifts m m') :
    (shareTerms P).inv m' ∧ (shareTerms P).rel m m' := by
  have hstore : m'.store = m.store := h.1
  change P m'.store ∧ SharesStay m.store m'.store
  rw [hstore]
  exact ⟨hi, .refl _⟩

theorem passworded_of_run (hpool : StorageRun (fun _ _ _ _ => True)
    (StoragePool.start service requests m) pool) : Passworded requests pool := by
  have hsound : Pool.AllSound (shareTerms fun _ => True) handle (fun _ _ _ _ => True)
      (fun i => CountsFor (requests i)) (fun i => EndsServed (fun _ _ _ => True) (requests i))
      pool :=
    hpool.sound ⟨trivial, fun _ => serve_shown⟩ (fun _ _ _ _ h => h)
      (fun _ _ _ c _ _ _ => ⟨trivial, shares_stay c⟩) shareTerms_of_shifts
  rintro i shareId accessToken password url ⟨hi, fileId, file, hr⟩
  have hends := hsound.of_ret hr
  rw [hi] at hends
  obtain ⟨share, ⟨hdisplayed, -⟩, -⟩ := hends fileId file url rfl
  obtain ⟨past', m', hmem, -, hread⟩ := hdisplayed.read
  refine ⟨_, hmem, rfl, share, hread, ?_, hdisplayed.checked⟩
  rw [shareAt] at hread
  split at hread
  · exact (filter_eq_some_iff.mp hread).2
  · cases hread

abbrev HonestRun (service : StorageService) (requests : ι → Request) (m : Clocked StorageStore) :
    StoragePool ι → Prop :=
  StorageRun (fun i => Honest (requests i)) (StoragePool.start service requests m)

omit [DecidableEq ι] in
theorem start_sound (hnone : ∀ shareId, m.store.shares shareId = none) :
    Pool.AllSound (shareTerms (SharesKept requests)) handle (fun i => Honest (requests i))
      (fun i => CountsFor (requests i)) (fun i => EndsServed (Honest (requests i)) (requests i))
      (StoragePool.start service requests m) := by
  refine ⟨fun shareId share hshare => ?_, fun i => serve_shown⟩
  cases (hnone shareId).symm.trans hshare

section Honest

variable (hplain : ∀ i, (requests i).Plain) (hnone : ∀ shareId, m.store.shares shareId = none)
  (hpool : HonestRun service requests m pool) {password : Option PyStr} {shareId : PyStr}

include hplain hnone hpool

theorem allSound_of_honest : Pool.AllSound (shareTerms (SharesKept requests)) handle
    (fun i => Honest (requests i)) (fun i => CountsFor (requests i))
    (fun i => EndsServed (Honest (requests i)) (requests i)) pool :=
  hpool.sound (start_sound hnone) (fun _ _ _ _ h => h)
    (fun _ _ _ c hi hA hG => ⟨handle_kept hplain hi hA hG, shares_stay c⟩) shareTerms_of_shifts

theorem served_of_honest {i : ι} {accessToken url : Option PyStr}
    (h : Shown requests pool i shareId accessToken password url) :
    ∃ share, Served (Honest (requests i)) shareId password share (pool.past i) pool.state ∧
      (url ≠ none → share.permitted.view = true ∨ share.permitted.download = true) := by
  obtain ⟨hi, fileId, file, hr⟩ := h
  have hends := (allSound_of_honest hplain hnone hpool).of_ret hr
  rw [hi] at hends ⊢
  exact hends fileId file url rfl

theorem tokened_of_honest : Tokened requests pool := by
  intro i shareId accessToken password url hshown
  obtain ⟨share, ⟨hdisplayed, -⟩, -⟩ := served_of_honest hplain hnone hpool hshown
  obtain ⟨past', m', hmem, hhonest, hread⟩ := hdisplayed.read
  refine ⟨_, hmem, rfl, share, hread, ?_⟩
  rw [hshown.1] at hhonest
  exact hhonest share hread

theorem made_of_served {i : ι} {share : FileShare}
    (h : Served (Honest (requests i)) shareId password share (pool.past i) pool.state) :
    ∃ j r time, requests j = .share r ∧ r.shareId = shareId ∧ share.settings = r.share time ∧
      share.permitted.view = r.permissions.view ∧
        share.permitted.download = r.permissions.download := by
  obtain ⟨share', hshare', hsettings⟩ := h.1.stands
  obtain ⟨⟨j, r, time, hj, hid, hmade⟩, -⟩ :=
    (allSound_of_honest hplain hnone hpool).1 shareId share' hshare'
  have hsame := hsettings.symm.trans hmade
  have hrequest := hplain j
  rw [hj] at hrequest
  exact ⟨j, r, time, hj, hid, hsame, permitted_view hsame hrequest.1, permitted_download hsame⟩

theorem granted_of_honest : Granted requests pool := by
  intro i shareId accessToken password url hshown
  obtain ⟨share, hserved, hurl⟩ := served_of_honest hplain hnone hpool hshown
  obtain ⟨j, r, time, hj, hid, -, hview, hdownload⟩ :=
    made_of_served hplain hnone hpool hserved
  refine ⟨j, r, hj, hid, ?_⟩
  rw [← hview, ← hdownload]
  exact hurl nofun

theorem counted_of_honest (shareId : PyStr) :
    ∀ i, ∀ e ∈ pool.past i, 0 ≤ counted shareId e :=
  hpool.invariant (start_sound hnone) (fun _ _ _ _ h => h)
    (fun _ _ _ c hi hA hG => ⟨handle_kept hplain hi hA hG, shares_stay c⟩) shareTerms_of_shifts
    (fun _ past => ∀ i, ∀ e ∈ past i, 0 ≤ counted shareId e)
    (fun _ _ he => absurd he not_mem_nil) (fun _ _ _ _ h => h)
    fun _ _ _ _ _ _ hG h => forall_mem_update h (counted_nonneg hG)

theorem one_le_counted {i : ι} {accessToken url : Option PyStr} {share : FileShare} {n : ℤ}
    (hshare : share ∈ pool.state.store.shares shareId) (hn : n ∈ share.maxDownloads)
    (hurl : url ≠ none) (hshown : Shown requests pool i shareId accessToken password url) :
    1 ≤ tally (counted shareId) (pool.past i) := by
  obtain ⟨read, hserved, hpermitted⟩ := served_of_honest hplain hnone hpool hshown
  obtain ⟨j, r, time, hj, hid, hmade, hview, hdownload⟩ :=
    made_of_served hplain hnone hpool hserved
  obtain ⟨share', hshare', hsettings⟩ := hserved.1.stands
  obtain rfl := mem_unique hshare hshare'
  have hlimit : ∀ share' : FileShare, share'.settings = read.settings →
      share'.maxDownloads = some n := fun share' h =>
    ((congrArg FileShare.maxDownloads h).trans
      (congrArg FileShare.maxDownloads hsettings).symm).trans hn
  have hrequest := hplain j
  rw [hj] at hrequest
  have hr : n ∈ r.maxDownloads := by
    rw [← show share.maxDownloads = r.maxDownloads from
      congrArg FileShare.maxDownloads (hsettings.trans hmade)]
    exact hn
  have hgranted : r.permissions.view = true ∨ r.permissions.download = true := by
    rw [← hview, ← hdownload]
    exact hpermitted hurl
  obtain ⟨past', m', hmem, hhonest, share₁, hshare₁, hsettings₁⟩ :=
    hserved.2 (hdownload.trans (hrequest.2 n hr hgranted).2)
  have hlink := (hhonest share₁ hshare₁ (by rw [hlimit share₁ hsettings₁]; rfl)).1
  have hone := counted_increment hlink hshare₁
  rw [← hone]
  exact single_le_sum (by
    intro x hx
    obtain ⟨e, he, rfl⟩ := mem_map.mp hx
    exact counted_of_honest hplain hnone hpool shareId i e he) _ (mem_map_of_mem hmem)

theorem limited_of_honest [Fintype ι] : Limited requests pool := by
  intro shareId share hshare n hn s hs
  have hsum : pool.state.store.downloads shareId =
      ∑ i, tally (counted shareId) (pool.past i) := by
    have hmeasure := hpool.measure_eq (start_sound hnone) (fun _ _ _ _ h => h)
      (fun _ _ _ c hi hA hG => ⟨handle_kept hplain hi hA hG, shares_stay c⟩) shareTerms_of_shifts
      (fun s => s.store.downloads shareId) (counted shareId)
      (fun s s' h => by rw [show s'.store = s.store from h.1])
      fun _ _ s c _ _ _ => (add_sub_cancel (s.store.downloads shareId) _).symm
    have hstart : m.store.downloads shareId = 0 := by
      rw [downloads, hnone shareId]
      rfl
    rw [hstart, zero_add] at hmeasure
    exact hmeasure
  have hdownloads : pool.state.store.downloads shareId = share.downloadCount := by
    rw [downloads, show pool.state.store.shares shareId = some share from hshare]
    rfl
  have hnonneg : ∀ i, 0 ≤ tally (counted shareId) (pool.past i) := fun i =>
    sum_nonneg fun x hx => by
      obtain ⟨e, he, rfl⟩ := mem_map.mp hx
      exact counted_of_honest hplain hnone hpool shareId i e he
  calc (s.card : ℤ) = ∑ i ∈ s, 1 := by simp
    _ ≤ ∑ i ∈ s, tally (counted shareId) (pool.past i) := by
        refine Finset.sum_le_sum fun i hi => ?_
        obtain ⟨accessToken, password, url, hshown⟩ := hs i hi
        exact one_le_counted hplain hnone hpool hshare hn (some_ne_none url) hshown
    _ ≤ ∑ i, tally (counted shareId) (pool.past i) :=
        Finset.sum_le_sum_of_subset_of_nonneg s.subset_univ fun i _ _ => hnonneg i
    _ = share.downloadCount := hsum.symm.trans hdownloads
    _ ≤ max n 0 := ((allSound_of_honest hplain hnone hpool).1 shareId share hshare).2.2 n hn

end Honest

end Runs

/-- **File shares keep their limits**: their passwords always, and all of them where the token is
right and in time, something is granted, and the downloads of a limited share are counted in
turn. -/
theorem shares_limited (service : StorageService) {ι : Type*} [Fintype ι] [DecidableEq ι]
    (requests : ι → Request) (m : Clocked StorageStore)
    (hnone : ∀ shareId, m.store.shares shareId = none) :
    (∀ pool, StorageRun (fun _ _ _ _ => True) (StoragePool.start service requests m) pool →
      Passworded requests pool) ∧
    ((∀ i, (requests i).Plain) → ∀ pool, HonestRun service requests m pool →
      Tokened requests pool ∧ Granted requests pool ∧ Limited requests pool) :=
  ⟨fun _ hpool => passworded_of_run hpool, fun hplain _ hpool =>
    ⟨tokened_of_honest hplain hnone hpool, granted_of_honest hplain hnone hpool,
      limited_of_honest hplain hnone hpool⟩⟩

/-! ### A share is opened -/

def oneDownload : ShareRequest where
  fileId := ['f']
  sharedBy := ['u']
  permissions := { view := false, download := true, delete := false }
  maxDownloads := some 1
  shareId := ['s']
  accessToken := ['t']

def openings (accessToken : PyStr) : Fin 3 → Request
  | 0 => .share oneDownload
  | _ => .getShared ['s'] (some accessToken) none

def opened (accessToken : PyStr) : StoragePool (Fin 3) :=
  (StoragePool.start texts (openings accessToken) oneFile).schedule handle
    [0, 0, 0, 0, 1, 1, 1, 1, 2, 2]

/-- A share is opened with another token. -/
theorem not_shares_limited : StorageRun (fun _ _ _ _ => True)
    (StoragePool.start texts (openings ['x']) oneFile) (opened ['x']) ∧
      ¬Tokened (openings ['x']) (opened ['x']) := by
  refine ⟨Pool.Reach.start.schedule (Pool.permitted_anyCall _ _ _), fun h => ?_⟩
  obtain ⟨e, he, -, share, hshare, htoken, -⟩ :=
    h 1 ['s'] (some ['x']) none (some ['o']) ⟨rfl, ['f'], note, rfl⟩
  have hother : ∀ e ∈ (opened ['x']).past 1, ∀ share ∈ shareAt ['s'] e.1,
      share.accessToken = ['t'] := by decide +kernel
  rw [hother e he share hshare] at htoken
  exact absurd htoken (by decide)

theorem shares_limited_opened : Tokened (openings ['t']) (opened ['t']) ∧
    Granted (openings ['t']) (opened ['t']) ∧ Limited (openings ['t']) (opened ['t']) :=
  (shares_limited texts (openings ['t']) oneFile fun _ => rfl).2 (by decide +kernel) _
    (Pool.Reach.start.schedule (by decide +kernel))

end IsaUser.Storage
