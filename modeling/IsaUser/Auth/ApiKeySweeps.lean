import IsaUser.Auth.ApiKeyRaces

/-!
# Sweeps of API Keys

`cleanup_expired_keys` goes through every row and removes the keys that have expired. It compares
each expiry with a time that has an offset, which raises for one that has none: the rows from there
on keep their keys, and what has been removed is not counted. The check of one key reads both forms.
-/

open IsaUser.Prog List Option Function

namespace IsaUser.Auth.ApiKeys

open KeyData JsonDict

variable (libraries : Libraries)

/-- The expiry is one that `isoformat` can have written, if there is one. -/
def Written (key : KeyData) : Prop :=
  ∀ value ∈ truthy? key "expires_at", ∃ s, value = .str s ∧ 'Z' ∉ s ∧
    (libraries.fromIsoFormat s).isSome

def Naive (key : KeyData) : Prop :=
  ∃ s time, truthy? key "expires_at" = some (.str s) ∧
    libraries.fromIsoFormat s = some (time, false)

def lapsed (m : Clocked ApiKeyStore) (key : KeyData) : Bool :=
  match ((hasExpired libraries key).run handle m).1 with
  | .ok expired => expired || (truthy? key "expires_at").any fun value =>
      parseDatetime libraries value = some m.clock
  | .error _ => false

def Every (m : Clocked ApiKeyStore) (P : KeyData → Prop) : Prop :=
  ∀ id, ∀ keys ∈ m.store.organizations id, ∀ key ∈ keys, P key

/-- The store answers, its rows are found once each, and their expiries have been written. -/
structure Sweepable (order : List PyStr) (m : Clocked ApiKeyStore) : Prop where
  up : m.link = .up
  once : order.Nodup
  all : ∀ id, (m.store.organizations id).isSome → id ∈ order
  written : Every m (Written libraries)

/-- The cleanup removes the keys that the check finds expired, and returns their number. -/
def SweepAgrees (order : List PyStr) (m : Clocked ApiKeyStore) : Prop :=
  let swept := (cleanupExpiredKeys libraries order).run handle m
  swept.1 = .ok ((order.filterMap m.store.organizations).map (countP (lapsed libraries m))).sum ∧
    ∀ id, swept.2.store.organizations id =
      (m.store.organizations id).map (filter fun key => !lapsed libraries m key)

variable {libraries} {key : KeyData} {keys keys' : List KeyData} {rows : List OrganizationRow}
  {m : Clocked ApiKeyStore}

/-! ### The rows -/

def due (libraries : Libraries) (time : Timestamp) (key : KeyData) : Bool :=
  decide (∃ t ∈ expires libraries key, t ≤ time)

theorem expiry_of_written (hwritten : Written libraries key) (hnaive : ¬Naive libraries key) :
    (∃ expiresAt, expiry libraries key = .ok expiresAt) ∧
      due libraries m.clock key = lapsed libraries m key := by
  cases htruthy : truthy? key "expires_at" with
  | none =>
    simp [due, expires, expiry, lapsed, hasExpired, htruthy]
  | some value =>
    obtain ⟨s, rfl, hoffset, hread⟩ := hwritten value htruthy
    obtain ⟨⟨t, aware⟩, ht⟩ := isSome_iff_exists.mp hread
    cases aware with
    | false => exact absurd ⟨s, t, htruthy, ht⟩ hnaive
    | true =>
      have hexpiry : expiry libraries key = .ok (some t) := by
        rw [expiry, htruthy]
        simp only [ht]
      have hparse : parseDatetime libraries (.str s) = some t := by
        have hs : (s.flatMap fun c => if c = 'Z' then "+00:00".toList else [c]) = s :=
          (flatMap_congr fun c hc => if_neg (ne_of_mem_of_not_mem hc hoffset)).trans
            (flatMap_singleton' s)
        rw [parseDatetime, hs, ht]
        rfl
      have hcheck : ((hasExpired libraries key).run handle m).1 = .ok (decide (t < m.clock)) := by
        rw [hasExpired, htruthy]
        simp only [hparse]
        rfl
      rw [due, expires, hexpiry, lapsed, hcheck, htruthy]
      simp [hparse, le_iff_lt_or_eq]

theorem expiry_of_naive (h : Naive libraries key) : expiry libraries key = .error .typeError := by
  obtain ⟨s, t, htruthy, hread⟩ := h
  rw [expiry, htruthy]
  simp only [hread]

structure Swept (libraries : Libraries) (rows : List OrganizationRow) (m : Clocked ApiKeyStore)
    (answer : Except ApiKeyError ℕ) (m' : Clocked ApiKeyStore) : Prop where
  kept : ∀ id, m'.store.organizations id = m.store.organizations id ∨
    m'.store.organizations id =
      (m.store.organizations id).map (filter fun key => !due libraries m.clock key)
  returned : ∀ count, answer = .ok count →
    (∀ row ∈ rows, ∀ key ∈ row.2, ∃ expiresAt, expiry libraries key = .ok expiresAt) ∧
      count = (rows.map fun row => row.2.countP (due libraries m.clock)).sum ∧
      ∀ row ∈ rows, m'.store.organizations row.1 =
        some (row.2.filter fun key => !due libraries m.clock key)
  raised : ∀ e, answer = .error e → ∃ row ∈ rows, ∃ key ∈ row.2,
    ∀ expiresAt, expiry libraries key ≠ .ok expiresAt

theorem Swept.cons {row : OrganizationRow} {m₁ m' : Clocked ApiKeyStore}
    {answer : Except ApiKeyError ℕ} (h : Swept libraries rows m₁ answer m')
    (hrow : m.store.organizations row.1 = some row.2) (hclock : m₁.clock = m.clock)
    (hall : ∀ key ∈ row.2, ∃ expiresAt, expiry libraries key = .ok expiresAt)
    (hkeys : keys = row.2.filter fun key => !due libraries m.clock key)
    (hkept : m₁.store.organizations = update m.store.organizations row.1 (some keys)) :
    Swept libraries (row :: rows) m
      (answer.map (row.2.countP (due libraries m.clock) + ·)) m' := by
  subst hkeys
  obtain ⟨hkept', hreturned, hraised⟩ := h
  rw [hclock] at hkept' hreturned
  have hself : m'.store.organizations row.1 =
      some (row.2.filter fun key => !due libraries m.clock key) := by
    have hrow' := hkept' row.1
    rw [hkept] at hrow'
    simpa using hrow'
  refine ⟨fun id => ?_, fun count hcount => ?_, fun e he => ?_⟩
  · by_cases hid : id = row.1
    · subst hid
      exact .inr (by rw [hself, hrow]; rfl)
    · simpa [hkept, update_of_ne hid] using hkept' id
  · cases answer with
    | error e => cases hcount
    | ok removed =>
      obtain ⟨hrest, rfl, hrows⟩ := hreturned removed rfl
      exact ⟨forall_mem_cons.mpr ⟨hall, hrest⟩, (Except.ok.inj hcount).symm,
        forall_mem_cons.mpr ⟨hself, hrows⟩⟩
  · cases answer with
    | ok removed => cases he
    | error e =>
      obtain ⟨row', hmem, hbad⟩ := hraised e rfl
      exact ⟨row', mem_cons_of_mem _ hmem, hbad⟩

theorem wp_updateKeys {α : Type} {id : PyStr} {f : ℕ → ApiKeyM α}
    {Q : Except ApiKeyError α → Clocked ApiKeyStore → Prop} (hup : m.link = .up)
    (hrow : m.store.organizations id = some keys)
    (hf : (f 1).wp handle Q { m with store := m.store.setKeys id keys' }) :
    (ask (.updateKeys id keys') >>= f).wp handle Q m := by
  have hcall : handle (.call (.updateKeys id keys')) m =
      (.ok (1 : ℕ), { m with store := m.store.setKeys id keys' }) := by
    rw [handle, Clocked.handle, hup, execute, hrow]
    rfl
  have hrun : (ask (.updateKeys id keys')).run handle m =
      (.ok (1 : ℕ), { m with store := m.store.setKeys id keys' }) := by
    rw [ask, Prog.ask, Prog.query, Prog.run_call, hcall]
    rfl
  have hended : (ask (.updateKeys id keys') >>= f).run handle m =
      (f 1).run handle { m with store := m.store.setKeys id keys' } := Prog.run_bind_of_ok hrun
  rw [Prog.wp, hended]
  exact hf

theorem cleanupRows_swept (hup : m.link = .up) (hnodup : (rows.map Prod.fst).Nodup)
    (hrows : ∀ row ∈ rows, m.store.organizations row.1 = some row.2) :
    (cleanupRows libraries rows).wp handle (Swept libraries rows m) m := by
  induction rows generalizing m with
  | nil =>
    exact ⟨fun _ => .inl rfl, fun count h => ⟨nofun, (Except.ok.inj h).symm, nofun⟩, nofun⟩
  | cons row rows ih =>
    obtain ⟨hnew, hnodup⟩ := nodup_cons.mp hnodup
    obtain ⟨hrow, hrows⟩ := forall_mem_cons.mp hrows
    refine Prog.wp_lift_bind (fun keys hkeys => ?_) fun e he => ?_
    · obtain ⟨hall, hkept⟩ := unexpired_eq_ok_iff.mp hkeys
      replace hkept := hkept.trans (filter_congr fun key _ => decide_not)
      change keys = row.2.filter fun key => !due libraries m.clock key at hkept
      have hcount : row.2.length = row.2.countP (due libraries m.clock) + keys.length := by
        rw [hkept, length_eq_countP_add_countP (due libraries m.clock), ← countP_eq_length_filter]
        simp
      split_ifs with hsame
      · refine Prog.wp_mono (ih hup hnodup hrows) fun answer m' h => ?_
        have hnone : row.2.countP (due libraries m.clock) = 0 := by omega
        have hself : keys = row.2 := by
          rw [hkept]
          simpa [countP_eq_zero] using hnone
        have hsaved : m.store.organizations =
            update m.store.organizations row.1 (some keys) := by
          rw [hself, ← hrow, Function.update_eq_self]
        have hcons := h.cons hrow rfl hall hkept hsaved
        rw [hnone] at hcons
        cases answer <;> simpa [Except.map] using hcons
      · refine wp_updateKeys hup hrow (Prog.wp_bind.mpr ?_)
        have hrest := ih (m := { m with store := m.store.setKeys row.1 keys }) hup hnodup
          fun row' hrow' => by
            rw [← hrows row' hrow']
            exact update_of_ne (ne_of_mem_of_not_mem (mem_map_of_mem hrow') hnew) _ _
        refine Prog.wp_mono hrest fun answer m' h => ?_
        have hcons := h.cons hrow rfl hall hkept rfl
        have hremoved : row.2.length - keys.length = row.2.countP (due libraries m.clock) := by
          omega
        cases answer with
        | error e => exact hcons
        | ok removed =>
          rw [hremoved]
          exact hcons
    · refine ⟨fun _ => .inl rfl, nofun, fun _ _ => ?_⟩
      by_contra hnone
      push Not at hnone
      have hok : unexpired libraries m.clock row.2 = .ok _ :=
        unexpired_eq_ok_iff.mpr ⟨hnone row mem_cons_self, rfl⟩
      cases he.symm.trans hok

/-! ### The cleanup -/

theorem cleanupExpiredKeys_swept {order : List PyStr} (h : Sweepable libraries order m) :
    ∃ rows answer, (∀ row, row ∈ rows ↔ m.store.organizations row.1 = some row.2) ∧
      rows.map Prod.snd = order.filterMap m.store.organizations ∧
      Swept libraries rows m answer ((cleanupExpiredKeys libraries order).run handle m).2 ∧
      ((cleanupExpiredKeys libraries order).run handle m).1 = .ok (answer.toOption.getD 0) := by
  obtain ⟨store, clock, link⟩ := m
  obtain rfl : link = .up := h.up
  let rows : List OrganizationRow :=
    order.filterMap fun id => (store.organizations id).map (id, ·)
  have hnodup : (rows.map Prod.fst).Nodup := by
    refine Nodup.map_on (fun row hrow row' hrow' hid => ?_) (h.once.filterMap ?_)
    · have hkeys := mem_rows hrow
      rw [hid, mem_rows hrow'] at hkeys
      exact Prod.ext hid (some.inj hkeys).symm
    · intro id id' row hid hid'
      obtain ⟨_, -, rfl⟩ := map_eq_some_iff.mp hid
      obtain ⟨_, -, heq⟩ := map_eq_some_iff.mp hid'
      exact (congrArg Prod.fst heq).symm
  have hlists : rows.map Prod.snd = order.filterMap store.organizations := by
    rw [map_filterMap]
    refine filterMap_congr fun id _ => ?_
    rw [Option.map_map]
    exact Option.map_id'
  have hswept : (cleanupRows libraries rows).wp handle (Swept libraries rows ⟨store, clock, .up⟩)
      ⟨store, clock, .up⟩ := cleanupRows_swept rfl hnodup fun row hrow => mem_rows hrow
  have hrun : (cleanupExpiredKeys libraries order).run handle ⟨store, clock, .up⟩ =
      ((cleanupRows libraries rows).tryCatch fun _ => return 0).run handle ⟨store, clock, .up⟩ :=
    rfl
  refine ⟨rows, ((cleanupRows libraries rows).run handle ⟨store, clock, .up⟩).1,
    fun row => ⟨mem_rows, fun hrow => ?_⟩, hlists, ?_⟩
  · exact mem_filterMap.mpr ⟨row.1, h.all row.1 (isSome_of_mem hrow), by rw [hrow]; rfl⟩
  · rw [hrun]
    cases hended : (cleanupRows libraries rows).run handle ⟨store, clock, .up⟩ with
    | mk answer m' =>
      rw [Prog.wp, hended] at hswept
      cases answer with
      | ok count =>
        rw [Prog.run_tryCatch_of_ok hended]
        exact ⟨hswept, rfl⟩
      | error e =>
        rw [Prog.run_tryCatch_of_error hended]
        exact ⟨hswept, rfl⟩

/-- The cleanup agrees with the check if and only if every expiry has an offset, or nothing has
expired. -/
theorem sweepAgrees_iff {order : List PyStr} (h : Sweepable libraries order m) :
    SweepAgrees libraries order m ↔ Every m (fun key => ¬Naive libraries key) ∨
      Every m fun key => lapsed libraries m key = false := by
  obtain ⟨rows, answer, hrows, hlists, hswept, hanswer⟩ := cleanupExpiredKeys_swept h
  constructor
  · intro hagrees
    by_contra! hboth
    obtain ⟨hnaive, hlapsed⟩ := hboth
    cases answer with
    | ok count =>
      refine hnaive fun id keys hkeys key hkey hbad => ?_
      obtain ⟨_, hok⟩ := (hswept.returned count rfl).1 (id, keys) ((hrows _).mpr hkeys) key hkey
      rw [expiry_of_naive hbad] at hok
      cases hok
    | error e =>
      refine hlapsed fun id keys hkeys key hkey => ?_
      have hzero := Except.ok.inj (hagrees.1.symm.trans hanswer)
      have hmem : keys ∈ order.filterMap m.store.organizations :=
        mem_filterMap.mpr ⟨id, h.all id (isSome_of_mem hkeys), hkeys⟩
      have hnone := List.sum_eq_zero_iff.mp hzero _ (mem_map_of_mem hmem)
      simpa using countP_eq_zero.mp hnone key hkey
  · intro hcondition
    have hdue : Every m fun key => due libraries m.clock key = lapsed libraries m key := by
      intro id keys hkeys key hkey
      by_cases hnaive : Naive libraries key
      · rcases hcondition with hnone | hnone
        · exact absurd hnaive (hnone id keys hkeys key hkey)
        · rw [hnone id keys hkeys key hkey, due, expires, expiry_of_naive hnaive]
          simp
      · exact (expiry_of_written (h.written id keys hkeys key hkey) hnaive).2
    have hkeep : ∀ id,
        (m.store.organizations id).map (filter fun key => !due libraries m.clock key) =
          (m.store.organizations id).map (filter fun key => !lapsed libraries m key) := fun id =>
      Option.map_congr fun keys hkeys => filter_congr fun key hkey => by
        rw [hdue id keys hkeys key hkey]
    cases answer with
    | ok count =>
      obtain ⟨-, rfl, hafter⟩ := hswept.returned count rfl
      refine ⟨hanswer.trans (congrArg Except.ok ?_), fun id => ?_⟩
      · rw [← hlists, List.map_map]
        refine congrArg List.sum (map_congr_left fun row hrow => countP_congr fun key hkey => ?_)
        rw [hdue row.1 row.2 ((hrows row).mp hrow) key hkey]
      · rw [← hkeep id]
        cases hkeys : m.store.organizations id with
        | none => simpa [hkeys] using hswept.kept id
        | some keys => exact hafter (id, keys) ((hrows _).mpr hkeys)
    | error e =>
      obtain ⟨row, hrow, key, hkey, hbad⟩ := hswept.raised e rfl
      have hkeys := (hrows row).mp hrow
      have hnone : Every m fun key => lapsed libraries m key = false :=
        hcondition.resolve_left fun haware => by
          obtain ⟨⟨expiresAt, hok⟩, -⟩ := expiry_of_written (m := m)
            (h.written row.1 row.2 hkeys key hkey) (haware row.1 row.2 hkeys key hkey)
          exact hbad expiresAt hok
      refine ⟨hanswer.trans (congrArg Except.ok (sum_eq_zero fun count hcount => ?_).symm),
        fun id => ?_⟩
      · obtain ⟨keys, hmem, rfl⟩ := mem_map.mp hcount
        obtain ⟨id, -, hkeys⟩ := mem_filterMap.mp hmem
        exact countP_eq_zero.mpr fun key hkey => by simp [hnone id keys hkeys key hkey]
      · have hsame : (m.store.organizations id).map
            (filter fun key => !due libraries m.clock key) = m.store.organizations id := by
          rw [hkeep]
          cases hkeys : m.store.organizations id with
          | none => rfl
          | some keys =>
            exact congrArg some (filter_eq_self.mpr fun key hkey => by
              rw [hnone id keys hkeys key hkey]
              rfl)
        rw [← hkeep, hsame]
        exact (hswept.kept id).elim (fun h => h) fun h => h.trans hsame

/-! ### An expiry without an offset -/

def clockLibraries : Libraries where
  hash := id
  fromIsoFormat s :=
    if s = "1970-01-01T00:00:00".toList then some (0, false)
    else if s = "1970-01-01T00:00:00+00:00".toList then some (0, true)
    else none
  isoFormat _ := "1970-01-01T00:00:00+00:00".toList
  loads _ := none
  Address := Unit
  Network := Unit
  ipAddress _ := none
  ipNetwork _ := none
  contains _ _ := false

def expiringKey (expiresAt : String) : KeyData := [("expires_at", .str expiresAt.toList)]

def naiveFirst : Clocked ApiKeyStore where
  store :=
    { organizations := fun id =>
        if id = ['a'] then some [expiringKey "1970-01-01T00:00:00"]
        else if id = ['b'] then some [expiringKey "1970-01-01T00:00:00+00:00"]
        else none
      seen := fun _ => [] }
  clock := 1
  link := .up

theorem sweepable_naiveFirst : Sweepable clockLibraries [['a'], ['b']] naiveFirst where
  up := rfl
  once := by decide
  all id h := by
    by_contra hid
    simp only [mem_cons, not_or] at hid
    simp [naiveFirst, hid] at h
  written id keys hkeys key hkey value hvalue := by
    simp only [naiveFirst, Option.mem_def] at hkeys
    split_ifs at hkeys <;> obtain rfl := some.inj hkeys <;> obtain rfl := mem_singleton.mp hkey <;>
      obtain rfl := some.inj hvalue
    · exact ⟨_, rfl, by decide, rfl⟩
    · exact ⟨_, rfl, by decide, rfl⟩

theorem sweepAgrees_iff_naiveFirst : SweepAgrees clockLibraries [['a'], ['b']] naiveFirst ↔
    Every naiveFirst (fun key => ¬Naive clockLibraries key) ∨
      Every naiveFirst fun key => lapsed clockLibraries naiveFirst key = false :=
  sweepAgrees_iff sweepable_naiveFirst

/-- Two keys have expired, and the cleanup removes neither. -/
theorem not_sweepAgrees_naive : Sweepable clockLibraries [['a'], ['b']] naiveFirst ∧
    ¬SweepAgrees clockLibraries [['a'], ['b']] naiveFirst := by
  refine ⟨sweepable_naiveFirst, fun h => ?_⟩
  have hzero : (0 : ℕ) = 2 := Except.ok.inj h.1
  cases hzero

end IsaUser.Auth.ApiKeys
