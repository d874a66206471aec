import IsaUser.Lib.Values

/-!
# Pages by Rank and a Cursor by Time

Rows are listed in pages of a size, by rank and then by time. The cursor of the next page is the time
of the last row, and the next page goes on with the rows before that time. So rows are lost or come
again, unless the cut by time is also a cut of the list.
-/

open List

namespace IsaUser.Paging

variable {α ρ τ : Type*} [LinearOrder ρ] [LinearOrder τ] (rank : α → ρ) (time : α → τ) (size : ℕ)

/-- The order of the rows: by rank, and then from the latest on. -/
def key (a : α) : ρ ×ₗ τᵒᵈ := toLex (rank a, OrderDual.toDual (time a))

def nextCursor (rows : List α) : Option τ :=
  if rows.length = size then rows.getLast?.map time else none

/-- The rows of all pages, unless they are more than a number. Pages are asked for by their number
and the cursor. -/
def follow (ask : ℕ → Option τ → List α) : ℕ → ℕ → Option τ → Option (List α)
  | 0, _, _ => none
  | fuel + 1, n, cursor =>
    match nextCursor time size (ask n cursor) with
    | none => some (ask n cursor)
    | some c => (follow ask fuel (n + 1) (some c)).map (ask n cursor ++ ·)

def after (cursor : Option τ) (rows : List α) : List α :=
  cursor.elim rows fun c => rows.filter (time · < c)

def page (arrange : ℕ → List α → List α) (rows : List α) (n : ℕ) (cursor : Option τ) : List α :=
  (orderBy (key rank time) (arrange n (after time cursor rows))).take size

def times (rows : List α) : List τ := (orderBy (key rank time) rows).map time

/-- Every cut is clean: at the end of each full page, no row so far is before the last one, and all
others are. -/
def CleanCuts (ts : List τ) : Prop :=
  ∀ k, k * size ≤ ts.length → ∀ c ∈ (ts.take (k * size)).getLast?,
    (∀ t ∈ ts.take (k * size), c ≤ t) ∧ ∀ t ∈ ts.drop (k * size), t < c

section Cuts

variable {rank time size} {arrange : ℕ → List α → List α} {rows rows' : List α} {a : α} {n : ℕ}
  {cursor : Option τ}

theorem map_time_eq_of_perm (h : rows.Perm rows')
    (hrows : rows.Pairwise fun a b => key rank time a ≤ key rank time b)
    (hrows' : rows'.Pairwise fun a b => key rank time a ≤ key rank time b) :
    rows.map time = rows'.map time := by
  have hkeys : rows.map (key rank time) = rows'.map (key rank time) :=
    Perm.eq_of_pairwise' (pairwise_map.mpr hrows) (pairwise_map.mpr hrows') (h.map _)
  simpa [Function.comp_def, key] using congrArg (map fun k => (ofLex k).2.ofDual) hkeys

theorem times_eq_of_perm (h : rows.Perm rows')
    (hrows' : rows'.Pairwise fun a b => key rank time a ≤ key rank time b) :
    times rank time rows = rows'.map time :=
  map_time_eq_of_perm ((orderBy_perm _ _).trans h) (pairwise_orderBy _ _) hrows'

theorem cleanCuts_append {ts us : List τ} {c : τ} (hts : ts.length = size)
    (hc : ts.getLast? = some c) : CleanCuts size (ts ++ us) ↔
      ((∀ t ∈ ts, c ≤ t) ∧ ∀ t ∈ us, t < c) ∧ CleanCuts size us := by
  have htake (k : ℕ) : (ts ++ us).take ((k + 1) * size) = ts ++ us.take (k * size) := by
    rw [take_append, hts, Nat.add_mul, Nat.one_mul, Nat.add_sub_cancel, take_of_length_le (by omega)]
  have hdrop (k : ℕ) : (ts ++ us).drop ((k + 1) * size) = us.drop (k * size) := by
    rw [drop_append, hts, Nat.add_mul, Nat.one_mul, Nat.add_sub_cancel, drop_of_length_le (by omega),
      nil_append]
  have hlength (k : ℕ) : (k + 1) * size ≤ (ts ++ us).length ↔ k * size ≤ us.length := by
    rw [length_append, hts, Nat.add_mul]
    omega
  constructor
  · intro h
    refine ⟨?_, fun k hk c' hc' => ?_⟩
    · have hfirst := h (0 + 1) ((hlength 0).mpr (by simp)) c
        (by rw [htake]; simpa using hc)
      rw [htake, hdrop] at hfirst
      simpa using hfirst
    · have hnext := h (k + 1) ((hlength k).mpr hk) c'
        (by rw [htake, getLast?_append, Option.mem_def.mp hc']; rfl)
      rw [htake, hdrop] at hnext
      exact ⟨fun t ht => hnext.1 t (mem_append_right _ ht), hnext.2⟩
  · rintro ⟨⟨hle, hlt⟩, h⟩ k hk c' hc'
    cases k with
    | zero => simp at hc'
    | succ k =>
      rw [htake, getLast?_append] at hc'
      rw [htake, hdrop]
      cases hlast : (us.take (k * size)).getLast? with
      | none =>
        rw [hlast, Option.none_or, hc] at hc'
        obtain rfl := Option.some.inj hc'
        rw [getLast?_eq_none_iff.mp hlast, append_nil]
        exact ⟨hle, fun t ht => hlt t (mem_of_mem_drop ht)⟩
      | some c'' =>
        rw [hlast] at hc'
        obtain rfl := Option.some.inj hc'
        obtain ⟨hle', hlt'⟩ := h k ((hlength k).mp hk) c'' hlast
        have hbefore : c'' < c := hlt c'' (mem_of_mem_take (mem_of_getLast? hlast))
        refine ⟨fun t ht => ?_, hlt'⟩
        rcases mem_append.mp ht with ht | ht
        · exact hbefore.le.trans (hle t ht)
        · exact hle' t ht

theorem after_after {c : τ} (h : a ∈ after time cursor rows) (hc : time a = c) :
    after time (some c) rows = (after time cursor rows).filter (time · < c) := by
  cases cursor with
  | none => rfl
  | some c' =>
    obtain ⟨-, hlt⟩ := mem_filter.mp h
    rw [decide_eq_true_iff, hc] at hlt
    simp only [after, Option.elim_some, filter_filter]
    refine filter_congr fun b _ => ?_
    simpa using fun hb => hb.trans hlt

theorem perm_append_iff {s hits : List α} {last : α}
    (hsorted : s.Pairwise fun a b => key rank time a ≤ key rank time b)
    (hfull : (s.take size).length = size) (hlast : (s.take size).getLast? = some last)
    (hsub : hits ⊆ s.filter (time · < time last))
    (hhead : ∀ a ∈ s.filter (time · < time last), ∃ b ∈ hits, key rank time b ≤ key rank time a)
    (hiff : hits.Perm (s.filter (time · < time last)) ↔
      CleanCuts size ((s.filter (time · < time last)).map time)) :
    (s.take size ++ hits).Perm s ↔ CleanCuts size (s.map time) := by
  obtain ⟨before, hbefore⟩ := getLast?_eq_some_iff.mp hlast
  have hsplit : s.take size ++ s.drop size = s := take_append_drop size s
  have hperm : (s.take size ++ hits).Perm s ↔ hits.Perm (s.drop size) := by
    conv_lhs => rhs; rw [← hsplit]
    exact perm_append_left_iff _
  rw [← hsplit, pairwise_append] at hsorted
  obtain ⟨hpage, hrest, hcross⟩ := hsorted
  -- the rows before the cut are the rest, where the cut is clean
  have hfilter (hle : ∀ a ∈ s.take size, time last ≤ time a)
      (hlt : ∀ a ∈ s.drop size, time a < time last) :
      s.filter (time · < time last) = s.drop size := by
    rw [← hsplit, filter_append, filter_eq_nil_iff.mpr fun a ha => by simpa using hle a ha,
      nil_append, filter_eq_self.mpr fun a ha => by simpa using hlt a ha, hsplit]
  have hcuts : CleanCuts size ((s.take size).map time ++ (s.drop size).map time) ↔ _ :=
    cleanCuts_append (by rw [length_map, hfull]) (by rw [getLast?_map, hlast]; rfl)
  rw [← map_append, hsplit, forall_mem_map, forall_mem_map] at hcuts
  rw [hperm, hcuts]
  constructor
  · intro h
    have hlt : ∀ a ∈ s.drop size, time a < time last := fun a ha => by
      simpa using (mem_filter.mp (hsub (h.mem_iff.mpr ha))).2
    have hle : ∀ a ∈ s.take size, time last ≤ time a := by
      intro a ha
      by_contra! hcut
      -- a row of the page before the cut would be the first of the next page
      obtain ⟨b, hb, hkey⟩ := hhead a (mem_filter.mpr ⟨mem_of_mem_take ha, by simpa using hcut⟩)
      have hlast' := hcross last (mem_of_getLast? hlast) b (h.mem_iff.mp hb)
      rw [hbefore, pairwise_append] at hpage
      rw [hbefore, mem_append, mem_singleton] at ha
      rcases ha with ha | rfl
      · have hsame := (hpage.2.2 a ha last (mem_singleton_self _)).antisymm (hlast'.trans hkey)
        have htime : time a = time last := congrArg (fun k => (ofLex k).2.ofDual) hsame
        exact hcut.ne htime
      · exact lt_irrefl _ hcut
    have heq := hfilter hle hlt
    refine ⟨⟨hle, hlt⟩, ?_⟩
    rw [← heq, ← hiff, heq]
    exact h
  · rintro ⟨⟨hle, hlt⟩, h⟩
    have heq := hfilter hle hlt
    rw [← heq, ← hiff, heq] at h
    exact h

theorem follow_spec (rank : α → ρ) (time : α → τ) (rows : List α) (hsize : 0 < size) (harrange : ∀ n l, (arrange n l).Perm l) (fuel : ℕ) :
    ∀ n cursor, (after time cursor rows).length < fuel → ∃ hits,
      follow time size (page rank time size arrange rows) fuel n cursor = some hits ∧
      hits ⊆ after time cursor rows ∧
      (∀ a ∈ after time cursor rows, ∃ b ∈ hits, key rank time b ≤ key rank time a) ∧
      (hits.Perm (after time cursor rows) ↔
        CleanCuts size (times rank time (after time cursor rows))) := by
  induction fuel with
  | zero => exact fun n cursor h => absurd h (Nat.not_lt_zero _)
  | succ fuel ih =>
    intro n cursor hfuel
    set left := after time cursor rows with hleft
    set s := orderBy (key rank time) (arrange n left) with hs
    have hperm : s.Perm left := (orderBy_perm _ _).trans (harrange n left)
    have hsorted : s.Pairwise fun a b => key rank time a ≤ key rank time b := pairwise_orderBy _ _
    have hpage : page rank time size arrange rows n cursor = s.take size := rfl
    have hhead : ∀ a ∈ left, ∃ b ∈ s.take size, key rank time b ≤ key rank time a := by
      intro a ha
      rw [← hperm.mem_iff] at ha
      obtain ⟨size, rfl⟩ := Nat.exists_eq_succ_of_ne_zero hsize.ne'
      cases hcons : s with
      | nil => simp [hcons] at ha
      | cons b rest =>
        rw [hcons] at ha hsorted
        refine ⟨b, mem_cons_self, ?_⟩
        rcases mem_cons.mp ha with rfl | ha
        · exact le_rfl
        · exact (pairwise_cons.mp hsorted).1 a ha
    rw [follow, hpage, times_eq_of_perm hperm.symm hsorted]
    by_cases hfull : (s.take size).length = size
    · obtain ⟨last, hlast⟩ : ∃ last, (s.take size).getLast? = some last := by
        rw [← Option.ne_none_iff_exists', ne_eq, getLast?_eq_none_iff, ← length_eq_zero_iff]
        omega
      have hnext : nextCursor time size (s.take size) = some (time last) := by
        rw [nextCursor, if_pos hfull, hlast]
        rfl
      have hmem : last ∈ left := hperm.mem_iff.mp (mem_of_mem_take (mem_of_getLast? hlast))
      have hafter : after time (some (time last)) rows = left.filter (time · < time last) :=
        after_after hmem rfl
      have hfilter := hperm.filter fun a => decide (time a < time last)
      have hfewer : (left.filter (time · < time last)).length < left.length :=
        length_filter_lt_length_iff_exists.mpr ⟨last, hmem, by simp⟩
      obtain ⟨hits, hfollow, hsub, hhead', hiff⟩ := ih (n + 1) (some (time last)) (by
        rw [hafter]
        omega)
      rw [hafter] at hsub hhead' hiff
      rw [times_eq_of_perm hfilter.symm (hsorted.filter _)] at hiff
      refine ⟨s.take size ++ hits, by simp only [hnext, hfollow, Option.map_some], ?_, ?_, ?_⟩
      · intro a ha
        rcases mem_append.mp ha with ha | ha
        · exact hperm.mem_iff.mp (mem_of_mem_take ha)
        · exact mem_of_mem_filter (hsub ha)
      · intro a ha
        obtain ⟨b, hb, hkey⟩ := hhead a ha
        exact ⟨b, mem_append_left _ hb, hkey⟩
      · have hstep := perm_append_iff hsorted hfull hlast
          (fun a ha => hfilter.mem_iff.mpr (hsub ha))
          (fun a ha => hhead' a (hfilter.mem_iff.mp ha))
          ((⟨fun h => h.trans hfilter, fun h => h.trans hfilter.symm⟩ : _ ↔ _).trans hiff)
        rw [← hstep]
        exact ⟨fun h => h.trans hperm.symm, fun h => h.trans hperm⟩
    · have hshort : s.length < size := by
        rw [length_take] at hfull
        omega
      have hall : s.take size = s := take_of_length_le hshort.le
      have hnext : nextCursor time size (s.take size) = none := if_neg hfull
      refine ⟨s.take size, by rw [hnext], ?_, hhead, iff_of_true ?_ fun k hk c hc => ?_⟩
      · rw [hall]
        exact hperm.subset
      · rw [hall]
        exact hperm
      · obtain rfl : k = 0 := by
          rw [length_map] at hk
          by_contra hne
          have := Nat.le_mul_of_pos_left size (Nat.pos_of_ne_zero hne)
          omega
        simp at hc

omit [LinearOrder τ] in
theorem follow_mono {ask : ℕ → Option τ → List α} {hits : List α} {fuel fuel' : ℕ}
    (h : follow time size ask fuel n cursor = some hits) (hle : fuel ≤ fuel') :
    follow time size ask fuel' n cursor = some hits := by
  induction fuel generalizing fuel' n cursor hits with
  | zero => cases h
  | succ fuel ih =>
    obtain ⟨fuel', rfl⟩ := Nat.exists_eq_add_of_lt hle
    rw [follow] at h ⊢
    cases hnext : nextCursor time size (ask n cursor) with
    | none => simpa only [hnext] using h
    | some c =>
      simp only [hnext] at h ⊢
      obtain ⟨rest, hrest, rfl⟩ := Option.map_eq_some_iff.mp h
      rw [ih hrest (by omega)]
      rfl

theorem follow_perm_iff (hsize : 0 < size) (harrange : ∀ n l, (arrange n l).Perm l) {fuel : ℕ}
    (hfuel : rows.length < fuel) : ∃ hits,
      follow time size (page rank time size arrange rows) fuel 0 none = some hits ∧
      hits ⊆ rows ∧ (hits.Perm rows ↔ CleanCuts size (times rank time rows)) := by
  obtain ⟨hits, hfollow, hsub, -, hiff⟩ := follow_spec rank time rows hsize harrange fuel 0 none hfuel
  exact ⟨hits, hfollow, hsub, hiff⟩

end Cuts

end IsaUser.Paging
