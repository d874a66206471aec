import IsaUser.Wallet.Histories
import Mathlib.Algebra.BigOperators.Pi

/-!
# Money Calls at the Same Time

`update_balance` reads a balance, computes the new one and writes it, in two statements, and
the write does not look at the balance it overwrites. Between the two any number of other
calls may have written the same balance.
-/

open IsaUser.Prog

namespace IsaUser.Wallets

open Table

/-! ### The law and its condition -/

abbrev MoneyPool (ι : Type) :=
  Pool WalletApi RepositoryError (Option (List (Row Transaction))) ι Store

def MoneyPool.start {ι : Type} (s : Store) (calls : ι → MoneyCall) : MoneyPool ι :=
  Pool.start s fun i => (calls i).prog

def MoneyCall.effect (s : Store) : MoneyCall → ℕ → ℤ
  | deposit w x _ => Pi.single w x
  | withdraw w x => Pi.single w (-x)
  | consume w x => Pi.single w (-x)
  | refund t x =>
    match s.transactions.get? t with
    | none => 0
    | some original => Pi.single original.walletId (refundAmount x original)
  | transfer a b x => Pi.single a (-x) + Pi.single b x

def ReturnedTransaction : RepoM (Option (List (Row Transaction))) → Prop
  | .ret (some _) => True
  | _ => False

instance : (p : RepoM (Option (List (Row Transaction)))) → Decidable (ReturnedTransaction p)
  | .ret (some _) => .isTrue trivial
  | .ret none => .isFalse id
  | .raise _ => .isFalse id
  | .call _ _ => .isFalse id

/-- No balance is negative, and when all calls have ended, every balance is the one at the
start and what the calls that returned a transaction moved. -/
def NoLostUpdate {ι : Type} [Fintype ι] (s : Store) (calls : ι → MoneyCall)
    (pool : MoneyPool ι) : Prop :=
  (∀ id, 0 ≤ pool.state.balanceOf id) ∧
    ((∀ i, (pool.progs i).Ended) → ∀ id, pool.state.balanceOf id = s.balanceOf id +
      ∑ i, if ReturnedTransaction (pool.progs i) then (calls i).effect pool.state id else 0)

/-- No amount is negative. The requests of `models.py` declare theirs `gt=0`. -/
def MoneyCall.NotNegative : MoneyCall → Prop
  | deposit _ x _ => 0 ≤ x
  | withdraw _ x => 0 ≤ x
  | consume _ x => 0 ≤ x
  | refund _ x => ∀ y ∈ x, 0 ≤ y
  | transfer _ _ x => 0 ≤ x

instance : (call : MoneyCall) → Decidable call.NotNegative
  | .deposit _ x _ => inferInstanceAs (Decidable (0 ≤ x))
  | .withdraw _ x => inferInstanceAs (Decidable (0 ≤ x))
  | .consume _ x => inferInstanceAs (Decidable (0 ≤ x))
  | .refund _ x => inferInstanceAs (Decidable (∀ y ∈ x, 0 ≤ y))
  | .transfer _ _ x => inferInstanceAs (Decidable (0 ≤ x))

def Fresh (past : Past WalletApi Store) (s : Store) : Statement → Prop
  | .updateBalance id _ => ∀ e ∈ past.head?, e.1.balanceOf id = s.balanceOf id
  | _ => True

instance (past : Past WalletApi Store) (s : Store) : (c : Statement) → Decidable (Fresh past s c)
  | .updateBalance id _ =>
    inferInstanceAs (Decidable (∀ e ∈ past.head?, e.1.balanceOf id = s.balanceOf id))
  | .selectWallet _ => .isTrue trivial
  | .selectWallets _ _ => .isTrue trivial
  | .insertWallet _ => .isTrue trivial
  | .insertTransaction _ => .isTrue trivial
  | .selectTransaction _ => .isTrue trivial

/-! ### What money calls rely on -/

/-- Nothing is locked, and every transaction has a positive amount. -/
structure Store.InOrder (s : Store) : Prop where
  unlocked : ∀ id w, s.wallets.get? id = some w → w.lockedBalance = 0
  amount_pos : ∀ t row, s.transactions.get? t = some row → 0 < row.amount

/-- The store is in order, no wallet is created, and no transaction is changed. -/
def moneyTerms : Terms Store where
  inv := Store.InOrder
  rel s s' := s'.wallets.size = s.wallets.size ∧
    ∀ t row, s.transactions.get? t = some row → s'.transactions.get? t = some row
  rel_refl _ := ⟨rfl, fun _ _ h => h⟩
  rel_trans h h' := ⟨h'.1.trans h.1, fun t row ht => h'.2 t row (h.2 t row ht)⟩

def Statement.MovesMoney : Statement → Prop
  | insertWallet _ => False
  | insertTransaction row => 0 < row.amount
  | _ => True

def moved (e : Store × Statement) : ℕ → ℤ := fun id =>
  (handle e.2 e.1).2.balanceOf id - e.1.balanceOf id

def movedBy (past : Past WalletApi Store) : ℕ → ℤ := tally (I := WalletApi) moved past

section Statements

variable {s : Store}

@[simp] theorem movedBy_nil : movedBy [] = 0 := rfl

theorem movedBy_cons (e : Store × Statement) (past : Past WalletApi Store) :
    movedBy (e :: past) = moved e + movedBy past := tally_cons _ _ _

theorem movedBy_cons_of_eq {e : Store × Statement} {past : Past WalletApi Store} {δ : ℕ → ℤ}
    (he : moved e = 0) (hpast : movedBy past = δ) : movedBy (e :: past) = δ := by
  rw [movedBy_cons, he, zero_add, hpast]

theorem Store.Regular.inOrder (hs : s.Regular) : s.InOrder := ⟨hs.unlocked, hs.amount_pos⟩

theorem movesMoney_keeps {c : Statement} (hs : s.InOrder) (hc : c.MovesMoney) :
    (handle c s).2.InOrder ∧ moneyTerms.rel s (handle c s).2 := by
  cases c with
  | updateBalance id b =>
    simp only [handle]
    split
    · exact ⟨hs, moneyTerms.rel_refl s⟩
    · split
      · refine ⟨⟨fun j w hw => ?_, hs.amount_pos⟩, ⟨size_modify _ _ _, fun _ _ h => h⟩⟩
        simp only [get?_modify] at hw
        split at hw
        · obtain ⟨v, hv, rfl⟩ := Option.map_eq_some_iff.mp hw
          exact hs.unlocked _ v hv
        · exact hs.unlocked j w hw
      · exact ⟨hs, moneyTerms.rel_refl s⟩
  | insertTransaction row =>
    refine ⟨⟨hs.unlocked, fun t r hr => ?_⟩,
      ⟨rfl, fun t r hr => get?_insert_of_some hr row⟩⟩
    simp only [handle, get?_insert] at hr
    split at hr
    · obtain rfl := Option.some.inj hr
      exact hc
    · exact hs.amount_pos t r hr
  | insertWallet w => exact absurd hc id
  | selectWallet id => exact ⟨hs, moneyTerms.rel_refl s⟩
  | selectWallets u t => exact ⟨hs, moneyTerms.rel_refl s⟩
  | selectTransaction t => exact ⟨hs, moneyTerms.rel_refl s⟩

theorem balanceOf_nonneg (s : Store) (id : ℕ) : 0 ≤ s.balanceOf id := by
  rw [Store.balanceOf]
  cases s.wallets.get? id with
  | none => exact le_rfl
  | some w => exact w.balance_nonneg

@[simp] theorem moved_selectWallet (id : ℕ) : moved (s, .selectWallet id) = 0 := by
  exact sub_self _

@[simp] theorem moved_selectTransaction (t : ℕ) : moved (s, .selectTransaction t) = 0 := by
  exact sub_self _

@[simp] theorem moved_insertTransaction (row : Transaction) :
    moved (s, .insertTransaction row) = 0 := by
  exact sub_self _

end Statements

/-! ### Methods under interference -/

/-- A method, while others work on the store: it sends only statements of money calls and
ends as `Q` says, as long as no balance is overwritten that has changed. -/
abbrev MoneySound {α : Type} (Q : Except RepositoryError α → Past WalletApi Store → Store → Prop)
    (p : RepoM α) (past : Past WalletApi Store) (s : Store) : Prop :=
  p.Sound moneyTerms handle Fresh (fun _ _ c => Statement.MovesMoney c) Q past s

section Methods

variable {α β : Type} {Q : Except RepositoryError β → Past WalletApi Store → Store → Prop}
  {past : Past WalletApi Store} {s : Store} {δ : ℕ → ℤ} {x : ℤ}

theorem sound_sql {c : Statement} {f : c.Reply → RepoM β} (hc : c.MovesMoney)
    (h : ∀ s', moneyTerms.rel s s' → s'.InOrder → Fresh past s' c →
      ∃ r s'', handle c s' = (.ok r, s'') ∧ MoneySound Q (f r) ((s', c) :: past) s'') :
    MoneySound Q (sql c >>= f) past s := by
  intro s' hs hi
  refine ⟨hc, fun hfresh => ?_⟩
  obtain ⟨r, s'', hrun, hf⟩ := h s' hs hi hfresh
  rw [hrun]
  exact hf

/-- What `get_wallet` answers when it has read the state `s₁`. -/
def Read (id : ℕ) (s₁ : Store) : Except RepositoryError (Option WalletBalance) → Prop
  | .ok none => s₁.wallets.size ≤ id
  | .ok (some w) => id < s₁.wallets.size ∧ w.balance = s₁.balanceOf id
  | .error _ => False

/-- What `get_wallet` has done when it ends. -/
def WalletRead (id : ℕ) (past : Past WalletApi Store) (s : Store)
    (r : Except RepositoryError (Option WalletBalance)) (past' : Past WalletApi Store)
    (s' : Store) : Prop :=
  ∃ s₁, moneyTerms.rel s s₁ ∧ moneyTerms.rel s₁ s' ∧
    past' = (s₁, .selectWallet id) :: past ∧ Read id s₁ r

theorem getWallet_sound (id : ℕ) :
    MoneySound (WalletRead id past s) (getWallet id) past s := by
  refine Sound.tryCatch (Q := WalletRead id past s)
    (sound_sql trivial fun s₁ hs hi _ => ⟨_, _, rfl, ?_⟩) (fun _ _ _ h => h)
    fun _ _ _ ⟨_, _, _, _, h⟩ => h.elim
  cases hw : s₁.wallets.get? id with
  | none =>
    have hsize : s₁.wallets.size ≤ id := by simpa [get?, size] using hw
    exact sound_ret fun s' hs' _ => ⟨s₁, hs, hs', rfl, hsize⟩
  | some row =>
    have hlocked : row.lockedBalance ≤ row.balance := by
      have hbalance := row.balance_nonneg
      rw [hi.unlocked id row hw]
      exact hbalance
    have hread : toWalletBalance ⟨id, row⟩ =
        .ret ⟨id, row.userId, row.walletType, row.balance, row.lockedBalance, hlocked⟩ :=
      dif_pos hlocked
    simp only [Option.map_some, hread]
    exact sound_ret fun s' hs' _ =>
      ⟨s₁, hs, hs', rfl, lt_size_of_get? hw, by simp [Store.balanceOf, hw]⟩

/-- The rule of `get_wallet`. Every wallet can be read, and nothing is written. -/
theorem sound_getWallet {id : ℕ} {f : Option WalletBalance → RepoM β}
    (hnone : ∀ s₁, moneyTerms.rel s s₁ → s₁.wallets.size ≤ id →
      MoneySound Q (f none) ((s₁, .selectWallet id) :: past) s₁)
    (hsome : ∀ s₁ w, moneyTerms.rel s s₁ → id < s₁.wallets.size →
      w.balance = s₁.balanceOf id →
      MoneySound Q (f (some w)) ((s₁, .selectWallet id) :: past) s₁) :
    MoneySound Q (getWallet id >>= f) past s := by
  refine (getWallet_sound id).bind ?_ ?_
  · rintro r past' s' ⟨s₁, hs, hs', rfl, hr⟩
    cases r with
    | none => exact (hnone s₁ hs hr).of_rel hs'
    | some w => exact (hsome s₁ w hs hr.1 hr.2).of_rel hs'
  · rintro e past' s' ⟨s₁, -, -, -, h⟩
    exact h.elim

/-- What `update_balance` has moved when it ends, on top of `δ`. -/
def Updated (id : ℕ) (x : ℤ) (operation : BalanceOperation) (δ : ℕ → ℤ) :
    Except RepositoryError (Option ℤ) → Past WalletApi Store → Store → Prop
  | .ok none, past, s => movedBy past = δ ∧ (operation = .add → s.wallets.size ≤ id)
  | .ok (some _), past, _ => movedBy past = δ + Pi.single id (operation.signed x)
  | .error _, _, _ => False

/-- **A fresh update moves its amount**: the balance that it overwrites is the one it has
read. -/
theorem moved_updateBalance {id : ℕ} {b : ℤ} (hid : id < s.wallets.size) (hb : 0 ≤ b) :
    (∃ s', handle (.updateBalance id b) s = (.ok 1, s')) ∧
      moved (s, .updateBalance id b) = Pi.single id (b - s.balanceOf id) := by
  obtain ⟨row, hrow⟩ : ∃ row, s.wallets.get? id = some row :=
    ⟨s.wallets.rows[id], List.getElem?_eq_getElem hid⟩
  refine ⟨⟨_, by simp only [handle, hrow, hb]; rfl⟩, ?_⟩
  funext j
  simp only [moved, handle, hrow, hb, ↓reduceDIte, Store.balanceOf, get?_modify]
  rcases eq_or_ne id j with rfl | hj
  · simp [hrow, Wallet.withBalance]
  · simp [hj]

theorem newBalance_nonneg {operation : BalanceOperation} {balance b : ℤ}
    (hx : operation = .add → 0 ≤ x) (hbalance : 0 ≤ balance)
    (hb : operation.newBalance balance x = some b) : 0 ≤ b := by
  cases operation with
  | add =>
    obtain rfl := Option.some.inj hb
    have := hx rfl
    omega
  | subtract =>
    simp only [BalanceOperation.newBalance] at hb
    split at hb
    · cases hb
    · obtain rfl := Option.some.inj hb
      omega

theorem updateBalance_sound {id : ℕ} {operation : BalanceOperation} (hx : operation = .add → 0 ≤ x)
    (hpast : movedBy past = δ) :
    MoneySound (Updated id x operation δ) (updateBalance id x operation) past s := by
  refine Sound.tryCatch (sound_getWallet (fun s₁ _ hsize => ?_) fun s₁ w _ hsize hw => ?_)
    (fun _ _ _ h => h) (fun _ _ _ h => h.elim)
  · refine sound_ret fun s' hs' _ => ⟨?_, fun _ => hs'.1.le.trans hsize⟩
    exact movedBy_cons_of_eq (moved_selectWallet id) hpast
  · have hread : movedBy ((s₁, Statement.selectWallet id) :: past) = δ :=
      movedBy_cons_of_eq (moved_selectWallet id) hpast
    cases hb : operation.newBalance w.balance x with
    | none =>
      simp only [hb]
      refine sound_ret fun _ _ _ => ⟨hread, ?_⟩
      rintro rfl
      cases hb
    | some b =>
      simp only [hb]
      have hnew := newBalance_eq hb
      have hpos : 0 ≤ b := newBalance_nonneg hx (hw ▸ balanceOf_nonneg s₁ id) hb
      refine sound_sql trivial fun s₂ hs₂ _ hfresh => ?_
      obtain ⟨⟨s', hrun⟩, hmoved⟩ := moved_updateBalance (s := s₂) (hs₂.1 ▸ hsize) hpos
      refine ⟨1, s', hrun, sound_ret fun _ _ _ => ?_⟩
      have hsame : s₁.balanceOf id = s₂.balanceOf id := hfresh _ rfl
      have hδ : b - s₂.balanceOf id = operation.signed x := by omega
      exact (movedBy_cons _ _).trans (by rw [hmoved, hread, hδ, add_comm])

/-- A transaction was written and read back, after `δ` was moved. -/
def Logged (δ : ℕ → ℤ) (r : Except RepositoryError (Option (Row Transaction)))
    (past : Past WalletApi Store) (_ : Store) : Prop :=
  ∃ txn, r = .ok (some txn) ∧ movedBy past = δ

theorem createTransaction_sound {data : TransactionCreate} {b b' : ℤ}
    (hpast : movedBy past = δ) :
    MoneySound (Logged δ) (createTransaction data b b') past s := by
  refine Sound.tryCatch (Q := Logged δ)
    (sound_sql data.amount_pos fun s₁ _ _ _ => ⟨_, _, rfl, ?_⟩) (fun _ _ _ h => h)
    fun _ _ _ ⟨_, h, _⟩ => absurd h nofun
  have hwritten : movedBy ((s₁, Statement.insertTransaction (data.row b b')) :: past) = δ :=
    movedBy_cons_of_eq (moved_insertTransaction _) hpast
  intro s₂ hs₂ _
  have hback : s₂.transactions.get? s₁.transactions.size = some (data.row b b') :=
    hs₂.2 _ _ (get?_insert_size _ _)
  have hread : handle (.selectTransaction s₁.transactions.size) s₂ =
      (.ok (some ⟨s₁.transactions.size, data.row b b'⟩), s₂) := by simp [handle, hback]
  refine ⟨trivial, fun _ => ?_⟩
  rw [hread]
  exact sound_ret fun _ _ _ =>
    ⟨_, rfl, movedBy_cons_of_eq (moved_selectTransaction _) hwritten⟩

theorem sound_transactionCreate {id : ℕ} {u : PyStr} {type : TransactionType}
    {ref : Option Reference} {toId : Option ℕ} {f : TransactionCreate → RepoM β}
    (hpos : 0 < x → ∀ data, MoneySound Q (f data) past s)
    (hnot : ¬0 < x → ∀ s', Q (.error .validation) past s') :
    MoneySound Q (transactionCreate id u type x ref toId >>= f) past s := by
  rw [transactionCreate]
  split
  · next hx => exact hpos hx _
  · next hx => exact sound_raise fun s' _ _ => hnot hx s'

/-- A method has moved `δ`, which may depend on the store from then on, if it returned a
transaction, and nothing if not. -/
def Moves (δ : Store → ℕ → ℤ) :
    Except RepositoryError (Option α) → Past WalletApi Store → Store → Prop
  | .ok (some _), past, s => ∀ s', moneyTerms.rel s s' → movedBy past = δ s'
  | .ok none, past, _ => movedBy past = 0
  | .error _, past, _ => movedBy past = 0

def Settles (δ : Store → ℕ → ℤ) (r : Except RepositoryError (Option α))
    (past : Past WalletApi Store) (s : Store) : Prop :=
  r.toOption.isSome ∧ Moves δ r past s

/-- The transactions of a transfer, which has moved `δ`. -/
theorem writeTransfer_sound {v w : WalletBalance} {b b' : ℤ} (hpast : movedBy past = δ)
    (hzero : ¬0 < x → δ = 0) : MoneySound (Moves fun _ => δ) (writeTransfer v w x b b') past s := by
  refine sound_transactionCreate (fun _ data => ?_) fun hnot _ => hpast.trans (hzero hnot)
  refine (createTransaction_sound hpast).bind ?_ fun _ _ _ ⟨_, h, _⟩ => absurd h nofun
  rintro _ past₁ s₁ ⟨debit, ⟨⟩, hpast₁⟩
  refine sound_transactionCreate (fun _ data => ?_) fun hnot _ => hpast₁.trans (hzero hnot)
  refine (createTransaction_sound hpast₁).bind ?_ fun _ _ _ ⟨_, h, _⟩ => absurd h nofun
  rintro _ past₂ s₂ ⟨credit, ⟨⟩, hpast₂⟩
  exact sound_ret fun _ _ _ _ _ => hpast₂

/-- **A move on one wallet** moves its amount or nothing. -/
theorem moveOwn_sound (operation : BalanceOperation) {type : TransactionType} (id : ℕ)
    {ref : Option Reference} (hx : 0 ≤ x) (hpast : movedBy past = 0) :
    MoneySound (Moves fun _ => Pi.single id (operation.signed x))
      (moveOwn operation type id x ref) past s := by
  refine sound_getWallet (fun s₁ _ _ => ?_) fun s₁ w _ _ _ => ?_
  · exact sound_ret fun _ _ _ => movedBy_cons_of_eq (moved_selectWallet id) hpast
  · have hread : movedBy ((s₁, Statement.selectWallet id) :: past) = 0 :=
      movedBy_cons_of_eq (moved_selectWallet id) hpast
    dsimp only
    split
    · exact sound_ret fun _ _ _ => hread
    · refine (updateBalance_sound (fun _ => hx) hread).bind (fun updated past' s' h => ?_)
        fun _ _ _ h => h.elim
      cases updated with
      | none => exact sound_ret fun _ _ _ => h.1
      | some b =>
        have hmoved : movedBy past' = Pi.single id (operation.signed x) :=
          Eq.trans h (zero_add _)
        refine sound_transactionCreate (fun _ data => ?_) fun hnot s' => ?_
        · refine (createTransaction_sound hmoved).mono ?_
          rintro r past'' s'' ⟨txn, rfl, hlogged⟩
          exact fun _ _ => hlogged
        · obtain rfl : x = 0 := by omega
          have hzero : operation.signed 0 = 0 := by cases operation <;> rfl
          exact hmoved.trans (by rw [hzero, Pi.single_zero])

/-- `except Exception: return None`, around a method that has moved nothing when it raises. -/
theorem sound_catch {δ : Store → ℕ → ℤ} {p : RepoM (Option α)}
    (hp : MoneySound (Moves δ) p past s) :
    MoneySound (Settles δ)
      (p.tryCatch fun _ : RepositoryError => (return none : RepoM (Option α))) past s :=
  Sound.tryCatch hp (fun _ _ _ h => ⟨rfl, h⟩)
    fun _ _ _ h => sound_ret fun _ _ _ => ⟨rfl, h⟩

theorem refund_sound {t : ℕ} {x : Option ℤ} (hx : ∀ y ∈ x, 0 ≤ y) :
    MoneySound (Settles (MoneyCall.refund t x).effect) (refund t x) [] s := by
  refine sound_catch (sound_sql trivial fun s₁ _ hi _ => ⟨_, _, rfl, ?_⟩)
  have hread : movedBy [(s₁, Statement.selectTransaction t)] = 0 :=
    movedBy_cons_of_eq (moved_selectTransaction t) movedBy_nil
  cases ht : s₁.transactions.get? t with
  | none => exact sound_ret fun _ _ _ => hread
  | some original =>
    dsimp only [Option.map_some]
    split
    · exact sound_ret fun _ _ _ => hread
    · have hamount : 0 ≤ refundAmount x original := by
        have hpos := hi.amount_pos t original ht
        cases x with
        | none => exact hpos.le
        | some y =>
          have hy := hx y rfl
          simp only [refundAmount]
          split <;> omega
      refine ((moveOwn_sound .add _ hamount hread).frame (P := fun s =>
        s.transactions.get? t = some original) ht (fun hs h => hs.2 t _ h)
        fun _ s c hi hc => (movesMoney_keeps hi hc).2).mono ?_
      rintro r past' s' ⟨h, ht'⟩
      cases r with
      | error e => exact h
      | ok found =>
        cases found with
        | none => exact h
        | some txn =>
          intro s'' hs''
          simp only [MoneyCall.effect, hs''.2 t _ ht']
          exact h s'' hs''

theorem movedBy_reads (a b : ℕ) {s s' : Store} :
    movedBy [(s, Statement.selectWallet b), (s', Statement.selectWallet a)] = 0 :=
  movedBy_cons_of_eq (moved_selectWallet b)
    (movedBy_cons_of_eq (moved_selectWallet a) movedBy_nil)

theorem sound_framed {Q : Except RepositoryError α → Past WalletApi Store → Store → Prop}
    {id : ℕ} {p : RepoM α} (hid : id < s.wallets.size) (hp : MoneySound Q p past s) :
    MoneySound (fun r past s => Q r past s ∧ id < s.wallets.size) p past s :=
  hp.frame (P := fun s : Store => id < s.wallets.size) hid (fun hs h => hs.1 ▸ h)
    fun _ _ _ hi hc => (movesMoney_keeps hi hc).2

theorem transfer_sound {a b : ℕ} (hx : 0 ≤ x) :
    MoneySound (Settles (MoneyCall.transfer a b x).effect) (transfer a b x) [] s := by
  refine sound_catch (sound_getWallet (fun s₁ _ _ => ?_) fun s₁ v _ _ _ => ?_)
  · refine sound_getWallet (fun s₂ _ _ => ?_) fun s₂ w _ _ _ => ?_ <;>
      exact sound_ret fun _ _ _ => movedBy_reads a b
  · refine sound_getWallet (fun s₂ _ _ => ?_) fun s₂ w _ hb _ => ?_
    · exact sound_ret fun _ _ _ => movedBy_reads a b
    · dsimp only
      split
      · exact sound_ret fun _ _ _ => movedBy_reads a b
      · refine (sound_framed hb (updateBalance_sound (fun _ => hx) (movedBy_reads a b))).bind ?_
          fun _ _ _ h => h.1.elim
        rintro debited past₁ s₃ ⟨hdebited, hb₃⟩
        cases debited with
        | none => exact sound_ret fun _ _ _ => hdebited.1
        | some c =>
          refine (sound_framed hb₃ (updateBalance_sound (fun _ => hx) hdebited)).bind ?_
            fun _ _ _ h => h.1.elim
          rintro credited past₂ s₄ ⟨hcredited, hb₄⟩
          cases credited with
          | none => exact absurd (hcredited.2 rfl) (not_le.mpr hb₄)
          | some c' =>
            have hmoved : movedBy past₂ = Pi.single a (-x) + Pi.single b x :=
              Eq.trans hcredited (by rw [zero_add]; rfl)
            refine writeTransfer_sound hmoved fun hnot => ?_
            obtain rfl : x = 0 := by omega
            exact funext fun _ => by simp

theorem sound_map {δ : Store → ℕ → ℤ} {p : RepoM (Option α)} {g : α → β}
    (hp : MoneySound (Settles δ) p past s) :
    MoneySound (Settles δ) (p >>= fun r => (return r.map g : RepoM (Option β))) past s := by
  refine hp.bind (fun r past' s' h => sound_ret fun s'' hs'' _ => ⟨rfl, ?_⟩)
    fun _ _ _ h => absurd h.1 (by simp [Except.toOption])
  cases r with
  | none => exact h.2
  | some a => exact fun s₃ hs₃ => h.2 s₃ (moneyTerms.rel_trans hs'' hs₃)

/-- **A money call moves what it says, or nothing**, whatever others do in between. -/
theorem prog_sound {call : MoneyCall} (hcall : call.NotNegative) :
    MoneySound (Settles call.effect) call.prog [] s := by
  cases call with
  | refund t x => exact sound_map (refund_sound hcall)
  | transfer a b x => exact sound_map (transfer_sound hcall)
  | deposit w x ref => exact sound_map (sound_catch (moveOwn_sound .add w hcall movedBy_nil))
  | withdraw w x => exact sound_map (sound_catch (moveOwn_sound .subtract w hcall movedBy_nil))
  | consume w x => exact sound_map (sound_catch (moveOwn_sound .subtract w hcall movedBy_nil))

end Methods

/-! ### Runs -/

section Runs

variable {ι : Type} [Fintype ι] [DecidableEq ι] {s : Store} {calls : ι → MoneyCall}
  {pool : MoneyPool ι}

abbrev FreshReach (s : Store) (calls : ι → MoneyCall) : MoneyPool ι → Prop :=
  Pool.Reach handle (fun _ _ => False) (fun i past s c => Fresh (past i) s c)
    (MoneyPool.start s calls)

omit [Fintype ι] [DecidableEq ι] in
theorem movedBy_of_ended
    (hpool : Pool.AllSound moneyTerms handle (fun _ => Fresh)
      (fun _ _ _ c => Statement.MovesMoney c) (fun i => Settles (calls i).effect) pool)
    {i : ι} (hi : (pool.progs i).Ended) : movedBy (pool.past i) =
      if ReturnedTransaction (pool.progs i) then (calls i).effect pool.state else 0 := by
  cases hprog : pool.progs i with
  | ret r =>
    have hsettled := (hpool.of_ret hprog).2
    cases r with
    | none => exact hsettled
    | some txns => exact hsettled _ (moneyTerms.rel_refl _)
  | raise e => exact absurd (hpool.of_raise hprog).1 (by simp [Except.toOption])
  | call c k =>
    rw [hprog] at hi
    exact hi.elim

/-- **No update is lost as long as every update is fresh.** Any number of money calls, none
with a negative amount, run at the same time, in any order of their statements. If every
balance is overwritten only while it is what its call has read, then no balance is
negative, and when all calls have ended, every balance is the one at the start and what
the calls that returned a transaction moved. -/
theorem noLostUpdate_of_fresh (hs : s.Regular) (hcalls : ∀ i, (calls i).NotNegative)
    (hpool : FreshReach s calls pool) : NoLostUpdate s calls pool := by
  refine ⟨balanceOf_nonneg _, fun hended id => ?_⟩
  have hall : Pool.AllSound moneyTerms handle (fun _ => Fresh)
      (fun _ _ _ c => Statement.MovesMoney c) (fun i => Settles (calls i).effect)
      (MoneyPool.start s calls) :=
    ⟨hs.inOrder, fun i => prog_sound (hcalls i)⟩
  have hkeeps : ∀ (i : ι) (past : Past WalletApi Store) (s : Store) (c : Statement),
      s.InOrder → Fresh past s c → c.MovesMoney →
      (handle c s).2.InOrder ∧ moneyTerms.rel s (handle c s).2 :=
    fun _ _ _ _ hs _ hc => movesMoney_keeps hs hc
  have hend := hpool.sound hall (fun _ _ _ _ h => h) hkeeps fun _ _ _ h => h.elim
  have hmoved : pool.state.balanceOf = s.balanceOf + ∑ i, movedBy (pool.past i) :=
    hpool.measure_eq hall (fun _ _ _ _ h => h) hkeeps (fun _ _ _ h => h.elim)
      Store.balanceOf moved (fun _ _ h => h.elim) fun _ _ s c _ _ _ => by
        funext j
        simp [moved]
  rw [hmoved, Pi.add_apply, Finset.sum_apply]
  refine congrArg (s.balanceOf id + ·) (Finset.sum_congr rfl fun i _ => ?_)
  rw [movedBy_of_ended hend (hended i)]
  split <;> rfl

end Runs

/-! ### A race -/

def raceStore : Store :=
  exec Step.run .empty [.createWallet ⟨['a'], .fiat, 100000000, oneUnit_nonneg⟩ 0]

def twoDeposits (_ : Fin 2) : MoneyCall := .deposit 0 100000000 none

def bothRead : List (Fin 2) := [0, 0, 1, 1, 0, 0, 0, 1, 1, 1]

def oneRead : List (Fin 2) := [0, 1, 0, 0, 1, 1, 0, 1, 0, 1]

def racePool (order : List (Fin 2)) : MoneyPool (Fin 2) :=
  (MoneyPool.start raceStore twoDeposits).schedule handle order

/-- Both deposits return a transaction, and the balance is two units, not three. -/
theorem not_noLostUpdate_raced :
    raceStore.Regular ∧ (∀ i, (twoDeposits i).NotNegative) ∧
      Pool.Reach handle (fun _ _ => False) Pool.anyCall
        (MoneyPool.start raceStore twoDeposits) (racePool bothRead) ∧
      ¬NoLostUpdate raceStore twoDeposits (racePool bothRead) := by
  refine ⟨regular_exec _, by decide,
    Pool.Reach.start.schedule (Pool.permitted_anyCall _ _ _), fun h => ?_⟩
  exact absurd (h.2 (by decide) 0) (by decide)

/-- With a fresh read, nothing is lost. -/
theorem noLostUpdate_oneRead : NoLostUpdate raceStore twoDeposits (racePool oneRead) :=
  noLostUpdate_of_fresh (regular_exec _) (by decide) (Pool.Reach.start.schedule (by decide))

end IsaUser.Wallets
