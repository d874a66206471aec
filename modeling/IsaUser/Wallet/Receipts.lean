import IsaUser.Wallet.LostUpdates
import IsaUser.Wallet.Redelivery

/-!
# Events Recorded as Done

A payment event counts as done once its claim is completed, its result is cached, or its
identifier is in the set of processed events of a replica. Each of the three is written by
handlers that may be wrong about it: the answer of the deposit is not looked at, a wallet
that could not be read counts as no wallet, and a claim that is refused, or could not be
asked for, publishes a result of its own.
-/

open IsaUser.Prog

namespace IsaUser.Wallets

open IsaUser.Core Pool Table Pool.Reach

/-! ### The law -/

def Store.OwnedBy (s : Store) (id : ℕ) (userId : PyStr) : Prop :=
  ∃ wallet, s.wallets.get? id = some wallet ∧ wallet.userId = userId

/-- What `reference_id` is for an event. -/
def MoneyEvent.reference : MoneyEvent → Option PyStr
  | paymentCompleted e => e.paymentId
  | paymentRefunded e => (given e.refundId).or e.paymentId
  | subscriptionCreated e => e.subscriptionId

/-- The call adds `x` to the balance of a wallet of the user. -/
def Credits (userId : PyStr) (x : ℤ) (id : ℕ) (w : EventWorld) : HandlerCall → Prop
  | .body (.wallet (.updateBalance id' b)) =>
    id' = id ∧ Deposits w (.body (.wallet (.updateBalance id' b))) ∧
      w.inner.store.OwnedBy id userId ∧ b = w.inner.store.balanceOf id + x
  | _ => False

/-- The call writes the transaction of a deposit of `x`. -/
def Records (userId : PyStr) (x : ℤ) (reference : Option PyStr) (id : ℕ) (w : EventWorld) :
    HandlerCall → Prop
  | .body (.wallet (.insertTransaction row)) =>
    w.inner.database ≠ .down ∧ row.walletId = id ∧ row.userId = userId ∧
      row.transactionType = .deposit ∧ row.amount = x ∧
      row.referenceId = reference.map .external
  | _ => False

/-- The delivery has put the amount of the event into a wallet of its user, and has written
the transaction. -/
def Received (e : MoneyEvent) (past : EventPast) : Prop :=
  ∃ userId x id, e.deposit? = some (userId, x) ∧
    (∃ entry ∈ past, Credits userId x id entry.1 entry.2) ∧
    ∃ entry ∈ past, Records userId x e.reference id entry.1 entry.2

def Done (w : EventWorld) : Prop :=
  w.inner.Completed ∨ w.result.isSome ∨ ∃ replica, w.inner.processed replica = true

/-! ### The condition -/

/-- A call on the way to the deposit goes through: the statement is answered, a claim is
granted, a balance is overwritten only while it is what the statement before has read, and
the transaction is written, answered or not. -/
def GoesThrough (past : EventPast) (w : EventWorld) : HandlerCall → Prop
  | .body (.insertClaim _ _) => w.inner.database = .up
  | .body (.reclaim p now cutoff) =>
    w.inner.database = .up ∧ (w.inner.reclaim p now cutoff).1 = true
  | .body (.wallet (.updateBalance id _)) =>
    w.inner.database = .up ∧
      ∀ entry ∈ past.head?, entry.1.inner.store.balanceOf id = w.inner.store.balanceOf id
  | .body (.wallet (.insertTransaction _)) => w.inner.database ≠ .down
  | .body (.wallet (.selectTransaction _)) => True
  | .body (.wallet _) => w.inner.database = .up
  | _ => True

instance (past : EventPast) (w : EventWorld) : (c : HandlerCall) → Decidable (GoesThrough past w c)
  | .body (.insertClaim _ _) => inferInstanceAs (Decidable (_ = _))
  | .body (.reclaim _ _ _) => inferInstanceAs (Decidable (_ ∧ _))
  | .body (.wallet (.updateBalance _ _)) =>
    inferInstanceAs (Decidable (_ ∧ ∀ entry ∈ past.head?, _))
  | .body (.wallet (.insertTransaction _)) => inferInstanceAs (Decidable (_ ≠ _))
  | .body (.wallet (.selectTransaction _)) => .isTrue trivial
  | .body (.wallet (.selectWallet _)) => inferInstanceAs (Decidable (_ = _))
  | .body (.wallet (.selectWallets _ _)) => inferInstanceAs (Decidable (_ = _))
  | .body (.wallet (.insertWallet _)) => inferInstanceAs (Decidable (_ = _))
  | .body (.isEventProcessed _) => .isTrue trivial
  | .body (.markEventProcessed _) => .isTrue trivial
  | .body .clock => .isTrue trivial
  | .body (.setCompleted _) => .isTrue trivial
  | .body (.setFailed _) => .isTrue trivial
  | .cacheGet => .isTrue trivial
  | .cacheSet _ _ => .isTrue trivial
  | .acquire _ => .isTrue trivial
  | .release _ => .isTrue trivial
  | .enter _ => .isTrue trivial

/-- Until the deposit has been made, the calls of the deliveries go through. -/
def Undisturbed {ι : Type*} (e : MoneyEvent) (i : ι) (past : ι → EventPast) (w : EventWorld)
    (c : HandlerCall) : Prop :=
  (∃ j, Received e (past j)) ∨ GoesThrough (past i) w c

/-! ### Runs -/

def Store.Unlocked (s : Store) : Prop :=
  ∀ id wallet, s.wallets.get? id = some wallet → wallet.lockedBalance = 0

def Store.HasPrimary (s : Store) (userId : PyStr) : Prop :=
  ∃ id wallet, s.wallets.get? id = some wallet ∧ wallet.userId = userId ∧
    wallet.walletType = .fiat

def Wallet.SameOwner (wallet later : Wallet) : Prop :=
  later.userId = wallet.userId ∧ later.walletType = wallet.walletType

structure OthersWork (w w' : EventStore) : Prop where
  claim : w'.claim = w.claim
  processed : ∀ replica, w'.processed replica = true → w.processed replica = true
  unlocked : w'.store.Unlocked
  wallets : w.store.wallets.Extends Wallet.SameOwner w'.store.wallets

/-- The runs of the deliveries of an event whose calls meet `A`. -/
abbrev PaymentRun {ι : Type*} [DecidableEq ι]
    (A : ι → (ι → EventPast) → EventWorld → HandlerCall → Prop) :
    EventPool ι → EventPool ι → Prop :=
  Reach (guardHandle eventHandle) (Elapses OthersWork) A

def MoneyEvent.IsPayment (e : MoneyEvent) : Prop :=
  ∃ p, e = .paymentCompleted p ∨ e = .paymentRefunded p

def MoneyEvent.user? : MoneyEvent → Option PyStr
  | paymentCompleted e => given e.userId
  | paymentRefunded e => given e.userId
  | subscriptionCreated e => given e.userId

/-- The deliveries start from here: the event is not done, and its user has a primary
wallet. -/
structure Awaits (e : MoneyEvent) (w : EventWorld) : Prop where
  fresh : ¬Done w
  unlocked : w.inner.store.Unlocked
  primary : ∀ userId ∈ e.user?, w.inner.store.HasPrimary userId

/-! ### What a delivery relies on and promises -/

theorem Wallet.SameOwner.refl (wallet : Wallet) : wallet.SameOwner wallet := ⟨rfl, rfl⟩

theorem Wallet.SameOwner.trans {a b c : Wallet} (h : a.SameOwner b) (h' : b.SameOwner c) :
    a.SameOwner c :=
  ⟨h'.1.trans h.1, h'.2.trans h.2⟩

/-- Nothing is locked, the user keeps a primary wallet, and wallets keep their owners. -/
def receiptTerms (e : MoneyEvent) : Terms EventWorld where
  inv w := w.inner.store.Unlocked ∧ ∀ userId ∈ e.user?, w.inner.store.HasPrimary userId
  rel w w' := w.inner.store.wallets.Extends Wallet.SameOwner w'.inner.store.wallets
  rel_refl _ := Extends.refl Wallet.SameOwner.refl _
  rel_trans h h' := Extends.trans (R := Wallet.SameOwner) Wallet.SameOwner.trans h h'

def Promises (e : MoneyEvent) (past : EventPast) (_ : EventWorld) : HandlerCall → Prop
  | .cacheSet _ _ => Received e past
  | .body (.setCompleted _) => Received e past
  | .body (.markEventProcessed _) => Received e past ∨ FoundResult past
  | .body (.wallet (.insertWallet _)) => False
  | _ => True

/-- A part of a delivery, while others work: it keeps its promises and ends as `Q` says, as
long as its calls go through. -/
abbrev ReceiptSound {ε α : Type} (e : MoneyEvent)
    (Q : Except ε α → EventPast → EventWorld → Prop)
    (p : Prog (GuardApi EventApi EventResult) ε α) (past : EventPast) (w : EventWorld) : Prop :=
  p.Sound (receiptTerms e) (guardHandle eventHandle) GoesThrough (Promises e) Q past w

theorem Received.cons {e : MoneyEvent} {past : EventPast} (h : Received e past)
    (entry : EventWorld × HandlerCall) : Received e (entry :: past) := by
  obtain ⟨userId, x, id, hpays, ⟨credit, hcredit, h₁⟩, record, hrecord, h₂⟩ := h
  exact ⟨userId, x, id, hpays, ⟨credit, .tail _ hcredit, h₁⟩, record, .tail _ hrecord, h₂⟩

theorem Store.OwnedBy.of_extends {s s' : Store} {id : ℕ} {userId : PyStr} (h : s.OwnedBy id userId)
    (hs : s.wallets.Extends Wallet.SameOwner s'.wallets) : s'.OwnedBy id userId := by
  obtain ⟨wallet, hget, howner⟩ := h
  obtain ⟨later, hlater, hsame⟩ := hs id wallet hget
  exact ⟨later, hlater, hsame.1.trans howner⟩

theorem Store.HasPrimary.of_extends {s s' : Store} {userId : PyStr} (h : s.HasPrimary userId)
    (hs : s.wallets.Extends Wallet.SameOwner s'.wallets) : s'.HasPrimary userId := by
  obtain ⟨id, wallet, hget, howner, htype⟩ := h
  obtain ⟨later, hlater, hsame⟩ := hs id wallet hget
  exact ⟨id, later, hlater, hsame.1.trans howner, hsame.2.trans htype⟩

/-! ### Statements -/

section Statements

variable {e : MoneyEvent} {ε α β : Type} {past : EventPast} {w : EventWorld}
  {raised : RepositoryError → ε} {userId : PyStr} {id : ℕ}

abbrev inGuard (raised : RepositoryError → ε) (p : RepoM α) :
    Prog (GuardApi EventApi EventResult) ε α :=
  p.embed ⟨fun c => .body (.wallet c), fun _ r => r⟩ raised

def withStore (w : EventWorld) (s : Store) : EventWorld :=
  { w with inner := { w.inner with store := s } }

theorem sound_statement {c : Statement} {f : c.Reply → RepoM α}
    {Q : Except ε α → EventPast → EventWorld → Prop}
    (hpromise : ∀ past w, Promises e past w (.body (.wallet c)))
    (hup : ∀ past w, GoesThrough past w (.body (.wallet c)) → w.inner.database = .up)
    (h : ∀ w₁, (receiptTerms e).rel w w₁ → (receiptTerms e).inv w₁ →
      GoesThrough past w₁ (.body (.wallet c)) →
      ∃ a s, handle c w₁.inner.store = (.ok a, s) ∧
        ReceiptSound e Q (inGuard raised (f a)) ((w₁, .body (.wallet c)) :: past)
          (withStore w₁ s)) :
    ReceiptSound e Q (inGuard raised (sql c >>= f)) past w := by
  intro w₁ hrel hinv
  refine ⟨hpromise past w₁, fun hgoes => ?_⟩
  obtain ⟨a, s, hrun, hsound⟩ := h w₁ hrel hinv hgoes
  have hanswer : guardHandle eventHandle (.body (.wallet c)) w₁ = (.ok a, withStore w₁ s) := by
    rw [guardHandle, eventHandle, sendWallet_of_up (hup past w₁ hgoes), hrun]
    rfl
  rw [hanswer]
  exact hsound

/-- What `get_wallet` answers for a wallet of the user. -/
def WalletFound (id : ℕ) (userId : PyStr) (past : EventPast)
    (r : Except ε (Option WalletBalance)) (past' : EventPast) (w : EventWorld) : Prop :=
  ∃ w₁ wallet, past' = (w₁, .body (.wallet (.selectWallet id))) :: past ∧ r = .ok (some wallet) ∧
    wallet.walletId = id ∧ wallet.userId = userId ∧
    wallet.balance = w₁.inner.store.balanceOf id ∧ w.inner.store.OwnedBy id userId

theorem toWalletBalance_of_unlocked (row : Row Wallet) (h : row.val.lockedBalance = 0) :
    ∃ wallet, toWalletBalance row = .ret wallet ∧ wallet.walletId = row.id ∧
      wallet.userId = row.val.userId ∧ wallet.balance = row.val.balance := by
  have hle : row.val.lockedBalance ≤ row.val.balance := h.trans_le row.val.balance_nonneg
  exact ⟨_, dif_pos hle, rfl, rfl, rfl⟩

theorem getWallet_found (howned : w.inner.store.OwnedBy id userId) :
    ReceiptSound e (WalletFound id userId past) (inGuard raised (getWallet id)) past w := by
  rw [inGuard, getWallet, embed_tryCatch]
  refine Sound.tryCatch (Q := WalletFound id userId past)
    (sound_statement (fun _ _ => trivial) (fun _ _ h => h) fun w₁ hrel hinv _ => ?_)
    (fun _ _ _ ⟨w₁, wallet, hpast, hr, h⟩ => ⟨w₁, wallet, hpast, by cases hr; rfl, h⟩)
    fun _ _ _ ⟨_, _, _, h, _⟩ => by cases h
  obtain ⟨row, hrow, howner⟩ := howned.of_extends hrel
  obtain ⟨wallet, hread, hid, huser, hbalance⟩ :=
    toWalletBalance_of_unlocked ⟨id, row⟩ (hinv.1 id row hrow)
  refine ⟨_, _, rfl, ?_⟩
  simp only [hrow, Option.map_some, hread]
  refine sound_ret fun w₂ hrel₂ _ => ⟨w₁, wallet, rfl, rfl, hid, huser.trans howner, ?_, ?_⟩
  · rw [hbalance, Store.balanceOf, hrow]
    rfl
  · exact Store.OwnedBy.of_extends ⟨row, hrow, howner⟩ hrel₂

theorem handle_updateBalance {s : Store} {b : ℤ} (howned : s.OwnedBy id userId) (hb : 0 ≤ b) :
    ∃ s', handle (.updateBalance id b) s = (.ok 1, s') ∧
      s.wallets.Extends Wallet.SameOwner s'.wallets := by
  obtain ⟨row, hrow, -⟩ := howned
  refine ⟨_, by simp only [handle, hrow, hb]; rfl, ?_⟩
  exact extends_modify Wallet.SameOwner.refl _ _ fun _ _ => ⟨rfl, rfl⟩

/-- The balance has been changed by exactly `x`. -/
def Credited (userId : PyStr) (x : ℤ) (id : ℕ) (r : Except ε (Option ℤ)) (past : EventPast)
    (w : EventWorld) : Prop :=
  (∃ b, r = .ok (some b)) ∧ w.inner.store.OwnedBy id userId ∧
    ∃ entry ∈ past, Credits userId x id entry.1 entry.2

theorem updateBalance_credits {x : ℤ} (hx : 0 < x) (howned : w.inner.store.OwnedBy id userId) :
    ReceiptSound e (Credited userId x id) (inGuard raised (updateBalance id x .add)) past w := by
  rw [inGuard, updateBalance, embed_tryCatch, embed_bind]
  refine Sound.tryCatch (Q := Credited userId x id)
    ((getWallet_found howned).bind (fun found past₁ w₁ hfound => ?_)
      fun _ _ _ ⟨_, _, _, h, _⟩ => by cases h)
    (fun _ _ _ ⟨⟨b, hr⟩, h⟩ => ⟨⟨b, by cases hr; rfl⟩, h⟩) fun _ _ _ ⟨⟨_, h⟩, _⟩ => by cases h
  obtain ⟨w₀, wallet, rfl, hr, -, -, hbalance, howned₁⟩ := hfound
  obtain rfl := Except.ok.inj hr
  refine sound_statement (fun _ _ => trivial) (fun _ _ h => h.1) fun w₂ hrel₂ _ hgoes => ?_
  have howned₂ := howned₁.of_extends hrel₂
  have hsame : w₀.inner.store.balanceOf id = w₂.inner.store.balanceOf id := hgoes.2 _ rfl
  have hb : wallet.balance + x = w₂.inner.store.balanceOf id + x := by rw [hbalance, hsame]
  have hpos : 0 ≤ wallet.balance + x := by
    have := balanceOf_nonneg w₂.inner.store id
    omega
  obtain ⟨s', hrun, hkept⟩ := handle_updateBalance howned₂ hpos
  refine ⟨1, s', hrun, sound_ret fun w₃ hrel₃ _ => ⟨⟨_, rfl⟩, ?_, _, .head _, rfl, ?_, ?_, hb⟩⟩
  · exact (howned₂.of_extends hkept).of_extends hrel₃
  · have hlink := hgoes.1
    simp [Deposits, hlink, hrun]
  · exact howned₂

abbrev Harmless (e : MoneyEvent) (c : HandlerCall) : Prop := ∀ past w, Promises e past w c

abbrev HarmlessAfter (e : MoneyEvent) (c : HandlerCall) : Prop :=
  ∀ past w, Received e past → Promises e past w c

theorem sound_of_harmless {p : Prog (GuardApi EventApi EventResult) ε α}
    (hp : p.Only (Harmless e)) : ReceiptSound e (fun _ _ _ => True) p past w :=
  hp.sound (K := fun _ => True) trivial fun _ hc past w _ => ⟨hc past w, trivial⟩

theorem received_of_harmless {p : Prog (GuardApi EventApi EventResult) ε α}
    (hp : p.Only (HarmlessAfter e)) (hpast : Received e past) :
    ReceiptSound e (fun _ past _ => Received e past) p past w :=
  hp.sound hpast fun _ hc past w h => ⟨hc past w h, h.cons _⟩

theorem createTransaction_records {data : TransactionCreate} {x : ℤ} {b b' : ℤ}
    (hpays : e.deposit? = some (userId, x)) (howner : data.userId = userId)
    (htype : data.transactionType = .deposit) (hamount : data.amount = x)
    (hreference : data.referenceId = e.reference.map .external)
    (hcredit : ∃ entry ∈ past, Credits userId x data.walletId entry.1 entry.2) :
    ReceiptSound e (fun _ past _ => Received e past)
      (inGuard raised (createTransaction data b b')) past w := by
  have honly : (inGuard raised (createTransaction data b b')).Only (HarmlessAfter e) :=
    Only.embed (Only.tryCatch (Only.bind (sql_only fun _ _ _ => trivial) fun _ =>
      sql_only fun _ _ _ => trivial) fun _ => trivial)
  intro w₁ _ _
  refine ⟨trivial, fun hgoes => received_of_harmless (honly.2 _) ?_⟩
  obtain ⟨credit, hmem, hcredits⟩ := hcredit
  exact ⟨userId, x, data.walletId, hpays, ⟨credit, .tail _ hmem, hcredits⟩, _, .head _,
    hgoes, rfl, howner, htype, hamount, hreference⟩

/-- **A deposit whose statements go through is received.** -/
theorem deposit_received {x : ℤ} (hpays : e.deposit? = some (userId, x)) (hx : 0 < x)
    (howned : w.inner.store.OwnedBy id userId) :
    ReceiptSound e (fun _ past _ => Received e past)
      (inGuard raised (WalletService.deposit id x e.reference)) past w := by
  rw [inGuard, WalletService.deposit, embed_bind]
  refine Sound.bind (Q := fun _ past _ => Received e past) ?_
    (fun _ _ _ h => sound_ret fun _ _ _ => h) fun _ _ _ h => h
  rw [Wallets.deposit, embed_tryCatch]
  refine Sound.tryCatch (Q := fun _ past _ => Received e past) ?_ (fun _ _ _ h => h)
    fun _ _ _ h => sound_ret fun _ _ _ => h
  rw [moveOwn, embed_bind]
  refine (getWallet_found howned).bind (fun found past₁ w₁ hfound => ?_)
    fun _ _ _ h => by obtain ⟨_, _, _, h, _⟩ := h; cases h
  obtain ⟨w₀, wallet, rfl, hr, hid, huser, -, howned₁⟩ := hfound
  obtain rfl := Except.ok.inj hr
  dsimp only
  rw [if_neg (by simp), embed_bind]
  refine (updateBalance_credits hx howned₁).bind (fun updated past₂ w₂ hcredited => ?_)
    fun _ _ _ h => by obtain ⟨⟨_, h⟩, _⟩ := h; cases h
  obtain ⟨⟨b, hb⟩, -, hcredit⟩ := hcredited
  obtain rfl := Except.ok.inj hb
  rw [transactionCreate, dif_pos hx]
  exact createTransaction_records hpays huser rfl rfl rfl hcredit

theorem toWalletBalances_of_unlocked (rows : List (Row Wallet))
    (h : ∀ row ∈ rows, row.val.lockedBalance = 0) :
    ∃ wallets, toWalletBalances rows = .ret wallets ∧
      wallets.map (·.walletId) = rows.map (·.id) := by
  induction rows with
  | nil => exact ⟨[], rfl, rfl⟩
  | cons row rows ih =>
    obtain ⟨wallet, hread, hid, -, -⟩ := toWalletBalance_of_unlocked _ (h row (.head _))
    obtain ⟨wallets, hrows, hids⟩ := ih fun r hr => h r (.tail _ hr)
    refine ⟨wallet :: wallets, ?_, by rw [List.map_cons, List.map_cons, hid, hids]⟩
    rw [toWalletBalances, hread, hrows]
    rfl

theorem handle_selectWallets (s : Store) (userId : PyStr) :
    ∃ rows, handle (.selectWallets userId .fiat) s = (.ok rows, s) ∧ ∀ row, row ∈ rows ↔
      s.wallets.get? row.id = some row.val ∧ row.val.userId = userId ∧
        row.val.walletType = .fiat := by
  refine ⟨_, rfl, fun row => ?_⟩
  rw [mem_orderBy, mem_select]
  simp

theorem getPrimaryWallet_found (huser : userId ∈ e.user?) :
    ReceiptSound e (fun r _ w => ∃ wallet, r = .ok (some wallet) ∧
      w.inner.store.OwnedBy wallet.walletId userId) (inGuard raised (getPrimaryWallet userId))
      past w := by
  rw [inGuard, getPrimaryWallet, embed_bind, getUserWallets, embed_tryCatch]
  refine Sound.bind (Q := fun r _ w => ∃ wallets : List WalletBalance, r = .ok wallets ∧
    ∃ wallet, wallets.head? = some wallet ∧ w.inner.store.OwnedBy wallet.walletId userId)
    (Sound.tryCatch (Q := fun r _ w => ∃ wallets : List WalletBalance, r = .ok wallets ∧
      ∃ wallet, wallets.head? = some wallet ∧ w.inner.store.OwnedBy wallet.walletId userId)
      (sound_statement (fun _ _ => trivial) (fun _ _ h => h) fun w₁ hrel hinv _ => ?_)
      (fun _ _ _ ⟨wallets, hr, h⟩ => ⟨wallets, by cases hr; rfl, h⟩)
      fun _ _ _ ⟨_, h, _⟩ => by cases h)
    (fun wallets past₁ w₁ ⟨found, hr, wallet, hhead, howned⟩ =>
      sound_ret fun w₂ hrel₂ _ => ⟨wallet, ?_, howned.of_extends hrel₂⟩)
    fun _ _ _ ⟨_, h, _⟩ => by cases h
  · obtain ⟨rows, hrun, hmem⟩ := handle_selectWallets w₁.inner.store userId
    obtain ⟨wallets, hread, hids⟩ := toWalletBalances_of_unlocked rows fun row hrow =>
      hinv.1 row.id row.val ((hmem row).mp hrow).1
    refine ⟨rows, w₁.inner.store, hrun, ?_⟩
    rw [hread]
    refine sound_ret fun w₂ hrel₂ _ => ⟨wallets, rfl, ?_⟩
    -- the user has a primary wallet, so the list is not empty
    obtain ⟨id, v, hget, howner, htype⟩ := hinv.2 userId huser
    have hrow : (⟨id, v⟩ : Row Wallet) ∈ rows := (hmem _).mpr ⟨hget, howner, htype⟩
    cases wallets with
    | nil =>
      rw [List.map_nil, eq_comm, List.map_eq_nil_iff] at hids
      rw [hids] at hrow
      cases hrow
    | cons wallet wallets =>
      refine ⟨wallet, rfl, ?_⟩
      have hid : wallet.walletId ∈ rows.map (·.id) := by
        rw [← hids]
        exact List.mem_cons_self
      obtain ⟨row, hrow', hid⟩ := List.mem_map.mp hid
      have hfound := (hmem row).mp hrow'
      rw [hid] at hfound
      exact Store.OwnedBy.of_extends ⟨row.val, hfound.1, hfound.2.1⟩ hrel₂
  · obtain rfl := Except.ok.inj hr
    rw [hhead]

end Statements

/-! ### Handlers -/

section Handlers

variable {e : MoneyEvent} {d : Delivery} {past : EventPast} {w : EventWorld}

theorem unguarded_walletCall {α : Type} (p : RepoM α) :
    unguarded (walletCall p) = inGuard (.body ∘ .repository) p :=
  embed_embed p

theorem unguarded_bind {α β : Type} (p : EventM α) (f : α → EventM β) :
    unguarded (p >>= f) = unguarded p >>= fun a => unguarded (f a) :=
  embed_bind p f

def SetsReceived (e : MoneyEvent) (r : Except (GuardError EventError) (Option EventResult))
    (past : EventPast) (_ : EventWorld) : Prop :=
  ∀ result, r = .ok (some result) → Received e past

theorem setsReceived_none (e : MoneyEvent) (past : EventPast) (w : EventWorld) :
    SetsReceived e (.ok none) past w :=
  fun _ h => by cases h

theorem markWalletEventFailed_harmless : (unguarded markWalletEventFailed).Only (Harmless e) :=
  Only.embed (Only.tryCatch (markEventProcessingFailed_only (fun _ _ => trivial)
    fun _ _ _ => trivial) fun _ => trivial)

theorem finish_received (result : EventResult) (hpast : Received e past) :
    ReceiptSound e (SetsReceived e) (unguarded (finish d result)) past w := by
  have honly : (unguarded (finish d result)).Only (HarmlessAfter e) := by
    refine Only.embed (Only.bind (perform_only fun _ _ h => .inl h) fun _ =>
      Only.bind (Only.tryCatch ?_ fun _ => trivial) fun _ => trivial)
    exact markEventProcessingCompleted_only (fun _ _ _ => trivial) fun _ _ _ h => h
  exact (received_of_harmless honly hpast).mono fun _ _ _ h _ _ => h

theorem missingFields_sound :
    ReceiptSound e (SetsReceived e) (unguarded missingFields) past w := by
  rw [missingFields, unguarded_bind]
  exact (sound_of_harmless markWalletEventFailed_harmless).bind
    (fun _ past w _ => sound_ret fun _ _ _ => setsReceived_none e past _)
    fun _ _ _ _ _ h => by cases h

theorem depositInto_received {wallet : WalletBalance} {amount : EventAmount} {userId : PyStr}
    (hpays : ∀ x, amount = .number x → 0 < x → e.deposit? = some (userId, x))
    (howned : w.inner.store.OwnedBy wallet.walletId userId) :
    ReceiptSound e (fun r past _ => ∀ u, r = .ok u → Received e past)
      (unguarded (depositInto wallet amount e.reference)) past w := by
  have hraise : ReceiptSound e (fun r past _ => ∀ u : Unit, r = .ok u → Received e past)
      (unguarded (.raise .amount)) past w :=
    sound_raise fun _ _ _ _ h => by cases h
  rw [depositInto, unguarded_bind]
  cases amount with
  | number x =>
    by_cases hx : 0 < x
    · rw [depositRequest, if_pos hx]
      rw [show unguarded (pure x : EventM ℤ) = .ret x from rfl, ret_bind, unguarded_bind,
        unguarded_walletCall]
      exact (deposit_received (hpays x rfl hx) hx howned).bind
        (fun _ _ _ h => sound_ret fun _ _ _ _ _ => h) fun _ _ _ _ _ h => by cases h
    · rw [depositRequest, if_neg hx]
      exact hraise
  | _ => exact hraise

/-- **The work for a payment sets a result only after its deposit.** -/
theorem depositPayment_sound {p : PaymentEvent} {result : EventResult}
    (hpays : ∀ userId x, given p.userId = some userId → p.amount = .number x → 0 < x →
      e.deposit? = some (userId, x))
    (huser : e.user? = given p.userId) :
    ReceiptSound e (SetsReceived e) (unguarded (depositPayment d p e.reference result)) past w := by
  rw [depositPayment]
  cases hgiven : given p.userId with
  | none => exact missingFields_sound
  | some userId =>
    dsimp only
    split
    · exact missingFields_sound
    · rw [withPrimaryWallet, unguarded_bind, unguarded_walletCall]
      refine (getPrimaryWallet_found (huser.trans hgiven)).bind (fun found past₁ w₁ hfound => ?_)
        fun _ _ _ h => by obtain ⟨_, h, _⟩ := h; cases h
      obtain ⟨wallet, hr, howned⟩ := hfound
      obtain rfl := Except.ok.inj hr
      rw [unguarded_bind, unguarded_bind]
      refine Sound.bind (Q := fun r past _ => ∀ u, r = .ok u → Received e past)
        ((depositInto_received (fun x hx hpos => hpays userId x hgiven hx hpos) howned).bind
          (fun u _ _ h => sound_ret fun _ _ _ _ _ => h u rfl) fun _ _ _ _ _ h => by cases h)
        (fun result past w h => finish_received result (h result rfl))
        fun _ _ _ _ _ h => by cases h

theorem work_sound (he : e.IsPayment) :
    ReceiptSound e (SetsReceived e) (unguarded (e.work d)) past w := by
  have hpays : ∀ (p : PaymentEvent) userId x, given p.userId = some userId →
      p.amount = .number x → 0 < x → MoneyEvent.deposit?.payment p = some (userId, x) := by
    intro p userId x huser hamount hx
    rw [MoneyEvent.deposit?.payment, huser, hamount]
    exact if_pos hx
  obtain ⟨p, rfl | rfl⟩ := he
  · exact depositPayment_sound (e := .paymentCompleted p) (hpays p) rfl
  · exact depositPayment_sound (e := .paymentRefunded p) (hpays p) rfl

theorem claimSql_answered {c : EventCall} {answer : c.Reply → Except DbError Bool}
    {R : Bool → Prop} (hpromise : ∀ past w, Promises e past w (.body c))
    (h : ∀ w₁, GoesThrough past w₁ (.body c) → ∃ b,
      answer (guardHandle eventHandle (.body c) w₁).1 = .ok b ∧ R b) :
    ReceiptSound e (fun r _ _ => ∃ b, r = .ok b ∧ R b)
      ((claimSql c answer).embed (bodyCalls EventApi EventResult) id) past w := by
  intro w₁ _ _
  refine ⟨hpromise _ _, fun hgoes => ?_⟩
  obtain ⟨b, hb, hR⟩ := h w₁ hgoes
  simp only [bodyCalls, hb]
  exact sound_ret fun _ _ _ => ⟨b, rfl, hR⟩

theorem claimWalletEvent_granted (processorId : ℕ) :
    ReceiptSound e (fun r _ _ => r = .ok true) (unguarded (claimWalletEvent processorId))
      past w := by
  rw [unguarded, claimWalletEvent, embed_tryCatch, claimEventProcessing, embed_bind]
  refine Sound.tryCatch (Q := fun r _ _ => r = .ok true) ?_
    (fun _ _ _ h => by cases h; rfl) fun _ _ _ h => by cases h
  refine Sound.bind (Q := fun r _ _ => ∃ now, r = .ok now)
    (fun w₁ _ _ => ⟨trivial, fun _ => sound_ret fun _ _ _ => ⟨_, rfl⟩⟩)
    (fun now past₁ w₁ _ => ?_) fun _ _ _ ⟨_, h⟩ => by cases h
  rw [embed_bind]
  refine Sound.bind (Q := fun r _ _ => ∃ b, r = .ok b ∧ True)
    (claimSql_answered (c := .insertClaim processorId now) (fun _ _ => trivial) fun w₂ hup => ?_)
    (fun inserted past₂ w₂ _ => ?_) fun _ _ _ ⟨_, h, _⟩ => by cases h
  · exact ⟨_, congrArg Prod.fst (send_of_up hup), trivial⟩
  · split
    · exact sound_ret fun _ _ _ => rfl
    · refine (claimSql_answered (c := .reclaim processorId now _) (R := fun b => b = true)
        (fun _ _ => trivial) fun w₃ hgoes => ?_).mono fun _ _ _ ⟨_, hr, hb⟩ => by rw [hr, hb]
      exact ⟨_, congrArg Prod.fst (send_of_up hgoes.1), hgoes.2⟩

theorem onceClaimed_sound (he : e.IsPayment) (token : Token) :
    ReceiptSound e (SetsReceived e) (unguarded (onceClaimed d (e.work d) (.acquired token)))
      past w := by
  have hclaims : onceClaimed d (e.work d) (.acquired token) =
      claimWalletEvent d.processorId >>= fun claimed =>
        if claimed then e.work d else return some .alreadyClaimed := rfl
  rw [hclaims, unguarded_bind]
  refine (claimWalletEvent_granted d.processorId).bind (fun claimed past₁ w₁ h => ?_)
    fun _ _ _ h => by cases h
  obtain rfl := Except.ok.inj h
  exact work_sound he

/-- **A handler records its event as done only after its deposit**, or after it has found
that the event is done. -/
theorem handler_sound (he : e.IsPayment) :
    ReceiptSound e (fun _ _ _ => True) (e.handler d) past w := by
  have hplain : ∀ (c : HandlerCall) past w, c.IsPlain → Promises e past w c := by
    intro c past w hc
    cases c with
    | body c => exact hc.elim
    | cacheSet result ttl => exact hc.elim
    | _ => trivial
  have hguard : ∀ past w, ReceiptSound e (fun _ _ _ => True)
      (guard (eventGuard d) (onceClaimed d (e.work d))) past w := by
    intro past w
    have hset : ∀ past w result ttl, Received e past → Promises e past w (.cacheSet result ttl) :=
      fun _ _ _ _ h => h
    refine guard_keeps hplain hset
      (fun result past w hfound => ?_) (fun past w => ?_) fun token past w => ?_
    · exact fun w₁ _ _ => ⟨trivial, fun _ w₂ _ _ => ⟨.inr hfound.cons, fun _ =>
        sound_ret fun _ _ _ => trivial⟩⟩
    · exact fun w₁ _ _ => ⟨trivial, fun _ => sound_ret fun _ _ _ => trivial⟩
    · exact fun w₁ _ _ => ⟨trivial, fun _ => onceClaimed_sound he token⟩
  rw [e.handler_eq]
  refine Sound.bind (Q := fun _ _ _ => True)
    (fun w₁ _ _ => ⟨trivial, fun _ => sound_ret fun _ _ _ => trivial⟩)
    (fun processed past₁ w₁ _ => ?_) fun _ _ _ _ => trivial
  split
  · exact sound_ret fun _ _ _ => trivial
  · refine (hguard _ _).tryCatch (fun _ _ _ _ => trivial) fun err past₂ w₂ _ => ?_
    cases err with
    | body err => exact sound_of_harmless markWalletEventFailed_harmless
    | _ => exact sound_ret fun _ _ _ => trivial

end Handlers

/-! ### One call -/

section Step

variable {e : MoneyEvent} {past : EventPast} {w : EventWorld} {c : HandlerCall}

theorem handle_keeps_wallets {s : Store} {c : Statement} (hc : ∀ wallet, c ≠ .insertWallet wallet)
    (hs : s.Unlocked) :
    (handle c s).2.Unlocked ∧ s.wallets.Extends Wallet.SameOwner (handle c s).2.wallets := by
  cases c with
  | insertWallet wallet => exact absurd rfl (hc wallet)
  | updateBalance id b =>
    simp only [handle]
    split
    · exact ⟨hs, Extends.refl Wallet.SameOwner.refl _⟩
    · split
      · refine ⟨fun j wallet hget => ?_,
          extends_modify Wallet.SameOwner.refl _ _ fun _ _ => ⟨rfl, rfl⟩⟩
        rw [get?_modify] at hget
        split at hget
        · obtain ⟨v, hv, rfl⟩ := Option.map_eq_some_iff.mp hget
          exact hs _ v hv
        · exact hs j wallet hget
      · exact ⟨hs, Extends.refl Wallet.SameOwner.refl _⟩
  | _ => exact ⟨hs, Extends.refl Wallet.SameOwner.refl _⟩

theorem store_after (c : HandlerCall) (w : EventWorld) :
    (guardHandle eventHandle c w).2.inner.store = w.inner.store ∨
      ∃ s, c = .body (.wallet s) ∧
        (guardHandle eventHandle c w).2.inner.store = (handle s w.inner.store).2 := by
  have hsent : ∀ {ρ : Type} {executed : ρ × EventStore}, executed.2.store = w.inner.store →
      (w.inner.send executed).2.store = w.inner.store := fun h =>
    Link.send_snd (P := fun v : EventStore => v.store = w.inner.store) rfl h
  cases c with
  | body c =>
    cases c with
    | insertClaim p now =>
      refine .inl (hsent ?_)
      rcases insertClaim_cases w.inner p now with ⟨-, h⟩ | h <;> rw [h]
    | reclaim p now cutoff =>
      refine .inl (hsent ?_)
      rcases reclaim_cases w.inner p now cutoff with ⟨_, -, -, -, h⟩ | h <;> rw [h]
    | setCompleted t => exact .inl (hsent rfl)
    | setFailed t => exact .inl (hsent rfl)
    | wallet s =>
      show (w.inner.sendWallet s).2.store = _ ∨ _
      rw [EventStore.sendWallet.eq_def]
      cases hlink : w.inner.database with
      | down => exact .inl rfl
      | up => exact .inr ⟨s, rfl, by rw [guardHandle, eventHandle, sendWallet_of_up hlink]⟩
      | lost => exact .inr ⟨s, rfl,
          by rw [guardHandle, eventHandle, EventStore.sendWallet, hlink]⟩
    | _ => exact .inl rfl
  | _ => exact .inl (congrArg EventStore.store (inner_of_not_isBody id w))

theorem terms_kept (hinv : (receiptTerms e).inv w) (hc : Promises e past w c) :
    (receiptTerms e).inv (guardHandle eventHandle c w).2 ∧
      (receiptTerms e).rel w (guardHandle eventHandle c w).2 := by
  have hstore : (guardHandle eventHandle c w).2.inner.store.Unlocked ∧
      (receiptTerms e).rel w (guardHandle eventHandle c w).2 := by
    rcases store_after c w with h | ⟨s, rfl, h⟩
    · exact ⟨by rw [h]; exact hinv.1, by
        show w.inner.store.wallets.Extends _ _
        rw [h]
        exact Extends.refl Wallet.SameOwner.refl _⟩
    · have hkept := handle_keeps_wallets (c := s)
        (fun wallet hs => by rw [hs] at hc; exact hc) hinv.1
      exact ⟨by rw [h]; exact hkept.1, by
        show w.inner.store.wallets.Extends _ _
        rw [h]
        exact hkept.2⟩
  exact ⟨⟨hstore.1, fun userId huser => (hinv.2 userId huser).of_extends hstore.2⟩, hstore.2⟩

def RecordsDone : HandlerCall → Prop
  | .cacheSet _ _ => True
  | .body (.setCompleted _) => True
  | .body (.markEventProcessed _) => True
  | _ => False

def NoMoreDone (v v' : EventStore) : Prop :=
  (v'.Completed → v.Completed) ∧ v'.processed = v.processed

theorem noMoreDone_of_claim {v v' : EventStore} (hclaim : v'.claim = v.claim)
    (hprocessed : v'.processed = v.processed) : NoMoreDone v v' :=
  ⟨fun ⟨row, hrow, hdone⟩ => ⟨row, hclaim ▸ hrow, hdone⟩, hprocessed⟩

theorem event_after {c : EventCall} (hc : ¬RecordsDone (.body c)) (v : EventStore) :
    NoMoreDone v (eventHandle c v).2 := by
  have hsame : NoMoreDone v v := noMoreDone_of_claim rfl rfl
  have hsent : ∀ {ρ : Type} {executed : ρ × EventStore}, NoMoreDone v executed.2 →
      NoMoreDone v (v.send executed).2 := fun h => Link.send_snd (P := NoMoreDone v) hsame h
  have htaken : ∀ p now, NoMoreDone v { v with claim := some ⟨p, .processing, now⟩ } := by
    refine fun p now => ⟨?_, rfl⟩
    rintro ⟨row, hrow, hdone⟩
    obtain rfl := Option.some.inj hrow
    cases hdone
  cases c with
  | insertClaim p now =>
    refine hsent ?_
    rcases insertClaim_cases v p now with ⟨-, h⟩ | h <;> rw [h]
    · exact htaken p now
    · exact hsame
  | reclaim p now cutoff =>
    refine hsent ?_
    rcases reclaim_cases v p now cutoff with ⟨_, -, -, -, h⟩ | h <;> rw [h]
    · exact htaken p now
    · exact hsame
  | setFailed t =>
    refine hsent ⟨?_, rfl⟩
    rintro ⟨row, hrow, hdone⟩
    obtain ⟨old, hold, rfl⟩ := Option.map_eq_some_iff.mp hrow
    refine ⟨old, hold, ?_⟩
    by_contra hopen
    rw [if_pos hopen] at hdone
    cases hdone
  | wallet s =>
    refine noMoreDone_of_claim (sendWallet_claim s) ?_
    show (v.sendWallet s).2.processed = _
    rw [EventStore.sendWallet]
    split <;> rfl
  | isEventProcessed _ => exact hsame
  | clock => exact hsame
  | markEventProcessed _ => exact absurd trivial hc
  | setCompleted _ => exact absurd trivial hc

theorem result_after (hc : ¬RecordsDone c) : (guardHandle eventHandle c w).2.result = w.result := by
  cases c with
  | cacheSet result ttl => exact absurd trivial hc
  | acquire ttl =>
    rw [guardHandle, Guarded.acquire]
    split
    · rfl
    · cases w.lockLink <;> rfl
  | release token =>
    rw [guardHandle, Guarded.release]
    cases w.lockLink <;> rfl
  | _ => rfl

theorem done_after (h : Done (guardHandle eventHandle c w).2) : Done w ∨ RecordsDone c := by
  by_cases hc : RecordsDone c
  · exact .inr hc
  · left
    have hinner : NoMoreDone w.inner (guardHandle eventHandle c w).2.inner := by
      cases c with
      | body c => exact event_after hc w.inner
      | _ =>
        rw [inner_of_not_isBody id w]
        exact noMoreDone_of_claim rfl rfl
    rcases h with hcompleted | hresult | hprocessed
    · exact .inl (hinner.1 hcompleted)
    · exact .inr (.inl (result_after hc ▸ hresult))
    · exact .inr (.inr (hinner.2 ▸ hprocessed))

end Step

/-! ### Every run -/

section Runs

variable {ι : Type*} [DecidableEq ι] {e : MoneyEvent} {deliveries : ι → Delivery}
  {w : EventWorld} {pool : EventPool ι}

theorem received_update {past : ι → EventPast} {i : ι} {entry : EventWorld × HandlerCall}
    (h : ∃ j, Received e (past j)) :
    ∃ j, Received e (Function.update past i (entry :: past i) j) := by
  obtain ⟨j, hj⟩ := h
  refine ⟨j, ?_⟩
  by_cases hji : j = i
  · subst hji
    rw [Function.update_self]
    exact hj.cons entry
  · rwa [Function.update_of_ne hji]

theorem goes_of_not_received
    (hpool : PaymentRun (Undisturbed e) (EventPool.start w e deliveries) pool)
    (h : ¬∃ i, Received e (pool.past i)) :
    PaymentRun (fun i past w c => GoesThrough (past i) w c)
      (EventPool.start w e deliveries) pool := by
  induction hpool with
  | start => exact .start
  | env _ hs ih => exact (ih h).env hs
  | @step pool i hreach hA ih =>
    have hbefore : ¬∃ j, Received e (pool.past j) := by
      intro hreceived
      refine h ?_
      rw [advance]
      split
      · exact hreceived
      · exact hreceived
      · exact received_update hreceived
    exact (ih hbefore).step i fun c k hck => (hA c k hck).resolve_left hbefore

theorem result_of_cacheGet (h : w.cacheGet.isSome) : w.result.isSome := by
  rw [Guarded.cacheGet] at h
  split at h
  · cases hresult : w.result with
    | none =>
      rw [hresult] at h
      cases h
    | some cached => rfl
  · cases h

def DoneReceived (e : MoneyEvent) (w : EventWorld) (past : ι → EventPast) : Prop :=
  (Done w ∨ ∃ i, FoundResult (past i)) → ∃ i, Received e (past i)

theorem doneReceived_step {past : ι → EventPast} {i : ι} {c : HandlerCall}
    (hpromise : Promises e (past i) w c) (h : DoneReceived e w past) :
    DoneReceived e (guardHandle eventHandle c w).2 (Function.update past i ((w, c) :: past i)) := by
  have hbefore : Done w ∨ (∃ j, FoundResult (past j)) ∨ RecordsDone c → ∃ j, Received e (past j) := by
    rintro (hdone | hfound | hrecords)
    · exact h (.inl hdone)
    · exact h (.inr hfound)
    · cases c with
      | cacheSet result ttl => exact ⟨i, hpromise⟩
      | body c =>
        cases c with
        | setCompleted t => exact ⟨i, hpromise⟩
        | markEventProcessed r =>
          rcases hpromise with hreceived | hfound
          · exact ⟨i, hreceived⟩
          · exact h (.inr ⟨i, hfound⟩)
        | _ => cases hrecords
      | _ => cases hrecords
  rintro (hdone | ⟨j, hfound⟩)
  · refine received_update (hbefore ?_)
    rcases done_after hdone with hdone | hrecords
    · exact .inl hdone
    · exact .inr (.inr hrecords)
  · refine received_update (hbefore ?_)
    by_cases hji : j = i
    · subst hji
      rw [Function.update_self] at hfound
      obtain ⟨entry, hmem, hget, hsome⟩ := hfound
      rcases List.mem_cons.mp hmem with rfl | hmem
      · -- the result that is found now is cached now
        exact .inl (.inr (.inl (result_of_cacheGet hsome)))
      · exact .inr (.inl ⟨j, entry, hmem, hget, hsome⟩)
    · rw [Function.update_of_ne hji] at hfound
      exact .inr (.inl ⟨j, hfound⟩)

theorem others_keep {w' : EventWorld} (h : Elapses OthersWork w w') :
    ((receiptTerms e).inv w → (receiptTerms e).inv w' ∧ (receiptTerms e).rel w w') ∧
      (Done w' → Done w) := by
  refine ⟨fun hinv => ⟨⟨h.inner.unlocked, fun userId huser =>
    (hinv.2 userId huser).of_extends h.inner.wallets⟩, h.inner.wallets⟩, ?_⟩
  rintro (⟨row, hrow, hdone⟩ | hresult | ⟨replica, hprocessed⟩)
  · exact .inl ⟨row, h.inner.claim ▸ hrow, hdone⟩
  · exact .inr (.inl (h.result ▸ hresult))
  · exact .inr (.inr ⟨replica, h.inner.processed replica hprocessed⟩)

end Runs

/-! ### Two payments that are lost -/

theorem deposits_of_received {e : MoneyEvent} {past : EventPast} (h : Received e past) :
    0 < deposits past := by
  obtain ⟨userId, x, id, -, ⟨⟨w, c⟩, hmem, hcredit⟩, -⟩ := h
  refine List.countP_pos_iff.mpr ⟨(w, c), hmem, ?_⟩
  cases c with
  | body c =>
    cases c with
    | wallet s =>
      cases s with
      | updateBalance id' b => simpa using hcredit.2.1
      | _ => cases hcredit
    | _ => cases hcredit
  | _ => cases hcredit

def connect {ι : Type} (link : Link) (pool : EventPool ι) : EventPool ι :=
  { pool with
    state := { pool.state with inner := { pool.state.inner with database := link } } }

def skipped : EventPool (Fin 2) :=
  let claimed := (EventPool.start paymentWorld payment twoReplicas).schedule
    (guardHandle eventHandle) (List.replicate 7 0)
  (elapse (seconds 121) claimed).schedule (guardHandle eventHandle) (List.replicate 10 1)

def undeposited : EventPool (Fin 2) :=
  let read := (EventPool.start paymentWorld payment twoReplicas).schedule
    (guardHandle eventHandle) (List.replicate 10 0)
  let failed := (connect .down read).schedule (guardHandle eventHandle) [0]
  (connect .up failed).schedule (guardHandle eventHandle) (List.replicate 5 0)

theorem awaits_payment : Awaits payment paymentWorld where
  fresh := by
    rintro (⟨row, hrow, -⟩ | hresult | ⟨replica, hprocessed⟩)
    · cases hrow
    · cases hresult
    · cases hprocessed
  unlocked := (regular_exec _).unlocked
  primary := by
    intro userId huser
    obtain rfl : ['a'] = userId := Option.some.inj huser
    exact ⟨0, _, rfl, rfl, rfl⟩

end IsaUser.Wallets
