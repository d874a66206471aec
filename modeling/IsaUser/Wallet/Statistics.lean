import IsaUser.Lib.Json
import IsaUser.Wallet.Postings

/-!
# Wallet Statistics

`get_statistics` reads the transactions of a wallet, the latest first and at most a hundred of
them, and adds up their amounts by type. Both transactions of a transfer have the type
`transfer`; the statistics tell them apart by the entry `direction` of the metadata, which
`transfer` does not write.

The column `metadata` stands beside the store. Which texts the identifiers are, and when a
transaction is written, are parameters. No modelled call writes a fee or a blockchain
transaction, so these totals are left out.
-/

open List

namespace IsaUser.Wallets

/-! ### Metadata -/

/-- The store, with the column `metadata` of its transactions. -/
structure Books where
  store : Store
  metadata : Table JsonDict

def Books.empty : Books := ⟨.empty, .empty⟩

/-- What a caller gives beside the amount: the metadata, where a withdrawal goes, and why
something is refunded. -/
structure Details where
  metadata : JsonDict
  destination : Option PyStr
  reason : PyStr

structure Entry where
  step : Step
  details : Details

section Metadata

variable (text : ℕ → PyStr)

def transferMetadata (metadata : JsonDict) (counterparty : ℕ) : JsonDict :=
  (metadata.set "transfer_type" (.str "internal".toList)).set "counterparty_wallet_id"
    (.str (text counterparty))

/-- The metadata of the transactions of a call. The dictionary of the first side of a transfer
is updated again for the second. -/
def MoneyCall.metadata (d : Details) : MoneyCall → List JsonDict
  | deposit .. => [d.metadata]
  | withdraw .. =>
    match IsaUser.given d.destination with
    | some destination => [d.metadata.set "destination" (.str destination)]
    | none => [d.metadata]
  | consume .. => [d.metadata]
  | refund t _ =>
    [(d.metadata.set "original_transaction_id" (.str (text t))).set "refund_reason"
      (.str d.reason)]
  | transfer a b _ =>
    [transferMetadata text d.metadata b,
      transferMetadata text (transferMetadata text d.metadata b) a]

def Step.metadata (d : Details) : Step → List JsonDict
  | createWallet .. => [[("initial_funding", .bool true)]]
  | repository call => call.metadata text d
  | service call => call.metadata text d

def Books.record (b : Books) (e : Entry) : Books :=
  let store := e.step.run b.store
  if store.transactions.size = b.store.transactions.size then { b with store }
  else ⟨store, b.metadata.insertAll (e.step.metadata text e.details)⟩

end Metadata

/-! ### The statistics -/

/-- `metadata.get("direction") == "in"`. -/
def isIncoming (metadata : JsonDict) : Bool :=
  match metadata.get? "direction" with
  | some (.str direction) => direction = "in".toList
  | _ => false

def Books.incoming (b : Books) (t : ℕ) : Bool := (b.metadata.get? t).any isIncoming

structure Totals where
  deposits : ℤ := 0
  withdrawals : ℤ := 0
  consumed : ℤ := 0
  refunded : ℤ := 0
  transfersIn : ℤ := 0
  transfersOut : ℤ := 0
  deriving DecidableEq, Repr

def Totals.add (t : Totals) (row : Transaction) (incoming : Bool) : Totals :=
  match row.transactionType with
  | .deposit => { t with deposits := t.deposits + row.amount }
  | .withdraw => { t with withdrawals := t.withdrawals + row.amount }
  | .consume => { t with consumed := t.consumed + row.amount }
  | .refund => { t with refunded := t.refunded + row.amount }
  | .transfer =>
    if incoming then { t with transfersIn := t.transfersIn + row.amount }
    else { t with transfersOut := t.transfersOut + row.amount }
  | _ => t

def Totals.net (t : Totals) : ℤ :=
  t.deposits + t.refunded + t.transfersIn - t.withdrawals - t.consumed - t.transfersOut

structure WalletStatistics where
  walletId : ℕ
  userId : PyStr
  currentBalance : ℤ
  totals : Totals
  transactionCount : ℕ
  periodStart : Option Timestamp
  periodEnd : Option Timestamp
  deriving DecidableEq, Repr

section Statistics

variable (clock : ℕ → Timestamp) (b : Books)

def Books.rowsOf (id : ℕ) : List (Row Transaction) :=
  b.store.transactions.select (·.walletId = id)

/-- `get_transactions` of one wallet and a period; `clock` says when a transaction was
written. -/
def getTransactions (walletId : ℕ) (startDate endDate : Option Timestamp) (limit : ℕ) :
    List (Row Transaction) :=
  (orderBy (fun row => -clock row.id) ((b.rowsOf walletId).filter fun row =>
    startDate.all (· ≤ clock row.id) && endDate.all (clock row.id ≤ ·))).take limit

def getStatistics (walletId : ℕ) (startDate endDate : Option Timestamp) :
    Option WalletStatistics :=
  match b.store.walletBalance? walletId with
  | none => none
  | some wallet =>
    let transactions := getTransactions clock b walletId startDate endDate 100
    some {
      walletId
      userId := wallet.userId
      currentBalance := wallet.balance
      totals := transactions.foldl (fun t row => t.add row.val (b.incoming row.id)) {}
      transactionCount := transactions.length
      periodStart := startDate
      periodEnd := endDate }

/-- The statistics over the whole period, of every wallet, add up to its balance. -/
def Reconciled : Prop :=
  ∀ id, (b.store.wallets.get? id).isSome →
    ∃ stats, getStatistics clock b id none none = some stats ∧
      stats.totals.net = stats.currentBalance

end Statistics

/-! ### The condition -/

section Condition

variable (b : Books) (e : Entry)

/-- Every wallet has at most a hundred transactions after the step, by what the step touches. -/
def HasRoom : Prop :=
  ∀ id, (b.rowsOf id).length + (e.step.touches b.store).count id ≤ 100

/-- The amount is positive, and the step is no transfer that goes through, and finds room. -/
structure Plain : Prop where
  positive : e.step.Positive
  noTransfer : e.step.IsTransfer → e.step.touches b.store = []
  room : HasRoom b e

/-- The amount is positive, and a transfer finds room. -/
structure Orderly : Prop where
  positive : e.step.Positive
  room : e.step.IsTransfer → HasRoom b e

end Condition

/-! ### Adding up -/

section Sums

variable {clock : ℕ → Timestamp} {b : Books} {id : ℕ}

def Books.counted (b : Books) (row : Row Transaction) : ℤ := row.val.signed (b.incoming row.id)

theorem net_add (t : Totals) (row : Transaction) (incoming : Bool) :
    (t.add row incoming).net = t.net + row.signed incoming := by
  rw [Totals.add, Transaction.signed]
  cases row.transactionType <;> cases incoming <;> simp [Totals.net] <;> ring

theorem net_foldl (b : Books) (rows : List (Row Transaction)) (t : Totals) :
    (rows.foldl (fun t row => t.add row.val (b.incoming row.id)) t).net =
      t.net + (rows.map b.counted).sum := by
  induction rows generalizing t with
  | nil => simp
  | cons row rows ih =>
    rw [foldl_cons, ih, net_add, add_assoc]
    rfl

theorem getStatistics_of_readable {w : WalletBalance} (hw : b.store.walletBalance? id = some w) :
    (∃ stats, getStatistics clock b id none none = some stats ∧
      stats.totals.net = stats.currentBalance) ↔
      ((getTransactions clock b id none none 100).map b.counted).sum = b.store.balanceOf id := by
  obtain ⟨row, hrow, -, -, hbalance, -⟩ := exists_of_walletBalance? hw
  have hof : b.store.balanceOf id = w.balance := by
    rw [Store.balanceOf, hrow, hbalance]
    rfl
  have hzero : ({} : Totals).net = 0 := rfl
  simp only [getStatistics, hw, Option.some.injEq, exists_eq_left', net_foldl, hzero, zero_add, hof]

theorem getTransactions_eq (limit : ℕ) :
    getTransactions clock b id none none limit =
      (orderBy (fun row => -clock row.id) (b.rowsOf id)).take limit := by
  simp [getTransactions]

theorem sum_getTransactions (h : (b.rowsOf id).length ≤ 100) :
    ((getTransactions clock b id none none 100).map b.counted).sum =
      ((b.rowsOf id).map b.counted).sum := by
  have hlen : (orderBy (fun row => -clock row.id) (b.rowsOf id)).length ≤ 100 := by
    rwa [(orderBy_perm _ _).length_eq]
  rw [getTransactions_eq, take_of_length_le hlen, sum_map_orderBy]

theorem counted_of_isOwn {row : Row Transaction} (h : row.val.IsOwn) :
    b.counted row = row.val.moved := by
  rw [Books.counted, Transaction.moved, Transaction.signed, Transaction.signed]
  rw [Transaction.IsOwn] at h
  cases ht : row.val.transactionType with
  | transfer => simp [ht] at h
  | _ => rfl

theorem moved_ne_zero {row : Transaction} (h : row.IsOwn) (hpos : 0 < row.amount) :
    row.moved ≠ 0 := by
  rw [Transaction.IsOwn] at h
  rw [Transaction.moved, Transaction.signed]
  cases ht : row.transactionType with
  | deposit | withdraw | consume | refund => simp only; omega
  | _ => simp [ht] at h

end Sums

/-! ### Sound books -/

/-- The balances are what the transactions account for, and every transaction has its
metadata. -/
structure Books.Sound (b : Books) : Prop where
  regular : b.store.Regular
  accounted : ∀ id, b.store.balanceOf id = ((b.rowsOf id).map fun row => row.val.moved).sum
  owned : ∀ t row, b.store.transactions.get? t = some row →
    (b.store.wallets.get? row.walletId).isSome
  aligned : b.metadata.size = b.store.transactions.size

/-- Sound books without a transfer, and without a wallet of more than a hundred
transactions. -/
structure Books.Simple (b : Books) : Prop where
  sound : b.Sound
  own : ∀ t row, b.store.transactions.get? t = some row → row.IsOwn
  bounded : ∀ id, (b.rowsOf id).length ≤ 100

section Books

variable {clock : ℕ → Timestamp} {text : ℕ → PyStr} {b : Books} {e : Entry} {id : ℕ}
  {rows : List Transaction}

theorem mem_rowsOf {row : Row Transaction} :
    row ∈ b.rowsOf id ↔ b.store.transactions.get? row.id = some row.val ∧
      row.val.walletId = id := by
  simp [Books.rowsOf, Table.mem_select]

/-- **Simple books reconcile.** -/
theorem Books.Simple.reconciled (h : b.Simple) : Reconciled clock b := by
  intro id hid
  obtain ⟨w, hw⟩ := h.sound.regular.readable hid
  rw [getStatistics_of_readable hw, sum_getTransactions (h.bounded id), h.sound.accounted]
  congr 1
  refine map_congr_left fun row hrow => counted_of_isOwn ?_
  exact h.own row.id row.val (mem_rowsOf.mp hrow).1

theorem sound_empty : Books.empty.Sound where
  regular := regular_empty
  accounted id := by simp [Books.empty, Store.empty, Store.balanceOf, Books.rowsOf, Table.select,
    Table.entries, Table.empty, Table.get?]
  owned t row h := by simp [Books.empty, Store.empty] at h
  aligned := rfl

theorem simple_empty : Books.empty.Simple where
  sound := sound_empty
  own t row h := by simp [Books.empty, Store.empty] at h
  bounded id := by simp [Books.empty, Store.empty, Books.rowsOf, Table.select, Table.entries,
    Table.empty]

@[simp] theorem record_store : (b.record text e).store = e.step.run b.store := by
  rw [Books.record]
  split <;> rfl

variable (text) in
theorem touches_length (s : Store) (d : Details) (step : Step) :
    step.touches s = [] ∨ (step.touches s).length = (step.metadata text d).length := by
  have hcall : ∀ call : MoneyCall,
      call.touches s = [] ∨ (call.touches s).length = (call.metadata text d).length := by
    intro call
    cases call with
    | refund t x =>
      simp only [MoneyCall.touches, MoneyCall.metadata]
      cases s.refunds? t x <;> simp
    | withdraw w x =>
      simp only [MoneyCall.touches, MoneyCall.metadata]
      split <;> split <;> simp
    | _ =>
      simp only [MoneyCall.touches, MoneyCall.metadata]
      split <;> simp
  cases step with
  | createWallet data now =>
    simp only [Step.touches, Step.metadata]
    split <;> simp
  | repository call => exact hcall call
  | service call => exact hcall call

theorem touches_length_le {s : Store} {step : Step} (h : ¬step.IsTransfer) :
    (step.touches s).length ≤ 1 := by
  have hcall : ∀ call : MoneyCall, ¬(Step.repository call).IsTransfer →
      (call.touches s).length ≤ 1 := by
    intro call hcall
    cases call with
    | transfer a b x => exact absurd trivial hcall
    | refund t x =>
      simp only [MoneyCall.touches]
      cases s.refunds? t x <;> simp
    | _ =>
      simp only [MoneyCall.touches]
      split <;> simp
  cases step with
  | createWallet data now =>
    simp only [Step.touches]
    split <;> simp
  | repository call => exact hcall call h
  | service call => exact hcall call (by cases call <;> exact h)

theorem rowsOf_record_length (h : StepPosts b.store e.step rows) :
    ((b.record text e).rowsOf id).length =
      (b.rowsOf id).length + (e.step.touches b.store).count id := by
  rw [Books.rowsOf, Books.rowsOf, Table.length_select, Table.length_select, record_store,
    h.posts.log, Table.insertAll, countP_append, ← h.touches, count, countP_map]
  rfl

theorem sum_moved (b : Books) (id : ℕ) : ((b.rowsOf id).map fun row => row.val.moved).sum =
    b.store.transactions.sumBy fun row => if row.walletId = id then row.moved else 0 := by
  rw [Books.rowsOf, Table.sumBy_select _ _ Transaction.moved]
  simp only [decide_eq_true_eq]

theorem get?_record (h : StepPosts b.store e.step rows) {t : ℕ} {row : Transaction}
    (ht : (b.record text e).store.transactions.get? t = some row) :
    b.store.transactions.get? t = some row ∨ row ∈ rows := by
  rw [record_store, h.posts.log, Table.get?, Table.insertAll, getElem?_append] at ht
  split at ht
  · exact .inl ht
  · exact .inr (mem_of_getElem? ht)

variable (text) in
theorem record_metadata (h : StepPosts b.store e.step rows) :
    rows = [] ∧ (b.record text e).metadata = b.metadata ∨
      rows.length = (e.step.metadata text e.details).length ∧
        (b.record text e).metadata = b.metadata.insertAll (e.step.metadata text e.details) := by
  have hsize : (e.step.run b.store).transactions.size =
      b.store.transactions.size + rows.length := by
    rw [h.posts.log]
    exact length_append
  have hlength : rows.length = (e.step.touches b.store).length := by
    rw [← h.touches, length_map]
  rw [Books.record]
  by_cases hrows : rows = []
  · rw [hrows, length_nil, add_zero] at hsize
    exact .inl ⟨hrows, by rw [if_pos hsize]⟩
  · have hpos := length_pos_iff.mpr hrows
    refine .inr ⟨?_, by rw [if_neg (by omega)]⟩
    rcases touches_length text b.store e.details e.step with hnil | hlen
    · rw [hlength, hnil] at hpos
      cases hpos
    · exact hlength.trans hlen

/-- **A step of a positive amount keeps the books sound.** -/
theorem Books.Sound.record (hb : b.Sound) (h : StepPosts b.store e.step rows) :
    (b.record text e).Sound where
  regular := by
    rw [record_store]
    exact e.step.regular_run hb.regular
  accounted id := by
    rw [sum_moved, record_store, h.posts.log, h.posts.balances, hb.accounted, sum_moved,
      Table.sumBy_insertAll]
  owned t row ht := by
    rcases get?_record h ht with ht | hrow
    · rw [record_store]
      exact h.posts.wallets _ (hb.owned t row ht)
    · rw [record_store]
      exact h.posts.owned row hrow
  aligned := by
    have hsize : (b.record text e).store.transactions.size =
        b.store.transactions.size + rows.length := by
      rw [record_store, h.posts.log]
      exact length_append
    rcases record_metadata text h with ⟨rfl, hmetadata⟩ | ⟨hlength, hmetadata⟩
    · rw [hsize, hmetadata]
      exact hb.aligned
    · rw [hsize, hmetadata, hlength, ← hb.aligned]
      exact length_append

theorem Books.Simple.record (hb : b.Simple) (he : Plain b e) : (b.record text e).Simple := by
  obtain ⟨rows, h⟩ := Step.posts hb.sound.regular he.positive
  refine ⟨hb.sound.record h, fun t row ht => ?_, fun id => ?_⟩
  · rcases get?_record h ht with ht | hrow
    · exact hb.own t row ht
    · by_cases htransfer : e.step.IsTransfer
      · have hnil : rows = [] := by
          rw [← map_eq_nil_iff (f := fun row : Transaction => row.walletId), h.touches,
            he.noTransfer htransfer]
        rw [hnil] at hrow
        cases hrow
      · exact h.own htransfer row hrow
  · rw [rowsOf_record_length h]
    exact he.room id

end Books

/-! ### What breaks the statistics -/

section Breaks

variable {clock : ℕ → Timestamp} {text : ℕ → PyStr} {b : Books} {e : Entry}

theorem not_reconciled_of_full (hb : b.Sound)
    (hown : ∀ t row, b.store.transactions.get? t = some row → row.IsOwn) {id : ℕ}
    (hid : (b.store.wallets.get? id).isSome) (hlen : (b.rowsOf id).length = 101) :
    ¬Reconciled clock b := by
  intro hreconciled
  obtain ⟨w, hw⟩ := hb.regular.readable hid
  have hsum := (getStatistics_of_readable hw).mp (hreconciled id hid)
  rw [getTransactions_eq, hb.accounted] at hsum
  generalize hsorted : orderBy (fun row => -clock row.id) (b.rowsOf id) = sorted at hsum
  have hperm : sorted.Perm (b.rowsOf id) := hsorted ▸ orderBy_perm _ _
  have hcounted : ∀ row ∈ sorted, b.counted row = row.val.moved := fun row hrow =>
    counted_of_isOwn (hown row.id row.val (mem_rowsOf.mp (hperm.mem_iff.mp hrow)).1)
  rw [← (hperm.map _).sum_eq, ← take_append_drop 100 sorted, map_append, take_append_drop, map_congr_left fun row hrow =>
      hcounted row (mem_of_mem_take hrow)] at hsum
  obtain ⟨last, hlast⟩ : ∃ last, sorted.drop 100 = [last] := by
    rw [← length_eq_one_iff, length_drop, hperm.length_eq, hlen]
  have hmem : last ∈ sorted := mem_of_mem_drop (hlast ▸ mem_singleton_self last)
  have hget := (mem_rowsOf.mp (hperm.mem_iff.mp hmem)).1
  have hzero : last.val.moved = 0 := by
    rw [hlast] at hsum
    simpa using hsum
  exact moved_ne_zero (hown _ _ hget) (hb.regular.amount_pos _ _ hget) hzero

/-- The entry `direction` is the caller's, on both sides of a transfer. -/
theorem isIncoming_transferMetadata (metadata : JsonDict) (counterparty : ℕ) :
    isIncoming (transferMetadata text metadata counterparty) = isIncoming metadata := by
  rw [isIncoming, transferMetadata, JsonDict.get?_set_of_ne _ _ (by decide),
    JsonDict.get?_set_of_ne _ _ (by decide), isIncoming]

variable (text) in
theorem incoming_record (hb : b.Sound) {sent received : Transaction}
    (h : StepPosts b.store e.step [sent, received]) (htransfer : e.step.IsTransfer) :
    (b.record text e).incoming b.store.transactions.size = isIncoming e.details.metadata ∧
      (b.record text e).incoming (b.store.transactions.size + 1) =
        isIncoming e.details.metadata := by
  rcases record_metadata text h with ⟨hnil, -⟩ | ⟨-, hmetadata⟩
  · cases hnil
  · obtain ⟨a, c, hlist⟩ : ∃ a c, e.step.metadata text e.details =
        [transferMetadata text e.details.metadata a,
          transferMetadata text (transferMetadata text e.details.metadata a) c] := by
      cases hstep : e.step with
      | createWallet data now =>
        rw [hstep] at htransfer
        exact absurd htransfer (fun h => h)
      | repository call | service call =>
        rw [hstep] at htransfer
        cases call with
        | transfer w v x => exact ⟨_, _, rfl⟩
        | _ => exact absurd htransfer (fun h => h)
    rw [hlist, Table.insertAll_cons, Table.insertAll_cons, Table.insertAll_nil] at hmetadata
    rw [Books.incoming, Books.incoming, hmetadata, ← hb.aligned]
    simp [Table.get?_insert, isIncoming_transferMetadata]

theorem rowsOf_transfer {sent received : Transaction}
    (h : StepPosts b.store e.step [sent, received]) (id : ℕ) :
    (b.record text e).rowsOf id = b.rowsOf id ++
      ((if sent.walletId = id then [⟨b.store.transactions.size, sent⟩] else []) ++
        if received.walletId = id then [⟨b.store.transactions.size + 1, received⟩] else []) := by
  rw [Books.rowsOf, Books.rowsOf, record_store, h.posts.log, Table.insertAll_cons,
    Table.insertAll_cons, Table.insertAll_nil, Table.select_insert, Table.select_insert,
    Table.size_insert, append_assoc]
  simp only [decide_eq_true_eq]

theorem sum_map_ite {α : Type} (p : Prop) [Decidable p] (a : α) (f : α → ℤ) :
    ((if p then [a] else []).map f).sum = if p then f a else 0 := by
  split
  · exact sum_singleton
  · rfl

theorem signed_of_reconciled (hb : b.Simple) {sent received : Transaction}
    (h : StepPosts b.store e.step [sent, received]) (htransfer : e.step.IsTransfer)
    (hroom : HasRoom b e) (hreconciled : Reconciled clock (b.record text e)) (id : ℕ)
    (hid : ((b.record text e).store.wallets.get? id).isSome) :
    ((if sent.walletId = id then sent.signed (isIncoming e.details.metadata) else 0) +
        if received.walletId = id then received.signed (isIncoming e.details.metadata) else 0) =
      (if sent.walletId = id then sent.moved else 0) +
        if received.walletId = id then received.moved else 0 := by
  have hsound : (b.record text e).Sound := hb.sound.record h
  obtain ⟨hsent, hreceived⟩ := incoming_record text hb.sound h htransfer
  obtain ⟨w, hw⟩ := hsound.regular.readable hid
  have hsum := (getStatistics_of_readable hw).mp (hreconciled id hid)
  have hlen : ((b.record text e).rowsOf id).length ≤ 100 := by
    rw [rowsOf_record_length h]
    exact hroom id
  have hold : (b.rowsOf id).map (b.record text e).counted =
      (b.rowsOf id).map fun row => row.val.moved :=
    map_congr_left fun row hrow =>
      counted_of_isOwn (hb.own row.id row.val (mem_rowsOf.mp hrow).1)
  rw [sum_getTransactions hlen, hsound.accounted, rowsOf_transfer h] at hsum
  simp only [map_append, sum_append, hold, sum_map_ite] at hsum
  simpa only [Books.counted, hsent, hreceived] using add_left_cancel hsum

/-- **A transfer that goes through breaks the statistics** of one of its wallets: of the
recipient, unless the caller's metadata say that it comes in, and then of the sender. -/
theorem not_reconciled_of_transfer (hb : b.Simple) (hpos : e.step.Positive)
    (htransfer : e.step.IsTransfer) (htouches : e.step.touches b.store ≠ [])
    (hroom : HasRoom b e) : ¬Reconciled clock (b.record text e) := by
  intro hreconciled
  obtain ⟨rows, h⟩ := Step.posts hb.sound.regular hpos
  rcases h.pair htransfer with rfl | ⟨sent, received, rfl, hpair⟩
  · exact htouches h.touches.symm
  · have hx : 0 < received.amount := h.posts.positive received (by simp)
    have hcounts := signed_of_reconciled hb h htransfer hroom hreconciled
    rw [record_store] at hcounts
    have hsent := hcounts sent.walletId (h.posts.owned sent (by simp))
    have hreceived := hcounts received.walletId (h.posts.owned received (by simp))
    have hsigned : ∀ incoming, sent.signed incoming = received.signed incoming := fun incoming => by
      simp only [Transaction.signed, hpair.sentType, hpair.receivedType, hpair.amount_eq]
    have hcounted : received.signed (isIncoming e.details.metadata) =
        if isIncoming e.details.metadata then received.amount else -received.amount := by
      simp only [Transaction.signed, hpair.receivedType]
    rw [moved_of_sent hpair, moved_of_received hpair, hsigned, hcounted, hpair.amount_eq]
      at hsent hreceived
    cases hdirection : isIncoming e.details.metadata with
    | true =>
      split at hsent <;> simp at hsent <;> omega
    | false =>
      rw [hdirection] at hreceived
      split at hreceived <;> simp at hreceived <;> omega

theorem not_reconciled_record (hb : b.Simple) (he : Orderly b e) (hnot : ¬Plain b e) :
    ¬Reconciled clock (b.record text e) := by
  by_cases htransfer : e.step.IsTransfer
  · refine not_reconciled_of_transfer hb he.positive htransfer (fun hnil => hnot ?_)
      (he.room htransfer)
    exact ⟨he.positive, fun _ => hnil, he.room htransfer⟩
  · obtain ⟨rows, h⟩ := Step.posts hb.sound.regular he.positive
    have hfull : ∃ id, 100 < (b.rowsOf id).length + (e.step.touches b.store).count id := by
      by_contra hcon
      exact hnot ⟨he.positive, fun h => absurd h htransfer,
        fun id => not_lt.mp fun hlt => hcon ⟨id, hlt⟩⟩
    obtain ⟨id, hfull⟩ := hfull
    have hbounded := hb.bounded id
    have hcount : (e.step.touches b.store).count id ≤ 1 :=
      count_le_length.trans (touches_length_le htransfer)
    have hmem : id ∈ e.step.touches b.store := count_pos_iff.mp (by omega)
    rw [← h.touches] at hmem
    obtain ⟨row, hrow, hid⟩ := mem_map.mp hmem
    have hsound : (b.record text e).Sound := hb.sound.record h
    have hfound : ((b.record text e).store.wallets.get? id).isSome := by
      rw [record_store, ← hid]
      exact h.posts.owned row hrow
    refine not_reconciled_of_full hsound (fun t r ht => ?_) hfound ?_
    · exact (get?_record h ht).elim (hb.own t r) (h.own htransfer r)
    · rw [rowsOf_record_length h]
      omega

end Breaks

/-! ### Histories -/

def aliceSendsBob : List Entry :=
  [⟨.createWallet ⟨['a'], .fiat, 1000000000, by decide⟩ 0, ⟨[], none, []⟩⟩,
    ⟨.createWallet ⟨['b'], .fiat, 0, noUnits_nonneg⟩ 1, ⟨[], none, []⟩⟩,
    ⟨.service (.transfer 0 1 500000000), ⟨[], none, []⟩⟩]

end IsaUser.Wallets
