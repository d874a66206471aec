import IsaUser.Lib.Binary64
import IsaUser.Lib.Values

/-!
# Tiered Prices

`calculate_price` of `product_service.py`: the rows of `product_pricing` are scanned for one
whose bounds hold the quantity, and the last row is taken where none does. A sum is the product
of two `Decimal`s, with 28 digits, rounded to eight decimal places. The unit type, which is only
passed on, is left out.
-/

open Option

namespace IsaUser.Product

/-! ### Rows -/

/-- A row of `product_pricing`. -/
structure PricingRow where
  pricingId : PyStr
  productId : PyStr
  tierName : Option PyStr
  minQuantity : Option Double
  maxQuantity : Option Double
  unitPrice : Double
  createdAt : Option Timestamp
  deriving DecidableEq

/-- `Decimal(str(x))`. -/
def decimal (x : Double) : ℚ := shortest x.1

/-- `Decimal(str(row.get("min_quantity", 0)))`; the text of `None` is no number. -/
def PricingRow.minimum (row : PricingRow) : Option ℚ := row.minQuantity.map decimal

/-- `max_quantity`. -/
def PricingRow.maximum (row : PricingRow) : Option ℚ := row.maxQuantity.map decimal

/-- The key of `ORDER BY min_quantity ASC, created_at ASC`. -/
def PricingRow.orderKey (row : PricingRow) : Lex (WithTop ℚ × WithTop Timestamp) :=
  toLex (row.minQuantity.elim ⊤ fun x => x.1, nullsLast row.createdAt)

def getProductPricingRows (table : List PricingRow) (productId : PyStr) : List PricingRow :=
  orderBy PricingRow.orderKey (table.filter fun row => row.productId = productId)

/-! ### Prices -/

/-- The loop of `_select_pricing_row_for_quantity`. It fails at a row without a minimum. -/
def scanRows (quantity : ℚ) : List PricingRow → Option (Option PricingRow)
  | [] => some none
  | row :: rows =>
    match row.minimum with
    | none => none
    | some least =>
      if quantity < least then scanRows quantity rows
      else
        match row.maximum with
        | none => some (some row)
        | some most => if quantity ≤ most then some (some row) else scanRows quantity rows

/-- `_select_pricing_row_for_quantity`. -/
def selectPricingRow (rows : List PricingRow) (quantity : ℚ) : Option (Option PricingRow) :=
  (scanRows quantity rows).map fun found => found <|> rows.getLast?

/-- The result of an operation on `Decimal`s. -/
def inContext (x : ℚ) : ℚ :=
  let place : ℚ := (10 : ℚ) ^ (Int.log 10 |x| - 27)
  roundHalfEven (x / place) * place

/-- `quantize(Decimal("0.00000001"), rounding=ROUND_HALF_UP)`, which fails where the result has
more than 28 digits. -/
def quantizePrice (x : ℚ) : Option ℚ :=
  let n := ⌊|x| * 10 ^ 8 + 1 / 2⌋
  if n < 10 ^ 28 then some ((if 0 ≤ x then n else -n) / 10 ^ 8) else none

/-- What `calculate_price` reads of a product. -/
structure PricedProduct where
  productId : PyStr
  basePrice : ℚ
  isActive : Bool

/-- What `calculate_price` answers. -/
inductive PriceAnswer where
  | failure (message : String)
  | raised
  | price (pricingModelId tierName : Option PyStr) (unitPrice totalPrice : ℚ)
  deriving DecidableEq

def PriceAnswer.of (pricingModelId tierName : Option PyStr) (quantity unitPrice : ℚ) :
    PriceAnswer :=
  match quantizePrice (inContext (quantity * unitPrice)) with
  | none => raised
  | some totalPrice => price pricingModelId tierName unitPrice totalPrice

/-- `calculate_price`, of the product that the repository finds. -/
def calculatePrice (table : List PricingRow) (product : Option PricedProduct) (quantity : ℚ) :
    PriceAnswer :=
  match product.filter PricedProduct.isActive with
  | none => .failure "Product not found"
  | some product =>
    let rows := getProductPricingRows table product.productId
    if rows = [] then .of none (some "base".toList) quantity product.basePrice
    else
      match selectPricingRow rows quantity with
      | none => .raised
      | some none => .failure "Pricing definition not found"
      | some (some row) => .of (some row.pricingId) row.tierName quantity (decimal row.unitPrice)

/-! ### Consecutive bounds -/

/-- Rows with consecutive integer bounds, from `least` on, of which only the last has no
maximum. -/
inductive Consecutive : ℤ → List PricingRow → Prop
  | last {least : ℤ} {row : PricingRow} : row.minimum = some (least : ℚ) →
      row.maximum = none → Consecutive least [row]
  | cons {least most : ℤ} {row : PricingRow} {rows : List PricingRow} :
      row.minimum = some (least : ℚ) → row.maximum = some (most : ℚ) → least ≤ most + 1 →
      Consecutive (most + 1) rows → Consecutive least (row :: rows)

def reachedRow (rows : List PricingRow) (quantity : ℚ) : Option PricingRow :=
  (rows.filter fun row => row.minimum.any (· ≤ quantity)).getLast?

def Between (rows : List PricingRow) (quantity : ℚ) : Prop :=
  ∃ row ∈ rows, ∃ most ∈ row.maximum, most < quantity ∧ quantity < most + 1

section Consecutive

variable {least : ℤ} {rows : List PricingRow} {quantity : ℚ}

theorem Consecutive.of_lt (h : Consecutive least rows) (hlt : quantity < least) :
    scanRows quantity rows = some none ∧
      rows.filter (fun row => row.minimum.any (· ≤ quantity)) = [] := by
  induction h with
  | last hmin hmax => simp [scanRows, hmin, hlt]
  | @cons least most row rows hmin hmax hle _ ih =>
    have hbound : (least : ℚ) ≤ ((most + 1 : ℤ) : ℚ) := by exact_mod_cast hle
    simpa [scanRows, hmin, hlt] using ih (hlt.trans_le hbound)

theorem Consecutive.not_between (h : Consecutive least rows) (hle : quantity + 1 ≤ least) :
    ¬ Between rows quantity := by
  induction h with
  | last hmin hmax => simp [Between, hmax]
  | @cons least most row rows hmin hmax hbound _ ih =>
    have hcast : (least : ℚ) ≤ most + 1 := by exact_mod_cast hbound
    rintro ⟨other, hother, m, hm, hlt, hlt'⟩
    rcases List.mem_cons.mp hother with rfl | hother
    · obtain rfl : (most : ℚ) = m := some.inj (hmax.symm.trans hm)
      linarith
    · exact ih (by push_cast; linarith) ⟨other, hother, m, hm, hlt, hlt'⟩

/-- **What the scan finds** from the first minimum on: the row that is reached, or nothing
between two rows. -/
theorem Consecutive.scan (h : Consecutive least rows) (hle : (least : ℚ) ≤ quantity) :
    ∃ row, reachedRow rows quantity = some row ∧
      (¬ Between rows quantity → scanRows quantity rows = some (some row)) ∧
      (Between rows quantity → scanRows quantity rows = some none) := by
  induction h with
  | @last least row hmin hmax =>
    refine ⟨row, by simp [reachedRow, hmin, hle], fun _ => ?_, fun hbetween => ?_⟩
    · simp [scanRows, hmin, hmax, hle]
    · simp [Between, hmax] at hbetween
  | @cons least most row rows hmin hmax hbound hrest ih =>
    have hbetween : Between (row :: rows) quantity ↔
        ((most : ℚ) < quantity ∧ quantity < most + 1) ∨ Between rows quantity := by
      simp [Between, hmax]
    have hscan : scanRows quantity (row :: rows) =
        if quantity ≤ most then some (some row) else scanRows quantity rows := by
      simp [scanRows, hmin, hmax, not_lt.mpr hle]
    rw [hbetween, hscan]
    rcases lt_or_ge quantity ((most + 1 : ℤ) : ℚ) with hlt | hge
    · -- the rest of the rows is not reached
      obtain ⟨hnone, hempty⟩ := hrest.of_lt hlt
      push_cast at hlt
      refine ⟨row, by simp [reachedRow, hmin, hle, hempty], fun hnot => ?_, fun hin => ?_⟩
      · have hmost : quantity ≤ most := by
          by_contra habove
          exact hnot (.inl ⟨not_le.mp habove, hlt⟩)
        rw [if_pos hmost]
      · rw [hnone]
        refine if_neg fun hmost => ?_
        rcases hin with ⟨habove, -⟩ | hin
        · exact absurd habove (not_lt.mpr hmost)
        · exact hrest.not_between (by push_cast; linarith) hin
    · obtain ⟨reached, hreached, hout, hin⟩ := ih hge
      push_cast at hge
      rw [if_neg (by linarith)]
      refine ⟨reached, ?_, fun hnot => hout fun h => hnot (.inr h), fun h => hin ?_⟩
      · rw [reachedRow, List.filter_cons_of_pos (by simp [hmin, hle]), List.getLast?_cons]
        rw [reachedRow] at hreached
        rw [hreached]
        rfl
      · exact h.resolve_left fun hgap => absurd hgap.2 (not_lt.mpr hge)

end Consecutive

/-! ### Charges -/

/-- A quantity of an active product whose rows have consecutive integer bounds, from zero on. -/
structure TieredOrder where
  table : List PricingRow
  product : PricedProduct
  active : product.isActive = true
  consecutive : Consecutive 0 (getProductPricingRows table product.productId)
  quantity : ℚ
  nonneg : 0 ≤ quantity

namespace TieredOrder

variable (o : TieredOrder)

def rows : List PricingRow := getProductPricingRows o.table o.product.productId

/-- **The price of the tier that is reached.** The unit price is the one of the last row whose
minimum is at most the quantity, and the sum is this price times the quantity. -/
def ChargedAsReached : Prop :=
  ∃ row ∈ reachedRow o.rows o.quantity, ∃ pricingModelId tierName totalPrice,
    calculatePrice o.table (some o.product) o.quantity =
      .price pricingModelId tierName (decimal row.unitPrice) totalPrice ∧
    quantizePrice (inContext (o.quantity * decimal row.unitPrice)) = some totalPrice

/-- The quantity is not between two rows, or the top tier costs as much; and the sum has at most
28 digits. -/
def Covered : Prop :=
  ∃ row ∈ reachedRow o.rows o.quantity,
    (Between o.rows o.quantity →
      ∃ top ∈ o.rows.getLast?, decimal top.unitPrice = decimal row.unitPrice) ∧
    ⌊|inContext (o.quantity * decimal row.unitPrice)| * 10 ^ 8 + 1 / 2⌋ < 10 ^ 28

variable {o}

theorem of_eq_price_iff {id tier id' tier' : Option PyStr} {unitPrice price total : ℚ} :
    PriceAnswer.of id tier o.quantity unitPrice = .price id' tier' price total ↔
      id = id' ∧ tier = tier' ∧ unitPrice = price ∧
        quantizePrice (inContext (o.quantity * unitPrice)) = some total := by
  rw [PriceAnswer.of]
  cases quantizePrice (inContext (o.quantity * unitPrice)) with
  | none => simp
  | some total' => simp

theorem calculatePrice_eq {row : PricingRow} (hrow : reachedRow o.rows o.quantity = some row) :
    ∃ charged, calculatePrice o.table (some o.product) o.quantity =
        .of (some charged.pricingId) charged.tierName o.quantity (decimal charged.unitPrice) ∧
      (¬ Between o.rows o.quantity → charged = row) ∧
      (Between o.rows o.quantity → o.rows.getLast? = some charged) := by
  obtain ⟨found, hfound, hout, hin⟩ := o.consecutive.scan (by exact_mod_cast o.nonneg)
  obtain rfl : found = row := some.inj (hfound.symm.trans hrow)
  have hrows : o.rows ≠ [] := by
    intro hnil
    simp [reachedRow, hnil] at hrow
  have hprice : calculatePrice o.table (some o.product) o.quantity =
      match selectPricingRow o.rows o.quantity with
      | none => .raised
      | some none => .failure "Pricing definition not found"
      | some (some row) =>
        .of (some row.pricingId) row.tierName o.quantity (decimal row.unitPrice) := by
    rw [calculatePrice, filter_some, if_pos o.active]
    exact if_neg hrows
  rw [hprice, selectPricingRow]
  by_cases hbetween : Between o.rows o.quantity
  · obtain ⟨top, htop⟩ := isSome_iff_exists.mp (List.getLast?_isSome.mpr hrows)
    refine ⟨top, ?_, absurd hbetween, fun _ => htop⟩
    rw [rows, hin hbetween, ← rows, htop]
    rfl
  · refine ⟨found, ?_, fun _ => rfl, fun h => absurd h hbetween⟩
    rw [rows, hout hbetween]
    rfl

variable (o) in
/-- **When the price is the one of the tier that is reached.** -/
theorem chargedAsReached_iff : o.ChargedAsReached ↔ o.Covered := by
  refine exists_congr fun row => and_congr_right fun hrow => ?_
  obtain ⟨charged, hprice, hout, hin⟩ := calculatePrice_eq hrow
  have htotal : (∃ total, quantizePrice (inContext (o.quantity * decimal row.unitPrice)) =
      some total) ↔
      ⌊|inContext (o.quantity * decimal row.unitPrice)| * 10 ^ 8 + 1 / 2⌋ < 10 ^ 28 := by
    rw [quantizePrice]
    split <;> simp_all
  rw [hprice, ← htotal]
  simp only [of_eq_price_iff]
  constructor
  · rintro ⟨_, _, total, ⟨-, -, hsame, -⟩, hsum⟩
    exact ⟨fun h => ⟨charged, hin h, hsame⟩, total, hsum⟩
  · rintro ⟨htop, total, hsum⟩
    have hsame : decimal charged.unitPrice = decimal row.unitPrice := by
      by_cases hbetween : Between o.rows o.quantity
      · obtain ⟨top, hmem, hsame⟩ := htop hbetween
        obtain rfl : charged = top := some.inj ((hin hbetween).symm.trans hmem)
        exact hsame
      · rw [hout hbetween]
    exact ⟨_, _, total, ⟨rfl, rfl, hsame, hsame ▸ hsum⟩, hsum⟩

end TieredOrder

/-! ### Between two tiers -/

def volumeRows : List PricingRow :=
  let double (n : ℤ) (h : float n = some (n : ℚ)) : Double := ⟨n, h⟩
  let row (id : String) (least : Double) (most : Option Double) (price : Double) : PricingRow :=
    ⟨id.toList, "tokens".toList, none, some least, most, price, none⟩
  [row "p1" (double 0 (by decide +kernel)) (some (double 1000 (by decide +kernel)))
      (double 2 (by decide +kernel)),
    row "p2" (double 1001 (by decide +kernel)) none (double 1 (by decide +kernel))]

def betweenTiers : TieredOrder where
  table := volumeRows
  product := ⟨"tokens".toList, 2, true⟩
  active := rfl
  consecutive := by
    have hrows : getProductPricingRows volumeRows "tokens".toList = volumeRows := by
      decide +kernel
    rw [hrows]
    refine @Consecutive.cons 0 1000 _ _ ?_ ?_ (by decide) (.last ?_ ?_) <;> decide +kernel
  quantity := 2001 / 2
  nonneg := by norm_num

/-- Half a unit above a bound, everything costs what the top tier costs. -/
theorem not_chargedAsReached_between : ¬ ∀ o : TieredOrder, o.ChargedAsReached := by
  intro h
  obtain ⟨row, hrow, id, tier, total, hprice, -⟩ := h betweenTiers
  have hcharged : calculatePrice betweenTiers.table (some betweenTiers.product)
      betweenTiers.quantity = .price (some "p2".toList) none 1 (2001 / 2) := by decide +kernel
  have hreached : (reachedRow betweenTiers.rows betweenTiers.quantity).map
      (fun row => decimal row.unitPrice) = some 2 := by decide +kernel
  obtain ⟨-, -, hone, -⟩ := PriceAnswer.price.inj (hcharged.symm.trans hprice)
  rw [mem_def.mp hrow, map_some, ← hone] at hreached
  cases hreached

end IsaUser.Product
