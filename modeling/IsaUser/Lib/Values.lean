import Mathlib.Data.List.Sort
import Mathlib.Algebra.BigOperators.Group.List.Basic
import Mathlib.Algebra.Order.Group.Abs
import Mathlib.Algebra.Order.Group.Int
import Mathlib.Data.Prod.Lex
import Mathlib.Order.WithBot

/-!
# Strings, Instants and Orderings

The values every service of the repository computes with, as its host language and its
database see them:

* a string is the list of its code points, `PyStr`, and `PyStr.strip` removes Unicode
  whitespace at both ends;
* an instant, `Timestamp`, counts microseconds from the epoch in UTC, with the civil
  calendar of `daysFromCivil` and `civilFromDays` on top. The ISO text of a UTC instant
  sorts like the instant itself, so the model keeps the number;
* `orderBy` is a stable sort by a key, which is what both `ORDER BY` and `list.sort` do.
-/

open List

namespace IsaUser

/-! ### Strings -/

/-- A string as the list of its code points. -/
abbrev PyStr := List Char

instance lawfulBEq_pyStr : @LawfulBEq PyStr List.instBEq := inferInstance

/-! A condition on the characters of a text is decided by going through the text. -/

instance decidableForallChar (s : PyStr) (P : Char → Prop) [DecidablePred P] :
    Decidable (∀ c ∈ s, P c) := decidableBAll P s

instance decidableExistsChar (s : PyStr) (P : Char → Prop) [DecidablePred P] :
    Decidable (∃ c ∈ s, P c) := decidableBEx P s

/-- `str.isspace` for one code point. -/
def isSpace (c : Char) : Bool :=
  let n := c.toNat
  (9 ≤ n && n ≤ 13) || (28 ≤ n && n ≤ 32) || n == 0x85 || n == 0xA0 || n == 0x1680 ||
    (0x2000 ≤ n && n ≤ 0x200A) || n == 0x2028 || n == 0x2029 || n == 0x202F ||
    n == 0x205F || n == 0x3000

def PyStr.strip (s : PyStr) : PyStr :=
  ((s.dropWhile isSpace).reverse.dropWhile isSpace).reverse

def PyStr.text (s : PyStr) : String := String.ofList s

/-- A text that counts as true: it is there, and not empty. So `a or b` is
`given a <|> b`. -/
def given (s : Option PyStr) : Option PyStr := s.filter (· ≠ [])

/-! ### Instants -/

abbrev Timestamp := ℤ

def microsPerDay : ℤ := 86400000000

/-- `timedelta(days=n)`. -/
def days (n : ℤ) : ℤ := n * microsPerDay

/-- `timedelta(seconds=n)`. -/
def seconds (n : ℤ) : ℤ := n * 1000000

structure CivilDate where
  /-- The year. -/
  year : ℤ
  /-- The month, from 1 to 12. -/
  month : ℤ
  /-- The day of the month, from 1. -/
  day : ℤ
  deriving DecidableEq, Repr

/-- Days from the epoch to a civil date, counting in eras of 400 years from March. -/
def daysFromCivil (date : CivilDate) : ℤ :=
  let y := if date.month ≤ 2 then date.year - 1 else date.year
  let era := y / 400
  let yearOfEra := y - era * 400
  let monthFromMarch := if 2 < date.month then date.month - 3 else date.month + 9
  let dayOfYear := (153 * monthFromMarch + 2) / 5 + date.day - 1
  let dayOfEra := yearOfEra * 365 + yearOfEra / 4 - yearOfEra / 100 + dayOfYear
  era * 146097 + dayOfEra - 719468

def civilFromDays (n : ℤ) : CivilDate :=
  let z := n + 719468
  let era := z / 146097
  let dayOfEra := z - era * 146097
  let yearOfEra :=
    (dayOfEra - dayOfEra / 1460 + dayOfEra / 36524 - dayOfEra / 146096) / 365
  let dayOfYear := dayOfEra - (365 * yearOfEra + yearOfEra / 4 - yearOfEra / 100)
  let monthFromMarch := (5 * dayOfYear + 2) / 153
  let day := dayOfYear - (153 * monthFromMarch + 2) / 5 + 1
  let month := if monthFromMarch < 10 then monthFromMarch + 3 else monthFromMarch - 9
  let year := yearOfEra + era * 400 + (if month ≤ 2 then 1 else 0)
  ⟨year, month, day⟩

def Timestamp.date (t : Timestamp) : CivilDate := civilFromDays (t / microsPerDay)

/-- The last microsecond of a day counted from the epoch. -/
def endOfDay (n : ℤ) : Timestamp := days (n + 1) - 1

example : Timestamp.date (days 19782 + 5) = ⟨2024, 2, 29⟩ := by decide

/-! ### Orderings -/

/-- The rows in ascending order of a key, rows of equal key in their given order. -/
def orderBy {α κ : Type*} [LinearOrder κ] (key : α → κ) (l : List α) : List α :=
  l.insertionSort fun a b => key a ≤ key b

section OrderBy

variable {α κ : Type*} [LinearOrder κ] (key : α → κ) (l : List α)

theorem orderBy_perm : (orderBy key l).Perm l :=
  perm_insertionSort _ l

@[simp] theorem mem_orderBy {a : α} : a ∈ orderBy key l ↔ a ∈ l :=
  (orderBy_perm key l).mem_iff

theorem nodup_map_orderBy {β : Type*} (f : α → β) :
    ((orderBy key l).map f).Nodup ↔ (l.map f).Nodup :=
  ((orderBy_perm key l).map f).nodup_iff

theorem sum_map_orderBy {β : Type*} [AddCommMonoid β] (f : α → β) :
    ((orderBy key l).map f).sum = (l.map f).sum :=
  ((orderBy_perm key l).map f).sum_eq

theorem orderBy_map {f : α → α} (hf : ∀ a ∈ l, key (f a) = key a) :
    orderBy key (l.map f) = (orderBy key l).map f := by
  refine (map_insertionSort _ _ f l fun a ha b hb => ?_).symm
  rw [hf a ha, hf b hb]

theorem pairwise_orderBy : (orderBy key l).Pairwise fun a b => key a ≤ key b :=
  pairwise_insertionSort _ l

variable {l}

theorem pair_sublist_orderBy {a b : α} (ha : a ∈ l) (hb : b ∈ l) (hlt : key a < key b) :
    [a, b].Sublist (orderBy key l) := by
  have hsorted := pairwise_orderBy key l
  rw [← mem_orderBy key] at ha hb
  generalize orderBy key l = sorted at *
  induction sorted with
  | nil => cases ha
  | cons x sorted ih =>
    obtain ⟨hx, hsorted⟩ := pairwise_cons.mp hsorted
    rcases mem_cons.mp ha with rfl | ha'
    · rcases mem_cons.mp hb with rfl | hb'
      · exact absurd hlt (lt_irrefl _)
      · exact (singleton_sublist.mpr hb').cons_cons _
    · rcases mem_cons.mp hb with rfl | hb'
      · exact absurd (hx a ha') (not_le_of_gt hlt)
      · exact (ih ha' hb' hsorted).cons _

theorem orderBy_eq_self_of_pairwise (h : l.Pairwise fun a b => key a ≤ key b) :
    orderBy key l = l :=
  h.insertionSort_eq

theorem filter_orderBy_of_pairwise {p : α → Bool}
    (h : (l.filter p).Pairwise fun a b => key a ≤ key b) :
    (orderBy key l).filter p = l.filter p := by
  have hsub : (l.filter p).Sublist (orderBy key l) :=
    sublist_insertionSort h filter_sublist
  have hfilter : (l.filter p).Sublist ((orderBy key l).filter p) := by
    simpa using hsub.filter p
  exact (hfilter.eq_of_length ((orderBy_perm key l).filter p).length_eq.symm).symm

end OrderBy

/-- The sort key of `ASC NULLS LAST`: a missing instant comes after every instant. -/
def nullsLast : Option Timestamp → WithTop Timestamp
  | none => ⊤
  | some t => t

end IsaUser
