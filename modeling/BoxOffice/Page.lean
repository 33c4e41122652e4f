import BoxOffice.Error
import BoxOffice.Word

/-!
# BoxOffice.Page

Pages of a listing. Pages count from 1.

Main statement: a page request passes the check exactly when page and size are
both positive (`check_eq_ok_iff`).
-/

namespace BoxOffice

structure PageRequest where
  page : UInt64
  size : UInt64
deriving DecidableEq, Repr

/-- One page of results, and the number of results on all pages. -/
structure Page (α : Type) where
  items : List α
  total : UInt64
deriving DecidableEq

namespace PageRequest

/-- A page that exists in some listing. -/
def IsValid (r : PageRequest) : Prop := r.page ≠ 0 ∧ r.size ≠ 0

instance (r : PageRequest) : Decidable r.IsValid := by unfold IsValid; infer_instance

/-- Refuses page 0 and pages of size 0. -/
def check (r : PageRequest) : Except SalesError { r : PageRequest // r.IsValid } :=
  if h : r.IsValid then .ok ⟨r, h⟩ else .error (.invalidPage r.page r.size)

/-- Number of results before the page, as far as a word can count. -/
def offset (r : PageRequest) : UInt64 :=
  clamp64 ((r.page.toNat - 1) * r.size.toNat)

theorem check_eq_ok_iff {r : PageRequest} {v : { r : PageRequest // r.IsValid }} :
    r.check = .ok v ↔ v.val = r := by
  unfold check
  split
  · constructor
    · intro h; cases h; rfl
    · rintro rfl; rfl
  · next h =>
    constructor
    · intro h'; cases h'
    · rintro rfl; exact absurd v.property h

end PageRequest

/-- What a listing says about one of its pages. -/
structure PageMeta where
  page : UInt64
  size : UInt64
  totalItems : UInt64
  totalPages : UInt64
  itemsOnPage : UInt64
deriving DecidableEq, Repr

/-- Number of pages that hold `total` results; the last one may be short. -/
def pageCount (total size : UInt64) : UInt64 :=
  .ofNat ((total.toNat + size.toNat - 1) / size.toNat)

/-- The description of a page. The size must be positive for the number of pages
to be defined. -/
def PageMeta.ofRequest (r : PageRequest) (_ : r.size ≠ 0) (totalItems itemsOnPage : UInt64) :
    PageMeta where
  page := r.page
  size := r.size
  totalItems := totalItems
  totalPages := pageCount totalItems r.size
  itemsOnPage := itemsOnPage

end BoxOffice
