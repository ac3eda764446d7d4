import Sift.Error

/-!
# Windows and pages

A `Window` skips some results and takes some of the rest; a `Page` is a window given by a page
number, counted from one, and a page size.  A window never takes zero, and the results before a
page can be counted in 64 bits.
-/

set_option autoImplicit false
namespace Sift

/-- How many results are skipped and how many are taken, where it is said. -/
structure Window where
  skip : Option UInt64
  take : Option UInt64
deriving DecidableEq

namespace Window

/-- The window that leaves everything in. -/
def unbounded : Window := ⟨none, none⟩

instance : Inhabited Window := ⟨unbounded⟩

/-- A window; one that takes zero is refused. -/
def new (skip take : Option UInt64) : Except SpecError Window :=
  if take = some 0 then .error (.invalidPagination .takeIsZero) else .ok ⟨skip, take⟩

/-- Whether a window neither skips nor limits. -/
def isUnbounded (window : Window) : Bool :=
  window.skip.isNone && window.take.isNone

/-- The window with another number to skip. -/
def withSkip (window : Window) (skip : UInt64) : Window :=
  { window with skip := some skip }

/-- The window with another number to take, which may not be none. -/
def withTake (window : Window) (take : UInt64) : Except SpecError Window :=
  new window.skip (some take)

end Window

/-- A page by its number, from one, and the number of results on a page. -/
structure Page where
  number : UInt64
  size : UInt64
deriving DecidableEq

namespace Page

/-- A page; number and size are at least one, and the results before it can be counted. -/
def new (number size : UInt64) : Except SpecError Page :=
  if number = 0 then .error (.invalidPagination .pageNumberIsZero)
  else if size = 0 then .error (.invalidPagination .pageSizeIsZero)
  else if (number.toNat - 1) * size.toNat < UInt64.size then .ok ⟨number, size⟩
  else .error (.invalidPagination .offsetOverflows)

/-- How many results come before the page. -/
def offset (page : Page) : UInt64 :=
  (page.number - 1) * page.size

end Page

/-- The window that shows a page. -/
def Window.ofPage (page : Page) : Window :=
  ⟨some page.offset, some page.size⟩

end Sift
