import Mathlib

/-!
# Book ids

A book has an integer id.  The stores keep it as the decimal text that
`id.toString()` returns, and distinct ids have distinct texts.
-/

namespace EduEbook.BookId

/-- `id.toString()`. -/
def idString (id : ℤ) : String := toString id

theorem idString_injective : Function.Injective idString :=
  fun _ _ heq => Int.repr_injective heq

end EduEbook.BookId
