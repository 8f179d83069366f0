import EduEbook.Library.Tags
import EduEbook.Library.Utf16

/-!
# The text of a description

Both detail pages strip the tags from a description with the same regular
expression; one of them puts a name in front.  A string is a list of UTF-16 code
units, which is what the expression matches.
-/

namespace EduEbook.HtmlTags

open EduEbook.TextPattern
open EduEbook.Tags
open EduEbook.Utf16

def lessThan : CodeUnit := 0x3C

def greaterThan : CodeUnit := 0x3E

/-- `RegExp(r"<[^>]*>", multiLine: true, caseSensitive: true)`.  The class `[^>]` has
the ends of lines in it, and `multiLine` bears on `^` and `$` only. -/
def exp : List (Item CodeUnit) :=
  [.one fun unit => unit = lessThan, .many fun unit => unit ≠ greaterThan,
    .one fun unit => unit = greaterThan]

namespace EbookDetail

def removeAllHtmlTags (name htmlText : List CodeUnit) : List CodeUnit :=
  name ++ replaceAll exp [] htmlText

end EbookDetail

namespace EbookDetailDescription

def removeAllHtmlTags (htmlText : List CodeUnit) : List CodeUnit :=
  replaceAll exp [] htmlText

end EbookDetailDescription

open EbookDetailDescription

theorem removeAllHtmlTags_eq_strip (text : List CodeUnit) :
    removeAllHtmlTags text = strip lessThan greaterThan text :=
  replaceAll_tag text

/-- The result has no tag left, so that stripping changes exactly the texts that have
one, and only once. -/
theorem removeAllHtmlTags_exact (text : List CodeUnit) :
    removeAllHtmlTags text = strip lessThan greaterThan text ∧
      ¬HasTag lessThan greaterThan (removeAllHtmlTags text) ∧
      removeAllHtmlTags (removeAllHtmlTags text) = removeAllHtmlTags text ∧
      (removeAllHtmlTags text = text ↔ ¬HasTag lessThan greaterThan text) ∧
      ∀ name, EbookDetail.removeAllHtmlTags name text = name ++ removeAllHtmlTags text := by
  have hnone : ¬HasTag lessThan greaterThan (removeAllHtmlTags text) := by
    rw [removeAllHtmlTags_eq_strip]
    exact not_hasTag_strip text
  have hunchanged : ∀ other, ¬HasTag lessThan greaterThan other →
      removeAllHtmlTags other = other := by
    intro other hother
    rw [removeAllHtmlTags_eq_strip]
    exact strip_of_not_hasTag hother
  refine ⟨removeAllHtmlTags_eq_strip text, hnone, hunchanged _ hnone, ?_, fun name => rfl⟩
  constructor
  · intro heq
    rw [← heq]
    exact hnone
  · exact hunchanged text

/-- The text `a<b<c>d>e<f`: the tag ends with the first `>`, and the last `<` is
copied. -/
example : removeAllHtmlTags [97, 0x3C, 98, 0x3C, 99, 0x3E, 100, 0x3E, 101, 0x3C, 102] =
    [97, 100, 0x3E, 101, 0x3C, 102] := by decide

end EduEbook.HtmlTags
