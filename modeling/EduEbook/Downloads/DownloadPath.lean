import Mathlib.Data.Int.Notation
import Mathlib.Data.List.Basic
import Mathlib.Data.List.DropRight

/-!
# Where a download is saved

The file name of a download is made from the title alone: blanks become
underscores, an escaped apostrophe loses its backslash, and the extension is
that of the method the detail page picks from the url.  The id is not part of
the name, so two books share a path exactly when they have the same kind and the
same name after the two replacements.
-/

namespace EduEbook.DownloadPath

/-- What a detail page hands to a download. -/
structure Book where
  id : ℤ
  status : Option ℤ
  title : String
  photo : String
  pdf : String
  deriving DecidableEq

inductive Platform
  | android
  | ios

/-- The two methods `startDownload` and `startDownloadPdf` differ in nothing
but the extension of the file. -/
inductive Extension
  | epub
  | pdf
  deriving DecidableEq

def Extension.text : Extension → String
  | .epub => ".epub"
  | .pdf => ".pdf"

def APP_NAME : String := "Live by Quran"

/-- `text.split(pattern)[0]`. -/
def beforeFirst (pattern : List Char) : List Char → List Char
  | [] => []
  | char :: rest =>
      if pattern.isPrefixOf (char :: rest) then []
      else char :: beforeFirst pattern rest

/-- `text.substring(text.lastIndexOf(separator) + 1)`. -/
def afterLast (separator : Char) (text : List Char) : List Char :=
  (text.reverse.takeWhile fun char => char ≠ separator).reverse

/-- Replace the matches of a pattern from left to right; the first argument is
the number of characters of the last match that are still to be passed over. -/
def replaceFrom (pattern replacement : List Char) : ℕ → List Char → List Char
  | _, [] => []
  | skip + 1, _ :: rest => replaceFrom pattern replacement skip rest
  | 0, char :: rest =>
      if pattern.isPrefixOf (char :: rest) then
        replacement ++ replaceFrom pattern replacement (pattern.length - 1) rest
      else char :: replaceFrom pattern replacement 0 rest

def replaceAll (pattern replacement text : String) : String :=
  String.ofList (replaceFrom pattern.toList replacement.toList 0 text.toList)

/-- The name under which the detail page asks for the download. -/
def bookName (title : String) : String :=
  replaceAll "\\'" "'" (replaceAll " " "_" title)

/-- The method the detail page shows for a url. -/
def extensionOf (url : String) : Extension :=
  if afterLast '.' url.toList = "pdf".toList then .pdf else .epub

/-- The folder of the app on the external storage. -/
def appDirectory (directory : String) : String :=
  String.ofList (beforeFirst "Android".toList directory.toList) ++ APP_NAME

/-- The path that the download method names `platform`. -/
def savePath (platform : Platform) (directory : String) (extension : Extension)
    (name : String) : String :=
  match platform with
  | .ios => directory ++ "/" ++ name ++ extension.text
  | .android => appDirectory directory ++ "/" ++ name ++ extension.text

/-- The path of a book that is downloaded from its detail page. -/
def bookPath (platform : Platform) (directory : String) (book : Book) : String :=
  savePath platform directory (extensionOf book.pdf) (bookName book.title)

/-! ## The parts of a path -/

/-- What follows the last separator does not depend on what stands before another. -/
theorem afterLast_append_cons (separator : Char) (before after : List Char) :
    afterLast separator (before ++ separator :: after) = afterLast separator after := by
  rw [afterLast, afterLast, List.reverse_append, List.reverse_cons, List.append_assoc,
    List.singleton_append, List.takeWhile_append]
  split
  · rename_i hall
    rw [List.takeWhile_cons_of_neg (by simp), List.append_nil,
      List.IsPrefix.eq_of_length (List.takeWhile_prefix _) hall]
  · rfl

theorem notMem_afterLast (separator : Char) (text : List Char) :
    separator ∉ afterLast separator text := by
  intro hmem
  have hother := List.mem_rtakeWhile_imp (p := fun char => decide (char ≠ separator)) hmem
  exact of_decide_eq_true hother rfl

theorem afterLast_of_notMem {separator : Char} {text : List Char}
    (htext : separator ∉ text) : afterLast separator text = text := by
  refine List.rtakeWhile_eq_self_iff.2 fun char hchar => ?_
  rw [decide_eq_true_iff]
  rintro rfl
  exact htext hchar

theorem mem_of_mem_afterLast {separator char : Char} {text : List Char}
    (hmem : char ∈ afterLast separator text) : char ∈ text :=
  (List.rtakeWhile_suffix _ _).mem hmem

/-- A text with a separator is split by the last one. -/
theorem append_cons_afterLast {separator : Char} {text : List Char}
    (hmem : separator ∈ text) :
    ∃ before, text = before ++ separator :: afterLast separator text := by
  obtain ⟨after, before, hreverse, hafter⟩ :=
    List.eq_append_cons_of_mem (List.mem_reverse.2 hmem)
  have htext : text = before.reverse ++ separator :: after.reverse := by
    rw [← List.reverse_reverse text, hreverse, List.reverse_append, List.reverse_cons,
      List.append_assoc, List.singleton_append]
  have hlast : afterLast separator text = after.reverse := by
    rw [htext, afterLast_append_cons, afterLast_of_notMem (mt List.mem_reverse.1 hafter)]
  exact ⟨before.reverse, htext.trans (by rw [hlast])⟩

theorem mem_replaceFrom {pattern replacement : List Char} {char : Char} {skip : ℕ}
    {text : List Char} (hmem : char ∈ replaceFrom pattern replacement skip text) :
    char ∈ replacement ∨ char ∈ text := by
  fun_induction replaceFrom pattern replacement skip text with
  | case1 => exact .inr hmem
  | case2 skip head rest ih => exact (ih hmem).imp_right (List.mem_cons_of_mem head)
  | case3 head rest hmatch ih =>
      rcases List.mem_append.1 hmem with hnew | hrest
      · exact .inl hnew
      · exact (ih hrest).imp_right (List.mem_cons_of_mem head)
  | case4 head rest hmatch ih =>
      rcases List.mem_cons.1 hmem with rfl | hrest
      · exact .inr List.mem_cons_self
      · exact (ih hrest).imp_right (List.mem_cons_of_mem head)

/-- A replaced character is gone. -/
theorem notMem_replaceFrom_singleton {char : Char} {replacement : List Char}
    (hreplacement : char ∉ replacement) (skip : ℕ) (text : List Char) :
    char ∉ replaceFrom [char] replacement skip text := by
  fun_induction replaceFrom [char] replacement skip text with
  | case1 => exact List.not_mem_nil
  | case2 skip head rest ih => exact ih
  | case3 head rest hmatch ih => exact List.not_mem_append hreplacement ih
  | case4 head rest hmatch ih =>
      rw [List.mem_cons, not_or]
      refine ⟨?_, ih⟩
      rintro rfl
      exact hmatch (by simp)

/-- The names that a detail page asks for have no blank. -/
theorem space_notMem_bookName (title : String) : ' ' ∉ (bookName title).toList := by
  rw [bookName, replaceAll, String.toList_ofList]
  intro hmem
  rcases mem_replaceFrom hmem with hreplacement | htitle
  · exact absurd hreplacement (by decide)
  · rw [replaceAll, String.toList_ofList] at htitle
    exact notMem_replaceFrom_singleton (by decide) 0 title.toList htitle

/-- A path determines the extension: `.epub` and `.pdf` end differently. -/
theorem extension_of_append {left right : String} {first second : Extension}
    (heq : left ++ first.text = right ++ second.text) : first = second := by
  have hlast := congrArg (fun text => text.toList.getLast?) heq
  simp only [String.toList_append, List.getLast?_append] at hlast
  cases first with
  | epub =>
      cases second with
      | epub => rfl
      | pdf => simp [Extension.text] at hlast
  | pdf =>
      cases second with
      | epub => simp [Extension.text] at hlast
      | pdf => rfl

/-- Two downloads share a path exactly if they have the same name and kind. -/
theorem savePath_eq_iff {platform : Platform} {directory : String}
    {first second : Extension} {left right : String} :
    savePath platform directory first left =
        savePath platform directory second right ↔
      first = second ∧ left = right := by
  constructor
  · intro heq
    cases platform with
    | ios =>
        obtain rfl : first = second := extension_of_append heq
        refine ⟨rfl, ?_⟩
        simpa [savePath] using heq
    | android =>
        obtain rfl : first = second := extension_of_append heq
        refine ⟨rfl, ?_⟩
        simpa [savePath] using heq
  · rintro ⟨rfl, rfl⟩
    rfl

/-- The last dot of a saved path is that of the extension, however many the title
and the folder have. -/
theorem afterLast_savePath (platform : Platform) (directory : String)
    (extension : Extension) (name : String) :
    afterLast '.' (savePath platform directory extension name).toList =
      extension.text.toList.tail := by
  have htext : ∃ before, (savePath platform directory extension name).toList =
      before ++ extension.text.toList := by
    cases platform with
    | android => exact ⟨_, String.toList_append⟩
    | ios => exact ⟨_, String.toList_append⟩
  obtain ⟨before, hpath⟩ := htext
  rw [hpath]
  cases extension with
  | epub =>
      exact (afterLast_append_cons '.' before "epub".toList).trans
        (afterLast_of_notMem (by decide))
  | pdf =>
      exact (afterLast_append_cons '.' before "pdf".toList).trans
        (afterLast_of_notMem (by decide))

example : bookName "Al Adab" = "Al_Adab" ∧ bookName "Al_Adab" = "Al_Adab" := by
  decide

end EduEbook.DownloadPath
