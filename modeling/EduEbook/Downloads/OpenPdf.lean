import EduEbook.Downloads.DownloadHistory
import EduEbook.Library.PercentEncoding

/-!
# Opening a downloaded PDF

The reader does not open the path that was recorded.  It takes the text after the
last slash, puts a fixed folder in front and reads the result as a URI, which cuts
it at a question mark or a number sign and decodes its escapes.  An EPUB is opened
at the recorded path.
-/

namespace EduEbook.OpenPdf

open EduEbook.BookId
open EduEbook.DownloadDetails
open EduEbook.DownloadHistory
open EduEbook.DownloadPath
open EduEbook.Json
open EduEbook.ObjectDb
open EduEbook.PercentEncoding
open EduEbook.Records

/-- The components of a URI without scheme and authority. -/
structure Uri where
  path : List Char
  query : List Char
  fragment : List Char

def isMark (char : Char) : Bool := char = '?' || char = '#'

/-- `Uri.parse` of a text that starts with a slash.  It would also remove the dot
segments of the path, of which the paths below have none. -/
def Uri.parse (text : List Char) : Uri :=
  let path := text.takeWhile fun char => !isMark char
  match text.dropWhile fun char => !isMark char with
  | [] => ⟨path, [], []⟩
  | mark :: rest =>
      if mark = '?' then
        ⟨path, rest.takeWhile fun char => char ≠ '#',
          (rest.dropWhile fun char => char ≠ '#').tail⟩
      else ⟨path, [], rest⟩

/-- A segment of a file path, which must not contain a slash once it is decoded. -/
def pathSegment (segment : List Char) : Option (List Char) :=
  (decodeComponent segment).filter fun decoded => '/' ∉ decoded

/-- The path of `File.fromUri(uri)`, which throws if there is a query or fragment. -/
def Uri.toFilePath (uri : Uri) : Option (List Char) :=
  if uri.query = [] ∧ uri.fragment = [] then
    ((uri.path.splitOn '/').mapM pathSegment).map ['/'].intercalate
  else none

/-- The path of the file, or nothing if `fromAsset` throws. -/
def fromAsset (asset filename : String) : Option String :=
  (Uri.parse (asset ++ filename).toList).toFilePath.map String.ofList

/-- What a tap on the button or the list entry does. -/
inductive Opening
  | nothing
  | throws
  | pdfPage (path : String)
  | epubViewer (path : String)
  deriving DecidableEq

/-- The folder that both pages pass to `fromAsset`. -/
def assetFolder : String := "/storage/emulated/0/Live by Quran/"

/-- Both pages open a recorded path this way. -/
def openPath (path : String) : Opening :=
  (fromAsset assetFolder (String.ofList (afterLast '/' path.toList))).elim .throws .pdfPage

/-- `_EbookDetailState._openEbookPdf`. -/
def openEbookPdf (id : ℤ) (downloads : List DartMap) : Opening :=
  match getDownload (idString id) downloads with
  | [] => .nothing
  | record :: _ =>
      match storedPath record with
      | some path => openPath path
      | none => .throws

/-- `onTap` of a download in the list. -/
def onTap (record : DartMap) : Opening :=
  match storedPath record with
  | some path =>
      if afterLast '.' path.toList = "pdf".toList then openPath path
      else .epubViewer path
  | none => .throws

inductive Opener
  | ebookDetail
  | ebookDownloadPage

/-- Open a record, which the detail page finds as the first one of its book. -/
def Opener.opens (opener : Opener) (id : ℤ) (record : DartMap)
    (others : List DartMap) : Opening :=
  match opener with
  | .ebookDetail => openEbookPdf id (record :: others)
  | .ebookDownloadPage => onTap record

/-- The path that a PDF with this title is saved to. -/
def pdfPath (platform : Platform) (directory title : String) : String :=
  savePath platform directory .pdf (bookName title)

/-- What `startDownloadPdf` records for a book. -/
def savedRecord (platform : Platform) (directory : String) (book : Book)
    (body : List UInt8) (size : String) (key : JsonValue) : DartMap :=
  withKey key
    (downloadRecord (pdfPath platform directory book.title)
      (request book body size key)).toMap

/-- The folder that `startDownloadPdf` writes to. -/
def saveFolder (platform : Platform) (directory : String) : String :=
  match platform with
  | .ios => directory
  | .android => appDirectory directory

/-- The reader gives the name back as it is. -/
structure PlainName (name : List Char) : Prop where
  no_slash : '/' ∉ name
  no_mark : ∀ char ∈ name, isMark char = false
  no_escape : ¬HasEscape name
  no_byteOrderMark : name.head? ≠ some byteOrderMark

/-! ## The path that is read -/

theorem parse_of_no_mark {text : List Char} (htext : ∀ char ∈ text, isMark char = false) :
    Uri.parse text = ⟨text, [], []⟩ := by
  have hplain : ∀ char ∈ text, (!isMark char) = true := fun char hchar => by
    rw [htext char hchar]
    rfl
  rw [Uri.parse, List.dropWhile_eq_nil_iff.2 hplain, List.takeWhile_eq_self_iff.2 hplain]

/-- A text with a mark before its last character goes on after the first mark. -/
theorem dropWhile_of_mark {text : List Char} {char last : Char} (hmem : char ∈ text)
    (hchar : isMark char = true) (hlast : text.getLast? = some last)
    (hplain : isMark last = false) :
    ∃ mark head tail, (text.dropWhile fun char => !isMark char) = mark :: head :: tail ∧
      (head :: tail).getLast? = some last := by
  have hsplit : text = (text.takeWhile fun char => !isMark char) ++
      text.dropWhile fun char => !isMark char := List.takeWhile_append_dropWhile.symm
  have hfirst := List.head?_dropWhile_not (fun char => !isMark char) text
  cases hdrop : text.dropWhile fun char => !isMark char with
  | nil =>
      have hall := List.dropWhile_eq_nil_iff.1 hdrop char hmem
      rw [hchar] at hall
      cases hall
  | cons mark rest =>
      rw [hsplit, hdrop, List.getLast?_append_of_ne_nil _ (List.cons_ne_nil mark rest)]
        at hlast
      rw [hdrop, List.head?_cons] at hfirst
      cases rest with
      | nil =>
          rw [List.getLast?_singleton, Option.some.injEq] at hlast
          rw [hlast] at hfirst
          simp [hplain] at hfirst
      | cons head tail =>
          rw [List.getLast?_cons_cons] at hlast
          exact ⟨mark, head, tail, rfl, hlast⟩

/-- What follows the first mark is a query or a fragment, unless it is a number sign
alone. -/
theorem toFilePath_parse_of_mark {text : List Char} {char last : Char}
    (hmem : char ∈ text) (hchar : isMark char = true) (hlast : text.getLast? = some last)
    (hplain : isMark last = false) : (Uri.parse text).toFilePath = none := by
  obtain ⟨mark, head, tail, hdrop, hend⟩ := dropWhile_of_mark hmem hchar hlast hplain
  rw [Uri.parse, hdrop, Uri.toFilePath, if_neg]
  rintro ⟨hquery, hfragment⟩
  by_cases hquestion : mark = '?'
  · simp only [if_pos hquestion] at hquery hfragment
    by_cases hnumber : head = '#'
    · rw [List.dropWhile_cons_of_neg (by simp [hnumber]), List.tail_cons] at hfragment
      rw [hfragment, List.getLast?_singleton, Option.some.injEq] at hend
      rw [← hend, hnumber] at hplain
      cases hplain
    · rw [List.takeWhile_cons_of_pos (by simp [hnumber])] at hquery
      cases hquery
  · simp only [if_neg hquestion] at hfragment
    cases hfragment

/-- A segment without slash, percent sign and byte order mark. -/
theorem pathSegment_of_plain {segment : List Char} (hslash : '/' ∉ segment)
    (hescape : ¬HasEscape segment) (hmark : segment.head? ≠ some byteOrderMark) :
    pathSegment segment = some segment := by
  rw [pathSegment, decodeComponent_eq_self_iff.2 ⟨hescape, hmark⟩, Option.filter_some,
    if_pos (decide_eq_true hslash)]

theorem toList_assetFolder :
    assetFolder.toList = "/storage/emulated/0/Live by Quran".toList ++ ['/'] := by
  simp [assetFolder]

/-- The segments of the fixed folder. -/
def readSegments : List (List Char) :=
  ["".toList, "storage".toList, "emulated".toList, "0".toList, "Live by Quran".toList]

theorem pathSegment_readSegments {segment : List Char} (hmem : segment ∈ readSegments) :
    '/' ∉ segment ∧ pathSegment segment = some segment := by
  have hplain : ∀ other ∈ readSegments,
      '/' ∉ other ∧ '%' ∉ other ∧ other.head? ≠ some byteOrderMark := by
    decide
  obtain ⟨hslash, hpercent, hmark⟩ := hplain segment hmem
  exact ⟨hslash,
    pathSegment_of_plain hslash (not_hasEscape_of_notMem hpercent) hmark⟩

theorem mapM_of_forall_self {segments : List (List Char)}
    (hself : ∀ segment ∈ segments, pathSegment segment = some segment) :
    segments.mapM pathSegment = some segments := by
  induction segments with
  | nil => rfl
  | cons segment segments ih =>
      rw [List.forall_mem_cons] at hself
      rw [List.mapM_cons, hself.1, ih hself.2]
      rfl

theorem assetFolder_append (name : List Char) :
    assetFolder.toList ++ name = ['/'].intercalate (readSegments ++ [name]) := by
  simp [assetFolder, readSegments, List.intercalate_cons_cons]

/-- The path that is read for a name without a mark. -/
theorem toFilePath_assetFolder {name : List Char} (hslash : '/' ∉ name) :
    (Uri.mk (assetFolder.toList ++ name) [] []).toFilePath =
      (pathSegment name).map (assetFolder.toList ++ ·) := by
  have hsplit : (['/'].intercalate (readSegments ++ [name])).splitOn '/' =
      readSegments ++ [name] := by
    refine List.splitOn_intercalate '/' ?_ (by simp)
    intro segment hsegment
    rcases List.mem_append.1 hsegment with hread | hname
    · exact (pathSegment_readSegments hread).1
    · rwa [List.mem_singleton.1 hname]
  have hread : readSegments.mapM pathSegment = some readSegments :=
    mapM_of_forall_self fun segment hsegment => (pathSegment_readSegments hsegment).2
  rw [Uri.toFilePath, if_pos ⟨rfl, rfl⟩, assetFolder_append, hsplit, List.mapM_append, hread]
  cases hdecoded : pathSegment name with
  | none => simp [hdecoded]
  | some decoded => simp [hdecoded, assetFolder_append]

/-- Of the URI that is parsed only the name can have marks. -/
theorem no_mark_iff {stem : List Char} :
    (∀ char ∈ assetFolder.toList ++ (stem ++ ".pdf".toList), isMark char = false) ↔
      ∀ char ∈ stem, isMark char = false := by
  have hfolder : ∀ char ∈ assetFolder.toList, isMark char = false := by
    simp [assetFolder, isMark]
  have hextension : ∀ char ∈ ".pdf".toList, isMark char = false := by
    simp [isMark]
  rw [List.forall_mem_append, List.forall_mem_append, and_iff_right hfolder,
    and_iff_left hextension]

/-- A name that ends in the extension is opened in the fixed folder unless its URI
is cut or its decoding fails. -/
theorem fromAsset_eq_some_iff {stem : List Char} (hslash : '/' ∉ stem) {file : String} :
    fromAsset assetFolder (String.ofList (stem ++ ".pdf".toList)) = some file ↔
      (∀ char ∈ stem, isMark char = false) ∧
        ∃ decoded, pathSegment (stem ++ ".pdf".toList) = some decoded ∧
          file.toList = assetFolder.toList ++ decoded := by
  rw [fromAsset, String.toList_append, String.toList_ofList]
  by_cases hmarks : ∀ char ∈ stem, isMark char = false
  · have hname : '/' ∉ stem ++ ".pdf".toList := List.not_mem_append hslash (by decide)
    rw [parse_of_no_mark (no_mark_iff.2 hmarks), toFilePath_assetFolder hname,
      Option.map_map, Option.map_eq_some_iff, and_iff_right hmarks]
    apply exists_congr
    intro decoded
    apply and_congr_right
    intro _
    rw [Function.comp_apply, ← String.toList_inj, String.toList_ofList, eq_comm]
  · have hthrows : (Uri.parse (assetFolder.toList ++ (stem ++ ".pdf".toList))).toFilePath =
        none := by
      have hmark := mt no_mark_iff.1 hmarks
      push Not at hmark
      obtain ⟨char, hmem, hchar⟩ := hmark
      have hlast : (assetFolder.toList ++ (stem ++ ".pdf".toList)).getLast? = some 'f' := by
        rw [← List.append_assoc]
        simp
      exact toFilePath_parse_of_mark hmem (Bool.eq_true_of_not_eq_false hchar) hlast rfl
    rw [hthrows, Option.map_none]
    exact iff_of_false (Option.some_ne_none file).symm fun hplain => hmarks hplain.1

theorem notMem_of_pathSegment {segment decoded : List Char}
    (hdecoded : pathSegment segment = some decoded) : '/' ∉ decoded := by
  obtain ⟨-, hslash⟩ := Option.filter_eq_some_iff.1 hdecoded
  exact of_decide_eq_true hslash

/-- The extension adds nothing that the decoder would change. -/
theorem decodeComponent_append_pdf {stem : List Char} :
    decodeComponent (stem ++ ".pdf".toList) = some (stem ++ ".pdf".toList) ↔
      ¬HasEscape stem ∧ stem.head? ≠ some byteOrderMark := by
  have hescape : HasEscape (stem ++ ".pdf".toList) ↔ HasEscape stem := by
    refine (hasEscape_append_cons_iff (by decide) (by decide)).trans (or_iff_left ?_)
    exact not_hasEscape_of_notMem (by decide)
  rw [decodeComponent_eq_self_iff, hescape]
  apply and_congr_right
  intro _
  cases stem with
  | nil => exact iff_of_true (by decide) (by decide)
  | cons char rest => exact Iff.rfl

/-- The path that was saved is opened if it lies in the fixed folder and its last
part is read as it is. -/
theorem openPath_eq_iff {before stem : List Char} {path : String} (hslash : '/' ∉ stem)
    (hpath : path.toList = before ++ '/' :: (stem ++ ".pdf".toList)) :
    openPath path = .pdfPage path ↔
      before ++ ['/'] = assetFolder.toList ∧ PlainName stem := by
  have hname : '/' ∉ stem ++ ".pdf".toList := List.not_mem_append hslash (by decide)
  have hlast : afterLast '/' path.toList = stem ++ ".pdf".toList := by
    rw [hpath, afterLast_append_cons, afterLast_of_notMem hname]
  have hopen : openPath path = .pdfPage path ↔
      fromAsset assetFolder (String.ofList (stem ++ ".pdf".toList)) = some path := by
    rw [openPath, hlast]
    cases fromAsset assetFolder (String.ofList (stem ++ ".pdf".toList)) with
    | none => simp
    | some file => simp
  rw [hopen, fromAsset_eq_some_iff hslash, hpath]
  constructor
  · rintro ⟨hmarks, decoded, hdecoded, heq⟩
    have hdecodedSlash := notMem_of_pathSegment hdecoded
    -- Both sides are cut at their last slash.
    have hsame := congrArg (afterLast '/') heq
    rw [toList_assetFolder, List.append_assoc, List.singleton_append, afterLast_append_cons,
      afterLast_append_cons, afterLast_of_notMem hname,
      afterLast_of_notMem hdecodedSlash] at hsame
    subst hsame
    obtain ⟨hescape, hmark⟩ :=
      decodeComponent_append_pdf.1 (Option.filter_eq_some_iff.1 hdecoded).1
    refine ⟨?_, hslash, hmarks, hescape, hmark⟩
    apply @List.append_cancel_right _ _ (stem ++ ".pdf".toList)
    rw [List.append_assoc, List.singleton_append, heq]
  · rintro ⟨hbefore, hplain⟩
    have hdecoded := decodeComponent_append_pdf.2 ⟨hplain.no_escape, hplain.no_byteOrderMark⟩
    refine ⟨hplain.no_mark, stem ++ ".pdf".toList, ?_, ?_⟩
    · rw [pathSegment, hdecoded, Option.filter_some, if_pos (decide_eq_true hname)]
    · rw [← hbefore, List.append_assoc, List.singleton_append]

theorem toList_pdfPath (platform : Platform) (directory title : String) :
    (pdfPath platform directory title).toList =
      (saveFolder platform directory).toList ++
        '/' :: ((bookName title).toList ++ ".pdf".toList) := by
  cases platform with
  | ios => simp [pdfPath, savePath, saveFolder, Extension.text]
  | android => simp [pdfPath, savePath, saveFolder, Extension.text]

theorem afterLast_dot_pdfPath (platform : Platform) (directory title : String) :
    afterLast '.' (pdfPath platform directory title).toList = "pdf".toList :=
  afterLast_savePath platform directory .pdf (bookName title)

section Record

variable (platform : Platform) (directory : String) (book : Book) (body : List UInt8)
  (size : String) (key : JsonValue)

theorem storedPath_savedRecord :
    storedPath (savedRecord platform directory book body size key) =
      some (pdfPath platform directory book.title) :=
  storedPath_downloadRecord (pdfPath platform directory book.title)
    (request book body size key)

theorem lookup_id_savedRecord :
    (savedRecord platform directory book body size key).lookup "id" =
      some (.string (idString book.id)) :=
  lookup_id_downloadRecord (pdfPath platform directory book.title)
    (request book body size key)

/-- Both pages read the recorded path. -/
theorem opens_savedRecord (opener : Opener) (others : List DartMap) :
    opener.opens book.id (savedRecord platform directory book body size key) others =
      openPath (pdfPath platform directory book.title) := by
  cases opener with
  | ebookDetail =>
      have hid := selects_string_iff.2
        (lookup_id_savedRecord platform directory book body size key)
      rw [Opener.opens, openEbookPdf, getDownload, List.filter_cons_of_pos hid]
      simp only [storedPath_savedRecord]
  | ebookDownloadPage =>
      rw [Opener.opens, onTap, storedPath_savedRecord]
      exact if_pos (afterLast_dot_pdfPath platform directory book.title)

/-- A run of `startDownloadPdf` to its end records this. -/
theorem downloads_startDownloadPdf {Node : Type*} [DecidableEq Node]
    (resolve : String → Node) {writable : Node → Bool}
    (hwritable : writable (resolve (pdfPath platform directory book.title)) = true)
    (hbody : body ≠ []) (before : Device Node) :
    ((startDownloadPdf resolve writable platform directory (request book body size key)
        before).foldl
      (perform resolve (pdfPath platform directory book.title)
        (request book body size key)) before).downloads =
      before.downloads ++ [savedRecord platform directory book body size key] := by
  rw [pdfPath] at hwritable
  have hrecorded := @startDownloadAs_recorded _ _ resolve
    (pdfPath platform directory book.title) (request book body size key) before .pdf
    platform directory writable hwritable hbody
  exact hrecorded.downloads_eq

end Record

/-- A name with a slash is never opened where it was saved: it has no blank, and so
it does not name the fixed folder. -/
theorem openPath_ne_of_slash {platform : Platform} {directory title : String}
    (hslash : '/' ∈ (bookName title).toList) :
    openPath (pdfPath platform directory title) ≠
      .pdfPage (pdfPath platform directory title) := by
  obtain ⟨before, hname⟩ := append_cons_afterLast hslash
  have hpath : (pdfPath platform directory title).toList =
      ((saveFolder platform directory).toList ++ '/' :: before) ++
        '/' :: (afterLast '/' (bookName title).toList ++ ".pdf".toList) := calc
    (pdfPath platform directory title).toList
        = (saveFolder platform directory).toList ++
            '/' :: ((bookName title).toList ++ ".pdf".toList) :=
          toList_pdfPath platform directory title
    _ = (saveFolder platform directory).toList ++
            '/' :: ((before ++ '/' :: afterLast '/' (bookName title).toList) ++
              ".pdf".toList) := by rw [← hname]
    _ = ((saveFolder platform directory).toList ++ '/' :: before) ++
            '/' :: (afterLast '/' (bookName title).toList ++ ".pdf".toList) := by simp
  rw [Ne, openPath_eq_iff (notMem_afterLast '/' _) hpath]
  rintro ⟨hfolder, -⟩
  have hread : (saveFolder platform directory).toList ++ '/' :: before =
      "/storage/emulated/0".toList ++ '/' :: "Live by Quran".toList := by
    apply @List.append_cancel_right _ _ ['/']
    rw [hfolder]
    simp [assetFolder]
  have hlast := congrArg (afterLast '/') hread
  rw [afterLast_append_cons, afterLast_append_cons] at hlast
  have hblank : ' ' ∈ afterLast '/' before := by
    rw [hlast]
    decide
  apply space_notMem_bookName title
  rw [hname]
  exact List.mem_append_left _ (mem_of_mem_afterLast hblank)

/-- A PDF is opened where it was saved exactly if that is in the fixed folder and its
name is read as it is. -/
theorem opens_savedRecord_iff (opener : Opener) (platform : Platform)
    (directory : String) (book : Book) (body : List UInt8) (size : String)
    (key : JsonValue) (others : List DartMap) :
    opener.opens book.id (savedRecord platform directory book body size key) others =
        .pdfPage (pdfPath platform directory book.title) ↔
      saveFolder platform directory = "/storage/emulated/0/Live by Quran" ∧
        PlainName (bookName book.title).toList := by
  rw [opens_savedRecord]
  by_cases hslash : '/' ∈ (bookName book.title).toList
  · exact iff_of_false (openPath_ne_of_slash hslash) fun hplain =>
      hplain.2.no_slash hslash
  · rw [openPath_eq_iff hslash (toList_pdfPath platform directory book.title)]
    apply and_congr_left
    intro _
    rw [toList_assetFolder, List.append_left_inj, String.toList_inj]

def faithBook : Book :=
  ⟨7, some 1, "What is faith?", "7.png", "http://host/7.pdf"⟩

def filesDirectory : String :=
  "/storage/emulated/0/Android/data/com.smart.live_by_quran/files"

/-- Android saves to the fixed folder, but the question mark of the title starts a
query. -/
theorem question_mark_throws :
    Opener.ebookDetail.opens faithBook.id
        (savedRecord .android filesDirectory faithBook [37, 80, 68, 70] "4.0 Bytes"
          (.int 1)) [] ≠
      .pdfPage (pdfPath .android filesDirectory faithBook.title) := by
  rw [opens_savedRecord]
  have hthrows : openPath (pdfPath .android filesDirectory faithBook.title) = .throws := by
    decide +kernel
  rw [hthrows]
  exact nofun

end EduEbook.OpenPdf
