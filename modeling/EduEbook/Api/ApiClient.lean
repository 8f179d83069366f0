import EduEbook.Models.ApiModels
import EduEbook.Models.BookModels

/-!
# Requests and their responses

A request ends in an exception of the client or in a response, whose body is
JSON or is not.  `ApiClient.get` tests the status before it decodes the body;
the data source then decodes what it returns to a list of models.
-/

namespace EduEbook.ApiClient

open EduEbook.ApiModels
open EduEbook.BookModels
open EduEbook.Checked
open EduEbook.Decoding
open EduEbook.Json
open EduEbook.Models

/-- What a `throw` carries: one of the classes that implement `Exception`, or an
`Error`. -/
inductive Thrown
  | transportException
  | formatException
  | exception (message : String)
  | error (kind : ErrorKind)

/-- `body` is what `jsonDecode` makes of the text of the body, and none when it
throws a `FormatException`. -/
structure Response where
  statusCode : ℤ
  reasonPhrase : String
  body : Option JsonValue

inductive Reply
  | failed
  | received (response : Response)

/-- The reply to the request for each url. -/
abbrev Network := String → Reply

def BASE_URL : String := "https://ebook.smartmedia-kw.com/"
def API : String := "api.php?"
def PDF : String := "pdf"
def POPULAR : String := "popular"
def COMING_SOON : String := "coming"
def LATEST : String := "random"
def EXPLORES : String := "explores"
def SHOW_RATINGS : String := "global_ratings="
def SEARCH : String := "search="
def PURCHASED : String := "purchased="
def EBOOKBYCAT : String := "ebook_by_cat="
def SHOW_CC : String := "credit_card="

/-- `http.get(url)`. -/
def httpGet (network : Network) (url : String) : Except Thrown Response :=
  match network url with
  | .failed => .error .transportException
  | .received response => .ok response

def jsonDecode (response : Response) : Except Thrown JsonValue :=
  match response.body with
  | some json => .ok json
  | none => .error .formatException

def get (network : Network) (path : String) : Except Thrown JsonValue := do
  let response ← httpGet network (BASE_URL ++ API ++ path)
  if response.statusCode = 200 then jsonDecode response
  else .error (.exception response.reasonPhrase)

/-- Run a `fromJson`, which throws errors only. -/
def decoded {Result : Type} (result : Except ErrorKind Result) : Except Thrown Result :=
  result.mapError .error

/-- The body of each method of the data source. -/
def getModels {Result : Type} (fromJson : JsonValue → Except ErrorKind Result)
    (path : String) (network : Network) : Except Thrown Result := do
  let response ← get network path
  decoded (fromJson response)

def getTrending : Network → Except Thrown EbookResultModel :=
  getModels EbookResultModel.fromJson PDF

def getPopular : Network → Except Thrown EbookResultModel :=
  getModels EbookResultModel.fromJson POPULAR

def getComingSoon : Network → Except Thrown EbookResultModel :=
  getModels EbookResultModel.fromJson COMING_SOON

def getRandom : Network → Except Thrown EbookResultModel :=
  getModels EbookResultModel.fromJson LATEST

def getEbookExplores : Network → Except Thrown EbookResultModel :=
  getModels EbookResultModel.fromJson EXPLORES

def getRelated : Network → Except Thrown EbookResultModel :=
  getModels EbookResultModel.fromJson LATEST

def getRatings :
    Network → Except Thrown (Option (List EbookRatingsModelResult)) :=
  getModels EbookRatingsModel.fromJson SHOW_RATINGS

theorem jsonDecode_eq_ok_iff {response : Response} {json : JsonValue} :
    jsonDecode response = .ok json ↔ response.body = some json := by
  rw [jsonDecode]
  cases response.body with
  | none => simp
  | some other => simp

theorem decoded_eq_ok_iff {Result : Type} {result : Except ErrorKind Result}
    {value : Result} : decoded result = .ok value ↔ result = .ok value := by
  cases result with
  | error kind => simp [decoded, Except.mapError]
  | ok other => simp [decoded, Except.mapError]

theorem httpGet_eq_ok_iff {network : Network} {url : String} {response : Response} :
    httpGet network url = .ok response ↔ network url = .received response := by
  rw [httpGet]
  cases network url with
  | failed => simp
  | received other => simp

/-- The request returns JSON exactly if the response has status 200 and a JSON
body. -/
theorem get_eq_ok_iff {network : Network} {path : String} {json : JsonValue} :
    get network path = .ok json ↔
      ∃ response, network (BASE_URL ++ API ++ path) = .received response ∧
        response.statusCode = 200 ∧ response.body = some json := by
  rw [get, bind_eq_ok_iff]
  simp only [httpGet_eq_ok_iff]
  apply exists_congr
  intro response
  apply and_congr_right
  intro _
  by_cases hstatus : response.statusCode = 200
  · rw [if_pos hstatus, jsonDecode_eq_ok_iff]
    exact (and_iff_right hstatus).symm
  · rw [if_neg hstatus]
    constructor
    · intro h
      cases h
    · rintro ⟨h, -⟩
      exact absurd h hstatus

/-- The client throws exceptions only. -/
theorem get_not_error {network : Network} {path : String} {kind : ErrorKind} :
    get network path ≠ .error (.error kind) := by
  rw [get, httpGet]
  cases network (BASE_URL ++ API ++ path) with
  | failed =>
      intro h
      cases h
  | received response =>
      change (if response.statusCode = 200 then jsonDecode response
        else .error (.exception response.reasonPhrase)) ≠ _
      rw [jsonDecode]
      intro h
      split at h
      · split at h <;> cases h
      · cases h

end EduEbook.ApiClient
