import EduEbook.Api.ApiClient

/-!
# The repository

Each method of the repository awaits a method of the data source and catches
what is an `Exception`.  The client throws nothing else, but decoding a body of
another shape throws an `Error`, which passes the clause.
-/

namespace EduEbook.Repository

open EduEbook.ApiClient
open EduEbook.ApiModels
open EduEbook.BookModels
open EduEbook.Checked
open EduEbook.Decoding
open EduEbook.Json
open EduEbook.Models

structure Errors where
  msg : String
  deriving DecidableEq

/-- `Left` of errors or `Right` of a result. -/
abbrev Either (Result : Type) := Errors ⊕ Result

/-- `try { return Right(await fetch) } on Exception { return Left(..) }`. -/
def catchException {Result : Type} (message : String) :
    Except Thrown Result → Except Thrown (Either Result)
  | .ok result => .ok (.inr result)
  | .error (.error kind) => .error (.error kind)
  | .error _ => .ok (.inl ⟨message⟩)

def getTrending (network : Network) : Except Thrown (Either EbookResultModel) :=
  catchException "There is problem Get Trending" (ApiClient.getTrending network)

def getComingSoon (network : Network) : Except Thrown (Either EbookResultModel) :=
  catchException "There is problem Get Coming Soon" (ApiClient.getComingSoon network)

def getRandom (network : Network) : Except Thrown (Either EbookResultModel) :=
  catchException "There is problem Get Playing Latest" (ApiClient.getRandom network)

def getPopular (network : Network) : Except Thrown (Either EbookResultModel) :=
  catchException "There is problem Get Popular" (ApiClient.getPopular network)

def getExplores (network : Network) : Except Thrown (Either EbookResultModel) :=
  catchException "There is problem Get Explores" (ApiClient.getEbookExplores network)

def getRelated (network : Network) : Except Thrown (Either EbookResultModel) :=
  catchException "There is problem Get Explores" (ApiClient.getRelated network)

def getRatings (network : Network) :
    Except Thrown (Either (Option (List EbookRatingsModelResult))) :=
  catchException "There is problem Get Explores" (ApiClient.getRatings network)

inductive Method
  | getTrending
  | getPopular
  | getRandom
  | getComingSoon
  | getExplores
  | getRelated
  | getRatings

def Method.Entity : Method → Type
  | .getRatings => EbookRatingsModelResult
  | _ => EbookModel

def Method.call : (method : Method) → Network →
    Except Thrown (Either (Option (List method.Entity)))
  | .getTrending => Repository.getTrending
  | .getPopular => Repository.getPopular
  | .getRandom => Repository.getRandom
  | .getComingSoon => Repository.getComingSoon
  | .getExplores => Repository.getExplores
  | .getRelated => Repository.getRelated
  | .getRatings => Repository.getRatings

/-- The path that the method's data source asks for. -/
def Method.path : Method → String
  | .getTrending => PDF
  | .getPopular => POPULAR
  | .getRandom => LATEST
  | .getComingSoon => COMING_SOON
  | .getExplores => EXPLORES
  | .getRelated => LATEST
  | .getRatings => SHOW_RATINGS

def Method.fromJson : (method : Method) → JsonValue →
    Except ErrorKind (Option (List method.Entity))
  | .getTrending => EbookResultModel.fromJson
  | .getPopular => EbookResultModel.fromJson
  | .getRandom => EbookResultModel.fromJson
  | .getComingSoon => EbookResultModel.fromJson
  | .getExplores => EbookResultModel.fromJson
  | .getRelated => EbookResultModel.fromJson
  | .getRatings => EbookRatingsModel.fromJson

/-- The elements that the method's model decodes. -/
def Method.Shape : Method → JsonValue → Prop
  | .getRatings => RatingShape
  | _ => BookShape

theorem call_eq (method : Method) (network : Network) :
    ∃ message, method.call network =
      catchException message (getModels method.fromJson method.path network) := by
  cases method <;> exact ⟨_, rfl⟩

theorem fromJson_accepts_iff {method : Method} {json : JsonValue} :
    (∃ result, method.fromJson json = .ok result) ↔
      ListShape "pdf" method.Shape json := by
  cases method with
  | getRatings => exact listFromJson_accepts_iff fun _ => ratingShape_iff
  | _ => exact resultFromJson_accepts_iff

/-- The result is `Right` of the decoded list where the request and the decoding
succeed, and `Left` everywhere else. -/
def FailsToLeft (method : Method) (network : Network) : Prop :=
  (∀ json list, get network method.path = .ok json →
      method.fromJson json = .ok list → method.call network = .ok (.inr list)) ∧
    ((¬∃ json list, get network method.path = .ok json ∧
        method.fromJson json = .ok list) →
      ∃ errors, method.call network = .ok (.inl errors))

/-- The one failure that is no exception is that of the decoding. -/
theorem call_of_get {method : Method} {network : Network} {json : JsonValue}
    (hget : get network method.path = .ok json) :
    (∃ list, method.fromJson json = .ok list ∧
        method.call network = .ok (.inr list)) ∨
      ∃ kind, method.fromJson json = .error kind ∧
        method.call network = .error (.error kind) := by
  obtain ⟨message, hcall⟩ := call_eq method network
  have hmodels : getModels method.fromJson method.path network =
      decoded (method.fromJson json) := by
    rw [getModels, hget]
    rfl
  rw [hmodels] at hcall
  cases hjson : method.fromJson json with
  | ok list =>
      rw [hjson] at hcall
      exact Or.inl ⟨list, rfl, hcall⟩
  | error kind =>
      rw [hjson] at hcall
      exact Or.inr ⟨kind, rfl, hcall⟩

theorem call_of_get_error {method : Method} {network : Network} {thrown : Thrown}
    (hget : get network method.path = .error thrown) :
    ∃ errors, method.call network = .ok (.inl errors) := by
  obtain ⟨message, hcall⟩ := call_eq method network
  have hmodels : getModels method.fromJson method.path network = .error thrown := by
    rw [getModels, hget]
    rfl
  rw [hcall, hmodels]
  cases thrown with
  | error kind => exact absurd hget get_not_error
  | _ => exact ⟨⟨message⟩, rfl⟩

/-- A method turns its failures into `Left` unless a response of status 200
carries JSON of another shape. -/
theorem failsToLeft_iff (method : Method) (network : Network) :
    FailsToLeft method network ↔
      ∀ response json,
        network (BASE_URL ++ API ++ method.path) = .received response →
        response.statusCode = 200 → response.body = some json →
          ListShape "pdf" method.Shape json := by
  have hshape : (∀ json, get network method.path = .ok json →
        ListShape "pdf" method.Shape json) ↔
      ∀ response json,
        network (BASE_URL ++ API ++ method.path) = .received response →
        response.statusCode = 200 → response.body = some json →
          ListShape "pdf" method.Shape json := by
    simp only [get_eq_ok_iff]
    constructor
    · intro hall response json hreply hstatus hbody
      exact hall json ⟨response, hreply, hstatus, hbody⟩
    · rintro hall json ⟨response, hreply, hstatus, hbody⟩
      exact hall response json hreply hstatus hbody
  rw [← hshape]
  constructor
  · rintro ⟨-, hfails⟩ json hget
    rcases call_of_get hget with ⟨list, hlist, -⟩ | ⟨kind, hkind, hcall⟩
    · exact fromJson_accepts_iff.1 ⟨list, hlist⟩
    · obtain ⟨errors, herrors⟩ := hfails (by
        rintro ⟨other, list, hother, hlist⟩
        rw [hget] at hother
        cases hother
        rw [hkind] at hlist
        cases hlist)
      rw [hcall] at herrors
      cases herrors
  · intro hall
    constructor
    · intro json list hget hlist
      rcases call_of_get hget with ⟨other, hother, hcall⟩ | ⟨kind, hkind, -⟩
      · rw [hlist] at hother
        cases hother
        exact hcall
      · rw [hlist] at hkind
        cases hkind
    · intro hfails
      cases hget : get network method.path with
      | error thrown => exact call_of_get_error hget
      | ok json =>
          obtain ⟨list, hlist⟩ := fromJson_accepts_iff.2 (hall json hget)
          exact absurd ⟨json, list, hget, hlist⟩ hfails

/-- A server that answers every request with one body. -/
def answering (body : JsonValue) : Network :=
  fun _ => .received ⟨200, "OK", some body⟩

/-- A body that is JSON, with a number where the list should be. -/
theorem number_for_list_throws :
    ¬∀ (method : Method) (network : Network), FailsToLeft method network := by
  intro hall
  obtain ⟨errors, herrors⟩ :=
    (hall .getTrending (answering (.map [("pdf", .int 1)]))).2 (by
      rintro ⟨json, list, hget, hlist⟩
      cases hget
      cases hlist)
  cases herrors

end EduEbook.Repository
