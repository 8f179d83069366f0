import EduEbook.Api.ApiClient
import EduEbook.Library.FormDecoding

/-!
# The query of a search

`SearchBloc.getData` puts the text of the search bar behind `search=` as it is.
`http.get` parses the url, which escapes what may not stand in one but leaves
delimiters, plus signs and escapes alone, so that the server takes these for
something else than the text that was typed.  Texts are well formed here: half of a
surrogate pair on its own is outside the model.
-/

namespace EduEbook.SearchQuery

open EduEbook.ApiClient
open EduEbook.FormDecoding
open EduEbook.PercentEncoding

/-- The argument of `http.get` in `getData`. -/
def searchUrl (query : String) : String := BASE_URL ++ API ++ SEARCH ++ query

/-- The url of the request, after `Uri.parse`. -/
def requestedUrl (query : String) : List Char := normalize (searchUrl query).toList

/-- The parameters that the server reads. -/
def receivedParameters (query : String) : List (Option (List Char) × Option (List Char)) :=
  parameters (queryPart (requestedUrl query))

def ReceivesQuery (query : String) : Prop :=
  receivedParameters query = [(some "search".toList, some query.toList)]

/-- The url up to the question mark. -/
def endpoint : List Char := (BASE_URL ++ "api.php").toList

theorem searchUrl_toList (query : String) :
    (searchUrl query).toList =
      endpoint ++ '?' :: ("search".toList ++ '=' :: query.toList) := by
  have hstart : (BASE_URL ++ API ++ SEARCH).toList =
      endpoint ++ '?' :: ("search".toList ++ ['=']) := by decide
  rw [searchUrl, String.toList_append, hstart]
  simp

theorem plain_endpoint {char : Char} (hchar : char ∈ endpoint) : Plain char := by
  have hall : endpoint.all (fun char => decide (Plain char)) = true := by decide
  exact of_decide_eq_true (List.all_eq_true.1 hall char hchar)

theorem plain_search {char : Char} (hchar : char ∈ "search".toList) : Plain char := by
  have hall : "search".toList.all (fun char => decide (Plain char)) = true := by decide
  exact of_decide_eq_true (List.all_eq_true.1 hall char hchar)

/-- The server receives the text exactly if it has no ampersand, number sign, plus
sign or escape in it. -/
theorem receivesQuery_iff (query : String) :
    ReceivesQuery query ↔
      '&' ∉ query.toList ∧ '#' ∉ query.toList ∧ '+' ∉ query.toList ∧
        ¬HasEscape query.toList := by
  rw [ReceivesQuery, receivedParameters, requestedUrl, searchUrl_toList]
  apply parameters_eq_singleton_iff
  · exact fun char hchar => plain_endpoint hchar
  · exact fun char hchar => plain_search hchar

/-- Who searches for `c++` is sent what there is for `c` and two blanks. -/
theorem not_receivesQuery_plus :
    receivedParameters "c++" = [(some "search".toList, some "c  ".toList)] ∧
      ¬ReceivesQuery "c++" := by
  have hreceived : receivedParameters "c++" =
      [(some "search".toList, some "c  ".toList)] := by
    have hquery : queryPart (requestedUrl "c++") = "search".toList ++ '=' :: "c++".toList := by
      decide +kernel
    have hvalue : formDecode "c++".toList = some "c  ".toList :=
      formDecode_eq_some_iff.2 (by decide +kernel)
    rw [receivedParameters, hquery,
      parameters_of_notMem (fun char hchar => plain_search hchar) (by decide), hvalue]
  refine ⟨hreceived, fun hquery => ?_⟩
  have hsame := hreceived.symm.trans hquery
  exact absurd (Option.some.inj (Prod.mk.inj (List.cons.inj hsame).1).2) (by decide)

end EduEbook.SearchQuery
