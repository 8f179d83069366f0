import EduEbook.Blocs.FetchBlocs

/-!
# The two ways to load random books

The BLoC of the random list and the data source behind the repository ask the
same url.  The data source decodes a body only under status 200; the BLoC never
looks at the status, so an error page that is JSON of the right shape is a list
of books for one of them and a failure for the other.
-/

namespace EduEbook.RandomPaths

open EduEbook.ApiClient
open EduEbook.BookModels
open EduEbook.Checked
open EduEbook.Decoding
open EduEbook.FetchBlocs
open EduEbook.Json
open EduEbook.Models

/-- The state of the random BLoC after a load event. -/
def randomState (toText : Thrown → String) (state : LoadState EbookModel)
    (network : Network) : LoadState EbookModel :=
  handle (Bloc.random.machine toText) state ((), network)

/-- The BLoC ends in success with exactly the lists that the data source
returns. -/
def Agree (toText : Thrown → String) (state : LoadState EbookModel)
    (network : Network) : Prop :=
  ∀ list, randomState toText state network = .success list ↔
    ApiClient.getRandom network = .ok list

theorem randomState_eq_success_iff {toText : Thrown → String}
    {state : LoadState EbookModel} {network : Network} {response : Response}
    (hreply : network (BASE_URL ++ API ++ LATEST) = .received response)
    {list : EbookResultModel} :
    randomState toText state network = .success list ↔
      ∃ json, response.body = some json ∧ EbookResultModel.fromJson json = .ok list := by
  have hdecodes : Decodes (Bloc.random.machine toText) ((), network) list ↔
      ∃ json, response.body = some json ∧
        EbookResultModel.fromJson json = .ok list := by
    constructor
    · rintro ⟨other, json, hother, hbody, hlist⟩
      cases hreply.symm.trans hother
      exact ⟨json, hbody, hlist⟩
    · rintro ⟨json, hbody, hlist⟩
      exact ⟨response, json, hreply, hbody, hlist⟩
  rw [← hdecodes]
  constructor
  · intro hsuccess
    rcases handle_cases .random state ((), network) with
      ⟨other, hother, hstate⟩ | ⟨-, hstate⟩
    · cases hstate.symm.trans hsuccess
      exact hother
    · cases hstate.symm.trans hsuccess
  · intro hlist
    exact handle_of_decodes hlist state

theorem getRandom_eq_ok_iff {network : Network} {response : Response}
    (hreply : network (BASE_URL ++ API ++ LATEST) = .received response)
    {list : EbookResultModel} :
    ApiClient.getRandom network = .ok list ↔
      response.statusCode = 200 ∧
        ∃ json, response.body = some json ∧
          EbookResultModel.fromJson json = .ok list := by
  rw [ApiClient.getRandom, getModels, bind_eq_ok_iff]
  simp only [get_eq_ok_iff, decoded_eq_ok_iff]
  constructor
  · rintro ⟨json, ⟨other, hother, hstatus, hbody⟩, hlist⟩
    cases hreply.symm.trans hother
    exact ⟨hstatus, json, hbody, hlist⟩
  · rintro ⟨hstatus, json, hbody, hlist⟩
    exact ⟨json, ⟨response, hreply, hstatus, hbody⟩, hlist⟩

/-- The two agree on a response exactly if its status is 200 or its body is not
a list of books. -/
theorem agree_iff (toText : Thrown → String) (state : LoadState EbookModel)
    (network : Network) (response : Response)
    (hreply : network (BASE_URL ++ API ++ LATEST) = .received response) :
    Agree toText state network ↔
      response.statusCode = 200 ∨
        ∀ json, response.body = some json → ¬ListShape "pdf" BookShape json := by
  rw [Agree]
  simp only [randomState_eq_success_iff hreply, getRandom_eq_ok_iff hreply,
    ← resultFromJson_accepts_iff]
  constructor
  · intro hagree
    rcases eq_or_ne response.statusCode 200 with hstatus | hstatus
    · exact Or.inl hstatus
    · refine Or.inr ?_
      rintro json hbody ⟨list, hlist⟩
      exact hstatus ((hagree list).1 ⟨json, hbody, hlist⟩).1
  · rintro (hstatus | hrejected) list
    · exact (and_iff_right hstatus).symm
    · constructor
      · rintro ⟨json, hbody, hlist⟩
        exact absurd ⟨list, hlist⟩ (hrejected json hbody)
      · rintro ⟨-, json, hbody, hlist⟩
        exact absurd ⟨list, hlist⟩ (hrejected json hbody)

/-- A server that answers every request with an empty list under a status. -/
def emptyList (statusCode : ℤ) : Network :=
  fun _ => .received ⟨statusCode, "", some (.map [("pdf", .list [])])⟩

theorem agree_status_ok : Agree noText .initial (emptyList 200) :=
  (agree_iff noText .initial (emptyList 200) _ rfl).2 (Or.inl rfl)

/-- An error page with an empty list is a success of the BLoC only. -/
theorem error_page_accepted :
    ¬∀ (state : LoadState EbookModel) (network : Network),
      Agree noText state network := by
  intro hall
  have hsuccess : randomState noText .initial (emptyList 500) = .success (some []) :=
    rfl
  have hrandom := (hall .initial (emptyList 500) (some [])).1 hsuccess
  cases hrandom

end EduEbook.RandomPaths
